import IspBss.Fup.Commands

/-! `sendReliableControl`, octet by octet.

        dial ─▶ set deadline ─▶ encode ─▶ write ─▶ read one datagram ─▶ parse ─▶ its code
          └──────────┴────────────┴─────────┴────────────┴─────────────────┴──▶ error

    The first datagram that arrives decides. Of what it says, the code is compared with the
    acknowledgement expected; its identifier and its authenticator are not looked at.

    The packets themselves are the RADIUS library's. It is a parameter here, with what is assumed of it as
    fields. -/

namespace IspBss.Fup

/-- Sixteen octets. -/
abbrev Authenticator := { b : List UInt8 // b.length = 16 }

/-- The octets of a packet without attributes: code, identifier, length and authenticator. -/
def header (code identifier : UInt8) (a : Authenticator) : List UInt8 := [code, identifier, 0, 20] ++ a.1

/-- The RADIUS library. -/
structure RadiusLib where
  Packet : Type
  /-- A packet with the identifier and the authenticator that chance gives it. -/
  New : (identifier : UInt8) → Authenticator → (code : UInt8) → (secret : List UInt8) → Packet
  Set : Packet → (typ : UInt8) → List UInt8 → Packet
  Add : Packet → (typ : UInt8) → List UInt8 → Packet
  Code : Packet → UInt8
  Identifier : Packet → UInt8
  Encode : Packet → Except String (List UInt8)
  Parse : List UInt8 → (secret : List UInt8) → Except String Packet
  IsAuthenticResponse : (response request secret : List UInt8) → Bool
  /-- A header is a packet, whatever its authenticator: parsing decodes the structure only. -/
  parse_header : ∀ code identifier a secret, ∃ p, Parse (header code identifier a) secret = .ok p ∧
    Code p = code ∧ Identifier p = identifier
  /-- The rest of a response, the request and the secret determine its authenticator. -/
  authentic_unique : ∀ code identifier a a' request secret,
    IsAuthenticResponse (header code identifier a) request secret = true →
    IsAuthenticResponse (header code identifier a') request secret = true → a = a'

/-- How the network treats one exchange: the errors of its calls, and the datagram that is read. -/
structure Exchange where
  dial : Option String
  setDeadline : Option String
  write : Option String
  read : Except String (List UInt8)

inductive ControlErr where
  | dial (nasIP err : String)
  | setDeadline (err : String)
  | encode (err : String)
  | write (err : String)
  | awaitResponse (nasIP err : String)
  | parse (err : String)
  | nak (code : UInt8) (nasIP : String)
  deriving DecidableEq

/-- The size of the buffer a datagram is read into. -/
def readBuffer : ℕ := 4096

def CodeDisconnectRequest : UInt8 := 40
def CodeDisconnectACK : UInt8 := 41
def CodeCoARequest : UInt8 := 43
def CodeCoAACK : UInt8 := 44

namespace Wire

variable (L : RadiusLib) (net : Exchange)

/-- Send a control packet and wait for the acknowledgement. -/
def sendReliableControl (nasIP : String) (secret : List UInt8) (pkt : L.Packet) (ackCode : UInt8) :
    Except ControlErr Unit :=
  match net.dial, net.setDeadline, L.Encode pkt, net.write, net.read with
  | some err, _, _, _, _ => .error (.dial nasIP err)
  | none, some err, _, _, _ => .error (.setDeadline err)
  | none, none, .error err, _, _ => .error (.encode err)
  | none, none, .ok _, some err, _ => .error (.write err)
  | none, none, .ok _, none, .error err => .error (.awaitResponse nasIP err)
  | none, none, .ok _, none, .ok datagram =>
    match L.Parse (datagram.take readBuffer) secret with
    | .error err => .error (.parse err)
    | .ok response =>
      if L.Code response ≠ ackCode then .error (.nak (L.Code response) nasIP) else .ok ()

/-- A request for the session named in its Acct-Session-Id. -/
def request (code identifier : UInt8) (authenticator : Authenticator) (sessionID : String)
    (attrs : List Nas.Attr) (secret : List UInt8) : L.Packet :=
  attrs.foldl (fun pkt a => L.Add pkt a.typ a.value)
    (L.Set (L.New identifier authenticator code secret) 44 (bytes sessionID))

variable (identifier : UInt8) (authenticator : Authenticator) (nasIP sessionID : String)

def SendReliableCoA (attrs : List Nas.Attr) (secret : List UInt8) : Except ControlErr Unit :=
  sendReliableControl L net nasIP secret
    (request L CodeCoARequest identifier authenticator sessionID attrs secret) CodeCoAACK

def SendReliablePoD (secret : List UInt8) : Except ControlErr Unit :=
  sendReliableControl L net nasIP secret
    (request L CodeDisconnectRequest identifier authenticator sessionID [] secret) CodeDisconnectACK

end Wire

/-! ### The packets of the handlers on the wire -/

/-- What chance and the network do to each packet a handler sends. -/
structure Wire where
  identifier : ControlPacket → UInt8
  authenticator : ControlPacket → Authenticator
  exchange : ControlPacket → Exchange

def ControlCode.ackCode : ControlCode → UInt8
  | .coaRequest => CodeCoAACK
  | .disconnectRequest => CodeDisconnectACK

namespace Wire

variable (L : RadiusLib) (x : Wire) (p : ControlPacket)

/-- The packet of a handler, sent. A Disconnect-Request names its session and nothing else. -/
def send : Except ControlErr Unit :=
  match p.code with
  | .coaRequest =>
    SendReliableCoA L (x.exchange p) (x.identifier p) (x.authenticator p) p.nasIP p.sessionID p.attrs
      p.secret
  | .disconnectRequest =>
    SendReliablePoD L (x.exchange p) (x.identifier p) (x.authenticator p) p.nasIP p.sessionID p.secret

/-- What a handler takes an exchange for. -/
def reply : ControlReply :=
  match x.send L p with
  | .ok () => .ack
  | .error (.nak _ _) => .nak
  | .error (.awaitResponse _ _) | .error (.parse _) => .silent
  | .error _ => .unsent

end Wire

end IspBss.Fup
