import IspBss.Fup.Control
import IspBss.Props.EnforcementReach

/-! Does only the NAS's answer to this request complete a CoA or PoD task?

    What is accepted is any datagram that parses and has the code of the acknowledgement:

        CoA-Request id 2 ──▶ NAS
                          ◀── CoA-ACK id 2, authenticator 00…     sent by somebody without the secret

    So the promise is kept for the requests that cannot be encoded, which are not sent, and for no
    other: of the headers of an acknowledgement at most one is authentic, and all are accepted. -/

namespace IspBss.Fup

open Lib Jobqueue Radius Prog List Wire CoAHandler

section
variable (L : RadiusLib)

/-- The datagram is the acknowledgement of this request by who knows the secret. -/
def Acknowledges (secret : List UInt8) (pkt : L.Packet) (ackCode : UInt8) (datagram : List UInt8) :
    Prop :=
  ∃ sent response, L.Encode pkt = .ok sent ∧ L.Parse datagram secret = .ok response ∧
    L.Code response = ackCode ∧ L.Identifier response = L.Identifier pkt ∧
    L.IsAuthenticResponse datagram sent secret = true

/-- An exchange in which everything goes through and this datagram arrives. -/
def Exchange.delivers (datagram : List UInt8) : Exchange := ⟨none, none, none, .ok datagram⟩

end

section
variable {L : RadiusLib} {nasIP : String} {secret : List UInt8} {pkt : L.Packet} {ackCode : UInt8}

/-- Success takes a request that can be encoded. -/
theorem Wire.encoded_of_ok {net : Exchange}
    (h : sendReliableControl L net nasIP secret pkt ackCode = .ok ()) :
    ∃ sent, L.Encode pkt = .ok sent := by
  unfold sendReliableControl at h
  cases hsent : L.Encode pkt with
  | ok sent => exact ⟨sent, rfl⟩
  | error err =>
    rw [hsent] at h
    rcases net with ⟨_ | err, _ | err, _, _⟩ <;> cases h

/-- The header of an acknowledgement completes a request, whatever identifier and authenticator it
    has. -/
theorem Wire.send_header {sent : List UInt8} (identifier : UInt8) (a : Authenticator)
    (hsent : L.Encode pkt = .ok sent) :
    sendReliableControl L (.delivers (header ackCode identifier a)) nasIP secret pkt ackCode =
      .ok () := by
  obtain ⟨response, hparse, hcode, -⟩ := L.parse_header ackCode identifier a secret
  have hwhole : (header ackCode identifier a).take readBuffer = header ackCode identifier a :=
    take_of_length_le (by simp [header, a.2, readBuffer])
  simp only [sendReliableControl, Exchange.delivers, hsent, hwhole, hparse, hcode, ne_eq,
    not_true_eq_false,
    if_false]

/-- Of two authenticators one is not the one that the secret gives. -/
theorem exists_unauthentic (code identifier : UInt8) (sent secret : List UInt8) :
    ∃ a, L.IsAuthenticResponse (header code identifier a) sent secret ≠ true := by
  by_contra hall
  push Not at hall
  have hsame := L.authentic_unique code identifier ⟨replicate 16 0, rfl⟩
      ⟨replicate 16 1, rfl⟩ sent secret
    (hall _) (hall _)
  exact absurd hsame (by decide)

/-- The requests whose success means an acknowledgement: those that are never sent. -/
theorem acknowledged_iff_unencodable :
    (∀ net datagram, net.read = .ok datagram →
      Wire.sendReliableControl L net nasIP secret pkt ackCode = .ok () →
      Acknowledges L secret pkt ackCode datagram) ↔ ∀ sent, L.Encode pkt ≠ .ok sent := by
  constructor
  · intro h sent hsent
    obtain ⟨a, ha⟩ := exists_unauthentic (L := L) ackCode (L.Identifier pkt) sent secret
    obtain ⟨sent', -, hsent', -, -, -, hauthentic⟩ :=
      h (.delivers (header ackCode (L.Identifier pkt) a)) _ rfl (send_header _ a hsent)
    cases hsent.symm.trans hsent'
    exact ha hauthentic
  · intro h net datagram _ hok
    obtain ⟨sent, hsent⟩ := encoded_of_ok hok
    exact absurd hsent (h sent)

end

/-! ### Tasks -/

/-- The two kinds of tasks. -/
inductive ControlTask where
  | coa | pod
  deriving DecidableEq

def ControlTask.process (json : Decoder) (h : CommandHandler) (payload : List UInt8) :
    ControlTask → CommandProg (Option TaskErr)
  | coa => CoAHandler.ProcessTask json h payload
  | pod => PoDHandler.ProcessTask json h payload

/-- Every packet is answered with the header of its acknowledgement, with this identifier and this
    authenticator. -/
def Wire.forged (x : Wire) (i : ControlPacket → UInt8) (a : ControlPacket → Authenticator) : Wire :=
  { x with exchange := fun p => .delivers (header p.code.ackCode (i p) (a p)) }

section
variable {L : RadiusLib} {x : Wire} {i : ControlPacket → UInt8} {a : ControlPacket → Authenticator}

/-- With every answer forged, a packet counts as acknowledged, or could not be encoded. -/
theorem Wire.reply_forged (p : ControlPacket) :
    (x.forged i a).reply L p = .ack ∨ (x.forged i a).reply L p = .unsent := by
  have hanswer : ∀ pkt, sendReliableControl L
      ((x.forged i a).exchange p) p.nasIP p.secret pkt p.code.ackCode =
      .ok () ∨ ∃ err, sendReliableControl L
        ((x.forged i a).exchange p) p.nasIP p.secret pkt p.code.ackCode =
        .error (.encode err) := by
    intro pkt
    cases hsent : L.Encode pkt with
    | ok sent => exact .inl (send_header (i p) (a p) hsent)
    | error err => exact .inr ⟨err, by simp [sendReliableControl, forged, Exchange.delivers, hsent]⟩
  unfold reply send
  cases hcode : p.code <;> simp only [hcode, ControlCode.ackCode] at hanswer
  · rcases hanswer (request L CodeCoARequest _ _ p.sessionID p.attrs p.secret) with h | ⟨err, h⟩
    · exact .inl (by rw [SendReliableCoA, h])
    · exact .inr (by rw [SendReliableCoA, h])
  · rcases hanswer (request L CodeDisconnectRequest _ _ p.sessionID [] p.secret) with h | ⟨err, h⟩
    · exact .inl (by rw [SendReliablePoD, h])
    · exact .inr (by rw [SendReliablePoD, h])

end

/-- A task completes exactly if it sent a packet. -/
def DoneIfSent (ctl : ControlState) (out : Option TaskErr × Network × ControlState) : Prop :=
  out.1 = none ↔ out.2.2.sent ≠ ctl.sent

section
variable {w : CommandEnv} (hreply : ∀ p, w.reply p = .ack ∨ w.reply p = .unsent)
include hreply

theorem doneIfSent_tried {p : ControlPacket} {err : Option TaskErr} (net : Network)
    (ctl : ControlState) (live : Table LiveSession) (herr : err = none ↔ w.reply p = .ack) :
    DoneIfSent ctl (err, net, ⟨(ctl.tried w p).sent, live⟩) := by
  rcases hreply p with h | h <;> simp [DoneIfSent, ControlState.tried, herr, h]

theorem Tries.doneIfSent {net : Network} {ctl : ControlState} {found : Except NetErr NASSession}
    {packet : NASSession → Option ControlPacket} {out : Option TaskErr × Network × ControlState}
    (h : Tries w net ctl found packet out) : DoneIfSent ctl out := by
  cases h with
  | refused err => simp [DoneIfSent]
  | tried sess p err live _ _ herr => exact doneIfSent_tried hreply net ctl live herr

theorem task_doneIfSent (json : Decoder) (h : CommandHandler) (payload : List UInt8)
    (task : ControlTask) (net : Network) (ctl : ControlState) :
    DoneIfSent ctl (run commandExec w (task.process json h payload) (net, ctl)) := by
  have hbad : ∀ err, DoneIfSent ctl (some err, net, ctl) := by simp [DoneIfSent]
  cases task with
  | coa =>
    rw [ControlTask.process, CoAHandler.ProcessTask]
    cases json.coa payload with
    | none => exact hbad _
    | some p => exact (push_tries w h p.subscriberID net ctl).doneIfSent hreply
  | pod =>
    rw [ControlTask.process, PoDHandler.ProcessTask]
    cases json.pod payload with
    | none => exact hbad _
    | some p =>
      dsimp only
      cases hdirect : p.direct with
      | false => exact (disconnect_tries w h hdirect net ctl).doneIfSent hreply
      | true =>
        obtain ⟨err, hrun, herr⟩ := send_run w (PoDHandler.packet h p.nasIP p.sessionID) net ctl
        rw [PoDHandler.disconnect, hdirect, if_pos rfl, hrun]
        exact doneIfSent_tried hreply net ctl _ herr

end

/-- A success of `sendReliableControl` means an acknowledgement for no request that can be encoded;
    and where every answer is forged, with whatever identifier and authenticator, each CoA or PoD
    task completes that sends its packet. -/
theorem control_success_never_acknowledged (L : RadiusLib) :
    (∀ (nasIP : String) (secret : List UInt8) (pkt : L.Packet) (ackCode : UInt8),
      (∀ net datagram, net.read = .ok datagram →
        Wire.sendReliableControl L net nasIP secret pkt ackCode = .ok () →
        Acknowledges L secret pkt ackCode datagram) ↔ ∀ sent, L.Encode pkt ≠ .ok sent) ∧
    ∀ (x : Wire) (i : ControlPacket → UInt8) (a : ControlPacket → Authenticator) (json : Decoder)
      (h : CommandHandler) (payload : List UInt8) (task : ControlTask) (w : CommandEnv)
      (net : Network) (ctl : ControlState),
      DoneIfSent ctl (Prog.run commandExec { w with reply := (x.forged i a).reply L }
        (task.process json h payload) (net, ctl)) :=
  ⟨fun _ _ _ _ => acknowledged_iff_unencodable, fun _ _ _ json h payload task _ net ctl =>
    task_doneIfSent (fun p => reply_forged p) json h payload task net ctl⟩

/-! ### An answer made up without the secret -/

/-- The sum of the octets and one, sixteen times. -/
def sumDigest (b : List UInt8) : Authenticator :=
  ⟨replicate 16 (b.foldl (· + ·) 1), length_replicate⟩

/-- A library that parses headers, with the sum of the octets for a digest. -/
def headerLib : RadiusLib where
  Packet := UInt8 × UInt8 × List UInt8 × List UInt8
  New identifier _ code secret := (code, identifier, [], secret)
  Set p typ value := (p.1, p.2.1, typ :: UInt8.ofNat (value.length + 2) :: value, p.2.2.2)
  Add p typ value := (p.1, p.2.1, p.2.2.1 ++ typ :: UInt8.ofNat (value.length + 2) :: value,
    p.2.2.2)
  Code p := p.1
  Identifier p := p.2.1
  Encode p :=
    let b := [p.1, p.2.1, 0, UInt8.ofNat (20 + p.2.2.1.length)]
    .ok (b ++ (sumDigest (b ++ p.2.2.1 ++ p.2.2.2)).1 ++ p.2.2.1)
  Parse b secret :=
    if b.length = 20 then .ok (b.getD 0 0, b.getD 1 0, [], secret) else .error "short"
  IsAuthenticResponse b request secret :=
    b.drop 4 = (sumDigest (b.take 4 ++ (request.drop 4).take 16 ++ secret)).1
  parse_header code identifier a secret := by simp [header, a.2]
  authentic_unique code identifier a a' request secret h h' := by
    have ha := of_decide_eq_true h
    have ha' := of_decide_eq_true h'
    simp only [header, cons_append, nil_append, drop_succ_cons, drop_zero, take_succ_cons,
      take_zero] at ha ha'
    exact Subtype.ext (ha.trans ha'.symm)

/-- Sixteen zeros. -/
def nul : Authenticator := ⟨replicate 16 0, rfl⟩

/-- A CoA-ACK with the identifier of the request, and zeros where the authenticator belongs,
    completes a CoA for session `s1`. -/
theorem unauthentic_answer_accepted :
    SendReliableCoA headerLib (.delivers (header CodeCoAACK 2 nul)) 2 nul "10.0.0.1" "s1" [] [7] =
      .ok () ∧
    ¬ Acknowledges headerLib [7] (request headerLib CodeCoARequest 2 nul "s1" [] [7]) CodeCoAACK
      (header CodeCoAACK 2 nul) := by
  refine ⟨by decide +kernel, ?_⟩
  rintro ⟨sent, -, hsent, -, -, -, hauthentic⟩
  cases hsent
  exact absurd hauthentic (by decide +kernel)

end IspBss.Fup
