import IspBss.Api.SessionControl
import IspBss.Fup.Scanner
import IspBss.Nas.Vendors

/-! `fup.CoAHandler` and `fup.PoDHandler`: the tasks that talk to a NAS.

        CoA task ─▶ GetSubscriberNASSession ─▶ BuildCoAAttrs ─▶ CoA-Request ─▶ live_sessions
        PoD task ─▶ GetSubscriberNASSession ─▶ Disconnect-Request
                 └▶ session named in the payload ─▶ Disconnect-Request

    The session is looked up when the task runs, not when it was queued. A packet that is not
    acknowledged is an error, and the queue runs the task again. -/

namespace IspBss.Fup

open Lib Jobqueue Radius Nas

/-! ### Payloads -/

def TaskTypePoD : String := "network:pod_send"

/-- `CoAPayload`. -/
structure CoAPayload where
  subscriberID : ℤ
  nasIP : String
  deriving DecidableEq

/-- `PoDPayload`; what is zero or empty is not written. -/
structure PoDPayload where
  subscriberID : ℤ
  nasIP : String
  sessionID : String
  deriving DecidableEq

/-- The payload names its own session. -/
def PoDPayload.direct (p : PoDPayload) : Bool := p.nasIP ≠ "" ∧ p.sessionID ≠ ""

/-- `json.Marshal` of a `CoAPayload`. -/
def CoAPayload.marshal (p : CoAPayload) : List UInt8 :=
  bytes ("\x7b\"subscriber_id\":" ++ p.subscriberID.repr ++ ",\"nas_ip\":" ++
    quoted jsonChar p.nasIP ++ "\x7d")

/-- `json.Marshal` of a `PoDPayload`. -/
def PoDPayload.marshal (p : PoDPayload) : List UInt8 :=
  let fields := (if p.subscriberID = 0 then [] else ["\"subscriber_id\":" ++ p.subscriberID.repr]) ++
    (if p.nasIP = "" then [] else ["\"nas_ip\":" ++ quoted jsonChar p.nasIP]) ++
    (if p.sessionID = "" then [] else ["\"session_id\":" ++ quoted jsonChar p.sessionID])
  bytes ("\x7b" ++ String.intercalate "," fields ++ "\x7d")

/-- `json.Unmarshal` into the two payloads. -/
structure Decoder where
  coa : List UInt8 → Option CoAPayload
  pod : List UInt8 → Option PoDPayload

/-- The subscriber that the scanner or the API has written is the one that is read. The scanner puts the
    address into its text as it is, which is JSON for an address that needs no escapes. -/
structure Decoder.Faithful (json : Decoder) : Prop where
  coa : ∀ id nasIP, (∀ c ∈ nasIP.toList, jsonChar c = c.toString) →
    (json.coa (coaPayload id nasIP)).map CoAPayload.subscriberID = some id
  coa_marshal : ∀ p : CoAPayload, (json.coa p.marshal).map CoAPayload.subscriberID = some p.subscriberID
  pod_marshal : ∀ id, json.pod (PoDPayload.marshal ⟨id, "", ""⟩) = some ⟨id, "", ""⟩

/-! ### Packets -/

inductive ControlCode where
  | coaRequest | disconnectRequest
  deriving DecidableEq

/-- A control packet to a NAS; the session is its Acct-Session-Id. -/
structure ControlPacket where
  code : ControlCode
  nasIP : String
  port : ℕ
  secret : List UInt8
  sessionID : String
  attrs : List Attr
  deriving DecidableEq

/-- What became of a packet: acknowledged, refused, not answered, or never sent. -/
inductive ControlReply where
  | ack | nak | silent | unsent
  deriving DecidableEq

inductive ControlCall where
  | send (p : ControlPacket)
  | updateSpeedProfile (sessionID rateLimit : String)
  deriving DecidableEq

@[reducible] def ControlCall.Resp : ControlCall → Type
  | send _ => ControlReply
  | updateSpeedProfile _ _ => Bool

@[reducible] def controlSig : Sig := ⟨ControlCall, ControlCall.Resp⟩

/-- The packets sent so far, and `live_sessions`. -/
structure ControlState where
  sent : List ControlPacket
  live : Table LiveSession

/-- What a step of a handler is taken in. -/
structure CommandEnv where
  net : NetEnv
  reply : ControlPacket → ControlReply
  liveFails : Bool

/-- `UpdateSpeedProfile`: the rows of a session count as fresh again. -/
def touch (sessionID : String) (now : Time) (live : Table LiveSession) : Table LiveSession :=
  Rows.updateWhere live (fun _ r => r.sessionID = sessionID) fun r => { r with updatedAt := now }

def controlExec : Store controlSig CommandEnv ControlState
  | e, .send p, s =>
    (e.reply p, if e.reply p = .unsent then s else { s with sent := s.sent ++ [p] })
  | e, .updateSpeedProfile sessionID _, s =>
    if e.liveFails then (false, s)
    else (true, { s with live := touch sessionID e.net.now s.live })

/-- The calls of the network's tables and those of a handler's own. -/
@[reducible] def commandSig : Sig := netSig.sum controlSig

def commandExec : Store commandSig CommandEnv (Network × ControlState) :=
  Store.beside (fun e => netExec e.net) controlExec

abbrev CommandProg := Prog commandSig

/-! ### The handlers -/

def DefaultCoAPort : ℕ := 1700

/-- What both handlers are set up with. -/
structure CommandHandler where
  secret : List UInt8
  port : ℕ
  nasResolver : Option Resolver
  liveSessions : Bool

/-- Secret and port without a resolver. -/
def CommandHandler.effectivePort (h : CommandHandler) : ℕ := if h.port = 0 then DefaultCoAPort else h.port

def nasSession (subscriberID : ℤ) : CommandProg (Except NetErr NASSession) :=
  Prog.perform (S := commandSig) (.inl (.stmt (.getSubscriberNASSession subscriberID)))

/-- `sendReliableControl`: anything but the matching acknowledgement is an error. -/
def sendReliableControl (p : ControlPacket) : CommandProg (Option TaskErr) := do
  match ← Prog.perform (S := commandSig) (.inr (.send p)) with
  | .ack => return none
  | .nak => return some ⟨"radius control: NAK received from " ++ p.nasIP ++ " (will retry)", false⟩
  | .silent => return some ⟨"radius control: await response from " ++ p.nasIP, false⟩
  | .unsent => return some ⟨"radius control: dial " ++ p.nasIP, false⟩

namespace CoAHandler

/-- The attributes for a session: its rate, or the policy of its plan. -/
def attrs (h : CommandHandler) (sess : NASSession) : Except BuildErr (List Attr) :=
  let (vendor, profileName) := profileAt h.nasResolver sess.nasIP sess.planID
  BuildCoAAttrs vendor ⟨sess.rateLimit, profileName⟩

def packet (h : CommandHandler) (sess : NASSession) (attrs : List Attr) : ControlPacket where
  code := .coaRequest
  nasIP := sess.nasIP
  port := match h.nasResolver with
    | none => h.effectivePort
    | some r => (r.Resolve sess.nasIP).coaPort
  secret := match h.nasResolver with
    | none => h.secret
    | some r => (r.Resolve sess.nasIP).secret
  sessionID := sess.sessionID
  attrs := attrs

/-- The rate of the session a subscriber has now. -/
def push (h : CommandHandler) (subscriberID : ℤ) : CommandProg (Option TaskErr) := do
  match ← nasSession subscriberID with
  | .error _ => return some ⟨"coa: get NAS session for sub " ++ subscriberID.repr, false⟩
  | .ok sess =>
    match attrs h sess with
    | .error _ => return some ⟨"coa: build vendor attributes for sub " ++ subscriberID.repr, false⟩
    | .ok attrs => do
      match ← sendReliableControl (packet h sess attrs) with
      | some err => return some err
      | none =>
        -- the display of the portal is refreshed as well as it goes
        if h.liveSessions then do
          let _ ← Prog.perform (S := commandSig) (.inr (.updateSpeedProfile sess.sessionID sess.rateLimit))
          return none
        else return none

def ProcessTask (json : Decoder) (h : CommandHandler) (payload : List UInt8) :
    CommandProg (Option TaskErr) :=
  match json.coa payload with
  | none => return some ⟨"coa: unmarshal payload", false⟩
  | some p => push h p.subscriberID

end CoAHandler

namespace PoDHandler

def packet (h : CommandHandler) (nasIP sessionID : String) : ControlPacket where
  code := .disconnectRequest
  nasIP := nasIP
  port := match h.nasResolver with
    | none => h.effectivePort
    | some r => (r.Resolve nasIP).podPort
  secret := match h.nasResolver with
    | none => h.secret
    | some r => (r.Resolve nasIP).secret
  sessionID := sessionID
  attrs := []

/-- End the session the payload names, or the one its subscriber has now. -/
def disconnect (h : CommandHandler) (p : PoDPayload) : CommandProg (Option TaskErr) :=
  if p.direct then sendReliableControl (packet h p.nasIP p.sessionID)
  else do
    match ← nasSession p.subscriberID with
    | .error _ => return some ⟨"pod: get NAS session for sub " ++ p.subscriberID.repr, true⟩
    | .ok sess => sendReliableControl (packet h sess.nasIP sess.sessionID)

def ProcessTask (json : Decoder) (h : CommandHandler) (payload : List UInt8) :
    CommandProg (Option TaskErr) :=
  match json.pod payload with
  | none => return some ⟨"pod: unmarshal payload", false⟩
  | some p => disconnect h p

end PoDHandler

end IspBss.Fup
