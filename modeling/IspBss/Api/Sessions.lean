import IspBss.Fup.Commands

/-! Session control: what an operator can do to a subscriber on the network.

        POST /sessions/{id}/disconnect            ─▶ PoD task for the subscriber of the session
        POST /sessions/{id}/fup-override          ─▶ SetFUPActive ─▶ CoA task
        POST /subscribers/{id}/speed-override     ─▶ SetSpeedOverride ─▶ CoA task
        POST …/speed-override/clear               ─▶ ClearSpeedOverride ─▶ CoA task

    A request ends when the task is queued; the packet is sent by the daemon's workers. The disconnect
    knows session and NAS, and puts neither of them into its task. -/

namespace IspBss.Api

open Lib Jobqueue Radius Fup

/-- `writeError`, or `writeJSON` with the 202 of an accepted request. -/
inductive Reply where
  | error (status : ℕ) (code message : String)
  | accepted (status : String)
  deriving DecidableEq

/-- A task for the RADIUS daemon. -/
def sessionTask (typ : String) (payload : List UInt8) : ClientTask where
  typ := typ
  payload := payload
  queue := QueueNetCommands
  maxRetry := 5
  timeout := 0
  retention := day
  taskID := ""
  processIn := 0

/-- `time.Now()`. -/
def timeNow : ScanProg Time := Prog.perform (S := scanSig) (.inl .timeNow)

namespace Handler

def badSessionID : Reply := .error 400 "ERR_BAD_REQUEST" "session_id is required"

def notConfigured : Reply := .error 503 "ERR_UNAVAILABLE" "session control not configured"

def noSession : Reply := .error 404 "ERR_SESSION_NOT_FOUND" "no active session with that id"

def badID : Reply := .error 400 "ERR_BAD_REQUEST" "id must be numeric"

variable (configured : Bool) (sessionID : String)

/-- `configured`: session control and the task queue are set up. -/
def DisconnectSession : ScanProg Reply :=
  if sessionID = "" then return badSessionID
  else if configured = false then return notConfigured
  else do
    match ← query (.resolveSessionSubscriber sessionID) with
    | .error _ => return noSession
    | .ok (subscriberID, _) =>
      match ← enqueue (sessionTask TaskTypePoD (PoDPayload.marshal ⟨subscriberID, "", ""⟩)) with
      | .error _ => return .error 500 "ERR_INTERNAL" "could not enqueue disconnect"
      | .ok _ => return .accepted "pod_enqueued"

/-- `body` is the action, or the text of the decoder's error. -/
def FUPOverride (body : Except String String) :
    ScanProg Reply :=
  if sessionID = "" then return badSessionID
  else if configured = false then return notConfigured
  else
    match body with
    | .error err => return .error 400 "ERR_BAD_REQUEST" err
    | .ok action =>
      if action ≠ "apply" ∧ action ≠ "remove" then
        return .error 422 "ERR_VALIDATION" "action must be \"apply\" or \"remove\""
      else do
        match ← query (.resolveSessionSubscriber sessionID) with
        | .error _ => return noSession
        | .ok (subscriberID, nasIP) =>
          match ← query (.setFUPActive subscriberID (action = "apply")) with
          | .error _ => return .error 500 "ERR_INTERNAL" "could not update FUP state"
          | .ok () =>
            match ← enqueue (sessionTask TaskTypeCoA (CoAPayload.marshal ⟨subscriberID, nasIP⟩)) with
            | .error _ => return .error 500 "ERR_INTERNAL" "could not enqueue CoA"
            | .ok _ => return .accepted "coa_enqueued"

/-- An error is logged. -/
def enqueueSpeedOverrideCoA (subscriberID : ℤ) : ScanProg Unit :=
  (enqueue (sessionTask TaskTypeCoA (CoAPayload.marshal ⟨subscriberID, ""⟩))).void

/-- `speedOverrideRequest`. -/
structure SpeedOverrideRequest where
  rateLimitString : String
  durationMinutes : ℤ
  deriving DecidableEq

/-- So many minutes from now: a `time.Duration` counts nanoseconds in 64 bits, the column
    microseconds. No minutes are no end. -/
def overrideExpiry (now : Time) (minutes : ℤ) : Option Time :=
  if 0 < minutes then some (now + (minutes * 60000000000).bmod (2 ^ 64) / 1000) else none

variable (configured : Bool) (id : Option ℤ)

def SpeedOverride (body : Except String SpeedOverrideRequest) :
    ScanProg Reply :=
  match id with
  | none => return badID
  | some subscriberID =>
    if configured = false then return notConfigured
    else
      match body with
      | .error err => return .error 400 "ERR_BAD_REQUEST" err
      | .ok req =>
        if req.rateLimitString = "" then
          return .error 422 "ERR_VALIDATION" "rate_limit_string is required"
        else if req.durationMinutes < 0 then
          return .error 422 "ERR_VALIDATION" "duration_minutes must not be negative"
        else do
          let now ← timeNow
          match ← query (.setSpeedOverride subscriberID req.rateLimitString
              (overrideExpiry now req.durationMinutes)) with
          | .error _ => return .error 500 "ERR_INTERNAL" "could not set speed override"
          | .ok () => do
            enqueueSpeedOverrideCoA subscriberID
            return .accepted "coa_enqueued"

def ClearSpeedOverride : ScanProg Reply :=
  match id with
  | none => return badID
  | some subscriberID =>
    if configured = false then return notConfigured
    else do
      match ← query (.clearSpeedOverride subscriberID) with
      | .error _ => return .error 500 "ERR_INTERNAL" "could not clear speed override"
      | .ok () => do
        enqueueSpeedOverrideCoA subscriberID
        return .accepted "coa_enqueued"

end Handler

end IspBss.Api
