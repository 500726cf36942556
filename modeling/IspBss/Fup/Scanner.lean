import IspBss.Jobqueue.Queue
import IspBss.Lib.Compose
import IspBss.Radius.Network

/-! `fup.Scanner`: one pass over the sessions, at every tick.

        breaches   GetActiveSessionsAboveFUP ─▶ SetFUPActive ─▶ CoA task ─▶ throttled notice
        overrides  ListExpiredSpeedOverrides ─▶ ClearSpeedOverride ─▶ CoA task
        warnings   GetSessionsAtWarning ─▶ warning notice

    What goes wrong on the way is treated differently from call to call: a flag that cannot be set and a
    notice that cannot be queued are logged and the pass goes on; a CoA task of a breach that cannot be
    queued ends the pass.

    The passes share the tables of the network and the queue with everybody else. A pass is a program
    over both, so that its calls interleave with any others. -/

namespace IspBss.Fup

open Lib Jobqueue Radius

/-! ### The calls -/

/-- The calls of the queue and those of the network's tables. -/
@[reducible] def scanSig : Sig := queueSig.sum netSig

abbrev ScanProg := Prog scanSig

/-- What a step is taken in, on either side. -/
structure ScanEnv where
  queue : QueueEnv
  net : NetEnv

def scanExec : Store scanSig ScanEnv (QueueDB × Network) :=
  Store.beside (fun e => queueExec e.queue) (fun e => netExec e.net)

def query (op : NetOp) : ScanProg (Except NetErr op.Result) :=
  Prog.perform (S := scanSig) (.inr (.stmt op))

@[simp] theorem query_bind {α : Type} (op : NetOp) (f : Except NetErr op.Result → ScanProg α) :
    (query op >>= f) = Prog.call (S := scanSig) (.inr (.stmt op)) f := rfl

def enqueue (t : ClientTask) : ScanProg (Except EnqueueErr TaskInfo) := (Client.EnqueueContext t).left

/-! ### The tasks -/

def TaskTypeCoA : String := "network:coa_send"

def TaskTypeFUPWarning : String := "notif:fup_warning"

def TaskTypeFUPThrottled : String := "notif:fup_throttled"

def QueueNetCommands : String := "network_commands"

def QueueNotifications : String := "notifications"

/-- Two lower-case hexadecimal digits. -/
def hex2 (n : ℕ) : String := String.ofList [(n / 16 % 16).digitChar, (n % 16).digitChar]

/-- A character as `encoding/json` writes it inside a string. -/
def jsonChar (c : Char) : String :=
  match c.toNat with
  | 8 => "\\b"
  | 9 => "\\t"
  | 10 => "\\n"
  | 12 => "\\f"
  | 13 => "\\r"
  | 34 => "\\\""
  | 92 => "\\\\"
  | 0x2028 => "\\u2028"
  | 0x2029 => "\\u2029"
  | n =>
    -- the last three are <, > and &
    if n < 32 ∨ n = 60 ∨ n = 62 ∨ n = 38 then "\\u00" ++ hex2 n else c.toString

/-- A character as the verb %q writes it. -/
def goQuotedChar (c : Char) : String :=
  match c.toNat with
  | 7 => "\\a"
  | 8 => "\\b"
  | 9 => "\\t"
  | 10 => "\\n"
  | 11 => "\\v"
  | 12 => "\\f"
  | 13 => "\\r"
  | 34 => "\\\""
  | 92 => "\\\\"
  | n => if n < 32 ∨ n = 127 then "\\x" ++ hex2 n else c.toString

/-- The text between double quotes, each character written by `f`. -/
def quoted (f : Char → String) (s : String) : String :=
  "\"" ++ String.join (s.toList.map f) ++ "\""

def bytes (s : String) : List UInt8 := s.toUTF8.data.toList

variable (subscriberID : ℤ) (nasIP : String)

/-- The JSON of a CoA task; the address goes in as it is. -/
def coaPayload : List UInt8 :=
  bytes ("\x7b\"subscriber_id\":" ++ subscriberID.repr ++ ",\"nas_ip\":\"" ++ nasIP ++ "\"\x7d")

/-- A task that has a NAS apply the rate a subscriber is due. -/
def coaTask : ClientTask where
  typ := TaskTypeCoA
  payload := coaPayload subscriberID nasIP
  queue := QueueNetCommands
  maxRetry := 5
  timeout := 0
  retention := day
  taskID := ""
  processIn := 0

/-- `UsagePct`: cut off after a division to sixteen places. -/
def UsagePct (bytesUsed threshold : ℤ) : ℤ :=
  if threshold = 0 then 0
  else
    let pct := Numeric.div (bytesUsed * 100) threshold
    pct.num.tdiv pct.den

def WarningTaskID (subscriberID threshold : ℤ) : String :=
  "fupwarn-" ++ subscriberID.repr ++ "-" ++ threshold.repr

def ThrottledTaskID (subscriberID threshold : ℤ) : String :=
  "fupthrottled-" ++ subscriberID.repr ++ "-" ++ threshold.repr

/-- A notice to a subscriber, queued once per threshold. -/
def noticeTask (typ taskID : String) (payload : List UInt8) : ClientTask where
  typ := typ
  payload := payload
  queue := QueueNotifications
  maxRetry := 3
  timeout := 0
  retention := day
  taskID := taskID
  processIn := 0

def warningTask (sess : SessionStats) : ClientTask :=
  noticeTask TaskTypeFUPWarning (WarningTaskID sess.subscriberID sess.fupThreshold)
    (bytes ("\x7b\"subscriber_id\":" ++ sess.subscriberID.repr ++ ",\"username\":" ++
      quoted goQuotedChar sess.username ++ ",\"pct_used\":" ++
      (UsagePct sess.bytesUsed sess.fupThreshold).repr ++ "\x7d"))

def throttledTask (sess : SessionStats) : ClientTask :=
  noticeTask TaskTypeFUPThrottled (ThrottledTaskID sess.subscriberID sess.fupThreshold)
    (bytes ("\x7b\"subscriber_id\":" ++ sess.subscriberID.repr ++ ",\"username\":" ++
      quoted jsonChar sess.username ++ ",\"throttle_speed\":" ++
      quoted jsonChar sess.fupThrottle ++ "\x7d"))

/-! ### A pass -/

/-- What ends a pass early. -/
inductive ScanErr where
  | getSessions (e : NetErr)
  | enqueueCoA (subscriberID : ℤ) (e : EnqueueErr)
  | listExpiredSpeedOverrides (e : NetErr)
  | getWarningSessions (e : NetErr)
  | enqueueWarning (subscriberID : ℤ) (e : EnqueueErr)
  deriving DecidableEq

namespace Scanner

/-- A conflict means that the notice has been queued before. -/
def enqueueThrottledNotice (sess : SessionStats) : ScanProg (Except EnqueueErr Unit) := do
  match ← enqueue (throttledTask sess) with
  | .ok _ => return .ok ()
  | .error .taskIDConflict => return .ok ()
  | .error e => return .error e

/-- The loop over the breached sessions: the flag is committed before the CoA task is queued. -/
def throttle : List SessionStats → ScanProg (Except ScanErr Unit)
  | [] => return .ok ()
  | sess :: rest =>
    if sess.fupThreshold = 0 ∨ sess.fupActive = true then throttle rest
    else if sess.fupThreshold ≤ sess.bytesUsed then do
      match ← query (.setFUPActive sess.subscriberID true) with
      | .error _ => throttle rest
      | .ok () =>
        match ← enqueue (coaTask sess.subscriberID sess.nasIP) with
        | .error e => return .error (.enqueueCoA sess.subscriberID e)
        | .ok _ => do
          let _ ← enqueueThrottledNotice sess
          throttle rest
    else throttle rest

def scanBreaches : ScanProg (Except ScanErr Unit) := do
  match ← query .getActiveSessionsAboveFUP with
  | .error e => return .error (.getSessions e)
  | .ok sessions => throttle sessions

/-- One override that has run out; whatever fails is logged. -/
def revertOverride (id : ℤ) : ScanProg Unit := do
  match ← query (.clearSpeedOverride id) with
  | .error _ => return ()
  | .ok () => (enqueue (coaTask id "")).void

def scanExpiredOverrides : ScanProg (Except ScanErr Unit) := do
  match ← query .listExpiredSpeedOverrides with
  | .error e => return .error (.listExpiredSpeedOverrides e)
  | .ok ids => do
    Prog.each revertOverride ids
    return .ok ()

/-- The loop over the sessions near their threshold. -/
def warn : List SessionStats → ScanProg (Except ScanErr Unit)
  | [] => return .ok ()
  | sess :: rest =>
    if sess.fupThreshold = 0 ∨ sess.fupActive = true then warn rest
    else do
      match ← enqueue (warningTask sess) with
      | .ok _ => warn rest
      | .error .taskIDConflict => warn rest
      | .error e => return .error (.enqueueWarning sess.subscriberID e)

def scanWarnings : ScanProg (Except ScanErr Unit) := do
  match ← query (.getSessionsAtWarning FUPStore.FUPWarningPct) with
  | .error e => return .error (.getWarningSessions e)
  | .ok sessions => warn sessions

/-- Breaches, then overrides, then warnings; an error of one leaves out the rest. -/
def scan : ScanProg (Except ScanErr Unit) := do
  match ← scanBreaches with
  | .error e => return .error e
  | .ok () =>
    match ← scanExpiredOverrides with
    | .error e => return .error e
    | .ok () => scanWarnings

end Scanner

end IspBss.Fup
