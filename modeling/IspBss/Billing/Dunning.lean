import IspBss.Db.Calls

/-! The dunning ladder and its hourly scanner.

        active ─▶ remind_7d ─▶ remind_3d ─▶ remind_1d ─▶ grace_period ─▶ soft_suspended ─▶ hard_suspended
           ▲          │            │            │             │                │                 │
           └──────────┴────────────┴────────────┴── payment ──┴────────────────┴─────────────────┘

    `NextDunningState` says where an expiry date puts a subscriber; `advance` walks there one valid
    transition at a time, and each transition writes the stage and the status it stands for. -/

namespace IspBss

open Lib

/-- The allowed edges. -/
def validTransitions : List (DunningState × DunningState) :=
  [(.active, .remind7d), (.remind7d, .remind3d), (.remind3d, .remind1d), (.remind1d, .gracePeriod),
   (.gracePeriod, .softSuspended), (.softSuspended, .hardSuspended),
   (.gracePeriod, .active), (.softSuspended, .active), (.hardSuspended, .active),
   (.remind7d, .active), (.remind3d, .active), (.remind1d, .active)]

/-- The `subscribers.status` a stage stands for. -/
def dunningToSubscriberStatus : DunningState → SubStatus
  | .active | .remind7d | .remind3d | .remind1d => .active
  | .gracePeriod => .gracePeriod
  | .softSuspended => .softSuspended
  | .hardSuspended => .hardSuspended

inductive DunningErr where
  | getState (e : StoreErr)
  | setState (current target : DunningState) (e : StoreErr)
  | invalidTransition (current target : DunningState)
  | noPath (current target : DunningState)
  | didNotReach (target start : DunningState)
  | enqueue (e : StoreErr)
  deriving DecidableEq

/-- Move one edge, if it is allowed from the stage the database holds now. -/
def TransitionDunning (subscriberID : ℤ) (target : DunningState) :
    Service (Except DunningErr Unit) := do
  match ← db (.getSubscriberDunningState subscriberID) with
  | .error e => return .error (.getState e)
  | .ok ((current, _) : DunningState × Time) =>
    if (current, target) ∈ validTransitions then
      match ← db (.setSubscriberDunningState subscriberID target
          (dunningToSubscriberStatus target)) with
      | .error e => return .error (.setState current target e)
      | .ok _ => return .ok ()
    else return .error (.invalidTransition current target)

def GracePeriodDays : ℤ := 3
def SoftSuspendDays : ℤ := 3

/-- The stage an expiry date puts a subscriber in. -/
def NextDunningState (current : DunningState) (planExpiry now : Time) : DunningState :=
  if now < planExpiry ∧ (current = .gracePeriod ∨ current = .softSuspended ∨
      current = .hardSuspended) then .active
  else
    let untilExpiry := planExpiry - now
    if untilExpiry ≤ -(GracePeriodDays + SoftSuspendDays) * day then .hardSuspended
    else if untilExpiry ≤ -GracePeriodDays * day then .softSuspended
    else if untilExpiry ≤ 0 then .gracePeriod
    else if untilExpiry ≤ 1 * day then .remind1d
    else if untilExpiry ≤ 3 * day then .remind3d
    else if untilExpiry ≤ 7 * day then .remind7d
    else .active

/-- The template of the notice for entering a stage; returning to active is silent. -/
def TemplateForDunningState : DunningState → Option String
  | .remind7d | .remind3d | .remind1d | .gracePeriod => some "TMPL-003"
  | .softSuspended => some "TMPL-004"
  | .hardSuspended => some "TMPL-005"
  | .active => none

def ladder : List DunningState :=
  [.active, .remind7d, .remind3d, .remind1d, .gracePeriod, .softSuspended, .hardSuspended]

/-- The next single stage between current and target; restoring is one hop from anywhere. -/
def stepToward (current target : DunningState) : Option DunningState :=
  if target = .active then some .active
  else if ladder.idxOf target ≤ ladder.idxOf current then none
  else ladder[ladder.idxOf current + 1]?

/-- Unix seconds. -/
def Time.unix (t : Time) : ℤ := t / 1000000

/-- The notice for the stage a candidate landed in. -/
def dunningNotice (c : DunningCandidate) (target : DunningState) (templateID : String) (now : Time) :
    Task where
  taskID := some (.dunning c.subscriberID target (Time.unix c.planExpiry))
  queue := "notifications"
  payload := .dunningNotice c.subscriberID c.username target templateID
    (max 0 ((now - c.planExpiry) / day))
  maxRetry := 3
  retention := day

namespace DunningScanner

/-- The walk of `advance`: at most `fuel` single stages, stopping at the first that fails. -/
def walk (subscriberID : ℤ) (target : DunningState) :
    ℕ → DunningState → Service (Except DunningErr DunningState)
  | 0, state => return .ok state
  | fuel + 1, state =>
    if state = target then return .ok state
    else match stepToward state target with
    | none => return .error (.noPath state target)
    | some next => do
      match ← TransitionDunning subscriberID next with
      | .error e => return .error e
      | .ok _ => walk subscriberID target fuel next

def maxSteps : ℕ := 8

variable (c : DunningCandidate) (target : DunningState) (now : Time)

/-- Queue the notice of the stage reached; one that is already queued is not an error. -/
def notify :
    Service (Except DunningErr Unit) :=
  match TemplateForDunningState target with
  | none => return .ok ()
  | some templateID => do
    match ← db (.enqueue (dunningNotice c target templateID now)) with
    | .ok _ => return .ok ()
    | .error (.unique _) => return .ok ()
    | .error e => return .error (.enqueue e)

/-- Walk a candidate to its target and send one notice for where it landed. -/
def advance :
    Service (Except DunningErr Unit) := do
  match ← walk c.subscriberID target maxSteps c.state with
  | .error e => return .error e
  | .ok state =>
    if state = target then notify c target now
    else return .error (.didNotReach target c.state)

/-- One candidate of a pass; its failure does not stop the rest. -/
def visit (now : Time) (c : DunningCandidate) : Service Unit :=
  let target := NextDunningState c.state c.planExpiry now
  if target = c.state then return ()
  else (advance c target now).void

/-- One pass. The candidate list is read before the clock and before any write. -/
def Scan : Service Unit := do
  match ← db .listDunningCandidates with
  | .error _ => return ()
  | .ok (candidates : List DunningCandidate) =>
    let now ← timeNow
    Prog.each (visit now) candidates

end DunningScanner

end IspBss
