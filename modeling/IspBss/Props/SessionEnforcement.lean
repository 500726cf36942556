import IspBss.Api.SessionControl
import IspBss.Props.DunningRuns
import IspBss.Radius.Network

/-! Is a session cut when its subscriber is?

    A status is looked at when a session is authorised and not again while it lasts. Whoever takes a
    service away has to tell the NAS, and two of the three do:

        plan change   CoA queued for a live session
        termination   PoD queued for a live session
        suspension    the stage, the status and a notice to the subscriber

    A dunning pass queues nothing but notices. So it enforces the suspensions it makes exactly when it
    makes none of a subscriber who is online. -/

namespace IspBss

open Lib Handler Prog Radius Run SessionStore

/-! ### The queue before and after -/

/-- The tasks that were queued between two states. -/
def newTasks (s s' : DB) : List Task := s'.tasks.rows.drop s.tasks.rows.length

theorem newTasks_eq {s s' : DB} {added : List Task} (h : s'.tasks.rows = s.tasks.rows ++ added) :
    newTasks s s' = added := by
  rw [newTasks, h, List.drop_left]

/-- A PoD for the subscriber. -/
def Task.disconnects (id : ℤ) (task : Task) : Bool :=
  match task.payload with
  | .pod subscriberID _ _ => subscriberID = id
  | _ => false

/-- A CoA or a PoD for the subscriber. -/
def Task.enforces (id : ℤ) (task : Task) : Bool :=
  match task.payload with
  | .pod subscriberID _ _ => subscriberID = id
  | .coa subscriberID _ => subscriberID = id
  | _ => false

/-! ### Termination and plan change -/

section
variable {e : ApiEnv} {s : DB} {live : Table LiveSession} {id : ℤ} {sess : LiveSession}

/-- A service of the database runs as it does on its own. -/
theorem run_left_db {α : Type} (p : Service α) :
    run apiExec e p.left (s, live) = ((run exec e.db p s).1, (run exec e.db p s).2, live) := by
  rw [apiExec, Prog.run_left, Prog.run_env exec ApiEnv.db]

/-- A command has no id of its own and is always accepted. -/
theorem enqueue_netCommand {e : Env} {payload : TaskPayload}
    (hf : e.fails (.enqueue (netCommand payload)) = false) (s : DB) :
    (exec e (.db (.enqueue (netCommand payload))) s).2.tasks.rows = s.tasks.rows ++ [netCommand payload] := by
  obtain ⟨tasks, htasks⟩ := s.tasks.insert_of_keyless (r := netCommand payload) rfl
  rw [exec_enqueue hf htasks]
  exact Indexed.rows_of_insert htasks

/-- A live session is sent the command. -/
theorem run_enqueueIfSessionActive (payload : LiveSession → TaskPayload)
    (hlive : get id e.db.now live = some sess) (hreads : e.liveFails = false)
    (hf : e.db.fails (.enqueue (netCommand (payload sess))) = false) :
    (run apiExec e (enqueueIfSessionActive id payload) (s, live)).2.1.tasks.rows =
      s.tasks.rows ++ [netCommand (payload sess)] := by
  have hread : run apiExec e (GetActiveSession id) (s, live) = (.ok (some sess), s, live) := by
    simp [GetActiveSession, Prog.perform, Prog.run, apiExec, Store.beside, liveExec, hreads, hlive]
  unfold enqueueIfSessionActive
  rw [Prog.run_bind, hread]
  exact enqueue_netCommand hf s

/-- So is one whose subscriber a change has succeeded for. -/
theorem followedBy_commands {ε α : Type} {change : Service (Except ε α)} (payload : LiveSession → TaskPayload)
    (hlive : get id e.db.now live = some sess) (hreads : e.liveFails = false)
    (hf : e.db.fails (.enqueue (netCommand (payload sess))) = false)
    (hchange : Queues (fun _ => False) change) {a : α}
    (hok : (run apiExec e (followedBy change (enqueueIfSessionActive id payload))
      (s, live)).1 = .ok a) :
    newTasks s (run apiExec e (followedBy change (enqueueIfSessionActive id payload))
      (s, live)).2.1 = [netCommand (payload sess)] := by
  obtain ⟨added, hadded, hnone⟩ := hchange.added e.db s
  cases List.eq_nil_iff_forall_not_mem.mpr hnone
  unfold followedBy at hok ⊢
  rw [Prog.run_bind, run_left_db] at hok ⊢
  generalize run exec e.db change s = out at hok hadded ⊢
  obtain ⟨res, s'⟩ := out
  cases res with
  | error err => cases hok
  | ok a =>
    rw [Prog.run_bind]
    have hrows := run_enqueueIfSessionActive (s := s') payload hlive hreads hf
    rw [hadded, List.append_nil] at hrows
    exact newTasks_eq hrows

/-- The termination itself queues nothing. -/
theorem queues_performTermination (id : ℤ) : Queues (fun _ => False) (performTermination id) := by
  refine queues_db rfl fun res => ?_
  rcases res with err | found
  · trivial
  · cases found <;> trivial

/-- A plan change that succeeds queues a CoA for a subscriber who is online, and nothing else. -/
theorem changePlanOnline_newTasks {newPlanID : ℤ} {updated : Subscriber}
    (hlive : get id e.db.now live = some sess) (hreads : e.liveFails = false)
    (hf : e.db.fails (.enqueue (netCommand (.coa id sess.nasIP))) = false)
    (hok : (run apiExec e (changePlanOnline id newPlanID) (s, live)).1 = .ok updated) :
    newTasks s (run apiExec e (changePlanOnline id newPlanID) (s, live)).2.1 =
      [netCommand (.coa id sess.nasIP)] := by
  have hchange : Queues (fun _ => False) (changeSubscriberPlan id newPlanID) := by
    refine queues_db rfl fun res => ?_
    split
    · trivial
    · trivial
    · trivial
    · refine queues_clock fun now => queues_db rfl fun res => ?_
      split <;> trivial
  exact followedBy_commands (fun sess => .coa id sess.nasIP) hlive hreads hf hchange hok

end

/-! ### Suspension -/

/-- A pass: what its calls run into, who is online meanwhile, and whatever else happens before the
    next. -/
structure DunningTick where
  env : Env
  network : Network
  between : DB → DB

variable (s : DB) (tick : DunningTick)

def DunningTick.step : DB := tick.between (scanPass tick.env s)

/-- Whoever the pass moves to a suspension and is online has a task queued by it: a PoD for the hard
    one, a CoA or a PoD for the soft one. -/
def Enforced : Prop :=
  ∀ id r r', s.subscribers.lookup id = some r →
    (scanPass tick.env s).subscribers.lookup id = some r' → tick.network.Online id →
    r.dunningState ≠ r'.dunningState →
    (r'.dunningState = .hardSuspended →
      ∃ task ∈ newTasks s (scanPass tick.env s), task.disconnects id = true) ∧
    (r'.dunningState = .softSuspended →
      ∃ task ∈ newTasks s (scanPass tick.env s), task.enforces id = true)

/-- Nobody who is online is due a suspension. -/
def NobodyDue : Prop :=
  ∀ id r, s.subscribers.lookup id = some r → tick.network.Online id →
    dueStage tick.env.now id r ≠ some .softSuspended ∧ dueStage tick.env.now id r ≠ some .hardSuspended

section
variable {e : Env} {s : DB} {id : ℤ} {r : Subscriber}

/-- A pass queues no command to a NAS. -/
theorem newTasks_scanPass (e : Env) (s : DB) (id : ℤ) :
    ∀ task ∈ newTasks s (scanPass e s), task.disconnects id = false ∧ task.enforces id = false := by
  obtain ⟨added, hadded, hnotices⟩ := queues_dunningScan.added e s
  change (scanPass e s).tasks.rows = _ at hadded
  intro task htask
  rw [newTasks_eq hadded] at htask
  obtain ⟨c, target, templateID, now, rfl⟩ := hnotices task htask
  exact ⟨rfl, rfl⟩

theorem stepToward_le {state target next : DunningState} (h : stepToward state target = some next) :
    rung next ≤ rung target := by
  revert h
  cases state <;> cases target <;> cases next <;> decide

/-- Whatever fails on the way, a visit leaves the stage or raises it no further than the target. -/
theorem visit_stage {c : DunningCandidate} (now : Time) (hr : s.subscribers.lookup c.subscriberID = some r) :
    ∃ r', (run exec e (DunningScanner.visit now c) s).2.subscribers.lookup c.subscriberID = some r' ∧
      (r'.dunningState = r.dunningState ∨
        rung r'.dunningState ≤ rung (NextDunningState c.state c.planExpiry now)) := by
  refine Prog.Calls.run_inv (I := fun s' : DB => ∃ r', s'.subscribers.lookup c.subscriberID = some r' ∧
    (r'.dunningState = r.dunningState ∨
      rung r'.dunningState ≤ rung (NextDunningState c.state c.planExpiry now)))
    (fun call s' hcall hs' => ?_) (makes_visit now c) ⟨r, hr, Or.inl rfl⟩
  obtain ⟨r₁, hr₁, hstage⟩ := hs'
  obtain ⟨r₂, hr₂, hrow⟩ := exec_lookup e call hr₁
  refine ⟨r₂, hr₂, ?_⟩
  rcases hrow with rfl | ⟨op, -, rfl, -, hrow⟩
  · exact hstage
  cases hcall with
  | aside op h => rw [hrow.not_sideline] at h; cases h
  | read op h => rw [hrow.not_read] at h; cases h
  | write op h =>
    obtain ⟨state, next, hnext, rfl⟩ := h
    refine Or.inr ?_
    generalize r₂.toSubscriberRow = row at hrow ⊢
    cases hrow with
    | dunning => exact stepToward_le hnext

/-- So a pass leaves the stage, or raises it no further than the one that is due. -/
theorem scanPass_stage (e : Env) (hr : s.subscribers.lookup id = some r) :
    ∃ r', (scanPass e s).subscribers.lookup id = some r' ∧
      (r'.dunningState = r.dunningState ∨
        ∃ due, dueStage e.now id r = some due ∧ rung r'.dunningState ≤ rung due) := by
  cases hcand : BillingStore.dunningCandidate? e.now id r with
  | none => exact ⟨r, scanPass_unlisted e hr hcand, Or.inl rfl⟩
  | some c =>
    obtain ⟨rfl, hstate, hx⟩ := dunningCandidate?_some hcand
    obtain ⟨cs, hpass, hnd, hmem⟩ := scanPass_visits e s
    rw [hpass]
    split
    · exact ⟨r, hr, Or.inl rfl⟩
    obtain ⟨before, after, rfl, hbefore, hafter⟩ := own_candidate hnd ((hmem c).mpr ⟨_, r, hr, hcand⟩)
    have hspared := visits_spare (e := e) hbefore e.now hr
    rw [Prog.run_each_append, Prog.each, Prog.run_bind]
    by_cases hmoves : moves c.state c.planExpiry e.now = true
    · obtain ⟨r', hr', hstage⟩ := visit_stage e.now hspared
      refine ⟨r', visits_spare hafter _ hr', hstage.imp_right fun hle => ⟨_, ?_, hle⟩⟩
      rw [dueStage, hcand, Option.bind_some, if_pos hmoves]
    · rw [visit_stays exec (by simpa using hmoves)]
      exact ⟨r, visits_spare hafter _ hspared, Or.inl rfl⟩

theorem enforced_of_nobodyDue {tick : DunningTick} (h : NobodyDue s tick) : Enforced s tick := by
  intro id r r' hr hr' honline hmoved
  obtain ⟨r₁, hr₁, hstage⟩ := scanPass_stage tick.env hr
  cases hr'.symm.trans hr₁
  obtain ⟨hsoft, hhard⟩ := h id r hr honline
  have hlow : rung r'.dunningState < rung .softSuspended := by
    rcases hstage with hsame | ⟨due, hdue, hle⟩
    · exact absurd hsame.symm hmoved
    · refine lt_of_le_of_lt hle ?_
      rw [hdue] at hsoft hhard
      revert hsoft hhard
      cases due <;> decide
  constructor
  · intro hstate
    rw [hstate] at hlow
    exact absurd hlow (by decide)
  · intro hstate
    rw [hstate] at hlow
    exact absurd hlow (by decide)

/-- Being due a stage is being due another one. -/
theorem dueStage_ne {now : Time} {due : DunningState} (h : dueStage now id r = some due) :
    r.dunningState ≠ due := by
  obtain ⟨c, hc, hdue⟩ := Option.bind_eq_some_iff.mp h
  obtain ⟨-, hstate, -⟩ := dunningCandidate?_some hc
  split at hdue
  · rename_i hmoves
    cases hdue
    rw [← hstate]
    simp only [moves, Bool.and_eq_true, decide_eq_true_eq] at hmoves
    exact Ne.symm hmoves.1
  · cases hdue

theorem nobodyDue_of_enforced {tick : DunningTick} (he : tick.env.StoreWorks) (h : Enforced s tick) :
    NobodyDue s tick := by
  intro id r hr honline
  obtain ⟨⟨r', hr', hrow⟩, -⟩ := scanPass_spec he hr
  have hno := newTasks_scanPass tick.env s id
  have hstage : ∀ due, dueStage tick.env.now id r = some due → r'.dunningState = due ∧
      r.dunningState ≠ r'.dunningState := by
    intro due hdue
    rw [hdue] at hrow
    have hstage : r'.dunningState = due := congrArg SubscriberRow.dunningState hrow
    exact ⟨hstage, hstage ▸ dueStage_ne hdue⟩
  constructor
  · intro hdue
    obtain ⟨hsoft, hmoved⟩ := hstage _ hdue
    obtain ⟨task, htask, henforces⟩ := (h id r r' hr hr' honline hmoved).2 hsoft
    cases (hno task htask).2.symm.trans henforces
  · intro hdue
    obtain ⟨hhard, hmoved⟩ := hstage _ hdue
    obtain ⟨task, htask, hdisconnects⟩ := (h id r r' hr hr' honline hmoved).1 hhard
    cases (hno task htask).1.symm.trans hdisconnects

end

/-- Any passes, whatever fails in them, whoever is online and whatever happens between them. If no
    pass finds somebody online who is due a suspension, every suspension is enforced by the pass that
    makes it; and as long as the database answers, only then. -/
theorem suspensions_enforced_iff_nobodyDue (s : DB) (ticks : List DunningTick) :
    (Meets DunningTick.step NobodyDue s ticks → Meets DunningTick.step Enforced s ticks) ∧
    ((∀ tick ∈ ticks, tick.env.StoreWorks) →
      (Meets DunningTick.step Enforced s ticks ↔ Meets DunningTick.step NobodyDue s ticks)) := by
  have hif : Meets DunningTick.step NobodyDue s ticks → Meets DunningTick.step Enforced s ticks :=
    Meets.imp fun _ _ => enforced_of_nobodyDue
  refine ⟨hif, fun hworks => ⟨fun h => ?_, hif⟩⟩
  exact (h.and_mem hworks).imp fun _ _ ⟨henforced, he⟩ => nobodyDue_of_enforced he henforced

instance (s : DB) (tick : DunningTick) : Decidable (NobodyDue s tick) := decidable_of_iff' _ forall_lookup

/-- A network with these sessions. -/
def withSessions (sessions : List SessionRow) : Network where
  directory := ⟨∅, ∅, ∅, []⟩
  grantUsage := ∅
  sessions := sessions
  acctDedup := .empty

def sessionOfOne : SessionRow := newSession 1 "s1" "10.0.0.1" "100.64.0.1" "" 0

/-- A pass on this day over these sessions, nothing failing. -/
def tickOn (n : ℤ) (sessions : List SessionRow) : DunningTick :=
  ⟨.at (n * day), withSessions sessions, id⟩

/-- The subscriber is online when its grace period begins and offline when it is suspended. -/
theorem offline_suspension_enforced :
    Meets DunningTick.step Enforced oneLapsed [tickOn 1 [sessionOfOne], tickOn 9 []] :=
  (suspensions_enforced_iff_nobodyDue oneLapsed [tickOn 1 [sessionOfOne], tickOn 9 []]).1
    (by decide +kernel)

/-- A subscriber is online, nine days overdue. The pass suspends it, and all it queues is the notice. -/
theorem suspended_session_not_told :
    (tickOn 9 [sessionOfOne]).network.Online 1 ∧
    ((scanPass (.at (9 * day)) oneLapsed).subscribers.lookup 1).map (·.dunningState) =
      some .hardSuspended ∧
    (newTasks oneLapsed (scanPass (.at (9 * day)) oneLapsed)).map Task.payload =
      [.dunningNotice 1 "one" .hardSuspended "TMPL-005" 9] ∧
    ¬ Meets DunningTick.step Enforced oneLapsed [tickOn 9 [sessionOfOne]] := by
  have hrow : ((scanPass (.at (9 * day)) oneLapsed).subscribers.lookup 1).map (·.dunningState) =
    some .hardSuspended := by decide +kernel
  have hnone : (newTasks oneLapsed (scanPass (.at (9 * day)) oneLapsed)).any (·.disconnects 1) = false := by
    decide +kernel
  refine ⟨by decide, hrow, by decide +kernel, fun h => ?_⟩
  obtain ⟨r', hr', hstage⟩ := Option.map_eq_some_iff.mp hrow
  obtain ⟨task, htask, hpod⟩ := (h.1 1 (.paidUntil 0) r' rfl hr' (by decide)
    (by rw [hstage]; decide)).1 hstage
  exact absurd hpod (List.any_eq_false.mp hnone task htask)

end IspBss
