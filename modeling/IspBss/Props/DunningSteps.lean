import IspBss.Props.Footprint

/-! What one pass of the dunning scanner does to one subscriber.

    As long as the database answers (the queue may fail), a pass is determined by the subscriber's row:

        not listed                          nothing
        listed, the date agrees             nothing
        listed, the date is elsewhere
            with a way there                stage and status of the date, and one notice
            without                         nothing: a stage is never given back before payment

    `dueStage` is that table. Every claim about passes is about `dueStage` and the ladder. -/

namespace IspBss

open Lib DunningScanner BillingStore Prog List

/-! ### The ladder -/

/-- Whether the dunning scanner moves a subscriber of this stage: the expiry date puts it elsewhere,
    and there is a way there. -/
def moves (state : DunningState) (expiry now : Time) : Bool :=
  NextDunningState state expiry now ≠ state &&
    (stepToward state (NextDunningState state expiry now)).isSome

/-- How many single stages a walk takes. -/
def stepsTo (state target : DunningState) : ℕ :=
  if target = .active then 1 else ladder.idxOf target - ladder.idxOf state

variable {state target : DunningState} {next : DunningState}

theorem stepToward_valid (hne : state ≠ target)
    (h : stepToward state target = some next) : (state, next) ∈ validTransitions := by
  revert hne h
  cases state <;> cases target <;> cases next <;> decide

theorem stepToward_progress (hne : state ≠ target)
    (h : stepToward state target = some next) (hnext : next ≠ target) :
    (stepToward next target).isSome = true ∧ stepsTo next target < stepsTo state target := by
  revert hne h hnext
  cases state <;> cases target <;> cases next <;> decide

theorem stepsTo_pos (hne : state ≠ target) (h : (stepToward state target).isSome = true) :
    0 < stepsTo state target ∧ stepsTo state target ≤ maxSteps := by
  revert hne h
  cases state <;> cases target <;> decide

/-! ### Where a date puts a subscriber -/

section
variable {id : ℤ} {s : DB} {r : Subscriber} {x t : Time}

/-- A running cycle is put in a stage whose status is `active`. -/
theorem status_of_running (state : DunningState) (h : t < x) :
    dunningToSubscriberStatus (NextDunningState state x t) = .active := by
  unfold NextDunningState GracePeriodDays SoftSuspendDays
  have hday : (0 : ℤ) < day := by decide
  split
  · rfl
  · have hpast : ∀ n : ℤ, n ≤ 0 → ¬ x - t ≤ n * day := fun n hn =>
      not_le.mpr (by nlinarith)
    rw [if_neg (hpast (-(3 + 3)) (by decide)), if_neg (hpast (-3) (by decide)),
      if_neg (not_le.mpr (by linarith))]
    split
    · rfl
    split
    · rfl
    split <;> rfl

theorem dunningCandidate?_some {c : DunningCandidate} (h : dunningCandidate? t id r = some c) :
    c.subscriberID = id ∧ c.state = r.dunningState ∧ r.planExpiry = some c.planExpiry := by
  unfold dunningCandidate? at h
  split at h
  · rename_i expiry hx
    split at h
    · cases h
      exact ⟨rfl, rfl, hx⟩
    · cases h
  · cases h

/-- A dated cycle that is not listed is at the stage its date puts it in. -/
theorem moves_of_unlisted (hx : r.planExpiry = some x) (hlive : r.status ≠ .terminated)
    (h : dunningCandidate? t id r = none) : moves r.dunningState x t = false := by
  unfold dunningCandidate? at h
  rw [hx] at h
  dsimp only at h
  split at h
  · cases h
  · rename_i hnot
    have hday : (0 : ℤ) < day := by decide
    have hstage : r.dunningState = .active := by
      by_contra hne
      exact hnot ⟨hlive, Or.inr hne⟩
    have hfar : t + 7 * day < x := by
      by_contra hle
      exact hnot ⟨hlive, Or.inl (not_lt.mp hle)⟩
    have hnext : NextDunningState .active x t = .active := by
      unfold NextDunningState GracePeriodDays SoftSuspendDays
      rw [if_neg (by simp)]
      have hpast : ∀ n : ℤ, n ≤ 7 → ¬ x - t ≤ n * day := fun n hn =>
        not_le.mpr (by nlinarith)
      rw [if_neg (hpast (-(3 + 3)) (by decide)), if_neg (hpast (-3) (by decide)),
        if_neg (not_le.mpr (by linarith)), if_neg (hpast 1 (by decide)),
        if_neg (hpast 3 (by decide)), if_neg (hpast 7 le_rfl)]
    unfold moves
    rw [hstage, hnext]
    rfl

/-- The stage a pass moves the subscriber to, if it does. -/
def dueStage (now : Time) (id : ℤ) (r : Subscriber) : Option DunningState :=
  (BillingStore.dunningCandidate? now id r).bind fun c =>
    if moves c.state c.planExpiry now then some (NextDunningState c.state c.planExpiry now) else none

/-- The row with the stage and the status it stands for. -/
def SubscriberRow.atStage (r : SubscriberRow) (state : DunningState) : SubscriberRow :=
  { r with dunningState := state, status := dunningToSubscriberStatus state }

/-- The row after a pass. -/
def SubscriberRow.afterPass (r : SubscriberRow) (due : Option DunningState) : SubscriberRow :=
  due.elim r r.atStage

end

/-! ### Walking -/

def Op.isEnqueue : Op → Bool
  | enqueue _ => true
  | _ => false

/-- The database answers; only the queue may fail. -/
def Env.StoreWorks (e : Env) : Prop := ∀ op : Op, op.isEnqueue = false → e.fails op = false

theorem Env.at_storeWorks (t : Time) : (Env.at t).StoreWorks := fun _ _ => rfl

theorem Env.StoreWorks.exec_ok {e : Env} (he : e.StoreWorks) (op : Op) (hop : op.isEnqueue = false)
    {s s' : DB} {a : op.Result} (h : op.tx e.now s = .ok (a, s')) : exec e (.db op) s = (.ok a, s') :=
  IspBss.exec_ok (he op hop) h

/-- The notice of the stage is in the queue. -/
def Queued (id : ℤ) (state : DunningState) (expiry : Time) (s : DB) : Prop :=
  .dunning id state (Time.unix expiry) ∈ s.tasks.rows.filterMap Task.taskID

section
variable {id : ℤ} {e : Env} {s : DB} {r : Subscriber}

variable {target : DunningState}

/-- A valid transition of a dated cycle always commits. -/
theorem run_TransitionDunning (he : e.StoreWorks) (hr : s.subscribers.lookup id = some r) (hx : r.planExpiry.isSome)
    (hvalid : (r.dunningState, target) ∈ validTransitions) :
    run exec e (TransitionDunning id target) s =
      (.ok (), s.setRow id (r.staged hx target (dunningToSubscriberStatus target))) := by
  unfold TransitionDunning
  rw [db_bind, run_db, he.exec_ok (.getSubscriberDunningState id) rfl
    (GetSubscriberDunningState_eq hr)]
  dsimp only
  rw [if_pos hvalid, db_bind, run_db, he.exec_ok (.setSubscriberDunningState id target _) rfl
    (SetSubscriberDunningState_eq hr hx)]
  rfl

theorem walk_self (target : DunningState) (fuel : ℕ) : walk id target fuel target = .ret (.ok target) := by
  cases fuel with
  | zero => rfl
  | succ fuel => exact if_pos rfl

/-- With enough fuel a walk that has a way ends at its target, with the target's status. -/
theorem run_walk (he : e.StoreWorks) (target : DunningState) (fuel : ℕ) : ∀ {s : DB} {r : Subscriber},
    s.subscribers.lookup id = some r → r.planExpiry.isSome → r.dunningState ≠ target →
    (stepToward r.dunningState target).isSome = true → stepsTo r.dunningState target ≤ fuel →
    ∃ r' s', run exec e (walk id target fuel r.dunningState) s = (.ok target, s') ∧
      s'.subscribers.lookup id = some r' ∧ r'.toSubscriberRow = r.toSubscriberRow.atStage target := by
  induction fuel with
  | zero =>
    intro s r _ _ hne hway hfuel
    have := (stepsTo_pos hne hway).1
    omega
  | succ fuel ih =>
    intro s r hr hx hne hway hfuel
    obtain ⟨next, hnext⟩ := Option.isSome_iff_exists.mp hway
    unfold walk
    rw [if_neg hne, hnext]
    rw [run_bind, run_TransitionDunning he hr hx (stepToward_valid hne hnext)]
    have hr₁ := DB.lookup_setRow s id (r.staged hx next (dunningToSubscriberStatus next))
    by_cases hend : next = target
    · subst hend
      rw [walk_self]
      exact ⟨_, _, rfl, hr₁, rfl⟩
    · obtain ⟨hway', hless⟩ := stepToward_progress hne hnext hend
      have hfuel' : stepsTo next target ≤ fuel := by omega
      obtain ⟨r', s', hrun, hr', hrow⟩ := ih hr₁ hx hend hway' hfuel'
      exact ⟨r', s', hrun, hr', hrow⟩

/-- Without a way the walk fails before its first transition. -/
theorem walk_stuck {state : DunningState} (hne : state ≠ target) (h : stepToward state target = none) :
    walk id target maxSteps state = .ret (.error (.noPath state target)) := by
  unfold maxSteps walk
  rw [if_neg hne, h]
  rfl

/-! ### The queue -/

theorem exec_enqueue {task : Task} (hf : e.fails (.enqueue task) = false)
    {tasks : Indexed Task TaskID Task.taskID} (h : s.tasks.insert task = some tasks) :
    exec e (.db (.enqueue task)) s = (.ok (), { s with tasks := tasks }) :=
  exec_ok hf (EnqueueContext_iff.mpr ⟨tasks, h, rfl⟩)

/-- A call takes no task out of the queue and adds none but the one it is for. -/
theorem exec_tasks (e : Env) (c : Call) (s : DB) :
    ∃ added, (exec e c s).2.tasks.rows = s.tasks.rows ++ added ∧ ∀ task ∈ added, c = .db (.enqueue task) := by
  have hnone : ∀ rows : List Task,
      rows = rows ++ [] ∧ ∀ task ∈ ([] : List Task), c = .db (.enqueue task) :=
    fun rows => ⟨(append_nil rows).symm, fun _ h => absurd h not_mem_nil⟩
  rcases exec_cases e c s with ⟨hc, hx⟩ | ⟨op, err, rfl, hx⟩ | ⟨op, a, s', rfl, htx, hx, heff⟩
  · rw [hx]
    exact ⟨[], hnone _⟩
  · rw [hx]
    exact ⟨[], hnone _⟩
  · rw [hx]
    cases heff with
    | enqueue task _ tasks =>
      obtain ⟨tasks', hins, hr⟩ := EnqueueContext_iff.mp htx
      cases hr
      exact ⟨[task], Indexed.rows_of_insert hins, fun t ht => by rw [mem_singleton.mp ht]⟩
    | recharge p _ _ h =>
      obtain ⟨_, _, _, rfl⟩ := h.frame
      exact ⟨[], hnone _⟩
    | _ => exact ⟨[], hnone _⟩

section
variable {α : Type} {Q : Task → Prop}

/-- A program that queues no tasks but those of `Q`. -/
abbrev Queues (Q : Task → Prop) (p : Service α) : Prop :=
  Prog.Calls (S := sig) (fun c => ∀ task, c = .db (.enqueue task) → Q task) p

theorem queues_db {op : Op} (h : op.isEnqueue = false) {k : Except StoreErr op.Result → Service α}
    (hk : ∀ res, Queues Q (k res)) : Queues Q (db op >>= k) := by
  refine ⟨fun task htask => ?_, hk⟩
  cases htask
  cases h

theorem queues_clock {k : Time → Service α} (hk : ∀ t, Queues Q (k t)) : Queues Q (timeNow >>= k) := by
  refine ⟨fun task htask => ?_, hk⟩
  cases htask

theorem queues_enqueue {task : Task} (h : Q task) {k : Except StoreErr Unit → Service α}
    (hk : ∀ res, Queues Q (k res)) : Queues Q (db (.enqueue task) >>= k) := by
  refine ⟨fun task' htask => ?_, hk⟩
  cases htask
  exact h

/-- What such a program has added to the queue. -/
theorem Queues.added {p : Service α} (h : Queues Q p) (e : Env) (s : DB) :
    ∃ added, (run exec e p s).2.tasks.rows = s.tasks.rows ++ added ∧ ∀ task ∈ added, Q task := by
  refine Prog.Calls.run_inv
    (I := fun s' : DB => ∃ added, s'.tasks.rows = s.tasks.rows ++ added ∧ ∀ task ∈ added, Q task)
    (fun c s' hc hs' => ?_) h ⟨[], (append_nil _).symm, fun _ h => absurd h not_mem_nil⟩
  obtain ⟨old, hold, hQ⟩ := hs'
  obtain ⟨new, hnew, hcall⟩ := exec_tasks e c s'
  refine ⟨old ++ new, by rw [hnew, hold, append_assoc], fun task htask => ?_⟩
  rcases mem_append.mp htask with h | h
  · exact hQ task h
  · exact hc task (hcall task h)

variable (Q : Task → Prop) (sid : ℤ) (target : DunningState)

theorem queues_TransitionDunning :
    Queues Q (TransitionDunning sid target) := by
  refine queues_db rfl fun res => ?_
  cases res with
  | error err => trivial
  | ok q =>
    obtain ⟨current, expiry⟩ := q
    dsimp only
    split
    · exact queues_db rfl fun res => by cases res <;> trivial
    · trivial

theorem queues_walk (fuel : ℕ) : ∀ state,
    Queues Q (walk sid target fuel state) := by
  induction fuel with
  | zero =>
    intro state
    trivial
  | succ fuel ih =>
    intro state
    unfold walk
    split
    · trivial
    split
    · trivial
    refine calls_bind (queues_TransitionDunning Q sid _) fun res => ?_
    cases res with
    | error err => trivial
    | ok u => exact ih _

/-- All a visit queues is a notice to the candidate. -/
theorem queues_visit (now : Time) (c : DunningCandidate) :
    Queues (fun task => ∃ target templateID, task = dunningNotice c target templateID now) (visit now c) := by
  unfold visit
  dsimp only
  split
  · trivial
  refine calls_void (calls_bind (queues_walk _ _ _ _ _) fun res => ?_)
  cases res with
  | error err => trivial
  | ok state =>
    dsimp only
    split
    · unfold notify
      split
      · trivial
      · refine queues_enqueue ⟨_, _, rfl⟩ fun res => ?_
        rcases res with err | u
        · cases err <;> trivial
        · trivial
    · trivial

/-- All a pass queues are notices. -/
theorem queues_dunningScan :
    Queues (fun task => ∃ c target templateID now, task = dunningNotice c target templateID now) Scan := by
  refine queues_db rfl fun res => ?_
  cases res with
  | error err => trivial
  | ok candidates =>
    refine queues_clock fun now => calls_each fun c _ => ?_
    exact Prog.Calls.mono
      (fun _ h task htask => ⟨c, (h task htask).imp fun _ h => h.imp fun _ h => ⟨now, h⟩⟩)
      (queues_visit now c)

end

theorem Queued.run {state : DunningState} {expiry : Time} (h : Queued id state expiry s) {α : Type}
    (p : Service α) (e : Env) : Queued id state expiry (run exec e p s).2 := by
  refine run_inv (fun c s hs => ?_) p h
  obtain ⟨added, hadded, -⟩ := exec_tasks e c s
  unfold Queued
  rw [hadded, filterMap_append]
  exact mem_append_left _ hs

variable {c : DunningCandidate} {now : Time} {σ : Type} {templateID : String} {cs : List DunningCandidate}

/-- All a notification does is one call to the queue. -/
theorem run_notify (M : Store sig Env σ) (htemplate : TemplateForDunningState target = some templateID) (s : σ) :
    (run M e (notify c target now) s).2 = (M e (.db (.enqueue (dunningNotice c target templateID now))) s).2 := by
  simp only [notify, htemplate, db_bind, run_db]
  generalize M e (.db (.enqueue (dunningNotice c target templateID now))) s = out
  obtain ⟨res, s'⟩ := out
  rcases res with err | u
  · cases err <;> rfl
  · rfl

/-- A notice whose enqueue is not failed is in the queue afterwards: put there now, or refused because
    it already was. -/
theorem notify_queued (htemplate : TemplateForDunningState target = some templateID)
    (hf : e.fails (.enqueue (dunningNotice c target templateID now)) = false) :
    Queued c.subscriberID target c.planExpiry (run exec e (notify c target now) s).2 := by
  have hkey : (dunningNotice c target templateID now).taskID =
      some (.dunning c.subscriberID target (Time.unix c.planExpiry)) := rfl
  rw [run_notify exec htemplate]
  cases hins : s.tasks.insert (dunningNotice c target templateID now) with
  | some tasks =>
    rw [exec_enqueue hf hins]
    change _ ∈ tasks.rows.filterMap Task.taskID
    rw [Indexed.rows_of_insert hins, filterMap_append]
    exact mem_append_right _ (by simp [hkey])
  | none =>
    obtain ⟨added, hadded, -⟩ := exec_tasks e (.db (.enqueue (dunningNotice c target templateID now))) s
    unfold Queued
    rw [hadded, filterMap_append]
    exact mem_append_left _ ((Indexed.insert_eq_none hkey).mp hins)

/-! ### One visit -/

/-- A visit to a candidate that does not move does nothing, whoever runs it. -/
theorem visit_stays (M : Store sig Env σ) (h : moves c.state c.planExpiry now = false) (s : σ) :
    (run M e (visit now c) s).2 = s := by
  unfold visit
  unfold moves at h
  generalize NextDunningState c.state c.planExpiry now = target at h
  by_cases heq : target = c.state
  · rw [if_pos heq]
    rfl
  · have hstep : stepToward c.state target = none := by simpa [heq] using h
    rw [if_neg heq, advance, walk_stuck (Ne.symm heq) hstep]
    rfl

/-- A visit to a candidate that moves and whose row is as listed: the stage of the date, and its
    notice. -/
theorem visit_moves (he : e.StoreWorks)
    (hr : s.subscribers.lookup c.subscriberID = some r) (hstate : c.state = r.dunningState)
    (hx : r.planExpiry = some c.planExpiry) (htarget : NextDunningState c.state c.planExpiry e.now = target)
    (hmoves : moves c.state c.planExpiry e.now = true) :
    (∃ r', (run exec e (visit e.now c) s).2.subscribers.lookup c.subscriberID =
        some r' ∧ r'.toSubscriberRow = r.toSubscriberRow.atStage target) ∧
    ∀ templateID, TemplateForDunningState target = some templateID →
      e.fails (.enqueue (dunningNotice c target templateID e.now)) = false →
      Queued c.subscriberID target c.planExpiry
        (run exec e (visit e.now c) s).2 := by
  rw [moves, htarget, hstate] at hmoves
  obtain ⟨heq, hway⟩ : target ≠ r.dunningState ∧ (stepToward r.dunningState target).isSome = true := by
    simpa using hmoves
  unfold visit
  rw [htarget, hstate]
  rw [if_neg heq, run_void, advance, run_bind, hstate]
  have hfuel := (stepsTo_pos (Ne.symm heq) hway).2
  obtain ⟨r', s', hrun, hr', hrow⟩ := run_walk he target maxSteps hr
    (by rw [hx]; rfl) (Ne.symm heq) hway hfuel
  rw [hrun]
  dsimp only
  rw [if_pos rfl]
  -- the notice is beside the row
  refine ⟨⟨r', (asides_notify c target e.now).makes.spares e hr', hrow⟩, fun templateID htemplate hf => ?_⟩
  exact notify_queued htemplate hf

/-! ### One pass -/

/-- The state a pass leads to. -/
def scanPass (e : Env) (s : DB) : DB := (Prog.run exec e DunningScanner.Scan s).2

/-- Visiting other candidates leaves the subscriber's row as it is. -/
theorem visits_spare (hcs : ∀ c ∈ cs, c.subscriberID ≠ id) (now : Time) (hr : s.subscribers.lookup id = some r) :
    (run exec e (Prog.each (visit now) cs) s).2.subscribers.lookup id = some r := by
  refine Makes.spares (calls_each fun c hc => ?_) _ hr
  refine Makes.mono (fun op hop => ?_) (makes_visit now c)
  obtain ⟨state, rfl⟩ := hop.isDunning
  exact fun hid => hcs c hc (Option.some.inj hid)

/-- A pass that can read the candidates visits them one by one: each subscriber at most once, and
    exactly those whose row makes them one. -/
theorem scanPass_visits (e : Env) (s : DB) : ∃ cs : List DunningCandidate,
    scanPass e s = (if e.fails .listDunningCandidates then s
      else (run exec e (Prog.each (visit e.now) cs) s).2) ∧
    (cs.map DunningCandidate.subscriberID).Nodup ∧
    ∀ c, c ∈ cs ↔ ∃ id r, s.subscribers.lookup id = some r ∧ dunningCandidate? e.now id r = some c := by
  obtain ⟨cs, hlist⟩ : ∃ cs, ListDunningCandidates e.now s = .ok (cs, s) := ⟨_, rfl⟩
  obtain ⟨hperm, -⟩ := ListDunningCandidates_ok hlist
  refine ⟨cs, ?_, ?_, fun c => hperm.mem_iff.trans mem_candidates⟩
  · unfold scanPass Scan
    rw [db_bind, run_db]
    by_cases hf : e.fails .listDunningCandidates = true
    · have hx : exec e (.db .listDunningCandidates) s = (.error .unavailable, s) := if_pos hf
      rw [hx, if_pos hf]
      rfl
    · have hx : exec e (.db .listDunningCandidates) s = (.ok cs, s) := exec_ok (by simpa using hf) hlist
      rw [hx, if_neg hf]
      rfl
  · exact (hperm.map _).nodup_iff.mpr (nodup_candidates fun id r c h => (dunningCandidate?_some h).1)

/-- The subscriber's own candidate in the list, and others around it. -/
theorem own_candidate (hnd : (cs.map DunningCandidate.subscriberID).Nodup) (hc : c ∈ cs) :
    ∃ before after, cs = before ++ c :: after ∧ (∀ c' ∈ before, c'.subscriberID ≠ c.subscriberID) ∧
      ∀ c' ∈ after, c'.subscriberID ≠ c.subscriberID := by
  obtain ⟨before, after, rfl⟩ := append_of_mem hc
  rw [map_append, map_cons, nodup_middle, nodup_cons, mem_append] at hnd
  exact ⟨before, after, rfl,
    fun c' hc' heq => hnd.1 (Or.inl (mem_map.mpr ⟨c', hc', heq⟩)),
    fun c' hc' heq => hnd.1 (Or.inr (mem_map.mpr ⟨c', hc', heq⟩))⟩

/-- A pass leaves alone whoever it does not list. -/
theorem scanPass_unlisted (e : Env) (hr : s.subscribers.lookup id = some r)
    (h : dunningCandidate? e.now id r = none) : (scanPass e s).subscribers.lookup id = some r := by
  obtain ⟨cs, hpass, -, hmem⟩ := scanPass_visits e s
  rw [hpass]
  split
  · exact hr
  refine visits_spare (fun c hc hid => ?_) _ hr
  obtain ⟨id', r', hr', hc'⟩ := (hmem c).mp hc
  cases (dunningCandidate?_some hc').1.symm.trans hid
  cases hr'.symm.trans hr
  cases hc'.symm.trans h

/-- The row after a pass: the stage it is due, if it is due one. And the notice of that stage is in the
    queue unless its enqueue was failed. -/
theorem scanPass_spec (he : e.StoreWorks) (hr : s.subscribers.lookup id = some r) :
    (∃ r', (scanPass e s).subscribers.lookup id = some r' ∧
      r'.toSubscriberRow = r.toSubscriberRow.afterPass (dueStage e.now id r)) ∧
    ∀ c state templateID, dunningCandidate? e.now id r = some c →
      dueStage e.now id r = some state → TemplateForDunningState state = some templateID →
      e.fails (.enqueue (dunningNotice c state templateID e.now)) = false →
      Queued id state c.planExpiry (scanPass e s) := by
  unfold dueStage
  cases hcand : dunningCandidate? e.now id r with
  | none =>
    refine ⟨⟨r, scanPass_unlisted e hr hcand, rfl⟩, fun c _ _ hc => ?_⟩
    cases hc
  | some c =>
    obtain ⟨rfl, hstate, hx⟩ := dunningCandidate?_some hcand
    obtain ⟨cs, hpass, hnd, hmem⟩ := scanPass_visits e s
    obtain ⟨before, after, rfl, hbefore, hafter⟩ := own_candidate hnd ((hmem c).mpr ⟨_, r, hr, hcand⟩)
    have hspared := visits_spare (e := e) hbefore e.now hr
    have hlists : ¬ e.fails .listDunningCandidates = true := by simp [he .listDunningCandidates rfl]
    rw [hpass, if_neg hlists, run_each_append, Prog.each, run_bind, Option.bind_some]
    split
    · rename_i hmoves
      obtain ⟨⟨r', hr', hrow⟩, hqueued⟩ := visit_moves he hspared hstate hx rfl hmoves
      refine ⟨⟨r', visits_spare hafter _ hr', hrow⟩, ?_⟩
      rintro c' state templateID ⟨⟩ ⟨⟩ htemplate hf
      exact (hqueued templateID htemplate hf).run _ e
    · rename_i hmoves
      rw [visit_stays exec (by simpa using hmoves)]
      refine ⟨⟨r, visits_spare hafter _ hspared, rfl⟩, ?_⟩
      rintro c' state templateID ⟨⟩ ⟨⟩

end

end IspBss
