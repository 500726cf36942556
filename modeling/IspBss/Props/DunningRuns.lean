import IspBss.Lib.Runs
import IspBss.Props.DunningSteps

/-! What a run of dunning passes does to a subscriber who does not pay.

    Four encodings of one ladder have to agree: the thresholds of `NextDunningState`, the order in
    `stepToward`, the edges of `validTransitions` and the filter of `ListDunningCandidates`. With a
    fixed expiry date the thresholds only go up with time; a stage that has not passed its threshold
    has a way up; and whoever is due a stage is listed. So the subscriber climbs, pass by pass, and is
    told once per stage.

        day  −7        −3        −1         0              +3               +6
        active │ remind_7d │ remind_3d │ remind_1d │ grace_period │ soft_suspended │ hard_suspended

    The notice is queued after the stage is written. If that fails, the stage already agrees with the
    date and no later pass looks at the notice again. -/

namespace IspBss

open Lib DunningScanner List Prog Option Run BillingStore SubscriberRow DunningState

/-! ### The ladder and the calendar -/

/-- The place of a stage on the ladder. -/
def rung (state : DunningState) : ℕ := ladder.idxOf state

/-- Where the date alone puts a subscriber. -/
def stageAt (x t : Time) : DunningState := NextDunningState .active x t

variable {state : DunningState} {x t : Time}

theorem rung_inj {state' : DunningState} (h : rung state = rung state') : state = state' := by
  revert h
  cases state <;> cases state' <;> decide

theorem rung_of_running (h : dunningToSubscriberStatus state = .active) : rung state < rung .gracePeriod := by
  revert h
  cases state <;> decide

theorem stageAt_eq (x t : Time) : stageAt x t =
    if x - t ≤ -6 * day then .hardSuspended
    else if x - t ≤ -3 * day then .softSuspended
    else if x - t ≤ 0 then .gracePeriod
    else if x - t ≤ 1 * day then .remind1d
    else if x - t ≤ 3 * day then .remind3d else if x - t ≤ 7 * day then .remind7d else .active := by
  unfold stageAt NextDunningState
  rw [if_neg (by simp)]
  rfl

/-- One threshold over the rest of the ladder: whoever passes it first stays ahead. -/
theorem rung_threshold_mono {p p' : Prop} [Decidable p] [Decidable p'] (hp : p → p') {a b b' : DunningState}
    (hb : rung b ≤ rung b' ∧ rung b' < rung a) :
    rung (if p then a else b) ≤ rung (if p' then a else b') ∧ rung (if p' then a else b') ≤ rung a := by
  obtain ⟨hle, hlt⟩ := hb
  by_cases hlate : p'
  · rw [if_pos hlate]
    refine ⟨?_, le_rfl⟩
    split
    · exact le_rfl
    · exact hle.trans hlt.le
  · rw [if_neg hlate, if_neg (mt hp hlate)]
    exact ⟨hle, hlt.le⟩

/-- The thresholds go up with time. -/
theorem stageAt_mono {t' : Time} (h : t ≤ t') : rung (stageAt x t) ≤ rung (stageAt x t') := by
  have hpass : ∀ {k : Time}, x - t ≤ k → x - t' ≤ k := fun hk => (sub_le_sub_left h x).trans hk
  have up : ∀ {b b' a a' : DunningState}, rung b ≤ rung b' ∧ rung b' ≤ rung a → rung a < rung a' →
      rung b ≤ rung b' ∧ rung b' < rung a' := fun hb ha => ⟨hb.1, hb.2.trans_lt ha⟩
  rw [stageAt_eq, stageAt_eq]
  have h7d := rung_threshold_mono (a := .remind7d) (hpass (k := 7 * day)) ⟨le_refl (rung .active), by decide⟩
  have h3d := rung_threshold_mono (a := .remind3d) (hpass (k := 3 * day)) (up h7d (by decide))
  have h1d := rung_threshold_mono (a := .remind1d) (hpass (k := 1 * day)) (up h3d (by decide))
  have hgrace := rung_threshold_mono (a := .gracePeriod) (hpass (k := 0)) (up h1d (by decide))
  have hsoft := rung_threshold_mono (a := .softSuspended) (hpass (k := -3 * day)) (up hgrace (by decide))
  exact (rung_threshold_mono (hpass) (up hsoft (by decide))).1

/-- For a stage that has not passed it, the date alone decides. -/
theorem next_eq_stageAt (h : rung state ≤ rung (stageAt x t)) : NextDunningState state x t = stageAt x t := by
  by_cases hback : t < x ∧ (state = .gracePeriod ∨ state = .softSuspended ∨ state = .hardSuspended)
  · -- before the date no such stage has been reached
    obtain ⟨hlt, hstate⟩ := hback
    have hlow := rung_of_running (status_of_running .active hlt)
    have hhigh : rung .gracePeriod ≤ rung state := by
      rcases hstate with rfl | rfl | rfl <;> decide
    exact absurd hlow (not_lt.mpr (hhigh.trans h))
  · have hactive : ¬(t < x ∧ (active = .gracePeriod ∨ active = .softSuspended ∨
        active = .hardSuspended)) := by simp
    unfold stageAt NextDunningState
    rw [if_neg hback, if_neg hactive]

/-- A way up always exists. -/
theorem stepToward_up {target : DunningState} (h : rung state < rung target) :
    (stepToward state target).isSome = true := by
  revert h
  cases state <;> cases target <;> decide

section
variable {id : ℤ} {r : Subscriber} {x t : Time}

/-- Whoever is listed at stage `active` has left it by the calendar. -/
theorem stageAt_of_listed (hx : r.planExpiry = some x) (hstage : r.dunningState = .active)
    (h : (dunningCandidate? t id r).isSome = true) : stageAt x t ≠ .active := by
  unfold dunningCandidate? at h
  rw [hx] at h
  dsimp only at h
  split at h
  · rename_i hlisted
    rw [hstage] at hlisted
    have hnear : x ≤ t + 7 * day := by simpa using hlisted.2
    rw [stageAt_eq]
    split_ifs <;> first | decide | (exfalso; linarith)
  · cases h

theorem dueStage_unlisted (h : dunningCandidate? t id r = none) : dueStage t id r = none := by
  rw [dueStage, h]
  rfl

/-- What is due a subscriber who has not passed the date's stage: nothing, where it is at that stage if it is
    listed, or that stage, which is above. -/
theorem dueStage_cases (id : ℤ) (hx : r.planExpiry = some x) (h : rung r.dunningState ≤ rung (stageAt x t)) :
    dueStage t id r = none ∧ ((dunningCandidate? t id r).isSome = true → stageAt x t = r.dunningState) ∨
    dueStage t id r = some (stageAt x t) ∧ rung r.dunningState < rung (stageAt x t) := by
  cases hc : dunningCandidate? t id r with
  | none => exact .inl ⟨dueStage_unlisted hc, nofun⟩
  | some c =>
    obtain ⟨-, hstate, hexp⟩ := dunningCandidate?_some hc
    cases hx.symm.trans hexp
    rw [dueStage, hc, bind_some, hstate, moves, next_eq_stageAt h]
    by_cases heq : stageAt c.planExpiry t = r.dunningState
    · exact .inl ⟨if_neg (by simp [heq]), fun _ => heq⟩
    · have hlt := lt_of_le_of_ne h fun hr => heq (rung_inj hr).symm
      exact .inr ⟨by simp [heq, stepToward_up hlt], hlt⟩

end

/-! ### Which notices a pass queues -/

/-- The stage a call would notify the subscriber of. -/
def Call.noticeFor (id : ℤ) : Call → Option DunningState
  | .db (.enqueue task) =>
    match task.payload with
    | .dunningNotice subscriberID _ state _ _ => if subscriberID = id then some state else none
    | _ => none
  | _ => none

/-- The stages the subscriber was notified of, in order: the notices that were queued. -/
def notices (id : ℤ) (history : List (Event sig Env DB)) : List DunningState :=
  history.filterMap fun ev => if succeeded ev.call ev.resp then ev.call.noticeFor id else none

section
variable {id : ℤ} {e : Env} {α : Type} {p : Service α} {now : Time}

theorem notices_call (id : ℤ) (e : Env) (c : Call) (s : DB × List (Event sig Env DB)) :
    notices id (traced exec e c s).2.2 = notices id s.2 ∨
    ∃ state, c.noticeFor id = some state ∧
      notices id (traced exec e c s).2.2 = notices id s.2 ++ [state] := by
  unfold notices traced
  by_cases hok : succeeded c (exec e c s.1).1 = true
  · cases hc : c.noticeFor id with
    | none => exact .inl (by simp [hok, hc])
    | some state => exact .inr ⟨state, rfl, by simp [hok, hc]⟩
  · exact .inl (by simp [hok])

/-- A program that notifies the subscriber of nothing. -/
abbrev Silent (id : ℤ) (p : Service α) : Prop := Prog.Calls (S := sig) (fun c => c.noticeFor id = none) p

theorem notices_silent (h : Silent id p) (s : DB × List (Event sig Env DB)) :
    notices id (run (traced exec) e p s).2.2 = notices id s.2 := by
  refine Prog.Calls.run_inv (M := traced exec) (I := fun s' => notices id s'.2 = notices id s.2)
    (fun c s' hc hs' => ?_) h rfl
  rcases notices_call id e c s' with hsame | ⟨state, hstate, -⟩
  · exact hsame.trans hs'
  · rw [hc] at hstate
    cases hstate

/-- Only queueing a notice to the subscriber notifies it. -/
theorem Queues.silent (h : Queues (fun task => (Call.db (.enqueue task)).noticeFor id = none) p) : Silent id p := by
  refine Prog.Calls.mono (fun c hc => ?_) h
  unfold Call.noticeFor
  split
  · rename_i task
    exact hc task rfl
  · rfl

/-- A visit to somebody else. -/
theorem silent_visit {c : DunningCandidate} (hc : c.subscriberID ≠ id) (now : Time) : Silent id (visit now c) := by
  refine Queues.silent (Prog.Calls.mono (fun _ hcall task htask => ?_) (queues_visit now c))
  obtain ⟨target, templateID, rfl⟩ := hcall task htask
  exact if_neg hc

variable {due : Option DunningState} {s : DB × List (Event sig Env DB)}

/-- The program, run here, notifies the subscriber at most once, and then of the stage it is due. -/
def Notifies (id : ℤ) (e : Env) (due : Option DunningState) (p : Service α) (s : DB × List (Event sig Env DB)) : Prop :=
  notices id (run (traced exec) e p s).2.2 = notices id s.2 ∨
  ∃ state ∈ due, notices id (run (traced exec) e p s).2.2 = notices id s.2 ++ [state]

theorem Notifies.after {β : Type} {f : α → Service β} (hp : Silent id p)
    (h : Notifies id e due (f (run (traced exec) e p s).1) (run (traced exec) e p s).2) : Notifies id e due (p >>= f) s := by
  rw [Notifies, notices_silent hp] at h
  rw [Notifies, run_bind]
  exact h

variable (c : DunningCandidate)

theorem notify_notifies (target : DunningState) (s : DB × List (Event sig Env DB)) :
    Notifies c.subscriberID e (some target) (notify c target now) s := by
  cases htemplate : TemplateForDunningState target with
  | none =>
    unfold notify
    rw [htemplate]
    exact .inl rfl
  | some templateID =>
    rw [Notifies, run_notify (traced exec) htemplate]
    refine (notices_call c.subscriberID e (.db (.enqueue (dunningNotice c target templateID now))) s).imp_right ?_
    rintro ⟨state, hstate, hsnoc⟩
    exact ⟨state, mem_def.mpr (hstate.symm.trans (if_pos rfl)).symm, hsnoc⟩

/-- A visit queues at most one notice: of the stage it moves to. -/
theorem visit_notifies (s : DB × List (Event sig Env DB)) : Notifies c.subscriberID e
    (if moves c.state c.planExpiry now then some (NextDunningState c.state c.planExpiry now) else none)
    (visit now c) s := by
  by_cases hmoves : moves c.state c.planExpiry now = true
  · rw [if_pos hmoves]
    unfold visit
    generalize NextDunningState c.state c.planExpiry now = target
    dsimp only
    split
    · exact .inl rfl
    rw [Notifies, Prog.run_void]
    refine Notifies.after (Queues.silent (queues_walk _ c.subscriberID target maxSteps c.state)) ?_
    cases (run (traced exec) e (walk c.subscriberID target maxSteps c.state) s).1 with
    | error err => exact .inl rfl
    | ok state =>
      dsimp only
      split
      · exact notify_notifies c target _
      · exact .inl rfl
  · rw [Notifies, visit_stays (traced exec) (by simpa using hmoves)]
    exact .inl rfl

/-- So do all visits of a pass together. -/
theorem visits_notify {cs : List DunningCandidate} (hnd : (cs.map DunningCandidate.subscriberID).Nodup)
    (hdue : ∀ c ∈ cs, c.subscriberID = id → due = if moves c.state c.planExpiry now then
      some (NextDunningState c.state c.planExpiry now) else none) (s : DB × List (Event sig Env DB)) :
    Notifies id e due (Prog.each (visit now) cs) s := by
  have hothers : ∀ {cs : List DunningCandidate} (s : DB × List (Event sig Env DB)),
      (∀ c ∈ cs, c.subscriberID ≠ id) →
      notices id (run (traced exec) e (Prog.each (visit now) cs) s).2.2 = notices id s.2 := fun s hcs =>
    notices_silent (Prog.calls_each fun c hc => silent_visit (hcs c hc) now) s
  by_cases hown : ∃ c ∈ cs, c.subscriberID = id
  · obtain ⟨c, hc, rfl⟩ := hown
    rw [hdue c hc rfl]
    obtain ⟨before, after, rfl, hbefore, hafter⟩ := own_candidate hnd hc
    rw [Notifies, Prog.run_each_append, Prog.each, Prog.run_bind, hothers _ hafter, ← hothers s hbefore]
    exact visit_notifies c _
  · exact .inl (hothers s fun c hc hid => hown ⟨c, hc, hid⟩)

/-- A pass queues at most one notice for the subscriber: of the stage it is due. -/
theorem scan_notifies {s : DB} {r : Subscriber} (hr : s.subscribers.lookup id = some r) (h : List (Event sig Env DB)) :
    Notifies id e (dueStage e.now id r) Scan (s, h) := by
  refine Notifies.after (p := db .listDunningCandidates) ⟨rfl, fun _ => trivial⟩ ?_
  have hfst : (run (traced exec) e (db .listDunningCandidates) (s, h)).1 =
    (exec e (.db .listDunningCandidates) s).1 := rfl
  rw [hfst]
  rcases exec_db_cases e .listDunningCandidates s with ⟨err, hx⟩ | ⟨cs, s', htx, hx, -⟩
  · rw [hx]
    exact .inl rfl
  rw [hx]
  obtain ⟨hperm, rfl⟩ := ListDunningCandidates_ok htx
  have hnd : (cs.map DunningCandidate.subscriberID).Nodup :=
    (hperm.map _).nodup_iff.mpr (nodup_candidates fun id r c h => (dunningCandidate?_some h).1)
  refine Notifies.after (p := timeNow) ⟨rfl, fun _ => trivial⟩ (visits_notify hnd (fun c hc hid => ?_) _)
  obtain ⟨id', r', hr', hcand⟩ := mem_candidates.mp (hperm.mem_iff.mp hc)
  obtain rfl : id' = id := (dunningCandidate?_some hcand).1.symm.trans hid
  cases hr.symm.trans hr'
  rw [dueStage, hcand]
  rfl

end

/-! ### A run of passes -/

/-- The time of the last pass, the database, and all that was ever asked of it. -/
structure DunningWorld where
  now : Time
  db : DB
  history : List (Event sig Env DB)

/-- A pass, with every call succeeding, and whatever else happens before the next one. -/
def DunningWorld.pass (w : DunningWorld) (p : Time × (DB → DB)) : DunningWorld :=
  let out := Prog.run (traced exec) (.at p.1) DunningScanner.Scan (w.db, w.history)
  ⟨p.1, p.2 out.2.1, out.2.2⟩

/-- A pass of a world in which the subscriber is as far up the ladder as its date allows: it is left
    there or taken to the stage of the date, and told at most of that. -/
def ClimbsAt (id : ℤ) (x : Time) (w : DunningWorld) (p : Time × (DB → DB)) : Prop :=
  ∃ r r', w.db.subscribers.lookup id = some r ∧ (w.pass p).db.subscribers.lookup id = some r' ∧
    rung r.dunningState ≤ rung r'.dunningState ∧
    ((dunningCandidate? p.1 id r).isSome = true →
      r'.dunningState = NextDunningState r.dunningState x p.1 ∧
      r'.status = dunningToSubscriberStatus r'.dunningState) ∧
    (notices id (w.pass p).history = notices id w.history ∨
      notices id (w.pass p).history = notices id w.history ++ [r'.dunningState])

/-- What holds of the subscriber between the passes. -/
structure Climbing (id : ℤ) (x : Time) (w : DunningWorld) (r : Subscriber) : Prop where
  row : w.db.subscribers.lookup id = some r
  expiry : r.planExpiry = some x
  stage : rung r.dunningState ≤ rung (stageAt x w.now)
  status : r.dunningState = .active ∨ r.status = dunningToSubscriberStatus r.dunningState
  nodup : (notices id w.history).Nodup
  below : ∀ state ∈ notices id w.history, rung state ≤ rung r.dunningState

section
variable {id : ℤ} {x : Time} {w : DunningWorld} {p : Time × (DB → DB)} {r : Subscriber}

/-- The row after a pass, whatever else happens being elsewhere. -/
theorem pass_row (hkeep : ∀ s, (p.2 s).subscribers.lookup id = s.subscribers.lookup id)
    (hr : w.db.subscribers.lookup id = some r) :
    ∃ r', (w.pass p).db.subscribers.lookup id = some r' ∧
      r'.toSubscriberRow = r.toSubscriberRow.afterPass (dueStage p.1 id r) := by
  obtain ⟨⟨r', hr', hrow⟩, -⟩ := scanPass_spec (Env.at_storeWorks p.1) hr
  refine ⟨r', ?_, hrow⟩
  rw [DunningWorld.pass, hkeep, (Prog.run_traced exec (.at p.1) Scan w.db w.history).2]
  exact hr'

/-- One pass, later than the last. -/
theorem Climbing.pass (h : Climbing id x w r) (htime : w.now ≤ p.1)
    (hkeep : ∀ s, (p.2 s).subscribers.lookup id = s.subscribers.lookup id) :
    ClimbsAt id x w p ∧ ∃ r', Climbing id x (w.pass p) r' := by
  have hle : rung r.dunningState ≤ rung (stageAt x p.1) := h.stage.trans (stageAt_mono htime)
  obtain ⟨r', hr', hrow⟩ := pass_row hkeep h.row
  have htold := scan_notifies (e := .at p.1) h.row w.history
  change notices id (w.pass p).history = _ ∨ ∃ state ∈ dueStage p.1 id r,
    notices id (w.pass p).history = _ at htold
  -- the row stays and nothing is queued, or it goes up and the notice is of a stage above all those before
  obtain ⟨hup, htop, hstatus, hnext, hqueued⟩ : rung r.dunningState ≤ rung r'.dunningState ∧
      rung r'.dunningState ≤ rung (stageAt x p.1) ∧
      (r'.dunningState = .active ∨ r'.status = dunningToSubscriberStatus r'.dunningState) ∧
      ((dunningCandidate? p.1 id r).isSome = true → r'.dunningState = stageAt x p.1 ∧
        r'.status = dunningToSubscriberStatus r'.dunningState) ∧
      (notices id (w.pass p).history = notices id w.history ∨ rung r.dunningState < rung r'.dunningState ∧
        notices id (w.pass p).history = notices id w.history ++ [r'.dunningState]) := by
    rcases dueStage_cases id h.expiry hle with ⟨hdue, hat⟩ | ⟨hdue, hlt⟩
    · rw [hdue] at hrow htold
      have hstage : r'.dunningState = r.dunningState := by rw [hrow]; rfl
      have hstatus : r'.status = r.status := by rw [hrow]; rfl
      rw [hstage, hstatus]
      refine ⟨le_rfl, hle, h.status, fun hlisted => ⟨(hat hlisted).symm, h.status.resolve_left ?_⟩, .inl ?_⟩
      · exact fun hactive => stageAt_of_listed h.expiry hactive hlisted ((hat hlisted).trans hactive)
      · simpa using htold
    · rw [hdue] at hrow htold
      have hstage : r'.dunningState = stageAt x p.1 := by rw [hrow]; rfl
      have hstatus : r'.status = dunningToSubscriberStatus (stageAt x p.1) := by rw [hrow]; rfl
      rw [hstage, hstatus]
      refine ⟨hle, le_rfl, .inr rfl, fun _ => ⟨rfl, rfl⟩, htold.imp_right fun hsnoc => ⟨hlt, ?_⟩⟩
      simpa using hsnoc
  refine ⟨⟨r, r', h.row, hr', hup, fun hlisted => ?_, hqueued.imp_right And.right⟩,
    r', hr', ?_, htop, hstatus, ?_, fun state hstate => ?_⟩
  · rw [next_eq_stageAt hle]
    exact hnext hlisted
  · rw [hrow, ← h.expiry]
    cases dueStage p.1 id r <;> rfl
  · rcases hqueued with hsame | ⟨hlt, hsnoc⟩
    · exact hsame ▸ h.nodup
    · rw [hsnoc]
      refine nodup_append.mpr ⟨h.nodup, nodup_singleton _, fun a ha b hb hab => ?_⟩
      rw [mem_singleton] at hb
      subst hab hb
      exact absurd (h.below _ ha) (not_le.mpr hlt)
  · rcases hqueued with hsame | ⟨-, hsnoc⟩
    · rw [hsame] at hstate
      exact (h.below state hstate).trans hup
    · rw [hsnoc, mem_append, mem_singleton] at hstate
      rcases hstate with hold | rfl
      · exact (h.below state hold).trans hup
      · exact le_rfl

end

/-- A subscriber at stage `active` with a fixed expiry date, and any passes at nondecreasing times,
    whatever else happens between them. Each pass leaves the stage or raises it; one that lists the
    subscriber leaves it at the stage `NextDunningState` gives, with the status of that stage; each
    queues at most one notice, of the stage it leaves the subscriber at; and over the whole run no
    stage is notified twice. -/
theorem dunning_climbs (id : ℤ) (s : DB) (t₀ x : Time) (r : Subscriber)
    (hr : s.subscribers.lookup id = some r) (hx : r.planExpiry = some x) (hstage : r.dunningState = .active)
    (passes : List (Time × (DB → DB)))
    (htimes : Meets DunningWorld.pass (fun w p => w.now ≤ p.1) ⟨t₀, s, []⟩ passes)
    (hkeep : ∀ p ∈ passes, ∀ s, (p.2 s).subscribers.lookup id = s.subscribers.lookup id) :
    (∀ pre p, pre ++ [p] <+: passes → ClimbsAt id x (run DunningWorld.pass ⟨t₀, s, []⟩ pre) p) ∧
    (notices id (run DunningWorld.pass ⟨t₀, s, []⟩ passes).history).Nodup := by
  have hstart : Climbing id x ⟨t₀, s, []⟩ r :=
    { row := hr, expiry := hx, stage := by rw [hstage]; exact Nat.zero_le _, status := .inl hstage,
      nodup := nodup_nil, below := fun _ h => absurd h not_mem_nil }
  have hmeets := htimes.and_mem hkeep
  have hinv : ∀ pre, pre <+: passes → ∃ r, Climbing id x (run DunningWorld.pass ⟨t₀, s, []⟩ pre) r :=
    fun pre hpre => always (I := fun w => ∃ r, Climbing id x w r)
      (fun w p ⟨r, hr⟩ hp => (hr.pass hp.1 hp.2).2) ⟨r, hstart⟩ hmeets hpre
  refine ⟨fun pre p hpre => ?_, ?_⟩
  · obtain ⟨later, rfl⟩ := hpre
    obtain ⟨r', hr'⟩ := hinv pre ⟨[p] ++ later, by simp⟩
    rw [append_assoc] at hmeets
    obtain ⟨htime, hrow⟩ := ((meets_append pre).mp hmeets).2.1
    exact (hr'.pass htime hrow).1
  · obtain ⟨r', hr'⟩ := hinv passes (prefix_refl _)
    exact hr'.nodup

/-- One subscriber whose cycle ends on day 0. -/
def oneLapsed : DB := .seeded ((∅ : Table Subscriber).insert 1 (.paidUntil 0))

/-- Three passes over a subscriber whose cycle ended on day 0: grace on day 1 and still on day 2,
    then, after a week in which nobody looked, straight to the end of the ladder. Two notices. -/
theorem lapsed_subscriber_told_twice :
    notices 1 (run DunningWorld.pass ⟨0, oneLapsed, []⟩
      [(day, id), (2 * day, id), (9 * day, id)]).history = [.gracePeriod, .hardSuspended] ∧
    (notices 1 (run DunningWorld.pass ⟨0, oneLapsed, []⟩
      [(day, id), (2 * day, id), (9 * day, id)]).history).Nodup :=
  ⟨by decide +kernel, (dunning_climbs 1 oneLapsed 0 0 (.paidUntil 0) rfl rfl rfl
    [(day, id), (2 * day, id), (9 * day, id)] (by decide +kernel)
    (by simp)).2⟩

/-! ### A notice that could not be queued -/

/-- The pass takes the subscriber, whose cycle ends at `x`, to this stage. -/
def TakenTo (id : ℤ) (state : DunningState) (x : Time) (s : DB) (e : Env) : Prop :=
  ∃ r r', s.subscribers.lookup id = some r ∧ (scanPass e s).subscribers.lookup id = some r' ∧
    r.dunningState ≠ state ∧ r'.dunningState = state ∧ r'.planExpiry = some x

/-- A run of passes, each in an environment of its own. -/
def scanPasses (s : DB) (envs : List Env) : DB := run (fun s e => scanPass e s) s envs

/-- No notice is lost: when a pass takes the subscriber to a stage with a template, and a later pass
    finds it still there and can queue, then the notice has been queued. -/
def NoticesKept (id : ℤ) (s : DB) (envs : List Env) : Prop :=
  ∀ pre e mid f, pre ++ e :: (mid ++ [f]) <+: envs → ∀ state x r,
    TakenTo id state x (scanPasses s pre) e → (TemplateForDunningState state).isSome = true →
    (scanPasses s (pre ++ e :: mid)).subscribers.lookup id = some r → r.dunningState = state →
    (∀ task, f.fails (.enqueue task) = false) →
    Queued id state x (scanPasses s (pre ++ e :: (mid ++ [f])))

/-- The pass can queue the notice of the stage it takes the subscriber to. -/
def NoticeGoesOut (id : ℤ) (s : DB) (e : Env) : Prop :=
  ∀ r c state templateID, s.subscribers.lookup id = some r →
    dunningCandidate? e.now id r = some c → dueStage e.now id r = some state →
    TemplateForDunningState state = some templateID →
    e.fails (.enqueue (dunningNotice c state templateID e.now)) = false

section
variable {id : ℤ} {state : DunningState} {x : Time} {s : DB} {e : Env}

/-- The pass that takes the subscriber to a stage leaves its notice in the queue. -/
theorem queued_of_takenTo (he : e.StoreWorks) (hgoes : NoticeGoesOut id s e) (h : TakenTo id state x s e)
    (htemplate : (TemplateForDunningState state).isSome = true) : Queued id state x (scanPass e s) := by
  obtain ⟨r, r', hr, hr', hne, hstate, hx⟩ := h
  obtain ⟨⟨r₁, hr₁, hrow⟩, hqueued⟩ := scanPass_spec he hr
  cases hr'.symm.trans hr₁
  cases hdue : dueStage e.now id r with
  | none =>
    rw [hdue] at hrow
    exact absurd ((congrArg dunningState hrow).symm.trans hstate) hne
  | some state' =>
    rw [hdue] at hrow
    have hsame : state' = state := (congrArg dunningState hrow).symm.trans hstate
    subst hsame
    obtain ⟨templateID, htemplate⟩ := isSome_iff_exists.mp htemplate
    cases hcand : dunningCandidate? e.now id r with
    | none =>
      rw [dueStage_unlisted hcand] at hdue
      cases hdue
    | some c =>
      have hexp : r'.planExpiry = some c.planExpiry :=
        (congrArg planExpiry hrow).trans (dunningCandidate?_some hcand).2.2
      cases hx.symm.trans hexp
      exact hqueued c state' templateID hcand hdue htemplate
        (hgoes r c state' templateID hr hcand hdue htemplate)

/-- A queued notice stays queued. -/
theorem Queued.passes (h : Queued id state x s) (envs : List Env) : Queued id state x (scanPasses s envs) := by
  induction envs generalizing s with
  | nil => exact h
  | cons e envs ih => exact ih (h.run Scan e)

end

/-- Any passes in which the queue may fail and the database does not. If every pass can queue the
    notice of the stage it takes the subscriber to, no notice is lost. -/
theorem notices_kept_of_queue (id : ℤ) (s : DB) (envs : List Env) (hworks : ∀ e ∈ envs, e.StoreWorks)
    (hmeets : Meets (fun s e => scanPass e s) (NoticeGoesOut id) s envs) : NoticesKept id s envs := by
  rintro pre e mid f ⟨later, rfl⟩ state x r htaken htemplate - - -
  rw [append_assoc] at hmeets
  have hgoes : NoticeGoesOut id (scanPasses s pre) e := ((meets_append pre).mp hmeets).2.1
  have hqueued := queued_of_takenTo (hworks e (by simp)) hgoes htaken htemplate
  rw [scanPasses, run_append, run_cons]
  exact hqueued.passes (mid ++ [f])

/-- The queue is down. -/
def queueDown (t : Time) : Env := ⟨t, Op.isEnqueue⟩

instance (id : ℤ) (state : DunningState) (x : Time) (s : DB) : Decidable (Queued id state x s) :=
  inferInstanceAs (Decidable (_ ∈ _))

/-- The queue is down for the pass on day 1, which takes the subscriber to the grace period, and up
    again for the pass on day 2, which finds it there and queues nothing. -/
theorem failed_enqueue_loses_notice :
    (∀ op, op.isEnqueue = false → (queueDown day).fails op = false) ∧
    ¬ NoticesKept 1 oneLapsed [queueDown day, .at (2 * day)] := by
  refine ⟨fun op hop => hop, fun h => ?_⟩
  have hrow : ((scanPass (queueDown day) oneLapsed).subscribers.lookup 1).map
      (fun r => (r.dunningState, r.planExpiry)) = some (.gracePeriod, some 0) := by decide +kernel
  obtain ⟨r, hr, hcols⟩ := map_eq_some_iff.mp hrow
  obtain ⟨hstage, hexp⟩ := Prod.mk.inj hcols
  have hqueued := h [] (queueDown day) [] (.at (2 * day)) (prefix_refl _) .gracePeriod 0 r
    ⟨.paidUntil 0, r, rfl, hr, by decide, hstage, hexp⟩ rfl hr hstage fun _ => rfl
  revert hqueued
  decide +kernel

/-- With the queue up, both notices of a lapse go out. -/
theorem lapsed_subscriber_notified : NoticesKept 1 oneLapsed [.at day, .at (9 * day), .at (10 * day)] :=
  notices_kept_of_queue 1 oneLapsed [.at day, .at (9 * day), .at (10 * day)]
    (by simp [Env.at_storeWorks])
    ⟨fun _ _ _ _ _ _ _ _ => rfl, fun _ _ _ _ _ _ _ _ => rfl, fun _ _ _ _ _ _ _ _ => rfl, trivial⟩

/-! ### Dates behind the stage

    A date extended to inside the reminder window, or to the past, puts the subscriber in an earlier
    stage than the one reached. Only `active` can be walked back to. -/

/-- Where the ladder has a way from the stage to the one of the date: forward, or back to active. -/
def HasWay (state : DunningState) (untilExpiry : Time) : Prop :=
  match state with
  | .remind3d => ¬ (3 * day < untilExpiry ∧ untilExpiry ≤ 7 * day)
  | .remind1d => ¬ (1 * day < untilExpiry ∧ untilExpiry ≤ 7 * day)
  | .softSuspended => ¬ (-3 * day < untilExpiry ∧ untilExpiry ≤ 0)
  | .hardSuspended => ¬ (-6 * day < untilExpiry ∧ untilExpiry ≤ 0)
  | _ => True

theorem hasWay_iff (state : DunningState) (x now : Time) : HasWay state (x - now) ↔
    NextDunningState state x now = state ∨ (stepToward state (NextDunningState state x now)).isSome = true := by
  have hday : (0 : ℤ) < day := by decide
  unfold HasWay NextDunningState GracePeriodDays SoftSuspendDays
  generalize day = d at hday ⊢
  unfold Time at x now d ⊢
  -- every date leads to one of the seven stages, and there both sides are known
  cases state <;> simp only [reduceCtorEq, or_true, or_false, and_true, and_false, if_false,
    true_iff] <;> split_ifs <;> first
    | decide
    | exact iff_of_true (by omega) (by decide)
    | exact iff_of_false (by omega) (by decide)
    | omega

/-- `advance` ends without error at the stage of the date. -/
def Lands (e : Env) (s : DB) (c : DunningCandidate) (now : Time) : Prop :=
  let out := Prog.run exec e
    (DunningScanner.advance c (NextDunningState c.state c.planExpiry now) now) s
  out.1 = .ok () ∧ (out.2.subscribers.lookup c.subscriberID).map (·.dunningState) =
    some (NextDunningState c.state c.planExpiry now)

/-- With the queue up the notice ends without error: queued now, or found queued. -/
theorem notify_ok {e : Env} (he : ∀ op, e.fails op = false) (c : DunningCandidate)
    (target : DunningState) (now : Time) (s : DB) : (run exec e (notify c target now) s).1 = .ok () := by
  unfold notify
  split
  · rfl
  rename_i templateID _
  rw [db_bind, run_db]
  cases hins : s.tasks.insert (dunningNotice c target templateID now) with
  | some tasks =>
    rw [exec_enqueue (he _) hins]
    rfl
  | none =>
    have hx : exec e (.db (.enqueue (dunningNotice c target templateID now))) s =
        (.error (.unique "jobqueue_tasks_task_id_key"), s) := by
      refine (if_neg (by simp [he])).trans ?_
      change Tx.commit (do
        let tasks ← Tx.orThrow (s.tasks.insert _) _
        set { s with tasks := tasks }) s = _
      rw [hins]
      rfl
    rw [hx]
    rfl

/-- A candidate whose row is as listed lands at the stage of its date exactly when the ladder has a way
    there. -/
theorem advance_lands_iff (e : Env) (he : ∀ op, e.fails op = false) (s : DB) (r : Subscriber)
    (c : DunningCandidate) (hr : s.subscribers.lookup c.subscriberID = some r)
    (hstate : r.dunningState = c.state) (hx : r.planExpiry = some c.planExpiry) (now : Time) :
    Lands e s c now ↔ HasWay c.state (c.planExpiry - now) := by
  rw [hasWay_iff]
  unfold Lands advance
  generalize NextDunningState c.state c.planExpiry now = target
  rw [Prog.run_bind, ← hstate]
  have hnotice (s' : DB) := notify_ok he c target now s'
  by_cases heq : target = r.dunningState
  · have hkept := (asides_notify c target now).makes.spares e hr
    rw [← heq, walk_self]
    simp [Prog.run, hnotice, hkept, heq.symm]
  cases hway : stepToward r.dunningState target with
  | none =>
    rw [walk_stuck (Ne.symm heq) hway]
    simp [Prog.run, heq]
  | some next =>
    have hsome : (stepToward r.dunningState target).isSome = true := by rw [hway]; rfl
    obtain ⟨r', s', hrun, hr', hrow⟩ := run_walk (fun op _ => he op) target maxSteps hr
      (by rw [hx]; rfl) (Ne.symm heq) hsome (stepsTo_pos (Ne.symm heq) hsome).2
    have hkept := (asides_notify c target now).makes.spares e hr'
    have hstage : r'.dunningState = target := congrArg dunningState hrow
    rw [hrun]
    simp [hnotice, hkept, hstage]

/-- A subscriber who had been reminded a day before the expiry, with the expiry since moved to day 5. -/
def extended : DunningCandidate := ⟨1, "one", "+919876543210", .remind1d, 5 * day⟩

def extendedRow : Subscriber := { Subscriber.paidUntil (5 * day) with dunningState := .remind1d }

/-- On day 0 the date asks for the first reminder, which lies behind. -/
theorem extended_stuck : ¬ Lands (.at 0) (.seeded ((∅ : Table Subscriber).insert 1 extendedRow))
    extended 0 := by
  unfold Lands
  decide +kernel

/-- On day 4 the date asks for the stage reached. -/
theorem extended_lands : Lands (.at (4 * day))
    (.seeded ((∅ : Table Subscriber).insert 1 extendedRow)) extended (4 * day) :=
  (advance_lands_iff _ (fun _ => rfl) _ extendedRow extended rfl rfl rfl _).mpr
    (by simp [HasWay, extended, day])

end IspBss
