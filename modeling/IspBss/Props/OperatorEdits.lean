import IspBss.Props.DunningRuns
import IspBss.Props.Restoration

/-! Does the dunning scanner repair what an operator edits?

    `status` and `dunning_state` move together in every write but one: a `PATCH` sets `status` alone.
    The scanner compares the stage with the date and never looks at the status, so it repairs an
    edited row only when it moves it:

        stage      date           pass              status afterwards
        as dated   any            skipped           whatever it was
        below      any            walks up          of the stage
        above      running        back to active    of the stage
        above      over           no way down       whatever it was

    `InStep` is what the first row needs of the status, `NoneAhead` excludes the last one. -/

namespace IspBss

open Lib Prog Option Run Handler

/-- The status is that of the stage. A subscriber at stage `active` may have any status, since a pass
    that lists it moves it; a terminated one is not listed. -/
def InStep (r : SubscriberRow) : Prop :=
  r.status = .terminated ∨ r.dunningState = .active ∨ r.status = dunningToSubscriberStatus r.dunningState
  deriving Decidable

/-! ### The steps of a run -/

inductive CycleOp where
  | patch (id : Option ℤ) (body : Except String SubscriberPatch)
  | billingScan
  | applyRenewal (subscriberID : ℤ) (amount : Decimal) (paymentID : String)
  | dunningScan

/-- The state after a step at a time, no call failing. -/
def cycleStep (s : DB) (p : Time × CycleOp) : DB :=
  match p.2 with
  | .patch id body => (run exec (.at p.1) (UpdateSubscriber id body) s).2
  | .billingScan => billingPass p.1 s
  | .applyRenewal sid amount pid => (run exec (.at p.1) (ApplyRenewal sid amount pid) s).2
  | .dunningScan => dunningPass p.1 s

/-- A patch that sets a status sets the one of the stage, or ends the subscription, or finds the stage
    `active`. -/
def PatchInStep (s : DB) (id : Option ℤ) (body : Except String SubscriberPatch) : Prop :=
  ∀ i ∈ id, ∀ patch ∈ body.toOption, ∀ r ∈ s.subscribers.lookup i, ∀ text ∈ patch.status,
    ∀ st ∈ SubStatus.ofText text,
      st = .terminated ∨ r.dunningState = .active ∨ st = dunningToSubscriberStatus r.dunningState
  deriving Decidable

/-- No cycle that is over is further up the ladder than its date puts it. -/
def NoneAhead (t : Time) (s : DB) : Prop :=
  ∀ id r, s.subscribers.lookup id = some r → ∀ x ∈ r.planExpiry, r.status ≠ .terminated → x ≤ t →
    rung r.dunningState ≤ rung (stageAt x t)

/-- What a step has to find. -/
def CycleOp.Orderly (s : DB) (p : Time × CycleOp) : Prop :=
  match p.2 with
  | .patch id body => PatchInStep s id body
  | .dunningScan => NoneAhead p.1 s
  | _ => True

/-- After a pass at `t`, everybody it has listed who is still a paying subscriber with a billing cycle
    has the status of the stage their date puts them in. -/
def StatusByDate (t : Time) (s : DB) : Prop :=
  ∀ id r r', s.subscribers.lookup id = some r → (BillingStore.dunningCandidate? t id r).isSome = true →
    (dunningPass t s).subscribers.lookup id = some r' → r'.status ≠ .terminated →
    r'.status ≠ .pendingPayment → ∀ x ∈ r'.planExpiry,
      r'.status = dunningToSubscriberStatus (NextDunningState r'.dunningState x t)

/-! ### The two columns move together -/

/-- The calls that leave a row in step. -/
def Op.inStep : Op → Bool
  | setSubscriberDunningState _ state status => status = dunningToSubscriberStatus state
  | updateSubscriber _ _ _ _ | createSubscriber _ => false
  | _ => true

/-- No stage stands for `pending_payment`. -/
theorem not_pending (state : DunningState) : SubStatus.pendingPayment ≠ dunningToSubscriberStatus state := by
  cases state <;> decide

theorem RowWrite.keeps_step {op : Op} {id : ℤ} {r r' : SubscriberRow} (hw : RowWrite op id r r')
    (hop : op.inStep = true) (h : InStep r) : InStep r' := by
  cases hw with
  | balance => exact h
  | dunning _ state status => exact Or.inr (Or.inr (of_decide_eq_true hop))
  | expiry => exact h
  | portalExpiry => exact h
  | activate _ _ _ hpending =>
    -- nobody waits for the first payment at a stage above `active`
    rcases h with h | h | h
    · cases hpending.symm.trans h
    · exact Or.inr (Or.inl h)
    · exact absurd (hpending.symm.trans h) (not_pending r.dunningState)
  | update => cases hop
  | plan => exact h
  | terminate => exact Or.inl rfl

section
variable {e : Env} {s : DB}

theorem Makes.keeps_step {W : Op → Prop} {α : Type} {p : Service α} (h : Makes W p)
    (hW : ∀ op, W op → op.inStep = true) (hs : s.Rows InStep) : (run exec e p s).2.Rows InStep :=
  h.rows (fun row hrow => by cases hW _ hrow) (fun op _ _ _ hop hw => hw.keeps_step (hW op hop)) hs

theorem patch_keeps_step {id : Option ℤ} {body : Except String SubscriberPatch}
    (hpatch : PatchInStep s id body) (hs : s.Rows InStep) :
    (run exec e (UpdateSubscriber id body) s).2.Rows InStep := by
  cases id with
  | none => exact hs
  | some id =>
    cases body with
    | error text => exact hs
    | ok patch =>
      have hstate : (run exec e (UpdateSubscriber (some id) (.ok patch)) s).2 =
          (exec e (.db (.updateSubscriber id patch.planID patch.status patch.planExpiry)) s).2 := by
        unfold UpdateSubscriber
        dsimp only
        rw [db_bind, run_db]
        split <;> rfl
      rw [hstate]
      refine exec_rows (fun row h => by cases h) ?_ hs
      rintro op i r r' hop hr hw h
      cases hop
      cases hw with
      | update _ _ _ _ _ st hst =>
        rcases hst with ⟨rfl, -⟩ | ⟨text, htext, hst⟩
        · exact h
        · exact hpatch id rfl patch rfl r hr text htext st hst

theorem cycleStep_keeps_step (s : DB) (p : Time × CycleOp) (hs : s.Rows InStep)
    (hp : CycleOp.Orderly s p) : (cycleStep s p).Rows InStep := by
  obtain ⟨t, op⟩ := p
  cases op with
  | patch id body => exact patch_keeps_step hp hs
  | billingScan =>
    refine makes_billingScan.keeps_step ?_ hs
    rintro op ⟨sid, hop⟩
    cases hop with
    | restore state => exact decide_eq_true rfl
    | _ => rfl
  | applyRenewal sid amount pid =>
    refine (makes_ApplyRenewal sid amount pid).keeps_step ?_ hs
    rintro op (⟨b, rfl⟩ | ⟨t, rfl⟩) <;> rfl
  | dunningScan =>
    refine makes_dunningScan.keeps_step ?_ hs
    rintro op ⟨sid, state, rfl⟩
    exact decide_eq_true rfl

end

/-! ### One pass -/

section
variable {state : DunningState} {x t : Time}

/-- Once the cycle is over, the date alone decides. -/
theorem next_of_lapsed (h : x ≤ t) : NextDunningState state x t = stageAt x t := by
  have hpast : ∀ chased : Prop, ¬(t < x ∧ chased) := fun _ hback => absurd h (not_le.mpr hback.1)
  unfold stageAt NextDunningState
  rw [if_neg (hpast (state = .gracePeriod ∨ _)), if_neg (hpast (DunningState.active = .gracePeriod ∨ _))]

/-- A cycle that was chased and has been paid goes back to `active`, and there is a way. -/
theorem next_of_paid (h : t < x) (hstate : dunningToSubscriberStatus state ≠ .active) :
    NextDunningState state x t = .active ∧ (stepToward state .active).isSome = true := by
  have hchased : state = .gracePeriod ∨ state = .softSuspended ∨ state = .hardSuspended := by
    revert hstate
    cases state <;> decide
  refine ⟨if_pos ⟨h, hchased⟩, ?_⟩
  rcases hchased with rfl | rfl | rfl <;> decide

/-- A stage the scanner does not move has the status of the date, unless it is ahead of it. -/
theorem status_of_stays (hahead : x ≤ t → rung state ≤ rung (stageAt x t)) (h : moves state x t = false) :
    dunningToSubscriberStatus state = dunningToSubscriberStatus (NextDunningState state x t) := by
  by_cases hsame : NextDunningState state x t = state
  · rw [hsame]
  have hstuck : (stepToward state (NextDunningState state x t)).isSome = false := by
    simpa [moves, hsame] using h
  rcases lt_or_ge t x with hrun | hover
  · rw [status_of_running state hrun]
    by_contra hstate
    obtain ⟨hnext, hway⟩ := next_of_paid hrun hstate
    rw [hnext] at hstuck
    cases hstuck
  · rw [next_of_lapsed hover] at hsame hstuck
    have hlt : rung state < rung (stageAt x t) :=
      lt_of_le_of_ne (hahead hover) fun heq => hsame (rung_inj heq).symm
    rw [stepToward_up hlt] at hstuck
    cases hstuck

/-- A stage the scanner has moved has the status of the date. -/
theorem status_of_moved : dunningToSubscriberStatus (NextDunningState state x t) =
    dunningToSubscriberStatus (NextDunningState (NextDunningState state x t) x t) := by
  rcases lt_or_ge t x with hrun | hover
  · rw [status_of_running _ hrun, status_of_running _ hrun]
  · rw [next_of_lapsed hover, next_of_lapsed hover]

theorem statusByDate_of_inStep {s : DB} (hs : s.Rows InStep) (hahead : NoneAhead t s) : StatusByDate t s := by
  intro id r r' hr hlisted hr' hlive hpaid x hx
  obtain ⟨c, hc⟩ := isSome_iff_exists.mp hlisted
  obtain ⟨rfl, hstate, hexp⟩ := dunningCandidate?_some hc
  obtain ⟨⟨r₁, hr₁, hrow⟩, -⟩ := scanPass_spec (Env.at_storeWorks t) hr
  cases hr'.symm.trans hr₁
  have hdue : dueStage t c.subscriberID r = if moves r.dunningState c.planExpiry t then
      some (NextDunningState r.dunningState c.planExpiry t) else none := by
    rw [dueStage, hc, bind_some, hstate]
  change r'.toSubscriberRow = r.toSubscriberRow.afterPass (dueStage t c.subscriberID r) at hrow
  rw [hdue] at hrow
  have hx' : r'.planExpiry = some c.planExpiry := by
    rw [hrow]
    split <;> exact hexp
  cases hx.symm.trans hx'
  split at hrow
  · rw [hrow]
    exact status_of_moved
  · rename_i hstays
    rw [hrow] at hlive hpaid ⊢
    change r.status = dunningToSubscriberStatus (NextDunningState r.dunningState c.planExpiry t)
    rw [← status_of_stays (hahead _ r hr _ hexp hlive) (by simpa using hstays)]
    rcases hs _ r hr with h | h | h
    · exact absurd h hlive
    · -- who is listed at stage `active` moves
      rcases dueStage_cases _ hexp (by rw [h]; exact Nat.zero_le _) with ⟨-, hat⟩ | ⟨hsome, -⟩
      · exact absurd ((hat hlisted).trans h) (stageAt_of_listed hexp h hlisted)
      · rw [hdue, if_neg hstays] at hsome
        cases hsome
    · exact h

end

/-! ### A run -/

/-- A database whose rows are in step, and any patches, renewals and passes. If every patch of a
    status keeps the row in step, and no pass finds an expired cycle ahead of its date, then after
    every pass of the dunning scanner each subscriber it has listed has the status of the stage its
    date puts it in. -/
theorem status_by_date_of_orderly (s : DB) (hs : s.Rows InStep) (steps : List (Time × CycleOp))
    (hsteps : Meets cycleStep CycleOp.Orderly s steps) (pre later : List (Time × CycleOp)) (t : Time)
    (hpass : steps = pre ++ (t, .dunningScan) :: later) :
    StatusByDate t (run cycleStep s pre) := by
  subst hpass
  obtain ⟨hpre, hahead, -⟩ := (meets_append pre).mp hsteps
  exact statusByDate_of_inStep (inv cycleStep_keeps_step pre hs hpre) hahead

instance (t : Time) (s : DB) : Decidable (NoneAhead t s) := decidable_of_iff' _ forall_lookup

instance (s : DB) : Decidable (s.Rows InStep) := decidable_of_iff' _ forall_lookup

instance decidableOrderly (s : DB) : ∀ p, Decidable (CycleOp.Orderly s p)
  | (_, .patch id body) => inferInstanceAs (Decidable (PatchInStep s id body))
  | (t, .dunningScan) => inferInstanceAs (Decidable (NoneAhead t s))
  | (_, .billingScan) | (_, .applyRenewal _ _ _) => isTrue trivial

/-- A patch of the status alone, and one of the expiry date alone. -/
def patchStatus (id : ℤ) (text : String) : CycleOp := .patch (some id) (.ok ⟨none, some text, none⟩)

def patchExpiry (id : ℤ) (x : Time) : CycleOp := .patch (some id) (.ok ⟨none, none, some x⟩)

/-- The subscriber lapses, is cut off, pays at the office and gets a new expiry date: the pass on day 10
    restores it. -/
theorem extended_cycle_restored :
    StatusByDate (10 * day) (run cycleStep oneLapsed
      [(day, .dunningScan), (9 * day, .dunningScan), (9 * day, patchExpiry 1 (39 * day))]) :=
  status_by_date_of_orderly oneLapsed (by decide +kernel)
    [(day, .dunningScan), (9 * day, .dunningScan), (9 * day, patchExpiry 1 (39 * day)),
      (10 * day, .dunningScan)] (by decide +kernel) _ [] _ rfl

/-- The subscriber is cut off on day 9, an operator sets the status back to `active` without a
    payment, and the pass on day 10 finds the stage where the date puts it: `active` although six days
    overdue. -/
theorem patched_status_stays :
    oneLapsed.Rows InStep ∧
    ¬ StatusByDate (10 * day) (run cycleStep oneLapsed
      [(9 * day, .dunningScan), (9 * day, patchStatus 1 "active")]) := by
  refine ⟨by decide +kernel, fun h => ?_⟩
  have hlisted : ((run cycleStep oneLapsed [(9 * day, .dunningScan),
      (9 * day, patchStatus 1 "active")]).subscribers.lookup 1).map
      (fun r => (BillingStore.dunningCandidate? (10 * day) 1 r).isSome) = some true := by decide +kernel
  have hrow : ((dunningPass (10 * day) (run cycleStep oneLapsed [(9 * day, .dunningScan),
      (9 * day, patchStatus 1 "active")])).subscribers.lookup 1).map
      (fun r => (r.status, r.dunningState, r.planExpiry)) =
        some (.active, .hardSuspended, some 0) := by decide +kernel
  obtain ⟨r, hr, hl⟩ := map_eq_some_iff.mp hlisted
  obtain ⟨r', hr', hcols⟩ := map_eq_some_iff.mp hrow
  simp only [Prod.mk.injEq] at hcols
  obtain ⟨hstatus, hstage, hx⟩ := hcols
  have hdate := h 1 r r' hr hl hr' (by simp [hstatus]) (by simp [hstatus]) 0 hx
  rw [hstatus, hstage] at hdate
  revert hdate
  decide +kernel

end IspBss
