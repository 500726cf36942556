import IspBss.Props.RenewalAccounting

/-! Do renewals that run together each buy their own cycle?

    Scanner passes and portal renewals of one subscriber run side by side, every store call succeeds.
    Both paths compute `max(clock, expiry seen) + validity` and write it as an absolute value later, so
    one that has been overtaken writes the cycle of the other away:

        A: sees day 0 ──────────────▶ writes day 30
        B:      sees day 0 ─▶ writes day 30            two charges, one cycle

    Every extension moves the expiry by a full cycle exactly when none is overtaken: the stored expiry
    is not after the one the extension starts from. Then the final expiry has room for every charge. -/

namespace IspBss

open Lib List Pool Int Call

/-- Scanner passes and portal renewals side by side, from the time `start` on. -/
def racePool (start : Time) (s : DB) (ops : List BillingOp) : BillPool :=
  Pool.start { BillRec.init with clock := start } (s, []) (ops.map BillingOp.prog)

/-- The database and the history a schedule leads to. -/
def raceRun (id : ℤ) (start : Time) (s : DB) (ops : List BillingOp) (sched : List (ℕ × Env)) :
    BillPool :=
  run (traced exec) (billWatch id true) (racePool start s ops) sched

/-- A committed charge: a renewal debit or a gateway payment of the subscriber. -/
def isPaid (id : ℤ) (ev : BillEvent) : Bool :=
  ev.call.isCharge id true && succeeded ev.call ev.resp

/-- The step's call succeeds, and not before `start`. -/
def InOrder (start : Time) (p : BillPool) (i : ℕ) (e : Env) : Prop :=
  CallSucceeds p i e ∧ start ≤ e.now
  deriving Decidable

/-- If the step extends the subscriber, the stored expiry is not after the one it extends from. -/
def NotOvertaken (id : ℤ) (p : BillPool) (i : ℕ) (_ : Env) : Prop :=
  match p.threads[i]? with
  | some (w, .call c _) => c.isExtension id = true → ∀ σ ∈ w.sight,
      ∀ r ∈ p.shared.1.subscribers.lookup id, ∀ x ∈ r.planExpiry, x ≤ renewalBase w.clock σ.expiry
  | _ => True

instance (id : ℤ) (p : BillPool) (i : ℕ) (e : Env) : Decidable (NotOvertaken id p i e) := by
  unfold NotOvertaken
  rcases p.threads[i]? with _ | ⟨w, _ | ⟨c, k⟩⟩ <;> dsimp only <;> infer_instance

/-- Every extension so far has moved the expiry by a full cycle. -/
def AllAdvance (id : ℤ) (p : BillPool) : Prop :=
  ∀ ev ∈ p.shared.2, ev.call.isExtension id = true → fullAdvance id ev.pre ev.post = true

/-! ### What a step leaves alone -/

/-- The subscriber exists and is on this plan. -/
def OnPlan (id : ℤ) (plan : Plan) (s : DB) : Prop :=
  ∃ r, s.subscribers.lookup id = some r ∧ s.plans.lookup r.planID = some plan

section
variable {id : ℤ} {portal : Bool} {w : BillRec} {s : DB} {e : Env} {c : Call}

/-- A renewal never changes the plan of a row, and its expiry only by an extension. -/
theorem Bills.row {op : Op} {r r' : SubscriberRow} (hc : Bills id portal w (.db op))
    (hw : RowWrite op id r r') : r'.planID = r.planID ∧
      (isExtension id (.db op) = false → r'.planExpiry = r.planExpiry) := by
  cases hw with
  | balance => exact ⟨rfl, fun _ => rfl⟩
  | dunning => exact ⟨rfl, fun _ => rfl⟩
  | expiry => exact ⟨rfl, fun h => by simp [isExtension, isScanGrant] at h⟩
  | portalExpiry => exact ⟨rfl, fun h => by simp [isExtension, isPortalGrant] at h⟩
  | activate => exact ⟨rfl, fun h => by simp [isExtension, isScanGrant] at h⟩
  | update =>
    cases hc with
    | quiet _ h => cases h
  | plan =>
    cases hc with
    | quiet _ h => cases h
  | terminate =>
    cases hc with
    | quiet _ h => cases h

variable {plan : Plan}

theorem Bills.onPlan (hc : Bills id portal w c) (h : OnPlan id plan s) : OnPlan id plan (exec e c s).2 := by
  obtain ⟨r, hr, hplan⟩ := h
  obtain ⟨r', hr', hrow⟩ := exec_lookup e c hr
  refine ⟨r', hr', ?_⟩
  rw [exec_plans]
  rcases hrow with rfl | ⟨op, a, rfl, -, hw⟩
  · exact hplan
  · rw [(hc.row hw).1]
    exact hplan

variable {r : Subscriber} {start : Time}

/-- A call that does not extend the subscriber leaves its expiry alone. -/
theorem Bills.expiry (hc : Bills id portal w c) (hx : c.isExtension id = false)
    (hr : s.subscribers.lookup id = some r) :
    ∃ r', (exec e c s).2.subscribers.lookup id = some r' ∧ r'.planExpiry = r.planExpiry := by
  obtain ⟨r', hr', hrow⟩ := exec_lookup e c hr
  refine ⟨r', hr', ?_⟩
  rcases hrow with rfl | ⟨op, a, rfl, -, hw⟩
  · rfl
  · exact (hc.row hw).2 hx

/-- An extension is written from what the thread has seen. -/
theorem Bills.extension (hc : Bills id portal w c) (hx : c.isExtension id = true) :
    ∃ σ op, w.sight = some σ ∧ c = .db op ∧ IsExtension id (σ.renewed w.clock) op := by
  cases hc with
  | activate σ hs => exact ⟨σ, _, hs, rfl, .activate⟩
  | extend σ hs => exact ⟨σ, _, hs, rfl, .extend⟩
  | portalExtend σ hs => exact ⟨σ, _, hs, rfl, .portal⟩
  | quiet op h =>
    cases op <;> simp_all [Op.quiet, Op.sideline, isExtension, isScanGrant, isPortalGrant]
  | _ => cases hx

/-- What a call adds to the charges and to what the thread owes, it adds to the extensions at most. -/
theorem Bills.owes (hc : Bills id true w c) :
    (isPaid id (eventOf e c s)).toNat + w.owed.toNat ≤
      (c.isExtension id).toNat + (billWatch id true w c (exec e c s).1).owed.toNat := by
  have hone : ∀ n, w.owed.toNat ≤ 1 + n := fun n => (Bool.toNat_le _).trans (Nat.le_add_right 1 n)
  cases hc with
  | clock => exact le_of_eq rfl
  | list => rw [billWatch_owed_read rfl]; exact le_of_eq rfl
  | info id' => rw [billWatch_owed_read rfl]; exact le_of_eq rfl
  | quiet op hop =>
    rw [billWatch_quiet hop]
    cases op <;> simp_all [Op.quiet, isPaid, eventOf, Call.isCharge]
  | charge p hp ho =>
    rcases exec_db_cases e (.recordRecharge p) s with ⟨err, hx⟩ | ⟨tx, s', -, hx, -⟩
    · simp [isPaid, eventOf, hx, succeeded, Except.isOk, Except.toBool, ho]
    · simp [isPaid, eventOf, hx, succeeded, Except.isOk, Except.toBool, ho, billWatch, hp,
        Call.isCharge]
  | activate σ =>
    simpa [isPaid, eventOf, Call.isCharge, Call.isExtension, Call.isScanGrant] using hone _
  | extend σ =>
    simpa [isPaid, eventOf, Call.isCharge, Call.isExtension, Call.isScanGrant] using hone _
  | portalExtend σ =>
    simpa [isPaid, eventOf, Call.isCharge, Call.isExtension, Call.isPortalGrant] using hone _
  | restore state status => exact le_of_eq rfl

/-! ### One step of the race -/

/-- What a record may hold: a clock not before `start`, and the validity of the plan. -/
def Saw (start : Time) (plan : Plan) (w : BillRec) : Prop :=
  start ≤ w.clock ∧ ∀ σ, w.sight = some σ → σ.validity = plan.validityDays

theorem Saw.after (h : Saw start plan w) (hs : OnPlan id plan s)
    (he : start ≤ e.now) : Saw start plan (billWatch id portal w c (exec e c s).1) := by
  refine ⟨?_, fun σ hσ => ?_⟩
  · by_cases hc : c = .timeNow
    · subst hc
      exact he
    · rw [(billWatch_frame portal w c _).2 hc]
      exact h.1
  · rcases sight_cases hσ with hσ | ⟨r, p, hr, hp, -, hv, -⟩
    · exact h.2 σ hσ
    · obtain ⟨r', hr', hp'⟩ := hs
      cases hr.symm.trans hr'
      cases hp.symm.trans hp'
      exact hv.symm

theorem pending_of_activated {t : Time} (hr : s.subscribers.lookup id = some r)
    (h : succeeded (.db (.activateSubscriber id t)) (exec e (.db (.activateSubscriber id t)) s).1 = true) :
    r.status = .pendingPayment := by
  rcases exec_db_cases e (.activateSubscriber id t) s with ⟨err, hx⟩ | ⟨u, s', htx, hx, -⟩
  · rw [hx] at h
    cases h
  · obtain ⟨r₁, -, hr₁, hst, -⟩ := ActivateSubscriber_ok htx
    cases hr.symm.trans hr₁
    exact hst

/-- A successful extension stamps the subscriber's row with a cycle from where the thread starts. -/
theorem Bills.stamps (hc : Bills id portal w c) (hx : c.isExtension id = true)
    (hr : s.subscribers.lookup id = some r) (hok : succeeded c (exec e c s).1 = true) :
    ∃ σ r', w.sight = some σ ∧ (exec e c s).2 = s.setRow id r' ∧ r'.planExpiry = some (σ.renewed w.clock) := by
  obtain ⟨σ, op, hσ, rfl, hop⟩ := hc.extension hx
  have hf : e.fails op = false := not_fails_of_succeeded hok
  have hpend : op = .activateSubscriber id (σ.renewed w.clock) → r.status = .pendingPayment := by
    rintro rfl
    exact pending_of_activated hr hok
  obtain ⟨r', hs', hr', -⟩ := exec_stamps hop hr hf hpend
  exact ⟨σ, r', hσ, hs', hr'⟩

/-- It advances a full cycle exactly when it has not been overtaken. -/
theorem Bills.advances_iff (hc : Bills id portal w c)
    (hx : c.isExtension id = true) (hsaw : Saw start plan w) (hs : OnPlan id plan s)
    (hok : succeeded c (exec e c s).1 = true) :
    fullAdvance id s (exec e c s).2 = true ↔ ∀ σ ∈ w.sight, ∀ r ∈ s.subscribers.lookup id,
      ∀ x ∈ r.planExpiry, x ≤ renewalBase w.clock σ.expiry := by
  obtain ⟨r, hr, hplan⟩ := hs
  obtain ⟨σ, r', hσ, hs', hr'⟩ := hc.stamps hx hr hok
  rw [hs', fullAdvance_setRow hr hplan hr', Sight.renewed, hsaw.2 σ hσ]
  simp only [hσ, hr, Option.mem_def, Option.some.injEq, forall_eq']
  exact forall_congr' fun x => imp_congr_right fun _ =>
    add_le_add_iff_right (plan.validityDays * day)

end

/-- What every state of the race satisfies. -/
structure Racing (id : ℤ) (start : Time) (plan : Plan) (p : BillPool) : Prop where
  obeying : Obeying (billWatch id true) (Answers true) (fun _ => Bills id true)
    (fun _ w => w.owed = false) p
  onPlan : OnPlan id plan p.shared.1
  saw : ∀ t ∈ p.threads, Saw start plan t.1

section
variable {id : ℤ} {start : Time} {plan : Plan} {s : DB}

theorem racing_start (ops : List BillingOp) (hs : OnPlan id plan s) :
    Racing id start plan (racePool start s ops) := by
  refine ⟨Pool.obeying_start fun i q hq => ?_, hs, fun t ht => ?_⟩
  · rw [List.getElem?_map, Option.map_eq_some_iff] at hq
    obtain ⟨op, -, rfl⟩ := hq
    cases op with
    | scan => exact (obeys_Scan (fun w r hr => hr.2) rfl).mono fun w _ h => h.1
    | renewal sid amount pid =>
      refine obeys_void ((obeys_ApplyRenewal (fun _ w r hr => ?_) rfl).mono fun w _ h => h.1)
      exact hr.1 rfl
  · simp only [racePool, Pool.start, mem_map] at ht
    obtain ⟨q, -, rfl⟩ := ht
    exact ⟨le_refl start, fun σ hσ => by cases hσ⟩

variable {p : BillPool} {i : ℕ}

theorem InOrder.succeeds {e : Env} (h : InOrder start p i e) {w : BillRec}
    {c : Call} {k : c.Resp → Service Unit} (hi : p.Calling i w c k) :
    succeeded c (exec e c p.shared.1).1 = true := by
  have := h.1
  simpa only [CallSucceeds, hi] using this

theorem racing_step (p : BillPool) (i : ℕ) (e : Env) (h : Racing id start plan p) (ho : InOrder start p i e) :
    Racing id start plan (step (traced exec) (billWatch id true) p i e) := by
  have hobey := obeying_step (M := traced exec) h.obeying fun w c k hi =>
    exec_answers fun _ => ho.succeeds hi
  rcases step_cases p i e with
    ⟨-, hstep⟩ | ⟨w, c, k, hi, hstep⟩
  · rw [hstep]; exact h
  · refine ⟨hobey, ?_, ?_⟩
    · rw [hstep]
      exact (h.obeying.allowed hi).onPlan h.onPlan
    · rw [hstep]
      intro t ht
      rcases mem_or_eq_of_mem_set ht with ht | rfl
      · exact h.saw t ht
      · exact (h.saw _ (mem_of_getElem? hi)).after h.onPlan ho.2

/-- One step: all extensions advance after it exactly when they did before and it is not overtaken. -/
theorem allAdvance_step (p : BillPool) (i : ℕ) (e : Env) (h : Racing id start plan p) (ho : InOrder start p i e) :
    AllAdvance id (step (traced exec) (billWatch id true) p i e) ↔
      AllAdvance id p ∧ NotOvertaken id p i e := by
  rcases step_cases p i e with
    ⟨hno, hstep⟩ | ⟨w, c, k, hi, hstep⟩
  · rw [hstep]
    refine (and_iff_left ?_).symm
    unfold NotOvertaken
    split
    · rename_i w c k hi
      exact absurd hi (hno w c k)
    · trivial
  · have hnew : NotOvertaken id p i e ↔ (c.isExtension id = true →
        fullAdvance id p.shared.1 (exec e c p.shared.1).2 = true) := by
      simp only [NotOvertaken, hi]
      refine imp_congr_right fun hx => ?_
      exact ((h.obeying.allowed hi).advances_iff hx (h.saw _ (mem_of_getElem? hi)) h.onPlan
        (ho.succeeds hi)).symm
    rw [hstep, hnew]
    simp only [AllAdvance, traced, forall_mem_append, forall_mem_singleton]

/-! ### Room for every charge -/

/-- After `n` extensions the expiry is at least `n` cycles after the later of `start` and the initial
    expiry; after none it is the initial one. -/
def Reached (start : Time) (initial : Option Time) (validity : ℤ) : ℕ → Option Time → Prop
  | 0, expiry => expiry = initial
  | n + 1, expiry => ∃ x, expiry = some x ∧
      addDays (renewalBase start initial) ((n + 1 : ℕ) * validity) ≤ x

theorem addDays_addDays (t : Time) (m n : ℤ) : addDays (addDays t m) n = addDays t (m + n) := by
  simp only [addDays]
  ring

variable {initial : Option Time}

theorem Reached.extend {expiry : Option Time} {validity : ℤ} {n : ℕ} {base : Time}
    (h : Reached start initial validity n expiry) (hstart : start ≤ base) (hbase : ∀ x ∈ expiry, x ≤ base) :
    Reached start initial validity (n + 1) (some (addDays base validity)) := by
  refine ⟨_, rfl, ?_⟩
  cases n with
  | zero =>
    have hle : renewalBase start initial ≤ base := by
      refine max_le hstart ?_
      cases hi : initial with
      | none => exact hstart
      | some x => exact hbase x (h.trans hi)
    simpa using addDays_le hle validity
  | succ n =>
    obtain ⟨x, hx, hle⟩ := h
    calc addDays (renewalBase start initial) ((n + 1 + 1 : ℕ) * validity)
        = addDays (addDays (renewalBase start initial) ((n + 1 : ℕ) * validity)) validity := by
          rw [addDays_addDays]; push_cast; ring_nf
      _ ≤ addDays x validity := addDays_le hle validity
      _ ≤ addDays base validity := addDays_le (hbase x hx) validity

/-- The thread owes an extension. -/
def owing (t : BillRec × Prog sig Unit) : Bool := t.1.owed

/-- The charges are covered by extensions made or owed, and the expiry has reached their number. -/
structure Covered (id : ℤ) (start : Time) (initial : Option Time) (plan : Plan) (p : BillPool) :
    Prop where
  paid : p.shared.2.countP (isPaid id) ≤
    p.shared.2.countP (fun ev => ev.call.isExtension id) + p.threads.countP owing
  reached : ∃ r, p.shared.1.subscribers.lookup id = some r ∧
    Reached start initial plan.validityDays (p.shared.2.countP fun ev => ev.call.isExtension id)
      r.planExpiry

/-- Replacing one element of a list changes a count by that element. -/
theorem countP_set_add {α : Type} (q : α → Bool) {l : List α} {a : α} (b : α)
    (h : l[i]? = some a) : (l.set i b).countP q + (q a).toNat = l.countP q + (q b).toNat := by
  obtain ⟨hi, rfl⟩ := List.getElem?_eq_some_iff.mp h
  have hle := boole_getElem_le_countP (p := q) hi
  rw [countP_set hi, Bool.toNat, Bool.toNat, Bool.cond_eq_ite, Bool.cond_eq_ite]
  omega

theorem covered_step (p : BillPool) (i : ℕ) (e : Env)
    (h : Racing id start plan p) (ho : InOrder start p i e) (hn : NotOvertaken id p i e)
    (hc : Covered id start initial plan p) :
    Covered id start initial plan (step (traced exec) (billWatch id true) p i e) := by
  rcases step_cases p i e with
    ⟨-, hstep⟩ | ⟨w, c, k, hi, hstep⟩
  · rw [hstep]; exact hc
  have hallowed := h.obeying.allowed hi
  rw [hstep]
  obtain ⟨hpaid, r, hr, hreach⟩ := hc
  constructor
  · have howes := hallowed.owes (e := e) (s := p.shared.1)
    have hset := countP_set_add owing
      (billWatch id true w c (exec e c p.shared.1).1, k (exec e c p.shared.1).1) hi
    simp only [traced, countP_snoc, owing, eventOf] at *
    omega
  · simp only [traced, countP_snoc]
    cases hx : c.isExtension id with
    | false =>
      obtain ⟨r', hr', hexp⟩ := hallowed.expiry hx hr
      exact ⟨r', hr', hexp ▸ hreach⟩
    | true =>
      obtain ⟨σ, r', hσ, hs', hr'⟩ := hallowed.stamps hx hr (ho.succeeds hi)
      have hsaw := h.saw _ (mem_of_getElem? hi)
      simp only [NotOvertaken, hi] at hn
      refine ⟨r', by rw [hs']; exact DB.lookup_setRow _ _ _, ?_⟩
      rw [hr', Sight.renewed, hsaw.2 σ hσ]
      exact hreach.extend (hsaw.1.trans (le_max_left _ _)) fun x hx' => hn hx σ hσ r hr x hx'

theorem covered_start {r : Subscriber} (ops : List BillingOp) (hr : s.subscribers.lookup id = some r) :
    Covered id start r.planExpiry plan (racePool start s ops) :=
  ⟨Nat.zero_le _, r, hr, rfl⟩

/-- When all have returned, nothing is owed any more. -/
theorem countP_owing (h : Racing id start plan p) (hfin : Finished p) : p.threads.countP owing = 0 := by
  rw [countP_eq_zero]
  intro t ht
  obtain ⟨i, hi⟩ := List.getElem?_of_mem ht
  have := h.obeying.ended hfin hi
  simp [owing, this]

/-- What is covered when all have returned: a cycle for every charge. -/
theorem Covered.room (h : Racing id start plan p) (hc : Covered id start initial plan p) (hfin : Finished p)
    (hpaid : 0 < p.shared.2.countP (isPaid id)) :
    ∃ r x, p.shared.1.subscribers.lookup id = some r ∧ r.planExpiry = some x ∧
      addDays (renewalBase start initial)
        (p.shared.2.countP (isPaid id) * plan.validityDays) ≤ x := by
  obtain ⟨hle, r, hr, hreach⟩ := hc
  rw [countP_owing h hfin] at hle
  cases hn : p.shared.2.countP (fun ev => ev.call.isExtension id) with
  | zero => omega
  | succ n =>
    rw [hn] at hle hreach
    obtain ⟨x, hx, hxle⟩ := hreach
    refine ⟨r, x, hr, hx, le_trans ?_ hxle⟩
    have hcast : (p.shared.2.countP (isPaid id) : ℤ) ≤ ((n + 1 : ℕ) : ℤ) := ofNat_le.mpr hle
    have hv : 0 ≤ plan.validityDays := le_of_lt plan.validity_pos
    have hday : 0 ≤ day := by decide
    exact Int.add_le_add_left (Int.mul_le_mul_of_nonneg_right
      (mul_le_mul_of_nonneg_right hcast hv) hday) _

/-! ### Every interleaving -/

/-- Scanner passes and portal renewals in any interleaving, every call succeeding: every extension
    moves the expiry by a full cycle exactly when none is overtaken, and then the final expiry is at
    least one cycle per committed charge after the later of the start and the initial expiry. -/
theorem extensions_advance_iff_not_overtaken (id : ℤ) (start : Time) (s : DB) (ops : List BillingOp)
    (sched : List (ℕ × Env)) (r : Subscriber) (plan : Plan)
    (hr : s.subscribers.lookup id = some r) (hplan : s.plans.lookup r.planID = some plan)
    (hok : Meets (traced exec) (billWatch id true) (InOrder start) (racePool start s ops) sched)
    (hfin : Finished (raceRun id start s ops sched)) :
    (AllAdvance id (raceRun id start s ops sched) ↔
      Meets (traced exec) (billWatch id true) (NotOvertaken id) (racePool start s ops) sched) ∧
    (Meets (traced exec) (billWatch id true) (NotOvertaken id) (racePool start s ops) sched →
      0 < (raceRun id start s ops sched).shared.2.countP (isPaid id) →
      ∃ r' x, (raceRun id start s ops sched).shared.1.subscribers.lookup id = some r' ∧
        r'.planExpiry = some x ∧
        addDays (renewalBase start r.planExpiry)
          ((raceRun id start s ops sched).shared.2.countP (isPaid id) * plan.validityDays) ≤ x) := by
  have hrace : Racing id start plan (racePool start s ops) := racing_start ops ⟨r, hr, hplan⟩
  constructor
  · have hiff := run_iff_meets racing_step allAdvance_step sched _ hrace hok
    have hnone : AllAdvance id (racePool start s ops) := fun ev hev => by cases hev
    exact hiff.trans (and_iff_right hnone)
  · intro hn
    obtain ⟨hend, hcov⟩ := run_inv
      (I := fun p => Racing id start plan p ∧ Covered id start r.planExpiry plan p)
      (fun p i e h hC => ⟨racing_step p i e h.1 hC.1, covered_step p i e h.1 hC.1 hC.2 h.2⟩)
      sched _ ⟨hrace, covered_start ops hr⟩ (hok.and hn)
    exact hcov.room hend hfin

end

/-- Both passes list the subscriber before either charges it. -/
def bothListFirst : List (ℕ × Env) :=
  [(0, .at day), (1, .at day)] ++ List.replicate 8 (0, .at day) ++ List.replicate 8 (1, .at day)

/-- Two overlapping passes charge twice and extend to day 31, not to day 61. -/
theorem overlapping_scans_lose_cycle :
    Meets (traced exec) (billWatch 1 true) (InOrder day)
      (racePool day expiredSubscriber [.scan, .scan]) bothListFirst ∧
    Finished (raceRun 1 day expiredSubscriber [.scan, .scan] bothListFirst) ∧
    (raceRun 1 day expiredSubscriber [.scan, .scan] bothListFirst).shared.2.countP (isPaid 1) = 2 ∧
    ((raceRun 1 day expiredSubscriber [.scan, .scan] bothListFirst).shared.1.subscribers.lookup 1).map
      (fun r => r.planExpiry) = some (some (31 * day)) ∧
    31 * day < addDays (renewalBase day (some 0)) (2 * 30) :=
  ⟨by decide +kernel, by decide +kernel, by decide +kernel, by decide +kernel, by decide +kernel⟩

/-- A pass, and then a portal renewal that starts when it is done. -/
def scanThenRenew : List (ℕ × Env) :=
  List.replicate 8 (0, .at day) ++ List.replicate 12 (1, .at (2 * day))

/-- One after the other, the two charges buy two cycles. -/
theorem sequential_renewals_keep_cycles :
    ∃ r' x, (raceRun 1 day expiredSubscriber [.scan, .renewal 1 (paise 59000) "pay_1"]
        scanThenRenew).shared.1.subscribers.lookup 1 = some r' ∧ r'.planExpiry = some x ∧
      addDays (renewalBase day (some 0)) (((raceRun 1 day expiredSubscriber
        [.scan, .renewal 1 (paise 59000) "pay_1"] scanThenRenew).shared.2.countP (isPaid 1)) * 30) ≤ x :=
  (extensions_advance_iff_not_overtaken 1 day expiredSubscriber
    [.scan, .renewal 1 (paise 59000) "pay_1"] scanThenRenew
    { Subscriber.paidUntil 0 with walletBalance := 118000, balance_nonneg := by decide }
    ⟨"Home", 50000, 30, 100, by decide, by decide⟩ rfl rfl (by decide +kernel) (by decide +kernel)).2
    (by decide +kernel) (by decide +kernel)

end IspBss
