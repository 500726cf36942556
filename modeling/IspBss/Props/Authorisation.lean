import IspBss.Props.RenewalAccounting

/-! Is anybody served who has never paid?

    A subscriber enters as `pending_payment`. Two writes lead to a status that is served:

        auto-renewal   debit ─▶ ActivateSubscriber        a cycle has been paid for
        dunning        SetSubscriberDunningState(stage)   whatever the status is

    and a plan change dates a first cycle without charging for it, which is all that dunning needs to
    find the subscriber. So nobody is served unpaid exactly when no dunning write into a served status
    commits before a payment. -/

namespace IspBss

open Lib Prog List Pool Bool Handler

/-! ### The operations -/

/-- What can happen to a subscriber in its life. -/
inductive LifecycleOp where
  | provision (req : CreateSubscriberRequest)
  | planChange (id newPlanID : ℤ)
  | recharge (req : WalletRechargeRequest)
  | renewal (subscriberID : ℤ) (amount : Decimal) (paymentID : String)
  | billingScan
  | dunningScan
  | terminate (id : ℤ)

def LifecycleOp.prog : LifecycleOp → Service Unit
  | provision req => (ProvisionSubscriber req).void
  | planChange id newPlanID => (changeSubscriberPlan id newPlanID).void
  | recharge req => (WalletRecharge req).void
  | renewal subscriberID amount paymentID => (ApplyRenewal subscriberID amount paymentID).void
  | billingScan => RecurringBillingScanner.Scan
  | dunningScan => DunningScanner.Scan
  | terminate id => (performTermination id).void

/-- Operations in progress, each with what it has seen of one subscriber. -/
def lifePool (s : DB) (ops : List LifecycleOp) : BillPool :=
  start BillRec.init (s, []) (ops.map LifecycleOp.prog)

/-! ### Payments -/

/-- The gateway payment of a portal renewal, which its description tells from a plain recharge. -/
def RechargePosting.isPortalPayment (id : ℤ) (p : RechargePosting) : Bool :=
  p.isGatewayCredit id && p.credit.description = "portal one-tap renewal"

def Call.isPayment (id : ℤ) : Call → Bool
  | .db (.recordRecharge p) => p.isRenewalDebit id || p.isPortalPayment id
  | _ => false

/-- A committed auto-renewal debit or portal payment of the subscriber. -/
def isPayment (id : ℤ) (ev : BillEvent) : Bool := ev.call.isPayment id && succeeded ev.call ev.resp

def hasPaid (id : ℤ) (h : List BillEvent) : Bool := h.any (isPayment id)

theorem hasPaid_snoc (id : ℤ) (h : List BillEvent) (ev : BillEvent) :
    hasPaid id (h ++ [ev]) = (hasPaid id h || isPayment id ev) := by
  simp [hasPaid]

/-- The subscriber is served only if it has paid. -/
def ServedIfPaid (id : ℤ) (p : BillPool) : Prop :=
  ∀ r, p.shared.1.subscribers.lookup id = some r → AuthorisesService r.status = true →
    hasPaid id p.shared.2 = true

/-- A dunning write of the subscriber into a status that is served. -/
def Call.dunsIntoService (id : ℤ) : Call → Bool
  | .db (.setSubscriberDunningState id' _ status) => id' = id && AuthorisesService status
  | _ => false

/-- If the step commits a dunning write into a served status, the subscriber has already paid. -/
def DunsIfPaid (id : ℤ) (p : BillPool) (i : ℕ) (e : Env) : Prop :=
  match p.threads[i]? with
  | some (_, .call c _) => c.dunsIntoService id = true →
      succeeded c (exec e c p.shared.1).1 = true → hasPaid id p.shared.2 = true
  | _ => True

/-! ### What the operations may do -/

/-- Calls that leave the subscriber's status alone or withdraw service, and create nobody served. -/
def Op.servesNobody (id : ℤ) : Op → Bool
  | setSubscriberDunningState id' _ _ | activateSubscriber id' _ | updateSubscriber id' _ _ _ => id' ≠ id
  | createSubscriber row => !AuthorisesService row.status
  | _ => true

/-- The calls of the operations: an activation only by a thread that has just debited. -/
inductive Lives (id : ℤ) : BillRec → Call → Prop where
  | clock (w) : Lives id w .timeNow
  | plain (w op) (h : Op.servesNobody id op = true) : Lives id w (.db op)
  | activate (w t) (ho : w.owed = true) : Lives id w (.db (.activateSubscriber id t))
  | dunning (w state status) : Lives id w (.db (.setSubscriberDunningState id state status))

section
variable {id : ℤ} {w : BillRec} {c : Call} {α : Type} {op : Op}

theorem Op.servesNobody_of_sideline (h : op.sideline = true) : op.servesNobody id = true := by
  cases op <;> first | rfl | cases h

theorem Op.servesNobody_of_isRead (h : op.isRead = true) : op.servesNobody id = true := by
  cases op <;> first | rfl | cases h

theorem Op.servesNobody_of_quiet (h : op.quiet id false = true) : op.servesNobody id = true := by
  cases op <;> first | rfl | exact h | cases h

/-- A renewal's calls are among them. -/
theorem Bills.lives (h : Bills id false w c) : Lives id w c := by
  cases h with
  | clock => exact .clock w
  | quiet op h => exact .plain w op (Op.servesNobody_of_quiet h)
  | activate σ hs hp ho => exact .activate w _ ho
  | restore state status hs => exact .dunning w state status
  | list | info | charge | extend | portalExtend => exact .plain w _ rfl

theorem lives_of_isDunning {sid : ℤ} (h : IsDunningOf sid op) : Lives id w (.db op) := by
  obtain ⟨state, rfl⟩ := h
  by_cases hid : sid = id
  · exact hid ▸ .dunning w _ _
  · exact .plain w _ (by simpa [Op.servesNobody] using hid)

/-- A program whose writes all are among them, whatever it has seen. -/
theorem Makes.lives {W : Op → Prop} (hW : ∀ w op, W op → Lives id w (.db op)) {p : Service α}
    (h : Makes W p) (w : BillRec) :
    Obeys (billWatch id false) (Answers false) (Lives id) (fun _ _ => True) p w := by
  refine Calls.obeys (fun w c hc => ?_) h w
  cases hc with
  | clock => exact .clock w
  | aside op h => exact .plain w op (Op.servesNobody_of_sideline h)
  | read op h => exact .plain w op (Op.servesNobody_of_isRead h)
  | write op h => exact hW w op h

end

theorem makes_provision (req : CreateSubscriberRequest) :
    Makes (fun op => op = .createSubscriber (subscriberRecordFrom req))
      (ProvisionSubscriber req) := by
  unfold ProvisionSubscriber
  split
  · trivial
  split
  · trivial
  refine makes_write ?_ fun r => by cases r <;> trivial
  rfl

theorem makes_planChange (id newPlanID : ℤ) :
    Makes (fun op => ∃ t, op = .setSubscriberPlan id newPlanID t) (changeSubscriberPlan id newPlanID) := by
  refine makes_read rfl fun r => ?_
  rcases r with err | found
  · cases err <;> trivial
  cases found with
  | none => trivial
  | some info =>
    refine makes_clock fun now => makes_write ⟨_, rfl⟩ fun r => ?_
    rcases r with err | updated
    · trivial
    · cases updated <;> trivial

theorem makes_walletRecharge (req : WalletRechargeRequest) :
    Makes (fun op => ∃ b, op = .recordRecharge (req.recharge.posting b)) (WalletRecharge req) := by
  refine calls_bind (makes_Recharge _) fun res => ?_
  cases res with
  | error err => trivial
  | ok tx =>
    refine calls_bind (asides_SettleCommission _ _ _).makes fun _ => ?_
    exact calls_bind (asides_receipt _ _ _).makes fun _ => trivial

theorem makes_termination (id : ℤ) :
    Makes (fun op => op = .terminateSubscriber id) (performTermination id) := by
  refine makes_write ?_ fun r => ?_
  · rfl
  rcases r with err | found
  · trivial
  · cases found <;> trivial

theorem LifecycleOp.lives (id : ℤ) (op : LifecycleOp) :
    Obeys (billWatch id false) (Answers false) (Lives id) (fun _ _ => True) op.prog BillRec.init := by
  cases op with
  | provision req =>
    exact Makes.lives (fun w op h => h ▸ .plain w _ rfl) (calls_void (makes_provision req)) _
  | planChange sid newPlanID =>
    refine Makes.lives (fun w op h => ?_) (calls_void (makes_planChange sid newPlanID)) _
    obtain ⟨t, rfl⟩ := h
    exact .plain w _ rfl
  | recharge req =>
    refine Makes.lives (fun w op h => ?_) (calls_void (makes_walletRecharge req)) _
    obtain ⟨b, rfl⟩ := h
    exact .plain w _ rfl
  | renewal sid amount pid =>
    refine Obeys.mono_rules (fun _ _ => Bills.lives) (obeys_void ?_)
    exact (obeys_ApplyRenewal nofun rfl).mono fun _ _ _ => trivial
  | billingScan =>
    refine Obeys.mono_rules (fun _ _ => Bills.lives) ?_
    exact (obeys_Scan (fun w r hr => hr.2) rfl).mono fun _ _ _ => trivial
  | dunningScan =>
    refine Makes.lives (fun w op h => ?_) makes_dunningScan _
    obtain ⟨sid, h⟩ := h
    exact lives_of_isDunning h
  | terminate sid =>
    exact Makes.lives (fun w op h => h ▸ .plain w _ rfl) (calls_void (makes_termination sid)) _

/-! ### One call -/

section
variable {id : ℤ} {w : BillRec} {c : Call} {e : Env} {s : DB}

/-- If the subscriber is served after a call, it had that status before, or the call activates it
    after a debit, or the call is a dunning write into service. -/
theorem Lives.served (hc : Lives id w c) {r' : Subscriber} (hr' : (exec e c s).2.subscribers.lookup id = some r')
    (hserved : AuthorisesService r'.status = true) :
    (∃ r, s.subscribers.lookup id = some r ∧ AuthorisesService r.status = true) ∨ w.owed = true ∨
      (c.dunsIntoService id = true ∧ succeeded c (exec e c s).1 = true) := by
  cases hr : s.subscribers.lookup id with
  | none =>
    -- created by this call, and nobody is created served
    rcases exec_cases e c s with ⟨rfl, hs⟩ | ⟨op, err, rfl, hs⟩ | ⟨op, a, s', rfl, -, hs, heff⟩
    · rw [hs, hr] at hr'; cases hr'
    · rw [hs, hr] at hr'; cases hr'
    · rw [hs] at hr'
      cases heff.lookup_new hr hr'
      cases hc with
      | plain _ h => simp [Op.servesNobody, hserved] at h
  | some r =>
    obtain ⟨r₁, hr₁, h⟩ := exec_lookup e c hr
    cases hr₁.symm.trans hr'
    rcases h with rfl | ⟨op, a, rfl, hx, hw⟩
    · exact .inl ⟨r', rfl, hserved⟩
    · generalize hrow : r.toSubscriberRow = row at hw
      generalize hrow' : r'.toSubscriberRow = row' at hw
      have hst : r'.status = row'.status := by rw [hrow']
      have hsame : row'.status = row.status → AuthorisesService r.status = true := by
        intro h
        rw [hrow, ← h, ← hst]
        exact hserved
      cases hw with
      | balance | expiry | portalExpiry | plan => exact .inl ⟨r, rfl, hsame rfl⟩
      | dunning _ state status =>
        refine .inr (.inr ⟨?_, ?_⟩)
        · rw [hst] at hserved
          simpa [Call.dunsIntoService] using hserved
        · rw [hx]; rfl
      | activate _ t =>
        cases hc with
        | plain _ h => simp [Op.servesNobody] at h
        | activate _ ho => exact .inr (.inl ho)
      | update =>
        cases hc with
        | plain _ h => simp [Op.servesNobody] at h
      | terminate =>
        rw [hst] at hserved
        cases hserved

/-- A dunning write into service that commits has its effect. -/
theorem served_of_duns (hd : c.dunsIntoService id = true) (hok : succeeded c (exec e c s).1 = true) :
    ∃ r', (exec e c s).2.subscribers.lookup id = some r' ∧ AuthorisesService r'.status = true := by
  rcases exec_cases e c s with ⟨rfl, -⟩ | ⟨op, err, rfl, hs⟩ | ⟨op, a, s', rfl, htx, hs, -⟩
  · cases hd
  · rw [hs] at hok; cases hok
  · cases op with
    | setSubscriberDunningState id' state status =>
      obtain ⟨hid, hst⟩ : id' = id ∧ AuthorisesService status = true := by
        simpa [Call.dunsIntoService] using hd
      subst hid
      obtain ⟨r, r', -, hr', rfl⟩ := SetSubscriberDunningState_ok htx
      refine ⟨r', by rw [hs]; exact DB.lookup_setRow _ _ _, ?_⟩
      rw [hr']
      exact hst
    | _ => cases hd

/-- What a thread owes an extension for is a payment. -/
theorem billWatch_owed {r : c.Resp} (h : (billWatch id false w c r).owed = true) :
    w.owed = true ∨ (c.isPayment id = true ∧ succeeded c r = true) := by
  cases c with
  | timeNow => exact .inl h
  | db op =>
    cases op with
    | recordRecharge p =>
      cases r with
      | error err => exact .inl h
      | ok tx =>
        by_cases hp : isCharge id false p = true
        · refine .inr ⟨?_, rfl⟩
          simp only [isCharge, Bool.false_and, Bool.or_false] at hp
          simp [Call.isPayment, hp]
        · simp only [billWatch, if_neg hp] at h
          exact .inl h
    | listRenewalCandidates => cases r <;> exact .inl h
    | getPlanRenewalInfo id' =>
      cases r with
      | error err => exact .inl h
      | ok q =>
        simp only [billWatch] at h
        split at h <;> exact .inl h
    | setPlanExpiry id' t | activateSubscriber id' t | portalSetPlanExpiry id' t =>
      simp only [billWatch] at h
      split at h
      · cases h
      · exact .inl h
    | _ => exact .inl h

end

/-! ### Every run -/

/-- The threads keep to their calls, and one that owes an extension has made a payment. -/
structure Living (id : ℤ) (p : BillPool) : Prop where
  obeying : Obeying (billWatch id false) (Answers false) (fun _ => Lives id) (fun _ _ => True) p
  owed : ∀ (i : ℕ) (w : BillRec) (q : Service Unit), p.threads[i]? = some (w, q) →
    w.owed = true → hasPaid id p.shared.2 = true

theorem living_start (id : ℤ) (s : DB) (ops : List LifecycleOp) : Living id (lifePool s ops) := by
  constructor
  · refine obeying_start fun i q hq => ?_
    rw [getElem?_map, Option.map_eq_some_iff] at hq
    obtain ⟨op, -, rfl⟩ := hq
    exact op.lives id
  · intro i w q hi ho
    simp only [lifePool, start, getElem?_map, Option.map_eq_some_iff, Prod.mk.injEq] at hi
    obtain ⟨_, -, rfl, -⟩ := hi
    cases ho

theorem living_step {id : ℤ} (p : BillPool) (i : ℕ) (e : Env) (h : Living id p) :
    Living id (step (traced exec) (billWatch id false) p i e) := by
  constructor
  · exact obeying_step h.obeying fun w c k hi => exec_answers fun hs => by cases hs
  · rcases step_cases p i e with
      ⟨-, hstep⟩ | ⟨w, c, k, hi, -⟩
    · rw [hstep]
      exact h.owed
    · intro j w' q hj ho
      rw [traced_shared hi]
      rw [hasPaid_snoc, or_eq_true]
      rcases step_thread hi hj with ⟨-, rfl, -⟩ | ⟨-, hj⟩
      · rcases billWatch_owed ho with ho | ⟨hpay, hok⟩
        · exact .inl (h.owed i w _ hi ho)
        · exact .inr (and_eq_true_iff.mpr ⟨hpay, hok⟩)
      · exact .inl (h.owed j w' q hj ho)

/-- One step keeps the subscriber served only if paid exactly when it duns into service only if
    paid. -/
theorem servedIfPaid_step {id : ℤ} (p : BillPool) (i : ℕ) (e : Env) (h : Living id p)
    (hserved : ServedIfPaid id p) :
    ServedIfPaid id (step (traced exec) (billWatch id false) p i e) ↔ DunsIfPaid id p i e := by
  unfold DunsIfPaid
  rcases step_cases p i e with
    ⟨hnone, hstep⟩ | ⟨w, c, k, hi, hstep⟩
  · rw [hstep]
    split
    · rename_i w c k hi
      exact absurd hi (hnone w c k)
    · exact ⟨fun _ => trivial, fun _ => hserved⟩
  · rw [hstep, hi]
    have hpaid : ∀ {q}, ServedIfPaid id ⟨(traced exec e c p.shared).2, q⟩ ↔
        ∀ r, (exec e c p.shared.1).2.subscribers.lookup id = some r →
          AuthorisesService r.status = true →
          hasPaid id p.shared.2 = true ∨ isPayment id (eventOf e c p.shared.1) = true := by
      intro q
      change (∀ r, _ → _ → hasPaid id (p.shared.2 ++ [eventOf e c p.shared.1]) = true) ↔ _
      simp only [hasPaid_snoc, or_eq_true]
      exact Iff.rfl
    rw [hpaid]
    constructor
    · intro hafter hd hok
      obtain ⟨r', hr', hst⟩ := served_of_duns hd hok
      refine (hafter r' hr' hst).resolve_right fun hpay => ?_
      -- a dunning write is no payment
      have hcall : c.isPayment id = true := (and_eq_true_iff.mp hpay).1
      cases c with
      | timeNow => cases hd
      | db op => cases op <;> first | cases hd | cases hcall
    · intro hduns r' hr' hst
      left
      rcases (Obeying.allowed h.obeying hi).served hr' hst with ⟨r, hr, hr₁⟩ | ho | ⟨hd, hok⟩
      · exact hserved r hr hr₁
      · exact h.owed i w _ hi ho
      · exact hduns hd hok

/-- Provisioning, plan changes, recharges, renewals, scans of both kinds and terminations, in any
    number, order and interleaving: a subscriber who does not exist at the start is served only after
    a payment, in every state reached, exactly when every dunning write that commits for it into a
    served status comes after a payment. -/
theorem served_if_paid_iff_dunned_if_paid (id : ℤ) (s : DB) (ops : List LifecycleOp)
    (sched : List (ℕ × Env)) (hnew : s.subscribers.lookup id = none) :
    (∀ pre, pre <+: sched → ServedIfPaid id
      (run (traced exec) (billWatch id false) (lifePool s ops) pre)) ↔
    Meets (traced exec) (billWatch id false) (DunsIfPaid id) (lifePool s ops) sched := by
  refine always_iff_meets living_step servedIfPaid_step sched _ (living_start id s ops) ?_
  intro r hr
  rw [show (lifePool s ops).shared.1 = s from rfl, hnew] at hr
  cases hr

instance (id : ℤ) (p : BillPool) : Decidable (ServedIfPaid id p) :=
  decidable_of_iff ((p.shared.1.subscribers.lookup id).all fun r =>
    !AuthorisesService r.status || hasPaid id p.shared.2) (by
      simp [ServedIfPaid, Option.all_eq_true, imp_iff_not_or])

/-- A request for a subscriber of the monthly plan. -/
def newcomer : CreateSubscriberRequest := ⟨"CAF1", "one", "secret", "+919876543210", 1, "TN"⟩

/-- Created and moved to a plan at time 0, and found by the dunning scanner five days before the
    cycle that nobody has paid for ends. -/
def dunnedUnpaid : List (ℕ × Env) :=
  replicate 1 (0, .at 0) ++ replicate 3 (1, .at 0) ++ replicate 5 (2, .at (25 * day))

/-- The newcomer is active and has paid nothing. -/
theorem newcomer_served_unpaid :
    (((run (traced exec) (billWatch 1 false)
      (lifePool (.seeded ∅) [.provision newcomer, .planChange 1 1, .dunningScan])
      dunnedUnpaid).shared.1.subscribers.lookup 1).map fun r => r.status) = some .active ∧
    hasPaid 1 (run (traced exec) (billWatch 1 false)
      (lifePool (.seeded ∅) [.provision newcomer, .planChange 1 1, .dunningScan])
      dunnedUnpaid).shared.2 = false :=
  ⟨by decide +kernel, by decide +kernel⟩

/-- In that run dunning writes before any payment. -/
theorem newcomer_dunned_unpaid :
    ¬ Meets (traced exec) (billWatch 1 false) (DunsIfPaid 1)
      (lifePool (.seeded ∅) [.provision newcomer, .planChange 1 1, .dunningScan]) dunnedUnpaid := by
  rw [← served_if_paid_iff_dunned_if_paid 1 (.seeded ∅)
    [.provision newcomer, .planChange 1 1, .dunningScan] dunnedUnpaid rfl]
  intro h
  exact absurd (h _ (prefix_refl _)) (by decide +kernel)

end IspBss
