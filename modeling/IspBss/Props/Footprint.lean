import IspBss.Db.Effects
import IspBss.Api.Lifecycle

/-! Which calls each service makes.

    Most calls of a service only read, or write beside the subscribers table. What is left is short and
    is said here once for every service, whatever the store answers:

        Recharge, Post         recordRecharge
        extendPlanExpiry       portalSetPlanExpiry
        TransitionDunning      setSubscriberDunningState, with the status the stage stands for
        renew c                only the row of `c`                                              -/

namespace IspBss

open Lib RecurringBillingScanner Prog WalletService

/-- Calls that show nothing of a cycle and write no subscriber and no wallet row. -/
def Op.sideline : Op → Bool
  | getSubscriberBalance _ | getTransactionByToken _ | getSubscriberDunningState _
  | getInvoiceInputs _ | getActiveGstRate | getSubscriberFranchiseID _ | getFranchiseByID _
  | getSubscriberByID _ | createInvoice _ | storeLCOCommission _ | enqueue _ => true
  | _ => false

/-- The subscriber whose row a call may rewrite. -/
def Op.subject : Op → Option ℤ
  | recordRecharge p => some p.subscriberID
  | setSubscriberDunningState id _ _ | setPlanExpiry id _ | activateSubscriber id _
  | portalSetPlanExpiry id _ | updateSubscriber id _ _ _ | setSubscriberPlan id _ _
  | terminateSubscriber id => some id
  | _ => none

variable {r r' : SubscriberRow}

theorem RowWrite.subject {op : Op} {id : ℤ} (h : RowWrite op id r r') : op.subject = some id := by
  cases h <;> rfl

theorem RowWrite.not_sideline {op : Op} {id : ℤ} (h : RowWrite op id r r') : op.sideline = false := by
  cases h <;> rfl

inductive Aside : Call → Prop where
  | mk (op : Op) (h : op.sideline = true) : Aside (.db op)

/-- The clock, a call aside, a read, or a write that `W` allows. -/
inductive Within (W : Op → Prop) : Call → Prop where
  | clock : Within W .timeNow
  | aside (op : Op) (h : op.sideline = true) : Within W (.db op)
  | read (op : Op) (h : op.isRead = true) : Within W (.db op)
  | write (op : Op) (h : W op) : Within W (.db op)

section
variable {α β : Type} {W W' : Op → Prop} {c : Call} {op : Op} {p : Service α} {sid : ℤ}

theorem Aside.within (h : Aside c) : Within W c := by
  cases h with
  | mk op h => exact .aside op h

theorem Within.mono (hW : ∀ op, W op → W' op) (h : Within W c) : Within W' c := by
  cases h with
  | clock => exact .clock
  | aside op h => exact .aside op h
  | read op h => exact .read op h
  | write op h => exact .write op (hW op h)

/-- A program all of whose calls are aside. -/
abbrev Asides (p : Service α) : Prop := Prog.Calls (S := sig) Aside p

/-- A program that makes no write but those `W` allows. -/
abbrev Makes (W : Op → Prop) (p : Service α) : Prop := Prog.Calls (S := sig) (Within W) p

theorem asides_db (h : op.sideline = true) {k : Except StoreErr op.Result → Service α}
    (hk : ∀ r, Asides (k r)) : Asides (db op >>= k) := ⟨.mk op h, hk⟩

theorem Asides.makes (h : Asides p) : Makes W p := h.mono fun _ => Aside.within

theorem Makes.mono (hW : ∀ op, W op → W' op) (h : Makes W p) : Makes W' p :=
  Prog.Calls.mono (fun _ => Within.mono hW) h

theorem makes_clock {k : Time → Service α} (hk : ∀ t, Makes W (k t)) : Makes W (timeNow >>= k) :=
  ⟨.clock, hk⟩

theorem makes_aside (h : op.sideline = true) {k : Except StoreErr op.Result → Service α}
    (hk : ∀ r, Makes W (k r)) : Makes W (db op >>= k) := ⟨.aside op h, hk⟩

theorem makes_read (h : op.isRead = true) {k : Except StoreErr op.Result → Service α}
    (hk : ∀ r, Makes W (k r)) : Makes W (db op >>= k) := ⟨.read op h, hk⟩

theorem makes_write (h : W op) {k : Except StoreErr op.Result → Service α}
    (hk : ∀ r, Makes W (k r)) : Makes W (db op >>= k) := ⟨.write op h, hk⟩

/-! ### Beside the subscribers table -/

theorem asides_lookupToken (token : String) : Asides (lookupToken token) := by
  unfold lookupToken
  split
  · trivial
  · exact asides_db rfl fun r => by cases r <;> trivial

theorem asides_buildInvoice (c : RenewalCandidate) : Asides (buildInvoice c) :=
  asides_db rfl fun r => by cases r <;> trivial

theorem asides_createRenewalInvoice (sid : ℤ) (amount : Decimal) : Asides (createRenewalInvoice sid amount) := by
  refine asides_db rfl fun r => ?_
  cases r with
  | error err => trivial
  | ok inputs =>
    refine asides_db rfl fun r => ?_
    cases r with
    | error err => trivial
    | ok rate => exact asides_db rfl fun r => by cases r <;> trivial

theorem asides_CalculateLCOCommission (e : LCOCommissionEntry) : Asides (CalculateLCOCommission e) := by
  refine asides_db rfl fun r => ?_
  cases r with
  | error err => trivial
  | ok franchise =>
    dsimp only
    split
    · trivial
    · exact asides_db rfl fun _ => trivial

theorem asides_SettleCommission (sid : ℤ) (amount : Decimal) (ref : String) :
    Asides (SettleCommissionForRecharge sid amount ref) := by
  refine asides_db rfl fun r => ?_
  cases r with
  | error err => trivial
  | ok franchise =>
    cases franchise with
    | none => trivial
    | some f => exact asides_CalculateLCOCommission _

theorem asides_receipt (sid : ℤ) (amount balance : Decimal) :
    Asides (Handler.enqueuePaymentReceipt sid amount balance) := by
  refine asides_db rfl fun r => ?_
  rcases r with err | found
  · trivial
  · cases found with
    | none => trivial
    | some sub => exact asides_db rfl fun _ => trivial

theorem asides_notify (c : DunningCandidate) (target : DunningState) (now : Time) :
    Asides (DunningScanner.notify c target now) := by
  unfold DunningScanner.notify
  split
  · trivial
  · refine asides_db rfl fun r => ?_
    rcases r with err | u
    · cases err <;> trivial
    · trivial

/-! ### The wallet -/

theorem makes_recordPosting {p : RechargePosting} (h : W (.recordRecharge p)) : Makes W (recordPosting p) :=
  makes_write h fun r => by cases r <;> trivial

/-- A recharge calls aside and posts, and does not even read the clock. -/
theorem calls_Recharge (req : RechargeRequest) :
    Prog.Calls (S := sig) (fun c => Aside c ∨ ∃ b, c = .db (.recordRecharge (req.posting b)))
      (Recharge req) := by
  unfold Recharge
  split
  · trivial
  refine calls_bind ((asides_lookupToken _).mono fun _ => Or.inl) fun found => ?_
  cases found with
  | some tx => trivial
  | none =>
    refine ⟨Or.inl (.mk _ rfl), fun r => ?_⟩
    cases r with
    | error err => trivial
    | ok b => exact ⟨Or.inr ⟨_, rfl⟩, fun r => by cases r <;> trivial⟩

theorem makes_Recharge (req : RechargeRequest) :
    Makes (fun op => ∃ b, op = .recordRecharge (req.posting b)) (Recharge req) := by
  refine (calls_Recharge req).mono fun c hc => ?_
  rcases hc with h | ⟨b, rfl⟩
  · exact h.within
  · exact .write _ ⟨b, rfl⟩

theorem makes_Post (req : PostRequest) :
    Makes (fun op => ∃ d b, op = .recordRecharge (req.posting d b)) (Post req) := by
  unfold Post
  split
  · trivial
  split
  · trivial
  split
  · trivial
  refine calls_bind (asides_lookupToken _).makes fun found => ?_
  cases found with
  | some tx => trivial
  | none =>
    refine makes_aside rfl fun r => ?_
    cases r with
    | error err => trivial
    | ok b =>
      dsimp only
      split
      · trivial
      · exact makes_recordPosting ⟨_, _, rfl⟩

/-! ### The portal -/

theorem makes_extendPlanExpiry (sid : ℤ) :
    Makes (fun op => ∃ t, op = .portalSetPlanExpiry sid t) (extendPlanExpiry sid) := by
  refine makes_read rfl fun r => ?_
  cases r with
  | error err => trivial
  | ok info =>
    refine makes_clock fun now => ?_
    exact makes_write ⟨_, rfl⟩ fun r => by cases r <;> trivial

theorem makes_ApplyRenewal (sid : ℤ) (amount : Decimal) (pid : String) :
    Makes (fun op => (∃ b, op = .recordRecharge ((renewalRecharge sid amount pid).posting b)) ∨
      ∃ t, op = .portalSetPlanExpiry sid t) (ApplyRenewal sid amount pid) := by
  refine calls_bind ((makes_Recharge _).mono fun _ => Or.inl) fun res => ?_
  cases res with
  | error err => trivial
  | ok tx =>
    refine calls_bind (calls_void ((makes_extendPlanExpiry sid).mono fun _ => Or.inr))
      fun _ => ?_
    refine calls_bind (calls_void (asides_createRenewalInvoice _ _).makes) fun _ => ?_
    exact calls_bind (asides_SettleCommission _ _ _).makes fun _ => trivial

/-! ### Dunning -/

/-- A dunning write of the subscriber: a stage with the status it stands for. -/
def IsDunningOf (sid : ℤ) (op : Op) : Prop :=
  ∃ state, op = .setSubscriberDunningState sid state (dunningToSubscriberStatus state)

theorem makes_TransitionDunning (sid : ℤ) (target : DunningState) :
    Makes (fun op => op = .setSubscriberDunningState sid target (dunningToSubscriberStatus target))
      (TransitionDunning sid target) := by
  refine makes_aside rfl fun r => ?_
  cases r with
  | error err => trivial
  | ok q =>
    obtain ⟨current, expiry⟩ := q
    dsimp only
    split
    · refine makes_write ?_ fun r => by cases r <;> trivial
      rfl
    · trivial

/-- A dunning write of the subscriber on the way to the target. -/
def IsStepOf (sid : ℤ) (target : DunningState) (op : Op) : Prop :=
  ∃ state next, stepToward state target = some next ∧
    op = .setSubscriberDunningState sid next (dunningToSubscriberStatus next)

theorem IsStepOf.isDunning {target : DunningState} (h : IsStepOf sid target op) : IsDunningOf sid op := by
  obtain ⟨-, next, -, hop⟩ := h
  exact ⟨next, hop⟩

theorem makes_walk (sid : ℤ) (target : DunningState) (fuel : ℕ) :
    ∀ state, Makes (IsStepOf sid target) (DunningScanner.walk sid target fuel state) := by
  induction fuel with
  | zero =>
    intro state
    trivial
  | succ fuel ih =>
    intro state
    unfold DunningScanner.walk
    split
    · trivial
    split
    · trivial
    rename_i next hnext
    refine calls_bind ((makes_TransitionDunning sid next).mono ?_) fun res => ?_
    · rintro op rfl
      exact ⟨state, next, hnext, rfl⟩
    cases res with
    | error err => trivial
    | ok u => exact ih _

theorem makes_visit (now : Time) (c : DunningCandidate) :
    Makes (IsStepOf c.subscriberID (NextDunningState c.state c.planExpiry now)) (DunningScanner.visit now c) := by
  unfold DunningScanner.visit
  dsimp only
  split
  · trivial
  refine calls_void (calls_bind (makes_walk _ _ _ _) fun res => ?_)
  cases res with
  | error err => trivial
  | ok state =>
    dsimp only
    split
    · exact (asides_notify c _ now).makes
    · trivial

theorem makes_dunningScan : Makes (fun op => ∃ sid, IsDunningOf sid op) DunningScanner.Scan := by
  refine makes_read rfl fun r => ?_
  cases r with
  | error err => trivial
  | ok candidates =>
    refine makes_clock fun now => ?_
    exact calls_each fun c _ => (makes_visit now c).mono fun _ h => ⟨_, h.isDunning⟩

/-! ### The auto-renewal scanner -/

/-- The writes of a renewal: the debit, the new expiry date, and the stage and status of the restored
    row. -/
inductive RenewalWrite (sid : ℤ) : Op → Prop where
  | debit (p : RechargePosting) (h : p.subscriberID = sid) : RenewalWrite sid (.recordRecharge p)
  | extend (t : Time) : RenewalWrite sid (.setPlanExpiry sid t)
  | activate (t : Time) : RenewalWrite sid (.activateSubscriber sid t)
  | restore (state : DunningState) :
      RenewalWrite sid (.setSubscriberDunningState sid state (dunningToSubscriberStatus state))

theorem RenewalWrite.subject (h : RenewalWrite sid op) : op.subject = some sid := by
  cases h with
  | debit p h => exact congrArg some h
  | _ => rfl

variable (c : RenewalCandidate)

theorem makes_grant (newExpiry : Time) :
    Makes (RenewalWrite c.subscriberID) (grant c newExpiry) := by
  unfold grant
  split
  · exact makes_write (.activate newExpiry) fun r => by cases r <;> trivial
  · exact makes_write (.extend newExpiry) fun r => by cases r <;> trivial

theorem makes_restore (newExpiry : Time) :
    Makes (RenewalWrite c.subscriberID) (restore c newExpiry) := by
  unfold restore
  split
  · trivial
  refine calls_bind ((makes_TransitionDunning _ _).mono ?_) fun res => ?_
  · rintro op rfl
    exact .restore .active
  cases res with
  | error err => trivial
  | ok u =>
    dsimp only
    split
    · exact makes_aside rfl fun _ => trivial
    · trivial

/-- Renewing a candidate writes no more than that, and no row but the candidate's. -/
theorem makes_renew : Makes (RenewalWrite c.subscriberID) (renew c) := by
  refine makes_clock fun now => ?_
  refine calls_bind (asides_buildInvoice c).makes fun res => ?_
  cases res with
  | error err => trivial
  | ok inv =>
    refine calls_bind ((makes_Post _).mono ?_) fun res => ?_
    · rintro op ⟨direction, balance, rfl⟩
      exact .debit _ rfl
    rcases res with err | tx
    · cases err <;> trivial
    refine calls_bind (makes_grant c _) fun res => ?_
    cases res with
    | error err => trivial
    | ok u => exact makes_aside rfl fun _ => calls_bind (makes_restore c _) fun _ => trivial

theorem makes_billingScan : Makes (fun op => ∃ sid, RenewalWrite sid op) Scan := by
  refine makes_read rfl fun r => ?_
  cases r with
  | error err => trivial
  | ok candidates =>
    exact calls_each fun c _ => calls_void ((makes_renew c).mono fun _ h => ⟨_, h⟩)

end

/-! ### What they leave alone -/

section
variable {id : ℤ} {r : Subscriber} {s : DB}

/-- A call that is within the writes of others leaves the subscriber's row as it is. -/
theorem exec_lookup_spared {c : Call} (hc : Within (fun op => op.subject ≠ some id) c) (e : Env) (hr : s.subscribers.lookup id = some r) :
    (exec e c s).2.subscribers.lookup id = some r := by
  obtain ⟨r', hr', rfl | ⟨op, a, rfl, -, hw⟩⟩ := exec_lookup e c hr
  · exact hr'
  · cases hc with
    | aside op h => rw [hw.not_sideline] at h; cases h
    | read op h => rw [hw.not_read] at h; cases h
    | write op h => exact absurd hw.subject h

/-- So does a whole program of such calls. -/
theorem Makes.spares {α : Type} {p : Service α} (h : Makes (fun op => op.subject ≠ some id) p)
    (e : Env) (hr : s.subscribers.lookup id = some r) : (Prog.run exec e p s).2.subscribers.lookup id = some r :=
  Prog.Calls.run_inv (I := fun s : DB => s.subscribers.lookup id = some r)
    (fun _ _ hc hs => exec_lookup_spared hc e hs) h hr

end

/-! ### What they keep of every row -/

section
variable {J : SubscriberRow → Prop} {e : Env} {s : DB} {α : Type}

/-- What holds of every entry of a table holds of every row a lookup finds. -/
theorem forall_lookup {P : ℤ → α → Prop} {rows : Table α} :
    (∀ id a, rows.lookup id = some a → P id a) ↔ ∀ p ∈ rows.entries, P p.1 p.2 :=
  ⟨fun h p hp => h p.1 p.2 (AList.mem_lookup_iff.mpr hp), fun h id a ha =>
    h ⟨id, a⟩ (AList.mem_lookup_iff.mp ha)⟩

/-- Every row of the subscribers table is `J`. -/
def DB.Rows (J : SubscriberRow → Prop) (s : DB) : Prop :=
  ∀ id r, s.subscribers.lookup id = some r → J r.toSubscriberRow

/-- What the rewriting of a row keeps, a call that creates none keeps of all of them. -/
theorem exec_rows {c : Call} (hnew : ∀ row, c ≠ .db (.createSubscriber row))
    (hw : ∀ op id r r', c = .db op → s.subscribers.lookup id = some r →
      RowWrite op id r.toSubscriberRow r' → J r.toSubscriberRow → J r')
    (hs : s.Rows J) : (exec e c s).2.Rows J := by
  intro id r' hr'
  cases hr : s.subscribers.lookup id with
  | some r =>
    obtain ⟨r₁, hr₁, hrow⟩ := exec_lookup e c hr
    cases hr'.symm.trans hr₁
    rcases hrow with rfl | ⟨op, -, rfl, -, hrow⟩
    · exact hs id _ hr
    · exact hw op id r _ rfl hr hrow (hs id r hr)
  | none =>
    rcases exec_cases e c s with ⟨-, hx⟩ | ⟨op, err, rfl, hx⟩ | ⟨op, a, s', rfl, -, hx, heff⟩
    · rw [hx, hr] at hr'
      cases hr'
    · rw [hx, hr] at hr'
      cases hr'
    · rw [hx] at hr'
      exact absurd (congrArg Call.db (heff.lookup_new hr hr')) (hnew _)

/-- So does a program whose writes all keep it. -/
theorem Makes.rows {W : Op → Prop} {p : Service α} (h : Makes W p) (hnew : ∀ row, ¬ W (.createSubscriber row))
    (hw : ∀ op id r r', W op → RowWrite op id r r' → J r → J r') (hs : s.Rows J) :
    (Prog.run exec e p s).2.Rows J := by
  refine Prog.Calls.run_inv (fun c s hc hs => ?_) h hs
  refine exec_rows ?_ ?_ hs
  · rintro row rfl
    cases hc with
    | aside _ h => cases h
    | read _ h => cases h
    | write _ h => exact hnew row h
  · rintro op id r r' rfl - hrow
    cases hc with
    | aside _ h => rw [hrow.not_sideline] at h; cases h
    | read _ h => rw [hrow.not_read] at h; cases h
    | write _ h => exact hw op id _ r' h hrow

end

end IspBss
