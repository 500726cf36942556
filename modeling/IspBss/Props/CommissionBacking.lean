import IspBss.Lib.Runs
import IspBss.Props.GatewayBacking
import IspBss.Props.WalletOutcome

/-! Is every commission backed by a credit?

    All three ways money comes in do the same two things: credit the wallet, then settle the
    commission of the subscriber's franchise. Both are guarded against repetition by the payment's
    token, each in its own table:

        Recharge(sub, amount, t)   t on wallet_ledgers ─▶ success, nothing credited
        Settle(sub, amount, t)     t on lco_ledger     ─▶ nothing settled

    The commission is computed from the request and not from the transaction that was found. A token
    presented again for another subscriber or amount credits nothing and still earns a commission. -/

namespace IspBss

open Lib Lib.Numeric WalletService Prog List Run BillingStore Indexed Handler

/-! ### Backed commissions -/

/-- The franchise a subscriber belongs to. -/
def DB.franchiseOf (s : DB) (id : ℤ) : Option ℤ := (s.subscribers.lookup id).bind fun r => r.franchiseID

/-- A wallet credit with this token. -/
@[mk_iff]
structure WalletLedger.Credits (row : WalletLedger) (token : String) (subscriberID amount : ℤ) : Prop where
  token : row.transactionToken = some token
  account : row.account = .subscriberWallet
  credit : row.entryType = .credit
  subscriber : row.subscriberID = subscriberID
  amount : row.amount = amount

/-- The commission is for its subscriber's franchise, and a credit with its reference has its subscriber
    and its recharge amount. -/
def LcoLedger.BackedIn (row : LcoLedger) (s : DB) : Prop :=
  s.franchiseOf row.subscriberID = some row.franchiseID ∧
  ∃ token, row.transactionRef = some token ∧
    ∃ credit ∈ s.walletLedgers.rows, credit.Credits token row.subscriberID row.rechargeAmount

def CommissionsBacked (s : DB) : Prop := ∀ row ∈ s.lcoLedger.rows, row.BackedIn s

/-- The recharges on which a franchise was paid. -/
def rechargesReported (s : DB) (franchiseID : ℤ) : ℤ :=
  ((s.lcoLedger.rows.filter fun row => row.franchiseID = franchiseID).map LcoLedger.rechargeAmount).sum

/-- What the wallets of its subscribers were credited with. -/
def walletsCredited (s : DB) (franchiseID : ℤ) : ℤ :=
  ((s.walletLedgers.rows.filter fun row => row.account = .subscriberWallet ∧ row.entryType = .credit ∧
    s.franchiseOf row.subscriberID = some franchiseID).map WalletLedger.amount).sum

/-- The wallet ledger has no negative amount. -/
def AmountsNonneg (s : DB) : Prop := ∀ row ∈ s.walletLedgers.rows, 0 ≤ row.amount

variable {s : DB} {op : Op} {id : ℤ} {s' : DB}

/-- A backed commission takes no more than was credited: references and tokens are unique. -/
theorem reported_le_credited (hs : CommissionsBacked s) (hpos : AmountsNonneg s) (franchiseID : ℤ) :
    rechargesReported s franchiseID ≤ walletsCredited s franchiseID := by
  refine sum_le_of_backed hpos fun row hrow hfranchise => ?_
  obtain ⟨hown, token, href, credit, hcredit, hc⟩ := hs row hrow
  refine ⟨token, credit, href, hcredit, hc.token, ?_, hc.amount⟩
  have hfranchise : row.franchiseID = franchiseID := by simpa using hfranchise
  rw [hfranchise] at hown
  simp [hc.account, hc.credit, hc.subscriber, hown]

/-! ### What the other calls leave alone -/

/-- Both ledgers are the same and nobody has changed franchise. -/
structure SameLedgers (s s' : DB) : Prop where
  wallet : s'.walletLedgers = s.walletLedgers
  lco : s'.lcoLedger = s.lcoLedger
  franchise : ∀ id, s'.franchiseOf id = s.franchiseOf id

/-- The calls that post to a ledger or register a subscriber. -/
def Op.touchesBooks : Op → Bool
  | recordRecharge _ | storeLCOCommission _ | createSubscriber _ => true
  | _ => false

theorem RowWrite.franchise {r r' : SubscriberRow} (h : RowWrite op id r r') : r'.franchiseID = r.franchiseID := by
  cases h <;> rfl

theorem franchiseOf_setRow {r r' : Subscriber} (hr : s.subscribers.lookup id = some r)
    (h : r'.franchiseID = r.franchiseID) (id' : ℤ) : (s.setRow id r').franchiseOf id' = s.franchiseOf id' := by
  unfold DB.franchiseOf
  by_cases hid : id' = id
  · subst hid
    rw [DB.lookup_setRow, hr]
    exact h
  · rw [DB.lookup_setRow_ne s r' hid]

theorem exec_sameLedgers (e : Env) (hop : op.touchesBooks = false) (s : DB) :
    SameLedgers s (exec e (.db op) s).2 := by
  rcases exec_db_cases e op s with ⟨err, hx⟩ | ⟨a, s', -, hx, heff⟩
  · rw [hx]
    exact ⟨rfl, rfl, fun _ => rfl⟩
  · rw [hx]
    cases heff with
    | read => exact ⟨rfl, rfl, fun _ => rfl⟩
    | row _ _ id r r' hr hw => exact ⟨rfl, rfl, franchiseOf_setRow hr hw.franchise⟩
    | create => cases hop
    | recharge => cases hop
    | invoice => exact ⟨rfl, rfl, fun _ => rfl⟩
    | commission => cases hop
    | enqueue => exact ⟨rfl, rfl, fun _ => rfl⟩

/-- A call that touches no book. -/
inductive OffBooks : Call → Prop where
  | clock : OffBooks .timeNow
  | call (op : Op) (h : op.touchesBooks = false) : OffBooks (.db op)

section
variable {α : Type}

theorem offBooks_db {op : Op} (h : op.touchesBooks = false) {k : Except StoreErr op.Result → Service α}
    (hk : ∀ r, Prog.Calls (S := sig) OffBooks (k r)) : Prog.Calls (S := sig) OffBooks (db op >>= k) :=
  ⟨.call op h, hk⟩

theorem offBooks_receipt (sid : ℤ) (amount balance : Decimal) :
    Prog.Calls (S := sig) OffBooks (enqueuePaymentReceipt sid amount balance) := by
  refine offBooks_db rfl fun r => ?_
  rcases r with err | found
  · trivial
  · cases found with
    | none => trivial
    | some sub => exact offBooks_db rfl fun _ => trivial

theorem offBooks_extend (sid : ℤ) : Prog.Calls (S := sig) OffBooks (extendPlanExpiry sid) := by
  refine offBooks_db rfl fun r => ?_
  cases r with
  | error err => trivial
  | ok info => exact ⟨.clock, fun now => offBooks_db rfl fun r => by cases r <;> trivial⟩

theorem offBooks_invoice (sid : ℤ) (amount : Decimal) :
    Prog.Calls (S := sig) OffBooks (createRenewalInvoice sid amount) := by
  refine offBooks_db rfl fun r => ?_
  cases r with
  | error err => trivial
  | ok inputs =>
    refine offBooks_db rfl fun r => ?_
    cases r with
    | error err => trivial
    | ok rate => exact offBooks_db rfl fun r => by cases r <;> trivial

/-- A program off the books keeps whatever depends on the books only. -/
theorem offBooks_run {I : DB → Prop} (hI : ∀ s s', SameLedgers s s' → I s → I s') {p : Service α}
    (h : Prog.Calls (S := sig) OffBooks p) (e : Env) {s : DB} (hs : I s) : I (run exec e p s).2 := by
  refine Prog.Calls.run_inv (fun c s hc hs => ?_) h hs
  cases hc with
  | clock => exact hs
  | call op hop => exact hI _ _ (exec_sameLedgers e hop s) hs

end

/-! ### One payment -/

variable (p : Payment)

/-- The row is the credit of this payment. -/
def Payment.CreditedBy (row : WalletLedger) : Prop :=
  row.Credits p.paymentID p.subscriberID row.amount ∧ paise row.amount = p.amount

/-- The subscriber has no franchise, or the payment's commission is on the ledger. -/
def Payment.NothingToSettle (s : DB) : Prop :=
  s.franchiseOf p.subscriberID = none ∨ p.paymentID ∈ s.lcoLedger.rows.filterMap LcoLedger.transactionRef

/-- A token that is on the ledger is presented for the subscriber and the amount it was credited with,
    unless there is nothing to settle. -/
def Payment.Faithful (s : DB) : Prop :=
  ∀ row ∈ s.walletLedgers.rows, row.transactionToken = some p.paymentID →
    p.CreditedBy row ∨ p.NothingToSettle s

/-- A token and a positive amount of whole paise. -/
def Payment.Proper : Prop := p.paymentID ≠ "" ∧ ∃ n : ℤ, 0 < n ∧ p.amount = paise n

structure SoundBooks (s : DB) : Prop where
  backed : CommissionsBacked s
  nonneg : AmountsNonneg s

/-- The commission of the payment may be settled. -/
structure Settleable (p : Payment) (s : DB) : Prop where
  sound : SoundBooks s
  credited : (∃ row ∈ s.walletLedgers.rows, p.CreditedBy row) ∨ p.NothingToSettle s

theorem SameLedgers.sound (h : SameLedgers s s') (hs : SoundBooks s) : SoundBooks s' := by
  obtain ⟨hbacked, hpos⟩ := hs
  constructor
  · intro row hrow
    rw [h.lco] at hrow
    obtain ⟨hown, hcredit⟩ := hbacked row hrow
    refine ⟨(h.franchise _).trans hown, ?_⟩
    rw [h.wallet]
    exact hcredit
  · intro row hrow
    rw [h.wallet] at hrow
    exact hpos row hrow

theorem SameLedgers.settleable {p : Payment} (h : SameLedgers s s') (hs : Settleable p s) : Settleable p s' := by
  refine ⟨h.sound hs.sound, ?_⟩
  rw [Payment.NothingToSettle, h.wallet, h.lco, h.franchise]
  exact hs.credited

section
variable {e : Env} {p : Payment} {s : DB}

variable {req : RechargeRequest} {s' : DB} {α : Type} {g : Gateway}

/-- A posted recharge: the books stay sound, and the payment is credited. -/
theorem posted_settleable {b : Decimal} {n : ℤ} (hsound : SoundBooks s)
    (hsub : req.subscriberID = p.subscriberID) (htoken : req.transactionToken = p.paymentID)
    (hreq : req.amount = p.amount) (hne : p.paymentID ≠ "") (hpos : 0 < n) (hn : p.amount = paise n)
    (h : Posted (req.posting b) s s') : Settleable p s' := by
  obtain ⟨s₁, m, ledgers, entry, rows, -, hlegs, hrows, -, hrow⟩ := h
  have hlco : s₁.lcoLedger = s.lcoLedger := by
    rcases hrow with ⟨rfl, -⟩ | ⟨r, r', -, -, rfl⟩ <;> rfl
  have hfranchise : ∀ id, s₁.franchiseOf id = s.franchiseOf id := by
    rcases hrow with ⟨rfl, -⟩ | ⟨r, r', hr, hr', rfl⟩
    · exact fun _ => rfl
    · exact franchiseOf_setRow hr (by rw [hr'])
  obtain ⟨i, j, d, c, bd, bc, hd, hc⟩ := hlegs
  have hamount : ∀ m, numeric12 req.amount = some m → m = n := fun m hm =>
    @toFixed_ofFixed 12 2 n m (by rw [← hm, hreq, hn]; rfl)
  refine ⟨⟨fun row hrow => ?_, fun row hrow => ?_⟩,
    Or.inl ⟨ledgerRow (req.posting b).credit (req.posting b).credit.transactionToken j c bc,
      ?_, ?_⟩⟩
  · rw [hlco] at hrow
    obtain ⟨hown, token, href, credit, hcredit, hcr⟩ := hsound.backed row hrow
    refine ⟨(hfranchise _).trans hown, token, href, credit, ?_, hcr⟩
    rw [hrows]
    exact mem_append_left _ hcredit
  · rw [hrows, mem_append] at hrow
    rcases hrow with hold | hnew
    · exact hsound.nonneg row hold
    · simp only [mem_cons, not_mem_nil, or_false] at hnew
      rcases hnew with rfl | rfl
      · rw [hamount d hd]
        exact hpos.le
      · rw [hamount c hc]
        exact hpos.le
  · rw [hrows]
    exact mem_append_right _ (mem_cons_of_mem _ mem_cons_self)
  · refine ⟨⟨?_, rfl, rfl, hsub, rfl⟩, ?_⟩
    · simp only [ledgerRow, RechargeRequest.posting, htoken, nullIfEmpty, if_neg hne]
    · rw [ledgerRow, hamount c hc, hn]

/-- After a recharge that succeeds the commission may be settled: the payment was credited now, or its
    token was presented faithfully. -/
theorem Recharge_settleable (hsound : SoundBooks s) (hp : p.Proper)
    (hf : p.Faithful s) (hsub : req.subscriberID = p.subscriberID)
    (htoken : req.transactionToken = p.paymentID) (hreq : req.amount = p.amount) :
    SoundBooks (run exec e (Recharge req) s).2 ∧
    ((run exec e (Recharge req) s).1.isOk = true →
      Settleable p (run exec e (Recharge req) s).2) := by
  obtain ⟨hne, n, hpos, hn⟩ := hp
  have hout : PostsOrNot req.transactionToken s (Settleable p)
      (run exec e (Recharge req) s) := Recharge_outcome fun r tx s' _ htx =>
    posted_settleable hsound hsub htoken hreq hne hpos hn (RecordRecharge_ok htx)
  rcases hout with ⟨hnot, hs⟩ | ⟨-, hset⟩
  · rw [hs]
    refine ⟨hsound, fun hok => ⟨hsound, ?_⟩⟩
    have htaken : s.walletLedgers.find? p.paymentID ≠ none := fun hnone =>
      hnot ⟨hok, Or.inr (htoken ▸ hnone)⟩
    obtain ⟨row, hrow, hkey⟩ := find?_ne_none htaken
    exact (hf row hrow hkey).imp (fun hcred => ⟨row, hrow, hcred⟩) id
  · exact ⟨hset.sound, fun _ => hset⟩

/-- Storing the commission of a payment that may be settled, for the subscriber's own franchise. -/
theorem stored_sound {entry : LCOCommissionEntry} {u : Unit} (hs : Settleable p s)
    (hp : p.Proper) (hfranchise : s.franchiseOf p.subscriberID = some entry.franchiseID)
    (hsub : entry.subscriberID = p.subscriberID) (hamount : entry.rechargeAmount = p.amount)
    (href : entry.transactionRef = p.paymentID)
    (h : RevenueStore.CalculateAndStoreLCOCommission entry s = .ok (u, s')) : SoundBooks s' := by
  obtain ⟨hne, n, -, hn⟩ := hp
  obtain ⟨row, hkey, ⟨hrowf, hrows, hrecharge⟩, hins⟩ := CalculateAndStoreLCOCommission_ok h
  rw [href, nullIfEmpty, if_neg hne] at hkey
  rcases hins with ⟨-, rfl⟩ | ⟨ledger, journal, hsome, rfl⟩
  · exact hs.sound
  refine ⟨fun x hx => ?_, hs.sound.nonneg⟩
  rw [rows_of_insert hsome, mem_append, mem_singleton] at hx
  rcases hx with hold | rfl
  · exact hs.sound.backed x hold
  rcases hs.credited with ⟨credit, hcredit, hcr, hpaise⟩ | hnone | hsettled
  · refine ⟨?_, p.paymentID, hkey, credit, hcredit, hcr.token, hcr.account, hcr.credit, ?_, ?_⟩
    · rw [hrows, hsub, hrowf]
      exact hfranchise
    · rw [hrows, hsub, hcr.subscriber]
    · have hstored : x.rechargeAmount = credit.amount :=
        @toFixed_ofFixed 12 2 credit.amount x.rechargeAmount (by
          rw [← hrecharge, hamount, ← hpaise]
          rfl)
      exact hstored.symm
  · rw [hnone] at hfranchise
    cases hfranchise
  · rw [(insert_eq_none hkey).mpr hsettled] at hsome
    cases hsome

theorem settle_sound (hs : Settleable p s) (hp : p.Proper) :
    SoundBooks (run exec e (SettleCommissionForRecharge p.subscriberID p.amount p.paymentID) s).2 := by
  simp only [SettleCommissionForRecharge, db_bind, run_db]
  rcases exec_db_cases e (.getSubscriberFranchiseID p.subscriberID) s with
    ⟨err, hx⟩ | ⟨q, s₁, htx, hx, -⟩
  · rw [hx]
    exact hs.sound
  obtain ⟨⟨r, hr, rfl⟩, rfl⟩ := GetSubscriberFranchiseID_ok htx
  rw [hx]
  have hof : s₁.franchiseOf p.subscriberID = r.franchiseID := by rw [DB.franchiseOf, hr]; rfl
  generalize r.franchiseID = q at hof
  cases q with
  | none => exact hs.sound
  | some f =>
    simp only [CalculateLCOCommission, db_bind, run_db]
    rw [exec_read e rfl]
    generalize (exec e (.db (.getFranchiseByID f)) s₁).1 = found
    cases found with
    | error err => exact hs.sound
    | ok franchise =>
      dsimp only
      split
      · exact hs.sound
      · rw [Prog.void]
        simp only [db_bind, run_db, run_ret]
        generalize hentry : LCOCommissionEntry.mk f p.subscriberID p.amount _ _ p.paymentID = entry
        rcases exec_db_cases e (.storeLCOCommission entry) s₁ with ⟨err, hx⟩ | ⟨u, s₂, htx, hx, -⟩
        · rw [hx]
          exact hs.sound
        · rw [hx]
          subst hentry
          exact stored_sound hs hp hof rfl rfl rfl htx

/-! ### One request -/

/-- A request that brings money in. -/
inductive PaymentCall where
  | recharge (req : WalletRechargeRequest)
  | webhook (body : Body) (signature : String)
  | renewal (subscriberID : ℤ) (amount : Decimal) (paymentID : String)

/-- The payment a request makes its handler book, if any. -/
def PaymentCall.payment (g : Gateway) : PaymentCall → Option Payment
  | recharge req => some ⟨req.transactionToken, req.subscriberID, req.amount⟩
  | webhook body signature => (GatewayRequest.webhook body signature).payment g
  | renewal subscriberID amount paymentID => some ⟨paymentID, subscriberID, amount⟩

def PaymentCall.prog (g : Gateway) : PaymentCall → Service Unit
  | recharge req => (WalletRecharge req).void
  | webhook body signature => (g.RazorpayWebhook body signature).void
  | renewal subscriberID amount paymentID => (ApplyRenewal subscriberID amount paymentID).void

/-- A recharge and, if it succeeds, what follows it. -/
theorem recharge_then_sound {k : Except WalletErr Transaction → Service α} (hsound : SoundBooks s) (hp : p.Proper)
    (hf : p.Faithful s) (hsub : req.subscriberID = p.subscriberID)
    (htoken : req.transactionToken = p.paymentID) (hreq : req.amount = p.amount)
    (herr : ∀ err, ∃ a, k (.error err) = Prog.ret a)
    (hok : ∀ tx s', Settleable p s' → SoundBooks (run exec e (k (.ok tx)) s').2) :
    SoundBooks (run exec e (Recharge req >>= k) s).2 := by
  rw [run_bind]
  obtain ⟨hs, hset⟩ := Recharge_settleable hsound hp hf hsub htoken hreq
  generalize run exec e (Recharge req) s = out at hs hset
  obtain ⟨res, s₁⟩ := out
  cases res with
  | error err =>
    obtain ⟨a, ha⟩ := herr err
    rw [ha]
    exact hs
  | ok tx => exact hok tx s₁ (hset rfl)

/-- Settling and a receipt. -/
theorem settle_receipt_sound {balance : Decimal} {a : α} (hs : Settleable p s) (hp : p.Proper) :
    SoundBooks (run exec e (do
      SettleCommissionForRecharge p.subscriberID p.amount p.paymentID
      enqueuePaymentReceipt p.subscriberID p.amount balance
      return a) s).2 := by
  rw [run_bind]
  have hsettled := settle_sound (e := e) hs hp
  rw [run_bind]
  exact offBooks_run (fun _ _ => SameLedgers.sound) (offBooks_receipt _ _ _) e hsettled

theorem renewal_sound {sid : ℤ} {amount : Decimal} {pid : String} (hsound : SoundBooks s)
    (hp : (⟨pid, sid, amount⟩ : Payment).Proper) (hf : (⟨pid, sid, amount⟩ : Payment).Faithful s) :
    SoundBooks (run exec e (ApplyRenewal sid amount pid) s).2 := by
  refine recharge_then_sound hsound hp hf rfl rfl rfl (fun _ => ⟨_, rfl⟩) fun tx s₁ hset => ?_
  -- the extension and the invoice are off the books
  rw [run_bind, run_void]
  have h₁ := offBooks_run (fun _ _ => SameLedgers.settleable)
    (offBooks_extend sid) e hset
  rw [run_bind, run_void]
  have h₂ := offBooks_run (fun _ _ => SameLedgers.settleable)
    (offBooks_invoice sid amount) e h₁
  rw [run_bind]
  exact settle_sound h₂ hp

theorem walletRecharge_sound {req : WalletRechargeRequest} (hsound : SoundBooks s)
    (hp : (⟨req.transactionToken, req.subscriberID, req.amount⟩ : Payment).Proper)
    (hf : (⟨req.transactionToken, req.subscriberID, req.amount⟩ : Payment).Faithful s) :
    SoundBooks (run exec e (WalletRecharge req) s).2 :=
  recharge_then_sound hsound hp hf rfl rfl rfl (fun _ => ⟨_, rfl⟩)
    fun _ _ hset => settle_receipt_sound hset hp

theorem webhook_sound {body : Body} {signature : String} (hsound : SoundBooks s)
    (hp : ∀ p ∈ (PaymentCall.webhook body signature).payment g, p.Proper ∧ p.Faithful s) :
    SoundBooks (run exec e (g.RazorpayWebhook body signature) s).2 := by
  unfold Gateway.RazorpayWebhook
  split
  · exact hsound
  dsimp only
  split
  · exact hsound
  rename_i hsig
  split
  · exact hsound
  rename_i payload hpayload
  split
  · exact hsound
  rename_i p hcaptured
  have hpay : (PaymentCall.webhook body signature).payment g = some p := by
    simp only [PaymentCall.payment, GatewayRequest.payment, hpayload, Option.bind_some, hcaptured]
    exact if_pos (by simpa using hsig)
  obtain ⟨hproper, hf⟩ := hp p hpay
  exact recharge_then_sound hsound hproper hf rfl rfl rfl (fun _ => ⟨_, rfl⟩)
    fun tx s₁ hset => settle_receipt_sound hset hproper

/-- One request keeps the books sound if its token is presented faithfully. -/
theorem PaymentCall.sound {c : PaymentCall} (hsound : SoundBooks s)
    (hp : ∀ p ∈ c.payment g, p.Proper ∧ p.Faithful s) : SoundBooks (run exec e (c.prog g) s).2 := by
  cases c with
  | recharge req =>
    obtain ⟨hproper, hf⟩ := hp _ rfl
    rw [PaymentCall.prog, run_void]
    exact walletRecharge_sound hsound hproper hf
  | webhook body signature =>
    rw [PaymentCall.prog, run_void]
    exact webhook_sound hsound hp
  | renewal sid amount pid =>
    obtain ⟨hproper, hf⟩ := hp _ rfl
    rw [PaymentCall.prog, run_void]
    exact renewal_sound hsound hproper hf

end

/-! ### Any number of requests -/

variable (g : Gateway) (s : DB) (x : Env × PaymentCall)

/-- One request, from start to end. -/
def payStep : DB := (Prog.run exec x.1 (x.2.prog g) s).2

/-- Every token is presented faithfully. -/
def PresentsFaithfully : Prop :=
  ∀ p ∈ x.2.payment g, p.Faithful s

/-- Any number of requests of the three kinds, one after another, with any failing store calls. If a
    token that is on the ledger is only presented again for the subscriber and the amount it was
    credited with, or where there is nothing to settle, then in every state reached each commission
    has the subscriber and the amount of the credit with its token, and no franchise was paid on more
    than its subscribers' wallets were credited with. -/
theorem commissions_backed_of_faithful (g : Gateway) (s : DB) (hs : CommissionsBacked s)
    (hpos : AmountsNonneg s) (calls : List (Env × PaymentCall))
    (hcalls : ∀ x ∈ calls, ∀ p ∈ x.2.payment g, p.Proper)
    (hmeets : Meets (payStep g) (PresentsFaithfully g) s calls) :
    ∀ pre, pre <+: calls → CommissionsBacked (run (payStep g) s pre) ∧
      ∀ franchiseID, rechargesReported (run (payStep g) s pre) franchiseID ≤
        walletsCredited (run (payStep g) s pre) franchiseID := by
  intro pre hpre
  have hsound : SoundBooks (run (payStep g) s pre) := by
    refine always (I := SoundBooks) (fun s x hs hx => ?_) ⟨hs, hpos⟩ (hmeets.and_mem hcalls) hpre
    exact PaymentCall.sound hs fun p hp => ⟨hx.2 p hp, hx.1 p hp⟩
  exact ⟨hsound.backed, reported_le_credited hsound.backed hsound.nonneg⟩

instance (row : WalletLedger) (token : String) (subscriberID amount : ℤ) :
    Decidable (row.Credits token subscriberID amount) :=
  decidable_of_iff' _ (WalletLedger.credits_iff ..)

instance (p : Payment) (s : DB) : Decidable (p.Faithful s) :=
  inferInstanceAs (Decidable (∀ row ∈ s.walletLedgers.rows, row.transactionToken = some p.paymentID →
    (row.Credits p.paymentID p.subscriberID row.amount ∧ paise row.amount = p.amount) ∨ (_ ∨ _)))

instance (g : Gateway) (s : DB) (x : Env × PaymentCall) : Decidable (PresentsFaithfully g s x) :=
  inferInstanceAs (Decidable (∀ p ∈ x.2.payment g, p.Faithful s))

/-- Subscriber 1 without a franchise, subscriber 2 of franchise 7, which earns ten percent. -/
def oneOfFranchise : DB :=
  { DB.seeded (((∅ : Table Subscriber).insert 1 (.paidUntil 0)).insert 2
      { Subscriber.paidUntil 0 with username := "two", cafNumber := "CAF2", franchiseID := some 7 }) with
    franchises := (∅ : Table Franchise).insert 7 ⟨"Partner", 1000, true⟩ }

/-- A cash recharge over the counter. -/
def overCounter (subscriberID amount : ℤ) (token : String) : PaymentCall :=
  .recharge ⟨subscriberID, paise amount, "cash", token⟩

/-- One token for two: 100.00 to a subscriber without a franchise, then 500.00 claimed for one of
    franchise 7. No wallet of the franchise is credited, and it is paid on 500.00. -/
theorem reused_token_pays_commission :
    CommissionsBacked oneOfFranchise ∧
    rechargesReported (run (payStep oneGateway) oneOfFranchise
      [(.at 0, overCounter 1 10000 "t1"), (.at 0, overCounter 2 50000 "t1")]) 7 = 50000 ∧
    walletsCredited (run (payStep oneGateway) oneOfFranchise
      [(.at 0, overCounter 1 10000 "t1"), (.at 0, overCounter 2 50000 "t1")]) 7 = 0 := by
  refine ⟨fun row hrow => absurd hrow not_mem_nil, by decide +kernel, by decide +kernel⟩

/-- A token presented twice for the same payment is settled once. -/
theorem repeated_payment_backed :
    rechargesReported (run (payStep oneGateway) oneOfFranchise
      [(.at 0, overCounter 2 50000 "t1"), (.at 0, overCounter 2 50000 "t1")]) 7 = 50000 ∧
    CommissionsBacked (run (payStep oneGateway) oneOfFranchise
      [(.at 0, overCounter 2 50000 "t1"), (.at 0, overCounter 2 50000 "t1")]) := by
  refine ⟨by decide +kernel, ?_⟩
  refine (commissions_backed_of_faithful oneGateway oneOfFranchise
    (fun row hrow => absurd hrow not_mem_nil) (fun row hrow => absurd hrow not_mem_nil)
    [(.at 0, overCounter 2 50000 "t1"), (.at 0, overCounter 2 50000 "t1")] ?_ (by decide +kernel)
    _ (prefix_refl _)).1
  intro x hx p hp
  simp only [mem_cons, not_mem_nil, or_false, or_self] at hx
  subst hx
  cases hp
  exact ⟨by decide, 50000, by decide, rfl⟩

end IspBss
