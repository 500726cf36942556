import IspBss.Props.RenewalOutcome
import IspBss.Props.WalletRace

/-! The records a renewal leaves: what a replay adds, and whether the invoice states the money.

    A payment delivered again is recognised by the wallet and by the commission ledger, but its expiry
    and its invoice have no guard. The portal takes the amount paid as the invoice's base amount and
    adds the tax on top; the scanner debits the invoice's total:

        portal    collected 590.00   invoice 590.00 + 18 % = 696.20
        scanner   invoice 500.00 + 18 % = 590.00   collected 590.00 -/

namespace IspBss

open Lib Lib.Numeric RecurringBillingScanner Prog

/-! ### Delivering one payment again -/

/-- One delivery of the payment, at the time `t`. -/
def deliver (sid : ℤ) (amount : Decimal) (pid : String) (s : DB) (t : Time) : DB :=
  (Prog.run exec (.at t) (ApplyRenewal sid amount pid) s).2

/-- Every store call of every delivery succeeds. -/
def AllDelivered (sid : ℤ) (amount : Decimal) (pid : String) : DB → List Time → Prop
  | _, [] => True
  | s, t :: ts => Prog.Accepts exec (.at t) succeeded (ApplyRenewal sid amount pid) s ∧
      AllDelivered sid amount pid (deliver sid amount pid s t) ts

instance decidableAllDelivered (sid : ℤ) (amount : Decimal) (pid : String) :
    ∀ (s : DB) (ts : List Time), Decidable (AllDelivered sid amount pid s ts)
  | _, [] => isTrue trivial
  | s, t :: ts =>
    have := decidableAllDelivered sid amount pid (deliver sid amount pid s t) ts
    inferInstanceAs (Decidable (_ ∧ _))

def DB.balanceOf (s : DB) (id : ℤ) : Option ℤ :=
  (s.subscribers.lookup id).map fun r => r.walletBalance

def DB.expiryOf (s : DB) (id : ℤ) : Option (Option Time) :=
  (s.subscribers.lookup id).map fun r => r.planExpiry

/-- The money side of a payment: balance, wallet ledger and commission ledger. -/
structure SameMoney (id : ℤ) (s s' : DB) : Prop where
  balance : s'.balanceOf id = s.balanceOf id
  ledgers : s'.walletLedgers = s.walletLedgers
  commissions : s'.lcoLedger = s.lcoLedger

/-- Everything a payment leaves behind: the money side, the expiry and the invoices. -/
structure SameRecords (id : ℤ) (s s' : DB) : Prop extends SameMoney id s s' where
  expiry : s'.expiryOf id = s.expiryOf id
  invoices : s'.invoices = s.invoices

/-- The payment has been delivered: its token is known and its commission settled. -/
structure Recorded (sid : ℤ) (pid : String) (s : DB) : Prop where
  known : (s.walletLedgers.find? pid).isSome = true
  settled : Settled sid pid s

section
variable {now : Time} {sid : ℤ} {amount : Decimal} {pid : String} {s s' : DB}

theorem Delivery.recorded (h : Delivery now sid amount pid s s') (hpid : pid ≠ "") : Recorded sid pid s' := by
  obtain ⟨s₁, r, plan, rate, row, ledger, journal, hcredit, -, -, -, -, -, hsettled, -⟩ := h
  exact ⟨hcredit.known hpid, hsettled hpid⟩

/-- A replay leaves the money side as it is and adds one invoice. -/
theorem Delivery.replay (h : Delivery now sid amount pid s s') (hpid : pid ≠ "") (hs : Recorded sid pid s) :
    SameMoney sid s s' ∧ s'.invoices.length = s.invoices.length + 1 := by
  obtain ⟨s₁, r, plan, rate, row, ledger, journal, hcredit, hr, -, -, -, -, -, hledger⟩ := h
  cases hcredit.of_known hpid hs.known
  refine ⟨⟨?_, rfl, hledger hpid hs.settled⟩, by simp⟩
  have hr' := DB.lookup_setRow s sid
    (r.withExpiry (addDays (renewalBase now r.planExpiry) plan.validityDays))
  simp only [DB.balanceOf, hr]
  rw [hr']
  rfl

theorem SameMoney.trans {id : ℤ} {s₁ s₂ s₃ : DB} (h : SameMoney id s₁ s₂) (h' : SameMoney id s₂ s₃) :
    SameMoney id s₁ s₃ :=
  ⟨h'.balance.trans h.balance, h'.ledgers.trans h.ledgers, h'.commissions.trans h.commissions⟩

theorem deliver_delivery {t : Time} (hpos : 0 < amount)
    (h : Prog.Accepts exec (.at t) succeeded (ApplyRenewal sid amount pid) s) :
    Delivery t sid amount pid s (deliver sid amount pid s t) :=
  Prog.Ensures.run (ensures_ApplyRenewal hpos) h

/-- Any number of replays. -/
theorem replays (hpos : 0 < amount) (hpid : pid ≠ "") (ts : List Time) : ∀ s : DB,
    Recorded sid pid s → AllDelivered sid amount pid s ts →
      SameMoney sid s (ts.foldl (deliver sid amount pid) s) ∧
      (ts.foldl (deliver sid amount pid) s).invoices.length = s.invoices.length + ts.length := by
  induction ts with
  | nil =>
    intro s _ _
    exact ⟨⟨rfl, rfl, rfl⟩, rfl⟩
  | cons t ts ih =>
    intro s hs hok
    have hd := deliver_delivery hpos hok.1
    obtain ⟨hmoney, hlen⟩ := hd.replay hpid hs
    obtain ⟨hmoney', hlen'⟩ := ih _ (hd.recorded hpid) hok.2
    refine ⟨hmoney.trans hmoney', ?_⟩
    rw [List.foldl_cons, hlen', List.length_cons]
    omega

end

/-- One payment delivered at `t` and again at each of `ts`, every store call succeeding: balance, wallet
    ledger and commission ledger are as one delivery leaves them; expiry and invoices are so exactly
    when there was only one. -/
theorem replay_leaves_records_iff_once (sid : ℤ) (amount : Decimal) (pid : String) (s : DB) (t : Time)
    (ts : List Time) (hpos : 0 < amount) (hpid : pid ≠ "")
    (hok : AllDelivered sid amount pid s (t :: ts)) :
    SameMoney sid (deliver sid amount pid s t) ((t :: ts).foldl (deliver sid amount pid) s) ∧
    (SameRecords sid (deliver sid amount pid s t) ((t :: ts).foldl (deliver sid amount pid) s) ↔
      ts = []) := by
  have hfirst := (deliver_delivery hpos hok.1).recorded hpid
  obtain ⟨hmoney, hlen⟩ := replays hpos hpid ts _ hfirst hok.2
  rw [List.foldl_cons]
  refine ⟨hmoney, fun h => ?_, fun h => ?_⟩
  · rw [h.invoices] at hlen
    exact List.length_eq_zero_iff.mp (by omega)
  · subst h
    exact ⟨hmoney, rfl, rfl⟩

/-- The same payment of 590.00 twice, on a fresh database: two invoices and two cycles. -/
theorem second_delivery_extends_again :
    AllDelivered 1 (paise 59000) "pay_1" oneSubscriber [0, 0] ∧
    (deliver 1 (paise 59000) "pay_1" oneSubscriber 0).expiryOf 1 = some (some (30 * day)) ∧
    ([0, 0].foldl (deliver 1 (paise 59000) "pay_1") oneSubscriber).expiryOf 1 =
      some (some (60 * day)) ∧
    ([0, 0].foldl (deliver 1 (paise 59000) "pay_1") oneSubscriber).invoices.length = 2 :=
  ⟨by decide +kernel, by decide +kernel, by decide +kernel, by decide +kernel⟩

/-- Those two deliveries do not leave the records of one. -/
theorem second_delivery_not_same :
    ¬ SameRecords 1 (deliver 1 (paise 59000) "pay_1" oneSubscriber 0)
      ([0, 0].foldl (deliver 1 (paise 59000) "pay_1") oneSubscriber) := by
  intro h
  have := (replay_leaves_records_iff_once 1 (paise 59000) "pay_1" oneSubscriber 0 [0]
    (by decide +kernel) (by decide) (by decide +kernel)).2.mp h
  cases this

/-! ### The invoice and the money -/

section
variable {e : Env} {s s' : DB}

/-- The tax of an invoice, from its inputs. -/
def gstDue (baseAmount : Decimal) (subscriberState : String) (rate : GstRate) : Decimal :=
  if isIntrastate subscriberState DefaultHomeState then
    taxHead baseAmount rate.cgstRate + taxHead baseAmount rate.sgstRate
  else taxHead baseAmount rate.igstRate

variable (base : Decimal) (state : String) (rate : GstRate)

theorem total_eq_gstDue :
    (CalculateGstInvoice base state rate).totalAmount = base + gstDue base state rate := by
  rw [CalculateGstInvoice_total]
  unfold gstDue Invoice.tax CalculateGstInvoice CalculateGstInvoiceFrom
  dsimp only
  split
  · ring
  · ring

/-- Every tax head is a whole number of paise. -/
theorem gstDue_paise :
    ∃ k : ℤ, gstDue base state rate = paise k := by
  have hhead : ∀ q, ∃ k : ℤ, taxHead base q = paise k := fun q => ⟨_, rfl⟩
  unfold gstDue
  split
  · obtain ⟨c, hc⟩ := hhead rate.cgstRate
    obtain ⟨d, hd⟩ := hhead rate.sgstRate
    exact ⟨c + d, by rw [hc, hd, paise_add]⟩
  · exact hhead rate.igstRate

/-- The total a column stores for an invoice on a whole number of paise is that number exactly when
    no tax is due. -/
theorem stored_total_iff {n m : ℤ} {state : String} {rate : GstRate}
    (h : numeric12 (CalculateGstInvoice (paise n) state rate).totalAmount = some m) :
    m = n ↔ gstDue (paise n) state rate = 0 := by
  obtain ⟨k, hk⟩ := gstDue_paise (paise n) state rate
  rw [total_eq_gstDue, hk, paise_add] at h
  have hm : m = n + k := @toFixed_ofFixed 12 2 (n + k) m h
  have hzero : paise k = 0 ↔ k = 0 := by
    simp [paise, ofFixed]
  rw [hk, hzero]
  omega

/-- Neither the wallet ledger nor the invoices have changed. -/
def SameBooks (s s' : DB) : Prop := s'.walletLedgers = s.walletLedgers ∧ s'.invoices = s.invoices

theorem SameBooks.trans {s₁ s₂ s₃ : DB} (h : SameBooks s₁ s₂) (h' : SameBooks s₂ s₃) :
    SameBooks s₁ s₃ := ⟨h'.1.trans h.1, h'.2.trans h.2⟩

/-- The calls that write them, or the journal. -/
def Op.writesBooks : Op → Bool
  | recordRecharge _ | createInvoice _ | storeLCOCommission _ => true
  | _ => false

theorem sameBooks_of_tx {op : Op} {a : op.Result} (hop : op.writesBooks = false)
    (h : op.tx e.now s = .ok (a, s')) : SameBooks s s' := by
  have heff := tx_effect h
  refine ⟨heff.walletLedgers ?_, heff.invoices ?_⟩
  · rintro p rfl
    cases hop
  · rintro inv rfl
    cases hop

/-- Every call that writes neither keeps the relation. -/
structure Kept (e : Env) (Q : DB → DB → Prop) : Prop where
  refl (s : DB) : Q s s
  trans {s₁ s₂ s₃ : DB} : Q s₁ s₂ → Q s₂ s₃ → Q s₁ s₃
  tx {op : Op} {a : op.Result} {s s' : DB} : op.writesBooks = false → op.tx e.now s = .ok (a, s') → Q s s'

theorem kept_sameBooks : Kept e SameBooks := ⟨fun _ => ⟨rfl, rfl⟩, SameBooks.trans, sameBooks_of_tx⟩

section
variable {Q : DB → DB → Prop} (hQ : Kept e Q) {c : RenewalCandidate} {t : Time}
include hQ

theorem ensures_TransitionDunning {sid : ℤ} {target : DunningState} :
    Prog.Ensures exec e succeeded (fun _ s' => Q s s') (TransitionDunning sid target) s := by
  unfold TransitionDunning
  rw [db_bind]
  refine ensures_db fun q s₁ hq => ?_
  have h₁ := hQ.tx rfl hq
  obtain ⟨current, expiry⟩ := q
  dsimp only
  split
  · refine ensures_db fun u s₂ hset => ?_
    exact hQ.trans h₁ (hQ.tx rfl hset)
  · exact h₁

theorem ensures_restore : Prog.Ensures exec e succeeded (fun _ s' => Q s s') (restore c t) s := by
  unfold restore
  split
  · exact hQ.refl s
  refine ensures_bind.mpr ((ensures_TransitionDunning hQ).mono fun res s₁ h₁ => ?_)
  cases res with
  | error err => exact h₁
  | ok u =>
    dsimp only
    split
    · refine ensures_db fun u s₂ hq => ?_
      exact hQ.trans h₁ (hQ.tx rfl hq)
    · exact h₁

theorem ensures_grant : Prog.Ensures exec e succeeded (fun res s' => res.isOk = true ∧ Q s s') (grant c t) s := by
  unfold grant
  split
  · exact ensures_db fun u s₁ h => ⟨rfl, hQ.tx rfl h⟩
  · exact ensures_db fun u s₁ h => ⟨rfl, hQ.tx rfl h⟩

end

/-- A posting without a token is refused before it is recorded, or recorded. -/
theorem ensures_Post {req : PostRequest} {d : EntryType} (hd : req.direction = some d)
    (ht : req.transactionToken = "") :
    Prog.Ensures exec e succeeded
      (fun res s' => (res.isOk = false ∧ s' = s) ∨
        (res.isOk = true ∧ ∃ b, Posted (req.posting d b) s s'))
      (WalletService.Post req) s := by
  unfold WalletService.Post
  split
  · exact .inl ⟨rfl, rfl⟩
  rw [hd]
  dsimp only
  split
  · exact .inl ⟨rfl, rfl⟩
  simp only [lookupToken, ht, if_true, pure_eq, ret_bind]
  rw [db_bind]
  refine ensures_db fun b s₁ hb => ?_
  obtain ⟨-, rfl⟩ := GetSubscriberBalance_ok hb
  dsimp only
  split
  · exact .inl ⟨rfl, rfl⟩
  · rename_i balance _
    exact ensures_db fun tx s₂ hrec => .inr ⟨rfl, balance, RecordRecharge_ok hrec⟩

/-- One invoice and one wallet debit of the subscriber, over the same amount. -/
inductive Documented (id : ℤ) (s s' : DB) : Prop where
  | mk (row : InvoiceRow) (counter leg : WalletLedger)
      (hinvoices : s'.invoices = s.invoices ++ [row])
      (hledgers : s'.walletLedgers.rows = s.walletLedgers.rows ++ [counter, leg])
      (hrow : row.subscriberID = id)
      (hleg : leg.subscriberID = id ∧ leg.account = .subscriberWallet ∧ leg.entryType = .debit)
      (hamount : row.totalAmount = leg.amount)

/-- A renewal by the scanner writes neither document, or both over one amount. -/
theorem ensures_renew {c : RenewalCandidate} :
    Prog.Ensures exec e succeeded
      (fun _ s' => SameBooks s s' ∨ Documented c.subscriberID s s')
      (renew c) s := by
  unfold renew
  rw [timeNow_bind]
  refine ensures_timeNow ?_
  simp only [buildInvoice]
  rw [db_bind, call_bind]
  refine ensures_db fun rate s₁ hrate => ?_
  cases GetActiveGstRate_ok hrate
  dsimp only
  rw [pure_eq, ret_bind]
  refine ensures_bind.mpr ((ensures_Post rfl rfl).mono fun res s₂ h₂ => ?_)
  cases res with
  | error err =>
    obtain ⟨-, rfl⟩ | ⟨h, -⟩ := h₂
    · cases err <;> exact .inl ⟨rfl, rfl⟩
    · cases h
  | ok tx =>
    obtain ⟨h, -⟩ | ⟨-, b, hposted⟩ := h₂
    · cases h
    refine ensures_bind.mpr ((ensures_grant kept_sameBooks).mono fun res s₃ h₃ => ?_)
    obtain ⟨hok, hledgers₃, hinvoices₃⟩ := h₃
    cases res with
    | error err => cases hok
    | ok u =>
      refine ensures_bind.mpr (ensures_bind.mpr (ensures_db fun i s₄ hinv => ?_))
      obtain ⟨row, hrow, rfl⟩ := CreateInvoice_ok hinv
      refine ensures_bind.mpr ((ensures_restore kept_sameBooks).mono fun _ s₅ h₅ => .inr ?_)
      -- the debit leg and the invoice row hold the same decimal
      obtain ⟨-, -, -, hinvoices₂, -⟩ := hposted.rest
      obtain ⟨s', n, ledgers, entry, rows, -, hlegs, hrows, -, -⟩ := hposted
      obtain ⟨i, j, d, amount, bd, bc, -, hamount⟩ := hlegs
      have hledgers : s₅.walletLedgers = ledgers := h₅.1.trans hledgers₃
      have hinvoices : s₅.invoices = s.invoices ++ [row] := by rw [h₅.2, hinvoices₃, hinvoices₂]
      refine Documented.mk row _ _ hinvoices (by rw [hledgers]; exact hrows) hrow.subscriber
        ⟨rfl, rfl, rfl⟩ ?_
      exact Option.some.inj (hrow.total.symm.trans hamount)

end

/-- The portal's invoice states the amount paid exactly when the tax on that amount rounds to nothing;
    the scanner's invoice always states the amount it has debited. -/
theorem invoice_states_collected_iff_untaxed (e : Env) (s : DB) :
    (∀ (sid n : ℤ) (pid : String) (r : Subscriber) (rate : GstRate), 0 < n →
      s.subscribers.lookup sid = some r →
      BillingStore.GetActiveGstRate e.now s = .ok (rate, s) →
      Prog.Accepts exec e succeeded (ApplyRenewal sid (paise n) pid) s →
      ∃ row : InvoiceRow, (Prog.run exec e (ApplyRenewal sid (paise n) pid) s).2.invoices =
          s.invoices ++ [row] ∧ row.subscriberID = sid ∧
        (row.totalAmount = n ↔ gstDue (paise n) r.registeredState rate = 0)) ∧
    (∀ c : RenewalCandidate,
      Prog.Accepts exec e succeeded (RecurringBillingScanner.renew c) s →
      SameBooks s (Prog.run exec e (RecurringBillingScanner.renew c) s).2 ∨
        Documented c.subscriberID s (Prog.run exec e (RecurringBillingScanner.renew c) s).2) := by
  constructor
  · intro sid n pid r rate hn hr hrate hok
    have hpos : 0 < paise n := by
      unfold paise ofFixed
      positivity
    have hd := Prog.Ensures.run (ensures_ApplyRenewal hpos) hok
    generalize (Prog.run exec e (ApplyRenewal sid (paise n) pid) s).2 = s' at hd ⊢
    obtain ⟨s₁, r₁, plan, rate₁, row, ledger, journal, hcredit, hr₁, -, hrate₁, hsub, htotal, -, -⟩ := hd
    -- the row and the rate the invoice was made from are those of the initial state
    obtain ⟨r', hr', hrow⟩ := hcredit.row hr₁
    cases hr.symm.trans hr'
    cases hrate.symm.trans hrate₁
    have hstate : r₁.registeredState = r.registeredState := by rw [hrow]
    refine ⟨row, ?_, hsub, ?_⟩
    · change s₁.invoices ++ [row] = _
      rw [hcredit.rest.2.2.2.1]
    · rw [hstate] at htotal
      exact stored_total_iff htotal
  · intro c hok
    exact Prog.Ensures.run ensures_renew hok

/-- A gateway payment of 590.00 is invoiced with 696.20. -/
theorem portal_invoice_overstates :
    Prog.Accepts exec (.at 0) succeeded (ApplyRenewal 1 (paise 59000) "pay_1") oneSubscriber ∧
    (deliver 1 (paise 59000) "pay_1" oneSubscriber 0).invoices.map InvoiceRow.totalAmount = [69620] :=
  ⟨by decide +kernel, by decide +kernel⟩

/-- For that payment tax is due, so its invoice does not state it. -/
theorem portal_invoice_taxed :
    ∃ row : InvoiceRow, (deliver 1 (paise 59000) "pay_1" oneSubscriber 0).invoices = [row] ∧
      row.totalAmount ≠ 59000 := by
  obtain ⟨row, hrows, -, hiff⟩ := (invoice_states_collected_iff_untaxed (.at 0) oneSubscriber).1 1 59000
    "pay_1" (.paidUntil 0) ⟨1, paise 900, paise 900, paise 1800⟩ (by decide) rfl rfl (by decide +kernel)
  refine ⟨row, hrows, fun h => ?_⟩
  exact absurd (hiff.mp h) (by decide +kernel)

end IspBss
