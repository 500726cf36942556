import IspBss.Props.GeneralLedger
import IspBss.Props.RenewalRecords

/-! Do wallet, invoice and journal agree to the paisa after a renewal?

    One amount is computed and then travels four ways:

        price ─▶ buildInvoice ─┬─▶ Post (total) ──▶ wallet ─ total
                               │        └─ tax ──▶ 4000 + price   2200 + tax   1200 − total
                               └─▶ CreateInvoice ─▶ base, three heads, total

    Every head is rounded on its own before anything is added, so nothing is left for a column to
    round. -/

namespace IspBss

open Lib Lib.Numeric RecurringBillingScanner Prog WalletService EntryType

/-! ### The invoice in paise -/

theorem paise_zero : paise 0 = 0 := by simp [paise, ofFixed]

theorem paise_le {m n : ℤ} : paise m ≤ paise n ↔ m ≤ n := by
  unfold paise ofFixed
  rw [div_le_div_iff_of_pos_right (by positivity), Int.cast_le]

theorem paise_lt {m n : ℤ} : paise m < paise n ↔ m < n := by
  rw [← not_le, paise_le, not_le]

/-- An invoice over whole paise: the price, the three heads, and their sum. -/
structure Invoice.InPaise (inv : Invoice) (p c g i : ℤ) : Prop where
  base : inv.baseAmount = paise p
  cgst : inv.cgstAmount = paise c
  sgst : inv.sgstAmount = paise g
  igst : inv.igstAmount = paise i
  total : inv.totalAmount = paise (p + (c + g + i))

theorem Invoice.InPaise.tax_eq {inv : Invoice} {p c g i : ℤ} (h : inv.InPaise p c g i) :
    inv.tax = paise (c + g + i) := by
  rw [Invoice.tax, h.cgst, h.sgst, h.igst, paise_add, paise_add]

/-- A stored invoice has the paise of the one on paper. -/
theorem Invoice.StoredAs.inPaise {inv : Invoice} {row : InvoiceRow} (hrow : inv.StoredAs row) {p c g i : ℤ}
    (h : inv.InPaise p c g i) : row.baseAmount = p ∧ row.cgstAmount = c ∧ row.sgstAmount = g ∧
      row.igstAmount = i ∧ row.totalAmount = p + (c + g + i) := by
  have exact_of {q : Decimal} {n m : ℤ} (hq : q = paise n) (hm : numeric12 q = some m) : m = n :=
    @toFixed_ofFixed 12 2 n m (by rw [← hm, hq]; rfl)
  exact ⟨exact_of h.base hrow.base, exact_of h.cgst hrow.cgst, exact_of h.sgst hrow.sgst,
    exact_of h.igst hrow.igst, exact_of h.total hrow.total⟩

theorem taxHead_paise {base rate : Decimal} (hbase : 0 ≤ base) (hrate : 0 ≤ rate) :
    ∃ k : ℤ, 0 ≤ k ∧ taxHead base rate = paise k := by
  refine ⟨_, roundHalfAway_nonneg ?_, rfl⟩
  have hdiv : (0 : ℚ) ≤ div (base * rate) 100 :=
    div_nonneg (by exact_mod_cast roundHalfAway_nonneg (by positivity)) (by positivity)
  positivity

/-- What `CalculateGstInvoice` makes of a price in whole paise. -/
theorem CalculateGstInvoice_inPaise {p : ℤ} (hp : 0 < p) (state : String) {rate : GstRate}
    (hrates : 0 ≤ rate.cgstRate ∧ 0 ≤ rate.sgstRate ∧ 0 ≤ rate.igstRate) :
    ∃ c g i, 0 ≤ c + g + i ∧ (CalculateGstInvoice (paise p) state rate).InPaise p c g i := by
  have hbase : 0 ≤ paise p := paise_zero ▸ paise_le.mpr hp.le
  obtain ⟨c, hc, hcgst⟩ := taxHead_paise hbase hrates.1
  obtain ⟨g, hg, hsgst⟩ := taxHead_paise hbase hrates.2.1
  obtain ⟨i, hi, higst⟩ := taxHead_paise hbase hrates.2.2
  unfold CalculateGstInvoice CalculateGstInvoiceFrom
  rw [hcgst, hsgst, higst, ← paise_zero]
  cases isIntrastate state DefaultHomeState with
  | true => exact ⟨c, g, 0, by omega, rfl, rfl, rfl, rfl, by simp [paise_add, add_assoc]⟩
  | false => exact ⟨0, 0, i, by omega, rfl, rfl, rfl, rfl, by simp [paise_add]⟩

/-! ### One renewal -/

/-- The journal, the invoices and the subscriber's balance are as they were. -/
structure SameAccounts (id : ℤ) (s s' : DB) : Prop where
  journal : s'.glJournal = s.glJournal
  invoices : s'.invoices = s.invoices
  balance {r : Subscriber} : s.subscribers.lookup id = some r →
    ∃ r', s'.subscribers.lookup id = some r' ∧ r'.walletBalance = r.walletBalance

theorem RowWrite.walletBalance {op : Op} {id : ℤ} {r r' : SubscriberRow} (h : RowWrite op id r r')
    (hop : op.writesBooks = false) : r'.walletBalance = r.walletBalance := by
  cases h with
  | balance => cases hop
  | _ => rfl

theorem kept_sameAccounts (e : Env) (id : ℤ) : Kept e (SameAccounts id) where
  refl s := ⟨rfl, rfl, fun hr => ⟨_, hr, rfl⟩⟩
  trans h h' := by
    refine ⟨h'.journal.trans h.journal, h'.invoices.trans h.invoices, fun hr => ?_⟩
    obtain ⟨r₁, hr₁, hsame₁⟩ := h.balance hr
    obtain ⟨r₂, hr₂, hsame₂⟩ := h'.balance hr₁
    exact ⟨r₂, hr₂, hsame₂.trans hsame₁⟩
  tx := by
    intro op a s s' hop h
    have heff := tx_effect h
    have hne : ∀ {op' : Op}, op'.writesBooks = true → op ≠ op' := by
      rintro op' hop' rfl
      cases hop.symm.trans hop'
    refine ⟨heff.glJournal (fun _ => hne rfl) (fun _ => hne rfl), heff.invoices fun _ => hne rfl,
      fun hr => ?_⟩
    obtain ⟨r', hr', rfl | hw⟩ := heff.lookup hr
    · exact ⟨_, hr', rfl⟩
    · exact ⟨r', hr', hw.walletBalance hop⟩

/-- The legs of a renewal: revenue, the tax if there is any, and the wallets. -/
def renewalLegs (price tax : ℤ) : List PaiseLeg :=
  if tax = 0 then [⟨"4000", .credit, price⟩, ⟨"1200", .debit, price⟩]
  else [⟨"4000", .credit, price⟩, ⟨"2200", .credit, tax⟩, ⟨"1200", .debit, price + tax⟩]

theorem paiseLegs_renewal (price tax : ℤ) :
    paiseLegs (GLAccountCode .revenueClearing) .debit (price + tax) tax = renewalLegs price tax := by
  unfold paiseLegs renewalLegs
  split
  · simp_all [GLAccountCode, opposite]
  · simp [GLAccountCode, opposite]

/-- A funded debit is recorded. -/
theorem ensures_Post_funded {e : Env} {s : DB} {req : PostRequest} {r : Subscriber}
    (hd : req.direction = some .debit) (ht : req.transactionToken = "") (hpos : 0 < req.amount)
    (htax : 0 ≤ req.taxAmount ∧ req.taxAmount < req.amount)
    (hr : s.subscribers.lookup req.subscriberID = some r) (hfunds : req.amount ≤ paise r.walletBalance) :
    Prog.Ensures exec e succeeded (fun res s' => res.isOk = true ∧
        ∃ tx, BillingStore.RecordRecharge (req.posting .debit (paise r.walletBalance - req.amount)) s =
          .ok (tx, s')) (Post req) s := by
  unfold Post
  rw [if_neg hpos.not_ge, hd]
  dsimp only
  rw [if_neg (not_or.mpr ⟨htax.1.not_gt, htax.2.not_ge⟩)]
  simp only [lookupToken, ht, if_true, pure_eq, ret_bind]
  rw [db_bind]
  refine ensures_db fun b s₁ hb => ?_
  obtain ⟨⟨r₀, hr₀, rfl⟩, rfl⟩ := GetSubscriberBalance_ok hb
  cases hr.symm.trans hr₀
  dsimp only [newBalance]
  rw [if_neg (sub_nonneg.mpr hfunds).not_gt]
  exact ensures_db fun tx s₂ hrec => ⟨rfl, tx, hrec⟩

/-- What a renewal of the subscriber at this price leaves: one invoice, with the amounts computed for
    it, one journal entry, and the balance less the invoice's total. -/
def RenewedAt (id price : ℤ) (inv : Invoice) (s s' : DB) : Prop :=
  ∃ (row : InvoiceRow) (entry : GlJournalEntry),
    s'.invoices = s.invoices ++ [row] ∧ row.subscriberID = id ∧
    inv.InPaise row.baseAmount row.cgstAmount row.sgstAmount row.igstAmount ∧ row.baseAmount = price ∧
    row.totalAmount = row.baseAmount + (row.cgstAmount + row.sgstAmount + row.igstAmount) ∧
    (∃ r r', s.subscribers.lookup id = some r ∧ s'.subscribers.lookup id = some r' ∧
      r'.walletBalance = r.walletBalance - row.totalAmount) ∧
    s'.glJournal = s.glJournal ++ [entry] ∧
    List.Forall₂ (PaiseLeg.Line s)
      (renewalLegs price (row.cgstAmount + row.sgstAmount + row.igstAmount)) entry.lines

/-- A renewal of a funded subscriber at a price in whole paise, in which every store call succeeds: the
    wallet pays the total of the stored invoice, the invoice states the price and the rounded heads, and
    the journal entry has the same three amounts. -/
theorem renewal_exact (e : Env) (s : DB) (c : RenewalCandidate) (r : Subscriber) (rate : GstRate) (p : ℤ)
    (hp : 0 < p) (hprice : c.planPrice = paise p)
    (hrate : BillingStore.GetActiveGstRate e.now s = .ok (rate, s))
    (hrates : 0 ≤ rate.cgstRate ∧ 0 ≤ rate.sgstRate ∧ 0 ≤ rate.igstRate)
    (hr : s.subscribers.lookup c.subscriberID = some r)
    (hfunds : (CalculateGstInvoice c.planPrice c.registeredState rate).totalAmount ≤
      paise r.walletBalance)
    (hok : Prog.Accepts exec e succeeded (RecurringBillingScanner.renew c) s) :
    RenewedAt c.subscriberID p (CalculateGstInvoice c.planPrice c.registeredState rate) s
      (Prog.run exec e (RecurringBillingScanner.renew c) s).2 := by
  refine Prog.Ensures.run (Q := fun _ s' => RenewedAt c.subscriberID p
    (CalculateGstInvoice c.planPrice c.registeredState rate) s s') ?_ hok
  rw [hprice] at hfunds ⊢
  obtain ⟨cg, sg, ig, htax, hinv⟩ := CalculateGstInvoice_inPaise hp c.registeredState hrates
  generalize hcalc : CalculateGstInvoice (paise p) c.registeredState rate = inv at hfunds hinv ⊢
  unfold renew
  rw [timeNow_bind]
  refine ensures_timeNow ?_
  simp only [buildInvoice]
  rw [db_bind, call_bind]
  refine ensures_db fun rate' s₁ hrate' => ?_
  cases hrate.symm.trans hrate'
  dsimp only
  rw [pure_eq, ret_bind, hprice, hcalc]
  dsimp only
  have hamounts : 0 < inv.totalAmount ∧ 0 ≤ inv.tax ∧ inv.tax < inv.totalAmount := by
    rw [hinv.total, hinv.tax_eq, ← paise_zero]
    exact ⟨paise_lt.mpr (by omega), paise_le.mpr htax, paise_lt.mpr (by omega)⟩
  refine ensures_bind.mpr ((ensures_Post_funded rfl rfl hamounts.1 hamounts.2 hr hfunds).mono
    fun res s₂ h₂ => ?_)
  obtain ⟨hres, tx, htx⟩ := h₂
  cases res with
  | error err => cases hres
  | ok tx' =>
    obtain ⟨r', ledgers, entry, hbalance, hlines, rfl⟩ := RecordRecharge_writes
      (b := r.walletBalance) (n := p + (cg + sg + ig)) (t := cg + sg + ig)
      { newBalance := by
          simp only [PostRequest.posting, debitRequest, hinv.total, paise_sub,
            signed, ← sub_eq_add_neg]
        amount := hinv.total, wallet := rfl, credit_sub := rfl, debit_sub := rfl
        counter := by simp [PostRequest.posting, debitRequest]
        counter_amount := hinv.total, opposite := rfl, tax := hinv.tax_eq } hr htx
    dsimp only
    refine ensures_bind.mpr ((ensures_grant (kept_sameAccounts e c.subscriberID)).mono
      fun res s₃ h₃ => ?_)
    obtain ⟨hgranted, h₃⟩ := h₃
    cases res with
    | error err => cases hgranted
    | ok u =>
      dsimp only
      refine ensures_bind.mpr (ensures_bind.mpr (ensures_db fun i s₄ hcreate => ?_))
      obtain ⟨row, hrow, rfl⟩ := CreateInvoice_ok hcreate
      refine ensures_bind.mpr ((ensures_restore (kept_sameAccounts e c.subscriberID)).mono
        fun _ s₅ h₅ => ?_)
      obtain ⟨rfl, rfl, rfl, rfl, htotal⟩ :=
        hrow.inPaise ⟨hinv.base, hinv.cgst, hinv.sgst, hinv.igst, hinv.total⟩
      refine ⟨row, entry, ?_, hrow.subscriber, hinv, rfl, htotal, ?_, ?_, ?_⟩
      · rw [h₅.invoices]
        exact congrArg (· ++ [row]) h₃.invoices
      · obtain ⟨r₃, hr₃, hsame₃⟩ := h₃.balance (DB.lookup_setRow s c.subscriberID r')
        obtain ⟨r₅, hr₅, hsame₅⟩ := h₅.balance hr₃
        refine ⟨r, r₅, hr, hr₅, ?_⟩
        rw [hsame₅, hsame₃, hbalance, htotal]
        rfl
      · exact h₅.journal.trans h₃.journal
      · rw [← paiseLegs_renewal]
        exact hlines

theorem funded_nonneg : (0 : ℤ) ≤ 60000 := by decide

def funded : Subscriber :=
  { Subscriber.paidUntil 0 with walletBalance := 60000, balance_nonneg := funded_nonneg }

/-- The candidate the subscriber is listed as. -/
def fundedCandidate : RenewalCandidate :=
  ⟨1, "one", none, "TN", .active, .active, "Home", paise 50000, 30, 100, some 0⟩

/-- The monthly plan of 500.00 is renewed from a wallet with 600.00: 590.00 in Tamil Nadu. -/
theorem renewed_in_tamilNadu : RenewedAt 1 50000
    (CalculateGstInvoice (paise 50000) "TN" ⟨1, paise 900, paise 900, paise 1800⟩)
    (.seeded ((∅ : Table Subscriber).insert 1 funded))
    (Prog.run exec (.at 0) (RecurringBillingScanner.renew fundedCandidate)
      (.seeded ((∅ : Table Subscriber).insert 1 funded))).2 :=
  renewal_exact (.at 0) _ fundedCandidate funded _ 50000 (by decide) rfl rfl
    (by decide +kernel) rfl (by decide +kernel) (by decide +kernel)

end IspBss
