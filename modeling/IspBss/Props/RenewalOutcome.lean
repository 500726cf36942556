import IspBss.Db.Effects
import IspBss.Billing.Renewal

/-! What a renewal leaves behind when every store call succeeds.

    `Delivery` is the state after one `ApplyRenewal`: the payment is credited unless its token is
    known, and then, whether it was or not, the expiry moves, an invoice is appended and the
    commission is settled.

        wallet credit   unique transaction_token     a replay changes nothing
        plan_expiry     no guard                     a replay moves it again
        invoices        no guard                     a replay appends another
        commission      unique transaction_ref       a replay changes nothing -/

namespace IspBss

open Lib Lib.Numeric Prog BillingStore

section
variable {e : Env} {s s' : DB} {sid : ℤ} {amount : Decimal} {pid : String}

/-! ### The credit -/

/-- The wallet side of a recharge: the token was known and nothing happened, or it was posted. -/
inductive Credited (req : RechargeRequest) (s : DB) : DB → Prop where
  | replay (h : (s.walletLedgers.find? req.transactionToken).isSome) : Credited req s s
  | posted (s' : DB) (newBalance : Decimal)
      (hnew : req.transactionToken ≠ "" →
        (s.walletLedgers.find? req.transactionToken).isSome = false)
      (h : Posted (req.posting newBalance) s s') : Credited req s s'

theorem ensures_lookupToken {token : String} :
    Ensures exec e succeeded
      (fun q s' => s' = s ∧ (token = "" → q = none) ∧
        (token ≠ "" → q.isSome = (s.walletLedgers.find? token).isSome)) (lookupToken token) s := by
  unfold lookupToken
  split
  · rename_i h
    exact ⟨rfl, fun _ => rfl, fun hne => absurd h hne⟩
  · rename_i hne
    refine ensures_db fun q s' h => ?_
    obtain ⟨hs, hq⟩ := GetTransactionByToken_ok h
    exact ⟨hs, fun h => absurd h hne, hq⟩

variable {req : RechargeRequest} {p : RechargePosting} {id : ℤ} {r' : Subscriber}

theorem ensures_Recharge (hpos : 0 < req.amount) :
    Ensures exec e succeeded (fun r s' => r.isOk = true ∧ Credited req s s')
      (WalletService.Recharge req) s := by
  unfold WalletService.Recharge
  rw [if_neg (not_le.mpr hpos)]
  refine ensures_bind.mpr (ensures_lookupToken.mono fun q s₁ h => ?_)
  obtain ⟨rfl, hempty, hq⟩ := h
  cases q with
  | some tx =>
    have htoken : req.transactionToken ≠ "" := fun h => by cases hempty h
    exact ⟨rfl, Credited.replay (hq htoken).symm⟩
  | none =>
    refine ensures_db fun b s₂ hb => ?_
    obtain ⟨-, rfl⟩ := GetSubscriberBalance_ok hb
    refine ensures_db fun tx s₃ hrec => ?_
    exact ⟨rfl, Credited.posted s₃ _ (fun h => (hq h).symm) (RecordRecharge_ok hrec)⟩

/-- What a posting leaves alone. -/
theorem Posted.rest (h : Posted p s s') :
    s'.plans = s.plans ∧ s'.franchises = s.franchises ∧ s'.gstRates = s.gstRates ∧
      s'.invoices = s.invoices ∧ s'.lcoLedger = s.lcoLedger := by
  obtain ⟨_, _, _, rfl⟩ := h.frame
  exact ⟨rfl, rfl, rfl, rfl, rfl⟩

/-- A posting changes nothing of a row but its balance. -/
theorem Posted.row (h : Posted p s s') (hr' : s'.subscribers.lookup id = some r') :
    ∃ r, s.subscribers.lookup id = some r ∧
      r'.toSubscriberRow = { r.toSubscriberRow with walletBalance := r'.walletBalance } := by
  obtain ⟨s₁, n, ledgers, entry, rows, -, -, -, -, hrow⟩ := h
  rcases hrow with ⟨rfl, -⟩ | ⟨r, r₁, hr, hr₁, rfl⟩
  · exact ⟨r', hr', rfl⟩
  · by_cases hid : id = p.subscriberID
    · subst hid
      have heq : r₁ = r' := Option.some.inj ((DB.lookup_setRow s _ r₁).symm.trans hr')
      subst heq
      refine ⟨r, hr, ?_⟩
      rw [hr₁]
    · exact ⟨r', (DB.lookup_setRow_ne s r₁ hid).symm.trans hr', rfl⟩

theorem Credited.rest (h : Credited req s s') :
    s'.plans = s.plans ∧ s'.franchises = s.franchises ∧ s'.gstRates = s.gstRates ∧
      s'.invoices = s.invoices ∧ s'.lcoLedger = s.lcoLedger := by
  cases h with
  | replay => exact ⟨rfl, rfl, rfl, rfl, rfl⟩
  | posted _ _ _ h => exact h.rest

theorem Credited.row (h : Credited req s s') (hr' : s'.subscribers.lookup id = some r') :
    ∃ r, s.subscribers.lookup id = some r ∧
      r'.toSubscriberRow = { r.toSubscriberRow with walletBalance := r'.walletBalance } := by
  cases h with
  | replay => exact ⟨r', hr', rfl⟩
  | posted _ _ _ h => exact h.row hr'

/-- After a recharge its token is known. -/
theorem Credited.known (h : Credited req s s') (htoken : req.transactionToken ≠ "") :
    (s'.walletLedgers.find? req.transactionToken).isSome = true := by
  cases h with
  | replay h => exact h
  | posted _ b _ h =>
    obtain ⟨s₁, n, ledgers, entry, rows, -, hlegs, hrows, -, -⟩ := h
    obtain ⟨i, j, d, c, bd, bc, -, -⟩ := hlegs
    -- the credit leg carries the token
    have hmem : ledgerRow (req.posting b).credit (req.posting b).credit.transactionToken
        j c bc ∈ ledgers.rows := by
      rw [hrows]
      exact List.mem_append_right _ (.tail _ (.head _))
    exact List.find?_isSome.mpr ⟨_, hmem, decide_eq_true (if_neg htoken)⟩

theorem Credited.of_known (h : Credited req s s')
    (htoken : req.transactionToken ≠ "")
    (hknown : (s.walletLedgers.find? req.transactionToken).isSome = true) : s' = s := by
  cases h with
  | replay => rfl
  | posted _ _ hnew => cases hknown.symm.trans (hnew htoken)

/-! ### The extension, the invoice and the commission -/

theorem ensures_extendPlanExpiry :
    Ensures exec e succeeded
      (fun _ s' => ∃ r plan, s.subscribers.lookup sid = some r ∧
        s.plans.lookup r.planID = some plan ∧
        s' = s.setRow sid (r.withExpiry (addDays (renewalBase e.now r.planExpiry) plan.validityDays)))
      (extendPlanExpiry sid) s := by
  refine ensures_db fun q s₁ hq => ?_
  obtain ⟨⟨r, plan, hr, hplan, rfl⟩, rfl⟩ := GetPlanRenewalInfo_ok hq
  refine ensures_timeNow ?_
  refine ensures_db fun u s₂ hset => ?_
  refine ⟨r, plan, hr, hplan, ?_⟩
  cases hset.symm.trans (SetPlanExpiry_eq hr)
  rfl

theorem ensures_createRenewalInvoice :
    Ensures exec e succeeded
      (fun _ s' => ∃ r rate row, s.subscribers.lookup sid = some r ∧
        GetActiveGstRate e.now s = .ok (rate, s) ∧ row.subscriberID = sid ∧
        numeric12 (CalculateGstInvoice amount r.registeredState rate).totalAmount =
          some row.totalAmount ∧
        s' = { s with invoices := s.invoices ++ [row] })
      (createRenewalInvoice sid amount) s := by
  refine ensures_db fun q s₁ hq => ?_
  obtain ⟨state, volume⟩ := q
  obtain ⟨⟨r, hr, hstate⟩, rfl⟩ := GetInvoiceInputs_ok hq
  cases hstate
  refine ensures_db fun rate s₂ hrate => ?_
  cases GetActiveGstRate_ok hrate
  refine ensures_db fun i s₃ hinv => ?_
  obtain ⟨row, hrow, hs⟩ := CreateInvoice_ok hinv
  exact ⟨r, rate, row, hr, hrate, hrow.subscriber, hrow.total, hs⟩

/-- The commission of the payment is settled: nobody is due one, or its reference is taken. -/
def Settled (sid : ℤ) (pid : String) (s : DB) : Prop :=
  ∀ r f franchise, s.subscribers.lookup sid = some r → r.franchiseID = some f →
    s.franchises.lookup f = some franchise → franchise.active = true →
    pid ∈ s.lcoLedger.rows.filterMap LcoLedger.transactionRef

theorem ensures_SettleCommission :
    Ensures exec e succeeded
      (fun _ s' => ∃ ledger journal, s' = { s with lcoLedger := ledger, glJournal := journal } ∧
        (pid ≠ "" → Settled sid pid s' ∧ (Settled sid pid s → ledger = s.lcoLedger)))
      (SettleCommissionForRecharge sid amount pid) s := by
  unfold SettleCommissionForRecharge
  rw [db_bind]
  refine ensures_db fun q s₁ hq => ?_
  obtain ⟨⟨r, hr, hf⟩, rfl⟩ := GetSubscriberFranchiseID_ok hq
  cases q with
  | none =>
    refine ⟨s₁.lcoLedger, s₁.glJournal, rfl, fun _ => ⟨fun r' f _ hr' hf' => ?_, fun _ => rfl⟩⟩
    cases hr.symm.trans hr'
    cases hf.trans hf'
  | some f =>
    dsimp only [CalculateLCOCommission]
    rw [db_bind]
    refine ensures_db fun franchise s₂ hfr => ?_
    obtain ⟨hfr, rfl⟩ := GetFranchiseByID_ok hfr
    dsimp only
    split
    · -- an inactive franchise earns nothing
      rename_i hinactive
      refine ⟨s₂.lcoLedger, s₂.glJournal, rfl,
        fun _ => ⟨fun r' f' fr hr' hf' hfr' hact => ?_, fun _ => rfl⟩⟩
      cases hr.symm.trans hr'
      cases hf.trans hf'
      cases hfr.symm.trans hfr'
      rw [hinactive] at hact
      cases hact
    · rename_i hactive
      refine ensures_db fun u s₃ hstore => ?_
      obtain ⟨row, href, -, hins⟩ := CalculateAndStoreLCOCommission_ok hstore
      have hkey : pid ≠ "" → row.transactionRef = some pid := fun hpid => href.trans (if_neg hpid)
      rcases hins with ⟨hnone, rfl⟩ | ⟨ledger, journal, hsome, rfl⟩
      · exact ⟨s₃.lcoLedger, s₃.glJournal, rfl, fun hpid =>
          ⟨fun _ _ _ _ _ _ _ => (Indexed.insert_eq_none (hkey hpid)).mp hnone, fun _ => rfl⟩⟩
      · refine ⟨ledger, journal, rfl, fun hpid => ⟨fun _ _ _ _ _ _ _ => ?_, fun hsettled => ?_⟩⟩
        · rw [Indexed.rows_of_insert hsome]
          simp [hkey hpid]
        · have hact : franchise.active = true := by simpa using hactive
          have htaken := hsettled r f franchise hr hf.symm hfr hact
          rw [(Indexed.insert_eq_none (hkey hpid)).mpr htaken] at hsome
          cases hsome

/-! ### One delivery -/

/-- The state one successful `ApplyRenewal` leads to. -/
inductive Delivery (now : Time) (sid : ℤ) (amount : Decimal) (pid : String) (s : DB) : DB → Prop where
  | mk (s₁ : DB) (r : Subscriber) (plan : Plan) (rate : GstRate) (row : InvoiceRow)
      (ledger : Indexed LcoLedger String LcoLedger.transactionRef) (journal : List GlJournalEntry)
      (hcredit : Credited (renewalRecharge sid amount pid) s s₁)
      (hr : s₁.subscribers.lookup sid = some r) (hplan : s₁.plans.lookup r.planID = some plan)
      (hrate : GetActiveGstRate now s = .ok (rate, s)) (hsub : row.subscriberID = sid)
      (htotal : numeric12 (CalculateGstInvoice amount r.registeredState rate).totalAmount =
        some row.totalAmount)
      (hsettled : pid ≠ "" → Settled sid pid { s₁.setRow sid (r.withExpiry
          (addDays (renewalBase now r.planExpiry) plan.validityDays)) with
        invoices := s₁.invoices ++ [row], lcoLedger := ledger, glJournal := journal })
      (hledger : pid ≠ "" → Settled sid pid s₁ → ledger = s₁.lcoLedger) :
      Delivery now sid amount pid s { s₁.setRow sid (r.withExpiry
          (addDays (renewalBase now r.planExpiry) plan.validityDays)) with
        invoices := s₁.invoices ++ [row], lcoLedger := ledger, glJournal := journal }

theorem Settled.of_franchises {s₁ s₂ : DB} (h : Settled sid pid s₁)
    (hrow : ∀ r₂, s₂.subscribers.lookup sid = some r₂ → ∃ r₁, s₁.subscribers.lookup sid = some r₁ ∧
      r₂.franchiseID = r₁.franchiseID)
    (hfr : s₂.franchises = s₁.franchises) (hl : s₂.lcoLedger = s₁.lcoLedger) : Settled sid pid s₂ := by
  intro r₂ f franchise hr₂ hf hfranchise hact
  obtain ⟨r₁, hr₁, hid⟩ := hrow r₂ hr₂
  rw [hl]
  exact h r₁ f franchise hr₁ (hid ▸ hf) (hfr ▸ hfranchise) hact

theorem ensures_ApplyRenewal (hpos : 0 < amount) :
    Ensures exec e succeeded (fun _ s' => Delivery e.now sid amount pid s s')
      (ApplyRenewal sid amount pid) s := by
  have hrecharge : 0 < (renewalRecharge sid amount pid).amount := hpos
  refine ensures_bind.mpr ((ensures_Recharge hrecharge).mono fun res s₁ h₁ => ?_)
  obtain ⟨hok, hcredit⟩ := h₁
  cases res with
  | error err => cases hok
  | ok tx =>
    refine ensures_bind.mpr (ensures_bind.mpr (ensures_extendPlanExpiry.mono
      fun _ s₂ h₂ => ?_))
    obtain ⟨r, plan, hr, hplan, rfl⟩ := h₂
    refine ensures_bind.mpr (ensures_bind.mpr (ensures_createRenewalInvoice.mono
      fun _ s₃ h₃ => ?_))
    obtain ⟨r₂, rate, row, hr₂, hrate, hsub, htotal, rfl⟩ := h₃
    have hr₂' := (DB.lookup_setRow s₁ sid _).symm.trans hr₂
    cases hr₂'
    refine ensures_bind.mpr (ensures_SettleCommission.mono fun _ s₄ h₄ => ?_)
    obtain ⟨ledger, journal, rfl, hsettled⟩ := h₄
    have hrates : s.gstRates = s₁.gstRates := hcredit.rest.2.2.1.symm
    refine Delivery.mk s₁ r plan rate row ledger journal hcredit hr hplan
      (GetActiveGstRate_congr (s := s₁.setRow sid _) hrates hrate) hsub htotal
      (fun hpid => (hsettled hpid).1) fun hpid hset => (hsettled hpid).2 ?_
    refine hset.of_franchises (fun r₂ hr₂ => ⟨r, hr, ?_⟩) rfl rfl
    cases (DB.lookup_setRow s₁ sid _).symm.trans hr₂
    rfl

end

end IspBss
