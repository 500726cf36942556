import IspBss.Props.Footprint

/-! Which home state is an invoice taxed from?

    The supplier's own state is configured, and the tax functions take it as an argument. Both renewal
    paths use the variant that does not:

        configured home state ─▶ CalculateGstInvoiceFrom
        "TN" ─────────────────▶ CalculateGstInvoice ◀── buildInvoice, createRenewalInvoice

    The heads still agree when the configured state is Tamil Nadu, when the subscriber is in neither of
    the two states, and when the tax is too small for a paisa. -/

namespace IspBss

open Lib Lib.Numeric RecurringBillingScanner Prog List WalletService

/-! ### The tax heads -/

/-- The tax rounds to nothing: the division keeps sixteen places, the head two. -/
def NoTax (baseAmount rate : Decimal) : Prop := |baseAmount * rate| < 1 / 2 - 5 / 10 ^ 15
  deriving Decidable

theorem taxHead_eq_zero {baseAmount rate : Decimal} : taxHead baseAmount rate = 0 ↔ NoTax baseAmount rate := by
  rw [taxHead, round_div_eq_zero, NoTax, abs_div]
  constructor <;> intro h <;> linarith

/-- The same heads and the same total. -/
structure Invoice.SameTax (inv inv' : Invoice) : Prop where
  cgst : inv.cgstAmount = inv'.cgstAmount
  sgst : inv.sgstAmount = inv'.sgstAmount
  igst : inv.igstAmount = inv'.igstAmount
  total : inv.totalAmount = inv'.totalAmount

/-- The recipient and the allowance, which the callers fill in, are no part of the tax. -/
theorem Invoice.sameTax_addressed (inv inv' : Invoice) (sid gbIncluded : ℤ) (gbUsed : Decimal) :
    Invoice.SameTax { inv with subscriberID := sid, gbIncluded := gbIncluded, gbUsed := gbUsed } inv' ↔
      inv.SameTax inv' :=
  ⟨fun h => ⟨h.cgst, h.sgst, h.igst, h.total⟩, fun h => ⟨h.cgst, h.sgst, h.igst, h.total⟩⟩

theorem isIntrastate_iff {state home : String} (h : (NormaliseState home).isSome) :
    isIntrastate state home = true ↔ NormaliseState state = NormaliseState home := by
  obtain ⟨code, hcode⟩ := Option.isSome_iff_exists.mp h
  unfold isIntrastate
  rw [hcode]
  cases hs : NormaliseState state with
  | none => simp
  | some c => simp

/-- Invoices taxed from two home states are the same if both see the supply as intrastate or both as
    interstate, or if there is no tax. -/
theorem sameTax_iff {base : Decimal} {state home home' : String} {rate : GstRate} :
    (CalculateGstInvoiceFrom base state home rate).SameTax (CalculateGstInvoiceFrom base state home' rate) ↔
      isIntrastate state home = isIntrastate state home' ∨
        (NoTax base rate.cgstRate ∧ NoTax base rate.sgstRate ∧ NoTax base rate.igstRate) := by
  simp only [← taxHead_eq_zero]
  constructor
  · rintro ⟨hc, hs, hi, -⟩
    simp only [CalculateGstInvoiceFrom] at hc hs hi
    cases h : isIntrastate state home <;> cases h' : isIntrastate state home' <;>
      simp only [h, h', Bool.false_eq_true, if_true, if_false] at hc hs hi
    · exact .inl rfl
    · exact .inr ⟨hc.symm, hs.symm, hi⟩
    · exact .inr ⟨hc, hs, hi.symm⟩
    · exact .inl rfl
  · rintro (h | ⟨hc, hs, hi⟩)
    · constructor <;> simp only [CalculateGstInvoiceFrom, h]
    · constructor <;> simp only [CalculateGstInvoiceFrom, hc, hs, hi, ite_self]

/-- The configured state is the default one, or the subscriber is in neither, or there is no tax. -/
def TaxedAtHome (base : Decimal) (state home : String) (rate : GstRate) : Prop :=
  NormaliseState home = NormaliseState DefaultHomeState ∨
    (NormaliseState state ≠ NormaliseState DefaultHomeState ∧ NormaliseState state ≠ NormaliseState home) ∨
    (NoTax base rate.cgstRate ∧ NoTax base rate.sgstRate ∧ NoTax base rate.igstRate)
  deriving Decidable

theorem defaultHomeState_recognised : (NormaliseState DefaultHomeState).isSome := by decide

theorem sameTax_default_iff {base : Decimal} {state home : String} {rate : GstRate}
    (hhome : (NormaliseState home).isSome) :
    (CalculateGstInvoice base state rate).SameTax (CalculateGstInvoiceFrom base state home rate) ↔
      TaxedAtHome base state home rate := by
  rw [CalculateGstInvoice, sameTax_iff, TaxedAtHome, ← or_assoc, Bool.eq_iff_iff, isIntrastate_iff hhome,
    isIntrastate_iff defaultHomeState_recognised]
  refine or_congr_left ⟨fun h => ?_, ?_⟩
  · by_cases hs : NormaliseState state = NormaliseState DefaultHomeState
    · exact .inl ((h.mp hs).symm.trans hs)
    · exact .inr ⟨hs, fun hs' => hs (h.mpr hs')⟩
  · rintro (h | ⟨hdefault, hconfigured⟩)
    · rw [h]
    · exact iff_of_false hdefault hconfigured

/-! ### The invoices the renewals issue -/

/-- The invoice a call issues. -/
def Call.invoice : Call → Option Invoice
  | .db (.createInvoice inv) => some inv
  | _ => none

/-- The invoices a program issues when it runs alone. -/
def issued {α : Type} (e : Env) (p : Service α) (s : DB) : List Invoice :=
  (Prog.run (traced exec) e p (s, [])).2.2.filterMap fun ev => ev.call.invoice

/-- A program that issues none but this one. -/
abbrev IssuesOnly {α : Type} (inv : Invoice) (p : Service α) : Prop :=
  Prog.Calls (S := sig) (fun c => ∀ inv' ∈ c.invoice, inv' = inv) p

section
variable {α : Type} {inv : Invoice}

theorem issuesOnly_db {op : Op} (h : (Call.db op).invoice = none)
    {k : Except StoreErr op.Result → Service α} (hk : ∀ r, IssuesOnly inv (k r)) :
    IssuesOnly inv (db op >>= k) := by
  refine ⟨fun inv' hinv => ?_, hk⟩
  rw [h] at hinv
  cases hinv

theorem issuesOnly_Post (req : PostRequest) : IssuesOnly inv (Post req) := by
  unfold Post
  split
  · trivial
  split
  · trivial
  split
  · trivial
  have hlookup : IssuesOnly inv (lookupToken req.transactionToken) := by
    unfold lookupToken
    split
    · trivial
    · exact issuesOnly_db rfl fun r => by cases r <;> trivial
  refine Prog.calls_bind hlookup fun found => ?_
  cases found with
  | some tx => trivial
  | none =>
    refine issuesOnly_db rfl fun r => ?_
    cases r with
    | error err => trivial
    | ok b =>
      dsimp only
      split
      · trivial
      · exact issuesOnly_db rfl fun r => by cases r <;> trivial

variable (c : RenewalCandidate)

theorem issuesOnly_grant (t : Time) : IssuesOnly inv (grant c t) := by
  unfold grant
  split
  · exact issuesOnly_db rfl fun r => by cases r <;> trivial
  · exact issuesOnly_db rfl fun r => by cases r <;> trivial

theorem issuesOnly_restore (t : Time) : IssuesOnly inv (restore c t) := by
  unfold restore
  split
  · trivial
  have htransition : IssuesOnly inv (TransitionDunning c.subscriberID .active) := by
    refine issuesOnly_db rfl fun r => ?_
    cases r with
    | error err => trivial
    | ok q =>
      obtain ⟨current, expiry⟩ := q
      dsimp only
      split
      · exact issuesOnly_db rfl fun r => by cases r <;> trivial
      · trivial
  refine Prog.calls_bind htransition fun res => ?_
  cases res with
  | error err => trivial
  | ok u =>
    dsimp only
    split
    · exact issuesOnly_db rfl fun _ => trivial
    · trivial

/-- After the invoice is built, a renewal issues no other. -/
theorem issuesOnly_afterBuild (now : Time) : IssuesOnly inv (do
    match ← Post (debitRequest c inv) with
    | .error .insufficientBalance => return .ok ()
    | .error e => return .error (.debit e)
    | .ok _ =>
      let newExpiry := addDays (renewalBase now c.planExpiry) c.planValidityDays
      match ← grant c newExpiry with
      | .error e => return .error e
      | .ok _ =>
        (db (.createInvoice inv)).void
        restore c newExpiry
        return .ok () : Service (Except RenewErr Unit)) := by
  refine Prog.calls_bind (issuesOnly_Post _) fun res => ?_
  rcases res with err | tx
  · cases err <;> trivial
  refine Prog.calls_bind (issuesOnly_grant c _) fun res => ?_
  cases res with
  | error err => trivial
  | ok u =>
    refine Prog.calls_bind (Prog.calls_void ⟨fun inv' hinv => ?_, fun _ => trivial⟩) fun _ => ?_
    · exact (Option.some.inj hinv).symm
    · exact Prog.calls_bind (issuesOnly_restore c _) fun _ => trivial

/-- What a program that issues none but `inv` adds to a history without other invoices. -/
theorem history_issuesOnly {p : Service α} (hp : IssuesOnly inv p) {e : Env}
    {s : DB × List (Event sig Env DB)} (hs : ∀ ev ∈ s.2, ∀ inv' ∈ ev.call.invoice, inv' = inv) :
    ∀ ev ∈ (run (traced exec) e p s).2.2, ∀ inv' ∈ ev.call.invoice, inv' = inv := by
  refine Prog.Calls.run_inv (M := traced exec) (I := fun s => ∀ ev ∈ s.2, ∀ inv' ∈ ev.call.invoice,
    inv' = inv) (fun c s' hc hs' ev hev => ?_) hp hs
  rcases mem_append.mp hev with hold | hnew
  · exact hs' ev hold
  · rw [mem_singleton.mp hnew]
    exact hc

end

section
variable {e : Env} {s : DB} {rate : GstRate}

/-- The rate of the moment, as the database answers. -/
def RateIs (e : Env) (s : DB) (rate : GstRate) : Prop := (exec e (.db .getActiveGstRate) s).1 = .ok rate

/-- The invoice of an auto-renewal. -/
def renewalInvoice (c : RenewalCandidate) (rate : GstRate) : Invoice :=
  { CalculateGstInvoice c.planPrice c.registeredState rate with
    subscriberID := c.subscriberID, gbIncluded := c.planVolumeGB, gbUsed := 0 }

theorem run_getActiveGstRate (hrate : RateIs e s rate) : exec e (.db .getActiveGstRate) s = (.ok rate, s) :=
  Prod.ext hrate (exec_read e rfl s)

theorem run_buildInvoice (hrate : RateIs e s rate) (c : RenewalCandidate) :
    run exec e (buildInvoice c) s = (.ok (renewalInvoice c rate), s) := by
  rw [buildInvoice, db_bind, run_db, run_getActiveGstRate hrate]
  rfl

/-- What a renewal issues is what `buildInvoice` has built. -/
theorem issued_renew (hrate : RateIs e s rate) (c : RenewalCandidate) :
    ∀ inv ∈ issued e (renew c) s, inv = renewalInvoice c rate := by
  intro inv hinv
  obtain ⟨ev, hev, hcall⟩ := mem_filterMap.mp hinv
  rw [renew, timeNow_bind, Prog.run, Prog.run_bind,
    buildInvoice, db_bind, run_db] at hev
  have hresp : (traced exec e (.db .getActiveGstRate) (traced exec e .timeNow (s, [])).2).1 = .ok rate :=
    hrate
  rw [hresp] at hev
  refine history_issuesOnly (issuesOnly_afterBuild c _) (fun ev hev inv' hinv' => ?_) ev hev inv hcall
  -- so far the clock and the rate have been read
  rcases mem_append.mp hev with hclock | hread
  · rw [mem_singleton.mp hclock] at hinv'
    cases hinv'
  · rw [mem_singleton.mp hread] at hinv'
    cases hinv'

/-- The one invoice of a portal renewal. -/
theorem issued_createRenewalInvoice (hrate : RateIs e s rate) {sid : ℤ} {amount : Decimal} {state : String}
    {volumeGB : ℤ} (hinputs : (exec e (.db (.getInvoiceInputs sid)) s).1 = .ok (state, volumeGB)) :
    issued e (createRenewalInvoice sid amount) s = [{ CalculateGstInvoice amount state rate with
      subscriberID := sid, gbIncluded := volumeGB, gbUsed := 0 }] := by
  have hread : exec e (.db (.getInvoiceInputs sid)) s = (.ok (state, volumeGB), s) :=
    Prod.ext hinputs (exec_read e rfl s)
  simp only [issued, createRenewalInvoice, db_bind, run_db, traced, hread, run_getActiveGstRate hrate]
  cases (exec e (.db (.createInvoice _)) s).1 <;> rfl

/-- Any recognised home state and any state of the database in which a rate is in force. The invoice
    of an auto-renewal, and that of a portal renewal, has the heads and the total of the configured
    home state exactly if that state is the default one, or the subscriber is in neither state, or the
    tax rounds to nothing. -/
theorem renewals_taxed_at_home_iff (home : String) (hhome : (NormaliseState home).isSome) (e : Env) (s : DB)
    (rate : GstRate) (hrate : RateIs e s rate) :
    (∀ c : RenewalCandidate, ∃ inv,
      (Prog.run exec e (RecurringBillingScanner.buildInvoice c) s).1 = .ok inv ∧
      (∀ inv' ∈ issued e (RecurringBillingScanner.renew c) s, inv' = inv) ∧
      (inv.SameTax (CalculateGstInvoiceFrom c.planPrice c.registeredState home rate) ↔
        TaxedAtHome c.planPrice c.registeredState home rate)) ∧
    ∀ (sid : ℤ) (amount : Decimal) (state : String) (volumeGB : ℤ),
      (exec e (.db (.getInvoiceInputs sid)) s).1 = .ok (state, volumeGB) →
      ∃ inv, issued e (createRenewalInvoice sid amount) s = [inv] ∧
        (inv.SameTax (CalculateGstInvoiceFrom amount state home rate) ↔
          TaxedAtHome amount state home rate) := by
  refine ⟨fun c => ⟨renewalInvoice c rate, ?_, issued_renew hrate c, ?_⟩,
    fun sid amount state volumeGB hinputs => ⟨_, issued_createRenewalInvoice hrate hinputs, ?_⟩⟩
  · rw [run_buildInvoice hrate]
  · exact (Invoice.sameTax_addressed _ _ _ _ _).trans (sameTax_default_iff hhome)
  · exact (Invoice.sameTax_addressed _ _ _ _ _).trans (sameTax_default_iff hhome)

end

/-- A subscriber of the monthly plan in this state. -/
def inState (state : String) : DB := .seeded ((∅ : Table Subscriber).insert 1
  { Subscriber.paidUntil 0 with registeredState := state })

/-- The candidate the subscriber is listed as. -/
def candidateIn (state : String) : RenewalCandidate :=
  ⟨1, "one", none, state, .active, .active, "Home", paise 50000, 30, 100, some 0⟩

def seededRate : GstRate := ⟨1, paise 900, paise 900, paise 1800⟩

theorem seededRate_in_force (state : String) : RateIs (.at 0) (inState state) seededRate := rfl

theorem maharashtra_taxed_from_karnataka :
    (NormaliseState "KA").isSome ∧ RateIs (.at 0) (inState "MH") seededRate ∧
    ∃ inv, (Prog.run exec (.at 0) (RecurringBillingScanner.buildInvoice (candidateIn "MH"))
        (inState "MH")).1 = .ok inv ∧
      inv.SameTax (CalculateGstInvoiceFrom (paise 50000) "MH" "KA" seededRate) := by
  have hhome : (NormaliseState "KA").isSome := by decide
  have hrate := seededRate_in_force "MH"
  obtain ⟨inv, hbuilt, -, hiff⟩ :=
    (renewals_taxed_at_home_iff "KA" hhome (.at 0) (inState "MH") seededRate hrate).1 (candidateIn "MH")
  exact ⟨hhome, hrate, inv, hbuilt, hiff.mpr (.inr (.inl (by decide)))⟩

/-- An operator in Karnataka: a subscriber in the same state is charged IGST on both paths. -/
theorem karnataka_taxed_as_foreign :
    (NormaliseState "KA").isSome ∧
    (Prog.run exec (.at 0) (RecurringBillingScanner.buildInvoice (candidateIn "KA")) (inState "KA")).1 =
      .ok ⟨1, 500, 0, 0, 90, 590, 1, 100, 0⟩ ∧
    issued (.at 0) (createRenewalInvoice 1 (paise 50000)) (inState "KA") =
      [⟨1, 500, 0, 0, 90, 590, 1, 100, 0⟩] ∧
    (CalculateGstInvoiceFrom (paise 50000) "KA" "KA" seededRate).cgstAmount = 45 ∧
    (CalculateGstInvoiceFrom (paise 50000) "KA" "KA" seededRate).sgstAmount = 45 ∧
    (CalculateGstInvoiceFrom (paise 50000) "KA" "KA" seededRate).igstAmount = 0 := by
  refine ⟨?_, ?_, ?_, ?_, ?_, ?_⟩ <;> decide +kernel

end IspBss
