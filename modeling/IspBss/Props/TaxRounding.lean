import IspBss.Billing.Gstr1

/-! What rounding does to tax: to the heads of an invoice, and to the rate that a return reads off them.

        base · rate / 100  ──Round(2)──▶ head         halves away from zero, not to the even digit
        Σ heads / base · 100 ──Round(2)──▶ derived ──▶ the first standard rate within 0.5

    From three rupees on, the derived rate is less than 0.35 off. Then a rate is recovered, except 0.25: it
    is within the tolerance of 0, which is tried first. -/

namespace IspBss

open Lib Numeric List Int

/-! ### Halves -/

variable (x : ℚ)

/-- The nearest integer, and of two the even one. -/
def IsHalfEven (n : ℤ) : Prop := |x - n| < 1 / 2 ∨ (|x - n| = 1 / 2 ∧ Even n)

/-- Half way from an even integer to the next one away from zero. -/
def EvenTie : Prop := ∃ k : ℤ, Even k ∧ |x| = k + 1 / 2

theorem roundHalfAway_cases : ∃ n : ℤ, (n - 1 / 2 ≤ |x| ∧ |x| < n + 1 / 2) ∧
    ((x = |x| ∧ roundHalfAway x = n) ∨ (x = -|x| ∧ roundHalfAway x = -n)) := by
  refine ⟨⌊|x| + 1 / 2⌋, ⟨?_, ?_⟩, ?_⟩
  · linarith [floor_le (|x| + 1 / 2)]
  · linarith [lt_floor_add_one (|x| + 1 / 2)]
  · unfold roundHalfAway
    split
    · rename_i h
      rw [abs_of_nonneg h]
      exact .inl ⟨rfl, rfl⟩
    · rename_i h
      rw [abs_of_neg (not_le.mp h)]
      exact .inr ⟨(neg_neg x).symm, rfl⟩

theorem abs_sub_roundHalfAway : |x - roundHalfAway x| ≤ 1 / 2 := by
  obtain ⟨n, ⟨hlow, hhigh⟩, ⟨hx, hn⟩ | ⟨hx, hn⟩⟩ := roundHalfAway_cases x <;>
    rw [hn, abs_le] <;> push_cast <;> constructor <;> linarith

theorem isHalfEven_roundHalfAway : IsHalfEven x (roundHalfAway x) ↔ ¬ EvenTie x := by
  obtain ⟨n, ⟨hlow, hhigh⟩, hsign⟩ := roundHalfAway_cases x
  have hmirror : IsHalfEven x (roundHalfAway x) ↔ IsHalfEven |x| n := by
    rcases hsign with ⟨hx, hn⟩ | ⟨hx, hn⟩
    · rw [hn, ← hx]
    · have habs : |x - (-n : ℤ)| = abs (|x| - n) := by
        rw [← abs_neg]
        congr 1
        push_cast
        linarith
      rw [IsHalfEven, hn, habs, even_neg, IsHalfEven]
  rw [hmirror, IsHalfEven]
  by_cases htie : |x| = n - 1 / 2
  · rw [htie, show (n : ℚ) - 1 / 2 - n = -(1 / 2) by ring, abs_neg, abs_of_pos (by norm_num)]
    refine ⟨fun h ⟨k, hk, hx⟩ => ?_, fun h => .inr ⟨rfl, ?_⟩⟩
    · have hkn : k = n - 1 := by
        have : (k : ℚ) = n - 1 := by linarith
        exact_mod_cast this
      rw [hkn, even_sub_one] at hk
      exact hk (h.resolve_left (lt_irrefl _)).2
    · by_contra hodd
      exact h ⟨n - 1, even_sub_one.mpr hodd, by rw [htie]; push_cast; ring⟩
  · refine iff_of_true (.inl ?_) ?_
    · rw [abs_lt]
      exact ⟨by linarith [lt_of_le_of_ne hlow (Ne.symm htie)], by linarith⟩
    · rintro ⟨k, -, hx⟩
      have hlt : (n : ℚ) < k + 1 := by linarith [lt_of_le_of_ne hlow (Ne.symm htie)]
      have hlt' : (k : ℚ) < n := by linarith
      norm_cast at hlt hlt'
      omega

/-! ### Heads -/

/-- Sixteen places are enough for what the catalogue can ask. -/
theorem taxHead_exact {base rate : Decimal} {m : ℤ} (h : base * rate * 10 ^ 14 = m) :
    taxHead base rate = ofFixed 2 (roundHalfAway (base * rate)) := by
  have hdiv : div (base * rate) 100 = base * rate / 100 := by
    rw [div, Numeric.round, show base * rate / 100 * 10 ^ 16 = m by rw [← h]; ring, roundHalfAway_intCast, ← h]
    ring
  rw [taxHead, hdiv, Numeric.round, show base * rate / 100 * 10 ^ 2 = base * rate by ring, ofFixed]

/-- The rate and the amount of each head that is charged. -/
def chargedHeads (base : Decimal) (subscriberState homeState : String) (rate : GstRate) :
    List (Decimal × Decimal) :=
  let inv := CalculateGstInvoiceFrom base subscriberState homeState rate
  if isIntrastate subscriberState homeState then [(rate.cgstRate, inv.cgstAmount), (rate.sgstRate, inv.sgstAmount)]
  else [(rate.igstRate, inv.igstAmount)]

/-- `r` is `q` to the paisa, with ties to the even digit. -/
def Bankers (q r : Decimal) : Prop := ∃ n : ℤ, r = ofFixed 2 n ∧ IsHalfEven (q * 10 ^ 2) n

/-- A head follows banker's rounding exactly if it is not half a paisa above an even number of paise. -/
theorem head_bankers_iff {b : ℤ} {rate : GstRate} (subscriberState homeState : String)
    (hrates : ∀ q ∈ [rate.cgstRate, rate.sgstRate, rate.igstRate], ∃ c : ℤ, q = ofFixed 2 c) :
    ∀ x ∈ chargedHeads (ofFixed 2 b) subscriberState homeState rate,
      Bankers (ofFixed 2 b * x.1 / 100) x.2 ↔ ¬ EvenTie (ofFixed 2 b * x.1) := by
  intro x hx
  have hhead : x.1 ∈ [rate.cgstRate, rate.sgstRate, rate.igstRate] ∧ x.2 = taxHead (ofFixed 2 b) x.1 := by
    unfold chargedHeads CalculateGstInvoiceFrom at hx
    cases hintra : isIntrastate subscriberState homeState
    · simp [hintra] at hx
      simp [hx]
    · simp [hintra] at hx
      rcases hx with rfl | rfl <;> simp
  obtain ⟨c, hc⟩ := hrates x.1 hhead.1
  have hexact : ofFixed 2 b * x.1 * 10 ^ 14 = (b * c * 10 ^ 10 : ℤ) := by
    rw [hc, ofFixed, ofFixed]
    push_cast
    ring
  rw [hhead.2, taxHead_exact hexact, ← isHalfEven_roundHalfAway, Bankers,
    show ofFixed 2 b * x.1 / 100 * 10 ^ 2 = ofFixed 2 b * x.1 by ring]
  exact ⟨fun ⟨n, hn, h⟩ => ofFixed_inj.mp hn ▸ h, fun h => ⟨_, rfl, h⟩⟩

/-- Nine per cent each for the centre and the state. -/
def nineEach : GstRate := ⟨1, 9, 9, 18⟩

theorem nineEach_places : ∀ q ∈ [nineEach.cgstRate, nineEach.sgstRate, nineEach.igstRate],
    ∃ c : ℤ, q = ofFixed 2 c := by
  simp only [forall_mem_cons, nineEach]
  exact ⟨⟨900, by norm_num [ofFixed]⟩, ⟨900, by norm_num [ofFixed]⟩, ⟨1800, by norm_num [ofFixed]⟩, nofun⟩

/-- Nine paise on a rupee. -/
theorem rupee_bankers : Bankers (ofFixed 2 100 * 9 / 100) (9 / 100) := by
  refine (head_bankers_iff (b := 100) "TN" "TN" nineEach_places (9, 9 / 100) (by decide +kernel)).mpr ?_
  rintro ⟨k, -, hk⟩
  norm_num [ofFixed] at hk
  have htwice : (2 * k + 1 : ℚ) = 18 := by linarith
  norm_cast at htwice
  omega

/-- On half a rupee it is four and a half paise, and five are charged. -/
theorem half_rupee_not_bankers : (9, 1 / 20) ∈ chargedHeads (ofFixed 2 50) "TN" "TN" nineEach ∧
    ¬ Bankers (ofFixed 2 50 * 9 / 100) (1 / 20) := by
  refine ⟨by decide +kernel, ?_⟩
  rintro ⟨n, hn, hnear⟩
  obtain rfl : n = 5 := by
    have : (n : ℚ) = 5 := by rw [← ofFixed_mul 2 n, ← hn]; norm_num
    exact_mod_cast this
  norm_num [IsHalfEven, ofFixed, abs_of_neg] at hnear

end IspBss

/-! ### The rate that is read off -/

namespace IspBss.Gstr1

open Lib Numeric

theorem div_near (x y : ℚ) : |x / y - div x y| ≤ 1 / 10 ^ 16 := by
  have h := abs_le.mp (abs_sub_roundHalfAway (x / y * 10 ^ 16))
  rw [div, Numeric.round, abs_le]
  exact ⟨by linarith, by linarith⟩

/-- A head in paise is half a paisa off, and what the division left out. -/
theorem taxHead_near (base rate : Decimal) :
    ∃ n : ℤ, taxHead base rate = ofFixed 2 n ∧ |base * rate - n| ≤ 1 / 2 + 1 / 10 ^ 12 := by
  refine ⟨_, rfl, ?_⟩
  have h₁ := abs_le.mp (div_near (base * rate) 100)
  have h₂ := abs_le.mp (abs_sub_roundHalfAway (div (base * rate) 100 * 10 ^ 2))
  exact abs_le.mpr ⟨by linarith, by linarith⟩

/-- The tax in paise is at most about a paisa off, and at 0.25 at most half a per cent. -/
theorem tax_near {b : ℤ} (hb : 300 ≤ b) (r : Decimal) (id : ℤ) (subscriberState homeState : String) :
    ∃ t : ℤ, (CalculateGstInvoiceFrom (ofFixed 2 b) subscriberState homeState ⟨id, r / 2, r / 2, r⟩).tax = ofFixed 2 t ∧
      |b * r / 100 - t| ≤ 1 + 1 / 10 ^ 11 ∧ (r = 1 / 4 → 200 * t ≤ b) := by
  have hbase : ofFixed 2 b = b / 100 := by norm_num [ofFixed]
  cases hintra : isIntrastate subscriberState homeState
  · obtain ⟨n, hn, hnear⟩ := taxHead_near (ofFixed 2 b) r
    rw [hbase, abs_le] at hnear
    refine ⟨n, by simp [Invoice.tax, CalculateGstInvoiceFrom, hintra, hn],
      abs_le.mpr ⟨by linarith, by linarith⟩, ?_⟩
    rintro rfl
    have hlt : (400 * n : ℚ) < b + 201 := by linarith
    norm_cast at hlt
    omega
  · obtain ⟨n, hn, hnear⟩ := taxHead_near (ofFixed 2 b) (r / 2)
    rw [hbase, abs_le] at hnear
    refine ⟨n + n, by simp [Invoice.tax, CalculateGstInvoiceFrom, hintra, hn, ofFixed_add],
      abs_le.mpr ⟨by push_cast; linarith, by push_cast; linarith⟩, ?_⟩
    rintro rfl
    -- below four rupees both heads are nothing
    have hlt : (800 * n : ℚ) < b + 401 := by linarith
    norm_cast at hlt
    omega

/-- From three rupees on, every standard rate is recovered from the invoice but one. -/
theorem rate_recovered_iff {b : ℤ} (hb : 300 ≤ b) {r : Decimal} (hr : r ∈ standardGSTRates) (id : ℤ)
    (subscriberState homeState : String) :
    derivedGSTRate (ofFixed 2 b)
      (CalculateGstInvoiceFrom (ofFixed 2 b) subscriberState homeState ⟨id, r / 2, r / 2, r⟩).tax = r ↔
    r ≠ 1 / 4 := by
  obtain ⟨t, htax, hpaisa, hquarter⟩ := tax_near hb r id subscriberState homeState
  have hb' : (300 : ℚ) ≤ b := by exact_mod_cast hb
  have hratio : ofFixed 2 t / ofFixed 2 b = t / b := div_div_div_cancel_right₀ (by norm_num) _ _
  have hrate : |r / 100 - (t : ℚ) / b| ≤ 1 / 300 + 1 / 10 ^ 12 := by
    rw [show r / 100 - (t : ℚ) / b = (b * r / 100 - t) / b by field_simp, abs_div,
      abs_of_pos (by linarith : (0 : ℚ) < b), div_le_iff₀ (by linarith)]
    linarith
  -- the rate before it is snapped, in hundredths
  obtain ⟨m, hm⟩ : ∃ m, m = roundHalfAway (div (ofFixed 2 t) (ofFixed 2 b) * 100 * 10 ^ 2) := ⟨_, rfl⟩
  have h₁ := div_near (ofFixed 2 t) (ofFixed 2 b)
  have h₂ := abs_sub_roundHalfAway (div (ofFixed 2 t) (ofFixed 2 b) * 100 * 10 ^ 2)
  rw [hratio] at h₁
  rw [← hm] at h₂
  rw [abs_le] at hrate h₁ h₂
  have hsnap : derivedGSTRate (ofFixed 2 b) (ofFixed 2 t) =
      (standardGSTRates.find? fun std => |ofFixed 2 m - std| ≤ rateSnapTolerance).getD (ofFixed 2 m) := by
    rw [hm]
    refine if_neg fun h => ?_
    have hzero : b = 0 := ofFixed_inj.mp (h.trans (by norm_num [ofFixed]))
    omega
  rw [htax, hsnap]
  -- a rate that stands before the right one is too far away to be taken
  have hfind : ∀ before rest, standardGSTRates = before ++ r :: rest → (∀ s ∈ before, s + 17 / 20 < r) →
      standardGSTRates.find? (fun std => |ofFixed 2 m - std| ≤ rateSnapTolerance) = some r := by
    intro before rest hsplit hfar
    refine List.find?_eq_some_iff_append.mpr ⟨?_, before, rest, hsplit, fun s hs => ?_⟩
    · rw [decide_eq_true_iff, abs_le, rateSnapTolerance, ofFixed]
      exact ⟨by linarith, by linarith⟩
    · have hlt := hfar s hs
      rw [Bool.not_eq_true', decide_eq_false_iff_not, abs_le, rateSnapTolerance, ofFixed]
      exact fun h => by linarith [h.2]
  simp only [standardGSTRates, List.mem_cons, List.not_mem_nil, or_false] at hr
  rcases hr with rfl | rfl | rfl | rfl | rfl | rfl | rfl
  · rw [hfind [] _ rfl nofun]
    norm_num
  · have hhalf : (t : ℚ) / b ≤ 1 / 200 := by
      have : (200 * t : ℚ) ≤ b := by exact_mod_cast hquarter rfl
      rw [div_le_iff₀ (by linarith)]
      linarith
    have hm' : (m : ℚ) < 51 := by linarith
    have hle : (m : ℚ) ≤ 50 := by exact_mod_cast Int.lt_add_one_iff.mp (by exact_mod_cast hm')
    have hfirst : standardGSTRates.find? (fun std => |ofFixed 2 m - std| ≤ rateSnapTolerance) = some 0 := by
      refine List.find?_cons_of_pos (decide_eq_true ?_)
      rw [sub_zero, abs_le, rateSnapTolerance, ofFixed]
      exact ⟨by linarith, by linarith⟩
    rw [hfirst]
    norm_num
  · rw [hfind [0, 1 / 4] _ rfl (by norm_num)]
    norm_num
  · rw [hfind [0, 1 / 4, 3] _ rfl (by norm_num)]
    norm_num
  · rw [hfind [0, 1 / 4, 3, 5] _ rfl (by norm_num)]
    norm_num
  · rw [hfind [0, 1 / 4, 3, 5, 12] _ rfl (by norm_num)]
    norm_num
  · rw [hfind [0, 1 / 4, 3, 5, 12, 18] _ rfl (by norm_num)]
    norm_num

/-- The ordinary rate is recovered even from three rupees. -/
theorem eighteen_recovered :
    derivedGSTRate (ofFixed 2 300) (CalculateGstInvoiceFrom (ofFixed 2 300) "TN" "TN" ⟨1, 18 / 2, 18 / 2, 18⟩).tax =
      18 :=
  (rate_recovered_iff le_rfl (by decide +kernel) 1 "TN" "TN").mpr (by norm_num)

/-- Two and a half rupees on a thousand is returned as not taxed. -/
theorem quarter_returned_as_zero :
    (CalculateGstInvoiceFrom 1000 "KA" "TN" ⟨1, 1 / 8, 1 / 8, 1 / 4⟩).tax = 5 / 2 ∧
    derivedGSTRate 1000 (5 / 2) = 0 := by
  decide +kernel

end IspBss.Gstr1
