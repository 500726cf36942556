import Mathlib.Data.Rat.Floor
import Mathlib.Tactic

/-! Exact decimals and fixed-point columns.

    A decimal is a rational. Rounding is half away from zero, at a number of decimal places; a
    quotient is rounded at sixteen places. A `NUMERIC(p, s)` column holds an integer number of
    `10⁻ˢ` units of at most `p` digits: storing a decimal rounds it to the scale and fails on
    overflow, so a value that already is a multiple of the unit is stored as it is. -/

namespace Lib.Numeric

open Int

/-- Round to the nearest integer, halves away from zero. -/
def roundHalfAway (q : ℚ) : ℤ := if 0 ≤ q then ⌊q + 1 / 2⌋ else -⌊-q + 1 / 2⌋

/-- Round to `places` decimal places. -/
def round (places : ℕ) (q : ℚ) : ℚ := roundHalfAway (q * 10 ^ places) / 10 ^ places

/-- Divide and keep sixteen decimal places. -/
def div (a b : ℚ) : ℚ := round 16 (a / b)

/-- What a `NUMERIC(precision, scale)` column stores for `q`, in units of the last place. -/
def toFixed (precision scale : ℕ) (q : ℚ) : Option ℤ :=
  let n := roundHalfAway (q * 10 ^ scale)
  if |n| < 10 ^ precision then some n else none

/-- The decimal read back from `n` units of the last place. -/
def ofFixed (scale : ℕ) (n : ℤ) : ℚ := n / 10 ^ scale

@[simp] theorem roundHalfAway_intCast (n : ℤ) : roundHalfAway n = n := by
  have key : ∀ m : ℤ, ⌊(m : ℚ) + 1 / 2⌋ = m := fun m => by
    rw [floor_eq_iff]; constructor <;> norm_num
  unfold roundHalfAway
  split
  · exact key n
  · have h := key (-n)
    push_cast at h
    rw [h]; ring

theorem roundHalfAway_nonneg {q : ℚ} (h : 0 ≤ q) : 0 ≤ roundHalfAway q := by
  rw [roundHalfAway, if_pos h]
  exact floor_nonneg.mpr (by linarith)

/-- An integer can be added before or after, if the sum stays on the positive side. -/
theorem roundHalfAway_add (b : ℤ) {x : ℚ} (hx : 0 ≤ x) (h : 0 ≤ b + x) :
    roundHalfAway (b + x) = b + roundHalfAway x := by
  unfold roundHalfAway
  rw [if_pos h, if_pos hx, add_assoc, floor_intCast_add]

/-- It can be subtracted from, unless what is subtracted is a half: that is rounded up on both sides. -/
theorem roundHalfAway_sub_iff (b : ℤ) {x : ℚ} (hx : 0 ≤ x) (h : 0 ≤ b - x) :
    roundHalfAway (b - x) = b - roundHalfAway x ↔ ∀ k : ℤ, x ≠ k + 1 / 2 := by
  have hfloor : ⌊b - x + 1 / 2⌋ = b + 1 - ⌈x + 1 / 2⌉ := by
    have hneg : (b : ℚ) - x + 1 / 2 = ((b + 1 : ℤ) : ℚ) + -(x + 1 / 2) := by push_cast; ring
    rw [hneg, floor_intCast_add, floor_neg, sub_eq_add_neg]
  have hhalf : x + 1 / 2 ∉ Set.range (Int.cast : ℤ → ℚ) ↔ ∀ k : ℤ, x ≠ k + 1 / 2 := by
    simp only [Set.mem_range, not_exists]
    refine ⟨fun h k hk => h (k + 1) ?_, fun h k hk => h (k - 1) ?_⟩
    · rw [hk]; push_cast; ring
    · push_cast; linarith
  unfold roundHalfAway
  rw [if_pos h, if_pos hx, ← hhalf, ← ceil_eq_floor_add_one_iff_notMem]
  omega

/-- A bound on the rounded value is a bound on the value, half a unit lower. -/
theorem abs_roundHalfAway_lt {q : ℚ} {n : ℤ} : |roundHalfAway q| < n ↔ |q| < n - 1 / 2 := by
  have key : ∀ x : ℚ, 0 ≤ x → (|⌊x + 1 / 2⌋| < n ↔ |x| < n - 1 / 2) := by
    intro x hx
    have hfloor : (0 : ℤ) ≤ ⌊x + 1 / 2⌋ := floor_nonneg.mpr (by linarith)
    rw [abs_of_nonneg hfloor, abs_of_nonneg hx, floor_lt, lt_sub_iff_add_lt]
  unfold roundHalfAway
  split
  · rename_i hq
    exact key q hq
  · rename_i hq
    rw [abs_neg, ← abs_neg q]
    exact key (-q) (by linarith)

/-- What rounds to nothing at two places after a division. -/
theorem round_div_eq_zero {a b : ℚ} : round 2 (div a b) = 0 ↔ |a / b| < 1 / 200 - 1 / (2 * 10 ^ 16) := by
  have hround : round 2 (div a b) = 0 ↔ |roundHalfAway (div a b * 10 ^ 2)| < 1 := by
    rw [round, div_eq_zero_iff, or_iff_left (by norm_num), cast_eq_zero, abs_lt_one_iff]
  have hdiv : |div a b * 10 ^ 2| < ((1 : ℤ) : ℚ) - 1 / 2 ↔
      |roundHalfAway (a / b * 10 ^ 16)| < 50000000000000 := by
    rw [div, round, abs_mul, abs_div, ← cast_abs, ← cast_lt (R := ℚ)]
    constructor <;> intro h <;> linarith
  rw [hround, abs_roundHalfAway_lt, hdiv, abs_roundHalfAway_lt, abs_mul]
  constructor <;> intro h <;> linarith

theorem ofFixed_mul (scale : ℕ) (n : ℤ) : ofFixed scale n * 10 ^ scale = n := by
  unfold ofFixed
  rw [div_mul_cancel₀]
  positivity

theorem ofFixed_inj {scale : ℕ} {m n : ℤ} : ofFixed scale m = ofFixed scale n ↔ m = n := by
  refine ⟨fun h => ?_, fun h => h ▸ rfl⟩
  have := congrArg (· * (10 : ℚ) ^ scale) h
  simp only [ofFixed_mul] at this
  exact_mod_cast this

theorem ofFixed_add (scale : ℕ) (m n : ℤ) : ofFixed scale m + ofFixed scale n = ofFixed scale (m + n) := by
  unfold ofFixed; push_cast; ring

theorem ofFixed_sub (scale : ℕ) (m n : ℤ) : ofFixed scale m - ofFixed scale n = ofFixed scale (m - n) := by
  unfold ofFixed; push_cast; ring

/-- A multiple of the unit is stored exactly, if it is stored at all. -/
theorem toFixed_ofFixed {precision scale : ℕ} {n m : ℤ}
    (h : toFixed precision scale (ofFixed scale n) = some m) : m = n := by
  unfold toFixed at h
  simp only [ofFixed_mul, roundHalfAway_intCast] at h
  split at h
  · exact (Option.some.inj h).symm
  · cases h

/-- A multiple of the unit that has few enough digits is stored. -/
theorem toFixed_ofFixed_of_lt {precision scale : ℕ} {n : ℤ} (h : |n| < 10 ^ precision) :
    toFixed precision scale (ofFixed scale n) = some n := by
  simp only [toFixed, ofFixed_mul, roundHalfAway_intCast]
  exact if_pos h

/-- What was rounded to the scale is stored exactly, if it is stored at all. -/
theorem ofFixed_toFixed_round {precision scale : ℕ} {q : ℚ} {n : ℤ}
    (h : toFixed precision scale (round scale q) = some n) : ofFixed scale n = round scale q := by
  have hround : round scale q = ofFixed scale (roundHalfAway (q * 10 ^ scale)) := rfl
  rw [hround] at h ⊢
  rw [toFixed_ofFixed h]

end Lib.Numeric
