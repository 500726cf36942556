import IspBss.Nas.Vendors
import Mathlib

/-! The shaping of a CPE, derived from the rate string of the plan.

    `RateLimitToKbps` reads the string a second time, beside the parser of the NAS. The two agree on
    spaces, on letters and on every number the NAS takes. They differ on a number without a letter: for
    the NAS these are bits, for the CPE kilobits. -/

namespace IspBss.Tr069

open Lib Nas List

/-! ### The second reading -/

/-- The suffix of a value: its factor in kilobits, and the digits before it. -/
def kbpsSuffix (v : List Char) : ℤ × List Char :=
  match v.getLast? with
  | some 'M' => (1000, v.dropLast)
  | some 'm' => (1000, v.dropLast)
  | some 'k' => (1, v.dropLast)
  | some 'K' => (1, v.dropLast)
  | some 'G' => (1000000, v.dropLast)
  | some 'g' => (1000000, v.dropLast)
  | _ => (1, v)

/-- `n = n*10 + int(c-'0')` over the value. An `int` wraps, and nothing checks it. -/
def digitsLoop : List Char → ℤ → Option ℤ
  | [], n => some n
  | c :: cs, n =>
    if c.isDigit then digitsLoop cs ((n * 10 + (c.toNat - '0'.toNat : ℕ)).bmod (2 ^ 64)) else none

/-- The loop of `itoa`, with `i` bytes of its buffer left. -/
def itoaLoop : (i : ℕ) → ℤ → List Char → List Char
  | 0, _, buf => buf
  | i + 1, n, buf =>
    if 0 < n then itoaLoop i (n / 10) (Nat.digitChar (n % 10).toNat :: buf) else buf

def itoa (n : ℤ) : String := if n = 0 then "0" else .ofList (itoaLoop 20 n [])

/-- The value as a plain count of kilobits, empty when it cannot be read. -/
def toKbps (v : List Char) : String :=
  let v := trimSpace v
  if v = [] then ""
  else
    match digitsLoop (kbpsSuffix v).2 0 with
    | none => ""
    | some n => if n = 0 then "" else itoa ((n * (kbpsSuffix v).1).bmod (2 ^ 64))

def RateLimitToKbps (rateLimit : String) : String × String :=
  match rateLimit.toList.splitOn '/' with
  | [up, down] => (toKbps up, toKbps down)
  | _ => ("", "")

/-! ### Numbers that fit -/

theorem digitsLoop_eq {cs : List Char} {n : ℕ} (hcs : cs.all Char.isDigit = true)
    (hn : Nat.ofDigitChars 10 cs n < 2 ^ 32) : digitsLoop cs n = some (Nat.ofDigitChars 10 cs n : ℤ) := by
  induction cs generalizing n with
  | nil => simp [digitsLoop]
  | cons c cs ih =>
    rw [all_cons, Bool.and_eq_true] at hcs
    rw [Nat.ofDigitChars_cons] at hn ⊢
    -- the value only grows from here, so what is read so far has not wrapped
    have hle : 10 * n + (c.toNat - '0'.toNat) < 2 ^ 32 := by
      refine lt_of_le_of_lt ?_ hn
      rw [Nat.ofDigitChars_eq_ofDigitChars_zero]
      exact le_add_right (Nat.le_mul_of_pos_left _ (by positivity))
    have hfit : ((n : ℤ) * 10 + (c.toNat - '0'.toNat : ℕ)).bmod (2 ^ 64) =
        (10 * n + (c.toNat - '0'.toNat) : ℕ) := by
      rw [Int.bmod_eq_of_le (by omega) (by omega)]
      push_cast
      ring
    simp only [digitsLoop, hcs.1, if_true]
    rw [hfit]
    exact ih hcs.2 hn

theorem itoaLoop_eq {i n : ℕ} (buf : List Char) (hn : 0 < n) (hlt : n < 10 ^ i) :
    itoaLoop i n buf = Nat.toDigits 10 n ++ buf := by
  induction i generalizing n buf with
  | zero => omega
  | succ i ih =>
    have hdiv : ((n : ℤ) / 10) = (n / 10 : ℕ) := by omega
    have hmod : ((n : ℤ) % 10).toNat = n % 10 := by omega
    rw [itoaLoop, if_pos (by omega), hdiv, hmod]
    rcases Nat.lt_or_ge n 10 with hsmall | hbig
    · rw [Nat.toDigits_of_lt_base hsmall, Nat.div_eq_of_lt hsmall, Nat.mod_eq_of_lt hsmall]
      cases i <;> simp [itoaLoop]
    · rw [ih _ (by omega) (by rw [Nat.pow_succ] at hlt; omega),
        Nat.toDigits_of_base_le (by decide) hbig, append_assoc, singleton_append]

theorem itoa_eq {n : ℕ} (hn : 0 < n) (hlt : n < 10 ^ 20) : itoa n = n.repr := by
  rw [itoa, if_neg (by omega), itoaLoop_eq [] hn hlt, append_nil, Nat.repr_eq_ofList_toDigits]

/-! ### One token -/

/-- The value ends in the letter of a unit. -/
def HasUnit (v : List Char) : Prop := (trimSpace v).getLast? ∈ ['k', 'K', 'm', 'M', 'g', 'G'].map some

instance (v : List Char) : Decidable (HasUnit v) := inferInstanceAs (Decidable (_ ∈ map some _))

variable {v : List Char} {a b : UInt32}

/-- With a letter the units of the two readings differ by the factor 1000. Without one they are both 1. -/
theorem suffix_cases (v : List Char) :
    HasUnit v ∧ (∃ c m, trimSpace v = (rateSuffix (trimSpace v)).2 ++ [c] ∧ c ≠ '/' ∧
        (rateSuffix (trimSpace v)).1 = 1000 * m ∧ m ∈ Set.Icc 1 1000000 ∧
        kbpsSuffix (trimSpace v) = ((m : ℤ), (rateSuffix (trimSpace v)).2)) ∨
      ¬ HasUnit v ∧ rateSuffix (trimSpace v) = (1, trimSpace v) ∧
        kbpsSuffix (trimSpace v) = (1, trimSpace v) := by
  by_cases hunit : HasUnit v
  · left
    refine ⟨hunit, ?_⟩
    obtain ⟨c, hc, hlast⟩ := mem_map.mp hunit
    have hsplit : trimSpace v = (trimSpace v).dropLast ++ [c] := (dropLast_append_getLast? c hlast.symm).symm
    simp only [mem_cons, not_mem_nil, or_false] at hc
    rcases hc with rfl | rfl | rfl | rfl | rfl | rfl <;> simp only [rateSuffix, kbpsSuffix, ← hlast]
    · exact ⟨_, 1, hsplit, by decide, rfl, by decide, rfl⟩
    · exact ⟨_, 1, hsplit, by decide, rfl, by decide, rfl⟩
    · exact ⟨_, 1000, hsplit, by decide, rfl, by decide, rfl⟩
    · exact ⟨_, 1000, hsplit, by decide, rfl, by decide, rfl⟩
    · exact ⟨_, 1000000, hsplit, by decide, rfl, by decide, rfl⟩
    · exact ⟨_, 1000000, hsplit, by decide, rfl, by decide, rfl⟩
  · refine .inr ⟨hunit, ?_⟩
    have hlast : ∀ c ∈ ['k', 'K', 'm', 'M', 'g', 'G'], (trimSpace v).getLast? ≠ some c :=
      fun c hc hlast => hunit (mem_map.mpr ⟨c, hc, hlast.symm⟩)
    constructor
    · unfold rateSuffix
      split <;> simp_all
    · unfold kbpsSuffix
      split <;> simp_all

/-- What a token that the NAS takes is made of. -/
theorem parseRateToken_ok (h : parseRateToken v = .ok a) :
    trimSpace v ≠ [] ∧ (rateSuffix (trimSpace v)).2.all Char.isDigit = true ∧
      ∃ n < 2 ^ 32, Nat.ofDigitChars 10 (rateSuffix (trimSpace v)).2 0 = n ∧
        a.toNat = n * (rateSuffix (trimSpace v)).1 := by
  simp only [parseRateToken, parseUint32] at h
  split at h
  · cases h
  · next hnil =>
    split_ifs at h with hnum
    · obtain ⟨-, hdigits, hlt⟩ := hnum
      simp only at h
      split_ifs at h with hover
      cases h
      exact ⟨hnil, hdigits, _, hlt, rfl, UInt32.toNat_ofNat_of_lt' (not_le.mp hover)⟩

/-- A token the NAS takes is not too large for the `int`s of the second reading. -/
theorem toKbps_eq {m : ℕ} (h : parseRateToken v = .ok a) (ha : 0 < a) (hm : m ∈ Set.Icc 1 1000000)
    (hkbps : kbpsSuffix (trimSpace v) = ((m : ℤ), (rateSuffix (trimSpace v)).2)) :
    ∃ n, a.toNat = n * (rateSuffix (trimSpace v)).1 ∧ toKbps v = (n * m).repr := by
  obtain ⟨hnil, hdigits, n, hn, hval, hrate⟩ := parseRateToken_ok h
  refine ⟨n, hrate, ?_⟩
  have hread : digitsLoop (rateSuffix (trimSpace v)).2 0 = some (n : ℤ) := by
    have hread := digitsLoop_eq (n := 0) hdigits (hval ▸ hn)
    rwa [hval] at hread
  have hpos : 0 < n := by
    refine Nat.pos_of_ne_zero fun h0 => ?_
    rw [h0, Nat.zero_mul] at hrate
    exact absurd ha (by simp [UInt32.lt_iff_toNat_lt, hrate])
  have hprod : 0 < n * m := Nat.mul_pos hpos hm.1
  have hlt : n * m ≤ 2 ^ 32 * 1000000 := Nat.mul_le_mul hn.le hm.2
  have hfit : ((n : ℤ) * m).bmod (2 ^ 64) = (n * m : ℕ) := by
    rw [← Int.natCast_mul]
    exact Int.bmod_eq_of_le (by omega) (by omega)
  simp only [toKbps, hnil, if_false, hkbps, hread]
  rw [if_neg (by omega), hfit, itoa_eq hprod (by omega)]

/-- The number of the CPE is the one of the NAS exactly when the token names its unit. -/
theorem toKbps_eq_iff (h : parseRateToken v = .ok a) (ha : 0 < a) (hd : 1000 ∣ a.toNat) :
    toKbps v = (a.toNat / 1000).repr ↔ HasUnit v := by
  have hpos : 0 < a.toNat := ha
  rcases suffix_cases v with ⟨hunit, c, m, -, -, hm, hle, hkbps⟩ | ⟨hunit, hbits, hkbps⟩
  · refine iff_of_true ?_ hunit
    obtain ⟨n, hrate, hout⟩ := toKbps_eq h ha hle hkbps
    rw [hout, hrate, hm, Nat.mul_left_comm, Nat.mul_div_cancel_left _ (by decide)]
  · refine iff_of_false ?_ hunit
    obtain ⟨n, hrate, hout⟩ := toKbps_eq (m := 1) h ha ⟨le_rfl, by decide⟩ (by rw [hbits, hkbps]; rfl)
    rw [hbits, mul_one] at hrate
    rw [hout, mul_one, Nat.repr_inj]
    omega

/-! ### The two sides of the string -/

theorem mem_trimSpace {c : Char} (hc : c ∈ v) (hspace : isSpace c = false) : c ∈ trimSpace v := by
  have hdrop : ∀ l : List Char, c ∈ l → c ∈ l.dropWhile isSpace := by
    intro l hl
    rw [← takeWhile_append_dropWhile (p := isSpace) (l := l), mem_append] at hl
    refine hl.resolve_left fun htake => ?_
    rw [mem_takeWhile_imp htake] at hspace
    cases hspace
  rw [trimSpace, mem_reverse]
  exact hdrop _ (mem_reverse.mpr (hdrop v hc))

theorem slash_notMem (h : parseRateToken v = .ok a) : '/' ∉ v := by
  intro hslash
  obtain ⟨-, hdigits, -⟩ := parseRateToken_ok h
  have hdigits : '/' ∉ (rateSuffix (trimSpace v)).2 :=
    fun hmem => absurd (all_eq_true.mp hdigits _ hmem) (by decide)
  have hmem := mem_trimSpace hslash (by decide)
  rcases suffix_cases v with ⟨-, c, m, hsplit, hne, -⟩ | ⟨-, hbits, -⟩
  · rw [hsplit, mem_append, mem_singleton] at hmem
    exact hmem.elim hdigits fun heq => hne heq.symm
  · rw [hbits] at hdigits
    exact hdigits hmem

/-- A string the NAS takes has one slash, so the two readings split it alike. -/
theorem parseRateLimitString_ok {s : String} (h : parseRateLimitString s = .ok (a, b)) :
    ∃ up down, s.toList.splitOn '/' = [up, down] ∧ parseRateToken up = .ok a ∧
      parseRateToken down = .ok b := by
  simp only [parseRateLimitString, span_eq_takeWhile_dropWhile] at h
  have hjoin := takeWhile_append_dropWhile (p := (· ≠ '/')) (l := s.toList)
  have hhead := head?_dropWhile_not (· ≠ '/') s.toList
  have hfirst : ∀ c ∈ s.toList.takeWhile (· ≠ '/'), (c == '/') = false :=
    fun c hc => by simpa using mem_takeWhile_imp hc
  revert h hjoin hhead hfirst
  generalize s.toList.takeWhile (· ≠ '/') = first
  rcases s.toList.dropWhile (· ≠ '/') with _ | ⟨slash, second⟩ <;> intro h hjoin hhead hfirst
  · cases h
  · obtain ⟨x, hx, h⟩ := except_bind_ok.mp h
    obtain ⟨y, hy, h⟩ := except_bind_ok.mp h
    cases h
    have hsecond : ∀ c ∈ second, (c == '/') = false := by
      intro c hc
      rw [beq_eq_false_iff_ne]
      rintro rfl
      exact slash_notMem hy hc
    refine ⟨first, second, ?_, hx, hy⟩
    rw [← hjoin, splitOn, splitOnP_append_cons_of_forall_mem hfirst slash (by simpa using hhead),
      splitOnP_eq_singleton hsecond]

/-- The CPE and the NAS are shaped to one number exactly when both sides of the string name a unit. -/
theorem RateLimitToKbps_eq_iff {s : String} (h : parseRateLimitString s = .ok (a, b)) (ha : 0 < a)
    (hb : 0 < b) (hda : 1000 ∣ a.toNat) (hdb : 1000 ∣ b.toNat) :
    RateLimitToKbps s = ((a.toNat / 1000).repr, (b.toNat / 1000).repr) ↔
      ∀ tok ∈ s.toList.splitOn '/', HasUnit tok := by
  obtain ⟨up, down, hsplit, hup, hdown⟩ := parseRateLimitString_ok h
  simp only [RateLimitToKbps, hsplit, Prod.mk.injEq, forall_mem_cons]
  rw [toKbps_eq_iff hup ha hda, toKbps_eq_iff hdown hb hdb]
  simp

theorem RateLimitToKbps_megabits :
    parseRateLimitString "10M/ 512k" = .ok (10000000, 512000) ∧
      RateLimitToKbps "10M/ 512k" = ("10000", "512") :=
  have hok : parseRateLimitString "10M/ 512k" = .ok (10000000, 512000) := by decide +kernel
  ⟨hok, (RateLimitToKbps_eq_iff hok (by decide) (by decide) (by decide) (by decide)).mpr
    (by decide +kernel)⟩

/-- A plan of 1 Mbps written in bits: the CPE is told 1 Gbps. -/
theorem RateLimitToKbps_bits :
    parseRateLimitString "1000000/1000000" = .ok (1000000, 1000000) ∧
      RateLimitToKbps "1000000/1000000" = ("1000000", "1000000") ∧ (1000000 / 1000).repr = "1000" := by
  decide +kernel

end IspBss.Tr069
