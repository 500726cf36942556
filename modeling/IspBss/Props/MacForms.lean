import IspBss.Radius.Network

/-! Which texts are a MAC address, and when are two the same one?

        aabb.ccdd.eeff ─┐
        aa-bb-cc-dd-ee-ff ─┼─▶ twelve digits ─▶ AA:BB:CC:DD:EE:FF
        AABBCCDDEEFF ─┘

    The digits are all that counts of a spelling, and the canonical form is a spelling of itself. -/

namespace IspBss.Radius

open List

def UpperHex (c : Char) : Prop := ('0' ≤ c ∧ c ≤ '9') ∨ ('A' ≤ c ∧ c ≤ 'F')
  deriving Decidable

def IsHex (c : Char) : Prop := UpperHex c ∨ ('a' ≤ c ∧ c ≤ 'f')
  deriving Decidable

def Separator (c : Char) : Prop := c = ':' ∨ c = '-' ∨ c = '.' ∨ c = ' '
  deriving Decidable

/-- The hex digits of a text. -/
def hexDigits (s : String) : List Char := s.toList.filter IsHex

/-! ### Characters -/

section
variable {c : Char} {cs h : List Char}

/-- What is written for a digit: its upper case, and an upper-case digit as it stands. -/
theorem hex_spec (h : IsHex c) : UpperHex c.toUpper ∧
    c.toUpper = if UpperHex c then c else Char.ofNat (c.toNat - 32) := by
  have hlt : c.toNat < 103 := by
    rcases h with (h | h) | h <;> exact Nat.lt_of_le_of_lt h.2 (by decide)
  -- ASCII as far as `f`, one character after the other
  have hall : ∀ n < 103, IsHex (Char.ofNat n) → UpperHex (Char.ofNat n).toUpper ∧
      (Char.ofNat n).toUpper =
        if UpperHex (Char.ofNat n) then Char.ofNat n else Char.ofNat ((Char.ofNat n).toNat - 32) := by
    decide +kernel
  simpa only [Char.ofNat_toNat] using hall c.toNat hlt (by rwa [Char.ofNat_toNat])

theorem toUpper_upper (h : UpperHex c) : c.toUpper = c := (hex_spec (.inl h)).2.trans (if_pos h)

/-! ### Texts -/

/-- The digits are found, and nothing else but separators is let through. -/
theorem macDigits_eq_some : macDigits cs = some h ↔
    (∀ c ∈ cs, IsHex c ∨ Separator c) ∧ (cs.filter IsHex).map Char.toUpper = h := by
  induction cs generalizing h with
  | nil => simp [macDigits]
  | cons c cs ih =>
    rw [macDigits]
    split
    · rename_i hupper
      have hhex : IsHex c := .inl hupper
      simp [ih, hhex, toUpper_upper hupper]
    rename_i hupper
    split
    · rename_i hlower
      have hhex : IsHex c := .inr hlower
      simp [ih, hhex, (hex_spec hhex).2.trans (if_neg hupper)]
    rename_i hlower
    have hhex : ¬ IsHex c := not_or.mpr ⟨hupper, hlower⟩
    split
    · rename_i hsep
      have hsep : Separator c := hsep
      simp [ih, hhex, hsep]
    · rename_i hsep
      have hsep : ¬ Separator c := hsep
      simp [hhex, hsep]

theorem NormaliseMAC_eq_some {s out : String} : NormaliseMAC s = some out ↔
    (∀ c ∈ s.toList, IsHex c ∨ Separator c) ∧ (hexDigits s).length = 12 ∧
      String.ofList (colonPairs ((hexDigits s).map Char.toUpper)) = out := by
  unfold NormaliseMAC
  cases hdigits : macDigits s.toList with
  | none =>
    refine iff_of_false (Option.some_ne_none _).symm fun h => ?_
    exact absurd (hdigits.symm.trans (macDigits_eq_some.mpr ⟨h.1, rfl⟩)) (Option.some_ne_none _).symm
  | some h =>
    obtain ⟨hall, rfl⟩ := macDigits_eq_some.mp hdigits
    simp only [and_iff_right hall, length_map, hexDigits, Option.ite_none_right_eq_some, Option.some.injEq]

/-- The digits of the pairs are the digits. -/
theorem colonPairs_spec (hh : ∀ c ∈ h, UpperHex c) :
    (colonPairs h).filter IsHex = h ∧ ∀ c ∈ colonPairs h, IsHex c ∨ Separator c := by
  have hcolon : ¬ IsHex ':' ∧ Separator ':' := by decide
  fun_induction colonPairs h with
  | case1 a b c rest ih =>
    obtain ⟨ha, hb, hrest⟩ : UpperHex a ∧ UpperHex b ∧ ∀ x ∈ c :: rest, UpperHex x := by simpa using hh
    obtain ⟨hfilter, hall⟩ := ih hrest
    have hax : IsHex a := .inl ha
    have hbx : IsHex b := .inl hb
    refine ⟨by simp [hfilter, hax, hbx, hcolon], ?_⟩
    simpa [hax, hbx, hcolon] using hall
  | case2 h =>
    have hhex : ∀ c ∈ h, IsHex c := fun c hc => .inl (hh c hc)
    exact ⟨filter_eq_self.mpr fun c hc => decide_eq_true (hhex c hc), fun c hc => .inl (hhex c hc)⟩

/-- Twelve digits are six pairs. -/
theorem colonPairs_groups (hlen : h.length = 12) (hh : ∀ c ∈ h, UpperHex c) :
    ∃ groups : List (List Char), groups.length = 6 ∧
      (∀ g ∈ groups, g.length = 2 ∧ ∀ c ∈ g, UpperHex c) ∧ colonPairs h = [':'].intercalate groups := by
  obtain ⟨a, b, c, d, e, f, g, i, j, k, l, m, rfl⟩ :
      ∃ a b c d e f g i j k l m, [a, b, c, d, e, f, g, i, j, k, l, m] = h := by
    simpa [length_eq_succ_iff] using hlen
  exact ⟨[[a, b], [c, d], [e, f], [g, i], [j, k], [l, m]], rfl, by simpa [and_assoc] using hh, rfl⟩

end

/-- An accepted text is made canonical once and for all, accepted are the spellings of twelve
    digits, and two of them are the same device if and only if their digits are. -/
theorem mac_canonical :
    (∀ s out, NormaliseMAC s = some out → NormaliseMAC out = some out ∧
      ∃ groups : List (List Char), groups.length = 6 ∧ (∀ g ∈ groups, g.length = 2 ∧ ∀ c ∈ g, UpperHex c) ∧
        out = String.ofList ([':'].intercalate groups)) ∧
    (∀ s, (NormaliseMAC s).isSome ↔ (hexDigits s).length = 12 ∧ ∀ c ∈ s.toList, IsHex c ∨ Separator c) ∧
    ∀ s t out out', NormaliseMAC s = some out → NormaliseMAC t = some out' →
      (out = out' ↔ (hexDigits s).map Char.toUpper = (hexDigits t).map Char.toUpper) := by
  have hupper : ∀ s, ∀ c ∈ (hexDigits s).map Char.toUpper, UpperHex c := by
    intro s c hc
    obtain ⟨x, hx, rfl⟩ := mem_map.mp hc
    exact (hex_spec (of_decide_eq_true (mem_filter.mp hx).2)).1
  refine ⟨fun s out h => ?_, fun s => ?_, fun s t out out' hs ht => ?_⟩
  · obtain ⟨-, hlen, rfl⟩ := NormaliseMAC_eq_some.mp h
    have hh := hupper s
    rw [← length_map Char.toUpper] at hlen
    generalize (hexDigits s).map Char.toUpper = h at hlen hh
    obtain ⟨hfilter, hall⟩ := colonPairs_spec hh
    refine ⟨NormaliseMAC_eq_some.mpr ?_, ?_⟩
    · rw [hexDigits, String.toList_ofList, hfilter, map_congr_left fun c hc => toUpper_upper (hh c hc), map_id']
      exact ⟨hall, hlen, rfl⟩
    · obtain ⟨groups, hlength, hgroups, hjoin⟩ := colonPairs_groups hlen hh
      exact ⟨groups, hlength, hgroups, congrArg String.ofList hjoin⟩
  · rw [Option.isSome_iff_exists]
    simp [NormaliseMAC_eq_some, and_comm]
  · obtain ⟨-, -, rfl⟩ := NormaliseMAC_eq_some.mp hs
    obtain ⟨-, -, rfl⟩ := NormaliseMAC_eq_some.mp ht
    refine ⟨fun h => ?_, fun h => by rw [h]⟩
    rw [← (colonPairs_spec (hupper s)).1, String.ofList_inj.mp h, (colonPairs_spec (hupper t)).1]

end IspBss.Radius
