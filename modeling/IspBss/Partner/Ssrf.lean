import Mathlib.Tactic

/-! Which addresses a webhook may not reach.

    One IPv4 address is written in three ways:

        a.b.c.d          4 bytes
        ::ffff:a.b.c.d   mapped: `To4` takes the first 12 bytes off again
        ::a.b.c.d        compatible: `To4` leaves it, `embeddedIPv4Compatible` looks inside

    The blocked networks of IPv4 hold for all three, and nothing else holds for the first two. -/

namespace IspBss.Ssrf

open List

/-! ### Addresses -/

/-- A `net.IP` that is not nil. -/
abbrev IP := List UInt8

def v4InV6 : IP := replicate 10 0 ++ [255, 255]

/-- `net.IPv4`. -/
def IPv4 (a b c d : UInt8) : IP := v4InV6 ++ [a, b, c, d]

def To4 (ip : IP) : Option IP :=
  if ip.length = 4 then some ip
  else if ip.length = 16 ∧ ip.take 12 = v4InV6 then some (ip.drop 12)
  else none

def To16 (ip : IP) : Option IP :=
  if ip.length = 4 then some (v4InV6 ++ ip) else if ip.length = 16 then some ip else none

def Equal (ip x : IP) : Bool :=
  if ip.length = x.length then ip = x
  else if ip.length = 4 ∧ x.length = 16 then x = v4InV6 ++ ip
  else if ip.length = 16 ∧ x.length = 4 then ip = v4InV6 ++ x
  else false

def IsLoopback (ip : IP) : Bool :=
  match To4 ip with
  | some ip4 => ip4[0]? = some 127
  | none => Equal ip (replicate 15 0 ++ [1])

def IsUnspecified (ip : IP) : Bool := Equal ip (IPv4 0 0 0 0) || Equal ip (replicate 16 0)

def IsLinkLocalUnicast (ip : IP) : Bool :=
  match To4 ip with
  | some ip4 => ip4[0]? = some 169 ∧ ip4[1]? = some 254
  | none => ip.length = 16 ∧ ip[0]? = some 0xfe ∧ ip[1]?.map (· &&& 0xc0) = some 0x80

def IsLinkLocalMulticast (ip : IP) : Bool :=
  match To4 ip with
  | some ip4 => ip4[0]? = some 224 ∧ ip4[1]? = some 0 ∧ ip4[2]? = some 0
  | none => ip.length = 16 ∧ ip[0]? = some 0xff ∧ ip[1]?.map (· &&& 0x0f) = some 0x02

/-! ### Networks -/

/-- `CIDRMask`, for so many bytes. -/
def CIDRMask : ℕ → ℕ → IP
  | 0, _ => []
  | bytes + 1, ones =>
    if 8 ≤ ones then 0xff :: CIDRMask bytes (ones - 8)
    else ~~~(0xff >>> UInt8.ofNat ones) :: CIDRMask bytes 0

structure IPNet where
  ip : IP
  ones : ℕ

def IPNet.Contains (n : IPNet) (ip : IP) : Bool :=
  let x := (To4 ip).getD ip
  let mask := CIDRMask n.ip.length n.ones
  x.length = n.ip.length ∧ zipWith (· &&& ·) n.ip mask = zipWith (· &&& ·) x mask

def blockedNets : List IPNet :=
  [⟨[0, 0, 0, 0], 8⟩, ⟨[10, 0, 0, 0], 8⟩, ⟨[100, 64, 0, 0], 10⟩, ⟨[127, 0, 0, 0], 8⟩,
    ⟨[169, 254, 0, 0], 16⟩, ⟨[172, 16, 0, 0], 12⟩, ⟨[192, 0, 0, 0], 24⟩, ⟨[192, 168, 0, 0], 16⟩,
    ⟨[198, 18, 0, 0], 15⟩, ⟨[224, 0, 0, 0], 4⟩, ⟨[240, 0, 0, 0], 4⟩, ⟨replicate 15 0 ++ [1], 128⟩,
    ⟨0xfc :: replicate 15 0, 7⟩, ⟨[0xfe, 0x80] ++ replicate 14 0, 10⟩,
    ⟨[0x20, 0x01, 0x0d, 0xb8] ++ replicate 12 0, 32⟩]

/-! ### The guard -/

/-- The last four bytes of an IPv4-compatible address. -/
def embeddedIPv4Compatible (ip : IP) : Option IP := do
  let ip16 ← To16 ip
  if (To4 ip).isSome ∨ ip16.take 10 ≠ replicate 10 0 then none
  else
    -- `::` and `::1` are addresses of their own
    if ip16.drop 12 = [0, 0, 0, 0] ∨ ip16.drop 12 = [0, 0, 0, 1] then none
    else some (v4InV6 ++ ip16.drop 12)

def IsBlockedIP : Option IP → Bool
  | none => true
  | some ip =>
    IsLoopback ip || IsUnspecified ip || IsLinkLocalUnicast ip || IsLinkLocalMulticast ip ||
      blockedNets.any (·.Contains ip) ||
      (embeddedIPv4Compatible ip).any fun v4 => blockedNets.any (·.Contains v4)

/-! ### The three forms -/

def mapped (ip : IP) : IP := v4InV6 ++ ip

def compatible (ip : IP) : IP := replicate 12 0 ++ ip

/-- The address is inside one of the blocked networks of IPv4. -/
def InBlockedIPv4 (ip : IP) : Prop := ∃ n ∈ blockedNets, n.ip.length = 4 ∧ n.Contains ip = true

variable {a b c d : UInt8} {ip : IP}

theorem Contains_of_To4 (h : To4 ip = some [a, b, c, d]) (n : IPNet) :
    n.Contains ip = n.Contains [a, b, c, d] := by
  rw [IPNet.Contains, h]
  rfl

theorem To4_mapped : To4 (mapped [a, b, c, d]) = some [a, b, c, d] := by
  simp [To4, mapped, v4InV6]

theorem any_Contains : blockedNets.any (·.Contains [a, b, c, d]) = true ↔ InBlockedIPv4 [a, b, c, d] := by
  rw [any_eq_true, InBlockedIPv4]
  refine exists_congr fun n => and_congr_right fun _ => ⟨fun h => ⟨?_, h⟩, And.right⟩
  simp only [IPNet.Contains, decide_eq_true_eq] at h
  exact h.1.symm

/-- The addresses with a predicate of their own are in the list as well. -/
theorem inBlocked_of_first (h : [a, b, c, d] = [0, 0, 0, 0] ∨ a = 127 ∨ (a = 169 ∧ b = 254) ∨
    (a = 224 ∧ b = 0 ∧ c = 0)) : InBlockedIPv4 [a, b, c, d] := by
  have hmask : ~~~(255 : UInt8) = 0 := rfl
  rw [← any_Contains]
  rcases h with h | rfl | ⟨rfl, rfl⟩ | ⟨rfl, rfl, rfl⟩
  · rw [h]
    decide
  all_goals simp [blockedNets, IPNet.Contains, To4, CIDRMask, hmask]

/-- An address that `To4` takes for IPv4. -/
theorem isBlocked_iff (h : To4 ip = some [a, b, c, d])
    (hzero : IsUnspecified ip = true → [a, b, c, d] = [0, 0, 0, 0]) :
    IsBlockedIP (some ip) = true ↔ InBlockedIPv4 [a, b, c, d] := by
  have hnone : embeddedIPv4Compatible ip = none := by
    unfold embeddedIPv4Compatible
    cases To16 ip <;> simp [h]
  simp only [IsBlockedIP, hnone, Option.any_none, Bool.or_false, Contains_of_To4 h, Bool.or_eq_true,
    any_Contains]
  refine ⟨?_, .inr⟩
  rintro ((((hfirst | hfirst) | hfirst) | hfirst) | hin)
  · exact inBlocked_of_first (.inr (.inl (by simpa [IsLoopback, h] using hfirst)))
  · exact inBlocked_of_first (.inl (hzero hfirst))
  · exact inBlocked_of_first (.inr (.inr (.inl (by simpa [IsLinkLocalUnicast, h] using hfirst))))
  · exact inBlocked_of_first (.inr (.inr (.inr (by simpa [IsLinkLocalMulticast, h] using hfirst))))
  · exact hin

theorem isBlocked_compatible (h : InBlockedIPv4 [a, b, c, d]) :
    IsBlockedIP (some (compatible [a, b, c, d])) = true := by
  by_cases hfirst : [a, b, c, d] = [0, 0, 0, 0] ∨ [a, b, c, d] = [0, 0, 0, 1]
  · -- `::` and `::1`
    rcases hfirst with hfirst | hfirst <;> rw [hfirst] <;> decide
  · have hembedded : embeddedIPv4Compatible (compatible [a, b, c, d]) = some (mapped [a, b, c, d]) := by
      have h16 : To16 (compatible [a, b, c, d]) = some (compatible [a, b, c, d]) := rfl
      have h4 : To4 (compatible [a, b, c, d]) = none := by simp [To4, compatible, v4InV6]
      have hlast : (compatible [a, b, c, d]).drop 12 = [a, b, c, d] := rfl
      have hzeros : (compatible [a, b, c, d]).take 10 = replicate 10 0 := rfl
      simp only [embeddedIPv4Compatible, h16, h4, hlast, hzeros, Option.bind_eq_bind, Option.bind_some]
      rw [if_neg (by simp), if_neg hfirst]
      rfl
    have hany : blockedNets.any (·.Contains (mapped [a, b, c, d])) = true := by
      simp only [Contains_of_To4 To4_mapped, any_Contains, h]
    rw [IsBlockedIP, hembedded, Option.any_some, hany, Bool.or_true]

/-- A blocked address is blocked in each of its forms; any other is let through in the two forms that reach
    it, and those two never differ. -/
theorem isBlockedIP_forms (a b c d : UInt8) :
    (InBlockedIPv4 [a, b, c, d] → IsBlockedIP (some [a, b, c, d]) = true ∧
      IsBlockedIP (some (mapped [a, b, c, d])) = true ∧ IsBlockedIP (some (compatible [a, b, c, d])) = true) ∧
    (¬ InBlockedIPv4 [a, b, c, d] → IsBlockedIP (some [a, b, c, d]) = false ∧
      IsBlockedIP (some (mapped [a, b, c, d])) = false) ∧
    IsBlockedIP (some (mapped [a, b, c, d])) = IsBlockedIP (some [a, b, c, d]) := by
  have hfour : IsBlockedIP (some [a, b, c, d]) = true ↔ InBlockedIPv4 [a, b, c, d] :=
    isBlocked_iff rfl fun h => by
      obtain ⟨rfl, rfl, rfl, rfl⟩ : 0 = a ∧ 0 = b ∧ 0 = c ∧ 0 = d := by
        simpa [IsUnspecified, Equal, IPv4, v4InV6] using h
      rfl
  have hmapped : IsBlockedIP (some (mapped [a, b, c, d])) = true ↔ InBlockedIPv4 [a, b, c, d] :=
    isBlocked_iff To4_mapped fun h => by simpa [IsUnspecified, Equal, IPv4, mapped, v4InV6] using h
  refine ⟨fun h => ⟨hfour.mpr h, hmapped.mpr h, isBlocked_compatible h⟩, fun h => ?_, ?_⟩
  · rw [← Bool.not_eq_true, ← Bool.not_eq_true, hfour, hmapped]
    exact ⟨h, h⟩
  · rw [Bool.eq_iff_iff, hfour, hmapped]

end IspBss.Ssrf
