import IspBss.Radius.Eap

/-! Which bits of the hash are in the keys?

        seven octets   aaaaaaaa bbbbbbbb cccccccc …
        the key        aaaaaaa· abbbbbb· bbccccc· …        (· is the parity bit, skipped by DES)

    A shift that is off by one would still agree with itself, and with no supplicant. Read without the
    parity bits, a key is the seven octets it was made from, in order. -/

namespace IspBss.Radius

open List

/-- The bits of an octet, the highest first. -/
def bits (b : UInt8) : List Bool := (range 8).map b.toBitVec.getMsbD

/-- The bits of an octet of a key that DES reads. -/
def upperSeven (b : UInt8) : List Bool := (bits b).take 7

theorem upperSeven_desKeyFromSeven : ∀ {k7 : List UInt8}, k7.length = 7 →
    (desKeyFromSeven k7).flatMap upperSeven = k7.flatMap bits
  | [_, _, _, _, _, _, _], _ => by
    -- an octet of the key is two neighbours or-ed, and at each bit one of the two is zero
    simp [desKeyFromSeven, upperSeven, bits, range_succ_eq_map, BitVec.getMsbD_or]

/-- The keys cut from the hash, the last of them padded. -/
def desKeys (ntHash : List UInt8) : List (List UInt8) :=
  [0, 1, 2].map fun i => desKeyFromSeven (((ntHash ++ replicate 5 0).drop (i * 7)).take 7)

theorem challengeResponse_desKeys (K : Crypto) {challenge ntHash : List UInt8}
    (hchallenge : challenge.length = 8) (hhash : ntHash.length = 16) :
    challengeResponse K challenge ntHash =
      .ok ((desKeys ntHash).flatMap fun key => (K.desEncrypt key challenge).1) := by
  simp [challengeResponse, desKeys, hchallenge, hhash]

theorem upperSeven_desKeys {ntHash : List UInt8} (h : ntHash.length = 16) :
    (desKeys ntHash).flatMap (flatMap upperSeven) = ntHash.flatMap bits ++ replicate 40 false := by
  have hpadded : (ntHash ++ replicate 5 0).length = 21 := by simp [h]
  have hzero : (replicate 5 (0 : UInt8)).flatMap bits = replicate 40 false := by decide
  rw [← hzero, ← flatMap_append, desKeys]
  generalize ntHash ++ replicate 5 0 = padded at hpadded ⊢
  have hcut : padded = padded.take 7 ++ (padded.drop 7).take 7 ++ (padded.drop 14).take 7 := by
    rw [← take_add, ← take_add, take_of_length_le hpadded.le]
  have hseven : ∀ i, i ≤ 2 → ((padded.drop (i * 7)).take 7).length = 7 := fun i hi => by
    rw [length_take, length_drop, hpadded]
    omega
  conv_rhs => rw [hcut, flatMap_append, flatMap_append]
  simp only [map_cons, map_nil, flatMap_cons, flatMap_nil, append_nil, ← append_assoc]
  rw [upperSeven_desKeyFromSeven (hseven 0 (by decide)), upperSeven_desKeyFromSeven (hseven 1 (by decide)),
    upperSeven_desKeyFromSeven (hseven 2 (by decide))]
  rfl

/-- A key carries its seven octets bit by bit, and the three keys of a response carry the hash and then
    zeros. -/
theorem des_keys_carry_hash :
    (∀ k7 : List UInt8, k7.length = 7 →
      (desKeyFromSeven k7).length = 8 ∧ (desKeyFromSeven k7).flatMap upperSeven = k7.flatMap bits) ∧
    ∀ (K : Crypto) (challenge ntHash : List UInt8), challenge.length = 8 → ntHash.length = 16 →
      challengeResponse K challenge ntHash =
        .ok ((desKeys ntHash).flatMap fun key => (K.desEncrypt key challenge).1) ∧
      (desKeys ntHash).flatMap (flatMap upperSeven) = ntHash.flatMap bits ++ replicate 40 false :=
  ⟨fun _ h => ⟨rfl, upperSeven_desKeyFromSeven h⟩, fun K _ _ hchallenge hhash =>
    ⟨challengeResponse_desKeys K hchallenge hhash, upperSeven_desKeys hhash⟩⟩

end IspBss.Radius
