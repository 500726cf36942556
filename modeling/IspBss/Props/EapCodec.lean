import IspBss.Radius.Eap

/-! Do EAP packets survive being parsed and encoded?

        Code │ Identifier │ Length │ Type │ Data          Code │ Identifier │ Length   (Success, Failure)

    The parser asks that the declared length is the real one. In a Success or a Failure it reads no
    further than the header, whatever follows: of those only the bare ones are encoded to what was
    read. -/

namespace IspBss.Radius

open List

section
variable {b : List UInt8} {p : EAPPacket}

/-- Codes of packets that are a header and no more. -/
def HeaderOnly (code : UInt8) : Prop := code = EAPCodeSuccess ∨ code = EAPCodeFailure

theorem putUint16_toNat (hi lo : UInt8) : putUint16 (hi.toNat * 256 + lo.toNat) = [hi, lo] := by
  have hhi := hi.toNat_lt
  have hlo := lo.toNat_lt
  simp only [putUint16, cons.injEq, and_true, ← UInt8.toNat_inj, UInt8.toNat_ofNat']
  omega

/-- What is accepted is the header of the packet with the real length, and then its type and data. -/
theorem ParseEAP_ok (h : ParseEAP b = .ok p) :
    ∃ rest, b = [p.code, p.identifier] ++ putUint16 b.length ++ rest ∧
    (¬ HeaderOnly p.code → rest = p.typ :: p.data) := by
  unfold ParseEAP at h
  split at h
  · rename_i code identifier hi lo rest
    split at h
    · cases h
    rename_i hlen
    refine ⟨rest, ?_⟩
    rw [← not_not.mp hlen, putUint16_toNat]
    split at h
    · rename_i hcode
      cases h
      exact ⟨rfl, (absurd hcode ·)⟩
    · split at h
      · cases h
      · cases h
        exact ⟨rfl, fun _ => rfl⟩
  · cases h

/-- Encoding gives back what was parsed, unless octets behind a bare header were dropped. -/
theorem Encode_ParseEAP (h : ParseEAP b = .ok p) :
    p.Encode = b ↔ (HeaderOnly p.code → b.length = 4) := by
  obtain ⟨rest, hb, hrest⟩ := ParseEAP_ok h
  have hlen : b.length = 4 + rest.length := by
    rw [hb]
    simp [putUint16]
    omega
  by_cases hcode : HeaderOnly p.code
  · rw [show p.Encode = _ from if_pos hcode]
    refine ⟨fun heq _ => by rw [← heq]; rfl, fun hfour => ?_⟩
    have hnil : rest = [] := length_eq_zero_iff.mp (by have := hfour hcode; omega)
    rw [hb, hfour hcode, hnil, append_nil]
  · rw [show p.Encode = _ from if_neg hcode]
    refine iff_of_true ?_ (absurd · hcode)
    rw [hrest hcode, length_cons] at hlen
    rw [hb, hrest hcode, hlen, show 4 + (p.data.length + 1) = 5 + p.data.length by omega]

theorem ParseEAP_Encode (hlen : p.data.length ≤ 65530)
    (hbare : HeaderOnly p.code → p.typ = 0 ∧ p.data = []) :
    ParseEAP p.Encode = .ok p := by
  by_cases hcode : HeaderOnly p.code
  · obtain ⟨code, identifier, typ, data⟩ := p
    obtain ⟨rfl, rfl⟩ := hbare hcode
    rcases hcode with rfl | rfl <;> simp [EAPPacket.Encode, ParseEAP, putUint16]
  · rw [show p.Encode = _ from if_neg hcode]
    refine (if_neg (not_not.mpr ?_)).trans (if_neg hcode)
    simp only [UInt8.toNat_ofNat', length_append, length_cons, length_nil, putUint16]
    omega

end

/-- Parsing and encoding undo each other except for what follows the header of a Success or a
    Failure, and all that can be wrong with a response that was parsed is that it does not answer
    the challenge. -/
theorem eap_round_trips :
    (∀ b p, ParseEAP b = .ok p → (p.Encode = b ↔ (HeaderOnly p.code → b.length = 4))) ∧
    (∀ p : EAPPacket, p.data.length ≤ 65530 → (HeaderOnly p.code → p.typ = 0 ∧ p.data = []) →
      ParseEAP p.Encode = .ok p) ∧
    ∀ data resp, ParseMSCHAPv2Response data = .ok resp →
      resp.peerChallenge.length = 16 ∧ resp.ntResponse.length = 24 ∧
      ∀ (K : Crypto) (ntHash : List UInt8) (challenge : Challenge) (username : String) (err : MschapErr),
        ntHash.length = 16 →
        VerifyMSCHAPv2 K ntHash challenge.1 resp.peerChallenge resp.ntResponse username =
          .error err →
        err = .badNTResponse := by
  refine ⟨fun _ _ => Encode_ParseEAP, fun _ => ParseEAP_Encode, fun data resp h => ?_⟩
  obtain ⟨hpeer, hresponse⟩ := ParseMSCHAPv2Response_lengths h
  refine ⟨hpeer, hresponse, fun K ntHash challenge username err hhash hverify => ?_⟩
  rcases VerifyMSCHAPv2_error (.inr hhash) hpeer hresponse hverify with ⟨rfl, -⟩ | hbad
  · cases hhash
  · exact hbad

/-- A Success with an octet too many is accepted, and encoded without it. -/
theorem trailing_octet_dropped :
    ParseEAP [3, 1, 0, 5, 7] = .ok ⟨3, 1, 0, []⟩ ∧
      (EAPPacket.mk 3 1 0 []).Encode = [3, 1, 0, 4] := by
  decide

end IspBss.Radius
