import IspBss.Fup.Commands

/-! Does a throttled session get another CoA than a full-rate one?

    A builder reads one half of the profile: the rate, or the name of the policy. The name comes from
    the plan and the vendor, and a throttled subscriber is still on its plan. So on the vendors that take
    names the CoA of a breach repeats what the accept has said. -/

namespace IspBss.Nas

open Lib List

/-! ### What the bytes determine -/

variable {s : String} {t : String}

theorem octets_injective (h : octets s = octets t) : s = t := by
  apply String.toByteArray_inj.mp
  have hdata := congrArg toArray h
  simpa [octets, ByteArray.ext_iff] using hdata

theorem uint32BE_injective {v w : UInt32} (h : uint32BE v = uint32BE w) : v = w := by
  have hvalue : ∀ u : UInt32, u.toNat = (u >>> 24).toUInt8.toNat * 2 ^ 24 +
      (u >>> 16).toUInt8.toNat * 2 ^ 16 + (u >>> 8).toUInt8.toNat * 2 ^ 8 + u.toUInt8.toNat := by
    intro u
    have hu := u.toNat_lt
    simp
    omega
  simp only [uint32BE, cons.injEq, and_true] at h
  obtain ⟨h₁, h₂, h₃, h₄⟩ := h
  rw [← UInt32.toNat_inj, hvalue v, hvalue w, h₁, h₂, h₃, h₄]

variable {vendorID : UInt32} {a : Attr} {v w : List UInt8}

theorem vendorSpecific_ok {value : List UInt8}
    (h : vendorSpecific vendorID value = .ok a) : a = ⟨26, uint32BE vendorID ++ value⟩ := by
  by_cases hlen : 249 < value.length
  · rw [vendorSpecific, NewVendorSpecific, if_pos hlen] at h
    cases h
  · rw [vendorSpecific, NewVendorSpecific, if_neg hlen] at h
    cases h
    rfl

theorem vendorSpecific_injective
    (hv : vendorSpecific vendorID v = .ok a) (hw : vendorSpecific vendorID w = .ok a) : v = w := by
  have h := (vendorSpecific_ok hv).symm.trans (vendorSpecific_ok hw)
  simpa using h

theorem buildVendorSubAttr_injective {subType : UInt8}
    (hv : buildVendorSubAttr vendorID subType v = .ok a)
    (hw : buildVendorSubAttr vendorID subType w = .ok a) : v = w := by
  simp only [buildVendorSubAttr] at hv hw
  split at hv
  · cases hv
  · split at hw
    · cases hw
    · have h := vendorSpecific_injective hv hw
      exact (cons.inj (cons.inj h).2).2

/-! ### The vendors -/

/-- The vendor is told the rate itself. -/
def Vendor.TakesRate : Vendor → Prop
  | .mikrotik | .huawei | .zte | .other _ => True
  | .cisco | .juniper | .ciscoWLC | .aruba | .ruckus => False

instance : DecidablePred Vendor.TakesRate := fun v => by
  cases v <;> unfold Vendor.TakesRate <;> infer_instance

/-- Different rates are different bytes: the builder of such a vendor loses nothing of the pair. -/
def TellsRates (attrs : String → Except BuildErr (List Attr)) : Prop :=
  ∀ {s t : String} {r q : UInt32 × UInt32} {a : List Attr}, parseRateLimitString s = .ok r →
    parseRateLimitString t = .ok q → attrs s = .ok a → attrs t = .ok a → r = q

variable {a : List Attr} {r : UInt32 × UInt32}

theorem mikrotikRateLimitAttrs_ok (h : mikrotikRateLimitAttrs s = .ok a) :
    ∃ len attr, vendorSpecific 14988 (8 :: len :: octets s) = .ok attr ∧ a = [attr] := by
  rw [mikrotikRateLimitAttrs] at h
  split at h
  · cases h
  · obtain ⟨attr, hattr, h⟩ := except_bind_ok.mp h
    cases h
    exact ⟨_, attr, hattr, rfl⟩

theorem mikrotik_tellsRates : TellsRates mikrotikRateLimitAttrs := by
  intro s t r q a hs ht has hat
  obtain ⟨len, attr, hv, rfl⟩ := mikrotikRateLimitAttrs_ok has
  obtain ⟨len', attr', hw, heq⟩ := mikrotikRateLimitAttrs_ok hat
  obtain rfl : attr = attr' := by simpa using heq
  have hbytes := vendorSpecific_injective hv hw
  obtain rfl := octets_injective (cons.inj (cons.inj hbytes).2).2
  rw [hs] at ht
  exact Except.ok.inj ht

theorem averageRateAttrs_ok {inputType outputType : UInt8} (hs : parseRateLimitString s = .ok r)
    (h : averageRateAttrs vendorID inputType outputType s = .ok a) :
    ∃ input output, buildVendorSubAttr vendorID inputType (uint32BE r.1) = .ok input ∧
      buildVendorSubAttr vendorID outputType (uint32BE r.2) = .ok output ∧ a = [input, output] := by
  rw [averageRateAttrs, hs] at h
  obtain ⟨_, ⟨⟩, h⟩ := except_bind_ok.mp h
  obtain ⟨input, hinput, h⟩ := except_bind_ok.mp h
  obtain ⟨output, houtput, h⟩ := except_bind_ok.mp h
  cases h
  exact ⟨input, output, hinput, houtput, rfl⟩

theorem averageRate_tellsRates (vendorID : UInt32) (inputType outputType : UInt8) :
    TellsRates (averageRateAttrs vendorID inputType outputType) := by
  intro s t r q a hs ht has hat
  obtain ⟨input, output, hin, hout, rfl⟩ := averageRateAttrs_ok hs has
  obtain ⟨input', output', hin', hout', heq⟩ := averageRateAttrs_ok ht hat
  obtain ⟨rfl, rfl⟩ : input = input' ∧ output = output' := by simpa using heq
  exact Prod.ext (uint32BE_injective (buildVendorSubAttr_injective hin hin'))
    (uint32BE_injective (buildVendorSubAttr_injective hout hout'))

/-- Two profiles of one policy: the CoAs differ exactly on a vendor that is told the rate. -/
theorem buildCoAAttrs_ne_iff {vendor : Vendor} {policy : String} {q : UInt32 × UInt32}
    {b : List Attr} (hs : parseRateLimitString s = .ok r) (ht : parseRateLimitString t = .ok q)
    (hne : r ≠ q) (ha : BuildCoAAttrs vendor ⟨s, policy⟩ = .ok a)
    (hb : BuildCoAAttrs vendor ⟨t, policy⟩ = .ok b) : a ≠ b ↔ vendor.TakesRate := by
  -- such a builder does not look at the rate
  have named : ∀ attrs : String → Except BuildErr (List Attr), attrs policy = .ok a →
      attrs policy = .ok b → a = b := fun _ h h' => Except.ok.inj (h.symm.trans h')
  have told : ∀ {attrs : String → Except BuildErr (List Attr)}, TellsRates attrs → attrs s = .ok a →
      attrs t = .ok b → a ≠ b := by
    rintro attrs htells h h' rfl
    exact hne (htells hs ht h h')
  cases vendor with
  | mikrotik => exact iff_of_true (told mikrotik_tellsRates ha hb) trivial
  | huawei => exact iff_of_true (told (averageRate_tellsRates 2011 24 25) ha hb) trivial
  | zte => exact iff_of_true (told (averageRate_tellsRates 3902 201 202) ha hb) trivial
  | other name => exact iff_of_true (told mikrotik_tellsRates ha hb) trivial
  | cisco => exact iff_of_false (not_not_intro (named ciscoAVPairAttrs ha hb)) id
  | juniper => exact iff_of_false (not_not_intro (named juniperFilterAttrs ha hb)) id
  | ciscoWLC => exact iff_of_false (not_not_intro (named (wirelessProfileAttrs "cisco_wlc" 14179 2) ha hb)) id
  | aruba => exact iff_of_false (not_not_intro (named (wirelessProfileAttrs "aruba" 14823 1) ha hb)) id
  | ruckus => exact iff_of_false (not_not_intro (named (wirelessProfileAttrs "ruckus" 25053 1) ha hb)) id

end IspBss.Nas

namespace IspBss.Fup

open Radius Nas

/-! ### The CoA of a breach -/

/-- For the session of a subscriber at its full rate and at the throttled one, the CoAs differ exactly
    if the NAS is told the rate. -/
theorem CoAHandler.breach_changes_attrs_iff (h : CommandHandler) (sess : NASSession) (throttle : String)
    {full slow : UInt32 × UInt32} {a b : List Attr} (hfull : parseRateLimitString sess.rateLimit = .ok full)
    (hslow : parseRateLimitString throttle = .ok slow) (hne : full ≠ slow)
    (ha : attrs h sess = .ok a) (hb : attrs h { sess with rateLimit := throttle } = .ok b) :
    a ≠ b ↔ (profileAt h.nasResolver sess.nasIP sess.planID).1.TakesRate :=
  buildCoAAttrs_ne_iff hfull hslow hne ha hb

/-- The NAS at 10.0.0.1 is of this vendor, and plan 7 is set up on it as PLAN_100M. -/
def edgeHandler (vendor : Vendor) : CommandHandler where
  secret := []
  port := DefaultCoAPort
  nasResolver := some
    { byIP := AList.singleton "10.0.0.1" ⟨1, "10.0.0.1", vendor, [], 1700, 1700, false⟩
      planProfiles := AList.singleton (7, vendor) "PLAN_100M"
      defaultSecret := [], defaultCoAPort := 1700, defaultPoDPort := 1700 }
  liveSessions := false

/-- A session on plan 7 at its full rate. -/
def edgeSession : NASSession := ⟨"10.0.0.1", "sess-1", "100M/100M", 7⟩

theorem CoAHandler.huawei_breach_changes_attrs :
    ∃ a b, attrs (edgeHandler .huawei) edgeSession = .ok a ∧
      attrs (edgeHandler .huawei) { edgeSession with rateLimit := "10M/10M" } = .ok b ∧ a ≠ b := by
  have hfull : parseRateLimitString edgeSession.rateLimit = .ok (100000000, 100000000) := by
    decide +kernel
  have hslow : parseRateLimitString "10M/10M" = .ok (10000000, 10000000) := by decide +kernel
  obtain ⟨a, ha⟩ : ∃ a, attrs (edgeHandler .huawei) edgeSession = .ok a := ⟨_, rfl⟩
  obtain ⟨b, hb⟩ : ∃ b, attrs (edgeHandler .huawei) { edgeSession with rateLimit := "10M/10M" } = .ok b :=
    ⟨_, rfl⟩
  exact ⟨a, b, ha, hb, (breach_changes_attrs_iff (edgeHandler .huawei) edgeSession "10M/10M" hfull hslow
    (by decide) ha hb).mpr trivial⟩

/-- A Cisco is told the same name twice. -/
theorem CoAHandler.cisco_breach_repeats_attrs :
    parseRateLimitString edgeSession.rateLimit = .ok (100000000, 100000000) ∧
      parseRateLimitString "10M/10M" = .ok (10000000, 10000000) ∧
      ∃ a, attrs (edgeHandler .cisco) edgeSession = .ok a ∧
        attrs (edgeHandler .cisco) { edgeSession with rateLimit := "10M/10M" } = .ok a :=
  ⟨by decide +kernel, by decide +kernel, _, rfl, rfl⟩

end IspBss.Fup
