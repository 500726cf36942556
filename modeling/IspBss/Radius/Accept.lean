import IspBss.Nas.Vendors
import IspBss.Radius.Network

/-! The rate in an Access-Accept.

    PAP and MAB go through `applyRateLimit`. The end of an EAP conversation builds its accept itself:

        PAP   GetSubscriberByUsername ─┐
        MAB   AuthorizeMAC ────────────┴▶ effectiveRateLimit ─┐
        EAP   GetSubscriberByUsername ──▶ eapRateLimit ───────┴▶ BuildAcceptAttrs

    Attributes that cannot be built are left out; the accept is sent without them. -/

namespace IspBss.Radius

open Nas

/-- The rate an accept or a CoA should carry: an override that has not run out, then the throttled
    rate, then the rate of the plan. -/
def effectiveRateLimit (now : Time) (sub : Subscriber) : String :=
  if sub.speedOverrideRateLimit ≠ "" ∧
      (sub.speedOverrideExpiresAt = none ∨ sub.speedOverrideExpiresAt.any (now < ·)) then
    sub.speedOverrideRateLimit
  else if sub.fupActive = true ∧ sub.fupThrottle ≠ "" then sub.fupThrottle
  else sub.rateLimitStr

/-- The choice made in `eapFinish`. -/
def eapRateLimit (sub : Subscriber) : String :=
  if sub.fupActive = true ∧ sub.fupThrottle ≠ "" then sub.fupThrottle else sub.rateLimitStr

variable (resolver : Option Resolver)

/-- The bandwidth attributes of an accept to the NAS at this address. -/
def acceptAttrs (remoteAddr : String) (planID : ℤ) (rateLimit : String) :
    List Attr :=
  let (vendor, profileName) := profileAt resolver remoteAddr planID
  match BuildAcceptAttrs vendor ⟨rateLimit, profileName⟩ with
  | .ok attrs => attrs
  | .error _ => []

/-- `applyRateLimit`. -/
def applyRateLimit (now : Time) (sub : Subscriber) (remoteAddr : String) :
    List Attr :=
  acceptAttrs resolver remoteAddr sub.planID (effectiveRateLimit now sub)

end IspBss.Radius
