import IspBss.Props.SessionIsolation
import IspBss.Radius.Accept

/-! Do the four ways to a rate agree?

        PAP   the row of the subscriber           effectiveRateLimit
        MAB   what `AuthorizeMAC` fills in        effectiveRateLimit
        EAP   the row of the subscriber           eapRateLimit
        CoA   the row of the subscriber           the CASE of the statement

    Only PAP and CoA see the override: MAB does not select its columns, and EAP does not read them. All
    four agree on the rate without one. -/

namespace IspBss.Radius

open Lib FUPStore Option Directory

/-! ### The rate that is due -/

/-- The override of a subscriber, unless it has run out. -/
def overrideInForce (now : Time) (sub : Profile) : Option String :=
  sub.speedOverrideRateLimit.filter fun _ => sub.speedOverrideExpiresAt.all (now < ·)

/-- An override in force, or else what the plan says. -/
def dueRate (now : Time) (sub : Profile) (p : RatePlan) : String :=
  (overrideInForce now sub).getD (shapedRate sub p)

variable {now : Time} {p : RatePlan} {sub : Profile}

theorem dueRate_eq_shapedRate_iff :
    shapedRate sub p = dueRate now sub p ↔ ∀ rate ∈ overrideInForce now sub, rate = shapedRate sub p := by
  rw [dueRate]
  cases overrideInForce now sub with
  | none => simp
  | some rate => simp [eq_comm]

theorem unexpired_iff {e : Option Time} : e = none ∨ e.any (now < ·) = true ↔ e.all (now < ·) = true := by
  cases e with
  | none => simp
  | some t => simp

/-- A CoA always carries the rate that is due. -/
theorem sessionRate_eq_dueRate (now : Time) (sub : Profile) (p : RatePlan) :
    sessionRate now sub p = dueRate now sub p := by
  rw [sessionRate, dueRate, overrideInForce]
  cases sub.speedOverrideRateLimit with
  | none => rfl
  | some rate =>
    simp only [unexpired_iff, filter_some]
    split <;> rfl

/-! ### What the paths know of a subscriber -/

/-- The row with the plan joined to it, as PAP and EAP read it. -/
def Profile.joined (id : ℤ) (s : Profile) (p : RatePlan) : Subscriber where
  id := id
  username := s.username
  passwordHash := s.passwordHash
  status := s.status
  rateLimitStr := p.rateLimitString
  fupActive := s.fupActive
  fupThrottle := p.fupThrottleString.getD ""
  speedOverrideRateLimit := s.speedOverrideRateLimit.getD ""
  speedOverrideExpiresAt := s.speedOverrideExpiresAt
  planID := s.planID
  ntHash := s.ntHash
  volumeGB := p.volumeGB

variable {d : Directory} {x : Subscriber} {username : String}

theorem getSubscriberByUsername_eq_some (h : d.GetSubscriberByUsername username = some x) :
    ∃ id s p, d.subscribers.lookup id = some s ∧ d.plans.lookup s.planID = some p ∧ x = s.joined id p := by
  simp only [GetSubscriberByUsername, bind_eq_bind, bind_eq_some_iff] at h
  obtain ⟨⟨id, s⟩, hfind, p, hplan, h⟩ := h
  cases h
  exact ⟨id, s, p, AList.mem_lookup_iff.mpr (List.mem_of_find?_eq_some hfind), hplan, rfl⟩

/-- `username` is UNIQUE. -/
def Directory.UniqueUsernames (d : Directory) : Prop :=
  ∀ ⦃i s j t⦄, d.subscribers.lookup i = some s → d.subscribers.lookup j = some t →
    s.username = t.username → i = j

/-- So a subscriber is found under the name in the row. -/
theorem Directory.UniqueUsernames.find (hd : d.UniqueUsernames) {id : ℤ} {s : Profile} (hsub : d.subscribers.lookup id = some s) (hplan : d.plans.lookup s.planID = some p) :
    d.GetSubscriberByUsername s.username = some (s.joined id p) := by
  have hfind : d.subscribers.entries.find? (fun x => x.2.username = s.username) = some ⟨id, s⟩ := by
    cases hf : d.subscribers.entries.find? (fun x => x.2.username = s.username) with
    | none =>
      have hnone := List.find?_eq_none.mp hf ⟨id, s⟩ (AList.mem_lookup_iff.mp hsub)
      simp at hnone
    | some x =>
      obtain ⟨j, t⟩ := x
      have hmem := AList.mem_lookup_iff.mpr (List.mem_of_find?_eq_some hf)
      have hname : t.username = s.username := by simpa using List.find?_some hf
      obtain rfl := hd hmem hsub hname
      rw [hsub] at hmem
      cases hmem
      rfl
  simp only [GetSubscriberByUsername, hfind, bind_eq_bind, bind_some, hplan]
  rfl

variable {mac : String} {nasID : ℤ}

theorem deviceMatch_eq_some (h : d.deviceMatch mac nasID = some x) :
    ∃ id s p, d.subscribers.lookup id = some s ∧ d.plans.lookup s.planID = some p ∧
      x = macSubscriber id s.username s.passwordHash s.status s.planID p s.fupActive := by
  simp only [deviceMatch, bind_eq_bind, bind_eq_some_iff] at h
  obtain ⟨dev, -, h⟩ := h
  split at h
  · simp only [bind_eq_some_iff] at h
    obtain ⟨s, hs, p, hp, h⟩ := h
    cases h
    exact ⟨dev.subscriberID, s, p, hs, hp, rfl⟩
  · cases h

/-- The row of the subscriber has the status and the password of the record. -/
def Directory.Holds (d : Directory) (x : Subscriber) : Prop :=
  ∃ s, d.subscribers.lookup x.id = some s ∧ s.status = x.status ∧ s.passwordHash = x.passwordHash

theorem Directory.holds_username (h : d.GetSubscriberByUsername username = some x) : d.Holds x := by
  obtain ⟨id, s, p, hrow, -, rfl⟩ := getSubscriberByUsername_eq_some h
  exact ⟨s, hrow, rfl, rfl⟩

theorem Directory.holds_grant (d : Directory) (g : Grant) (p : RatePlan) :
    d.Holds (d.grantSubscriber g p) ∨
      (d.grantSubscriber g p).id = 0 ∧ (d.grantSubscriber g p).passwordHash = "" := by
  rw [grantSubscriber]
  split
  · rename_i id s hfound
    obtain ⟨_, -, hrow⟩ := bind_eq_some_iff.mp hfound
    obtain ⟨_, hs, heq⟩ := map_eq_some_iff.mp hrow
    cases heq
    exact Or.inl ⟨s, hs, rfl, rfl⟩
  · exact Or.inr ⟨rfl, rfl⟩

/-- A device or a grant stands for the subscriber it belongs to, or for nobody. -/
theorem Directory.holds_mac
    (h : d.AuthorizeMAC mac nasID now = some x) : d.Holds x ∨ x.id = 0 ∧ x.passwordHash = "" := by
  rw [AuthorizeMAC] at h
  cases hdevice : d.deviceMatch mac nasID with
  | some y =>
    rw [hdevice] at h
    cases h
    obtain ⟨id, s, p, hrow, -, rfl⟩ := deviceMatch_eq_some hdevice
    exact Or.inl ⟨s, hrow, rfl, rfl⟩
  | none =>
    rw [hdevice] at h
    obtain ⟨⟨g, p⟩, -, hx⟩ := bind_eq_some_iff.mp (show d.grantMatch mac nasID now = some x from h)
    cases hx
    exact d.holds_grant g p

/-! ### What the paths select -/

theorem eapRateLimit_joined (id : ℤ) (s : Profile) (p : RatePlan) :
    eapRateLimit (s.joined id p) = shapedRate s p := rfl

/-- An empty text is no override to PAP. -/
theorem effectiveRateLimit_joined (now : Time) (id : ℤ) (s : Profile) (p : RatePlan) :
    effectiveRateLimit now (s.joined id p) = ((overrideInForce now s).filter (· ≠ "")).getD (shapedRate s p) := by
  rw [effectiveRateLimit, ← eapRateLimit, eapRateLimit_joined, overrideInForce]
  simp only [Profile.joined, unexpired_iff]
  cases s.speedOverrideRateLimit with
  | none => simp
  | some rate =>
    by_cases hempty : rate = "" <;> by_cases hexp : s.speedOverrideExpiresAt.all (now < ·) = true <;>
      simp [hempty, hexp, Option.filter]

theorem effectiveRateLimit_mac (now : Time) (id : ℤ) (s : Profile) (p : RatePlan) :
    effectiveRateLimit now
      (macSubscriber id s.username s.passwordHash s.status s.planID p s.fupActive) =
      shapedRate s p := by
  rfl

/-- A rate that one of the paths selects for a subscriber, at a moment and from one state. -/
inductive Selects (net : Network) (now : Time) (id : ℤ) : String → Prop
  | pap {username : String} {x : Subscriber}
      (found : net.directory.GetSubscriberByUsername username = some x) (is : x.id = id) :
      Selects net now id (effectiveRateLimit now x)
  | mab {mac : String} {nasID : ℤ} {x : Subscriber} (registered : net.directory.deviceMatch mac nasID ≠ none)
      (found : net.directory.AuthorizeMAC mac nasID now = some x) (is : x.id = id) :
      Selects net now id (effectiveRateLimit now x)
  | eap {username : String} {x : Subscriber}
      (found : net.directory.GetSubscriberByUsername username = some x) (is : x.id = id) :
      Selects net now id (eapRateLimit x)
  | coa (order : List ℤ → List ℤ) {sess : NASSession}
      (found : GetSubscriberNASSession order now id net = .ok sess) : Selects net now id sess.rateLimit

theorem authorizeMAC_registered
    (h : d.deviceMatch mac nasID ≠ none) : d.AuthorizeMAC mac nasID now = d.deviceMatch mac nasID := by
  rw [AuthorizeMAC]
  cases hd : d.deviceMatch mac nasID with
  | none => exact absurd hd h
  | some x => rfl

theorem getSubscriberNASSession_rate {order : List ℤ → List ℤ} {id : ℤ} {net : Network} {sess : NASSession}
    (hsub : net.directory.subscribers.lookup id = some sub)
    (hplan : net.directory.plans.lookup sub.planID = some p)
    (h : GetSubscriberNASSession order now id net = .ok sess) : sess.rateLimit = sessionRate now sub p := by
  simp only [GetSubscriberNASSession, hsub, hplan] at h
  split at h
  · cases h
  · cases h
    rfl

section Paths

variable {net : Network} {now : Time} {id : ℤ} {sub : Profile} {p : RatePlan}

/-- What each path selects, in terms of the row and the plan. -/
theorem Selects.cases_row (hsub : net.directory.subscribers.lookup id = some sub)
    (hplan : net.directory.plans.lookup sub.planID = some p) {rate : String} (h : Selects net now id rate) :
    rate = shapedRate sub p ∨ rate = dueRate now sub p ∨
      rate = ((overrideInForce now sub).filter (· ≠ "")).getD (shapedRate sub p) := by
  cases h with
  | pap found is =>
    obtain ⟨_, s, q, hs, hq, rfl⟩ := getSubscriberByUsername_eq_some found
    cases is
    cases hsub.symm.trans hs
    cases hplan.symm.trans hq
    exact .inr (.inr (effectiveRateLimit_joined ..))
  | mab registered found is =>
    rw [authorizeMAC_registered registered] at found
    obtain ⟨_, s, q, hs, hq, rfl⟩ := deviceMatch_eq_some found
    cases is
    cases hsub.symm.trans hs
    cases hplan.symm.trans hq
    exact .inl (effectiveRateLimit_mac ..)
  | eap found is =>
    obtain ⟨_, s, q, hs, hq, rfl⟩ := getSubscriberByUsername_eq_some found
    cases is
    cases hsub.symm.trans hs
    cases hplan.symm.trans hq
    exact .inl rfl
  | coa order found =>
    rw [getSubscriberNASSession_rate hsub hplan found]
    exact .inr (.inl (sessionRate_eq_dueRate ..))

/-- Every path selects the rate that is due exactly if no override is in force, or one that makes no
    difference. -/
theorem every_path_selects_dueRate_iff (hd : net.directory.UniqueUsernames)
    (hsub : net.directory.subscribers.lookup id = some sub)
    (hplan : net.directory.plans.lookup sub.planID = some p) :
    (∀ rate, Selects net now id rate → rate = dueRate now sub p) ↔
      ∀ rate ∈ overrideInForce now sub, rate = shapedRate sub p := by
  constructor
  · intro h
    -- EAP is open to every subscriber and does not know of overrides
    exact dueRate_eq_shapedRate_iff.mp (h _ (.eap (hd.find hsub hplan) rfl))
  · intro h rate hrate
    have hdue := dueRate_eq_shapedRate_iff.mpr h
    rcases Selects.cases_row hsub hplan hrate with hrate | hrate | hrate
    · exact hrate.trans hdue
    · exact hrate
    · rw [hrate, ← hdue]
      cases ho : overrideInForce now sub with
      | none => rfl
      | some r =>
        obtain rfl := h r ho
        by_cases hempty : shapedRate sub p = "" <;> simp [Option.filter, hempty]

end Paths

variable (expiresAt : Time)

def Profile.boosted : Profile :=
  { Profile.named "ann" with
      speedOverrideRateLimit := some "200M/200M", speedOverrideExpiresAt := some expiresAt }

/-- One subscriber with an override, a registered device and an open session. -/
def boosted : Network where
  directory :=
    { subscribers := (∅ : Rows ℤ Profile).insert 1 (.boosted expiresAt)
      plans := (∅ : Rows ℤ RatePlan).insert 1 smallPlan
      devices := (∅ : Rows String HotspotDevice).insert "AA:BB:CC:DD:EE:FF" ⟨1, none, true⟩
      grants := [] }
  grantUsage := ∅
  sessions := [newSession 1 "sess-1" "10.0.0.1" "" "" 0]
  acctDedup := .empty

theorem boosted_uniqueUsernames : (boosted expiresAt).directory.UniqueUsernames := by
  have hone : ∀ {i s}, (boosted expiresAt).directory.subscribers.lookup i = some s → i = 1 := by
    intro i s h
    by_contra hne
    rw [boosted, AList.lookup_insert_ne hne] at h
    cases h
  intro i s j t hi hj _
  rw [hone hi, hone hj]

/-- Once the override has run out, all four agree. -/
theorem expired_override_agrees :
    dueRate 7 (.boosted 5) smallPlan = "100M/100M" ∧
      ∀ rate, Selects (boosted 5) 7 1 rate → rate = dueRate 7 (.boosted 5) smallPlan := by
  have hnone : ∀ rate ∈ overrideInForce 7 (.boosted 5), rate = shapedRate (.boosted 5) smallPlan := by
    decide +kernel
  exact ⟨by decide +kernel, (every_path_selects_dueRate_iff (boosted_uniqueUsernames 5) rfl rfl).mpr hnone⟩

/-- Until then PAP and the CoA apply it, and MAB and EAP do not. -/
theorem unexpired_override_disagrees :
    ((boosted 5).directory.GetSubscriberByUsername "ann").map (effectiveRateLimit 3) = some "200M/200M" ∧
      ((boosted 5).directory.AuthorizeMAC "AA:BB:CC:DD:EE:FF" 1 3).map (effectiveRateLimit 3) =
        some "100M/100M" ∧
      ((boosted 5).directory.GetSubscriberByUsername "ann").map eapRateLimit = some "100M/100M" ∧
      (GetSubscriberNASSession id 3 1 (boosted 5)).map (·.rateLimit) = .ok "200M/200M" := by
  decide +kernel

end IspBss.Radius
