import IspBss.Props.DunningSteps
import IspBss.Props.RenewalRecords

/-! Is a subscriber served who has paid for a running cycle?

    The portal moves `plan_expiry` and nothing else. Whether the status follows is left to the
    scanners, and neither looks at the payment:

        billing   lists expired cycles             a running one is left alone
        dunning   lists a stage other than active,
                  or at most seven days left       writes the status of the stage it moves to

    So after the next pass of both the subscriber is served exactly when its status was served before
    the payment, or its dunning stage is one that the expiry date moves. -/

namespace IspBss

open Lib Prog Option BillingStore SubscriberRow RecurringBillingScanner Subscriber

/-- The state a pass of the billing scanner at `t` leads to. -/
def billingPass (t : Time) (s : DB) : DB := (run exec (.at t) Scan s).2

/-- The state a pass of the dunning scanner at `t` leads to. -/
def dunningPass (t : Time) (s : DB) : DB := (run exec (.at t) DunningScanner.Scan s).2

/-- Whether the subscriber's status is one that is served. -/
def served (id : ℤ) (s : DB) : Bool :=
  (s.subscribers.lookup id).any fun r => AuthorisesService r.status

section
variable {id : ℤ} {s : DB} {r : Subscriber} {x t : Time}

/-! ### The billing scanner -/

/-- A running cycle is not up for renewal. -/
theorem renewalCandidate?_running {plans : Table Plan} (hx : r.planExpiry = some x) (h : t < x) :
    renewalCandidate? t plans id r = none := by
  unfold renewalCandidate?
  split
  · refine if_neg ?_
    rintro ⟨-, -, ⟨y, hy, hle⟩ | ⟨hnone, -⟩⟩
    · rw [hx] at hy
      cases hy
      exact absurd hle (not_le.mpr h)
    · rw [hx] at hnone
      cases hnone
  · rfl

/-- The billing scanner leaves alone whoever is not up for renewal, whatever fails. -/
theorem billingScan_unlisted (e : Env) (hr : s.subscribers.lookup id = some r)
    (h : renewalCandidate? e.now s.plans id r = none) :
    (run exec e Scan s).2.subscribers.lookup id = some r := by
  unfold Scan
  rw [db_bind, run_db]
  rcases exec_db_cases e .listRenewalCandidates s with ⟨err, hexec⟩ | ⟨cs, s', htx, hexec, -⟩
  · rw [hexec]
    exact hr
  · rw [hexec]
    obtain ⟨rfl, rfl⟩ := ListRenewalCandidates_ok htx
    refine Makes.spares (calls_each fun c hc => calls_void ?_) _ hr
    refine (makes_renew c).mono fun op hop hid => ?_
    -- the candidate would be the subscriber itself
    obtain ⟨id', r', hr', hcand⟩ := mem_candidates.mp hc
    have hsame := (renewalCandidate?_some hr' hcand).1
    cases some.inj (hop.subject.symm.trans hid)
    rw [hsame] at hr
    cases hr'.symm.trans hr
    rw [hsame] at h
    cases h.symm.trans hcand

/-- So it does with a running cycle. -/
theorem billingPass_lookup (hr : s.subscribers.lookup id = some r) (hx : r.planExpiry = some x)
    (h : t < x) : (billingPass t s).subscribers.lookup id = some r :=
  billingScan_unlisted (.at t) hr (renewalCandidate?_running hx h)

/-! ### One pass of the dunning scanner -/

/-- After a pass of the dunning scanner a running cycle is served exactly when it was before or its
    stage moves. -/
theorem dunningPass_lookup (hr : s.subscribers.lookup id = some r) (hx : r.planExpiry = some x)
    (hlive : r.status ≠ .terminated) (h : t < x) :
    ∃ r', (dunningPass t s).subscribers.lookup id = some r' ∧ r'.planExpiry = some x ∧
      (AuthorisesService r'.status = true ↔
        AuthorisesService r.status = true ∨ moves r.dunningState x t = true) := by
  obtain ⟨⟨r', hr', hrow⟩, -⟩ := scanPass_spec (Env.at_storeWorks t) hr
  change r'.toSubscriberRow = r.toSubscriberRow.afterPass (dueStage t id r) at hrow
  have hexp : r'.planExpiry = some x := by
    rw [hrow]
    cases dueStage t id r <;> exact hx
  refine ⟨r', hr', hexp, ?_⟩
  rw [hrow, dueStage]
  cases hcand : dunningCandidate? t id r with
  | none =>
    rw [moves_of_unlisted hx hlive hcand]
    simp [afterPass]
  | some c =>
    obtain ⟨rfl, hstate, hc⟩ := dunningCandidate?_some hcand
    cases hx.symm.trans hc
    rw [bind_some, hstate]
    split
    · rename_i hmoves
      simp [afterPass, atStage, status_of_running _ h, hmoves,
        AuthorisesService]
    · rename_i hstays
      simp [afterPass, hstays]

end

/-! ### The renewal -/

/-- A renewal leaves status and stage alone. -/
theorem Delivery.lookup {now : Time} {sid : ℤ} {amount : Decimal} {pid : String} {s s' : DB}
    {r : Subscriber} (h : Delivery now sid amount pid s s') (hr : s.subscribers.lookup sid = some r) :
    ∃ r', s'.subscribers.lookup sid = some r' ∧ r'.status = r.status ∧ r'.dunningState = r.dunningState := by
  obtain ⟨s₁, r₁, plan, rate, row, ledger, journal, hcredit, hr₁, -, -, -, -, -, -⟩ := h
  obtain ⟨r₀, hr₀, hrow⟩ := hcredit.row hr₁
  cases hr₀.symm.trans hr
  refine ⟨_, DB.lookup_setRow s₁ sid _, ?_, ?_⟩
  · change r₁.toSubscriberRow.status = _
    rw [hrow]
  · change r₁.toSubscriberRow.dunningState = _
    rw [hrow]

/-- A portal renewal at `t` of a subscriber who is not terminated, every store call succeeding, and then
    one pass of each scanner, in either order, before the cycle ends: the subscriber is served exactly
    when its status was served before, or its dunning stage is one that the new expiry date moves. -/
theorem served_after_renewal_iff (sid : ℤ) (amount : Decimal) (pid : String) (s : DB)
    (t t₁ t₂ x : Time) (r : Subscriber) (hpos : 0 < amount)
    (hr : s.subscribers.lookup sid = some r) (hlive : r.status ≠ .terminated)
    (hok : Accepts exec (.at t) succeeded (ApplyRenewal sid amount pid) s)
    (hx : (deliver sid amount pid s t).expiryOf sid = some (some x)) (h₁ : t₁ < x) (h₂ : t₂ < x) :
    (served sid (dunningPass t₂ (billingPass t₁ (deliver sid amount pid s t))) = true ↔
      AuthorisesService r.status = true ∨ moves r.dunningState x t₂ = true) ∧
    (served sid (billingPass t₁ (dunningPass t₂ (deliver sid amount pid s t))) = true ↔
      AuthorisesService r.status = true ∨ moves r.dunningState x t₂ = true) := by
  obtain ⟨r', hr', hst, hds⟩ := (deliver_delivery hpos hok).lookup hr
  have hx' : r'.planExpiry = some x := by
    simpa only [DB.expiryOf, hr', map_some, some.injEq] using hx
  rw [← hst, ← hds]
  rw [← hst] at hlive
  constructor
  · have hbill := billingPass_lookup hr' hx' h₁
    obtain ⟨r₂, hr₂, -, hiff⟩ := dunningPass_lookup hbill hx' hlive h₂
    rw [served, hr₂]
    exact hiff
  · obtain ⟨r₂, hr₂, hx₂, hiff⟩ := dunningPass_lookup hr' hx' hlive h₂
    rw [served, billingPass_lookup hr₂ hx₂ h₁]
    exact hiff

/-- A subscriber who has never had a cycle. -/
def awaitingPayment : DB := .seeded ((∅ : Table Subscriber).insert 1
  { paidUntil 0 with
    status := .pendingPayment, planExpiry := none, billable := .inl rfl })

/-- The first payment comes through the portal: a cycle until day 30, and nobody turns the service
    on. -/
theorem first_payment_not_served :
    Accepts exec (.at 0) succeeded (ApplyRenewal 1 (paise 59000) "pay_1") awaitingPayment ∧
    (deliver 1 (paise 59000) "pay_1" awaitingPayment 0).expiryOf 1 = some (some (30 * day)) ∧
    served 1 (dunningPass day (billingPass day
      (deliver 1 (paise 59000) "pay_1" awaitingPayment 0))) = false :=
  ⟨by decide +kernel, by decide +kernel, by decide +kernel⟩

/-- A subscriber cut off in the last stage of dunning. -/
def cutOff : DB := .seeded ((∅ : Table Subscriber).insert 1
  { paidUntil 0 with
    status := .hardSuspended, dunningState := .hardSuspended, billable := .inr (.inl rfl) })

/-- Cut off on day 10, paid, and served after the next passes. -/
theorem payment_restores_service :
    served 1 (dunningPass (11 * day) (billingPass (11 * day)
      (deliver 1 (paise 59000) "pay_1" cutOff (10 * day)))) = true :=
  (served_after_renewal_iff 1 (paise 59000) "pay_1" cutOff (10 * day) (11 * day) (11 * day) (40 * day)
    { paidUntil 0 with
      status := .hardSuspended, dunningState := .hardSuspended, billable := .inr (.inl rfl) }
    (by decide +kernel) rfl (by decide) (by decide +kernel) (by decide +kernel) (by decide)
    (by decide)).1.mpr (.inr (by decide))

end IspBss
