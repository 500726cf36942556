import IspBss.Crm.Leads
import IspBss.Db.Effects

/-! Does a lead become a subscriber, once?

    The race is decided by the claim: of any number of sessions one finds the lead open. But the row
    that a session inserts before it has the status 'active' and no expiry date, and a later
    migration does not let such a row in:

        chk_authorised_subscriber_is_billable     status needs no expiry, or plan_expiry IS NOT NULL

    So no call ever commits. The other creation path writes 'pending_payment', which needs no
    expiry. -/

namespace IspBss.Crm

open Lib CRMStore Office List Run APIStore

/-- Every call has ended. -/
def Done (calls : List ConvertCall) (s : Office) : Prop := ∀ i < calls.length, (s.session i).Ended

/-- One call has committed; it has created one subscriber, and the lead is converted and linked to
    it. -/
def ConvertedOnce (s₀ s : Office) (leadID : ℤ) : Prop :=
  ∃ i id row l, s.session i = .committed id ∧ (∀ j k, s.session j = .committed k → j = i) ∧
    s₀.db.subscribers.lookup id = none ∧ s.db.subscribers.lookup id = some row ∧
    (∀ k, k ≠ id → s.db.subscribers.lookup k = s₀.db.subscribers.lookup k) ∧
    s.leads.lookup leadID = some l ∧ l.status = .converted ∧ l.convertedSubscriberID = some id

/-! ### The insert -/

/-- What the table lets in is billable. -/
theorem createSubscriber_billable {r : SubscriberRow} {db : DB} {x : (ℤ × Subscriber) × DB}
    (h : CreateSubscriber r db = .ok x) : r.Billable := by
  simp only [CreateSubscriber, Tx.get_bind_ok, Tx.require_bind_ok, Tx.lift_bind_ok, Tx.set_bind_ok,
    Tx.pure_ok] at h
  obtain ⟨-, -, -, -, -, -, -, -, sub, hcheck, -⟩ := h
  have hrow := SubscriberRow.check_ok hcheck
  exact hrow ▸ sub.billable

/-- The row of `ConvertLead` is never let in. -/
theorem insert_active_fails (sub : SubscriberRow) (db : DB) :
    ∃ e, CreateSubscriber (insertedRow sub) db = .error e := by
  cases h : CreateSubscriber (insertedRow sub) db with
  | error e => exact ⟨e, rfl⟩
  | ok x =>
    have hbillable := createSubscriber_billable h
    simp [SubscriberRow.Billable, insertedRow] at hbillable

/-! ### The code -/

/-- Nothing has happened, but for calls that have failed. -/
structure Idle (s₀ s : Office) : Prop where
  db : s.db = s₀.db
  leads : s.leads = s₀.leads
  session : ∀ i, s.session i = .begun ∨ ∃ e, s.session i = .failed e

theorem Idle.not_waits {s₀ s : Office} (h : Idle s₀ s) (n : ℕ) (sub : SubscriberRow) :
    ¬ Waits n s sub := by
  rintro ⟨x, hx, -⟩
  obtain ⟨i, -, hi⟩ := mem_filterMap.mp hx
  rcases h.session i with h | ⟨e, h⟩ <;> rw [h] at hi <;> cases hi

/-- A step of the code fails the call, or does nothing because it has failed before. -/
theorem convertLead_step {s₀ s : Office} (h : Idle s₀ s) (calls : List ConvertCall) (i : ℕ) :
    Idle s₀ (ConvertLead calls s i) ∧
      (i < calls.length → ∃ e, (ConvertLead calls s i).session i = .failed e) ∧
      ∀ j e, s.session j = .failed e → (ConvertLead calls s i).session j = .failed e := by
  unfold ConvertLead
  cases hcall : calls[i]? with
  | none => exact ⟨h, fun hi => absurd hcall (by simp [hi]), fun j e hj => hj⟩
  | some call =>
    rcases h.session i with hi | ⟨e, hi⟩
    · obtain ⟨e, he⟩ := insert_active_fails call.sub (s.indexed calls.length)
      simp only [hi, h.not_waits, if_false, he]
      refine ⟨⟨h.db, h.leads, fun j => ?_⟩, fun _ => ⟨e, by simp [setSession]⟩, fun j e' hj => ?_⟩
      · by_cases hj : j = i
        · exact Or.inr ⟨e, by simp [setSession, hj]⟩
        · simpa [setSession, Function.update_of_ne hj] using h.session j
      · have hj' : j ≠ i := by
          rintro rfl
          rw [hi] at hj
          cases hj
        simpa [setSession, Function.update_of_ne hj'] using hj
    · simp only [hi]
      exact ⟨h, fun _ => ⟨e, rfl⟩, fun j e hj => hj⟩

/-- Whatever the calls and the schedule, nothing is converted, and a call that has gone on has
    failed. -/
theorem convertLead_run {s₀ : Office} (calls : List ConvertCall) (schedule : List ℕ) :
    ∀ {s : Office}, Idle s₀ s →
    Idle s₀ (run (ConvertLead calls) s schedule) ∧
      (∀ i e, s.session i = .failed e → (run (ConvertLead calls) s schedule).session i =
        .failed e) ∧
      ∀ i ∈ schedule, i < calls.length → ∃ e, (run (ConvertLead calls) s schedule).session i =
        .failed e := by
  induction schedule with
  | nil =>
    intro s h
    exact ⟨h, fun _ _ hi => hi, fun i hi => absurd hi not_mem_nil⟩
  | cons i schedule ih =>
    intro s h
    obtain ⟨hidle, hfails, hkept⟩ := convertLead_step h calls i
    obtain ⟨hidle', hkept', hall⟩ := ih hidle
    refine ⟨hidle', fun j e hj => hkept' j e (hkept j e hj), fun j hj hlen => ?_⟩
    rcases mem_cons.mp hj with rfl | hj
    · obtain ⟨e, he⟩ := hfails hlen
      exact ⟨e, hkept' j e he⟩
    · exact hall j hj hlen

theorem idle_start (db : DB) (leads : Rows ℤ Lead) : Idle (start db leads) (start db leads) :=
  ⟨rfl, rfl, fun _ => Or.inl rfl⟩

/-- Conversion is exactly once only where nobody converts; and no lead, lost, converted or other,
    ever yields a subscriber. -/
theorem convertLead_once_iff (db : DB) (leads : Rows ℤ Lead) (leadID : ℤ)
    (calls : List ConvertCall) :
    ((calls ≠ [] → ∀ schedule, Done calls
      (run (CRMStore.ConvertLead calls) (Office.start db leads) schedule) →
        ConvertedOnce (Office.start db leads)
          (run (CRMStore.ConvertLead calls) (Office.start db leads) schedule)
          leadID) ↔ calls = []) ∧
    ∀ schedule, (run (CRMStore.ConvertLead calls) (Office.start db leads) schedule).db.subscribers =
      db.subscribers := by
  constructor
  · refine ⟨fun h => ?_, fun h hne => absurd h hne⟩
    by_contra hne
    obtain ⟨hidle, -, hall⟩ := convertLead_run calls (range calls.length) (idle_start db leads)
    have hdone : Done calls (run (ConvertLead calls) (start db leads) (range calls.length)) := by
      intro i hi
      obtain ⟨e, he⟩ := hall i (mem_range.mpr hi) hi
      rw [he]
      trivial
    obtain ⟨i, id, -, -, hcommitted, -⟩ := h hne _ hdone
    rcases hidle.session i with hi | ⟨e, hi⟩ <;> rw [hi] at hcommitted <;> cases hcommitted
  · intro schedule
    rw [(convertLead_run calls schedule (idle_start db leads)).1.db]
    rfl

/-- The lead is open, and everything about the call is as the tables want it. -/
def oneLead : Rows ℤ Lead :=
  AList.singleton 7
    { fullName := "Ann", mobileNumber := "+919876500111", franchiseID := none, status := .qualified,
      convertedSubscriberID := none, mobile_e164 := by decide +kernel,
      converted_has_subscriber := Or.inr ⟨by decide, rfl⟩ }

theorem onePlan_price_nonneg : (0 : ℤ) ≤ 50000 := by decide

theorem onePlan_validity_pos : (1 : ℤ) ≤ 30 := by decide

def onePlan : DB where
  plans := AList.singleton 1 ⟨"Home 50", 50000, 30, 0, onePlan_price_nonneg, onePlan_validity_pos⟩
  franchises := ∅
  subscribers := ∅
  walletLedgers := .empty
  lcoLedger := .empty
  gstRates := []
  invoices := []
  chartOfAccounts := ∅
  glJournal := []
  tasks := .empty

def annConverted : ConvertCall :=
  ⟨7, ⟨"CAF1", "ann", "+919876500111", 1, none, .pendingPayment, .active, 0, "TN", none⟩⟩

/-- A qualified lead, an existing plan, an unused name and number, and one call: it fails on the
    constraint. -/
theorem qualified_lead_not_converted :
    let s := run (ConvertLead [annConverted]) (start onePlan oneLead) [0, 0]
    s.session 0 = .failed (.check "chk_authorised_subscriber_is_billable") ∧
      s.db.subscribers.entries = [] ∧
      (s.leads.lookup 7).map (·.status) = some .qualified := by
  decide +kernel

end IspBss.Crm
