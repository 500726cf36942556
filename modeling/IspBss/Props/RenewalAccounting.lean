import IspBss.Props.RenewalRules

/-! Does every charge buy a cycle, and every cycle cost a charge?

    One biller runs scanner passes and portal renewals one after another; any number of wallet top-ups
    run beside it; any store call may fail at any step. The history of the store then satisfies

        debits + portal extensions = full advances + failed extensions (+ 1 between debit and extension)

    so a cycle is charged without being granted exactly when an extension fails, and a cycle is
    granted without being charged exactly when it came through the portal. -/

namespace IspBss

open Lib Prog List Pool Call BillRec Op

/-! ### What is counted in a history -/

/-- One store call as it happened. -/
abbrev BillEvent := Event sig Env DB

def Call.isCharge (id : ℤ) (portal : Bool) : Call → Bool
  | .db (.recordRecharge p) => IspBss.isCharge id portal p
  | _ => false

/-- The scanner's extension of the subscriber. -/
def Call.isScanGrant (id : ℤ) : Call → Bool
  | .db (.setPlanExpiry id' _) | .db (.activateSubscriber id' _) => id' = id
  | _ => false

/-- The portal's extension of the subscriber. -/
def Call.isPortalGrant (id : ℤ) : Call → Bool
  | .db (.portalSetPlanExpiry id' _) => id' = id
  | _ => false

variable {id : ℤ}

theorem isPortalGrant_of_quiet {portal : Bool} {op : Op} (h : op.quiet id portal = true) :
    isPortalGrant id (.db op) = false := by
  cases op with
  | portalSetPlanExpiry id' expiry => exact decide_eq_false (of_decide_eq_true h)
  | _ => rfl

/-- An extension of the subscriber by either path. -/
def Call.isExtension (id : ℤ) (c : Call) : Bool := c.isScanGrant id || c.isPortalGrant id

/-- Whether the environment fails the call. -/
def Env.failsCall (e : Env) : Call → Bool
  | .timeNow => false
  | .db op => e.fails op

/-- The expiry moved on by the full validity of the plan, or was set for the first time. -/
def fullAdvance (id : ℤ) (s s' : DB) : Bool :=
  match s.subscribers.lookup id, s'.subscribers.lookup id with
  | some r, some r' =>
    match s.plans.lookup r.planID, r'.planExpiry with
    | some p, some x' => r.planExpiry.all fun x => addDays x p.validityDays ≤ x'
    | _, _ => false
  | _, _ => false

section
variable (id : ℤ)

variable (ev : BillEvent)

/-- A committed wallet debit of the subscriber against revenue clearing. -/
def isDebit : Bool := ev.call.isCharge id false && succeeded ev.call ev.resp

/-- A renewal that advanced the subscriber's expiry by a full cycle. -/
def isAdvance : Bool :=
  ev.call.isExtension id && fullAdvance id ev.pre ev.post

/-- An extension by the scanner that the environment failed. -/
def isFailedGrant : Bool := ev.call.isScanGrant id && ev.env.failsCall ev.call

/-- An extension through the portal. -/
def isPortalExtension : Bool :=
  ev.call.isPortalGrant id && !ev.env.failsCall ev.call

/-! ### The books -/

/-- What a thread has seen of the subscriber is what the database holds. -/
def Sees (s : DB) (σ : Sight) : Prop :=
  ∃ r p, s.subscribers.lookup id = some r ∧ s.plans.lookup r.planID = some p ∧
    r.planExpiry = σ.expiry ∧ p.validityDays = σ.validity ∧
    (σ.pending = true → r.status = .pendingPayment)

/-- The biller's record agrees with the database and the history balances. -/
structure Books (w : BillRec) (s : DB) (h : List BillEvent) : Prop where
  sees : ∀ σ, w.sight = some σ → Sees id s σ
  balance : h.countP (isDebit id) + h.countP (isPortalExtension id) =
    h.countP (isAdvance id) + h.countP (isFailedGrant id) + w.owed.toNat

end

/-- The event of a call. -/
def eventOf (e : Env) (c : Call) (s : DB) : BillEvent := ⟨s, e, c, (exec e c s).1, (exec e c s).2⟩

section
variable {id : ℤ} {w w' : BillRec} {s : DB} {h : List BillEvent} {e : Env} {c : Call}
variable {s' : DB} {σ : Sight} {op : Op} {portal : Bool}

/-- The books after a call, from what the call adds to each count. -/
theorem Books.after (hb : Books id w s h) (hsees : ∀ σ, w'.sight = some σ → Sees id (exec e c s).2 σ)
    (hcount : (isDebit id (eventOf e c s)).toNat + (isPortalExtension id (eventOf e c s)).toNat +
        w.owed.toNat =
      (isAdvance id (eventOf e c s)).toNat + (isFailedGrant id (eventOf e c s)).toNat +
        w'.owed.toNat) : Books id w' (exec e c s).2 (h ++ [eventOf e c s]) := by
  refine ⟨hsees, ?_⟩
  rw [countP_snoc, countP_snoc, countP_snoc, countP_snoc]
  have := hb.balance
  omega

/-- A call that is neither a charge nor an extension adds nothing. -/
theorem Books.after_uncounted (hb : Books id w s h)
    (hsees : ∀ σ, w'.sight = some σ → Sees id (exec e c s).2 σ) (ho : w'.owed = w.owed)
    (hc : c.isCharge id false = false) (hg : c.isScanGrant id = false) (hp : c.isPortalGrant id = false) :
    Books id w' (exec e c s).2 (h ++ [eventOf e c s]) := by
  refine hb.after hsees ?_
  simp [isDebit, isPortalExtension, isAdvance, isFailedGrant, eventOf, isExtension, hc, hg, hp, ho]

theorem sees_of_listed {cs : List RenewalCandidate} (h : BillingStore.ListRenewalCandidates e.now s = .ok (cs, s'))
    (hσ : (cs.find? fun c => c.subscriberID = id).map RenewalCandidate.sight = some σ) : Sees id s σ := by
  obtain ⟨c, hc, rfl⟩ := Option.map_eq_some_iff.mp hσ
  have hid : c.subscriberID = id := by simpa using find?_some hc
  obtain ⟨-, hspec⟩ := ListRenewalCandidates_spec h
  obtain ⟨r, p, hr⟩ := hspec c (mem_of_find?_eq_some hc)
  refine ⟨r, p, hid ▸ hr.row, hr.plan, hr.expiry.symm, hr.validity.symm, fun hp => ?_⟩
  rw [← hr.status]
  simpa [RenewalCandidate.sight] using hp

/-- What a thread remembers of the subscriber it remembered before, or the store has just shown it. -/
theorem sight_cases (hσ : (billWatch id portal w c (exec e c s).1).sight = some σ) :
    w.sight = some σ ∨ Sees id s σ := by
  rcases exec_cases e c s with ⟨rfl, -⟩ | ⟨op, err, rfl, hx⟩ | ⟨op, a, s', rfl, htx, hx, -⟩
  · exact .inl hσ
  · -- a failed call shows nothing
    rw [hx] at hσ
    left
    cases op with
    | setPlanExpiry id' t | activateSubscriber id' t | portalSetPlanExpiry id' t =>
      simp only [billWatch] at hσ
      split at hσ
      · cases hσ
      · exact hσ
    | _ => exact hσ
  · rw [hx] at hσ
    cases op with
    | listRenewalCandidates => exact .inr (sees_of_listed htx hσ)
    | getPlanRenewalInfo id' =>
      obtain ⟨⟨r, p, hr, hp, rfl⟩, -⟩ := GetPlanRenewalInfo_ok htx
      simp only [billWatch] at hσ
      split at hσ
      · rename_i hid
        cases hσ
        exact .inr ⟨r, p, hid ▸ hr, hp, rfl, rfl, fun h => by cases h⟩
      · exact .inl hσ
    | recordRecharge p =>
      simp only [billWatch] at hσ
      split at hσ <;> exact .inl hσ
    | setPlanExpiry id' t | activateSubscriber id' t | portalSetPlanExpiry id' t =>
      simp only [billWatch] at hσ
      split at hσ
      · cases hσ
      · exact .inl hσ
    | _ => exact .inl hσ

/-- What a sight depends on: the expiry, the plan and the status of the row. -/
theorem Sees.of_row {s : DB} (h : Sees id s σ) (hplans : s'.plans = s.plans)
    (hrow : ∀ r, s.subscribers.lookup id = some r → ∃ r', s'.subscribers.lookup id = some r' ∧
      r'.planExpiry = r.planExpiry ∧ r'.planID = r.planID ∧ r'.status = r.status) : Sees id s' σ := by
  obtain ⟨r, p, hr, hp, hx, hv, hst⟩ := h
  obtain ⟨r', hr', hx', hp', hst'⟩ := hrow r hr
  exact ⟨r', p, hr', by rw [hplans, hp']; exact hp, hx'.trans hx, hv, fun h => hst' ▸ hst h⟩

/-- A quiet call or a posting leaves the subscriber's expiry, plan and status alone. -/
theorem RowWrite.quiet {r r' : SubscriberRow} (hw : RowWrite op id r r')
    (hop : (∃ portal, quiet id portal op = true) ∨ ∃ p, op = .recordRecharge p) :
    r'.planExpiry = r.planExpiry ∧ r'.planID = r.planID ∧ r'.status = r.status := by
  cases hw <;> simp_all [quiet, sideline]

theorem Sees.after_quiet (h : Sees id s σ)
    (hop : (∃ portal, quiet id portal op = true) ∨ ∃ p, op = .recordRecharge p) :
    Sees id (exec e (.db op) s).2 σ := by
  refine h.of_row (exec_plans e _ s) fun r hr => ?_
  obtain ⟨r', hr', rfl | ⟨op', a, hc, -, hw⟩⟩ := exec_lookup e (.db op) hr
  · exact ⟨r', hr', rfl, rfl, rfl⟩
  · cases hc
    exact ⟨r', hr', hw.quiet hop⟩

theorem Books.after_quiet (hb : Books id w s h) (hop : quiet id false op = true) :
    Books id w (exec e (.db op) s).2 (h ++ [eventOf e (.db op) s]) := by
  refine hb.after_uncounted (fun σ hσ => (hb.sees σ hσ).after_quiet (.inl ⟨_, hop⟩)) rfl ?_ ?_ ?_ <;>
  · cases op <;> simp_all [quiet, sideline, Call.isCharge, Call.isScanGrant, Call.isPortalGrant]

/-! ### One call of the biller -/

variable {op : Op} {σ : Sight} {clock t : Time} {r : Subscriber}

theorem Books.after_clock (hb : Books id w s h) :
    Books id (billWatch id false w .timeNow (exec e .timeNow s).1) (exec e .timeNow s).2
      (h ++ [eventOf e .timeNow s]) :=
  hb.after_uncounted (fun σ hσ => hb.sees σ hσ) rfl rfl rfl rfl

theorem billWatch_owed_read (hop : op.isRead = true)
    {r : Except StoreErr op.Result} : (billWatch id portal w (.db op) r).owed = w.owed := by
  cases op with
  | listRenewalCandidates => cases r <;> rfl
  | getPlanRenewalInfo id' =>
    cases r with
    | error e => rfl
    | ok q =>
      simp only [billWatch]
      split <;> rfl
  | _ => first | rfl | cases hop

/-- A read shows what the database holds and leaves it as it is. -/
theorem Books.after_read (hb : Books id w s h) (hop : op.isRead = true)
    (hcount : Call.isCharge id false (.db op) = false ∧ Call.isScanGrant id (.db op) = false ∧
      isPortalGrant id (.db op) = false) :
    Books id (billWatch id false w (.db op) (exec e (.db op) s).1) (exec e (.db op) s).2
      (h ++ [eventOf e (.db op) s]) := by
  refine hb.after_uncounted (fun σ hσ => ?_) (billWatch_owed_read hop) hcount.1 hcount.2.1 hcount.2.2
  rw [exec_read e hop]
  rcases sight_cases hσ with hσ | hsees
  · exact hb.sees σ hσ
  · exact hsees

/-- A charge that commits is owed an extension. -/
theorem Books.after_charge {p : RechargePosting} (hb : Books id w s h)
    (hp : isCharge id false p = true) (ho : w.owed = false) :
    Books id (billWatch id false w (.db (.recordRecharge p)) (exec e (.db (.recordRecharge p)) s).1)
      (exec e (.db (.recordRecharge p)) s).2 (h ++ [eventOf e (.db (.recordRecharge p)) s]) := by
  have hsees : ∀ σ, w.sight = some σ → Sees id (exec e (.db (.recordRecharge p)) s).2 σ :=
    fun σ hσ => (hb.sees σ hσ).after_quiet (.inr ⟨p, rfl⟩)
  rcases exec_db_cases e (.recordRecharge p) s with ⟨err, hx⟩ | ⟨tx, s', htx, hx, -⟩
  · refine hb.after ?_ ?_
    · rw [hx] at hsees ⊢; exact hsees
    · simp [isDebit, isPortalExtension, isAdvance, isFailedGrant, eventOf, Call.isExtension,
        Call.isScanGrant,
        Call.isPortalGrant, hx, succeeded, Except.isOk, Except.toBool, billWatch]
  · refine hb.after ?_ ?_
    · rw [hx] at hsees ⊢
      simp only [billWatch, hp, if_true]
      exact hsees
    · simp [isDebit, isPortalExtension, isAdvance, isFailedGrant, eventOf, Call.isExtension,
        Call.isScanGrant,
        Call.isPortalGrant, Call.isCharge, hp, hx, succeeded, Except.isOk, Except.toBool, billWatch, ho]

theorem addDays_le {x y : ℤ} (h : x ≤ y) (d : ℤ) : addDays x d ≤ addDays y d :=
  Int.add_le_add_right h (d * day)

theorem lt_addDays (x : ℤ) {d : ℤ} (h : 1 ≤ d) : x < addDays x d := by
  simp only [addDays, day]
  omega

theorem le_renewed {x : Time} (hx : x ∈ σ.expiry) : addDays x σ.validity ≤ σ.renewed clock := by
  have hx' : σ.expiry = some x := hx
  rw [Sight.renewed, hx']
  exact addDays_le (le_max_right clock x) _

/-- An unchanged row has not advanced: a plan is valid for at least a day. -/
theorem fullAdvance_self (id : ℤ) (s : DB) : fullAdvance id s s = false := by
  unfold fullAdvance
  cases hr : s.subscribers.lookup id with
  | none => rfl
  | some r =>
    dsimp only
    split
    · rename_i p x hp hx
      rw [hx, Option.all_some, decide_eq_false_iff_not, not_le]
      exact lt_addDays x p.validity_pos
    · rfl

/-- A new expiry is a full advance if it is a cycle after the stored one. -/
theorem fullAdvance_setRow {r' : Subscriber} {p : Plan}
    (hr : s.subscribers.lookup id = some r) (hp : s.plans.lookup r.planID = some p)
    (hr' : r'.planExpiry = some t) : fullAdvance id s (s.setRow id r') = true ↔
      ∀ x ∈ r.planExpiry, addDays x p.validityDays ≤ t := by
  simp only [fullAdvance, hr, hp, hr', DB.lookup_setRow]
  cases r.planExpiry <;> simp

/-- The three ways to write the subscriber's expiry. -/
inductive IsExtension (id : ℤ) (t : Time) : Op → Prop where
  | activate : IsExtension id t (.activateSubscriber id t)
  | extend : IsExtension id t (.setPlanExpiry id t)
  | portal : IsExtension id t (.portalSetPlanExpiry id t)

/-- An extension that is not failed stamps the row with its expiry. -/
theorem exec_stamps (hop : IsExtension id t op) (hr : s.subscribers.lookup id = some r) (hf : e.fails op = false)
    (hpend : op = .activateSubscriber id t → r.status = .pendingPayment) :
    ∃ r' : Subscriber, (exec e (.db op) s).2 = s.setRow id r' ∧ r'.planExpiry = some t ∧ r'.planID = r.planID := by
  cases hop with
  | activate =>
    refine ⟨r.activated t, ?_, rfl, rfl⟩
    rw [exec_ok hf (ActivateSubscriber_eq hr (hpend rfl))]
  | extend =>
    refine ⟨r.withExpiry t, ?_, rfl, rfl⟩
    rw [exec_ok hf (SetPlanExpiry_eq hr)]
  | portal =>
    refine ⟨r.withExpiry t, ?_, rfl, rfl⟩
    rw [exec_ok hf (SetPlanExpiry_eq hr : PortalStore.SetPlanExpiry id t s = _)]

/-- An extension from a true sight fails only with its environment, and advances a full cycle. -/
theorem exec_extension (hop : IsExtension id (σ.renewed clock) op)
    (hs : Sees id s σ) (hpend : op = .activateSubscriber id (σ.renewed clock) → σ.pending = true) :
    fullAdvance id s (exec e (.db op) s).2 = !e.fails op := by
  obtain ⟨r, p, hr, hp, hx, hv, hst⟩ := hs
  cases hf : e.fails op with
  | true => rw [exec_fails hf]; exact fullAdvance_self id s
  | false =>
    obtain ⟨r', hs', hr', -⟩ := exec_stamps hop hr hf fun h => hst (hpend h)
    rw [hs']
    refine (fullAdvance_setRow hr hp hr').mpr fun x hxr => ?_
    rw [hv]
    exact le_renewed (hx ▸ hxr)

/-- The scanner's extension settles the charge: it advances the expiry or is counted as failed. -/
theorem Books.after_scanGrant (hb : Books id w s h) (hσ : w.sight = some σ) (ho : w.owed = true)
    (hop : IsExtension id (σ.renewed clock) op)
    (hpend : op = .activateSubscriber id (σ.renewed clock) → σ.pending = true)
    (hscan : isScanGrant id (.db op) = true) (hw : w' = w.settled) :
    Books id w' (exec e (.db op) s).2 (h ++ [eventOf e (.db op) s]) := by
  subst hw
  have hportal : isPortalGrant id (.db op) = false := by cases hop <;> first | rfl | cases hscan
  have hcharge : Call.isCharge id false (.db op) = false := by cases hop <;> rfl
  refine hb.after (fun σ hσ => by cases hσ) ?_
  simp only [isDebit, isPortalExtension, isAdvance, isFailedGrant, eventOf, isExtension, hcharge,
    hportal, hscan,
    exec_extension hop (hb.sees σ hσ) hpend, Env.failsCall, ho]
  cases e.fails op <;> rfl

/-- The portal's extension advances the expiry, charged or not. -/
theorem Books.after_portalGrant (hb : Books id w s h) (hσ : w.sight = some σ)
    (ho : w.owed = false) (hw : w'.sight = none ∧ w'.owed = false) :
    Books id w' (exec e (.db (.portalSetPlanExpiry id (σ.renewed w.clock))) s).2
      (h ++ [eventOf e (.db (.portalSetPlanExpiry id (σ.renewed w.clock))) s]) := by
  refine hb.after (fun σ hσ => by rw [hw.1] at hσ; cases hσ) ?_
  have hadv := exec_extension (e := e) (IsExtension.portal (t := σ.renewed w.clock))
    (hb.sees σ hσ) nofun
  simp only [isDebit, isPortalExtension, isAdvance, isFailedGrant, eventOf, isExtension,
    isScanGrant, isPortalGrant, decide_true, hadv, Env.failsCall, ho, hw.2]
  cases e.fails (.portalSetPlanExpiry id (σ.renewed w.clock)) <;> rfl

/-- One call of the biller keeps the books. -/
theorem Books.step (hb : Books id w s h) (hc : Bills id false w c) :
    Books id (billWatch id false w c (exec e c s).1) (exec e c s).2 (h ++ [eventOf e c s]) := by
  cases hc with
  | clock => exact hb.after_clock
  | list => exact hb.after_read rfl ⟨rfl, rfl, rfl⟩
  | info id' => exact hb.after_read rfl ⟨rfl, rfl, rfl⟩
  | quiet op hop => rw [billWatch_quiet hop]; exact hb.after_quiet hop
  | charge p hp ho => exact hb.after_charge hp ho
  | activate σ hσ hp ho =>
    exact hb.after_scanGrant hσ ho .activate (fun _ => hp) (by simp [isScanGrant]) (if_pos rfl)
  | extend σ hσ ho =>
    exact hb.after_scanGrant hσ ho .extend nofun (by simp [isScanGrant])
      (if_pos rfl)
  | portalExtend σ hσ ho =>
    refine hb.after_portalGrant hσ (ho rfl) ?_
    simp [billWatch, settled]
  | restore state status hs =>
    refine hb.after_uncounted (fun σ hσ => ?_) rfl rfl rfl rfl
    change w.sight = some σ at hσ
    rw [hs] at hσ
    cases hσ

end

/-! ### The biller and the top-ups beside it -/

/-- One operation of the biller: a scanner pass, or a portal renewal. -/
inductive BillingOp where
  | scan
  | renewal (subscriberID : ℤ) (amount : Decimal) (paymentID : String)

def BillingOp.prog : BillingOp → Service Unit
  | scan => RecurringBillingScanner.Scan
  | renewal subscriberID amount paymentID => (ApplyRenewal subscriberID amount paymentID).void

/-- How often the operation is a portal renewal of the subscriber. -/
def BillingOp.portals (id : ℤ) : BillingOp → ℕ
  | scan => 0
  | renewal subscriberID _ _ => if subscriberID = id then 1 else 0

/-- A renewal is for a positive amount. -/
def BillingOp.Positive : BillingOp → Prop
  | scan => True
  | renewal _ amount _ => 0 < amount

/-- A pool whose store remembers its history. -/
abbrev BillPool := Pool sig BillRec (DB × List BillEvent)

/-- The biller's operations one after another, and top-ups beside it. -/
def billPool (s : DB) (ops : List BillingOp) (topUps : List RechargeRequest) : BillPool :=
  start init (s, [])
    (each BillingOp.prog ops :: topUps.map fun req => (WalletService.Recharge req).void)

/-- The history of a run of that pool. -/
def billHistory (id : ℤ) (s : DB) (ops : List BillingOp) (topUps : List RechargeRequest)
    (sched : List (ℕ × Env)) : List BillEvent :=
  (run (traced exec) (billWatch id false) (billPool s ops topUps) sched).shared.2

/-- The store's answer to the candidate query names each subscriber once; with `strict`, every call
    succeeds. -/
def Answers (strict : Bool) (_ : BillRec) (c : Call) (r : c.Resp) : Prop :=
  (strict = true → succeeded c r = true) ∧
  match c, r with
  | .db .listRenewalCandidates, r => ListsOnce r
  | _, _ => True

/-- A top-up only makes quiet calls. -/
def TopsUp (id : ℤ) (_ : BillRec) (c : Call) : Prop := ∃ op, c = .db op ∧ quiet id false op = true

/-- The biller is the first thread. -/
def Rules (id : ℤ) : ℕ → BillRec → Call → Prop
  | 0 => Bills id false
  | _ + 1 => TopsUp id

/-- The operations whose extensions through the portal can be counted beforehand. -/
def BillingOp.Counted (strict : Bool) (op : BillingOp) : Prop :=
  op = .scan ∨ strict = true ∧ op.Positive

/-- The biller ends owing nothing, with one extension for each portal renewal of the subscriber. -/
def Ends (id : ℤ) (strict : Bool) (ops : List BillingOp) : ℕ → BillRec → Prop
  | 0, w => w.owed = false ∧ ((∀ op ∈ ops, op.Counted strict) →
      w.portals = (ops.map (BillingOp.portals id)).sum)
  | _ + 1, _ => True

theorem obeys_topUp {A : BillRec → (c : Call) → c.Resp → Prop} (id : ℤ) (req : RechargeRequest) (w : BillRec) :
    Obeys (billWatch id false) A (TopsUp id) (fun _ _ => True) (WalletService.Recharge req).void w := by
  refine Calls.obeys (fun w c hc => ?_) (calls_void (calls_Recharge req)) w
  rcases hc with h | ⟨b, rfl⟩
  · obtain ⟨op, hop⟩ := h
    exact ⟨op, rfl, quiet_of_sideline hop⟩
  · refine ⟨_, rfl, ?_⟩
    simp [quiet, isCharge, RechargePosting.isRenewalDebit, RechargeRequest.posting]

theorem obeys_biller (id : ℤ) (strict : Bool) (ops : List BillingOp) :
    Obeys (billWatch id false) (Answers strict) (Bills id false)
      (fun w _ => Ends id strict ops 0 w) (each BillingOp.prog ops) init := by
  -- what the loop keeps: nothing is owed, and the count is that of the operations done
  let I : List BillingOp → BillRec → Prop := fun rest w => w.owed = false ∧
    ((∀ op ∈ ops, op.Counted strict) → (∀ op ∈ rest, op.Counted strict) ∧
      w.portals + (rest.map (BillingOp.portals id)).sum = (ops.map (BillingOp.portals id)).sum)
  refine (obeys_each (I := I) (fun op rest w hw => ?_) ops init
    ⟨rfl, fun hs => ⟨hs, Nat.zero_add _⟩⟩).mono fun w _ hw => ⟨hw.1, fun hs => ?_⟩
  · obtain ⟨ho, hcount⟩ := hw
    cases op with
    | scan =>
      refine (obeys_Scan (fun w r hr => hr.2) ho).mono fun w' _ h => ⟨h.1, fun hs => ?_⟩
      obtain ⟨hp, hc⟩ := hcount hs
      rw [h.2]
      exact ⟨fun op hop => hp op (.tail _ hop), by simpa [BillingOp.portals] using hc⟩
    | renewal sid amount pid =>
      refine obeys_void ((obeys_ApplyRenewal nofun ho).mono fun w' _ h =>
        ⟨h.1, fun hs => ?_⟩)
      obtain ⟨hp, hc⟩ := hcount hs
      obtain hscan | ⟨hstrict, hpos⟩ := hp _ (.head _)
      · cases hscan
      rw [h.2 (fun w c r hr => hr.1 hstrict) hpos]
      refine ⟨fun op hop => hp op (.tail _ hop), ?_⟩
      rw [map_cons, sum_cons, ← Nat.add_assoc] at hc
      exact hc
  · simpa using (hw.2 hs).2

/-! ### Every run -/

/-- The call the step makes succeeds. -/
def CallSucceeds (p : BillPool) (i : ℕ) (e : Env) : Prop :=
  match p.threads[i]? with
  | some (_, .call c _) => succeeded c (exec e c p.shared.1).1 = true
  | _ => True

instance (p : BillPool) (i : ℕ) (e : Env) : Decidable (CallSucceeds p i e) := by
  unfold CallSucceeds
  split <;> infer_instance

/-- The books, and how the extensions of the history compare with the biller's count. -/
structure Tally (id : ℤ) (strict : Bool) (w : BillRec) (s : DB) (h : List BillEvent) : Prop
    extends Books id w s h where
  portals_le : h.countP (isPortalExtension id) ≤ w.portals
  portals_eq : strict = true → h.countP (isPortalExtension id) = w.portals
  no_failed : strict = true → h.countP (isFailedGrant id) = 0

section
variable {id : ℤ} {strict : Bool} {w w' : BillRec} {s : DB} {h : List BillEvent} {e : Env} {c : Call}

theorem exec_answers (h : strict = true → succeeded c (exec e c s).1 = true) :
    Answers strict w c (exec e c s).1 := by
  refine ⟨h, ?_⟩
  cases c with
  | timeNow => trivial
  | db op =>
    cases op with
    | listRenewalCandidates =>
      rcases exec_db_cases e .listRenewalCandidates s with ⟨err, hx⟩ | ⟨cs, s', htx, hx, -⟩
      · rintro cs hcs
        rw [hx] at hcs
        cases hcs
      · rintro cs' hcs
        rw [hx] at hcs
        cases hcs
        exact (ListRenewalCandidates_spec htx).1
    | _ => trivial

/-- A call that succeeds was not failed by its environment. -/
theorem not_fails_of_succeeded (h : succeeded c (exec e c s).1 = true) : e.failsCall c = false := by
  cases c with
  | timeNow => rfl
  | db op =>
    rw [← Bool.not_eq_true]
    intro hf
    rw [exec_fails hf] at h
    cases h

/-- The record counts the portal's extensions, and its clock is the one it was shown. -/
theorem billWatch_frame (portal : Bool) (w : BillRec) (c : Call) (r : c.Resp) :
    (billWatch id portal w c r).portals = w.portals + (c.isPortalGrant id).toNat ∧
      (c ≠ .timeNow → (billWatch id portal w c r).clock = w.clock) := by
  cases c with
  | timeNow => exact ⟨rfl, fun h => absurd rfl h⟩
  | db op =>
    cases op with
    | listRenewalCandidates => cases r <;> exact ⟨rfl, fun _ => rfl⟩
    | getPlanRenewalInfo id' =>
      cases r with
      | error e => exact ⟨rfl, fun _ => rfl⟩
      | ok q =>
        simp only [billWatch]
        split <;> exact ⟨rfl, fun _ => rfl⟩
    | recordRecharge p =>
      cases r with
      | error e => exact ⟨rfl, fun _ => rfl⟩
      | ok tx =>
        simp only [billWatch]
        split <;> exact ⟨rfl, fun _ => rfl⟩
    | setPlanExpiry id' t | activateSubscriber id' t =>
      simp only [billWatch]
      split <;> exact ⟨rfl, fun _ => rfl⟩
    | portalSetPlanExpiry id' t =>
      simp only [billWatch, Call.isPortalGrant]
      split <;> simp_all [BillRec.settled]
    | _ => exact ⟨rfl, fun _ => rfl⟩

/-- The tally after a call, from its books and its count. -/
theorem Tally.after (ht : Tally id strict w s h) (hb : Books id w' (exec e c s).2 (h ++ [eventOf e c s]))
    (hp : w'.portals = w.portals + (c.isPortalGrant id).toNat)
    (hok : strict = true → succeeded c (exec e c s).1 = true) :
    Tally id strict w' (exec e c s).2 (h ++ [eventOf e c s]) := by
  have hle : (isPortalExtension id (eventOf e c s)).toNat ≤ (c.isPortalGrant id).toNat := by
    simp only [isPortalExtension, eventOf]
    cases c.isPortalGrant id <;> simp [Bool.toNat_le]
  refine ⟨hb, ?_, fun hs => ?_, fun hs => ?_⟩
  · have := ht.portals_le
    rw [countP_snoc]
    omega
  · have hf := not_fails_of_succeeded (hok hs)
    rw [countP_snoc, ht.portals_eq hs, hp]
    simp [isPortalExtension, eventOf, hf]
  · have hf := not_fails_of_succeeded (hok hs)
    rw [countP_snoc, ht.no_failed hs]
    simp [isFailedGrant, eventOf, hf]

end

/-- What every state of a run satisfies: the threads keep to their rules, and the biller's record, the
    database and the history make a tally. -/
def InTally (id : ℤ) (strict : Bool) (ops : List BillingOp) (p : BillPool) : Prop :=
  Obeying (billWatch id false) (Answers strict) (Rules id) (Ends id strict ops) p ∧
  ∃ w q, p.threads[0]? = some (w, q) ∧ Tally id strict w p.shared.1 p.shared.2

theorem inTally_start (id : ℤ) (strict : Bool) (s : DB) (ops : List BillingOp)
    (topUps : List RechargeRequest) : InTally id strict ops (billPool s ops topUps) := by
  refine ⟨obeying_start fun i q hq => ?_, _, _, rfl,
    ⟨⟨(fun σ hσ => by cases hσ), rfl⟩, le_rfl, fun _ => rfl, fun _ => rfl⟩⟩
  cases i with
  | zero =>
    cases hq
    exact obeys_biller id strict ops
  | succ i =>
    rw [getElem?_cons_succ, getElem?_map, Option.map_eq_some_iff] at hq
    obtain ⟨req, -, rfl⟩ := hq
    exact obeys_topUp id req init

variable {ops : List BillingOp}

theorem inTally_step {strict : Bool} (p : BillPool) (i : ℕ) (e : Env)
    (h : InTally id strict ops p) (hok : strict = true → CallSucceeds p i e) :
    InTally id strict ops (step (traced exec) (billWatch id false) p i e) := by
  obtain ⟨hobey, w₀, q₀, h₀, ht⟩ := h
  have hsucc : ∀ w c k, p.threads[i]? = some (w, .call c k) →
      strict = true → succeeded c (exec e c p.shared.1).1 = true := by
    intro w c k hi hs
    have := hok hs
    simpa only [CallSucceeds, hi] using this
  refine ⟨obeying_step hobey fun w c k hi => exec_answers (hsucc w c k hi), ?_⟩
  rcases step_cases p i e with
    ⟨-, hstep⟩ | ⟨w, c, k, hi, hstep⟩
  · rw [hstep]
    exact ⟨w₀, q₀, h₀, ht⟩
  rw [hstep]
  have hallowed := Obeying.allowed hobey hi
  cases i with
  | zero =>
    -- the biller's own call
    cases hi.symm.trans h₀
    refine ⟨_, _, List.getElem?_set_self (List.getElem?_eq_some_iff.mp hi).1, ?_⟩
    exact ht.after (ht.toBooks.step hallowed) (billWatch_frame false _ c _).1 (hsucc _ c k hi)
  | succ i =>
    -- a top-up's call, which is quiet
    obtain ⟨op, rfl, hq⟩ := hallowed
    refine ⟨w₀, q₀, by rw [getElem?_set_ne (Nat.succ_ne_zero i)]; exact h₀, ?_⟩
    refine ht.after (ht.toBooks.after_quiet hq) ?_ (hsucc w _ k hi)
    rw [isPortalGrant_of_quiet hq]
    rfl

/-- A finished run: every debit and every portal extension is a full advance, or an extension the
    environment failed. -/
theorem history_balances (strict : Bool) {s : DB} {topUps : List RechargeRequest} {sched : List (ℕ × Env)}
    (hops : ∀ op ∈ ops, op.Counted strict)
    (hok : Meets (traced exec) (billWatch id false) (fun p i e => strict = true → CallSucceeds p i e)
      (billPool s ops topUps) sched)
    (hfin : Finished (run (traced exec) (billWatch id false) (billPool s ops topUps) sched)) :
    let h := billHistory id s ops topUps sched
    let portals := (ops.map (BillingOp.portals id)).sum
    h.countP (isDebit id) + h.countP (isPortalExtension id) =
      h.countP (isAdvance id) + h.countP (isFailedGrant id) ∧
    h.countP (isPortalExtension id) ≤ portals ∧
    (strict = true → h.countP (isPortalExtension id) = portals ∧ h.countP (isFailedGrant id) = 0) := by
  obtain ⟨hobey, w, q, hw, ht⟩ := run_inv (fun p i e => inTally_step p i e) sched _
    (inTally_start id strict s ops topUps) hok
  obtain ⟨ho, hportals⟩ : Ends id strict ops 0 w := hobey.ended hfin hw
  rw [← hportals hops]
  refine ⟨?_, ht.portals_le, fun hs => ⟨ht.portals_eq hs, ht.no_failed hs⟩⟩
  have := ht.balance
  rw [ho] at this
  exact this

/-- Scanner passes and top-ups, any store call failing anywhere: no cycle is charged without being
    granted exactly when the environment fails none of the scanner's extensions. -/
theorem charged_le_granted_iff_no_extension_fails (id : ℤ) (s : DB) (passes : ℕ)
    (topUps : List RechargeRequest) (sched : List (ℕ × Env))
    (hfin : Finished (run (traced exec) (billWatch id false)
      (billPool s (replicate passes .scan) topUps) sched)) :
    (billHistory id s (replicate passes .scan) topUps sched).countP (isDebit id) ≤
      (billHistory id s (replicate passes .scan) topUps sched).countP (isAdvance id) ↔
    ∀ ev ∈ billHistory id s (replicate passes .scan) topUps sched,
      ev.call.isScanGrant id = true → ev.env.failsCall ev.call = false := by
  obtain ⟨hbal, hle, -⟩ := history_balances false
    (fun op hop => .inl (eq_of_mem_replicate hop))
    (meets_of_forall (fun p i e h => by cases h) sched _) hfin
  have hzero : ((replicate passes BillingOp.scan).map (BillingOp.portals id)).sum = 0 := by
    simp [BillingOp.portals]
  have hfailed : (billHistory id s (replicate passes .scan) topUps sched).countP
        (isFailedGrant id) = 0 ↔
      ∀ ev ∈ billHistory id s (replicate passes .scan) topUps sched,
        ev.call.isScanGrant id = true → ev.env.failsCall ev.call = false := by
    rw [countP_eq_zero]
    simp [isFailedGrant]
  rw [← hfailed]
  omega

/-- One subscriber whose cycle ended at time 0, with two cycles' worth of money in the wallet. -/
def expiredSubscriber : DB :=
  .seeded ((∅ : Table Subscriber).insert 1
    { Subscriber.paidUntil 0 with walletBalance := 118000, balance_nonneg := by decide })

/-- The first pass loses the connection at `SetPlanExpiry`, the second finds everything working. -/
def extensionLost : List (ℕ × Env) :=
  replicate 6 (0, ⟨day, fun op => op matches .setPlanExpiry _ _⟩) ++
    replicate 10 (0, .at (2 * day))

/-- Two passes over that subscriber: two debits, one cycle. -/
theorem extension_lost_charges_twice :
    Finished (run (traced exec) (billWatch 1 false)
      (billPool expiredSubscriber [.scan, .scan] []) extensionLost) ∧
    (billHistory 1 expiredSubscriber [.scan, .scan] [] extensionLost).countP (isDebit 1) = 2 ∧
    (billHistory 1 expiredSubscriber [.scan, .scan] [] extensionLost).countP (isAdvance 1) = 1 :=
  ⟨by decide +kernel, by decide +kernel, by decide +kernel⟩

/-- In that run the environment has failed an extension. -/
theorem extension_lost_fails_one :
    ¬ ∀ ev ∈ billHistory 1 expiredSubscriber (replicate 2 .scan) [] extensionLost,
      ev.call.isScanGrant 1 = true → ev.env.failsCall ev.call = false := by
  rw [← charged_le_granted_iff_no_extension_fails 1 expiredSubscriber 2 [] extensionLost
    (by decide +kernel)]
  decide +kernel

/-- Portal renewals and scanner passes without a store failure: no cycle is granted without being
    charged exactly when none of the renewals is the subscriber's. -/
theorem granted_le_charged_iff_no_portal_renewal (id : ℤ) (s : DB) (ops : List BillingOp)
    (topUps : List RechargeRequest) (sched : List (ℕ × Env)) (hpos : ∀ op ∈ ops, op.Positive)
    (hok : Meets (traced exec) (billWatch id false) CallSucceeds (billPool s ops topUps) sched)
    (hfin : Finished (run (traced exec) (billWatch id false) (billPool s ops topUps) sched)) :
    (billHistory id s ops topUps sched).countP (isAdvance id) ≤
      (billHistory id s ops topUps sched).countP (isDebit id) ↔
    ∀ op ∈ ops, op.portals id = 0 := by
  obtain ⟨hbal, -, hstrict⟩ := history_balances true
    (fun op hop => .inr ⟨rfl, hpos op hop⟩) (hok.mono fun p i e h _ => h) hfin
  obtain ⟨hportals, hfailed⟩ := hstrict rfl
  have hsum : (ops.map (BillingOp.portals id)).sum = 0 ↔ ∀ op ∈ ops, op.portals id = 0 := by
    simp [sum_eq_zero_iff]
  rw [← hsum]
  omega

/-- A gateway payment of one plan price with tax, for the subscriber paid up to day 1. -/
def onePayment : List BillingOp := [.renewal 1 (paise 59000) "pay_1", .scan]

def paidToDayOne : DB := .seeded ((∅ : Table Subscriber).insert 1 (.paidUntil day))

/-- The payment arrives at time 0; the scanner runs when the cycle it bought is over. -/
def renewThenScan : List (ℕ × Env) :=
  replicate 10 (0, .at 0) ++ replicate 12 (0, .at (40 * day))

/-- One payment of 590.00 buys two cycles, and only one of them is debited. -/
theorem one_payment_yields_two_cycles :
    Meets (traced exec) (billWatch 1 false) CallSucceeds
      (billPool paidToDayOne onePayment []) renewThenScan ∧
    Finished (run (traced exec) (billWatch 1 false) (billPool paidToDayOne onePayment [])
      renewThenScan) ∧
    (billHistory 1 paidToDayOne onePayment [] renewThenScan).countP (isAdvance 1) = 2 ∧
    (billHistory 1 paidToDayOne onePayment [] renewThenScan).countP (isDebit 1) = 1 :=
  ⟨by decide +kernel, by decide +kernel, by decide +kernel, by decide +kernel⟩

/-- Two passes of the scanner alone grant what they charge. -/
theorem scans_grant_what_they_charge :
    (billHistory 1 expiredSubscriber [.scan, .scan] []
        (replicate 10 (0, .at day) ++ replicate 12 (0, .at (40 * day)))).countP (isAdvance 1) ≤
      (billHistory 1 expiredSubscriber [.scan, .scan] []
        (replicate 10 (0, .at day) ++ replicate 12 (0, .at (40 * day)))).countP (isDebit 1) :=
  (granted_le_charged_iff_no_portal_renewal 1 expiredSubscriber [.scan, .scan] [] _
    (by simp [BillingOp.Positive]) (by decide +kernel) (by decide +kernel)).mpr
    (by simp [BillingOp.portals])

end IspBss
