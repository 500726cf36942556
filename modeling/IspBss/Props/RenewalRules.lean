import IspBss.Props.Footprint

/-! What a renewal does on its own, whatever the store answers.

    A thread is watched for one subscriber: the clock it has read, what it has seen of the
    subscriber's cycle, whether it owes an extension for a charge it has committed, and how many
    extensions it has made through the portal. `Bills` says which calls that record allows. The
    scanner and the portal renewal both obey it:

        scanner   list (sight) ─▶ debit (owed) ─▶ SetPlanExpiry / Activate (settled) ─▶ restore
        portal    credit ─▶ read expiry (sight) ─▶ SetPlanExpiry (settled)

    and the expiry they write is always `max(clock, seen expiry) + seen validity`. -/

namespace IspBss

open Lib RecurringBillingScanner Prog List WalletService

/-! ### Charges and grants -/

/-- A wallet debit of the subscriber posted against revenue clearing. -/
def RechargePosting.isRenewalDebit (id : ℤ) (p : RechargePosting) : Bool :=
  p.subscriberID = id ∧ p.credit.account = .subscriberWallet ∧ p.credit.entryType = .debit ∧
    p.debit.account = .revenueClearing

/-- A wallet credit of the subscriber posted against the gateway's clearing account. -/
def RechargePosting.isGatewayCredit (id : ℤ) (p : RechargePosting) : Bool :=
  p.subscriberID = id ∧ p.credit.account = .subscriberWallet ∧ p.credit.entryType = .credit ∧
    p.debit.account = .gatewayClearing

/-- The postings that count as a charge for a cycle: the renewal debits, and with `portal` set the
    gateway payments as well. -/
def isCharge (id : ℤ) (portal : Bool) (p : RechargePosting) : Bool :=
  p.isRenewalDebit id || (portal && p.isGatewayCredit id)

/-! ### The record -/

/-- What a thread has seen of the subscriber's cycle. -/
structure Sight where
  expiry : Option Time
  validity : ℤ
  pending : Bool
  deriving DecidableEq

/-- The expiry a renewal writes from what it has seen. -/
def Sight.renewed (σ : Sight) (clock : Time) : Time :=
  addDays (renewalBase clock σ.expiry) σ.validity

def RenewalCandidate.sight (c : RenewalCandidate) : Sight :=
  ⟨c.planExpiry, c.planValidityDays, c.status = .pendingPayment⟩

/-- A thread's record for one subscriber. -/
structure BillRec where
  clock : Time
  sight : Option Sight
  owed : Bool
  portals : ℕ

/-- Nothing read, nothing owed. -/
def BillRec.init : BillRec := ⟨0, none, false, 0⟩

/-- The extension has been written, or tried. -/
def BillRec.settled (w : BillRec) : BillRec := { w with sight := none, owed := false }

/-- How a call and its response change the record. -/
def billWatch (id : ℤ) (portal : Bool) : Watch sig BillRec
  | w, .timeNow, t => { w with clock := t }
  | w, .db .listRenewalCandidates, r =>
    match (r : Except StoreErr (List RenewalCandidate)) with
    | .ok cs =>
      { w with sight := (cs.find? fun c => c.subscriberID = id).map RenewalCandidate.sight }
    | .error _ => w
  | w, .db (.getPlanRenewalInfo id'), r =>
    match (r : Except StoreErr (ℤ × Option Time)) with
    | .ok q => if id' = id then { w with sight := some ⟨q.2, q.1, false⟩ } else w
    | .error _ => w
  | w, .db (.recordRecharge p), r =>
    match (r : Except StoreErr Transaction) with
    | .ok _ => if isCharge id portal p then { w with owed := true } else w
    | .error _ => w
  | w, .db (.setPlanExpiry id' _), _ => if id' = id then w.settled else w
  | w, .db (.activateSubscriber id' _), _ => if id' = id then w.settled else w
  | w, .db (.portalSetPlanExpiry id' _), _ =>
    if id' = id then { w.settled with portals := w.portals + 1 } else w
  | w, _, _ => w

/-- The responses a thread is told of are all successes. -/
def AllOk (A : BillRec → (c : Call) → c.Resp → Prop) : Prop := ∀ w c r, A w c r → succeeded c r = true

/-- Calls that neither charge the subscriber nor touch its expiry, status or plan, nor read them. -/
def Op.quiet (id : ℤ) (portal : Bool) : Op → Bool
  | recordRecharge p => !isCharge id portal p
  | setPlanExpiry id' _ | activateSubscriber id' _ | portalSetPlanExpiry id' _
  | setSubscriberDunningState id' _ _ => id' ≠ id
  | op => op.sideline

theorem Op.quiet_of_sideline {id : ℤ} {portal : Bool} {op : Op} (h : op.sideline = true) :
    op.quiet id portal = true := by
  cases op <;> first | exact h | cases h

/-- The calls a record allows. -/
inductive Bills (id : ℤ) (portal : Bool) : BillRec → Call → Prop where
  | clock (w) : Bills id portal w .timeNow
  | list (w) (ho : w.owed = false) : Bills id portal w (.db .listRenewalCandidates)
  | info (w id') : Bills id portal w (.db (.getPlanRenewalInfo id'))
  | quiet (w op) (h : Op.quiet id portal op = true) : Bills id portal w (.db op)
  | charge (w p) (hp : isCharge id portal p = true) (ho : w.owed = false) :
      Bills id portal w (.db (.recordRecharge p))
  | activate (w σ) (hs : w.sight = some σ) (hp : σ.pending = true) (ho : w.owed = true) :
      Bills id portal w (.db (.activateSubscriber id (σ.renewed w.clock)))
  | extend (w σ) (hs : w.sight = some σ) (ho : w.owed = true) :
      Bills id portal w (.db (.setPlanExpiry id (σ.renewed w.clock)))
  | portalExtend (w σ) (hs : w.sight = some σ) (ho : portal = false → w.owed = false) :
      Bills id portal w (.db (.portalSetPlanExpiry id (σ.renewed w.clock)))
  | restore (w state status) (hs : w.sight = none) :
      Bills id portal w (.db (.setSubscriberDunningState id state status))

/-- From the record `w`, the program keeps to these calls and ends as `Q` says. -/
abbrev Billed (id : ℤ) (portal : Bool) (A : BillRec → (c : Call) → c.Resp → Prop) {α : Type}
    (Q : BillRec → α → Prop) (p : Service α) (w : BillRec) : Prop :=
  Prog.Obeys (billWatch id portal) A (Bills id portal) Q p w

section
variable {id : ℤ} {portal : Bool} {A : BillRec → (c : Call) → c.Resp → Prop} {α β : Type}

theorem billWatch_quiet {op : Op} (h : Op.quiet id portal op = true) (w : BillRec)
    (r : Except StoreErr op.Result) : billWatch id portal w (.db op) r = w := by
  cases op with
  | recordRecharge p =>
    have hp : isCharge id portal p = false := by simpa [Op.quiet] using h
    cases r with
    | error e => rfl
    | ok tx => simp [billWatch, hp]
  | setPlanExpiry id' t => simp_all [Op.quiet, billWatch]
  | activateSubscriber id' t => simp_all [Op.quiet, billWatch]
  | portalSetPlanExpiry id' t => simp_all [Op.quiet, billWatch]
  | listRenewalCandidates => cases h
  | getPlanRenewalInfo id' => cases h
  | _ => rfl

variable {w : BillRec}

/-- A quiet call leaves the record as it is. -/
theorem obeys_quiet {op : Op} (h : Op.quiet id portal op = true)
    {Q : BillRec → α → Prop} {k : Except StoreErr op.Result → Service α} (hk : ∀ r, (AllOk A → r.isOk = true) →
      Billed id portal A Q (k r) w) :
    Billed id portal A Q (Prog.call (S := sig) (.db op) k) w := by
  refine ⟨Bills.quiet w op h, fun r hr => ?_⟩
  rw [billWatch_quiet h]
  exact hk r fun hok => hok w (.db op) r hr

/-- What a program that ends with this record and any result ensures. -/
abbrev Leaves (w : BillRec) : BillRec → α → Prop := fun w' _ => w' = w

theorem obeys_void {Q : BillRec → Unit → Prop} {p : Service α}
    (h : Billed id portal A (fun w' _ => Q w' ()) p w) :
    Billed id portal A Q p.void w :=
  obeys_bind.mpr h

/-! ### The parts that touch nothing of the subscriber -/

theorem obeys_TransitionDunning {sid : ℤ} {target : DunningState} (h : sid = id → w.sight = none) :
    Billed id portal A (Leaves w) (TransitionDunning sid target) w := by
  unfold TransitionDunning
  rw [db_bind]
  refine obeys_quiet rfl fun r _ => ?_
  cases r with
  | error e => rfl
  | ok q =>
    obtain ⟨current, expiry⟩ := q
    dsimp only
    split
    · by_cases hid : sid = id
      · -- the subscriber's own row: allowed once nothing is remembered of it
        subst hid
        refine ⟨Bills.restore w _ _ (h rfl), fun r _ => ?_⟩
        cases r <;> rfl
      · refine obeys_quiet (by simpa [Op.quiet] using hid) fun r _ => ?_
        cases r <;> rfl
    · rfl

theorem obeys_restore {c : RenewalCandidate} {t : Time} (h : c.subscriberID = id → w.sight = none) :
    Billed id portal A (Leaves w) (restore c t) w := by
  unfold restore
  split
  · rfl
  · refine obeys_bind.mpr ((obeys_TransitionDunning h).mono fun w' r hw => ?_)
    subst hw
    cases r with
    | error e => rfl
    | ok u =>
      dsimp only
      split
      · exact obeys_quiet rfl fun r _ => rfl
      · rfl

/-- A program whose calls are all aside leaves the record as it is. -/
theorem obeys_asides : ∀ {p : Service α}, Asides p →
    Billed id portal A (Leaves w) p w
  | .ret _, _ => rfl
  | .call _ _, ⟨.mk _ hop, hk⟩ =>
      obeys_quiet (Op.quiet_of_sideline hop) fun r _ => obeys_asides (hk r)

/-! ### The money -/

/-- Recording a posting: if it charges the subscriber, nothing may be owed before, and it is after. -/
theorem obeys_record {p : RechargePosting} (h : isCharge id portal p = true → w.owed = false) :
    Billed id portal A
      (fun w' r => w' = { w with owed := w.owed || (isCharge id portal p && r.isOk) } ∧
        (AllOk A → r.isOk = true))
      (recordPosting p) w := by
  by_cases hp : isCharge id portal p = true
  · refine ⟨Bills.charge w p hp (h hp), fun r hr => ?_⟩
    cases r with
    | error e =>
      refine ⟨?_, fun hok => absurd (hok w (.db (.recordRecharge p)) _ hr) Bool.false_ne_true⟩
      simp [billWatch, Except.isOk, Except.toBool]
    | ok tx => exact ⟨by simp [billWatch, hp, Except.isOk, Except.toBool], fun _ => rfl⟩
  · refine obeys_quiet (by simp [Op.quiet, hp]) fun r hok => ?_
    cases r with
    | error e => exact ⟨by simp [hp], hok⟩
    | ok tx => exact ⟨by simp [hp], hok⟩

/-- A recharge owes an extension only if it is counted as a charge and has committed. -/
theorem obeys_Recharge {req : RechargeRequest}
    (h : (∃ b, isCharge id portal (req.posting b) = true) → w.owed = false) :
    Billed id portal A
      (fun w' r => w' = { w with owed := w'.owed } ∧
        (w'.owed = true → w.owed = true ∨ r.isOk = true ∧
          ∃ b, isCharge id portal (req.posting b) = true) ∧
        (AllOk A → 0 < req.amount → r.isOk = true))
      (Recharge req) w := by
  unfold Recharge
  split
  · rename_i hneg
    exact ⟨rfl, Or.inl, fun _ hpos => absurd hpos (not_lt.mpr hneg)⟩
  refine obeys_bind.mpr ((obeys_asides (asides_lookupToken _)).mono fun w' found hw => ?_)
  subst hw
  cases found with
  | some tx => exact ⟨rfl, Or.inl, fun _ _ => rfl⟩
  | none =>
    refine obeys_quiet rfl fun r hok => ?_
    cases r with
    | error e => exact ⟨rfl, Or.inl, fun h _ => hok h⟩
    | ok b =>
      refine (obeys_record fun hp => h ⟨_, hp⟩).mono fun w' r hw => ?_
      obtain ⟨rfl, hok⟩ := hw
      refine ⟨rfl, fun ho => ?_, fun h _ => hok h⟩
      rcases Bool.or_eq_true _ _ |>.mp ho with ho | ho
      · exact Or.inl ho
      · obtain ⟨hp, hok⟩ := Bool.and_eq_true _ _ |>.mp ho
        exact Or.inr ⟨hok, _, hp⟩

/-- The scanner's debit is a charge exactly for its own candidate. -/
theorem isCharge_debit (c : RenewalCandidate) (inv : Invoice) (d : EntryType) (b : Decimal) :
    isCharge id portal ((debitRequest c inv).posting d b) =
      (decide (c.subscriberID = id) && decide (d = .debit)) := by
  simp [isCharge, RechargePosting.isRenewalDebit, RechargePosting.isGatewayCredit,
    PostRequest.posting, debitRequest]

/-- After a posting without a token the thread owes exactly if the posting is a charge and has
    committed. -/
theorem obeys_Post {req : PostRequest} {d : EntryType} {charges : Bool}
    (hd : req.direction = some d) (ht : req.transactionToken = "")
    (hc : ∀ b, isCharge id portal (req.posting d b) = charges) (ho : w.owed = false) :
    Billed id portal A
      (fun w' r => w' = { w with owed := charges && r.isOk }) (WalletService.Post req) w := by
  have hfail : ∀ e : WalletErr, w = { w with owed := charges &&
      (Except.error e : Except WalletErr Transaction).isOk } := by
    intro e
    obtain ⟨clock, sight, owed, portals⟩ := w
    cases ho
    simp [Except.isOk, Except.toBool]
  unfold WalletService.Post
  split
  · exact hfail _
  rw [hd]
  dsimp only
  split
  · exact hfail _
  simp only [lookupToken, ht, if_true, pure_eq, ret_bind]
  rw [db_bind]
  refine obeys_quiet rfl fun r _ => ?_
  cases r with
  | error e => exact hfail _
  | ok b =>
    dsimp only
    split
    · exact hfail _
    · refine (obeys_record fun _ => ho).mono fun w' r hw => ?_
      rw [hw.1, ho, hc, Bool.false_or]

/-! ### The scanner -/

variable {c : RenewalCandidate} {t : Time} {w : BillRec}

/-- Another subscriber's extension is no business of this one. -/
theorem obeys_grant_other (hid : c.subscriberID ≠ id) :
    Billed id portal A (Leaves w) (grant c t) w := by
  unfold grant
  split
  · refine obeys_quiet (by simpa [Op.quiet] using hid) fun r _ => ?_
    cases r <;> rfl
  · refine obeys_quiet (by simpa [Op.quiet] using hid) fun r _ => ?_
    cases r <;> rfl

/-- The subscriber's extension is written from what the scanner has seen, and settles the charge. -/
theorem obeys_grant_self (hid : c.subscriberID = id) (hs : w.sight = some c.sight) (ho : w.owed = true) :
    Billed id portal A (Leaves w.settled)
      (grant c
        (addDays (renewalBase w.clock c.planExpiry) c.planValidityDays)) w := by
  subst hid
  unfold grant
  split
  · rename_i hp
    rw [db_bind, Billed]
    refine ⟨Bills.activate w c.sight hs (by simp [RenewalCandidate.sight, hp]) ho, fun r _ => ?_⟩
    cases r <;> simp [billWatch]
  · rw [db_bind, Billed]
    refine ⟨Bills.extend w c.sight hs ho, fun r _ => ?_⟩
    cases r <;> simp [billWatch]

/-- What the scanner's loop keeps: nothing is owed, a candidate still to come for the subscriber is
    the one that was seen, and the portal count stays at `n`. -/
def Pending (id : ℤ) (n : ℕ) (cs : List RenewalCandidate) (w : BillRec) : Prop :=
  (w.owed = false ∧ w.portals = n) ∧ (cs.map RenewalCandidate.subscriberID).Nodup ∧
    ∀ c ∈ cs, c.subscriberID = id → w.sight = some c.sight

/-- Invoice and restoration leave the record as the extension left it. -/
theorem obeys_afterGrant {inv : Invoice} (h : c.subscriberID = id → w.sight = none) :
    Billed id portal A (Leaves w)
      (do
        (db (.createInvoice inv)).void
        restore c t
        return .ok () : Service (Except RenewErr Unit)) w := by
  refine obeys_bind.mpr (obeys_void (obeys_quiet rfl fun r _ => ?_))
  exact obeys_bind.mpr ((obeys_restore h).mono fun w' _ hw => hw)

theorem obeys_renew {n : ℕ} {cs : List RenewalCandidate} (h : Pending id n (c :: cs) w) :
    Billed id portal A (fun w' _ => Pending id n cs w') (renew c) w := by
  obtain ⟨⟨ho, hn⟩, hnd, hsight⟩ := h
  rw [map_cons, nodup_cons] at hnd
  obtain ⟨hnotin, hnd⟩ := hnd
  -- a record with the same sight keeps what is pending, one without is fine after the own candidate
  have hkeep : ∀ w' : BillRec, w'.owed = false → w'.portals = n → w'.sight = w.sight →
      Pending id n cs w' := fun w' ho' hn' hs' =>
    ⟨⟨ho', hn'⟩, hnd, fun c' hc' hid => by rw [hs']; exact hsight c' (.tail _ hc') hid⟩
  have hdone : ∀ w' : BillRec, w'.owed = false → w'.portals = n → c.subscriberID = id →
      Pending id n cs w' := by
    refine fun w' ho' hn' hid => ⟨⟨ho', hn'⟩, hnd, fun c' hc' hid' => absurd ?_ hnotin⟩
    rw [hid, ← hid']
    exact mem_map_of_mem hc'
  unfold renew
  rw [timeNow_bind, Billed]
  refine ⟨Bills.clock w, fun now _ => ?_⟩
  generalize hw₁ : billWatch id portal w .timeNow now = w₁
  have ho₁ : w₁.owed = false := by rw [← hw₁]; exact ho
  have hs₁ : w₁.sight = w.sight := by rw [← hw₁]; rfl
  have hc₁ : w₁.clock = now := by rw [← hw₁]; rfl
  have hn₁ : w₁.portals = n := by rw [← hw₁]; exact hn
  simp only [buildInvoice]
  rw [db_bind, call_bind]
  refine obeys_quiet rfl fun r _ => ?_
  cases r with
  | error e => exact hkeep w₁ ho₁ hn₁ hs₁
  | ok rate =>
    dsimp only
    rw [pure_eq, ret_bind]
    refine obeys_bind.mpr ((obeys_Post rfl rfl
      (fun b => isCharge_debit c _ .debit b) ho₁).mono fun w₂ r hw₂ => ?_)
    have hs₂ : w₂.sight = w.sight := by rw [hw₂]; exact hs₁
    have hn₂ : w₂.portals = n := by rw [hw₂]; exact hn₁
    cases r with
    | error e =>
      have ho₂ : w₂.owed = false := by rw [hw₂]; simp [Except.isOk, Except.toBool]
      cases e <;> exact hkeep w₂ ho₂ hn₂ hs₂
    | ok tx =>
      by_cases hid : c.subscriberID = id
      · have ho₂ : w₂.owed = true := by rw [hw₂]; simp [hid, Except.isOk, Except.toBool]
        have hs₂' : w₂.sight = some c.sight := hs₂.trans (hsight c (.head _) hid)
        have hc₂ : w₂.clock = now := by rw [hw₂]; exact hc₁
        rw [← hc₂]
        refine obeys_bind.mpr ((obeys_grant_self hid hs₂' ho₂).mono fun w₃ r hw₃ => ?_)
        subst hw₃
        cases r with
        | error e => exact hdone _ rfl hn₂ hid
        | ok u =>
          exact (obeys_afterGrant fun _ => rfl).mono fun w' _ hw => hw ▸ hdone _ rfl hn₂ hid
      · have ho₂ : w₂.owed = false := by rw [hw₂]; simp [hid]
        refine obeys_bind.mpr ((obeys_grant_other hid).mono fun w₃ r hw₃ => ?_)
        subst hw₃
        cases r with
        | error e => exact hkeep _ ho₂ hn₂ hs₂
        | ok u =>
          exact (obeys_afterGrant fun h => absurd h hid).mono fun w' _ hw =>
            hw ▸ hkeep _ ho₂ hn₂ hs₂

/-- What the store answers to the candidate query: every subscriber at most once. -/
def ListsOnce (r : Except StoreErr (List RenewalCandidate)) : Prop :=
  ∀ cs, r = .ok cs → (cs.map RenewalCandidate.subscriberID).Nodup

/-- A pass of the scanner starts and ends with nothing owed. -/
theorem obeys_Scan (hA : ∀ w r, A w (.db .listRenewalCandidates) r → ListsOnce r)
    (ho : w.owed = false) : Billed id portal A
      (fun w' _ => w'.owed = false ∧ w'.portals = w.portals) Scan w := by
  refine ⟨Bills.list w ho, fun r hr => ?_⟩
  cases r with
  | error e => exact ⟨ho, rfl⟩
  | ok cs =>
    have hnd := hA w _ hr cs rfl
    refine (obeys_each (I := Pending id w.portals) (fun c cs w h => obeys_void (obeys_renew h)) cs
      (billWatch id portal w (.db .listRenewalCandidates) (.ok cs))
      ⟨⟨ho, rfl⟩, hnd, fun c hc hid => ?_⟩).mono fun w' _ h => h.1
    -- the sight is the first candidate of the subscriber, and there is only one
    have hfind : cs.find? (fun c => decide (c.subscriberID = id)) = some c := by
      have hsome : (cs.find? fun c => decide (c.subscriberID = id)).isSome :=
        find?_isSome.mpr ⟨c, hc, by simpa using hid⟩
      obtain ⟨c', hc'⟩ := Option.isSome_iff_exists.mp hsome
      have hid' : c'.subscriberID = id := by simpa using find?_some hc'
      rw [hc', inj_on_of_nodup_map hnd (mem_of_find?_eq_some hc') hc (hid'.trans hid.symm)]
    change (cs.find? fun c => decide (c.subscriberID = id)).map RenewalCandidate.sight = _
    rw [hfind]
    rfl

/-! ### The portal -/

variable {sid : ℤ} {w : BillRec}

theorem obeys_extend_other (hid : sid ≠ id) : Billed id portal A
      (fun w' _ => w'.owed = w.owed ∧ w'.portals = w.portals) (extendPlanExpiry sid) w := by
  unfold extendPlanExpiry
  rw [db_bind, Billed]
  refine ⟨Bills.info w sid, fun r _ => ?_⟩
  cases r with
  | error e => exact ⟨rfl, rfl⟩
  | ok q =>
    obtain ⟨v, x⟩ := q
    have hw : billWatch id portal w (.db (.getPlanRenewalInfo sid)) (.ok (v, x)) = w := if_neg hid
    dsimp only
    rw [hw, timeNow_bind]
    refine ⟨Bills.clock w, fun now _ => ?_⟩
    refine obeys_quiet (by simpa [Op.quiet] using hid) fun r _ => ?_
    cases r <;> exact ⟨rfl, rfl⟩

/-- The portal's extension settles what is owed, if it can read the plan. -/
theorem obeys_extend_self (hp : portal = false → w.owed = false)
    (hA : w.owed = true → ∀ r, A w (.db (.getPlanRenewalInfo id)) r → r.isOk = true) :
    Billed id portal A
      (fun w' _ => w'.owed = false ∧ (AllOk A → w'.portals = w.portals + 1))
      (extendPlanExpiry id) w := by
  unfold extendPlanExpiry
  rw [db_bind, Billed]
  refine ⟨Bills.info w id, fun r hr => ?_⟩
  cases r with
  | error e =>
    refine ⟨?_, fun hok => absurd (hok w (.db (.getPlanRenewalInfo id)) _ hr) Bool.false_ne_true⟩
    rw [← Bool.not_eq_true]
    exact fun ho => absurd (hA ho _ hr) Bool.false_ne_true
  | ok q =>
    obtain ⟨v, x⟩ := q
    have hw : billWatch id portal w (.db (.getPlanRenewalInfo id)) (.ok (v, x)) =
        { w with sight := some ⟨x, v, false⟩ } := if_pos rfl
    dsimp only
    rw [hw, timeNow_bind, obeys_timeNow]
    refine ⟨Bills.clock _, fun now _ => ?_⟩
    rw [db_bind]
    refine ⟨Bills.portalExtend _ ⟨x, v, false⟩ rfl hp, fun r _ => ?_⟩
    cases r <;> simp [billWatch, BillRec.settled]

/-- A portal renewal starts and ends with nothing owed, if payments are not counted as charges or the
    plan can be read; where every call succeeds, it extends the subscriber it is for once. -/
theorem obeys_ApplyRenewal {amount : Decimal} {pid : String}
    (hA : portal = true → ∀ w r, A w (.db (.getPlanRenewalInfo id)) r → r.isOk = true)
    (ho : w.owed = false) : Billed id portal A
      (fun w' _ => w'.owed = false ∧ (AllOk A → 0 < amount →
        w'.portals = w.portals + if sid = id then 1 else 0)) (ApplyRenewal sid amount pid) w := by
  have hcharge : ∀ b, isCharge id portal ((renewalRecharge sid amount pid).posting b) = true →
      sid = id ∧ portal = true := by
    intro b hb
    simp only [isCharge, RechargePosting.isRenewalDebit, RechargePosting.isGatewayCredit,
      RechargeRequest.posting, renewalRecharge] at hb
    simpa [and_comm] using hb
  refine obeys_bind.mpr ((obeys_Recharge fun _ => ho).mono fun w₁ r h₁ => ?_)
  obtain ⟨hw₁, h₁, hok₁⟩ := h₁
  have hn₁ : w₁.portals = w.portals := by rw [hw₁]
  -- an extension is owed only for a committed payment of this subscriber
  have howed : w₁.owed = true → r.isOk = true ∧ sid = id ∧ portal = true := by
    intro ho₁
    rcases h₁ ho₁ with h | ⟨hok, b, hb⟩
    · rw [ho] at h; cases h
    · exact ⟨hok, hcharge b hb⟩
  cases r with
  | error e =>
    refine ⟨?_, fun hok hpos => absurd (hok₁ hok hpos) Bool.false_ne_true⟩
    rw [← Bool.not_eq_true]
    exact fun ho₁ => absurd (howed ho₁).1 Bool.false_ne_true
  | ok tx =>
    have hextend : Billed id portal A
        (fun w' _ => w'.owed = false ∧ (AllOk A →
          w'.portals = w.portals + if sid = id then 1 else 0)) (extendPlanExpiry sid) w₁ := by
      by_cases hid : sid = id
      · subst hid
        refine (obeys_extend_self ?_ fun ho₁ => hA (howed ho₁).2.2 w₁).mono fun w' _ h => ?_
        · intro hp
          rw [← Bool.not_eq_true]
          exact fun ho₁ => by rw [(howed ho₁).2.2] at hp; cases hp
        · rw [if_pos rfl, ← hn₁]
          exact h
      · refine (obeys_extend_other hid).mono fun w' _ h => ⟨h.1.trans ?_, fun _ => ?_⟩
        · rw [← Bool.not_eq_true]
          exact fun ho₁ => hid (howed ho₁).2.1
        · rw [if_neg hid, ← hn₁]
          exact h.2
    refine obeys_bind.mpr (obeys_void (hextend.mono fun w₂ _ h₂ => ?_))
    refine obeys_bind.mpr (obeys_void ((obeys_asides (asides_createRenewalInvoice _ _)).mono
      fun w₃ _ h₃ => ?_))
    refine obeys_bind.mpr ((obeys_asides (asides_SettleCommission _ _ _)).mono
      fun w₄ _ h₄ => ?_)
    rw [h₃] at h₄
    rw [h₄]
    exact ⟨h₂.1, fun hok _ => h₂.2 hok⟩

end

end IspBss
