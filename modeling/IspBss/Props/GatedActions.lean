import IspBss.Workflow.Approvals

/-! Is an approved action run once, and only when it was approved?

    Validation, claim, action and record are separate calls, and any of them can fail or be the last
    one a process makes. What holds it together is the claim: one update that only matches a pending
    row, and the CHECK that refuses an approver who is the requester.

        pending ──claim──▶ approved ──(action)──▶ executed / execution_failed
           └────reject───▶ rejected

    The claim hands out one ticket for the request. Only the thread with the ticket acts for it, and
    acting uses the ticket up. -/

namespace IspBss

open Lib WorkflowStore Tx Prog Pool Option List Serial Handler ApprovalRow

/-! ### What is counted -/

/-- The billing calls that are the action itself: moving money, ending the service. -/
def Call.acts : Call → Bool
  | .db (.recordRecharge _) => true
  | .db (.terminateSubscriber _) => true
  | _ => false

abbrev DeskEvent := Event deskSig DeskEnv (DB × Desk)

/-- The event is the gated action of the request. -/
def isAct (id : ℤ) (ev : DeskEvent) : Bool :=
  match ev.call with
  | .inl c => c.1 = id ∧ c.2.acts = true
  | .inr _ => false

/-- How often the gated action of the request was set off. -/
def actions (id : ℤ) (hist : List DeskEvent) : ℕ := hist.countP (isAct id)

/-- The request a call has claimed. -/
def claimedRequest : (c : deskSig.Call) → deskSig.Resp c → Option ℤ
  | .inr (.claimApprovalRequest id _), r =>
    match (r : Except StoreErr (Option Approval)) with
    | .ok (some _) => some id
    | _ => none
  | _, _ => none

/-- The event claimed the request while it was pending. -/
def ClaimsPending (id : ℤ) (ev : DeskEvent) : Prop :=
  claimedRequest ev.call ev.resp = some id ∧
    ∃ a, ev.pre.2.requests.lookup id = some a ∧ a.status = .pending

/-- Every action of the request comes after a claim of it. -/
def ClaimedFirst (id : ℤ) (hist : List DeskEvent) : Prop :=
  ∀ before ev after, hist = before ++ ev :: after → isAct id ev = true →
    ∃ ev' ∈ before, ClaimsPending id ev'

theorem ClaimedFirst.snoc {id : ℤ} {hist : List DeskEvent} {ev : DeskEvent}
    (h : ClaimedFirst id hist) (hev : isAct id ev = true → ∃ ev' ∈ hist, ClaimsPending id ev') :
    ClaimedFirst id (hist ++ [ev]) := by
  intro before x after heq hx
  rcases eq_nil_or_concat after with rfl | ⟨init, y, rfl⟩
  · obtain ⟨rfl, hlast⟩ := append_inj' heq rfl
    cases hlast
    exact hev hx
  · rw [concat_eq_append, ← cons_append, ← append_assoc] at heq
    obtain ⟨rfl, -⟩ := append_inj' heq rfl
    exact h before x init rfl hx

/-! ### One request across a call -/

/-- How a call changes the row of the request `id`. -/
inductive RequestChange (id : ℤ) :
    (c : deskSig.Call) → deskSig.Resp c → Option Approval → Option Approval → Prop where
  | same (c r o) (h : claimedRequest c r ≠ some id) : RequestChange id c r o o
  | created (req r a) (ha : a.status = .pending) :
      RequestChange id (.inr (.createApprovalRequest req)) r none (some a)
  | claimed (actor a a') (ha : a.status = .pending) (hstatus : a'.status = .approved)
      (hdecided : a'.decidedBy = some actor) :
      RequestChange id (.inr (.claimApprovalRequest id actor)) (.ok (some a')) (some a) (some a')
  | rejected (actor reason r a a') (ha : a.status = .pending) :
      RequestChange id (.inr (.rejectApprovalRequest id actor reason)) r (some a) (some a')
  | finalized (status err ledger r a a') (hstatus : a'.status = status)
      (hdecided : a'.decidedBy = a.decidedBy) :
      RequestChange id (.inr (.finalizeApprovalExecution id status err ledger)) r (some a)
        (some a')

section
variable {id : ℤ} {s s' : DB × Desk}

theorem setApproval_ok {a r : Approval} {u : Unit} (ha : s.2.requests.lookup id = some a)
    (h : setApproval id r s = .ok (u, s')) (id' : ℤ) :
    s'.2.requests.lookup id' = if id' = id then some r else s.2.requests.lookup id' := by
  cases h
  simp only [lookup_updateWhere]
  by_cases hid : id' = id <;> simp [hid, ha]

/-- A conditional decision: it did not land and nothing changed, or the pending row was rewritten. -/
theorem decidePending_ok {decidedBy : String} {f : ApprovalRow → ApprovalRow} {q : Option Approval}
    (h : decidePending id decidedBy f s = .ok (q, s')) :
    (q = none ∧ s' = s) ∨
    ∃ a a', q = some a' ∧ s.2.requests.lookup id = some a ∧ a.status = .pending ∧
      a'.toApprovalRow = f { a.toApprovalRow with decidedBy := some decidedBy } ∧
      ∀ id', s'.2.requests.lookup id' = if id' = id then some a' else s.2.requests.lookup id' := by
  rw [decidePending, get_bind_ok] at h
  cases hl : s.2.requests.lookup id with
  | none =>
    simp only [hl, pure_ok] at h
    cases h
    exact .inl ⟨rfl, rfl⟩
  | some a =>
    simp only [hl, ite_ok, require_bind_ok, lift_bind_ok, pure_ok] at h
    obtain ⟨hst, -, a', hcheck, h⟩ | ⟨-, hr⟩ := h
    · obtain ⟨_, _, hset, hr⟩ := bind_ok.mp h
      cases hr
      exact .inr ⟨a, a', rfl, rfl, hst, ApprovalRow.check_ok hcheck, setApproval_ok hl hset⟩
    · cases hr
      exact .inl ⟨rfl, rfl⟩

theorem FinalizeApprovalExecution_ok {status : ApprovalStatus} {err : Option GatedErr}
    {ledger : Option ℤ} {u : Unit} (h : FinalizeApprovalExecution id status err ledger s = .ok (u, s')) :
    ∃ a a', s.2.requests.lookup id = some a ∧
      a'.toApprovalRow = { a.toApprovalRow with
        status := status, executionError := err, ledgerEntryID := ledger } ∧
      ∀ id', s'.2.requests.lookup id' = if id' = id then some a' else s.2.requests.lookup id' := by
  simp only [FinalizeApprovalExecution, get_bind_ok, orThrow_bind_ok,
    require_bind_ok, lift_bind_ok] at h
  obtain ⟨a, ha, -, a', hcheck, hset⟩ := h
  exact ⟨a, a', ha, ApprovalRow.check_ok hcheck, setApproval_ok ha hset⟩

theorem CreateApprovalRequest_ok {req : NewApproval} {q : ℤ × Approval}
    (h : CreateApprovalRequest req s = .ok (q, s')) :
    q.2.status = .pending ∧ s'.2.requests = s.2.requests.add q.2 := by
  simp only [CreateApprovalRequest, get_bind_ok, require_bind_ok, lift_bind_ok,
    set_bind_ok, pure_ok] at h
  obtain ⟨-, amount, -, -, a, hcheck, hr⟩ := h
  cases hr
  exact ⟨congrArg ApprovalRow.status (ApprovalRow.check_ok hcheck), rfl⟩

theorem CreateRefund_ok {sub ledger : ℤ} {amount : Decimal} {reason refundedBy : String} {q : ℤ}
    (h : BillingStore.CreateRefund sub ledger amount reason refundedBy s = .ok (q, s')) :
    s'.2.requests = s.2.requests := by
  simp only [BillingStore.CreateRefund, get_bind_ok, require_bind_ok, orThrow_bind_ok,
    dite_throw_ok, set_bind_ok, pure_ok] at h
  obtain ⟨-, -, n, -, -, hpos, hr⟩ := h
  cases hr
  rfl

/-- How any call changes the row of a request. -/
theorem deskExec_row (e : DeskEnv) (c : deskSig.Call) (s : DB × Desk) (id : ℤ) :
    RequestChange id c (deskExec e c s).1 (s.2.requests.lookup id) ((deskExec e c s).2.2.requests.lookup id) := by
  rcases c with c | op
  · exact .same _ _ _ (some_ne_none id).symm
  by_cases hf : e.deskFails op = true
  · simp only [deskExec, hf, if_true]
    cases op <;> exact .same _ _ _ (some_ne_none id).symm
  have hx : deskExec e (.inr op) s = op.tx.commit s := if_neg hf
  rw [hx]
  rcases commit_cases op.tx s with ⟨q, s', h, hc⟩ | ⟨err, hc⟩ <;> rw [hc]
  · cases op with
    | createApprovalRequest req =>
      obtain ⟨hst, hreq⟩ := CreateApprovalRequest_ok h
      simp only [hreq]
      by_cases hid : id = s.2.requests.last + 1
      · subst hid
        simp only [lookup_next, lookup_add_self]
        exact .created req _ _ hst
      · simp only [lookup_add_ne _ _ hid]
        exact .same _ _ _ (some_ne_none id).symm
    | getApprovalRequest id' =>
      cases h
      exact .same _ _ _ (some_ne_none id).symm
    | claimApprovalRequest id' actor =>
      rw [DeskOp.tx] at h
      rcases decidePending_ok h with ⟨rfl, rfl⟩ | ⟨a, a', rfl, ha, hst, ha', hrow⟩
      · exact .same _ _ _ (some_ne_none id).symm
      · simp only [hrow]
        by_cases hid : id = id'
        · subst hid
          rw [if_pos rfl, ha]
          exact .claimed actor a a' hst (congrArg status ha')
            (congrArg decidedBy ha')
        · rw [if_neg hid]
          exact .same _ _ _ fun h => hid (Option.some.inj h).symm
    | rejectApprovalRequest id' actor reason =>
      rw [DeskOp.tx] at h
      rcases decidePending_ok h with ⟨rfl, rfl⟩ | ⟨a, a', rfl, ha, hst, -, hrow⟩
      · exact .same _ _ _ (some_ne_none id).symm
      · simp only [hrow]
        by_cases hid : id = id'
        · subst hid
          rw [if_pos rfl, ha]
          exact .rejected actor reason _ a a' hst
        · rw [if_neg hid]
          exact .same _ _ _ (some_ne_none id).symm
    | finalizeApprovalExecution id' status err ledger =>
      obtain ⟨a, a', ha, ha', hrow⟩ := FinalizeApprovalExecution_ok h
      simp only [hrow]
      by_cases hid : id = id'
      · subst hid
        rw [if_pos rfl, ha]
        exact .finalized status err ledger _ a a' (by rw [ha']) (by rw [ha'])
      · rw [if_neg hid]
        exact .same _ _ _ (some_ne_none id).symm
    | createRefund sub ledger amount reason refundedBy =>
      rw [CreateRefund_ok h]
      exact .same _ _ _ (some_ne_none id).symm
  · cases op <;> exact .same _ _ _ (some_ne_none id).symm

end

/-! ### What a call does on its own -/

/-- A thread's record: the request it has claimed, and whether it has acted for it. -/
def ticket : Watch deskSig (Option (ℤ × Bool))
  | w, .inl c, _ => if c.2.acts then some (c.1, true) else w
  | w, .inr (.claimApprovalRequest id actor), r =>
    match claimedRequest (.inr (.claimApprovalRequest id actor)) r with
    | some id => some (id, false)
    | none => w
  | w, _, _ => w

/-- What a ticket allows: to act once for its request and to record how that went. -/
inductive Gated : Option (ℤ × Bool) → deskSig.Call → Prop where
  | aside (w c) (h : c.2.acts = false) : Gated w (.inl c)
  | act (id c) (h : c.acts = true) : Gated (some (id, false)) (.inl (id, c))
  | create (w req) : Gated w (.inr (.createApprovalRequest req))
  | get (w id) : Gated w (.inr (.getApprovalRequest id))
  | claim (id actor) : Gated none (.inr (.claimApprovalRequest id actor))
  | reject (w id actor reason) : Gated w (.inr (.rejectApprovalRequest id actor reason))
  | finalize (id acted status err ledger) (h : status = .executed ∨ status = .executionFailed) :
      Gated (some (id, acted)) (.inr (.finalizeApprovalExecution id status err ledger))
  | refund (w sub ledger amount reason by') : Gated w (.inr (.createRefund sub ledger amount reason by'))

/-- Nothing is assumed of the answers. -/
abbrev AnyReply : Option (ℤ × Bool) → (c : deskSig.Call) → deskSig.Resp c → Prop := fun _ _ _ => True

/-- The thread holds the ticket of the request, used or not. -/
def HasTicket (id : ℤ) (w : Option (ℤ × Bool)) : Prop := ∃ acted, w = some (id, acted)

section
variable {α : Type} {Q : Option (ℤ × Bool) → α → Prop} {w : Option (ℤ × Bool)}

@[simp] theorem obeys_desk {op : DeskOp} {k : Except StoreErr op.Result → DeskProg α} :
    Prog.Obeys (S := deskSig) ticket AnyReply Gated Q (Prog.call (S := deskSig) (.inr op) k) w ↔
      Gated w (.inr op) ∧ ∀ r : Except StoreErr op.Result,
        Prog.Obeys (S := deskSig) ticket AnyReply Gated Q (k r) (ticket w (.inr op) r) := by
  simp only [obeys_call, AnyReply, true_imp_iff]

/-- A billing program that acts at most once keeps to what a fresh ticket allows. -/
abbrev ActsOnce (id : ℤ) (p : Service α) : Prop :=
  Prog.Obeys (fun w c r => ticket w (.inl (id, c)) r) (fun _ _ _ => True)
    (fun w c => Gated w (.inl (id, c))) (fun w _ => HasTicket id w) p (some (id, false))

theorem gated_onBehalf {id : ℤ} {p : Service α} (h : ActsOnce id p) :
    Prog.Obeys ticket AnyReply Gated (fun w _ => HasTicket id w) (onBehalf id p) (some (id, false)) :=
  obeys_left.mpr (obeys_tag.mpr h)

end

theorem actsOnce_lookupToken (id : ℤ) (token : String) :
    Prog.Obeys (fun w c r => ticket w (.inl (id, c)) r) (fun _ _ _ => True)
      (fun w c => Gated w (.inl (id, c))) (fun w _ => w = some (id, false)) (lookupToken token)
      (some (id, false)) := by
  unfold lookupToken
  split
  · rfl
  · refine ⟨.aside _ _ rfl, fun r _ => ?_⟩
    match r with
    | .ok _ => rfl
    | .error _ => rfl

theorem actsOnce_recordPosting (id : ℤ) (p : RechargePosting) : ActsOnce id (recordPosting p) := by
  refine ⟨.act id _ rfl, fun r _ => ?_⟩
  match r with
  | .ok _ => exact ⟨true, rfl⟩
  | .error _ => exact ⟨true, rfl⟩

theorem actsOnce_Post (id : ℤ) (req : PostRequest) : ActsOnce id (WalletService.Post req) := by
  unfold WalletService.Post
  split
  · exact ⟨false, rfl⟩
  split
  · exact ⟨false, rfl⟩
  split
  · exact ⟨false, rfl⟩
  refine obeys_bind.mpr ((actsOnce_lookupToken id _).mono fun w found hw => ?_)
  subst hw
  cases found with
  | some tx => exact ⟨false, rfl⟩
  | none =>
    refine ⟨.aside _ _ rfl, fun r _ => ?_⟩
    match r with
    | .error _ => exact ⟨false, rfl⟩
    | .ok b =>
      simp only [Prog.bind]
      split
      · exact ⟨false, rfl⟩
      · exact actsOnce_recordPosting id _

theorem actsOnce_performTermination (id sub : ℤ) : ActsOnce id (performTermination sub) := by
  refine ⟨.act id _ rfl, fun r _ => ?_⟩
  match r with
  | .error _ => exact ⟨true, rfl⟩
  | .ok none => exact ⟨true, rfl⟩
  | .ok (some _) => exact ⟨true, rfl⟩

theorem gated_performGatedAction (id : ℤ) (req : Approval) :
    Prog.Obeys ticket AnyReply Gated (fun w _ => HasTicket id w) (performGatedAction id req)
      (some (id, false)) := by
  unfold performGatedAction
  split
  · refine obeys_bind.mpr ((gated_onBehalf (actsOnce_performTermination id _)).mono ?_)
    intro w r hw
    cases r <;> exact hw
  split
  · exact ⟨false, rfl⟩
  refine obeys_bind.mpr ((gated_onBehalf (actsOnce_Post id _)).mono ?_)
  intro w r hw
  match r with
  | .error _ => exact hw
  | .ok tx =>
    dsimp only
    split
    · rw [desk_bind, obeys_desk]
      refine ⟨.refund _ _ _ _ _ _, fun r => ?_⟩
      match r with
      | .error _ => exact hw
      | .ok _ => exact hw
    · exact hw

theorem gated_ExecuteApprovedRequest (id : ℤ) (actor : String) :
    Prog.Obeys ticket AnyReply Gated (fun _ _ => True) (ExecuteApprovedRequest id actor) none := by
  rw [ExecuteApprovedRequest, desk_bind, obeys_desk]
  refine ⟨.claim id actor, fun r => ?_⟩
  match r with
  | .error _ => trivial
  | .ok none => trivial
  | .ok (some claimed) =>
    refine obeys_bind.mpr (Prog.Obeys.mono (Q := fun _ _ => True) (fun _ _ _ => trivial) ?_)
    refine obeys_bind.mpr ((gated_performGatedAction id claimed).mono ?_)
    rintro w ⟨ledger, err⟩ ⟨acted, rfl⟩
    refine ⟨.finalize id acted _ _ _ ?_, fun _ _ => trivial⟩
    cases err
    · exact .inl rfl
    · exact .inr rfl

theorem gated_decidable (id : ℤ) (actor : String) :
    Prog.Obeys ticket AnyReply Gated (fun w _ => w = none) (decidable id actor) none := by
  rw [decidable, desk_bind, obeys_desk]
  refine ⟨.get none id, fun r => ?_⟩
  match r with
  | .error _ => rfl
  | .ok none => rfl
  | .ok (some existing) =>
    dsimp only
    split <;> rfl

/-- Every call of a staff member keeps to its ticket. -/
theorem StaffCall.gated (c : StaffCall) : Prog.Obeys ticket AnyReply Gated (fun _ _ => True) c.prog none := by
  cases c with
  | request requestedBy req => exact ⟨.create none _, fun _ _ => trivial⟩
  | execute id actor =>
    exact obeys_bind.mpr ((gated_ExecuteApprovedRequest id actor).mono fun _ _ _ => trivial)
  | approve id actor =>
    refine obeys_bind.mpr (Prog.Obeys.mono (Q := fun _ _ => True) (fun _ _ _ => trivial) ?_)
    refine obeys_bind.mpr ((gated_decidable id actor).mono ?_)
    rintro w r rfl
    match r with
    | .error _ => trivial
    | .ok () =>
      refine obeys_bind.mpr ((gated_ExecuteApprovedRequest id actor).mono ?_)
      intro w r _
      match r with
      | .error .alreadyDecided => trivial
      | .error (.store _) => trivial
      | .ok _ => trivial
  | reject id actor reason =>
    refine obeys_bind.mpr (Prog.Obeys.mono (Q := fun _ _ => True) (fun _ _ _ => trivial) ?_)
    unfold RejectRequest
    split
    · trivial
    refine obeys_bind.mpr ((gated_decidable id actor).mono ?_)
    rintro w r rfl
    match r with
    | .error _ => trivial
    | .ok () =>
      rw [desk_bind, obeys_desk]
      refine ⟨.reject none id actor reason, fun r => ?_⟩
      match r with
      | .error _ => trivial
      | .ok none => trivial
      | .ok (some _) => trivial

/-! ### The claim across a call -/

/-- The request was claimed while it was pending, and its row says so and has been decided since. -/
structure Decided (id : ℤ) (s : (DB × Desk) × List DeskEvent) : Prop where
  claim : ∃ ev ∈ s.2, ClaimsPending id ev
  row : ∃ a, s.1.2.requests.lookup id = some a ∧ a.status ≠ .pending ∧ a.status ≠ .rejected ∧
    a.decidedBy.isSome = true

section
variable {id : ℤ} {e : DeskEnv} {c : deskSig.Call} {w : Option (ℤ × Bool)}
  {s : (DB × Desk) × List DeskEvent}

/-- A claim that lands finds the request pending and leaves it approved, by somebody. -/
theorem claimed_row (h : claimedRequest c (deskExec e c s.1).1 = some id) :
    (∃ a, s.1.2.requests.lookup id = some a ∧ a.status = .pending) ∧
    ∃ a, (deskExec e c s.1).2.2.requests.lookup id = some a ∧ a.status = .approved ∧ a.decidedBy.isSome = true := by
  have hrow := deskExec_row e c s.1 id
  generalize s.1.2.requests.lookup id = o at hrow ⊢
  generalize (deskExec e c s.1).2.2.requests.lookup id = o' at hrow ⊢
  generalize (deskExec e c s.1).1 = r at hrow h
  cases hrow with
  | same _ _ _ hne => exact absurd h hne
  | claimed actor a a' ha hst hby => exact ⟨⟨a, rfl, ha⟩, a', rfl, hst, by simp [hby]⟩
  | _ => cases h

/-- So it decides the request. -/
theorem decided_of_claimed (h : claimedRequest c (deskExec e c s.1).1 = some id) :
    Decided id (traced deskExec e c s).2 := by
  obtain ⟨hpending, a, ha, hst, hby⟩ := claimed_row h
  exact ⟨⟨eventAt deskExec e c s.1, mem_append_right _ (.head _), h, hpending⟩,
    a, ha, by simp [hst], by simp [hst], hby⟩

/-- A decided request cannot be claimed again. -/
theorem Decided.not_claimed (hd : Decided id s) : claimedRequest c (deskExec e c s.1).1 ≠ some id := by
  intro h
  obtain ⟨⟨a, ha, hpend⟩, -⟩ := claimed_row h
  obtain ⟨a', ha', hne, -⟩ := hd.row
  cases ha.symm.trans ha'
  exact hne hpend

/-- A call that keeps to its ticket leaves a decided request decided. -/
theorem Decided.call (hd : Decided id s) (hg : Gated w c) : Decided id (traced deskExec e c s).2 := by
  obtain ⟨⟨ev, hev, hclaim⟩, a, ha, hne, hnr, hby⟩ := hd
  refine ⟨⟨ev, mem_append_left _ hev, hclaim⟩, ?_⟩
  have hrow := deskExec_row e c s.1 id
  rw [ha] at hrow
  show ∃ a, (deskExec e c s.1).2.2.requests.lookup id = some a ∧ _
  generalize (deskExec e c s.1).2.2.requests.lookup id = o' at hrow ⊢
  generalize (deskExec e c s.1).1 = r at hrow
  cases hrow with
  | same => exact ⟨a, rfl, hne, hnr, hby⟩
  | claimed _ _ _ hpend => exact absurd hpend hne
  | rejected _ _ _ _ _ hpend => exact absurd hpend hne
  | finalized status err ledger _ _ a' hst hdec =>
    refine ⟨a', rfl, ?_⟩
    rw [hst, hdec]
    cases hg with
    | finalize _ _ _ _ _ hfinal =>
      rcases hfinal with rfl | rfl <;> exact ⟨nofun, nofun, hby⟩

/-- A thread with the ticket after its call has just claimed the request, has just acted for it, or
    held the same ticket before. -/
theorem ticket_cases {r : deskSig.Resp c} {acted : Bool} (hg : Gated w c) (h : ticket w c r = some (id, acted)) :
    (w = none ∧ claimedRequest c r = some id ∧ acted = false) ∨
    (w = some (id, false) ∧ acted = true ∧ ∃ b, c = .inl (id, b) ∧ b.acts = true) ∨
    (w = some (id, acted) ∧ ∀ b, c = .inl b → b.2.acts = false) := by
  cases hg with
  | aside _ b hb =>
    rw [ticket, hb] at h
    exact .inr (.inr ⟨h, fun b' hb' => by cases hb'; exact hb⟩)
  | act id' b hb =>
    rw [ticket, if_pos hb] at h
    cases h
    exact .inr (.inl ⟨rfl, rfl, b, rfl, hb⟩)
  | claim id' actor =>
    rw [ticket] at h
    split at h
    · rename_i hclaim
      cases h
      exact .inl ⟨rfl, hclaim, rfl⟩
    · cases h
  | create => exact .inr (.inr ⟨h, fun _ hb => absurd hb Sum.inr_ne_inl⟩)
  | get => exact .inr (.inr ⟨h, fun _ hb => absurd hb Sum.inr_ne_inl⟩)
  | reject => exact .inr (.inr ⟨h, fun _ hb => absurd hb Sum.inr_ne_inl⟩)
  | finalize => exact .inr (.inr ⟨h, fun _ hb => absurd hb Sum.inr_ne_inl⟩)
  | refund => exact .inr (.inr ⟨h, fun _ hb => absurd hb Sum.inr_ne_inl⟩)

/-- The action of a request takes a fresh ticket of it. -/
theorem Gated.of_isAct (hg : Gated w c) (h : isAct id (eventAt deskExec e c s.1) = true) :
    w = some (id, false) := by
  cases hg with
  | aside _ b hb => simp [isAct, eventAt, hb] at h
  | act id' b _ =>
    simp only [isAct, eventAt, decide_eq_true_eq] at h
    rw [h.1]
  | _ => cases h

end

/-! ### Every run -/

abbrev DeskPool := Pool deskSig (Option (ℤ × Bool)) ((DB × Desk) × List DeskEvent)

/-- The calls of the staff, all at their beginning. -/
def deskPool (s : DB × Desk) (calls : List StaffCall) : DeskPool :=
  Pool.start none (s, []) (calls.map StaffCall.prog)

def runDesk (p : DeskPool) (sched : List (ℕ × DeskEnv)) : DeskPool :=
  Pool.run (traced deskExec) ticket p sched

/-- What holds of a request in every state: one ticket at most, and one action at most, on it. -/
structure OneTicket (id : ℤ) (p : DeskPool) : Prop where
  obeys : Pool.Obeying ticket AnyReply (fun _ => Gated) (fun _ _ => True) p
  lone : ∀ (i j : ℕ) (b b' : Bool) (q q' : DeskProg Unit), p.threads[i]? = some (some (id, b), q) →
    p.threads[j]? = some (some (id, b'), q') → i = j
  held : ∀ (i : ℕ) (b : Bool) (q : DeskProg Unit), p.threads[i]? = some (some (id, b), q) →
    Decided id p.shared
  fresh : ∀ (i : ℕ) (q : DeskProg Unit), p.threads[i]? = some (some (id, false), q) →
    actions id p.shared.2 = 0
  once : actions id p.shared.2 ≤ 1
  acted : 0 < actions id p.shared.2 → Decided id p.shared
  first : ClaimedFirst id p.shared.2

theorem oneTicket_start (id : ℤ) (s : DB × Desk) (calls : List StaffCall) : OneTicket id (deskPool s calls) := by
  have hnone : ∀ (i : ℕ) (b : Bool) (q : DeskProg Unit),
      (deskPool s calls).threads[i]? ≠ some (some (id, b), q) := by
    intro i b q hi
    simp [deskPool, Pool.start] at hi
  refine ⟨obeying_start fun i q hq => ?_, fun i _ b _ q _ hi => absurd hi (hnone i b q),
    fun i b q hi => absurd hi (hnone i b q), fun _ _ _ => rfl, Nat.zero_le 1,
    fun h => absurd h (lt_irrefl 0), fun before ev after h => ?_⟩
  · obtain ⟨c, -, rfl⟩ := mem_map.mp (mem_of_getElem? hq)
    exact c.gated
  · simp [deskPool, Pool.start] at h

section
variable {id : ℤ} {p : DeskPool} {i : ℕ} {e : DeskEnv} {w : Option (ℤ × Bool)} {c : deskSig.Call}
  {k : deskSig.Resp c → DeskProg Unit}

/-- Nobody has a ticket, or has acted, when a claim lands. -/
theorem OneTicket.unclaimed (hp : OneTicket id p) (hc : claimedRequest c (deskExec e c p.shared.1).1 = some id) :
    (∀ (j : ℕ) (b : Bool) (q : DeskProg Unit), p.threads[j]? ≠ some (some (id, b), q)) ∧
      actions id p.shared.2 = 0 := by
  refine ⟨fun j b q hj => (hp.held j b q hj).not_claimed hc, ?_⟩
  by_contra hpos
  exact (hp.acted (Nat.pos_of_ne_zero hpos)).not_claimed hc

/-- Whoever has a ticket after a call had it before, or nobody had. -/
theorem OneTicket.lone_step (hp : OneTicket id p) (hi : p.Calling i w c k)
    {b b' : Bool} {j : ℕ} {q : DeskProg Unit}
    (hw : ticket w c (deskExec e c p.shared.1).1 = some (id, b))
    (hj : p.threads[j]? = some (some (id, b'), q)) : i = j := by
  rcases ticket_cases (hp.obeys.allowed hi) hw with ⟨-, hc, -⟩ | ⟨rfl, -⟩ | ⟨rfl, -⟩
  · exact absurd hj ((hp.unclaimed hc).1 j b' q)
  · exact hp.lone i j _ _ _ _ hi hj
  · exact hp.lone i j _ _ _ _ hi hj

theorem OneTicket.held_step (hp : OneTicket id p) (hi : p.Calling i w c k)
    {b : Bool} (hw : ticket w c (deskExec e c p.shared.1).1 = some (id, b)) :
    Decided id (traced deskExec e c p.shared).2 := by
  have hg := hp.obeys.allowed hi
  rcases ticket_cases hg hw with ⟨-, hc, -⟩ | ⟨rfl, -⟩ | ⟨rfl, -⟩
  · exact decided_of_claimed hc
  · exact (hp.held i _ _ hi).call hg
  · exact (hp.held i _ _ hi).call hg

theorem actions_snoc (id : ℤ) (p : DeskPool) (e : DeskEnv) (c : deskSig.Call) :
    actions id (traced deskExec e c p.shared).2.2 =
      actions id p.shared.2 + (isAct id (eventAt deskExec e c p.shared.1)).toNat :=
  countP_snoc _ _ _

/-- A call that is not the action leaves the count as it is. -/
theorem actions_idle (h : isAct id (eventAt deskExec e c p.shared.1) = false) :
    actions id (traced deskExec e c p.shared).2.2 = actions id p.shared.2 := by
  rw [actions_snoc, h]
  rfl

/-- Whoever has a fresh ticket after a call has not acted, and nobody else has. -/
theorem OneTicket.fresh_step (hp : OneTicket id p) (hi : p.Calling i w c k)
    (hw : ticket w c (deskExec e c p.shared.1).1 = some (id, false)) :
    actions id (traced deskExec e c p.shared).2.2 = 0 := by
  have hg : Gated w c := hp.obeys.allowed hi
  rcases ticket_cases hg hw with ⟨rfl, hc, -⟩ | ⟨-, hacted, -⟩ | ⟨rfl, hc⟩
  · rw [actions_idle (Bool.eq_false_iff.mpr fun h => by cases hg.of_isAct h)]
    exact (hp.unclaimed hc).2
  · cases hacted
  · rw [actions_idle ?_]
    · exact hp.fresh i _ hi
    · rcases c with b | op
      · simp [isAct, eventAt, hc b rfl]
      · rfl

end

theorem oneTicket_step (id : ℤ) (p : DeskPool) (i : ℕ) (e : DeskEnv) (hp : OneTicket id p) :
    OneTicket id (Pool.step (traced deskExec) ticket p i e) := by
  have hobeys := obeying_step (M := traced deskExec) (e := e) (i := i) hp.obeys
    fun _ _ _ _ => trivial
  refine step_ind hp fun w c k hi => ?_
  have hg : Gated w c := hp.obeys.allowed hi
  have hshared : (Pool.step (traced deskExec) ticket p i e).shared = (traced deskExec e c p.shared).2 :=
    step_shared hi
  refine ⟨hobeys, fun j j' b b' q q' hj hj' => ?_, fun j b q hj => ?_, fun j q hj => ?_, ?_, ?_, ?_⟩
  · rcases step_thread hi hj with ⟨rfl, hw, -⟩ | ⟨-, hold⟩ <;>
      rcases step_thread hi hj' with ⟨rfl, hw', -⟩ | ⟨-, hold'⟩
    · rfl
    · exact hp.lone_step hi hw.symm hold'
    · exact (hp.lone_step hi hw'.symm hold).symm
    · exact hp.lone j j' b b' q q' hold hold'
  · rw [hshared]
    rcases step_thread hi hj with ⟨-, hw, -⟩ | ⟨-, hold⟩
    · exact hp.held_step hi hw.symm
    · exact (hp.held j b q hold).call hg
  · rw [hshared]
    rcases step_thread hi hj with ⟨-, hw, -⟩ | ⟨hji, hold⟩
    · exact hp.fresh_step hi hw.symm
    · rw [actions_idle (Bool.eq_false_iff.mpr fun h => ?_)]
      · exact hp.fresh j q hold
      · cases hg.of_isAct h
        exact hji (hp.lone j i _ _ _ _ hold hi)
  · rw [hshared, actions_snoc]
    cases hact : isAct id (eventAt deskExec e c p.shared.1) with
    | false => exact hp.once
    | true =>
      cases hg.of_isAct hact
      rw [hp.fresh i _ hi]
      rfl
  · rw [hshared, actions_snoc]
    cases hact : isAct id (eventAt deskExec e c p.shared.1) with
    | false => exact fun h => (hp.acted h).call hg
    | true =>
      cases hg.of_isAct hact
      exact fun _ => (hp.held i _ _ hi).call hg
  · rw [hshared]
    refine hp.first.snoc fun hact => ?_
    cases hg.of_isAct hact
    exact (hp.held i _ _ hi).claim

/-- Any calls of any staff members, in any interleaving, with any store call failing and any call
    stopping anywhere: the action of a request is set off at most once, only after the request was
    claimed while pending, and if it was set off the request is not rejected and was decided by
    somebody other than the requester. -/
theorem gated_action_once_and_only_approved (s : DB × Desk) (calls : List StaffCall) (id : ℤ)
    (sched : List (ℕ × DeskEnv)) :
    actions id (runDesk (deskPool s calls) sched).shared.2 ≤ 1 ∧
    ClaimedFirst id (runDesk (deskPool s calls) sched).shared.2 ∧
    (0 < actions id (runDesk (deskPool s calls) sched).shared.2 →
      ∃ a, (runDesk (deskPool s calls) sched).shared.1.2.requests.lookup id = some a ∧
        a.status ≠ .pending ∧ a.status ≠ .rejected ∧
        ∃ d, a.decidedBy = some d ∧ d ≠ a.requestedBy) := by
  have h : OneTicket id (runDesk (deskPool s calls) sched) :=
    run_inv (C := fun _ _ _ => True) (fun p i e hp _ => oneTicket_step id p i e hp) sched _
      (oneTicket_start id s calls) (meets_of_forall (fun _ _ _ => trivial) sched _)
  refine ⟨h.once, h.first, fun hpos => ?_⟩
  obtain ⟨a, ha, hne, hnr, hby⟩ := (h.acted hpos).row
  obtain ⟨d, hd⟩ := isSome_iff_exists.mp hby
  exact ⟨a, ha, hne, hnr, d, hd, a.distinct_approver d hd⟩

end IspBss
