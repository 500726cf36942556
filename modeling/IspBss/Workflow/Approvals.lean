import IspBss.Api.Lifecycle
import IspBss.Lib.Compose
import IspBss.Lib.Rows

/-! Second-approver sign-off: staff credits, refunds and terminations.

    A gated endpoint files a pending request. A decision claims it with one conditional update, runs
    the action it authorises and records how that went. Four separate calls:

        GetApprovalRequest ─▶ ValidateDecision ─▶ Claim (pending ─▶ approved)
            ─▶ performGatedAction ─▶ Finalize (executed or execution_failed)
        GetApprovalRequest ─▶ ValidateDecision ─▶ Reject (pending ─▶ rejected)

    The calls an approved action makes to the billing stores are tagged with the request they are made
    for. -/

namespace IspBss

open Lib Tx

/-! ### The tables -/

inductive ActionType where
  | walletCredit | refund | terminate
  deriving DecidableEq, Repr

inductive ApprovalStatus where
  | pending | approved | rejected | executed | executionFailed
  deriving DecidableEq, Repr

/-- Why an approved action failed. -/
inductive GatedErr where
  | noAmount
  | wallet (e : WalletErr)
  | refund (e : StoreErr)
  | termination (message : String)
  deriving DecidableEq

/-- The columns of an `approval_requests` row, before its constraints are checked. -/
structure ApprovalRow where
  actionType : ActionType
  subscriberID : ℤ
  amount : Option ℤ
  reason : String
  status : ApprovalStatus
  requestedBy : String
  decidedBy : Option String
  decisionReason : Option String
  executionError : Option GatedErr
  ledgerEntryID : Option ℤ
  deriving DecidableEq

/-- `chk_approval_distinct_approver`. -/
def ApprovalRow.DistinctApprover (r : ApprovalRow) : Prop := ∀ d ∈ r.decidedBy, d ≠ r.requestedBy
  deriving Decidable

/-- `chk_approval_amount_by_type`. -/
def ApprovalRow.AmountByType (r : ApprovalRow) : Prop :=
  (r.actionType = .terminate ∧ r.amount = none) ∨
    (r.actionType ≠ .terminate ∧ ∃ a ∈ r.amount, 0 < a)
  deriving Decidable

/-- A stored `approval_requests` row. -/
structure Approval extends ApprovalRow where
  distinct_approver : toApprovalRow.DistinctApprover
  amount_by_type : toApprovalRow.AmountByType
  deriving DecidableEq

/-- Check the constraints of a row. -/
def ApprovalRow.check (r : ApprovalRow) : Except StoreErr Approval :=
  if hd : r.DistinctApprover then
    if ha : r.AmountByType then .ok { r with distinct_approver := hd, amount_by_type := ha }
    else .error (.check "chk_approval_amount_by_type")
  else .error (.check "chk_approval_distinct_approver")

theorem ApprovalRow.check_ok {r : ApprovalRow} {a : Approval} (h : r.check = .ok a) : a.toApprovalRow = r := by
  unfold ApprovalRow.check at h
  split at h
  · split at h
    · rw [← Except.ok.inj h]
    · cases h
  · cases h

/-- `payment_refunds`. -/
structure Refund where
  subscriberID : ℤ
  ledgerEntryID : ℤ
  amount : ℤ
  reason : String
  refundedBy : String
  amount_pos : 0 < amount
  deriving DecidableEq

/-- The tables of the approval workflow, beside the billing database. -/
structure Desk where
  requests : Serial Approval
  refunds : List Refund

/-- A transaction on both; none of these writes the billing database. -/
abbrev DeskTx := Tx StoreErr (DB × Desk)

/-! ### The store -/

/-- A request as the gated endpoints file it. -/
structure NewApproval where
  actionType : ActionType
  subscriberID : ℤ
  amount : Option Decimal
  reason : String
  requestedBy : String
  deriving DecidableEq

/-- The amount as its column holds it. -/
def amountColumn (amount : Option Decimal) (column : String) : Except StoreErr (Option ℤ) :=
  match amount with
  | none => .ok none
  | some q =>
    match numeric12 q with
    | none => .error (.overflow column)
    | some n => .ok (some n)

/-- Rewrite the row with this id. -/
def setApproval (id : ℤ) (r : Approval) : DeskTx Unit := do
  let (db, desk) ← get
  set (db, { desk with requests := desk.requests.updateWhere (fun k _ => k = id) fun _ => r })

namespace WorkflowStore

def CreateApprovalRequest (req : NewApproval) : DeskTx (ℤ × Approval) := do
  let (db, desk) ← get
  require (req.subscriberID ∈ db.subscribers) (.foreignKey "approval_requests.subscriber_id")
  let amount ← amountColumn req.amount "approval_requests.amount"
  require (req.requestedBy.length ≤ 100) (.tooLong "approval_requests.requested_by_username")
  let r ← ApprovalRow.check
    { actionType := req.actionType, subscriberID := req.subscriberID, amount := amount,
      reason := req.reason, status := .pending, requestedBy := req.requestedBy, decidedBy := none,
      decisionReason := none, executionError := none, ledgerEntryID := none }
  set (db, { desk with requests := desk.requests.add r })
  return (desk.requests.last + 1, r)

variable (id : ℤ)

def GetApprovalRequest : DeskTx (Option Approval) := do
  let (_, desk) ← get
  return desk.requests.lookup id

/-- A conditional update: only a row that is still pending matches. -/
def decidePending (decidedBy : String) (f : ApprovalRow → ApprovalRow) :
    DeskTx (Option Approval) := do
  let (_, desk) ← get
  match desk.requests.lookup id with
  | none => return none
  | some r =>
    if r.status = .pending then
      require (decidedBy.length ≤ 100) (.tooLong "approval_requests.decided_by_username")
      let r' ← (f { r.toApprovalRow with decidedBy := some decidedBy }).check
      setApproval id r'
      return some r'
    else return none

def ClaimApprovalRequest (decidedBy : String) : DeskTx (Option Approval) :=
  decidePending id decidedBy fun r => { r with status := .approved }

def RejectApprovalRequest (decidedBy reason : String) : DeskTx (Option Approval) :=
  decidePending id decidedBy fun r => { r with status := .rejected, decisionReason := some reason }

/-- Record the outcome; the row is matched by its id alone. -/
def FinalizeApprovalExecution (status : ApprovalStatus) (executionError : Option GatedErr)
    (ledgerEntryID : Option ℤ) : DeskTx Unit := do
  let (db, desk) ← get
  let r ← orThrow (desk.requests.lookup id) .notFound
  require (∀ l ∈ ledgerEntryID, ∃ row ∈ db.walletLedgers.rows, row.id = l)
    (.foreignKey "approval_requests.ledger_entry_id")
  let r' ← ApprovalRow.check { r.toApprovalRow with
    status := status, executionError := executionError, ledgerEntryID := ledgerEntryID }
  setApproval id r'

end WorkflowStore

/-- The business record of a refund, linked to the ledger row of its debit. -/
def BillingStore.CreateRefund (subscriberID ledgerEntryID : ℤ) (amount : Decimal)
    (reason refundedBy : String) : DeskTx ℤ := do
  let (db, desk) ← get
  require (subscriberID ∈ db.subscribers) (.foreignKey "payment_refunds.subscriber_id")
  require (∃ row ∈ db.walletLedgers.rows, row.id = ledgerEntryID)
    (.foreignKey "payment_refunds.ledger_entry_id")
  let n ← orThrow (numeric12 amount) (.overflow "payment_refunds.amount")
  require (refundedBy.length ≤ 100) (.tooLong "payment_refunds.refunded_by_username")
  if h : 0 < n then
    let refund : Refund := ⟨subscriberID, ledgerEntryID, n, reason, refundedBy, h⟩
    set (db, { desk with refunds := desk.refunds ++ [refund] })
    return (desk.refunds.length : ℤ) + 1
  else throw (.check "payment_refunds_amount_check")

/-! ### The calls -/

inductive DeskOp where
  | createApprovalRequest (req : NewApproval)
  | getApprovalRequest (id : ℤ)
  | claimApprovalRequest (id : ℤ) (decidedBy : String)
  | rejectApprovalRequest (id : ℤ) (decidedBy reason : String)
  | finalizeApprovalExecution (id : ℤ) (status : ApprovalStatus) (executionError : Option GatedErr)
      (ledgerEntryID : Option ℤ)
  | createRefund (subscriberID ledgerEntryID : ℤ) (amount : Decimal) (reason refundedBy : String)
  deriving DecidableEq

@[reducible] def DeskOp.Result : DeskOp → Type
  | createApprovalRequest _ => ℤ × Approval
  | getApprovalRequest _ => Option Approval
  | claimApprovalRequest _ _ => Option Approval
  | rejectApprovalRequest _ _ _ => Option Approval
  | finalizeApprovalExecution _ _ _ _ => Unit
  | createRefund _ _ _ _ _ => ℤ

def DeskOp.tx : (op : DeskOp) → DeskTx op.Result
  | createApprovalRequest req => WorkflowStore.CreateApprovalRequest req
  | getApprovalRequest id => WorkflowStore.GetApprovalRequest id
  | claimApprovalRequest id decidedBy => WorkflowStore.ClaimApprovalRequest id decidedBy
  | rejectApprovalRequest id decidedBy reason =>
    WorkflowStore.RejectApprovalRequest id decidedBy reason
  | finalizeApprovalExecution id status executionError ledgerEntryID =>
    WorkflowStore.FinalizeApprovalExecution id status executionError ledgerEntryID
  | createRefund subscriberID ledgerEntryID amount reason refundedBy =>
    BillingStore.CreateRefund subscriberID ledgerEntryID amount reason refundedBy

@[reducible] def deskOps : Sig := ⟨DeskOp, fun op => Except StoreErr op.Result⟩

/-- The billing calls, tagged with the request they are made for, and the workflow's own. -/
@[reducible] def deskSig : Sig := (sig.tagged ℤ).sum deskOps

/-- What a step is taken in: the clock, and the calls that fail. -/
structure DeskEnv extends Env where
  deskFails : DeskOp → Bool

def deskExec : Store deskSig DeskEnv (DB × Desk)
  | e, .inl c, s => ((exec e.toEnv c.2 s.1).1, (exec e.toEnv c.2 s.1).2, s.2)
  | e, .inr op, s => if e.deskFails op then (.error .unavailable, s) else op.tx.commit s

abbrev DeskProg := Prog deskSig

def desk (op : DeskOp) : DeskProg (Except StoreErr op.Result) :=
  Prog.perform (S := deskSig) (.inr op)

/-- Run a billing program on behalf of a request. -/
def onBehalf {α : Type} (id : ℤ) (p : Service α) : DeskProg α := (p.tag id).left

@[simp] theorem desk_bind {α : Type} (op : DeskOp) (f : Except StoreErr op.Result → DeskProg α) :
    (desk op >>= f) = Prog.call (S := deskSig) (.inr op) f := rfl

/-! ### The rules of a decision -/

inductive DecisionErr where
  | alreadyDecided
  | selfApproval
  deriving DecidableEq

def DecisionErr.text : DecisionErr → String
  | alreadyDecided => "workflow: this approval request has already been decided"
  | selfApproval =>
    "workflow: an approval request cannot be decided by the staff member who requested it"

def ValidateDecision (req : Approval) (actor : String) : Except DecisionErr Unit :=
  if req.status ≠ .pending then .error .alreadyDecided
  else if actor = req.requestedBy then .error .selfApproval
  else .ok ()

/-- The response to a decision that may not be made. -/
def DecisionErr.response : DecisionErr → ApiErr
  | selfApproval => ⟨403, "ERR_SELF_APPROVAL", selfApproval.text⟩
  | alreadyDecided => ⟨409, "ERR_ALREADY_DECIDED", alreadyDecided.text⟩

namespace Handler

/-! ### The action -/

/-- The wallet posting of an approved credit or refund. -/
def gatedPosting (req : Approval) (amount : ℤ) : PostRequest where
  subscriberID := req.subscriberID
  franchiseID := none
  amount := paise amount
  direction := some (if req.actionType = .refund then .debit else .credit)
  counterAccount := .adjustmentClearing
  transactionToken := ""
  adjustedBy := req.requestedBy
  description :=
    (if req.actionType = .refund then "refund: " else "staff adjustment: ") ++ req.reason ++
      " (approved by " ++ req.decidedBy.getD "" ++ ")"
  taxAmount := 0

/-- Run the approved action: the id of the ledger row it wrote, and the error it ended with. -/
def performGatedAction (id : ℤ) (req : Approval) : DeskProg (Option ℤ × Option GatedErr) :=
  if req.actionType = .terminate then do
    match ← onBehalf id (performTermination req.subscriberID) with
    | .error message => return (none, some (.termination message))
    | .ok () => return (none, none)
  else match req.amount with
  | none => return (none, some .noAmount)
  | some amount => do
    match ← onBehalf id (WalletService.Post (gatedPosting req amount)) with
    | .error e => return (none, some (.wallet e))
    | .ok tx =>
      if req.actionType = .refund then
        match ← desk (.createRefund req.subscriberID tx.id (paise amount) req.reason
          req.requestedBy) with
        | .error e => return (some tx.id, some (.refund e))
        | .ok _ => return (some tx.id, none)
      else return (some tx.id, none)

/-- Run the action of a claimed request and record its outcome; a record that cannot be written is
    only logged. -/
def executeApprovedAction (id : ℤ) (req : Approval) : DeskProg ApprovalRow := do
  let (ledgerEntryID, execErr) ← performGatedAction id req
  let finalStatus : ApprovalStatus := if execErr.isSome then .executionFailed else .executed
  let _ ← desk (.finalizeApprovalExecution id finalStatus execErr ledgerEntryID)
  return { req.toApprovalRow with
    status := finalStatus, executionError := execErr, ledgerEntryID := ledgerEntryID }

inductive ExecuteErr where
  | alreadyDecided
  | store (e : StoreErr)
  deriving DecidableEq

variable (id : ℤ) (actor : String)

/-- Claim the request and, if the claim lands, run what it authorises. -/
def ExecuteApprovedRequest : DeskProg (Except ExecuteErr ApprovalRow) := do
  match ← desk (.claimApprovalRequest id actor) with
  | .error e => return .error (.store e)
  | .ok none => return .error .alreadyDecided
  | .ok (some claimed) => return .ok (← executeApprovedAction id claimed)

/-! ### The endpoints -/

/-- Look the request up and check that this actor may decide it. -/
def decidable : DeskProg (Except ApiErr Unit) := do
  match ← desk (.getApprovalRequest id) with
  | .error _ => return .error ⟨500, "ERR_INTERNAL", "approval lookup failed"⟩
  | .ok none => return .error ⟨404, "ERR_NOT_FOUND", "approval request not found"⟩
  | .ok (some existing) =>
    match ValidateDecision existing actor with
    | .error e => return .error e.response
    | .ok () => return .ok ()

/-- `POST /approvals/id/approve`. -/
def ApproveRequest : DeskProg (Except ApiErr ApprovalRow) := do
  match ← decidable id actor with
  | .error e => return .error e
  | .ok () =>
    match ← ExecuteApprovedRequest id actor with
    | .error .alreadyDecided => return .error DecisionErr.alreadyDecided.response
    | .error (.store _) => return .error ⟨500, "ERR_INTERNAL", "could not claim approval request"⟩
    | .ok executed => return .ok executed

/-- `POST /approvals/id/reject`. -/
def RejectRequest (id : ℤ) (actor reason : String) : DeskProg (Except ApiErr Approval) :=
  if reason = "" then
    return .error ⟨422, "ERR_VALIDATION", "reason is required to reject a request"⟩
  else do
    match ← decidable id actor with
    | .error e => return .error e
    | .ok () =>
      match ← desk (.rejectApprovalRequest id actor reason) with
      | .error _ => return .error ⟨500, "ERR_INTERNAL", "could not reject approval request"⟩
      | .ok none => return .error DecisionErr.alreadyDecided.response
      | .ok (some rejected) => return .ok rejected

/-- What the gated endpoints do instead of acting. -/
def createApprovalRequest (requestedBy : String) (req : NewApproval) :
    DeskProg (Except StoreErr (ℤ × Approval)) :=
  desk (.createApprovalRequest { req with requestedBy := requestedBy })

end Handler

/-- A call of a staff member. -/
inductive StaffCall where
  | request (requestedBy : String) (req : NewApproval)
  | approve (id : ℤ) (actor : String)
  | execute (id : ℤ) (actor : String)
  | reject (id : ℤ) (actor reason : String)

def StaffCall.prog : StaffCall → DeskProg Unit
  | request requestedBy req => (Handler.createApprovalRequest requestedBy req).void
  | approve id actor => (Handler.ApproveRequest id actor).void
  | execute id actor => (Handler.ExecuteApprovedRequest id actor).void
  | reject id actor reason => (Handler.RejectRequest id actor reason).void

end IspBss
