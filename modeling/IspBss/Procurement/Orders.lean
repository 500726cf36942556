import IspBss.Db.Store
import IspBss.Lib.Rows
import IspBss.Lib.Runs

/-! Purchase orders: request, decision, fulfilment.

    Each operation is one statement, or one transaction whose first statement takes the row: of two that meet on
    one order the second looks at the row again when the first has committed. So a run is a list of operations.

        requested ── DecidePurchaseOrder ──▶ approved, rejected        WHERE status = 'requested'
        approved, requested ── UpdateFulfilment ──▶ ordered, received, cancelled
                                                    WHERE status IN ('approved', 'requested')

    The transition to received posts to the general ledger in the same transaction. -/

namespace IspBss.Procurement

open Lib

inductive Status where
  | requested | approved | rejected | ordered | received | cancelled
  deriving DecidableEq, Repr

inductive Category where
  | hardware | services | other
  deriving DecidableEq, Repr

/-- The statuses `UpdateFulfilment` is called with. -/
inductive Fulfilment where
  | ordered | received | cancelled
  deriving DecidableEq, Repr

def Fulfilment.status : Fulfilment → Status
  | .ordered => .ordered
  | .received => .received
  | .cancelled => .cancelled

/-! ### The table -/

/-- The columns of a `purchase_orders` row, before its constraints are checked. -/
structure OrderRow where
  description : String
  vendor : String
  category : Category
  amount : ℤ
  status : Status
  requestedBy : String
  decidedBy : Option String
  decisionReason : Option String
  deriving DecidableEq

/-- `chk_po_distinct_approver`. -/
def OrderRow.DistinctApprover (r : OrderRow) : Prop := ∀ d ∈ r.decidedBy, d ≠ r.requestedBy
  deriving Decidable

/-- `purchase_orders`. The amount is a `NUMERIC(12,2)`. -/
structure PurchaseOrder extends OrderRow where
  amount_nonneg : 0 ≤ amount
  amount_fits : amount < 10 ^ 12
  distinct_approver : toOrderRow.DistinctApprover
  deriving DecidableEq

/-- Check the constraints of a row. -/
def OrderRow.check (r : OrderRow) : Except StoreErr PurchaseOrder :=
  if hf : r.amount < 10 ^ 12 then
    if ha : 0 ≤ r.amount then
      if hd : r.DistinctApprover then .ok { r with amount_nonneg := ha, amount_fits := hf, distinct_approver := hd }
      else .error (.check "chk_po_distinct_approver")
    else .error (.check "purchase_orders_amount_check")
  else .error (.overflow "purchase_orders.amount")

theorem OrderRow.check_ok {r : OrderRow} {po : PurchaseOrder} (h : r.check = .ok po) : po.toOrderRow = r := by
  unfold OrderRow.check at h
  split at h
  · split at h
    · split at h
      · rw [← Except.ok.inj h]
      · cases h
    · cases h
  · cases h

/-- The orders beside the billing database, which has the general ledger. -/
structure Books where
  orders : Serial PurchaseOrder
  db : DB

abbrev BooksTx := Tx StoreErr Books

/-- A transaction on the billing database. -/
def onLedger {α : Type} (t : DBTx α) : BooksTx α := fun s =>
  match t s.db with
  | .ok (a, db) => .ok (a, { s with db := db })
  | .error e => .error e

/-- Rewrite the row with this id. -/
def setOrder (id : ℤ) (po : PurchaseOrder) : BooksTx Unit := do
  let s ← get
  set { s with orders := s.orders.updateWhere (fun k _ => k = id) fun _ => po }

/-! ### The store -/

structure NewPurchaseOrder where
  description : String
  vendor : String
  category : Category
  amount : Decimal
  requestedBy : String
  deriving DecidableEq

namespace ProcurementStore

def CreatePurchaseOrder (po : NewPurchaseOrder) : BooksTx (ℤ × PurchaseOrder) := do
  let s ← get
  Tx.require (po.vendor.length ≤ 200) (.tooLong "purchase_orders.vendor")
  Tx.require (po.requestedBy.length ≤ 100) (.tooLong "purchase_orders.requested_by")
  let amount ← Tx.orThrow (numeric12 po.amount) (.overflow "purchase_orders.amount")
  let row ← OrderRow.check
    { description := po.description, vendor := po.vendor, category := po.category, amount := amount,
      status := .requested, requestedBy := po.requestedBy, decidedBy := none, decisionReason := none }
  set { s with orders := s.orders.add row }
  return (s.orders.last + 1, row)

/-- One conditional update: only a row that is still requested matches. -/
def DecidePurchaseOrder (id : ℤ) (approve : Bool) (decidedBy reason : String) :
    BooksTx (Option PurchaseOrder) := do
  let s ← get
  match s.orders.lookup id with
  | none => return none
  | some r =>
    if r.status = .requested then
      Tx.require (decidedBy.length ≤ 100) (.tooLong "purchase_orders.decided_by")
      let r' ← OrderRow.check { r.toOrderRow with
        status := if approve then .approved else .rejected
        decidedBy := some decidedBy
        decisionReason := some reason }
      setOrder id r'
      return some r'
    else return none

/-- Dr Operating Expenses, Cr Accounts Payable. -/
def postReceived (id : ℤ) (po : PurchaseOrder) (actor : String) : DBTx Unit := do
  Tx.require (actor.length ≤ 100) (.tooLong "gl_journal_entries.created_by")
  let expenseID ← glAccountID "5100"
  let payableID ← glAccountID "2000"
  let expense ← glLine expenseID (paise po.amount) 0
  let payable ← glLine payableID 0 (paise po.amount)
  let (description, vendor) := (po.description, po.vendor)
  postJournal s!"Purchase order #{id} received — {description} ({vendor})" "purchase_order" id actor
    [expense, payable]

def UpdateFulfilment (id : ℤ) (status : Fulfilment) (actor : String) : BooksTx (Option PurchaseOrder) := do
  let s ← get
  match s.orders.lookup id with
  | none => return none
  | some r =>
    if r.status = .approved ∨ r.status = .requested then
      let r' ← OrderRow.check { r.toOrderRow with status := status.status }
      setOrder id r'
      if status = .received then
        onLedger (postReceived id r' actor)
        return some r'
      else return some r'
    else return none

end ProcurementStore

/-! ### Runs -/

/-- A write that an endpoint issues. -/
inductive StaffOp where
  | create (po : NewPurchaseOrder)
  | decide (id : ℤ) (approve : Bool) (decidedBy reason : String)
  | fulfil (id : ℤ) (status : Fulfilment) (actor : String)
  deriving DecidableEq

def StaffOp.tx : StaffOp → BooksTx Unit
  | .create po => do
    let _ ← ProcurementStore.CreatePurchaseOrder po
  | .decide id approve decidedBy reason => do
    let _ ← ProcurementStore.DecidePurchaseOrder id approve decidedBy reason
  | .fulfil id status actor => do
    let _ ← ProcurementStore.UpdateFulfilment id status actor

/-- An operation that fails leaves everything as it was. -/
def step (s : Books) (op : StaffOp) : Books := (Tx.commit op.tx s).2

end IspBss.Procurement
