import IspBss.Db.Schema
import IspBss.Lib.ReadCommitted

/-! `credit_notes` and its trigger, under READ COMMITTED.

    A note is written by INSERT or UPDATE. Before the row goes in, the trigger sums the other notes of
    the same invoice and compares with the invoice's total; then come the CHECK constraints and the
    foreign keys. The trigger's query sees what its own session sees: the committed notes and the ones
    of its own transaction. -/

namespace IspBss

open Lib

/-- The columns of a `credit_notes` row, before its constraints are checked. -/
structure NoteColumns where
  invoiceID : ℤ
  subscriberID : ℤ
  baseAmount : ℤ
  cgstAmount : ℤ
  sgstAmount : ℤ
  igstAmount : ℤ
  totalAmount : ℤ
  reason : String
  createdAt : Time
  deriving DecidableEq

/-- A stored `credit_notes` row: it adds up, it is positive, and it has one kind of tax. -/
structure CreditNote extends NoteColumns where
  total_eq : totalAmount = baseAmount + cgstAmount + sgstAmount + igstAmount
  positive : 0 ≤ baseAmount ∧ 0 < totalAmount
  gst_head : (cgstAmount = 0 ∧ sgstAmount = 0) ∨ igstAmount = 0
  deriving DecidableEq

/-- The CHECK constraints. -/
def NoteColumns.check (c : NoteColumns) : Except StoreErr CreditNote :=
  if htotal : c.totalAmount = c.baseAmount + c.cgstAmount + c.sgstAmount + c.igstAmount then
    if hpos : 0 ≤ c.baseAmount ∧ 0 < c.totalAmount then
      if hhead : (c.cgstAmount = 0 ∧ c.sgstAmount = 0) ∨ c.igstAmount = 0 then
        .ok { c with total_eq := htotal, positive := hpos, gst_head := hhead }
      else .error (.check "chk_credit_note_gst_head")
    else .error (.check "chk_credit_note_positive")
  else .error (.check "chk_credit_note_total")

/-- `invoices.total_amount`. -/
def invoiceTotal (db : DB) (invoiceID : ℤ) : Option ℤ :=
  (db.invoices.find? fun i => i.id = invoiceID).map InvoiceRow.totalAmount

/-- The rows the trigger sums: the other notes of the invoice. -/
def otherNotes (notes : Rows ℤ CreditNote) (id invoiceID : ℤ) : List CreditNote :=
  (notes.entries.filter fun x => x.2.invoiceID = invoiceID ∧ x.1 ≠ id).map fun x => x.2

/-- A `NUMERIC(12,2)` as text. -/
def numericText (n : ℤ) : String :=
  (if n < 0 then "-" else "") ++ (n.natAbs / 100).repr ++ "." ++ (n.natAbs / 10 % 10).repr ++
    (n.natAbs % 10).repr

/-- What the trigger raises. -/
def exceedsMessage (invoiceID would total : ℤ) : String :=
  "credit notes for invoice " ++ invoiceID.repr ++ " would total " ++ numericText would ++
    ", exceeding the invoice value " ++ numericText total

variable (db : DB) (notes : Rows ℤ CreditNote) (id : ℤ) (new : NoteColumns)

/-- The trigger. Without an invoice the comparison is with NULL and lets the row pass. -/
def check_credit_note_within_invoice :
    Except StoreErr Unit :=
  let credited := ((otherNotes notes id new.invoiceID).map fun c => c.totalAmount).sum
  -- the variable is a NUMERIC(12,2)
  if 10 ^ 12 ≤ |credited| then .error (.overflow "credited")
  else
    match invoiceTotal db new.invoiceID with
    | none => .ok ()
    | some total =>
      if total < credited + new.totalAmount then
        .error (.check (exceedsMessage new.invoiceID (credited + new.totalAmount) total))
      else .ok ()

/-- A row on its way into the table. -/
def admitNote :
    Except StoreErr CreditNote := do
  check_credit_note_within_invoice db notes id new
  let note ← new.check
  if (invoiceTotal db new.invoiceID).isNone then throw (.foreignKey "invoice_id")
  if (db.subscribers.lookup new.subscriberID).isNone then throw (.foreignKey "subscriber_id")
  return note

/-! ### Sessions -/

/-- The table with its sessions, and the last id its sequence has given out. -/
structure NoteTable where
  versions : Versions ℤ CreditNote
  last : ℤ

/-- What a session does. An UPDATE computes the new columns from the row it finds. -/
inductive NoteEvent where
  | insert (session : ℕ) (new : NoteColumns)
  | update (session : ℕ) (id : ℤ) (change : CreditNote → NoteColumns)
  | commit (session : ℕ)
  | rollback (session : ℕ)

/-- One row through the trigger; an error ends the transaction. -/
def putNote (db : DB) (v : Versions ℤ CreditNote) (session : ℕ) (id : ℤ) (new : NoteColumns) :
    Versions ℤ CreditNote :=
  match admitNote db (v.visible session) id new with
  | .ok note => v.write session id note
  | .error _ => v.rollback session

def NoteTable.step (db : DB) (t : NoteTable) : NoteEvent → NoteTable
  | .insert session new => ⟨putNote db t.versions session (t.last + 1) new, t.last + 1⟩
  | .update session id change =>
    -- a row another session has written is waited for
    if t.versions.locked session id then t
    else
      match (t.versions.visible session).lookup id with
      | none => t
      | some note => ⟨putNote db t.versions session id (change note), t.last⟩
  | .commit session => ⟨t.versions.commit session, t.last⟩
  | .rollback session => ⟨t.versions.rollback session, t.last⟩

end IspBss
