import IspBss.Billing.Gst
import IspBss.Lib.Rows

/-! GSTR-1: the monthly return over the invoices and credit notes of a period.

        invoice ── GSTIN ──▶ one B2B line                        ┐
                └─ none ───▶ B2C bucket of (place of supply, rate) ├─▶ HSN summary and totals
        note ──────────────▶ one credit-note line, subtracted     ┘

    All sections are accumulated side by side in one pass over the invoices and one over the notes,
    then sorted. -/

namespace IspBss.Gstr1

open Lib Lib.Numeric

def HSNInternetServices : String := "998432"
def HSNDescription : String := "Internet telecommunication services"
def UQCOther : String := "OTH"

structure Period where
  year : ℤ
  month : ℤ
  deriving DecidableEq

structure Supplier where
  gstin : String
  state : String
  name : String
  deriving DecidableEq

/-! ### Documents -/

/-- The figures of a document, a line or a section. -/
@[ext] structure Amounts where
  taxableValue : Decimal
  cgst : Decimal
  sgst : Decimal
  igst : Decimal
  total : Decimal
  deriving DecidableEq

namespace Amounts

instance : Zero Amounts := ⟨0, 0, 0, 0, 0⟩

instance : Add Amounts where
  add a b := ⟨a.taxableValue + b.taxableValue, a.cgst + b.cgst, a.sgst + b.sgst, a.igst + b.igst,
    a.total + b.total⟩

instance : Neg Amounts where
  neg a := ⟨-a.taxableValue, -a.cgst, -a.sgst, -a.igst, -a.total⟩

instance : Sub Amounts where
  sub a b := ⟨a.taxableValue - b.taxableValue, a.cgst - b.cgst, a.sgst - b.sgst, a.igst - b.igst,
    a.total - b.total⟩

instance : AddCommGroup Amounts where
  add_assoc a b c := by ext <;> apply add_assoc
  zero_add a := by ext <;> apply zero_add
  add_zero a := by ext <;> apply add_zero
  neg_add_cancel a := by ext <;> apply neg_add_cancel
  add_comm a b := by ext <;> apply add_comm
  sub_eq_add_neg a b := by ext <;> apply sub_eq_add_neg
  nsmul := nsmulRec
  zsmul := zsmulRec

end Amounts

/-- An issued invoice as the return consumes it. -/
structure InvoiceRow extends Amounts where
  invoiceID : ℤ
  invoiceDate : Time
  subscriberID : ℤ
  subscriberName : String
  recipientGSTIN : String
  recipientState : String
  deriving DecidableEq

/-- An issued credit note; its amounts are positive. -/
structure CreditNoteRow extends Amounts where
  creditNoteID : ℤ
  originalInvoiceID : ℤ
  originalInvoiceDate : Time
  noteDate : Time
  subscriberID : ℤ
  subscriberName : String
  recipientGSTIN : String
  recipientState : String
  deriving DecidableEq

/-- The combined rates a supply can be taxed at. -/
def standardGSTRates : List Decimal := [0, 1 / 4, 3, 5, 12, 18, 28]

def rateSnapTolerance : Decimal := 1 / 2

/-- The rate the amounts come to, snapped to the first standard rate within the tolerance. -/
def derivedGSTRate (taxableValue tax : Decimal) : Decimal :=
  if taxableValue = 0 then 0
  else
    let derived := round 2 (div tax taxableValue * 100)
    (standardGSTRates.find? fun std => |derived - std| ≤ rateSnapTolerance).getD derived

def Amounts.Rate (a : Amounts) : Decimal := derivedGSTRate a.taxableValue (a.cgst + a.sgst + a.igst)

def InvoiceRow.Rate (r : InvoiceRow) : Decimal := r.toAmounts.Rate

def CreditNoteRow.Rate (c : CreditNoteRow) : Decimal := c.toAmounts.Rate

/-- A supply is B2B exactly when the recipient has a GSTIN. -/
def InvoiceRow.IsB2B (r : InvoiceRow) : Bool := r.recipientGSTIN ≠ ""

def CreditNoteRow.IsB2B (c : CreditNoteRow) : Bool := c.recipientGSTIN ≠ ""

/-- `%06d`. -/
def fmt06d (n : ℤ) : String :=
  let sign := if n < 0 then "-" else ""
  let digits := n.natAbs.repr
  sign ++ String.ofList (List.replicate (6 - sign.length - digits.length) '0') ++ digits

def InvoiceNumber (invoiceID : ℤ) : String := "INV-" ++ fmt06d invoiceID

def CreditNoteNumber (creditNoteID : ℤ) : String := "CRN-" ++ fmt06d creditNoteID

/-! ### The return -/

structure B2BLine extends Amounts where
  invoiceNumber : String
  invoiceDate : Time
  recipientGSTIN : String
  recipientName : String
  placeOfSupply : String
  placeOfSupplyName : String
  rate : Decimal
  deriving DecidableEq

structure B2CLine extends Amounts where
  placeOfSupply : String
  placeOfSupplyName : String
  rate : Decimal
  invoiceCount : ℕ
  deriving DecidableEq

structure CDNLine extends Amounts where
  noteNumber : String
  noteDate : Time
  originalInvoice : String
  originalDate : Time
  recipientGSTIN : String
  recipientName : String
  placeOfSupply : String
  placeOfSupplyName : String
  rate : Decimal
  registered : Bool
  deriving DecidableEq

/-- One row of the HSN summary; `total` is its total value. -/
structure HSNLine extends Amounts where
  hsn : String
  description : String
  uqc : String
  quantity : Decimal
  deriving DecidableEq

/-- The figures of the whole return, net of credit notes. -/
structure Totals extends Amounts where
  invoices : ℕ
  creditNotes : ℕ
  deriving DecidableEq

structure Return where
  period : Period
  supplier : Supplier
  b2b : List B2BLine
  b2c : List B2CLine
  creditNotes : List CDNLine
  hsn : List HSNLine
  totals : Totals
  deriving DecidableEq

/-! ### Building it -/

/-- `sort.Slice`: in order, and equal elements in any order. -/
structure SortSlice where
  sort : {α : Type} → (less : α → α → Bool) → List α → List α
  perm : ∀ {α : Type} (less : α → α → Bool) (xs : List α), (sort less xs).Perm xs
  sorted : ∀ {α : Type} (less : α → α → Bool) (xs : List α),
    (∀ a b c, less b a = false → less c b = false → less c a = false) →
    (∀ a b, less b a = false ∨ less a b = false) → (sort less xs).Pairwise fun a b => less b a = false

/-- `sort.Slice` by insertion. -/
def insertionSlice : SortSlice where
  sort less xs := xs.insertionSort fun a b => less b a = false
  perm less xs := List.perm_insertionSort _ xs
  sorted less xs htrans htotal := by
    have : Std.Total fun a b => less b a = false := ⟨htotal⟩
    have : IsTrans _ fun a b => less b a = false := ⟨fun a b c => htrans a b c⟩
    exact List.pairwise_insertionSort _ xs

/-- What the two loops accumulate. The key of a bucket is its place of supply and the text of its rate,
    which two rates share only if they are equal. -/
structure Building where
  b2b : List B2BLine
  b2c : Rows (String × Decimal) B2CLine
  creditNotes : List CDNLine
  hsn : HSNLine
  totals : Totals

def Building.start : Building where
  b2b := []
  b2c := ∅
  creditNotes := []
  hsn := ⟨0, "", "", "", 0⟩
  totals := ⟨0, 0, 0⟩

/-- The place of supply of a state as it is stored, empty if it is not a canonical code. -/
def placeOf (state : String) : String := (GSTCodeFor state).getD ""

def placeNameOf (state : String) : String := (StateName state).getD ""

variable (row : InvoiceRow)

def InvoiceRow.b2bLine : B2BLine where
  toAmounts := row.toAmounts
  invoiceNumber := InvoiceNumber row.invoiceID
  invoiceDate := row.invoiceDate
  recipientGSTIN := row.recipientGSTIN
  recipientName := row.subscriberName
  placeOfSupply := placeOf row.recipientState
  placeOfSupplyName := placeNameOf row.recipientState
  rate := row.Rate

def InvoiceRow.b2cKey : String × Decimal := (placeOf row.recipientState, row.Rate)

/-- The bucket an invoice opens if there is none of its key. -/
def InvoiceRow.emptyBucket : B2CLine :=
  ⟨0, placeOf row.recipientState, placeNameOf row.recipientState, row.Rate, 0⟩

def B2CLine.add (line : B2CLine) (row : InvoiceRow) : B2CLine :=
  { line with toAmounts := line.toAmounts + row.toAmounts, invoiceCount := line.invoiceCount + 1 }

/-- The loop body for an invoice. -/
def Building.addInvoice (b : Building) (row : InvoiceRow) : Building where
  b2b := if row.IsB2B then b.b2b ++ [row.b2bLine] else b.b2b
  b2c :=
    if row.IsB2B then b.b2c
    else b.b2c.insert row.b2cKey (((b.b2c.lookup row.b2cKey).getD row.emptyBucket).add row)
  creditNotes := b.creditNotes
  hsn := { b.hsn with toAmounts := b.hsn.toAmounts + row.toAmounts, quantity := b.hsn.quantity + 1 }
  totals :=
    { b.totals with toAmounts := b.totals.toAmounts + row.toAmounts, invoices := b.totals.invoices + 1 }

def CreditNoteRow.cdnLine (note : CreditNoteRow) : CDNLine where
  toAmounts := note.toAmounts
  noteNumber := CreditNoteNumber note.creditNoteID
  noteDate := note.noteDate
  originalInvoice := InvoiceNumber note.originalInvoiceID
  originalDate := note.originalInvoiceDate
  recipientGSTIN := note.recipientGSTIN
  recipientName := note.subscriberName
  placeOfSupply := placeOf note.recipientState
  placeOfSupplyName := placeNameOf note.recipientState
  rate := note.Rate
  registered := note.IsB2B

/-- The loop body for a credit note. -/
def Building.addNote (b : Building) (note : CreditNoteRow) : Building where
  b2b := b.b2b
  b2c := b.b2c
  creditNotes := b.creditNotes ++ [note.cdnLine]
  -- the quantity stays: a note adjusts the value of a supply, it does not undo the supply
  hsn := { b.hsn with toAmounts := b.hsn.toAmounts - note.toAmounts }
  totals :=
    { b.totals with toAmounts := b.totals.toAmounts - note.toAmounts
                    creditNotes := b.totals.creditNotes + 1 }

def B2CLine.less (x y : B2CLine) : Bool :=
  if x.placeOfSupply ≠ y.placeOfSupply then x.placeOfSupply < y.placeOfSupply else x.rate < y.rate

/-- The accumulators after both loops. -/
def accumulate (rows : List InvoiceRow) (notes : List CreditNoteRow) : Building :=
  notes.foldl Building.addNote (rows.foldl Building.addInvoice .start)

variable (S : SortSlice) (period : Period) (supplier : Supplier)

/-- The sections in their order; a period without any document has no HSN row. -/
def Building.finish (b : Building) : Return where
  period := period
  supplier := supplier
  b2b := S.sort (fun x y => x.invoiceNumber < y.invoiceNumber) b.b2b
  b2c := S.sort B2CLine.less (b.b2c.entries.map fun x => x.2)
  creditNotes := S.sort (fun x y => x.noteNumber < y.noteNumber) b.creditNotes
  hsn :=
    if 0 < b.totals.invoices ∨ 0 < b.totals.creditNotes then
      [{ b.hsn with hsn := HSNInternetServices, description := HSNDescription, uqc := UQCOther }]
    else []
  totals := b.totals

def BuildReturn (rows : List InvoiceRow)
    (notes : List CreditNoteRow) : Return :=
  (accumulate rows notes).finish S period supplier

/-- `for _, line := range` over the buckets: each of them once, in any order. -/
structure MapRange where
  range : List B2CLine → List B2CLine
  perm : ∀ lines, (range lines).Perm lines

/-- `BuildReturn` with the order in which the buckets are visited left open. -/
def BuildReturnOver (S : SortSlice) (R : MapRange) (period : Period) (supplier : Supplier)
    (rows : List InvoiceRow) (notes : List CreditNoteRow) : Return :=
  { BuildReturn S period supplier rows notes with
    b2c := S.sort B2CLine.less (R.range ((accumulate rows notes).b2c.entries.map fun x => x.2)) }

/-- The buckets in the order they were opened. -/
def MapRange.inOrder : MapRange := ⟨id, fun _ => .refl _⟩

end IspBss.Gstr1
