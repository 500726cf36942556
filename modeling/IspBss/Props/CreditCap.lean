import IspBss.Db.CreditNotes
import IspBss.Db.Store
import IspBss.Lib.Runs

/-! Do the credit notes of an invoice stay within it?

    The trigger checks a note against what its session sees, so it holds the cap for sessions that come
    one after another. Two sessions that credit one invoice at the same time do not see each other:

        session 0: insert 60 of 100 ─ ok ─────────────── commit     60
        session 1:         insert 60 of 100 ─ ok ─────── commit    120

    The library's `Capped` is the invariant; the trigger is the check that `capped_write` asks for. -/

namespace IspBss

open Lib NoteTable Run Versions

/-- What the notes of an invoice come to. -/
def creditedTo (invoiceID : ℤ) (notes : Rows ℤ CreditNote) : ℤ :=
  groupSum (fun c : CreditNote => c.invoiceID) (fun c => c.totalAmount) invoiceID notes

/-- The committed notes of every invoice are within its total. -/
def WithinInvoices (db : DB) (t : NoteTable) : Prop :=
  ∀ id total, invoiceTotal db id = some total → creditedTo id t.versions.committed ≤ total

/-- A session writes a note of an invoice only while no other session has an uncommitted note of that
    invoice. -/
def AloneOnInvoice (t : NoteTable) : NoteEvent → Prop
  | .insert session new => t.versions.othersHave session (fun _ c => c.invoiceID = new.invoiceID) = false
  | .update session id change =>
    ∀ note, (t.versions.visible session).lookup id = some note →
      t.versions.othersHave session (fun _ c => c.invoiceID = (change note).invoiceID) = false
  | .commit _ => True
  | .rollback _ => True

/-! ### The trigger -/

theorem sum_filter_and {α : Type} (p q : α → Prop) [DecidablePred p] [DecidablePred q] (f : α → ℤ)
    (l : List α) : ((l.filter fun x => p x ∧ q x).map f).sum =
      ((l.filter fun x => q x).map fun x => if p x then f x else 0).sum := by
  induction l with
  | nil => rfl
  | cons x l ih =>
    by_cases hq : q x
    · by_cases hp : p x
      · simp [hp, hq, ← ih]
      · simp [hp, hq, ← ih]
    · simp [hq, ← ih]

/-- With the new row in place, the total is that of the other notes and its own. -/
theorem creditedTo_insert (notes : Rows ℤ CreditNote) (id : ℤ) (note : CreditNote) :
    creditedTo note.invoiceID (notes.insert id note) =
      note.totalAmount + ((otherNotes notes id note.invoiceID).map fun c => c.totalAmount).sum := by
  rw [creditedTo, groupSum, Rows.total_insert, if_pos rfl, otherNotes, List.map_map]
  refine congrArg _ (Eq.trans ?_ (sum_filter_and _ _ _ _).symm)
  simp [Rows.total, Rows.delete]

variable {new : NoteColumns} {note : CreditNote}

theorem check_ok (h : new.check = .ok note) : note.toNoteColumns = new := by
  unfold NoteColumns.check at h
  split at h
  · split at h
    · split at h
      · rw [← Except.ok.inj h]
      · cases h
    · cases h
  · cases h

variable {db : DB}

/-- A row the trigger lets through keeps its invoice within its total, as the session sees it. -/
theorem admitted_within {notes : Rows ℤ CreditNote} {id : ℤ} (h : admitNote db notes id new = .ok note) :
    note.toNoteColumns = new ∧ ∀ total, invoiceTotal db note.invoiceID = some total →
      creditedTo note.invoiceID (notes.insert id note) ≤ total := by
  have hinv : check_credit_note_within_invoice db notes id new = .ok () ∧ new.check = .ok note := by
    cases htrigger : check_credit_note_within_invoice db notes id new with
    | error e =>
      rw [admitNote, htrigger] at h
      cases h
    | ok _ =>
      cases hcheck : new.check with
      | error e =>
        rw [admitNote, htrigger, hcheck] at h
        cases h
      | ok note' =>
        simp only [admitNote, htrigger, hcheck, bind, Except.bind] at h
        split at h
        · cases h
        · split at h
          · cases h
          · exact ⟨rfl, h⟩
  obtain rfl := check_ok hinv.2
  refine ⟨rfl, fun total htotal => ?_⟩
  have htrigger := hinv.1
  simp only [check_credit_note_within_invoice, htotal] at htrigger
  rw [creditedTo_insert]
  split at htrigger
  · cases htrigger
  · split at htrigger
    · cases htrigger
    · rename_i hle
      rw [add_comm]
      exact not_lt.mp hle

/-! ### The run -/

theorem amount_nonneg (c : CreditNote) : 0 ≤ c.totalAmount := c.positive.2.le

/-- The invariant, in the library's terms. -/
def NotesCapped (db : DB) (v : Versions ℤ CreditNote) : Prop :=
  Capped (fun c : CreditNote => c.invoiceID) (fun c => c.totalAmount) (invoiceTotal db) v

theorem notesCapped_put {v : Versions ℤ CreditNote} (h : NotesCapped db v) {session : ℕ} {id : ℤ} (halone : v.othersHave session (fun _ c => c.invoiceID = new.invoiceID) = false) :
    NotesCapped db (putNote db v session id new) := by
  cases hadmit : admitNote db (v.visible session) id new with
  | error e =>
    simp only [putNote, hadmit]
    exact capped_rollback h session
  | ok note =>
    obtain ⟨rfl, hwithin⟩ := admitted_within hadmit
    simp only [putNote, hadmit]
    exact capped_write amount_nonneg h hwithin halone

theorem notesCapped_step {t : NoteTable} {ev : NoteEvent} (h : NotesCapped db t.versions)
    (halone : AloneOnInvoice t ev) : NotesCapped db (t.step db ev).versions := by
  cases ev with
  | insert session new => exact notesCapped_put h halone
  | update session id change =>
    simp only [step]
    split
    · exact h
    · cases hrow : (t.versions.visible session).lookup id with
      | none => exact h
      | some note => exact notesCapped_put h (halone note hrow)
  | commit session => exact capped_commit amount_nonneg h session
  | rollback session => exact capped_rollback h session

/-- Any number of sessions that insert, update, commit and roll back in any order: as long as a session
    writes a note only while no other one has an uncommitted note of the same invoice, the committed
    notes of every invoice are within its total in every state. -/
theorem credits_within_invoice_of_alone (db : DB) (t : NoteTable) (hidle : ∀ i, t.versions.writes i = [])
    (hstart : WithinInvoices db t) (evs : List NoteEvent)
    (halone : Meets (NoteTable.step db) AloneOnInvoice t evs) :
    ∀ pre, pre <+: evs → WithinInvoices db (run (NoteTable.step db) t pre) := by
  intro pre hpre
  have hcapped : NotesCapped db (run (step db) t pre).versions :=
    always (I := fun t : NoteTable => NotesCapped db t.versions) (fun _ _ => notesCapped_step)
      (capped_of_idle hidle hstart) halone hpre
  exact hcapped.committed

/-- One invoice of 100.00, and two sessions with nothing written. -/
def hundredInvoice : DB :=
  { DB.seeded ((∅ : Table Subscriber).insert 1 (Subscriber.paidUntil 0)) with
    invoices := [⟨1, 1, 10000, 0, 0, 0, 10000, 1, 0, 0, Or.inr (Or.inr ⟨rfl, rfl⟩)⟩] }

def noNotes : NoteTable := ⟨⟨∅, [[], []]⟩, 0⟩

/-- An untaxed note against the invoice. -/
def noteOver (amount : ℤ) : NoteColumns := ⟨1, 1, amount, 0, 0, 0, amount, "correction", 0⟩

/-- One after another: the second note of 60.00 is refused, one of 40.00 is not. -/
theorem consecutive_notes_within :
    let evs : List NoteEvent := [.insert 0 (noteOver 6000), .commit 0, .insert 1 (noteOver 6000),
      .insert 1 (noteOver 4000), .commit 1]
    WithinInvoices hundredInvoice (run (step hundredInvoice) noNotes evs) ∧
      creditedTo 1 (run (step hundredInvoice) noNotes evs).versions.committed = 10000 := by
  intro evs
  have hidle : ∀ i, noNotes.versions.writes i = []
    | 0 => rfl
    | 1 => rfl
    | _ + 2 => rfl
  have hstart : WithinInvoices hundredInvoice noNotes := by
    intro id total htotal
    have hid : id = 1 := by
      by_contra hne
      simp [invoiceTotal, hundredInvoice, Ne.symm hne] at htotal
    subst hid
    obtain rfl : 10000 = total := Option.some.inj htotal
    decide
  have halone : Meets (step hundredInvoice) AloneOnInvoice noNotes evs :=
    ⟨rfl, trivial, rfl, rfl, trivial, trivial⟩
  exact ⟨credits_within_invoice_of_alone hundredInvoice noNotes hidle hstart evs halone evs
    (List.prefix_refl _), by decide⟩

/-- At the same time: both are let through, and 120.00 of the 100.00 are credited. -/
theorem concurrent_notes_exceed_invoice :
    let evs : List NoteEvent := [.insert 0 (noteOver 6000), .insert 1 (noteOver 6000), .commit 0,
      .commit 1]
    invoiceTotal hundredInvoice 1 = some 10000 ∧
      creditedTo 1 (run (step hundredInvoice) noNotes evs).versions.committed = 12000 := by
  decide

end IspBss
