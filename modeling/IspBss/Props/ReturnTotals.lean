import IspBss.Billing.Gstr1

/-! Does a return agree with itself?

    The sections, the HSN summary and the totals are accumulated in parallel, so nothing in the code
    makes one follow from another. They are kept in step by an invariant of the two loops:

        Σ B2B + Σ B2C − Σ notes = HSN = totals        #B2B + Σ counts = invoices = HSN quantity

    The buckets are the delicate part: an invoice either opens one or replaces one, and the sum over all
    of them moves by the invoice's amounts in both cases. -/

namespace IspBss.Gstr1

open Lib Building B2CLine Rows

/-! ### The invariant of the loops -/

/-- The sum of the lines of a section. -/
def sumOf {α : Type} (f : α → Amounts) (lines : List α) : Amounts := (lines.map f).sum

/-- What the sections come to: B2B and B2C less the credit notes. -/
def Building.net (b : Building) : Amounts :=
  sumOf B2BLine.toAmounts b.b2b + b.b2c.total B2CLine.toAmounts - sumOf CDNLine.toAmounts b.creditNotes

/-- The invoices the sections account for. -/
def Building.count (b : Building) : ℕ := b.b2b.length + b.b2c.total B2CLine.invoiceCount

structure Balanced (b : Building) : Prop where
  hsn : b.net = b.hsn.toAmounts
  totals : b.net = b.totals.toAmounts
  count : b.count = b.totals.invoices
  quantity : b.hsn.quantity = b.totals.invoices
  keyed : ∀ x ∈ b.b2c.entries, x.1 = (x.2.placeOfSupply, x.2.rate)

theorem net_start : start.net = 0 := by
  simp only [net, start, sumOf, List.map_nil, List.sum_nil, total_empty, add_zero,
    sub_zero]

theorem balanced_start : Balanced .start where
  hsn := net_start
  totals := net_start
  count := rfl
  quantity := Nat.cast_zero.symm
  keyed _ h := by cases h

/-! ### One invoice -/

/-- A figure of the buckets moves by the invoice's share, if adding an invoice to a line moves the
    line's figure by that share and a new bucket starts from nothing. -/
theorem total_bucket {M : Type} [AddCancelCommMonoid M] (g : B2CLine → M) (share : M) {row : InvoiceRow}
    (hadd : ∀ line : B2CLine, g (line.add row) = g line + share) (hempty : g row.emptyBucket = 0)
    (t : Rows (String × Decimal) B2CLine) :
    total g (t.insert row.b2cKey (((t.lookup row.b2cKey).getD row.emptyBucket).add row)) =
      total g t + share := by
  cases hlook : t.lookup row.b2cKey with
  | none =>
    rw [total_insert_new g (AList.lookup_eq_none.mp hlook), Option.getD_none, hadd, hempty, zero_add,
      add_comm]
  | some line =>
    have h := total_insert_old g hlook (line.add row)
    rw [hadd, add_assoc, add_comm (g line), add_comm share] at h
    exact add_right_cancel h

theorem net_addInvoice (b : Building) (row : InvoiceRow) : (b.addInvoice row).net = b.net + row.toAmounts := by
  cases hb : row.IsB2B with
  | true =>
    have hline : row.b2bLine.toAmounts = row.toAmounts := rfl
    simp only [net, addInvoice, hb, if_true, sumOf, List.map_append, List.sum_append,
      List.map_singleton, List.sum_singleton, hline]
    abel
  | false =>
    simp only [net, addInvoice, hb, Bool.false_eq_true, if_false]
    rw [total_bucket toAmounts row.toAmounts (fun _ => rfl) rfl]
    abel

theorem count_addInvoice (b : Building) (row : InvoiceRow) : (b.addInvoice row).count = b.count + 1 := by
  cases hb : row.IsB2B with
  | true =>
    simp only [count, addInvoice, hb, if_true, List.length_append, List.length_singleton]
    omega
  | false =>
    simp only [count, addInvoice, hb, Bool.false_eq_true, if_false]
    rw [total_bucket invoiceCount 1 (fun _ => rfl) rfl]
    omega

variable {b : Building}

/-- The bucket an invoice goes to is the one its key names. -/
theorem keyed_addInvoice (hb : ∀ x ∈ b.b2c.entries, x.1 = (x.2.placeOfSupply, x.2.rate))
    (row : InvoiceRow) : ∀ x ∈ (b.addInvoice row).b2c.entries, x.1 = (x.2.placeOfSupply, x.2.rate) := by
  intro x hx
  cases h : row.IsB2B with
  | true =>
    simp only [addInvoice, h, if_true] at hx
    exact hb x hx
  | false =>
    simp only [addInvoice, h, Bool.false_eq_true, if_false, AList.entries_insert,
      List.mem_cons] at hx
    rcases hx with rfl | hx
    · cases hlook : b.b2c.lookup row.b2cKey with
      | none => rfl
      | some line => exact hb ⟨_, line⟩ (AList.mem_lookup_iff.mp hlook)
    · exact hb x ((List.kerase_sublist _ _).subset hx)

theorem balanced_addInvoice (h : Balanced b) (row : InvoiceRow) : Balanced (b.addInvoice row) where
  hsn := by rw [net_addInvoice, h.hsn]; rfl
  totals := by rw [net_addInvoice, h.totals]; rfl
  count := by rw [count_addInvoice, h.count]; rfl
  quantity := by
    simp only [addInvoice, h.quantity]
    exact (Nat.cast_succ _).symm
  keyed := keyed_addInvoice h.keyed row

/-! ### One credit note -/

theorem net_addNote (b : Building) (note : CreditNoteRow) : (b.addNote note).net = b.net - note.toAmounts := by
  have hline : note.cdnLine.toAmounts = note.toAmounts := rfl
  simp only [net, addNote, sumOf, List.map_append, List.sum_append, List.map_singleton,
    List.sum_singleton, hline]
  abel

theorem balanced_addNote (h : Balanced b) (note : CreditNoteRow) : Balanced (b.addNote note) where
  hsn := by rw [net_addNote, h.hsn]; rfl
  totals := by rw [net_addNote, h.totals]; rfl
  count := h.count
  quantity := h.quantity
  keyed := h.keyed

/-! ### Both loops -/

theorem balanced_invoices (rows : List InvoiceRow) (h : Balanced b) : Balanced (rows.foldl addInvoice b) := by
  induction rows generalizing b with
  | nil => exact h
  | cons row rows ih => exact ih (balanced_addInvoice h row)

theorem balanced_notes (notes : List CreditNoteRow) (h : Balanced b) : Balanced (notes.foldl addNote b) := by
  induction notes generalizing b with
  | nil => exact h
  | cons note notes ih => exact ih (balanced_addNote h note)

theorem balanced_accumulate (rows : List InvoiceRow) (notes : List CreditNoteRow) :
    Balanced (accumulate rows notes) :=
  balanced_notes notes (balanced_invoices rows balanced_start)

theorem totals_invoices (rows : List InvoiceRow) (b : Building) :
    (rows.foldl addInvoice b).totals.invoices = b.totals.invoices + rows.length ∧
      (rows.foldl addInvoice b).totals.creditNotes = b.totals.creditNotes := by
  induction rows generalizing b with
  | nil => exact ⟨rfl, rfl⟩
  | cons row rows ih =>
    obtain ⟨hinv, hnotes⟩ := ih (b.addInvoice row)
    rw [List.foldl_cons, hinv, hnotes]
    exact ⟨Nat.add_right_comm .., rfl⟩

theorem totals_notes (notes : List CreditNoteRow) (b : Building) :
    (notes.foldl addNote b).totals.invoices = b.totals.invoices ∧
      (notes.foldl addNote b).totals.creditNotes = b.totals.creditNotes + notes.length := by
  induction notes generalizing b with
  | nil => exact ⟨rfl, rfl⟩
  | cons note notes ih =>
    obtain ⟨hinv, hnotes⟩ := ih (b.addNote note)
    rw [List.foldl_cons, hinv, hnotes]
    exact ⟨rfl, Nat.add_right_comm ..⟩

theorem accumulate_counts (rows : List InvoiceRow) (notes : List CreditNoteRow) :
    (accumulate rows notes).totals.invoices = rows.length ∧
      (accumulate rows notes).totals.creditNotes = notes.length := by
  obtain ⟨hinv, hnotes⟩ := totals_notes notes (rows.foldl addInvoice .start)
  obtain ⟨hinv', hnotes'⟩ := totals_invoices rows .start
  rw [accumulate, hinv, hnotes, hinv', hnotes']
  exact ⟨Nat.zero_add _, Nat.zero_add _⟩

/-- A list that every turn of a loop appends to. -/
theorem foldl_appends {σ α β : Type} {f : σ → α → σ} {g : σ → List β} {k : α → List β}
    (h : ∀ s a, g (f s a) = g s ++ k a) (l : List α) : ∀ s, g (l.foldl f s) = g s ++ l.flatMap k := by
  induction l with
  | nil => simp
  | cons a l ih =>
    intro s
    rw [List.foldl_cons, ih, h, List.flatMap_cons, List.append_assoc]

theorem b2b_accumulate (rows : List InvoiceRow) (notes : List CreditNoteRow) :
    (accumulate rows notes).b2b = (rows.filter InvoiceRow.IsB2B).map InvoiceRow.b2bLine := by
  have hrow : ∀ (b : Building) (row : InvoiceRow),
      (b.addInvoice row).b2b = b.b2b ++ ([row].filter InvoiceRow.IsB2B).map InvoiceRow.b2bLine := by
    intro b row
    cases hb : row.IsB2B <;> simp [addInvoice, hb]
  have hnote : ∀ (b : Building) (note : CreditNoteRow), (b.addNote note).b2b = b.b2b ++ [] :=
    fun _ _ => (List.append_nil _).symm
  rw [accumulate, foldl_appends (g := b2b) hnote, foldl_appends (g := b2b) hrow, ← List.map_flatMap,
    ← List.filter_flatMap, List.flatMap_singleton']
  simp [start]

/-! ### The return -/

theorem sumOf_sort (S : SortSlice) {α : Type} (less : α → α → Bool) (f : α → Amounts) (lines : List α) :
    sumOf f (S.sort less lines) = sumOf f lines := ((S.perm less lines).map f).sum_eq

/-- The figure of the HSN section: that of its row, or nothing if there is none. -/
def Return.hsnFigure (r : Return) : Amounts := sumOf HSNLine.toAmounts r.hsn

def Return.hsnQuantity (r : Return) : Decimal := (r.hsn.map HSNLine.quantity).sum

/-- The key a B2C line is filed under. -/
def B2CLine.key (line : B2CLine) : String × Decimal := (line.placeOfSupply, line.rate)

theorem nodup_keys (h : Balanced b) : ((b.b2c.entries.map fun x => x.2).map key).Nodup := by
  have hkeys : (b.b2c.entries.map fun x => x.2).map key = b.b2c.keys := by
    rw [List.map_map]
    exact List.map_congr_left fun x hx => (h.keyed x hx).symm
  rw [hkeys]
  exact b.b2c.keys_nodup

section
variable (S : SortSlice) (period : Period) (supplier : Supplier) (rows : List InvoiceRow)
  (notes : List CreditNoteRow)

/-- The sections of the return come to what the loops have left. -/
theorem net_return : let r := BuildReturn S period supplier rows notes
    sumOf B2BLine.toAmounts r.b2b + sumOf toAmounts r.b2c - sumOf CDNLine.toAmounts r.creditNotes =
      (accumulate rows notes).net := by
  have hb2c : sumOf toAmounts ((accumulate rows notes).b2c.entries.map fun x => x.2) =
      (accumulate rows notes).b2c.total toAmounts := by
    rw [sumOf, List.map_map]
    rfl
  simp only [BuildReturn, finish, sumOf_sort, hb2c]
  rfl

theorem count_return : let r := BuildReturn S period supplier rows notes
    r.b2b.length + (r.b2c.map invoiceCount).sum = (accumulate rows notes).count := by
  have hb2c : ((S.sort less ((accumulate rows notes).b2c.entries.map fun x => x.2)).map
      invoiceCount).sum = (accumulate rows notes).b2c.total invoiceCount := by
    rw [((S.perm _ _).map _).sum_eq, List.map_map]
    rfl
  simp only [BuildReturn, finish, hb2c, (S.perm _ _).length_eq]
  rfl

/-- There is one HSN row if there is a document, and none otherwise. -/
theorem hsn_return : (BuildReturn S period supplier rows notes).hsn =
    if rows ≠ [] ∨ notes ≠ [] then
      [{ (accumulate rows notes).hsn with
          hsn := HSNInternetServices, description := HSNDescription, uqc := UQCOther }] else [] := by
  obtain ⟨hinv, hnotes⟩ := accumulate_counts rows notes
  simp only [BuildReturn, finish, hinv, hnotes, List.length_pos_iff]

end

/-- Every list of invoices and of credit notes: the sections, the HSN summary and the totals of the
    return agree in every figure, the lines account for every invoice, no two B2C lines share their
    place of supply and rate, and there is an HSN row exactly if there is a document. -/
theorem return_agrees_with_itself (S : SortSlice) (period : Period) (supplier : Supplier)
    (rows : List InvoiceRow) (notes : List CreditNoteRow) :
    let r := BuildReturn S period supplier rows notes
    sumOf B2BLine.toAmounts r.b2b + sumOf toAmounts r.b2c - sumOf CDNLine.toAmounts r.creditNotes =
        r.hsnFigure ∧
      r.hsnFigure = r.totals.toAmounts ∧
      r.b2b.length + (r.b2c.map invoiceCount).sum = r.totals.invoices ∧
      r.hsnQuantity = r.totals.invoices ∧
      (r.b2c.map key).Nodup ∧
      r.hsn.length = if rows ≠ [] ∨ notes ≠ [] then 1 else 0 := by
  intro r
  have hb : Balanced (accumulate rows notes) := balanced_accumulate rows notes
  have hfigure : r.hsnFigure = r.totals.toAmounts ∧ r.hsnQuantity = r.totals.invoices := by
    have hhsn : r.hsn = _ := hsn_return S period supplier rows notes
    rw [Return.hsnFigure, Return.hsnQuantity, hhsn]
    split
    · simp only [sumOf, List.map_singleton, List.sum_singleton]
      exact ⟨hb.hsn.symm.trans hb.totals, hb.quantity⟩
    · -- without a document both loops end where they started
      rename_i hnone
      obtain ⟨hrows, hnotes⟩ := not_or.mp hnone
      have hempty : r.totals = ⟨0, 0, 0⟩ := by
        simp only [r, BuildReturn, not_not.mp hrows, not_not.mp hnotes]
        rfl
      rw [hempty]
      exact ⟨rfl, Nat.cast_zero.symm⟩
  refine ⟨?_, hfigure.1, ?_, hfigure.2, ?_, ?_⟩
  · rw [hfigure.1]
    exact (net_return S period supplier rows notes).trans hb.totals
  · exact (count_return S period supplier rows notes).trans hb.count
  · exact ((S.perm _ _).map _).nodup_iff.mpr (nodup_keys hb)
  · have hhsn : r.hsn = _ := hsn_return S period supplier rows notes
    rw [hhsn]
    split <;> rfl

end IspBss.Gstr1
