import IspBss.Lib.Runs
import IspBss.Props.ReturnTotals
import Mathlib.Data.String.Basic

/-! Does a return depend on the order of its documents?

    The query hands the documents over in some order and a Go map hands its buckets over in another one
    each time. Both loops are followed with two buildings side by side:

        documents ─────────▶ loops ─▶ building  ─ sort ─▶ return
        permuted documents ─▶ loops ─▶ building' ─ sort ─▶ the same return

    `Alike` is what the two have in common: equal sums, and the same lines up to their order. Sorting
    takes that order away, because no two lines of a section have the same sort key: the numbers of the
    documents are distinct, and a bucket is the only one of its place and rate. -/

namespace IspBss.Gstr1

open Lib Building List Run AList B2CLine CreditNoteRow

/-! ### Document numbers -/

/-- The digits behind the padding are those of the id. -/
theorem ofDigitChars_zeros (k n : ℕ) (cs : List Char) :
    Nat.ofDigitChars 10 (List.replicate k '0' ++ cs) n = Nat.ofDigitChars 10 cs (10 ^ k * n) := by
  induction k generalizing n with
  | zero => simp
  | succ k ih =>
    rw [replicate_succ, cons_append, Nat.ofDigitChars_cons, ih]
    simp [pow_succ, mul_assoc]

theorem fmt06d_injective {m n : ℤ} (hm : 0 ≤ m) (hn : 0 ≤ n) (h : fmt06d m = fmt06d n) : m = n := by
  have hdigits : ∀ k : ℤ, 0 ≤ k → Nat.ofDigitChars 10 (fmt06d k).toList 0 = k.natAbs := by
    intro k hk
    have hsign : ¬ k < 0 := by omega
    simp only [fmt06d, hsign, if_false, String.toList_append, String.toList_ofList, Nat.repr,
      append_assoc]
    simp only [String.toList_empty, nil_append, ofDigitChars_zeros, mul_zero]
    exact Nat.ofDigitChars_toDigits (by decide) (by decide)
  have habs : m.natAbs = n.natAbs := by rw [← hdigits m hm, ← hdigits n hn, h]
  omega

theorem prefixed_injective {pre : String} {m n : ℤ} (hm : 0 ≤ m) (hn : 0 ≤ n)
    (h : pre ++ fmt06d m = pre ++ fmt06d n) : m = n := by
  refine fmt06d_injective hm hn (String.toList_injective ?_)
  have hlist := congrArg String.toList h
  rw [String.toList_append, String.toList_append] at hlist
  exact append_cancel_left hlist

/-- Distinct nonnegative ids are written differently. -/
theorem nodup_numbers {α : Type} {pre : String} {id : α → ℤ} {docs : List α}
    (hnonneg : ∀ d ∈ docs, 0 ≤ id d) (hids : (docs.map id).Nodup) :
    (docs.map fun d => pre ++ fmt06d (id d)).Nodup := by
  refine List.Nodup.map_on ?_ (List.Nodup.of_map _ hids)
  intro d hd e he h
  exact inj_on_of_nodup_map hids hd he (prefixed_injective (hnonneg d hd) (hnonneg e he) h)

/-! ### Places of supply -/

/-- The code of a place determines its name. -/
theorem placeNameOf_congr {s t : String} (h : placeOf s = placeOf t) : placeNameOf s = placeNameOf t := by
  have hmem : ∀ {key : List Char} {st : GstState}, byCode key = some st → st ∈ gstStates := by
    intro key st hst
    exact mem_of_find?_eq_some hst
  simp only [placeOf, GSTCodeFor, placeNameOf, StateName] at h ⊢
  cases hs : byCode (codeKey s) with
  | none =>
    cases ht : byCode (codeKey t) with
    | none => rfl
    | some st =>
      rw [hs, ht] at h
      exact absurd h.symm (gstCode_ne_empty st (hmem ht))
  | some st =>
    cases ht : byCode (codeKey t) with
    | none =>
      rw [hs, ht] at h
      exact absurd h (gstCode_ne_empty st (hmem hs))
    | some st' =>
      rw [hs, ht] at h
      rw [gstCode_inj st (hmem hs) st' (hmem ht) h]

/-- So invoices of one key open the same bucket. -/
theorem emptyBucket_congr {x y : InvoiceRow} (h : x.b2cKey = y.b2cKey) : x.emptyBucket = y.emptyBucket := by
  obtain ⟨hplace, hrate⟩ := Prod.mk.inj h
  simp only [InvoiceRow.emptyBucket, hplace, hrate, placeNameOf_congr hplace]

theorem B2CLine.add_comm (line : B2CLine) (x y : InvoiceRow) : (line.add x).add y = (line.add y).add x := by
  simp only [add, add_right_comm]

/-! ### Two buildings side by side -/

/-- The same sums, and the same lines up to their order. -/
structure Alike (b c : Building) : Prop where
  b2b : b.b2b.Perm c.b2b
  b2c : b.b2c.entries.Perm c.b2c.entries
  creditNotes : b.creditNotes.Perm c.creditNotes
  hsn : b.hsn = c.hsn
  totals : b.totals = c.totals

theorem Alike.refl (b : Building) : Alike b b := ⟨.refl _, .refl _, .refl _, rfl, rfl⟩

variable {b c : Building}

theorem Alike.trans {d : Building} (h : Alike b c) (h' : Alike c d) : Alike b d :=
  ⟨h.b2b.trans h'.b2b, h.b2c.trans h'.b2c, h.creditNotes.trans h'.creditNotes, h.hsn.trans h'.hsn,
    h.totals.trans h'.totals⟩

theorem alike_addInvoice (x : InvoiceRow) (h : Alike b c) : Alike (b.addInvoice x) (c.addInvoice x) where
  b2b := by
    simp only [addInvoice]
    split
    · exact h.b2b.append_right _
    · exact h.b2b
  b2c := by
    simp only [addInvoice]
    split
    · exact h.b2c
    · rw [perm_lookup h.b2c]
      exact perm_insert h.b2c
  creditNotes := h.creditNotes
  hsn := by simp only [addInvoice, h.hsn]
  totals := by simp only [addInvoice, h.totals]

theorem appended_swap {α : Type} (xs : List α) (x y : α) : (xs ++ [x] ++ [y]).Perm (xs ++ [y] ++ [x]) := by
  simp only [append_assoc, cons_append, nil_append]
  exact (List.Perm.swap y x []).append_left xs

/-- Two invoices for the buckets: one bucket takes both in either order, two do not touch. -/
theorem b2c_swap (t : Rows (String × Decimal) B2CLine) (x y : InvoiceRow) :
    let put := fun (t : Rows (String × Decimal) B2CLine) (z : InvoiceRow) =>
      t.insert z.b2cKey (((t.lookup z.b2cKey).getD z.emptyBucket).add z)
    (put (put t x) y).entries.Perm (put (put t y) x).entries := by
  intro put
  by_cases hkey : x.b2cKey = y.b2cKey
  · simp only [put, emptyBucket_congr hkey]
    generalize x.b2cKey = k at hkey
    subst hkey
    simp only [lookup_insert, insert_insert, Option.getD_some, add_comm _ x y]
    exact .refl _
  · simp only [put, lookup_insert_ne hkey, lookup_insert_ne (Ne.symm hkey)]
    exact insert_insert_of_ne t hkey

theorem alike_swapInvoices (x y : InvoiceRow) (h : Alike b c) :
    Alike ((b.addInvoice x).addInvoice y) ((c.addInvoice y).addInvoice x) := by
  refine Alike.trans (alike_addInvoice y (alike_addInvoice x h)) ?_
  exact
    { b2b := by
        cases hx : x.IsB2B <;> cases hy : y.IsB2B <;>
          simp only [addInvoice, hx, hy, if_true, Bool.false_eq_true, if_false]
        case true.true => exact appended_swap ..
        all_goals exact .refl _
      b2c := by
        cases hx : x.IsB2B <;> cases hy : y.IsB2B <;>
          simp only [addInvoice, hx, hy, if_true, Bool.false_eq_true, if_false]
        · exact b2c_swap c.b2c x y
        all_goals exact .refl _
      creditNotes := .refl _
      hsn := by simp only [addInvoice, add_right_comm]
      totals := by simp only [addInvoice, add_right_comm] }

theorem alike_addNote (n : CreditNoteRow) (h : Alike b c) : Alike (b.addNote n) (c.addNote n) where
  b2b := h.b2b
  b2c := h.b2c
  creditNotes := h.creditNotes.append_right _
  hsn := by simp only [addNote, h.hsn]
  totals := by simp only [addNote, h.totals]

theorem alike_swapNotes (m n : CreditNoteRow) (h : Alike b c) :
    Alike ((b.addNote m).addNote n) ((c.addNote n).addNote m) := by
  refine Alike.trans (alike_addNote n (alike_addNote m h)) ?_
  exact
    { b2b := .refl _
      b2c := .refl _
      creditNotes := appended_swap ..
      hsn := by simp only [addNote, sub_right_comm]
      totals := by simp only [addNote, sub_right_comm] }

/-- Both loops, over permuted documents. -/
theorem alike_accumulate {rows rows' : List InvoiceRow} {notes notes' : List CreditNoteRow}
    (hrows : rows.Perm rows') (hnotes : notes.Perm notes') :
    Alike (accumulate rows notes) (accumulate rows' notes') := by
  have hinvoices : Alike (run addInvoice .start rows)
      (run addInvoice .start rows') :=
    run_perm (R := Alike) Alike.trans alike_addInvoice alike_swapInvoices hrows (Alike.refl _)
      (Alike.refl _)
  have hboth : Alike (run addNote (run addInvoice .start rows) notes)
      (run addNote (run addInvoice .start rows') notes') :=
    run_perm (R := Alike) Alike.trans alike_addNote alike_swapNotes hnotes (Alike.refl _) hinvoices
  exact hboth

/-! ### What the sections hold -/

variable (rows : List InvoiceRow) (notes : List CreditNoteRow)

theorem creditNotes_accumulate :
    (accumulate rows notes).creditNotes = notes.map cdnLine := by
  rw [accumulate, foldl_appends (g := creditNotes) (k := fun n => [n.cdnLine]) fun _ _ => rfl,
    foldl_appends (f := addInvoice) (g := creditNotes) (k := fun _ => []) fun _ _ => (append_nil _).symm]
  simp [start, map_eq_flatMap]

/-! ### Sorting -/

/-- Sorting by a key that no two elements share leaves no choice. -/
theorem sort_unique (S S' : SortSlice) {α κ : Type} [LinearOrder κ] (key : α → κ) {less : α → α → Bool}
    (hless : ∀ a b, less a b = true ↔ key a < key b) {xs ys : List α} (hperm : xs.Perm ys)
    (hnodup : (xs.map key).Nodup) : S.sort less xs = S'.sort less ys := by
  have hnot : ∀ a b, less a b = false ↔ key b ≤ key a := by
    intro a b
    rw [← Bool.not_eq_true, hless, not_lt]
  have hsorted : ∀ (T : SortSlice) (zs : List α), (T.sort less zs).Pairwise fun a b => less b a = false := by
    intro T zs
    refine T.sorted less zs ?_ ?_
    · intro a b c hab hbc
      rw [hnot] at hab hbc ⊢
      exact hab.trans hbc
    · intro a b
      rw [hnot, hnot]
      exact le_total _ _
  refine List.Perm.eq_of_pairwise ?_ (hsorted S xs) (hsorted S' ys)
    (((S.perm less xs).trans hperm).trans (S'.perm less ys).symm)
  intro a b ha hb hab hba
  have ha' : a ∈ xs := (S.perm less xs).mem_iff.mp ha
  have hb' : b ∈ xs := hperm.mem_iff.mpr ((S'.perm less ys).mem_iff.mp hb)
  rw [hnot] at hab hba
  exact inj_on_of_nodup_map hnodup ha' hb' (le_antisymm hab hba)

/-- B2C lines are in the lexicographic order of place and rate. -/
theorem B2CLine.less_iff (x y : B2CLine) : x.less y = true ↔ toLex x.key < toLex y.key := by
  rw [Prod.Lex.toLex_lt_toLex, less]
  by_cases h : x.placeOfSupply = y.placeOfSupply
  · simp only [key, h, ne_eq, not_true, if_false, lt_irrefl, false_or, true_and,
      decide_eq_true_iff]
  · simp only [key, h, ne_eq, not_false_iff, if_true, false_and, or_false, decide_eq_true_iff]

/-- Every return: permuted documents, another order of the buckets and another sorting routine give the
    same return, line for line. -/
theorem return_independent_of_order (S S' : SortSlice) (R R' : MapRange) (period : Period)
    (supplier : Supplier) {rows rows' : List InvoiceRow} {notes notes' : List CreditNoteRow}
    (hrows : rows.Perm rows') (hnotes : notes.Perm notes')
    (hinvoiceIDs : (rows.map InvoiceRow.invoiceID).Nodup) (hinvoices : ∀ row ∈ rows, 0 ≤ row.invoiceID)
    (hnoteIDs : (notes.map CreditNoteRow.creditNoteID).Nodup)
    (hcredits : ∀ note ∈ notes, 0 ≤ note.creditNoteID) :
    BuildReturnOver S R period supplier rows notes = BuildReturnOver S' R' period supplier rows' notes' := by
  have halike := alike_accumulate hrows hnotes
  have hb2b : ((accumulate rows notes).b2b.map B2BLine.invoiceNumber).Nodup := by
    rw [b2b_accumulate, map_map]
    refine nodup_numbers (fun row hrow => hinvoices row (mem_of_mem_filter hrow)) ?_
    exact hinvoiceIDs.sublist (filter_sublist.map _)
  have hcdn : ((accumulate rows notes).creditNotes.map CDNLine.noteNumber).Nodup := by
    rw [creditNotes_accumulate, map_map]
    exact nodup_numbers hcredits hnoteIDs
  have hb2c : ((R.range ((accumulate rows notes).b2c.entries.map fun x => x.2)).map
      fun line => toLex line.key).Nodup := by
    have hkeys := ((R.perm _).map B2CLine.key).nodup_iff.mpr (nodup_keys (balanced_accumulate rows notes))
    have hlex := hkeys.map toLex.injective
    rwa [map_map] at hlex
  have hbuckets := ((R.perm _).trans (halike.b2c.map fun x => x.2)).trans (R'.perm _).symm
  simp only [BuildReturnOver, BuildReturn, finish, halike.hsn, halike.totals]
  rw [sort_unique S S' B2BLine.invoiceNumber (fun _ _ => decide_eq_true_iff) halike.b2b hb2b,
    sort_unique S S' CDNLine.noteNumber (fun _ _ => decide_eq_true_iff) halike.creditNotes hcdn,
    sort_unique S S' (fun line => toLex line.key) B2CLine.less_iff hbuckets hb2c]

/-- The buckets from the one opened last. -/
def MapRange.backwards : MapRange := ⟨List.reverse, List.reverse_perm⟩

/-- An invoice over 100.00 plus 18.00, and a credit note for it. -/
def plainInvoice (id : ℤ) (gstin state : String) : InvoiceRow :=
  ⟨⟨100, 9, 9, 0, 118⟩, id, 0, id, "one", gstin, state⟩

def plainNote (id invoiceID : ℤ) : CreditNoteRow :=
  ⟨⟨100, 9, 9, 0, 118⟩, id, invoiceID, 0, 1, invoiceID, "one", "", "TN"⟩

theorem shuffled_return_same :
    let rows := [plainInvoice 3 "" "TN", plainInvoice 20 "33A" "TN", plainInvoice 1 "" "KA",
      plainInvoice 4 "29B" "KA"]
    let notes := [plainNote 2 3, plainNote 1 1]
    let r := BuildReturnOver insertionSlice .inOrder ⟨2026, 1⟩ ⟨"", "TN", ""⟩ rows notes
    r = BuildReturnOver insertionSlice .backwards ⟨2026, 1⟩ ⟨"", "TN", ""⟩ rows.reverse notes.reverse ∧
      r.b2b.map B2BLine.invoiceNumber = ["INV-000004", "INV-000020"] ∧
      r.b2c.map placeOfSupply = ["29", "33"] := by
  intro rows notes r
  refine ⟨?_, ?_, ?_⟩
  · exact return_independent_of_order insertionSlice insertionSlice .inOrder .backwards ⟨2026, 1⟩
      ⟨"", "TN", ""⟩ rows.reverse_perm.symm notes.reverse_perm.symm (by decide) (by decide) (by decide)
      (by decide)
  · decide +kernel
  · decide +kernel

end IspBss.Gstr1
