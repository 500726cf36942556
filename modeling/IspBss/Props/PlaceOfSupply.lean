import IspBss.Props.HomeState
import IspBss.Props.ReturnTotals

/-! Is a supply filed under the state it was taxed in?

    The same spelling of a state is looked up twice, in two ways:

        taxing   trim, drop spaces, upper case ─▶ code, GST code or name
        filing   trim, upper case              ─▶ code

    What filing finds, taxing finds too, and it is the same state. The converse fails for every spelling
    that is not a two-letter code: such a supply is taxed in its state and filed without one. -/

namespace IspBss.Gstr1

open Lib Building Option List

/-! ### The two lookups -/

theorem byCode_code : ∀ st ∈ gstStates, byCode st.code.toList = some st := by decide +kernel

theorem codeKey_code : ∀ st ∈ gstStates, codeKey st.code = st.code.toList := by decide +kernel

theorem code_spaceless : ∀ st ∈ gstStates, ' ' ∉ st.code.toList := by decide +kernel

theorem code_ne_nil : ∀ st ∈ gstStates, st.code.toList ≠ [] := by decide +kernel

variable {st : GstState}

theorem byCode_mem {key : List Char} (h : byCode key = some st) : st ∈ gstStates ∧ st.code.toList = key :=
  ⟨mem_of_find?_eq_some h, by simpa using List.find?_some h⟩

/-- A spelling the filing recognises: trimmed and in upper case it is a two-letter code. -/
def IsCode (state : String) : Prop := ∃ st ∈ gstStates, codeKey state = st.code.toList
  deriving Decidable

variable {state : String}

/-- Without a space in it, the key for filing is the one for taxing. -/
theorem normaliseKey_eq (h : ' ' ∉ codeKey state) : normaliseKey state = codeKey state := by
  have hspaceless : ∀ c ∈ trimSpace state.toList, c ≠ ' ' := by
    rintro c hc rfl
    exact h (mem_map.mpr ⟨' ', hc, by decide⟩)
  have hfilter : (trimSpace state.toList).filter (· ≠ ' ') = trimSpace state.toList :=
    filter_eq_self.mpr fun c hc => decide_eq_true (hspaceless c hc)
  show ((trimSpace state.toList).filter (· ≠ ' ')).map toUpper = _
  rw [hfilter, codeKey]

/-- What filing finds, taxing finds. -/
theorem IsCode.lookups (h : IsCode state) :
    ∃ st ∈ gstStates, GSTCodeFor state = some st.gstCode ∧ NormaliseState state = some st.code := by
  obtain ⟨st, hst, hkey⟩ := h
  have hnorm : normaliseKey state = st.code.toList := by
    rw [normaliseKey_eq (hkey ▸ code_spaceless st hst), hkey]
  have hcode : byCode st.code.toList = some st := byCode_code st hst
  refine ⟨st, hst, by rw [GSTCodeFor, hkey, hcode]; rfl, ?_⟩
  simp only [NormaliseState, hnorm, code_ne_nil st hst, if_false, hcode]
  rfl

theorem GSTCodeFor_eq_none (h : ¬IsCode state) : GSTCodeFor state = none := by
  rw [GSTCodeFor, map_eq_none_iff]
  by_contra hsome
  obtain ⟨st, hst⟩ := ne_none_iff_exists'.mp hsome
  exact h ⟨st, (byCode_mem hst).1, (byCode_mem hst).2.symm⟩

theorem byGSTCode_mem {key : List Char} (h : byGSTCode key = some st) : st ∈ gstStates := by
  unfold byGSTCode at h
  split at h
  · rename_i hfound
    cases h
    exact mem_of_find?_eq_some hfound
  · obtain ⟨p, -, hp⟩ := bind_eq_some_iff.mp h
    exact (byCode_mem hp).1

/-- A state that is recognised is one of the registry. -/
theorem normaliseState_mem {code : String} (h : NormaliseState state = some code) :
    ∃ st ∈ gstStates, st.code = code := by
  simp only [NormaliseState] at h
  split at h
  · cases h
  obtain ⟨st, hst, rfl⟩ := map_eq_some_iff.mp h
  refine ⟨st, ?_, rfl⟩
  rw [or_eq_some_iff, or_eq_some_iff] at hst
  rcases hst with (hcode | ⟨-, hgst⟩) | ⟨-, hname⟩
  · exact (byCode_mem hcode).1
  · exact byGSTCode_mem hgst
  · exact mem_of_find?_eq_some hname

theorem GSTCodeFor_code (h : st ∈ gstStates) : GSTCodeFor st.code = some st.gstCode := by
  rw [GSTCodeFor, codeKey_code st h, byCode_code st h]
  rfl

/-! ### The line of an invoice -/

/-- Where the return files an invoice: its own B2B line, or the B2C line of its key. -/
inductive Return.Files (r : Return) (row : InvoiceRow) : String → Prop where
  | b2b (h : row.IsB2B = true) (hline : row.b2bLine ∈ r.b2b) : r.Files row row.b2bLine.placeOfSupply
  | b2c (h : row.IsB2B = false) (line : B2CLine) (hline : line ∈ r.b2c) (hkey : line.key = row.b2cKey) :
      r.Files row line.placeOfSupply

/-- A bucket, once opened, stays. -/
theorem mem_b2c_invoices (rows : List InvoiceRow) (b : Building) {key : String × Decimal}
    (h : key ∈ b.b2c ∨ ∃ row ∈ rows, row.IsB2B = false ∧ row.b2cKey = key) :
    key ∈ (rows.foldl addInvoice b).b2c := by
  induction rows generalizing b with
  | nil =>
    rcases h with hmem | ⟨row, hrow, -⟩
    · exact hmem
    · cases hrow
  | cons row rows ih =>
    refine ih (b.addInvoice row) ?_
    have hstep : key ∈ b.b2c ∨ (row.IsB2B = false ∧ row.b2cKey = key) → key ∈ (b.addInvoice row).b2c := by
      cases hb : row.IsB2B with
      | true => simp [addInvoice, hb]
      | false =>
        simp only [addInvoice, hb, Bool.false_eq_true, if_false, AList.mem_insert, true_and]
        rintro (hold | hnew)
        · exact .inr hold
        · exact .inl hnew.symm
    rcases h with hmem | ⟨row', hrow', hkey⟩
    · exact .inl (hstep (.inl hmem))
    · rcases mem_cons.mp hrow' with rfl | hrow'
      · exact .inl (hstep (.inr hkey))
      · exact .inr ⟨row', hrow', hkey⟩

theorem b2c_notes (notes : List CreditNoteRow) (b : Building) : (notes.foldl addNote b).b2c = b.b2c := by
  induction notes generalizing b with
  | nil => rfl
  | cons note notes ih => exact ih (b.addNote note)

section
variable (S : SortSlice) (period : Period) (supplier : Supplier) {rows : List InvoiceRow}
  (notes : List CreditNoteRow) {row : InvoiceRow}

/-- Every invoice is filed. -/
theorem exists_files (hrow : row ∈ rows) : ∃ place, (BuildReturn S period supplier rows notes).Files row place := by
  cases h : row.IsB2B with
  | true =>
    refine ⟨_, .b2b h ((S.perm _ _).mem_iff.mpr ?_)⟩
    rw [b2b_accumulate]
    exact mem_map_of_mem (mem_filter.mpr ⟨hrow, h⟩)
  | false =>
    have hkey : row.b2cKey ∈ (accumulate rows notes).b2c := by
      rw [accumulate, b2c_notes]
      exact mem_b2c_invoices rows .start (.inr ⟨row, hrow, h, rfl⟩)
    obtain ⟨line, hline⟩ := isSome_iff_exists.mp (AList.lookup_isSome.mpr hkey)
    have hmem := AList.mem_lookup_iff.mp hline
    refine ⟨_, .b2c h line ((S.perm _ _).mem_iff.mpr (mem_map_of_mem hmem)) ?_⟩
    exact ((balanced_accumulate rows notes).keyed _ hmem).symm

/-- It is filed where its state, as it is stored, puts it. -/
theorem Return.Files.place {r : Return} {place : String} (h : r.Files row place) :
    place = placeOf row.recipientState := by
  cases h with
  | b2b _ _ => rfl
  | b2c _ line _ hkey => exact congrArg Prod.fst hkey

end

/-! ### Taxed and filed -/

/-- An invoice as the return consumes it: its amounts, and the recipient's state as it is stored. -/
def InvoiceRow.ofInvoice (row : InvoiceRow) (inv : Invoice) (state : String) : InvoiceRow :=
  { row with
    taxableValue := inv.baseAmount, cgst := inv.cgstAmount, sgst := inv.sgstAmount,
    igst := inv.igstAmount, total := inv.totalAmount, recipientState := state }

/-- The filing code of the home state. -/
def homeCode (home : String) : Option String := (NormaliseState home).bind GSTCodeFor

/-- The place of supply fits the tax: the home state's for CGST and SGST, another state's for IGST if
    the subscriber's state is known. -/
structure FiledAsTaxed (inv : Invoice) (state home place : String) : Prop where
  intra : inv.cgstAmount ≠ 0 ∨ inv.sgstAmount ≠ 0 → some place = homeCode home
  inter : inv.igstAmount ≠ 0 → (NormaliseState state).isSome →
    place ≠ "" ∧ (∃ st ∈ gstStates, st.gstCode = place) ∧ some place ≠ homeCode home

/-- The state is unknown, or spelled as its two-letter code, or there is no tax to file. -/
def FilesAsTaxed (base : Decimal) (state home : String) (rate : GstRate) : Prop :=
  NormaliseState state = none ∨ IsCode state ∨
    if NormaliseState state = NormaliseState home then
      NoTax base rate.cgstRate ∧ NoTax base rate.sgstRate
    else NoTax base rate.igstRate
  deriving Decidable

section
variable {base : Decimal} {state home : String} {rate : GstRate}

/-- When CGST or SGST is charged. -/
theorem charges_intra (hhome : (NormaliseState home).isSome) :
    ((CalculateGstInvoiceFrom base state home rate).cgstAmount ≠ 0 ∨
        (CalculateGstInvoiceFrom base state home rate).sgstAmount ≠ 0) ↔
      NormaliseState state = NormaliseState home ∧
        ¬(NoTax base rate.cgstRate ∧ NoTax base rate.sgstRate) := by
  rw [← isIntrastate_iff hhome, ← taxHead_eq_zero, ← taxHead_eq_zero, not_and_or]
  simp only [CalculateGstInvoiceFrom]
  cases isIntrastate state home <;> simp

/-- When IGST is charged. -/
theorem charges_inter (hhome : (NormaliseState home).isSome) :
    (CalculateGstInvoiceFrom base state home rate).igstAmount ≠ 0 ↔
      NormaliseState state ≠ NormaliseState home ∧ ¬NoTax base rate.igstRate := by
  rw [ne_eq (NormaliseState state), ← isIntrastate_iff hhome, ← taxHead_eq_zero]
  simp only [CalculateGstInvoiceFrom]
  cases isIntrastate state home <;> simp

theorem homeCode_eq (hhome : (NormaliseState home).isSome) :
    ∃ st ∈ gstStates, NormaliseState home = some st.code ∧ homeCode home = some st.gstCode := by
  obtain ⟨code, hcode⟩ := isSome_iff_exists.mp hhome
  obtain ⟨st, hst, rfl⟩ := normaliseState_mem hcode
  refine ⟨st, hst, hcode, ?_⟩
  rw [homeCode, hcode]
  exact GSTCodeFor_code hst

/-- A two-letter code is filed as it is taxed. -/
theorem filedAsTaxed_of_isCode (hhome : (NormaliseState home).isSome) (h : IsCode state) :
    FiledAsTaxed (CalculateGstInvoiceFrom base state home rate) state home (placeOf state) := by
  obtain ⟨st, hst, hgst, hcode⟩ := h.lookups
  obtain ⟨own, hown, hhcode, hgcode⟩ := homeCode_eq hhome
  have hplace : placeOf state = st.gstCode := by rw [placeOf, hgst, getD_some]
  have hsame : NormaliseState state = NormaliseState home ↔ some (placeOf state) = homeCode home := by
    rw [hcode, hhcode, hplace, hgcode, some_inj, some_inj]
    constructor
    · intro heq
      have hfor := GSTCodeFor_code hst
      rw [heq, GSTCodeFor_code hown] at hfor
      exact (Option.some.inj hfor).symm
    · intro heq
      rw [gstCode_inj st hst own hown heq]
  refine ⟨fun hintra => hsame.mp ((charges_intra hhome).mp hintra).1, fun hinter _ => ?_⟩
  refine ⟨hplace ▸ gstCode_ne_empty st hst, ⟨st, hst, hplace.symm⟩, fun heq => ?_⟩
  exact ((charges_inter hhome).mp hinter).1 (hsame.mpr heq)

theorem filedAsTaxed_iff (hhome : (NormaliseState home).isSome) :
    FiledAsTaxed (CalculateGstInvoiceFrom base state home rate) state home (placeOf state) ↔
      FilesAsTaxed base state home rate := by
  by_cases hcode : IsCode state
  · exact iff_of_true (filedAsTaxed_of_isCode hhome hcode) (.inr (.inl hcode))
  obtain ⟨own, hown, hhcode, hgcode⟩ := homeCode_eq hhome
  have hplace : placeOf state = "" := by rw [placeOf, GSTCodeFor_eq_none hcode, getD_none]
  constructor
  · rintro ⟨hintra, hinter⟩
    cases hs : NormaliseState state with
    | none => exact .inl hs
    | some code =>
      refine .inr (.inr ?_)
      split
      · rename_i hsame
        -- an empty place of supply is not the home state's
        by_contra htax
        have hempty := hintra ((charges_intra hhome).mpr ⟨hsame, htax⟩)
        rw [hplace, hgcode] at hempty
        exact gstCode_ne_empty own hown (Option.some.inj hempty).symm
      · rename_i hother
        by_contra htax
        exact (hinter ((charges_inter hhome).mpr ⟨hother, htax⟩) (by rw [hs]; rfl)).1 hplace
  · rintro (hnone | hyes | htax)
    · refine ⟨fun hintra => ?_, fun _ hknown => ?_⟩
      · have hsame := ((charges_intra hhome).mp hintra).1
        rw [hnone, hhcode] at hsame
        cases hsame
      · rw [hnone] at hknown
        cases hknown
    · exact absurd hyes hcode
    · refine ⟨fun hintra => ?_, fun hinter _ => ?_⟩
      · obtain ⟨hsame, hcharged⟩ := (charges_intra hhome).mp hintra
        rw [if_pos hsame] at htax
        exact absurd htax hcharged
      · obtain ⟨hother, hcharged⟩ := (charges_inter hhome).mp hinter
        rw [if_neg hother] at htax
        exact absurd htax hcharged

end

/-- Any spelling of a subscriber's state, any recognised home state, any base amount and rates, and any
    return with the invoice in it: the return files the invoice, and the place of supply fits the tax
    exactly if the state is unknown, or spelled as its two-letter code, or there is no tax to file. -/
theorem filed_as_taxed_iff (base : Decimal) (state home : String) (hhome : (NormaliseState home).isSome)
    (rate : GstRate) (S : SortSlice) (period : Period) (supplier : Supplier) (rows : List InvoiceRow)
    (notes : List CreditNoteRow) (row : InvoiceRow)
    (hrow : row.ofInvoice (CalculateGstInvoiceFrom base state home rate) state ∈ rows) :
    let inv := CalculateGstInvoiceFrom base state home rate
    let r := BuildReturn S period supplier rows notes
    (∃ place, r.Files (row.ofInvoice inv state) place) ∧
    ∀ place, r.Files (row.ofInvoice inv state) place →
      (FiledAsTaxed inv state home place ↔ FilesAsTaxed base state home rate) := by
  refine ⟨exists_files S period supplier notes hrow, fun place hplace => ?_⟩
  rw [hplace.place]
  exact filedAsTaxed_iff hhome

/-- An invoice of the seeded rate over 500.00 to a recipient without a GSTIN. -/
def invoiceTo (state : String) : InvoiceRow :=
  InvoiceRow.ofInvoice ⟨0, 1, 0, 1, "one", "", ""⟩
    (CalculateGstInvoiceFrom (paise 50000) state "TN" seededRate) state

theorem tn_filed_as_taxed :
    (NormaliseState "TN").isSome ∧ invoiceTo " tn" ∈ [invoiceTo " tn"] ∧
    ∃ place, (BuildReturn insertionSlice ⟨2026, 1⟩ ⟨"", "TN", ""⟩ [invoiceTo " tn"] []).Files
        (invoiceTo " tn") place ∧
      FiledAsTaxed (CalculateGstInvoiceFrom (paise 50000) " tn" "TN" seededRate) " tn" "TN" place := by
  have hhome : (NormaliseState "TN").isSome := by decide
  have hrow : invoiceTo " tn" ∈ [invoiceTo " tn"] := .head _
  obtain ⟨⟨place, hplace⟩, hiff⟩ := filed_as_taxed_iff (paise 50000) " tn" "TN" hhome seededRate
    insertionSlice ⟨2026, 1⟩ ⟨"", "TN", ""⟩ [invoiceTo " tn"] [] ⟨0, 1, 0, 1, "one", "", ""⟩ hrow
  exact ⟨hhome, hrow, place, hplace, (hiff place hplace).mpr (.inr (.inl (by decide)))⟩

/-- A name with a line feed after it, as migration 038 leaves it in the column: taxed at home, filed nowhere. -/
theorem named_state_filed_nowhere :
    let r := BuildReturn insertionSlice ⟨2026, 1⟩ ⟨"", "TN", ""⟩ [invoiceTo "Tamil Nadu\n"] []
    (invoiceTo "Tamil Nadu\n").cgst = 45 ∧ (invoiceTo "Tamil Nadu\n").sgst = 45 ∧
      r.b2c.map B2CLine.placeOfSupply = [""] ∧ (r.b2c.map fun line => line.taxableValue) = [500] ∧
      GSTCodeFor "TN" = some "33" := by
  refine ⟨?_, ?_, ?_, ?_, ?_⟩ <;> decide +kernel

end IspBss.Gstr1
