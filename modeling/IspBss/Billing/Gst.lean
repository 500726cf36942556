import IspBss.Db.Store

/-! GST on an invoice: which state the subscriber is in, and the tax that follows.

    A registered state is resolved from its two-letter code, its numeric GST code or its name, in any
    case and with any spacing. The same state as the supplier's pays CGST and SGST, any other, an
    unrecognised one included, pays IGST. Each head is rounded to the paisa on its own. -/

namespace IspBss

open Lib Lib.Numeric

/-- One entry of the GST state registry. -/
structure GstState where
  code : String
  gstCode : String
  name : String
  deriving DecidableEq

def gstStates : List GstState :=
  [⟨"JK", "01", "Jammu and Kashmir"⟩, ⟨"HP", "02", "Himachal Pradesh"⟩, ⟨"PB", "03", "Punjab"⟩,
   ⟨"CH", "04", "Chandigarh"⟩, ⟨"UK", "05", "Uttarakhand"⟩, ⟨"HR", "06", "Haryana"⟩,
   ⟨"DL", "07", "Delhi"⟩, ⟨"RJ", "08", "Rajasthan"⟩, ⟨"UP", "09", "Uttar Pradesh"⟩,
   ⟨"BR", "10", "Bihar"⟩, ⟨"SK", "11", "Sikkim"⟩, ⟨"AR", "12", "Arunachal Pradesh"⟩,
   ⟨"NL", "13", "Nagaland"⟩, ⟨"MN", "14", "Manipur"⟩, ⟨"MZ", "15", "Mizoram"⟩,
   ⟨"TR", "16", "Tripura"⟩, ⟨"ML", "17", "Meghalaya"⟩, ⟨"AS", "18", "Assam"⟩,
   ⟨"WB", "19", "West Bengal"⟩, ⟨"JH", "20", "Jharkhand"⟩, ⟨"OD", "21", "Odisha"⟩,
   ⟨"CG", "22", "Chhattisgarh"⟩, ⟨"MP", "23", "Madhya Pradesh"⟩, ⟨"GJ", "24", "Gujarat"⟩,
   ⟨"DD", "25", "Daman and Diu"⟩, ⟨"DN", "26", "Dadra and Nagar Haveli and Daman and Diu"⟩,
   ⟨"MH", "27", "Maharashtra"⟩, ⟨"KA", "29", "Karnataka"⟩, ⟨"GA", "30", "Goa"⟩,
   ⟨"LD", "31", "Lakshadweep"⟩, ⟨"KL", "32", "Kerala"⟩, ⟨"TN", "33", "Tamil Nadu"⟩,
   ⟨"PY", "34", "Puducherry"⟩, ⟨"AN", "35", "Andaman and Nicobar Islands"⟩,
   ⟨"TS", "36", "Telangana"⟩, ⟨"AP", "37", "Andhra Pradesh"⟩, ⟨"LA", "38", "Ladakh"⟩,
   ⟨"OT", "97", "Other Territory"⟩]

theorem gstCode_ne_empty : ∀ st ∈ gstStates, st.gstCode ≠ "" := by decide +kernel

theorem gstCode_inj : ∀ st ∈ gstStates, ∀ st' ∈ gstStates, st.gstCode = st'.gstCode → st = st' := by
  decide +kernel

/-- Codes of historical records: `28` was Andhra Pradesh. -/
def legacyGSTCodes : List (String × String) := [("28", "AP")]

/-- `unicode.IsSpace`. -/
def isSpace (c : Char) : Bool :=
  let n := c.toNat
  (9 ≤ n && n ≤ 13) || n == 32 || n == 0x85 || n == 0xA0 || n == 0x1680 ||
    (0x2000 ≤ n && n ≤ 0x200A) || n == 0x2028 || n == 0x2029 || n == 0x202F || n == 0x205F ||
    n == 0x3000

/-- `unicode.ToUpper` as far as it can reach an ASCII letter: the dotless i and the long s do too. -/
def toUpper (c : Char) : Char :=
  if c = 'ı' then 'I' else if c = 'ſ' then 'S' else c.toUpper

/-- `strings.TrimSpace`. -/
def trimSpace (cs : List Char) : List Char := ((cs.dropWhile isSpace).reverse.dropWhile isSpace).reverse

/-- Trimmed, without spaces, in upper case. -/
def normaliseKey (s : String) : List Char := ((trimSpace s.toList).filter (· ≠ ' ')).map toUpper

def byCode (key : List Char) : Option GstState := gstStates.find? fun s => s.code.toList = key

def byGSTCode (key : List Char) : Option GstState :=
  match gstStates.find? fun s => s.gstCode.toList = key with
  | some s => some s
  | none => (legacyGSTCodes.find? fun p => p.1.toList = key).bind fun p => byCode p.2.toList

def byName (key : List Char) : Option GstState := gstStates.find? fun s => normaliseKey s.name = key

/-- The canonical two-letter code, if the spelling is recognised. -/
def NormaliseState (input : String) : Option String :=
  let key := normaliseKey input
  if key = [] then none
  else (((byCode key).or (byGSTCode key)).or (byName key)).map GstState.code

/-- The key of the lookups by canonical code: trimmed, in upper case, spaces kept. -/
def codeKey (s : String) : List Char := (trimSpace s.toList).map toUpper

/-- The two-digit filing code of a canonical state code. -/
def GSTCodeFor (stateCode : String) : Option String := (byCode (codeKey stateCode)).map GstState.gstCode

def StateName (stateCode : String) : Option String := (byCode (codeKey stateCode)).map GstState.name

/-- The supplier's own state when none is configured. -/
def DefaultHomeState : String := "TN"

/-- One tax head: `base · rate / 100`, rounded to the paisa. -/
def taxHead (baseAmount rate : Decimal) : Decimal := round 2 (div (baseAmount * rate) 100)

/-- Whether both states are recognised and are the same. -/
def isIntrastate (subscriberState homeState : String) : Bool :=
  match NormaliseState subscriberState, NormaliseState homeState with
  | some sub, some home => sub = home
  | _, _ => false

def CalculateGstInvoiceFrom (baseAmount : Decimal) (subscriberState homeState : String)
    (rate : GstRate) : Invoice :=
  let intra := isIntrastate subscriberState homeState
  let cgst := if intra then taxHead baseAmount rate.cgstRate else 0
  let sgst := if intra then taxHead baseAmount rate.sgstRate else 0
  let igst := if intra then 0 else taxHead baseAmount rate.igstRate
  { subscriberID := 0, baseAmount := baseAmount, cgstAmount := cgst, sgstAmount := sgst,
    igstAmount := igst, totalAmount := baseAmount + cgst + sgst + igst, gstRateID := rate.id,
    gbIncluded := 0, gbUsed := 0 }

def CalculateGstInvoice (baseAmount : Decimal) (subscriberState : String) (rate : GstRate) :
    Invoice :=
  CalculateGstInvoiceFrom baseAmount subscriberState DefaultHomeState rate

/-- The tax an invoice adds to its base amount. -/
def Invoice.tax (inv : Invoice) : Decimal := inv.cgstAmount + inv.sgstAmount + inv.igstAmount

@[simp] theorem CalculateGstInvoice_total (base : Decimal) (state : String) (rate : GstRate) :
    (CalculateGstInvoice base state rate).totalAmount = base + (CalculateGstInvoice base state rate).tax := by
  simp only [CalculateGstInvoice, CalculateGstInvoiceFrom, Invoice.tax]
  ring

end IspBss
