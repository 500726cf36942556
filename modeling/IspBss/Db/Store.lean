import Mathlib.Data.List.Sort
import IspBss.Db.Schema

/-! The store: one transaction per method of the `internal/db` stores that billing uses.

    A method that runs one SQL statement is one transaction; `RecordRecharge` and
    `CalculateAndStoreLCOCommission` group several. A constraint that fails, fails the transaction,
    and `Tx.commit` then leaves the tables as they were. -/

namespace IspBss

open Lib Lib.Numeric Tx

/-! ### Values that travel between the services and the store -/

/-- A completed wallet ledger entry. -/
structure Transaction where
  id : ℤ
  subscriberID : ℤ
  entryType : EntryType
  amount : Decimal
  balanceAfter : Decimal
  transactionToken : String
  description : String
  deriving DecidableEq

/-- One leg of a ledger posting. -/
structure WalletEntry where
  subscriberID : ℤ
  franchiseID : Option ℤ
  account : Account
  entryType : EntryType
  amount : Decimal
  balanceAfter : Decimal
  transactionToken : Option String
  description : String
  adjustedBy : String
  deriving DecidableEq

/-- Both legs of a posting and the wallet balance it results in. -/
structure RechargePosting where
  subscriberID : ℤ
  debit : WalletEntry
  credit : WalletEntry
  newBalance : Decimal
  taxAmount : Decimal
  deriving DecidableEq

structure DunningCandidate where
  subscriberID : ℤ
  username : String
  mobileNumber : String
  state : DunningState
  planExpiry : Time
  deriving DecidableEq

/-- A missing `planExpiry` is the zero time of the source, which is before any clock reading. -/
structure RenewalCandidate where
  subscriberID : ℤ
  username : String
  franchiseID : Option ℤ
  registeredState : String
  dunningState : DunningState
  status : SubStatus
  planName : String
  planPrice : Decimal
  planValidityDays : ℤ
  planVolumeGB : ℤ
  planExpiry : Option Time
  deriving DecidableEq

structure GstRate where
  id : ℤ
  cgstRate : Decimal
  sgstRate : Decimal
  igstRate : Decimal
  deriving DecidableEq

structure Invoice where
  subscriberID : ℤ
  baseAmount : Decimal
  cgstAmount : Decimal
  sgstAmount : Decimal
  igstAmount : Decimal
  totalAmount : Decimal
  gstRateID : ℤ
  gbIncluded : ℤ
  gbUsed : Decimal
  deriving DecidableEq

structure LCOCommissionEntry where
  franchiseID : ℤ
  subscriberID : ℤ
  rechargeAmount : Decimal
  commissionRate : Decimal
  commissionAmount : Decimal
  transactionRef : String
  deriving DecidableEq

structure PlanChangeInfo where
  username : String
  currentExpiry : Option Time
  oldPrice : Decimal
  oldValidityDays : ℤ
  newPrice : Decimal
  newValidityDays : ℤ
  deriving DecidableEq

/-! ### Rows of `subscribers` -/

/-- `UPDATE subscribers SET … WHERE id = …`: whether a row matched. -/
def updateWhereID (id : ℤ) (f : SubscriberRow → SubscriberRow) : DBTx Bool := fun s =>
  match s.subscribers.lookup id with
  | none => .ok (false, s)
  | some r =>
    match (f r.toSubscriberRow).check with
    | .error e => .error e
    | .ok r' => .ok (true, { s with subscribers := s.subscribers.insert id r' })

/-- The row with this id, or `ErrNotFound`. -/
def subscriberRow (id : ℤ) : DBTx Subscriber := do
  orThrow ((← get).subscribers.lookup id) .notFound

/-- The row with this id joined with its plan, or `ErrNotFound`. -/
def subscriberPlan (id : ℤ) : DBTx (Subscriber × Plan) := do
  let r ← subscriberRow id
  let p ← orThrow ((← get).plans.lookup r.planID) .notFound
  return (r, p)

/-! ### The general ledger -/

/-- `billing.GLAccountCode`. -/
def GLAccountCode : Account → String
  | .subscriberWallet => "1200"
  | .gatewayClearing => "1000"
  | .revenueClearing => "4000"
  | .adjustmentClearing => "5200"

/-- `billing.GLAccountGSTPayable`. -/
def GLAccountGSTPayable : String := "2200"

/-- The only account a tax split may be taken out of. -/
def glRevenueAccount : String := "4000"

/-- One line of a journal entry before its account is resolved. -/
structure GlLeg where
  code : String
  entryType : EntryType
  amount : Decimal
  deriving DecidableEq

/-- The legs with those on `counterCode` divided into net revenue and tax. -/
def splitLegs (counterCode : String) (tax : Decimal) : List GlLeg → Except StoreErr (List GlLeg)
  | [] => .ok []
  | leg :: legs =>
    if leg.code ≠ counterCode then (leg :: ·) <$> splitLegs counterCode tax legs
    else if leg.amount - tax ≤ 0 then .error (.taxNotWithin tax leg.amount)
    else ([{ leg with amount := leg.amount - tax },
           { leg with code := GLAccountGSTPayable, amount := tax }] ++ ·) <$>
      splitLegs counterCode tax legs

/-- Divide the revenue leg of a taxed posting; tax against any other account is refused. -/
def splitTaxLeg (legs : List GlLeg) (counterCode : String) (tax : Decimal) :
    Except StoreErr (List GlLeg) :=
  if tax = 0 then .ok legs
  else if counterCode ≠ glRevenueAccount then .error (.taxOnNonRevenue tax counterCode)
  else splitLegs counterCode tax legs

/-- `SELECT id FROM chart_of_accounts WHERE code = …`. -/
def glAccountID (code : String) : DBTx ℤ := do
  orThrow ((← get).chartOfAccounts.lookup code) (.noGLAccount code)

/-- One `gl_journal_lines` row, with its column checks. -/
def glLine (accountID : ℤ) (debit credit : Decimal) : DBTx GlLine := do
  let d ← orThrow (numeric14 debit) (.overflow "gl_journal_lines.debit")
  let c ← orThrow (numeric14 credit) (.overflow "gl_journal_lines.credit")
  if h : (0 < d ∧ c = 0) ∨ (d = 0 ∧ 0 < c) then return ⟨accountID, d, c, h⟩
  else throw (.check "chk_gl_line")

/-- A leg posts to the side its entry type names. -/
def legLine (accountID : ℤ) (leg : GlLeg) : DBTx GlLine :=
  match leg.entryType with
  | .debit => glLine accountID leg.amount 0
  | .credit => glLine accountID 0 leg.amount

/-- The journal lines of the legs, in order. -/
def glLines : List GlLeg → DBTx (List GlLine)
  | [] => return []
  | leg :: legs => do
    let accountID ← glAccountID leg.code
    let line ← legLine accountID leg
    return line :: (← glLines legs)

/-- Insert a journal entry with its lines; the trigger at commit refuses an unbalanced one. -/
def postJournal (description sourceType : String) (sourceID : ℤ) (createdBy : String)
    (lines : List GlLine) : DBTx Unit := do
  let s ← get
  if h : (lines.map GlLine.debit).sum = (lines.map GlLine.credit).sum then
    let id := (s.glJournal.length : ℤ) + 1
    let entry : GlJournalEntry := ⟨id, description, sourceType, sourceID, createdBy, lines, h⟩
    set { s with glJournal := s.glJournal ++ [entry] }
  else throw (.check "trg_gl_journal_balanced")

namespace BillingStore

/-! ### Wallet -/

def GetSubscriberBalance (id : ℤ) : DBTx Decimal := do
  return paise (← subscriberRow id).walletBalance

/-- `none` when the token has not been seen. -/
def GetTransactionByToken (token : String) : DBTx (Option Transaction) := do
  if token = "" then return none
  else return ((← get).walletLedgers.find? token).map fun r =>
    { id := r.id, subscriberID := r.subscriberID, entryType := r.entryType,
      amount := paise r.amount, balanceAfter := paise r.balanceAfter,
      transactionToken := r.transactionToken.getD "", description := r.description }

variable (e : WalletEntry) (token : Option String)

/-- The `wallet_ledgers` row of a leg. -/
def ledgerRow (id amount balanceAfter : ℤ) :
    WalletLedger :=
  { id := id, subscriberID := e.subscriberID, franchiseID := e.franchiseID, account := e.account,
    entryType := e.entryType, amount := amount, balanceAfter := balanceAfter,
    transactionToken := token, description := e.description,
    adjustedByUsername := nullIfEmpty e.adjustedBy }

/-- Insert one ledger leg and return its id. -/
def insertLeg : DBTx ℤ := do
  let s ← get
  require (e.subscriberID ∈ s.subscribers) (.foreignKey "wallet_ledgers.subscriber_id")
  require (∀ f ∈ e.franchiseID, f ∈ s.franchises) (.foreignKey "wallet_ledgers.franchise_id")
  let amount ← orThrow (numeric12 e.amount) (.overflow "wallet_ledgers.amount")
  let balanceAfter ← orThrow (numeric12 e.balanceAfter) (.overflow "wallet_ledgers.balance_after")
  require (∀ t ∈ token, t.length ≤ 100) (.tooLong "wallet_ledgers.transaction_token")
  require (e.adjustedBy.length ≤ 100) (.tooLong "wallet_ledgers.adjusted_by_username")
  let id := (s.walletLedgers.rows.length : ℤ) + 1
  let ledgers ← orThrow (s.walletLedgers.insert (ledgerRow e token id amount balanceAfter))
    (.unique "idx_wallet_token")
  set { s with walletLedgers := ledgers }
  return id

/-- The general-ledger side of a wallet posting. -/
def postWalletGLEntry (p : RechargePosting) (walletLegID : ℤ) : DBTx Unit := do
  let debitCode := GLAccountCode p.debit.account
  let creditCode := GLAccountCode p.credit.account
  let createdBy := if p.credit.adjustedBy = "" then "system" else p.credit.adjustedBy
  let legs : List GlLeg := [⟨debitCode, p.debit.entryType, p.debit.amount⟩,
    ⟨creditCode, p.credit.entryType, p.credit.amount⟩]
  let legs ← splitTaxLeg legs debitCode p.taxAmount
  let lines ← glLines legs
  postJournal p.credit.description "wallet_ledger" walletLegID createdBy lines

/-- Both ledger legs, the new balance and the journal entry, in one transaction. The balance is
    written as the absolute value the posting carries. -/
def RecordRecharge (p : RechargePosting) : DBTx Transaction := do
  let _ ← insertLeg p.debit none
  let creditID ← insertLeg p.credit p.credit.transactionToken
  let balance ← orThrow (numeric12 p.newBalance) (.overflow "subscribers.wallet_balance")
  let _ ← updateWhereID p.subscriberID fun r => { r with walletBalance := balance }
  postWalletGLEntry p creditID
  return { id := creditID, subscriberID := p.credit.subscriberID, entryType := p.credit.entryType,
           amount := p.credit.amount, balanceAfter := p.newBalance,
           transactionToken := p.credit.transactionToken.getD "",
           description := p.credit.description }

/-! ### Dunning -/

def GetSubscriberDunningState (now : Time) (id : ℤ) : DBTx (DunningState × Time) := do
  let r ← subscriberRow id
  return (r.dunningState, r.planExpiry.getD now)

/-- The candidate a row yields: anything that expires within seven days or is already in dunning. -/
def dunningCandidate? (now : Time) (id : ℤ) (r : Subscriber) : Option DunningCandidate :=
  match r.planExpiry with
  | some expiry =>
    if r.status ≠ .terminated ∧ (expiry ≤ now + 7 * day ∨ r.dunningState ≠ .active) then
      some { subscriberID := id, username := r.username, mobileNumber := r.mobileNumber,
             state := r.dunningState, planExpiry := expiry }
    else none
  | none => none

/-- Latest expiry first. -/
def ListDunningCandidates (now : Time) : DBTx (List DunningCandidate) := do
  let rows := (← get).subscribers.entries.filterMap fun x => dunningCandidate? now x.1 x.2
  return rows.insertionSort fun a b => b.planExpiry ≤ a.planExpiry

/-- Move the dunning state and the status derived from it, whatever they are now. -/
def SetSubscriberDunningState (id : ℤ) (state : DunningState) (status : SubStatus) : DBTx Unit := do
  let hit ← updateWhereID id fun r => { r with dunningState := state, status := status }
  require (hit = true) .notFound

/-! ### Renewal -/

/-- The candidate a row yields: expired and funded, or funded and waiting for a first cycle. -/
def renewalCandidate? (now : Time) (plans : Table Plan) (id : ℤ) (r : Subscriber) :
    Option RenewalCandidate :=
  match plans.lookup r.planID with
  | some p =>
    if r.status ≠ .terminated ∧ p.price ≤ r.walletBalance ∧
        ((∃ x ∈ r.planExpiry, x ≤ now) ∨ (r.planExpiry = none ∧ r.status = .pendingPayment)) then
      some { subscriberID := id, username := r.username, franchiseID := r.franchiseID,
             registeredState := r.registeredState, dunningState := r.dunningState,
             status := r.status, planName := p.name, planPrice := paise p.price,
             planValidityDays := p.validityDays, planVolumeGB := p.volumeGB,
             planExpiry := r.planExpiry }
    else none
  | none => none

def ListRenewalCandidates (now : Time) : DBTx (List RenewalCandidate) := do
  let s ← get
  return s.subscribers.entries.filterMap fun x => renewalCandidate? now s.plans x.1 x.2

def SetPlanExpiry (id : ℤ) (expiry : Time) : DBTx Unit := do
  let _ ← updateWhereID id fun r => { r with planExpiry := some expiry }

/-- Guarded on the current status: a row that is no longer `pending_payment` does not match. -/
def ActivateSubscriber (id : ℤ) (expiry : Time) : DBTx Unit := do
  let r ← subscriberRow id
  require (r.status = .pendingPayment) .notFound
  let _ ← updateWhereID id fun r => { r with status := .active, planExpiry := some expiry }

/-! ### Invoices -/

def GetInvoiceInputs (id : ℤ) : DBTx (String × ℤ) := do
  let (r, p) ← subscriberPlan id
  return (r.registeredState, p.volumeGB)

def CreateInvoice (inv : Invoice) : DBTx ℤ := do
  let s ← get
  require (inv.subscriberID ∈ s.subscribers) (.foreignKey "invoices.subscriber_id")
  require (∃ r ∈ s.gstRates, r.id = inv.gstRateID) (.foreignKey "invoices.gst_rate_id")
  let base ← orThrow (numeric12 inv.baseAmount) (.overflow "invoices.base_amount")
  let cgst ← orThrow (numeric12 inv.cgstAmount) (.overflow "invoices.cgst_amount")
  let sgst ← orThrow (numeric12 inv.sgstAmount) (.overflow "invoices.sgst_amount")
  let igst ← orThrow (numeric12 inv.igstAmount) (.overflow "invoices.igst_amount")
  let total ← orThrow (numeric12 inv.totalAmount) (.overflow "invoices.total_amount")
  let gbUsed ← orThrow (toFixed 10 2 inv.gbUsed) (.overflow "invoices.gb_used")
  if h : GstLogic cgst igst then
    let id := (s.invoices.length : ℤ) + 1
    let row : InvoiceRow := ⟨id, inv.subscriberID, base, cgst, sgst, igst, total,
      inv.gstRateID, inv.gbIncluded, gbUsed, h⟩
    set { s with invoices := s.invoices ++ [row] }
    return id
  else throw (.check "chk_gst_logic")

/-- The rate effective now: the latest that has started. -/
def GetActiveGstRate (now : Time) : DBTx GstRate := do
  let started := (← get).gstRates.filter fun r => r.effectiveFrom ≤ now
  let latest := started.insertionSort fun a b => b.effectiveFrom ≤ a.effectiveFrom
  let r ← orThrow latest.head? .notFound
  return { id := r.id, cgstRate := paise r.cgstRate, sgstRate := paise r.sgstRate,
           igstRate := paise r.igstRate }

end BillingStore

namespace PortalStore

def GetPlanRenewalInfo (id : ℤ) : DBTx (ℤ × Option Time) := do
  let (r, p) ← subscriberPlan id
  return (p.validityDays, r.planExpiry)

def SetPlanExpiry (id : ℤ) (expiry : Time) : DBTx Unit := do
  let _ ← updateWhereID id fun r => { r with planExpiry := some expiry }

end PortalStore

namespace RevenueStore

def GetSubscriberFranchiseID (id : ℤ) : DBTx (Option ℤ) := do
  return (← subscriberRow id).franchiseID

def GetFranchiseByID (id : ℤ) : DBTx Franchise := do
  orThrow ((← get).franchises.lookup id) .notFound

/-- One `lco_ledger` row and its journal entry; a `transaction_ref` already settled is skipped. -/
def CalculateAndStoreLCOCommission (e : LCOCommissionEntry) : DBTx Unit := do
  let s ← get
  require (e.franchiseID ∈ s.franchises) (.foreignKey "lco_ledger.franchise_id")
  require (e.subscriberID ∈ s.subscribers) (.foreignKey "lco_ledger.subscriber_id")
  let recharge ← orThrow (numeric12 e.rechargeAmount) (.overflow "lco_ledger.recharge_amount")
  let amount ← orThrow (numeric12 e.commissionAmount) (.overflow "lco_ledger.commission_amount")
  require (e.transactionRef.length ≤ 100) (.tooLong "lco_ledger.transaction_ref")
  let id := (s.lcoLedger.rows.length : ℤ) + 1
  let row : LcoLedger := ⟨id, e.franchiseID, e.subscriberID, recharge, amount,
    nullIfEmpty e.transactionRef⟩
  match s.lcoLedger.insert row with
  | none => return ()
  | some ledger =>
    set { s with lcoLedger := ledger }
    if e.commissionAmount = 0 then return ()
    else
      let expenseID ← glAccountID "5000"
      let payableID ← glAccountID "2100"
      let expense ← glLine expenseID e.commissionAmount 0
      let payable ← glLine payableID 0 e.commissionAmount
      let (partner, subscriber) := (e.franchiseID, e.subscriberID)
      postJournal s!"Franchise commission — partner {partner}, subscriber {subscriber}"
        "lco_commission" id "system" [expense, payable]

end RevenueStore

namespace APIStore

/-- `chk_subscribers_mobile_e164`: `^\+[1-9][0-9]{1,14}$`. -/
def isE164 (s : String) : Bool :=
  match s.toList with
  | '+' :: d :: ds =>
    d.isDigit && d != '0' && ds.all Char.isDigit && decide (1 ≤ ds.length) && decide (ds.length ≤ 14)
  | _ => false

def CreateSubscriber (r : SubscriberRow) : DBTx (ℤ × Subscriber) := do
  let s ← get
  let rows := s.subscribers.entries
  require (r.cafNumber.length ≤ 50) (.tooLong "subscribers.caf_number")
  require (r.username.length ≤ 100) (.tooLong "subscribers.username")
  require (r.registeredState.length ≤ 10) (.tooLong "subscribers.registered_state")
  require (isE164 r.mobileNumber = true) (.check "chk_subscribers_mobile_e164")
  require (∀ x ∈ rows, x.2.cafNumber ≠ r.cafNumber) (.unique "subscribers_caf_number_key")
  require (∀ x ∈ rows, x.2.username ≠ r.username) (.unique "subscribers_username_key")
  require (r.planID ∈ s.plans) (.foreignKey "subscribers.plan_id")
  require (∀ f ∈ r.franchiseID, f ∈ s.franchises) (.foreignKey "subscribers.franchise_id")
  let sub ← r.check
  let id := nextID s.subscribers
  set { s with subscribers := s.subscribers.insert id sub }
  return (id, sub)

/-- The row with this id; a missing row is `none`, not an error. -/
def GetSubscriberByID (id : ℤ) : DBTx (Option Subscriber) := do
  return (← get).subscribers.lookup id

/-- The status a partial update asks for, if it names one the column accepts. -/
def statusParam : Option String → Except StoreErr (Option SubStatus)
  | none => .ok none
  | some text =>
    match SubStatus.ofText text with
    | some st => .ok (some st)
    | none => .error (.check "subscribers_status_check")

/-- A partial update: a missing field is left as it is, and a present one is written as it is. -/
def UpdateSubscriber (id : ℤ) (planID : Option ℤ) (status : Option String)
    (planExpiry : Option Time) : DBTx (Option Subscriber) := do
  let s ← get
  match s.subscribers.lookup id with
  | none => return none
  | some _ =>
    let st ← statusParam status
    require (∀ p ∈ planID, p ∈ s.plans) (.foreignKey "subscribers.plan_id")
    let _ ← updateWhereID id fun r =>
      { r with planID := planID.getD r.planID, status := st.getD r.status,
               planExpiry := planExpiry.or r.planExpiry }
    return (← get).subscribers.lookup id

/-- Both plans' prices and validities; an unknown subscriber is `none`, an unknown plan an error. -/
def GetPlanChangeInfo (id newPlanID : ℤ) : DBTx (Option PlanChangeInfo) := do
  let s ← get
  match s.subscribers.lookup id with
  | none => return none
  | some r =>
    match s.plans.lookup r.planID with
    | none => return none
    | some old =>
      let new ← orThrow (s.plans.lookup newPlanID) .invalidPlan
      return some
        { username := r.username, currentExpiry := r.planExpiry, oldPrice := paise old.price,
          oldValidityDays := old.validityDays, newPrice := paise new.price,
          newValidityDays := new.validityDays }

def SetSubscriberPlan (id newPlanID : ℤ) (newExpiry : Time) : DBTx (Option Subscriber) := do
  let s ← get
  match s.subscribers.lookup id with
  | none => return none
  | some _ =>
    require (newPlanID ∈ s.plans) (.foreignKey "subscribers.plan_id")
    let _ ← updateWhereID id fun r => { r with planID := newPlanID, planExpiry := some newExpiry }
    return (← get).subscribers.lookup id

def TerminateSubscriber (id : ℤ) : DBTx (Option Subscriber) := do
  let _ ← updateWhereID id fun r => { r with status := .terminated }
  return (← get).subscribers.lookup id

end APIStore

namespace Jobqueue

/-- Queue a task, unless one with its id is already there. -/
def EnqueueContext (t : Task) : DBTx Unit := do
  let s ← get
  let tasks ← orThrow (s.tasks.insert t) (.unique "jobqueue_tasks_task_id_key")
  set { s with tasks := tasks }

end Jobqueue

/-! ### A small database -/

/-- `chart_of_accounts` as the migrations seed it. -/
def seededChart : AList fun _ : String => ℤ :=
  [("1000", 1), ("1200", 2), ("2000", 3), ("3000", 4), ("4000", 5), ("5000", 6), ("5100", 7),
    ("5200", 8), ("2100", 9), ("2200", 10)].foldr (fun x t => t.insert x.1 x.2) ∅

/-- The seeded accounts, one monthly plan of 500.00, one GST rate of 9 + 9 or 18 percent, no
    franchise, no ledger row, and these subscribers. -/
def DB.seeded (subscribers : Table Subscriber) : DB where
  plans := (∅ : Table Plan).insert 1 ⟨"Home", 50000, 30, 100, by decide, by decide⟩
  franchises := ∅
  subscribers := subscribers
  walletLedgers := Indexed.empty
  lcoLedger := Indexed.empty
  gstRates := [⟨1, 900, 900, 1800, 0⟩]
  invoices := []
  chartOfAccounts := seededChart
  glJournal := []
  tasks := Indexed.empty

/-- A subscriber of the monthly plan in Tamil Nadu, paid up to `expiry`, with nothing in the wallet. -/
def Subscriber.paidUntil (expiry : Time) : Subscriber where
  cafNumber := "CAF1"
  username := "one"
  mobileNumber := "+919876543210"
  planID := 1
  franchiseID := none
  status := .active
  dunningState := .active
  walletBalance := 0
  registeredState := "TN"
  planExpiry := some expiry
  balance_nonneg := le_refl 0
  billable := Or.inr (Or.inr (Or.inr rfl))

end IspBss
