import Mathlib.Data.List.AList
import IspBss.Lib.Numeric
import IspBss.Lib.Indexed
import IspBss.Lib.Tx

/-! The billing database: row types, constraints, tables.

    Money columns are `NUMERIC(_, 2)`, held as a number of paise; the service code computes with exact
    decimals. Times are microseconds, the resolution of `TIMESTAMPTZ`.

    A CHECK constraint of a table is a field of its row type, so a row that breaks it cannot be
    stored: writing goes through `SubscriberRow.check`, `Invoice`'s and the journal's constructors.

        subscribers ──plan_id──▶ plans            wallet_ledgers   (unique on transaction_token)
             │ franchise_id                       lco_ledger       (unique on transaction_ref)
             ▼                                    invoices ──gst_rate_id──▶ gst_rates
        franchises                                gl_journal ──account──▶ chart_of_accounts -/

namespace IspBss

open Lib Lib.Numeric

/-- `decimal.Decimal`. -/
abbrev Decimal := ℚ

/-- An instant, in microseconds. -/
abbrev Time := ℤ

/-- 24 hours. -/
def day : Time := 86400000000

/-- A two-decimal amount, from its number of paise. -/
def paise (n : ℤ) : Decimal := ofFixed 2 n

/-- What a `NUMERIC(12,2)` column stores. -/
def numeric12 (q : Decimal) : Option ℤ := toFixed 12 2 q

/-- What a `NUMERIC(14,2)` column stores. -/
def numeric14 (q : Decimal) : Option ℤ := toFixed 14 2 q

/-- `NULLIF(s, '')`. -/
def nullIfEmpty (s : String) : Option String := if s = "" then none else some s

/-! ### Column values -/

/-- `subscribers.status`. -/
inductive SubStatus where
  | active | gracePeriod | softSuspended | hardSuspended | terminated | pendingPayment
  deriving DecidableEq, Repr

/-- `subscribers_status_check`: the texts the status column accepts. -/
def SubStatus.ofText : String → Option SubStatus
  | "active" => some .active
  | "grace_period" => some .gracePeriod
  | "soft_suspended" => some .softSuspended
  | "hard_suspended" => some .hardSuspended
  | "terminated" => some .terminated
  | "pending_payment" => some .pendingPayment
  | _ => none

/-- `subscribers.dunning_state`. -/
inductive DunningState where
  | active | remind7d | remind3d | remind1d | gracePeriod | softSuspended | hardSuspended
  deriving DecidableEq, Repr

/-- `wallet_ledgers.account` (`chk_wallet_account`). -/
inductive Account where
  | subscriberWallet | gatewayClearing | revenueClearing | adjustmentClearing
  deriving DecidableEq, Repr

/-- `wallet_ledgers.entry_type`. -/
inductive EntryType where
  | credit | debit
  deriving DecidableEq, Repr

/-! ### Rows -/

/-- `plans`. The catalogue form refuses a negative price and a validity below one day. -/
structure Plan where
  name : String
  price : ℤ
  validityDays : ℤ
  volumeGB : ℤ
  price_nonneg : 0 ≤ price
  validity_pos : 1 ≤ validityDays
  deriving DecidableEq

/-- `franchises`. -/
structure Franchise where
  name : String
  commissionRatePct : ℤ
  active : Bool
  deriving DecidableEq

/-- The columns of a `subscribers` row, before its constraints are checked. -/
structure SubscriberRow where
  cafNumber : String
  username : String
  mobileNumber : String
  planID : ℤ
  franchiseID : Option ℤ
  status : SubStatus
  dunningState : DunningState
  walletBalance : ℤ
  registeredState : String
  planExpiry : Option Time
  deriving DecidableEq

/-- `chk_authorised_subscriber_is_billable`: a status that is served has an expiry date. -/
def SubscriberRow.Billable (r : SubscriberRow) : Prop :=
  r.status = .pendingPayment ∨ r.status = .hardSuspended ∨ r.status = .terminated ∨
    r.planExpiry.isSome

instance (r : SubscriberRow) : Decidable r.Billable := by unfold SubscriberRow.Billable; infer_instance

/-- A stored `subscribers` row. -/
structure Subscriber extends SubscriberRow where
  balance_nonneg : 0 ≤ walletBalance
  billable : toSubscriberRow.Billable
  deriving DecidableEq

/-- `wallet_ledgers`. -/
structure WalletLedger where
  id : ℤ
  subscriberID : ℤ
  franchiseID : Option ℤ
  account : Account
  entryType : EntryType
  amount : ℤ
  balanceAfter : ℤ
  transactionToken : Option String
  description : String
  adjustedByUsername : Option String
  deriving DecidableEq

/-- `lco_ledger`. -/
structure LcoLedger where
  id : ℤ
  franchiseID : ℤ
  subscriberID : ℤ
  rechargeAmount : ℤ
  commissionAmount : ℤ
  transactionRef : Option String
  deriving DecidableEq

/-- `gst_rates`, the rates in hundredths of a percent. -/
structure GstRateRow where
  id : ℤ
  cgstRate : ℤ
  sgstRate : ℤ
  igstRate : ℤ
  effectiveFrom : Time
  deriving DecidableEq

/-- `chk_gst_logic`: never both intrastate and interstate tax. -/
def GstLogic (cgst igst : ℤ) : Prop :=
  (0 < cgst ∧ igst = 0) ∨ (0 < igst ∧ cgst = 0) ∨ (cgst = 0 ∧ igst = 0)

instance (c i : ℤ) : Decidable (GstLogic c i) := by unfold GstLogic; infer_instance

/-- `invoices`. -/
structure InvoiceRow where
  id : ℤ
  subscriberID : ℤ
  baseAmount : ℤ
  cgstAmount : ℤ
  sgstAmount : ℤ
  igstAmount : ℤ
  totalAmount : ℤ
  gstRateID : ℤ
  gbIncluded : ℤ
  gbUsed : ℤ
  gst_logic : GstLogic cgstAmount igstAmount
  deriving DecidableEq

/-- `gl_journal_lines`: one side only, and not zero. -/
structure GlLine where
  accountID : ℤ
  debit : ℤ
  credit : ℤ
  one_sided : (0 < debit ∧ credit = 0) ∨ (debit = 0 ∧ 0 < credit)
  deriving DecidableEq

/-- `gl_journal_entries` with its lines; the deferred trigger lets only balanced ones commit. -/
structure GlJournalEntry where
  id : ℤ
  description : String
  sourceType : String
  sourceID : ℤ
  createdBy : String
  lines : List GlLine
  balanced : (lines.map GlLine.debit).sum = (lines.map GlLine.credit).sum
  deriving DecidableEq

/-- The idempotency key of a task: one dunning notice per subscriber, stage and expiry
    (`dunning-%d-%s-%d`), one restoration notice per subscriber and expiry (`restored-%d-%d`). The
    expiry is in Unix seconds. -/
inductive TaskID where
  | dunning (subscriberID : ℤ) (state : DunningState) (expiryUnix : ℤ)
  | restored (subscriberID : ℤ) (expiryUnix : ℤ)
  deriving DecidableEq

/-- `DunningNoticePayload`, `ServiceRestoredPayload`, `PaymentReceiptPayload`, `CoAPayload` and
    `PoDPayload`. -/
inductive TaskPayload where
  | dunningNotice (subscriberID : ℤ) (username : String) (state : DunningState)
      (templateID : String) (daysOverdue : ℤ)
  | serviceRestored (subscriberID : ℤ) (username planName : String) (validUntil : Time)
  | paymentReceipt (subscriberID : ℤ) (username : String) (amount newBalance : Decimal)
      (wasSuspended : Bool)
  | coa (subscriberID : ℤ) (nasIP : String)
  | pod (subscriberID : ℤ) (nasIP sessionID : String)
  deriving DecidableEq

/-- `jobqueue_tasks`. -/
structure Task where
  taskID : Option TaskID
  queue : String
  payload : TaskPayload
  maxRetry : ℕ
  retention : Time
  deriving DecidableEq

/-! ### The database -/

/-- A table keyed by a serial id. -/
abbrev Table (α : Type) := AList fun _ : ℤ => α

structure DB where
  plans : Table Plan
  franchises : Table Franchise
  subscribers : Table Subscriber
  walletLedgers : Indexed WalletLedger String WalletLedger.transactionToken
  lcoLedger : Indexed LcoLedger String LcoLedger.transactionRef
  gstRates : List GstRateRow
  invoices : List InvoiceRow
  chartOfAccounts : AList fun _ : String => ℤ
  glJournal : List GlJournalEntry
  tasks : Indexed Task TaskID Task.taskID

/-- The next id of a table whose rows are never deleted. -/
def nextID {α : Type} (t : Table α) : ℤ := t.keys.foldr max 0 + 1

/-- Why a statement failed. -/
inductive StoreErr where
  | unavailable
  | notFound
  | foreignKey (column : String)
  | check (name : String)
  | unique (index : String)
  | tooLong (column : String)
  | overflow (column : String)
  | noGLAccount (code : String)
  | taxOnNonRevenue (tax : Decimal) (code : String)
  | taxNotWithin (tax amount : Decimal)
  | invalidPlan
  deriving DecidableEq

/-- A database transaction. -/
abbrev DBTx := Tx StoreErr DB

/-- Check the constraints of a `subscribers` row. -/
def SubscriberRow.check (r : SubscriberRow) : Except StoreErr Subscriber :=
  if hb : 0 ≤ r.walletBalance then
    if hv : r.Billable then .ok { r with balance_nonneg := hb, billable := hv }
    else .error (.check "chk_authorised_subscriber_is_billable")
  else .error (.check "chk_wallet_balance_nonneg")

theorem SubscriberRow.check_ok {r : SubscriberRow} {s : Subscriber} (h : r.check = .ok s) :
    s.toSubscriberRow = r := by
  unfold SubscriberRow.check at h
  split at h
  · split at h
    · rw [← Except.ok.inj h]
    · cases h
  · cases h

end IspBss
