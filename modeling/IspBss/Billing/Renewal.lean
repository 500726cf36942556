import IspBss.Billing.Dunning
import IspBss.Billing.Gst
import IspBss.Billing.Wallet

/-! The two renewal paths.

    The scanner charges the wallet and extends; the portal credits the wallet with the gateway payment
    and extends. Each effect commits on its own, the money first:

        scanner:  price ─▶ debit total ─▶ SetPlanExpiry / Activate ─▶ invoice ─▶ dunning restore
        portal:   credit amount ─▶ SetPlanExpiry ─▶ invoice ─▶ commission -/

namespace IspBss

open Lib Lib.Numeric

/-- `t.AddDate(0, 0, days)`. -/
def addDays (t : Time) (days : ℤ) : Time := t + days * day

/-- The later of now and the expiry, if there is one. -/
def renewalBase (now : Time) (expiry : Option Time) : Time := max now (expiry.getD now)

/-! ### The auto-renewal scanner -/

namespace RecurringBillingScanner

inductive RenewErr where
  | price (e : StoreErr)
  | debit (e : WalletErr)
  | activate (e : StoreErr)
  | extend (e : StoreErr)
  deriving DecidableEq

variable (c : RenewalCandidate)

/-- The invoice of the cycle, priced from the plan. -/
def buildInvoice : Service (Except StoreErr Invoice) := do
  match ← db .getActiveGstRate with
  | .error e => return .error e
  | .ok (rate : GstRate) =>
    return .ok { CalculateGstInvoice c.planPrice c.registeredState rate with
      subscriberID := c.subscriberID, gbIncluded := c.planVolumeGB, gbUsed := 0 }

/-- The wallet debit of a cycle: the invoice's total, its tax handed over. -/
def debitRequest (inv : Invoice) : PostRequest where
  subscriberID := c.subscriberID
  franchiseID := c.franchiseID
  amount := inv.totalAmount
  direction := some .debit
  counterAccount := .revenueClearing
  transactionToken := ""
  adjustedBy := ""
  description := "auto-renewal: " ++ c.planName
  taxAmount := inv.tax

/-- Stamp the new expiry; a first cycle leaves `pending_payment` in the same statement. -/
def grant (newExpiry : Time) : Service (Except RenewErr Unit) :=
  if c.status = .pendingPayment then do
    match ← db (.activateSubscriber c.subscriberID newExpiry) with
    | .error e => return .error (.activate e)
    | .ok _ => return .ok ()
  else do
    match ← db (.setPlanExpiry c.subscriberID newExpiry) with
    | .error e => return .error (.extend e)
    | .ok _ => return .ok ()

/-- Whether a dunning stage means service had been withdrawn. -/
def wasCutOff (state : DunningState) : Bool := state = .softSuspended ∨ state = .hardSuspended

variable (c : RenewalCandidate)

def restorationNotice (newExpiry : Time) : Task where
  taskID := some (.restored c.subscriberID (Time.unix newExpiry))
  queue := "notifications"
  payload := .serviceRestored c.subscriberID c.username c.planName newExpiry
  maxRetry := 3
  retention := day

/-- Back to active, if dunning had moved the candidate; failures are only logged. -/
def restore (newExpiry : Time) : Service Unit :=
  if c.dunningState = .active then return ()
  else do
    match ← TransitionDunning c.subscriberID .active with
    | .error _ => return ()
    | .ok _ =>
      if wasCutOff c.dunningState then (db (.enqueue (restorationNotice c newExpiry))).void
      else return ()

/-- Charge one candidate for its plan, extend it, invoice the cycle and restore service. -/
def renew : Service (Except RenewErr Unit) := do
  let now ← timeNow
  match ← buildInvoice c with
  | .error e => return .error (.price e)
  | .ok inv =>
    match ← WalletService.Post (debitRequest c inv) with
    | .error .insufficientBalance => return .ok ()
    | .error e => return .error (.debit e)
    | .ok _ =>
      let newExpiry := addDays (renewalBase now c.planExpiry) c.planValidityDays
      match ← grant c newExpiry with
      | .error e => return .error e
      | .ok _ =>
        (db (.createInvoice inv)).void
        restore c newExpiry
        return .ok ()

/-- One pass; a candidate's failure does not stop the rest. -/
def Scan : Service Unit := do
  match ← db .listRenewalCandidates with
  | .error _ => return ()
  | .ok (candidates : List RenewalCandidate) => Prog.each (fun c => (renew c).void) candidates

end RecurringBillingScanner

/-! ### Portal renewal -/

/-- `max(now, currentExpiry) + validityDays`, read and written back in two statements. -/
def extendPlanExpiry (subscriberID : ℤ) : Service (Except StoreErr Unit) := do
  match ← db (.getPlanRenewalInfo subscriberID) with
  | .error e => return .error e
  | .ok ((validityDays, currentExpiry) : ℤ × Option Time) =>
    let now ← timeNow
    let newExpiry := addDays (renewalBase now currentExpiry) validityDays
    match ← db (.portalSetPlanExpiry subscriberID newExpiry) with
    | .error e => return .error e
    | .ok _ => return .ok ()

/-- The invoice of a portal renewal: the amount paid is its base amount. -/
def createRenewalInvoice (subscriberID : ℤ) (amount : Decimal) : Service (Except StoreErr Unit) := do
  match ← db (.getInvoiceInputs subscriberID) with
  | .error e => return .error e
  | .ok ((registeredState, planVolumeGB) : String × ℤ) =>
    match ← db .getActiveGstRate with
    | .error e => return .error e
    | .ok (rate : GstRate) =>
      let inv := { CalculateGstInvoice amount registeredState rate with
        subscriberID := subscriberID, gbIncluded := planVolumeGB, gbUsed := 0 }
      match ← db (.createInvoice inv) with
      | .error e => return .error e
      | .ok _ => return .ok ()

/-- Compute and store the franchise's commission on a recharge. -/
def CalculateLCOCommission (e : LCOCommissionEntry) : Service Unit := do
  match ← db (.getFranchiseByID e.franchiseID) with
  | .error _ => return ()
  | .ok (franchise : Franchise) =>
    if franchise.active = false then return ()
    else
      let rate := paise franchise.commissionRatePct
      let commission := round 2 (div (e.rechargeAmount * rate) 100)
      (db (.storeLCOCommission { e with commissionRate := rate, commissionAmount := commission })).void

/-- The commission of a recharge that has committed; failures are only logged. -/
def SettleCommissionForRecharge (subscriberID : ℤ) (amount : Decimal) (transactionRef : String) :
    Service Unit := do
  match ← db (.getSubscriberFranchiseID subscriberID) with
  | .error _ => return ()
  | .ok (franchise : Option ℤ) =>
    match franchise with
    | none => return ()
    | some franchiseID =>
      CalculateLCOCommission
        { franchiseID := franchiseID, subscriberID := subscriberID, rechargeAmount := amount,
          commissionRate := 0, commissionAmount := 0, transactionRef := transactionRef }

/-- What a completed renewal returns. -/
structure RenewalPayment where
  transactionID : ℤ
  balance : Decimal
  deriving DecidableEq

variable (subscriberID : ℤ) (amount : Decimal) (paymentID : String)

def renewalRecharge : RechargeRequest :=
  ⟨subscriberID, amount, paymentID, none, "portal one-tap renewal"⟩

/-- Credit the payment, then extend, invoice and settle the commission, each failure only logged. -/
def ApplyRenewal :
    Service (Except WalletErr RenewalPayment) := do
  match ← WalletService.Recharge (renewalRecharge subscriberID amount paymentID) with
  | .error e => return .error e
  | .ok tx =>
    (extendPlanExpiry subscriberID).void
    (createRenewalInvoice subscriberID amount).void
    SettleCommissionForRecharge subscriberID amount paymentID
    return .ok ⟨tx.id, tx.balanceAfter⟩

end IspBss
