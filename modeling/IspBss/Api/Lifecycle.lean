import IspBss.Billing.Renewal

/-! The staff API on a subscriber's life, and who is let onto the network.

        ProvisionSubscriber ─▶ pending_payment ──auto-renewal──▶ active
        changeSubscriberPlan   plan_id and a prorated plan_expiry, no charge
        UpdateSubscriber       PATCH: plan_id, status, plan_expiry as given
        terminate              status = terminated, after a second approval

    Request bodies arrive decoded: a body or a path that does not parse is an argument. -/

namespace IspBss

open Lib Lib.Numeric

/-- `radius.AuthorisesService`: an allowlist of the statuses that are served. -/
def AuthorisesService : SubStatus → Bool
  | .active | .gracePeriod | .softSuspended => true
  | .pendingPayment | .hardSuspended | .terminated => false

/-- An error response. -/
structure ApiErr where
  status : ℕ
  code : String
  message : String
  deriving DecidableEq

structure CreateSubscriberRequest where
  cafNumber : String
  username : String
  password : String
  mobileNumber : String
  planID : ℤ
  registeredState : String
  deriving DecidableEq

/-- The fields a `PATCH` may carry. -/
structure SubscriberPatch where
  planID : Option ℤ
  status : Option String
  planExpiry : Option Time
  deriving DecidableEq

inductive ProvisionErr where
  | invalid (message : String)
  | hash
  | alreadyExists
  | create (e : StoreErr)
  deriving DecidableEq

inductive PlanChangeErr where
  | invalidPlan
  | subscriberNotFound
  | lookup (e : StoreErr)
  | setPlan (e : StoreErr)
  deriving DecidableEq

namespace Handler

/-! ### Creation -/

/-- The first thing wrong with a request. -/
def validateCreateSubscriber (req : CreateSubscriberRequest) : Option String :=
  if req.cafNumber = "" then some "caf_number is required"
  else if req.username = "" then some "username is required"
  else if req.mobileNumber = "" then some "mobile_number is required"
  else if APIStore.isE164 req.mobileNumber = false then
    some "mobile_number must be E.164 format (e.g. +919876543210)"
  else if req.planID = 0 then some "plan_id is required"
  else if req.registeredState = "" then some "registered_state is required"
  else if NormaliseState req.registeredState = none then
    some ("registered_state " ++ req.registeredState.quote ++
      " is not a recognised Indian state: use the two-letter code (TN), the GST code (33) or " ++
      "the full name (Tamil Nadu)")
  else none

/-- Whether bcrypt accepts the password: it refuses more than 72 bytes. -/
def hashSubscriberPassword (password : String) : Bool := password.utf8ByteSize ≤ 72

/-- The row every new subscriber starts from: payment precedes authorisation. -/
def subscriberRecordFrom (req : CreateSubscriberRequest) : SubscriberRow where
  cafNumber := req.cafNumber
  username := req.username
  mobileNumber := req.mobileNumber
  planID := req.planID
  franchiseID := none
  status := .pendingPayment
  dunningState := .active
  walletBalance := 0
  registeredState := (NormaliseState req.registeredState).getD req.registeredState
  planExpiry := none

/-- Whether the error's text, which quotes the username, says `unique` or `duplicate`. -/
def isUniqueViolation (username : String) : StoreErr → Bool
  | .unique _ => true
  | _ => "unique".toList <:+: username.toList ∨ "duplicate".toList <:+: username.toList

def ProvisionSubscriber (req : CreateSubscriberRequest) :
    Service (Except ProvisionErr (ℤ × Subscriber)) :=
  match validateCreateSubscriber req with
  | some message => return .error (.invalid message)
  | none =>
    if hashSubscriberPassword req.password = false then return .error .hash
    else do
      match ← db (.createSubscriber (subscriberRecordFrom req)) with
      | .error e => return .error (if isUniqueViolation req.username e then .alreadyExists else .create e)
      | .ok created => return .ok created

/-! ### Changes -/

/-- The new plan's validity from now, and bonus days for the unused value of the old one. -/
def computePlanChangeExpiry (info : PlanChangeInfo) (now : Time) : Time :=
  let remaining : Time := max 0 (info.currentExpiry.getD now - now)
  let remainingDays := div remaining day
  let bonusDays : ℤ :=
    if 0 < info.oldValidityDays ∧ 0 < info.newValidityDays ∧ 0 < info.newPrice then
      let oldDaily := div info.oldPrice info.oldValidityDays
      let credit := oldDaily * remainingDays
      let newDaily := div info.newPrice info.newValidityDays
      ⌊div credit newDaily⌋
    else 0
  addDays now (info.newValidityDays + bonusDays)

def changeSubscriberPlan (id newPlanID : ℤ) : Service (Except PlanChangeErr Subscriber) := do
  match ← db (.getPlanChangeInfo id newPlanID) with
  | .error .invalidPlan => return .error .invalidPlan
  | .error e => return .error (.lookup e)
  | .ok none => return .error .subscriberNotFound
  | .ok (some info) =>
    let now ← timeNow
    match ← db (.setSubscriberPlan id newPlanID (computePlanChangeExpiry info now)) with
    | .error e => return .error (.setPlan e)
    | .ok none => return .error .subscriberNotFound
    | .ok (some updated) => return .ok updated

/-- `PATCH /api/v1/subscribers/{id}`. -/
def UpdateSubscriber (id : Option ℤ) (body : Except String SubscriberPatch) :
    Service (Except ApiErr (Option Subscriber)) :=
  match id, body with
  | none, _ => return .error ⟨400, "ERR_BAD_REQUEST", "invalid id"⟩
  | some _, .error text => return .error ⟨400, "ERR_BAD_REQUEST", text⟩
  | some id, .ok patch => do
    match ← db (.updateSubscriber id patch.planID patch.status patch.planExpiry) with
    | .error (.check "chk_authorised_subscriber_is_billable") =>
      return .error ⟨400, "ERR_NOT_BILLABLE",
        "cannot set this status without a plan_expiry: the subscriber would be online " ++
        "with no billing cycle. Send plan_expiry in the same request, or credit their " ++
        "wallet and let auto-renewal activate them."⟩
    | .error _ => return .error ⟨500, "ERR_INTERNAL", "update failed"⟩
    | .ok updated => return .ok updated

/-- The approved termination of `performGatedAction`. -/
def performTermination (id : ℤ) : Service (Except String Unit) := do
  match ← db (.terminateSubscriber id) with
  | .error _ => return .error "terminate subscriber"
  | .ok none => return .error "subscriber not found"
  | .ok (some _) => return .ok ()

/-! ### Money over the counter -/

/-- Whether the subscriber was cut off or being chased when the money arrived. -/
def wasSuspended (status : SubStatus) : Bool :=
  status = .gracePeriod ∨ status = .softSuspended ∨ status = .hardSuspended

/-- The receipt of a payment; failures are only logged. -/
def enqueuePaymentReceipt (subscriberID : ℤ) (amount newBalance : Decimal) : Service Unit := do
  match ← db (.getSubscriberByID subscriberID) with
  | .ok (some sub) =>
    (db (.enqueue
      { taskID := none, queue := "notifications"
        payload := .paymentReceipt subscriberID sub.username amount newBalance
          (wasSuspended sub.status)
        maxRetry := 3, retention := day })).void
  | _ => return ()

/-- `POST /api/v1/wallets/recharge`. -/
structure WalletRechargeRequest where
  subscriberID : ℤ
  amount : Decimal
  paymentMethod : String
  transactionToken : String
  deriving DecidableEq

def WalletRechargeRequest.recharge (req : WalletRechargeRequest) : RechargeRequest :=
  ⟨req.subscriberID, req.amount, req.transactionToken, none, "recharge via " ++ req.paymentMethod⟩

def WalletRecharge (req : WalletRechargeRequest) : Service (Except WalletErr Transaction) := do
  match ← WalletService.Recharge req.recharge with
  | .error e => return .error e
  | .ok tx =>
    SettleCommissionForRecharge req.subscriberID req.amount req.transactionToken
    enqueuePaymentReceipt req.subscriberID req.amount tx.balanceAfter
    return .ok tx

end Handler

end IspBss
