import IspBss.Api.Lifecycle

/-! The two requests that bring money in from the payment gateway.

        POST /webhooks/razorpay       body signed with the webhook secret ─▶ Recharge
        POST /portal/renew/callback   body of an authenticated subscriber ─▶ ApplyRenewal

    The message authentication code, the JSON decoders and the decimal parser are parameters: nothing
    here depends on how they work. -/

namespace IspBss

open Lib Lib.Numeric

abbrev Body := List UInt8

/-- The part of a gateway event the webhook reads; the amount is in paise. -/
structure RazorpayWebhookPayload where
  event : String
  paymentID : String
  amount : ℤ
  notesSubscriberID : String
  deriving DecidableEq

/-- What a renewal callback carries. -/
structure CallbackRequest where
  paymentID : String
  amount : String
  deriving DecidableEq

/-- What the handlers are configured with and the library functions they call. -/
structure Gateway where
  webhookSecret : String
  hmacHex : String → Body → String
  unmarshal : Body → Option RazorpayWebhookPayload
  decodeCallback : Body → Option CallbackRequest
  decimalFromString : String → Option Decimal

/-- A payment as a handler books it. -/
structure Payment where
  paymentID : String
  subscriberID : ℤ
  amount : Decimal
  deriving DecidableEq

/-- `maxRazorpayWebhookBody`: what lies beyond is not read. -/
def maxRazorpayWebhookBody : ℕ := 2 ^ 20

/-- `strconv.Atoi`: an optional sign and decimal digits, within 64 bits. -/
def atoi (s : String) : Option ℤ :=
  let digits : List Char → Option ℤ := fun ds =>
    if ds ≠ [] ∧ ds.all Char.isDigit then
      some (ds.foldl (fun (n : ℤ) d => 10 * n + (d.toNat - '0'.toNat : ℕ)) 0)
    else none
  let value : Option ℤ := match s.toList with
    | '-' :: ds => (digits ds).map (- ·)
    | '+' :: ds => digits ds
    | ds => digits ds
  value.filter fun n => -(2 ^ 63) ≤ n ∧ n < 2 ^ 63

namespace Gateway

variable (g : Gateway)

def ValidateRazorpaySignature (payload : Body) (signature secret : String) : Bool :=
  g.hmacHex secret payload = signature

/-- The payment a `payment.captured` event announces: one with a subscriber in its notes. -/
def capturedPayment (payload : RazorpayWebhookPayload) : Option Payment :=
  if payload.event ≠ "payment.captured" then none
  else match atoi payload.notesSubscriberID with
  | none => none
  | some subscriberID =>
    if subscriberID ≤ 0 then none
    else some ⟨payload.paymentID, subscriberID, div payload.amount 100⟩

def webhookRecharge (p : Payment) : RechargeRequest :=
  ⟨p.subscriberID, p.amount, p.paymentID, none, "recharge via razorpay webhook"⟩

/-- `POST /webhooks/razorpay`: the status and the text of the response. -/
def RazorpayWebhook (body : Body) (signature : String) : Service (ℕ × String) :=
  if g.webhookSecret = "" then return (503, "webhook not configured")
  else
    let body := body.take maxRazorpayWebhookBody
    if g.ValidateRazorpaySignature body signature g.webhookSecret = false then
      return (400, "invalid signature")
    else match g.unmarshal body with
    | none => return (400, "invalid payload")
    | some payload =>
      match capturedPayment payload with
      | none => return (200, "")
      | some p => do
        match ← WalletService.Recharge (webhookRecharge p) with
        | .error _ => return (500, "recharge failed")
        | .ok tx =>
          SettleCommissionForRecharge p.subscriberID p.amount p.paymentID
          Handler.enqueuePaymentReceipt p.subscriberID p.amount tx.balanceAfter
          return (200, "")

/-- The checks of the renewal callback: the payment it presents, for the subscriber of the session. -/
def presentedPayment (subscriberID : ℤ) (body : Body) : Except ApiErr Payment :=
  if subscriberID = 0 then .error ⟨401, "ERR_UNAUTHORIZED", "missing subscriber context"⟩
  else match g.decodeCallback body with
  | none => .error ⟨400, "ERR_BAD_REQUEST", "invalid request body"⟩
  | some req =>
    if req.paymentID = "" then .error ⟨422, "ERR_VALIDATION", "payment_id is required"⟩
    else match g.decimalFromString req.amount with
    | none => .error ⟨422, "ERR_VALIDATION", "invalid amount"⟩
    | some amount =>
      if amount ≤ 0 then .error ⟨422, "ERR_VALIDATION", "invalid amount"⟩
      else .ok ⟨req.paymentID, subscriberID, amount⟩

/-- `POST /portal/renew/callback`. -/
def RenewalCallback (subscriberID : ℤ) (body : Body) : Service (Except ApiErr RenewalPayment) :=
  match g.presentedPayment subscriberID body with
  | .error err => return .error err
  | .ok p => do
    match ← ApplyRenewal p.subscriberID p.amount p.paymentID with
    | .error _ => return .error ⟨500, "ERR_INTERNAL", "renewal could not be applied"⟩
    | .ok payment => return .ok payment

end Gateway

end IspBss
