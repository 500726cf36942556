import IspBss.Api.Gateway
import IspBss.Props.Footprint

/-! Is every gateway credit backed by a captured payment?

    The webhook books what a signed `payment.captured` event announces. The renewal callback books
    what the body of the request says, for the subscriber of the session:

        webhook    signature valid ─▶ payment of the event      ─▶ credit
        callback   session valid   ─▶ payment_id, amount given  ─▶ credit, extension

    Any number of both requests run together. Every credit and every extension they commit is backed
    exactly when every callback that gets to book presents a payment some signed event announces. -/

namespace IspBss

open Lib Prog List Pool Gateway

/-- A request to one of the two handlers. -/
inductive GatewayRequest where
  | webhook (body : Body) (signature : String)
  | callback (subscriberID : ℤ) (body : Body)

variable (g : Gateway)

def GatewayRequest.prog : GatewayRequest → Service Unit
  | webhook body signature => (g.RazorpayWebhook body signature).void
  | callback subscriberID body => (g.RenewalCallback subscriberID body).void

/-- The payment a request makes its handler book, if any. -/
def GatewayRequest.payment : GatewayRequest → Option Payment
  | webhook body signature =>
    if g.ValidateRazorpaySignature (body.take maxRazorpayWebhookBody) signature g.webhookSecret then
      (g.unmarshal (body.take maxRazorpayWebhookBody)).bind capturedPayment
    else none
  | callback subscriberID body => (g.presentedPayment subscriberID body).toOption

/-- A payment that a `payment.captured` event among those the gateway has signed announces. -/
def Backed (signed : Body → Prop) (p : Payment) : Prop :=
  ∃ body payload, signed body ∧ g.unmarshal body = some payload ∧
    capturedPayment payload = some p

/-! ### What a request books -/

/-- The calls that write a wallet balance or an expiry. -/
def Op.grants : Op → Bool
  | recordRecharge _ | setPlanExpiry _ _ | activateSubscriber _ _ | portalSetPlanExpiry _ _
  | updateSubscriber _ _ _ _ | setSubscriberPlan _ _ _ | createSubscriber _ => true
  | _ => false

/-- The calls of a request that books this payment: a credit of its subscriber with its amount and
    its id, an extension of its subscriber, and nothing else that grants anything. -/
inductive BooksOnly (payment : Option Payment) : Call → Prop where
  | clock : BooksOnly payment .timeNow
  | plain (op : Op) (h : op.grants = false) : BooksOnly payment (.db op)
  | credit (p : Payment) (posting : RechargePosting) (hp : payment = some p)
      (hsub : posting.subscriberID = p.subscriberID) (hamount : posting.credit.amount = p.amount)
      (htoken : posting.credit.transactionToken = nullIfEmpty p.paymentID) :
      BooksOnly payment (.db (.recordRecharge posting))
  | extend (p : Payment) (t : Time) (hp : payment = some p) :
      BooksOnly payment (.db (.portalSetPlanExpiry p.subscriberID t))

section
variable {g} {payment : Option Payment} {p : Payment} {α : Type}

theorem Op.grants_of_sideline {op : Op} (h : op.sideline = true) : op.grants = false := by
  cases op <;> first | rfl | cases h

theorem Op.grants_of_isRead {op : Op} (h : op.isRead = true) : op.grants = false := by
  cases op <;> first | rfl | cases h

/-- A program that writes nothing but bookings of the payment. -/
theorem Makes.booksOnly {W : Op → Prop} (hW : ∀ op, W op → BooksOnly payment (.db op))
    {p : Service α} (h : Makes W p) : Calls (S := sig) (BooksOnly payment) p := by
  refine Calls.mono (fun c hc => ?_) h
  cases hc with
  | clock => exact .clock
  | aside op h => exact .plain op (Op.grants_of_sideline h)
  | read op h => exact .plain op (Op.grants_of_isRead h)
  | write op h => exact hW op h

/-- A recharge for the payment books its subscriber, amount and token. -/
theorem booksOnly_credit {req : RechargeRequest} (hp : payment = some p)
    (hsub : req.subscriberID = p.subscriberID) (hamount : req.amount = p.amount)
    (htoken : req.transactionToken = p.paymentID) (b : Decimal) :
    BooksOnly payment (.db (.recordRecharge (req.posting b))) :=
  .credit p _ hp hsub hamount (congrArg nullIfEmpty htoken)

theorem booksOnly_asides {p : Service α} (h : Asides p) : Calls (S := sig) (BooksOnly payment) p :=
  (h.makes).booksOnly fun _ => False.elim

theorem booksOnly_webhook (body : Body) (signature : String) :
    Calls (S := sig) (BooksOnly ((GatewayRequest.webhook body signature).payment g))
      (g.RazorpayWebhook body signature) := by
  unfold RazorpayWebhook
  split
  · trivial
  dsimp only
  split
  · trivial
  rename_i hsig
  split
  · trivial
  rename_i payload hpayload
  split
  · trivial
  rename_i p hcaptured
  have hp : (GatewayRequest.webhook body signature).payment g = some p := by
    simp only [GatewayRequest.payment, hpayload, Option.bind_some, hcaptured]
    exact if_pos (by simpa using hsig)
  refine calls_bind ((makes_Recharge _).booksOnly ?_) fun res => ?_
  · rintro _ ⟨b, rfl⟩
    exact booksOnly_credit hp rfl rfl rfl b
  cases res with
  | error err => trivial
  | ok tx =>
    refine calls_bind (booksOnly_asides (asides_SettleCommission _ _ _)) fun _ => ?_
    exact calls_bind (booksOnly_asides (asides_receipt _ _ _)) fun _ => trivial

theorem booksOnly_callback (sid : ℤ) (body : Body) :
    Calls (S := sig) (BooksOnly ((GatewayRequest.callback sid body).payment g))
      (g.RenewalCallback sid body) := by
  unfold RenewalCallback
  split
  · trivial
  rename_i p hpresented
  have hp : (GatewayRequest.callback sid body).payment g = some p := by
    simp only [GatewayRequest.payment, hpresented]
    rfl
  refine calls_bind ((makes_ApplyRenewal _ _ _).booksOnly ?_) fun res => by cases res <;> trivial
  rintro _ (⟨b, rfl⟩ | ⟨t, rfl⟩)
  · exact booksOnly_credit hp rfl rfl rfl b
  · exact .extend p t hp

/-- A request books its own payment and nothing else. -/
theorem GatewayRequest.booksOnly (req : GatewayRequest) :
    Calls (S := sig) (BooksOnly (req.payment g)) (req.prog g) := by
  cases req with
  | webhook body signature => exact calls_void (booksOnly_webhook body signature)
  | callback sid body => exact calls_void (booksOnly_callback sid body)

end

/-! ### Every run -/

/-- Requests in progress over the database. -/
abbrev GatewayPool := Pool sig Unit DB

def gatewayPool (s : DB) (reqs : List GatewayRequest) : GatewayPool :=
  start () s (reqs.map (GatewayRequest.prog g))

/-- The credit or the extension that the step commits, if it commits one. -/
def grantMade (p : GatewayPool) (i : ℕ) (e : Env) : Option Op :=
  match p.threads[i]? with
  | some (_, .call (.db op) _) =>
    if op.grants && succeeded (.db op) (exec e (.db op) p.shared).1 then some op else none
  | _ => none

variable (signed : Body → Prop) (reqs : List GatewayRequest) (p : GatewayPool) (i : ℕ) (e : Env)

/-- A credit or an extension that the step commits is for the payment of its request, and that
    payment is backed. -/
def GrantsBacked : Prop :=
  ∀ op, grantMade p i e = some op → ∃ req payment, reqs[i]? = some req ∧
    req.payment g = some payment ∧ BooksOnly (some payment) (.db op) ∧ Backed g signed payment

/-- If a callback commits a credit or an extension, the payment it presents is backed. -/
def CallbackBacked : Prop :=
  ∀ op, grantMade p i e = some op → ∀ sid body, reqs[i]? = some (.callback sid body) →
    ∀ payment, g.presentedPayment sid body = .ok payment → Backed g signed payment

/-- Every thread only books the payment of its request. -/
def BooksOwn (reqs : List GatewayRequest) (p : GatewayPool) : Prop :=
  Obeying noWatch (fun _ _ _ => True)
    (fun i _ c => ∃ req, reqs[i]? = some req ∧ BooksOnly (req.payment g) c) (fun _ _ => True) p

section
variable {g} {signed : Body → Prop} {reqs : List GatewayRequest}

theorem booksOwn_start (s : DB) : BooksOwn g reqs (gatewayPool g s reqs) := by
  refine obeying_start fun i q hq => ?_
  rw [getElem?_map, Option.map_eq_some_iff] at hq
  obtain ⟨req, hreq, rfl⟩ := hq
  exact Calls.obeys (fun _ c hc => ⟨req, hreq, hc⟩) req.booksOnly ()

theorem booksOwn_step (p : GatewayPool) (i : ℕ) (e : Env) (h : BooksOwn g reqs p) :
    BooksOwn g reqs (step exec noWatch p i e) :=
  obeying_step h fun _ _ _ _ => trivial

theorem of_grantMade {p : GatewayPool} {i : ℕ} {e : Env} {op : Op} (h : grantMade p i e = some op) :
    (∃ w k, p.threads[i]? = some (w, .call (.db op) k)) ∧ op.grants = true := by
  unfold grantMade at h
  split at h
  · rename_i w op' k hi
    split at h
    · rename_i hg
      cases h
      exact ⟨⟨w, k, hi⟩, (Bool.and_eq_true_iff.mp hg).1⟩
    · cases h
  · cases h

/-- A call that grants books a payment. -/
theorem BooksOnly.of_grants {payment : Option Payment} {op : Op} (h : BooksOnly payment (.db op))
    (hop : op.grants = true) : ∃ p, payment = some p ∧ BooksOnly (some p) (.db op) := by
  cases h with
  | plain _ hplain => rw [hop] at hplain; cases hplain
  | credit p posting hp hsub hamount htoken =>
    exact ⟨p, hp, .credit p posting rfl hsub hamount htoken⟩
  | extend p t hp => exact ⟨p, hp, .extend p t rfl⟩

/-- What a signed webhook books is backed. -/
theorem webhook_backed {body : Body} {signature : String} {p : Payment}
    (hsigned : g.ValidateRazorpaySignature (body.take maxRazorpayWebhookBody) signature
      g.webhookSecret = true → signed (body.take maxRazorpayWebhookBody))
    (hp : (GatewayRequest.webhook body signature).payment g = some p) : Backed g signed p := by
  simp only [GatewayRequest.payment] at hp
  split at hp
  · rename_i hvalid
    obtain ⟨payload, hpayload, hcaptured⟩ := Option.bind_eq_some_iff.mp hp
    exact ⟨_, payload, hsigned hvalid, hpayload, hcaptured⟩
  · cases hp

/-- One step: what it grants is backed exactly when a callback's payment is. -/
theorem grantsBacked_iff (hsigned : ∀ body signature, GatewayRequest.webhook body signature ∈ reqs →
      g.ValidateRazorpaySignature (body.take maxRazorpayWebhookBody) signature g.webhookSecret =
        true →
      signed (body.take maxRazorpayWebhookBody)) (p : GatewayPool) (i : ℕ) (e : Env)
        (h : BooksOwn g reqs p) :
    GrantsBacked g signed reqs p i e ↔ CallbackBacked g signed reqs p i e := by
  constructor
  · intro hg op hop sid body hreq payment hpresented
    obtain ⟨req, payment', hreq', hpay, -, hbacked⟩ := hg op hop
    cases hreq.symm.trans hreq'
    simp only [GatewayRequest.payment, hpresented] at hpay
    cases hpay
    exact hbacked
  · intro hc op hop
    obtain ⟨⟨w, k, hi⟩, hgrants⟩ := of_grantMade hop
    obtain ⟨req, hreq, hbooks⟩ := Obeying.allowed h hi
    obtain ⟨payment, hpay, hbooks⟩ := hbooks.of_grants hgrants
    refine ⟨req, payment, hreq, hpay, hbooks, ?_⟩
    cases req with
    | webhook body signature =>
      exact webhook_backed (hsigned body signature (mem_of_getElem? hreq)) hpay
    | callback sid body =>
      refine hc op hop sid body hreq payment ?_
      simp only [GatewayRequest.payment] at hpay
      cases hpres : g.presentedPayment sid body with
      | error err => rw [hpres] at hpay; cases hpay
      | ok p' => rw [hpres] at hpay; cases hpay; rfl

end

/-- Webhook and callback requests with arbitrary bodies, in any interleaving. If a valid signature
    is only found on bodies the gateway has signed, every credit and every extension the two
    handlers commit is backed by a signed `payment.captured` event exactly when every callback that
    commits one presents a payment that is. -/
theorem grants_backed_iff_callbacks_backed (signed : Body → Prop) (s : DB)
    (reqs : List GatewayRequest) (sched : List (ℕ × Env))
    (hsigned : ∀ body signature, GatewayRequest.webhook body signature ∈ reqs →
      g.ValidateRazorpaySignature (body.take maxRazorpayWebhookBody) signature g.webhookSecret =
        true →
      signed (body.take maxRazorpayWebhookBody)) :
    Meets exec noWatch (GrantsBacked g signed reqs) (gatewayPool g s reqs) sched ↔
    Meets exec noWatch (CallbackBacked g signed reqs) (gatewayPool g s reqs) sched :=
  meets_congr booksOwn_step (grantsBacked_iff hsigned) sched _ (booksOwn_start s)

/-! ### One gateway -/

def utf8 (s : String) : Body := s.toUTF8.data.toList

/-- An event: 590.00 were paid by subscriber 1. -/
def capturedText : String :=
  "\x7b\"event\":\"payment.captured\",\"payload\":\x7b\"payment\":\x7b\"entity\":\x7b" ++
    "\"id\":\"pay_1\",\"amount\":59000,\"notes\":\x7b\"subscriber_id\":\"1\"\x7d\x7d\x7d\x7d\x7d"

/-- The body of a callback that claims as much. -/
def madeUpText : String := "\x7b\"payment_id\":\"made_up\",\"amount\":\"590.00\"\x7d"

/-- Decodes the two texts. The code is a letter for each octet, of the secret and of the body. -/
def oneGateway : Gateway where
  webhookSecret := "secret"
  hmacHex secret body :=
    String.ofList ((utf8 secret ++ body).map fun o => Char.ofNat (97 + o.toNat % 16))
  unmarshal body :=
    if body = utf8 capturedText then some ⟨"payment.captured", "pay_1", 59000, "1"⟩ else none
  decodeCallback body := if body = utf8 madeUpText then some ⟨"made_up", "590.00"⟩ else none
  decimalFromString amount := if amount = "590.00" then some (paise 59000) else none

/-- The gateway has signed the one event. -/
def OneEvent (body : Body) : Prop := body = utf8 capturedText

/-- The event with its signature, and the callback. -/
def eventAndCallback : List GatewayRequest :=
  [.webhook (utf8 capturedText) (oneGateway.hmacHex "secret" (utf8 capturedText)),
    .callback 1 (utf8 madeUpText)]

/-- One subscriber, paid up to day 1. -/
def portalSubscriber : DB := .seeded ((∅ : Table Subscriber).insert 1 (.paidUntil day))

def bookedAfter (sched : List (ℕ × Env)) : Option (ℤ × Option Time) :=
  ((run exec noWatch (gatewayPool oneGateway portalSubscriber eventAndCallback)
    sched).shared.subscribers.lookup 1).map
    fun r => (r.walletBalance, r.planExpiry)

theorem pay_1_of_backed {p : Payment} (h : Backed oneGateway OneEvent p) :
    p.paymentID = "pay_1" := by
  obtain ⟨body, payload, rfl, hpayload, hp⟩ := h
  have hevent : oneGateway.unmarshal (utf8 capturedText) =
      some ⟨"payment.captured", "pay_1", 59000, "1"⟩ := by
    decide +kernel
  cases hevent.symm.trans hpayload
  have hid : (capturedPayment ⟨"payment.captured", "pay_1", 59000, "1"⟩).map Payment.paymentID =
      some "pay_1" := by
    decide +kernel
  rw [hp] at hid
  exact Option.some.inj hid

/-- The event is booked: 590.00 in the wallet. Then the callback with a made-up payment id: 590.00
    more and thirty more days, while the one event announces another payment. -/
theorem made_up_callback_grants :
    (∀ p, Backed oneGateway OneEvent p → p.paymentID ≠ "made_up") ∧
    bookedAfter (replicate 12 (0, .at 0)) = some (59000, some day) ∧
    bookedAfter (replicate 12 (0, .at 0) ++ replicate 12 (1, .at 0)) =
      some (118000, some (31 * day)) := by
  refine ⟨fun p hp => ?_, by decide +kernel, by decide +kernel⟩
  rw [pay_1_of_backed hp]
  decide

/-- In that run a callback books a payment that is not backed. -/
theorem made_up_callback_not_backed :
    ¬ Meets exec noWatch (CallbackBacked oneGateway OneEvent eventAndCallback)
      (gatewayPool oneGateway portalSubscriber eventAndCallback)
      (replicate 12 (0, .at 0) ++ replicate 12 (1, .at 0)) := by
  have hsigned : ∀ body signature, GatewayRequest.webhook body signature ∈ eventAndCallback →
      oneGateway.ValidateRazorpaySignature (body.take maxRazorpayWebhookBody) signature "secret" =
        true →
      OneEvent (body.take maxRazorpayWebhookBody) := by
    intro body signature hreq _
    rcases mem_pair.mp hreq with hreq | hreq
    · cases hreq
      exact take_of_length_le (by decide +kernel)
    · cases hreq
  rw [← grants_backed_iff_callbacks_backed oneGateway OneEvent portalSubscriber eventAndCallback _
    hsigned]
  intro h
  -- what the callback presents is not backed, so it would grant nothing
  have hnone := h.mono (D := fun p i e => i = 1 → grantMade p i e = none) fun p i e hg hi => by
    cases hm : grantMade p i e with
    | none => rfl
    | some op =>
      obtain ⟨req, payment, hreq, hpay, -, hbacked⟩ := hg op hm
      subst hi
      cases hreq
      have hid : ((GatewayRequest.callback 1 (utf8 madeUpText)).payment oneGateway).map
          Payment.paymentID =
          some "made_up" := by decide +kernel
      rw [hpay, Option.map_some, pay_1_of_backed hbacked] at hid
      exact absurd hid (by decide)
  revert hnone
  decide +kernel

end IspBss
