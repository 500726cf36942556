import IspBss.Jobqueue.Server
import IspBss.Lib.Compose

/-! Webhooks: events that are fanned out to the endpoints of partners, and the handler that delivers them.

        Emit ──SubscribersFor──▶ one task for each endpoint ──queue──▶ ProcessTask ──▶ HTTP request
                                                                           └──▶ the delivery row

    Who subscribes is decided when the event is emitted. A task carries the URL and the encrypted secret of its endpoint
    with it, and the handler reads nothing else of the endpoint. How often a task is tried is counted by the queue; the
    handler is given the count. -/

namespace IspBss.Partner

open Lib Jobqueue

/-! ### Tables -/

structure APIKey where
  active : Bool
  expiresAt : Option Time
  revokedAt : Option Time
  deriving DecidableEq

structure WebhookEndpoint where
  apiKeyID : ℤ
  url : String
  secretEncrypted : String
  events : List String
  active : Bool
  deriving DecidableEq

/-- `webhook_deliveries.status`. -/
inductive DeliveryStatus where
  | pending | delivered | failed | abandoned
  deriving DecidableEq, Repr

/-- `webhook_deliveries`, by endpoint and event. -/
structure Delivery where
  eventType : String
  status : DeliveryStatus
  attempts : ℕ
  responseStatus : Option ℤ
  responseExcerpt : Option String
  lastError : Option String
  nextAttemptAt : Option Time
  deliveredAt : Option Time
  deriving DecidableEq

/-- The UUID of an event is a number that is never given out again. -/
structure Event where
  eventID : ℕ
  eventType : String
  entityID : ℤ
  occurredAt : Time
  deriving DecidableEq

structure EndpointSecret where
  endpointID : ℤ
  url : String
  secretEncrypted : String
  deriving DecidableEq

structure TaskPayload where
  endpointID : ℤ
  url : String
  secretEncrypted : String
  event : Event
  deriving DecidableEq

/-- What a delivery is known by. -/
def TaskPayload.key (p : TaskPayload) : ℤ × ℕ := (p.endpointID, p.event.eventID)

/-- The partner tables, the last event id, and the requests that have been made. -/
structure Hooks where
  keys : Serial APIKey
  endpoints : Serial WebhookEndpoint
  deliveries : Rows (ℤ × ℕ) Delivery
  lastEvent : ℕ
  requests : List TaskPayload

/-- JSON: what is written can be read back. -/
structure Codec where
  marshal : TaskPayload → Except String (List UInt8)
  unmarshal : List UInt8 → Except String TaskPayload
  marshalEvent : Event → Except String (List UInt8)
  unmarshal_marshal : ∀ p bytes, marshal p = .ok bytes → unmarshal bytes = .ok p

/-! ### Calls -/

inductive StoreErr where
  | unavailable
  deriving DecidableEq

/-- An HTTP exchange that yields no response. -/
inductive SendErr where
  | blocked (text : String)
  | transport (text : String)
  deriving DecidableEq

/-- What is written of an attempt. -/
structure Attempt where
  status : DeliveryStatus
  responseStatus : Option ℤ
  responseExcerpt : String
  lastError : String
  nextAttempt : Option Time
  deriving DecidableEq

inductive HookCall where
  | timeNow
  | newUUID
  | subscribersFor (eventType : String)
  | decrypt (ciphertext : String)
  | newRequest (url : String)
  | doRequest (p : TaskPayload) (secret : String) (ts : Time)
  | recordDeliveryAttempt (endpointID : ℤ) (ev : Event) (a : Attempt)
  | revokeAPIKey (keyID : ℤ)
  | deactivateWebhookEndpoint (endpointID apiKeyID : ℤ)
  deriving DecidableEq

@[reducible] def HookCall.Resp : HookCall → Type
  | timeNow => Time
  | newUUID => ℕ
  | subscribersFor _ => Except StoreErr (List EndpointSecret)
  | decrypt _ => Except String String
  | newRequest _ => Except String Unit
  | doRequest _ _ _ => Except SendErr (ℤ × String)
  | recordDeliveryAttempt _ _ _ => Except StoreErr Unit
  | revokeAPIKey _ => Except StoreErr Bool
  | deactivateWebhookEndpoint _ _ => Except StoreErr Bool

@[reducible] def hookSig : Sig := ⟨HookCall, HookCall.Resp⟩

/-- The queue and the partner tables side by side. -/
@[reducible] def webhookSig : Sig := queueSig.sum hookSig

/-- What a call is answered in: the time since the last one, the calls that fail, the rows a claim must skip, the clock,
    the shuffle, the keys of the store, which URLs make a request, and how partners respond. -/
structure HookEnv where
  elapsed : ℕ
  fails : QueueCall ⊕ HookCall → Bool
  locked : ℤ → Bool
  now : Time
  shuffled : { f : List String → List String // ∀ order, (f order).Perm order }
  decrypt : String → Except String String
  newRequest : String → Except String Unit
  respond : TaskPayload → Except SendErr (ℤ × String)

def HookEnv.queueEnv (e : HookEnv) (c : QueueCall) : QueueEnv :=
  ⟨e.elapsed, e.fails (.inl c), e.locked, e.now, e.shuffled, .returned none⟩

/-! ### The store -/

/-- The WHERE clause of `SubscribersFor`, without the event. -/
def Hooks.Subscribed (s : Hooks) (now : Time) (ep : WebhookEndpoint) : Prop :=
  ep.active = true ∧ ∃ k ∈ s.keys.lookup ep.apiKeyID, k.active = true ∧ ∀ t ∈ k.expiresAt, now < t
  deriving Decidable

namespace PartnerStore

def SubscribersFor (now : Time) (eventType : String) (s : Hooks) : List EndpointSecret :=
  let rows := s.endpoints.rows.entries.filter fun x => s.Subscribed now x.2 ∧ eventType ∈ x.2.events
  (rows.insertionSort fun x y => x.1 ≤ y.1).map fun x => ⟨x.1, x.2.url, x.2.secretEncrypted⟩

/-- The row of the delivery, whether it is the first attempt or another one. -/
def RecordDeliveryAttempt (now : Time) (endpointID : ℤ) (ev : Event) (a : Attempt) (s : Hooks) : Hooks :=
  let before := s.deliveries.lookup (endpointID, ev.eventID)
  let deliveredAt := if a.status = .delivered then some now else none
  let row : Delivery :=
    { eventType := (before.map Delivery.eventType).getD ev.eventType
      status := a.status
      attempts := (before.map Delivery.attempts).getD 0 + 1
      responseStatus := a.responseStatus
      responseExcerpt := nullIfEmpty a.responseExcerpt
      lastError := nullIfEmpty a.lastError
      nextAttemptAt := a.nextAttempt
      deliveredAt := (before.bind Delivery.deliveredAt) <|> deliveredAt }
  { s with deliveries := s.deliveries.insert (endpointID, ev.eventID) row }

/-- False if the key was not active. -/
def RevokeAPIKey (now : Time) (keyID : ℤ) (s : Hooks) : Bool × Hooks :=
  ((s.keys.lookup keyID).any APIKey.active,
    { s with keys := s.keys.updateWhere (fun id k => id = keyID ∧ k.active) fun k =>
        { k with active := false, revokedAt := some now } })

/-- False if the endpoint was not active, or is not one of the key. -/
def DeactivateWebhookEndpoint (endpointID apiKeyID : ℤ) (s : Hooks) : Bool × Hooks :=
  ((s.endpoints.lookup endpointID).any fun ep => ep.apiKeyID = apiKeyID ∧ ep.active,
    { s with endpoints :=
        s.endpoints.updateWhere (fun id ep => id = endpointID ∧ ep.apiKeyID = apiKeyID ∧ ep.active) fun ep =>
          { ep with active := false } })

end PartnerStore

open PartnerStore

/-- How a call on the partner side is answered. A statement that fails changes nothing. -/
def hookExec : Store hookSig HookEnv Hooks := fun e c s =>
  match c with
  | .timeNow => (e.now, s)
  | .newUUID => (s.lastEvent + 1, { s with lastEvent := s.lastEvent + 1 })
  | .subscribersFor eventType =>
    if e.fails (.inr (.subscribersFor eventType)) then (.error .unavailable, s)
    else (.ok (SubscribersFor e.now eventType s), s)
  | .decrypt ciphertext => (e.decrypt ciphertext, s)
  | .newRequest url => (e.newRequest url, s)
  | .doRequest p _ _ => (e.respond p, { s with requests := s.requests ++ [p] })
  | .recordDeliveryAttempt endpointID ev a =>
    if e.fails (.inr (.recordDeliveryAttempt endpointID ev a)) then (.error .unavailable, s)
    else (.ok (), RecordDeliveryAttempt e.now endpointID ev a s)
  | .revokeAPIKey keyID =>
    if e.fails (.inr (.revokeAPIKey keyID)) then (.error .unavailable, s)
    else (.ok (RevokeAPIKey e.now keyID s).1, (RevokeAPIKey e.now keyID s).2)
  | .deactivateWebhookEndpoint endpointID apiKeyID =>
    if e.fails (.inr (.deactivateWebhookEndpoint endpointID apiKeyID)) then (.error .unavailable, s)
    else (.ok (DeactivateWebhookEndpoint endpointID apiKeyID s).1, (DeactivateWebhookEndpoint endpointID apiKeyID s).2)

def webhookExec : Store webhookSig HookEnv (QueueDB × Hooks) :=
  Store.beside (fun e c => queueExec (e.queueEnv c) c) hookExec

abbrev HookProg := Prog webhookSig

def hook (c : HookCall) : HookProg c.Resp := Prog.perform (S := webhookSig) (.inr c)

/-! ### Emitting -/

def TaskTypeWebhook : String := "partner:webhook"

def QueueWebhooks : String := "webhooks"

def MaxAttempts : ℤ := 8

/-- Twenty seconds. -/
def deliveryTimeout : Time := 20000000

def ValidEvents : List String :=
  ["subscriber.created", "subscriber.status_changed", "payment.received", "invoice.generated", "ticket.created",
    "ticket.resolved"]

def NewEvent (eventType : String) (entityID : ℤ) (occurredAt : Time) : HookProg (Except String Event) :=
  if eventType ∈ ValidEvents then do
    let id ← hook .newUUID
    return .ok ⟨id, eventType, entityID, occurredAt⟩
  else return .error ("partner: unknown event type " ++ eventType.quote)

/-- The task of one endpoint. -/
def webhookTask (payload : List UInt8) : ClientTask where
  typ := TaskTypeWebhook
  payload := payload
  queue := QueueWebhooks
  maxRetry := MaxAttempts
  timeout := deliveryTimeout + 10000000
  retention := 0
  taskID := ""
  processIn := 0

/-- Queue one endpoint's copy of the event; what cannot be queued is logged. -/
def enqueueFor (J : Codec) (ev : Event) (ep : EndpointSecret) : HookProg Unit :=
  match J.marshal ⟨ep.endpointID, ep.url, ep.secretEncrypted, ev⟩ with
  | .error _ => return ()
  | .ok payload => (Client.EnqueueContext (webhookTask payload)).left.void

/-- Queue the event for the subscribers, if they could be loaded. -/
def fanOut (J : Codec) (ev : Event) : Except StoreErr (List EndpointSecret) → HookProg Unit
  | .error _ => return ()
  | .ok endpoints => Prog.each (enqueueFor J ev) endpoints

def Emit (J : Codec) (eventType : String) (entityID : ℤ) : HookProg Unit := do
  let now ← hook .timeNow
  match ← NewEvent eventType entityID now with
  | .error _ => return ()
  | .ok ev =>
    let endpoints ← hook (.subscribersFor eventType)
    fanOut J ev endpoints

/-! ### Delivering -/

inductive Outcome where
  | ok | blocked | failed
  deriving DecidableEq, Repr

/-- What an attempt came to; no error is success. -/
structure Sent where
  outcome : Outcome
  status : Option ℤ
  excerpt : String
  err : Option String
  deriving DecidableEq

/-- What is made of the end of an exchange. -/
def sentOf : Except SendErr (ℤ × String) → Sent
  | .error (.blocked text) => ⟨.blocked, none, "", some text⟩
  | .error (.transport text) => ⟨.failed, none, "", some text⟩
  | .ok (status, excerpt) =>
    if 200 ≤ status ∧ status < 300 then ⟨.ok, some status, excerpt, none⟩
    else ⟨.failed, some status, excerpt, some ("partner returned HTTP " ++ toString status)⟩

/-- One HTTP attempt. -/
def send (p : TaskPayload) (secret : String) : HookProg Sent := do
  match ← hook (.newRequest p.url) with
  | .error text => return ⟨.failed, none, "", some ("build request: " ++ text)⟩
  | .ok () =>
    let ts ← hook .timeNow
    let response ← hook (.doRequest p secret ts)
    return sentOf response

/-- In microseconds: 1, 2, 4, 8, 16, 32 and 64 minutes, and two hours. -/
def backoffSchedule : List Time :=
  [60000000, 120000000, 240000000, 480000000, 960000000, 1920000000, 3840000000, 7200000000]

/-- Six hours past the end of the table. -/
def backoff (attempt : ℤ) : Time :=
  if attempt < 0 then 60000000 else backoffSchedule.getD attempt.toNat 21600000000

variable (p : TaskPayload) (status : DeliveryStatus) (responseStatus : Option ℤ) (excerpt errStr : String)

/-- Write the delivery row; an error is only logged. -/
def recordWithNext
    (next : Option Time) : HookProg Unit :=
  (hook (.recordDeliveryAttempt p.endpointID p.event ⟨status, responseStatus, excerpt, errStr, next⟩)).void

def record :
    HookProg Unit :=
  recordWithNext p status responseStatus excerpt errStr none

/-- An error that no retry can fix. -/
def skipRetry (text : String) : TaskErr := ⟨text ++ ": jobqueue: skip retry", true⟩

/-- What follows from an attempt: the delivery row, and the error that the queue is given. -/
def settle (p : TaskPayload) (attempt : ℤ) (r : Sent) : HookProg (Option TaskErr) :=
  match r.err with
  | none => do
    record p .delivered r.status r.excerpt ""
    return none
  | some sendErr =>
    if r.outcome = .blocked then do
      record p .abandoned r.status r.excerpt sendErr
      return some (skipRetry ("partner: " ++ sendErr))
    else if MaxAttempts ≤ attempt + 1 then do
      record p .abandoned r.status r.excerpt sendErr
      return some ⟨"partner: webhook abandoned after " ++ toString (attempt + 1) ++ " attempts: " ++ sendErr, false⟩
    else do
      let now ← hook .timeNow
      recordWithNext p .pending r.status r.excerpt sendErr (some (now + backoff attempt))
      return some ⟨sendErr, false⟩

/-- The handler: one attempt at the delivery of a claimed task. -/
def ProcessTask (J : Codec) (ct : ClaimedTask) : HookProg (Option TaskErr) :=
  match J.unmarshal ct.payload with
  | .error text => return some (skipRetry ("partner: unmarshal webhook task: " ++ text))
  | .ok p => do
    match ← hook (.decrypt p.secretEncrypted) with
    | .error text =>
      record p .abandoned none "" "signing secret could not be decrypted"
      return some (skipRetry ("partner: decrypt webhook secret: " ++ text))
    | .ok secret =>
      match J.marshalEvent p.event with
      | .error text => return some (skipRetry ("partner: marshal webhook body: " ++ text))
      | .ok _ => do
        let r ← send p secret
        settle p ct.retryCount r

/-! ### Workers -/

/-- `Server.run` with the webhook handler in its mux. -/
def runWebhook (J : Codec) (srv : Server) (ct : ClaimedTask) : HookProg Unit :=
  if ct.taskType ∈ srv.handles then do
    let err ← ProcessTask J ct
    (srv.finish ct err (err.any TaskErr.skipRetry)).left
  else
    (srv.finish ct (some ⟨"jobqueue: no handler registered for " ++ ct.taskType.quote, false⟩) true).left

/-- Claim and run one task, if one is ready. -/
def webhookRound (J : Codec) (srv : Server) : HookProg Unit := do
  match ← srv.claimNext.left with
  | none => return ()
  | some ct => runWebhook J srv ct

/-- Whoever takes part: business operations that emit, goroutines of servers, and operators. -/
inductive HookActor where
  | emitter (eventType : String) (entityID : ℤ)
  | worker (srv : Server) (rounds : ℕ)
  | reaper (ticks : ℕ)
  | sweeper (ticks : ℕ)
  | revoke (keyID : ℤ)
  | deactivate (endpointID apiKeyID : ℤ)

def HookActor.prog (J : Codec) : HookActor → HookProg Unit
  | emitter eventType entityID => Emit J eventType entityID
  | worker srv rounds => Prog.each (fun _ => webhookRound J srv) (List.range rounds)
  | reaper ticks => (Server.reapExpiredLeases ticks).left
  | sweeper ticks => (Server.sweepRetained ticks).left
  | revoke keyID => (hook (.revokeAPIKey keyID)).void
  | deactivate endpointID apiKeyID => (hook (.deactivateWebhookEndpoint endpointID apiKeyID)).void

end IspBss.Partner
