import IspBss.Partner.Dispatch
import IspBss.Props.QueueSteps

/-! Does a revocation silence the webhooks of a partner?

    `SubscribersFor` joins the keys so that "deactivating a key must silence its webhooks too", but it is asked once,
    when the event is emitted. A task that is in the queue by then carries its URL and secret with it, and the handler
    never looks again. What holds in every interleaving is that nothing goes to an endpoint that was not active when its
    event was fanned out; and so no request follows a revocation if, at that moment, no task of the partner is waiting
    and nobody has one in hand.

        SubscribersFor ──▶ held by an emitter ──▶ queued ──▶ held by a worker ──▶ request
           alive              └───────────── alive, as long as no revocation hits ────┘ -/

namespace IspBss.Partner

open Lib Jobqueue PartnerStore Prog Pool Option List Serial

/-- Neither deactivated nor of a key that was revoked. -/
def Alive (s : Hooks) (id : ℤ) : Prop :=
  ∃ ep ∈ s.endpoints.lookup id, ep.active = true ∧ ∃ k ∈ s.keys.lookup ep.apiKeyID, k.active = true
  deriving Decidable

/-- The endpoint that a task is for, if it can be read. -/
def endpointsOf (J : Codec) (payload : List UInt8) : List ℤ :=
  match J.unmarshal payload with
  | .ok p => [p.endpointID]
  | .error _ => []

/-- What somebody has in hand: the endpoints they may still write to, and the task they have claimed. -/
structure Held where
  endpoints : List ℤ
  task : Option ℤ
  deriving DecidableEq

/-- A worker has the task it claimed, until it records an outcome. -/
def heldTask (J : Codec) : Watch queueSig Held := fun w c r =>
  match claimedBy c r with
  | some (id, row) => ⟨endpointsOf J row.payload, some id⟩
  | none => if c.outcomeOf.isSome then ⟨[], none⟩ else w

/-- An emitter has the subscribers it was given. -/
def heldEndpoints : Watch hookSig Held
  | _, .subscribersFor _, .ok endpoints => ⟨endpoints.map EndpointSecret.endpointID, none⟩
  | w, _, _ => w

def held (J : Codec) : Watch webhookSig Held
  | w, .inl c, r => heldTask J w c r
  | w, .inr c, r => heldEndpoints w c r

abbrev HookPool := Pool webhookSig Held (QueueDB × Hooks)

/-- All actors at their beginning, over an empty queue. -/
def hookPool (J : Codec) (clock : Time) (hooks : Hooks) (actors : List HookActor) : HookPool :=
  Pool.start ⟨[], none⟩ (.empty clock, hooks) (actors.map (HookActor.prog J))

abbrev runHooks (J : Codec) (p : HookPool) (sched : List (ℕ × HookEnv)) : HookPool :=
  Pool.run webhookExec (held J) p sched

/-! ### What the actors do -/

/-- Requests and tasks are for endpoints in hand, and an outcome is recorded of the task in hand. -/
def Allowed (J : Codec) (w : Held) : webhookSig.Call → Prop
  | .inl (.stmt (.insert t)) => ∀ id ∈ endpointsOf J t.payload, id ∈ w.endpoints
  | .inl (.stmt (.complete id)) => w.task = some id
  | .inl (.stmt (.retry id _ _)) => w.task = some id
  | .inr (.doRequest p _ _) => p.endpointID ∈ w.endpoints
  | _ => True

abbrev AnyHookAnswer : Held → (c : webhookSig.Call) → webhookSig.Resp c → Prop := fun _ _ _ => True

section
variable {J : Codec}

variable {p : TaskPayload}

theorem endpointsOf_ok {payload : List UInt8} (h : J.unmarshal payload = .ok p) :
    endpointsOf J payload = [p.endpointID] := by
  simp [endpointsOf, h]

variable {w : Held}

theorem allowed_enqueueFor {ev : Event} {ep : EndpointSecret} (hep : ep.endpointID ∈ w.endpoints) :
    Prog.Obeys (held J) AnyHookAnswer (Allowed J) (fun w' _ => w' = w) (enqueueFor J ev ep) w := by
  unfold enqueueFor
  cases hpayload : J.marshal ⟨ep.endpointID, ep.url, ep.secretEncrypted, ev⟩ with
  | error text => exact rfl
  | ok payload =>
    refine ⟨trivial, fun now _ => ⟨?_, fun r _ => ?_⟩⟩
    · intro id hid
      have hread := J.unmarshal_marshal _ _ hpayload
      have hid' : id ∈ endpointsOf J payload := hid
      rw [endpointsOf_ok hread, mem_singleton] at hid'
      rw [hid']
      exact hep
    · cases r with
      | ok id => exact rfl
      | error err => cases err <;> exact rfl

theorem allowed_emit (eventType : String) (entityID : ℤ) (w : Held) :
    Prog.Obeys (held J) AnyHookAnswer (Allowed J) (fun _ _ => True) (Emit J eventType entityID) w := by
  refine ⟨trivial, fun now _ => ?_⟩
  unfold NewEvent
  split
  · refine ⟨trivial, fun id _ => ⟨trivial, fun r _ => ?_⟩⟩
    cases r with
    | error err => trivial
    | ok endpoints =>
      refine (obeys_each (I := fun rest w => ∀ ep ∈ rest, EndpointSecret.endpointID ep ∈ w.endpoints) ?_ endpoints _
        ?_).mono fun _ _ _ => trivial
      · intro ep rest w hrest
        refine (allowed_enqueueFor (hrest ep (mem_cons_self))).mono fun w' _ hw => ?_
        rw [hw]
        exact fun x hx => hrest x (mem_cons_of_mem _ hx)
      · exact fun ep hep => mem_map_of_mem hep
  · trivial

/-- Only the row of the delivery is written. -/
theorem allowed_recordWithNext {status : DeliveryStatus} {responseStatus : Option ℤ}
    {excerpt errStr : String} {next : Option Time} :
    Prog.Obeys (held J) AnyHookAnswer (Allowed J) (fun w' _ => w' = w)
      (recordWithNext p status responseStatus excerpt errStr next) w :=
  ⟨trivial, fun _ _ => rfl⟩

theorem allowed_settle {attempt : ℤ} {r : Sent} :
    Prog.Obeys (held J) AnyHookAnswer (Allowed J) (fun w' _ => w' = w) (settle p attempt r) w := by
  unfold settle
  cases r.err with
  | none => exact obeys_bind.mpr (allowed_recordWithNext.mono fun _ _ h => h)
  | some sendErr =>
    dsimp only
    split
    · exact obeys_bind.mpr (allowed_recordWithNext.mono fun _ _ h => h)
    · split
      · exact obeys_bind.mpr (allowed_recordWithNext.mono fun _ _ h => h)
      · exact ⟨trivial, fun _ _ => obeys_bind.mpr (allowed_recordWithNext.mono fun _ _ h => h)⟩

theorem allowed_send {secret : String} (hp : p.endpointID ∈ w.endpoints) :
    Prog.Obeys (held J) AnyHookAnswer (Allowed J) (fun w' _ => w' = w) (send p secret) w := by
  refine ⟨trivial, fun r _ => ?_⟩
  cases r with
  | error text => exact rfl
  | ok u => exact ⟨trivial, fun ts _ => ⟨hp, fun response _ => rfl⟩⟩

variable {ct : ClaimedTask} {srv : Server}

/-- The handler writes to the endpoint of its task. -/
theorem allowed_processTask (hw : w.endpoints = endpointsOf J ct.payload) :
    Prog.Obeys (held J) AnyHookAnswer (Allowed J) (fun w' _ => w' = w) (ProcessTask J ct) w := by
  unfold ProcessTask
  cases hp : J.unmarshal ct.payload with
  | error text => exact rfl
  | ok p =>
    rw [endpointsOf_ok hp] at hw
    refine ⟨trivial, fun r _ => ?_⟩
    cases r with
    | error text => exact obeys_bind.mpr (allowed_recordWithNext.mono fun _ _ h => h)
    | ok secret =>
      cases J.marshalEvent p.event with
      | error text => exact rfl
      | ok body =>
        have hsend : p.endpointID ∈ w.endpoints := by
          rw [hw]
          exact mem_singleton_self _
        refine (obeys_bind (p := send p secret)).mpr ((allowed_send hsend).mono fun w' r hw' => ?_)
        subst hw'
        exact allowed_settle

theorem allowed_finish {err : Option TaskErr} {skip : Bool} (hw : w.task = some ct.id) :
    Prog.Obeys (held J) AnyHookAnswer (Allowed J) (fun _ _ => True) (srv.finish ct err skip).left w := by
  unfold Server.finish
  cases err with
  | none =>
    dsimp only
    split
    · exact ⟨hw, fun _ _ => trivial⟩
    · exact ⟨trivial, fun _ _ => trivial⟩
  | some e =>
    dsimp only
    split
    · exact ⟨trivial, fun _ _ => trivial⟩
    · exact ⟨hw, fun _ _ => trivial⟩

theorem allowed_runWebhook (hw : w.endpoints = endpointsOf J ct.payload) (htask : w.task = some ct.id) :
    Prog.Obeys (held J) AnyHookAnswer (Allowed J) (fun _ _ => True) (runWebhook J srv ct) w := by
  unfold runWebhook
  split
  · refine obeys_bind.mpr ((allowed_processTask hw).mono fun w' err hw' => ?_)
    subst hw'
    exact allowed_finish htask
  · exact allowed_finish htask

theorem allowed_claimFrom (srv : Server) : ∀ (order : List String) (w : Held),
    Prog.Obeys (held J) AnyHookAnswer (Allowed J)
      (fun w' found => ∀ ct ∈ found, w'.endpoints = endpointsOf J (ClaimedTask.payload ct) ∧ w'.task = some ct.id)
      (srv.claimFrom order).left w
  | [], w => nofun
  | queue :: rest, w => by
      refine ⟨trivial, fun r _ => ?_⟩
      cases r with
      | error err => exact nofun
      | ok claimed =>
        cases claimed with
        | none => exact allowed_claimFrom srv rest w
        | some x =>
          intro ct hct
          obtain rfl := Option.some.inj hct
          exact ⟨rfl, rfl⟩

theorem allowed_round (srv : Server) (w : Held) :
    Prog.Obeys (held J) AnyHookAnswer (Allowed J) (fun _ _ => True) (webhookRound J srv) w := by
  refine obeys_bind.mpr ⟨trivial, fun order _ => ?_⟩
  refine (allowed_claimFrom srv order w).mono fun w' found hfound => ?_
  cases found with
  | none => trivial
  | some ct =>
    obtain ⟨hendpoints, htask⟩ := hfound ct rfl
    exact allowed_runWebhook hendpoints htask

/-- Every actor keeps to these calls. -/
theorem HookActor.allowed (a : HookActor) (w : Held) :
    Prog.Obeys (held J) AnyHookAnswer (Allowed J) (fun _ _ => True) (a.prog J) w := by
  cases a with
  | emitter eventType entityID => exact allowed_emit eventType entityID w
  | worker srv rounds =>
    exact obeys_each (fun _ _ w _ => allowed_round srv w) _ w trivial
  | reaper ticks =>
    refine obeys_left.mpr ?_
    exact obeys_each (f := fun _ => (sql .reap).void) (I := fun _ _ => True)
      (fun _ _ _ _ => ⟨trivial, fun _ _ => trivial⟩) _ w trivial
  | sweeper ticks =>
    refine obeys_left.mpr ?_
    exact obeys_each (f := fun _ => (sql .sweep).void) (I := fun _ _ => True)
      (fun _ _ _ _ => ⟨trivial, fun _ _ => trivial⟩) _ w trivial
  | revoke keyID => exact ⟨trivial, fun _ _ => trivial⟩
  | deactivate endpointID apiKeyID => exact ⟨trivial, fun _ _ => trivial⟩

end

/-! ### Alive endpoints -/

/-- The endpoints that a call takes out of service. -/
def Targets (s : Hooks) : webhookSig.Call → ℤ → Prop
  | .inr (.revokeAPIKey keyID), id => ∃ ep ∈ s.endpoints.lookup id, ep.apiKeyID = keyID
  | .inr (.deactivateWebhookEndpoint endpointID _), id => id = endpointID
  | _, _ => False

instance (s : Hooks) : ∀ c id, Decidable (Targets s c id)
  | .inr (.revokeAPIKey _), _ => inferInstanceAs (Decidable (∃ ep ∈ _, _))
  | .inr (.deactivateWebhookEndpoint _ _), _ => inferInstanceAs (Decidable (_ = _))
  | .inr .timeNow, _ | .inr .newUUID, _ | .inr (.subscribersFor _), _ | .inr (.decrypt _), _ | .inr (.newRequest _), _
  | .inr (.doRequest _ _ _), _ | .inr (.recordDeliveryAttempt _ _ _), _ | .inl _, _ => isFalse id

section
variable {e : HookEnv} {s : Hooks} {id : ℤ} {now : Time} {endpointID apiKeyID : ℤ} {c : HookCall}

/-- The tables of keys and endpoints after a call: as they were, or with the one UPDATE made. -/
theorem hookExec_tables (e : HookEnv) (c : HookCall) (s : Hooks) :
    ((hookExec e c s).2.keys = s.keys ∧ (hookExec e c s).2.endpoints = s.endpoints) ∨
    (∃ keyID, c = .revokeAPIKey keyID ∧ (hookExec e c s).2 = (RevokeAPIKey e.now keyID s).2) ∨
    ∃ endpointID apiKeyID, c = .deactivateWebhookEndpoint endpointID apiKeyID ∧
      (hookExec e c s).2 = (DeactivateWebhookEndpoint endpointID apiKeyID s).2 := by
  cases c with
  | revokeAPIKey keyID =>
    unfold hookExec
    dsimp only
    split
    · exact .inl ⟨rfl, rfl⟩
    · exact .inr (.inl ⟨keyID, rfl, rfl⟩)
  | deactivateWebhookEndpoint endpointID apiKeyID =>
    unfold hookExec
    dsimp only
    split
    · exact .inl ⟨rfl, rfl⟩
    · exact .inr (.inr ⟨endpointID, apiKeyID, rfl, rfl⟩)
  | subscribersFor eventType =>
    unfold hookExec
    dsimp only
    split <;> exact .inl ⟨rfl, rfl⟩
  | recordDeliveryAttempt endpointID ev a =>
    unfold hookExec
    dsimp only
    split <;> exact .inl ⟨rfl, rfl⟩
  | _ => exact .inl ⟨rfl, rfl⟩

theorem alive_congr {s s' : Hooks} (hkeys : s'.keys = s.keys) (hendpoints : s'.endpoints = s.endpoints) :
    Alive s' id ↔ Alive s id := by
  unfold Alive
  rw [hkeys, hendpoints]

theorem alive_revoke_iff {keyID : ℤ} : Alive (RevokeAPIKey now keyID s).2 id ↔
    Alive s id ∧ ¬Targets s (.inr (.revokeAPIKey keyID)) id := by
  simp only [Alive, Targets, RevokeAPIKey, lookup_updateWhere, mem_def]
  cases s.endpoints.lookup id with
  | none => simp
  | some ep =>
    simp only [Option.some.injEq, exists_eq_left']
    cases s.keys.lookup ep.apiKeyID with
    | none => simp
    | some k => by_cases hkey : ep.apiKeyID = keyID <;> cases hactive : k.active <;> simp [hkey, hactive]

theorem alive_deactivate : Alive (DeactivateWebhookEndpoint endpointID apiKeyID s).2 id → Alive s id := by
  simp only [Alive, DeactivateWebhookEndpoint, lookup_updateWhere, mem_def]
  cases s.endpoints.lookup id with
  | none => simp
  | some ep =>
    simp only [map_some, Option.some.injEq, exists_eq_left']
    split
    · simp
    · exact fun h => h

theorem deactivate_alive (h : Alive s id) (hid : id ≠ endpointID) :
    Alive (DeactivateWebhookEndpoint endpointID apiKeyID s).2 id := by
  obtain ⟨ep, hep, hactive, hkey⟩ := h
  refine ⟨ep, ?_, hactive, hkey⟩
  rw [mem_def] at hep ⊢
  simp only [DeactivateWebhookEndpoint, lookup_updateWhere, hep, map_some]
  simp [hid]

/-- What is out of service stays out of service. -/
theorem hookExec_dead (h : Alive (hookExec e c s).2 id) : Alive s id := by
  rcases hookExec_tables e c s with ⟨hkeys, hendpoints⟩ | ⟨keyID, -, hs⟩ | ⟨endpointID, apiKeyID, -, hs⟩
  · exact (alive_congr hkeys hendpoints).mp h
  · rw [hs] at h
    exact (alive_revoke_iff.mp h).1
  · rw [hs] at h
    exact alive_deactivate h

/-- A call takes nothing out of service that it is not aimed at. -/
theorem hookExec_alive (h : Alive s id) (hc : ¬Targets s (.inr c) id) : Alive (hookExec e c s).2 id := by
  rcases hookExec_tables e c s with ⟨hkeys, hendpoints⟩ | ⟨keyID, rfl, hs⟩ | ⟨endpointID, apiKeyID, rfl, hs⟩
  · exact (alive_congr hkeys hendpoints).mpr h
  · rw [hs]
    exact alive_revoke_iff.mpr ⟨h, hc⟩
  · rw [hs]
    exact deactivate_alive h hc

/-- Subscribers are in service. -/
theorem subscribers_alive {eventType : String} {ep : EndpointSecret}
    (h : ep ∈ SubscribersFor now eventType s) : Alive s ep.endpointID := by
  obtain ⟨x, hx, rfl⟩ := mem_map.mp h
  obtain ⟨hrow, hsub⟩ := mem_filter.mp ((mem_insertionSort _).mp hx)
  obtain ⟨⟨hactive, k, hk, hkey, -⟩, -⟩ := of_decide_eq_true hsub
  exact ⟨x.2, lookup_eq_of_mem hrow, hactive, k, hk, hkey⟩

end

/-! ### Tasks and what is in hand -/

/-- Every task that is not dead is for an endpoint in service. -/
def TasksAlive (J : Codec) (s : QueueDB × Hooks) : Prop :=
  ∀ t row, s.1.tasks.lookup t = some row → row.status ≠ .dead → ∀ id ∈ endpointsOf J row.payload, Alive s.2 id

/-- What somebody has in hand is in service, and covers the task they have claimed. -/
structure InHand (J : Codec) (s : QueueDB × Hooks) (w : Held) : Prop where
  alive : ∀ id ∈ w.endpoints, Alive s.2 id
  issued : ∀ t, w.task = some t → t ≤ s.1.tasks.last
  covers : ∀ t row, w.task = some t → s.1.tasks.lookup t = some row → ∀ id ∈ endpointsOf J row.payload, id ∈ w.endpoints

/-- A task keeps its payload, unless it is new. -/
theorem rowChange_payload {now : Time} {next id : ℤ} {c : QueueCall} {r : c.Resp} {o o' : Option TaskRow} {row' : TaskRow}
    (h : RowChange now next id c r o o') (hrow' : o' = some row') :
    id = next ∨ ∃ row, o = some row ∧ row.payload = row'.payload := by
  cases h with
  | untouched => exact .inr ⟨row', hrow', rfl⟩
  | inserted t n hn hid => exact .inl hid
  | deleted => cases hrow'
  | swept => cases hrow'
  | _ =>
    obtain rfl := Option.some.inj hrow'
    exact .inr ⟨_, rfl, rfl⟩

section
variable {J : Codec} {e : QueueEnv} {c : QueueCall} {q : QueueDB} {h : Hooks} {w : Held}

theorem tasksAlive_queue (hin : InHand J (q, h) w) (htasks : TasksAlive J (q, h)) (hallowed : Allowed J w (.inl c)) :
    TasksAlive J ((queueExec e c q).2, h) := by
  intro t row hrow hdead id hid
  obtain ⟨r, o, o', -, ho, ho', hchange⟩ := queueExec_rows e c q t
  replace ho' := hrow.symm.trans ho'
  cases hchange with
  | untouched => exact htasks t row (ho.trans ho'.symm) hdead id hid
  | inserted task n _ _ =>
    obtain rfl := Option.some.inj ho'
    exact hin.alive id (hallowed id hid)
  | claimed queue lockedBy d r hclaimable =>
    obtain rfl := Option.some.inj ho'
    exact htasks t r ho (by rw [hclaimable.1]; decide) id hid
  | completed r =>
    obtain rfl := Option.some.inj ho'
    exact hin.alive id (hin.covers t r hallowed ho id hid)
  | deleted => cases ho'
  | deadLettered =>
    obtain rfl := Option.some.inj ho'
    exact absurd rfl hdead
  | retried text delay r n _ =>
    obtain rfl := Option.some.inj ho'
    exact hin.alive id (hin.covers t r hallowed ho id hid)
  | reaped r hexpired =>
    obtain rfl := Option.some.inj ho'
    exact htasks t r ho (by rw [hexpired.1]; decide) id hid
  | swept => cases ho'

/-- A statement changes nothing of what others have in hand. -/
theorem inHand_queue (hin : InHand J (q, h) w) : InHand J ((queueExec e c q).2, h) w where
  alive := hin.alive
  issued t ht := (hin.issued t ht).trans (queueExec_last e c q).1
  covers t row ht hrow id hid := by
    rcases rowChange_payload (queueExec_row e c q t) hrow with hnext | ⟨row₀, hrow₀, hpayload⟩
    · have hlast := hin.issued t ht
      dsimp only at hlast
      omega
    · exact hin.covers t row₀ ht hrow₀ id (hpayload ▸ hid)

/-- Who claims a task has it in hand. -/
theorem inHand_claimed {t : ℤ} {row : TaskRow} (htasks : TasksAlive J (q, h))
    (hclaim : claimedBy c (queueExec e c q).1 = some (t, row)) :
    InHand J ((queueExec e c q).2, h) ⟨endpointsOf J row.payload, some t⟩ := by
  obtain ⟨r, o, o', hr, ho, ho', hchange⟩ := queueExec_rows e c q t
  rw [hr] at hclaim
  cases hchange with
  | untouched _ _ _ hno => exact absurd hclaim (hno row)
  | claimed queue lockedBy d r₀ hclaimable =>
    obtain ⟨-, rfl⟩ := Prod.mk.inj (Option.some.inj hclaim)
    refine ⟨?_, ?_, ?_⟩
    · exact htasks t r₀ ho (by rw [hclaimable.1]; decide)
    · intro t' ht'
      obtain rfl := Option.some.inj ht'
      exact le_last_of_lookup ho'
    · intro t' row' ht' hrow' id hid
      obtain rfl := Option.some.inj ht'
      obtain rfl := Option.some.inj (ho'.symm.trans hrow')
      exact hid
  | _ => cases hclaim

end

/-! ### Runs -/

/-- The call hits nothing that somebody has in hand or that a task is waiting for. -/
def Clear (J : Codec) (p : HookPool) (c : webhookSig.Call) : Prop :=
  (∀ x ∈ p.threads, x.2.isRet = false → ∀ id ∈ x.1.endpoints, ¬Targets p.shared.2 c id) ∧
    ∀ x ∈ p.shared.1.tasks.rows.entries, x.2.status ≠ .dead →
      ∀ id ∈ endpointsOf J x.2.payload, ¬Targets p.shared.2 c id
  deriving Decidable

/-- A key is revoked, or an endpoint deactivated, only when its partner has nothing on the way. -/
def RevokesClear (J : Codec) (p : HookPool) (i : ℕ) (_ : HookEnv) : Prop :=
  match p.threads[i]? with
  | some (_, .call c _) => Clear J p c
  | _ => True

instance (J : Codec) (p : HookPool) (i : ℕ) (e : HookEnv) : Decidable (RevokesClear J p i e) :=
  match h : p.threads[i]? with
  | some (_, .call c _) => decidable_of_iff (Clear J p c) (by simp [RevokesClear, h])
  | some (_, .ret _) => isTrue (by simp [RevokesClear, h])
  | none => isTrue (by simp [RevokesClear, h])

/-- What holds in every state: tasks and hands are for endpoints in service. -/
structure Sound (J : Codec) (p : HookPool) : Prop where
  allowed : Pool.Obeying (held J) AnyHookAnswer (fun _ => Allowed J) (fun _ _ => True) p
  tasks : TasksAlive J p.shared
  hands : ∀ (i : ℕ) (w : Held) (c : webhookSig.Call) (k : webhookSig.Resp c → HookProg Unit),
    p.threads[i]? = some (w, .call c k) → InHand J p.shared w

theorem inHand_nothing (J : Codec) (s : QueueDB × Hooks) : InHand J s ⟨[], none⟩ :=
  ⟨fun _ h => absurd h not_mem_nil, fun _ h => absurd h (some_ne_none _).symm,
    fun _ _ h => absurd h (some_ne_none _).symm⟩

theorem sound_start (J : Codec) (clock : Time) (hooks : Hooks) (actors : List HookActor) :
    Sound J (hookPool J clock hooks actors) where
  allowed := by
    refine obeying_start fun i q hq => ?_
    rw [List.getElem?_map, map_eq_some_iff] at hq
    obtain ⟨a, -, rfl⟩ := hq
    exact a.allowed _
  tasks t row hrow := by
    have hnone : (empty : Serial TaskRow).lookup t = some row := hrow
    cases hnone
  hands i w c k hi := by
    simp only [hookPool, Pool.start, List.getElem?_map, map_eq_some_iff, Prod.mk.injEq] at hi
    obtain ⟨_, _, rfl, _⟩ := hi
    exact inHand_nothing _ _

section
variable {J : Codec} {p : HookPool} {i : ℕ} {e : HookEnv} {w : Held}

/-- Calls on the partner side leave hands and tasks in service, if they do not hit them. -/
theorem inHand_hook {c : HookCall} (hin : InHand J p.shared w)
    (hclear : ∀ id ∈ w.endpoints, ¬Targets p.shared.2 (.inr c) id) :
    InHand J (p.shared.1, (hookExec e c p.shared.2).2) w where
  alive id hid := hookExec_alive (hin.alive id hid) (hclear id hid)
  issued := hin.issued
  covers := hin.covers

/-- What the caller has in hand after its call. -/
theorem inHand_held {c : webhookSig.Call} (hsound : Sound J p) (hin : InHand J p.shared w)
    (hw : ∀ id ∈ w.endpoints, ¬Targets p.shared.2 c id) :
    InHand J (webhookExec e c p.shared).2 (held J w c (webhookExec e c p.shared).1) := by
  cases c with
  | inl c =>
    have hkeep : InHand J (webhookExec e (.inl c) p.shared).2 w := inHand_queue hin
    rw [held, heldTask]
    split
    · rename_i t row hclaim
      exact inHand_claimed hsound.tasks hclaim
    · split
      · exact inHand_nothing _ _
      · exact hkeep
  | inr c =>
    have hkeep : InHand J (webhookExec e (.inr c) p.shared).2 w := inHand_hook hin hw
    cases c with
    | subscribersFor eventType =>
      by_cases hfails : e.fails (.inr (.subscribersFor eventType)) = true
      · have hexec : webhookExec e (.inr (.subscribersFor eventType)) p.shared = (.error .unavailable, p.shared) := by
          simp [webhookExec, Store.beside, hookExec, hfails]
        rw [hexec]
        exact hin
      · have hexec : webhookExec e (.inr (.subscribersFor eventType)) p.shared =
            (.ok (SubscribersFor e.now eventType p.shared.2), p.shared) := by
          simp [webhookExec, Store.beside, hookExec, hfails]
        rw [hexec]
        refine ⟨fun id hid => ?_, fun t h => absurd h (some_ne_none _).symm,
          fun t row h => absurd h (some_ne_none _).symm⟩
        obtain ⟨ep, hep, rfl⟩ := mem_map.mp hid
        exact subscribers_alive hep
    | _ => exact hkeep

theorem sound_step (hsound : Sound J p) (hclear : RevokesClear J p i e) :
    Sound J (Pool.step webhookExec (held J) p i e) := by
  rcases step_cases p i e with ⟨-, hs⟩ | ⟨w, c, k, hi, hs⟩
  · rw [hs]
    exact hsound
  · have hcall : Clear J p c := by
      unfold RevokesClear at hclear
      rw [hi] at hclear
      exact hclear
    -- what nobody finished has in hand is not hit by the call
    have hmiss : ∀ (j : ℕ) (w' : Held) (c' : webhookSig.Call) (k' : webhookSig.Resp c' → HookProg Unit),
        p.threads[j]? = some (w', .call c' k') → ∀ id ∈ w'.endpoints, ¬Targets p.shared.2 c id := by
      intro j w' c' k' hj
      exact hcall.1 (w', .call c' k') (mem_of_getElem? hj) rfl
    refine ⟨obeying_step hsound.allowed fun _ _ _ _ => trivial, ?_, ?_⟩
    · rw [step_shared hi]
      have hallowed := Pool.Obeying.allowed hsound.allowed hi
      cases c with
      | inl c => exact tasksAlive_queue (hsound.hands i w _ k hi) hsound.tasks hallowed
      | inr c =>
        intro t row hrow hdead id hid
        refine hookExec_alive (hsound.tasks t row hrow hdead id hid) ?_
        exact hcall.2 ⟨t, row⟩ (AList.mem_lookup_iff.mp hrow) hdead id hid
    · intro j w' c' k' hj
      rw [step_shared hi]
      rcases step_thread hi hj with ⟨-, rfl, -⟩ | ⟨-, hj⟩
      · exact inHand_held hsound (hsound.hands i w _ k hi) (hmiss i w _ k hi)
      · have hin := hsound.hands j w' c' k' hj
        cases c with
        | inl c => exact inHand_queue hin
        | inr c => exact inHand_hook hin (hmiss j w' c' k' hj)

/-- Over a run, what is out of service stays so. -/
theorem alive_earlier {sched : List (ℕ × HookEnv)} {id : ℤ} (h : Alive (runHooks J p sched).shared.2 id) :
    Alive p.shared.2 id := by
  by_contra hdead
  refine run_inv (I := fun p : HookPool => ¬Alive p.shared.2 id) ?_ sched p hdead
    (meets_of_forall (fun _ _ _ => trivial) sched p) h
  intro p i e hp _ halive
  rcases step_cases p i e with ⟨-, hs⟩ | ⟨w, c, k, hi, -⟩
  · rw [hs] at halive
    exact hp halive
  · rw [step_shared hi] at halive
    cases c with
    | inl c => exact hp halive
    | inr c => exact hp (hookExec_dead halive)

end

/-- In a run in which no revocation hits what is on the way, a request is made to an endpoint only if, in every state up
    to then, the endpoint was active and its key was not revoked. -/
theorem no_request_after_revocation (J : Codec) (clock : Time) (hooks : Hooks) (actors : List HookActor)
    (sched : List (ℕ × HookEnv))
    (hclear : Pool.Meets webhookExec (held J) (RevokesClear J) (hookPool J clock hooks actors) sched) :
    ∀ (pre : List (ℕ × HookEnv)) (i : ℕ) (e : HookEnv) (w : Held) (payload : TaskPayload) (secret : String) (ts : Time)
      (k : Except SendErr (ℤ × String) → HookProg Unit), pre ++ [(i, e)] <+: sched →
      (runHooks J (hookPool J clock hooks actors) pre).threads[i]? =
        some (w, Prog.call (S := webhookSig) (.inr (.doRequest payload secret ts)) k) →
      ∀ pre', pre' <+: pre → Alive (runHooks J (hookPool J clock hooks actors) pre').shared.2 payload.endpointID := by
  rintro pre i e w payload secret ts k ⟨later, rfl⟩ hi pre' ⟨rest, rfl⟩
  rw [append_assoc] at hclear
  have hsound := run_inv (fun _ _ _ => sound_step) (pre' ++ rest) _ (sound_start J clock hooks actors)
    (meets_append.mp hclear).1
  have hin := hsound.hands i w (.inr (.doRequest payload secret ts)) k hi
  have hallowed := Pool.Obeying.allowed (c := .inr (.doRequest payload secret ts)) hsound.allowed hi
  have hnow := hin.alive payload.endpointID hallowed
  rw [run_append] at hnow
  exact alive_earlier hnow

/-! ### One partner -/

/-- The one task of the example. -/
def receiptPayload : TaskPayload := ⟨1, "https://hooks.example.com/isp", "v1:secret", ⟨1, "payment.received", 7, 0⟩⟩

/-- The two texts of the example. -/
def receiptEventText : String :=
  "\x7b\"event_id\":\"00000000-0000-4000-8000-000000000001\",\"event_type\":\"payment.received\"," ++
    "\"entity_id\":7,\"occurred_at\":\"1970-01-01T00:00:00Z\"\x7d"

def receiptText : String :=
  "\x7b\"endpoint_id\":1,\"url\":\"https://hooks.example.com/isp\",\"secret_encrypted\":\"v1:secret\"," ++
    "\"event\":" ++ receiptEventText ++ "\x7d"

def receiptUnmarshal (bytes : List UInt8) : Except String TaskPayload :=
  if bytes = receiptText.toUTF8.data.toList then .ok receiptPayload else .error "unexpected end of JSON input"

def receiptMarshal (p : TaskPayload) : Except String (List UInt8) :=
  if p = receiptPayload then .ok receiptText.toUTF8.data.toList else .error "unsupported value"

def receiptMarshalEvent (event : Event) : Except String (List UInt8) :=
  if event = receiptPayload.event then .ok receiptEventText.toUTF8.data.toList else .error "unsupported value"

theorem receipt_readable (p : TaskPayload) (bytes : List UInt8) (h : receiptMarshal p = .ok bytes) :
    receiptUnmarshal bytes = .ok p := by
  unfold receiptMarshal at h
  split at h
  · rename_i hp
    obtain rfl := Except.ok.inj h
    rw [hp]
    exact if_pos rfl
  · cases h

/-- Writes the one payload and its event, and no other. -/
def receiptCodec : Codec := ⟨receiptMarshal, receiptUnmarshal, receiptMarshalEvent, receipt_readable⟩

/-- A partner with a key and an endpoint for payments. -/
def onePartner : Hooks where
  keys := empty.add ⟨true, none, none⟩
  endpoints := empty.add ⟨1, "https://hooks.example.com/isp", "v1:secret", ["payment.received"], true⟩
  deliveries := ∅
  lastEvent := 0
  requests := []

theorem shuffleNothing_perm (order : List String) : order.Perm order := List.Perm.refl order

def shuffleNothing : { f : List String → List String // ∀ order, (f order).Perm order } :=
  ⟨fun order => order, shuffleNothing_perm⟩

/-- Nothing fails, and the partner answers with the status. -/
def partnerEnv (status : ℤ) : HookEnv where
  elapsed := 1
  fails _ := false
  locked _ := false
  now := 0
  shuffled := shuffleNothing
  decrypt _ := .ok "secret"
  newRequest _ := .ok ()
  respond _ := .ok (status, "")

def webhookServer : Server := ⟨"radiusd-1", [(QueueWebhooks, 1)], defaultLeaseDuration, none, [TaskTypeWebhook]⟩

/-- A payment is received, a worker delivers, and an operator revokes the key. -/
def partnerDay : HookPool :=
  hookPool receiptCodec 0 onePartner [.emitter "payment.received" 7, .worker webhookServer 1, .revoke 1]

/-- So many calls of one of them. -/
def calls (i n : ℕ) : List (ℕ × HookEnv) := List.replicate n (i, partnerEnv 200)

set_option maxRecDepth 1000 in
/-- The revocation comes after the delivery. -/
theorem delivered_then_revoked :
    Alive (runHooks receiptCodec partnerDay (calls 0 5 ++ calls 1 5)).shared.2 1 :=
  no_request_after_revocation receiptCodec 0 onePartner [.emitter "payment.received" 7, .worker webhookServer 1, .revoke 1]
    (calls 0 5 ++ calls 1 8 ++ calls 2 1) (by decide +kernel) (calls 0 5 ++ calls 1 5) 1 (partnerEnv 200)
    ⟨[1], some 1⟩ receiptPayload "secret" 0 _ ⟨calls 1 2 ++ calls 2 1, rfl⟩ rfl _ prefix_rfl

/-- The key is revoked while the task waits in the queue: the endpoint is out of service, nothing has been sent, and then
    the request goes out. -/
theorem queued_then_revoked :
    ¬Alive (runHooks receiptCodec partnerDay (calls 0 5 ++ calls 2 1)).shared.2 1 ∧
      (runHooks receiptCodec partnerDay (calls 0 5 ++ calls 2 1)).shared.2.requests = [] ∧
      (runHooks receiptCodec partnerDay (calls 0 5 ++ calls 2 1 ++ calls 1 6)).shared.2.requests = [receiptPayload] := by
  decide +kernel

end IspBss.Partner
