import IspBss.Props.WebhookRevocation
import IspBss.Lib.Runs

/-! How often is a webhook tried?

    Two counters are meant to end a delivery: the handler abandons it when the queue's count of
    retries reaches seven, and the queue gives up when it reaches `MaxRetry`, which is set to
    `MaxAttempts`. A count that starts at 0 allows nine runs, and the handler that abandons a
    delivery returns an ordinary error. So the queue runs it once more, after "abandoned", and
    whatever that request brings is written over the row. With the eighth attempt out of the way, by
    a delivery or a refusal, every count is right.

        retry_count   0    1    …    6    7                     8
        row        pending pending  pending abandoned ─retry─▶ abandoned | delivered -/

namespace IspBss.Partner

open Lib Jobqueue Prog List Option Run Except PartnerStore

/-! ### Rounds -/

/-- What happens to the webhooks, one thing after another. -/
inductive HookStep where
  | emit (eventType : String) (entityID : ℤ) (e : HookEnv)
  | round (srv : Server) (e : HookEnv)
  | reap (e : HookEnv)
  | sweep (e : HookEnv)

def HookStep.prog (J : Codec) : HookStep → HookProg Unit
  | emit eventType entityID _ => Emit J eventType entityID
  | round srv _ => webhookRound J srv
  | reap _ => (sql .reap).void.left
  | sweep _ => (sql .sweep).void.left

def HookStep.env : HookStep → HookEnv
  | emit _ _ e | round _ e | reap e | sweep e => e

def hookStep (J : Codec) (s : QueueDB × Hooks) (x : HookStep) : QueueDB × Hooks :=
  (Prog.run webhookExec x.env (x.prog J) s).2

/-- Keys and endpoints, and nothing emitted yet. -/
def hooksStart (clock : Time) (keys : Serial APIKey) (endpoints : Serial WebhookEndpoint) :
    QueueDB × Hooks :=
  (.empty clock, ⟨keys, endpoints, ∅, 0, []⟩)

/-- The requests made for one delivery. -/
def Hooks.attempts (h : Hooks) (key : ℤ × ℕ) : ℕ := h.requests.countP fun p => p.key = key

/-- The delivery is over, as its row says. -/
def Hooks.Over (h : Hooks) (key : ℤ × ℕ) : Prop :=
  ∃ d, h.deliveries.lookup key = some d ∧ (d.status = .delivered ∨ d.status = .abandoned)

/-- An attempt that is worth another one: the request cannot be built, or does not come back with a
    2xx. -/
def FailsPlainly (e : HookEnv) (p : TaskPayload) : Prop :=
  (∃ text, e.newRequest p.url = .error text) ∨ (sentOf (e.respond p)).outcome = .failed

/-! ### One attempt -/

/-- The state after the request, which may not have been made. -/
def Requested (p : TaskPayload) (h h₁ : Hooks) : Prop :=
  h₁ = h ∨ h₁ = { h with requests := h.requests ++ [p] }

/-- One attempt at a delivery, and nothing of the others. -/
structure Tried (key : ℤ × ℕ) (h h' : Hooks) : Prop where
  events : h'.lastEvent = h.lastEvent
  attempts : h'.attempts key ≤ h.attempts key + 1
  others : ∀ key' ≠ key, h'.attempts key' = h.attempts key' ∧
    h'.deliveries.lookup key' = h.deliveries.lookup key'

/-- And the row of the delivery has the status, or the write has failed. -/
structure Written (p : TaskPayload) (status : DeliveryStatus) (h h' : Hooks) :
    Prop extends Tried p.key h h' where
  row : h'.deliveries.lookup p.key = h.deliveries.lookup p.key ∨
    ∃ d, h'.deliveries.lookup p.key = some d ∧ d.status = status

/-- The end of an attempt at `p`: a row is written, and the queue is told to try again only after a
    plain failure, with the row pending unless the attempts are used up. -/
def Settled (e : HookEnv) (p : TaskPayload) (attempt : ℤ) (h h' : Hooks) (err : Option TaskErr) :
    Prop :=
  ∃ status, Written p status h h' ∧ ∀ err' ∈ err, err'.skipRetry = false →
    FailsPlainly e p ∧ (attempt + 1 < MaxAttempts → status = .pending)

section
variable {e : HookEnv} {q : QueueDB} {h h₁ : Hooks} {p : TaskPayload} {attempt : ℤ}

theorem Requested.tried (hreq : Requested p h h₁) : Tried p.key h h₁ := by
  rcases hreq with rfl | rfl
  · exact ⟨rfl, Nat.le_succ _, fun _ _ => ⟨rfl, rfl⟩⟩
  · refine ⟨rfl, ?_, fun key hkey => ⟨?_, rfl⟩⟩
    · rw [Hooks.attempts, countP_snoc]
      exact Nat.add_le_add_left (Bool.toNat_le _) _
    · rw [Hooks.attempts, countP_snoc, decide_eq_false hkey.symm]
      rfl

theorem Requested.written (hreq : Requested p h h₁) (status : DeliveryStatus) :
    Written p status h h₁ where
  toTried := hreq.tried
  row := .inl (by rcases hreq with rfl | rfl <;> rfl)

theorem written_record (hreq : Requested p h h₁) (a : Attempt) :
    Written p a.status h (hookExec e (.recordDeliveryAttempt p.endpointID p.event a) h₁).2 := by
  have ht := hreq.tried
  unfold hookExec
  dsimp only
  split
  · exact hreq.written a.status
  · refine ⟨⟨ht.events, ht.attempts, fun key hkey => ?_⟩, .inr ⟨_, AList.lookup_insert _, rfl⟩⟩
    exact (ht.others key hkey).imp_right (AList.lookup_insert_ne hkey).trans

/-- Without an error, or with one that forbids a retry, nothing more is to be shown. -/
theorem Written.settled {status : DeliveryStatus} {h' : Hooks} {err : Option TaskErr}
    (hw : Written p status h h') (herr : ∀ err' ∈ err, err'.skipRetry = true) :
    Settled e p attempt h h' err := by
  refine ⟨status, hw, fun err' hmem hskip => ?_⟩
  rw [herr err' hmem] at hskip
  cases hskip

theorem run_settle (q : QueueDB) (attempt : ℤ) {r : Sent} (hreq : Requested p h h₁)
    (hfailed : r.err.isSome → r.outcome ≠ .blocked → FailsPlainly e p) :
    ∃ h' err, run webhookExec e (settle p attempt r) (q, h₁) = (err, q, h') ∧
      Settled e p attempt h h' err := by
  unfold settle
  cases herr : r.err with
  | none => exact ⟨_, _, rfl, (written_record hreq _).settled nofun⟩
  | some sendErr =>
    rw [herr] at hfailed
    dsimp only
    split
    · refine ⟨_, _, rfl, (written_record hreq _).settled fun err' h => ?_⟩
      obtain rfl := some.inj h
      rfl
    · rename_i hblocked
      split
      · rename_i hmax
        exact ⟨_, _, rfl, _, written_record hreq _, fun _ _ _ =>
          ⟨hfailed rfl hblocked, fun hlt => absurd hmax (not_le.mpr hlt)⟩⟩
      · exact ⟨_, _, rfl, _, written_record hreq _, fun _ _ _ =>
          ⟨hfailed rfl hblocked, fun _ => rfl⟩⟩

theorem sentOf_failed {response : Except SendErr (ℤ × String)} (herr : (sentOf response).err.isSome)
    (hblocked : (sentOf response).outcome ≠ .blocked) : (sentOf response).outcome = .failed := by
  cases response with
  | error err =>
    cases err with
    | blocked text => exact absurd rfl hblocked
    | transport text => rfl
  | ok x =>
    unfold sentOf at herr ⊢
    dsimp only at herr ⊢
    split
    · rename_i hok
      rw [if_pos hok] at herr
      cases herr
    · rfl

theorem run_decrypt (ciphertext : String) :
    run webhookExec e (hook (.decrypt ciphertext)) (q, h) = (e.decrypt ciphertext, q, h) := rfl

/-- One attempt: a request, unless it cannot be built. -/
theorem run_send (e : HookEnv) (q : QueueDB) (h : Hooks) (p : TaskPayload) (secret : String) :
    ∃ h₁ r, run webhookExec e (send p secret) (q, h) = (r, q, h₁) ∧
      Requested p h h₁ ∧ (r.err.isSome → r.outcome ≠ .blocked → FailsPlainly e p) := by
  unfold send
  rw [run_bind]
  have hnew : run webhookExec e (hook (.newRequest p.url)) (q, h) = (e.newRequest p.url, q, h) :=
    rfl
  rw [hnew]
  cases hurl : e.newRequest p.url with
  | error text => exact ⟨_, _, rfl, .inl rfl, fun _ _ => .inl ⟨text, hurl⟩⟩
  | ok u => exact ⟨_, _, rfl, .inr rfl, fun herr hblocked => .inr (sentOf_failed herr hblocked)⟩

/-- The handler: perhaps one request, and what follows from it. The queue's table is left alone. -/
theorem run_processTask (e : HookEnv) (q : QueueDB) (h : Hooks) {J : Codec} (ct : ClaimedTask)
    (hp : J.unmarshal ct.payload = .ok p) :
    ∃ h' err, run webhookExec e (ProcessTask J ct) (q, h) = (err, q, h') ∧
      Settled e p ct.retryCount h h' err := by
  have hskip : ∀ (text : String), ∀ err' ∈ some (skipRetry text), err'.skipRetry = true := by
    intro text err' h
    obtain rfl := some.inj h
    rfl
  unfold ProcessTask
  rw [hp]
  rw [run_bind, run_decrypt]
  cases e.decrypt p.secretEncrypted with
  | error text => exact ⟨_, _, rfl, (written_record (.inl rfl) _).settled (hskip _)⟩
  | ok secret =>
    cases J.marshalEvent p.event with
    | error text => exact ⟨h, _, rfl, (Requested.written (.inl rfl) .pending).settled (hskip _)⟩
    | ok body =>
      obtain ⟨h₁, r, hsend, hreq, hfailed⟩ := run_send e q h p secret
      obtain ⟨h', err, hsettle, hsettled⟩ := run_settle q ct.retryCount hreq hfailed
      refine ⟨h', err, ?_, hsettled⟩
      rw [run_bind, hsend, hsettle]

end

/-! ### The queue around it -/

/-- The store of the queue's half. -/
abbrev queueHalf : Store queueSig HookEnv QueueDB := fun e c => queueExec (e.queueEnv c) c

theorem run_queue {α : Type} (e : HookEnv) (prog : QueueProg α) (q : QueueDB) (h : Hooks) :
    run webhookExec e prog.left (q, h) =
      ((run queueHalf e prog q).1, (run queueHalf e prog q).2, h) :=
  run_left queueHalf hookExec e prog (q, h)

/-- A claim takes a task that was pending, and changes no other. -/
theorem claim_change {e : QueueEnv} {queue lockedBy : String} {d : ℕ} {q : QueueDB}
    {x : QueueCall.Resp (.stmt (.claim queue lockedBy d)) × QueueDB}
    (hx : queueExec e (.stmt (.claim queue lockedBy d)) q = x) (t : ℤ) :
    (x.2.tasks.lookup t = q.tasks.lookup t ∧
      ∀ row, claimedBy (.stmt (.claim queue lockedBy d)) x.1 ≠ some (t, row)) ∨
    ∃ row lease, q.tasks.lookup t = some row ∧ row.status = .pending ∧
      claimedBy (.stmt (.claim queue lockedBy d)) x.1 = some (t, row.claimed lockedBy lease) ∧
      x.2.tasks.lookup t = some (row.claimed lockedBy lease) := by
  obtain ⟨r, o, o', hr, ho, ho', hchange⟩ := queueExec_rows e (.stmt (.claim queue lockedBy d)) q t
  rw [← hx, hr, ho, ho']
  cases hchange with
  | untouched _ _ _ hno _ => exact .inl ⟨rfl, hno⟩
  | claimed _ _ _ row hclaimable => exact .inr ⟨row, _, rfl, hclaimable.1, rfl, rfl⟩

/-- The table after a search that found the task `t`. -/
structure Taken (q q' : QueueDB) (t : ℤ) (row row' : TaskRow) : Prop where
  before : q.tasks.lookup t = some row
  pending : row.status = .pending
  claimed : ∃ lockedBy lease, row' = row.claimed lockedBy lease
  after : q'.tasks.lookup t = some row'
  others : ∀ t' ≠ t, q'.tasks.lookup t' = q.tasks.lookup t'

/-- A search for a task claims one, or changes no row. -/
theorem run_claimFrom (e : HookEnv) (srv : Server) (order : List String) : ∀ q : QueueDB,
    ((run queueHalf e (srv.claimFrom order) q).1 = none ∧
      ∀ t, (run queueHalf e (srv.claimFrom order) q).2.tasks.lookup t = q.tasks.lookup t) ∨
    ∃ t row row', (run queueHalf e (srv.claimFrom order) q).1 = some (row'.claimedTask t) ∧
      Taken q (run queueHalf e (srv.claimFrom order) q).2 t row row' := by
  induction order with
  | nil =>
    intro q
    exact .inl ⟨rfl, fun _ => rfl⟩
  | cons queue rest ih =>
    intro q
    rw [Server.claimFrom, sql_bind, Prog.run]
    generalize hx : queueHalf e (.stmt (.claim queue srv.id srv.leaseDuration)) q = x
    have hchange := claim_change hx
    obtain ⟨r, q'⟩ := x
    -- when nothing is claimed every row is as it was
    have hsame : claimedBy (.stmt (.claim queue srv.id srv.leaseDuration)) r = none →
        ∀ t, q'.tasks.lookup t = q.tasks.lookup t := by
      intro hnone t
      rcases hchange t with ⟨hsame, -⟩ | ⟨row, lease, -, -, hclaim, -⟩
      · exact hsame
      · rw [hnone] at hclaim
        cases hclaim
    cases r with
    | error err => exact .inl ⟨rfl, hsame rfl⟩
    | ok claimed =>
      cases claimed with
      | none =>
        have hq' := hsame rfl
        rcases ih q' with ⟨hnone, hrest⟩ | ⟨t, row, row', hsome, htaken⟩
        · exact .inl ⟨hnone, fun t => (hrest t).trans (hq' t)⟩
        · refine .inr ⟨t, row, row', hsome, ?_⟩
          exact ⟨(hq' t).symm.trans htaken.before, htaken.pending, htaken.claimed, htaken.after,
            fun t' ht' => (htaken.others t' ht').trans (hq' t')⟩
      | some y =>
        obtain ⟨t, row'⟩ := y
        rcases hchange t with ⟨-, hno⟩ | ⟨row, lease, hbefore, hpending, hclaim, hafter⟩
        · exact absurd rfl (hno row')
        · obtain ⟨-, rfl⟩ := Prod.mk.inj (some.inj hclaim)
          refine .inr ⟨t, row, _, rfl, hbefore, hpending, ⟨_, _, rfl⟩, hafter, fun t' ht' => ?_⟩
          rcases hchange t' with ⟨hsame', -⟩ | ⟨row₂, lease₂, -, -, hclaim₂, -⟩
          · exact hsame'
          · exact absurd (Prod.mk.inj (some.inj hclaim₂)).1.symm ht'

/-- The statements that record an outcome do not fail. -/
def OutcomesWritten (e : HookEnv) : Prop :=
  ∀ op : QueueOp, (QueueCall.stmt op).outcomeOf.isSome → e.fails (.inl (.stmt op)) = false

/-- What becomes of the row of a task that was run: it is gone, dead, or waits for a retry. -/
def Finished (row : TaskRow) (err : Option TaskErr) (skip : Bool) (o : Option TaskRow) : Prop :=
  ∀ row' ∈ o, row'.payload = row.payload ∧ row'.maxRetry = row.maxRetry ∧
    row'.retentionUntil = row.retentionUntil ∧
    (row'.status = .dead ∨ row'.status = .pending ∧ err.isSome ∧ skip = false ∧
      (row'.retryCount : ℤ) = row.retryCount + 1)

theorem run_outcome {e : HookEnv} (hok : OutcomesWritten e) {op : QueueOp}
    (hop : (QueueCall.stmt op).outcomeOf.isSome) (q : QueueDB) :
    run queueHalf e (sql op).void q = ((), (op.run e.locked (q.advance e.elapsed)).2) := by
  have hexec : queueHalf e (.stmt op) q = op.run e.locked (q.advance e.elapsed) := by
    have hfails : (e.queueEnv (.stmt op)).fails = false := hok op hop
    simp only [queueExec, hfails, Bool.false_eq_true, if_false]
    rfl
  exact congrArg (fun x => ((), x.2)) hexec

theorem run_finish {e : HookEnv} (hok : OutcomesWritten e) (srv : Server) (q : QueueDB) {t : ℤ}
    {row : TaskRow} (hrow : q.tasks.lookup t = some row) (hretention : row.retentionUntil = none)
    (hcount : (row.retryCount : ℤ) < MaxAttempts) (err : Option TaskErr) (skip : Bool) :
    Finished row err skip ((run queueHalf e
      (srv.finish (row.claimedTask t) err skip) q).2.tasks.lookup t) ∧
      ∀ t' ≠ t, (run queueHalf e (srv.finish (row.claimedTask t) err skip) q).2.tasks.lookup t' =
        q.tasks.lookup t' := by
  have hadvance : ∀ t', (q.advance e.elapsed).tasks.lookup t' = q.tasks.lookup t' := fun _ => rfl
  have hid : (row.claimedTask t).id = t := rfl
  unfold Server.finish
  cases err with
  | none =>
    have hretained : (row.claimedTask t).retained = false := by
      rw [TaskRow.claimedTask, hretention]
      rfl
    rw [hretained, if_neg Bool.false_ne_true, run_outcome hok rfl]
    simp only [QueueOp.run, Serial.lookup_deleteWhere, hadvance, hid]
    refine ⟨?_, fun t' ht' => ?_⟩
    · rw [hrow]
      exact fun _ h => by cases h
    · cases q.tasks.lookup t' <;> simp [ht']
  | some err =>
    dsimp only
    split
    · rw [run_outcome hok rfl]
      simp only [QueueOp.run, lookup_updateID, hadvance, hid]
      refine ⟨?_, fun t' ht' => if_neg ht'⟩
      rw [hrow]
      rintro row' ⟨⟩
      exact ⟨rfl, rfl, rfl, .inl rfl⟩
    · rename_i hleft
      rw [not_or] at hleft
      -- the count is far from the end of its column
      have hfits : -2 ^ 15 ≤ (row.retryCount : ℤ) + 1 ∧ (row.retryCount : ℤ) + 1 < 2 ^ 15 := by
        have hlow := row.retryCount.2.1
        rw [MaxAttempts] at hcount
        omega
      have hsmall : smallInt? ((row.retryCount : ℤ) + 1) = some ⟨_, hfits⟩ := dif_pos hfits
      rw [run_outcome hok rfl]
      simp only [QueueOp.run, retryTask, hid, hadvance, hrow, hsmall, lookup_updateID]
      refine ⟨?_, fun t' ht' => if_neg ht'⟩
      rintro row' ⟨⟩
      exact ⟨rfl, rfl, rfl, .inr ⟨rfl, rfl, Bool.eq_false_iff.mpr hleft.1, rfl⟩⟩

/-! ### Counting -/

/-- A task that waits: its attempts so far are counted, there is one left, and its delivery is not
    over. -/
structure Waits (h : Hooks) (row : TaskRow) (p : TaskPayload) : Prop where
  pending : row.status = .pending
  room : (row.retryCount : ℤ) < MaxAttempts
  counted : (h.attempts p.key : ℤ) ≤ row.retryCount
  notOver : ¬h.Over p.key

/-- The task of a row: what was emitted, for one delivery, waiting or dead. -/
structure TaskOf (J : Codec) (h : Hooks) (row : TaskRow) (p : TaskPayload) : Prop where
  payload : J.unmarshal row.payload = .ok p
  emitted : p.event.eventID ≤ h.lastEvent
  maxRetry : (row.maxRetry : ℤ) = MaxAttempts
  retention : row.retentionUntil = none
  state : row.status = .dead ∨ Waits h row p

variable {p : TaskPayload} {J : Codec} {h h₁ : Hooks} {s : QueueDB × Hooks}

/-- A pending task waits. -/
theorem TaskOf.waits {row : TaskRow} (htask : TaskOf J h row p)
    (hpending : row.status = .pending) : Waits h row p := by
  rcases htask.state with hdead | hwaits
  · rw [hpending] at hdead
    cases hdead
  · exact hwaits

/-- The task is one for the delivery. -/
def TaskFor (J : Codec) (q : QueueDB) (t : ℤ) (key : ℤ × ℕ) : Prop :=
  ∃ row p, q.tasks.lookup t = some row ∧ J.unmarshal row.payload = .ok p ∧ p.key = key

/-- What holds between the steps. -/
structure Counted (J : Codec) (s : QueueDB × Hooks) : Prop where
  rows : ∀ t row, s.1.tasks.lookup t = some row → ∃ p, TaskOf J s.2 row p
  distinct : ∀ t t' key, TaskFor J s.1 t key → TaskFor J s.1 t' key → t = t'
  fresh : ∀ key : ℤ × ℕ, s.2.lastEvent < key.2 → s.2.attempts key = 0 ∧
    s.2.deliveries.lookup key = none
  bounded : ∀ key, (s.2.attempts key : ℤ) ≤ MaxAttempts

/-- The condition: outcomes are written, and the eighth attempt is not a plain failure. -/
def EighthCounts (J : Codec) (s : QueueDB × Hooks) : HookStep → Prop
  | .round _ e =>
    OutcomesWritten e ∧ ∀ t row p, s.1.tasks.lookup t = some row → row.status = .pending →
      J.unmarshal row.payload = .ok p → (row.retryCount : ℤ) + 1 = MaxAttempts → ¬FailsPlainly e p
  | _ => True

/-- What is kept of a delivery that is over: its requests and its row. -/
def Unchanged (s s' : QueueDB × Hooks) (key : ℤ × ℕ) : Prop :=
  s'.2.attempts key = s.2.attempts key ∧ s'.2.deliveries.lookup key = s.2.deliveries.lookup key

section
variable {J : Codec} {e : HookEnv} {srv : Server} {s : QueueDB × Hooks} {t : ℤ} {row row' : TaskRow}
  {p : TaskPayload}

variable {h : Hooks} {err : Option TaskErr} {o : Option TaskRow} {h' : Hooks} {lockedBy : String}
  {lease : Time}

/-- After the outcome the task is gone, dead or waits for the next attempt, which there is. -/
theorem finished_task (htask : TaskOf J h row p)
    (hpending : row.status = .pending)
    (hcounts : (row.retryCount : ℤ) + 1 = MaxAttempts → ¬FailsPlainly e p)
    (hsettled : Settled e p row.retryCount h h' err)
    (hfin : Finished row err (err.any TaskErr.skipRetry) o) :
    ∀ row' ∈ o, TaskOf J h' row' p := by
  intro row' hmem
  obtain ⟨status, hw, hagain⟩ := hsettled
  obtain ⟨hpayload, hmax, hretention, hstate⟩ := hfin row' hmem
  have hwaits := htask.waits hpending
  refine ⟨hpayload ▸ htask.payload, hw.events ▸ htask.emitted, hmax ▸ htask.maxRetry,
    hretention.trans htask.retention, hstate.imp_right ?_⟩
  rintro ⟨hstatus, herr, hskip, hcount⟩
  obtain ⟨err', rfl⟩ := isSome_iff_exists.mp herr
  obtain ⟨hplain, hpend⟩ := hagain err' rfl hskip
  have hroom : (row.retryCount : ℤ) + 1 < MaxAttempts := by
    have hlt := hwaits.room
    have hne : (row.retryCount : ℤ) + 1 ≠ MaxAttempts := fun heq => hcounts heq hplain
    omega
  refine ⟨hstatus, hcount ▸ hroom, ?_, ?_⟩
  · have hcounted := hwaits.counted
    have hattempts := hw.attempts
    omega
  · rintro ⟨d, hd, hover⟩
    rcases hw.row with hsame | ⟨d', hd', hstatus'⟩
    · exact hwaits.notOver ⟨d, hsame.symm.trans hd, hover⟩
    · obtain rfl := some.inj (hd'.symm.trans hd)
      rw [hstatus', hpend hroom] at hover
      rcases hover with h | h <;> cases h

theorem run_runWebhook (srv : Server) {q : QueueDB} (hok : OutcomesWritten e)
    (htask : TaskOf J h row p) (hwaits : Waits h row p)
    (hrow : q.tasks.lookup t = some (row.claimed lockedBy lease)) :
    ∃ q' h' err, run webhookExec e (runWebhook J srv ((row.claimed lockedBy lease).claimedTask t))
      (q, h) =
        ((), q', h') ∧ Settled e p row.retryCount h h' err ∧
      Finished row err (err.any TaskErr.skipRetry) (q'.tasks.lookup t) ∧
      ∀ t' ≠ t, q'.tasks.lookup t' = q.tasks.lookup t' := by
  unfold runWebhook
  split
  · obtain ⟨h', err, hrun, hsettled⟩ :=
      run_processTask e q h ((row.claimed lockedBy lease).claimedTask t) htask.payload
    obtain ⟨hfin, hothers⟩ :=
      run_finish hok srv q hrow htask.retention hwaits.room err (err.any TaskErr.skipRetry)
    refine ⟨_, h', err, ?_, hsettled, hfin, hothers⟩
    rw [run_bind, hrun, run_queue]
  · -- without a retry it does not matter which error it was
    obtain ⟨hfin, hothers⟩ := run_finish hok srv q hrow htask.retention hwaits.room
      (some ⟨"jobqueue: no handler registered for " ++
        ((row.claimed lockedBy lease).claimedTask t).taskType.quote, false⟩)
      true
    refine ⟨_, h, none, run_queue e _ q h, (Requested.written (.inl rfl) .pending).settled nofun,
      ?_, hothers⟩
    intro row' hmem
    obtain ⟨hpayload, hmax, hretention, hdead | ⟨-, -, hskip, -⟩⟩ := hfin row' hmem
    · exact ⟨hpayload, hmax, hretention, .inl hdead⟩
    · cases hskip

/-- What a row is does not depend on other deliveries. -/
theorem TaskOf.frame (htask : TaskOf J h row p) (hevents : h.lastEvent ≤ h'.lastEvent)
    (hattempts : h'.attempts p.key = h.attempts p.key)
    (hdelivery : h'.deliveries.lookup p.key = h.deliveries.lookup p.key) : TaskOf J h' row p where
  payload := htask.payload
  emitted := htask.emitted.trans hevents
  maxRetry := htask.maxRetry
  retention := htask.retention
  state := by
    rcases htask.state with hdead | hwaits
    · exact .inl hdead
    · refine .inr ⟨hwaits.pending, hwaits.room, hattempts ▸ hwaits.counted, fun hover =>
        hwaits.notOver ?_⟩
      rwa [Hooks.Over, hdelivery] at hover

/-- The key of a task is read off its payload. -/
theorem TaskOf.unique {p' : TaskPayload} (htask : TaskOf J h row p)
    (hp' : J.unmarshal row.payload = .ok p') :
    p' = p := ok.inj (hp'.symm.trans htask.payload)

variable {s' : QueueDB × Hooks} {r : TaskRow}

/-- One row may have changed, after an attempt at its delivery and at no other. -/
theorem Counted.change (hs : Counted J s) (htried : Tried p.key s.2 s'.2)
    (hemitted : p.event.eventID ≤ s.2.lastEvent) (hbound : (s'.2.attempts p.key : ℤ) ≤ MaxAttempts)
    (howner : ∀ t', TaskFor J s.1 t' p.key → t' = t)
    (hmine : ∀ r, s'.1.tasks.lookup t = some r → TaskOf J s'.2 r p)
    (hothers : ∀ t' ≠ t, s'.1.tasks.lookup t' = s.1.tasks.lookup t') : Counted J s' where
  rows t' r hr := by
    by_cases ht : t' = t
    · subst ht
      exact ⟨p, hmine r hr⟩
    · -- the task of another row is another delivery
      rw [hothers t' ht] at hr
      obtain ⟨p', htask⟩ := hs.rows t' r hr
      have hkey : p'.key ≠ p.key := fun h => ht (howner t' ⟨r, p', hr, htask.payload, h⟩)
      obtain ⟨hattempts, hdelivery⟩ := htried.others _ hkey
      exact ⟨p', htask.frame htried.events.ge hattempts hdelivery⟩
  distinct t₁ t₂ key h₁ h₂ := by
    -- if it is there, the task of `p` is its row, as it was before
    have hcases : ∀ t' key, TaskFor J s'.1 t' key → t' = t ∧ key = p.key ∨ t' ≠ t ∧
        TaskFor J s.1 t' key := by
      rintro t' key ⟨r, p', hr, hp', rfl⟩
      by_cases ht : t' = t
      · subst ht
        exact .inl ⟨rfl, congrArg TaskPayload.key ((hmine r hr).unique hp')⟩
      · exact .inr ⟨ht, r, p', (hothers t' ht).symm.trans hr, hp', rfl⟩
    rcases hcases t₁ key h₁ with ⟨rfl, rfl⟩ | ⟨hne₁, h₁⟩ <;> rcases hcases t₂ _ h₂
      with ⟨rfl, hkey⟩ | ⟨hne₂, h₂⟩
    · rfl
    · exact absurd (howner _ h₂) hne₂
    · exact absurd (howner _ (hkey ▸ h₁)) hne₁
    · exact hs.distinct t₁ t₂ key h₁ h₂
  fresh key hkey := by
    rw [htried.events] at hkey
    have hne : key ≠ p.key := by
      rintro rfl
      exact absurd hemitted (not_le.mpr hkey)
    rw [(htried.others key hne).1, (htried.others key hne).2]
    exact hs.fresh key hkey
  bounded key := by
    by_cases hkey : key = p.key
    · rw [hkey]
      exact hbound
    · rw [(htried.others key hkey).1]
      exact hs.bounded key

/-- Where no row has changed, everything is as it was. -/
theorem counted_same (hs : Counted J s)
    (htasks : ∀ t r, s'.1.tasks.lookup t = some r → s.1.tasks.lookup t = some r)
    (hhooks : s'.2 = s.2) : Counted J s' where
  rows t' r hr := by
    rw [hhooks]
    exact hs.rows t' r (htasks t' r hr)
  distinct t₁ t₂ key h₁ h₂ := by
    obtain ⟨r₁, p₁, hr₁, hp₁⟩ := h₁
    obtain ⟨r₂, p₂, hr₂, hp₂⟩ := h₂
    exact hs.distinct t₁ t₂ key ⟨r₁, p₁, htasks t₁ r₁ hr₁, hp₁⟩ ⟨r₂, p₂, htasks t₂ r₂ hr₂, hp₂⟩
  fresh := by
    rw [hhooks]
    exact hs.fresh
  bounded := by
    rw [hhooks]
    exact hs.bounded

/-- A round: nothing was due, or one task was run, for a delivery that was not over. -/
theorem round_counted (hs : Counted J s) (hfit : EighthCounts J s (.round srv e)) :
    Counted J (hookStep J s (.round srv e)) ∧ ∀ key, s.2.Over key →
      Unchanged s (hookStep J s (.round srv e)) key := by
  obtain ⟨q, h⟩ := s
  have hstep : hookStep J (q, h) (.round srv e) =
      (run webhookExec e (webhookRound J srv) (q, h)).2 := rfl
  rw [hstep]
  unfold webhookRound
  rw [run_bind, run_queue]
  -- the shuffle changes no row
  have hnext : run queueHalf e srv.claimNext q = run queueHalf e
      (srv.claimFrom (e.shuffled.1 (srv.queues.flatMap fun x => replicate x.2 x.1)))
        (q.advance e.elapsed) := rfl
  rw [hnext]
  generalize e.shuffled.1 (srv.queues.flatMap fun x => replicate x.2 x.1) = order
  rcases run_claimFrom e srv order (q.advance e.elapsed) with ⟨hnone, hsame⟩ |
    ⟨t, row, row', hsome, htaken⟩
  · rw [hnone]
    exact ⟨counted_same hs (fun t r hr => (hsame t).symm.trans hr) rfl, fun _ _ => ⟨rfl, rfl⟩⟩
  · rw [hsome]
    obtain ⟨lockedBy, lease, rfl⟩ := htaken.claimed
    have hbefore : q.tasks.lookup t = some row := htaken.before
    obtain ⟨p, htask⟩ := hs.rows t row hbefore
    have hwaits := htask.waits htaken.pending
    obtain ⟨q', h', err, hrun, hsettled, hfin, hothers⟩ :=
      run_runWebhook srv hfit.1 htask hwaits htaken.after
    have hafter := finished_task htask htaken.pending
        (hfit.2 t row p hbefore htaken.pending htask.payload) hsettled hfin
    obtain ⟨status, hw, -⟩ := hsettled
    rw [hrun]
    refine ⟨hs.change hw.toTried htask.emitted ?_ ?_ hafter fun t' ht' => ?_, fun key hover =>
      hw.others key ?_⟩
    · have hattempts := hw.attempts
      have hcounted := hwaits.counted
      have hroom := hwaits.room
      dsimp only
      omega
    · exact fun t' h => hs.distinct t' t _ h ⟨row, p, hbefore, htask.payload, rfl⟩
    · exact (hothers t' ht').trans (htaken.others t' ht')
    · rintro rfl
      exact hwaits.notOver hover

/-- Between the rounds no task is being processed. -/
theorem TaskOf.not_processing (htask : TaskOf J h row p) : row.status ≠ .processing := by
  intro hprocessing
  rcases htask.state with hdead | hwaits
  · rw [hprocessing] at hdead
    cases hdead
  · have hpending := hwaits.pending
    rw [hprocessing] at hpending
    cases hpending

/-- So the reaper finds nothing. -/
theorem reap_same (hs : Counted J s)
    (hr : (hookStep J s (.reap e)).1.tasks.lookup t = some r) : s.1.tasks.lookup t = some r := by
  obtain ⟨_, _, _, -, ho, ho', hchange⟩ :=
    queueExec_rows (e.queueEnv (.stmt .reap)) (.stmt .reap) s.1 t
  cases hchange with
  | untouched => exact ho.trans (ho'.symm.trans hr)
  | reaped r₀ hexpired =>
    obtain ⟨p, htask⟩ := hs.rows t r₀ ho
    exact absurd hexpired.1 htask.not_processing

theorem sweep_same (hr : (hookStep J s (.sweep e)).1.tasks.lookup t = some r) :
    s.1.tasks.lookup t = some r := by
  obtain ⟨_, _, _, -, ho, ho', hchange⟩ :=
    queueExec_rows (e.queueEnv (.stmt .sweep)) (.stmt .sweep) s.1 t
  cases hchange with
  | untouched => exact ho.trans (ho'.symm.trans hr)
  | swept => cases ho'.symm.trans hr

end

/-! ### Emitting -/

/-- A task that was just queued for the payload. -/
structure Queued (J : Codec) (q q' : QueueDB) (p : TaskPayload) (t : ℤ) (row : TaskRow) : Prop where
  after : q'.tasks.lookup t = some row
  others : ∀ t' ≠ t, q'.tasks.lookup t' = q.tasks.lookup t'
  payload : J.unmarshal row.payload = .ok p
  pending : row.status = .pending
  untried : (row.retryCount : ℤ) = 0
  maxRetry : (row.maxRetry : ℤ) = MaxAttempts
  retention : row.retentionUntil = none

section
variable {J : Codec} {e : HookEnv} {q : QueueDB} {h : Hooks} {q' : QueueDB} {t : ℤ} {row : TaskRow}

/-- An INSERT adds a row under an id that was not in use, or changes none. -/
theorem insert_change (e : QueueEnv) (n : NewTask) (q : QueueDB) :
    (∀ t, (queueExec e (.stmt (.insert n)) q).2.tasks.lookup t = q.tasks.lookup t) ∨
    ∃ t now m, (m : SmallInt).1 = n.maxRetry ∧
      (queueExec e (.stmt (.insert n)) q).2.tasks.lookup t = some (n.row now m) ∧
      ∀ t' ≠ t, (queueExec e (.stmt (.insert n)) q).2.tasks.lookup t' = q.tasks.lookup t' := by
  simp only [queueExec, QueueOp.run]
  split
  · exact .inl fun _ => rfl
  have hends := insertTask_cases n (q.advance e.elapsed)
  generalize insertTask n (q.advance e.elapsed) = x at hends ⊢
  cases hends with
  | refused | conflict => exact .inl fun _ => rfl
  | added m hm =>
    exact .inr ⟨_, _, m, smallInt?_some hm, Serial.lookup_add_self .., fun t' => Serial.lookup_add_ne _ _⟩

theorem run_enqueueFor (e : HookEnv) (ev : Event) (ep : EndpointSecret) (q : QueueDB) (h : Hooks) :
    ∃ q', run webhookExec e (enqueueFor J ev ep) (q, h) = ((), q', h) ∧
      ((∀ t, q'.tasks.lookup t = q.tasks.lookup t) ∨
        ∃ t row, Queued J q q' ⟨ep.endpointID, ep.url, ep.secretEncrypted, ev⟩ t row) := by
  unfold enqueueFor
  cases hpayload : J.marshal ⟨ep.endpointID, ep.url, ep.secretEncrypted, ev⟩ with
  | error text => exact ⟨q, rfl, .inl fun _ => rfl⟩
  | ok payload =>
    refine ⟨(run queueHalf e (Client.EnqueueContext (webhookTask payload)) q).2, ?_, ?_⟩
    · rw [run_void, run_queue]
    · rw [run_enqueueContext]
      rcases insert_change (e.queueEnv (.stmt (.insert ((webhookTask payload).newTask e.now))))
        ((webhookTask payload).newTask e.now) (q.advance e.elapsed) with hsame |
          ⟨t, now, m, hm, hafter, hothers⟩
      · exact .inl hsame
      · exact .inr ⟨t, _, hafter, hothers, J.unmarshal_marshal _ _ hpayload, rfl, rfl, hm, rfl⟩

/-- A new task for a delivery that nothing is known of yet, if one is queued. -/
theorem counted_enqueueFor (e : HookEnv) {ev : Event} (ep : EndpointSecret) (hs : Counted J (q, h))
    (hevent : ev.eventID ≤ h.lastEvent) (hattempts : h.attempts (ep.endpointID, ev.eventID) = 0)
    (hdelivery : h.deliveries.lookup (ep.endpointID, ev.eventID) = none)
    (hnew : ∀ t, ¬TaskFor J q t (ep.endpointID, ev.eventID)) :
    ∃ q', run webhookExec e (enqueueFor J ev ep) (q, h) = ((), q', h) ∧ Counted J (q', h) ∧
      ∀ t key, TaskFor J q' t key → TaskFor J q t key ∨ key = (ep.endpointID, ev.eventID) := by
  obtain ⟨q', hrun, hsame | ⟨t, row, hq⟩⟩ := run_enqueueFor e ev ep q h
  · refine ⟨q', hrun, counted_same hs (fun t r hr => (hsame t).symm.trans hr) rfl, ?_⟩
    rintro t key ⟨r, p, hr, hp⟩
    exact .inl ⟨r, p, (hsame t).symm.trans hr, hp⟩
  refine ⟨q', hrun, ?_, ?_⟩
  · refine hs.change (p := ⟨ep.endpointID, ep.url, ep.secretEncrypted, ev⟩)
      (Requested.tried (.inl rfl)) hevent
      (hs.bounded _) (fun t' h => absurd h (hnew t')) ?_ hq.others
    intro r hr
    obtain rfl := some.inj (hr.symm.trans hq.after)
    refine ⟨hq.payload, hevent, hq.maxRetry, hq.retention, .inr ⟨hq.pending, ?_, ?_, ?_⟩⟩
    · rw [hq.untried]
      decide
    · rw [hq.untried]
      exact (congrArg Nat.cast hattempts).le
    · rintro ⟨d, hd, -⟩
      cases hdelivery.symm.trans hd
  · rintro t' key ⟨r, p, hr, hp, rfl⟩
    by_cases ht : t' = t
    · subst ht
      obtain rfl := some.inj (hr.symm.trans hq.after)
      obtain rfl := ok.inj (hq.payload.symm.trans hp)
      exact .inr rfl
    · exact .inl ⟨r, p, (hq.others t' ht).symm.trans hr, hp, rfl⟩

/-- The fan-out of one event: each endpoint gets a delivery of its own. -/
theorem counted_fanOut (e : HookEnv) (h : Hooks) (ev : Event) (hevent : ev.eventID ≤ h.lastEvent)
    (endpoints : List EndpointSecret) :
    ∀ q, Counted J (q, h) → (endpoints.map EndpointSecret.endpointID).Nodup →
      (∀ ep ∈ endpoints, h.attempts (ep.endpointID, ev.eventID) = 0 ∧
        h.deliveries.lookup (ep.endpointID, ev.eventID) = none ∧
          ∀ t, ¬TaskFor J q t (ep.endpointID, ev.eventID)) →
      ∃ q', run webhookExec e (Prog.each (enqueueFor J ev) endpoints) (q, h) = ((), q', h) ∧
        Counted J (q', h) := by
  induction endpoints with
  | nil =>
    intro q hs _ _
    exact ⟨q, rfl, hs⟩
  | cons ep rest ih =>
    intro q hs hnodup hnew
    obtain ⟨hfirst, hnodup⟩ := nodup_cons.mp hnodup
    obtain ⟨hattempts, hdelivery, hunused⟩ := hnew ep mem_cons_self
    obtain ⟨q₁, hrun, hs₁, hback⟩ := counted_enqueueFor e ep hs hevent hattempts hdelivery hunused
    rw [Prog.each, run_bind, hrun]
    refine ih q₁ hs₁ hnodup fun ep' hep' => ?_
    obtain ⟨ha, hd, hu⟩ := hnew ep' (mem_cons_of_mem _ hep')
    refine ⟨ha, hd, fun t ht => ?_⟩
    rcases hback t _ ht with ht | hkey
    · exact hu t ht
    · exact hfirst ((Prod.mk.inj hkey).1 ▸ mem_map_of_mem hep')

theorem subscribers_nodup (now : Time) (eventType : String) (h : Hooks) :
    ((SubscribersFor now eventType h).map EndpointSecret.endpointID).Nodup := by
  unfold SubscribersFor
  rw [List.map_map]
  refine ((perm_insertionSort _ _).map _).nodup_iff.mpr ?_
  exact (filter_sublist.map _).nodup h.endpoints.rows.nodupKeys

/-- The next event: nothing is known of it. -/
theorem counted_nextEvent (hs : Counted J (q, h)) :
    Counted J (q, { h with lastEvent := h.lastEvent + 1 }) where
  rows t r hr := by
    obtain ⟨p, htask⟩ := hs.rows t r hr
    exact ⟨p, htask.frame (Nat.le_succ _) rfl rfl⟩
  distinct := hs.distinct
  fresh key hkey := hs.fresh key (Nat.lt_of_succ_lt hkey)
  bounded := hs.bounded

/-- An event that is emitted adds tasks, and touches no delivery. -/
theorem emit_counted (eventType : String) (entityID : ℤ) (hs : Counted J (q, h)) :
    Counted J (hookStep J (q, h) (.emit eventType entityID e)) ∧
      (hookStep J (q, h) (.emit eventType entityID e)).2.requests = h.requests ∧
      (hookStep J (q, h) (.emit eventType entityID e)).2.deliveries = h.deliveries := by
  set ev : Event := ⟨h.lastEvent + 1, eventType, entityID, e.now⟩ with hev
  set h₁ : Hooks := { h with lastEvent := h.lastEvent + 1 } with hh₁
  have hstep : hookStep J (q, h) (.emit eventType entityID e) =
      (run webhookExec e (Emit J eventType entityID) (q, h)).2 := rfl
  rw [hstep]
  by_cases hvalid : eventType ∈ ValidEvents
  · have hs₁ : Counted J (q, h₁) := counted_nextEvent hs
    have hrun : run webhookExec e (Emit J eventType entityID) (q, h) =
        run webhookExec e (fanOut J ev (hookExec e (.subscribersFor eventType) h₁).1)
          (q, (hookExec e (.subscribersFor eventType) h₁).2) := by
      simp only [Emit, NewEvent, hvalid, if_true]
      rfl
    rw [hrun]
    by_cases hfails : e.fails (.inr (.subscribersFor eventType)) = true
    · have hexec : hookExec e (.subscribersFor eventType) h₁ = (.error .unavailable, h₁) :=
        if_pos hfails
      rw [hexec]
      exact ⟨hs₁, rfl, rfl⟩
    · have hexec : hookExec e (.subscribersFor eventType) h₁ =
          (.ok (SubscribersFor e.now eventType h₁), h₁) := if_neg hfails
      rw [hexec]
      obtain ⟨q', hq', hs'⟩ := counted_fanOut e h₁ ev le_rfl
        (SubscribersFor e.now eventType h₁) q hs₁ (subscribers_nodup _ _ _) fun ep _ => by
          obtain ⟨ha, hd⟩ := hs.fresh (ep.endpointID, ev.eventID) (Nat.lt_succ_self _)
          refine ⟨ha, hd, ?_⟩
          rintro t ⟨r, p, hr, hp, hkey⟩
          obtain ⟨p', htask⟩ := hs.rows t r hr
          obtain rfl := htask.unique hp
          have hle := htask.emitted
          have hid : p.event.eventID = h.lastEvent + 1 := (Prod.mk.inj hkey).2
          dsimp only at hle
          omega
      rw [fanOut, hq']
      exact ⟨hs', rfl, rfl⟩
  · have hrun : run webhookExec e (Emit J eventType entityID) (q, h) = ((), q, h) := by
      simp only [Emit, NewEvent, hvalid, if_false]
      rfl
    rw [hrun]
    exact ⟨hs, rfl, rfl⟩

end

/-! ### Runs -/

theorem counted_start (J : Codec) (clock : Time) (keys : Serial APIKey)
    (endpoints : Serial WebhookEndpoint) :
    Counted J (hooksStart clock keys endpoints) where
  rows t r hr := by cases (Serial.lookup_empty t).symm.trans hr
  distinct t t' key h _ := by
    obtain ⟨r, p, hr, -⟩ := h
    cases (Serial.lookup_empty t).symm.trans hr
  fresh key _ := ⟨rfl, AList.lookup_empty key⟩
  bounded key := by simp [hooksStart, Hooks.attempts, MaxAttempts]

/-- A step that meets the condition keeps the counts, and leaves what is over alone. -/
theorem counted_step {x : HookStep} (hs : Counted J s) (hfit : EighthCounts J s x) :
    Counted J (hookStep J s x) ∧ ∀ key, s.2.Over key → Unchanged s (hookStep J s x) key := by
  cases x with
  | emit eventType entityID e =>
    obtain ⟨hcounted, hrequests, hdeliveries⟩ := emit_counted eventType entityID hs
    refine ⟨hcounted, fun key _ => ⟨?_, ?_⟩⟩
    · rw [Hooks.attempts, hrequests]
      rfl
    · rw [hdeliveries]
  | round srv e => exact round_counted hs hfit
  | reap e => exact ⟨counted_same hs (fun t r hr => reap_same hs hr) rfl, fun _ _ => ⟨rfl, rfl⟩⟩
  | sweep e => exact ⟨counted_same hs (fun t r hr => sweep_same hr) rfl, fun _ _ => ⟨rfl, rfl⟩⟩

/-- In a run in which outcomes are written and no eighth attempt fails plainly, no delivery is tried
    more than `MaxAttempts` times, and one that is delivered or abandoned is not tried again and
    keeps its row. -/
theorem attempts_bounded (J : Codec) (clock : Time) (keys : Serial APIKey)
    (endpoints : Serial WebhookEndpoint) (hist : List HookStep)
    (hfits : Meets (hookStep J) (EighthCounts J) (hooksStart clock keys endpoints) hist) :
    ∀ pre, pre <+: hist → ∀ key,
      ((run (hookStep J) (hooksStart clock keys endpoints) pre).2.attempts key : ℤ) ≤ MaxAttempts ∧
      ((run (hookStep J) (hooksStart clock keys endpoints) pre).2.Over key →
        Unchanged (run (hookStep J) (hooksStart clock keys endpoints) pre)
          (run (hookStep J) (hooksStart clock keys endpoints) hist) key) := by
  rintro pre ⟨later, rfl⟩ key
  obtain ⟨hpre, hlater⟩ := (meets_append pre).mp hfits
  have hcounted := inv (I := Counted J) (fun _ _ hs hx => (counted_step hs hx).1) pre
    (counted_start J clock keys endpoints) hpre
  refine ⟨hcounted.bounded key, fun hover => ?_⟩
  rw [run_append]
  generalize run (hookStep J) (hooksStart clock keys endpoints) pre = s at hcounted hlater hover ⊢
  refine (inv (I := fun s' => Counted J s' ∧ Unchanged s s' key) ?_ later
    ⟨hcounted, rfl, rfl⟩ hlater).2
  rintro s' x ⟨hs', hrequests, hdelivery⟩ hx
  have hover' : s'.2.Over key := by
    rw [Hooks.Over, hdelivery]
    exact hover
  obtain ⟨hnext, hkeep⟩ := counted_step hs' hx
  obtain ⟨hrequests', hdelivery'⟩ := hkeep key hover'
  exact ⟨hnext, hrequests'.trans hrequests, hdelivery'.trans hdelivery⟩

/-! ### The partner again -/

/-- A partner that answers with the status, and enough time between the calls for every retry to be
    due. -/
def patientEnv (status : ℤ) : HookEnv := { partnerEnv status with elapsed := 10000000000 }

/-- A payment is received, and a worker comes round with each of the answers. -/
def partnerWeek (answers : List ℤ) : List HookStep :=
  .emit "payment.received" 7 (patientEnv 200) :: answers.map fun status =>
    .round webhookServer (patientEnv status)

theorem patientEnv_delivers :
    EighthCounts receiptCodec s (.round webhookServer (patientEnv 200)) := by
  refine ⟨fun _ _ => rfl, fun t row p _ _ _ _ hplain => ?_⟩
  rcases hplain with ⟨text, htext⟩ | hfailed
  · cases htext
  · simp [patientEnv, partnerEnv, sentOf] at hfailed

/-- What a week with the answers makes of the queue and the tables. -/
def afterWeek (answers : List ℤ) : QueueDB × Hooks :=
  run (hookStep receiptCodec) (hooksStart 0 onePartner.keys onePartner.endpoints)
    (partnerWeek answers)

/-- What the row of the one delivery says. -/
def statusAfter (answers : List ℤ) : Option DeliveryStatus :=
  ((afterWeek answers).2.deliveries.lookup (1, 1)).map Delivery.status

/-- A delivery that succeeds at once is over after one request, and the next round makes none. -/
theorem delivered_once : Unchanged (afterWeek [200]) (afterWeek [200, 200]) (1, 1) := by
  have hdelivered : statusAfter [200] = some .delivered := by decide +kernel
  unfold statusAfter afterWeek at hdelivered
  obtain ⟨d, hd, hstatus⟩ := Option.map_eq_some_iff.mp hdelivered
  exact (attempts_bounded receiptCodec 0 onePartner.keys onePartner.endpoints
    (partnerWeek [200, 200])
    ⟨trivial, patientEnv_delivers, patientEnv_delivers, trivial⟩ (partnerWeek [200])
    ⟨[.round webhookServer (patientEnv 200)], rfl⟩ (1, 1)).2 ⟨d, hd, .inl hstatus⟩

/-- Eight failures, and the delivery is abandoned. The queue runs it a ninth time, and the row says
    "delivered". -/
theorem abandoned_then_delivered :
    (afterWeek (replicate 8 500)).2.attempts (1, 1) = 8 ∧
    statusAfter (replicate 8 500) = some .abandoned ∧
      (afterWeek (replicate 8 500 ++ [200])).2.attempts (1, 1) = 9 ∧
      statusAfter (replicate 8 500 ++ [200]) = some .delivered := by
  decide +kernel

end IspBss.Partner
