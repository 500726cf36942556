import IspBss.Tr069.Acs

/-! Does an RPC go out once, and is its outcome that of its own response?

    It goes out once: a claim needs a `pending` task, and nothing makes a task pending again. The
    outcome is another matter. Every envelope that is not a fault counts as a success of what is
    outstanding, a task stays outstanding after its outcome, and `CompleteTask` writes whatever the
    status is. So an unsolicited envelope completes a task that was never answered, or one that has
    failed. The lifecycle holds in every run in which an envelope that arrives for an outstanding
    task finds it `sent` and is a fault or the response to its RPC.

        pending ──claim──▶ sent ──Fits──▶ completed | failed -/

namespace IspBss.Tr069

open Lib TR069Store List Option Run Serial Localcache Acs Store

def Acs.status (s : Acs) (id : ℤ) : Option TaskStatus := (s.tasks.lookup id).map Task.status

/-! ### The store calls and one task -/

section
variable {env : AcsEnv} {s : Acs} {id t : ℤ}
variable {state : ProvisioningState} {fault : String} {i : Inform}

@[simp] theorem setProvisioningState_tasks :
    (SetProvisioningState env id state fault s).tasks = s.tasks := by
  unfold SetProvisioningState
  split <;> rfl

@[simp] theorem setProvisioningState_sessions :
    (SetProvisioningState env id state fault s).sessions = s.sessions := by
  unfold SetProvisioningState
  split <;> rfl

@[simp] theorem completeTask_sessions {status : TaskStatus} {code text : String} :
    (CompleteTask env id status code text s).2.sessions = s.sessions := by
  unfold CompleteTask
  split
  · rfl
  · split
    · rfl
    · split <;> rfl

/-- The task gets the status, whichever it had, or nothing is written. -/
theorem lookup_completeTask (env : AcsEnv) (s : Acs) (id t : ℤ) (status : TaskStatus)
    (code text : String) :
    (CompleteTask env id status code text s).2.tasks.lookup t = s.tasks.lookup t ∨
      t = id ∧ ∃ task task' : Task, s.tasks.lookup t = some task ∧
        (CompleteTask env id status code text s).2.tasks.lookup t = some task' ∧
          task'.status = status ∧
        task'.rpcType = task.rpcType := by
  unfold CompleteTask
  split
  · exact .inl rfl
  · cases htask : s.tasks.lookup id with
    | none => exact .inl rfl
    | some task =>
      dsimp only
      split
      · exact .inl rfl
      · by_cases ht : t = id
        · subst ht
          exact .inr ⟨rfl, task, _, htask, lookup_updateID_self _ htask, rfl, rfl⟩
        · exact .inl (lookup_updateID_ne _ ht)

@[simp] theorem upsert_tasks : (UpsertDeviceFromInform env i s).2.tasks = s.tasks := by
  unfold UpsertDeviceFromInform
  split
  · rfl
  · split
    · rfl
    · split <;> rfl

@[simp] theorem upsert_sessions : (UpsertDeviceFromInform env i s).2.sessions = s.sessions := by
  unfold UpsertDeviceFromInform
  split
  · rfl
  · split
    · rfl
    · split <;> rfl

@[simp] theorem enqueueTask_sessions {rpc : RPC} {params : Params} {priority : ℤ}
    {createdBy : String} :
    (EnqueueTask env id rpc params priority createdBy s).2.sessions = s.sessions := by
  unfold EnqueueTask
  split
  · rfl
  · split
    · rfl
    · split <;> rfl

/-- A new task is pending; the others are as they were. -/
theorem lookup_enqueueTask (env : AcsEnv) (s : Acs) (id t : ℤ) (rpc : RPC) (params : Params)
    (priority : ℤ) (createdBy : String) :
    (EnqueueTask env id rpc params priority createdBy s).2.tasks.lookup t = s.tasks.lookup t ∨
      s.tasks.lookup t = none ∧ ∃ task : Task, task.status = .pending ∧
        (EnqueueTask env id rpc params priority createdBy s).2.tasks.lookup t = some task := by
  unfold EnqueueTask
  split
  · exact .inl rfl
  · split
    · exact .inl rfl
    · split
      · exact .inl rfl
      · by_cases ht : t = s.tasks.last + 1
        · subst ht
          exact .inr ⟨lookup_next _, _, rfl, lookup_add_self _ _⟩
        · exact .inl (lookup_add_ne _ _ ht)

theorem queueProvisioning_cases (env : AcsEnv) (s : Acs) (id : ℤ) : queueProvisioning env id s = s ∨
    queueProvisioning env id s =
      (EnqueueTask env id .setParameterValues env.plan 10 "acs:auto-provision" s).2 := by
  unfold queueProvisioning
  split
  · exact .inl rfl
  · split
    · exact .inl rfl
    · exact .inr rfl

/-- The next task is one that can be claimed. -/
theorem nextTask_spec {deviceID : ℤ} {task : Task} (h : nextTask env deviceID s = some ⟨id, task⟩) :
    s.tasks.lookup id = some task ∧ Claimable deviceID env.now task := by
  have hmem := mem_of_mem_filter (mem_of_getElem? h)
  obtain ⟨hrow, hclaim⟩ := mem_filter.mp hmem
  exact ⟨lookup_eq_of_mem hrow, of_decide_eq_true hclaim⟩

end

/-! ### What a request does to one task -/

/-- The envelope that is taken for a response. -/
def Request.answer (r : Request) : Option Body :=
  match r.body with
  | .ok (some b) => if r.isPost = true ∧ b.inform = none then some b else none
  | _ => none

/-- The outcome that an envelope is taken for. -/
def Body.outcome (b : Body) : TaskStatus := if b.fault.isSome then .failed else .completed

/-- What one step does to one task, in the state the step is taken in. -/
inductive Turn (s : Acs) (x : AcsStep) (t : ℤ) : Option Task → Option Task → Prop
  | same {row : Option Task} : Turn s x t row row
  | enqueued {task : Task} (hpending : task.status = .pending) : Turn s x t none (some task)
  | claimed {env : AcsEnv} {r : Request} {task task' : Task} (hx : x = .post env r)
      (hpending : task.status = .pending) (hsent : task'.status = .sent ∨ task'.status = .failed)
      (hrpc : task'.rpcType = task.rpcType) : Turn s x t (some task) (some task')
  | answered {env : AcsEnv} {r : Request} {b : Body} {sess : Session} {task task' : Task}
    (hx : x = .post env r)
      (hanswer : r.answer = some b) (hsess : loadSession env.now r.cookie s = some sess)
      (hout : sess.outstandingTaskID = t) (ht : t ≠ 0) (hstatus : task'.status = b.outcome)
      (hrpc : task'.rpcType = task.rpcType) : Turn s x t (some task) (some task')

section
variable {env : AcsEnv} {s : Acs} {sess : Session} {t : ℤ} {b : Body} {cookie : String}

@[simp] theorem recordTaskOutcome_sessions :
    (recordTaskOutcome env sess b s).sessions = s.sessions := by
  unfold recordTaskOutcome
  split
  · rfl
  · cases b.fault with
    | some f => simp
    | none =>
      dsimp only
      split <;> simp

/-- Only the outstanding task is written, with what the envelope is taken for. -/
theorem lookup_recordTaskOutcome (env : AcsEnv) (s : Acs) (sess : Session) (b : Body) (t : ℤ) :
    (recordTaskOutcome env sess b s).tasks.lookup t = s.tasks.lookup t ∨
    sess.outstandingTaskID = t ∧ t ≠ 0 ∧ ∃ task task' : Task, s.tasks.lookup t = some task ∧
      (recordTaskOutcome env sess b s).tasks.lookup t = some task' ∧ task'.status = b.outcome ∧
      task'.rpcType = task.rpcType := by
  unfold recordTaskOutcome
  split
  · exact .inl rfl
  · rename_i h0
    cases hfault : b.fault with
    | some f =>
      have hout : b.outcome = .failed := by simp [Body.outcome, hfault]
      rcases lookup_completeTask env (SetProvisioningState env sess.deviceID .fault (faultOf f).2 s)
        sess.outstandingTaskID t .failed (faultOf f).1 (faultOf f).2 with h | ⟨rfl, h⟩
      · exact .inl (by simpa using h)
      · exact .inr ⟨rfl, h0, by simpa [hout] using h⟩
    | none =>
      have hout : b.outcome = .completed := by simp [Body.outcome, hfault]
      have hsame : ∀ u : Acs, (if b.Answers .setParameterValues
          then SetProvisioningState env sess.deviceID .provisioned "" u else u).tasks =
            u.tasks := by
        intro u
        split <;> simp
      rw [hsame, hout]
      rcases lookup_completeTask env s sess.outstandingTaskID t .completed "" "" with h | ⟨rfl, h⟩
      · exact .inl h
      · exact .inr ⟨rfl, h0, h⟩

/-- The task as it goes out. -/
def Task.asSent (task : Task) (now : Time) : Task :=
  { task with status := .sent, sentAt := some now }

/-- The task is claimed, and the session waits for its response. -/
def claimFor (env : AcsEnv) (cookie : String) (sess : Session) (id : ℤ) (task : Task) (s : Acs) :
    Acs where
  devices := s.devices
  tasks := s.tasks.updateWhere (fun k _ => k = id) fun _ => task.asSent env.now
  sessions := if cookie = "" then s.sessions
    else s.sessions.Set env.now (sessionKey cookie) { sess with outstandingTaskID := id } sessionTTL

section
variable {id : ℤ} {task : Task} (hnext : nextTask env sess.deviceID s = some ⟨id, task⟩)
  (hfails : env.fails .claimNextTask = false)
include hnext hfails

theorem claimNextTask_some : ClaimNextTask env sess.deviceID s =
    (.ok (some (id, task.asSent env.now)),
      { s with tasks := s.tasks.updateWhere (fun k _ => k = id) fun _ =>
        task.asSent env.now }) := by
  simp [ClaimNextTask, hfails, hnext, Task.asSent]

theorem sendNext_rendered (hrender : renderTask task = .ok ()) :
    sendNextTaskOrClose env cookie sess s = (.rpc id, claimFor env cookie sess id task s) := by
  have hrender' : renderTask (task.asSent env.now) = .ok () := hrender
  by_cases hc : cookie = "" <;>
    simp [sendNextTaskOrClose, claimNextTask_some hnext hfails, hrender', claimFor, saveSession, hc]

theorem sendNext_unrendered {reason : String} (hrender : renderTask task = .error reason) :
    sendNextTaskOrClose env cookie sess s =
      (.empty, (CompleteTask env id .failed "9003" reason
        (claimFor env cookie sess id task s)).2) := by
  have hrender' : renderTask (task.asSent env.now) = .error reason := hrender
  by_cases hc : cookie = "" <;>
    simp [sendNextTaskOrClose, claimNextTask_some hnext hfails, hrender', claimFor, saveSession, hc]

end

variable {id : ℤ} {task : Task}

theorem lookup_claimFor_self (hrow : s.tasks.lookup id = some task) :
    (claimFor env cookie sess id task s).tasks.lookup id = some (task.asSent env.now) :=
  lookup_updateID_self _ hrow

theorem lookup_claimFor_ne (ht : t ≠ id) :
    (claimFor env cookie sess id task s).tasks.lookup t = s.tasks.lookup t :=
  lookup_updateID_ne _ ht

/-- A task is claimed for the session: it was pending, and is sent, or failed if its RPC cannot be
    written. -/
structure Claims (env : AcsEnv) (cookie : String) (sess : Session) (s s' : Acs) (id : ℤ)
    (task task' : Task) :
    Prop where
  before : s.tasks.lookup id = some task
  pending : task.status = .pending
  after : s'.tasks.lookup id = some task'
  sent : task'.status = .sent ∨ task'.status = .failed
  rpc : task'.rpcType = task.rpcType
  others : ∀ t ≠ id, s'.tasks.lookup t = s.tasks.lookup t
  waits : s'.sessions = (claimFor env cookie sess id task s).sessions

/-- No task changes, and the session goes on or is over. -/
structure Rests (cookie : String) (s s' : Acs) : Prop where
  tasks : s'.tasks = s.tasks
  sessions : s'.sessions = s.sessions ∨ s'.sessions = s.sessions.Delete (sessionKey cookie)

theorem claims_rendered (hrow : s.tasks.lookup id = some task) (hpending : task.status = .pending) :
    Claims env cookie sess s (claimFor env cookie sess id task s) id task (task.asSent env.now) :=
  ⟨hrow, hpending, lookup_claimFor_self hrow, .inl rfl, rfl, fun _ ht => lookup_claimFor_ne ht, rfl⟩

variable (env : AcsEnv) (cookie : String) (sess : Session)

theorem claims_unrendered (reason : String)
    (hrow : s.tasks.lookup id = some task) (hpending : task.status = .pending) :
    ∃ task', Claims env cookie sess s
      (CompleteTask env id .failed "9003" reason (claimFor env cookie sess id task s)).2 id task
        task' := by
  have hsent : (claimFor env cookie sess id task s).tasks.lookup id = some (task.asSent env.now) :=
    lookup_claimFor_self hrow
  have hothers : ∀ t ≠ id, (CompleteTask env id .failed "9003" reason
      (claimFor env cookie sess id task s)).2.tasks.lookup t = s.tasks.lookup t := by
    intro t ht
    rcases lookup_completeTask env (claimFor env cookie sess id task s) id t .failed "9003" reason
      with h | ⟨h, -⟩
    · exact h.trans (lookup_claimFor_ne ht)
    · exact absurd h ht
  rcases lookup_completeTask env
    (claimFor env cookie sess id task s) id id .failed "9003" reason with
    h | ⟨-, before, after, hbefore, hafter, hstatus, hrpc⟩
  · exact ⟨_, hrow, hpending, h.trans hsent, .inl rfl, rfl, hothers, completeTask_sessions⟩
  · obtain rfl := Option.some.inj (hbefore.symm.trans hsent)
    exact ⟨after, hrow, hpending, hafter, .inr hstatus, hrpc, hothers, completeTask_sessions⟩

/-- The end of a request: the next RPC, or nothing. -/
theorem sendNext_cases (s : Acs) :
    (∃ id task task', Claims env cookie sess s
      (sendNextTaskOrClose env cookie sess s).2 id task task' ∧
      ((sendNextTaskOrClose env cookie sess s).1 = .rpc id ∨
        (sendNextTaskOrClose env cookie sess s).1 = .empty)) ∨
    (sendNextTaskOrClose env cookie sess s).1 = .empty ∧
      Rests cookie s (sendNextTaskOrClose env cookie sess s).2 := by
  cases hfails : env.fails .claimNextTask with
  | true =>
    refine .inr ?_
    simp only [sendNextTaskOrClose, ClaimNextTask, hfails, if_true, true_and]
    exact ⟨rfl, .inl rfl⟩
  | false =>
    cases hnext : nextTask env sess.deviceID s with
    | none =>
      refine .inr ?_
      simp only [sendNextTaskOrClose, ClaimNextTask, hfails, hnext, Bool.false_eq_true, if_false,
        true_and, clearSession]
      split
      · exact ⟨rfl, .inl rfl⟩
      · exact ⟨rfl, .inr rfl⟩
    | some x =>
      obtain ⟨id, task⟩ := x
      obtain ⟨hrow, -, hpending, -⟩ := nextTask_spec hnext
      refine .inl ⟨id, task, ?_⟩
      cases hrender : renderTask task with
      | ok u =>
        rw [sendNext_rendered hnext hfails hrender]
        exact ⟨_, claims_rendered hrow hpending, .inl rfl⟩
      | error reason =>
        rw [sendNext_unrendered hnext hfails hrender]
        obtain ⟨task', h⟩ := claims_unrendered env cookie sess reason hrow hpending
        exact ⟨task', h, .inr rfl⟩

end

/-- What is recorded of a request in a session before the next task goes out. -/
inductive Recorded (env : AcsEnv) (r : Request) (sess : Session) (s : Acs) : Acs → Prop
  | nothing (hbody : r.body = .ok none) : Recorded env r sess s s
  | envelope {b : Body} (hanswer : r.answer = some b) :
    Recorded env r sess s (recordTaskOutcome env sess b s)

section
variable {env : AcsEnv} {r : Request} {s : Acs} {t : ℤ}
variable {sess : Session} {s₁ s₀ : Acs} {x : AcsStep}

/-- A request is turned away, opens a session, or belongs to one. -/
theorem serve_cases (env : AcsEnv) (r : Request) (s : Acs) :
    ((ServeHTTP env r s).2 = s ∧ ∀ k, (ServeHTTP env r s).1 ≠ .rpc k) ∨
    (∃ i, ServeHTTP env r s = handleInform env i s) ∨
    ∃ sess s₁, loadSession env.now r.cookie s = some sess ∧ Recorded env r sess s s₁ ∧
      ServeHTTP env r s = sendNextTaskOrClose env r.cookie sess s₁ := by
  cases hpost : r.isPost with
  | false => exact .inl (by simp [ServeHTTP, hpost])
  | true =>
    cases hbody : r.body with
    | error e => exact .inl (by simp [ServeHTTP, hpost, hbody])
    | ok body =>
      cases hinform : body.bind (·.inform) with
      | some i => exact .inr (.inl ⟨i, by simp [ServeHTTP, hpost, hbody, hinform]⟩)
      | none =>
        cases hsess : loadSession env.now r.cookie s with
        | none => exact .inl (by simp [ServeHTTP, hpost, hbody, hinform, hsess])
        | some sess =>
          refine .inr (.inr ⟨sess, ?_⟩)
          cases body with
          | none => exact ⟨s, rfl, .nothing hbody, by simp [ServeHTTP, hpost, hbody, hsess]⟩
          | some b =>
            have hb : b.inform = none := hinform
            have hanswer : r.answer = some b := by simp [Request.answer, hpost, hbody, hb]
            exact ⟨_, rfl, .envelope hanswer, by simp [ServeHTTP, hpost, hbody, hb, hsess]⟩

theorem Recorded.sessions_eq (h : Recorded env r sess s s₁) : s₁.sessions = s.sessions := by
  cases h with
  | nothing _ => rfl
  | envelope _ => exact recordTaskOutcome_sessions

theorem Body.outcome_ne_pending (b : Body) : b.outcome ≠ .pending := by
  unfold Body.outcome
  split <;> decide

/-- The task is as it was, or has an outcome now. -/
theorem Recorded.turn (h : Recorded env r sess s s₁)
    (hsess : loadSession env.now r.cookie s = some sess) (t : ℤ) :
    s₁.tasks.lookup t = s.tasks.lookup t ∨
      Turn s (.post env r) t (s.tasks.lookup t) (s₁.tasks.lookup t) ∧
        s₁.status t ≠ some .pending := by
  cases h with
  | nothing _ => exact .inl rfl
  | @envelope b hanswer =>
    rcases lookup_recordTaskOutcome env s sess b t with
      h | ⟨hout, ht, task, task', hbefore, hafter, hstatus, hrpc⟩
    · exact .inl h
    · refine .inr ⟨?_, ?_⟩
      · rw [hbefore, hafter]
        exact .answered rfl hanswer hsess hout ht hstatus hrpc
      · rw [status, hafter, map_some, hstatus]
        exact fun hp => b.outcome_ne_pending (Option.some.inj hp)

theorem Recorded.turn_or_same (h : Recorded env r sess s s₁)
    (hsess : loadSession env.now r.cookie s = some sess) (t : ℤ) :
    Turn s (.post env r) t (s.tasks.lookup t) (s₁.tasks.lookup t) := by
  rcases h.turn hsess t with hsame | ⟨hturn, -⟩
  · rw [hsame]
    exact .same
  · exact hturn

/-- What is claimed was pending, so no outcome of it has just been recorded. -/
theorem Recorded.claimed {cookie : String} {s₂ : Acs} {id : ℤ} {task task' : Task}
    (h : Recorded env r sess s s₁) (hsess : loadSession env.now r.cookie s = some sess)
    (hclaim : Claims env cookie sess s₁ s₂ id task task') :
    s.tasks.lookup id = some task := by
  refine (h.turn hsess id).elim (·.symm.trans hclaim.before) fun hturn => absurd ?_ hturn.2
  rw [status, hclaim.before, map_some, hclaim.pending]

theorem enqueueTask_turn (id : ℤ) (rpc : RPC) (params : Params) (priority : ℤ)
    (createdBy : String) :
    Turn s₀ x t (s.tasks.lookup t)
      ((EnqueueTask env id rpc params priority createdBy s).2.tasks.lookup t) := by
  rcases lookup_enqueueTask env s id t rpc params priority createdBy
    with h | ⟨hnone, task, hpending, htask⟩
  · rw [h]
    exact .same
  · rw [hnone, htask]
    exact .enqueued hpending

/-- The device may be given its configuration to fetch. -/
theorem queueProvisioning_turn (id : ℤ) :
    Turn s₀ x t (s.tasks.lookup t) ((queueProvisioning env id s).tasks.lookup t) := by
  rcases queueProvisioning_cases env s id with h | h <;> rw [h]
  · exact .same
  · exact enqueueTask_turn _ _ _ _ _

@[simp] theorem queueProvisioning_sessions (id : ℤ) :
    (queueProvisioning env id s).sessions = s.sessions := by
  rcases queueProvisioning_cases env s id with h | h <;> rw [h]
  exact enqueueTask_sessions

/-- An Inform opens a session in which nothing is outstanding; it may queue a task and sends none. -/
theorem handleInform_cases (env : AcsEnv) (i : Inform) (s : Acs) :
    ∃ (u v : Acs) (id : ℤ), u.tasks = s.tasks ∧ u.sessions = s.sessions ∧
      (v = u ∨ v = queueProvisioning env id u) ∧
      ((handleInform env i s).2 = v ∨ ∃ c serial,
        (handleInform env i s).2 = saveSession env.now c ⟨id, serial, 0⟩ v) ∧
      ∀ k, (handleInform env i s).1 ≠ .rpc k := by
  have htasks : (UpsertDeviceFromInform env i s).2.tasks = s.tasks := upsert_tasks
  have hsessions : (UpsertDeviceFromInform env i s).2.sessions = s.sessions := upsert_sessions
  unfold handleInform
  cases hup : UpsertDeviceFromInform env i s with
  | mk res u =>
    rw [hup] at htasks hsessions
    cases res with
    | error e => exact ⟨u, u, 0, htasks, hsessions, .inl rfl, .inl rfl, by simp⟩
    | ok found =>
      obtain ⟨id, device⟩ := found
      refine ⟨u, if NeedsProvisioning i device then queueProvisioning env id u else u, id, htasks,
        hsessions, ?_, ?_⟩
      · split
        · exact .inr rfl
        · exact .inl rfl
      · cases env.sessionID with
        | none => exact ⟨.inl rfl, by simp⟩
        | some c => exact ⟨.inr ⟨c, _, rfl⟩, by simp⟩

theorem handleInform_turn (i : Inform) :
    Turn s x t (s.tasks.lookup t) ((handleInform env i s).2.tasks.lookup t) := by
  obtain ⟨u, v, id, htasks, -, hv, hend, -⟩ := handleInform_cases env i s
  have hsame : (handleInform env i s).2.tasks = v.tasks := by
    rcases hend with h | ⟨c, serial, h⟩ <;> rw [h]
    rfl
  rw [hsame, ← htasks]
  rcases hv with rfl | rfl
  · exact .same
  · exact queueProvisioning_turn id

theorem serve_turn (t : ℤ) :
    Turn s (.post env r) t (s.tasks.lookup t) ((ServeHTTP env r s).2.tasks.lookup t) := by
  rcases serve_cases env r s with ⟨h, -⟩ | ⟨i, h⟩ | ⟨sess, s₁, hsess, hrec, h⟩ <;> rw [h]
  · exact .same
  · exact handleInform_turn i
  · rcases sendNext_cases env r.cookie sess s₁ with ⟨id, task, task', hclaim, -⟩ | ⟨-, hrest⟩
    · by_cases ht : t = id
      · subst ht
        rw [hrec.claimed hsess hclaim, hclaim.after]
        exact .claimed rfl hclaim.pending hclaim.sent hclaim.rpc
      · rw [hclaim.others t ht]
        exact hrec.turn_or_same hsess t
    · rw [hrest.tasks]
      exact hrec.turn_or_same hsess t

end

theorem step_turn (s : Acs) (x : AcsStep) (t : ℤ) :
    Turn s x t (s.tasks.lookup t) ((acsStep s x).tasks.lookup t) := by
  cases x with
  | post env r => exact serve_turn t
  | enqueue env id rpc params priority createdBy =>
    exact enqueueTask_turn id rpc params priority createdBy
  | sweep now => exact .same

/-! ### Sessions -/

/-- The step sends the task, in the session of the cookie: it was pending before, and is not any
    more. -/
def Sends (s : Acs) (x : AcsStep) (t : ℤ) (cookie : String) : Prop :=
  (∃ env r, x = .post env r ∧ r.cookie = cookie) ∧ s.status t = some .pending ∧
    (acsStep s x).status t ≠ some .pending

section
variable {env : AcsEnv} {r : Request} {s : Acs}
variable {c : String} {e : Entry Session}

theorem claims_sends {sess : Session} {s₁ : Acs} {id : ℤ} {task task' : Task}
    (hsess : loadSession env.now r.cookie s = some sess) (hrec : Recorded env r sess s s₁)
    (hserve : ServeHTTP env r s = sendNextTaskOrClose env r.cookie sess s₁)
    (hclaim : Claims env r.cookie sess s₁
      (sendNextTaskOrClose env r.cookie sess s₁).2 id task task') :
    Sends s (.post env r) id r.cookie := by
  refine ⟨⟨env, r, rfl, rfl⟩, ?_, ?_⟩
  · rw [status, hrec.claimed hsess hclaim, map_some, hclaim.pending]
  · rw [acsStep, hserve, status, hclaim.after, map_some]
    rcases hclaim.sent with h | h <;> rw [h] <;> decide

/-- An RPC in the reply is a task that is sent. -/
theorem rpc_sends {t : ℤ} (h : (ServeHTTP env r s).1 = .rpc t) :
    Sends s (.post env r) t r.cookie := by
  rcases serve_cases env r s with ⟨-, hno⟩ | ⟨i, hserve⟩ | ⟨sess, s₁, hsess, hrec, hserve⟩
  · exact absurd h (hno t)
  · obtain ⟨-, -, -, -, -, -, -, hno⟩ := handleInform_cases env i s
    rw [hserve] at h
    exact absurd h (hno t)
  · rcases sendNext_cases env r.cookie sess s₁ with ⟨id, task, task', hclaim, hreply⟩ | ⟨hempty, -⟩
    · rw [hserve] at h
      rcases hreply with hreply | hreply <;> rw [hreply] at h
      · obtain rfl := Reply.rpc.inj h
        exact claims_sends hsess hrec hserve hclaim
      · cases h
    · rw [hserve, hempty] at h
      cases h

theorem sessionKey_inj {c' : String} (h : sessionKey c = sessionKey c') : c = c' := by
  have hlist := congrArg String.toList h
  simp only [sessionKey, String.toList_append, append_cancel_left_eq] at hlist
  exact String.toList_inj.mp hlist

/-- A session is as it was, or nothing is outstanding in it, or it waits for the task that was just
    sent in it. -/
theorem serve_session (h : (ServeHTTP env r s).2.sessions.entries.lookup (sessionKey c) = some e) :
    s.sessions.entries.lookup (sessionKey c) = some e ∨ e.val.outstandingTaskID = 0 ∨
      Sends s (.post env r) e.val.outstandingTaskID c := by
  rcases serve_cases env r s with ⟨hserve, -⟩ | ⟨i, hserve⟩ | ⟨sess, s₁, hsess, hrec, hserve⟩ <;>
    rw [hserve] at h
  · exact .inl h
  · obtain ⟨u, v, id, -, hu, hv, hend, -⟩ := handleInform_cases env i s
    have hsame : v.sessions = s.sessions := by
      rcases hv with rfl | rfl
      · exact hu
      · rw [queueProvisioning_sessions, hu]
    rcases hend with hend | ⟨c', serial, hend⟩ <;> rw [hend] at h
    · rw [hsame] at h
      exact .inl h
    · rw [saveSession, lookup_set, hsame] at h
      split at h
      · obtain rfl := Option.some.inj h
        exact .inr (.inl rfl)
      · exact .inl h
  · rcases sendNext_cases env r.cookie sess s₁ with ⟨id, task, task', hclaim, -⟩ | ⟨-, hrest⟩
    · rw [hclaim.waits, claimFor, hrec.sessions_eq] at h
      split at h
      · exact .inl h
      · rw [lookup_set] at h
        split at h
        · rename_i hkey
          obtain rfl := sessionKey_inj hkey
          obtain rfl := Option.some.inj h
          exact .inr (.inr (claims_sends hsess hrec hserve hclaim))
        · exact .inl h
    · rcases hrest.sessions with hs | hs <;> rw [hs, hrec.sessions_eq] at h
      · exact .inl h
      · rw [lookup_delete] at h
        split at h
        · cases h
        · exact .inl h

theorem step_session {x : AcsStep}
    (h : (acsStep s x).sessions.entries.lookup (sessionKey c) = some e) :
    s.sessions.entries.lookup (sessionKey c) = some e ∨ e.val.outstandingTaskID = 0 ∨
      Sends s x e.val.outstandingTaskID c := by
  cases x with
  | post env r => exact serve_session h
  | enqueue env id rpc params priority createdBy =>
    rw [acsStep, enqueueTask_sessions] at h
    exact .inl h
  | sweep now => exact .inl (lookup_sweep h)

end

/-! ### Runs -/

/-- The task was sent in the session of the cookie, at one of the steps. -/
def SentIn (s₀ : Acs) (hist : List AcsStep) (t : ℤ) (cookie : String) : Prop :=
  ∃ pre x, pre ++ [x] <+: hist ∧ Sends (run acsStep s₀ pre) x t cookie

theorem SentIn.mono {s₀ : Acs} {hist hist' : List AcsStep} {t : ℤ} {cookie : String}
    (h : SentIn s₀ hist t cookie) (hpre : hist <+: hist') : SentIn s₀ hist' t cookie := by
  obtain ⟨pre, x, hx, hsends⟩ := h
  exact ⟨pre, x, hx.trans hpre, hsends⟩

/-- What a session waits for was sent in it. -/
theorem outstanding_sent (devices : Serial Device) (hist : List AcsStep) :
    ∀ {c : String} {e : Entry Session},
    (run acsStep (.start devices) hist).sessions.entries.lookup (sessionKey c) = some e →
    e.val.outstandingTaskID ≠ 0 → SentIn (.start devices) hist e.val.outstandingTaskID c := by
  induction hist using List.reverseRecOn with
  | nil =>
    intro c e h
    exact absurd h (by simp [run_nil, start, Store.empty])
  | append_singleton pre x ih =>
    intro c e h h0
    rw [run_concat] at h
    rcases step_session h with h | h | h
    · exact (ih h h0).mono (prefix_append pre [x])
    · exact absurd h h0
    · exact ⟨pre, x, prefix_rfl, h⟩

/-- An envelope for an outstanding task finds it sent, and is a fault or the response to its RPC. -/
def Fits (s : Acs) : AcsStep → Prop
  | .post env r => ∀ b ∈ r.answer, ∀ sess ∈ loadSession env.now r.cookie s,
      ∀ task ∈ s.tasks.lookup sess.outstandingTaskID, task.status = .sent ∧
        (b.fault.isSome ∨ b.Answers task.rpcType)
  | _ => True

instance (s : Acs) : ∀ x, Decidable (Fits s x)
  | .post _ r => inferInstanceAs (Decidable (∀ b ∈ r.answer, _))
  | .enqueue _ _ _ _ _ _ => isTrue trivial
  | .sweep _ => isTrue trivial

/-- What one step may do to the status of a task; a task is sent and fails in one step if its RPC
    cannot be written. -/
inductive Moves : TaskStatus → TaskStatus → Prop
  | stays {st : TaskStatus} : Moves st st
  | sent : Moves .pending .sent
  | unwritten : Moves .pending .failed
  | completed : Moves .sent .completed
  | failed : Moves .sent .failed

/-- What is claimed of the tasks, over a run. -/
structure Orderly (s₀ : Acs) (hist : List AcsStep) : Prop where
  /-- An RPC that goes out is sent in that session, -/
  delivered : ∀ pre env r t, pre ++ [.post env r] <+: hist →
    (ServeHTTP env r (run acsStep s₀ pre)).1 = .rpc t →
      Sends (run acsStep s₀ pre) (.post env r) t r.cookie
  /-- and it is sent once. -/
  once : ∀ pre x pre' x' t c c', pre ++ [x] <+: hist → pre' ++ [x'] <+: hist →
    Sends (run acsStep s₀ pre) x t c → Sends (run acsStep s₀ pre') x' t c' → pre = pre' ∧ c = c'
  moves : ∀ pre x t task task', pre ++ [x] <+: hist →
    (run acsStep s₀ pre).tasks.lookup t = some task →
    (run acsStep s₀ (pre ++ [x])).tasks.lookup t = some task' → Moves task.status task'.status
  kept : ∀ pre t task, pre <+: hist → (run acsStep s₀ pre).tasks.lookup t = some task →
    task.status = .completed ∨ task.status = .failed →
      (run acsStep s₀ hist).tasks.lookup t = some task
  answered : ∀ pre x t task task', pre ++ [x] <+: hist →
    (run acsStep s₀ pre).tasks.lookup t = some task →
    task.status ≠ .completed → (run acsStep s₀ (pre ++ [x])).tasks.lookup t = some task' →
    task'.status = .completed → ∃ env r b, x = .post env r ∧ r.answer = some b ∧
      b.Answers task.rpcType ∧
      SentIn s₀ pre t r.cookie

section
variable {s : Acs} {x : AcsStep} {t : ℤ} {task task' : Task}

theorem turn_pending {row row' : Option Task} (h : Turn s x t row row')
    (hrow : ∃ task, row = some task ∧ task.status ≠ .pending) : ∃ task, row' = some task ∧
      task.status ≠ .pending := by
  obtain ⟨task, rfl, hne⟩ := hrow
  cases h with
  | same => exact ⟨task, rfl, hne⟩
  | claimed _ hpending _ _ => exact absurd hpending hne
  | @answered _ _ b _ _ task' _ _ _ _ _ hstatus _ =>
    exact ⟨task', rfl, hstatus ▸ b.outcome_ne_pending⟩

theorem turn_moves (h : Turn s x t (some task) (some task')) (hrow : s.tasks.lookup t = some task)
    (hfits : Fits s x) :
    Moves task.status task'.status := by
  cases h with
  | same => exact .stays
  | claimed _ hpending hsent _ =>
    rw [hpending]
    rcases hsent with h | h <;> rw [h]
    · exact .sent
    · exact .unwritten
  | @answered env r b sess _ _ hx hanswer hsess hout _ hstatus _ =>
    subst hx hout
    rw [(hfits b hanswer sess hsess task hrow).1, hstatus, Body.outcome]
    split
    · exact .failed
    · exact .completed

/-- An outcome that is recorded is never overwritten. -/
theorem turn_kept {row' : Option Task} (h : Turn s x t (some task) row')
    (hrow : s.tasks.lookup t = some task) (hdone : task.status = .completed ∨ task.status = .failed)
    (hfits : Fits s x) : row' = some task := by
  cases h with
  | same => rfl
  | claimed _ hpending _ _ =>
    rw [hpending] at hdone
    simp at hdone
  | @answered env r b sess _ _ hx hanswer hsess hout _ _ _ =>
    subst hx hout
    rw [(hfits b hanswer sess hsess task hrow).1] at hdone
    simp at hdone

end

section
variable {s₀ : Acs} {hist : List AcsStep}
variable {t : ℤ} {pre pre' : List AcsStep} {x x' : AcsStep} {c c' : String}

/-- A task that has been sent is not pending again. -/
theorem not_pending_later (later : List AcsStep)
    (h : ∃ task, (run acsStep s₀ pre).tasks.lookup t = some task ∧ task.status ≠ .pending) :
    ∃ task, (run acsStep s₀ (pre ++ later)).tasks.lookup t = some task ∧
      task.status ≠ .pending := by
  rw [run_append]
  refine inv (C := fun _ _ => True)
    (I := fun s : Acs => ∃ task, s.tasks.lookup t = some task ∧
      task.status ≠ .pending) ?_ later h ?_
  · intro s x hs _
    exact turn_pending (step_turn s x t) hs
  · exact (meets_iff_forall later).mpr fun _ _ _ => trivial

theorem Sends.not_pending {s : Acs} (h : Sends s x t c) :
    ∃ task, (acsStep s x).tasks.lookup t = some task ∧ task.status ≠ .pending := by
  obtain ⟨-, hbefore, hafter⟩ := h
  obtain ⟨task, htask, hpending⟩ := map_eq_some_iff.mp hbefore
  have hturn := step_turn s x t
  rw [htask] at hturn
  cases hrow : (acsStep s x).tasks.lookup t with
  | none =>
    rw [hrow] at hturn
    cases hturn
  | some task' =>
    refine ⟨task', rfl, fun hp => hafter ?_⟩
    rw [status, hrow, map_some, hp]

/-- Two sendings of a task: not one before the other. -/
theorem sends_not_before (hpre : pre ++ [x] <+: pre') (h : Sends (run acsStep s₀ pre) x t c)
    (h' : Sends (run acsStep s₀ pre') x' t c') : False := by
  obtain ⟨later, rfl⟩ := hpre
  have hsent := h.not_pending
  rw [← run_concat acsStep] at hsent
  obtain ⟨task, htask, hne⟩ := not_pending_later later hsent
  have hpending := h'.2.1
  rw [status, htask] at hpending
  exact hne (Option.some.inj hpending)

theorem sends_once (hx : pre ++ [x] <+: hist)
    (hx' : pre' ++ [x'] <+: hist) (h : Sends (run acsStep s₀ pre) x t c)
    (h' : Sends (run acsStep s₀ pre') x' t c') : pre = pre' ∧ c = c' := by
  rcases prefix_trichotomy hx hx' with hlt | hlt | ⟨rfl, rfl⟩
  · exact (sends_not_before hlt h h').elim
  · exact (sends_not_before hlt h' h).elim
  · obtain ⟨⟨env, r, rfl, rfl⟩, -⟩ := h
    obtain ⟨⟨env', r', heq, rfl⟩, -⟩ := h'
    obtain ⟨-, rfl⟩ := AcsStep.post.inj heq
    exact ⟨rfl, rfl⟩

end

/-- In a run whose envelopes fit, every task is sent once, answered by its own response in the
    session it was sent in, and left alone after that. -/
theorem tasks_orderly (devices : Serial Device) (hist : List AcsStep)
    (hfits : Meets acsStep Fits (.start devices) hist) : Orderly (.start devices) hist where
  delivered pre env r t _ h := rpc_sends h
  once pre x pre' x' t c c' hx hx' h h' := sends_once hx hx' h h'
  moves pre x t task task' hx hbefore hafter := by
    have hturn := step_turn (run acsStep (.start devices) pre) x t
    rw [run_concat] at hafter
    rw [hbefore, hafter] at hturn
    exact turn_moves hturn hbefore ((meets_iff_forall hist).mp hfits pre x hx)
  kept pre t task hpre hrow hdone := by
    obtain ⟨later, rfl⟩ := hpre
    rw [run_append]
    refine inv (I := fun s : Acs => s.tasks.lookup t = some task) ?_ later hrow
      ((meets_append pre).mp hfits).2
    intro s x hs hx
    have hturn := step_turn s x t
    rw [hs] at hturn
    exact turn_kept hturn hs hdone hx
  answered pre x t task task' hx hbefore hopen hafter hdone := by
    have hstep := (meets_iff_forall hist).mp hfits pre x hx
    have hturn := step_turn (run acsStep (.start devices) pre) x t
    rw [run_concat] at hafter
    rw [hbefore, hafter] at hturn
    cases hturn with
    | same => exact absurd hdone hopen
    | claimed _ _ hsent _ =>
      rw [hdone] at hsent
      simp at hsent
    | @answered env r b sess _ _ hpost hanswer hsess hout ht hstatus _ =>
      subst hpost hout
      obtain ⟨-, hfault | hanswers⟩ := hstep b hanswer sess hsess task hbefore
      · rw [hstatus, Body.outcome, if_pos hfault] at hdone
        cases hdone
      · refine ⟨env, r, b, rfl, hanswer, hanswers, ?_⟩
        unfold loadSession at hsess
        split at hsess
        · cases hsess
        · obtain ⟨e, he, -, rfl⟩ := get_eq_some.mp hsess
          exact outstanding_sent devices pre he ht

/-! ### A device on the bench -/

/-- Nothing fails, and there is no plan; the session id is "c1". -/
def benchEnv (now : Time) : AcsEnv := ⟨now, fun _ => false, [], some "c1", 0⟩

def benchPost (now : Time) (body : Option Body) : AcsStep :=
  .post (benchEnv now) ⟨true, .ok body, "c1"⟩

/-- A periodic contact of the device; the first one registers it. -/
def benchInform : Body := ⟨some ⟨"CPE-1", ["2 PERIODIC"]⟩, [], false, none⟩

def benchTransfer : Body := ⟨none, [], true, none⟩

def benchResponse (rpc : RPC) : Body := ⟨none, [rpc], false, none⟩

/-- The RPC is queued, and the device opens a session and asks for it. -/
def benchSent (rpc : RPC) : List AcsStep :=
  [benchPost 0 (some benchInform), .enqueue (benchEnv 1) 1 rpc [] 100 "noc", benchPost 2 none]

/-- A reboot goes out, and is answered. -/
def benchReboot : List AcsStep := benchSent .reboot ++ [benchPost 3 (some (benchResponse .reboot))]

theorem benchReboot_orderly : Orderly (.start .empty) benchReboot ∧
    (run acsStep (.start .empty) benchReboot).status 1 = some .completed :=
  ⟨tasks_orderly .empty benchReboot (by decide +kernel), by decide +kernel⟩

/-- The end of a transfer, sent by the device of its own accord, completes a reboot that it has not
    answered; and it completes a download that has failed because it has no url. -/
theorem transfer_completes_anything :
    ((run acsStep (.start .empty) (benchSent .reboot)).status 1 = some .sent ∧
      ¬benchTransfer.Answers .reboot ∧
      (run acsStep (.start .empty)
        (benchSent .reboot ++ [benchPost 3 (some benchTransfer)])).status 1 =
        some .completed) ∧
    (run acsStep (.start .empty) (benchSent .download)).status 1 = some .failed ∧
      (run acsStep (.start .empty)
        (benchSent .download ++ [benchPost 3 (some benchTransfer)])).status 1 =
        some .completed := by
  decide +kernel

end IspBss.Tr069
