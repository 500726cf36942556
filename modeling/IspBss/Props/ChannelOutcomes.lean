import IspBss.Notifications.Dispatcher

/-! Does `Notify` report a delivery exactly if there was one?

    On each channel a message is delivered, or its sending fails, or the channel has no client, or the
    subscriber cannot be reached on it. `Dispatch` folds these into nil and an error, and `Notify` counts the
    nils.

        delivered      ─▶ log row written? ─ yes ─▶ nil ──┐
                                           └ no ──▶ error │   one nil: nil
        unreachable    ─▶ log row written? ─ yes ─▶ nil ──┤   no nil: the last error
                                           └ no ──▶ error │
        failed, not configured ──────────────────▶ error ─┘

    So a channel on which nobody can be reached hides the failure of another one, and a delivery that could not
    be logged counts as a failure, after which the queue has it sent again. -/

namespace IspBss.Notifications

open List

/-! ### What becomes of a message -/

inductive Outcome where
  | delivered | sendFailed | notConfigured | unreachable
  deriving DecidableEq

/-- The message was to be sent and was not. -/
def Outcome.Failed (o : Outcome) : Prop := o = .sendFailed ∨ o = .notConfigured
  deriving Decidable

def plainOutcome : Except String Unit → Outcome
  | .error _ => .sendFailed
  | .ok () => .delivered

def templateOutcome (a : Answers) (phone : String) : Outcome :=
  if APIStore.isE164 phone = false then .sendFailed
  else
    match a.httpDo with
    | .error _ => .sendFailed
    | .ok (status, _) => if 400 ≤ status then .sendFailed else .delivered

/-- The channel that has sent a message. -/
def Message.channel : Message → Channel
  | template .. => .whatsapp
  | sms .. => .sms
  | email .. => .email
  | push .. => .push

/-- What is known afterwards of an outcome that is no error: the answer of the provider could be read, or the log
    row was written. -/
def recorded (a : Answers) : Channel → Bool
  | .whatsapp =>
    match a.httpDo with
    | .ok (_, .ok _) => true
    | _ => false
  | _ => a.createNotificationLog.isOk

/-- The call has returned nil exactly if there was nothing to report and it is recorded, and the provider has the
    message exactly if it was delivered. -/
structure Tells (o : Outcome) (recorded : Bool) (s : Outbox) (r : Except String Unit × Outbox) : Prop where
  returned : r.1 = .ok () ↔ (o = .delivered ∨ o = .unreachable) ∧ recorded = true
  accepted : ∃ ms, r.2.accepted = s.accepted ++ ms ∧ (ms ≠ [] ↔ o = .delivered)

section
variable {a : Answers} {t : NotificationTask} {s : Outbox}

theorem createNotificationLog_returned (row : NotificationLog) :
    (CreateNotificationLog a row s).1 = .ok () ↔ a.createNotificationLog.isOk = true := by
  unfold CreateNotificationLog
  cases a.createNotificationLog with
  | error err => simp [Except.isOk, Except.toBool]
  | ok u => simp [Except.isOk, Except.toBool]

theorem createNotificationLog_accepted (row : NotificationLog) :
    (CreateNotificationLog a row s).2.accepted = s.accepted := by
  unfold CreateNotificationLog
  cases a.createNotificationLog <;> rfl

/-- An error, with nothing sent. -/
theorem tells_error {o : Outcome} {err : String} {recorded : Bool} {s' : Outbox} (ho : o.Failed)
    (hs : s'.accepted = s.accepted) : Tells o recorded s (.error err, s') where
  returned := by rcases ho with rfl | rfl <;> simp
  accepted := ⟨[], by rw [hs, append_nil], by rcases ho with rfl | rfl <;> simp⟩

theorem recordUnreachable_tells (reason : String) :
    Tells .unreachable a.createNotificationLog.isOk s (recordUnreachable a t reason s) where
  returned := by simp [recordUnreachable, createNotificationLog_returned]
  accepted := ⟨[], by simp [recordUnreachable, createNotificationLog_accepted], by simp⟩

theorem sendPlain_tells (answer : Except String Unit) (m : Message) :
    Tells (plainOutcome answer) a.createNotificationLog.isOk s (sendPlain a t answer m s) := by
  cases answer with
  | error err => exact tells_error (.inl rfl) rfl
  | ok u =>
    refine ⟨?_, [m], ?_, ?_⟩
    · simp [sendPlain, plainOutcome, recordSent, createNotificationLog_returned]
    · simp [sendPlain, recordSent, createNotificationLog_accepted, Outbox.accept]
    · simp [plainOutcome]

theorem sendTemplate_tells (phone : String) :
    Tells (templateOutcome a phone) (recorded a .whatsapp) s (SendTemplate a t phone s) := by
  unfold SendTemplate templateOutcome recorded
  by_cases hphone : APIStore.isE164 phone = false
  · rw [if_pos hphone, if_pos hphone]
    exact tells_error (.inl rfl) rfl
  rw [if_neg hphone, if_neg hphone]
  rcases a.httpDo with err | ⟨status, decoded⟩
  · exact tells_error (.inl rfl) rfl
  dsimp only
  by_cases hstatus : 400 ≤ status
  · rw [if_pos hstatus, if_pos hstatus]
    exact tells_error (.inl rfl) (createNotificationLog_accepted _)
  rw [if_neg hstatus, if_neg hstatus]
  -- from here on the provider has the message
  cases decoded with
  | error err => exact ⟨by simp, _, rfl, by simp⟩
  | ok ids => exact ⟨by simp, _, createNotificationLog_accepted _, by simp⟩

end

namespace Dispatcher

variable (d : Dispatcher) (a : Answers) (t : NotificationTask)

def outcomeTo (sub : Subscriber) : Outcome :=
  match t.channel with
  | .whatsapp => if d.whatsapp = false then .notConfigured else templateOutcome a (toPhone t sub)
  | .sms => if d.sms = false then .notConfigured else plainOutcome a.sendSMS
  | .email =>
    if d.email = false then .notConfigured
    else if sub.email = "" then .unreachable
    else plainOutcome a.sendEmail
  | .push =>
    if d.push = false then .notConfigured
    else
      match a.listPushTokens with
      | .error _ => .sendFailed
      | .ok [] => .unreachable
      | .ok _ => plainOutcome a.sendPush
  | .other _ => .notConfigured

/-- What becomes of a message on the channel, as far as the clients, the subscriber and the answers say. -/
def outcome : Outcome :=
  match a.getSubscriber with
  | .error _ => .sendFailed
  | .ok sub => d.outcomeTo a t sub

section
variable {d : Dispatcher} {a : Answers} {t : NotificationTask} {s : Outbox}

theorem dispatchTo_tells (sub : Subscriber) :
    Tells (d.outcomeTo a t sub) (recorded a t.channel) s (d.dispatchTo a t sub s) := by
  unfold outcomeTo dispatchTo
  cases t.channel with
  | whatsapp =>
    by_cases hd : d.whatsapp = false
    · simp only [hd, if_true]
      exact tells_error (.inr rfl) rfl
    · simp only [hd]
      exact sendTemplate_tells _
  | sms =>
    by_cases hd : d.sms = false
    · simp only [hd, if_true]
      exact tells_error (.inr rfl) rfl
    · simp only [hd]
      exact sendPlain_tells _ _
  | email =>
    by_cases hd : d.email = false
    · simp only [hd, if_true]
      exact tells_error (.inr rfl) rfl
    by_cases haddress : sub.email = ""
    · simp only [hd, haddress, if_true]
      exact recordUnreachable_tells _
    · simp only [hd, haddress, if_false]
      exact sendPlain_tells _ _
  | push =>
    by_cases hd : d.push = false
    · simp only [hd, if_true]
      exact tells_error (.inr rfl) rfl
    simp only [hd]
    rcases a.listPushTokens with err | _ | ⟨token, tokens⟩
    · exact tells_error (.inl rfl) rfl
    · exact recordUnreachable_tells _
    · exact sendPlain_tells _ _
  | other name => exact tells_error (.inr rfl) rfl

/-- The subscriber wants no marketing, and this is. -/
def Suppressed (a : Answers) (t : NotificationTask) : Prop :=
  ∃ sub, a.getSubscriber = .ok sub ∧ sub.dndOptOut = true ∧ t.cls = .marketing

theorem dispatch_tells (hkept : ¬ Suppressed a t) :
    Tells (d.outcome a t) (recorded a t.channel) s (d.Dispatch a t s) := by
  unfold outcome Dispatch
  cases hsub : a.getSubscriber with
  | error err => exact tells_error (.inl rfl) rfl
  | ok sub =>
    have hsend : ¬ (sub.dndOptOut = true ∧ t.cls = .marketing) := fun h => hkept ⟨sub, hsub, h⟩
    simp only [hsend, if_false]
    exact dispatchTo_tells sub

theorem dispatch_suppressed (h : Suppressed a t) : (d.Dispatch a t s).1 = .ok () := by
  obtain ⟨sub, hsub, hdnd⟩ := h
  simp [Dispatch, hsub, hdnd]

end

/-! ### All channels of a notice -/

section
variable (d : Dispatcher) (n : Notice) (env : ℕ → Answers)

variable (x : Channel × ℕ)

def outcomeOf : Outcome := d.outcome (env x.2) (n.task x.1)

def Delivered : Prop := d.outcomeOf n env x = .delivered
  deriving Decidable

def Unreachable : Prop := d.outcomeOf n env x = .unreachable
  deriving Decidable

def Recorded : Prop := recorded (env x.2) x.1 = true
  deriving Decidable

/-- The attempt is one that the loop counts. -/
def Counted : Prop := (d.Delivered n env x ∨ d.Unreachable n env x) ∧ Recorded env x

end

section
variable {d : Dispatcher} {n : Notice} {env : ℕ → Answers}

theorem attempt_tells (d : Dispatcher) (n : Notice) (env : ℕ → Answers) (st : Progress) (x : Channel × ℕ) :
    ((d.attempt n env st x).delivered = st.delivered + 1 ∧ (d.attempt n env st x).lastErr = st.lastErr ∧
        d.Counted n env x ∨
      (d.attempt n env st x).delivered = st.delivered ∧ (d.attempt n env st x).lastErr ≠ none ∧
        ¬ d.Counted n env x) ∧
    ∃ ms, (d.attempt n env st x).outbox.accepted = st.outbox.accepted ++ ms ∧
      (ms ≠ [] ↔ d.Delivered n env x) := by
  have htells : Tells (d.outcomeOf n env x) (recorded (env x.2) x.1) st.outbox
    (d.Dispatch (env x.2) (n.task x.1) st.outbox) := dispatch_tells (by simp [Suppressed, Notice.task])
  unfold attempt
  rcases hr : d.Dispatch (env x.2) (n.task x.1) st.outbox with ⟨err | u, s'⟩
  · rw [hr] at htells
    refine ⟨.inr ⟨rfl, Option.some_ne_none _, fun hcounted => ?_⟩, htells.accepted⟩
    cases htells.returned.mpr hcounted
  · rw [hr] at htells
    exact ⟨.inl ⟨rfl, rfl, htells.returned.mp rfl⟩, htells.accepted⟩

/-- After the loop: something was counted if an attempt was, an error is left if one was not, and providers have
    messages if any was delivered. -/
theorem foldl_attempt (d : Dispatcher) (n : Notice) (env : ℕ → Answers) (xs : List (Channel × ℕ)) : ∀ st : Progress,
    ((xs.foldl (d.attempt n env) st).delivered = 0 ↔ st.delivered = 0 ∧ ∀ x ∈ xs, ¬ d.Counted n env x) ∧
    ((xs.foldl (d.attempt n env) st).lastErr ≠ none ↔
      st.lastErr ≠ none ∨ ∃ x ∈ xs, ¬ d.Counted n env x) ∧
    ∃ ms, (xs.foldl (d.attempt n env) st).outbox.accepted = st.outbox.accepted ++ ms ∧
      (ms ≠ [] ↔ ∃ x ∈ xs, d.Delivered n env x) := by
  induction xs with
  | nil =>
    intro st
    exact ⟨by simp, by simp, [], by simp, by simp⟩
  | cons x xs ih =>
    intro st
    obtain ⟨hcount, ms, hms, hdelivered⟩ := attempt_tells d n env st x
    obtain ⟨hzero, herr, ms', hms', hdelivered'⟩ := ih (d.attempt n env st x)
    refine ⟨?_, ?_, ms ++ ms', ?_, ?_⟩
    · rw [foldl_cons, hzero]
      rcases hcount with ⟨hd, -, hc⟩ | ⟨hd, -, hc⟩
      · simp [hd, hc]
      · simp [hd, hc]
    · rw [foldl_cons, herr]
      rcases hcount with ⟨-, he, hc⟩ | ⟨-, he, hc⟩
      · simp [he, hc]
      · simp [he, hc]
    · rw [foldl_cons, hms', hms, append_assoc]
    · rw [exists_mem_cons_iff, ← hdelivered, ← hdelivered', ne_eq, append_eq_nil_iff]
      exact not_and_or

variable (channels : List Channel)

theorem attempts_ne_nil : attempts channels ≠ [] := by
  unfold attempts
  split
  · exact cons_ne_nil _ _
  · rename_i hne
    rwa [ne_eq, zipIdx_eq_nil_iff]

theorem notify_ok_iff (s : Outbox) :
    (d.Notify n env channels s).1 = .ok () ↔ ∃ x ∈ attempts channels, d.Counted n env x := by
  obtain ⟨hzero, herr, -⟩ := foldl_attempt d n env (attempts channels) ⟨0, none, s⟩
  obtain ⟨x, hx⟩ := exists_mem_of_ne_nil _ (attempts_ne_nil channels)
  unfold Notify
  generalize (attempts channels).foldl (d.attempt n env) ⟨0, none, s⟩ = st at hzero herr
  by_cases hcounted : ∃ y ∈ attempts channels, d.Counted n env y
  · refine iff_of_true ?_ hcounted
    have hpos : st.delivered ≠ 0 := by
      intro h
      obtain ⟨y, hy, hc⟩ := hcounted
      exact (hzero.mp h).2 y hy hc
    dsimp only
    split
    · rename_i h _
      exact absurd h hpos
    · rfl
  · have hnone : ∀ y ∈ attempts channels, ¬ d.Counted n env y := fun y hy hc => hcounted ⟨y, hy, hc⟩
    refine iff_of_false ?_ hcounted
    obtain ⟨err, hlast⟩ := Option.ne_none_iff_exists'.mp (herr.mpr (.inr ⟨x, hx, hnone x hx⟩))
    dsimp only
    rw [hzero.mpr ⟨rfl, hnone⟩, hlast]
    intro h
    cases h

theorem notify_accepted_iff (s : Outbox) :
    (d.Notify n env channels s).2.accepted ≠ s.accepted ↔ ∃ x ∈ attempts channels, d.Delivered n env x := by
  obtain ⟨-, -, ms, hms, hdelivered⟩ :=
    foldl_attempt d n env (attempts channels) ⟨0, none, s⟩
  have hout : (d.Notify n env channels s).2 =
      ((attempts channels).foldl (d.attempt n env) ⟨0, none, s⟩).outbox := by
    unfold Notify
    dsimp only
    split <;> rfl
  rw [hout, hms, ← hdelivered, ne_eq, append_right_eq_self]

end

/-- Nil if a channel has delivered; an error if none has and one has failed. -/
def Honest (d : Dispatcher) (n : Notice) (env : ℕ → Answers) (channels : List Channel) (s : Outbox) : Prop :=
  ((∃ x ∈ attempts channels, d.Delivered n env x) → (d.Notify n env channels s).1 = .ok ()) ∧
  ((∀ x ∈ attempts channels, ¬ d.Delivered n env x) →
    (∃ x ∈ attempts channels, (d.outcomeOf n env x).Failed) → (d.Notify n env channels s).1 ≠ .ok ())

theorem honest_iff {d : Dispatcher} {n : Notice} {env : ℕ → Answers} (channels : List Channel) (s : Outbox) :
    d.Honest n env channels s ↔
      ((∃ x ∈ attempts channels, d.Delivered n env x) → ∃ x ∈ attempts channels, d.Counted n env x) ∧
      ((∀ x ∈ attempts channels, ¬ d.Delivered n env x) →
        (∃ x ∈ attempts channels, (d.outcomeOf n env x).Failed) →
        ∀ x ∈ attempts channels, d.Unreachable n env x → ¬ Recorded env x) := by
  unfold Honest
  rw [ne_eq, notify_ok_iff]
  refine and_congr Iff.rfl (forall_congr' fun hnone => forall_congr' fun _ => ?_)
  constructor
  · intro h x hx hunreachable hrecorded
    exact h ⟨x, hx, .inr hunreachable, hrecorded⟩
  · rintro h ⟨x, hx, hdelivered | hunreachable, hrecorded⟩
    · exact hnone x hx hdelivered
    · exact h x hx hunreachable hrecorded

/-- The loop does not count the attempt. -/
def Ignored (d : Dispatcher) (n : Notice) (env : ℕ → Answers) (x : Channel × ℕ) : Prop :=
  ∀ st : Progress, (d.attempt n env st x).delivered = st.delivered

theorem ignored_iff {d : Dispatcher} {n : Notice} {env : ℕ → Answers} (x : Channel × ℕ) :
    d.Ignored n env x ↔ ¬ d.Counted n env x := by
  constructor
  · intro hignored hcounted
    rcases (attempt_tells d n env ⟨0, none, ⟨[], []⟩⟩ x).1 with ⟨h, -⟩ | ⟨-, -, h⟩
    · rw [hignored] at h
      omega
    · exact h hcounted
  · intro hnot st
    rcases (attempt_tells d n env st x).1 with ⟨-, -, h⟩ | ⟨h, -⟩
    · exact absurd h hnot
    · exact h

/-- A provider has taken the message exactly if some channel has delivered. `Notify` is honest about it exactly
    if one delivery, or one unreachable channel, could be recorded where there was a delivery, and no
    unreachable channel was recorded where there was none but a failure; and unreachable channels are not counted
    exactly if none is recorded. -/
theorem notify_honest_iff (d : Dispatcher) (n : Notice) (env : ℕ → Answers) (channels : List Channel)
    (s : Outbox) :
    ((d.Notify n env channels s).2.accepted ≠ s.accepted ↔
      ∃ x ∈ attempts channels, d.Delivered n env x) ∧
    (d.Honest n env channels s ↔
      ((∃ x ∈ attempts channels, d.Delivered n env x) →
        ∃ x ∈ attempts channels, (d.Delivered n env x ∨ d.Unreachable n env x) ∧ Recorded env x) ∧
      ((∀ x ∈ attempts channels, ¬ d.Delivered n env x) →
        (∃ x ∈ attempts channels, (d.outcomeOf n env x).Failed) →
        ∀ x ∈ attempts channels, d.Unreachable n env x → ¬ Recorded env x)) ∧
    ((∀ x ∈ attempts channels, d.Unreachable n env x → d.Ignored n env x) ↔
      ∀ x ∈ attempts channels, d.Unreachable n env x → ¬ Recorded env x) := by
  refine ⟨notify_accepted_iff channels s, honest_iff channels s, ?_⟩
  refine forall_congr' fun x => forall_congr' fun _ => forall_congr' fun hunreachable => ?_
  rw [ignored_iff, Counted, and_iff_right (.inr hunreachable)]

/-- A subscriber with a phone and nothing else, and providers that take what they are given. -/
def plainAnswers : Answers where
  getSubscriber := .ok ⟨1, "+919876500111", "", false⟩
  createNotificationLog := .ok ()
  httpDo := .ok (200, .ok ["wamid.1"])
  sendSMS := .ok ()
  sendEmail := .ok ()
  listPushTokens := .ok []
  sendPush := .ok ()

def suspended : Notice := ⟨1, "TMPL-005", "service_suspended", ["Ann"]⟩

/-- The SMS fails and there is no address for the email: nil, and no message was taken. The SMS is taken and its
    row cannot be written: an error. -/
theorem notify_dishonest :
    let down : ℕ → Answers := fun _ => { plainAnswers with sendSMS := .error "gateway timeout" }
    let unlogged : ℕ → Answers := fun _ => { plainAnswers with createNotificationLog := .error "no connection" }
    let d : Dispatcher := ⟨true, true, true, true⟩
    ((d.Notify suspended down [.sms, .email] ⟨[], []⟩).1.isOk = true ∧
      (d.Notify suspended down [.sms, .email] ⟨[], []⟩).2.accepted = []) ∧
    ((d.Notify suspended unlogged [.sms] ⟨[], []⟩).1.isOk = false ∧
      (d.Notify suspended unlogged [.sms] ⟨[], []⟩).2.accepted = [.sms "+919876500111" "Ann"]) := by
  decide +kernel

/-! ### The queue tries again -/

/-- A task of the queue: a notice over its channels, or an announcement over one. -/
inductive SendTask where
  | notice (n : Notice) (channels : List Channel)
  | announcement (t : NotificationTask)

/-- One run of the task's handler, with what it has logged and handed over. -/
def SendTask.run (d : Dispatcher) (env : ℕ → Answers) : SendTask → Except String Unit × Outbox
  | notice n channels => d.Notify n env channels ⟨[], []⟩
  | announcement t => d.Dispatch (env 0) t ⟨[], []⟩

/-- The runs that the queue makes of it: another one after each error. -/
def SendTask.runs (d : Dispatcher) (task : SendTask) :
    List (ℕ → Answers) → List (Except String Unit × Outbox)
  | [] => []
  | env :: later => task.run d env :: if (task.run d env).1 = .ok () then [] else task.runs d later

/-- No channel hands its message over in a run and again in a later one. -/
def SentOnce (rs : List (Except String Unit × Outbox)) : Prop :=
  rs.Pairwise fun r later => ∀ m ∈ r.2.accepted, ∀ m' ∈ later.2.accepted, m.channel ≠ m'.channel
  deriving Decidable

variable (d : Dispatcher) (env : ℕ → Answers)

/-- What has been handed over, or that there is nobody to hand it to, can be recorded on some channel. -/
def SendTask.Recorded : SendTask → Prop
  | notice n channels => (∃ x ∈ attempts channels, d.Delivered n env x) →
      ∃ x ∈ attempts channels, (d.Delivered n env x ∨ d.Unreachable n env x) ∧ Dispatcher.Recorded env x
  | announcement t => ¬ Suppressed (env 0) t → d.outcome (env 0) t = .delivered →
      recorded (env 0) t.channel = true

/-- Then, and only then, a run that hands something over is the last one. -/
theorem SendTask.recorded_iff (task : SendTask) :
    task.Recorded d env ↔ ((task.run d env).2.accepted ≠ [] → (task.run d env).1 = .ok ()) := by
  cases task with
  | notice n channels =>
    exact (imp_congr (notify_accepted_iff channels ⟨[], []⟩) (notify_ok_iff channels ⟨[], []⟩)).symm
  | announcement t =>
    by_cases hkept : Suppressed (env 0) t
    · exact iff_of_true (fun h => absurd hkept h) fun _ => dispatch_suppressed hkept
    have htells := dispatch_tells (d := d) (s := ⟨[], []⟩) hkept
    obtain ⟨ms, hms, hdelivered⟩ := htells.accepted
    have hsent : (d.Dispatch (env 0) t ⟨[], []⟩).2.accepted ≠ [] ↔ d.outcome (env 0) t = .delivered := by
      rw [hms]
      exact hdelivered
    unfold SendTask.Recorded SendTask.run
    rw [hsent, htells.returned]
    exact ⟨fun h ho => ⟨.inl ho, h hkept ho⟩, fun h _ ho => (h ho).2⟩

/-- However often the queue retries, no channel hands its message over again exactly if every run that can
    deliver can record it. -/
theorem sentOnce_iff (d : Dispatcher) (task : SendTask) (P : (ℕ → Answers) → Prop) :
    (∀ envs, (∀ env ∈ envs, P env) → SentOnce (task.runs d envs)) ↔ ∀ env, P env → task.Recorded d env := by
  constructor
  · intro h env hP
    rw [SendTask.recorded_iff]
    intro hsent
    by_contra hfailed
    -- the same answers twice
    obtain ⟨m, hm⟩ := exists_mem_of_ne_nil _ hsent
    have htwice := h [env, env] (by simp [hP])
    simp only [SendTask.runs, hfailed, if_false] at htwice
    exact rel_of_pairwise_cons htwice (mem_singleton_self _) m hm m hm rfl
  · intro h envs
    induction envs with
    | nil => exact fun _ => List.Pairwise.nil
    | cons env later ih =>
      intro hP
      have hlast := (SendTask.recorded_iff d env task).mp (h env (hP env mem_cons_self))
      unfold SendTask.runs
      split
      · exact pairwise_singleton _ _
      · rename_i hfailed
        have hnothing : (task.run d env).2.accepted = [] := not_not.mp fun hne => hfailed (hlast hne)
        refine List.Pairwise.cons (fun r _ m hm => ?_) (ih fun e he => hP e (mem_cons_of_mem _ he))
        rw [hnothing] at hm
        cases hm

/-- The SMS is taken and its row cannot be written; the second run sends it again. -/
theorem sms_sent_again :
    let unlogged : ℕ → Answers := fun _ => { plainAnswers with createNotificationLog := .error "no connection" }
    let d : Dispatcher := ⟨true, true, true, true⟩
    ¬ SentOnce ((SendTask.notice suspended [.sms]).runs d [unlogged, fun _ => plainAnswers]) := by
  decide +kernel

end Dispatcher

end IspBss.Notifications
