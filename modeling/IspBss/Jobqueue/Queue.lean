import IspBss.Lib.Program
import IspBss.Lib.Rows
import IspBss.Db.Schema

/-! The task queue: the table `jobqueue_tasks`, the statements that touch it, and the client.

    Each statement is one atomic call. Time is the database's clock, which only moves forward: the
    environment of a step says how much of it has passed since the last one.

        INSERT ──▶ pending ──claim──▶ processing ──complete──▶ completed ──sweep──▶ (gone)
                     ▲                 │  │  │ └──delete────────────────────────▶ (gone)
                     ├──────retry──────┘  │  └──deadLetter──▶ dead ──────sweep──▶ (gone)
                     └──────reap──────────┘

    The drawing is the life the queue intends. The statements that record an outcome match a row by
    its id alone, so each of them also applies to a row in any other state. -/

namespace IspBss.Jobqueue

open Lib

/-! ### The table -/

/-- `jobqueue_tasks.status`. -/
inductive TaskStatus where
  | pending | processing | completed | dead
  deriving DecidableEq, Repr

/-- A `SMALLINT`. -/
abbrev SmallInt := { n : ℤ // -2 ^ 15 ≤ n ∧ n < 2 ^ 15 }

/-- The value as a `SMALLINT`, if it fits. -/
def smallInt? (n : ℤ) : Option SmallInt :=
  if h : -2 ^ 15 ≤ n ∧ n < 2 ^ 15 then some ⟨n, h⟩ else none

/-- The value as an `INTEGER`, if it fits. -/
def integer? (n : ℤ) : Option ℤ := if -2 ^ 31 ≤ n ∧ n < 2 ^ 31 then some n else none

structure TaskRow where
  taskID : Option String
  queue : String
  taskType : String
  payload : List UInt8
  status : TaskStatus
  maxRetry : SmallInt
  retryCount : SmallInt
  timeoutSeconds : Option ℤ
  runAfter : Time
  lockedBy : Option String
  leaseExpiresAt : Option Time
  lastError : Option String
  retentionUntil : Option Time
  completedAt : Option Time
  deriving DecidableEq

/-- The table and the database's clock. -/
structure QueueDB where
  tasks : Serial TaskRow
  clock : Time

/-- A queue nothing has been put into yet. -/
def QueueDB.empty (clock : Time) : QueueDB := ⟨.empty, clock⟩

/-- The columns of an INSERT; the rest have their defaults. `processIn` is the delay of the first
    attempt. -/
structure NewTask where
  taskID : Option String
  queue : String
  taskType : String
  payload : List UInt8
  maxRetry : ℤ
  timeoutSeconds : Option ℤ
  processIn : Time
  retentionUntil : Option Time
  deriving DecidableEq

/-! ### The statements -/

inductive QueueErr where
  | unavailable
  | uniqueViolation
  | outOfRange (column : String)
  deriving DecidableEq

inductive QueueOp where
  | insert (t : NewTask)
  | claim (queue lockedBy : String) (leaseDuration : ℕ)
  | complete (id : ℤ)
  | delete (id : ℤ)
  | deadLetter (id : ℤ) (lastError : String)
  | retry (id : ℤ) (lastError : String) (delay : Time)
  | reap
  | sweep
  deriving DecidableEq

/-- What a statement returns: the id of an insert, the row of a claim, else nothing. -/
@[reducible] def QueueOp.Result : QueueOp → Type
  | insert _ => ℤ
  | claim _ _ _ => Option (ℤ × TaskRow)
  | _ => Unit

/-- A new row, due `processIn` from now. -/
def NewTask.row (t : NewTask) (now : Time) (maxRetry : SmallInt) : TaskRow where
  taskID := t.taskID
  queue := t.queue
  taskType := t.taskType
  payload := t.payload
  status := .pending
  maxRetry := maxRetry
  retryCount := ⟨0, by decide⟩
  timeoutSeconds := t.timeoutSeconds
  runAfter := now + t.processIn
  lockedBy := none
  leaseExpiresAt := none
  lastError := none
  retentionUntil := t.retentionUntil
  completedAt := none

/-- INSERT. The sequence hands out its next id even if the statement then fails. -/
def insertTask (t : NewTask) (s : QueueDB) : Except QueueErr ℤ × QueueDB :=
  let refused := { s with tasks := s.tasks.skip }
  match smallInt? t.maxRetry with
  | none => (.error (.outOfRange "max_retry"), refused)
  | some maxRetry =>
    if t.timeoutSeconds.any fun n => (integer? n).isNone then
      (.error (.outOfRange "timeout_seconds"), refused)
    else if t.taskID.isSome ∧ ∃ x ∈ s.tasks.rows.entries, x.2.taskID = t.taskID then
      (.error .uniqueViolation, refused)
    else (.ok (s.tasks.last + 1), { s with tasks := s.tasks.add (t.row s.clock maxRetry) })

/-- The ends of an INSERT: a number out of range, an id that is taken, or a new row. -/
inductive Inserted (t : NewTask) (s : QueueDB) : Except QueueErr ℤ × QueueDB → Prop where
  | refused (err) (h : smallInt? t.maxRetry = none ∨ t.timeoutSeconds.any fun n => (integer? n).isNone) :
    Inserted t s (.error err, { s with tasks := s.tasks.skip })
  | conflict (h : t.taskID.isSome ∧ ∃ x ∈ s.tasks.rows.entries, x.2.taskID = t.taskID) :
    Inserted t s (.error .uniqueViolation, { s with tasks := s.tasks.skip })
  | added (n : SmallInt) (hn : smallInt? t.maxRetry = some n)
    (h : ¬(t.taskID.isSome ∧ ∃ x ∈ s.tasks.rows.entries, x.2.taskID = t.taskID)) :
    Inserted t s (.ok (s.tasks.last + 1), { s with tasks := s.tasks.add (t.row s.clock n) })

theorem insertTask_cases (t : NewTask) (s : QueueDB) : Inserted t s (insertTask t s) := by
  unfold insertTask
  split
  · exact .refused _ (.inl ‹_›)
  · split
    · exact .refused _ (.inr ‹_›)
    · split
      · exact .conflict ‹_›
      · exact .added _ ‹_› ‹_›

/-- The WHERE clause of the claim: pending, on this queue, and due. -/
def TaskRow.Claimable (r : TaskRow) (queue : String) (now : Time) : Prop :=
  r.status = .pending ∧ r.queue = queue ∧ r.runAfter ≤ now
  deriving Decidable

/-- Earlier in `ORDER BY run_after, id`. -/
def claimOrder (a b : (_ : ℤ) × TaskRow) : Bool :=
  a.2.runAfter < b.2.runAfter ∨ (a.2.runAfter = b.2.runAfter ∧ a.1 ≤ b.1)

/-- The first of a list in that order. -/
def firstInOrder : List ((_ : ℤ) × TaskRow) → Option ((_ : ℤ) × TaskRow)
  | [] => none
  | x :: xs =>
    match firstInOrder xs with
    | none => some x
    | some y => if claimOrder x y then some x else some y

/-- A claimed row. -/
def TaskRow.claimed (r : TaskRow) (lockedBy : String) (lease : Time) : TaskRow :=
  { r with status := .processing, lockedBy := some lockedBy, leaseExpiresAt := some lease }

/-- UPDATE … WHERE id = …. -/
def QueueDB.updateID (s : QueueDB) (id : ℤ) (f : TaskRow → TaskRow) : QueueDB :=
  { s with tasks := s.tasks.updateWhere (fun k _ => k = id) f }

/-- Claim the first due row of the queue that no other statement has locked (SKIP LOCKED). -/
def claimTask (locked : ℤ → Bool) (queue lockedBy : String) (leaseDuration : ℕ) (s : QueueDB) :
    Option (ℤ × TaskRow) × QueueDB :=
  match firstInOrder (s.tasks.rows.entries.filter fun x =>
      !locked x.1 && decide (x.2.Claimable queue s.clock)) with
  | none => (none, s)
  | some x =>
    let lease := s.clock + leaseDuration
    (some (x.1, x.2.claimed lockedBy lease), s.updateID x.1 fun r => r.claimed lockedBy lease)

variable (r : TaskRow)

/-- A row recorded as done. -/
def TaskRow.completed (now : Time) : TaskRow :=
  { r with status := .completed, completedAt := some now, lockedBy := none,
           leaseExpiresAt := none, lastError := none }

/-- A dead-lettered row. -/
def TaskRow.deadLettered (now : Time) (lastError : String) : TaskRow :=
  { r with status := .dead, completedAt := some now, lastError := some lastError,
           lockedBy := none, leaseExpiresAt := none }

/-- A row that waits for its next attempt. -/
def TaskRow.retrying (retryCount : SmallInt) (runAfter : Time) (lastError : String) :
    TaskRow :=
  { r with status := .pending, retryCount := retryCount, lastError := some lastError,
           runAfter := runAfter, lockedBy := none, leaseExpiresAt := none }

/-- A row taken back from a worker presumed dead. -/
def TaskRow.reaped : TaskRow :=
  { r with status := .pending, lockedBy := none, leaseExpiresAt := none,
           lastError := some "lease expired; worker presumed dead" }

/-- The WHERE clause of the reaper. -/
def TaskRow.LeaseExpired (now : Time) : Prop :=
  r.status = .processing ∧ ∃ lease ∈ r.leaseExpiresAt, lease < now
  deriving Decidable

/-- The WHERE clause of the retention sweep. -/
def TaskRow.RetentionOver (now : Time) : Prop :=
  (∃ t ∈ r.retentionUntil, t < now) ∧ (r.status = .completed ∨ r.status = .dead)
  deriving Decidable

/-- Schedule the next attempt; the counter overflows its column after 32767 retries. -/
def retryTask (id : ℤ) (lastError : String) (delay : Time) (s : QueueDB) :
    Except QueueErr Unit × QueueDB :=
  match s.tasks.lookup id with
  | none => (.ok (), s)
  | some r =>
    match smallInt? (r.retryCount + 1) with
    | none => (.error (.outOfRange "retry_count"), s)
    | some n => (.ok (), s.updateID id fun r => r.retrying n (s.clock + delay) lastError)

/-- A statement, given the rows that others have locked. -/
def QueueOp.run (locked : ℤ → Bool) : (op : QueueOp) → QueueDB → Except QueueErr op.Result × QueueDB
  | insert t, s => insertTask t s
  | claim queue lockedBy leaseDuration, s =>
    let (claimed, s') := claimTask locked queue lockedBy leaseDuration s
    (.ok claimed, s')
  | complete id, s => (.ok (), s.updateID id fun r => r.completed s.clock)
  | delete id, s => (.ok (), { s with tasks := s.tasks.deleteWhere fun k _ => k = id })
  | deadLetter id lastError, s => (.ok (), s.updateID id fun r => r.deadLettered s.clock lastError)
  | retry id lastError delay, s => retryTask id lastError delay s
  | reap, s =>
    (.ok (), { s with tasks := s.tasks.updateWhere (fun _ r => r.LeaseExpired s.clock)
                                 TaskRow.reaped })
  | sweep, s => (.ok (), { s with tasks := s.tasks.deleteWhere fun _ r => r.RetentionOver s.clock })

/-! ### The calls of the queue's programs -/

/-- A row this worker holds a lease on. -/
structure ClaimedTask where
  id : ℤ
  taskType : String
  payload : List UInt8
  queue : String
  retryCount : ℤ
  maxRetry : ℤ
  timeout : ℤ
  retained : Bool
  deriving DecidableEq

/-- An error of a handler: its text, and whether it is or wraps `SkipRetry`. -/
structure TaskErr where
  text : String
  skipRetry : Bool
  deriving DecidableEq

/-- How a handler ends. -/
inductive Handled where
  | returned (err : Option TaskErr)
  | panicked (value : String)
  deriving DecidableEq

/-- A statement, the local clock, the shuffle of the queue names, or a handler that is given the type,
    payload, retry count and timeout of a claimed task. -/
inductive QueueCall where
  | stmt (op : QueueOp)
  | timeNow
  | shuffle (order : List String)
  | processTask (ct : ClaimedTask)
  deriving DecidableEq

@[reducible] def QueueCall.Resp : QueueCall → Type
  | stmt op => Except QueueErr op.Result
  | timeNow => Time
  | shuffle _ => List String
  | processTask _ => Handled

@[reducible] def queueSig : Sig := ⟨QueueCall, QueueCall.Resp⟩

/-- What a step is taken in: how much time has passed since the last one, whether the statement fails,
    the rows it must skip, what the local clock reads, how names are shuffled and how a handler
    ends. -/
structure QueueEnv where
  elapsed : ℕ
  fails : Bool
  locked : ℤ → Bool
  localNow : Time
  shuffled : { f : List String → List String // ∀ order, (f order).Perm order }
  handled : Handled

/-- Time passes. -/
def QueueDB.advance (s : QueueDB) (elapsed : ℕ) : QueueDB := { s with clock := s.clock + elapsed }

/-- How a call is answered. A statement that fails leaves the table as it was. -/
def queueExec : Store queueSig QueueEnv QueueDB := fun e c s =>
  match c with
  | .stmt op =>
    if e.fails then (.error .unavailable, s.advance e.elapsed)
    else op.run e.locked (s.advance e.elapsed)
  | .timeNow => (e.localNow, s.advance e.elapsed)
  | .shuffle order => (e.shuffled.1 order, s.advance e.elapsed)
  | .processTask _ => (e.handled, s.advance e.elapsed)

/-- A program of the queue. -/
abbrev QueueProg := Prog queueSig

def sql (op : QueueOp) : QueueProg (Except QueueErr op.Result) :=
  Prog.perform (S := queueSig) (.stmt op)

@[simp] theorem sql_bind {α : Type} (op : QueueOp) (f : Except QueueErr op.Result → QueueProg α) :
    (sql op >>= f) = Prog.call (S := queueSig) (.stmt op) f := rfl

/-! ### The client -/

/-- `jobqueue.Task` with its options; durations are in microseconds. -/
structure ClientTask where
  typ : String
  payload : List UInt8
  queue : String
  maxRetry : ℤ
  timeout : Time
  retention : Time
  taskID : String
  processIn : Time
  deriving DecidableEq

def DefaultQueue : String := "default"

structure TaskInfo where
  id : ℤ
  queue : String
  typ : String
  taskID : String
  deriving DecidableEq

inductive EnqueueErr where
  | taskIDConflict
  | enqueue (typ : String) (e : QueueErr)
  deriving DecidableEq

/-- The INSERT of a task; retention is resolved to an instant when the task is enqueued. -/
def ClientTask.newTask (t : ClientTask) (now : Time) : NewTask where
  taskID := if t.taskID = "" then none else some t.taskID
  queue := if t.queue = "" then DefaultQueue else t.queue
  taskType := t.typ
  payload := t.payload
  maxRetry := t.maxRetry
  timeoutSeconds := if 0 < t.timeout then some (t.timeout / 1000000) else none
  processIn := t.processIn
  retentionUntil := if 0 < t.retention then some (now + t.retention) else none

/-- Queue a task. -/
def Client.EnqueueContext (t : ClientTask) : QueueProg (Except EnqueueErr TaskInfo) := do
  let now ← Prog.perform (S := queueSig) .timeNow
  let row := t.newTask now
  match ← sql (.insert row) with
  | .ok id => return .ok ⟨id, row.queue, t.typ, t.taskID⟩
  | .error .uniqueViolation => return .error .taskIDConflict
  | .error e => return .error (.enqueue t.typ e)

section
variable (t : ClientTask)

/-- What the client makes of the answer to its INSERT. -/
def enqueueAnswer (now : Time) : Except QueueErr ℤ → Except EnqueueErr TaskInfo
  | .ok id => .ok ⟨id, (t.newTask now).queue, t.typ, t.taskID⟩
  | .error .uniqueViolation => .error .taskIDConflict
  | .error e => .error (.enqueue t.typ e)

/-- Queueing is one INSERT, after a look at the clock. -/
theorem run_enqueueContext {ε σ : Type} (M : Store queueSig ε σ) (e : ε) (s : σ) :
    Prog.run M e (Client.EnqueueContext t) s =
      let x := M e .timeNow s
      let y := M e (.stmt (.insert (t.newTask x.1))) x.2
      (enqueueAnswer t x.1 y.1, y.2) := by
  have hnow : Prog.run M e (Prog.perform (S := queueSig) .timeNow) s = M e .timeNow s := rfl
  rw [Client.EnqueueContext, Prog.run_bind, hnow, sql_bind, Prog.run]
  dsimp only
  obtain ⟨r, s'⟩ := M e (.stmt (.insert (t.newTask (M e .timeNow s).1))) (M e .timeNow s).2
  cases r with
  | ok id => rfl
  | error err => cases err <;> rfl

end

end IspBss.Jobqueue
