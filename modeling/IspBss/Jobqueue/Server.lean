import IspBss.Jobqueue.Queue

/-! `jobqueue.Server`: workers, the lease reaper and the retention sweep.

    A worker claims one due task, runs its handler outside any transaction and then records the
    outcome. The lease it took with the claim is not looked at again: `finish` names the row by its id.

        claimNext ──▶ run: handler ──▶ nil ──▶ complete (retained) or delete
                                   ├─▶ error, retries left ──▶ retry (after a backoff)
                                   └─▶ error, none left or SkipRetry ──▶ deadLetter

    A loop of the source that runs until shutdown is a number of rounds here; a worker that crashes is
    a thread that is never scheduled again. -/

namespace IspBss.Jobqueue

open Lib Prog

/-- The part of `jobqueue.Config` that decides what a server does to a task. -/
structure Config where
  queues : List (String × ℤ)
  leaseDuration : ℤ
  retryDelay : Option (ℤ → Time)

/-- A server: its identity, its settings and the task types its mux has a handler for. -/
structure Server where
  id : String
  queues : List (String × ℕ)
  leaseDuration : ℕ
  retryDelay : Option (ℤ → Time)
  handles : List String

/-- Five minutes. -/
def defaultLeaseDuration : ℕ := 300000000

def NewServer (cfg : Config) (id : String) (handles : List String) : Server where
  id := id
  queues :=
    (if cfg.queues.isEmpty then [(DefaultQueue, 1)] else cfg.queues).map fun q =>
      (q.1, (max q.2 1).toNat)
  leaseDuration := if cfg.leaseDuration ≤ 0 then defaultLeaseDuration else cfg.leaseDuration.toNat
  retryDelay := cfg.retryDelay
  handles := handles

/-- In microseconds: 10 s, 30 s, 1 min, 5 min, 15 min, 30 min, 1 h, 2 h. -/
def backoffSchedule : List Time :=
  [10000000, 30000000, 60000000, 300000000, 900000000, 1800000000, 3600000000, 7200000000]

/-- The delay before the next attempt; past the end of the table it stays at the last entry. -/
def backoff (retryCount : ℤ) : Time := backoffSchedule.getD retryCount.toNat 7200000000

/-- What the claim returns to the worker. -/
def TaskRow.claimedTask (r : TaskRow) (id : ℤ) : ClaimedTask where
  id := id
  taskType := r.taskType
  payload := r.payload
  queue := r.queue
  retryCount := r.retryCount
  maxRetry := r.maxRetry
  timeout := r.timeoutSeconds.getD 0
  retained := r.retentionUntil.isSome

/-- The error a handler's end amounts to; a panic is recovered into one. -/
def Handled.err : Handled → Option TaskErr
  | .returned err => err
  | .panicked value => some ⟨"jobqueue: handler panicked: " ++ value, false⟩

namespace Server

/-- The queue names, each as often as its weight says, in an order of chance. -/
def selectionOrder (s : Server) : QueueProg (List String) :=
  perform (S := queueSig) (.shuffle (s.queues.flatMap fun q => List.replicate q.2 q.1))

/-- Try the queues in turn; a failed claim ends the search. -/
def claimFrom (s : Server) : List String → QueueProg (Option ClaimedTask)
  | [] => return none
  | queue :: rest => do
    match ← sql (.claim queue s.id s.leaseDuration) with
    | .error _ => return none
    | .ok none => s.claimFrom rest
    | .ok (some (id, r)) => return some (r.claimedTask id)

/-- Claim one due task, or report that none is ready. -/
def claimNext (s : Server) : QueueProg (Option ClaimedTask) := do
  s.claimFrom (← s.selectionOrder)

/-- Record a task's outcome: completed, scheduled for retry, or dead. A write that fails is only
    logged. -/
def finish (s : Server) (ct : ClaimedTask) (taskErr : Option TaskErr) (skipRetry : Bool) :
    QueueProg Unit :=
  match taskErr with
  | none =>
    if ct.retained then (sql (.complete ct.id)).void else (sql (.delete ct.id)).void
  | some err =>
    if skipRetry ∨ ct.maxRetry ≤ ct.retryCount then (sql (.deadLetter ct.id err.text)).void
    else
      let delay := (s.retryDelay.getD backoff) ct.retryCount
      (sql (.retry ct.id err.text delay)).void

/-- Execute one claimed task and record the outcome. -/
def run (s : Server) (ct : ClaimedTask) : QueueProg Unit :=
  if ct.taskType ∈ s.handles then do
    let handled ← perform (S := queueSig) (.processTask ct)
    s.finish ct handled.err (handled.err.any TaskErr.skipRetry)
  else
    s.finish ct (some ⟨"jobqueue: no handler registered for " ++ ct.taskType.quote, false⟩) true

/-- Claim and run one task, if one is ready. -/
def round (s : Server) : QueueProg Unit := do
  match ← s.claimNext with
  | none => return ()
  | some ct => s.run ct

/-- One goroutine claiming and running tasks. -/
def worker (s : Server) (rounds : ℕ) : QueueProg Unit :=
  each (fun _ => s.round) (List.range rounds)

/-- Return tasks whose worker died to the pending pool, at every tick. -/
def reapExpiredLeases (ticks : ℕ) : QueueProg Unit :=
  each (fun _ => (sql .reap).void) (List.range ticks)

/-- Delete finished rows whose retention window has passed, at every tick. -/
def sweepRetained (ticks : ℕ) : QueueProg Unit :=
  each (fun _ => (sql .sweep).void) (List.range ticks)

end Server

/-! ### All of them together -/

/-- Whoever touches the queue: a producer, or a goroutine of some server. -/
inductive Actor where
  | client (t : ClientTask)
  | worker (s : Server) (rounds : ℕ)
  | reaper (ticks : ℕ)
  | sweeper (ticks : ℕ)

def Actor.prog : Actor → QueueProg Unit
  | client t => (Client.EnqueueContext t).void
  | worker s rounds => s.worker rounds
  | reaper ticks => Server.reapExpiredLeases ticks
  | sweeper ticks => Server.sweepRetained ticks

/-! ### What a worker holds -/

/-- A worker's hold on a task: the row as its claim left it, and how its handler has ended. -/
structure Holding where
  id : ℤ
  row : TaskRow
  ran : Option (Option TaskErr)
  deriving DecidableEq

def Holding.ct (h : Holding) : ClaimedTask := h.row.claimedTask h.id

/-- The task a call has claimed. -/
def claimedBy : (c : QueueCall) → c.Resp → Option (ℤ × TaskRow)
  | .stmt (.claim _ _ _), r =>
    match (r : Except QueueErr (Option (ℤ × TaskRow))) with
    | .ok claimed => claimed
    | .error _ => none
  | _, _ => none

/-- A thread's record: the task it has claimed and not yet recorded an outcome of. -/
def holding : Watch queueSig (Option Holding)
  | w, .stmt (.claim queue lockedBy d), r =>
    match claimedBy (.stmt (.claim queue lockedBy d)) r with
    | some (id, row) => some ⟨id, row, none⟩
    | none => w
  | w, .processTask _, r => w.map fun h => { h with ran := some r.err }
  | _, .stmt (.complete _), _ => none
  | _, .stmt (.delete _), _ => none
  | _, .stmt (.deadLetter _ _), _ => none
  | _, .stmt (.retry _ _ _), _ => none
  | w, _, _ => w

/-- The queue with the history of the calls made. -/
abbrev QueueEvent := Event queueSig QueueEnv QueueDB

abbrev QueuePool := Pool queueSig (Option Holding) (QueueDB × List QueueEvent)

/-- All actors at their beginning, over an empty queue. -/
def queuePool (clock : Time) (actors : List Actor) : QueuePool :=
  Pool.start none (.empty clock, []) (actors.map Actor.prog)

/-- One call of one of them. -/
abbrev stepQueue (p : QueuePool) (i : ℕ) (e : QueueEnv) : QueuePool :=
  Pool.step (traced queueExec) holding p i e

/-- The states a schedule leads through. -/
abbrev runQueue (p : QueuePool) (sched : List (ℕ × QueueEnv)) : QueuePool :=
  Pool.run (traced queueExec) holding p sched

end IspBss.Jobqueue
