import IspBss.Props.QueueRetries

/-! Is a task ever lost?

    A row leaves the table in two ways: a worker whose handler returned nil deletes a row that is not
    retained, and the sweep deletes rows that are completed or dead. Late finishers, crashes and the
    reaper rewrite rows but remove none.

        delete ◀── handler returned nil
        sweep  ◀── completed ◀── handler returned nil
               ◀── dead      ◀── dead-lettered

    A row that is processing always carries a lease that ends after the task became due, so once the
    lease is over the reaper makes it claimable. -/

namespace IspBss.Jobqueue

open Lib List Pool

section
variable {id : ℤ} {hist : List QueueEvent} {w : Option Holding} {c : QueueCall}

/-- The event is a run of a handler for the task that returned nil. -/
def isSuccess (id : ℤ) : QueueEvent → Bool
  | ⟨_, _, .processTask ct, r, _⟩ => ct.id = id ∧ Handled.err r = none
  | _ => false

/-- Some handler run for the task returned nil. -/
def Succeeded (id : ℤ) (hist : List QueueEvent) : Prop := hist.any (isSuccess id) = true

/-- The task was dead-lettered: after some call its row was dead. -/
def WasDead (id : ℤ) (hist : List QueueEvent) : Prop :=
  ∃ ev ∈ hist, ∃ row, ev.post.tasks.lookup id = some row ∧ row.status = .dead

/-- The task was done or given up. -/
def Settled (id : ℤ) (hist : List QueueEvent) : Prop := Succeeded id hist ∨ WasDead id hist

theorem Succeeded.mono (ev : QueueEvent) (h : Succeeded id hist) : Succeeded id (hist ++ [ev]) := by
  rw [Succeeded, any_append, h, Bool.true_or]

theorem WasDead.mono (ev : QueueEvent) (h : WasDead id hist) : WasDead id (hist ++ [ev]) := by
  obtain ⟨ev', hmem, hrow⟩ := h
  exact ⟨ev', mem_append_left _ hmem, hrow⟩

/-- What a row's state says about the past, and about its lease. -/
structure Explained (id : ℤ) (hist : List QueueEvent) (row : TaskRow) : Prop where
  completed : row.status = .completed → Succeeded id hist
  dead : row.status = .dead → WasDead id hist
  leased : row.status = .processing → ∃ lease, row.leaseExpiresAt = some lease ∧ row.runAfter ≤ lease

/-- A row that waits needs no explanation. -/
theorem Explained.of_pending {row : TaskRow} (h : row.status = .pending) : Explained id hist row := by
  constructor <;> intro hst <;> rw [h] at hst <;> cases hst

/-- What is known of a task from its row: the past explains it, and without one the task is settled if it was
    ever enqueued. -/
def KeptRow (id : ℤ) (hist : List QueueEvent) : Option TaskRow → Prop
  | some row => Explained id hist row
  | none => ∀ ev ∈ hist, insertedBy ev.call ev.resp = some id → Settled id hist

/-- Every enqueued task is there or settled, and who is about to record a success has seen one. -/
structure Kept (id : ℤ) (p : QueuePool) : Prop where
  serving : Serving p
  seen : ∀ i h, Holds id p i h → h.ran = some none → Succeeded id p.shared.2
  row : KeptRow id p.shared.2 (p.shared.1.tasks.lookup id)

theorem kept_start (id : ℤ) (clock : Time) (actors : List Actor) : Kept id (queuePool clock actors) := by
  refine ⟨serving_start clock actors, ?_, fun ev hev => by cases hev⟩
  rintro i h ⟨-, q, hi⟩
  simp [queuePool, start] at hi

/-- Who completes or deletes a task has seen its handler return nil. -/
theorem Serves.success (hs : Serves w c) (hc : c = .stmt (.complete id) ∨ c = .stmt (.delete id)) :
    ∃ h : Holding, w = some h ∧ h.id = id ∧ h.ran = some none := by
  cases hs with
  | complete h hran =>
    simp only [QueueCall.stmt.injEq, QueueOp.complete.injEq, reduceCtorEq, or_false] at hc
    exact ⟨h, rfl, hc, hran⟩
  | delete h hran _ =>
    simp only [QueueCall.stmt.injEq, QueueOp.delete.injEq, reduceCtorEq, false_or] at hc
    exact ⟨h, rfl, hc, hran⟩
  | _ => simp at hc

/-- Holds that know of a success know of a real one. -/
theorem Kept.seen_step {p : QueuePool} {i : ℕ} {e : QueueEnv} {k : c.Resp → QueueProg Unit} (hp : Kept id p)
    (hi : p.Calling i w c k) (j : ℕ) (h' : Holding)
    (hj : Holds id (stepQueue p i e) j h') (hran : h'.ran = some none) :
    Succeeded id (p.shared.2 ++ [calledIn p e c]) := by
  obtain ⟨hid, q, hq⟩ := hj
  rcases step_thread hi hq with ⟨rfl, hw, -⟩ | ⟨-, hold⟩
  · rcases holding_cases (hp.serving.allowed hi) hw.symm with
      ⟨h, rfl, hid₀, -, -, rfl | ⟨rfl, -⟩⟩ | ⟨-, -, hnone⟩
    · exact (hp.seen j h' ⟨hid, _, hi⟩ hran).mono _
    · -- the handler has just returned
      cases hw
      have hsuccess : isSuccess id (calledIn p e (.processTask h.ct)) = true :=
        decide_eq_true ⟨hid, Option.some.inj hran⟩
      rw [Succeeded, any_append, any_cons, hsuccess, Bool.true_or, Bool.or_true]
    · rw [hran] at hnone
      cases hnone
  · exact (hp.seen j h' ⟨hid, q, hold⟩ hran).mono _

/-- One step loses nothing that is not settled. -/
theorem kept_step (p : QueuePool) (i : ℕ) (e : QueueEnv) (hp : Kept id p) : Kept id (stepQueue p i e) := by
  refine step_ind hp fun w c k hi => ?_
  have hseen := hp.seen_step hi (e := e)
  refine ⟨serving_step hp.serving i e, ?_, ?_⟩ <;> rw [traced_shared hi]
  · exact hseen
  -- a success that the worker has seen
  have hsucceeded : (c = .stmt (.complete id) ∨ c = .stmt (.delete id)) → Succeeded id p.shared.2 := by
    intro hc
    obtain ⟨h, rfl, hid, hran⟩ := (hp.serving.allowed hi).success hc
    exact hp.seen i h ⟨hid, _, hi⟩ hran
  have hkept := hp.row
  obtain ⟨r, o, o', hr, ho, ho', hrow⟩ := queueExec_rows e c p.shared.1 id
  rw [ho] at hkept
  dsimp only
  rw [ho']
  cases hrow with
  | untouched _ _ _ _ hinsert =>
    -- what was settled stays settled, what explained a row still does
    cases o with
    | some row => exact ⟨fun h => (hkept.completed h).mono _, fun h => (hkept.dead h).mono _, hkept.leased⟩
    | none =>
      intro ev hev hins
      rcases mem_append.mp hev with hev | hev
      · exact (hkept ev hev hins).imp (Succeeded.mono _) (WasDead.mono _)
      · cases mem_singleton.mp hev
        subst hr
        exact absurd hins hinsert
  | inserted t n hn hid => exact .of_pending rfl
  | claimed queue lockedBy d row hclaim =>
    refine ⟨nofun, nofun, fun _ => ⟨_, rfl, ?_⟩⟩
    exact hclaim.2.2.trans (by linarith [Int.natCast_nonneg d])
  | completed row => exact ⟨fun _ => (hsucceeded (.inl rfl)).mono _, nofun, nofun⟩
  | deleted row => exact fun _ _ _ => .inl ((hsucceeded (.inr rfl)).mono _)
  | deadLettered text row =>
    exact ⟨nofun, fun h => ⟨_, mem_append_right _ (mem_singleton_self _), _, ho', h⟩, nofun⟩
  | retried text delay row n hn => exact .of_pending rfl
  | reaped row hexpired => exact .of_pending rfl
  | swept row hover =>
    exact fun _ _ _ => hover.2.imp (fun h => (hkept.completed h).mono _) fun h => (hkept.dead h).mono _

/-- The reaper gives a task whose lease is over back to whoever asks its queue. -/
theorem Explained.reaped {row : TaskRow} {s : QueueDB}
    (h : Explained id hist row) (hrow : s.tasks.lookup id = some row) (hst : row.status = .processing) :
    ∃ lease, row.leaseExpiresAt = some lease ∧ ∀ e : QueueEnv, e.fails = false →
      lease < s.clock + e.elapsed →
      ∃ row', (queueExec e (.stmt .reap) s).2.tasks.lookup id = some row' ∧
        row'.Claimable row.queue (queueExec e (.stmt .reap) s).2.clock := by
  obtain ⟨lease, hlease, hdue⟩ := h.leased hst
  refine ⟨lease, hlease, fun e hf hlt => ⟨row.reaped, ?_, rfl, rfl, ?_⟩⟩
  · have hexpired : row.LeaseExpired (s.clock + e.elapsed) := ⟨hst, lease, hlease, hlt⟩
    simp only [queueExec, hf, Bool.false_eq_true, if_false, QueueOp.run, QueueDB.advance,
      Serial.lookup_updateWhere, hrow, Option.map_some, hexpired, decide_true, if_true]
  · rw [queueExec_clock]
    exact hdue.trans hlt.le

/-- Any run of clients, workers, reapers and sweepers: an enqueued task is in the table unless a handler
    run for it returned nil or it was dead-lettered; and a row that is processing has a lease after
    which any pass of the reaper makes it claimable again. -/
theorem no_task_lost (clock : Time) (actors : List Actor) (sched : List (ℕ × QueueEnv)) (id : ℤ) :
    let p := runQueue (queuePool clock actors) sched
    (∀ ev ∈ p.shared.2, insertedBy ev.call ev.resp = some id →
      (∃ row, p.shared.1.tasks.lookup id = some row) ∨ Settled id p.shared.2) ∧
    ∀ row, p.shared.1.tasks.lookup id = some row → row.status = .processing →
      ∃ lease, row.leaseExpiresAt = some lease ∧ ∀ e : QueueEnv, e.fails = false →
        lease < p.shared.1.clock + e.elapsed →
        ∃ row', (queueExec e (.stmt .reap) p.shared.1).2.tasks.lookup id = some row' ∧
          row'.Claimable row.queue (queueExec e (.stmt .reap) p.shared.1).2.clock := by
  intro p
  have hp : Kept id p := run_inv (C := fun _ _ _ => True) (fun q i e hq _ => kept_step q i e hq)
    sched _ (kept_start id clock actors) (meets_of_forall (fun _ _ _ => trivial) sched _)
  have hkept := hp.row
  refine ⟨fun ev hev hins => ?_, fun row hrow hst => ?_⟩
  · cases hrow : p.shared.1.tasks.lookup id with
    | some row => exact .inl ⟨row, rfl⟩
    | none =>
      rw [hrow] at hkept
      exact .inr (hkept ev hev hins)
  · rw [hrow] at hkept
    exact Explained.reaped hkept hrow hst

end

end IspBss.Jobqueue
