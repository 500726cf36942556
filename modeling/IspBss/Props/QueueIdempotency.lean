import IspBss.Props.QueueRetries

/-! Does a completed task keep its TaskID for as long as it is retained?

    `Retention(d)` is resolved to an instant when the task is enqueued, and the sweep compares that
    instant with the clock. Retries and backoff put the completion later, and what is left of `d` by then
    is all the protection the id has:

        enqueue ───── retries ───── complete ─── enqueue + d ─────────────── complete + d
                                       │ the id is refused │ once swept, accepted │

    Only the sweep removes a retained row: a worker deletes a task only if its claim found it with no
    retention. Where no sweep removes the row sooner than `d` after a completion, the id is refused for
    the whole of `d`. -/

namespace IspBss.Jobqueue

open Lib Prog List Option Pool

/-! ### The promise and its condition -/

/-- The event enqueued this task under this id, whatever the producer's clock read. -/
def EnqueuesTask (t : ClientTask) (id : ℤ) (ev : QueueEvent) : Prop :=
  ∃ now, ev.call = .stmt (.insert (t.newTask now)) ∧ insertedBy ev.call ev.resp = some id

/-- The event recorded that the task was done; it did so at `ev.post.clock`. -/
def Completes (id : ℤ) (ev : QueueEvent) : Prop :=
  ev.call = .stmt (.complete id) ∧ ev.env.fails = false ∧ (ev.pre.tasks.lookup id).isSome
  deriving Decidable

/-- The condition: a sweep that removes the task comes no sooner than `d` after each time it was
    recorded as done. -/
def SweptAfter (id : ℤ) (d : Time) (p : QueuePool) (i : ℕ) (e : QueueEnv) : Prop :=
  match p.threads[i]? with
  | some (_, .call (.stmt .sweep) _) =>
    e.fails = false → ∀ row ∈ p.shared.1.tasks.lookup id,
      row.RetentionOver (p.shared.1.clock + e.elapsed) →
        ∀ ev ∈ p.shared.2, Completes id ev → ev.post.clock + d ≤ p.shared.1.clock + e.elapsed
  | _ => True

variable {id : ℤ} {row : TaskRow} {d : Time} {p : QueuePool} {i : ℕ} {e : QueueEnv}

theorem SweptAfter.over {w : Option Holding} {k : Except QueueErr Unit → QueueProg Unit}
    (h : SweptAfter id d p i e) (hi : p.Calling i w (.stmt .sweep) k)
    (hf : e.fails = false) (hrow : p.shared.1.tasks.lookup id = some row)
    (hover : row.RetentionOver (p.shared.1.clock + e.elapsed)) {ev : QueueEvent}
    (hev : ev ∈ p.shared.2) (hdone : Completes id ev) : ev.post.clock + d ≤ p.shared.1.clock + e.elapsed := by
  rw [SweptAfter, hi] at h
  exact h hf row hrow hover ev hev hdone

/-- The columns of the task that have a range of their own are within it. -/
def ClientTask.Fits (t : ClientTask) : Prop :=
  (smallInt? t.maxRetry).isSome ∧
    ¬ (0 < t.timeout ∧ (integer? (t.timeout / 1000000)).isNone)
  deriving Decidable

/-! ### A row keeps its id and its retention -/

variable {now : Time} {next : ℤ} {c : QueueCall} {r : c.Resp} {old : TaskRow} {s : QueueDB} {t : ClientTask}

/-- What no statement changes in a row it leaves there. -/
theorem RowChange.keeps {new : TaskRow} (h : RowChange now next id c r (some old) (some new)) :
    new.taskID = old.taskID ∧ new.retentionUntil = old.retentionUntil := by
  cases h <;> exact ⟨rfl, rfl⟩

/-- A row disappears when a worker deletes it, or the sweep. -/
theorem RowChange.gone (h : RowChange now next id c r (some old) none) :
    c = .stmt (.delete id) ∨ (c = .stmt .sweep ∧ old.RetentionOver now) := by
  cases h with
  | deleted => exact .inl rfl
  | swept _ hover => exact .inr ⟨rfl, hover⟩

/-- A row appears when it is inserted, under the next id. -/
theorem RowChange.new {new : TaskRow} (h : RowChange now next id c r none (some new)) :
    id = next ∧ ∃ t : NewTask, c = .stmt (.insert t) ∧ new.taskID = t.taskID ∧
      new.retentionUntil = t.retentionUntil := by
  cases h with
  | inserted t n hn hid => exact ⟨hid, t, rfl, rfl, rfl⟩

/-- A task that is already there under its TaskID is refused. -/
theorem insertTask_conflict {t : NewTask}
    (hrow : s.tasks.lookup id = some row) (hkey : t.taskID.isSome) (hsame : row.taskID = t.taskID) :
    (insertTask t s).2.tasks.rows = s.tasks.rows ∧
      ((smallInt? t.maxRetry).isSome → ¬ (t.timeoutSeconds.any fun n => (integer? n).isNone) →
        (insertTask t s).1 = .error .uniqueViolation) := by
  have hmem : ∃ x ∈ s.tasks.rows.entries, x.2.taskID = t.taskID :=
    ⟨⟨id, row⟩, AList.mem_lookup_iff.mp hrow, hsame⟩
  have hends := insertTask_cases t s
  generalize insertTask t s = x at hends ⊢
  cases hends with
  | refused err hout =>
    refine ⟨rfl, fun hretry htimeout => ?_⟩
    rcases hout with hnone | hout
    · rw [hnone] at hretry
      cases hretry
    · exact absurd hout htimeout
  | conflict => exact ⟨rfl, fun _ _ => rfl⟩
  | added n _ hfree => exact absurd ⟨hkey, hmem⟩ hfree

/-- Only a task claimed with no retention is deleted. -/
theorem Serves.deletes {w : Option Holding} (h : Serves w (.stmt (.delete id))) :
    ∃ h : Holding, w = some h ∧ h.id = id ∧ h.row.retentionUntil = none := by
  cases h with
  | delete h _ hretention => exact ⟨h, rfl, rfl, hretention⟩

/-! ### The invariant -/

/-- The row answers to the TaskID and is retained. -/
structure KeyedBy (t : ClientTask) (row : TaskRow) : Prop where
  taskID : row.taskID = some t.taskID
  retained : row.retentionUntil.isSome

/-- The history knows of the task: it was enqueued, or recorded as done. -/
def Known (t : ClientTask) (id : ℤ) (hist : List QueueEvent) : Prop :=
  ∃ ev ∈ hist, EnqueuesTask t id ev ∨ Completes id ev

/-- A retained task keeps its row, and with it its TaskID, while its window runs. -/
structure Idempotent (t : ClientTask) (id : ℤ) (p : QueuePool) : Prop where
  serving : Serving p
  issued : Known t id p.shared.2 ∨ (∃ i h, Holds id p i h) → id ≤ p.shared.1.tasks.last
  stored : ∀ ev ∈ p.shared.2, EnqueuesTask t id ev → ∀ row, p.shared.1.tasks.lookup id = some row →
    KeyedBy t row
  held : ∀ ev ∈ p.shared.2, EnqueuesTask t id ev → ∀ i h, Holds id p i h → h.row.retentionUntil.isSome
  kept : ∀ ev ∈ p.shared.2, EnqueuesTask t id ev → ∀ ev' ∈ p.shared.2, Completes id ev' →
    p.shared.1.clock < ev'.post.clock + t.retention → ∃ row, p.shared.1.tasks.lookup id = some row

theorem idempotent_start (t : ClientTask) (id : ℤ) (clock : Time) (actors : List Actor) :
    Idempotent t id (queuePool clock actors) := by
  have hnone : ∀ ev, ev ∉ (queuePool clock actors).shared.2 := fun ev hev => by cases hev
  refine ⟨serving_start clock actors, ?_, ?_, ?_, ?_⟩
  · rintro (⟨ev, hev, -⟩ | ⟨i, h, -, q, hi⟩)
    · exact absurd hev (hnone ev)
    · simp [queuePool, start] at hi
  · exact fun ev hev => absurd hev (hnone ev)
  · exact fun ev hev => absurd hev (hnone ev)
  · exact fun ev hev => absurd hev (hnone ev)

section
variable {t : ClientTask} {id : ℤ} {p : QueuePool} {i : ℕ} {e : QueueEnv} {w : Option Holding}
  {c : QueueCall} {k : c.Resp → QueueProg Unit} {ev : QueueEvent}

/-- The row of a client's retained task. -/
theorem ClientTask.keyed {now : Time} {row : TaskRow} (hkey : t.taskID ≠ "") (hd : 0 < t.retention)
    (hid : row.taskID = (t.newTask now).taskID)
    (huntil : row.retentionUntil = (t.newTask now).retentionUntil) : KeyedBy t row := by
  constructor
  · rw [hid, ClientTask.newTask, if_neg hkey]
  · rw [huntil, ClientTask.newTask, if_pos hd]
    rfl

/-- What the history knows after a call it knew before, or the id has just been handed out, or the row
    is there. -/
theorem known_after (h : Known t id (p.shared.2 ++ [calledIn p e c])) :
    Known t id p.shared.2 ∨ insertedBy c (queueExec e c p.shared.1).1 = some id ∨
      ∃ row, p.shared.1.tasks.lookup id = some row := by
  obtain ⟨ev, hev, hknown⟩ := h
  rcases mem_append.mp hev with hev | hev
  · exact .inl ⟨ev, hev, hknown⟩
  · cases mem_singleton.mp hev
    rcases hknown with ⟨now, -, hins⟩ | ⟨-, -, hrow⟩
    · exact .inr (.inl hins)
    · exact .inr (.inr (isSome_iff_exists.mp hrow))

/-- An id that is known or held is one the sequence has handed out. -/
theorem Idempotent.issued_step (hp : Idempotent t id p) (hi : p.Calling i w c k)
    (h : Known t id (p.shared.2 ++ [calledIn p e c]) ∨
      ∃ j h', Holds id (stepQueue p i e) j h') : id ≤ (queueExec e c p.shared.1).2.tasks.last := by
  obtain ⟨hle, hnext⟩ := queueExec_last e c p.shared.1
  rcases h with hknown | ⟨j, h', hj⟩
  · rcases known_after hknown with hknown | hins | ⟨row, hrow⟩
    · exact (hp.issued (.inl hknown)).trans hle
    · obtain ⟨rfl, hlast⟩ := hnext id hins
      exact hlast.ge
    · exact (Serial.le_last_of_lookup hrow).trans hle
  · rcases holds_after hp.serving hi hj with ⟨h₀, hj, -⟩ | ⟨-, hclaim, -⟩
    · exact (hp.issued (.inr ⟨j, h₀, hj⟩)).trans hle
    · exact Serial.le_last_of_lookup (claimed_spec hclaim).2.1

/-- The step that enqueues the task: nobody has heard of its id before. -/
theorem Idempotent.enqueued (hp : Idempotent t id p) (hi : p.Calling i w c k)
    (hkey : t.taskID ≠ "") (hd : 0 < t.retention) (hnew : EnqueuesTask t id (calledIn p e c)) :
    (∃ row, (queueExec e c p.shared.1).2.tasks.lookup id = some row ∧ KeyedBy t row) ∧
      ∀ j h', ¬ Holds id (stepQueue p i e) j h' := by
  obtain ⟨now, hcall, hins⟩ := hnew
  obtain ⟨hid, -⟩ := (queueExec_last e c p.shared.1).2 id hins
  obtain rfl : c = .stmt (.insert (t.newTask now)) := hcall
  have hrow := queueExec_row e (.stmt (.insert (t.newTask now))) p.shared.1 id
  constructor
  · rw [hid, Serial.lookup_next, ← hid] at hrow
    dsimp only [calledIn, eventAt] at hins
    generalize (queueExec e (.stmt (.insert (t.newTask now))) p.shared.1).2.tasks.lookup id = o'
      at hrow ⊢
    generalize (queueExec e (.stmt (.insert (t.newTask now))) p.shared.1).1 = r at hrow hins
    cases hrow with
    | untouched _ _ _ _ hnot => exact absurd hins hnot
    | inserted _ n hn _ => exact ⟨_, rfl, ClientTask.keyed hkey hd rfl rfl⟩
  · intro j h' hj
    rcases holds_after hp.serving hi hj with ⟨h₀, hj, -⟩ | ⟨-, hclaim, -⟩
    · have := hp.issued (.inr ⟨j, h₀, hj⟩)
      omega
    · cases hclaim

/-- A step after the task was enqueued: its row, where it stays, is still the same task's, and so is what
    is held of it. -/
theorem Idempotent.later (hp : Idempotent t id p) (hi : p.Calling i w c k) (hev : ev ∈ p.shared.2) (henq : EnqueuesTask t id ev) :
    (∀ row, (queueExec e c p.shared.1).2.tasks.lookup id = some row → KeyedBy t row) ∧
      ∀ j h', Holds id (stepQueue p i e) j h' →
        h'.row.retentionUntil.isSome := by
  have hissued := hp.issued (.inl ⟨ev, hev, .inl henq⟩)
  have hkeyed : ∀ row, (queueExec e c p.shared.1).2.tasks.lookup id = some row → KeyedBy t row := by
    intro row hrow
    have hchange := queueExec_row e c p.shared.1 id
    rw [hrow] at hchange
    cases hold : p.shared.1.tasks.lookup id with
    | none =>
      rw [hold] at hchange
      obtain ⟨hid, -⟩ := hchange.new
      omega
    | some old =>
      rw [hold] at hchange
      obtain ⟨hsame, huntil⟩ := hchange.keeps
      have hold := hp.stored ev hev henq old hold
      exact ⟨hsame.trans hold.taskID, huntil ▸ hold.retained⟩
  refine ⟨hkeyed, fun j h' hj => ?_⟩
  rcases holds_after hp.serving hi hj with ⟨h₀, hj, hrow, -⟩ | ⟨-, hclaim, -⟩
  · rw [hrow]
    exact hp.held ev hev henq j h₀ hj
  · exact (hkeyed _ (claimed_spec hclaim).2.1).retained

/-- A step while the window runs leaves the row where it is. -/
theorem Idempotent.stays (hp : Idempotent t id p) (hi : p.Calling i w c k)
    (hswept : SweptAfter id t.retention p i e) {ev' : QueueEvent} (hev : ev ∈ p.shared.2)
    (henq : EnqueuesTask t id ev) (hev' : ev' ∈ p.shared.2) (hdone : Completes id ev')
    (hwindow : p.shared.1.clock + e.elapsed < ev'.post.clock + t.retention) :
    ∃ row, (queueExec e c p.shared.1).2.tasks.lookup id = some row := by
  obtain ⟨old, hold⟩ := hp.kept ev hev henq ev' hev' hdone
    (by linarith [Int.natCast_nonneg e.elapsed])
  by_contra hgone
  rw [not_exists] at hgone
  have hchange := queueExec_row e c p.shared.1 id
  rw [hold, eq_none_iff_forall_ne_some.mpr hgone] at hchange
  rcases hchange.gone with rfl | ⟨rfl, hover⟩
  · obtain ⟨h, rfl, hid, hnone⟩ := (hp.serving.allowed hi).deletes
    have hsome := hp.held ev hev henq i h ⟨hid, _, hi⟩
    rw [hnone] at hsome
    cases hsome
  · by_cases hf : e.fails = true
    · -- a sweep that fails removes nothing
      refine hgone old ?_
      simp only [queueExec, hf, if_true]
      exact hold
    · exact absurd (hswept.over hi (by simpa using hf) hold hover hev' hdone) (not_le.mpr hwindow)

end

/-- One step keeps the TaskID of a retained task taken. -/
theorem idempotent_step (hkey : t.taskID ≠ "") (hd : 0 < t.retention)
    (p : QueuePool) (i : ℕ) (e : QueueEnv) (hp : Idempotent t id p) (hswept : SweptAfter id t.retention p i e) :
    Idempotent t id (stepQueue p i e) := by
  refine step_ind hp fun w c k hi => ?_
  have hissued := hp.issued_step hi (e := e)
  have hrows : ∀ ev ∈ p.shared.2 ++ [calledIn p e c], EnqueuesTask t id ev →
      (∀ row, (queueExec e c p.shared.1).2.tasks.lookup id = some row → KeyedBy t row) ∧
        ∀ j h', Holds id (stepQueue p i e) j h' →
          h'.row.retentionUntil.isSome := by
    intro ev hev henq
    rcases mem_append.mp hev with hev | hev
    · exact hp.later hi hev henq
    · cases mem_singleton.mp hev
      obtain ⟨⟨row, hrow, hkeyed⟩, hfree⟩ := hp.enqueued hi hkey hd henq
      refine ⟨fun row' hrow' => ?_, fun j h' hj => absurd hj (hfree j h')⟩
      rw [hrow] at hrow'
      cases hrow'
      exact hkeyed
  refine ⟨serving_step hp.serving i e, ?_, ?_,
    ?_, ?_⟩ <;> rw [traced_shared hi]
  · exact hissued
  · exact fun ev hev henq => (hrows ev hev henq).1
  · exact fun ev hev henq => (hrows ev hev henq).2
  · intro ev hev henq ev' hev' hdone hwindow
    rw [queueExec_clock] at hwindow
    rcases mem_append.mp hev with hev | hev
    · rcases mem_append.mp hev' with hev' | hev'
      · exact hp.stays hi hswept hev henq hev' hdone hwindow
      · -- the row has just been recorded as done
        cases mem_singleton.mp hev'
        obtain ⟨hcall, hf, hrow⟩ := hdone
        obtain rfl : c = .stmt (.complete id) := hcall
        simp only [eventAt] at hf hrow
        obtain ⟨row, hrow⟩ := isSome_iff_exists.mp hrow
        refine ⟨row.completed (p.shared.1.clock + e.elapsed), ?_⟩
        simp only [queueExec, hf, Bool.false_eq_true, if_false, QueueOp.run, lookup_updateID, if_true,
          QueueDB.advance, hrow, map_some]
    · cases mem_singleton.mp hev
      obtain ⟨⟨row, hrow, -⟩, -⟩ := hp.enqueued hi hkey hd henq
      exact ⟨row, hrow⟩

/-- A client that enqueues a task whose TaskID is taken adds nothing, and is told so if the statement
    gets as far as the index. -/
theorem enqueueContext_conflict
    (hrow : s.tasks.lookup id = some row) (hkey : t.taskID ≠ "") (hsame : row.taskID = some t.taskID)
    (e : QueueEnv) :
    (run queueExec e (Client.EnqueueContext t) s).2.tasks.rows = s.tasks.rows ∧
      (e.fails = false → t.Fits →
        (run queueExec e (Client.EnqueueContext t) s).1 = .error .taskIDConflict) := by
  have hid : (t.newTask e.localNow).taskID = some t.taskID := if_neg hkey
  obtain ⟨hrows, hconflict⟩ := insertTask_conflict
    (s := (s.advance e.elapsed).advance e.elapsed) hrow (by rw [hid]; rfl) (hsame.trans hid.symm)
  have hrun : run queueExec e (Client.EnqueueContext t) s =
      let x := queueExec e (.stmt (.insert (t.newTask e.localNow))) (s.advance e.elapsed)
      (enqueueAnswer t e.localNow x.1, x.2) := run_enqueueContext t queueExec e s
  rw [hrun, queueExec]
  by_cases hf : e.fails = true
  · rw [if_pos hf, hf]
    exact ⟨rfl, fun h => by cases h⟩
  · rw [if_neg hf]
    refine ⟨hrows, fun _ hfits => congrArg (enqueueAnswer t e.localNow) (hconflict hfits.1 ?_)⟩
    obtain ⟨-, hrange⟩ := hfits
    simp only [ClientTask.newTask]
    split
    · rename_i hpos
      simpa [hpos] using hrange
    · simp

/-- Any run of clients, workers, reapers and sweepers in which no sweep removes the task sooner than
    its retention after a completion: from a completion until that time, whoever enqueues a task of the
    same TaskID adds none, and is told of the conflict. -/
theorem completed_taskID_conflicts (clock : Time) (actors : List Actor) (t : ClientTask) (id : ℤ)
    (hkey : t.taskID ≠ "") (sched : List (ℕ × QueueEnv))
    (hswept : Meets (traced queueExec) holding (SweptAfter id t.retention)
      (queuePool clock actors) sched) :
    ∀ pre, pre <+: sched →
      let p := runQueue (queuePool clock actors) pre
      ∀ ev ∈ p.shared.2, EnqueuesTask t id ev →
      ∀ ev' ∈ p.shared.2, Completes id ev' →
      ∀ (e : QueueEnv) (t' : ClientTask), t'.taskID = t.taskID →
        ev'.post.clock ≤ p.shared.1.clock + 2 * e.elapsed →
        p.shared.1.clock + 2 * e.elapsed < ev'.post.clock + t.retention →
        (Prog.run queueExec e (Client.EnqueueContext t') p.shared.1).2.tasks.rows =
            p.shared.1.tasks.rows ∧
          (e.fails = false → t'.Fits →
            (Prog.run queueExec e (Client.EnqueueContext t') p.shared.1).1 =
              .error .taskIDConflict) := by
  rintro pre ⟨rest, rfl⟩ p ev hev henq ev' hev' hdone e t' hsame hafter hwindow
  have hd : 0 < t.retention := by linarith
  have hp : Idempotent t id p := run_inv (idempotent_step hkey hd) pre _
    (idempotent_start t id clock actors) (meets_append.mp hswept).1
  obtain ⟨row, hrow⟩ := hp.kept ev hev henq ev' hev' hdone
    (by linarith [Int.natCast_nonneg e.elapsed])
  refine enqueueContext_conflict hrow (hsame ▸ hkey) ?_ e
  rw [hsame]
  exact (hp.stored ev hev henq row hrow).taskID

/-! ### A task that fails once -/

/-- The program is about to sweep. -/
def aboutToSweep : QueueProg Unit → Bool
  | .call (.stmt .sweep) _ => true
  | _ => false

theorem sweptAfter_iff :
    SweptAfter id d p i e ↔ ∀ t ∈ p.threads[i]?, aboutToSweep t.2 = true → e.fails = false →
      ∀ row ∈ p.shared.1.tasks.lookup id, row.RetentionOver (p.shared.1.clock + e.elapsed) →
        ∀ ev ∈ p.shared.2, Completes id ev → ev.post.clock + d ≤ p.shared.1.clock + e.elapsed := by
  unfold SweptAfter
  rcases p.threads[i]? with _ | ⟨w, _ | ⟨c | _ | _ | _, k⟩⟩
  case some.call.stmt => cases c <;> simp [aboutToSweep]
  all_goals simp [aboutToSweep]

instance (id : ℤ) (d : Time) (p : QueuePool) (i : ℕ) (e : QueueEnv) :
    Decidable (SweptAfter id d p i e) := decidable_of_iff' _ sweptAfter_iff

/-- A notice that is to go out once a day. -/
def noticeTask : ClientTask := ⟨"report", [], "", 3, 0, 86400000000, "notice:7", 0⟩

/-- A producer, a worker and a sweep. -/
def noticeActors : List Actor := [.client noticeTask, .worker demoServer 2, .sweeper 1]

/-- The first attempt fails; the second, ten seconds later, completes the task. -/
def completedLate : List (ℕ × QueueEnv) :=
  ([0, 0, 1, 1, 1, 1].map fun i => (i, .after 0 timedOut)) ++
    [(1, .after 10000000 timedOut), (1, .after 0 timedOut), (1, .after 0 (.returned none)),
      (1, .after 0 (.returned none))]

/-- The sweep comes as soon as a day has passed since the task was enqueued. -/
def sweptEarly : List (ℕ × QueueEnv) := completedLate ++ [(2, .after 86390000001 timedOut)]

/-- The sweep comes a day after the task was completed. -/
def sweptLate : List (ℕ × QueueEnv) := completedLate ++ [(2, .after 86400000000 timedOut)]

theorem notice_enqueued {hist : List QueueEvent} (h : hist.any (fun ev =>
      ev.call = .stmt (.insert (noticeTask.newTask 0)) ∧ insertedBy ev.call ev.resp = some 1) = true) :
    ∃ ev ∈ hist, EnqueuesTask noticeTask 1 ev := by
  obtain ⟨ev, hev, hcall⟩ := any_eq_true.mp h
  obtain ⟨hcall, hid⟩ := of_decide_eq_true hcall
  exact ⟨ev, hev, 0, hcall, hid⟩

/-- The notice was completed ten seconds after it was enqueued and is to be retained for a day; a
    microsecond after the day since its enqueuing it is swept and goes out again. -/
theorem swept_notice_enqueued_again :
    let p := runQueue (queuePool 0 noticeActors) sweptEarly
    (∃ ev ∈ p.shared.2, EnqueuesTask noticeTask 1 ev) ∧
    (∃ ev ∈ p.shared.2, Completes 1 ev ∧ ev.post.clock = 10000000) ∧
    p.shared.1.clock < 10000000 + noticeTask.retention ∧
    (Prog.run queueExec (.after 0 timedOut) (Client.EnqueueContext noticeTask) p.shared.1).1 =
      .ok ⟨2, "default", "report", "notice:7"⟩ :=
  ⟨notice_enqueued (by decide +kernel), by decide +kernel, by decide +kernel, by decide +kernel⟩

theorem retained_notice_conflicts :
    Meets (traced queueExec) holding (SweptAfter 1 noticeTask.retention)
      (queuePool 0 noticeActors) sweptLate ∧
    (Prog.run queueExec (.after 0 timedOut) (Client.EnqueueContext noticeTask)
      (runQueue (queuePool 0 noticeActors) completedLate).shared.1).1 = .error .taskIDConflict := by
  have hmeets : Meets (traced queueExec) holding (SweptAfter 1 noticeTask.retention)
      (queuePool 0 noticeActors) sweptLate := by decide +kernel
  obtain ⟨ev, hev, henq⟩ : ∃ ev ∈ (runQueue (queuePool 0 noticeActors) completedLate).shared.2,
      EnqueuesTask noticeTask 1 ev := notice_enqueued (by decide +kernel)
  obtain ⟨ev', hev', hdone, hwhen⟩ : ∃ ev ∈ (runQueue (queuePool 0 noticeActors) completedLate).shared.2,
      Completes 1 ev ∧ ev.post.clock = 10000000 := by decide +kernel
  refine ⟨hmeets, (completed_taskID_conflicts 0 noticeActors noticeTask 1 (by decide) sweptLate hmeets
    completedLate (prefix_append _ _) ev hev henq ev' hev' hdone (.after 0 timedOut) noticeTask rfl
    ?_ ?_).2 rfl (by decide)⟩
  · rw [hwhen]
    decide +kernel
  · rw [hwhen]
    decide +kernel

end IspBss.Jobqueue
