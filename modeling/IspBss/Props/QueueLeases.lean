import IspBss.Props.QueueSteps

/-! Does a lease keep a task to one worker, and is an outcome final?

    The outcome is written by id. A worker whose lease has run out may therefore still write over a
    row that by then belongs to somebody else, or is done. Writing it done or dead harms nobody; what
    harms is a late retry, which makes the row pending again:

        A: claim ───────────────────────────── late failure ──▶ pending
        reaper:      lease of A over ──▶ pending                  │
        B:                        claim ──────────────────────────┼─▶ completed
        C:                                                      claim ──▶ failure ──▶ pending

    C claims while the lease of B runs, and the task that B completed comes back. Where every retry
    finds the row still waiting or still under the lease of its own claim, neither happens. -/

namespace IspBss.Jobqueue

open Lib TaskStatus Pool Option

/-! ### The two promises -/

/-- A row with an outcome. -/
def TaskStatus.Final (st : TaskStatus) : Prop := st = .completed ∨ st = .dead
  deriving Decidable

variable (id : ℤ)

/-- The task is there and has an outcome. -/
def Reached (s : QueueDB) : Prop := ∃ row, s.tasks.lookup id = some row ∧ row.status.Final

/-- The task is neither pending nor processing. -/
def Over (s : QueueDB) : Prop := ∀ row, s.tasks.lookup id = some row → row.status.Final

/-- Nobody who asks now, on whatever queue, is given the task. -/
def Unclaimable (e : QueueEnv) (s : QueueDB) : Prop :=
  ∀ queue lockedBy d row, claimedBy (.stmt (.claim queue lockedBy d))
    (queueExec e (.stmt (.claim queue lockedBy d)) s).1 ≠ some (id, row)

/-- As long as the lease of a worker that holds the task has not run out, nobody else is given it. -/
def Exclusive (p : QueuePool) : Prop :=
  ∀ (i : ℕ) (h : Holding) (q : QueueProg Unit) (lease : Time) (e : QueueEnv),
    p.threads[i]? = some (some h, q) → h.id = id → h.row.leaseExpiresAt = some lease →
    p.shared.1.clock + e.elapsed ≤ lease → Unclaimable id e p.shared.1

/-! ### The condition -/

/-- If this step records a retry of the task, its row is gone, still pending, or still processing
    under the lease of the worker's own claim. -/
def RetriesOwn (p : QueuePool) (i : ℕ) (_ : QueueEnv) : Prop :=
  match p.threads[i]? with
  | some (some h, .call (.stmt (.retry id' _ _)) _) =>
    id' = id → ∀ row ∈ p.shared.1.tasks.lookup id,
      row.status = .pending ∨
        (row.status = .processing ∧ row.leaseExpiresAt = h.row.leaseExpiresAt)
  | _ => True

variable {id : ℤ} {h : Holding} {p : QueuePool} {e : QueueEnv} {c : QueueCall}

theorem RetriesOwn.row {i : ℕ} {text : String}
    {delay : Time} {k : Except QueueErr Unit → QueueProg Unit} {row : TaskRow} (hown : RetriesOwn id p i e)
    (hi : p.Calling i (some h) (.stmt (.retry id text delay)) k)
    (hrow : p.shared.1.tasks.lookup id = some row) :
    row.status = .pending ∨ (row.status = .processing ∧ row.leaseExpiresAt = h.row.leaseExpiresAt) := by
  rw [RetriesOwn, hi] at hown
  exact hown rfl row hrow

/-! ### One step -/

/-- What is known of a worker's hold on a task: its lease has run out, or the row is gone, has an
    outcome, or is still processing under that lease. -/
structure Guarded (h : Holding) (s : QueueDB) : Prop where
  issued : h.id ≤ s.tasks.last
  lease : ∃ lease, h.row.leaseExpiresAt = some lease ∧
    (lease < s.clock ∨ ∀ row, s.tasks.lookup h.id = some row →
      row.status.Final ∨ (row.status = .processing ∧ row.leaseExpiresAt = some lease))

/-- A task that is over stays over, unless a retry is recorded for it. -/
theorem Over.change {now : Time} {next : ℤ} {r : c.Resp} {o o' : Option TaskRow}
    (h : RowChange now next id c r o o') (hissued : id < next)
    (hretry : ∀ text delay row, c = .stmt (.retry id text delay) → o = some row → ¬ row.status.Final)
    (ho : ∀ row, o = some row → row.status.Final) : ∀ row, o' = some row → row.status.Final := by
  cases h with
  | untouched => exact ho
  | inserted t n hn hid => exact absurd hid hissued.ne
  | claimed queue lockedBy d row hrow =>
    have hfin := ho row rfl
    rw [hrow.1] at hfin
    simp [Final] at hfin
  | completed row =>
    intro row' hrow'
    cases hrow'
    exact .inl rfl
  | deleted row => exact fun _ h => by cases h
  | deadLettered text row =>
    intro row' hrow'
    cases hrow'
    exact .inr rfl
  | retried text delay row n hn => exact absurd (ho row rfl) (hretry text delay row rfl rfl)
  | reaped row hrow =>
    have hfin := ho row rfl
    rw [hrow.1] at hfin
    simp [Final] at hfin
  | swept row hrow => exact fun _ h => by cases h

variable {s : QueueDB}

/-- A hold stays guarded across any call that does not retry its task, and across a retry that finds the
    row pending or under another lease. -/
theorem Guarded.call (hg : Guarded h s) (e : QueueEnv) (c : QueueCall)
    (hretry : ∀ text delay row, c = .stmt (.retry h.id text delay) →
      s.tasks.lookup h.id = some row → row.status = .pending ∨
        (row.status = .processing ∧ row.leaseExpiresAt ≠ h.row.leaseExpiresAt)) :
    Guarded h (queueExec e c s).2 := by
  obtain ⟨hissued, lease, hlease, hsafe⟩ := hg
  refine ⟨hissued.trans (queueExec_last e c s).1, lease, hlease, ?_⟩
  have helapsed : s.clock ≤ s.clock + e.elapsed := by linarith [Int.natCast_nonneg e.elapsed]
  rw [queueExec_clock]
  rcases hsafe with hexp | hsafe
  · exact .inl (hexp.trans_le helapsed)
  obtain ⟨r, o, o', -, ho, ho', hrow⟩ := queueExec_rows e c s h.id
  simp only [ho] at hsafe hretry
  rw [ho']
  cases hrow with
  | untouched => exact .inr hsafe
  | inserted t n hn hid => omega
  | claimed queue lockedBy d row hclaim =>
    -- a claim takes a pending row, which the hold excludes
    rcases hsafe row rfl with hfin | ⟨hst, -⟩ <;> simp_all [TaskRow.Claimable, Final]
  | completed row => exact .inr fun row' h' => by cases h'; exact .inl (.inl rfl)
  | deleted row => exact .inr fun row' h' => by cases h'
  | deadLettered text row => exact .inr fun row' h' => by cases h'; exact .inl (.inr rfl)
  | retried text delay row n hn =>
    exfalso
    rcases hretry text delay row rfl rfl with hpend | ⟨hproc, hother⟩
    · rcases hsafe row rfl with hfin | ⟨hst, -⟩ <;> simp_all [Final]
    · rcases hsafe row rfl with hfin | ⟨-, hsame⟩
      · simp_all [Final]
      · exact hother (hsame.trans hlease.symm)
  | reaped row hexp =>
    -- the reaper takes the row only once the lease has run out
    obtain ⟨hst, lease', hmem, hlt⟩ := hexp
    rcases hsafe row rfl with hfin | ⟨-, hsame⟩
    · simp_all [Final]
    · rw [hsame] at hmem
      cases hmem
      exact .inl hlt
  | swept row hover => exact .inr fun row' h' => by cases h'

/-- Every hold is guarded, and no two holds on one task have the same lease. -/
structure Leased (id : ℤ) (p : QueuePool) : Prop where
  serving : Serving p
  guarded : ∀ {i h}, Holds id p i h → Guarded h p.shared.1
  distinct : ∀ {i j h h'}, i ≠ j → Holds id p i h → Holds id p j h' → h.row.leaseExpiresAt ≠ h'.row.leaseExpiresAt

/-- A claim that is answered with a task has found it pending and leaves it under a lease that runs
    from now. -/
theorem claimed_spec {row : TaskRow} (h : claimedBy c (queueExec e c s).1 = some (id, row)) :
    (∃ old, s.tasks.lookup id = some old ∧ old.status = .pending) ∧
    (queueExec e c s).2.tasks.lookup id = some row ∧ row.status = .processing ∧
    ∃ d : ℕ, row.leaseExpiresAt = some (s.clock + e.elapsed + d) := by
  obtain ⟨r, o, o', hr, ho, ho', hrow⟩ := queueExec_rows e c s id
  rw [hr] at h
  rw [ho, ho']
  cases hrow with
  | untouched _ _ _ hclaim => exact absurd h (hclaim row)
  | claimed queue lockedBy d old hclaim =>
    cases h
    exact ⟨⟨old, rfl, hclaim.1⟩, rfl, rfl, d, rfl⟩
  | _ => cases h

/-- A hold on a task that is pending has run out. -/
theorem Guarded.expired {old : TaskRow} (hg : Guarded h s)
    (hold : s.tasks.lookup h.id = some old) (hpend : old.status = .pending) :
    ∃ lease, h.row.leaseExpiresAt = some lease ∧ lease < s.clock := by
  obtain ⟨-, lease, hlease, hexp | hsafe⟩ := hg
  · exact ⟨lease, hlease, hexp⟩
  · rcases hsafe old hold with hfin | ⟨hst, -⟩ <;> simp_all [Final]

theorem leased_start (id : ℤ) (clock : Time) (actors : List Actor) : Leased id (queuePool clock actors) := by
  have hempty : ∀ {i h}, ¬ Holds id (queuePool clock actors) i h := by
    rintro i h ⟨-, q, hi⟩
    simp [queuePool, Pool.start] at hi
  exact ⟨serving_start clock actors, fun hi => absurd hi hempty, fun _ hi => absurd hi hempty⟩

/-- A step that retries only what is its own keeps every hold guarded and every lease different. -/
theorem leased_step (p : QueuePool) (i : ℕ) (e : QueueEnv) (hp : Leased id p)
    (hown : RetriesOwn id p i e) : Leased id (stepQueue p i e) := by
  refine step_ind hp fun w c k hi => ?_
  -- a hold that was there before, of a thread that does not itself retry the task
  have hkept : ∀ {j h}, Holds id p j h → (j = i → c.outcomeOf = none) →
      Guarded h (queueExec e c p.shared.1).2 := by
    intro j h hj hkeeps
    refine (hp.guarded hj).call e c fun text delay row hc hrow => ?_
    subst hc
    have hji : j ≠ i := fun hji => by cases hkeeps hji
    obtain ⟨h₀, rfl, hid₀, -⟩ := (hp.serving.allowed hi).retries
    rw [hj.1] at hi hrow hid₀
    rcases hown.row hi hrow with hpend | ⟨hproc, hlease⟩
    · exact .inl hpend
    · exact .inr ⟨hproc, fun heq => hp.distinct hji hj ⟨hid₀, _, hi⟩ (heq.symm.trans hlease)⟩
  -- a new claim: its lease runs from now, and all older ones have run out
  have hnew : ∀ {h' : Holding}, h'.id = id → claimedBy c (queueExec e c p.shared.1).1 = some (id, h'.row) →
      Guarded h' (queueExec e c p.shared.1).2 ∧
        ∀ {j h}, Holds id p j h → h.row.leaseExpiresAt ≠ h'.row.leaseExpiresAt := by
    rintro h' rfl hclaim
    obtain ⟨⟨old, hold, hpend⟩, hrow, hst, d, hlease⟩ := claimed_spec hclaim
    refine ⟨⟨Serial.le_last_of_lookup hrow, _, hlease, .inr fun row hrow' => ?_⟩, fun hj heq => ?_⟩
    · rw [hrow] at hrow'
      cases hrow'
      exact .inr ⟨hst, hlease⟩
    · obtain ⟨lease, hl, hlt⟩ := (hp.guarded hj).expired (by rw [hj.1]; exact hold) hpend
      rw [hl, hlease] at heq
      have := some.inj heq
      linarith [Int.natCast_nonneg e.elapsed, Int.natCast_nonneg d]
  refine ⟨serving_step hp.serving i e, fun hj => ?_, fun hne hj hj' => ?_⟩
  · rw [step_shared hi]
    rcases holds_after hp.serving hi hj with ⟨h₀, hold, hrow, hkeeps, -⟩ | ⟨-, hclaim, -⟩
    · have hg := hkept hold hkeeps
      have hid := hj.1.trans hold.1.symm
      exact ⟨hid ▸ hg.issued, by rw [hid, hrow]; exact hg.lease⟩
    · exact (hnew hj.1 hclaim).1
  · -- two holds after the step: each is an old one or the new claim, and not both are new
    rcases holds_after hp.serving hi hj with ⟨h₀, hold, hrow, -⟩ | ⟨rfl, hclaim, -⟩ <;>
      rcases holds_after hp.serving hi hj' with ⟨h₀', hold', hrow', -⟩ | ⟨rfl, hclaim', -⟩
    · rw [hrow, hrow']
      exact hp.distinct hne hold hold'
    · rw [hrow]
      exact (hnew hj'.1 hclaim').2 hold
    · rw [hrow']
      exact ((hnew hj.1 hclaim).2 hold').symm
    · exact absurd rfl hne

/-- A task that is over stays over across a step that retries only what is its own. -/
theorem over_step (p : QueuePool) (i : ℕ) (e : QueueEnv) (hp : Serving p)
    (hissued : id ≤ p.shared.1.tasks.last) (hover : Over id p.shared.1) (hown : RetriesOwn id p i e) :
    id ≤ (stepQueue p i e).shared.1.tasks.last ∧ Over id (stepQueue p i e).shared.1 := by
  refine step_ind (I := fun p : QueuePool => id ≤ p.shared.1.tasks.last ∧ Over id p.shared.1)
    ⟨hissued, hover⟩ fun w c k hi => ?_
  rw [step_shared hi]
  refine ⟨hissued.trans (queueExec_last e c _).1,
    Over.change (queueExec_row e c p.shared.1 id) (Int.lt_add_one_of_le hissued) ?_ hover⟩
  intro text delay row hc hrow hfin
  subst hc
  obtain ⟨h₀, rfl, -⟩ := (hp.allowed hi).retries
  rcases hown.row hi hrow with hpend | ⟨hproc, -⟩ <;> simp_all [Final]

/-- An unexpired hold keeps everybody else out. -/
theorem Leased.exclusive (hp : Leased id p) : Exclusive id p := by
  intro i h q lease e hi hid hlease hleft queue lockedBy d row hclaim
  obtain ⟨⟨old, hold, hpend⟩, -⟩ := claimed_spec hclaim
  obtain ⟨lease', hlease', hlt⟩ := (hp.guarded ⟨hid, q, hi⟩).expired (by rw [hid]; exact hold) hpend
  rw [hlease] at hlease'
  cases hlease'
  linarith [Int.natCast_nonneg e.elapsed]

/-! ### Every run -/

/-- Any number of workers of any servers with clients, reapers and sweepers, in any interleaving, with
    any handler outcomes and failing statements: if every retry of the task finds the row pending or
    under the lease of its own claim, then a task with an outcome never becomes pending or processing
    again, and while a worker's lease on it has not run out nobody else is given it. -/
theorem outcomes_final_and_leases_exclusive (clock : Time) (actors : List Actor) (id : ℤ)
    (sched : List (ℕ × QueueEnv))
    (hown : Pool.Meets (traced queueExec) holding (RetriesOwn id) (queuePool clock actors) sched) :
    (∀ pre later, pre ++ later <+: sched →
      Reached id (runQueue (queuePool clock actors) pre).shared.1 →
      Over id (runQueue (queuePool clock actors) (pre ++ later)).shared.1) ∧
    ∀ pre, pre <+: sched → Exclusive id (runQueue (queuePool clock actors) pre) := by
  have hleased : ∀ pre, pre <+: sched → Leased id (runQueue (queuePool clock actors) pre) := by
    rintro pre ⟨later, rfl⟩
    exact run_inv leased_step pre _ (leased_start id clock actors) (meets_append.mp hown).1
  refine ⟨fun pre later hpre hreached => ?_, fun pre hpre => (hleased pre hpre).exclusive⟩
  obtain ⟨rest, rfl⟩ := hpre
  obtain ⟨row, hrow, hfin⟩ := hreached
  rw [List.append_assoc, meets_append, meets_append] at hown
  have hstart := (hleased pre ⟨later ++ rest, by rw [List.append_assoc]⟩).serving
  have hover : Over id (runQueue (queuePool clock actors) pre).shared.1 := fun row' hrow' => by
    rw [hrow] at hrow'
    cases hrow'
    exact hfin
  rw [runQueue, run_append]
  exact (run_inv (I := fun p => Serving p ∧ id ≤ p.shared.1.tasks.last ∧ Over id p.shared.1)
    (fun p i e h hC => ⟨serving_step h.1 i e, over_step p i e h.1 h.2.1 h.2.2 hC⟩) later _
    ⟨hstart, Serial.le_last_of_lookup hrow, hover⟩ hown.2.1).2.2

instance (id : ℤ) (s : QueueDB) : Decidable (Reached id s) :=
  decidable_of_iff ((s.tasks.lookup id).any fun row => row.status.Final) (by
    simp [Reached, any_eq_true])

instance (id : ℤ) (s : QueueDB) : Decidable (Over id s) :=
  decidable_of_iff ((s.tasks.lookup id).all fun row => row.status.Final) (by
    simp [Over, all_eq_true])

instance (id : ℤ) (p : QueuePool) (i : ℕ) (e : QueueEnv) : Decidable (RetriesOwn id p i e) := by
  unfold RetriesOwn
  rcases p.threads[i]? with _ | ⟨_ | h, _ | ⟨c | _ | _ | _, k⟩⟩ <;> try dsimp only <;> infer_instance
  cases c <;> dsimp only <;> infer_instance

/-- A step with this much time passed, in which a handler would end like this. -/
def QueueEnv.after (elapsed : ℕ) (handled : Handled) : QueueEnv :=
  ⟨elapsed, false, fun _ => false, 0, ⟨fun order => order, fun _ => .refl _⟩, handled⟩

/-- A handler error worth a retry. -/
def timedOut : Handled := .returned (some ⟨"timeout", false⟩)

/-- A task with three retries that is kept for a day. -/
def reportTask : ClientTask := ⟨"report", [], "", 3, 0, 86400000000, "", 0⟩

/-- The default settings, and a handler for the task. -/
def demoServer : Server := NewServer ⟨[], 0, none⟩ "worker" ["report"]

/-- A producer, three workers and a reaper. -/
def demoActors : List Actor :=
  [.client reportTask, .worker demoServer 2, .worker demoServer 1, .worker demoServer 1, .reaper 1]

/-- Worker 1 claims the task and fails; its lease runs out before it says so, the task is taken back and
    worker 2 claims it; then worker 1 records its retry. -/
def lateFailure : List (ℕ × QueueEnv) :=
  ([0, 0, 1, 1, 1].map fun i => (i, .after 0 timedOut)) ++ [(4, .after 300000001 timedOut)] ++
    ([2, 2, 1].map fun i => (i, .after 0 timedOut))

/-- Ten seconds later worker 3 claims the task, and worker 2 completes it. -/
def thirdClaim : List (ℕ × QueueEnv) :=
  [(3, .after 10000000 timedOut), (3, .after 0 timedOut), (2, .after 0 (.returned none)),
    (2, .after 0 (.returned none))]

/-- Worker 3 fails as well. -/
def thirdFailure : List (ℕ × QueueEnv) := [(3, .after 0 timedOut), (3, .after 0 timedOut)]

/-- What worker 2 holds when worker 1 records its retry. -/
def secondHold : Holding :=
  ⟨1, (((reportTask.newTask 0).row 0 ⟨3, by decide⟩).reaped).claimed "worker" 600000001, none⟩

/-- After the late retry worker 3 is given the task that worker 2 holds, and the task worker 2 completes
    goes back to pending. -/
theorem late_failure_reopens_task :
    ¬ Exclusive 1 (runQueue (queuePool 0 demoActors) lateFailure) ∧
    Reached 1 (runQueue (queuePool 0 demoActors) (lateFailure ++ thirdClaim)).shared.1 ∧
    ¬ Over 1 (runQueue (queuePool 0 demoActors) (lateFailure ++ thirdClaim ++ thirdFailure)).shared.1 := by
  refine ⟨fun hx => ?_, by decide +kernel, by decide +kernel⟩
  have hheld : ((runQueue (queuePool 0 demoActors) lateFailure).threads[2]?).map Prod.fst =
      some (some secondHold) := by decide +kernel
  obtain ⟨⟨w, q⟩, hthread, rfl⟩ := map_eq_some_iff.mp hheld
  have hclaim : (claimedBy (.stmt (.claim "default" "worker" 300000000))
      (queueExec (.after 10000000 timedOut) (.stmt (.claim "default" "worker" 300000000))
        (runQueue (queuePool 0 demoActors) lateFailure).shared.1).1).map Prod.fst = some 1 := by
    decide +kernel
  obtain ⟨⟨id, row⟩, hrow, rfl⟩ := map_eq_some_iff.mp hclaim
  exact hx 2 secondHold q 600000001 (.after 10000000 timedOut) hthread rfl rfl (by decide +kernel)
    "default" "worker" 300000000 row hrow

/-- A failure within the lease: the retry is recorded, the same worker claims the task again and
    completes it. -/
def timelyRetry : List (ℕ × QueueEnv) :=
  ([0, 0, 1, 1, 1, 1].map fun i => (i, .after 0 timedOut)) ++
    [(1, .after 10000000 timedOut), (1, .after 0 timedOut), (1, .after 0 (.returned none)),
      (1, .after 0 (.returned none))]

theorem timely_retry_completes :
    Pool.Meets (traced queueExec) holding (RetriesOwn 1) (queuePool 0 demoActors) timelyRetry ∧
    Reached 1 (runQueue (queuePool 0 demoActors) timelyRetry).shared.1 ∧
    Exclusive 1 (runQueue (queuePool 0 demoActors) timelyRetry) := by
  have hmeets : Pool.Meets (traced queueExec) holding (RetriesOwn 1) (queuePool 0 demoActors)
      timelyRetry := by decide +kernel
  exact ⟨hmeets, by decide +kernel,
    (outcomes_final_and_leases_exclusive 0 demoActors 1 timelyRetry hmeets).2 _ (List.prefix_refl _)⟩

end IspBss.Jobqueue
