import IspBss.Props.QueueLeases

/-! Is a handler started at most `MaxRetry + 1` times?

    Attempts are counted where a failure is recorded. The reaper takes a task back without counting
    anything, so a worker that dies, or a handler that outlives its lease, is an attempt that never
    shows:

        MaxRetry(0):   claim ─▶ start ─▶ (crash)   reap ─▶ pending   claim ─▶ start      two starts

    As long as no lease of the task is reaped, one worker at a time has it, every attempt ends in a
    recorded outcome, and the bound holds. -/

namespace IspBss.Jobqueue

open Lib Pool List

/-! ### Starts, and the bound they should keep -/

/-- The event is a start of a handler for the task. -/
def isStart (id : ℤ) (ev : QueueEvent) : Bool :=
  match ev.call with
  | .processTask ct => ct.id = id
  | _ => false

/-- How often a handler was started for the task. -/
def starts (id : ℤ) (hist : List QueueEvent) : ℕ := hist.countP (isStart id)

/-- The event enqueued the task with this `MaxRetry`. -/
def Enqueues (id n : ℤ) (ev : QueueEvent) : Prop :=
  ∃ t, ev.call = .stmt (.insert t) ∧ t.maxRetry = n ∧ insertedBy ev.call ev.resp = some id

/-- The condition: no pass of the reaper that succeeds finds the task processing with its lease run
    out. -/
def NotReaped (id : ℤ) (p : QueuePool) (i : ℕ) (e : QueueEnv) : Prop :=
  match p.threads[i]? with
  | some (_, .call (.stmt .reap) _) =>
    e.fails = false → ∀ row ∈ p.shared.1.tasks.lookup id,
      ¬ row.LeaseExpired (p.shared.1.clock + e.elapsed)
  | _ => True

theorem NotReaped.row {id : ℤ} {p : QueuePool} {i : ℕ} {e : QueueEnv} {w : Option Holding}
    {k : Except QueueErr Unit → QueueProg Unit} {row : TaskRow} (h : NotReaped id p i e)
    (hi : p.Calling i w (.stmt .reap) k) (hf : e.fails = false)
    (hrow : p.shared.1.tasks.lookup id = some row) : ¬ row.LeaseExpired (p.shared.1.clock + e.elapsed) := by
  rw [NotReaped, hi] at h
  exact h hf row hrow

/-! ### The invariant -/

/-- What the row of a task says about its starts. -/
structure Counts (n : ℕ) (row : TaskRow) : Prop where
  nonneg : 0 ≤ (row.retryCount : ℤ)
  bounded : (row.retryCount : ℤ) ≤ max (row.maxRetry : ℤ) 0
  started : (n : ℤ) ≤ row.retryCount + 1
  waiting : row.status = .pending → (n : ℤ) ≤ row.retryCount

/-- The row is processing, on behalf of this hold. -/
structure BackedBy (n : ℕ) (row : TaskRow) (h : Holding) : Prop where
  processing : row.status = .processing
  retryCount : row.retryCount = h.row.retryCount
  maxRetry : row.maxRetry = h.row.maxRetry
  fresh : h.ran = none → (n : ℤ) ≤ row.retryCount

/-- One worker at a time has the task, and its starts are counted. -/
structure Accounted (id : ℤ) (p : QueuePool) : Prop where
  serving : Serving p
  unissued : p.shared.1.tasks.last < id → (∀ i h, ¬ Holds id p i h) ∧ starts id p.shared.2 = 0 ∧
    ∀ n, ∀ ev ∈ p.shared.2, ¬ Enqueues id n ev
  lone : ∀ i j h h', Holds id p i h → Holds id p j h' → i = j
  backed : ∀ i h, Holds id p i h → ∃ row, p.shared.1.tasks.lookup id = some row ∧
    BackedBy (starts id p.shared.2) row h
  counted : ∀ row, p.shared.1.tasks.lookup id = some row → Counts (starts id p.shared.2) row
  limit : ∀ n, ∀ ev ∈ p.shared.2, Enqueues id n ev →
    (starts id p.shared.2 : ℤ) ≤ max n 0 + 1 ∧
      ∀ row, p.shared.1.tasks.lookup id = some row → (row.maxRetry : ℤ) = n

theorem starts_snoc (id : ℤ) (hist : List QueueEvent) (ev : QueueEvent) :
    starts id (hist ++ [ev]) = starts id hist + (isStart id ev).toNat := countP_snoc _ _ _

/-! ### One step -/

section
variable {id : ℤ} {p : QueuePool} {i : ℕ} {e : QueueEnv} {w : Option Holding} {c : QueueCall}
  {k : c.Resp → QueueProg Unit}

/-- The call of a step, as it is remembered. -/
abbrev calledIn (p : QueuePool) (e : QueueEnv) (c : QueueCall) : QueueEvent :=
  eventAt queueExec e c p.shared.1

/-- A call that does not insert the task leaves its enqueuing in the past. -/
theorem enqueued_before (henq : insertedBy c (queueExec e c p.shared.1).1 ≠ some id) {n : ℤ}
    {ev : QueueEvent} (hev : ev ∈ p.shared.2 ++ [calledIn p e c]) (hn : Enqueues id n ev) : ev ∈ p.shared.2 := by
  rcases mem_append.mp hev with hev | hev
  · exact hev
  · cases mem_singleton.mp hev
    obtain ⟨t, -, -, hins⟩ := hn
    exact absurd hins henq

/-- What is left to show of a step that neither inserts the task nor is given it by a claim: that its
    starts fit the row, and that every hold does. -/
theorem Accounted.after (hp : Accounted id p) (hi : p.Calling i w c k)
    (hclaim : ∀ row, claimedBy c (queueExec e c p.shared.1).1 ≠ some (id, row))
    (henq : insertedBy c (queueExec e c p.shared.1).1 ≠ some id)
    (hstart : isStart id (calledIn p e c) = true → ∃ row,
      (queueExec e c p.shared.1).2.tasks.lookup id = some row)
    (hrow : ∀ row', (queueExec e c p.shared.1).2.tasks.lookup id = some row' →
      Counts (starts id (p.shared.2 ++ [calledIn p e c])) row' ∧
        ∃ row, p.shared.1.tasks.lookup id = some row ∧ row'.maxRetry = row.maxRetry)
    (hback : ∀ j h', Holds id (stepQueue p i e) j h' →
      ∃ row', (queueExec e c p.shared.1).2.tasks.lookup id = some row' ∧
        BackedBy (starts id (p.shared.2 ++ [calledIn p e c])) row' h') : Accounted id (stepQueue p i e) := by
  have hkept : ∀ j h', Holds id (stepQueue p i e) j h' →
      ∃ h, Holds id p j h := by
    intro j h' hj
    rcases holds_after hp.serving hi hj with ⟨h, hj, -⟩ | ⟨-, hclaimed, -⟩
    · exact ⟨h, hj⟩
    · exact absurd hclaimed (hclaim _)
  have hstarts := starts_snoc id p.shared.2 (calledIn p e c)
  constructor
  · exact serving_step hp.serving i e
  · rw [traced_shared hi]
    intro hlast
    obtain ⟨hnone, hzero, hev⟩ :=
      hp.unissued (lt_of_le_of_lt (queueExec_last e c p.shared.1).1 hlast)
    refine ⟨fun j h' hj => ?_, ?_, fun n ev hmem hn => hev n ev (enqueued_before henq hmem hn) hn⟩
    · obtain ⟨h, hj⟩ := hkept j h' hj
      exact hnone j h hj
    · rw [hstarts, hzero]
      cases hst : isStart id (calledIn p e c) with
      | false => rfl
      | true =>
        obtain ⟨row, hr⟩ := hstart hst
        exact absurd (Serial.le_last_of_lookup hr) (not_le.mpr hlast)
  · intro j j' h h' hj hj'
    obtain ⟨_, hj⟩ := hkept j h hj
    obtain ⟨_, hj'⟩ := hkept j' h' hj'
    exact hp.lone _ _ _ _ hj hj'
  · rw [traced_shared hi]
    exact hback
  · rw [traced_shared hi]
    exact fun row' hr => (hrow row' hr).1
  · rw [traced_shared hi]
    intro n ev hev hn
    obtain ⟨hle, hmax⟩ := hp.limit n ev (enqueued_before henq hev hn) hn
    have hmax' : ∀ row', (queueExec e c p.shared.1).2.tasks.lookup id = some row' →
        (row'.maxRetry : ℤ) = n := by
      intro row' hr'
      obtain ⟨-, row, hr, heq⟩ := hrow row' hr'
      rw [heq]
      exact hmax row hr
    refine ⟨?_, hmax'⟩
    -- a start is of a task that is there, and there the row bounds it
    cases hst : isStart id (calledIn p e c) with
    | false =>
      rw [hstarts, hst]
      exact hle
    | true =>
      obtain ⟨row', hr'⟩ := hstart hst
      have hc := (hrow row' hr').1
      have hbound := hc.bounded
      rw [hmax' row' hr'] at hbound
      exact hc.started.trans (by linarith)

/-- A step that neither touches the row nor starts a handler for the task. -/
theorem Accounted.untouched (hp : Accounted id p) (hi : p.Calling i w c k)
    (hrow : (queueExec e c p.shared.1).2.tasks.lookup id = p.shared.1.tasks.lookup id)
    (hclaim : ∀ row, claimedBy c (queueExec e c p.shared.1).1 ≠ some (id, row))
    (henq : insertedBy c (queueExec e c p.shared.1).1 ≠ some id) (hstart : isStart id (calledIn p e c) = false) :
    Accounted id (stepQueue p i e) := by
  have hstarts : starts id (p.shared.2 ++ [calledIn p e c]) = starts id p.shared.2 := by
    rw [starts_snoc, hstart]
    rfl
  refine hp.after hi hclaim henq (fun h => by rw [hstart] at h; cases h) ?_ ?_
  · rw [hrow, hstarts]
    exact fun row hr => ⟨hp.counted row hr, row, hr, rfl⟩
  · intro j h' hj
    rcases holds_after hp.serving hi hj with ⟨h, hold, hr, -, hran⟩ | ⟨-, hclaimed, -⟩
    · obtain ⟨row, hlookup, hb⟩ := hp.backed j h hold
      rw [hrow, hstarts]
      refine ⟨row, hlookup, hb.processing, hr ▸ hb.retryCount, hr ▸ hb.maxRetry, fun hnone => ?_⟩
      rcases hran with rfl | ⟨-, hne⟩
      · exact hb.fresh hnone
      · exact absurd hnone hne
    · exact absurd hclaimed (hclaim _)

/-- The start of a handler: the worker has not started one for its claim, so the row has room for
    it. -/
theorem Accounted.started {h : Holding} {k : Handled → QueueProg Unit} (hp : Accounted id p)
    (hi : p.Calling i (some h) (.processTask h.ct) k) (hid : h.id = id)
    (hran : h.ran = none) : Accounted id (stepQueue p i e) := by
  have hh : Holds id p i h := ⟨hid, _, hi⟩
  obtain ⟨row, hlookup, hb⟩ := hp.backed i h hh
  have hstarts : starts id (p.shared.2 ++ [calledIn p e (.processTask h.ct)]) =
      starts id p.shared.2 + 1 := by
    have hst : isStart id (calledIn p e (.processTask h.ct)) = true := decide_eq_true hid
    rw [starts_snoc, hst]
    rfl
  have hfresh := hb.fresh hran
  refine hp.after hi (fun _ h => by cases h) (fun h => by cases h) (fun _ => ⟨row, hlookup⟩) ?_ ?_
  · intro row' hr'
    have hc := hp.counted row' hr'
    cases hlookup.symm.trans hr'
    refine ⟨⟨hc.nonneg, hc.bounded, ?_, fun hpend => ?_⟩, row, hlookup, rfl⟩
    · linarith
    · rw [hb.processing] at hpend
      cases hpend
  · intro j h' hj
    refine ⟨row, hlookup, ?_⟩
    rcases holds_after hp.serving hi hj with ⟨h₀, hold, hr, -, -⟩ | ⟨-, hclaimed, -⟩
    · -- the only hold is the worker's own, which has now run
      obtain rfl := hp.lone _ _ _ _ hold hh
      obtain ⟨-, q, hq⟩ := hj
      rcases step_thread hi hq with ⟨-, hw, -⟩ | ⟨hji, -⟩
      · cases hw
        exact ⟨hb.processing, hb.retryCount, hb.maxRetry, nofun⟩
      · exact absurd rfl hji
    · cases hclaimed

/-- The end of a hold, or of a row nobody holds: no handler was started, and the row that is left, if
    any, is the old one with a count that fits. -/
theorem Accounted.released (hp : Accounted id p) (hi : p.Calling i w c k)
    (hclaim : ∀ row, claimedBy c (queueExec e c p.shared.1).1 ≠ some (id, row))
    (henq : insertedBy c (queueExec e c p.shared.1).1 ≠ some id) (hstart : isStart id (calledIn p e c) = false)
    (hnone : ∀ j h, Holds id p j h → c.outcomeOf = some id)
    (hrow : ∀ row', (queueExec e c p.shared.1).2.tasks.lookup id = some row' →
      Counts (starts id p.shared.2) row' ∧
        ∃ row, p.shared.1.tasks.lookup id = some row ∧ row'.maxRetry = row.maxRetry) :
    Accounted id (stepQueue p i e) := by
  refine hp.after hi hclaim henq (fun h => by rw [hstart] at h; cases h) ?_ ?_
  · rw [starts_snoc, hstart]
    exact hrow
  · intro j h' hj
    exfalso
    rcases holds_after hp.serving hi hj with ⟨h, hold, -, hkeeps, -⟩ | ⟨-, hclaimed, -⟩
    · -- the outcome is recorded by the one worker that holds the task
      have hout := hnone j h hold
      obtain ⟨⟨h₀, rfl, hid₀⟩, -⟩ := (hp.serving.allowed hi).outcome hout
      have hji := hp.lone _ _ _ _ hold ⟨hid₀, _, hi⟩
      rw [hkeeps hji] at hout
      cases hout
    · exact hclaim _ hclaimed

/-- The task is enqueued. -/
theorem Accounted.inserted {t : NewTask} {n : SmallInt} {k : Except QueueErr ℤ → QueueProg Unit}
    (hp : Accounted id p) (hi : p.Calling i w (.stmt (.insert t)) k)
    (hid : id = p.shared.1.tasks.last + 1) (hn : (n : ℤ) = t.maxRetry)
    (hins : insertedBy (.stmt (.insert t)) (queueExec e (.stmt (.insert t)) p.shared.1).1 = some id)
    (hrow : (queueExec e (.stmt (.insert t)) p.shared.1).2.tasks.lookup id =
      some (t.row (p.shared.1.clock + e.elapsed) n)) : Accounted id (stepQueue p i e) := by
  obtain ⟨hnone, hzero, hev⟩ := hp.unissued (by omega)
  have hstarts : starts id (p.shared.2 ++ [calledIn p e (.stmt (.insert t))]) = 0 := by
    rw [starts_snoc, hzero]
    rfl
  have hnone' : ∀ j h, ¬ Holds id (stepQueue p i e) j h := by
    intro j h' hj
    rcases holds_after hp.serving hi hj with ⟨h, hj, -⟩ | ⟨-, hclaimed, -⟩
    · exact hnone j h hj
    · cases hclaimed
  constructor
  · exact serving_step hp.serving i e
  · rw [traced_shared hi]
    intro hlast
    have := ((queueExec_last e (.stmt (.insert t)) p.shared.1).2 id hins).2
    dsimp only at hlast
    omega
  · exact fun j _ h _ hj => absurd hj (hnone' j h)
  · exact fun j h hj => absurd hj (hnone' j h)
  · rw [traced_shared hi, hstarts]
    intro row hr
    cases hrow.symm.trans hr
    exact ⟨le_rfl, le_max_right _ _, Int.zero_le_ofNat 1, fun _ => le_rfl⟩
  · rw [traced_shared hi]
    intro m ev hmem hm
    refine ⟨by have := le_max_right m 0; push_cast; linarith, fun row hr => ?_⟩
    cases hrow.symm.trans hr
    rcases mem_append.mp hmem with hmem | hmem
    · exact absurd hm (hev m ev hmem)
    · cases mem_singleton.mp hmem
      obtain ⟨t', ht', hm, -⟩ := hm
      cases ht'
      exact hn.trans hm

/-- The task is claimed: nobody had it, and its new holder has not started it. -/
theorem Accounted.claimed {queue lockedBy : String} {d : ℕ} {row : TaskRow}
    {k : Except QueueErr (Option (ℤ × TaskRow)) → QueueProg Unit} (hp : Accounted id p)
    (hi : p.Calling i w (.stmt (.claim queue lockedBy d)) k)
    (hlookup : p.shared.1.tasks.lookup id = some row) (hpend : row.status = .pending)
    (hclaim : claimedBy (.stmt (.claim queue lockedBy d))
      (queueExec e (.stmt (.claim queue lockedBy d)) p.shared.1).1 =
        some (id, row.claimed lockedBy (p.shared.1.clock + e.elapsed + d)))
    (hrow : (queueExec e (.stmt (.claim queue lockedBy d)) p.shared.1).2.tasks.lookup id =
      some (row.claimed lockedBy (p.shared.1.clock + e.elapsed + d))) : Accounted id (stepQueue p i e) := by
  have hfree : ∀ j h, ¬ Holds id p j h := by
    intro j h hj
    obtain ⟨row', hrow', hb⟩ := hp.backed j h hj
    cases hlookup.symm.trans hrow'
    rw [hb.processing] at hpend
    cases hpend
  have hnew : ∀ j h', Holds id (stepQueue p i e) j h' →
      j = i ∧ h'.row = row.claimed lockedBy (p.shared.1.clock + e.elapsed + d) := by
    intro j h' hj
    rcases holds_after hp.serving hi hj with ⟨h, hold, -⟩ | ⟨hji, hclaimed, -⟩
    · exact absurd hold (hfree j h)
    · rw [hclaim] at hclaimed
      exact ⟨hji, (Prod.mk.inj (Option.some.inj hclaimed)).2.symm⟩
  have hc := hp.counted row hlookup
  have hstarts : starts id (p.shared.2 ++ [calledIn p e (.stmt (.claim queue lockedBy d))]) =
      starts id p.shared.2 := starts_snoc _ _ _
  have hissued := Serial.le_last_of_lookup hrow
  constructor
  · exact serving_step hp.serving i e
  · rw [traced_shared hi]
    exact fun hlast => absurd hissued (not_le.mpr hlast)
  · intro j j' h h' hj hj'
    exact (hnew j h hj).1.trans (hnew j' h' hj').1.symm
  · rw [traced_shared hi, hstarts]
    intro j h' hj
    have hr := (hnew j h' hj).2
    refine ⟨_, hrow, rfl, ?_, ?_, fun _ => hc.waiting hpend⟩
    · rw [hr]
    · rw [hr]
  · rw [traced_shared hi, hstarts]
    intro row' hr'
    cases hrow.symm.trans hr'
    exact ⟨hc.nonneg, hc.bounded, hc.started, nofun⟩
  · rw [traced_shared hi, hstarts]
    intro n ev hev hn
    obtain ⟨hle, hmax⟩ := hp.limit n ev (enqueued_before (fun h => by cases h) hev hn) hn
    refine ⟨hle, fun row' hr' => ?_⟩
    cases hrow.symm.trans hr'
    exact hmax row hlookup

end

theorem accounted_start (id : ℤ) (clock : Time) (actors : List Actor) : Accounted id (queuePool clock actors) := by
  have hempty : ∀ i h, ¬ Holds id (queuePool clock actors) i h := by
    rintro i h ⟨-, q, hi⟩
    simp [queuePool, Pool.start] at hi
  have hrow : ∀ row, (queuePool clock actors).shared.1.tasks.lookup id ≠ some row := by
    intro row
    simp [queuePool, Pool.start, QueueDB.empty]
  exact ⟨serving_start clock actors, fun _ => ⟨hempty, rfl, fun n ev hev => by cases hev⟩,
    fun i _ h _ hi => absurd hi (hempty i h), fun i h hi => absurd hi (hempty i h),
    fun row h => absurd h (hrow row), fun n ev hev => by cases hev⟩

/-- A step that reaps no lease of the task keeps its starts accounted. -/
theorem accounted_step {id : ℤ} (p : QueuePool) (i : ℕ) (e : QueueEnv) (hp : Accounted id p)
    (hreap : NotReaped id p i e) : Accounted id (stepQueue p i e) := by
  refine step_ind hp fun w c k hi => ?_
  have hserves : Serves w c := hp.serving.allowed hi
  obtain ⟨r, o, o', hr, ho, ho', hrow⟩ := queueExec_rows e c p.shared.1 id
  cases hrow with
  | untouched _ _ _ hclaim henq =>
    cases hst : isStart id (calledIn p e c) with
    | false => exact hp.untouched hi (ho'.trans ho.symm) (hr ▸ hclaim) (hr ▸ henq) hst
    | true =>
      cases c with
      | processTask ct =>
        cases hserves with
        | start h hran => exact hp.started hi (of_decide_eq_true hst) hran
      | _ => cases hst
  | inserted t n hn hid => exact hp.inserted hi hid hn (by rw [hr]; rfl) ho'
  | claimed queue lockedBy d row hclaim => exact hp.claimed hi ho hclaim.1 (by rw [hr]; rfl) ho'
  | completed row =>
    have hc := hp.counted row ho
    refine hp.released hi (fun _ h => by cases h) (fun h => by cases h) rfl (fun _ _ _ => rfl) ?_
    rintro row' hr'
    cases ho'.symm.trans hr'
    exact ⟨⟨hc.nonneg, hc.bounded, hc.started, nofun⟩, row, ho, rfl⟩
  | deleted row =>
    refine hp.released hi (fun _ h => by cases h) (fun h => by cases h) rfl (fun _ _ _ => rfl) ?_
    rintro row' hr'
    cases ho'.symm.trans hr'
  | deadLettered text row =>
    have hc := hp.counted row ho
    refine hp.released hi (fun _ h => by cases h) (fun h => by cases h) rfl (fun _ _ _ => rfl) ?_
    rintro row' hr'
    cases ho'.symm.trans hr'
    exact ⟨⟨hc.nonneg, hc.bounded, hc.started, nofun⟩, row, ho, rfl⟩
  | retried text delay row n hn =>
    -- the counter goes up by one, and the worker had a retry left
    have hc := hp.counted row ho
    obtain ⟨h, rfl, hid, -, hleft⟩ := hserves.retries
    obtain ⟨row₀, hrow₀, hb⟩ := hp.backed i h ⟨hid, _, hi⟩
    cases ho.symm.trans hrow₀
    rw [← hb.retryCount, ← hb.maxRetry] at hleft
    refine hp.released hi (fun _ h => by cases h) (fun h => by cases h) rfl (fun _ _ _ => rfl) ?_
    rintro row' hr'
    cases ho'.symm.trans hr'
    have hstarted := hc.started
    refine ⟨⟨?_, ?_, ?_, fun _ => ?_⟩, row, ho, rfl⟩ <;> simp only [TaskRow.retrying, hn]
    · omega
    · exact (Int.add_one_le_of_lt hleft).trans (le_max_left _ _)
    · omega
    · exact hstarted
  | reaped row hexp =>
    have hf : e.fails = false := by
      by_contra hf
      rw [Bool.not_eq_false] at hf
      simp only [queueExec, hf, if_true] at hr
      cases hr
    exact absurd hexp (hreap.row hi hf ho)
  | swept row hover =>
    have hfinal : row.status ≠ .processing := by
      rcases hover.2 with h | h <;> rw [h] <;> decide
    refine hp.released hi (fun _ h => by cases h) (fun h => by cases h) rfl ?_ ?_
    · intro j h hj
      obtain ⟨row₀, hrow₀, hb⟩ := hp.backed j h hj
      cases ho.symm.trans hrow₀
      exact absurd hb.processing hfinal
    · rintro row' hr'
      cases ho'.symm.trans hr'

/-! ### Every run -/

/-- Any run of clients, workers, reapers and sweepers in which no lease of the task is reaped: a handler
    is started for it at most once more often than its `MaxRetry` says. -/
theorem starts_le_maxRetry_succ (clock : Time) (actors : List Actor) (id n : ℤ)
    (sched : List (ℕ × QueueEnv))
    (hreap : Pool.Meets (traced queueExec) holding (NotReaped id) (queuePool clock actors) sched) :
    ∀ pre, pre <+: sched → ∀ ev ∈ (runQueue (queuePool clock actors) pre).shared.2,
      Enqueues id n ev →
      starts id (runQueue (queuePool clock actors) pre).shared.2 ≤ n.toNat + 1 := by
  rintro pre ⟨later, rfl⟩ ev hev hn
  have hp : Accounted id (runQueue (queuePool clock actors) pre) :=
    run_inv accounted_step pre _ (accounted_start id clock actors) (meets_append.mp hreap).1
  have hle := (hp.limit n ev hev hn).1
  omega

/-- The program is about to reap. -/
def aboutToReap : QueueProg Unit → Bool
  | .call (.stmt .reap) _ => true
  | _ => false

theorem notReaped_iff {id : ℤ} {p : QueuePool} {i : ℕ} {e : QueueEnv} :
    NotReaped id p i e ↔ ∀ t ∈ p.threads[i]?, aboutToReap t.2 = true → e.fails = false →
      ∀ row ∈ p.shared.1.tasks.lookup id, ¬ row.LeaseExpired (p.shared.1.clock + e.elapsed) := by
  unfold NotReaped
  rcases p.threads[i]? with _ | ⟨w, _ | ⟨c | _ | _ | _, k⟩⟩
  case some.call.stmt => cases c <;> simp [aboutToReap]
  all_goals simp [aboutToReap]

instance (id : ℤ) (p : QueuePool) (i : ℕ) (e : QueueEnv) : Decidable (NotReaped id p i e) :=
  decidable_of_iff' _ notReaped_iff

/-- A task that is to be run once and never retried. -/
def onceTask : ClientTask := ⟨"report", [], "", 0, 0, 0, "", 0⟩

theorem enqueues_of_any {hist : List QueueEvent} (h : hist.any (fun ev =>
      ev.call = .stmt (.insert (onceTask.newTask 0)) ∧ insertedBy ev.call ev.resp = some 1) = true) :
    ∃ ev ∈ hist, Enqueues 1 0 ev := by
  obtain ⟨ev, hev, hcall⟩ := any_eq_true.mp h
  obtain ⟨hcall, hid⟩ := of_decide_eq_true hcall
  exact ⟨ev, hev, _, hcall, rfl, hid⟩

/-- A producer, two workers and a reaper. -/
def onceActors : List Actor :=
  [.client onceTask, .worker demoServer 1, .worker demoServer 1, .reaper 1]

/-- Worker 1 starts the task and is not heard of again; its lease is reaped and worker 2 starts it. -/
def crashAndReap : List (ℕ × QueueEnv) :=
  ([0, 0, 1, 1, 1].map fun i => (i, .after 0 timedOut)) ++ [(3, .after 300000001 timedOut)] ++
    ([2, 2, 2].map fun i => (i, .after 0 timedOut))

/-- A task with `MaxRetry(0)` whose handler is started twice. -/
theorem crashed_worker_starts_twice :
    (∃ ev ∈ (runQueue (queuePool 0 onceActors) crashAndReap).shared.2, Enqueues 1 0 ev) ∧
    ¬ starts 1 (runQueue (queuePool 0 onceActors) crashAndReap).shared.2 ≤ (0 : ℤ).toNat + 1 :=
  ⟨enqueues_of_any (by decide +kernel), by decide +kernel⟩

/-- Worker 1 fails in time and the task is dead-lettered; worker 2 finds nothing to claim. -/
def failInTime : List (ℕ × QueueEnv) :=
  ([0, 0, 1, 1, 1, 1].map fun i => (i, .after 0 timedOut)) ++ [(3, .after 300000001 timedOut)] ++
    ([2, 2, 2].map fun i => (i, .after 0 timedOut))

theorem timely_worker_starts_once :
    Pool.Meets (traced queueExec) holding (NotReaped 1) (queuePool 0 onceActors) failInTime ∧
    starts 1 (runQueue (queuePool 0 onceActors) failInTime).shared.2 ≤ (0 : ℤ).toNat + 1 := by
  have hmeets : Pool.Meets (traced queueExec) holding (NotReaped 1) (queuePool 0 onceActors)
      failInTime := by decide +kernel
  obtain ⟨ev, hev, henq⟩ : ∃ ev ∈ (runQueue (queuePool 0 onceActors) failInTime).shared.2,
      Enqueues 1 0 ev := enqueues_of_any (by decide +kernel)
  exact ⟨hmeets, starts_le_maxRetry_succ 0 onceActors 1 0 failInTime hmeets _ (prefix_refl _)
    ev hev henq⟩

end IspBss.Jobqueue
