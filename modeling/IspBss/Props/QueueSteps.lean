import IspBss.Jobqueue.Server

/-! What one call can do to one task, and what the actors do on their own.

    `queueExec_row` says once how any call changes the row of a task; `Actor.serves` says which calls an
    actor makes, given what it holds. Everything about whole runs of the queue follows from the two.

        row of id:   none ──inserted──▶ pending ──claimed──▶ processing ──▶ …
        record:      none ──claim──▶ claimed ──handler──▶ ran ──finish──▶ none -/

namespace IspBss.Jobqueue

open Lib Prog Option Serial

/-! ### One row across a call -/

/-- The id a call has inserted a row under. -/
def insertedBy : (c : QueueCall) → c.Resp → Option ℤ
  | .stmt (.insert _), r =>
    match (r : Except QueueErr ℤ) with
    | .ok id => some id
    | .error _ => none
  | _, _ => none

/-- How a call answered at `now` changes the row of `id`, when `next` is the id the sequence is about
    to hand out. -/
inductive RowChange (now : Time) (next id : ℤ) :
    (c : QueueCall) → c.Resp → Option TaskRow → Option TaskRow → Prop where
  | untouched (c r o) (hclaim : ∀ row, claimedBy c r ≠ some (id, row))
      (hinsert : insertedBy c r ≠ some id) : RowChange now next id c r o o
  | inserted (t) (n : SmallInt) (hn : (n : ℤ) = t.maxRetry) (hid : id = next) :
      RowChange now next id (.stmt (.insert t)) (.ok id) none (some (t.row now n))
  | claimed (queue lockedBy d r) (h : r.Claimable queue now) :
      RowChange now next id (.stmt (.claim queue lockedBy d))
        (.ok (some (id, r.claimed lockedBy (now + d)))) (some r)
        (some (r.claimed lockedBy (now + d)))
  | completed (r) :
      RowChange now next id (.stmt (.complete id)) (.ok ()) (some r) (some (r.completed now))
  | deleted (r) : RowChange now next id (.stmt (.delete id)) (.ok ()) (some r) none
  | deadLettered (text r) :
      RowChange now next id (.stmt (.deadLetter id text)) (.ok ()) (some r)
        (some (r.deadLettered now text))
  | retried (text delay r) (n : SmallInt) (hn : (n : ℤ) = r.retryCount + 1) :
      RowChange now next id (.stmt (.retry id text delay)) (.ok ()) (some r)
        (some (r.retrying n (now + delay) text))
  | reaped (r) (h : r.LeaseExpired now) :
      RowChange now next id (.stmt .reap) (.ok ()) (some r) (some r.reaped)
  | swept (r) (h : r.RetentionOver now) :
      RowChange now next id (.stmt .sweep) (.ok ()) (some r) none

variable {c : QueueCall}

theorem RowChange.same {now : Time} {next id : ℤ} {r : c.Resp} {o : Option TaskRow}
    (hclaim : claimedBy c r = none) (hinsert : insertedBy c r = none) : RowChange now next id c r o o :=
  .untouched c r o (by simp [hclaim]) (by simp [hinsert])

theorem smallInt?_some {n : ℤ} {k : SmallInt} (h : smallInt? n = some k) : (k : ℤ) = n := by
  unfold smallInt? at h
  split at h
  · rw [← some.inj h]
  · cases h

theorem lookup_updateID (s : QueueDB) (id id' : ℤ) (f : TaskRow → TaskRow) :
    (s.updateID id f).tasks.lookup id' = if id' = id then (s.tasks.lookup id').map f else s.tasks.lookup id' := by
  rw [QueueDB.updateID, lookup_updateWhere]
  by_cases h : id' = id <;> simp [h]

theorem firstInOrder_mem : ∀ {l : List ((_ : ℤ) × TaskRow)} {x : (_ : ℤ) × TaskRow},
    firstInOrder l = some x → x ∈ l
  | [], _, h => by cases h
  | y :: ys, x, h => by
      rw [firstInOrder] at h
      split at h
      · cases h
        exact .head _
      · rename_i z hz
        split at h
        · cases h
          exact .head _
        · cases h
          exact .tail _ (firstInOrder_mem hz)

section
variable {s : QueueDB} {id : ℤ}

/-- The outcome statements: the row of another task is untouched, a missing row stays missing. -/
theorem updateID_row {c : QueueCall} {r : c.Resp} {id' : ℤ} {f : TaskRow → TaskRow}
    (hclaim : claimedBy c r = none) (hinsert : insertedBy c r = none)
    (hrow : ∀ row, id = id' → RowChange s.clock (s.tasks.last + 1) id c r (some row) (some (f row))) :
    RowChange s.clock (s.tasks.last + 1) id c r (s.tasks.lookup id) ((s.updateID id' f).tasks.lookup id) := by
  rw [lookup_updateID]
  split
  · rename_i hid
    cases hl : s.tasks.lookup id with
    | none => exact .same hclaim hinsert
    | some row => exact hrow row hid
  · exact .same hclaim hinsert

/-- The statements that delete or rewrite all rows with some property. -/
theorem where_row {c : QueueCall} {r : c.Resp} {o' : Option TaskRow} (p : TaskRow → Bool)
    (f : TaskRow → Option TaskRow) (hclaim : claimedBy c r = none) (hinsert : insertedBy c r = none)
    (hrow : ∀ row, p row = true →
      RowChange s.clock (s.tasks.last + 1) id c r (some row) (f row))
    (ho : o' = (s.tasks.lookup id).bind fun row => if p row then f row else some row) :
    RowChange s.clock (s.tasks.last + 1) id c r (s.tasks.lookup id) o' := by
  subst ho
  cases s.tasks.lookup id with
  | none => exact .same hclaim hinsert
  | some row =>
    by_cases hp : p row = true
    · simpa [hp] using hrow row hp
    · simpa [hp] using RowChange.same hclaim hinsert

theorem insert_row (t : NewTask) :
    RowChange s.clock (s.tasks.last + 1) id (.stmt (.insert t)) (insertTask t s).1
      (s.tasks.lookup id) ((insertTask t s).2.tasks.lookup id) := by
  have hends := insertTask_cases t s
  generalize insertTask t s = x at hends ⊢
  cases hends with
  | refused | conflict => exact .same rfl rfl
  | added n hn =>
    by_cases hid : id = s.tasks.last + 1
    · subst hid
      simp only [lookup_next, lookup_add_self]
      exact .inserted t n (smallInt?_some hn) rfl
    · simp only [lookup_add_ne _ _ hid]
      exact .untouched _ _ _ (fun _ h => by cases h) (fun h => hid (some.inj h).symm)

theorem claim_row (locked : ℤ → Bool) (queue lockedBy : String) (d : ℕ) :
    RowChange s.clock (s.tasks.last + 1) id (.stmt (.claim queue lockedBy d))
      (.ok (claimTask locked queue lockedBy d s).1) (s.tasks.lookup id)
      ((claimTask locked queue lockedBy d s).2.tasks.lookup id) := by
  unfold claimTask
  split
  · exact .same rfl rfl
  · rename_i x hx
    have hmem := List.mem_filter.mp (firstInOrder_mem hx)
    have hrow : s.tasks.lookup x.1 = some x.2 := lookup_eq_of_mem hmem.1
    have hclaimable : x.2.Claimable queue s.clock := by
      have h := hmem.2
      simp only [Bool.and_eq_true, decide_eq_true_eq] at h
      exact h.2
    rw [lookup_updateID]
    by_cases hid : id = x.1
    · subst hid
      rw [if_pos rfl, hrow]
      exact .claimed queue lockedBy d x.2 hclaimable
    · rw [if_neg hid]
      refine .untouched _ _ _ (fun row h => hid ?_) nofun
      exact (Prod.mk.inj (some.inj h)).1.symm

theorem retry_row (id' : ℤ) (text : String) (delay : Time) :
    RowChange s.clock (s.tasks.last + 1) id (.stmt (.retry id' text delay))
      (retryTask id' text delay s).1 (s.tasks.lookup id)
      ((retryTask id' text delay s).2.tasks.lookup id) := by
  unfold retryTask
  split
  · exact .same rfl rfl
  · rename_i r hr
    split
    · exact .same rfl rfl
    · rename_i n hn
      rw [lookup_updateID]
      by_cases hid : id = id'
      · subst hid
        rw [if_pos rfl, hr]
        exact .retried text delay r n (smallInt?_some hn)
      · rw [if_neg hid]
        exact .same rfl rfl

end

/-- How any call changes the row of a task. -/
theorem queueExec_row (e : QueueEnv) (c : QueueCall) (s : QueueDB) (id : ℤ) :
    RowChange (s.clock + e.elapsed) (s.tasks.last + 1) id c (queueExec e c s).1
      (s.tasks.lookup id) ((queueExec e c s).2.tasks.lookup id) := by
  cases c with
  | timeNow => exact .same rfl rfl
  | shuffle order => exact .same rfl rfl
  | processTask ct => exact .same rfl rfl
  | stmt op =>
    by_cases hf : e.fails = true
    · simp only [queueExec, hf, if_true]
      cases op <;> exact .same rfl rfl
    · have hrun : queueExec e (.stmt op) s = op.run e.locked (s.advance e.elapsed) := if_neg hf
      rw [hrun]
      change RowChange (s.advance e.elapsed).clock ((s.advance e.elapsed).tasks.last + 1) id _ _
        ((s.advance e.elapsed).tasks.lookup id) _
      generalize s.advance e.elapsed = s
      cases op with
      | insert t => exact insert_row t
      | claim queue lockedBy d => exact claim_row e.locked queue lockedBy d
      | retry id' text delay => exact retry_row id' text delay
      | complete id' => exact updateID_row rfl rfl fun row h => h ▸ .completed row
      | deadLetter id' text => exact updateID_row rfl rfl fun row h => h ▸ .deadLettered text row
      | delete id' =>
        refine where_row (fun _ => id = id') (fun _ => none) rfl rfl ?_ ?_
        · intro row h
          rw [← of_decide_eq_true h]
          exact .deleted row
        · simp only [QueueOp.run, lookup_deleteWhere]
          by_cases hid : id = id' <;> cases s.tasks.lookup id <;> simp [hid]
      | reap =>
        refine where_row (fun r => r.LeaseExpired s.clock) (fun r => some r.reaped) rfl rfl ?_ ?_
        · exact fun row h => .reaped row (of_decide_eq_true h)
        · simp only [QueueOp.run, lookup_updateWhere]
          cases s.tasks.lookup id with
          | none => rfl
          | some row => by_cases h : row.LeaseExpired s.clock <;> simp [h]
      | sweep =>
        refine where_row (fun r => r.RetentionOver s.clock) (fun _ => none) rfl rfl ?_ ?_
        · exact fun row h => .swept row (of_decide_eq_true h)
        · simp only [QueueOp.run, lookup_deleteWhere]
          cases s.tasks.lookup id with
          | none => rfl
          | some row => by_cases h : row.RetentionOver s.clock <;> simp [h]

/-- The same, with the answer and the two rows as variables. -/
theorem queueExec_rows (e : QueueEnv) (c : QueueCall) (s : QueueDB) (id : ℤ) :
    ∃ r o o', (queueExec e c s).1 = r ∧ s.tasks.lookup id = o ∧ (queueExec e c s).2.tasks.lookup id = o' ∧
      RowChange (s.clock + e.elapsed) (s.tasks.last + 1) id c r o o' :=
  ⟨_, _, _, rfl, rfl, rfl, queueExec_row e c s id⟩

/-- The calls of a server: no INSERT is among them. -/
def NoInsert : QueueCall → Prop
  | .stmt (.insert _) => False
  | _ => True

/-- The clock moves by the time that has passed. Only an INSERT moves the sequence, by one, and the id it
    hands out is the one the sequence has come to. -/
theorem queueExec_frame (e : QueueEnv) (c : QueueCall) (s : QueueDB) :
    (queueExec e c s).2.clock = s.clock + e.elapsed ∧
      ((queueExec e c s).2.tasks.last = s.tasks.last ∧ insertedBy c (queueExec e c s).1 = none ∨
        ¬ NoInsert c ∧ (queueExec e c s).2.tasks.last = s.tasks.last + 1 ∧
          ∀ id, insertedBy c (queueExec e c s).1 = some id → id = s.tasks.last + 1) := by
  cases c with
  | stmt op =>
    by_cases hf : e.fails = true
    · simp only [queueExec, hf, if_true]
      cases op <;> exact ⟨rfl, .inl ⟨rfl, rfl⟩⟩
    · have hrun : queueExec e (.stmt op) s = op.run e.locked (s.advance e.elapsed) := if_neg hf
      rw [hrun]
      cases op with
      | insert t =>
        simp only [QueueOp.run]
        have hends := insertTask_cases t (s.advance e.elapsed)
        generalize insertTask t (s.advance e.elapsed) = x at hends ⊢
        cases hends with
        | refused | conflict => exact ⟨rfl, .inr ⟨id, rfl, nofun⟩⟩
        | added => exact ⟨rfl, .inr ⟨id, rfl, fun _ h => (some.inj h).symm⟩⟩
      | claim queue lockedBy d =>
        simp only [QueueOp.run, claimTask]
        split <;> exact ⟨rfl, .inl ⟨rfl, rfl⟩⟩
      | retry id text delay =>
        simp only [QueueOp.run, retryTask]
        split
        · exact ⟨rfl, .inl ⟨rfl, rfl⟩⟩
        · split <;> exact ⟨rfl, .inl ⟨rfl, rfl⟩⟩
      | _ => exact ⟨rfl, .inl ⟨rfl, rfl⟩⟩
  | _ => exact ⟨rfl, .inl ⟨rfl, rfl⟩⟩

@[simp] theorem queueExec_clock (e : QueueEnv) (c : QueueCall) (s : QueueDB) :
    (queueExec e c s).2.clock = s.clock + e.elapsed := (queueExec_frame e c s).1

/-- The sequence never goes back, and an id it hands out is one it had not. -/
theorem queueExec_last (e : QueueEnv) (c : QueueCall) (s : QueueDB) :
    s.tasks.last ≤ (queueExec e c s).2.tasks.last ∧
      ∀ id, insertedBy c (queueExec e c s).1 = some id →
        id = s.tasks.last + 1 ∧ (queueExec e c s).2.tasks.last = s.tasks.last + 1 := by
  obtain ⟨-, ⟨hlast, hnone⟩ | ⟨-, hlast, hid⟩⟩ := queueExec_frame e c s
  · rw [hlast, hnone]
    exact ⟨le_rfl, nofun⟩
  · exact ⟨by omega, fun id h => ⟨hid id h, hlast⟩⟩

/-! ### What an actor does on its own -/

/-- The calls a record allows: nothing is claimed by who holds a task, a handler is started once for
    each claim, and the outcome recorded is the handler's. -/
inductive Serves : Option Holding → QueueCall → Prop where
  | clock (w) : Serves w .timeNow
  | shuffle (w order) : Serves w (.shuffle order)
  | insert (w t) : Serves w (.stmt (.insert t))
  | claim (queue lockedBy d) : Serves none (.stmt (.claim queue lockedBy d))
  | start (h : Holding) (hran : h.ran = none) : Serves (some h) (.processTask h.ct)
  | complete (h : Holding) (hran : h.ran = some none) : Serves (some h) (.stmt (.complete h.id))
  | delete (h : Holding) (hran : h.ran = some none) (hretention : h.row.retentionUntil = none) :
      Serves (some h) (.stmt (.delete h.id))
  | deadLetter (h : Holding) (text) : Serves (some h) (.stmt (.deadLetter h.id text))
  | retry (h : Holding) (text delay err) (hran : h.ran = some (some err))
      (hleft : (h.row.retryCount : ℤ) < h.row.maxRetry) :
      Serves (some h) (.stmt (.retry h.id text delay))
  | reap (w) : Serves w (.stmt .reap)
  | sweep (w) : Serves w (.stmt .sweep)

variable {w : Option Holding}

/-- Who records a retry holds the task, its handler has failed, and there are retries left. -/
theorem Serves.retries {id : ℤ} {text : String} {delay : Time} (h : Serves w (.stmt (.retry id text delay))) :
    ∃ h : Holding, w = some h ∧ h.id = id ∧ (∃ err, h.ran = some (some err)) ∧
      (h.row.retryCount : ℤ) < h.row.maxRetry := by
  cases h with
  | retry h _ _ err hran hleft => exact ⟨h, rfl, rfl, ⟨err, hran⟩, hleft⟩

/-- The task a call records an outcome of. -/
def QueueCall.outcomeOf : QueueCall → Option ℤ
  | .stmt (.complete id) | .stmt (.delete id) | .stmt (.deadLetter id _) | .stmt (.retry id _ _) =>
    some id
  | _ => none

/-- Who records an outcome holds the task, and does so no longer. -/
theorem Serves.outcome {id : ℤ} (hs : Serves w c) (ho : c.outcomeOf = some id) :
    (∃ h : Holding, w = some h ∧ h.id = id) ∧ ∀ r : c.Resp, holding w c r = none := by
  cases hs <;> cases ho <;> exact ⟨⟨_, rfl, rfl⟩, fun _ => rfl⟩

/-- What a record can become: what it was, perhaps with the end of the handler it has just started, or
    a new claim. -/
theorem holding_cases {r : c.Resp} {h' : Holding} (hs : Serves w c) (h : holding w c r = some h') :
    (∃ h, w = some h ∧ h'.id = h.id ∧ h'.row = h.row ∧ c.outcomeOf = none ∧
      (h' = h ∨ (c = .processTask h.ct ∧ h'.ran ≠ none))) ∨
    (w = none ∧ claimedBy c r = some (h'.id, h'.row) ∧ h'.ran = none) := by
  cases hs with
  | clock => exact .inl ⟨h', h, rfl, rfl, rfl, .inl rfl⟩
  | shuffle => exact .inl ⟨h', h, rfl, rfl, rfl, .inl rfl⟩
  | insert => exact .inl ⟨h', h, rfl, rfl, rfl, .inl rfl⟩
  | reap => exact .inl ⟨h', h, rfl, rfl, rfl, .inl rfl⟩
  | sweep => exact .inl ⟨h', h, rfl, rfl, rfl, .inl rfl⟩
  | claim queue lockedBy d =>
    refine .inr ⟨rfl, ?_⟩
    simp only [holding] at h
    split at h
    · rename_i id row hclaim
      cases h
      exact ⟨hclaim, rfl⟩
    · cases h
  | start h₀ hran =>
    cases h
    exact .inl ⟨h₀, rfl, rfl, rfl, rfl, .inr ⟨rfl, by simp⟩⟩
  | complete => cases h
  | delete => cases h
  | deadLetter => cases h
  | retry => cases h

/-- What the proofs assume of the answers: nothing. -/
abbrev AnyAnswer : Option Holding → (c : QueueCall) → c.Resp → Prop := fun _ _ _ => True

/-- The calls of workers and reapers: neither an INSERT nor the sweep is among them. -/
def Tends : QueueCall → Prop
  | .stmt (.insert _) | .stmt .sweep => False
  | _ => True

def Works (w : Option Holding) (c : QueueCall) : Prop := Serves w c ∧ Tends c

/-- What a search for a task leaves: the task it reports is held and not run yet. -/
def Found (w : Option Holding) (found : Option ClaimedTask) : Prop :=
  match found with
  | none => w = none
  | some ct => ∃ h : Holding, w = some h ∧ h.ct = ct ∧ h.ran = none

theorem works_claimFrom (s : Server) : ∀ order : List String,
    Obeys holding AnyAnswer Works Found (s.claimFrom order) none
  | [] => rfl
  | queue :: rest => by
      refine ⟨⟨.claim queue s.id s.leaseDuration, trivial⟩, fun r _ => ?_⟩
      match r with
      | .error _ => exact rfl
      | .ok none => exact works_claimFrom s rest
      | .ok (some (id, row)) => exact ⟨⟨id, row, none⟩, rfl, rfl, rfl⟩

theorem works_claimNext (s : Server) : Obeys holding AnyAnswer Works Found s.claimNext none :=
  ⟨⟨.shuffle none _, trivial⟩, fun order _ => works_claimFrom s order⟩

/-- Recording an outcome: of the handler's own error, or that there is no handler. -/
theorem works_finish (s : Server) (h : Holding) (taskErr : Option TaskErr) (skipRetry : Bool)
    (hran : h.ran = some taskErr ∨ (taskErr.isSome ∧ skipRetry = true)) :
    Obeys holding AnyAnswer Works (fun w _ => w = none) (s.finish h.ct taskErr skipRetry) (some h) := by
  unfold Server.finish
  cases taskErr with
  | none =>
    have hnil : h.ran = some none := by simpa using hran
    dsimp only
    split
    · exact ⟨⟨.complete h hnil, trivial⟩, fun _ _ => rfl⟩
    · rename_i hretained
      have hretention : h.row.retentionUntil = none := by
        simpa [Holding.ct, TaskRow.claimedTask] using hretained
      exact ⟨⟨.delete h hnil hretention, trivial⟩, fun _ _ => rfl⟩
  | some err =>
    dsimp only
    split
    · exact ⟨⟨.deadLetter h err.text, trivial⟩, fun _ _ => rfl⟩
    · rename_i hleft
      rw [not_or, not_le] at hleft
      have herr : h.ran = some (some err) := by
        rcases hran with hran | ⟨-, hskip⟩
        · exact hran
        · exact absurd hskip hleft.1
      exact ⟨⟨.retry h err.text _ err herr hleft.2, trivial⟩, fun _ _ => rfl⟩

theorem works_run (s : Server) (h : Holding) (hran : h.ran = none) :
    Obeys holding AnyAnswer Works (fun w _ => w = none) (s.run h.ct) (some h) := by
  unfold Server.run
  split
  · refine ⟨⟨.start h hran, trivial⟩, fun handled _ => ?_⟩
    exact works_finish s { h with ran := some (Handled.err handled) } _ _ (.inl rfl)
  · exact works_finish s h _ true (.inr ⟨rfl, rfl⟩)

theorem works_round (s : Server) : Obeys holding AnyAnswer Works (fun w _ => w = none) s.round none := by
  refine obeys_bind.mpr ((works_claimNext s).mono fun w found hw => ?_)
  cases found with
  | none => exact hw
  | some ct =>
    obtain ⟨h, rfl, rfl, hran⟩ := hw
    exact works_run s h hran

/-- A loop whose rounds each end with empty hands. -/
theorem works_each {P : Option Holding → QueueCall → Prop} {f : ℕ → QueueProg Unit}
    (hf : ∀ n, Obeys holding AnyAnswer P (fun w _ => w = none) (f n) none)
    (ns : List ℕ) : Obeys holding AnyAnswer P (fun w _ => w = none) (each f ns) none :=
  obeys_each (I := fun _ w => w = none) (fun n _ w hw => by subst hw; exact hf n) ns none rfl

theorem works_reaper (ticks : ℕ) : Obeys holding AnyAnswer Works (fun w _ => w = none) (Server.reapExpiredLeases ticks) none :=
  works_each (f := fun _ => (sql .reap).void) (fun _ => ⟨⟨.reap none, trivial⟩, fun _ _ => rfl⟩) _

/-- Every actor keeps to these calls. -/
theorem Actor.serves (a : Actor) : Obeys holding AnyAnswer Serves (fun _ _ => True) a.prog none := by
  refine Obeys.mono (Q := fun w _ => w = none) (fun _ _ _ => trivial) ?_
  cases a with
  | client t =>
    refine ⟨.clock none, fun now _ => ?_⟩
    refine ⟨.insert none _, fun r _ => ?_⟩
    match r with
    | .ok _ => rfl
    | .error .uniqueViolation => rfl
    | .error .unavailable => rfl
    | .error (.outOfRange _) => rfl
  | worker s rounds => exact (works_each (fun _ => works_round s) _).mono_rules fun _ _ h => h.1
  | reaper ticks => exact (works_reaper ticks).mono_rules fun _ _ h => h.1
  | sweeper ticks =>
    exact works_each (f := fun _ => (sql .sweep).void) (fun _ => ⟨.sweep none, fun _ _ => rfl⟩) _

/-- The threads of a pool keep to their calls. -/
def Serving (p : QueuePool) : Prop :=
  Pool.Obeying holding AnyAnswer (fun _ => Serves) (fun _ _ => True) p

theorem serving_start (clock : Time) (actors : List Actor) : Serving (queuePool clock actors) := by
  refine Pool.obeying_start fun i q hq => ?_
  rw [List.getElem?_map, map_eq_some_iff] at hq
  obtain ⟨a, -, rfl⟩ := hq
  exact a.serves

theorem serving_step {p : QueuePool} (h : Serving p) (i : ℕ) (e : QueueEnv) : Serving (stepQueue p i e) :=
  Pool.obeying_step h fun _ _ _ _ => trivial

/-- Thread `i` holds the task. -/
def Holds (id : ℤ) (p : QueuePool) (i : ℕ) (h : Holding) : Prop :=
  h.id = id ∧ ∃ q, p.threads[i]? = some (some h, q)

/-- Who holds the task after a step held it before, or has just claimed it. -/
theorem holds_after {id : ℤ} {p : QueuePool} {i j : ℕ} {e : QueueEnv} {k : c.Resp → QueueProg Unit} {h' : Holding}
    (hp : Serving p) (hi : p.Calling i w c k) (h : Holds id (stepQueue p i e) j h') :
    (∃ h, Holds id p j h ∧ h'.row = h.row ∧ (j = i → c.outcomeOf = none) ∧
      (h' = h ∨ (c = .processTask h.ct ∧ h'.ran ≠ none))) ∨
    (j = i ∧ claimedBy c (queueExec e c p.shared.1).1 = some (id, h'.row) ∧ h'.ran = none) := by
  obtain ⟨hid, q, hj⟩ := h
  rcases Pool.step_thread hi hj with ⟨rfl, hw, -⟩ | ⟨hji, hj⟩
  · rcases holding_cases (hp.allowed hi) hw.symm with
      ⟨h, rfl, hid₀, hrow, hkeeps, hran⟩ | ⟨-, hclaim, hran⟩
    · exact Or.inl ⟨h, ⟨hid₀ ▸ hid, _, hi⟩, hrow, fun _ => hkeeps, hran⟩
    · exact Or.inr ⟨rfl, hid ▸ hclaim, hran⟩
  · exact Or.inl ⟨h', ⟨hid, q, hj⟩, rfl, fun h => absurd h hji, Or.inl rfl⟩

end IspBss.Jobqueue
