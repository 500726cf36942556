import IspBss.Fup.Scanner
import IspBss.Props.SessionIsolation

/-! Is everybody who is flagged also throttled?

    A pass flags a breached subscriber and then queues the CoA task that throttles them. The flag is
    what keeps later passes away, so the pass that sets it is the only one that queues the task:

        SetFUPActive ok ─▶ EnqueueContext ok      flagged, CoA queued
                        └▶ EnqueueContext fails   flagged, no CoA ever; the rest of the pass is left out

    What a pass has done is read off its calls and their answers. If no such INSERT fails, a pass that
    has ended has queued a CoA for everybody it has flagged, and has tried everybody it was given. -/

namespace IspBss.Fup

open Lib Jobqueue Radius Scanner Prog List Pool

/-! ### The record of a pass -/

/-- What a pass has done so far: the sessions it was given as breached, the subscribers it has tried to
    flag, those it has flagged, and the tasks it has queued. -/
structure Pass where
  listed : List SessionStats
  attempted : List ℤ
  flagged : List ℤ
  queued : List NewTask

def Pass.begin : Pass := ⟨[], [], [], []⟩

def watchPass : Watch scanSig Pass
  | w, .inl (.stmt (.insert t)), .ok _ => { w with queued := w.queued ++ [t] }
  | w, .inr (.stmt .getActiveSessionsAboveFUP), .ok sts => { w with listed := w.listed ++ sts }
  | w, .inr (.stmt (.setFUPActive sub true)), .ok _ =>
    { w with attempted := w.attempted ++ [sub], flagged := w.flagged ++ [sub] }
  | w, .inr (.stmt (.setFUPActive sub true)), .error _ => { w with attempted := w.attempted ++ [sub] }
  | w, _, _ => w

/-- The task is a CoA for the subscriber. -/
def IsCoA (sub : ℤ) (t : NewTask) : Prop := ∃ nasIP now, t = (coaTask sub nasIP).newTask now

def Pass.CoAQueued (w : Pass) (sub : ℤ) : Prop := ∃ t ∈ w.queued, IsCoA sub t

/-- The task is a CoA for somebody the pass has flagged. -/
def Pass.Owes (w : Pass) (t : NewTask) : Prop := ∃ sub ∈ w.flagged, IsCoA sub t

/-- The session has to be throttled. -/
def Due (st : SessionStats) : Prop :=
  ¬(st.fupThreshold = 0 ∨ st.fupActive = true) ∧ st.fupThreshold ≤ st.bytesUsed

/-- A CoA for somebody flagged is queued, and whoever is listed is due. -/
def Served (w : Pass) : (c : scanSig.Call) → scanSig.Resp c → Prop
  | .inl (.stmt (.insert t)), r => w.Owes t → ∃ id, r = .ok id
  | .inr (.stmt .getActiveSessionsAboveFUP), r => ∀ sts, r = .ok sts → ∀ st ∈ sts, Due st
  | _, _ => True

/-! ### The calls -/

abbrev PassObeys {α : Type} (Q : Pass → α → Prop) (p : ScanProg α) (w : Pass) : Prop :=
  Prog.Obeys watchPass Served (fun _ _ => True) Q p w

variable {w : Pass}

/-- Queueing a task: it is queued, or the INSERT fails and nothing is. -/
theorem enqueue_rule {t : ClientTask} {Q : Pass → Except EnqueueErr TaskInfo → Prop}
    (hok : ∀ now info, Q { w with queued := w.queued ++ [t.newTask now] } (.ok info))
    (herr : ∀ now e e', Served w (.inl (.stmt (.insert (t.newTask now)))) (.error e) →
      Q w (.error e')) : PassObeys Q (enqueue t) w := by
  refine obeys_left.mpr ⟨trivial, fun now _ => ⟨trivial, fun r hr => ?_⟩⟩
  match r with
  | .ok id => exact hok now _
  | .error .uniqueViolation => exact herr now _ _ hr
  | .error .unavailable => exact herr now _ _ hr
  | .error (.outOfRange _) => exact herr now _ _ hr

/-! ### What a pass is made of -/

section
variable {T : ∀ {α : Type}, ScanProg α → Prop}

/-- A write that is followed by a CoA task, whatever comes then. -/
def PushRule (T : ∀ {α : Type}, ScanProg α → Prop) (op : NetOp) (id : ℤ) : Prop :=
  ∀ {β : Type} {nasIP : String} {f : Except NetErr op.Result → ScanProg β} {g : _ → ScanProg β},
    (∀ err, T (f (.error err))) → (∀ r, f (.ok r) = enqueue (coaTask id nasIP) >>= g) → (∀ r, T (g r)) →
    T (query op >>= f)

theorem calls_push {C : scanSig.Call → Prop} {op : NetOp} {id : ℤ} (hop : C (.inr (.stmt op)))
    (hcoa : ∀ nasIP, (enqueue (coaTask id nasIP)).Calls C) : PushRule (fun p => p.Calls C) op id := by
  intro β nasIP f g herr hok hg
  refine ⟨hop, fun r => ?_⟩
  cases r with
  | error err => exact herr err
  | ok r =>
    show Calls C (f (.ok r))
    rw [hok r]
    exact calls_bind (hcoa nasIP) hg

variable (hret : ∀ {α : Type} (a : α), T (.ret a))
  (hbind : ∀ {α β : Type} {p : ScanProg α} {f : α → ScanProg β}, T p → (∀ a, T (f a)) → T (p >>= f))
include hret hbind

/-- The search for breaches lists them, sets flags, and queues CoA tasks and notices. -/
theorem breaches_rule (hlist : T (query .getActiveSessionsAboveFUP))
    (hflag : ∀ id, PushRule T (.setFUPActive id true) id) (hnotice : ∀ sess, T (enqueue (throttledTask sess))) :
    T scanBreaches := by
  have hthrottle : ∀ sessions, T (throttle sessions) := by
    intro sessions
    induction sessions with
    | nil => exact hret _
    | cons sess rest ih =>
      rw [throttle]
      split
      · exact ih
      split
      · refine hflag sess.subscriberID (fun _ => ih) (fun _ => rfl) fun r => ?_
        cases r with
        | error err => exact hret _
        | ok info =>
          refine hbind (hbind (hnotice sess) fun r => ?_) fun _ => ih
          cases r with
          | ok info => exact hret _
          | error err => cases err <;> exact hret _
      · exact ih
  refine hbind hlist fun r => ?_
  cases r with
  | error err => exact hret _
  | ok sessions => exact hthrottle sessions

/-- The sweep of the overrides lists them, clears them and queues CoA tasks. -/
theorem overrides_rule (hlist : T (query .listExpiredSpeedOverrides))
    (hclear : ∀ id, PushRule T (.clearSpeedOverride id) id) : T scanExpiredOverrides := by
  have heach : ∀ ids, T (Prog.each revertOverride ids) := by
    intro ids
    induction ids with
    | nil => exact hret _
    | cons id ids ih =>
      refine hbind (hclear id (fun _ => hret _) (fun _ => rfl) fun _ => hret _) fun _ => ih
  refine hbind hlist fun r => ?_
  cases r with
  | error err => exact hret _
  | ok ids => exact hbind (heach ids) fun _ => hret _

/-- The loop over the sessions near their threshold queues their warnings. -/
theorem warn_rule : ∀ {sessions : List SessionStats}, (∀ sess ∈ sessions, T (enqueue (warningTask sess))) →
    T (warn sessions)
  | [], _ => hret _
  | sess :: rest, h => by
      have ih := warn_rule fun st hst => h st (mem_cons_of_mem sess hst)
      rw [warn]
      split
      · exact ih
      · refine hbind (h sess mem_cons_self) fun r => ?_
        match r with
        | .ok _ => exact ih
        | .error .taskIDConflict => exact ih
        | .error (.enqueue _ _) => exact hret _

theorem warnings_rule (hlist : T (query (.getSessionsAtWarning FUPStore.FUPWarningPct)))
    (hwarning : ∀ sess, T (enqueue (warningTask sess))) : T scanWarnings := by
  refine hbind hlist fun r => ?_
  cases r with
  | error err => exact hret _
  | ok sessions => exact warn_rule hret hbind fun sess _ => hwarning sess

/-- A pass is these three, as far as it gets. -/
theorem pass_rule (hbreaches : T scanBreaches) (hoverrides : T scanExpiredOverrides) (hwarnings : T scanWarnings) :
    T scan := by
  refine hbind hbreaches fun r => ?_
  cases r with
  | error err => exact hret _
  | ok u =>
    refine hbind hoverrides fun r => ?_
    cases r with
    | error err => exact hret _
    | ok u => exact hwarnings

end

/-- A call that neither lists nor flags anybody. -/
def Quiet (c : scanSig.Call) : Prop :=
  c ≠ .inr (.stmt .getActiveSessionsAboveFUP) ∧ ∀ sub, c ≠ .inr (.stmt (.setFUPActive sub true))

variable {c : scanSig.Call}

theorem watchPass_quiet (hc : Quiet c) (w : Pass) (r : scanSig.Resp c) :
    (watchPass w c r).listed = w.listed ∧ (watchPass w c r).attempted = w.attempted ∧
      (watchPass w c r).flagged = w.flagged ∧ ∀ t ∈ w.queued, t ∈ (watchPass w c r).queued := by
  unfold watchPass
  split
  · exact ⟨rfl, rfl, rfl, fun t ht => mem_append_left _ ht⟩
  · exact absurd rfl hc.1
  · exact absurd rfl (hc.2 _)
  · exact absurd rfl (hc.2 _)
  · exact ⟨rfl, rfl, rfl, fun t ht => ht⟩

/-! ### The loop over the breached sessions -/

/-- Everybody who is flagged has been queued, and everybody who was listed has been tried or is still to
    come. -/
structure Pass.Even (rest : List SessionStats) (w : Pass) : Prop where
  queued : ∀ sub ∈ w.flagged, w.CoAQueued sub
  tried : ∀ st ∈ w.listed, st ∈ rest ∨ st.subscriberID ∈ w.attempted

variable {rest : List SessionStats} {sess : SessionStats} {t : NewTask}

theorem Pass.Even.quiet (h : w.Even rest) (hc : Quiet c) (r : scanSig.Resp c) : (watchPass w c r).Even rest := by
  obtain ⟨hlisted, hattempted, hflagged, hqueued⟩ := watchPass_quiet hc w r
  refine ⟨fun sub hsub => ?_, ?_⟩
  · rw [hflagged] at hsub
    obtain ⟨t, ht, hcoa⟩ := h.queued sub hsub
    exact ⟨t, hqueued t ht, hcoa⟩
  · rw [hlisted, hattempted]
    exact h.tried

/-- The calls of a pass that neither list nor flag anybody. -/
inductive BesideCall : scanSig.Call → Prop where
  | queue (c : queueSig.Call) : BesideCall (.inl c)
  | overrides : BesideCall (.inr (.stmt .listExpiredSpeedOverrides))
  | clear (id : ℤ) : BesideCall (.inr (.stmt (.clearSpeedOverride id)))
  | warnings (pct : ℤ) : BesideCall (.inr (.stmt (.getSessionsAtWarning pct)))

theorem BesideCall.quiet (h : BesideCall c) : Quiet c := by
  constructor
  · rintro rfl
    cases h
  · rintro sub rfl
    cases h

theorem beside_enqueue (t : ClientTask) : (enqueue t).Calls BesideCall := calls_left .queue _

theorem beside_enqueueThrottledNotice (sess : SessionStats) : (enqueueThrottledNotice sess).Calls BesideCall := by
  refine calls_bind (beside_enqueue _) fun r => ?_
  match r with
  | .ok _ => trivial
  | .error .taskIDConflict => trivial
  | .error (.enqueue _ _) => trivial

/-- A part of a pass that lists and flags nobody. -/
theorem even_of_beside {α : Type} {p : ScanProg α} (hp : p.Calls BesideCall) (h : w.Even rest) : PassObeys (fun w' _ => w'.Even rest) p w :=
  hp.obeys_inv (fun _ _ _ _ => trivial) (fun _ _ r hc h => h.quiet hc.quiet r) w h

/-- Trying to flag the next session. -/
theorem Pass.Even.attempt (h : w.Even (sess :: rest)) :
    Pass.Even rest { w with attempted := w.attempted ++ [sess.subscriberID] } := by
  refine ⟨h.queued, fun st hst => ?_⟩
  rcases h.tried st hst with hmem | htried
  · rcases mem_cons.mp hmem with rfl | hmem
    · exact Or.inr (mem_append_right _ (.head _))
    · exact Or.inl hmem
  · exact Or.inr (mem_append_left _ htried)

/-- Flagging it and queueing the CoA. -/
theorem Pass.Even.throttled (h : w.Even (sess :: rest)) (ht : IsCoA sess.subscriberID t) :
    Pass.Even rest { w with attempted := w.attempted ++ [sess.subscriberID],
                            flagged := w.flagged ++ [sess.subscriberID],
                            queued := w.queued ++ [t] } := by
  refine ⟨fun sub hsub => ?_, h.attempt.tried⟩
  rcases mem_append.mp hsub with hold | hnew
  · obtain ⟨t', ht', hcoa⟩ := h.queued sub hold
    exact ⟨t', mem_append_left _ ht', hcoa⟩
  · rw [mem_singleton.mp hnew]
    exact ⟨t, mem_append_right _ (.head _), ht⟩

theorem throttle_rule : ∀ (rest : List SessionStats) (w : Pass), (∀ st ∈ rest, Due st) → w.Even rest →
    PassObeys (fun w' r => r = .ok () ∧ w'.Even []) (throttle rest) w
  | [], _, _, h => ⟨rfl, h⟩
  | sess :: rest, w, hdue, h => by
      obtain ⟨hsess, hrest⟩ := forall_mem_cons.mp hdue
      rw [throttle, if_neg hsess.1, if_pos hsess.2, query_bind]
      refine ⟨trivial, fun r _ => ?_⟩
      match r with
      -- a subscriber who cannot be flagged is skipped, and the next pass finds them again
      | .error _ => exact throttle_rule rest _ hrest h.attempt
      | .ok () =>
        refine obeys_bind.mpr (enqueue_rule (fun now info => ?_) fun now e e' hserved => ?_)
        · have h' := h.throttled ⟨sess.nasIP, now, rfl⟩
          refine obeys_bind.mpr ((even_of_beside (beside_enqueueThrottledNotice sess) h').mono ?_)
          exact fun w' _ h'' => throttle_rule rest w' hrest h''
        -- here the loop would be left with the subscriber flagged
        · obtain ⟨id, hid⟩ :=
            hserved ⟨sess.subscriberID, mem_append_right _ (.head _), _, now, rfl⟩
          cases hid

/-! ### The whole pass -/

theorem beside_scanExpiredOverrides : scanExpiredOverrides.Calls BesideCall :=
  overrides_rule (T := fun p => p.Calls BesideCall) (fun _ => trivial) calls_bind ⟨.overrides, fun _ => trivial⟩ fun id =>
    calls_push (.clear id) fun _ => beside_enqueue _

theorem beside_scanWarnings : scanWarnings.Calls BesideCall :=
  warnings_rule (T := fun p => p.Calls BesideCall) (fun _ => trivial) calls_bind ⟨.warnings _, fun _ => trivial⟩
    fun _ => beside_enqueue _

theorem scanBreaches_rule (h : w.Even []) : PassObeys (fun w' _ => w'.Even []) scanBreaches w := by
  refine ⟨trivial, fun r hr => ?_⟩
  match r with
  | .error _ => exact h
  | .ok sts =>
    have hlisted : Pass.Even sts { w with listed := w.listed ++ sts } := by
      refine ⟨h.queued, fun st hst => ?_⟩
      rcases mem_append.mp hst with hold | hnew
      · exact Or.inr ((h.tried st hold).resolve_left not_mem_nil)
      · exact Or.inl hnew
    exact (throttle_rule sts _ (hr sts rfl) hlisted).mono fun _ _ h' => h'.2

/-- A pass queues a CoA for everybody it flags and tries everybody it is given. -/
theorem scan_rule (h : w.Even []) : PassObeys (fun w' _ => w'.Even []) scan w := by
  refine obeys_bind.mpr ((scanBreaches_rule h).mono fun w₁ r h₁ => ?_)
  match r with
  | .error _ => exact h₁
  | .ok () =>
    refine obeys_bind.mpr ((even_of_beside beside_scanExpiredOverrides h₁).mono fun w₂ r h₂ => ?_)
    match r with
    | .error _ => exact h₂
    | .ok () => exact even_of_beside beside_scanWarnings h₂

/-! ### Any number of passes, among anything else -/

/-- A pass of the scanner, or whatever else works on the same tables. -/
inductive Actor where
  | pass
  | other (p : ScanProg Unit)

def Actor.prog : Actor → ScanProg Unit
  | pass => Scanner.scan.void
  | other p => p

/-- The INSERT of a CoA for somebody the pass has flagged does not fail. -/
def CoAStored (p : Pool scanSig Pass (QueueDB × Network)) (i : ℕ) (e : ScanEnv) : Prop :=
  ∀ w t k, p.threads[i]? = some (w, .call (.inl (.stmt (.insert t))) k) → w.Owes t →
    e.queue.fails = false

/-- The INSERT of a CoA task has nothing to fail on. -/
theorem insertTask_coa {sub : ℤ} (ht : IsCoA sub t) (s : QueueDB) : ∃ id, (insertTask t s).1 = .ok id := by
  obtain ⟨nasIP, now, rfl⟩ := ht
  exact ⟨s.tasks.last + 1, rfl⟩

section
variable {s : Network} {id : ℤ} {st : SessionStats}

theorem sessionStats_not_skipped {keep : RatePlan → ℤ → Prop} [∀ p n, Decidable (keep p n)]
    (h : FUPStore.sessionStats s keep id = some st) : ¬(st.fupThreshold = 0 ∨ st.fupActive = true) := by
  obtain ⟨-, hpos, hactive, -⟩ := FUPStore.sessionStats_eq_some h
  rintro (hzero | hthrottled)
  · exact ne_of_gt hpos hzero
  · rw [hactive] at hthrottled
    cases hthrottled

theorem sessionStats_due (h : FUPStore.sessionStats s FUPStore.Breached id = some st) : Due st := by
  obtain ⟨-, -, -, p, hp, hbreached⟩ := FUPStore.sessionStats_eq_some h
  exact ⟨sessionStats_not_skipped h, hp ▸ hbreached⟩

end

/-- The answers a pass gets: an INSERT that does not fail, and a query that lists whoever is due. -/
theorem served_of_stored {e : ScanEnv} {s : QueueDB × Network}
    (hstored : ∀ t, c = .inl (.stmt (.insert t)) → w.Owes t → e.queue.fails = false) :
    Served w c (scanExec e c s).1 := by
  unfold Served
  split
  · rename_i t
    intro howes
    obtain ⟨sub, -, hcoa⟩ := id howes
    have hf := hstored t rfl howes
    have hexec : (scanExec e (.inl (.stmt (.insert t))) s).1 =
        (insertTask t (s.1.advance e.queue.elapsed)).1 := by
      show (queueExec e.queue (.stmt (.insert t)) s.1).1 = _
      rw [queueExec, if_neg (by rw [hf]; exact Bool.false_ne_true)]
      rfl
    rw [hexec]
    exact insertTask_coa hcoa _
  · intro sts hsts st hst
    have hexec : (netExec e.net (.stmt .getActiveSessionsAboveFUP) s.2).1 = .ok sts := hsts
    rw [Daemon.exec_stmt] at hexec
    split at hexec
    · cases hexec
    · cases hexec
      obtain ⟨id, -, hid⟩ := mem_filterMap.mp hst
      exact sessionStats_due hid
  · trivial

/-- Anything may be done by somebody else. -/
theorem obeys_other : ∀ (p : ScanProg Unit) (w : Pass), PassObeys (fun _ _ => True) p w
  | .ret _, _ => trivial
  | .call _ k, _ => ⟨trivial, fun r _ => obeys_other (k r) _⟩

/-- Any number of passes in any interleaving with each other and with anything else, and any failures:
    if no INSERT of a CoA for somebody flagged by the same pass fails, then a pass that has ended has
    queued a CoA for everybody it has flagged, and has tried to flag everybody it was given. -/
theorem flagged_have_coa (actors : List Actor) (s : QueueDB × Network) (sched : List (ℕ × ScanEnv))
    (hstored : Meets scanExec watchPass CoAStored
      (start Pass.begin s (actors.map Actor.prog)) sched)
    (i : ℕ) (hpass : actors[i]? = some .pass) (w : Pass)
    (hended : (run scanExec watchPass (start Pass.begin s (actors.map Actor.prog))
      sched).threads[i]? = some (w, .ret ())) :
    (∀ sub ∈ w.flagged, w.CoAQueued sub) ∧ ∀ st ∈ w.listed, st.subscriberID ∈ w.attempted := by
  -- every thread keeps its own record; only those of passes have to come out even
  let Q : ℕ → Pass → Prop := fun i w => actors[i]? = some .pass → w.Even []
  have hstart : Obeying watchPass Served (fun _ _ _ => True) Q
      (start Pass.begin s (actors.map Actor.prog)) := by
    refine obeying_start fun j q hq => ?_
    rw [List.getElem?_map, Option.map_eq_some_iff] at hq
    obtain ⟨a, ha, rfl⟩ := hq
    cases a with
    | pass =>
      have hbegin : Pass.begin.Even [] := ⟨fun _ h => (by cases h), fun _ h => (by cases h)⟩
      exact obeys_bind.mpr ((scan_rule hbegin).mono fun _ _ h _ => h)
    | other p =>
      refine (obeys_other p _).mono fun _ _ _ hj => ?_
      rw [ha] at hj
      cases hj
  have hrun : Obeying watchPass Served (fun _ _ _ => True) Q
      (run scanExec watchPass (start Pass.begin s (actors.map Actor.prog)) sched) := by
    refine run_inv (fun p j e h hC => obeying_step h fun w c k hk => ?_) sched _ hstart
      hstored
    exact served_of_stored fun t ht howes => hC w t (ht ▸ k) (by subst ht; exact hk) howes
  have heven : w.Even [] := hrun i w _ hended hpass
  exact ⟨heven.queued, fun st hst => (heven.tried st hst).resolve_left not_mem_nil⟩

/-- Both subscribers are online and past their threshold of a thousand bytes. -/
def bothBreached : QueueDB × Network :=
  (.empty 0, fullDaemon.serve twoSubscribers
    [(.at 0, .of .start "ann" "10.0.0.1" "a1" 0 0), (.at 1, .of .start "bob" "10.0.0.2" "b1" 0 0),
      (.at 2, .of .interimUpdate "ann" "10.0.0.1" "a1" 1200 0),
      (.at 3, .of .interimUpdate "bob" "10.0.0.2" "b1" 1200 0)])

/-- The statements of the queue fail or not, those of the network fail as told. -/
def scanEnv (queueFails : Bool) (netFails : NetOp → Bool) : ScanEnv where
  queue :=
    { elapsed := 0, fails := queueFails, locked := fun _ => false, localNow := 0,
      shuffled := ⟨id, fun _ => .refl _⟩, handled := .returned none }
  net := { NetEnv.at 10 with fails := netFails }

theorem stored_of_working_queue :
    ∀ (sched : List (ℕ × ScanEnv)) (p : Pool scanSig Pass (QueueDB × Network)),
      (∀ x ∈ sched, x.2.queue.fails = false) → Meets scanExec watchPass CoAStored p sched
  | [], _, _ => trivial
  | x :: xs, _, h =>
    ⟨fun _ _ _ _ _ => h x (.head _), stored_of_working_queue xs _ fun y hy => h y (.tail _ hy)⟩

/-- A pass in which the first subscriber cannot be flagged. -/
def oneUnflagged : List (ℕ × ScanEnv) :=
  List.replicate 12 (0, scanEnv false fun op => op = .setFUPActive 1 true)

theorem oneUnflagged_throttles_other :
    Meets scanExec watchPass CoAStored (start Pass.begin bothBreached [Actor.pass.prog])
      oneUnflagged ∧
    ∃ w, (run scanExec watchPass (start Pass.begin bothBreached [Actor.pass.prog])
        oneUnflagged).threads[0]? = some (w, .ret ()) ∧
      w.attempted = [1, 2] ∧ w.flagged = [2] ∧ (∀ sub ∈ w.flagged, w.CoAQueued sub) ∧
      ∀ st ∈ w.listed, st.subscriberID ∈ w.attempted := by
  have hstored := stored_of_working_queue oneUnflagged
    (start Pass.begin bothBreached [Actor.pass.prog]) (by decide +kernel)
  have hrun : (run scanExec watchPass (start Pass.begin bothBreached [Actor.pass.prog])
      oneUnflagged).threads[0]?.map (fun t => (t.1.attempted, t.1.flagged, t.2.isRet)) =
        some ([1, 2], [2], true) := by decide +kernel
  obtain ⟨⟨w, q⟩, hw, heq⟩ := Option.map_eq_some_iff.mp hrun
  simp only [Prod.mk.injEq] at heq
  obtain ⟨hattempted, hflagged, hret⟩ := heq
  cases q with
  | call c k => cases hret
  | ret u =>
    exact ⟨hstored, w, hw, hattempted, hflagged,
      flagged_have_coa [.pass] bothBreached oneUnflagged hstored 0 rfl w hw⟩

/-- The passes of a scanner, one after the other. -/
def passes (envs : List ScanEnv) (s : QueueDB × Network) : QueueDB × Network :=
  envs.foldl (fun s e => (Prog.run scanExec e Scanner.scan s).2) s

/-- The subscriber's flag, whether a session of theirs is open, and the payloads of all CoA tasks. -/
def view (s : QueueDB × Network) (sub : ℤ) : Option Bool × Bool × List (List UInt8) :=
  ((s.2.directory.subscribers.lookup sub).map (·.fupActive),
    s.2.sessions.any fun r => r.IsOpen ∧ r.subscriberID = sub,
    ((s.1.tasks.rows.entries.filter fun x => x.2.taskType = TaskTypeCoA).map (·.2.payload)))

def calm : ScanEnv := scanEnv false fun _ => false

def outage : ScanEnv := scanEnv true fun _ => false

/-- After an outage and one good pass, a further pass changes nothing. -/
theorem passes_fixed : ∀ n, passes (List.replicate n calm) (passes [outage, calm] bothBreached) =
    passes [outage, calm] bothBreached
  | 0 => rfl
  | n + 1 => by
      exact passes_fixed n

/-- The queue is out for one pass: the first subscriber is flagged without a CoA task and the second is
    not tried. However many good passes follow, there is a CoA task for the second subscriber only. -/
theorem failed_enqueue_strands_subscriber :
    view (passes [outage] bothBreached) 1 = (some true, true, []) ∧
    view (passes [outage] bothBreached) 2 = (some false, true, []) ∧
    ∀ n, view (passes (outage :: calm :: List.replicate n calm) bothBreached) 1 =
      (some true, true, [coaPayload 2 "10.0.0.2"]) := by
  refine ⟨by decide +kernel, by decide +kernel, fun n => ?_⟩
  have hsplit : passes (outage :: calm :: List.replicate n calm) bothBreached =
      passes (List.replicate n calm) (passes [outage, calm] bothBreached) := rfl
  rw [hsplit, passes_fixed n]
  decide +kernel

end IspBss.Fup
