import IspBss.Props.CommandTargets
import IspBss.Props.RateAgreement

/-! Does an override last as long as it was given?

    A sweep lists whoever has an override that has run out, and then clears them one by one. The clear
    names the subscriber and asks nothing about the override that is stored by then:

        sweep     list [7] ──────────────────────────────▶ clear 7
        request                 set 7 (until cleared)                  gone at once

    A sweep remembers the ids it has been given until it has cleared them. As long as no override is
    stored for somebody who is on such a list, all a sweep clears has run out. -/

namespace IspBss.Radius

/-- The statements that write a subscriber. -/
def NetOp.writesProfile : NetOp → Bool
  | setFUPActive _ _ | clearSpeedOverride _ | setSpeedOverride _ _ _ => true
  | _ => false

/-- The others leave the directory. -/
theorem NetOp.run_directory {op : NetOp} (h : op.writesProfile = false) (now : Time)
    (order : List ℤ → List ℤ) (s : Network) : (op.run now order s).2.directory = s.directory := by
  cases op with
  | startSession subscriberID sessionID nasIP assignedIP ipv6Prefix =>
    simp only [NetOp.run, FUPStore.StartSession]
    split_ifs <;> rfl
  | recordGrantUsage mac sessionID nasIP bytesUsed =>
    simp only [NetOp.run, HotspotStore.RecordGrantUsage]
    split
    · rfl
    · split_ifs <;> rfl
  | setFUPActive id active => cases h
  | clearSpeedOverride id => cases h
  | setSpeedOverride id rateLimit expiresAt => cases h
  | _ => rfl

end IspBss.Radius

namespace IspBss.Fup

open Lib Jobqueue Radius FUPStore Scanner Prog List Option Pool Api

/-! ### What is stored -/

/-- The two columns of a subscriber. -/
def overrideOf (net : Network) (id : ℤ) : Option (Option String × Option Time) :=
  (net.directory.subscribers.lookup id).map fun sub =>
    (sub.speedOverrideRateLimit, sub.speedOverrideExpiresAt)

def Stores (net : Network) (id : ℤ) (rate : String) (expiresAt : Option Time) : Prop :=
  overrideOf net id = some (some rate, expiresAt)

/-- Any override that is stored has run out. -/
def Spent (now : Time) (net : Network) (id : ℤ) : Prop :=
  ∀ rate expiresAt, Stores net id rate expiresAt → ∃ t ∈ expiresAt, t ≤ now

variable {now : Time} {id : ℤ}

theorem Spent.later {now' : Time} {net : Network} (hle : now ≤ now') (h : Spent now net id) :
    Spent now' net id := by
  intro rate expiresAt hstores
  obtain ⟨t, ht, htime⟩ := h rate expiresAt hstores
  exact ⟨t, ht, htime.trans hle⟩

@[reducible] def setCall (id : ℤ) (rate : String) (expiresAt : Option Time) : scanSig.Call :=
  .inr (.stmt (.setSpeedOverride id rate expiresAt))

@[reducible] def clearCall (id : ℤ) : scanSig.Call := .inr (.stmt (.clearSpeedOverride id))

/-- The calls that write the override of a subscriber. -/
inductive Writes (id : ℤ) : scanSig.Call → Prop
  | set (rate : String) (expiresAt : Option Time) : Writes id (setCall id rate expiresAt)
  | clear : Writes id (clearCall id)

theorem overrideOf_updateSubscriber {id' : ℤ} {f : Profile → Profile} (net : Network)
    (h : id' = id → ∀ p, ((f p).speedOverrideRateLimit, (f p).speedOverrideExpiresAt) =
      (p.speedOverrideRateLimit, p.speedOverrideExpiresAt)) :
    overrideOf (updateSubscriber id' f net).2 id = overrideOf net id := by
  simp only [overrideOf, lookup_updateSubscriber, Option.map_map]
  cases net.directory.subscribers.lookup id with
  | none => rfl
  | some p =>
    by_cases hid : id = id'
    · simpa [hid] using h hid.symm p
    · simp [hid]

variable {c : scanSig.Call}

/-- All other calls leave it. -/
theorem overrideOf_frame (hc : ¬Writes id c) (e : ScanEnv) (s : QueueDB × Network) :
    overrideOf (scanExec e c s).2.2 id = overrideOf s.2 id := by
  have hstmt : ∀ op, ¬Writes id (.inr (.stmt op)) →
      overrideOf (op.run e.net.now e.net.order.1 s.2).2 id = overrideOf s.2 id := by
    intro op hop
    cases hw : op.writesProfile with
    | false => rw [overrideOf, NetOp.run_directory hw, overrideOf]
    | true =>
      cases op with
      | setFUPActive id' active => exact overrideOf_updateSubscriber _ fun _ _ => rfl
      | clearSpeedOverride id' =>
        refine overrideOf_updateSubscriber _ fun hid => absurd ?_ hop
        subst hid
        exact .clear
      | setSpeedOverride id' rate expiresAt =>
        simp only [NetOp.run, SetSpeedOverride]
        split
        · rfl
        · refine overrideOf_updateSubscriber _ fun hid => absurd ?_ hop
          subst hid
          exact .set rate expiresAt
      | _ => cases hw
  rcases c with c | c
  · rfl
  · cases c with
    | stmt op =>
      show overrideOf (netExec e.net (.stmt op) s.2).2 id = _
      rw [Daemon.exec_stmt]
      split
      · rfl
      · exact hstmt op hc
    | _ => rfl

/-- A clear leaves nothing that could last. -/
theorem spent_clear {net : Network} (h : Spent now net id) (e : ScanEnv) (q : QueueDB) :
    Spent now (scanExec e (clearCall id) (q, net)).2.2 id := by
  show Spent now (netExec e.net (.stmt (.clearSpeedOverride id)) net).2 id
  rw [Daemon.exec_stmt]
  split
  · exact h
  · intro rate expiresAt hstores
    simp only [NetOp.run, ClearSpeedOverride, Stores, overrideOf, lookup_updateSubscriber,
      Option.map_map] at hstores
    obtain ⟨p, -, hp⟩ := map_eq_some_iff.mp hstores
    simp at hp

variable {s : QueueDB × Network}

/-- So whatever has run out stays so, unless an override is set. -/
theorem Spent.step (h : Spent now s.2 id) (hc : ∀ rate expiresAt, c ≠ setCall id rate expiresAt) (e : ScanEnv) :
    Spent now (scanExec e c s).2.2 id := by
  by_cases hw : Writes id c
  · cases hw with
    | set rate expiresAt => exact absurd rfl (hc rate expiresAt)
    | clear => exact spent_clear h e s.1
  · intro rate expiresAt hstores
    rw [Stores, overrideOf_frame hw] at hstores
    exact h rate expiresAt hstores

variable {e : ScanEnv}

/-- Whoever is listed has an override that has run out. -/
theorem spent_of_listed {ids : List ℤ} (h : (netExec e.net (.stmt .listExpiredSpeedOverrides) s.2).1 = .ok ids) :
    ∀ id ∈ ids, Spent e.net.now s.2 id := by
  rw [Daemon.exec_stmt] at h
  split at h
  · cases h
  · cases h
    intro id hid rate expiresAt hstores
    obtain ⟨x, hx, rfl⟩ := mem_map.mp ((e.net.order.2 _).mem_iff.mp hid)
    obtain ⟨hmem, hexpired⟩ := mem_filter.mp hx
    have hrow : s.2.directory.subscribers.lookup x.1 = some x.2 := AList.mem_lookup_iff.mpr hmem
    rw [Stores, overrideOf, hrow] at hstores
    simp only [map_some, some.injEq, Prod.mk.injEq] at hstores
    rw [hstores.2] at hexpired
    cases expiresAt with
    | none => cases hexpired
    | some t => exact ⟨t, rfl, of_decide_eq_true hexpired⟩

/-! ### Who takes part -/

/-- A thread's list: whom it has been told to have run out and has not tried to clear since. -/
def watchListed : Watch scanSig (List ℤ)
  | _, .inr (.stmt .listExpiredSpeedOverrides), .ok ids => ids
  | w, .inr (.stmt (.clearSpeedOverride id)), _ => w.erase id
  | w, _, _ => w

/-- A call that leaves everybody's override and lists nobody. -/
def LeavesOverrides (c : scanSig.Call) : Prop :=
  c ≠ .inr (.stmt .listExpiredSpeedOverrides) ∧ ∀ id, ¬Writes id c

/-- A sweep, a whole pass of the scanner, a request of the API, or anything else that has nothing to do
    with overrides. -/
inductive OverrideActor where
  | sweep
  | pass
  | set (configured : Bool) (id : Option ℤ) (body : Except String Handler.SpeedOverrideRequest)
  | clear (configured : Bool) (id : Option ℤ)
  | other (p : ScanProg Unit) (leaves : p.Calls LeavesOverrides)

namespace OverrideActor

def prog : OverrideActor → ScanProg Unit
  | sweep => Scanner.scanExpiredOverrides.void
  | pass => Scanner.scan.void
  | set configured id body => (Handler.SpeedOverride configured id body).void
  | clear configured id => (Handler.ClearSpeedOverride configured id).void
  | other p _ => p

/-- What each of them may write: a sweep clears whom it has listed, a request does what it says. -/
def Rule : OverrideActor → List ℤ → scanSig.Call → Prop
  | sweep, w, c | pass, w, c => ∀ id, Writes id c → c = clearCall id ∧ id ∈ w
  | set _ _ _, _, c => ∀ id, Writes id c → ∃ rate expiresAt, c = setCall id rate expiresAt
  | clear _ _, _, c => ∀ id, Writes id c → c = clearCall id
  | other _ _, _, c => ∀ id, ¬Writes id c

end OverrideActor

/-- Whatever the answers are, the calls of the program are allowed. -/
abbrev Rules {α : Type} (P : List ℤ → scanSig.Call → Prop) (Q : List ℤ → Prop) (p : ScanProg α) (w : List ℤ) :
    Prop :=
  Prog.Obeys watchListed (fun _ _ _ => True) P (fun w' _ => Q w') p w

theorem leaves_queue (c : queueSig.Call) : LeavesOverrides (.inl c) :=
  ⟨(nomatch ·), fun _ h => nomatch h⟩

theorem leaves_enqueue (t : ClientTask) : (enqueue t).Calls LeavesOverrides := calls_left leaves_queue _

theorem leaves_stmt {op : NetOp} (hlist : op ≠ .listExpiredSpeedOverrides)
    (hset : ∀ id rate expiresAt, op ≠ .setSpeedOverride id rate expiresAt)
    (hclear : ∀ id, op ≠ .clearSpeedOverride id) : LeavesOverrides (.inr (.stmt op)) := by
  refine ⟨fun h => hlist (by simpa using h), fun id h => ?_⟩
  cases h with
  | set rate expiresAt => exact hset id rate expiresAt (by simpa using hc)
  | clear => exact hclear id (by simpa using hc)

/-- A part of a program that leaves overrides alone keeps the list. -/
theorem rules_of_leaves {α : Type} {P : List ℤ → scanSig.Call → Prop} {p : ScanProg α}
    (hp : p.Calls LeavesOverrides) (hP : ∀ w c, LeavesOverrides c → P w c) (w : List ℤ) : Rules P (· = w) p w := by
  refine hp.obeys_inv (fun w' c _ => hP w' c) (fun w' c r hc hw => ?_) w rfl
  subst hw
  unfold watchListed
  split
  · exact absurd rfl hc.1
  · exact absurd Writes.clear (hc.2 _)
  · rfl

/-! ### Sweeps -/

/-- The rule of a sweep. -/
abbrev SweepRule (w : List ℤ) (c : scanSig.Call) : Prop := ∀ id, Writes id c → c = clearCall id ∧ id ∈ w

theorem sweepRule_of_leaves (w : List ℤ) (c : scanSig.Call) (hc : LeavesOverrides c) : SweepRule w c :=
  fun id h => absurd h (hc.2 id)

theorem revertOverride_rules (id : ℤ) (rest : List ℤ) :
    Rules SweepRule (· = rest) (revertOverride id) (id :: rest) := by
  refine ⟨fun id' h => ?_, fun r _ => ?_⟩
  · cases h
    exact ⟨rfl, .head _⟩
  · have hlist : watchListed (id :: rest) (clearCall id) r = rest := erase_cons_head ..
    rw [hlist]
    cases r with
    | error err => rfl
    | ok u => exact rules_of_leaves (calls_void (leaves_enqueue _)) sweepRule_of_leaves rest

theorem scanExpiredOverrides_rules : Rules SweepRule (fun _ => True) scanExpiredOverrides [] := by
  rw [scanExpiredOverrides, query_bind]
  refine ⟨fun id h => (by cases h), fun r _ => ?_⟩
  cases r with
  | error err => trivial
  | ok ids =>
    -- the list is what the loop still has before it
    refine obeys_bind.mpr (Prog.Obeys.mono (fun _ _ _ => trivial)
      (obeys_each (I := fun rest w => w = rest) ?_ ids ids rfl))
    rintro id rest w rfl
    exact revertOverride_rules id rest

theorem leaves_scanBreaches : scanBreaches.Calls LeavesOverrides := by
  refine breaches_rule (T := fun p => p.Calls LeavesOverrides) (fun _ => trivial) calls_bind
    ⟨leaves_stmt (by simp) (by simp) (by simp), fun _ => trivial⟩ (fun id => ?_) fun _ => leaves_enqueue _
  exact calls_push (leaves_stmt (by simp) (by simp) (by simp)) fun _ => leaves_enqueue _

theorem leaves_scanWarnings : scanWarnings.Calls LeavesOverrides :=
  warnings_rule (T := fun p => p.Calls LeavesOverrides) (fun _ => trivial) calls_bind
    ⟨leaves_stmt (by simp) (by simp) (by simp), fun _ => trivial⟩ fun _ => leaves_enqueue _

theorem scan_rules : Rules SweepRule (fun _ => True) scan [] := by
  refine obeys_bind.mpr ((rules_of_leaves leaves_scanBreaches sweepRule_of_leaves []).mono ?_)
  rintro w r rfl
  cases r with
  | error err => trivial
  | ok u =>
    refine obeys_bind.mpr (scanExpiredOverrides_rules.mono fun w r _ => ?_)
    cases r with
    | error err => trivial
    | ok u => exact (rules_of_leaves leaves_scanWarnings sweepRule_of_leaves w).mono fun _ _ _ => trivial

/-! ### Requests -/

theorem calls_enqueueSpeedOverrideCoA (id : ℤ) : (Handler.enqueueSpeedOverrideCoA id).Calls LeavesOverrides :=
  calls_void (leaves_enqueue _)

theorem calls_SpeedOverride (configured : Bool) (id : Option ℤ)
    (body : Except String Handler.SpeedOverrideRequest) :
    (Handler.SpeedOverride configured id body).Calls fun c =>
      LeavesOverrides c ∨ ∃ id rate expiresAt, c = setCall id rate expiresAt := by
  cases id with
  | none => trivial
  | some id =>
    simp only [Handler.SpeedOverride]
    split
    · trivial
    cases body with
    | error err => trivial
    | ok req =>
      dsimp only
      split
      · trivial
      split
      · trivial
      refine calls_bind ⟨.inl (leaves_queue _), fun _ => trivial⟩ fun now => ?_
      rw [query_bind]
      refine ⟨.inr ⟨_, _, _, rfl⟩, fun r => ?_⟩
      cases r with
      | error err => trivial
      | ok u =>
        exact calls_bind ((calls_enqueueSpeedOverrideCoA id).mono fun _ h => .inl h) fun _ => trivial

theorem calls_ClearSpeedOverride (configured : Bool) (id : Option ℤ) :
    (Handler.ClearSpeedOverride configured id).Calls fun c => LeavesOverrides c ∨ ∃ id, c = clearCall id := by
  cases id with
  | none => trivial
  | some id =>
    rw [Handler.ClearSpeedOverride]
    split
    · trivial
    rw [query_bind]
    refine ⟨.inr ⟨_, rfl⟩, fun r => ?_⟩
    cases r with
    | error err => trivial
    | ok u =>
      exact calls_bind ((calls_enqueueSpeedOverrideCoA id).mono fun _ h => .inl h) fun _ => trivial

/-- Everybody keeps to the rule, whatever the answers are. -/
theorem OverrideActor.rules (a : OverrideActor) : Rules a.Rule (fun _ => True) a.prog [] := by
  cases a with
  | sweep => exact obeys_bind.mpr (scanExpiredOverrides_rules.mono fun _ _ _ => trivial)
  | pass => exact obeys_bind.mpr (scan_rules.mono fun _ _ _ => trivial)
  | set configured id body =>
    refine (calls_void (calls_SpeedOverride configured id body)).obeys (fun w c hc id h => ?_) []
    rcases hc with hleaves | ⟨id', rate, expiresAt, rfl⟩
    · exact absurd h (hleaves.2 id)
    · cases h
      exact ⟨rate, expiresAt, rfl⟩
  | clear configured id =>
    refine (calls_void (calls_ClearSpeedOverride configured id)).obeys (fun w c hc id h => ?_) []
    rcases hc with hleaves | ⟨id', rfl⟩
    · exact absurd h (hleaves.2 id)
    · cases h
      rfl
  | other p leaves => exact leaves.obeys (fun _ _ hc => hc.2) []

/-! ### Any interleaving -/

abbrev OverridePool := Pool scanSig (List ℤ) (QueueDB × Network)

/-- The override a thread is about to set. -/
def setsNext : ScanProg Unit → Option ℤ
  | .call (.inr (.stmt (.setSpeedOverride id _ _))) _ => some id
  | _ => none

/-- An override is set only for somebody who is on no list. -/
def SetApart (p : OverridePool) (i : ℕ) (_ : ScanEnv) : Prop :=
  ∀ x ∈ p.threads[i]?, ∀ id ∈ setsNext x.2, ∀ t ∈ p.threads, id ∉ t.1
  deriving Decidable

variable (actors : List OverrideActor)

/-- The step leaves every override that has not run out, unless it is a request that sets another one or
    clears it. -/
def OverrideKept (p : OverridePool) (i : ℕ) (e : ScanEnv) : Prop :=
  ∀ id rate expiresAt, Stores p.shared.2 id rate expiresAt → (∀ t ∈ expiresAt, e.net.now < t) →
    Stores (step scanExec watchListed p i e).shared.2 id rate expiresAt ∨
    (∃ w rate' expiresAt' k, p.threads[i]? = some (w, .call (setCall id rate' expiresAt') k) ∧
      ∃ configured id' body, actors[i]? = some (.set configured id' body)) ∨
    ∃ w k, p.threads[i]? = some (w, .call (clearCall id) k) ∧
      ∃ configured id', actors[i]? = some (.clear configured id')

/-- Everybody keeps to the rule, and whoever is on a list has an override that has run out. -/
structure Listed (now : Time) (p : OverridePool) : Prop where
  rules : Obeying watchListed (fun _ _ _ => True)
    (fun i w c => ∃ a, actors[i]? = some a ∧ a.Rule w c) (fun _ _ => True) p
  spent : ∀ t ∈ p.threads, ∀ id ∈ t.1, Spent now p.shared.2 id

theorem listed_start (now : Time) (s : QueueDB × Network) :
    Listed actors now (start [] s (actors.map OverrideActor.prog)) where
  rules := by
    refine obeying_start fun i q hq => ?_
    rw [getElem?_map, map_eq_some_iff] at hq
    obtain ⟨a, ha, rfl⟩ := hq
    exact a.rules.mono_rules fun w c hc => ⟨a, ha, hc⟩
  spent := by
    intro t ht id hid
    obtain ⟨q, -, rfl⟩ := mem_map.mp ht
    cases hid

/-- What a step that a thread takes does to its list. -/
theorem mem_watchListed {w : List ℤ} (h : id ∈ watchListed w c (scanExec e c s).1) :
    id ∈ w ∨ c = .inr (.stmt .listExpiredSpeedOverrides) ∧ Spent e.net.now s.2 id := by
  unfold watchListed at h
  split at h
  · rename_i ids hids
    exact .inr ⟨rfl, spent_of_listed hids id h⟩
  · exact .inl (mem_of_mem_erase h)
  · exact .inl h

theorem Listed.step {actors : List OverrideActor} {p : OverridePool} {i : ℕ}
    (h : Listed actors e.net.now p) (hapart : SetApart p i e) :
    OverrideKept actors p i e ∧ Listed actors e.net.now (step scanExec watchListed p i e) := by
  rcases step_cases p i e with ⟨-, hsame⟩ | ⟨w, c, k, hi, hstep⟩
  · rw [hsame]
    refine ⟨fun id rate expiresAt hstores _ => .inl ?_, h⟩
    rw [hsame]
    exact hstores
  obtain ⟨a, ha, hrule⟩ := h.rules.allowed hi
  have hshared := step_shared (M := scanExec) (m := watchListed) (e := e) hi
  constructor
  · intro id rate expiresAt hstores hlasts
    by_cases hw : Writes id c
    · -- a sweep writes only what has run out
      have hsweep : ¬(c = clearCall id ∧ id ∈ w) := by
        rintro ⟨-, hid⟩
        obtain ⟨t, ht, hpast⟩ := h.spent _ (mem_of_getElem? hi) id hid rate expiresAt hstores
        exact absurd (hlasts t ht) (not_lt.mpr hpast)
      cases a with
      | sweep => exact absurd (hrule id hw) hsweep
      | pass => exact absurd (hrule id hw) hsweep
      | set configured id' body =>
        obtain ⟨rate', expiresAt', rfl⟩ := hrule id hw
        exact .inr (.inl ⟨w, rate', expiresAt', k, hi, configured, id', body, ha⟩)
      | clear configured id' =>
        obtain rfl := hrule id hw
        exact .inr (.inr ⟨w, k, hi, configured, id', ha⟩)
      | other q leaves => exact absurd hw (hrule id)
    · refine .inl ?_
      rw [hshared, Stores, overrideOf_frame hw]
      exact hstores
  · refine ⟨obeying_step h.rules fun _ _ _ _ => trivial, fun t ht id hid => ?_⟩
    rw [hshared]
    -- nobody on a list is given an override
    have hset : ∀ t' ∈ p.threads, id ∈ t'.1 → ∀ rate expiresAt, c ≠ setCall id rate expiresAt := by
      rintro t' ht' hid' rate expiresAt rfl
      exact hapart _ hi id rfl t' ht' hid'
    obtain ⟨j, hj⟩ := mem_iff_getElem?.mp ht
    rcases step_thread hi hj with ⟨-, hwatch, -⟩ | ⟨-, hold⟩
    · rw [hwatch] at hid
      rcases mem_watchListed hid with hid | ⟨rfl, hspent⟩
      · exact (h.spent _ (mem_of_getElem? hi) id hid).step (hset _ (mem_of_getElem? hi) hid) e
      · refine hspent.step (fun rate expiresAt hc => ?_) e
        cases hc
    · exact (h.spent _ (mem_of_getElem? hold) id hid).step (hset _ (mem_of_getElem? hold) hid) e

/-- Sweeps, passes, requests and anything else, in any interleaving that goes with the clock and with
    any failures: if an override is set only for somebody who is on no sweep's list, then every override
    lasts until it has run out, is replaced by a request or is cleared by one. -/
theorem overrides_last_of_setApart (actors : List OverrideActor) (s : QueueDB × Network)
    (sched : List (ℕ × ScanEnv)) (hclock : sched.Pairwise fun x y => x.2.net.now ≤ y.2.net.now)
    (hapart : Meets scanExec watchListed SetApart
      (start [] s (actors.map OverrideActor.prog)) sched) :
    Meets scanExec watchListed (OverrideKept actors)
      (start [] s (actors.map OverrideActor.prog)) sched := by
  refine meets_in_time (fun e : ScanEnv => e.net.now) (I := Listed actors) ?_ ?_ ?_ hclock hapart
  · intro t t' p hle h
    exact ⟨h.rules, fun x hx id hid => (h.spent x hx id hid).later hle⟩
  · exact fun p i e h hC => h.step hC
  · exact fun x _ => listed_start actors _ s

/-- The override of the only subscriber has run out at 5. It is 10. -/
def lapsedOverride : QueueDB × Network := (.empty 0, boosted 5)

/-- A sweep, and an owner who gives the same subscriber another rate until further notice. -/
def sweepAndSet : List OverrideActor := [.sweep, .set true (some 1) (.ok ⟨"50M/50M", 0⟩)]

def sweepAndSetPool : OverridePool := start [] lapsedOverride (sweepAndSet.map OverrideActor.prog)

/-- The override after some steps of these two. -/
def overrideAfter (steps : List ℕ) : Option (Option String × Option Time) :=
  overrideOf (run scanExec watchListed sweepAndSetPool (steps.map (·, calm))).shared.2 1

/-- The owner comes after the sweep. -/
theorem override_after_sweep_lasts :
    Meets scanExec watchListed (OverrideKept sweepAndSet) sweepAndSetPool
        ([0, 0, 0, 0, 1, 1, 1, 1].map (·, calm)) ∧
      overrideAfter [0, 0, 0, 0, 1, 1, 1, 1] = some (some "50M/50M", none) :=
  ⟨overrides_last_of_setApart sweepAndSet lapsedOverride _ (by decide +kernel) (by decide +kernel),
    by decide +kernel⟩

/-- The owner comes between the list and the clear: what was given until further notice is gone. -/
theorem override_lost_to_sweep :
    overrideAfter [0, 1, 1] = some (some "50M/50M", none) ∧
      overrideAfter [0, 1, 1, 0] = some (none, none) := by
  decide +kernel

end IspBss.Fup
