import IspBss.Props.Authorisation
import IspBss.Props.Restoration

/-! Is a terminated subscriber terminated for good?

    Most writers of a row keep its status or cannot match a terminated one. Two can:

        PATCH                        writes the status it is given
        SetSubscriberDunningState    writes the status of the stage, from a list read earlier

    Both scanners skip terminated subscribers when they list, so a pass that nothing overtakes
    leaves them alone. In an interleaving a termination can fall between the list and the write:

        pass        list ─────────────────────▶ write `active`
        operator          terminate ─▶ committed

    So what has to be kept apart are terminations and the passes that have the subscriber on their
    list. -/

namespace IspBss

open Lib Prog Pool Call BillingStore

/-! ### The operations -/

/-- The operations that write a subscriber's row. -/
inductive StatusOp where
  | life (op : LifecycleOp)
  | patch (id : Option ℤ) (body : Except String SubscriberPatch)
  | setPlan (id newPlanID : ℤ) (newExpiry : Time)
  | activate (id : ℤ) (expiry : Time)

def StatusOp.prog : StatusOp → Service Unit
  | life op => op.prog
  | patch id body => (Handler.UpdateSubscriber id body).void
  | setPlan id newPlanID newExpiry => (db (.setSubscriberPlan id newPlanID newExpiry)).void
  | activate id expiry => (db (.activateSubscriber id expiry)).void

/-- A partial update of the subscriber whose body names another status than `terminated`. -/
def StatusOp.namesStatus (id : ℤ) : StatusOp → Bool
  | patch (some id') (.ok body) => id' = id && body.status.any (· ≠ "terminated")
  | _ => false

/-- Whether the subscriber is on the list that a pass has read. -/
def listing (id : ℤ) : Watch sig Bool
  | listed, .db .listDunningCandidates, r =>
    match (r : Except StoreErr (List DunningCandidate)) with
    | .ok cs => listed || cs.any fun c => c.subscriberID = id
    | .error _ => listed
  | listed, .db .listRenewalCandidates, r =>
    match (r : Except StoreErr (List RenewalCandidate)) with
    | .ok cs => listed || cs.any fun c => c.subscriberID = id
    | .error _ => listed
  | listed, _, _ => listed

/-- Operations in progress over the database. -/
def statusPool (s : DB) (ops : List StatusOp) : Pool sig Bool DB :=
  start false s (ops.map StatusOp.prog)

/-- Whether the subscriber is terminated. -/
def terminated (id : ℤ) (s : DB) : Bool :=
  (s.subscribers.lookup id).any fun r => r.status = .terminated

/-- The passes that have the subscriber on their list are over. -/
def PassesOver (p : Pool sig Bool DB) : Prop := ∀ t ∈ p.threads, t.1 = true → t.2.isRet = true
  deriving Decidable

/-- The condition on a step. While the subscriber is terminated, no partial update that names
    another status is carried out; and when a step terminates the subscriber, the passes with it on
    their list are over. -/
def Undisturbed (id : ℤ) (ops : List StatusOp) (p : Pool sig Bool DB) (i : ℕ) (e : Env) : Prop :=
  (terminated id p.shared = true → (ops[i]?).any (StatusOp.namesStatus id) = true →
    (p.threads[i]?).all (fun t => t.2.isRet) = true) ∧
  (terminated id p.shared = false → terminated id (step exec (listing id) p i e).shared = true →
    PassesOver p)
  deriving Decidable

/-! ### One call -/

/-- The calls that write another status than `terminated` into the subscriber's row. -/
def Call.revives (id : ℤ) : Call → Bool
  | .db (.setSubscriberDunningState id' _ status) => id' = id && status ≠ .terminated
  | .db (.updateSubscriber id' _ (some text) _) => id' = id && text ≠ "terminated"
  | _ => false

section
variable {id : ℤ} {s : DB} {r : Subscriber} {e : Env} {c : Call} {op : Op}

theorem terminated_iff (hr : s.subscribers.lookup id = some r) :
    terminated id s = true ↔ r.status = .terminated := by
  rw [terminated, hr]
  exact decide_eq_true_iff

theorem exists_of_terminated (h : terminated id s = true) :
    ∃ r, s.subscribers.lookup id = some r ∧ r.status = .terminated := by
  cases hr : s.subscribers.lookup id with
  | none => simp [terminated, hr] at h
  | some r => exact ⟨r, rfl, (terminated_iff hr).mp h⟩

theorem Call.revives_subject (h : (Call.db op).revives id = true) : op.subject = some id := by
  cases op with
  | setSubscriberDunningState id' state status => simp_all [revives, Op.subject]
  | updateSubscriber id' planID status planExpiry =>
    cases status <;> simp_all [revives, Op.subject]
  | _ => cases h

/-- From a terminated row a call that does not revive leads to a terminated row. -/
theorem terminated_exec (e : Env) (hc : c.revives id = false) (h : terminated id s = true) :
    terminated id (exec e c s).2 = true := by
  obtain ⟨r, hr, hst⟩ := exists_of_terminated h
  obtain ⟨r', hr', rfl | ⟨op, a, rfl, -, hw⟩⟩ := exec_lookup e c hr
  · exact (terminated_iff hr').mpr hst
  rw [terminated_iff hr']
  generalize r'.toSubscriberRow = row' at hw
  cases hw with
  | balance | expiry | portalExpiry | plan => exact hst
  | terminate => rfl
  | activate _ _ _ hp => cases hst.symm.trans hp
  | dunning _ state status => simpa [revives] using hc
  | update _ planID status planExpiry _ st hst' =>
    rcases hst' with ⟨hsame, -⟩ | ⟨text, htext, hof⟩
    · exact hsame.trans hst
    · cases htext
      have heq : text = "terminated" := by simpa [revives] using hc
      subst heq
      exact (Option.some.inj hof).symm

theorem dunningCandidate?_alive {now : Time} {c : DunningCandidate}
    (h : dunningCandidate? now id r = some c) :
    r.status ≠ .terminated := by
  unfold dunningCandidate? at h
  split at h
  · split at h
    · rename_i hsel
      exact hsel.1
    · cases h
  · cases h

/-- Whoever gets onto a list is not terminated. -/
theorem unlisted (h : listing id false c (exec e c s).1 = true) :
    terminated id (exec e c s).2 = false := by
  rw [← Bool.not_eq_true]
  intro hterm
  rcases exec_cases e c s with ⟨rfl, -⟩ | ⟨op, err, rfl, hs⟩ | ⟨op, a, s', rfl, htx, hs, -⟩
  · cases h
  · rw [hs] at h
    cases op <;> cases h
  rw [hs] at h hterm
  obtain ⟨r, hr, hst⟩ := exists_of_terminated hterm
  cases op with
  | listDunningCandidates =>
    obtain ⟨hperm, rfl⟩ := ListDunningCandidates_ok htx
    obtain ⟨cand, hcand, hid⟩ := List.any_eq_true.mp h
    obtain ⟨id', r', hr', hsel⟩ := mem_candidates.mp (hperm.mem_iff.mp hcand)
    cases (dunningCandidate?_some hsel).1.symm.trans (of_decide_eq_true hid)
    cases hr.symm.trans hr'
    exact dunningCandidate?_alive hsel hst
  | listRenewalCandidates =>
    obtain ⟨rfl, rfl⟩ := ListRenewalCandidates_ok htx
    obtain ⟨cand, hcand, hid⟩ := List.any_eq_true.mp h
    obtain ⟨id', r', hr', hsel⟩ := mem_candidates.mp hcand
    obtain ⟨hsid, p, hof⟩ := renewalCandidate?_some hr' hsel
    cases hsid.symm.trans (of_decide_eq_true hid)
    cases hr.symm.trans hr'
    exact hof.alive hst
  | _ => cases h

/-- Nobody gets off a list. -/
theorem listing_mono {listed : Bool} {resp : c.Resp} (h : listed = true) :
    listing id listed c resp = true := by
  unfold listing
  split <;> first | exact h | (split <;> simp [h])

end

/-! ### What the operations may do -/

/-- Only a pass with the subscriber on its list revives it, or a partial update that is to do so. -/
def Spares (id : ℤ) (named : Prop) (listed : Bool) (c : Call) : Prop :=
  c.revives id = true → listed = true ∨ named

/-- A program that, from such a record, keeps to that. -/
abbrev SparesIn (id : ℤ) (named : Prop) (p : Service Unit) (listed : Bool) : Prop :=
  Obeys (listing id) (fun _ _ _ => True) (Spares id named) (fun _ _ => True) p listed

section
variable {id : ℤ} {named : Prop} {listed : Bool} {W : Op → Prop}

/-- A program whose writes keep to it. -/
theorem Makes.sparesIn {p : Service Unit}
    (hW : ∀ op, W op → (Call.db op).revives id = true → listed = true ∨ named) (hp : Makes W p) :
    SparesIn id named p listed := by
  refine (Calls.obeys_inv (I := fun w => listed = true → w = true) ?_ ?_ hp listed fun h => h).mono
    fun _ _ _ => trivial
  · intro w c hw hc hrev
    cases hc with
    | clock => cases hrev
    | aside op h => cases op <;> first | cases hrev | cases h
    | read op h => cases op <;> first | cases hrev | cases h
    | write op h => exact (hW op h hrev).imp_left hw
  · intro w c resp _ hw hl
    exact listing_mono (hw hl)

/-- What comes after a list writes for those on it. -/
theorem Makes.sparesIn_listed {β : Type} (cs : List β) (sid : β → ℤ) {p : Service Unit}
    (hp : Makes (fun op => ∃ c ∈ cs, op.subject = some (sid c)) p) :
    SparesIn id named p (cs.any fun c => sid c = id) := by
  refine hp.sparesIn fun op hop hrev => .inl ?_
  obtain ⟨c, hc, hop⟩ := hop
  cases hop.symm.trans (Call.revives_subject hrev)
  exact List.any_eq_true.mpr ⟨c, hc, decide_eq_true rfl⟩

/-- A program whose writes do not revive. -/
theorem Makes.sparesIn_quiet {p : Service Unit} (hW : ∀ op, W op → (Call.db op).revives id = false)
    (hp : Makes W p) : SparesIn id named p listed := by
  refine hp.sparesIn fun op hop hrev => ?_
  rw [hW op hop] at hrev
  cases hrev

end

theorem sparesIn_dunningScan (id : ℤ) (named : Prop) :
    SparesIn id named DunningScanner.Scan false := by
  refine obeys_db.mpr ⟨(by rintro ⟨⟩), fun resp _ => ?_⟩
  cases resp with
  | error err => trivial
  | ok cs =>
    refine Makes.sparesIn_listed cs DunningCandidate.subscriberID ?_
    refine makes_clock fun now => calls_each fun c hc => (makes_visit now c).mono fun op hop => ?_
    obtain ⟨state, rfl⟩ := hop.isDunning
    exact ⟨c, hc, rfl⟩

theorem sparesIn_billingScan (id : ℤ) (named : Prop) :
    SparesIn id named RecurringBillingScanner.Scan false := by
  refine obeys_db.mpr ⟨(by rintro ⟨⟩), fun resp _ => ?_⟩
  cases resp with
  | error err => trivial
  | ok cs =>
    refine Makes.sparesIn_listed cs RenewalCandidate.subscriberID ?_
    refine calls_each fun c hc => calls_void ((makes_renew c).mono fun op hop => ?_)
    exact ⟨c, hc, hop.subject⟩

theorem LifecycleOp.sparesIn (id : ℤ) (named : Prop) (op : LifecycleOp) :
    SparesIn id named op.prog false := by
  cases op with
  | provision req =>
    refine Makes.sparesIn_quiet (fun op hop => ?_) (calls_void (makes_provision req))
    rw [hop]
    rfl
  | planChange sid newPlanID =>
    refine Makes.sparesIn_quiet (fun op hop => ?_) (calls_void (makes_planChange sid newPlanID))
    obtain ⟨t, rfl⟩ := hop
    rfl
  | recharge req =>
    refine Makes.sparesIn_quiet (fun op hop => ?_) (calls_void (makes_walletRecharge req))
    obtain ⟨b, rfl⟩ := hop
    rfl
  | renewal sid amount pid =>
    refine Makes.sparesIn_quiet (fun op hop => ?_) (calls_void (makes_ApplyRenewal sid amount pid))
    obtain ⟨b, rfl⟩ | ⟨t, rfl⟩ := hop <;> rfl
  | billingScan => exact sparesIn_billingScan id named
  | dunningScan => exact sparesIn_dunningScan id named
  | terminate sid =>
    refine Makes.sparesIn_quiet (fun op hop => ?_) (calls_void (makes_termination sid))
    rw [hop]
    rfl

theorem makes_patch (id : ℤ) (body : SubscriberPatch) :
    Makes (fun op => op = .updateSubscriber id body.planID body.status body.planExpiry)
      (Handler.UpdateSubscriber (some id) (.ok body)) := by
  refine makes_write ?_ fun resp => ?_
  · rfl
  · split <;> trivial

theorem StatusOp.sparesIn (id : ℤ) (op : StatusOp) :
    SparesIn id (op.namesStatus id = true) op.prog false := by
  cases op with
  | life op => exact op.sparesIn id _
  | setPlan | activate => exact ⟨(by rintro ⟨⟩), fun _ _ => trivial⟩
  | patch id' body =>
    rcases id' with _ | id'
    · trivial
    rcases body with text | body
    · trivial
    refine Makes.sparesIn (fun op hop hrev => .inr ?_) (calls_void (makes_patch id' body))
    rw [hop] at hrev
    cases hst : body.status with
    | none => simp [Call.revives, hst] at hrev
    | some text => simpa [namesStatus, Call.revives, hst] using hrev

/-! ### An operation alone -/

/-- Alone, an operation that names no other status leaves a terminated subscriber terminated. -/
theorem alone_terminated {id : ℤ} {op : StatusOp} (hop : op.namesStatus id = false) (e : Env)
    {s : DB} (h : terminated id s = true) : terminated id (Prog.run exec e op.prog s).2 = true := by
  have hcall : ∀ c t w, (terminated id t = true ∧ w = false) →
      Spares id (op.namesStatus id = true) w c →
      True ∧ terminated id (exec e c t).2 = true ∧ listing id w c (exec e c t).1 = false := by
    rintro c t w ⟨ht, rfl⟩ hspares
    have hquiet : c.revives id = false := by
      rw [← Bool.not_eq_true]
      intro hrev
      rcases hspares hrev with hl | hnamed
      · cases hl
      · cases hop.symm.trans hnamed
    have hafter := terminated_exec e hquiet ht
    refine ⟨trivial, hafter, ?_⟩
    rw [← Bool.not_eq_true]
    intro hl
    cases hafter.symm.trans (unlisted hl)
  obtain ⟨w, hend, -⟩ := (op.sparesIn id).run (R := fun t w => terminated id t = true ∧
      w = false) hcall ⟨h, rfl⟩
  exact hend.1

/-! ### Every interleaving -/

/-- The threads keep to their calls, and while the subscriber is terminated the passes that have it
    on their list are over. -/
structure Guarded (id : ℤ) (ops : List StatusOp) (p : Pool sig Bool DB) : Prop where
  obeying : Obeying (listing id) (fun _ _ _ => True)
    (fun i => Spares id ((ops[i]?).any (StatusOp.namesStatus id) = true)) (fun _ _ => True) p
  passes : terminated id p.shared = true → PassesOver p

section
variable {id : ℤ} {ops : List StatusOp}

theorem guarded_start (s : DB) : Guarded id ops (statusPool s ops) where
  obeying := by
    refine obeying_start fun i q hq => ?_
    rw [List.getElem?_map, Option.map_eq_some_iff] at hq
    obtain ⟨op, hop, rfl⟩ := hq
    rw [hop]
    exact op.sparesIn id
  passes _ t ht hl := by
    obtain ⟨_, -, rfl⟩ := List.mem_map.mp ht
    cases hl

/-- While the subscriber is terminated, an undisturbed step makes no reviving call. -/
theorem Guarded.quiet {p : Pool sig Bool DB} {i : ℕ} {e : Env} (h : Guarded id ops p)
    (hu : Undisturbed id ops p i e) (hterm : terminated id p.shared = true) {w : Bool} {c : Call}
    {k : c.Resp → Service Unit} (hi : p.Calling i w c k) : c.revives id = false := by
  rw [← Bool.not_eq_true]
  intro hrev
  rcases h.obeying.allowed hi hrev with hl | hnamed
  · cases h.passes hterm _ (List.mem_of_getElem? hi) hl
  · have hend := hu.1 hterm hnamed
    rw [hi] at hend
    cases hend

theorem terminated_step {p : Pool sig Bool DB} {i : ℕ} {e : Env} (h : Guarded id ops p)
    (hu : Undisturbed id ops p i e) (hterm : terminated id p.shared = true) :
    terminated id (step exec (listing id) p i e).shared = true := by
  refine step_ind (I := fun q => terminated id q.shared = true) hterm fun w c k hi => ?_
  rw [step_shared hi]
  exact terminated_exec e (h.quiet hu hterm hi) hterm

theorem guarded_step (p : Pool sig Bool DB) (i : ℕ) (e : Env) (h : Guarded id ops p)
    (hu : Undisturbed id ops p i e) : Guarded id ops (step exec (listing id) p i e) := by
  refine step_ind h fun w c k hi =>
    ⟨obeying_step h.obeying fun _ _ _ _ => trivial, fun hafter => ?_⟩
  -- before the step the passes with the subscriber on their list are over, too
  have hover : PassesOver p := by
    cases hterm : terminated id p.shared with
    | true => exact h.passes hterm
    | false => exact hu.2 hterm hafter
  intro t ht hl
  obtain ⟨j, hj⟩ := List.mem_iff_getElem?.mp ht
  rcases step_thread hi hj with ⟨-, hw, -⟩ | ⟨-, hj⟩
  · cases w with
    | true => cases hover _ (List.mem_of_getElem? hi) rfl
    | false =>
      rw [step_shared hi] at hafter
      cases hafter.symm.trans (unlisted (hw.symm.trans hl))
  · exact hover t (List.mem_of_getElem? hj) hl

/-- Partial updates, plan changes, activations, terminations, renewals and passes of both scanners,
    any store call failing. Alone, each of them leaves a terminated subscriber terminated, but for a
    partial update that names another status. In any number and interleaving, a subscriber who is
    terminated stays so in every later state if no such partial update is carried out while it is
    terminated, and no termination falls between the list of a pass with the subscriber on it and
    the end of the pass. -/
theorem terminated_stays_undisturbed (id : ℤ) (s : DB) (ops : List StatusOp)
    (sched : List (ℕ × Env)) :
    (∀ (op : StatusOp) (e : Env), op.namesStatus id = false → terminated id s = true →
      terminated id (Prog.run exec e op.prog s).2 = true) ∧
    (Meets exec (listing id) (Undisturbed id ops) (statusPool s ops) sched →
      ∀ pre later, pre ++ later <+: sched →
        terminated id (Pool.run exec (listing id) (statusPool s ops) pre).shared = true →
        terminated id (Pool.run exec (listing id) (statusPool s ops) (pre ++ later)).shared =
          true) := by
  refine ⟨fun op e hop h => alone_terminated hop e h, ?_⟩
  rintro hmeets pre later ⟨rest, rfl⟩ hterm
  obtain ⟨⟨hpre, hlater⟩, -⟩ := (meets_append.mp hmeets).imp_left meets_append.mp
  have hguarded := Pool.run_inv guarded_step pre _ (guarded_start s) hpre
  rw [run_append]
  refine (Pool.run_inv (I := fun p => Guarded id ops p ∧ terminated id p.shared = true) ?_ later _
    ⟨hguarded, hterm⟩ hlater).2
  exact fun p i e h hu => ⟨guarded_step p i e h.1 hu, terminated_step h.1 hu h.2⟩

end

/-! ### Kept apart, and not -/

/-- A subscriber with one day left. -/
def oneDayLeft : DB := .seeded ((∅ : Table Subscriber).insert 1 (.paidUntil day))

/-- A pass, the termination, another pass, and a change of the plan by a partial update. -/
def orderly : List StatusOp :=
  [.life .dunningScan, .life (.terminate 1), .life .dunningScan,
    .patch (some 1) (.ok ⟨some 1, none, none⟩)]

/-- The first pass and the termination. -/
def upToTermination : List (ℕ × Env) := List.replicate 9 (0, .at 0) ++ [(1, .at 0)]

/-- The second pass and the partial update. -/
def pastTermination : List (ℕ × Env) := List.replicate 2 (2, .at 0) ++ [(3, .at 0)]

theorem orderly_undisturbed :
    Meets exec (listing 1) (Undisturbed 1 orderly) (statusPool oneDayLeft orderly)
      (upToTermination ++ pastTermination) := by
  decide +kernel

theorem orderly_stays :
    terminated 1 (Pool.run exec (listing 1) (statusPool oneDayLeft orderly)
      (upToTermination ++ pastTermination)).shared = true :=
  (terminated_stays_undisturbed 1 oneDayLeft orderly (upToTermination ++ pastTermination)).2
    orderly_undisturbed upToTermination pastTermination List.prefix_rfl (by decide +kernel)

/-- The dunning scanner lists the subscriber, the termination commits, and the scanner writes its
    reminder stage; or an operator patches the status of a terminated subscriber. -/
theorem terminated_comes_back :
    (terminated 1 (Pool.run exec (listing 1)
        (statusPool oneDayLeft [.life .dunningScan, .life (.terminate 1)])
        [(0, .at 0), (1, .at 0)]).shared = true ∧
      ((Pool.run exec (listing 1) (statusPool oneDayLeft [.life .dunningScan, .life (.terminate 1)])
        ([(0, .at 0), (1, .at 0)] ++ List.replicate 3 (0, .at 0))).shared.subscribers.lookup 1).map
          (fun r => r.status) = some .active) ∧
    (terminated 1 (Pool.run exec (listing 1) (statusPool oneDayLeft
        [.life (.terminate 1), .patch (some 1) (.ok ⟨none, some "active", none⟩)])
        [(0, .at 0)]).shared = true ∧
      ((Pool.run exec (listing 1) (statusPool oneDayLeft
        [.life (.terminate 1), .patch (some 1) (.ok ⟨none, some "active", none⟩)])
        ([(0, .at 0)] ++ [(1, .at 0)])).shared.subscribers.lookup 1).map
          (fun r => r.status) = some .active) :=
  ⟨⟨by decide +kernel, by decide +kernel⟩, ⟨by decide +kernel, by decide +kernel⟩⟩

end IspBss
