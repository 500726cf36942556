import IspBss.Props.EnforcementReach
import IspBss.Props.OverrideSweeps
import IspBss.Props.QuotaCycles

/-! Is a changed rate pushed to the session?

    The scanner and the API write a subscriber's rate in three ways, and each is to be followed by a CoA
    task for that subscriber:

        SetFUPActive       ─┐
        SetSpeedOverride   ─┼▶ CoA task ─▶ the rate that is due when the task runs
        ClearSpeedOverride ─┘

    `TellsBy` says it of a program as a whole: the row is as it was, or a task is on its way. It holds of
    a sequence if it holds of the parts, and of a write as soon as a push comes next. -/

namespace IspBss.Fup

open Lib Jobqueue Radius FUPStore Scanner Prog Option Daemon Api BesideCall

/-! ### What a program leaves -/

/-- A CoA task for the subscriber has been queued since. -/
def Pushed (id : ℤ) (q q' : QueueDB) : Prop :=
  ∃ k row, q.tasks.last < k ∧ q'.tasks.lookup k = some row ∧ row.taskType = TaskTypeCoA ∧
    readID row.payload = id

/-- The columns of a row that no rate change writes, and an override that is not empty. -/
structure SameTerms (p p' : Profile) : Prop where
  planID : p'.planID = p.planID
  status : p'.status = p.status
  nonempty : p'.speedOverrideRateLimit = some "" → p.speedOverrideRateLimit = some ""

theorem SameTerms.refl (p : Profile) : SameTerms p p := ⟨rfl, rfl, fun h => h⟩

theorem SameTerms.trans {p p' p'' : Profile} (h : SameTerms p p') (h' : SameTerms p' p'') : SameTerms p p'' :=
  ⟨h'.planID.trans h.planID, h'.status.trans h.status, fun hempty => h.nonempty (h'.nonempty hempty)⟩

/-- The queue has grown; and if it could be reached, the subscriber's row is as it was or a task is on
    its way. -/
structure Tells (id : ℤ) (e : ScanEnv) (s s' : QueueDB × Network) : Prop where
  grows : Adds (fun _ => True) s.1 s'.1
  plans : s'.2.directory.plans = s.2.directory.plans
  row : ∀ p', s'.2.directory.subscribers.lookup id = some p' →
    ∃ p, s.2.directory.subscribers.lookup id = some p ∧ SameTerms p p'
  told : e.queue.fails = false →
    s'.2.directory.subscribers.lookup id = s.2.directory.subscribers.lookup id ∨ Pushed id s.1 s'.1

section
variable {id : ℤ} {e : ScanEnv} {s s' s'' : QueueDB × Network} {q q' q'' : QueueDB}

theorem Pushed.later (h : Pushed id q q') (hgrows : Adds (fun _ => True) q' q'') : Pushed id q q'' := by
  obtain ⟨k, row, hk, hrow, htask⟩ := h
  exact ⟨k, row, hk, (hgrows.kept k (Serial.le_last_of_lookup hrow)).trans hrow, htask⟩

theorem Pushed.earlier (h : Pushed id q' q'') (hgrows : Adds (fun _ => True) q q') : Pushed id q q'' := by
  obtain ⟨k, row, hk, hrow, htask⟩ := h
  exact ⟨k, row, hgrows.last.trans_lt hk, hrow, htask⟩

/-- Whatever happens to the queue alone. -/
theorem Tells.of_queue (hgrows : Adds (fun _ => True) s.1 s'.1) (hdir : s'.2.directory = s.2.directory) :
    Tells id e s s' := by
  refine ⟨hgrows, by rw [hdir], fun p' hp' => ?_, fun _ => .inl (by rw [hdir])⟩
  rw [hdir] at hp'
  exact ⟨p', hp', .refl p'⟩

theorem Tells.trans (h : Tells id e s s') (h' : Tells id e s' s'') : Tells id e s s'' where
  grows := h.grows.trans h'.grows
  plans := h'.plans.trans h.plans
  row p'' hp'' := by
    obtain ⟨p', hp', hterms'⟩ := h'.row p'' hp''
    obtain ⟨p, hp, hterms⟩ := h.row p' hp'
    exact ⟨p, hp, hterms.trans hterms'⟩
  told hq := by
    rcases h'.told hq with hsame' | hpushed'
    · rcases h.told hq with hsame | hpushed
      · exact .inl (hsame'.trans hsame)
      · exact .inr (hpushed.later h'.grows)
    · exact .inr (hpushed'.earlier h.grows)

end

/-! ### Programs -/

section
variable {α β : Type} {id id' : ℤ} {e : ScanEnv} {p : ScanProg α} {op : NetOp} {f : Profile → Profile}

def TellsBy (id : ℤ) (e : ScanEnv) (p : ScanProg α) : Prop := ∀ s, Tells id e s (Prog.run scanExec e p s).2

/-- And if the subscriber is `id'`, a task is on its way. -/
def PushesBy (id id' : ℤ) (e : ScanEnv) (p : ScanProg α) : Prop :=
  TellsBy id e p ∧ ∀ s, e.queue.fails = false → id = id' → Pushed id s.1 (Prog.run scanExec e p s).2.1

theorem tells_ret (a : α) : TellsBy id e (pure a : ScanProg α) := fun _ => .of_queue (.of_rows rfl le_rfl) rfl

theorem tells_bind {f : α → ScanProg β} (hp : TellsBy id e p) (hf : ∀ a, TellsBy id e (f a)) :
    TellsBy id e (p >>= f) := by
  intro s
  rw [run_bind]
  exact (hp s).trans (hf _ _)

theorem pushes_bind {f : α → ScanProg β} (hp : PushesBy id id' e p)
    (hf : ∀ a, TellsBy id e (f a)) : PushesBy id id' e (p >>= f) := by
  refine ⟨tells_bind hp.1 hf, fun s hq hid => ?_⟩
  rw [run_bind]
  exact (hp.2 s hq hid).later (hf _ _).grows

theorem tells_timeNow : TellsBy id e Api.timeNow := fun _ => .of_queue (.of_rows rfl le_rfl) rfl

theorem tells_enqueue (t : ClientTask) : TellsBy id e (enqueue t) := by
  rintro ⟨q, net⟩
  obtain ⟨res, q', hrun, hadds, -⟩ := enqueue_adds t e q net
  rw [hrun]
  exact .of_queue (hadds.imp fun _ _ => trivial) rfl

/-- A statement that writes no subscriber. -/
theorem tells_query (hop : op.writesProfile = false) : TellsBy id e (query op) := by
  rintro ⟨q, net⟩
  refine .of_queue (.of_rows rfl le_rfl) ?_
  show (netExec e.net (.stmt op) net).2.directory = net.directory
  rw [exec_stmt]
  split
  · rfl
  · exact NetOp.run_directory hop _ _ _

/-- A task to a NAS has no id of its own: it is stored if the queue can be reached. -/
theorem enqueue_sessionTask (hq : e.queue.fails = false) (typ : String) (payload : List UInt8) (q : QueueDB)
    (net : Network) :
    ∃ info q' row, run scanExec e (enqueue (sessionTask typ payload)) (q, net) =
      (.ok info, q', net) ∧
      q'.tasks.lookup (q.tasks.last + 1) = some row ∧ row.taskType = typ ∧ row.payload = payload := by
  obtain ⟨res, q', hrun, -, hok⟩ := enqueue_adds (sessionTask typ payload) e q net
  cases res with
  | ok info =>
    obtain ⟨row, hrow, htype, hpayload⟩ := hok info rfl
    exact ⟨info, q', row, hrun, hrow, htype, hpayload⟩
  | error err =>
    rw [enqueue_run, queueExec, hq] at hrun
    cases hrun

theorem pushes_enqueue {payload : List UInt8} (hid : readID payload = id') :
    PushesBy id id' e (enqueue (sessionTask TaskTypeCoA payload)) := by
  refine ⟨tells_enqueue _, ?_⟩
  rintro ⟨q, net⟩ hq rfl
  obtain ⟨info, q', row, hrun, hrow, htype, hpayload⟩ := enqueue_sessionTask hq TaskTypeCoA payload q net
  rw [hrun]
  exact ⟨q.tasks.last + 1, row, lt_add_one _, hrow, htype, hpayload ▸ hid⟩

/-! ### A write and its push -/

/-- One row has been written, and only what makes up the rate. -/
structure Rewrites (id' : ℤ) (net net' : Network) : Prop where
  plans : net'.directory.plans = net.directory.plans
  others : ∀ id, id ≠ id' → net'.directory.subscribers.lookup id = net.directory.subscribers.lookup id
  own : ∀ p', net'.directory.subscribers.lookup id' = some p' →
    ∃ p, net.directory.subscribers.lookup id' = some p ∧ SameTerms p p'

/-- An UPDATE is refused, or it has done that. -/
def RateWrite (e : NetEnv) (op : NetOp) (id' : ℤ) : Prop :=
  ∀ net, (∃ err, netExec e (.stmt op) net = (.error err, net)) ∨
    ∃ r net', netExec e (.stmt op) net = (.ok r, net') ∧ Rewrites id' net net'

theorem updateSubscriber_rewrites (hf : ∀ p, SameTerms p (f p)) (net : Network) :
    (∃ err, updateSubscriber id' f net = (.error err, net)) ∨
      ∃ r net', updateSubscriber id' f net = (.ok r, net') ∧ Rewrites id' net net' := by
  rw [updateSubscriber]
  split
  · refine .inr ⟨(), _, rfl, rfl, fun id hid => ?_, fun p' hp' => ?_⟩
    · simp [Rows.lookup_updateWhere, hid]
    · rw [Rows.lookup_updateWhere] at hp'
      obtain ⟨p, hp, heq⟩ := map_eq_some_iff.mp hp'
      rw [if_pos (decide_eq_true rfl)] at heq
      exact ⟨p, hp, heq ▸ hf p⟩
  · exact .inl ⟨_, rfl⟩

theorem rateWrite_flag (e : NetEnv) (id' : ℤ) (active : Bool) : RateWrite e (.setFUPActive id' active) id' := by
  intro net
  rw [exec_stmt]
  split
  · exact .inl ⟨_, rfl⟩
  · exact updateSubscriber_rewrites (f := fun p => { p with fupActive := active })
      (fun _ => ⟨rfl, rfl, fun h => h⟩) net

theorem rateWrite_clear (e : NetEnv) (id' : ℤ) : RateWrite e (.clearSpeedOverride id') id' := by
  intro net
  rw [exec_stmt]
  split
  · exact .inl ⟨_, rfl⟩
  · exact updateSubscriber_rewrites
      (f := fun p => { p with speedOverrideRateLimit := none, speedOverrideExpiresAt := none })
      (fun _ => ⟨rfl, rfl, nofun⟩) net

theorem rateWrite_set (e : NetEnv) (id' : ℤ) {rate : String} (hrate : rate ≠ "") (expiresAt : Option Time) :
    RateWrite e (.setSpeedOverride id' rate expiresAt) id' := by
  intro net
  rw [exec_stmt]
  split
  · exact .inl ⟨_, rfl⟩
  · simp only [NetOp.run, SetSpeedOverride]
    split
    · exact .inl ⟨_, rfl⟩
    · exact updateSubscriber_rewrites
        (f := fun p => { p with speedOverrideRateLimit := some rate, speedOverrideExpiresAt := expiresAt })
        (fun _ => ⟨rfl, rfl, fun h => absurd (some.inj h) hrate⟩) net

/-- A write that is followed by a push. -/
theorem tells_write (hop : RateWrite e.net op id') {f : Except NetErr op.Result → ScanProg β}
    (herr : ∀ err, TellsBy id e (f (.error err))) (hok : ∀ r, PushesBy id id' e (f (.ok r))) :
    TellsBy id e (query op >>= f) := by
  rintro ⟨q, net⟩
  rw [run_bind, query_run]
  rcases hop net with ⟨err, hexec⟩ | ⟨r, net', hexec, hrewrites⟩
  · rw [hexec]
    exact herr err (q, net)
  · rw [hexec]
    have htells := (hok r).1 (q, net')
    refine ⟨htells.grows, htells.plans.trans hrewrites.plans, fun p'' hp'' => ?_, ?_⟩
    · obtain ⟨p', hp', hterms⟩ := htells.row p'' hp''
      by_cases hid : id = id'
      · subst hid
        obtain ⟨p, hp, hterms'⟩ := hrewrites.own p' hp'
        exact ⟨p, hp, hterms'.trans hterms⟩
      · exact ⟨p', (hrewrites.others id hid).symm.trans hp', hterms⟩
    · intro hq
      by_cases hid : id = id'
      · exact .inr ((hok r).2 (q, net') hq hid)
      · exact (htells.told hq).imp (·.trans (hrewrites.others id hid)) fun h => h

/-! ### The programs of the scanner -/

theorem pushes_coaTask (id' : ℤ) (nasIP : String) :
    PushesBy id id' e (enqueue (coaTask id' nasIP)) := pushes_enqueue (readID_coaPayload id' nasIP)

theorem tells_push (hop : RateWrite e.net op id') : PushRule (fun p => TellsBy id e p) op id' := by
  refine fun herr hok hg => tells_write hop herr fun r => ?_
  rw [hok r]
  exact pushes_bind (pushes_coaTask id' _) hg

theorem tells_scan : TellsBy id e scan := by
  refine pass_rule (T := fun p => TellsBy id e p) tells_ret tells_bind ?_ ?_ ?_
  · exact breaches_rule (T := fun p => TellsBy id e p) tells_ret tells_bind (tells_query rfl)
      (fun id' => tells_push (rateWrite_flag e.net id' true)) fun _ => tells_enqueue _
  · exact overrides_rule (T := fun p => TellsBy id e p) tells_ret tells_bind (tells_query rfl)
      fun id' => tells_push (rateWrite_clear e.net id')
  · exact warnings_rule (T := fun p => TellsBy id e p) tells_ret tells_bind (tells_query rfl)
      fun _ => tells_enqueue _

/-! ### The requests of the API -/

theorem pushes_speedOverrideCoA (id' : ℤ) : PushesBy id id' e (Handler.enqueueSpeedOverrideCoA id') :=
  pushes_bind (pushes_enqueue (readID_coaMarshal ⟨id', ""⟩)) fun _ => tells_ret _

variable (configured : Bool)

theorem tells_FUPOverride (sessionID : String)
    (body : Except String String) : TellsBy id e (Handler.FUPOverride configured sessionID body) := by
  simp only [Handler.FUPOverride]
  split
  · exact tells_ret _
  split
  · exact tells_ret _
  cases body with
  | error err => exact tells_ret _
  | ok action =>
    dsimp only
    split
    · exact tells_ret _
    refine tells_bind (tells_query rfl) fun r => ?_
    cases r with
    | error err => exact tells_ret _
    | ok found =>
      obtain ⟨id', nasIP⟩ := found
      refine tells_write (rateWrite_flag e.net id' _) (fun _ => tells_ret _) fun _ => ?_
      refine pushes_bind (pushes_enqueue (readID_coaMarshal ⟨id', nasIP⟩)) fun r => ?_
      cases r <;> exact tells_ret _

theorem tells_SpeedOverride (target : Option ℤ)
    (body : Except String Handler.SpeedOverrideRequest) :
    TellsBy id e (Handler.SpeedOverride configured target body) := by
  cases target with
  | none => exact tells_ret _
  | some id' =>
    simp only [Handler.SpeedOverride]
    split
    · exact tells_ret _
    cases body with
    | error err => exact tells_ret _
    | ok req =>
      dsimp only
      split
      · exact tells_ret _
      rename_i hrate
      split
      · exact tells_ret _
      refine tells_bind tells_timeNow fun now => ?_
      refine tells_write (rateWrite_set e.net id' hrate _) (fun _ => tells_ret _) fun _ => ?_
      exact pushes_bind (pushes_speedOverrideCoA id') fun _ => tells_ret _

theorem tells_ClearSpeedOverride (target : Option ℤ) :
    TellsBy id e (Handler.ClearSpeedOverride configured target) := by
  cases target with
  | none => exact tells_ret _
  | some id' =>
    simp only [Handler.ClearSpeedOverride]
    split
    · exact tells_ret _
    refine tells_write (rateWrite_clear e.net id') (fun _ => tells_ret _) fun _ => ?_
    exact pushes_bind (pushes_speedOverrideCoA id') fun _ => tells_ret _

/-! ### A pass and an override that has run out -/

/-- No override is stored that has run out. -/
def Unspent (now : Time) (net : Network) (id : ℤ) : Prop :=
  ∀ p, net.directory.subscribers.lookup id = some p → p.speedOverrideExpiresAt.any (· ≤ now) = false

variable {now : Time} {net : Network} {s : QueueDB × Network}

theorem unspent_updateSubscriber
    (hf : ∀ p, p.speedOverrideExpiresAt.any (· ≤ now) = false →
      (f p).speedOverrideExpiresAt.any (· ≤ now) = false)
    (h : Unspent now net id) : Unspent now (updateSubscriber id' f net).2 id := by
  intro p' hp'
  rw [lookup_updateSubscriber] at hp'
  obtain ⟨p, hp, rfl⟩ := map_eq_some_iff.mp hp'
  split
  · exact hf p (h p hp)
  · exact h p hp

/-- A pass sets none. -/
theorem ScanCall.unspent {c : scanSig.Call} (hc : ScanCall c)
    (h : Unspent now s.2 id) : Unspent now (scanExec e c s).2.2 id := by
  have hstmt : ∀ op : NetOp, Unspent now (op.run e.net.now e.net.order.1 s.2).2 id →
      Unspent now (netExec e.net (.stmt op) s.2).2 id := by
    intro op hop
    rw [exec_stmt]
    split
    · exact h
    · exact hop
  cases hc with
  | list => exact hstmt .getActiveSessionsAboveFUP h
  | flag id' => exact hstmt (.setFUPActive id' true) (unspent_updateSubscriber (fun _ hp => hp) h)
  | beside c h' =>
    cases h' with
    | queue c => exact h
    | overrides => exact hstmt .listExpiredSpeedOverrides h
    | clear id' => exact hstmt (.clearSpeedOverride id') (unspent_updateSubscriber (fun _ _ => rfl) h)
    | warnings pct => exact hstmt (.getSessionsAtWarning pct) h

theorem unspent_run (hp : p.Calls ScanCall) (h : Unspent now s.2 id) : Unspent now (run scanExec e p s).2.2 id :=
  Prog.Calls.run_inv (I := fun s' : QueueDB × Network => Unspent now s'.2 id)
    (fun _ _ hc hs => hc.unspent hs) hp h

/-- One that is on the list is cleared. -/
theorem unspent_revertOverride (hclear : e.net.fails (.clearSpeedOverride id) = false)
    (s : QueueDB × Network) : Unspent now (run scanExec e (revertOverride id) s).2.2 id := by
  obtain ⟨q, net⟩ := s
  have hcleared : Unspent now (netExec e.net (.stmt (.clearSpeedOverride id)) net).2 id := by
    intro p' hp'
    rw [exec_stmt, hclear, if_neg Bool.false_ne_true, NetOp.run, ClearSpeedOverride,
      lookup_updateSubscriber] at hp'
    obtain ⟨p, -, rfl⟩ := map_eq_some_iff.mp hp'
    rw [if_pos rfl]
    rfl
  rw [revertOverride, run_bind, query_run]
  refine unspent_run ?_ hcleared
  cases (netExec e.net (.stmt (.clearSpeedOverride id)) net).1 with
  | error err => trivial
  | ok u => exact calls_void (calls (beside_enqueue _))

theorem calls_revertOverride (id : ℤ) : (revertOverride id).Calls ScanCall := by
  refine ⟨.beside _ (.clear id), fun r => ?_⟩
  cases r with
  | error err => trivial
  | ok u => exact calls_void (calls (beside_enqueue _))

theorem unspent_each (hclear : e.net.fails (.clearSpeedOverride id) = false) :
    ∀ (ids : List ℤ), id ∈ ids → ∀ s, Unspent now (run scanExec e (Prog.each revertOverride ids) s).2.2 id := by
  intro ids
  induction ids with
  | nil =>
    intro h
    cases h
  | cons id' ids ih =>
    intro hmem s
    rw [Prog.each, run_bind]
    rcases List.mem_cons.mp hmem with rfl | hmem
    · exact unspent_run (calls_each fun id' _ => calls_revertOverride id')
        (unspent_revertOverride hclear s)
    · exact ih hmem _

/-- With the statements and the queue at work, a pass leaves no override that has run out. -/
def Clears (e : ScanEnv) (id : ℤ) : Prop :=
  e.queue.fails = false ∧ e.net.fails .getActiveSessionsAboveFUP = false ∧
    e.net.fails .listExpiredSpeedOverrides = false ∧ e.net.fails (.clearSpeedOverride id) = false

theorem throttle_ok (hq : e.queue.fails = false) : ∀ (sts : List SessionStats) (s : QueueDB × Network),
    (run scanExec e (throttle sts) s).1 = .ok () := by
  intro sts
  induction sts with
  | nil => exact fun _ => rfl
  | cons st rest ih =>
    intro s
    rw [throttle]
    split
    · exact ih s
    split
    · rw [run_bind]
      generalize run scanExec e (query (.setFUPActive st.subscriberID true)) s = x
      obtain ⟨r, q, net⟩ := x
      cases r with
      | error err => exact ih _
      | ok u =>
        obtain ⟨info, q', row, hrun, -⟩ :=
          enqueue_sessionTask hq TaskTypeCoA (coaPayload st.subscriberID st.nasIP) q net
        have hrun' : run scanExec e (enqueue (coaTask st.subscriberID st.nasIP)) (q, net) = _ := hrun
        rw [run_bind, hrun']
        rw [run_bind]
        exact ih _
    · exact ih s

theorem scanBreaches_ok (hq : e.queue.fails = false) (hlist : e.net.fails .getActiveSessionsAboveFUP = false)
    (s : QueueDB × Network) : (run scanExec e scanBreaches s).1 = .ok () := by
  rw [scanBreaches, run_bind, query_run, exec_stmt, hlist]
  exact throttle_ok hq _ _

theorem mem_listExpired {p : Profile} (order : List ℤ → List ℤ)
    (horder : ∀ ids, (order ids).Perm ids) (hp : net.directory.subscribers.lookup id = some p)
    (hspent : p.speedOverrideExpiresAt.any (· ≤ now) = true) : id ∈ ListExpiredSpeedOverrides order now net := by
  refine (horder _).mem_iff.mpr (List.mem_map.mpr ⟨⟨id, p⟩, ?_, rfl⟩)
  exact List.mem_filter.mpr ⟨AList.mem_lookup_iff.mp hp, hspent⟩

theorem scanExpiredOverrides_unspent (hexpired : e.net.fails .listExpiredSpeedOverrides = false)
    (hclear : e.net.fails (.clearSpeedOverride id) = false) (s : QueueDB × Network) :
    Unspent e.net.now (run scanExec e scanExpiredOverrides s).2.2 id := by
  by_cases hunspent : Unspent e.net.now s.2 id
  · exact unspent_run (calls beside_scanExpiredOverrides) hunspent
  · simp only [Unspent, not_forall, Bool.not_eq_false] at hunspent
    obtain ⟨p, hp, hspent⟩ := hunspent
    rw [scanExpiredOverrides, run_bind, query_run, exec_stmt, hexpired]
    simp only [Bool.false_eq_true, if_false, NetOp.run]
    rw [run_bind]
    exact unspent_each hclear _ (mem_listExpired e.net.order.1 e.net.order.2 hp hspent) _

theorem scan_unspent (h : Clears e id) (s : QueueDB × Network) :
    Unspent e.net.now (run scanExec e scan s).2.2 id := by
  obtain ⟨hq, hlist, hexpired, hclear⟩ := h
  have hok := scanBreaches_ok hq hlist s
  rw [scan, run_bind]
  generalize run scanExec e scanBreaches s = x at hok ⊢
  obtain ⟨r, s₁⟩ := x
  subst hok
  rw [run_bind]
  refine unspent_run ?_ (scanExpiredOverrides_unspent hexpired hclear s₁)
  -- the warnings come last and write no subscriber
  cases (run scanExec e scanExpiredOverrides s₁).1 with
  | error err => trivial
  | ok u => exact calls beside_scanWarnings

end

end IspBss.Fup
