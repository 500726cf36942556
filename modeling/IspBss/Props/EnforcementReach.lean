import IspBss.Props.CommandTargets
import IspBss.Props.SessionEnforcement

/-! Does enforcement reach every session?

    A subscriber may have several sessions open, and the octets of all of them count towards the
    threshold. A breach queues one CoA task and a termination one PoD task, and a task names one
    session:

        breach        ─▶ one CoA task ─┐
        termination   ─▶ one PoD task ─┴▶ one of the latest sessions      the others go on as they were

    So everybody is reached exactly if the task is queued and all open rows are one session. -/

namespace IspBss.Fup

open Lib Jobqueue Radius FUPStore CoAHandler Handler Prog List Scanner SessionStore CoAPayload

/-! ### Working off tasks -/

section
variable {τ : Type} {r : SessionRow}

/-- Attempts at tasks, one after the other, each in its own circumstances: how each ended, and what is
    left. -/
def workOff (handle : τ → CommandProg (Option TaskErr)) :
    List (τ × CommandEnv) → Network × ControlState → List (τ × Option TaskErr) × Network × ControlState
  | [], s => ([], s)
  | x :: xs, s =>
    let (err, s') := Prog.run commandExec x.2 (handle x.1) s
    let (outcomes, s'') := workOff handle xs s'
    ((x.1, err) :: outcomes, s'')

/-- Every open session of the subscriber is named in one of the packets. -/
def Reached (code : ControlCode) (net : Network) (id : ℤ) (sent : List ControlPacket) : Prop :=
  ∀ r ∈ openSessions net id, ∃ p ∈ sent, p.Names code r

/-- However the tasks are worked off, once each has been acknowledged every open session is reached. -/
def EveryRunReaches (handle : τ → CommandProg (Option TaskErr)) (tasks : List τ) (code : ControlCode)
    (net : Network) (id : ℤ) : Prop :=
  ∀ runs live, (∀ x ∈ runs, x.1 ∈ tasks) →
    (∀ t ∈ tasks, (t, none) ∈ (workOff handle runs (net, ⟨[], live⟩)).1) →
    Reached code net id (workOff handle runs (net, ⟨[], live⟩)).2.2.sent

/-- One session in two rows. -/
def SameSession (r r' : SessionRow) : Prop := r.nasIP = r'.nasIP ∧ r.sessionID = r'.sessionID

theorem ControlPacket.Names.same {p : ControlPacket} {code : ControlCode} {r' : SessionRow}
    (h : p.Names code r) : p.Names code r' ↔ SameSession r r' := by
  obtain ⟨hcode, hnas, hsess⟩ := h
  rw [ControlPacket.Names, hnas, hsess]
  exact and_iff_right hcode

variable {handle : τ → CommandProg (Option TaskErr)} {code : ControlCode} {net : Network} {id : ℤ}
  {able : SessionRow → Prop} {tasks : List τ}

/-- Any attempts name sessions that can be named, and at least one if one was acknowledged. -/
theorem workOff_sends (hone : ∀ t ∈ tasks, OneSession (handle t) code net id able) :
    ∀ (runs : List (τ × CommandEnv)) (ctl : ControlState), (∀ x ∈ runs, x.1 ∈ tasks) →
      ∃ new live, (workOff handle runs (net, ctl)).2 = (net, ⟨ctl.sent ++ new, live⟩) ∧
        (∀ p ∈ new, ∃ r ∈ latest (openSessions net id), able r ∧ p.Names code r) ∧
        ((∃ t, (t, none) ∈ (workOff handle runs (net, ctl)).1) → ∃ p, p ∈ new) := by
  intro runs
  induction runs with
  | nil =>
    intro ctl _
    exact ⟨[], ctl.live, by rw [append_nil]; rfl, fun _ h => (not_mem_nil h).elim,
      fun ⟨_, h⟩ => (not_mem_nil h).elim⟩
  | cons x runs ih =>
    intro ctl hruns
    obtain ⟨err, new, live, hrun, hnames, hacked⟩ := (hone x.1 (hruns x (.head _))).sends x.2 ctl
    obtain ⟨new', live', hrest, hnames', hacked'⟩ :=
      ih ⟨ctl.sent ++ new, live⟩ fun y hy => hruns y (.tail _ hy)
    simp only [workOff, hrun]
    refine ⟨new ++ new', live', by rw [hrest, append_assoc], fun p hp => ?_, ?_⟩
    · exact (mem_append.mp hp).elim (hnames p) (hnames' p)
    · rintro ⟨t, ht⟩
      rcases mem_cons.mp ht with heq | ht
      · obtain ⟨p, hp⟩ := hacked (Prod.mk.inj heq).2.symm
        exact ⟨p, mem_append_left _ hp⟩
      · obtain ⟨p, hp⟩ := hacked' ⟨t, ht⟩
        exact ⟨p, mem_append_right _ hp⟩

/-- And all of them may name one and the same. -/
theorem exists_workOff (hone : ∀ t ∈ tasks, OneSession (handle t) code net id able)
    (hr : r ∈ latest (openSessions net id)) (hable : able r) :
    ∃ runs : List (τ × CommandEnv), (∀ x ∈ runs, x.1 ∈ tasks) ∧ ∀ ctl,
      (∀ t ∈ tasks, (t, none) ∈ (workOff handle runs (net, ctl)).1) ∧
      ∃ new live, (workOff handle runs (net, ctl)).2 = (net, ⟨ctl.sent ++ new, live⟩) ∧
        ∀ p ∈ new, p.Names code r := by
  induction tasks with
  | nil =>
    exact ⟨[], fun _ h => (not_mem_nil h).elim, fun ctl => ⟨fun _ h => (not_mem_nil h).elim,
      [], ctl.live, by rw [append_nil]; rfl, fun _ h => (not_mem_nil h).elim⟩⟩
  | cons t tasks ih =>
    obtain ⟨w, hw⟩ := (hone t (.head _)).may r hr hable
    obtain ⟨runs, hruns, hrest⟩ := ih fun t' ht' => hone t' (.tail _ ht')
    refine ⟨(t, w) :: runs, fun x hx => ?_, fun ctl => ?_⟩
    · rcases mem_cons.mp hx with rfl | hx
      · exact .head _
      · exact .tail _ (hruns x hx)
    · obtain ⟨new, live, hrun, hnames⟩ := hw ctl
      obtain ⟨hacked, new', live', hrest, hnames'⟩ := hrest ⟨ctl.sent ++ new, live⟩
      simp only [workOff, hrun]
      refine ⟨fun t' ht' => ?_, new ++ new', live', by rw [hrest, append_assoc], fun p hp => ?_⟩
      · rcases mem_cons.mp ht' with rfl | ht'
        · exact .head _
        · exact .tail _ (hacked t' ht')
      · exact (mem_append.mp hp).elim (hnames p) (hnames' p)

/-- Tasks that name one session each reach everybody exactly if all open rows are that session. -/
theorem everyRunReaches_iff (hone : ∀ t ∈ tasks, OneSession (handle t) code net id able) (htasks : tasks ≠ []) :
    EveryRunReaches handle tasks code net id ↔
      ∀ r ∈ latest (openSessions net id), able r → ∀ r' ∈ openSessions net id, SameSession r r' := by
  constructor
  · intro h r hr hable r' hr'
    obtain ⟨runs, hruns, hall⟩ := exists_workOff hone hr hable
    obtain ⟨hacked, new, live, hsent, hnames⟩ := hall ⟨[], ∅⟩
    obtain ⟨p, hp, hp'⟩ := h runs ∅ hruns hacked r' hr'
    rw [hsent] at hp
    exact (hnames p hp).same.mp hp'
  · intro h runs live hruns hacked r' hr'
    obtain ⟨t, ht⟩ := exists_mem_of_ne_nil tasks htasks
    obtain ⟨new, live', hsent, hnames, hsome⟩ := workOff_sends hone runs ⟨[], live⟩ hruns
    obtain ⟨p, hp⟩ := hsome ⟨t, hacked t ht⟩
    obtain ⟨r, hr, hable, hpr⟩ := hnames p hp
    refine ⟨p, ?_, hpr.same.mpr (h r hr hable r' hr')⟩
    rw [hsent]
    exact hp

/-- Without a task nobody is reached who has a session. -/
theorem everyRunReaches_nil_iff : EveryRunReaches handle [] code net id ↔ openSessions net id = [] := by
  constructor
  · intro h
    refine eq_nil_iff_forall_not_mem.mpr fun r hr => ?_
    obtain ⟨p, hp, -⟩ := h [] ∅ (fun _ hx => by cases hx) (fun _ ht => by cases ht) r hr
    cases hp
  · intro hnone runs live _ _ r hr
    rw [hnone] at hr
    cases hr

end

/-! ### The two kinds of tasks -/

section
variable {w : CommandEnv} {id : ℤ} {sess : NASSession}

variable {net : Network}

/-- The attributes for the session can be built, at some moment. -/
def Able (h : CommandHandler) (net : Network) (id : ℤ) (r : SessionRow) : Prop :=
  ∃ now sub p a, net.directory.subscribers.lookup id = some sub ∧
    net.directory.plans.lookup sub.planID = some p ∧
    CoAHandler.attrs h ⟨r.nasIP, r.sessionID, sessionRate now sub p, sub.planID⟩ = .ok a

theorem updateSpeedProfile_run (w : CommandEnv) (sessionID rateLimit : String) (net : Network)
    (ctl : ControlState) :
    ∃ ok live, run commandExec w
      (Prog.perform (S := commandSig) (.inr (.updateSpeedProfile sessionID rateLimit))) (net, ctl) =
        (ok, net, ⟨ctl.sent, live⟩) := by
  have hrun : run commandExec w
      (Prog.perform (S := commandSig) (.inr (.updateSpeedProfile sessionID rateLimit))) (net, ctl) =
      ((controlExec w (.updateSpeedProfile sessionID rateLimit) ctl).1, net,
        (controlExec w (.updateSpeedProfile sessionID rateLimit) ctl).2) := rfl
  rw [hrun, controlExec]
  split
  · exact ⟨_, ctl.live, rfl⟩
  · exact ⟨_, touch sessionID w.net.now ctl.live, rfl⟩

theorem push_tries (w : CommandEnv) (h : CommandHandler) (id : ℤ) (net : Network) (ctl : ControlState) :
    Tries w net ctl (foundSession w net id) (fun sess => (attrs h sess).toOption.map (packet h sess))
      (run commandExec w (push h id) (net, ctl)) := by
  rw [push, nasSession_bind_run]
  cases foundSession w net id with
  | error err => exact .refused _ nofun
  | ok sess =>
    dsimp only
    cases ha : attrs h sess with
    | error err =>
      refine .refused _ ?_
      rintro sess ⟨⟩
      rw [ha]
      rfl
    | ok a =>
      have hp : (attrs h sess).toOption.map (packet h sess) = some (packet h sess a) := by rw [ha]; rfl
      obtain ⟨err, hrun, herr⟩ := send_run w (packet h sess a) net ctl
      dsimp only
      rw [run_bind, hrun]
      cases err with
      | some err => exact .tried sess _ (some err) _ rfl hp herr
      | none =>
        dsimp only
        split
        · obtain ⟨ok, live, hupdate⟩ := updateSpeedProfile_run w sess.sessionID sess.rateLimit net
            (ctl.tried w (packet h sess a))
          rw [run_bind, hupdate]
          exact .tried sess _ none live rfl hp herr
        · exact .tried sess _ none _ rfl hp herr

/-- A CoA task for a subscriber. -/
theorem push_oneSession (h : CommandHandler) (net : Network) (id : ℤ) :
    OneSession (push h id) .coaRequest net id (Able h net id) := by
  refine oneSession_of_tries (fun r => ?_) (fun sess p hp => ?_) fun w ctl => push_tries w h id net ctl
  · constructor
    · rintro ⟨now, sub, q, a, hsub, hq, ha⟩
      exact ⟨now, sub, q, _, hsub, hq, by rw [ha]; rfl⟩
    · rintro ⟨now, sub, q, p, hsub, hq, hp⟩
      cases ha : attrs h ⟨r.nasIP, r.sessionID, sessionRate now sub q, sub.planID⟩ with
      | error err => rw [ha] at hp; cases hp
      | ok a => exact ⟨now, sub, q, a, hsub, hq, ha⟩
  · obtain ⟨a, -, rfl⟩ := Option.map_eq_some_iff.mp hp
    exact ⟨rfl, rfl, rfl⟩

end

/-! ### A breach -/

section
variable {q q' : QueueDB} {json : Decoder} {id : ℤ} {st : SessionStats} {net' : Network} {row : TaskRow}

/-- Setting the flag: an error changes nothing, and needs a reason. -/
theorem setFUPActive_cases (e : NetEnv) (id : ℤ) (net : Network) :
    (∃ err, netExec e (.stmt (.setFUPActive id true)) net = (.error err, net) ∧
      (e.fails (.setFUPActive id true) = false → ¬net.directory.Refers id)) ∨
    ∃ net', netExec e (.stmt (.setFUPActive id true)) net = (.ok (), net') ∧
      e.fails (.setFUPActive id true) = false ∧ net'.sessions = net.sessions ∧
      ∀ i, net.directory.Refers i → net'.directory.Refers i := by
  rw [Daemon.exec_stmt]
  cases hf : e.fails (.setFUPActive id true) with
  | true => exact .inl ⟨.unavailable, rfl, nofun⟩
  | false =>
    simp only [Bool.false_eq_true, if_false, NetOp.run, SetFUPActive, updateSubscriber]
    split
    · refine .inr ⟨_, rfl, trivial, rfl, ?_⟩
      rintro i ⟨sub, hsub, p, hp⟩
      rw [Option.mem_def] at hsub
      by_cases hi : i = id
      · exact ⟨{ sub with fupActive := true }, by simp [Rows.lookup_updateWhere, hsub, hi], p, hp⟩
      · exact ⟨sub, by simp [Rows.lookup_updateWhere, hsub, hi], p, hp⟩
    · rename_i hmem
      refine .inl ⟨.notFound, rfl, fun _ hrefs => hmem (AList.lookup_isSome.mp ?_)⟩
      obtain ⟨sub, hsub, -⟩ := hrefs
      rw [hsub]
      rfl

theorem enqueueThrottledNotice_adds (sess : SessionStats) (e : ScanEnv) (q : QueueDB) (net : Network) :
    ∃ res q', run scanExec e (enqueueThrottledNotice sess) (q, net) = (res, q', net) ∧
      Adds (Carries (throttledTask sess)) q q' := by
  obtain ⟨res, q', hrun, hadds, -⟩ := enqueue_adds (throttledTask sess) e q net
  rw [enqueueThrottledNotice, run_bind, hrun]
  have hadds' := hadds.imp fun _ h => h.2
  cases res with
  | ok info => exact ⟨_, q', rfl, hadds'⟩
  | error err => cases err <;> exact ⟨_, q', rfl, hadds'⟩

/-- A CoA task is queued if the queue can be reached. -/
theorem enqueue_coaTask (id : ℤ) (nasIP : String) (e : ScanEnv) (q : QueueDB) (net : Network) :
    ∃ res q', run scanExec e (enqueue (coaTask id nasIP)) (q, net) = (res, q', net) ∧
      Adds (fun row => e.queue.fails = false ∧ Carries (coaTask id nasIP) row) q q' ∧
      ((∃ err, res = .error err) → e.queue.fails = true) ∧
      ∀ info, res = .ok info → ∃ row, q'.tasks.lookup (q.tasks.last + 1) = some row ∧
        Carries (coaTask id nasIP) row := by
  obtain ⟨res, q', hrun, hadds, hok⟩ := enqueue_adds (coaTask id nasIP) e q net
  refine ⟨res, q', hrun, hadds, ?_, hok⟩
  rintro ⟨err, rfl⟩
  rw [enqueue_run, queueExec] at hrun
  cases hf : e.queue.fails with
  | true => rfl
  | false =>
    rw [hf] at hrun
    cases hrun

/-- What a loop over breached sessions leaves. -/
structure Throttles (e : ScanEnv) (sts : List SessionStats) (s s' : QueueDB × Network) : Prop where
  sessions : s'.2.sessions = s.2.sessions
  refers : ∀ id, s.2.directory.Refers id → s'.2.directory.Refers id
  adds : Adds (fun row => row.taskType = TaskTypeCoA → e.queue.fails = false ∧ ∃ st ∈ sts,
    e.net.fails (.setFUPActive st.subscriberID true) = false ∧
      row.payload = coaPayload st.subscriberID st.nasIP) s.1 s'.1
  queued : e.queue.fails = false → ∀ st ∈ sts, e.net.fails (.setFUPActive st.subscriberID true) = false →
    s.2.directory.Refers st.subscriberID →
      ∃ k row, s.1.tasks.last < k ∧ s'.1.tasks.lookup k = some row ∧
        Carries (coaTask st.subscriberID st.nasIP) row

theorem throttle_throttles (e : ScanEnv) : ∀ (sts : List SessionStats), (∀ st ∈ sts, Due st) →
    ∀ s, Throttles e sts s (run scanExec e (throttle sts) s).2 := by
  intro sts
  induction sts with
  | nil =>
    intro _ s
    exact ⟨rfl, fun _ h => h, .of_rows rfl le_rfl, fun _ _ h => (not_mem_nil h).elim⟩
  | cons sess rest ih =>
    rintro hdue ⟨q, net⟩
    obtain ⟨hactive, hbreached⟩ := hdue sess (.head _)
    have ih := ih fun st hst => hdue st (.tail _ hst)
    rw [throttle, if_neg hactive, if_pos hbreached, run_bind, query_run]
    rcases setFUPActive_cases e.net sess.subscriberID net with
      ⟨err, hset, hreason⟩ | ⟨net₁, hset, hf, hsess₁, hrefs₁⟩
    · rw [hset]
      have hrest := ih (q, net)
      refine ⟨hrest.sessions, hrest.refers, hrest.adds.imp fun row h hcoa => ?_, fun hq st hst hf hrefs => ?_⟩
      · obtain ⟨hq, st, hst, h⟩ := h hcoa
        exact ⟨hq, st, .tail _ hst, h⟩
      · rcases mem_cons.mp hst with rfl | hst
        · exact absurd hrefs (hreason hf)
        · exact hrest.queued hq st hst hf hrefs
    · rw [hset]
      rw [run_bind]
      obtain ⟨res, q₁, hrun, hadds, herr, hok⟩ := enqueue_coaTask sess.subscriberID sess.nasIP e q net₁
      rw [hrun]
      have hadds : Adds (fun row => row.taskType = TaskTypeCoA → e.queue.fails = false ∧
          ∃ st ∈ sess :: rest, e.net.fails (.setFUPActive st.subscriberID true) = false ∧
            row.payload = coaPayload st.subscriberID st.nasIP) q q₁ :=
        hadds.imp fun row h _ => ⟨h.1, sess, .head _, hf, h.2.2⟩
      cases res with
      | error err =>
        refine ⟨hsess₁, hrefs₁, hadds, fun hq => ?_⟩
        rw [herr ⟨err, rfl⟩] at hq
        cases hq
      | ok info =>
        obtain ⟨row, hrow, hcarries⟩ := hok info rfl
        obtain ⟨res', q₂, hnotice, hadds'⟩ := enqueueThrottledNotice_adds sess e q₁ net₁
        rw [run_bind, hnotice]
        have hrest := ih (q₂, net₁)
        refine ⟨hrest.sessions.trans hsess₁, fun i h => hrest.refers i (hrefs₁ i h), ?_,
          fun hq st hst hf' hrefs => ?_⟩
        · refine hadds.trans (.trans (hadds'.imp fun row hnot hcoa => ?_)
            (hrest.adds.imp fun row h hcoa => ?_))
          · have hother : TaskTypeFUPThrottled ≠ TaskTypeCoA := by decide
            exact absurd (hnot.1.symm.trans hcoa) hother
          · obtain ⟨hq, st, hst, h⟩ := h hcoa
            exact ⟨hq, st, .tail _ hst, h⟩
        · rcases mem_cons.mp hst with rfl | hst
          · -- the row just added is kept by what follows
            have hold : q.tasks.last + 1 ≤ q₁.tasks.last := Serial.le_last_of_lookup hrow
            refine ⟨q.tasks.last + 1, row, lt_add_one _, ?_, hcarries⟩
            rw [hrest.adds.kept _ (hold.trans hadds'.last), hadds'.kept _ hold]
            exact hrow
          · obtain ⟨k, row, hk, hrow⟩ := hrest.queued hq st hst hf' (hrefs₁ _ hrefs)
            exact ⟨k, row, (hadds.last.trans hadds'.last).trans_lt hk, hrow⟩

/-- The rows that were queued since. -/
def queuedSince (q q' : QueueDB) : List TaskRow :=
  (q'.tasks.rows.entries.filter fun x => q.tasks.last < x.1).map (·.2)

theorem mem_queuedSince : row ∈ queuedSince q q' ↔ ∃ k, q.tasks.last < k ∧ q'.tasks.lookup k = some row := by
  simp only [queuedSince, mem_map, mem_filter, decide_eq_true_eq]
  constructor
  · rintro ⟨x, ⟨hx, hk⟩, rfl⟩
    exact ⟨x.1, hk, Serial.lookup_eq_of_mem hx⟩
  · rintro ⟨k, hk, hrow⟩
    exact ⟨⟨k, row⟩, ⟨AList.mem_lookup_iff.mp hrow, hk⟩, rfl⟩

/-- The CoA tasks among them that are for the subscriber. -/
def coaTasks (json : Decoder) (id : ℤ) (rows : List TaskRow) : List TaskRow :=
  rows.filter fun row => row.taskType = TaskTypeCoA ∧
    (json.coa row.payload).map subscriberID = some id

theorem mem_coaTasks {rows : List TaskRow} :
    row ∈ coaTasks json id rows ↔ row ∈ rows ∧ row.taskType = TaskTypeCoA ∧
      (json.coa row.payload).map subscriberID = some id := by
  simp [coaTasks]

/-- The columns that hold addresses are of type INET: nothing in them needs an escape. -/
def PlainAddresses (net : Network) : Prop := ∀ r ∈ net.sessions, ∀ c ∈ r.nasIP.toList, jsonChar c = c.toString

variable {net : Network}

/-- The address in a CoA task of a breach is that of a row, or empty. -/
theorem liveSessionNas_plain (h : PlainAddresses net) (id : ℤ) :
    ∀ c ∈ (liveSessionNas net id).toList, jsonChar c = c.toString := by
  have hrows : ∀ (rows : List SessionRow), (∀ r ∈ rows, r ∈ net.sessions) → ∀ m : String,
      (∀ c ∈ m.toList, jsonChar c = c.toString) →
      ∀ c ∈ (rows.foldl (fun m r => if m < r.nasIP then r.nasIP else m) m).toList,
        jsonChar c = c.toString := by
    intro rows
    induction rows with
    | nil => exact fun _ _ hm => hm
    | cons r rows ih =>
      intro hmem m hm
      rw [foldl_cons]
      refine ih (fun r' hr' => hmem r' (.tail _ hr')) _ ?_
      split
      · exact h r (hmem r (.head _))
      · exact hm
  exact hrows _ (fun r hr => mem_of_mem_filter hr) "" fun _ hc => (not_mem_nil hc).elim

theorem sessionStats_nasIP {keep : RatePlan → ℤ → Prop} [∀ p n, Decidable (keep p n)]
    (h : sessionStats net keep id = some st) : st.nasIP = liveSessionNas net id ∧ net.directory.Refers id := by
  simp only [sessionStats, Option.bind_eq_bind, Option.bind_eq_some_iff] at h
  obtain ⟨sub, hsub, p, hp, h⟩ := h
  split at h
  · cases h
    exact ⟨rfl, sub, hsub, p, hp⟩
  · cases h

theorem openSessions_congr (h : net'.sessions = net.sessions) (id : ℤ) :
    openSessions net' id = openSessions net id := by
  rw [openSessions, h, openSessions]

/-- Whoever is listed as breached. -/
theorem breached_spec {order : List ℤ → List ℤ} (horder : ∀ ids, (order ids).Perm ids)
    (h : st ∈ GetActiveSessionsAboveFUP order net) :
    Due st ∧ st.nasIP = liveSessionNas net st.subscriberID ∧ net.directory.Refers st.subscriberID ∧
      openSessions net st.subscriberID ≠ [] := by
  obtain ⟨id, hid, hst⟩ := mem_filterMap.mp h
  obtain ⟨rfl, -⟩ := sessionStats_eq_some hst
  obtain ⟨hnas, hrefs⟩ := sessionStats_nasIP hst
  refine ⟨sessionStats_due hst, hnas, hrefs, ?_⟩
  have honline := (horder _).mem_iff.mp hid
  simp only [onlineSubscribers, mem_dedup, mem_map, mem_filter, decide_eq_true_eq] at honline
  obtain ⟨r, ⟨hr, hopen⟩, hsub⟩ := honline
  exact ne_nil_of_mem (mem_openSessions.mpr ⟨hr, hopen, hsub⟩)

/-- A breach that a scan has detected. -/
theorem breach_reaches_iff (hjson : json.Faithful) (h : CommandHandler) {e : ScanEnv} (hreads : e.net.fails .getActiveSessionsAboveFUP = false)
    (hlisted : ∃ st ∈ GetActiveSessionsAboveFUP e.net.order.1 net, st.subscriberID = id)
    (hinet : PlainAddresses net) (hscan : (run scanExec e scanBreaches (q, net)).2 = (q', net')) :
    EveryRunReaches (fun row => ProcessTask json h row.payload)
        (coaTasks json id (queuedSince q q')) .coaRequest net' id ↔
      e.queue.fails = false ∧ e.net.fails (.setFUPActive id true) = false ∧
        ∀ r ∈ latest (openSessions net id), Able h net' id r →
          ∀ r' ∈ openSessions net id, SameSession r r' := by
  have hrun : run scanExec e scanBreaches (q, net) =
      run scanExec e (throttle (GetActiveSessionsAboveFUP e.net.order.1 net)) (q, net) := by
    rw [scanBreaches, run_bind, query_run, Daemon.exec_stmt, hreads]
    rfl
  have hloop := throttle_throttles e (GetActiveSessionsAboveFUP e.net.order.1 net)
    (fun st hst => (breached_spec e.net.order.2 hst).1) (q, net)
  rw [← hrun, hscan] at hloop
  obtain ⟨hsessions, hrefers, hadds, hqueued⟩ := hloop
  have hopen := openSessions_congr hsessions id
  obtain ⟨st, hst, rfl⟩ := hlisted
  obtain ⟨-, hnas, hrefs, honline⟩ := breached_spec e.net.order.2 hst
  have hdecode : ∀ st ∈ GetActiveSessionsAboveFUP e.net.order.1 net,
      (json.coa (coaPayload st.subscriberID st.nasIP)).map subscriberID =
        some st.subscriberID := by
    intro st hst
    refine hjson.coa _ _ ?_
    rw [(breached_spec e.net.order.2 hst).2.1]
    exact liveSessionNas_plain hinet _
  by_cases hok : e.queue.fails = false ∧ e.net.fails (.setFUPActive st.subscriberID true) = false
  · obtain ⟨k, row, hk, hrow, hcarries⟩ := hqueued hok.1 st hst hok.2 hrefs
    have hmem : row ∈ coaTasks json st.subscriberID (queuedSince q q') := by
      refine mem_coaTasks.mpr ⟨mem_queuedSince.mpr ⟨k, hk, hrow⟩, hcarries.1, ?_⟩
      rw [hcarries.2]
      exact hdecode st hst
    have hone : ∀ row ∈ coaTasks json st.subscriberID (queuedSince q q'),
        OneSession (ProcessTask json h row.payload) .coaRequest net' st.subscriberID
          (Able h net' st.subscriberID) := by
      intro row hrow
      obtain ⟨-, -, hid⟩ := mem_coaTasks.mp hrow
      obtain ⟨p, hp, hid⟩ := Option.map_eq_some_iff.mp hid
      rw [ProcessTask, hp, ← hid]
      exact push_oneSession h net' p.subscriberID
    rw [everyRunReaches_iff hone (ne_nil_of_mem hmem), hopen]
    exact ⟨fun hall => ⟨hok.1, hok.2, hall⟩, fun hall => hall.2.2⟩
  · have hnone : coaTasks json st.subscriberID (queuedSince q q') = [] := by
      refine eq_nil_iff_forall_not_mem.mpr fun row hrow => hok ?_
      obtain ⟨hrow, htype, hid⟩ := mem_coaTasks.mp hrow
      obtain ⟨k, hk, hrow⟩ := mem_queuedSince.mp hrow
      obtain ⟨hq, st', hst', hf, hpayload⟩ := hadds.new k row hk hrow htype
      rw [hpayload, hdecode st' hst'] at hid
      rw [← Option.some.inj hid]
      exact ⟨hq, hf⟩
    rw [hnone, everyRunReaches_nil_iff, hopen]
    exact ⟨fun hnil => absurd hnil honline, fun hall => absurd ⟨hall.1, hall.2.1⟩ hok⟩

end

/-! ### A termination -/

section
variable {e : ApiEnv} {s s' : DB} {id : ℤ} {live' : Table LiveSession} {live : Table LiveSession}

/-- The handler of a PoD task of the API. -/
def podTask (h : CommandHandler) (task : Task) : CommandProg (Option TaskErr) :=
  match task.payload with
  | .pod subscriberID nasIP sessionID => PoDHandler.disconnect h ⟨subscriberID, nasIP, sessionID⟩
  | _ => return none

/-- The subscriber is seen online, and the disconnect can be queued. -/
def PoDQueued (e : ApiEnv) (live : Table LiveSession) (id : ℤ) : Prop :=
  e.liveFails = false ∧ (get id e.db.now live).isSome = true ∧
    e.db.fails (.enqueue (Handler.netCommand (.pod id "" ""))) = false
  deriving Decidable

theorem enqueuePoD_rows (e : ApiEnv) (s : DB) (live : Table LiveSession) (id : ℤ) :
    (run apiExec e (enqueuePoDIfSessionActive id) (s, live)).2.1.tasks.rows =
      s.tasks.rows ++ if PoDQueued e live id then [netCommand (.pod id "" "")] else [] := by
  by_cases hqueued : PoDQueued e live id
  · rw [if_pos hqueued]
    obtain ⟨hreads, hsome, hf⟩ := hqueued
    obtain ⟨sess, hsess⟩ := Option.isSome_iff_exists.mp hsome
    exact run_enqueueIfSessionActive (fun _ => .pod id "" "") hsess hreads hf
  · rw [if_neg hqueued, append_nil]
    have hread : run apiExec e (GetActiveSession id) (s, live) =
      (if e.liveFails then .error .unavailable else .ok (get id e.db.now live), s, live) := rfl
    rw [enqueuePoDIfSessionActive, enqueueIfSessionActive, run_bind, hread]
    cases hlive : e.liveFails with
    | true => rfl
    | false =>
      cases hget : get id e.db.now live with
      | none => rfl
      | some sess =>
        have hf : e.db.fails (.enqueue (netCommand (.pod id "" ""))) = true := by
          by_contra hf
          exact hqueued ⟨hlive, by rw [hget]; rfl, by simpa using hf⟩
        have hexec : run exec e.db (db (.enqueue (netCommand (.pod id "" "")))) s =
          (.error .unavailable, s) := exec_fails hf
        show (run apiExec e (db (.enqueue (netCommand (.pod id "" "")))).void.left
          (s, live)).2.1.tasks.rows = _
        rw [run_left_db, run_void, hexec]

/-- A termination that succeeds queues the disconnect, or nothing. -/
theorem terminateOnline_newTasks (hok : run apiExec e (terminateOnline id) (s, live) = (.ok (), s', live')) :
    newTasks s s' = if PoDQueued e live id then [netCommand (.pod id "" "")] else [] := by
  obtain ⟨added, hadded, hnone⟩ := (queues_performTermination id).added e.db s
  cases eq_nil_iff_forall_not_mem.mpr hnone
  rw [terminateOnline, followedBy, run_bind, run_left_db] at hok
  generalize run exec e.db (performTermination id) s = out at hok hadded
  obtain ⟨res, s₁⟩ := out
  cases res with
  | error err => cases hok
  | ok u =>
    have hrows := enqueuePoD_rows e s₁ live id
    rw [run_bind] at hok
    rw [hadded, append_nil] at hrows
    obtain ⟨-, hstate⟩ := Prod.mk.inj hok
    rw [hstate] at hrows
    exact newTasks_eq hrows

/-- A termination that has been carried out. -/
theorem termination_reaches_iff (h : CommandHandler)
    (hok : run apiExec e (terminateOnline id) (s, live) = (.ok (), s', live'))
    {net : Network} (hrefs : net.directory.Refers id) :
    EveryRunReaches (podTask h) (newTasks s s') .disconnectRequest net id ↔
      openSessions net id = [] ∨ PoDQueued e live id ∧
        ∀ r ∈ latest (openSessions net id), ∀ r' ∈ openSessions net id, SameSession r r' := by
  rw [terminateOnline_newTasks hok]
  by_cases hqueued : PoDQueued e live id
  · have hone : ∀ task ∈ [netCommand (.pod id "" "")],
        OneSession (podTask h task) .disconnectRequest net id fun _ => True := by
      intro task htask
      rw [mem_singleton.mp htask]
      exact disconnect_oneSession h hrefs
    rw [if_pos hqueued, everyRunReaches_iff hone (cons_ne_nil _ _)]
    constructor
    · exact fun hall => .inr ⟨hqueued, fun r hr => hall r hr trivial⟩
    · rintro (hnone | ⟨-, hall⟩) r hr -
      · intro r' hr'
        rw [hnone] at hr'
        cases hr'
      · exact hall r hr
  · rw [if_neg hqueued, everyRunReaches_nil_iff]
    exact ⟨.inl, fun h => h.resolve_right fun h => hqueued h.1⟩

/-- Once every task that was queued for it has been acknowledged, a breach that a scan has detected has
    reached every open session of the subscriber exactly if the flag could be set, the queue could be
    reached and all open rows are the one session a task names; and a termination exactly if there is
    none, or the disconnect was queued and all are one. -/
theorem enforcement_reaches_iff {json : Decoder} (hjson : json.Faithful) (h : CommandHandler) (id : ℤ) :
    (∀ (e : ScanEnv) (q q' : QueueDB) (net net' : Network),
      e.net.fails .getActiveSessionsAboveFUP = false →
      (∃ st ∈ GetActiveSessionsAboveFUP e.net.order.1 net, st.subscriberID = id) → PlainAddresses net →
      (Prog.run scanExec e scanBreaches (q, net)).2 = (q', net') →
      (EveryRunReaches (fun row => CoAHandler.ProcessTask json h row.payload)
          (coaTasks json id (queuedSince q q')) .coaRequest net' id ↔
        e.queue.fails = false ∧ e.net.fails (.setFUPActive id true) = false ∧
          ∀ r ∈ latest (openSessions net id), Able h net' id r →
            ∀ r' ∈ openSessions net id, SameSession r r')) ∧
    ∀ (e : ApiEnv) (s s' : DB) (live live' : Table LiveSession) (net : Network),
      Prog.run apiExec e (Handler.terminateOnline id) (s, live) = (.ok (), s', live') →
      net.directory.Refers id →
      (EveryRunReaches (podTask h) (newTasks s s') .disconnectRequest net id ↔
        openSessions net id = [] ∨ PoDQueued e live id ∧
          ∀ r ∈ latest (openSessions net id), ∀ r' ∈ openSessions net id, SameSession r r') :=
  ⟨fun _ _ _ _ _ hreads hlisted hinet hscan => breach_reaches_iff hjson h hreads hlisted hinet hscan,
    fun _ _ _ _ _ _ hok hrefs => termination_reaches_iff h hok hrefs⟩

/-- A session that has counted so many octets. -/
def used (r : SessionRow) (octets : ℤ) : SessionRow := r.counted octets 0

/-- Queue and network after a scan. -/
def afterScan (net : Network) : QueueDB × Network :=
  (Prog.run scanExec calm scanBreaches (.empty 0, net)).2

/-- Work off the CoA tasks of the first subscriber, all acknowledged. -/
def coasSent (net : Network) : List (Option TaskErr) × List ControlPacket :=
  let out := workOff (fun row => CoAHandler.ProcessTask idReader plainHandler row.payload)
    ((coaTasks idReader 1 (queuedSince (.empty 0) (afterScan net).1)).map
      (·, .answered (NetEnv.at 0).order 20)) ((afterScan net).2, ⟨[], ∅⟩)
  (out.1.map (·.2), out.2.2.sent)

theorem sameSession_of_single {x r r' : SessionRow} (hr : r ∈ openSessions (online [x]) id)
    (hr' : r' ∈ openSessions (online [x]) id) : SameSession r r' := by
  rw [mem_singleton.mp (mem_openSessions.mp hr).1, mem_singleton.mp (mem_openSessions.mp hr').1]
  exact ⟨rfl, rfl⟩

/-- One session over its quota is throttled, and ended when the subscriber is terminated. -/
theorem single_session_reached :
    EveryRunReaches (fun row => CoAHandler.ProcessTask idReader plainHandler row.payload)
        (coaTasks idReader 1 (queuedSince (.empty 0) (afterScan (online [used firstSession 1200])).1))
        .coaRequest (afterScan (online [used firstSession 1200])).2 1 ∧
      EveryRunReaches (podTask plainHandler)
        (newTasks oneLapsed (Prog.run apiExec ⟨.at 5, false⟩ (Handler.terminateOnline 1)
          (oneLapsed, AList.singleton 1 ⟨"sess-1", "10.0.0.1", 0⟩)).2.1)
        .disconnectRequest (online [firstSession]) 1 := by
  obtain ⟨hbreach, htermination⟩ := enforcement_reaches_iff idReader_faithful plainHandler 1
  constructor
  · refine (hbreach calm (.empty 0) _ (online [used firstSession 1200]) _ rfl ?_ ?_ rfl).mpr ⟨rfl, rfl, ?_⟩
    · decide +kernel
    · intro r hr c hc
      obtain rfl := mem_singleton.mp hr
      have hplain : ("10.0.0.1".toList.all fun c => jsonChar c = c.toString) = true := by decide +kernel
      exact of_decide_eq_true (all_eq_true.mp hplain c hc)
    · intro r hr _ r' hr'
      exact sameSession_of_single (mem_of_latest hr) hr'
  · refine (htermination ⟨.at 5, false⟩ oneLapsed _ (AList.singleton 1 ⟨"sess-1", "10.0.0.1", 0⟩) _
      (online [firstSession]) rfl ⟨_, rfl, _, rfl⟩).mpr (.inr ⟨by decide +kernel, ?_⟩)
    intro r hr r' hr'
    exact sameSession_of_single (mem_of_latest hr) hr'

def sharedQuota : Network := online [used firstSession 600, used secondSession 600]

/-- Two sessions use up a quota together, and the older one stays as fast as it was. -/
theorem older_session_not_throttled :
    (openSessions (afterScan sharedQuota).2 1).map (·.sessionID) = ["sess-1", "sess-2"] ∧
    (coasSent sharedQuota).1 = [none] ∧
    (coasSent sharedQuota).2.map (fun p => (p.code, p.nasIP, p.sessionID)) =
      [(.coaRequest, "10.0.0.2", "sess-2")] := by
  decide +kernel

end

end IspBss.Fup
