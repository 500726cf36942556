import IspBss.Api.Sessions
import IspBss.Props.Throttling

/-! Which session does a task to the NAS hit?

    A task carries a subscriber. The session is looked up when the task runs: of those that are open
    then, one that has started last. So the task of a disconnect may hit another session than the one
    that was asked for:

        request for s ─▶ PoD task for the subscriber ─▶ (other records) ─▶ the latest session then -/

namespace IspBss

/-- The foreign keys of a subscriber: the row and its plan are there. -/
def Radius.Directory.Refers (d : Radius.Directory) (id : ℤ) : Prop :=
  ∃ sub ∈ d.subscribers.lookup id, ∃ p, d.plans.lookup sub.planID = some p

end IspBss

namespace IspBss.Fup

open Lib Jobqueue Radius FUPStore PoDHandler List Prog Nat Daemon PoDPayload

/-! ### The row that comes first -/

variable {α : Type} {order : List ℤ → List ℤ}

theorem limitOne_mem {rows : List α} {r : α} (h : limitOne order rows = some r) : r ∈ rows := by
  obtain ⟨i, -, hi⟩ := Option.bind_eq_some_iff.mp h
  exact mem_of_getElem? hi

/-- Any of the rows may come first. -/
theorem exists_limitOne {rows : List α} {r : α} (h : r ∈ rows) :
    ∃ order : { f : List ℤ → List ℤ // ∀ ids, (f ids).Perm ids }, limitOne order.1 rows = some r := by
  obtain ⟨n, hn, rfl⟩ := getElem_of_mem h
  -- the order that moves this index to the front
  refine ⟨⟨fun ids => if (n : ℤ) ∈ ids then (n : ℤ) :: ids.erase n else ids, fun ids => ?_⟩, ?_⟩
  · dsimp only
    split
    · rename_i hmem
      exact (perm_cons_erase hmem).symm
    · rfl
  · have hmem : (n : ℤ) ∈ (List.range rows.length).map Int.ofNat :=
      mem_map.mpr ⟨n, mem_range.mpr hn, rfl⟩
    simp [limitOne, hmem, hn]

variable {net : Network} {now : Time}

/-- A session that is looked up is one of the latest that are open. -/
theorem getSubscriberNASSession_ok {id : ℤ}
    {sess : NASSession} (h : GetSubscriberNASSession order now id net = .ok sess) :
    ∃ sub p r, net.directory.subscribers.lookup id = some sub ∧
      net.directory.plans.lookup sub.planID = some p ∧ r ∈ latest (openSessions net id) ∧
      sess = ⟨r.nasIP, r.sessionID, sessionRate now sub p, sub.planID⟩ := by
  rw [GetSubscriberNASSession] at h
  split at h
  · cases h
  · rename_i sub hsub
    split at h
    · cases h
    · rename_i p hp
      split at h
      · cases h
      · rename_i r hr
        cases h
        exact ⟨sub, p, r, hsub, hp, limitOne_mem hr, rfl⟩

variable {r : SessionRow}

/-- And it may be any of them. -/
theorem exists_getSubscriberNASSession {id : ℤ} {sub : Profile} {p : RatePlan}
    (hsub : net.directory.subscribers.lookup id = some sub) (hp : net.directory.plans.lookup sub.planID = some p)
    (hr : r ∈ latest (openSessions net id)) (now : Time) :
    ∃ order : { f : List ℤ → List ℤ // ∀ ids, (f ids).Perm ids },
      GetSubscriberNASSession order.1 now id net =
        .ok ⟨r.nasIP, r.sessionID, sessionRate now sub p, sub.planID⟩ := by
  obtain ⟨order, horder⟩ := exists_limitOne hr
  exact ⟨order, by simp only [GetSubscriberNASSession, hsub, hp, horder]⟩

theorem mem_openSessions {id : ℤ} :
    r ∈ openSessions net id ↔ r ∈ net.sessions ∧ r.IsOpen ∧ r.subscriberID = id := by
  simp [openSessions]

theorem mem_of_latest {rows : List SessionRow} (h : r ∈ latest rows) : r ∈ rows :=
  mem_of_mem_filter h

/-! ### The handlers -/

/-- What a handler finds out about the session of a subscriber. -/
def foundSession (w : CommandEnv) (net : Network) (id : ℤ) : Except NetErr NASSession :=
  if w.net.fails (.getSubscriberNASSession id) then .error .unavailable
  else GetSubscriberNASSession w.net.order.1 w.net.now id net

theorem nasSession_bind_run (w : CommandEnv) (id : ℤ) (k : Except NetErr NASSession → CommandProg α)
    (net : Network) (ctl : ControlState) :
    run commandExec w (nasSession id >>= k) (net, ctl) =
      run commandExec w (k (foundSession w net id)) (net, ctl) := by
  have hstmt : netExec w.net (.stmt (.getSubscriberNASSession id)) net = (foundSession w net id, net) := by
    rw [exec_stmt, foundSession]
    split <;> rfl
  show run commandExec w (k (netExec w.net (.stmt (.getSubscriberNASSession id)) net).1)
    ((netExec w.net (.stmt (.getSubscriberNASSession id)) net).2, ctl) = _
  rw [hstmt]

/-- What has been sent once a packet was tried. -/
def ControlState.tried (ctl : ControlState) (w : CommandEnv) (p : ControlPacket) : ControlState :=
  if w.reply p = .unsent then ctl else { ctl with sent := ctl.sent ++ [p] }

/-- The packet is tried; no error means that it was acknowledged. -/
theorem send_run (w : CommandEnv) (p : ControlPacket) (net : Network) (ctl : ControlState) :
    ∃ err, run commandExec w (sendReliableControl p) (net, ctl) = (err, net, ctl.tried w p) ∧
      (err = none ↔ w.reply p = .ack) := by
  have hperform : run commandExec w (Prog.perform (S := commandSig) (.inr (.send p))) (net, ctl) =
      (w.reply p, net, ctl.tried w p) := rfl
  rw [sendReliableControl, Prog.run_bind, hperform]
  cases w.reply p <;> exact ⟨_, rfl, by simp⟩

/-- How a task for the session of a subscriber ends: in an error before it has a packet, or with one
    packet tried. -/
inductive Tries (w : CommandEnv) (net : Network) (ctl : ControlState) (found : Except NetErr NASSession)
    (packet : NASSession → Option ControlPacket) : Option TaskErr × Network × ControlState → Prop where
  | refused (err : TaskErr) (h : ∀ sess, found = .ok sess → packet sess = none) :
      Tries w net ctl found packet (some err, net, ctl)
  | tried (sess p err live) (hfound : found = .ok sess) (hp : packet sess = some p)
      (herr : err = none ↔ w.reply p = .ack) :
      Tries w net ctl found packet (err, net, ⟨(ctl.tried w p).sent, live⟩)

theorem disconnect_tries (w : CommandEnv) (h : CommandHandler) {p : PoDPayload} (hp : p.direct = false)
    (net : Network) (ctl : ControlState) : Tries w net ctl (foundSession w net p.subscriberID)
      (fun sess => some (packet h sess.nasIP sess.sessionID)) (run commandExec w (disconnect h p) (net, ctl)) := by
  rw [disconnect, hp, if_neg Bool.false_ne_true, nasSession_bind_run]
  cases foundSession w net p.subscriberID with
  | error err => exact .refused _ nofun
  | ok sess =>
    obtain ⟨err, hrun, herr⟩ := send_run w (packet h sess.nasIP sess.sessionID) net ctl
    dsimp only
    rw [hrun]
    exact .tried sess _ err _ rfl rfl herr

/-! ### Queueing -/

/-- The later queue has the rows of the earlier one, and of those that are new it is known that `P`. -/
structure Adds (P : TaskRow → Prop) (q q' : QueueDB) : Prop where
  last : q.tasks.last ≤ q'.tasks.last
  kept : ∀ k ≤ q.tasks.last, q'.tasks.lookup k = q.tasks.lookup k
  new : ∀ k row, q.tasks.last < k → q'.tasks.lookup k = some row → P row

namespace Adds

variable {P Q : TaskRow → Prop} {q q' q'' : QueueDB}

/-- The same rows, whatever ids have been used up. -/
theorem of_rows (hrows : q'.tasks.rows = q.tasks.rows) (hlast : q.tasks.last ≤ q'.tasks.last) : Adds P q q' where
  last := hlast
  kept k _ := by rw [Serial.lookup, hrows, Serial.lookup]
  new k row hk h := by
    rw [Serial.lookup, hrows] at h
    exact absurd (Serial.le_last_of_lookup h) (not_le.mpr hk)

theorem trans (h : Adds P q q') (h' : Adds P q' q'') : Adds P q q'' where
  last := h.last.trans h'.last
  kept k hk := (h'.kept k (hk.trans h.last)).trans (h.kept k hk)
  new k row hk hrow := by
    by_cases hold : k ≤ q'.tasks.last
    · exact h.new k row hk ((h'.kept k hold).symm.trans hrow)
    · exact h'.new k row (not_le.mp hold) hrow

theorem imp (h : Adds P q q') (hPQ : ∀ row, P row → Q row) : Adds Q q q' :=
  ⟨h.last, h.kept, fun k row hk hrow => hPQ row (h.new k row hk hrow)⟩

end Adds

/-- An INSERT adds its row or none. -/
theorem insertTask_adds (t : NewTask) (q : QueueDB) :
    Adds (fun row => ∃ now n, row = t.row now n) q (insertTask t q).2 ∧
      ∀ id, (insertTask t q).1 = .ok id →
        ∃ now n, (insertTask t q).2.tasks.lookup (q.tasks.last + 1) = some (t.row now n) := by
  have hrefused : Adds (fun row => ∃ now n, row = t.row now n) q { q with tasks := q.tasks.skip } :=
    .of_rows rfl (Int.le_add_one le_rfl)
  have hends := insertTask_cases t q
  generalize insertTask t q = x at hends ⊢
  cases hends with
  | refused | conflict => exact ⟨hrefused, nofun⟩
  | added n =>
    have hself := q.tasks.lookup_add_self (t.row q.clock n)
    refine ⟨⟨Int.le_add_one le_rfl, fun k hk => ?_, fun k row hk hrow => ?_⟩,
      fun _ _ => ⟨_, _, hself⟩⟩
    · exact Serial.lookup_add_ne _ _ (by omega)
    · by_cases hlast : k = q.tasks.last + 1
      · subst hlast
        cases hself.symm.trans hrow
        exact ⟨_, _, rfl⟩
      · rw [Serial.lookup_add_ne _ _ hlast] at hrow
        exact absurd (Serial.le_last_of_lookup hrow) (not_le.mpr hk)

variable (t : ClientTask)

/-- The row carries the task. -/
def Carries (row : TaskRow) : Prop := row.taskType = t.typ ∧ row.payload = t.payload

/-- Queueing is one INSERT, after a look at the local clock. -/
theorem enqueue_run (e : ScanEnv) (q : QueueDB) (net : Network) :
    run scanExec e (enqueue t) (q, net) =
      let x := queueExec e.queue (.stmt (.insert (t.newTask e.queue.localNow))) (q.advance e.queue.elapsed)
      (enqueueAnswer t e.queue.localNow x.1, x.2, net) := by
  rw [enqueue, scanExec, Prog.run_left, Prog.run_env queueExec ScanEnv.queue, run_enqueueContext]
  rfl

theorem enqueueAnswer_ok {t : ClientTask} {res : Except QueueErr ℤ} {info : TaskInfo}
    (h : enqueueAnswer t now res = .ok info) : ∃ id, res = .ok id := by
  cases res with
  | ok id => exact ⟨id, rfl⟩
  | error err => cases err <;> cases h

/-- What queueing a task leaves. -/
theorem enqueue_adds (t : ClientTask) (e : ScanEnv) (q : QueueDB) (net : Network) :
    ∃ res q', run scanExec e (enqueue t) (q, net) = (res, q', net) ∧
      Adds (fun row => e.queue.fails = false ∧ Carries t row) q q' ∧
      ∀ info, res = .ok info → ∃ row, q'.tasks.lookup (q.tasks.last + 1) = some row ∧ Carries t row := by
  rw [enqueue_run, queueExec]
  cases e.queue.fails with
  | true => exact ⟨_, _, rfl, .of_rows rfl le_rfl, fun _ h => by cases h⟩
  | false =>
    -- the clock moves on, the rows are as before
    obtain ⟨hadds, hok⟩ :=
      insertTask_adds (t.newTask e.queue.localNow) ((q.advance e.queue.elapsed).advance e.queue.elapsed)
    have hold : Adds (Carries t) q ((q.advance e.queue.elapsed).advance e.queue.elapsed) :=
      .of_rows rfl le_rfl
    have hnew : Adds (Carries t) _ _ := hadds.imp (by rintro _ ⟨now, n, rfl⟩; exact ⟨rfl, rfl⟩)
    refine ⟨_, _, rfl, (hold.trans hnew).imp fun _ h => ⟨rfl, h⟩, fun info h => ?_⟩
    obtain ⟨id, hid⟩ := enqueueAnswer_ok h
    obtain ⟨now, n, hrow⟩ := hok id hid
    exact ⟨_, hrow, rfl, rfl⟩

theorem query_run (op : NetOp) (e : ScanEnv) (q : QueueDB) (net : Network) :
    run scanExec e (query op) (q, net) =
      ((netExec e.net (.stmt op) net).1, q, (netExec e.net (.stmt op) net).2) := rfl

variable {s : String}

/-- A session id is resolved to a subscriber who has it open. -/
theorem resolveSession_ok {e : NetEnv} {sub : ℤ} {nasIP : String}
    (h : (netExec e (.stmt (.resolveSessionSubscriber s)) net).1 = .ok (sub, nasIP)) :
    ∃ r ∈ net.sessions, r.OpenAs s ∧ r.subscriberID = sub := by
  rw [exec_stmt] at h
  split at h
  · cases h
  · simp only [NetOp.run, ResolveSessionSubscriber] at h
    split at h
    · cases h
    · rename_i r hr
      cases h
      obtain ⟨hmem, hopen⟩ := mem_filter.mp (limitOne_mem hr)
      exact ⟨r, hmem, of_decide_eq_true hopen, rfl⟩

/-- A disconnect that is accepted has queued a PoD for a subscriber that had the session open. -/
theorem disconnectSession_accepted {configured : Bool} {e : ScanEnv} {q q' : QueueDB}
    {net' : Network} {status : String} (h : run scanExec e (Api.Handler.DisconnectSession configured s) (q, net) =
      (.accepted status, q', net')) :
    ∃ sub row, (∃ r ∈ net.sessions, r.OpenAs s ∧ r.subscriberID = sub) ∧
      q'.tasks.lookup (q.tasks.last + 1) = some row ∧ row.taskType = TaskTypePoD ∧
      row.payload = marshal ⟨sub, "", ""⟩ ∧ net' = net := by
  rw [Api.Handler.DisconnectSession] at h
  split at h
  · cases h
  split at h
  · cases h
  rw [Prog.run_bind, query_run] at h
  cases hres : (netExec e.net (.stmt (.resolveSessionSubscriber s)) net).1 with
  | error err =>
    rw [hres] at h
    cases h
  | ok found =>
    obtain ⟨sub, nasIP⟩ := found
    rw [hres] at h
    rw [Prog.run_bind] at h
    obtain ⟨r, q₁, hrun, -, hok⟩ := enqueue_adds
      (Api.sessionTask TaskTypePoD (marshal ⟨sub, "", ""⟩)) e q
      (netExec e.net (.stmt (.resolveSessionSubscriber s)) net).2
    rw [hrun] at h
    cases r with
    | error err => cases h
    | ok info =>
      cases h
      obtain ⟨row, hrow, htype, hpayload⟩ := hok info rfl
      have hreads : (netExec e.net (.stmt (.resolveSessionSubscriber s)) net).2 = net := by
        rw [exec_stmt]
        split <;> rfl
      exact ⟨sub, row, resolveSession_ok hres, hrow, htype, hpayload, hreads⟩

/-! ### The session that was asked for -/

/-- The packet is for this session, at its NAS. -/
def ControlPacket.Names (p : ControlPacket) (code : ControlCode) (r : SessionRow) : Prop :=
  p.code = code ∧ p.nasIP = r.nasIP ∧ p.sessionID = r.sessionID
  deriving Decidable

/-- What one run of a task sends. -/
def sentBy {α : Type} (w : CommandEnv) (task : CommandProg α) (net : Network) (live : Table LiveSession) :
    List ControlPacket :=
  (Prog.run commandExec w task (net, ⟨[], live⟩)).2.2.sent

/-- Every packet ends the session `s`, at a NAS where it is open. -/
def EndsOnly (s : String) (net : Network) (sent : List ControlPacket) : Prop :=
  ∀ p ∈ sent, ∃ r ∈ net.sessions, r.OpenAs s ∧ p.Names .disconnectRequest r
  deriving Decidable

/-- A worker that is answered, with the rows in this order. -/
def CommandEnv.answered (order : { f : List ℤ → List ℤ // ∀ ids, (f ids).Perm ids }) (now : Time) :
    CommandEnv where
  net := { NetEnv.at now with order := order }
  reply := fun _ => .ack
  liveFails := false

/-- What one run of a task may do: it names no more than one of the latest sessions, one that it is
    able to name, and has done so if it was acknowledged. -/
structure OneSession (prog : CommandProg (Option TaskErr)) (code : ControlCode) (net : Network) (id : ℤ)
    (able : SessionRow → Prop) : Prop where
  sends : ∀ w ctl, ∃ err new live,
    Prog.run commandExec w prog (net, ctl) = (err, net, ⟨ctl.sent ++ new, live⟩) ∧
      (∀ p ∈ new, ∃ r ∈ latest (openSessions net id), able r ∧ p.Names code r) ∧
      (err = none → ∃ p, p ∈ new)
  may : ∀ r ∈ latest (openSessions net id), able r → ∃ w, ∀ ctl, ∃ new live,
    Prog.run commandExec w prog (net, ctl) = (none, net, ⟨ctl.sent ++ new, live⟩) ∧
      ∀ p ∈ new, p.Names code r

theorem foundSession_ok {w : CommandEnv} {id : ℤ} {sess : NASSession} (h : foundSession w net id = .ok sess) :
    GetSubscriberNASSession w.net.order.1 w.net.now id net = .ok sess := by
  rw [foundSession] at h
  split at h
  · cases h
  · exact h

theorem oneSession_of_tries {prog : CommandProg (Option TaskErr)} {code : ControlCode} {id : ℤ}
    {able : SessionRow → Prop} {packet : NASSession → Option ControlPacket}
    (hable : ∀ r, able r ↔ ∃ now sub q p, net.directory.subscribers.lookup id = some sub ∧
      net.directory.plans.lookup sub.planID = some q ∧
      packet ⟨r.nasIP, r.sessionID, sessionRate now sub q, sub.planID⟩ = some p)
    (hnames : ∀ sess p, packet sess = some p →
      p.code = code ∧ p.nasIP = sess.nasIP ∧ p.sessionID = sess.sessionID)
    (htries : ∀ w ctl, Tries w net ctl (foundSession w net id) packet (run commandExec w prog (net, ctl))) :
    OneSession prog code net id able where
  sends w ctl := by
    have hrun := htries w ctl
    generalize run commandExec w prog (net, ctl) = out at hrun
    cases hrun with
    | refused err => exact ⟨some err, [], ctl.live, by rw [append_nil], nofun, nofun⟩
    | tried sess p err live hfound hp herr =>
      obtain ⟨sub, q, r, hsub, hq, hr, rfl⟩ := getSubscriberNASSession_ok (foundSession_ok hfound)
      have hr' := (hable r).mpr ⟨w.net.now, sub, q, p, hsub, hq, hp⟩
      rw [ControlState.tried]
      split
      · rename_i hunsent
        refine ⟨err, [], live, by rw [append_nil], nofun, fun hnone => ?_⟩
        cases hunsent.symm.trans (herr.mp hnone)
      · refine ⟨err, [p], live, rfl, fun x hx => ⟨r, hr, hr', ?_⟩, fun _ => ⟨p, .head _⟩⟩
        rw [mem_singleton.mp hx]
        exact hnames _ _ hp
  may r hr h := by
    obtain ⟨now, sub, q, p, hsub, hq, hp⟩ := (hable r).mp h
    obtain ⟨order, horder⟩ := exists_getSubscriberNASSession hsub hq hr now
    have hfound : foundSession (.answered order now) net id = .ok _ := horder
    refine ⟨.answered order now, fun ctl => ?_⟩
    have hrun := htries (.answered order now) ctl
    generalize run commandExec (.answered order now) prog (net, ctl) = out at hrun
    cases hrun with
    | refused err hnone => cases hp.symm.trans (hnone _ hfound)
    | tried sess p' err live hfound' hp' herr =>
      cases hfound.symm.trans hfound'
      cases hp.symm.trans hp'
      obtain rfl := herr.mpr rfl
      refine ⟨[p], live, rfl, fun x hx => ?_⟩
      rw [mem_singleton.mp hx]
      exact hnames _ _ hp

theorem disconnect_oneSession (h : CommandHandler) {id : ℤ} (hrefs : net.directory.Refers id) :
    OneSession (disconnect h ⟨id, "", ""⟩) .disconnectRequest net id fun _ => True := by
  obtain ⟨sub, hsub, q, hq⟩ := hrefs
  refine oneSession_of_tries (fun r => iff_of_true trivial ⟨0, sub, q, _, hsub, hq, rfl⟩) ?_ fun w ctl =>
    disconnect_tries w h (p := ⟨id, "", ""⟩) (by simp [direct]) net ctl
  rintro sess p ⟨⟩
  exact ⟨rfl, rfl, rfl⟩

/-- A PoD task for a subscriber ends no other session than `s` exactly if no other is among the latest
    of those that are open. -/
theorem disconnect_endsOnly_iff (h : CommandHandler) {id : ℤ} (hrefs : net.directory.Refers id) (s : String) :
    (∀ w live, EndsOnly s net (sentBy w (disconnect h ⟨id, "", ""⟩) net live)) ↔
      ∀ r ∈ latest (openSessions net id), r.sessionID = s := by
  have hone := disconnect_oneSession h hrefs
  constructor
  · intro hends r hr
    obtain ⟨w, hw⟩ := hone.may r hr trivial
    obtain ⟨new, live, hrun, hnames⟩ := hw ⟨[], ∅⟩
    obtain ⟨err, new', live', hrun', -, hsome⟩ := hone.sends w ⟨[], ∅⟩
    cases hrun.symm.trans hrun'
    obtain ⟨p, hp⟩ := hsome rfl
    obtain ⟨r', -, hopen, -, -, hsess⟩ := hends w ∅ p (by rw [sentBy, hrun]; exact hp)
    rw [← (hnames p hp).2.2, hsess, hopen.1]
  · intro hlatest w live p hp
    obtain ⟨err, new, live', hrun, hnames, -⟩ := hone.sends w ⟨[], live⟩
    rw [sentBy, hrun] at hp
    obtain ⟨r, hr, -, hpr⟩ := hnames p hp
    obtain ⟨hmem, hopen, -⟩ := mem_openSessions.mp (mem_of_latest hr)
    exact ⟨r, hmem, ⟨hlatest r hr, hopen⟩, hpr⟩

/-- An accepted disconnect, and any records after it: the task that was queued ends no other session
    than the one that was asked for exactly if, when it runs, no other is among the latest open
    sessions of the subscriber. -/
theorem accepted_disconnect_endsOnly_iff {json : Decoder} (hjson : json.Faithful) {configured : Bool}
    {s status : String} {e : ScanEnv} {q q' : QueueDB} {net net' : Network}
    (hreq : Prog.run scanExec e (Api.Handler.DisconnectSession configured s) (q, net) =
      (.accepted status, q', net'))
    (hrefs : ∀ r ∈ net.sessions, net.directory.Refers r.subscriberID) :
    ∃ task sub, q'.tasks.lookup (q.tasks.last + 1) = some task ∧ task.taskType = TaskTypePoD ∧
      (∃ r ∈ net.sessions, r.OpenAs s ∧ r.subscriberID = sub) ∧
      ∀ (d : Daemon) (traffic : Traffic) (h : CommandHandler),
        (∀ w live, EndsOnly s (d.serve net' traffic)
          (sentBy w (PoDHandler.ProcessTask json h task.payload) (d.serve net' traffic) live)) ↔
        ∀ r ∈ latest (openSessions (d.serve net' traffic) sub), r.sessionID = s := by
  obtain ⟨sub, task, hsub, htask, htype, hpayload, rfl⟩ := disconnectSession_accepted hreq
  refine ⟨task, sub, htask, htype, hsub, fun d traffic h => ?_⟩
  have hprog : ProcessTask json h task.payload = disconnect h ⟨sub, "", ""⟩ := by
    rw [ProcessTask, hpayload, hjson.pod_marshal]
  have hdir : (d.serve net' traffic).directory.Refers sub := by
    obtain ⟨r, hr, -, rfl⟩ := hsub
    rw [serve_directory]
    exact hrefs r hr
  rw [hprog]
  exact disconnect_endsOnly_iff h hdir s

/-! ### A decoder

    All that these results need of `json.Unmarshal` is that it finds the subscriber. Reading the number
    behind the first colon is enough for that. -/

theorem bytes_utf8 (s : String) : String.fromUTF8? ⟨(bytes s).toArray⟩ = some s := by
  exact dif_pos s.isValidUTF8

/-- The number at the front. -/
def leadingInt (cs : List Char) : ℤ :=
  if cs.head? = some '-' then -(ofDigitChars 10 (cs.tail.takeWhile Char.isDigit) 0)
  else ofDigitChars 10 (cs.takeWhile Char.isDigit) 0

theorem leadingInt_repr (n : ℤ) {c : Char} (hc : c.isDigit = false) (rest : List Char) :
    leadingInt (n.repr.toList ++ c :: rest) = n := by
  have hdigit : ∀ m : ℕ, ∀ x ∈ toDigits 10 m, x.isDigit = true := fun m x =>
    isDigit_of_mem_toDigits (by decide) (by decide)
  have hvalue : ∀ m : ℕ,
      ofDigitChars 10 ((toDigits 10 m ++ c :: rest).takeWhile Char.isDigit) 0 = m := by
    intro m
    rw [takeWhile_append_of_pos (hdigit m), takeWhile_cons_of_neg (by simp [hc]), append_nil]
    exact ofDigitChars_toDigits (by decide) (by decide)
  cases n with
  | ofNat m =>
    have htext : (Int.ofNat m).repr.toList = toDigits 10 m := toList_repr
    have hsign : (toDigits 10 m ++ c :: rest).head? ≠ some '-' := by
      cases hdigits : toDigits 10 m with
      | nil => exact absurd hdigits toDigits_ne_nil
      | cons x xs =>
        have hx := hdigit m x (hdigits ▸ mem_cons_self)
        rintro ⟨⟩
        exact absurd hx (by decide)
    rw [htext, leadingInt, if_neg hsign, hvalue]
    rfl
  | negSucc m =>
    have htext : (Int.negSucc m).repr.toList = '-' :: toDigits 10 (m + 1) := by
      show ("-" ++ (m + 1).repr).toList = _
      simp
    rw [htext, leadingInt, cons_append, List.head?_cons, tail_cons, hvalue]
    rfl

/-- The number behind the first colon. -/
def readID (b : List UInt8) : ℤ :=
  match String.fromUTF8? ⟨b.toArray⟩ with
  | none => 0
  | some s => leadingInt ((s.toList.dropWhile (· ≠ ':')).drop 1)

/-- A payload that starts with the subscriber. -/
theorem readID_key {id : ℤ} (c : Char) (rest : List Char) (hc : c.isDigit = false)
    (hs : s.toList = "\x7b\"subscriber_id\":".toList ++ (id.repr.toList ++ c :: rest)) : readID (bytes s) = id := by
  have hkey : "\x7b\"subscriber_id\":".toList = "\x7b\"subscriber_id\"".toList ++ [':'] := by decide +kernel
  have hbefore : ∀ x ∈ "\x7b\"subscriber_id\"".toList, decide (x ≠ ':') = true :=
    all_eq_true.mp (by decide +kernel)
  have hdrop : s.toList.dropWhile (· ≠ ':') = ':' :: (id.repr.toList ++ c :: rest) := by
    rw [hs, hkey, append_assoc, dropWhile_append_of_pos hbefore]
    exact dropWhile_cons_of_neg (by decide)
  rw [readID, bytes_utf8]
  simp only [hdrop, drop_one, tail_cons]
  exact leadingInt_repr id hc rest

theorem readID_coaPayload (id : ℤ) (nasIP : String) : readID (coaPayload id nasIP) = id := by
  have hsep : ",\"nas_ip\":\"".toList = ',' :: "\"nas_ip\":\"".toList := by decide +kernel
  refine readID_key ',' ("\"nas_ip\":\"" ++ nasIP ++ "\"\x7d").toList (by decide) ?_
  simp only [String.toList_append, append_assoc, hsep, cons_append]

theorem readID_coaMarshal (p : CoAPayload) : readID p.marshal = p.subscriberID := by
  have hsep : ",\"nas_ip\":".toList = ',' :: "\"nas_ip\":".toList := by decide +kernel
  refine readID_key ',' ("\"nas_ip\":" ++ quoted jsonChar p.nasIP ++ "\x7d").toList (by decide) ?_
  simp only [String.toList_append, append_assoc, hsep, cons_append]

def idReader : Decoder where
  coa b := some ⟨readID b, ""⟩
  pod b := some ⟨readID b, "", ""⟩

theorem idReader_faithful : idReader.Faithful where
  coa id nasIP _ := by rw [idReader, Option.map_some, readID_coaPayload]
  coa_marshal p := by rw [idReader, Option.map_some, readID_coaMarshal]
  pod_marshal id := by
    have hid : readID (marshal ⟨id, "", ""⟩) = id := by
      by_cases h : id = 0
      · subst h
        decide +kernel
      · refine readID_key '\x7d' [] (by decide) ?_
        have hone : ∀ t : String, String.intercalate "," [t] = t := fun _ => rfl
        simp [h, hone]
    simp [idReader, hid]

/-! ### Two sessions of one subscriber -/

/-- Two subscribers with these sessions. -/
def online (sessions : List SessionRow) : Network := { twoSubscribers with sessions := sessions }

def firstSession : SessionRow := newSession 1 "sess-1" "10.0.0.1" "" "" 0

def secondSession : SessionRow := newSession 1 "sess-2" "10.0.0.2" "" "" 5

/-- A handler without a resolver. -/
def plainHandler : CommandHandler := ⟨[], DefaultCoAPort, none, false⟩

/-- The queue after a disconnect of the first session was asked for. -/
def afterDisconnect (sessions : List SessionRow) : Api.Reply × QueueDB × Network :=
  Prog.run scanExec calm (Api.Handler.DisconnectSession true "sess-1") (.empty 0, online sessions)

theorem only_session_is_ended : ∃ task,
    (afterDisconnect [firstSession]).2.1.tasks.lookup 1 = some task ∧
    ∀ w live, EndsOnly "sess-1" (online [firstSession])
      (sentBy w (PoDHandler.ProcessTask idReader plainHandler task.payload)
        (online [firstSession]) live) := by
  have hrefs : ∀ r ∈ (online [firstSession]).sessions,
      (online [firstSession]).directory.Refers r.subscriberID := by
    intro r hr
    obtain rfl := mem_singleton.mp hr
    exact ⟨_, rfl, _, rfl⟩
  have hreq : afterDisconnect [firstSession] = (.accepted "pod_enqueued",
    (afterDisconnect [firstSession]).2.1, online [firstSession]) := rfl
  obtain ⟨task, sub, htask, -, -, hiff⟩ := accepted_disconnect_endsOnly_iff idReader_faithful hreq hrefs
  refine ⟨task, htask, (hiff fullDaemon [] plainHandler).mpr fun r hr => ?_⟩
  have hmem := (mem_openSessions.mp (mem_of_latest hr)).1
  rw [mem_singleton.mp hmem]
  rfl

/-- The first session is asked for, and the second is ended. -/
theorem later_session_is_ended :
    (afterDisconnect [firstSession, secondSession]).1 = .accepted "pod_enqueued" ∧
    ((afterDisconnect [firstSession, secondSession]).2.1.tasks.lookup 1).map (fun task =>
      (sentBy (.answered ⟨id, fun _ => .refl _⟩ 9) (PoDHandler.ProcessTask idReader plainHandler task.payload)
        (online [firstSession, secondSession]) ∅).map fun p => (p.code, p.nasIP, p.sessionID)) =
      some [(.disconnectRequest, "10.0.0.2", "sess-2")] := by
  decide +kernel

end IspBss.Fup
