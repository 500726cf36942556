import IspBss.Cache.Subscriber
import IspBss.Props.Attribution
import IspBss.Props.RatePushes

/-! Does a session end up with the rate of its subscriber?

    Two channels set the rate of a session, and nothing sends it a second time:

        accept   a new session, from the cache       up to one TTL old
        CoA      the open session, from the row      after every change that queues a task

    A CoA that comes after a stale accept repairs it. The other way round the stale rate stays: once
    the CoA is done, a session that reconnects within the TTL is given the rate of before.

        change ─▶ CoA ─▶ reconnect (cache) ─▶ …            wrong until somebody changes something

    Two more ways lead there: an override that runs out changes the rate without a write, and a plan
    change tells only those whom `live_sessions` shows. -/

namespace IspBss

open Lib Handler Option Prog Fup Cache Run

/-- `subscribers` and `plans`: the rate of a subscriber. -/
def Radius.Network.effectiveRate (net : Radius.Network) (id : ℤ) (now : Time) : Option String := do
  let sub ← net.directory.subscribers.lookup id
  let p ← net.directory.plans.lookup sub.planID
  return Radius.dueRate now sub p

/-- The columns that determine it. -/
def Radius.Network.rateColumns (net : Radius.Network) (id : ℤ) :
    Option (ℤ × Bool × Option String × Option Time) :=
  (net.directory.subscribers.lookup id).map fun sub =>
    (sub.planID, sub.fupActive, sub.speedOverrideRateLimit, sub.speedOverrideExpiresAt)

/-- The fields an accept takes the rate from. -/
structure Radius.RateFields where
  id : ℤ
  rateLimitStr : String
  fupActive : Bool
  fupThrottle : String
  speedOverrideRateLimit : String
  speedOverrideExpiresAt : Option Time
  deriving DecidableEq

def Radius.Subscriber.rateFields (sub : Radius.Subscriber) : Radius.RateFields :=
  ⟨sub.id, sub.rateLimitStr, sub.fupActive, sub.fupThrottle, sub.speedOverrideRateLimit,
    sub.speedOverrideExpiresAt⟩

/-- The open session of the subscriber is over. -/
def Radius.Network.hungUp (net : Radius.Network) (id : ℤ) (now : Time) : Radius.Network :=
  { net with sessions := net.sessions.map fun r =>
      if r.IsOpen ∧ r.subscriberID = id then { r with stopTime := some now } else r }

/-- And another one is open in its place. -/
def Radius.Network.reconnected (net : Radius.Network) (id : ℤ) (sessionID nasIP : String) (now : Time) :
    Radius.Network :=
  { net.hungUp id now with sessions :=
      (net.hungUp id now).sessions ++ [Radius.newSession id sessionID nasIP "" "" now] }

/-! ### The run -/

/-- The tables and the cache. Of the subscriber: how many CoA tasks wait, the rate that the open
    session was sent last, and when its columns were last changed. -/
structure RateWorld where
  now : Time
  db : DB
  queue : Jobqueue.QueueDB
  net : Radius.Network
  store : SubscriberStore
  waiting : ℕ
  sent : Option String
  changed : Time

inductive RateEvent where
  | planChange (e : ApiEnv) (live : Table LiveSession) (newPlanID : ℤ)
  | speedOverride (e : ScanEnv) (configured : Bool) (target : Option ℤ)
      (body : Except String Api.Handler.SpeedOverrideRequest)
  | clearSpeedOverride (e : ScanEnv) (configured : Bool) (target : Option ℤ)
  | fupOverride (e : ScanEnv) (configured : Bool) (sessionID : String) (body : Except String String)
  | scan (e : ScanEnv)
  | coa (w : CommandEnv)
  | reconnect (e : Radius.NetEnv) (r : Radius.AccessRequest) (sessionID nasIP : String)
  | disconnect (now : Time)
  | tick (now : Time)

def RateEvent.time : RateEvent → Time
  | planChange e _ _ => e.db.now
  | speedOverride e _ _ _ | clearSpeedOverride e _ _ | fupOverride e _ _ _ | scan e => e.net.now
  | coa w => w.net.now
  | reconnect e _ _ _ => e.now
  | disconnect now | tick now => now

/-- A CoA for the subscriber. -/
def Task.pushesRate (id : ℤ) (task : Task) : Bool :=
  match task.payload with
  | .coa subscriberID _ => subscriberID = id
  | _ => false

section
variable (c : SubscriberCache) (h : CommandHandler) (id : ℤ)

namespace RateWorld

/-- A program of the scanner or the API has run. -/
def scanned {α : Type} (s : RateWorld) (e : ScanEnv) (p : ScanProg α) : RateWorld :=
  let out := (Prog.run scanExec e p (s.queue, s.net)).2
  { s with now := e.net.now, queue := out.1, net := out.2,
           waiting := s.waiting + (coaTasks idReader id (queuedSince s.queue out.1)).length }

variable (s : RateWorld)

def planChanged (e : ApiEnv) (live : Table LiveSession) (newPlanID : ℤ) : RateWorld :=
  let db' := (Prog.run apiExec e (Handler.changePlanOnline id newPlanID) (s.db, live)).2.1
  { s with now := e.db.now, db := db', net := { s.net with directory := s.net.directory.follow db' },
           waiting := s.waiting + (newTasks s.db db').countP (Task.pushesRate id) }

/-- One of the tasks that wait is run; if it ends without an error it no longer waits. -/
def served (w : CommandEnv) : RateWorld :=
  if s.waiting = 0 then { s with now := w.net.now }
  else
    let out := Prog.run commandExec w (CoAHandler.push h id) (s.net, ⟨[], ∅⟩)
    let rate := match foundSession w s.net id with
      | .ok sess => some sess.rateLimit
      | .error _ => s.sent
    { s with now := w.net.now, net := out.2.1,
             sent := if out.2.2.sent = [] then s.sent else rate,
             waiting := if out.1 = none then s.waiting - 1 else s.waiting }

/-- The subscriber asks for a new session. -/
def dialed (e : Radius.NetEnv) (r : Radius.AccessRequest)
    (sessionID nasIP : String) : RateWorld :=
  let out := Prog.run c.cachedExec e (Radius.Daemon.handlePAP r) (s.net, s.store)
  let s' := { s with now := e.now, net := out.2.1, store := out.2.2 }
  match out.1 with
  | .accept sub =>
    if sub.id = id then
      { s' with net := out.2.1.reconnected id sessionID nasIP e.now,
                sent := some (Radius.effectiveRateLimit e.now sub) }
    else s'
  | _ => s'

def move : RateEvent → RateWorld
  | .planChange e live newPlanID => s.planChanged id e live newPlanID
  | .speedOverride e configured target body =>
    s.scanned id e (Api.Handler.SpeedOverride configured target body)
  | .clearSpeedOverride e configured target =>
    s.scanned id e (Api.Handler.ClearSpeedOverride configured target)
  | .fupOverride e configured sessionID body =>
    s.scanned id e (Api.Handler.FUPOverride configured sessionID body)
  | .scan e => s.scanned id e Scanner.scan
  | .coa w => s.served h id w
  | .reconnect e r sessionID nasIP => s.dialed c id e r sessionID nasIP
  | .disconnect now => { s with now := now, net := s.net.hungUp id now, sent := none }
  | .tick now => { s with now := now }

def step (x : RateEvent) : RateWorld :=
  let s' := s.move c h id x
  { s' with changed := if s'.net.rateColumns id = s.net.rateColumns id then s.changed else x.time }

/-- With no CoA waiting, and one TTL after the last change, the session has been sent the rate of the
    row. -/
def Converged : Prop :=
  s.waiting = 0 → s.changed + c.ttl < s.now → ∀ rate ∈ s.sent, s.net.effectiveRate id s.now = some rate

/-! ### What it takes -/

/-- A session is open and no CoA waits. -/
def Idle : Prop := s.waiting = 0 ∧ s.sent.isSome = true
  deriving Decidable

/-- No override of the subscriber runs out before `t`. -/
def Lasts (t : Time) : Prop :=
  ∀ sub ∈ s.net.directory.subscribers.lookup id, ∀ x ∈ sub.speedOverrideExpiresAt, s.now < x → t < x
  deriving Decidable

/-- What the cache still has under the name is what the row says. -/
def Fresh (t : Time) (username : String) : Prop :=
  ∀ entry ∈ s.store.Get t (SubscriberCacheKey username),
    entry.subscriber.map Radius.Subscriber.rateFields =
      (s.net.directory.GetSubscriberByUsername username).map Radius.Subscriber.rateFields
  deriving Decidable

/-- `live_sessions` shows the subscriber online, and the CoA can be queued. -/
def SeenOnline (e : ApiEnv) (live : Table LiveSession) : Prop :=
  e.liveFails = false ∧ ∃ sess ∈ SessionStore.get id e.db.now live,
    e.db.fails (.enqueue (Handler.netCommand (.coa id sess.nasIP))) = false
  deriving Decidable

/-- While a session is open and no CoA waits, no override runs out but to a scan that clears it, and a
    change finds the queue, and a plan change the session; and while none waits, a new session is not
    given a rate of before. -/
def Kept (s : RateWorld) : RateEvent → Prop
  | .planChange e live _ => s.Idle → s.Lasts id e.db.now ∧ SeenOnline id e live
  | .speedOverride e _ _ _ | .clearSpeedOverride e _ _ | .fupOverride e _ _ _ =>
    s.Idle → s.Lasts id e.net.now ∧ e.queue.fails = false
  | .scan e => s.Idle → e.queue.fails = false ∧ (s.Lasts id e.net.now ∨ Clears e id)
  | .reconnect e r _ _ => s.waiting = 0 → (s.sent.isSome = true → s.Lasts id e.now) ∧ s.Fresh e.now r.userName
  | .coa w => s.Idle → s.Lasts id w.net.now
  | .disconnect _ => True
  | .tick now => s.Idle → s.Lasts id now

/-- The two views of the row agree, its override is not empty, and with no CoA waiting the session has
    been sent the rate of the row. -/
structure InStep (s : RateWorld) : Prop where
  follows : ∀ sub, s.net.directory.subscribers.lookup id = some sub → sub.follow s.db id = sub
  nonempty : ∀ sub, s.net.directory.subscribers.lookup id = some sub → sub.speedOverrideRateLimit ≠ some ""
  rate : s.waiting = 0 → ∀ rate ∈ s.sent, s.net.effectiveRate id s.now = some rate

end RateWorld

end

/-! ### The rate of a row -/

section
variable {id : ℤ}

theorem effectiveRate_congr (net net' : Radius.Network)
    (hrow : net'.directory.subscribers.lookup id = net.directory.subscribers.lookup id)
    (hplans : net'.directory.plans = net.directory.plans) (now : Time) :
    net'.effectiveRate id now = net.effectiveRate id now := by
  rw [Radius.Network.effectiveRate, hrow, hplans, Radius.Network.effectiveRate]

variable {net : Radius.Network} {now : Time} {sub : Radius.Profile} {t : Time} {x : Radius.Subscriber}

theorem effectiveRate_eq {p : Radius.RatePlan} (hsub : net.directory.subscribers.lookup id = some sub)
    (hp : net.directory.plans.lookup sub.planID = some p) :
    net.effectiveRate id now = some (Radius.dueRate now sub p) := by
  simp only [Radius.Network.effectiveRate, hsub, bind_eq_bind, bind_some, hp]
  rfl

theorem overrideInForce_lasts (hle : now ≤ t) (h : ∀ x ∈ sub.speedOverrideExpiresAt, now < x → t < x) :
    Radius.overrideInForce t sub = Radius.overrideInForce now sub := by
  rw [Radius.overrideInForce, Radius.overrideInForce]
  cases hx : sub.speedOverrideExpiresAt with
  | none => rfl
  | some x =>
    have hiff : t < x ↔ now < x := ⟨hle.trans_lt, h x hx⟩
    simp only [all_some, hiff]

/-- Time alone changes nothing as long as no override runs out. -/
theorem effectiveRate_lasts {s : RateWorld} (hle : s.now ≤ t) (h : s.Lasts id t) :
    s.net.effectiveRate id t = s.net.effectiveRate id s.now := by
  rw [Radius.Network.effectiveRate, Radius.Network.effectiveRate]
  cases hsub : s.net.directory.subscribers.lookup id with
  | none => rfl
  | some sub =>
    have hforce := overrideInForce_lasts hle (h sub hsub)
    simp only [bind_eq_bind, bind_some, Radius.dueRate, hforce]

/-- A CoA carries it. -/
theorem effectiveRate_of_found {w : CommandEnv} {sess : Radius.NASSession}
    (h : foundSession w net id = .ok sess) : net.effectiveRate id w.net.now = some sess.rateLimit := by
  obtain ⟨sub, p, r, hsub, hp, -, rfl⟩ := getSubscriberNASSession_ok (foundSession_ok h)
  rw [effectiveRate_eq hsub hp, Radius.sessionRate_eq_dueRate]

theorem effectiveRateLimit_congr {y : Radius.Subscriber} (h : x.rateFields = y.rateFields) (now : Time) :
    Radius.effectiveRateLimit now x = Radius.effectiveRateLimit now y := by
  simp only [Radius.Subscriber.rateFields, Radius.RateFields.mk.injEq] at h
  obtain ⟨-, hrate, hactive, hthrottle, hoverride, hexpires⟩ := h
  simp only [Radius.effectiveRateLimit, hrate, hactive, hthrottle, hoverride, hexpires]

/-- And so does an accept from the row, unless an empty override is stored. -/
theorem effectiveRate_of_row {username : String}
    (hx : net.directory.GetSubscriberByUsername username = some x) (hid : x.id = id)
    (hnonempty : ∀ sub, net.directory.subscribers.lookup id = some sub →
      sub.speedOverrideRateLimit ≠ some "") :
    net.effectiveRate id now = some (Radius.effectiveRateLimit now x) := by
  obtain ⟨id', sub, p, hsub, hp, rfl⟩ := Radius.getSubscriberByUsername_eq_some hx
  obtain rfl : id' = id := hid
  have hkept : (Radius.overrideInForce now sub).filter (· ≠ "") = Radius.overrideInForce now sub := by
    cases hforce : Radius.overrideInForce now sub with
    | none => rfl
    | some rate =>
      obtain ⟨hstored, -⟩ := filter_eq_some_iff.mp hforce
      have hrate : rate ≠ "" := by
        rintro rfl
        exact hnonempty sub hsub hstored
      simp [filter_some, hrate]
  rw [effectiveRate_eq hsub hp, Radius.effectiveRateLimit_joined, hkept, Radius.dueRate]

end

/-! ### The scanner and the API -/

section
variable {c : SubscriberCache} {h : CommandHandler} {id : ℤ} {s : RateWorld} {db : DB} {newPlanID : ℤ}
  {live : Table LiveSession} {e : Radius.NetEnv} {r : Radius.AccessRequest}

theorem follow_of_sameTerms {p p' : Radius.Profile} (hp : p.follow db id = p)
    (hterms : SameTerms p p') : p'.follow db id = p' := by
  cases hr : db.subscribers.lookup id with
  | none => simp only [Radius.Profile.follow, hr]
  | some r =>
    simp only [Radius.Profile.follow, hr] at hp ⊢
    have hstatus : r.status = p.status := congrArg Radius.Profile.status hp
    have hplan : r.planID = p.planID := congrArg Radius.Profile.planID hp
    rw [hstatus, hplan, ← hterms.status, ← hterms.planID]

theorem waiting_of_pushed {q q' : Jobqueue.QueueDB} (hpushed : Pushed id q q') :
    (coaTasks idReader id (queuedSince q q')).length ≠ 0 := by
  obtain ⟨k, row, hk, hrow, htype, hid⟩ := hpushed
  refine (List.length_pos_of_mem (a := row) ?_).ne'
  refine mem_coaTasks.mpr ⟨mem_queuedSince.mpr ⟨k, hk, hrow⟩, htype, ?_⟩
  rw [idReader, map_some, hid]

theorem inStep_scanned {α : Type} {e : ScanEnv} {p : ScanProg α} (hs : s.InStep id)
    (htells : TellsBy id e p) (hclock : s.now ≤ e.net.now) (hidle : s.Idle → e.queue.fails = false ∧
      (s.Lasts id e.net.now ∨ Unspent e.net.now (s.scanned id e p).net id)) : (s.scanned id e p).InStep id := by
  have ht : Tells id e (s.queue, s.net) ((s.scanned id e p).queue, (s.scanned id e p).net) :=
    htells (s.queue, s.net)
  refine ⟨fun sub' hsub' => ?_, fun sub' hsub' hempty => ?_, fun hwaiting rate hrate => ?_⟩
  · obtain ⟨sub, hsub, hterms⟩ := ht.row sub' hsub'
    exact follow_of_sameTerms (hs.follows sub hsub) hterms
  · obtain ⟨sub, hsub, hterms⟩ := ht.row sub' hsub'
    exact hs.nonempty sub hsub (hterms.nonempty hempty)
  · obtain ⟨hzero, hnone⟩ := Nat.add_eq_zero_iff.mp hwaiting
    obtain ⟨hq, htime⟩ := hidle ⟨hzero, isSome_iff_exists.mpr ⟨rate, hrate⟩⟩
    -- nothing was queued, so the row is as it was
    have hrow := (ht.told hq).resolve_right fun hpushed => waiting_of_pushed hpushed hnone
    have hlasts : s.Lasts id e.net.now := by
      rcases htime with hlasts | hunspent
      · exact hlasts
      · intro sub hsub x hx _
        have hfalse := hunspent sub (hrow.trans hsub)
        rw [mem_def] at hx
        simpa [hx] using hfalse
    have hsame := effectiveRate_congr s.net (s.scanned id e p).net hrow ht.plans e.net.now
    exact (hsame.trans (effectiveRate_lasts hclock hlasts)).trans (hs.rate hzero rate hrate)

/-! ### Plan changes -/

theorem setSubscriberPlan_none {t : Time} {db' : DB}
    (hset : APIStore.SetSubscriberPlan id newPlanID t db = .ok (none, db')) : db' = db := by
  rw [APIStore.SetSubscriberPlan, Tx.get_bind_ok] at hset
  cases hl : db.subscribers.lookup id with
  | none =>
    simp only [hl, Tx.pure_ok] at hset
    cases hset
    rfl
  | some r =>
    simp only [hl, Tx.require_bind_ok] at hset
    obtain ⟨hit, s₁, hupd, hr⟩ := Tx.bind_ok.mp hset.2
    rw [Tx.get_bind_ok, Tx.pure_ok, Prod.mk.injEq] at hr
    -- the row that was written is there
    rcases updateWhereID_ok hupd with ⟨-, -, hnone⟩ | ⟨-, r, r', -, -, rfl⟩
    · rw [hl] at hnone
      cases hnone
    · rw [DB.lookup_setRow] at hr
      cases hr.1

/-- A plan change that fails has written nothing. -/
theorem changeSubscriberPlan_cases (id newPlanID : ℤ) (e : Env) (db : DB) :
    (∃ updated db', run exec e (changeSubscriberPlan id newPlanID) db = (.ok updated, db')) ∨
      ∃ err, run exec e (changeSubscriberPlan id newPlanID) db = (.error err, db) := by
  have hcall : ∀ {op : Op} {α : Type} (k : Except StoreErr op.Result → Service α) (db : DB),
      run exec e (IspBss.db op >>= k) db =
        run exec e (k (exec e (.db op) db).1) (exec e (.db op) db).2 := fun _ _ => rfl
  rw [changeSubscriberPlan, hcall]
  rcases exec_db_cases e (.getPlanChangeInfo id newPlanID) db with
    ⟨err, hx⟩ | ⟨info, db', htx, hx, -⟩
  · rw [hx]
    cases err <;> exact .inr ⟨_, rfl⟩
  · obtain rfl : db' = db := GetPlanChangeInfo_ok htx
    rw [hx]
    cases info with
    | none => exact .inr ⟨_, rfl⟩
    | some info =>
      have hclock : ∀ {α : Type} (k : Time → Service α), run exec e (timeNow >>= k) db' =
        run exec e (k e.now) db' := fun _ => rfl
      rw [hclock, hcall]
      rcases exec_db_cases e
        (.setSubscriberPlan id newPlanID (computePlanChangeExpiry info e.now)) db' with
        ⟨err, hx⟩ | ⟨updated, db'', htx, hx, -⟩
      · rw [hx]
        exact .inr ⟨_, rfl⟩
      · rw [hx]
        cases updated with
        | none =>
          obtain rfl := setSubscriberPlan_none htx
          exact .inr ⟨_, rfl⟩
        | some updated => exact .inl ⟨updated, db'', rfl⟩

theorem changePlanOnline_error {e : ApiEnv} {err : PlanChangeErr}
    (herr : (run apiExec e (changePlanOnline id newPlanID) (db, live)).1 = .error err) :
    (run apiExec e (changePlanOnline id newPlanID) (db, live)).2.1 = db := by
  rw [changePlanOnline, followedBy, Prog.run_bind, run_left_db] at herr ⊢
  rcases changeSubscriberPlan_cases id newPlanID e.db db with ⟨updated, db', hrun⟩ | ⟨err', hrun⟩
  · rw [hrun] at herr
    rw [Prog.run_bind] at herr
    cases herr
  · rw [hrun]
    rfl

theorem lookup_follow (dir : Radius.Directory) (db : DB) :
    (dir.follow db).subscribers.lookup id = (dir.subscribers.lookup id).map (Radius.Profile.follow db id) :=
  Rows.lookup_update _ _ _

theorem follow_follow (db : DB) (p : Radius.Profile) : (p.follow db id).follow db id = p.follow db id := by
  unfold Radius.Profile.follow
  cases db.subscribers.lookup id <;> rfl

theorem inStep_planChanged {e : ApiEnv} (newPlanID : ℤ) (hs : s.InStep id) (hclock : s.now ≤ e.db.now)
    (hidle : s.Idle → s.Lasts id e.db.now ∧ RateWorld.SeenOnline id e live) :
    (s.planChanged id e live newPlanID).InStep id := by
  refine ⟨fun sub' hsub' => ?_, fun sub' hsub' hempty => ?_, fun hwaiting rate hrate => ?_⟩
  · obtain ⟨sub, -, rfl⟩ := map_eq_some_iff.mp ((lookup_follow _ _).symm.trans hsub')
    exact follow_follow _ sub
  · obtain ⟨sub, hsub, rfl⟩ := map_eq_some_iff.mp ((lookup_follow _ _).symm.trans hsub')
    refine hs.nonempty sub hsub ?_
    unfold Radius.Profile.follow at hempty
    split at hempty <;> exact hempty
  · obtain ⟨hzero, hnone⟩ := Nat.add_eq_zero_iff.mp hwaiting
    obtain ⟨hlasts, hreads, sess, hsess, hf⟩ := hidle ⟨hzero, isSome_iff_exists.mpr ⟨rate, hrate⟩⟩
    cases hres : (run apiExec e (changePlanOnline id newPlanID) (s.db, live)).1 with
    | ok updated =>
      -- the CoA is on its way
      rw [changePlanOnline_newTasks hsess hreads hf hres] at hnone
      simp [Task.pushesRate, netCommand] at hnone
    | error err =>
      have hdb := changePlanOnline_error hres
      have hrow : (s.net.directory.follow s.db).subscribers.lookup id =
          s.net.directory.subscribers.lookup id := by
        rw [lookup_follow]
        cases hsub : s.net.directory.subscribers.lookup id with
        | none => rfl
        | some sub => rw [map_some, hs.follows sub hsub]
      have hsame : (s.planChanged id e live newPlanID).net.effectiveRate id e.db.now =
          s.net.effectiveRate id e.db.now := by
        rw [RateWorld.planChanged, hdb]
        exact effectiveRate_congr s.net
          { s.net with directory := s.net.directory.follow s.db } hrow rfl e.db.now
      exact (hsame.trans (effectiveRate_lasts hclock hlasts)).trans (hs.rate hzero rate hrate)

/-! ### CoA tasks -/

/-- A push leaves the tables, and one that ends without an error has sent the rate it has found. -/
theorem push_spec (h : CommandHandler) (id : ℤ) (w : CommandEnv) (net : Radius.Network) :
    ∃ err sent live, run commandExec w (CoAHandler.push h id) (net, ⟨[], ∅⟩) =
        (err, net, ⟨sent, live⟩) ∧
      (err = none → sent ≠ [] ∧ ∃ sess, foundSession w net id = .ok sess) := by
  have hrun := push_tries w h id net ⟨[], ∅⟩
  generalize run commandExec w (CoAHandler.push h id) (net, ⟨[], ∅⟩) = out at hrun
  cases hrun with
  | refused err => exact ⟨some err, [], ∅, rfl, nofun⟩
  | tried sess p err live hfound _ herr =>
    refine ⟨err, _, live, rfl, fun hnone => ⟨?_, sess, hfound⟩⟩
    simp [ControlState.tried, herr.mp hnone]

theorem inStep_served (h : CommandHandler) {w : CommandEnv} (hs : s.InStep id)
    (hclock : s.now ≤ w.net.now) (hidle : s.Idle → s.Lasts id w.net.now) : (s.served h id w).InStep id := by
  rw [RateWorld.served]
  by_cases hzero : s.waiting = 0
  · rw [if_pos hzero]
    refine ⟨hs.follows, hs.nonempty, fun _ rate hrate => ?_⟩
    have hlasts := hidle ⟨hzero, isSome_iff_exists.mpr ⟨rate, hrate⟩⟩
    exact (effectiveRate_lasts hclock hlasts).trans (hs.rate hzero rate hrate)
  · obtain ⟨err, sent, live, hrun, hok⟩ := push_spec h id w s.net
    rw [if_neg hzero, hrun]
    refine ⟨hs.follows, hs.nonempty, fun hwaiting rate hrate => ?_⟩
    dsimp only at hwaiting hrate ⊢
    by_cases hnone : err = none
    · obtain ⟨hsent, sess, hfound⟩ := hok hnone
      rw [if_neg hsent, hfound] at hrate
      cases hrate
      exact effectiveRate_of_found hfound
    · rw [if_neg hnone] at hwaiting
      exact absurd hwaiting hzero

/-! ### New sessions -/

theorem cachedExec_reads {call : Radius.NetCall} (hcall : call.Reads) (e : Radius.NetEnv)
    (s : Radius.Network × SubscriberStore) : (c.cachedExec e call s).2.1 = s.1 := by
  obtain ⟨net, store⟩ := s
  cases call with
  | stmt op =>
    cases op with
    | getSubscriberByUsername username => rfl
    | _ => exact hcall e net
  | _ => exact hcall e net

theorem handlePAP_cached (c : SubscriberCache) (e : Radius.NetEnv) (r : Radius.AccessRequest)
    (s : Radius.Network × SubscriberStore) : (run c.cachedExec e (Radius.Daemon.handlePAP r) s).2.1 = s.1 :=
  Prog.Calls.run_inv
    (fun _ s' hc hs => (cachedExec_reads hc e s').trans hs) (Radius.Daemon.handlePAP_reads r) rfl

/-- An accept from a fresh entry, or past the cache, says what the row says. -/
theorem accepted_from_row {sub : Radius.Subscriber} (hfresh : s.Fresh e.now r.userName)
    (haccept : (run c.cachedExec e (Radius.Daemon.handlePAP r) (s.net, s.store)).1 = .accept sub) :
    ∃ x, s.net.directory.GetSubscriberByUsername r.userName = some x ∧ x.rateFields = sub.rateFields := by
  have hfound : (c.GetSubscriberByUsername e r.userName s.net s.store).1 = .ok (some sub) :=
    Radius.Daemon.handlePAP_found haccept
  rw [SubscriberCache.GetSubscriberByUsername] at hfound
  cases hget : s.store.Get e.now (SubscriberCacheKey r.userName) with
  | some entry =>
    rw [hget] at hfound
    have hentry : entry.subscriber = some sub := Except.ok.inj hfound
    have hrow := hfresh entry hget
    rw [hentry] at hrow
    exact map_eq_some_iff.mp hrow.symm
  | none =>
    rw [hget] at hfound
    rw [Radius.Daemon.exec_stmt] at hfound
    cases hf : e.fails (.getSubscriberByUsername r.userName) with
    | true =>
      rw [hf] at hfound
      cases hfound
    | false =>
      rw [hf] at hfound
      exact ⟨sub, Except.ok.inj hfound, rfl⟩

theorem inStep_dialed (sessionID nasIP : String) (hs : s.InStep id) (hclock : s.now ≤ e.now)
    (hkept : s.waiting = 0 → (s.sent.isSome = true → s.Lasts id e.now) ∧ s.Fresh e.now r.userName) :
    (s.dialed c id e r sessionID nasIP).InStep id := by
  have hnet := handlePAP_cached c e r (s.net, s.store)
  have hold : s.waiting = 0 → ∀ rate ∈ s.sent, s.net.effectiveRate id e.now = some rate := by
    intro hzero rate hrate
    have hlasts := (hkept hzero).1 (isSome_iff_exists.mpr ⟨rate, hrate⟩)
    exact (effectiveRate_lasts hclock hlasts).trans (hs.rate hzero rate hrate)
  have hrejected : RateWorld.InStep id { s with
      now := e.now, net := (run c.cachedExec e (Radius.Daemon.handlePAP r) (s.net, s.store)).2.1,
      store := (run c.cachedExec e (Radius.Daemon.handlePAP r) (s.net, s.store)).2.2 } := by
    rw [hnet]
    exact ⟨hs.follows, hs.nonempty, hold⟩
  rw [RateWorld.dialed]
  cases haccept : (run c.cachedExec e (Radius.Daemon.handlePAP r) (s.net, s.store)).1 with
  | reject => exact hrejected
  | eap => exact hrejected
  | accept sub =>
    dsimp only
    split
    · rename_i hid
      rw [hnet]
      refine ⟨hs.follows, hs.nonempty, fun hzero rate hrate => ?_⟩
      cases hrate
      obtain ⟨x, hx, hfields⟩ := accepted_from_row (hkept hzero).2 haccept
      have hx' : x.id = id := (congrArg Radius.RateFields.id hfields).trans hid
      have hrate : s.net.effectiveRate id e.now = _ := effectiveRate_of_row hx hx' hs.nonempty
      rw [← effectiveRateLimit_congr hfields]
      exact hrate
    · exact hrejected

/-! ### Every run -/

theorem inStep_step (c : SubscriberCache) (h : CommandHandler) {x : RateEvent} (hs : s.InStep id)
    (hkept : s.Kept id x) (hclock : s.now ≤ x.time) : (s.step c h id x).InStep id := by
  have hmove : (s.move c h id x).InStep id := by
    cases x with
    | planChange e live newPlanID => exact inStep_planChanged newPlanID hs hclock hkept
    | speedOverride e configured target body =>
      refine inStep_scanned hs (tells_SpeedOverride configured target body) hclock fun hidle => ?_
      exact ⟨(hkept hidle).2, .inl (hkept hidle).1⟩
    | clearSpeedOverride e configured target =>
      refine inStep_scanned hs (tells_ClearSpeedOverride configured target) hclock fun hidle => ?_
      exact ⟨(hkept hidle).2, .inl (hkept hidle).1⟩
    | fupOverride e configured sessionID body =>
      refine inStep_scanned hs (tells_FUPOverride configured sessionID body) hclock fun hidle => ?_
      exact ⟨(hkept hidle).2, .inl (hkept hidle).1⟩
    | scan e =>
      refine inStep_scanned hs tells_scan hclock fun hidle => ⟨(hkept hidle).1, ?_⟩
      exact (hkept hidle).2.imp (fun hlasts => hlasts) fun hclears => scan_unspent hclears _
    | coa w => exact inStep_served h hs hclock hkept
    | reconnect e r sessionID nasIP => exact inStep_dialed sessionID nasIP hs hclock hkept
    | disconnect now => exact ⟨hs.follows, hs.nonempty, fun _ rate hrate => by cases hrate⟩
    | tick now =>
      refine ⟨hs.follows, hs.nonempty, fun hzero rate hrate => ?_⟩
      have hlasts := hkept ⟨hzero, isSome_iff_exists.mpr ⟨rate, hrate⟩⟩
      exact (effectiveRate_lasts hclock hlasts).trans (hs.rate hzero rate hrate)
  exact ⟨hmove.follows, hmove.nonempty, hmove.rate⟩

end

/-- Any plan changes, overrides, scans, CoA tasks and new sessions, at nondecreasing times. If, while a
    session is open and no CoA waits, no override runs out but to a scan that clears it, every change
    can queue its CoA and every plan change sees the session, and if no new session is then given the
    rate of an entry that the row has left behind, all sessions end up with the rate of the row. -/
theorem rates_converge_of_kept (c : SubscriberCache) (h : CommandHandler) (id : ℤ) {s : RateWorld}
    (hs : s.InStep id) {events : List RateEvent}
    (hclock : Meets (RateWorld.step c h id) (fun s x => s.now ≤ x.time) s events)
    (hkept : Meets (RateWorld.step c h id) (RateWorld.Kept id) s events) {pre : List RateEvent}
    (hpre : pre <+: events) : (run (RateWorld.step c h id) s pre).Converged c id := by
  have hstep : (run (RateWorld.step c h id) s pre).InStep id :=
    always (fun _ _ hs hx => inStep_step c h hs hx.1 hx.2) hs (hkept.and hclock) hpre
  exact fun hzero _ => hstep.rate hzero

/-! ### One subscriber -/

theorem fastPlan_price_nonneg : (0 : ℤ) ≤ 90000 := by decide

theorem fastPlan_validity_pos : (1 : ℤ) ≤ 30 := by decide

def fastPlan : Plan := ⟨"Fast", 90000, 30, 300, fastPlan_price_nonneg, fastPlan_validity_pos⟩

/-- Both plans, of 100 and of 300 Mbit/s. -/
def twoPlans : Radius.Directory :=
  { Radius.twoSubscribers.directory with
      plans := Radius.twoSubscribers.directory.plans.insert 2 ⟨"300M/300M", 0, 0, none⟩ }

/-- Nobody is online, and the subscriber has the slower plan. -/
def beforeDialing : RateWorld where
  now := 0
  db := { annWorld.db with plans := annWorld.db.plans.insert 2 fastPlan }
  queue := .empty 0
  net := { Radius.twoSubscribers with directory := twoPlans }
  store := .empty
  waiting := 0
  sent := none
  changed := 0

theorem beforeDialing_inStep : beforeDialing.InStep 1 := by
  refine ⟨fun sub hsub => ?_, fun sub hsub => ?_, fun _ rate hrate => by cases hrate⟩
  · cases hsub
    rfl
  · cases hsub
    decide

def seconds (n : ℤ) : Time := n * 1000000

/-- The subscriber gives the right password. -/
def dialAt (n : ℤ) : RateEvent :=
  .reconnect { Radius.NetEnv.at (seconds n) with bcrypt := fun _ _ => true } ⟨"ann", "secret", [], "10.0.0.1"⟩
    "sess-1" "10.0.0.1"

def scanEnvAt (n : ℤ) : ScanEnv where
  queue := { calm.queue with localNow := seconds n }
  net := .at (seconds n)

/-- The owner sets 50 Mbit/s, for so many minutes or until cleared. -/
def overrideAt (n minutes : ℤ) : RateEvent :=
  .speedOverride (scanEnvAt n) true (some 1) (.ok ⟨"50M/50M", minutes⟩)

/-- The subscriber is given the faster plan, with nothing in `live_sessions`. -/
def unseenPlanChange (n : ℤ) : RateEvent := .planChange ⟨.at (seconds n), false⟩ ∅ 2

def coaAt (n : ℤ) : RateEvent := .coa (.answered (Radius.NetEnv.at 0).order (seconds n))

def oneMinute : SubscriberCache := NewSubscriberCache 0

def afterCalls (events : List RateEvent) : RateWorld :=
  run (RateWorld.step oneMinute plainHandler 1) beforeDialing events

instance (e : ScanEnv) (id : ℤ) : Decidable (Clears e id) :=
  inferInstanceAs (Decidable (_ ∧ _ ∧ _ ∧ _))

instance decidableKept (id : ℤ) (s : RateWorld) : ∀ x : RateEvent, Decidable (s.Kept id x)
  | .planChange .. | .speedOverride .. | .clearSpeedOverride .. | .fupOverride .. | .scan .. | .reconnect ..
  | .coa .. | .tick .. => inferInstanceAs (Decidable (_ → _))
  | .disconnect _ => isTrue trivial

/-- A reconnect after the entry has expired is given the override. -/
theorem late_reconnect_converges :
    (afterCalls [dialAt 0, overrideAt 10 0, coaAt 11, dialAt 71, .tick (seconds 200)]).Converged oneMinute 1 ∧
    (afterCalls [dialAt 0, overrideAt 10 0, coaAt 11, dialAt 71, .tick (seconds 200)]).sent =
      some "50M/50M" :=
  ⟨rates_converge_of_kept oneMinute plainHandler 1 beforeDialing_inStep (by decide +kernel)
    (by decide +kernel) (List.prefix_refl _), by decide +kernel⟩

/-- A reconnect before that is given the rate of before, and keeps it. An override that runs out is
    kept as long as no scan comes, and a session that is not seen keeps the rate of its old plan. -/
theorem early_reconnect_diverges :
    ¬(afterCalls [dialAt 0, overrideAt 10 0, coaAt 11, dialAt 30,
      .tick (seconds 200)]).Converged oneMinute 1 ∧
    ¬(afterCalls [dialAt 0, overrideAt 10 1, coaAt 11, .tick (seconds 200)]).Converged oneMinute 1 ∧
    ¬(afterCalls [dialAt 0, unseenPlanChange 10, .tick (seconds 200)]).Converged oneMinute 1 := by
  have hstays : ∀ (rate : String) {s : RateWorld}, s.waiting = 0 → s.changed + oneMinute.ttl < s.now →
      s.sent = some rate → s.net.effectiveRate 1 s.now ≠ some rate → ¬s.Converged oneMinute 1 :=
    fun rate _ hzero hlate hsent hrate hconverged => hrate (hconverged hzero hlate rate hsent)
  refine ⟨hstays "100M/100M" ?_ ?_ ?_ ?_, hstays "50M/50M" ?_ ?_ ?_ ?_, hstays "100M/100M" ?_ ?_ ?_ ?_⟩ <;>
    decide +kernel

end IspBss
