import IspBss.Props.Redelivery

/-! Is a reconnect a fresh allowance?

    The quota is one of the billing cycle, but what is compared with it is the sum over the sessions
    that are open at the moment of the query. What a session has used leaves the sum with its Stop:

        one session    Start ──────── 1200 ───────▶          1200 of 1000: reported
        two sessions   Start ─ 600 ─ Stop, Start ─ 600 ─▶     600 of 1000: not reported

    Two traffics that differ only in how one subscriber's octets are cut into sessions are compared, and
    the verdicts differ exactly if the threshold lies in what the stopped sessions have used. -/

namespace IspBss.Radius

open Lib Localcache FUPStore List Emission

/-! ### Who is reported -/

/-- The subscriber is in the result of `GetActiveSessionsAboveFUP`. -/
def FUPStore.Reports (order : List ℤ → List ℤ) (s : Network) (sub : ℤ) : Prop :=
  ∃ st ∈ FUPStore.GetActiveSessionsAboveFUP order s, st.subscriberID = sub
  deriving Decidable

/-- The plan of a subscriber who can be throttled: it has a threshold, and the subscriber is active or
    in grace and not throttled yet. -/
def Directory.fupPlan (dir : Directory) (sub : ℤ) : Option RatePlan := do
  let x ← dir.subscribers.lookup sub
  let p ← dir.plans.lookup x.planID
  if 0 < p.fupThresholdBytes ∧ x.fupActive = false ∧ (x.status = .active ∨ x.status = .gracePeriod) then
    return p
  else none

variable {s : Network}

theorem mem_onlineSubscribers {sub : ℤ} : sub ∈ onlineSubscribers s ↔ s.Online sub := by
  simp only [onlineSubscribers, mem_dedup, mem_map, mem_filter,
    decide_eq_true_eq, Network.Online, and_assoc]

theorem sessionStats_breached {id : ℤ} :
    (sessionStats s Breached id).isSome ↔
      ∃ p ∈ s.directory.fupPlan id, p.fupThresholdBytes ≤ liveSessionUsage s id := by
  unfold sessionStats Directory.fupPlan
  cases hx : s.directory.subscribers.lookup id with
  | none => simp
  | some x =>
    cases hp : s.directory.plans.lookup x.planID with
    | none => simp [hp]
    | some p =>
      simp only [Option.bind_eq_bind, Option.bind_some, hp]
      by_cases h : 0 < p.fupThresholdBytes ∧ x.fupActive = false ∧
          (x.status = .active ∨ x.status = .gracePeriod)
      · rw [if_pos h]
        by_cases hb : p.fupThresholdBytes ≤ liveSessionUsage s id
        · rw [if_pos ⟨h.1, h.2.1, hb, h.2.2⟩]
          simp [hb]
        · rw [if_neg fun h' => hb h'.2.2.1]
          simp [hb]
      · rw [if_neg h, if_neg fun h' => h ⟨h'.1, h'.2.1, h'.2.2.2⟩]
        simp

theorem reports_iff {order : List ℤ → List ℤ} (horder : ∀ ids, (order ids).Perm ids)
    {sub : ℤ} : Reports order s sub ↔ s.Online sub ∧
      ∃ p ∈ s.directory.fupPlan sub, p.fupThresholdBytes ≤ liveSessionUsage s sub := by
  rw [← sessionStats_breached, ← mem_onlineSubscribers, ← (horder _).mem_iff]
  unfold Reports GetActiveSessionsAboveFUP
  simp only [mem_filterMap]
  constructor
  · rintro ⟨st, ⟨id, hid, hst⟩, rfl⟩
    rw [(sessionStats_eq_some hst).1, hst]
    exact ⟨hid, rfl⟩
  · rintro ⟨hmem, hsome⟩
    obtain ⟨st, hst⟩ := Option.isSome_iff_exists.mp hsome
    exact ⟨st, ⟨sub, hmem, hst⟩, (sessionStats_eq_some hst).1⟩

/-! ### Sums over some of the sessions -/

/-- The octets a subscriber's open sessions have among these rows. -/
def openOctets (sub : ℤ) (rows : List SessionRow) : ℤ :=
  ((rows.filter fun r => r.IsOpen ∧ r.subscriberID = sub).map fun r =>
    r.inputOctets + r.outputOctets).sum

theorem openOctets_filter (sub : ℤ) (p : SessionRow → Bool) (rows : List SessionRow) :
    openOctets sub rows = openOctets sub (rows.filter p) + openOctets sub (rows.filter fun x => !p x) := by
  have hperm := ((filter_append_perm p rows).filter
    fun r => decide (r.IsOpen ∧ r.subscriberID = sub)).map fun r => r.inputOctets + r.outputOctets
  rw [openOctets, ← hperm.sum_eq, filter_append, map_append, sum_append]
  rfl

/-- The sessions of a list of ids, one by one, and all the others. -/
theorem openOctets_sessions (sub : ℤ) (s : Network) : ∀ {ids : List String}, ids.Nodup →
    openOctets sub s.sessions = openOctets sub (s.sessions.filter fun x => x.sessionID ∉ ids) +
      (ids.map fun id => openOctets sub (rowsOf id s)).sum
  | [], _ => by simp
  | id :: ids, h => by
      obtain ⟨hid, hnodup⟩ := nodup_cons.mp h
      have hmine : (s.sessions.filter fun x => x.sessionID ∉ ids).filter (fun x => x.sessionID = id) =
          rowsOf id s := by
        rw [filter_filter]
        refine filter_congr fun x _ => ?_
        by_cases hx : x.sessionID = id <;> simp [hx, hid]
      have hrest : (s.sessions.filter fun x => x.sessionID ∉ ids).filter
          (fun x => !decide (x.sessionID = id)) = s.sessions.filter fun x => x.sessionID ∉ id :: ids := by
        simp [not_or]
      rw [openOctets_sessions sub s hnodup, openOctets_filter sub (fun x => x.sessionID = id), hmine,
        hrest, map_cons, sum_cons]
      ring

/-! ### One session of a traffic -/

/-- A session of the subscriber in a traffic: which of its records are delivered there, each recorded
    when it first is. -/
structure Use (d : Daemon) (s : Network) (sub : ℤ) (traffic : Traffic) where
  em : Emission
  items : em.Items
  traffic_eq : em.traffic items = traffic
  fresh : em.Fresh sub s
  inOrder : em.InOrder 0 items
  recorded : em.Recorded d s.directory sub 0 items
  harmless : em.Harmless d s 0 items
  begun : em.progress 0 items ≠ []

namespace Use

variable {d : Daemon} {s : Network} {sub : ℤ} {traffic : Traffic} {u : Use d s sub traffic}

/-- The octets that have been reported of the session. -/
def octets (u : Use d s sub traffic) : ℤ :=
  (latest (u.em.progress 0 u.items)).1 + (latest (u.em.progress 0 u.items)).2

/-- The Stop has been delivered. -/
def Ended (u : Use d s sub traffic) : Prop := (u.em.progress 0 u.items).length = u.em.records.length
  deriving Decidable

theorem row (u : Use d s sub traffic) : ∃ row, rowsOf u.em.sessionID (d.serve s traffic) = [row] ∧
    row.subscriberID = sub ∧ row.inputOctets + row.outputOctets = u.octets ∧ (row.IsOpen ↔ ¬u.Ended) := by
  have h := u.fresh.serve u.inOrder u.recorded u.harmless
  rw [u.traffic_eq] at h
  obtain ⟨row, hrow⟩ := exists_row h.inTurn u.begun sub
  refine ⟨row, h.rows.trans hrow.rows, hrow.subscriber, ?_, hrow.isOpen.trans ?_⟩
  · rw [octets, ← hrow.octets]
  · have hle := h.inTurn.length_le
    rw [length_map] at hle
    exact ⟨fun hlt => ne_of_lt hlt, fun hne => lt_of_le_of_ne hle hne⟩

theorem openOctets_of_ended (h : u.Ended) : openOctets sub (rowsOf u.em.sessionID (d.serve s traffic)) = 0 := by
  obtain ⟨row, hrow, -, -, hopen⟩ := u.row
  have hclosed : ¬row.IsOpen := fun ho => hopen.mp ho h
  simp [hrow, openOctets, hclosed]

theorem openOctets_of_running (h : ¬u.Ended) :
    openOctets sub (rowsOf u.em.sessionID (d.serve s traffic)) = u.octets := by
  obtain ⟨row, hrow, hsub, hoct, hopen⟩ := u.row
  simp [hrow, openOctets, hopen.mpr h, hsub, hoct]

theorem online (h : ¬u.Ended) : (d.serve s traffic).Online sub := by
  obtain ⟨row, hrow, hsub, -, hopen⟩ := u.row
  have hmem : row ∈ rowsOf u.em.sessionID (d.serve s traffic) := by
    rw [hrow]
    exact .head _
  exact ⟨row, (mem_filter.mp hmem).1, hopen.mpr h, hsub⟩

end Use

/-! ### The two traffics -/

/-- The rows of the sessions that are not listed are made by their own records. -/
theorem rows_of_others (d : Daemon) {ids : List String}
    (hfresh : ∀ x ∈ s.sessions, x.sessionID ∉ ids) (traffic : Traffic) :
    (d.serve s traffic).sessions.filter (fun x => x.sessionID ∉ ids) =
      (d.serve s (traffic.filter fun x => x.2.sessionID ∉ ids)).sessions := by
  have hall : (s.onlyRows fun x => x.sessionID ∉ ids) = s := by
    rw [Network.onlyRows, filter_eq_self.mpr fun x hx => decide_eq_true (hfresh x hx)]
  have h := serve_bySession (fun id => decide (id ∉ ids)) d s traffic
  rw [hall] at h
  exact h

section
variable {d : Daemon} {s : Network} {sub : ℤ} {traffic : Traffic}

variable (last : Use d s sub traffic) (stopped : List (Use d s sub traffic))

/-- The session ids of the open session and of the stopped ones. -/
def sessionIDs : List String :=
  (last :: stopped).map (·.em.sessionID)

theorem sessionIDs_fresh :
    ∀ x ∈ s.sessions, x.sessionID ∉ sessionIDs last stopped := by
  intro x hx hmem
  obtain ⟨u, -, hu⟩ := mem_map.mp hmem
  exact u.fresh.rows x hx hu.symm

/-- Of several sessions of a subscriber only the open one counts, with whatever else is open. -/
theorem liveSessionUsage_serve {last : Use d s sub traffic} {stopped : List (Use d s sub traffic)}
    (hlast : ¬last.Ended) (hstopped : ∀ u ∈ stopped, u.Ended) (hids : (sessionIDs last stopped).Nodup) :
    liveSessionUsage (d.serve s traffic) sub =
      openOctets sub (d.serve s
        (traffic.filter fun x => x.2.sessionID ∉ sessionIDs last stopped)).sessions + last.octets := by
  have hzero : (stopped.map fun u =>
      openOctets sub (rowsOf u.em.sessionID (d.serve s traffic))).sum = 0 := by
    refine sum_eq_zero fun n hn => ?_
    obtain ⟨u, hu, rfl⟩ := mem_map.mp hn
    exact Use.openOctets_of_ended (hstopped u hu)
  have hown : ((sessionIDs last stopped).map fun id =>
      openOctets sub (rowsOf id (d.serve s traffic))).sum = last.octets := by
    rw [sessionIDs, map_cons, map_cons, map_map,
      Use.openOctets_of_running hlast]
    exact (congrArg _ hzero).trans (add_zero _)
  have hsessions := openOctets_sessions sub (d.serve s traffic) hids
  rw [hown, rows_of_others d (sessionIDs_fresh last stopped)] at hsessions
  exact hsessions

end

/-- Any two traffics with the same records of all other sessions, of which the first has one session of
    the subscriber, still open, and the second several that share its octets, all stopped but one that
    is open: the verdicts on the subscriber agree exactly if the subscriber cannot be throttled, or the
    threshold is not passed by adding what the stopped sessions have used to what is open. -/
theorem split_keeps_verdict_iff (d : Daemon) (s : Network) (sub : ℤ) (whole split : Traffic)
    (one : Use d s sub whole) (last : Use d s sub split) (stopped : List (Use d s sub split))
    (hone : ¬one.Ended) (hlast : ¬last.Ended) (hstopped : ∀ u ∈ stopped, u.Ended)
    (hids : (sessionIDs last stopped).Nodup)
    (hoctets : one.octets = last.octets + (stopped.map Use.octets).sum)
    (hothers : (whole.filter fun x => x.2.sessionID ∉ sessionIDs one []) =
      split.filter fun x => x.2.sessionID ∉ sessionIDs last stopped)
    (order order' : { f : List ℤ → List ℤ // ∀ ids, (f ids).Perm ids }) :
    (FUPStore.Reports order (d.serve s whole) sub ↔ FUPStore.Reports order' (d.serve s split) sub) ↔
      ∀ p ∈ s.directory.fupPlan sub,
        (p.fupThresholdBytes ≤
            FUPStore.liveSessionUsage (d.serve s split) sub + (stopped.map Use.octets).sum ↔
          p.fupThresholdBytes ≤ FUPStore.liveSessionUsage (d.serve s split) sub) := by
  -- the stopped sessions are all that the two sums differ by
  have hwhole : liveSessionUsage (d.serve s whole) sub =
      liveSessionUsage (d.serve s split) sub + (stopped.map Use.octets).sum := by
    have hnone : ∀ u ∈ ([] : List (Use d s sub whole)), u.Ended := fun _ hu => by cases hu
    rw [liveSessionUsage_serve hone hnone (nodup_singleton _), hothers, hoctets,
      liveSessionUsage_serve hlast hstopped hids]
    ring
  rw [reports_iff order.2, reports_iff order'.2, Daemon.serve_directory, Daemon.serve_directory, hwhole,
    and_iff_right (Use.online hone), and_iff_right (Use.online hlast)]
  cases s.directory.fupPlan sub with
  | none => simp
  | some p => simp only [Option.mem_some_iff, exists_eq_left', forall_eq']

/-- The other subscriber comes online. -/
def bobStart : AcctRequest := .of .start "bob" "10.0.0.2" "b1" 0 0

/-- One session up to `n` octets. -/
def wholeTraffic (n : UInt32) : Traffic :=
  [(.at 0, .of .start "ann" "10.0.0.1" "a1" 0 0), (.at 1000000, bobStart),
    (.at 100000000, .of .interimUpdate "ann" "10.0.0.1" "a1" n 0)]

/-- A session stopped at `n` octets and another one up to `m`. -/
def splitTraffic (n m : UInt32) : Traffic :=
  [(.at 0, .of .start "ann" "10.0.0.1" "a1" 0 0), (.at 1000000, bobStart),
    (.at 50000000, .of .stop "ann" "10.0.0.1" "a1" n 0),
    (.at 51000000, .of .start "ann" "10.0.0.1" "a2" 0 0),
    (.at 100000000, .of .interimUpdate "ann" "10.0.0.1" "a2" m 0)]

def wholeUse : Use fullDaemon twoSubscribers 1 (wholeTraffic 600) where
  em := annSession "a1" [600] 600 a1_ne_empty (by decide +kernel)
  items := timed
    [(0, .inl ⟨0, by decide⟩), (1000000, .inr bobStart), (100000000, .inl ⟨1, by decide⟩)]
  traffic_eq := rfl
  fresh := ann_fresh (by decide +kernel) (by decide +kernel)
  inOrder := by decide +kernel
  recorded := recorded_timed (ann_recorded (by decide +kernel)) _ 0
  harmless := by decide +kernel
  begun := by decide +kernel

def stoppedUse : Use fullDaemon twoSubscribers 1 (splitTraffic 300 300) where
  em := annSession "a1" [] 300 a1_ne_empty (by decide +kernel)
  items := timed
    [(0, .inl ⟨0, by decide⟩), (1000000, .inr bobStart), (50000000, .inl ⟨1, by decide⟩),
      (51000000, .inr (.of .start "ann" "10.0.0.1" "a2" 0 0)),
      (100000000, .inr (.of .interimUpdate "ann" "10.0.0.1" "a2" 300 0))]
  traffic_eq := rfl
  fresh := ann_fresh (by decide +kernel) (by decide +kernel)
  inOrder := by decide +kernel
  recorded := recorded_timed (ann_recorded (by decide +kernel)) _ 0
  harmless := by decide +kernel
  begun := by decide +kernel

def lastUse : Use fullDaemon twoSubscribers 1 (splitTraffic 300 300) where
  em := annSession "a2" [300] 300 (by decide) (by decide +kernel)
  items := timed
    [(0, .inr (.of .start "ann" "10.0.0.1" "a1" 0 0)), (1000000, .inr bobStart),
      (50000000, .inr (.of .stop "ann" "10.0.0.1" "a1" 300 0)), (51000000, .inl ⟨0, by decide⟩),
      (100000000, .inl ⟨1, by decide⟩)]
  traffic_eq := rfl
  fresh := ann_fresh (by decide +kernel) (by decide +kernel)
  inOrder := by decide +kernel
  recorded := recorded_timed (ann_recorded (by decide +kernel)) _ 0
  harmless := by decide +kernel
  begun := by decide +kernel

/-- Six hundred octets are below the threshold of a thousand in one session and in two. -/
theorem small_split_keeps_verdict :
    ¬wholeUse.Ended ∧ ¬lastUse.Ended ∧ stoppedUse.Ended ∧
    (FUPStore.Reports id (fullDaemon.serve twoSubscribers (wholeTraffic 600)) 1 ↔
      FUPStore.Reports id (fullDaemon.serve twoSubscribers (splitTraffic 300 300)) 1) := by
  have hone : ¬wholeUse.Ended := by decide +kernel
  have hlast : ¬lastUse.Ended := by decide +kernel
  have hstopped : stoppedUse.Ended := by decide +kernel
  have hothers : ((wholeTraffic 600).filter fun x => x.2.sessionID ∉ sessionIDs wholeUse []) =
      (splitTraffic 300 300).filter fun x => x.2.sessionID ∉ sessionIDs lastUse [stoppedUse] := rfl
  refine ⟨hone, hlast, hstopped, (split_keeps_verdict_iff fullDaemon twoSubscribers 1 _ _ wholeUse
    lastUse [stoppedUse] hone hlast (by simpa using hstopped) (by decide +kernel) (by decide +kernel) hothers
    ⟨id, fun _ => .refl _⟩ ⟨id, fun _ => .refl _⟩).mpr ?_⟩
  decide +kernel

/-- Twelve hundred octets pass the threshold of a thousand in one session, and not in two. -/
theorem reconnect_hides_breach :
    FUPStore.Reports id (fullDaemon.serve twoSubscribers (wholeTraffic 1200)) 1 ∧
    ¬FUPStore.Reports id (fullDaemon.serve twoSubscribers (splitTraffic 600 600)) 1 := by
  decide +kernel

end IspBss.Radius
