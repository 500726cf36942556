import IspBss.Props.AccountingSteps

/-! Do the records of one NAS leave the sessions of another alone?

    An Acct-Session-Id is unique on the NAS that chose it and nowhere else, but the dedup key, the test
    for an open row, the octet update and the close all go by it. So two devices that choose one id
    meet in three places:

        A: Start "1" ─▶ row of A open             B: Start "1" ─▶ no row: one is open
        A: Stop "1"  ◀─ closes A's row ────────── B: Stop "1"
        A: record k  ─▶ dropped for 30 s ───────▶ B: record k

    The records and the rows are divided into two sides. If the sides do not meet in these places, what
    one side's rows become depends on that side's records alone. -/

namespace IspBss.Radius

open Lib Localcache List Prog Daemon Store

abbrev Traffic := List (NetEnv × AcctRequest)

/-- Records and rows divided in two; a row is on the side of the record that opened it. -/
structure Sides where
  mine : AcctRequest → Bool
  row : SessionRow → Bool
  opened : ∀ (sub : ℤ) (r : AcctRequest) (now : Time),
    row (newSession sub r.sessionID r.accountingNASIP r.framedIP r.ipv6Prefix now) = mine r
  counted : ∀ (x : SessionRow) (i o : ℤ), row (x.counted i o) = row x
  stopped : ∀ (x : SessionRow) (now : Time) (i o : ℤ) (cause : String),
    row (x.stopped now i o cause) = row x

/-- Every open row that the record's session id matches is on the record's side. -/
def Sides.Owns (σ : Sides) (rows : List SessionRow) (r : AcctRequest) : Prop :=
  r.CarriesSession → ∀ x ∈ rows, x.OpenAs r.sessionID → σ.row x = σ.mine r

/-- Two records of different sides with one key are at least the dedup window apart. -/
def Sides.Apart (σ : Sides) (x y : NetEnv × AcctRequest) : Prop :=
  x.2.CarriesSession → y.2.CarriesSession → x.2.dedupKey = y.2.dedupKey → σ.mine x.2 ≠ σ.mine y.2 →
    x.1.now + acctDedupWindow ≤ y.1.now

/-- Every record of the traffic finds only rows of its own side open under its session id. -/
def Sides.OwnRows (σ : Sides) (d : Daemon) : Network → Traffic → Prop
  | _, [] => True
  | s, x :: xs =>
    σ.Owns s.sessions x.2 ∧ σ.OwnRows d (Prog.run netExec x.1 (d.handleAccounting x.2) s).2 xs

/-! ### One record and the rows of a side -/

section
variable {σ : Sides} {d : Daemon} {e : NetEnv} {dir : Directory} {r : AcctRequest}
  {rows : List SessionRow} {f : SessionRow → SessionRow}

theorem filter_updateOpen (hf : ∀ x, σ.row (f x) = σ.row x) (sessionID : String) (rows : List SessionRow) :
    (updateOpen sessionID f rows).2.filter σ.row = (updateOpen sessionID f (rows.filter σ.row)).2 := by
  have hside : σ.row ∘ (fun x => if x.OpenAs sessionID then f x else x) = σ.row := by
    funext x
    show σ.row (if x.OpenAs sessionID then f x else x) = σ.row x
    split
    · exact hf x
    · rfl
  rw [updateOpen, updateOpen, filter_map, hside]

/-- An update that matches no row of the side leaves the side as it was. -/
theorem updateOpen_unmatched {sessionID : String}
    (h : ∀ x ∈ rows, ¬x.OpenAs sessionID) : (updateOpen sessionID f rows).2 = rows := by
  exact (map_congr_left fun x hx => if_neg (h x hx)).trans (map_id rows)

/-- A record of the side changes the side's rows as if there were no others. -/
theorem filter_change_mine (hr : σ.mine r = true) (hown : ∀ x ∈ rows, x.OpenAs r.sessionID → σ.row x = true) :
    (d.change e dir r rows).filter σ.row = d.change e dir r (rows.filter σ.row) := by
  unfold change
  split
  · split
    · rfl
    split
    · rfl
    · unfold opened
      have hopen : (∃ x ∈ rows.filter σ.row, x.OpenAs r.sessionID) ↔
          ∃ x ∈ rows, x.OpenAs r.sessionID := by
        constructor
        · rintro ⟨x, hx, ho⟩
          exact ⟨x, mem_of_mem_filter hx, ho⟩
        · rintro ⟨x, hx, ho⟩
          exact ⟨x, mem_filter.mpr ⟨hx, hown x hx ho⟩, ho⟩
      simp only [hopen]
      split
      · rfl
      · rw [filter_append, filter_cons_of_pos (by rw [σ.opened, hr]), filter_nil]
  · split
    · rfl
    · exact filter_updateOpen (fun x => σ.counted x _ _) _ rows
  · split
    · rfl
    · exact filter_updateOpen (fun x => σ.stopped x _ _ _ _) _ rows
  · rfl

/-- A record of the other side changes none of them. -/
theorem filter_change_other (hr : σ.mine r = false) (hown : ∀ x ∈ rows, x.OpenAs r.sessionID → σ.row x = false) :
    (d.change e dir r rows).filter σ.row = rows.filter σ.row := by
  have hmiss : ∀ x ∈ rows.filter σ.row, ¬x.OpenAs r.sessionID := by
    intro x hx ho
    obtain ⟨hx, hside⟩ := mem_filter.mp hx
    rw [hown x hx ho] at hside
    cases hside
  unfold change
  split
  · split
    · rfl
    split
    · rfl
    · unfold opened
      split
      · rfl
      · rw [filter_append, filter_cons_of_neg (by rw [σ.opened, hr]; exact Bool.false_ne_true),
          filter_nil, append_nil]
  · split
    · rfl
    · rw [filter_updateOpen (fun x => σ.counted x _ _), updateOpen_unmatched hmiss]
  · split
    · rfl
    · rw [filter_updateOpen (fun x => σ.stopped x _ _ _ _), updateOpen_unmatched hmiss]
  · rfl

end

/-! ### The dedup memory of two runs -/

/-- The memory of the whole run and that of the side's own: an entry is the same, or it is one that the
    other side has set after the side's own had expired, and it will have expired before the side uses
    the key again. -/
def Sides.Agree (σ : Sides) (rest : Traffic) (m m' : Store Unit) : Prop :=
  ∀ key, m.entries.lookup key = m'.entries.lookup key ∨
    ∃ t, m.entries.lookup key = some ⟨(), t + acctDedupWindow⟩ ∧
      (∀ x ∈ m'.entries.lookup key, x.expires ≤ t) ∧
      ∀ y ∈ rest, y.2.CarriesSession → σ.mine y.2 = true → y.2.dedupKey = key →
        t + acctDedupWindow ≤ y.1.now

section
variable {σ : Sides} {x : NetEnv × AcctRequest} {xs : Traffic} {m m' : Store Unit}

theorem window_nonneg : 0 ≤ acctDedupWindow := by decide

theorem Sides.Agree.tail (h : σ.Agree (x :: xs) m m') : σ.Agree xs m m' := by
  intro key
  rcases h key with heq | ⟨t, hm, hm', hrest⟩
  · exact Or.inl heq
  · exact Or.inr ⟨t, hm, hm', fun y hy => hrest y (.tail _ hy)⟩

/-- Both runs see the same duplicate. -/
theorem Sides.Agree.live (h : σ.Agree (x :: xs) m m') (hc : x.2.CarriesSession) (hmine : σ.mine x.2 = true) :
    m.Live x.1.now x.2.dedupKey ↔ m'.Live x.1.now x.2.dedupKey := by
  rcases h x.2.dedupKey with heq | ⟨t, hm, hm', hrest⟩
  · exact live_congr heq
  -- the entry of the other side has expired by now, and the side's own had before it was set
  have hnow := hrest x (.head _) hc hmine rfl
  have hw := window_nonneg
  refine iff_of_false ?_ ?_
  · rintro ⟨y, hy, hlt⟩
    rw [hm] at hy
    cases hy
    exact absurd hnow (not_le.mpr hlt)
  · rintro ⟨y, hy, hlt⟩
    linarith [hm' y hy]

/-- A record of the side takes or finds its key in both. -/
theorem Sides.Agree.mine (h : σ.Agree (x :: xs) m m') (hc : x.2.CarriesSession) (hmine : σ.mine x.2 = true) :
    σ.Agree xs (m.TrySet x.1.now x.2.dedupKey () acctDedupWindow).2
      (m'.TrySet x.1.now x.2.dedupKey () acctDedupWindow).2 := by
  by_cases hlive : m.Live x.1.now x.2.dedupKey
  · rw [trySet_live hlive, trySet_live ((h.live hc hmine).mp hlive)]
    exact h.tail
  intro key
  by_cases hkey : key = x.2.dedupKey
  · subst hkey
    rw [trySet_free hlive, trySet_free (fun hl => hlive ((h.live hc hmine).mpr hl))]
    left
    rw [AList.lookup_insert, AList.lookup_insert]
  · rw [lookup_trySet_ne hkey, lookup_trySet_ne hkey]
    exact h.tail key

/-- A record of the other side may take its key in the whole run only. -/
theorem Sides.Agree.other (h : σ.Agree (x :: xs) m m') (hc : x.2.CarriesSession)
    (hother : σ.mine x.2 = false) (hapart : ∀ y ∈ xs, σ.Apart x y) :
    σ.Agree xs (m.TrySet x.1.now x.2.dedupKey () acctDedupWindow).2 m' := by
  by_cases hlive : m.Live x.1.now x.2.dedupKey
  · rw [trySet_live hlive]
    exact h.tail
  intro key
  by_cases hkey : key = x.2.dedupKey
  · subst hkey
    rw [trySet_free hlive]
    -- the other side takes the key now; whatever the side's own run remembers under it has expired
    refine Or.inr ⟨x.1.now, AList.lookup_insert _, fun y hy => ?_, fun y hy hcy hmine hk => ?_⟩
    · rcases h x.2.dedupKey with heq | ⟨t, hm, hm', -⟩
      · exact not_lt.mp fun hlt => hlive ⟨y, heq ▸ hy, hlt⟩
      · have hexp : t + acctDedupWindow ≤ x.1.now := not_lt.mp fun hlt => hlive ⟨_, hm, hlt⟩
        linarith [hm' y hy, window_nonneg]
    · exact hapart y hy hc hcy hk.symm (by rw [hother, hmine]; exact Bool.false_ne_true)
  · rw [lookup_trySet_ne hkey]
    exact h.tail key

end

/-! ### A whole traffic and one side of it -/

section
variable {σ : Sides} {d : Daemon} {e : NetEnv} {r : AcctRequest} {s s' s₁ s₁' : Network}

/-- A record of the side, in the whole run and in the side's own. -/
theorem rows_mine (h : d.Handled e r s s₁) (h' : d.Handled e r s' s₁') (hmine : σ.mine r = true)
    (hdir : s'.directory = s.directory) (hrows : s'.sessions = s.sessions.filter σ.row)
    (hlive : r.CarriesSession → (s.acctDedup.Live e.now r.dedupKey ↔ s'.acctDedup.Live e.now r.dedupKey))
    (hown : σ.Owns s.sessions r) : s₁'.sessions = s₁.sessions.filter σ.row := by
  by_cases hrec : r.CarriesSession ∧ ¬s.acctDedup.Live e.now r.dedupKey ∧ d.Reaches e s.directory r
  · obtain ⟨hc, hfree, hreach⟩ := hrec
    rw [h.recorded hc hfree hreach, h'.recorded hc (fun hl => hfree ((hlive hc).mpr hl))
      (by rw [hdir]; exact hreach), hdir, hrows]
    exact (filter_change_mine hmine fun x hx ho => (hown hc x hx ho).trans hmine).symm
  · rw [h.untouched fun hc hfree hreach => hrec ⟨hc, hfree, hreach⟩, h'.untouched, hrows]
    intro hc hfree hreach
    rw [hdir] at hreach
    exact hrec ⟨hc, fun hl => hfree ((hlive hc).mp hl), hreach⟩

/-- A record of the other side, in the whole run. -/
theorem rows_other (h : d.Handled e r s s₁) (hother : σ.mine r = false) (hown : σ.Owns s.sessions r) :
    s₁.sessions.filter σ.row = s.sessions.filter σ.row := by
  by_cases hrec : r.CarriesSession ∧ ¬s.acctDedup.Live e.now r.dedupKey ∧ d.Reaches e s.directory r
  · obtain ⟨hc, hfree, hreach⟩ := hrec
    rw [h.recorded hc hfree hreach]
    exact filter_change_other hother fun x hx ho => (hown hc x hx ho).trans hother
  · rw [h.untouched fun hc hfree hreach => hrec ⟨hc, hfree, hreach⟩]

end

/-- What a side's rows become in the whole traffic is what they become in the side's own. -/
theorem serve_side (σ : Sides) (d : Daemon) : ∀ (traffic : Traffic) (s s' : Network),
    s'.directory = s.directory → s'.sessions = s.sessions.filter σ.row →
    σ.Agree traffic s.acctDedup s'.acctDedup → traffic.Pairwise σ.Apart → σ.OwnRows d s traffic →
    (d.serve s traffic).sessions.filter σ.row =
      (d.serve s' (traffic.filter fun x => σ.mine x.2)).sessions
  | [], _, _, _, hrows, _, _, _ => hrows.symm
  | x :: xs, s, s', hdir, hrows, hagree, hapart, hown => by
      have h := handleAccounting_handled d x.1 x.2 s
      obtain ⟨hhead, htail⟩ := pairwise_cons.mp hapart
      by_cases hmine : σ.mine x.2 = true
      · have h' := handleAccounting_handled d x.1 x.2 s'
        have hagree' : σ.Agree xs (run netExec x.1 (d.handleAccounting x.2) s).2.acctDedup
            (run netExec x.1 (d.handleAccounting x.2) s').2.acctDedup := by
          by_cases hc : x.2.CarriesSession
          · rw [h.remembered hc, h'.remembered hc]
            exact hagree.mine hc hmine
          · rw [h.forgotten hc, h'.forgotten hc]
            exact hagree.tail
        rw [filter_cons, if_pos hmine]
        exact serve_side σ d xs _ _ (by rw [h'.directory, h.directory, hdir])
          (rows_mine h h' hmine hdir hrows (fun hc => hagree.live hc hmine) hown.1) hagree' htail hown.2
      · have hother := Bool.eq_false_iff.mpr hmine
        have hagree' : σ.Agree xs (run netExec x.1 (d.handleAccounting x.2) s).2.acctDedup
            s'.acctDedup := by
          by_cases hc : x.2.CarriesSession
          · rw [h.remembered hc]
            exact hagree.other hc hother hhead
          · rw [h.forgotten hc]
            exact hagree.tail
        rw [filter_cons, if_neg hmine]
        exact serve_side σ d xs _ _ (by rw [h.directory, hdir])
          (by rw [rows_other h hother hown.1, hrows]) hagree' htail hown.2

/-- The state a side starts from on its own: its own rows, and everything else. -/
def Network.onlyRows (s : Network) (p : SessionRow → Bool) : Network :=
  { s with sessions := s.sessions.filter p }

theorem agree_refl (σ : Sides) (traffic : Traffic) (m : Store Unit) : σ.Agree traffic m m :=
  fun _ => Or.inl rfl

/-! ### Sides by session id -/

/-- The records and rows of some session ids. -/
def bySession (p : String → Bool) : Sides where
  mine r := p r.sessionID
  row x := p x.sessionID
  opened _ _ _ := rfl
  counted _ _ _ := rfl
  stopped _ _ _ _ _ := rfl

theorem bySession_ownRows (p : String → Bool) (d : Daemon) :
    ∀ (traffic : Traffic) (s : Network), (bySession p).OwnRows d s traffic
  | [], _ => trivial
  | _ :: xs, _ => ⟨fun _ _ _ ho => congrArg p ho.1, bySession_ownRows p d xs _⟩

/-- Sessions never meet: whatever the traffic, the rows of some session ids are what the records with
    these ids make of them. -/
theorem serve_bySession (p : String → Bool) (d : Daemon) (s : Network) (traffic : Traffic) :
    (d.serve s traffic).sessions.filter (fun x => p x.sessionID) =
      (d.serve (s.onlyRows fun x => p x.sessionID)
        (traffic.filter fun x => p x.2.sessionID)).sessions := by
  refine serve_side (bySession p) d traffic s _ rfl rfl (agree_refl _ _ _) ?_
    (bySession_ownRows p d traffic s)
  refine pairwise_of_forall fun x y _ _ hkey hne => ?_
  exact absurd (congrArg p (AcctRequest.dedupKey_inj hkey).1) hne

/-! ### Sides by NAS -/

/-- The records a NAS has sent and the rows that are kept for it. -/
def byNas (nas : String) : Sides where
  mine r := r.accountingNASIP = nas
  row x := x.nasIP = nas
  opened _ _ _ := rfl
  counted _ _ _ := rfl
  stopped _ _ _ _ _ := rfl

/-- Records of different NAS devices with the same session id, type and counters are at least thirty
    seconds apart. -/
def NasApart (x y : NetEnv × AcctRequest) : Prop :=
  x.2.CarriesSession → y.2.CarriesSession → x.2.dedupKey = y.2.dedupKey →
    x.2.accountingNASIP ≠ y.2.accountingNASIP → x.1.now + acctDedupWindow ≤ y.1.now
  deriving Decidable

/-- Whenever a record is handled, no other NAS has a session open under its session id. -/
def SessionsOwn (d : Daemon) : Network → Traffic → Prop
  | _, [] => True
  | s, x :: xs =>
    (x.2.CarriesSession → ∀ row ∈ s.sessions, row.OpenAs x.2.sessionID →
      row.nasIP = x.2.accountingNASIP) ∧
    SessionsOwn d (Prog.run netExec x.1 (d.handleAccounting x.2) s).2 xs

theorem SessionsOwn.ownRows {d : Daemon} (nas : String) : ∀ {traffic : Traffic} {s : Network},
    SessionsOwn d s traffic → (byNas nas).OwnRows d s traffic
  | [], _, _ => trivial
  | _ :: _, _, h =>
    ⟨fun hc row hrow ho => congrArg (fun n => decide (n = nas)) (h.1 hc row hrow ho), ownRows nas h.2⟩

/-- Any finite traffic from any devices, with any failing statements: if no record arrives while another
    NAS has a session open under its id, or within thirty seconds of the same record from another NAS,
    then the rows of a NAS are what its own records make of them. -/
theorem nas_rows_from_own_records (d : Daemon) (s : Network) (traffic : Traffic)
    (hapart : traffic.Pairwise NasApart) (hown : SessionsOwn d s traffic) (nas : String) :
    (d.serve s traffic).sessions.filter (fun x => x.nasIP = nas) =
      (d.serve (s.onlyRows fun x => x.nasIP = nas)
        (traffic.filter fun x => x.2.accountingNASIP = nas)).sessions := by
  refine serve_side (byNas nas) d traffic s _ rfl rfl (agree_refl _ _ _) ?_ (hown.ownRows nas)
  refine hapart.imp fun {x y} h hcx hcy hkey hne => h hcx hcy hkey fun heq => hne ?_
  exact congrArg (fun n => decide (n = nas)) heq

instance SessionsOwn.decidable (d : Daemon) : ∀ (s : Network) (traffic : Traffic),
    Decidable (SessionsOwn d s traffic)
  | _, [] => isTrue trivial
  | s, x :: xs =>
    have := SessionsOwn.decidable d (Prog.run netExec x.1 (d.handleAccounting x.2) s).2 xs
    inferInstanceAs (Decidable ((_ → ∀ row ∈ _, _ → _) ∧ _))

/-- A daemon with all its parts. -/
def fullDaemon : Daemon := ⟨some ⟨∅⟩, true, true, true⟩

/-- A plan of 100 Mbit/s that is throttled to 10 after a thousand bytes. -/
def smallPlan : RatePlan := ⟨"100M/100M", 0, 1000, some "10M/10M"⟩

/-- An active subscriber of that plan. -/
def Profile.named (username : String) : Profile where
  username := username
  passwordHash := ""
  status := .active
  planID := 1
  fupActive := false
  ntHash := none
  speedOverrideRateLimit := none
  speedOverrideExpiresAt := none

/-- Two subscribers, and nobody online. -/
def twoSubscribers : Network where
  directory :=
    { subscribers := ((∅ : Rows ℤ Profile).insert 1 (.named "ann")).insert 2 (.named "bob")
      plans := (∅ : Rows ℤ RatePlan).insert 1 smallPlan
      devices := ∅
      grants := [] }
  grantUsage := ∅
  sessions := []
  acctDedup := .empty

/-- A record of a session, with counters below 4 GiB. -/
def AcctRequest.of (statusType : AcctStatusType) (userName nas sessionID : String)
    (inputOctets outputOctets : UInt32) : AcctRequest where
  statusType := statusType
  sessionID := sessionID
  userName := userName
  nasIPAddress := none
  framedIPAddress := none
  delegatedIPv6Prefix := none
  framedIPv6Prefix := none
  inputOctets := inputOctets
  outputOctets := outputOctets
  inputGigawords := 0
  outputGigawords := 0
  terminateCause := "User-Request"
  remoteAddr := nas

/-- Two devices that number their sessions apart. -/
def numberedApart : Traffic :=
  [(.at 0, .of .start "ann" "10.0.0.1" "a1" 0 0), (.at 1, .of .start "bob" "10.0.0.2" "b1" 0 0),
    (.at 2, .of .stop "bob" "10.0.0.2" "b1" 5 5)]

theorem numberedApart_isolated :
    numberedApart.Pairwise NasApart ∧ SessionsOwn fullDaemon twoSubscribers numberedApart ∧
    (fullDaemon.serve twoSubscribers numberedApart).sessions.filter (fun x => x.nasIP = "10.0.0.1") =
      (fullDaemon.serve (twoSubscribers.onlyRows fun x => x.nasIP = "10.0.0.1")
        (numberedApart.filter fun x => x.2.accountingNASIP = "10.0.0.1")).sessions := by
  have hapart : numberedApart.Pairwise NasApart := by decide +kernel
  have hown : SessionsOwn fullDaemon twoSubscribers numberedApart := by decide +kernel
  exact ⟨hapart, hown, nas_rows_from_own_records _ _ _ hapart hown _⟩

/-- Two devices that both number their first session "1": the Stop of the second closes the session of
    the first, whose Stop was never sent, and the Start of the second has opened nothing. -/
theorem stop_closes_other_nas_session :
    let traffic : Traffic :=
      [(.at 0, .of .start "ann" "10.0.0.1" "1" 0 0), (.at 1000000, .of .start "bob" "10.0.0.2" "1" 7 0),
        (.at 2000000, .of .stop "bob" "10.0.0.2" "1" 5 5)]
    (fullDaemon.serve twoSubscribers traffic).sessions.map (fun x => (x.nasIP, x.stopTime)) =
      [("10.0.0.1", some 2000000)] ∧
    (fullDaemon.serve twoSubscribers (traffic.filter fun x => x.2.accountingNASIP = "10.0.0.1")).sessions.map
      (fun x => (x.nasIP, x.stopTime)) = [("10.0.0.1", none)] ∧
    (fullDaemon.serve twoSubscribers (traffic.filter fun x => x.2.accountingNASIP = "10.0.0.2")).sessions.map
      (fun x => (x.nasIP, x.stopTime)) = [("10.0.0.2", some 2000000)] := by
  decide +kernel

end IspBss.Radius
