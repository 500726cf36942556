import IspBss.Props.AuthSteps

/-! Workers, operators and sweeps at work together.

    How a call changes what is shared, part by part, and where an answer comes from. With the rules that a
    worker keeps this is all that is used of interleaved requests. -/

namespace IspBss.Radius

open Lib Localcache Prog List Option Pool Cache AuthCall Store

/-! ### What a call does to the state -/

section
variable {K : Crypto} {e : AuthEnv} {c : AuthCall} {s : AuthState} {key : String} {ref : ℕ}

/-- A session that is in the store was there, or has just been saved. -/
theorem eap_entry {x : Entry ℕ} (h : (c.run K e s).2.eap.entries.lookup key = some x) :
    s.eap.entries.lookup key = some x ∨ ∃ state, c = .saveSession state x.val ∧ key = eapSessionKey state := by
  cases c with
  | saveSession state ref =>
    rw [AuthCall.run, lookup_set] at h
    split at h
    · rename_i hkey
      cases h
      exact .inr ⟨state, rfl, hkey⟩
    · exact .inl h
  | deleteSession state =>
    rw [AuthCall.run, lookup_delete] at h
    split at h
    · cases h
    · exact .inl h
  | sweep => exact .inl (lookup_sweep h)
  | restart => cases h
  | _ => exact .inl h

/-- A session object is as it was, or has just been created or assigned to. -/
theorem session_entry {x : EAPSession} (h : (c.run K e s).2.sessions[ref]? = some x) :
    (∃ y, s.sessions[ref]? = some y ∧ (x = y ∨ ∃ f, c = .assign ref f ∧ x = y.assign f)) ∨
      (c = .newSession x ∧ ref = s.sessions.length) := by
  cases c with
  | newSession sess =>
    change (s.sessions ++ [sess])[ref]? = some x at h
    rcases Nat.lt_trichotomy ref s.sessions.length with hlt | rfl | hgt
    · rw [getElem?_append_left hlt] at h
      exact .inl ⟨x, h, .inl rfl⟩
    · simp only [getElem?_concat_length, some.injEq] at h
      exact .inr ⟨by rw [h], rfl⟩
    · rw [getElem?_eq_none (by simp only [length_append, length_singleton]; omega)] at h
      cases h
  | assign ref' f =>
    change (s.sessions.modify ref' fun y => y.assign f)[ref]? = some x at h
    rw [getElem?_modify] at h
    obtain ⟨y, hy, hx⟩ := map_eq_some_iff.mp h
    refine .inl ⟨y, hy, ?_⟩
    split at hx
    · rename_i href
      exact .inr ⟨f, by rw [href], hx.symm⟩
    · exact .inl hx.symm
  | _ => exact .inl ⟨x, h, .inl rfl⟩

/-- No call takes a session object away. -/
theorem sessions_length : s.sessions.length ≤ (c.run K e s).2.sessions.length := by
  cases c with
  | newSession sess => simp [AuthCall.run]
  | assign ref f => simp [AuthCall.run]
  | _ => exact le_refl _

/-- A subscriber that is in the cache was there, or has just been put there. -/
theorem cached_entry {x : Entry CacheEntry} (h : (c.run K e s).2.subscribers.entries.lookup key = some x) :
    s.subscribers.entries.lookup key = some x ∨ ∃ cache u sub, c = .cacheResult cache u sub ∧
      key = SubscriberCacheKey u ∧ x.val.subscriber = sub ∧
      (sub.isSome = true → x.expires = e.now + cache.ttl) := by
  cases c with
  | cacheResult cache u sub =>
    by_cases hkey : key = SubscriberCacheKey u
    · obtain ⟨entry, hentry, hval, hexp⟩ :=
        cacheResult_entry cache e.now (SubscriberCacheKey u) sub u s.subscribers
      rw [hkey] at h
      rw [show (run K e (.cacheResult cache u sub) s).2.subscribers.entries.lookup
        (SubscriberCacheKey u) = some entry from hentry] at h
      cases h
      exact .inr ⟨cache, u, sub, rfl, hkey, hval, hexp⟩
    · refine .inl ?_
      cases sub with
      | none =>
        change (s.subscribers.Set e.now _ _ _).entries.lookup key = some x at h
        rwa [lookup_set, if_neg hkey] at h
      | some sub =>
        change (s.subscribers.Set e.now _ _ _).entries.lookup key = some x at h
        rwa [lookup_set, if_neg hkey] at h
  | sweep => exact .inl (lookup_sweep h)
  | restart => cases h
  | _ => exact .inl h

/-! ### Where what a worker is told comes from -/

variable {w : AuthRecord} {state : String} {sess : EAPSession}

theorem loaded_told (h : (noting w c (authExec K e c s).1).loaded = some (state, ref)) :
    w.loaded = some (state, ref) ∨ (c = .loadSession state ∧ s.eap.Get e.now (eapSessionKey state) = some ref) := by
  cases c with
  | loadSession state' =>
    change ((s.eap.Get e.now (eapSessionKey state')).map fun x => (state', x)).or w.loaded = _ at h
    cases hget : s.eap.Get e.now (eapSessionKey state') with
    | none =>
      rw [hget] at h
      exact .inl h
    | some ref' =>
      rw [hget] at h
      cases h
      exact .inr ⟨rfl, hget⟩
  | _ => exact .inl h

theorem looked_told {u : String} {found : Except NetErr (Option Subscriber)}
    (h : (noting w c (authExec K e c s).1).looked = some (u, found)) :
    w.looked = some (u, found) ∨
      (c = .cacheGet u ∧ ∃ entry, s.subscribers.Get e.now (SubscriberCacheKey u) = some entry ∧
        found = .ok entry.subscriber) ∨
      (c = .dbSubscriber u ∧ found =
        if e.fails then .error .unavailable else .ok (s.directory.GetSubscriberByUsername u)) ∨
      ∃ nasID, c = .authorizeMAC u nasID ∧ found =
        if e.fails then .error .unavailable else .ok (s.directory.AuthorizeMAC u nasID e.now) := by
  cases c with
  | cacheGet u' =>
    change ((s.subscribers.Get e.now (SubscriberCacheKey u')).map fun x =>
      (u', Except.ok x.subscriber)).or w.looked = _ at h
    cases hget : s.subscribers.Get e.now (SubscriberCacheKey u') with
    | none =>
      rw [hget] at h
      exact .inl h
    | some entry =>
      rw [hget] at h
      cases h
      exact .inr (.inl ⟨rfl, entry, hget, rfl⟩)
  | dbSubscriber u' =>
    cases h
    exact .inr (.inr (.inl ⟨rfl, rfl⟩))
  | authorizeMAC mac nasID =>
    cases h
    exact .inr (.inr (.inr ⟨nasID, rfl, rfl⟩))
  | _ => exact .inl h

theorem read_told (h : (noting w c (authExec K e c s).1).read = some sess) :
    w.read = some sess ∨ (w.read = none ∧ w.loaded.isSome = true ∧
      ∃ ref, c = .readSession ref ∧ s.sessions[ref]? = some sess) := by
  cases c with
  | readSession ref =>
    change (if w.loaded.isSome then w.read.or s.sessions[ref]? else w.read) = some sess at h
    split at h
    · rename_i hloaded
      cases hread : w.read with
      | none =>
        rw [hread] at h
        exact .inr ⟨rfl, hloaded, ref, rfl, h⟩
      | some sess' =>
        rw [hread] at h
        exact .inl h
    · exact .inl h
  | _ => exact .inl h

/-- What was read first stays. -/
theorem read_kept (h : w.read = some sess) (a : authSig.Resp c) : (noting w c a).read = some sess := by
  cases c with
  | readSession ref =>
    show (if w.loaded.isSome then w.read.or a.1 else w.read) = some sess
    rw [h]
    split <;> rfl
  | _ => exact h

theorem verdict_told {hash pc nr : List UInt8} {verdict : Except MschapErr String}
    (h : (noting w c (authExec K e c s).1).verdict = some (hash, pc, nr, verdict)) :
    w.verdict = some (hash, pc, nr, verdict) ∨ ∃ challenge u, c = .verifyMSCHAPv2 hash challenge pc nr u ∧
      verdict = VerifyMSCHAPv2 K hash challenge.1 pc nr u := by
  cases c with
  | verifyMSCHAPv2 hash' challenge pc' nr' u =>
    cases h
    exact .inr ⟨challenge, u, rfl, rfl⟩
  | _ => exact .inl h

theorem compared_told {hash password : String} {same : Bool}
    (h : (noting w c (authExec K e c s).1).compared = some (hash, password, same)) :
    w.compared = some (hash, password, same) ∨ (c = .compareHashAndPassword hash password ∧
      same = K.compareHashAndPassword hash password) := by
  cases c with
  | compareHashAndPassword hash' password' =>
    cases h
    exact .inr ⟨rfl, rfl⟩
  | _ => exact .inl h

theorem minted_told (h : (noting w c (authExec K e c s).1).minted = some state) :
    w.minted = some state ∨ (c = .newState ∧ ∃ b, e.stateBytes = some b ∧ state = hexEncode b.1) := by
  cases c with
  | newState =>
    obtain ⟨b, hb, hstate⟩ := map_eq_some_iff.mp h
    exact .inr ⟨rfl, b, hb, hstate.symm⟩
  | _ => exact .inl h

theorem own_told (h : (noting w c (authExec K e c s).1).own = some ref) :
    w.own = some ref ∨ ∃ sess, c = .newSession sess ∧ ref = s.sessions.length := by
  cases c with
  | newSession sess =>
    cases h
    exact .inr ⟨sess, rfl, rfl⟩
  | _ => exact .inl h

end

/-! ### Everybody at work -/

/-- A worker with its request, somebody who edits the tables, and the sweeps of the caches. -/
inductive AuthActor where
  | request (r : AuthRequest)
  | operator (changes : List Directory)
  | sweeper (ticks : ℕ)

namespace AuthActor

def prog (K : Crypto) (d : AuthDaemon) : AuthActor → AuthProg Unit
  | request r => d.handleAuth K r
  | operator changes => each (fun directory => (setDirectory directory).ask) changes
  | sweeper ticks => each (fun _ => sweep.ask) (range ticks)

/-- The request that an actor handles. -/
def request? : AuthActor → Option AuthRequest
  | request r => some r
  | _ => none

/-- How an actor ends: a worker has answered. -/
def Ends (a : AuthActor) (w : AuthRecord) : Prop :=
  match a with
  | request _ => w.answered = true
  | _ => True

/-- What an actor may do. -/
def Does (K : Crypto) (d : AuthDaemon) : AuthActor → AuthRecord → AuthCall → Prop
  | request r, w, c => Handles K d r w c
  | operator changes, _, c => ∃ directory ∈ changes, c = .setDirectory directory
  | sweeper _, _, c => c = .sweep

theorem obeys_prog (K : Crypto) (d : AuthDaemon) (a : AuthActor) :
    Obeys noting (fun _ _ _ => True) (a.Does K d) (fun w _ => a.Ends w) (a.prog K d) .fresh := by
  cases a with
  | request r => exact AuthDaemon.behaves_handleAuth K d r
  | operator changes =>
    have hcalls : Calls (S := authSig) (fun c => ∃ directory ∈ changes, c = .setDirectory directory)
        ((operator changes).prog K d) :=
      calls_each fun directory hmem => ⟨⟨directory, hmem, rfl⟩, fun _ => trivial⟩
    exact hcalls.obeys (fun _ _ h => h) _
  | sweeper ticks =>
    have hcalls : Calls (S := authSig) (fun c => c = .sweep) ((sweeper ticks).prog K d) :=
      calls_each fun _ _ => ⟨rfl, fun _ => trivial⟩
    exact hcalls.obeys (fun _ _ h => h) _

end AuthActor

abbrev AuthEvent := Event authSig AuthEnv AuthState
abbrev AuthPool := Pool authSig AuthRecord (AuthState × List AuthEvent)

/-- All actors at their beginning. -/
def authPool (K : Crypto) (d : AuthDaemon) (s : AuthState) (actors : List AuthActor) : AuthPool :=
  start .fresh (s, []) (actors.map fun a => a.prog K d)

/-- One call of one of them. -/
abbrev stepAuth (K : Crypto) (p : AuthPool) (i : ℕ) (e : AuthEnv) : AuthPool :=
  step (traced (authExec K)) noting p i e

/-- What the caller has been told once the call is answered. -/
abbrev heard (K : Crypto) (e : AuthEnv) (p : AuthPool) (w : AuthRecord) (c : AuthCall) : AuthRecord :=
  noting w c (authExec K e c p.shared.1).1

/-- The call that a program makes next. -/
def nextCall : AuthProg Unit → Option AuthCall
  | .ret _ => none
  | .call c _ => some c

/-- A call that is not made for a request. -/
def Beside : AuthCall → Prop
  | .setDirectory _ => True
  | .sweep => True
  | _ => False

/-- Everybody does what they may. -/
def Working (K : Crypto) (d : AuthDaemon) (actors : List AuthActor) : AuthPool → Prop :=
  Obeying noting (fun _ _ _ => True) (fun i w c => ∃ a, actors[i]? = some a ∧ a.Does K d w c)
    (fun i w => ∃ a, actors[i]? = some a ∧ a.Ends w)

variable (p : AuthPool) (i : ℕ)

/-- Actor `i` makes this call next. -/
def Next (c : AuthCall) : Prop := ∃ w k, p.threads[i]? = some (w, .call c k)

/-- Actor `i` has been told `w` and is not done. -/
def Busy (w : AuthRecord) : Prop := ∃ c k, p.threads[i]? = some (w, .call c k)

/-- What actor `i` has been told. -/
def Told (w : AuthRecord) : Prop := ∃ q, p.threads[i]? = some (w, q)

section
variable {K : Crypto} {d : AuthDaemon} {actors : List AuthActor} {p : AuthPool} {i j : ℕ} {e : AuthEnv}
  {w w' : AuthRecord} {c : AuthCall} {k : authSig.Resp c → AuthProg Unit}

/-- After a call, an actor has been told what it was told before, and the caller the answer as well. -/
theorem Told.before (hi : p.Calling i w c k) (hj : Told (stepAuth K p i e) j w') :
    (j = i ∧ w' = heard K e p w c) ∨ (j ≠ i ∧ Told p j w') := by
  obtain ⟨q, hq⟩ := hj
  rcases step_thread hi hq with ⟨hji, hw, -⟩ | ⟨hji, hq⟩
  · exact .inl ⟨hji, hw⟩
  · exact .inr ⟨hji, q, hq⟩

theorem Busy.told (h : Busy p i w) : Told p i w := by
  obtain ⟨c, k, hi⟩ := h
  exact ⟨_, hi⟩

theorem Busy.before (hi : p.Calling i w c k) (hj : Busy (stepAuth K p i e) j w') :
    (j = i ∧ w' = heard K e p w c) ∨ (j ≠ i ∧ Busy p j w') := by
  obtain ⟨c', k', hq⟩ := hj
  rcases step_thread hi hq with ⟨hji, hw, -⟩ | ⟨hji, hq⟩
  · exact .inl ⟨hji, hw⟩
  · exact .inr ⟨hji, c', k', hq⟩

theorem Told.after (hi : p.Calling i w c k) (hj : Told p j w') :
    ∃ w'', Told (stepAuth K p i e) j w'' ∧ ((j = i ∧ w' = w ∧ w'' = heard K e p w c) ∨ (j ≠ i ∧ w'' = w')) := by
  obtain ⟨q, hq⟩ := hj
  obtain ⟨w'', q', hq', hw⟩ := step_later hi hq
  exact ⟨w'', ⟨q', hq'⟩, hw⟩

theorem Told.now (hi : p.Calling i w c k) : Told (stepAuth K p i e) i (heard K e p w c) := by
  refine ⟨k (authExec K e c p.shared.1).1, ?_⟩
  simp only [Pool.step, hi, List.getElem?_set, (List.getElem?_eq_some_iff.mp hi).1, if_true]
  rfl

theorem Told.unique (h : Told p i w) (h' : Told p i w') : w = w' := by
  obtain ⟨q, hq⟩ := h
  obtain ⟨q', hq'⟩ := h'
  rw [hq] at hq'
  cases hq'
  rfl

/-- Every record is fresh at the start. -/
theorem told_start {s : AuthState} (hi : Told (authPool K d s actors) i w) : w = .fresh := by
  obtain ⟨q, hq⟩ := hi
  simp only [authPool, start, getElem?_map, map_eq_some_iff, Prod.mk.injEq] at hq
  obtain ⟨_, _, rfl, -⟩ := hq
  rfl

theorem working_start (s : AuthState) : Working K d actors (authPool K d s actors) := by
  refine obeying_start fun i q hq => ?_
  rw [getElem?_map] at hq
  obtain ⟨a, ha, rfl⟩ := map_eq_some_iff.mp hq
  exact ((a.obeys_prog K d).mono_rules fun _ _ h => ⟨a, ha, h⟩).mono fun _ _ h => ⟨a, ha, h⟩

theorem working_step (h : Working K d actors p) (i : ℕ) (e : AuthEnv) : Working K d actors (stepAuth K p i e) :=
  obeying_step h fun _ _ _ _ => trivial

theorem Working.rule (h : Working K d actors p) {r : AuthRequest} (hactor : actors[i]? = some (.request r))
    (hi : p.Calling i w c k) : Handles K d r w c := by
  obtain ⟨a, ha, hdoes⟩ := Obeying.allowed h hi
  rw [hactor] at ha
  cases ha
  exact hdoes

/-- A call is one that the request of its worker allows, or is not made by a worker. -/
theorem Working.handles (h : Working K d actors p) (hi : p.Calling i w c k) :
    (∃ r, actors[i]? = some (.request r) ∧ Handles K d r w c) ∨ Beside c := by
  obtain ⟨a, ha, hdoes⟩ := Obeying.allowed h hi
  cases a with
  | request r => exact .inl ⟨r, ha, hdoes⟩
  | operator changes =>
    obtain ⟨directory, -, rfl⟩ := hdoes
    exact .inr trivial
  | sweeper ticks =>
    rw [show c = .sweep from hdoes]
    exact .inr trivial

theorem Working.request (h : Working K d actors p) (hi : p.Calling i w c k) (hc : ¬ Beside c) :
    ∃ r, actors[i]? = some (.request r) ∧ Handles K d r w c := (h.handles hi).resolve_right hc

end

/-! ### A subscriber, packet by packet -/

theorem zeros_length : (replicate 16 (0 : UInt8)).length = 16 := length_replicate

/-- The sixteen octets that chance gives here. -/
def zeros : Challenge := ⟨replicate 16 0, zeros_length⟩

/-- A step at a time, with the database at hand. -/
def AuthEnv.at (now : Time) : AuthEnv := ⟨now, false, some zeros, some zeros⟩

/-- The NT hash of "sesame". -/
def annHash : List UInt8 := (Crypto.plain.md4 (Nas.octets "s\x00e\x00s\x00a\x00m\x00e\x00")).1

/-- A subscriber with a password and an NT hash. -/
def annIs (status : SubStatus) : Directory :=
  ⟨(∅ : Rows ℤ Profile).insert 1
      ⟨"ann", "$2a$emases", status, 1, false, some annHash, none, none⟩,
    (∅ : Rows ℤ RatePlan).insert 1 ⟨"100M/100M", 0, 0, none⟩, ∅, []⟩

/-- EAP, and no resolver, MAB or caches. -/
def plainDaemon : AuthDaemon := ⟨none, false, true, none, false, [], false⟩

/-- The password of another, and the right one. -/
def annMistypes : AuthRequest := ⟨⟨"ann", "open", [], "10.0.0.1"⟩, ""⟩

def annTypes : AuthRequest := ⟨⟨"ann", "sesame", [], "10.0.0.1"⟩, ""⟩

def annOpens : AuthRequest := ⟨⟨"ann", "", [2, 1, 0, 5, 1], "10.0.0.1"⟩, ""⟩

/-- The response to the challenge, with a challenge of zeros in return. -/
def annResponse : List UInt8 :=
  (GenerateNTResponse .plain zeros.1 (replicate 16 0) "ann" annHash).toOption.getD []

def annResponds : AuthRequest :=
  ⟨⟨"ann", "", [2, 2, 0, 59, 26, 2, 1, 0, 54, 49] ++ replicate 24 0 ++ annResponse ++ [0], "10.0.0.1"⟩,
    hexEncode zeros.1⟩

def annAcknowledges : AuthRequest :=
  ⟨⟨"ann", "", [2, 3, 0, 6, 26, 3], "10.0.0.1"⟩, hexEncode zeros.1⟩

/-- Actor `i` takes so many steps at that time. -/
def steps (i : ℕ) (n : ℕ) (now : Time) : List (ℕ × AuthEnv) := replicate n (i, .at now)

/-- The actors, with the subscriber in service. -/
def annPool (actors : List AuthActor) : AuthPool :=
  authPool .plain plainDaemon (.start (annIs .active) ∅) actors

def annRun (actors : List AuthActor) (sched : List (ℕ × AuthEnv)) : AuthPool :=
  run (traced (authExec .plain)) noting (annPool actors) sched

/-- What the tables have under the name. -/
def annFound : Option (String × Subscriber) :=
  ((annIs .active).GetSubscriberByUsername "ann").map fun sub => ("ann", sub)

/-- The accept that actor `i` is about to send: to which request, and for whom. -/
def acceptNext (p : AuthPool) (i : ℕ) : Option (AuthRequest × Option (String × Subscriber)) :=
  (p.threads[i]?.bind fun t => nextCall t.2).bind fun c =>
    match c with
    | .write r resp who => if resp.code = .accept then some (r, who) else none
    | _ => none

theorem acceptNext_some {p : AuthPool} {i : ℕ} {r : AuthRequest} {who : Option (String × Subscriber)}
    (h : acceptNext p i = some (r, who)) : ∃ resp, Next p i (.write r resp who) ∧ resp.code = .accept := by
  obtain ⟨c, hc, hwrite⟩ := bind_eq_some_iff.mp h
  obtain ⟨⟨w, q⟩, hq, hnext⟩ := bind_eq_some_iff.mp hc
  cases q with
  | ret u => cases hnext
  | call c' k =>
    cases hnext
    cases c with
    | write r' resp who' =>
      change (if resp.code = .accept then some (r', who') else none) = _ at hwrite
      split at hwrite
      · rename_i hcode
        cases hwrite
        exact ⟨resp, ⟨w, k, hq⟩, hcode⟩
      · cases hwrite
    | _ => cases hwrite

end IspBss.Radius
