import IspBss.Props.AuthWorkers
import IspBss.Props.RateAgreement
import IspBss.Props.VendorRates

/-! Does the verifier cache change an answer?

        password compared, right ──Store──▶ memory ──▶ Check
                                      └───▶ radius_verifier_cache ──restart, Warm──▶ memory

    What is kept of a password is the digest of it and of the hash it was compared with. Everything in either
    place is the digest of a pair that matched, whoever has put it there and whatever has happened to the
    subscriber since; so a digest that is found is found by a password that would match again. -/

namespace IspBss.Radius

open Lib AuthDaemon AuthCall VerifierCacheStore List Localcache Function Except AList

/-! ### The digest -/

/-- The length of a text fits into the eight octets that it is written in. -/
def Short (s : String) : Prop := (Nas.octets s).length < 2 ^ 64
  deriving Decidable

/-- Eight octets hold a number below 2^64. -/
theorem lengthOctets_injective {m n : ℕ} (hm : m < 2 ^ 64) (hn : n < 2 ^ 64)
    (h : ((List.range 8).reverse.map fun i => UInt8.ofNat (m / 256 ^ i)) =
      (List.range 8).reverse.map fun i => UInt8.ofNat (n / 256 ^ i)) : m = n := by
  have hdigit : ∀ i < 8, m / 256 ^ i % 256 = n / 256 ^ i % 256 := by
    intro i hi
    have heq := map_inj_left.mp h i (by simpa using hi)
    simpa using congrArg UInt8.toNat heq
  have h0 := hdigit 0 (by decide)
  have h1 := hdigit 1 (by decide)
  have h2 := hdigit 2 (by decide)
  have h3 := hdigit 3 (by decide)
  have h4 := hdigit 4 (by decide)
  have h5 := hdigit 5 (by decide)
  have h6 := hdigit 6 (by decide)
  have h7 := hdigit 7 (by decide)
  norm_num at h0 h1 h2 h3 h4 h5 h6 h7
  omega

/-- A text behind its length can be told from what follows it. -/
theorem lengthPrefixed_append {s t : String} {a b : List UInt8} (hs : Short s) (ht : Short t)
    (h : lengthPrefixed s ++ a = lengthPrefixed t ++ b) : s = t ∧ a = b := by
  rw [lengthPrefixed, lengthPrefixed, append_assoc, append_assoc] at h
  obtain ⟨hlength, hrest⟩ := append_inj h (by simp)
  obtain ⟨htext, hab⟩ := append_inj hrest (lengthOctets_injective hs ht hlength)
  exact ⟨Nas.octets_injective htext, hab⟩

theorem verifier_injective {K : Crypto} {d : AuthDaemon} (hmac : ∀ secret, Injective (K.hmac secret))
    {password password' hash hash' : String} (hp : Short password) (hp' : Short password') (hh : Short hash)
    (hh' : Short hash') (h : d.verifier K password hash = d.verifier K password' hash') :
    password = password' ∧ hash = hash' := by
  obtain ⟨hpassword, hrest⟩ := lengthPrefixed_append hp hp' (hmac _ h)
  rw [← append_nil (lengthPrefixed hash),
    ← append_nil (lengthPrefixed hash')] at hrest
  exact ⟨hpassword, (lengthPrefixed_append hh hh' hrest).1⟩

/-! ### What is kept -/

/-- The digest of a password and of a hash that it matches. -/
def Genuine (K : Crypto) (d : AuthDaemon) (mac : List UInt8) : Prop :=
  ∃ password hash, Short password ∧ Short hash ∧ K.compareHashAndPassword hash password = true ∧
    mac = d.verifier K password hash

def Directory.ShortHashes (dir : Directory) : Prop :=
  ∀ id profile, dir.subscribers.lookup id = some profile → Short profile.passwordHash

theorem Directory.Holds.short {dir : Directory} {sub : Subscriber} (h : dir.Holds sub)
    (hdir : dir.ShortHashes) : Short sub.passwordHash := by
  obtain ⟨profile, hrow, -, hhash⟩ := h
  rw [← hhash]
  exact hdir _ _ hrow

/-- Everything that is kept is genuine, and the hashes are of a length that can be told. -/
structure Sound (K : Crypto) (d : AuthDaemon) (s : AuthState) : Prop where
  verifiers {key x} : s.verifiers.entries.lookup key = some x → Genuine K d x.val
  persisted {id row} : s.persisted.lookup id = some row → Genuine K d row.verifier
  directory : s.directory.ShortHashes
  cached {key x sub} : s.subscribers.entries.lookup key = some x → x.val.subscriber = some sub →
    Short sub.passwordHash

/-- What a call may put there. -/
def Writes (K : Crypto) (d : AuthDaemon) : AuthCall → Prop
  | .verifierSet _ mac _ => Genuine K d mac
  | .persistSave _ _ mac _ => Genuine K d mac
  | .cacheResult _ _ found => ∀ sub ∈ found, Short sub.passwordHash
  | .setDirectory dir => dir.ShortHashes
  | _ => True

section
variable {K : Crypto} {d : AuthDaemon} {e : AuthEnv} {c : AuthCall} {s : AuthState} {w : AuthRecord} {id : ℤ}
  {row : PersistedVerifier} {now : Time}

/-- A verifier in memory was there, or has just been put there. -/
theorem verifier_entry {key : String} {x : Entry (List UInt8)}
    (h : (c.run K e s).2.verifiers.entries.lookup key = some x) :
    s.verifiers.entries.lookup key = some x ∨ ∃ u ttl, c = .verifierSet u x.val ttl := by
  cases c with
  | verifierSet u mac ttl =>
    rw [run, Store.lookup_set] at h
    split at h
    · cases h
      exact .inr ⟨u, ttl, rfl⟩
    · exact .inl h
  | verifierDelete u =>
    rw [run, Store.lookup_delete] at h
    split at h
    · cases h
    · exact .inl h
  | sweep => exact .inl (Store.lookup_sweep h)
  | restart => cases h
  | _ => exact .inl h

theorem save_entry {id' : ℤ} {row' : PersistedVerifier} (h : (Save id row s).2.lookup id' = some row') :
    s.persisted.lookup id' = some row' ∨ row' = row := by
  unfold Save at h
  split at h
  · exact .inl h
  split at h
  · exact .inl h
  split at h
  · exact .inl h
  · by_cases hid : id' = id
    · rw [hid, lookup_insert] at h
      exact .inr (Option.some.inj h).symm
    · rw [lookup_insert_ne hid] at h
      exact .inl h

/-- A row was there, or has just been saved. -/
theorem persisted_entry (h : (c.run K e s).2.persisted.lookup id = some row) :
    s.persisted.lookup id = some row ∨ ∃ id', c = .persistSave id' row.username row.verifier row.expiresAt := by
  have hdelete : ∀ {gone : ℤ → PersistedVerifier → Bool}, (s.persisted.delete gone).lookup id = some row →
      s.persisted.lookup id = some row := by
    intro gone h
    rw [Rows.lookup_delete] at h
    exact (Option.filter_eq_some_iff.mp h).1
  cases c with
  | persistSave id' u mac expiresAt =>
    change (if e.fails then (error VerifierErr.unavailable, s.persisted)
      else Save id' ⟨u, mac, expiresAt⟩ s).2.lookup id = some row at h
    split at h
    · exact .inl h
    · rcases save_entry h with hold | rfl
      · exact .inl hold
      · exact .inr ⟨id', rfl⟩
  | persistDelete u =>
    change (if e.fails then s.persisted else s.persisted.delete _).lookup id = some row at h
    split at h
    · exact .inl h
    · exact .inl (hdelete h)
  | reapExpired =>
    change (if e.fails then s.persisted else s.persisted.delete _).lookup id = some row at h
    split at h
    · exact .inl h
    · exact .inl (hdelete h)
  | setDirectory dir => exact .inl (hdelete h)
  | _ => exact .inl h

theorem sound_start {directory : Directory} (h : directory.ShortHashes) : Sound K d (.start directory ∅) where
  verifiers h := by cases h
  persisted h := by cases h
  directory := h
  cached h := by cases h

theorem sound_run (h : Sound K d s) (hc : Writes K d c) : Sound K d (c.run K e s).2 where
  verifiers hx := by
    rcases verifier_entry hx with hold | ⟨u, ttl, rfl⟩
    · exact h.verifiers hold
    · exact hc
  persisted hrow := by
    rcases persisted_entry hrow with hold | ⟨id', rfl⟩
    · exact h.persisted hold
    · exact hc
  directory := by
    cases c with
    | setDirectory dir => exact hc
    | _ => exact h.directory
  cached hx hsub := by
    rcases cached_entry hx with hold | ⟨cache, u, found, rfl, -, hval, -⟩
    · exact h.cached hold hsub
    · exact hc _ (hval.symm.trans hsub)

/-- What is loaded is genuine. -/
theorem Sound.loaded (h : Sound K d s) (hrow : row ∈ LoadActive now s) : Genuine K d row.verifier := by
  have hmem := mem_mergeSort.mp (mem_of_mem_take hrow)
  obtain ⟨⟨id, row'⟩, hentry, rfl⟩ := mem_map.mp (mem_filter.mp hmem).1
  exact h.persisted (mem_lookup_iff.mpr hentry)

/-- A password that finds its digest is right. -/
theorem Sound.hit (h : Sound K d s) (hmac : ∀ secret, Injective (K.hmac secret)) {u password hash : String} (hp : Short password) (hh : Short hash)
    (hget : s.verifiers.Get now (verifierKey u) = some (d.verifier K password hash)) :
    K.compareHashAndPassword hash password = true := by
  obtain ⟨x, hx, -, hval⟩ := Store.get_eq_some.mp hget
  obtain ⟨password', hash', hp', hh', hmatch, hgenuine⟩ := h.verifiers hx
  obtain ⟨rfl, rfl⟩ := verifier_injective hmac hp hp' hh hh' (hval.symm.trans hgenuine)
  exact hmatch

/-! ### What a worker has been told -/

/-- The comparison that a worker has made came out as it does, and the record it goes by is of a length that
    can be told. -/
structure Honest (K : Crypto) (w : AuthRecord) : Prop where
  compared {hash password same} : w.compared = some (hash, password, same) →
    same = K.compareHashAndPassword hash password
  looked {u sub} : w.looked = some (u, .ok (some sub)) → Short sub.passwordHash

theorem honest_told (h : Honest K w) (hs : Sound K d s) : Honest K (noting w c (authExec K e c s).1) where
  compared hc := by
    rcases compared_told hc with hold | ⟨-, hsame⟩
    · exact h.compared hold
    · exact hsame
  looked hlooked := by
    rcases looked_told hlooked with hold | ⟨-, entry, hget, hfound⟩ | ⟨-, hfound⟩ | ⟨nasID, -, hfound⟩
    · exact h.looked hold
    · obtain ⟨x, hx, -, rfl⟩ := Store.get_eq_some.mp hget
      exact hs.cached hx (ok.inj hfound).symm
    · split at hfound
      · cases hfound
      · exact (Directory.holds_username (ok.inj hfound).symm).short hs.directory
    · split at hfound
      · cases hfound
      · rcases Directory.holds_mac (ok.inj hfound).symm with hholds | ⟨-, hempty⟩
        · exact hholds.short hs.directory
        · rw [hempty]
          decide

/-- A worker puts only what is genuine. -/
theorem writes_of_handles {r : AuthRequest} (hr : Short r.userPassword) (hw : Honest K w)
    (hc : Handles K d r w c) : Writes K d c := by
  have hmatched : ∀ {u mac}, Matched K d r w u mac → Genuine K d mac := by
    rintro u mac ⟨sub, hlooked, hcompared, rfl⟩
    exact ⟨r.userPassword, sub.passwordHash, hr, hw.looked hlooked, (hw.compared hcompared).symm, rfl⟩
  cases c with
  | verifierSet u mac ttl => exact hmatched hc
  | persistSave id u mac expiresAt => exact hmatched hc
  | cacheResult cache u found =>
    intro sub hsub
    refine hw.looked (u := u) ?_
    rw [hc.2.2.1, hsub]
  | setDirectory dir => exact hc.elim
  | _ => exact trivial

end

/-! ### Logins, edits, sweeps, invalidations, reaping and restarts -/

/-- Besides the workers, the operators and the sweeps: a restart with its warm-up, an invalidation by the daemon
    and one by the API, which reaches only the rows, and the reaper. -/
inductive VerifierActor where
  | daemon (a : AuthActor)
  | starter
  | invalidator (username : String)
  | subCacheInvalidator (username : String)
  | reaper

namespace VerifierActor

def prog (K : Crypto) (d : AuthDaemon) : VerifierActor → AuthProg Unit
  | daemon a => a.prog K d
  | starter => do
    AuthCall.restart.ask
    d.Warm.void
  | invalidator username => (d.Invalidate username).void
  | subCacheInvalidator username => (AuthCall.persistDelete username).ask.void
  | reaper => AuthCall.reapExpired.ask.void

/-- What an actor may do, if what it loads is genuine. -/
def Does (K : Crypto) (d : AuthDaemon) : VerifierActor → AuthRecord → AuthCall → Prop
  | daemon a, w, c => a.Does K d w c
  | starter, _, c => Writes K d c
  | invalidator _, _, c => Writes K d c
  | subCacheInvalidator _, _, c => Writes K d c
  | reaper, _, c => Writes K d c

/-- Passwords and hashes have lengths that can be told. -/
def Brief : VerifierActor → Prop
  | daemon (.request r) => Short r.userPassword
  | daemon (.operator changes) => ∀ dir ∈ changes, dir.ShortHashes
  | _ => True

end VerifierActor

/-- Rows that are loaded are genuine. -/
def LoadsGenuine (K : Crypto) (d : AuthDaemon) (_ : AuthRecord) : (c : AuthCall) → authSig.Resp c → Prop
  | .loadActive, a => ∀ rows, a.1 = .ok rows → ∀ row ∈ rows, Genuine K d row.verifier
  | _, _ => True

section
variable {K : Crypto} {d : AuthDaemon} {w : AuthRecord}

/-- The warm-up puts into memory what it has loaded. -/
theorem obeys_warm : Prog.Obeys noting (LoadsGenuine K d) (fun _ c => Writes K d c) (fun _ _ => True) d.Warm w := by
  unfold Warm
  split
  · trivial
  · refine ⟨trivial, fun a ha => ?_⟩
    match a with
    | (.error err, _) => exact trivial
    | (.ok rows, _) =>
      refine ⟨trivial, fun now _ => ?_⟩
      have hcalls : Prog.Calls (Writes K d) (Prog.each (fun row : PersistedVerifier =>
          (verifierSet row.username row.verifier (row.expiresAt - now.1)).ask)
            (rows.filter fun row => 0 < row.expiresAt - now.1)) :=
        Prog.calls_each fun row hrow => ⟨ha rows rfl row (mem_filter.mp hrow).1, fun _ => trivial⟩
      refine (Prog.obeys_bind (p := Prog.each _ _)).mpr ?_
      exact (hcalls.obeys (fun _ _ h => h) _).mono fun _ _ _ => trivial

theorem VerifierActor.obeys_prog (a : VerifierActor) :
    Prog.Obeys noting (LoadsGenuine K d) (a.Does K d) (fun _ _ => True) (a.prog K d) .fresh := by
  cases a with
  | daemon a => exact ((a.obeys_prog K d).mono_answers fun _ _ _ _ => trivial).mono fun _ _ _ => trivial
  | starter =>
    refine ⟨trivial, fun _ _ => (Prog.obeys_bind (p := d.Warm)).mpr ?_⟩
    exact obeys_warm.mono fun _ _ _ => trivial
  | invalidator username =>
    have hcalls : Prog.Calls (Writes K d) ((invalidator username).prog K d) := by
      refine Prog.calls_void ?_
      unfold Invalidate
      split
      · trivial
      · refine ⟨trivial, fun _ => ?_⟩
        split
        · exact ⟨trivial, fun _ => trivial⟩
        · trivial
    exact hcalls.obeys (fun _ _ h => h) _
  | subCacheInvalidator username => exact ⟨trivial, fun _ _ => trivial⟩
  | reaper => exact ⟨trivial, fun _ _ => trivial⟩

/-- What an actor puts is genuine. -/
theorem VerifierActor.writes {a : VerifierActor} {c : AuthCall} (hbrief : a.Brief) (hw : Honest K w)
    (hc : a.Does K d w c) : Writes K d c := by
  cases a with
  | daemon a =>
    cases a with
    | request r => exact writes_of_handles hbrief hw hc
    | operator changes =>
      obtain ⟨dir, hmem, rfl⟩ := hc
      exact hbrief dir hmem
    | sweeper ticks =>
      rw [show c = .sweep from hc]
      exact trivial
  | _ => exact hc

end

abbrev VerifierPool := Pool authSig AuthRecord AuthState

/-- All actors at their beginning, with nothing persisted. -/
def verifierPool (K : Crypto) (d : AuthDaemon) (directory : Directory) (actors : List VerifierActor) :
    VerifierPool :=
  Pool.start .fresh (.start directory ∅) (actors.map fun a => a.prog K d)

/-- Everybody does what they may, what is kept is genuine, and what was told is so. -/
structure Keeping (K : Crypto) (d : AuthDaemon) (actors : List VerifierActor) (p : VerifierPool) :
    Prop where
  obeying : Pool.Obeying noting (LoadsGenuine K d) (fun i w c => ∃ a, actors[i]? = some a ∧ a.Does K d w c)
    (fun _ _ => True) p
  sound : Sound K d p.shared
  honest : Pool.Recorded (fun _ w => Honest K w) p

section
variable {K : Crypto} {d : AuthDaemon} {actors : List VerifierActor} {p : VerifierPool} {i : ℕ} {e : AuthEnv}

theorem keeping_start {directory : Directory} (h : directory.ShortHashes) :
    Keeping K d actors (verifierPool K d directory actors) where
  obeying := by
    refine Pool.obeying_start fun i q hq => ?_
    rw [List.getElem?_map] at hq
    obtain ⟨a, ha, rfl⟩ := Option.map_eq_some_iff.mp hq
    exact a.obeys_prog.mono_rules fun _ _ h => ⟨a, ha, h⟩
  sound := sound_start h
  honest := Pool.recorded_start ⟨nofun, nofun⟩

theorem keeping_step (hbrief : ∀ a ∈ actors, a.Brief) (h : Keeping K d actors p) :
    Keeping K d actors (Pool.step (authExec K) noting p i e) where
  obeying := by
    refine Pool.obeying_step h.obeying fun w c k hi => ?_
    cases c with
    | loadActive =>
      intro rows hrows row hrow
      change (if e.fails then error VerifierErr.unavailable
        else .ok (LoadActive e.now p.shared)) = .ok rows at hrows
      split at hrows
      · cases hrows
      · cases hrows
        exact h.sound.loaded hrow
    | _ => exact trivial
  sound := by
    rcases Pool.step_cases p i e with ⟨-, hs⟩ | ⟨w, c, k, hi, -⟩
    · rw [hs]
      exact h.sound
    · rw [Pool.step_shared hi]
      obtain ⟨a, ha, hdoes⟩ := Pool.Obeying.allowed h.obeying hi
      exact sound_run h.sound
        (VerifierActor.writes (hbrief a (mem_of_getElem? ha)) (h.honest _ _ _ hi) hdoes)
  honest := by
    refine Pool.recorded_step h.honest fun w c k hi hw => ⟨fun _ h => h, ?_⟩
    exact honest_told hw h.sound

end

/-! ### With and without -/

/-- What has been sent when a request has been handled. -/
def answers (K : Crypto) (d : AuthDaemon) (r : AuthRequest) (e : AuthEnv) (s : AuthState) :
    List (AuthRequest × AuthResponse) :=
  (Prog.run (authExec K) e (d.handleAuth K r) s).2.sent

namespace AuthDaemon

/-- The same daemon, without the verifier cache. -/
def bcryptOnly (d : AuthDaemon) : AuthDaemon := { d with verifierCache := false }

variable {K : Crypto} {d : AuthDaemon} {r : AuthRequest} {e : AuthEnv} {s : AuthState}

theorem papAccept_sent (sub : Subscriber) (hasFailures : Bool) :
    (Prog.run (authExec K) e (d.papAccept r sub hasFailures) s).2.sent = s.sent ++ [(r, d.accept r e.now sub)] := by
  cases hasFailures <;> rfl

theorem verifierStore_sent (id : ℤ) (u password hash : String) :
    (Prog.run (authExec K) e (d.verifierStore K id u password hash) s).2.sent = s.sent := by
  unfold verifierStore
  split
  · rfl
  · cases hpersist : d.persist with
    | true => rfl
    | false => rfl

/-- Looking a digest up changes nothing. -/
theorem verifierCheck_run (u password hash : String) :
    ∃ found, Prog.run (authExec K) e (d.verifierCheck K u password hash) s = (found, s) ∧
      (found = true → s.verifiers.Get e.now (verifierKey u) = some (d.verifier K password hash)) := by
  unfold verifierCheck
  split
  · exact ⟨false, rfl, nofun⟩
  rw [Prog.run_bind]
  cases hget : s.verifiers.Get e.now (verifierKey u) with
  | none =>
    rw [show Prog.run (authExec K) e (verifierGet u).ask s = (none, s) by rw [← hget]; rfl]
    exact ⟨false, rfl, nofun⟩
  | some mac =>
    rw [show Prog.run (authExec K) e (verifierGet u).ask s = (some mac, s) by rw [← hget]; rfl]
    refine ⟨_, rfl, fun h => ?_⟩
    rw [of_decide_eq_true h]

/-- Whatever is found, the answer is what the comparison gives. -/
theorem papVerify_sent {sub : Subscriber} (hasFailures : Bool)
    (hhit : s.verifiers.Get e.now (verifierKey r.userName) =
        some (d.verifier K r.userPassword sub.passwordHash) →
      K.compareHashAndPassword sub.passwordHash r.userPassword = true) :
    (Prog.run (authExec K) e (d.papVerify K r sub hasFailures) s).2.sent = s.sent ++
      [(r, if K.compareHashAndPassword sub.passwordHash r.userPassword then d.accept r e.now sub
        else ⟨.reject, none, none, [], false⟩)] := by
  obtain ⟨found, hcheck, hfound⟩ :=
    verifierCheck_run r.userName r.userPassword sub.passwordHash
  rw [papVerify, Prog.run_bind, hcheck]
  cases found with
  | true =>
    rw [if_pos (hhit (hfound rfl))]
    exact papAccept_sent sub hasFailures
  | false =>
    rw [if_neg nofun, Prog.run_bind]
    rw [show Prog.run (authExec K) e (compareHashAndPassword sub.passwordHash r.userPassword).ask s =
      (K.compareHashAndPassword sub.passwordHash r.userPassword, s) from rfl]
    cases K.compareHashAndPassword sub.passwordHash r.userPassword with
    | true =>
      rw [if_pos rfl, if_pos rfl, Prog.run_bind, papAccept_sent, verifierStore_sent]
    | false => rfl

/-- The lookup of a subscriber leaves everything sound. -/
theorem lookup_sound (h : Sound K d s) (u : String) :
    Sound K d (Prog.run (authExec K) e (d.GetSubscriberByUsername u) s).2 ∧
    ∀ sub, (Prog.run (authExec K) e (d.GetSubscriberByUsername u) s).1 = .ok (some sub) →
      Short sub.passwordHash := by
  have hfresh : Honest K .fresh := ⟨nofun, nofun⟩
  have hdb : ∀ sub, (run K e (.dbSubscriber u) s).1 = .ok (some sub) → Short sub.passwordHash :=
    fun sub hfound => (honest_told (c := .dbSubscriber u) hfresh h).looked
      (congrArg (fun x => some (u, x)) hfound)
  unfold GetSubscriberByUsername
  split
  · exact ⟨h, hdb⟩
  · rename_i cache hcache
    rw [Prog.run_bind]
    cases hget : s.subscribers.Get e.now (Cache.SubscriberCacheKey u) with
    | some entry =>
      rw [show Prog.run (authExec K) e (cacheGet u).ask s = (some entry, s) by rw [← hget]; rfl]
      obtain ⟨x, hx, -, rfl⟩ := Store.get_eq_some.mp hget
      exact ⟨h, fun sub hfound => h.cached hx (ok.inj hfound)⟩
    | none =>
      rw [show Prog.run (authExec K) e (cacheGet u).ask s = (none, s) by rw [← hget]; rfl]
      rw [Prog.run_bind]
      rw [show Prog.run (authExec K) e (dbSubscriber u).ask s =
        ((run K e (.dbSubscriber u) s).1, s) from rfl]
      cases hfound : (run K e (.dbSubscriber u) s).1 with
      | error err => exact ⟨h, nofun⟩
      | ok found =>
        refine ⟨sound_run h fun sub hsub => hdb sub ?_, fun sub hsub => hdb sub ?_⟩
        · rw [hfound, hsub]
        · rw [hfound]
          exact hsub

/-- The answers are the same. -/
theorem handlePAP_sent (h : Sound K d s) (hmac : ∀ secret, Injective (K.hmac secret))
    (hr : Short r.userPassword) :
    (Prog.run (authExec K) e (d.handlePAP K r) s).2.sent =
      (Prog.run (authExec K) e (d.bcryptOnly.handlePAP K r) s).2.sent := by
  obtain ⟨hsound, hshort⟩ := lookup_sound h r.userName
  have hcheck : (Prog.run (authExec K) e (Check r.userName) s).2 = s := by
    rw [Check, Prog.run_bind]
    rw [show Prog.run (authExec K) e (guardGet r.userName).ask s =
      (s.guard.Get e.now (BruteForceKey r.userName), s) from rfl]
    cases s.guard.Get e.now (BruteForceKey r.userName) <;> rfl
  rw [handlePAP, handlePAP, Prog.run_bind, Prog.run_bind, hcheck]
  obtain ⟨blocked, hasFailures⟩ := (Prog.run (authExec K) e (Check r.userName) s).1
  cases blocked with
  | true => rfl
  | false =>
    dsimp only
    rw [if_neg nofun, if_neg nofun, Prog.run_bind, Prog.run_bind]
    rw [show d.bcryptOnly.GetSubscriberByUsername r.userName = d.GetSubscriberByUsername r.userName from rfl]
    generalize Prog.run (authExec K) e (d.GetSubscriberByUsername r.userName) s = x at hsound hshort
    obtain ⟨found, s'⟩ := x
    match found with
    | .error err => rfl
    | .ok none => rfl
    | .ok (some sub) =>
      dsimp only
      split
      · rfl
      · have hhit : s'.verifiers.Get e.now (verifierKey r.userName) =
            some (d.verifier K r.userPassword sub.passwordHash) →
            K.compareHashAndPassword sub.passwordHash r.userPassword = true :=
          hsound.hit hmac hr (hshort sub rfl)
        rw [papVerify_sent hasFailures hhit, papVerify_sent (d := d.bcryptOnly) hasFailures hhit]
        rfl

end AuthDaemon

theorem answers_bcryptOnly {K : Crypto} {d : AuthDaemon} {s : AuthState} (h : Sound K d s)
    (hmac : ∀ secret, Injective (K.hmac secret)) {r : AuthRequest} (hr : Short r.userPassword)
    (e : AuthEnv) : answers K d r e s = answers K d.bcryptOnly r e s := by
  rw [answers, answers, handleAuth, handleAuth]
  split
  · rfl
  · rw [show d.bcryptOnly.isMAB r = d.isMAB r from rfl]
    split
    · rfl
    · exact handlePAP_sent h hmac hr

/-- A worker that is about to find the digest of its password would find its password right. -/
def HitsMatch (K : Crypto) (d : AuthDaemon) (actors : List VerifierActor) (p : VerifierPool) (i : ℕ)
    (e : AuthEnv) : Prop :=
  ∀ r w u k sub, actors[i]? = some (.daemon (.request r)) →
    p.threads[i]? = some (w, .call (.verifierGet u) k) → w.looked = some (r.userName, .ok (some sub)) →
    p.shared.verifiers.Get e.now (verifierKey u) = some (d.verifier K r.userPassword sub.passwordHash) →
    K.compareHashAndPassword sub.passwordHash r.userPassword = true

/-- Whatever logins, edits, sweeps, invalidations and restarts have come before, in whatever order their steps
    were taken, a worker is spared only comparisons that would succeed; and a request is answered as it would be
    without the cache. -/
theorem verifier_cache_changes_no_answer (K : Crypto) (d : AuthDaemon)
    (hmac : ∀ secret, Injective (K.hmac secret)) (directory : Directory)
    (hdirectory : directory.ShortHashes) (actors : List VerifierActor) (hbrief : ∀ a ∈ actors, a.Brief)
    (sched : List (ℕ × AuthEnv)) :
    Pool.Meets (authExec K) noting (HitsMatch K d actors) (verifierPool K d directory actors) sched ∧
    ∀ r e, Short r.userPassword →
      answers K d r e (Pool.run (authExec K) noting (verifierPool K d directory actors) sched).shared =
      answers K d.bcryptOnly r e
        (Pool.run (authExec K) noting (verifierPool K d directory actors) sched).shared := by
  have hall : ∀ p i e, Keeping K d actors p → True →
      HitsMatch K d actors p i e ∧ Keeping K d actors (Pool.step (authExec K) noting p i e) := by
    intro p i e h _
    refine ⟨?_, keeping_step hbrief h⟩
    intro r w u k sub hactor hi hlooked hget
    exact h.sound.hit hmac (hbrief _ (mem_of_getElem? hactor)) ((h.honest _ _ _ hi).looked hlooked) hget
  have hmeets := Pool.meets_of_forall (M := authExec K) (m := noting) (C := fun _ _ _ => True)
    (fun _ _ _ => trivial) sched (verifierPool K d directory actors)
  refine ⟨Pool.meets_inv hall sched _ (keeping_start hdirectory) hmeets, fun r e hr => ?_⟩
  have hend := Pool.run_inv (fun p i e h hc => (hall p i e h hc).2) sched _ (keeping_start hdirectory) hmeets
  exact answers_bcryptOnly hend.sound hmac hr e

/-- A subscriber whose digest has as many octets as the column holds. -/
def bobIs : Directory :=
  ⟨(∅ : Rows ℤ Profile).insert 1 ⟨"bob", "$2a$nepo", .active, 1, false, none, none, none⟩,
    (∅ : Rows ℤ RatePlan).insert 1 ⟨"100M/100M", 0, 0, none⟩, ∅, []⟩

/-- Both tiers of the verifier cache. -/
def keepingDaemon : AuthDaemon := ⟨none, false, false, none, true, Nas.octets "salt", true⟩

def bobTypes : AuthRequest := ⟨⟨"bob", "open", [], "10.0.0.1"⟩, ""⟩

/-- A login, and a restart. -/
def warmedUp : VerifierPool :=
  Pool.run (authExec .plain) noting
    (verifierPool .plain keepingDaemon bobIs [.daemon (.request bobTypes), .starter])
    (steps 0 11 0 ++ steps 1 4 1)

/-- After the restart the digest is found again, and the login is answered as it would be without. -/
theorem bob_warmed_up :
    warmedUp.shared.verifiers.Get 2 (verifierKey "bob") =
      some (keepingDaemon.verifier .plain "open" "$2a$nepo") ∧
    answers .plain keepingDaemon bobTypes (.at 2) warmedUp.shared =
      answers .plain keepingDaemon.bcryptOnly bobTypes (.at 2) warmedUp.shared := by
  refine ⟨by decide +kernel, ?_⟩
  refine (verifier_cache_changes_no_answer .plain keepingDaemon (fun _ _ _ h => append_cancel_left h) bobIs ?_ _ ?_ _).2
    bobTypes (.at 2) (by decide)
  · intro id profile hrow
    by_cases hid : id = 1
    · rw [bobIs, hid, lookup_insert] at hrow
      cases hrow
      decide
    · rw [bobIs, lookup_insert_ne hid] at hrow
      cases hrow
  · intro a ha
    rcases mem_pair.mp ha with rfl | rfl
    · exact (by decide : Short bobTypes.userPassword)
    · trivial

end IspBss.Radius
