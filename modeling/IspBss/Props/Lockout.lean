import IspBss.Props.AuthWorkers

/-! Does the lockout lock out?

    The counter of a name is asked at the start of a PAP request and of an EAP conversation; it is counted up
    later, in another packet if it is EAP, and set to expire in a step of its own.

        PAP   Check ─▶ … ─▶ verified ─▶ Reset ─▶ accept          EAP   Check ─▶ challenge
                        └─▶ Incr ─▶ Expire ─▶ reject                   …   (no Check)   response ─▶ …

    If one request at a time is handled of a name, and an EAP conversation is continued only while the name is
    not locked out, then ten failures since the last success keep everybody out. -/

namespace IspBss.Radius

open Lib Localcache Pool Option Counter AuthActor

/-! ### Failures and successes -/

/-- The failures of a name since it was last authenticated, and when the last one was. -/
structure Tries where
  count : ℕ
  last : Time
  deriving DecidableEq

/-- The name that a failure is recorded for, and the name that is accepted through PAP or EAP. -/
def failedBy : AuthCall → Option String
  | .guardIncr u => some u
  | _ => none

variable (d : AuthDaemon)

def authenticatedBy : AuthCall → Option String
  | .write r resp who =>
    if resp.code = .accept ∧ (r.eapMessage = [] → d.isMAB r = false) then who.map Prod.fst else none
  | _ => none

def Tries.next (u : String) (t : Tries) (ev : AuthEvent) : Tries :=
  if failedBy ev.call = some u then ⟨t.count + 1, ev.env.now⟩
  else if authenticatedBy d ev.call = some u then ⟨0, t.last⟩
  else t

def tries (u : String) (h : List AuthEvent) : Tries := h.foldl (Tries.next d u) ⟨0, 0⟩

@[simp] theorem tries_append (u : String) (h : List AuthEvent) (ev : AuthEvent) :
    tries d u (h ++ [ev]) = (tries d u h).next d u ev := by
  simp [tries]

/-- Too many failures, and the lockout has not passed since the last of them. -/
def Locked (h : List AuthEvent) (now : Time) (u : String) : Prop :=
  MaxFailedAttempts ≤ (tries d u h).count ∧ now ≤ (tries d u h).last + LockoutDuration
  deriving Decidable

/-- The name whose credential a call checks, or that it accepts through PAP or EAP. -/
def credentialOf (actors : List AuthActor) (i : ℕ) : AuthCall → Option String
  | .verifierGet u => some u
  | .compareHashAndPassword _ _ => (actors[i]?.bind request?).map fun r => r.userName
  | .verifyMSCHAPv2 _ _ _ _ u => some u
  | .write r resp who => authenticatedBy d (.write r resp who)
  | _ => none

/-- The step neither checks a credential of a name that is locked out nor accepts it. -/
def KeepsOut (actors : List AuthActor) (p : AuthPool) (i : ℕ) (e : AuthEnv) : Prop :=
  ∀ c u, Next p i c → credentialOf d actors i c = some u → ¬ Locked d p.shared.2 e.now u

/-! ### What is asked of the requests -/

/-- The name that a worker's request is about. -/
def subjectOf (r : AuthRequest) (w : AuthRecord) : Option String :=
  if r.eapMessage = [] then (if w.guard.isSome then some r.userName else none)
  else w.read.map EAPSession.username

theorem subjectOf_iff {r : AuthRequest} {w : AuthRecord} {u : String} : subjectOf r w = some u ↔ Subject r w u := by
  unfold subjectOf Subject
  by_cases hplain : r.eapMessage = []
  · by_cases hguard : w.guard.isSome = true <;> simp [hplain, hguard, eq_comm]
  · simp only [hplain, if_false, map_eq_some_iff, false_and, not_false_eq_true, true_and, false_or,
      ne_eq]
    exact exists_congr fun _ => and_congr_right fun _ => eq_comm

/-- Worker `j` handles a request about the name, and has not answered it. -/
def Pending (actors : List AuthActor) (p : AuthPool) (j : ℕ) (u : String) : Prop :=
  ∃ t ∈ p.threads[j]?, ∃ r ∈ actors[j]?.bind request?, t.1.answered = false ∧
    subjectOf r t.1 = some u
  deriving Decidable

/-- The name that a request turns to with a call: PAP when it asks the lockout, EAP when it reads the
    session. -/
def turnsTo (s : AuthState) (r : AuthRequest) (w : AuthRecord) : AuthCall → Option String
  | .guardGet u => if r.eapMessage = [] then some u else none
  | .readSession ref =>
    if r.eapMessage ≠ [] ∧ w.loaded.isSome ∧ w.read = none then
      s.sessions[ref]?.map EAPSession.username
    else none
  | _ => none

def expiredBy : AuthCall → Option String
  | .guardExpire u => some u
  | _ => none

/-- What is asked of a call: requests about one name come one after the other, and EAP goes on only if the
    name is not locked out; a failure comes before the one before it has lapsed, and what was counted is there
    when its expiry is set. -/
@[mk_iff]
structure Careful (d : AuthDaemon) (actors : List AuthActor) (p : AuthPool) (e : AuthEnv) (r : AuthRequest)
    (w : AuthRecord) (c : AuthCall) : Prop where
  alone : ∀ u ∈ turnsTo p.shared.1 r w c, ∀ j < p.threads.length, ¬ Pending actors p j u
  unlocked : ∀ u ∈ turnsTo p.shared.1 r w c, r.eapMessage ≠ [] →
    ∀ n ∈ p.shared.1.guard.Get e.now (BruteForceKey u), n < MaxFailedAttempts
  steady : ∀ u ∈ failedBy c, 0 < (tries d u p.shared.2).count →
    e.now ≤ (tries d u p.shared.2).last + LockoutDuration
  present : ∀ u ∈ expiredBy c, (p.shared.1.guard.entries.lookup (BruteForceKey u)).isSome = true

instance (d : AuthDaemon) (actors : List AuthActor) (p : AuthPool) (e : AuthEnv) (r : AuthRequest)
    (w : AuthRecord) (c : AuthCall) : Decidable (Careful d actors p e r w c) :=
  decidable_of_iff' _ (careful_iff ..)

/-- The condition on a step. -/
def Guarded (d : AuthDaemon) (actors : List AuthActor) (p : AuthPool) (i : ℕ) (e : AuthEnv) : Prop :=
  ∀ t ∈ p.threads[i]?, ∀ c ∈ nextCall t.2, ∀ r ∈ actors[i]?.bind request?,
    Careful d actors p e r t.1 c
  deriving Decidable

/-! ### The invariant -/

/-- Worker `j` handles the request about the name and has been told `w`. -/
structure Handling (actors : List AuthActor) (p : AuthPool) (u : String) (j : ℕ) (r : AuthRequest)
    (w : AuthRecord) : Prop where
  actor : actors[j]? = some (.request r)
  told : Told p j w
  subject : Subject r w u
  unanswered : w.answered = false

section
variable (T : Tries) (t : Time) (o : Option Localcache.CounterEntry) (H : ℕ → AuthRequest → AuthRecord → Prop)

/-- What the counter of a name, and who is at work on it, have to do with its failures. -/
inductive Counted : Prop where
  | nothing (h : T.count = 0)
  | lapsed (h : T.last + LockoutDuration < t)
  | held (x : Localcache.CounterEntry) (hx : o = some x) (hcount : T.count ≤ x.count)
      (hexp : ∀ y ∈ x.expires, T.last + LockoutDuration ≤ y)
  | recording (j : ℕ) (r : AuthRequest) (w : AuthRecord) (h : H j r w) (hfailed : w.failed = true)
      (hrecorded : w.recorded = false) (hcount : ∀ x, o = some x → T.count ≤ x.count)
  | clearing (j : ℕ) (r : AuthRequest) (w : AuthRecord) (h : H j r w) (hreset : w.reset = true)

/-- Too few failures to be locked out, or the lockout has passed. -/
def Free : Prop := T.count < MaxFailedAttempts ∨ T.last + LockoutDuration < t

structure Watched : Prop where
  once {i j r r' w w'} : H i r w → H j r' w' → i = j
  past : 0 < T.count → T.last ≤ t
  counted : Counted T t o H
  -- whoever has been let through was let through rightly
  passed {i r w} : H i r w → w.failed = false → (r.eapMessage = [] → w.Cleared) → Free T t

end

abbrev Lockout (d : AuthDaemon) (actors : List AuthActor) (u : String) (t : Time) (p : AuthPool) : Prop :=
  Watched (tries d u p.shared.2) t (p.shared.1.guard.entries.lookup (BruteForceKey u)) (Handling actors p u)

section
variable {K : Crypto} {d : AuthDaemon} {actors : List AuthActor} {u : String} {t t' : Time} {p : AuthPool}
  {i j : ℕ} {e : AuthEnv} {r : AuthRequest} {w w' : AuthRecord} {c : AuthCall}
  {k : authSig.Resp c → AuthProg Unit} {r' : AuthRequest} {resp : AuthResponse} {who : Option (String × Subscriber)}
  {T : Tries} {o o' : Option Localcache.CounterEntry} {H H' : ℕ → AuthRequest → AuthRecord → Prop}

theorem Handling.pending (h : Handling actors p u j r w) : Pending actors p j u := by
  obtain ⟨q, hq⟩ := h.told
  exact ⟨_, hq, r, by rw [h.actor]; rfl, h.unanswered, subjectOf_iff.mpr h.subject⟩

theorem Handling.lt (h : Handling actors p u j r w) : j < p.threads.length := by
  obtain ⟨q, hq⟩ := h.told
  exact (List.getElem?_eq_some_iff.mp hq).1

theorem Subject.unique {u' : String} (h : Subject r w u) (h' : Subject r w u') : u = u' :=
  some.inj ((subjectOf_iff.mpr h).symm.trans (subjectOf_iff.mpr h'))

/-- What holds at a moment holds later. -/
theorem Watched.later (h : Watched T t o H) (ht : t ≤ t') : Watched T t' o H where
  once := h.once
  past hn := (h.past hn).trans ht
  counted := by
    cases h.counted with
    | nothing h => exact .nothing h
    | lapsed h => exact .lapsed (h.trans_le ht)
    | held x hx hcount hexp => exact .held x hx hcount hexp
    | recording j r w h hfailed hrecorded hcount => exact .recording j r w h hfailed hrecorded hcount
    | clearing j r w h hreset => exact .clearing j r w h hreset
  passed hi hfailed hcleared := by
    rcases h.passed hi hfailed hcleared with hfew | hover
    · exact .inl hfew
    · exact .inr (hover.trans_le ht)

theorem lockout_start (directory : Directory) (persisted : Rows ℤ PersistedVerifier) :
    Lockout d actors u t (authPool K d (.start directory persisted) actors) := by
  have hnone : ∀ {i r w}, ¬ Handling actors (authPool K d (.start directory persisted) actors) u i r w := by
    rintro i r w ⟨-, htold, hsubject, -⟩
    rw [told_start htold] at hsubject
    rcases hsubject with ⟨-, hguard, -⟩ | ⟨-, sess, hread, -⟩
    · cases hguard
    · cases hread
  exact ⟨fun h => absurd h hnone, fun h => absurd h (lt_irrefl 0), .nothing rfl, fun h => absurd h hnone⟩

/-- A live counter that is below the limit, and nobody at work on the name: it is free. -/
theorem Counted.free (h : Counted T t (p.shared.1.guard.entries.lookup (BruteForceKey u)) H)
    (hidle : ∀ j r w, ¬ H j r w)
    (hget : ∀ n ∈ p.shared.1.guard.Get t (BruteForceKey u), n < MaxFailedAttempts) : Free T t := by
  cases h with
  | nothing h =>
    left
    rw [h]
    decide
  | lapsed h => exact .inr h
  | held x hx hcount hexp =>
    by_cases hlapsed : x.Lapsed t
    · obtain ⟨y, hy, hlt⟩ := hlapsed
      exact .inr ((hexp y hy).trans_lt hlt)
    · exact .inl (hcount.trans_lt (hget _ (get_eq_some.mpr ⟨x, hx, hlapsed, rfl⟩)))
  | recording j r w h => exact absurd h (hidle j r w)
  | clearing j r w h => exact absurd h (hidle j r w)

/-- What a request is about is what it was about, or what it turns to. -/
theorem subject_told (hc : Handles K d r w c) (hs : Subject r (heard K e p w c) u) :
    Subject r w u ∨ turnsTo p.shared.1 r w c = some u := by
  rcases hs with ⟨hplain, hguard, hu⟩ | ⟨heap, sess, hread, hu⟩
  · cases c with
    | guardGet n =>
      obtain ⟨-, -, ⟨-, -, hn⟩ | ⟨heap, -⟩⟩ := hc
      · exact .inr ((if_pos hplain).trans (by rw [hn, hu]))
      · exact absurd hplain heap
    | _ => exact .inl (.inl ⟨hplain, hguard, hu⟩)
  · rcases read_told hread with hread | ⟨hnone, hloaded, ref, rfl, hsess⟩
    · exact .inl (.inr ⟨heap, sess, hread, hu⟩)
    · refine .inr ?_
      rw [turnsTo, if_pos ⟨heap, hloaded, hnone⟩, hsess, hu]
      rfl

theorem Subject.kept (hs : Subject r w u) (a : authSig.Resp c) : Subject r (noting w c a) u := by
  rcases hs with ⟨hplain, hguard, hu⟩ | ⟨heap, sess, hread, hu⟩
  · refine .inl ⟨hplain, ?_, hu⟩
    cases c with
    | guardGet n => rfl
    | _ => exact hguard
  · exact .inr ⟨heap, sess, read_kept hread a, hu⟩

/-- The two records agree in what the lockout has to do with. -/
structure SameFlags (r : AuthRequest) (w w' : AuthRecord) : Prop where
  failed : w'.failed = w.failed
  recorded : w'.recorded = w.recorded
  reset : w'.reset = w.reset
  guard : r.eapMessage = [] → w'.guard = w.guard

theorem SameFlags.refl : SameFlags r w w := ⟨rfl, rfl, rfl, fun _ => rfl⟩

/-- The counter is there as long as it has not lapsed, and whoever is at work on the name stays at it. -/
theorem Counted.carry (h : Counted T t o H) (hback : ∀ x, o' = some x → o = some x)
    (hlive : ∀ x, o = some x → ¬ x.Lapsed t → o' = some x)
    (hwork : ∀ {j r w}, H j r w → w.failed = true ∧ w.recorded = false ∨ w.reset = true →
      ∃ w', H' j r w' ∧ SameFlags r w w') : Counted T t o' H' := by
  cases h with
  | nothing h => exact .nothing h
  | lapsed h => exact .lapsed h
  | held x hx hcount hexp =>
    by_cases hlapsed : x.Lapsed t
    · obtain ⟨y, hy, hlt⟩ := hlapsed
      exact .lapsed ((hexp y hy).trans_lt hlt)
    · exact .held x (hlive x hx hlapsed) hcount hexp
  | recording j r w hj hfailed hrecorded hcount =>
    obtain ⟨w', hj', hsame⟩ := hwork hj (.inl ⟨hfailed, hrecorded⟩)
    exact .recording j r w' hj' (hsame.failed.trans hfailed) (hsame.recorded.trans hrecorded) fun x hx =>
      hcount x (hback x hx)
  | clearing j r w hj hreset =>
    obtain ⟨w', hj', hsame⟩ := hwork hj (.inr hreset)
    exact .clearing j r w' hj' (hsame.reset.trans hreset)

theorem state_after (hi : p.Calling i w c k) : (stepAuth K p i e).shared.1 = (authExec K e c p.shared.1).2 := by
  rw [traced_shared hi]

/-- A call that is no failure and no success of the name. -/
theorem tries_kept (hi : p.Calling i w c k) (hfailed : failedBy c ≠ some u)
    (hauth : authenticatedBy d c ≠ some u) : tries d u (stepAuth K p i e).shared.2 = tries d u p.shared.2 := by
  rw [traced_shared hi, tries_append]
  exact (if_neg hfailed).trans (if_neg hauth)

/-- A call after which the counter of the name is there as long as it has not lapsed, and neither its
    failures nor who is at work on it has changed. -/
theorem Lockout.transfer (h : Lockout d actors u t p) (hi : p.Calling i w c k)
    (hguard : ∀ x, (authExec K e c p.shared.1).2.guard.entries.lookup (BruteForceKey u) = some x →
      p.shared.1.guard.entries.lookup (BruteForceKey u) = some x)
    (hlive : ∀ x, p.shared.1.guard.entries.lookup (BruteForceKey u) = some x → ¬ x.Lapsed t →
      (authExec K e c p.shared.1).2.guard.entries.lookup (BruteForceKey u) = some x)
    (hfailed : failedBy c ≠ some u) (hauth : authenticatedBy d c ≠ some u)
    (hsame : ∀ r, actors[i]? = some (.request r) → (Subject r (heard K e p w c) u → Subject r w u) ∧
      (Subject r w u → SameFlags r w (heard K e p w c) ∧ (heard K e p w c).answered = w.answered)) :
    Lockout d actors u t (stepAuth K p i e) := by
  have hbefore : ∀ {j r w'}, Handling actors (stepAuth K p i e) u j r w' →
      ∃ w, Handling actors p u j r w ∧ SameFlags r w w' := by
    rintro j r w' ⟨hactor, htold, hsubject, hun⟩
    rcases htold.before hi with ⟨rfl, rfl⟩ | ⟨-, hold⟩
    · have hs := (hsame r hactor).1 hsubject
      obtain ⟨hflags, hanswered⟩ := (hsame r hactor).2 hs
      exact ⟨w, ⟨hactor, ⟨_, hi⟩, hs, hanswered.symm.trans hun⟩, hflags⟩
    · exact ⟨w', ⟨hactor, hold, hsubject, hun⟩, .refl⟩
  have hafter : ∀ {j r w}, Handling actors p u j r w →
      ∃ w', Handling actors (stepAuth K p i e) u j r w' ∧ SameFlags r w w' := by
    rintro j r w' ⟨hactor, htold, hsubject, hun⟩
    obtain ⟨w'', hj, ⟨rfl, rfl, rfl⟩ | ⟨-, rfl⟩⟩ := htold.after (K := K) (e := e) hi
    · obtain ⟨hflags, hanswered⟩ := (hsame r hactor).2 hsubject
      exact ⟨_, ⟨hactor, hj, hsubject.kept _, hanswered.trans hun⟩, hflags⟩
    · exact ⟨w'', ⟨hactor, hj, hsubject, hun⟩, .refl⟩
  rw [Lockout, tries_kept hi hfailed hauth, state_after hi]
  refine ⟨?_, h.past, h.counted.carry hguard hlive fun hj _ => hafter hj, ?_⟩
  · intro i j r r' w w' hi hj
    obtain ⟨_, hi', -⟩ := hbefore hi
    obtain ⟨_, hj', -⟩ := hbefore hj
    exact h.once hi' hj'
  · intro i r w' hi hfailed hcleared
    obtain ⟨w, hi', hsame⟩ := hbefore hi
    refine h.passed hi' (hsame.failed.symm.trans hfailed) fun hplain => ?_
    obtain ⟨n, hn, hfew⟩ := hcleared hplain
    exact ⟨n, (hsame.guard hplain).symm.trans hn, hfew⟩

/-- A call of a worker that has nothing to do with the name, or leaves it as it is. -/
theorem Lockout.transfer_call (h : Lockout d actors u t p) (hi : p.Calling i w c k)
    (hactor : actors[i]? = some (.request r)) (hc : Handles K d r w c)
    (hguard : (authExec K e c p.shared.1).2.guard.entries.lookup (BruteForceKey u) =
      p.shared.1.guard.entries.lookup (BruteForceKey u))
    (hfailed : failedBy c ≠ some u) (hauth : authenticatedBy d c ≠ some u)
    (hturn : turnsTo p.shared.1 r w c ≠ some u) (hflags : Subject r w u → SameFlags r w (heard K e p w c) ∧
      (heard K e p w c).answered = w.answered) : Lockout d actors u t (stepAuth K p i e) := by
  refine h.transfer hi ?_ ?_ hfailed hauth fun r' hactor' => ?_
  · rw [hguard]
    exact fun _ hx => hx
  · rw [hguard]
    exact fun _ hx _ => hx
  · rw [hactor] at hactor'
    cases hactor'
    exact ⟨fun hs => (subject_told hc hs).resolve_right hturn, hflags⟩

/-- Only the caller was at work on the name, and so only the caller is afterwards. -/
theorem Lockout.of_mine (hi : p.Calling i w c k)
    (hactor : actors[i]? = some (.request r)) (hmine : ∀ {j r' w'}, Handling actors p u j r' w' → j = i ∧ w' = w)
    (htries : tries d u (stepAuth K p i e).shared.2 = T) (hpast : 0 < T.count → T.last ≤ e.now)
    (hcounted : Counted T e.now ((authExec K e c p.shared.1).2.guard.entries.lookup (BruteForceKey u))
      (Handling actors (stepAuth K p i e) u))
    (hpassed : (heard K e p w c).failed = false → (r.eapMessage = [] → (heard K e p w c).Cleared) → Free T e.now) :
    Lockout d actors u e.now (stepAuth K p i e) := by
  have honly : ∀ {j r' w'}, Handling actors (stepAuth K p i e) u j r' w' →
      j = i ∧ r' = r ∧ w' = heard K e p w c := by
    rintro j r' w' ⟨hactor', htold, hsubject, hun⟩
    rcases htold.before hi with ⟨rfl, rfl⟩ | ⟨hne, hold⟩
    · rw [hactor] at hactor'
      cases hactor'
      exact ⟨rfl, rfl, rfl⟩
    · exact absurd (hmine ⟨hactor', hold, hsubject, hun⟩).1 hne
  rw [Lockout, htries, state_after hi]
  refine ⟨fun hj hj' => (honly hj).1.trans (honly hj').1.symm, hpast, hcounted, fun hj => ?_⟩
  obtain ⟨-, rfl, rfl⟩ := honly hj
  exact hpassed

/-- A request turns to the name, while nobody else is at work on it. -/
theorem Lockout.turn_step (h : Lockout d actors u e.now p) (hi : p.Calling i w c k)
    (hactor : actors[i]? = some (.request r)) (hstate : (authExec K e c p.shared.1).2 = p.shared.1)
    (hfailed : failedBy c = none) (hauth : authenticatedBy d c = none)
    (halone : ∀ j < p.threads.length, ¬ Pending actors p j u)
    (hget : (r.eapMessage = [] → (heard K e p w c).Cleared) →
      ∀ n ∈ p.shared.1.guard.Get e.now (BruteForceKey u), n < MaxFailedAttempts) :
    Lockout d actors u e.now (stepAuth K p i e) := by
  have hidle : ∀ j r w, ¬ Handling actors p u j r w := fun j r w hj => halone j hj.lt hj.pending
  refine .of_mine hi hactor (fun hj => absurd hj (hidle _ _ _))
    (tries_kept hi (by rw [hfailed]; exact nofun) (by rw [hauth]; exact nofun)) h.past ?_ fun _ hcleared =>
    h.counted.free hidle (hget hcleared)
  rw [hstate]
  exact h.counted.carry (fun _ => id) (fun _ hx _ => hx) fun hj => absurd hj (hidle _ _ _)

section
variable (h : Lockout d actors u e.now p) (hactor : actors[i]? = some (.request r))
include h hactor

/-- Nobody else is at work on the name. -/
theorem Lockout.mine (hi : Told p i w) (hs : Subject r w u) (hun : w.answered = false) {r' : AuthRequest}
    (hj : Handling actors p u j r' w') : j = i ∧ w' = w := by
  have hji : j = i := h.once hj ⟨hactor, hi, hs, hun⟩
  subst hji
  exact ⟨rfl, hj.told.unique hi⟩

/-- A failure is counted. -/
theorem Lockout.incr_step {k : authSig.Resp (.guardIncr u) → AuthProg Unit}
    (hi : p.Calling i w (.guardIncr u) k) (hc : Handles K d r w (.guardIncr u))
    (hsteady : 0 < (tries d u p.shared.2).count →
      e.now ≤ (tries d u p.shared.2).last + LockoutDuration) : Lockout d actors u e.now (stepAuth K p i e) := by
  obtain ⟨hs, hundecided, hrecorded, -⟩ := hc
  have hmine := fun {j r' w'} (hj : Handling actors p u j r' w') =>
    h.mine hactor ⟨_, hi⟩ hs hundecided.2.2 hj
  have htries : tries d u (stepAuth K p i e).shared.2 = ⟨(tries d u p.shared.2).count + 1, e.now⟩ := by
    rw [traced_shared hi, tries_append]
    exact if_pos rfl
  have hcount : (tries d u p.shared.2).count ≤
      ((p.shared.1.guard.live e.now (BruteForceKey u)).getD ⟨0, none⟩).count := by
    rcases Nat.eq_zero_or_pos (tries d u p.shared.2).count with hzero | hpos
    · rw [hzero]
      exact Nat.zero_le _
    have hsoon := hsteady hpos
    cases h.counted with
    | nothing h => omega
    | lapsed h => exact absurd hsoon (not_le.mpr h)
    | held x hx hcount hexp =>
      have hlive : ¬ x.Lapsed e.now := by
        rintro ⟨y, hy, hlt⟩
        exact absurd (hsoon.trans (hexp y hy)) (not_le.mpr hlt)
      rw [live_eq_some.mpr ⟨hx, hlive⟩]
      exact hcount
    | recording j r' w' hj hfailed =>
      rw [(hmine hj).2, hundecided.1] at hfailed
      cases hfailed
    | clearing j r' w' hj hreset =>
      rw [(hmine hj).2, hundecided.2.1] at hreset
      cases hreset
  refine .of_mine hi hactor hmine htries (fun _ => le_refl _) ?_ nofun
  refine .recording i r _ ⟨hactor, Told.now hi, hs.kept _, hundecided.2.2⟩ rfl hrecorded ?_
  intro x hx
  have hlookup := hx.symm.trans (lookup_incr (BruteForceKey u))
  rw [if_pos rfl] at hlookup
  cases hlookup
  exact Nat.succ_le_succ hcount

/-- The expiry of the counter is set. -/
theorem Lockout.expire_step {k : authSig.Resp (.guardExpire u) → AuthProg Unit}
    (hi : p.Calling i w (.guardExpire u) k) (hc : Handles K d r w (.guardExpire u))
    (hpresent : (p.shared.1.guard.entries.lookup (BruteForceKey u)).isSome = true) :
    Lockout d actors u e.now (stepAuth K p i e) := by
  obtain ⟨hs, hfailed, hrecorded, hreset, hun⟩ := hc
  have hmine := fun {j r' w'} (hj : Handling actors p u j r' w') => h.mine hactor ⟨_, hi⟩ hs hun hj
  have hheld : ∀ x, p.shared.1.guard.entries.lookup (BruteForceKey u) = some x →
      (tries d u p.shared.2).count ≤ x.count →
      Counted (tries d u p.shared.2) e.now
        ((authExec K e (.guardExpire u) p.shared.1).2.guard.entries.lookup (BruteForceKey u))
        (Handling actors (stepAuth K p i e) u) := by
    intro x hx hcount
    rcases Nat.eq_zero_or_pos (tries d u p.shared.2).count with hzero | hpos
    · exact .nothing hzero
    refine .held { x with expires := some (e.now + LockoutDuration) } ?_ hcount ?_
    · refine (lookup_expire _ _).trans ?_
      rw [if_pos rfl, hx]
      rfl
    · rintro y hy
      cases hy
      linarith [h.past hpos]
  refine .of_mine hi hactor hmine (tries_kept hi nofun nofun) h.past ?_ fun hfree =>
    Bool.noConfusion (hfailed.symm.trans hfree)
  cases h.counted with
  | nothing h => exact .nothing h
  | lapsed h => exact .lapsed h
  | held x hx hcount _ => exact hheld x hx hcount
  | recording j r' w' _ _ _ hcount =>
    obtain ⟨x, hx⟩ := isSome_iff_exists.mp hpresent
    exact hheld x hx (hcount x hx)
  | clearing j r' w' hj hclear =>
    rw [(hmine hj).2, hreset] at hclear
    cases hclear

/-- The counter is cleared. -/
theorem Lockout.reset_step {k : authSig.Resp (.guardReset u) → AuthProg Unit}
    (hi : p.Calling i w (.guardReset u) k) (hc : Handles K d r w (.guardReset u)) :
    Lockout d actors u e.now (stepAuth K p i e) := by
  obtain ⟨hs, hundecided⟩ := hc
  refine .of_mine hi hactor (h.mine hactor ⟨_, hi⟩ hs hundecided.2.2) (tries_kept hi nofun nofun) h.past ?_ ?_
  · exact .clearing i r _ ⟨hactor, Told.now hi, hs.kept _, hundecided.2.2⟩ rfl
  · exact fun hfailed hcleared => h.passed ⟨hactor, ⟨_, hi⟩, hs, hundecided.2.2⟩ hfailed hcleared

end

/-- Whoever has cleared the counter goes on to accept. -/
theorem authenticates_of_reset (hc : Handles K d r w (.write r' resp who))
    (hs : Subject r w u) (hreset : w.reset = true) : authenticatedBy d (.write r' resp who) = some u := by
  obtain ⟨rfl, -, -, hanswers⟩ := hc
  rw [Answers] at hanswers
  cases hcode : resp.code with
  | reject =>
    rw [hcode] at hanswers
    rw [hanswers.2] at hreset
    cases hreset
  | challenge =>
    rw [hcode] at hanswers
    rw [hanswers.2.1] at hreset
    cases hreset
  | accept =>
    rw [hcode] at hanswers
    obtain ⟨u', sub, rfl, -, -, haccepts⟩ := hanswers
    have hname : (r'.eapMessage = [] → d.isMAB r' = false) ∧ u' = u := by
      cases haccepts with
      | eap heap ref hloaded sess hread hstage hname =>
        refine ⟨(absurd · heap), ?_⟩
        rw [hname]
        exact Subject.unique (.inr ⟨heap, sess, hread, rfl⟩) hs
      | mab hplain hmab hguard =>
        rcases hs with ⟨-, hsome, -⟩ | ⟨heap, -⟩
        · rw [hguard] at hsome
          cases hsome
        · exact absurd hplain heap
      | pap hplain hmab hname _ hcleared =>
        refine ⟨fun _ => hmab, ?_⟩
        rw [hname]
        rcases hs with ⟨-, -, hu⟩ | ⟨heap, -⟩
        · exact hu.symm
        · exact absurd hplain heap
    exact (if_pos ⟨hcode, hname.1⟩).trans (congrArg some hname.2)

/-- A request is answered. -/
theorem Lockout.write_step {k : authSig.Resp (.write r' resp who) → AuthProg Unit} (h : Lockout d actors u e.now p)
    (hactor : actors[i]? = some (.request r)) (hi : p.Calling i w (.write r' resp who) k)
    (hc : Handles K d r w (.write r' resp who)) : Lockout d actors u e.now (stepAuth K p i e) := by
  have hbefore : ∀ {j r'' w'},
      Handling actors (stepAuth K p i e) u j r'' w' →
      Handling actors p u j r'' w' := by
    rintro j r'' w' ⟨hactor', htold, hsubject, hun⟩
    rcases htold.before hi with ⟨rfl, rfl⟩ | ⟨-, hold⟩
    · cases hun
    · exact ⟨hactor', hold, hsubject, hun⟩
  have hafter : ∀ {j r'' w'}, Handling actors p u j r'' w' → j ≠ i →
      Handling actors (stepAuth K p i e) u j r'' w' := by
    rintro j r'' w' ⟨hactor', htold, hsubject, hun⟩ hne
    obtain ⟨w'', hj, ⟨hji, -⟩ | ⟨-, rfl⟩⟩ := htold.after hi
    · exact absurd hji hne
    · exact ⟨hactor', hj, hsubject, hun⟩
  by_cases hauth : authenticatedBy d (.write r' resp who) = some u
  · have htries : tries d u (stepAuth K p i e).shared.2 =
        ⟨0, (tries d u p.shared.2).last⟩ := by
      rw [traced_shared hi, tries_append]
      exact (if_neg nofun).trans (if_pos hauth)
    rw [Lockout, htries]
    refine ⟨fun hj hj' => h.once (hbefore hj) (hbefore hj'), (absurd · (lt_irrefl 0)), .nothing rfl, ?_⟩
    exact fun _ _ _ => .inl (show 0 < MaxFailedAttempts by decide)
  · rw [Lockout, tries_kept hi nofun hauth, state_after hi]
    refine ⟨fun hj hj' => h.once (hbefore hj) (hbefore hj'), h.past, ?_, fun hj => h.passed (hbefore hj)⟩
    refine h.counted.carry (fun _ => id) (fun _ hx _ => hx) fun {j r'' w'} hj hbusy => ?_
    -- the caller has nothing to do with the counter any more
    refine ⟨w', hafter hj ?_, .refl⟩
    rintro rfl
    have hactor' := hj.actor
    rw [hactor] at hactor'
    cases hactor'
    obtain rfl := hj.told.unique ⟨_, hi⟩
    rcases hbusy with ⟨hfailed, hrecorded⟩ | hreset
    · -- a failure is recorded to the end before the request is answered
      rw [hc.2.2.1 hfailed] at hrecorded
      cases hrecorded
    · exact hauth (authenticates_of_reset hc hj.subject hreset)

/-- The tables are edited, or the caches swept. -/
theorem Lockout.beside_step (h : Lockout d actors u e.now p) (hi : p.Calling i w c k)
    (hc : Beside c) : Lockout d actors u e.now (stepAuth K p i e) := by
  cases c with
  | setDirectory directory =>
    exact h.transfer hi (fun _ => id) (fun _ hx _ => hx) nofun nofun fun _ _ =>
      ⟨id, fun _ => ⟨⟨rfl, rfl, rfl, fun _ => rfl⟩, rfl⟩⟩
  | sweep =>
    refine h.transfer hi (fun x hx => ?_) (fun x hx hlive => ?_) nofun nofun fun _ _ =>
      ⟨id, fun _ => ⟨⟨rfl, rfl, rfl, fun _ => rfl⟩, rfl⟩⟩
    · have hfilter := (lookup_sweep (BruteForceKey u)).symm.trans hx
      exact (filter_eq_some_iff.mp hfilter).1
    · refine (lookup_sweep (BruteForceKey u)).trans ?_
      exact filter_eq_some_iff.mpr ⟨hx, by simpa using hlive⟩
  | _ => exact hc.elim

theorem BruteForceKey_injective {u v : String} (h : BruteForceKey u = BruteForceKey v) : u = v :=
  (String.append_right_inj _).mp h

/-- Every call of a worker. -/
theorem Lockout.call_step (h : Lockout d actors u e.now p) (hi : p.Calling i w c k)
    (hactor : actors[i]? = some (.request r)) (hc : Handles K d r w c) (hcareful : Careful d actors p e r w c) :
    Lockout d actors u e.now (stepAuth K p i e) := by
  cases c with
  | guardGet v =>
    by_cases hturn : turnsTo p.shared.1 r w (.guardGet v) = some u
    · refine h.turn_step hi hactor rfl rfl rfl (hcareful.alone u hturn) fun hcleared => ?_
      have hplain : r.eapMessage = [] ∧ v = u := by
        rw [turnsTo] at hturn
        split at hturn
        · exact ⟨‹_›, some.inj hturn⟩
        · cases hturn
      obtain ⟨n, hn, hfew⟩ := hcleared hplain.1
      rw [← hplain.2]
      cases hn
      exact hfew
    · refine h.transfer_call hi hactor hc rfl nofun nofun hturn fun hs => ⟨⟨rfl, rfl, rfl, ?_⟩, rfl⟩
      intro hplain
      -- a request that has asked already does not ask again
      rcases hs with ⟨-, hsome, -⟩ | ⟨heap, -⟩
      · rw [hc.1] at hsome
        cases hsome
      · exact absurd hplain heap
  | guardIncr v =>
    by_cases hv : v = u
    · subst hv
      exact h.incr_step hactor hi hc (hcareful.steady v rfl)
    · refine h.transfer_call hi hactor hc ?_ (fun heq => hv (some.inj heq)) nofun nofun fun hs =>
        absurd (hc.1.unique hs) hv
      exact (lookup_incr _).trans (if_neg fun heq => hv (BruteForceKey_injective heq).symm)
  | guardExpire v =>
    by_cases hv : v = u
    · subst hv
      exact h.expire_step hactor hi hc (hcareful.present v rfl)
    · refine h.transfer_call hi hactor hc ?_ nofun nofun nofun fun hs => absurd (hc.1.unique hs) hv
      exact (lookup_expire _ _).trans
        (if_neg fun heq => hv (BruteForceKey_injective heq).symm)
  | guardReset v =>
    by_cases hv : v = u
    · subst hv
      exact h.reset_step hactor hi hc
    · refine h.transfer_call hi hactor hc ?_ nofun nofun nofun fun hs => absurd (hc.1.unique hs) hv
      exact (lookup_reset _).trans
        (if_neg fun heq => hv (BruteForceKey_injective heq).symm)
  | readSession ref =>
    by_cases hturn : turnsTo p.shared.1 r w (.readSession ref) = some u
    · refine h.turn_step hi hactor rfl rfl rfl (hcareful.alone u hturn) fun _ => ?_
      refine hcareful.unlocked u hturn fun hplain => ?_
      rw [turnsTo, if_neg fun h => h.1 hplain] at hturn
      cases hturn
    · exact h.transfer_call hi hactor hc rfl nofun nofun hturn fun _ => ⟨⟨rfl, rfl, rfl, fun _ => rfl⟩, rfl⟩
  | write r' resp who => exact h.write_step hactor hi hc
  | verifierDelete => exact hc.elim
  | persistDelete => exact hc.elim
  | loadActive => exact hc.elim
  | reapExpired => exact hc.elim
  | setDirectory => exact hc.elim
  | sweep => exact hc.elim
  | restart => exact hc.elim
  | _ =>
    exact h.transfer_call hi hactor hc rfl nofun nofun nofun fun _ => ⟨⟨rfl, rfl, rfl, fun _ => rfl⟩, rfl⟩

theorem lockout_step (hwork : Working K d actors p) (h : Lockout d actors u e.now p)
    (hguarded : Guarded d actors p i e) : Lockout d actors u e.now (stepAuth K p i e) := by
  refine step_ind h fun w c k hi => ?_
  rcases hwork.handles hi with ⟨r, hactor, hc⟩ | hbeside
  · exact h.call_step hi hactor hc (hguarded _ hi _ rfl r (by rw [hactor]; rfl))
  · exact h.beside_step hi hbeside

/-- A credential is checked, and an accept sent, only for a name that is free. -/
theorem keepsOut_of_lockout (hwork : Working K d actors p) (h : ∀ u, Lockout d actors u e.now p) :
    KeepsOut d actors p i e := by
  rintro c u ⟨w, k, hi⟩ hu ⟨hmany, hsoon⟩
  suffices hfree : Free (tries d u p.shared.2) e.now by
    rcases hfree with hfew | hlate
    · omega
    · exact absurd hsoon (not_le.mpr hlate)
  rcases hwork.handles hi with ⟨r, hactor, hc⟩ | hbeside
  · have hchecking : ∀ sub, Checking r w sub → Free (tries d r.userName p.shared.2) e.now := by
      intro sub hcheck
      obtain ⟨n, hn, -⟩ := id hcheck.cleared
      have hs : Subject r w r.userName := .inl ⟨hcheck.plain, by rw [hn]; rfl, rfl⟩
      exact (h _).passed ⟨hactor, ⟨_, hi⟩, hs, hcheck.undecided.2.2⟩ hcheck.undecided.1 fun _ =>
        hcheck.cleared
    cases c with
    | verifierGet v =>
      cases hu
      obtain ⟨rfl, sub, hcheck⟩ := hc
      exact hchecking sub hcheck
    | compareHashAndPassword hash password =>
      obtain ⟨-, sub, hcheck, -⟩ := hc
      rw [credentialOf, hactor] at hu
      cases hu
      exact hchecking sub hcheck
    | verifyMSCHAPv2 hash challenge pc nr v =>
      cases hu
      obtain ⟨-, ref, sess, sub, hresp, -, -, rfl⟩ := hc
      exact (h _).passed ⟨hactor, ⟨_, hi⟩, .inr ⟨hresp.eap, sess, hresp.read, rfl⟩,
        hresp.undecided.2.2⟩ hresp.undecided.1 (absurd · hresp.eap)
    | write r' resp who =>
      obtain ⟨rfl, hun, -, hanswers⟩ := hc
      change (if resp.code = .accept ∧ (r'.eapMessage = [] → d.isMAB r' = false) then who.map Prod.fst
        else none) = some u at hu
      split at hu
      · rename_i haccept
        rw [Answers, haccept.1] at hanswers
        obtain ⟨u', sub, rfl, -, hfailed, haccepts⟩ := hanswers
        cases hu
        cases haccepts with
        | eap heap ref hloaded sess hread hstage hname =>
          exact (h _).passed ⟨hactor, ⟨_, hi⟩, .inr ⟨heap, sess, hread, hname⟩, hun⟩ hfailed
            (absurd · heap)
        | mab hplain hmab =>
          rw [haccept.2 hplain] at hmab
          cases hmab
        | pap hplain hmab hname _ hcleared =>
          obtain ⟨n, hn, -⟩ := id hcleared
          exact (h _).passed ⟨hactor, ⟨_, hi⟩, .inl ⟨hplain, by rw [hn]; rfl, hname⟩, hun⟩ hfailed
            fun _ => hcleared
      · cases hu
    | _ => cases hu
  · cases c with
    | setDirectory => cases hu
    | sweep => cases hu
    | _ => exact hbeside.elim

end

/-- In every interleaving in the order of time whose steps meet the condition, nobody's credential is checked
    and nobody is accepted, through PAP or EAP, who is locked out. -/
theorem locked_out_kept_out (K : Crypto) (d : AuthDaemon) (directory : Directory)
    (persisted : Rows ℤ PersistedVerifier) (actors : List AuthActor) (sched : List (ℕ × AuthEnv))
    (htime : sched.Pairwise fun x y => x.2.now ≤ y.2.now)
    (hguarded : Pool.Meets (traced (authExec K)) noting (Guarded d actors)
      (authPool K d (.start directory persisted) actors) sched) :
    Pool.Meets (traced (authExec K)) noting (KeepsOut d actors)
      (authPool K d (.start directory persisted) actors) sched := by
  refine meets_in_time AuthEnv.now
    (I := fun t p => Working K d actors p ∧ ∀ u, Lockout d actors u t p) ?_ ?_ ?_ htime hguarded
  · rintro t t' p ht ⟨hwork, h⟩
    exact ⟨hwork, fun u => (h u).later ht⟩
  · rintro p i e ⟨hwork, h⟩ hg
    exact ⟨keepsOut_of_lockout hwork h, working_step hwork i e, fun u => lockout_step hwork (h u) hg⟩
  · intro x _
    exact ⟨working_start _, fun u => lockout_start directory persisted⟩

def tenMistyped : List AuthActor := List.replicate 10 (.request annMistypes)

/-- One of them after the other. -/
def mistypesTen (now : Time) : List (ℕ × AuthEnv) := (List.range 10).flatMap fun i => steps i 8 now

/-- Ten wrong passwords, then the right one twice: at once, and when the lockout has passed. -/
theorem ann_locked_out :
    let actors := tenMistyped ++ [.request annTypes, .request annTypes]
    let p := annRun actors (mistypesTen 0)
    let sched := mistypesTen 0 ++ (steps 10 4 1 ++ steps 11 4 (LockoutDuration + 1))
    Locked plainDaemon p.shared.2 1 "ann" ∧
    acceptNext (annRun actors sched) 11 = some (annTypes, annFound) ∧
    Pool.Meets (traced (authExec .plain)) noting (KeepsOut plainDaemon actors) (annPool actors) sched := by
  intro actors p sched
  refine ⟨by decide +kernel, by decide +kernel, ?_⟩
  exact locked_out_kept_out .plain plainDaemon (annIs .active) ∅ actors sched (by decide +kernel)
    (by decide +kernel)

/-- A conversation opened before ten wrong passwords is carried on after them. -/
def openedBefore : List AuthActor :=
  tenMistyped ++ [.request annOpens, .request annResponds, .request annAcknowledges]

def respondsLocked : AuthPool := annRun openedBefore (steps 10 7 0 ++ mistypesTen 1 ++ steps 11 3 2)

def acknowledgesLocked : AuthPool :=
  annRun openedBefore (steps 10 7 0 ++ mistypesTen 1 ++ steps 11 13 2 ++ steps 12 6 3)

/-- The response is about to be verified, and then the acknowledgement to be accepted, of a name that is
    locked out. -/
theorem locked_out_accepted :
    ((respondsLocked.threads[11]?.bind fun t => nextCall t.2).bind
        (credentialOf plainDaemon openedBefore 11) = some "ann" ∧
      Locked plainDaemon respondsLocked.shared.2 2 "ann") ∧
    (acceptNext acknowledgesLocked 12 = some (annAcknowledges, annFound) ∧
      Locked plainDaemon acknowledgesLocked.shared.2 3 "ann") := by
  decide +kernel

end IspBss.Radius
