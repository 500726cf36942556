import IspBss.Props.AuthWorkers
import IspBss.Props.RateAgreement

/-! How long does a suspension take to reach an authentication?

        row read ── D ──▶ answer, cached ── T ──▶ served for the last time, accepted
           │                                                     │
           └── the status granted service ──── at most T + D ────┘

    PAP and MAB look at the status of the record that they go by, and so does the verification of an
    EAP response. The last packet of EAP looks the record up again, and does not look at its status. -/

namespace IspBss.Radius

open Lib Pool Except Cache

/-! ### Refused, and for how long -/

/-- The row of the subscriber is there, and its status grants nothing. -/
def Directory.Refuses (dir : Directory) (id : ℤ) : Prop :=
  ∃ profile ∈ dir.subscribers.lookup id, AuthorisesService profile.status = false
  deriving Decidable

/-- So it is, and so it has been after everything that was done since that time. -/
def RefusedSince (s : AuthState × List AuthEvent) (since : Time) (id : ℤ) : Prop :=
  s.1.directory.Refuses id ∧ ∀ ev ∈ s.2, since ≤ ev.env.now → ev.post.directory.Refuses id
  deriving Decidable

/-- No accept is sent for a subscriber who has been refused for the life of a cached record and the
    time of a reading. A voucher is nobody's, and has the id 0. -/
def Suspends (T D : Time) (p : AuthPool) (i : ℕ) (e : AuthEnv) : Prop :=
  ∀ r resp u sub, Next p i (.write r resp (some (u, sub))) → resp.code = .accept → sub.id ≠ 0 →
    ¬ RefusedSince p.shared (e.now - T - D) sub.id

/-! ### What is asked of a step -/

/-- A worker goes on at once, or after `D` at most if it has waited for the database. -/
def Prompt (D : Time) (actors : List AuthActor) (p : AuthPool) (i : ℕ) (e : AuthEnv) : Prop :=
  ∀ t ∈ p.threads[i]?, ∀ _r ∈ actors[i]?.bind AuthActor.request?, ∀ x ∈ t.1.last,
    e.now ≤ x.1 + if x.2 then D else 0
  deriving Decidable

/-- Whom a lookup is about to find. -/
def foundBy (s : AuthState) (now : Time) : AuthCall → Option Subscriber
  | .cacheGet u => (s.subscribers.Get now (SubscriberCacheKey u)).bind CacheEntry.subscriber
  | .dbSubscriber u => s.directory.GetSubscriberByUsername u
  | _ => none

/-- A worker that ends a conversation finds a record that grants service. -/
def EndsInService (p : AuthPool) (i : ℕ) (e : AuthEnv) : Prop :=
  ∀ t ∈ p.threads[i]?, ∀ c ∈ nextCall t.2, ∀ sess ∈ t.1.read, sess.stage = .awaitingSuccessAck →
    ∀ sub ∈ foundBy p.shared.1 e.now c, AuthorisesService sub.status = true
  deriving Decidable

/-! ### Where a status comes from -/

/-- The row agreed with the record at some time since. -/
def Had (h : List AuthEvent) (sub : Subscriber) (since : Time) : Prop :=
  ∃ ev ∈ h, since ≤ ev.env.now ∧ ev.post.directory.Holds sub

theorem Had.later {h h' : List AuthEvent} {sub : Subscriber} {since since' : Time}
    (hs : Had h sub since) (ht : since' ≤ since) : Had (h ++ h') sub since' := by
  obtain ⟨ev, hev, hsince, hrow⟩ := hs
  exact ⟨ev, List.mem_append_left _ hev, ht.trans hsince, hrow⟩

/-- What is cached and what a worker goes by was stored, not long ago. -/
structure Current (T D : Time) (actors : List AuthActor) (p : AuthPool) : Prop where
  cached {key x sub} : p.shared.1.subscribers.entries.lookup key = some x →
    x.val.subscriber = some sub →
    sub.id ≠ 0 → Had p.shared.2 sub (x.expires - T - D)
  told {i r w u sub} : actors[i]? = some (.request r) → Told p i w →
    w.looked = some (u, .ok (some sub)) →
    sub.id ≠ 0 → ∃ t waited, w.last = some (t, waited) ∧
      Had p.shared.2 sub (if waited then t else t - T - D)
  ending {i r w u sub} : actors[i]? = some (.request r) → Told p i w → r.eapMessage ≠ [] →
    w.looked = some (u, .ok (some sub)) → ∃ sess, w.read = some sess ∧
      (sess.stage = .awaitingSuccessAck → AuthorisesService sub.status = true)

section
variable {K : Crypto} {d : AuthDaemon} {T D : Time} {actors : List AuthActor} {p : AuthPool}
  {i j : ℕ} {e : AuthEnv} {r : AuthRequest} {w w' : AuthRecord} {c : AuthCall}
  {k : authSig.Resp c → AuthProg Unit} {u : String} {sub : Subscriber}

theorem current_start (directory : Directory) (persisted : Rows ℤ PersistedVerifier) :
    Current T D actors (authPool K d (.start directory persisted) actors) where
  cached h := by cases h
  told _ htold hlooked := by
    rw [told_start htold] at hlooked
    cases hlooked
  ending _ htold _ hlooked := by
    rw [told_start htold] at hlooked
    cases hlooked

/-- Between the reading and the next step of the worker lies at most `D`. -/
theorem Current.age (h : Current T D actors p) (hT : 0 ≤ T) (hprompt : Prompt D actors p i e)
    (hactor : actors[i]? = some (.request r)) (hi : Told p i w)
    (hlooked : w.looked = some (u, .ok (some sub))) (hid : sub.id ≠ 0) :
    Had p.shared.2 sub (e.now - T - D) := by
  obtain ⟨t, waited, hlast, hhad⟩ := h.told hactor hi hlooked hid
  obtain ⟨q, hq⟩ := hi
  have hsoon := hprompt _ hq r (by rw [hactor]; rfl) _ hlast
  rw [← List.append_nil p.shared.2]
  refine hhad.later ?_
  cases waited with
  | true =>
    have hsoon : e.now ≤ t + D := hsoon
    show e.now - T - D ≤ t
    linarith
  | false =>
    have hsoon : e.now ≤ t + 0 := hsoon
    show e.now - T - D ≤ t - T - D
    linarith

/-- Nobody who goes by a record reads the database again. -/
theorem readsDB_of_looked (hc : Handles K d r w c) (hlooked : w.looked ≠ none) :
    c.readsDB = false := by
  cases c with
  | dbSubscriber u => exact absurd hc.2.1 hlooked
  | authorizeMAC mac nasID => exact absurd hc.1 hlooked
  | _ => rfl

section
variable (h : Current T D actors p) (hwork : Working K d actors p)
  (hi : p.Calling i w c k)
include h hwork hi

theorem cached_step (httl : ∀ cache ∈ d.cache, cache.ttl ≤ T) (hprompt : Prompt D actors p i e)
    {key : String} {x : Localcache.Entry CacheEntry}
    (hx : (authExec K e c p.shared.1).2.subscribers.entries.lookup key = some x)
    (hsub : x.val.subscriber = some sub) (hid : sub.id ≠ 0) :
    Had (p.shared.2 ++ [eventAt (authExec K) e c p.shared.1]) sub (x.expires - T - D) := by
  rcases cached_entry hx with hold | ⟨cache, u, found, rfl, -, hval, hexp⟩
  · exact (h.cached hold hsub hid).later le_rfl
  · rw [hsub] at hval
    subst hval
    rcases hwork.handles hi with ⟨r, hactor, hcache, -, hlooked, t, hlast⟩ | hbeside
    · obtain ⟨t', waited, hlast', hhad⟩ := h.told hactor ⟨_, hi⟩ hlooked hid
      rw [hlast] at hlast'
      cases hlast'
      have hsoon : e.now ≤ t + D := hprompt _ hi r (by rw [hactor]; rfl) _ hlast
      have hthen : Had p.shared.2 sub t := hhad
      refine hthen.later ?_
      rw [hexp rfl]
      linarith [httl cache hcache]
    · cases hbeside

/-- The record that a worker goes by after its call. -/
theorem told_step (hT : 0 ≤ T) (hprompt : Prompt D actors p i e)
    (hactor : actors[i]? = some (.request r))
    (hlooked : (heard K e p w c).looked = some (u, .ok (some sub))) (hid : sub.id ≠ 0) :
    Had (p.shared.2 ++ [eventAt (authExec K) e c p.shared.1]) sub
      (if c.readsDB then e.now else e.now - T - D) := by
  rcases looked_told hlooked with hold | ⟨rfl, entry, hget, hfound⟩ | ⟨rfl, hfound⟩ |
    ⟨nasID, rfl, hfound⟩
  · rw [readsDB_of_looked (hwork.rule hactor hi) (by rw [hold]; exact nofun)]
    exact (h.age hT hprompt hactor ⟨_, hi⟩ hold hid).later le_rfl
  · obtain ⟨x, hx, hlive, rfl⟩ := Localcache.Store.get_eq_some.mp hget
    refine (h.cached hx (ok.inj hfound).symm hid).later ?_
    show e.now - T - D ≤ x.expires - T - D
    linarith
  · split at hfound
    · cases hfound
    · exact ⟨_, List.mem_append_right _ (.head _), le_rfl,
        Directory.holds_username (ok.inj hfound).symm⟩
  · split at hfound
    · cases hfound
    · exact ⟨_, List.mem_append_right _ (.head _), le_rfl,
        (Directory.holds_mac (ok.inj hfound).symm).resolve_right fun h => hid h.1⟩

theorem ending_step (hends : EndsInService p i e) (hactor : actors[i]? = some (.request r))
    (heap : r.eapMessage ≠ []) (hlooked : (heard K e p w c).looked = some (u, .ok (some sub))) :
    ∃ sess, (heard K e p w c).read = some sess ∧
      (sess.stage = .awaitingSuccessAck → AuthorisesService sub.status = true) := by
  -- the name that is looked up is the one in the session that was read
  have hfinds : Subject r w u → foundBy p.shared.1 e.now c = some sub →
      ∃ sess, w.read = some sess ∧
        (sess.stage = .awaitingSuccessAck → AuthorisesService sub.status = true) := by
    rintro (⟨hplain, -⟩ | ⟨-, sess, hread, -⟩) hfound
    · exact absurd hplain heap
    · exact ⟨sess, hread, fun hstage => hends _ hi c rfl sess hread hstage sub hfound⟩
  suffices hbefore : ∃ sess, w.read = some sess ∧
      (sess.stage = .awaitingSuccessAck → AuthorisesService sub.status = true) by
    obtain ⟨sess, hread, hstage⟩ := hbefore
    exact ⟨sess, read_kept hread _, hstage⟩
  have hrule := hwork.rule hactor hi
  rcases looked_told hlooked with hold | ⟨rfl, entry, hget, hfound⟩ | ⟨rfl, hfound⟩ |
    ⟨nasID, rfl, -⟩
  · exact h.ending hactor ⟨_, hi⟩ heap hold
  · refine hfinds hrule.1 ?_
    rw [foundBy, hget]
    exact (ok.inj hfound).symm
  · split at hfound
    · cases hfound
    · exact hfinds hrule.1 (ok.inj hfound).symm
  · exact absurd hrule.2.1 heap

end

theorem current_step (hT : 0 ≤ T) (httl : ∀ cache ∈ d.cache, cache.ttl ≤ T)
    (hwork : Working K d actors p) (h : Current T D actors p) (hprompt : Prompt D actors p i e)
    (hends : EndsInService p i e) :
    Current T D actors (stepAuth K p i e) := by
  refine step_ind h fun w c k hi => ?_
  have hshared := traced_shared (M := authExec K) (m := noting) (e := e) hi
  refine ⟨?_, ?_, ?_⟩
  · intro key x sub hx hsub hid
    rw [hshared] at hx ⊢
    exact cached_step h hwork hi httl hprompt hx hsub hid
  · intro j r w' u sub hactor hj hlooked hid
    rw [hshared]
    rcases hj.before hi with ⟨rfl, rfl⟩ | ⟨-, hold⟩
    · exact ⟨e.now, c.readsDB, rfl, told_step h hwork hi hT hprompt hactor hlooked hid⟩
    · obtain ⟨t, waited, hlast, hhad⟩ := h.told hactor hold hlooked hid
      exact ⟨t, waited, hlast, hhad.later le_rfl⟩
  · intro j r w' u sub hactor hj heap hlooked
    rcases hj.before hi with ⟨rfl, rfl⟩ | ⟨-, hold⟩
    · exact ending_step h hwork hi hends hactor heap hlooked
    · exact h.ending hactor hold heap hlooked

/-- Whoever is accepted has had service not long ago. -/
theorem Current.suspends (h : Current T D actors p) (hT : 0 ≤ T) (hwork : Working K d actors p)
    (hprompt : Prompt D actors p i e) : Suspends T D p i e := by
  rintro r' resp u sub ⟨w, k, hi⟩ hcode hid ⟨-, hrefused⟩
  rcases hwork.handles hi with ⟨r, hactor, rfl, -, -, hanswers⟩ | hbeside
  · rw [Answers, hcode] at hanswers
    obtain ⟨u', sub', hwho, hlooked, -, haccepts⟩ := hanswers
    cases hwho
    have hstatus : AuthorisesService sub.status = true := by
      cases haccepts with
      | eap heap ref hloaded sess hread hstage =>
        obtain ⟨sess', hread', hending⟩ := h.ending hactor ⟨_, hi⟩ heap hlooked
        rw [hread] at hread'
        cases hread'
        exact hending hstage
      | mab _ _ _ hstatus => exact hstatus
      | pap _ _ _ hstatus => exact hstatus
    obtain ⟨ev, hev, hsince, profile, hrow, hsame, -⟩ := h.age hT hprompt hactor ⟨_, hi⟩ hlooked hid
    obtain ⟨profile', hrow', hnone⟩ := hrefused ev hev hsince
    rw [hrow] at hrow'
    cases hrow'
    rw [hsame, hstatus] at hnone
    cases hnone
  · cases hbeside

end

/-- In every interleaving in which a worker waits only for the database, and no longer than `D`, and
    a conversation ends only with a record that grants service, a suspension takes effect after `T +
    D`. -/
theorem suspension_takes_effect (K : Crypto) (d : AuthDaemon) (T D : Time) (directory : Directory)
    (persisted : Rows ℤ PersistedVerifier) (actors : List AuthActor) (sched : List (ℕ × AuthEnv))
    (hT : 0 ≤ T) (httl : ∀ cache ∈ d.cache, cache.ttl ≤ T)
    (hprompt : Meets (traced (authExec K)) noting (Prompt D actors)
      (authPool K d (.start directory persisted) actors) sched)
    (hends : Meets (traced (authExec K)) noting EndsInService
      (authPool K d (.start directory persisted) actors) sched) :
    Meets (traced (authExec K)) noting (Suspends T D)
      (authPool K d (.start directory persisted) actors) sched := by
  refine meets_inv (I := fun p => Working K d actors p ∧ Current T D actors p) ?_ sched _
    ⟨working_start _, current_start directory persisted⟩ (hprompt.and hends)
  rintro p i e ⟨hwork, h⟩ ⟨hprompt, hends⟩
  exact ⟨h.suspends hT hwork hprompt, working_step hwork i e,
    current_step hT httl hwork h hprompt hends⟩

/-- EAP, and a cache in front of the database. -/
def cachedDaemon : AuthDaemon :=
  { plainDaemon with cache := some (NewSubscriberCache DefaultSubscriberTTL) }

/-- After a password, an operator suspends the subscriber. -/
def suspendedActors : List AuthActor :=
  [.request annTypes, .operator [annIs .hardSuspended], .request annTypes, .request annOpens,
    .request annResponds, .request annAcknowledges]

def suspendedPool : AuthPool :=
  authPool .plain cachedDaemon (.start (annIs .active) ∅) suspendedActors

/-- A password, a second later the suspension, and the password again as long as the record is
    cached. -/
def typedAgain : List (ℕ × AuthEnv) := steps 0 9 0 ++ steps 1 1 1000000 ++ steps 2 4 60000000

/-- The second password is about to be accepted, for the last time. -/
theorem ann_suspended :
    let p := run (traced (authExec .plain)) noting suspendedPool typedAgain
    (acceptNext p 2 = some (annTypes, annFound) ∧ p.shared.1.directory.Refuses 1) ∧
    Meets (traced (authExec .plain)) noting (Suspends DefaultSubscriberTTL 1000000) suspendedPool
      (typedAgain ++ [(2, .at 60000000)]) := by
  intro p
  refine ⟨by decide +kernel, ?_⟩
  exact suspension_takes_effect .plain cachedDaemon _ _ (annIs .active) ∅ suspendedActors _
    (by decide) (by decide) (by decide +kernel) (by decide +kernel)

/-- The conversation is opened after the suspension, and answered as long as the record is cached.
    It ends when the record has long been looked up again. -/
def endedSuspended : List (ℕ × AuthEnv) :=
  steps 0 9 0 ++ steps 1 1 1000000 ++ steps 3 7 10000000 ++ steps 4 13 60000000 ++
    steps 5 8 119000000

/-- A subscriber who has been suspended for two minutes is about to be accepted. -/
theorem suspended_accepted :
    let p := run (traced (authExec .plain)) noting suspendedPool endedSuspended
    Meets (traced (authExec .plain)) noting (Prompt 1000000 suspendedActors) suspendedPool
      endedSuspended ∧
    acceptNext p 5 = some (annAcknowledges,
      ((annIs .hardSuspended).GetSubscriberByUsername "ann").map fun sub => ("ann", sub)) ∧
    RefusedSince p.shared (119000000 - DefaultSubscriberTTL - 1000000) 1 := by
  decide +kernel

end IspBss.Radius
