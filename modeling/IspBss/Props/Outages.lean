import IspBss.Lib.Runs
import IspBss.Props.Lockout
import IspBss.Props.RateAgreement

/-! Does the lockout count only rejected credentials?

        lookup failed ────────┐
        nobody of that name ──┼─▶ recordAuthFailure ─▶ ten of them: locked out for a quarter of an hour
        credential wrong ─────┘

    A lookup that fails and one that finds nobody share a branch, in PAP and in EAP. If none of its
    lookups fails, a name that is locked out has been rejected ten times. -/

namespace IspBss.Radius

open Lib Localcache List Counter AuthDaemon

/-! ### Requests, one after the other -/

/-- What is done by a request, an edit of the tables or a sweep, at a moment. -/
def served (K : Crypto) (d : AuthDaemon) (s : AuthState) (x : AuthActor × AuthEnv) :
    AuthState × List AuthEvent :=
  (Prog.run (traced (authExec K)) x.2 (x.1.prog K d) (s, [])).2

/-- The name for which a call finds the credential of the request to be wrong, or finds nobody. -/
def rejectedBy (r : AuthRequest) : (c : AuthCall) → authSig.Resp c → Option String
  | .compareHashAndPassword _ _, (same, _) => if same then none else some r.userName
  | .verifyMSCHAPv2 _ _ _ _ u, (.error .badNTResponse, _) => some u
  | .dbSubscriber u, (.ok none, _) => some u
  | .cacheGet u, (some (.notFound _), _) => some u
  | _, _ => none

def RejectedIn (r : AuthRequest) (h : List AuthEvent) (u : String) : Prop :=
  ∃ ev ∈ h, rejectedBy r ev.call ev.resp = some u
  deriving Decidable

/-- The name that a call fails to look up. -/
def unansweredBy : (c : AuthCall) → authSig.Resp c → Option String
  | .dbSubscriber u, (.error _, _) => some u
  | _, _ => none

def FailedIn (h : List AuthEvent) (u : String) : Prop := ∃ ev ∈ h, unansweredBy ev.call ev.resp = some u
  deriving Decidable

/-- The credential of the name was compared and found wrong, or nobody has the name. -/
def Rejects (a : AuthActor) (h : List AuthEvent) (u : String) : Prop := ∃ r ∈ a.request?, RejectedIn r h u
  deriving Decidable

/-- The name was accepted through PAP or EAP. -/
def Authenticates (d : AuthDaemon) (h : List AuthEvent) (u : String) : Prop :=
  ∃ ev ∈ h, authenticatedBy d ev.call = some u
  deriving Decidable

/-- The requests that were rejected, since the last success or since the lockout after the one before had
    passed. -/
def Tries.served (d : AuthDaemon) (u : String) (n : Tries) (x : AuthActor × AuthEnv) (h : List AuthEvent) :
    Tries :=
  if Authenticates d h u then ⟨0, n.last⟩
  else if Rejects x.1 h u then
    ⟨(if x.2.now ≤ n.last + LockoutDuration then n.count else 0) + 1, x.2.now⟩
  else n

/-- One of them, with the rejections of the name. -/
def serve (K : Crypto) (d : AuthDaemon) (u : String) (st : AuthState × Tries) (x : AuthActor × AuthEnv) :
    AuthState × Tries :=
  ((served K d st.1 x).1, st.2.served d u x (served K d st.1 x).2)

/-- No lookup of the name fails. -/
def Answered (K : Crypto) (d : AuthDaemon) (u : String) (st : AuthState × Tries) (x : AuthActor × AuthEnv) : Prop :=
  ¬ FailedIn (served K d st.1 x).2 u
  deriving Decidable

/-- One after the other. -/
def serveAll (K : Crypto) (d : AuthDaemon) (u : String) (day : List (AuthActor × AuthEnv))
    (st : AuthState × Tries) : AuthState × Tries := Run.run (serve K d u) st day

/-- The lockout reports the name as blocked. -/
def ReportedBlocked (K : Crypto) (e : AuthEnv) (s : AuthState) (u : String) : Prop :=
  (Prog.run (authExec K) e (Check u) s).1.1 = true
  deriving Decidable

theorem reportedBlocked_iff {K : Crypto} {e : AuthEnv} {s : AuthState} {u : String} :
    ReportedBlocked K e s u ↔ ∃ n, s.guard.Get e.now (BruteForceKey u) = some n ∧ MaxFailedAttempts ≤ n := by
  rw [ReportedBlocked, Check, Prog.run_bind]
  rw [show Prog.run (authExec K) e (AuthCall.guardGet u).ask s =
    (s.guard.Get e.now (BruteForceKey u), s) from rfl]
  cases s.guard.Get e.now (BruteForceKey u) with
  | none => simp
  | some n => simp

/-! ### What is stored -/

/-- The CHECK on `nt_hash`: there is none, or it has sixteen octets. -/
def NTHashLength (h : Option (List UInt8)) : Prop := h.getD [] = [] ∨ (h.getD []).length = 16

def Directory.Checked (dir : Directory) : Prop :=
  ∀ id profile, dir.subscribers.lookup id = some profile → NTHashLength profile.ntHash

structure Enrolled (s : AuthState) : Prop where
  directory : s.directory.Checked
  cached {key x sub} : s.subscribers.entries.lookup key = some x → x.val.subscriber = some sub →
    NTHashLength sub.ntHash

theorem Directory.Checked.found {dir : Directory} (h : dir.Checked) {u : String} {sub : Subscriber}
    (hfound : dir.GetSubscriberByUsername u = some sub) : NTHashLength sub.ntHash := by
  obtain ⟨id, profile, plan, hrow, -, rfl⟩ := getSubscriberByUsername_eq_some hfound
  exact h id profile hrow

theorem responseIn_lengths {r : AuthRequest} {pc nr : List UInt8} (h : responseIn r = some (pc, nr)) :
    pc.length = 16 ∧ nr.length = 24 := by
  unfold responseIn at h
  split at h
  · cases h
  split at h
  · cases h
  · rename_i resp hresp
    cases h
    exact ParseMSCHAPv2Response_lengths hresp

/-! ### One request -/

/-- The name that a call gives a reason to count a failure of. -/
def countedBy (r : AuthRequest) (c : AuthCall) (resp : authSig.Resp c) : Option String :=
  (unansweredBy c resp).or (rejectedBy r c resp)

def CountedIn (r : AuthRequest) (h : List AuthEvent) (u : String) : Prop :=
  ∃ ev ∈ h, countedBy r ev.call ev.resp = some u

/-- What a request has done to the counters, as far as it has come. -/
inductive GuardIs (g : Localcache.Counter) (e : AuthEnv) (r : AuthRequest) (h : List AuthEvent)
    (w : AuthRecord) : Localcache.Counter → Prop where
  | same (hfailed : w.failed = false) (hreset : w.reset = false) : GuardIs g e r h w g
  | counted (u : String) (hsubject : Subject r w u) (hfailed : w.failed = true)
      (hrecorded : w.recorded = false) (hreset : w.reset = false) (hwhy : CountedIn r h u) :
      GuardIs g e r h w (g.Incr e.now (BruteForceKey u))
  | recorded (u : String) (hsubject : Subject r w u) (hfailed : w.failed = true)
      (hrecorded : w.recorded = true) (hreset : w.reset = false) (hwhy : CountedIn r h u) :
      GuardIs g e r h w ((g.Incr e.now (BruteForceKey u)).Expire e.now (BruteForceKey u) LockoutDuration)
  | cleared (u : String) (hsubject : Subject r w u) (hfailed : w.failed = false) (hreset : w.reset = true) :
      GuardIs g e r h w (g.Reset (BruteForceKey u))

/-- How the record of a request in progress agrees with its calls. -/
structure Agrees (d : AuthDaemon) (g : Localcache.Counter) (e : AuthEnv) (r : AuthRequest)
    (s : AuthState × List AuthEvent) (w : AuthRecord) : Prop where
  enrolled : Enrolled s.1
  guard : GuardIs g e r s.2 w s.1.guard
  asked {n} : r.eapMessage = [] → w.guard = some n → n = g.Get e.now (BruteForceKey r.userName)
  named : r.eapMessage = [] → w.guard.isSome = true → d.isMAB r = false
  looked {u sub} : (r.eapMessage = [] → d.isMAB r = false) → w.looked = some (u, .ok (some sub)) →
    NTHashLength sub.ntHash
  missing {u found} : w.looked = some (u, found) → found.toOption.join = none →
    (r.eapMessage = [] → d.isMAB r = false) → CountedIn r s.2 u
  compared {hash password} : w.compared = some (hash, password, false) → CountedIn r s.2 r.userName
  verdict {hash pc nr err} : w.verdict = some (hash, pc, nr, .error err) →
    err = .noNTHash ∨ ∃ u, Subject r w u ∧ CountedIn r s.2 u
  settled : w.answered = true → w.failed = true → w.recorded = true
  accepted {u} : Authenticates d s.2 u → w.answered = true ∧ Subject r w u ∧ w.failed = false ∧
    (w.reset = true ∨ r.eapMessage = [] ∧ w.guard = some none)

section
variable {K : Crypto} {d : AuthDaemon} {g g' : Localcache.Counter} {e : AuthEnv} {r : AuthRequest}
  {s : AuthState} {h h' : List AuthEvent} {w w' : AuthRecord} {c : AuthCall} {u : String}

theorem CountedIn.mono (hr : CountedIn r h u) : CountedIn r (h ++ h') u := by
  obtain ⟨ev, hev, hname⟩ := hr
  exact ⟨ev, mem_append_left _ hev, hname⟩

theorem countedIn_now (hname : countedBy r c (authExec K e c s).1 = some u) :
    CountedIn r (h ++ [eventAt (authExec K) e c s]) u :=
  ⟨_, mem_append_right _ (.head _), hname⟩

theorem agrees_fresh (hs : Enrolled s) : Agrees d s.guard e r (s, []) .fresh where
  enrolled := hs
  guard := .same rfl rfl
  asked := nofun
  named := nofun
  looked := nofun
  missing := nofun
  compared := nofun
  verdict := nofun
  settled := nofun
  accepted := by
    rintro u ⟨ev, hev, -⟩
    cases hev

/-- If no lookup of the name has failed, it has been rejected. -/
theorem CountedIn.rejected (hcounted : CountedIn r h u) (hup : ¬ FailedIn h u) : RejectedIn r h u := by
  obtain ⟨ev, hev, hname⟩ := hcounted
  rcases Option.or_eq_some_iff.mp hname with hfailed | ⟨-, hrejected⟩
  · exact absurd ⟨ev, hev, hfailed⟩ hup
  · exact ⟨ev, hev, hrejected⟩

/-- Why a failure is recorded. -/
theorem Agrees.why (ha : Agrees d g e r (s, h) w) (hs : Subject r w u) (hwhy : Refusal r w u) :
    CountedIn r h u := by
  have hnamed : r.eapMessage = [] → d.isMAB r = false := by
    intro hplain
    rcases hs with ⟨-, hguard, -⟩ | ⟨heap, -⟩
    · exact ha.named hplain hguard
    · exact absurd hplain heap
  cases hwhy with
  | outage err hlooked => exact ha.missing hlooked rfl hnamed
  | unknown hlooked => exact ha.missing hlooked rfl hnamed
  | compared sub hlooked plain hcompared =>
    rcases hs with ⟨-, -, rfl⟩ | ⟨heap, -⟩
    · exact ha.compared hcompared
    · exact absurd plain heap
  | verdict sub hlooked pc nr hresponse err herr hverdict =>
    obtain ⟨u', hs', hrejected⟩ := (ha.verdict hverdict).resolve_left herr
    rw [hs.unique hs']
    exact hrejected

theorem GuardIs.undecided (hg : GuardIs g e r h w g') (hw : w.Undecided) : g' = g := by
  cases hg with
  | same => rfl
  | counted u _ hfailed =>
    rw [hw.1] at hfailed
    cases hfailed
  | recorded u _ hfailed =>
    rw [hw.1] at hfailed
    cases hfailed
  | cleared u _ _ hreset =>
    rw [hw.2.1] at hreset
    cases hreset

/-- The counters stay as they are as long as the request does not decide. -/
theorem GuardIs.keep (hg : GuardIs g e r h w g') (hfailed : w'.failed = w.failed)
    (hrecorded : w'.recorded = w.recorded) (hreset : w'.reset = w.reset)
    (hsubject : ∀ u, Subject r w u → Subject r w' u) : GuardIs g e r (h ++ h') w' g' := by
  cases hg with
  | same hf hr => exact .same (hfailed.trans hf) (hreset.trans hr)
  | counted u hs hf hr hc hwhy =>
    exact .counted u (hsubject u hs) (hfailed.trans hf) (hrecorded.trans hr) (hreset.trans hc) hwhy.mono
  | recorded u hs hf hr hc hwhy =>
    exact .recorded u (hsubject u hs) (hfailed.trans hf) (hrecorded.trans hr) (hreset.trans hc) hwhy.mono
  | cleared u hs hf hr => exact .cleared u (hsubject u hs) (hfailed.trans hf) (hreset.trans hr)

section
variable (ha : Agrees d g e r (s, h) w) (hc : Handles K d r w c)
include ha hc

theorem enrolled_run : Enrolled (c.run K e s).2 where
  directory := by
    cases c with
    | setDirectory dir => exact hc.elim
    | _ => exact ha.enrolled.directory
  cached hx hsub := by
    rcases cached_entry hx with hold | ⟨cache, u, found, rfl, -, hval, -⟩
    · exact ha.enrolled.cached hold hsub
    · refine ha.looked hc.2.1 (u := u) ?_
      rw [hc.2.2.1, ← hval, hsub]

theorem guardIs_run :
    GuardIs g e r (h ++ [eventAt (authExec K) e c s]) (noting w c (authExec K e c s).1) (c.run K e s).2.guard := by
  have hkept : ∀ u, Subject r w u → Subject r (noting w c (authExec K e c s).1) u := fun u hs => hs.kept _
  have hguard := ha.guard
  cases c with
  | guardIncr u =>
    obtain ⟨hs, hundecided, hrecorded, hwhy⟩ := hc
    have hsame : s.guard = g := hguard.undecided hundecided
    show GuardIs g e r _ _ (s.guard.Incr e.now (BruteForceKey u))
    rw [hsame]
    exact .counted u (hkept u hs) rfl hrecorded hundecided.2.1 (ha.why hs hwhy).mono
  | guardExpire u =>
    obtain ⟨hs, hfailed, hrecorded, hreset, -⟩ := hc
    show GuardIs g e r _ _ (s.guard.Expire e.now (BruteForceKey u) LockoutDuration)
    generalize s.guard = g' at hguard
    cases hguard with
    | same hf =>
      rw [hf] at hfailed
      cases hfailed
    | counted u' hs' _ _ _ hwhy =>
      rw [← hs.unique hs'] at hwhy ⊢
      exact .recorded u (hkept u hs) hfailed rfl hreset hwhy.mono
    | recorded u' _ _ hr =>
      rw [hr] at hrecorded
      cases hrecorded
    | cleared u' _ hf =>
      rw [hf] at hfailed
      cases hfailed
  | guardReset u =>
    obtain ⟨hs, hundecided⟩ := hc
    have hsame : s.guard = g := hguard.undecided hundecided
    show GuardIs g e r _ _ (s.guard.Reset (BruteForceKey u))
    rw [hsame]
    exact .cleared u (hkept u hs) hundecided.1 rfl
  | sweep => exact hc.elim
  | restart => exact hc.elim
  | _ => exact hguard.keep rfl rfl rfl hkept

omit ha in
/-- An address that is looked up is not a name. -/
theorem named_run (hnamed : r.eapMessage = [] → d.isMAB r = false) {nasID : ℤ} : c ≠ .authorizeMAC u nasID := by
  rintro rfl
  have hmab := hc.2.2
  rw [hnamed hc.2.1] at hmab
  cases hmab

theorem looked_run {sub : Subscriber} (hnamed : r.eapMessage = [] → d.isMAB r = false)
    (hlooked : (noting w c (authExec K e c s).1).looked = some (u, .ok (some sub))) : NTHashLength sub.ntHash := by
  rcases looked_told hlooked with hold | ⟨rfl, entry, hget, hfound⟩ | ⟨rfl, hfound⟩ | ⟨nasID, hmab, -⟩
  · exact ha.looked hnamed hold
  · obtain ⟨x, hx, -, rfl⟩ := Store.get_eq_some.mp hget
    exact ha.enrolled.cached hx (Except.ok.inj hfound).symm
  · split at hfound
    · cases hfound
    · exact ha.enrolled.directory.found (Except.ok.inj hfound).symm
  · exact absurd hmab (named_run hc hnamed)

theorem missing_run {found : Except NetErr (Option Subscriber)}
    (hlooked : (noting w c (authExec K e c s).1).looked = some (u, found)) (hnone : found.toOption.join = none)
    (hnamed : r.eapMessage = [] → d.isMAB r = false) : CountedIn r (h ++ [eventAt (authExec K) e c s]) u := by
  rcases looked_told hlooked with hold | ⟨rfl, entry, hget, rfl⟩ | ⟨rfl, rfl⟩ | ⟨nasID, hmab, -⟩
  · exact (ha.missing hold hnone hnamed).mono
  · refine countedIn_now ?_
    show countedBy r (.cacheGet u) (s.subscribers.Get e.now (Cache.SubscriberCacheKey u), e.now) = some u
    cases entry with
    | found sub => cases hnone
    | notFound name =>
      rw [hget]
      rfl
  · refine countedIn_now ?_
    show countedBy r (.dbSubscriber u) (if e.fails then .error .unavailable
      else .ok (s.directory.GetSubscriberByUsername u), e.now) = some u
    cases hup : e.fails with
    | true => rfl
    | false =>
      rw [hup] at hnone
      cases hrow : s.directory.GetSubscriberByUsername u with
      | none => rfl
      | some sub =>
        rw [hrow] at hnone
        cases hnone
  · exact absurd hmab (named_run hc hnamed)

theorem verdict_run {hash pc nr : List UInt8} {err : MschapErr}
    (hverdict : (noting w c (authExec K e c s).1).verdict = some (hash, pc, nr, .error err)) :
    err = .noNTHash ∨ ∃ u, Subject r (noting w c (authExec K e c s).1) u ∧
      CountedIn r (h ++ [eventAt (authExec K) e c s]) u := by
  rcases verdict_told hverdict with hold | ⟨challenge, u, rfl, hresult⟩
  · rcases ha.verdict hold with hnone | ⟨u, hs, hrejected⟩
    · exact .inl hnone
    · exact .inr ⟨u, hs.kept _, hrejected.mono⟩
  · obtain ⟨-, ref, sess, sub, hresp, rfl, rfl, rfl⟩ := hc
    obtain ⟨hpc, hnr⟩ := responseIn_lengths hresp.response
    have hhash := ha.looked (absurd · hresp.eap) hresp.looked
    rcases VerifyMSCHAPv2_error hhash hpc hnr hresult.symm with ⟨-, hnone⟩ | rfl
    · exact .inl hnone
    · have hs : Subject r w sess.username := .inr ⟨hresp.eap, sess, hresp.read, rfl⟩
      refine .inr ⟨_, hs.kept _, countedIn_now ?_⟩
      show countedBy r (.verifyMSCHAPv2 _ _ pc nr _) (VerifyMSCHAPv2 K _ _ pc nr _, e.now) = _
      rw [← hresult]
      rfl

theorem settled_run (hanswered : (noting w c (authExec K e c s).1).answered = true)
    (hfailed : (noting w c (authExec K e c s).1).failed = true) :
    (noting w c (authExec K e c s).1).recorded = true := by
  cases c with
  | guardIncr u =>
    have hun : w.answered = false := hc.2.1.2.2
    rw [show w.answered = true from hanswered] at hun
    cases hun
  | guardExpire u => rfl
  | write r' resp who => exact hc.2.2.1 hfailed
  | _ => exact ha.settled hanswered hfailed

theorem asked_run {n : Option ℕ} (hplain : r.eapMessage = [])
    (hn : (noting w c (authExec K e c s).1).guard = some n) :
    n = g.Get e.now (BruteForceKey r.userName) ∧ d.isMAB r = false := by
  cases c with
  | guardGet u =>
    obtain ⟨-, hundecided, ⟨-, hmab, rfl⟩ | ⟨heap, -⟩⟩ := hc
    · cases hn
      rw [← show s.guard = g from ha.guard.undecided hundecided]
      exact ⟨rfl, hmab⟩
    · exact absurd hplain heap
  | _ =>
    have hold : w.guard = some n := hn
    exact ⟨ha.asked hplain hold, ha.named hplain (by rw [hold]; rfl)⟩

/-- After an accept nothing more is decided. -/
theorem accepted_run (hauth : Authenticates d (h ++ [eventAt (authExec K) e c s]) u) :
    (noting w c (authExec K e c s).1).answered = true ∧ Subject r (noting w c (authExec K e c s).1) u ∧
    (noting w c (authExec K e c s).1).failed = false ∧
    ((noting w c (authExec K e c s).1).reset = true ∨
      r.eapMessage = [] ∧ (noting w c (authExec K e c s).1).guard = some none) := by
  obtain ⟨ev, hev, hname⟩ := hauth
  rcases mem_append.mp hev with hold | hnew
  · obtain ⟨hanswered, hs, hfailed, hclear⟩ := ha.accepted ⟨ev, hold, hname⟩
    have hdone : ¬ w.Undecided := by
      rintro ⟨-, -, hun⟩
      rw [hanswered] at hun
      cases hun
    refine ⟨?_, hs.kept _, ?_, ?_⟩
    · cases c with
      | write r' resp who => rfl
      | _ => exact hanswered
    · cases c with
      | guardIncr v => exact absurd hc.2.1 hdone
      | _ => exact hfailed
    · cases c with
      | guardGet v => exact absurd hc.2.1 hdone
      | guardReset v => exact absurd hc.2 hdone
      | _ => exact hclear
  · obtain rfl := mem_singleton.mp hnew
    change authenticatedBy d c = some u at hname
    cases c with
    | write r' resp who =>
      obtain ⟨rfl, -, -, hanswers⟩ := hc
      rw [authenticatedBy] at hname
      split at hname
      · rename_i haccept
        rw [Answers, haccept.1] at hanswers
        obtain ⟨u', sub, rfl, -, hfailed, haccepts⟩ := hanswers
        cases hname
        cases haccepts with
        | eap heap ref hloaded sess hread hstage hu hreset =>
          exact ⟨rfl, .inr ⟨heap, sess, hread, hu⟩, hfailed, .inl hreset⟩
        | mab hplain hmab =>
          rw [haccept.2 hplain] at hmab
          cases hmab
        | pap hplain hmab hu _ hcleared hreset =>
          obtain ⟨n, hn, -⟩ := hcleared
          refine ⟨rfl, .inl ⟨hplain, ?_, hu⟩, hfailed, ?_⟩
          · show w.guard.isSome = true
            rw [hn]
            rfl
          · cases n with
            | none => exact .inr ⟨hplain, hn⟩
            | some n => exact .inl (hreset n hn)
      · cases hname
    | _ => cases hname

theorem agrees_run :
    Agrees d g e r (traced (authExec K) e c (s, h)).2 (noting w c (authExec K e c s).1) where
  enrolled := enrolled_run ha hc
  guard := guardIs_run ha hc
  asked hplain hn := (asked_run ha hc hplain hn).1
  named hplain hsome := by
    obtain ⟨n, hn⟩ := Option.isSome_iff_exists.mp hsome
    exact (asked_run ha hc hplain hn).2
  looked := looked_run ha hc
  missing := missing_run ha hc
  compared hcompared := by
    rcases compared_told hcompared with hold | ⟨rfl, hsame⟩
    · exact (ha.compared hold).mono
    · refine countedIn_now ?_
      show (if K.compareHashAndPassword _ _ then none else some r.userName) = some r.userName
      rw [← hsame]
      rfl
  verdict := verdict_run ha hc
  settled := settled_run ha hc
  accepted := accepted_run ha hc

end

/-- What a request that has been answered has done to the counter of a name. -/
inductive Outcome (d : AuthDaemon) (g : Localcache.Counter) (e : AuthEnv) (r : AuthRequest) (u : String)
    (h : List AuthEvent) (g' : Localcache.Counter) : Prop where
  | same (hsame : g'.entries.lookup (BruteForceKey u) = g.entries.lookup (BruteForceKey u))
      (hclear : Authenticates d h u → g.Get e.now (BruteForceKey u) = none)
  | counted (hwhy : CountedIn r h u) (hfailed : ¬ Authenticates d h u)
      (hg : g' = (g.Incr e.now (BruteForceKey u)).Expire e.now (BruteForceKey u) LockoutDuration)
  | cleared (hnone : g'.entries.lookup (BruteForceKey u) = none)

theorem Agrees.outcome (ha : Agrees d g e r (s, h) w) (hanswered : w.answered = true) (u : String) :
    Outcome d g e r u h s.guard := by
  have hguard : GuardIs g e r h w s.guard := ha.guard
  generalize s.guard = g' at hguard
  cases hguard with
  | same hfailed hreset =>
    refine .same rfl fun hauth => ?_
    obtain ⟨-, hs, -, hclear⟩ := ha.accepted hauth
    rcases hclear with hreset' | ⟨hplain, hnone⟩
    · rw [hreset] at hreset'
      cases hreset'
    · rcases hs with ⟨-, -, rfl⟩ | ⟨heap, -⟩
      · exact (ha.asked hplain hnone).symm
      · exact absurd hplain heap
  | counted u' _ hfailed hrecorded =>
    rw [ha.settled hanswered hfailed] at hrecorded
    cases hrecorded
  | recorded u' hs hfailed _ _ hwhy =>
    have hnot : ∀ v, ¬ Authenticates d h v := by
      intro v hauth
      rw [(ha.accepted hauth).2.2.1] at hfailed
      cases hfailed
    by_cases hu : u' = u
    · subst hu
      exact .counted hwhy (hnot u') rfl
    · have hne : BruteForceKey u ≠ BruteForceKey u' := fun heq => hu (BruteForceKey_injective heq).symm
      refine .same ?_ fun hauth => absurd hauth (hnot u)
      rw [lookup_expire, if_neg hne, lookup_incr, if_neg hne]
  | cleared u' hs =>
    by_cases hu : u' = u
    · subst hu
      refine .cleared ?_
      rw [lookup_reset, if_pos rfl]
    · have hne : BruteForceKey u ≠ BruteForceKey u' := fun heq => hu (BruteForceKey_injective heq).symm
      refine .same ?_ fun hauth => absurd (hs.unique (ha.accepted hauth).2.1) hu
      rw [lookup_reset, if_neg hne]

theorem request_outcome (K : Crypto) (d : AuthDaemon) (hs : Enrolled s) (r : AuthRequest) (u : String) :
    Enrolled (served K d s (.request r, e)).1 ∧
    Outcome d s.guard e r u (served K d s (.request r, e)).2 (served K d s (.request r, e)).1.guard := by
  have hcall : ∀ c (σ : AuthState × List AuthEvent) w, Agrees d s.guard e r σ w → Handles K d r w c →
      True ∧ Agrees d s.guard e r (traced (authExec K) e c σ).2
        (noting w c (traced (authExec K) e c σ).1) :=
    fun c σ w ha hc => ⟨trivial, agrees_run ha hc⟩
  obtain ⟨w, ha, hanswered⟩ :=
    (behaves_handleAuth K d r).run hcall (agrees_fresh hs)
  exact ⟨ha.enrolled, ha.outcome hanswered u⟩

/-! ### A whole day -/

/-- An edit keeps the CHECK. -/
def AuthActor.Checked : AuthActor → Prop
  | .operator changes => ∀ dir ∈ changes, dir.Checked
  | _ => True

/-- A counter that is live counts no more than the rejections, and lapses no later. -/
structure Fair (u : String) (t : Time) (st : AuthState × Tries) : Prop where
  enrolled : Enrolled st.1
  counted {x} : st.1.guard.entries.lookup (BruteForceKey u) = some x → ¬ x.Lapsed t →
    x.count ≤ st.2.count ∧ st.2.last ≤ t ∧ ∃ y, x.expires = some y ∧ y ≤ st.2.last + LockoutDuration

variable {st : AuthState × Tries}

theorem Fair.later {t t' : Time} (hf : Fair u t st) (ht : t ≤ t') : Fair u t' st where
  enrolled := hf.enrolled
  counted {x} hx hlive := by
    have hlive' : ¬ x.Lapsed t := fun ⟨y, hy, hlt⟩ => hlive ⟨y, hy, hlt.trans_le ht⟩
    obtain ⟨hcount, hlast, hexp⟩ := hf.counted hx hlive'
    exact ⟨hcount, hlast.trans ht, hexp⟩

variable {a : AuthActor}

/-- A live counter that stays as it is, through a request that is rejected or not. -/
theorem Fair.keep {s' : AuthState} (hf : Fair u e.now st)
    (hs : Enrolled s') (hsame : ∀ x, s'.guard.entries.lookup (BruteForceKey u) = some x →
      st.1.guard.entries.lookup (BruteForceKey u) = some x)
    (hclear : Authenticates d h u → st.1.guard.Get e.now (BruteForceKey u) = none) :
    Fair u e.now (s', st.2.served d u (a, e) h) where
  enrolled := hs
  counted {x} hx hlive := by
    have hx' := hsame x hx
    obtain ⟨hcount, hlast, y, hy, hle⟩ := hf.counted hx' hlive
    have hnow : e.now ≤ y := not_lt.mp fun hlt => hlive ⟨y, hy, hlt⟩
    have hsoon : e.now ≤ st.2.last + LockoutDuration := hnow.trans hle
    have hauth : ¬ Authenticates d h u := by
      intro hauth
      have hget := get_eq_some.mpr ⟨x, hx', hlive, rfl⟩
      rw [hclear hauth] at hget
      cases hget
    by_cases hrejects : Rejects a h u
    · rw [Tries.served, if_neg hauth, if_pos hrejects]
      refine ⟨?_, le_rfl, y, hy, ?_⟩
      · show x.count ≤ (if e.now ≤ st.2.last + LockoutDuration then st.2.count else 0) + 1
        rw [if_pos hsoon]
        omega
      · linarith
    · rw [Tries.served, if_neg hauth, if_neg hrejects]
      exact ⟨hcount, hlast, y, hy, hle⟩

/-- A request that is rejected and counted. -/
theorem Fair.reject {s' : AuthState} (hf : Fair u e.now st) (hs : Enrolled s')
    (hwhy : RejectedIn r h u) (hfailed : ¬ Authenticates d h u)
    (hg : s'.guard = (st.1.guard.Incr e.now (BruteForceKey u)).Expire e.now (BruteForceKey u)
      LockoutDuration) : Fair u e.now (s', st.2.served d u (.request r, e) h) where
  enrolled := hs
  counted {x} hx _ := by
    have hrejects : Rejects (.request r) h u := ⟨r, rfl, hwhy⟩
    rw [Tries.served, if_neg hfailed, if_pos hrejects]
    rw [hg, lookup_expire, if_pos rfl, lookup_incr, if_pos rfl] at hx
    cases hx
    refine ⟨?_, le_rfl, _, rfl, le_rfl⟩
    -- a counter that is counted up is live, and then the rejections have not lapsed either
    cases hlive : st.1.guard.live e.now (BruteForceKey u) with
    | none => exact Nat.le_add_left 1 _
    | some x =>
      obtain ⟨hx, hnot⟩ := live_eq_some.mp hlive
      obtain ⟨hcount, -, y, hy, hle⟩ := hf.counted hx hnot
      have hnow : e.now ≤ y := not_lt.mp fun hlt => hnot ⟨y, hy, hlt⟩
      show x.count + 1 ≤ (if e.now ≤ st.2.last + LockoutDuration then st.2.count else 0) + 1
      rw [if_pos (hnow.trans hle)]
      omega

/-- Neither an edit nor a sweep counts or accepts anything. -/
theorem beside_served (hreq : a.request? = none) (hchecked : a.Checked) (hs : Enrolled s) :
    Enrolled (served K d s (a, e)).1 ∧
    (∀ x, (served K d s (a, e)).1.guard.entries.lookup (BruteForceKey u) = some x →
      s.guard.entries.lookup (BruteForceKey u) = some x) ∧
    ¬ Authenticates d (served K d s (a, e)).2 u := by
  let R (σ : AuthState × List AuthEvent) (_ : AuthRecord) : Prop :=
    Enrolled σ.1 ∧ (∀ x, σ.1.guard.entries.lookup (BruteForceKey u) = some x →
      s.guard.entries.lookup (BruteForceKey u) = some x) ∧ ¬ Authenticates d σ.2 u
  have hcall : ∀ c σ w, R σ w → a.Does K d w c →
      True ∧ R (traced (authExec K) e c σ).2 (noting w c (traced (authExec K) e c σ).1) := by
    rintro c ⟨s', h'⟩ w ⟨henrolled, hguard, hauth⟩ hdoes
    have hnone : authenticatedBy d c = none → ¬ Authenticates d (h' ++ [eventAt (authExec K) e c s']) u := by
      rintro hc ⟨ev, hev, hname⟩
      rcases mem_append.mp hev with hold | hnew
      · exact hauth ⟨ev, hold, hname⟩
      · obtain rfl := mem_singleton.mp hnew
        rw [show authenticatedBy d (eventAt (authExec K) e c s').call = none from hc] at hname
        cases hname
    refine ⟨trivial, ?_⟩
    cases a with
    | request r => cases hreq
    | operator changes =>
      obtain ⟨dir, hmem, rfl⟩ := hdoes
      exact ⟨⟨hchecked dir hmem, henrolled.cached⟩, hguard, hnone rfl⟩
    | sweeper ticks =>
      obtain rfl : c = .sweep := hdoes
      refine ⟨⟨henrolled.directory, fun hx => henrolled.cached (Store.lookup_sweep hx)⟩, ?_, hnone rfl⟩
      intro x hx
      have hfilter := (lookup_sweep (BruteForceKey u)).symm.trans hx
      exact hguard x (Option.filter_eq_some_iff.mp hfilter).1
  have hstart : R (s, []) .fresh := ⟨hs, fun _ hx => hx, by rintro ⟨ev, hev, -⟩; cases hev⟩
  obtain ⟨_, hend, -⟩ := (a.obeys_prog K d).run hcall hstart
  exact hend

theorem fair_step (hf : Fair u e.now st) (hchecked : a.Checked) (hup : Answered K d u st (a, e)) :
    Fair u e.now (serve K d u st (a, e)) := by
  cases a with
  | request r =>
    obtain ⟨henrolled, hout⟩ := request_outcome K d hf.enrolled r u
    cases hout with
    | same hsame hclear => exact hf.keep henrolled (fun x hx => hsame ▸ hx) hclear
    | counted hwhy hfailed hg => exact hf.reject henrolled (hwhy.rejected hup) hfailed hg
    | cleared hnone =>
      refine ⟨henrolled, fun hx => ?_⟩
      cases hnone.symm.trans hx
  | operator changes =>
    obtain ⟨henrolled, hguard, hauth⟩ := beside_served rfl hchecked hf.enrolled
    exact hf.keep henrolled hguard fun h => absurd h hauth
  | sweeper ticks =>
    obtain ⟨henrolled, hguard, hauth⟩ := beside_served rfl hchecked hf.enrolled
    exact hf.keep henrolled hguard fun h => absurd h hauth

/-- From the start of the day to its end. -/
theorem fair_serveAll {day : List (AuthActor × AuthEnv)} {t : Time} : ∀ {st : AuthState × Tries},
    (∀ x ∈ day, Fair u x.2.now st) → Fair u t st → day.Pairwise (fun x y => x.2.now ≤ y.2.now) →
    (∀ x ∈ day, x.2.now ≤ t) → (∀ x ∈ day, x.1.Checked) →
    Run.Meets (serve K d u) (Answered K d u) st day → Fair u t (serveAll K d u day st) := by
  induction day with
  | nil => exact fun _ hf _ _ _ _ => hf
  | cons x xs ih =>
    intro st hall _ htime hlast hchecked hup
    obtain ⟨hx, hxs⟩ := pairwise_cons.mp htime
    have hnext := fair_step (K := K) (d := d) (hall x (.head _)) (hchecked x (.head _)) hup.1
    exact ih (fun y hy => hnext.later (hx y hy)) (hnext.later (hlast x (.head _))) hxs
      (fun y hy => hlast y (.tail _ hy)) (fun y hy => hchecked y (.tail _ hy)) hup.2

end

/-- If no lookup of a name fails and it is reported as blocked, it has been rejected ten times since its last success,
    and the lockout has not passed since the last of these. -/
theorem blocked_only_if_rejected (K : Crypto) (d : AuthDaemon) (directory : Directory)
    (persisted : Rows ℤ PersistedVerifier) (day : List (AuthActor × AuthEnv))
    (hdirectory : directory.Checked) (hchecked : ∀ x ∈ day, x.1.Checked)
    (htime : day.Pairwise fun x y => x.2.now ≤ y.2.now) (u : String)
    (hup : Run.Meets (serve K d u) (Answered K d u) (.start directory persisted, ⟨0, 0⟩) day)
    (e : AuthEnv) (hlast : ∀ x ∈ day, x.2.now ≤ e.now)
    (hblocked : ReportedBlocked K e (serveAll K d u day (.start directory persisted, ⟨0, 0⟩)).1 u) :
    MaxFailedAttempts ≤ (serveAll K d u day (.start directory persisted, ⟨0, 0⟩)).2.count ∧
    e.now ≤ (serveAll K d u day (.start directory persisted, ⟨0, 0⟩)).2.last + LockoutDuration := by
  have hstart : ∀ t, Fair u t (.start directory persisted, ⟨0, 0⟩) :=
    fun t => ⟨⟨hdirectory, nofun⟩, nofun⟩
  have hfair : Fair u e.now _ := fair_serveAll (K := K) (d := d) (fun x _ => hstart x.2.now) (hstart e.now) htime
    hlast hchecked hup
  obtain ⟨n, hget, hmany⟩ := reportedBlocked_iff.mp hblocked
  obtain ⟨x, hx, hlive, rfl⟩ := get_eq_some.mp hget
  obtain ⟨hcount, -, y, hy, hle⟩ := hfair.counted hx hlive
  have hnow : e.now ≤ y := not_lt.mp fun hlt => hlive ⟨y, hy, hlt⟩
  exact ⟨hmany.trans hcount, hnow.trans hle⟩

/-- Ten wrong passwords, and the name is blocked. -/
def tenWrong : List (AuthActor × AuthEnv) := replicate 10 (.request annMistypes, .at 0)

theorem annIs_checked (status : SubStatus) : (annIs status).Checked := by
  intro id profile hrow
  by_cases hid : id = 1
  · rw [annIs, hid] at hrow
    cases hrow
    exact .inr rfl
  · rw [annIs, AList.lookup_insert_ne hid] at hrow
    cases hrow

theorem ann_blocked_after_ten :
    ReportedBlocked .plain (.at 1)
      (serveAll .plain plainDaemon "ann" tenWrong (.start (annIs .active) ∅, ⟨0, 0⟩)).1 "ann" ∧
    MaxFailedAttempts ≤
      (serveAll .plain plainDaemon "ann" tenWrong (.start (annIs .active) ∅, ⟨0, 0⟩)).2.count := by
  have hblocked : ReportedBlocked .plain (.at 1)
      (serveAll .plain plainDaemon "ann" tenWrong (.start (annIs .active) ∅, ⟨0, 0⟩)).1 "ann" := by
    decide +kernel
  refine ⟨hblocked, ?_⟩
  exact (blocked_only_if_rejected .plain plainDaemon (annIs .active) ∅ tenWrong (annIs_checked _)
    (fun x hx => by rw [eq_of_mem_replicate hx]; trivial) (by decide) "ann" (by decide +kernel) (.at 1) (by decide)
    hblocked).1

/-- Ten times the right password, while the database is down. -/
def tenDuringOutage : List (AuthActor × AuthEnv) :=
  replicate 10 (.request annTypes, { AuthEnv.at 0 with fails := true })

/-- Nobody has been rejected, and the name is blocked. -/
theorem outage_locks_out :
    ReportedBlocked .plain (.at 1)
      (serveAll .plain plainDaemon "ann" tenDuringOutage (.start (annIs .active) ∅, ⟨0, 0⟩)).1 "ann" ∧
    (serveAll .plain plainDaemon "ann" tenDuringOutage (.start (annIs .active) ∅, ⟨0, 0⟩)).2.count = 0 := by
  decide +kernel

end IspBss.Radius
