import IspBss.Props.AuthWorkers

/-! Is whoever is accepted through EAP the one who answered the challenge?

    A conversation is three packets, each handled by a worker of its own; what ties them together is the
    State and the session object that the store has under it.

        opening packet    mints State, creates session (name, challenge), saves, sends the challenge
        response          loads, reads; verified ─▶ the stage of the session moves on
        end               loads, reads; the stage says that a response was verified ─▶ accept

    However the packets are interleaved, a session belongs to one State for good, with one name and one
    challenge, and its stage moves on only after a response to that challenge has been verified. -/

namespace IspBss.Radius

open Lib Pool List Option Localcache AuthDaemon

/-! ### States -/

/-- The State that a call has minted. -/
def mintedBy : (c : AuthCall) → authSig.Resp c → Option String
  | .newState, a => a.1
  | _, _ => none

def Minted (h : List AuthEvent) (state : String) : Prop := ∃ ev ∈ h, mintedBy ev.call ev.resp = some state
  deriving Decidable

/-- The State that a call sends to a NAS in a challenge. -/
def challengedBy : AuthCall → Option String
  | .write _ resp _ => if resp.code = .challenge then resp.state else none
  | _ => none

def Sent (h : List AuthEvent) (state : String) : Prop := ∃ ev ∈ h, challengedBy ev.call = some state
  deriving Decidable

/-- The State that a call would mint, and the one of the session that it loads. -/
def mintsIn (e : AuthEnv) : AuthCall → Option String
  | .newState => e.stateBytes.map fun b => hexEncode b.1
  | _ => none

def loadedBy : AuthCall → Option String
  | .loadSession state => some state
  | _ => none

variable (p : AuthPool) (i : ℕ)

/-- No State is minted twice. -/
def Distinct (e : AuthEnv) : Prop :=
  ∀ t ∈ p.threads[i]?, ∀ c ∈ nextCall t.2, ∀ state ∈ mintsIn e c, ¬ Minted p.shared.2 state
  deriving Decidable

/-- Nobody knows a State before it has been sent. -/
def Unguessed : Prop :=
  ∀ t ∈ p.threads[i]?, ∀ c ∈ nextCall t.2, ∀ state ∈ loadedBy c,
    Minted p.shared.2 state → Sent p.shared.2 state
  deriving Decidable

/-- The States are distinct, and unknown until they are sent. -/
def Secret (e : AuthEnv) : Prop := Distinct p i e ∧ Unguessed p i
  deriving Decidable

theorem eapSessionKey_injective {state state' : String} (h : eapSessionKey state = eapSessionKey state') :
    state = state' := (String.append_right_inj _).mp h

/-! ### What a conversation is -/

/-- Worker `k` has opened a conversation: it has minted the State and created the session, with a
    challenge for the name in its packet. -/
def Opened (actors : List AuthActor) (p : AuthPool) (k : ℕ) (state : String) (ref : ℕ) (u : String)
    (challenge : Challenge) : Prop :=
  ∃ w r pkt, Told p k w ∧ actors[k]? = some (.request r) ∧
    ParseEAP r.eapMessage = .ok pkt ∧ eapIdentity r pkt = u ∧ w.minted = some state ∧
    w.own = some ref ∧ w.challenge = some challenge

/-- A packet from the name was answered with the challenge, under the State. -/
def Issued (h : List AuthEvent) (state u : String) (challenge : Challenge) : Prop :=
  ∃ ev ∈ h, ∃ r resp pkt identifier, ev.call = .write r resp none ∧ resp.code = .challenge ∧
    resp.state = some state ∧ ParseEAP r.eapMessage = .ok pkt ∧ eapIdentity r pkt = u ∧
    resp.eapMessage = some (challengeRequest pkt challenge identifier).Encode

/-- The tables had the record under the name when they were read. -/
def Stored (h : List AuthEvent) (u : String) (sub : Subscriber) : Prop :=
  ∃ ev ∈ h, ev.call = .dbSubscriber u ∧ ev.pre.directory.GetSubscriberByUsername u = some sub

variable (K : Crypto) (actors : List AuthActor)

/-- The request of worker `j`, under the State, carried a response for which the verification succeeded,
    against the challenge and a hash that was stored for the name. -/
def ProvedBy (h : List AuthEvent) (state u : String)
    (challenge : Challenge) (j : ℕ) : Prop :=
  ∃ r pc nr, actors[j]? = some (.request r) ∧ r.state = state ∧ responseIn r = some (pc, nr) ∧
    ∃ sub answer, Stored h u sub ∧
      VerifyMSCHAPv2 K (sub.ntHash.getD []) challenge.1 pc nr u = .ok answer ∧
      ∃ ev ∈ h, ev.call = .verifyMSCHAPv2 (sub.ntHash.getD []) challenge pc nr u

/-- The same, by a worker that found the challenge still unanswered. -/
def Proved (p : AuthPool) (state u : String)
    (challenge : Challenge) : Prop :=
  ∃ j w sess, Told p j w ∧ w.read = some sess ∧ sess.stage = .challengeIssued ∧
    ProvedBy K actors p.shared.2 state u challenge j

section
variable {K : Crypto} {d : AuthDaemon} {actors : List AuthActor} {p : AuthPool} {i : ℕ} {e : AuthEnv}
  {w : AuthRecord} {c : AuthCall} {k : authSig.Resp c → AuthProg Unit}

variable {h' : List AuthEvent} {u : String} {challenge : Challenge} {j : ℕ}

theorem Issued.mono {h : List AuthEvent} {state : String}
    (hi : Issued h state u challenge) : Issued (h ++ h') state u challenge := by
  obtain ⟨ev, hev, hrest⟩ := hi
  exact ⟨ev, mem_append_left _ hev, hrest⟩

theorem Stored.mono {h : List AuthEvent} {sub : Subscriber} (hs : Stored h u sub) : Stored (h ++ h') u sub := by
  obtain ⟨ev, hev, hrest⟩ := hs
  exact ⟨ev, mem_append_left _ hev, hrest⟩

theorem ProvedBy.mono {h : List AuthEvent} {state : String}
    (hp : ProvedBy K actors h state u challenge j) : ProvedBy K actors (h ++ h') state u challenge j := by
  obtain ⟨r, pc, nr, hactor, hstate, hresponse, sub, answer, hstored, hok, ev, hev, hcall⟩ := hp
  exact ⟨r, pc, nr, hactor, hstate, hresponse, sub, answer, hstored.mono, hok, ev,
    mem_append_left _ hev, hcall⟩

/-- What has been minted, created, challenged and read first stays so. -/
theorem Working.keeps (h : Working K d actors p) (hi : p.Calling i w c k) (a : authSig.Resp c) :
    (∀ state, w.minted = some state → (noting w c a).minted = some state) ∧
    (∀ ref, w.own = some ref → (noting w c a).own = some ref) ∧
    (∀ challenge, w.challenge = some challenge → (noting w c a).challenge = some challenge) := by
  rcases h.handles hi with ⟨r, -, hc⟩ | hc
  · cases c with
    | newState =>
      refine ⟨fun state hstate => ?_, fun _ h => h, fun _ h => h⟩
      rw [hc.2.2.1] at hstate
      cases hstate
    | newSession sess =>
      refine ⟨fun _ h => h, fun ref href => ?_, fun _ h => h⟩
      rw [hc.2.1] at href
      cases href
    | newChallenge =>
      refine ⟨fun _ h => h, fun _ h => h, fun challenge hchallenge => ?_⟩
      rw [show w.challenge = none from hc] at hchallenge
      cases hchallenge
    | _ => exact ⟨fun _ h => h, fun _ h => h, fun _ h => h⟩
  · cases c <;> first | exact hc.elim | exact ⟨fun _ h => h, fun _ h => h, fun _ h => h⟩

theorem Opened.step {state : String} {ref : ℕ}
    (h : Opened actors p j state ref u challenge) (hwork : Working K d actors p) (i : ℕ) (e : AuthEnv) :
    Opened actors (stepAuth K p i e) j state ref u challenge := by
  refine step_ind (I := fun p => Opened actors p j state ref u challenge) h fun w c k hi => ?_
  obtain ⟨w', r, pkt, hj, hactor, hparse, hname, hminted, hown, hchallenge⟩ := h
  obtain ⟨w'', hj', ⟨-, rfl, rfl⟩ | ⟨-, rfl⟩⟩ := hj.after hi
  · obtain ⟨hkm, hko, hkc⟩ := hwork.keeps hi (authExec K e c p.shared.1).1
    exact ⟨_, r, pkt, hj', hactor, hparse, hname, hkm _ hminted, hko _ hown, hkc _ hchallenge⟩
  · exact ⟨w'', r, pkt, hj', hactor, hparse, hname, hminted, hown, hchallenge⟩

theorem Proved.step {state : String} (h : Proved K actors p state u challenge) (i : ℕ) (e : AuthEnv) :
    Proved K actors (stepAuth K p i e) state u challenge := by
  refine step_ind (I := fun p => Proved K actors p state u challenge) h fun w c k hi => ?_
  obtain ⟨j, w', sess, hj, hread, hstage, hproved⟩ := h
  have hmono : ProvedBy K actors (stepAuth K p i e).shared.2 state u challenge j := by
    rw [traced_shared hi]
    exact hproved.mono
  obtain ⟨w'', hj', ⟨-, rfl, rfl⟩ | ⟨-, rfl⟩⟩ := hj.after hi
  · exact ⟨j, _, sess, hj', read_kept hread _, hstage, hmono⟩
  · exact ⟨j, w'', sess, hj', hread, hstage, hmono⟩

/-! ### Who has opened what -/

/-- Every State has been minted by one worker, and every session created by one. -/
structure Births (K : Crypto) (d : AuthDaemon) (actors : List AuthActor) (p : AuthPool) : Prop where
  working : Working K d actors p
  minted {i w state} : Told p i w → w.minted = some state → Minted p.shared.2 state
  mintedOnce {i j w w' state} : Told p i w → Told p j w' → w.minted = some state →
    w'.minted = some state → i = j
  own {i w ref} : Told p i w → w.own = some ref → ref < p.shared.1.sessions.length
  ownOnce {i j w w' ref} : Told p i w → Told p j w' → w.own = some ref → w'.own = some ref → i = j

theorem births_start (s : AuthState) : Births K d actors (authPool K d s actors) where
  working := working_start s
  minted hi hm := by
    rw [told_start hi] at hm
    cases hm
  mintedOnce hi _ hm _ := by
    rw [told_start hi] at hm
    cases hm
  own hi ho := by
    rw [told_start hi] at ho
    cases ho
  ownOnce hi _ ho _ := by
    rw [told_start hi] at ho
    cases ho

theorem Minted.mono {h : List AuthEvent} {state : String} (hm : Minted h state) : Minted (h ++ h') state := by
  obtain ⟨ev, hev, hst⟩ := hm
  exact ⟨ev, mem_append_left _ hev, hst⟩

/-- What a call mints is new. -/
theorem Distinct.minted_told (hdistinct : Distinct p i e) (hi : p.Calling i w c k)
    {state : String} (hm : (heard K e p w c).minted = some state) :
    w.minted = some state ∨ (¬ Minted p.shared.2 state ∧
      Minted (p.shared.2 ++ [eventAt (authExec K) e c p.shared.1]) state) := by
  rcases Radius.minted_told hm with hm | ⟨rfl, b, hb, rfl⟩
  · exact .inl hm
  · have hstate : mintsIn e .newState = some (hexEncode b.1) := by rw [mintsIn, hb]; rfl
    exact .inr ⟨hdistinct _ hi _ rfl _ hstate, _, mem_append_right _ (.head _), hstate⟩

theorem births_step (h : Births K d actors p) (hdistinct : Distinct p i e) :
    Births K d actors (stepAuth K p i e) := by
  refine step_ind h fun w c k hi => ?_
  refine ⟨working_step h.working i e, ?_, ?_, ?_, ?_⟩
  · intro j w' state hj hm
    rw [traced_shared hi]
    rcases hj.before hi with ⟨rfl, rfl⟩ | ⟨-, hj⟩
    · rcases hdistinct.minted_told hi hm with hm | ⟨-, hm⟩
      · exact (h.minted ⟨_, hi⟩ hm).mono
      · exact hm
    · exact (h.minted hj hm).mono
  · intro j j' w' w'' state hj hj' hm hm'
    rcases hj.before hi with ⟨rfl, rfl⟩ | ⟨-, hold⟩ <;> rcases hj'.before hi with ⟨rfl, rfl⟩ | ⟨-, hold'⟩
    · rfl
    · rcases hdistinct.minted_told hi hm with hm | ⟨hfresh, -⟩
      · exact h.mintedOnce ⟨_, hi⟩ hold' hm hm'
      · exact absurd (h.minted hold' hm') hfresh
    · rcases hdistinct.minted_told hi hm' with hm' | ⟨hfresh, -⟩
      · exact h.mintedOnce hold ⟨_, hi⟩ hm hm'
      · exact absurd (h.minted hold hm) hfresh
    · exact h.mintedOnce hold hold' hm hm'
  · intro j w' ref hj ho
    rw [traced_shared hi]
    rcases hj.before hi with ⟨rfl, rfl⟩ | ⟨-, hj⟩
    · rcases own_told ho with ho | ⟨sess, rfl, rfl⟩
      · exact (h.own ⟨_, hi⟩ ho).trans_le sessions_length
      · simp [authExec, AuthCall.run]
    · exact (h.own hj ho).trans_le sessions_length
  · intro j j' w' w'' ref hj hj' ho ho'
    rcases hj.before hi with ⟨rfl, rfl⟩ | ⟨-, hold⟩ <;> rcases hj'.before hi with ⟨rfl, rfl⟩ | ⟨-, hold'⟩
    · rfl
    · rcases own_told ho with ho | ⟨sess, rfl, rfl⟩
      · exact h.ownOnce ⟨_, hi⟩ hold' ho ho'
      · exact absurd (h.own hold' ho') (lt_irrefl _)
    · rcases own_told ho' with ho' | ⟨sess, rfl, rfl⟩
      · exact h.ownOnce hold ⟨_, hi⟩ ho ho'
      · exact absurd (h.own hold ho) (lt_irrefl _)
    · exact h.ownOnce hold hold' ho ho'

/-- A State and a session belong to one conversation. -/
theorem Opened.unique (hb : Births K d actors p) {j' : ℕ} {state state' : String} {ref ref' : ℕ}
    {u' : String} {challenge' : Challenge} (h : Opened actors p j state ref u challenge)
    (h' : Opened actors p j' state' ref' u' challenge') (hsame : state = state' ∨ ref = ref') :
    state = state' ∧ ref = ref' ∧ u = u' ∧ challenge = challenge' := by
  obtain ⟨w, r, pkt, hj, hactor, hparse, hname, hminted, hown, hchallenge⟩ := h
  obtain ⟨w', r', pkt', hj', hactor', hparse', hname', hminted', hown', hchallenge'⟩ := h'
  have hjj : j = j' := by
    rcases hsame with rfl | rfl
    · exact hb.mintedOnce hj hj' hminted hminted'
    · exact hb.ownOnce hj hj' hown hown'
  subst hjj
  cases hj.unique hj'
  rw [hactor] at hactor'
  cases hactor'
  rw [hparse] at hparse'
  cases hparse'
  rw [hminted] at hminted'
  rw [hown] at hown'
  rw [hchallenge] at hchallenge'
  exact ⟨some.inj hminted', some.inj hown', hname.symm.trans hname',
    some.inj hchallenge'⟩

/-! ### Where a record comes from -/

/-- What is in the cache, and what a worker has found under a name, was in the tables. -/
structure Sourced (K : Crypto) (d : AuthDaemon) (actors : List AuthActor) (p : AuthPool) : Prop where
  working : Working K d actors p
  cached {u x sub} : p.shared.1.subscribers.entries.lookup (Cache.SubscriberCacheKey u) = some x →
    x.val.subscriber = some sub → Stored p.shared.2 u sub
  looked {i r w u sub} : actors[i]? = some (.request r) → (r.eapMessage = [] → d.isMAB r = false) →
    Told p i w → w.looked = some (u, .ok (some sub)) → Stored p.shared.2 u sub

theorem sourced_start (directory : Directory) (persisted : Rows ℤ PersistedVerifier) :
    Sourced K d actors (authPool K d (.start directory persisted) actors) where
  working := working_start _
  cached h _ := by cases h
  looked _ _ hi hl := by
    rw [told_start hi] at hl
    cases hl

theorem sourced_step (h : Sourced K d actors p) (i : ℕ) (e : AuthEnv) : Sourced K d actors (stepAuth K p i e) := by
  refine step_ind h fun w c k hi => ?_
  refine ⟨working_step h.working i e, ?_, ?_⟩
  · intro u x sub hx hsub
    rw [traced_shared hi] at hx ⊢
    rcases cached_entry hx with hx | ⟨cache, u', sub', rfl, hkey, hval, -⟩
    · exact (h.cached hx hsub).mono
    · obtain ⟨r, hactor, -, hnamed, hlooked, -⟩ := h.working.request hi id
      rw [hval] at hsub
      rw [hsub, ← (String.append_right_inj _).mp hkey] at hlooked
      exact (h.looked hactor hnamed ⟨_, hi⟩ hlooked).mono
  · intro j r w' u sub hactor hnamed hj hlooked
    rw [traced_shared hi]
    rcases hj.before hi with ⟨rfl, rfl⟩ | ⟨-, hold⟩
    · rcases looked_told hlooked with hlooked | ⟨rfl, entry, hget, hfound⟩ | ⟨rfl, hfound⟩ |
        ⟨nasID, rfl, -⟩
      · exact (h.looked hactor hnamed ⟨_, hi⟩ hlooked).mono
      · obtain ⟨x, hx, -, hval⟩ := Store.get_eq_some.mp hget
        have hsub : x.val.subscriber = some sub := by
          rw [hval]
          exact (Except.ok.inj hfound).symm
        exact (h.cached hx hsub).mono
      · split at hfound
        · cases hfound
        · exact ⟨_, mem_append_right _ (.head _), rfl, (Except.ok.inj hfound).symm⟩
      · obtain ⟨r', hactor', -, hplain, hmab⟩ := h.working.request hi id
        rw [hactor] at hactor'
        cases hactor'
        rw [hnamed hplain] at hmab
        cases hmab
    · exact (h.looked hactor hnamed hold hlooked).mono

/-! ### The course of a conversation -/

/-- What has been loaded stays so. -/
theorem Working.loaded_kept (h : Working K d actors p) (hi : p.Calling i w c k)
    {x : String × ℕ} (hx : w.loaded = some x) (a : authSig.Resp c) : (noting w c a).loaded = some x := by
  cases c with
  | loadSession state =>
    obtain ⟨r, -, -, -, hnone, -⟩ := h.request hi id
    rw [hnone] at hx
    cases hx
  | _ => exact hx

structure Conversations (K : Crypto) (d : AuthDaemon) (actors : List AuthActor) (p : AuthPool) : Prop where
  births : Births K d actors p
  sourced : Sourced K d actors p
  opened {i w ref} : Told p i w → w.own = some ref →
    ∃ state u challenge, Opened actors p i state ref u challenge
  session {ref x} : p.shared.1.sessions[ref]? = some x →
    ∃ j state, Opened actors p j state ref x.username x.authenticatorChallenge ∧
      (x.stage = .awaitingSuccessAck → Proved K actors p state x.username x.authenticatorChallenge)
  store {state x} : p.shared.1.eap.entries.lookup (eapSessionKey state) = some x →
    ∃ j u challenge, Opened actors p j state x.val u challenge
  loaded {i w state ref} : Told p i w → w.loaded = some (state, ref) →
    ∃ j u challenge, Opened actors p j state ref u challenge ∧ Issued p.shared.2 state u challenge
  sent {state} : Sent p.shared.2 state → ∃ j ref u challenge, Opened actors p j state ref u challenge ∧
    Issued p.shared.2 state u challenge
  read {i w sess} : Told p i w → w.read = some sess → ∃ j state ref, w.loaded = some (state, ref) ∧
    Opened actors p j state ref sess.username sess.authenticatorChallenge ∧
    (sess.stage = .awaitingSuccessAck → Proved K actors p state sess.username sess.authenticatorChallenge)
  verdict {i w hash pc nr answer} : Told p i w → w.verdict = some (hash, pc, nr, .ok answer) →
    ∃ sess, w.read = some sess ∧
      VerifyMSCHAPv2 K hash sess.authenticatorChallenge.1 pc nr sess.username = .ok answer ∧
      ∃ ev ∈ p.shared.2, ev.call = .verifyMSCHAPv2 hash sess.authenticatorChallenge pc nr sess.username

theorem conversations_start (directory : Directory) (persisted : Rows ℤ PersistedVerifier) :
    Conversations K d actors (authPool K d (.start directory persisted) actors) where
  births := births_start _
  sourced := sourced_start _ _
  opened hi ho := by
    rw [told_start hi] at ho
    cases ho
  session h := by cases h
  store h := by cases h
  loaded hi hl := by
    rw [told_start hi] at hl
    cases hl
  sent h := by
    obtain ⟨ev, hev, -⟩ := h
    cases hev
  read hi hr := by
    rw [told_start hi] at hr
    cases hr
  verdict hi hv := by
    rw [told_start hi] at hv
    cases hv

/-- A worker that has verified the response in its packet is the proof. -/
theorem Conversations.proved (h : Conversations K d actors p) {r : AuthRequest} {ref : ℕ}
    (hactor : actors[i]? = some (.request r)) (hi : Told p i w) (hv : Verified r w ref) :
    ∃ j u challenge, Opened actors p j r.state ref u challenge ∧ Proved K actors p r.state u challenge := by
  obtain ⟨sess, sub, pc, nr, answer, hresp, hverdict⟩ := hv
  obtain ⟨j, state, ref', hloaded, hopened, -⟩ := h.read hi hresp.read
  rw [hresp.loaded] at hloaded
  cases hloaded
  obtain ⟨sess', hread', hok, hevent⟩ := h.verdict hi hverdict
  rw [hresp.read] at hread'
  cases hread'
  have hstored : Stored p.shared.2 sess.username sub :=
    h.sourced.looked hactor (absurd · hresp.eap) hi hresp.looked
  exact ⟨j, _, _, hopened, i, w, sess, hi, hresp.read, hresp.stage, r, pc, nr, hactor, rfl, hresp.response,
    sub, answer, hstored, hok, hevent⟩

theorem EAPSession.assign_same (x : EAPSession) (f : SessionField) :
    (x.assign f).username = x.username ∧ (x.assign f).authenticatorChallenge = x.authenticatorChallenge := by
  cases f <;> exact ⟨rfl, rfl⟩

section
variable (h : Conversations K d actors p) (hi : p.Calling i w c k)
include h hi

variable {j : ℕ} {w' : AuthRecord} {ref : ℕ}

theorem Conversations.opened_step (hj : Told (stepAuth K p i e) j w') (ho : w'.own = some ref) :
    ∃ state u challenge, Opened actors (stepAuth K p i e) j state ref u challenge := by
  rcases hj.before hi with ⟨rfl, rfl⟩ | ⟨-, hold⟩
  · rcases own_told ho with ho | ⟨sess, rfl, rfl⟩
    · obtain ⟨state, u, challenge, hopened⟩ := h.opened ⟨_, hi⟩ ho
      exact ⟨state, u, challenge, hopened.step h.births.working j e⟩
    · obtain ⟨r, hactor, hopens, -, hminted, -⟩ := h.births.working.request hi id
      obtain ⟨-, -, pkt, challenge, hparse, hchallenge, rfl⟩ := hopens
      obtain ⟨state, hstate⟩ := isSome_iff_exists.mp hminted
      exact ⟨state, _, challenge, _, r, pkt, hj, hactor, hparse, rfl, hstate, ho, hchallenge⟩
  · obtain ⟨state, u, challenge, hopened⟩ := h.opened hold ho
    exact ⟨state, u, challenge, hopened.step h.births.working i e⟩

theorem Conversations.session_step {x : EAPSession} (hx : (authExec K e c p.shared.1).2.sessions[ref]? = some x) :
    ∃ j state, Opened actors (stepAuth K p i e) j state ref x.username
        x.authenticatorChallenge ∧
      (x.stage = .awaitingSuccessAck → Proved K actors (stepAuth K p i e) state
        x.username x.authenticatorChallenge) := by
  rcases session_entry hx with ⟨y, hy, rfl | ⟨f, rfl, rfl⟩⟩ | ⟨rfl, rfl⟩
  · obtain ⟨j, state, hopened, hproved⟩ := h.session hy
    exact ⟨j, state, hopened.step h.births.working i e, fun hstage => (hproved hstage).step i e⟩
  · obtain ⟨j, state, hopened, -⟩ := h.session hy
    rw [(y.assign_same f).1, (y.assign_same f).2]
    refine ⟨j, state, hopened.step h.births.working i e, fun _ => ?_⟩
    obtain ⟨r, hactor, hverified⟩ := h.births.working.request hi id
    obtain ⟨j', u, challenge, hopened', hproved⟩ := h.proved hactor ⟨_, hi⟩ hverified
    obtain ⟨rfl, -, rfl, rfl⟩ := hopened'.unique h.births hopened (.inr rfl)
    exact hproved.step i e
  · obtain ⟨r, hactor, hopens, -, hminted, -⟩ := h.births.working.request hi id
    obtain ⟨-, -, pkt, challenge, hparse, hchallenge, rfl⟩ := hopens
    obtain ⟨state, hstate⟩ := isSome_iff_exists.mp hminted
    exact ⟨i, state, ⟨_, r, pkt, Told.now hi, hactor, hparse, rfl, hstate, rfl, hchallenge⟩,
      fun hstage => by cases hstage⟩

variable {state : String}

theorem Conversations.store_step {x : Entry ℕ}
    (hx : (authExec K e c p.shared.1).2.eap.entries.lookup (eapSessionKey state) = some x) :
    ∃ j u challenge, Opened actors (stepAuth K p i e) j state x.val u challenge := by
  rcases eap_entry hx with hx | ⟨state', rfl, hkey⟩
  · obtain ⟨j, u, challenge, hopened⟩ := h.store hx
    exact ⟨j, u, challenge, hopened.step h.births.working i e⟩
  · cases eapSessionKey_injective hkey
    obtain ⟨r, -, -, ⟨-, hminted, hown, -⟩ | ⟨hverified, rfl⟩⟩ := h.births.working.request hi id
    · obtain ⟨state', u, challenge, hopened⟩ := h.opened ⟨_, hi⟩ hown
      obtain ⟨w', -, -, hj, -, -, -, hminted', -⟩ := id hopened
      rw [hj.unique ⟨_, hi⟩, hminted] at hminted'
      cases hminted'
      exact ⟨i, u, challenge, hopened.step h.births.working i e⟩
    · obtain ⟨sess, sub, pc, nr, answer, hresp, -⟩ := hverified
      obtain ⟨j, u, challenge, hopened, -⟩ := h.loaded ⟨_, hi⟩ hresp.loaded
      exact ⟨j, u, challenge, hopened.step h.births.working i e⟩

theorem Conversations.loaded_step (hsecret : Secret p i e) (hj : Told (stepAuth K p i e) j w')
    (hl : w'.loaded = some (state, ref)) :
    ∃ j u challenge, Opened actors p j state ref u challenge ∧ Issued p.shared.2 state u challenge := by
  rcases hj.before hi with ⟨rfl, rfl⟩ | ⟨-, hold⟩
  · rcases loaded_told hl with hl | ⟨rfl, hget⟩
    · exact h.loaded ⟨_, hi⟩ hl
    · obtain ⟨x, hx, -, rfl⟩ := Store.get_eq_some.mp hget
      obtain ⟨j', u, challenge, hopened⟩ := h.store hx
      obtain ⟨w', -, -, hj', -, -, -, hminted, -⟩ := id hopened
      have hsent : Sent p.shared.2 state := hsecret.2 _ hi _ rfl state rfl (h.births.minted hj' hminted)
      obtain ⟨j'', ref', u', challenge', hopened', hissued⟩ := h.sent hsent
      obtain ⟨-, rfl, rfl, rfl⟩ := hopened.unique h.births hopened' (.inl rfl)
      exact ⟨j', u, challenge, hopened, hissued⟩
  · exact h.loaded hold hl

theorem Conversations.sent_step (hs : Sent (p.shared.2 ++ [eventAt (authExec K) e c p.shared.1]) state) :
    ∃ j ref u challenge, Opened actors p j state ref u challenge ∧
      Issued (p.shared.2 ++ [eventAt (authExec K) e c p.shared.1]) state u challenge := by
  obtain ⟨ev, hev, hstate⟩ := hs
  rcases mem_append.mp hev with hev | hev
  · obtain ⟨j, ref, u, challenge, hopened, hissued⟩ := h.sent ⟨ev, hev, hstate⟩
    exact ⟨j, ref, u, challenge, hopened, hissued.mono⟩
  · cases mem_singleton.mp hev
    cases c with
    | write r resp who =>
      change (if resp.code = .challenge then resp.state else none) = some state at hstate
      split at hstate
      · rename_i hcode
        obtain ⟨r', hactor, rfl, -, -, hanswers⟩ := h.births.working.request hi id
        rw [Answers, hcode] at hanswers
        obtain ⟨rfl, -, ⟨sess, pkt, identifier, hopens, hown, hparse, hminted, -, hmessage⟩ |
          ⟨ref, hverified, hsame⟩⟩ := hanswers
        · obtain ⟨-, -, pkt', challenge, hparse', hchallenge, rfl⟩ := hopens
          obtain ⟨ref, href⟩ := isSome_iff_exists.mp hown
          obtain ⟨ev, hev, hcall⟩ : ∃ ev ∈ p.shared.2 ++ [eventAt (authExec K) e
              (.write r resp none) p.shared.1], ev.call = .write r resp none :=
            ⟨_, mem_append_right _ (.head _), rfl⟩
          exact ⟨i, ref, _, challenge, ⟨w, r, pkt, ⟨_, hi⟩, hactor, hparse, rfl, hminted ▸ hstate, href,
            hchallenge⟩, ev, hev, r, resp, pkt, identifier, hcall, hcode, hstate, hparse, rfl, hmessage⟩
        · rw [hsame] at hstate
          cases hstate
          obtain ⟨sess, sub, pc, nr, answer, hresp, -⟩ := hverified
          obtain ⟨j, u, challenge, hopened, hissued⟩ := h.loaded ⟨_, hi⟩ hresp.loaded
          exact ⟨j, ref, u, challenge, hopened, hissued.mono⟩
      · cases hstate
    | _ => cases hstate

theorem Conversations.read_step {sess : EAPSession} (hj : Told (stepAuth K p i e) j w') (hr : w'.read = some sess) :
    ∃ j state ref, w'.loaded = some (state, ref) ∧
      Opened actors p j state ref sess.username sess.authenticatorChallenge ∧
      (sess.stage = .awaitingSuccessAck →
        Proved K actors p state sess.username sess.authenticatorChallenge) := by
  rcases hj.before hi with ⟨rfl, rfl⟩ | ⟨-, hold⟩
  · rcases read_told hr with hr | ⟨-, hsome, ref, rfl, hsess⟩
    · obtain ⟨j', state, ref, hloaded, hrest⟩ := h.read ⟨_, hi⟩ hr
      exact ⟨j', state, ref, h.births.working.loaded_kept hi hloaded _, hrest⟩
    · obtain ⟨r, -, ⟨hnone, -⟩ | ⟨state, hloaded⟩⟩ := h.births.working.request hi id
      · rw [hnone] at hsome
        cases hsome
      · obtain ⟨j', state', hopened, hproved⟩ := h.session hsess
        obtain ⟨j'', u, challenge, hopened', -⟩ := h.loaded ⟨_, hi⟩ hloaded
        obtain ⟨rfl, -⟩ := hopened.unique h.births hopened' (.inr rfl)
        exact ⟨j', state', ref, hloaded, hopened, hproved⟩
  · exact h.read hold hr

theorem Conversations.verdict_step {hash pc nr : List UInt8} {answer : String} (hj : Told (stepAuth K p i e) j w')
    (hv : w'.verdict = some (hash, pc, nr, .ok answer)) :
    ∃ sess, w'.read = some sess ∧
      VerifyMSCHAPv2 K hash sess.authenticatorChallenge.1 pc nr sess.username = .ok answer ∧
      ∃ ev ∈ p.shared.2 ++ [eventAt (authExec K) e c p.shared.1],
        ev.call = .verifyMSCHAPv2 hash sess.authenticatorChallenge pc nr sess.username := by
  rcases hj.before hi with ⟨rfl, rfl⟩ | ⟨-, hold⟩
  · rcases verdict_told hv with hv | ⟨challenge, u, rfl, hok⟩
    · obtain ⟨sess, hread, hok, ev, hev, hcall⟩ := h.verdict ⟨_, hi⟩ hv
      exact ⟨sess, read_kept hread _, hok, ev, mem_append_left _ hev, hcall⟩
    · obtain ⟨r, -, -, ref, sess, sub, hresp, -, rfl, rfl⟩ := h.births.working.request hi id
      exact ⟨sess, hresp.read, hok.symm, _, mem_append_right _ (.head _), rfl⟩
  · obtain ⟨sess, hread, hok, ev, hev, hcall⟩ := h.verdict hold hv
    exact ⟨sess, hread, hok, ev, mem_append_left _ hev, hcall⟩

end

theorem conversations_step (h : Conversations K d actors p) (hsecret : Secret p i e) :
    Conversations K d actors (stepAuth K p i e) := by
  refine step_ind h fun w c k hi => ?_
  have hshared := traced_shared (M := authExec K) (m := noting) (e := e) hi
  constructor
  case births => exact births_step h.births hsecret.1
  case sourced => exact sourced_step h.sourced i e
  case opened =>
    intro j w' ref hj ho
    exact h.opened_step hi hj ho
  case session =>
    intro ref x hx
    rw [hshared] at hx
    exact h.session_step hi hx
  case store =>
    intro state x hx
    rw [hshared] at hx
    exact h.store_step hi hx
  case loaded =>
    intro j w' state ref hj hl
    obtain ⟨j', u, challenge, hopened, hissued⟩ := h.loaded_step hi hsecret hj hl
    rw [hshared]
    exact ⟨j', u, challenge, hopened.step h.births.working i e, hissued.mono⟩
  case sent =>
    intro state hs
    rw [hshared] at hs ⊢
    obtain ⟨j, ref, u, challenge, hopened, hissued⟩ := h.sent_step hi hs
    exact ⟨j, ref, u, challenge, hopened.step h.births.working i e, hissued⟩
  case read =>
    intro j w' sess hj hr
    obtain ⟨j', state, ref, hloaded, hopened, hproved⟩ := h.read_step hi hj hr
    exact ⟨j', state, ref, hloaded, hopened.step h.births.working i e,
      fun hstage => (hproved hstage).step i e⟩
  case verdict =>
    intro j w' hash pc nr answer hj hv
    rw [hshared]
    exact h.verdict_step hi hj hv

/-- If the step sends an accept through EAP, it is for a name that was sent the challenge under the State of
    the packet, and an earlier packet with that State was a response that was verified against it. -/
def AcceptsVerified (K : Crypto) (actors : List AuthActor) (p : AuthPool) (i : ℕ) (_ : AuthEnv) : Prop :=
  ∀ r resp who, Next p i (.write r resp who) → r.eapMessage ≠ [] → resp.code = .accept →
    ∃ u sub challenge j, who = some (u, sub) ∧
      Issued p.shared.2 r.state u challenge ∧ j ≠ i ∧ ProvedBy K actors p.shared.2 r.state u challenge j

theorem Conversations.acceptsVerified (h : Conversations K d actors p) : AcceptsVerified K actors p i e := by
  rintro r resp who ⟨w, k, hi⟩ heap hcode
  obtain ⟨r', hactor, rfl, -, -, hanswers⟩ := h.births.working.request hi id
  rw [Answers, hcode] at hanswers
  obtain ⟨u, sub, rfl, -, -, haccepts⟩ := hanswers
  cases haccepts with
  | eap _ ref hloaded sess hread hstage hname =>
    subst hname
    obtain ⟨j, state, ref', hloaded', hopened, hproved⟩ := h.read ⟨_, hi⟩ hread
    rw [hloaded] at hloaded'
    cases hloaded'
    obtain ⟨j', u, challenge, hopened', hissued⟩ := h.loaded ⟨_, hi⟩ hloaded
    obtain ⟨-, -, rfl, rfl⟩ := hopened.unique h.births hopened' (.inr rfl)
    obtain ⟨j'', w', sess', hj, hread', hstage', hby⟩ := hproved hstage
    refine ⟨_, sub, _, j'', rfl, hissued, ?_, hby⟩
    rintro rfl
    -- the two workers read the session at different stages
    rw [hj.unique ⟨_, hi⟩, hread] at hread'
    cases hread'
    rw [hstage] at hstage'
    cases hstage'
  | mab hplain => exact absurd hplain heap
  | pap hplain => exact absurd hplain heap

end

/-- In every interleaving in which the States are secret, every accept of EAP is for the name that was
    challenged in the conversation of its State, after a response to that challenge was verified. -/
theorem eap_accept_was_verified (K : Crypto) (d : AuthDaemon) (directory : Directory)
    (persisted : Rows ℤ PersistedVerifier) (actors : List AuthActor) (sched : List (ℕ × AuthEnv))
    (hsecret : Pool.Meets (traced (authExec K)) noting Secret
      (authPool K d (.start directory persisted) actors) sched) :
    Pool.Meets (traced (authExec K)) noting (AcceptsVerified K actors)
      (authPool K d (.start directory persisted) actors) sched :=
  meets_inv (I := Conversations K d actors)
    (fun _ _ _ h hs => ⟨h.acceptsVerified, conversations_step h hs⟩) sched _
    (conversations_start directory persisted) hsecret

/-- Three packets, one after the other. -/
def annActors : List AuthActor := [.request annOpens, .request annResponds, .request annAcknowledges]

def annConverses : List (ℕ × AuthEnv) := steps 0 7 0 ++ steps 1 13 1 ++ steps 2 6 2

/-- The conversation of one subscriber: the third packet is about to be accepted. -/
theorem ann_was_verified :
    (∃ resp sub, Next (annRun annActors annConverses) 2
      (.write annAcknowledges resp (some ("ann", sub))) ∧ resp.code = .accept) ∧
    ∃ challenge j, Issued (annRun annActors annConverses).shared.2 (hexEncode zeros.1) "ann" challenge ∧
      j ≠ 2 ∧ ProvedBy .plain annActors (annRun annActors annConverses).shared.2 (hexEncode zeros.1) "ann"
        challenge j := by
  have hsecret : Pool.Meets (traced (authExec .plain)) noting Secret (annPool annActors)
      (annConverses ++ [(2, .at 2)]) := by decide +kernel
  obtain ⟨sub, hsub⟩ : ∃ sub, annFound = some ("ann", sub) := ⟨_, rfl⟩
  have haccept : acceptNext (annRun annActors annConverses) 2 = some (annAcknowledges, annFound) := by
    decide +kernel
  obtain ⟨resp, hnext, hcode⟩ := acceptNext_some haccept
  have hmeets := eap_accept_was_verified .plain plainDaemon (annIs .active) ∅ annActors _ hsecret
  obtain ⟨u, sub', challenge, j, hwho, hissued, hj, hproved⟩ :=
    (meets_append.mp hmeets).2.1 annAcknowledges resp _ hnext (by decide) hcode
  rw [hsub] at hnext hwho
  cases hwho
  have hrun : run (traced (authExec .plain)) noting (annPool annActors) annConverses =
      annRun annActors annConverses := rfl
  rw [← annPool, hrun] at hissued hproved
  exact ⟨⟨resp, sub, hnext, hcode⟩, challenge, j, hissued, hj, hproved⟩

end IspBss.Radius
