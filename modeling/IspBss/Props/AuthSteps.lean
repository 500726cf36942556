import IspBss.Radius.Authenticate

/-! What a worker that handles an Access-Request does next, given what it has been told.

    `AuthRecord` is what it has been told, `Handles` which calls it may make then, and `follows_handleAuth`
    that it makes no others, whatever the store answers and whoever else is at work. Everything about
    interleaved requests follows from that and from what a call does to the state.

        guard ─▶ looked ─▶ compared ─────▶ failed, recorded ─▶ answered      PAP
                                     └───▶ reset ────────────▶ answered
        loaded, read ─▶ looked ─▶ verdict ─▶ failed, recorded ─▶ deleted ─▶ answered    EAP, response
                                         └─▶ assigned, saved ─────────────▶ answered
        loaded, read ─▶ deleted ─▶ looked ─▶ reset ───────────────────────▶ answered    EAP, end -/

namespace IspBss.Radius

open Lib

/-! ### What a worker has been told -/

/-- What a worker has been told and has done. Of the sessions it reads, the first reading of the one it
    has loaded is kept. -/
structure AuthRecord where
  last : Option (Time × Bool)
  guard : Option (Option ℕ)
  looked : Option (String × Except NetErr (Option Subscriber))
  compared : Option (String × String × Bool)
  verdict : Option (List UInt8 × List UInt8 × List UInt8 × Except MschapErr String)
  challenge : Option Challenge
  minted : Option String
  own : Option ℕ
  saved : Bool
  loaded : Option (String × ℕ)
  read : Option EAPSession
  failed : Bool
  recorded : Bool
  reset : Bool
  deleted : Bool
  answered : Bool

/-- Nothing yet. -/
def AuthRecord.fresh : AuthRecord :=
  ⟨none, none, none, none, none, none, none, none, false, none, none, false, false, false, false, false⟩

namespace AuthRecord

def note (w : AuthRecord) : (c : AuthCall) → c.Answer → AuthRecord
  | .guardGet _, n => { w with guard := some n }
  | .guardIncr _, _ => { w with failed := true }
  | .guardExpire _, _ => { w with recorded := true }
  | .guardReset _, _ => { w with reset := true }
  | .cacheGet u, entry =>
    { w with looked := (entry.map fun x => (u, .ok x.subscriber)).or w.looked }
  | .dbSubscriber u, found => { w with looked := some (u, found) }
  | .authorizeMAC mac _, found => { w with looked := some (mac, found) }
  | .compareHashAndPassword hash password, same => { w with compared := some (hash, password, same) }
  | .verifyMSCHAPv2 h _ pc nr _, verdict => { w with verdict := some (h, pc, nr, verdict) }
  | .newChallenge, c => { w with challenge := c }
  | .newState, state => { w with minted := state }
  | .newSession _, ref => { w with own := some ref }
  | .loadSession state, ref => { w with loaded := (ref.map fun x => (state, x)).or w.loaded }
  | .readSession _, sess => { w with read := if w.loaded.isSome then w.read.or sess else w.read }
  | .saveSession _ _, _ => { w with saved := true }
  | .deleteSession _, _ => { w with deleted := true }
  | .write _ _ _, _ => { w with answered := true }
  | _, _ => w

/-- Nothing has been decided about the credential. -/
def Undecided (w : AuthRecord) : Prop := w.failed = false ∧ w.reset = false ∧ w.answered = false

/-- The lockout has been asked, and lets the name through. -/
def Cleared (w : AuthRecord) : Prop := ∃ n, w.guard = some n ∧ ∀ k ∈ n, k < MaxFailedAttempts

end AuthRecord

/-- The worker records what it is told, and when, and whether it had to wait for the database. -/
def noting : Watch authSig AuthRecord := fun w c a =>
  { w.note c a.1 with last := some (a.2, c.readsDB) }

/-! ### What it may do -/

variable (r : AuthRequest)

/-- The response to a challenge that a request carries. -/
def responseIn : Option (List UInt8 × List UInt8) :=
  match ParseEAP r.eapMessage with
  | .error _ => none
  | .ok pkt =>
    match ParseMSCHAPv2Response pkt.data with
    | .error _ => none
    | .ok resp => some (resp.peerChallenge, resp.ntResponse)

/-- The name whose credential the request is about, as far as the worker knows. -/
def Subject (w : AuthRecord) (u : String) : Prop :=
  (r.eapMessage = [] ∧ w.guard.isSome = true ∧ u = r.userName) ∨
    (r.eapMessage ≠ [] ∧ ∃ sess, w.read = some sess ∧ u = sess.username)

/-- Why a failure is recorded. -/
inductive Refusal (w : AuthRecord) (u : String) : Prop where
  | outage (err : NetErr) (h : w.looked = some (u, .error err))
  | unknown (h : w.looked = some (u, .ok none))
  | compared (sub : Subscriber) (hlooked : w.looked = some (u, .ok (some sub))) (plain : r.eapMessage = [])
      (h : w.compared = some (sub.passwordHash, r.userPassword, false))
  | verdict (sub : Subscriber) (hlooked : w.looked = some (u, .ok (some sub))) (pc nr : List UInt8)
      (hresponse : responseIn r = some (pc, nr)) (err : MschapErr) (herr : err ≠ .noNTHash)
      (h : w.verdict = some (sub.ntHash.getD [], pc, nr, .error err))

/-- The name has been let through and its record is at hand: the password may be checked. -/
structure Checking (w : AuthRecord) (sub : Subscriber) : Prop where
  plain : r.eapMessage = []
  cleared : w.Cleared
  looked : w.looked = some (r.userName, .ok (some sub))
  authorised : AuthorisesService sub.status = true
  undecided : w.Undecided

/-- The password was compared with the hash, and is right. -/
def Matched (K : Crypto) (d : AuthDaemon) (r : AuthRequest) (w : AuthRecord) (u : String)
    (mac : List UInt8) : Prop :=
  ∃ sub, w.looked = some (u, .ok (some sub)) ∧
    w.compared = some (sub.passwordHash, r.userPassword, true) ∧
    mac = d.verifier K r.userPassword sub.passwordHash

variable (r : AuthRequest) (w : AuthRecord) (ref : ℕ)

/-- The response that the request carries is being checked against the challenge in the session. -/
structure Responding (sess : EAPSession) (sub : Subscriber)
    (pc nr : List UInt8) : Prop where
  eap : r.eapMessage ≠ []
  loaded : w.loaded = some (r.state, ref)
  read : w.read = some sess
  stage : sess.stage = .challengeIssued
  looked : w.looked = some (sess.username, .ok (some sub))
  authorised : AuthorisesService sub.status = true
  response : responseIn r = some (pc, nr)
  kept : w.deleted = false
  undecided : w.Undecided

/-- The response has been verified. -/
def Verified : Prop :=
  ∃ sess sub pc nr answer, Responding r w ref sess sub pc nr ∧
    w.verdict = some (sub.ntHash.getD [], pc, nr, .ok answer)

theorem Verified.later {r : AuthRequest} {w : AuthRecord} {ref : ℕ} (h : Verified r w ref)
    (last : Option (Time × Bool)) (saved : Bool) : Verified r { w with last := last, saved := saved } ref := by
  obtain ⟨sess, sub, pc, nr, answer, hresp, hverdict⟩ := h
  exact ⟨sess, sub, pc, nr, answer, { hresp with }, hverdict⟩

/-- Reading the session again does not change what was read first. -/
theorem Verified.reread {r : AuthRequest} {w : AuthRecord} {ref : ℕ} (h : Verified r w ref)
    (ref' : ℕ) (a : authSig.Resp (.readSession ref')) : Verified r (noting w (.readSession ref') a) ref := by
  obtain ⟨sess, sub, pc, nr, answer, hresp, hverdict⟩ := h
  refine ⟨sess, sub, pc, nr, answer, { hresp with read := ?_ }, hverdict⟩
  simp [noting, AuthRecord.note, hresp.loaded, hresp.read]

/-- The session that an opening packet is given. -/
def Opens (r : AuthRequest) (w : AuthRecord) (sess : EAPSession) : Prop :=
  r.eapMessage ≠ [] ∧ r.state = "" ∧ ∃ pkt challenge, ParseEAP r.eapMessage = .ok pkt ∧
    w.challenge = some challenge ∧
    sess = ⟨.challengeIssued, AuthDaemon.eapIdentity r pkt, challenge, [], [], 0, pkt.identifier + 1, ""⟩

variable (d : AuthDaemon) (r : AuthRequest) (w : AuthRecord)

/-- Whom an accept is for, and by which method. -/
inductive Accepts (u : String) (sub : Subscriber) :
    Prop where
  | eap (heap : r.eapMessage ≠ []) (ref : ℕ) (hloaded : w.loaded = some (r.state, ref))
      (sess : EAPSession) (hread : w.read = some sess) (hstage : sess.stage = .awaitingSuccessAck)
      (hname : u = sess.username) (hreset : w.reset = true) (hdeleted : w.deleted = true)
  | mab (hplain : r.eapMessage = []) (hmab : d.isMAB r = true) (hguard : w.guard = none)
      (hstatus : AuthorisesService sub.status = true)
  | pap (hplain : r.eapMessage = []) (hmab : d.isMAB r = false) (hname : u = r.userName)
      (hstatus : AuthorisesService sub.status = true) (hcleared : w.Cleared)
      (hreset : ∀ n, w.guard = some (some n) → w.reset = true)

/-- What the worker may answer. -/
def Answers (resp : AuthResponse)
    (who : Option (String × Subscriber)) : Prop :=
  match resp.code with
  | .reject => who = none ∧ w.reset = false
  | .accept => ∃ u sub, who = some (u, sub) ∧ w.looked = some (u, .ok (some sub)) ∧ w.failed = false ∧
      Accepts d r w u sub
  | .challenge => who = none ∧ w.reset = false ∧
      ((∃ sess pkt identifier, Opens r w sess ∧ w.own.isSome = true ∧ ParseEAP r.eapMessage = .ok pkt ∧
          resp.state = w.minted ∧ w.minted.isSome = true ∧ resp.eapMessage =
            some (AuthDaemon.challengeRequest pkt sess.authenticatorChallenge identifier).Encode) ∨
        ∃ ref, Verified r w ref ∧ resp.state = some r.state)

variable (K : Crypto) (d : AuthDaemon) (r : AuthRequest)

/-- The calls that a worker may make when it has been told `w`. -/
def Handles (w : AuthRecord) : AuthCall → Prop
  | .guardGet u => w.guard = none ∧ w.Undecided ∧
      ((r.eapMessage = [] ∧ d.isMAB r = false ∧ u = r.userName) ∨ (r.eapMessage ≠ [] ∧ r.state = ""))
  | .guardIncr u => Subject r w u ∧ w.Undecided ∧ w.recorded = false ∧ Refusal r w u
  | .guardExpire u => Subject r w u ∧ w.failed = true ∧ w.recorded = false ∧ w.reset = false ∧
      w.answered = false
  | .guardReset u => Subject r w u ∧ w.Undecided
  | .cacheGet u => Subject r w u ∧ w.looked = none ∧ w.Undecided
  | .dbSubscriber u => Subject r w u ∧ w.looked = none ∧ w.Undecided
  | .cacheResult cache u sub => d.cache = some cache ∧ (r.eapMessage = [] → d.isMAB r = false) ∧
      w.looked = some (u, .ok sub) ∧ ∃ t, w.last = some (t, true)
  | .authorizeMAC _ _ => w.looked = none ∧ r.eapMessage = [] ∧ d.isMAB r = true
  | .verifierGet u => u = r.userName ∧ ∃ sub, Checking r w sub
  | .compareHashAndPassword hash password => password = r.userPassword ∧
      ∃ sub, Checking r w sub ∧ hash = sub.passwordHash
  | .verifierSet u mac _ => Matched K d r w u mac
  | .persistSave _ u mac _ => Matched K d r w u mac
  | .verifyMSCHAPv2 hash challenge pc nr u => w.verdict = none ∧ ∃ ref sess sub,
      Responding r w ref sess sub pc nr ∧ hash = sub.ntHash.getD [] ∧
      challenge = sess.authenticatorChallenge ∧ u = sess.username
  | .newState => r.eapMessage ≠ [] ∧ r.state = "" ∧ w.minted = none ∧ w.own = none ∧ w.answered = false
  | .newSession sess => Opens r w sess ∧ w.own = none ∧ w.minted.isSome = true ∧ w.answered = false
  | .loadSession state => r.eapMessage ≠ [] ∧ state = r.state ∧ w.loaded = none ∧ w.deleted = false ∧
      w.answered = false
  | .saveSession state ref => w.answered = false ∧
      ((w.loaded = none ∧ w.minted = some state ∧ w.own = some ref ∧ w.saved = false) ∨
        (Verified r w ref ∧ state = r.state))
  | .deleteSession state => state = r.state ∧ ∃ ref, w.loaded = some (r.state, ref)
  | .readSession ref => (w.loaded = none ∧ w.own = some ref) ∨ ∃ state, w.loaded = some (state, ref)
  | .assign ref _ => Verified r w ref
  | .write r' resp who => r' = r ∧ w.answered = false ∧ (w.failed = true → w.recorded = true) ∧
      Answers d r w resp who
  | .verifierDelete _ => False
  | .persistDelete _ => False
  | .loadActive => False
  | .reapExpired => False
  | .setDirectory _ => False
  | .sweep => False
  | .restart => False
  | .timeNow => True
  | .newChallenge => w.challenge = none
  | .inc _ => True

/-- Told `w`, the program does only what a worker may, and ends as `Q` says. -/
def Follows {α : Type} (Q : AuthRecord → α → Prop)
    (p : AuthProg α) (w : AuthRecord) : Prop :=
  Prog.Obeys noting (fun _ _ _ => True) (Handles K d r) Q p w

/-- To its end, the program does only what a worker may, and when it ends it has answered. -/
def Behaves (p : AuthProg Unit) (w : AuthRecord) : Prop :=
  Follows K d r (fun w' _ => w'.answered = true) p w

namespace AuthDaemon

variable {K : Crypto} {d : AuthDaemon} {r : AuthRequest} {w : AuthRecord} {α : Type} {eapID : UInt8}

theorem Behaves.after {Q : AuthRecord → α → Prop} {p : AuthProg α} {f : α → AuthProg Unit}
    (hp : Follows K d r Q p w) (hf : ∀ w' a, Q w' a → Behaves K d r (f a) w') : Behaves K d r (p >>= f) w :=
  Prog.obeys_bind.mpr (hp.mono hf)

theorem Behaves.ask {c : AuthCall} {f : c.Answer → AuthProg Unit} (hc : Handles K d r w c)
    (hf : ∀ a t, Behaves K d r (f a) (noting w c (a, t))) : Behaves K d r (c.ask >>= f) w :=
  ⟨hc, fun a _ => hf a.1 a.2⟩

/-! ### The parts -/

theorem behaves_authAccepted (h : w.answered = true) : Behaves K d r (d.authAccepted r) w :=
  ⟨trivial, fun _ _ => ⟨trivial, fun _ _ => h⟩⟩

theorem behaves_authRejected (h : w.answered = true) : Behaves K d r (d.authRejected r) w :=
  ⟨trivial, fun _ _ => ⟨trivial, fun _ _ => h⟩⟩

/-- Nothing has been answered, no failure is half recorded, and the lockout has not been cleared. -/
def MayReject (w : AuthRecord) : Prop :=
  w.answered = false ∧ (w.failed = true → w.recorded = true) ∧ w.reset = false

theorem MayReject.of_undecided (h : w.Undecided) : MayReject w := by
  refine ⟨h.2.2, fun hfailed => ?_, h.2.1⟩
  rw [h.1] at hfailed
  cases hfailed

theorem behaves_reject (h : MayReject w) : Behaves K d r (d.reject r) w :=
  Behaves.ask ⟨rfl, h.1, h.2.1, rfl, h.2.2⟩ fun _ _ => behaves_authRejected rfl

theorem behaves_writeEAPReject (h : MayReject w) : Behaves K d r (d.writeEAPReject r eapID) w :=
  Behaves.ask ⟨rfl, h.1, h.2.1, rfl, h.2.2⟩ fun _ _ => behaves_authRejected rfl

variable {pkt : EAPPacket}

theorem behaves_writeEAPChallenge (h : w.Undecided) {state : String}
    (hchallenge : Answers d r w ⟨.challenge, some pkt.Encode, some state, [], true⟩ none) :
    Behaves K d r (d.writeEAPChallenge r state pkt) w := by
  unfold writeEAPChallenge
  split
  · rename_i message _ hmessage _
    have hwhole : message = pkt.Encode := by
      unfold newBytes at hmessage
      split at hmessage
      · exact (Option.some.inj hmessage).symm
      · cases hmessage
    rw [hwhole]
    exact ⟨⟨rfl, h.2.2, (MayReject.of_undecided h).2.1, hchallenge⟩, fun _ _ => rfl⟩
  · exact behaves_writeEAPReject (.of_undecided h)

variable {ref : ℕ} {u : String} {sess : EAPSession} {sub : Subscriber} {hasFailures : Bool}

theorem behaves_eapFail (h : MayReject w)
    (hloaded : w.loaded = some (r.state, ref)) : Behaves K d r (d.eapFail r eapID r.state) w := by
  unfold eapFail
  split
  · exact Behaves.ask ⟨rfl, ref, hloaded⟩ fun _ _ => behaves_writeEAPReject h
  · exact behaves_writeEAPReject h

/-- A failure is recorded, and then comes the rest. -/
theorem Behaves.afterFailure {q : AuthProg Unit} (hsubject : Subject r w u)
    (hundecided : w.Undecided) (hwhy : Refusal r w u) (hfirst : w.recorded = false)
    (hq : ∀ t, Behaves K d r q { w with failed := true, recorded := true, last := t }) :
    Behaves K d r (do recordAuthFailure u; q) w :=
  ⟨⟨hsubject, hundecided, hfirst, hwhy⟩, fun _ _ =>
    ⟨⟨hsubject, rfl, hfirst, hundecided.2.1, hundecided.2.2⟩, fun _ _ => hq _⟩⟩

theorem follows_lookup (hnamed : r.eapMessage = [] → d.isMAB r = false)
    (hsubject : Subject r w u) (hlooked : w.looked = none) (hundecided : w.Undecided) :
    Follows K d r (fun w' found => ∃ t, w' = { w with looked := some (u, found), last := t })
      (d.GetSubscriberByUsername u) w := by
  unfold GetSubscriberByUsername
  split
  · exact ⟨⟨hsubject, hlooked, hundecided⟩, fun _ _ => ⟨_, rfl⟩⟩
  · rename_i cache hcache
    refine ⟨⟨hsubject, hlooked, hundecided⟩, fun a _ => ?_⟩
    match a with
    | (some entry, t) => exact ⟨_, rfl⟩
    | (none, t) =>
      refine ⟨⟨hsubject, hlooked, hundecided⟩, fun a _ => ?_⟩
      match a with
      | (.error err, t) => exact ⟨_, rfl⟩
      | (.ok sub, t) =>
        exact ⟨⟨hcache, hnamed, rfl, _, rfl⟩, fun _ _ => ⟨_, rfl⟩⟩

/-! ### EAP -/

-- otherwise Lean tries to compute whether the name is empty
attribute [local irreducible] eapIdentity

/-- What comes after the response has been verified. -/
theorem behaves_eapVerified {resp : MSCHAPv2Response} {answer : String}
    (h : Verified r w ref) : Behaves K d r (d.eapVerified r pkt ref resp answer) w := by
  obtain ⟨sess, sub, pc, nr, a, hresp, hverdict⟩ := id h
  refine Behaves.ask h fun _ _ => ?_
  iterate 5 refine Behaves.ask (h.later _ _) fun _ _ => ?_
  refine Behaves.ask ⟨hresp.undecided.2.2, .inr ⟨h.later _ _, rfl⟩⟩ fun _ _ => ?_
  refine Behaves.ask (.inr ⟨_, hresp.loaded⟩) fun _ _ => ?_
  refine behaves_writeEAPChallenge ?_ ⟨rfl, hresp.undecided.2.1, .inr ⟨ref, ?_, rfl⟩⟩
  · exact hresp.undecided
  · exact (h.later _ _).reread ref _

/-- The worker has read the session it has loaded, and has done nothing else. -/
structure Continues (r : AuthRequest) (w : AuthRecord) (ref : ℕ) (sess : EAPSession) : Prop where
  eap : r.eapMessage ≠ []
  loaded : w.loaded = some (r.state, ref)
  read : w.read = some sess
  looked : w.looked = none
  verdict : w.verdict = none
  kept : w.deleted = false
  recorded : w.recorded = false
  undecided : w.Undecided

theorem behaves_eapVerifyResponse (hparse : ParseEAP r.eapMessage = .ok pkt) (hw : Continues r w ref sess) (hstage : sess.stage = .challengeIssued) :
    Behaves K d r (d.eapVerifyResponse r pkt ref sess) w := by
  have hfresh : MayReject w := .of_undecided hw.undecided
  have hsubject : Subject r w sess.username := .inr ⟨hw.eap, sess, hw.read, rfl⟩
  unfold eapVerifyResponse
  split
  · exact behaves_eapFail hfresh hw.loaded
  · rename_i resp hresp
    have hresponse : responseIn r = some (resp.peerChallenge, resp.ntResponse) := by
      simp only [responseIn, hparse, hresp]
    have hfail : ∀ w' : AuthRecord, Subject r w' sess.username → w'.Undecided →
        Refusal r w' sess.username → w'.recorded = false → w'.loaded = some (r.state, ref) →
        Behaves K d r (do
          recordAuthFailure sess.username
          d.eapFail r pkt.identifier r.state) w' := by
      intro w' hsubject hundecided hwhy hrecorded hloaded
      refine Behaves.afterFailure hsubject hundecided hwhy hrecorded fun t => ?_
      exact behaves_eapFail ⟨hundecided.2.2, fun _ => rfl, hundecided.2.1⟩ hloaded
    refine Behaves.after (follows_lookup (absurd · hw.eap) hsubject hw.looked hw.undecided) ?_
    rintro w' found ⟨t, rfl⟩
    match found with
    | .error err => exact hfail _ hsubject hw.undecided (.outage err rfl) hw.recorded hw.loaded
    | .ok none => exact hfail _ hsubject hw.undecided (.unknown rfl) hw.recorded hw.loaded
    | .ok (some sub) =>
      dsimp only
      split
      · exact behaves_eapFail hfresh hw.loaded
      · rename_i hstatus
        have hresponding : Responding r { w with looked := some (sess.username, .ok (some sub)), last := t }
            ref sess sub resp.peerChallenge resp.ntResponse :=
          ⟨hw.eap, hw.loaded, hw.read, hstage, rfl, by simpa using hstatus, hresponse, hw.kept,
            hw.undecided⟩
        refine Behaves.ask ⟨hw.verdict, ref, sess, sub, hresponding, rfl, rfl, rfl⟩ fun verdict t' => ?_
        match verdict with
        | .error err =>
          cases err with
          | noNTHash => exact behaves_eapFail hfresh hw.loaded
          | _ =>
            exact hfail _ hsubject hw.undecided
              (.verdict sub rfl _ _ hresponse _ (by decide) rfl) hw.recorded hw.loaded
        | .ok answer =>
          exact behaves_eapVerified ⟨sess, sub, resp.peerChallenge, resp.ntResponse, answer,
            { hresponding with }, rfl⟩

theorem behaves_eapFinish (hw : Continues r w ref sess)
    (hstage : sess.stage = .awaitingSuccessAck) : Behaves K d r (d.eapFinish r ref sess) w := by
  have hfresh : MayReject w := .of_undecided hw.undecided
  have hsubject : Subject r w sess.username := .inr ⟨hw.eap, sess, hw.read, rfl⟩
  refine Behaves.ask ⟨rfl, ref, hw.loaded⟩ fun _ _ => ?_
  refine Behaves.after (follows_lookup (absurd · hw.eap) hsubject hw.looked hw.undecided) ?_
  rintro w' found ⟨t, rfl⟩
  match found with
  | .error _ => exact Behaves.ask (.inr ⟨_, hw.loaded⟩) fun _ _ => behaves_writeEAPReject hfresh
  | .ok none => exact Behaves.ask (.inr ⟨_, hw.loaded⟩) fun _ _ => behaves_writeEAPReject hfresh
  | .ok (some sub) =>
    refine Behaves.ask ⟨hsubject, hw.undecided⟩ fun _ _ => ?_
    refine Behaves.ask (.inr ⟨_, hw.loaded⟩) fun sess' _ => ?_
    refine Behaves.ask ⟨rfl, hfresh.1, hfresh.2.1, sess.username, sub, rfl, rfl, hw.undecided.1, ?_⟩
      fun _ _ => behaves_authAccepted rfl
    refine .eap hw.eap ref hw.loaded sess ?_ hstage rfl rfl rfl
    simp [noting, AuthRecord.note, hw.loaded, hw.read]

theorem behaves_eapContinue (heap : r.eapMessage ≠ [])
    (hparse : ParseEAP r.eapMessage = .ok pkt) : Behaves K d r (d.eapContinue r pkt) .fresh := by
  refine Behaves.ask ⟨heap, rfl, rfl, rfl, rfl⟩ fun loaded t => ?_
  match loaded with
  | none => exact behaves_writeEAPReject (.of_undecided ⟨rfl, rfl, rfl⟩)
  | some ref =>
    refine Behaves.ask (.inr ⟨_, rfl⟩) fun read t' => ?_
    match read with
    | none => exact behaves_writeEAPReject (.of_undecided ⟨rfl, rfl, rfl⟩)
    | some sess =>
      have hw : Continues r (noting (noting .fresh (.loadSession r.state) (some ref, t)) (.readSession ref)
          (some sess, t')) ref sess := ⟨heap, rfl, rfl, rfl, rfl, rfl, rfl, rfl, rfl, rfl⟩
      dsimp only
      split
      · rename_i hstage
        exact behaves_eapVerifyResponse hparse hw hstage
      · rename_i hstage
        exact behaves_eapFinish hw hstage
      · exact behaves_eapFail (.of_undecided hw.undecided) hw.loaded

theorem behaves_eapStart (heap : r.eapMessage ≠ []) (hstate : r.state = "")
    (hparse : ParseEAP r.eapMessage = .ok pkt) : Behaves K d r (d.eapStart r pkt) .fresh := by
  unfold eapStart
  dsimp only
  split
  · exact behaves_writeEAPReject (.of_undecided ⟨rfl, rfl, rfl⟩)
  have hcheck : Follows K d r (fun w' _ => ∃ n t, w' = { AuthRecord.fresh with guard := some n, last := t })
      (Check (eapIdentity r pkt)) .fresh := by
    refine ⟨⟨rfl, ⟨rfl, rfl, rfl⟩, .inr ⟨heap, hstate⟩⟩, fun a _ => ?_⟩
    match a with
    | (none, _) => exact ⟨_, _, rfl⟩
    | (some _, _) => exact ⟨_, _, rfl⟩
  refine Behaves.after hcheck ?_
  rintro w' ⟨blocked, _⟩ ⟨n, t, rfl⟩
  split
  · exact Behaves.after (behaves_writeEAPReject (.of_undecided ⟨rfl, rfl, rfl⟩)) fun _ _ h => behaves_authRejected h
  refine Behaves.ask rfl fun challenge t' => ?_
  match challenge with
  | none => exact behaves_writeEAPReject (.of_undecided ⟨rfl, rfl, rfl⟩)
  | some challenge =>
    refine Behaves.ask ⟨heap, hstate, rfl, rfl, rfl⟩ fun state t'' => ?_
    match state with
    | none => exact behaves_writeEAPReject (.of_undecided ⟨rfl, rfl, rfl⟩)
    | some state =>
      have hopens : ∀ w' : AuthRecord, w'.challenge = some challenge → Opens r w'
          ⟨.challengeIssued, eapIdentity r pkt, challenge, [], [], 0, pkt.identifier + 1, ""⟩ :=
        fun w' hw' => ⟨heap, hstate, pkt, challenge, hparse, hw', rfl⟩
      refine Behaves.ask ⟨hopens _ rfl, rfl, rfl, rfl⟩ fun ref _ => ?_
      refine Behaves.ask ⟨rfl, .inl ⟨rfl, rfl, rfl, rfl⟩⟩ fun _ _ => ?_
      refine Behaves.ask (.inl ⟨rfl, rfl⟩) fun sess _ => ?_
      exact behaves_writeEAPChallenge ⟨rfl, rfl, rfl⟩
        ⟨rfl, rfl, .inl ⟨_, pkt, _, hopens _ rfl, rfl, hparse, rfl, rfl, rfl⟩⟩

theorem behaves_handleEAP (heap : r.eapMessage ≠ []) : Behaves K d r (d.handleEAP r) .fresh := by
  unfold handleEAP
  split
  · exact behaves_writeEAPReject (.of_undecided ⟨rfl, rfl, rfl⟩)
  split
  · exact behaves_writeEAPReject (.of_undecided ⟨rfl, rfl, rfl⟩)
  · rename_i pkt hparse
    split
    · rename_i hstate
      exact behaves_eapStart heap hstate hparse
    · exact behaves_eapContinue heap hparse

/-! ### MAB and PAP -/

theorem behaves_handleMAB (hplain : r.eapMessage = []) (hmab : d.isMAB r = true) :
    Behaves K d r (d.handleMAB r) .fresh := by
  unfold handleMAB
  split
  · exact behaves_reject (.of_undecided ⟨rfl, rfl, rfl⟩)
  dsimp only
  split
  · exact behaves_reject (.of_undecided ⟨rfl, rfl, rfl⟩)
  refine Behaves.ask ⟨rfl, hplain, hmab⟩ fun found t => ?_
  match found with
  | .error _ => exact behaves_reject (.of_undecided ⟨rfl, rfl, rfl⟩)
  | .ok none => exact behaves_reject (.of_undecided ⟨rfl, rfl, rfl⟩)
  | .ok (some sub) =>
    dsimp only
    split
    · exact behaves_reject (.of_undecided ⟨rfl, rfl, rfl⟩)
    · rename_i hstatus
      refine Behaves.ask trivial fun now _ => ?_
      refine ⟨trivial, fun _ _ => ⟨trivial, fun _ _ => ⟨?_, fun _ _ => rfl⟩⟩⟩
      exact ⟨rfl, rfl, nofun, _, sub, rfl, rfl, rfl, .mab hplain hmab rfl (by simpa using hstatus)⟩

theorem behaves_papAccept (hmab : d.isMAB r = false)
    (h : Checking r w sub) (hfailures : ∀ n, w.guard = some (some n) → hasFailures = true) :
    Behaves K d r (d.papAccept r sub hasFailures) w := by
  have hsend : ∀ w' : AuthRecord, w'.guard = w.guard → w'.looked = w.looked → w'.failed = false →
      w'.answered = false → (∀ n, w'.guard = some (some n) → w'.reset = true) →
      Behaves K d r (do
        let now ← AuthCall.timeNow.ask
        (AuthCall.write r (d.accept r now sub) (some (r.userName, sub))).ask
        d.authAccepted r) w' := by
    intro w' hguard hlooked hfailed hanswered hreset
    refine Behaves.ask trivial fun now _ => ?_
    have hwhole : w'.failed = true → w'.recorded = true := by
      rw [hfailed]
      intro h
      cases h
    refine Behaves.ask ⟨rfl, hanswered, hwhole, r.userName, sub, rfl, hlooked.trans h.looked, hfailed,
      .pap h.plain hmab rfl h.authorised ?_ hreset⟩ fun _ _ => behaves_authAccepted rfl
    obtain ⟨n, hn, hfew⟩ := h.cleared
    exact ⟨n, hguard.trans hn, hfew⟩
  unfold papAccept
  split
  · refine Behaves.ask ⟨.inl ⟨h.plain, ?_, rfl⟩, h.undecided⟩ fun _ _ =>
      hsend _ rfl rfl h.undecided.1 h.undecided.2.2 fun _ _ => rfl
    obtain ⟨n, hn, -⟩ := h.cleared
    rw [hn]
    rfl
  · rename_i hnone
    exact hsend w rfl rfl h.undecided.1 h.undecided.2.2 fun n hn => absurd (hfailures n hn) hnone

theorem behaves_papVerify (hmab : d.isMAB r = false) (h : Checking r w sub) (hfirst : w.recorded = false)
    (hfailures : ∀ n, w.guard = some (some n) → hasFailures = true) :
    Behaves K d r (d.papVerify K r sub hasFailures) w := by
  have hsubject : Subject r w r.userName := by
    obtain ⟨n, hn, -⟩ := h.cleared
    exact .inl ⟨h.plain, by rw [hn]; rfl, rfl⟩
  have hcheck : Follows K d r (fun w' _ => ∃ t, w' = { w with last := t })
      (d.verifierCheck K r.userName r.userPassword sub.passwordHash) w := by
    unfold verifierCheck
    split
    · exact ⟨_, rfl⟩
    · refine ⟨⟨rfl, sub, h⟩, fun a _ => ?_⟩
      match a with
      | (none, _) => exact ⟨_, rfl⟩
      | (some _, _) => exact ⟨_, rfl⟩
  refine Behaves.after hcheck ?_
  rintro w' authenticated ⟨t, rfl⟩
  split
  · exact behaves_papAccept hmab { h with } hfailures
  refine Behaves.ask ⟨rfl, sub, { h with }, rfl⟩ fun same t' => ?_
  split
  · rename_i hsame
    have hmatched : ∀ w' : AuthRecord, w'.looked = w.looked →
        w'.compared = some (sub.passwordHash, r.userPassword, same) →
        Matched K d r w' r.userName (d.verifier K r.userPassword sub.passwordHash) := by
      intro w' hlooked hcompared
      rw [hsame] at hcompared
      exact ⟨sub, hlooked.trans h.looked, hcompared, rfl⟩
    have hstore : Follows K d r (fun w' _ => ∃ t, w' =
          { w with compared := some (sub.passwordHash, r.userPassword, same), last := t })
        (d.verifierStore K sub.id r.userName r.userPassword sub.passwordHash)
        { w with compared := some (sub.passwordHash, r.userPassword, same), last := some (t', false) } := by
      unfold verifierStore
      split
      · exact ⟨_, rfl⟩
      · refine ⟨trivial, fun _ _ => ⟨hmatched _ rfl rfl, fun _ _ => ?_⟩⟩
        split
        · exact ⟨hmatched _ rfl rfl, fun _ _ => ⟨_, rfl⟩⟩
        · exact ⟨_, rfl⟩
    refine Behaves.after hstore ?_
    rintro w' _ ⟨t'', rfl⟩
    exact behaves_papAccept hmab { h with } hfailures
  · rename_i hdiff
    have hsame : same = false := by simpa using hdiff
    rw [hsame]
    refine Behaves.afterFailure hsubject h.undecided (.compared sub h.looked h.plain rfl) hfirst fun t'' => ?_
    exact behaves_reject ⟨h.undecided.2.2, fun _ => rfl, h.undecided.2.1⟩

theorem behaves_handlePAP (hplain : r.eapMessage = []) (hmab : d.isMAB r = false) :
    Behaves K d r (d.handlePAP K r) .fresh := by
  have hcheck : Follows K d r (fun w' answer => ∃ n t,
        w' = { AuthRecord.fresh with guard := some n, last := t } ∧
        (answer.1 = false → ∀ k ∈ n, k < MaxFailedAttempts) ∧ (n.isSome = true → answer.2 = true))
      (Check r.userName) .fresh := by
    refine ⟨⟨rfl, ⟨rfl, rfl, rfl⟩, .inl ⟨hplain, hmab, rfl⟩⟩, fun a _ => ?_⟩
    match a with
    | (none, _) => exact ⟨_, _, rfl, by simp, by simp⟩
    | (some n, _) => exact ⟨_, _, rfl, by simp, by simp⟩
  refine Behaves.after hcheck ?_
  rintro w' ⟨blocked, hasFailures⟩ ⟨n, t, rfl, hfew, hsome⟩
  dsimp only at hfew hsome ⊢
  split
  · exact behaves_reject (.of_undecided ⟨rfl, rfl, rfl⟩)
  rename_i hfree
  have hsubject : Subject r { AuthRecord.fresh with guard := some n, last := t } r.userName :=
    .inl ⟨hplain, rfl, rfl⟩
  refine Behaves.after (follows_lookup (fun _ => hmab) hsubject rfl ⟨rfl, rfl, rfl⟩) ?_
  rintro w' found ⟨t', rfl⟩
  have hfail : ∀ w' : AuthRecord, Subject r w' r.userName → w'.Undecided →
      Refusal r w' r.userName → w'.recorded = false →
      Behaves K d r (do recordAuthFailure r.userName; d.reject r) w' := by
    intro w' hsubject hundecided hwhy hrecorded
    refine Behaves.afterFailure hsubject hundecided hwhy hrecorded fun t => ?_
    exact behaves_reject ⟨hundecided.2.2, fun _ => rfl, hundecided.2.1⟩
  match found with
  | .error err => exact hfail _ hsubject ⟨rfl, rfl, rfl⟩ (.outage err rfl) rfl
  | .ok none => exact hfail _ hsubject ⟨rfl, rfl, rfl⟩ (.unknown rfl) rfl
  | .ok (some sub) =>
    dsimp only
    split
    · exact behaves_reject (.of_undecided ⟨rfl, rfl, rfl⟩)
    · rename_i hstatus
      refine behaves_papVerify hmab ?_ rfl ?_
      · exact ⟨hplain, ⟨n, rfl, hfew (by simpa using hfree)⟩, rfl, by simpa using hstatus, rfl, rfl, rfl⟩
      · rintro k hk
        cases hk
        exact hsome rfl

/-- Whatever it is told, a worker does what a worker may. -/
theorem behaves_handleAuth (K : Crypto) (d : AuthDaemon) (r : AuthRequest) :
    Behaves K d r (d.handleAuth K r) .fresh := by
  unfold handleAuth
  split
  · rename_i heap
    exact behaves_handleEAP heap
  rename_i hplain
  rw [not_not] at hplain
  split
  · rename_i hmab
    exact behaves_handleMAB hplain hmab
  · rename_i hmab
    exact behaves_handlePAP hplain (by simpa using hmab)

end AuthDaemon

end IspBss.Radius
