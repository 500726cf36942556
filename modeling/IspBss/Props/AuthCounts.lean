import IspBss.Props.AuthWorkers

/-! Is every Access-Request counted once, as what it was answered with?

    `handleAuth` ends in one of some twenty places. All of them but one send an answer and count it once:

        writeEAPReject ─▶ reject, counted        reject ─▶ reject, counted
        writeEAPChallenge ─▶ challenge           eapFinish, handleMAB, papAccept ─▶ accept, counted
        eapStart, locked out ─▶ writeEAPReject, and counted again

    What a program sends and counts is followed by `tally`, whatever the store answers. -/

namespace IspBss.Radius

open Lib Metrics Prog

/-- What a program has sent and counted. -/
structure Tally where
  sent : List (AuthRequest × AuthResponse)
  incs : List Metric

def tally : Watch authSig Tally
  | w, .write r resp _, _ => { w with sent := w.sent ++ [(r, resp)] }
  | w, .inc m, _ => { w with incs := w.incs ++ [m] }
  | w, _, _ => w

namespace AuthDaemon

variable {K : Crypto} {d : AuthDaemon} {r : AuthRequest} {α : Type}

/-- How an answer should be counted. -/
def counts (d : AuthDaemon) (r : AuthRequest) : AuthCode → List Metric
  | .accept => [.authAccept, .authOutcome (d.nasLabel r) "accept"]
  | .reject => [.authReject, .authOutcome (d.nasLabel r) "reject"]
  | .challenge => []

/-- One answer, counted as it should be. -/
def Once (d : AuthDaemon) (r : AuthRequest) (w : Tally) : Prop :=
  ∃ resp, w.sent = [(r, resp)] ∧ w.incs = d.counts r resp.code

/-- Whatever it is told, the program ends with a tally of which `Q` holds. -/
def Ends (Q : Tally → Prop) (p : AuthProg Unit) : Prop :=
  Prog.Obeys tally (fun _ _ _ => True) (fun _ _ => True) (fun w _ => Q w) p ⟨[], []⟩

/-- The call neither sends nor counts. -/
def Quiet : AuthCall → Prop
  | .write _ _ _ => False
  | .inc _ => False
  | _ => True

variable {c : AuthCall}

theorem Quiet.tally (h : Quiet c) (w : Tally) (a : authSig.Resp c) : tally w c a = w := by
  cases c <;> first | rfl | exact h.elim

variable {Q : Tally → Prop}

/-- What comes before an answer leaves the tally empty. -/
theorem Ends.after {p : AuthProg α} {f : α → AuthProg Unit}
    (hp : Prog.Calls Quiet p) (hf : ∀ a, Ends Q (f a)) : Ends Q (p >>= f) := by
  refine Prog.obeys_bind.mpr ?_
  refine (Prog.Calls.obeys_inv (fun _ _ _ _ => trivial) ?_ hp _ rfl).mono ?_
  · intro w c a hc hw
    rw [hc.tally, hw]
  · rintro w a rfl
    exact hf a

theorem Ends.ask {f : c.Answer → AuthProg Unit} (hc : Quiet c) (hf : ∀ a, Ends Q (f a)) : Ends Q (c.ask >>= f) :=
  Ends.after ⟨hc, fun _ => trivial⟩ hf

/-! ### What is quiet -/

variable (username : String)

theorem quiet_check : Prog.Calls Quiet (Check username) := by
  refine ⟨trivial, fun a => ?_⟩
  match a with
  | (none, _) => trivial
  | (some _, _) => trivial

theorem quiet_recordAuthFailure : Prog.Calls Quiet (recordAuthFailure username) :=
  ⟨trivial, fun _ => ⟨trivial, fun _ => trivial⟩⟩

theorem quiet_lookup : Prog.Calls Quiet (d.GetSubscriberByUsername username) := by
  unfold GetSubscriberByUsername
  split
  · exact ⟨trivial, fun _ => trivial⟩
  · refine ⟨trivial, fun a => ?_⟩
    match a with
    | (some _, _) => trivial
    | (none, _) =>
      refine ⟨trivial, fun a => ?_⟩
      match a with
      | (.error _, _) => trivial
      | (.ok _, _) => exact ⟨trivial, fun _ => trivial⟩

theorem quiet_verifierCheck (username password hash : String) :
    Prog.Calls Quiet (d.verifierCheck K username password hash) := by
  unfold verifierCheck
  split
  · trivial
  · refine ⟨trivial, fun a => ?_⟩
    match a with
    | (none, _) => trivial
    | (some _, _) => trivial

theorem quiet_verifierStore (id : ℤ) (username password hash : String) :
    Prog.Calls Quiet (d.verifierStore K id username password hash) := by
  unfold verifierStore
  split
  · trivial
  · refine ⟨trivial, fun _ => ⟨trivial, fun _ => ?_⟩⟩
    split
    · exact ⟨trivial, fun _ => trivial⟩
    · trivial

/-! ### Every end -/

theorem once_writeEAPReject (eapID : UInt8) : Ends (Once d r) (d.writeEAPReject r eapID) :=
  ⟨trivial, fun _ _ => ⟨trivial, fun _ _ => ⟨trivial, fun _ _ => ⟨_, rfl, rfl⟩⟩⟩⟩

theorem once_reject : Ends (Once d r) (d.reject r) :=
  ⟨trivial, fun _ _ => ⟨trivial, fun _ _ => ⟨trivial, fun _ _ => ⟨_, rfl, rfl⟩⟩⟩⟩

theorem once_writeEAPChallenge (state : String) (pkt : EAPPacket) :
    Ends (Once d r) (d.writeEAPChallenge r state pkt) := by
  unfold writeEAPChallenge
  split
  · exact ⟨trivial, fun _ _ => ⟨_, rfl, rfl⟩⟩
  · exact once_writeEAPReject _

theorem once_eapFail (eapID : UInt8) (state : String) : Ends (Once d r) (d.eapFail r eapID state) := by
  unfold eapFail
  split
  · exact Ends.ask trivial fun _ => once_writeEAPReject eapID
  · exact once_writeEAPReject eapID

theorem once_eapVerifyResponse (pkt : EAPPacket) (ref : ℕ) (sess : EAPSession) :
    Ends (Once d r) (d.eapVerifyResponse r pkt ref sess) := by
  have hfail : ∀ u, Ends (Once d r) (do recordAuthFailure u; d.eapFail r pkt.identifier r.state) :=
    fun u => Ends.after (quiet_recordAuthFailure u) fun _ => once_eapFail _ _
  unfold eapVerifyResponse
  split
  · exact once_eapFail _ _
  · refine Ends.after (quiet_lookup _) fun found => ?_
    match found with
    | .error _ => exact hfail _
    | .ok none => exact hfail _
    | .ok (some sub) =>
      dsimp only
      split
      · exact once_eapFail _ _
      · refine Ends.ask trivial fun verdict => ?_
        match verdict with
        | .error .noNTHash => exact once_eapFail _ _
        | .error .badNTResponse => exact hfail _
        | .error .challengeLength => exact hfail _
        | .error .ntHashLength => exact hfail _
        | .error .ntResponseLength => exact hfail _
        | .ok answer =>
          iterate 8 refine Ends.ask trivial fun _ => ?_
          exact once_writeEAPChallenge _ _

theorem once_eapFinish (ref : ℕ) (sess : EAPSession) : Ends (Once d r) (d.eapFinish r ref sess) := by
  refine Ends.ask trivial fun _ => Ends.after (quiet_lookup _) fun found => ?_
  match found with
  | .error _ => exact Ends.ask trivial fun _ => once_writeEAPReject _
  | .ok none => exact Ends.ask trivial fun _ => once_writeEAPReject _
  | .ok (some sub) =>
    refine Ends.ask trivial fun _ => Ends.ask trivial fun _ => ?_
    exact ⟨trivial, fun _ _ => ⟨trivial, fun _ _ => ⟨trivial, fun _ _ => ⟨_, rfl, rfl⟩⟩⟩⟩

theorem once_eapContinue (pkt : EAPPacket) : Ends (Once d r) (d.eapContinue r pkt) := by
  refine Ends.ask trivial fun loaded => ?_
  match loaded with
  | none => exact once_writeEAPReject _
  | some ref =>
    refine Ends.ask trivial fun read => ?_
    match read with
    | none => exact once_writeEAPReject _
    | some sess =>
      dsimp only
      split
      · exact once_eapVerifyResponse _ _ _
      · exact once_eapFinish _ _
      · exact once_eapFail _ _

theorem once_handleMAB : Ends (Once d r) (d.handleMAB r) := by
  unfold handleMAB
  split
  · exact once_reject
  · dsimp only
    split
    · exact once_reject
    · refine Ends.ask trivial fun found => ?_
      match found with
      | .error _ => exact once_reject
      | .ok none => exact once_reject
      | .ok (some sub) =>
        dsimp only
        split
        · exact once_reject
        · refine Ends.ask trivial fun _ => ?_
          exact ⟨trivial, fun _ _ => ⟨trivial, fun _ _ => ⟨trivial, fun _ _ => ⟨_, rfl, rfl⟩⟩⟩⟩

theorem once_papAccept (sub : Subscriber) (hasFailures : Bool) :
    Ends (Once d r) (d.papAccept r sub hasFailures) := by
  have haccept : Ends (Once d r) (do
      let now ← AuthCall.timeNow.ask
      (AuthCall.write r (d.accept r now sub) (some (r.userName, sub))).ask
      d.authAccepted r) := by
    refine Ends.ask trivial fun _ => ?_
    exact ⟨trivial, fun _ _ => ⟨trivial, fun _ _ => ⟨trivial, fun _ _ => ⟨_, rfl, rfl⟩⟩⟩⟩
  unfold papAccept
  split
  · exact Ends.ask trivial fun _ => haccept
  · exact haccept

theorem once_handlePAP : Ends (Once d r) (d.handlePAP K r) := by
  have hfail : Ends (Once d r) (do recordAuthFailure r.userName; d.reject r) :=
    Ends.after (quiet_recordAuthFailure _) fun _ => once_reject
  refine Ends.after (quiet_check _) fun answer => ?_
  dsimp only
  split
  · exact once_reject
  · refine Ends.after (quiet_lookup _) fun found => ?_
    match found with
    | .error _ => exact hfail
    | .ok none => exact hfail
    | .ok (some sub) =>
      dsimp only
      split
      · exact once_reject
      · refine Ends.after (quiet_verifierCheck _ _ _) fun authenticated => ?_
        split
        · exact once_papAccept _ _
        · refine Ends.ask trivial fun same => ?_
          split
          · exact Ends.after (quiet_verifierStore _ _ _ _) fun _ => once_papAccept _ _
          · exact hfail

/-! ### The opening packet of a conversation -/

/-- Nothing is wrong with the opening packet but that its name is locked out. -/
def LockedStart (d : AuthDaemon) (r : AuthRequest) (e : AuthEnv) (s : AuthState) : Prop :=
  d.eapSessions = true ∧ r.state = "" ∧ ∃ pkt, ParseEAP r.eapMessage = .ok pkt ∧ eapIdentity r pkt ≠ "" ∧
    ∃ n, s.guard.Get e.now (BruteForceKey (eapIdentity r pkt)) = some n ∧ MaxFailedAttempts ≤ n

/-- What follows the lockout in `eapStart`. -/
theorem once_opened (pkt : EAPPacket) (username : String) : Ends (Once d r) (do
    match ← AuthCall.newChallenge.ask with
    | none => d.writeEAPReject r pkt.identifier
    | some challenge =>
      match ← AuthCall.newState.ask with
      | none => d.writeEAPReject r pkt.identifier
      | some state => do
        let ref ← (AuthCall.newSession
          ⟨.challengeIssued, username, challenge, [], [], 0, pkt.identifier + 1, ""⟩).ask
        (AuthCall.saveSession state ref).ask
        let sess ← (AuthCall.readSession ref).ask
        d.writeEAPChallenge r state
          (challengeRequest pkt challenge ((sess.map EAPSession.eapIdentifier).getD 0))) := by
  refine Ends.ask trivial fun challenge => ?_
  match challenge with
  | none => exact once_writeEAPReject _
  | some challenge =>
    refine Ends.ask trivial fun state => ?_
    match state with
    | none => exact once_writeEAPReject _
    | some state =>
      iterate 3 refine Ends.ask trivial fun _ => ?_
      exact once_writeEAPChallenge _ _

/-- Twice the count of one reject. -/
def Twice (d : AuthDaemon) (r : AuthRequest) (w : Tally) : Prop :=
  ∃ resp, resp.code = .reject ∧ w.sent = [(r, resp)] ∧ w.incs = d.counts r .reject ++ d.counts r .reject

theorem twice_locked (eapID : UInt8) : Ends (Twice d r) (do d.writeEAPReject r eapID; d.authRejected r) :=
  ⟨trivial, fun _ _ => ⟨trivial, fun _ _ => ⟨trivial, fun _ _ => ⟨trivial, fun _ _ => ⟨trivial, fun _ _ =>
    ⟨_, rfl, rfl, rfl⟩⟩⟩⟩⟩⟩

/-! ### Runs -/

theorem quiet_run (hc : Quiet c) (e : AuthEnv) (s : AuthState) :
    (c.run K e s).2.sent = s.sent ∧ (c.run K e s).2.metrics = s.metrics := by
  cases c with
  | write => exact hc.elim
  | inc => exact hc.elim
  | _ => exact ⟨rfl, rfl⟩

/-- What the program sends and counts is what is added to the state. -/
theorem Ends.run {p : AuthProg Unit} (h : Ends Q p) (e : AuthEnv) (s : AuthState) :
    ∃ w, Q w ∧ (run (authExec K) e p s).2.sent = s.sent ++ w.sent ∧
      (run (authExec K) e p s).2.metrics = w.incs.foldl inc s.metrics := by
  let R (s' : AuthState) (w : Tally) : Prop :=
    s'.sent = s.sent ++ w.sent ∧ s'.metrics = w.incs.foldl inc s.metrics
  have hcall : ∀ c s' w, R s' w → True →
      True ∧ R (authExec K e c s').2 (tally w c (authExec K e c s').1) := by
    intro c s' w hR _
    refine ⟨trivial, ?_⟩
    by_cases hc : Quiet c
    · obtain ⟨hsent, hmetrics⟩ := quiet_run hc e s'
      rw [hc.tally]
      exact ⟨hsent.trans hR.1, hmetrics.trans hR.2⟩
    · cases c with
      | write r resp who =>
        refine ⟨?_, hR.2⟩
        show s'.sent ++ [(r, resp)] = s.sent ++ (w.sent ++ [(r, resp)])
        rw [hR.1, List.append_assoc]
      | inc m =>
        refine ⟨hR.1, ?_⟩
        show s'.metrics.inc m = (w.incs ++ [m]).foldl inc s.metrics
        rw [hR.2, List.foldl_append]
        rfl
      | _ => exact absurd trivial hc
  obtain ⟨w, ⟨hsent, hincs⟩, hQ⟩ := Prog.Obeys.run hcall h ⟨(List.append_nil _).symm, rfl⟩
  exact ⟨w, hQ, hsent, hincs⟩

/-- The lockout says what its counter says. -/
theorem check_run (username : String) (e : AuthEnv) (s : AuthState) :
    run (authExec K) e (Check username) s =
      (match s.guard.Get e.now (BruteForceKey username) with
        | none => (false, false)
        | some n => (decide (MaxFailedAttempts ≤ n), true), s) := by
  have hrun : run (authExec K) e (AuthCall.guardGet username).ask s =
      (s.guard.Get e.now (BruteForceKey username), s) := rfl
  rw [Check, Prog.run_bind, hrun]
  cases s.guard.Get e.now (BruteForceKey username) <;> rfl

/-- A request is answered once. It is counted once, unless it is an opening packet of a name that is locked
    out; that one is a reject and is counted twice. -/
theorem handleAuth_run (K : Crypto) (d : AuthDaemon) (r : AuthRequest) (e : AuthEnv) (s : AuthState) :
    ∃ resp, (run (authExec K) e (d.handleAuth K r) s).2.sent = s.sent ++ [(r, resp)] ∧
      ((¬ LockedStart d r e s ∧ (run (authExec K) e (d.handleAuth K r) s).2.metrics =
          (d.counts r resp.code).foldl inc s.metrics) ∨
        (LockedStart d r e s ∧ resp.code = .reject ∧
          (run (authExec K) e (d.handleAuth K r) s).2.metrics =
            (d.counts r .reject ++ d.counts r .reject).foldl inc s.metrics)) := by
  have once : ∀ {p : AuthProg Unit}, Ends (Once d r) p → ¬ LockedStart d r e s →
      ∃ resp, (run (authExec K) e p s).2.sent = s.sent ++ [(r, resp)] ∧
        ((¬ LockedStart d r e s ∧ (run (authExec K) e p s).2.metrics =
            (d.counts r resp.code).foldl inc s.metrics) ∨
          (LockedStart d r e s ∧ resp.code = .reject ∧ (run (authExec K) e p s).2.metrics =
            (d.counts r .reject ++ d.counts r .reject).foldl inc s.metrics)) := by
    intro p hp hfree
    obtain ⟨w, ⟨resp, hsent, hincs⟩, hs, hm⟩ := hp.run e s
    rw [hsent] at hs
    rw [hincs] at hm
    exact ⟨resp, hs, Or.inl ⟨hfree, hm⟩⟩
  unfold handleAuth
  split
  · rename_i heap
    unfold handleEAP
    split
    · rename_i hnone
      refine once (once_writeEAPReject _) fun h => ?_
      rw [h.1] at hnone
      cases hnone
    rename_i hsessions
    split
    · rename_i err hparse
      refine once (once_writeEAPReject _) ?_
      rintro ⟨-, -, pkt, hpkt, -⟩
      rw [hparse] at hpkt
      cases hpkt
    rename_i pkt hparse
    split
    · rename_i hstate
      unfold eapStart
      dsimp only
      split
      · rename_i hempty
        refine once (once_writeEAPReject _) ?_
        rintro ⟨-, -, pkt', hpkt, hname, -⟩
        rw [hparse] at hpkt
        cases hpkt
        exact hname hempty
      rename_i hname
      rw [Prog.run_bind, check_run]
      have hlocked : LockedStart d r e s ↔
          ∃ n, s.guard.Get e.now (BruteForceKey (eapIdentity r pkt)) = some n ∧ MaxFailedAttempts ≤ n := by
        constructor
        · rintro ⟨-, -, pkt', hpkt, -, h⟩
          rw [hparse] at hpkt
          cases hpkt
          exact h
        · intro h
          exact ⟨by simpa using hsessions, hstate, pkt, hparse, hname, h⟩
      cases hget : s.guard.Get e.now (BruteForceKey (eapIdentity r pkt)) with
      | none => exact once (once_opened pkt _) (by simp [hlocked, hget])
      | some n =>
        by_cases hmax : MaxFailedAttempts ≤ n
        · have hyes : LockedStart d r e s := hlocked.mpr ⟨n, hget, hmax⟩
          simp only [hmax, decide_true, if_true]
          obtain ⟨w, ⟨resp, hcode, hsent, hincs⟩, hs, hm⟩ :=
            (twice_locked pkt.identifier).run e s
          rw [hsent] at hs
          rw [hincs] at hm
          exact ⟨resp, hs, Or.inr ⟨hyes, hcode, hm⟩⟩
        · simp only [hmax, decide_false]
          exact once (once_opened pkt _) (by simpa [hlocked, hget] using hmax)
    · rename_i hstate
      exact once (once_eapContinue pkt) fun h => hstate h.2.1
  · rename_i hplain
    have hfree : ¬ LockedStart d r e s := by
      rintro ⟨-, -, pkt, hpkt, -⟩
      rw [not_not] at hplain
      rw [hplain] at hpkt
      cases hpkt
    split
    · exact once once_handleMAB hfree
    · exact once once_handlePAP hfree

end AuthDaemon

/-! ### The counts -/

/-- How often an outcome was counted for a NAS. -/
def Metrics.outcome (m : Metrics) (nas result : String) : ℕ := (m.authOutcome.lookup (nas, result)).getD 0

/-- The counts before and after one answer that is counted once. -/
structure CountedAs (label : String) (code : AuthCode) (m m' : Metrics) : Prop where
  accepted : m'.authAccept = m.authAccept + if code = .accept then 1 else 0
  rejected : m'.authReject = m.authReject + if code = .reject then 1 else 0
  outcome : ∀ nas result, m'.outcome nas result = m.outcome nas result +
    if nas = label ∧ ((code = .accept ∧ result = "accept") ∨ (code = .reject ∧ result = "reject"))
    then 1 else 0

theorem Metrics.outcome_inc (m : Metrics) (label res nas result : String) :
    (m.inc (.authOutcome label res)).outcome nas result =
      m.outcome nas result + if nas = label ∧ result = res then 1 else 0 := by
  simp only [inc, outcome]
  by_cases h : (nas, result) = (label, res)
  · cases h
    simp
  · rw [AList.lookup_insert_ne h, if_neg (by simpa using h), Nat.add_zero]

theorem countedAs_counts (d : AuthDaemon) (r : AuthRequest) (code : AuthCode) (m : Metrics) :
    CountedAs (d.nasLabel r) code m ((d.counts r code).foldl inc m) := by
  cases code with
  | accept => exact ⟨rfl, rfl, fun nas result => by simp [AuthDaemon.counts, outcome_inc]; rfl⟩
  | reject => exact ⟨rfl, rfl, fun nas result => by simp [AuthDaemon.counts, outcome_inc]; rfl⟩
  | challenge => exact ⟨rfl, rfl, fun nas result => by simp [AuthDaemon.counts]⟩

/-- Every Access-Request is answered exactly once, and its answer is counted once under what it is exactly
    unless it is the well-formed opening packet of an EAP conversation for a name that is locked out. -/
theorem counted_once_iff_not_lockedStart (K : Crypto) (d : AuthDaemon) (r : AuthRequest) (e : AuthEnv)
    (s : AuthState) :
    ∃ resp, (Prog.run (authExec K) e (d.handleAuth K r) s).2.sent = s.sent ++ [(r, resp)] ∧
      (CountedAs (d.nasLabel r) resp.code s.metrics
          (Prog.run (authExec K) e (d.handleAuth K r) s).2.metrics ↔
        ¬ d.LockedStart r e s) := by
  obtain ⟨resp, hsent, ⟨hfree, hm⟩ | ⟨hlocked, hcode, hm⟩⟩ := d.handleAuth_run K r e s
  · refine ⟨resp, hsent, iff_of_true ?_ hfree⟩
    rw [hm]
    exact countedAs_counts d r resp.code s.metrics
  · refine ⟨resp, hsent, iff_of_false (fun h => ?_) (not_not.mpr hlocked)⟩
    have hrejected := h.rejected
    rw [hm, hcode] at hrejected
    simp [AuthDaemon.counts, inc] at hrejected

/-- Ten failures have been recorded for the name. -/
def lockedOut : AuthState :=
  { AuthState.start ⟨∅, ∅, ∅, []⟩ ∅ with
    guard := ⟨(∅ : Rows String Localcache.CounterEntry).insert (BruteForceKey "ann")
      ⟨10, some LockoutDuration⟩⟩ }

/-- The name is locked out, and the one Access-Reject it gets is counted twice. -/
theorem locked_start_counted_twice :
    let s := (Prog.run (authExec .plain) ⟨0, false, none, none⟩
      (plainDaemon.handleAuth .plain annOpens) lockedOut).2
    s.sent.map (fun x => x.2.code) = [.reject] ∧ s.metrics.authReject = 2 ∧
      s.metrics.outcome "unregistered" "reject" = 2 := by
  decide +kernel

end IspBss.Radius
