import IspBss.Props.SessionIsolation

/-! Is a session accounted to whoever it was accepted as?

    Authentication reads the name and the password, accounting the name alone:

        "aabbccddeeff", real password   ─▶ PAP: the subscriber of that name
        "aabbccddeeff" in accounting    ─▶ MAC: whoever the directory has for it, or a voucher

    What the two have in common is settled by one lemma each: whom an Access-Request can be accepted as,
    and whom a record is put down to. -/

namespace IspBss.Radius

open Lib Prog Option

/-! ### Acceptance -/

/-- A call that leaves the network as it is. -/
def NetCall.Reads (c : NetCall) : Prop := ∀ e s, (netExec e c s).2 = s

theorem reads_authorizeMAC (mac : String) (nasID : ℤ) : NetCall.Reads (.stmt (.authorizeMAC mac nasID)) := by
  intro e s
  rw [Daemon.exec_stmt]
  split <;> rfl

theorem reads_getSubscriberByUsername (username : String) :
    NetCall.Reads (.stmt (.getSubscriberByUsername username)) := by
  intro e s
  rw [Daemon.exec_stmt]
  split <;> rfl

namespace Daemon

theorem handleMAB_reads (d : Daemon) (a : AccessRequest) : (d.handleMAB a).Calls NetCall.Reads := by
  unfold handleMAB
  split
  · trivial
  split
  · trivial
  split
  · trivial
  dsimp only
  split
  · trivial
  refine ⟨reads_authorizeMAC _ _, fun x => ?_⟩
  match x with
  | .error _ => trivial
  | .ok none => trivial
  | .ok (some sub) => trivial

theorem handlePAP_reads (a : AccessRequest) : (handlePAP a).Calls NetCall.Reads := by
  refine ⟨fun _ _ => rfl, fun blocked => ?_⟩
  show Prog.Calls _ (if _ then _ else _)
  split
  · trivial
  refine ⟨reads_getSubscriberByUsername _, fun x => ?_⟩
  match x with
  | .error _ => trivial
  | .ok none => trivial
  | .ok (some sub) =>
    show Prog.Calls _ (if _ then _ else _)
    split
    · trivial
    refine ⟨fun _ _ => rfl, fun authenticated => ?_⟩
    show Prog.Calls _ (if _ then _ else _)
    split
    · trivial
    · exact ⟨fun _ _ => rfl, fun _ => trivial⟩

/-- Authentication changes nothing. -/
theorem handleAuth_reads (d : Daemon) (a : AccessRequest) : (d.handleAuth a).Calls NetCall.Reads := by
  unfold handleAuth
  split
  · trivial
  refine Prog.calls_bind (d.handleMAB_reads a) fun reply => ?_
  match reply with
  | some _ => trivial
  | none => exact handlePAP_reads a

theorem handleAuth_state (d : Daemon) (e : NetEnv) (a : AccessRequest) (s : Network) :
    (run netExec e (d.handleAuth a) s).2 = s :=
  Prog.Calls.run_inv (I := fun s' => s' = s) (fun _ s' hc hs => (hc e s').trans hs)
    (d.handleAuth_reads a) rfl

section
variable {d : Daemon} {e : NetEnv} {a : AccessRequest} {s : Network} {sub : Subscriber}

/-- Whatever answers it, PAP accepts nobody but whom the lookup has found. -/
theorem handlePAP_found {σ : Type} {M : Store netSig NetEnv σ} {s : σ}
    (h : (run M e (handlePAP a) s).1 = .accept sub) :
    (M e (.stmt (.getSubscriberByUsername a.userName)) (M e (.guardCheck a.userName) s).2).1 = .ok (some sub) := by
  have hask : ∀ {α : Type} (c : NetCall) (k : netSig.Resp c → NetProg α) (s : σ),
      run M e (ask c >>= k) s = run M e (k (M e c s).1) (M e c s).2 := fun _ _ _ => rfl
  -- every guard either rejects, which is no accept, or lets the request on
  rw [handlePAP, hask] at h
  split at h
  · cases h
  rw [sql_bind, Prog.run] at h
  generalize M e (.stmt (.getSubscriberByUsername a.userName)) (M e (.guardCheck a.userName) s).2 =
    found at h ⊢
  obtain ⟨r, s₁⟩ := found
  dsimp only at h
  split at h
  · cases h
  · cases h
  · rename_i x
    split at h
    · cases h
    rw [hask] at h
    split at h
    · cases h
      rfl
    rw [hask] at h
    -- the last answer decides what is returned
    generalize (M e (.compareHashAndPassword x.passwordHash a.userPassword) _).1 = matching at h
    cases matching with
    | true =>
      cases h
      rfl
    | false => cases h

/-- PAP accepts the subscriber of that name. -/
theorem handlePAP_accept (h : (run netExec e (handlePAP a) s).1 = .accept sub) :
    s.directory.GetSubscriberByUsername a.userName = some sub := by
  have hfound : (netExec e (.stmt (.getSubscriberByUsername a.userName)) s).1 = .ok (some sub) :=
    handlePAP_found h
  rw [exec_stmt] at hfound
  split at hfound
  · cases hfound
  · exact Except.ok.inj hfound

/-- Without a MAC for a name, or without a hotspot, the subscriber of that name is accepted. -/
theorem handleAuth_accept (hpap : NormaliseMAC a.userName = none ∨ d.mabDB = false)
    (h : (run netExec e (d.handleAuth a) s).1 = .accept sub) :
    s.directory.GetSubscriberByUsername a.userName = some sub := by
  have hmab : d.handleMAB a = pure none := by
    unfold handleMAB looksLikeMAB
    rcases hpap with hmac | hdb
    · rw [hmac]
      rfl
    · rw [hdb, if_pos rfl, ite_self]
  unfold handleAuth at h
  by_cases heap : a.eapMessage ≠ []
  · rw [if_pos heap] at h
    cases h
  · rw [if_neg heap, hmab] at h
    exact handlePAP_accept h

end

/-! ### Attribution -/

/-- The record is not metered as a voucher's, and is put down to the subscriber. -/
def Attributes (d : Daemon) (e : NetEnv) (r : AcctRequest) (s : Network) (sub : ℤ) : Prop :=
  (Prog.run netExec e (d.meterVoucherSession r) s).1 = none ∧
    ∃ x ∈ (Prog.run netExec e (d.resolveAccountingSubscriber r) s).1, x.id = sub

/-- The name is no MAC, or the directory has the subscriber for the MAC at that moment, or there is no
    hotspot at all; the lookup that decides does not fail. -/
def Attributable (d : Daemon) (e : NetEnv) (dir : Directory) (r : AcctRequest) (sub : ℤ) : Prop :=
  r.userName ≠ "" ∧
    match NormaliseMAC r.userName with
    | none => e.fails (.getSubscriberByUsername r.userName) = false
    | some mac =>
      if d.mabDB then ∃ x, d.macLookup e dir mac r.remoteAddr = .ok (some x) ∧ x.id = sub
      else d.grantUsageDB = false ∧ e.fails (.getSubscriberByUsername r.userName) = false

theorem attributes_iff {d : Daemon} {e : NetEnv} {r : AcctRequest} {s : Network} {sub : ℤ} :
    d.Attributes e r s sub ↔ ¬d.Metered e s.directory r ∧ ∃ x ∈ d.resolved e s.directory r, x.id = sub := by
  rw [Attributes, resolveAccountingSubscriber_run, ← (meterVoucherSession_run d e r s).1,
    not_isSome_iff_eq_none]

/-- A subscriber who is found by name is found unless the lookup fails. -/
theorem byName_iff {e : NetEnv} {dir : Directory} {username : String} {x : Subscriber}
    (h : dir.GetSubscriberByUsername username = some x) :
    (∃ y ∈ byName e dir username, y.id = x.id) ↔ e.fails (.getSubscriberByUsername username) = false := by
  unfold byName
  cases e.fails (.getSubscriberByUsername username) with
  | true => simp
  | false => simp [h]

/-- The exact condition, if the subscriber has that name wherever accounting goes by the name. -/
theorem attributes_iff_attributable {d : Daemon} {e : NetEnv} {r : AcctRequest} {s : Network}
    {sub : ℤ} (hsub : sub ≠ 0) (hname : NormaliseMAC r.userName = none ∨ d.mabDB = false →
      ∃ x, s.directory.GetSubscriberByUsername r.userName = some x ∧ x.id = sub) :
    d.Attributes e r s sub ↔ d.Attributable e s.directory r sub := by
  rw [attributes_iff]
  unfold Attributable Metered resolved
  by_cases hempty : r.userName = ""
  · simp [hempty]
  simp only [hempty, ne_eq, not_false_eq_true, true_and, if_false]
  cases hmac : NormaliseMAC r.userName with
  | none =>
    obtain ⟨x, hx, rfl⟩ := hname (.inl hmac)
    simp only [mem_def, reduceCtorEq, false_and, exists_false, and_false, not_false_eq_true,
      true_and]
    exact byName_iff hx
  | some mac =>
    by_cases hdb : d.mabDB = true
    · simp only [hdb, if_true, mem_def, some.injEq, exists_eq_left', forall_true_left]
      -- metering and attribution make the same lookup, and split on the same answer
      generalize d.macLookup e s.directory mac r.remoteAddr = found
      rcases found with _ | _ | x
      · simp
      · simp
      · by_cases hx : x.id = 0
        · simp [hx, hsub.symm]
        · simp [hx]
    · rw [Bool.not_eq_true] at hdb
      obtain ⟨x, hx, rfl⟩ := hname (.inr hdb)
      simp only [hdb, Bool.false_eq_true, if_false, mem_def, some.injEq, false_implies,
        and_true, exists_eq', Bool.not_eq_true]
      exact and_congr_right fun _ => byName_iff hx

end Daemon

/-- The network after other hotspot registrations and grants. -/
def Network.withHotspot (s : Network) (devices : Rows String HotspotDevice) (grants : List Grant) :
    Network :=
  { s with directory := { s.directory with devices := devices, grants := grants } }

/-- Whom a reply accepts. -/
def AuthReply.subscriberID : AuthReply → Option ℤ
  | .accept sub => some sub.id
  | _ => none

/-- Any Access-Request that is accepted as a subscriber, any accounting traffic and any hotspot changes
    after it: a record with the same user name is put down to the subscriber, and not metered as a
    voucher's, exactly if the name is no MAC, or the directory has the subscriber for the MAC at that
    moment, or there is no hotspot at all. -/
theorem accounted_as_accepted_iff (d : Daemon) (s : Network) (e : NetEnv) (a : AccessRequest) (sub : ℤ)
    (hsub : sub ≠ 0) (hacc : (Prog.run netExec e (d.handleAuth a) s).1.subscriberID = some sub)
    (traffic : Traffic) (devices : Rows String HotspotDevice) (grants : List Grant) (e' : NetEnv)
    (r : AcctRequest) (hname : r.userName = a.userName) :
    let s' := (d.serve (Prog.run netExec e (d.handleAuth a) s).2 traffic).withHotspot devices grants
    d.Attributes e' r s' sub ↔ d.Attributable e' s'.directory r sub := by
  intro s'
  refine Daemon.attributes_iff_attributable hsub fun hpap => ?_
  cases hreply : (run netExec e (d.handleAuth a) s).1 with
  | reject =>
    rw [hreply] at hacc
    cases hacc
  | eap =>
    rw [hreply] at hacc
    cases hacc
  | accept x =>
    rw [hreply] at hacc
    rw [hname] at hpap ⊢
    refine ⟨x, ?_, some.inj hacc⟩
    have hdir : (d.serve (run netExec e (d.handleAuth a) s).2 traffic).directory =
        s.directory := by
      rw [Daemon.serve_directory, Daemon.handleAuth_state]
    have hsame : s'.directory.GetSubscriberByUsername a.userName =
        s.directory.GetSubscriberByUsername a.userName := by
      rw [← hdir]
      rfl
    rw [hsame]
    exact Daemon.handleAuth_accept hpap hreply

/-- A moment at which every password is right. -/
def trusting : NetEnv := { NetEnv.at 0 with bcrypt := fun _ _ => true }

theorem ann_accounted_as_accepted :
    (Prog.run netExec trusting (fullDaemon.handleAuth ⟨"ann", "secret", [], "10.0.0.1"⟩)
      twoSubscribers).1.subscriberID = some 1 ∧
    fullDaemon.Attributes (.at 1000000) (.of .start "ann" "10.0.0.1" "a1" 0 0)
      ((fullDaemon.serve (Prog.run netExec trusting
        (fullDaemon.handleAuth ⟨"ann", "secret", [], "10.0.0.1"⟩) twoSubscribers).2
          numberedApart).withHotspot ∅ []) 1 := by
  have hacc : (run netExec trusting (fullDaemon.handleAuth ⟨"ann", "secret", [], "10.0.0.1"⟩)
      twoSubscribers).1.subscriberID = some 1 := by decide +kernel
  have hmac : NormaliseMAC "ann" = none := by decide +kernel
  refine ⟨hacc, (accounted_as_accepted_iff _ _ _ _ 1 (by decide) hacc _ _ _ _
    (.of .start "ann" "10.0.0.1" "a1" 0 0) rfl).mpr ⟨by decide +kernel, ?_⟩⟩
  rw [show (AcctRequest.of .start "ann" "10.0.0.1" "a1" 0 0).userName = "ann" from rfl, hmac]
  rfl

/-- A subscriber whose name is a MAC, and one who has registered a device. -/
def macNamed (devices : Rows String HotspotDevice) : Network where
  directory :=
    { subscribers := ((∅ : Rows ℤ Profile).insert 1 (.named "aabbccddeeff")).insert 2 (.named "bob")
      plans := (∅ : Rows ℤ RatePlan).insert 1 smallPlan
      devices := devices
      grants := [] }
  grantUsage := ∅
  sessions := []
  acctDedup := .empty

/-- The subscriber is accepted by the password. The record is then metered as a voucher's and put down
    to nobody; with the MAC registered to somebody else, it is put down to them. -/
theorem mac_named_session_misattributed :
    let auth (s : Network) :=
      (Prog.run netExec trusting (fullDaemon.handleAuth ⟨"aabbccddeeff", "secret", [], "10.0.0.1"⟩)
        s).1.subscriberID
    let r := AcctRequest.of .start "aabbccddeeff" "10.0.0.1" "a1" 0 0
    let metered (s : Network) := (Prog.run netExec (.at 1) (fullDaemon.meterVoucherSession r) s).1
    let resolved (s : Network) :=
      (Prog.run netExec (.at 1) (fullDaemon.resolveAccountingSubscriber r) s).1.map (·.id)
    let device := (∅ : Rows String HotspotDevice).insert "AA:BB:CC:DD:EE:FF" ⟨2, none, true⟩
    (auth (macNamed ∅) = some 1 ∧ metered (macNamed ∅) = some .unmatched ∧
      resolved (macNamed ∅) = none) ∧
    (auth (macNamed device) = some 1 ∧ metered (macNamed device) = none ∧
      resolved (macNamed device) = some 2) := by
  decide +kernel

end IspBss.Radius
