import IspBss.Props.Attribution
import IspBss.Props.EapConversations
import IspBss.Props.RateAgreement

/-! Is a session that was accepted through EAP accounted to whoever was accepted?

    A conversation goes by the identity of its opening packet, with the domain taken off; accounting
    goes by the User-Name as it stands.

        EAP          Identity  "CORP\ann" ─▶ StripDomain ─▶ "ann" ─▶ the subscriber
        accounting   User-Name "CORP\ann" ─────────────────────────▶ nobody, and no session

    So the session is accounted to the subscriber if the User-Name is the name that the conversation
    was for, or if it is a MAC that the directory has for them. -/

namespace IspBss.Radius

open Lib List Option Pool Directory

/-! ### Whose name it is -/

/-- The subscriber who has the name. -/
def Directory.idOf (d : Directory) (username : String) : Option ℤ :=
  (d.GetSubscriberByUsername username).map (·.id)

theorem Directory.idOf_row {d : Directory} {username : String} {id : ℤ}
    (h : d.idOf username = some id) :
    ∃ s, d.subscribers.lookup id = some s ∧ s.username = username := by
  obtain ⟨x, hx, rfl⟩ := map_eq_some_iff.mp h
  simp only [GetSubscriberByUsername, bind_eq_bind, bind_eq_some_iff] at hx
  obtain ⟨⟨id, s⟩, hfind, p, -, hx⟩ := hx
  cases hx
  have hname := find?_some hfind
  exact ⟨s, AList.mem_lookup_iff.mpr (mem_of_find?_eq_some hfind), of_decide_eq_true hname⟩

/-- A subscriber has one name. -/
theorem Directory.idOf_iff {d : Directory} {u v : String} {id : ℤ} (h : d.idOf u = some id) :
    d.idOf v = some id ↔ v = u := by
  constructor
  · intro hv
    obtain ⟨s, hs, hu⟩ := d.idOf_row h
    obtain ⟨t, ht, hname⟩ := d.idOf_row hv
    rw [hs] at ht
    cases ht
    exact hname.symm.trans hu
  · rintro rfl
    exact h

/-! ### A Start -/

namespace Daemon

variable (d : Daemon) (e : NetEnv) (s : Network) (r : AcctRequest)

/-- A Start that can be recorded: it is seen for the first time, its session is not open, and no
    statement fails. -/
structure Recordable : Prop where
  start : r.statusType = .start
  store : d.acctDB = true
  up : ∀ op, e.fails op = false
  named : r.sessionID ≠ ""
  short : r.sessionID.length ≤ 255
  nas : r.accountingNASIP ≠ ""
  fresh : ¬ s.acctDedup.Live e.now r.dedupKey
  closed : ¬ ∃ row ∈ s.sessions, row.OpenAs r.sessionID

/-- Handling the record leaves its session open, as one of the subscriber. -/
def Records (id : ℤ) : Prop :=
  ∃ row ∈ (Prog.run netExec e (d.handleAccounting r) s).2.sessions,
    row.OpenAs r.sessionID ∧ row.subscriberID = id
  deriving Decidable

/-- The User-Name stands for the subscriber: it is their name; or it is a MAC, and the directory has
    them for it on that NAS. Without a hotspot a MAC is a name like others, as long as no vouchers
    are metered. -/
def AccountsTo (d : Daemon) (now : Time) (dir : Directory) (userName remoteAddr : String) (id : ℤ) :
    Prop :=
  userName ≠ "" ∧
    match NormaliseMAC userName with
    | none => dir.idOf userName = some id
    | some mac =>
      if d.mabDB then
        id ≠ 0 ∧ (dir.AuthorizeMAC mac (d.nasID remoteAddr) now).map (·.id) = some id
      else d.grantUsageDB = false ∧ dir.idOf userName = some id

section
variable {d : Daemon} {e : NetEnv} {dir : Directory} {s : Network} {r : AcctRequest} {id : ℤ}

theorem byName_up (hup : ∀ op, e.fails op = false) (username : String) :
    byName e dir username = dir.GetSubscriberByUsername username :=
  if_neg (by rw [hup]; exact Bool.false_ne_true)

theorem macLookup_up (hup : ∀ op, e.fails op = false) (mac remoteAddr : String) :
    d.macLookup e dir mac remoteAddr = .ok (dir.AuthorizeMAC mac (d.nasID remoteAddr) e.now) :=
  if_neg (by rw [hup]; exact Bool.false_ne_true)

/-- With the database at hand, a record goes to whom the User-Name stands for. -/
theorem accountsTo_iff (hup : ∀ op, e.fails op = false) :
    (¬ d.Metered e dir r ∧ ∃ x ∈ d.resolved e dir r, x.id = id) ↔
      d.AccountsTo e.now dir r.userName r.remoteAddr id := by
  unfold AccountsTo Metered resolved
  by_cases hempty : r.userName = ""
  · simp [hempty]
  simp only [hempty, ne_eq, not_false_eq_true, true_and, if_false]
  cases NormaliseMAC r.userName with
  | none => simp [byName_up hup, idOf]
  | some mac =>
    by_cases hdb : d.mabDB = true
    · -- metering and attribution make the same lookup, and split on the same answer
      simp only [hdb, if_true, mem_def, some.injEq, exists_eq_left', forall_true_left,
        macLookup_up hup, Except.ok.injEq]
      cases dir.AuthorizeMAC mac (d.nasID r.remoteAddr) e.now with
      | none => simp
      | some x =>
        by_cases hx : x.id = 0
        · refine iff_of_false (fun h => by simp [hx] at h) ?_
          rintro ⟨hid, h⟩
          exact hid ((some.inj h).symm.trans hx)
        · simp only [some.injEq, forall_eq', hx, and_false, not_false_eq_true, if_false,
            exists_eq_left', true_and, map_some]
          exact ⟨fun h => ⟨h ▸ hx, h⟩, fun h => h.2⟩
    · simp [hdb, byName_up hup, idOf]

/-- Whom a record goes to has a row. -/
theorem accountsTo_row (h : d.AccountsTo e.now dir r.userName r.remoteAddr id) :
    id ∈ dir.subscribers := by
  have hname : dir.idOf r.userName = some id → id ∈ dir.subscribers := by
    intro h
    obtain ⟨row, hrow, -⟩ := dir.idOf_row h
    exact AList.lookup_isSome.mp (by rw [hrow]; rfl)
  obtain ⟨-, h⟩ := h
  split at h
  · exact hname h
  split at h
  · obtain ⟨hid, h⟩ := h
    obtain ⟨x, hx, rfl⟩ := map_eq_some_iff.mp h
    obtain ⟨row, hrow, -⟩ := (dir.holds_mac hx).resolve_right fun h => hid h.1
    exact AList.lookup_isSome.mp (by rw [hrow]; rfl)
  · exact hname h.2

/-- A Start that can be recorded opens the session of whom its User-Name stands for, and of nobody
    else. -/
theorem Recordable.records_iff (h : d.Recordable e s r) :
    d.Records e s r id ↔ d.AccountsTo e.now s.directory r.userName r.remoteAddr id := by
  have hhandled := d.handleAccounting_handled e r s
  have hcarries : r.CarriesSession :=
    ⟨by rw [h.start]; exact nofun, by rw [h.start]; exact nofun, h.named⟩
  -- no row is open under the id unless the record adds one
  have hold : ∀ {row}, row ∈ s.sessions → row.OpenAs r.sessionID → False :=
    fun hrow hopen => h.closed ⟨_, hrow, hopen⟩
  rw [← accountsTo_iff h.up]
  by_cases hmetered : d.Metered e s.directory r
  · have hsame := hhandled.untouched fun _ _ hreaches => hreaches.2 hmetered
    refine iff_of_false ?_ fun h => h.1 hmetered
    rintro ⟨row, hrow, hopen, -⟩
    rw [hsame] at hrow
    exact hold hrow hopen
  have hchange := hhandled.recorded hcarries h.fresh ⟨h.store, hmetered⟩
  rw [Records, hchange, change, h.start]
  cases hres : d.resolved e s.directory r with
  | none =>
    refine iff_of_false ?_ fun h => by simp at h
    rintro ⟨row, hrow, hopen, -⟩
    exact hold hrow hopen
  | some x =>
    have hrow : x.id ∈ s.directory.subscribers :=
      accountsTo_row ((accountsTo_iff h.up).mp ⟨hmetered, x, hres, rfl⟩)
    have hopens : ¬ (r.accountingNASIP = "" ∨ (∃ row ∈ s.sessions, row.OpenAs r.sessionID) ∨
        255 < r.sessionID.length ∨ x.id ∉ s.directory.subscribers) := by
      rintro (hnas | hopen | hlong | habsent)
      · exact h.nas hnas
      · exact h.closed hopen
      · exact absurd h.short (Nat.not_le.mpr hlong)
      · exact habsent hrow
    simp only [h.up, Bool.false_eq_true, if_false, opened, if_neg hopens]
    constructor
    · rintro ⟨row, hmem, hopen, hid⟩
      rcases mem_append.mp hmem with hmem | hmem
      · exact (hold hmem hopen).elim
      · cases mem_singleton.mp hmem
        exact ⟨hmetered, x, rfl, hid⟩
    · rintro ⟨-, y, hy, hid⟩
      cases hy
      exact ⟨_, mem_append_right _ (.head _), ⟨rfl, rfl⟩, hid⟩

end

end Daemon

/-! ### A conversation, and the Start after it -/

/-- The tables have the same names that they had in the history: nobody has been renamed or removed. -/
def Unrenamed (h : List AuthEvent) (dir : Directory) : Prop :=
  ∀ ev ∈ h, ∀ username, ev.pre.directory.idOf username = dir.idOf username

theorem Stored.idOf {h : List AuthEvent} {u : String} {sub : Subscriber} {dir : Directory}
    (hs : Stored h u sub) (hsame : Unrenamed h dir) : dir.idOf u = some sub.id := by
  obtain ⟨ev, hev, -, hfound⟩ := hs
  rw [← hsame ev hev u, Directory.idOf, hfound]
  rfl

/-- If the step sends an accept through EAP, for the name that was challenged under the State: any
    Start with the same User-Name from the same NAS is recorded for the accepted subscriber exactly
    if the User-Name stands for them. Where nobody has been renamed, no User-Name does so as a name
    but the one that was challenged. -/
def AccountsAccepted (p : AuthPool) (i : ℕ) (_ : AuthEnv) : Prop :=
  ∀ r resp who, Next p i (.write r resp who) → r.eapMessage ≠ [] → resp.code = .accept →
    ∃ u sub challenge, who = some (u, sub) ∧ Issued p.shared.2 r.state u challenge ∧
      ∀ (d : Daemon) (e : NetEnv) (s : Network) (a : AcctRequest), d.Recordable e s a →
        a.userName = r.userName → a.remoteAddr = r.remoteAddr →
        (d.Records e s a sub.id ↔ d.AccountsTo e.now s.directory r.userName r.remoteAddr sub.id) ∧
        (Unrenamed p.shared.2 s.directory →
          (s.directory.idOf r.userName = some sub.id ↔ r.userName = u))

section
variable {K : Crypto} {d : AuthDaemon} {actors : List AuthActor} {p : AuthPool} {i : ℕ}
  {e : AuthEnv}

/-- Whom EAP accepts was in the tables under the name of the conversation. -/
theorem Conversations.acceptedStored (h : Conversations K d actors p) {r : AuthRequest}
    {resp : AuthResponse} {u : String} {sub : Subscriber}
    (hnext : Next p i (.write r resp (some (u, sub)))) (heap : r.eapMessage ≠ [])
    (hcode : resp.code = .accept) : Stored p.shared.2 u sub := by
  obtain ⟨w, k, hi⟩ := hnext
  obtain ⟨r', hactor, rfl, -, -, hanswers⟩ := h.births.working.request hi id
  rw [Answers, hcode] at hanswers
  obtain ⟨_, _, hwho, hlooked, -⟩ := hanswers
  cases hwho
  exact h.sourced.looked hactor (absurd · heap) ⟨_, hi⟩ hlooked

theorem Conversations.accountsAccepted (h : Conversations K d actors p) :
    AccountsAccepted p i e := by
  intro r resp who hnext heap hcode
  obtain ⟨u, sub, challenge, -, rfl, hissued, -⟩ :=
    h.acceptsVerified (e := e) r resp who hnext heap hcode
  refine ⟨u, sub, challenge, rfl, hissued, fun dd e' s a ha hname hnas => ⟨?_, fun hsame => ?_⟩⟩
  · rw [← hname, ← hnas]
    exact ha.records_iff
  · exact idOf_iff ((h.acceptedStored hnext heap hcode).idOf hsame)

end

/-- In every interleaving in which the States are secret, the session after an accept of EAP is
    accounted to the accepted subscriber exactly if the User-Name stands for them. -/
theorem eap_session_accounted_iff (K : Crypto) (d : AuthDaemon) (directory : Directory)
    (persisted : Rows ℤ PersistedVerifier) (actors : List AuthActor) (sched : List (ℕ × AuthEnv))
    (hsecret : Meets (traced (authExec K)) noting Secret
      (authPool K d (.start directory persisted) actors) sched) :
    Meets (traced (authExec K)) noting AccountsAccepted
      (authPool K d (.start directory persisted) actors) sched :=
  meets_inv (I := Conversations K d actors)
    (fun _ _ _ h hs => ⟨h.accountsAccepted, conversations_step h hs⟩) sched _
    (conversations_start directory persisted) hsecret

/-- The network with the subscriber in service, and no session yet. -/
def annNetwork : Network := ⟨annIs .active, ∅, [], .empty⟩

/-- The Start of a first session under the User-Name. -/
def firstStart (userName : String) : AcctRequest := .of .start userName "10.0.0.1" "a1" 0 0

theorem firstStart_recordable (userName : String) :
    fullDaemon.Recordable (.at 3) annNetwork (firstStart userName) where
  start := rfl
  store := rfl
  up _ := rfl
  named := show "a1" ≠ "" by decide
  short := show "a1".length ≤ 255 by decide
  nas := show (firstStart "").accountingNASIP ≠ "" by decide +kernel
  fresh h := by
    obtain ⟨x, hx, -⟩ := h
    cases hx
  closed h := by
    obtain ⟨row, hrow, -⟩ := h
    cases hrow

/-- The conversation under the plain name, and its session. -/
theorem ann_session_accounted :
    (∃ resp, Next (annRun annActors annConverses) 2 (.write annAcknowledges resp annFound) ∧
      resp.code = .accept) ∧
    fullDaemon.Records (.at 3) annNetwork (firstStart "ann") 1 := by
  have hsecret : Meets (traced (authExec .plain)) noting Secret (annPool annActors)
      (annConverses ++ [(2, .at 2)]) := by decide +kernel
  have haccept : acceptNext (annRun annActors annConverses) 2 =
      some (annAcknowledges, annFound) := by
    decide +kernel
  obtain ⟨resp, hnext, hcode⟩ := acceptNext_some haccept
  have hmeets := eap_session_accounted_iff .plain plainDaemon (annIs .active) ∅ annActors _ hsecret
  obtain ⟨u, sub, challenge, hwho, -, hstart⟩ :=
    (meets_append.mp hmeets).2.1 annAcknowledges resp _ hnext (by decide) hcode
  have hone : sub.id = 1 := by
    have hfound : annFound.map (·.2.id) = some 1 := by decide +kernel
    rw [hwho] at hfound
    exact some.inj hfound
  have hmac : NormaliseMAC "ann" = none := by decide +kernel
  have haccounts : fullDaemon.AccountsTo 3 (annIs .active) "ann" "10.0.0.1" 1 := by
    refine ⟨by decide, ?_⟩
    rw [hmac]
    decide +kernel
  refine ⟨⟨resp, hnext, hcode⟩, hone ▸ ?_⟩
  exact (hstart fullDaemon (.at 3) annNetwork (firstStart "ann")
    (firstStart_recordable _) rfl rfl).1.mpr
    (hone.symm ▸ haccounts)

/-- The same packets from a supplicant that puts its domain before the name. -/
def inDomain (r : AuthRequest) : AuthRequest :=
  ⟨{ r.toAccessRequest with userName := "CORP\\ann" }, r.state⟩

/-- The subscriber is accepted, and the session has no record; under the plain name it would have
    had one. -/
theorem domain_session_not_accounted :
    let p := annRun [.request (inDomain annOpens), .request (inDomain annResponds),
      .request (inDomain annAcknowledges)] annConverses
    acceptNext p 2 = some (inDomain annAcknowledges, annFound) ∧ annFound.map (·.2.id) = some 1 ∧
    ¬ fullDaemon.Records (.at 3) annNetwork (firstStart "CORP\\ann") 1 ∧
    (Prog.run netExec (.at 3) (fullDaemon.handleAccounting (firstStart "CORP\\ann"))
      annNetwork).2.sessions =
      [] ∧
    fullDaemon.Records (.at 3) annNetwork (firstStart "ann") 1 := by
  decide +kernel

end IspBss.Radius
