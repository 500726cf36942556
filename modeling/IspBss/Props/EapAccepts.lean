import IspBss.Props.EapConversations

/-! Is a conversation accepted once, and only when its Success is acknowledged?

    `handleEAP` loads the session, and `eapFinish` deletes it, in two steps; and `eapFinish` is chosen by the
    stage of the session and not by the packet.

        ack A   load ──────────▶ delete ─▶ accept
        ack B         load ──────────────────▶ delete ─▶ accept again

    If no two packets of one State are handled at the same time, the State is accepted once; and it is accepted
    in answer to an acknowledgement only if nothing else is sent while one is awaited. -/

namespace IspBss.Radius

open Lib Pool Localcache

/-! ### Accepts and acknowledgements -/

/-- The State that is accepted through EAP by a call. -/
def acceptedBy : AuthCall → Option String
  | .write r resp _ => if r.eapMessage ≠ [] ∧ resp.code = .accept then some r.state else none
  | _ => none

def Accepted (h : List AuthEvent) (state : String) : Prop := ∃ ev ∈ h, acceptedBy ev.call = some state
  deriving Decidable

/-- The packet has the type MSCHAPv2 and the opcode. -/
def EAPPacket.HasOpcode (pkt : EAPPacket) (opcode : UInt8) : Prop :=
  pkt.typ = EAPTypeMSCHAPv2 ∧ pkt.data.head? = some opcode
  deriving Decidable

/-- The State and the identifier of the Success request that a call sends. -/
def successBy : AuthCall → Option (String × UInt8)
  | .write _ resp _ =>
    match resp.state, (resp.eapMessage.map ParseEAP : Option (Except EapErr EAPPacket)) with
    | some state, some (.ok pkt) =>
      if resp.code = .challenge ∧ pkt.code = EAPCodeRequest ∧ pkt.HasOpcode MSCHAPv2OpSuccess then
        some (state, pkt.identifier)
      else none
    | _, _ => none
  | _ => none

/-- The request is the acknowledgement of the Success request that was sent. -/
def Acknowledges (h : List AuthEvent) (r : AuthRequest) : Prop :=
  ∃ pkt ∈ (ParseEAP r.eapMessage).toOption, pkt.code = EAPCodeResponse ∧ pkt.HasOpcode MSCHAPv2OpSuccess ∧
    ∃ ev ∈ h, successBy ev.call = some (r.state, pkt.identifier)
  deriving Decidable

/-! ### What is asked of the packets -/

/-- A session is loaded only when no other packet with its State is being handled. -/
def OneAtATime (p : AuthPool) (i : ℕ) : Prop :=
  ∀ t ∈ p.threads[i]?, ∀ c ∈ nextCall t.2, ∀ state ∈ loadedBy c,
    ∀ t' ∈ p.threads, t'.1.loaded.map Prod.fst = some state → t'.2.isRet = true
  deriving Decidable

/-- The session that a call reads. -/
def readBy : AuthCall → Option ℕ
  | .readSession ref => some ref
  | _ => none

variable (actors : List AuthActor) (p : AuthPool) (i : ℕ)

/-- A packet whose session awaits an acknowledgement is one. -/
def InTurn : Prop :=
  ∀ t ∈ p.threads[i]?, ∀ c ∈ nextCall t.2, ∀ ref ∈ readBy c, t.1.loaded.isSome = true → t.1.read = none →
    ∀ sess ∈ p.shared.1.sessions[ref]?, sess.stage = .awaitingSuccessAck →
      ∀ r ∈ actors[i]?.bind AuthActor.request?, Acknowledges p.shared.2 r
  deriving Decidable

/-- The condition on a step. -/
def Orderly (e : AuthEnv) : Prop :=
  Distinct p i e ∧ OneAtATime p i ∧ InTurn actors p i
  deriving Decidable

/-! ### The invariant -/

/-- Who has to do with a State. -/
structure Accepting (K : Crypto) (d : AuthDaemon) (actors : List AuthActor) (p : AuthPool) : Prop where
  births : Births K d actors p
  stored {state x} : p.shared.1.eap.entries.lookup (eapSessionKey state) = some x → Minted p.shared.2 state
  loaded {i w state ref} : Told p i w → w.loaded = some (state, ref) → Minted p.shared.2 state
  accepted {state} : Accepted p.shared.2 state → Minted p.shared.2 state
  -- until it is saved for the first time, nobody knows the State
  unsaved {i w state} : Told p i w → w.minted = some state → w.saved = false →
    p.shared.1.eap.entries.lookup (eapSessionKey state) = none ∧
    (∀ j w' ref, Told p j w' → w'.loaded ≠ some (state, ref)) ∧ ¬ Accepted p.shared.2 state
  alone {i j w w' state ref ref'} : Busy p i w → Busy p j w' → w.loaded = some (state, ref) →
    w'.loaded = some (state, ref') → i = j
  deleted {i w state ref} : Busy p i w → w.loaded = some (state, ref) → w.deleted = true →
    p.shared.1.eap.entries.lookup (eapSessionKey state) = none
  done {state} : Accepted p.shared.2 state →
    p.shared.1.eap.entries.lookup (eapSessionKey state) = none ∧
    ∀ i w ref, Busy p i w → w.loaded = some (state, ref) → w.answered = true
  acknowledged {i r w sess} : actors[i]? = some (.request r) → Told p i w → w.read = some sess →
    sess.stage = .awaitingSuccessAck → Acknowledges p.shared.2 r

section
variable {K : Crypto} {d : AuthDaemon} {actors : List AuthActor} {p : AuthPool} {i : ℕ} {e : AuthEnv}
  {w : AuthRecord} {c : AuthCall} {k : authSig.Resp c → AuthProg Unit}
variable {state : String}

theorem Acknowledges.mono {h h' : List AuthEvent} {r : AuthRequest} (ha : Acknowledges h r) :
    Acknowledges (h ++ h') r := by
  obtain ⟨pkt, hpkt, hcode, hop, ev, hev, hsuccess⟩ := ha
  exact ⟨pkt, hpkt, hcode, hop, ev, List.mem_append_left _ hev, hsuccess⟩

/-- What has been accepted, or is accepted now. -/
theorem accepted_append {h : List AuthEvent} {ev : AuthEvent}
    (ha : Accepted (h ++ [ev]) state) : Accepted h state ∨ acceptedBy ev.call = some state := by
  obtain ⟨ev', hev, hstate⟩ := ha
  rcases List.mem_append.mp hev with hev | hev
  · exact .inl ⟨ev', hev, hstate⟩
  · cases List.mem_singleton.mp hev
    exact .inr hstate

/-- A worker that accepts a State has loaded its session, and has deleted it. -/
theorem Working.accepting (h : Working K d actors p) (hi : p.Calling i w c k)
    (hc : acceptedBy c = some state) :
    ∃ r ref sess, actors[i]? = some (.request r) ∧ r.state = state ∧ w.loaded = some (state, ref) ∧
      w.deleted = true ∧ w.answered = false ∧ w.read = some sess ∧ sess.stage = .awaitingSuccessAck ∧
      ∃ resp who, c = .write r resp who := by
  cases c with
  | write r resp who =>
    change (if r.eapMessage ≠ [] ∧ resp.code = .accept then some r.state else none) = _ at hc
    split at hc
    · rename_i hthis
      cases hc
      obtain ⟨r', hactor, rfl, hanswered, -, hanswers⟩ := h.request hi id
      rw [Answers, hthis.2] at hanswers
      obtain ⟨u, sub, -, -, -, haccepts⟩ := hanswers
      cases haccepts with
      | eap _ ref hloaded sess hread hstage _ _ hdeleted =>
        exact ⟨r, ref, sess, hactor, rfl, hloaded, hdeleted, hanswered, hread, hstage, resp, who, rfl⟩
      | mab hplain => exact absurd hplain hthis.1
      | pap hplain => exact absurd hplain hthis.1
    · cases hc
  | _ => cases hc

/-- A State is saved by the worker that has minted it, for the first time, or by one that has verified a
    response under it. -/
theorem Working.saving (h : Working K d actors p) {ref : ℕ}
    {k : authSig.Resp (.saveSession state ref) → AuthProg Unit}
    (hi : p.Calling i w (.saveSession state ref) k) : w.answered = false ∧
    ((w.loaded = none ∧ w.minted = some state ∧ w.saved = false) ∨
      (w.loaded = some (state, ref) ∧ w.deleted = false)) := by
  obtain ⟨r, -, hanswered, ⟨hnone, hminted, -, hsaved⟩ | ⟨hverified, rfl⟩⟩ := h.request hi id
  · exact ⟨hanswered, .inl ⟨hnone, hminted, hsaved⟩⟩
  · obtain ⟨sess, sub, pc, nr, answer, hresp, -⟩ := hverified
    exact ⟨hanswered, .inr ⟨hresp.loaded, hresp.kept⟩⟩

theorem deleted_told (hd : (heard K e p w c).deleted = true) :
    w.deleted = true ∨ ∃ state, c = .deleteSession state := by
  cases c with
  | deleteSession state => exact .inr ⟨state, rfl⟩
  | _ => exact .inl hd

theorem answered_kept (h : w.answered = true) (a : authSig.Resp c) : (noting w c a).answered = true := by
  cases c with
  | write r resp who => rfl
  | _ => exact h

/-- A State that is not saved does not come into the store. -/
theorem absent_step {s : AuthState} (hnone : s.eap.entries.lookup (eapSessionKey state) = none)
    (hsave : ∀ ref, c ≠ .saveSession state ref) :
    (authExec K e c s).2.eap.entries.lookup (eapSessionKey state) = none := by
  refine Option.eq_none_iff_forall_not_mem.mpr fun x hx => ?_
  rcases eap_entry hx with hx | ⟨state', rfl, hkey⟩
  · rw [hnone] at hx
    cases hx
  · cases eapSessionKey_injective hkey
    exact hsave _ rfl

theorem accepting_start (directory : Directory) (persisted : Rows ℤ PersistedVerifier) :
    Accepting K d actors (authPool K d (.start directory persisted) actors) where
  births := births_start _
  stored h := by cases h
  loaded hi hl := by
    rw [told_start hi] at hl
    cases hl
  accepted h := by
    obtain ⟨ev, hev, -⟩ := h
    cases hev
  unsaved hi hm _ := by
    rw [told_start hi] at hm
    cases hm
  alone hi _ hl _ := by
    rw [told_start hi.told] at hl
    cases hl
  deleted hi hl _ := by
    rw [told_start hi.told] at hl
    cases hl
  done h := by
    obtain ⟨ev, hev, -⟩ := h
    cases hev
  acknowledged _ hi hr _ := by
    rw [told_start hi] at hr
    cases hr

section
variable (h : Accepting K d actors p) (hi : p.Calling i w c k)
variable {state : String} {j ref : ℕ} {w' : AuthRecord}

include h hi

theorem Accepting.stored_step {x : Entry ℕ}
    (hx : (authExec K e c p.shared.1).2.eap.entries.lookup (eapSessionKey state) = some x) :
    Minted p.shared.2 state := by
  rcases eap_entry hx with hx | ⟨state', rfl, hkey⟩
  · exact h.stored hx
  · cases eapSessionKey_injective hkey
    rcases (h.births.working.saving hi).2 with ⟨-, hminted, -⟩ | ⟨hloaded, -⟩
    · exact h.births.minted ⟨_, hi⟩ hminted
    · exact h.loaded ⟨_, hi⟩ hloaded

theorem Accepting.loaded_step (hj : Told (stepAuth K p i e) j w')
    (hl : w'.loaded = some (state, ref)) : Minted p.shared.2 state := by
  rcases hj.before hi with ⟨rfl, rfl⟩ | ⟨-, hold⟩
  · rcases loaded_told hl with hl | ⟨rfl, hget⟩
    · exact h.loaded ⟨_, hi⟩ hl
    · obtain ⟨x, hx, -⟩ := Store.get_eq_some.mp hget
      exact h.stored hx
  · exact h.loaded hold hl

/-- Nobody comes to know a State that its own worker has not saved, but by that worker's saving it. -/
theorem Accepting.unknown (hstore : p.shared.1.eap.entries.lookup (eapSessionKey state) = none)
    (hload : ∀ j w' ref, Told p j w' → w'.loaded ≠ some (state, ref)) (haccept : ¬ Accepted p.shared.2 state)
    (hsave : ∀ ref, c = .saveSession state ref → w.minted ≠ some state) :
    (authExec K e c p.shared.1).2.eap.entries.lookup (eapSessionKey state) = none ∧
    (∀ j w' ref, Told (stepAuth K p i e) j w' →
      w'.loaded ≠ some (state, ref)) ∧
    ¬ Accepted (p.shared.2 ++ [eventAt (authExec K) e c p.shared.1]) state := by
  refine ⟨?_, ?_, ?_⟩
  · refine absent_step hstore ?_
    rintro ref rfl
    rcases (h.births.working.saving hi).2 with ⟨-, hminted, -⟩ | ⟨hloaded, -⟩
    · exact hsave _ rfl hminted
    · exact hload _ _ _ ⟨_, hi⟩ hloaded
  · intro j w' ref hj hl
    rcases hj.before hi with ⟨rfl, rfl⟩ | ⟨-, hold⟩
    · rcases loaded_told hl with hl | ⟨rfl, hget⟩
      · exact hload _ _ _ ⟨_, hi⟩ hl
      · obtain ⟨x, hx, -⟩ := Store.get_eq_some.mp hget
        rw [hstore] at hx
        cases hx
    · exact hload _ _ _ hold hl
  · intro ha
    rcases accepted_append ha with ha | ha
    · exact haccept ha
    · obtain ⟨r, ref, -, -, -, hloaded, -⟩ := h.births.working.accepting hi ha
      exact hload _ _ _ ⟨_, hi⟩ hloaded

theorem Accepting.unsaved_step (hdistinct : Distinct p i e)
    (hj : Told (stepAuth K p i e) j w') (hm : w'.minted = some state) (hs : w'.saved = false) :
    (authExec K e c p.shared.1).2.eap.entries.lookup (eapSessionKey state) = none ∧
    (∀ j w' ref, Told (stepAuth K p i e) j w' →
      w'.loaded ≠ some (state, ref)) ∧
    ¬ Accepted (p.shared.2 ++ [eventAt (authExec K) e c p.shared.1]) state := by
  rcases hj.before hi with ⟨rfl, rfl⟩ | ⟨hne, hold⟩
  · rcases hdistinct.minted_told hi hm with hm | ⟨hfresh, -⟩
    · have hsaved : w.saved = false ∧ ∀ ref, c ≠ .saveSession state ref := by
        cases c with
        | saveSession state' ref => cases hs
        | _ => exact ⟨hs, fun _ hc => by cases hc⟩
      obtain ⟨hstore, hload, haccept⟩ := h.unsaved ⟨_, hi⟩ hm hsaved.1
      exact h.unknown hi hstore hload haccept fun ref hc => absurd hc (hsaved.2 ref)
    · have hstore : p.shared.1.eap.entries.lookup (eapSessionKey state) = none :=
        Option.eq_none_iff_forall_not_mem.mpr fun x hx => hfresh (h.stored hx)
      refine h.unknown hi hstore (fun _ _ _ hj hl => hfresh (h.loaded hj hl))
        (fun ha => hfresh (h.accepted ha)) fun _ _ hm => hfresh (h.births.minted ⟨_, hi⟩ hm)
  · obtain ⟨hstore, hload, haccept⟩ := h.unsaved hold hm hs
    exact h.unknown hi hstore hload haccept fun _ _ hm' =>
      hne (h.births.mintedOnce hold ⟨_, hi⟩ hm hm')

theorem Accepting.alone_step (hone : OneAtATime p i) {j' : ℕ} {w'' : AuthRecord}
    {ref' : ℕ} (hj : Busy (stepAuth K p i e) j w')
    (hj' : Busy (stepAuth K p i e) j' w'')
    (hl : w'.loaded = some (state, ref)) (hl' : w''.loaded = some (state, ref')) : j = j' := by
  have hfirst : ∀ {j w' ref}, Busy p j w' → w'.loaded = some (state, ref) → c ≠ .loadSession state := by
    rintro j w' ref ⟨c', k', hj⟩ hl rfl
    have hret := hone _ hi _ rfl _ rfl _ (List.mem_of_getElem? hj) (by rw [hl]; rfl)
    cases hret
  rcases hj.before hi with ⟨rfl, rfl⟩ | ⟨-, hold⟩ <;> rcases hj'.before hi with ⟨rfl, rfl⟩ | ⟨-, hold'⟩
  · rfl
  · rcases loaded_told hl with hl | ⟨hc, -⟩
    · exact h.alone ⟨_, _, hi⟩ hold' hl hl'
    · exact absurd hc (hfirst hold' hl')
  · rcases loaded_told hl' with hl' | ⟨hc, -⟩
    · exact h.alone hold ⟨_, _, hi⟩ hl hl'
    · exact absurd hc (hfirst hold hl)
  · exact h.alone hold hold' hl hl'

theorem Accepting.deleted_step (hj : Busy (stepAuth K p i e) j w') (hl : w'.loaded = some (state, ref))
    (hd : w'.deleted = true) : (authExec K e c p.shared.1).2.eap.entries.lookup (eapSessionKey state) = none := by
  rcases hj.before hi with ⟨rfl, rfl⟩ | ⟨hne, hold⟩
  · rcases deleted_told hd with hgone | ⟨state', rfl⟩
    · rcases loaded_told hl with hloaded | ⟨rfl, -⟩
      · refine absent_step (h.deleted ⟨_, _, hi⟩ hloaded hgone) ?_
        rintro ref' rfl
        rcases (h.births.working.saving hi).2 with ⟨hnone, -⟩ | ⟨-, hkept⟩
        · rw [hloaded] at hnone
          cases hnone
        · rw [hgone] at hkept
          cases hkept
      · obtain ⟨r, -, -, -, -, hkept, -⟩ := h.births.working.request hi id
        rw [hgone] at hkept
        cases hkept
    · obtain ⟨r, -, rfl, ref', hloaded⟩ := h.births.working.request hi id
      rw [show w.loaded = some (state, ref) from hl] at hloaded
      cases hloaded
      exact (Store.lookup_delete _).trans (if_pos rfl)
  · refine absent_step (h.deleted hold hl hd) ?_
    rintro ref' rfl
    rcases (h.births.working.saving hi).2 with ⟨-, hminted, hsaved⟩ | ⟨hloaded, -⟩
    · exact (h.unsaved ⟨_, hi⟩ hminted hsaved).2.1 _ _ _ hold.told hl
    · exact hne (h.alone hold ⟨_, _, hi⟩ hl hloaded)

theorem Accepting.done_step (ha : Accepted (p.shared.2 ++ [eventAt (authExec K) e c p.shared.1]) state) :
    (authExec K e c p.shared.1).2.eap.entries.lookup (eapSessionKey state) = none ∧
    ∀ j w' ref, Busy (stepAuth K p i e) j w' →
      w'.loaded = some (state, ref) → w'.answered = true := by
  rcases accepted_append ha with hdone | ha
  · obtain ⟨hstore, hanswered⟩ := h.done hdone
    constructor
    · refine absent_step hstore ?_
      rintro ref' rfl
      obtain ⟨hopen, ⟨-, hminted, hsaved⟩ | ⟨hloaded, -⟩⟩ := h.births.working.saving hi
      · exact (h.unsaved ⟨_, hi⟩ hminted hsaved).2.2 hdone
      · rw [hanswered _ _ _ ⟨_, _, hi⟩ hloaded] at hopen
        cases hopen
    · intro j w' ref hj hl
      rcases hj.before hi with ⟨rfl, rfl⟩ | ⟨-, hold⟩
      · rcases loaded_told hl with hl | ⟨rfl, hget⟩
        · exact answered_kept (hanswered _ _ _ ⟨_, _, hi⟩ hl) _
        · obtain ⟨x, hx, -⟩ := Store.get_eq_some.mp hget
          rw [hstore] at hx
          cases hx
      · exact hanswered _ _ _ hold hl
  · obtain ⟨r, ref, sess, -, -, hloaded, hdeleted, -, -, -, resp, who, rfl⟩ :=
      h.births.working.accepting hi ha
    refine ⟨h.deleted ⟨_, _, hi⟩ hloaded hdeleted, fun j w' ref' hj hl => ?_⟩
    rcases hj.before hi with ⟨rfl, rfl⟩ | ⟨hne, hold⟩
    · rfl
    · exact absurd (h.alone hold ⟨_, _, hi⟩ hl hloaded) hne

theorem Accepting.acknowledged_step (hturn : InTurn actors p i) {r : AuthRequest}
    {sess : EAPSession} (hactor : actors[j]? = some (.request r))
    (hj : Told (stepAuth K p i e) j w') (hr : w'.read = some sess)
    (hstage : sess.stage = .awaitingSuccessAck) : Acknowledges p.shared.2 r := by
  rcases hj.before hi with ⟨rfl, rfl⟩ | ⟨-, hold⟩
  · rcases read_told hr with hr | ⟨hnone, hloaded, ref, rfl, hsess⟩
    · exact h.acknowledged hactor ⟨_, hi⟩ hr hstage
    · exact hturn _ hi _ rfl _ rfl hloaded hnone _ hsess hstage r (by rw [hactor]; rfl)
  · exact h.acknowledged hactor hold hr hstage

end

theorem accepting_step (h : Accepting K d actors p) (horderly : Orderly actors p i e) :
    Accepting K d actors (stepAuth K p i e) := by
  refine step_ind h fun w c k hi => ?_
  obtain ⟨hdistinct, hone, hturn⟩ := horderly
  have hshared := traced_shared (M := authExec K) (m := noting) (e := e) hi
  constructor
  case births => exact births_step h.births hdistinct
  case stored =>
    intro state x hx
    rw [hshared] at hx ⊢
    exact (h.stored_step hi hx).mono
  case loaded =>
    intro j w' state ref hj hl
    rw [hshared]
    exact (h.loaded_step hi hj hl).mono
  case accepted =>
    intro state ha
    rw [hshared] at ha ⊢
    rcases accepted_append ha with ha | ha
    · exact (h.accepted ha).mono
    · obtain ⟨r, ref, -, -, -, hloaded, -⟩ := h.births.working.accepting hi ha
      exact (h.loaded ⟨_, hi⟩ hloaded).mono
  case unsaved =>
    intro j w' state hj hm hs
    rw [hshared]
    exact h.unsaved_step hi hdistinct hj hm hs
  case alone =>
    intro j j' w' w'' state ref ref' hj hj' hl hl'
    exact h.alone_step hi hone hj hj' hl hl'
  case deleted =>
    intro j w' state ref hj hl hd
    rw [hshared]
    exact h.deleted_step hi hj hl hd
  case done =>
    intro state ha
    rw [hshared] at ha ⊢
    exact h.done_step hi ha
  case acknowledged =>
    intro j r w' sess hactor hj hr hstage
    rw [hshared]
    exact (h.acknowledged_step hi hturn hactor hj hr hstage).mono

/-- If the step accepts a State through EAP, it does so for the first time, and in answer to the
    acknowledgement. -/
def AcceptsOnce (p : AuthPool) (i : ℕ) (_ : AuthEnv) : Prop :=
  ∀ r resp who, Next p i (.write r resp who) → r.eapMessage ≠ [] → resp.code = .accept →
    ¬ Accepted p.shared.2 r.state ∧ Acknowledges p.shared.2 r

theorem Accepting.acceptsOnce (h : Accepting K d actors p) : AcceptsOnce p i e := by
  rintro r resp who ⟨w, k, hi⟩ heap hcode
  have haccepts : acceptedBy (.write r resp who) = some r.state := if_pos ⟨heap, hcode⟩
  obtain ⟨r', ref, sess, hactor, -, hloaded, -, hanswered, hread, hstage, _, _, heq⟩ :=
    h.births.working.accepting hi haccepts
  cases heq
  refine ⟨fun ha => ?_, h.acknowledged hactor ⟨_, hi⟩ hread hstage⟩
  rw [(h.done ha).2 _ _ _ ⟨_, _, hi⟩ hloaded] at hanswered
  cases hanswered

end

/-- Where no two packets of a State are handled at once, and what comes while an acknowledgement is awaited is
    one, no State is accepted twice and none but in answer to the acknowledgement. -/
theorem eap_accepted_once (K : Crypto) (d : AuthDaemon) (directory : Directory)
    (persisted : Rows ℤ PersistedVerifier) (actors : List AuthActor) (sched : List (ℕ × AuthEnv))
    (horderly : Meets (traced (authExec K)) noting (Orderly actors)
      (authPool K d (.start directory persisted) actors) sched) :
    Meets (traced (authExec K)) noting AcceptsOnce
      (authPool K d (.start directory persisted) actors) sched :=
  meets_inv (I := Accepting K d actors)
    (fun _ _ _ h ho => ⟨h.acceptsOnce, accepting_step h ho⟩) sched _
    (accepting_start directory persisted) horderly

/-- One acknowledgement, and then another one. -/
def acknowledgedTwice : List AuthActor := annActors ++ [.request annAcknowledges]

/-- The second comes when the first has been answered. -/
theorem ann_accepted_once :
    let p := annRun acknowledgedTwice annConverses
    (∃ resp, Next p 2 (.write annAcknowledges resp annFound) ∧ resp.code = .accept) ∧
    Meets (traced (authExec .plain)) noting (Orderly acknowledgedTwice) (annPool acknowledgedTwice)
      (annConverses ++ (steps 2 3 2 ++ steps 3 4 3)) ∧
    ¬ Accepted p.shared.2 (hexEncode zeros.1) ∧ Acknowledges p.shared.2 annAcknowledges := by
  intro p
  have horderly : Meets (traced (authExec .plain)) noting (Orderly acknowledgedTwice)
      (annPool acknowledgedTwice) (annConverses ++ (steps 2 3 2 ++ steps 3 4 3)) := by decide +kernel
  have haccept : acceptNext p 2 = some (annAcknowledges, annFound) := by decide +kernel
  obtain ⟨resp, hnext, hcode⟩ := acceptNext_some haccept
  have hmeets := eap_accepted_once .plain plainDaemon (annIs .active) ∅ acknowledgedTwice _ horderly
  have hhere : AcceptsOnce p 2 (.at 2) := (meets_append.mp hmeets).2.1
  exact ⟨⟨resp, hnext, hcode⟩, horderly, hhere annAcknowledges resp _ hnext (by decide) hcode⟩

/-- A Nak where the acknowledgement is awaited. -/
def annNaks : AuthRequest := ⟨⟨"ann", "", [2, 3, 0, 6, 3, 26], "10.0.0.1"⟩, hexEncode zeros.1⟩

/-- The conversation, with a Nak at its end. -/
def nakAtTheEnd : AuthPool := annRun [.request annOpens, .request annResponds, .request annNaks] annConverses

/-- Both acknowledgements have loaded the session before one of them deletes it. -/
def inFlight : AuthPool := annRun acknowledgedTwice
  (steps 0 7 0 ++ steps 1 13 1 ++ steps 2 2 2 ++ steps 3 2 2 ++ steps 2 5 2 ++ steps 3 4 2)

/-- A Nak is accepted; and of two acknowledgements in flight, both are. -/
theorem nak_and_duplicate_accepted :
    (acceptNext nakAtTheEnd 2 = some (annNaks, annFound) ∧ ¬ Acknowledges nakAtTheEnd.shared.2 annNaks) ∧
    (acceptNext inFlight 3 = some (annAcknowledges, annFound) ∧
      Accepted inFlight.shared.2 (hexEncode zeros.1)) := by
  decide +kernel

end IspBss.Radius
