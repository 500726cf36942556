import IspBss.Props.SessionIsolation

/-! Does it matter how often an accounting record is delivered?

    A NAS repeats a record it has seen no answer to, and the network repeats what it likes. A repeat
    that comes within thirty seconds is recognised by its key. One that comes later is executed again,
    and what it does then depends on what has happened since:

        Start   after the Stop           ─▶ opens the session a second time
        Interim after a newer Interim    ─▶ sets the octets back
        Start   while open, Stop, Interim after the Stop, the newest Interim  ─▶ nothing

    The records a session has delivered for the first time determine its row; the rest is showing that
    every other delivery leaves it alone. -/

namespace IspBss.Radius

open Lib Localcache SessionRow List Prod Daemon

/-! ### A session and its deliveries -/

/-- The records of one session, as its NAS emits them. -/
structure Emission where
  sessionID : String
  start : AcctRequest
  interims : List AcctRequest
  stop : AcctRequest
  sessionID_ne : sessionID ≠ ""
  start_type : start.statusType = .start
  interim_type : ∀ r ∈ interims, r.statusType = .interimUpdate
  stop_type : stop.statusType = .stop
  same_session : ∀ r ∈ start :: interims ++ [stop], r.sessionID = sessionID
  nondecreasing : interims.Pairwise fun r r' => r.acctOctets ≤ r'.acctOctets

namespace Emission

def records (em : Emission) : List AcctRequest := em.start :: em.interims ++ [em.stop]

/-- A delivery of one of the records, or somebody else's request. -/
abbrev Item (em : Emission) := Fin em.records.length ⊕ AcctRequest

abbrev Items (em : Emission) := List (NetEnv × em.Item)

variable (em : Emission)

def request : em.Item → AcctRequest
  | .inl k => em.records.get k
  | .inr r => r

def traffic (items : em.Items) : Traffic := items.map fun x => (x.1, em.request x.2)

/-- How many records have been delivered once an item is, if `next` were before it. -/
def advance (next : ℕ) : em.Item → ℕ
  | .inl k => if k.1 = next then next + 1 else next
  | .inr _ => next

/-- Every record is delivered for the first time after the ones before it, and the other requests are of
    other sessions. -/
def InOrder : ℕ → em.Items → Prop
  | _, [] => True
  | next, (_, i) :: rest =>
    (match i with
      | .inl k => k.1 ≤ next
      | .inr r => r.sessionID ≠ em.sessionID) ∧ InOrder (em.advance next i) rest

/-- The same traffic without the redeliveries. -/
def firsts : ℕ → em.Items → em.Items
  | _, [] => []
  | next, (e, .inl k) :: rest =>
    if k.1 = next then (e, .inl k) :: firsts (next + 1) rest else firsts next rest
  | next, (e, .inr r) :: rest => (e, .inr r) :: firsts next rest

/-- The first deliveries, with their times. -/
def progress : ℕ → em.Items → List (Time × AcctRequest)
  | _, [] => []
  | next, (e, .inl k) :: rest =>
    if k.1 = next then (e.now, em.records.get k) :: progress (next + 1) rest else progress next rest
  | next, (_, .inr _) :: rest => progress next rest

/-- The counters of the latest record, and none with only the Start. -/
def latest (P : List (Time × AcctRequest)) : ℤ × ℤ := P.tail.getLast?.elim (0, 0) (·.2.acctOctets)

/-- The first delivery of a record is recorded: no statement fails, the record is not taken for a
    voucher's, and the Start is put down to the subscriber. -/
def RecordedAt (d : Daemon) (dir : Directory) (sub : ℤ) (e : NetEnv) (r : AcctRequest) : Prop :=
  (∀ op, e.fails op = false) ∧ d.Reaches e dir r ∧
    (r.statusType = .start → ∃ x, d.resolved e dir r = some x ∧ x.id = sub)

def Recorded (d : Daemon) (dir : Directory) (sub : ℤ) : ℕ → em.Items → Prop
  | _, [] => True
  | next, (e, i) :: rest =>
    (∀ k, i = .inl k → k.1 = next → RecordedAt d dir sub e (em.records.get k)) ∧
      Recorded d dir sub (em.advance next i) rest

/-- A redelivery that comes within the dedup window, or is a Start of a session that has not stopped, a
    Stop, or an Interim that is the newest or comes after the Stop. -/
def HarmlessAt (m : Store Unit) (next : ℕ) (e : NetEnv) (k : Fin em.records.length) : Prop :=
  m.Live e.now (em.records.get k).dedupKey ∨
    match (em.records.get k).statusType with
    | .start => next < em.records.length
    | .interimUpdate => next = em.records.length ∨
        ∃ r ∈ em.records[next - 1]?, r.acctOctets = (em.records.get k).acctOctets
    | _ => True

/-- Every redelivery is harmless in the state it arrives in. -/
def Harmless (d : Daemon) : Network → ℕ → em.Items → Prop
  | _, _, [] => True
  | s, next, (e, i) :: rest =>
    (∀ k, i = .inl k → k.1 < next → em.HarmlessAt s.acctDedup next e k) ∧
      Harmless d (Prog.run netExec e (d.handleAccounting (em.request i)) s).2 (em.advance next i) rest

/-- Nothing is known of the session yet, and its Start can be stored. -/
structure Fresh (sub : ℤ) (s : Network) : Prop where
  rows : ∀ x ∈ s.sessions, x.sessionID ≠ em.sessionID
  dedup : ∀ r : AcctRequest, r.sessionID = em.sessionID → s.acctDedup.entries.lookup r.dedupKey = none
  nas : em.start.accountingNASIP ≠ ""
  short : em.sessionID.length ≤ 255
  subscriber : sub ∈ s.directory.subscribers

end Emission

/-! ### The row a session ought to have -/

/-- What a record makes of the row of its session. -/
def SessionRow.follow (row : SessionRow) (x : Time × AcctRequest) : SessionRow :=
  match x.2.statusType with
  | .interimUpdate => row.counted x.2.acctOctets.1 x.2.acctOctets.2
  | .stop => row.stopped x.1 x.2.acctOctets.1 x.2.acctOctets.2 x.2.terminateCause
  | _ => row

/-- The rows of a session of which these records have arrived at these times. -/
def sessionRows (sub : ℤ) : List (Time × AcctRequest) → List SessionRow
  | [] => []
  | x :: xs =>
    [xs.foldl SessionRow.follow
      (newSession sub x.2.sessionID x.2.accountingNASIP x.2.framedIP x.2.ipv6Prefix x.1)]

theorem sessionRows_snoc (sub : ℤ) {xs : List (Time × AcctRequest)} (h : xs ≠ []) (x : Time × AcctRequest) :
    sessionRows sub (xs ++ [x]) = (sessionRows sub xs).map fun row => row.follow x := by
  cases xs with
  | nil => exact absurd rfl h
  | cons y ys => simp only [cons_append, sessionRows, foldl_append, foldl_cons,
      foldl_nil, map_cons, map_nil]

/-- The rows kept under a session id. -/
def rowsOf (sessionID : String) (s : Network) : List SessionRow :=
  s.sessions.filter fun x => x.sessionID = sessionID

section
variable {d : Daemon} {e : NetEnv} {dir : Directory} {r : AcctRequest} {row : SessionRow}

theorem counted_self (h : (row.inputOctets, row.outputOctets) = r.acctOctets) :
    row.counted r.acctOctets.1 r.acctOctets.2 = row := by
  rw [← h]
  rfl

theorem updateOpen_open {f : SessionRow → SessionRow} (ho : row.OpenAs r.sessionID) :
    (updateOpen r.sessionID f [row]).2 = [f row] := by
  rw [updateOpen, map_cons, map_nil, if_pos ho]

/-- The record of an open session does to its row what it ought to. -/
theorem change_follow (hf : ∀ op, e.fails op = false) (hstart : r.statusType ≠ .start)
    (ho : row.OpenAs r.sessionID) : d.change e dir r [row] = [row.follow (e.now, r)] := by
  unfold change follow
  cases ht : r.statusType with
  | start => exact absurd ht hstart
  | interimUpdate => simp only [hf, Bool.false_eq_true, if_false, updateOpen_open ho]
  | stop => simp only [hf, Bool.false_eq_true, if_false, updateOpen_open ho]
  | accountingOn => rfl
  | accountingOff => rfl
  | other n => rfl

/-- A Start finds its session open. -/
theorem change_start_open (hstart : r.statusType = .start) (ho : row.OpenAs r.sessionID) :
    d.change e dir r [row] = [row] := by
  unfold change
  rw [hstart]
  dsimp only
  split
  · rfl
  split
  · rfl
  · exact if_pos (.inr (.inl ⟨row, .head _, ho⟩))

/-- Any other record finds it closed. -/
theorem change_closed (hstart : r.statusType ≠ .start) (hclosed : ¬row.IsOpen) :
    d.change e dir r [row] = [row] := by
  have hmiss : ∀ x ∈ [row], ¬x.OpenAs r.sessionID := by
    intro x hx ho
    rw [mem_singleton.mp hx] at ho
    exact hclosed ho.2
  unfold change
  split
  · rename_i ht
    exact absurd ht hstart
  · split
    · rfl
    · exact updateOpen_unmatched hmiss
  · split
    · rfl
    · exact updateOpen_unmatched hmiss
  · rfl

/-- An Interim brings the counters the row has. -/
theorem change_interim_same (hi : r.statusType = .interimUpdate)
    (h : (row.inputOctets, row.outputOctets) = r.acctOctets) : d.change e dir r [row] = [row] := by
  unfold change
  rw [hi]
  dsimp only
  split
  · rfl
  · rw [updateOpen, map_cons, map_nil, counted_self h, ite_self]

end

/-! ### What has been delivered -/

namespace Emission

variable {em : Emission}

section
variable {i j : ℕ} {r r' : AcctRequest} {P : List (Time × AcctRequest)}

theorem records_length (em : Emission) : em.records.length = em.interims.length + 2 := by simp [records]

/-- The Start comes first and the Stop last. -/
theorem type_at (h : em.records[i]? = some r) : r.statusType =
    if i = 0 then .start else if i + 1 < em.records.length then .interimUpdate else .stop := by
  rw [records_length]
  cases i with
  | zero =>
    cases h
    exact em.start_type
  | succ i =>
    rw [records, cons_append, List.getElem?_cons_succ] at h
    rw [if_neg (Nat.succ_ne_zero i)]
    rcases lt_or_ge i em.interims.length with hlt | hge
    · rw [List.getElem?_append_left hlt] at h
      rw [if_pos (by omega)]
      exact em.interim_type r (mem_of_getElem? h)
    · rw [List.getElem?_append_right hge] at h
      rw [if_neg (by omega), mem_singleton.mp (mem_of_getElem? h)]
      exact em.stop_type

theorem carries (h : r ∈ em.records) : r.CarriesSession ∧ r.sessionID = em.sessionID := by
  have hid := em.same_session r h
  obtain ⟨i, hi⟩ := mem_iff_getElem?.mp h
  refine ⟨⟨?_, ?_, by rw [hid]; exact em.sessionID_ne⟩, hid⟩ <;>
    rw [type_at hi] <;> split_ifs <;> exact nofun

/-- The counters of the Interims do not go back. -/
theorem octets_le (hr : em.records[i]? = some r) (hr' : em.records[j]? = some r') (hi : i ≠ 0) (hij : i ≤ j)
    (hj : j + 1 < em.records.length) : r.acctOctets ≤ r'.acctOctets := by
  obtain ⟨i, rfl⟩ := Nat.exists_eq_succ_of_ne_zero hi
  obtain ⟨j, rfl⟩ := Nat.exists_eq_succ_of_ne_zero (by omega : j ≠ 0)
  rw [records_length] at hj
  rw [records, cons_append, List.getElem?_cons_succ, List.getElem?_append_left (by omega)] at hr hr'
  rcases hij.eq_or_lt with heq | hlt
  · cases heq
    cases hr.symm.trans hr'
    exact le_rfl
  · obtain ⟨hi, rfl⟩ := List.getElem?_eq_some_iff.mp hr
    obtain ⟨hj, rfl⟩ := List.getElem?_eq_some_iff.mp hr'
    exact pairwise_iff_getElem.mp em.nondecreasing i j hi hj (by omega)

theorem prefix_snoc {α : Type} {xs ys : List α} {a : α} (h : xs <+: ys) (ha : ys[xs.length]? = some a) :
    xs ++ [a] <+: ys := by
  obtain ⟨rest, rfl⟩ := h
  rw [List.getElem?_append_right le_rfl, Nat.sub_self] at ha
  cases rest with
  | nil => cases ha
  | cons b rest =>
    cases ha
    exact ⟨rest, by rw [append_assoc, singleton_append]⟩

/-- What was delivered is the beginning of the records. -/
theorem delivered_at (hP : P.map snd <+: em.records) (hi : i < P.length) : em.records[i]? = some P[i].2 := by
  rw [prefix_iff_getElem?.mp hP i (by rwa [length_map]), getElem_map]

theorem latest_snoc (hP : P ≠ []) (x : Time × AcctRequest) : latest (P ++ [x]) = x.2.acctOctets := by
  rw [latest, tail_append_of_ne_nil hP, List.getLast?_concat]
  rfl

/-- The row of a session that has begun. -/
structure RowOf (em : Emission) (sub : ℤ) (P : List (Time × AcctRequest)) (row : SessionRow) : Prop where
  rows : sessionRows sub P = [row]
  session : row.sessionID = em.sessionID
  subscriber : row.subscriberID = sub
  octets : (row.inputOctets, row.outputOctets) = latest P
  isOpen : row.IsOpen ↔ P.length < em.records.length

theorem exists_row (hP : P.map snd <+: em.records) (hne : P ≠ []) (sub : ℤ) : ∃ row, RowOf em sub P row := by
  induction P using reverseRecOn with
  | nil => exact absurd rfl hne
  | append_singleton P x ih =>
    have hlen : (P ++ [x]).length = P.length + 1 := by rw [length_append, length_singleton]
    have hx : em.records[P.length]? = some x.2 := by
      rw [delivered_at hP (by omega), getElem_concat_length rfl]
    rcases eq_or_ne P [] with rfl | hbegun
    · obtain ⟨t, r⟩ := x
      cases hx
      exact ⟨_, rfl, em.same_session em.start (.head _), rfl, rfl, iff_of_true rfl (by simp [records_length])⟩
    obtain ⟨row, hrow⟩ := ih ((prefix_append _ _).trans (map_append ▸ hP)) hbegun
    have htype := type_at hx
    rw [if_neg (length_pos_iff.mpr hbegun).ne'] at htype
    refine ⟨row.follow x, by rw [sessionRows_snoc sub hbegun, hrow.rows, map_singleton], ?_, ?_, ?_, ?_⟩
    all_goals
      rw [SessionRow.follow]
      split at htype
      all_goals rename_i hlast; simp only [htype]
    · exact hrow.session
    · exact hrow.session
    · exact hrow.subscriber
    · exact hrow.subscriber
    · exact (latest_snoc hbegun x).symm
    · exact (latest_snoc hbegun x).symm
    · rw [hlen]
      exact iff_of_true (hrow.isOpen.mpr (by omega)) hlast
    · rw [hlen]
      exact iff_of_false (Option.some_ne_none _) hlast

/-- From the first Interim on the row has the counters of the last record. -/
theorem latest_at (hP : P.map snd <+: em.records) (hlen : 1 < P.length) :
    ∃ r, em.records[P.length - 1]? = some r ∧ latest P = r.acctOctets := by
  rcases eq_nil_or_concat P with rfl | ⟨Q, x, rfl⟩
  · cases hlen
  rw [concat_eq_append] at *
  rw [length_append, length_singleton] at hlen ⊢
  have hQ : Q ≠ [] := length_pos_iff.mp (by omega)
  refine ⟨x.2, ?_, latest_snoc hQ x⟩
  rw [Nat.add_sub_cancel, delivered_at hP (by simp), getElem_concat_length rfl]

end

end Emission

/-! ### One delivery -/

section
variable {d : Daemon} {e : NetEnv} {r : AcctRequest} {s s₁ : Network} {sessionID : String}

theorem rowsOf_recorded (h : d.Handled e r s s₁) (hid : r.sessionID = sessionID)
    (hc : r.CarriesSession) (hfree : ¬s.acctDedup.Live e.now r.dedupKey) (hreach : d.Reaches e s.directory r) :
    rowsOf sessionID s₁ = d.change e s.directory r (rowsOf sessionID s) := by
  rw [rowsOf, h.recorded hc hfree hreach]
  exact filter_change_mine (σ := bySession fun x => x = sessionID) (decide_eq_true hid)
    fun x _ ho => decide_eq_true (ho.1.trans hid)

theorem rowsOf_untouched (h : d.Handled e r s s₁)
    (hno : ¬s.acctDedup.Live e.now r.dedupKey → ¬d.Reaches e s.directory r) :
    rowsOf sessionID s₁ = rowsOf sessionID s := by
  rw [rowsOf, h.untouched fun _ hfree => hno hfree, rowsOf]

theorem rowsOf_other (h : d.Handled e r s s₁) (hid : r.sessionID ≠ sessionID) :
    rowsOf sessionID s₁ = rowsOf sessionID s :=
  rows_other (σ := bySession fun x => x = sessionID) h (decide_eq_false hid)
    fun _ _ _ ho => congrArg (fun x => decide (x = sessionID)) ho.1

/-- A record leaves the memory of other sessions as it was. -/
theorem dedup_other (h : d.Handled e r s s₁) {r' : AcctRequest} (hne : r'.dedupKey ≠ r.dedupKey) :
    s₁.acctDedup.entries.lookup r'.dedupKey = s.acctDedup.entries.lookup r'.dedupKey := by
  by_cases hc : r.CarriesSession
  · rw [h.remembered hc, Store.lookup_trySet_ne hne]
  · rw [h.forgotten hc]

end

namespace Emission

/-- The state after these first deliveries, and any others that did no harm. -/
structure Reached (em : Emission) (dir : Directory) (sub : ℤ) (P : List (Time × AcctRequest))
    (s : Network) : Prop where
  directory : s.directory = dir
  inTurn : P.map snd <+: em.records
  rows : rowsOf em.sessionID s = sessionRows sub P
  dedup : ∀ r : AcctRequest, r.sessionID = em.sessionID →
    s.acctDedup.entries.lookup r.dedupKey ≠ none → ∃ x ∈ P, x.2.dedupKey = r.dedupKey

section
variable {em : Emission} {d : Daemon} {dir : Directory} {sub : ℤ} {P : List (Time × AcctRequest)}
  {e : NetEnv} {s s₁ : Network} {r : AcctRequest}
variable {x : Time × AcctRequest} {row : SessionRow} {k : Fin em.records.length}

/-- A request of another session. -/
theorem Reached.other (hs : em.Reached dir sub P s) (h : d.Handled e r s s₁)
    (hid : r.sessionID ≠ em.sessionID) : em.Reached dir sub P s₁ := by
  refine ⟨h.directory.trans hs.directory, hs.inTurn, (rowsOf_other h hid).trans hs.rows, ?_⟩
  intro r' hr' hkey
  have hne : r'.dedupKey ≠ r.dedupKey := fun heq =>
    hid ((AcctRequest.dedupKey_inj heq).1.symm.trans hr')
  rw [dedup_other h hne] at hkey
  exact hs.dedup r' hr' hkey

/-- The keys that are remembered after a record are those of what has been delivered with it. -/
theorem Reached.dedup_step (hs : em.Reached dir sub P s) (h : d.Handled e r s s₁)
    {Q : List (Time × AcctRequest)} (hPQ : ∀ x ∈ P, x ∈ Q) (hr : ∃ x ∈ Q, x.2 = r) (r' : AcctRequest)
    (hr' : r'.sessionID = em.sessionID) (hkey : s₁.acctDedup.entries.lookup r'.dedupKey ≠ none) :
    ∃ x ∈ Q, x.2.dedupKey = r'.dedupKey := by
  by_cases heq : r'.dedupKey = r.dedupKey
  · obtain ⟨x, hx, rfl⟩ := hr
    exact ⟨x, hx, heq.symm⟩
  · rw [dedup_other h heq] at hkey
    obtain ⟨x, hx, hk⟩ := hs.dedup r' hr' hkey
    exact ⟨x, hPQ x hx, hk⟩

/-- A record with the key of one delivered before is an Interim that changes nothing: the counters of that
    one, of the last and of the record are in this order, and the outer two agree. -/
theorem follow_duplicate (hP : P.map snd <+: em.records) (hrow : RowOf em sub P row)
    (hr : em.records[P.length]? = some r) (hx : x ∈ P) (hkey : x.2.dedupKey = r.dedupKey) (t : Time) :
    row.follow (t, r) = row := by
  obtain ⟨-, hlabel, hoct⟩ := AcctRequest.dedupKey_inj hkey
  obtain ⟨i, hi, rfl⟩ := getElem_of_mem hx
  have hxi := delivered_at hP hi
  obtain ⟨hlt, -⟩ := List.getElem?_eq_some_iff.mp hr
  have htype := type_at hr
  rw [if_neg (by omega)] at htype
  rw [type_at hxi, htype, if_pos (by omega : i + 1 < em.records.length)] at hlabel
  split at hlabel
  · split at hlabel <;> exact absurd hlabel (by decide)
  rename_i hi0
  split at hlabel
  · rename_i hinterim
    obtain ⟨y, hy, hlast⟩ := latest_at hP (by omega)
    have hge : P[i].2.acctOctets ≤ y.acctOctets := octets_le hxi hy hi0 (by omega) (by omega)
    have hle : y.acctOctets ≤ r.acctOctets := octets_le hy hr (by omega) (by omega) hinterim
    rw [hoct] at hge
    simp only [follow, htype, if_pos hinterim]
    exact counted_self (hrow.octets.trans (hlast.trans (le_antisymm hle hge)))
  · exact absurd hlabel (by decide)

/-- The Start opens the session. -/
theorem change_start_fresh (hnas : em.start.accountingNASIP ≠ "") (hshort : em.sessionID.length ≤ 255)
    (hsub : sub ∈ dir.subscribers) (hrec : RecordedAt d dir sub e em.start) :
    d.change e dir em.start [] = sessionRows sub [(e.now, em.start)] := by
  obtain ⟨hfails, -, hstart⟩ := hrec
  obtain ⟨x, hx, rfl⟩ := hstart em.start_type
  have hid : em.start.sessionID = em.sessionID := em.same_session em.start (.head _)
  rw [change, em.start_type]
  rw [hx]
  dsimp only
  rw [hfails, if_neg Bool.false_ne_true, opened, if_neg]
  · rfl
  · rw [hid]
    rintro (h | ⟨_, h, _⟩ | h | h)
    · exact hnas h
    · cases h
    · exact absurd hshort (not_le.mpr h)
    · exact h hsub

/-- The first delivery of a record, in its turn. -/
theorem Reached.first (hs : em.Reached dir sub P s) (h : d.Handled e r s s₁)
    (hnas : em.start.accountingNASIP ≠ "") (hshort : em.sessionID.length ≤ 255)
    (hsub : sub ∈ dir.subscribers) (hr : em.records[P.length]? = some r)
    (hrec : RecordedAt d dir sub e r) : em.Reached dir sub (P ++ [(e.now, r)]) s₁ := by
  obtain ⟨hc, hid⟩ := em.carries (mem_of_getElem? hr)
  have hseen : s.acctDedup.Live e.now r.dedupKey → ∃ x ∈ P, x.2.dedupKey = r.dedupKey := by
    rintro ⟨x, hx, -⟩
    exact hs.dedup r hid (by rw [hx]; exact Option.some_ne_none x)
  have hrecorded : ¬s.acctDedup.Live e.now r.dedupKey →
      rowsOf em.sessionID s₁ = d.change e dir r (sessionRows sub P) := by
    intro hfree
    rw [rowsOf_recorded h hid hc hfree (hs.directory ▸ hrec.2.1), hs.directory, hs.rows]
  have hnext : (P ++ [(e.now, r)]).map snd <+: em.records := by
    rw [map_append]
    exact prefix_snoc hs.inTurn (by rw [length_map]; exact hr)
  refine ⟨h.directory.trans hs.directory, hnext, ?_,
    hs.dedup_step h (fun x hx => mem_append_left _ hx)
      ⟨(e.now, r), mem_append_right _ (.head _), rfl⟩⟩
  rcases eq_or_ne P [] with rfl | hbegun
  · cases hr
    have hfree : ¬s.acctDedup.Live e.now em.start.dedupKey := by
      intro hl
      obtain ⟨x, hx, -⟩ := hseen hl
      cases hx
    exact (hrecorded hfree).trans (change_start_fresh hnas hshort hsub hrec)
  obtain ⟨row, hrow⟩ := exists_row hs.inTurn hbegun sub
  rw [sessionRows_snoc sub hbegun, hrow.rows, map_singleton]
  -- two different Interims with the same counters share a key: the second is dropped, and rightly
  by_cases hlive : s.acctDedup.Live e.now r.dedupKey
  · obtain ⟨x, hx, hkey⟩ := hseen hlive
    rw [rowsOf_untouched h fun hf => absurd hlive hf, hs.rows, hrow.rows,
      follow_duplicate hs.inTurn hrow hr hx hkey]
  · rw [hrecorded hlive, hrow.rows]
    refine change_follow hrec.1 ?_ ⟨hrow.session.trans hid.symm, hrow.isOpen.mpr (List.getElem?_eq_some_iff.mp hr).1⟩
    rw [type_at hr, if_neg (length_pos_iff.mpr hbegun).ne']
    split <;> exact nofun

/-- A harmless redelivery does nothing to the rows, even if it is executed. -/
theorem change_harmless (hP : P.map snd <+: em.records) (hk : k.1 < P.length)
    (hfree : ¬s.acctDedup.Live e.now (em.records.get k).dedupKey) (hharm : em.HarmlessAt s.acctDedup P.length e k) :
    d.change e dir (em.records.get k) (sessionRows sub P) = sessionRows sub P := by
  have hid := (em.carries (get_mem em.records k)).2
  have htype := type_at (r := em.records.get k) (List.getElem?_eq_getElem k.2)
  have hharm := hharm.resolve_left hfree
  obtain ⟨row, hrow⟩ := exists_row hP (length_pos_iff.mp (by omega)) sub
  rw [hrow.rows]
  generalize em.records.get k = r at hid htype hharm ⊢
  -- while the session runs only an older Interim can do harm, after its Stop only the Start
  by_cases hopen : P.length < em.records.length
  · rw [if_pos (by omega : k.1 + 1 < em.records.length)] at htype
    split at htype
    · exact change_start_open htype ⟨hrow.session.trans hid.symm, hrow.isOpen.mpr hopen⟩
    · rw [htype] at hharm
      obtain ⟨y, hy, hoct⟩ := hharm.resolve_left hopen.ne
      obtain ⟨y', hy', hlast⟩ := latest_at hP (by omega)
      cases hy'.symm.trans hy
      exact change_interim_same htype (hrow.octets.trans (hlast.trans hoct))
  · refine change_closed (fun hstart => ?_) (fun h => hopen (hrow.isOpen.mp h))
    rw [hstart] at hharm
    exact hopen hharm

/-- A redelivery that does no harm. -/
theorem Reached.again (hs : em.Reached dir sub P s)
    (h : d.Handled e (em.records.get k) s s₁) (hk : k.1 < P.length)
    (hharm : em.HarmlessAt s.acctDedup P.length e k) : em.Reached dir sub P s₁ := by
  refine ⟨h.directory.trans hs.directory, hs.inTurn, ?_, hs.dedup_step h (fun x hx => hx)
    ⟨P[k.1], getElem_mem hk, ?_⟩⟩
  swap
  · exact Option.some.inj ((delivered_at hs.inTurn hk).symm.trans (List.getElem?_eq_getElem k.2))
  obtain ⟨hc, hid⟩ := em.carries (get_mem em.records k)
  by_cases hrec : ¬s.acctDedup.Live e.now (em.records.get k).dedupKey ∧
      d.Reaches e s.directory (em.records.get k)
  · rw [rowsOf_recorded h hid hc hrec.1 hrec.2, hs.rows]
    exact change_harmless hs.inTurn hk hrec.1 hharm
  · rw [rowsOf_untouched h fun hfree hreach => hrec ⟨hfree, hreach⟩, hs.rows]

end

/-! ### Every delivery sequence -/

section
variable {em : Emission} {d : Daemon} {dir : Directory} {sub : ℤ}

/-- The run lemma: the rows are those of the first deliveries. -/
theorem Reached.serve (hnas : em.start.accountingNASIP ≠ "") (hshort : em.sessionID.length ≤ 255)
    (hsub : sub ∈ dir.subscribers) :
    ∀ (items : em.Items) (s : Network) (P : List (Time × AcctRequest)), em.Reached dir sub P s →
      em.InOrder P.length items → em.Recorded d dir sub P.length items →
      em.Harmless d s P.length items →
      em.Reached dir sub (P ++ em.progress P.length items) (d.serve s (em.traffic items))
  | [], s, P, hs, _, _, _ => by
      rw [progress, append_nil]
      exact hs
  | (e, .inr r) :: rest, s, P, hs, hord, hrec, hharm =>
      Reached.serve hnas hshort hsub rest _ P
        (hs.other (handleAccounting_handled d e r s) hord.1) hord.2 hrec.2 hharm.2
  | (e, .inl k) :: rest, s, P, hs, hord, hrec, hharm => by
      have h := handleAccounting_handled d e (em.records.get k) s
      obtain ⟨hle, hord⟩ := hord
      obtain ⟨hrec, hrest⟩ := hrec
      obtain ⟨hharm, hlater⟩ := hharm
      -- the record whose turn it is, or one that has been delivered before
      by_cases hk : k.1 = P.length
      · have hr : em.records[P.length]? = some (em.records.get k) := by
          rw [← hk, get_eq_getElem, List.getElem?_eq_getElem]
        have hs' := hs.first h hnas hshort hsub hr (hrec k rfl hk)
        have hlen : (P ++ [(e.now, em.records.get k)]).length = P.length + 1 := by
          rw [length_append, length_singleton]
        simp only [advance, hk, if_true] at hord hrest hlater
        simp only [progress, hk, if_true]
        rw [append_cons, ← hlen]
        exact Reached.serve hnas hshort hsub rest _ _ hs' (hlen ▸ hord) (hlen ▸ hrest) (hlen ▸ hlater)
      · have hs' := hs.again h (lt_of_le_of_ne hle hk) (hharm k rfl (lt_of_le_of_ne hle hk))
        simp only [advance, hk, if_false] at hord hrest hlater
        simp only [progress, hk, if_false]
        exact Reached.serve hnas hshort hsub rest _ P hs' hord hrest hlater

theorem Fresh.serve {s : Network} {items : em.Items} (hfresh : em.Fresh sub s) (horder : em.InOrder 0 items)
    (hrec : em.Recorded d s.directory sub 0 items) (hharm : em.Harmless d s 0 items) :
    em.Reached s.directory sub (em.progress 0 items) (d.serve s (em.traffic items)) := by
  have hstart : em.Reached s.directory sub [] s := by
    refine ⟨rfl, nil_prefix, filter_eq_nil_iff.mpr fun x hx => by simpa using hfresh.rows x hx, ?_⟩
    exact fun r hr hne => absurd (hfresh.dedup r hr) hne
  exact Reached.serve hfresh.nas hfresh.short hfresh.subscriber items s [] hstart horder hrec hharm

/-- Without the redeliveries there is nothing to be harmless. -/
theorem firsts_spec : ∀ (items : em.Items) (next : ℕ) (s : Network), em.InOrder next items →
      em.Recorded d dir sub next items →
      em.InOrder next (em.firsts next items) ∧ em.Recorded d dir sub next (em.firsts next items) ∧
        em.Harmless d s next (em.firsts next items) ∧
        em.progress next (em.firsts next items) = em.progress next items
  | [], _, _, _, _ => ⟨trivial, trivial, trivial, rfl⟩
  | (e, .inr r) :: rest, next, s, hord, hrec => by
      obtain ⟨h₁, h₂, h₃, h₄⟩ := firsts_spec rest next
        (Prog.run netExec e (d.handleAccounting r) s).2 hord.2 hrec.2
      exact ⟨⟨hord.1, h₁⟩, ⟨hrec.1, h₂⟩, ⟨fun _ hk => (by cases hk), h₃⟩, h₄⟩
  | (e, .inl k) :: rest, next, s, hord, hrec => by
      obtain ⟨hle, hord⟩ := hord
      obtain ⟨hrec, hrest⟩ := hrec
      by_cases hk : k.1 = next
      · simp only [advance, hk, if_true] at hord hrest
        obtain ⟨h₁, h₂, h₃, h₄⟩ := firsts_spec rest (next + 1)
          (Prog.run netExec e (d.handleAccounting (em.records.get k)) s).2 hord hrest
        simp only [firsts, progress, hk, if_true, h₄, and_true]
        have hadv : em.advance next (.inl k) = next + 1 := if_pos hk
        refine ⟨⟨hle, hadv ▸ h₁⟩, ⟨hrec, hadv ▸ h₂⟩, ⟨fun k' hk' hlt => ?_, hadv ▸ h₃⟩⟩
        cases hk'
        exact absurd hk (ne_of_lt hlt)
      · simp only [advance, hk, if_false] at hord hrest
        simp only [firsts, progress, hk, if_false]
        exact firsts_spec rest next s hord hrest

end

end Emission

/-- Any session, any deliveries of its records and any other traffic: if the first delivery of each
    record is recorded, and every redelivery comes within the dedup window or is one of a Start before
    the Stop, of a Stop, of the newest Interim or of an Interim after the Stop, then the rows of the
    session are the same as without the redeliveries: one row, with the latest counters, open until the
    Stop. -/
theorem redelivery_leaves_session_rows (d : Daemon) (em : Emission) (sub : ℤ) (s : Network)
    (items : em.Items) (hfresh : em.Fresh sub s) (horder : em.InOrder 0 items)
    (hrec : em.Recorded d s.directory sub 0 items) (hharm : em.Harmless d s 0 items) :
    rowsOf em.sessionID (d.serve s (em.traffic items)) =
      rowsOf em.sessionID (d.serve s (em.traffic (em.firsts 0 items))) ∧
    (em.progress 0 items = [] → rowsOf em.sessionID (d.serve s (em.traffic items)) = []) ∧
    (em.progress 0 items ≠ [] →
      ∃ row, rowsOf em.sessionID (d.serve s (em.traffic items)) = [row] ∧ row.subscriberID = sub ∧
        (row.inputOctets, row.outputOctets) = Emission.latest (em.progress 0 items) ∧
        (row.IsOpen ↔ (em.progress 0 items).length < em.records.length)) := by
  have hall := hfresh.serve horder hrec hharm
  obtain ⟨h₁, h₂, h₃, h₄⟩ := Emission.firsts_spec items 0 s horder hrec
  have hfirst := hfresh.serve h₁ h₂ h₃
  rw [h₄] at hfirst
  refine ⟨hall.rows.trans hfirst.rows.symm, fun hnil => ?_, fun hne => ?_⟩
  · rw [hall.rows, hnil]
    rfl
  · obtain ⟨row, hrow⟩ := Emission.exists_row hall.inTurn hne sub
    exact ⟨row, hall.rows.trans hrow.rows, hrow.subscriber, hrow.octets, hrow.isOpen⟩

namespace Emission

variable {em : Emission}

instance (m : Store Unit) (next : ℕ) (e : NetEnv) (k : Fin em.records.length) :
    Decidable (em.HarmlessAt m next e k) := by
  unfold HarmlessAt
  cases (em.records.get k).statusType <;> dsimp only <;> infer_instance

instance decidableHarmless (d : Daemon) : ∀ (s : Network) (next : ℕ) (items : em.Items),
    Decidable (em.Harmless d s next items)
  | _, _, [] => isTrue trivial
  | s, next, (e, i) :: rest =>
    have := decidableHarmless d (Prog.run netExec e (d.handleAccounting (em.request i)) s).2
      (em.advance next i) rest
    inferInstanceAs (Decidable ((∀ _, _ → _ → _) ∧ _))

instance decidableInOrder : ∀ (next : ℕ) (items : em.Items), Decidable (em.InOrder next items)
  | _, [] => isTrue trivial
  | next, (_, .inl k) :: rest =>
    have := decidableInOrder (em.advance next (.inl k)) rest
    inferInstanceAs (Decidable (_ ≤ _ ∧ _))
  | next, (_, .inr r) :: rest =>
    have := decidableInOrder (em.advance next (.inr r)) rest
    inferInstanceAs (Decidable (_ ≠ _ ∧ _))

/-- Deliveries at times when nothing fails. -/
def timed (items : List (Time × em.Item)) : em.Items := items.map fun x => (.at x.1, x.2)

/-- A session whose records are recorded whenever they arrive. -/
theorem recorded_timed {d : Daemon} {dir : Directory} {sub : ℤ}
    (h : ∀ t, ∀ r ∈ em.records, RecordedAt d dir sub (.at t) r) :
    ∀ (items : List (Time × em.Item)) (next : ℕ), em.Recorded d dir sub next (timed items)
  | [], _ => trivial
  | x :: rest, _ => ⟨fun k _ _ => h x.1 _ (get_mem em.records k), recorded_timed h rest _⟩

end Emission

/-- Any session of the first of two subscribers is new to them. -/
theorem ann_fresh {em : Emission} (hnas : em.start.accountingNASIP ≠ "")
    (hshort : em.sessionID.length ≤ 255) : em.Fresh 1 twoSubscribers where
  rows _ hx := by cases hx
  dedup _ _ := rfl
  nas := hnas
  short := hshort
  subscriber := by decide +kernel

theorem ann_recorded {em : Emission} (hnames : ∀ r ∈ em.records, r.userName = "ann") (t : Time)
    (r : AcctRequest) (hr : r ∈ em.records) :
    Emission.RecordedAt fullDaemon twoSubscribers.directory 1 (.at t) r := by
  have hmac : NormaliseMAC "ann" = none := by decide +kernel
  have hann : ∃ x ∈ twoSubscribers.directory.GetSubscriberByUsername "ann", x.id = 1 := by
    decide +kernel
  refine ⟨fun _ => rfl, ⟨rfl, fun ⟨_, mac, hm, _⟩ => ?_⟩, fun _ => ?_⟩
  · rw [hnames r hr] at hm
    cases hm
  · unfold resolved
    rw [hnames r hr]
    exact hann

/-- A session of the first subscriber with these counters in its Interims and in its Stop. -/
def annSession (sessionID : String) (counters : List UInt32) (final : UInt32)
    (hid : sessionID ≠ "")
    (hcounters : (counters.map fun n => counter 0 n).Pairwise (· ≤ ·)) : Emission where
  sessionID := sessionID
  start := .of .start "ann" "10.0.0.1" sessionID 0 0
  interims := counters.map fun n => .of .interimUpdate "ann" "10.0.0.1" sessionID n 0
  stop := .of .stop "ann" "10.0.0.1" sessionID final 0
  sessionID_ne := hid
  start_type := rfl
  interim_type := by
    intro r hr
    obtain ⟨n, -, rfl⟩ := List.mem_map.mp hr
    rfl
  stop_type := rfl
  same_session := by
    intro r hr
    simp only [List.cons_append, List.mem_cons, List.mem_append, List.mem_map, List.not_mem_nil,
      or_false] at hr
    rcases hr with rfl | ⟨n, -, rfl⟩ | rfl <;> rfl
  nondecreasing := by
    rw [List.pairwise_map] at hcounters ⊢
    exact hcounters.imp fun h => ⟨h, le_refl _⟩

theorem a1_ne_empty : "a1" ≠ "" := by decide

/-- A session with Interims at 100 and 200 bytes and a Stop at 300. -/
def threeHundred : Emission := annSession "a1" [100, 200] 300 a1_ne_empty (by decide +kernel)

/-- Deliveries of its four records. -/
def deliveries (xs : List (Time × Fin 4)) : threeHundred.Items :=
  Emission.timed (xs.map fun x => (x.1, .inl (x.2.cast rfl)))

/-- The Start is repeated within the window and after it, the newest Interim forty seconds later, and
    an Interim and the Stop long after the Stop. -/
def repeated : List (Time × Fin 4) :=
  [(0, 0), (1000000, 0), (2000000, 1), (40000000, 0), (41000000, 2), (81000000, 2), (90000000, 3),
    (130000000, 1), (131000000, 3)]

theorem repeated_harmless :
    threeHundred.InOrder 0 (deliveries repeated) ∧
    threeHundred.Harmless fullDaemon twoSubscribers 0 (deliveries repeated) ∧
    rowsOf "a1" (fullDaemon.serve twoSubscribers (threeHundred.traffic (deliveries repeated))) =
      rowsOf "a1" (fullDaemon.serve twoSubscribers
        (threeHundred.traffic (threeHundred.firsts 0 (deliveries repeated)))) := by
  have horder : threeHundred.InOrder 0 (deliveries repeated) := by decide +kernel
  have hharm : threeHundred.Harmless fullDaemon twoSubscribers 0 (deliveries repeated) := by
    decide +kernel
  have hnames : ∀ r ∈ threeHundred.records, r.userName = "ann" := by decide +kernel
  exact ⟨horder, hharm, (redelivery_leaves_session_rows _ threeHundred 1 _ _
    (ann_fresh (by decide +kernel) (by decide +kernel)) horder
    (Emission.recorded_timed (ann_recorded hnames) _ 0) hharm).1⟩

/-- Forty seconds after the first Interim its copy sets the octets back from 200 to 100; forty seconds
    after the Stop a copy of the Start opens the session again. -/
theorem late_copies_reopen_and_set_back :
    let rows (xs : List (Time × Fin 4)) :=
      (rowsOf "a1" (fullDaemon.serve twoSubscribers (threeHundred.traffic (deliveries xs)))).map
        fun x => (x.inputOctets, x.stopTime)
    rows [(0, 0), (1000000, 1), (20000000, 2)] = [(200, none)] ∧
    rows [(0, 0), (1000000, 1), (20000000, 2), (41000000, 1)] = [(100, none)] ∧
    rows [(0, 0), (1000000, 1), (20000000, 2), (50000000, 3)] = [(300, some 50000000)] ∧
    rows [(0, 0), (1000000, 1), (20000000, 2), (50000000, 3), (90000000, 0)] =
      [(300, some 50000000), (0, none)] := by
  decide +kernel

end IspBss.Radius
