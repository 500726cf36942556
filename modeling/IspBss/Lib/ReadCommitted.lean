import IspBss.Lib.Rows

/-! A table under READ COMMITTED.

    A session sees the committed rows with its own writes on top of them, and nothing of what the others
    have written and not committed. A row that one session has written is locked for the others until
    the end of its transaction.

        committed rows ◀── commit ── session 1: writes …      each sees: committed ⊕ its own
                       ◀── commit ── session 2: writes …

    A rule that spans several rows, such as a cap on the sum of a group, can be checked by a session on
    what it sees. `Capped` says when that is enough: no two sessions have uncommitted rows in one group.
    It is kept by every write that is alone in its group, by a commit and by a rollback. -/

namespace Lib

open List

/-- The committed rows, and what each session has written since. -/
structure Versions (κ α : Type) where
  committed : Rows κ α
  pending : List (List (κ × α))

namespace Versions

variable {κ α : Type} [DecidableEq κ]

/-- The rows with the writes on top. -/
def overlay (t : Rows κ α) (ws : List (κ × α)) : Rows κ α := ws.foldl (fun t w => t.insert w.1 w.2) t

variable (s : Versions κ α) (i : ℕ)

/-- The writes of a session that it has not committed. -/
def writes : List (κ × α) := (s.pending[i]?).getD []

/-- What a session sees. -/
def visible : Rows κ α := overlay s.committed (s.writes i)

/-- Another session has an uncommitted write that satisfies `p`. -/
def othersHave (p : κ → α → Bool) : Bool :=
  (range s.pending.length).any fun j => j ≠ i && (s.writes j).any fun w => p w.1 w.2

/-- The row is locked for the session. -/
def locked (k : κ) : Bool := s.othersHave i fun k' _ => k' = k

def write (k : κ) (a : α) : Versions κ α :=
  { s with pending := s.pending.set i (s.writes i ++ [(k, a)]) }

def rollback : Versions κ α := { s with pending := s.pending.set i [] }

def commit : Versions κ α :=
  { committed := s.visible i, pending := s.pending.set i [] }

/-! ### What the sessions see -/

theorem lookup_overlay_of_notMem {k : κ} (ws : List (κ × α)) : ∀ {t : Rows κ α}, (∀ w ∈ ws, w.1 ≠ k) →
    (overlay t ws).lookup k = t.lookup k := by
  induction ws with
  | nil =>
    intro t _
    rfl
  | cons w ws ih =>
    intro t hk
    have hrest := ih (t := t.insert w.1 w.2) fun w' hw' => hk w' (.tail _ hw')
    exact hrest.trans (AList.lookup_insert_ne (hk w (.head _)).symm)

/-- The last write of a row is what is seen of it, whatever lies below. -/
theorem lookup_overlay_of_mem {k : κ} (ws : List (κ × α)) : (∃ w ∈ ws, w.1 = k) →
    ∃ w ∈ ws, w.1 = k ∧ ∀ t : Rows κ α, (overlay t ws).lookup k = some w.2 := by
  induction ws with
  | nil => rintro ⟨w, hw, -⟩; cases hw
  | cons w ws ih =>
    intro hk
    by_cases hlater : ∃ w' ∈ ws, w'.1 = k
    · obtain ⟨w', hw', hk', hlook⟩ := ih hlater
      exact ⟨w', .tail _ hw', hk', fun t => hlook _⟩
    · obtain ⟨w', hw', hk'⟩ := hk
      rcases mem_cons.mp hw' with rfl | hw'
      · refine ⟨w', .head _, hk', fun t => ?_⟩
        have hrest := lookup_overlay_of_notMem ws (t := t.insert w'.1 w'.2)
          fun w hw h => hlater ⟨w, hw, h⟩
        rw [← hk'] at hrest ⊢
        exact hrest.trans (AList.lookup_insert _)
      · exact absurd ⟨w', hw', hk'⟩ hlater

omit [DecidableEq κ] in
theorem writes_set (s : Versions κ α) (t : Rows κ α) (i j : ℕ) (ws : List (κ × α)) :
    (⟨t, s.pending.set i ws⟩ : Versions κ α).writes j =
      if i = j ∧ i < s.pending.length then ws else s.writes j := by
  simp only [writes, getElem?_set]
  by_cases hij : i = j
  · subst hij
    by_cases hi : i < s.pending.length
    · simp [hi]
    · simp [hi]
  · simp [hij]

omit [DecidableEq κ] in
theorem othersHave_iff {s : Versions κ α} {i : ℕ} {p : κ → α → Bool} :
    s.othersHave i p = true ↔ ∃ j ≠ i, ∃ w ∈ s.writes j, p w.1 w.2 = true := by
  simp only [othersHave, any_eq_true, mem_range, Bool.and_eq_true, decide_eq_true_eq]
  refine ⟨fun ⟨j, _, hj, hw⟩ => ⟨j, hj, hw⟩, fun ⟨j, hj, w, hw, hp⟩ => ⟨j, ?_, hj, w, hw, hp⟩⟩
  by_contra hlen
  simp [writes, getElem?_eq_none (not_lt.mp hlen)] at hw

/-! ### A cap on the sum of a group -/

section
variable {ι : Type} [DecidableEq ι] {group : α → ι} {amount : α → ℤ} {cap : ι → Option ℤ}
variable {ws : List (κ × α)} {v : ι} {s : Versions κ α} {i j : ℕ} {k : κ} {a : α}

/-- The sum of the amounts in a group. -/
def groupSum (group : α → ι) (amount : α → ℤ) (v : ι) (t : Rows κ α) : ℤ :=
  t.total fun a => if group a = v then amount a else 0

/-- The session has an uncommitted row in the group. -/
def Touches (group : α → ι) (s : Versions κ α) (i : ℕ) (v : ι) : Prop := ∃ w ∈ s.writes i, group w.2 = v

/-- Nothing committed exceeds its cap, nor does anything a session sees of a group it has written to,
    and no two sessions write to one group. -/
structure Capped (group : α → ι) (amount : α → ℤ) (cap : ι → Option ℤ) (s : Versions κ α) : Prop where
  committed : ∀ v c, cap v = some c → groupSum group amount v s.committed ≤ c
  seen : ∀ i v c, Touches group s i v → cap v = some c → groupSum group amount v (s.visible i) ≤ c
  alone : ∀ i j v, Touches group s i v → Touches group s j v → i = j

/-- Writes to other groups can only take rows away from this one. -/
theorem figure_overlay_le (hpos : ∀ a, 0 ≤ amount a) (hws : ∀ w ∈ ws, group w.2 ≠ v) (t : Rows κ α) (k : κ) :
    ((overlay t ws).lookup k).elim 0 (fun a => if group a = v then amount a else 0) ≤
      (t.lookup k).elim 0 fun a => if group a = v then amount a else 0 := by
  by_cases hk : ∃ w ∈ ws, w.1 = k
  · obtain ⟨w, hw, -, hlook⟩ := lookup_overlay_of_mem ws hk
    simp only [hlook, Option.elim_some, if_neg (hws w hw)]
    cases t.lookup k with
    | none => exact le_rfl
    | some a =>
      simp only [Option.elim_some]
      split
      · exact hpos a
      · exact le_rfl
  · rw [lookup_overlay_of_notMem ws fun w hw h => hk ⟨w, hw, h⟩]

theorem groupSum_overlay_le (hpos : ∀ a, 0 ≤ amount a) (hws : ∀ w ∈ ws, group w.2 ≠ v) (t : Rows κ α) :
    groupSum group amount v (overlay t ws) ≤ groupSum group amount v t :=
  Rows.total_le_total (figure_overlay_le hpos hws t)

/-- The same seen through another session's writes. -/
theorem groupSum_below_le (hpos : ∀ a, 0 ≤ amount a)
    (hws : ∀ w ∈ ws, group w.2 ≠ v) (t : Rows κ α) (us : List (κ × α)) :
    groupSum group amount v (overlay (overlay t ws) us) ≤ groupSum group amount v (overlay t us) := by
  refine Rows.total_le_total fun k => ?_
  by_cases hu : ∃ w ∈ us, w.1 = k
  · obtain ⟨w, -, -, hlook⟩ := lookup_overlay_of_mem us hu
    rw [hlook, hlook]
  · have hnone : ∀ w ∈ us, w.1 ≠ k := fun w hw h => hu ⟨w, hw, h⟩
    rw [lookup_overlay_of_notMem us hnone, lookup_overlay_of_notMem us hnone]
    exact figure_overlay_le hpos hws t k

/-- What a session sees of any group is within its cap. -/
theorem Capped.visible_le (hpos : ∀ a, 0 ≤ amount a) (h : Capped group amount cap s)
    (i : ℕ) {c : ℤ} (hc : cap v = some c) : groupSum group amount v (s.visible i) ≤ c := by
  by_cases htouch : Touches group s i v
  · exact h.seen i v c htouch hc
  · have hothers : ∀ w ∈ s.writes i, group w.2 ≠ v := fun w hw hv => htouch ⟨w, hw, hv⟩
    exact (groupSum_overlay_le hpos hothers s.committed).trans (h.committed v c hc)

/-- Without open transactions only the committed rows count. -/
theorem capped_of_idle (hidle : ∀ i, s.writes i = [])
    (h : ∀ v c, cap v = some c → groupSum group amount v s.committed ≤ c) : Capped group amount cap s where
  committed := h
  seen i v c := by
    rintro ⟨w, hw, -⟩
    rw [hidle i] at hw
    cases hw
  alone i j v := by
    rintro ⟨w, hw, -⟩
    rw [hidle i] at hw
    cases hw

omit [DecidableEq κ] [DecidableEq ι] in
/-- A session that is done has nothing uncommitted; the others have what they had. -/
theorem touches_set_nil {t : Rows κ α}
    (h : Touches group ⟨t, s.pending.set i []⟩ j v) : i ≠ j ∧ Touches group s j v := by
  obtain ⟨w, hw, hv⟩ := h
  rw [writes_set] at hw
  split at hw
  · cases hw
  · rename_i hne
    refine ⟨?_, w, hw, hv⟩
    rintro rfl
    have hlen : s.pending.length ≤ i := not_lt.mp fun hlt => hne ⟨rfl, hlt⟩
    simp [writes, getElem?_eq_none hlen] at hw

theorem capped_rollback (h : Capped group amount cap s) (i : ℕ) : Capped group amount cap (s.rollback i) where
  committed := h.committed
  seen j v c htouch hc := by
    obtain ⟨hne, htouch⟩ := touches_set_nil htouch
    have hsame : (s.rollback i).visible j = s.visible j := by
      rw [visible, rollback, writes_set, if_neg fun h => hne h.1]
      rfl
    rw [hsame]
    exact h.seen j v c htouch hc
  alone j k v hj hk := h.alone j k v (touches_set_nil hj).2 (touches_set_nil hk).2

/-- A commit makes what one session has seen the base of what the others see. -/
theorem capped_commit (hpos : ∀ a, 0 ≤ amount a) (h : Capped group amount cap s)
    (i : ℕ) : Capped group amount cap (s.commit i) where
  committed v c hc := h.visible_le hpos i hc
  seen j v c htouch hc := by
    obtain ⟨hne, htouch⟩ := touches_set_nil htouch
    have hseen : (s.commit i).visible j = overlay (overlay s.committed (s.writes i)) (s.writes j) := by
      rw [visible, commit, writes_set, if_neg fun h => hne h.1]
      rfl
    -- the session that commits has nothing in this group, because the other one has
    have hothers : ∀ w ∈ s.writes i, group w.2 ≠ v := by
      intro w hw hv
      exact hne (h.alone i j v ⟨w, hw, hv⟩ htouch)
    rw [hseen]
    exact (groupSum_below_le hpos hothers s.committed _).trans (h.seen j v c htouch hc)
  alone j k v hj hk := h.alone j k v (touches_set_nil hj).2 (touches_set_nil hk).2

omit [DecidableEq κ] [DecidableEq ι] in
theorem touches_write (h : Touches group (s.write i k a) j v) : (j = i ∧ v = group a) ∨ Touches group s j v := by
  obtain ⟨w, hw, hv⟩ := h
  rw [write, writes_set] at hw
  split at hw
  · rename_i heq
    rcases mem_append.mp hw with hw | hw
    · exact Or.inr ⟨w, heq.1 ▸ hw, hv⟩
    · rw [mem_singleton.mp hw] at hv
      exact Or.inl ⟨heq.1.symm, hv.symm⟩
  · exact Or.inr ⟨w, hw, hv⟩

/-- A write keeps the cap if the session has checked it on what it sees, and is alone in the group. -/
theorem capped_write (hpos : ∀ a, 0 ≤ amount a) (h : Capped group amount cap s)
    (hcheck : ∀ c, cap (group a) = some c →
      groupSum group amount (group a) ((s.visible i).insert k a) ≤ c)
    (halone : s.othersHave i (fun _ b => group b = group a) = false) : Capped group amount cap (s.write i k a) where
  committed := h.committed
  seen j v c htouch hc := by
    have hvisible : (s.write i k a).visible j = s.visible j ∨
        (j = i ∧ (s.write i k a).visible j = (s.visible i).insert k a) := by
      rw [visible, write, writes_set]
      split
      · rename_i heq
        refine Or.inr ⟨heq.1.symm, ?_⟩
        rw [overlay, foldl_append]
        rfl
      · exact Or.inl rfl
    rcases hvisible with hsame | ⟨rfl, hnew⟩
    · rw [hsame]
      exact h.visible_le hpos j hc
    · rw [hnew]
      by_cases hv : group a = v
      · subst hv
        exact hcheck c hc
      · have hother : ∀ w ∈ [(k, a)], group w.2 ≠ v := by
          intro w hw
          rw [mem_singleton.mp hw]
          exact hv
        exact (groupSum_overlay_le hpos hother (s.visible j)).trans (h.visible_le hpos j hc)
  alone j j' v hj hj' := by
    have hnobody : ∀ m, m ≠ i → ¬ Touches group s m (group a) := by
      rintro m hm ⟨w, hw, hv⟩
      rw [← Bool.not_eq_true, othersHave_iff] at halone
      exact halone ⟨m, hm, w, hw, decide_eq_true hv⟩
    rcases touches_write hj with ⟨rfl, rfl⟩ | htouch
    · rcases touches_write hj' with ⟨rfl, -⟩ | htouch'
      · rfl
      · by_contra hne
        exact hnobody j' (Ne.symm hne) htouch'
    · rcases touches_write hj' with ⟨rfl, rfl⟩ | htouch'
      · by_contra hne
        exact hnobody j hne htouch
      · exact h.alone j j' v htouch htouch'

end

end Versions

end Lib
