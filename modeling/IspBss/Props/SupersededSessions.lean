import IspBss.Radius.Network

/-! Which sessions does the hourly sweep close?

    An Accounting-Stop that never arrives leaves its row open, and the octets of open rows are what
    the quota is measured by. A row is over when its subscriber has started another session on the
    same NAS, at the latest when that one started:

        a    10:00 ──────────────────────────▶ open      closed at 12:00
        b             12:00 ─── 12:30                    left alone
        c                            14:00 ───▶ open     the latest: left alone

    The sweep writes neither subscriber, NAS nor start time, so a second one finds the same
    successors, and none of them for a row that is still open. -/

namespace IspBss.Radius.FUPStore

open List

/-- Sessions of one subscriber on one NAS. -/
def SameLine (a b : SessionRow) : Prop := b.subscriberID = a.subscriberID ∧ b.nasIP = a.nasIP

/-- What is to become of a row: an open one with a later session on its line is closed at the first
    start after its own, and nothing else is written but a cause that it lacks. -/
def Closed (rows : List SessionRow) (a a' : SessionRow) : Prop :=
  (a.IsOpen ∧ (∃ b ∈ rows, Succeeds a b) ∧ ∃ t cause,
      IsLeast { t | ∃ b ∈ rows, Succeeds a b ∧ b.startTime = t } t ∧
      (∀ c ∈ a.terminateCause, cause = c) ∧
      a' = { a with stopTime := some t, terminateCause := some cause }) ∨
    ¬(a.IsOpen ∧ ∃ b ∈ rows, Succeeds a b) ∧ a' = a

/-- What is asked of a sweep that reports `n` rows. -/
structure Sweeps (s s' : Network) (n : ℕ) : Prop where
  rows : Forall₂ (Closed s.sessions) s.sessions s'.sessions
  frame : s' = { s with sessions := s'.sessions }
  count : n = s.sessions.countP fun a => a.IsOpen ∧ ∃ b ∈ s.sessions, Succeeds a b
  again : CloseSupersededSessions s' = (0, s')
  one : s.sessions.Pairwise (fun a b => SameLine a b → a.startTime ≠ b.startTime) →
    s'.sessions.Pairwise fun a b => SameLine a b → ¬(a.IsOpen ∧ b.IsOpen)
  latest : ∀ a ∈ s'.sessions, a.IsOpen → ∀ b ∈ s'.sessions, SameLine a b → b.startTime ≤ a.startTime
  kept : ∀ a ∈ s.sessions, a.IsOpen → (∀ b ∈ s.sessions, SameLine a b → b.startTime ≤ a.startTime) →
    a ∈ s'.sessions

variable {rows : List SessionRow} {a b : SessionRow} {t : Time}

theorem mem_starts : t ∈ (rows.filter (Succeeds a)).map SessionRow.startTime ↔
    ∃ b ∈ rows, Succeeds a b ∧ b.startTime = t := by
  simp only [mem_map, mem_filter, decide_eq_true_eq, and_assoc]

theorem successor_eq_some : successor rows a = some t ↔
    a.IsOpen ∧ IsLeast { t | ∃ b ∈ rows, Succeeds a b ∧ b.startTime = t } t := by
  rw [successor, Option.ite_none_right_eq_some, min?_eq_some_iff]
  refine and_congr_right fun _ => and_congr mem_starts ⟨fun h x hx => ?_, fun h x hx => ?_⟩
  · exact h x (mem_starts.mpr hx)
  · exact h (mem_starts.mp hx)

theorem successor_isSome : (successor rows a).isSome ↔ a.IsOpen ∧ ∃ b ∈ rows, Succeeds a b := by
  rw [successor]
  split
  · rename_i hopen
    simp [hopen, List.min?_eq_none_iff, Option.isSome_iff_ne_none]
  · rename_i hclosed
    simp [hclosed]

theorem no_successor (h : successor rows a = none) : ¬(a.IsOpen ∧ ∃ b ∈ rows, Succeeds a b) := by
  rw [← successor_isSome, h]
  exact Bool.false_ne_true

/-- The sweep leaves what the join goes by. -/
theorem superseded_line (rows : List SessionRow) (a : SessionRow) :
    (superseded rows a).subscriberID = a.subscriberID ∧ (superseded rows a).nasIP = a.nasIP ∧
      (superseded rows a).startTime = a.startTime := by
  rw [superseded]
  split <;> exact ⟨rfl, rfl, rfl⟩

/-- A row that is open after it was open before, and has no successor. -/
theorem superseded_open (h : (superseded rows a).IsOpen) :
    superseded rows a = a ∧ a.IsOpen ∧ ∀ b ∈ rows, ¬Succeeds a b := by
  rw [superseded] at h ⊢
  split at h
  · rename_i hnone
    exact ⟨rfl, h, fun b hb hsucc => no_successor hnone ⟨h, b, hb, hsucc⟩⟩
  · cases h

theorem superseded_closed : Closed rows a (superseded rows a) := by
  rw [superseded]
  split
  · rename_i hnone
    exact .inr ⟨no_successor hnone, rfl⟩
  · rename_i t ht
    obtain ⟨hopen, hleast⟩ := successor_eq_some.mp ht
    obtain ⟨b, hb, hsucc, -⟩ := hleast.1
    refine .inl ⟨hopen, ⟨b, hb, hsucc⟩, t, _, hleast, fun c hc => ?_, rfl⟩
    rw [hc]
    rfl

/-- After a sweep no open row has a successor. -/
theorem successor_superseded :
    successor (rows.map (superseded rows)) (superseded rows a) = none := by
  rw [← Option.not_isSome_iff_eq_none, successor_isSome]
  rintro ⟨hopen, b', hb', hsucc⟩
  obtain ⟨b, hb, rfl⟩ := mem_map.mp hb'
  obtain ⟨hsame, -, hnone⟩ := superseded_open hopen
  obtain ⟨hsub, hnas, hstart⟩ := superseded_line rows b
  rw [hsame, Succeeds, hsub, hnas, hstart] at hsucc
  exact hnone b hb hsucc

theorem close_of_none {s : Network} (h : ∀ a ∈ s.sessions, successor s.sessions a = none) :
    CloseSupersededSessions s = (0, s) := by
  have hcount : s.sessions.countP (fun a => (successor s.sessions a).isSome) = 0 :=
    countP_eq_zero.mpr fun a ha => by simp [h a ha]
  have hrows : s.sessions.map (superseded s.sessions) = s.sessions := by
    refine (map_congr_left fun a ha => ?_).trans (map_id _)
    rw [superseded, h a ha, id]
  rw [CloseSupersededSessions, hcount, hrows]

/-- The sweep closes exactly the open rows with a later session on their line, at the first start
    after their own, and reports how many. A second one changes nothing. At most one row of a line
    is left open if no two start at once, and that is the last. -/
theorem sweeps_superseded (s : Network) :
    Sweeps s (CloseSupersededSessions s).2 (CloseSupersededSessions s).1 where
  rows := forall₂_map_right_iff.mpr (forall₂_same.mpr fun _ _ => superseded_closed)
  frame := rfl
  count := by
    refine countP_congr fun a _ => ?_
    rw [successor_isSome, decide_eq_true_iff]
  again := by
    refine close_of_none fun a ha => ?_
    obtain ⟨a, -, rfl⟩ := mem_map.mp ha
    exact successor_superseded
  one hdistinct := by
    refine pairwise_map.mpr (hdistinct.imp_of_mem ?_)
    rintro a b ha hb hne ⟨hsub, hnas⟩ ⟨hopen, hopen'⟩
    obtain ⟨hsame, -, hlast⟩ := superseded_open hopen
    obtain ⟨hsame', -, hlast'⟩ := superseded_open hopen'
    rw [hsame, hsame'] at hsub hnas
    rcases lt_or_gt_of_ne (hne ⟨hsub, hnas⟩) with hlt | hlt
    · exact hlast b hb ⟨hsub, hnas, hlt⟩
    · exact hlast' a ha ⟨hsub.symm, hnas.symm, hlt⟩
  latest := by
    intro a' ha' hopen b' hb' hline
    obtain ⟨a, ha, rfl⟩ := mem_map.mp ha'
    obtain ⟨b, hb, rfl⟩ := mem_map.mp hb'
    obtain ⟨hsame, -, hlast⟩ := superseded_open hopen
    obtain ⟨hsub, hnas, hstart⟩ := superseded_line s.sessions b
    rw [hsame] at hline ⊢
    rw [SameLine, hsub, hnas] at hline
    rw [hstart]
    exact not_lt.mp fun hlt => hlast b hb ⟨hline.1, hline.2, hlt⟩
  kept := by
    intro a ha hopen hlatest
    refine mem_map.mpr ⟨a, ha, ?_⟩
    have hclosed : Closed s.sessions a (superseded s.sessions a) := superseded_closed
    rcases hclosed with ⟨-, ⟨b, hb, hsucc⟩, -⟩ | ⟨-, hsame⟩
    · exact absurd (hlatest b hb ⟨hsucc.1, hsucc.2.1⟩) (not_le.mpr hsucc.2.2)
    · exact hsame

end IspBss.Radius.FUPStore
