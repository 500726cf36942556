import IspBss.Archive.PurgeScanner

/-! Is every document past its retention purged?

    A document that storage cannot delete is due again at each sweep, before all whose retention ended later.

        due, by retain_until   x₁ x₂ … x_limit │ x …
                               └── no delete ──┘ └── never listed -/

namespace IspBss.Archive

open Lib List Option Serial

/-! ### What sweeps change -/

/-- Only rows with an id of `p` have been changed: they have been marked. -/
def Marked (p : ℤ → Prop) (s s' : Archives) : Prop :=
  ∀ id, s'.rows.lookup id = s.rows.lookup id ∨ p id ∧ ∃ r t, s.rows.lookup id = some r ∧ r.purgedAt = none ∧
    s'.rows.lookup id = some { r with purgedAt := some t }

variable {p q : ℤ → Prop} {s s' s'' : Archives} {e : SweepEnv} {b id : ℤ} {r : ArchiveRow} {x : Record}

theorem Marked.trans (h : Marked p s s') (h' : Marked p s' s'') : Marked p s s'' := by
  intro id
  rcases h id with hsame | ⟨hp, r, t, hr, hlive, hmark⟩ <;>
    rcases h' id with hsame' | ⟨hp', r', t', hr', hlive', hmark'⟩
  · exact .inl (hsame'.trans hsame)
  · exact .inr ⟨hp', r', t', hsame ▸ hr', hlive', hmark'⟩
  · exact .inr ⟨hp, r, t, hr, hlive, hsame'.trans hmark⟩
  · cases hmark.symm.trans hr'
    cases hlive'

theorem Marked.mono (h : Marked p s s') (hpq : ∀ id, p id → q id) : Marked q s s' :=
  fun id => (h id).imp_right fun hmark => ⟨hpq id hmark.1, hmark.2⟩

/-- Any row is as it was, or is marked now. -/
theorem Marked.row (h : Marked p s s') (hr : s.rows.lookup id = some r) :
    s'.rows.lookup id = some r ∨ ∃ t, s'.rows.lookup id = some { r with purgedAt := some t } := by
  refine (h id).imp (·.trans hr) ?_
  rintro ⟨-, r', t, hr', -, hmark⟩
  cases hr.symm.trans hr'
  exact ⟨t, hmark⟩

/-- A live row was there before. -/
theorem Marked.live (h : Marked p s s') (hr : s'.rows.lookup id = some r) (hlive : r.purgedAt = none) :
    s.rows.lookup id = some r := by
  rcases h id with hsame | ⟨-, r', t, -, -, hmark⟩
  · exact hsame ▸ hr
  · cases hr.symm.trans hmark
    cases hlive

/-- A marked row stays as it is. -/
theorem Marked.stays (h : Marked p s s') {t : Time} (hr : s.rows.lookup id = some { r with purgedAt := some t }) :
    s'.rows.lookup id = some { r with purgedAt := some t } := by
  rcases h id with hsame | ⟨-, r', u, hr', hlive, -⟩
  · exact hsame.trans hr
  · cases hr.symm.trans hr'
    cases hlive

theorem markPurged_marked (t : Time) (id : ℤ) (s : Archives) : Marked (· = id) s (MarkPurged t id s).2 := by
  intro id'
  unfold MarkPurged
  split
  · exact .inl rfl
  rename_i r hr
  split_ifs with hlive hcheck
  · exact .inl rfl
  · exact .inl rfl
  · by_cases hid : id' = id
    · subst hid
      exact .inr ⟨rfl, r, t, hr, not_not.mp hlive, by simp [lookup_updateWhere, hr]⟩
    · exact .inl (by simp [lookup_updateWhere, hid])

theorem purge_marked (e : SweepEnv) (s : Archives) (x : Record) :
    Marked (fun id => e.deleteFails id = false ∧ id = x.1) s (purge e s x) := by
  unfold purge
  split_ifs with hdelete hmark
  · exact fun _ => .inl rfl
  · exact fun _ => .inl rfl
  · exact (markPurged_marked e.now x.1 _).mono fun id hid => ⟨by simpa [hid] using hdelete, hid⟩

theorem purge_purges (hmarks : e.markFails x.1 = false) (hdelete : e.deleteFails x.1 = false)
    (hr : s.rows.lookup x.1 = some x.2) (hdue : x.2.Due e.now) :
    (purge e s x).rows.lookup x.1 = some { x.2 with purgedAt := some e.now } := by
  obtain ⟨hlive, u, hu, hle⟩ := hdue
  have hcheck : ¬ e.now < u := hle.not_gt
  simp [purge, MarkPurged, hdelete, hmarks, hr, hlive, mem_def.mp hu, hcheck, lookup_updateWhere]

theorem foldl_marked (e : SweepEnv) : ∀ (l : List Record) (s : Archives),
    Marked (fun id => e.deleteFails id = false ∧ ∃ x ∈ l, id = x.1) s (l.foldl (purge e) s)
  | [], _ => fun _ => .inl rfl
  | x :: l, s => ((purge_marked e s x).mono fun _ h => ⟨h.1, x, mem_cons_self, h.2⟩).trans
      ((foldl_marked e l _).mono fun _ ⟨hdelete, y, hy, hid⟩ => ⟨hdelete, y, mem_cons_of_mem x hy, hid⟩)

/-- A listed record that can be deleted is marked when its turn is over. -/
theorem foldl_purges (hmarks : e.markFails x.1 = false) (hdelete : e.deleteFails x.1 = false)
    (hr : s.rows.lookup x.1 = some x.2) (hdue : x.2.Due e.now) {l : List Record} (hx : x ∈ l) :
    ∃ t, (l.foldl (purge e) s).rows.lookup x.1 = some { x.2 with purgedAt := some t } := by
  obtain ⟨l₁, l₂, rfl⟩ := append_of_mem hx
  rw [foldl_append]
  rcases (foldl_marked e l₁ s).row hr with hr | ⟨t, hr⟩
  · exact ⟨e.now, (foldl_marked e l₂ _).stays (purge_purges hmarks hdelete hr hdue)⟩
  · exact ⟨t, (foldl_marked e l₂ _).stays ((purge_marked e _ x).stays hr)⟩

/-! ### Sweep after sweep -/

def sweeps (b : ℤ) (es : ℕ → SweepEnv) (s : Archives) : ℕ → Archives
  | 0 => s
  | n + 1 => PurgeOnce b (es n) (sweeps b es s n)

/-- Nothing fails but the deletes of `stuck`, and what is due is what was at `t`. -/
structure Sweeping (stuck : ℤ → Bool) (s : Archives) (t : Time) (e : SweepEnv) : Prop where
  lists : e.listFails = false
  deletes : e.deleteFails = stuck
  marks : ∀ id, e.markFails id = false
  due : ∀ id r, s.rows.lookup id = some r → (r.Due e.now ↔ r.Due t)
  perm : ∀ l, (e.order l).Perm l
  sorted : ∀ l, (e.order l).Pairwise fun x y => x.2.retainUntil.getD 0 ≤ y.2.retainUntil.getD 0

/-- Due archives that cannot be deleted, with a date no later than that of `r`. -/
def ahead (stuck : ℤ → Bool) (s : Archives) (t : Time) (r : ArchiveRow) : List Record :=
  s.rows.rows.entries.filter fun x =>
    stuck x.1 ∧ x.2.Due t ∧ x.2.retainUntil.getD 0 ≤ r.retainUntil.getD 0

/-- One sweep lists more than are ahead of any archive that can be deleted. -/
def FewAhead (b : ℤ) (stuck : ℤ → Bool) (s : Archives) (t : Time) : Prop :=
  ∀ id r, s.rows.lookup id = some r → r.Due t → stuck id = false → (ahead stuck s t r).length < purgeLimit b

/-- The due archives that can be deleted. -/
def pending (stuck : ℤ → Bool) (t : Time) (s : Archives) : Set ℤ :=
  { id | stuck id = false ∧ ∃ r, s.rows.lookup id = some r ∧ r.Due t }

variable {stuck : ℤ → Bool} {t : Time} {s₀ : Archives}

theorem Sweeping.marked (h : Sweeping stuck s₀ t e) (b : ℤ) (s : Archives) :
    Marked (fun id => stuck id = false ∧ ∃ x ∈ ListDueForPurge e b s, id = x.1) s (PurgeOnce b e s) := by
  rw [PurgeOnce, h.lists, ← h.deletes]
  exact foldl_marked e _ s

theorem sweeps_marked {es : ℕ → SweepEnv} (h : ∀ n, Sweeping stuck s₀ t (es n)) :
    ∀ n, Marked (stuck · = false) s₀ (sweeps b es s₀ n)
  | 0 => fun _ => .inl rfl
  | n + 1 => (sweeps_marked h n).trans (((h n).marked b _).mono fun _ hid => hid.1)

theorem Sweeping.mem_dueRecords (h : Sweeping stuck s₀ t e) (hs : Marked (stuck · = false) s₀ s) :
    x ∈ dueRecords e s ↔ s.rows.lookup x.1 = some x.2 ∧ x.2.Due t := by
  rw [dueRecords, (h.perm _).mem_iff, mem_filter, decide_eq_true_iff, Serial.lookup, ← Option.mem_def,
    AList.mem_lookup_iff]
  refine and_congr_right fun hx => ?_
  have hr := lookup_eq_of_mem hx
  exact ⟨fun hdue => (h.due x.1 x.2 (hs.live hr hdue.1)).mp hdue, fun hdue =>
    (h.due x.1 x.2 (hs.live hr hdue.1)).mpr hdue⟩

theorem Sweeping.nodup (h : Sweeping stuck s₀ t e) (s : Archives) : (dueRecords e s).Nodup :=
  (h.perm _).nodup_iff.mpr (s.rows.rows.nodupKeys.nodup.filter _)

theorem Marked.pending_subset (h : Marked p s s') : pending stuck t s' ⊆ pending stuck t s :=
  fun _ ⟨hfree, r, hr, hdue⟩ => ⟨hfree, r, h.live hr hdue.1, hdue⟩

/-! ### With fewer ahead than are listed, all are purged -/

section
variable (h : Sweeping stuck s₀ t e) (hs : Marked (stuck · = false) s₀ s) (hfew : FewAhead b stuck s₀ t)
  (hne : (pending stuck t s).Nonempty)
include h hs hfew hne

/-- The first that can be deleted is listed. -/
theorem exists_listed : ∃ x ∈ ListDueForPurge e b s, stuck x.1 = false := by
  obtain ⟨id, hfree, r, hr, hdue⟩ := hne
  have hsome : ((dueRecords e s).find? fun x => !stuck x.1).isSome := find?_isSome.mpr
    ⟨⟨id, r⟩, (h.mem_dueRecords hs).mpr ⟨hr, hdue⟩, by simp [hfree]⟩
  obtain ⟨x, hx⟩ := isSome_iff_exists.mp hsome
  obtain ⟨hfree, l₁, l₂, hsplit, hstuck⟩ := find?_eq_some_iff_append.mp hx
  rw [Bool.not_eq_true'] at hfree
  obtain ⟨hr, hdue⟩ := (h.mem_dueRecords hs).mp (mem_of_find?_eq_some hx)
  have hnodup := h.nodup s
  have hsorted := h.sorted (s.rows.rows.entries.filter fun x => x.2.Due e.now)
  rw [← dueRecords, hsplit, pairwise_append] at hsorted
  have hahead : l₁ ⊆ ahead stuck s₀ t x.2 := by
    intro y hy
    obtain ⟨hyr, hydue⟩ := (h.mem_dueRecords hs).mp (hsplit ▸ mem_append_left _ hy)
    refine mem_filter.mpr ⟨AList.mem_lookup_iff.mp (hs.live hyr hydue.1), decide_eq_true ⟨?_, hydue, ?_⟩⟩
    · simpa using hstuck y hy
    · exact hsorted.2.2 y hy x mem_cons_self
  have hlt : l₁.length < purgeLimit b :=
    (subperm_of_subset (hnodup.sublist (hsplit ▸ sublist_append_left l₁ _)) hahead).length_le.trans_lt
      (hfew x.1 x.2 (hs.live hr hdue.1) hdue hfree)
  obtain ⟨k, hk⟩ := Nat.exists_eq_add_of_lt hlt
  refine ⟨x, ?_, hfree⟩
  rw [ListDueForPurge, hsplit, hk, Nat.add_assoc, take_length_add_append]
  exact mem_append_right _ mem_cons_self

theorem pending_lt : (pending stuck t (PurgeOnce b e s)).ncard < (pending stuck t s).ncard := by
  obtain ⟨x, hx, hfree⟩ := exists_listed h hs hfew hne
  obtain ⟨hr, hdue⟩ := (h.mem_dueRecords hs).mp (mem_of_mem_take hx)
  obtain ⟨u, hu⟩ := foldl_purges (h.marks x.1) (h.deletes ▸ hfree) hr
    ((h.due x.1 x.2 (hs.live hr hdue.1)).mpr hdue) hx
  refine Set.ncard_lt_ncard ⟨(h.marked b s).pending_subset, fun hsub => ?_⟩
    ((finite_toSet s.rows.rows.keys).subset ?_)
  · obtain ⟨-, r, hr', hlive, -⟩ := hsub ⟨hfree, x.2, hr, hdue⟩
    simp only [PurgeOnce, h.lists] at hr'
    cases hu.symm.trans hr'
    cases hlive
  · rintro id ⟨-, r, hr, -⟩
    exact AList.lookup_isSome.mp (isSome_iff_exists.mpr ⟨r, hr⟩)

end

theorem pending_sweeps {es : ℕ → SweepEnv} (h : ∀ n, Sweeping stuck s₀ t (es n))
    (hfew : FewAhead b stuck s₀ t) (n : ℕ) :
    pending stuck t (sweeps b es s₀ n) = ∅ ∨
      (pending stuck t (sweeps b es s₀ n)).ncard + n ≤ (pending stuck t s₀).ncard := by
  induction n with
  | zero => exact .inr le_rfl
  | succ n ih =>
    rcases (pending stuck t (sweeps b es s₀ n)).eq_empty_or_nonempty with hempty | hne
    · exact .inl (Set.subset_empty_iff.mp (hempty ▸ ((h n).marked b _).pending_subset))
    · have hlt := pending_lt (h n) (sweeps_marked h n) hfew hne
      have hle := ih.resolve_left hne.ne_empty
      exact .inr (show _ + (n + 1) ≤ _ by unfold sweeps; omega)

/-! ### With too many ahead, one is never listed -/

/-- By date, and of one date those first that cannot be deleted. -/
def rank (stuck : ℤ → Bool) (x : Record) : ℤ ×ₗ Bool := toLex (x.2.retainUntil.getD 0, !stuck x.1)

/-- A sweep that lists in this order. -/
def stuckFirst (stuck : ℤ → Bool) (t : Time) : SweepEnv where
  now := t
  order := insertionSort fun x y => rank stuck x ≤ rank stuck y
  listFails := false
  deleteFails := stuck
  markFails _ := false

theorem stuckFirst_sorted (l : List Record) :
    ((stuckFirst stuck t).order l).Pairwise fun x y => rank stuck x ≤ rank stuck y :=
  have : Std.Total fun x y : Record => rank stuck x ≤ rank stuck y := ⟨fun x y => le_total _ _⟩
  have : IsTrans Record fun x y => rank stuck x ≤ rank stuck y := ⟨fun _ _ _ => le_trans⟩
  pairwise_insertionSort _ l

theorem stuckFirst_sweeping (s : Archives) : Sweeping stuck s t (stuckFirst stuck t) where
  lists := rfl
  deletes := rfl
  marks _ := rfl
  due _ _ _ := .rfl
  perm l := perm_insertionSort _ l
  sorted l := (stuckFirst_sorted l).imp fun h => (Prod.Lex.le_iff.mp h).elim le_of_lt (·.1.le)

theorem stuckFirst_sweeps (hr : s₀.rows.lookup id = some r) (hdue : r.Due t) (hfree : stuck id = false)
    (hmany : purgeLimit b ≤ (ahead stuck s₀ t r).length) :
    ∀ n, (sweeps b (fun _ => stuckFirst stuck t) s₀ n).rows.lookup id = some r
  | 0 => hr
  | n + 1 => by
    have h : Sweeping stuck s₀ t (stuckFirst stuck t) := stuckFirst_sweeping s₀
    have hs := sweeps_marked (b := b) (fun _ => h) n
    have ih := stuckFirst_sweeps hr hdue hfree hmany n
    set s := sweeps b (fun _ => stuckFirst stuck t) s₀ n
    refine (h.marked b s id).elim (·.trans ih) fun hlisted => ?_
    obtain ⟨⟨-, x, hx, rfl⟩, -⟩ := hlisted
    obtain ⟨hr, -⟩ := (h.mem_dueRecords hs).mp (mem_of_mem_take hx)
    cases ih.symm.trans hr
    have hsorted : (dueRecords (stuckFirst stuck t) s).Pairwise _ := stuckFirst_sorted _
    rw [← take_append_drop (purgeLimit b) (dueRecords _ s), pairwise_append] at hsorted
    -- all those ahead are listed with it, which is one too many
    have hlisted : ahead stuck s₀ t x.2 ⊆ ListDueForPurge (stuckFirst stuck t) b s := by
      intro y hy
      obtain ⟨hy, hstuck, hydue, hle⟩ := by simpa [ahead] using hy
      have hyr := (hs y.1).resolve_right fun hmark => by simp [hstuck] at hmark
      have hmem := (h.mem_dueRecords hs).mpr ⟨hyr.trans (lookup_eq_of_mem hy), hydue⟩
      rw [← take_append_drop (purgeLimit b) (dueRecords _ s)] at hmem
      refine (mem_append.mp hmem).resolve_right fun hlater => ?_
      have hrank := Prod.Lex.le_iff.mp (hsorted.2.2 x hx y hlater)
      simp only [rank, ofLex_toLex, hfree, hstuck] at hrank
      rcases hrank with hlt | ⟨-, hlt⟩
      · exact hlt.not_ge hle
      · exact absurd hlt (by decide)
    have hnodup : (x :: ahead stuck s₀ t x.2).Nodup := nodup_cons.mpr
      ⟨fun hmem => by simp [ahead, hfree] at hmem, s₀.rows.rows.nodupKeys.nodup.filter _⟩
    have hlength := (subperm_of_subset hnodup (cons_subset.mpr ⟨hx, hlisted⟩)).length_le
    rw [ListDueForPurge, length_take, length_cons] at hlength
    omega

/-- Every archive that can be deleted is purged in the end exactly if one sweep lists more than are ahead of it. -/
theorem purged_iff (b : ℤ) (stuck : ℤ → Bool) (s : Archives) (t : Time) :
    (∀ es, (∀ n, Sweeping stuck s t (es n)) → ∀ id r, s.rows.lookup id = some r → r.Due t → stuck id = false →
      ∃ n u, (sweeps b es s n).rows.lookup id = some { r with purgedAt := some u }) ↔ FewAhead b stuck s t := by
  constructor
  · intro hpurged id r hr hdue hfree
    by_contra hmany
    obtain ⟨n, u, hu⟩ := hpurged _ (fun _ => stuckFirst_sweeping s) id r hr hdue hfree
    have hsame := (stuckFirst_sweeps hr hdue hfree (not_lt.mp hmany) n).symm.trans hu
    cases hdue.1.symm.trans (congrArg ArchiveRow.purgedAt (some.inj hsame))
  · intro hfew es h id r hr hdue hfree
    set n := (pending stuck t s).ncard + 1 with hn
    refine ⟨n, ((sweeps_marked h n).row hr).resolve_left fun hlive => ?_⟩
    rcases pending_sweeps (b := b) h hfew n with hempty | hle
    · exact (hempty ▸ ⟨hfree, r, hlive, hdue⟩ : id ∈ (∅ : Set ℤ))
    · omega

/-- Two invoices, whose retention has ended on two days. -/
def twoDue : Archives where
  rows := (empty.add ⟨"invoice", 1, "local", "file:///a/1", "c1", 3, 0, some 1, none⟩).add
    ⟨"invoice", 2, "local", "file:///a/2", "c2", 3, 0, some 2, none⟩
  objects := ∅

/-- One at a time, and the first cannot be deleted: the second stays for ever. -/
theorem second_never_purged :
    (∀ _ : ℕ, Sweeping (· = 1) twoDue 5 (stuckFirst (· = 1) 5)) ∧ ∃ r, r.Due 5 ∧
    ∀ n, (sweeps 1 (fun _ => stuckFirst (· = 1) 5) twoDue n).rows.lookup 2 = some r :=
  ⟨fun _ => stuckFirst_sweeping _, ⟨"invoice", 2, "local", "file:///a/2", "c2", 3, 0, some 2, none⟩, by decide,
    stuckFirst_sweeps rfl (by decide) (by decide) (by decide)⟩

end IspBss.Archive
