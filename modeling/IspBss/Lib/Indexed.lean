import Mathlib.Data.List.Nodup
import Mathlib.Tactic

/-! Append-only tables with a partial unique index.

    Rows carry an optional key; rows without a key never collide, and no two rows hold the same key.
    The index is a field of the table, so a table that breaks it cannot be built: `insert` refuses a
    row whose key is taken. -/

namespace Lib

open List

/-- Rows in insertion order, unique on `key` wherever it is present. -/
structure Indexed (α κ : Type) (key : α → Option κ) where
  rows : List α
  unique : (rows.filterMap key).Nodup

namespace Indexed

variable {α κ : Type} {key : α → Option κ}

section
variable {t t' : Indexed α κ key} {r : α} {k : κ}

/-- The table without rows. -/
def empty : Indexed α κ key := ⟨[], by simp⟩

/-- The row that holds the key `k`. -/
def find? [DecidableEq κ] (t : Indexed α κ key) (k : κ) : Option α :=
  t.rows.find? fun r => key r = some k

/-- Whether a row could be inserted: it has no key, or its key is free. -/
def Free (t : Indexed α κ key) (r : α) : Prop := ∀ k ∈ key r, k ∉ t.rows.filterMap key

instance [DecidableEq κ] (t : Indexed α κ key) (r : α) : Decidable (t.Free r) :=
  match h : key r with
  | none => isTrue (by unfold Free; simp [h])
  | some k =>
    if hk : k ∈ t.rows.filterMap key then isFalse (fun hf => hf k (by simp [h]) hk)
    else isTrue (by unfold Free; rw [h]; rintro k' hk'; cases hk'; exact hk)

theorem unique_append (h : t.Free r) : ((t.rows ++ [r]).filterMap key).Nodup := by
  rw [filterMap_append]
  cases hk : key r with
  | none => simpa [hk] using t.unique
  | some k =>
    have hfree : k ∉ t.rows.filterMap key := h k (by simp [hk])
    simp only [filterMap_cons, hk, filterMap_nil]
    refine nodup_append.mpr ⟨t.unique, nodup_singleton k, ?_⟩
    intro a ha b hb hab
    rw [mem_singleton] at hb
    exact hfree (hb ▸ hab ▸ ha)

/-- Append a row, unless its key is taken. -/
def insert [DecidableEq κ] (t : Indexed α κ key) (r : α) : Option (Indexed α κ key) :=
  if h : t.Free r then some ⟨t.rows ++ [r], unique_append h⟩ else none

theorem rows_of_insert [DecidableEq κ] (h : t.insert r = some t') : t'.rows = t.rows ++ [r] := by
  unfold insert at h
  split at h
  · rw [← Option.some.inj h]
  · cases h

/-- A row without a key is never refused. -/
theorem insert_of_keyless [DecidableEq κ] (t : Indexed α κ key) (h : key r = none) :
    ∃ t', t.insert r = some t' := by
  have hfree : t.Free r := by
    unfold Free
    rw [h]
    simp
  exact ⟨_, dif_pos hfree⟩

/-- A row is refused because its key is taken. -/
theorem insert_eq_none [DecidableEq κ] (hk : key r = some k) : t.insert r = none ↔ k ∈ t.rows.filterMap key := by
  have hfree : t.Free r ↔ k ∉ t.rows.filterMap key := by
    unfold Free
    rw [hk]
    simp
  unfold insert
  split
  · rename_i h
    exact iff_of_false (by simp) (hfree.mp h)
  · rename_i h
    exact iff_of_true rfl (not_not.mp fun hn => h (hfree.mpr hn))

/-- A key is held by at most one row. -/
theorem filter_eq_singleton [DecidableEq κ] (hr : r ∈ t.rows)
    (hk : key r = some k) : (t.rows.filter fun x => key x = some k) = [r] := by
  have hcount : (t.rows.filter fun x => key x = some k).length ≤ 1 := by
    have h := nodup_iff_count_le_one.mp t.unique k
    rw [count_filterMap] at h
    rw [← countP_eq_length_filter]
    exact (countP_congr fun x _ => by simp).trans_le h
  have hmem : r ∈ t.rows.filter fun x => key x = some k := mem_filter.mpr ⟨hr, by simpa using hk⟩
  obtain ⟨x, hx⟩ := length_eq_one_iff.mp (le_antisymm hcount (length_pos_of_mem hmem))
  rw [hx, mem_singleton] at hmem
  rw [hx, hmem]

theorem find?_some [DecidableEq κ] (h : t.find? k = some r) : r ∈ t.rows ∧ key r = some k :=
  ⟨mem_of_find?_eq_some h, by simpa using List.find?_some h⟩

/-- The key of an appended row was free before. -/
theorem find?_none_of_append [DecidableEq κ] {xs : List α}
    (h : t'.rows = t.rows ++ xs) (hr : r ∈ xs) (hk : key r = some k) : t.find? k = none := by
  have hnodup := t'.unique
  rw [h, filterMap_append, nodup_append] at hnodup
  refine List.find?_eq_none.mpr fun x hx hxk => ?_
  have hold : k ∈ t.rows.filterMap key := mem_filterMap.mpr ⟨x, hx, by simpa using hxk⟩
  exact hnodup.2.2 k hold k (mem_filterMap.mpr ⟨r, hr, hk⟩) rfl

theorem find?_ne_none [DecidableEq κ] (h : t.find? k ≠ none) : ∃ r ∈ t.rows, key r = some k := by
  obtain ⟨r, hr⟩ := Option.ne_none_iff_exists'.mp h
  exact ⟨r, find?_some hr⟩

end

/-! ### One table backed by another -/

section
variable {β : Type} {key' : β → Option κ} {p : α → Bool} {q : β → Bool} {f : α → ℤ} {g : β → ℤ}

theorem sum_le_sum_of_backed (as : List α) : ∀ {bs : List β}, (as.filterMap key).Nodup →
    (∀ b ∈ bs, 0 ≤ g b) →
    (∀ a ∈ as, p a → ∃ k b, key a = some k ∧ b ∈ bs ∧ key' b = some k ∧ q b ∧ g b = f a) →
    ((as.filter p).map f).sum ≤ ((bs.filter q).map g).sum := by
  induction as with
  | nil =>
    intro bs _ hpos _
    refine sum_nonneg fun x hx => ?_
    obtain ⟨b, hb, rfl⟩ := mem_map.mp hx
    exact hpos b (mem_of_mem_filter hb)
  | cons a as ih =>
    intro bs hnodup hpos hback
    by_cases hp : p a = true
    · obtain ⟨k, b, hk, hb, hkb, hq, hg⟩ := hback a mem_cons_self hp
      rw [filterMap_cons_some hk, nodup_cons] at hnodup
      -- the row that backs `a` backs no other: set it aside
      obtain ⟨before, after, rfl⟩ := append_of_mem hb
      have hrest := @ih (before ++ after) hnodup.2 ?_ ?_
      · simp only [filter_cons_of_pos hp, map_cons, sum_cons, filter_append,
          filter_cons_of_pos hq, map_append, sum_append] at hrest ⊢
        omega
      · intro x hx
        exact hpos x (by rw [mem_append] at hx ⊢; exact hx.imp id (mem_cons_of_mem b))
      · intro a' ha' hp'
        obtain ⟨k', b', hk', hb', hkb', hq', hg'⟩ := hback a' (mem_cons_of_mem a ha') hp'
        refine ⟨k', b', hk', ?_, hkb', hq', hg'⟩
        have hne : b' ≠ b := by
          rintro rfl
          cases hkb.symm.trans hkb'
          exact hnodup.1 (mem_filterMap.mpr ⟨a', ha', hk'⟩)
        rw [mem_append] at hb' ⊢
        exact hb'.imp id fun h => (mem_cons.mp h).resolve_left hne
    · rw [filter_cons_of_neg hp]
      refine ih ?_ hpos fun a' ha' => hback a' (mem_cons_of_mem a ha')
      exact (List.Sublist.filterMap key (sublist_cons_self a as)).nodup hnodup

/-- If every row of `t` has in `u` a row with its key and its figure, the figures of `t` add up to no
    more than those of `u`: two rows of `t` never share one. -/
theorem sum_le_of_backed {t : Indexed α κ key} {u : Indexed β κ key'} (hpos : ∀ b ∈ u.rows, 0 ≤ g b)
    (h : ∀ a ∈ t.rows, p a → ∃ k b, key a = some k ∧ b ∈ u.rows ∧ key' b = some k ∧ q b ∧ g b = f a) :
    ((t.rows.filter p).map f).sum ≤ ((u.rows.filter q).map g).sum :=
  sum_le_sum_of_backed t.rows t.unique hpos h

end

end Indexed

end Lib
