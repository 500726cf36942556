import Mathlib.Data.List.AList
import Mathlib.Data.List.Sort
import Mathlib.Tactic

/-! Tables of rows by key, with the SQL statements that touch many rows.

    `update` is UPDATE: every row is rewritten, by a function that leaves those outside the WHERE
    clause as they are. `delete` is DELETE. Both are described row by row, by what `lookup` finds
    afterwards; no proof above looks at the list of entries.

    The `total` of a figure over all rows follows the statements that write one row.

    A `Serial` table numbers its rows itself. Its sequence never goes back, so the id of a row that was
    deleted is never given to another one.

    The rows of an ORDER BY … LIMIT are those that few others come before. -/

namespace Lib

open List AList

/-- Rows by key. -/
abbrev Rows (κ α : Type) := AList fun _ : κ => α

namespace Rows

variable {κ α : Type}

/-- Rewrite every row. -/
def update (t : Rows κ α) (f : κ → α → α) : Rows κ α where
  entries := t.entries.map fun x => ⟨x.1, f x.1 x.2⟩
  nodupKeys := by
    have hkeys : (t.entries.map fun x => (⟨x.1, f x.1 x.2⟩ : (_ : κ) × α)).keys = t.entries.keys := by
      simp [List.keys, Function.comp_def]
    rw [List.NodupKeys, hkeys]
    exact t.nodupKeys

variable (t : Rows κ α) (p : κ → α → Bool)

/-- Drop the rows that satisfy `p`. -/
def delete : Rows κ α where
  entries := t.entries.filter fun x => !p x.1 x.2
  nodupKeys := List.NodupKeys.sublist List.filter_sublist t.nodupKeys

/-- Rewrite the rows that satisfy `p`. -/
def updateWhere (f : α → α) : Rows κ α :=
  t.update fun k a => if p k a then f a else a

variable [DecidableEq κ]

@[simp] theorem lookup_update (t : Rows κ α) (f : κ → α → α) (k : κ) :
    (t.update f).lookup k = (t.lookup k).map (f k) :=
  dlookup_map₂ k

variable (t : Rows κ α) (p : κ → α → Bool)

theorem lookup_updateWhere (f : α → α) (k : κ) :
    (t.updateWhere p f).lookup k = (t.lookup k).map fun a => if p k a then f a else a :=
  lookup_update t _ k

@[simp] theorem lookup_delete (k : κ) :
    (t.delete p).lookup k = (t.lookup k).filter fun a => !p k a := by
  ext a
  have hmem : a ∈ (t.delete p).lookup k ↔ a ∈ t.lookup k ∧ p k a = false := by
    rw [mem_lookup_iff, mem_lookup_iff]
    simp [delete]
  rw [← Option.mem_def, hmem, Option.filter_eq_some_iff, Option.mem_def, Bool.not_eq_true']

/-! ### Totals -/

section
variable {M : Type} [AddCommMonoid M] {t : Rows κ α} {k : κ}

variable (g : α → M)

/-- The sum of a figure over all rows. -/
def total (t : Rows κ α) : M := (t.entries.map fun x => g x.2).sum

omit [DecidableEq κ] in
@[simp] theorem total_empty : total g (∅ : Rows κ α) = 0 := rfl

theorem total_insert_new (h : k ∉ t) (b : α) : total g (t.insert k b) = g b + total g t := by
  rw [total, AList.entries_insert_of_notMem h, map_cons, sum_cons, total]

/-- Replacing a row exchanges its figure. -/
theorem total_insert_old {a : α} (h : t.lookup k = some a) (b : α) :
    total g (t.insert k b) + g a = g b + total g t := by
  have hk : k ∈ t := AList.lookup_isSome.mp (Option.isSome_iff_exists.mpr ⟨a, h⟩)
  obtain ⟨a', l₁, l₂, -, hl, hk⟩ := exists_of_kerase hk
  have ha : a = a' := by
    have hmem : (⟨k, a'⟩ : (_ : κ) × α) ∈ t.entries := hl ▸ mem_append_right _ (.head _)
    rw [AList.mem_lookup_iff.mpr hmem] at h
    exact (Option.some.inj h).symm
  have hnew : (t.insert k b).entries = ⟨k, b⟩ :: (l₁ ++ l₂) := by rw [AList.entries_insert, hk]
  simp only [total, hnew, hl, ha, map_cons, map_append, sum_cons, sum_append]
  abel

/-- The total key by key, over any set that has all of them. -/
theorem total_eq_sum (t : Rows κ α) {F : Finset κ} (hF : ∀ k ∈ t, k ∈ F) :
    total g t = ∑ k ∈ F, (t.lookup k).elim 0 g := by
  have hkeys : t.entries.map (fun x => g x.2) = t.keys.map fun k => (t.lookup k).elim 0 g := by
    simp only [AList.keys, List.keys, map_map]
    refine map_congr_left fun x hx => ?_
    rw [Function.comp_apply, AList.mem_lookup_iff.mpr hx]
    rfl
  rw [total, hkeys, ← sum_toFinset _ t.keys_nodup]
  refine Finset.sum_subset (fun k hk => hF k (mem_toFinset.mp hk)) fun k _ hk => ?_
  rw [AList.lookup_eq_none.mpr fun hmem => hk (mem_toFinset.mpr hmem)]
  rfl

/-- A row that goes in replaces the one under its key, if there is one. -/
theorem total_insert (t : Rows κ α) (k : κ) (b : α) :
    total g (t.insert k b) = g b + total g (t.delete fun k' _ => k' = k) := by
  have hmem : ∀ k' ∈ t.insert k b, k' ∈ insert k t.keys.toFinset := by
    intro k' hk'
    rcases (mem_insert _).mp hk' with rfl | hk'
    · exact Finset.mem_insert_self _ _
    · exact Finset.mem_insert_of_mem (mem_toFinset.mpr hk')
  have hdel : ∀ k' ∈ t.delete (fun k' _ => k' = k), k' ∈ insert k t.keys.toFinset := by
    intro k' hk'
    have hrow := lookup_isSome.mpr hk'
    rw [lookup_delete] at hrow
    refine Finset.mem_insert_of_mem (mem_toFinset.mpr (AList.lookup_isSome.mp ?_))
    exact Option.isSome_of_isSome_filter _ _ hrow
  have hk := Finset.mem_insert_self k t.keys.toFinset
  rw [total_eq_sum g _ hmem, total_eq_sum g _ hdel, ← Finset.add_sum_erase _ _ hk,
    ← Finset.add_sum_erase _ _ hk, lookup_insert, lookup_delete]
  have hgone : ((t.lookup k).filter fun _ => !decide (k = k)).elim 0 g = 0 := by
    cases t.lookup k <;> simp
  rw [hgone, zero_add]
  refine congrArg _ (Finset.sum_congr rfl fun k' hk' => ?_)
  have hne : k' ≠ k := (Finset.mem_erase.mp hk').1
  rw [lookup_insert_ne hne, lookup_delete]
  cases t.lookup k' <;> simp [hne, Option.filter]

end

/-- A table whose rows have the smaller figures has the smaller total. -/
theorem total_le_total {g : α → ℤ} {t u : Rows κ α}
    (h : ∀ k, (t.lookup k).elim 0 g ≤ (u.lookup k).elim 0 g) : total g t ≤ total g u := by
  have ht : ∀ k ∈ t, k ∈ t.keys.toFinset ∪ u.keys.toFinset := by
    intro k hk
    exact Finset.mem_union_left _ (mem_toFinset.mpr hk)
  have hu : ∀ k ∈ u, k ∈ t.keys.toFinset ∪ u.keys.toFinset := by
    intro k hk
    exact Finset.mem_union_right _ (mem_toFinset.mpr hk)
  rw [total_eq_sum g t ht, total_eq_sum g u hu]
  exact Finset.sum_le_sum fun k _ => h k

end Rows

/-! ### Serial keys -/

/-- Rows under ids from a sequence, which has handed out every id up to `last`. -/
structure Serial (α : Type) where
  rows : Rows ℤ α
  last : ℤ
  issued : ∀ id ∈ rows, id ≤ last

namespace Serial

variable {α : Type} {id : ℤ} {t : Serial α}

/-- No rows; the sequence starts at 1. -/
def empty : Serial α := ⟨∅, 0, fun _ h => absurd h (AList.notMem_empty _)⟩

def lookup (t : Serial α) (id : ℤ) : Option α := t.rows.lookup id

/-- Take an id from the sequence and use it for no row. -/
def skip (t : Serial α) : Serial α :=
  ⟨t.rows, t.last + 1, fun id h => (t.issued id h).trans (Int.le_add_one le_rfl)⟩

/-- Add a row under the next id. -/
def add (t : Serial α) (a : α) : Serial α where
  rows := t.rows.insert (t.last + 1) a
  last := t.last + 1
  issued id h := by
    rcases (mem_insert _).mp h with rfl | h
    · exact le_rfl
    · exact (t.issued id h).trans (Int.le_add_one le_rfl)

/-- Rewrite the rows that satisfy `p`. -/
def updateWhere (t : Serial α) (p : ℤ → α → Bool) (f : α → α) : Serial α where
  rows := t.rows.updateWhere p f
  last := t.last
  issued id h := by
    refine t.issued id (lookup_isSome.mp ?_)
    have hrow := lookup_isSome.mpr h
    rwa [Rows.lookup_updateWhere, Option.isSome_map] at hrow

/-- Drop the rows that satisfy `p`. -/
def deleteWhere (t : Serial α) (p : ℤ → α → Bool) : Serial α where
  rows := t.rows.delete p
  last := t.last
  issued id h := by
    refine t.issued id (lookup_isSome.mp ?_)
    have hrow := lookup_isSome.mpr h
    rw [Rows.lookup_delete] at hrow
    exact Option.isSome_of_isSome_filter _ _ hrow

@[simp] theorem lookup_empty (id : ℤ) : (empty : Serial α).lookup id = none := AList.lookup_empty id

@[simp] theorem lookup_add_self (t : Serial α) (a : α) : (t.add a).lookup (t.last + 1) = some a :=
  lookup_insert _

theorem lookup_add_ne (t : Serial α) (a : α) (h : id ≠ t.last + 1) :
    (t.add a).lookup id = t.lookup id := lookup_insert_ne h

/-- The next id is not in use. -/
@[simp] theorem lookup_next (t : Serial α) : t.lookup (t.last + 1) = none := by
  refine lookup_eq_none.mpr fun h => ?_
  have := t.issued _ h
  omega

theorem lookup_updateWhere (t : Serial α) (p : ℤ → α → Bool) (f : α → α) (id : ℤ) :
    (t.updateWhere p f).lookup id = (t.lookup id).map fun a => if p id a then f a else a :=
  Rows.lookup_updateWhere t.rows p f id

/-- The row with the id is rewritten. -/
theorem lookup_updateID_self (f : α → α) {a : α} (h : t.lookup id = some a) :
    (t.updateWhere (fun k _ => k = id) f).lookup id = some (f a) := by
  simp [lookup_updateWhere, h]

theorem lookup_updateID_ne (f : α → α) {k : ℤ} (h : k ≠ id) :
    (t.updateWhere (fun k _ => k = id) f).lookup k = t.lookup k := by
  simp [lookup_updateWhere, h]

theorem lookup_deleteWhere (t : Serial α) (p : ℤ → α → Bool) (id : ℤ) :
    (t.deleteWhere p).lookup id = (t.lookup id).filter fun a => !p id a :=
  Rows.lookup_delete t.rows p id

theorem lookup_eq_of_mem {x : (_ : ℤ) × α} (h : x ∈ t.rows.entries) :
    t.lookup x.1 = some x.2 := mem_lookup_iff.mpr h

theorem le_last_of_lookup {a : α} (h : t.lookup id = some a) : id ≤ t.last :=
  t.issued id (lookup_isSome.mp (Option.isSome_iff_exists.mpr ⟨a, h⟩))

end Serial

end Lib
