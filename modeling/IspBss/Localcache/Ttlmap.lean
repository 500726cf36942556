import IspBss.Db.Schema
import IspBss.Lib.Rows

/-! `localcache.Store`: an in-process map whose entries expire.

        now ──────────────▶ expires
        │      live         │   as good as absent
       Set                  └── a sweep may drop it at any time

    `TrySet` is the one operation that looks before it writes: it takes a key only when no live entry
    holds it. -/

namespace IspBss.Localcache

open Lib AList

structure Entry (ν : Type) where
  val : ν
  expires : Time
  deriving DecidableEq

structure Store (ν : Type) where
  entries : Rows String (Entry ν)

namespace Store

variable {ν : Type}

def empty : Store ν := ⟨∅⟩

/-- An entry that has not expired holds the key. -/
def Live (s : Store ν) (now : Time) (key : String) : Prop :=
  ∃ e ∈ s.entries.lookup key, now < e.expires

instance (s : Store ν) (now : Time) (key : String) : Decidable (s.Live now key) :=
  decidable_of_iff ((s.entries.lookup key).any fun e => now < e.expires) (by
    simp [Live, Option.any_eq_true])

variable (s : Store ν)

/-- The value under the key, if it has not expired; at the very instant of its expiry it still has
    not. -/
def Get (now : Time) (key : String) : Option ν :=
  ((s.entries.lookup key).filter fun e => now ≤ e.expires).map Entry.val

def Set (now : Time) (key : String) (val : ν) (ttl : Time) : Store ν :=
  ⟨s.entries.insert key ⟨val, now + ttl⟩⟩

def Delete (key : String) : Store ν := ⟨s.entries.erase key⟩

/-- Drop what has expired. -/
def sweep (now : Time) : Store ν := ⟨s.entries.delete fun _ e => e.expires < now⟩

/-- Take the key, unless a live entry holds it; the answer says whether it was taken. -/
def TrySet (now : Time) (key : String) (val : ν) (ttl : Time) : Bool × Store ν :=
  if s.Live now key then (false, s) else (true, ⟨s.entries.insert key ⟨val, now + ttl⟩⟩)

variable {s : Store ν} {now : Time} {key : String} {val : ν} {ttl : Time}

theorem trySet_live (h : s.Live now key) : s.TrySet now key val ttl = (false, s) := if_pos h

theorem trySet_free (h : ¬s.Live now key) :
    s.TrySet now key val ttl = (true, ⟨s.entries.insert key ⟨val, now + ttl⟩⟩) := if_neg h

/-- A value is got only from an entry that has not expired. -/
theorem get_eq_some : s.Get now key = some val ↔
    ∃ e, s.entries.lookup key = some e ∧ now ≤ e.expires ∧ e.val = val := by
  cases h : s.entries.lookup key with
  | none => simp [Get, h]
  | some e => by_cases he : now ≤ e.expires <;> simp [Get, h, he]

theorem lookup_set (key' : String) :
    (s.Set now key val ttl).entries.lookup key' =
      if key' = key then some ⟨val, now + ttl⟩ else s.entries.lookup key' := by
  split
  · rename_i h
    rw [h]
    exact lookup_insert _
  · rename_i h
    exact lookup_insert_ne h

theorem lookup_delete (key' : String) :
    (s.Delete key).entries.lookup key' = if key' = key then none else s.entries.lookup key' := by
  split
  · rename_i h
    rw [h]
    exact lookup_erase _ _
  · rename_i h
    exact lookup_erase_ne h

/-- A sweep leaves entries as they were, or takes them. -/
theorem lookup_sweep {key' : String} {e : Entry ν}
    (h : (s.sweep now).entries.lookup key' = some e) : s.entries.lookup key' = some e := by
  rw [sweep, Rows.lookup_delete] at h
  exact (Option.filter_eq_some_iff.mp h).1

/-- Other keys are as they were. -/
theorem lookup_trySet_ne {key' : String} (h : key' ≠ key) :
    (s.TrySet now key val ttl).2.entries.lookup key' = s.entries.lookup key' := by
  unfold TrySet
  split
  · rfl
  · exact lookup_insert_ne h

/-- Whether a key is live depends on its own entry only. -/
theorem live_congr {t : Store ν} (h : s.entries.lookup key = t.entries.lookup key) :
    s.Live now key ↔ t.Live now key := by
  unfold Live
  rw [h]

end Store

end IspBss.Localcache
