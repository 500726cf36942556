import IspBss.Db.Schema
import IspBss.Lib.Rows

/-! `localcache.Counter`: counters that expire.

        Incr ──▶ count, no expiry ──Expire──▶ count until then ──▶ as good as absent
                                     ▲ Incr keeps the expiry        │ a sweep may drop it at any time
                                     └──────────────────────────────┘ Incr starts again at one

    Counting and setting the expiry are two steps. -/

namespace IspBss.Localcache

open Lib AList

/-- An entry; without an expiry it stays until it is reset. -/
structure CounterEntry where
  count : ℕ
  expires : Option Time
  deriving DecidableEq

/-- The expiry has passed. -/
def CounterEntry.Lapsed (e : CounterEntry) (now : Time) : Prop := ∃ t ∈ e.expires, t < now
  deriving Decidable

structure Counter where
  entries : Rows String CounterEntry

namespace Counter

def empty : Counter := ⟨∅⟩

variable (c : Counter) (now : Time) (key : String)

/-- The entry under the key, if it has not lapsed. -/
def live : Option CounterEntry :=
  (c.entries.lookup key).filter fun e => ¬ e.Lapsed now

/-- The count under the key; none if there is no live counter. -/
def Get : Option ℕ := (c.live now key).map CounterEntry.count

/-- Add one, keeping the expiry; a lapsed counter starts again. -/
def Incr : Counter :=
  let e := (c.live now key).getD ⟨0, none⟩
  ⟨c.entries.insert key { e with count := e.count + 1 }⟩

/-- Set the expiry, if there is a counter. -/
def Expire (ttl : Time) : Counter :=
  match c.entries.lookup key with
  | none => c
  | some e => ⟨c.entries.insert key { e with expires := some (now + ttl) }⟩

def Reset (c : Counter) (key : String) : Counter := ⟨c.entries.erase key⟩

/-- Drop what has lapsed. -/
def sweep (c : Counter) (now : Time) : Counter := ⟨c.entries.delete fun _ e => e.Lapsed now⟩

variable {c : Counter} {now : Time} {key : String}

theorem live_eq_some {e : CounterEntry} :
    c.live now key = some e ↔ c.entries.lookup key = some e ∧ ¬ e.Lapsed now := by
  simp [live, Option.filter_eq_some_iff]

theorem get_eq_some {n : ℕ} :
    c.Get now key = some n ↔ ∃ e, c.entries.lookup key = some e ∧ ¬ e.Lapsed now ∧ e.count = n := by
  simp only [Get, Option.map_eq_some_iff, live_eq_some, and_assoc]

theorem lookup_incr (key' : String) :
    (c.Incr now key).entries.lookup key' =
      if key' = key then
        some { (c.live now key).getD ⟨0, none⟩ with count := ((c.live now key).getD ⟨0, none⟩).count + 1 }
      else c.entries.lookup key' := by
  split
  · rename_i h
    rw [h]
    exact lookup_insert _
  · rename_i h
    exact lookup_insert_ne h

theorem lookup_expire (ttl : Time) (key' : String) :
    (c.Expire now key ttl).entries.lookup key' =
      if key' = key then (c.entries.lookup key).map fun e => { e with expires := some (now + ttl) }
      else c.entries.lookup key' := by
  rw [Expire]
  split
  · rename_i hnone
    split
    · rename_i h
      rw [h, hnone]
      rfl
    · rfl
  · rename_i e hsome
    split
    · rename_i h
      rw [h, hsome]
      exact lookup_insert _
    · rename_i h
      exact lookup_insert_ne h

theorem lookup_reset (key' : String) :
    (c.Reset key).entries.lookup key' = if key' = key then none else c.entries.lookup key' := by
  split
  · rename_i h
    rw [h]
    exact lookup_erase _ _
  · rename_i h
    exact lookup_erase_ne h

theorem lookup_sweep (key' : String) :
    (c.sweep now).entries.lookup key' = (c.entries.lookup key').filter fun e => ¬ e.Lapsed now := by
  rw [sweep, Rows.lookup_delete]
  cases c.entries.lookup key' <;> simp

end Counter

end IspBss.Localcache
