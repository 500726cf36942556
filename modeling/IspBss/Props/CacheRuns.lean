import IspBss.Localcache.Ttlmap

/-! Whole runs of a `localcache.Store`, against the map of what was last written under each key.

        written:  Set ─────────────────── expires ─────
        Get         value      …      value │ nothing
        TrySet      refused    …      taken │ taken         the two differ at the very instant

    A sweep takes only what has expired before it, so from then on no operation can tell. -/

namespace IspBss.Localcache

open Lib List

inductive CacheOp (ν : Type) where
  | set (key : String) (val : ν) (ttl : Time)
  | trySet (key : String) (val : ν) (ttl : Time)
  | get (key : String)
  | delete (key : String)
  | sweep

variable {ν : Type} {s : Store ν} {m : String → Option (Entry ν)} {now t : Time} {key : String}

/-- The store after the operation. -/
def CacheOp.apply (s : Store ν) (now : Time) : CacheOp ν → Store ν
  | set key val ttl => s.Set now key val ttl
  | trySet key val ttl => (s.TrySet now key val ttl).2
  | get _ => s
  | delete key => s.Delete key
  | sweep => s.sweep now

/-- What is written under a key has not expired. -/
def Holds (m : String → Option (Entry ν)) (now : Time) (key : String) : Bool :=
  (m key).any (now < ·.expires)

/-- The latest successful write under each key, unless a `Delete` came after it. -/
def CacheOp.write (m : String → Option (Entry ν)) (now : Time) : CacheOp ν → String → Option (Entry ν)
  | set key val ttl => Function.update m key (some ⟨val, now + ttl⟩)
  | trySet key val ttl => if Holds m now key then m else Function.update m key (some ⟨val, now + ttl⟩)
  | delete key => Function.update m key none
  | get _ | sweep => m

def storeAfter (hist : List (Time × CacheOp ν)) : Store ν := hist.foldl (fun s x => x.2.apply s x.1) .empty

def written (hist : List (Time × CacheOp ν)) : String → Option (Entry ν) :=
  hist.foldl (fun m x => x.2.write m x.1) fun _ => none

/-- The store has what was written, except for what a sweep has taken after it expired. -/
def Refines (now : Time) (s : Store ν) (m : String → Option (Entry ν)) : Prop :=
  ∀ key, s.entries.lookup key = m key ∨ (s.entries.lookup key = none ∧ ∃ e ∈ m key, e.expires < now)

theorem Refines.live_iff (h : Refines now s m) : s.Live now key ↔ Holds m now key = true := by
  rw [Store.Live, Holds, Option.any_eq_true]
  rcases h key with heq | ⟨hnone, e, he, hold⟩
  · rw [heq]
    simp
  · rw [hnone, Option.mem_def.mp he]
    simp [hold.le]

theorem Refines.trySet (h : Refines now s m) (val : ν) (ttl : Time) :
    (s.TrySet now key val ttl).1 = !Holds m now key := by
  by_cases hlive : s.Live now key
  · rw [Store.trySet_live hlive, h.live_iff.mp hlive]
    rfl
  · rw [Store.trySet_free hlive, Bool.eq_false_iff.mpr (mt h.live_iff.mpr hlive)]
    rfl

theorem Refines.get (h : Refines now s m) :
    s.Get now key = ((m key).filter (now ≤ ·.expires)).map Entry.val := by
  rw [Store.Get]
  rcases h key with heq | ⟨hnone, e, he, hold⟩
  · rw [heq]
  · rw [hnone, Option.mem_def.mp he, Option.filter_some, if_neg (by simpa using hold)]
    rfl

theorem Refines.update {s' : Store ν} {v : Option (Entry ν)} (h : Refines now s m)
    (hs : ∀ key', s'.entries.lookup key' = if key' = key then v else s.entries.lookup key') :
    Refines now s' (Function.update m key v) := by
  intro key'
  rw [hs, Function.update_apply]
  split
  · exact .inl rfl
  · exact h key'

theorem Refines.step (h : Refines now s m) (op : CacheOp ν) : Refines now (op.apply s now) (op.write m now) := by
  cases op with
  | set key val ttl => exact h.update Store.lookup_set
  | trySet key val ttl =>
    simp only [CacheOp.apply, CacheOp.write]
    by_cases hlive : s.Live now key
    · rw [Store.trySet_live hlive, if_pos (h.live_iff.mp hlive)]
      exact h
    · rw [Store.trySet_free hlive, if_neg (mt h.live_iff.mpr hlive)]
      exact h.update Store.lookup_set
  | get key => exact h
  | delete key => exact h.update Store.lookup_delete
  | sweep =>
    intro key
    simp only [CacheOp.apply, CacheOp.write, Store.sweep, Rows.lookup_delete]
    rcases h key with heq | ⟨hnone, hold⟩
    · cases hm : m key with
      | none => simp [heq, hm]
      | some e => by_cases he : e.expires < now <;> simp [heq, hm, he]
    · exact .inr ⟨by rw [hnone]; rfl, hold⟩

theorem refines_storeAfter (hist : List (Time × CacheOp ν)) (now : Time)
    (hmono : (hist.map Prod.fst ++ [now]).Pairwise (· ≤ ·)) : Refines now (storeAfter hist) (written hist) := by
  induction hist using reverseRecOn generalizing now with
  | nil => exact fun key => .inl rfl
  | append_singleton hist x ih =>
    rw [map_append, pairwise_append] at hmono
    obtain ⟨hpre, -, hlast⟩ := hmono
    rw [storeAfter, written, foldl_append, foldl_append]
    intro key
    refine ((ih x.1 hpre).step x.2 key).imp id (And.imp id ?_)
    rintro ⟨e, he, hold⟩
    exact ⟨e, he, hold.trans_le (hlast x.1 (by simp) now (mem_singleton_self now))⟩

def CacheOp.isSweep : CacheOp ν → Bool
  | sweep => true
  | _ => false

theorem written_unswept (hist : List (Time × CacheOp ν)) :
    written (hist.filter fun x => !x.2.isSweep) = written hist := by
  rw [written, foldl_filter]
  congr
  funext m x
  obtain ⟨t, op⟩ := x
  cases op <;> rfl

/-- At nondecreasing instants a store is the map of what was written and has not expired, and sweeps
    change no answer. `TrySet` takes a key exactly if `Get` finds nothing, except at the instant at which
    what was written expires. -/
theorem store_is_map_iff (hist : List (Time × CacheOp ν)) (now : Time)
    (hmono : (hist.map Prod.fst ++ [now]).Pairwise (· ≤ ·)) (key : String) (val : ν) (ttl : Time) :
    (storeAfter hist).Get now key = ((written hist key).filter (now ≤ ·.expires)).map Entry.val ∧
    ((storeAfter (hist.filter fun x => !x.2.isSweep)).Get now key = (storeAfter hist).Get now key ∧
      ((storeAfter (hist.filter fun x => !x.2.isSweep)).TrySet now key val ttl).1 =
        ((storeAfter hist).TrySet now key val ttl).1) ∧
    ((((storeAfter hist).TrySet now key val ttl).1 = true ↔ (storeAfter hist).Get now key = none) ↔
      ∀ e ∈ written hist key, e.expires ≠ now) := by
  have h := refines_storeAfter hist now hmono
  have h' := refines_storeAfter (hist.filter fun x => !x.2.isSweep) now
    (hmono.sublist ((filter_sublist.map _).append_right _))
  rw [written_unswept] at h'
  refine ⟨h.get, ⟨h'.get.trans h.get.symm, (h'.trySet val ttl).trans (h.trySet val ttl).symm⟩, ?_⟩
  rw [h.trySet, h.get, Holds]
  cases written hist key with
  | none => simp
  | some e =>
    simp only [Option.any_some, Option.filter_some, Option.mem_some_iff, forall_eq']
    rcases lt_trichotomy now e.expires with hlt | heq | hgt
    · simp [hlt, hlt.le, hlt.ne']
    · simp [heq]
    · simp [hgt.le, hgt.not_ge, hgt.ne]

/-- An hour's entry, half an hour later. -/
theorem held_key_refused : ((storeAfter [(0, .set "k" 1 3600)]).TrySet 1800 "k" 2 3600).1 = true ↔
    (storeAfter [(0, .set "k" 1 3600)]).Get 1800 "k" = none :=
  (store_is_map_iff [(0, .set "k" 1 3600)] 1800 (by simp) "k" 2 3600).2.2.mpr (by decide)

/-- At the end of the hour it is still found, and its key is taken. -/
theorem held_key_taken : (storeAfter [(0, .set "k" 1 3600)]).Get 3600 "k" = some 1 ∧
    ((storeAfter [(0, .set "k" 1 3600)]).TrySet 3600 "k" 2 3600).1 = true := by decide

end IspBss.Localcache
