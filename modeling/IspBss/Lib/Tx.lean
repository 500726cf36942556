import Mathlib.Tactic

/-! All-or-nothing transactions over a state.

    A transaction reads and writes the state and may fail. `commit` runs it: on success the new state
    is kept, on failure the old one is, whatever the transaction had written before it failed.

    `bind_ok` takes a successful run apart into its steps; the other `_ok` lemmas say what each kind of
    step has done. The `_bind_ok` lemmas do both at once for the steps that read, check or write. -/

namespace Lib

open Except

/-- A step that may fail, and what follows it. -/
theorem except_bind_ok {ε α β : Type} {x : Except ε α} {f : α → Except ε β} {b : β} :
    (x >>= f) = .ok b ↔ ∃ a, x = .ok a ∧ f a = .ok b := by
  cases x with
  | error e => simp [bind, Except.bind]
  | ok a => simp [bind, Except.bind]

/-- A computation on the state `σ` that ends in a result or an error. -/
abbrev Tx (ε σ α : Type) := StateT σ (Except ε) α

namespace Tx

variable {ε σ α β : Type}

/-- Fail with `e` unless `p` holds. -/
def require (p : Prop) [Decidable p] (e : ε) : Tx ε σ Unit :=
  if p then pure () else throw e

/-- The value, or fail with `e`. -/
def orThrow (o : Option α) (e : ε) : Tx ε σ α :=
  match o with
  | some a => pure a
  | none => throw e

/-- Run the transaction: an error leaves the state as it was. -/
def commit (t : Tx ε σ α) (s : σ) : Except ε α × σ :=
  match t s with
  | .ok (a, s') => (.ok a, s')
  | .error e => (.error e, s)

/-! ### What a successful run did -/

section
variable {s s' : σ} {a : α} {x : Except ε α} {e : ε} {p : Prop} {o : Option α} {t : Tx ε σ α} {f : α → Tx ε σ β}
  {r : β × σ}

@[simp] theorem bind_ok : (t >>= f) s = .ok r ↔ ∃ a s', t s = .ok (a, s') ∧ f a s' = .ok r := by
  change (t s >>= fun x => f x.1 x.2) = .ok r ↔ _
  rw [except_bind_ok, Prod.exists]

@[simp] theorem pure_ok {r : α × σ} : (pure a : Tx ε σ α) s = .ok r ↔ r = (a, s) := by
  change (ok (a, s) : Except ε (α × σ)) = .ok r ↔ _
  rw [ok.injEq, eq_comm]

/-- A computation that does not touch the state. -/
@[simp] theorem lift_ok {r : α × σ} : (liftM x : Tx ε σ α) s = .ok r ↔ x = .ok r.1 ∧ r.2 = s := by
  change (x >>= fun a => .ok (a, s)) = .ok r ↔ _
  rw [except_bind_ok]
  simp [Prod.ext_iff, eq_comm]

@[simp] theorem throw_ok {r : α × σ} : (throw e : Tx ε σ α) s = .ok r ↔ False := by
  change (error e : Except ε (α × σ)) = .ok r ↔ _
  simp

@[simp] theorem ite_ok [Decidable p] {t' : Tx ε σ α} {r : α × σ} :
    (if p then t else t') s = .ok r ↔ (p ∧ t s = .ok r) ∨ (¬p ∧ t' s = .ok r) := by
  by_cases h : p <;> simp [h]

@[simp] theorem dite_throw_ok [Decidable p] {t : p → Tx ε σ α}
    {r : α × σ} : (if h : p then t h else throw e) s = .ok r ↔ ∃ h : p, t h s = .ok r := by
  by_cases h : p <;> simp [h]

@[simp] theorem set_ok {r : PUnit × σ} : (set s' : Tx ε σ PUnit) s = .ok r ↔ r = (⟨⟩, s') := by
  change (ok (⟨⟩, s') : Except ε (PUnit × σ)) = .ok r ↔ _
  rw [ok.injEq, eq_comm]

@[simp] theorem require_ok [Decidable p] {r : Unit × σ} : require p e s = .ok r ↔ p ∧ r = ((), s) := by
  unfold require
  split <;> simp [*]

@[simp] theorem orThrow_ok {r : α × σ} : orThrow o e s = .ok r ↔ o = some r.1 ∧ r.2 = s := by
  cases o with
  | none => simp [orThrow]
  | some a =>
    simp only [orThrow, pure_ok, Option.some.injEq, Prod.ext_iff]
    exact and_congr_left' eq_comm

theorem get_bind_ok {f : σ → Tx ε σ β} : ((get : Tx ε σ σ) >>= f) s = .ok r ↔ f s s = .ok r := Iff.rfl

theorem set_bind_ok {f : PUnit → Tx ε σ β} : ((set s' : Tx ε σ PUnit) >>= f) s = .ok r ↔ f ⟨⟩ s' = .ok r := Iff.rfl

theorem require_bind_ok [Decidable p] {f : Unit → Tx ε σ β} :
    (require p e >>= f) s = .ok r ↔ p ∧ f () s = .ok r := by
  by_cases h : p
  · simp only [require, h, if_true, pure_bind, true_and]
  · simp [h]

theorem orThrow_bind_ok : (orThrow o e >>= f) s = .ok r ↔ ∃ a, o = some a ∧ f a s = .ok r := by
  cases o <;> simp

theorem lift_bind_ok : ((liftM x : Tx ε σ α) >>= f) s = .ok r ↔ ∃ a, x = .ok a ∧ f a s = .ok r := by
  cases x <;> simp

theorem commit_ok (h : t s = .ok (a, s')) : commit t s = (.ok a, s') := by
  unfold commit; rw [h]

/-- A run either succeeded and its state is kept, or failed and nothing changed. -/
theorem commit_cases (t : Tx ε σ α) (s : σ) :
    (∃ a s', t s = .ok (a, s') ∧ commit t s = (.ok a, s')) ∨ ∃ e, commit t s = (.error e, s) := by
  unfold commit
  cases h : t s with
  | error e => exact Or.inr ⟨e, rfl⟩
  | ok x => exact Or.inl ⟨x.1, x.2, rfl, rfl⟩

end

end Tx

end Lib
