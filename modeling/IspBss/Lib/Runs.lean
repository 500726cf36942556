import Mathlib.Data.List.Basic
import Mathlib.Tactic

/-! Runs: one step after another, each from the state the last one left.

    A statement about runs has the shape "if every step meets `C`, then `I` holds in every state".
    `inv` is its rule: `I` is kept by a step that meets `C`. -/

namespace Lib

open List

namespace Run

variable {σ ι : Type} (step : σ → ι → σ)

/-- The state after the steps. -/
def run (s : σ) (xs : List ι) : σ := xs.foldl step s

/-- Every step meets `C` in the state it is taken in. -/
def Meets (C : σ → ι → Prop) : σ → List ι → Prop
  | _, [] => True
  | s, x :: xs => C s x ∧ Meets C (step s x) xs

instance decidableMeets {C : σ → ι → Prop} [∀ s x, Decidable (C s x)] :
    ∀ (s : σ) (xs : List ι), Decidable (Meets step C s xs)
  | _, [] => isTrue trivial
  | s, x :: xs =>
    have := decidableMeets (C := C) (step s x) xs
    inferInstanceAs (Decidable (_ ∧ _))

section
variable {step} {C : σ → ι → Prop} {I : σ → Prop} {ys xs : List ι} {D : σ → ι → Prop}

@[simp] theorem run_nil (s : σ) : run step s [] = s := rfl

@[simp] theorem run_cons (s : σ) (x : ι) (xs : List ι) : run step s (x :: xs) = run step (step s x) xs := rfl

theorem run_append (s : σ) (xs ys : List ι) : run step s (xs ++ ys) = run step (run step s xs) ys :=
  foldl_append

theorem run_concat (step : σ → ι → σ) (s : σ) (xs : List ι) (x : ι) :
    run step s (xs ++ [x]) = step (run step s xs) x := run_append s xs [x]

theorem meets_append (xs : List ι) : ∀ {s : σ},
    Meets step C s (xs ++ ys) ↔ Meets step C s xs ∧ Meets step C (run step s xs) ys := by
  induction xs with
  | nil =>
    intro s
    exact (iff_of_eq (true_and _)).symm
  | cons x xs ih =>
    intro s
    simp only [cons_append, Meets, run_cons, ih, and_assoc]

/-- Each step with those before it, from the first on. -/
theorem forall_prefix_cons {P : List ι → ι → Prop} {x : ι} :
    (∀ pre y, pre ++ [y] <+: x :: xs → P pre y) ↔ P [] x ∧ ∀ pre y, pre ++ [y] <+: xs → P (x :: pre) y := by
  constructor
  · intro h
    exact ⟨h [] x (prefix_append [x] xs), fun pre y hpre => h (x :: pre) y (cons_prefix_cons.mpr ⟨rfl, hpre⟩)⟩
  · rintro ⟨hx, hxs⟩ pre y h
    cases pre with
    | nil =>
      obtain ⟨rfl, -⟩ := cons_prefix_cons.mp h
      exact hx
    | cons z pre =>
      obtain ⟨rfl, hrest⟩ := cons_prefix_cons.mp h
      exact hxs pre y hrest

/-- Of two steps of a run one comes before the other, or they are the same. -/
theorem prefix_trichotomy {pre pre' : List ι} {x x' : ι} (h : pre ++ [x] <+: xs) (h' : pre' ++ [x'] <+: xs) :
    pre ++ [x] <+: pre' ∨ pre' ++ [x'] <+: pre ∨ (pre = pre' ∧ x = x') := by
  rcases prefix_or_prefix_of_prefix h h' with h | h <;> rcases prefix_concat_iff.mp h with heq | hlt
  · exact .inr (.inr (append_singleton_inj.mp heq))
  · exact .inl hlt
  · exact .inr (.inr ((append_singleton_inj.mp heq).imp Eq.symm Eq.symm))
  · exact .inr (.inl hlt)

/-- Each step, in the state that those before it have left. -/
theorem meets_iff_forall (xs : List ι) : ∀ {s : σ},
    Meets step C s xs ↔ ∀ pre x, pre ++ [x] <+: xs → C (run step s pre) x := by
  induction xs with
  | nil =>
    intro s
    refine ⟨fun _ pre x h => ?_, fun _ => trivial⟩
    simp at h
  | cons y ys ih =>
    intro s
    rw [forall_prefix_cons, Meets, ih]
    rfl

/-- A condition on the inputs alone can be taken along. -/
theorem Meets.and_mem {D : ι → Prop} : ∀ {xs : List ι} {s : σ}, Meets step C s xs → (∀ x ∈ xs, D x) →
    Meets step (fun s x => C s x ∧ D x) s xs
  | [], _, _, _ => trivial
  | x :: _, _, ⟨hC, hrest⟩, hD =>
      ⟨⟨hC, hD x mem_cons_self⟩, hrest.and_mem fun y hy => hD y (mem_cons_of_mem _ hy)⟩

theorem Meets.and : ∀ {xs : List ι} {s : σ}, Meets step C s xs → Meets step D s xs →
    Meets step (fun s x => C s x ∧ D s x) s xs
  | [], _, _, _ => trivial
  | _ :: _, _, ⟨hC, hrest⟩, ⟨hD, hrest'⟩ => ⟨⟨hC, hD⟩, hrest.and hrest'⟩

theorem Meets.imp (h : ∀ s x, C s x → D s x) : ∀ {xs : List ι} {s : σ},
    Meets step C s xs → Meets step D s xs
  | [], _, _ => trivial
  | x :: _, s, ⟨hC, hrest⟩ => ⟨h s x hC, hrest.imp h⟩

/-- What every step that meets `C` keeps, a run keeps. -/
theorem inv (hstep : ∀ s x, I s → C s x → I (step s x)) :
    ∀ (xs : List ι) {s : σ}, I s → Meets step C s xs → I (run step s xs) := by
  intro xs
  induction xs with
  | nil =>
    intro s hs _
    exact hs
  | cons x xs ih =>
    intro s hs hC
    exact ih (hstep s x hs hC.1) hC.2

/-- It holds in every state on the way. -/
theorem always (hstep : ∀ s x, I s → C s x → I (step s x)) {s : σ} (hs : I s)
    (hC : Meets step C s xs) {pre : List ι} (hpre : pre <+: xs) : I (run step s pre) := by
  obtain ⟨later, rfl⟩ := hpre
  exact inv hstep pre hs ((meets_append pre).mp hC).1

/-- Steps that commute up to `R` and respect it can be taken in any order. -/
theorem run_perm {R : σ → σ → Prop} (htrans : ∀ {s t u}, R s t → R t u → R s u)
    (hstep : ∀ {s t} x, R s t → R (step s x) (step t x))
    (hswap : ∀ {s t} x y, R s t → R (step (step s x) y) (step (step t y) x))
    (h : xs.Perm ys) : ∀ {s t}, R s s → R s t → R (run step s xs) (run step t ys) := by
  induction h with
  | nil =>
    intro s t _ hst
    exact hst
  | cons x _ ih =>
    intro s t hs hst
    exact ih (hstep x hs) (hstep x hst)
  | swap x y xs =>
    intro s t _ hst
    have hsame : ∀ (zs : List ι) {u v : σ}, R u v → R (run step u zs) (run step v zs) := by
      intro zs
      induction zs with
      | nil => intro u v huv; exact huv
      | cons z zs ih => intro u v huv; exact ih (hstep z huv)
    exact hsame xs (hswap y x hst)
  | trans _ _ ih₁ ih₂ =>
    intro s t hs hst
    exact htrans (ih₁ hs hs) (ih₂ hs hst)

end

end Run

end Lib
