import Mathlib.Tactic

/-! Programs that talk to a shared store, one atomic call at a time.

    A program (`Prog`) either returns or makes a call and continues with the response. The same
    program text is read in two ways. `run` executes it alone, from a store state to a result and a
    store state. A `Pool` holds any number of programs over one store and a schedule picks, step by
    step, which of them makes its next call and in which environment (clock reading, injected fault):
    every interleaving is a schedule.

    What a program does on its own, whatever the store answers, is said by `Obeys`: a `Watch` follows
    the calls it has made and the responses it has got, and each next call is allowed by what the
    watch has recorded. `obeying_step` carries such a fact into every interleaving. A `traced` store
    keeps the history of the calls made to it.

        schedule:  (thread, env)
            pool ──────▶ thread's next call ──exec──▶ response, new store
                           │ watch records it          │
                           ▼                           ▼
                        continuation of the thread   shared state -/

namespace Lib

open List

/-- The calls a program may make, each with the type of its response. -/
structure Sig where
  Call : Type
  Resp : Call → Type

/-- A program over the signature `S` that ends with a result in `α`. -/
inductive Prog (S : Sig) (α : Type) : Type where
  | ret (a : α) : Prog S α
  | call (c : S.Call) (k : S.Resp c → Prog S α) : Prog S α

/-- How a store answers a call in an environment, and the state it is left in. -/
abbrev Store (S : Sig) (ε σ : Type) := ε → (c : S.Call) → σ → S.Resp c × σ

/-- A watch records what a program has been told: one update per call and response. -/
abbrev Watch (S : Sig) (ω : Type) := ω → (c : S.Call) → S.Resp c → ω

namespace Prog

variable {S : Sig} {ε σ ω α β : Type}

/-- Run `p`, then the program its result selects. -/
def bind : Prog S α → (α → Prog S β) → Prog S β
  | ret a, f => f a
  | call c k, f => call c (fun r => bind (k r) f)

instance : Monad (Prog S) where
  pure := ret
  bind := bind

/-- A single call, returning its response. -/
def perform (c : S.Call) : Prog S (S.Resp c) := call c ret

/-- Forget the result. -/
def void (p : Prog S α) : Prog S Unit := p >>= fun _ => ret ()

/-- Whether the program has returned. -/
def isRet : Prog S α → Bool
  | ret _ => true
  | call _ _ => false

/-- Run the body for each element, in order. -/
def each (f : β → Prog S Unit) : List β → Prog S Unit
  | [] => ret ()
  | x :: xs => f x >>= fun _ => each f xs

@[simp] theorem pure_eq (a : α) : (pure a : Prog S α) = ret a := rfl

@[simp] theorem ret_bind (a : α) (f : α → Prog S β) : (ret a >>= f) = f a := rfl

@[simp] theorem call_bind (c : S.Call) (k : S.Resp c → Prog S α) (f : α → Prog S β) :
    (call c k >>= f) = call c (fun r => k r >>= f) := rfl

/-! ### Running alone -/

/-- Execute `p` alone in the environment `e`, from the store state to its result and final state. -/
def run (M : Store S ε σ) (e : ε) : Prog S α → σ → α × σ
  | ret a, s => (a, s)
  | call c k, s => run M e (k (M e c s).1) (M e c s).2

@[simp] theorem run_ret (M : Store S ε σ) (e : ε) (a : α) (s : σ) : run M e (ret a) s = (a, s) := rfl

theorem run_bind (M : Store S ε σ) (e : ε) (f : α → Prog S β) : ∀ (p : Prog S α) (s : σ),
    run M e (p >>= f) s = run M e (f (run M e p s).1) (run M e p s).2
  | ret _, _ => rfl
  | call c k, s => run_bind M e f (k (M e c s).1) (M e c s).2

@[simp] theorem run_void (M : Store S ε σ) (e : ε) (p : Prog S α) (s : σ) :
    run M e p.void s = ((), (run M e p s).2) := by
  rw [void, run_bind, run_ret]

/-- What no call changes, no program changes. -/
theorem run_inv {M : Store S ε σ} {e : ε} {I : σ → Prop} (hI : ∀ c s, I s → I (M e c s).2) :
    ∀ (p : Prog S α) {s : σ}, I s → I (run M e p s).2
  | ret _, _, hs => hs
  | call c k, s, hs => run_inv hI (k (M e c s).1) (hI c s hs)

theorem run_each_append (M : Store S ε σ) (e : ε) (f : β → Prog S Unit) (ys : List β) :
    ∀ (xs : List β) (s : σ),
      run M e (each f (xs ++ ys)) s = run M e (each f ys) (run M e (each f xs) s).2
  | [], _ => rfl
  | x :: xs, s => by
      simp only [cons_append, each, run_bind]
      exact run_each_append M e f ys xs _

/-- Every response the run gets is one that `ok` accepts. -/
def Accepts (M : Store S ε σ) (e : ε) (ok : (c : S.Call) → S.Resp c → Bool) : Prog S α → σ → Prop
  | ret _, _ => True
  | call c k, s => ok c (M e c s).1 = true ∧ Accepts M e ok (k (M e c s).1) (M e c s).2

instance decidableAccepts (M : Store S ε σ) (e : ε) (ok : (c : S.Call) → S.Resp c → Bool) :
    ∀ (p : Prog S α) (s : σ), Decidable (Accepts M e ok p s)
  | ret _, _ => isTrue trivial
  | call c k, s =>
    have := decidableAccepts M e ok (k (M e c s).1) (M e c s).2
    inferInstanceAs (Decidable (_ ∧ _))

/-- If every response is accepted, the run ends in a result and a state that satisfy `Q`. -/
def Ensures (M : Store S ε σ) (e : ε) (ok : (c : S.Call) → S.Resp c → Bool) (Q : α → σ → Prop) :
    Prog S α → σ → Prop
  | ret a, s => Q a s
  | call c k, s => ok c (M e c s).1 = true → Ensures M e ok Q (k (M e c s).1) (M e c s).2

section
variable {M : Store S ε σ} {e : ε} {ok : (c : S.Call) → S.Resp c → Bool} {Q : α → σ → Prop}

theorem Ensures.run : ∀ {p : Prog S α} {s : σ}, Ensures M e ok Q p s →
    Accepts M e ok p s → Q (run M e p s).1 (run M e p s).2
  | ret _, _, h, _ => h
  | call c k, s, h, ha => Ensures.run (p := k (M e c s).1) (h ha.1) ha.2

theorem ensures_bind {Q : β → σ → Prop} {f : α → Prog S β} : ∀ {p : Prog S α} {s : σ},
    Ensures M e ok Q (p >>= f) s ↔ Ensures M e ok (fun a s' => Ensures M e ok Q (f a) s') p s
  | ret _, _ => Iff.rfl
  | call c k, s => imp_congr_right fun _ => ensures_bind

theorem Ensures.mono {Q' : α → σ → Prop} (hQ : ∀ a s, Q a s → Q' a s) :
    ∀ {p : Prog S α} {s : σ}, Ensures M e ok Q p s → Ensures M e ok Q' p s
  | ret _, _, h => hQ _ _ h
  | call c k, s, h => fun hok => Ensures.mono hQ (h hok)

end

/-! ### Which calls a program can make -/

/-- Every call `p` can make, whatever it is told, satisfies `P`. -/
def Calls (P : S.Call → Prop) : Prog S α → Prop
  | ret _ => True
  | call c k => P c ∧ ∀ r, Calls P (k r)

section
variable {P P' : S.Call → Prop}

theorem calls_bind {f : α → Prog S β} : ∀ {p : Prog S α}, Calls P p → (∀ a, Calls P (f a)) →
    Calls P (p >>= f)
  | ret a, _, hf => hf a
  | call _ k, hp, hf => ⟨hp.1, fun r => calls_bind (hp.2 r) hf⟩

theorem calls_void {p : Prog S α} (hp : Calls P p) : Calls P p.void :=
  calls_bind hp fun _ => trivial

theorem calls_each {f : β → Prog S Unit} : ∀ {xs : List β}, (∀ x ∈ xs, Calls P (f x)) →
    Calls P (each f xs)
  | [], _ => trivial
  | x :: _, h => calls_bind (h x (.head _)) fun _ => calls_each fun y hy => h y (.tail _ hy)

theorem Calls.mono (h : ∀ c, P c → P' c) : ∀ {p : Prog S α}, Calls P p → Calls P' p
  | ret _, _ => trivial
  | call c k, hp => ⟨h c hp.1, fun r => Calls.mono h (hp.2 r)⟩

/-- Frame rule: what no such call changes, the run does not change. -/
theorem Calls.run_inv {M : Store S ε σ} {e : ε} {I : σ → Prop}
    (hI : ∀ c s, P c → I s → I (M e c s).2) :
    ∀ {p : Prog S α} {s : σ}, Calls P p → I s → I (run M e p s).2
  | ret _, _, _, hs => hs
  | call c k, s, hp, hs => Calls.run_inv hI (p := k (M e c s).1) (hp.2 _) (hI c s hp.1 hs)

end

/-! ### What a program does whatever it is told -/

/-- Started with record `w`, every call `p` makes is allowed by `P`, as long as the responses it gets
    satisfy `A`, and it ends in a record and a result that satisfy `Q`. -/
def Obeys (m : Watch S ω) (A : ω → (c : S.Call) → S.Resp c → Prop) (P : ω → S.Call → Prop)
    (Q : ω → α → Prop) : Prog S α → ω → Prop
  | ret a, w => Q w a
  | call c k, w => P w c ∧ ∀ r, A w c r → Obeys m A P Q (k r) (m w c r)

section
variable {m : Watch S ω} {A : ω → (c : S.Call) → S.Resp c → Prop} {P : ω → S.Call → Prop} {Q : ω → α → Prop} {w : ω}
  {P₀ : S.Call → Prop}

@[simp] theorem obeys_ret {a : α} : Obeys m A P Q (ret a) w ↔ Q w a := Iff.rfl

@[simp] theorem obeys_call {c : S.Call} {k : S.Resp c → Prog S α} :
    Obeys m A P Q (call c k) w ↔ P w c ∧ ∀ r, A w c r → Obeys m A P Q (k r) (m w c r) := Iff.rfl

/-- Sequential composition: the second program is judged from where the first one ends. -/
theorem obeys_bind {Q : ω → β → Prop} {f : α → Prog S β} : ∀ {p : Prog S α} {w : ω},
    Obeys m A P Q (p >>= f) w ↔ Obeys m A P (fun w' a => Obeys m A P Q (f a) w') p w
  | ret _, _ => Iff.rfl
  | call _ k, _ => by
      exact and_congr_right fun _ => forall_congr' fun r => imp_congr_right fun _ =>
        obeys_bind

theorem Obeys.mono {Q' : ω → α → Prop} (hQ : ∀ w a, Q w a → Q' w a) :
    ∀ {p : Prog S α} {w : ω}, Obeys m A P Q p w → Obeys m A P Q' p w
  | ret _, _, h => hQ _ _ h
  | call _ k, _, h => ⟨h.1, fun r hr => Obeys.mono hQ (h.2 r hr)⟩

theorem Obeys.mono_rules {P' : ω → S.Call → Prop} (hP : ∀ w c, P w c → P' w c) :
    ∀ {p : Prog S α} {w : ω}, Obeys m A P Q p w → Obeys m A P' Q p w
  | ret _, _, h => h
  | call _ k, _, h => ⟨hP _ _ h.1, fun r hr => Obeys.mono_rules hP (h.2 r hr)⟩

theorem Obeys.mono_answers {A' : ω → (c : S.Call) → S.Resp c → Prop}
    (hA : ∀ w c r, A' w c r → A w c r) :
    ∀ {p : Prog S α} {w : ω}, Obeys m A P Q p w → Obeys m A' P Q p w
  | ret _, _, h => h
  | call _ k, _, h => ⟨h.1, fun r hr => Obeys.mono_answers hA (h.2 r (hA _ _ _ hr))⟩

/-- Frame rule: what no such call changes in the record, the program does not change. -/
theorem Calls.obeys_inv {I : ω → Prop} (hP : ∀ w c, I w → P₀ c → P w c)
    (hI : ∀ w c r, P₀ c → I w → I (m w c r)) :
    ∀ {p : Prog S α}, Calls P₀ p → ∀ w, I w → Obeys m A P (fun w' _ => I w') p w
  | ret _, _, _, h => h
  | call c k, hp, w, h =>
    ⟨hP w c h hp.1, fun r _ => Calls.obeys_inv hP hI (hp.2 r) (m w c r) (hI w c r hp.1 h)⟩

/-- A program whose calls are all allowed, whatever is recorded, obeys. -/
theorem Calls.obeys (hP : ∀ w c, P₀ c → P w c) {p : Prog S α}
    (hp : Calls P₀ p) (w : ω) : Obeys m A P (fun _ _ => True) p w :=
  Calls.obeys_inv (fun w c _ => hP w c) (fun _ _ _ _ _ => trivial) hp w trivial

/-- What a program does whatever it is told, it does when run: a relation between store and record that
    each allowed call keeps holds at the end, with a record that the program ends in. -/
theorem Obeys.run {M : Store S ε σ} {e : ε} {R : σ → ω → Prop}
    (hcall : ∀ c s w, R s w → P w c → A w c (M e c s).1 ∧ R (M e c s).2 (m w c (M e c s).1)) :
    ∀ {p : Prog S α} {s : σ} {w : ω}, Obeys m A P Q p w → R s w →
      ∃ w', R (run M e p s).2 w' ∧ Q w' (run M e p s).1
  | ret _, _, w, h, hR => ⟨w, hR, h⟩
  | call c k, s, w, h, hR => by
      obtain ⟨hA, hR'⟩ := hcall c s w hR h.1
      exact Obeys.run hcall (p := k (M e c s).1) (h.2 _ hA) hR'

/-- Loop rule: `I` relates the elements still to come to the record, and each round keeps it. -/
theorem obeys_each {f : β → Prog S Unit} {I : List β → ω → Prop}
    (hstep : ∀ x xs w, I (x :: xs) w → Obeys m A P (fun w' _ => I xs w') (f x) w) :
    ∀ (xs : List β) (w : ω), I xs w → Obeys m A P (fun w' _ => I [] w') (each f xs) w
  | [], _, h => h
  | x :: xs, w, h => by
      refine obeys_bind.mpr ((hstep x xs w h).mono fun w' _ h' => ?_)
      exact obeys_each hstep xs w' h'

end

end Prog

/-! ### The history of a store -/

/-- One call as it happened. -/
structure Event (S : Sig) (ε σ : Type) where
  pre : σ
  env : ε
  call : S.Call
  resp : S.Resp call
  post : σ

/-- The store that also remembers every call made to it, in order. -/
def traced {S : Sig} {ε σ : Type} (M : Store S ε σ) : Store S ε (σ × List (Event S ε σ)) :=
  fun e c s => ((M e c s.1).1, (M e c s.1).2, s.2 ++ [⟨s.1, e, c, (M e c s.1).1, (M e c s.1).2⟩])

/-- Remembering changes nothing. -/
theorem Prog.run_traced {S : Sig} {ε σ α : Type} (M : Store S ε σ) (e : ε) :
    ∀ (p : Prog S α) (s : σ) (h : List (Event S ε σ)),
      (Prog.run (traced M) e p (s, h)).1 = (Prog.run M e p s).1 ∧
      (Prog.run (traced M) e p (s, h)).2.1 = (Prog.run M e p s).2
  | .ret _, _, _ => ⟨rfl, rfl⟩
  | .call c k, s, _ => Prog.run_traced M e (k (M e c s).1) (M e c s).2 _

/-- The event a call becomes. -/
def eventAt {S : Sig} {ε σ : Type} (M : Store S ε σ) (e : ε) (c : S.Call) (s : σ) : Event S ε σ :=
  ⟨s, e, c, (M e c s).1, (M e c s).2⟩

theorem countP_snoc {α : Type} (q : α → Bool) (l : List α) (a : α) :
    (l ++ [a]).countP q = l.countP q + (q a).toNat := by
  rw [countP_append, countP_singleton]
  cases q a <;> rfl

/-! ### Running together -/

/-- Programs in progress over one store: the shared state, and each thread's record and remainder. -/
structure Pool (S : Sig) (ω σ : Type) where
  shared : σ
  threads : List (ω × Prog S Unit)

namespace Pool

variable {S : Sig} {ε σ ω : Type} (M : Store S ε σ) (m : Watch S ω)

/-- Every program at its beginning, with the record `w`. -/
def start (w : ω) (s : σ) (ps : List (Prog S Unit)) : Pool S ω σ :=
  ⟨s, ps.map fun p => (w, p)⟩

/-- Thread `i` makes its next call in the environment `e`; a finished thread does nothing. -/
def step (p : Pool S ω σ) (i : ℕ) (e : ε) : Pool S ω σ :=
  match p.threads[i]? with
  | some (w, .call c k) =>
    { shared := (M e c p.shared).2
      threads := p.threads.set i (m w c (M e c p.shared).1, k (M e c p.shared).1) }
  | _ => p

/-- The states a schedule leads through end here. -/
def run (p : Pool S ω σ) (sched : List (ℕ × ε)) : Pool S ω σ :=
  sched.foldl (fun q x => step M m q x.1 x.2) p

/-- Every step of the schedule meets `C` in the state it is taken in. -/
def Meets (C : Pool S ω σ → ℕ → ε → Prop) : Pool S ω σ → List (ℕ × ε) → Prop
  | _, [] => True
  | p, x :: xs => C p x.1 x.2 ∧ Meets C (step M m p x.1 x.2) xs

instance decidableMeets {C : Pool S ω σ → ℕ → ε → Prop} [∀ p i e, Decidable (C p i e)] :
    ∀ (p : Pool S ω σ) (sched : List (ℕ × ε)), Decidable (Meets M m C p sched)
  | _, [] => isTrue trivial
  | p, x :: xs =>
    have := decidableMeets (C := C) (step M m p x.1 x.2) xs
    inferInstanceAs (Decidable (_ ∧ _))

/-- All threads have returned. -/
def Finished (p : Pool S ω σ) : Prop := ∀ t ∈ p.threads, t.2.isRet = true
  deriving Decidable

/-- Every thread, from the record it has, obeys its own rules `P i` and ends in `Q i`. -/
def Obeying (A : ω → (c : S.Call) → S.Resp c → Prop) (P : ℕ → ω → S.Call → Prop)
    (Q : ℕ → ω → Prop) (p : Pool S ω σ) : Prop :=
  ∀ i w q, p.threads[i]? = some (w, q) → Prog.Obeys m A (P i) (fun w' _ => Q i w') q w

/-- What thread `i` does next. -/
abbrev Calling (p : Pool S ω σ) (i : ℕ) (w : ω) (c : S.Call) (k : S.Resp c → Prog S Unit) : Prop :=
  p.threads[i]? = some (w, .call c k)

variable {M m} {R : σ → ω → Prop}

section
variable {i j : ℕ} {e : ε} {w w' : ω} {c : S.Call} {q : Prog S Unit}
  {C D : Pool S ω σ → ℕ → ε → Prop} {J : Pool S ω σ → Prop} {I : Pool S ω σ → Prop} {p : Pool S ω σ}
  {k : S.Resp c → Prog S Unit}

/-- A step is one call of one thread, or the thread is at its end and nothing changes. -/
theorem step_cases (p : Pool S ω σ) (i : ℕ) (e : ε) :
    ((∀ w c k, p.threads[i]? ≠ some (w, .call c k)) ∧ step M m p i e = p) ∨
    ∃ w c k, p.threads[i]? = some (w, .call c k) ∧
      step M m p i e = { shared := (M e c p.shared).2
                         threads := p.threads.set i
                           (m w c (M e c p.shared).1, k (M e c p.shared).1) } := by
  unfold step
  split
  · rename_i w c k h
    exact .inr ⟨w, c, k, h, rfl⟩
  · rename_i h
    exact .inl ⟨h, rfl⟩

/-- What holds of the pool holds after a step if it does after a call. -/
theorem step_ind {i : ℕ} {e : ε} (h : I p)
    (hcall : ∀ w c k, p.threads[i]? = some (w, .call c k) → I (step M m p i e)) : I (step M m p i e) := by
  rcases step_cases p i e with ⟨-, hs⟩ | ⟨w, c, k, hi, -⟩
  · rw [hs]
    exact h
  · exact hcall w c k hi

theorem step_shared (hi : p.Calling i w c k) : (step M m p i e).shared = (M e c p.shared).2 := by
  simp only [step, hi]

theorem traced_shared {p : Pool S ω (σ × List (Event S ε σ))} (hi : p.Calling i w c k) :
    (step (traced M) m p i e).shared =
      ((M e c p.shared.1).2, p.shared.2 ++ [eventAt M e c p.shared.1]) := step_shared hi

/-- After a call of thread `i`, a thread is that one with its new record, or another one as it was. -/
theorem step_thread (hi : p.Calling i w c k) (hj : (step M m p i e).threads[j]? = some (w', q)) :
    (j = i ∧ w' = m w c (M e c p.shared).1 ∧ q = k (M e c p.shared).1) ∨
      (j ≠ i ∧ p.threads[j]? = some (w', q)) := by
  simp only [step, hi] at hj
  rw [List.getElem?_set] at hj
  split at hj
  · rename_i hij
    split at hj
    · cases hj
      exact .inl ⟨hij.symm, rfl, rfl⟩
    · cases hj
  · rename_i hij
    exact .inr ⟨fun h => hij h.symm, hj⟩

/-- A thread is still there after a call, and only its own call changes it. -/
theorem step_later (hi : p.Calling i w c k)
    (hj : p.threads[j]? = some (w', q)) : ∃ w'' q', (step M m p i e).threads[j]? = some (w'', q') ∧
      ((j = i ∧ w' = w ∧ w'' = m w c (M e c p.shared).1) ∨ (j ≠ i ∧ w'' = w')) := by
  simp only [step, hi, List.getElem?_set]
  split
  · rename_i hij
    cases hij
    rw [hi] at hj
    cases hj
    rw [if_pos (List.getElem?_eq_some_iff.mp hi).1]
    exact ⟨_, _, rfl, .inl ⟨rfl, rfl, rfl⟩⟩
  · rename_i hij
    exact ⟨w', q, hj, .inr ⟨Ne.symm hij, rfl⟩⟩

variable (p : Pool S ω σ)

@[simp] theorem run_nil : run M m p [] = p := rfl

@[simp] theorem run_cons (x : ℕ × ε) (xs : List (ℕ × ε)) :
    run M m p (x :: xs) = run M m (step M m p x.1 x.2) xs := rfl

theorem run_append (xs ys : List (ℕ × ε)) :
    run M m p (xs ++ ys) = run M m (run M m p xs) ys := foldl_append

theorem meets_append {ys : List (ℕ × ε)} : ∀ {xs : List (ℕ × ε)} {p : Pool S ω σ},
      Meets M m C p (xs ++ ys) ↔ Meets M m C p xs ∧ Meets M m C (run M m p xs) ys
  | [], _ => ⟨fun h => ⟨trivial, h⟩, fun h => h.2⟩
  | x :: xs, p => by
      rw [cons_append, Meets, meets_append, ← and_assoc]
      rfl

theorem meets_of_forall (h : ∀ p i e, C p i e) :
    ∀ (sched : List (ℕ × ε)) (p : Pool S ω σ), Meets M m C p sched
  | [], _ => trivial
  | x :: xs, p => ⟨h p x.1 x.2, meets_of_forall h xs _⟩

theorem Meets.mono (h : ∀ p i e, C p i e → D p i e) :
    ∀ {sched : List (ℕ × ε)} {p : Pool S ω σ}, Meets M m C p sched → Meets M m D p sched
  | [], _, _ => trivial
  | x :: _, p, hC => ⟨h p x.1 x.2 hC.1, Meets.mono h hC.2⟩

/-- Two conditions that agree wherever `J` holds are met by the same schedules. -/
theorem meets_congr
    (hJ : ∀ p i e, J p → J (step M m p i e)) (h : ∀ p i e, J p → (C p i e ↔ D p i e)) :
    ∀ (sched : List (ℕ × ε)) (p : Pool S ω σ), J p → (Meets M m C p sched ↔ Meets M m D p sched)
  | [], _, _ => Iff.rfl
  | x :: xs, p, hp =>
    and_congr (h p x.1 x.2 hp) (meets_congr hJ h xs _ (hJ p x.1 x.2 hp))

theorem Meets.and :
    ∀ {sched : List (ℕ × ε)} {p : Pool S ω σ}, Meets M m C p sched → Meets M m D p sched →
      Meets M m (fun p i e => C p i e ∧ D p i e) p sched
  | [], _, _, _ => trivial
  | _ :: _, _, hC, hD => ⟨⟨hC.1, hD.1⟩, Meets.and hC.2 hD.2⟩

/-- Run rule: what every step that meets `C` preserves, every such schedule preserves. -/
theorem run_inv (hstep : ∀ p i e, I p → C p i e → I (step M m p i e)) :
    ∀ (sched : List (ℕ × ε)) (p : Pool S ω σ), I p → Meets M m C p sched → I (run M m p sched)
  | [], _, hp, _ => hp
  | x :: xs, p, hp, hC => run_inv hstep xs _ (hstep p x.1 x.2 hp hC.1) hC.2

/-- Run rule: if a step that meets `C` meets `D` too and preserves `I`, all steps meet `D`. -/
theorem meets_inv
    (hstep : ∀ p i e, I p → C p i e → D p i e ∧ I (step M m p i e)) :
    ∀ (sched : List (ℕ × ε)) (p : Pool S ω σ), I p → Meets M m C p sched → Meets M m D p sched
  | [], _, _, _ => trivial
  | x :: xs, p, hp, hC =>
    have h := hstep p x.1 x.2 hp hC.1
    ⟨h.1, meets_inv hstep xs _ h.2 hC.2⟩

/-- Run rule for schedules in the order of time. What holds at a moment holds later, and a step that
    meets `C` keeps it and meets `D`: then all steps meet `D`. -/
theorem meets_in_time {τ : Type} [LE τ] (clock : ε → τ) {I : τ → Pool S ω σ → Prop}
    (hlater : ∀ {t t' p}, t ≤ t' → I t p → I t' p)
    (hstep : ∀ p i e, I (clock e) p → C p i e → D p i e ∧ I (clock e) (step M m p i e))
    {sched : List (ℕ × ε)} : ∀ {p : Pool S ω σ}, (∀ x ∈ sched, I (clock x.2) p) →
      sched.Pairwise (fun x y => clock x.2 ≤ clock y.2) → Meets M m C p sched → Meets M m D p sched := by
  induction sched with
  | nil =>
    intro p _ _ _
    trivial
  | cons x xs ih =>
    intro p hI htime hC
    obtain ⟨hD, hnext⟩ := hstep p x.1 x.2 (hI x (.head _)) hC.1
    obtain ⟨hx, hxs⟩ := pairwise_cons.mp htime
    exact ⟨hD, ih (fun y hy => hlater (hx y hy) hnext) hxs hC.2⟩

/-- If `J` always holds and, under it, a step keeps `I` exactly when it meets `C`, then `I` holds in
    every state a schedule leads through exactly when all its steps meet `C`. -/
theorem always_iff_meets (hJ : ∀ p i e, J p → J (step M m p i e))
    (hI : ∀ p i e, J p → I p → (I (step M m p i e) ↔ C p i e)) :
    ∀ (sched : List (ℕ × ε)) (p : Pool S ω σ), J p → I p →
      ((∀ pre, pre <+: sched → I (run M m p pre)) ↔ Meets M m C p sched)
  | [], p, _, hp => by
      refine ⟨fun _ => trivial, fun _ pre hpre => ?_⟩
      rw [prefix_nil.mp hpre]
      exact hp
  | x :: xs, p, hJp, hp => by
      constructor
      · intro h
        have h1 : I (step M m p x.1 x.2) := by
          simpa using h [x] ⟨xs, rfl⟩
        refine ⟨(hI p x.1 x.2 hJp hp).mp h1, ?_⟩
        refine (always_iff_meets hJ hI xs _ (hJ p x.1 x.2 hJp) h1).mp fun pre hpre => ?_
        simpa using h (x :: pre) (cons_prefix_cons.mpr ⟨rfl, hpre⟩)
      · rintro ⟨hC, hrest⟩ pre hpre
        have h1 := (hI p x.1 x.2 hJp hp).mpr hC
        cases pre with
        | nil => exact hp
        | cons y ys =>
          obtain ⟨rfl, hys⟩ := cons_prefix_cons.mp hpre
          exact (always_iff_meets hJ hI xs _ (hJ p y.1 y.2 hJp) h1).mpr hrest ys hys

/-- If under `J`, which steps that meet `D` preserve, `I` holds after a step exactly when it held before
    and the step meets `C`, then `I` holds at the end exactly when all steps meet `C`. -/
theorem run_iff_meets (hJ : ∀ p i e, J p → D p i e → J (step M m p i e))
    (hI : ∀ p i e, J p → D p i e → (I (step M m p i e) ↔ I p ∧ C p i e))
    (sched : List (ℕ × ε)) : ∀ p : Pool S ω σ, J p → Meets M m D p sched →
      (I (run M m p sched) ↔ I p ∧ Meets M m C p sched) := by
  induction sched with
  | nil =>
    intro p _ _
    exact (and_iff_left trivial).symm
  | cons x xs ih =>
    intro p hp hD
    rw [run_cons, ih _ (hJ p x.1 x.2 hp hD.1) hD.2, hI p x.1 x.2 hp hD.1, and_assoc]
    rfl

end

section
variable {A : ω → (c : S.Call) → S.Resp c → Prop} {P : ℕ → ω → S.Call → Prop} {Q : ℕ → ω → Prop}
  {p : Pool S ω σ} {w : ω} {i : ℕ}

theorem obeying_start {s : σ} {ps : List (Prog S Unit)}
    (h : ∀ i q, ps[i]? = some q → Prog.Obeys m A (P i) (fun w' _ => Q i w') q w) :
    Obeying m A P Q (start w s ps) := by
  intro i w' q hi
  simp only [start, List.getElem?_map, Option.map_eq_some_iff, Prod.mk.injEq] at hi
  obtain ⟨q', hq', rfl, rfl⟩ := hi
  exact h i q' hq'

/-- The call a thread is about to make is one its record allows. -/
theorem Obeying.allowed (h : Obeying m A P Q p) {c : S.Call}
    {k : S.Resp c → Prog S Unit} (hi : p.Calling i w c k) : P i w c :=
  (h i w _ hi).1

/-- A thread that has returned has ended as it should. -/
theorem Obeying.ended (h : Obeying m A P Q p) (hfin : Finished p)
    {q : Prog S Unit} (hi : p.threads[i]? = some (w, q)) : Q i w := by
  cases q with
  | ret u => exact h i w _ hi
  | call c k => cases hfin _ (mem_of_getElem? hi)

/-- A step whose response satisfies `A` keeps every thread obeying. -/
theorem obeying_step {e : ε} (h : Obeying m A P Q p)
    (hA : ∀ w c k, p.threads[i]? = some (w, .call c k) → A w c (M e c p.shared).1) :
    Obeying m A P Q (step M m p i e) := by
  rcases step_cases p i e with ⟨-, hs⟩ | ⟨w, c, k, hi, -⟩
  · rw [hs]; exact h
  · intro j w' q hj
    rcases step_thread hi hj with ⟨rfl, rfl, rfl⟩ | ⟨-, hj⟩
    · exact (h _ w _ hi).2 _ (hA w c k hi)
    · exact h j w' q hj

end

/-! ### Records and the shared state -/

/-- Every thread's record agrees with the shared state. -/
def Recorded (R : σ → ω → Prop) (p : Pool S ω σ) : Prop :=
  ∀ (i : ℕ) (w : ω) (q : Prog S Unit), p.threads[i]? = some (w, q) → R p.shared w

theorem recorded_start {w : ω} {s : σ} {ps : List (Prog S Unit)} (h : R s w) : Recorded R (start w s ps) := by
  intro i w' q hi
  simp only [start, List.getElem?_map, Option.map_eq_some_iff, Prod.mk.injEq] at hi
  obtain ⟨_, _, rfl, _⟩ := hi
  exact h

/-- A call after which every record that agreed still does, and the caller's new one does too. -/
theorem recorded_step {p : Pool S ω σ} {i : ℕ} {e : ε} (h : Recorded R p)
    (hcall : ∀ w c k, p.threads[i]? = some (w, .call c k) → R p.shared w →
      (∀ w', R p.shared w' → R (M e c p.shared).2 w') ∧
        R (M e c p.shared).2 (m w c (M e c p.shared).1)) : Recorded R (step M m p i e) := by
  rcases step_cases p i e with ⟨-, hs⟩ | ⟨w, c, k, hi, -⟩
  · rw [hs]; exact h
  · obtain ⟨hold, hnew⟩ := hcall w c k hi (h i w _ hi)
    intro j w' q hj
    rw [step_shared hi]
    rcases step_thread hi hj with ⟨-, rfl, -⟩ | ⟨-, hj⟩
    · exact hnew
    · exact hold w' (h j w' q hj)

end Pool

end Lib
