import IspBss.Lib.Program

/-! Two signatures side by side, and what a program hands back to its caller.

    A program over `S` is also one over `S.sum T` (`Prog.left`): it makes its own calls and none of the
    other signature. Two stores answer the calls of the sum, each on its own half of the state. Calls
    can carry a tag, so that a history shows what each was made for.

    The result of a thread of a pool is not part of the pool. `Prog.reply` makes it observable: when
    the program ends it hands its result to its caller, and `collect` keeps what callers were given.

        p : Prog S α ──left──▶ … ──ret a──▶ call (inr (f a))      replies: …, f a -/

namespace Lib

/-- The calls of both signatures. -/
@[reducible] def Sig.sumResp (S T : Sig) : S.Call ⊕ T.Call → Type
  | .inl c => S.Resp c
  | .inr c => T.Resp c

/-- Two signatures side by side. -/
@[reducible] def Sig.sum (S T : Sig) : Sig := ⟨S.Call ⊕ T.Call, S.sumResp T⟩

/-- Two stores side by side: each call goes to the store of its signature. -/
def Store.beside {S T : Sig} {ε σ τ : Type} (M : Store S ε σ) (N : Store T ε τ) :
    Store (S.sum T) ε (σ × τ)
  | e, .inl c, s => ((M e c s.1).1, (M e c s.1).2, s.2)
  | e, .inr c, s => ((N e c s.2).1, s.1, (N e c s.2).2)

namespace Prog

variable {S T : Sig} {ω α β ρ : Type}

/-- The same program over the larger signature. -/
def left : Prog S α → Prog (S.sum T) α
  | ret a => ret a
  | call c k => call (S := S.sum T) (.inl c) fun r => left (k r)

/-- It makes no call of the other signature. -/
theorem calls_left {P : (S.sum T).Call → Prop} (h : ∀ c, P (.inl c)) : ∀ p : Prog S α,
    (p.left (T := T)).Calls P
  | ret _ => trivial
  | call c k => ⟨h c, fun r => calls_left h (k r)⟩

/-- It answers as before and leaves the other half alone. -/
theorem run_left {ε σ τ : Type} (M : Store S ε σ) (N : Store T ε τ) (e : ε) : ∀ (p : Prog S α) (s : σ × τ),
    run (M.beside N) e (p.left (T := T)) s = ((run M e p s.1).1, (run M e p s.1).2, s.2)
  | ret _, _ => rfl
  | call c k, s => run_left M N e (k (M e c s.1).1) ((M e c s.1).2, s.2)

/-- A store that looks only at a part of its environment. -/
theorem run_env {ε ε' σ : Type} (M : Store S ε σ) (f : ε' → ε) (e : ε') : ∀ (p : Prog S α) (s : σ),
    run (fun e => M (f e)) e p s = run M (f e) p s
  | ret _, _ => rfl
  | call c k, s => run_env M f e (k (M (f e) c s).1) (M (f e) c s).2

/-- What a program does over the larger signature is what it does over its own. -/
theorem obeys_left {m : Watch (S.sum T) ω} {A : ω → (c : (S.sum T).Call) → (S.sum T).Resp c → Prop}
    {P : ω → (S.sum T).Call → Prop} {Q : ω → α → Prop} : ∀ {p : Prog S α} {w : ω},
    Obeys m A P Q (p.left (T := T)) w ↔ Obeys (fun w c r => m w (.inl c) r)
      (fun w c r => A w (.inl c) r) (fun w c => P w (.inl c)) Q p w
  | ret _, _ => Iff.rfl
  | call _ k, _ =>
    and_congr_right fun _ => forall_congr' fun r => imp_congr_right fun _ => obeys_left

end Prog

/-! ### Tags -/

/-- The calls of `S`, each with a tag that says on whose behalf it is made. -/
@[reducible] def Sig.tagged (τ : Type) (S : Sig) : Sig := ⟨τ × S.Call, fun c => S.Resp c.2⟩

namespace Prog

variable {S : Sig} {τ ω α : Type}

/-- The same program, with every call tagged. -/
def tag (t : τ) : Prog S α → Prog (S.tagged τ) α
  | ret a => ret a
  | call c k => call (S := S.tagged τ) (t, c) fun r => tag t (k r)

/-- What a tagged program does is what the program does, tagged. -/
theorem obeys_tag {m : Watch (S.tagged τ) ω} {A : ω → (c : τ × S.Call) → S.Resp c.2 → Prop}
    {P : ω → τ × S.Call → Prop} {Q : ω → α → Prop} {t : τ} : ∀ {p : Prog S α} {w : ω},
    Obeys m A P Q (p.tag t) w ↔ Obeys (fun w c r => m w (t, c) r)
      (fun w c r => A w (t, c) r) (fun w c => P w (t, c)) Q p w
  | ret _, _ => Iff.rfl
  | call _ k, _ =>
    and_congr_right fun _ => forall_congr' fun r => imp_congr_right fun _ => obeys_tag

end Prog

/-! ### Replies -/

/-- Handing a reply to a caller. -/
@[reducible] def replies (ρ : Type) : Sig := ⟨ρ, fun _ => Unit⟩

/-- The replies callers were given, in order. -/
def collect {ρ ε : Type} : Store (replies ρ) ε (List ρ) := fun _ r rs => ((), rs ++ [r])

/-- Run `p` and hand its result to the caller. -/
def Prog.reply {S : Sig} {α ρ : Type} (f : α → ρ) (p : Prog S α) : Prog (S.sum (replies ρ)) Unit :=
  p.left >>= fun a => Prog.perform (S := S.sum (replies ρ)) (.inr (f a))

end Lib
