import IspBss.Props.TokenReuse

/-! What a wallet call does when nothing else runs.

    Alone, a call posts from the balance that is stored, and only if its token is new; in every other
    case the database stays as it was.

        bad request ─────────────────────────────▶ error, unchanged
        token on the ledger ─────────────────────▶ the earlier transaction, unchanged
        read fails, balance too low, post fails ─▶ error, unchanged
        otherwise ───────────────────────────────▶ a new transaction, one posting                  -/

namespace IspBss

open Lib Lib.Numeric Prog BillingStore WalletService

/-- The answer is a new transaction, not one that an earlier call posted with this token. -/
def NewlyPosted (token : String) (s : DB) (answer : Except WalletErr Transaction) : Prop :=
  answer.isOk = true ∧ (token = "" ∨ s.walletLedgers.find? token = none)
  deriving Decidable

/-- A call leaves the database as it was, or it has posted and the result satisfies `P`. -/
def PostsOrNot (token : String) (s : DB) (P : DB → Prop) (out : Except WalletErr Transaction × DB) : Prop :=
  (¬NewlyPosted token s out.1 ∧ out.2 = s) ∨ (NewlyPosted token s out.1 ∧ P out.2)

section
variable {e : Env} {token : String} {s : DB} {P : DB → Prop}

theorem postsOrNot_error (err : WalletErr) : PostsOrNot token s P (.error err, s) :=
  .inl ⟨fun h => Bool.false_ne_true h.1, rfl⟩

theorem exec_balance (e : Env) (id : ℤ) (s : DB) :
    (∃ err, exec e (.db (.getSubscriberBalance id)) s = (.error err, s)) ∨
    ∃ r, s.subscribers.lookup id = some r ∧
      exec e (.db (.getSubscriberBalance id)) s = (.ok (paise r.walletBalance), s) := by
  rcases exec_db_cases e (.getSubscriberBalance id) s with ⟨err, hx⟩ | ⟨a, s', htx, hx, -⟩
  · exact .inl ⟨err, hx⟩
  · obtain ⟨⟨r, hr, rfl⟩, rfl⟩ := GetSubscriberBalance_ok htx
    exact .inr ⟨r, hr, hx⟩

/-- A transaction is only found for a token that is on the ledger. -/
theorem run_lookupToken (e : Env) (token : String) (s : DB) :
    (run exec e (lookupToken token) s).2 = s ∧
    ((run exec e (lookupToken token) s).1 = none ∨
      token ≠ "" ∧ s.walletLedgers.find? token ≠ none) := by
  unfold lookupToken
  split
  · exact ⟨rfl, .inl rfl⟩
  rename_i htoken
  simp only [db_bind, run_db]
  rcases exec_db_cases e (.getTransactionByToken token) s with ⟨err, hx⟩ | ⟨a, s', htx, hx, -⟩
  · rw [hx]
    exact ⟨rfl, .inl rfl⟩
  · obtain ⟨rfl, hfound⟩ := GetTransactionByToken_ok htx
    rw [hx]
    refine ⟨rfl, ?_⟩
    cases a with
    | none => exact .inl rfl
    | some tx =>
      refine .inr ⟨htoken, fun hnone => ?_⟩
      have hsome := hfound htoken
      rw [hnone] at hsome
      cases hsome

/-- The call goes on only if its token was not found. -/
theorem lookup_outcome {k : Option Transaction → Service (Except WalletErr Transaction)}
    (hsome : ∀ tx, k (some tx) = Prog.ret (.ok tx)) (hnone : PostsOrNot token s P (run exec e (k none) s)) :
    PostsOrNot token s P (run exec e (lookupToken token >>= k) s) := by
  rw [Prog.run_bind]
  obtain ⟨hstate, hfound⟩ := run_lookupToken e token s
  generalize run exec e (lookupToken token) s = found at hstate hfound
  obtain ⟨found, s₁⟩ := found
  subst hstate
  cases found with
  | none => exact hnone
  | some tx =>
    rw [hsome]
    refine .inl ⟨fun hnew => ?_, rfl⟩
    rcases hfound with hnone | ⟨hne, htaken⟩
    · cases hnone
    · exact hnew.2.elim hne htaken

theorem recordPosting_outcome {p : RechargePosting} (htoken : p.credit.transactionToken = nullIfEmpty token)
    (hP : ∀ tx s', RecordRecharge p s = .ok (tx, s') → P s') :
    PostsOrNot token s P (run exec e (recordPosting p) s) := by
  simp only [recordPosting, db_bind, run_db]
  rcases exec_db_cases e (.recordRecharge p) s with ⟨err, hx⟩ | ⟨tx, s', htx, hx, -⟩
  · rw [hx]
    exact postsOrNot_error _
  · rw [hx]
    refine .inr ⟨⟨rfl, ?_⟩, hP tx s' htx⟩
    -- the unique index let the row in, so its token was free
    obtain ⟨counter, row, hrows, -, hkey, -, -⟩ := RecordRecharge_row htx
    by_cases hempty : token = ""
    · exact .inl hempty
    · refine .inr (Indexed.find?_none_of_append hrows (r := row) (by simp) ?_)
      rw [hkey, htoken, nullIfEmpty, if_neg hempty]

/-- A posting starts from the stored balance, or changes nothing. -/
theorem Post_outcome {req : PostRequest}
    (hP : ∀ d r b tx s', req.direction = some d → s.subscribers.lookup req.subscriberID = some r →
      newBalance d (paise r.walletBalance) req.amount = some b →
      RecordRecharge (req.posting d b) s = .ok (tx, s') → P s') :
    PostsOrNot req.transactionToken s P (run exec e (Post req) s) := by
  unfold Post
  split
  · exact postsOrNot_error _
  split
  · exact postsOrNot_error _
  rename_i d hd
  split
  · exact postsOrNot_error _
  refine lookup_outcome (fun _ => rfl) ?_
  simp only [db_bind, run_db]
  rcases exec_balance e req.subscriberID s with ⟨err, hx⟩ | ⟨r, hr, hx⟩
  · rw [hx]
    exact postsOrNot_error _
  · rw [hx]
    dsimp only
    split
    · exact postsOrNot_error _
    · rename_i b hb
      exact recordPosting_outcome rfl fun tx s' htx => hP d r b tx s' hd hr hb htx

/-- A recharge posts its amount on top of the stored balance, or changes nothing. -/
theorem Recharge_outcome {req : RechargeRequest} (hP : ∀ r tx s', s.subscribers.lookup req.subscriberID = some r →
      RecordRecharge (req.posting (paise r.walletBalance + req.amount)) s = .ok (tx, s') →
      P s') : PostsOrNot req.transactionToken s P (run exec e (Recharge req) s) := by
  rw [Recharge_eq_Post]
  refine Post_outcome fun d r b tx s' hd hr hb htx => ?_
  cases hd
  cases hb
  exact hP r tx s' hr htx

end

end IspBss
