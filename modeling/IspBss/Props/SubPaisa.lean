import IspBss.Props.GeneralLedger

/-! Amounts with more than two decimals.

    The request's amount goes to the store as it is. The store rounds the amount of a row and the new
    balance on their own, halves away from zero:

        credit    round (b + x) = b + round x
        debit     round (b − x) = b − round x     unless `x` is an odd number of half paise,
                                                  which both sides round up

    A debit of exactly half a paisa leaves the balance one paisa above the ledger. -/

namespace IspBss

open Lib Lib.Numeric EntryType

/-- The subscriber's `subscriber_wallet` rows, in the order they were written. -/
def walletRows (s : DB) (id : ℤ) : List WalletLedger :=
  s.walletLedgers.rows.filter fun r => r.subscriberID = id ∧ r.account = .subscriberWallet

/-- The stored balance is the net of the wallet rows and the balance after the last of them. -/
def LedgerAgrees (id : ℤ) (s : DB) : Prop :=
  ∃ r, s.subscribers.lookup id = some r ∧ r.walletBalance = walletNet s id ∧
    ∀ row ∈ (walletRows s id).getLast?, row.balanceAfter = r.walletBalance

/-- A positive amount, with any number of decimals, for this subscriber; a posting has one of the
    clearing accounts opposite the wallet. -/
def WalletCall.OnWallet (id : ℤ) : WalletCall → Prop
  | recharge req => req.subscriberID = id ∧ 0 < req.amount
  | post req => req.subscriberID = id ∧ 0 < req.amount ∧ req.counterAccount ≠ .subscriberWallet

/-- A debit that ends in exactly half a paisa. -/
def WalletCall.HalfDebit : WalletCall → Prop
  | recharge _ => False
  | post req => req.direction = some .debit ∧ ∃ k : ℤ, req.amount = paise k + 1 / 200

/-- A posting to the subscriber's wallet that says the new balance in its wallet leg. -/
structure ForWallet (id : ℤ) (p : RechargePosting) : Prop where
  sub : p.subscriberID = id
  credit_sub : p.credit.subscriberID = id
  wallet : p.credit.account = .subscriberWallet
  counter : p.debit.account ≠ .subscriberWallet
  after : p.credit.balanceAfter = p.newBalance

theorem numeric12_eq {q : Decimal} {n : ℤ} (h : numeric12 q = some n) : n = roundHalfAway (q * 10 ^ 2) := by
  unfold numeric12 toFixed at h
  dsimp only at h
  split at h
  · exact (Option.some.inj h).symm
  · cases h

theorem paise_mul (n : ℤ) : paise n * 10 ^ 2 = n := ofFixed_mul 2 n

/-- Two more rows, the second for the wallet and with the stored balance. -/
theorem agrees_after_rows {id : ℤ} {s s' : DB} {r' : Subscriber} {counter row : WalletLedger}
    (hlook : s'.subscribers.lookup id = some r')
    (hrows : s'.walletLedgers.rows = s.walletLedgers.rows ++ [counter, row])
    (hcounter : counter.account ≠ .subscriberWallet) (hsub : row.subscriberID = id)
    (hacc : row.account = .subscriberWallet) (hafter : row.balanceAfter = r'.walletBalance) :
    LedgerAgrees id s' ↔ r'.walletBalance = walletNet s id + row.entryType.signed row.amount := by
  have hdelta : walletDelta id row = row.entryType.signed row.amount := by
    rw [walletDelta, if_pos ⟨hsub, hacc⟩]
    cases row.entryType <;> rfl
  have hother : walletDelta id counter = 0 := if_neg fun h => hcounter h.2
  simp [LedgerAgrees, walletNet, walletRows, hlook, hrows, hdelta, hother, hcounter, hsub, hacc, hafter]

/-- A posting keeps the ledger in agreement exactly when the balance is rounded as the amount is. -/
theorem RecordRecharge_agrees {id : ℤ} {p : RechargePosting} {s s' : DB} {tx : Transaction}
    (hp : ForWallet id p) {r : Subscriber} (hr : s.subscribers.lookup id = some r)
    (hs : LedgerAgrees id s) (h : BillingStore.RecordRecharge p s = .ok (tx, s')) :
    LedgerAgrees id s' ↔ roundHalfAway (p.newBalance * 10 ^ 2) =
      r.walletBalance + p.credit.entryType.signed (roundHalfAway (p.credit.amount * 10 ^ 2)) := by
  obtain ⟨r₀, hr₀, hnet, -⟩ := hs
  cases hr.symm.trans hr₀
  simp only [BillingStore.RecordRecharge, Tx.bind_ok, ↓Tx.orThrow_bind_ok, Tx.pure_ok] at h
  obtain ⟨i, s₁, h₁, j, s₂, h₂, m, hm, hit, s₃, hupd, u, s₄, hgl, hres⟩ := h
  cases hres
  obtain ⟨d, bd, c, bc, ledgers, -, hc, hbc, -, hrows, rfl⟩ := insertLegs_ok h₁ h₂
  obtain ⟨entry, rfl⟩ := postWalletGLEntry_ok hgl
  rcases updateWhereID_ok hupd with ⟨-, -, hnone⟩ | ⟨-, r₁, r', hr₁, hr', rfl⟩
  · rw [hp.sub] at hnone
    cases hr.symm.trans hnone
  -- the wallet row holds the new balance, rounded as the column of the subscriber is
  rw [hp.after, hm] at hbc
  cases hbc
  have hstored : r'.walletBalance = m := by rw [hr']
  refine (agrees_after_rows (hp.sub ▸ DB.lookup_setRow _ _ r') hrows hp.counter hp.credit_sub
    hp.wallet hstored.symm).trans ?_
  rw [hstored, ← hnet, numeric12_eq hm]
  change _ = _ + p.credit.entryType.signed c ↔ _
  rw [numeric12_eq hc]

/-- One call: nothing, or a posting that keeps the agreement unless it is a debit of half a paisa. -/
theorem WalletCall.agrees {id : ℤ} {c : WalletCall} (hc : c.OnWallet id) (e : Env) {s : DB}
    (hs : LedgerAgrees id s) :
    PostsOrNot c.token s (fun s' => LedgerAgrees id s' ↔ ¬ c.HalfDebit) (Prog.run exec e c.result s) := by
  cases c with
  | recharge req =>
    obtain ⟨rfl, hpos⟩ := hc
    refine Recharge_outcome fun r tx s' hr htx => ?_
    have hp : ForWallet req.subscriberID (req.posting (paise r.walletBalance + req.amount)) :=
      ⟨rfl, rfl, rfl, by simp [RechargeRequest.posting], rfl⟩
    rw [RecordRecharge_agrees hp hr hs htx]
    refine iff_of_true ?_ not_false
    have hb : (0 : ℚ) ≤ r.walletBalance := by exact_mod_cast r.balance_nonneg
    simp only [RechargeRequest.posting, signed, add_mul, paise_mul]
    exact roundHalfAway_add _ (by positivity) (by positivity)
  | post req =>
    obtain ⟨rfl, hpos, hacc⟩ := hc
    refine Post_outcome fun d r b tx s' hd hr hb htx => ?_
    have hp : ForWallet req.subscriberID (req.posting d b) := ⟨rfl, rfl, rfl, hacc, rfl⟩
    rw [RecordRecharge_agrees hp hr hs htx]
    simp only [PostRequest.posting, HalfDebit, hd, Option.some.injEq]
    have hb₀ : (0 : ℚ) ≤ r.walletBalance := by exact_mod_cast r.balance_nonneg
    cases d with
    | credit =>
      cases hb
      simp only [signed, add_mul, paise_mul, reduceCtorEq, false_and, not_false_iff, iff_true]
      exact roundHalfAway_add _ (by positivity) (by positivity)
    | debit =>
      simp only [WalletService.newBalance] at hb
      split at hb
      · cases hb
      · rename_i hnot
        cases hb
        simp only [signed, sub_mul, paise_mul, true_and, not_exists, ← sub_eq_add_neg]
        rw [not_lt, ← mul_le_mul_iff_left₀ (by norm_num : (0 : ℚ) < 10 ^ 2), zero_mul, sub_mul,
          paise_mul] at hnot
        rw [roundHalfAway_sub_iff _ (by positivity) hnot]
        refine forall_congr' fun k => not_congr ?_
        have hk := paise_mul k
        constructor
        · intro h; linarith
        · intro h; linarith

/-- Any number of recharges and postings on one wallet, one after another, with amounts of any number of
    decimals, any clock and any failing store calls: as long as no debit ends in exactly half a paisa,
    the stored balance is the net of the wallet rows and the balance after the last one. -/
theorem ledger_agrees_always (id : ℤ) (s : DB) (hs : LedgerAgrees id s) (calls : List (Env × WalletCall))
    (hcalls : ∀ x ∈ calls, x.2.OnWallet id) (hhalf : ∀ x ∈ calls, ¬ x.2.HalfDebit)
    (pre : List (Env × WalletCall)) (hpre : pre <+: calls) : LedgerAgrees id (bookAll s pre) := by
  refine Run.always (C := fun _ x => x.2.OnWallet id ∧ ¬ x.2.HalfDebit) (fun s x hs hx => ?_) hs ?_ hpre
  · rcases x.2.agrees hx.1 x.1 hs with ⟨-, hsame⟩ | ⟨-, hposted⟩
    · rw [hsame]
      exact hs
    · exact hposted.mpr hx.2
  · refine (Run.meets_iff_forall calls).mpr fun _ x h => ?_
    have hx : x ∈ calls := h.subset (by simp)
    exact ⟨hcalls x hx, hhalf x hx⟩

/-- One rupee paid in, and a debit of this amount. -/
def rupeeThen (amount : Decimal) : List (Env × WalletCall) :=
  [(.at 0, .recharge ⟨1, 1, "", none, "cash"⟩),
   (.at 0, .post ⟨1, none, amount, some .debit, .adjustmentClearing, "", "staff", "staff adjustment: x", 0⟩)]

/-- After a debit of half a paisa the row says 0.01, and the balance still 1.00. -/
theorem half_paisa_drifts : ¬ LedgerAgrees 1 (bookAll oneSubscriber (rupeeThen (1 / 200))) := by
  rintro ⟨r, hr, hnet, -⟩
  have hsum : walletNet (bookAll oneSubscriber (rupeeThen (1 / 200))) 1 = 99 := by decide +kernel
  have hrow : ((bookAll oneSubscriber (rupeeThen (1 / 200))).subscribers.lookup 1).map
      (fun r => r.walletBalance) = some 100 := by decide +kernel
  rw [hr, Option.map_some, hnet, hsum] at hrow
  cases hrow

/-- A debit of 0.013 is one of 0.01 for both. -/
theorem small_debit_agrees : LedgerAgrees 1 (bookAll oneSubscriber (rupeeThen (13 / 1000))) := by
  have hrows : walletRows oneSubscriber 1 = [] := rfl
  refine ledger_agrees_always 1 oneSubscriber ⟨_, rfl, rfl, by simp [hrows]⟩
    (rupeeThen (13 / 1000)) ?_ ?_ _ List.prefix_rfl
  · simp [rupeeThen, WalletCall.OnWallet]
  · simp only [rupeeThen, List.mem_cons, List.not_mem_nil, or_false, forall_eq_or_imp, forall_eq,
      WalletCall.HalfDebit, not_false_iff, true_and, not_exists]
    intro k hk
    have hint : (8 : ℚ) = 10 * k := by linarith [paise_mul k]
    have : (8 : ℤ) = 10 * k := by exact_mod_cast hint
    omega

end IspBss
