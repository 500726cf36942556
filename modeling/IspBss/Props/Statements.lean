import IspBss.Db.Ledger
import Mathlib.Data.List.ReduceOption
import Mathlib.Tactic

/-! Do the two financial statements fit together?

        gl_balance_sheet(T)           entry_date < T         assets     liabilities   equity
        gl_income_statement(a, b)     a ≤ entry_date < b     expenses   income

    Every account is in one of them, and every entry adds up to zero. So the balance sheet lacks
    exactly what is left of the income. -/

namespace IspBss.Ledger

open List

variable (L : GeneralLedger) (window : Time → Bool) (a : Account)

/-- The total of the rows of a type. -/
def totalOf (t : AccountType) (rows : List StatementRow) : ℤ :=
  ((rows.filter (·.account.accountType = t)).map StatementRow.amount).sum

/-- What is stated for an account. -/
def amountOf (id : ℤ) (rows : List StatementRow) : ℤ :=
  ((rows.filter (·.account.id = id)).map StatementRow.amount).sum

/-- Assets and expenses are debit-normal, the others credit-normal. -/
def Conventional : Prop :=
  ∀ a ∈ L.accounts, a.normalBalance = if a.accountType ∈ [.asset, .expense] then .debit else .credit

/-! ### Debits less credits -/

theorem sqlSum_getD (xs : List (Option ℤ)) : (sqlSum xs).getD 0 = (xs.map (·.getD 0)).sum := by
  have hsum : xs.reduceOption.sum = (xs.map (·.getD 0)).sum := by
    induction xs with
    | nil => rfl
    | cons x xs ih => cases x <;> simp [ih]
  rw [← hsum, sqlSum]
  split
  · rename_i hnone
    rw [hnone]
    rfl
  · rename_i hsome
    rw [hsome, Option.getD_some]

/-- The row of NULLs adds nothing. -/
theorem sumOf_eq (side : GlLine → ℤ) : sumOf L window a side =
    (((lines L).filter (·.2.accountID = a.id)).map fun x =>
      if window x.1 then side x.2 else 0).sum := by
  rw [sumOf, sqlSum_getD, joined]
  generalize (lines L).filter (·.2.accountID = a.id) = ls
  cases ls with
  | nil => rfl
  | cons l ls =>
    simp only [map_map]
    refine congrArg sum (map_congr_left fun x _ => ?_)
    by_cases hx : window x.1 = true <;> simp [hx]

/-- What a line counts for in the window. -/
def signed (x : Time × GlLine) : ℤ := if window x.1 then x.2.debit - x.2.credit else 0

def net : ℤ := (((lines L).filter (·.2.accountID = a.id)).map (signed window)).sum

theorem sum_signed (ls : List (Time × GlLine)) : (ls.map (signed window)).sum =
    (ls.map fun x => if window x.1 then x.2.debit else 0).sum -
      (ls.map fun x => if window x.1 then x.2.credit else 0).sum := by
  induction ls with
  | nil => rfl
  | cons x ls ih =>
    simp only [map_cons, sum_cons, ih, signed]
    split <;> ring

theorem amount_eq :
    amount L window a = if a.normalBalance = .credit then - net L window a else net L window a := by
  simp only [amount, sumOf_eq, net, sum_signed, neg_sub]

variable {L window}

theorem sum_ite_id {as : List Account} (hnd : (as.map Account.id).Nodup) {id : ℤ}
    (hid : id ∈ as.map Account.id) (y : ℤ) :
    (as.map fun a => if id = a.id then y else 0).sum = y := by
  induction as with
  | nil => cases hid
  | cons a as ih =>
    rw [map_cons, nodup_cons] at hnd
    rw [map_cons, sum_cons]
    rcases mem_cons.mp hid with rfl | hid
    · have hrest : as.map (fun b => if a.id = b.id then y else 0) = as.map fun _ => 0 :=
        map_congr_left fun b hb => if_neg fun heq : a.id = b.id => hnd.1 (heq ▸ mem_map_of_mem hb)
      simp [hrest]
    · rw [if_neg fun heq : id = a.id => hnd.1 (heq ▸ hid), ih hnd.2 hid, zero_add]

/-- Every line is in one account. -/
theorem sum_accounts {v : Time × GlLine → ℤ} {ls : List (Time × GlLine)}
    (h : ∀ x ∈ ls, x.2.accountID ∈ L.accounts.map Account.id) :
    (L.accounts.map fun a => ((ls.filter (·.2.accountID = a.id)).map v).sum).sum =
    (ls.map v).sum := by
  induction ls with
  | nil => simp
  | cons x ls ih =>
    have hcons : ∀ a : Account, (((x :: ls).filter (·.2.accountID = a.id)).map v).sum =
        (if x.2.accountID = a.id then v x else 0) +
          ((ls.filter (·.2.accountID = a.id)).map v).sum := by
      intro a
      by_cases ha : x.2.accountID = a.id <;> simp [ha]
    simp only [hcons, sum_map_add, sum_ite_id L.ids (h x (.head _)), map_cons, sum_cons]
    rw [ih fun y hy => h y (.tail _ hy)]

/-- The debits of all accounts are the credits. -/
theorem sum_net : (L.accounts.map (net L window)).sum = 0 := by
  have hlines : ∀ x ∈ lines L, x.2.accountID ∈ L.accounts.map Account.id := by
    intro x hx
    obtain ⟨e, he, hx⟩ := mem_flatMap.mp hx
    obtain ⟨l, hl, rfl⟩ := mem_map.mp hx
    exact L.refers e he l hl
  refine (sum_accounts hlines).trans ?_
  unfold lines
  induction L.journal with
  | nil => rfl
  | cons e es ih =>
    have hentry : ((e.2.lines.map (e.1, ·)).map (signed window)).sum = 0 := by
      rw [sum_signed]
      cases hwindow : window e.1 with
      | false => simp [hwindow, Function.comp_def]
      | true => simpa [hwindow, Function.comp_def] using sub_eq_zero.mpr e.2.balanced
    rw [flatMap_cons, map_append, sum_append, hentry, ih, add_zero]

/-! ### By type -/

/-- The side on which a type counts. -/
def AccountType.sign (t : AccountType) : ℤ := if t ∈ [asset, expense] then 1 else -1

theorem sum_types (f : Account → ℤ) (as : List Account) :
    (as.map f).sum = (([.asset, .liability, .equity, .income, .expense] : List AccountType).map
      fun t =>
      ((as.filter (·.accountType = t)).map f).sum).sum := by
  induction as with
  | nil => rfl
  | cons a as ih =>
    rw [map_cons, sum_cons, ih]
    cases h : a.accountType <;> simp [h] <;> ring

theorem totalOf_eq (hL : Conventional L) {p : Account → Bool} {t : AccountType}
    (hp : ∀ a : Account, a.accountType = t → p a = true) :
    totalOf t ((L.accounts.filter p).map fun a => ⟨a, amount L window a⟩) =
      t.sign * ((L.accounts.filter (·.accountType = t)).map (net L window)).sum := by
  have hrows : totalOf t ((L.accounts.filter p).map fun a => ⟨a, amount L window a⟩) =
      ((L.accounts.filter (·.accountType = t)).map (amount L window)).sum := by
    simp only [totalOf, filter_map, filter_filter, map_map, Function.comp_def]
    rw [filter_congr fun a _ => ?_]
    by_cases ht : a.accountType = t <;> simp [ht, hp]
  rw [hrows, ← sum_map_mul_left]
  refine congrArg sum (map_congr_left fun a ha => ?_)
  obtain ⟨ha, ht⟩ := mem_filter.mp ha
  rw [amount_eq, hL a ha, of_decide_eq_true ht, AccountType.sign]
  cases t <;> simp

theorem amount_add {w w' : Time → Bool}
    (h : ∀ date, (w date).toNat + (w' date).toNat = (window date).toNat) (a : Account) :
    amount L w a + amount L w' a = amount L window a := by
  have hnet : net L w a + net L w' a = net L window a := by
    rw [net, net, ← sum_map_add]
    refine congrArg sum (map_congr_left fun x _ => ?_)
    have hsigned : ∀ w : Time → Bool, signed w x = (w x.1).toNat * (x.2.debit - x.2.credit) :=
      fun w => by
      cases hw : w x.1 <;> simp [signed, hw]
    rw [hsigned, hsigned, hsigned, ← h x.1, Nat.cast_add, add_mul]
  simp only [amount_eq, ← hnet]
  split <;> ring

/-- The statements of one ledger balance, and a period's income statement is that of its parts. -/
theorem statements_balance (L : GeneralLedger) :
    (Conventional L → ∀ T, totalOf .asset (glBalanceSheet L T) =
      totalOf .liability (glBalanceSheet L T) + totalOf .equity (glBalanceSheet L T) +
        (totalOf .income (glIncomeStatement L none T) -
          totalOf .expense (glIncomeStatement L none T))) ∧
    ∀ (a : Option Time) (b c : Time), (∀ x ∈ a, x ≤ b) → b ≤ c → ∀ id,
      amountOf id (glIncomeStatement L a b) + amountOf id (glIncomeStatement L (some b) c) =
        amountOf id (glIncomeStatement L a c) := by
  constructor
  · intro hL T
    have hzero : (L.accounts.map (net L (· < T))).sum = 0 := sum_net
    rw [sum_types] at hzero
    simp only [glBalanceSheet, glIncomeStatement, Option.all_none, Bool.true_and]
    rw [totalOf_eq hL (by simp +contextual), totalOf_eq hL (by simp +contextual),
      totalOf_eq hL (by simp +contextual),
      totalOf_eq hL (by simp +contextual), totalOf_eq hL (by simp +contextual)]
    simp [AccountType.sign] at hzero ⊢
    linarith
  · intro a b c hab hbc id
    simp only [amountOf, glIncomeStatement, filter_map, map_map, Function.comp_def, ← sum_map_add]
    refine congrArg sum (map_congr_left fun acc _ => amount_add (fun date => ?_) acc)
    rcases lt_or_ge date b with hlt | hge
    · simp [hlt, hlt.trans_le hbc, not_le.mpr hlt]
    · have hstart : a.all (· ≤ date) = true := by
        cases a with
        | none => rfl
        | some x => simpa using (hab x rfl).trans hge
      simp [hge, not_lt.mpr hge, hstart]

end IspBss.Ledger
