import IspBss.Db.Schema

/-! The financial statements of `LedgerStore`: the functions `gl_income_statement` and `gl_balance_sheet` of
    migration 043.

        chart_of_accounts ─LEFT JOIN▶ gl_journal_lines ─LEFT JOIN▶ gl_journal_entries     GROUP BY account

    An account without lines still has a row, of NULLs. -/

namespace IspBss.Ledger

open List

inductive AccountType where
  | asset | liability | equity | income | expense
  deriving DecidableEq

/-- `chart_of_accounts`. -/
structure Account where
  id : ℤ
  code : String
  name : String
  accountType : AccountType
  normalBalance : EntryType

/-- The chart, and the journal by `entry_date`. A line refers to an account by its primary key. -/
structure GeneralLedger where
  accounts : List Account
  journal : List (Time × GlJournalEntry)
  ids : (accounts.map Account.id).Nodup
  refers : ∀ e ∈ journal, ∀ l ∈ e.2.lines, l.accountID ∈ accounts.map Account.id

/-- `ledger.StatementRow`. -/
structure StatementRow where
  account : Account
  amount : ℤ

/-- `SUM`: what is NULL is left out, and the sum of nothing is NULL. -/
def sqlSum (xs : List (Option ℤ)) : Option ℤ :=
  match xs.reduceOption with
  | [] => none
  | x :: xs => some (x :: xs).sum

variable (L : GeneralLedger) (window : Time → Bool) (a : Account)

/-- The lines with the dates of their entries. -/
def lines : List (Time × GlLine) := L.journal.flatMap fun e => e.2.lines.map (e.1, ·)

/-- The rows of an account after both joins. -/
def joined : List (Option (Time × GlLine)) :=
  match (lines L).filter (·.2.accountID = a.id) with
  | [] => [none]
  | l :: ls => (l :: ls).map some

/-- `COALESCE(SUM(CASE WHEN … THEN l.debit END), 0)`. -/
def sumOf (side : GlLine → ℤ) : ℤ :=
  (sqlSum ((joined L a).map fun row => row.bind fun x => if window x.1 then some (side x.2) else none)).getD 0

/-- The amount of an account, on its normal side. -/
def amount : ℤ :=
  if a.normalBalance = .credit then sumOf L window a GlLine.credit - sumOf L window a GlLine.debit
  else sumOf L window a GlLine.debit - sumOf L window a GlLine.credit

/-- `gl_income_statement`; without a first date it is from -infinity. -/
def glIncomeStatement (fromDate : Option Time) (toDate : Time) : List StatementRow :=
  (L.accounts.filter (·.accountType ∈ [.income, .expense])).map fun a =>
    ⟨a, amount L (fun date => fromDate.all (· ≤ date) && date < toDate) a⟩

def glBalanceSheet (asOf : Time) : List StatementRow :=
  (L.accounts.filter (·.accountType ∈ [.asset, .liability, .equity])).map fun a =>
    ⟨a, amount L (· < asOf) a⟩

end IspBss.Ledger
