import IspBss.Db.Calls

/-! `WalletService`: recharges and postings.

    Both operations read the balance, compute the new one and hand it to one transaction that writes
    two ledger legs and the balance. The read and the transaction are separate calls:

        token lookup ──▶ GetSubscriberBalance ──▶ RecordRecharge(NewBalance = read ± amount) -/

namespace IspBss

open Lib

/-- A subscriber wallet top-up. -/
structure RechargeRequest where
  subscriberID : ℤ
  amount : Decimal
  transactionToken : String
  franchiseID : Option ℤ
  description : String
  deriving DecidableEq

/-- A posting in either direction; `direction` is missing when its text is neither of the two. -/
structure PostRequest where
  subscriberID : ℤ
  franchiseID : Option ℤ
  amount : Decimal
  direction : Option EntryType
  counterAccount : Account
  transactionToken : String
  adjustedBy : String
  description : String
  taxAmount : Decimal
  deriving DecidableEq

inductive WalletErr where
  | amountNotPositive (amount : Decimal)
  | badDirection
  | taxNotWithin (tax amount : Decimal)
  | insufficientBalance
  | getBalance (e : StoreErr)
  | record (e : StoreErr)
  deriving DecidableEq

/-- The idempotency check: the earlier transaction of a non-empty token. A failed lookup counts as
    not found. -/
def lookupToken (token : String) : Service (Option Transaction) :=
  if token = "" then return none
  else do
    match ← db (.getTransactionByToken token) with
    | .ok existing => return existing
    | .error _ => return none

/-- The posting of a recharge. Only the credit leg carries the token. -/
def RechargeRequest.posting (req : RechargeRequest) (newBalance : Decimal) : RechargePosting where
  subscriberID := req.subscriberID
  debit :=
    { subscriberID := req.subscriberID, franchiseID := req.franchiseID,
      account := .gatewayClearing, entryType := .debit, amount := req.amount,
      balanceAfter := newBalance, transactionToken := none,
      description := "counter-entry: " ++ req.description, adjustedBy := "" }
  credit :=
    { subscriberID := req.subscriberID, franchiseID := req.franchiseID,
      account := .subscriberWallet, entryType := .credit, amount := req.amount,
      balanceAfter := newBalance, transactionToken := nullIfEmpty req.transactionToken,
      description := req.description, adjustedBy := "" }
  newBalance := newBalance
  taxAmount := 0

def EntryType.opposite : EntryType → EntryType
  | .credit => .debit
  | .debit => .credit

/-- The posting of a `Post`: the wallet leg is the token-bearing one, whatever its direction. -/
def PostRequest.posting (req : PostRequest) (direction : EntryType) (newBalance : Decimal) :
    RechargePosting where
  subscriberID := req.subscriberID
  debit :=
    { subscriberID := req.subscriberID, franchiseID := req.franchiseID,
      account := req.counterAccount, entryType := direction.opposite, amount := req.amount,
      balanceAfter := newBalance, transactionToken := none,
      description := "counter-entry: " ++ req.description, adjustedBy := "" }
  credit :=
    { subscriberID := req.subscriberID, franchiseID := req.franchiseID,
      account := .subscriberWallet, entryType := direction, amount := req.amount,
      balanceAfter := newBalance, transactionToken := nullIfEmpty req.transactionToken,
      description := req.description, adjustedBy := req.adjustedBy }
  newBalance := newBalance
  taxAmount := req.taxAmount

/-- Record the posting; the transaction returned carries the computed balance. -/
def recordPosting (p : RechargePosting) : Service (Except WalletErr Transaction) := do
  match ← db (.recordRecharge p) with
  | .error e => return .error (.record e)
  | .ok tx => return .ok { tx with balanceAfter := p.newBalance }

namespace WalletService

def Recharge (req : RechargeRequest) : Service (Except WalletErr Transaction) :=
  if req.amount ≤ 0 then return .error (.amountNotPositive req.amount)
  else do
    match ← lookupToken req.transactionToken with
    | some existing => return .ok existing
    | none =>
      match ← db (.getSubscriberBalance req.subscriberID) with
      | .error e => return .error (.getBalance e)
      | .ok (currentBalance : Decimal) =>
        recordPosting (req.posting (currentBalance + req.amount))

/-- The new balance, unless a debit would take it below zero. -/
def newBalance (direction : EntryType) (currentBalance amount : Decimal) : Option Decimal :=
  match direction with
  | .credit => some (currentBalance + amount)
  | .debit => if currentBalance - amount < 0 then none else some (currentBalance - amount)

def Post (req : PostRequest) : Service (Except WalletErr Transaction) :=
  if req.amount ≤ 0 then return .error (.amountNotPositive req.amount)
  else match req.direction with
  | none => return .error .badDirection
  | some direction =>
    if req.taxAmount < 0 ∨ req.amount ≤ req.taxAmount then
      return .error (.taxNotWithin req.taxAmount req.amount)
    else do
      match ← lookupToken req.transactionToken with
      | some existing => return .ok existing
      | none =>
        match ← db (.getSubscriberBalance req.subscriberID) with
        | .error e => return .error (.getBalance e)
        | .ok currentBalance =>
          match newBalance direction currentBalance req.amount with
          | none => return .error .insufficientBalance
          | some balance => recordPosting (req.posting direction balance)

/-- A recharge as a posting: a credit against the gateway's clearing account, without tax. -/
def asPost (req : RechargeRequest) : PostRequest where
  subscriberID := req.subscriberID
  franchiseID := req.franchiseID
  amount := req.amount
  direction := some .credit
  counterAccount := .gatewayClearing
  transactionToken := req.transactionToken
  adjustedBy := ""
  description := req.description
  taxAmount := 0

theorem Recharge_eq_Post (req : RechargeRequest) : Recharge req = Post (asPost req) := by
  unfold Recharge Post asPost
  by_cases h : req.amount ≤ 0 <;> simp only [h, if_true, if_false, lt_irrefl, or_false]
  refine bind_congr fun found => ?_
  cases found with
  | some tx => rfl
  | none =>
    refine bind_congr fun r => ?_
    cases r <;> rfl

end WalletService

end IspBss
