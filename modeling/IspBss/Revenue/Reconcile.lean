import IspBss.Db.Schema
import IspBss.Lib.Program

/-! `revenue.ReconcileJob`: the nightly reconciliation, and the `RevenueStore` queries it runs.

        unbilled count ─▶ ledger variance ─▶ total balance ─▶ snapshot row ─▶ forecast ─▶ forecast rows
                              │ more than one paisa off
                              ▼
                          Alerter.Trigger

    Every query is a statement of its own, so other writers may come in between. The job stops at the
    first one that fails; an alert that was raised before stays raised. -/

namespace IspBss.Revenue

open Lib Lib.Numeric

/-! ### Rows -/

/-- `RevenueSnapshot`. -/
structure RevenueSnapshot where
  snapshotDate : Time
  unbilledSubscriberCount : ℕ
  ledgerVariance : Decimal
  totalWalletBalance : Decimal
  deriving DecidableEq

/-- `revenue_snapshots`. -/
structure SnapshotRow where
  date : ℤ
  unbilledSubscriberCount : ℕ
  ledgerVariance : ℤ
  totalWalletBalance : ℤ
  deriving DecidableEq

/-- `CollectionsForecast`, its dates as days. -/
structure CollectionsForecast where
  forecastDate : ℤ
  forecastForDate : ℤ
  expectedRenewals : ℕ
  atRiskRenewals : ℕ
  expectedRevenue : Decimal
  atRiskRevenue : Decimal
  deriving DecidableEq

/-- `collections_forecast`. -/
structure ForecastRow where
  forecastDate : ℤ
  forecastForDate : ℤ
  expectedRenewals : ℕ
  atRiskRenewals : ℕ
  expectedRevenue : ℤ
  atRiskRevenue : ℤ
  deriving DecidableEq

/-- The tables the job reads and writes, and the alerts it has raised. -/
structure RevenueState where
  db : DB
  snapshots : List SnapshotRow
  forecast : List ForecastRow
  alerts : List (String × Decimal)

/-- What the statements depend on besides the rows: the calendar of the session, and the `created_at`
    of an invoice by its id. -/
structure Calendar where
  date : Time → ℤ
  monthStart : Time → Time
  createdAt : ℤ → Time

abbrev RevenueTx := Tx StoreErr RevenueState

/-! ### The queries -/

namespace RevenueStore

def GetUnbilledActiveSubscribers (cal : Calendar) (now : Time) : RevenueTx ℕ := do
  let s ← get
  let billed := fun id => s.db.invoices.any fun i =>
    i.subscriberID = id ∧ cal.monthStart now ≤ cal.createdAt i.id
  return s.db.subscribers.entries.countP fun x => x.2.status = .active ∧ ¬ billed x.1

/-- The `ledger` of the query: what a subscriber's `subscriber_wallet` rows come to, if it has any. -/
def ledgerNet (db : DB) (id : ℤ) : Option ℤ :=
  match db.walletLedgers.rows.filter fun r => r.account = .subscriberWallet ∧ r.subscriberID = id with
  | [] => none
  | rows => some (rows.map fun r => if r.entryType = .credit then r.amount else -r.amount).sum

/-- The drift of all subscribers taken together. -/
def ledgerVariance (db : DB) : ℤ :=
  (db.subscribers.entries.map fun x => x.2.walletBalance - (ledgerNet db x.1).getD 0).sum

def GetLedgerVariance : RevenueTx Decimal := do
  let s ← get
  return paise (ledgerVariance s.db)

def GetTotalWalletBalance : RevenueTx Decimal := do
  let s ← get
  return paise (s.db.subscribers.entries.map fun x => x.2.walletBalance).sum

/-- The row of the day is replaced. -/
def UpsertRevenueSnapshot (cal : Calendar) (snap : RevenueSnapshot) : RevenueTx Unit := do
  let s ← get
  let date := cal.date snap.snapshotDate
  let variance ← Tx.orThrow (numeric12 snap.ledgerVariance) (.overflow "ledger_variance")
  let balance ← Tx.orThrow (numeric14 snap.totalWalletBalance) (.overflow "total_wallet_balance")
  let kept := s.snapshots.filter fun row : SnapshotRow => row.date ≠ date
  let row : SnapshotRow := ⟨date, snap.unbilledSubscriberCount, variance, balance⟩
  set { s with snapshots := kept ++ [row] }

/-- A renewal that falls due in the window: its day, its price, and whether it is at risk. -/
structure DueRenewal where
  date : ℤ
  price : ℤ
  atRisk : Bool
  deriving DecidableEq

def dueRenewal? (cal : Calendar) (now : Time) (days : ℤ) (plans : Table Plan) (r : Subscriber) :
    Option DueRenewal := do
  let expiry ← r.planExpiry
  let plan ← plans.lookup r.planID
  let date := cal.date expiry
  guard (cal.date now ≤ date ∧ date ≤ cal.date now + days ∧ r.status ≠ .terminated)
  return ⟨date, plan.price, r.walletBalance < plan.price ∨ r.dunningState = .softSuspended ∨
    r.dunningState = .hardSuspended ∨ r.dunningState = .gracePeriod⟩

/-- The renewals of one day. -/
def forecastFor (today : ℤ) (due : List DueRenewal) (date : ℤ) : CollectionsForecast :=
  let expected := due.filter fun d => d.date = date ∧ ¬ d.atRisk
  let atRisk := due.filter fun d => d.date = date ∧ d.atRisk
  ⟨today, date, expected.length, atRisk.length, paise (expected.map DueRenewal.price).sum,
    paise (atRisk.map DueRenewal.price).sum⟩

def BuildCollectionsForecast (cal : Calendar) (now : Time) (days : ℤ) :
    RevenueTx (List CollectionsForecast) := do
  let s ← get
  let days := if days ≤ 0 then 30 else days
  let due := s.db.subscribers.entries.filterMap fun x => dueRenewal? cal now days s.db.plans x.2
  let dates := ((due.map DueRenewal.date).dedup).insertionSort (· ≤ ·)
  return dates.map (forecastFor (cal.date now) due)

def forecastRow (f : CollectionsForecast) : RevenueTx ForecastRow := do
  let expected ← Tx.orThrow (numeric14 f.expectedRevenue) (.overflow "expected_revenue")
  let atRisk ← Tx.orThrow (numeric14 f.atRiskRevenue) (.overflow "at_risk_revenue")
  return ⟨f.forecastDate, f.forecastForDate, f.expectedRenewals, f.atRiskRenewals, expected, atRisk⟩

/-- Today's forecast is replaced. -/
def UpsertCollectionsForecast (cal : Calendar) (now : Time) (forecasts : List CollectionsForecast) :
    RevenueTx Unit := do
  let rows ← forecasts.mapM forecastRow
  let s ← get
  let kept := s.forecast.filter fun row : ForecastRow => row.forecastDate ≠ cal.date now
  set { s with forecast := kept ++ rows }

end RevenueStore

/-! ### The calls of the job -/

inductive RevenueOp where
  | getUnbilledActiveSubscribers
  | getLedgerVariance
  | getTotalWalletBalance
  | upsertRevenueSnapshot (snap : RevenueSnapshot)
  | buildCollectionsForecast (days : ℤ)
  | upsertCollectionsForecast (forecasts : List CollectionsForecast)
  deriving DecidableEq

@[reducible] def RevenueOp.Result : RevenueOp → Type
  | getUnbilledActiveSubscribers => ℕ
  | getLedgerVariance => Decimal
  | getTotalWalletBalance => Decimal
  | upsertRevenueSnapshot _ => Unit
  | buildCollectionsForecast _ => List CollectionsForecast
  | upsertCollectionsForecast _ => Unit

inductive RevenueCall where
  | stmt (op : RevenueOp)
  | clock
  | trigger (event : String) (detail : Decimal)

@[reducible] def revenueSig : Sig where
  Call := RevenueCall
  Resp
    | .stmt op => Except StoreErr op.Result
    | .clock => Time
    | .trigger _ _ => Unit

/-- What a call is made in: the time, the calendar and the statements that do not get through. -/
structure RevenueEnv where
  now : Time
  calendar : Calendar
  fails : RevenueOp → Bool

def RevenueOp.tx (e : RevenueEnv) : (op : RevenueOp) → RevenueTx op.Result
  | getUnbilledActiveSubscribers => RevenueStore.GetUnbilledActiveSubscribers e.calendar e.now
  | getLedgerVariance => RevenueStore.GetLedgerVariance
  | getTotalWalletBalance => RevenueStore.GetTotalWalletBalance
  | upsertRevenueSnapshot snap => RevenueStore.UpsertRevenueSnapshot e.calendar snap
  | buildCollectionsForecast days => RevenueStore.BuildCollectionsForecast e.calendar e.now days
  | upsertCollectionsForecast forecasts =>
      RevenueStore.UpsertCollectionsForecast e.calendar e.now forecasts

def revenueExec : Store revenueSig RevenueEnv RevenueState
  | e, .stmt op, s => if e.fails op then (.error .unavailable, s) else Tx.commit (op.tx e) s
  | e, .clock, s => (e.now, s)
  | _, .trigger event detail, s => ((), { s with alerts := s.alerts ++ [(event, detail)] })

/-! ### The job -/

/-- The step a run has stopped at. -/
inductive ReconcileErr where
  | getUnbilledSubscribers (e : StoreErr)
  | getLedgerVariance (e : StoreErr)
  | getTotalWalletBalance (e : StoreErr)
  | upsertSnapshot (e : StoreErr)
  | buildForecast (e : StoreErr)
  | upsertForecast (e : StoreErr)
  deriving DecidableEq

abbrev RevenueProg := Prog revenueSig

def stmt (op : RevenueOp) : RevenueProg (Except StoreErr op.Result) :=
  Prog.perform (S := revenueSig) (.stmt op)

namespace ReconcileJob

/-- A variance beyond this raises the alert. -/
def varianceTolerance : Decimal := 1 / 100

def checkVariance (variance : Decimal) : RevenueProg Unit :=
  if varianceTolerance < |variance| then
    Prog.perform (S := revenueSig) (.trigger "ledger_variance_detected" variance)
  else Prog.ret ()

/-- The forecast, once the snapshot is written. -/
def forecast : RevenueProg (Except ReconcileErr Unit) := do
  match ← stmt (.buildCollectionsForecast 30) with
  | .error e => return .error (.buildForecast e)
  | .ok forecasts =>
    match ← stmt (.upsertCollectionsForecast forecasts) with
    | .error e => return .error (.upsertForecast e)
    | .ok () => return .ok ()

/-- The snapshot, once the variance is known. -/
def snapshot (unbilledCount : ℕ) (variance : Decimal) : RevenueProg (Except ReconcileErr Unit) := do
  match ← stmt .getTotalWalletBalance with
  | .error e => return .error (.getTotalWalletBalance e)
  | .ok totalBalance => do
    let now ← Prog.perform (S := revenueSig) .clock
    -- midnight of the day, in UTC
    match ← stmt (.upsertRevenueSnapshot ⟨now / day * day, unbilledCount, variance, totalBalance⟩) with
    | .error e => return .error (.upsertSnapshot e)
    | .ok () => forecast

def Run : RevenueProg (Except ReconcileErr Unit) := do
  match ← stmt .getUnbilledActiveSubscribers with
  | .error e => return .error (.getUnbilledSubscribers e)
  | .ok unbilledCount =>
    match ← stmt .getLedgerVariance with
    | .error e => return .error (.getLedgerVariance e)
    | .ok variance => do
      checkVariance variance
      snapshot unbilledCount variance

end ReconcileJob

end IspBss.Revenue
