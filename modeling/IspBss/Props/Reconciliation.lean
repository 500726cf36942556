import IspBss.Props.WalletRace
import IspBss.Revenue.Reconcile

/-! What does the nightly reconciliation notice?

    The job compares one figure, the sum of all drifts (balance less ledger), with zero:

        subscriber      balance   ledger   drift
        1                   100        0    +100
        2                     0      100    −100      Σ drift = 0: no variance, no alert

    So it notices money that has appeared or vanished, and not money that has moved from one wallet to
    another. -/

namespace IspBss.Revenue

open Lib ReconcileJob RevenueStore Prog List Prod Tx

/-- How far a subscriber's balance is from the net of its wallet rows. -/
def drift (db : DB) (id : ℤ) (r : Subscriber) : ℤ := r.walletBalance - walletNet db id

/-- The sum of the drifts of all subscribers. -/
def totalDrift (db : DB) : ℤ := (db.subscribers.entries.map fun x => drift db x.1 x.2).sum

/-! ### The query -/

/-- Grouping the rows and summing a group is summing what each row contributes. -/
theorem sum_walletDelta (rows : List WalletLedger) (id : ℤ) :
    ((rows.filter fun r => r.account = .subscriberWallet ∧ r.subscriberID = id).map fun r =>
      if r.entryType = .credit then r.amount else -r.amount).sum = (rows.map (walletDelta id)).sum := by
  induction rows with
  | nil => rfl
  | cons r rows ih =>
    rw [map_cons, sum_cons, ← ih]
    by_cases hr : r.account = .subscriberWallet ∧ r.subscriberID = id
    · rw [filter_cons_of_pos (by simpa using hr), map_cons, walletDelta,
        if_pos hr.symm]
      cases r.entryType <;> rfl
    · rw [filter_cons_of_neg (by simpa using hr), walletDelta, if_neg (fun h => hr h.symm), zero_add]

/-- A subscriber without rows counts as one whose rows come to nothing. -/
theorem ledgerNet_getD (db : DB) (id : ℤ) : (ledgerNet db id).getD 0 = walletNet db id := by
  rw [walletNet, ← sum_walletDelta, ledgerNet]
  cases db.walletLedgers.rows.filter fun r => r.account = .subscriberWallet ∧ r.subscriberID = id with
  | nil => rfl
  | cons r rows => rfl

theorem ledgerVariance_eq (db : DB) : ledgerVariance db = totalDrift db := by
  simp only [ledgerVariance, totalDrift, drift, ledgerNet_getD]

theorem totalDrift_of_reconciled {db : DB} (h : ∀ id r, db.subscribers.lookup id = some r →
    r.walletBalance = walletNet db id) : totalDrift db = 0 := by
  refine sum_eq_zero fun d hd => ?_
  obtain ⟨x, hx, rfl⟩ := mem_map.mp hd
  rw [drift, h x.1 x.2 (AList.mem_lookup_iff.mpr hx), sub_self]

/-! ### The job -/

variable {s s' : RevenueState}

theorem forecastRow_state {f : CollectionsForecast} {row : ForecastRow}
    (h : forecastRow f s = .ok (row, s')) : s' = s := by
  simp only [forecastRow, orThrow_bind_ok] at h
  obtain ⟨_, _, _, _, h⟩ := h
  exact (mk.inj (pure_ok.mp h)).2

theorem forecastRows_state (fs : List CollectionsForecast) : ∀ {rows : List ForecastRow}
    {s s' : RevenueState}, fs.mapM forecastRow s = .ok (rows, s') → s' = s := by
  induction fs with
  | nil =>
    intro rows s s' h
    exact (mk.inj (pure_ok.mp h)).2
  | cons f fs ih =>
    intro rows s s' h
    rw [mapM_cons] at h
    obtain ⟨row, s₁, hrow, h⟩ := bind_ok.mp h
    obtain ⟨rows', s₂, hrows, h⟩ := bind_ok.mp h
    rw [(mk.inj (pure_ok.mp h)).2, ih hrows, forecastRow_state hrow]

/-- No statement touches the books it reads, or raises an alert. -/
theorem tx_keeps {e : RevenueEnv} {op : RevenueOp} {a : op.Result}
    (h : op.tx e s = .ok (a, s')) : s'.db = s.db ∧ s'.alerts = s.alerts := by
  cases op with
  | getUnbilledActiveSubscribers => cases h; exact ⟨rfl, rfl⟩
  | getLedgerVariance => cases h; exact ⟨rfl, rfl⟩
  | getTotalWalletBalance => cases h; exact ⟨rfl, rfl⟩
  | buildCollectionsForecast days => cases h; exact ⟨rfl, rfl⟩
  | upsertRevenueSnapshot snap =>
    obtain ⟨variance, -, hset⟩ := orThrow_bind_ok.mp (get_bind_ok.mp h)
    obtain ⟨balance, -, hset⟩ := orThrow_bind_ok.mp hset
    obtain rfl := (mk.inj (set_ok.mp hset)).2
    exact ⟨rfl, rfl⟩
  | upsertCollectionsForecast forecasts =>
    obtain ⟨rows, s₁, hrows, hset⟩ := bind_ok.mp h
    obtain rfl := (mk.inj (set_ok.mp (get_bind_ok.mp hset))).2
    rw [forecastRows_state forecasts hrows]
    exact ⟨rfl, rfl⟩

theorem stmt_keeps (e : RevenueEnv) (op : RevenueOp) (s : RevenueState) :
    (revenueExec e (.stmt op) s).2.db = s.db ∧ (revenueExec e (.stmt op) s).2.alerts = s.alerts := by
  simp only [revenueExec]
  split
  · exact ⟨rfl, rfl⟩
  · rcases commit_cases (op.tx e) s with ⟨a, s', hrun, hcommit⟩ | ⟨err, hcommit⟩
    · rw [hcommit]
      exact tx_keeps hrun
    · rw [hcommit]
      exact ⟨rfl, rfl⟩

/-- A call that is not an alert. -/
def Quiet (c : RevenueCall) : Prop := ∀ event detail, c ≠ .trigger event detail

theorem forecast_quiet : Prog.Calls (S := revenueSig) Quiet forecast := by
  refine ⟨nofun, fun r => ?_⟩
  cases r with
  | error _ => trivial
  | ok forecasts =>
    refine ⟨nofun, fun r => ?_⟩
    cases r <;> trivial

theorem snapshot_quiet (n : ℕ) (v : Decimal) : Prog.Calls (S := revenueSig) Quiet (snapshot n v) := by
  refine ⟨nofun, fun r => ?_⟩
  cases r with
  | error _ => trivial
  | ok balance =>
    refine ⟨nofun, fun now => ⟨nofun, fun r => ?_⟩⟩
    cases r with
    | error _ => trivial
    | ok _ => exact forecast_quiet

theorem quiet_alerts {α : Type} (e : RevenueEnv) {p : RevenueProg α}
    (hp : Prog.Calls (S := revenueSig) Quiet p) : (run revenueExec e p s).2.alerts = s.alerts := by
  refine Prog.Calls.run_inv (I := fun t : RevenueState => t.alerts = s.alerts) ?_ hp rfl
  intro c t hc ht
  cases c with
  | stmt op => exact (stmt_keeps e op t).2.trans ht
  | clock => exact ht
  | trigger event detail => exact absurd rfl (hc event detail)

/-- What a run of the job adds to the alerts. -/
def raised (e : RevenueEnv) (db : DB) : List (String × Decimal) :=
  if e.fails .getUnbilledActiveSubscribers = false ∧ e.fails .getLedgerVariance = false ∧
      ReconcileJob.varianceTolerance < |paise (totalDrift db)| then
    [("ledger_variance_detected", paise (totalDrift db))]
  else []

theorem run_alerts (e : RevenueEnv) (s : RevenueState) :
    (run revenueExec e Run s).2.alerts = s.alerts ++ raised e s.db := by
  cases hu : e.fails .getUnbilledActiveSubscribers with
  | true => simp [Run, stmt, Prog.perform, Prog.run, revenueExec, hu, raised]
  | false =>
    have hunbilled : ∃ n, revenueExec e (.stmt .getUnbilledActiveSubscribers) s = (.ok n, s) :=
      ⟨_, by simp only [revenueExec, hu]; rfl⟩
    obtain ⟨n, hn⟩ := hunbilled
    cases hv : e.fails .getLedgerVariance with
    | true =>
      have hvariance : revenueExec e (.stmt .getLedgerVariance) s = (.error .unavailable, s) := by
        simp only [revenueExec, hv]
        rfl
      simp [Run, stmt, Prog.perform, Prog.run, hn, hvariance, hv, raised]
    | false =>
      have hvariance : revenueExec e (.stmt .getLedgerVariance) s = (.ok (paise (totalDrift s.db)), s) := by
        simp only [revenueExec, hv, ← ledgerVariance_eq]
        rfl
      have hrun : run revenueExec e Run s =
          run revenueExec e (checkVariance (paise (totalDrift s.db)) >>= fun _ =>
            snapshot n (paise (totalDrift s.db))) s := by
        simp only [Run, stmt, Prog.perform, Prog.call_bind, Prog.run, Prog.ret_bind, hn,
          hvariance]
      rw [hrun, Prog.run_bind, quiet_alerts e (snapshot_quiet _ _), checkVariance, raised]
      simp only [hu, hv, true_and]
      split
      · rfl
      · simp

/-! ### What it notices -/

theorem paise_eq_zero {n : ℤ} : paise n = 0 ↔ n = 0 := by
  simp [paise, Numeric.ofFixed]

/-- Every state of the books and every night: the job reports zero variance and raises no alert exactly
    if the drifts of all subscribers cancel out, as they do if every single one is zero. -/
theorem no_variance_iff_drifts_cancel (e : RevenueEnv) (s : RevenueState) :
    ((RevenueStore.GetLedgerVariance s = .ok (0, s) ∧
        (Prog.run revenueExec e ReconcileJob.Run s).2.alerts = s.alerts) ↔
      totalDrift s.db = 0) ∧
    ((∀ id r, s.db.subscribers.lookup id = some r → r.walletBalance = walletNet s.db id) →
      totalDrift s.db = 0) := by
  refine ⟨⟨fun h => ?_, fun h => ⟨?_, ?_⟩⟩, totalDrift_of_reconciled⟩
  · have hzero : paise (ledgerVariance s.db) = 0 := (mk.inj (Except.ok.inj h.1)).1
    rw [ledgerVariance_eq, paise_eq_zero] at hzero
    exact hzero
  · change Except.ok (paise (ledgerVariance s.db), s) = _
    rw [ledgerVariance_eq, paise_eq_zero.mpr h]
  · have hquiet : raised e s.db = [] := by
      have hzero : paise (totalDrift s.db) = 0 := paise_eq_zero.mpr h
      rw [raised, if_neg]
      rintro ⟨-, -, habove⟩
      rw [hzero, abs_zero, varianceTolerance] at habove
      norm_num at habove
    rw [run_alerts, hquiet, append_nil]

/-- A subscriber with this many paise in the wallet. -/
def holding (n : ℕ) : Subscriber where
  toSubscriberRow := { (Subscriber.paidUntil 0).toSubscriberRow with walletBalance := n }
  balance_nonneg := Int.natCast_nonneg n
  billable := Or.inr (Or.inr (Or.inr rfl))

/-- Two subscribers and a recharge of 100.00: the balance of the first has it, the ledger of the second
    does. -/
def misposted : RevenueState where
  db :=
    { DB.seeded (((∅ : Table Subscriber).insert 1 (holding 10000)).insert 2 (holding 0)) with
      walletLedgers := (Indexed.empty.insert
        ⟨1, 2, none, .subscriberWallet, .credit, 10000, 10000, none, "Recharge", none⟩).getD .empty }
  snapshots := []
  forecast := []
  alerts := []

/-- A night on which every statement gets through. -/
def calmNight : RevenueEnv where
  now := 0
  calendar := ⟨fun t => t / day, fun t => t, fun _ => 0⟩
  fails _ := false

/-- The drifts cancel out and the night passes in silence, with both wallets off by 100.00. -/
theorem misposted_recharge_unnoticed :
    RevenueStore.GetLedgerVariance misposted = .ok (0, misposted) ∧
    (Prog.run revenueExec calmNight ReconcileJob.Run misposted).2.alerts = [] ∧
    (Prog.run revenueExec calmNight ReconcileJob.Run misposted).1 = .ok () ∧
    ¬ Reconciled 1 misposted.db ∧ ¬ Reconciled 2 misposted.db := by
  have hdrift : totalDrift misposted.db = 0 := by decide
  refine ⟨?_, ?_, ?_, ?_, ?_⟩
  · change Except.ok (paise (ledgerVariance misposted.db), misposted) = _
    rw [ledgerVariance_eq, paise_eq_zero.mpr hdrift]
  · rw [run_alerts, raised, hdrift]
    decide +kernel
  · decide +kernel
  · rintro ⟨r, hr, hbal⟩
    obtain rfl : holding 10000 = r := Option.some.inj hr
    revert hbal
    decide
  · rintro ⟨r, hr, hbal⟩
    obtain rfl : holding 0 = r := Option.some.inj hr
    revert hbal
    decide

end IspBss.Revenue
