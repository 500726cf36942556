import IspBss.Lib.Runs
import IspBss.Props.Restoration
import IspBss.Props.Throttling
import IspBss.Props.UsageSplit

/-! Does a new cycle bring a new allowance?

    Billing, accounting and the fair-usage scanner share the subscribers table and never call each
    other. A renewal writes the expiry date, the stage and the status. It does not know of the two
    things that carry over from the old cycle:

        fup_active        set by a breach, cleared by no renewal         throttled although paid anew
        open sessions     their counters go on from where they were      the old cycle's octets count again

    What is open now is what was transferred since, and what was open at the renewal:

        usage(now) ≤ transferred(since) + usage(then)

    for what a stopped session has used never comes back. So a cycle has an allowance of its own
    exactly as far as it starts with an empty counter and an unset flag. -/

namespace IspBss

open Lib Prog List Option Radius Run FUPStore

/-! ### One database, seen from both sides -/

structure CycleWorld where
  db : DB
  queue : Jobqueue.QueueDB
  net : Network

/-- The network's view of a row, with the columns that billing writes. -/
def Radius.Profile.follow (db : DB) (id : ℤ) (p : Profile) : Profile :=
  match db.subscribers.lookup id with
  | some r => { p with status := r.status, planID := r.planID }
  | none => p

def Radius.Directory.follow (dir : Directory) (db : DB) : Directory :=
  { dir with subscribers := dir.subscribers.update (Profile.follow db) }

/-- Billing has written the database. -/
def CycleWorld.billed (w : CycleWorld) (db : DB) : CycleWorld where
  db := db
  queue := w.queue
  net := { w.net with directory := w.net.directory.follow db }

inductive UsageEvent where
  | accounting (e : Radius.NetEnv) (r : Radius.AcctRequest)
  | fupScan (e : Fup.ScanEnv)
  | billingScan (e : Env)
  | applyRenewal (e : Env) (subscriberID : ℤ) (amount : Decimal) (paymentID : String)

def UsageEvent.isRenewal : UsageEvent → Bool
  | billingScan _ | applyRenewal _ _ _ _ => true
  | _ => false

def CycleWorld.step (d : Daemon) (w : CycleWorld) : UsageEvent → CycleWorld
  | .accounting e r => { w with net := (Prog.run Radius.netExec e (d.handleAccounting r) w.net).2 }
  | .fupScan e =>
    let s := (Prog.run Fup.scanExec e Fup.Scanner.scan (w.queue, w.net)).2
    { w with queue := s.1, net := s.2 }
  | .billingScan e => w.billed (Prog.run exec e RecurringBillingScanner.Scan w.db).2
  | .applyRenewal e sid amount pid => w.billed (Prog.run exec e (ApplyRenewal sid amount pid) w.db).2

/-! ### The property -/

/-- `subscribers.fup_active`. -/
def Radius.Network.Throttled (net : Network) (id : ℤ) : Prop :=
  ∃ p ∈ net.directory.subscribers.lookup id, p.fupActive = true
  deriving Decidable

/-- The subscriber's expiry date has been moved. -/
def StartsCycle (id : ℤ) (w w' : CycleWorld) : Prop :=
  ∃ r ∈ w.db.subscribers.lookup id, ∃ r' ∈ w'.db.subscribers.lookup id, r.planExpiry ≠ r'.planExpiry
  deriving Decidable

/-- All octets of the subscriber's sessions, open or not. -/
def octetsOf (id : ℤ) (rows : List SessionRow) : ℤ :=
  ((rows.filter fun r => r.subscriberID = id).map fun r => r.inputOctets + r.outputOctets).sum

/-- The octets between two moments. -/
def transferred (id : ℤ) (w w' : CycleWorld) : ℤ := octetsOf id w'.net.sessions - octetsOf id w.net.sessions

/-- Every renewal of the run that starts a cycle leaves the subscriber unthrottled, and a later scan
    reports a breach only when what was transferred since then has reached the threshold. -/
def QuotaPerCycle (d : Daemon) (id : ℤ) (w : CycleWorld) (events : List UsageEvent) : Prop :=
  ∀ pre x later, events = pre ++ x :: later → x.isRenewal = true →
    let before := Run.run (CycleWorld.step d) w pre
    let after := before.step d x
    StartsCycle id before after →
    ¬after.net.Throttled id ∧
    ∀ mid e, mid ++ [.fupScan e] <+: later →
      let now := Run.run (CycleWorld.step d) after mid
      ∀ st ∈ Radius.FUPStore.GetActiveSessionsAboveFUP e.net.order.1 now.net, st.subscriberID = id →
        st.fupThreshold ≤ transferred id after now

/-- The subscriber is not throttled, and its open sessions have counted nothing. -/
def CleanStart (id : ℤ) (w : CycleWorld) : Prop :=
  ¬w.net.Throttled id ∧ Radius.FUPStore.liveSessionUsage w.net id = 0
  deriving Decidable

/-- The subscriber is up for renewal. -/
def UpForRenewal (now : Time) (id : ℤ) (s : DB) : Prop :=
  ∃ r ∈ s.subscribers.lookup id, (BillingStore.renewalCandidate? now s.plans id r).isSome = true
  deriving Decidable

/-- A renewal of the subscriber finds a clean start; a counter is below 2⁶³. -/
def UsageEvent.Clean (id : ℤ) (w : CycleWorld) : UsageEvent → Prop
  | accounting _ r => 0 ≤ r.acctOctets.1 ∧ 0 ≤ r.acctOctets.2
  | fupScan _ => True
  | billingScan e => UpForRenewal e.now id w.db → CleanStart id w
  | applyRenewal _ sid _ _ => sid = id → CleanStart id w

/-! ### What stopped sessions have used -/

section
variable {id : ℤ}

/-- The octets of a row if its session is over. -/
def Radius.SessionRow.stoppedOctets (id : ℤ) (r : SessionRow) : ℤ :=
  if r.IsOpen ∨ r.subscriberID ≠ id then 0 else r.inputOctets + r.outputOctets

def stoppedOctets (id : ℤ) (rows : List Radius.SessionRow) : ℤ := (rows.map (·.stoppedOctets id)).sum

theorem octetsOf_eq (id : ℤ) (rows : List SessionRow) :
    octetsOf id rows = Radius.openOctets id rows + stoppedOctets id rows := by
  induction rows with
  | nil => rfl
  | cons r rows ih =>
    unfold octetsOf Radius.openOctets stoppedOctets Radius.SessionRow.stoppedOctets at ih ⊢
    by_cases hid : r.subscriberID = id
    · by_cases hopen : r.IsOpen
      · simp [hid, hopen, ih]
        ring
      · simp [hid, hopen, ih]
        ring
    · simp [hid, ih]

/-- Rewriting open rows takes nothing from the stopped ones. -/
theorem stopped_updateOpen {f : SessionRow → SessionRow}
    (hf : ∀ r, r.IsOpen → 0 ≤ (f r).stoppedOctets id) (sessionID : String) (rows : List Radius.SessionRow) :
    stoppedOctets id rows ≤ stoppedOctets id (Radius.updateOpen sessionID f rows).2 := by
  unfold stoppedOctets Radius.updateOpen
  rw [List.map_map]
  refine sum_le_sum fun r _ => ?_
  dsimp only [Function.comp_apply]
  split
  · rename_i hopen
    have hzero : r.stoppedOctets id = 0 := if_pos (Or.inl hopen.2)
    rw [hzero]
    exact hf r hopen.2
  · exact le_rfl

/-- Nor does any record. -/
theorem stopped_change (d : Daemon) (e : NetEnv) (dir : Directory)
    {r : Radius.AcctRequest} (hr : 0 ≤ r.acctOctets.1 ∧ 0 ≤ r.acctOctets.2) (rows : List Radius.SessionRow) :
    stoppedOctets id rows ≤ stoppedOctets id (d.change e dir r rows) := by
  unfold Radius.Daemon.change
  cases r.statusType with
  | start =>
    dsimp only
    split
    · exact le_rfl
    split
    · exact le_rfl
    unfold Daemon.opened
    split
    · exact le_rfl
    -- the new session is open
    have hnew : ∀ sub now, (newSession sub r.sessionID r.accountingNASIP r.framedIP r.ipv6Prefix
        now).stoppedOctets id = 0 := fun _ _ => if_pos (Or.inl rfl)
    unfold stoppedOctets
    rw [map_append, sum_append, map_singleton, sum_singleton, hnew, add_zero]
  | interimUpdate =>
    dsimp only
    split
    · exact le_rfl
    refine stopped_updateOpen (fun row hopen => ?_) _ rows
    have hzero : (row.counted r.acctOctets.1 r.acctOctets.2).stoppedOctets id = 0 :=
      if_pos (Or.inl hopen)
    exact hzero.ge
  | stop =>
    dsimp only
    split
    · exact le_rfl
    refine stopped_updateOpen (fun row _ => ?_) _ rows
    unfold SessionRow.stoppedOctets
    split
    · exact le_rfl
    · exact add_nonneg hr.1 hr.2
  | accountingOn => exact le_rfl
  | accountingOff => exact le_rfl
  | other n => exact le_rfl

theorem stopped_accounting (d : Daemon) (e : NetEnv) {r : AcctRequest}
    (hr : 0 ≤ r.acctOctets.1 ∧ 0 ≤ r.acctOctets.2) (net : Radius.Network) :
    stoppedOctets id net.sessions ≤
      stoppedOctets id (run Radius.netExec e (d.handleAccounting r) net).2.sessions := by
  have h := d.handleAccounting_handled e r net
  by_cases hreach : r.CarriesSession ∧ ¬net.acctDedup.Live e.now r.dedupKey ∧ d.Reaches e net.directory r
  · rw [h.recorded hreach.1 hreach.2.1 hreach.2.2]
    exact stopped_change d e net.directory hr net.sessions
  · rw [h.untouched fun hc hlive hd => hreach ⟨hc, hlive, hd⟩]

end

/-! ### The fair-usage scanner writes no session -/

namespace Fup

/-- The calls of a pass. -/
inductive ScanCall : scanSig.Call → Prop where
  | list : ScanCall (.inr (.stmt .getActiveSessionsAboveFUP))
  | flag (id : ℤ) : ScanCall (.inr (.stmt (.setFUPActive id true)))
  | beside (c : scanSig.Call) (h : BesideCall c) : ScanCall c

/-- What rewriting a profile without changing its plan keeps, the calls of a pass keep. -/
theorem ScanCall.keeps {β : Type} {f : Radius.Network → β} {c : scanSig.Call} (hc : ScanCall c)
    (hf : ∀ id (g : Profile → Profile) net, (∀ p, (g p).planID = p.planID) →
      f (Radius.FUPStore.updateSubscriber id g net).2 = f net)
    (e : ScanEnv) (s : Jobqueue.QueueDB × Radius.Network) : f (scanExec e c s).2.2 = f s.2 := by
  have hexec : ∀ op : Radius.NetOp, f (op.run e.net.now e.net.order.1 s.2).2 = f s.2 →
      f (Radius.netExec e.net (.stmt op) s.2).2 = f s.2 := by
    intro op hop
    unfold netExec
    dsimp only
    split
    · rfl
    · exact hop
  cases hc with
  | list => exact hexec .getActiveSessionsAboveFUP rfl
  | flag id => exact hexec (.setFUPActive id true) (hf id _ s.2 fun _ => rfl)
  | beside _ h =>
    cases h with
    | queue c => rfl
    | overrides => exact hexec .listExpiredSpeedOverrides rfl
    | clear id => exact hexec (.clearSpeedOverride id) (hf id _ s.2 fun _ => rfl)
    | warnings pct => exact hexec (.getSessionsAtWarning pct) rfl

theorem BesideCall.calls {α : Type} {p : ScanProg α} (h : p.Calls BesideCall) : p.Calls ScanCall :=
  h.mono fun c => ScanCall.beside c

theorem calls_scan : Scanner.scan.Calls ScanCall := by
  refine pass_rule (T := fun p => p.Calls ScanCall) (fun _ => trivial) Prog.calls_bind ?_ (BesideCall.calls beside_scanExpiredOverrides)
    (BesideCall.calls beside_scanWarnings)
  exact breaches_rule (T := fun p => p.Calls ScanCall) (fun _ => trivial) Prog.calls_bind ⟨.list, fun _ => trivial⟩
    (fun id => calls_push (.flag id) fun _ => BesideCall.calls (beside_enqueue _))
    fun _ => BesideCall.calls (beside_enqueue _)

/-- So does a pass. -/
theorem scan_keeps {β : Type} {f : Radius.Network → β}
    (hf : ∀ id (g : Profile → Profile) net, (∀ p, (g p).planID = p.planID) →
      f (Radius.FUPStore.updateSubscriber id g net).2 = f net)
    (e : ScanEnv) (s : Jobqueue.QueueDB × Network) : f (run scanExec e Scanner.scan s).2.2 = f s.2 :=
  Prog.Calls.run_inv (I := fun s' : Jobqueue.QueueDB × Radius.Network => f s'.2 = f s.2)
    (fun _ s' hc hs => (hc.keeps hf e s').trans hs) calls_scan rfl

end Fup

/-! ### What a renewal leaves alone -/

section
variable {d : Daemon} {id : ℤ} {w : CycleWorld} {x : UsageEvent}

theorem follow_fupActive (db : DB) (id : ℤ) (p : Radius.Profile) : (p.follow db id).fupActive = p.fupActive := by
  unfold Radius.Profile.follow
  split <;> rfl

/-- Billing does not write the flag. -/
theorem throttled_billed (w : CycleWorld) (db : DB) (id : ℤ) :
    (w.billed db).net.Throttled id ↔ w.net.Throttled id := by
  unfold Radius.Network.Throttled CycleWorld.billed Radius.Directory.follow
  rw [Rows.lookup_update]
  cases w.net.directory.subscribers.lookup id with
  | none => simp
  | some p => simp [follow_fupActive]

/-- Only whoever is up for renewal, or pays for one, starts a cycle. -/
theorem cleanStart_of_starts (hx : x.isRenewal = true) (hclean : x.Clean id w)
    (hstarts : StartsCycle id w (w.step d x)) : CleanStart id w := by
  obtain ⟨r, hr, r', hr', hne⟩ := hstarts
  cases x with
  | accounting e req => cases hx
  | fupScan e => cases hx
  | billingScan e =>
    refine hclean ⟨r, hr, ?_⟩
    by_contra hnot
    have hsame := billingScan_unlisted e hr (by simpa using hnot)
    cases hsame.symm.trans hr'
    exact hne rfl
  | applyRenewal e sid amount pid =>
    refine hclean ?_
    by_contra hother
    have hspares : Makes (fun op => op.subject ≠ some id) (ApplyRenewal sid amount pid) := by
      refine (makes_ApplyRenewal sid amount pid).mono ?_
      rintro op (⟨b, rfl⟩ | ⟨t, rfl⟩) hid
      · exact hother (some.inj hid)
      · exact hother (some.inj hid)
    have hsame := hspares.spares e hr
    cases hsame.symm.trans hr'
    exact hne rfl

/-- A renewal leaves the flag and the sessions as they are. -/
theorem cleanStart_renewed (hx : x.isRenewal = true) (h : CleanStart id w) : CleanStart id (w.step d x) := by
  cases x with
  | accounting e req => cases hx
  | fupScan e => cases hx
  | billingScan e => exact ⟨fun hthrottled => h.1 ((throttled_billed w _ id).mp hthrottled), h.2⟩
  | applyRenewal e sid amount pid =>
    exact ⟨fun hthrottled => h.1 ((throttled_billed w _ id).mp hthrottled), h.2⟩

/-- What stopped sessions have used stays used. -/
theorem step_stopped (hclean : x.Clean id w) :
    stoppedOctets id w.net.sessions ≤ stoppedOctets id (w.step d x).net.sessions := by
  cases x with
  | accounting e req => exact stopped_accounting d e hclean w.net
  | fupScan e =>
    have hsame : (w.step d (.fupScan e)).net.sessions = w.net.sessions :=
      Fup.scan_keeps (fun id g net _ => updateSubscriber_sessions id g net) e (w.queue, w.net)
    rw [hsame]
  | billingScan e => exact le_rfl
  | applyRenewal e sid amount pid => exact le_rfl

/-- What is open now was transferred since, or was open then. -/
theorem usage_le_transferred {w' : CycleWorld}
    (h : stoppedOctets id w.net.sessions ≤ stoppedOctets id w'.net.sessions) :
    Radius.FUPStore.liveSessionUsage w'.net id ≤
      transferred id w w' + Radius.FUPStore.liveSessionUsage w.net id := by
  have hnow : Radius.FUPStore.liveSessionUsage w'.net id = Radius.openOctets id w'.net.sessions := rfl
  have hthen : liveSessionUsage w.net id = openOctets id w.net.sessions := rfl
  rw [transferred, octetsOf_eq, octetsOf_eq]
  linarith

theorem threshold_le_usage {order : List ℤ → List ℤ} {net : Network} {st : SessionStats}
    (hst : st ∈ Radius.FUPStore.GetActiveSessionsAboveFUP order net) (hid : st.subscriberID = id) :
    st.fupThreshold ≤ Radius.FUPStore.liveSessionUsage net id := by
  obtain ⟨id', -, hst⟩ := List.mem_filterMap.mp hst
  simp only [sessionStats, bind_eq_bind, bind_eq_some_iff] at hst
  obtain ⟨p, -, plan, -, hst⟩ := hst
  split at hst
  · rename_i hkept
    cases hst
    cases hid
    exact hkept.2.2.1
  · cases hst

end

/-- Any accounting, scans and renewals. If every renewal of the subscriber finds it unthrottled and with
    nothing counted on its open sessions, and no counter exceeds 63 bits, the quota is one per cycle. -/
theorem quota_per_cycle_of_clean (d : Daemon) (id : ℤ) (w : CycleWorld) (events : List UsageEvent)
    (h : Run.Meets (CycleWorld.step d) (UsageEvent.Clean id) w events) : QuotaPerCycle d id w events := by
  rintro pre x later rfl hx before after hstarts
  obtain ⟨hclean, hlater⟩ := ((meets_append pre).mp h).2
  have hclean' : CleanStart id after := cleanStart_renewed hx (cleanStart_of_starts hx hclean hstarts)
  refine ⟨hclean'.1, ?_⟩
  rintro mid e ⟨rest, rfl⟩ now st hst hid
  rw [append_assoc] at hlater
  have hstopped : stoppedOctets id after.net.sessions ≤ stoppedOctets id now.net.sessions :=
    inv (I := fun w' => stoppedOctets id after.net.sessions ≤ stoppedOctets id w'.net.sessions)
      (fun w' x hle hx => hle.trans (step_stopped hx)) mid le_rfl ((meets_append mid).mp hlater).1
  have husage := usage_le_transferred hstopped
  rw [hclean'.2, add_zero] at husage
  exact (threshold_le_usage hst hid).trans husage

instance decidableClean (id : ℤ) (w : CycleWorld) : ∀ x : UsageEvent, Decidable (x.Clean id w)
  | .accounting _ _ => inferInstanceAs (Decidable (_ ∧ _))
  | .fupScan _ => isTrue trivial
  | .billingScan _ => inferInstanceAs (Decidable (_ → _))
  | .applyRenewal _ _ _ _ => inferInstanceAs (Decidable (_ → _))

theorem oneCycle_nonneg : (0 : ℤ) ≤ 59000 := by decide

/-- A subscriber of both sides whose cycle ends on day 0, with the price of a cycle in the wallet. -/
def annWorld : CycleWorld where
  db := .seeded ((∅ : Table Subscriber).insert 1
    { Subscriber.paidUntil 0 with walletBalance := 59000, balance_nonneg := oneCycle_nonneg })
  queue := .empty 0
  net := twoSubscribers

/-- A record of the subscriber's first session, at so many minutes past midnight. -/
def annRecord (minutes : ℤ) (statusType : AcctStatusType) (octets : UInt32) : UsageEvent :=
  .accounting (.at (minutes * 60000000)) (.of statusType "ann" "10.0.0.1" "a1" octets 0)

/-- A session of the old cycle is stopped and the cycle renewed. -/
def stoppedThenRenewed : List UsageEvent :=
  [annRecord 0 .start 0, annRecord 5 .interimUpdate 900, annRecord 10 .stop 900, .billingScan (.at day)]

/-- The next session is reported, and has used the threshold by itself. -/
theorem stopped_session_forgotten :
    StartsCycle 1 annWorld (run (CycleWorld.step fullDaemon) annWorld stoppedThenRenewed) ∧
    QuotaPerCycle fullDaemon 1 annWorld
      (stoppedThenRenewed ++
        [annRecord 1445 .start 0, annRecord 1450 .interimUpdate 1100, .fupScan Fup.calm]) ∧
    FUPStore.Reports id (run (CycleWorld.step fullDaemon) annWorld
      (stoppedThenRenewed ++ [annRecord 1445 .start 0, annRecord 1450 .interimUpdate 1100])).net 1 :=
  ⟨by decide +kernel, quota_per_cycle_of_clean fullDaemon 1 annWorld _ (by decide +kernel),
    by decide +kernel⟩

/-- Throttled in the old cycle, renewed, and throttled still. And 900 octets before a renewal and 200
    after it are a breach of the new cycle's thousand. -/
theorem old_cycle_counts_again :
    ¬QuotaPerCycle fullDaemon 1 annWorld
      [annRecord 0 .start 0, annRecord 5 .interimUpdate 1200, .fupScan Fup.calm, .billingScan (.at day)] ∧
    ¬QuotaPerCycle fullDaemon 1 annWorld
      [annRecord 0 .start 0, annRecord 5 .interimUpdate 900, .billingScan (.at day),
        annRecord 1445 .interimUpdate 1100, .fupScan Fup.calm] := by
  constructor
  · intro h
    have hfree := (h [annRecord 0 .start 0, annRecord 5 .interimUpdate 1200, .fupScan Fup.calm]
      (.billingScan (.at day)) [] rfl rfl (by decide +kernel)).1
    revert hfree
    decide +kernel
  · intro h
    have hbreach := (h [annRecord 0 .start 0, annRecord 5 .interimUpdate 900] (.billingScan (.at day))
      [annRecord 1445 .interimUpdate 1100, .fupScan Fup.calm] rfl rfl (by decide +kernel)).2
      [annRecord 1445 .interimUpdate 1100] Fup.calm (prefix_refl _)
    revert hbreach
    decide +kernel

end IspBss
