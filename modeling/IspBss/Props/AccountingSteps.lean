import Mathlib
import IspBss.Radius.Daemon

/-! One accounting record across the daemon.

    A record touches three things: the dedup memory, the session table and, for a voucher, the metering
    columns. Which of them depends on the directory, which no record writes.

        carries a session ──▶ key free? ──▶ store? ──▶ a voucher's? ──▶ `change` of the session rows
              │ no              │ no          │ no        │ yes
              └── nothing       └── nothing   └── key taken, no row changes -/

namespace IspBss.Radius

open Lib Localcache List Prog String Nat

/-- The record names a session. -/
def AcctRequest.CarriesSession (r : AcctRequest) : Prop :=
  r.statusType ≠ .accountingOn ∧ r.statusType ≠ .accountingOff ∧ r.sessionID ≠ ""
  deriving Decidable

/-! ### The dedup key -/

/-- Fields joined by colons can be read back from the right, as far as they hold none. -/
theorem append_colon_inj {a b c d : List Char} (hb : ':' ∉ b) (hd : ':' ∉ d)
    (h : a ++ ":".toList ++ b = c ++ ":".toList ++ d) : a = c ∧ b = d := by
  have hcolon : ":".toList = [':'] := by decide
  rw [hcolon, List.append_assoc, List.append_assoc, singleton_append, singleton_append] at h
  rcases append_eq_append_iff.mp h with ⟨t, rfl, ht⟩ | ⟨t, rfl, ht⟩
  · cases t with
    | nil => exact ⟨(append_nil a).symm, (List.cons.inj ht).2⟩
    | cons x t =>
      exact absurd ((List.cons.inj ht).2 ▸ mem_append_right t (.head d)) hb
  · cases t with
    | nil => exact ⟨append_nil c, (List.cons.inj ht).2.symm⟩
    | cons x t =>
      exact absurd ((List.cons.inj ht).2 ▸ mem_append_right t (.head b)) hd

theorem colon_notMem_repr (n : ℤ) : ':' ∉ n.repr.toList := by
  have hnat : ∀ m : ℕ, ':' ∉ m.repr.toList := by
    intro m h
    rw [Nat.repr, String.toList_ofList] at h
    exact absurd (isDigit_of_mem_toDigits (by decide) (by decide) h) (by decide)
  cases n with
  | ofNat m => exact hnat m
  | negSucc m =>
    rw [Int.repr, toList_append]
    intro h
    rcases mem_append.mp h with h | h
    · exact absurd h (by decide)
    · exact hnat _ h

theorem colon_notMem_label (t : AcctStatusType) : ':' ∉ (acctStatusLabel t).toList := by
  cases t with
  | other n =>
    rw [acctStatusLabel]
    decide
  | _ => decide

/-- The key determines the session, the kind of record and both counters. -/
theorem AcctRequest.dedupKey_inj {r r' : AcctRequest} (h : r.dedupKey = r'.dedupKey) :
    r.sessionID = r'.sessionID ∧ acctStatusLabel r.statusType = acctStatusLabel r'.statusType ∧
      r.acctOctets = r'.acctOctets := by
  have h := congrArg toList h
  unfold dedupKey at h
  simp only [toList_append] at h
  obtain ⟨h, hout⟩ := append_colon_inj (colon_notMem_repr _) (colon_notMem_repr _) h
  obtain ⟨h, hin⟩ := append_colon_inj (colon_notMem_repr _) (colon_notMem_repr _) h
  obtain ⟨h, hlabel⟩ := append_colon_inj (colon_notMem_label _) (colon_notMem_label _) h
  exact ⟨toList_inj.mp (append_cancel_left h), toList_inj.mp hlabel,
    Prod.ext (Int.repr_injective (toList_inj.mp hin))
      (Int.repr_injective (toList_inj.mp hout))⟩

/-! ### The counters -/

/-- The octets a counter stands for. -/
def octetsOf (gigawords octets : UInt32) : ℤ := gigawords.toNat * 2 ^ 32 + octets.toNat

theorem octetsOf_bounds (gigawords octets : UInt32) : 0 ≤ octetsOf gigawords octets ∧ octetsOf gigawords octets < 2 ^ 64 := by
  have hg := gigawords.toNat_lt
  have ho := octets.toNat_lt
  unfold octetsOf
  omega

/-- The 64 bits hold the number; as a signed one it may be 2^64 less. -/
theorem counter_eq (gigawords octets : UInt32) : counter gigawords octets = (octetsOf gigawords octets).bmod (2 ^ 64) := by
  have hg := gigawords.toNat_lt
  have ho := octets.toNat_lt
  have hword : (gigawords.toBitVec.zeroExtend 64 <<< 32 ||| octets.toBitVec.zeroExtend 64).toNat =
      gigawords.toNat * 2 ^ 32 + octets.toNat := by
    simp only [BitVec.toNat_or, BitVec.toNat_shiftLeft, BitVec.truncate_eq_setWidth, BitVec.toNat_setWidth,
      UInt32.toNat_toBitVec]
    rw [mod_eq_of_lt (by omega), mod_eq_of_lt (by omega), mod_eq_of_lt (by omega), ← shiftLeft_eq,
      ← shiftLeft_add_eq_or_of_lt ho]
  rw [counter, BitVec.toInt_eq_toNat_bmod, hword]
  push_cast
  rfl

/-- Input and output as the NAS has counted them. -/
def AcctRequest.reported (r : AcctRequest) : ℤ × ℤ :=
  (octetsOf r.inputGigawords r.inputOctets, octetsOf r.outputGigawords r.outputOctets)

/-- The counters and their total are exact if and only if the total is below 2^63; the dedup key tells
    any two counts apart. -/
theorem octets_exact_iff (r : AcctRequest) :
    (r.acctOctets = r.reported ∧ r.totalOctets = r.reported.1 + r.reported.2 ↔
      r.reported.1 + r.reported.2 < 2 ^ 63) ∧
    ∀ r' : AcctRequest, r.dedupKey = r'.dedupKey → r.sessionID = r'.sessionID ∧
      acctStatusLabel r.statusType = acctStatusLabel r'.statusType ∧ r.reported = r'.reported := by
  have hin := octetsOf_bounds r.inputGigawords r.inputOctets
  have hout := octetsOf_bounds r.outputGigawords r.outputOctets
  constructor
  · simp only [AcctRequest.totalOctets, AcctRequest.acctOctets, counter_eq, AcctRequest.reported, Prod.mk.injEq,
      Int.bmod_def]
    omega
  · intro r' h
    obtain ⟨hid, hlabel, hoctets⟩ := AcctRequest.dedupKey_inj h
    have hin' := octetsOf_bounds r'.inputGigawords r'.inputOctets
    have hout' := octetsOf_bounds r'.outputGigawords r'.outputOctets
    simp only [AcctRequest.acctOctets, counter_eq, Prod.mk.injEq, Int.bmod_def] at hoctets
    simp only [AcctRequest.reported, Prod.mk.injEq]
    exact ⟨hid, hlabel, by omega, by omega⟩

/-- At 2^31 gigawords the counter turns negative. -/
theorem counter_negative :
    (AcctRequest.acctOctets ⟨.stop, "a1", "ann", none, none, none, none, 0, 0, 2 ^ 31, 0, "", ""⟩).1 = -2 ^ 63 := by
  decide

namespace Daemon

variable (d : Daemon) (e : NetEnv) (dir : Directory)

/-- What the directory says of a MAC at this moment; an error and nobody are told apart. -/
def macLookup (mac remoteAddr : String) :
    Except NetErr (Option Subscriber) :=
  if e.fails (.authorizeMAC mac (d.nasID remoteAddr)) then .error .unavailable
  else .ok (dir.AuthorizeMAC mac (d.nasID remoteAddr) e.now)

/-- The record is taken for a voucher's. -/
def Metered (r : AcctRequest) : Prop :=
  d.grantUsageDB = true ∧ ∃ mac ∈ NormaliseMAC r.userName, d.mabDB = true →
    ∃ found, d.macLookup e dir mac r.remoteAddr = .ok found ∧ ∀ sub ∈ found, sub.id = 0

/-- The subscriber found by name. -/
def byName (e : NetEnv) (dir : Directory) (username : String) : Option Subscriber :=
  if e.fails (.getSubscriberByUsername username) then none else dir.GetSubscriberByUsername username

/-- The subscriber the record is put down to. -/
def resolved (d : Daemon) (e : NetEnv) (dir : Directory) (r : AcctRequest) : Option Subscriber :=
  if r.userName = "" then none
  else
    match NormaliseMAC r.userName with
    | none => byName e dir r.userName
    | some mac =>
      if d.mabDB then
        match d.macLookup e dir mac r.remoteAddr with
        | .ok (some sub) => if sub.id = 0 then none else some sub
        | _ => none
      else byName e dir r.userName

/-- Open a session, unless one is open under the id. -/
def opened (dir : Directory) (sub : ℤ) (r : AcctRequest) (now : Time) (rows : List SessionRow) :
    List SessionRow :=
  if r.accountingNASIP = "" ∨ (∃ row ∈ rows, row.OpenAs r.sessionID) ∨ 255 < r.sessionID.length ∨
      sub ∉ dir.subscribers then rows
  else rows ++ [newSession sub r.sessionID r.accountingNASIP r.framedIP r.ipv6Prefix now]

variable (d : Daemon) (e : NetEnv) (dir : Directory) (r : AcctRequest)

/-- What a record does to the session rows once it reaches them. -/
def change (rows : List SessionRow) :
    List SessionRow :=
  match r.statusType with
  | .start =>
    match d.resolved e dir r with
    | none => rows
    | some sub =>
      if e.fails (.startSession sub.id r.sessionID r.accountingNASIP r.framedIP r.ipv6Prefix) then rows
      else opened dir sub.id r e.now rows
  | .interimUpdate =>
    if e.fails (.updateSessionOctets r.sessionID r.acctOctets.1 r.acctOctets.2) then rows
    else (updateOpen r.sessionID (·.counted r.acctOctets.1 r.acctOctets.2) rows).2
  | .stop =>
    if e.fails (.stopSession r.sessionID r.acctOctets.1 r.acctOctets.2 r.terminateCause) then rows
    else (updateOpen r.sessionID (·.stopped e.now r.acctOctets.1 r.acctOctets.2 r.terminateCause)
      rows).2
  | _ => rows

/-- The record gets as far as the session rows. -/
def Reaches : Prop :=
  d.acctDB = true ∧ ¬d.Metered e dir r

/-! ### The parts -/

theorem exec_stmt (e : NetEnv) (op : NetOp) (s : Network) : netExec e (.stmt op) s =
    if e.fails op then (.error .unavailable, s) else op.run e.now e.order.1 s := rfl

/-- Run the statement, then what follows on its answer. -/
theorem run_sql {α : Type} {e : NetEnv} {op : NetOp} {s s' : Network} {x : Except NetErr op.Result}
    (h : netExec e (.stmt op) s = (x, s')) (k : Except NetErr op.Result → NetProg α) :
    run netExec e (sql op >>= k) s = run netExec e (k x) s' := by
  show run netExec e (k (netExec e (.stmt op) s).1) (netExec e (.stmt op) s).2 = _
  rw [h]

theorem run_ask {α : Type} (e : NetEnv) (c : NetCall) (k : netSig.Resp c → NetProg α) (s : Network) :
    run netExec e (ask c >>= k) s = run netExec e (k (netExec e c s).1) (netExec e c s).2 := rfl

/-- A MAC lookup answers from the directory and changes nothing. -/
theorem exec_authorizeMAC (d : Daemon) (e : NetEnv) (mac remoteAddr : String) (s : Network) :
    netExec e (.stmt (.authorizeMAC mac (d.nasID remoteAddr))) s =
      (d.macLookup e s.directory mac remoteAddr, s) := by
  rw [exec_stmt, macLookup]
  split <;> rfl

theorem subscriberByName_run (e : NetEnv) (username : String) (s : Network) :
    run netExec e (subscriberByName username) s = (byName e s.directory username, s) := by
  unfold subscriberByName byName
  by_cases h : e.fails (.getSubscriberByUsername username) = true
  · rw [run_sql (if_pos h), if_pos h]
    rfl
  · rw [run_sql (if_neg h), if_neg h]
    rfl

/-- The statement that meters writes only the metering columns. -/
theorem exec_recordGrantUsage (e : NetEnv) (mac sessionID nasIP : String) (n : ℤ) (s : Network) :
    ∃ usage, (netExec e (.stmt (.recordGrantUsage mac sessionID nasIP n)) s).2 =
      { s with grantUsage := usage } := by
  rw [exec_stmt, NetOp.run, HotspotStore.RecordGrantUsage]
  split
  · exact ⟨s.grantUsage, rfl⟩
  split
  · exact ⟨s.grantUsage, rfl⟩
  split
  · exact ⟨s.grantUsage, rfl⟩
  split
  · exact ⟨s.grantUsage, rfl⟩
  · exact ⟨_, rfl⟩

theorem recordUsage_run (e : NetEnv) (r : AcctRequest) (mac : String) (s : Network) :
    ∃ usage, (run netExec e (recordUsage r mac) s).2 = { s with grantUsage := usage } := by
  obtain ⟨usage, hs⟩ := exec_recordGrantUsage e mac r.sessionID r.accountingNASIP r.totalOctets s
  refine ⟨usage, ?_⟩
  rw [recordUsage, run_sql (Prod.mk.eta.symm.trans (congrArg (Prod.mk _) hs))]
  match (netExec e (.stmt (.recordGrantUsage mac r.sessionID r.accountingNASIP r.totalOctets)) s).1 with
  | .error _ => rfl
  | .ok false => rfl
  | .ok true => rfl

variable (d : Daemon) (e : NetEnv) (r : AcctRequest) (s : Network)

/-- Voucher metering takes exactly the records that are `Metered`, and writes only the metering
    columns. -/
theorem meterVoucherSession_run :
    ((run netExec e (d.meterVoucherSession r) s).1.isSome ↔ d.Metered e s.directory r) ∧
    ∃ usage, (run netExec e (d.meterVoucherSession r) s).2 = { s with grantUsage := usage } := by
  have hrecord : ∀ mac, (run netExec e (recordUsage r mac >>= fun o => pure (some o)) s).1.isSome ∧
      ∃ usage, (run netExec e (recordUsage r mac >>= fun o => pure (some o)) s).2 =
        { s with grantUsage := usage } := by
    intro mac
    rw [Prog.run_bind]
    exact ⟨rfl, recordUsage_run e r mac s⟩
  unfold meterVoucherSession Metered
  by_cases hg : d.grantUsageDB = false
  · rw [if_pos hg]
    exact ⟨by simp [hg], s.grantUsage, rfl⟩
  rw [if_neg hg]
  rw [Bool.not_eq_false] at hg
  cases hmac : NormaliseMAC r.userName with
  | none => exact ⟨by simp, s.grantUsage, rfl⟩
  | some mac =>
    by_cases hmab : d.mabDB = true
    · simp only [hg, hmab, if_true, Option.mem_def, Option.some.injEq, exists_eq_left', true_and,
        forall_true_left]
      rw [run_sql (exec_authorizeMAC d e mac _ s)]
      match d.macLookup e s.directory mac r.remoteAddr with
      | .error _ => exact ⟨by simp, s.grantUsage, rfl⟩
      | .ok none => exact ⟨iff_of_true (hrecord mac).1 ⟨none, rfl, nofun⟩, (hrecord mac).2⟩
      | .ok (some sub) =>
        by_cases hsub : sub.id = 0
        · simp only [hsub, ne_eq, not_true_eq_false, if_false]
          exact ⟨iff_of_true (hrecord mac).1 ⟨some sub, rfl, by simp [hsub]⟩, (hrecord mac).2⟩
        · simp only [ne_eq, hsub, not_false_eq_true, if_true]
          exact ⟨by simp [hsub], s.grantUsage, rfl⟩
    · simp only [hmab]
      exact ⟨iff_of_true (hrecord mac).1 ⟨hg, mac, rfl, nofun⟩, (hrecord mac).2⟩

theorem resolveAccountingSubscriber_run :
    run netExec e (d.resolveAccountingSubscriber r) s = (d.resolved e s.directory r, s) := by
  unfold resolveAccountingSubscriber resolved
  by_cases hname : r.userName = ""
  · simp only [hname, if_true]
    rfl
  simp only [hname, if_false]
  cases NormaliseMAC r.userName with
  | none => exact subscriberByName_run e _ s
  | some mac =>
    by_cases hmab : d.mabDB = true
    · simp only [hmab, if_true]
      rw [run_sql (exec_authorizeMAC d e mac _ s)]
      generalize d.macLookup e s.directory mac r.remoteAddr = found
      rcases found with _ | _ | sub <;> rfl
    · simp only [hmab]
      exact subscriberByName_run e _ s

theorem StartSession_opened (sub : ℤ) (r : AcctRequest) (now : Time) (s : Network) :
    (FUPStore.StartSession sub r.sessionID r.accountingNASIP r.framedIP r.ipv6Prefix now s).2 =
      { s with sessions := opened s.directory sub r now s.sessions } := by
  unfold FUPStore.StartSession opened
  by_cases hip : r.accountingNASIP = ""
  · simp only [hip, true_or, if_true]
  by_cases hopen : ∃ row ∈ s.sessions, row.OpenAs r.sessionID
  · simp only [hip, hopen, true_or, or_true, if_true, if_false]
  by_cases hlong : 255 < r.sessionID.length
  · simp only [hip, hopen, hlong, true_or, or_true, if_true, if_false]
  by_cases hsub : sub ∉ s.directory.subscribers
  · simp only [hip, hopen, hlong, hsub, or_true, not_false_eq_true, if_true, if_false]
  · simp only [hip, hopen, hlong, hsub, or_self, if_false]

variable (d : Daemon) (e : NetEnv) (r : AcctRequest)

/-- A record that reaches the session rows changes them as `change` says, and nothing else. -/
theorem acctRecord_run (s : Network) :
    (run netExec e (d.acctRecord r) s).2 = { s with sessions := d.change e s.directory r s.sessions } := by
  unfold acctRecord change
  cases r.statusType with
  | start =>
    rw [acctStart, Prog.run_bind, resolveAccountingSubscriber_run]
    cases d.resolved e s.directory r with
    | none => rfl
    | some sub =>
      dsimp only
      by_cases hf : e.fails (.startSession sub.id r.sessionID r.accountingNASIP r.framedIP
          r.ipv6Prefix) = true
      · rw [run_sql (if_pos hf), if_pos hf]
        rfl
      · rw [if_neg hf, ← StartSession_opened, run_sql ((if_neg hf).trans Prod.mk.eta.symm)]
        match (FUPStore.StartSession sub.id r.sessionID r.accountingNASIP r.framedIP r.ipv6Prefix
          e.now s).1 with
        | .error _ => rfl
        | .ok () => rfl
  | interimUpdate =>
    by_cases hf : e.fails (.updateSessionOctets r.sessionID r.acctOctets.1 r.acctOctets.2) = true
    · rw [acctUpdate, run_sql (if_pos hf), if_pos hf]
      rfl
    · rw [acctUpdate, run_sql (if_neg hf), if_neg hf]
      rfl
  | stop =>
    by_cases hf : e.fails (.stopSession r.sessionID r.acctOctets.1 r.acctOctets.2
        r.terminateCause) = true
    · rw [acctStop, run_sql (if_pos hf), if_pos hf]
      rfl
    · rw [acctStop, run_sql (if_neg hf), if_neg hf]
      rfl
  | accountingOn => rfl
  | accountingOff => rfl
  | other n => rfl

/-! ### The whole record -/

/-- What handling a record leaves. -/
structure Handled (s s' : Network) : Prop where
  directory : s'.directory = s.directory
  remembered : r.CarriesSession →
    s'.acctDedup = (s.acctDedup.TrySet e.now r.dedupKey () acctDedupWindow).2
  forgotten : ¬r.CarriesSession → s'.acctDedup = s.acctDedup
  recorded : r.CarriesSession → ¬s.acctDedup.Live e.now r.dedupKey → d.Reaches e s.directory r →
    s'.sessions = d.change e s.directory r s.sessions
  untouched : (r.CarriesSession → ¬s.acctDedup.Live e.now r.dedupKey → ¬d.Reaches e s.directory r) →
    s'.sessions = s.sessions

/-- A record whose key is free goes on to the store with the key taken. -/
theorem stored_handled {d : Daemon} {e : NetEnv} {r : AcctRequest} {s s₁ : Network}
    (hc : r.CarriesSession) (hfree : ¬s.acctDedup.Live e.now r.dedupKey)
    (hs₁ : s₁ = { s with acctDedup := (s.acctDedup.TrySet e.now r.dedupKey () acctDedupWindow).2 }) :
    Handled d e r s (run netExec e
      (if d.acctDB = false then return .noStore
      else do
        match ← d.meterVoucherSession r with
        | some outcome => return outcome
        | none => d.acctRecord r) s₁).2 := by
  have hdir : s₁.directory = s.directory := by rw [hs₁]
  have hrows : s₁.sessions = s.sessions := by rw [hs₁]
  have hmem : s₁.acctDedup = (s.acctDedup.TrySet e.now r.dedupKey () acctDedupWindow).2 := by rw [hs₁]
  -- without a store, and for a voucher's record, the key is taken and the rows stay
  by_cases hdb : d.acctDB = false
  · rw [if_pos hdb]
    exact ⟨hdir, fun _ => hmem, fun h => absurd hc h,
      fun _ _ h => absurd (hdb.symm.trans h.1) Bool.false_ne_true,
      fun _ => hrows⟩
  rw [if_neg hdb, Prog.run_bind]
  obtain ⟨hmeter, usage, hs₂⟩ := meterVoucherSession_run d e r s₁
  rw [hs₂]
  rw [Bool.not_eq_false] at hdb
  cases ho : (run netExec e (d.meterVoucherSession r) s₁).1 with
  | some outcome =>
    rw [ho] at hmeter
    have hm : d.Metered e s.directory r := hdir ▸ hmeter.mp rfl
    exact ⟨hdir, fun _ => hmem, fun h => absurd hc h, fun _ _ h => absurd hm h.2, fun _ => hrows⟩
  | none =>
    rw [ho] at hmeter
    have hm : ¬d.Metered e s.directory r := fun h => by simpa using hmeter.mpr (hdir ▸ h)
    rw [acctRecord_run]
    exact ⟨hdir, fun _ => hmem, fun h => absurd hc h, fun _ _ _ => by rw [← hrows, ← hdir],
      fun h => absurd ⟨hdb, hm⟩ (h hc hfree)⟩

theorem handleAccounting_handled (d : Daemon) (e : NetEnv) (r : AcctRequest) (s : Network) :
    Handled d e r s (run netExec e (d.handleAccounting r) s).2 := by
  unfold handleAccounting
  by_cases hon : r.statusType = .accountingOn ∨ r.statusType = .accountingOff
  · have hc : ¬r.CarriesSession := fun h => hon.elim h.1 h.2.1
    rw [if_pos hon]
    exact ⟨rfl, fun h => absurd h hc, fun _ => rfl, fun h => absurd h hc, fun _ => rfl⟩
  rw [if_neg hon]
  by_cases hid : r.sessionID = ""
  · have hc : ¬r.CarriesSession := fun h => h.2.2 hid
    rw [if_pos hid]
    exact ⟨rfl, fun h => absurd h hc, fun _ => rfl, fun h => absurd h hc, fun _ => rfl⟩
  rw [if_neg hid]
  have hc : r.CarriesSession := ⟨fun h => hon (.inl h), fun h => hon (.inr h), hid⟩
  by_cases hlive : s.acctDedup.Live e.now r.dedupKey
  · have hask : netExec e (.trySet r.dedupKey) s = (false, s) := by
      rw [netExec, Store.trySet_live hlive]
    rw [run_ask, hask]
    exact ⟨rfl, fun _ => by rw [Store.trySet_live hlive]; rfl, fun h => absurd hc h,
      fun _ h => absurd hlive h, fun _ => rfl⟩
  · have hask : netExec e (.trySet r.dedupKey) s = (true, { s with acctDedup :=
        ⟨s.acctDedup.entries.insert r.dedupKey ⟨(), e.now + acctDedupWindow⟩⟩ }) := by
      rw [netExec, Store.trySet_free hlive]
    rw [run_ask, hask]
    exact stored_handled hc hlive (by rw [Store.trySet_free hlive])

/-! ### A whole traffic -/

@[simp] theorem serve_cons (d : Daemon) (s : Network) (x : NetEnv × AcctRequest)
    (xs : List (NetEnv × AcctRequest)) :
    d.serve s (x :: xs) = d.serve (run netExec x.1 (d.handleAccounting x.2) s).2 xs := rfl

/-- No traffic writes the directory. -/
theorem serve_directory (d : Daemon) : ∀ (xs : List (NetEnv × AcctRequest)) (s : Network),
    (d.serve s xs).directory = s.directory
  | [], _ => rfl
  | x :: xs, s => by
      rw [serve_cons, serve_directory d xs]
      exact (handleAccounting_handled d x.1 x.2 s).directory

end Daemon

end IspBss.Radius
