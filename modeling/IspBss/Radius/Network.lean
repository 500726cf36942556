import IspBss.Lib.Program
import IspBss.Localcache.Ttlmap

/-! The network side of the database: who may be on the network, and who is.

    Authentication, accounting and the fair-usage scanner share these tables. Each statement is one
    atomic call.

        Directory     subscribers, plans, hotspot_devices, hotspot_grants     (who may)
        sessions      subscriber_session_history                             (who is)
        grantUsage    the metering columns of hotspot_grants
        acctDedup     the daemon's own memory of the records it has seen

    Accounting never writes the directory. -/

namespace IspBss.Radius

open Lib Option

/-! ### MAC addresses -/

/-- The hex digits of a text in upper case, if all else in it is separators. -/
def macDigits : List Char → Option (List Char)
  | [] => some []
  | c :: cs =>
    if ('0' ≤ c ∧ c ≤ '9') ∨ ('A' ≤ c ∧ c ≤ 'F') then (macDigits cs).map (c :: ·)
    else if 'a' ≤ c ∧ c ≤ 'f' then (macDigits cs).map (Char.ofNat (c.toNat - 32) :: ·)
    else if c = ':' ∨ c = '-' ∨ c = '.' ∨ c = ' ' then macDigits cs
    else none

/-- Pairs, joined by colons. -/
def colonPairs : List Char → List Char
  | a :: b :: c :: rest => a :: b :: ':' :: colonPairs (c :: rest)
  | h => h

/-- The canonical form of a MAC, upper case with colons; none if the text is not one. -/
def NormaliseMAC (s : String) : Option String :=
  match macDigits s.toList with
  | none => none
  | some h => if h.length = 12 then some (String.ofList (colonPairs h)) else none

/-! ### The tables -/

/-- `plans`: what the network applies of them. -/
structure RatePlan where
  rateLimitString : String
  volumeGB : ℤ
  fupThresholdBytes : ℤ
  fupThrottleString : Option String
  deriving DecidableEq

/-- `subscribers`: the columns the network reads. -/
structure Profile where
  username : String
  passwordHash : String
  status : SubStatus
  planID : ℤ
  fupActive : Bool
  ntHash : Option (List UInt8)
  speedOverrideRateLimit : Option String
  speedOverrideExpiresAt : Option Time
  deriving DecidableEq

/-- `hotspot_devices`, by MAC address. -/
structure HotspotDevice where
  subscriberID : ℤ
  nasID : Option ℤ
  active : Bool
  deriving DecidableEq

/-- `hotspot_grants`, without the columns that metering writes. -/
structure Grant where
  id : ℤ
  mac : String
  subscriberID : Option ℤ
  voucherID : Option ℤ
  nasID : Option ℤ
  planID : ℤ
  expiresAt : Time
  revokedAt : Option Time
  one_source : subscriberID.isNone ≠ voucherID.isNone
  deriving DecidableEq

/-- The metering columns of a grant. -/
structure GrantUsage where
  bytesUsed : ℤ
  sessionID : Option String
  nasIP : Option String
  lastSeenAt : Option Time
  deriving DecidableEq

/-- `subscriber_session_history`; a row without a stop time is a session that is open. -/
structure SessionRow where
  subscriberID : ℤ
  sessionID : String
  nasIP : String
  assignedIPv4 : Option String
  assignedIPv6Prefix : Option String
  startTime : Time
  stopTime : Option Time
  inputOctets : ℤ
  outputOctets : ℤ
  terminateCause : Option String
  deriving DecidableEq

structure Directory where
  subscribers : Rows ℤ Profile
  plans : Rows ℤ RatePlan
  devices : Rows String HotspotDevice
  grants : List Grant

structure Network where
  directory : Directory
  grantUsage : Rows ℤ GrantUsage
  sessions : List SessionRow
  acctDedup : Localcache.Store Unit

/-! ### Looking somebody up -/

/-- `radius.Subscriber`: what an authentication decision needs. -/
structure Subscriber where
  id : ℤ
  username : String
  passwordHash : String
  status : SubStatus
  rateLimitStr : String
  fupActive : Bool
  fupThrottle : String
  speedOverrideRateLimit : String
  speedOverrideExpiresAt : Option Time
  planID : ℤ
  ntHash : Option (List UInt8)
  volumeGB : ℤ
  deriving DecidableEq

/-- A NULL nas_id is any NAS. -/
def nasMatches (bound : Option ℤ) (nasID : ℤ) : Prop := bound = none ∨ bound = some nasID
  deriving Decidable

/-- A grant that has been neither revoked nor outlived. -/
def Grant.Live (g : Grant) (mac : String) (now : Time) : Prop :=
  g.mac = mac ∧ g.revokedAt = none ∧ now < g.expiresAt
  deriving Decidable

namespace Directory

/-- `RadiusStore.GetSubscriberByUsername`. -/
def GetSubscriberByUsername (d : Directory) (username : String) : Option Subscriber := do
  let ⟨id, s⟩ ← d.subscribers.entries.find? fun x => x.2.username = username
  let p ← d.plans.lookup s.planID
  return { id := id, username := s.username, passwordHash := s.passwordHash, status := s.status,
           rateLimitStr := p.rateLimitString, fupActive := s.fupActive,
           fupThrottle := p.fupThrottleString.getD "",
           speedOverrideRateLimit := s.speedOverrideRateLimit.getD "",
           speedOverrideExpiresAt := s.speedOverrideExpiresAt, planID := s.planID,
           ntHash := s.ntHash, volumeGB := p.volumeGB }

/-- What `AuthorizeMAC` fills in: neither the speed override nor the NT hash is selected. -/
def macSubscriber (id : ℤ) (username passwordHash : String) (status : SubStatus) (planID : ℤ)
    (p : RatePlan) (fupActive : Bool) : Subscriber where
  id := id
  username := username
  passwordHash := passwordHash
  status := status
  rateLimitStr := p.rateLimitString
  fupActive := fupActive
  fupThrottle := p.fupThrottleString.getD ""
  speedOverrideRateLimit := ""
  speedOverrideExpiresAt := none
  planID := planID
  ntHash := none
  volumeGB := 0

/-- The subscriber an active device is registered to. -/
def deviceMatch (d : Directory) (mac : String) (nasID : ℤ) : Option Subscriber := do
  let h ← d.devices.lookup mac
  if h.active = true ∧ nasMatches h.nasID nasID then
    let s ← d.subscribers.lookup h.subscriberID
    let p ← d.plans.lookup s.planID
    return macSubscriber h.subscriberID s.username s.passwordHash s.status s.planID p s.fupActive
  else none

/-- Who a grant is for: its subscriber, or nobody (id 0) if it came from a voucher. -/
def grantSubscriber (d : Directory) (g : Grant) (p : RatePlan) : Subscriber :=
  match g.subscriberID.bind fun id => (d.subscribers.lookup id).map (id, ·) with
  | some (id, s) =>
    macSubscriber id s.username s.passwordHash s.status g.planID p s.fupActive
  -- the `COALESCE`s of the outer join: nobody is behind the grant
  | none => macSubscriber 0 ("voucher:" ++ g.id.repr) "" .active g.planID p false

/-- `ORDER BY expires_at DESC LIMIT 1`. -/
def lastToExpire : List (Grant × RatePlan) → Option (Grant × RatePlan)
  | [] => none
  | x :: xs =>
    match lastToExpire xs with
    | none => some x
    | some y => if y.1.expiresAt ≤ x.1.expiresAt then some x else some y

variable (d : Directory) (mac : String) (nasID : ℤ) (now : Time)

/-- The live grant for the MAC on this NAS that lasts longest. -/
def grantMatch : Option Subscriber := do
  let live := d.grants.filter fun g => g.Live mac now ∧ nasMatches g.nasID nasID
  let joined := live.filterMap fun g => (d.plans.lookup g.planID).map (g, ·)
  let (g, p) ← lastToExpire joined
  return d.grantSubscriber g p

/-- `HotspotStore.AuthorizeMAC`: a registered device first, then a live grant. -/
def AuthorizeMAC : Option Subscriber :=
  (d.deviceMatch mac nasID).orElse fun _ => d.grantMatch mac nasID now

end Directory

/-! ### The statements -/

inductive NetErr where
  | unavailable
  | notFound
  | invalidInet
  | tooLong (column : String)
  | check (name : String)
  | foreignKey (column : String)
  deriving DecidableEq

/-- `fup.SessionStats`. -/
structure SessionStats where
  subscriberID : ℤ
  username : String
  nasIP : String
  fupThreshold : ℤ
  bytesUsed : ℤ
  fupActive : Bool
  fupThrottle : String
  deriving DecidableEq

/-- What `GetSubscriberNASSession` returns: a session, the rate to apply to it and the plan. -/
structure NASSession where
  nasIP : String
  sessionID : String
  rateLimit : String
  planID : ℤ
  deriving DecidableEq

inductive NetOp where
  | getSubscriberByUsername (username : String)
  | authorizeMAC (mac : String) (nasID : ℤ)
  | recordGrantUsage (mac sessionID nasIP : String) (bytesUsed : ℤ)
  | startSession (subscriberID : ℤ) (sessionID nasIP assignedIP ipv6Prefix : String)
  | updateSessionOctets (sessionID : String) (inputOctets outputOctets : ℤ)
  | stopSession (sessionID : String) (inputOctets outputOctets : ℤ) (cause : String)
  | getActiveSessionsAboveFUP
  | getSessionsAtWarning (pct : ℤ)
  | setFUPActive (subscriberID : ℤ) (active : Bool)
  | listExpiredSpeedOverrides
  | clearSpeedOverride (subscriberID : ℤ)
  | setSpeedOverride (subscriberID : ℤ) (rateLimit : String) (expiresAt : Option Time)
  | getSubscriberNASSession (subscriberID : ℤ)
  | resolveSessionSubscriber (sessionID : String)
  deriving DecidableEq

@[reducible] def NetOp.Result : NetOp → Type
  | getSubscriberByUsername _ => Option Subscriber
  | authorizeMAC _ _ => Option Subscriber
  | recordGrantUsage _ _ _ _ => Bool
  | updateSessionOctets _ _ _ => Bool
  | stopSession _ _ _ _ => Bool
  | getActiveSessionsAboveFUP => List SessionStats
  | getSessionsAtWarning _ => List SessionStats
  | listExpiredSpeedOverrides => List ℤ
  | getSubscriberNASSession _ => NASSession
  | resolveSessionSubscriber _ => ℤ × String
  | _ => Unit

namespace SessionRow

variable (r : SessionRow)

/-- `stop_time IS NULL`. -/
def IsOpen : Prop := r.stopTime = none
  deriving Decidable

/-- `session_id = … AND stop_time IS NULL`. -/
def OpenAs (sessionID : String) : Prop := r.sessionID = sessionID ∧ r.IsOpen
  deriving Decidable

def counted (inputOctets outputOctets : ℤ) : SessionRow :=
  { r with inputOctets := inputOctets, outputOctets := outputOctets }

def stopped (now : Time) (inputOctets outputOctets : ℤ) (cause : String) :
    SessionRow :=
  { r with stopTime := some now, inputOctets := inputOctets, outputOctets := outputOctets,
           terminateCause := nullIfEmpty cause }

end SessionRow

/-- The subscriber has a session open. -/
def Network.Online (s : Network) (sub : ℤ) : Prop :=
  ∃ row ∈ s.sessions, row.IsOpen ∧ row.subscriberID = sub
  deriving Decidable

/-- A session as `StartSession` records it. -/
def newSession (subscriberID : ℤ) (sessionID nasIP assignedIP ipv6Prefix : String) (now : Time) :
    SessionRow where
  subscriberID := subscriberID
  sessionID := sessionID
  nasIP := nasIP
  assignedIPv4 := nullIfEmpty assignedIP
  assignedIPv6Prefix := nullIfEmpty ipv6Prefix
  startTime := now
  stopTime := none
  inputOctets := 0
  outputOctets := 0
  terminateCause := none

/-- Rewrite the open rows of a session id; the answer says whether there were any. -/
def updateOpen (sessionID : String) (f : SessionRow → SessionRow) (rows : List SessionRow) :
    Bool × List SessionRow :=
  (rows.any fun r => r.OpenAs sessionID, rows.map fun r => if r.OpenAs sessionID then f r else r)

namespace FUPStore

/-- Idempotent on the session id while the session is open. -/
def StartSession (subscriberID : ℤ) (sessionID nasIP assignedIP ipv6Prefix : String) (now : Time)
    (s : Network) : Except NetErr Unit × Network :=
  if nasIP = "" then (.error .invalidInet, s)
  -- `WHERE NOT EXISTS` asks for open rows only: a closed session of that id does not keep it out
  else if ∃ r ∈ s.sessions, r.OpenAs sessionID then (.ok (), s)
  else if 255 < sessionID.length then (.error (.tooLong "session_id"), s)
  else if subscriberID ∉ s.directory.subscribers then (.error (.foreignKey "subscriber_id"), s)
  else
    (.ok (), { s with sessions :=
      s.sessions ++ [newSession subscriberID sessionID nasIP assignedIP ipv6Prefix now] })

variable (sessionID : String) (inputOctets outputOctets : ℤ)

def UpdateSessionOctets (s : Network) :
    Except NetErr Bool × Network :=
  let (matched, rows) := updateOpen sessionID (·.counted inputOctets outputOctets) s.sessions
  (.ok matched, { s with sessions := rows })

def StopSession (cause : String) (now : Time)
    (s : Network) : Except NetErr Bool × Network :=
  let (matched, rows) := updateOpen sessionID (·.stopped now inputOctets outputOctets cause) s.sessions
  (.ok matched, { s with sessions := rows })

/-- The join of `CloseSupersededSessions`: a row of the same subscriber on the same NAS that starts later. -/
def Succeeds (a b : SessionRow) : Prop :=
  b.subscriberID = a.subscriberID ∧ b.nasIP = a.nasIP ∧ a.startTime < b.startTime
  deriving Decidable

/-- `MIN(b.start_time)` for a row that is open. -/
def successor (rows : List SessionRow) (a : SessionRow) : Option Time :=
  if a.IsOpen then ((rows.filter (Succeeds a)).map SessionRow.startTime).min? else none

/-- A row after the UPDATE. -/
def superseded (rows : List SessionRow) (a : SessionRow) : SessionRow :=
  match successor rows a with
  | none => a
  | some t =>
    { a with stopTime := some t,
             terminateCause := some (a.terminateCause.getD "superseded-no-acct-stop") }

/-- The number of rows that are closed, and the table with them closed. -/
def CloseSupersededSessions (s : Network) : ℕ × Network :=
  (s.sessions.countP fun a => (successor s.sessions a).isSome,
    { s with sessions := s.sessions.map (superseded s.sessions) })

variable (s : Network) (subscriberID : ℤ)

/-- The open sessions of a subscriber. -/
def openSessions : List SessionRow :=
  s.sessions.filter fun r => r.IsOpen ∧ r.subscriberID = subscriberID

/-- The `bytes_used` of `liveSessionUsage`: only rows that are open are summed. -/
def liveSessionUsage : ℤ :=
  ((openSessions s subscriberID).map fun r => r.inputOctets + r.outputOctets).sum

/-- The `nas_ip` of `liveSessionUsage`: the greatest of the texts. -/
def liveSessionNas : String :=
  (openSessions s subscriberID).foldl (fun m r => if m < r.nasIP then r.nasIP else m) ""

/-- The subscribers `liveSessionUsage` has a group for. -/
def onlineSubscribers (s : Network) : List ℤ :=
  ((s.sessions.filter fun r => r.IsOpen).map (·.subscriberID)).dedup

/-- One row of the two fair-usage queries, for a subscriber that `keep` lets through. -/
def sessionStats (s : Network) (keep : RatePlan → ℤ → Prop) [∀ p n, Decidable (keep p n)] (id : ℤ) :
    Option SessionStats := do
  let sub ← s.directory.subscribers.lookup id
  let p ← s.directory.plans.lookup sub.planID
  let bytesUsed := liveSessionUsage s id
  if 0 < p.fupThresholdBytes ∧ sub.fupActive = false ∧ keep p bytesUsed ∧
      (sub.status = .active ∨ sub.status = .gracePeriod) then
    return { subscriberID := id, username := sub.username, nasIP := liveSessionNas s id,
             fupThreshold := p.fupThresholdBytes, bytesUsed := bytesUsed,
             fupActive := sub.fupActive, fupThrottle := p.fupThrottleString.getD "" }
  else none

theorem sessionStats_eq_some {s : Network} {keep : RatePlan → ℤ → Prop} [∀ p n, Decidable (keep p n)]
    {id : ℤ} {st : SessionStats} (h : sessionStats s keep id = some st) :
    st.subscriberID = id ∧ 0 < st.fupThreshold ∧ st.fupActive = false ∧
      ∃ p : RatePlan, p.fupThresholdBytes = st.fupThreshold ∧ keep p st.bytesUsed := by
  simp only [sessionStats, bind_eq_bind, bind_eq_some_iff] at h
  obtain ⟨x, -, p, -, h⟩ := h
  split at h
  · rename_i hkeep
    cases h
    exact ⟨rfl, hkeep.1, hkeep.2.1, p, rfl, hkeep.2.2.1⟩
  · cases h

/-- The WHERE clause on the octets: the threshold has been reached. -/
def Breached (p : RatePlan) (bytesUsed : ℤ) : Prop := p.fupThresholdBytes ≤ bytesUsed
  deriving Decidable

/-- Past the share but not at the threshold; the division is of integers. -/
def AtWarning (pct : ℤ) (p : RatePlan) (bytesUsed : ℤ) : Prop :=
  (p.fupThresholdBytes * pct).tdiv 100 ≤ bytesUsed ∧ bytesUsed < p.fupThresholdBytes
  deriving Decidable

def FUPWarningPct : ℤ := 80

/-- Both queries return their rows in no particular order. -/
def GetActiveSessionsAboveFUP (order : List ℤ → List ℤ) (s : Network) : List SessionStats :=
  (order (onlineSubscribers s)).filterMap (sessionStats s Breached)

def GetSessionsAtWarning (order : List ℤ → List ℤ) (pct : ℤ) (s : Network) : List SessionStats :=
  let pct := if pct ≤ 0 ∨ 100 ≤ pct then FUPWarningPct else pct
  (order (onlineSubscribers s)).filterMap (sessionStats s (AtWarning pct))

variable (id : ℤ) (f : Profile → Profile) (s : Network)

/-- UPDATE subscribers … WHERE id = …. -/
def updateSubscriber : Except NetErr Unit × Network :=
  if id ∈ s.directory.subscribers then
    (.ok (), { s with directory :=
      { s.directory with subscribers := s.directory.subscribers.updateWhere (fun k _ => k = id) f } })
  else (.error .notFound, s)

theorem updateSubscriber_sessions :
    (updateSubscriber id f s).2.sessions = s.sessions := by
  rw [updateSubscriber]
  split <;> rfl

theorem lookup_updateSubscriber (k : ℤ) :
    (updateSubscriber id f s).2.directory.subscribers.lookup k =
      (s.directory.subscribers.lookup k).map fun p => if k = id then f p else p := by
  rw [updateSubscriber]
  split
  · simp only [Rows.lookup_updateWhere, decide_eq_true_eq]
  · rename_i hmem
    by_cases hk : k = id
    · subst hk
      rw [AList.lookup_eq_none.mpr hmem, map_none]
    · simp only [if_neg hk, map_id']

def SetFUPActive (id : ℤ) (active : Bool) : Network → Except NetErr Unit × Network :=
  updateSubscriber id fun p => { p with fupActive := active }

def ClearSpeedOverride (id : ℤ) : Network → Except NetErr Unit × Network :=
  updateSubscriber id fun p =>
    { p with speedOverrideRateLimit := none, speedOverrideExpiresAt := none }

/-- The column is a `VARCHAR(32)`. -/
def SetSpeedOverride (id : ℤ) (rateLimit : String) (expiresAt : Option Time) (s : Network) :
    Except NetErr Unit × Network :=
  if id ∈ s.directory.subscribers ∧ 32 < rateLimit.length then
    (.error (.tooLong "speed_override_rate_limit"), s)
  else
    updateSubscriber id (fun p =>
      { p with speedOverrideRateLimit := some rateLimit, speedOverrideExpiresAt := expiresAt }) s

def ListExpiredSpeedOverrides (order : List ℤ → List ℤ) (now : Time) (s : Network) : List ℤ :=
  order ((s.directory.subscribers.entries.filter fun x =>
    x.2.speedOverrideExpiresAt.any (· ≤ now)).map (·.1))

/-- `LIMIT 1`: the row that happens to come first. -/
def limitOne {α : Type} (order : List ℤ → List ℤ) (rows : List α) : Option α := do
  let i ← (order ((List.range rows.length).map Int.ofNat)).head?
  rows[i.toNat]?

/-- The rows that `ORDER BY start_time DESC` may put first. -/
def latest (rows : List SessionRow) : List SessionRow :=
  rows.filter fun r => rows.all fun r' => r'.startTime ≤ r.startTime

/-- The rate without an override: the throttled one if the subscriber is flagged and the plan has
    one. -/
def shapedRate (s : Profile) (p : RatePlan) : String :=
  if s.fupActive = true ∧ p.fupThrottleString.getD "" ≠ "" then p.fupThrottleString.getD ""
  else p.rateLimitString

/-- The CASE of `GetSubscriberNASSession`. -/
def sessionRate (now : Time) (s : Profile) (p : RatePlan) : String :=
  match s.speedOverrideRateLimit with
  | some rate =>
    if s.speedOverrideExpiresAt = none ∨ s.speedOverrideExpiresAt.any (now < ·) then rate
    else shapedRate s p
  | none => shapedRate s p

/-- The open session that started last. -/
def GetSubscriberNASSession (order : List ℤ → List ℤ) (now : Time) (id : ℤ) (s : Network) :
    Except NetErr NASSession :=
  match s.directory.subscribers.lookup id with
  | none => .error .notFound
  | some sub =>
    match s.directory.plans.lookup sub.planID with
    | none => .error .notFound
    | some p =>
      match limitOne order (latest (openSessions s id)) with
      | none => .error .notFound
      | some r => .ok ⟨r.nasIP, r.sessionID, sessionRate now sub p, sub.planID⟩

/-- The subscriber and the NAS of an open session. -/
def ResolveSessionSubscriber (order : List ℤ → List ℤ) (sessionID : String) (s : Network) :
    Except NetErr (ℤ × String) :=
  match limitOne order (s.sessions.filter fun r => r.OpenAs sessionID) with
  | none => .error .notFound
  | some r => .ok (r.subscriberID, r.nasIP)

end FUPStore

/-- `HotspotStore.RecordGrantUsage`: the octets are assigned to every live grant of the MAC. -/
def HotspotStore.RecordGrantUsage (mac sessionID nasIP : String) (bytesUsed : ℤ) (now : Time)
    (s : Network) : Except NetErr Bool × Network :=
  match s.directory.grants.filter fun g => g.Live mac now with
  | [] => (.ok false, s)
  | live =>
    if bytesUsed < 0 then (.error (.check "hotspot_grants_bytes_used_check"), s)
    else if 255 < sessionID.length then (.error (.tooLong "session_id"), s)
    else
      let meter (usage : Rows ℤ GrantUsage) (g : Grant) : Rows ℤ GrantUsage :=
        let old := (usage.lookup g.id).getD ⟨0, none, none, none⟩
        usage.insert g.id
          { bytesUsed := bytesUsed, sessionID := (nullIfEmpty sessionID).or old.sessionID,
            nasIP := (nullIfEmpty nasIP).or old.nasIP, lastSeenAt := some now }
      (.ok true, { s with grantUsage := live.foldl meter s.grantUsage })

/-- A statement at a moment, with the order its rows come in. -/
def NetOp.run (now : Time) (order : List ℤ → List ℤ) :
    (op : NetOp) → Network → Except NetErr op.Result × Network
  | getSubscriberByUsername username, s => (.ok (s.directory.GetSubscriberByUsername username), s)
  | authorizeMAC mac nasID, s => (.ok (s.directory.AuthorizeMAC mac nasID now), s)
  | recordGrantUsage mac sessionID nasIP bytesUsed, s =>
    HotspotStore.RecordGrantUsage mac sessionID nasIP bytesUsed now s
  | startSession subscriberID sessionID nasIP assignedIP ipv6Prefix, s =>
    FUPStore.StartSession subscriberID sessionID nasIP assignedIP ipv6Prefix now s
  | updateSessionOctets sessionID inputOctets outputOctets, s =>
    FUPStore.UpdateSessionOctets sessionID inputOctets outputOctets s
  | stopSession sessionID inputOctets outputOctets cause, s =>
    FUPStore.StopSession sessionID inputOctets outputOctets cause now s
  | getActiveSessionsAboveFUP, s => (.ok (FUPStore.GetActiveSessionsAboveFUP order s), s)
  | getSessionsAtWarning pct, s => (.ok (FUPStore.GetSessionsAtWarning order pct s), s)
  | setFUPActive id active, s => FUPStore.SetFUPActive id active s
  | listExpiredSpeedOverrides, s => (.ok (FUPStore.ListExpiredSpeedOverrides order now s), s)
  | clearSpeedOverride id, s => FUPStore.ClearSpeedOverride id s
  | setSpeedOverride id rateLimit expiresAt, s => FUPStore.SetSpeedOverride id rateLimit expiresAt s
  | getSubscriberNASSession id, s => (FUPStore.GetSubscriberNASSession order now id s, s)
  | resolveSessionSubscriber sessionID, s => (FUPStore.ResolveSessionSubscriber order sessionID s, s)

/-! ### The calls -/

/-- A statement, the dedup memory, or one of the checks of a credential. -/
inductive NetCall where
  | stmt (op : NetOp)
  | trySet (key : String)
  | guardCheck (username : String)
  | verifierCheck (username password passwordHash : String)
  | compareHashAndPassword (passwordHash password : String)
  deriving DecidableEq

@[reducible] def NetCall.Resp : NetCall → Type
  | stmt op => Except NetErr op.Result
  | _ => Bool

@[reducible] def netSig : Sig := ⟨NetCall, NetCall.Resp⟩

/-- What a step is taken in: the clock, the statements that fail, the order in which rows are returned,
    who is locked out, and which passwords the verifier cache and bcrypt accept. -/
structure NetEnv where
  now : Time
  fails : NetOp → Bool
  order : { f : List ℤ → List ℤ // ∀ ids, (f ids).Perm ids }
  lockedOut : String → Bool
  verified : String → String → String → Bool
  bcrypt : String → String → Bool

/-- A moment at which nothing fails, nobody is locked out and no password is accepted. -/
def NetEnv.at (now : Time) : NetEnv where
  now := now
  fails := fun _ => false
  order := ⟨id, fun _ => .refl _⟩
  lockedOut := fun _ => false
  verified := fun _ _ _ => false
  bcrypt := fun _ _ => false

/-- Thirty seconds. -/
def acctDedupWindow : Time := 30000000

def netExec : Store netSig NetEnv Network := fun e c s =>
  match c with
  | .stmt op => if e.fails op then (.error .unavailable, s) else op.run e.now e.order.1 s
  | .trySet key =>
    let (taken, acctDedup) := s.acctDedup.TrySet e.now key () acctDedupWindow
    (taken, { s with acctDedup := acctDedup })
  | .guardCheck username => (e.lockedOut username, s)
  | .verifierCheck username password passwordHash => (e.verified username password passwordHash, s)
  | .compareHashAndPassword passwordHash password => (e.bcrypt passwordHash password, s)

abbrev NetProg := Prog netSig

def sql (op : NetOp) : NetProg (Except NetErr op.Result) := Prog.perform (S := netSig) (.stmt op)

@[simp] theorem sql_bind {α : Type} (op : NetOp) (f : Except NetErr op.Result → NetProg α) :
    (sql op >>= f) = Prog.call (S := netSig) (.stmt op) f := rfl

end IspBss.Radius
