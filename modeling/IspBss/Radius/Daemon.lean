import IspBss.Api.Lifecycle
import IspBss.Radius.Network

/-! `radius.RadiusDaemon`: Access-Requests and Accounting-Requests.

    Authentication decides who a session is from the user name and the password together;
    accounting sees the user name alone and decides again.

        Access-Request      ─▶ MAB (MAC for a name, empty or same password) ─▶ AuthorizeMAC
                            └▶ PAP ─▶ GetSubscriberByUsername, status, password
        Accounting-Request  ─▶ dedup ─▶ voucher metering (MAC for a name) ─▶ RecordGrantUsage
                                     └▶ Start / Interim-Update / Stop ─▶ one session row

    An accounting request is acknowledged whatever becomes of it; what did become of it is the label it
    is counted under. -/

namespace IspBss.Radius

open Lib

/-! ### The daemon and what it receives -/

/-- `nas.Device`. -/
structure NasDevice where
  id : ℤ
  ip : String
  allowMAB : Bool
  deriving DecidableEq

/-- `nas.Resolver`. -/
structure Resolver where
  byIP : Rows String NasDevice

/-- An address that is not registered is a device without an id and without MAB. -/
def Resolver.Resolve (r : Resolver) (ip : String) : NasDevice :=
  (r.byIP.lookup ip).getD ⟨0, ip, false⟩

/-- Which of its optional parts a daemon has been given. -/
structure Daemon where
  nasResolver : Option Resolver
  mabDB : Bool
  grantUsageDB : Bool
  acctDB : Bool

structure AccessRequest where
  userName : String
  userPassword : String
  eapMessage : List UInt8
  remoteAddr : String
  deriving DecidableEq

/-- `rfc2866.AcctStatusType`. -/
inductive AcctStatusType where
  | start | interimUpdate | stop | accountingOn | accountingOff | other (n : UInt32)
  deriving DecidableEq

/-- The attributes of an Accounting-Request that are read, and where it came from. -/
structure AcctRequest where
  statusType : AcctStatusType
  sessionID : String
  userName : String
  nasIPAddress : Option String
  framedIPAddress : Option String
  delegatedIPv6Prefix : Option String
  framedIPv6Prefix : Option String
  inputOctets : UInt32
  outputOctets : UInt32
  inputGigawords : UInt32
  outputGigawords : UInt32
  terminateCause : String
  remoteAddr : String
  deriving DecidableEq

/-! ### Authentication -/

/-- The answer to an Access-Request. An EAP conversation is handled elsewhere. -/
inductive AuthReply where
  | accept (sub : Subscriber)
  | reject
  | eap
  deriving DecidableEq

/-- A name that is a MAC, with no password or the same MAC for one. -/
def looksLikeMAB (username password : String) : Bool :=
  match NormaliseMAC username with
  | none => false
  | some mac => password = "" ∨ NormaliseMAC password = some mac

/-- One of the checks of a credential. -/
def ask (c : NetCall) : NetProg (netSig.Resp c) := Prog.perform (S := netSig) c

namespace Daemon

/-- The id of the NAS a packet came from; 0 without a resolver. -/
def nasID (d : Daemon) (remoteAddr : String) : ℤ :=
  match d.nasResolver with
  | none => 0
  | some r => (r.Resolve remoteAddr).id

/-- MAC Auth Bypass; none if the request is not one. -/
def handleMAB (d : Daemon) (r : AccessRequest) : NetProg (Option AuthReply) :=
  if looksLikeMAB r.userName r.userPassword = false then return none
  else if d.mabDB = false then return none
  else
    match d.nasResolver with
    | none => return some .reject
    | some resolver =>
      let device := resolver.Resolve r.remoteAddr
      if device.allowMAB = false then return some .reject
      else do
        match ← sql (.authorizeMAC ((NormaliseMAC r.userName).getD "") device.id) with
        | .error _ => return some .reject
        | .ok none => return some .reject
        | .ok (some sub) =>
          return some (if AuthorisesService sub.status then .accept sub else .reject)

/-- Name and password, compared with the stored hash. -/
def handlePAP (r : AccessRequest) : NetProg AuthReply := do
  let blocked ← ask (.guardCheck r.userName)
  if blocked then return .reject
  else
    match ← sql (.getSubscriberByUsername r.userName) with
    | .error _ => return .reject
    | .ok none => return .reject
    | .ok (some sub) =>
      if AuthorisesService sub.status = false then return .reject
      else do
        let authenticated ← ask (.verifierCheck r.userName r.userPassword sub.passwordHash)
        if authenticated then return .accept sub
        else do
          let matches' ← ask (.compareHashAndPassword sub.passwordHash r.userPassword)
          return if matches' then .accept sub else .reject

/-- EAP first, then MAB, then PAP. -/
def handleAuth (d : Daemon) (r : AccessRequest) : NetProg AuthReply :=
  if r.eapMessage ≠ [] then return .eap
  else do
    match ← d.handleMAB r with
    | some reply => return reply
    | none => handlePAP r

end Daemon

/-! ### The attributes of an accounting record -/

/-- Gigawords and octets as one signed 64-bit counter. -/
def counter (gigawords octets : UInt32) : ℤ :=
  (gigawords.toBitVec.zeroExtend 64 <<< 32 ||| octets.toBitVec.zeroExtend 64).toInt

/-- The label a status type is counted under. -/
def acctStatusLabel : AcctStatusType → String
  | .start => "start"
  | .interimUpdate => "interim"
  | .stop => "stop"
  | .accountingOn => "on"
  | .accountingOff => "off"
  | .other _ => "other"

namespace AcctRequest

variable (r : AcctRequest)

/-- Input and output octets. -/
def acctOctets : ℤ × ℤ :=
  (counter r.inputGigawords r.inputOctets, counter r.outputGigawords r.outputOctets)

/-- The NAS as the device calls itself, or else the source of the packet. -/
def accountingNASIP : String := r.nasIPAddress.getD r.remoteAddr

def framedIP : String := r.framedIPAddress.getD ""

/-- The delegated prefix is preferred. -/
def ipv6Prefix : String :=
  (r.delegatedIPv6Prefix.or r.framedIPv6Prefix).getD ""

/-- What identifies a retransmit: session, record type and counters. -/
def dedupKey : String :=
  "acct_dedup:" ++ r.sessionID ++ ":" ++ acctStatusLabel r.statusType ++ ":" ++ r.acctOctets.1.repr ++
    ":" ++ r.acctOctets.2.repr

/-- Both directions together, as a signed 64-bit sum. -/
def totalOctets : ℤ := (r.acctOctets.1 + r.acctOctets.2).bmod (2 ^ 64)

end AcctRequest

/-! ### Accounting -/

/-- What became of an accounting record. -/
inductive AcctOutcome where
  | acknowledged | noSessionID | duplicate | noStore | ignored
  | meteredVoucher | unmatched | error | unresolvedSubscriber | persisted
  deriving DecidableEq

namespace Daemon

/-- Meter the record against the live grants of the MAC. -/
def recordUsage (r : AcctRequest) (mac : String) : NetProg AcctOutcome := do
  match ← sql (.recordGrantUsage mac r.sessionID r.accountingNASIP r.totalOctets) with
  | .error _ => return .error
  | .ok false => return .unmatched
  | .ok true => return .meteredVoucher

/-- Meter the record if it is a voucher's; none if it is not. -/
def meterVoucherSession (d : Daemon) (r : AcctRequest) : NetProg (Option AcctOutcome) :=
  if d.grantUsageDB = false then return none
  else
    match NormaliseMAC r.userName with
    | none => return none
    | some mac =>
      if d.mabDB then do
        match ← sql (.authorizeMAC mac (d.nasID r.remoteAddr)) with
        -- not known to be a voucher's: the record goes on as a subscriber's
        | .error _ => return none
        | .ok (some sub) => if sub.id ≠ 0 then return none else return some (← recordUsage r mac)
        | .ok none => return some (← recordUsage r mac)
      else do return some (← recordUsage r mac)

/-- A failed lookup finds nobody. -/
def subscriberByName (username : String) : NetProg (Option Subscriber) := do
  match ← sql (.getSubscriberByUsername username) with
  | .error _ => return none
  | .ok sub => return sub

/-- The subscriber a record belongs to. -/
def resolveAccountingSubscriber (d : Daemon) (r : AcctRequest) : NetProg (Option Subscriber) :=
  if r.userName = "" then return none
  else
    match NormaliseMAC r.userName with
    | none => subscriberByName r.userName
    | some mac =>
      if d.mabDB then do
        match ← sql (.authorizeMAC mac (d.nasID r.remoteAddr)) with
        | .error _ => return none
        | .ok none => return none
        | .ok (some sub) => return if sub.id = 0 then none else some sub
      else subscriberByName r.userName

def acctStart (d : Daemon) (r : AcctRequest) : NetProg AcctOutcome := do
  match ← d.resolveAccountingSubscriber r with
  | none => return .unresolvedSubscriber
  | some sub =>
    match ← sql (.startSession sub.id r.sessionID r.accountingNASIP r.framedIP r.ipv6Prefix) with
    | .error _ => return .error
    | .ok () => return .persisted

/-- How a statement that may match no open session ends. -/
def rowOutcome : Except NetErr Bool → AcctOutcome
  | .error _ => .error
  | .ok false => .unmatched
  | .ok true => .persisted

def acctUpdate (r : AcctRequest) : NetProg AcctOutcome := do
  let updated ← sql (.updateSessionOctets r.sessionID r.acctOctets.1 r.acctOctets.2)
  return rowOutcome updated

def acctStop (r : AcctRequest) : NetProg AcctOutcome := do
  let stopped ← sql (.stopSession r.sessionID r.acctOctets.1 r.acctOctets.2 r.terminateCause)
  return rowOutcome stopped

/-- A record that is neither a duplicate nor a voucher's. -/
def acctRecord (d : Daemon) (r : AcctRequest) : NetProg AcctOutcome :=
  match r.statusType with
  | .start => d.acctStart r
  | .interimUpdate => acctUpdate r
  | .stop => acctStop r
  | _ => return .ignored

/-- Persist one Accounting-Request. -/
def handleAccounting (d : Daemon) (r : AcctRequest) : NetProg AcctOutcome :=
  if r.statusType = .accountingOn ∨ r.statusType = .accountingOff then return .acknowledged
  else if r.sessionID = "" then return .noSessionID
  else do
    -- the key is taken here, before it is known whether the record can be stored
    let isNew ← ask (.trySet r.dedupKey)
    if isNew = false then return .duplicate
    else if d.acctDB = false then return .noStore
    else do
      match ← d.meterVoucherSession r with
      | some outcome => return outcome
      | none => d.acctRecord r

/-- Handle the requests one after the other, each at its moment. -/
def serve (d : Daemon) (s : Network) (traffic : List (NetEnv × AcctRequest)) : Network :=
  traffic.foldl (fun s x => (Prog.run netExec x.1 (d.handleAccounting x.2) s).2) s

end Daemon

end IspBss.Radius
