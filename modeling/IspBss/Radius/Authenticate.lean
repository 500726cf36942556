import IspBss.Cache.Subscriber
import IspBss.Localcache.Counter
import IspBss.Radius.Accept
import IspBss.Radius.Eap

/-! `handleAuth`, step by step.

    An Access-Request is handled by one worker, among others. What it shares with them is the daemon's
    memory and the database; each access to either is one call.

        EAP   no State ─▶ lockout ─▶ new session, challenge                           Access-Challenge
              State    ─▶ load ─▶ stage ─▶ response: subscriber, verify, save         Access-Challenge
                                       └─▶ acknowledged: delete, subscriber, reset    Access-Accept
        MAB   AuthorizeMAC, status                                                    Access-Accept
        PAP   lockout ─▶ subscriber, status, verifier or bcrypt ─▶ reset              Access-Accept

    A session is an object that the store hands out by reference: what one worker assigns, all others
    that have loaded it see at once, before it is saved. Every call is answered with the time as well,
    which the programs do not look at. -/

namespace IspBss.Radius

open Lib Localcache Cache

/-! ### What comes in and what goes out -/

structure AuthRequest extends AccessRequest where
  state : String
  deriving DecidableEq

inductive AuthCode where
  | accept | reject | challenge
  deriving DecidableEq

structure AuthResponse where
  code : AuthCode
  eapMessage : Option (List UInt8)
  state : Option String
  attrs : List Nas.Attr
  messageAuthenticator : Bool
  deriving DecidableEq

/-! ### Shared state -/

inductive EAPStage where
  | identityRequested | challengeIssued | awaitingSuccessAck
  deriving DecidableEq

/-- The memory of one conversation. -/
structure EAPSession where
  stage : EAPStage
  username : String
  authenticatorChallenge : Challenge
  peerChallenge : List UInt8
  ntResponse : List UInt8
  mschapv2ID : UInt8
  eapIdentifier : UInt8
  authenticatorResponse : String
  deriving DecidableEq

/-- The assignments that are made to a session after it has been created. -/
inductive SessionField where
  | stage (v : EAPStage)
  | peerChallenge (v : List UInt8)
  | ntResponse (v : List UInt8)
  | mschapv2ID (v : UInt8)
  | eapIdentifier (v : UInt8)
  | authenticatorResponse (v : String)
  deriving DecidableEq

def EAPSession.assign (s : EAPSession) : SessionField → EAPSession
  | .stage v => { s with stage := v }
  | .peerChallenge v => { s with peerChallenge := v }
  | .ntResponse v => { s with ntResponse := v }
  | .mschapv2ID v => { s with mschapv2ID := v }
  | .eapIdentifier v => { s with eapIdentifier := v }
  | .authenticatorResponse v => { s with authenticatorResponse := v }

/-- A row of `radius_verifier_cache`. -/
structure PersistedVerifier where
  username : String
  verifier : List UInt8
  expiresAt : Time
  deriving DecidableEq

inductive Metric where
  | authAccept
  | authReject
  | authOutcome (nas result : String)
  deriving DecidableEq

/-- `radius_auth_accept_total`, `radius_auth_reject_total` and `radius_auth_outcome_total`. -/
structure Metrics where
  authAccept : ℕ
  authReject : ℕ
  authOutcome : Rows (String × String) ℕ

def Metrics.inc (m : Metrics) : Metric → Metrics
  | .authAccept => { m with authAccept := m.authAccept + 1 }
  | .authReject => { m with authReject := m.authReject + 1 }
  | .authOutcome nas result =>
    let n := (m.authOutcome.lookup (nas, result)).getD 0
    { m with authOutcome := m.authOutcome.insert (nas, result) (n + 1) }

/-- The database, the memory of the daemon, and what it has sent. -/
structure AuthState where
  directory : Directory
  persisted : Rows ℤ PersistedVerifier
  subscribers : SubscriberStore
  guard : Localcache.Counter
  verifiers : Store (List UInt8)
  sessions : List EAPSession
  eap : Store ℕ
  metrics : Metrics
  sent : List (AuthRequest × AuthResponse)

/-- A daemon that has just been started. -/
def AuthState.start (directory : Directory) (persisted : Rows ℤ PersistedVerifier) : AuthState :=
  ⟨directory, persisted, .empty, .empty, .empty, [], .empty, ⟨0, 0, ∅⟩, []⟩

/-! ### The calls -/

def BruteForceKey (username : String) : String := "bf_attempts:" ++ username
def verifierKey (username : String) : String := "radius_verifier:" ++ username
def eapSessionKey (state : String) : String := "radius_eap:" ++ state

def MaxFailedAttempts : ℕ := 10

/-- Fifteen minutes. -/
def LockoutDuration : Time := 900000000

/-- Five minutes. -/
def verifierCacheTTL : Time := 300000000

/-- One minute. -/
def eapSessionTTL : Time := 60000000

inductive VerifierErr where
  | unavailable | foreignKey | uniqueViolation | check
  deriving DecidableEq

/-- The accesses to what is shared. With an answer goes whom it concerns: the name that was looked up and
    the record that was found. That is not part of the packet. -/
inductive AuthCall where
  | timeNow
  | guardGet (username : String)
  | guardIncr (username : String)
  | guardExpire (username : String)
  | guardReset (username : String)
  | cacheGet (username : String)
  | cacheResult (cache : SubscriberCache) (username : String) (sub : Option Subscriber)
  | dbSubscriber (username : String)
  | authorizeMAC (mac : String) (nasID : ℤ)
  | verifierGet (username : String)
  | verifierSet (username : String) (mac : List UInt8) (ttl : Time)
  | verifierDelete (username : String)
  | persistSave (subscriberID : ℤ) (username : String) (mac : List UInt8) (expiresAt : Time)
  | persistDelete (username : String)
  | loadActive
  | reapExpired
  | compareHashAndPassword (hash password : String)
  | verifyMSCHAPv2 (ntHash : List UInt8) (challenge : Challenge) (peerChallenge ntResponse : List UInt8)
      (username : String)
  | newChallenge
  | newState
  | newSession (sess : EAPSession)
  | loadSession (state : String)
  | saveSession (state : String) (ref : ℕ)
  | deleteSession (state : String)
  | readSession (ref : ℕ)
  | assign (ref : ℕ) (field : SessionField)
  | write (r : AuthRequest) (resp : AuthResponse) (who : Option (String × Subscriber))
  | inc (metric : Metric)
  | setDirectory (directory : Directory)
  | sweep
  | restart

/-- What a call is answered with. -/
@[reducible] def AuthCall.Answer : AuthCall → Type
  | timeNow => Time
  | guardGet _ => Option ℕ
  | cacheGet _ => Option CacheEntry
  | dbSubscriber _ => Except NetErr (Option Subscriber)
  | authorizeMAC _ _ => Except NetErr (Option Subscriber)
  | verifierGet _ => Option (List UInt8)
  | persistSave _ _ _ _ => Except VerifierErr Unit
  | persistDelete _ => Except VerifierErr Unit
  | loadActive => Except VerifierErr (List PersistedVerifier)
  | reapExpired => Except VerifierErr Unit
  | compareHashAndPassword _ _ => Bool
  | verifyMSCHAPv2 _ _ _ _ _ => Except MschapErr String
  | newChallenge => Option Challenge
  | newState => Option String
  | newSession _ => ℕ
  | loadSession _ => Option ℕ
  | readSession _ => Option EAPSession
  | _ => Unit

@[reducible] def authSig : Sig := ⟨AuthCall, fun c => c.Answer × Time⟩

/-- What a step is taken in: the time, whether a statement fails, and what chance gives. -/
structure AuthEnv where
  now : Time
  fails : Bool
  challenge : Option Challenge
  stateBytes : Option Challenge

/-- `VerifierCacheStore.Save`. -/
def VerifierCacheStore.Save (subscriberID : ℤ) (row : PersistedVerifier) (s : AuthState) :
    Except VerifierErr Unit × Rows ℤ PersistedVerifier :=
  if subscriberID ∉ s.directory.subscribers then (.error .foreignKey, s.persisted)
  else if row.verifier.length ≠ 32 then (.error .check, s.persisted)
  else if ∃ x ∈ s.persisted.entries, x.1 ≠ subscriberID ∧ x.2.username = row.username then
    (.error .uniqueViolation, s.persisted)
  else (.ok (), s.persisted.insert subscriberID row)

/-- `VerifierCacheStore.LoadActive`. -/
def VerifierCacheStore.LoadActive (now : Time) (s : AuthState) : List PersistedVerifier :=
  (((s.persisted.entries.map Sigma.snd).filter fun v => now < v.expiresAt).mergeSort
    fun a b => b.expiresAt ≤ a.expiresAt).take 100000

namespace AuthCall

/-- How a call is answered. -/
def run (K : Crypto) (e : AuthEnv) : (c : AuthCall) → AuthState → c.Answer × AuthState
  | timeNow, s => (e.now, s)
  | guardGet u, s => (s.guard.Get e.now (BruteForceKey u), s)
  | guardIncr u, s => ((), { s with guard := s.guard.Incr e.now (BruteForceKey u) })
  | guardExpire u, s => ((), { s with guard := s.guard.Expire e.now (BruteForceKey u) LockoutDuration })
  | guardReset u, s => ((), { s with guard := s.guard.Reset (BruteForceKey u) })
  | cacheGet u, s => (s.subscribers.Get e.now (SubscriberCacheKey u), s)
  | cacheResult c u sub, s =>
    ((), { s with subscribers := c.cacheResult e.now (SubscriberCacheKey u) sub u s.subscribers })
  | dbSubscriber u, s =>
    (if e.fails then .error .unavailable else .ok (s.directory.GetSubscriberByUsername u), s)
  | authorizeMAC mac nasID, s =>
    (if e.fails then .error .unavailable else .ok (s.directory.AuthorizeMAC mac nasID e.now), s)
  | verifierGet u, s => (s.verifiers.Get e.now (verifierKey u), s)
  | verifierSet u mac ttl, s => ((), { s with verifiers := s.verifiers.Set e.now (verifierKey u) mac ttl })
  | verifierDelete u, s => ((), { s with verifiers := s.verifiers.Delete (verifierKey u) })
  | persistSave id u mac expiresAt, s =>
    let saved :=
      if e.fails then (.error .unavailable, s.persisted)
      else VerifierCacheStore.Save id ⟨u, mac, expiresAt⟩ s
    (saved.1, { s with persisted := saved.2 })
  | persistDelete u, s =>
    (if e.fails then .error .unavailable else .ok (),
      { s with persisted :=
          if e.fails then s.persisted else s.persisted.delete fun _ v => v.username = u })
  | loadActive, s =>
    (if e.fails then .error .unavailable else .ok (VerifierCacheStore.LoadActive e.now s), s)
  | reapExpired, s =>
    (if e.fails then .error .unavailable else .ok (),
      { s with persisted :=
          if e.fails then s.persisted else s.persisted.delete fun _ v => v.expiresAt ≤ e.now })
  | compareHashAndPassword hash password, s => (K.compareHashAndPassword hash password, s)
  | verifyMSCHAPv2 h c pc nr u, s => (VerifyMSCHAPv2 K h c.1 pc nr u, s)
  | newChallenge, s => (e.challenge, s)
  | newState, s => (e.stateBytes.map fun b => hexEncode b.1, s)
  | newSession sess, s => (s.sessions.length, { s with sessions := s.sessions ++ [sess] })
  | loadSession state, s => (s.eap.Get e.now (eapSessionKey state), s)
  | saveSession state ref, s =>
    ((), { s with eap := s.eap.Set e.now (eapSessionKey state) ref eapSessionTTL })
  | deleteSession state, s => ((), { s with eap := s.eap.Delete (eapSessionKey state) })
  | readSession ref, s => (s.sessions[ref]?, s)
  | assign ref f, s => ((), { s with sessions := s.sessions.modify ref fun x => x.assign f })
  | write r resp _, s => ((), { s with sent := s.sent ++ [(r, resp)] })
  | inc m, s => ((), { s with metrics := s.metrics.inc m })
  -- the rows of a subscriber that is gone go with it
  | setDirectory d, s =>
    ((), { s with directory := d, persisted := s.persisted.delete fun id _ => id ∉ d.subscribers })
  | sweep, s =>
    ((), { s with subscribers := s.subscribers.sweep e.now, guard := s.guard.sweep e.now,
                  verifiers := s.verifiers.sweep e.now, eap := s.eap.sweep e.now })
  | restart, s =>
    ((), { s with subscribers := .empty, guard := .empty, verifiers := .empty, eap := .empty })

/-- The call waits for rows of the database. -/
def readsDB : AuthCall → Bool
  | dbSubscriber _ => true
  | authorizeMAC _ _ => true
  | _ => false

end AuthCall

/-- The store, and the time. -/
def authExec (K : Crypto) : Store authSig AuthEnv AuthState := fun e c s =>
  (((c.run K e s).1, e.now), (c.run K e s).2)

abbrev AuthProg := Prog authSig

/-- A call; the time of the answer is not looked at. -/
def AuthCall.ask (c : AuthCall) : AuthProg c.Answer :=
  Prog.call (S := authSig) c fun r => Prog.ret r.1

/-! ### The daemon -/

/-- What a daemon has been set up with. Its database is the table itself, or a cache in front of it. -/
structure AuthDaemon where
  nasResolver : Option Nas.Resolver
  mabDB : Bool
  eapSessions : Bool
  cache : Option SubscriberCache
  verifierCache : Bool
  verifierSecret : List UInt8
  persist : Bool

namespace AuthDaemon

/-! ### Counting -/

variable (d : AuthDaemon) (r : AuthRequest)

/-- The NAS an outcome is counted for; all that are not known share one label. -/
def nasLabel : String :=
  match d.nasResolver with
  | none => "unregistered"
  | some resolver =>
    if (resolver.Resolve r.remoteAddr).ip = "" then "unregistered"
    else (resolver.Resolve r.remoteAddr).ip

def authAccepted : AuthProg Unit := do
  (AuthCall.inc .authAccept).ask
  (AuthCall.inc (.authOutcome (d.nasLabel r) "accept")).ask

def authRejected : AuthProg Unit := do
  (AuthCall.inc .authReject).ask
  (AuthCall.inc (.authOutcome (d.nasLabel r) "reject")).ask

/-! ### The lockout -/

/-- Whether the name is locked out, and whether there are failures to clear. -/
def Check (username : String) : AuthProg (Bool × Bool) := do
  match ← (AuthCall.guardGet username).ask with
  | none => return (false, false)
  | some count => return (decide (MaxFailedAttempts ≤ count), true)

def recordAuthFailure (username : String) : AuthProg Unit := do
  (AuthCall.guardIncr username).ask
  (AuthCall.guardExpire username).ask

/-! ### The subscriber -/

/-- `d.db.GetSubscriberByUsername`: the cache first, if there is one. -/
def GetSubscriberByUsername (d : AuthDaemon) (username : String) :
    AuthProg (Except NetErr (Option Subscriber)) :=
  match d.cache with
  | none => (AuthCall.dbSubscriber username).ask
  | some cache => do
    match ← (AuthCall.cacheGet username).ask with
    | some entry => return .ok entry.subscriber
    | none =>
      match ← (AuthCall.dbSubscriber username).ask with
      | .error err => return .error err
      | .ok sub => do
        (AuthCall.cacheResult cache username sub).ask
        return .ok sub

/-! ### EAP -/

/-- `radius.NewBytes`: an attribute has room for 253 octets. -/
def newBytes (value : List UInt8) : Option (List UInt8) :=
  if value.length ≤ 253 then some value else none

def eapServerName : String := "isp-bss-oss"

variable (d : AuthDaemon) (r : AuthRequest)

/-- An Access-Reject with EAP-Failure. -/
def writeEAPReject (eapID : UInt8) : AuthProg Unit := do
  let failure := (EAPPacket.mk EAPCodeFailure eapID 0 []).Encode
  (AuthCall.write r ⟨.reject, newBytes failure, none, [], true⟩ none).ask
  d.authRejected r

/-- An Access-Challenge with an EAP request, and the State that the next packet brings back. -/
def writeEAPChallenge (state : String) (pkt : EAPPacket) :
    AuthProg Unit :=
  match newBytes pkt.Encode, newBytes (Nas.octets state) with
  | some message, some _ =>
    (AuthCall.write r ⟨.challenge, some message, some state, [], true⟩ none).ask
  | _, _ => d.writeEAPReject r pkt.identifier

/-- The conversation is over, and refused. -/
def eapFail (eapID : UInt8) (state : String) : AuthProg Unit := do
  if state ≠ "" then (AuthCall.deleteSession state).ask
  d.writeEAPReject r eapID

/-- The identity of an opening packet: the one in the EAP message, or else the User-Name. -/
def eapIdentity (r : AuthRequest) (pkt : EAPPacket) : String :=
  StripDomain (if pkt.typ = EAPTypeIdentity ∧ pkt.data ≠ [] then goString pkt.data else r.userName)

/-- The request that a challenge is sent in. -/
def challengeRequest (pkt : EAPPacket) (challenge : Challenge) (identifier : UInt8) : EAPPacket :=
  ⟨EAPCodeRequest, identifier, EAPTypeMSCHAPv2,
    (MSCHAPv2Challenge.mk pkt.identifier challenge eapServerName).Encode⟩

/-- The opening packet is answered with a challenge. -/
def eapStart (d : AuthDaemon) (r : AuthRequest) (pkt : EAPPacket) : AuthProg Unit :=
  let username := eapIdentity r pkt
  if username = "" then d.writeEAPReject r pkt.identifier
  else do
    let (blocked, _) ← Check username
    if blocked then do
      d.writeEAPReject r pkt.identifier
      d.authRejected r
    else
      match ← AuthCall.newChallenge.ask with
      | none => d.writeEAPReject r pkt.identifier
      | some challenge =>
        match ← AuthCall.newState.ask with
        | none => d.writeEAPReject r pkt.identifier
        | some state => do
          let ref ← (AuthCall.newSession
            ⟨.challengeIssued, username, challenge, [], [], 0, pkt.identifier + 1, ""⟩).ask
          (AuthCall.saveSession state ref).ask
          let sess ← (AuthCall.readSession ref).ask
          d.writeEAPChallenge r state
            (challengeRequest pkt challenge ((sess.map EAPSession.eapIdentifier).getD 0))

/-- The request that a verified response is answered with. -/
def successRequest (resp : MSCHAPv2Response) (authenticatorResponse : String) (identifier : UInt8) :
    EAPPacket :=
  ⟨EAPCodeRequest, identifier, EAPTypeMSCHAPv2,
    EncodeMSCHAPv2Success resp.mschapv2ID authenticatorResponse⟩

variable (d : AuthDaemon) (r : AuthRequest)

/-- The response has been verified: the session moves on, field by field, and is saved. -/
def eapVerified (pkt : EAPPacket) (ref : ℕ) (resp : MSCHAPv2Response)
    (authenticatorResponse : String) : AuthProg Unit := do
  (AuthCall.assign ref (.stage .awaitingSuccessAck)).ask
  (AuthCall.assign ref (.peerChallenge resp.peerChallenge)).ask
  (AuthCall.assign ref (.ntResponse resp.ntResponse)).ask
  (AuthCall.assign ref (.mschapv2ID resp.mschapv2ID)).ask
  (AuthCall.assign ref (.eapIdentifier (pkt.identifier + 1))).ask
  (AuthCall.assign ref (.authenticatorResponse authenticatorResponse)).ask
  (AuthCall.saveSession r.state ref).ask
  let sess ← (AuthCall.readSession ref).ask
  d.writeEAPChallenge r r.state
    (successRequest resp authenticatorResponse ((sess.map EAPSession.eapIdentifier).getD 0))

/-- The peer's response is checked against the challenge and the enrolled hash. -/
def eapVerifyResponse (pkt : EAPPacket) (ref : ℕ) (sess : EAPSession) :
    AuthProg Unit :=
  match ParseMSCHAPv2Response pkt.data with
  | .error _ => d.eapFail r pkt.identifier r.state
  | .ok resp => do
    match ← d.GetSubscriberByUsername sess.username with
    | .error _ => do
      recordAuthFailure sess.username
      d.eapFail r pkt.identifier r.state
    | .ok none => do
      recordAuthFailure sess.username
      d.eapFail r pkt.identifier r.state
    | .ok (some sub) =>
      if AuthorisesService sub.status = false then d.eapFail r pkt.identifier r.state
      else do
        match ← (AuthCall.verifyMSCHAPv2 (sub.ntHash.getD []) sess.authenticatorChallenge
            resp.peerChallenge resp.ntResponse sess.username).ask with
        | .error .noNTHash => d.eapFail r pkt.identifier r.state
        | .error _ => do
          recordAuthFailure sess.username
          d.eapFail r pkt.identifier r.state
        | .ok authenticatorResponse => d.eapVerified r pkt ref resp authenticatorResponse

/-- The accept that ends a conversation. -/
def eapAccept (sub : Subscriber) (identifier : UInt8) : AuthResponse :=
  ⟨.accept, some (EAPPacket.mk EAPCodeSuccess identifier 0 []).Encode, none,
    acceptAttrs d.nasResolver r.remoteAddr sub.planID (eapRateLimit sub), true⟩

/-- The peer has acknowledged the Success. What the packet says is not looked at. -/
def eapFinish (ref : ℕ) (sess : EAPSession) : AuthProg Unit := do
  (AuthCall.deleteSession r.state).ask
  match ← d.GetSubscriberByUsername sess.username with
  | .ok (some sub) => do
    (AuthCall.guardReset sess.username).ask
    let sess' ← (AuthCall.readSession ref).ask
    (AuthCall.write r (d.eapAccept r sub ((sess'.map EAPSession.eapIdentifier).getD 0))
      (some (sess.username, sub))).ask
    d.authAccepted r
  | _ => do
    let sess' ← (AuthCall.readSession ref).ask
    d.writeEAPReject r ((sess'.map EAPSession.eapIdentifier).getD 0)

/-- A packet of a conversation that is under way; the stage decides. -/
def eapContinue (pkt : EAPPacket) : AuthProg Unit := do
  match ← (AuthCall.loadSession r.state).ask with
  | none => d.writeEAPReject r pkt.identifier
  | some ref =>
    match ← (AuthCall.readSession ref).ask with
    -- a reference that was handed out is never dangling
    | none => d.writeEAPReject r pkt.identifier
    | some sess =>
      match sess.stage with
      | .challengeIssued => d.eapVerifyResponse r pkt ref sess
      | .awaitingSuccessAck => d.eapFinish r ref sess
      | .identityRequested => d.eapFail r pkt.identifier r.state

/-- An Access-Request with an EAP message. -/
def handleEAP : AuthProg Unit :=
  if d.eapSessions = false then d.writeEAPReject r 0
  else
    match ParseEAP r.eapMessage with
    | .error _ => d.writeEAPReject r 0
    | .ok pkt => if r.state = "" then d.eapStart r pkt else d.eapContinue r pkt

/-! ### MAB and PAP -/

/-- An answer without EAP, and its count. -/
def reject : AuthProg Unit := do
  (AuthCall.write r ⟨.reject, none, none, [], false⟩ none).ask
  d.authRejected r

/-- The accept of MAB and PAP. -/
def accept (now : Time) (sub : Subscriber) : AuthResponse :=
  ⟨.accept, none, none, applyRateLimit d.nasResolver now sub r.remoteAddr, false⟩

/-- Whether MAB takes a request without EAP. -/
def isMAB : Bool := looksLikeMAB r.userName r.userPassword ∧ d.mabDB

/-- MAC Auth Bypass. The accept is counted before it is sent. -/
def handleMAB : AuthProg Unit :=
  match d.nasResolver with
  | none => d.reject r
  | some resolver =>
    let device := resolver.Resolve r.remoteAddr
    if device.allowMAB = false then d.reject r
    else do
      let mac := (NormaliseMAC r.userName).getD ""
      match ← (AuthCall.authorizeMAC mac device.id).ask with
      | .error _ => d.reject r
      | .ok none => d.reject r
      | .ok (some sub) =>
        if AuthorisesService sub.status = false then d.reject r
        else do
          let now ← AuthCall.timeNow.ask
          d.authAccepted r
          (AuthCall.write r (d.accept r now sub) (some (mac, sub))).ask

/-- What is digested of a password and a hash, each behind its length. -/
def lengthPrefixed (s : String) : List UInt8 :=
  ((List.range 8).reverse.map fun i => UInt8.ofNat ((Nas.octets s).length / 256 ^ i)) ++ Nas.octets s

variable (K : Crypto) (d : AuthDaemon)

/-- The keyed digest that stands for a password that was checked against a hash. -/
def verifier (password passwordHash : String) : List UInt8 :=
  K.hmac d.verifierSecret (lengthPrefixed password ++ lengthPrefixed passwordHash)

/-- `VerifierCache.Check`. -/
def verifierCheck (username password passwordHash : String) :
    AuthProg Bool :=
  if d.verifierCache = false then return false
  else do
    match ← (AuthCall.verifierGet username).ask with
    | none => return false
    | some cachedMAC => return decide (d.verifier K password passwordHash = cachedMAC)

/-- `VerifierCache.Store`: in memory, and in the database if that is set up. -/
def verifierStore (subscriberID : ℤ)
    (username password passwordHash : String) : AuthProg Unit :=
  if d.verifierCache = false then return ()
  else do
    let mac := d.verifier K password passwordHash
    let now ← AuthCall.timeNow.ask
    (AuthCall.verifierSet username mac verifierCacheTTL).ask
    if d.persist then do
      let _ ← (AuthCall.persistSave subscriberID username mac (now + verifierCacheTTL)).ask
      return ()
    else return ()

/-- `VerifierCache.Warm`: what is stored is put back into memory, for as long as it has left. -/
def Warm (d : AuthDaemon) : AuthProg (Except VerifierErr ℕ) :=
  if d.verifierCache = false ∨ d.persist = false then return .ok 0
  else do
    match ← AuthCall.loadActive.ask with
    | .error err => return .error err
    | .ok rows => do
      let now ← AuthCall.timeNow.ask
      let live := rows.filter fun row => 0 < row.expiresAt - now
      Prog.each (fun row =>
        (AuthCall.verifierSet row.username row.verifier (row.expiresAt - now)).ask) live
      return .ok live.length

/-- `VerifierCache.Invalidate`. -/
def Invalidate (d : AuthDaemon) (username : String) : AuthProg (Except VerifierErr Unit) :=
  if d.verifierCache = false then return .ok ()
  else do
    (AuthCall.verifierDelete username).ask
    if d.persist then (AuthCall.persistDelete username).ask else return .ok ()

/-- The credential is good: the failures are cleared and the accept is sent. -/
def papAccept (d : AuthDaemon) (r : AuthRequest) (sub : Subscriber) (hasFailures : Bool) :
    AuthProg Unit := do
  if hasFailures then (AuthCall.guardReset r.userName).ask
  let now ← AuthCall.timeNow.ask
  (AuthCall.write r (d.accept r now sub) (some (r.userName, sub))).ask
  d.authAccepted r

variable (K : Crypto) (d : AuthDaemon) (r : AuthRequest)

/-- The password of a subscriber who may be served. -/
def papVerify (sub : Subscriber) (hasFailures : Bool) :
    AuthProg Unit := do
  let authenticated ← d.verifierCheck K r.userName r.userPassword sub.passwordHash
  if authenticated then d.papAccept r sub hasFailures
  else do
    let same ← (AuthCall.compareHashAndPassword sub.passwordHash r.userPassword).ask
    if same then do
      d.verifierStore K sub.id r.userName r.userPassword sub.passwordHash
      d.papAccept r sub hasFailures
    else do
      recordAuthFailure r.userName
      d.reject r

/-- Name and password. -/
def handlePAP : AuthProg Unit := do
  let (blocked, hasFailures) ← Check r.userName
  if blocked then d.reject r
  else
    match ← d.GetSubscriberByUsername r.userName with
    | .error _ => do
      recordAuthFailure r.userName
      d.reject r
    | .ok none => do
      recordAuthFailure r.userName
      d.reject r
    | .ok (some sub) =>
      if AuthorisesService sub.status = false then d.reject r
      else d.papVerify K r sub hasFailures

/-- EAP first, then MAB, then PAP. -/
def handleAuth : AuthProg Unit :=
  if r.eapMessage ≠ [] then d.handleEAP r
  else if d.isMAB r then d.handleMAB r
  else d.handlePAP K r

end AuthDaemon

end IspBss.Radius
