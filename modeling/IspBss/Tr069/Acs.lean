import IspBss.Lib.Runs
import IspBss.Localcache.Ttlmap

/-! The TR-069 server: sessions that a device opens, and the queue of RPCs that they drain.

        POST Inform          ─▶ InformResponse, a cookie          a session, nothing outstanding
        POST (empty)         ─▶ the next RPC, or 204
        POST <RPC>Response   ─▶ the next RPC, or 204              the outcome of the outstanding task

    A task is `pending` until a session of its device claims it, and `sent` from then on until an
    outcome is recorded. The session remembers the last task it was given; sessions live in memory,
    with a time to live. -/

namespace IspBss.Tr069

open Lib

/-- `cpe_tasks.rpc_type`. -/
inductive RPC where
  | setParameterValues | getParameterValues | reboot | download | factoryReset
  deriving DecidableEq, Repr

/-- `cpe_tasks.status`. -/
inductive TaskStatus where
  | pending | sent | completed | failed | expired
  deriving DecidableEq, Repr

/-- `cpe_devices.provisioning_state`. -/
inductive ProvisioningState where
  | unknown | registered | provisioned | needsReprovision | fault
  deriving DecidableEq, Repr

/-- `cpe_devices`: what the server reads and writes of them. -/
structure Device where
  serialNumber : String
  provisioningState : ProvisioningState
  lastFault : Option String
  acsDiscovered : Bool
  deriving DecidableEq

/-- A parameter map. -/
abbrev Params := List (String × String)

/-- `cpe_tasks`. -/
structure Task where
  deviceID : ℤ
  rpcType : RPC
  params : Params
  status : TaskStatus
  priority : ℤ
  createdBy : String
  faultCode : Option String
  faultString : Option String
  createdAt : Time
  sentAt : Option Time
  completedAt : Option Time
  expiresAt : Time
  deriving DecidableEq

/-- A conversation under way; the task is 0 when nothing is outstanding. -/
structure Session where
  deviceID : ℤ
  serialNumber : String
  outstandingTaskID : ℤ
  deriving DecidableEq

structure Acs where
  devices : Serial Device
  tasks : Serial Task
  sessions : Localcache.Store Session

/-- Nothing queued, and nobody in a session. -/
def Acs.start (devices : Serial Device) : Acs := ⟨devices, .empty, .empty⟩

/-! ### Messages -/

structure Inform where
  serialNumber : String
  events : List String
  deriving DecidableEq

def Inform.HasEvent (i : Inform) (code : String) : Prop := code ∈ i.events
  deriving Decidable

def eventBootstrap : String := "0 BOOTSTRAP"

def eventBoot : String := "1 BOOT"

/-- A SOAP fault, with the CWMP fault in its detail. -/
structure SOAPFault where
  faultCode : String
  faultString : String
  detailCode : String
  detailString : String
  deriving DecidableEq

/-- What an envelope carries: an Inform, response elements, a fault. -/
structure Body where
  inform : Option Inform
  responses : List RPC
  transferComplete : Bool
  fault : Option SOAPFault
  deriving DecidableEq

/-- The response element of the RPC is there. -/
def Body.Answers (b : Body) (rpc : RPC) : Prop := rpc ∈ b.responses
  deriving Decidable

/-- A request. The body is what `ParseEnvelope` makes of it: nothing for an empty one, an error if
    it is malformed or cannot be read. Without a cookie the text is empty. -/
structure Request where
  isPost : Bool
  body : Except String (Option Body)
  cookie : String

inductive Reply where
  | methodNotAllowed
  | badRequest
  | internalError
  | informResponse (sessionID : String)
  | rpc (taskID : ℤ)
  | empty
  deriving DecidableEq

/-! ### The store -/

inductive StoreCall where
  | upsertDeviceFromInform
  | getProvisioningPlan
  | enqueueTask
  | claimNextTask
  | completeTask (id : ℤ)
  | setProvisioningState
  deriving DecidableEq

inductive AcsErr where
  | unavailable
  | notFound
  | noSerialNumber
  | foreignKey (column : String)
  | tooLong (column : String)
  deriving DecidableEq

/-- What a request is handled in: the clock, the store calls that fail, the plan that the templates
    give for the device, the random session id if there is one, and which of several equal tasks
    comes first. -/
structure AcsEnv where
  now : Time
  fails : StoreCall → Bool
  plan : Params
  sessionID : Option String
  tie : ℕ

/-- Seven days. -/
def taskLifetime : Time := 7 * day

namespace TR069Store

/-- The device by its serial number, with its state after the contact; one that is not known is
    added. The row that is offered takes an id from the sequence either way. -/
def UpsertDeviceFromInform (env : AcsEnv) (i : Inform) (s : Acs) :
    Except AcsErr (ℤ × Device) × Acs :=
  if i.serialNumber = "" then (.error .noSerialNumber, s)
  else if env.fails .upsertDeviceFromInform then (.error .unavailable, s)
  else
    match s.devices.rows.entries.find? fun x => x.2.serialNumber = i.serialNumber with
    | none =>
      let device : Device := ⟨i.serialNumber, .registered, none, true⟩
      (.ok (s.devices.last + 1, device), { s with devices := s.devices.add device })
    | some ⟨id, d⟩ =>
      let device : Device :=
        { d with
          provisioningState :=
            if d.provisioningState = .unknown then .registered else d.provisioningState }
      (.ok (id, device),
        { s with devices := s.devices.skip.updateWhere (fun k _ => k = id) fun _ => device })

/-- The sequence moves on also when the row is refused. -/
def EnqueueTask (env : AcsEnv) (deviceID : ℤ) (rpcType : RPC) (params : Params) (priority : ℤ)
    (createdBy : String) (s : Acs) : Except AcsErr ℤ × Acs :=
  if env.fails .enqueueTask then (.error .unavailable, s)
  else if 100 < createdBy.length then
    (.error (.tooLong "cpe_tasks.created_by"), { s with tasks := s.tasks.skip })
  else if s.devices.lookup deviceID = none then
    (.error (.foreignKey "cpe_tasks.device_id"), { s with tasks := s.tasks.skip })
  else
    let task : Task :=
      { deviceID := deviceID, rpcType := rpcType, params := params, status := .pending,
        priority := priority, createdBy := createdBy, faultCode := none, faultString := none,
        createdAt := env.now, sentAt := none, completedAt := none, expiresAt := env.now + taskLifetime }
    (.ok (s.tasks.last + 1), { s with tasks := s.tasks.add task })

/-- Pending, of the device, and not expired. -/
def Claimable (deviceID : ℤ) (now : Time) (t : Task) : Prop :=
  t.deviceID = deviceID ∧ t.status = .pending ∧ now < t.expiresAt
  deriving Decidable

/-- `ORDER BY priority, created_at`. -/
def NotAfter (t t' : Task) : Prop :=
  t.priority < t'.priority ∨ (t.priority = t'.priority ∧ t.createdAt ≤ t'.createdAt)
  deriving Decidable

variable (env : AcsEnv) (deviceID : ℤ) (s : Acs)

/-- The task that the sub-select finds. -/
def nextTask : Option ((_ : ℤ) × Task) :=
  let rows := s.tasks.rows.entries.filter fun x => Claimable deviceID env.now x.2
  let first := rows.filter fun x => rows.all fun y => NotAfter x.2 y.2
  first[env.tie % first.length]?

def ClaimNextTask : Except AcsErr (Option (ℤ × Task)) × Acs :=
  if env.fails .claimNextTask then (.error .unavailable, s)
  else
    match nextTask env deviceID s with
    | none => (.ok none, s)
    | some ⟨id, t⟩ =>
      let t' : Task := { t with status := .sent, sentAt := some env.now }
      (.ok (some (id, t')), { s with tasks := s.tasks.updateWhere (fun k _ => k = id) fun _ => t' })

/-- The row is matched by its id alone. -/
def CompleteTask (env : AcsEnv) (id : ℤ) (status : TaskStatus) (faultCode faultString : String)
    (s : Acs) :
    Except AcsErr Unit × Acs :=
  if env.fails (.completeTask id) then (.error .unavailable, s)
  else
    match s.tasks.lookup id with
    | none => (.error .notFound, s)
    | some t =>
      if 16 < faultCode.length then (.error (.tooLong "cpe_tasks.fault_code"), s)
      else
        let t' : Task :=
          { t with
            status := status, faultCode := nullIfEmpty faultCode,
            faultString := nullIfEmpty faultString, completedAt := some env.now }
        (.ok (), { s with tasks := s.tasks.updateWhere (fun k _ => k = id) fun _ => t' })

def SetProvisioningState (env : AcsEnv) (deviceID : ℤ) (state : ProvisioningState)
    (lastFault : String) (s : Acs) :
    Acs :=
  if env.fails .setProvisioningState then s
  else
    { s with devices := s.devices.updateWhere (fun k _ => k = deviceID) fun d =>
        { d with provisioningState := state, lastFault := nullIfEmpty lastFault } }

end TR069Store

open TR069Store

/-! ### Sessions -/

/-- Ten minutes. -/
def sessionTTL : Time := 600000000

def sessionKey (id : String) : String := "tr069_session:" ++ id

def saveSession (now : Time) (id : String) (sess : Session) (s : Acs) : Acs :=
  { s with sessions := s.sessions.Set now (sessionKey id) sess sessionTTL }

def loadSession (now : Time) (cookie : String) (s : Acs) : Option Session :=
  if cookie = "" then none else s.sessions.Get now (sessionKey cookie)

def clearSession (cookie : String) (s : Acs) : Acs :=
  if cookie = "" then s else { s with sessions := s.sessions.Delete (sessionKey cookie) }

/-! ### Handling a request -/

/-- Whether the RPC of a task can be written; the reason if not. -/
def renderTask (t : Task) : Except String Unit :=
  match t.rpcType with
  | .setParameterValues =>
    if t.params = [] then .error "SetParameterValues with no parameters" else .ok ()
  | .getParameterValues =>
    if t.params = [] then .error "GetParameterValues with no parameter names" else .ok ()
  | .reboot => .ok ()
  | .factoryReset => .ok ()
  | .download =>
    if ((t.params.lookup "url").getD "") = "" then .error "download RPC has no url parameter"
    else .ok ()

/-- Best effort: what cannot be queued now is left out. -/
def queueProvisioning (env : AcsEnv) (deviceID : ℤ) (s : Acs) : Acs :=
  if env.fails .getProvisioningPlan then s
  else if env.plan = [] then s
  else (EnqueueTask env deviceID .setParameterValues env.plan 10 "acs:auto-provision" s).2

/-- The device is to be configured: it has restarted, or its state asks for it. -/
def NeedsProvisioning (i : Inform) (d : Device) : Prop :=
  i.HasEvent eventBootstrap ∨ i.HasEvent eventBoot ∨ d.provisioningState = .needsReprovision ∨
    d.provisioningState = .unknown
  deriving Decidable

def handleInform (env : AcsEnv) (i : Inform) (s : Acs) : Reply × Acs :=
  match UpsertDeviceFromInform env i s with
  | (.error _, s) => (.internalError, s)
  | (.ok (deviceID, device), s) =>
    let s := if NeedsProvisioning i device then queueProvisioning env deviceID s else s
    match env.sessionID with
    | none => (.internalError, s)
    | some id => (.informResponse id, saveSession env.now id ⟨deviceID, device.serialNumber, 0⟩ s)

/-- The code and the text of a fault; the detail is preferred. -/
def faultOf (f : SOAPFault) : String × String :=
  if f.detailCode = "" then (f.faultCode, f.faultString) else (f.detailCode, f.detailString)

/-- Whatever arrives is the outcome of the outstanding task: a failure if it is a fault, and
    otherwise a success. -/
def recordTaskOutcome (env : AcsEnv) (sess : Session) (b : Body) (s : Acs) : Acs :=
  if sess.outstandingTaskID = 0 then s
  else
    match b.fault with
    | some f =>
      let s := SetProvisioningState env sess.deviceID .fault (faultOf f).2 s
      (CompleteTask env sess.outstandingTaskID .failed (faultOf f).1 (faultOf f).2 s).2
    | none =>
      let s := (CompleteTask env sess.outstandingTaskID .completed "" "" s).2
      if b.Answers .setParameterValues
      then SetProvisioningState env sess.deviceID .provisioned "" s else s

/-- The next RPC of the queue, or the end of the session. -/
def sendNextTaskOrClose (env : AcsEnv) (cookie : String) (sess : Session) (s : Acs) : Reply × Acs :=
  match ClaimNextTask env sess.deviceID s with
  | (.error _, s) => (.empty, s)
  | (.ok none, s) => (.empty, clearSession cookie s)
  | (.ok (some (id, task)), s) =>
    let s := if cookie = "" then s
      else saveSession env.now cookie { sess with outstandingTaskID := id } s
    match renderTask task with
    | .error reason => (.empty, (CompleteTask env id .failed "9003" reason s).2)
    | .ok () => (.rpc id, s)

def ServeHTTP (env : AcsEnv) (r : Request) (s : Acs) : Reply × Acs :=
  if r.isPost = false then (.methodNotAllowed, s)
  else
    match r.body with
    | .error _ => (.badRequest, s)
    | .ok body =>
      match body.bind (·.inform) with
      | some i => handleInform env i s
      | none =>
        match loadSession env.now r.cookie s with
        | none => (.empty, s)
        | some sess =>
          let s :=
            match body with
            | some b => recordTaskOutcome env sess b s
            | none => s
          sendNextTaskOrClose env r.cookie sess s

/-! ### Runs -/

inductive AcsStep where
  | post (env : AcsEnv) (r : Request)
  | enqueue (env : AcsEnv) (deviceID : ℤ) (rpcType : RPC) (params : Params) (priority : ℤ)
    (createdBy : String)
  | sweep (now : Time)

def acsStep (s : Acs) : AcsStep → Acs
  | .post env r => (ServeHTTP env r s).2
  | .enqueue env deviceID rpcType params priority createdBy =>
    (EnqueueTask env deviceID rpcType params priority createdBy s).2
  | .sweep now => { s with sessions := s.sessions.sweep now }

end IspBss.Tr069
