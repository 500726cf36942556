import IspBss.Api.Lifecycle
import IspBss.Lib.Compose

/-! Commands to the NAS that holds a subscriber's session.

    A change that a session must notice before it ends on its own queues a task for the RADIUS daemon:

        changeSubscriberPlan ─▶ CoA     the session takes on the rate of the new plan
        termination          ─▶ PoD     the session ends

    Whether there is a session is read from `live_sessions`, a cache beside the database: a row that
    has not been touched for `SessionTTL` counts as none. What fails on the way is logged and nothing
    more. -/

namespace IspBss

open Lib

/-! ### The live sessions -/

/-- `live_sessions`, by subscriber: the columns these handlers read. -/
structure LiveSession where
  sessionID : String
  nasIP : String
  updatedAt : Time
  deriving DecidableEq

/-- Thirty minutes. -/
def SessionTTL : Time := 1800000000

/-- The live session of a subscriber, if it has one that is not stale. -/
def SessionStore.get (subscriberID : ℤ) (now : Time) (live : Table LiveSession) : Option LiveSession :=
  (live.lookup subscriberID).filter fun sess => now - SessionTTL < sess.updatedAt

inductive LiveCall where
  | getActiveSession (subscriberID : ℤ)
  deriving DecidableEq

@[reducible] def liveSig : Sig := ⟨LiveCall, fun _ => Except StoreErr (Option LiveSession)⟩

/-- What a step of the staff API is taken in. -/
structure ApiEnv where
  db : Env
  liveFails : Bool

def liveExec : Store liveSig ApiEnv (Table LiveSession)
  | e, .getActiveSession id, live =>
    (if e.liveFails then .error .unavailable else .ok (SessionStore.get id e.db.now live), live)

/-- The calls of the database and those of the cache. -/
@[reducible] def apiSig : Sig := sig.sum liveSig

def apiExec : Store apiSig ApiEnv (DB × Table LiveSession) := Store.beside (fun e => exec e.db) liveExec

abbrev ApiService := Prog apiSig

def GetActiveSession (subscriberID : ℤ) : ApiService (Except StoreErr (Option LiveSession)) :=
  Prog.perform (S := apiSig) (.inr (.getActiveSession subscriberID))

/-! ### The commands -/

namespace Handler

/-- A task for the RADIUS daemon. -/
def netCommand (payload : TaskPayload) : Task where
  taskID := none
  queue := "network_commands"
  payload := payload
  maxRetry := 5
  retention := day

variable (subscriberID : ℤ)

/-- Queue a command if the subscriber is online. -/
def enqueueIfSessionActive (payload : LiveSession → TaskPayload) :
    ApiService Unit := do
  match ← GetActiveSession subscriberID with
  | .ok (some sess) => ((db (.enqueue (netCommand (payload sess)))).void).left
  | _ => return ()

def enqueueCoAIfSessionActive : ApiService Unit :=
  enqueueIfSessionActive subscriberID fun sess => .coa subscriberID sess.nasIP

def enqueuePoDIfSessionActive : ApiService Unit :=
  enqueueIfSessionActive subscriberID fun _ => .pod subscriberID "" ""

/-! ### Who sends them -/

/-- A change and, once it is made, the command that tells the session. -/
def followedBy {ε α : Type} (change : Service (Except ε α)) (command : ApiService Unit) :
    ApiService (Except ε α) := do
  match ← change.left with
  | .error e => return .error e
  | .ok a => do
    command
    return .ok a

/-- `changeSubscriberPlan`, with the CoA push at its end. -/
def changePlanOnline (id newPlanID : ℤ) : ApiService (Except PlanChangeErr Subscriber) :=
  followedBy (changeSubscriberPlan id newPlanID) (enqueueCoAIfSessionActive id)

/-- The approved termination of `performGatedAction`, with the disconnect at its end. -/
def terminateOnline (id : ℤ) : ApiService (Except String Unit) :=
  followedBy (performTermination id) (enqueuePoDIfSessionActive id)

end Handler

end IspBss
