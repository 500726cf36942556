import IspBss.Lib.Program
import IspBss.Db.Store

/-! The calls a service makes: one per store method, and the clock.

    Every store call is one transaction. The environment of a step says what the clock reads and
    which store calls fail in it; a call that fails reports an error and leaves the database as it
    was, as a lost connection before the commit does. -/

namespace IspBss

open Lib Prog BillingStore APIStore RevenueStore

/-- The methods of the stores, with their arguments. -/
inductive Op where
  | getSubscriberBalance (id : ℤ)
  | getTransactionByToken (token : String)
  | recordRecharge (p : RechargePosting)
  | getSubscriberDunningState (id : ℤ)
  | listDunningCandidates
  | setSubscriberDunningState (id : ℤ) (state : DunningState) (status : SubStatus)
  | listRenewalCandidates
  | setPlanExpiry (id : ℤ) (expiry : Time)
  | activateSubscriber (id : ℤ) (expiry : Time)
  | getInvoiceInputs (id : ℤ)
  | createInvoice (inv : Invoice)
  | getActiveGstRate
  | getPlanRenewalInfo (id : ℤ)
  | portalSetPlanExpiry (id : ℤ) (expiry : Time)
  | getSubscriberFranchiseID (id : ℤ)
  | getFranchiseByID (id : ℤ)
  | storeLCOCommission (e : LCOCommissionEntry)
  | createSubscriber (r : SubscriberRow)
  | getSubscriberByID (id : ℤ)
  | updateSubscriber (id : ℤ) (planID : Option ℤ) (status : Option String) (planExpiry : Option Time)
  | getPlanChangeInfo (id newPlanID : ℤ)
  | setSubscriberPlan (id newPlanID : ℤ) (newExpiry : Time)
  | terminateSubscriber (id : ℤ)
  | enqueue (t : Task)
  deriving DecidableEq

/-- What a method returns when it succeeds. -/
def Op.Result : Op → Type
  | getSubscriberBalance _ => Decimal
  | getTransactionByToken _ => Option Transaction
  | recordRecharge _ => Transaction
  | getSubscriberDunningState _ => DunningState × Time
  | listDunningCandidates => List DunningCandidate
  | setSubscriberDunningState _ _ _ => Unit
  | listRenewalCandidates => List RenewalCandidate
  | setPlanExpiry _ _ => Unit
  | activateSubscriber _ _ => Unit
  | getInvoiceInputs _ => String × ℤ
  | createInvoice _ => ℤ
  | getActiveGstRate => GstRate
  | getPlanRenewalInfo _ => ℤ × Option Time
  | portalSetPlanExpiry _ _ => Unit
  | getSubscriberFranchiseID _ => Option ℤ
  | getFranchiseByID _ => Franchise
  | storeLCOCommission _ => Unit
  | createSubscriber _ => ℤ × Subscriber
  | getSubscriberByID _ => Option Subscriber
  | updateSubscriber _ _ _ _ => Option Subscriber
  | getPlanChangeInfo _ _ => Option PlanChangeInfo
  | setSubscriberPlan _ _ _ => Option Subscriber
  | terminateSubscriber _ => Option Subscriber
  | enqueue _ => Unit

/-- The transaction a method runs when the database clock reads `now`. -/
def Op.tx (now : Time) : (op : Op) → DBTx op.Result
  | getSubscriberBalance id => GetSubscriberBalance id
  | getTransactionByToken token => GetTransactionByToken token
  | recordRecharge p => RecordRecharge p
  | getSubscriberDunningState id => GetSubscriberDunningState now id
  | listDunningCandidates => ListDunningCandidates now
  | setSubscriberDunningState id state status =>
    SetSubscriberDunningState id state status
  | listRenewalCandidates => ListRenewalCandidates now
  | setPlanExpiry id expiry => SetPlanExpiry id expiry
  | activateSubscriber id expiry => ActivateSubscriber id expiry
  | getInvoiceInputs id => GetInvoiceInputs id
  | createInvoice inv => CreateInvoice inv
  | getActiveGstRate => GetActiveGstRate now
  | getPlanRenewalInfo id => PortalStore.GetPlanRenewalInfo id
  | portalSetPlanExpiry id expiry => PortalStore.SetPlanExpiry id expiry
  | getSubscriberFranchiseID id => GetSubscriberFranchiseID id
  | getFranchiseByID id => GetFranchiseByID id
  | storeLCOCommission e => CalculateAndStoreLCOCommission e
  | createSubscriber r => CreateSubscriber r
  | getSubscriberByID id => GetSubscriberByID id
  | updateSubscriber id planID status planExpiry =>
    UpdateSubscriber id planID status planExpiry
  | getPlanChangeInfo id newPlanID => GetPlanChangeInfo id newPlanID
  | setSubscriberPlan id newPlanID newExpiry => SetSubscriberPlan id newPlanID newExpiry
  | terminateSubscriber id => TerminateSubscriber id
  | enqueue t => Jobqueue.EnqueueContext t

/-- A call: read the clock, or run a store method. -/
inductive Call where
  | timeNow
  | db (op : Op)
  deriving DecidableEq

@[reducible] def Call.Resp : Call → Type
  | timeNow => Time
  | db op => Except StoreErr op.Result

/-- The signature of the services' programs. -/
@[reducible] def sig : Sig := ⟨Call, Call.Resp⟩

/-- What a step is taken in: the clock, and the store methods that fail. -/
structure Env where
  now : Time
  fails : Op → Bool

/-- Everything works, at this time. -/
def Env.at (now : Time) : Env := ⟨now, fun _ => false⟩

/-- How the database answers. -/
def exec : Store sig Env DB := fun e c s =>
  match c with
  | .timeNow => (e.now, s)
  | .db op => if e.fails op then (.error .unavailable, s) else (op.tx e.now).commit s

/-- Whether a call succeeded. -/
def succeeded : (c : Call) → c.Resp → Bool
  | .timeNow, _ => true
  | .db _, r => Except.isOk r

/-- The program of one service call. -/
abbrev Service := Prog sig

/-- The watch of threads of which nothing needs to be remembered. -/
def noWatch : Watch sig Unit := fun _ _ _ => ()

/-- Run a store method. -/
def db (op : Op) : Service (Except StoreErr op.Result) := perform (S := sig) (.db op)

/-- Read the clock. -/
def timeNow : Service Time := perform (S := sig) .timeNow

section
variable {α β σ ω : Type}

@[simp] theorem db_bind (op : Op) (f : Except StoreErr op.Result → Service β) :
    (db op >>= f) = call (S := sig) (.db op) f := rfl

@[simp] theorem timeNow_bind (f : Time → Service β) : (timeNow >>= f) = call (S := sig) .timeNow f := rfl

@[simp] theorem run_db (M : Store sig Env σ) (e : Env) (op : Op)
    (k : Except StoreErr op.Result → Service α) (s : σ) :
    run M e (call (S := sig) (.db op) k) s = run M e (k (M e (.db op) s).1) (M e (.db op) s).2 := rfl

variable {m : Watch sig ω} {A : ω → (c : Call) → c.Resp → Prop} {P : ω → Call → Prop}
  {Q : ω → α → Prop} {w : ω}

@[simp] theorem obeys_db {op : Op} {k : Except StoreErr op.Result → Service α} :
    Obeys (S := sig) m A P Q (call (S := sig) (.db op) k) w ↔ P w (.db op) ∧
      ∀ r : Except StoreErr op.Result, A w (.db op) r →
        Obeys (S := sig) m A P Q (k r) (m w (.db op) r) := Iff.rfl

@[simp] theorem obeys_timeNow {k : Time → Service α} :
    Obeys (S := sig) m A P Q (call (S := sig) .timeNow k) w ↔ P w .timeNow ∧
      ∀ t : Time, A w .timeNow t → Obeys (S := sig) m A P Q (k t) (m w .timeNow t) := Iff.rfl

end

end IspBss
