import IspBss.Db.Store
import IspBss.Lib.Rows
import IspBss.Lib.Runs

/-! Leads, and their conversion into subscribers.

    `ConvertLead` is one transaction of two writes. Any number of them are under way at once, each in a session of its
    own; a schedule says which session goes on next.

        begun ── INSERT subscribers ──▶ inserted ── UPDATE leads … WHERE status <> 'converted', COMMIT ──▶ committed
          │                                └──────── no row ─────────────────────────────────────────▶ notClaimed
          └── a constraint ──▶ failed

    What a session has inserted is not in the table until it commits, but the unique indexes know of it: an insert
    that would collide with it waits. From the claim to the commit the lead's row is locked, so both are one step. -/

namespace IspBss.Crm

open Lib

inductive LeadStatus where
  | new | contacted | qualified | converted | lost
  deriving DecidableEq, Repr

/-- The columns of a `leads` row that a conversion reads and writes. -/
structure LeadRow where
  fullName : String
  mobileNumber : String
  franchiseID : Option ℤ
  status : LeadStatus
  convertedSubscriberID : Option ℤ
  deriving DecidableEq

/-- `chk_lead_converted_has_subscriber`. -/
def LeadRow.ConvertedHasSubscriber (r : LeadRow) : Prop :=
  (r.status = .converted ∧ r.convertedSubscriberID.isSome = true) ∨
    (r.status ≠ .converted ∧ r.convertedSubscriberID = none)

/-- `chk_leads_mobile_e164`: `^\+[1-9][0-9]{7,14}$`. -/
def isLeadMobile (s : String) : Bool :=
  match s.toList with
  | '+' :: d :: ds =>
    d.isDigit && d != '0' && ds.all Char.isDigit && decide (7 ≤ ds.length) && decide (ds.length ≤ 14)
  | _ => false

/-- `leads`. -/
structure Lead extends LeadRow where
  mobile_e164 : isLeadMobile mobileNumber = true
  converted_has_subscriber : toLeadRow.ConvertedHasSubscriber
  deriving DecidableEq

/-- The row after its conversion. -/
def Lead.claimed (l : Lead) (subscriberID : ℤ) : Lead :=
  { l with
    status := .converted
    convertedSubscriberID := some subscriberID
    converted_has_subscriber := Or.inl ⟨rfl, rfl⟩ }

/-! ### The transactions -/

/-- One call of `CRMStore.ConvertLead`. -/
structure ConvertCall where
  leadID : ℤ
  sub : SubscriberRow
  deriving DecidableEq

inductive Phase where
  | begun
  | inserted (id : ℤ) (row : Subscriber)
  | committed (id : ℤ)
  | notClaimed
  | failed (e : StoreErr)
  deriving DecidableEq

/-- The transaction is over. -/
def Phase.Ended : Phase → Prop
  | .begun | .inserted _ _ => False
  | .committed _ | .notClaimed | .failed _ => True

/-- A row that is inserted and not committed. -/
def Phase.staged : Phase → Option (ℤ × Subscriber)
  | .inserted id row => some (id, row)
  | _ => none

structure Office where
  db : DB
  leads : Rows ℤ Lead
  session : ℕ → Phase

namespace Office

/-- Before any of the calls. -/
def start (db : DB) (leads : Rows ℤ Lead) : Office := ⟨db, leads, fun _ => .begun⟩

/-- What the first `n` sessions have inserted and not committed. -/
def staged (n : ℕ) (s : Office) : List (ℤ × Subscriber) := (List.range n).filterMap fun i => (s.session i).staged

/-- The table as its indexes and its sequence see it. -/
def indexed (n : ℕ) (s : Office) : DB :=
  { s.db with subscribers := (s.staged n).foldl (fun t x => t.insert x.1 x.2) s.db.subscribers }

def setSession (s : Office) (i : ℕ) (p : Phase) : Office := { s with session := Function.update s.session i p }

end Office

/-- The row that the INSERT writes; the status, the NULL expiry and the other literals are its own. -/
def insertedRow (sub : SubscriberRow) : SubscriberRow :=
  { sub with status := .active, dunningState := .active, walletBalance := 0, planExpiry := none }

/-- Another session has inserted the same username or CAF number. -/
def Waits (n : ℕ) (s : Office) (sub : SubscriberRow) : Prop :=
  ∃ x ∈ s.staged n, x.2.cafNumber = sub.cafNumber ∨ x.2.username = sub.username
  deriving Decidable

/-- Session `i` goes on with its call. -/
def CRMStore.ConvertLead (calls : List ConvertCall) (s : Office) (i : ℕ) : Office :=
  match calls[i]? with
  | none => s
  | some call =>
    match s.session i with
    | .begun =>
      if Waits calls.length s call.sub then s
      else
        match APIStore.CreateSubscriber (insertedRow call.sub) (s.indexed calls.length) with
        | .error e => s.setSession i (.failed e)
        | .ok ((id, row), _) => s.setSession i (.inserted id row)
    | .inserted id row =>
      match s.leads.lookup call.leadID with
      | none => s.setSession i .notClaimed
      | some l =>
        if l.status = .converted then s.setSession i .notClaimed
        else
          { db := { s.db with subscribers := s.db.subscribers.insert id row }
            leads := s.leads.insert call.leadID (l.claimed id)
            session := Function.update s.session i (.committed id) }
    | .committed _ | .notClaimed | .failed _ => s

end IspBss.Crm
