import IspBss.Db.Store

/-! `notifications.Dispatcher`: one message over one channel, and one notice over several.

    What comes back from the database and from a provider is given, attempt by attempt, by `Answers`. The
    outbox keeps the rows of `notification_log` and the messages that a provider has accepted.

        Dispatch   subscriber? ──▶ channel configured? ──▶ address? ──▶ provider ──▶ log row
        Notify     Dispatch for every channel; an error only if none of them returned nil -/

namespace IspBss.Notifications

/-- The channels that `Dispatch` knows, and any other text. -/
inductive Channel where
  | whatsapp | sms | email | push
  | other (name : String)
  deriving DecidableEq

def Channel.name : Channel → String
  | whatsapp => "whatsapp"
  | sms => "sms"
  | email => "email"
  | push => "push"
  | other name => name

inductive Class where
  | marketing | transactional
  deriving DecidableEq

structure Subscriber where
  id : ℤ
  mobileNumber : String
  email : String
  dndOptOut : Bool
  deriving DecidableEq

structure NotificationTask where
  subscriberID : ℤ
  channel : Channel
  templateID : String
  triggerEvent : String
  cls : Class
  vars : List String
  toPhone : String
  subject : String
  deriving DecidableEq

/-- `notification_log`. -/
structure NotificationLog where
  subscriberID : ℤ
  channel : String
  templateID : String
  triggeredByEvent : String
  providerMessageID : String
  deliveryStatus : String
  failureReason : String
  deriving DecidableEq

/-- What is handed to a provider. -/
inductive Message where
  | template (phone templateName : String) (vars : List String)
  | sms (phone body : String)
  | email (address subject body : String)
  | push (tokens : List String) (heading body : String)
  deriving DecidableEq

structure Outbox where
  log : List NotificationLog
  accepted : List Message
  deriving DecidableEq

/-- What an attempt is told: by the database, and by the provider. An HTTP answer is a status code and, if its
    body can be decoded, the ids of the messages. -/
structure Answers where
  getSubscriber : Except String Subscriber
  createNotificationLog : Except String Unit
  httpDo : Except String (ℤ × Except String (List String))
  sendSMS : Except String Unit
  sendEmail : Except String Unit
  listPushTokens : Except String (List String)
  sendPush : Except String Unit

/-- The channels that have a client. -/
structure Dispatcher where
  whatsapp : Bool
  sms : Bool
  email : Bool
  push : Bool
  deriving DecidableEq

/-! ### The log -/

/-- A row of the log about the task. -/
def NotificationTask.logRow (t : NotificationTask) (deliveryStatus failureReason : String) :
    NotificationLog where
  subscriberID := t.subscriberID
  channel := t.channel.name
  templateID := t.templateID
  triggeredByEvent := t.triggerEvent
  providerMessageID := ""
  deliveryStatus := deliveryStatus
  failureReason := failureReason

def CreateNotificationLog (a : Answers) (row : NotificationLog) (s : Outbox) : Except String Unit × Outbox :=
  match a.createNotificationLog with
  | .error err => (.error err, s)
  | .ok () => (.ok (), { s with log := s.log ++ [row] })

variable (a : Answers) (t : NotificationTask)

/-- A subscriber whom the channel cannot reach is logged, and no error. -/
def recordUnreachable (reason : String) (s : Outbox) :
    Except String Unit × Outbox :=
  CreateNotificationLog a (t.logRow "failed" reason) s

def recordSent (s : Outbox) : Except String Unit × Outbox :=
  CreateNotificationLog a (t.logRow "sent" "") s

def Outbox.accept (s : Outbox) (m : Message) : Outbox := { s with accepted := s.accepted ++ [m] }

/-! ### The channels -/

/-- The template names that are registered with the provider. -/
def templateNames : List (String × String) :=
  [("TMPL-001", "fup_warning_80pct"), ("TMPL-002", "fup_throttled"), ("TMPL-003", "payment_reminder"),
    ("TMPL-004", "service_suspended_soft"), ("TMPL-005", "service_suspended_hard"),
    ("TMPL-006", "service_restored"), ("TMPL-007", "payment_received"), ("TMPL-008", "ticket_update")]

def TemplateNameFor (templateID : String) : String := (templateNames.lookup templateID).getD templateID

/-- `WhatsAppClient.SendTemplate`. Its log rows are written on the way; one that fails is only logged. -/
def SendTemplate (a : Answers) (t : NotificationTask) (toPhone : String) (s : Outbox) :
    Except String Unit × Outbox :=
  if APIStore.isE164 toPhone = false then
    (.error ("notifications: " ++ toPhone.quote ++ " is not a valid E.164 phone number"), s)
  else
    match a.httpDo with
    | .error err => (.error ("notifications: whatsapp send: " ++ err), s)
    | .ok (status, decoded) =>
      if 400 ≤ status then
        (.error ("notifications: whatsapp API returned HTTP " ++ status.repr),
          (CreateNotificationLog a (t.logRow "failed" "") s).2)
      else
        -- the provider has taken the message, whatever becomes of its answer
        let s := s.accept (.template toPhone (TemplateNameFor t.templateID) t.vars)
        match decoded with
        | .error err => (.error ("notifications: decode response: " ++ err), s)
        | .ok ids =>
          let row := { t.logRow "sent" "" with providerMessageID := ids.head?.getD "" }
          (.ok (), (CreateNotificationLog a row s).2)

/-- The text that a plain channel sends. -/
def firstVariable (t : NotificationTask) : String := t.vars.head?.getD t.subject

/-- A provider's answer: an error is passed on, and a message that was accepted is logged. -/
def sendPlain (a : Answers) (t : NotificationTask) (answer : Except String Unit) (m : Message) (s : Outbox) :
    Except String Unit × Outbox :=
  match answer with
  | .error err => (.error err, s)
  | .ok () => recordSent a t (s.accept m)

namespace Dispatcher

def toPhone (t : NotificationTask) (sub : Subscriber) : String :=
  if t.toPhone = "" then sub.mobileNumber else t.toPhone

variable (d : Dispatcher) (a : Answers) (t : NotificationTask)

def dispatchTo (sub : Subscriber) (s : Outbox) :
    Except String Unit × Outbox :=
  match t.channel with
  | .whatsapp =>
    if d.whatsapp = false then (.error "notifications: WhatsApp client not configured", s)
    else SendTemplate a t (toPhone t sub) s
  | .sms =>
    if d.sms = false then (.error "notifications: SMS client not configured", s)
    else sendPlain a t a.sendSMS (.sms (toPhone t sub) (firstVariable t)) s
  | .email =>
    if d.email = false then (.error "notifications: email client not configured", s)
    else if sub.email = "" then recordUnreachable a t "subscriber has no email address" s
    else sendPlain a t a.sendEmail (.email sub.email t.subject (firstVariable t)) s
  | .push =>
    if d.push = false then (.error "notifications: push client not configured", s)
    else
      match a.listPushTokens with
      | .error err =>
        (.error ("notifications: list push tokens for " ++ t.subscriberID.repr ++ ": " ++ err), s)
      | .ok [] => recordUnreachable a t "subscriber has no registered push tokens" s
      | .ok tokens => sendPlain a t a.sendPush (.push tokens t.subject (firstVariable t)) s
  | .other name => (.error ("notifications: unsupported channel " ++ name.quote), s)

def Dispatch (s : Outbox) :
    Except String Unit × Outbox :=
  match a.getSubscriber with
  | .error err => (.error ("notifications: get subscriber " ++ t.subscriberID.repr ++ ": " ++ err), s)
  | .ok sub =>
    if sub.dndOptOut = true ∧ t.cls = .marketing then
      (.ok (), (CreateNotificationLog a (t.logRow "suppressed_dnd" "") s).2)
    else d.dispatchTo a t sub s

/-! ### Several channels -/

/-- What `Notify` is called with, the channels apart. -/
structure Notice where
  subscriberID : ℤ
  templateID : String
  triggerEvent : String
  vars : List String
  deriving DecidableEq

def Notice.task (n : Notice) (ch : Channel) : NotificationTask where
  subscriberID := n.subscriberID
  channel := ch
  templateID := n.templateID
  triggerEvent := n.triggerEvent
  cls := .transactional
  vars := n.vars
  toPhone := ""
  subject := ""

/-- The loop: how many channels have returned nil, the last error, and the outbox. -/
structure Progress where
  delivered : ℕ
  lastErr : Option String
  outbox : Outbox

/-- One more channel; `x` has it with the number of its attempt. -/
def attempt (d : Dispatcher) (n : Notice) (env : ℕ → Answers) (st : Progress) (x : Channel × ℕ) : Progress :=
  match d.Dispatch (env x.2) (n.task x.1) st.outbox with
  | (.error err, s) => ⟨st.delivered, some ("notifications: " ++ x.1.name ++ ": " ++ err), s⟩
  | (.ok (), s) => ⟨st.delivered + 1, st.lastErr, s⟩

/-- The channels with the numbers of their attempts; without any it is WhatsApp. -/
def attempts (channels : List Channel) : List (Channel × ℕ) :=
  (if channels = [] then [.whatsapp] else channels).zipIdx

def Notify (d : Dispatcher) (n : Notice) (env : ℕ → Answers) (channels : List Channel) (s : Outbox) :
    Except String Unit × Outbox :=
  let st := (attempts channels).foldl (d.attempt n env) ⟨0, none, s⟩
  match st.delivered, st.lastErr with
  | 0, some err => (.error err, st.outbox)
  | _, _ => (.ok (), st.outbox)

end Dispatcher

end IspBss.Notifications
