/-
# Event notifications

`NotificationsService.notifyEvent`: which of the two channels an event goes to,
who receives the mail, and how the outcomes of the channels combine into the
outcome of the call.  Whether the Telegram API and the mail server accept a
message is an input.  The texts of the messages are left out.
-/
import NoderaxApi.Common

namespace NotificationsService

/-! ## Rows -/

/-- `EventSeverity`. -/
inductive EventSeverity
  | info
  | warning
  | critical
  deriving DecidableEq, Repr

/-- The columns of `EventEntity` that decide about notifications. -/
structure EventEntity where
  id : Uuid
  workspaceId : Uuid
  nodeId : Option Uuid
  type : String
  severity : EventSeverity
  deriving DecidableEq, Repr

/-- The notification columns of a workspace. -/
structure WorkspaceEntity where
  id : Uuid
  automationEmailEnabled : Bool := false
  automationTelegramEnabled : Bool := false
  automationTelegramBotToken : Option String := none
  automationTelegramChatId : Option String := none
  automationEmailLevels : List EventSeverity := [.critical]
  automationTelegramLevels : List EventSeverity := [.critical]
  deriving DecidableEq, Repr

/-- The notification columns of a node. -/
structure NodeNotifications where
  id : Uuid
  notificationEmailEnabled : Bool := true
  notificationEmailLevels : List EventSeverity
  notificationTelegramEnabled : Bool := true
  notificationTelegramLevels : List EventSeverity
  deriving DecidableEq, Repr

/-- The columns of a user that decide who receives mail. -/
structure Recipient where
  id : Uuid
  email : String
  isPlatformAdmin : Bool
  isActive : Bool
  criticalEventEmailsEnabled : Bool
  deriving DecidableEq, Repr

/-- `WorkspaceMembershipRole`. -/
inductive WorkspaceMembershipRole
  | owner
  | admin
  | member
  | viewer
  deriving DecidableEq, Repr

/-- A row of `workspace_memberships`. -/
structure WorkspaceMembershipEntity where
  workspaceId : Uuid
  userId : Uuid
  role : WorkspaceMembershipRole
  deriving DecidableEq, Repr

/-- The tables `notifyEvent` reads. -/
structure NotificationTables where
  workspaces : List WorkspaceEntity
  nodes : List NodeNotifications
  users : List Recipient
  memberships : List WorkspaceMembershipEntity

/-! ## The channels of an event -/

/-- `Boolean(text)` of a nullable column. -/
def isTruthy : Option String → Bool
  | none => false
  | some s => s ≠ ""

/-- `nodeEmailEnabled` and `nodeTelegramEnabled`: an event of no node, or of a node
that is gone, is not restricted. -/
def nodeAllows (enabled : NodeNotifications → Bool)
    (levels : NodeNotifications → List EventSeverity)
    (node : Option NodeNotifications) (severity : EventSeverity) : Bool :=
  match node with
  | none => true
  | some node => enabled node && decide (severity ∈ levels node)

/-- The workspace of an event. -/
def workspaceOf (db : NotificationTables) (event : EventEntity) : Option WorkspaceEntity :=
  db.workspaces.find? fun workspace => workspace.id = event.workspaceId

/-- The node of an event, if it has one. -/
def nodeOf (db : NotificationTables) (event : EventEntity) : Option NodeNotifications :=
  match event.nodeId with
  | none => none
  | some nodeId => db.nodes.find? fun node => node.id = nodeId

/-- The condition of the Telegram branch. -/
def sendsTelegram (workspace : WorkspaceEntity) (node : Option NodeNotifications)
    (event : EventEntity) : Bool :=
  workspace.automationTelegramEnabled && isTruthy workspace.automationTelegramBotToken &&
    isTruthy workspace.automationTelegramChatId &&
    decide (event.severity ∈ workspace.automationTelegramLevels) &&
    nodeAllows (·.notificationTelegramEnabled) (·.notificationTelegramLevels) node event.severity

/-- `shouldSendEmail`. -/
def shouldSendEmail (workspace : WorkspaceEntity) (node : Option NodeNotifications)
    (event : EventEntity) : Bool :=
  if event.nodeId.isSome then
    workspace.automationEmailEnabled && decide (event.severity ∈ workspace.automationEmailLevels) &&
      nodeAllows (·.notificationEmailEnabled) (·.notificationEmailLevels) node event.severity
  else
    decide (event.severity = .critical) || (workspace.automationEmailEnabled &&
      decide (event.severity ∈ workspace.automationEmailLevels))

/-! ## Recipients -/

section Recipients

/-! `toLowerCase` is `String.prototype.toLowerCase`. -/

variable (toLowerCase : String → String)

/-- `uniqueEmails`. -/
def uniqueEmails (users : List Recipient) : List String :=
  ((users.map fun user => toLowerCase (jsTrim user.email)).filter (· ≠ "")).eraseDups

/-- `findWorkspaceAdmins`: the active owners and admins, all of them or those who
want mail about critical events. -/
def findWorkspaceAdmins (db : NotificationTables) (workspaceId : Uuid) (preferenceOnly : Bool) :
    List Recipient :=
  let userIds := (db.memberships.filter fun m =>
    decide (m.workspaceId = workspaceId) &&
      decide (m.role = .owner ∨ m.role = .admin)).map (·.userId)
  db.users.filter fun user => decide (user.id ∈ userIds) && user.isActive &&
    (!preferenceOnly || user.criticalEventEmailsEnabled)

/-- `uniqueRecipientsList`. -/
def recipientEmails (db : NotificationTables) (workspace : WorkspaceEntity) (event : EventEntity) :
    List String :=
  let platformAdmins := db.users.filter fun user =>
    user.isPlatformAdmin && user.isActive && user.criticalEventEmailsEnabled
  let critical :=
    if event.severity = .critical then
      uniqueEmails toLowerCase (platformAdmins ++ findWorkspaceAdmins db event.workspaceId true)
    else []
  let admins :=
    if workspace.automationEmailEnabled then
      uniqueEmails toLowerCase (findWorkspaceAdmins db event.workspaceId false)
    else []
  (critical ++ admins).eraseDups

/-! ## The call -/

/-- A message that a channel accepted. -/
inductive Delivery
  | telegram (chatId : Option String)
  | email (recipients : List String)
  deriving DecidableEq, Repr

/-- Is it the Telegram message? -/
def Delivery.isTelegram : Delivery → Bool
  | .telegram _ => true
  | .email _ => false

/-- What one channel did: nothing, a delivery, or an error. -/
abbrev ChannelOutcome := Option (Except String Delivery)

/-- The Telegram branch. -/
def telegramOutcome (db : NotificationTables) (workspace : WorkspaceEntity) (event : EventEntity)
    (sent : Except String Unit) : ChannelOutcome :=
  if sendsTelegram workspace (nodeOf db event) event then
    some (sent.map fun _ => .telegram workspace.automationTelegramChatId)
  else none

/-- The mail branch; without recipients nothing is sent and nothing fails. -/
def emailOutcome (db : NotificationTables) (workspace : WorkspaceEntity) (event : EventEntity)
    (sent : Except String Unit) : ChannelOutcome :=
  if shouldSendEmail workspace (nodeOf db event) event then
    match recipientEmails toLowerCase db workspace event with
    | [] => none
    | recipients => some (sent.map fun _ => .email recipients)
  else none

/-- The deliveries among the outcomes (`successfulDeliveries`). -/
def deliveriesOf (outcomes : List ChannelOutcome) : List Delivery :=
  outcomes.filterMap fun outcome => outcome.bind Except.toOption

/-- The messages of the errors among the outcomes. -/
def errorsOf (outcomes : List ChannelOutcome) : List String :=
  outcomes.filterMap fun outcome =>
    match outcome with
    | some (.error message) => some message
    | _ => none

@[simp] theorem deliveriesOf_cons_none (outcomes : List ChannelOutcome) :
    deliveriesOf (none :: outcomes) = deliveriesOf outcomes := rfl

@[simp] theorem deliveriesOf_cons_error (message : String) (outcomes : List ChannelOutcome) :
    deliveriesOf (some (.error message) :: outcomes) = deliveriesOf outcomes := rfl

@[simp] theorem deliveriesOf_cons_ok (d : Delivery) (outcomes : List ChannelOutcome) :
    deliveriesOf (some (.ok d) :: outcomes) = d :: deliveriesOf outcomes := rfl

@[simp] theorem deliveriesOf_nil : deliveriesOf [] = [] := rfl

@[simp] theorem errorsOf_cons_none (outcomes : List ChannelOutcome) :
    errorsOf (none :: outcomes) = errorsOf outcomes := rfl

@[simp] theorem errorsOf_cons_error (message : String) (outcomes : List ChannelOutcome) :
    errorsOf (some (.error message) :: outcomes) = message :: errorsOf outcomes := rfl

@[simp] theorem errorsOf_cons_ok (d : Delivery) (outcomes : List ChannelOutcome) :
    errorsOf (some (.ok d) :: outcomes) = errorsOf outcomes := rfl

@[simp] theorem errorsOf_nil : errorsOf [] = [] := rfl

/-- `notifyEvent` with `propagateErrors`: what was delivered, and how the call
ended.  An error is propagated only if no channel succeeded. -/
def notifyEvent (db : NotificationTables) (event : EventEntity)
    (telegram mail : Except String Unit) : List Delivery × Except String Unit :=
  match workspaceOf db event with
  | none => ([], .ok ())
  | some workspace =>
      let outcomes := [telegramOutcome db workspace event telegram,
        emailOutcome toLowerCase db workspace event mail]
      if errorsOf outcomes ≠ [] ∧ deliveriesOf outcomes = [] then
        ([], .error ("Event notification delivery failed for event " ++ event.id ++ ": " ++
          " | ".intercalate (errorsOf outcomes)))
      else (deliveriesOf outcomes, .ok ())

/-! ## What a call delivers -/

/-- The event goes to Telegram. -/
def ToTelegram (db : NotificationTables) (event : EventEntity) : Prop :=
  ∃ workspace ∈ workspaceOf db event, sendsTelegram workspace (nodeOf db event) event = true

/-- The event goes to somebody by mail. -/
def ToEmail (db : NotificationTables) (event : EventEntity) : Prop :=
  ∃ workspace ∈ workspaceOf db event, shouldSendEmail workspace (nodeOf db event) event = true ∧
    recipientEmails toLowerCase db workspace event ≠ []

/-- The send threw. -/
def Fails (sent : Except String Unit) : Prop := ∃ message, sent = .error message

/-- The event has a channel, and every channel it has fails. -/
def AllChannelsFail (db : NotificationTables) (event : EventEntity)
    (telegram mail : Except String Unit) : Prop :=
  (ToTelegram db event ∨ ToEmail toLowerCase db event) ∧ (ToTelegram db event → Fails telegram) ∧
    (ToEmail toLowerCase db event → Fails mail)

theorem telegramOutcome_cases (db : NotificationTables) (workspace : WorkspaceEntity)
    (event : EventEntity) (sent : Except String Unit) :
    (sendsTelegram workspace (nodeOf db event) event = false ∧
      telegramOutcome db workspace event sent = none) ∨
    (sendsTelegram workspace (nodeOf db event) event = true ∧
      ((∃ m, sent = .error m ∧ telegramOutcome db workspace event sent = some (.error m)) ∨
        (sent = .ok () ∧ telegramOutcome db workspace event sent
          = some (.ok (.telegram workspace.automationTelegramChatId))))) := by
  unfold telegramOutcome
  cases hsends : sendsTelegram workspace (nodeOf db event) event with
  | false => exact Or.inl ⟨rfl, rfl⟩
  | true =>
      refine Or.inr ⟨rfl, ?_⟩
      cases sent with
      | error m => exact Or.inl ⟨m, rfl, rfl⟩
      | ok u => exact Or.inr ⟨rfl, rfl⟩

theorem emailOutcome_cases (db : NotificationTables) (workspace : WorkspaceEntity)
    (event : EventEntity) (sent : Except String Unit) :
    (¬(shouldSendEmail workspace (nodeOf db event) event = true ∧
        recipientEmails toLowerCase db workspace event ≠ []) ∧
      emailOutcome toLowerCase db workspace event sent = none) ∨
    ((shouldSendEmail workspace (nodeOf db event) event = true ∧
        recipientEmails toLowerCase db workspace event ≠ []) ∧
      ((∃ m, sent = .error m ∧ emailOutcome toLowerCase db workspace event sent = some (.error m)) ∨
        (sent = .ok () ∧ emailOutcome toLowerCase db workspace event sent
          = some (.ok (.email (recipientEmails toLowerCase db workspace event)))))) := by
  unfold emailOutcome
  cases hsends : shouldSendEmail workspace (nodeOf db event) event with
  | false => exact Or.inl ⟨fun hboth => Bool.noConfusion hboth.1, rfl⟩
  | true =>
      cases hto : recipientEmails toLowerCase db workspace event with
      | nil => exact Or.inl ⟨fun hboth => hboth.2 rfl, rfl⟩
      | cons recipient rest =>
          refine Or.inr ⟨⟨rfl, List.cons_ne_nil _ _⟩, ?_⟩
          cases sent with
          | error m => exact Or.inl ⟨m, rfl, rfl⟩
          | ok u => exact Or.inr ⟨rfl, rfl⟩

/-- **What one call does.**  It throws, and then delivered nothing, exactly if the
event has a channel and all its channels fail; each channel delivers at most one
message. -/
theorem notifyEvent_spec (db : NotificationTables) (event : EventEntity)
    (telegram mail : Except String Unit) :
    ((∃ message, (notifyEvent toLowerCase db event telegram mail).2 = .error message) ↔
        AllChannelsFail toLowerCase db event telegram mail) ∧
      (AllChannelsFail toLowerCase db event telegram mail →
        (notifyEvent toLowerCase db event telegram mail).1 = []) ∧
      (notifyEvent toLowerCase db event telegram mail).1.countP Delivery.isTelegram ≤ 1 ∧
      (notifyEvent toLowerCase db event telegram mail).1.countP (fun d => !d.isTelegram) ≤ 1 := by
  cases hworkspace : workspaceOf db event with
  | none =>
      simp [notifyEvent, AllChannelsFail, ToTelegram, ToEmail, hworkspace]
  | some workspace =>
      have htelegram : ToTelegram db event ↔
          sendsTelegram workspace (nodeOf db event) event = true := by
        simp [ToTelegram, hworkspace]
      have hemail : ToEmail toLowerCase db event ↔
          (shouldSendEmail workspace (nodeOf db event) event = true ∧
            recipientEmails toLowerCase db workspace event ≠ []) := by
        simp [ToEmail, hworkspace]
      simp only [AllChannelsFail, htelegram, hemail, notifyEvent, hworkspace]
      -- nothing, an error or a delivery on either channel
      rcases telegramOutcome_cases db workspace event telegram with
        ⟨ht, hout⟩ | ⟨ht, ⟨m, rfl, hout⟩ | ⟨rfl, hout⟩⟩
      · rcases emailOutcome_cases toLowerCase db workspace event mail with
          ⟨he, hout'⟩ | ⟨he, ⟨m', rfl, hout'⟩ | ⟨rfl, hout'⟩⟩ <;>
        simp [hout, hout', ht, he, Fails, Delivery.isTelegram]
      · rcases emailOutcome_cases toLowerCase db workspace event mail with
          ⟨he, hout'⟩ | ⟨he, ⟨m', rfl, hout'⟩ | ⟨rfl, hout'⟩⟩ <;>
        simp [hout, hout', ht, he, Fails, Delivery.isTelegram]
      · rcases emailOutcome_cases toLowerCase db workspace event mail with
          ⟨he, hout'⟩ | ⟨he, ⟨m', rfl, hout'⟩ | ⟨rfl, hout'⟩⟩ <;>
        simp [hout, hout', ht, he, Fails, List.countP_cons, Delivery.isTelegram]

end Recipients

end NotificationsService
