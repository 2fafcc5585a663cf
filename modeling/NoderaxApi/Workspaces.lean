/-
# Workspaces

`createWorkspace`, `updateWorkspace`, `deleteWorkspace` and `setDefaultWorkspace` of
`workspaces.service.ts`, each as one step on the tables of workspaces and memberships.

The audit log and the schedules that follow the timezone of a workspace are left out.
-/
import NoderaxApi.KeyedTable
import NoderaxApi.Notifications
import NoderaxApi.UserAccounts

namespace WorkspacesService

open AuthService KeyedTable NotificationsService

/-! ## Rows and requests -/

/-- A row of `workspaces`. -/
structure Workspace extends WorkspaceEntity where
  name : String
  slug : String
  defaultTimezone : String := "UTC"
  createdByUserId : Option Uuid := none
  isArchived : Bool := false
  isDefault : Bool := false
  deriving DecidableEq, Repr

/-- A row of `workspace_memberships`. -/
structure WorkspaceMembership extends WorkspaceMembershipEntity where
  id : Uuid
  deriving DecidableEq, Repr

/-- The primary keys. -/
abbrev Workspace.key (row : Workspace) : Uuid := row.id

abbrev WorkspaceMembership.key (row : WorkspaceMembership) : Uuid := row.id

/-- `CreateWorkspaceDto`. -/
structure CreateWorkspaceDto where
  name : String
  slug : String
  defaultTimezone : Option String := none
  isArchived : Option Bool := none
  isDefault : Option Bool := none
  automationEmailEnabled : Option Bool := none
  automationTelegramEnabled : Option Bool := none
  automationTelegramBotToken : Option String := none
  automationTelegramChatId : Option String := none
  automationEmailLevels : Option (List EventSeverity) := none
  automationTelegramLevels : Option (List EventSeverity) := none
  deriving DecidableEq, Repr

/-- `UpdateWorkspaceDto`.  A field that is not given is `none`, and one that is given as `null`,
which the validation lets pass, is `some none`. -/
structure UpdateWorkspaceDto where
  name : Option (Option String) := none
  slug : Option (Option String) := none
  defaultTimezone : Option (Option String) := none
  isArchived : Option (Option Bool) := none
  isDefault : Option (Option Bool) := none
  automationEmailEnabled : Option (Option Bool) := none
  automationTelegramEnabled : Option (Option Bool) := none
  automationTelegramBotToken : Option (Option String) := none
  automationTelegramChatId : Option (Option String) := none
  automationEmailLevels : Option (Option (List EventSeverity)) := none
  automationTelegramLevels : Option (Option (List EventSeverity)) := none
  deriving DecidableEq, Repr

/-- The tables. -/
structure WorkspaceTables where
  workspaces : Table Workspace.key
  memberships : Table WorkspaceMembership.key

/-! ## Checks -/

/-- `assertPlatformAdmin`. -/
def assertPlatformAdmin (actor : AuthenticatedUser) : Except ThrownError Unit :=
  if actor.role = .platformAdmin then .ok ()
  else .error (.http (.forbidden "Platform admin access is required."))

/-- `findWorkspaceOrFail`. -/
def findWorkspaceOrFail (db : WorkspaceTables) (id : Uuid) : Except ThrownError Workspace :=
  match db.workspaces.get id with
  | none => .error (.http (.notFound s!"Workspace {id} was not found"))
  | some workspace => .ok workspace

/-- `findMembershipForUser`. -/
def findMembershipForUser (db : WorkspaceTables) (workspaceId userId : Uuid) :
    Option WorkspaceMembership :=
  db.memberships.rows.find? fun membership =>
    membership.workspaceId = workspaceId && membership.userId = userId

/-- `findWorkspaceForUserOrFail`, without the role it adds. -/
def findWorkspaceForUserOrFail (db : WorkspaceTables) (workspaceId : Uuid)
    (user : AuthenticatedUser) : Except ThrownError Workspace := do
  let workspace ← findWorkspaceOrFail db workspaceId
  if user.role = .platformAdmin then .ok workspace
  else if (findMembershipForUser db workspaceId user.id).isNone then
    .error (.http (.forbidden "You do not have access to this workspace."))
  else .ok workspace

/-- `assertWorkspaceAdmin`. -/
def assertWorkspaceAdmin (db : WorkspaceTables) (workspaceId : Uuid) (actor : AuthenticatedUser) :
    Except ThrownError Unit :=
  if actor.role = .platformAdmin then .ok ()
  else
    let isAdmin := (findMembershipForUser db workspaceId actor.id).any fun membership =>
      membership.role = .owner || membership.role = .admin
    if isAdmin then .ok ()
    else .error (.http (.forbidden "Workspace owner or admin access is required."))

/-- `assertWorkspaceWritable`. -/
def assertWorkspaceWritable (db : WorkspaceTables) (workspaceId : Uuid) :
    Except ThrownError Unit := do
  let workspace ← findWorkspaceOrFail db workspaceId
  if workspace.isArchived then
    .error (.http (.conflict
      "Archived workspaces are read-only. Restore the workspace before making changes."))
  else .ok ()

/-- `normalizeSlug`, given `String.prototype.toLowerCase`. -/
def normalizeSlug (toLowerCase : String → String) (value : String) : Except ThrownError String :=
  let slug := toLowerCase (jsTrim value)
  if slug = "" then .error (.http (.badRequest "Workspace slug is required.")) else .ok slug

/-- The row with a slug. -/
def findBySlug (db : WorkspaceTables) (slug : String) : Option Workspace :=
  db.workspaces.rows.find? fun workspace => workspace.slug = slug

/-- `hasDefaultWorkspace`. -/
def hasDefaultWorkspace (db : WorkspaceTables) : Bool :=
  db.workspaces.rows.any fun workspace => workspace.isDefault

/-- `isUnarchiveOnlyRequest`. -/
def isUnarchiveOnlyRequest (dto : UpdateWorkspaceDto) : Bool :=
  dto = { isArchived := some (some false) }

/-- `if (refused) throw error`. -/
def refuse (refused : Bool) (error : HttpError) : Except ThrownError Unit :=
  if refused then .error (.http error) else .ok ()

/-- The checks of `updateWorkspace` on the two flags. -/
def checkFlags (workspace : Workspace) (actor : AuthenticatedUser) (dto : UpdateWorkspaceDto) :
    Except ThrownError Unit := do
  refuse (workspace.isArchived && !isUnarchiveOnlyRequest dto)
    (.conflict "Archived workspaces are read-only. Restore the workspace before changing settings.")
  dto.isDefault.elim (.ok ()) fun _ => assertPlatformAdmin actor
  refuse (dto.isDefault.isSome && dto.isDefault ≠ some (some true) && workspace.isDefault)
    (.badRequest
      "Default workspace cannot be unset directly. Select another workspace as default first.")
  refuse (dto.isArchived = some (some true) && workspace.isDefault)
    (.conflict "Default workspace cannot be archived. Select another default workspace first.")
  refuse (dto.isDefault = some (some true) &&
      (workspace.isArchived || dto.isArchived = some (some true)))
    (.conflict "Archived workspaces cannot become the default workspace.")

/-- The value of a column that is not nullable; the save of `null` there fails. -/
def requiredColumn {α : Type} (field : Option (Option α)) (current : α) : Except ThrownError α :=
  match field with
  | none => .ok current
  | some none => .error .other
  | some (some value) => .ok value

/-! ## The operations -/

section Operations

variable {Token : Type} (platform : UsersService.AccountPlatform Token)

/-- The timezone of a new workspace. -/
def createdTimezone (dto : CreateWorkspaceDto) : Except ThrownError String :=
  if isPresent dto.defaultTimezone then
    UsersService.assertValidTimeZone platform (dto.defaultTimezone.getD "")
  else .ok "UTC"

/-- What `createWorkspace` checks and normalizes before it writes: the slug and the timezone. -/
def checkCreation (db : WorkspaceTables) (actor : AuthenticatedUser) (dto : CreateWorkspaceDto) :
    Except ThrownError (String × String) := do
  assertPlatformAdmin actor
  let slug ← normalizeSlug platform.toLowerCase dto.slug
  let timezone ← createdTimezone platform dto
  refuse (findBySlug db slug).isSome (.conflict "A workspace with this slug already exists.")
  .ok (slug, timezone)

/-- `shouldBecomeDefault`. -/
def shouldBecomeDefault (db : WorkspaceTables) (dto : CreateWorkspaceDto) : Bool :=
  dto.isDefault = some true || !hasDefaultWorkspace db

/-- The row that `createWorkspace` inserts. -/
def createdWorkspace (actor : AuthenticatedUser) (dto : CreateWorkspaceDto)
    (slug timezone : String) (id : Uuid) : Workspace where
  id := id
  name := jsTrim dto.name
  slug := slug
  defaultTimezone := timezone
  createdByUserId := some actor.id
  isArchived := dto.isArchived.getD false
  isDefault := false
  automationEmailEnabled := dto.automationEmailEnabled.getD false
  automationTelegramEnabled := dto.automationTelegramEnabled.getD false
  automationTelegramBotToken := dto.automationTelegramBotToken
  automationTelegramChatId := dto.automationTelegramChatId
  automationEmailLevels := dto.automationEmailLevels.getD [.critical]
  automationTelegramLevels := dto.automationTelegramLevels.getD [.critical]

/-- `SET isDefault`. -/
def Workspace.withDefault (value : Bool) (workspace : Workspace) : Workspace :=
  { workspace with isDefault := value }

/-- `setDefaultWorkspace`. -/
def setDefaultWorkspace (workspaces : Table Workspace.key) (workspaceId : Uuid) :
    Table Workspace.key :=
  (workspaces.update (fun row => row.isDefault) (Workspace.withDefault false) fun _ => rfl).update
    (fun row => decide (row.id = workspaceId)) (Workspace.withDefault true) fun _ => rfl

/-- What the database draws and decides in a step. -/
structure WorkspaceInput where
  id : Uuid := ""
  membershipId : Uuid := ""
  /-- A text too long for its column, a creator who is gone. -/
  fails : Bool := false
  deriving DecidableEq, Repr

/-- The database refuses the rows of a new workspace. -/
def insertFails (db : WorkspaceTables) (input : WorkspaceInput) : Bool :=
  input.fails || (db.workspaces.get input.id).isSome ||
    (db.memberships.get input.membershipId).isSome

/-- `createWorkspace`. -/
def createWorkspace (db : WorkspaceTables) (actor : AuthenticatedUser) (dto : CreateWorkspaceDto)
    (input : WorkspaceInput) : Except ThrownError WorkspaceTables := do
  let (slug, timezone) ← checkCreation platform db actor dto
  if insertFails db input then .error .other
  else
    let workspaces := db.workspaces.insert (createdWorkspace actor dto slug timezone input.id)
    .ok {
      workspaces := if shouldBecomeDefault db dto then setDefaultWorkspace workspaces input.id
        else workspaces
      memberships := db.memberships.insert
        ⟨⟨input.id, actor.id, .owner⟩, input.membershipId⟩ }

/-- The name that `updateWorkspace` gives; `null` has no `trim`. -/
def updatedName (workspace : Workspace) (dto : UpdateWorkspaceDto) : Except ThrownError String :=
  match dto.name with
  | none => .ok workspace.name
  | some none => .error .other
  | some (some name) =>
      if jsLength (jsTrim name) < 2 then
        .error (.http (.badRequest "Workspace name must be at least 2 characters."))
      else .ok (jsTrim name)

/-- The slug that `updateWorkspace` gives. -/
def updatedSlug (db : WorkspaceTables) (workspace : Workspace) (dto : UpdateWorkspaceDto) :
    Except ThrownError String :=
  match dto.slug with
  | none => .ok workspace.slug
  | some none => .error .other
  | some (some value) => do
      let slug ← normalizeSlug platform.toLowerCase value
      refuse ((findBySlug db slug).any fun existing => existing.id ≠ workspace.id)
        (.conflict "A workspace with this slug already exists.")
      .ok slug

/-- The timezone that `updateWorkspace` gives. -/
def updatedTimezone (workspace : Workspace) (dto : UpdateWorkspaceDto) :
    Except ThrownError String :=
  match dto.defaultTimezone with
  | none => .ok workspace.defaultTimezone
  | some none => .error .other
  | some (some value) => UsersService.assertValidTimeZone platform value

/-- The entity that `updateWorkspace` saves. -/
def updatedWorkspace (db : WorkspaceTables) (workspace : Workspace) (dto : UpdateWorkspaceDto) :
    Except ThrownError Workspace := do
  let name ← updatedName workspace dto
  let slug ← updatedSlug platform db workspace dto
  let timezone ← updatedTimezone platform workspace dto
  let isArchived ← requiredColumn dto.isArchived workspace.isArchived
  let emailEnabled ← requiredColumn dto.automationEmailEnabled workspace.automationEmailEnabled
  let telegramEnabled ←
    requiredColumn dto.automationTelegramEnabled workspace.automationTelegramEnabled
  let emailLevels ← requiredColumn dto.automationEmailLevels workspace.automationEmailLevels
  let telegramLevels ←
    requiredColumn dto.automationTelegramLevels workspace.automationTelegramLevels
  .ok { workspace with
    name := name
    slug := slug
    defaultTimezone := timezone
    isArchived := isArchived
    automationEmailEnabled := emailEnabled
    automationTelegramEnabled := telegramEnabled
    automationTelegramBotToken :=
      dto.automationTelegramBotToken.getD workspace.automationTelegramBotToken
    automationTelegramChatId := dto.automationTelegramChatId.getD workspace.automationTelegramChatId
    automationEmailLevels := emailLevels
    automationTelegramLevels := telegramLevels }

/-- `workspacesRepository.save` of an entity that was loaded. -/
def saveWorkspace (workspaces : Table Workspace.key) (entity : Workspace) : Table Workspace.key :=
  workspaces.update (fun row => decide (row.id = entity.id))
    (fun row => { entity with id := row.id }) fun _ => rfl

/-- `updateWorkspace`. -/
def updateWorkspace (db : WorkspaceTables) (workspaceId : Uuid) (actor : AuthenticatedUser)
    (dto : UpdateWorkspaceDto) (input : WorkspaceInput) : Except ThrownError WorkspaceTables := do
  let workspace ← findWorkspaceForUserOrFail db workspaceId actor
  assertWorkspaceAdmin db workspaceId actor
  checkFlags workspace actor dto
  let entity ← updatedWorkspace platform db workspace dto
  if input.fails then .error .other
  else
    let workspaces := saveWorkspace db.workspaces entity
    .ok { db with
      workspaces :=
        if dto.isDefault = some (some true) then setDefaultWorkspace workspaces entity.id
        else workspaces }

/-- `deleteWorkspace`; the memberships go with the workspace. -/
def deleteWorkspace (db : WorkspaceTables) (workspaceId : Uuid) (actor : AuthenticatedUser)
    (input : WorkspaceInput) : Except ThrownError WorkspaceTables := do
  let workspace ← findWorkspaceForUserOrFail db workspaceId actor
  assertWorkspaceAdmin db workspaceId actor
  assertWorkspaceWritable db workspaceId
  refuse workspace.isDefault
    (.conflict "Default workspace cannot be deleted. Select another default workspace first.")
  if input.fails then .error .other
  else
    .ok {
      workspaces := db.workspaces.delete workspace.id
      memberships := db.memberships.deleteWhere fun row => row.workspaceId = workspace.id }

end Operations

end WorkspacesService
