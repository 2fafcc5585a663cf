/-
# An installation that stops

An installation that fails or crashes should leave a world in which either another
installation goes through or nothing is missing.  It does not once the first row is saved:
the database is then not empty, and `isRecoverablePartialInstall` wants it without rows.

**`allOrRetry_iff`**: an installation stopped after some of its effects can be retried, or is
complete, if and only if it stopped before its first row, with no table or all of them, and
the process still offers the setup, or after the rename of the file of the secrets.
-/
import NoderaxApi.SetupInstall
import NoderaxApi.UserAccountSteps

namespace SetupService

open AuthService Install KeyedTable UsersService WorkspacesService

variable {Token : Type} (platform : SetupPlatform Token)

/-! ## The property -/

/-- The timezone of a request is one that `install` accepts. -/
def ValidRequest (dto : InstallSetupDto) : Prop :=
  ∃ timezone,
    assertValidTimeZone platform.toAccountPlatform dto.workspace.defaultTimezone = .ok timezone

/-- The administrator, who owns the default workspace, the install state and every secret are
there. -/
structure Complete (w : SetupWorld) : Prop where
  rows : ∃ user ∈ w.database.users.rows, ∃ workspace ∈ w.database.workspaces.rows,
    ∃ membership ∈ w.database.memberships.rows,
      user.role = .platformAdmin ∧ user.isActive = true ∧ workspace.isDefault = true ∧
      workspace.isArchived = false ∧ membership.workspaceId = workspace.id ∧
      membership.userId = user.id ∧ membership.role = .owner
  state : ∃ state, readInstallState w.disk = .ok (some state)
  secrets : ∀ key ∈ installSecretKeys, (readableEnv w.disk key).isSome = true

/-- Every valid installation is accepted, and complete when it is through. -/
def CanRetry (w : SetupWorld) : Prop :=
  ∀ dto input, ValidRequest platform dto → ∃ effects,
    install platform {} w dto input = .ok effects ∧ Complete (effects.foldl InstallEffect.apply w)

/-- All or retry. -/
def AllOrRetry (w : SetupWorld) : Prop := CanRetry platform w ∨ Complete w

/-- A process that crashes is started again. -/
def SetupWorld.afterCrash (crashes : Bool) (w : SetupWorld) : SetupWorld :=
  if crashes then restart platform w else w

/-- The world after an installation that stops after `n` effects. -/
def afterInstall (host : SetupHost) (w : SetupWorld) (dto : InstallSetupDto)
    (input : InstallInput) (n : ℕ) (crashes : Bool) : SetupWorld :=
  (stoppedInstall platform host w dto input n).afterCrash platform crashes

/-! ## The condition -/

/-- The migrations create every table that `isRecoverablePartialInstall` counts. -/
def CreatesRuntimeTables : Prop := ∀ name ∈ runtimeTables, name ∈ platform.migrations.flatten

/-- The surroundings let an installation pass. -/
def SetupHost.passes (host : SetupHost) (db : Database) : Bool :=
  host.postgres.isNone && host.redis.isNone && host.stateDirectory.isNone &&
    (host.snapshotConnects || databaseEmpty platform db) && host.extensions.isNone

/-- How many effects are done: none if the surroundings fail. -/
def effectsDone (host : SetupHost) (db : Database) (n : ℕ) : ℕ :=
  if host.passes platform db then n else 0

/-- A process that starts while no state is written offers the setup: the file of the secrets
can be read, and nothing looks like a deployment of before. -/
def OffersSetup (disk : InstallDisk) (tables : List String) : Prop :=
  (∃ secrets, readInstallSecrets disk = .ok secrets) ∧
    (isInstallerSetupContext platform.launchEnv = true ∨
      hasLegacyRuntimeEnv platform.launchEnv = false ∨
      detectLegacySchemaState platform.launchEnv (legacyTables platform tables) = .incomplete ∨
      detectLegacySchemaState platform.launchEnv (legacyTables platform tables) = .absent)

/-- Where an installation of `w` may stop.  The saves of the three rows and the first four
operations on the files make up the seven effects after the migrations. -/
def StopsSafely (w : SetupWorld) (done : ℕ) (crashes : Bool) : Prop :=
  let pending := (pendingMigrations platform w.database).length
  let tables := tablesAt platform (w.database.migrated + done)
  pending + 7 ≤ done ∨
    (pending + 5 ≤ done ∧ ∀ key ∈ installSecretKeys, (readableEnv w.disk key).isSome = true) ∨
    (done ≤ pending ∧ (tables = [] ∨ ∀ name ∈ runtimeTables, name ∈ tables) ∧
      (crashes = true → OffersSetup platform w.disk tables))

/-! ## What is accepted -/

variable {platform} {w : SetupWorld} {host : SetupHost} {dto : InstallSetupDto}
  {input : InstallInput} {timezone : String}

/-- The process offers the setup, and nothing of a promotion or an installation is on the
disk. -/
structure SetupOpen (w : SetupWorld) : Prop where
  process : ∃ bootMode, w.process = .up bootMode ∧ bootMode ≠ some .installed ∧
    bootMode ≠ some .legacy
  transition : w.disk.transition = .missing
  state : w.disk.state = .missing

theorem orThrown_ok {α : Type} {x : Except ThrownError α} {a : α} :
    orThrown x = .ok a ↔ x = .ok a :=
  mapError_eq_ok

theorem refuse_ok {refused : Bool} {error : HttpError} :
    refuse refused error = .ok () ↔ refused = false := by
  cases refused <;> simp [refuse]

theorem probe_ok {failure : Option String} {text : String → String} :
    probe failure text = .ok () ↔ failure.isNone = true := by
  cases failure <;> simp [probe]

theorem exists_iff_not_missing {α : Type} {file : FileContents α} :
    file.exists = false ↔ file = .missing := by
  cases file <;> simp [FileContents.exists]

/-- A transition that can be read is there only while it promotes. -/
theorem readInstallTransitionState_cases {disk : InstallDisk}
    {transition : Option InstallTransitionFile}
    (h : readInstallTransitionState disk = .ok transition) :
    (transition = none ∧ disk.transition = .missing) ∨
      ∃ file, transition = some file ∧ file.status = "promoting" := by
  unfold readInstallTransitionState at h
  split at h
  · next hmissing => exact .inl ⟨(Except.ok.inj h).symm, hmissing⟩
  · cases h
  · next parsed hparsed =>
      split at h
      · cases h
      · next hvalid =>
          simp only [Bool.or_eq_true, not_or, decide_eq_true_eq, ne_eq, not_not] at hvalid
          exact .inr ⟨parsed, (Except.ok.inj h).symm, hvalid.1.2⟩

/-- `getStatus` answers that the setup is open just in a process that offers it, without a
transition on the disk. -/
theorem getStatus_setup_iff :
    getStatus w = .ok .setup ↔ w.disk.transition = .missing ∧
      ∃ bootMode, w.process = .up bootMode ∧ bootMode ≠ some .installed ∧
        bootMode ≠ some .legacy := by
  unfold getStatus
  cases hprocess : w.process with
  | down => simp
  | up bootMode =>
      cases htransition : readInstallTransitionState w.disk with
      | error error =>
          have hthere : w.disk.transition ≠ .missing := by
            intro hmissing
            rw [readInstallTransitionState, hmissing] at htransition
            cases htransition
          simp [hthere]
      | ok transition =>
          obtain ⟨rfl, hmissing⟩ | ⟨file, rfl, hstatus⟩ :=
            readInstallTransitionState_cases htransition
          · rcases bootMode with - | - | - | - <;> simp [hmissing]
          · have hthere : w.disk.transition ≠ .missing := by
              intro hmissing
              rw [readInstallTransitionState, hmissing] at htransition
              cases htransition
            simp [hstatus, hthere]

theorem assertSetupOpen_ok : assertSetupOpen w = .ok () ↔ SetupOpen w := by
  rw [assertSetupOpen, bind_eq_ok]
  constructor
  · rintro ⟨status, hstatus, hrefuse⟩
    rw [orThrown_ok, refuse_ok, Bool.or_eq_false_iff, hasInstallState, exists_iff_not_missing]
      at hrefuse
    obtain rfl : status = .setup := by simpa using hrefuse.1
    obtain ⟨htransition, hprocess⟩ := getStatus_setup_iff.mp hstatus
    exact ⟨hprocess, htransition, hrefuse.2⟩
  · intro h
    refine ⟨.setup, getStatus_setup_iff.mpr ⟨h.transition, h.process⟩, ?_⟩
    rw [orThrown_ok, refuse_ok, hasInstallState, h.state]
    rfl

/-- The database is empty, or what an installation without rows has left. -/
def Usable (platform : SetupPlatform Token) (db : Database) : Prop :=
  db.tables platform = [] ∨ isRecoverablePartialInstall platform db = true

theorem timezone_ne_empty {accounts : AccountPlatform Token} {value : String}
    (h : assertValidTimeZone accounts value = .ok timezone) : timezone ≠ "" := by
  simp only [assertValidTimeZone] at h
  split at h
  · next hvalid =>
      obtain rfl := Except.ok.inj h
      exact hvalid.1
  · cases h

/-- The surroundings and the database together decide the second half of the checks. -/
theorem checkDatabase_iff {db : Database} :
    (host.postgres.isNone = true ∧ host.redis.isNone = true ∧ host.stateDirectory.isNone = true ∧
      (!databaseEmpty platform db &&
          !(host.snapshotConnects && isRecoverablePartialInstall platform db)) = false ∧
      host.extensions.isNone = true) ↔
      host.passes platform db = true ∧ Usable platform db := by
  have hempty : db.tables platform = [] ↔ databaseEmpty platform db = true :=
    List.isEmpty_iff.symm
  rw [Usable, hempty, SetupHost.passes]
  cases databaseEmpty platform db <;> cases isRecoverablePartialInstall platform db <;>
    cases host.snapshotConnects <;> simp [and_assoc]

/-- **What `install` accepts.** -/
theorem checkInstall_iff :
    checkInstall platform host w dto = .ok timezone ↔
      SetupOpen w ∧
      assertValidTimeZone platform.toAccountPlatform dto.workspace.defaultTimezone = .ok timezone ∧
      host.passes platform w.database = true ∧ Usable platform w.database := by
  rw [← checkDatabase_iff, checkInstall]
  constructor
  · intro h
    obtain ⟨⟨⟩, hopen, h⟩ := bind_eq_ok.mp h
    obtain ⟨normalized, htimezone, h⟩ := bind_eq_ok.mp h
    obtain ⟨⟨⟩, -, h⟩ := bind_eq_ok.mp h
    obtain ⟨⟨⟩, hpostgres, h⟩ := bind_eq_ok.mp h
    obtain ⟨⟨⟩, hredis, h⟩ := bind_eq_ok.mp h
    obtain ⟨⟨⟩, hdirectory, h⟩ := bind_eq_ok.mp h
    obtain ⟨⟨⟩, hdatabase, h⟩ := bind_eq_ok.mp h
    obtain ⟨⟨⟩, hextensions, h⟩ := bind_eq_ok.mp h
    obtain rfl := Except.ok.inj h
    exact ⟨assertSetupOpen_ok.mp hopen, orThrown_ok.mp htimezone, probe_ok.mp hpostgres,
      probe_ok.mp hredis, probe_ok.mp hdirectory, refuse_ok.mp (orThrown_ok.mp hdatabase),
      probe_ok.mp hextensions⟩
  · rintro ⟨hopen, htimezone, hpostgres, hredis, hdirectory, hdatabase, hextensions⟩
    have hnonempty : decide (timezone = "") = false :=
      decide_eq_false (timezone_ne_empty htimezone)
    refine bind_eq_ok.mpr ⟨(), assertSetupOpen_ok.mpr hopen, ?_⟩
    refine bind_eq_ok.mpr ⟨timezone, orThrown_ok.mpr htimezone, ?_⟩
    refine bind_eq_ok.mpr ⟨(), orThrown_ok.mpr (refuse_ok.mpr hnonempty), ?_⟩
    refine bind_eq_ok.mpr ⟨(), probe_ok.mpr hpostgres, ?_⟩
    refine bind_eq_ok.mpr ⟨(), probe_ok.mpr hredis, ?_⟩
    refine bind_eq_ok.mpr ⟨(), probe_ok.mpr hdirectory, ?_⟩
    refine bind_eq_ok.mpr ⟨(), orThrown_ok.mpr (refuse_ok.mpr hdatabase), ?_⟩
    exact bind_eq_ok.mpr ⟨(), probe_ok.mpr hextensions, rfl⟩

/-! ## Tables without rows -/

/-- No table that `isRecoverablePartialInstall` counts has a row. -/
def HoldsNothing (platform : SetupPlatform Token) (db : Database) : Prop :=
  ∀ name ∈ runtimeTables, name ∈ db.tables platform → db.storedRows name = 0

theorem mapM_countRows {db : Database} (names : List String) :
    names.mapM (db.countRows platform) =
      if ∀ name ∈ names, name ∈ db.tables platform then some (names.map db.storedRows)
      else none := by
  induction names with
  | nil => simp
  | cons name rest ih =>
      rw [List.mapM_cons, ih, Database.countRows]
      by_cases hname : name ∈ db.tables platform
      · rw [if_pos hname]
        by_cases hrest : ∀ name ∈ rest, name ∈ db.tables platform
        · rw [if_pos hrest, if_pos (List.forall_mem_cons.mpr ⟨hname, hrest⟩)]
          rfl
        · rw [if_neg hrest, if_neg fun hall => hrest (List.forall_mem_cons.mp hall).2]
          rfl
      · rw [if_neg hname, if_neg fun hall => hname (List.forall_mem_cons.mp hall).1]
        rfl

/-- **A partial installation is recoverable** just if every counted table is there and has no
row. -/
theorem recoverable_iff {db : Database} :
    isRecoverablePartialInstall platform db = true ↔
      ∀ name ∈ runtimeTables, name ∈ db.tables platform ∧ db.storedRows name = 0 := by
  rw [isRecoverablePartialInstall, mapM_countRows]
  by_cases htables : ∀ name ∈ runtimeTables, name ∈ db.tables platform
  · have husers := htables "users" (by decide)
    have hworkspaces := htables "workspaces" (by decide)
    have hmemberships := htables "workspace_memberships" (by decide)
    simp only [husers, hworkspaces, hmemberships, if_pos htables, not_true_eq_false, decide_false,
      Bool.or_self, Bool.false_eq_true, if_false, List.all_map, List.all_eq_true, Function.comp,
      decide_eq_true_eq]
    exact ⟨fun hall name hname => ⟨htables name hname, hall name hname⟩,
      fun hall name hname => (hall name hname).2⟩
  · refine iff_of_false ?_ fun hall => htables fun name hname => (hall name hname).1
    simp only [if_neg htables, ite_self, Bool.false_eq_true, not_false_eq_true]

theorem holdsNothing_of_usable {db : Database} (h : Usable platform db) :
    HoldsNothing platform db := by
  intro name hname hthere
  obtain hempty | hrecoverable := h
  · rw [hempty] at hthere
    cases hthere
  · exact (recoverable_iff.mp hrecoverable name hname).2

/-- Without rows, a database can be used if no counted table is missing from it, or it has no
table at all. -/
theorem usable_iff {db : Database} (h : HoldsNothing platform db) :
    Usable platform db ↔
      db.tables platform = [] ∨ ∀ name ∈ runtimeTables, name ∈ db.tables platform := by
  rw [Usable, recoverable_iff]
  refine or_congr_right ⟨fun hall name hname => (hall name hname).1, fun hall name hname => ?_⟩
  exact ⟨hall name hname, h name hname (hall name hname)⟩

/-- A user in the table leaves a database that cannot be used. -/
theorem not_usable_of_user {db : Database} (hthere : "users" ∈ db.tables platform)
    (huser : db.users.rows ≠ []) : ¬Usable platform db := by
  rintro (hempty | hrecoverable)
  · rw [hempty] at hthere
    cases hthere
  · have hzero := (recoverable_iff.mp hrecoverable "users" (by decide)).2
    exact huser (List.length_eq_zero_iff.mp hzero)

/-! ## The migrations -/

theorem storedRows_migrate (db : Database) (created : List String) (name : String) :
    (db.migrate created).storedRows name = if name ∈ created then 0 else db.storedRows name := by
  rw [Database.storedRows, Database.storedRows, Database.migrate]
  by_cases husers : name = "users"
  · subst husers
    rw [if_pos rfl, if_pos rfl, apply_ite (fun table : Table UserRow.key => table.rows.length)]
    rfl
  by_cases hworkspaces : name = "workspaces"
  · subst hworkspaces
    rw [if_neg husers, if_pos rfl, if_neg husers, if_pos rfl,
      apply_ite (fun table : Table Workspace.key => table.rows.length)]
    rfl
  by_cases hmemberships : name = "workspace_memberships"
  · subst hmemberships
    rw [if_neg husers, if_neg hworkspaces, if_pos rfl, if_neg husers, if_neg hworkspaces,
      if_pos rfl, apply_ite (fun table : Table WorkspaceMembership.key => table.rows.length)]
    rfl
  · simp only [if_neg husers, if_neg hworkspaces, if_neg hmemberships]

/-- The next transaction adds its tables. -/
theorem tables_migrate {db : Database} {created : List String} {rest : List (List String)}
    (hpending : pendingMigrations platform db = created :: rest) :
    (db.migrate created).tables platform = db.tables platform ++ created := by
  have hdrop : platform.migrations.drop db.migrated = created :: rest := hpending
  rw [Database.tables, Database.tables, tablesAt, tablesAt, Database.migrate, List.take_add, hdrop,
    List.flatten_append]
  simp

theorem pendingMigrations_migrate {db : Database} {created : List String}
    {rest : List (List String)} (hpending : pendingMigrations platform db = created :: rest) :
    pendingMigrations platform (db.migrate created) = rest := by
  have hdrop : platform.migrations.drop db.migrated = created :: rest := hpending
  rw [pendingMigrations, Database.migrate, ← List.drop_drop, hdrop]
  rfl

/-- **One transaction** leaves the tables without rows. -/
theorem holdsNothing_migrate {db : Database} {created : List String} {rest : List (List String)}
    (hpending : pendingMigrations platform db = created :: rest) (h : HoldsNothing platform db) :
    HoldsNothing platform (db.migrate created) := by
  intro name hname hthere
  rw [storedRows_migrate]
  rw [tables_migrate hpending, List.mem_append] at hthere
  by_cases hcreated : name ∈ created
  · exact if_pos hcreated
  · rw [if_neg hcreated]
    exact h name hname (hthere.resolve_right hcreated)

/-- What some transactions of the migrations leave of a world. -/
structure Migrated (platform : SetupPlatform Token) (w : SetupWorld) (done : ℕ)
    (w' : SetupWorld) : Prop where
  disk : w'.disk = w.disk
  process : w'.process = w.process
  migrated : w'.database.migrated = w.database.migrated + done
  nothing : HoldsNothing platform w'.database

/-- **The migrations**, stopped anywhere. -/
theorem migrated_run {steps rest : List (List String)} {w : SetupWorld}
    (hpending : pendingMigrations platform w.database = steps ++ rest)
    (h : HoldsNothing platform w.database) :
    Migrated platform w steps.length
      ((steps.map InstallEffect.migrate).foldl InstallEffect.apply w) := by
  induction steps generalizing w with
  | nil => exact ⟨rfl, rfl, rfl, h⟩
  | cons created steps ih =>
      let w' : SetupWorld := InstallEffect.apply w (.migrate created)
      have hnext : Migrated platform w' steps.length
          ((steps.map InstallEffect.migrate).foldl InstallEffect.apply w') :=
        ih (pendingMigrations_migrate hpending) (holdsNothing_migrate hpending h)
      refine ⟨hnext.disk, hnext.process, ?_, hnext.nothing⟩
      have hmigrated : w'.database.migrated = w.database.migrated + 1 := rfl
      rw [List.map_cons, List.foldl_cons, hnext.migrated, hmigrated, List.length_cons]
      omega

/-! ## The effects -/

/-- The effects after the migrations. -/
def savedEffects (platform : SetupPlatform Token) (disk : InstallDisk) (dto : InstallSetupDto)
    (timezone : String) (input : InstallInput) : List InstallEffect :=
  rowEffects platform dto timezone input ++ (fileOperations disk dto input).map InstallEffect.file

/-- The operations on the files, without a transition to clear. -/
theorem fileOperations_eq {disk : InstallDisk} (htransition : disk.transition = .missing) :
    fileOperations disk dto input =
      [.writeStateTemp (persistedState "installer" input.installedAt
          (splitInstallerEnv (buildRuntimeEnv dto input)).managedEnv),
        .renameState,
        .writeSecretsTemp (secretsPayload
          (splitInstallerEnv (buildRuntimeEnv dto input)).secretEnv input.secretsUpdatedAt),
        .renameSecrets,
        .writeTransitionTemp (transitionPayload "promoting" "runtime_ha"
          (some [("publicOrigin", dto.mail.webAppUrl)]) input.transitionUpdatedAt),
        .renameTransition] := by
  have hpassword : (buildRuntimeEnv dto input).get "DATABASE_PASSWORD"
      = some dto.postgres.password := rfl
  rw [fileOperations, clearInstallTransitionState, htransition,
    writeInstallSecrets_of_get (by decide) hpassword]
  rfl

theorem install_of_check (hcheck : checkInstall platform host w dto = .ok timezone) :
    install platform host w dto input =
      .ok ((pendingMigrations platform w.database).map InstallEffect.migrate ++
        savedEffects platform w.disk dto timezone input) := by
  rw [install, hcheck, savedEffects, ← List.append_assoc]
  rfl

/-- The row of an empty table. -/
theorem rows_insert_of_nil {ρ : Type} {key : ρ → Uuid} {table : Table key} (h : table.rows = [])
    (row : ρ) : (table.insert row).rows = [row] := by
  have hfree : (find key table.rows (key row)).isNone = true := by
    rw [h]
    rfl
  rw [Table.insert, dif_pos hfree]
  exact (congrArg (· ++ [row]) h).trans rfl

/-! ## After the migrations -/

/-- The migrations are done, and nothing else. -/
structure Ready (platform : SetupPlatform Token) (w : SetupWorld) : Prop where
  nothing : HoldsNothing platform w.database
  tables : ∀ name ∈ runtimeTables, name ∈ w.database.tables platform
  transition : w.disk.transition = .missing
  state : w.disk.state = .missing

/-- The world after `j` of the effects that follow the migrations. -/
def savedWorld (platform : SetupPlatform Token) (w : SetupWorld) (dto : InstallSetupDto)
    (timezone : String) (input : InstallInput) (j : ℕ) : SetupWorld :=
  ((savedEffects platform w.disk dto timezone input).take j).foldl InstallEffect.apply w

theorem users_of_ready (hw : Ready platform w) : w.database.users.rows = [] :=
  List.length_eq_zero_iff.mp (hw.nothing "users" (by decide) (hw.tables "users" (by decide)))

theorem workspaces_of_ready (hw : Ready platform w) : w.database.workspaces.rows = [] :=
  List.length_eq_zero_iff.mp
    (hw.nothing "workspaces" (by decide) (hw.tables "workspaces" (by decide)))

theorem memberships_of_ready (hw : Ready platform w) : w.database.memberships.rows = [] :=
  List.length_eq_zero_iff.mp
    (hw.nothing "workspace_memberships" (by decide) (hw.tables "workspace_memberships" (by decide)))

section Saved

variable (dto input timezone)

/-- **From the first row to the rename of the state** the database cannot be used, and there is
no state. -/
theorem savedWorld_rows (hw : Ready platform w) {j : ℕ} (hpos : 1 ≤ j) (hj : j ≤ 4) :
    ¬Usable platform (savedWorld platform w dto timezone input j).database ∧
      (savedWorld platform w dto timezone input j).disk.state = .missing := by
  have hworld : (savedWorld platform w dto timezone input j).database.users
        = w.database.users.insert (adminUser platform dto timezone input) ∧
      (savedWorld platform w dto timezone input j).database.tables platform
        = w.database.tables platform ∧
      (savedWorld platform w dto timezone input j).disk.state = w.disk.state := by
    rw [savedWorld, savedEffects, fileOperations_eq hw.transition]
    obtain rfl | rfl | rfl | rfl : j = 1 ∨ j = 2 ∨ j = 3 ∨ j = 4 := by omega
    all_goals exact ⟨rfl, rfl, rfl⟩
  obtain ⟨husers, htables, hstate⟩ := hworld
  refine ⟨not_usable_of_user ?_ ?_, hstate.trans hw.state⟩
  · rw [htables]
    exact hw.tables "users" (by decide)
  · rw [husers, rows_insert_of_nil (users_of_ready hw)]
    exact List.cons_ne_nil _ _

/-- **Between the two renames** there is a state without secrets, and the old file of the
secrets. -/
theorem savedWorld_between (hw : Ready platform w) {j : ℕ} (hpos : 5 ≤ j) (hj : j ≤ 6) :
    (savedWorld platform w dto timezone input j).disk.state =
        .holds (persistedState "installer" input.installedAt
          (splitInstallerEnv (buildRuntimeEnv dto input)).managedEnv) ∧
      (savedWorld platform w dto timezone input j).disk.secrets = w.disk.secrets := by
  rw [savedWorld, savedEffects, fileOperations_eq hw.transition]
  obtain rfl | rfl : j = 5 ∨ j = 6 := by omega
  all_goals exact ⟨rfl, rfl⟩

/-- **After the second rename** both files are those of this installation. -/
theorem savedWorld_written (hw : Ready platform w) {j : ℕ} (hpos : 7 ≤ j) (hj : j ≤ 9) :
    (savedWorld platform w dto timezone input j).disk.state =
        .holds (persistedState "installer" input.installedAt
          (splitInstallerEnv (buildRuntimeEnv dto input)).managedEnv) ∧
      (savedWorld platform w dto timezone input j).disk.secrets =
        .holds (secretsPayload (splitInstallerEnv (buildRuntimeEnv dto input)).secretEnv
          input.secretsUpdatedAt) := by
  rw [savedWorld, savedEffects, fileOperations_eq hw.transition]
  obtain rfl | rfl | rfl : j = 7 ∨ j = 8 ∨ j = 9 := by omega
  all_goals exact ⟨rfl, rfl⟩

/-- From the third save on, the three rows are there. -/
theorem savedWorld_account (hw : Ready platform w) {j : ℕ} (hpos : 5 ≤ j) (hj : j ≤ 9) :
    ∃ user ∈ (savedWorld platform w dto timezone input j).database.users.rows,
      ∃ workspace ∈ (savedWorld platform w dto timezone input j).database.workspaces.rows,
      ∃ membership ∈ (savedWorld platform w dto timezone input j).database.memberships.rows,
        user.role = .platformAdmin ∧ user.isActive = true ∧ workspace.isDefault = true ∧
        workspace.isArchived = false ∧ membership.workspaceId = workspace.id ∧
        membership.userId = user.id ∧ membership.role = .owner := by
  have hdatabase : (savedWorld platform w dto timezone input j).database =
      { w.database with
        users := w.database.users.insert (adminUser platform dto timezone input)
        workspaces := w.database.workspaces.insert (firstWorkspace platform dto timezone input)
        memberships := w.database.memberships.insert
          ⟨⟨input.workspaceId, input.adminId, .owner⟩, input.membershipId⟩ } := by
    rw [savedWorld, savedEffects, fileOperations_eq hw.transition]
    obtain rfl | rfl | rfl | rfl | rfl : j = 5 ∨ j = 6 ∨ j = 7 ∨ j = 8 ∨ j = 9 := by omega
    all_goals rfl
  simp [hdatabase, rows_insert_of_nil (users_of_ready hw),
    rows_insert_of_nil (workspaces_of_ready hw), rows_insert_of_nil (memberships_of_ready hw),
    adminUser, firstWorkspace]

theorem savedWorld_of_le (hw : Ready platform w) {j : ℕ} (hj : 9 ≤ j) :
    savedWorld platform w dto timezone input j = savedWorld platform w dto timezone input 9 := by
  have hlength : (savedEffects platform w.disk dto timezone input).length = 9 := by
    rw [savedEffects, fileOperations_eq hw.transition]
    rfl
  rw [savedWorld, savedWorld, List.take_of_length_le (hlength.trans_le hj),
    List.take_of_length_le hlength.le]

/-- The environment of an installation has every secret. -/
theorem secret_of_buildRuntimeEnv {key : String} (hkey : key ∈ installSecretKeys) :
    ((buildRuntimeEnv dto input).get key).isSome = true := by
  simp only [installSecretKeys, List.mem_cons, List.not_mem_nil, or_false] at hkey
  obtain rfl | rfl | rfl | rfl | rfl | rfl := hkey
  all_goals rfl

/-- **From the second rename on, the installation is complete.** -/
theorem complete_savedWorld (hw : Ready platform w) {j : ℕ} (hj : 7 ≤ j) :
    Complete (savedWorld platform w dto timezone input j) := by
  wlog hle : j ≤ 9 generalizing j
  · rw [savedWorld_of_le dto input timezone hw (Nat.le_of_not_le hle)]
    exact this (by omega) le_rfl
  obtain ⟨hstate, hsecrets⟩ := savedWorld_written dto input timezone hw hj hle
  refine ⟨savedWorld_account dto input timezone hw (by omega) hle,
    ⟨_, readInstallState_persisted hstate⟩, ?_⟩
  intro key hkey
  rw [readableEnv_of_payload hstate hsecrets hkey]
  exact secret_of_buildRuntimeEnv dto input hkey

/-- **Between the two renames the installation is complete** just if the old file of the
secrets has them all. -/
theorem complete_savedWorld_between (hw : Ready platform w) {j : ℕ} (hpos : 5 ≤ j) (hj : j ≤ 6) :
    Complete (savedWorld platform w dto timezone input j) ↔
      ∀ key ∈ installSecretKeys, (readableEnv w.disk key).isSome = true := by
  obtain ⟨hstate, hsecrets⟩ := savedWorld_between dto input timezone hw hpos hj
  have hsame : ∀ key ∈ installSecretKeys,
      readableEnv (savedWorld platform w dto timezone input j).disk key
        = readableEnv w.disk key := by
    intro key hkey
    have hbefore : readInstallState w.disk = .ok none := by rw [readInstallState, hw.state]
    refine readableEnv_congr (readInstallState_persisted hstate) hbefore ?_ hsecrets
    rw [Option.bind_some, get_managedEnv, if_pos (isSecretKey_of_mem hkey)]
    rfl
  constructor
  · intro h key hkey
    rw [← hsame key hkey]
    exact h.secrets key hkey
  · intro h
    refine ⟨savedWorld_account dto input timezone hw hpos (by omega),
      ⟨_, readInstallState_persisted hstate⟩, ?_⟩
    intro key hkey
    rw [hsame key hkey]
    exact h key hkey

end Saved

/-! ## Retrying -/

theorem tablesAt_of_le {migrated : ℕ} (h : platform.migrations.length ≤ migrated) :
    tablesAt platform migrated = platform.migrations.flatten := by
  rw [tablesAt, List.take_of_length_le h]

/-- All migrations done, the world is ready for the rows. -/
theorem ready_of_migrated (hschema : CreatesRuntimeTables platform) (hopen : SetupOpen w)
    {w' : SetupWorld}
    (hmigrated : Migrated platform w (pendingMigrations platform w.database).length w') :
    Ready platform w' := by
  have htables : w'.database.tables platform = platform.migrations.flatten := by
    refine tablesAt_of_le ?_
    rw [hmigrated.migrated, pendingMigrations, List.length_drop]
    omega
  refine ⟨hmigrated.nothing, ?_, ?_, ?_⟩
  · rw [htables]
    exact hschema
  · rw [hmigrated.disk]
    exact hopen.transition
  · rw [hmigrated.disk]
    exact hopen.state

/-- **A whole installation** in an open setup leaves everything there. -/
theorem complete_of_install (hschema : CreatesRuntimeTables platform)
    (hcheck : checkInstall platform host w dto = .ok timezone) :
    ∃ effects, install platform host w dto input = .ok effects ∧
      Complete (effects.foldl InstallEffect.apply w) := by
  refine ⟨_, install_of_check hcheck, ?_⟩
  obtain ⟨hopen, -, -, husable⟩ := checkInstall_iff.mp hcheck
  have hmigrated := migrated_run (List.append_nil (pendingMigrations platform w.database)).symm
    (holdsNothing_of_usable husable)
  have hready := ready_of_migrated hschema hopen hmigrated
  have hcomplete := complete_savedWorld dto input timezone hready (by omega : 7 ≤ 9)
  rw [savedWorld, hmigrated.disk, List.take_of_length_le] at hcomplete
  · rw [List.foldl_append]
    exact hcomplete
  · rw [savedEffects, fileOperations_eq hopen.transition]
    exact le_rfl

/-- **An installation can be retried** just where the setup is open and the database can be
used. -/
theorem canRetry_iff (hschema : CreatesRuntimeTables platform) (hvalid : ValidRequest platform dto)
    (input : InstallInput) :
    CanRetry platform w ↔ SetupOpen w ∧ Usable platform w.database := by
  constructor
  · intro h
    obtain ⟨effects, hinstall, -⟩ := h dto input hvalid
    obtain ⟨timezone, hcheck, -⟩ := bind_eq_ok.mp hinstall
    obtain ⟨hopen, -, -, husable⟩ := checkInstall_iff.mp hcheck
    exact ⟨hopen, husable⟩
  · rintro ⟨hopen, husable⟩ dto' input' ⟨timezone', htimezone⟩
    have hcheck : checkInstall platform {} w dto' = .ok timezone' :=
      checkInstall_iff.mpr ⟨hopen, htimezone, rfl, husable⟩
    exact complete_of_install hschema hcheck

/-! ## Crashes -/

section Crashes

variable (platform) (crashes : Bool)

@[simp] theorem afterCrash_database (w : SetupWorld) :
    (w.afterCrash platform crashes).database = w.database := by
  cases crashes <;> rfl

@[simp] theorem afterCrash_disk (w : SetupWorld) :
    (w.afterCrash platform crashes).disk = w.disk := by
  cases crashes <;> rfl

theorem complete_afterCrash (w : SetupWorld) :
    Complete (w.afterCrash platform crashes) ↔ Complete w := by
  constructor
  · rintro ⟨hrows, hstate, hsecrets⟩
    simp only [afterCrash_database, afterCrash_disk] at hrows hstate hsecrets
    exact ⟨hrows, hstate, hsecrets⟩
  · rintro ⟨hrows, hstate, hsecrets⟩
    refine ⟨?_, ?_, ?_⟩
    · simpa only [afterCrash_database] using hrows
    · simpa only [afterCrash_disk] using hstate
    · simpa only [afterCrash_disk] using hsecrets

/-- Without an install state, `resolveBootMode` answers the setup unless a deployment of before
can be there. -/
theorem resolveBootMode_setup_iff (env : EnvRecord) (found : Option (List String)) :
    resolveBootMode env found none = .setup ↔
      isInstallerSetupContext env = true ∨ hasLegacyRuntimeEnv env = false ∨
        detectLegacySchemaState env found = .incomplete ∨
        detectLegacySchemaState env found = .absent := by
  rw [resolveBootMode]
  cases isInstallerSetupContext env <;> cases hasLegacyRuntimeEnv env <;>
    cases detectLegacySchemaState env found <;> simp

/-- The process that starts after a crash finds no install state. -/
theorem process_afterCrash (hopen : SetupOpen w) : (w.afterCrash platform true).process =
    match (readInstallSecrets w.disk).map fun _ => resolveBootMode platform.launchEnv
      (legacyTables platform (w.database.tables platform)) none with
    | .error _ => .down
    | .ok bootMode => .up (some bootMode) := by
  have hstate : readInstallState w.disk = .ok none := by rw [readInstallState, hopen.state]
  simp only [SetupWorld.afterCrash, if_pos, restart, prepareBootEnvironment, hstate]
  cases readInstallSecrets w.disk <;> rfl

/-- **The setup after a crash** is open just if the process that starts offers it. -/
theorem setupOpen_afterCrash (hopen : SetupOpen w) :
    SetupOpen (w.afterCrash platform crashes) ↔
      (crashes = true → OffersSetup platform w.disk (w.database.tables platform)) := by
  cases crashes with
  | false => exact iff_of_true hopen (absurd · Bool.false_ne_true)
  | true =>
      have hprocess := process_afterCrash platform hopen
      rw [OffersSetup, ← resolveBootMode_setup_iff]
      constructor
      · intro h _
        obtain ⟨bootMode, hup, hinstalled, hlegacy⟩ := h.process
        rw [hprocess] at hup
        cases hsecrets : readInstallSecrets w.disk with
        | error error =>
            rw [hsecrets] at hup
            cases hup
        | ok secrets =>
            rw [hsecrets] at hup
            obtain rfl := Process.up.inj hup
            refine ⟨⟨secrets, rfl⟩, ?_⟩
            cases hmode : resolveBootMode platform.launchEnv
                (legacyTables platform (w.database.tables platform)) none with
            | setup => rfl
            | installed => exact absurd (congrArg some hmode) hinstalled
            | legacy => exact absurd (congrArg some hmode) hlegacy
      · intro h
        obtain ⟨⟨secrets, hsecrets⟩, hmode⟩ := h rfl
        refine ⟨⟨some .setup, ?_, by simp, by simp⟩, ?_, ?_⟩
        · rw [hprocess, hsecrets, Except.map, hmode]
        · rw [afterCrash_disk]
          exact hopen.transition
        · rw [afterCrash_disk]
          exact hopen.state

end Crashes

/-! ## Where an installation may stop -/

/-- An installation does the first effects of the migrations and the saves, or none if its
surroundings fail. -/
theorem stoppedInstall_eq (hcheck : checkInstall platform {} w dto = .ok timezone)
    (host : SetupHost) (input : InstallInput) (n : ℕ) :
    stoppedInstall platform host w dto input n =
      (((pendingMigrations platform w.database).map InstallEffect.migrate ++
        savedEffects platform w.disk dto timezone input).take
          (effectsDone platform host w.database n)).foldl InstallEffect.apply w := by
  obtain ⟨hopen, htimezone, -, husable⟩ := checkInstall_iff.mp hcheck
  rw [stoppedInstall, effectsDone]
  by_cases hpasses : host.passes platform w.database = true
  · rw [install_of_check (checkInstall_iff.mpr ⟨hopen, htimezone, hpasses, husable⟩),
      if_pos hpasses]
  · rw [if_neg hpasses]
    cases hinstall : install platform host w dto input with
    | error error => rfl
    | ok effects =>
        obtain ⟨timezone', hchecked, -⟩ := bind_eq_ok.mp hinstall
        exact absurd (checkInstall_iff.mp hchecked).2.2.1 hpasses

/-- **Before the first row.** -/
theorem allOrRetry_migrated (hschema : CreatesRuntimeTables platform)
    (hvalid : ValidRequest platform dto) (input : InstallInput) (hopen : SetupOpen w)
    {done : ℕ} {w' : SetupWorld} (hmigrated : Migrated platform w done w') (crashes : Bool) :
    AllOrRetry platform (w'.afterCrash platform crashes) ↔
      (tablesAt platform (w.database.migrated + done) = [] ∨ ∀ name ∈ runtimeTables,
        name ∈ tablesAt platform (w.database.migrated + done)) ∧
      (crashes = true → OffersSetup platform w.disk
        (tablesAt platform (w.database.migrated + done))) := by
  have htables : w'.database.tables platform = tablesAt platform (w.database.migrated + done) := by
    rw [Database.tables, hmigrated.migrated]
  have hopen' : SetupOpen w' := by
    refine ⟨?_, ?_, ?_⟩
    · rw [hmigrated.process]
      exact hopen.process
    · rw [hmigrated.disk]
      exact hopen.transition
    · rw [hmigrated.disk]
      exact hopen.state
  have hincomplete : ¬Complete (w'.afterCrash platform crashes) := by
    intro h
    obtain ⟨state, hstate⟩ := h.state
    rw [afterCrash_disk, readInstallState, hopen'.state] at hstate
    cases hstate
  rw [AllOrRetry, or_iff_left hincomplete, canRetry_iff hschema hvalid input,
    setupOpen_afterCrash platform crashes hopen', afterCrash_database,
    usable_iff hmigrated.nothing, htables, hmigrated.disk, and_comm]

/-- **From the first row on.** -/
theorem allOrRetry_saved (hschema : CreatesRuntimeTables platform)
    (hvalid : ValidRequest platform dto) (input : InstallInput) (timezone : String)
    (hw : Ready platform w) {j : ℕ} (hj : 1 ≤ j) (crashes : Bool) :
    AllOrRetry platform
        ((savedWorld platform w dto timezone input j).afterCrash platform crashes) ↔
      7 ≤ j ∨ (5 ≤ j ∧ ∀ key ∈ installSecretKeys, (readableEnv w.disk key).isSome = true) := by
  rw [AllOrRetry, canRetry_iff hschema hvalid input, complete_afterCrash, afterCrash_database]
  by_cases hwritten : 7 ≤ j
  · exact iff_of_true (.inr (complete_savedWorld dto input timezone hw hwritten))
      (.inl hwritten)
  by_cases hrows : j ≤ 4
  · -- there are rows, and no state
    obtain ⟨hunusable, hstate⟩ := savedWorld_rows dto input timezone hw hj hrows
    refine iff_of_false ?_ (by omega)
    rintro (⟨-, husable⟩ | hcomplete)
    · exact hunusable husable
    · obtain ⟨state, hread⟩ := hcomplete.state
      rw [readInstallState, hstate] at hread
      cases hread
  · -- the state is there, so the setup is closed
    have hclosed : ¬SetupOpen
        ((savedWorld platform w dto timezone input j).afterCrash platform crashes) := by
      intro h
      have hmissing := h.state
      rw [afterCrash_disk,
        (savedWorld_between dto input timezone hw (by omega) (by omega)).1] at hmissing
      cases hmissing
    rw [or_iff_right fun h => hclosed h.1,
      complete_savedWorld_between dto input timezone hw (by omega) (by omega),
      or_iff_right hwritten]
    exact (and_iff_right (by omega)).symm

/-- **An installation that stops can be retried or is complete if and only if it stopped before
its first row, where the setup stays open, or with both of its files in place.** -/
theorem allOrRetry_iff {Token : Type} (platform : SetupPlatform Token)
    (hschema : CreatesRuntimeTables platform) {w : SetupWorld} {dto : InstallSetupDto}
    {timezone : String} (hcheck : checkInstall platform {} w dto = .ok timezone)
    (host : SetupHost) (input : InstallInput) (n : ℕ) (crashes : Bool) :
    AllOrRetry platform (afterInstall platform host w dto input n crashes) ↔
      StopsSafely platform w (effectsDone platform host w.database n) crashes := by
  obtain ⟨hopen, htimezone, -, husable⟩ := checkInstall_iff.mp hcheck
  have hnothing := holdsNothing_of_usable husable
  have hvalid : ValidRequest platform dto := ⟨timezone, htimezone⟩
  rw [afterInstall, stoppedInstall_eq hcheck]
  generalize effectsDone platform host w.database n = done
  by_cases hdone : done ≤ (pendingMigrations platform w.database).length
  · have hmigrated := migrated_run
      (List.take_append_drop done (pendingMigrations platform w.database)).symm hnothing
    rw [List.length_take, Nat.min_eq_left hdone] at hmigrated
    have htake : ((pendingMigrations platform w.database).map InstallEffect.migrate ++
        savedEffects platform w.disk dto timezone input).take done =
          ((pendingMigrations platform w.database).take done).map InstallEffect.migrate := by
      rw [List.take_append_of_le_length (by rwa [List.length_map]), List.map_take]
    rw [htake, allOrRetry_migrated hschema hvalid input hopen hmigrated crashes, StopsSafely]
    have hwritten : ¬(pendingMigrations platform w.database).length + 7 ≤ done := by omega
    have hbetween : ¬(pendingMigrations platform w.database).length + 5 ≤ done := by omega
    simp only [hdone, hwritten, hbetween, true_and, false_and, false_or]
  · obtain ⟨j, rfl⟩ : ∃ j, done = (pendingMigrations platform w.database).length + j :=
      ⟨done - (pendingMigrations platform w.database).length, by omega⟩
    have hmigrated := migrated_run (List.append_nil (pendingMigrations platform w.database)).symm
      hnothing
    have htake : ((pendingMigrations platform w.database).map InstallEffect.migrate ++
        savedEffects platform w.disk dto timezone input).take
          ((pendingMigrations platform w.database).length + j) =
        (pendingMigrations platform w.database).map InstallEffect.migrate ++
          (savedEffects platform w.disk dto timezone input).take j := by
      rw [← List.length_map (f := InstallEffect.migrate), List.take_length_add_append]
    have hsaved := allOrRetry_saved hschema hvalid input timezone
      (ready_of_migrated hschema hopen hmigrated) (by omega : 1 ≤ j) crashes
    rw [savedWorld, hmigrated.disk] at hsaved
    rw [htake, List.foldl_append, hsaved, StopsSafely]
    simp only [Nat.add_le_add_iff_left, hdone, false_and, or_false]

/-- The tables of the repository's own migrations, after TypeORM's table of what is done. -/
def baselineMigrations : List (List String) :=
  [["migrations"],
    ["workspaces", "workspace_memberships", "teams", "team_memberships", "users",
      "user_invitations", "password_reset_tokens", "terminal_sessions", "terminal_session_chunks",
      "tasks", "task_templates", "task_logs", "scheduled_tasks", "nodes", "node_installs",
      "enrollments", "metrics", "log_monitor_rules", "log_monitor_cursors", "incidents",
      "incident_analyses", "events", "outbox_events", "agent_update_rollouts",
      "agent_update_rollout_targets", "agent_task_lifecycle_events", "oidc_providers",
      "oidc_identities", "audit_logs"]]

/-- A process that is started without an environment. -/
def setupPlatform : SetupPlatform (JwtPayload × ℤ × ℤ) where
  toAccountPlatform := sampleAccountPlatform
  migrations := baselineMigrations
  launchEnv := []
  legacyDatabase := .unreachable

/-- A first installation. -/
def firstInstall : InstallSetupDto where
  postgres :=
    { host := "127.0.0.1", username := "postgres", password := "postgres", database := "noderax" }
  redis := { host := "127.0.0.1" }
  admin := ⟨"Noderax Admin", "admin@example.com", "ChangeMe123!"⟩
  workspace := ⟨"Acme Operations", "acme-ops", "UTC"⟩
  mail := ⟨"", 587, false, "", "", "info@noderax.net", "Noderax", "https://app.noderax.net"⟩

/-- What it draws. -/
def firstInput : InstallInput where
  processEnv := []
  adminId := "u1"
  workspaceId := "w1"
  membershipId := "m1"
  salt := "salt"
  secretsEncryptionKey := "encryption-secret"
  jwtSecret := "jwt-secret"
  agentEnrollmentToken := "agent-secret"
  now := 0
  installedAt := "2024-01-01T00:00:00.000Z"
  secretsUpdatedAt := "2024-01-01T00:00:00.000Z"
  transitionUpdatedAt := "2024-01-01T00:00:00.000Z"

/-- A crash before the first row. -/
theorem allOrRetry_beforeRows :
    AllOrRetry setupPlatform (afterInstall setupPlatform {} {} firstInstall firstInput 2 true) := by
  have hschema : ∀ name ∈ runtimeTables, name ∈ setupPlatform.migrations.flatten := by decide
  have hcheck : checkInstall setupPlatform {} {} firstInstall = .ok "UTC" := by decide +kernel
  refine (allOrRetry_iff setupPlatform hschema hcheck {} firstInput 2 true).mpr ?_
  refine .inr (.inr ⟨le_rfl, .inr hschema, fun _ => ⟨⟨none, rfl⟩, .inr (.inl ?_)⟩⟩)
  decide +kernel

/-- A crash after the save of the administrator leaves a database that is neither empty nor
recoverable. -/
theorem crashAfterAdmin_refused :
    (¬ ∀ (Token : Type) (platform : SetupPlatform Token), CreatesRuntimeTables platform →
      ∀ (w : SetupWorld) (dto : InstallSetupDto) (timezone : String),
        checkInstall platform {} w dto = .ok timezone →
        ∀ (host : SetupHost) (input : InstallInput) (n : ℕ) (crashes : Bool),
          AllOrRetry platform (afterInstall platform host w dto input n crashes)) ∧
    (checkInstall setupPlatform {}
      (afterInstall setupPlatform {} {} firstInstall firstInput 3 true) firstInstall).toOption
        = none := by
  have hrefused : (checkInstall setupPlatform {}
      (afterInstall setupPlatform {} {} firstInstall firstInput 3 true) firstInstall).toOption
        = none := by decide +kernel
  refine ⟨fun hall => ?_, hrefused⟩
  have hschema : ∀ name ∈ runtimeTables, name ∈ setupPlatform.migrations.flatten := by decide
  have hsafe := hall _ setupPlatform hschema {} firstInstall "UTC" (by decide +kernel) {}
    firstInput 3 true
  obtain hretry | hcomplete := hsafe
  · obtain ⟨effects, hinstall, -⟩ := hretry firstInstall firstInput ⟨"UTC", by decide +kernel⟩
    obtain ⟨timezone, hcheck, -⟩ := bind_eq_ok.mp hinstall
    rw [hcheck] at hrefused
    cases hrefused
  · obtain ⟨state, hstate⟩ := hcomplete.state
    cases hstate

end SetupService
