/-
# What the retention keeps

The value of a key reaches a cleanup from the install state, from its temporary file, from an update
that has read it and not yet written it, and from the environments of the processes.  `SourcesHold`
says that every one of these gives a good value; every step keeps it, in any interleaving of updates
that may stop between two steps on a file.

**`window_kept`**: where no source and no update has fewer days than a window, a metric is in its
table for as long.  **`disabled_keeps_metrics`**: where none enables the cleanup, and no operator
runs it, no metric is deleted.  **`settings_follow_update`**: after an update of the retention every
process reads what it has set, whatever else is saved or started again.
-/
import NoderaxApi.MetricsRetention

namespace MetricsRetentionService

open Install Interleaving PlatformSettingsService Runs

/-! ## Values -/

theorem isDigit_of_mem_toDigits {n : ℕ} {c : Char} (hc : c ∈ Nat.toDigits 10 n) :
    c.isDigit = true :=
  Nat.isDigit_of_mem_toDigits (by decide) (by decide) hc

/-- A digit is not white space, and no sign. -/
theorem digit_cases {c : Char} (hc : c.isDigit = true) :
    isJsWhitespace c = false ∧ c ≠ '-' ∧ c ≠ '+' := by
  refine ⟨?_, ?_, ?_⟩
  · rw [Bool.eq_false_iff]
    intro hblank
    have hrange := range_of_isJsWhitespace hblank
    simp only [Char.isDigit, Bool.and_eq_true, decide_eq_true_eq, UInt32.le_iff_toNat_le] at hc
    have hlower : (48 : ℕ) ≤ c.val.toNat := hc.1
    have hupper : c.val.toNat ≤ 57 := hc.2
    omega
  · rintro rfl
    exact absurd hc (by decide)
  · rintro rfl
    exact absurd hc (by decide)

/-- **What `String` writes of a number, `parseInt` reads.** -/
theorem parseInt_toString {n : ℕ} (h : n < infinityBound) :
    parseInt (toString n) = some (n : ℤ) := by
  have hdigits := @isDigit_of_mem_toDigits n
  have htext : (toString n).toList = Nat.toDigits 10 n := Nat.toList_repr
  obtain ⟨first, rest, heq⟩ := List.exists_cons_of_ne_nil (Nat.toDigits_ne_nil (n := n) (b := 10))
  have hfirst := digit_cases (hdigits (c := first) (heq ▸ List.mem_cons_self))
  have hdrop : (Nat.toDigits 10 n).dropWhile isJsWhitespace = Nat.toDigits 10 n := by
    rw [heq, List.dropWhile_cons, hfirst.1]
    rfl
  have hsign : splitSign (Nat.toDigits 10 n) = (false, Nat.toDigits 10 n) := by
    rw [heq]
    unfold splitSign
    split
    · next hminus => exact absurd (List.cons.inj hminus).1 hfirst.2.1
    · next hplus => exact absurd (List.cons.inj hplus).1 hfirst.2.2
    · rfl
  have htake : (Nat.toDigits 10 n).takeWhile Char.isDigit = Nat.toDigits 10 n :=
    List.takeWhile_eq_self_iff.mpr fun c hc => hdigits hc
  simp only [parseInt, htext, hdrop, hsign, htake, Nat.ofDigitChars_ten_toDigits]
  rw [if_neg, if_neg Bool.false_ne_true]
  simp [Nat.toDigits_ne_nil, h]

theorem clampRetentionDays_bounds (value : ℤ) :
    1 ≤ clampRetentionDays value ∧ clampRetentionDays value ≤ 3650 := by
  simp only [clampRetentionDays, minRetentionDays, maxRetentionDays]
  omega

theorem clampRetentionDays_clamped (value : ℤ) :
    clampRetentionDays (clampRetentionDays value) = clampRetentionDays value := by
  simp only [clampRetentionDays, minRetentionDays, maxRetentionDays]
  omega

/-- The days of an update are read back. -/
theorem parseRetentionDays_toString (value : ℤ) :
    parseRetentionDays (some (toString (clampRetentionDays value))) = clampRetentionDays value := by
  obtain ⟨hlower, hupper⟩ := clampRetentionDays_bounds value
  obtain ⟨n, hn⟩ := Int.eq_ofNat_of_zero_le (show 0 ≤ clampRetentionDays value by omega)
  have hbound : n < infinityBound := by
    have hmax : (3650 : ℕ) < infinityBound := by decide +kernel
    omega
  rw [parseRetentionDays, Option.getD_some, hn]
  have hread : parseInt (toString (n : ℤ)) = some (n : ℤ) := parseInt_toString hbound
  rw [hread, ← hn]
  exact clampRetentionDays_clamped value

theorem parseBoolean_toString (b fallback : Bool) :
    parseBoolean (some (toString b)) fallback = b := by
  cases b <;> rfl

/-! ## Keys -/

/-- The two keys. -/
def retentionKeys : List String := [retentionEnabledEnvKey, retentionDaysEnvKey]

theorem plain_of_retentionKey : ∀ key ∈ retentionKeys,
    key ≠ installerManagedFlag ∧ key ≠ bootModeEnv ∧ key ∉ platformSettingsEnvKeys ∧
      key ∉ aliasKeys databaseEnvAliases ∧ key ∉ installSecretKeys := by
  decide

/-- Nothing is preferred over a saved value of the retention. -/
theorem not_preferred_of_retentionKey {key : String} (hkey : key ∈ retentionKeys)
    (current : Option String) (saved : String) :
    shouldPreferProcessEnvOverInstallState key current saved = false := by
  have hother : ∀ key ∈ retentionKeys, key ∉ ["CORS_ORIGIN", "SWAGGER_ENABLED", "JWT_SECRET",
      "SECRETS_ENCRYPTION_KEY", "ADMIN_EMAIL", "ADMIN_PASSWORD", "SEED_DEFAULT_ADMIN",
      "AGENT_ENROLLMENT_TOKEN"] := by decide
  have hnot := hother key hkey
  simp only [List.mem_cons, List.not_mem_nil, or_false, not_or] at hnot
  simp [shouldPreferProcessEnvOverInstallState, hnot]

/-- The platform settings have no value for the retention. -/
theorem get_serializeSettings {key : String} (hkey : key ∈ retentionKeys)
    (dto : UpdatePlatformSettingsDto) : (serializeSettings dto).get key = none := by
  simp only [retentionKeys, List.mem_cons, List.not_mem_nil, or_false] at hkey
  rcases hkey with rfl | rfl <;> rfl

theorem get_retentionFields (dto : UpdateMetricsRetentionDto) :
    (retentionFields dto).get retentionEnabledEnvKey = some (toString dto.enabled) ∧
      (retentionFields dto).get retentionDaysEnvKey
        = some (toString (clampRetentionDays dto.retentionDays)) :=
  ⟨rfl, rfl⟩

/-- **What a process has for the retention after a start**: what is saved, or else what it was
started with. -/
theorem get_preparedEnv_retention {key : String} (hkey : key ∈ retentionKeys)
    {env booted : EnvRecord} {found : Option (List String)} {disk : InstallDisk}
    (hboot : preparedEnv env found disk = .ok booted) :
    ∃ state secrets, readInstallState disk = .ok state ∧ readInstallSecrets disk = .ok secrets ∧
      booted.get key
        = (EnvRecord.get (secrets.getD []) key).or (managedOr (managedEnvOf state) env key) := by
  obtain ⟨hflag, hmode, -, halias, -⟩ := plain_of_retentionKey key hkey
  obtain ⟨state, hstate, hrest⟩ := bind_eq_ok.mp hboot
  obtain ⟨bootMode, -, hrest⟩ := bind_eq_ok.mp hrest
  obtain ⟨secrets, hsecrets, hrest⟩ := bind_eq_ok.mp hrest
  obtain rfl := Except.ok.inj hrest
  refine ⟨state, secrets, hstate, hsecrets, ?_⟩
  have hresolved : (resolvedEnv env state).get key = env.get key := by
    unfold resolvedEnv
    split
    · rfl
    · exact get_foldl_normalizeAlias_of_not_mem aliasKeys_nodup env halias
  have hnormal : ∀ env : EnvRecord, (normalizeDatabaseEnvAliases env).get key = env.get key :=
    fun env => get_foldl_normalizeAlias_of_not_mem aliasKeys_nodup env halias
  have hlayered : ∀ current saved, layered key current saved = saved.or current :=
    fun current saved => layered_eq key current saved fun value _ =>
      not_preferred_of_retentionKey hkey current value
  rw [get_set, if_neg hmode, hnormal, get_overlaidEnv hflag, hlayered, hlayered, hresolved,
    get_getD_nil, managedOr, managedEnvOf, get_getD_nil, Option.bind_map]
  rfl

/-! ## Sources -/

section Sources

variable (key : String) (G : Option String → Prop)

/-- Where an environment has the key, its value is a good one. -/
def Gives (env : EnvRecord) : Prop := ∀ value, env.get key = some value → G (some value)

/-- What the processes have for the key is good, now and when they start again. -/
def FallsBack (w : RetentionWorld) : Prop :=
  ∀ i, G ((w.processes i).env.get key) ∧ G ((w.processes i).baseEnv.get key)

/-- A managed environment gives every process a good value, or leaves it with one. -/
def Supplies (w : RetentionWorld) (managedEnv : EnvRecord) : Prop :=
  Gives key G managedEnv ∧ (managedEnv.get key = none → FallsBack key G w)

/-- So does what is read in a file of the state. -/
def StateSupplies (w : RetentionWorld) (state : FileContents InstallStateFile) : Prop :=
  ∀ found, readInstallState { state } = .ok found → Supplies key G w (managedEnvOf found)

/-- What is read in a file of the secrets is good, if it has the key at all. -/
def SecretsGive (secrets : FileContents InstallSecretsFile) : Prop :=
  ∀ found, readInstallSecrets { secrets } = .ok found → Gives key G (found.getD [])

/-- **Every source gives the key a good value.** -/
structure SourcesHold (w : RetentionWorld) : Prop where
  state : StateSupplies key G w w.disk.state
  stateTemp : w.disk.stateTemp.exists = true → StateSupplies key G w w.disk.stateTemp
  secrets : SecretsGive key G w.disk.secrets
  secretsTemp : SecretsGive key G w.disk.secretsTemp

/-- What an operation writes is good. -/
def WritesGood (w : RetentionWorld) : FileOperation → Prop
  | .writeStateTemp file => StateSupplies key G w (.holds file)
  | .writeSecretsTemp file => SecretsGive key G (.holds file)
  | _ => True

end Sources

section

variable {key : String} {G : Option String → Prop} {w w' : RetentionWorld}

theorem StateSupplies.mono {state : FileContents InstallStateFile} (h : StateSupplies key G w state)
    (hfall : FallsBack key G w → FallsBack key G w') : StateSupplies key G w' state :=
  fun found hfound => ⟨(h found hfound).1, fun hnone => hfall ((h found hfound).2 hnone)⟩

theorem WritesGood.mono {operation : FileOperation} (h : WritesGood key G w operation)
    (hfall : FallsBack key G w → FallsBack key G w') : WritesGood key G w' operation := by
  cases operation with
  | writeStateTemp file => exact StateSupplies.mono h hfall
  | writeSecretsTemp file => exact h
  | _ => trivial

theorem stateSupplies_garbled : StateSupplies key G w .garbled := by
  intro found hfound
  cases hfound

theorem secretsGive_garbled : SecretsGive key G .garbled := by
  intro found hfound
  cases hfound

theorem secretsGive_missing : SecretsGive key G .missing := by
  intro found hfound value hvalue
  obtain rfl := Except.ok.inj hfound
  cases hvalue

/-- The sources are good still where only the processes have changed. -/
theorem SourcesHold.mono (h : SourcesHold key G w) (hdisk : w'.disk = w.disk)
    (hfall : FallsBack key G w → FallsBack key G w') : SourcesHold key G w' where
  state := hdisk ▸ h.state.mono hfall
  stateTemp := fun hexists => by
    rw [hdisk] at hexists ⊢
    exact (h.stateTemp hexists).mono hfall
  secrets := hdisk ▸ h.secrets
  secretsTemp := hdisk ▸ h.secretsTemp

/-- **What a process reads is good.** -/
theorem SourcesHold.reading (h : SourcesHold key G w) {found : Option InstallState}
    (hfound : readInstallState w.disk = .ok found) (i : ProcessId) :
    G (managedOr (managedEnvOf found) (w.processes i).env key) := by
  obtain ⟨hgives, hfalls⟩ := h.state found hfound
  rw [managedOr]
  cases hget : (managedEnvOf found).get key with
  | none => exact (hfalls hget i).1
  | some value => exact hgives value hget

/-! ## Writing -/

/-- What is read in a state that was written. -/
theorem managedEnv_persisted {source installedAt : String} {managedEnv : EnvRecord}
    {found : Option InstallState}
    (hfound : readInstallState { state := .holds (persistedState source installedAt managedEnv) }
      = .ok found) : managedEnvOf found = managedEnv := by
  by_cases hsource : source = "installer"
  · subst hsource
    obtain rfl := Except.ok.inj hfound
    rfl
  · simp [readInstallState, persistedState, hsource] at hfound

/-- A state with an environment supplies what the environment does. -/
theorem stateSupplies_persisted {managedEnv : EnvRecord} (h : Supplies key G w managedEnv)
    (source installedAt : String) :
    StateSupplies key G w (.holds (persistedState source installedAt managedEnv)) := by
  intro found hfound
  rw [managedEnv_persisted hfound]
  exact h

/-- The file operations of a state write good values if the environment does. -/
theorem writesGood_state {managedEnv : EnvRecord} (h : Supplies key G w managedEnv)
    (source installedAt : String) :
    ∀ operation ∈ writeInstallState source installedAt managedEnv,
      WritesGood key G w operation := by
  intro operation hmem
  simp only [writeInstallState, List.mem_cons, List.not_mem_nil, or_false] at hmem
  rcases hmem with rfl | rfl
  · exact stateSupplies_persisted h source installedAt
  · exact trivial

/-- The secrets that are written have no key of the retention. -/
theorem writesGood_secrets (hkey : key ∈ retentionKeys) (env : EnvRecord) (now : String) :
    ∀ operation ∈ writeInstallSecrets w.disk (splitInstallerEnv env).secretEnv now,
      WritesGood key G w operation := by
  have hnone : (splitInstallerEnv env).secretEnv.get key = none := by
    have hplain : isSecretKey key = false :=
      decide_eq_false (plain_of_retentionKey key hkey).2.2.2.2
    rw [get_secretEnv, hplain, if_neg Bool.false_ne_true]
  intro operation hmem
  unfold writeInstallSecrets at hmem
  split at hmem
  · split at hmem
    · rw [List.mem_singleton.mp hmem]
      exact trivial
    · exact absurd hmem List.not_mem_nil
  · simp only [List.mem_cons, List.not_mem_nil, or_false] at hmem
    rcases hmem with rfl | rfl
    · intro found hfound value hvalue
      rw [readInstallSecrets_payload rfl] at hfound
      obtain rfl := Except.ok.inj hfound
      rw [Option.getD_some, hnone] at hvalue
      cases hvalue
    · exact trivial

/-- **What an update of the retention writes.** -/
theorem updateSettings_ok {process : RetentionProcess} {disk : InstallDisk}
    {dto : UpdateMetricsRetentionDto} {now : String} {operations : List FileOperation}
    (h : updateSettings process disk dto now = .ok operations) :
    ∃ found installedAt, readInstallState disk = .ok found ∧
      operations = writeInstallState "installer" installedAt
        ((managedEnvOf found).spread (retentionFields dto)) := by
  obtain ⟨editable, -, hrest⟩ := bind_eq_ok.mp h
  split at hrest
  · cases hrest
  obtain ⟨previous, -, hrest⟩ := bind_eq_ok.mp hrest
  obtain ⟨found, hfound, hrest⟩ := bind_eq_ok.mp hrest
  rw [orFileError_ok] at hfound
  have hsource : (found.map InstallState.source).getD "installer" = "installer" := by
    cases found with
    | none => rfl
    | some state => exact source_of_readInstallState hfound
  rw [hsource] at hrest
  exact ⟨found, _, hfound, (Except.ok.inj hrest).symm⟩

/-- An update of the retention writes good values if its own are. -/
theorem SourcesHold.writesGood_update (h : SourcesHold key G w) {process : RetentionProcess}
    {dto : UpdateMetricsRetentionDto} (hdto : Gives key G (retentionFields dto)) {now : String}
    {operations : List FileOperation}
    (hok : updateSettings process w.disk dto now = .ok operations) :
    ∀ operation ∈ operations, WritesGood key G w operation := by
  obtain ⟨found, installedAt, hfound, rfl⟩ := updateSettings_ok hok
  obtain ⟨hgives, hfalls⟩ := h.state found hfound
  refine writesGood_state ⟨?_, ?_⟩ _ _
  · intro value hvalue
    rw [get_spread] at hvalue
    rcases Option.or_eq_some_iff.mp hvalue with hnew | ⟨-, hold⟩
    · exact hdto value hnew
    · exact hgives value hold
  · intro hnone
    rw [get_spread, Option.or_eq_none_iff] at hnone
    exact hfalls hnone.2

/-- **What an update of the platform settings writes for the retention**: what is saved. -/
theorem SourcesHold.writesGood_platform (hkey : key ∈ retentionKeys) (h : SourcesHold key G w)
    {processEnv : EnvRecord} {dto : UpdatePlatformSettingsDto} {now : String}
    {operations : List FileOperation}
    (hok : PlatformSettingsService.updateSettings processEnv w.disk dto now = .ok operations) :
    ∀ operation ∈ operations, WritesGood key G w operation := by
  obtain ⟨hflag, -, hplatform, -, hsecret⟩ := plain_of_retentionKey key hkey
  obtain ⟨editable, -, hrest⟩ := bind_eq_ok.mp hok
  split at hrest
  · cases hrest
  obtain ⟨found, hfound, hrest⟩ := bind_eq_ok.mp hrest
  obtain ⟨currentEnv, hcurrent, hrest⟩ := bind_eq_ok.mp hrest
  obtain ⟨found', hfound', hcurrent⟩ := bind_eq_ok.mp hcurrent
  obtain ⟨secrets, hsecrets, hcurrent⟩ := bind_eq_ok.mp hcurrent
  rw [orFileError_ok] at hfound hfound' hsecrets
  obtain rfl := Except.ok.inj (hfound.symm.trans hfound')
  obtain rfl := Except.ok.inj hcurrent
  obtain rfl := Except.ok.inj hrest
  obtain ⟨hgives, hfalls⟩ := h.state found hfound
  have hsecretsGive := h.secrets secrets hsecrets
  -- neither the request nor the environment of the process has the key
  have hprocess : EnvRecord.get
      (platformSettingsEnvKeys.map fun key => (key, (processEnv.get key).getD "")) key = none := by
    rw [get_map_keys fun key => (processEnv.get key).getD "", if_neg hplatform]
  have hinstalled : EnvRecord.get [(installerManagedFlag, "true")] key = none := by
    rw [get_cons, if_neg hflag]
    rfl
  intro operation hmem
  rcases List.mem_append.mp hmem with hstate | hwrite
  · refine writesGood_state ?_ _ _ operation hstate
    have hget : ∀ env : EnvRecord, (splitInstallerEnv env).managedEnv.get key = env.get key := by
      intro env
      have hplain : isSecretKey key = false := decide_eq_false hsecret
      rw [get_managedEnv, hplain, if_neg Bool.false_ne_true]
    rw [Supplies, Gives, hget, get_spread, get_spread, get_spread, get_spread, hinstalled,
      get_serializeSettings hkey, hprocess, Option.none_or, Option.none_or, Option.or_none]
    refine ⟨?_, ?_⟩
    · intro value hvalue
      rcases Option.or_eq_some_iff.mp hvalue with hnew | ⟨-, hold⟩
      · exact hsecretsGive value hnew
      · exact hgives value hold
    · intro hnone
      exact hfalls (Option.or_eq_none_iff.mp hnone).2
  · exact writesGood_secrets hkey _ _ operation hwrite

/-- A temporary file is opened. -/
theorem SourcesHold.opened (h : SourcesHold key G w) {operation : FileOperation}
    {disk : InstallDisk} (hopen : opened? w.disk operation = some disk) :
    SourcesHold key G { w with disk } := by
  cases operation <;> simp only [opened?, Option.some.injEq, reduceCtorEq] at hopen
  case writeStateTemp file =>
    subst hopen
    exact ⟨h.state, fun _ => stateSupplies_garbled, h.secrets, h.secretsTemp⟩
  case writeSecretsTemp file =>
    subst hopen
    exact ⟨h.state, h.stateTemp, h.secrets, secretsGive_garbled⟩
  case writeTransitionTemp file =>
    subst hopen
    exact ⟨h.state, h.stateTemp, h.secrets, h.secretsTemp⟩

/-- An operation that writes good values is applied. -/
theorem SourcesHold.applied (h : SourcesHold key G w) {operation : FileOperation}
    (hwrites : WritesGood key G w operation) (hcan : canApply w.disk operation = true) :
    SourcesHold key G { w with disk := operation.apply w.disk } := by
  cases operation with
  | writeStateTemp file => exact ⟨h.state, fun _ => hwrites, h.secrets, h.secretsTemp⟩
  | renameState =>
      refine ⟨h.stateTemp hcan, ?_, h.secrets, h.secretsTemp⟩
      intro hexists
      cases hexists
  | writeSecretsTemp file => exact ⟨h.state, h.stateTemp, h.secrets, hwrites⟩
  | renameSecrets => exact ⟨h.state, h.stateTemp, h.secretsTemp, secretsGive_missing⟩
  | unlinkSecrets => exact ⟨h.state, h.stateTemp, secretsGive_missing, h.secretsTemp⟩
  | writeTransitionTemp file => exact ⟨h.state, h.stateTemp, h.secrets, h.secretsTemp⟩
  | renameTransition => exact ⟨h.state, h.stateTemp, h.secrets, h.secretsTemp⟩
  | unlinkTransition => exact ⟨h.state, h.stateTemp, h.secrets, h.secretsTemp⟩

/-! ## Policies -/

/-- What is asked of the requests and of the clocks of a run, and what its cleanups may do then. -/
structure CleanupPolicy (key : String) (G : Option String → Prop) where
  asks : RetentionRequest → Prop
  reads : RetentionInput → Prop
  days : ℤ → Prop
  cutoff : ℤ → Prop
  safe : MetricRow → Prop
  update : ∀ {i dto}, asks (.updateRetention i dto) → Gives key G (retentionFields dto)
  starts : ∀ {i} {scheduled : Bool} {value : String → Option String}, G (value key) →
    (scheduled = true → parseBoolean (value retentionEnabledEnvKey) false = true) →
    (scheduled = false → asks (.runCleanupNow i)) →
    days (parseRetentionDays (value retentionDaysEnvKey))
  cuts : ∀ {n inp}, days n → reads inp → cutoff (inp.now - n * dayMs)
  spares : ∀ {n row}, cutoff n → safe row → n ≤ row.recordedAt

variable (P : CleanupPolicy key G)

/-- What holds of a call that waits. -/
def CallHolds (w : RetentionWorld) : PendingRetentionCall → Prop
  | .writing _ _ rest fields =>
      (∀ operation ∈ rest, WritesGood key G w operation) ∧ Gives key G fields
  | .awaitingLock _ _ retentionDays => P.days retentionDays
  | .deleting _ _ cutoff => P.cutoff cutoff
  | .checkingTable _ | .recording _ _ _ => True

/-- The values of the processes stay good, and the safe metrics in their table. -/
structure MetricsKept (w w' : RetentionWorld) : Prop where
  fallsBack : FallsBack key G w → FallsBack key G w'
  metrics : ∀ row, P.safe row → row ∈ w.metrics → row ∈ w'.metrics

/-- A step that keeps them. -/
abbrev KeepsMetrics (w : RetentionWorld) (next : RetentionStep) : Prop :=
  Ascends (MetricsKept P) (SourcesHold key G) (CallHolds P) w next

variable {P}

theorem MetricsKept.refl (w : RetentionWorld) : MetricsKept P w w := ⟨id, fun _ _ => id⟩

theorem MetricsKept.trans {w'' : RetentionWorld} (h : MetricsKept P w w')
    (h' : MetricsKept P w' w'') : MetricsKept P w w'' :=
  ⟨h'.fallsBack ∘ h.fallsBack,
    fun row hsafe hrow => h'.metrics row hsafe (h.metrics row hsafe hrow)⟩

theorem CallHolds.mono {call : PendingRetentionCall} (hkept : MetricsKept P w w')
    (h : CallHolds P w call) : CallHolds P w' call := by
  cases call with
  | writing i isOpen rest fields =>
      exact ⟨fun operation hmem => (h.1 operation hmem).mono hkept.fallsBack, h.2⟩
  | _ => exact h

/-! ## Steps -/

/-- The values of the others are what they were. -/
theorem FallsBack.setProcess (h : FallsBack key G w) {i : ProcessId} {process : RetentionProcess}
    (henv : G (process.env.get key)) (hbase : G (process.baseEnv.get key)) :
    FallsBack key G (w.setProcess i process) := by
  intro j
  by_cases hj : j = i
  · subst hj
    rw [processes_setProcess_self]
    exact ⟨henv, hbase⟩
  · rw [processes_setProcess_of_ne w hj]
    exact h j

theorem callHolds_none : ∀ call, none = some call → CallHolds P w call := by
  intro call hcall
  cases hcall

theorem SourcesHold.ends (h : SourcesHold key G w) : KeepsMetrics P w (w, none) :=
  ⟨h, MetricsKept.refl w, callHolds_none⟩

theorem SourcesHold.waits (h : SourcesHold key G w) {call : PendingRetentionCall}
    (hcall : CallHolds P w call) : KeepsMetrics P w (w, some call) :=
  ⟨h, MetricsKept.refl w, fun _ heq => Option.some.inj heq ▸ hcall⟩

/-- A step that changes one process, whose values stay good. -/
theorem SourcesHold.sets (h : SourcesHold key G w) {i : ProcessId} {process : RetentionProcess}
    (hprocess : FallsBack key G w → G (process.env.get key) ∧ G (process.baseEnv.get key))
    {call : Option PendingRetentionCall} (hcall : ∀ l, call = some l → CallHolds P w l) :
    KeepsMetrics P w (w.setProcess i process, call) := by
  have hkept : MetricsKept P w (w.setProcess i process) :=
    ⟨fun hfall => hfall.setProcess (hprocess hfall).1 (hprocess hfall).2, fun _ _ => id⟩
  exact ⟨h.mono rfl hkept.fallsBack, hkept, fun l hl => (hcall l hl).mono hkept⟩

/-- A step that changes the files, which stay good. -/
theorem SourcesHold.writes {disk : InstallDisk} (h : SourcesHold key G { w with disk })
    {call : PendingRetentionCall} (hcall : CallHolds P w call) :
    KeepsMetrics P w ({ w with disk }, some call) := by
  have hkept : MetricsKept P w { w with disk } := ⟨id, fun _ _ => id⟩
  exact ⟨h, hkept, fun l hl => Option.some.inj hl ▸ hcall.mono hkept⟩

theorem SourcesHold.finish (h : SourcesHold key G w) (i : ProcessId) (scheduled : Bool) :
    KeepsMetrics P w (finish w i scheduled) := by
  unfold MetricsRetentionService.finish
  split
  · refine h.sets ?_ callHolds_none
    exact fun hfall => hfall i
  · exact h.ends

/-- **The next step of an update.** -/
theorem SourcesHold.resumeWriting (h : SourcesHold key G w) {i : ProcessId} {isOpen : Bool}
    {rest : List FileOperation} {fields : EnvRecord}
    (hcall : CallHolds P w (.writing i isOpen rest fields)) (inp : RetentionInput) :
    KeepsMetrics P w (resumeWriting i isOpen rest fields inp w) := by
  obtain ⟨hrest, hfields⟩ := hcall
  cases rest with
  | nil =>
      refine h.sets ?_ callHolds_none
      intro hfall
      refine ⟨?_, (hfall i).2⟩
      show G (((w.processes i).env.spread fields).get key)
      rw [get_spread]
      cases hget : fields.get key with
      | none => exact (hfall i).1
      | some value => exact hfields value hget
  | cons operation later =>
      simp only [MetricsRetentionService.resumeWriting]
      split
      · exact h.ends
      · next hcan =>
          rw [Bool.or_eq_true, not_or, Bool.not_eq_true', Bool.not_eq_true'] at hcan
          have happly : canApply w.disk operation = true := by
            rw [← Bool.not_eq_false]
            exact hcan.2
          split
          · next disk hopen =>
              have hopened : opened? w.disk operation = some disk := by
                cases isOpen with
                | true => cases hopen
                | false => exact hopen
              exact SourcesHold.writes (h.opened hopened) ⟨hrest, hfields⟩
          · exact SourcesHold.writes (h.applied (hrest operation List.mem_cons_self) happly)
              ⟨fun other hother => hrest other (List.mem_cons_of_mem _ hother), hfields⟩

/-- **What `getSettings` answers.** -/
theorem getSettings_ok {process : RetentionProcess} {disk : InstallDisk}
    {settings : RetentionSettings} (h : getSettings process disk = .ok settings) :
    ∃ found, readInstallState disk = .ok found ∧
      settings.enabled
        = parseBoolean (managedOr (managedEnvOf found) process.env retentionEnabledEnvKey) false ∧
      settings.retentionDays
        = parseRetentionDays (managedOr (managedEnvOf found) process.env retentionDaysEnvKey) := by
  obtain ⟨env, henv, hrest⟩ := bind_eq_ok.mp h
  obtain ⟨editable, -, hrest⟩ := bind_eq_ok.mp hrest
  rw [orFileError_ok] at henv
  obtain ⟨found, hfound, henv⟩ := bind_eq_ok.mp henv
  obtain rfl := Except.ok.inj henv
  obtain rfl := Except.ok.inj hrest
  exact ⟨found, hfound, rfl, rfl⟩

/-- **A cleanup starts** with days that it may have. -/
theorem SourcesHold.days (h : SourcesHold key G w) {i : ProcessId} {scheduled : Bool}
    {settings : RetentionSettings} (hsettings : getSettings (w.processes i) w.disk = .ok settings)
    (henabled : scheduled = true → settings.enabled = true)
    (hasks : scheduled = false → P.asks (.runCleanupNow i)) : P.days settings.retentionDays := by
  obtain ⟨found, hfound, henabledEq, hdays⟩ := getSettings_ok hsettings
  rw [hdays]
  rw [henabledEq] at henabled
  exact P.starts (h.reading hfound i) henabled hasks

theorem keepsMetrics_invoke (hkey : key ∈ retentionKeys) (h : SourcesHold key G w)
    {request : RetentionRequest} {inp : RetentionInput} (hasks : P.asks request) :
    KeepsMetrics P w (invokeRetention request inp w) := by
  cases request with
  | updateRetention i dto =>
      simp only [invokeRetention]
      split
      · exact h.ends
      · next operations hok =>
          exact h.waits ⟨h.writesGood_update (P.update hasks) hok, P.update hasks⟩
  | updatePlatform i dto =>
      simp only [invokeRetention]
      split
      · exact h.ends
      · next operations hok =>
          refine h.waits ⟨h.writesGood_platform hkey hok, ?_⟩
          intro value hvalue
          cases hvalue
  | runScheduledRetention i =>
      simp only [invokeRetention]
      split
      · exact h.ends
      · refine h.sets ?_ fun l hl => ?_
        · exact fun hfall => hfall i
        · obtain rfl := Option.some.inj hl
          exact trivial
  | runCleanupNow i =>
      simp only [invokeRetention]
      split
      · exact h.ends
      · next settings hsettings =>
          exact h.waits (h.days hsettings Bool.false_ne_true.elim fun _ => hasks)

theorem keepsMetrics_resume (h : SourcesHold key G w) {call : PendingRetentionCall}
    (hcall : CallHolds P w call) {inp : RetentionInput} (hreads : P.reads inp) :
    KeepsMetrics P w (resumeRetention call inp w) := by
  cases call with
  | writing i isOpen rest fields => exact h.resumeWriting hcall inp
  | checkingTable i =>
      simp only [resumeRetention]
      split
      · exact h.finish i true
      · next settings hsettings =>
          split
          · exact h.finish i true
          · next henabled =>
              rw [Bool.or_eq_true, not_or, Bool.not_eq_true', Bool.not_eq_true',
                Bool.not_eq_false, Bool.not_eq_false] at henabled
              have hdays : P.days settings.retentionDays := by
                refine h.days hsettings (fun _ : true = true => henabled.2) ?_
                intro hscheduled
                cases hscheduled
              exact h.waits hdays
  | awaitingLock i scheduled retentionDays =>
      simp only [resumeRetention]
      split
      · exact h.finish i scheduled
      · exact h.waits (P.cuts hcall hreads)
  | deleting i scheduled cutoff =>
      simp only [resumeRetention]
      split
      · exact h.finish i scheduled
      · refine ⟨h.mono rfl id, ⟨id, fun row hsafe hrow => ?_⟩, fun l hl => ?_⟩
        · exact List.mem_filter.mpr ⟨hrow, decide_eq_true (P.spares hcall hsafe)⟩
        · obtain rfl := Option.some.inj hl
          exact trivial
  | recording i scheduled deletedCount =>
      simp only [resumeRetention]
      have hset : KeepsMetrics P w (w.setProcess i { w.processes i with
          lastRunAt := some inp.now, lastDeletedCount := some deletedCount }, none) := by
        refine h.sets ?_ callHolds_none
        exact fun hfall => hfall i
      obtain ⟨hholds, hkept, hpending⟩ := hset.invariant.finish (P := P) i scheduled
      exact ⟨hholds, hset.ascent.trans hkept, hpending⟩

/-- **A process that starts again** has good values. -/
theorem keepsMetrics_env (hkey : key ∈ retentionKeys) (h : SourcesHold key G w)
    (e : RetentionEnvironment) :
    SourcesHold key G (retentionEnv e w) ∧ MetricsKept P w (retentionEnv e w) := by
  cases e with
  | ingest row =>
      exact ⟨h.mono rfl id, id, fun other _ hother => List.mem_append.mpr (.inl hother)⟩
  | restart i found =>
      simp only [retentionEnv]
      split
      · exact ⟨h, MetricsKept.refl w⟩
      · next env hboot =>
          have hset : KeepsMetrics P w
              (w.setProcess i { baseEnv := (w.processes i).baseEnv, env }, none) := by
            refine h.sets ?_ callHolds_none
            intro hfall
            refine ⟨?_, (hfall i).2⟩
            obtain ⟨state, secrets, hstate, hsecrets, hget⟩ := get_preparedEnv_retention hkey hboot
            show G (env.get key)
            rw [hget, managedOr]
            cases hsecret : EnvRecord.get (secrets.getD []) key with
            | some value => exact h.secrets secrets hsecrets value hsecret
            | none =>
                cases hmanaged : (managedEnvOf state).get key with
                | some value => exact (h.state state hstate).1 value hmanaged
                | none => exact (hfall i).2
          exact ⟨hset.invariant, hset.ascent⟩

variable (P) in
theorem retention_outline (hkey : key ∈ retentionKeys) :
    MonotoneOutline retentionCalls retentionEnv (fun _ request _ => P.asks request)
      (fun _ _ inp => P.reads inp) (fun _ _ => True) (MetricsKept P) (SourcesHold key G)
      (CallHolds P) where
  refl := MetricsKept.refl
  trans := MetricsKept.trans
  mono := CallHolds.mono
  invoke := fun h hasks => keepsMetrics_invoke hkey h hasks
  resume := fun h hcall hreads => keepsMetrics_resume h hcall hreads
  environment := fun h _ => keepsMetrics_env hkey h _

variable (P) in
/-- **A run that keeps to a policy** keeps the sources good and the safe metrics in their table. -/
theorem policy_run (hkey : key ∈ retentionKeys) {c : RetentionConfig}
    (hc : Good (SourcesHold key G) (CallHolds P) c) {es : List RetentionEvent}
    (hasks : ∀ p request inp, .invoke p request inp ∈ es → P.asks request)
    (hreads : ∀ p inp, .resume p inp ∈ es → P.reads inp) :
    Good (SourcesHold key G) (CallHolds P) (run retentionStep c es) ∧
      MetricsKept P c.world (run retentionStep c es).world := by
  refine (retention_outline P hkey).run hc (along_iff.mpr fun es₁ e es₂ hsplit => ?_)
  have hmem : e ∈ es := by simp [hsplit]
  cases e with
  | invoke p request inp => exact fun _ => hasks p request inp hmem
  | resume p inp => exact fun _ _ => hreads p inp hmem
  | env e => exact trivial

variable (P) in
/-- A safe metric that is there at the start, or is stored in the run, is there at its end. -/
theorem policy_keeps (hkey : key ∈ retentionKeys) (hw : SourcesHold key G w)
    {es : List RetentionEvent}
    (hasks : ∀ p request inp, .invoke p request inp ∈ es → P.asks request)
    (hreads : ∀ p inp, .resume p inp ∈ es → P.reads inp) {row : MetricRow} (hsafe : P.safe row)
    (hrow : row ∈ w.metrics ∨ .env (.ingest row) ∈ es) :
    row ∈ (run retentionStep (.idle w) es).world.metrics := by
  have hstart : Good (SourcesHold key G) (CallHolds P) (Config.idle w : RetentionConfig) :=
    good_idle hw
  rcases hrow with hrow | hingest
  · exact (policy_run P hkey hstart hasks hreads).2.metrics row hsafe hrow
  · -- the run up to the report, the report, and the rest
    obtain ⟨es₁, es₂, rfl⟩ := List.append_of_mem hingest
    have hfirst := policy_run P hkey hstart
      (fun p request inp hmem => hasks p request inp (List.mem_append.mpr (.inl hmem)))
      (fun p inp hmem => hreads p inp (List.mem_append.mpr (.inl hmem)))
    have hmid : Good (SourcesHold key G) (CallHolds P)
        (retentionStep (run retentionStep (.idle w) es₁) (.env (.ingest row))) :=
      (retention_outline P hkey).outline.step _ _ hfirst.1 trivial
    have hlater := policy_run P hkey hmid
      (fun p request inp hmem =>
        hasks p request inp (List.mem_append.mpr (.inr (List.mem_cons_of_mem _ hmem))))
      (fun p inp hmem => hreads p inp (List.mem_append.mpr (.inr (List.mem_cons_of_mem _ hmem))))
    rw [run_append, run_cons]
    refine hlater.2.metrics row hsafe ?_
    show row ∈ (run retentionStep (.idle w) es₁).world.metrics ++ [row]
    exact List.mem_append.mpr (.inr List.mem_cons_self)

end

/-! ## A window -/

/-- The days that are read are not fewer than the window. -/
def KeepsWindow (window : ℤ) (value : Option String) : Prop := window ≤ parseRetentionDays value

/-- An update sets no fewer days than the window. -/
def AsksWindow (window : ℤ) : RetentionRequest → Prop
  | .updateRetention _ dto => window ≤ clampRetentionDays dto.retentionDays
  | _ => True

/-- The updates of the run keep the window, and no clock is later than `latest` when a call goes
on. -/
def Within (window latest : ℤ) : RetentionEvent → Prop
  | .invoke _ request _ => AsksWindow window request
  | .resume _ inp => inp.now ≤ latest
  | .env _ => True

theorem retentionDays_mem : retentionDaysEnvKey ∈ retentionKeys := by decide

theorem retentionEnabled_mem : retentionEnabledEnvKey ∈ retentionKeys := by decide

/-- Cleanups delete only what is older than the window. -/
def windowPolicy (window latest : ℤ) :
    CleanupPolicy retentionDaysEnvKey (KeepsWindow window) where
  asks := AsksWindow window
  reads := fun inp => inp.now ≤ latest
  days := fun days => window ≤ days
  cutoff := fun cutoff => cutoff ≤ latest - window * dayMs
  safe := fun row => latest ≤ row.recordedAt + window * dayMs
  update := by
    intro i dto hasks value hvalue
    obtain rfl := Option.some.inj ((get_retentionFields dto).2.symm.trans hvalue)
    rw [KeepsWindow, parseRetentionDays_toString]
    exact hasks
  starts := fun hreading _ _ => hreading
  cuts := by
    intro days inp hdays hnow
    simp only [dayMs] at *
    omega
  spares := by
    intro cutoff row hcutoff hsafe
    simp only [dayMs] at *
    omega

/-- **A metric is kept for the window.**  Where no source of the settings and no update has fewer
days, and no clock is later than so many days after the metric was recorded, it is in its table. -/
theorem window_kept {window : ℤ} {w : RetentionWorld}
    (hw : SourcesHold retentionDaysEnvKey (KeepsWindow window) w) {es : List RetentionEvent}
    {row : MetricRow} (hes : ∀ e ∈ es, Within window (row.recordedAt + window * dayMs) e)
    (hrow : row ∈ w.metrics ∨ .env (.ingest row) ∈ es) :
    row ∈ (run retentionStep (.idle w) es).world.metrics := by
  refine policy_keeps (windowPolicy window (row.recordedAt + window * dayMs)) retentionDays_mem hw
    ?_ ?_ (Int.le_refl _) hrow
  · intro p request inp hmem
    exact hes _ hmem
  · intro p inp hmem
    exact hes _ hmem

/-- An installation whose retention is set, and one process. -/
def sampleWorld (managedEnv : EnvRecord) (metrics : List MetricRow) : RetentionWorld where
  disk := { state := .holds (persistedState "installer" "2026-07-04T12:35:00.000Z" managedEnv) }
  metrics

/-- The state of the installation is the only source. -/
theorem sourcesHold_sample {key : String} {G : Option String → Prop} {managedEnv : EnvRecord}
    {metrics : List MetricRow} {value : String} (hget : managedEnv.get key = some value)
    (hvalue : G (some value)) : SourcesHold key G (sampleWorld managedEnv metrics) := by
  refine ⟨stateSupplies_persisted ⟨?_, ?_⟩ _ _, ?_, secretsGive_missing, secretsGive_missing⟩
  · intro other hother
    obtain rfl := Option.some.inj (hget.symm.trans hother)
    exact hvalue
  · intro hnone
    rw [hget] at hnone
    cases hnone
  · intro hexists
    cases hexists

/-- The days are raised to 45, and a cleanup with the old days runs in between: a metric of the
first day is deleted after 31 days, one of the second day is not. -/
theorem window_kept_raised :
    ⟨"b", dayMs⟩ ∈ (run retentionStep
      (.idle (sampleWorld [(retentionDaysEnvKey, "30")] [⟨"a", 0⟩, ⟨"b", dayMs⟩]))
      [.invoke 0 (.runCleanupNow "api") ⟨0, "", true⟩,
        .invoke 1 (.updateRetention "api" ⟨true, 45⟩) ⟨0, "", true⟩, .resume 1 ⟨0, "", true⟩,
        .resume 0 ⟨31 * dayMs, "", true⟩, .resume 1 ⟨0, "", true⟩,
        .resume 0 ⟨31 * dayMs, "", true⟩]).world.metrics := by
  refine @window_kept 30 _ ?_ _ _ ?_ (.inl ?_)
  · exact sourcesHold_sample rfl (by unfold KeepsWindow; decide +kernel)
  · intro e he
    simp only [List.mem_cons, List.not_mem_nil, or_false] at he
    rcases he with rfl | rfl | rfl | rfl | rfl | rfl <;> simp only [Within, AsksWindow] <;> decide
  · decide

/-! ## No cleanup -/

/-- The value does not enable the cleanup. -/
def Disables (value : Option String) : Prop := parseBoolean value false = false

/-- A request that enables no cleanup, and runs none. -/
def AsksNoCleanup : RetentionRequest → Prop
  | .updateRetention _ dto => dto.enabled = false
  | .runCleanupNow _ => False
  | _ => True

/-- No cleanup runs. -/
def disabledPolicy : CleanupPolicy retentionEnabledEnvKey Disables where
  asks := AsksNoCleanup
  reads := fun _ => True
  days := fun _ => False
  cutoff := fun _ => False
  safe := fun _ => True
  update := by
    intro i dto hasks value hvalue
    obtain rfl := Option.some.inj ((get_retentionFields dto).1.symm.trans hvalue)
    rw [Disables, parseBoolean_toString]
    exact hasks
  starts := by
    intro i scheduled value hreading henabled hasks
    cases scheduled with
    | true => exact absurd (henabled rfl) (by rw [hreading]; exact Bool.false_ne_true)
    | false => exact hasks rfl
  cuts := fun hdays _ => hdays
  spares := fun hcutoff _ => hcutoff.elim

/-- **No metric is deleted while the retention is off**: no source of the settings enables it, no
update does, and no operator runs the cleanup. -/
theorem disabled_keeps_metrics {w : RetentionWorld}
    (hw : SourcesHold retentionEnabledEnvKey Disables w) {es : List RetentionEvent}
    (hes : ∀ p request inp, .invoke p request inp ∈ es → AsksNoCleanup request) {row : MetricRow}
    (hrow : row ∈ w.metrics ∨ .env (.ingest row) ∈ es) :
    row ∈ (run retentionStep (.idle w) es).world.metrics :=
  policy_keeps disabledPolicy retentionEnabled_mem hw hes (fun _ _ _ => trivial) trivial hrow

/-- A scheduled cleanup of an installation whose retention is off. -/
theorem disabled_keeps_metrics_off :
    ⟨"a", 0⟩ ∈ (run retentionStep
      (.idle (sampleWorld [(retentionEnabledEnvKey, "off")] [⟨"a", 0⟩]))
      [.invoke 0 (.runScheduledRetention "api") ⟨90 * dayMs, "", true⟩,
        .resume 0 ⟨90 * dayMs, "", true⟩, .resume 0 ⟨90 * dayMs, "", true⟩]).world.metrics := by
  refine disabled_keeps_metrics ?_ ?_ (.inl List.mem_cons_self)
  · exact sourcesHold_sample rfl (by unfold Disables; decide +kernel)
  · intro p request inp hmem
    simp only [List.mem_cons, List.not_mem_nil, or_false, reduceCtorEq, Event.invoke.injEq] at hmem
    obtain ⟨-, rfl, -⟩ := hmem
    exact trivial

/-! ## The last update -/

/-- The request does not update the retention. -/
def AsksNoRetention : RetentionRequest → Prop
  | .updateRetention _ _ => False
  | _ => True

/-- No source has another value. -/
def exactPolicy (key value : String) : CleanupPolicy key (fun found => found = some value) where
  asks := AsksNoRetention
  reads := fun _ => True
  days := fun _ => True
  cutoff := fun _ => True
  safe := fun _ => False
  update := fun hasks => hasks.elim
  starts := fun _ _ _ => trivial
  cuts := fun _ _ => trivial
  spares := fun _ hsafe => hsafe.elim

/-- The events of an update of the retention that runs to its end. -/
def updateCall (p : ℕ) (i : ProcessId) (dto : UpdateMetricsRetentionDto) (inp : RetentionInput) :
    List RetentionEvent :=
  .invoke p (.updateRetention i dto) inp :: List.replicate 4 (.resume p inp)

/-- The files of the secrets have no key of the retention. -/
def SecretsPlain (disk : InstallDisk) : Prop :=
  ∀ secrets ∈ [disk.secrets, disk.secretsTemp], ∀ found,
    readInstallSecrets { secrets } = .ok found →
      ∀ key ∈ retentionKeys, EnvRecord.get (found.getD []) key = none

/-- No call has files to write. -/
def NoWriter (c : RetentionConfig) : Prop :=
  ∀ q i isOpen rest fields, c.pending q ≠ some (.writing i isOpen rest fields)

/-- The world after an update: the state is the file that was written. -/
def updatedWorld (w : RetentionWorld) (i : ProcessId) (dto : UpdateMetricsRetentionDto)
    (file : InstallStateFile) : RetentionWorld :=
  let process := w.processes i
  { w.setProcess i { process with env := process.env.spread (retentionFields dto) } with
    disk := { w.disk with state := .holds file, stateTemp := .missing } }

section

variable {c : RetentionConfig} {p : ℕ} {i : ProcessId} {dto : UpdateMetricsRetentionDto}
  {inp : RetentionInput}

/-- **What an update leaves behind.** -/
theorem run_updateCall (hfree : c.pending p = none) (hinp : inp.succeeds = true)
    {operations : List FileOperation}
    (haccept : updateSettings (c.world.processes i) c.world.disk dto inp.nowText = .ok operations) :
    ∃ found installedAt, readInstallState c.world.disk = .ok found ∧
      run retentionStep c (updateCall p i dto inp)
        = ⟨updatedWorld c.world i dto (persistedState "installer" installedAt
            ((managedEnvOf found).spread (retentionFields dto))), c.pending⟩ := by
  obtain ⟨found, installedAt, hfound, rfl⟩ := updateSettings_ok haccept
  refine ⟨found, installedAt, hfound, ?_⟩
  have hsame : Function.update c.pending p none = c.pending := by
    rw [← hfree, Function.update_eq_self]
  rw [updateCall, run_cons, retentionStep, step_invoke hfree, run_resumes]
  simp only [retentionCalls, invokeRetention, haccept, writeInstallState, Calls.resumes,
    resumeRetention, resumeWriting, hinp, canApply, opened?, FileOperation.apply,
    FileContents.exists, Bool.not_true, Bool.or_self, Bool.false_eq_true, if_true, if_false, hsame]
  rfl

theorem get_spread_retentionFields (managedEnv : EnvRecord) {key value : String}
    (hvalue : (retentionFields dto).get key = some value) :
    (managedEnv.spread (retentionFields dto)).get key = some value := by
  rw [get_spread, hvalue, Option.some_or]

/-- After an update, no source has another value than it has set. -/
theorem sourcesHold_updated {w : RetentionWorld} (hsecrets : SecretsPlain w.disk) {key : String}
    (hkey : key ∈ retentionKeys) {value : String}
    (hvalue : (retentionFields dto).get key = some value) (managedEnv : EnvRecord)
    (installedAt : String) :
    SourcesHold key (fun found => found = some value) (updatedWorld w i dto
      (persistedState "installer" installedAt (managedEnv.spread (retentionFields dto)))) := by
  have hget := get_spread_retentionFields managedEnv hvalue
  have hlacks : ∀ secrets ∈ [w.disk.secrets, w.disk.secretsTemp],
      SecretsGive key (fun found => found = some value) secrets := by
    intro secrets hmem found hfound other hother
    rw [hsecrets secrets hmem found hfound key hkey] at hother
    cases hother
  refine ⟨stateSupplies_persisted ⟨?_, ?_⟩ _ _, ?_, hlacks _ List.mem_cons_self,
    hlacks _ (List.mem_cons_of_mem _ List.mem_cons_self)⟩
  · intro other hother
    exact hother.symm.trans hget
  · intro hnone
    rw [hget] at hnone
    cases hnone
  · intro hexists
    cases hexists

/-- What every process reads after a run that does not update the retention. -/
theorem reading_after {key value : String} (hkey : key ∈ retentionKeys)
    (hc : SourcesHold key (fun found => found = some value) c.world) (halone : NoWriter c)
    {es : List RetentionEvent}
    (hes : ∀ q request inp, .invoke q request inp ∈ es → AsksNoRetention request)
    {found : Option InstallState}
    (hfound : readInstallState (run retentionStep c es).world.disk = .ok found) (j : ProcessId) :
    managedOr (managedEnvOf found) ((run retentionStep c es).world.processes j).env key
      = some value := by
  have hstart : Good (SourcesHold key fun found => found = some value)
      (CallHolds (exactPolicy key value)) c := by
    refine ⟨hc, fun q call hcall => ?_⟩
    cases call with
    | writing i isOpen rest fields => exact absurd hcall (halone q i isOpen rest fields)
    | _ => exact trivial
  have hend := (policy_run (exactPolicy key value) hkey hstart hes fun _ _ _ => trivial).1.1
  exact hend.reading hfound j

/-- **Every process reads the last update.**  An update of the retention runs while no other call
writes; then every process has settings, and until another update of the retention they are those
that it has set, whatever else is saved, stopped, cleaned up or started again. -/
theorem settings_follow_update (hfree : c.pending p = none) (halone : NoWriter c)
    (hsecrets : SecretsPlain c.world.disk) (hinp : inp.succeeds = true)
    {operations : List FileOperation}
    (haccept : updateSettings (c.world.processes i) c.world.disk dto inp.nowText = .ok operations) :
    (∀ j, ∃ settings, getSettings
      ((run retentionStep c (updateCall p i dto inp)).world.processes j)
      (run retentionStep c (updateCall p i dto inp)).world.disk = .ok settings) ∧
    ∀ es : List RetentionEvent,
      (∀ q request inp, .invoke q request inp ∈ es → AsksNoRetention request) →
      ∀ j settings, getSettings
          ((run retentionStep c (updateCall p i dto inp ++ es)).world.processes j)
          (run retentionStep c (updateCall p i dto inp ++ es)).world.disk = .ok settings →
        settings.enabled = dto.enabled ∧
          settings.retentionDays = clampRetentionDays dto.retentionDays := by
  obtain ⟨found, installedAt, hfound, hrun⟩ := run_updateCall (i := i) hfree hinp haccept
  rw [hrun]
  refine ⟨fun j => ?_, fun es hes j settings hsettings => ?_⟩
  · -- the state that was written is read, whatever the process has
    have hread : readInstallState (updatedWorld c.world i dto (persistedState "installer"
        installedAt ((managedEnvOf found).spread (retentionFields dto)))).disk
        = .ok (some ⟨2, "installer", installedAt, _⟩) := readInstallState_persisted rfl
    simp only [getSettings, readRetentionEnv, isInstallerManagedDeployment, hread]
    split <;> exact ⟨_, rfl⟩
  · rw [run_append, hrun] at hsettings
    obtain ⟨after, hafter, henabled, hdays⟩ := getSettings_ok hsettings
    obtain ⟨henabledField, hdaysField⟩ := get_retentionFields dto
    have henabledRead := reading_after (c := ⟨_, c.pending⟩) retentionEnabled_mem
      (sourcesHold_updated hsecrets retentionEnabled_mem henabledField (managedEnvOf found)
        installedAt) halone hes hafter j
    have hdaysRead := reading_after (c := ⟨_, c.pending⟩) retentionDays_mem
      (sourcesHold_updated hsecrets retentionDays_mem hdaysField (managedEnvOf found)
        installedAt) halone hes hafter j
    refine ⟨henabled.trans ?_, hdays.trans ?_⟩
    · exact (congrArg (parseBoolean · false) henabledRead).trans (parseBoolean_toString _ false)
    · exact (congrArg parseRetentionDays hdaysRead).trans (parseRetentionDays_toString _)

/-- The days of an installation are raised to 45. -/
theorem settings_follow_update_raised :
    (∀ j, ∃ settings, getSettings
      ((run retentionStep (.idle (sampleWorld [(retentionDaysEnvKey, "30")] []))
        (updateCall 0 "a" ⟨true, 45⟩ ⟨0, "", true⟩)).world.processes j)
      (run retentionStep (.idle (sampleWorld [(retentionDaysEnvKey, "30")] []))
        (updateCall 0 "a" ⟨true, 45⟩ ⟨0, "", true⟩)).world.disk = .ok settings) ∧
    ∀ es : List RetentionEvent,
      (∀ q request inp, .invoke q request inp ∈ es → AsksNoRetention request) →
      ∀ j settings, getSettings
          ((run retentionStep (.idle (sampleWorld [(retentionDaysEnvKey, "30")] []))
            (updateCall 0 "a" ⟨true, 45⟩ ⟨0, "", true⟩ ++ es)).world.processes j)
          (run retentionStep (.idle (sampleWorld [(retentionDaysEnvKey, "30")] []))
            (updateCall 0 "a" ⟨true, 45⟩ ⟨0, "", true⟩ ++ es)).world.disk = .ok settings →
        settings.enabled = true ∧ settings.retentionDays = 45 := by
  refine settings_follow_update (i := "a") rfl ?_ ?_ rfl rfl
  · intro q i isOpen rest fields hcall
    cases hcall
  · intro secrets hmem found hfound key hkey
    have hmissing : secrets = .missing := by simpa [sampleWorld] using hmem
    subst hmissing
    obtain rfl := Except.ok.inj hfound
    rfl

end

end MetricsRetentionService
