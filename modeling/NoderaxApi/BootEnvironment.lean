/-
# The environment after a restart

`prepareBootEnvironment` of `boot-mode.ts` lays the saved state and the saved secrets over
the environment of the process, and `hasPendingRestart` of `platform-settings.service.ts`
compares what is saved with what the process has.  The first keeps some values of the
environment and makes the aliases of the database keys equal; the second knows of neither.

**`pendingRestart_cleared_iff`**: after a start nothing is pending if and only if no value of
the environment is preferred over a saved one, and saved aliases agree.
-/
import Mathlib.Data.List.Dedup
import NoderaxApi.SetupInstall

namespace Install

/-! ## Laying one record over another -/

/-- `Object.entries(env)`: every key once. -/
def EnvRecord.entries (env : EnvRecord) : List (String × String) :=
  (env.map Prod.fst).dedup.map fun key => (key, (env.get key).getD "")

/-- `process.env[key] = value`. -/
def EnvRecord.set (env : EnvRecord) (field : String × String) : EnvRecord := env.spread [field]

/-- `isWildcardCorsOrigin`, the `allowAnyOrigin` of `parseCorsOrigins`. -/
def isWildcardCorsOrigin (value : String) : Bool := jsTrim value = "" || jsTrim value = "*"

/-- `equalsAny`. -/
def equalsAny (value : String) (candidates : List String) : Bool := jsTrim value ∈ candidates

/-- `shouldPreferProcessEnvOverInstallState`. -/
def shouldPreferProcessEnvOverInstallState (key : String) (currentValue : Option String)
    (incomingValue : String) : Bool :=
  let currentValue := (currentValue.map jsTrim).getD ""
  let incomingValue := jsTrim incomingValue
  /- The process has another value than one of these, and the saved one is one of them. -/
  let keepsFrom (candidates : List String) :=
    !equalsAny currentValue candidates && equalsAny incomingValue candidates
  if currentValue = "" || incomingValue = "" then false
  else if key = "CORS_ORIGIN" then
    !isWildcardCorsOrigin currentValue && isWildcardCorsOrigin incomingValue
  else if key = "SWAGGER_ENABLED" then currentValue = "false" && incomingValue = "true"
  else if key = "JWT_SECRET" then keepsFrom ["noderax-local-secret", "test-secret"]
  else if key = "SECRETS_ENCRYPTION_KEY" then
    keepsFrom ["noderax-local-secrets-key-change-me", "test-secrets-encryption-key"]
  else if key = "ADMIN_EMAIL" then keepsFrom ["admin@example.com"]
  else if key = "ADMIN_PASSWORD" then keepsFrom ["ChangeMe123!", "change-me", "password"]
  else if key = "SEED_DEFAULT_ADMIN" then currentValue = "false" && incomingValue = "true"
  else if key = "AGENT_ENROLLMENT_TOKEN" then keepsFrom ["secret-enrollment-token", "change-me"]
  else false

/-- One round of the loops of `applyInstallStateEnv` and `applyInstallSecretEnv`. -/
def applyField (env : EnvRecord) (field : String × String) : EnvRecord :=
  if shouldPreferProcessEnvOverInstallState field.1 (env.get field.1) field.2 then env
  else env.set field

/-- The loops of `applyInstallStateEnv` and `applyInstallSecretEnv`. -/
def applySavedEnv (env saved : EnvRecord) : EnvRecord := saved.entries.foldl applyField env

/-- `applyInstallStateEnv`. -/
def applyInstallStateEnv (env managedEnv : EnvRecord) : EnvRecord :=
  (applySavedEnv env managedEnv).set (installerManagedFlag, "true")

/-- `applyInstallSecretEnv`. -/
def applyInstallSecretEnv (env secrets : EnvRecord) : EnvRecord := applySavedEnv env secrets

/-- `BOOT_MODE_ENV`. -/
def bootModeEnv : String := "NODERAX_BOOT_MODE"

/-- The value of `NODERAX_BOOT_MODE`. -/
def BootMode.text : BootMode → String
  | .setup => "setup"
  | .installed => "installed"
  | .legacy => "legacy"

/-- The environment as `resolveBootMode` leaves it: without a setup context or a state it
makes the aliases equal to look for a deployment of before. -/
def resolvedEnv (env : EnvRecord) (installState : Option InstallState) : EnvRecord :=
  if isInstallerSetupContext env || installState.isSome then env
  else normalizeDatabaseEnvAliases env

/-- What `prepareBootEnvironment` lays over an environment. -/
def overlaidEnv (env : EnvRecord) (installState : Option InstallState)
    (installSecrets : Option EnvRecord) : EnvRecord :=
  let withState := installState.elim env fun state => applyInstallStateEnv env state.managedEnv
  installSecrets.elim withState fun secrets => applyInstallSecretEnv withState secrets

/-- `process.env` after `prepareBootEnvironment`; `found` is what a connection to the database
of the environment finds. -/
def preparedEnv (env : EnvRecord) (found : Option (List String)) (disk : InstallDisk) :
    Except InstallFileError EnvRecord := do
  let installState ← readInstallState disk
  let bootMode ← prepareBootEnvironment env found disk
  let installSecrets ← readInstallSecrets disk
  let overlaid := overlaidEnv (resolvedEnv env installState) installState installSecrets
  .ok ((normalizeDatabaseEnvAliases overlaid).set (bootModeEnv, bootMode.text))

/-! ## What a key has afterwards -/

theorem get_set (env : EnvRecord) (field : String × String) (key : String) :
    (env.set field).get key = if key = field.1 then some field.2 else env.get key := by
  rw [EnvRecord.set, get_spread, get_cons]
  by_cases hkey : key = field.1
  · rw [if_pos hkey, if_pos hkey, Option.some_or]
  · rw [if_neg hkey, if_neg hkey]
    rfl

theorem mem_keys_iff (env : EnvRecord) (key : String) :
    key ∈ env.map Prod.fst ↔ (env.get key).isSome = true := by
  induction env with
  | nil => simp [EnvRecord.get]
  | cons field rest ih =>
      rw [List.map_cons, List.mem_cons, ih, get_cons]
      by_cases hkey : key = field.1
      · simp [hkey]
      · simp [hkey]

/-- A record that is made key by key. -/
theorem get_map_keys (value : String → String) (keys : List String) (key : String) :
    EnvRecord.get (keys.map fun key => (key, value key)) key
      = if key ∈ keys then some (value key) else none := by
  induction keys with
  | nil => rfl
  | cons name rest ih =>
      rw [List.map_cons, get_cons, ih]
      by_cases hname : key = name
      · simp [hname]
      · simp [hname]

/-- The entries have every key once, with its value. -/
theorem get_entries (env : EnvRecord) (key : String) :
    EnvRecord.get env.entries key = env.get key := by
  rw [EnvRecord.entries, get_map_keys]
  simp only [List.mem_dedup, mem_keys_iff]
  cases env.get key with
  | none => rfl
  | some value => rfl

/-- A key after one round. -/
theorem get_applyField (env : EnvRecord) (field : String × String) (key : String) :
    (applyField env field).get key =
      if key = field.1 ∧
          shouldPreferProcessEnvOverInstallState field.1 (env.get field.1) field.2 = false then
        some field.2
      else env.get key := by
  rw [applyField]
  cases shouldPreferProcessEnvOverInstallState field.1 (env.get field.1) field.2 with
  | true => simp
  | false => simp [get_set]

/-- The value of a key after a layer that saves it, or not. -/
def layered (key : String) (current saved : Option String) : Option String :=
  saved.elim current fun value =>
    if shouldPreferProcessEnvOverInstallState key current value then current else some value

/-- A key after the rounds of distinct fields. -/
theorem get_foldl_applyField (fields : EnvRecord) (hdistinct : (fields.map Prod.fst).Nodup)
    (env : EnvRecord) (key : String) :
    (fields.foldl applyField env).get key = layered key (env.get key) (fields.get key) := by
  induction fields generalizing env with
  | nil => rfl
  | cons field rest ih =>
      rw [List.map_cons, List.nodup_cons] at hdistinct
      rw [List.foldl_cons, ih hdistinct.2, get_applyField, get_cons]
      by_cases hkey : key = field.1
      · subst hkey
        -- the key does not come again
        have hrest : EnvRecord.get rest field.1 = none := by
          rw [← Option.not_isSome_iff_eq_none, ← mem_keys_iff]
          exact hdistinct.1
        rw [hrest, if_pos rfl, layered, layered, Option.elim_none, Option.elim_some]
        cases shouldPreferProcessEnvOverInstallState field.1 (env.get field.1) field.2 <;> simp
      · rw [if_neg fun h => hkey h.1, if_neg hkey]

/-- **A key after a layer.** -/
theorem get_applySavedEnv (env saved : EnvRecord) (key : String) :
    (applySavedEnv env saved).get key = layered key (env.get key) (saved.get key) := by
  have hdistinct : (saved.entries.map Prod.fst).Nodup := by
    rw [EnvRecord.entries, List.map_map]
    simpa [Function.comp_def] using List.nodup_dedup (saved.map Prod.fst)
  rw [applySavedEnv, get_foldl_applyField _ hdistinct, get_entries]

/-! ## Aliases -/

/-- The two keys of one pair of aliases, once they are made equal. -/
def normalizedPair (canonicalValue legacyValue : Option String) : Option String × Option String :=
  if hasRequiredValue canonicalValue then (canonicalValue, canonicalValue)
  else if hasRequiredValue legacyValue then (legacyValue, legacyValue)
  else (canonicalValue, legacyValue)

theorem some_getD_of_hasRequiredValue {value : Option String} (h : hasRequiredValue value = true) :
    some (value.getD "") = value := by
  cases value with
  | none => cases h
  | some text => rfl

/-- A key after one round of the normalization. -/
theorem get_normalizeAlias (env : EnvRecord) {keys : String × String} (hne : keys.1 ≠ keys.2)
    (key : String) :
    (normalizeAlias env keys).get key =
      if key = keys.1 then (normalizedPair (env.get keys.1) (env.get keys.2)).1
      else if key = keys.2 then (normalizedPair (env.get keys.1) (env.get keys.2)).2
      else env.get key := by
  rw [normalizeAlias, normalizedPair]
  cases hcanonical : hasRequiredValue (env.get keys.1) with
  | true =>
      rw [if_pos rfl, if_pos rfl, ← EnvRecord.set, get_set,
        some_getD_of_hasRequiredValue hcanonical]
      by_cases hfirst : key = keys.1
      · subst hfirst
        rw [if_neg hne, if_pos rfl]
      · rw [if_neg hfirst]
  | false =>
      rw [if_neg Bool.false_ne_true, if_neg Bool.false_ne_true]
      cases hlegacy : hasRequiredValue (env.get keys.2) with
      | true =>
          rw [if_pos rfl, if_pos rfl, ← EnvRecord.set, get_set,
            some_getD_of_hasRequiredValue hlegacy]
          by_cases hfirst : key = keys.1
          · rw [if_pos hfirst, if_pos hfirst]
          · rw [if_neg hfirst, if_neg hfirst]
            by_cases hsecond : key = keys.2
            · rw [if_pos hsecond, hsecond]
            · rw [if_neg hsecond]
      | false =>
          rw [if_neg Bool.false_ne_true, if_neg Bool.false_ne_true]
          by_cases hfirst : key = keys.1
          · rw [if_pos hfirst, hfirst]
          · rw [if_neg hfirst]
            by_cases hsecond : key = keys.2
            · rw [if_pos hsecond, hsecond]
            · rw [if_neg hsecond]

/-- The keys of some pairs. -/
def aliasKeys (pairs : List (String × String)) : List String :=
  pairs.flatMap fun keys => [keys.1, keys.2]

theorem mem_aliasKeys {pairs : List (String × String)} {key : String} :
    key ∈ aliasKeys pairs ↔ ∃ keys ∈ pairs, key = keys.1 ∨ key = keys.2 := by
  simp [aliasKeys, List.mem_flatMap]

theorem get_foldl_normalizeAlias_of_not_mem {pairs : List (String × String)}
    (hdistinct : (aliasKeys pairs).Nodup) (env : EnvRecord) {key : String}
    (hkey : key ∉ aliasKeys pairs) : (pairs.foldl normalizeAlias env).get key = env.get key := by
  induction pairs generalizing env with
  | nil => rfl
  | cons keys rest ih =>
      have hsplit : aliasKeys (keys :: rest) = keys.1 :: keys.2 :: aliasKeys rest := rfl
      simp only [hsplit, List.nodup_cons, List.mem_cons, not_or] at hdistinct hkey
      rw [List.foldl_cons, ih hdistinct.2.2 _ hkey.2.2, get_normalizeAlias env hdistinct.1.1,
        if_neg hkey.1, if_neg hkey.2.1]

/-- **The normalization** makes the keys of every pair equal where one of them has a value. -/
theorem get_foldl_normalizeAlias {pairs : List (String × String)}
    (hdistinct : (aliasKeys pairs).Nodup) (env : EnvRecord) {keys : String × String}
    (hkeys : keys ∈ pairs) :
    ((pairs.foldl normalizeAlias env).get keys.1, (pairs.foldl normalizeAlias env).get keys.2)
      = normalizedPair (env.get keys.1) (env.get keys.2) := by
  induction pairs generalizing env with
  | nil => cases hkeys
  | cons first rest ih =>
      have hsplit : aliasKeys (first :: rest) = first.1 :: first.2 :: aliasKeys rest := rfl
      simp only [hsplit, List.nodup_cons, List.mem_cons, not_or] at hdistinct
      obtain ⟨⟨hne, hfirst⟩, hsecond, hrest⟩ := hdistinct
      rw [List.foldl_cons]
      obtain rfl | hkeys := List.mem_cons.mp hkeys
      · rw [get_foldl_normalizeAlias_of_not_mem hrest _ hfirst,
          get_foldl_normalizeAlias_of_not_mem hrest _ hsecond, get_normalizeAlias env hne,
          get_normalizeAlias env hne, if_pos rfl, if_neg (Ne.symm hne), if_pos rfl]
      · have hmem : keys.1 ∈ aliasKeys rest ∧ keys.2 ∈ aliasKeys rest :=
          ⟨mem_aliasKeys.mpr ⟨keys, hkeys, .inl rfl⟩, mem_aliasKeys.mpr ⟨keys, hkeys, .inr rfl⟩⟩
        have hother : ∀ key ∈ aliasKeys rest, (normalizeAlias env first).get key = env.get key := by
          intro key hkey
          have hne₁ : key ≠ first.1 := fun h => hfirst (h ▸ hkey)
          have hne₂ : key ≠ first.2 := fun h => hsecond (h ▸ hkey)
          rw [get_normalizeAlias env hne, if_neg hne₁, if_neg hne₂]
        rw [ih hrest _ hkeys, hother _ hmem.1, hother _ hmem.2]

theorem aliasKeys_nodup : (aliasKeys databaseEnvAliases).Nodup := by decide

end Install

namespace PlatformSettingsService

open Install

/-! ## Pending restarts -/

/-- `hasPendingRestart`. -/
def hasPendingRestart (processEnv expectedEnv : EnvRecord) : Bool :=
  platformSettingsEnvKeys.any fun key =>
    (expectedEnv.get key).getD "" ≠ (processEnv.get key).getD ""

/-- The `restartRequired` of `buildResponse`, for a deployment that can be edited. -/
def restartRequired (processEnv : EnvRecord) (disk : InstallDisk) : Except UpdateError Bool :=
  (readCurrentRuntimeEnv processEnv disk).map (hasPendingRestart processEnv)

section Condition

variable (env : EnvRecord) (state : Option InstallState) (secrets : Option EnvRecord)

/-- The saved value of a key: that of the secrets before that of the state. -/
def savedValue (key : String) : Option String :=
  (secrets.bind fun secrets => secrets.get key).or
    (state.bind fun state => state.managedEnv.get key)

/-- What the process has for a key when its saved value is laid over it. -/
def currentValue (key : String) : Option String :=
  if (secrets.bind fun secrets => secrets.get key).isSome then
    layered key (env.get key) (state.bind fun state => state.managedEnv.get key)
  else env.get key

/-- No value of the process is preferred over a saved one. -/
def SavedWins : Prop :=
  ∀ key ∈ platformSettingsEnvKeys, ∀ saved ∈ savedValue state secrets key,
    shouldPreferProcessEnvOverInstallState key (currentValue env state secrets key) saved = false

/-- What is saved, or else in the process, for a key over which nothing is preferred. -/
def effectiveValue (key : String) : Option String := (savedValue state secrets key).or (env.get key)

/-- A saved legacy value is the canonical one, where there is one; and where there is none, no
blank canonical value is saved beside a legacy one. -/
def AliasesAgree : Prop :=
  ∀ keys ∈ databaseEnvAliases, keys.1 ∈ platformSettingsEnvKeys →
    (hasRequiredValue (effectiveValue env state secrets keys.1) = true →
      ∀ saved ∈ savedValue state secrets keys.2,
        saved = (effectiveValue env state secrets keys.1).getD "") ∧
    (hasRequiredValue (effectiveValue env state secrets keys.1) = false →
      hasRequiredValue (effectiveValue env state secrets keys.2) = true →
        savedValue state secrets keys.1 = none)

end Condition

/-! ## What is compared -/

variable {env : EnvRecord} {state : Option InstallState} {secrets : Option EnvRecord}
  {disk : InstallDisk}

/-- Nothing is preferred over the saved value of a database key. -/
theorem not_preferred_of_alias {key : String} (hkey : key ∈ aliasKeys databaseEnvAliases)
    (current : Option String) (saved : String) :
    shouldPreferProcessEnvOverInstallState key current saved = false := by
  have hother : key ∉ ["CORS_ORIGIN", "SWAGGER_ENABLED", "JWT_SECRET", "SECRETS_ENCRYPTION_KEY",
      "ADMIN_EMAIL", "ADMIN_PASSWORD", "SEED_DEFAULT_ADMIN", "AGENT_ENROLLMENT_TOKEN"] := by
    have hdisjoint : ∀ key ∈ aliasKeys databaseEnvAliases, key ∉ ["CORS_ORIGIN", "SWAGGER_ENABLED",
        "JWT_SECRET", "SECRETS_ENCRYPTION_KEY", "ADMIN_EMAIL", "ADMIN_PASSWORD",
        "SEED_DEFAULT_ADMIN", "AGENT_ENROLLMENT_TOKEN"] := by decide
    exact hdisjoint key hkey
  simp only [List.mem_cons, List.not_mem_nil, or_false, not_or] at hother
  simp [shouldPreferProcessEnvOverInstallState, hother]

/-- No value is preferred over itself. -/
theorem not_preferred_self (key value : String) :
    shouldPreferProcessEnvOverInstallState key (some value) value = false := by
  -- both switches want one text to be two
  have hswitch : ∀ text : String, (decide (text = "false") && decide (text = "true")) = false := by
    intro text
    by_cases htext : text = "false"
    · rw [htext]
      decide
    · simp [htext]
  unfold shouldPreferProcessEnvOverInstallState
  simp only [Option.map_some, Option.getD_some, Bool.not_and_self, hswitch, ite_self]

/-- A value that is preferred is another one than the saved one. -/
theorem ne_of_preferred {key saved : String} {current : Option String}
    (h : shouldPreferProcessEnvOverInstallState key current saved = true) :
    current.getD "" ≠ saved := by
  rintro rfl
  cases current with
  | none => simp [shouldPreferProcessEnvOverInstallState] at h
  | some value =>
      rw [Option.getD_some, not_preferred_self] at h
      exact absurd h Bool.false_ne_true

/-- A key after the layers of the state and of the secrets. -/
theorem get_overlaidEnv {key : String} (hkey : key ≠ installerManagedFlag) :
    (overlaidEnv env state secrets).get key =
      layered key (layered key (env.get key) (state.bind fun state => state.managedEnv.get key))
        (secrets.bind fun secrets => secrets.get key) := by
  have hstate :
      EnvRecord.get (state.elim env fun state => applyInstallStateEnv env state.managedEnv) key
      = layered key (env.get key) (state.bind fun state => state.managedEnv.get key) := by
    cases state with
    | none => rfl
    | some state =>
        rw [Option.elim_some, applyInstallStateEnv, get_set, if_neg hkey, get_applySavedEnv]
        rfl
  cases secrets with
  | none => exact hstate
  | some secrets =>
      rw [overlaidEnv, Option.elim_some, applyInstallSecretEnv, get_applySavedEnv, hstate]
      rfl

theorem layered_eq (key : String) (current saved : Option String)
    (h : ∀ value ∈ saved, shouldPreferProcessEnvOverInstallState key current value = false) :
    layered key current saved = saved.or current := by
  cases saved with
  | none => rfl
  | some value =>
      rw [layered, Option.elim_some, h value rfl]
      rfl

/-- A database key has its saved value, or keeps its own. -/
theorem get_overlaidEnv_of_alias {key : String} (hkey : key ∈ aliasKeys databaseEnvAliases) :
    (overlaidEnv env state secrets).get key = effectiveValue env state secrets key := by
  have hflag : key ≠ installerManagedFlag := by
    rintro rfl
    revert hkey
    decide
  rw [get_overlaidEnv hflag, layered_eq key _ _ fun value _ => not_preferred_of_alias hkey _ value,
    layered_eq key _ _ fun value _ => not_preferred_of_alias hkey _ value, effectiveValue,
    savedValue, Option.or_assoc]

/-- **A key that has no alias** has its saved value just if nothing is preferred over it. -/
theorem get_overlaidEnv_eq_saved_iff {key saved : String} (hkey : key ≠ installerManagedFlag)
    (hsaved : savedValue state secrets key = some saved) :
    ((overlaidEnv env state secrets).get key).getD "" = saved ↔
      shouldPreferProcessEnvOverInstallState key (currentValue env state secrets key) saved
        = false := by
  have hlayer : (overlaidEnv env state secrets).get key =
      layered key (currentValue env state secrets key) (some saved) := by
    rw [get_overlaidEnv hkey, currentValue]
    rw [savedValue] at hsaved
    cases hsecret : secrets.bind fun secrets => secrets.get key with
    | none =>
        rw [hsecret, Option.none_or] at hsaved
        rw [hsaved]
        rfl
    | some secret =>
        rw [hsecret, Option.some_or] at hsaved
        obtain rfl := Option.some.inj hsaved
        rfl
  rw [hlayer, layered, Option.elim_some]
  cases hprefer : shouldPreferProcessEnvOverInstallState key (currentValue env state secrets key)
      saved with
  | true => simpa using ne_of_preferred hprefer
  | false => simp

/-- **A pair of aliases** has its saved values just if they agree. -/
theorem normalizedPair_eq_saved_iff (keys : String × String) :
    (∀ saved ∈ savedValue state secrets keys.1,
        ((normalizedPair (effectiveValue env state secrets keys.1)
          (effectiveValue env state secrets keys.2)).1).getD "" = saved) ∧
      (∀ saved ∈ savedValue state secrets keys.2,
        ((normalizedPair (effectiveValue env state secrets keys.1)
          (effectiveValue env state secrets keys.2)).2).getD "" = saved) ↔
    (hasRequiredValue (effectiveValue env state secrets keys.1) = true →
      ∀ saved ∈ savedValue state secrets keys.2,
        saved = (effectiveValue env state secrets keys.1).getD "") ∧
    (hasRequiredValue (effectiveValue env state secrets keys.1) = false →
      hasRequiredValue (effectiveValue env state secrets keys.2) = true →
        savedValue state secrets keys.1 = none) := by
  have hown : ∀ {key saved : String}, saved ∈ savedValue state secrets key →
      effectiveValue env state secrets key = some saved := by
    intro key saved hsaved
    rw [effectiveValue, show savedValue state secrets key = some saved from hsaved, Option.some_or]
  rw [normalizedPair]
  cases hcanonical : hasRequiredValue (effectiveValue env state secrets keys.1) with
  | true =>
      simp only [if_true, forall_const, Bool.true_eq_false, false_implies, and_true]
      constructor
      · rintro ⟨-, hsecond⟩ saved hsaved
        exact (hsecond saved hsaved).symm
      · intro h
        refine ⟨fun saved hsaved => ?_, fun saved hsaved => (h saved hsaved).symm⟩
        rw [hown hsaved]
        rfl
  | false =>
      simp only [Bool.false_eq_true, if_false, false_implies, forall_const, true_and]
      cases hlegacy : hasRequiredValue (effectiveValue env state secrets keys.2) with
      | true =>
          simp only [if_true, forall_const]
          constructor
          · rintro ⟨hfirst, -⟩
            rw [Option.eq_none_iff_forall_not_mem]
            intro saved hsaved
            -- a saved blank text would be the legacy value, which is not blank
            have hsame := hfirst saved hsaved
            rw [hown hsaved, ← hsame, some_getD_of_hasRequiredValue hlegacy, hlegacy] at hcanonical
            cases hcanonical
          · intro hnone
            refine ⟨fun saved hsaved => ?_, fun saved hsaved => ?_⟩
            · rw [hnone] at hsaved
              cases hsaved
            · rw [hown hsaved]
              rfl
      | false =>
          simp only [Bool.false_eq_true, if_false, false_implies, iff_true]
          refine ⟨fun saved hsaved => ?_, fun saved hsaved => ?_⟩
          · rw [hown hsaved]
            rfl
          · rw [hown hsaved]
            rfl

/-! ## After a start -/

/-- `hasPendingRestart` compares the saved values only: for the other keys it reads the
process on both sides. -/
theorem restartRequired_eq_false_iff {booted : EnvRecord}
    (hstate : readInstallState disk = .ok state)
    (hsecrets : readInstallSecrets disk = .ok secrets) :
    restartRequired booted disk = .ok false ↔
      ∀ key ∈ platformSettingsEnvKeys, ∀ saved ∈ savedValue state secrets key,
        (booted.get key).getD "" = saved := by
  have hcurrent : ∃ current, readCurrentRuntimeEnv booted disk = .ok current ∧
      ∀ key ∈ platformSettingsEnvKeys, current.get key =
        (savedValue state secrets key).or (some ((booted.get key).getD "")) := by
    refine ⟨_, by rw [readCurrentRuntimeEnv, hstate, hsecrets]; rfl, ?_⟩
    intro key hkey
    rw [get_spread, get_spread, get_getD_nil, get_getD_nil, Option.bind_map, get_map_keys,
      if_pos hkey, savedValue, Option.or_assoc]
    rfl
  obtain ⟨current, hread, hget⟩ := hcurrent
  rw [restartRequired, hread, Except.map, Except.ok.injEq, hasPendingRestart, List.any_eq_false]
  refine forall₂_congr fun key hkey => ?_
  rw [hget key hkey, Bool.not_eq_true, decide_eq_false_iff_not, not_not]
  cases savedValue state secrets key with
  | none => simp
  | some saved =>
      simp only [Option.some_or, Option.getD_some, Option.mem_def, Option.some.injEq, forall_eq']
      exact eq_comm

/-- The keys of the settings are not those that a start sets for itself. -/
theorem ne_of_platformKey : ∀ key ∈ platformSettingsEnvKeys,
    key ≠ installerManagedFlag ∧ key ≠ bootModeEnv := by
  decide +kernel

/-- The settings have both keys of a pair, or neither. -/
theorem platformKey_alias_iff : ∀ keys ∈ databaseEnvAliases,
    (keys.1 ∈ platformSettingsEnvKeys ↔ keys.2 ∈ platformSettingsEnvKeys) := by
  decide +kernel

/-- The values of the process after a start. -/
def normalizedEnv (env : EnvRecord) (state : Option InstallState) (secrets : Option EnvRecord) :
    EnvRecord :=
  normalizeDatabaseEnvAliases (overlaidEnv env state secrets)

theorem get_preparedEnv {found : Option (List String)} {booted : EnvRecord}
    (hstate : readInstallState disk = .ok state) (hsecrets : readInstallSecrets disk = .ok secrets)
    (hboot : preparedEnv env found disk = .ok booted) {key : String}
    (hkey : key ∈ platformSettingsEnvKeys) :
    booted.get key = (normalizedEnv (resolvedEnv env state) state secrets).get key := by
  obtain ⟨state', hstate', hrest⟩ := bind_eq_ok.mp hboot
  obtain ⟨bootMode, -, hrest⟩ := bind_eq_ok.mp hrest
  obtain ⟨secrets', hsecrets', hrest⟩ := bind_eq_ok.mp hrest
  obtain rfl := Except.ok.inj (hstate.symm.trans hstate')
  obtain rfl := Except.ok.inj (hsecrets.symm.trans hsecrets')
  obtain rfl := Except.ok.inj hrest
  rw [get_set, if_neg (ne_of_platformKey key hkey).2]
  rfl

theorem get_normalizedEnv_alias {keys : String × String} (hkeys : keys ∈ databaseEnvAliases) :
    (normalizedEnv env state secrets).get keys.1
        = (normalizedPair (effectiveValue env state secrets keys.1)
          (effectiveValue env state secrets keys.2)).1 ∧
      (normalizedEnv env state secrets).get keys.2
        = (normalizedPair (effectiveValue env state secrets keys.1)
          (effectiveValue env state secrets keys.2)).2 := by
  have hfirst := mem_aliasKeys.mpr ⟨keys, hkeys, .inl rfl⟩
  have hsecond := mem_aliasKeys.mpr ⟨keys, hkeys, .inr rfl⟩
  have hpair := get_foldl_normalizeAlias aliasKeys_nodup (overlaidEnv env state secrets) hkeys
  rw [get_overlaidEnv_of_alias hfirst, get_overlaidEnv_of_alias hsecond] at hpair
  rw [normalizedEnv, normalizeDatabaseEnvAliases]
  simp only [← hpair, and_self]

theorem get_normalizedEnv_plain {key saved : String} (hkey : key ∈ platformSettingsEnvKeys)
    (halias : key ∉ aliasKeys databaseEnvAliases)
    (hsaved : savedValue state secrets key = some saved) :
    ((normalizedEnv env state secrets).get key).getD "" = saved ↔
      shouldPreferProcessEnvOverInstallState key (currentValue env state secrets key) saved
        = false := by
  rw [normalizedEnv, normalizeDatabaseEnvAliases,
    get_foldl_normalizeAlias_of_not_mem aliasKeys_nodup _ halias]
  exact get_overlaidEnv_eq_saved_iff (ne_of_platformKey key hkey).1 hsaved

/-- **After a start nothing is pending if and only if no value of the process is preferred over
a saved one, and saved aliases agree.** -/
theorem pendingRestart_cleared_iff (env : EnvRecord) (found : Option (List String))
    (disk : InstallDisk) {booted : EnvRecord} {state : Option InstallState}
    {secrets : Option EnvRecord} (hstate : readInstallState disk = .ok state)
    (hsecrets : readInstallSecrets disk = .ok secrets)
    (hboot : preparedEnv env found disk = .ok booted) :
    restartRequired booted disk = .ok false ↔
      SavedWins (resolvedEnv env state) state secrets ∧
        AliasesAgree (resolvedEnv env state) state secrets := by
  rw [restartRequired_eq_false_iff hstate hsecrets]
  constructor
  · intro h
    refine ⟨fun key hkey saved hsaved => ?_, fun keys hkeys hplatform => ?_⟩
    · by_cases halias : key ∈ aliasKeys databaseEnvAliases
      · exact not_preferred_of_alias halias _ _
      · rw [← get_normalizedEnv_plain hkey halias hsaved,
          ← get_preparedEnv hstate hsecrets hboot hkey]
        exact h key hkey saved hsaved
    · have hplatform' := (platformKey_alias_iff keys hkeys).mp hplatform
      obtain ⟨hfirst, hsecond⟩ := get_normalizedEnv_alias hkeys
      rw [← normalizedPair_eq_saved_iff, ← hfirst, ← hsecond]
      refine ⟨fun saved hsaved => ?_, fun saved hsaved => ?_⟩
      · rw [← get_preparedEnv hstate hsecrets hboot hplatform]
        exact h keys.1 hplatform saved hsaved
      · rw [← get_preparedEnv hstate hsecrets hboot hplatform']
        exact h keys.2 hplatform' saved hsaved
  · rintro ⟨hwins, hagree⟩ key hkey saved hsaved
    rw [get_preparedEnv hstate hsecrets hboot hkey]
    by_cases halias : key ∈ aliasKeys databaseEnvAliases
    · obtain ⟨keys, hkeys, hmem⟩ := mem_aliasKeys.mp halias
      have hplatform : keys.1 ∈ platformSettingsEnvKeys := by
        obtain rfl | rfl := hmem
        · exact hkey
        · exact (platformKey_alias_iff keys hkeys).mpr hkey
      have hpair := (normalizedPair_eq_saved_iff keys).mpr (hagree keys hkeys hplatform)
      obtain ⟨hfirst, hsecond⟩ := get_normalizedEnv_alias hkeys
      obtain rfl | rfl := hmem
      · rw [hfirst]
        exact hpair.1 saved hsaved
      · rw [hsecond]
        exact hpair.2 saved hsaved
    · exact (get_normalizedEnv_plain hkey halias hsaved).mpr (hwins key hkey saved hsaved)

/-- A state without secrets, which turns the documentation on. -/
def swaggerDisk : InstallDisk where
  state := .holds (persistedState "installer" "2024-01-01T00:00:00.000Z"
    [("CORS_ORIGIN", "https://noderax.example.com"), ("SWAGGER_ENABLED", "true")])

/-- An environment without the keys of the settings. -/
theorem pendingRestart_cleared_plain :
    ∃ booted, preparedEnv [] none swaggerDisk = .ok booted ∧
      restartRequired booted swaggerDisk = .ok false := by
  have hstate : readInstallState swaggerDisk = .ok (some ⟨2, "installer",
      "2024-01-01T00:00:00.000Z",
      [("CORS_ORIGIN", "https://noderax.example.com"), ("SWAGGER_ENABLED", "true")]⟩) := rfl
  refine ⟨_, rfl, (pendingRestart_cleared_iff [] none swaggerDisk hstate rfl rfl).mpr ?_⟩
  constructor
  · unfold SavedWins
    decide +kernel
  · unfold AliasesAgree
    decide +kernel

/-- An environment that turns the documentation off keeps it off, and the flag stays. -/
theorem swaggerEnabled_staysPending :
    (¬ ∀ (env : EnvRecord) (found : Option (List String)) (disk : InstallDisk)
      (booted : EnvRecord), preparedEnv env found disk = .ok booted →
      restartRequired booted disk = .ok false) ∧
    (preparedEnv [("SWAGGER_ENABLED", "false")] none swaggerDisk).toOption.map
      (fun booted => (restartRequired booted swaggerDisk).toOption) = some (some true) := by
  have hpending : (preparedEnv [("SWAGGER_ENABLED", "false")] none swaggerDisk).toOption.map
      (fun booted => (restartRequired booted swaggerDisk).toOption) = some (some true) := by
    decide +kernel
  refine ⟨fun hall => ?_, hpending⟩
  cases hboot : preparedEnv [("SWAGGER_ENABLED", "false")] none swaggerDisk with
  | error error =>
      rw [hboot] at hpending
      cases hpending
  | ok booted =>
      rw [hboot, Except.toOption, Option.map_some, hall _ _ _ _ hboot] at hpending
      cases hpending

end PlatformSettingsService
