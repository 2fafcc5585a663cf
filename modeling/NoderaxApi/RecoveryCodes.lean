/-
# Recovery codes

`verifyMfaRecovery` reads the codes of a user, takes one out in memory and writes the rest
back at a later step.  The codes are counted here: how often a code was issued to a user,
how often it was replaced, how many sessions were handed out for it, and how often it is
stored.

**`recoveryCodes_singleUse`**: as long as the codes that a call writes back are all still
stored when it does, no code yields more sessions than it was issued, and one that is spent
is refused.
-/
import Mathlib.Data.List.Perm.Basic
import NoderaxApi.UserAccountSteps

namespace UsersService

open AuthService KeyedTable Interleaving Runs

/-! ## Counting -/

/-- How often an entry issues a code to a user. -/
def CodeFact.issuedTimes (userId : Uuid) (code : String) : CodeFact → ℕ
  | .issued id codes => if id = userId then codes.count code else 0
  | _ => 0

/-- How often an entry replaces a code of a user. -/
def CodeFact.replacedTimes (userId : Uuid) (code : String) : CodeFact → ℕ
  | .replaced id codes => if id = userId then codes.count code else 0
  | _ => 0

/-- How many sessions an entry hands a user for a code. -/
def CodeFact.usedTimes (userId : Uuid) (code : String) : CodeFact → ℕ
  | .used id spent => if id = userId ∧ spent = code then 1 else 0
  | _ => 0

/-- The sum over the record. -/
def AccountWorld.total (w : AccountWorld) (times : CodeFact → ℕ) : ℕ := (w.codes.map times).sum

section Service

variable {Token : Type} (platform : AccountPlatform Token)

/-- How often a code is stored for a user. -/
def storedTimes (w : AccountWorld) (userId : Uuid) (code : String) : ℕ :=
  (codesOf platform w userId).count code

/-! ## The condition and the property -/

/-- The codes that a call loaded and writes back, in part or as they are, are still stored. -/
def SavesStoredCodes (w : AccountWorld) (call : PendingAccountCall) (_ : AccountInput) : Prop :=
  match call with
  | .saving (.recovery _) loaded _ | .saving .mfaSetup loaded _ =>
      (storedCodes platform loaded).Subperm (codesOf platform w loaded.id)
  | _ => True

instance SavesStoredCodes.decidable (w : AccountWorld) (call : PendingAccountCall)
    (input : AccountInput) : Decidable (SavesStoredCodes platform w call input) := by
  unfold SavesStoredCodes
  split <;> infer_instance

/-- AES-GCM decrypts what it encrypted under the configured key. -/
def Deciphers : Prop :=
  ∀ iv value, platform.decryptSecretValue
    (platform.encryptSecretValue iv value platform.secretsEncryptionKey)
      platform.secretsEncryptionKey = some value

/-- Each issued code yields at most one session, and one that was used or replaced, as often as
it was issued, is refused. -/
structure SingleUseCodes (w : AccountWorld) (es : List (AccountEvent Token)) : Prop where
  once : ∀ es₁ es₂, es = es₁ ++ es₂ → ∀ userId code,
    (run (accountStep platform) (Config.idle w) es₁).world.total (CodeFact.usedTimes userId code)
      ≤ storedTimes platform w userId code +
        (run (accountStep platform) (Config.idle w) es₁).world.total
          (CodeFact.issuedTimes userId code)
  refused : ∀ es₁ es₂, es = es₁ ++ es₂ → ∀ userId recoveryCode,
    storedTimes platform w userId (normalizeRecoveryCode recoveryCode) +
        (run (accountStep platform) (Config.idle w) es₁).world.total
          (CodeFact.issuedTimes userId (normalizeRecoveryCode recoveryCode))
      ≤ (run (accountStep platform) (Config.idle w) es₁).world.total
            (CodeFact.usedTimes userId (normalizeRecoveryCode recoveryCode)) +
          (run (accountStep platform) (Config.idle w) es₁).world.total
            (CodeFact.replacedTimes userId (normalizeRecoveryCode recoveryCode)) →
    ∀ challengeToken ivs user,
      AuthService.verifyMfaRecovery platform.toAuthPlatform
        (run (accountStep platform) (Config.idle w) es₁).world.entities challengeToken recoveryCode
        ivs (run (accountStep platform) (Config.idle w) es₁).world.clock = .ok user →
      user.id ≠ userId

end Service

/-! ## Encrypted codes -/

variable {Token : Type} {platform : AccountPlatform Token} {w : AccountWorld}

theorem decrypt_encrypt (hcipher : Deciphers platform) {iv value encrypted : String}
    (h : encrypt platform.toAuthPlatform iv value = .ok encrypted) :
    decrypt platform.toAuthPlatform encrypted = .ok value := by
  obtain ⟨_, hkey, hreturn⟩ := bind_eq_ok.mp h
  cases hreturn
  refine bind_eq_ok.mpr ⟨_, hkey, ?_⟩
  rw [hcipher iv value]

theorem decryptRecoveryCodes_encrypt (hcipher : Deciphers platform) {ivs : ℕ → String}
    {codes encrypted : List String}
    (h : encryptRecoveryCodes platform.toAuthPlatform ivs codes = .ok encrypted) :
    decryptRecoveryCodes platform.toAuthPlatform (some encrypted) = .ok codes := by
  unfold encryptRecoveryCodes at h
  unfold decryptRecoveryCodes
  rw [Option.getD_some]
  -- the induction is over the codes, for any index of the first
  suffices hall : ∀ (codes : List String) (k : ℕ) (encrypted : List String),
      ((codes.zipIdx k).mapM fun entry => encrypt platform.toAuthPlatform (ivs entry.2) entry.1)
        = .ok encrypted → encrypted.mapM (decrypt platform.toAuthPlatform) = .ok codes by
    exact hall codes 0 encrypted h
  intro codes
  induction codes with
  | nil =>
      intro k encrypted hencrypted
      cases hencrypted
      rfl
  | cons code codes ih =>
      intro k encrypted hencrypted
      rw [List.zipIdx_cons, List.mapM_cons] at hencrypted
      obtain ⟨first, hfirst, hothers⟩ := bind_eq_ok.mp hencrypted
      obtain ⟨rest, hrest, hreturn⟩ := bind_eq_ok.mp hothers
      cases hreturn
      rw [List.mapM_cons]
      refine bind_eq_ok.mpr ⟨code, decrypt_encrypt hcipher hfirst, ?_⟩
      exact bind_eq_ok.mpr ⟨codes, ih (k + 1) rest hrest, rfl⟩

theorem storedCodes_of_decrypt {row : UserRow} {codes : List String}
    (h : decryptRecoveryCodes platform.toAuthPlatform row.mfaRecoveryCodes = .ok codes) :
    storedCodes platform row = codes.map normalizeRecoveryCode := by
  rw [storedCodes, h]

/-- What is stored depends on the one column. -/
theorem storedCodes_congr {row row' : UserRow} (h : row.mfaRecoveryCodes = row'.mfaRecoveryCodes) :
    storedCodes platform row = storedCodes platform row' := by
  rw [storedCodes, h, storedCodes]

/-- Taking a code out lowers its count by one and no other. -/
theorem count_eraseIdx {codes : List String} {i : ℕ} {entry : String} (h : codes[i]? = some entry)
    (code : String) :
    ((codes.eraseIdx i).map normalizeRecoveryCode).count code +
        (if normalizeRecoveryCode entry = code then 1 else 0) =
      (codes.map normalizeRecoveryCode).count code := by
  obtain ⟨hi, rfl⟩ := List.getElem?_eq_some_iff.mp h
  have hperm := (List.getElem_cons_eraseIdx_perm hi).map normalizeRecoveryCode
  rw [← hperm.count_eq, List.map_cons, List.count_cons]
  simp only [beq_iff_eq]

/-! ## The invariant -/

/-- A save writes the codes of an entity that was loaded with them. -/
theorem storedCodes_savedOver (columns : UserColumns) (entity row : UserRow) :
    storedCodes platform (entity.savedOver columns row) =
      if columns = .mfa then storedCodes platform entity else storedCodes platform row := by
  have hcolumn : (entity.savedOver columns row).mfaRecoveryCodes =
      if columns = .mfa then entity.mfaRecoveryCodes else row.mfaRecoveryCodes := rfl
  split
  · next hmfa =>
      rw [if_pos hmfa] at hcolumn
      exact storedCodes_congr hcolumn
  · next hother =>
      rw [if_neg hother] at hcolumn
      exact storedCodes_congr hcolumn

/-- The codes of a user after a save. -/
theorem codesOf_saveUser (columns : UserColumns) (entity : UserRow) (userId : Uuid) :
    codesOf platform (w.saveUser columns entity) userId =
      if userId = entity.id then
        if columns = .mfa then storedCodes platform entity else codesOf platform w entity.id
      else codesOf platform w userId := by
  unfold codesOf
  rw [get_saveUser]
  by_cases hid : userId = entity.id
  · rw [if_pos hid, if_pos hid, Option.map_some, Option.getD_some]
    cases hrow : w.users.get entity.id with
    | none => exact storedCodes_savedOver columns entity _
    | some row => exact storedCodes_savedOver columns entity row
  · rw [if_neg hid, if_neg hid]

/-- What was used, replaced and is stored was there at the beginning or issued since. -/
def CodesConserved (platform : AccountPlatform Token) (start w : AccountWorld) : Prop :=
  ∀ userId code,
    w.total (CodeFact.usedTimes userId code) + w.total (CodeFact.replacedTimes userId code)
        + storedTimes platform w userId code
      ≤ storedTimes platform start userId code + w.total (CodeFact.issuedTimes userId code)

/-- How often the entries of a save count. -/
def SavePurpose.times (purpose : SavePurpose) (userId : Uuid) (stored : List String)
    (times : CodeFact → ℕ) : ℕ := ((purpose.codeFacts userId stored).map times).sum

theorem total_completeSave (purpose : SavePurpose) (entity : UserRow) (times : CodeFact → ℕ) :
    (completeSave platform w purpose entity).total times =
      w.total times + purpose.times entity.id (codesOf platform w entity.id) times := by
  rw [AccountWorld.total, completeSave_codes, List.map_append, List.sum_append]
  rfl

/-- The entries of a save are about its user. -/
theorem SavePurpose.times_of_ne (purpose : SavePurpose) {id userId : Uuid} (hid : userId ≠ id)
    (stored : List String) (code : String) :
    purpose.times id stored (CodeFact.usedTimes userId code) = 0 ∧
      purpose.times id stored (CodeFact.replacedTimes userId code) = 0 ∧
      purpose.times id stored (CodeFact.issuedTimes userId code) = 0 := by
  have hne : id ≠ userId := hid.symm
  cases purpose <;>
    simp [SavePurpose.times, SavePurpose.codeFacts, CodeFact.usedTimes, CodeFact.replacedTimes,
      CodeFact.issuedTimes, hne]

/-- The codes of the entity that a save writes, against those stored before it. -/
theorem SavePurpose.Saves.codes_conserved (hcipher : Deciphers platform) {purpose : SavePurpose}
    {loaded entity : UserRow} {input : AccountInput}
    (hsaves : purpose.Saves platform loaded entity)
    (hguard : SavesStoredCodes platform w (.saving purpose loaded entity) input)
    (hcolumns : purpose.columns = .mfa) (code : String) :
    purpose.times entity.id (codesOf platform w entity.id) (CodeFact.usedTimes entity.id code) +
        purpose.times entity.id (codesOf platform w entity.id)
          (CodeFact.replacedTimes entity.id code) +
        (storedCodes platform entity).count code
      ≤ (codesOf platform w entity.id).count code +
        purpose.times entity.id (codesOf platform w entity.id)
          (CodeFact.issuedTimes entity.id code) := by
  have hcodes := hsaves.codes
  have hissued : ∀ {ivs : ℕ → String} {recoveryCodes encrypted : List String},
      encryptRecoveryCodes platform.toAuthPlatform ivs recoveryCodes = .ok encrypted →
      entity.mfaRecoveryCodes = some encrypted →
      storedCodes platform entity = recoveryCodes.map normalizeRecoveryCode := by
    intro ivs recoveryCodes encrypted hencrypted hcolumn
    refine storedCodes_of_decrypt ?_
    rw [hcolumn]
    exact decryptRecoveryCodes_encrypt hcipher hencrypted
  cases purpose with
  | updated isActive => cases hcolumns
  | preferences => cases hcolumns
  | passwordChange => cases hcolumns
  | invitation => cases hcolumns
  | passwordReset => cases hcolumns
  | mfaSetup =>
      have hstored := List.Subperm.count_le hguard code
      rw [← storedCodes_congr hcodes, ← hsaves.id] at hstored
      simpa [SavePurpose.times, SavePurpose.codeFacts] using hstored
  | mfaConfirmation recoveryCodes =>
      obtain ⟨ivs, encrypted, hencrypted, hcolumn⟩ := hcodes
      simp [SavePurpose.times, SavePurpose.codeFacts, CodeFact.usedTimes, CodeFact.replacedTimes,
        CodeFact.issuedTimes, hissued hencrypted hcolumn]
  | regeneration recoveryCodes =>
      obtain ⟨ivs, encrypted, hencrypted, hcolumn⟩ := hcodes
      simp [SavePurpose.times, SavePurpose.codeFacts, CodeFact.usedTimes, CodeFact.replacedTimes,
        CodeFact.issuedTimes, hissued hencrypted hcolumn]
  | recovery used =>
      -- one code is taken out and the others are written back
      obtain ⟨codes, ivs, encrypted, i, entry, hdecrypted, hentry, hmatch, hencrypted, hcolumn⟩ :=
        hcodes
      have hstored := List.Subperm.count_le hguard code
      rw [← hsaves.id, storedCodes_of_decrypt hdecrypted, ← count_eraseIdx hentry code, hmatch]
        at hstored
      rw [hissued hencrypted hcolumn]
      simp only [SavePurpose.times, SavePurpose.codeFacts, List.map_cons, List.map_nil,
        List.sum_cons, List.sum_nil, CodeFact.usedTimes, CodeFact.replacedTimes,
        CodeFact.issuedTimes, true_and]
      omega
  | mfaRemoval =>
      have hnone : storedCodes platform entity = [] := by
        rw [storedCodes, hcodes]
        rfl
      simp [SavePurpose.times, SavePurpose.codeFacts, CodeFact.usedTimes, CodeFact.replacedTimes,
        CodeFact.issuedTimes, hnone]

/-- **A save of codes that are still stored conserves the codes.** -/
theorem codesConserved_completeSave (hcipher : Deciphers platform) {start : AccountWorld}
    (h : CodesConserved platform start w) {purpose : SavePurpose} {loaded entity : UserRow}
    {input : AccountInput} (hsaves : purpose.Saves platform loaded entity)
    (hguard : SavesStoredCodes platform w (.saving purpose loaded entity) input) :
    CodesConserved platform start (completeSave platform w purpose entity) := by
  intro userId code
  have hbefore := h userId code
  have hstored : storedTimes platform (completeSave platform w purpose entity) userId code =
      (codesOf platform (w.saveUser purpose.columns entity) userId).count code := by
    rw [storedTimes, codesOf, completeSave_users]
    rfl
  rw [total_completeSave, total_completeSave, total_completeSave, hstored, codesOf_saveUser]
  rw [storedTimes] at hbefore
  by_cases hid : userId = entity.id
  · subst hid
    rw [if_pos rfl]
    by_cases hcolumns : purpose.columns = .mfa
    · rw [if_pos hcolumns]
      have hsaved := hsaves.codes_conserved hcipher hguard hcolumns code
      omega
    · rw [if_neg hcolumns]
      have hnone : purpose.codeFacts entity.id (codesOf platform w entity.id) = [] := by
        cases purpose <;> first | rfl | exact absurd rfl hcolumns
      simp only [SavePurpose.times, hnone, List.map_nil, List.sum_nil]
      omega
  · obtain ⟨hused, hreplaced, hissued⟩ :=
      purpose.times_of_ne hid (codesOf platform w entity.id) code
    rw [if_neg hid, hused, hreplaced, hissued]
    omega

/-! ## The proof outline -/

theorem CodesConserved.of_eq {start w' : AccountWorld} (h : CodesConserved platform start w)
    (husers : w'.users = w.users) (hcodes : w'.codes = w.codes) :
    CodesConserved platform start w' := by
  intro userId code
  have hbefore := h userId code
  rw [AccountWorld.total, AccountWorld.total, AccountWorld.total, storedTimes, codesOf, hcodes,
    husers]
  exact hbefore

theorem codesConserved_delete {start : AccountWorld} (h : CodesConserved platform start w)
    (id : Uuid) : CodesConserved platform start { w with users := w.users.delete id } := by
  intro userId code
  have hfewer : storedTimes platform { w with users := w.users.delete id } userId code ≤
      storedTimes platform w userId code := by
    rw [storedTimes, codesOf, Table.get_delete]
    split
    · exact Nat.zero_le _
    · exact le_rfl
  exact (Nat.add_le_add_left hfewer _).trans (h userId code)

theorem codesConserved_starts {start : AccountWorld} (h : CodesConserved platform start w)
    {next : AccountStep} (hstarts : Starts platform w next) :
    CodesConserved platform start next.1 ∧ ∀ call, next.2 = some call → Sound platform call := by
  cases hstarts with
  | ended => exact ⟨h, fun _ hnext => absurd hnext (by simp)⟩
  | session row hrow hactive => exact ⟨h.of_eq rfl rfl, fun _ hnext => absurd hnext (by simp)⟩
  | called call hloaded hsound =>
      refine ⟨h, fun call' hnext => ?_⟩
      exact Option.some.inj hnext ▸ hsound

theorem codesConserved_resumes (hcipher : Deciphers platform) {start : AccountWorld}
    (h : CodesConserved platform start w) {call : PendingAccountCall} {input : AccountInput}
    (hsound : Sound platform call) (hguard : SavesStoredCodes platform w call input)
    {next : AccountStep} (hresumes : Resumes platform w call next) :
    CodesConserved platform start next.1 ∧ ∀ call', next.2 = some call' → Sound platform call' := by
  cases hresumes with
  | goesOn hgoes =>
      cases hgoes with
      | ended => exact ⟨h, fun _ hnext => absurd hnext (by simp)⟩
      | next call' hloaded hsound' =>
          refine ⟨h, fun call'' hnext => ?_⟩
          exact Option.some.inj hnext ▸ hsound'
  | removed user =>
      exact ⟨codesConserved_delete h user.id, fun _ hnext => absurd hnext (by simp)⟩
  | saved purpose loaded entity =>
      refine ⟨codesConserved_completeSave hcipher h hsound hguard, fun _ hnext => ?_⟩
      exact absurd hnext (by simp)
  | session user => exact ⟨h.of_eq rfl rfl, fun _ hnext => absurd hnext (by simp)⟩

/-- The proof outline of the calls. -/
theorem code_outline (hcipher : Deciphers platform) (start : AccountWorld) :
    Outline (accountCalls platform) accountEnv (fun _ _ _ => True) (SavesStoredCodes platform)
      (fun _ _ => True) (CodesConserved platform start) (fun _ => Sound platform) where
  invoke {w request input} h _ := codesConserved_starts h (invoke_starts request input w)
  resume {w call input} h hsound hguard :=
    codesConserved_resumes hcipher h hsound hguard (resume_resumes call input w)
  environment h _ := h.of_eq rfl rfl
  invoke_stable _ _ hsound := hsound
  resume_stable _ _ _ hother := hother
  environment_stable _ _ hsound := hsound

/-! ## Recovery codes are single-use -/

/-- A recovery that goes through has found its code stored. -/
theorem stored_of_verifyMfaRecovery {challengeToken : Token} {recoveryCode : String}
    {ivs : ℕ → String} {user : UserEntity}
    (h : AuthService.verifyMfaRecovery platform.toAuthPlatform w.entities challengeToken
      recoveryCode ivs w.clock = .ok user) :
    0 < storedTimes platform w user.id (normalizeRecoveryCode recoveryCode) := by
  obtain ⟨row, hrow, hsaves⟩ := verifyMfaRecovery_row h
  obtain ⟨codes, -, -, i, entry, hdecrypted, hentry, hmatch, -, -⟩ := hsaves.codes
  rw [storedTimes, codesOf, hrow, Option.map_some, Option.getD_some,
    storedCodes_of_decrypt hdecrypted, ← hmatch]
  exact List.count_pos_iff.mpr (List.mem_map_of_mem (List.mem_of_getElem? hentry))

/-- **Recovery codes are single-use** in every run, over any users and any codes, whose calls
write back only codes that are still stored. -/
theorem recoveryCodes_singleUse {Token : Type} (platform : AccountPlatform Token)
    (hcipher : Deciphers platform) (w : AccountWorld) (hw : w.codes = [])
    (es : List (AccountEvent Token))
    (hes : Along (accountStep platform) (ResumeGuard (SavesStoredCodes platform)) (Config.idle w)
      es) : SingleUseCodes platform w es := by
  have hstart : CodesConserved platform w w := by
    intro userId code
    simp [AccountWorld.total, hw]
  have hconserved : ∀ es₁ es₂, es = es₁ ++ es₂ →
      CodesConserved platform w (run (accountStep platform) (Config.idle w) es₁).world := by
    rintro es₁ es₂ rfl
    exact ((code_outline hcipher w).run (good_idle hstart) (along_append.mp hes).1).1
  constructor
  · intro es₁ es₂ hsplit userId code
    have hcount := hconserved es₁ es₂ hsplit userId code
    omega
  · rintro es₁ es₂ hsplit userId recoveryCode hspent challengeToken ivs user hrecovered rfl
    have hcount := hconserved es₁ es₂ hsplit user.id (normalizeRecoveryCode recoveryCode)
    have hpositive := stored_of_verifyMfaRecovery hrecovered
    omega

/-- The platform of the runs below: the cipher leaves its text as it is. -/
def transparentPlatform : AccountPlatform (JwtPayload × ℤ × ℤ) :=
  { sampleAccountPlatform with
    encryptSecretValue := fun _ value _ => value
    decryptSecretValue := fun encryptedValue _ => some encryptedValue }

/-- A user with MFA and two recovery codes. -/
def recoveryWorld : AccountWorld where
  users := ⟨[{ toUserEntity :=
    { sampleUser with mfaRecoveryCodes := some ["A1B2-C3D4", "E5F6-G7H8"] } }],
    List.nodup_singleton _⟩
  clock := 1773750731000

/-- Each of the two codes is used, one after the other. -/
def recoveryRun : List (AccountEvent (JwtPayload × ℤ × ℤ)) :=
  [.invoke 0 (.verifyMfaRecovery sampleChallenge "a1b2c3d4") {},
    .resume 0 {},
    .invoke 1 (.verifyMfaRecovery sampleChallenge "E5F6-G7H8") {},
    .resume 1 {}]

theorem recoveryCodes_singleUse_twice :
    (run (accountStep transparentPlatform) (Config.idle recoveryWorld) recoveryRun).world.codes
        = [.used "u1" "A1B2C3D4", .used "u1" "E5F6G7H8"] ∧
      SingleUseCodes transparentPlatform recoveryWorld recoveryRun :=
  ⟨by decide +kernel, recoveryCodes_singleUse transparentPlatform (fun _ _ => rfl) recoveryWorld rfl
    recoveryRun (by decide +kernel)⟩

/-- Two calls with one code, both between their loads and their saves. -/
def sharedCodeRun : List (AccountEvent (JwtPayload × ℤ × ℤ)) :=
  [.invoke 0 (.verifyMfaRecovery sampleChallenge "A1B2-C3D4") {},
    .invoke 1 (.verifyMfaRecovery sampleChallenge "A1B2-C3D4") {},
    .resume 0 {},
    .resume 1 {}]

/-- One code yields two sessions. -/
theorem sharedCode_usedTwice :
    ¬ ∀ {Token : Type} (platform : AccountPlatform Token), Deciphers platform →
      ∀ w : AccountWorld, w.codes = [] →
        ∀ es : List (AccountEvent Token), SingleUseCodes platform w es := by
  intro hall
  have honce := (hall transparentPlatform (fun _ _ => rfl) recoveryWorld rfl sharedCodeRun).once
    sharedCodeRun [] rfl "u1" "A1B2C3D4"
  exact absurd honce (by decide +kernel)

end UsersService
