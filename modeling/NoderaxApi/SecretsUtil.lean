/-
# Stored secrets

`encryptSecretValue` and `decryptSecretValue` of `common/utils/secrets.util.ts`: the
initialization vector, the tag and the ciphertext of AES-256-GCM in one text.  A text that is cut
short has a shorter tag, and some lengths of tags the cipher takes as well.

**`decrypt_encrypt_secret`**: a stored secret is read back, also from a text with line breaks,
padding or other characters that the reader skips.  **`decryptSecretValue_iff`**: what is read was
sealed under the key, or is empty.
-/
import NoderaxApi.Base64Url
import NoderaxApi.RecoveryCodes
import NoderaxApi.Utf8

namespace SecretsUtil

open AuthService UsersService

/-! ## The cipher -/

/-- SHA-256 and AES-256-GCM.  The cipher answers a ciphertext and its tag; read back, a ciphertext
gives a plaintext and the tag that it should have. -/
structure Gcm where
  sha256 : List UInt8 → List UInt8
  encipher : (key iv plaintext : List UInt8) → List UInt8 × List UInt8
  decipher : (key iv ciphertext : List UInt8) → List UInt8 × List UInt8

/-- The cipher is a stream cipher, and its tag is a function of the ciphertext. -/
structure Gcm.Lawful (gcm : Gcm) : Prop where
  length_tag : ∀ key iv plaintext, (gcm.encipher key iv plaintext).2.length = 16
  length_ciphertext : ∀ key iv plaintext,
    (gcm.encipher key iv plaintext).1.length = plaintext.length
  decipher_encipher : ∀ key iv plaintext, gcm.decipher key iv (gcm.encipher key iv plaintext).1
    = (plaintext, (gcm.encipher key iv plaintext).2)
  encipher_decipher : ∀ key iv ciphertext, gcm.encipher key iv (gcm.decipher key iv ciphertext).1
    = (ciphertext, (gcm.decipher key iv ciphertext).2)

/-! ## The two functions -/

/-- `IV_LENGTH`. -/
def ivLength : ℕ := 12

/-- `AUTH_TAG_LENGTH`. -/
def authTagLength : ℕ := 16

/-- The lengths that `setAuthTag` takes. -/
def isTagLength (n : ℕ) : Bool := n = 4 || n = 8 || (12 ≤ n && n ≤ 16)

section

variable (gcm : Gcm)

/-- `deriveKey`. -/
def deriveKey (rawKey : String) : List UInt8 := gcm.sha256 (Utf8.encode rawKey.toList)

/-- `encryptSecretValue`, with the bytes of `randomBytes`. -/
def encryptSecretValue (iv : List UInt8) (value rawKey : String) : String :=
  let sealed := gcm.encipher (deriveKey gcm rawKey) iv (Utf8.encode value.toList)
  String.ofList (Base64Url.encode (iv ++ sealed.2 ++ sealed.1))

/-- `decryptSecretValue`, `none` where it throws. -/
def decryptSecretValue (encryptedValue rawKey : String) : Option String :=
  let input := Base64Url.decode encryptedValue.toList
  let iv := input.take ivLength
  let authTag := (input.drop ivLength).take authTagLength
  let encrypted := input.drop (ivLength + authTagLength)
  -- without a byte there is no vector, and `createDecipheriv` throws
  if iv.isEmpty || !isTagLength authTag.length then none
  else
    let decrypted := gcm.decipher (deriveKey gcm rawKey) iv encrypted
    if decrypted.2.take authTag.length = authTag then
      some (String.ofList (Utf8.decode decrypted.1))
    else none

end

variable {gcm : Gcm}

/-! ## The parts of an input -/

theorem isTagLength_bounds {n : ℕ} (h : isTagLength n = true) : 4 ≤ n ∧ n ≤ authTagLength := by
  simp only [isTagLength, Bool.or_eq_true, decide_eq_true_eq, Bool.and_eq_true] at h
  unfold authTagLength
  omega

theorem take_layout {iv tag ciphertext : List UInt8} (hiv : iv.length = ivLength) :
    (iv ++ tag ++ ciphertext).take ivLength = iv := by
  rw [List.append_assoc, ← hiv, List.take_left]

theorem drop_layout {iv tag ciphertext : List UInt8} (hiv : iv.length = ivLength) :
    (iv ++ tag ++ ciphertext).drop ivLength = tag ++ ciphertext := by
  rw [List.append_assoc, ← hiv, List.drop_left]

/-- The ciphertext, where the tag is whole or there is none. -/
theorem drop_tag_layout {iv tag ciphertext : List UInt8} (hiv : iv.length = ivLength)
    (htag : tag.length = authTagLength ∨ tag.length ≤ authTagLength ∧ ciphertext = []) :
    (tag ++ ciphertext).take authTagLength = tag ∧
      (iv ++ tag ++ ciphertext).drop (ivLength + authTagLength) = ciphertext := by
  rw [← List.drop_drop, drop_layout hiv]
  rcases htag with hwhole | ⟨hshort, rfl⟩
  · rw [← hwhole, List.take_left, List.drop_left]
    exact ⟨rfl, rfl⟩
  · rw [List.append_nil]
    exact ⟨List.take_of_length_le hshort, List.drop_eq_nil_of_le hshort⟩

/-! ## Reading what was written -/

/-- A text whose bytes have a whole tag, or part of one and nothing else. -/
theorem decryptSecretValue_of_layout (hgcm : gcm.Lawful) {text rawKey : String}
    {iv plaintext : List UInt8} {n : ℕ} (hiv : iv.length = ivLength) (hn : isTagLength n = true)
    (hwhole : n = authTagLength ∨ plaintext = [])
    (htext : Base64Url.decode text.toList
      = iv ++ (gcm.encipher (deriveKey gcm rawKey) iv plaintext).2.take n
          ++ (gcm.encipher (deriveKey gcm rawKey) iv plaintext).1) :
    decryptSecretValue gcm text rawKey = some (String.ofList (Utf8.decode plaintext)) := by
  have hle : n ≤ authTagLength := (isTagLength_bounds hn).2
  have htag : ((gcm.encipher (deriveKey gcm rawKey) iv plaintext).2.take n).length = n := by
    rw [List.length_take, hgcm.length_tag]
    exact Nat.min_eq_left hle
  have hlayout :
      ((gcm.encipher (deriveKey gcm rawKey) iv plaintext).2.take n).length = authTagLength ∨
      ((gcm.encipher (deriveKey gcm rawKey) iv plaintext).2.take n).length ≤ authTagLength ∧
        (gcm.encipher (deriveKey gcm rawKey) iv plaintext).1 = [] := by
    rw [htag]
    rcases hwhole with hn16 | hempty
    · exact Or.inl hn16
    · refine Or.inr ⟨hle, List.eq_nil_of_length_eq_zero ?_⟩
      rw [hgcm.length_ciphertext, hempty]
      rfl
  have hsome : iv.isEmpty = false := by
    cases iv with
    | nil => exact absurd hiv (by decide)
    | cons b rest => rfl
  obtain ⟨htake, hdrop⟩ := drop_tag_layout hiv hlayout
  unfold decryptSecretValue
  simp only [htext, take_layout hiv, drop_layout hiv, htake, hdrop, hgcm.decipher_encipher, htag,
    hn, hsome, Bool.not_true, Bool.or_false, Bool.false_eq_true, if_false, if_true]

/-- A text with the values of six bits of a stored secret, before the padding. -/
theorem decryptSecretValue_of_values (hgcm : gcm.Lawful) {iv : List UInt8}
    (hiv : iv.length = ivLength) (value rawKey : String) {text : String}
    (htext : Base64Url.valuesOf text.toList
      = Base64Url.valuesOf (encryptSecretValue gcm iv value rawKey).toList) :
    decryptSecretValue gcm text rawKey = some value := by
  unfold encryptSecretValue at htext
  rw [String.toList_ofList] at htext
  have hbytes := Base64Url.decode_of_values htext
  rw [← List.take_of_length_le (hgcm.length_tag _ _ _).le] at hbytes
  rw [decryptSecretValue_of_layout hgcm hiv rfl (Or.inl rfl) hbytes, Utf8.decode_encode,
    String.ofList_toList]

/-- What is read of a text depends on its bytes. -/
theorem decryptSecretValue_congr {text text' : String}
    (h : Base64Url.decode text.toList = Base64Url.decode text'.toList) (rawKey : String) :
    decryptSecretValue gcm text rawKey = decryptSecretValue gcm text' rawKey := by
  unfold decryptSecretValue
  rw [h]

/-- **A stored secret is read back**, from its text and from any text that has the same values of
six bits before the padding; and a character that is skipped may stand anywhere in any text. -/
theorem decrypt_encrypt_secret (hgcm : gcm.Lawful) {iv : List UInt8} (hiv : iv.length = ivLength)
    (value rawKey : String) {text : String}
    (htext : Base64Url.valuesOf text.toList
      = Base64Url.valuesOf (encryptSecretValue gcm iv value rawKey).toList) :
    decryptSecretValue gcm text rawKey = some value ∧
      ∀ c, Base64Url.IsSkipped c → ∀ before after,
        decryptSecretValue gcm (String.ofList (before ++ c :: after)) rawKey =
          decryptSecretValue gcm (String.ofList (before ++ after)) rawKey := by
  refine ⟨decryptSecretValue_of_values hgcm hiv value rawKey htext, fun c hc before after => ?_⟩
  refine decryptSecretValue_congr ?_ rawKey
  rw [String.toList_ofList, String.toList_ofList]
  exact Base64Url.decode_skip hc before after

/-- The bytes of a key stream on the bytes of a text. -/
def xorStream : List UInt8 → List UInt8 → List UInt8
  | k :: stream, b :: input => (k ^^^ b) :: xorStream stream input
  | _, input => input

theorem xorStream_xorStream (stream input : List UInt8) :
    xorStream stream (xorStream stream input) = input := by
  fun_induction xorStream stream input with
  | case1 k stream b input ih =>
      rw [xorStream, ih, ← UInt8.xor_assoc, UInt8.xor_self, UInt8.zero_xor]
  | case2 stream input hcases =>
      rw [xorStream]
      exact hcases

theorem length_xorStream (stream input : List UInt8) :
    (xorStream stream input).length = input.length := by
  fun_induction xorStream stream input with
  | case1 k stream b input ih => rw [List.length_cons, List.length_cons, ih]
  | case2 stream input hcases => rfl

/-- The tag of the empty text, and that of the secret below. -/
def sampleTag : List UInt8 → List UInt8
  | [] => [252, 182, 249, 214, 69, 57, 167, 209, 167, 94, 95, 204, 156, 169, 163, 6]
  | _ => [70, 219, 200, 196, 255, 166, 162, 63, 102, 73, 154, 149, 83, 123, 61, 70]

/-- The values of the cipher for one key and one vector. -/
def sampleGcm : Gcm where
  sha256 _ := [42, 187, 171, 64, 12, 48, 227, 221, 17, 84, 126, 107, 195, 175, 19, 143, 143, 88,
    173, 55, 137, 70, 73, 104, 2, 32, 207, 224, 40, 122, 220, 255]
  encipher _ _ plaintext := (xorStream sampleStream plaintext,
    sampleTag (xorStream sampleStream plaintext))
  decipher _ _ ciphertext := (xorStream sampleStream ciphertext, sampleTag ciphertext)
where
  sampleStream : List UInt8 :=
    [219, 126, 91, 140, 80, 54, 9, 20, 150, 118, 116, 38, 7, 170, 166, 145]

theorem sampleGcm_lawful : sampleGcm.Lawful where
  length_tag := by
    intro key iv plaintext
    show (sampleTag _).length = 16
    unfold sampleTag
    split <;> rfl
  length_ciphertext := fun _ _ plaintext => length_xorStream _ plaintext
  decipher_encipher := fun _ _ plaintext => Prod.ext (xorStream_xorStream _ plaintext) rfl
  encipher_decipher := fun _ _ ciphertext =>
    Prod.ext (xorStream_xorStream _ ciphertext) (congrArg sampleTag (xorStream_xorStream _ _))

theorem decrypt_encrypt_secret_lines :
    decryptSecretValue sampleGcm
        "AAECAwQFBgcICQoLRtvIxP+moj9m\nSZqVU3s9RpE8CNsJBU1E0z4kbTT6/sE=\n"
        "noderax-local-secrets-key-change-me" = some "JBSWY3DPEHPK3PXP" :=
  (decrypt_encrypt_secret sampleGcm_lawful
    (by decide : ([0, 1, 2, 3, 4, 5, 6, 7, 8, 9, 10, 11] : List UInt8).length = ivLength) _ _
    (by decide +kernel)).1

/-- The text is a vector, a tag or its beginning, and a ciphertext, under the key.  Only an empty
secret has a tag that is not whole. -/
structure SealedAs (gcm : Gcm) (rawKey value text : String) (iv plaintext : List UInt8) (n : ℕ) :
    Prop where
  iv_length : iv.length = ivLength
  tag_length : isTagLength n = true
  whole : n = authTagLength ∨ plaintext = []
  text_eq : Base64Url.decode text.toList
    = iv ++ (gcm.encipher (deriveKey gcm rawKey) iv plaintext).2.take n
        ++ (gcm.encipher (deriveKey gcm rawKey) iv plaintext).1
  value_eq : value = String.ofList (Utf8.decode plaintext)

/-- **What is read was sealed under the key**, or is empty. -/
theorem decryptSecretValue_iff (hgcm : gcm.Lawful) {text rawKey value : String} :
    decryptSecretValue gcm text rawKey = some value ↔
      ∃ iv plaintext n, SealedAs gcm rawKey value text iv plaintext n := by
  constructor
  · intro h
    simp only [decryptSecretValue] at h
    split at h
    · cases h
    next hchecks =>
      split at h
      next hverified =>
        simp only [Bool.or_eq_true, not_or, Bool.not_eq_true] at hchecks
        obtain ⟨-, htag⟩ := hchecks
        rw [Bool.not_eq_false'] at htag
        generalize hinput : Base64Url.decode text.toList = input at *
        generalize hdecrypted : gcm.decipher (deriveKey gcm rawKey) (input.take ivLength)
          (input.drop (ivLength + authTagLength)) = decrypted at *
        have hsealed := hgcm.encipher_decipher (deriveKey gcm rawKey) (input.take ivLength)
          (input.drop (ivLength + authTagLength))
        rw [hdecrypted] at hsealed
        have hplaintext : (input.drop (ivLength + authTagLength)).length = decrypted.1.length := by
          have hlength := hgcm.length_ciphertext (deriveKey gcm rawKey) (input.take ivLength)
            decrypted.1
          rw [hsealed] at hlength
          exact hlength
        -- a tag of some length is there, so the vector is whole
        have hlengths : ((input.drop ivLength).take authTagLength).length
            = min authTagLength (input.length - ivLength) := by
          rw [List.length_take, List.length_drop]
        have hlong : 16 ≤ input.length := by
          have hbounds := isTagLength_bounds htag
          rw [hlengths] at hbounds
          unfold ivLength authTagLength at hbounds
          omega
        refine ⟨input.take ivLength, decrypted.1, _, ?_, htag, ?_, ?_, (Option.some.inj h).symm⟩
        · rw [List.length_take]
          unfold ivLength
          omega
        · rw [hlengths]
          by_cases hfull : authTagLength ≤ input.length - ivLength
          · exact Or.inl (Nat.min_eq_left hfull)
          · refine Or.inr (List.eq_nil_of_length_eq_zero ?_)
            rw [← hplaintext, List.length_drop]
            omega
        · rw [hinput, hsealed, hverified, List.append_assoc, ← List.drop_drop,
            List.take_append_drop, List.take_append_drop]
      · cases h
  · rintro ⟨iv, plaintext, n, h⟩
    rw [h.value_eq]
    exact decryptSecretValue_of_layout hgcm h.iv_length h.tag_length h.whole h.text_eq

/-- The first four bytes of the tag of the empty text are a secret too. -/
theorem decryptSecretValue_iff_short_tag :
    decryptSecretValue sampleGcm "AAECAwQFBgcICQoL_Lb51g"
        "noderax-local-secrets-key-change-me" = some "" ∧
      ∃ iv plaintext n, SealedAs sampleGcm "noderax-local-secrets-key-change-me" ""
        "AAECAwQFBgcICQoL_Lb51g" iv plaintext n := by
  have hread : decryptSecretValue sampleGcm "AAECAwQFBgcICQoL_Lb51g"
      "noderax-local-secrets-key-change-me" = some "" := by decide +kernel
  exact ⟨hread, (decryptSecretValue_iff sampleGcm_lawful).mp hread⟩

/-- What the recovery codes ask of the cipher. -/
theorem deciphers_secrets {Token : Type} (platform : AccountPlatform Token) (hgcm : gcm.Lawful)
    {randomBytes : String → List UInt8} (hrandom : ∀ iv, (randomBytes iv).length = ivLength) :
    Deciphers { platform with
      encryptSecretValue := fun iv => encryptSecretValue gcm (randomBytes iv)
      decryptSecretValue := decryptSecretValue gcm } := by
  intro iv value
  dsimp only
  exact decryptSecretValue_of_values hgcm (hrandom iv) value platform.secretsEncryptionKey rfl

end SecretsUtil
