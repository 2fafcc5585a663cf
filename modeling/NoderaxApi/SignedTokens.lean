/-
# Signed tokens that expire

A `Signer` signs a payload together with its two dates and verifies tokens at a
given time.  It is lawful when it verifies what it signed, until that expires;
what it does with other tokens is left open.
-/
import Mathlib.Data.Int.Order.Basic

/-! ## Signers -/

/-- Why a token is refused. -/
inductive TokenRefusal
  | expired
  | notActive
  | malformed
  deriving DecidableEq, Repr

/-- Signing with one secret, and verifying at a time. -/
structure Signer (Payload Token : Type) where
  sign : Payload → (issuedAt expiresAt : ℤ) → Token
  verify : (now : ℤ) → Token → Except TokenRefusal Payload

namespace Signer

variable {Payload Token : Type} {signer : Signer Payload Token}

/-- The signer accepts its own tokens until they expire. -/
structure Lawful (signer : Signer Payload Token) : Prop where
  verify_sign : ∀ payload issuedAt expiresAt now,
    signer.verify now (signer.sign payload issuedAt expiresAt)
      = if now < expiresAt then .ok payload else .error .expired

/-- A token is accepted before its expiry only, and then for what was signed. -/
theorem Lawful.verify_sign_eq_ok (h : signer.Lawful) {payload payload' : Payload}
    {issuedAt expiresAt now : ℤ} :
    signer.verify now (signer.sign payload issuedAt expiresAt) = .ok payload' ↔
      now < expiresAt ∧ payload = payload' := by
  rw [h.verify_sign]
  by_cases hlive : now < expiresAt
  · rw [if_pos hlive]
    constructor
    · intro heq
      exact ⟨hlive, Except.ok.inj heq⟩
    · rintro ⟨-, rfl⟩
      rfl
  · rw [if_neg hlive]
    constructor
    · intro heq
      cases heq
    · rintro ⟨hlt, -⟩
      exact absurd hlt hlive

/-- The signer whose tokens are what was signed. -/
def transparent (Payload : Type) : Signer Payload (Payload × ℤ × ℤ) where
  sign payload issuedAt expiresAt := (payload, issuedAt, expiresAt)
  verify now token := if now < token.2.2 then .ok token.1 else .error .expired

theorem transparent_lawful (Payload : Type) : (transparent Payload).Lawful where
  verify_sign _ _ _ _ := rfl

end Signer
