import RecordProtection.Bytes

/-!
Authenticated encryption with additional data.
-/

namespace RecordProtection

/-- Encryption gives a ciphertext and a tag; decryption gives the plaintext back if the tag is
right.  Longer plaintexts than `maxLength` are refused. -/
structure Aead where
  tagLength : Nat
  maxLength : Nat
  encrypt : (nonce additionalData plaintext : Bytes) → Bytes × Bytes
  decrypt : (nonce additionalData ciphertext tag : Bytes) → Option Bytes

end RecordProtection
