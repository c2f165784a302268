import RecordProtection.Hmac

/-!
Key derivation by extracting from and expanding a secret, with labelled outputs.
-/

namespace RecordProtection

/-- An empty salt counts as a digest of zeros. -/
def hkdfExtract (algorithm : HashAlgorithm) (salt keyMaterial : Bytes) : Bytes :=
  let salt := if salt.isEmpty then Bytes.zeros algorithm.outputLength else salt
  hmac algorithm salt keyMaterial

/-- The output blocks from the `index`-th on, each depending on the one before. -/
def hkdfBlocks (algorithm : HashAlgorithm) (key info : Bytes) :
    (count : Nat) → (index : Nat) → (previous : Bytes) → Bytes
  | 0, _, _ => []
  | count + 1, index, previous =>
      let block := hmac algorithm key (previous ++ info ++ [UInt8.ofNat index])
      block ++ hkdfBlocks algorithm key info count (index + 1) block

/-- The key must be as long as a digest, and the output at most 255 digests long. -/
def hkdfExpand (algorithm : HashAlgorithm) (key info : Bytes) (length : Nat) :
    Except RecordError Bytes :=
  let width := algorithm.outputLength
  if key.length < width then
    .error (.invalidKeyLength width key.length)
  else if length > 255 * width then
    .error (.unsupportedOperation "HKDF output too long")
  else
    .ok ((hkdfBlocks algorithm key info ((length + width - 1) / width) 1 []).take length)

/-- The output length, the full label and the context, the latter two with their lengths. -/
def encodeLabel (labelPrefix label context : Bytes) (length : Nat) : Bytes :=
  Bytes.ofNatBE 2 length
    ++ UInt8.ofNat (labelPrefix ++ label).length :: (labelPrefix ++ label)
    ++ UInt8.ofNat context.length :: context

/-- Refuses what the length fields of the encoded label cannot hold. -/
def hkdfExpandLabel (algorithm : HashAlgorithm) (labelPrefix secret label context : Bytes)
    (length : Nat) : Except RecordError Bytes :=
  if (labelPrefix ++ label).length > 255 then
    .error (.unsupportedOperation "Label too long for HKDF-Expand-Label")
  else if context.length > 255 then
    .error (.unsupportedOperation "Context too long for HKDF-Expand-Label")
  else if length > 65535 then
    .error (.unsupportedOperation "Output length too large for HKDF-Expand-Label")
  else
    hkdfExpand algorithm secret (encodeLabel labelPrefix label context length) length

end RecordProtection
