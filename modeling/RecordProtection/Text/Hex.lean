import RecordProtection.Bytes

/-!
Byte strings written with two hexadecimal digits a byte, and read back: `decode_encode`.
-/

namespace RecordProtection.Hex

def digit (value : Nat) : Char :=
  if value < 10 then Char.ofNat (48 + value) else Char.ofNat (87 + value)

def digitValue? (c : Char) : Option Nat :=
  if '0' ≤ c ∧ c ≤ '9' then some (c.toNat - 48)
  else if 'a' ≤ c ∧ c ≤ 'f' then some (c.toNat - 87)
  else if 'A' ≤ c ∧ c ≤ 'F' then some (c.toNat - 55)
  else none

/-- The high half of a byte comes first. -/
def digits (byte : UInt8) : List Char := [digit (byte.toNat / 16), digit (byte.toNat % 16)]

/-- Reads digits in pairs, with the bytes read before them in reverse. -/
def decodeOnto (before : Bytes) : List Char → Option Bytes
  | [] => some before.reverse
  | [_] => none
  | high :: low :: rest =>
      match digitValue? high, digitValue? low with
      | some high, some low => decodeOnto (UInt8.ofNat (16 * high + low) :: before) rest
      | _, _ => none

def encode (bytes : Bytes) : String := String.ofList (bytes.flatMap digits)

def decode? (text : String) : Option Bytes := decodeOnto [] text.toList

theorem digitValue?_digit : ∀ value < 16, digitValue? (digit value) = some value := by decide

theorem decodeOnto_digits (before bytes : Bytes) :
    decodeOnto before (bytes.flatMap digits) = some (before.reverse ++ bytes) := by
  induction bytes generalizing before with
  | nil => simp [decodeOnto]
  | cons byte rest ih =>
      have small : byte.toNat < 256 := byte.toNat_lt
      have high := digitValue?_digit (byte.toNat / 16) (by omega)
      have low := digitValue?_digit (byte.toNat % 16) (by omega)
      have whole : 16 * (byte.toNat / 16) + byte.toNat % 16 = byte.toNat := by omega
      simp [digits, decodeOnto, high, low, whole, ih]

theorem decode_encode (bytes : Bytes) : decode? (encode bytes) = some bytes := by
  simp [decode?, encode, decodeOnto_digits]

end RecordProtection.Hex
