import RecordProtection.Block.Aes

/-!
The ARIA block cipher with keys of 128, 192 and 256 bits.
-/

namespace RecordProtection

namespace Aria

/-- The second of the two substitutions; the first one is that of AES. -/
def substitution : Array UInt8 := #[
    0xe2, 0x4e, 0x54, 0xfc, 0x94, 0xc2, 0x4a, 0xcc, 0x62, 0x0d, 0x6a, 0x46, 0x3c, 0x4d, 0x8b, 0xd1,
    0x5e, 0xfa, 0x64, 0xcb, 0xb4, 0x97, 0xbe, 0x2b, 0xbc, 0x77, 0x2e, 0x03, 0xd3, 0x19, 0x59, 0xc1,
    0x1d, 0x06, 0x41, 0x6b, 0x55, 0xf0, 0x99, 0x69, 0xea, 0x9c, 0x18, 0xae, 0x63, 0xdf, 0xe7, 0xbb,
    0x00, 0x73, 0x66, 0xfb, 0x96, 0x4c, 0x85, 0xe4, 0x3a, 0x09, 0x45, 0xaa, 0x0f, 0xee, 0x10, 0xeb,
    0x2d, 0x7f, 0xf4, 0x29, 0xac, 0xcf, 0xad, 0x91, 0x8d, 0x78, 0xc8, 0x95, 0xf9, 0x2f, 0xce, 0xcd,
    0x08, 0x7a, 0x88, 0x38, 0x5c, 0x83, 0x2a, 0x28, 0x47, 0xdb, 0xb8, 0xc7, 0x93, 0xa4, 0x12, 0x53,
    0xff, 0x87, 0x0e, 0x31, 0x36, 0x21, 0x58, 0x48, 0x01, 0x8e, 0x37, 0x74, 0x32, 0xca, 0xe9, 0xb1,
    0xb7, 0xab, 0x0c, 0xd7, 0xc4, 0x56, 0x42, 0x26, 0x07, 0x98, 0x60, 0xd9, 0xb6, 0xb9, 0x11, 0x40,
    0xec, 0x20, 0x8c, 0xbd, 0xa0, 0xc9, 0x84, 0x04, 0x49, 0x23, 0xf1, 0x4f, 0x50, 0x1f, 0x13, 0xdc,
    0xd8, 0xc0, 0x9e, 0x57, 0xe3, 0xc3, 0x7b, 0x65, 0x3b, 0x02, 0x8f, 0x3e, 0xe8, 0x25, 0x92, 0xe5,
    0x15, 0xdd, 0xfd, 0x17, 0xa9, 0xbf, 0xd4, 0x9a, 0x7e, 0xc5, 0x39, 0x67, 0xfe, 0x76, 0x9d, 0x43,
    0xa7, 0xe1, 0xd0, 0xf5, 0x68, 0xf2, 0x1b, 0x34, 0x70, 0x05, 0xa3, 0x8a, 0xd5, 0x79, 0x86, 0xa8,
    0x30, 0xc6, 0x51, 0x4b, 0x1e, 0xa6, 0x27, 0xf6, 0x35, 0xd2, 0x6e, 0x24, 0x16, 0x82, 0x5f, 0xda,
    0xe6, 0x75, 0xa2, 0xef, 0x2c, 0xb2, 0x1c, 0x9f, 0x5d, 0x6f, 0x80, 0x0a, 0x72, 0x44, 0x9b, 0x6c,
    0x90, 0x0b, 0x5b, 0x33, 0x7d, 0x5a, 0x52, 0xf3, 0x61, 0xa1, 0xf7, 0xb0, 0xd6, 0x3f, 0x7c, 0x6d,
    0xed, 0x14, 0xe0, 0xa5, 0x3d, 0x22, 0xb3, 0xf8, 0x89, 0xde, 0x71, 0x1a, 0xaf, 0xba, 0xb5, 0x81]

def inverseSubstitution : Array UInt8 := #[
    0x30, 0x68, 0x99, 0x1b, 0x87, 0xb9, 0x21, 0x78, 0x50, 0x39, 0xdb, 0xe1, 0x72, 0x09, 0x62, 0x3c,
    0x3e, 0x7e, 0x5e, 0x8e, 0xf1, 0xa0, 0xcc, 0xa3, 0x2a, 0x1d, 0xfb, 0xb6, 0xd6, 0x20, 0xc4, 0x8d,
    0x81, 0x65, 0xf5, 0x89, 0xcb, 0x9d, 0x77, 0xc6, 0x57, 0x43, 0x56, 0x17, 0xd4, 0x40, 0x1a, 0x4d,
    0xc0, 0x63, 0x6c, 0xe3, 0xb7, 0xc8, 0x64, 0x6a, 0x53, 0xaa, 0x38, 0x98, 0x0c, 0xf4, 0x9b, 0xed,
    0x7f, 0x22, 0x76, 0xaf, 0xdd, 0x3a, 0x0b, 0x58, 0x67, 0x88, 0x06, 0xc3, 0x35, 0x0d, 0x01, 0x8b,
    0x8c, 0xc2, 0xe6, 0x5f, 0x02, 0x24, 0x75, 0x93, 0x66, 0x1e, 0xe5, 0xe2, 0x54, 0xd8, 0x10, 0xce,
    0x7a, 0xe8, 0x08, 0x2c, 0x12, 0x97, 0x32, 0xab, 0xb4, 0x27, 0x0a, 0x23, 0xdf, 0xef, 0xca, 0xd9,
    0xb8, 0xfa, 0xdc, 0x31, 0x6b, 0xd1, 0xad, 0x19, 0x49, 0xbd, 0x51, 0x96, 0xee, 0xe4, 0xa8, 0x41,
    0xda, 0xff, 0xcd, 0x55, 0x86, 0x36, 0xbe, 0x61, 0x52, 0xf8, 0xbb, 0x0e, 0x82, 0x48, 0x69, 0x9a,
    0xe0, 0x47, 0x9e, 0x5c, 0x04, 0x4b, 0x34, 0x15, 0x79, 0x26, 0xa7, 0xde, 0x29, 0xae, 0x92, 0xd7,
    0x84, 0xe9, 0xd2, 0xba, 0x5d, 0xf3, 0xc5, 0xb0, 0xbf, 0xa4, 0x3b, 0x71, 0x44, 0x46, 0x2b, 0xfc,
    0xeb, 0x6f, 0xd5, 0xf6, 0x14, 0xfe, 0x7c, 0x70, 0x5a, 0x7d, 0xfd, 0x2f, 0x18, 0x83, 0x16, 0xa5,
    0x91, 0x1f, 0x05, 0x95, 0x74, 0xa9, 0xc1, 0x5b, 0x4a, 0x85, 0x6d, 0x13, 0x07, 0x4f, 0x4e, 0x45,
    0xb2, 0x0f, 0xc9, 0x1c, 0xa6, 0xbc, 0xec, 0x73, 0x90, 0x7b, 0xcf, 0x59, 0x8f, 0xa1, 0xf9, 0x2d,
    0xf2, 0xb1, 0x00, 0x94, 0x37, 0x9f, 0xd0, 0x2e, 0x9c, 0x6e, 0x28, 0x3f, 0x80, 0xf0, 0x3d, 0xd3,
    0x25, 0x8a, 0xb5, 0xe7, 0x42, 0xb3, 0xc7, 0xea, 0xf7, 0x4c, 0x11, 0x33, 0x03, 0xa2, 0xac, 0x60]

/-- The substitution of odd rounds: both boxes and their inverses in turn. -/
def substituteOdd : Bytes → Bytes
  | a :: b :: c :: d :: rest =>
      Aes.substitution.getD a.toNat 0 :: substitution.getD b.toNat 0
        :: Aes.inverseSubstitution.getD c.toNat 0 :: inverseSubstitution.getD d.toNat 0
        :: substituteOdd rest
  | rest => rest

/-- The substitution of even rounds, the inverse of the other one. -/
def substituteEven : Bytes → Bytes
  | a :: b :: c :: d :: rest =>
      Aes.inverseSubstitution.getD a.toNat 0 :: inverseSubstitution.getD b.toNat 0
        :: Aes.substitution.getD c.toNat 0 :: substitution.getD d.toNat 0
        :: substituteEven rest
  | rest => rest

/-- Each byte becomes the sum of seven others; the map is its own inverse. -/
def diffuse : Bytes → Bytes
  | [x₀, x₁, x₂, x₃, x₄, x₅, x₆, x₇, x₈, x₉, x₁₀, x₁₁, x₁₂, x₁₃, x₁₄, x₁₅] => [
      x₃ ^^^ x₄ ^^^ x₆ ^^^ x₈ ^^^ x₉ ^^^ x₁₃ ^^^ x₁₄,
      x₂ ^^^ x₅ ^^^ x₇ ^^^ x₈ ^^^ x₉ ^^^ x₁₂ ^^^ x₁₅,
      x₁ ^^^ x₄ ^^^ x₆ ^^^ x₁₀ ^^^ x₁₁ ^^^ x₁₂ ^^^ x₁₅,
      x₀ ^^^ x₅ ^^^ x₇ ^^^ x₁₀ ^^^ x₁₁ ^^^ x₁₃ ^^^ x₁₄,
      x₀ ^^^ x₂ ^^^ x₅ ^^^ x₈ ^^^ x₁₁ ^^^ x₁₄ ^^^ x₁₅,
      x₁ ^^^ x₃ ^^^ x₄ ^^^ x₉ ^^^ x₁₀ ^^^ x₁₄ ^^^ x₁₅,
      x₀ ^^^ x₂ ^^^ x₇ ^^^ x₉ ^^^ x₁₀ ^^^ x₁₂ ^^^ x₁₃,
      x₁ ^^^ x₃ ^^^ x₆ ^^^ x₈ ^^^ x₁₁ ^^^ x₁₂ ^^^ x₁₃,
      x₀ ^^^ x₁ ^^^ x₄ ^^^ x₇ ^^^ x₁₀ ^^^ x₁₃ ^^^ x₁₅,
      x₀ ^^^ x₁ ^^^ x₅ ^^^ x₆ ^^^ x₁₁ ^^^ x₁₂ ^^^ x₁₄,
      x₂ ^^^ x₃ ^^^ x₅ ^^^ x₆ ^^^ x₈ ^^^ x₁₃ ^^^ x₁₅,
      x₂ ^^^ x₃ ^^^ x₄ ^^^ x₇ ^^^ x₉ ^^^ x₁₂ ^^^ x₁₄,
      x₁ ^^^ x₂ ^^^ x₆ ^^^ x₇ ^^^ x₉ ^^^ x₁₁ ^^^ x₁₂,
      x₀ ^^^ x₃ ^^^ x₆ ^^^ x₇ ^^^ x₈ ^^^ x₁₀ ^^^ x₁₃,
      x₀ ^^^ x₃ ^^^ x₄ ^^^ x₅ ^^^ x₉ ^^^ x₁₁ ^^^ x₁₄,
      x₁ ^^^ x₂ ^^^ x₄ ^^^ x₅ ^^^ x₈ ^^^ x₁₀ ^^^ x₁₅]
  | block => block

def oddRound (key block : Bytes) : Bytes := diffuse (substituteOdd (Bytes.xor block key))

def evenRound (key block : Bytes) : Bytes := diffuse (substituteEven (Bytes.xor block key))

/-- Odd and even rounds in turn; the last round adds the last key instead of diffusing. -/
def crypt : List Bytes → Bytes → Bytes
  | first :: second :: third :: fourth :: rest, block =>
      crypt (third :: fourth :: rest) (evenRound second (oddRound first block))
  | [first, second, last], block =>
      Bytes.xor (substituteEven (Bytes.xor (oddRound first block) second)) last
  | _, block => block

def rotate (bits : Nat) (block : Bytes) : Bytes :=
  let value := Bytes.toNatBE block
  Bytes.ofNatBE 16 (value <<< bits ||| value >>> (128 - bits))

def constants : List Bytes := [
    Bytes.ofNatBE 16 0x517cc1b727220a94fe13abe8fa9a6ee0,
    Bytes.ofNatBE 16 0x6db14acc9e21c820ff28b1d5ef5de2b0,
    Bytes.ofNatBE 16 0xdb92371d2126e9700324977504e8c90e]

/-- The round constants in the order that belongs to the key length. -/
def keyConstants (keyLength : Nat) : List Bytes :=
  let turn := (keyLength - 16) / 8
  constants.drop turn ++ constants.take turn

/-- Four values mixed from the key; every round key is a sum of one with a rotated neighbour. -/
def mixKey (key : Bytes) : List Bytes :=
  let left := key.take 16
  let right := key.drop 16 ++ Bytes.zeros (32 - key.length)
  match keyConstants key.length with
  | [c₁, c₂, c₃] =>
      let w₁ := Bytes.xor (oddRound c₁ left) right
      let w₂ := Bytes.xor (evenRound c₂ w₁) left
      let w₃ := Bytes.xor (oddRound c₃ w₂) w₁
      [left, w₁, w₂, w₃]
  | _ => []

/-- Four round keys for each of the rotations, as many in all as there are rounds and one. -/
def roundKeys (key : Bytes) : List Bytes :=
  match mixKey key with
  | [w₀, w₁, w₂, w₃] =>
      let keys := [109, 97, 61, 31, 19].flatMap fun bits => [
        Bytes.xor w₀ (rotate bits w₁), Bytes.xor w₁ (rotate bits w₂),
        Bytes.xor w₂ (rotate bits w₃), Bytes.xor w₃ (rotate bits w₀)]
      keys.take (key.length / 4 + 9)
  | _ => []

/-- Decryption is the same network under the keys from back to front, the inner ones diffused. -/
def inverseKeys (keys : List Bytes) : List Bytes :=
  match keys.reverse with
  | [] => []
  | first :: rest => first :: (rest.dropLast.map diffuse ++ rest.getLast?.toList)

end Aria

def aria (key : Bytes) : BlockCipher :=
  let keys := Aria.roundKeys key
  let inverse := Aria.inverseKeys keys
  { blockLength := 16, encrypt := Aria.crypt keys, decrypt := Aria.crypt inverse }

end RecordProtection
