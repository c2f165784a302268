import RecordProtection.Block.Cipher
import RecordProtection.Hash.Streebog

/-!
The Kuznyechik block cipher.
-/

namespace RecordProtection

namespace Kuznyechik

def inverseSubstitution : Array UInt8 := #[
    0xa5, 0x2d, 0x32, 0x8f, 0x0e, 0x30, 0x38, 0xc0, 0x54, 0xe6, 0x9e, 0x39, 0x55, 0x7e, 0x52, 0x91,
    0x64, 0x03, 0x57, 0x5a, 0x1c, 0x60, 0x07, 0x18, 0x21, 0x72, 0xa8, 0xd1, 0x29, 0xc6, 0xa4, 0x3f,
    0xe0, 0x27, 0x8d, 0x0c, 0x82, 0xea, 0xae, 0xb4, 0x9a, 0x63, 0x49, 0xe5, 0x42, 0xe4, 0x15, 0xb7,
    0xc8, 0x06, 0x70, 0x9d, 0x41, 0x75, 0x19, 0xc9, 0xaa, 0xfc, 0x4d, 0xbf, 0x2a, 0x73, 0x84, 0xd5,
    0xc3, 0xaf, 0x2b, 0x86, 0xa7, 0xb1, 0xb2, 0x5b, 0x46, 0xd3, 0x9f, 0xfd, 0xd4, 0x0f, 0x9c, 0x2f,
    0x9b, 0x43, 0xef, 0xd9, 0x79, 0xb6, 0x53, 0x7f, 0xc1, 0xf0, 0x23, 0xe7, 0x25, 0x5e, 0xb5, 0x1e,
    0xa2, 0xdf, 0xa6, 0xfe, 0xac, 0x22, 0xf9, 0xe2, 0x4a, 0xbc, 0x35, 0xca, 0xee, 0x78, 0x05, 0x6b,
    0x51, 0xe1, 0x59, 0xa3, 0xf2, 0x71, 0x56, 0x11, 0x6a, 0x89, 0x94, 0x65, 0x8c, 0xbb, 0x77, 0x3c,
    0x7b, 0x28, 0xab, 0xd2, 0x31, 0xde, 0xc4, 0x5f, 0xcc, 0xcf, 0x76, 0x2c, 0xb8, 0xd8, 0x2e, 0x36,
    0xdb, 0x69, 0xb3, 0x14, 0x95, 0xbe, 0x62, 0xa1, 0x3b, 0x16, 0x66, 0xe9, 0x5c, 0x6c, 0x6d, 0xad,
    0x37, 0x61, 0x4b, 0xb9, 0xe3, 0xba, 0xf1, 0xa0, 0x85, 0x83, 0xda, 0x47, 0xc5, 0xb0, 0x33, 0xfa,
    0x96, 0x6f, 0x6e, 0xc2, 0xf6, 0x50, 0xff, 0x5d, 0xa9, 0x8e, 0x17, 0x1b, 0x97, 0x7d, 0xec, 0x58,
    0xf7, 0x1f, 0xfb, 0x7c, 0x09, 0x0d, 0x7a, 0x67, 0x45, 0x87, 0xdc, 0xe8, 0x4f, 0x1d, 0x4e, 0x04,
    0xeb, 0xf8, 0xf3, 0x3e, 0x3d, 0xbd, 0x8a, 0x88, 0xdd, 0xcd, 0x0b, 0x13, 0x98, 0x02, 0x93, 0x80,
    0x90, 0xd0, 0x24, 0x34, 0xcb, 0xed, 0xf4, 0xce, 0x99, 0x10, 0x44, 0x40, 0x92, 0x3a, 0x01, 0x26,
    0x12, 0x1a, 0x48, 0x68, 0xf5, 0x81, 0x8b, 0xc7, 0xd6, 0x20, 0x0a, 0x08, 0x00, 0x4c, 0xd7, 0x74]

def substitute (block : Bytes) : Bytes :=
  block.map fun byte => Streebog.substitution.getD byte.toNat 0

def unsubstitute (block : Bytes) : Bytes :=
  block.map fun byte => inverseSubstitution.getD byte.toNat 0

/-- Multiplication by `X` modulo `X⁸ + X⁷ + X⁶ + X + 1`. -/
def double (byte : UInt8) : UInt8 :=
  (byte <<< 1) ^^^ (if byte &&& 0x80 = 0 then 0 else 0xc3)

def multiplyBits : (steps : Nat) → UInt8 → UInt8 → UInt8 → UInt8
  | 0, _, _, sum => sum
  | steps + 1, a, b, sum =>
      multiplyBits steps (double a) (b >>> 1) (if b &&& 1 = 1 then sum ^^^ a else sum)

def multiply (a b : UInt8) : UInt8 := multiplyBits 8 a b 0

/-- The coefficients of the linear feedback, for the bytes from left to right. -/
def coefficients : List UInt8 := [
    148, 32, 133, 16, 194, 192, 1, 251, 1, 192, 194, 16, 133, 32, 148, 1]

def multiples : List (Array UInt8) :=
  coefficients.map fun coefficient =>
    (Array.range 256).map fun byte => multiply coefficient (UInt8.ofNat byte)

def feedback (block : Bytes) : UInt8 :=
  (List.zipWith (fun table byte => table.getD byte.toNat 0) multiples block).foldl (· ^^^ ·) 0

/-- One step of the feedback register: the block moves to the right behind the new byte. -/
def shiftIn (block : Bytes) : Bytes := feedback block :: block.take 15

/-- The last coefficient is one, so the byte that left can be recovered. -/
def shiftOut : Bytes → Bytes
  | byte :: rest => rest ++ [feedback (rest ++ [byte])]
  | [] => []

def linear (block : Bytes) : Bytes := Nat.repeat shiftIn 16 block

def unlinear (block : Bytes) : Bytes := Nat.repeat shiftOut 16 block

def round (key block : Bytes) : Bytes := linear (substitute (Bytes.xor block key))

/-- The `i`-th constant of the key schedule is the linear image of the number `i`. -/
def keyConstants : Array Bytes := (Array.range 33).map fun i => linear (Bytes.ofNatBE 16 i)

/-- One round of the key schedule's network on the two key halves. -/
def keyRound (halves : Bytes × Bytes) (i : Nat) : Bytes × Bytes :=
  (Bytes.xor (round (keyConstants.getD i []) halves.1) halves.2, halves.1)

/-- Every eight rounds of the key schedule give two more round keys. -/
def roundKeysFrom : (steps : Nat) → (start : Nat) → Bytes × Bytes → List Bytes
  | 0, _, halves => [halves.1, halves.2]
  | steps + 1, start, halves =>
      halves.1 :: halves.2 ::
        roundKeysFrom steps (start + 8) ((List.range 8).foldl
          (fun halves i => keyRound halves (start + i)) halves)

def roundKeys (key : Bytes) : List Bytes := roundKeysFrom 4 1 (key.take 16, key.drop 16)

/-- The last key is added without a round. -/
def encryptBlock : List Bytes → Bytes → Bytes
  | [], block => block
  | [last], block => Bytes.xor block last
  | key :: keys, block => encryptBlock keys (round key block)

def decryptBlock : List Bytes → Bytes → Bytes
  | [], block => block
  | [last], block => Bytes.xor block last
  | key :: keys, block => Bytes.xor (unsubstitute (unlinear (decryptBlock keys block))) key

end Kuznyechik

def kuznyechik (key : Bytes) : BlockCipher :=
  let keys := Kuznyechik.roundKeys key
  { blockLength := 16
    encrypt := Kuznyechik.encryptBlock keys
    decrypt := Kuznyechik.decryptBlock keys }

end RecordProtection
