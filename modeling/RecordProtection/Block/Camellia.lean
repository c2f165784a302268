import RecordProtection.Block.Cipher

/-!
The Camellia block cipher with keys of 128, 192 and 256 bits: a Feistel network on 64-bit halves
with a keyed linear layer after every six rounds.
-/

namespace RecordProtection

namespace Camellia

def substitution : Array UInt8 := #[
    0x70, 0x82, 0x2c, 0xec, 0xb3, 0x27, 0xc0, 0xe5, 0xe4, 0x85, 0x57, 0x35, 0xea, 0x0c, 0xae, 0x41,
    0x23, 0xef, 0x6b, 0x93, 0x45, 0x19, 0xa5, 0x21, 0xed, 0x0e, 0x4f, 0x4e, 0x1d, 0x65, 0x92, 0xbd,
    0x86, 0xb8, 0xaf, 0x8f, 0x7c, 0xeb, 0x1f, 0xce, 0x3e, 0x30, 0xdc, 0x5f, 0x5e, 0xc5, 0x0b, 0x1a,
    0xa6, 0xe1, 0x39, 0xca, 0xd5, 0x47, 0x5d, 0x3d, 0xd9, 0x01, 0x5a, 0xd6, 0x51, 0x56, 0x6c, 0x4d,
    0x8b, 0x0d, 0x9a, 0x66, 0xfb, 0xcc, 0xb0, 0x2d, 0x74, 0x12, 0x2b, 0x20, 0xf0, 0xb1, 0x84, 0x99,
    0xdf, 0x4c, 0xcb, 0xc2, 0x34, 0x7e, 0x76, 0x05, 0x6d, 0xb7, 0xa9, 0x31, 0xd1, 0x17, 0x04, 0xd7,
    0x14, 0x58, 0x3a, 0x61, 0xde, 0x1b, 0x11, 0x1c, 0x32, 0x0f, 0x9c, 0x16, 0x53, 0x18, 0xf2, 0x22,
    0xfe, 0x44, 0xcf, 0xb2, 0xc3, 0xb5, 0x7a, 0x91, 0x24, 0x08, 0xe8, 0xa8, 0x60, 0xfc, 0x69, 0x50,
    0xaa, 0xd0, 0xa0, 0x7d, 0xa1, 0x89, 0x62, 0x97, 0x54, 0x5b, 0x1e, 0x95, 0xe0, 0xff, 0x64, 0xd2,
    0x10, 0xc4, 0x00, 0x48, 0xa3, 0xf7, 0x75, 0xdb, 0x8a, 0x03, 0xe6, 0xda, 0x09, 0x3f, 0xdd, 0x94,
    0x87, 0x5c, 0x83, 0x02, 0xcd, 0x4a, 0x90, 0x33, 0x73, 0x67, 0xf6, 0xf3, 0x9d, 0x7f, 0xbf, 0xe2,
    0x52, 0x9b, 0xd8, 0x26, 0xc8, 0x37, 0xc6, 0x3b, 0x81, 0x96, 0x6f, 0x4b, 0x13, 0xbe, 0x63, 0x2e,
    0xe9, 0x79, 0xa7, 0x8c, 0x9f, 0x6e, 0xbc, 0x8e, 0x29, 0xf5, 0xf9, 0xb6, 0x2f, 0xfd, 0xb4, 0x59,
    0x78, 0x98, 0x06, 0x6a, 0xe7, 0x46, 0x71, 0xba, 0xd4, 0x25, 0xab, 0x42, 0x88, 0xa2, 0x8d, 0xfa,
    0x72, 0x07, 0xb9, 0x55, 0xf8, 0xee, 0xac, 0x0a, 0x36, 0x49, 0x2a, 0x68, 0x3c, 0x38, 0xf1, 0xa4,
    0x40, 0x28, 0xd3, 0x7b, 0xbb, 0xc9, 0x43, 0xc1, 0x15, 0xe3, 0xad, 0xf4, 0x77, 0xc7, 0x80, 0x9e]

def rotateByte (byte amount : UInt8) : UInt8 := byte <<< amount ||| byte >>> (8 - amount)

def box₁ (byte : UInt8) : UInt8 := substitution.getD byte.toNat 0

def box₂ (byte : UInt8) : UInt8 := rotateByte (box₁ byte) 1

def box₃ (byte : UInt8) : UInt8 := rotateByte (box₁ byte) 7

def box₄ (byte : UInt8) : UInt8 := box₁ (rotateByte byte 1)

/-- The bytes of the masked half are substituted and then summed in eight different ways. -/
def roundFunction (key half : UInt64) : UInt64 :=
  let x := half ^^^ key
  let t₁ := box₁ (x >>> 56).toUInt8
  let t₂ := box₂ (x >>> 48).toUInt8
  let t₃ := box₃ (x >>> 40).toUInt8
  let t₄ := box₄ (x >>> 32).toUInt8
  let t₅ := box₂ (x >>> 24).toUInt8
  let t₆ := box₃ (x >>> 16).toUInt8
  let t₇ := box₄ (x >>> 8).toUInt8
  let t₈ := box₁ x.toUInt8
  word64
    (word32 (t₁ ^^^ t₃ ^^^ t₄ ^^^ t₆ ^^^ t₇ ^^^ t₈) (t₁ ^^^ t₂ ^^^ t₄ ^^^ t₅ ^^^ t₇ ^^^ t₈)
      (t₁ ^^^ t₂ ^^^ t₃ ^^^ t₅ ^^^ t₆ ^^^ t₈) (t₂ ^^^ t₃ ^^^ t₄ ^^^ t₅ ^^^ t₆ ^^^ t₇))
    (word32 (t₁ ^^^ t₂ ^^^ t₆ ^^^ t₇ ^^^ t₈) (t₂ ^^^ t₃ ^^^ t₅ ^^^ t₇ ^^^ t₈)
      (t₃ ^^^ t₄ ^^^ t₅ ^^^ t₆ ^^^ t₈) (t₁ ^^^ t₄ ^^^ t₅ ^^^ t₆ ^^^ t₇))

/-- A run of rounds in which the left half masks the right one first. -/
def network (keys : List UInt64) (halves : UInt64 × UInt64) : UInt64 × UInt64 :=
  (feistel roundFunction keys halves.swap).swap

/-- The keyed linear layer of the left half. -/
def linear (key half : UInt64) : UInt64 :=
  let left := (half >>> 32).toUInt32
  let right := half.toUInt32 ^^^ rotateLeft32 (left &&& (key >>> 32).toUInt32) 1
  word64 (left ^^^ (right ||| key.toUInt32)) right

def unlinear (key half : UInt64) : UInt64 :=
  let right := half.toUInt32
  let left := (half >>> 32).toUInt32 ^^^ (right ||| key.toUInt32)
  word64 left (right ^^^ rotateLeft32 (left &&& (key >>> 32).toUInt32) 1)

/-- The keys of the rounds in groups of six, of the linear layers between the groups, and of the
whitening before and after. -/
structure Keys where
  before : UInt64 × UInt64
  groups : List (List UInt64)
  layers : List (UInt64 × UInt64)
  after : UInt64 × UInt64

def constants : Array UInt64 := #[
    0xa09e667f3bcc908b, 0xb67ae8584caa73b2, 0xc6ef372fe94f82be,
    0x54ff53a5f1d36f1c, 0x10e527fade682d1d, 0xb05688c2b3e6c1fd]

def split (value : Nat) : UInt64 × UInt64 := (UInt64.ofNat (value >>> 64), UInt64.ofNat value)

def join (halves : UInt64 × UInt64) : Nat := halves.1.toNat <<< 64 ||| halves.2.toNat

def rotate (value amount : Nat) : Nat :=
  (value <<< amount ||| value >>> (128 - amount)) % (1 <<< 128)

def leftOf (value amount : Nat) : UInt64 := (split (rotate value amount)).1

def rightOf (value amount : Nat) : UInt64 := (split (rotate value amount)).2

def pairOf (value amount : Nat) : UInt64 × UInt64 := split (rotate value amount)

def expand (key : Bytes) : Keys :=
  let left := Bytes.toNatBE (key.take 16)
  let right := Bytes.toNatBE (key.drop 16)
  let right :=
    if key.length = 24 then right <<< 64 ||| (0xffffffffffffffff - right) else right
  let constant (i : Nat) : UInt64 := constants.getD i 0
  let first := network [constant 0, constant 1] (split (left ^^^ right))
  let second := network [constant 2, constant 3] (split (join first ^^^ left))
  let ka := join second
  if key.length = 16 then
    { before := pairOf left 0
      groups := [
        [leftOf ka 0, rightOf ka 0, leftOf left 15, rightOf left 15, leftOf ka 15, rightOf ka 15],
        [leftOf left 45, rightOf left 45, leftOf ka 45, rightOf left 60, leftOf ka 60,
          rightOf ka 60],
        [leftOf left 94, rightOf left 94, leftOf ka 94, rightOf ka 94, leftOf left 111,
          rightOf left 111]]
      layers := [pairOf ka 30, pairOf left 77]
      after := pairOf ka 111 }
  else
    let third := network [constant 4, constant 5] (split (ka ^^^ right))
    let kb := join third
    { before := pairOf left 0
      groups := [
        [leftOf kb 0, rightOf kb 0, leftOf right 15, rightOf right 15, leftOf ka 15, rightOf ka 15],
        [leftOf kb 30, rightOf kb 30, leftOf left 45, rightOf left 45, leftOf ka 45, rightOf ka 45],
        [leftOf right 60, rightOf right 60, leftOf kb 60, rightOf kb 60, leftOf left 77,
          rightOf left 77],
        [leftOf right 94, rightOf right 94, leftOf ka 94, rightOf ka 94, leftOf left 111,
          rightOf left 111]]
      layers := [pairOf right 30, pairOf left 60, pairOf ka 77]
      after := pairOf kb 111 }

/-- The keys that undo the rounds are the same keys from back to front. -/
def Keys.reverse (keys : Keys) : Keys :=
  { before := keys.after
    groups := (keys.groups.map List.reverse).reverse
    layers := (keys.layers.map fun pair => (pair.2, pair.1)).reverse
    after := keys.before }

def layered : List (List UInt64) → List (UInt64 × UInt64) → UInt64 × UInt64 → UInt64 × UInt64
  | group :: groups, layer :: layers, halves =>
      let (left, right) := network group halves
      layered groups layers (linear layer.1 left, unlinear layer.2 right)
  | group :: _, [], halves => network group halves
  | [], _, halves => halves

def crypt (keys : Keys) (block : Bytes) : Bytes :=
  match words64 block with
  | [left, right] =>
      let (left, right) :=
        layered keys.groups keys.layers (left ^^^ keys.before.1, right ^^^ keys.before.2)
      bytes64 (right ^^^ keys.after.1) ++ bytes64 (left ^^^ keys.after.2)
  | _ => block

end Camellia

def camellia (key : Bytes) : BlockCipher :=
  let keys := Camellia.expand key
  let reversed := keys.reverse
  { blockLength := 16, encrypt := Camellia.crypt keys, decrypt := Camellia.crypt reversed }

end RecordProtection
