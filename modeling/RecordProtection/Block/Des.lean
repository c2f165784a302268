import RecordProtection.Block.Cipher

/-!
The DES block cipher and its threefold use.  Bit positions count from the most significant bit,
which is bit 1.
-/

namespace RecordProtection

namespace Des

/-- Reads the bits of a value of `width` bits at the given positions, one after the other. -/
def selectFrom (width : UInt64) : List Nat → UInt64 → UInt64 → UInt64
  | [], _, bits => bits
  | position :: rest, value, bits =>
      selectFrom width rest value
        (bits <<< 1 ||| (value >>> (width - UInt64.ofNat position)) &&& 1)

def select (width : UInt64) (positions : List Nat) (value : UInt64) : UInt64 :=
  selectFrom width positions value 0

def initialPositions : List Nat := [
    58, 50, 42, 34, 26, 18, 10, 2, 60, 52, 44, 36, 28, 20, 12, 4,
    62, 54, 46, 38, 30, 22, 14, 6, 64, 56, 48, 40, 32, 24, 16, 8,
    57, 49, 41, 33, 25, 17, 9, 1, 59, 51, 43, 35, 27, 19, 11, 3,
    61, 53, 45, 37, 29, 21, 13, 5, 63, 55, 47, 39, 31, 23, 15, 7]

def finalPositions : List Nat := [
    40, 8, 48, 16, 56, 24, 64, 32, 39, 7, 47, 15, 55, 23, 63, 31,
    38, 6, 46, 14, 54, 22, 62, 30, 37, 5, 45, 13, 53, 21, 61, 29,
    36, 4, 44, 12, 52, 20, 60, 28, 35, 3, 43, 11, 51, 19, 59, 27,
    34, 2, 42, 10, 50, 18, 58, 26, 33, 1, 41, 9, 49, 17, 57, 25]

def spreadPositions : List Nat := [
    16, 7, 20, 21, 29, 12, 28, 17, 1, 15, 23, 26, 5, 18, 31, 10,
    2, 8, 24, 14, 32, 27, 3, 9, 19, 13, 30, 6, 22, 11, 4, 25]

def keyPositions : List Nat := [
    57, 49, 41, 33, 25, 17, 9, 1, 58, 50, 42, 34, 26, 18,
    10, 2, 59, 51, 43, 35, 27, 19, 11, 3, 60, 52, 44, 36,
    63, 55, 47, 39, 31, 23, 15, 7, 62, 54, 46, 38, 30, 22,
    14, 6, 61, 53, 45, 37, 29, 21, 13, 5, 28, 20, 12, 4]

def roundKeyPositions : List Nat := [
    14, 17, 11, 24, 1, 5, 3, 28, 15, 6, 21, 10,
    23, 19, 12, 4, 26, 8, 16, 7, 27, 20, 13, 2,
    41, 52, 31, 37, 47, 55, 30, 40, 51, 45, 33, 48,
    44, 49, 39, 56, 34, 53, 46, 42, 50, 36, 29, 32]

/-- The eight substitution boxes, each with four rows of sixteen entries. -/
def boxes : Array UInt8 := #[
    14, 4, 13, 1, 2, 15, 11, 8, 3, 10, 6, 12, 5, 9, 0, 7,
    0, 15, 7, 4, 14, 2, 13, 1, 10, 6, 12, 11, 9, 5, 3, 8,
    4, 1, 14, 8, 13, 6, 2, 11, 15, 12, 9, 7, 3, 10, 5, 0,
    15, 12, 8, 2, 4, 9, 1, 7, 5, 11, 3, 14, 10, 0, 6, 13,
    15, 1, 8, 14, 6, 11, 3, 4, 9, 7, 2, 13, 12, 0, 5, 10,
    3, 13, 4, 7, 15, 2, 8, 14, 12, 0, 1, 10, 6, 9, 11, 5,
    0, 14, 7, 11, 10, 4, 13, 1, 5, 8, 12, 6, 9, 3, 2, 15,
    13, 8, 10, 1, 3, 15, 4, 2, 11, 6, 7, 12, 0, 5, 14, 9,
    10, 0, 9, 14, 6, 3, 15, 5, 1, 13, 12, 7, 11, 4, 2, 8,
    13, 7, 0, 9, 3, 4, 6, 10, 2, 8, 5, 14, 12, 11, 15, 1,
    13, 6, 4, 9, 8, 15, 3, 0, 11, 1, 2, 12, 5, 10, 14, 7,
    1, 10, 13, 0, 6, 9, 8, 7, 4, 15, 14, 3, 11, 5, 2, 12,
    7, 13, 14, 3, 0, 6, 9, 10, 1, 2, 8, 5, 11, 12, 4, 15,
    13, 8, 11, 5, 6, 15, 0, 3, 4, 7, 2, 12, 1, 10, 14, 9,
    10, 6, 9, 0, 12, 11, 7, 13, 15, 1, 3, 14, 5, 2, 8, 4,
    3, 15, 0, 6, 10, 1, 13, 8, 9, 4, 5, 11, 12, 7, 2, 14,
    2, 12, 4, 1, 7, 10, 11, 6, 8, 5, 3, 15, 13, 0, 14, 9,
    14, 11, 2, 12, 4, 7, 13, 1, 5, 0, 15, 10, 3, 9, 8, 6,
    4, 2, 1, 11, 10, 13, 7, 8, 15, 9, 12, 5, 6, 3, 0, 14,
    11, 8, 12, 7, 1, 14, 2, 13, 6, 15, 0, 9, 10, 4, 5, 3,
    12, 1, 10, 15, 9, 2, 6, 8, 0, 13, 3, 4, 14, 7, 5, 11,
    10, 15, 4, 2, 7, 12, 9, 5, 6, 1, 13, 14, 0, 11, 3, 8,
    9, 14, 15, 5, 2, 8, 12, 3, 7, 0, 4, 10, 1, 13, 11, 6,
    4, 3, 2, 12, 9, 5, 15, 10, 11, 14, 1, 7, 6, 0, 8, 13,
    4, 11, 2, 14, 15, 0, 8, 13, 3, 12, 9, 7, 5, 10, 6, 1,
    13, 0, 11, 7, 4, 9, 1, 10, 14, 3, 5, 12, 2, 15, 8, 6,
    1, 4, 11, 13, 12, 3, 7, 14, 10, 15, 6, 8, 0, 5, 9, 2,
    6, 11, 13, 8, 1, 4, 10, 7, 9, 5, 0, 15, 14, 2, 3, 12,
    13, 2, 8, 4, 6, 15, 11, 1, 10, 9, 3, 14, 5, 0, 12, 7,
    1, 15, 13, 8, 10, 3, 7, 4, 12, 5, 6, 11, 0, 14, 9, 2,
    7, 11, 4, 1, 9, 12, 14, 2, 0, 6, 10, 13, 15, 3, 5, 8,
    2, 1, 14, 7, 4, 10, 8, 13, 15, 12, 9, 0, 3, 5, 6, 11]

/-- The entry of a box for six input bits: the outer two choose the row. -/
def boxEntry (box : Nat) (input : Nat) : UInt8 :=
  boxes.getD (64 * box + 16 * (input / 32 * 2 + input % 2) + input / 2 % 16) 0

/-- For each box and each input, the box's output bits where the spreading puts them. -/
def spreadBoxes : Array UInt32 :=
  (Array.range 512).map fun index =>
    let output :=
      (boxEntry (index / 64) (index % 64)).toUInt64 <<< UInt64.ofNat (28 - 4 * (index / 64))
    (select 32 spreadPositions output).toUInt32

/-- Box `box` sees six bits of the half block, overlapping with its neighbours, and six of the
round key. -/
def boxInput (key : UInt64) (half : UInt32) (box : Nat) : Nat :=
  let data := rotateLeft32 half (UInt32.ofNat ((5 + 4 * box) % 32)) &&& 0x3f
  let mask := (key >>> UInt64.ofNat (42 - 6 * box)).toUInt32 &&& 0x3f
  (data ^^^ mask).toNat

def roundFunction (key : UInt64) (half : UInt32) : UInt32 :=
  (List.range 8).foldl
    (fun word box => word ^^^ spreadBoxes.getD (64 * box + boxInput key half box) 0) 0

/-- How far each round rotates the two halves of the key. -/
def keyRotations : List UInt32 := [1, 1, 2, 2, 2, 2, 2, 2, 1, 2, 2, 2, 2, 2, 2, 1]

def rotate28 (word amount : UInt32) : UInt32 :=
  (word <<< amount ||| word >>> (28 - amount)) &&& 0xfffffff

def roundKeysFrom : List UInt32 → UInt32 → UInt32 → List UInt64
  | [], _, _ => []
  | amount :: rest, left, right =>
      let left := rotate28 left amount
      let right := rotate28 right amount
      select 56 roundKeyPositions (left.toUInt64 <<< 28 ||| right.toUInt64)
        :: roundKeysFrom rest left right

/-- The lowest bit of each key byte is not used. -/
def roundKeys (key : Bytes) : List UInt64 :=
  let selected := select 64 keyPositions ((words64 key).headD 0)
  roundKeysFrom keyRotations (selected >>> 28).toUInt32 (selected.toUInt32 &&& 0xfffffff)

/-- A Feistel network between a fixed permutation of the bits and its inverse. -/
def crypt (keys : List UInt64) (block : Bytes) : Bytes :=
  let start := select 64 initialPositions ((words64 block).headD 0)
  let (left, right) := feistel roundFunction keys ((start >>> 32).toUInt32, start.toUInt32)
  bytes64 (select 64 finalPositions (word64 right left))

end Des

def des (key : Bytes) : BlockCipher :=
  let keys := Des.roundKeys key
  let reversed := keys.reverse
  { blockLength := 8, encrypt := Des.crypt keys, decrypt := Des.crypt reversed }

/-- Encryption under the first key, decryption under the second, encryption under the third. -/
def tripleDes (key : Bytes) : BlockCipher :=
  let first := des (key.take 8)
  let second := des ((key.drop 8).take 8)
  let third := des (key.drop 16)
  { blockLength := 8
    encrypt := fun block => third.encrypt (second.decrypt (first.encrypt block))
    decrypt := fun block => first.decrypt (second.encrypt (third.decrypt block)) }

end RecordProtection
