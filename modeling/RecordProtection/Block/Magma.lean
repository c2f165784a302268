import RecordProtection.Block.Cipher

/-!
The Magma block cipher, a Feistel network on 32-bit halves.
-/

namespace RecordProtection

namespace Magma

/-- One substitution of four bits for each nibble, that of the lowest nibble first. -/
def boxes : Array UInt32 := #[
    12, 4, 6, 2, 10, 5, 11, 9, 14, 8, 13, 7, 0, 3, 15, 1,
    6, 8, 2, 3, 9, 10, 5, 12, 1, 14, 4, 7, 11, 13, 0, 15,
    11, 3, 5, 8, 2, 15, 10, 13, 14, 1, 7, 4, 12, 9, 6, 0,
    12, 8, 2, 1, 13, 4, 15, 6, 7, 0, 10, 5, 3, 14, 9, 11,
    7, 15, 5, 10, 8, 1, 6, 13, 0, 9, 3, 14, 11, 4, 2, 12,
    5, 13, 15, 6, 9, 2, 12, 10, 11, 7, 8, 1, 4, 3, 14, 0,
    8, 14, 2, 5, 6, 9, 1, 12, 15, 4, 11, 0, 13, 10, 3, 7,
    1, 7, 14, 13, 0, 5, 8, 3, 4, 15, 10, 6, 9, 12, 11, 2]

def substituteWord (word : UInt32) : UInt32 :=
  (List.range 8).foldl
    (fun out i =>
      let shift := UInt32.ofNat (4 * i)
      out ||| boxes.getD (16 * i + ((word >>> shift) &&& 0xf).toNat) 0 <<< shift) 0

def roundFunction (key half : UInt32) : UInt32 := rotateLeft32 (substituteWord (half + key)) 11

/-- The key words three times forwards and once backwards. -/
def roundKeys (key : Bytes) : List UInt32 :=
  let words := words32 key
  words ++ words ++ words ++ words.reverse

/-- The halves do not change places in the last round. -/
def crypt (keys : List UInt32) (block : Bytes) : Bytes :=
  match words32 block with
  | [left, right] =>
      let (left, right) := feistel roundFunction keys (left, right)
      bytes32 right ++ bytes32 left
  | _ => block

end Magma

def magma (key : Bytes) : BlockCipher :=
  let keys := Magma.roundKeys key
  let reversed := keys.reverse
  { blockLength := 8, encrypt := Magma.crypt keys, decrypt := Magma.crypt reversed }

end RecordProtection
