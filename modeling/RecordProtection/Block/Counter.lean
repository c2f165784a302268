import RecordProtection.Block.Cipher

/-!
Counting in blocks, and the keystream of a block cipher that encrypts a counter.
-/

namespace RecordProtection

/-- Adds one to a string of digits to base 256 with the lowest digit first, without a carry out. -/
def incrementLE : Bytes → Bytes
  | [] => []
  | byte :: rest => if byte = 255 then 0 :: incrementLE rest else (byte + 1) :: rest

/-- Adds one to a big-endian number of fixed length, wrapping around. -/
def incrementBE (bytes : Bytes) : Bytes := (incrementLE bytes.reverse).reverse

/-- Adds each piece of the data to the encryption of a counter block, and counts on. -/
def maskPieces (encrypt : Bytes → Bytes) (next : Bytes → Bytes) :
    (counter : Bytes) → List Bytes → List Bytes
  | _, [] => []
  | counter, piece :: rest =>
      Bytes.xor piece (encrypt counter) :: maskPieces encrypt next (next counter) rest

/-- Counter mode from a given counter block on, with a given way of counting. -/
def counterMode (cipher : BlockCipher) (next : Bytes → Bytes) (counter data : Bytes) : Bytes :=
  (maskPieces cipher.encrypt next counter (Bytes.chunks cipher.blockLength data)).flatten

end RecordProtection
