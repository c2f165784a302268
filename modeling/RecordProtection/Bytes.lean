/-!
Byte strings, numbers written as byte strings, and machine words in both byte orders.
-/

namespace RecordProtection

/-- Byte strings are lists, so that framing and splitting are list operations. -/
abbrev Bytes := List UInt8

namespace Bytes

def zeros (count : Nat) : Bytes := List.replicate count 0

/-- The positionwise exclusive or, as long as the shorter string. -/
def xor (left right : Bytes) : Bytes := List.zipWith (· ^^^ ·) left right

/-- The low `width` bytes of a number, least significant first. -/
def ofNatLE : (width : Nat) → Nat → Bytes
  | 0, _ => []
  | width + 1, value => UInt8.ofNat value :: ofNatLE width (value / 256)

def ofNatBE (width : Nat) (value : Nat) : Bytes := (ofNatLE width value).reverse

/-- The number whose digits to base 256 are the bytes, least significant first. -/
def toNatLE : Bytes → Nat
  | [] => 0
  | byte :: rest => byte.toNat + 256 * toNatLE rest

def toNatBE (bytes : Bytes) : Nat := bytes.foldl (fun value byte => value * 256 + byte.toNat) 0

/-- Cuts a string into pieces of `width` bytes; the last piece may be shorter. -/
def chunks (width : Nat) (bytes : Bytes) : List Bytes :=
  match bytes with
  | [] => []
  | byte :: rest =>
      (byte :: rest.take (width - 1)) :: chunks width (rest.drop (width - 1))
termination_by bytes.length
decreasing_by simp only [List.length_cons, List.length_drop]; omega

/-- Zeros are added up to the next multiple of `width`. -/
def padTo (width : Nat) (bytes : Bytes) : Bytes :=
  bytes ++ zeros ((width - bytes.length % width) % width)

def ofText (text : String) : Bytes := text.toUTF8.toList

end Bytes

/-- A 16-bit word from its bytes, most significant first. -/
def word16 (b₁ b₀ : UInt8) : UInt16 :=
  b₁.toUInt16 <<< 8 ||| b₀.toUInt16

def word32 (b₃ b₂ b₁ b₀ : UInt8) : UInt32 :=
  b₃.toUInt32 <<< 24 ||| b₂.toUInt32 <<< 16 ||| b₁.toUInt32 <<< 8 ||| b₀.toUInt32

def word64 (high low : UInt32) : UInt64 :=
  high.toUInt64 <<< 32 ||| low.toUInt64

def bytes16 (w : UInt16) : Bytes := [(w >>> 8).toUInt8, w.toUInt8]

def bytes32 (w : UInt32) : Bytes :=
  [(w >>> 24).toUInt8, (w >>> 16).toUInt8, (w >>> 8).toUInt8, w.toUInt8]

def bytes64 (w : UInt64) : Bytes :=
  bytes32 (w >>> 32).toUInt32 ++ bytes32 w.toUInt32

/-- The big-endian 32-bit words of a string; a last partial word is dropped. -/
def words32 : Bytes → List UInt32
  | b₃ :: b₂ :: b₁ :: b₀ :: rest => word32 b₃ b₂ b₁ b₀ :: words32 rest
  | _ => []

/-- The little-endian 32-bit words of a string; a last partial word is dropped. -/
def words32LE : Bytes → List UInt32
  | b₀ :: b₁ :: b₂ :: b₃ :: rest => word32 b₃ b₂ b₁ b₀ :: words32LE rest
  | _ => []

def words64 : Bytes → List UInt64
  | b₇ :: b₆ :: b₅ :: b₄ :: b₃ :: b₂ :: b₁ :: b₀ :: rest =>
      word64 (word32 b₇ b₆ b₅ b₄) (word32 b₃ b₂ b₁ b₀) :: words64 rest
  | _ => []

def words16 : Bytes → List UInt16
  | b₁ :: b₀ :: rest => word16 b₁ b₀ :: words16 rest
  | _ => []

def rotateLeft32 (w amount : UInt32) : UInt32 := w <<< amount ||| w >>> (32 - amount)

def rotateRight32 (w amount : UInt32) : UInt32 := w >>> amount ||| w <<< (32 - amount)

def rotateLeft64 (w amount : UInt64) : UInt64 := w <<< amount ||| w >>> (64 - amount)

def rotateRight64 (w amount : UInt64) : UInt64 := w >>> amount ||| w <<< (64 - amount)

end RecordProtection
