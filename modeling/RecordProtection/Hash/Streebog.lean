import RecordProtection.Hash.Function

/-!
The Streebog hash function with a 256-bit digest.  A 512-bit value is a list of eight words, the
least significant one first, which is also the order of its bytes.
-/

namespace RecordProtection

namespace Streebog

/-- The nonlinear byte substitution, shared with the Kuznyechik cipher. -/
def substitution : Array UInt8 := #[
    0xfc, 0xee, 0xdd, 0x11, 0xcf, 0x6e, 0x31, 0x16, 0xfb, 0xc4, 0xfa, 0xda, 0x23, 0xc5, 0x04, 0x4d,
    0xe9, 0x77, 0xf0, 0xdb, 0x93, 0x2e, 0x99, 0xba, 0x17, 0x36, 0xf1, 0xbb, 0x14, 0xcd, 0x5f, 0xc1,
    0xf9, 0x18, 0x65, 0x5a, 0xe2, 0x5c, 0xef, 0x21, 0x81, 0x1c, 0x3c, 0x42, 0x8b, 0x01, 0x8e, 0x4f,
    0x05, 0x84, 0x02, 0xae, 0xe3, 0x6a, 0x8f, 0xa0, 0x06, 0x0b, 0xed, 0x98, 0x7f, 0xd4, 0xd3, 0x1f,
    0xeb, 0x34, 0x2c, 0x51, 0xea, 0xc8, 0x48, 0xab, 0xf2, 0x2a, 0x68, 0xa2, 0xfd, 0x3a, 0xce, 0xcc,
    0xb5, 0x70, 0x0e, 0x56, 0x08, 0x0c, 0x76, 0x12, 0xbf, 0x72, 0x13, 0x47, 0x9c, 0xb7, 0x5d, 0x87,
    0x15, 0xa1, 0x96, 0x29, 0x10, 0x7b, 0x9a, 0xc7, 0xf3, 0x91, 0x78, 0x6f, 0x9d, 0x9e, 0xb2, 0xb1,
    0x32, 0x75, 0x19, 0x3d, 0xff, 0x35, 0x8a, 0x7e, 0x6d, 0x54, 0xc6, 0x80, 0xc3, 0xbd, 0x0d, 0x57,
    0xdf, 0xf5, 0x24, 0xa9, 0x3e, 0xa8, 0x43, 0xc9, 0xd7, 0x79, 0xd6, 0xf6, 0x7c, 0x22, 0xb9, 0x03,
    0xe0, 0x0f, 0xec, 0xde, 0x7a, 0x94, 0xb0, 0xbc, 0xdc, 0xe8, 0x28, 0x50, 0x4e, 0x33, 0x0a, 0x4a,
    0xa7, 0x97, 0x60, 0x73, 0x1e, 0x00, 0x62, 0x44, 0x1a, 0xb8, 0x38, 0x82, 0x64, 0x9f, 0x26, 0x41,
    0xad, 0x45, 0x46, 0x92, 0x27, 0x5e, 0x55, 0x2f, 0x8c, 0xa3, 0xa5, 0x7d, 0x69, 0xd5, 0x95, 0x3b,
    0x07, 0x58, 0xb3, 0x40, 0x86, 0xac, 0x1d, 0xf7, 0x30, 0x37, 0x6b, 0xe4, 0x88, 0xd9, 0xe7, 0x89,
    0xe1, 0x1b, 0x83, 0x49, 0x4c, 0x3f, 0xf8, 0xfe, 0x8d, 0x53, 0xaa, 0x90, 0xca, 0xd8, 0x85, 0x61,
    0x20, 0x71, 0x67, 0xa4, 0x2d, 0x2b, 0x09, 0x5b, 0xcb, 0x9b, 0x25, 0xd0, 0xbe, 0xe5, 0x6c, 0x52,
    0x59, 0xa6, 0x74, 0xd2, 0xe6, 0xf4, 0xb4, 0xc0, 0xd1, 0x66, 0xaf, 0xc2, 0x39, 0x4b, 0x63, 0xb6]

/-- The rows of the linear map on 64-bit words; the first row belongs to the highest bit. -/
def linearRows : Array UInt64 := #[
    0x8e20faa72ba0b470, 0x47107ddd9b505a38, 0xad08b0e0c3282d1c, 0xd8045870ef14980e,
    0x6c022c38f90a4c07, 0x3601161cf205268d, 0x1b8e0b0e798c13c8, 0x83478b07b2468764,
    0xa011d380818e8f40, 0x5086e740ce47c920, 0x2843fd2067adea10, 0x14aff010bdd87508,
    0x0ad97808d06cb404, 0x05e23c0468365a02, 0x8c711e02341b2d01, 0x46b60f011a83988e,
    0x90dab52a387ae76f, 0x486dd4151c3dfdb9, 0x24b86a840e90f0d2, 0x125c354207487869,
    0x092e94218d243cba, 0x8a174a9ec8121e5d, 0x4585254f64090fa0, 0xaccc9ca9328a8950,
    0x9d4df05d5f661451, 0xc0a878a0a1330aa6, 0x60543c50de970553, 0x302a1e286fc58ca7,
    0x18150f14b9ec46dd, 0x0c84890ad27623e0, 0x0642ca05693b9f70, 0x0321658cba93c138,
    0x86275df09ce8aaa8, 0x439da0784e745554, 0xafc0503c273aa42a, 0xd960281e9d1d5215,
    0xe230140fc0802984, 0x71180a8960409a42, 0xb60c05ca30204d21, 0x5b068c651810a89e,
    0x456c34887a3805b9, 0xac361a443d1c8cd2, 0x561b0d22900e4669, 0x2b838811480723ba,
    0x9bcf4486248d9f5d, 0xc3e9224312c8c1a0, 0xeffa11af0964ee50, 0xf97d86d98a327728,
    0xe4fa2054a80b329c, 0x727d102a548b194e, 0x39b008152acb8227, 0x9258048415eb419d,
    0x492c024284fbaec0, 0xaa16012142f35760, 0x550b8e9e21f7a530, 0xa48b474f9ef5dc18,
    0x70a6a56e2440598e, 0x3853dc371220a247, 0x1ca76e95091051ad, 0x0edd37c48a08a6d8,
    0x07e095624504536c, 0x8d70c431ac02a736, 0xc83862965601dd1b, 0x641c314b2b8ee083]

/-- Twelve round constants of eight words each, the most significant word first. -/
def roundConstants : List UInt64 := [
    0xb1085bda1ecadae9, 0xebcb2f81c0657c1f, 0x2f6a76432e45d016, 0x714eb88d7585c4fc,
    0x4b7ce09192676901, 0xa2422a08a460d315, 0x05767436cc744d23, 0xdd806559f2a64507,
    0x6fa3b58aa99d2f1a, 0x4fe39d460f70b5d7, 0xf3feea720a232b98, 0x61d55e0f16b50131,
    0x9ab5176b12d69958, 0x5cb561c2db0aa7ca, 0x55dda21bd7cbcd56, 0xe679047021b19bb7,
    0xf574dcac2bce2fc7, 0x0a39fc286a3d8435, 0x06f15e5f529c1f8b, 0xf2ea7514b1297b7b,
    0xd3e20fe490359eb1, 0xc1c93a376062db09, 0xc2b6f443867adb31, 0x991e96f50aba0ab2,
    0xef1fdfb3e81566d2, 0xf948e1a05d71e4dd, 0x488e857e335c3c7d, 0x9d721cad685e353f,
    0xa9d72c82ed03d675, 0xd8b71333935203be, 0x3453eaa193e837f1, 0x220cbebc84e3d12e,
    0x4bea6bacad474799, 0x9a3f410c6ca92363, 0x7f151c1f1686104a, 0x359e35d7800fffbd,
    0xbfcd1747253af5a3, 0xdfff00b723271a16, 0x7a56a27ea9ea63f5, 0x601758fd7c6cfe57,
    0xae4faeae1d3ad3d9, 0x6fa4c33b7a3039c0, 0x2d66c4f95142a46c, 0x187f9ab49af08ec6,
    0xcffaa6b71c9ab7b4, 0x0af21f66c2bec6b6, 0xbf71c57236904f35, 0xfa68407a46647d6e,
    0xf4c70e16eeaac5ec, 0x51ac86febf240954, 0x399ec6c7e6bf87c9, 0xd3473e33197a93c9,
    0x0992abc52d822c37, 0x06476983284a0504, 0x3517454ca23c4af3, 0x8886564d3a14d493,
    0x9b1f5b424d93c9a7, 0x03e7aa020c6e4141, 0x4eb7f8719c36de1e, 0x89b4443b4ddbc49a,
    0xf4892bcb929b0690, 0x69d18d2bd1a5c42f, 0x36acc2355951a8d9, 0xa47f0dd4bf02e71e,
    0x378f5a541631229b, 0x944c9ad8ec165fde, 0x3a7d3a1b25894224, 0x3cd955b7e00d0984,
    0x800a440bdbb2ceb1, 0x7b2b8a9aa6079c54, 0x0e38dc92cb1f2a60, 0x7261445183235adb,
    0xabbedea680056f52, 0x382ae548b2e4f3f3, 0x8941e71cff8a78db, 0x1fffe18a1b336103,
    0x9fe76702af69334b, 0x7a1e6c303b7652f4, 0x3698fad1153bb6c3, 0x74b4c7fb98459ced,
    0x7bcd9ed0efc889fb, 0x3002c6cd635afe94, 0xd8fa6bbbebab0761, 0x2001802114846679,
    0x8a1d71efea48b9ca, 0xefbacd1d7d476e98, 0xdea2594ac06fd85d, 0x6bcaa4cd81f32d1b,
    0x378ee767f11631ba, 0xd21380b00449b17a, 0xcda43c32bcdf1d77, 0xf82012d430219f9b,
    0x5d80ef9d1891cc86, 0xe71da4aa88e12852, 0xfaf417d5d9b21b99, 0x48bc924af11bd720]

/-- The image of a byte at byte position `position` (from the least significant) under the linear
map. -/
def linearByte (position : Nat) (byte : UInt8) : UInt64 :=
  (List.range 8).foldl
    (fun word bit =>
      if (byte >>> UInt8.ofNat bit) &&& 1 = 1 then
        word ^^^ linearRows.getD (63 - (8 * position + bit)) 0
      else word) 0

/-- Substitution followed by the linear map, for each byte position and byte value. -/
def substitutedLinear : Array UInt64 :=
  (Array.range (8 * 256)).map fun index =>
    linearByte (index / 256) (substitution.getD (index % 256) 0)

/-- Byte `row` of each of the eight words becomes one word, the first word giving its lowest
byte; each byte is substituted and mapped linearly on the way. -/
def transformRow (words : List UInt64) (row : Nat) : UInt64 :=
  let shift := UInt64.ofNat (8 * row)
  (words.foldl
    (fun (acc : UInt64 × Nat) word =>
      (acc.1 ^^^ substitutedLinear.getD (acc.2 + (word >>> shift).toUInt8.toNat) 0, acc.2 + 256))
    (0, 0)).1

def transform (words : List UInt64) : List UInt64 :=
  (List.range 8).map (transformRow words)

def xor (left right : List UInt64) : List UInt64 := List.zipWith (· ^^^ ·) left right

/-- Twelve rounds over a list of round constants, each changing the block and then the key. -/
def rounds : List (List UInt64) → (key block : List UInt64) → List UInt64
  | [], key, block => xor block key
  | constant :: rest, key, block =>
      rounds rest (transform (xor key constant)) (transform (xor block key))

def pieces : List UInt64 → List (List UInt64)
  | w₇ :: w₆ :: w₅ :: w₄ :: w₃ :: w₂ :: w₁ :: w₀ :: rest =>
      [w₀, w₁, w₂, w₃, w₄, w₅, w₆, w₇] :: pieces rest
  | _ => []

def constants : List (List UInt64) := pieces roundConstants

/-- The compression function, keyed by the chaining value and a counter. -/
def mix (counter chain message : List UInt64) : List UInt64 :=
  xor (xor (rounds constants (transform (xor chain counter)) message) chain) message

/-- The eight words of a number modulo `2 ^ 512`. -/
def ofNat (value : Nat) : List UInt64 :=
  (List.range 8).map fun i => UInt64.ofNat (value >>> (64 * i))

structure State where
  chain : List UInt64
  bits : Nat
  sum : Nat

def initial : State := ⟨List.replicate 8 0x0101010101010101, 0, 0⟩

/-- Takes in a message block that stands for `bits` bits of the message. -/
def absorb (s : State) (bits : Nat) (block : Bytes) : State :=
  let message := Bytes.toNatLE block
  ⟨mix (ofNat s.bits) s.chain (ofNat message), s.bits + bits, s.sum + message⟩

def compress (s : State) (block : Bytes) : State := absorb s 512 block

/-- The last block is marked by a one after the left-over bytes; then the bit count and the sum
of all blocks are mixed in. -/
def finish (s : State) (_ : Nat) (pending : Bytes) : Bytes :=
  let last := absorb s (8 * pending.length) (pending ++ [1])
  let counted := mix (ofNat 0) last.chain (ofNat last.bits)
  let summed := mix (ofNat 0) counted (ofNat last.sum)
  (summed.drop 4).flatMap fun word => (bytes64 word).reverse

end Streebog

def streebog256 : HashFunction where
  State := Streebog.State
  blockLength := 64
  outputLength := 32
  initial := Streebog.initial
  compress := Streebog.compress
  finish := Streebog.finish

end RecordProtection
