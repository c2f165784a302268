import RecordProtection.Block.Cipher

/-!
The RC2 block cipher whose effective key bits are the bits of the key.
-/

namespace RecordProtection

namespace Rc2

/-- A permutation of the byte values made from the digits of π. -/
def substitution : Array UInt8 := #[
    0xd9, 0x78, 0xf9, 0xc4, 0x19, 0xdd, 0xb5, 0xed, 0x28, 0xe9, 0xfd, 0x79, 0x4a, 0xa0, 0xd8, 0x9d,
    0xc6, 0x7e, 0x37, 0x83, 0x2b, 0x76, 0x53, 0x8e, 0x62, 0x4c, 0x64, 0x88, 0x44, 0x8b, 0xfb, 0xa2,
    0x17, 0x9a, 0x59, 0xf5, 0x87, 0xb3, 0x4f, 0x13, 0x61, 0x45, 0x6d, 0x8d, 0x09, 0x81, 0x7d, 0x32,
    0xbd, 0x8f, 0x40, 0xeb, 0x86, 0xb7, 0x7b, 0x0b, 0xf0, 0x95, 0x21, 0x22, 0x5c, 0x6b, 0x4e, 0x82,
    0x54, 0xd6, 0x65, 0x93, 0xce, 0x60, 0xb2, 0x1c, 0x73, 0x56, 0xc0, 0x14, 0xa7, 0x8c, 0xf1, 0xdc,
    0x12, 0x75, 0xca, 0x1f, 0x3b, 0xbe, 0xe4, 0xd1, 0x42, 0x3d, 0xd4, 0x30, 0xa3, 0x3c, 0xb6, 0x26,
    0x6f, 0xbf, 0x0e, 0xda, 0x46, 0x69, 0x07, 0x57, 0x27, 0xf2, 0x1d, 0x9b, 0xbc, 0x94, 0x43, 0x03,
    0xf8, 0x11, 0xc7, 0xf6, 0x90, 0xef, 0x3e, 0xe7, 0x06, 0xc3, 0xd5, 0x2f, 0xc8, 0x66, 0x1e, 0xd7,
    0x08, 0xe8, 0xea, 0xde, 0x80, 0x52, 0xee, 0xf7, 0x84, 0xaa, 0x72, 0xac, 0x35, 0x4d, 0x6a, 0x2a,
    0x96, 0x1a, 0xd2, 0x71, 0x5a, 0x15, 0x49, 0x74, 0x4b, 0x9f, 0xd0, 0x5e, 0x04, 0x18, 0xa4, 0xec,
    0xc2, 0xe0, 0x41, 0x6e, 0x0f, 0x51, 0xcb, 0xcc, 0x24, 0x91, 0xaf, 0x50, 0xa1, 0xf4, 0x70, 0x39,
    0x99, 0x7c, 0x3a, 0x85, 0x23, 0xb8, 0xb4, 0x7a, 0xfc, 0x02, 0x36, 0x5b, 0x25, 0x55, 0x97, 0x31,
    0x2d, 0x5d, 0xfa, 0x98, 0xe3, 0x8a, 0x92, 0xae, 0x05, 0xdf, 0x29, 0x10, 0x67, 0x6c, 0xba, 0xc9,
    0xd3, 0x00, 0xe6, 0xcf, 0xe1, 0x9e, 0xa8, 0x2c, 0x63, 0x16, 0x01, 0x3f, 0x58, 0xe2, 0x89, 0xa9,
    0x0d, 0x38, 0x34, 0x1b, 0xab, 0x33, 0xff, 0xb0, 0xbb, 0x48, 0x0c, 0x5f, 0xb9, 0xb1, 0xcd, 0x2e,
    0xc5, 0xf3, 0xdb, 0x47, 0xe5, 0xa5, 0x9c, 0x77, 0x0a, 0xa6, 0x20, 0x68, 0xfe, 0x7f, 0xc1, 0xad]

def substitute (byte : UInt8) : UInt8 := substitution.getD byte.toNat 0

/-- Continues the key to 128 bytes, each from its neighbour and the byte a key length before. -/
def lengthenKey (key : Bytes) : Array UInt8 :=
  (List.range (128 - key.length)).foldl
    (fun bytes i => bytes.push
      (substitute (bytes.getD (i + key.length - 1) 0 + bytes.getD i 0))) key.toArray

/-- Goes back from the last bytes of the lengthened key to its start. -/
def expandKey (key : Bytes) : Array UInt8 :=
  let width := key.length
  let bytes := lengthenKey key
  let bytes := bytes.set! (128 - width) (substitute (bytes.getD (128 - width) 0))
  (List.range (128 - width)).foldl
    (fun bytes i =>
      let position := 127 - width - i
      bytes.set! position
        (substitute (bytes.getD (position + 1) 0 ^^^ bytes.getD (position + width) 0))) bytes

/-- The 64 key words, each with its low byte first. -/
def keyWords (key : Bytes) : Array UInt16 :=
  let bytes := expandKey key
  (Array.range 64).map fun i => word16 (bytes.getD (2 * i + 1) 0) (bytes.getD (2 * i) 0)

structure State where
  a : UInt16
  b : UInt16
  c : UInt16
  d : UInt16

def rotateLeft (w amount : UInt16) : UInt16 := w <<< amount ||| w >>> (16 - amount)

def rotateRight (w amount : UInt16) : UInt16 := w >>> amount ||| w <<< (16 - amount)

/-- A word becomes a rotated sum of itself, a key word, and a choice among the other three. -/
def mixWord (word key third second first amount : UInt16) : UInt16 :=
  rotateLeft (word + key + (first &&& second) + (~~~ first &&& third)) amount

def unmixWord (word key third second first amount : UInt16) : UInt16 :=
  rotateRight word amount - key - (first &&& second) - (~~~ first &&& third)

def mix (keys : Array UInt16) (s : State) (round : Nat) : State :=
  let key (i : Nat) : UInt16 := keys.getD (4 * round + i) 0
  let a := mixWord s.a (key 0) s.b s.c s.d 1
  let b := mixWord s.b (key 1) s.c s.d a 2
  let c := mixWord s.c (key 2) s.d a b 3
  let d := mixWord s.d (key 3) a b c 5
  ⟨a, b, c, d⟩

def unmix (keys : Array UInt16) (s : State) (round : Nat) : State :=
  let key (i : Nat) : UInt16 := keys.getD (4 * round + i) 0
  let d := unmixWord s.d (key 3) s.a s.b s.c 5
  let c := unmixWord s.c (key 2) d s.a s.b 3
  let b := unmixWord s.b (key 1) c d s.a 2
  let a := unmixWord s.a (key 0) b c d 1
  ⟨a, b, c, d⟩

/-- Each word is increased by the key word that its neighbour points to. -/
def mash (keys : Array UInt16) (s : State) : State :=
  let key (w : UInt16) : UInt16 := keys.getD (w.toNat % 64) 0
  let a := s.a + key s.d
  let b := s.b + key a
  let c := s.c + key b
  let d := s.d + key c
  ⟨a, b, c, d⟩

def unmash (keys : Array UInt16) (s : State) : State :=
  let key (w : UInt16) : UInt16 := keys.getD (w.toNat % 64) 0
  let d := s.d - key s.c
  let c := s.c - key s.b
  let b := s.b - key s.a
  let a := s.a - key d
  ⟨a, b, c, d⟩

/-- Sixteen mixing rounds, with a mashing round after the fifth and the eleventh. -/
def encryptState (keys : Array UInt16) (s : State) : State :=
  let s := mash keys ([0, 1, 2, 3, 4].foldl (mix keys) s)
  let s := mash keys ([5, 6, 7, 8, 9, 10].foldl (mix keys) s)
  [11, 12, 13, 14, 15].foldl (mix keys) s

def decryptState (keys : Array UInt16) (s : State) : State :=
  let s := unmash keys ([15, 14, 13, 12, 11].foldl (unmix keys) s)
  let s := unmash keys ([10, 9, 8, 7, 6, 5].foldl (unmix keys) s)
  [4, 3, 2, 1, 0].foldl (unmix keys) s

/-- Blocks are four words with their low bytes first. -/
def onBlock (f : State → State) : Bytes → Bytes
  | [a₀, a₁, b₀, b₁, c₀, c₁, d₀, d₁] =>
      let s := f ⟨word16 a₁ a₀, word16 b₁ b₀, word16 c₁ c₀, word16 d₁ d₀⟩
      [s.a, s.b, s.c, s.d].flatMap fun word => (bytes16 word).reverse
  | block => block

end Rc2

def rc2 (key : Bytes) : BlockCipher :=
  let keys := Rc2.keyWords key
  { blockLength := 8
    encrypt := Rc2.onBlock (Rc2.encryptState keys)
    decrypt := Rc2.onBlock (Rc2.decryptState keys) }

end RecordProtection
