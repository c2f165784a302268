import RecordProtection.Hash.Function

/-!
The SHA-256 hash function.
-/

namespace RecordProtection

namespace Sha256

structure State where
  a : UInt32
  b : UInt32
  c : UInt32
  d : UInt32
  e : UInt32
  f : UInt32
  g : UInt32
  h : UInt32

def initial : State :=
  ⟨0x6a09e667, 0xbb67ae85, 0x3c6ef372, 0xa54ff53a, 0x510e527f, 0x9b05688c, 0x1f83d9ab, 0x5be0cd19⟩

def constants : Array UInt32 := #[
    0x428a2f98, 0x71374491, 0xb5c0fbcf, 0xe9b5dba5, 0x3956c25b, 0x59f111f1, 0x923f82a4, 0xab1c5ed5,
    0xd807aa98, 0x12835b01, 0x243185be, 0x550c7dc3, 0x72be5d74, 0x80deb1fe, 0x9bdc06a7, 0xc19bf174,
    0xe49b69c1, 0xefbe4786, 0x0fc19dc6, 0x240ca1cc, 0x2de92c6f, 0x4a7484aa, 0x5cb0a9dc, 0x76f988da,
    0x983e5152, 0xa831c66d, 0xb00327c8, 0xbf597fc7, 0xc6e00bf3, 0xd5a79147, 0x06ca6351, 0x14292967,
    0x27b70a85, 0x2e1b2138, 0x4d2c6dfc, 0x53380d13, 0x650a7354, 0x766a0abb, 0x81c2c92e, 0x92722c85,
    0xa2bfe8a1, 0xa81a664b, 0xc24b8b70, 0xc76c51a3, 0xd192e819, 0xd6990624, 0xf40e3585, 0x106aa070,
    0x19a4c116, 0x1e376c08, 0x2748774c, 0x34b0bcb5, 0x391c0cb3, 0x4ed8aa4a, 0x5b9cca4f, 0x682e6ff3,
    0x748f82ee, 0x78a5636f, 0x84c87814, 0x8cc70208, 0x90befffa, 0xa4506ceb, 0xbef9a3f7, 0xc67178f2]

def extend (words : Array UInt32) (i : Nat) : Array UInt32 :=
  let w₁ := words.getD (i + 1) 0
  let w₁₄ := words.getD (i + 14) 0
  let σ₀ := rotateRight32 w₁ 7 ^^^ rotateRight32 w₁ 18 ^^^ w₁ >>> 3
  let σ₁ := rotateRight32 w₁₄ 17 ^^^ rotateRight32 w₁₄ 19 ^^^ w₁₄ >>> 10
  words.push (σ₁ + words.getD (i + 9) 0 + σ₀ + words.getD i 0)

def schedule (block : Bytes) : Array UInt32 :=
  (List.range 48).foldl extend (words32 block).toArray

def step (words : Array UInt32) (s : State) (i : Nat) : State :=
  let sum₁ := rotateRight32 s.e 6 ^^^ rotateRight32 s.e 11 ^^^ rotateRight32 s.e 25
  let choice := (s.e &&& s.f) ^^^ (~~~ s.e &&& s.g)
  let t₁ := s.h + sum₁ + choice + constants.getD i 0 + words.getD i 0
  let sum₀ := rotateRight32 s.a 2 ^^^ rotateRight32 s.a 13 ^^^ rotateRight32 s.a 22
  let majority := (s.a &&& s.b) ^^^ (s.a &&& s.c) ^^^ (s.b &&& s.c)
  ⟨t₁ + (sum₀ + majority), s.a, s.b, s.c, s.d + t₁, s.e, s.f, s.g⟩

def compress (s : State) (block : Bytes) : State :=
  let t := (List.range 64).foldl (step (schedule block)) s
  ⟨s.a + t.a, s.b + t.b, s.c + t.c, s.d + t.d, s.e + t.e, s.f + t.f, s.g + t.g, s.h + t.h⟩

def finish (s : State) (length : Nat) (pending : Bytes) : Bytes :=
  let padded := HashFunction.strengthen 64 (Bytes.ofNatBE 8 (8 * length)) pending
  let t := (Bytes.chunks 64 padded).foldl compress s
  [t.a, t.b, t.c, t.d, t.e, t.f, t.g, t.h].flatMap bytes32

end Sha256

def sha256 : HashFunction where
  State := Sha256.State
  blockLength := 64
  outputLength := 32
  initial := Sha256.initial
  compress := Sha256.compress
  finish := Sha256.finish

end RecordProtection
