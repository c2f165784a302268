import RecordProtection.Hash.Function

/-!
The SM3 hash function.
-/

namespace RecordProtection

namespace Sm3

structure State where
  a : UInt32
  b : UInt32
  c : UInt32
  d : UInt32
  e : UInt32
  f : UInt32
  g : UInt32
  h : UInt32

def initial : State :=
  ⟨0x7380166f, 0x4914b2b9, 0x172442d7, 0xda8a0600, 0xa96f30bc, 0x163138aa, 0xe38dee4d, 0xb0fb0e4e⟩

def permute₀ (x : UInt32) : UInt32 := x ^^^ rotateLeft32 x 9 ^^^ rotateLeft32 x 17

def permute₁ (x : UInt32) : UInt32 := x ^^^ rotateLeft32 x 15 ^^^ rotateLeft32 x 23

def extend (words : Array UInt32) (i : Nat) : Array UInt32 :=
  let mixed := words.getD i 0 ^^^ words.getD (i + 7) 0 ^^^ rotateLeft32 (words.getD (i + 13) 0) 15
  words.push
    (permute₁ mixed ^^^ rotateLeft32 (words.getD (i + 3) 0) 7 ^^^ words.getD (i + 10) 0)

def schedule (block : Bytes) : Array UInt32 :=
  (List.range 52).foldl extend (words32 block).toArray

/-- Rotation by an amount that may be a multiple of the word length. -/
def rotateConstant (constant : UInt32) (i : Nat) : UInt32 :=
  if i % 32 = 0 then constant else rotateLeft32 constant (UInt32.ofNat (i % 32))

def step (words : Array UInt32) (s : State) (i : Nat) : State :=
  let constant := if i < 16 then 0x79cc4519 else 0x7a879d8a
  let a₁₂ := rotateLeft32 s.a 12
  let ss₁ := rotateLeft32 (a₁₂ + s.e + rotateConstant constant i) 7
  let ss₂ := ss₁ ^^^ a₁₂
  let (ff, gg) :=
    if i < 16 then (s.a ^^^ s.b ^^^ s.c, s.e ^^^ s.f ^^^ s.g)
    else ((s.a &&& s.b) ||| (s.a &&& s.c) ||| (s.b &&& s.c), (s.e &&& s.f) ||| (~~~ s.e &&& s.g))
  let word := words.getD i 0
  let t₁ := ff + s.d + ss₂ + (word ^^^ words.getD (i + 4) 0)
  let t₂ := gg + s.h + ss₁ + word
  ⟨t₁, s.a, rotateLeft32 s.b 9, s.c, permute₀ t₂, s.e, rotateLeft32 s.f 19, s.g⟩

def compress (s : State) (block : Bytes) : State :=
  let t := (List.range 64).foldl (step (schedule block)) s
  ⟨s.a ^^^ t.a, s.b ^^^ t.b, s.c ^^^ t.c, s.d ^^^ t.d,
    s.e ^^^ t.e, s.f ^^^ t.f, s.g ^^^ t.g, s.h ^^^ t.h⟩

def finish (s : State) (length : Nat) (pending : Bytes) : Bytes :=
  let padded := HashFunction.strengthen 64 (Bytes.ofNatBE 8 (8 * length)) pending
  let t := (Bytes.chunks 64 padded).foldl compress s
  [t.a, t.b, t.c, t.d, t.e, t.f, t.g, t.h].flatMap bytes32

end Sm3

def sm3 : HashFunction where
  State := Sm3.State
  blockLength := 64
  outputLength := 32
  initial := Sm3.initial
  compress := Sm3.compress
  finish := Sm3.finish

end RecordProtection
