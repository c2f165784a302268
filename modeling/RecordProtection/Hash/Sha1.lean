import RecordProtection.Hash.Function

/-!
The SHA-1 hash function.
-/

namespace RecordProtection

namespace Sha1

structure State where
  a : UInt32
  b : UInt32
  c : UInt32
  d : UInt32
  e : UInt32

def initial : State := ⟨0x67452301, 0xefcdab89, 0x98badcfe, 0x10325476, 0xc3d2e1f0⟩

/-- Each further word of the schedule is a rotated sum of four earlier ones. -/
def extend (words : Array UInt32) (i : Nat) : Array UInt32 :=
  words.push (rotateLeft32
    (words.getD (i + 13) 0 ^^^ words.getD (i + 8) 0 ^^^ words.getD (i + 2) 0 ^^^ words.getD i 0) 1)

def schedule (block : Bytes) : Array UInt32 :=
  (List.range 64).foldl extend (words32 block).toArray

def step (words : Array UInt32) (s : State) (i : Nat) : State :=
  let (mixed, constant) :=
    if i < 20 then ((s.b &&& s.c) ||| (~~~ s.b &&& s.d), 0x5a827999)
    else if i < 40 then (s.b ^^^ s.c ^^^ s.d, 0x6ed9eba1)
    else if i < 60 then ((s.b &&& s.c) ||| (s.b &&& s.d) ||| (s.c &&& s.d), 0x8f1bbcdc)
    else (s.b ^^^ s.c ^^^ s.d, 0xca62c1d6)
  ⟨rotateLeft32 s.a 5 + mixed + s.e + constant + words.getD i 0, s.a, rotateLeft32 s.b 30, s.c, s.d⟩

def compress (s : State) (block : Bytes) : State :=
  let t := (List.range 80).foldl (step (schedule block)) s
  ⟨s.a + t.a, s.b + t.b, s.c + t.c, s.d + t.d, s.e + t.e⟩

def finish (s : State) (length : Nat) (pending : Bytes) : Bytes :=
  let padded := HashFunction.strengthen 64 (Bytes.ofNatBE 8 (8 * length)) pending
  let t := (Bytes.chunks 64 padded).foldl compress s
  [t.a, t.b, t.c, t.d, t.e].flatMap bytes32

end Sha1

def sha1 : HashFunction where
  State := Sha1.State
  blockLength := 64
  outputLength := 20
  initial := Sha1.initial
  compress := Sha1.compress
  finish := Sha1.finish

end RecordProtection
