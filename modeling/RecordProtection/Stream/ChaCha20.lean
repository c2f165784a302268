import RecordProtection.Bytes

/-!
The ChaCha20 keystream: blocks of 64 bytes, each a function of key, nonce and block number.
-/

namespace RecordProtection

namespace ChaCha20

def blockLength : Nat := 64

def quarterRound (a b c d : Fin 16) (s : Vector UInt32 16) : Vector UInt32 16 :=
  let va := s[a] + s[b]
  let vd := rotateLeft32 (s[d] ^^^ va) 16
  let vc := s[c] + vd
  let vb := rotateLeft32 (s[b] ^^^ vc) 12
  let va := va + vb
  let vd := rotateLeft32 (vd ^^^ va) 8
  let vc := vc + vd
  let vb := rotateLeft32 (vb ^^^ vc) 7
  (((s.set a va).set b vb).set c vc).set d vd

/-- A round on the columns and a round on the diagonals. -/
def doubleRound (s : Vector UInt32 16) : Vector UInt32 16 :=
  let s := quarterRound 3 7 11 15 (quarterRound 2 6 10 14
    (quarterRound 1 5 9 13 (quarterRound 0 4 8 12 s)))
  quarterRound 3 4 9 14 (quarterRound 2 7 8 13 (quarterRound 1 6 11 12 (quarterRound 0 5 10 15 s)))

/-- Four constant words, eight of the key, the block number, and three of the nonce. -/
def initialState (key nonce : Bytes) (block : Nat) : Vector UInt32 16 :=
  let words := #[0x61707865, 0x3320646e, 0x79622d32, 0x6b206574]
    ++ (words32LE key).toArray ++ #[UInt32.ofNat block] ++ (words32LE nonce).toArray
  Vector.ofFn fun i => words.getD i 0

def keystreamBlock (key nonce : Bytes) (block : Nat) : Bytes :=
  let start := initialState key nonce block
  let mixed := Nat.repeat doubleRound 10 start
  (Vector.zipWith (· + ·) mixed start).toList.flatMap fun word => (bytes32 word).reverse

def keystream (key nonce : Bytes) (position count : Nat) : Bytes :=
  let first := position / blockLength
  let skipped := position % blockLength
  let blocks := (skipped + count + blockLength - 1) / blockLength
  (((List.range blocks).flatMap fun i => keystreamBlock key nonce (first + i)).drop skipped).take
    count

end ChaCha20

end RecordProtection
