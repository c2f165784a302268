import Mathlib.Data.Set.Function
import RecordProtection.Proofs.Block.Feistel

/-!
# SEED permutes the blocks

A key of sixteen bytes gives sixteen pairs of round keys.  A block is two pairs of words, and a
round adds to one pair a function of the other one and lets the pairs change places.  Decryption
runs the rounds of encryption with the keys from back to front, and since both exchange the pairs
once more at the end, each of the two undoes the other.  So each of them takes every block to one
block and every block from one block.
-/

namespace RecordProtection

namespace Seed

/-! ### Round keys -/

theorem length_roundKeysFrom (rounds : List Nat) (left right : UInt64) (constant : UInt32) :
    (roundKeysFrom rounds left right constant).length = rounds.length := by
  induction rounds generalizing left right constant with
  | nil => rfl
  | cons i rounds ih =>
      rw [roundKeysFrom, List.length_cons, List.length_cons]
      split <;> rw [ih]

theorem length_roundKeys {key : Bytes} (hkey : key.length = 16) : (roundKeys key).length = 16 := by
  obtain ⟨left, right, rfl⟩ := exists_eq_two_words64 hkey
  simp only [roundKeys, words64_bytes64_append, words64_bytes64, length_roundKeysFrom,
    List.length_range]

/-! ### Rounds on pairs of words -/

/-- The words of a block. -/
structure Pairs where
  left : UInt32 × UInt32
  right : UInt32 × UInt32

def Pairs.bytes (pairs : Pairs) : Bytes :=
  bytes32 pairs.left.1 ++ bytes32 pairs.left.2 ++ (bytes32 pairs.right.1 ++ bytes32 pairs.right.2)

def Pairs.exchange (pairs : Pairs) : Pairs := ⟨pairs.right, pairs.left⟩

/-- What a round adds to one pair, from the round keys and the other pair. -/
def mixPair (key pair : UInt32 × UInt32) : UInt32 × UInt32 :=
  let a := pair.1 ^^^ key.1
  let b := pair.2 ^^^ key.2
  let t := mixWord (a ^^^ b)
  let u := mixWord (t + a)
  let v := mixWord (u + t)
  (v + u, v)

def pairRound (pairs : Pairs) (key : UInt32 × UInt32) : Pairs where
  left := pairs.right
  right :=
    (pairs.left.1 ^^^ (mixPair key pairs.right).1, pairs.left.2 ^^^ (mixPair key pairs.right).2)

/-- Two words as one. -/
def joinPair (pair : UInt32 × UInt32) : UInt64 := word64 pair.1 pair.2

/-- A function of blocks that runs the rounds under the keys.  The pairs do not change places in the
last round, so they are exchanged once more. -/
def Network (keys : List (UInt32 × UInt32)) (permute : Bytes → Bytes) : Prop :=
  ∀ pairs : Pairs, permute pairs.bytes = (keys.foldl pairRound pairs).exchange.bytes

theorem word64_xor_word64 (a b c d : UInt32) :
    word64 a b ^^^ word64 c d = word64 (a ^^^ c) (b ^^^ d) := by
  have hhigh : ((word64 a b ^^^ word64 c d) >>> 32).toUInt32 = a ^^^ c := by
    rw [UInt64.shiftRight_xor, UInt64.toUInt32_xor, high_word64, high_word64]
  have hlow : (word64 a b ^^^ word64 c d).toUInt32 = b ^^^ d := by
    rw [UInt64.toUInt32_xor, low_word64, low_word64]
  rw [← word64_halves (word64 a b ^^^ word64 c d), hhigh, hlow]

theorem roundFunction_joinPair (key pair : UInt32 × UInt32) :
    roundFunction (joinPair key) (joinPair pair) = joinPair (mixPair key pair) := by
  simp only [roundFunction, joinPair, word64_xor_word64, high_word64, low_word64, mixPair]

theorem feistel_joinPair (keys : List (UInt32 × UInt32)) (pairs : Pairs) :
    feistel roundFunction (keys.map joinPair) (joinPair pairs.left, joinPair pairs.right)
      = (joinPair (keys.foldl pairRound pairs).left,
        joinPair (keys.foldl pairRound pairs).right) := by
  induction keys generalizing pairs with
  | nil => rfl
  | cons key keys ih =>
      have hround : joinPair pairs.left ^^^ roundFunction (joinPair key) (joinPair pairs.right)
          = joinPair (pairRound pairs key).right := by
        rw [roundFunction_joinPair]
        exact word64_xor_word64 _ _ _ _
      rw [List.map_cons, feistel, hround, List.foldl_cons, ← ih]
      rfl

theorem bytes64_joinPair (pair : UInt32 × UInt32) :
    bytes64 (joinPair pair) = bytes32 pair.1 ++ bytes32 pair.2 := by
  rw [bytes64, joinPair, high_word64, low_word64]

theorem network_crypt (keys : List (UInt32 × UInt32)) :
    Network keys (crypt (keys.map joinPair)) := by
  intro pairs
  have hbytes : pairs.bytes = bytes64 (joinPair pairs.left) ++ bytes64 (joinPair pairs.right) := by
    rw [bytes64_joinPair, bytes64_joinPair, Pairs.bytes]
  rw [hbytes, crypt_bytes64, feistel_joinPair, bytes64_joinPair, bytes64_joinPair]
  rfl

/-! ### Blocks -/

/-- What encryption and decryption are defined for. -/
def blocks : Set Bytes := {block | block.length = 16}

theorem mapsTo_crypt (keys : List UInt64) : Set.MapsTo (crypt keys) blocks blocks :=
  fun _ hblock => length_crypt keys hblock

/-- The keys from back to front undo the keys, and the other way round since reversing twice is
reversing not at all. -/
theorem invOn_crypt (keys : List UInt64) :
    Set.InvOn (crypt keys.reverse) (crypt keys) blocks blocks := by
  constructor
  · intro block hblock
    exact crypt_reverse_crypt keys hblock
  · intro block hblock
    have hundone := crypt_reverse_crypt keys.reverse hblock
    rwa [List.reverse_reverse] at hundone

theorem bijOn_crypt (keys : List UInt64) : Set.BijOn (crypt keys) blocks blocks :=
  (invOn_crypt keys).bijOn (mapsTo_crypt keys) (mapsTo_crypt keys.reverse)

/-- The words of the round keys of a key. -/
theorem exists_joinPair_roundKeys {key : Bytes} (hkey : key.length = 16) :
    ∃ keys : List (UInt32 × UInt32), keys.length = 16 ∧ keys.map joinPair = roundKeys key := by
  refine ⟨(roundKeys key).map fun word : UInt64 => ((word >>> 32).toUInt32, word.toUInt32), ?_, ?_⟩
  · rw [List.length_map, length_roundKeys hkey]
  · rw [List.map_map]
    apply List.map_id''
    intro word
    exact word64_halves word

/-- Under every key, decryption undoes encryption and encryption undoes decryption, and both permute
the blocks: they are networks of sixteen rounds, one with the round keys of the other from back to
front. -/
theorem permutes_blocks {key : Bytes} (hkey : key.length = 16) :
    (∀ block ∈ blocks, (seed key).decrypt ((seed key).encrypt block) = block
        ∧ (seed key).encrypt ((seed key).decrypt block) = block)
      ∧ Set.BijOn (seed key).encrypt blocks blocks
      ∧ Set.BijOn (seed key).decrypt blocks blocks
      ∧ ∃ keys : List (UInt32 × UInt32), keys.length = 16
        ∧ Network keys (seed key).encrypt ∧ Network keys.reverse (seed key).decrypt := by
  have hinverse := invOn_crypt (roundKeys key)
  obtain ⟨keys, hlength, hkeys⟩ := exists_joinPair_roundKeys hkey
  have hencrypt : (seed key).encrypt = crypt (keys.map joinPair) := by
    rw [hkeys]
    rfl
  have hdecrypt : (seed key).decrypt = crypt (keys.reverse.map joinPair) := by
    rw [List.map_reverse, hkeys]
    rfl
  refine ⟨?_, bijOn_crypt _, bijOn_crypt _, keys, hlength, ?_, ?_⟩
  · intro block hblock
    exact ⟨hinverse.1 hblock, hinverse.2 hblock⟩
  · rw [hencrypt]
    exact network_crypt keys
  · rw [hdecrypt]
    exact network_crypt keys.reverse

/-- The bytes from 0 to 15. -/
def countingBytes : Bytes := (List.range 16).map UInt8.ofNat

/-- A key that is a block may be encrypted under itself. -/
theorem countingBytes_permute_blocks :
    countingBytes.length = 16
      ∧ (seed countingBytes).decrypt ((seed countingBytes).encrypt countingBytes) = countingBytes
      ∧ (seed countingBytes).encrypt ((seed countingBytes).decrypt countingBytes) = countingBytes
      ∧ ∃ block ∈ blocks, (seed countingBytes).encrypt block = countingBytes := by
  have hkey : countingBytes.length = 16 := rfl
  obtain ⟨hundo, hbijective, -⟩ := permutes_blocks hkey
  exact ⟨hkey, (hundo _ hkey).1, (hundo _ hkey).2, hbijective.surjOn hkey⟩

end Seed

end RecordProtection
