import RecordProtection.Proofs.KeyBlock

/-!
# The streams of the pseudorandom functions

Data expansion runs through an infinite stream that the secret and the seed determine: each block is
the keyed hash of a link of a chain, followed by the seed.  Where an output ends says how far the
stream is read and nothing else, so a shorter output is the beginning of a longer one.  The older
function masks one stream with another; their blocks differ in length, so bytes are told by their
positions and not by blocks.
-/

namespace RecordProtection

namespace Bytes

/-- The first bytes of a stream. -/
def ofStream (stream : Nat → UInt8) (length : Nat) : Bytes :=
  (List.range length).map stream

theorem ofStream_append (stream : Nat → UInt8) (length more : Nat) :
    ofStream stream (length + more)
      = ofStream stream length ++ ofStream (fun position => stream (length + position)) more := by
  unfold ofStream
  rw [List.range_add, List.map_append, List.map_map]
  rfl

theorem take_ofStream (stream : Nat → UInt8) {length long : Nat} (hshort : length ≤ long) :
    (ofStream stream long).take length = ofStream stream length := by
  obtain ⟨more, rfl⟩ := Nat.exists_eq_add_of_le hshort
  rw [ofStream_append]
  exact List.take_left' (by rw [ofStream, List.length_map, List.length_range])

theorem xor_ofStream (left right : Nat → UInt8) (length : Nat) :
    xor (ofStream left length) (ofStream right length)
      = ofStream (fun position => left position ^^^ right position) length := by
  unfold xor ofStream
  rw [List.zipWith_map, List.zipWith_self]

end Bytes

/-- The chain: the seed, and then the keyed hash of the link before. -/
def prfLink (algorithm : HashAlgorithm) (secret seed : Bytes) : Nat → Bytes
  | 0 => seed
  | index + 1 => hmac algorithm secret (prfLink algorithm secret seed index)

/-- The blocks: the first comes from the link after the seed. -/
def prfBlock (algorithm : HashAlgorithm) (secret seed : Bytes) (index : Nat) : Bytes :=
  hmac algorithm secret (prfLink algorithm secret seed (index + 1) ++ seed)

/-- The byte at a position of the stream, counted over all blocks. -/
def prfByte (algorithm : HashAlgorithm) (secret seed : Bytes) (position : Nat) : UInt8 :=
  (prfBlock algorithm secret seed (position / algorithm.outputLength)).getD
    (position % algorithm.outputLength) 0

section Streams

variable (algorithm : HashAlgorithm) (secret seed : Bytes)

theorem length_prfBlock (index : Nat) :
    (prfBlock algorithm secret seed index).length = algorithm.outputLength := by
  rw [prfBlock, length_hmac]

/-- The stream is the blocks one after another. -/
theorem prfBlock_eq_ofStream (index : Nat) :
    prfBlock algorithm secret seed index
      = Bytes.ofStream
        (fun place => prfByte algorithm secret seed (index * algorithm.outputLength + place))
        algorithm.outputLength :=
  Bytes.block_eq_map (length_prfBlock algorithm secret seed) index

/-- The blocks after some link of the chain. -/
theorem prfBlocks_prfLink (count index : Nat) :
    prfBlocks algorithm secret seed count (prfLink algorithm secret seed index)
      = (List.range' index count).flatMap (prfBlock algorithm secret seed) := by
  induction count generalizing index with
  | zero => rfl
  | succ count ih =>
      rw [List.range'_succ, List.flatMap_cons, ← ih]
      rfl

theorem expandSecret_eq_ofStream (length : Nat) :
    expandSecret algorithm secret seed length
      = Bytes.ofStream (prfByte algorithm secret seed) length := by
  have hblocks (count : Nat) : prfBlocks algorithm secret seed count seed
      = Bytes.ofStream (prfByte algorithm secret seed) (count * algorithm.outputLength) := by
    calc prfBlocks algorithm secret seed count seed
      _ = (List.range' 0 count).flatMap (prfBlock algorithm secret seed) :=
          prfBlocks_prfLink algorithm secret seed count 0
      _ = (List.range count).flatMap (prfBlock algorithm secret seed) := by
          rw [List.range_eq_range']
      _ = Bytes.ofStream (prfByte algorithm secret seed) (count * algorithm.outputLength) :=
          Bytes.flatMap_range_eq_map (length_prfBlock algorithm secret seed) count
  rw [expandSecret, hblocks]
  exact Bytes.take_ofStream _ (le_blocks_mul (outputLength_pos algorithm) length)

end Streams

/-- The two ends of a secret, each with half its bytes: if their number is odd, the byte in the
middle is in both. -/
structure Halves (secret first last : Bytes) : Prop where
  first_prefix : first <+: secret
  last_suffix : last <:+ secret
  length_first : first.length = (secret.length + 1) / 2
  length_last : last.length = (secret.length + 1) / 2

theorem halves_take_drop (secret : Bytes) :
    Halves secret (secret.take ((secret.length + 1) / 2))
      (secret.drop (secret.length - (secret.length + 1) / 2)) where
  first_prefix := List.take_prefix _ _
  last_suffix := List.drop_suffix _ _
  length_first := by
    rw [List.length_take]
    omega
  length_last := by
    rw [List.length_drop]
    omega

/-- The byte at a position of the stream of the older function, which one half of the secret gives
with one hash and the other half with the other. -/
def maskedByte (first last seed : Bytes) (position : Nat) : UInt8 :=
  prfByte .md5 first seed position ^^^ prfByte .sha1 last seed position

theorem prf12_eq_ofStream (algorithm : HashAlgorithm) (secret : Bytes) (label : String)
    (seed : Bytes) (length : Nat) :
    prf12 algorithm secret label seed length
      = Bytes.ofStream (prfByte algorithm secret (Bytes.ofText label ++ seed)) length := by
  rw [prf12, expandSecret_eq_ofStream]

theorem prf10_eq_ofStream (secret : Bytes) (label : String) (seed : Bytes) (length : Nat) :
    prf10 secret label seed length
      = Bytes.ofStream (maskedByte (secret.take ((secret.length + 1) / 2))
          (secret.drop (secret.length - (secret.length + 1) / 2)) (Bytes.ofText label ++ seed))
        length := by
  rw [prf10, expandSecret_eq_ofStream, expandSecret_eq_ofStream, Bytes.xor_ofStream]
  rfl

/-- Both functions read streams from the beginning: how much is asked for decides where they stop,
so a shorter output begins a longer one. -/
theorem prf_reads_streams (secret : Bytes) (label : String) (seed : Bytes) :
    (∀ algorithm length, prf12 algorithm secret label seed length
        = Bytes.ofStream (prfByte algorithm secret (Bytes.ofText label ++ seed)) length)
      ∧ (∃ first last, Halves secret first last ∧ ∀ length, prf10 secret label seed length
          = Bytes.ofStream (maskedByte first last (Bytes.ofText label ++ seed)) length)
      ∧ (∀ algorithm length more, prf12 algorithm secret label seed length
          <+: prf12 algorithm secret label seed (length + more))
      ∧ ∀ length more,
        prf10 secret label seed length <+: prf10 secret label seed (length + more) := by
  refine ⟨fun algorithm length => prf12_eq_ofStream algorithm secret label seed length,
    ⟨_, _, halves_take_drop secret, fun length => prf10_eq_ofStream secret label seed length⟩,
    fun algorithm length more => ?_, fun length more => ?_⟩
  · rw [prf12_eq_ofStream, prf12_eq_ofStream, Bytes.ofStream_append]
    exact List.prefix_append _ _
  · rw [prf10_eq_ofStream, prf10_eq_ofStream, Bytes.ofStream_append]
    exact List.prefix_append _ _

end RecordProtection
