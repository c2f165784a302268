import RecordProtection.Proofs.Block.Counter
import RecordProtection.Proofs.Bounds.Buffer
import RecordProtection.Proofs.Engine

/-!
# Blocks within bounds

A block cipher takes exactly one block.  One of the ciphers reads and writes the words of a block at
fixed positions and looks bytes up in tables, which is written out here; the others are only given
their block.  Keystreams are made of a counter block that is copied into a buffer of one block and
encrypted there.
-/

namespace RecordProtection

open Guarded

/-! ### The words of a block -/

namespace Seed

def guardedWord (block : Bytes) (position : Nat) : Guarded UInt32 := do
  return word32 (← Buffer.get block position) (← Buffer.get block (position + 1))
    (← Buffer.get block (position + 2)) (← Buffer.get block (position + 3))

def lookup (box : Array UInt8) (byte : UInt8) : Guarded UInt8 :=
  match box[byte.toNat]? with
  | some substituted => .ok substituted
  | none => .error .outOfRange

def guardedMixWord (word : UInt32) : Guarded UInt32 := do
  let a ← lookup firstBox word.toUInt8
  let b ← lookup secondBox (word >>> 8).toUInt8
  let c ← lookup firstBox (word >>> 16).toUInt8
  let d ← lookup secondBox (word >>> 24).toUInt8
  return word32
    ((a &&& 0x3f) ^^^ (b &&& 0xfc) ^^^ (c &&& 0xf3) ^^^ (d &&& 0xcf))
    ((a &&& 0xcf) ^^^ (b &&& 0x3f) ^^^ (c &&& 0xfc) ^^^ (d &&& 0xf3))
    ((a &&& 0xf3) ^^^ (b &&& 0xcf) ^^^ (c &&& 0x3f) ^^^ (d &&& 0xfc))
    ((a &&& 0xfc) ^^^ (b &&& 0xf3) ^^^ (c &&& 0xcf) ^^^ (d &&& 0x3f))

def guardedRoundFunction (key half : UInt64) : Guarded UInt64 := do
  let masked := half ^^^ key
  let left := (masked >>> 32).toUInt32
  let right := masked.toUInt32
  let t ← guardedMixWord (left ^^^ right)
  let u ← guardedMixWord (t + left)
  let v ← guardedMixWord (u + t)
  return word64 (v + u) v

def guardedRounds : List UInt64 → UInt64 × UInt64 → Guarded (UInt64 × UInt64)
  | [], halves => .ok halves
  | key :: keys, (left, right) => do
      let mixed ← guardedRoundFunction key right
      guardedRounds keys (right, left ^^^ mixed)

/-- The halves go back into the block word by word, the right one first. -/
def guardedCrypt (keys : List UInt64) (block : Bytes) : Guarded Bytes := do
  let start := (word64 (← guardedWord block 0) (← guardedWord block 4),
    word64 (← guardedWord block 8) (← guardedWord block 12))
  let (left, right) ← guardedRounds keys start
  let block ← Buffer.overwrite block 0 4 (bytes32 (right >>> 32).toUInt32)
  let block ← Buffer.overwrite block 4 8 (bytes32 right.toUInt32)
  let block ← Buffer.overwrite block 8 12 (bytes32 (left >>> 32).toUInt32)
  Buffer.overwrite block 12 16 (bytes32 left.toUInt32)

theorem lookup_eq_ok {box : Array UInt8} (hbox : box.size = 256) (byte : UInt8) :
    lookup box byte = .ok (box.getD byte.toNat 0) := by
  have hbyte : byte.toNat < box.size := by
    rw [hbox]
    exact byte.toNat_lt
  simp [lookup, hbyte]

theorem guardedMixWord_eq_ok (word : UInt32) : guardedMixWord word = .ok (mixWord word) := by
  have hfirst : firstBox.size = 256 := by decide +kernel
  have hsecond : secondBox.size = 256 := by decide +kernel
  simp only [guardedMixWord, lookup_eq_ok hfirst, lookup_eq_ok hsecond, ok_bind, pure_eq_ok,
    mixWord]

theorem guardedRounds_eq_ok (keys : List UInt64) (halves : UInt64 × UInt64) :
    guardedRounds keys halves = .ok (feistel roundFunction keys halves) := by
  induction keys generalizing halves with
  | nil => rfl
  | cons key keys ih =>
      obtain ⟨left, right⟩ := halves
      simp only [guardedRounds, guardedRoundFunction, guardedMixWord_eq_ok, ok_bind, pure_eq_ok, ih,
        feistel, roundFunction]

theorem overwrite_words {block : Bytes} (hblock : block.length = 16) (w₀ w₁ w₂ w₃ : UInt32) :
    (do
      let block ← Buffer.overwrite block 0 4 (bytes32 w₀)
      let block ← Buffer.overwrite block 4 8 (bytes32 w₁)
      let block ← Buffer.overwrite block 8 12 (bytes32 w₂)
      Buffer.overwrite block 12 16 (bytes32 w₃))
      = .ok (bytes32 w₀ ++ bytes32 w₁ ++ bytes32 w₂ ++ bytes32 w₃) := by
  have h₀ : Buffer.overwrite block 0 4 (bytes32 w₀) = .ok (bytes32 w₀ ++ block.drop 4) :=
    Buffer.overwrite_front rfl (by simp [hblock])
  have h₁ : Buffer.overwrite (bytes32 w₀ ++ block.drop 4) 4 8 (bytes32 w₁)
      = .ok (bytes32 w₀ ++ bytes32 w₁ ++ (block.drop 4).drop 4) :=
    Buffer.overwrite_append rfl rfl (by simp [hblock])
  have h₂ : Buffer.overwrite (bytes32 w₀ ++ bytes32 w₁ ++ (block.drop 4).drop 4) 8 12 (bytes32 w₂)
      = .ok (bytes32 w₀ ++ bytes32 w₁ ++ bytes32 w₂ ++ ((block.drop 4).drop 4).drop 4) :=
    Buffer.overwrite_append rfl rfl (by simp [hblock])
  have h₃ : Buffer.overwrite (bytes32 w₀ ++ bytes32 w₁ ++ bytes32 w₂
        ++ ((block.drop 4).drop 4).drop 4) 12 16 (bytes32 w₃)
      = .ok (bytes32 w₀ ++ bytes32 w₁ ++ bytes32 w₂ ++ bytes32 w₃
        ++ (((block.drop 4).drop 4).drop 4).drop 4) :=
    Buffer.overwrite_append rfl rfl (by simp [hblock])
  simp only [h₀, h₁, h₂, h₃, ok_bind]
  simp [hblock]

theorem guardedCrypt_eq_ok (keys : List UInt64) {block : Bytes} (hblock : block.length = 16) :
    guardedCrypt keys block = .ok (crypt keys block) := by
  have hwords := overwrite_words hblock
  match block, hblock with
  | [a₀, a₁, a₂, a₃, a₄, a₅, a₆, a₇, a₈, a₉, a₁₀, a₁₁, a₁₂, a₁₃, a₁₄, a₁₅], _ =>
    simp only [guardedCrypt, guardedWord, Buffer.get, guardedRounds_eq_ok, ok_bind, pure_eq_ok,
      List.getElem?_cons_zero, List.getElem?_cons_succ, hwords, crypt, words64, bytes64,
      List.append_assoc]

end Seed

/-! ### Blocks -/

/-- A block cipher with the engine and the key that it comes from. -/
structure KeyedCipher where
  kind : EngineKind
  key : Bytes
  cipher : BlockCipher
  key_mem : key.length ∈ kind.keyLengths
  primitive_eq : kind.primitive key = .block cipher

namespace KeyedCipher

variable (keyed : KeyedCipher)

abbrev blockLength : Nat := keyed.cipher.blockLength

/-- A permutation of one block; for the cipher whose rounds are written out, under its round
keys. -/
def onBlock (permute : Bytes → Bytes) (seedKeys : List UInt64) (block : Bytes) : Guarded Bytes :=
  if keyed.kind = .seed then Seed.guardedCrypt seedKeys block
  else if block.length = keyed.blockLength then .ok (permute block)
  else .error .lengthMismatch

def guardedEncrypt (block : Bytes) : Guarded Bytes :=
  keyed.onBlock keyed.cipher.encrypt (Seed.roundKeys keyed.key) block

def guardedDecrypt (block : Bytes) : Guarded Bytes :=
  keyed.onBlock keyed.cipher.decrypt (Seed.roundKeys keyed.key).reverse block

theorem lawful : keyed.cipher.Lawful :=
  EngineKind.lawful_of_primitive keyed.key_mem keyed.primitive_eq

theorem kind_blockLength : keyed.kind.blockLength = some keyed.blockLength :=
  EngineKind.blockLength_of_primitive keyed.primitive_eq

theorem cipher_of_kind_eq_seed (hkind : keyed.kind = .seed) :
    keyed.cipher = seed keyed.key := by
  have hprimitive := keyed.primitive_eq
  rw [hkind] at hprimitive
  exact (Primitive.block.inj hprimitive).symm

theorem onBlock_eq_ok {permute : Bytes → Bytes} {seedKeys : List UInt64} {block : Bytes}
    (hseed : keyed.kind = .seed → permute = Seed.crypt seedKeys)
    (hblock : block.length = keyed.blockLength) :
    keyed.onBlock permute seedKeys block = .ok (permute block) := by
  unfold onBlock
  split
  · rename_i hkind
    have hlength : block.length = 16 := by
      rw [hblock, blockLength, keyed.cipher_of_kind_eq_seed hkind]
      rfl
    rw [Seed.guardedCrypt_eq_ok _ hlength, hseed hkind]
  · rfl

theorem guardedEncrypt_eq_ok {block : Bytes} (hblock : block.length = keyed.blockLength) :
    keyed.guardedEncrypt block = .ok (keyed.cipher.encrypt block) :=
  keyed.onBlock_eq_ok (fun hkind => by rw [keyed.cipher_of_kind_eq_seed hkind]; rfl) hblock

theorem guardedDecrypt_eq_ok {block : Bytes} (hblock : block.length = keyed.blockLength) :
    keyed.guardedDecrypt block = .ok (keyed.cipher.decrypt block) :=
  keyed.onBlock_eq_ok (fun hkind => by rw [keyed.cipher_of_kind_eq_seed hkind]; rfl) hblock

/-! ### Keystreams -/

/-- The counter goes through a buffer of one block, in which it is encrypted. -/
def guardedMaskPieces (next : Bytes → Guarded Bytes) :
    (counter : Bytes) → List Bytes → Guarded (List Bytes)
  | _, [] => .ok []
  | counter, piece :: rest => do
      let buffer ← Buffer.copy (Bytes.zeros keyed.blockLength) counter
      let keystream ← keyed.guardedEncrypt buffer
      let counter ← next counter
      return Buffer.mask piece keystream :: (← guardedMaskPieces next counter rest)

def guardedCounterMode (next : Bytes → Guarded Bytes) (counter data : Bytes) : Guarded Bytes := do
  let pieces ← Buffer.chunks keyed.blockLength data
  return (← keyed.guardedMaskPieces next counter pieces).flatten

variable {next : Bytes → Guarded Bytes} {step : Bytes → Bytes}
  (hnext : ∀ counter, counter.length = keyed.blockLength → next counter = .ok (step counter))
  (hstep : ∀ counter, (step counter).length = counter.length)
include hnext hstep

theorem guardedMaskPieces_eq_ok {counter : Bytes} (hcounter : counter.length = keyed.blockLength)
    {pieces : List Bytes} (hpieces : ∀ piece ∈ pieces, piece.length ≤ keyed.blockLength) :
    keyed.guardedMaskPieces next counter pieces
      = .ok (maskPieces keyed.cipher.encrypt step counter pieces) := by
  induction pieces generalizing counter with
  | nil => rfl
  | cons piece pieces ih =>
      have hbuffer : (Bytes.zeros keyed.blockLength).length = counter.length := by
        rw [Bytes.length_zeros, hcounter]
      have hcover : piece.length ≤ (keyed.cipher.encrypt counter).length := by
        rw [keyed.lawful.length_encrypt counter hcounter]
        exact hpieces piece (by simp)
      have hrest := ih ((hstep counter).trans hcounter)
        fun other hother => hpieces other (by simp [hother])
      simp only [guardedMaskPieces, Buffer.copy_eq_ok hbuffer, keyed.guardedEncrypt_eq_ok hcounter,
        hnext counter hcounter, hrest, ok_bind, pure_eq_ok, Buffer.mask_eq_xor hcover, maskPieces]

theorem guardedCounterMode_eq_ok {counter : Bytes} (hcounter : counter.length = keyed.blockLength)
    (data : Bytes) :
    keyed.guardedCounterMode next counter data
      = .ok (counterMode keyed.cipher step counter data) := by
  have hpos : 0 < keyed.blockLength := keyed.lawful.blockLength_pos
  simp only [guardedCounterMode, Buffer.chunks_eq_ok hpos, ok_bind, pure_eq_ok,
    keyed.guardedMaskPieces_eq_ok hnext hstep hcounter (Bytes.length_le_of_mem_chunks hpos data)]
  rfl

end KeyedCipher

end RecordProtection
