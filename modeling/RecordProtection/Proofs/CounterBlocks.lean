import RecordProtection.Mode.Counter
import RecordProtection.Proofs.Multilinear

/-!
# Counter blocks as numbers

The counter is kept as a block and counted on byte by byte, with carries.  The block of any piece is
nevertheless known without counting: it writes the number of the first block plus the place of the
piece, modulo the number of blocks.  The multilinear mode counts in half a block, the right one for
the keystream and the left one for the keys of the tag, and no carry leaves the half.
-/

namespace RecordProtection

namespace Bytes

/-- The number of `bits` bits that is some steps after the one that the bytes write, modulo
`2 ^ bits`. -/
def countOn (bits : Nat) (bytes : Bytes) (steps : Nat) : Bytes :=
  ofNatBE (bits / 8) ((toNatBE bytes + steps) % 2 ^ bits)

end Bytes

theorem iterate_incrementBE_eq_countOn {bits : Nat} {bytes : Bytes}
    (hbits : bits = 8 * bytes.length) (steps : Nat) :
    incrementBE^[steps] bytes = Bytes.countOn bits bytes steps := by
  have hwidth : bits / 8 = bytes.length := by
    omega
  have hmodulus : 2 ^ bits = 256 ^ bytes.length := by
    rw [hbits, Nat.pow_mul]
  rw [Bytes.countOn, hwidth, hmodulus]
  apply Bytes.toNatBE_injective
  · rw [length_iterate_incrementBE, Bytes.length_ofNatBE]
  · rw [toNatBE_iterate_incrementBE, Bytes.toNatBE_ofNatBE, Nat.mod_mod]

/-! ### Keystreams -/

/-- A mask that adds the encryptions of counter blocks: byte by byte, each by its place in its
block.  Added twice they cancel, and how the data goes on has no part in it. -/
structure BlockCipher.MasksWith (cipher : BlockCipher) (counter : Nat → Bytes)
    (mask : Bytes → Bytes) : Prop where
  byte : ∀ data block place, place < cipher.blockLength →
    (mask data)[block * cipher.blockLength + place]?
      = Option.map₂ (· ^^^ ·) data[block * cipher.blockLength + place]?
        (cipher.encrypt (counter block))[place]?
  involutive : Function.Involutive mask
  take : ∀ data count, mask (data.take count) = (mask data).take count

/-- Counting may be replaced by whatever gives the same blocks. -/
theorem masksWith_counterMode {cipher : BlockCipher} (hcipher : cipher.Lawful)
    {next : Bytes → Bytes} (hnext : ∀ block, (next block).length = block.length)
    {start : Bytes} (hstart : start.length = cipher.blockLength) {counter : Nat → Bytes}
    (hcounter : ∀ index, next^[index] start = counter index) :
    cipher.MasksWith counter (counterMode cipher next start) where
  byte data block place hplace := by
    rw [getElem?_counterMode hcipher hnext hstart, mul_add_div_of_lt hplace,
      Nat.mul_add_mod_of_lt hplace, hcounter]
  involutive := counterMode_counterMode hcipher hnext hstart
  take := counterMode_take hcipher hnext hstart

theorem CounterMode.masksWith_mask {mode : CounterMode} (hcipher : mode.cipher.Lawful)
    {start : Bytes} (hstart : start.length = mode.cipher.blockLength) :
    mode.cipher.MasksWith (Bytes.countOn (8 * mode.cipher.blockLength) start) (mode.mask start) :=
  masksWith_counterMode hcipher length_incrementBE hstart fun index =>
    iterate_incrementBE_eq_countOn (congrArg (8 * ·) hstart.symm) index

/-! ### Halves -/

namespace Multilinear

section Halves

variable {half : Nat} {block : Bytes} (hhalf : half ≤ block.length)
include hhalf

theorem iterate_nextCounter (steps : Nat) :
    (nextCounter half)^[steps] block
      = block.take half ++ incrementBE^[steps] (block.drop half) := by
  induction steps with
  | zero => exact (List.take_append_drop half block).symm
  | succ steps ih =>
      have hleft : (block.take half).length = half := List.length_take_of_le hhalf
      rw [Function.iterate_succ_apply', Function.iterate_succ_apply', ih, nextCounter,
        List.take_left' hleft, List.drop_left' hleft]

theorem iterate_nextKey (steps : Nat) :
    (nextKey half)^[steps] block
      = incrementBE^[steps] (block.take half) ++ block.drop half := by
  induction steps with
  | zero => exact (List.take_append_drop half block).symm
  | succ steps ih =>
      have hleft : (incrementBE^[steps] (block.take half)).length = half := by
        rw [length_iterate_incrementBE]
        exact List.length_take_of_le hhalf
      rw [Function.iterate_succ_apply', Function.iterate_succ_apply', ih, nextKey,
        List.take_left' hleft, List.drop_left' hleft]

end Halves

/-- The counter block of a piece: the right half of the first one counts on. -/
def counterAt (start : Bytes) (index : Nat) : Bytes :=
  start.take (start.length / 2)
    ++ Bytes.countOn (4 * start.length) (start.drop (start.length / 2)) index

/-- The key block of a block of the tag: the left half of the first one counts on. -/
def keyAt (start : Bytes) (index : Nat) : Bytes :=
  Bytes.countOn (4 * start.length) (start.take (start.length / 2)) index
    ++ start.drop (start.length / 2)

section EvenLength

variable {start : Bytes} (heven : 2 ∣ start.length)
include heven

theorem iterate_nextCounter_eq_counterAt (steps : Nat) :
    (nextCounter (start.length / 2))^[steps] start = counterAt start steps := by
  have hbits : 4 * start.length = 8 * (start.drop (start.length / 2)).length := by
    rw [List.length_drop]
    omega
  rw [iterate_nextCounter (Nat.div_le_self _ 2), iterate_incrementBE_eq_countOn hbits, counterAt]

theorem iterate_nextKey_eq_keyAt (steps : Nat) :
    (nextKey (start.length / 2))^[steps] start = keyAt start steps := by
  have hbits : 4 * start.length = 8 * (start.take (start.length / 2)).length := by
    rw [List.length_take]
    omega
  rw [iterate_nextKey (Nat.div_le_self _ 2), iterate_incrementBE_eq_countOn hbits, keyAt]

end EvenLength

/-! ### Keys of the tag -/

/-- The sum of the products of blocks with the encryptions of the key blocks at their places. -/
def keyedSum (cipher : BlockCipher) (key : Nat → Bytes) (blocks : List Bytes) : Nat :=
  (blocks.mapIdx fun index block =>
    multiply (Bytes.toNatBE (cipher.encrypt (key index))) (Bytes.toNatBE block)
      (8 * cipher.blockLength)).foldl (· ^^^ ·) 0

theorem sumProducts_eq_foldl_mapIdx (cipher : BlockCipher) (key : Bytes) (blocks : List Bytes)
    (sum : Nat) :
    sumProducts cipher key blocks sum
      = (blocks.mapIdx fun index block =>
          multiply (Bytes.toNatBE (cipher.encrypt
              ((nextKey (cipher.blockLength / 2))^[index] key))) (Bytes.toNatBE block)
            (8 * cipher.blockLength)).foldl (· ^^^ ·) sum := by
  induction blocks generalizing key sum with
  | nil => rfl
  | cons block blocks ih =>
      rw [sumProducts, ih, List.mapIdx_cons, List.foldl_cons]
      -- so many steps on from the next key are one step more from this one
      rfl

section Start

variable {cipher : BlockCipher} (heven : 2 ∣ cipher.blockLength) {start : Bytes}
  (hstart : start.length = cipher.blockLength)
include heven hstart

theorem masksWith_nextCounter (hcipher : cipher.Lawful) :
    cipher.MasksWith (counterAt start)
      (counterMode cipher (nextCounter (cipher.blockLength / 2)) start) := by
  rw [← hstart] at heven ⊢
  exact masksWith_counterMode hcipher (length_nextCounter _) hstart
    (iterate_nextCounter_eq_counterAt heven)

theorem sumProducts_eq_keyedSum (blocks : List Bytes) :
    sumProducts cipher start blocks 0 = keyedSum cipher (keyAt start) blocks := by
  rw [← hstart] at heven
  have hkey := iterate_nextKey_eq_keyAt heven
  rw [hstart] at hkey
  rw [sumProducts_eq_foldl_mapIdx, keyedSum]
  simp only [hkey]

end Start

end Multilinear

/-- The counter blocks of the keystreams and the key blocks of the tag are numbers counted on from
the first block: over the whole block in counter mode, in the right half for the keystream of the
multilinear mode and in the left half for its keys.  So both masks undo themselves, and what they do
to the beginning of the data does not depend on the rest. -/
theorem counterBlocks_are_numbered {cipher : BlockCipher} (hcipher : cipher.Lawful) :
    (∀ start layout, start.length = cipher.blockLength →
        cipher.MasksWith (Bytes.countOn (8 * cipher.blockLength) start)
          (CounterMode.mask ⟨cipher, layout⟩ start))
      ∧ (2 ∣ cipher.blockLength →
        (∀ start, start.length = cipher.blockLength →
          cipher.MasksWith (Multilinear.counterAt start)
              (counterMode cipher (Multilinear.nextCounter (cipher.blockLength / 2)) start)
            ∧ ∀ blocks, Multilinear.sumProducts cipher start blocks 0
              = Multilinear.keyedSum cipher (Multilinear.keyAt start) blocks)
          ∧ ∀ nonce, nonce.length = cipher.blockLength →
            cipher.MasksWith (Multilinear.counterAt (Multilinear.counterStart cipher nonce))
                (Multilinear.mask cipher nonce)
              ∧ ∀ data ciphertext, Multilinear.fullTag cipher nonce data ciphertext
                = cipher.encrypt (Bytes.ofNatBE cipher.blockLength
                  (Multilinear.keyedSum cipher
                    (Multilinear.keyAt (Multilinear.keyStart cipher nonce))
                    (Multilinear.taggedBlocks cipher.blockLength data ciphertext)))) := by
  refine ⟨fun start layout hstart => @CounterMode.masksWith_mask ⟨cipher, layout⟩ hcipher _ hstart,
    fun heven => ⟨fun start hstart => ?_, fun nonce hnonce => ?_⟩⟩
  · exact ⟨Multilinear.masksWith_nextCounter heven hstart hcipher,
      Multilinear.sumProducts_eq_keyedSum heven hstart⟩
  · have hmarked := Multilinear.length_encrypt_mapFirst hcipher hnonce
    refine ⟨Multilinear.masksWith_nextCounter heven (hmarked _) hcipher, fun data ciphertext => ?_⟩
    rw [Multilinear.fullTag]
    exact congrArg (fun sum => cipher.encrypt (Bytes.ofNatBE cipher.blockLength sum))
      (Multilinear.sumProducts_eq_keyedSum heven (hmarked _) _)

def zeroKeyMagma : BlockCipher := magma (Bytes.zeros 32)

/-- The last block, after which the first one comes again. -/
def lastBlock : Bytes := List.replicate 8 0xff

/-- A second piece that is shorter than a block: the counters have gone round, and the other half of
the block has stayed. -/
theorem lastBlock_goes_round :
    zeroKeyMagma.Lawful ∧ 2 ∣ zeroKeyMagma.blockLength
      ∧ lastBlock.length = zeroKeyMagma.blockLength
      ∧ (CounterMode.mask ⟨zeroKeyMagma, .masked lastBlock⟩ lastBlock
          (lastBlock ++ [1, 2, 3, 4]))[11]?
        = Option.map₂ (· ^^^ ·) (some 4) (zeroKeyMagma.encrypt (Bytes.zeros 8))[3]?
      ∧ (counterMode zeroKeyMagma (Multilinear.nextCounter 4) lastBlock
          (lastBlock ++ [1, 2, 3, 4]))[11]?
        = Option.map₂ (· ^^^ ·) (some 4)
          (zeroKeyMagma.encrypt [0xff, 0xff, 0xff, 0xff, 0, 0, 0, 0])[3]?
      ∧ Multilinear.keyAt lastBlock 1 = [0, 0, 0, 0, 0xff, 0xff, 0xff, 0xff]
      ∧ Multilinear.sumProducts zeroKeyMagma lastBlock [Bytes.zeros 8, lastBlock] 0
        = Multilinear.keyedSum zeroKeyMagma (Multilinear.keyAt lastBlock)
          [Bytes.zeros 8, lastBlock] := by
  have hcipher : zeroKeyMagma.Lawful := magma_lawful (Bytes.zeros 32)
  have heven : 2 ∣ zeroKeyMagma.blockLength := ⟨4, rfl⟩
  have hlength : lastBlock.length = zeroKeyMagma.blockLength := rfl
  obtain ⟨hwhole, hhalves⟩ := counterBlocks_are_numbered hcipher
  obtain ⟨hright, hleft⟩ := (hhalves heven).1 lastBlock hlength
  have hcounter : Bytes.countOn 64 lastBlock 1 = Bytes.zeros 8 := by decide
  have hrightCounter : Multilinear.counterAt lastBlock 1
      = [0xff, 0xff, 0xff, 0xff, 0, 0, 0, 0] := by decide
  refine ⟨hcipher, heven, hlength, ?_, ?_, by decide, hleft [Bytes.zeros 8, lastBlock]⟩
  · rw [← hcounter]
    exact (hwhole lastBlock (.masked lastBlock) hlength).byte (lastBlock ++ [1, 2, 3, 4]) 1 3
      (by decide)
  · rw [← hrightCounter]
    exact hright.byte (lastBlock ++ [1, 2, 3, 4]) 1 3 (by decide)

end RecordProtection
