import Mathlib.Data.List.Iterate
import Mathlib.Data.Option.NAry
import RecordProtection.Block.Counter
import RecordProtection.Proofs.Block.Lawful

/-!
# Counter mode adds a keystream

The blocks that are counted through from the first counter block on are encrypted, and their
encryptions, one after another, are added to the data.  They cover the data and do not depend on it,
so each byte is masked by its place alone, and masking twice gives the data back.
-/

namespace RecordProtection

@[simp]
theorem length_incrementLE (bytes : Bytes) : (incrementLE bytes).length = bytes.length := by
  induction bytes with
  | nil => rfl
  | cons byte bytes ih =>
      unfold incrementLE
      split
      · simp [ih]
      · simp

@[simp]
theorem length_incrementBE (bytes : Bytes) : (incrementBE bytes).length = bytes.length := by
  simp [incrementBE]

theorem length_iterate {next : Bytes → Bytes} (hnext : ∀ block, (next block).length = block.length)
    (block : Bytes) (steps : Nat) : (next^[steps] block).length = block.length := by
  induction steps with
  | zero => rfl
  | succ steps ih => rw [Function.iterate_succ_apply', hnext, ih]

theorem Bytes.xor_append (data first rest : Bytes) :
    Bytes.xor data (first ++ rest)
      = Bytes.xor (data.take first.length) first
        ++ Bytes.xor (data.drop first.length) rest := by
  induction first generalizing data with
  | nil => simp [Bytes.xor]
  | cons byte first ih =>
      cases data with
      | nil => simp [Bytes.xor]
      | cons head data =>
          have htail := ih data
          simp only [Bytes.xor] at htail
          simp only [Bytes.xor, List.cons_append, List.zipWith_cons_cons, List.length_cons,
            List.take_succ_cons, List.drop_succ_cons, htail]

/-- How many pieces of a width cover a length. -/
def pieceCount (width length : Nat) : Nat := (length + (width - 1)) / width

theorem le_pieceCount_mul {width : Nat} (hwidth : 0 < width) (length : Nat) :
    length ≤ pieceCount width length * width := by
  rw [pieceCount, ← Nat.add_sub_assoc hwidth]
  exact le_blocks_mul hwidth length

theorem pieceCount_of_pos {width length : Nat} (hwidth : 0 < width) (hlength : 0 < length) :
    pieceCount width length = pieceCount width (length - width) + 1 := by
  unfold pieceCount
  by_cases hlong : width ≤ length
  · have hfull : length + (width - 1) = length - width + (width - 1) + width := by
      omega
    rw [hfull, Nat.add_div_right _ hwidth]
  · have hfull : length + (width - 1) = length - 1 + width := by
      omega
    rw [hfull, Nat.add_div_right _ hwidth, Nat.div_eq_of_lt (by omega),
      Nat.div_eq_of_lt (by omega)]

@[simp]
theorem counterMode_nil (cipher : BlockCipher) (next : Bytes → Bytes) (counter : Bytes) :
    counterMode cipher next counter [] = [] := by
  simp [counterMode, maskPieces]

section CounterMode

variable {cipher : BlockCipher} {next : Bytes → Bytes} (hcipher : cipher.Lawful)
  (hnext : ∀ counter, (next counter).length = counter.length)
include hcipher

theorem counterMode_of_ne_nil (counter : Bytes) {data : Bytes} (hne : data ≠ []) :
    counterMode cipher next counter data
      = Bytes.xor (data.take cipher.blockLength) (cipher.encrypt counter)
        ++ counterMode cipher next (next counter) (data.drop cipher.blockLength) := by
  rw [counterMode, Bytes.chunks_of_ne_nil hcipher.blockLength_pos hne, maskPieces,
    List.flatten_cons, counterMode]

include hnext

/-- Counter mode adds the encryptions of the blocks that are counted through. -/
theorem counterMode_eq_xor {counter : Bytes} (hcounter : counter.length = cipher.blockLength)
    (data : Bytes) :
    counterMode cipher next counter data
      = Bytes.xor data ((List.iterate next counter
          (pieceCount cipher.blockLength data.length)).flatMap cipher.encrypt) := by
  induction hlength : data.length using Nat.strongRecOn generalizing counter data with
  | ind length ih =>
      subst hlength
      by_cases hne : data = []
      · simp [hne, Bytes.xor]
      · have hpos := hcipher.blockLength_pos
        have hlong := List.length_pos_iff.mpr hne
        have hrest := ih (data.drop cipher.blockLength).length
          (by rw [List.length_drop]; omega) ((hnext counter).trans hcounter) _ rfl
        rw [counterMode_of_ne_nil hcipher counter hne, hrest, pieceCount_of_pos hpos hlong,
          List.iterate, List.flatMap_cons, Bytes.xor_append,
          hcipher.length_encrypt counter hcounter, List.length_drop]

variable {counter : Bytes} (hcounter : counter.length = cipher.blockLength)
include hcounter

theorem length_encrypt_iterate (index : Nat) :
    (cipher.encrypt (next^[index] counter)).length = cipher.blockLength :=
  hcipher.length_encrypt _ ((length_iterate hnext counter index).trans hcounter)

/-- A keystream is the bytes of the encryptions by their positions. -/
theorem flatMap_iterate_eq_map (count : Nat) :
    (List.iterate next counter count).flatMap cipher.encrypt
      = (List.range (count * cipher.blockLength)).map fun position =>
        (cipher.encrypt (next^[position / cipher.blockLength] counter)).getD
          (position % cipher.blockLength) 0 := by
  rw [← Bytes.flatMap_range_eq_map (length_encrypt_iterate hcipher hnext hcounter),
    ← List.range_map_iterate, List.flatMap_map]

theorem length_flatMap_iterate (count : Nat) :
    ((List.iterate next counter count).flatMap cipher.encrypt).length
      = count * cipher.blockLength := by
  rw [flatMap_iterate_eq_map hcipher hnext hcounter, List.length_map, List.length_range]

theorem length_counterMode (data : Bytes) :
    (counterMode cipher next counter data).length = data.length := by
  rw [counterMode_eq_xor hcipher hnext hcounter, Bytes.length_xor,
    length_flatMap_iterate hcipher hnext hcounter]
  exact Nat.min_eq_left (le_pieceCount_mul hcipher.blockLength_pos data.length)

/-- The masks of both passes are the same. -/
theorem counterMode_counterMode (data : Bytes) :
    counterMode cipher next counter (counterMode cipher next counter data) = data := by
  rw [counterMode_eq_xor hcipher hnext hcounter (counterMode cipher next counter data),
    length_counterMode hcipher hnext hcounter, counterMode_eq_xor hcipher hnext hcounter data]
  refine Bytes.xor_xor_cancel ?_
  rw [length_flatMap_iterate hcipher hnext hcounter]
  exact le_pieceCount_mul hcipher.blockLength_pos data.length

/-- A byte is masked by the byte at its place of the encryption of the counter block at its
block. -/
theorem getElem?_counterMode (data : Bytes) (position : Nat) :
    (counterMode cipher next counter data)[position]?
      = Option.map₂ (· ^^^ ·) data[position]?
        (cipher.encrypt (next^[position / cipher.blockLength] counter))[
          position % cipher.blockLength]? := by
  rw [counterMode_eq_xor hcipher hnext hcounter, Bytes.xor, List.getElem?_zipWith,
    flatMap_iterate_eq_map hcipher hnext hcounter]
  by_cases hposition : position < data.length
  · have hcovered := hposition.trans_le (le_pieceCount_mul hcipher.blockLength_pos data.length)
    have hplace : position % cipher.blockLength
        < (cipher.encrypt (next^[position / cipher.blockLength] counter)).length := by
      rw [length_encrypt_iterate hcipher hnext hcounter]
      exact Nat.mod_lt position hcipher.blockLength_pos
    rw [List.getElem?_eq_getElem hposition, List.getElem?_map, List.getElem?_range hcovered,
      Option.map_some, List.getD_eq_getElem?_getD, List.getElem?_eq_getElem hplace,
      Option.getD_some]
    rfl
  · rw [List.getElem?_eq_none (Nat.not_lt.mp hposition)]
    rfl

/-- The beginning of the data is masked as if there were nothing behind it. -/
theorem counterMode_take (data : Bytes) (count : Nat) :
    counterMode cipher next counter (data.take count)
      = (counterMode cipher next counter data).take count := by
  refine List.ext_getElem? fun position => ?_
  rw [getElem?_counterMode hcipher hnext hcounter, List.getElem?_take, List.getElem?_take,
    getElem?_counterMode hcipher hnext hcounter]
  split
  · rfl
  · rfl

end CounterMode

end RecordProtection
