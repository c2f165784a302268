import RecordProtection.Block.Des
import RecordProtection.Proofs.Block.Feistel

/-!
# DES and its threefold use

A selection of bits reads, at each place, the bit at one position.  The final selection undoes the
initial one and the other way round, so DES is a Feistel network between a permutation and its
inverse.
-/

namespace RecordProtection

namespace Des

/-! ### Selections of bits -/

/-- The selected bit enters at the low end. -/
theorem testBit_shift_in (value bits : UInt64) {position : Nat} (hpos : 1 ≤ position)
    (hle : position ≤ 64) {i : Nat} (hi : i < 64) :
    (bits <<< 1 ||| (value >>> (64 - UInt64.ofNat position)) &&& 1).toNat.testBit i
      = if i = 0 then value.toNat.testBit (64 - position) else bits.toNat.testBit (i - 1) := by
  have hshift : (64 - UInt64.ofNat position).toNat % 64 = 64 - position := by
    rw [UInt64.toNat_sub, UInt64.toNat_ofNat']
    simp
    omega
  simp only [UInt64.toNat_or, UInt64.toNat_and, UInt64.toNat_shiftLeft, UInt64.toNat_shiftRight,
    hshift, UInt64.reduceToNat, Nat.reduceMod, Nat.testBit_or, Nat.testBit_and,
    Nat.testBit_mod_two_pow, hi, Nat.testBit_shiftLeft, Nat.testBit_shiftRight]
  by_cases hzero : i = 0
  · subst hzero
    simp
  · have hone : Nat.testBit 1 i = false := by
      rw [Bool.eq_false_iff]
      exact fun h => hzero (Nat.testBit_one_eq_true_iff_self_eq_zero.mp h)
    have hpositive : 1 ≤ i := Nat.one_le_iff_ne_zero.mpr hzero
    simp [hzero, hone, hpositive]

/-- Positions count from the most significant bit, and the last one selected is the lowest. -/
theorem testBit_selectFrom {positions : List Nat} (hpositions : ∀ p ∈ positions, 1 ≤ p ∧ p ≤ 64)
    (value bits : UInt64) {i : Nat} (hi : i < 64) :
    (selectFrom 64 positions value bits).toNat.testBit i
      = if i < positions.length then
          value.toNat.testBit (64 - positions.getD (positions.length - 1 - i) 0)
        else bits.toNat.testBit (i - positions.length) := by
  induction positions generalizing bits with
  | nil => simp [selectFrom]
  | cons position rest ih =>
      obtain ⟨hpos, hle⟩ := hpositions position (by simp)
      rw [selectFrom, ih (fun p hp => hpositions p (by simp [hp])), List.length_cons]
      by_cases hrest : i < rest.length
      · have hindex : rest.length + 1 - 1 - i = rest.length - 1 - i + 1 := by omega
        rw [if_pos hrest, if_pos (by omega), hindex, List.getD_cons_succ]
      · rw [if_neg hrest, testBit_shift_in value bits hpos hle (by omega)]
        by_cases hlast : i = rest.length
        · subst hlast
          rw [if_pos (by omega), if_pos (by omega)]
          simp
        · rw [if_neg (by omega), if_neg (by omega), Nat.sub_sub]

/-- Two selections undo each other if each position is found where the other puts it. -/
theorem select_select {first second : List Nat}
    (hfirst : first.length = 64 ∧ ∀ p ∈ first, 1 ≤ p ∧ p ≤ 64)
    (hsecond : second.length = 64 ∧ ∀ p ∈ second, 1 ≤ p ∧ p ≤ 64)
    (hinverse : ∀ i < 64, first.getD (second.getD i 0 - 1) 0 = i + 1) (value : UInt64) :
    select 64 second (select 64 first value) = value := by
  apply UInt64.toNat_inj.mp
  apply Nat.eq_of_testBit_eq
  intro i
  by_cases hi : i < 64
  · have hposition : 1 ≤ second.getD (64 - 1 - i) 0 ∧ second.getD (64 - 1 - i) 0 ≤ 64 := by
      refine hsecond.2 _ ?_
      rw [List.getD_eq_getElem?_getD, List.getElem?_eq_getElem (by omega), Option.getD_some]
      exact List.getElem_mem _
    have hindex : 64 - 1 - (64 - second.getD (64 - 1 - i) 0) = second.getD (64 - 1 - i) 0 - 1 := by
      omega
    rw [select, testBit_selectFrom hsecond.2 _ _ hi, hsecond.1, if_pos hi, select,
      testBit_selectFrom hfirst.2 _ _ (by omega), hfirst.1, if_pos (by omega), hindex,
      hinverse (64 - 1 - i) (by omega)]
    congr 1
    omega
  · have hbound (w : UInt64) : w.toNat.testBit i = false :=
      Nat.testBit_lt_two_pow (Nat.lt_of_lt_of_le w.toNat_lt
        (Nat.pow_le_pow_right (by decide) (Nat.not_lt.mp hi)))
    rw [hbound, hbound]

theorem initialPositions_valid :
    initialPositions.length = 64 ∧ ∀ p ∈ initialPositions, 1 ≤ p ∧ p ≤ 64 := by
  decide

theorem finalPositions_valid :
    finalPositions.length = 64 ∧ ∀ p ∈ finalPositions, 1 ≤ p ∧ p ≤ 64 := by
  decide

theorem select_final_initial (value : UInt64) :
    select 64 finalPositions (select 64 initialPositions value) = value :=
  select_select initialPositions_valid finalPositions_valid (by decide) value

theorem select_initial_final (value : UInt64) :
    select 64 initialPositions (select 64 finalPositions value) = value :=
  select_select finalPositions_valid initialPositions_valid (by decide) value

/-! ### The network between the selections -/

theorem crypt_bytes64 (keys : List UInt64) {value : UInt64} {left right : UInt32}
    (hstart : select 64 initialPositions value = word64 left right) :
    crypt keys (bytes64 value)
      = bytes64 (select 64 finalPositions (word64 (feistel roundFunction keys (left, right)).2
          (feistel roundFunction keys (left, right)).1)) := by
  simp [crypt, hstart]

theorem length_crypt (keys : List UInt64) (block : Bytes) : (crypt keys block).length = 8 := by
  simp [crypt]

theorem crypt_reverse_crypt (keys : List UInt64) {block : Bytes} (hblock : block.length = 8) :
    crypt keys.reverse (crypt keys block) = block := by
  obtain ⟨value, rfl⟩ := exists_eq_bytes64 hblock
  have hstart := (word64_halves (select 64 initialPositions value)).symm
  have hreverse := feistel_reverse roundFunction xor32_xor32_cancel keys
    (select 64 initialPositions value >>> 32).toUInt32
    (select 64 initialPositions value).toUInt32
  rw [crypt_bytes64 keys hstart, crypt_bytes64 keys.reverse (select_initial_final _), hreverse,
    word64_halves, select_final_initial]

/-- The same keys from back to front undo the network in either order. -/
theorem crypt_crypt_reverse (keys : List UInt64) {block : Bytes} (hblock : block.length = 8) :
    crypt keys (crypt keys.reverse block) = block := by
  simpa using crypt_reverse_crypt keys.reverse hblock

end Des

theorem des_lawful (key : Bytes) : (des key).Lawful where
  blockLength_pos := show 0 < 8 by decide
  blockLength_le := show 8 ≤ 16 by decide
  length_encrypt block _ := Des.length_crypt (Des.roundKeys key) block
  length_decrypt block _ := Des.length_crypt (Des.roundKeys key).reverse block
  decrypt_encrypt _ hblock := Des.crypt_reverse_crypt (Des.roundKeys key) hblock

/-- The three keyed permutations are undone from the last to the first. -/
theorem tripleDes_lawful (key : Bytes) : (tripleDes key).Lawful where
  blockLength_pos := show 0 < 8 by decide
  blockLength_le := show 8 ≤ 16 by decide
  length_encrypt block _ := Des.length_crypt (Des.roundKeys (key.drop 16)) _
  length_decrypt block _ := Des.length_crypt (Des.roundKeys (key.take 8)).reverse _
  decrypt_encrypt block hblock := by
    simp only [tripleDes, des]
    rw [Des.crypt_reverse_crypt _ (Des.length_crypt _ _), Des.crypt_crypt_reverse _
      (Des.length_crypt _ _), Des.crypt_reverse_crypt _ hblock]

end RecordProtection
