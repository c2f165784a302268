import RecordProtection.Aead.Multilinear

/-!
# Multiplication by masks

The product is computed in words of 128 bits for blocks of either length, and without a branch: a
bit that selects a word is spread over a mask of the whole word.  The masks select what the
conditions on the bits select, and the shift loses its carry at the width of the block.
-/

namespace RecordProtection

namespace Multilinear

/-- A word with all bits equal to one bit of another word. -/
def bitMask (word : BitVec 128) (position : Nat) : BitVec 128 := -(word >>> position &&& 1)

/-- The lower coefficients of the field polynomial and the bits of a block, in a word. -/
def wordConstants (bits : Nat) : BitVec 128 × BitVec 128 :=
  if bits = 128 then (0x87, BitVec.allOnes 128) else (0x1b, 0xffffffffffffffff)

def maskedDouble (bits : Nat) (x : BitVec 128) : BitVec 128 :=
  (x <<< 1 &&& (wordConstants bits).2) ^^^ ((wordConstants bits).1 &&& bitMask x (bits - 1))

def maskedSum (bits : Nat) : (positions : List Nat) → (x y sum : BitVec 128) → BitVec 128
  | [], _, _, sum => sum
  | i :: rest, x, y, sum =>
      maskedSum bits rest (maskedDouble bits x) y (sum ^^^ (x &&& bitMask y i))

def maskedMultiply (x y : BitVec 128) (bits : Nat) : BitVec 128 :=
  maskedSum bits (List.range bits) x y 0

theorem and_bitMask (selected word : BitVec 128) (position : Nat) :
    selected &&& bitMask word position = if word.getLsbD position then selected else 0 := by
  have hbit : word >>> position &&& 1 = if word.getLsbD position then 1 else 0 := by
    apply BitVec.eq_of_getLsbD_eq
    intro i _
    cases i with
    | zero => cases hset : word.getLsbD position <;> simp [hset]
    | succ i => cases word.getLsbD position <;> simp
  rw [bitMask, hbit]
  cases word.getLsbD position with
  | true => exact BitVec.and_allOnes
  | false => exact BitVec.and_zero

theorem toNat_maskedDouble {bits : Nat} (hbits : bits = 64 ∨ bits = 128) (x : BitVec 128) :
    (maskedDouble bits x).toNat = doubleElement bits x.toNat := by
  have hcarry : x.getLsbD (bits - 1) = x.toNat.testBit (bits - 1) := rfl
  rw [maskedDouble, and_bitMask, hcarry, doubleElement, BitVec.toNat_xor, BitVec.toNat_and,
    BitVec.toNat_shiftLeft]
  congr 1
  · rcases hbits with rfl | rfl
    · have hmask : (wordConstants 64).2.toNat = 2 ^ 64 - 1 := rfl
      rw [hmask, Nat.and_two_pow_sub_one_eq_mod]
      exact Nat.mod_mod_of_dvd _ (by decide)
    · have hmask : (wordConstants 128).2.toNat = 2 ^ 128 - 1 := rfl
      rw [hmask, Nat.and_two_pow_sub_one_eq_mod, Nat.mod_mod]
      rfl
  · rcases hbits with rfl | rfl <;> split <;> rfl

theorem toNat_maskedSum {bits : Nat} (hbits : bits = 64 ∨ bits = 128) (steps first : Nat)
    (x y sum : BitVec 128) :
    (maskedSum bits (List.range' first steps) x y sum).toNat
      = sumMultiples bits steps x.toNat (y.toNat >>> first) sum.toNat := by
  induction steps generalizing first x sum with
  | zero => rfl
  | succ steps ih =>
      have hselected : (sum ^^^ (x &&& bitMask y first)).toNat
          = if y.toNat >>> first % 2 = 1 then sum.toNat ^^^ x.toNat else sum.toNat := by
        have hbit : y.getLsbD first = decide (y.toNat >>> first % 2 = 1) := by
          rw [BitVec.getLsbD, Nat.testBit_eq_decide_div_mod_eq, Nat.shiftRight_eq_div_pow]
        rw [and_bitMask, hbit]
        by_cases hset : y.toNat >>> first % 2 = 1 <;> simp [hset]
      rw [List.range'_succ, maskedSum, ih, toNat_maskedDouble hbits, hselected, sumMultiples,
        Nat.shiftRight_succ]

theorem toNat_maskedMultiply {bits : Nat} (hbits : bits = 64 ∨ bits = 128) (x y : BitVec 128) :
    (maskedMultiply x y bits).toNat = multiply x.toNat y.toNat bits := by
  have hsum := toNat_maskedSum hbits bits 0 x y 0
  rwa [Nat.shiftRight_zero, ← List.range_eq_range'] at hsum

end Multilinear

end RecordProtection
