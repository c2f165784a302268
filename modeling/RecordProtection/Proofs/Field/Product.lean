import Mathlib.RingTheory.AdjoinRoot
import RecordProtection.Aead.Multilinear
import RecordProtection.Proofs.Field.Polynomial

/-!
# Products modulo a polynomial

The multilinear mode multiplies blocks by shifting and adding.  A shift is a product with `X`, where
the bit that goes out comes back as the lower coefficients of the field polynomial, so the numbers
stand for residue classes modulo that polynomial.  The loop keeps the sum of what it has added up
and the product that is still to come, and the end of it is the product of the classes.
-/

namespace RecordProtection

open Polynomial

namespace Multilinear

/-- The polynomial that products of numbers with that many bits are reduced by. -/
noncomputable def fieldModulus (bits : Nat) : (ZMod 2)[X] :=
  X ^ bits + bitPolynomial (fieldPolynomial bits)

/-- The residue class that a number stands for. -/
noncomputable def residue (bits value : Nat) : AdjoinRoot (fieldModulus bits) :=
  AdjoinRoot.mk (fieldModulus bits) (bitPolynomial value)

/-! ### Residue classes -/

section Residue

variable {bits : Nat}

theorem residue_zero : residue bits 0 = 0 := by
  rw [residue, bitPolynomial_zero, map_zero]

theorem residue_one : residue bits 1 = 1 := by
  rw [residue, bitPolynomial_one, map_one]

theorem residue_two : residue bits 2 = AdjoinRoot.root (fieldModulus bits) := by
  rw [residue, bitPolynomial_two, AdjoinRoot.mk_X]

theorem residue_xor (x y : Nat) : residue bits (x ^^^ y) = residue bits x + residue bits y := by
  rw [residue, bitPolynomial_xor, map_add, residue, residue]

theorem residue_eq_low_add (value : Nat) :
    residue bits value
      = (if value % 2 = 1 then 1 else 0)
        + AdjoinRoot.root (fieldModulus bits) * residue bits (value / 2) := by
  rw [residue, bitPolynomial_eq_low_add, map_add, map_mul, AdjoinRoot.mk_X,
    apply_ite (AdjoinRoot.mk (fieldModulus bits)), map_one, map_zero, residue]

variable (hbits : 8 ≤ bits)
include hbits

theorem fieldPolynomial_lt : fieldPolynomial bits < 2 ^ bits := by
  have hbyte : fieldPolynomial bits < 2 ^ 8 := by
    unfold fieldPolynomial
    split <;> decide
  exact hbyte.trans_le (Nat.pow_le_pow_right (by decide) hbits)

theorem monic_fieldModulus : (fieldModulus bits).Monic :=
  monic_X_pow_add (degree_bitPolynomial_lt (fieldPolynomial_lt hbits))

theorem degree_fieldModulus : (fieldModulus bits).degree = bits := by
  have hlow := degree_bitPolynomial_lt (fieldPolynomial_lt hbits)
  rw [fieldModulus, degree_add_eq_left_of_degree_lt (by rwa [degree_X_pow]), degree_X_pow]

/-- Numbers that fit are told apart by their classes. -/
theorem residue_injective {x y : Nat} (hx : x < 2 ^ bits) (hy : y < 2 ^ bits)
    (h : residue bits x = residue bits y) : x = y := by
  apply bitPolynomial_injective
  apply sub_eq_zero.mp
  apply eq_zero_of_dvd_of_degree_lt (AdjoinRoot.mk_eq_mk.mp h)
  rw [degree_fieldModulus hbits]
  exact (degree_sub_le _ _).trans_lt
    (max_lt (degree_bitPolynomial_lt hx) (degree_bitPolynomial_lt hy))

/-! ### One step -/

theorem doubleElement_lt (x : Nat) : doubleElement bits x < 2 ^ bits := by
  unfold doubleElement
  refine Nat.xor_lt_two_pow ?_ ?_
  · rw [Nat.one_shiftLeft]
    exact Nat.mod_lt _ (Nat.two_pow_pos bits)
  · split
    · exact fieldPolynomial_lt hbits
    · exact Nat.two_pow_pos bits

/-- The bit that goes out and the coefficients that come in are together the modulus. -/
theorem residue_doubleElement {x : Nat} (hx : x < 2 ^ bits) :
    residue bits (doubleElement bits x) = AdjoinRoot.root (fieldModulus bits) * residue bits x := by
  have hshift := bitPolynomial_shiftLeft_mod (show 0 < bits by omega) hx
  rw [← AdjoinRoot.mk_X, residue, residue, ← map_mul, ← hshift, AdjoinRoot.mk_eq_mk, doubleElement,
    bitPolynomial_xor]
  split
  · refine dvd_of_eq ?_
    rw [add_sub_add_left_eq_sub, CharTwo.sub_eq_add, add_comm, fieldModulus]
  · rw [bitPolynomial_zero, sub_self]
    exact dvd_zero _

/-! ### All steps -/

theorem sumMultiples_lt {steps x y sum : Nat} (hx : x < 2 ^ bits) (hsum : sum < 2 ^ bits) :
    sumMultiples bits steps x y sum < 2 ^ bits := by
  induction steps generalizing x y sum with
  | zero => exact hsum
  | succ steps ih =>
      refine ih (doubleElement_lt hbits x) ?_
      split
      · exact Nat.xor_lt_two_pow hsum hx
      · exact hsum

/-- What has been added up, and the product of what is left of both factors, do not change
together. -/
theorem residue_sumMultiples {steps x y sum : Nat} (hx : x < 2 ^ bits) (hy : y < 2 ^ steps) :
    residue bits (sumMultiples bits steps x y sum)
      = residue bits sum + residue bits x * residue bits y := by
  induction steps generalizing x y sum with
  | zero =>
      obtain rfl : y = 0 := Nat.lt_one_iff.mp hy
      rw [residue_zero, mul_zero, add_zero]
      rfl
  | succ steps ih =>
      have hrest : y / 2 < 2 ^ steps := Nat.div_lt_of_lt_mul (by rwa [← Nat.pow_succ'])
      rw [sumMultiples, ih (doubleElement_lt hbits x) hrest, residue_doubleElement hbits hx,
        residue_eq_low_add y]
      split
      · rw [residue_xor]
        ring
      · ring

theorem multiply_lt {x : Nat} (hx : x < 2 ^ bits) (y : Nat) : multiply x y bits < 2 ^ bits :=
  sumMultiples_lt hbits hx (Nat.two_pow_pos bits)

section Factors

variable {x y : Nat} (hx : x < 2 ^ bits) (hy : y < 2 ^ bits)
include hx hy

theorem residue_multiply : residue bits (multiply x y bits) = residue bits x * residue bits y := by
  rw [multiply, residue_sumMultiples hbits hx hy, residue_zero, zero_add]

/-- The loop computes the product of the polynomials, reduced by the modulus. -/
theorem bitPolynomial_multiply :
    bitPolynomial (multiply x y bits)
      = bitPolynomial x * bitPolynomial y %ₘ fieldModulus bits := by
  have hmonic := monic_fieldModulus hbits
  have hreduced : bitPolynomial (multiply x y bits) %ₘ fieldModulus bits
      = bitPolynomial (multiply x y bits) := by
    apply (modByMonic_eq_self_iff hmonic).mpr
    rw [degree_fieldModulus hbits]
    exact degree_bitPolynomial_lt (multiply_lt hbits hx y)
  have hsame := residue_multiply hbits hx hy
  rw [residue, residue, residue, ← map_mul, AdjoinRoot.mk_eq_mk] at hsame
  rw [← hreduced]
  exact modByMonic_eq_of_dvd_sub hmonic hsame

end Factors

end Residue

end Multilinear

end RecordProtection
