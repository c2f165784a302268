import Mathlib.Algebra.CharP.Two
import Mathlib.Algebra.Field.ZMod
import Mathlib.Algebra.Polynomial.BigOperators
import Mathlib.Data.Nat.Size

/-!
# Numbers as polynomials

The bits of a number are the coefficients of a polynomial over the field of two elements.  The
exclusive or of numbers is the sum of their polynomials, a shift by one place is a product with
`X`, and numbers below `2 ^ bits` are the polynomials of degree below `bits`.
-/

namespace RecordProtection

open Polynomial

/-- The polynomial whose coefficients are the bits of a number. -/
noncomputable def bitPolynomial (value : Nat) : (ZMod 2)[X] :=
  ∑ i ∈ Finset.range value.size, if value.testBit i then X ^ i else 0

theorem coeff_bitPolynomial (value i : Nat) :
    (bitPolynomial value).coeff i = if value.testBit i then 1 else 0 := by
  have hterm (j : Nat) : (if value.testBit j then X ^ j else (0 : (ZMod 2)[X])).coeff i
      = if i = j then if value.testBit i then 1 else 0 else 0 := by
    by_cases hij : i = j
    · subst hij
      split <;> simp
    · split <;> simp [coeff_X_pow, hij]
  simp only [bitPolynomial, finsetSum_coeff, hterm, Finset.sum_ite_eq, Finset.mem_range]
  split
  · rfl
  · rename_i hlong
    have hvalue : value < 2 ^ i := Nat.size_le.mp (Nat.not_lt.mp hlong)
    rw [Nat.testBit_lt_two_pow hvalue]
    rfl

@[simp]
theorem bitPolynomial_zero : bitPolynomial 0 = 0 := by
  ext i
  rw [coeff_bitPolynomial, Nat.zero_testBit]
  rfl

theorem bitPolynomial_two_pow (exponent : Nat) : bitPolynomial (2 ^ exponent) = X ^ exponent := by
  ext i
  rw [coeff_bitPolynomial, Nat.testBit_two_pow, coeff_X_pow]
  exact if_congr (by rw [decide_eq_true_eq, eq_comm]) rfl rfl

@[simp]
theorem bitPolynomial_one : bitPolynomial 1 = 1 := bitPolynomial_two_pow 0

@[simp]
theorem bitPolynomial_two : bitPolynomial 2 = X := by
  simpa using bitPolynomial_two_pow 1

theorem bitPolynomial_xor (x y : Nat) :
    bitPolynomial (x ^^^ y) = bitPolynomial x + bitPolynomial y := by
  ext i
  rw [coeff_add, coeff_bitPolynomial, coeff_bitPolynomial, coeff_bitPolynomial, Nat.testBit_xor]
  cases x.testBit i <;> cases y.testBit i <;> decide

theorem bitPolynomial_injective : Function.Injective bitPolynomial := by
  intro x y h
  apply Nat.eq_of_testBit_eq
  intro i
  have hcoeff := congrArg (fun p : (ZMod 2)[X] => p.coeff i) h
  simp only [coeff_bitPolynomial] at hcoeff
  cases hx : x.testBit i <;> cases hy : y.testBit i <;> simp_all

theorem degree_bitPolynomial_lt {value bits : Nat} (hvalue : value < 2 ^ bits) :
    (bitPolynomial value).degree < bits := by
  apply (degree_lt_iff_coeff_zero _ _).mpr
  intro i hi
  have hlong : value < 2 ^ i := hvalue.trans_le (Nat.pow_le_pow_right (by decide) hi)
  rw [coeff_bitPolynomial, Nat.testBit_lt_two_pow hlong]
  rfl

/-! ### Shifts -/

/-- The lowest bit and the bits above it. -/
theorem bitPolynomial_eq_low_add (value : Nat) :
    bitPolynomial value = (if value % 2 = 1 then 1 else 0) + X * bitPolynomial (value / 2) := by
  ext i
  cases i with
  | zero =>
      rw [coeff_bitPolynomial, coeff_add, mul_coeff_zero, coeff_X_zero, zero_mul, add_zero,
        Nat.testBit_zero]
      split <;> simp_all
  | succ i =>
      have hlow : (if value % 2 = 1 then 1 else (0 : (ZMod 2)[X])).coeff (i + 1) = 0 := by
        split <;> simp [coeff_one]
      rw [coeff_add, hlow, zero_add, coeff_X_mul, coeff_bitPolynomial, coeff_bitPolynomial,
        Nat.testBit_succ]

/-- A shift in a fixed number of bits is a product with `X` less the bit that goes out. -/
theorem bitPolynomial_shiftLeft_mod {value bits : Nat} (hbits : 0 < bits)
    (hvalue : value < 2 ^ bits) :
    bitPolynomial ((value <<< 1) % (1 <<< bits))
        + (if value.testBit (bits - 1) then X ^ bits else 0)
      = X * bitPolynomial value := by
  have hcarry (i : Nat) : (if value.testBit (bits - 1) then X ^ bits else (0 : (ZMod 2)[X])).coeff i
      = if value.testBit (bits - 1) ∧ i = bits then 1 else 0 := by
    split <;> simp_all [coeff_X_pow]
  ext i
  rw [coeff_add, hcarry, Nat.one_shiftLeft, coeff_bitPolynomial, Nat.testBit_mod_two_pow,
    Nat.testBit_shiftLeft]
  cases i with
  | zero =>
      have hne : 0 ≠ bits := hbits.ne
      simp [hne]
  | succ i =>
      rw [coeff_X_mul, coeff_bitPolynomial, Nat.add_sub_cancel]
      rcases Nat.lt_trichotomy (i + 1) bits with hlow | hlast | hhigh
      · simp [hlow, hlow.ne]
      · subst hlast
        simp
      · have hout : value.testBit i = false :=
          Nat.testBit_lt_two_pow (hvalue.trans_le (Nat.pow_le_pow_right (by decide) (by omega)))
        simp [hhigh.ne', hhigh.not_gt, hout]

end RecordProtection
