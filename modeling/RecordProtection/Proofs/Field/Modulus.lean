import Mathlib.FieldTheory.Finite.Extension
import RecordProtection.Proofs.Field.Product

/-!
# The moduli of the field are irreducible

An irreducible factor of degree `d` divides `X ^ (2 ^ n) - X` exactly if `d` divides `n`.  So a
polynomial whose degree is a power of two is irreducible if it divides `X ^ (2 ^ n) - X` for its
degree, and has no factor in common with the same polynomial for half of its degree.  The repeated
squares of `X` that this asks for are computed by the multiplication itself.
-/

namespace RecordProtection

open Polynomial

/-- The test of irreducibility for degrees that are powers of two. -/
theorem irreducible_of_frobenius {modulus : (ZMod 2)[X]} {degree half k : Nat}
    (hhalf : half = 2 ^ k) (hdouble : degree = 2 ^ (k + 1)) (hdegree : modulus.natDegree = degree)
    (hfixed : modulus ∣ X ^ 2 ^ degree - X) (hcoprime : IsCoprime modulus (X ^ 2 ^ half - X)) :
    Irreducible modulus := by
  have hpositive : 0 < modulus.natDegree := by
    rw [hdegree, hdouble]
    exact Nat.two_pow_pos (k + 1)
  obtain ⟨factor, hfactor, hdvd⟩ := exists_irreducible_of_natDegree_pos hpositive
  have hdivides (n : Nat) : factor.natDegree ∣ n ↔ factor ∣ X ^ 2 ^ n - X := by
    rw [hfactor.natDegree_dvd_iff_dvd_X_pow_card_pow_sub_X, Nat.card_zmod]
  have hfactorDvd : factor.natDegree ∣ 2 ^ (k + 1) :=
    hdouble ▸ (hdivides degree).mpr (hdvd.trans hfixed)
  obtain ⟨exponent, hexponent, hfactorDegree⟩ := (Nat.dvd_prime_pow Nat.prime_two).mp hfactorDvd
  rcases Nat.lt_or_eq_of_le hexponent with hlt | rfl
  · -- a factor of a smaller degree would be common with the polynomial for half of the degree
    have hsmall : factor.natDegree ∣ half := by
      rw [hhalf, hfactorDegree]
      exact Nat.pow_dvd_pow 2 (Nat.le_of_lt_succ hlt)
    exact absurd (hcoprime.isUnit_of_dvd' hdvd ((hdivides half).mp hsmall)) hfactor.not_isUnit
  · have hne : modulus ≠ 0 := ne_zero_of_natDegree_gt hpositive
    have hsame : modulus.natDegree ≤ factor.natDegree := by
      rw [hdegree, hdouble, hfactorDegree]
    exact (associated_of_dvd_of_natDegree_le hdvd hne hsame).irreducible hfactor

namespace Multilinear

/-! ### Repeated squares -/

/-- A number squared as often as is asked for. -/
def repeatedSquare (bits count value : Nat) : Nat :=
  (fun x => multiply x x bits)^[count] value

section Squares

variable {bits : Nat} (hbits : 8 ≤ bits)
include hbits

theorem repeatedSquare_lt {value : Nat} (hvalue : value < 2 ^ bits) (count : Nat) :
    repeatedSquare bits count value < 2 ^ bits := by
  induction count with
  | zero => exact hvalue
  | succ count ih =>
      rw [repeatedSquare, Function.iterate_succ_apply']
      exact multiply_lt hbits ih _

theorem residue_repeatedSquare {value : Nat} (hvalue : value < 2 ^ bits) (count : Nat) :
    residue bits (repeatedSquare bits count value) = residue bits value ^ 2 ^ count := by
  induction count with
  | zero =>
      rw [Nat.pow_zero, pow_one]
      rfl
  | succ count ih =>
      have hlt := repeatedSquare_lt hbits hvalue count
      calc residue bits (repeatedSquare bits (count + 1) value)
        _ = residue bits (multiply (repeatedSquare bits count value)
              (repeatedSquare bits count value) bits) := by
            rw [repeatedSquare, Function.iterate_succ_apply']
            rfl
        _ = residue bits (repeatedSquare bits count value)
              * residue bits (repeatedSquare bits count value) := residue_multiply hbits hlt hlt
        _ = residue bits value ^ 2 ^ (count + 1) := by rw [ih, ← pow_add, Nat.pow_succ, Nat.mul_two]

theorem two_lt_two_pow : 2 < 2 ^ bits :=
  Nat.lt_of_lt_of_le (by decide : 2 < 2 ^ 8) (Nat.pow_le_pow_right (by decide) hbits)

theorem mk_X_pow_sub_X (count : Nat) :
    AdjoinRoot.mk (fieldModulus bits) (X ^ 2 ^ count - X)
      = residue bits (repeatedSquare bits count 2 ^^^ 2) := by
  have hroot : AdjoinRoot.mk (fieldModulus bits) X = residue bits 2 := by
    rw [AdjoinRoot.mk_X, residue_two]
  rw [CharTwo.sub_eq_add, map_add, map_pow, hroot, residue_xor,
    residue_repeatedSquare hbits (two_lt_two_pow hbits)]

theorem dvd_X_pow_sub_X {count : Nat} (hfixed : repeatedSquare bits count 2 = 2) :
    fieldModulus bits ∣ X ^ 2 ^ count - X := by
  rw [← AdjoinRoot.mk_eq_zero, mk_X_pow_sub_X hbits, hfixed, Nat.xor_self, residue_zero]

theorem isCoprime_X_pow_sub_X {count inverse : Nat} (hinverse : inverse < 2 ^ bits)
    (hone : multiply inverse (repeatedSquare bits count 2 ^^^ 2) bits = 1) :
    IsCoprime (fieldModulus bits) (X ^ 2 ^ count - X) := by
  have htwo := two_lt_two_pow hbits
  have hsum : repeatedSquare bits count 2 ^^^ 2 < 2 ^ bits :=
    Nat.xor_lt_two_pow (repeatedSquare_lt hbits htwo count) htwo
  have hproduct : AdjoinRoot.mk (fieldModulus bits)
      (bitPolynomial inverse * (X ^ 2 ^ count - X)) = AdjoinRoot.mk (fieldModulus bits) 1 := by
    rw [map_mul, mk_X_pow_sub_X hbits, map_one, ← residue_one, ← hone,
      residue_multiply hbits hinverse hsum]
    rfl
  obtain ⟨quotient, hquotient⟩ := AdjoinRoot.mk_eq_mk.mp hproduct
  refine ⟨-quotient, bitPolynomial inverse, ?_⟩
  linear_combination hquotient

theorem natDegree_fieldModulus : (fieldModulus bits).natDegree = bits :=
  natDegree_eq_of_degree_eq_some (degree_fieldModulus hbits)

end Squares

/-! ### The two widths -/

theorem repeatedSquare_64 : repeatedSquare 64 64 2 = 2 := by decide +kernel

theorem repeatedSquare_128 : repeatedSquare 128 128 2 = 2 := by decide +kernel

theorem multiply_inverse_64 :
    multiply 6037868468195985863 (repeatedSquare 64 32 2 ^^^ 2) 64 = 1 := by decide +kernel

theorem multiply_inverse_128 :
    multiply 210407306859290181404817842025723703320 (repeatedSquare 128 64 2 ^^^ 2) 128 = 1 := by
  decide +kernel

theorem irreducible_fieldModulus_64 : Irreducible (fieldModulus 64) := by
  have hbits : 8 ≤ 64 := by decide
  have hhalf : 32 = 2 ^ 5 := by decide
  have hdouble : 64 = 2 ^ (5 + 1) := by decide
  exact irreducible_of_frobenius hhalf hdouble (natDegree_fieldModulus hbits)
    (dvd_X_pow_sub_X hbits repeatedSquare_64)
    (isCoprime_X_pow_sub_X hbits (by decide) multiply_inverse_64)

theorem irreducible_fieldModulus_128 : Irreducible (fieldModulus 128) := by
  have hbits : 8 ≤ 128 := by decide
  have hhalf : 64 = 2 ^ 6 := by decide
  have hdouble : 128 = 2 ^ (6 + 1) := by decide
  exact irreducible_of_frobenius hhalf hdouble (natDegree_fieldModulus hbits)
    (dvd_X_pow_sub_X hbits repeatedSquare_128)
    (isCoprime_X_pow_sub_X hbits (by decide) multiply_inverse_128)

end Multilinear

end RecordProtection
