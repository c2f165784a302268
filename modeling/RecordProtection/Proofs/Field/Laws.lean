import RecordProtection.Proofs.Field.Masked
import RecordProtection.Proofs.Field.Modulus

/-!
# Blocks multiply like the elements of a field

A number below `2 ^ bits` stands for exactly one residue class modulo an irreducible polynomial, so
the laws of the field of these classes are laws of the numbers: the product takes the place of
multiplication and the exclusive or that of addition.
-/

namespace RecordProtection

open Polynomial

namespace Multilinear

/-- Under the exclusive or as their sum, the numbers with that many bits are a field. -/
structure FieldLaws (bits : Nat) : Prop where
  multiply_lt : ∀ x y, x < 2 ^ bits → y < 2 ^ bits → multiply x y bits < 2 ^ bits
  multiply_comm : ∀ x y, x < 2 ^ bits → y < 2 ^ bits → multiply x y bits = multiply y x bits
  multiply_assoc : ∀ x y z, x < 2 ^ bits → y < 2 ^ bits → z < 2 ^ bits →
    multiply (multiply x y bits) z bits = multiply x (multiply y z bits) bits
  multiply_xor : ∀ x y z, x < 2 ^ bits → y < 2 ^ bits → z < 2 ^ bits →
    multiply x (y ^^^ z) bits = multiply x y bits ^^^ multiply x z bits
  multiply_one : ∀ x, x < 2 ^ bits → multiply x 1 bits = x
  exists_inverse : ∀ x, x < 2 ^ bits → x ≠ 0 → ∃ y < 2 ^ bits, multiply x y bits = 1

section Laws

variable {bits : Nat} (hbits : 8 ≤ bits)
include hbits

/-- Multiplication by a number other than zero is injective, so it takes some number to one. -/
theorem exists_multiply_eq_one (hirreducible : Irreducible (fieldModulus bits)) {x : Nat}
    (hx : x < 2 ^ bits) (hne : x ≠ 0) : ∃ y < 2 ^ bits, multiply x y bits = 1 := by
  have : IsDomain (AdjoinRoot (fieldModulus bits)) :=
    AdjoinRoot.isDomain_of_prime hirreducible.prime
  have hzero : residue bits x ≠ 0 := by
    intro hzero
    exact hne (residue_injective hbits hx (Nat.two_pow_pos bits) (hzero.trans residue_zero.symm))
  let times (y : Fin (2 ^ bits)) : Fin (2 ^ bits) :=
    ⟨multiply x y bits, multiply_lt hbits hx y⟩
  have hinjective : Function.Injective times := by
    intro y z hsame
    have hvalues : multiply x y bits = multiply x z bits := congrArg Fin.val hsame
    have hproducts : residue bits x * residue bits y = residue bits x * residue bits z := by
      rw [← residue_multiply hbits hx y.isLt, ← residue_multiply hbits hx z.isLt, hvalues]
    exact Fin.ext (residue_injective hbits y.isLt z.isLt (mul_left_cancel₀ hzero hproducts))
  have hone : 1 < 2 ^ bits := Nat.one_lt_two_pow (by omega)
  obtain ⟨y, hy⟩ := Finite.surjective_of_injective hinjective ⟨1, hone⟩
  exact ⟨y, y.isLt, congrArg Fin.val hy⟩

theorem fieldLaws (hirreducible : Irreducible (fieldModulus bits)) : FieldLaws bits where
  multiply_lt _ y hx _ := multiply_lt hbits hx y
  multiply_comm x y hx hy := by
    apply residue_injective hbits (multiply_lt hbits hx y) (multiply_lt hbits hy x)
    rw [residue_multiply hbits hx hy, residue_multiply hbits hy hx, mul_comm]
  multiply_assoc x y z hx hy hz := by
    have hxy := multiply_lt hbits hx y
    have hyz := multiply_lt hbits hy z
    apply residue_injective hbits (multiply_lt hbits hxy z) (multiply_lt hbits hx _)
    rw [residue_multiply hbits hxy hz, residue_multiply hbits hx hy, residue_multiply hbits hx hyz,
      residue_multiply hbits hy hz, mul_assoc]
  multiply_xor x y z hx hy hz := by
    have hyz := Nat.xor_lt_two_pow hy hz
    have hsum := Nat.xor_lt_two_pow (multiply_lt hbits hx y) (multiply_lt hbits hx z)
    apply residue_injective hbits (multiply_lt hbits hx _) hsum
    rw [residue_multiply hbits hx hyz, residue_xor, residue_xor, residue_multiply hbits hx hy,
      residue_multiply hbits hx hz, mul_add]
  multiply_one x hx := by
    have hone : 1 < 2 ^ bits := Nat.one_lt_two_pow (by omega)
    apply residue_injective hbits (multiply_lt hbits hx 1) hx
    rw [residue_multiply hbits hx hone, residue_one, mul_one]
  exists_inverse _ hx hne := exists_multiply_eq_one hbits hirreducible hx hne

end Laws

/-! ### The fields of the two block lengths -/

/-- The bits of a block, and the polynomial by which the products of blocks are reduced. -/
inductive BlockField : Nat → (ZMod 2)[X] → Prop
  | short : BlockField 64 (X ^ 64 + X ^ 4 + X ^ 3 + X + 1)
  | long : BlockField 128 (X ^ 128 + X ^ 7 + X ^ 2 + X + 1)

namespace BlockField

variable {bits : Nat} {modulus : (ZMod 2)[X]}

theorem bits_eq (hfield : BlockField bits modulus) : bits = 64 ∨ bits = 128 := by
  cases hfield with
  | short => exact .inl rfl
  | long => exact .inr rfl

theorem modulus_eq (hfield : BlockField bits modulus) : modulus = fieldModulus bits := by
  cases hfield with
  | short =>
      have hlow : fieldPolynomial 64 = 2 ^ 4 ^^^ 2 ^ 3 ^^^ 2 ^^^ 1 := rfl
      rw [fieldModulus, hlow, bitPolynomial_xor, bitPolynomial_xor, bitPolynomial_xor,
        bitPolynomial_two_pow, bitPolynomial_two_pow, bitPolynomial_two, bitPolynomial_one]
      ring
  | long =>
      have hlow : fieldPolynomial 128 = 2 ^ 7 ^^^ 2 ^ 2 ^^^ 2 ^^^ 1 := rfl
      rw [fieldModulus, hlow, bitPolynomial_xor, bitPolynomial_xor, bitPolynomial_xor,
        bitPolynomial_two_pow, bitPolynomial_two_pow, bitPolynomial_two, bitPolynomial_one]
      ring

theorem irreducible (hfield : BlockField bits modulus) : Irreducible modulus := by
  rw [hfield.modulus_eq]
  cases hfield with
  | short => exact irreducible_fieldModulus_64
  | long => exact irreducible_fieldModulus_128

/-- Blocks of either length multiply as polynomials over the field of two elements do modulo the
polynomial of their length.  That polynomial is irreducible, so they are a field with the exclusive
or as its sum.  Computing in words of 128 bits with masks gives the same product. -/
theorem multiplies_in_field (hfield : BlockField bits modulus) :
    (∀ x y, x < 2 ^ bits → y < 2 ^ bits →
        bitPolynomial (multiply x y bits) = bitPolynomial x * bitPolynomial y %ₘ modulus)
      ∧ Irreducible modulus
      ∧ FieldLaws bits
      ∧ ∀ x y : BitVec 128, (maskedMultiply x y bits).toNat = multiply x.toNat y.toNat bits := by
  have hbits : 8 ≤ bits := by
    have heq := hfield.bits_eq
    omega
  have hirreducible := hfield.irreducible
  refine ⟨?_, hirreducible, ?_, ?_⟩
  · intro x y hx hy
    rw [hfield.modulus_eq]
    exact bitPolynomial_multiply hbits hx hy
  · rw [hfield.modulus_eq] at hirreducible
    exact fieldLaws hbits hirreducible
  · intro x y
    exact toNat_maskedMultiply hfield.bits_eq x y

/-- The highest power of `X` that the longer blocks hold. -/
def highestPower : Nat := 0x80000000000000000000000000000000

/-- Its product with `X` is reduced, and it has an inverse. -/
theorem highestPower_multiplies_in_field :
    multiply highestPower 2 128 = 0x87
      ∧ bitPolynomial (multiply highestPower 2 128)
        = bitPolynomial highestPower * bitPolynomial 2
          %ₘ (X ^ 128 + X ^ 7 + X ^ 2 + X + 1 : (ZMod 2)[X])
      ∧ (∃ y < 2 ^ 128, multiply highestPower y 128 = 1)
      ∧ (maskedMultiply (.ofNat 128 highestPower) 2 128).toNat = 0x87 := by
  obtain ⟨hproduct, -, hlaws, hmasked⟩ := multiplies_in_field .long
  have hhigh : highestPower < 2 ^ 128 := by decide
  have hreduced : multiply highestPower 2 128 = 0x87 := by decide +kernel
  refine ⟨hreduced, hproduct highestPower 2 hhigh (by decide),
    hlaws.exists_inverse highestPower hhigh (by decide), ?_⟩
  rw [hmasked]
  exact hreduced

end BlockField

end Multilinear

end RecordProtection
