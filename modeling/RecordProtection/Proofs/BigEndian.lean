import Mathlib.Data.List.Basic
import Mathlib.Data.List.Induction
import Mathlib.Data.Nat.Bitwise
import RecordProtection.Proofs.Block.Counter
import RecordProtection.Proofs.Words

/-!
# Numbers that byte strings write

A byte string of a given length and the number below `256 ^ length` that it writes stand for each
other, most significant byte first.  Counting a block on adds one to its number, and a mask is added
to the number bit by bit.
-/

namespace RecordProtection

namespace Bytes

/-! ### Least significant byte first -/

theorem toNatLE_lt (bytes : Bytes) : toNatLE bytes < 256 ^ bytes.length := by
  induction bytes with
  | nil => simp [toNatLE]
  | cons byte bytes ih =>
      have hbyte := byte.toNat_lt
      rw [toNatLE, List.length_cons, Nat.pow_succ']
      omega

theorem toNatLE_injective {one other : Bytes} (hlength : one.length = other.length)
    (h : toNatLE one = toNatLE other) : one = other := by
  induction one generalizing other with
  | nil => exact (List.eq_nil_of_length_eq_zero hlength.symm).symm
  | cons byte one ih =>
      cases other with
      | nil => cases hlength
      | cons otherByte other =>
          have hbyte := byte.toNat_lt
          have hotherByte := otherByte.toNat_lt
          simp only [toNatLE] at h
          have hhead : byte = otherByte := UInt8.toNat_inj.mp (by omega)
          have htail : one = other := ih (Nat.succ.inj hlength) (by omega)
          rw [hhead, htail]

theorem toNatLE_ofNatLE (width value : Nat) :
    toNatLE (ofNatLE width value) = value % 256 ^ width := by
  induction width generalizing value with
  | zero => simp [ofNatLE, toNatLE, Nat.mod_one]
  | succ width ih =>
      have hbyte : (UInt8.ofNat value).toNat = value % 256 := UInt8.toNat_ofNat'
      rw [ofNatLE, toNatLE, ih, hbyte, Nat.pow_succ', Nat.mod_mul]

/-! ### Most significant byte first -/

theorem toNatBE_concat (bytes : Bytes) (byte : UInt8) :
    toNatBE (bytes ++ [byte]) = toNatBE bytes * 256 + byte.toNat := by
  simp only [toNatBE, List.foldl_concat]

theorem toNatBE_eq (bytes : Bytes) : toNatBE bytes = toNatLE bytes.reverse := by
  induction bytes using List.reverseRecOn with
  | nil => rfl
  | append_singleton bytes byte ih =>
      rw [toNatBE_concat, List.reverse_concat, toNatLE, ih]
      omega

theorem toNatBE_lt (bytes : Bytes) : toNatBE bytes < 256 ^ bytes.length := by
  have hlt := toNatLE_lt bytes.reverse
  rwa [← toNatBE_eq, List.length_reverse] at hlt

theorem toNatBE_injective {one other : Bytes} (hlength : one.length = other.length)
    (h : toNatBE one = toNatBE other) : one = other := by
  rw [toNatBE_eq, toNatBE_eq] at h
  exact List.reverse_inj.mp (toNatLE_injective (by simpa using hlength) h)

theorem toNatBE_append (one other : Bytes) :
    toNatBE (one ++ other) = toNatBE one * 256 ^ other.length + toNatBE other := by
  induction other using List.reverseRecOn with
  | nil => simp [toNatBE]
  | append_singleton other byte ih =>
      rw [← List.append_assoc, toNatBE_concat, ih, toNatBE_concat, List.length_append,
        List.length_singleton, Nat.pow_succ, Nat.add_mul, Nat.mul_assoc, Nat.add_assoc]

theorem toNatBE_take_drop (bytes : Bytes) (count : Nat) :
    toNatBE bytes
      = toNatBE (bytes.take count) * 256 ^ (bytes.length - count)
        + toNatBE (bytes.drop count) := by
  have h := toNatBE_append (bytes.take count) (bytes.drop count)
  rwa [List.take_append_drop, List.length_drop] at h

/-- The low bytes write the remainder. -/
theorem toNatBE_drop (bytes : Bytes) (count : Nat) :
    toNatBE (bytes.drop count) = toNatBE bytes % 256 ^ (bytes.length - count) := by
  have hlow := toNatBE_lt (bytes.drop count)
  rw [List.length_drop] at hlow
  rw [toNatBE_take_drop bytes count, Nat.mul_add_mod_self_right, Nat.mod_eq_of_lt hlow]

theorem toNatBE_ofNatBE (width value : Nat) :
    toNatBE (ofNatBE width value) = value % 256 ^ width := by
  rw [toNatBE_eq, ofNatBE, List.reverse_reverse, toNatLE_ofNatLE]

/-- The low bytes and the numbers above them are masked apart. -/
theorem xor_digits {low otherLow : Nat} (hlow : low < 256) (hotherLow : otherLow < 256)
    (high otherHigh : Nat) :
    (low + 256 * high) ^^^ (otherLow + 256 * otherHigh)
      = (low ^^^ otherLow) + 256 * (high ^^^ otherHigh) := by
  have hmod := @Nat.xor_mod_two_pow (low + 256 * high) (otherLow + 256 * otherHigh) 8
  have hdiv := @Nat.xor_div_two_pow (low + 256 * high) (otherLow + 256 * otherHigh) 8
  have hlowest : (low + 256 * high) % 2 ^ 8 = low := by omega
  have hotherLowest : (otherLow + 256 * otherHigh) % 2 ^ 8 = otherLow := by omega
  have hrest : (low + 256 * high) / 2 ^ 8 = high := by omega
  have hotherRest : (otherLow + 256 * otherHigh) / 2 ^ 8 = otherHigh := by omega
  rw [hlowest, hotherLowest] at hmod
  rw [hrest, hotherRest] at hdiv
  omega

theorem toNatLE_xor {one other : Bytes} (hlength : one.length = other.length) :
    toNatLE (xor one other) = toNatLE one ^^^ toNatLE other := by
  induction one generalizing other with
  | nil =>
      rw [List.eq_nil_of_length_eq_zero hlength.symm]
      rfl
  | cons byte one ih =>
      cases other with
      | nil => cases hlength
      | cons otherByte other =>
          have htail := ih (Nat.succ.inj hlength)
          simp only [xor] at htail
          simp only [xor, List.zipWith_cons_cons, toNatLE, UInt8.toNat_xor, htail]
          rw [xor_digits byte.toNat_lt otherByte.toNat_lt]

theorem toNatBE_xor {one other : Bytes} (hlength : one.length = other.length) :
    toNatBE (xor one other) = toNatBE one ^^^ toNatBE other := by
  have hreverse : (xor one other).reverse = xor one.reverse other.reverse :=
    List.reverse_zipWith hlength
  rw [toNatBE_eq, toNatBE_eq, toNatBE_eq, hreverse, toNatLE_xor (by simpa using hlength)]

end Bytes

/-! ### Words -/

theorem toNatBE_bytes16 (w : UInt16) : Bytes.toNatBE (bytes16 w) = w.toNat := by
  have hw := w.toNat_lt
  simp only [Bytes.toNatBE, bytes16, List.foldl_cons, List.foldl_nil, UInt16.toNat_toUInt8,
    UInt16.toNat_shiftRight, UInt16.reduceToNat, Nat.reduceMod, Nat.shiftRight_eq_div_pow]
  omega

theorem toNatBE_bytes32 (w : UInt32) : Bytes.toNatBE (bytes32 w) = w.toNat := by
  have hw := w.toNat_lt
  simp only [Bytes.toNatBE, bytes32, List.foldl_cons, List.foldl_nil, UInt32.toNat_toUInt8,
    UInt32.toNat_shiftRight, UInt32.reduceToNat, Nat.reduceMod, Nat.shiftRight_eq_div_pow]
  omega

theorem toNatBE_bytes64 (w : UInt64) : Bytes.toNatBE (bytes64 w) = w.toNat := by
  have hw := w.toNat_lt
  rw [bytes64, Bytes.toNatBE_append, toNatBE_bytes32, toNatBE_bytes32, length_bytes32]
  simp only [UInt64.toNat_toUInt32, UInt64.toNat_shiftRight, UInt64.reduceToNat, Nat.reduceMod,
    Nat.shiftRight_eq_div_pow]
  omega

/-! ### Counting -/

theorem toNatLE_incrementLE (bytes : Bytes) :
    Bytes.toNatLE (incrementLE bytes) = (Bytes.toNatLE bytes + 1) % 256 ^ bytes.length := by
  induction bytes with
  | nil => simp [incrementLE, Bytes.toNatLE]
  | cons byte bytes ih =>
      have hlt := Bytes.toNatLE_lt (byte :: bytes)
      have hpow : 256 ^ (byte :: bytes).length = 256 * 256 ^ bytes.length := Nat.pow_succ'
      rw [hpow] at hlt ⊢
      rw [Bytes.toNatLE] at hlt
      unfold incrementLE
      split
      · rename_i hlast
        have hcarry : (Bytes.toNatLE (byte :: bytes) + 1) = 256 * (Bytes.toNatLE bytes + 1) := by
          rw [Bytes.toNatLE, hlast, show (255 : UInt8).toNat = 255 from rfl]
          omega
        rw [hcarry, Nat.mul_mod_mul_left, Bytes.toNatLE, ih]
        simp
      · rename_i hlast
        have hbyte := byte.toNat_lt
        have hne : byte.toNat ≠ 255 := fun h => hlast (UInt8.toNat_inj.mp h)
        have hnext : (byte + 1).toNat = byte.toNat + 1 := by
          rw [UInt8.toNat_add, show (1 : UInt8).toNat = 1 from rfl]
          omega
        rw [Bytes.toNatLE, Bytes.toNatLE, hnext, Nat.mod_eq_of_lt (by omega)]
        omega

theorem toNatBE_incrementBE (bytes : Bytes) :
    Bytes.toNatBE (incrementBE bytes) = (Bytes.toNatBE bytes + 1) % 256 ^ bytes.length := by
  rw [Bytes.toNatBE_eq, Bytes.toNatBE_eq, incrementBE, List.reverse_reverse, toNatLE_incrementLE,
    List.length_reverse]

end RecordProtection
