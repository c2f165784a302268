import RecordProtection.Proofs.BigEndian
import RecordProtection.Proofs.RoundTrip

/-!
# Places in blocks and nonces

The sequence block of a record is written from its place, and the nonce from the block.  A counter
within its limit can be read back from the block, and the block from every nonce that shows all of
it, so records with different places have different nonces.
-/

namespace RecordProtection

/-! ### Sequence blocks -/

namespace Authenticator

/-- What the epoch adds to the number that the sequence block writes. -/
def epochValue (auth : Authenticator) : Nat :=
  if auth.version.isDatagram then auth.sequence.epoch.toNat * 2 ^ 48 else 0

theorem number_lt_of_isDatagram {auth : Authenticator} (hdatagram : auth.version.isDatagram = true)
    (hnumber : auth.sequence.number ≤ auth.maxNumber) :
    auth.sequence.number.toNat < 2 ^ 48 := by
  rw [maxNumber, if_pos hdatagram, UInt64.le_iff_toNat_le] at hnumber
  have hmax : maxDatagramNumber.toNat = 2 ^ 48 - 1 := by decide
  omega

/-- Of a counter within its limit the epoch replaces nothing but zeros. -/
theorem toNatBE_sequenceBlock {auth : Authenticator}
    (hnumber : auth.sequence.number ≤ auth.maxNumber) :
    Bytes.toNatBE auth.sequenceBlock = auth.epochValue + auth.sequence.number.toNat := by
  unfold sequenceBlock epochValue
  cases hdatagram : auth.version.isDatagram with
  | false =>
      simp only [Bool.false_eq_true, if_false, toNatBE_bytes64, Nat.zero_add]
  | true =>
      have hlt := number_lt_of_isDatagram hdatagram hnumber
      simp only [if_true, Bytes.toNatBE_append, toNatBE_bytes16, Bytes.toNatBE_drop,
        toNatBE_bytes64, List.length_drop, length_bytes64, Nat.reduceSub, Nat.reducePow]
      omega

/-- The counter is read back from its block, in datagrams with the epoch. -/
theorem place_eq_of_sequenceBlock {one other : Authenticator}
    (hversion : other.version = one.version) (hone : one.sequence.number ≤ one.maxNumber)
    (hother : other.sequence.number ≤ other.maxNumber)
    (hdatagram : one.version.isDatagram = true)
    (hblock : one.sequenceBlock = other.sequenceBlock) : one.sequence = other.sequence := by
  have hlt := number_lt_of_isDatagram hdatagram hone
  have hotherLt := number_lt_of_isDatagram (hversion ▸ hdatagram) hother
  have hvalue := congrArg Bytes.toNatBE hblock
  rw [toNatBE_sequenceBlock hone, toNatBE_sequenceBlock hother] at hvalue
  simp only [epochValue, hversion, hdatagram, if_true] at hvalue
  have hepoch : one.sequence.epoch = other.sequence.epoch := UInt16.toNat_inj.mp (by omega)
  have hnumber : one.sequence.number = other.sequence.number := UInt64.toNat_inj.mp (by omega)
  exact congrArg₂ Sequence.mk hepoch hnumber

theorem toNat_number_after {auth : Authenticator} {count : Nat}
    (hcount : auth.sequence.number.toNat + count ≤ auth.maxNumber.toNat) :
    (auth.after count).sequence.number.toNat = auth.sequence.number.toNat + count := by
  have hmax := auth.maxNumber.toNat_lt
  simp only [after, UInt64.toNat_add, UInt64.toNat_ofNat', Nat.add_mod_mod]
  exact Nat.mod_eq_of_lt (by omega)

/-- The blocks of an epoch count on with its records. -/
theorem toNatBE_sequenceBlock_after {auth : Authenticator} {count : Nat}
    (hcount : auth.sequence.number.toNat + count ≤ auth.maxNumber.toNat) :
    Bytes.toNatBE (auth.after count).sequenceBlock
      = Bytes.toNatBE auth.sequenceBlock + count := by
  have hnumber : auth.sequence.number ≤ auth.maxNumber :=
    UInt64.le_iff_toNat_le.mpr (by omega)
  have hafter := toNat_number_after hcount
  have hnext : (auth.after count).sequence.number ≤ (auth.after count).maxNumber := by
    rw [UInt64.le_iff_toNat_le, hafter]
    exact hcount
  rw [toNatBE_sequenceBlock hnext, toNatBE_sequenceBlock hnumber, hafter, Nat.add_assoc]
  rfl

end Authenticator

/-! ### Nonces -/

namespace Bytes

theorem xor_left_cancel {mask one other : Bytes} (hone : one.length ≤ mask.length)
    (hother : other.length ≤ mask.length) (h : xor mask one = xor mask other) : one = other := by
  rw [xor_comm mask one, xor_comm mask other] at h
  rw [← xor_xor_cancel hone, h, xor_xor_cancel hother]

end Bytes

namespace NonceLayout

/-- The nonce shows the whole sequence block. -/
def ShowsBlock : NonceLayout → Prop
  | explicit _ sentLength => sentLength = sequenceBlockLength
  | masked iv => sequenceBlockLength ≤ iv.length

theorem ShowsBlock.sending_injective {layout : NonceLayout} (hlayout : layout.ShowsBlock)
    {one other : Bytes} (hone : one.length = sequenceBlockLength)
    (hother : other.length = sequenceBlockLength)
    (hnonce : (layout.sending one).1 = (layout.sending other).1) : one = other := by
  cases layout with
  | explicit fixed sentLength =>
      obtain rfl : sentLength = sequenceBlockLength := hlayout
      simp only [sending, Nat.sub_self, List.drop_zero] at hnonce
      exact List.append_cancel_left hnonce
  | masked iv =>
      have hiv : sequenceBlockLength ≤ iv.length := hlayout
      have hcovered : (iv.drop (iv.length - sequenceBlockLength)).length
          = sequenceBlockLength := by
        rw [List.length_drop]
        omega
      exact Bytes.xor_left_cancel (by omega) (by omega) (List.append_cancel_left hnonce)

/-- The number that the nonce writes, from the number that the sequence block writes. -/
def nonceNumber : NonceLayout → Nat → Nat
  | explicit fixed sentLength, value =>
      Bytes.toNatBE fixed * 256 ^ sentLength + value % 256 ^ sentLength
  | masked iv, value =>
      Bytes.toNatBE (iv.take (iv.length - sequenceBlockLength)) * 2 ^ 64
        + (Bytes.toNatBE (iv.drop (iv.length - sequenceBlockLength)) ^^^ value)

theorem toNatBE_sending {layout : NonceLayout} (hlayout : layout.Lawful) {block : Bytes}
    (hblock : block.length = sequenceBlockLength) :
    Bytes.toNatBE (layout.sending block).1 = layout.nonceNumber (Bytes.toNatBE block) := by
  cases layout with
  | explicit fixed sentLength =>
      have hsent : sentLength ≤ sequenceBlockLength := hlayout
      have hkept : (block.drop (sequenceBlockLength - sentLength)).length = sentLength := by
        rw [List.length_drop]
        omega
      have hlow : block.length - (sequenceBlockLength - sentLength) = sentLength := by
        omega
      rw [sending, Bytes.toNatBE_append, hkept, Bytes.toNatBE_drop, hlow]
      rfl
  | masked iv =>
      have hiv : sequenceBlockLength ≤ iv.length := hlayout
      have hcovered : (iv.drop (iv.length - sequenceBlockLength)).length = block.length := by
        rw [List.length_drop]
        omega
      have hmasked : (Bytes.xor (iv.drop (iv.length - sequenceBlockLength)) block).length
          = sequenceBlockLength := by
        rw [Bytes.length_xor, hcovered, hblock, Nat.min_self]
      rw [sending, maskIV, Bytes.toNatBE_append, hmasked, Bytes.toNatBE_xor hcovered]
      rfl

end NonceLayout

end RecordProtection
