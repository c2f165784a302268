import Mathlib.Order.Bounds.Defs
import RecordProtection.Proofs.Bounds.Cbc

/-!
# Padding is read exactly

Padding of a value is `value + 1` bytes of that value.  Added padding fills a string up to the next
multiple of the block length above its length, and the check accepts exactly the strings that end
in padding, cutting off just that.  What stands in front of the bytes that the last byte claims as
padding has no part in the answer, however long the string is, although the check looks at the last
256 bytes whatever is claimed.
-/

namespace RecordProtection

/-! ### Added padding -/

theorem length_addPadding {blockLength : Nat} (content : Bytes) :
    (addPadding blockLength content).length
      = content.length + (paddingValue blockLength content.length + 1) := by
  rw [addPadding, List.length_append, List.length_replicate]

/-- There is always padding, and never more than one block of it. -/
theorem isLeast_length_addPadding {blockLength : Nat} (hblock : 0 < blockLength)
    (content : Bytes) :
    IsLeast {length | blockLength ∣ length ∧ content.length < length}
      (addPadding blockLength content).length := by
  have hlength := @length_addPadding blockLength content
  have hvalue := paddingValue_lt hblock content.length
  have hwhole := dvd_length_addPadding hblock content
  constructor
  · exact ⟨hwhole, by omega⟩
  · rintro length ⟨hdvd, hlong⟩
    -- a smaller multiple would be at least a block smaller, and not be longer than the content
    by_contra hshort
    have hgap : blockLength ∣ (addPadding blockLength content).length - length :=
      Nat.dvd_sub hwhole hdvd
    have hblocks := Nat.le_of_dvd (by omega) hgap
    omega

theorem checkPadding_addPadding {blockLength : Nat} (hblock : 0 < blockLength)
    (hbyte : blockLength ≤ 256) (content : Bytes) :
    checkPadding (addPadding blockLength content) = (true, content.length) := by
  rw [addPadding_eq hblock hbyte, checkPadding_append_paddingOf]

/-! ### What is accepted -/

theorem checkPadding_eq_true_iff {padded : Bytes} {length : Nat} :
    checkPadding padded = (true, length)
      ↔ ∃ content value, padded = content ++ paddingOf value ∧ content.length = length := by
  constructor
  · intro h
    obtain ⟨value, hvalue⟩ := eq_append_paddingOf_of_checkPadding h
    refine ⟨_, value, hvalue, ?_⟩
    rw [hvalue, checkPadding_append_paddingOf] at h
    exact (Prod.mk.inj h).2
  · rintro ⟨content, value, rfl, rfl⟩
    exact checkPadding_append_paddingOf content value

/-- A string is read in the same way after any string of the same length, if the padding that it
claims is a part of it. -/
theorem checkPadding_append_congr {front other back : Bytes} (hlength : front.length = other.length)
    {value : UInt8} (hlast : back.getLast? = some value) (hclaimed : value.toNat < back.length) :
    checkPadding (front ++ back) = checkPadding (other ++ back) := by
  have hread (start : Bytes) (hstart : start.length = other.length) :
      checkPadding (start ++ back)
        = if (back.drop (back.length - (value.toNat + 1))).all (· == value) then
            (true, other.length + (back.length - (value.toNat + 1)))
          else (false, other.length + (back.length - 1)) := by
    have hend : (start ++ back).getLast? = some value := by
      rw [List.getLast?_append, hlast, Option.some_or]
    have hwhole : (start ++ back).length = other.length + back.length := by
      rw [List.length_append, hstart]
    have hcut : other.length + back.length - (value.toNat + 1)
        = start.length + (back.length - (value.toNat + 1)) := by
      omega
    have hrest : other.length + back.length - 1 = other.length + (back.length - 1) := by
      omega
    have hfits : value.toNat < other.length + back.length := by
      omega
    simp only [checkPadding, hend, hwhole, hfits, true_and, hrest, hcut, List.drop_append,
      Nat.add_sub_cancel_left]
    rw [List.drop_eq_nil_of_le (Nat.le_add_right _ _), List.nil_append, hstart]
  rw [hread front hlength, hread other rfl]

/-! ### Both directions -/

/-- Padding is exact in both directions.  Added padding is valid, reaches the next multiple of the
block length, and leads back to the content.  A string is accepted exactly if it is some content and
the padding of some value, with the length of the content as the answer.  Neither the bytes in front
of the padding that is claimed nor the window of the last 256 bytes makes a difference. -/
theorem padding_is_exact :
    (∀ (blockLength : Nat) (content : Bytes), 0 < blockLength → blockLength ≤ 256 →
        content <+: addPadding blockLength content
          ∧ IsLeast {length | blockLength ∣ length ∧ content.length < length}
            (addPadding blockLength content).length
          ∧ checkPadding (addPadding blockLength content) = (true, content.length))
      ∧ (∀ (padded : Bytes) (length : Nat), checkPadding padded = (true, length)
          ↔ ∃ content value, padded = content ++ paddingOf value ∧ content.length = length)
      ∧ (∀ (front other back : Bytes) (value : UInt8), front.length = other.length →
          back.getLast? = some value → value.toNat < back.length →
          checkPadding (front ++ back) = checkPadding (other ++ back))
      ∧ ∀ padded : Bytes, guardedCheckPadding padded = .ok (checkPadding padded) := by
  refine ⟨?_, fun padded length => checkPadding_eq_true_iff, ?_, guardedCheckPadding_eq_ok⟩
  · intro blockLength content hblock hbyte
    exact ⟨List.prefix_append _ _, isLeast_length_addPadding hblock content,
      checkPadding_addPadding hblock hbyte content⟩
  · intro front other back value hlength hlast hclaimed
    exact checkPadding_append_congr hlength hlast hclaimed

/-- Padding of 256 bytes is added to whole blocks and found again, behind content of any kind. -/
theorem longestPadding_is_exact :
    checkPadding (addPadding 256 (Bytes.zeros 256)) = (true, 256)
      ∧ IsLeast {length | 256 ∣ length ∧ 256 < length}
        (addPadding 256 (Bytes.zeros 256)).length
      ∧ checkPadding (List.replicate 300 255 ++ paddingOf 255) = (true, 300)
      ∧ checkPadding (Bytes.zeros 300 ++ paddingOf 255)
        = checkPadding (List.replicate 300 255 ++ paddingOf 255) := by
  obtain ⟨hadded, haccepted, hfront, -⟩ := padding_is_exact
  obtain ⟨-, hleast, hfound⟩ := hadded 256 (Bytes.zeros 256) (by decide) (by decide)
  rw [Bytes.length_zeros] at hleast hfound
  refine ⟨hfound, hleast, ?_, ?_⟩
  · exact (haccepted _ 300).mpr ⟨List.replicate 300 255, 255, rfl, List.length_replicate⟩
  · refine hfront _ _ _ 255 ?_ (getLast?_append_paddingOf [] 255) ?_
    · rw [Bytes.length_zeros, List.length_replicate]
    · rw [length_paddingOf]
      decide

end RecordProtection
