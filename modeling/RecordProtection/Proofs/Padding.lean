import RecordProtection.Padding
import RecordProtection.Proofs.Bytes

/-!
# Padding that is found again

A string ends in valid padding exactly if its last bytes are `value + 1` times `value`, and the
check then cuts off just these.  Added padding is valid and fills up whole blocks.
-/

namespace RecordProtection

/-- The padding whose bytes have a given value. -/
def paddingOf (value : UInt8) : Bytes := List.replicate (value.toNat + 1) value

@[simp]
theorem length_paddingOf (value : UInt8) : (paddingOf value).length = value.toNat + 1 := by
  simp [paddingOf]

theorem getLast?_append_paddingOf (content : Bytes) (value : UInt8) :
    (content ++ paddingOf value).getLast? = some value := by
  rw [paddingOf, List.replicate_succ', ← List.append_assoc, List.getLast?_concat]

/-- Padding determines its value and what is in front of it. -/
theorem append_paddingOf_inj {left right : Bytes} {value other : UInt8}
    (h : left ++ paddingOf value = right ++ paddingOf other) : left = right ∧ value = other := by
  have hlast := congrArg List.getLast? h
  rw [getLast?_append_paddingOf, getLast?_append_paddingOf, Option.some_inj] at hlast
  subst hlast
  exact ⟨List.append_cancel_right h, rfl⟩

/-- Valid padding is accepted, and all of it is cut off. -/
theorem checkPadding_append_paddingOf (content : Bytes) (value : UInt8) :
    checkPadding (content ++ paddingOf value) = (true, content.length) := by
  have hlength : (content ++ paddingOf value).length - (value.toNat + 1) = content.length := by
    simp
  have huniform : (paddingOf value).all (· == value) = true := by
    simp [paddingOf]
  have hshort : value.toNat < (content ++ paddingOf value).length := by
    simp
    omega
  simp only [checkPadding, getLast?_append_paddingOf, hlength, List.drop_left, huniform, hshort,
    and_self, if_true]

theorem eq_append_paddingOf_of_checkPadding {padded : Bytes} {length : Nat}
    (h : checkPadding padded = (true, length)) :
    ∃ value, padded = padded.take length ++ paddingOf value := by
  unfold checkPadding at h
  split at h
  · cases h
  · rename_i value _
    dsimp only at h
    split at h
    · rename_i hvalid
      obtain ⟨hshort, huniform⟩ := hvalid
      obtain rfl : padded.length - (value.toNat + 1) = length := (Prod.mk.inj h).2
      have hpadding : padded.drop (padded.length - (value.toNat + 1)) = paddingOf value := by
        rw [paddingOf, List.eq_replicate_iff]
        refine ⟨?_, fun byte hbyte => ?_⟩
        · rw [List.length_drop]
          omega
        · exact eq_of_beq (List.all_eq_true.mp huniform byte hbyte)
      exact ⟨value, by rw [← hpadding, List.take_append_drop]⟩
    · cases h

/-! ### Added padding -/

theorem paddingValue_lt {blockLength : Nat} (hblock : 0 < blockLength) (length : Nat) :
    paddingValue blockLength length < blockLength :=
  Nat.mod_lt _ hblock

/-- Blocks of at most 256 bytes leave room for the value of the padding in a byte. -/
theorem addPadding_eq {blockLength : Nat} (hblock : 0 < blockLength) (hbyte : blockLength ≤ 256)
    (content : Bytes) : addPadding blockLength content
      = content ++ paddingOf (UInt8.ofNat (paddingValue blockLength content.length)) := by
  have hlt := paddingValue_lt hblock content.length
  have hvalue : (UInt8.ofNat (paddingValue blockLength content.length)).toNat
      = paddingValue blockLength content.length := by
    rw [UInt8.toNat_ofNat']
    exact Nat.mod_eq_of_lt (by omega)
  rw [addPadding, paddingOf, hvalue]

theorem dvd_length_addPadding {blockLength : Nat} (hblock : 0 < blockLength) (content : Bytes) :
    blockLength ∣ (addPadding blockLength content).length := by
  have hmod := Nat.mod_lt (content.length + 1) hblock
  have hsplit := Nat.div_add_mod (content.length + 1) blockLength
  simp only [addPadding, paddingValue, List.length_append, List.length_replicate]
  by_cases hrest : (content.length + 1) % blockLength = 0
  · rw [hrest, Nat.sub_zero, Nat.mod_self]
    exact Nat.dvd_of_mod_eq_zero (by simpa using hrest)
  · rw [Nat.mod_eq_of_lt (by omega)]
    exact ⟨(content.length + 1) / blockLength + 1, by rw [Nat.mul_succ]; omega⟩

end RecordProtection
