import RecordProtection.Proofs.Placement
import RecordProtection.Proofs.SequenceBlock

/-!
# Records of one mode

A mode is asked for records one after the other, and some of the requests may fail.  If the
transform is stateless, the records that come of it have consecutive places: each is made by the
mode as it was at first, only with the counter moved on by the number of records before it.
-/

namespace RecordProtection

/-- A record that a mode returned, and what it made the record of. -/
structure Output where
  mode : CipherMode
  type : ContentType
  plaintext : Bytes
  record : Bytes

/-- The record is what the transform makes of its content. -/
def Output.Valid (output : Output) : Prop :=
  ∃ random, (output.mode.transform.encrypt output.mode.auth output.type output.plaintext random).1
    = .ok output.record

namespace CipherMode

/-- The mode further on in the same epoch. -/
def after (mode : CipherMode) (count : Nat) : CipherMode :=
  { mode with auth := mode.auth.after count }

theorem after_zero (mode : CipherMode) : mode.after 0 = mode := by
  rw [after, Authenticator.after_zero]

theorem after_after (mode : CipherMode) (first second : Nat) :
    (mode.after first).after second = mode.after (first + second) := by
  simp only [after, Authenticator.after_after]

/-- The records that come of requests; a request that fails leaves none. -/
def outputs : CipherMode → List (ContentType × Bytes) → RandomSource → List Output
  | _, [], _ => []
  | mode, (type, plaintext) :: requests, random =>
      match mode.encrypt type plaintext random with
      | (.ok record, next, rest) =>
          ⟨mode, type, plaintext, record⟩ :: next.outputs requests rest
      | (.error _, next, rest) => next.outputs requests rest

section Outputs

variable {mode : CipherMode} (hmode : mode.transform.Stateless)
include hmode

/-- A request leads to a record and the next place, or to nothing. -/
theorem outputs_cons (type : ContentType) (plaintext : Bytes)
    (requests : List (ContentType × Bytes)) (random : RandomSource) :
    (∃ rest, mode.outputs ((type, plaintext) :: requests) random = mode.outputs requests rest)
      ∨ ∃ record rest, mode.auth.sequence.number < mode.auth.maxNumber
        ∧ (mode.transform.encrypt mode.auth type plaintext random).1 = .ok record
        ∧ mode.outputs ((type, plaintext) :: requests) random
          = ⟨mode, type, plaintext, record⟩ :: (mode.after 1).outputs requests rest := by
  rcases hencrypt : mode.encrypt type plaintext random with ⟨e | record, next, rest⟩
  · obtain rfl := eq_of_encrypt_error hmode hencrypt
    refine .inl ⟨rest, ?_⟩
    rw [outputs, hencrypt]
  · obtain ⟨hnumber, rfl⟩ := placed_of_encrypt hmode hencrypt
    obtain ⟨-, transform, -, htransform, -⟩ := encrypt_eq_ok_iff.mp hencrypt
    refine .inr ⟨record, rest, hnumber, by rw [htransform], ?_⟩
    rw [outputs, hencrypt]
    rfl

/-- The records have consecutive places, all of them within the limit of the counter. -/
theorem mode_getElem_outputs (requests : List (ContentType × Bytes)) (random : RandomSource)
    (i : Nat) (hi : i < (mode.outputs requests random).length) :
    (mode.outputs requests random)[i].mode = mode.after i
      ∧ mode.auth.sequence.number.toNat + i < mode.auth.maxNumber.toNat := by
  induction requests generalizing mode random i with
  | nil => cases hi
  | cons request requests ih =>
      obtain ⟨type, plaintext⟩ := request
      obtain ⟨rest, houtputs⟩ | ⟨record, rest, hnumber, -, houtputs⟩ :=
        outputs_cons hmode type plaintext requests random
      · simp only [houtputs] at hi ⊢
        exact ih hmode rest i hi
      · simp only [houtputs] at hi ⊢
        have hlt := UInt64.lt_iff_toNat_lt.mp hnumber
        cases i with
        | zero => exact ⟨(after_zero mode).symm, hlt⟩
        | succ i =>
            obtain ⟨hplace, hrest⟩ := @ih (mode.after 1) hmode rest i (Nat.lt_of_succ_lt_succ hi)
            have hafter : (mode.after 1).auth.sequence.number.toNat
                = mode.auth.sequence.number.toNat + 1 := Authenticator.toNat_number_after hlt
            have hlimit : (mode.after 1).auth.maxNumber = mode.auth.maxNumber := rfl
            rw [hafter, hlimit] at hrest
            refine ⟨?_, by omega⟩
            rw [List.getElem_cons_succ, hplace, after_after, Nat.add_comm]

theorem request_of_mem_outputs {requests : List (ContentType × Bytes)} {random : RandomSource}
    {output : Output} (houtput : output ∈ mode.outputs requests random) :
    (output.type, output.plaintext) ∈ requests := by
  induction requests generalizing mode random with
  | nil => cases houtput
  | cons request requests ih =>
      obtain ⟨type, plaintext⟩ := request
      obtain ⟨rest, houtputs⟩ | ⟨record, rest, -, -, houtputs⟩ :=
        outputs_cons hmode type plaintext requests random
      · rw [houtputs] at houtput
        exact List.mem_cons_of_mem _ (ih hmode houtput)
      · rw [houtputs] at houtput
        rcases List.mem_cons.mp houtput with rfl | hlater
        · exact List.mem_cons_self
        · exact List.mem_cons_of_mem _ (@ih (mode.after 1) hmode rest hlater)

theorem transform_of_mem_outputs {requests : List (ContentType × Bytes)} {random : RandomSource}
    {output : Output} (houtput : output ∈ mode.outputs requests random) :
    output.mode.transform = mode.transform := by
  obtain ⟨i, hi, rfl⟩ := List.getElem_of_mem houtput
  rw [(mode_getElem_outputs hmode requests random i hi).1]
  rfl

/-- What tells the places of an epoch apart tells the records apart. -/
theorem nodup_map_outputs {α : Type} (f : Authenticator → α)
    (requests : List (ContentType × Bytes)) (random : RandomSource)
    (hf : ∀ i j, i < j → j < (mode.outputs requests random).length →
      mode.auth.sequence.number.toNat + j < mode.auth.maxNumber.toNat →
      f (mode.auth.after i) ≠ f (mode.auth.after j)) :
    ((mode.outputs requests random).map fun output => f output.mode.auth).Nodup := by
  rw [List.Nodup, List.pairwise_map, List.pairwise_iff_getElem]
  intro i j hi hj hlt
  obtain ⟨hmodeI, -⟩ := mode_getElem_outputs hmode requests random i hi
  obtain ⟨hmodeJ, hlimit⟩ := mode_getElem_outputs hmode requests random j hj
  rw [hmodeI, hmodeJ]
  exact hf i j hlt hj hlimit

theorem valid_of_mem_outputs {requests : List (ContentType × Bytes)} {random : RandomSource}
    {output : Output} (houtput : output ∈ mode.outputs requests random) : output.Valid := by
  induction requests generalizing mode random with
  | nil => cases houtput
  | cons request requests ih =>
      obtain ⟨type, plaintext⟩ := request
      obtain ⟨rest, houtputs⟩ | ⟨record, rest, -, hrecord, houtputs⟩ :=
        outputs_cons hmode type plaintext requests random
      · rw [houtputs] at houtput
        exact ih hmode houtput
      · rw [houtputs] at houtput
        rcases List.mem_cons.mp houtput with rfl | hlater
        · exact ⟨random, hrecord⟩
        · exact @ih (mode.after 1) hmode rest hlater

end Outputs

end CipherMode

end RecordProtection
