import RecordProtection.Authenticator
import RecordProtection.Nonce
import RecordProtection.Proofs.Bytes

/-!
# Nonces of both ends

At the same place of a direction, the receiver makes the nonce of the sender from its IV and the
bytes in front of the record.
-/

namespace RecordProtection

@[simp]
theorem Authenticator.length_sequenceBlock (auth : Authenticator) :
    auth.sequenceBlock.length = sequenceBlockLength := by
  unfold sequenceBlock
  split <;> simp [sequenceBlockLength]

theorem length_maskIV {iv block : Bytes} (hiv : sequenceBlockLength ≤ iv.length)
    (hblock : block.length = sequenceBlockLength) : (maskIV iv block).length = iv.length := by
  simp only [maskIV, List.length_append, List.length_take, Bytes.length_xor, List.length_drop,
    hblock]
  omega

namespace NonceLayout

/-- No more is sent than the sequence block, and a masked IV covers it. -/
def Lawful : NonceLayout → Prop
  | explicit _ sentLength => sentLength ≤ sequenceBlockLength
  | masked iv => sequenceBlockLength ≤ iv.length

def sentLength : NonceLayout → Nat
  | explicit _ sentLength => sentLength
  | masked _ => 0

theorem Lawful.sentLength_le {layout : NonceLayout} (hlayout : layout.Lawful) :
    layout.sentLength ≤ sequenceBlockLength := by
  cases layout with
  | explicit fixed sentLength => exact hlayout
  | masked iv => exact Nat.zero_le _

theorem lawful_of_ofIV {iv : Bytes} {sentLength : Nat} {layout : NonceLayout}
    (h : ofIV iv sentLength = .ok layout) : layout.Lawful := by
  unfold ofIV at h
  split at h
  · cases h
  · split at h
    · cases h
    · split at h
      · cases h
        exact Nat.not_lt.mp ‹¬ sentLength > sequenceBlockLength›
      · split at h
        · cases h
        · cases h
          exact Nat.not_lt.mp ‹¬ iv.length < sequenceBlockLength›

theorem sentLength_of_ofIV {iv : Bytes} {sentLength : Nat} {layout : NonceLayout}
    (h : ofIV iv sentLength = .ok layout) : layout.sentLength = sentLength := by
  unfold ofIV at h
  split at h
  · cases h
  · split at h
    · cases h
    · split at h
      · cases h
        rfl
      · split at h
        · cases h
        · cases h
          exact (Nat.eq_zero_of_not_pos ‹¬ sentLength > 0›).symm

/-- The nonce that the bytes in front of a record tell. -/
def nonceOf (layout : NonceLayout) (sequenceBlock sent : Bytes) : Bytes :=
  match layout with
  | explicit fixed _ => fixed ++ sent
  | masked iv => maskIV iv sequenceBlock

theorem nonceOf_sending (layout : NonceLayout) (block : Bytes) :
    layout.nonceOf block (layout.sending block).2 = (layout.sending block).1 := by
  cases layout <;> rfl

theorem receiving_append (layout : NonceLayout) (block : Bytes) {sent : Bytes}
    (hsent : sent.length = layout.sentLength) (body : Bytes) :
    layout.receiving block (sent ++ body) = .ok (layout.nonceOf block sent, body) := by
  cases layout with
  | explicit fixed sentLength =>
      simp only [NonceLayout.sentLength] at hsent
      have hlong : ¬ (sent ++ body).length < sentLength := by
        rw [List.length_append, hsent]
        exact Nat.not_lt.mpr (Nat.le_add_right _ _)
      rw [receiving, if_neg hlong, List.take_left' hsent, List.drop_left' hsent]
      rfl
  | masked iv =>
      rw [List.eq_nil_of_length_eq_zero hsent]
      rfl

/-- A receiver cuts the sent bytes off a record and makes the nonce from them. -/
theorem receiving_eq_ok_iff {layout : NonceLayout} {block record nonce body : Bytes} :
    layout.receiving block record = .ok (nonce, body)
      ↔ ∃ sent, sent.length = layout.sentLength ∧ record = sent ++ body
        ∧ nonce = layout.nonceOf block sent := by
  constructor
  · intro h
    cases layout with
    | explicit fixed sentLength =>
        simp only [receiving] at h
        split at h
        · cases h
        · rename_i hlong
          cases h
          exact ⟨_, List.length_take_of_le (Nat.not_lt.mp hlong), (List.take_append_drop ..).symm,
            rfl⟩
    | masked iv =>
        cases h
        exact ⟨[], rfl, rfl, rfl⟩
  · rintro ⟨sent, hsent, rfl, rfl⟩
    exact layout.receiving_append block hsent body

/-- The sent bytes are the low bytes of the sequence block. -/
theorem sent_eq_drop (layout : NonceLayout) {block : Bytes}
    (hblock : block.length = sequenceBlockLength) :
    (layout.sending block).2 = block.drop (sequenceBlockLength - layout.sentLength) := by
  cases layout with
  | explicit fixed sentLength => rfl
  | masked iv =>
      rw [sentLength, Nat.sub_zero, ← hblock, List.drop_length]
      rfl

section Lawful

variable {layout : NonceLayout} (hlayout : layout.Lawful) {block : Bytes}
  (hblock : block.length = sequenceBlockLength)
include hlayout hblock

theorem length_sent : (layout.sending block).2.length = layout.sentLength := by
  have hfits := hlayout.sentLength_le
  rw [sent_eq_drop layout hblock, List.length_drop, hblock]
  omega

theorem length_nonceOf {sent : Bytes} (hsent : sent.length = layout.sentLength) :
    (layout.nonceOf block sent).length = layout.nonceLength := by
  cases layout with
  | explicit fixed sentLength =>
      rw [nonceOf, List.length_append, hsent]
      rfl
  | masked iv => exact length_maskIV hlayout hblock

theorem length_nonce_sending : (layout.sending block).1.length = layout.nonceLength := by
  rw [← nonceOf_sending]
  exact length_nonceOf hlayout hblock (length_sent hlayout hblock)

/-- The receiver finds the nonce and the body behind the sent bytes. -/
theorem receiving_sending (body : Bytes) :
    layout.receiving block ((layout.sending block).2 ++ body)
      = .ok ((layout.sending block).1, body) := by
  rw [receiving_append layout block (length_sent hlayout hblock), nonceOf_sending]

/-- A received nonce is as long as a sent one, and the body is what is left of the record. -/
theorem length_of_receiving {record nonce body : Bytes}
    (hreceiving : layout.receiving block record = .ok (nonce, body)) :
    nonce.length = layout.nonceLength ∧ body.length ≤ record.length := by
  obtain ⟨sent, hsent, rfl, rfl⟩ := receiving_eq_ok_iff.mp hreceiving
  refine ⟨length_nonceOf hlayout hblock hsent, ?_⟩
  rw [List.length_append]
  exact Nat.le_add_left _ _

end Lawful

end NonceLayout

end RecordProtection
