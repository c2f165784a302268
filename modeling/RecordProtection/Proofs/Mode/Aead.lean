import RecordProtection.Mode.Aead
import RecordProtection.Proofs.Aead
import RecordProtection.Proofs.Digest
import RecordProtection.Proofs.Nonce

/-!
# Records under authenticated encryption

The header of an outgoing record counts the sent bytes of the nonce, the header of an incoming one
does not.  From version 1.3 on these lengths are part of the additional data, so a record with
sent bytes is read back only if its tags under both headers happen to be the same.
-/

namespace RecordProtection

namespace AeadMode

structure Lawful (mode : AeadMode) : Prop where
  aead : mode.aead.Lawful mode.layout.nonceLength
  layout : mode.layout.Lawful

/-- The tag of a plaintext under a header that counts a record of a given length. -/
def tagCounting (mode : AeadMode) (auth : Authenticator) (type : ContentType) (plaintext : Bytes)
    (recordLength : Nat) : Bytes :=
  (mode.aead.encrypt (mode.layout.sending auth.sequenceBlock).1
    (auth.additionalData type plaintext.length recordLength) plaintext).2

/-- The tag that the sender makes is the one that the receiver expects. -/
def TagsAgree (mode : AeadMode) (auth : Authenticator) (type : ContentType) (plaintext : Bytes) :
    Prop :=
  mode.tagCounting auth type plaintext
      (mode.layout.sentLength + plaintext.length + mode.aead.tagLength)
    = mode.tagCounting auth type plaintext (plaintext.length + mode.aead.tagLength)

/-- Before version 1.3, and where nothing is sent, both headers are the same. -/
theorem tagsAgree_of_same_header {mode : AeadMode} {auth : Authenticator}
    (h : auth.version.is13 = false ∨ mode.layout.sentLength = 0) (type : ContentType)
    (plaintext : Bytes) : mode.TagsAgree auth type plaintext := by
  unfold TagsAgree tagCounting
  rcases h with hversion | hsent
  · simp [Authenticator.additionalData, hversion]
  · rw [hsent, Nat.zero_add]

theorem encrypt_eq_ok_iff {mode : AeadMode} {auth : Authenticator} {type : ContentType}
    {plaintext record : Bytes} (hmode : mode.Lawful) :
    mode.encrypt auth type plaintext = .ok record
      ↔ plaintext.length ≤ mode.aead.maxLength
        ∧ record = (mode.layout.sending auth.sequenceBlock).2
          ++ ((mode.aead.encrypt (mode.layout.sending auth.sequenceBlock).1
              (auth.additionalData type plaintext.length
                (mode.layout.sentLength + plaintext.length + mode.aead.tagLength))
              plaintext).1
            ++ mode.tagCounting auth type plaintext
              (mode.layout.sentLength + plaintext.length + mode.aead.tagLength)) := by
  have hsent := NonceLayout.length_sent hmode.layout auth.length_sequenceBlock
  simp only [encrypt, hsent, tagCounting]
  split
  · rename_i hlong
    simp
    omega
  · rename_i hshort
    simp only [Except.ok.injEq, List.append_assoc]
    constructor
    · rintro rfl
      exact ⟨Nat.not_lt.mp hshort, rfl⟩
    · rintro ⟨-, rfl⟩
      rfl

theorem decrypt_of_receiving {mode : AeadMode} {auth : Authenticator} {type : ContentType}
    {record nonce ciphertext tag : Bytes}
    (hreceiving : mode.layout.receiving auth.sequenceBlock record
      = .ok (nonce, ciphertext ++ tag))
    (htag : tag.length = mode.aead.tagLength) (hshort : ciphertext.length ≤ mode.aead.maxLength) :
    mode.decrypt auth type record
      = match mode.aead.decrypt nonce (auth.additionalData type ciphertext.length
          (ciphertext.length + mode.aead.tagLength)) ciphertext tag with
        | some plaintext => .ok plaintext
        | none => .error .badRecordMac := by
  have htagged : ¬ ciphertext.length + mode.aead.tagLength < mode.aead.tagLength := by
    omega
  simp only [decrypt, hreceiving, bind, Except.bind, if_neg htagged, List.length_append, htag,
    Nat.add_sub_cancel, List.take_left, List.drop_left, if_neg (Nat.not_lt.mpr hshort), pure,
    Except.pure]
  rfl

/-- A protected record is read back exactly if its tags under both headers agree. -/
theorem decrypt_encrypt_iff {mode : AeadMode} (hmode : mode.Lawful) {auth : Authenticator}
    {type : ContentType} {plaintext record : Bytes}
    (hrecord : mode.encrypt auth type plaintext = .ok record) :
    mode.decrypt auth type record = .ok plaintext ↔ mode.TagsAgree auth type plaintext := by
  have hblock := auth.length_sequenceBlock
  have hnonce := NonceLayout.length_nonce_sending hmode.layout hblock
  obtain ⟨hshort, rfl⟩ := (encrypt_eq_ok_iff hmode).mp hrecord
  have hciphertext := hmode.aead.length_ciphertext _ (auth.additionalData type plaintext.length
    (mode.layout.sentLength + plaintext.length + mode.aead.tagLength)) plaintext hnonce
  have htag : (mode.tagCounting auth type plaintext (mode.layout.sentLength + plaintext.length
      + mode.aead.tagLength)).length = mode.aead.tagLength :=
    hmode.aead.length_tag _ _ plaintext hnonce
  rw [decrypt_of_receiving (NonceLayout.receiving_sending hmode.layout hblock _)
    htag (by omega), hciphertext]
  have hopen := hmode.aead.decrypt_encrypt_iff hnonce (auth.additionalData type plaintext.length
    (mode.layout.sentLength + plaintext.length + mode.aead.tagLength))
    (auth.additionalData type plaintext.length (plaintext.length + mode.aead.tagLength)) plaintext
  refine Iff.trans ?_ hopen
  rw [tagCounting]
  split
  · rename_i opened hopened
    rw [hopened, Except.ok.injEq, Option.some_inj]
  · rename_i hopened
    simp [hopened]

end AeadMode

end RecordProtection
