import RecordProtection.Proofs.Bounds.Authenticator
import RecordProtection.Proofs.Mode.Aead

/-!
# Records under authenticated encryption within bounds

The tag is cut off the end of what the peer sent, behind a part of the nonce that is cut off its
front, and both are handed on as buffers of fixed lengths.  The framing is the same for every AEAD;
what it needs from one is collected in `GuardedAead.Refines`.
-/

namespace RecordProtection

open Guarded

/-- An AEAD that may fault, with errors of its own for what it refuses. -/
structure GuardedAead where
  tagLength : Nat
  encrypt : (nonce additionalData plaintext : Bytes) →
    Guarded (Except RecordError (Bytes × Bytes))
  decrypt : (nonce additionalData ciphertext tag : Bytes) → Guarded (Except RecordError Bytes)

namespace GuardedAead

/-- On records, a guarded AEAD does the same as one on lists, and does not fault. -/
structure Refines (guarded : GuardedAead) (aead : Aead) (nonceLength : Nat) : Prop where
  tagLength_eq : guarded.tagLength = aead.tagLength
  tagLength_le : aead.tagLength ≤ 16
  lt_maxLength : lengthFieldBound ≤ aead.maxLength
  encrypt_eq_ok : ∀ nonce data plaintext, nonce.length = nonceLength →
    data.length < lengthFieldBound → plaintext.length < lengthFieldBound →
    guarded.encrypt nonce data plaintext = .ok (.ok (aead.encrypt nonce data plaintext))
  decrypt_eq_ok : ∀ nonce data ciphertext tag, nonce.length = nonceLength →
    data.length < lengthFieldBound → ciphertext.length < lengthFieldBound →
    tag.length = aead.tagLength →
    guarded.decrypt nonce data ciphertext tag
      = .ok (match aead.decrypt nonce data ciphertext tag with
        | some plaintext => .ok plaintext
        | none => .error .badRecordMac)

variable (guarded : GuardedAead) (layout : NonceLayout) (auth : Authenticator) (type : ContentType)

/-- The payload is encrypted in place behind what is sent of the nonce. -/
def protect (plaintext : Bytes) : Guarded (Except RecordError Bytes) := do
  let (nonce, sent) ← layout.guardedSending (← auth.guardedSequenceBlock)
  let recordLength ← add (← add sent.length plaintext.length) guarded.tagLength
  let data ← auth.guardedAdditionalData type plaintext.length recordLength
  let (sent, payload) ← Buffer.splitAt (sent ++ plaintext) sent.length
  match ← guarded.encrypt nonce data payload with
  | .ok (ciphertext, tag) => return .ok (sent ++ ciphertext ++ tag)
  | .error e => return .error e

def unprotect (record : Bytes) : Guarded (Except RecordError Bytes) := do
  match ← layout.guardedReceiving (← auth.guardedSequenceBlock) record with
  | .error e => return .error e
  | .ok (nonce, body) =>
      if body.length < guarded.tagLength then return .error (.recordTooShort record.length)
      else
        let length ← sub body.length guarded.tagLength
        let (ciphertext, tag) ← Buffer.splitAt body length
        let data ← auth.guardedAdditionalData type length body.length
        guarded.decrypt nonce data ciphertext tag

/-! ### Framing -/

theorem length_additionalData_lt (plaintextLength ciphertextLength : Nat) :
    (auth.additionalData type plaintextLength ciphertextLength).length < lengthFieldBound := by
  unfold Authenticator.additionalData
  split
  · simp [ProtocolVersion.recordVersionBytes, lengthFieldBound]
  · rw [Authenticator.length_pseudoHeader]
    decide

variable {guarded layout} {aead : Aead} (hguarded : guarded.Refines aead layout.nonceLength)
  (hlayout : layout.Lawful) (hroom : layout.nonceLength ≤ maxNonceLength)
include hguarded hlayout hroom

theorem protect_eq_ok {plaintext : Bytes} (hplaintext : plaintext.length + 24 < lengthFieldBound) :
    guarded.protect layout auth type plaintext
      = .ok (AeadMode.encrypt ⟨aead, layout⟩ auth type plaintext) := by
  have hblock := auth.length_sequenceBlock
  have hsentLength := NonceLayout.length_sent hlayout hblock
  have hsent := hlayout.sentLength_le
  have htag := hguarded.tagLength_le
  have hnonce := NonceLayout.length_nonce_sending hlayout hblock
  have hlengths : (layout.sending auth.sequenceBlock).2.length + plaintext.length
      + aead.tagLength < lengthFieldBound := by
    simp only [sequenceBlockLength] at hsent
    omega
  have hword : lengthFieldBound < lengthBound := by decide
  have hfirst : (layout.sending auth.sequenceBlock).2.length + plaintext.length < lengthBound := by
    omega
  have hencrypt := hguarded.encrypt_eq_ok (layout.sending auth.sequenceBlock).1
    (auth.additionalData type plaintext.length _) plaintext hnonce
    (length_additionalData_lt auth type plaintext.length
      ((layout.sending auth.sequenceBlock).2.length + plaintext.length + aead.tagLength))
    (by omega)
  have hshort : ¬ plaintext.length > aead.maxLength := by
    have hmax := hguarded.lt_maxLength
    omega
  simp only [protect, auth.guardedSequenceBlock_eq_ok,
    NonceLayout.guardedSending_eq_ok hlayout hroom hblock, hguarded.tagLength_eq, ok_bind,
    add_eq_ok hfirst, add_eq_ok (hlengths.trans hword),
    auth.guardedAdditionalData_eq_ok type (show plaintext.length < lengthFieldBound by omega)
      hlengths, Buffer.splitAt_append rfl, hencrypt, pure_eq_ok, AeadMode.encrypt, if_neg hshort]

theorem unprotect_eq_ok {record : Bytes} (hrecord : record.length < lengthFieldBound) :
    guarded.unprotect layout auth type record
      = .ok (AeadMode.decrypt ⟨aead, layout⟩ auth type record) := by
  have hblock := auth.length_sequenceBlock
  simp only [unprotect, auth.guardedSequenceBlock_eq_ok, ok_bind,
    NonceLayout.guardedReceiving_eq_ok hlayout hroom hblock]
  cases hreceiving : layout.receiving auth.sequenceBlock record with
  | error e =>
      simp only [AeadMode.decrypt, hreceiving, bind, Except.bind, pure_eq_ok]
  | ok parts =>
      obtain ⟨nonce, body⟩ := parts
      obtain ⟨hnonce, hbody⟩ := NonceLayout.length_of_receiving hlayout hblock hreceiving
      by_cases hshort : body.length < aead.tagLength
      · simp only [AeadMode.decrypt, hreceiving, hguarded.tagLength_eq, if_pos hshort, bind,
          Except.bind, throw, throwThe, MonadExceptOf.throw, pure_eq_ok]
      · obtain ⟨ciphertext, tag, rfl, htag⟩ := Bytes.exists_append (Nat.not_lt.mp hshort)
        rw [List.length_append, htag] at hbody hshort
        have hmax := hguarded.lt_maxLength
        have hfits : ciphertext.length ≤ aead.maxLength := by
          omega
        have hmode := @AeadMode.decrypt_of_receiving ⟨aead, layout⟩ auth type record nonce _ _
          hreceiving htag hfits
        have hdecrypt := hguarded.decrypt_eq_ok nonce (auth.additionalData type ciphertext.length
          (ciphertext.length + aead.tagLength)) ciphertext tag hnonce
          (length_additionalData_lt auth type _ _) (by omega) htag
        have hdata := auth.guardedAdditionalData_eq_ok type
          (show ciphertext.length < lengthFieldBound by omega)
          (show ciphertext.length + aead.tagLength < lengthFieldBound by omega)
        cases hopen : aead.decrypt nonce (auth.additionalData type ciphertext.length
            (ciphertext.length + aead.tagLength)) ciphertext tag <;>
          simp only [hopen] at hdecrypt hmode <;>
          simp only [hguarded.tagLength_eq, List.length_append, htag, if_neg hshort,
            sub_eq_ok (Nat.le_add_left _ _), Nat.add_sub_cancel, Buffer.splitAt_append rfl, hdata,
            hdecrypt, hmode, ok_bind]

end GuardedAead

/-! ### Counter modes with a tag -/

/-- The nonce has twelve bytes, and both it and a received tag are taken as they are. -/
def GuardedAead.ofTagged (aead : Aead) : GuardedAead where
  tagLength := aead.tagLength
  encrypt nonce data plaintext := do
    let nonce ← Buffer.copy (Bytes.zeros 12) nonce
    if plaintext.length > aead.maxLength then return .error (.unsupportedOperation "AEAD seal")
    else return .ok (aead.encrypt nonce data plaintext)
  decrypt nonce data ciphertext tag := do
    let nonce ← Buffer.copy (Bytes.zeros 12) nonce
    let tag ← Buffer.copy (Bytes.zeros aead.tagLength) tag
    if ciphertext.length > aead.maxLength then return .error .badRecordMac
    else match aead.decrypt nonce data ciphertext tag with
      | some plaintext => return .ok plaintext
      | none => return .error .badRecordMac

theorem GuardedAead.refines_ofTagged (kind : ModeKind) (cipher : BlockCipher) :
    (ofTagged (kind.taggedAead cipher)).Refines (kind.taggedAead cipher) 12 := by
  have hmax : lengthFieldBound ≤ (kind.taggedAead cipher).maxLength := by
    unfold ModeKind.taggedAead
    split
    · exact show 2 ^ 16 ≤ 1 <<< 36 by decide
    · exact show 2 ^ 16 ≤ 0xffffff by decide
    · exact show 2 ^ 16 ≤ 0xffffff by decide
  refine ⟨rfl, CipherMode.tagLength_taggedAead_le kind cipher, hmax, ?_, ?_⟩
  · intro nonce data plaintext hnonce _ hplaintext
    have hcopy : (Bytes.zeros 12).length = nonce.length := by
      rw [hnonce, Bytes.length_zeros]
    simp only [ofTagged, Buffer.copy_eq_ok hcopy, ok_bind, pure_eq_ok,
      if_neg (show ¬ plaintext.length > (kind.taggedAead cipher).maxLength by omega)]
  · intro nonce data ciphertext tag hnonce _ hciphertext htag
    have hcopy : (Bytes.zeros 12).length = nonce.length := by
      rw [hnonce, Bytes.length_zeros]
    have hcopyTag : (Bytes.zeros (kind.taggedAead cipher).tagLength).length = tag.length := by
      rw [htag, Bytes.length_zeros]
    simp only [ofTagged, Buffer.copy_eq_ok hcopy, Buffer.copy_eq_ok hcopyTag, ok_bind, pure_eq_ok,
      if_neg (show ¬ ciphertext.length > (kind.taggedAead cipher).maxLength by omega)]
    split <;> rfl

end RecordProtection
