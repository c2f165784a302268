import RecordProtection.Aead.Basic
import RecordProtection.Authenticator
import RecordProtection.Nonce

/-!
Records under authenticated encryption: the sent part of the nonce, the ciphertext and the tag.
-/

namespace RecordProtection

structure AeadMode where
  aead : Aead
  layout : NonceLayout

namespace AeadMode

/-- The additional data of an outgoing record counts the whole record. -/
def encrypt (mode : AeadMode) (auth : Authenticator) (type : ContentType) (plaintext : Bytes) :
    Except RecordError Bytes :=
  let (nonce, sent) := mode.layout.sending auth.sequenceBlock
  let recordLength := sent.length + plaintext.length + mode.aead.tagLength
  let data := auth.additionalData type plaintext.length recordLength
  if plaintext.length > mode.aead.maxLength then
    .error (.unsupportedOperation "AEAD seal")
  else
    let (ciphertext, tag) := mode.aead.encrypt nonce data plaintext
    .ok (sent ++ ciphertext ++ tag)

/-- The additional data of an incoming record counts what follows the sent part of the nonce. -/
def decrypt (mode : AeadMode) (auth : Authenticator) (type : ContentType) (record : Bytes) :
    Except RecordError Bytes := do
  let (nonce, body) ← mode.layout.receiving auth.sequenceBlock record
  if body.length < mode.aead.tagLength then
    throw (.recordTooShort record.length)
  let length := body.length - mode.aead.tagLength
  let data := auth.additionalData type length body.length
  if length > mode.aead.maxLength then
    throw .badRecordMac
  match mode.aead.decrypt nonce data (body.take length) (body.drop length) with
  | some plaintext => return plaintext
  | none => throw .badRecordMac

end AeadMode

end RecordProtection
