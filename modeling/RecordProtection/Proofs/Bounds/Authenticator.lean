import RecordProtection.Proofs.Bounds.Buffer
import RecordProtection.Proofs.Digest
import RecordProtection.Proofs.Nonce
import RecordProtection.Proofs.Overhead

/-!
# Headers, MACs and nonces within bounds

The sequence block, the header of a record and its nonce are filled into buffers of fixed lengths,
and MACs are cut off the end of decrypted bytes.  Nothing here leaves its bounds as long as the
length field of a header can hold the length of the record and the nonce fits into its buffer.
-/

namespace RecordProtection

open Guarded

/-! ### Headers -/

/-- Headers write lengths in two bytes. -/
def lengthFieldBound : Nat := 2 ^ 16

def lengthField (length : Nat) : Guarded Bytes := do
  return Bytes.ofNatBE 2 (← fit lengthFieldBound length)

theorem lengthField_eq_ok {length : Nat} (h : length < lengthFieldBound) :
    lengthField length = .ok (Bytes.ofNatBE 2 length) := by
  simp only [lengthField, fit_eq_ok h, ok_bind, pure_eq_ok]

namespace Authenticator

def guardedSequenceBlock (auth : Authenticator) : Guarded Bytes :=
  let block := bytes64 auth.sequence.number
  if auth.version.isDatagram then Buffer.overwrite block 0 2 (bytes16 auth.sequence.epoch)
  else .ok block

def headerLength : Nat := 13

def headerLength13 : Nat := 5

def guardedPseudoHeader (auth : Authenticator) (type : ContentType) (length : Nat) :
    Guarded Bytes := do
  let header ← Buffer.overwrite (Bytes.zeros headerLength) 0 8 (← auth.guardedSequenceBlock)
  let header ← Buffer.set header 8 type.code
  let header ← Buffer.overwrite header 9 11 auth.version.recordVersionBytes
  Buffer.overwrite header 11 headerLength (← lengthField length)

/-- Both kinds of header are cut out of a buffer that has room for the longer one. -/
def guardedAdditionalData (auth : Authenticator) (type : ContentType)
    (plaintextLength ciphertextLength : Nat) : Guarded Bytes :=
  if auth.version.is13 then do
    let bytes ← Buffer.set (Bytes.zeros headerLength) 0 ContentType.applicationData.code
    let bytes ← Buffer.overwrite bytes 1 3 auth.version.recordVersionBytes
    let bytes ← Buffer.overwrite bytes 3 5 (← lengthField ciphertextLength)
    Buffer.slice bytes 0 headerLength13
  else do
    let bytes ← auth.guardedPseudoHeader type plaintextLength
    Buffer.slice bytes 0 headerLength

variable (auth : Authenticator) (type : ContentType)

theorem guardedSequenceBlock_eq_ok : auth.guardedSequenceBlock = .ok auth.sequenceBlock := by
  unfold guardedSequenceBlock sequenceBlock
  split
  · exact Buffer.overwrite_eq_ok (by simp) rfl
  · rfl

theorem guardedPseudoHeader_eq_ok {length : Nat} (hlength : length < lengthFieldBound) :
    auth.guardedPseudoHeader type length = .ok (auth.pseudoHeader type length) := by
  have hblock : auth.sequenceBlock.length = 8 := auth.length_sequenceBlock
  have hplace : Buffer.overwrite (Bytes.zeros headerLength) 0 8 auth.sequenceBlock
      = .ok (auth.sequenceBlock ++ Bytes.zeros 5) := by
    rw [Buffer.overwrite_zeros_front hblock.symm (by rw [hblock]; decide), hblock]
    rfl
  have htype : Buffer.set (auth.sequenceBlock ++ Bytes.zeros 5) 8 type.code
      = .ok (auth.sequenceBlock ++ [type.code] ++ Bytes.zeros 4) :=
    Buffer.set_zeros hblock.symm (by decide) _
  have hversion : Buffer.overwrite (auth.sequenceBlock ++ [type.code] ++ Bytes.zeros 4) 9 11
      auth.version.recordVersionBytes = .ok (auth.sequenceBlock ++ [type.code]
        ++ auth.version.recordVersionBytes ++ Bytes.zeros 2) :=
    Buffer.overwrite_zeros (by simp [hblock]) rfl (by simp [ProtocolVersion.recordVersionBytes])
  have hfield : Buffer.overwrite (auth.sequenceBlock ++ [type.code]
      ++ auth.version.recordVersionBytes ++ Bytes.zeros 2) 11 headerLength
      (Bytes.ofNatBE 2 length) = .ok (auth.sequenceBlock ++ [type.code]
        ++ auth.version.recordVersionBytes ++ Bytes.ofNatBE 2 length ++ Bytes.zeros 0) :=
    Buffer.overwrite_zeros (by simp [hblock, ProtocolVersion.recordVersionBytes]) rfl (by simp)
  simp only [guardedPseudoHeader, guardedSequenceBlock_eq_ok, lengthField_eq_ok hlength, ok_bind,
    hplace, htype, hversion, hfield]
  simp [pseudoHeader, Bytes.zeros]

theorem length_pseudoHeader (length : Nat) :
    (auth.pseudoHeader type length).length = headerLength := by
  simp [pseudoHeader, sequenceBlockLength, ProtocolVersion.recordVersionBytes, headerLength]

theorem guardedAdditionalData_eq_ok {plaintextLength ciphertextLength : Nat}
    (hplaintext : plaintextLength < lengthFieldBound)
    (hciphertext : ciphertextLength < lengthFieldBound) :
    auth.guardedAdditionalData type plaintextLength ciphertextLength
      = .ok (auth.additionalData type plaintextLength ciphertextLength) := by
  unfold guardedAdditionalData additionalData
  split
  · have htype : Buffer.set (Bytes.zeros headerLength) 0 ContentType.applicationData.code
        = .ok ([ContentType.applicationData.code] ++ Bytes.zeros 12) := rfl
    have hversion : Buffer.overwrite ([ContentType.applicationData.code] ++ Bytes.zeros 12) 1 3
        auth.version.recordVersionBytes = .ok ([ContentType.applicationData.code]
          ++ auth.version.recordVersionBytes ++ Bytes.zeros 10) :=
      Buffer.overwrite_zeros rfl rfl (by simp [ProtocolVersion.recordVersionBytes])
    have hfield : Buffer.overwrite ([ContentType.applicationData.code]
        ++ auth.version.recordVersionBytes ++ Bytes.zeros 10) 3 5
        (Bytes.ofNatBE 2 ciphertextLength) = .ok ([ContentType.applicationData.code]
          ++ auth.version.recordVersionBytes ++ Bytes.ofNatBE 2 ciphertextLength
          ++ Bytes.zeros 8) :=
      Buffer.overwrite_zeros rfl rfl (by simp)
    simp only [htype, hversion, hfield, lengthField_eq_ok hciphertext, ok_bind]
    rw [Buffer.slice_front (by simp [headerLength13, ProtocolVersion.recordVersionBytes])]
    rfl
  · have hheader := auth.length_pseudoHeader type plaintextLength
    simp only [auth.guardedPseudoHeader_eq_ok type hplaintext, ok_bind]
    rw [← hheader, Buffer.slice_front (Nat.le_refl _), List.take_length]

/-! ### MACs -/

def guardedComputeMac (auth : Authenticator) (type : ContentType) (fragment : Bytes) :
    Guarded Bytes :=
  match auth.mac with
  | some mac => do
      let header ← auth.guardedPseudoHeader type fragment.length
      return hmac mac.hash mac.key (header ++ fragment)
  | none => return []

def guardedCheckTrailingMac (auth : Authenticator) (type : ContentType) (record : Bytes) :
    Guarded (Except RecordError Nat) :=
  if record.length < auth.macLength then return .error .badRecordMac
  else do
    let contentLength ← sub record.length auth.macLength
    match auth.mac with
    | none => return .ok contentLength
    | some mac =>
        let (content, received) ← Buffer.splitAt record contentLength
        let header ← auth.guardedPseudoHeader type content.length
        return (verifyHmac mac.hash mac.key (header ++ content) received).map fun _ => contentLength

/-- Where the MAC does not fit, a MAC of nothing is compared with what there is. -/
def guardedCheckPaddedMac (auth : Authenticator) (type : ContentType) (decrypted : Bytes)
    (contentLength : Nat) (paddingValid : Bool) : Guarded (Except RecordError Unit) := do
  let stop ← add contentLength auth.macLength
  let fits := decide (stop ≤ decrypted.length)
  let (content, received) ←
    if fits then do
      pure (← Buffer.slice decrypted 0 contentLength, ← Buffer.slice decrypted contentLength stop)
    else do
      pure (← Buffer.slice decrypted 0 0,
        ← Buffer.slice decrypted 0 (min auth.macLength decrypted.length))
  let expected ← auth.guardedComputeMac type content
  let macValid := expected.length == received.length && expected == received
  if paddingValid && macValid && fits then return .ok ()
  else if !paddingValid then return .error .badPadding
  else return .error .badRecordMac

theorem guardedComputeMac_eq_ok {fragment : Bytes}
    (hfragment : fragment.length < lengthFieldBound) :
    auth.guardedComputeMac type fragment = .ok (auth.computeMac type fragment) := by
  cases hmac : auth.mac with
  | none => simp only [guardedComputeMac, computeMac, hmac, pure_eq_ok]
  | some mac =>
      simp only [guardedComputeMac, computeMac, hmac, pure_eq_ok, ok_bind,
        auth.guardedPseudoHeader_eq_ok type hfragment]

theorem guardedCheckTrailingMac_eq_ok {record : Bytes}
    (hrecord : record.length < lengthFieldBound) :
    auth.guardedCheckTrailingMac type record = .ok (auth.checkTrailingMac type record) := by
  unfold guardedCheckTrailingMac checkTrailingMac
  split
  · rfl
  · rename_i hroom
    have hcontent : (record.take (record.length - auth.macLength)).length < lengthFieldBound := by
      rw [List.length_take]
      omega
    simp only [sub_eq_ok (Nat.not_lt.mp hroom), ok_bind]
    cases hmac : auth.mac with
    | none => simp [macLength, computeMac, hmac]
    | some mac =>
        simp only [Buffer.splitAt_eq_ok (Nat.sub_le _ _), ok_bind, pure_eq_ok,
          auth.guardedPseudoHeader_eq_ok type hcontent, computeMac, hmac, verifyHmac]
        split <;> rfl

theorem le_of_checkTrailingMac {auth : Authenticator} {type : ContentType} {record : Bytes}
    {contentLength : Nat} (hmac : auth.checkTrailingMac type record = .ok contentLength) :
    contentLength ≤ record.length := by
  simp only [checkTrailingMac] at hmac
  split at hmac
  · cases hmac
  · split at hmac <;> cases hmac
    exact Nat.sub_le _ _

theorem guardedCheckPaddedMac_eq_ok {decrypted : Bytes} {contentLength : Nat}
    (hdecrypted : decrypted.length < lengthFieldBound) (hcontent : contentLength ≤ decrypted.length)
    (paddingValid : Bool) :
    auth.guardedCheckPaddedMac type decrypted contentLength paddingValid
      = .ok (auth.checkPaddedMac type decrypted contentLength paddingValid) := by
  have hmac := auth.macLength_le
  have hstop : contentLength + auth.macLength < lengthBound := by
    simp only [lengthFieldBound, lengthBound] at hdecrypted ⊢
    omega
  simp only [guardedCheckPaddedMac, add_eq_ok hstop, ok_bind, checkPaddedMac]
  by_cases hfits : contentLength + auth.macLength ≤ decrypted.length
  · have hshort : (decrypted.take contentLength).length < lengthFieldBound := by
      rw [List.length_take]
      omega
    have hreceived : (decrypted.take (contentLength + auth.macLength)).drop contentLength
        = (decrypted.drop contentLength).take auth.macLength := by
      rw [List.drop_take, Nat.add_sub_cancel_left]
    have hlength : ((decrypted.drop contentLength).take auth.macLength).length
        = auth.macLength := by
      rw [List.length_take, List.length_drop]
      omega
    simp only [hfits, decide_true, if_true, Buffer.slice_front hcontent,
      Buffer.slice_eq_ok (Nat.le_add_right _ _) hfits, ok_bind, pure_eq_ok, hreceived,
      auth.guardedComputeMac_eq_ok type hshort, length_computeMac, hlength, Bool.and_true,
      Bool.true_and]
    cases paddingValid with
    | false => rfl
    | true => simp [apply_ite]
  · have hempty : Buffer.slice decrypted 0 0 = .ok [] := Buffer.slice_front (Nat.zero_le _)
    have hnothing : ([] : Bytes).length < lengthFieldBound := by decide
    simp only [hfits, decide_false, if_false, hempty, Buffer.slice_front (Nat.min_le_right _ _),
      ok_bind, pure_eq_ok, auth.guardedComputeMac_eq_ok type hnothing, Bool.and_false,
      Bool.false_and, Bool.false_eq_true]
    cases paddingValid <;> rfl

/-! ### The next place -/

def guardedAdvance (auth : Authenticator) : Guarded (Except RecordError Authenticator) :=
  if auth.sequence.number ≥ auth.maxNumber then return .error .sequenceOverflow
  else do
    let number ← fit (2 ^ 64) (auth.sequence.number.toNat + 1)
    return .ok { auth with sequence := { auth.sequence with number := UInt64.ofNat number } }

theorem guardedAdvance_eq_ok : auth.guardedAdvance = .ok auth.advance := by
  unfold guardedAdvance advance
  split
  · rfl
  · rename_i hnumber
    have hlt := UInt64.lt_iff_toNat_lt.mp (UInt64.not_le.mp hnumber)
    have hbound := auth.maxNumber.toNat_lt
    have hnext : UInt64.ofNat (auth.sequence.number.toNat + 1) = auth.sequence.number + 1 := by
      rw [UInt64.ofNat_add, UInt64.ofNat_toNat]
      rfl
    rw [fit_eq_ok (by omega)]
    simp only [ok_bind, pure_eq_ok, hnext]

end Authenticator

/-! ### Nonces -/

/-- A nonce of two parts. -/
def guardedJoinNonce (fixed sent : Bytes) : Guarded Bytes := do
  let length ← add fixed.length sent.length
  let bytes ← Buffer.overwrite (Bytes.zeros maxNonceLength) 0 fixed.length fixed
  let bytes ← Buffer.overwrite bytes fixed.length length sent
  Buffer.slice bytes 0 length

def guardedMaskIV (iv sequenceBlock : Bytes) : Guarded Bytes := do
  let bytes ← Buffer.overwrite (Bytes.zeros maxNonceLength) 0 iv.length iv
  let bytes ← Buffer.maskAt bytes (← sub iv.length sequenceBlockLength) sequenceBlock
  Buffer.slice bytes 0 iv.length

theorem guardedJoinNonce_eq_ok {fixed sent : Bytes}
    (hroom : fixed.length + sent.length ≤ maxNonceLength) :
    guardedJoinNonce fixed sent = .ok (fixed ++ sent) := by
  have hlength : fixed.length + sent.length < lengthBound := Nat.lt_of_le_of_lt hroom (by decide)
  have hfixed : fixed.length ≤ maxNonceLength := by omega
  have hsent : sent.length ≤ maxNonceLength - fixed.length := by omega
  simp only [guardedJoinNonce, add_eq_ok hlength, ok_bind,
    Buffer.overwrite_zeros_front rfl hfixed, Buffer.overwrite_zeros rfl rfl hsent]
  rw [Buffer.slice_front (by simp), List.take_left' List.length_append]

theorem guardedMaskIV_eq_ok {iv block : Bytes} (hiv : sequenceBlockLength ≤ iv.length)
    (hroom : iv.length ≤ maxNonceLength) (hblock : block.length = sequenceBlockLength) :
    guardedMaskIV iv block = .ok (maskIV iv block) := by
  have hkept : (iv.take (iv.length - sequenceBlockLength)).length
      = iv.length - sequenceBlockLength := by
    rw [List.length_take]
    omega
  have hmasked : (iv.drop (iv.length - sequenceBlockLength)).length = block.length := by
    rw [List.length_drop]
    omega
  have hmask := @Buffer.maskAt_eq_ok _ (iv.take (iv.length - sequenceBlockLength))
    (iv.drop (iv.length - sequenceBlockLength)) (Bytes.zeros (maxNonceLength - iv.length)) block
    hkept.symm hmasked
  rw [List.take_append_drop] at hmask
  simp only [guardedMaskIV, Buffer.overwrite_zeros_front rfl hroom, sub_eq_ok hiv, ok_bind, hmask]
  have hlength := length_maskIV hiv hblock
  rw [Buffer.slice_front]
  · exact congrArg Except.ok (List.take_left' hlength)
  · simp only [maskIV] at hlength
    rw [List.length_append, hlength]
    exact Nat.le_add_right _ _

/-- An IV that is shorter than the sequence block has no place for it. -/
example : guardedMaskIV (Bytes.zeros 7) (Bytes.zeros 8) = .error .underflow := by decide

namespace NonceLayout

def guardedSending (layout : NonceLayout) (sequenceBlock : Bytes) : Guarded (Bytes × Bytes) :=
  match layout with
  | explicit fixed sentLength => do
      let start ← sub sequenceBlockLength sentLength
      let sent ← Buffer.slice sequenceBlock start sequenceBlock.length
      return (← guardedJoinNonce fixed sent, sent)
  | masked iv => do
      return (← guardedMaskIV iv sequenceBlock, ← Buffer.slice sequenceBlock 0 0)

def guardedReceiving (layout : NonceLayout) (sequenceBlock record : Bytes) :
    Guarded (Except RecordError (Bytes × Bytes)) :=
  match layout with
  | explicit fixed sentLength =>
      if record.length < sentLength then return .error (.recordTooShort record.length)
      else do
        let (sent, rest) ← Buffer.splitAt record sentLength
        return .ok (← guardedJoinNonce fixed sent, rest)
  | masked iv => do
      return .ok (← guardedMaskIV iv sequenceBlock, record)

variable {layout : NonceLayout} (hlayout : layout.Lawful)
  (hroom : layout.nonceLength ≤ maxNonceLength) {block : Bytes}
  (hblock : block.length = sequenceBlockLength)
include hlayout hroom hblock

theorem guardedSending_eq_ok : layout.guardedSending block = .ok (layout.sending block) := by
  cases layout with
  | explicit fixed sentLength =>
      have hstart : sequenceBlockLength - sentLength ≤ block.length := by
        rw [hblock]
        exact Nat.sub_le _ _
      have hlength : (block.drop (sequenceBlockLength - sentLength)).length = sentLength := by
        rw [List.length_drop, hblock]
        exact Nat.sub_sub_self hlayout
      have hjoin := @guardedJoinNonce_eq_ok fixed
        (block.drop (sequenceBlockLength - sentLength)) (by rw [hlength]; exact hroom)
      simp only [guardedSending, sub_eq_ok hlayout, Buffer.slice_back hstart, hjoin,
        ok_bind, pure_eq_ok, sending]
  | masked iv =>
      simp only [guardedSending, guardedMaskIV_eq_ok hlayout hroom hblock,
        Buffer.slice_front (Nat.zero_le _), ok_bind, pure_eq_ok, sending, List.take_zero]

theorem guardedReceiving_eq_ok (record : Bytes) :
    layout.guardedReceiving block record = .ok (layout.receiving block record) := by
  cases layout with
  | explicit fixed sentLength =>
      simp only [guardedReceiving, receiving]
      split
      · rfl
      · rename_i hlong
        have hsent := Nat.not_lt.mp hlong
        have hjoin := @guardedJoinNonce_eq_ok fixed (record.take sentLength)
          (by rw [List.length_take_of_le hsent]; exact hroom)
        simp only [Buffer.splitAt_eq_ok hsent, hjoin, ok_bind, pure_eq_ok]
  | masked iv =>
      simp only [guardedReceiving, guardedMaskIV_eq_ok hlayout hroom hblock, ok_bind, pure_eq_ok,
        receiving]

end NonceLayout

end RecordProtection
