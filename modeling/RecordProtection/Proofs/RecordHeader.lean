import RecordProtection.Proofs.Datagram
import RecordProtection.Proofs.RecordSize
import RecordProtection.Proofs.SequenceBlock

/-!
# Headers on the wire

A record is sent with one header, and its MAC or tag covers another, which is written earlier and
from other data.  Both say the same: the header on the wire is the header that is covered, with the
place in front before version 1.3, and none of its numbers is cut off.
-/

namespace RecordProtection

/-! ### Fields of a header -/

namespace ProtectedRecord

variable (record : ProtectedRecord)

theorem take_header :
    record.header.take 3 = record.type.code :: record.version.recordVersionBytes :=
  rfl

/-- The last two bytes are the length of the fragment. -/
theorem drop_header :
    record.header.drop (record.header.length - 2) = Bytes.ofNatBE 2 record.fragment.length := by
  unfold header
  rw [List.length_append, Bytes.length_ofNatBE, Nat.add_sub_cancel, List.drop_left]

variable {record}

theorem header_of_isDatagram (hdatagram : record.version.isDatagram = true) :
    record.header = record.header.take 3
      ++ (bytes16 record.sequence.epoch ++ (bytes64 record.sequence.number).drop 2)
      ++ Bytes.ofNatBE 2 record.fragment.length := by
  rw [take_header, header, if_pos hdatagram]

theorem header_of_not_isDatagram (hstream : record.version.isDatagram = false) :
    record.header = record.header.take 3 ++ Bytes.ofNatBE 2 record.fragment.length := by
  rw [take_header, header, if_neg (Bool.eq_false_iff.mp hstream), List.append_nil]

theorem toNatBE_length_field (hshort : record.fragment.length < 256 ^ 2) :
    Bytes.toNatBE (record.header.drop (record.header.length - 2)) = record.fragment.length := by
  rw [drop_header, Bytes.toNatBE_ofNatBE, Nat.mod_eq_of_lt hshort]

section Datagram

variable (hdatagram : record.version.isDatagram = true)
include hdatagram

theorem place_of_isDatagram :
    (record.header.drop 3).take 8
      = bytes16 record.sequence.epoch ++ (bytes64 record.sequence.number).drop 2 := by
  rw [header_of_isDatagram hdatagram]
  rfl

theorem drop_header_of_isDatagram :
    record.header.drop 11 = Bytes.ofNatBE 2 record.fragment.length := by
  rw [header_of_isDatagram hdatagram]
  rfl

theorem toNatBE_epoch_field :
    Bytes.toNatBE ((record.header.drop 3).take 2) = record.sequence.epoch.toNat := by
  rw [← toNatBE_bytes16, header_of_isDatagram hdatagram]
  rfl

theorem toNatBE_number_field (hnumber : record.sequence.number ≤ maxDatagramNumber) :
    Bytes.toNatBE ((record.header.drop 5).take 6) = record.sequence.number.toNat := by
  have hfield : (record.header.drop 5).take 6 = (bytes64 record.sequence.number).drop 2 := by
    rw [header_of_isDatagram hdatagram]
    rfl
  have hmax : maxDatagramNumber.toNat < 256 ^ 6 := by decide
  have hlt := (UInt64.le_iff_toNat_le.mp hnumber).trans_lt hmax
  rw [hfield, Bytes.toNatBE_drop, toNatBE_bytes64, length_bytes64, Nat.mod_eq_of_lt hlt]

end Datagram

end ProtectedRecord

/-! ### Fragments under a header -/

/-- The MAC of content under a header, empty without a key. -/
def macUnder (mac : Option MacKey) (header content : Bytes) : Bytes :=
  match mac with
  | some mac => hmac mac.hash mac.key (header ++ content)
  | none => []

namespace Transform

/-- The fragment that a transform makes of content: MAC and tag cover the header, and the nonce
comes from the sequence block. -/
def fragmentUnder (transform : Transform) (mac : Option MacKey) (header block content : Bytes)
    (random : RandomSource) : Except RecordError Bytes :=
  match transform with
  | plain => .ok (content ++ macUnder mac header content)
  | stream cipher => .ok (cipher.apply (content ++ macUnder mac header content)).1
  | cbc mode =>
      let framed := addPadding mode.cipher.blockLength (content ++ macUnder mac header content)
      match mode.chaining with
      | .explicit =>
          let iv := (random.take mode.cipher.blockLength).1
          .ok (iv ++ cbcEncrypt mode.cipher iv framed)
      | .chained _ current => .ok (cbcEncrypt mode.cipher current framed)
  | counter mode =>
      let (first, sent) := mode.layout.sending block
      .ok (sent ++ mode.mask first (content ++ macUnder mac header content))
  | aead mode =>
      let (nonce, sent) := mode.layout.sending block
      if content.length > mode.aead.maxLength then
        .error (.unsupportedOperation "AEAD seal")
      else
        let (ciphertext, tag) := mode.aead.encrypt nonce header content
        .ok (sent ++ ciphertext ++ tag)
  | unavailable => .error unavailableError

/-- The header that a transform puts content under. -/
def coveredHeader (transform : Transform) (auth : Authenticator) (type : ContentType)
    (contentLength : Nat) : Bytes :=
  match transform with
  | aead mode =>
      auth.additionalData type contentLength
        ((mode.layout.sending auth.sequenceBlock).2.length + contentLength + mode.aead.tagLength)
  | _ => auth.pseudoHeader type contentLength

theorem encrypt_eq_fragmentUnder (transform : Transform) (auth : Authenticator)
    (type : ContentType) (content : Bytes) (random : RandomSource) :
    (transform.encrypt auth type content random).1
      = transform.fragmentUnder auth.mac (transform.coveredHeader auth type content.length)
        auth.sequenceBlock content random := by
  cases transform with
  | cbc mode =>
      obtain ⟨cipher, chaining⟩ := mode
      cases chaining <;> rfl
  | _ => rfl

end Transform

/-! ### Headers that are covered -/

/-- Where the tag is all that a record adds, the additional data is a header without a place. -/
theorem Transform.Seals.coveredHeader {transform : Transform} {tagLength : Nat}
    (hseals : transform.Seals tagLength) {auth : Authenticator} (h13 : auth.version.is13 = true)
    {type : ContentType} {content record : Bytes} {random : RandomSource}
    (hrecord : (transform.encrypt auth type content random).1 = .ok record) :
    transform.coveredHeader auth type content.length
      = ContentType.applicationData.code :: auth.version.recordVersionBytes
        ++ Bytes.ofNatBE 2 record.length := by
  have hlength := hseals.length_encrypt hrecord
  obtain ⟨mode, rfl, hmode, hsent, rfl⟩ := hseals
  have hsentLength := NonceLayout.length_sent hmode.layout auth.length_sequenceBlock
  rw [Transform.coveredHeader, Authenticator.additionalData, if_pos h13, hsentLength, hsent,
    Nat.zero_add, hlength]

/-- Before version 1.3 every transform covers the place and the length of the content. -/
theorem Transform.coveredHeader_of_not_is13 (transform : Transform) {auth : Authenticator}
    (h13 : auth.version.is13 = false) (type : ContentType) (contentLength : Nat) :
    transform.coveredHeader auth type contentLength = auth.pseudoHeader type contentLength := by
  cases transform with
  | aead mode => exact if_neg (Bool.eq_false_iff.mp h13)
  | _ => rfl

/-- The header of a record says what the header does that its fragment is made under. -/
structure ProtectedRecord.Covered (record : ProtectedRecord) (mode : CipherMode) (content : Bytes)
    (random : RandomSource) (header : Bytes) : Prop where
  fragment : mode.transform.fragmentUnder mode.auth.mac header mode.auth.sequenceBlock content
    random = .ok record.fragment
  length : Bytes.toNatBE (record.header.drop (record.header.length - 2)) = record.fragment.length
  tls13 : record.version = .tls13 → header = record.header
  dtls13 : record.version = .dtls13 → header = record.header.take 3 ++ record.header.drop 11
  before13 : record.version.is13 = false →
    header = mode.auth.sequenceBlock ++ record.header.take 3 ++ Bytes.ofNatBE 2 content.length
  block : record.version.isDatagram = true →
    (record.header.drop 3).take 8 = mode.auth.sequenceBlock
  epoch : record.version.isDatagram = true →
    Bytes.toNatBE ((record.header.drop 3).take 2) = record.sequence.epoch.toNat
  number : record.version.isDatagram = true →
    Bytes.toNatBE ((record.header.drop 5).take 6) = record.sequence.number.toNat

namespace Protector

theorem record_of_protect {sender : Protector} {type : ContentType} {plaintext : Bytes}
    {random : RandomSource} {record : ProtectedRecord}
    (hprotect : (sender.protect type plaintext random).1 = .ok record) :
    record = ⟨(sender.outerContent type plaintext).1, sender.params.version, sender.write.sequence,
      record.fragment⟩ := by
  obtain ⟨-, fragment, mode, -, rfl, -⟩ := protect_eq_ok_iff.mp (Prod.ext hprotect rfl)
  rfl

/-- The length field of a header has room for every fragment. -/
theorem length_fragment_lt {sender : Protector} (hsender : sender.InUse)
    (hsuite : sender.params.suite ∈ CipherSuite.catalog) {type : ContentType} {plaintext : Bytes}
    {random : RandomSource} {record : ProtectedRecord}
    (hprotect : (sender.protect type plaintext random).1 = .ok record) :
    record.fragment.length < 256 ^ 2 := by
  have hcontent :=
    length_outerContent_le_of_short hsender.config type (encrypt_of_protect hprotect).1
  have hlength := length_fragment_le_outerContent hsuite hsender.write hprotect
  have hoverhead : maxOverhead sender.params.version ≤ 96 := by
    unfold maxOverhead
    split <;> decide
  have hroom : maxPlaintextLength + 1 + 96 < 256 ^ 2 := by decide
  omega

/-- Under version 1.3 the header that is covered is the one on the wire without the place. -/
theorem coveredHeader_of_writes13 {sender : Protector} (hsender : sender.InUse)
    (hsuite : sender.params.suite ∈ CipherSuite.catalog)
    (h13 : sender.writes13 = true) {type : ContentType} {plaintext : Bytes} {random : RandomSource}
    {record : ProtectedRecord}
    (hprotect : (sender.protect type plaintext random).1 = .ok record) :
    sender.write.mode.transform.coveredHeader sender.write.mode.auth
        (sender.outerContent type plaintext).1 (sender.outerContent type plaintext).2.length
      = record.header.take 3 ++ Bytes.ofNatBE 2 record.fragment.length := by
  obtain ⟨hprotected, hversion⟩ := Bool.and_eq_true_iff.mp h13
  have hseals := hsender.write.seals hsuite hversion hprotected
  have hauth := hsender.write.auth_version
  have htype : (sender.outerContent type plaintext).1 = .applicationData :=
    congrArg Prod.fst (if_pos h13)
  rw [hseals.coveredHeader (hauth ▸ hversion) (encrypt_of_protect hprotect).2,
    ProtectedRecord.take_header, record_of_protect hprotect, htype, hauth]

/-- Of every record that a keyed protector sends, the header on the wire is the header that its MAC
or tag covers. -/
theorem header_is_covered {sender : Protector} (hreached : Reached sender)
    (hsuite : sender.params.suite ∈ CipherSuite.catalog)
    (hkeyed : sender.write.isProtected = true) {type : ContentType} {plaintext : Bytes}
    {random : RandomSource} {record : ProtectedRecord}
    (hprotect : (sender.protect type plaintext random).1 = .ok record) :
    ∃ header, record.Covered sender.write.mode (sender.outerContent type plaintext).2 random
      header := by
  have hsender := inUse_of_reached hreached
  have hauth := hsender.write.auth_version
  have hrecord := record_of_protect hprotect
  have hversion : record.version = sender.params.version := congrArg (·.version) hrecord
  have hsequence : record.sequence = sender.write.sequence := congrArg (·.sequence) hrecord
  have hfragment := (encrypt_of_protect hprotect).2
  rw [Transform.encrypt_eq_fragmentUnder] at hfragment
  have hwrites13 (h13 : record.version.is13 = true) := coveredHeader_of_writes13 hsender hsuite
    (Bool.and_eq_true_iff.mpr ⟨hkeyed, hversion ▸ h13⟩) hprotect
  exact
    ⟨_,
      { fragment := hfragment
        length := ProtectedRecord.toNatBE_length_field (length_fragment_lt hsender hsuite hprotect)
        tls13 := by
          intro h13
          rw [hwrites13 (by rw [h13]; rfl)]
          exact (ProtectedRecord.header_of_not_isDatagram (by rw [h13]; rfl)).symm
        dtls13 := by
          intro h13
          rw [hwrites13 (by rw [h13]; rfl),
            ProtectedRecord.drop_header_of_isDatagram (by rw [h13]; rfl)]
        before13 := by
          intro h13
          rw [Transform.coveredHeader_of_not_is13 _ (hauth.trans hversion.symm ▸ h13),
            ProtectedRecord.take_header, hrecord, ← hauth]
          simp only [Authenticator.pseudoHeader, List.append_assoc, List.cons_append]
        block := by
          intro hdatagram
          rw [ProtectedRecord.place_of_isDatagram hdatagram, hsequence,
            Authenticator.sequenceBlock, if_pos (hauth.trans hversion.symm ▸ hdatagram)]
          rfl
        epoch := ProtectedRecord.toNatBE_epoch_field
        number := by
          intro hdatagram
          refine ProtectedRecord.toNatBE_number_field hdatagram ?_
          rw [hsequence]
          exact hsender.write.number_le_of_isDatagram (hversion ▸ hdatagram) }⟩

/-- An alert of two bytes and a MAC of twenty, at the start of its epoch. -/
theorem nullShaAlert_is_covered :
    ∃ header, nullShaAlert.record.Covered nullShaSender.write.mode [2, 40] ⟨fun _ => 0, 0⟩ header
      ∧ header = [0, 1, 0, 0, 0, 0, 0, 0, 21, 0xfe, 0xfd, 0, 2]
      ∧ (nullShaAlert.record.header.drop 3).take 8 = [0, 1, 0, 0, 0, 0, 0, 0] := by
  have hsuite : nullShaSender.params.suite ∈ CipherSuite.catalog := by
    decide
  have hreached : Reached nullShaSender :=
    .installedWriteKeys (.created rfl) nullShaKeys
  have hprotect : (nullShaSender.protect .alert [2, 40] ⟨fun _ => 0, 0⟩).1
      = .ok nullShaAlert.record := rfl
  obtain ⟨header, hcovered⟩ := header_is_covered hreached hsuite rfl hprotect
  exact ⟨header, hcovered, hcovered.before13 rfl, hcovered.block rfl⟩

end Protector

end RecordProtection
