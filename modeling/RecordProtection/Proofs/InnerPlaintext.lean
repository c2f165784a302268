import RecordProtection.Proofs.PlaintextSize

/-!
# Inner plaintexts

Under version 1.3 a record carries content, the byte of its type, and any number of zeros.  No
length is sent with them: the last byte that is not zero is the type.  As no type has the byte zero,
a string is read in one way at most, also if the content ends in zeros or is empty.  Strings that
are not of this form are refused, and so is content that is too long.
-/

namespace RecordProtection

namespace ContentType

theorem ofCode_eq_ok_iff {code : UInt8} {type : ContentType} :
    ofCode code = .ok type ↔ type.code = code := by
  constructor
  · intro h
    unfold ofCode at h
    split at h
    · rename_i found hfound
      cases h
      simpa using List.find?_some hfound
    · cases h
  · rintro rfl
    exact ofCode_code type

theorem ofCode_of_unknown {code : UInt8} (hcode : ∀ type : ContentType, type.code ≠ code) :
    ofCode code = .error (.invalidContentType code) := by
  unfold ofCode
  split
  · rename_i type hfound
    exact absurd (by simpa using List.find?_some hfound) (hcode type)
  · rfl

end ContentType

namespace Protector

/-- Content, the byte of its type, and zeros. -/
def Wraps (inner : Bytes) (type : ContentType) (content : Bytes) : Prop :=
  ∃ count, inner = content ++ type.code :: Bytes.zeros count

/-- Why a string is refused where content may have up to `limit` bytes: there is no type in it, or
none that is known, or the content is too long. -/
inductive Refused (limit : Nat) (inner : Bytes) : RecordError → Prop
  | untyped {count : Nat} (hinner : inner = Bytes.zeros count) :
      Refused limit inner (.invalidContentType 0)
  | unknown {content : Bytes} {code : UInt8} {count : Nat}
      (hinner : inner = content ++ code :: Bytes.zeros count) (hcode : code ≠ 0)
      (hunknown : ∀ type : ContentType, type.code ≠ code) :
      Refused limit inner (.invalidContentType code)
  | long {type : ContentType} {content : Bytes} (hinner : Wraps inner type content)
      (hlong : limit < content.length) : Refused limit inner (.recordOverflow content.length limit)

/-! ### The scan over the padding -/

/-- The zeros at the end of a string are all of it, or another byte is in front of them. -/
theorem zeros_or_append_zeros (inner : Bytes) :
    (∃ count, inner = Bytes.zeros count)
      ∨ ∃ content code count, code ≠ 0 ∧ inner = content ++ code :: Bytes.zeros count := by
  have hmore (count : Nat) : Bytes.zeros count ++ [0] = Bytes.zeros (count + 1) :=
    List.replicate_succ'.symm
  induction inner using List.reverseRecOn with
  | nil => exact .inl ⟨0, rfl⟩
  | append_singleton front byte ih =>
      by_cases hbyte : byte = 0
      · subst hbyte
        obtain ⟨count, rfl⟩ | ⟨content, code, count, hcode, rfl⟩ := ih
        · exact .inl ⟨count + 1, hmore count⟩
        · refine .inr ⟨content, code, count + 1, hcode, ?_⟩
          rw [List.append_assoc, List.cons_append, hmore]
      · exact .inr ⟨front, byte, 0, hbyte, rfl⟩

theorem parseInner_zeros (count : Nat) :
    parseInner (Bytes.zeros count) = .error (.invalidContentType 0) := by
  have hdrop : (Bytes.zeros count).reverse.dropWhile (· == 0) = [] := by
    simp [Bytes.zeros]
  simp only [parseInner, hdrop]

theorem parseInner_eq_ok_iff {inner content : Bytes} {type : ContentType} :
    parseInner inner = .ok (type, content) ↔ Wraps inner type content := by
  constructor
  · intro hparse
    obtain ⟨count, rfl⟩ | ⟨front, code, count, hcode, rfl⟩ := zeros_or_append_zeros inner
    · rw [parseInner_zeros] at hparse
      cases hparse
    · rw [parseInner_append_zeros front hcode, map_eq_ok_iff] at hparse
      obtain ⟨found, hfound, hcontent⟩ := hparse
      cases hcontent
      rw [ContentType.ofCode_eq_ok_iff] at hfound
      exact ⟨count, by rw [hfound]⟩
  · rintro ⟨count, rfl⟩
    rw [parseInner_append_zeros content (code_ne_zero type), type.ofCode_code]
    rfl

theorem Wraps.unique {inner content other : Bytes} {type otherType : ContentType}
    (h : Wraps inner type content) (hother : Wraps inner otherType other) :
    type = otherType ∧ content = other := by
  rw [← parseInner_eq_ok_iff] at h hother
  rw [h] at hother
  exact Prod.mk.inj (Except.ok.inj hother)

/-- Padding is cut to the longest inner plaintext, but the type is always in front of it. -/
theorem wraps_outerContent {sender : Protector} (h13 : sender.writes13 = true)
    (type : ContentType) (plaintext : Bytes) :
    Wraps (sender.outerContent type plaintext).2 type plaintext := by
  have hinner : sender.outerContent type plaintext
      = (.applicationData, innerPlaintext sender.config type plaintext) := if_pos h13
  rw [hinner]
  exact ⟨_, rfl⟩

/-! ### Records of version 1.3 -/

section Reading

variable {protector : Protector} (h13 : protector.reads13 = true) {fragment inner : Bytes}
  (hshort : fragment.length ≤ protector.fragmentLimit)
  (hdecrypt : (protector.read.mode.decrypt .applicationData fragment).1 = .ok inner)
include h13 hshort hdecrypt

theorem unprotect_of_decrypt :
    (protector.unprotect .applicationData fragment).1
      = parseInner inner >>= fun found => protector.checkPlaintext found.1 found.2 := by
  have hrest : (protector.read.mode.decrypt .applicationData fragment)
      = (.ok inner, (protector.read.mode.decrypt .applicationData fragment).2) :=
    Prod.ext hdecrypt rfl
  rw [unprotect, if_neg (Nat.not_lt.mpr hshort), h13, hrest]
  rfl

theorem unprotect_of_wraps {type : ContentType} {content : Bytes}
    (hwraps : Wraps inner type content) :
    (protector.unprotect .applicationData fragment).1
      = protector.checkPlaintext type content := by
  rw [unprotect_of_decrypt h13 hshort hdecrypt, parseInner_eq_ok_iff.mpr hwraps]
  rfl

theorem unprotect_eq_ok_iff_wraps {type : ContentType} {content : Bytes} :
    (protector.unprotect .applicationData fragment).1 = .ok (type, content)
      ↔ Wraps inner type content ∧ content.length ≤ protector.config.maxRecordSize := by
  constructor
  · intro hread
    rw [unprotect_of_decrypt h13 hshort hdecrypt] at hread
    obtain ⟨found, hparse, hcheck⟩ := bind_eq_ok_iff.mp hread
    obtain ⟨hsize, hfound⟩ := checkPlaintext_eq_ok_iff.mp hcheck
    cases hfound
    exact ⟨parseInner_eq_ok_iff.mp hparse, hsize⟩
  · rintro ⟨hwraps, hsize⟩
    rw [unprotect_of_wraps h13 hshort hdecrypt hwraps]
    exact checkPlaintext_eq_ok type hsize

theorem unprotect_of_refused {e : RecordError}
    (hrefused : Refused protector.config.maxRecordSize inner e) :
    (protector.unprotect .applicationData fragment).1 = .error e := by
  cases hrefused with
  | untyped hinner =>
      rw [unprotect_of_decrypt h13 hshort hdecrypt, hinner, parseInner_zeros]
      rfl
  | unknown hinner hcode hunknown =>
      rw [unprotect_of_decrypt h13 hshort hdecrypt, hinner, parseInner_append_zeros _ hcode,
        ContentType.ofCode_of_unknown hunknown]
      rfl
  | long hwraps hlong =>
      rw [unprotect_of_wraps h13 hshort hdecrypt hwraps]
      exact if_pos hlong

end Reading

/-- A string is refused, or it wraps content that is short enough. -/
theorem refused_or_wraps (limit : Nat) (inner : Bytes) :
    (∃ e, Refused limit inner e)
      ∨ ∃ type content, Wraps inner type content ∧ content.length ≤ limit := by
  obtain ⟨count, hinner⟩ | ⟨content, code, count, hcode, hinner⟩ := zeros_or_append_zeros inner
  · exact .inl ⟨_, .untyped hinner⟩
  · by_cases hknown : ∃ type : ContentType, type.code = code
    · obtain ⟨type, rfl⟩ := hknown
      have hwraps : Wraps inner type content := ⟨count, hinner⟩
      by_cases hlong : limit < content.length
      · exact .inl ⟨_, .long hwraps hlong⟩
      · exact .inr ⟨type, content, hwraps, Nat.not_lt.mp hlong⟩
    · exact .inl ⟨_, .unknown hinner hcode (not_exists.mp hknown)⟩

/-- A record is read exactly as the content that its decryption wraps, in the only way there is, and
is refused for a reason of its own otherwise.  What a sender has wrapped is read as it was. -/
theorem inner_plaintext_read {protector : Protector} (h13 : protector.reads13 = true)
    {fragment inner : Bytes} (hshort : fragment.length ≤ protector.fragmentLimit)
    (hdecrypt : (protector.read.mode.decrypt .applicationData fragment).1 = .ok inner) :
    (∀ type content, (protector.unprotect .applicationData fragment).1 = .ok (type, content)
        ↔ Wraps inner type content ∧ content.length ≤ protector.config.maxRecordSize)
      ∧ (∀ e, (protector.unprotect .applicationData fragment).1 = .error e
        ↔ Refused protector.config.maxRecordSize inner e)
      ∧ (∀ type content otherType other, Wraps inner type content → Wraps inner otherType other →
        type = otherType ∧ content = other)
      ∧ ∀ (sender : Protector) (type : ContentType) (plaintext : Bytes), sender.writes13 = true →
        Wraps (sender.outerContent type plaintext).2 type plaintext
          ∧ (inner = (sender.outerContent type plaintext).2 →
            plaintext.length ≤ protector.config.maxRecordSize →
            (protector.unprotect .applicationData fragment).1 = .ok (type, plaintext)) := by
  have hread (type : ContentType) (content : Bytes) :=
    @unprotect_eq_ok_iff_wraps _ h13 _ _ hshort hdecrypt type content
  refine ⟨hread, fun e => ⟨fun hfailed => ?_, unprotect_of_refused h13 hshort hdecrypt⟩,
    fun _ _ _ _ => Wraps.unique, fun sender type plaintext hsender => ?_⟩
  · obtain ⟨reason, hrefused⟩ | ⟨type, content, hwraps⟩ :=
      refused_or_wraps protector.config.maxRecordSize inner
    · rw [unprotect_of_refused h13 hshort hdecrypt hrefused] at hfailed
      cases hfailed
      exact hrefused
    · rw [(hread type content).mpr hwraps] at hfailed
      cases hfailed
  · have hwraps := wraps_outerContent hsender type plaintext
    refine ⟨hwraps, ?_⟩
    rintro rfl hsize
    exact (hread type plaintext).mpr ⟨hwraps, hsize⟩

/-- An alert that ends in a zero, with two more zeros behind its type. -/
def sealedAlert : Bytes := [
    203, 29, 44, 57, 4, 202, 15, 133, 64, 52, 233, 84, 12, 195, 251, 122, 118, 125, 170, 247, 97]

theorem keyedReceiver_reads_sealedAlert :
    keyedReceiver.reads13 = true ∧ sealedAlert.length ≤ keyedReceiver.fragmentLimit
      ∧ (keyedReceiver.read.mode.decrypt .applicationData sealedAlert).1
        = .ok ([2, 0] ++ ContentType.alert.code :: Bytes.zeros 2)
      ∧ (keyedReceiver.unprotect .applicationData sealedAlert).1 = .ok (.alert, [2, 0]) := by
  have h13 : keyedReceiver.reads13 = true := rfl
  have hshort : sealedAlert.length ≤ keyedReceiver.fragmentLimit := by
    decide
  have hdecrypt : (keyedReceiver.read.mode.decrypt .applicationData sealedAlert).1
      = .ok ([2, 0] ++ ContentType.alert.code :: Bytes.zeros 2) := by
    decide +kernel
  obtain ⟨hread, -⟩ := inner_plaintext_read h13 hshort hdecrypt
  have hwraps : Wraps ([2, 0] ++ ContentType.alert.code :: Bytes.zeros 2) .alert [2, 0] := ⟨2, rfl⟩
  exact ⟨h13, hshort, hdecrypt, (hread .alert [2, 0]).mpr ⟨hwraps, by decide⟩⟩

end Protector

end RecordProtection
