import RecordProtection.Protector
import RecordProtection.Proofs.RoundTrip

/-!
# Records from one end to the other

A record that one end protects is read by the other end, if both hold the same mode for this
direction and the record is within the limits of the receiver.
-/

namespace RecordProtection

namespace Protector

/-! ### Inner plaintexts -/

theorem dropWhile_zeros_append (count : Nat) {code : UInt8} (hcode : code ≠ 0) (rest : Bytes) :
    (Bytes.zeros count ++ code :: rest).dropWhile (· == 0) = code :: rest := by
  induction count with
  | zero => simp [Bytes.zeros, hcode]
  | succ count ih => simpa [Bytes.zeros, List.replicate_succ] using ih

theorem code_ne_zero (type : ContentType) : type.code ≠ 0 := by
  cases type <;> decide

/-- The scan stops at the byte in front of the zeros, whatever comes before it. -/
theorem parseInner_append_zeros (content : Bytes) {code : UInt8} (hcode : code ≠ 0) (count : Nat) :
    parseInner (content ++ code :: Bytes.zeros count)
      = (ContentType.ofCode code).map fun type => (type, content) := by
  have hreverse : (content ++ code :: Bytes.zeros count).reverse
      = Bytes.zeros count ++ code :: content.reverse := by
    simp [Bytes.zeros]
  simp only [parseInner, hreverse, dropWhile_zeros_append count hcode, List.reverse_reverse]
  cases ContentType.ofCode code <;> rfl

/-- Zeros hide neither the type of a record nor the end of its content. -/
theorem parseInner_innerPlaintext (config : Config) (type : ContentType) (plaintext : Bytes) :
    parseInner (innerPlaintext config type plaintext) = .ok (type, plaintext) := by
  rw [innerPlaintext, parseInner_append_zeros plaintext (code_ne_zero type), type.ofCode_code]
  rfl

/-- Whether records to send get the form of version 1.3. -/
def writes13 (protector : Protector) : Bool :=
  protector.write.isProtected && protector.params.version.is13

section Content

variable {sender : Protector} (type : ContentType) (plaintext : Bytes)

theorem outerContent_of_not_writes13 (h13 : sender.writes13 = false) :
    sender.outerContent type plaintext = (type, plaintext) :=
  if_neg (Bool.eq_false_iff.mp h13)

theorem length_outerContent (h13 : sender.writes13 = true) :
    (sender.outerContent type plaintext).2.length
      = plaintext.length + 1
        + min sender.config.tls13Padding (maxPlaintextLength - plaintext.length) := by
  have hcap : maxPlaintextLength + 1 - (plaintext.length + 1)
      = maxPlaintextLength - plaintext.length := by
    omega
  have hinner : sender.outerContent type plaintext
      = (.applicationData, innerPlaintext sender.config type plaintext) := if_pos h13
  simp only [hinner, innerPlaintext, hcap, List.length_append, List.length_cons, Bytes.zeros,
    List.length_replicate]
  omega

end Content

/-! ### Protected records -/

theorem protect_eq_ok_iff {sender next : Protector} {type : ContentType} {plaintext : Bytes}
    {random rest : RandomSource} {record : ProtectedRecord} :
    sender.protect type plaintext random = (.ok record, next, rest)
      ↔ plaintext.length ≤ sender.config.maxRecordSize
        ∧ ∃ fragment mode,
          sender.write.mode.encrypt (sender.outerContent type plaintext).1
              (sender.outerContent type plaintext).2 random = (.ok fragment, mode, rest)
          ∧ record = ⟨(sender.outerContent type plaintext).1, sender.params.version,
            sender.write.sequence, fragment⟩
          ∧ next = { sender with write := { sender.write with mode := mode } } := by
  unfold protect
  by_cases hlong : plaintext.length > sender.config.maxRecordSize
  · simp [hlong, Nat.not_le.mpr hlong]
  · rcases hencrypt : sender.write.mode.encrypt (sender.outerContent type plaintext).1
      (sender.outerContent type plaintext).2 random with ⟨_ | fragment, mode, remaining⟩
    · simp [hlong, hencrypt, Except.map]
    · simp only [hlong, if_false, hencrypt, Except.map, Prod.mk.injEq, Except.ok.injEq,
        Nat.not_lt.mp hlong, true_and]
      constructor
      · rintro ⟨rfl, rfl, rfl⟩
        exact ⟨fragment, mode, ⟨rfl, rfl, rfl⟩, rfl, rfl⟩
      · rintro ⟨_, _, ⟨rfl, rfl, rfl⟩, rfl, rfl⟩
        exact ⟨rfl, rfl, rfl⟩

/-- What is sent comes from the transform of the sender's mode. -/
theorem encrypt_of_protect {sender : Protector} {type : ContentType} {plaintext : Bytes}
    {random : RandomSource} {record : ProtectedRecord}
    (hprotect : (sender.protect type plaintext random).1 = .ok record) :
    plaintext.length ≤ sender.config.maxRecordSize
      ∧ (sender.write.mode.transform.encrypt sender.write.mode.auth
        (sender.outerContent type plaintext).1 (sender.outerContent type plaintext).2 random).1
          = .ok record.fragment := by
  obtain ⟨hplaintext, fragment, mode, hencrypt, rfl, -⟩ :=
    protect_eq_ok_iff.mp (Prod.ext hprotect rfl)
  obtain ⟨_, transform, -, htransform, -⟩ := CipherMode.encrypt_eq_ok_iff.mp hencrypt
  exact ⟨hplaintext, by rw [htransform]⟩

/-- The receiver of a direction holds what its sender holds. -/
structure InStep (sender receiver : Protector) : Prop where
  version : receiver.params.version = sender.params.version
  isProtected : receiver.read.isProtected = sender.write.isProtected
  mode : receiver.read.mode = sender.write.mode

/-- Record and content are no longer than the receiver allows. -/
structure Fits (receiver : Protector) (plaintext : Bytes) (record : ProtectedRecord) : Prop where
  fragment : record.fragment.length ≤ receiver.fragmentLimit
  plaintext : plaintext.length ≤ receiver.config.maxRecordSize

theorem checkPlaintext_eq_ok {receiver : Protector} (type : ContentType) {plaintext : Bytes}
    (hplaintext : plaintext.length ≤ receiver.config.maxRecordSize) :
    receiver.checkPlaintext type plaintext = .ok (type, plaintext) :=
  if_neg (Nat.not_lt.mpr hplaintext)

/-- A receiver in step with the sender reads what was protected, and stays in step. -/
theorem unprotect_protect {sender receiver next : Protector} (hstep : InStep sender receiver)
    (hlawful : sender.write.mode.transform.Lawful)
    (hheader : sender.write.mode.auth.version.is13 = false
      ∨ sender.write.mode.transform.sentLength = 0)
    {type : ContentType} {plaintext : Bytes} {random rest : RandomSource}
    {record : ProtectedRecord}
    (hprotect : sender.protect type plaintext random = (.ok record, next, rest))
    (hfits : Fits receiver plaintext record) :
    receiver.unprotect record.type record.fragment
      = (.ok (type, plaintext),
        { receiver with read := { receiver.read with mode := next.write.mode } }) := by
  obtain ⟨-, fragment, mode, hencrypt, rfl, rfl⟩ := protect_eq_ok_iff.mp hprotect
  have hagree := Transform.tagsAgree_of_same_header hheader (sender.outerContent type plaintext).1
    (sender.outerContent type plaintext).2
  have hdecrypt := CipherMode.decrypt_encrypt hlawful hencrypt hagree
  have hreads : receiver.reads13
      = (sender.write.isProtected && sender.params.version.is13) := by
    simp only [reads13, hstep.isProtected, hstep.version]
  have hshort : ¬ fragment.length > receiver.fragmentLimit := Nat.not_lt.mpr hfits.fragment
  have hplaintext := checkPlaintext_eq_ok type hfits.plaintext
  cases h13 : sender.write.isProtected && sender.params.version.is13 with
  | true =>
      simp only [outerContent, h13, if_true] at hdecrypt
      simp only [unprotect, hshort, if_false, outerContent, hreads, h13, if_true, hstep.mode,
        hdecrypt, bind, Except.bind, parseInner_innerPlaintext, hplaintext]
      rfl
  | false =>
      simp only [outerContent, h13, Bool.false_eq_true, if_false] at hdecrypt
      simp only [unprotect, hshort, if_false, outerContent, hreads, h13, Bool.false_eq_true,
        hstep.mode, hdecrypt, bind, Except.bind, Bool.false_and, pure, Except.pure, hplaintext]

end Protector

end RecordProtection
