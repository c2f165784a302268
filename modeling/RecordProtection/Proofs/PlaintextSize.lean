import RecordProtection.Proofs.ReadHistory
import RecordProtection.Proofs.Rejected

/-!
# Sizes of what is read

What has been decrypted is compared with the configured size, so no call returns more.  The
compatibility records of version 1.3 return before that comparison: they keep to the limit of
fragments only, and can be longer by the expansion that it allows.
-/

namespace RecordProtection

namespace Protector

theorem checkPlaintext_eq_ok_iff {protector : Protector} {type : ContentType} {plaintext : Bytes}
    {content : ContentType × Bytes} :
    protector.checkPlaintext type plaintext = .ok content
      ↔ plaintext.length ≤ protector.config.maxRecordSize ∧ content = (type, plaintext) := by
  constructor
  · intro hcheck
    unfold checkPlaintext at hcheck
    split at hcheck
    · cases hcheck
    · rename_i hshort
      exact ⟨Nat.not_lt.mp hshort, (Except.ok.inj hcheck).symm⟩
  · rintro ⟨hshort, rfl⟩
    exact checkPlaintext_eq_ok type hshort

/-- What a call returns has been compared with the configured size, or it is a compatibility record
of version 1.3 as it came. -/
theorem size_of_unprotect {protector : Protector} {type : ContentType} {fragment : Bytes}
    {content : ContentType × Bytes}
    (hread : (protector.unprotect type fragment).1 = .ok content) :
    (¬ (protector.reads13 = true ∧ type = .changeCipherSpec)
        ∧ content.2.length ≤ protector.config.maxRecordSize)
      ∨ (protector.reads13 = true ∧ type = .changeCipherSpec)
        ∧ content = (type, fragment)
        ∧ fragment.length ≤ protector.config.maxRecordSize + maxExpansion13 := by
  unfold unprotect at hread
  split at hread
  · cases hread
  · rename_i hshort
    split at hread
    · rename_i hpasses
      have hpassed : protector.reads13 = true ∧ type = .changeCipherSpec := by
        simpa using hpasses
      rw [fragmentLimit, if_pos hpassed.1] at hshort
      exact .inr ⟨hpassed, (Except.ok.inj hread).symm, Nat.not_lt.mp hshort⟩
    · rename_i hpasses
      split at hread
      · cases hread
      · -- the last step is the comparison, with an inner type to find before it or not
        obtain ⟨plaintext, -, hread⟩ := bind_eq_ok_iff.mp hread
        obtain ⟨inner, hcheck⟩ : ∃ inner : ContentType × Bytes,
            protector.checkPlaintext inner.1 inner.2 = .ok content := by
          split at hread
          · obtain ⟨inner, -, hcheck⟩ := bind_eq_ok_iff.mp hread
            exact ⟨inner, hcheck⟩
          · exact ⟨(type, plaintext), hread⟩
        obtain ⟨hsize, rfl⟩ := checkPlaintext_eq_ok_iff.mp hcheck
        exact .inl ⟨by simpa using hpasses, hsize⟩

end Protector

namespace ReadCall

def fragment : ReadCall → Bytes
  | inOrder _ fragment => fragment
  | placed _ _ fragment => fragment

/-- The record is not decrypted, and so its size is not compared. -/
def Passes (call : ReadCall) (protector : Protector) : Prop :=
  protector.reads13 = true ∧ call.type = .changeCipherSpec

variable {call : ReadCall} {protector : Protector} {content : ContentType × Bytes}
  (hread : (call.run protector).1 = .ok content)
include hread

/-- At a place or in order, a record is as long as the settings of the protector allow, or it
passes. -/
theorem size_of_run :
    (¬ call.Passes protector ∧ content.2.length ≤ protector.config.maxRecordSize)
      ∨ call.Passes protector ∧ content = (call.type, call.fragment)
        ∧ call.fragment.length ≤ protector.config.maxRecordSize + Protector.maxExpansion13 := by
  cases call with
  | inOrder type fragment => exact Protector.size_of_unprotect hread
  | placed type sequence fragment =>
      rw [run] at hread
      cases hplace : protector.checkPlace sequence with
      | error e =>
          rw [Protector.unprotectAt_of_refused hplace] at hread
          cases hread
      | ok read =>
          rw [Protector.unprotectAt_of_checkPlace (Protector.isDatagram_of_checkPlace hplace)
            hplace] at hread
          split at hread
          · rename_i other after hunprotect
            obtain rfl : other = content := Except.ok.inj hread
            -- at its place the protector has the same settings and reads in the same form
            have hsize := Protector.size_of_unprotect (congrArg Prod.fst hunprotect)
            exact hsize
          · cases hread

/-- A call returns at most as much as is configured, unless it lets a compatibility record of
version 1.3 pass that is longer.  It never returns more than such a record may have. -/
theorem plaintext_within_limit_iff :
    (content.2.length ≤ protector.config.maxRecordSize
        ↔ ¬ (call.Passes protector
          ∧ call.fragment.length > protector.config.maxRecordSize))
      ∧ content.2.length ≤ protector.config.maxRecordSize + Protector.maxExpansion13 := by
  obtain ⟨hdecrypted, hsize⟩ | ⟨hpasses, rfl, hshort⟩ := size_of_run hread
  · exact ⟨⟨fun _ hpasses => hdecrypted hpasses.1, fun _ => hsize⟩, Nat.le_add_right_of_le hsize⟩
  · refine ⟨?_, hshort⟩
    rw [not_and, Nat.not_lt]
    exact ⟨fun hsize _ => hsize, fun hsize => hsize hpasses⟩

end ReadCall

/-! ### A record that passes -/

def smallConfig : Config := { maxRecordSize := 1 }

/-- A receiver of version 1.3 that allows records of one byte. -/
def smallReceiver : Protector :=
  ((Protector.create ⟨.tls13, .server, CipherSuite.aead13 0x1303 "TLS_CHACHA20_POLY1305_SHA256"
    .chacha20 32 .chaCha20Poly1305 12 16 .sha256⟩ smallConfig).installReadKeys
      Protector.chaChaKeys).2

theorem reached_smallReceiver : smallReceiver.Reached := by
  have hcreated : Protector.Reached (Protector.create ⟨.tls13, .server, CipherSuite.aead13 0x1303
      "TLS_CHACHA20_POLY1305_SHA256" .chacha20 32 .chaCha20Poly1305 12 16 .sha256⟩ smallConfig) :=
    .created rfl
  exact hcreated.installedReadKeys Protector.chaChaKeys

namespace ReadCall

/-- The compatibility record of one byte that there is. -/
theorem smallReceiver_reads_one_byte :
    ((inOrder .changeCipherSpec [1]).run smallReceiver).1 = .ok (.changeCipherSpec, [1])
      ∧ ([1] : Bytes).length ≤ smallReceiver.config.maxRecordSize := by
  have hread : ((inOrder .changeCipherSpec [1]).run smallReceiver).1
      = .ok (.changeCipherSpec, [1]) := rfl
  refine ⟨hread, (plaintext_within_limit_iff hread).1.mpr ?_⟩
  rintro ⟨-, hlong⟩
  exact absurd hlong (by decide)

/-- Not all that is returned is as short as is configured: of compatibility records, only the
fragment is limited. -/
theorem not_forall_plaintext_within_limit :
    ¬ ∀ (protector : Protector) (call : ReadCall) (content : ContentType × Bytes),
      protector.Reached → protector.params.suite ∈ CipherSuite.catalog →
      (call.run protector).1 = .ok content →
      content.2.length ≤ protector.config.maxRecordSize := by
  intro h
  have hread : ((inOrder .changeCipherSpec [1, 1]).run smallReceiver).1
      = .ok (.changeCipherSpec, [1, 1]) := rfl
  have hshort := h smallReceiver _ _ reached_smallReceiver (by decide) hread
  exact absurd hshort (by decide)

end ReadCall

end RecordProtection
