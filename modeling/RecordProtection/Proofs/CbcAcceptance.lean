import RecordProtection.Proofs.CipherMode

/-!
# Which records a chaining mode accepts

Below the limit of its counter, a mode in cipher block chaining accepts the records of its grammar:
content, the MAC of the content, and padding behind it.  It accepts one more kind of records, as
empty ones: those that start with the MAC of empty content and whose padding reaches into this MAC.
-/

namespace RecordProtection

namespace CipherMode

theorem decrypt_eq_ok_iff {mode : CipherMode} {type : ContentType} {record content : Bytes} :
    (mode.decrypt type record).1 = .ok content
      ↔ (mode.transform.decrypt mode.auth type record).1 = .ok content
        ∧ mode.auth.sequence.number < mode.auth.maxNumber := by
  rcases htransform : mode.transform.decrypt mode.auth type record with ⟨_ | decrypted, transform⟩
  · simp [decrypt, htransform]
  · by_cases hnumber : mode.auth.sequence.number < mode.auth.maxNumber
    · have hadvance : ¬ mode.auth.sequence.number ≥ mode.auth.maxNumber :=
        UInt64.not_le.mpr hnumber
      simp [decrypt, htransform, Authenticator.advance, if_neg hadvance, hnumber]
    · have hadvance : mode.auth.sequence.number ≥ mode.auth.maxNumber :=
        UInt64.not_lt.mp hnumber
      simp [decrypt, htransform, Authenticator.advance, if_pos hadvance, hnumber]

/-! ### A record outside the grammar -/

/-- Records under a key of zeros, each behind its own IV. -/
def overlapCbc : Cbc := ⟨aes (Bytes.zeros 16), .explicit⟩

/-- A mode whose MAC of an empty record ends in the byte `0x0c`. -/
def overlapMode : CipherMode where
  kind := .cbc
  transform := .cbc overlapCbc
  auth := ⟨.tls12, some ⟨.sha1, 0x26 :: Bytes.zeros 19⟩, .first 0⟩

def overlapMac : Bytes := [
  0xb9, 0x70, 0x0f, 0x6b, 0x9e, 0x2f, 0x03, 0x76, 0x4c, 0x07, 0xcd, 0xb0, 0xbb, 0x6e, 0xf7, 0xa0,
  0xbb, 0x3d, 0xca, 0x0c]

/-- The encryption of this MAC and of twelve more bytes `0x0c`, from a block of zeros on. -/
def overlapBody : Bytes := [
  0xda, 0xe4, 0x53, 0xd4, 0x62, 0x41, 0x7a, 0x50, 0x29, 0x32, 0xd0, 0x4b, 0x37, 0x01, 0x55, 0xa3,
  0x45, 0x99, 0x88, 0x78, 0xfe, 0x1c, 0xc2, 0x1b, 0x52, 0xc8, 0x10, 0x5c, 0x4f, 0x00, 0x4e, 0x79]

def overlapRecord : Bytes := Bytes.zeros 16 ++ overlapBody

theorem reached_overlapMode : overlapMode.Reached := by
  have hengine : Engine.create .aes false (Bytes.zeros 16)
      = .ok ⟨.aes, false, Bytes.zeros 16, .block (aes (Bytes.zeros 16))⟩ := rfl
  have hcreate : create .cbc ⟨.aes, false, Bytes.zeros 16, .block (aes (Bytes.zeros 16))⟩
      overlapMode.auth [] 0 = .ok overlapMode := rfl
  exact .created (.created hengine) hcreate

theorem computeMac_overlapMode :
    overlapMode.auth.computeMac .applicationData [] = overlapMac := by
  decide +kernel

theorem cbcDecrypt_overlapBody :
    cbcDecrypt overlapCbc.cipher (Bytes.zeros 16) overlapBody
      = overlapMac ++ List.replicate 12 0x0c := by
  decide +kernel

theorem overlaps_overlapRecord :
    overlapCbc.Overlaps overlapMode.auth .applicationData overlapRecord := by
  refine ⟨Bytes.zeros 16, overlapBody, rfl, by decide, ?_⟩
  rw [cbcDecrypt_overlapBody]
  refine ⟨?_, by decide, 0x0c, by decide, by decide⟩
  rw [computeMac_overlapMode]
  exact List.prefix_append _ _

/-! ### Acceptance -/

section Acceptance

variable {mode : CipherMode} {cbc : Cbc} (hmode : mode.Reached)
  (hcbc : mode.transform = .cbc cbc)
  (hnumber : mode.auth.sequence.number < mode.auth.maxNumber)
include hmode hcbc hnumber

/-- Outside the grammar, only overlapping records are accepted, as empty ones. -/
theorem decrypt_cbc_eq_ok_iff {type : ContentType} {record content : Bytes} :
    (mode.decrypt type record).1 = .ok content
      ↔ cbc.InGrammar mode.auth type record content
        ∨ content = [] ∧ cbc.Overlaps mode.auth type record := by
  have hlawful := hmode.lawful
  rw [hcbc] at hlawful
  rw [decrypt_eq_ok_iff, hcbc, ← Cbc.decrypt_eq_ok_iff hlawful]
  simp only [Transform.decrypt, hnumber, and_true]

/-- The accepted contents of a record are those of the grammar, exactly if the padding of the
record does not reach into the MAC of empty content. -/
theorem decrypt_follows_grammar_iff (type : ContentType) (record : Bytes) :
    (∀ content, (mode.decrypt type record).1 = .ok content
        ↔ cbc.InGrammar mode.auth type record content)
      ↔ ¬ cbc.Overlaps mode.auth type record := by
  constructor
  · intro hgrammar hoverlaps
    have haccepted := (decrypt_cbc_eq_ok_iff hmode hcbc hnumber).mpr
      (.inr ⟨rfl, hoverlaps⟩ : cbc.InGrammar mode.auth type record [] ∨ _)
    exact Cbc.not_overlaps_of_inGrammar ((hgrammar []).mp haccepted) hoverlaps
  · intro hoverlaps content
    rw [decrypt_cbc_eq_ok_iff hmode hcbc hnumber]
    exact or_iff_left fun h => hoverlaps h.2

end Acceptance

theorem overlapRecord_leaves_grammar :
    ¬ ∀ content, (overlapMode.decrypt .applicationData overlapRecord).1 = .ok content
      ↔ overlapCbc.InGrammar overlapMode.auth .applicationData overlapRecord content :=
  fun h => (decrypt_follows_grammar_iff reached_overlapMode rfl (by decide) .applicationData
    overlapRecord).mp h overlaps_overlapRecord

/-- Not all chaining modes accept exactly the records of their grammar. -/
theorem not_forall_decrypt_follows_grammar :
    ¬ ∀ (mode : CipherMode) (cbc : Cbc) (type : ContentType) (record content : Bytes),
      mode.Reached → mode.transform = .cbc cbc → mode.auth.mac.isSome →
      mode.auth.sequence.number < mode.auth.maxNumber →
      ((mode.decrypt type record).1 = .ok content
        ↔ cbc.InGrammar mode.auth type record content) := by
  intro h
  have haccepted := (decrypt_cbc_eq_ok_iff reached_overlapMode rfl (by decide)).mpr
    (.inr ⟨rfl, overlaps_overlapRecord⟩)
  have hgrammar := (h overlapMode overlapCbc .applicationData overlapRecord [] reached_overlapMode
    rfl rfl (by decide)).mp haccepted
  exact Cbc.not_overlaps_of_inGrammar hgrammar overlaps_overlapRecord

end CipherMode

end RecordProtection
