import RecordProtection.Proofs.Connection
import RecordProtection.Proofs.Reached

/-!
# Record sizes of sender and receiver

Under keys of version 1.3 a record is as long as its inner plaintext and the tag of the suite, and
the sender caps the inner plaintext by the longest one there is.  The receiver's limit is relative
to the configured record size instead, so both agree only as far as the padding fits into the
expansion that the receiver allows.
-/

namespace RecordProtection

theorem Config.maxRecordSize_le_of_validate {config : Config}
    (hconfig : config.validate = .ok config) : config.maxRecordSize ≤ maxPlaintextLength := by
  by_contra hlong
  have hrefused : config.maxRecordSize = 0 ∨ config.maxRecordSize > maxPlaintextLength :=
    .inr (Nat.not_le.mp hlong)
  simp [validate, hrefused] at hconfig

namespace Protector

theorem length_outerContent_le_of_short {sender : Protector}
    (hconfig : sender.config.validate = .ok sender.config) (type : ContentType) {plaintext : Bytes}
    (hshort : plaintext.length ≤ sender.config.maxRecordSize) :
    (sender.outerContent type plaintext).2.length ≤ maxPlaintextLength + 1 := by
  have hlimit := Config.maxRecordSize_le_of_validate hconfig
  cases h13 : sender.writes13 with
  | true =>
      rw [length_outerContent type plaintext h13]
      omega
  | false =>
      rw [outerContent_of_not_writes13 type plaintext h13]
      exact Nat.le_succ_of_le (hshort.trans hlimit)

/-- The inner plaintext is never too long, and a record is within the limit of a receiver with the
same settings exactly if content, type, padding and tag fit into it, where there are any. -/
theorem fragment_within_limit_iff {sender receiver : Protector} (hreached : Reached sender)
    (hsuite : sender.params.suite ∈ CipherSuite.catalog)
    (hconfig : receiver.config = sender.config) (hreads : receiver.reads13 = sender.writes13)
    {type : ContentType} {plaintext : Bytes} {random : RandomSource} {record : ProtectedRecord}
    (hprotect : (sender.protect type plaintext random).1 = .ok record) :
    (sender.outerContent type plaintext).2.length ≤ maxPlaintextLength + 1
      ∧ (record.fragment.length ≤ receiver.fragmentLimit
        ↔ (sender.writes13 = true →
          plaintext.length + 1
              + min sender.config.tls13Padding (maxPlaintextLength - plaintext.length)
              + sender.params.suite.tagLength
            ≤ sender.config.maxRecordSize + maxExpansion13)) := by
  have hsender := inUse_of_reached hreached
  refine ⟨length_outerContent_le_of_short hsender.config type (encrypt_of_protect hprotect).1, ?_⟩
  unfold fragmentLimit
  rw [hconfig, hreads]
  cases h13 : sender.writes13 with
  | true =>
      have hlength := length_fragment_of_writes13 hsuite hsender.write hprotect h13
      simp only [hlength, if_true, true_implies]
  | false =>
      have hlength := length_fragment_of_not_writes13 hsuite hsender.write hprotect h13
      simpa using hlength

section Padded

open Connection

theorem reached_zeroScheduleEnd {config : Config} (hconfig : config.validate = .ok config)
    (role : Role) : Reached (zeroScheduleEnd config role) := by
  have hcreated : Reached (create ⟨.tls13, role, chaChaSuite⟩ config) :=
    .created hconfig
  have hkeyed := hcreated.installedTrafficSecrets zeroSchedule .application
  rwa [installTrafficSecrets_zeroSchedule] at hkeyed

theorem chaChaSuite_mem_catalog : chaChaSuite ∈ CipherSuite.catalog := by
  decide

/-- One byte less than the longest content just leaves room for its padding. -/
theorem record_reaches_limit : ∃ record,
    ((zeroScheduleEnd paddedConfig .client).protect .applicationData (List.replicate 240 0x61)
      zeroRandom).1 = .ok record
      ∧ record.fragment.length = 497
      ∧ record.fragment.length ≤ (zeroScheduleEnd paddedConfig .server).fragmentLimit := by
  have hsent : ((zeroScheduleEnd paddedConfig .client).protect .applicationData
      (List.replicate 240 0x61) zeroRandom).1.map (fun record => record.fragment.length)
      = .ok 497 := by
    decide +kernel
  obtain ⟨record, hprotect, hlength⟩ := map_eq_ok_iff.mp hsent
  have hiff := (@fragment_within_limit_iff _ (zeroScheduleEnd paddedConfig .server)
    (reached_zeroScheduleEnd rfl .client) chaChaSuite_mem_catalog rfl rfl _ _ _ _ hprotect).2
  refine ⟨record, hprotect, hlength, hiff.mpr fun _ => ?_⟩
  rw [List.length_replicate]
  decide

/-- Not all records are within the limit of a receiver with the same settings: the longest content
may come with almost as much padding. -/
theorem not_forall_fragment_within_limit :
    ¬ ∀ (sender receiver : Protector) (type : ContentType) (plaintext : Bytes)
      (random : RandomSource) (record : ProtectedRecord), Reached sender →
      sender.params.suite ∈ CipherSuite.catalog →
      receiver.config = sender.config → receiver.reads13 = sender.writes13 →
      (sender.protect type plaintext random).1 = .ok record →
      record.fragment.length ≤ receiver.fragmentLimit
        ∧ (sender.outerContent type plaintext).2.length ≤ maxPlaintextLength + 1 := by
  intro h
  have hsent : ((zeroScheduleEnd paddedConfig .client).protect .applicationData (Bytes.zeros 241)
      zeroRandom).1.map (fun record => record.fragment.length) = .ok 498 := by
    decide +kernel
  obtain ⟨record, hprotect, hlength⟩ := map_eq_ok_iff.mp hsent
  obtain ⟨hshort, -⟩ := h _ (zeroScheduleEnd paddedConfig .server) _ _ _ record
    (reached_zeroScheduleEnd rfl .client) chaChaSuite_mem_catalog rfl rfl hprotect
  rw [hlength] at hshort
  exact absurd hshort (by decide)

end Padded

end Protector

end RecordProtection
