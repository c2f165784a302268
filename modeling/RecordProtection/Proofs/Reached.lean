import RecordProtection.Proofs.Placement

/-!
# Protectors in use

A protector starts without keys.  Keys are installed and updated, records are protected and read, in
any order, with any arguments and whatever comes of it.  Each direction then still holds the mode it
started with or got with its latest keys, only used: its counter and its transform may have moved.
-/

namespace RecordProtection

/-! ### Modes in use -/

namespace Transform

/-- What records leave of a transform. -/
structure Continues (transform next : Transform) : Prop where
  lawful : transform.Lawful → next.Lawful
  sentLength : next.sentLength = transform.sentLength
  overhead : ∀ auth, next.overhead auth = transform.overhead auth
  stateless : transform.Stateless → next = transform

theorem continues_encrypt (transform : Transform) (auth : Authenticator) (type : ContentType)
    (plaintext : Bytes) (random : RandomSource) :
    transform.Continues (transform.encrypt auth type plaintext random).2.1 where
  lawful hlawful := hlawful.encrypt auth type plaintext random
  sentLength := transform.sentLength_encrypt auth type plaintext random
  overhead other := transform.overhead_encrypt auth other type plaintext random
  stateless hstateless := hstateless.encrypt auth type plaintext random

theorem continues_decrypt (transform : Transform) (auth : Authenticator) (type : ContentType)
    (record : Bytes) : transform.Continues (transform.decrypt auth type record).2 where
  lawful hlawful := hlawful.decrypt auth type record
  sentLength := by cases transform <;> rfl
  overhead other := transform.overhead_decrypt auth other type record
  stateless hstateless := hstateless.decrypt auth type record

end Transform

theorem maxDatagramNumber_le_maxNumber (auth : Authenticator) :
    maxDatagramNumber ≤ auth.maxNumber := by
  unfold Authenticator.maxNumber
  split <;> decide

theorem Authenticator.number_le_of_advance {auth next : Authenticator}
    (hadvance : auth.advance = .ok next) : next.sequence.number ≤ next.maxNumber := by
  obtain ⟨hnumber, rfl⟩ := advance_eq_ok_iff.mp hadvance
  have hlt := UInt64.lt_iff_toNat_lt.mp hnumber
  have hbound := auth.maxNumber.toNat_lt
  have hnext : (auth.sequence.number + 1).toNat = auth.sequence.number.toNat + 1 := by
    rw [UInt64.toNat_add, UInt64.toNat_one, Nat.mod_eq_of_lt (by omega)]
  refine UInt64.le_iff_toNat_le.mpr ?_
  change (auth.sequence.number + 1).toNat ≤ auth.maxNumber.toNat
  omega

namespace CipherMode

/-- What records and moves of the counter leave of a mode. -/
structure Continues (mode next : CipherMode) : Prop where
  transform : mode.transform.Continues next.transform
  version : next.auth.version = mode.auth.version
  mac : next.auth.mac = mode.auth.mac
  number_le : mode.auth.sequence.number ≤ mode.auth.maxNumber →
    next.auth.sequence.number ≤ next.auth.maxNumber
  reached : mode.Reached → next.Reached

theorem Continues.refl (mode : CipherMode) : mode.Continues mode :=
  ⟨⟨id, rfl, fun _ => rfl, fun _ => rfl⟩, rfl, rfl, id, id⟩

theorem Continues.trans {first second third : CipherMode} (hfirst : first.Continues second)
    (hsecond : second.Continues third) : first.Continues third where
  transform := by
    refine ⟨hsecond.transform.lawful ∘ hfirst.transform.lawful, ?_, fun auth => ?_, ?_⟩
    · rw [hsecond.transform.sentLength, hfirst.transform.sentLength]
    · rw [hsecond.transform.overhead, hfirst.transform.overhead]
    · intro hstateless
      have hkept := hfirst.transform.stateless hstateless
      rw [hsecond.transform.stateless (hkept ▸ hstateless), hkept]
  version := hsecond.version.trans hfirst.version
  mac := hsecond.mac.trans hfirst.mac
  number_le := hsecond.number_le ∘ hfirst.number_le
  reached := hsecond.reached ∘ hfirst.reached

theorem continues_placed (mode : CipherMode) {sequence : Sequence}
    (hnumber : sequence.number ≤ mode.auth.maxNumber) : mode.Continues (mode.placed sequence) :=
  ⟨⟨id, rfl, fun _ => rfl, fun _ => rfl⟩, rfl, rfl, fun _ => hnumber,
    fun hreached => hreached.placed sequence⟩

/-- The counter has moved on or not. -/
theorem continues_of_advance {mode : CipherMode} {transform : Transform} {auth : Authenticator}
    (htransform : mode.transform.Continues transform)
    (hauth : auth = mode.auth ∨ mode.auth.advance = .ok auth)
    (hreached : mode.Reached → Reached { mode with transform := transform, auth := auth }) :
    mode.Continues { mode with transform := transform, auth := auth } := by
  rcases hauth with rfl | hadvance
  · exact ⟨htransform, rfl, rfl, id, hreached⟩
  · have hnumber := Authenticator.number_le_of_advance hadvance
    obtain ⟨-, rfl⟩ := Authenticator.advance_eq_ok_iff.mp hadvance
    exact ⟨htransform, rfl, rfl, fun _ => hnumber, hreached⟩

theorem continues_encrypt (mode : CipherMode) (type : ContentType) (plaintext : Bytes)
    (random : RandomSource) : mode.Continues (mode.encrypt type plaintext random).2.1 := by
  have hreached := fun hmode : mode.Reached => hmode.encrypted type plaintext random
  have hkept := mode.transform.continues_encrypt mode.auth type plaintext random
  rcases htransform : mode.transform.encrypt mode.auth type plaintext random
    with ⟨_ | record, transform, rest⟩
  · rw [htransform] at hkept
    simp only [encrypt, htransform] at hreached ⊢
    exact continues_of_advance hkept (.inl rfl) hreached
  · rw [htransform] at hkept
    cases hadvance : mode.auth.advance with
    | error e =>
        simp only [encrypt, htransform, hadvance] at hreached ⊢
        exact continues_of_advance hkept (.inl rfl) hreached
    | ok auth =>
        simp only [encrypt, htransform, hadvance] at hreached ⊢
        exact continues_of_advance hkept (.inr hadvance) hreached

theorem continues_decrypt (mode : CipherMode) (type : ContentType) (record : Bytes) :
    mode.Continues (mode.decrypt type record).2 := by
  have hreached := fun hmode : mode.Reached => hmode.decrypted type record
  have hkept := mode.transform.continues_decrypt mode.auth type record
  rcases htransform : mode.transform.decrypt mode.auth type record with ⟨_ | content, transform⟩
  · rw [htransform] at hkept
    simp only [decrypt, htransform] at hreached ⊢
    exact continues_of_advance hkept (.inl rfl) hreached
  · rw [htransform] at hkept
    cases hadvance : mode.auth.advance with
    | error e =>
        simp only [decrypt, htransform, hadvance] at hreached ⊢
        exact continues_of_advance hkept (.inl rfl) hreached
    | ok auth =>
        simp only [decrypt, htransform, hadvance] at hreached ⊢
        exact continues_of_advance hkept (.inr hadvance) hreached

end CipherMode

/-! ### Directions in use -/

namespace Direction

/-- A direction without keys or under keys of a suite, after any use. -/
def InUse (direction : Direction) (suite : CipherSuite) (version : ProtocolVersion) : Prop :=
  ∃ start : Direction, (start = plain version ∨ start.KeyedFor suite version)
    ∧ direction.isProtected = start.isProtected ∧ start.mode.Continues direction.mode

theorem inUse_plain (suite : CipherSuite) (version : ProtocolVersion) :
    (plain version).InUse suite version :=
  ⟨plain version, .inl rfl, rfl, .refl _⟩

theorem inUse_of_keyedFor {direction : Direction} {suite : CipherSuite} {version : ProtocolVersion}
    (hdirection : direction.KeyedFor suite version) : direction.InUse suite version :=
  ⟨direction, .inr hdirection, rfl, .refl _⟩

theorem reliable_plain (version : ProtocolVersion) :
    (plain version).mode.Reliable version where
  version := rfl
  lawful := trivial
  header := .inr rfl
  overhead := Nat.zero_le _

section InUse

variable {direction : Direction} {suite : CipherSuite} {version : ProtocolVersion}
  (hdirection : direction.InUse suite version)
include hdirection

theorem InUse.continue {mode : CipherMode} (hmode : direction.mode.Continues mode)
    (window : ReplayWindow) :
    ({ direction with mode := mode, replay := window } : Direction).InUse suite version := by
  obtain ⟨start, hstart, hprotected, hcontinues⟩ := hdirection
  exact ⟨start, hstart, hprotected, hcontinues.trans hmode⟩

theorem InUse.reached : direction.mode.Reached := by
  obtain ⟨start, hstart, -, hcontinues⟩ := hdirection
  refine hcontinues.reached ?_
  rcases hstart with rfl | ⟨keys, mode, epoch, hmode, rfl⟩
  · have hengine : Engine.create .none true [] = .ok ⟨.none, true, [], .identity⟩ := rfl
    have hcreate : CipherMode.create .null ⟨.none, true, [], .identity⟩
        (Authenticator.withoutMac version) [] 0 = .ok (plain version).mode := rfl
    exact .created (.created hengine) hcreate
  · obtain ⟨key, macKey, iv, hmode⟩ := TrafficKeys.create_of_cipherMode hmode
    obtain ⟨-, engine, auth, hengine, -, hcreate⟩ := CipherSuite.create_of_cipherMode hmode
    exact (CipherMode.Reached.created (.created hengine) hcreate).placed _

/-- The counter never passes its limit. -/
theorem InUse.number_le :
    direction.sequence.number ≤ direction.mode.auth.maxNumber := by
  obtain ⟨start, hstart, -, hcontinues⟩ := hdirection
  refine hcontinues.number_le ?_
  rcases hstart with rfl | ⟨keys, mode, epoch, -, rfl⟩
  · exact UInt64.zero_le
  · exact UInt64.zero_le

theorem InUse.auth_version : direction.mode.auth.version = version := by
  obtain ⟨start, hstart, -, hcontinues⟩ := hdirection
  rw [hcontinues.version]
  rcases hstart with rfl | hkeyed
  · rfl
  · exact version_of_keyedFor hkeyed

/-- Datagram records have a place wherever the counter is. -/
theorem InUse.number_le_of_isDatagram (hversion : version.isDatagram = true) :
    direction.sequence.number ≤ maxDatagramNumber := by
  have hnumber := hdirection.number_le
  rwa [Authenticator.maxNumber, hdirection.auth_version, if_pos hversion] at hnumber

variable (hsuite : suite ∈ CipherSuite.catalog)
include hsuite

theorem InUse.reliable : direction.mode.Reliable version := by
  obtain ⟨start, hstart, -, hcontinues⟩ := hdirection
  have hreliable : start.mode.Reliable version := by
    rcases hstart with rfl | hkeyed
    · exact reliable_plain version
    · exact reliable_of_keyedFor hsuite hkeyed
  refine ⟨hcontinues.version.trans hreliable.version,
    hcontinues.transform.lawful hreliable.lawful, ?_, ?_⟩
  · rw [hcontinues.version, hcontinues.transform.sentLength]
    exact hreliable.header
  · rw [hcontinues.version, hcontinues.transform.overhead,
      Transform.overhead_congr _ hcontinues.mac]
    exact hreliable.overhead

theorem InUse.stateless (hversion : version.isDatagram = true) :
    direction.mode.transform.Stateless := by
  obtain ⟨start, hstart, -, hcontinues⟩ := hdirection
  have hstateless : start.mode.transform.Stateless := by
    rcases hstart with rfl | hkeyed
    · trivial
    · exact stateless_of_keyedFor hsuite hversion hkeyed
  rw [hcontinues.transform.stateless hstateless]
  exact hstateless

end InUse

end Direction

/-! ### Protectors in use -/

namespace Protector

/-- Both directions are in use under settings that were accepted. -/
structure InUse (protector : Protector) : Prop where
  config : protector.config.validate = .ok protector.config
  write : protector.write.InUse protector.params.suite protector.params.version
  read : protector.read.InUse protector.params.suite protector.params.version

/-- What any calls can make of a new protector, whatever its suite is and whatever they return. -/
inductive Reached : Protector → Prop
  | created {params : Parameters} {config : Config} (hconfig : config.validate = .ok config) :
      Reached (create params config)
  | installedWriteKeys {protector : Protector} (hprotector : Reached protector)
      (keys : TrafficKeys) : Reached (protector.installWriteKeys keys).2
  | installedReadKeys {protector : Protector} (hprotector : Reached protector)
      (keys : TrafficKeys) : Reached (protector.installReadKeys keys).2
  | installedKeyBlock {protector : Protector} (hprotector : Reached protector)
      (block : KeyBlock) : Reached (protector.installKeyBlock block).2
  | installedTrafficSecrets {protector : Protector} (hprotector : Reached protector)
      (schedule : HkdfSchedule) (stage : TrafficStage) :
      Reached (protector.installTrafficSecrets schedule stage).2
  | updatedWriteKeys {protector : Protector} (hprotector : Reached protector)
      (schedule : HkdfSchedule) : Reached (protector.updateWriteKeys schedule).2.1
  | updatedReadKeys {protector : Protector} (hprotector : Reached protector)
      (schedule : HkdfSchedule) : Reached (protector.updateReadKeys schedule).2.1
  | protectedRecord {protector : Protector} (hprotector : Reached protector) (type : ContentType)
      (plaintext : Bytes) (random : RandomSource) :
      Reached (protector.protect type plaintext random).2.1
  | unprotectedRecord {protector : Protector} (hprotector : Reached protector) (type : ContentType)
      (fragment : Bytes) : Reached (protector.unprotect type fragment).2
  | unprotectedAt {protector : Protector} (hprotector : Reached protector) (type : ContentType)
      (sequence : Sequence) (fragment : Bytes) :
      Reached (protector.unprotectAt type sequence fragment).2

namespace InUse

variable {protector : Protector} (hprotector : protector.InUse)
include hprotector

/-! #### Keys -/

theorem installWriteKeys (keys : TrafficKeys) : (protector.installWriteKeys keys).2.InUse := by
  unfold Protector.installWriteKeys
  split
  · rename_i write hrekey
    exact ⟨hprotector.config,
      Direction.inUse_of_keyedFor (keyedFor_of_rekey hrekey), hprotector.read⟩
  · exact hprotector

theorem installReadKeys (keys : TrafficKeys) : (protector.installReadKeys keys).2.InUse := by
  unfold Protector.installReadKeys
  split
  · rename_i read hrekey
    exact ⟨hprotector.config, hprotector.write,
      Direction.inUse_of_keyedFor (keyedFor_of_rekey hrekey)⟩
  · exact hprotector

theorem installKeyBlock (block : KeyBlock) : (protector.installKeyBlock block).2.InUse := by
  have hwritten := hprotector.installWriteKeys (block.writeKeys protector.params.role)
  unfold Protector.installKeyBlock
  split
  · exact hprotector
  · split
    · rename_i written hwrite
      rw [hwrite] at hwritten
      exact InUse.installReadKeys hwritten _
    · rename_i e kept hwrite
      rwa [hwrite] at hwritten

theorem installTrafficSecrets (schedule : HkdfSchedule) (stage : TrafficStage) :
    (protector.installTrafficSecrets schedule stage).2.InUse := by
  unfold Protector.installTrafficSecrets
  split
  · rename_i write read hmodes
    obtain ⟨writeKeys, readKeys, -, -, hwrite, hread⟩ := stageModes_eq_ok_iff.mp hmodes
    exact ⟨hprotector.config,
      Direction.inUse_of_keyedFor ⟨writeKeys, write, stageEpoch stage, hwrite, rfl⟩,
      Direction.inUse_of_keyedFor ⟨readKeys, read, stageEpoch stage, hread, rfl⟩⟩
  · exact hprotector

theorem updateWriteKeys (schedule : HkdfSchedule) :
    (protector.updateWriteKeys schedule).2.1.InUse := by
  unfold Protector.updateWriteKeys
  split
  · exact hprotector.installWriteKeys _
  · exact hprotector

theorem updateReadKeys (schedule : HkdfSchedule) :
    (protector.updateReadKeys schedule).2.1.InUse := by
  unfold Protector.updateReadKeys
  split
  · exact hprotector.installReadKeys _
  · exact hprotector

/-! #### Records -/

theorem writeMode {mode : CipherMode} (hmode : protector.write.mode.Continues mode) :
    ({ protector with write := { protector.write with mode := mode } } : Protector).InUse :=
  ⟨hprotector.config, hprotector.write.continue hmode _, hprotector.read⟩

theorem readMode {mode : CipherMode} (hmode : protector.read.mode.Continues mode)
    (window : ReplayWindow) :
    ({ protector with
      read := { protector.read with mode := mode, replay := window } } : Protector).InUse :=
  ⟨hprotector.config, hprotector.write, hprotector.read.continue hmode window⟩

theorem protect (type : ContentType) (plaintext : Bytes) (random : RandomSource) :
    (protector.protect type plaintext random).2.1.InUse := by
  unfold Protector.protect
  by_cases hlong : plaintext.length > protector.config.maxRecordSize
  · rwa [if_pos hlong]
  · rw [if_neg hlong]
    exact hprotector.writeMode (CipherMode.continues_encrypt _ _ _ _)

theorem unprotect (type : ContentType) (fragment : Bytes) :
    (protector.unprotect type fragment).2.InUse := by
  unfold Protector.unprotect
  split
  · exact hprotector
  · split
    · exact hprotector
    · split
      · exact hprotector
      · exact hprotector.readMode (CipherMode.continues_decrypt _ _ _) _

theorem markSeen (number : UInt64) : (protector.markSeen number).InUse := by
  unfold Protector.markSeen
  split
  · exact hprotector.readMode (.refl _) _
  · exact hprotector

theorem readPlaced {sequence : Sequence}
    (hnumber : sequence.number ≤ protector.read.mode.auth.maxNumber) :
    ({ protector with
      read := { protector.read with mode := protector.read.mode.placed sequence } }
        : Protector).InUse :=
  hprotector.readMode (CipherMode.continues_placed _ hnumber) _

/-- The place of a datagram record and the place the counter goes back to are both within its
limit. -/
theorem unprotectAt (type : ContentType) (sequence : Sequence) (fragment : Bytes) :
    (protector.unprotectAt type sequence fragment).2.InUse := by
  cases hplace : protector.checkPlace sequence with
  | error e =>
      rwa [unprotectAt_of_refused hplace]
  | ok read =>
      have hdatagram := isDatagram_of_checkPlace hplace
      obtain ⟨-, -, hnumber, -⟩ := (checkPlace_eq_ok_iff hdatagram).mp hplace
      have hplaced : (protector.readAt sequence.number protector.read.replay).InUse :=
        hprotector.readPlaced (UInt64.le_trans hnumber (maxDatagramNumber_le_maxNumber _))
      have hunprotected := hplaced.unprotect type fragment
      rw [unprotectAt_of_checkPlace hdatagram hplace]
      split
      · rename_i content after hunprotect
        rw [hunprotect] at hunprotected
        exact hunprotected.markSeen _
      · rename_i e after hunprotect
        rw [hunprotect] at hunprotected
        have hnumber := hprotector.read.number_le_of_isDatagram hdatagram
        exact hunprotected.readPlaced (UInt64.le_trans hnumber (maxDatagramNumber_le_maxNumber _))

end InUse

/-- Every call leaves both directions in use. -/
theorem inUse_of_reached {protector : Protector} (hreached : Reached protector) :
    protector.InUse := by
  induction hreached with
  | created hconfig =>
      exact ⟨hconfig, Direction.inUse_plain _ _, Direction.inUse_plain _ _⟩
  | installedWriteKeys _ keys ih => exact ih.installWriteKeys keys
  | installedReadKeys _ keys ih => exact ih.installReadKeys keys
  | installedKeyBlock _ block ih => exact ih.installKeyBlock block
  | installedTrafficSecrets _ schedule stage ih => exact ih.installTrafficSecrets schedule stage
  | updatedWriteKeys _ schedule ih => exact ih.updateWriteKeys schedule
  | updatedReadKeys _ schedule ih => exact ih.updateReadKeys schedule
  | protectedRecord _ type plaintext random ih => exact ih.protect type plaintext random
  | unprotectedRecord _ type fragment ih => exact ih.unprotect type fragment
  | unprotectedAt _ type sequence fragment ih => exact ih.unprotectAt type sequence fragment

end Protector

end RecordProtection
