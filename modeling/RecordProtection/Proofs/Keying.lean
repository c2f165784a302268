import RecordProtection.Proofs.Overhead
import RecordProtection.Proofs.Protector

/-!
# Keys for both ends

The ends of a direction that get the same keys hold the same mode afterwards, in whatever way the
keys come to them.  The modes of all suites of the catalog read back what they protect.
-/

namespace RecordProtection

/-! ### Modes of suites -/

/-- How much longer than what is encrypted a record of a version gets. -/
def maxOverhead (version : ProtocolVersion) : Nat := if version.is13 then 16 else 96

/-- Records of the version under the mode are read back: its transform is lawful, both ends compute
the same headers, and records do not get too long. -/
structure CipherMode.Reliable (mode : CipherMode) (version : ProtocolVersion) : Prop where
  version : mode.auth.version = version
  lawful : mode.transform.Lawful
  header : mode.auth.version.is13 = false ∨ mode.transform.sentLength = 0
  overhead : mode.transform.overhead mode.auth ≤ maxOverhead mode.auth.version

namespace CipherSuite

theorem explicitNonceLength_of_is13 :
    ∀ suite ∈ catalog, suite.is13 = true → suite.explicitNonceLength = 0 := by
  decide

theorem isAead_of_is13 :
    ∀ suite ∈ catalog, suite.is13 = true → suite.mode.isAead = true := by
  decide

theorem mode_ne_stream_of_is13 :
    ∀ suite ∈ catalog, suite.is13 = true → suite.mode ≠ .stream := by
  decide

/-- Version 1.3 has suites of its own. -/
theorem is13_of_supports {suite : CipherSuite} {version : ProtocolVersion}
    (hsupports : suite.supports version = true) : suite.is13 = version.is13 := by
  unfold supports at hsupports
  cases hsuite : suite.is13 <;> cases hversion : version.is13 <;>
    simp [hsuite, hversion] at hsupports ⊢

theorem version_authenticator {suite : CipherSuite} {version : ProtocolVersion} {macKey : Bytes}
    {auth : Authenticator} (hauth : suite.authenticator version macKey = .ok auth) :
    auth.version = version := by
  unfold authenticator Authenticator.withMac at hauth
  split at hauth
  · split at hauth <;> cases hauth
    rfl
  · cases hauth
    rfl

theorem create_of_cipherMode {suite : CipherSuite} {version : ProtocolVersion}
    {forEncryption : Bool} {key macKey iv : Bytes} {mode : CipherMode}
    (hmode : suite.cipherMode version forEncryption key macKey iv = .ok mode) :
    suite.supports version = true ∧ ∃ engine auth,
      Engine.create suite.engine forEncryption key = .ok engine ∧ auth.version = version
      ∧ CipherMode.create suite.mode engine auth iv suite.explicitNonceLength = .ok mode := by
  unfold cipherMode at hmode
  cases hsupports : suite.supports version with
  | false => simp [hsupports, bind, Except.bind, throw, throwThe, MonadExceptOf.throw] at hmode
  | true =>
      simp only [hsupports, Bool.not_true, Bool.false_eq_true, if_false] at hmode
      obtain ⟨engine, hengine, hmode⟩ := bind_eq_ok_iff.mp hmode
      obtain ⟨auth, hauth, hmode⟩ := bind_eq_ok_iff.mp hmode
      exact ⟨rfl, engine, auth, hengine, version_authenticator hauth, hmode⟩

theorem reliable_of_cipherMode {suite : CipherSuite} (hsuite : suite ∈ catalog)
    {version : ProtocolVersion} {forEncryption : Bool} {key macKey iv : Bytes} {mode : CipherMode}
    (hmode : suite.cipherMode version forEncryption key macKey iv = .ok mode) :
    mode.Reliable version := by
  obtain ⟨hsupports, engine, auth, hengine, hversion, hcreate⟩ := create_of_cipherMode hmode
  obtain ⟨transform, htransform, rfl⟩ := CipherMode.create_eq_ok_iff.mp hcreate
  have hmade := CipherMode.made_of_transformOf htransform
  have hlawful := Engine.lawful_of_create hengine
  subst hversion
  cases h13 : auth.version.is13 with
  | false =>
      refine ⟨rfl, hmade.lawful hlawful, .inl h13, ?_⟩
      simp only [maxOverhead, h13, Bool.false_eq_true, if_false]
      exact hmade.overhead_le hlawful
  | true =>
      have hsuite13 := (is13_of_supports hsupports).trans h13
      have hsent := hmade.sentLength_eq
      rw [explicitNonceLength_of_is13 suite hsuite hsuite13, ite_self] at hsent
      have htag := hmade.overhead_le_of_isAead hlawful (isAead_of_is13 suite hsuite hsuite13)
      rw [hsent] at htag
      refine ⟨rfl, hmade.lawful hlawful, .inr hsent, ?_⟩
      simp only [maxOverhead, h13, if_true]
      exact htag

/-- Both ends make the same mode of the same keys. -/
theorem cipherMode_forEncryption (suite : CipherSuite) (version : ProtocolVersion)
    (forEncryption : Bool) (key macKey iv : Bytes) :
    suite.cipherMode version forEncryption key macKey iv
      = suite.cipherMode version true key macKey iv := by
  unfold cipherMode Engine.create
  by_cases hkey : key.length ∈ suite.engine.keyLengths
  · have hcreate (auth : Authenticator) := CipherMode.create_forEncryption suite.mode
      ⟨suite.engine, true, key, suite.engine.primitive key⟩ forEncryption auth iv
      suite.explicitNonceLength
    simp only [if_pos hkey, bind, Except.bind, hcreate]
  · simp only [if_neg hkey, bind, Except.bind]

end CipherSuite

theorem TrafficKeys.cipherMode_forEncryption (keys : TrafficKeys) (suite : CipherSuite)
    (version : ProtocolVersion) (forEncryption : Bool) :
    keys.cipherMode suite version forEncryption = keys.cipherMode suite version true := by
  simp only [cipherMode, suite.cipherMode_forEncryption version forEncryption]

theorem TrafficKeys.create_of_cipherMode {keys : TrafficKeys} {suite : CipherSuite}
    {version : ProtocolVersion} {forEncryption : Bool} {mode : CipherMode}
    (hmode : keys.cipherMode suite version forEncryption = .ok mode) :
    ∃ key macKey iv, suite.cipherMode version forEncryption key macKey iv = .ok mode := by
  obtain ⟨key, -, hmode⟩ := bind_eq_ok_iff.mp hmode
  obtain ⟨macKey, -, hmode⟩ := bind_eq_ok_iff.mp hmode
  obtain ⟨iv, -, hmode⟩ := bind_eq_ok_iff.mp hmode
  exact ⟨key, macKey, iv, hmode⟩

/-! ### Directions -/

def Direction.KeyedFor (direction : Direction) (suite : CipherSuite) (version : ProtocolVersion) :
    Prop :=
  ∃ keys mode epoch, TrafficKeys.cipherMode keys suite version true = .ok mode
    ∧ direction = Direction.install mode epoch

theorem Direction.reliable_of_keyedFor {direction : Direction} {suite : CipherSuite}
    (hsuite : suite ∈ CipherSuite.catalog) {version : ProtocolVersion}
    (hdirection : direction.KeyedFor suite version) :
    direction.mode.Reliable version := by
  obtain ⟨keys, mode, epoch, hmode, rfl⟩ := hdirection
  obtain ⟨key, macKey, iv, hmode⟩ := TrafficKeys.create_of_cipherMode hmode
  obtain ⟨hversion, hlawful, hheader, hoverhead⟩ :=
    CipherSuite.reliable_of_cipherMode hsuite hmode
  refine ⟨hversion, hlawful, hheader, ?_⟩
  exact (Transform.overhead_congr _ rfl).trans_le hoverhead

namespace Protector

structure Peers (one other : Protector) : Prop where
  version : other.params.version = one.params.version
  suite : other.params.suite = one.params.suite
  role : other.params.role = one.params.role.peer

theorem peer_peer (role : Role) : role.peer.peer = role := by
  cases role <;> rfl

theorem Peers.symm {one other : Protector} (hpeers : Peers one other) : Peers other one where
  version := hpeers.version.symm
  suite := hpeers.suite.symm
  role := by
    rw [hpeers.role, peer_peer]

/-- Directions at the same epoch come under the same keys together. -/
theorem rekey_peer {one other : Protector} (hpeers : Peers one other) {write read : Direction}
    (hepoch : read.sequence.epoch = write.sequence.epoch) (keys : TrafficKeys) :
    other.rekey read keys false = one.rekey write keys true := by
  simp only [rekey, hpeers.suite, hpeers.version, keys.cipherMode_forEncryption,
    Direction.nextEpoch, hepoch]

theorem keyedFor_of_rekey {protector : Protector} {before after : Direction} {keys : TrafficKeys}
    {forEncryption : Bool} (hrekey : protector.rekey before keys forEncryption = .ok after) :
    after.KeyedFor protector.params.suite protector.params.version := by
  obtain ⟨mode, hmode, hrekey⟩ := bind_eq_ok_iff.mp hrekey
  obtain ⟨epoch, -, hrekey⟩ := bind_eq_ok_iff.mp hrekey
  rw [keys.cipherMode_forEncryption] at hmode
  exact ⟨keys, mode, epoch, hmode, (Except.ok.inj hrekey).symm⟩

theorem installWriteKeys_eq_ok_iff {protector next : Protector} {keys : TrafficKeys} :
    protector.installWriteKeys keys = (.ok (), next)
      ↔ ∃ write, protector.rekey protector.write keys true = .ok write
        ∧ next = { protector with write := write } := by
  unfold installWriteKeys
  cases hrekey : protector.rekey protector.write keys true with
  | error e => simp
  | ok write => simp [eq_comm]

theorem installReadKeys_eq_ok_iff {protector next : Protector} {keys : TrafficKeys} :
    protector.installReadKeys keys = (.ok (), next)
      ↔ ∃ read, protector.rekey protector.read keys false = .ok read
        ∧ next = { protector with read := read } := by
  unfold installReadKeys
  cases hrekey : protector.rekey protector.read keys false with
  | error e => simp
  | ok read => simp [eq_comm]

theorem installKeyBlock_eq_ok_iff {protector next : Protector} {block : KeyBlock} :
    protector.installKeyBlock block = (.ok (), next)
      ↔ protector.params.version.is13 = false ∧ ∃ write read,
        protector.rekey protector.write (block.writeKeys protector.params.role) true = .ok write
        ∧ protector.rekey protector.read (block.readKeys protector.params.role) false = .ok read
        ∧ next = { protector with write := write, read := read } := by
  unfold installKeyBlock
  cases h13 : protector.params.version.is13 with
  | true => simp
  | false =>
      unfold installWriteKeys
      cases hwrite : protector.rekey protector.write (block.writeKeys protector.params.role)
        true with
      | error e => simp
      | ok write =>
          simp only [Bool.false_eq_true, if_false, installReadKeys_eq_ok_iff, Except.ok.injEq,
            true_and]
          constructor
          · rintro ⟨read, hread, rfl⟩
            exact ⟨write, read, rfl, hread, rfl⟩
          · rintro ⟨_, read, rfl, hread, rfl⟩
            exact ⟨read, hread, rfl⟩

end Protector

/-! ### Schedules of both ends -/

namespace SideSecrets

theorem get_set_same (secrets : SideSecrets) (role : Role) (secret : Secret) :
    (secrets.set role secret).get role = .ok secret := by
  cases role <;> rfl

theorem get_set_peer (secrets : SideSecrets) (role : Role) (secret : Secret) :
    (secrets.set role secret).get role.peer = secrets.get role.peer := by
  obtain ⟨client, server⟩ := secrets
  cases role <;> cases client <;> cases server <;> rfl

end SideSecrets

namespace HkdfSchedule

/-- Both ends hold the same traffic secrets. -/
structure Agrees (one other : HkdfSchedule) : Prop where
  version : other.version = one.version
  suite : other.suite = one.suite
  handshakeTraffic : other.handshakeTraffic = one.handshakeTraffic
  applicationTraffic : other.applicationTraffic = one.applicationTraffic

/-- Both ends hold the same application traffic secret of one end. -/
structure Shares (one other : HkdfSchedule) (role : Role) : Prop where
  version : other.version = one.version
  suite : other.suite = one.suite
  secret : other.applicationTraffic.get role = one.applicationTraffic.get role

theorem Agrees.symm {one other : HkdfSchedule} (hagrees : Agrees one other) : Agrees other one where
  version := hagrees.version.symm
  suite := hagrees.suite.symm
  handshakeTraffic := hagrees.handshakeTraffic.symm
  applicationTraffic := hagrees.applicationTraffic.symm

theorem Agrees.shares {one other : HkdfSchedule} (hagrees : Agrees one other) (role : Role) :
    Shares one other role where
  version := hagrees.version
  suite := hagrees.suite
  secret := congrArg (SideSecrets.get · role) hagrees.applicationTraffic

theorem Shares.refl (schedule : HkdfSchedule) (role : Role) : Shares schedule schedule role :=
  ⟨rfl, rfl, rfl⟩

theorem Shares.trans {first second third : HkdfSchedule} {role : Role}
    (hfirst : Shares first second role) (hsecond : Shares second third role) :
    Shares first third role where
  version := hsecond.version.trans hfirst.version
  suite := hsecond.suite.trans hfirst.suite
  secret := hsecond.secret.trans hfirst.secret

theorem trafficKeys_congr {one other : HkdfSchedule} (hversion : other.version = one.version)
    (hsuite : other.suite = one.suite) (secret : Secret) :
    other.trafficKeys secret = one.trafficKeys secret := by
  simp only [trafficKeys, expandLabel, hash, hversion, hsuite]

theorem trafficSecret_congr {one other : HkdfSchedule} (hagrees : Agrees one other) (role : Role)
    (stage : TrafficStage) : other.trafficSecret role stage = one.trafficSecret role stage := by
  cases stage with
  | handshake => simp only [trafficSecret, hagrees.handshakeTraffic]
  | application => simp only [trafficSecret, hagrees.applicationTraffic]

theorem nextTrafficSecret_congr {one other : HkdfSchedule} {role : Role}
    (hshares : Shares one other role) :
    other.nextTrafficSecret role = one.nextTrafficSecret role := by
  simp only [nextTrafficSecret, hshares.secret, deriveSecret, deriveFrom, expandLabel, hash,
    hshares.version, hshares.suite]

def withTrafficSecret (schedule : HkdfSchedule) (role : Role) (secret : Secret) : HkdfSchedule :=
  { schedule with applicationTraffic := schedule.applicationTraffic.set role secret }

theorem Shares.withTrafficSecret {one other : HkdfSchedule} {role : Role}
    (hshares : Shares one other role) (secret : Secret) :
    Shares (one.withTrafficSecret role secret) (other.withTrafficSecret role secret) role where
  version := hshares.version
  suite := hshares.suite
  secret := by
    simp only [HkdfSchedule.withTrafficSecret, SideSecrets.get_set_same]

/-- The update of one end's secret leaves that of the other end alone. -/
theorem shares_withTrafficSecret (schedule : HkdfSchedule) (role : Role) (secret : Secret) :
    Shares schedule (schedule.withTrafficSecret role secret) role.peer where
  version := rfl
  suite := rfl
  secret := schedule.applicationTraffic.get_set_peer role secret

end HkdfSchedule

namespace Protector

theorem updatedKeys_eq_ok_iff {schedule next : HkdfSchedule} {role : Role} {keys : TrafficKeys} :
    updatedKeys schedule role = (.ok keys, next)
      ↔ ∃ secret, schedule.nextTrafficSecret role = .ok secret
        ∧ schedule.trafficKeys secret = .ok keys
        ∧ next = schedule.withTrafficSecret role secret := by
  unfold updatedKeys HkdfSchedule.updateTrafficSecret
  cases hsecret : schedule.nextTrafficSecret role with
  | error e => simp
  | ok secret =>
      have hkeys : (schedule.withTrafficSecret role secret).trafficKeys secret
          = schedule.trafficKeys secret :=
        HkdfSchedule.trafficKeys_congr rfl rfl secret
      simp only [HkdfSchedule.withTrafficSecret] at hkeys ⊢
      simp [hkeys, eq_comm]

/-- An update succeeds if there are keys and they are installed. -/
theorem installUpdated_eq_ok_iff {updated : Except RecordError TrafficKeys × HkdfSchedule}
    {install : TrafficKeys → Except RecordError Unit × Protector} {protector next : Protector}
    {after : HkdfSchedule} :
    (match updated with
      | (.ok keys, moved) => ((install keys).1, (install keys).2, moved)
      | (.error e, moved) => (.error e, protector, moved)) = (.ok (), next, after)
      ↔ ∃ keys, updated = (.ok keys, after) ∧ install keys = (.ok (), next) := by
  rcases updated with ⟨_ | keys, moved⟩
  · simp
  · constructor
    · intro hupdate
      obtain ⟨hresult, hrest⟩ := Prod.mk.inj hupdate
      obtain ⟨hnext, rfl⟩ := Prod.mk.inj hrest
      exact ⟨keys, rfl, Prod.ext hresult hnext⟩
    · rintro ⟨_, ⟨⟩, hinstall⟩
      simp only [hinstall]

theorem updateWriteKeys_eq_ok_iff {protector next : Protector} {schedule after : HkdfSchedule} :
    protector.updateWriteKeys schedule = (.ok (), next, after)
      ↔ ∃ keys, updatedKeys schedule protector.params.role = (.ok keys, after)
        ∧ protector.installWriteKeys keys = (.ok (), next) :=
  installUpdated_eq_ok_iff

theorem updateReadKeys_eq_ok_iff {protector next : Protector} {schedule after : HkdfSchedule} :
    protector.updateReadKeys schedule = (.ok (), next, after)
      ↔ ∃ keys, updatedKeys schedule protector.params.role.peer = (.ok keys, after)
        ∧ protector.installReadKeys keys = (.ok (), next) :=
  installUpdated_eq_ok_iff

theorem updateWriteKeys_frame {protector next : Protector} {schedule moved : HkdfSchedule}
    (hupdate : protector.updateWriteKeys schedule = (.ok (), next, moved)) :
    ∃ write secret, next = { protector with write := write }
      ∧ moved = schedule.withTrafficSecret protector.params.role secret := by
  obtain ⟨keys, hkeys, hinstall⟩ := updateWriteKeys_eq_ok_iff.mp hupdate
  obtain ⟨secret, -, -, rfl⟩ := updatedKeys_eq_ok_iff.mp hkeys
  obtain ⟨write, -, rfl⟩ := installWriteKeys_eq_ok_iff.mp hinstall
  exact ⟨write, secret, rfl, rfl⟩

theorem updateReadKeys_frame {protector next : Protector} {schedule moved : HkdfSchedule}
    (hupdate : protector.updateReadKeys schedule = (.ok (), next, moved)) :
    ∃ read secret, next = { protector with read := read }
      ∧ moved = schedule.withTrafficSecret protector.params.role.peer secret := by
  obtain ⟨keys, hkeys, hinstall⟩ := updateReadKeys_eq_ok_iff.mp hupdate
  obtain ⟨secret, -, -, rfl⟩ := updatedKeys_eq_ok_iff.mp hkeys
  obtain ⟨read, -, rfl⟩ := installReadKeys_eq_ok_iff.mp hinstall
  exact ⟨read, secret, rfl, rfl⟩

/-- An update depends on the schedule only by the secret that is updated. -/
theorem updateWriteKeys_congr {protector next : Protector} {one other moved : HkdfSchedule}
    (hshares : one.Shares other protector.params.role)
    (hupdate : protector.updateWriteKeys other = (.ok (), next, moved)) :
    ∃ secret, protector.updateWriteKeys one
        = (.ok (), next, one.withTrafficSecret protector.params.role secret)
      ∧ moved = other.withTrafficSecret protector.params.role secret := by
  obtain ⟨keys, hkeys, hinstall⟩ := updateWriteKeys_eq_ok_iff.mp hupdate
  obtain ⟨secret, hsecret, htraffic, rfl⟩ := updatedKeys_eq_ok_iff.mp hkeys
  rw [HkdfSchedule.nextTrafficSecret_congr hshares] at hsecret
  rw [HkdfSchedule.trafficKeys_congr hshares.version hshares.suite] at htraffic
  have hone := updatedKeys_eq_ok_iff.mpr ⟨secret, hsecret, htraffic, rfl⟩
  exact ⟨secret, updateWriteKeys_eq_ok_iff.mpr ⟨keys, hone, hinstall⟩, rfl⟩

/-! ### Both ends under new keys -/

theorem installTrafficSecrets_eq_ok_iff {protector next : Protector} {schedule : HkdfSchedule}
    {stage : TrafficStage} :
    protector.installTrafficSecrets schedule stage = (.ok (), next)
      ↔ ∃ write read, protector.stageModes schedule stage = .ok (write, read)
        ∧ next = { protector with
          write := Direction.install write (stageEpoch stage)
          read := Direction.install read (stageEpoch stage) } := by
  unfold installTrafficSecrets
  cases hmodes : protector.stageModes schedule stage with
  | error e => simp
  | ok modes =>
      obtain ⟨write, read⟩ := modes
      simp [eq_comm]

def stageKeys (schedule : HkdfSchedule) (role : Role) (stage : TrafficStage) :
    Except RecordError TrafficKeys := do
  schedule.trafficKeys (← schedule.trafficSecret role stage)

theorem stageKeys_congr {one other : HkdfSchedule} (hagrees : one.Agrees other) (role : Role)
    (stage : TrafficStage) : stageKeys other role stage = stageKeys one role stage := by
  simp only [stageKeys, HkdfSchedule.trafficSecret_congr hagrees,
    HkdfSchedule.trafficKeys_congr hagrees.version hagrees.suite]

theorem stageModes_eq_ok_iff {protector : Protector} {schedule : HkdfSchedule}
    {stage : TrafficStage} {write read : CipherMode} :
    protector.stageModes schedule stage = .ok (write, read)
      ↔ ∃ writeKeys readKeys, stageKeys schedule protector.params.role stage = .ok writeKeys
        ∧ stageKeys schedule protector.params.role.peer stage = .ok readKeys
        ∧ writeKeys.cipherMode protector.params.suite protector.params.version true = .ok write
        ∧ readKeys.cipherMode protector.params.suite protector.params.version true
          = .ok read := by
  simp only [stageModes, stageKeys, bind_eq_ok_iff,
    TrafficKeys.cipherMode_forEncryption _ _ _ false, pure, Except.pure, Except.ok.injEq,
    Prod.mk.injEq]
  constructor
  · rintro ⟨writeSecret, hwriteSecret, writeKeys, hwriteKeys, readSecret, hreadSecret, readKeys,
      hreadKeys, _, hwrite, _, hread, rfl, rfl⟩
    exact ⟨writeKeys, readKeys, ⟨writeSecret, hwriteSecret, hwriteKeys⟩,
      ⟨readSecret, hreadSecret, hreadKeys⟩, hwrite, hread⟩
  · rintro ⟨writeKeys, readKeys, ⟨writeSecret, hwriteSecret, hwriteKeys⟩,
      ⟨readSecret, hreadSecret, hreadKeys⟩, hwrite, hread⟩
    exact ⟨writeSecret, hwriteSecret, writeKeys, hwriteKeys, readSecret, hreadSecret, readKeys,
      hreadKeys, write, hwrite, read, hread, rfl, rfl⟩

/-- What the sender of a direction and its receiver hold under new keys. -/
def KeyedPair (sender receiver : Protector) : Prop :=
  receiver.read = sender.write
    ∧ sender.write.KeyedFor sender.params.suite sender.params.version

section Pairs

variable {one other next after : Protector} (hpeers : Peers one other)
include hpeers

theorem keyedPair_of_installKeys (hepoch : other.read.sequence.epoch = one.write.sequence.epoch)
    {keys : TrafficKeys} (hwrite : one.installWriteKeys keys = (.ok (), next))
    (hread : other.installReadKeys keys = (.ok (), after)) : KeyedPair next after := by
  obtain ⟨write, hrekey, rfl⟩ := installWriteKeys_eq_ok_iff.mp hwrite
  obtain ⟨read, hpeerRekey, rfl⟩ := installReadKeys_eq_ok_iff.mp hread
  rw [rekey_peer hpeers hepoch, hrekey] at hpeerRekey
  exact ⟨(Except.ok.inj hpeerRekey).symm, keyedFor_of_rekey hrekey⟩

theorem keyedPair_of_installKeyBlock
    (hepoch : other.read.sequence.epoch = one.write.sequence.epoch) {block : KeyBlock}
    (hone : one.installKeyBlock block = (.ok (), next))
    (hother : other.installKeyBlock block = (.ok (), after)) : KeyedPair next after := by
  obtain ⟨-, write, _, hwrite, -, rfl⟩ := installKeyBlock_eq_ok_iff.mp hone
  obtain ⟨-, _, read, -, hread, rfl⟩ := installKeyBlock_eq_ok_iff.mp hother
  have hkeys : block.readKeys other.params.role = block.writeKeys one.params.role := by
    rw [KeyBlock.readKeys, KeyBlock.writeKeys, hpeers.role, peer_peer]
  rw [hkeys, rekey_peer hpeers hepoch, hwrite] at hread
  exact ⟨(Except.ok.inj hread).symm, keyedFor_of_rekey hwrite⟩

theorem keyedPair_of_installTrafficSecrets {schedule peerSchedule : HkdfSchedule}
    (hagrees : schedule.Agrees peerSchedule) {stage : TrafficStage}
    (hone : one.installTrafficSecrets schedule stage = (.ok (), next))
    (hother : other.installTrafficSecrets peerSchedule stage = (.ok (), after)) :
    KeyedPair next after := by
  obtain ⟨write, _, hmodes, rfl⟩ := installTrafficSecrets_eq_ok_iff.mp hone
  obtain ⟨_, read, hpeerModes, rfl⟩ := installTrafficSecrets_eq_ok_iff.mp hother
  obtain ⟨writeKeys, _, hwriteKeys, -, hwrite, -⟩ := stageModes_eq_ok_iff.mp hmodes
  obtain ⟨_, readKeys, -, hreadKeys, -, hread⟩ := stageModes_eq_ok_iff.mp hpeerModes
  have hrole : other.params.role.peer = one.params.role := hpeers.symm.role.symm
  rw [hrole, stageKeys_congr hagrees, hwriteKeys] at hreadKeys
  cases hreadKeys
  rw [hpeers.suite, hpeers.version, hwrite] at hread
  cases hread
  exact ⟨rfl, writeKeys, write, stageEpoch stage, hwrite, rfl⟩

/-- A receiver that holds the secret of the sender can follow its update. -/
theorem updateReadKeys_peer (hepoch : other.read.sequence.epoch = one.write.sequence.epoch)
    {schedule peerSchedule moved : HkdfSchedule}
    (hshares : schedule.Shares peerSchedule one.params.role)
    (hupdate : one.updateWriteKeys schedule = (.ok (), next, moved)) :
    ∃ write secret, next = { one with write := write }
      ∧ moved = schedule.withTrafficSecret one.params.role secret
      ∧ other.updateReadKeys peerSchedule
        = (.ok (), { other with read := write },
          peerSchedule.withTrafficSecret one.params.role secret)
      ∧ write.KeyedFor one.params.suite one.params.version := by
  obtain ⟨keys, hkeys, hinstall⟩ := updateWriteKeys_eq_ok_iff.mp hupdate
  obtain ⟨secret, hsecret, htraffic, rfl⟩ := updatedKeys_eq_ok_iff.mp hkeys
  obtain ⟨write, hrekey, rfl⟩ := installWriteKeys_eq_ok_iff.mp hinstall
  have hrole : other.params.role.peer = one.params.role := hpeers.symm.role.symm
  refine ⟨write, secret, rfl, rfl, ?_, keyedFor_of_rekey hrekey⟩
  refine updateReadKeys_eq_ok_iff.mpr ⟨keys, ?_, ?_⟩
  · rw [hrole]
    refine updatedKeys_eq_ok_iff.mpr ⟨secret, ?_, ?_, rfl⟩
    · rw [HkdfSchedule.nextTrafficSecret_congr hshares, hsecret]
    · rw [HkdfSchedule.trafficKeys_congr hshares.version hshares.suite, htraffic]
  · refine installReadKeys_eq_ok_iff.mpr ⟨write, ?_, rfl⟩
    rw [rekey_peer hpeers hepoch, hrekey]

end Pairs

/-- The ways in which a sender and its receiver come under new keys together. -/
inductive KeyedAlike : Protector → Protector → Prop
  | installKeys {one other next after : Protector} (hpeers : Peers one other)
      (hepoch : other.read.sequence.epoch = one.write.sequence.epoch) {keys : TrafficKeys}
      (hwrite : one.installWriteKeys keys = (.ok (), next))
      (hread : other.installReadKeys keys = (.ok (), after)) : KeyedAlike next after
  | installKeyBlock {one other next after : Protector} (hpeers : Peers one other)
      (hepoch : other.read.sequence.epoch = one.write.sequence.epoch) {block : KeyBlock}
      (hone : one.installKeyBlock block = (.ok (), next))
      (hother : other.installKeyBlock block = (.ok (), after)) : KeyedAlike next after
  | installTrafficSecrets {one other next after : Protector} (hpeers : Peers one other)
      {schedule peerSchedule : HkdfSchedule} (hagrees : schedule.Agrees peerSchedule)
      {stage : TrafficStage} (hone : one.installTrafficSecrets schedule stage = (.ok (), next))
      (hother : other.installTrafficSecrets peerSchedule stage = (.ok (), after)) :
      KeyedAlike next after
  | updateKeys {one other next after : Protector} (hpeers : Peers one other)
      (hepoch : other.read.sequence.epoch = one.write.sequence.epoch)
      {schedule peerSchedule moved peerMoved : HkdfSchedule}
      (hshares : schedule.Shares peerSchedule one.params.role)
      (hone : one.updateWriteKeys schedule = (.ok (), next, moved))
      (hother : other.updateReadKeys peerSchedule = (.ok (), after, peerMoved)) :
      KeyedAlike next after

theorem params_of_installKeyBlock {protector next : Protector} {block : KeyBlock}
    (hinstall : protector.installKeyBlock block = (.ok (), next)) :
    next.params = protector.params := by
  obtain ⟨-, _, _, -, -, rfl⟩ := installKeyBlock_eq_ok_iff.mp hinstall
  rfl

theorem params_of_installTrafficSecrets {protector next : Protector} {schedule : HkdfSchedule}
    {stage : TrafficStage}
    (hinstall : protector.installTrafficSecrets schedule stage = (.ok (), next)) :
    next.params = protector.params := by
  obtain ⟨_, _, -, rfl⟩ := installTrafficSecrets_eq_ok_iff.mp hinstall
  rfl

theorem config_of_installKeyBlock {protector next : Protector} {block : KeyBlock}
    (hinstall : protector.installKeyBlock block = (.ok (), next)) :
    next.config = protector.config := by
  obtain ⟨-, _, _, -, -, rfl⟩ := installKeyBlock_eq_ok_iff.mp hinstall
  rfl

theorem config_of_installTrafficSecrets {protector next : Protector} {schedule : HkdfSchedule}
    {stage : TrafficStage}
    (hinstall : protector.installTrafficSecrets schedule stage = (.ok (), next)) :
    next.config = protector.config := by
  obtain ⟨_, _, -, rfl⟩ := installTrafficSecrets_eq_ok_iff.mp hinstall
  rfl

theorem Peers.congr {one other next after : Protector} (hpeers : Peers one other)
    (hnext : next.params = one.params) (hafter : after.params = other.params) :
    Peers next after where
  version := by rw [hnext, hafter, hpeers.version]
  suite := by rw [hnext, hafter, hpeers.suite]
  role := by rw [hnext, hafter, hpeers.role]

theorem KeyedAlike.pair {sender receiver : Protector} (hkeyed : KeyedAlike sender receiver) :
    KeyedPair sender receiver ∧ Peers sender receiver := by
  cases hkeyed with
  | installKeys hpeers hepoch hwrite hread =>
      refine ⟨keyedPair_of_installKeys hpeers hepoch hwrite hread, hpeers.congr ?_ ?_⟩
      · obtain ⟨_, -, rfl⟩ := installWriteKeys_eq_ok_iff.mp hwrite
        rfl
      · obtain ⟨_, -, rfl⟩ := installReadKeys_eq_ok_iff.mp hread
        rfl
  | installKeyBlock hpeers hepoch hone hother =>
      exact ⟨keyedPair_of_installKeyBlock hpeers hepoch hone hother,
        hpeers.congr (params_of_installKeyBlock hone) (params_of_installKeyBlock hother)⟩
  | installTrafficSecrets hpeers hagrees hone hother =>
      exact ⟨keyedPair_of_installTrafficSecrets hpeers hagrees hone hother,
        hpeers.congr (params_of_installTrafficSecrets hone)
          (params_of_installTrafficSecrets hother)⟩
  | updateKeys hpeers hepoch hshares hone hother =>
      obtain ⟨write, secret, rfl, rfl, hfollow, hwrite⟩ :=
        updateReadKeys_peer hpeers hepoch hshares hone
      rw [hfollow] at hother
      cases hother
      exact ⟨⟨rfl, hwrite⟩, hpeers.congr rfl rfl⟩

end Protector

end RecordProtection
