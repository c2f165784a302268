import RecordProtection.Proofs.Reached

/-!
# Lengths of fragments

Before version 1.3 a fragment stays far below the limit of its receiver, whatever the mode adds to
it.  Under keys of version 1.3 it is as long as its inner plaintext and the tag of the suite, so
that only padding can take it over the limit.
-/

namespace RecordProtection

/-! ### Records with nothing but a tag -/

/-- How long the tags of an authenticated mode are under an engine. -/
def ModeKind.tagLength (kind : ModeKind) (engine : EngineKind) : Nat :=
  match kind with
  | ccm8 => 8
  | mgmStrong => engine.blockLength.getD 0
  | mgmLight => engine.blockLength.getD 0 / 2
  | _ => 16

theorem ModeKind.tagLength_taggedAead {kind : ModeKind} (hkind : kind.sendsTaggedNonce = true)
    (cipher : BlockCipher) (engine : EngineKind) :
    (kind.taggedAead cipher).tagLength = kind.tagLength engine := by
  cases kind with
  | gcm | ccm | ccm8 => rfl
  | _ => cases hkind

theorem CipherSuite.tagLength_of_is13 :
    ∀ suite ∈ catalog, suite.is13 = true → suite.tagLength = suite.mode.tagLength suite.engine := by
  decide

namespace Transform

/-- Records consist of a ciphertext as long as the plaintext and a tag. -/
def Seals (transform : Transform) (tagLength : Nat) : Prop :=
  ∃ mode : AeadMode, transform = .aead mode ∧ mode.Lawful ∧ mode.layout.sentLength = 0
    ∧ mode.aead.tagLength = tagLength

variable {transform : Transform} {tagLength : Nat} (hseals : transform.Seals tagLength)
include hseals

theorem Seals.stateless : transform.Stateless := by
  obtain ⟨mode, rfl, -⟩ := hseals
  trivial

theorem Seals.length_encrypt {auth : Authenticator} {type : ContentType} {plaintext record : Bytes}
    {random : RandomSource}
    (hrecord : (transform.encrypt auth type plaintext random).1 = .ok record) :
    record.length = plaintext.length + tagLength := by
  obtain ⟨mode, rfl, hmode, hsent, rfl⟩ := hseals
  have hlength := AeadMode.length_encrypt hmode hrecord
  rwa [hsent, Nat.zero_add] at hlength

end Transform

namespace CipherMode

/-- Authenticated modes that send nothing of their nonces only add a tag. -/
theorem Made.seals {kind : ModeKind} {engine : Engine} {auth : Authenticator} {iv : Bytes}
    {transform : Transform} (hengine : engine.Lawful)
    (hmade : Made engine auth iv 0 kind transform) (haead : kind.isAead = true) :
    transform.Seals (kind.tagLength engine.kind) := by
  have hlawful := hmade.lawful hengine
  have hsent := hmade.sentLength_eq
  rw [ite_self] at hsent
  cases hmade with
  | tagged hkind hblock hlayout htagged hlength =>
      exact ⟨_, rfl, hlawful, hsent, ModeKind.tagLength_taggedAead hkind _ _⟩
  | chaCha20Poly1305 hiv => exact ⟨_, rfl, hlawful, hsent, rfl⟩
  | @multilinear cipher strong hblock hiv =>
      refine ⟨_, rfl, hlawful, hsent, ?_⟩
      have hlength := hengine.blockLength cipher hblock
      cases strong <;> simp [ModeKind.tagLength, hlength, Multilinear.aead,
        Multilinear.tagLength, Multilinear.blockLength]
  | _ => cases haead

end CipherMode

namespace Direction

variable {direction : Direction} {suite : CipherSuite} {version : ProtocolVersion}
  (hsuite : suite ∈ CipherSuite.catalog) (h13 : version.is13 = true)
include hsuite h13

theorem seals_of_keyedFor (hkeyed : direction.KeyedFor suite version) :
    direction.mode.transform.Seals suite.tagLength := by
  obtain ⟨keys, mode, epoch, hmode, rfl⟩ := hkeyed
  obtain ⟨key, macKey, iv, hmode⟩ := TrafficKeys.create_of_cipherMode hmode
  obtain ⟨hsupports, engine, auth, hengine, -, hcreate⟩ := CipherSuite.create_of_cipherMode hmode
  obtain ⟨transform, htransform, rfl⟩ := CipherMode.create_eq_ok_iff.mp hcreate
  have hsuite13 := (CipherSuite.is13_of_supports hsupports).trans h13
  rw [CipherSuite.explicitNonceLength_of_is13 suite hsuite hsuite13] at htransform
  have hkind : engine.kind = suite.engine := by
    obtain ⟨-, rfl⟩ := Engine.create_eq_ok_iff.mp hengine
    rfl
  rw [CipherSuite.tagLength_of_is13 suite hsuite hsuite13, ← hkind]
  exact (CipherMode.made_of_transformOf htransform).seals (Engine.lawful_of_create hengine)
    (CipherSuite.isAead_of_is13 suite hsuite hsuite13)

/-- Use under keys of version 1.3 leaves a transform that seals as it is. -/
theorem InUse.seals (hdirection : direction.InUse suite version)
    (hprotected : direction.isProtected = true) :
    direction.mode.transform.Seals suite.tagLength := by
  obtain ⟨start, hstart, hsame, hcontinues⟩ := hdirection
  rcases hstart with rfl | hkeyed
  · rw [hprotected] at hsame
    cases hsame
  · have hseals := seals_of_keyedFor hsuite h13 hkeyed
    rwa [hcontinues.transform.stateless hseals.stateless]

end Direction

/-- Padding can make records of version 1.3 longer than their receiver allows: behind the longest
content come its type, the padding and the tag of the suite. -/
def Config.PadsBeyondLimit (config : Config) (params : Parameters) : Prop :=
  params.version.is13 = true
    ∧ Protector.maxExpansion13 < 1 + min config.tls13Padding
      (maxPlaintextLength - config.maxRecordSize) + params.suite.tagLength

instance (config : Config) (params : Parameters) : Decidable (config.PadsBeyondLimit params) :=
  inferInstanceAs (Decidable (_ ∧ _))

namespace Protector

variable {sender : Protector} {type : ContentType} {plaintext : Bytes} {random : RandomSource}
  {record : ProtectedRecord} (hsuite : sender.params.suite ∈ CipherSuite.catalog)
  (hwrite : sender.write.InUse sender.params.suite sender.params.version)
  (hprotect : (sender.protect type plaintext random).1 = .ok record)
include hsuite hwrite hprotect

theorem length_fragment_le_outerContent :
    record.fragment.length
      ≤ (sender.outerContent type plaintext).2.length + maxOverhead sender.params.version := by
  have hreliable := hwrite.reliable hsuite
  have hlength := Transform.length_encrypt_le hreliable.lawful (encrypt_of_protect hprotect).2
  have hoverhead := hreliable.overhead
  rw [hreliable.version] at hoverhead
  omega

/-- But for records of version 1.3, a record stays far below the receiver's limit. -/
theorem length_fragment_of_not_writes13 (h13 : sender.writes13 = false) :
    record.fragment.length ≤ sender.config.maxRecordSize + maxExpansion := by
  have hshort := (encrypt_of_protect hprotect).1
  have hlength := length_fragment_le_outerContent hsuite hwrite hprotect
  have hoverhead : maxOverhead sender.params.version ≤ maxExpansion := by
    unfold maxOverhead
    split <;> decide
  rw [outerContent_of_not_writes13 type plaintext h13] at hlength
  exact hlength.trans (Nat.add_le_add hshort hoverhead)

theorem length_fragment_of_writes13 (h13 : sender.writes13 = true) :
    record.fragment.length
      = plaintext.length + 1
        + min sender.config.tls13Padding (maxPlaintextLength - plaintext.length)
        + sender.params.suite.tagLength := by
  obtain ⟨hprotected, hversion⟩ := Bool.and_eq_true_iff.mp h13
  have hseals := hwrite.seals hsuite hversion hprotected
  rw [hseals.length_encrypt (encrypt_of_protect hprotect).2,
    length_outerContent type plaintext h13]

/-- Without such padding no record is too long for a receiver with the settings of its sender. -/
theorem length_fragment_le {receiver : Protector} (hconfig : receiver.config = sender.config)
    (hreads : receiver.reads13 = sender.writes13)
    (hpads : ¬ sender.config.PadsBeyondLimit sender.params) :
    record.fragment.length ≤ receiver.fragmentLimit := by
  have hshort := (encrypt_of_protect hprotect).1
  rw [fragmentLimit, hreads, hconfig]
  cases h13 : sender.writes13 with
  | false => exact length_fragment_of_not_writes13 hsuite hwrite hprotect h13
  | true =>
      obtain ⟨-, hversion⟩ := Bool.and_eq_true_iff.mp h13
      have hlength := length_fragment_of_writes13 hsuite hwrite hprotect h13
      simp only [Config.PadsBeyondLimit, hversion, true_and, maxExpansion13] at hpads
      simp only [if_true, maxExpansion13]
      -- a longer content leaves less room for padding, never more in all
      omega

end Protector

end RecordProtection
