import RecordProtection.Proofs.CipherMode

/-!
# How much longer records get

Protection adds an IV or the sent bytes of a nonce, a MAC or a tag, and padding.  None of it depends
on the plaintext by more than the padding of a block.
-/

namespace RecordProtection

theorem Authenticator.macLength_le (auth : Authenticator) : auth.macLength ≤ 64 := by
  unfold macLength
  split
  · exact HashAlgorithm.outputLength_le _
  · exact Nat.zero_le _

/-! ### Records of each mode -/

theorem Cbc.length_frame_le {cbc : Cbc} (hcbc : cbc.Lawful) (auth : Authenticator)
    (type : ContentType) (plaintext : Bytes) :
    (cbc.frame auth type plaintext).length
      ≤ plaintext.length + auth.macLength + cbc.cipher.blockLength := by
  have hpadding := paddingValue_lt hcbc.cipher.blockLength_pos
    (plaintext ++ auth.computeMac type plaintext).length
  simp only [frame, addPadding, List.length_append, List.length_replicate,
    Authenticator.length_computeMac] at hpadding ⊢
  omega

theorem Cbc.length_encrypt_le {cbc : Cbc} (hcbc : cbc.Lawful) (auth : Authenticator)
    (type : ContentType) (plaintext : Bytes) (random : RandomSource) :
    (cbc.encrypt auth type plaintext random).1.length
      ≤ plaintext.length + (2 * cbc.cipher.blockLength + auth.macLength) := by
  have hframe := length_frame_le hcbc auth type plaintext
  have hwhole := dvd_length_frame hcbc auth type plaintext
  unfold encrypt
  split
  · have hiv := random.length_take cbc.cipher.blockLength
    rw [List.length_append, length_cbcEncrypt hcbc.cipher hiv hwhole, hiv]
    omega
  · rename_i initial current hchaining
    have hcurrent := (hcbc.chain initial current hchaining).2
    rw [length_cbcEncrypt hcbc.cipher hcurrent hwhole]
    omega

theorem CounterMode.length_encrypt {mode : CounterMode} (hmode : mode.Lawful)
    (auth : Authenticator) (type : ContentType) (plaintext : Bytes) :
    (mode.encrypt auth type plaintext).length
      = plaintext.length + (mode.layout.sentLength + auth.macLength) := by
  have hblock := auth.length_sequenceBlock
  have hsent := NonceLayout.length_sent hmode.layout hblock
  have hcounter := (NonceLayout.length_nonce_sending hmode.layout hblock).trans hmode.nonceLength
  have hmask := length_counterMode hmode.cipher length_incrementBE hcounter
    (plaintext ++ auth.computeMac type plaintext)
  simp only [encrypt, mask, List.length_append, hmask, hsent, Authenticator.length_computeMac]
  omega

theorem AeadMode.length_encrypt {mode : AeadMode} (hmode : mode.Lawful) {auth : Authenticator}
    {type : ContentType} {plaintext record : Bytes}
    (hrecord : mode.encrypt auth type plaintext = .ok record) :
    record.length = plaintext.length + (mode.layout.sentLength + mode.aead.tagLength) := by
  have hblock := auth.length_sequenceBlock
  have hnonce := NonceLayout.length_nonce_sending hmode.layout hblock
  obtain ⟨-, rfl⟩ := (encrypt_eq_ok_iff hmode).mp hrecord
  simp only [tagCounting, List.length_append, NonceLayout.length_sent hmode.layout hblock,
    hmode.aead.length_ciphertext _ _ _ hnonce, hmode.aead.length_tag _ _ _ hnonce]
  omega

/-! ### All transforms -/

namespace Transform

/-- How much longer than its plaintext a record gets at most. -/
def overhead (transform : Transform) (auth : Authenticator) : Nat :=
  match transform with
  | plain | stream _ => auth.macLength
  | cbc mode => 2 * mode.cipher.blockLength + auth.macLength
  | counter mode => mode.layout.sentLength + auth.macLength
  | aead mode => mode.layout.sentLength + mode.aead.tagLength
  | unavailable => 0

theorem Lawful.sentLength_le {transform : Transform} (htransform : transform.Lawful) :
    transform.sentLength ≤ sequenceBlockLength := by
  cases transform with
  | aead mode => exact htransform.layout.sentLength_le
  | _ => exact Nat.zero_le _

theorem length_encrypt_le {transform : Transform} (htransform : transform.Lawful)
    {auth : Authenticator} {type : ContentType} {plaintext record : Bytes} {random : RandomSource}
    (hrecord : (transform.encrypt auth type plaintext random).1 = .ok record) :
    record.length ≤ plaintext.length + transform.overhead auth := by
  cases transform with
  | plain =>
      cases hrecord
      simp [overhead]
  | stream cipher =>
      obtain rfl : (cipher.apply (plaintext ++ auth.computeMac type plaintext)).1 = record :=
        Except.ok.inj hrecord
      simp [overhead]
  | cbc mode =>
      obtain rfl : (mode.encrypt auth type plaintext random).1 = record := Except.ok.inj hrecord
      exact Cbc.length_encrypt_le htransform auth type plaintext random
  | counter mode =>
      obtain rfl : mode.encrypt auth type plaintext = record := Except.ok.inj hrecord
      exact (CounterMode.length_encrypt htransform auth type plaintext).le
  | aead mode => exact (AeadMode.length_encrypt htransform hrecord).le
  | unavailable => cases hrecord

theorem overhead_encrypt (transform : Transform) (auth other : Authenticator) (type : ContentType)
    (plaintext : Bytes) (random : RandomSource) :
    (transform.encrypt auth type plaintext random).2.1.overhead other
      = transform.overhead other := by
  cases transform with
  | cbc mode =>
      simp only [encrypt, overhead, Cbc.encrypt]
      split <;> simp
  | _ => rfl

theorem overhead_decrypt (transform : Transform) (auth other : Authenticator) (type : ContentType)
    (record : Bytes) :
    (transform.decrypt auth type record).2.overhead other = transform.overhead other := by
  cases transform with
  | cbc mode =>
      simp only [decrypt, overhead, Cbc.decrypt]
      split
      · rfl
      · split
        · rfl
        · split <;> simp
  | _ => rfl

/-- Only the MAC of an authenticator adds to a record. -/
theorem overhead_congr (transform : Transform) {auth other : Authenticator}
    (hmac : other.mac = auth.mac) : transform.overhead other = transform.overhead auth := by
  have hlength : other.macLength = auth.macLength := by
    simp only [Authenticator.macLength, hmac]
  cases transform <;> simp only [overhead, hlength]

end Transform

/-! ### Transforms of modes -/

namespace CipherMode

theorem isAead_of_sendsTaggedNonce {kind : ModeKind} (hkind : kind.sendsTaggedNonce = true) :
    kind.isAead = true := by
  revert hkind
  cases kind <;> decide

theorem tagLength_taggedAead_le (kind : ModeKind) (cipher : BlockCipher) :
    (kind.taggedAead cipher).tagLength ≤ 16 := by
  unfold ModeKind.taggedAead
  split
  · exact Nat.le_refl 16
  · exact Nat.le_refl 16
  · exact Nat.le_of_ble_eq_true rfl

section Made

variable {kind : ModeKind} {engine : Engine} {auth : Authenticator} {iv : Bytes} {sentLength : Nat}
  {transform : Transform} (hengine : engine.Lawful)
  (hmade : Made engine auth iv sentLength kind transform)
include hengine hmade

/-- Under authenticated encryption only a tag is added to what is sent of the nonce. -/
theorem Made.overhead_le_of_isAead (haead : kind.isAead = true) :
    transform.overhead auth ≤ transform.sentLength + 16 := by
  cases hmade with
  | tagged hkind hblock hlayout htagged hlength =>
      exact Nat.add_le_add_left (tagLength_taggedAead_le kind _) _
  | chaCha20Poly1305 hiv => exact Nat.le_refl _
  | @multilinear cipher strong hblock hiv =>
      have htag := Multilinear.tagLength_le ⟨engine.kind, cipher, strong⟩
      exact Nat.add_le_add_left (Nat.le_trans htag (hengine.cipher cipher hblock).blockLength_le) _
  | _ => cases haead

theorem Made.overhead_le : transform.overhead auth ≤ 96 := by
  have hmac := auth.macLength_le
  have hlawful := hmade.lawful hengine
  cases haead : kind.isAead with
  | true =>
      have htag := hmade.overhead_le_of_isAead hengine haead
      have hsent := hlawful.sentLength_le
      simp only [sequenceBlockLength] at hsent
      omega
  | false =>
      cases hmade with
      | null | stream => exact Nat.le_trans hmac (by decide)
      | cbc hblock hmode =>
          have hshort := hlawful.cipher.blockLength_le
          simp only [Transform.overhead]
          omega
      | ctr hblock hlayout hmode =>
          have hsent := hlawful.layout.sentLength_le
          simp only [Transform.overhead, sequenceBlockLength] at hsent ⊢
          omega
      | tagged hkind hblock hlayout htagged hlength =>
          rw [isAead_of_sendsTaggedNonce hkind] at haead
          cases haead
      | chaCha20Poly1305 hiv => cases haead
      | multilinear strong hblock hiv => cases strong <;> cases haead
      | cntImit => exact Nat.zero_le _

end Made

end CipherMode

end RecordProtection
