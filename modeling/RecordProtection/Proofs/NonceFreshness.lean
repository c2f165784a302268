import Mathlib.Data.Nat.ModEq
import RecordProtection.Proofs.Keying
import RecordProtection.Proofs.Outputs

/-!
# Fresh nonces

Under the suites of the catalog with authenticated encryption, the nonce of a record shows its whole
sequence block, and the records of one mode have different blocks.  So no two of them have the same
nonce.  The multilinear modes give up the top bit of the nonce: of their records, `2 ^ 63` in a row
have different nonces without it.
-/

namespace RecordProtection

/-! ### Layouts of suites -/

theorem NonceLayout.showsBlock_of_ofIV {iv : Bytes} {sentLength : Nat} {layout : NonceLayout}
    (hsent : sentLength = 0 ∨ sentLength = sequenceBlockLength)
    (h : ofIV iv sentLength = .ok layout) : layout.ShowsBlock := by
  have hlawful := lawful_of_ofIV h
  have hlength := sentLength_of_ofIV h
  cases layout with
  | masked iv => exact hlawful
  | explicit fixed length =>
      obtain rfl : length = sentLength := hlength
      obtain rfl | hwhole := hsent
      · -- a layout that sends nothing is a masked one
        unfold ofIV at h
        simp only [Nat.lt_irrefl, if_false] at h
        split at h
        · cases h
        · split at h
          · cases h
          · split at h <;> cases h
      · exact hwhole

theorem CipherSuite.explicitNonceLength_of_isAead :
    ∀ suite ∈ catalog, suite.isAead = true →
      suite.explicitNonceLength = 0 ∨ suite.explicitNonceLength = sequenceBlockLength := by
  decide

/-- The modes with authenticated encryption show the whole sequence block in their nonces, if they
send all of it or nothing. -/
theorem CipherMode.Made.showsBlock {engine : Engine} {auth : Authenticator} {iv : Bytes}
    {sentLength : Nat} {kind : ModeKind} {transform : Transform}
    (hmade : Made engine auth iv sentLength kind transform) (hengine : engine.Lawful)
    (haead : kind.isAead = true) (hsent : sentLength = 0 ∨ sentLength = sequenceBlockLength) :
    ∃ mode, transform = .aead mode ∧ mode.layout.ShowsBlock := by
  cases hmade with
  | null | stream | cbc | ctr | cntImit => cases haead
  | tagged hkind hblock hlayout htagged hlength =>
      exact ⟨_, rfl, NonceLayout.showsBlock_of_ofIV hsent hlayout⟩
  | chaCha20Poly1305 hiv =>
      refine ⟨_, rfl, ?_⟩
      simp only [NonceLayout.ShowsBlock, hiv]
      decide
  | multilinear strong hblock hiv =>
      refine ⟨_, rfl, ?_⟩
      simp only [NonceLayout.ShowsBlock, hiv]
      exact sequenceBlockLength_le_blockLength hengine hblock

/-- The multilinear modes mask an IV. -/
theorem CipherMode.Made.masked_of_multilinear {engine : Engine} {auth : Authenticator} {iv : Bytes}
    {sentLength : Nat} {kind : ModeKind} {transform : Transform}
    (hmade : Made engine auth iv sentLength kind transform) (hengine : engine.Lawful)
    (hkind : kind = .mgmStrong ∨ kind = .mgmLight) :
    ∃ aead, transform = .aead ⟨aead, .masked iv⟩ ∧ sequenceBlockLength ≤ iv.length := by
  cases hmade with
  | tagged hsends hblock hlayout htagged hlength =>
      obtain rfl | rfl := hkind
      · cases hsends
      · cases hsends
  | multilinear strong hblock hiv =>
      refine ⟨_, rfl, ?_⟩
      rw [hiv]
      exact sequenceBlockLength_le_blockLength hengine hblock
  | _ => simp at hkind

/-! ### The top bit -/

namespace Multilinear

/-- A change of the top bit of a nonce is lost among its lower 63 bits. -/
theorem toNatBE_mapFirst {f : UInt8 → UInt8} (hf : ∀ byte, (f byte).toNat % 128 = byte.toNat % 128)
    {nonce : Bytes} (hnonce : sequenceBlockLength ≤ nonce.length) :
    Bytes.toNatBE (mapFirst f nonce) % 2 ^ 63 = Bytes.toNatBE nonce % 2 ^ 63 := by
  cases nonce with
  | nil => cases hnonce
  | cons byte rest =>
      have hrest : 7 ≤ rest.length := Nat.le_of_succ_le_succ hnonce
      have hdvd : 2 ^ 63 ∣ 128 * 256 ^ rest.length := by
        have hpow : 256 ^ 7 ∣ 256 ^ rest.length := Nat.pow_dvd_pow 256 hrest
        exact Nat.mul_dvd_mul_left 128 hpow
      have hfirst : (f byte).toNat * 256 ^ rest.length
          ≡ byte.toNat * 256 ^ rest.length [MOD 2 ^ 63] :=
        (Nat.ModEq.mul_right' (256 ^ rest.length) (hf byte)).of_dvd hdvd
      have hvalue (first : UInt8) : Bytes.toNatBE (first :: rest)
          = first.toNat * 256 ^ rest.length + Bytes.toNatBE rest := by
        have h := Bytes.toNatBE_append [first] rest
        simpa [Bytes.toNatBE] using h
      rw [mapFirst, hvalue, hvalue]
      exact hfirst.add_right _

theorem clear_top_mod (byte : UInt8) : (byte &&& 0x7f).toNat % 128 = byte.toNat % 128 := by
  have hmask : byte.toNat &&& 127 = byte.toNat % 128 := Nat.and_two_pow_sub_one_eq_mod byte.toNat 7
  rw [UInt8.toNat_and, show (0x7f : UInt8).toNat = 127 from rfl, hmask, Nat.mod_mod]

theorem set_top_mod (byte : UInt8) : (byte ||| 0x80).toNat % 128 = byte.toNat % 128 := by
  have hmask : (byte.toNat ||| 128) % 128 = byte.toNat % 128 ||| 128 % 128 :=
    @Nat.or_mod_two_pow byte.toNat 128 7
  rw [UInt8.toNat_or, show (0x80 : UInt8).toNat = 128 from rfl, hmask, Nat.mod_self, Nat.or_zero]

/-- Records less than `2 ^ 63` places apart have different nonces even without the top bit. -/
theorem mapFirst_sending_after_ne {f : UInt8 → UInt8}
    (hf : ∀ byte, (f byte).toNat % 128 = byte.toNat % 128) {iv : Bytes}
    (hiv : sequenceBlockLength ≤ iv.length) {auth : Authenticator} {i j : Nat} (hlt : i < j)
    (hnear : j < i + 2 ^ 63) (hlimit : auth.sequence.number.toNat + j ≤ auth.maxNumber.toNat) :
    mapFirst f ((NonceLayout.masked iv).sending (auth.after i).sequenceBlock).1
      ≠ mapFirst f ((NonceLayout.masked iv).sending (auth.after j).sequenceBlock).1 := by
  intro hsame
  have hlow (count : Nat) (hcount : auth.sequence.number.toNat + count ≤ auth.maxNumber.toNat) :
      Bytes.toNatBE (mapFirst f
          ((NonceLayout.masked iv).sending (auth.after count).sequenceBlock).1) % 2 ^ 63
        = Bytes.toNatBE (iv.drop (iv.length - sequenceBlockLength)) % 2 ^ 63
          ^^^ (Bytes.toNatBE auth.sequenceBlock + count) % 2 ^ 63 := by
    have hblock := (auth.after count).length_sequenceBlock
    have hlength : sequenceBlockLength
        ≤ ((NonceLayout.masked iv).sending (auth.after count).sequenceBlock).1.length := by
      rw [NonceLayout.sending, length_maskIV hiv hblock]
      exact hiv
    have hlawful : (NonceLayout.masked iv).Lawful := hiv
    rw [toNatBE_mapFirst hf hlength, NonceLayout.toNatBE_sending hlawful hblock,
      Authenticator.toNatBE_sequenceBlock_after hcount, ← Nat.xor_mod_two_pow]
    simp only [NonceLayout.nonceNumber]
    omega
  have hvalue := congrArg (fun nonce => Bytes.toNatBE nonce % 2 ^ 63) hsame
  simp only [hlow i (by omega), hlow j hlimit] at hvalue
  have hplaces := Nat.xor_right_inj.mp hvalue
  omega

end Multilinear

/-! ### Nonces of a run -/

namespace AeadMode

/-- The nonce that is given to the AEAD with the record at a place. -/
def nonce (mode : AeadMode) (auth : Authenticator) : Bytes :=
  (mode.layout.sending auth.sequenceBlock).1

/-- The record is the sent part of the nonce with the ciphertext and the tag that the AEAD makes of
the content under the nonce. -/
def Protects (mode : AeadMode) (output : Output) : Prop :=
  ∃ data ciphertext tag,
    mode.aead.encrypt (mode.nonce output.mode.auth) data output.plaintext = (ciphertext, tag)
      ∧ output.record
        = (mode.layout.sending output.mode.auth.sequenceBlock).2 ++ ciphertext ++ tag

theorem protects_of_valid {mode : AeadMode} {output : Output}
    (htransform : output.mode.transform = .aead mode) (hvalid : output.Valid) :
    mode.Protects output := by
  obtain ⟨random, hrecord⟩ := hvalid
  rw [htransform] at hrecord
  simp only [Transform.encrypt, encrypt] at hrecord
  split at hrecord
  · cases hrecord
  · exact ⟨_, _, _, rfl, (Except.ok.inj hrecord).symm⟩

theorem nonce_after_ne {mode : AeadMode} (hlayout : mode.layout.ShowsBlock) {auth : Authenticator}
    {i j : Nat} (hlt : i < j)
    (hlimit : auth.sequence.number.toNat + j ≤ auth.maxNumber.toNat) :
    mode.nonce (auth.after i) ≠ mode.nonce (auth.after j) := by
  intro hsame
  have hblock := hlayout.sending_injective (Authenticator.length_sequenceBlock _)
    (Authenticator.length_sequenceBlock _) hsame
  have hvalue := congrArg Bytes.toNatBE hblock
  rw [Authenticator.toNatBE_sequenceBlock_after (by omega),
    Authenticator.toNatBE_sequenceBlock_after hlimit] at hvalue
  omega

end AeadMode

namespace CipherMode

/-- The records of one mode under a suite with authenticated encryption, from any place on, are
sealed under different nonces.  Under a multilinear suite, the nonces of `2 ^ 63` records are
different even when their top bits are cleared, or set. -/
theorem aead_nonces_nodup {suite : CipherSuite} (hsuite : suite ∈ CipherSuite.catalog)
    (haead : suite.isAead = true) {version : ProtocolVersion} {forEncryption : Bool}
    {key macKey iv : Bytes} {mode : CipherMode}
    (hmode : suite.cipherMode version forEncryption key macKey iv = .ok mode) (start : Sequence)
    (requests : List (ContentType × Bytes)) (random : RandomSource) :
    ∃ sealer : AeadMode, mode.transform = .aead sealer
      ∧ (∀ output ∈ (mode.placed start).outputs requests random, sealer.Protects output)
      ∧ (((mode.placed start).outputs requests random).map
          fun output => sealer.nonce output.mode.auth).Nodup
      ∧ (suite.mode = .mgmStrong ∨ suite.mode = .mgmLight →
        ((mode.placed start).outputs requests random).length ≤ 2 ^ 63 →
        (((mode.placed start).outputs requests random).map fun output =>
            Multilinear.mapFirst (· &&& 0x7f) (sealer.nonce output.mode.auth)).Nodup
          ∧ (((mode.placed start).outputs requests random).map fun output =>
            Multilinear.mapFirst (· ||| 0x80) (sealer.nonce output.mode.auth)).Nodup) := by
  obtain ⟨-, engine, auth, hengine, -, hcreate⟩ := CipherSuite.create_of_cipherMode hmode
  obtain ⟨transform, htransform, rfl⟩ := create_eq_ok_iff.mp hcreate
  have hmade := made_of_transformOf htransform
  obtain ⟨sealer, rfl, hlayout⟩ := hmade.showsBlock (Engine.lawful_of_create hengine) haead
    (CipherSuite.explicitNonceLength_of_isAead suite hsuite haead)
  have hstateless : (placed ⟨suite.mode, .aead sealer, auth⟩ start).transform.Stateless := trivial
  refine ⟨sealer, rfl, fun output houtput => ?_, ?_, fun hkind hcount => ?_⟩
  · exact AeadMode.protects_of_valid (transform_of_mem_outputs hstateless houtput)
      (valid_of_mem_outputs hstateless houtput)
  · refine nodup_map_outputs hstateless sealer.nonce requests random ?_
    intro i j hlt _ hlimit
    exact AeadMode.nonce_after_ne hlayout hlt (Nat.le_of_lt hlimit)
  · obtain ⟨aead, hsealer, hiv⟩ :=
      hmade.masked_of_multilinear (Engine.lawful_of_create hengine) hkind
    cases hsealer
    have hmasked (f : UInt8 → UInt8) (hf : ∀ byte, (f byte).toNat % 128 = byte.toNat % 128) :
        (((placed ⟨suite.mode, .aead ⟨aead, .masked iv⟩, auth⟩ start).outputs requests
          random).map fun output => Multilinear.mapFirst f
            (AeadMode.nonce ⟨aead, .masked iv⟩ output.mode.auth)).Nodup := by
      refine nodup_map_outputs hstateless
        (fun auth => Multilinear.mapFirst f (AeadMode.nonce ⟨aead, .masked iv⟩ auth)) requests
        random ?_
      intro i j hlt hj hlimit
      exact Multilinear.mapFirst_sending_after_ne hf hiv hlt (by omega) (Nat.le_of_lt hlimit)
    exact ⟨hmasked _ Multilinear.clear_top_mod, hmasked _ Multilinear.set_top_mod⟩

/-- A mode with blocks of eight bytes, under a key and an IV of zeros. -/
def magmaMode : CipherMode :=
  ⟨.mgmStrong, .aead ⟨Multilinear.aead ⟨.magma, magma (Bytes.zeros 32), true⟩,
    .masked (Bytes.zeros 8)⟩, .withoutMac .tls13⟩

/-- The records on both sides of the middle of the sequence numbers. -/
def middleOutputs : List Output :=
  (magmaMode.placed ⟨0, 0x7fffffffffffffff⟩).outputs
    [(.applicationData, []), (.applicationData, [])] ⟨fun _ => 0, 0⟩

theorem middleOutputs_nonces :
    (∃ sealer : AeadMode, magmaMode.transform = .aead sealer
      ∧ (middleOutputs.map fun output => sealer.nonce output.mode.auth)
        = [[0x7f, 255, 255, 255, 255, 255, 255, 255], [0x80, 0, 0, 0, 0, 0, 0, 0]]
      ∧ (middleOutputs.map fun output =>
        Multilinear.mapFirst (· &&& 0x7f) (sealer.nonce output.mode.auth)).Nodup) := by
  have hsuite : CipherSuite.multilinear13 0xc106 "TLS_GOSTR341112_256_WITH_MAGMA_MGM_S" .magma 8
      true ∈ CipherSuite.catalog := by
    decide
  have hmode : (CipherSuite.multilinear13 0xc106 "TLS_GOSTR341112_256_WITH_MAGMA_MGM_S" .magma 8
      true).cipherMode .tls13 true (Bytes.zeros 32) [] (Bytes.zeros 8) = .ok magmaMode := rfl
  obtain ⟨sealer, hsealer, -, -, hmasked⟩ := aead_nonces_nodup hsuite rfl hmode
    ⟨0, 0x7fffffffffffffff⟩ [(.applicationData, []), (.applicationData, [])] ⟨fun _ => 0, 0⟩
  have hcount : middleOutputs.length = 2 := rfl
  obtain ⟨hcleared, -⟩ := hmasked (.inl rfl) (hcount.trans_le (by decide))
  refine ⟨sealer, hsealer, ?_, hcleared⟩
  cases hsealer
  rfl

end CipherMode

end RecordProtection
