import RecordProtection.Aead.Ccm
import RecordProtection.Aead.ChaCha20Poly1305
import RecordProtection.Aead.Gcm
import RecordProtection.Aead.Multilinear
import RecordProtection.Proofs.Block.Counter
import RecordProtection.Proofs.Stream

/-!
# Lawful authenticated encryption

For nonces of the right length an AEAD opens exactly what it seals, to the same plaintext.  The
ciphertext does not depend on the additional data; only the tag does.
-/

namespace RecordProtection

structure Aead.Lawful (aead : Aead) (nonceLength : Nat) : Prop where
  length_ciphertext : ∀ nonce data plaintext, nonce.length = nonceLength →
    (aead.encrypt nonce data plaintext).1.length = plaintext.length
  length_tag : ∀ nonce data plaintext, nonce.length = nonceLength →
    (aead.encrypt nonce data plaintext).2.length = aead.tagLength
  ciphertext_eq : ∀ nonce data other plaintext,
    (aead.encrypt nonce data plaintext).1 = (aead.encrypt nonce other plaintext).1
  decrypt_eq_some_iff : ∀ nonce data ciphertext tag plaintext, nonce.length = nonceLength →
    (aead.decrypt nonce data ciphertext tag = some plaintext
      ↔ aead.encrypt nonce data plaintext = (ciphertext, tag))

theorem Aead.Lawful.decrypt_encrypt {aead : Aead} {nonceLength : Nat}
    (haead : aead.Lawful nonceLength) {nonce : Bytes} (hnonce : nonce.length = nonceLength)
    (data plaintext : Bytes) :
    aead.decrypt nonce data (aead.encrypt nonce data plaintext).1
      (aead.encrypt nonce data plaintext).2 = some plaintext :=
  (haead.decrypt_eq_some_iff _ _ _ _ _ hnonce).mpr rfl

/-- A ciphertext is opened under other additional data exactly if that gives the same tag. -/
theorem Aead.Lawful.decrypt_encrypt_iff {aead : Aead} {nonceLength : Nat}
    (haead : aead.Lawful nonceLength) {nonce : Bytes} (hnonce : nonce.length = nonceLength)
    (data other plaintext : Bytes) :
    aead.decrypt nonce other (aead.encrypt nonce data plaintext).1
        (aead.encrypt nonce data plaintext).2 = some plaintext
      ↔ (aead.encrypt nonce data plaintext).2 = (aead.encrypt nonce other plaintext).2 := by
  rw [haead.decrypt_eq_some_iff _ _ _ _ _ hnonce]
  constructor
  · intro h
    rw [h]
  · intro h
    rw [h, haead.ciphertext_eq nonce data other plaintext]

/-- An involutive mask with a tag over the ciphertext is lawful. -/
theorem Aead.lawful_of_mask {aead : Aead} {nonceLength : Nat} {mask : Bytes → Bytes → Bytes}
    {tag : Bytes → Bytes → Bytes → Bytes}
    (hencrypt : ∀ nonce data plaintext,
      aead.encrypt nonce data plaintext
        = (mask nonce plaintext, tag nonce data (mask nonce plaintext)))
    (hdecrypt : ∀ nonce data ciphertext sent, aead.decrypt nonce data ciphertext sent
      = if tag nonce data ciphertext = sent then some (mask nonce ciphertext) else none)
    (hlength : ∀ nonce text, nonce.length = nonceLength →
      (mask nonce text).length = text.length)
    (htag : ∀ nonce data ciphertext, nonce.length = nonceLength →
      (tag nonce data ciphertext).length = aead.tagLength)
    (hmask : ∀ nonce text, nonce.length = nonceLength → mask nonce (mask nonce text) = text) :
    aead.Lawful nonceLength where
  length_ciphertext nonce data plaintext hnonce := by
    rw [hencrypt]
    exact hlength nonce plaintext hnonce
  length_tag nonce data plaintext hnonce := by
    rw [hencrypt]
    exact htag nonce data _ hnonce
  ciphertext_eq nonce data other plaintext := by
    rw [hencrypt, hencrypt]
  decrypt_eq_some_iff nonce data ciphertext sent plaintext hnonce := by
    rw [hencrypt, hdecrypt, Option.ite_none_right_eq_some, Option.some_inj, Prod.mk.injEq]
    constructor
    · rintro ⟨rfl, rfl⟩
      rw [hmask _ _ hnonce]
      exact ⟨rfl, rfl⟩
    · rintro ⟨rfl, rfl⟩
      exact ⟨rfl, hmask _ _ hnonce⟩

/-! ### Galois counter mode -/

namespace Gcm

@[simp]
theorem length_nextCounter (counter : Bytes) : (nextCounter counter).length = counter.length := by
  simp [nextCounter]
  omega

theorem length_tag {cipher : BlockCipher} (hcipher : cipher.Lawful)
    (hblock : cipher.blockLength = 16) {nonce : Bytes} (hnonce : nonce.length = 12)
    (data ciphertext : Bytes) : (tag cipher nonce data ciphertext).length = 16 := by
  have hmask := hcipher.length_encrypt (nonce ++ [0, 0, 0, 1]) (by simp [hnonce, hblock])
  simp [tag, Element.toBlock, hmask, hblock]

end Gcm

theorem gcm_lawful {cipher : BlockCipher} (hcipher : cipher.Lawful)
    (hblock : cipher.blockLength = 16) : (gcm cipher).Lawful 12 :=
  have hcounter (nonce : Bytes) (hnonce : nonce.length = 12) :
      (nonce ++ [0, 0, 0, 2]).length = cipher.blockLength := by
    simp [hnonce, hblock]
  Aead.lawful_of_mask (fun _ _ _ => rfl) (fun _ _ _ _ => rfl)
    (fun nonce text hnonce =>
      length_counterMode hcipher Gcm.length_nextCounter (hcounter nonce hnonce) text)
    (fun _ data ciphertext hnonce => Gcm.length_tag hcipher hblock hnonce data ciphertext)
    fun nonce text hnonce =>
      counterMode_counterMode hcipher Gcm.length_nextCounter (hcounter nonce hnonce) text

/-! ### Counter mode with a CBC-MAC -/

namespace Ccm

theorem length_chain {cipher : BlockCipher} (hcipher : cipher.Lawful)
    (hblock : cipher.blockLength = 16) {blocks : List Bytes}
    (hblocks : ∀ block ∈ blocks, block.length = 16) : (chain cipher blocks).length = 16 := by
  have hfold (last : Bytes) (hlast : last.length = 16) :
      (blocks.foldl (fun last block => cipher.encrypt (Bytes.xor last block)) last).length
        = 16 := by
    induction blocks generalizing last with
    | nil => exact hlast
    | cons block blocks ih =>
        have hmasked : (Bytes.xor last block).length = cipher.blockLength := by
          simp [hlast, hblocks block (by simp), hblock]
        exact ih (fun other hother => hblocks other (by simp [hother])) _
          ((hcipher.length_encrypt _ hmasked).trans hblock)
  exact hfold (Bytes.zeros 16) (Bytes.length_zeros 16)

theorem length_counterBlock {nonce : Bytes} (hnonce : nonce.length = 12) (count : Nat) :
    (counterBlock nonce count).length = 16 := by
  simp [counterBlock, hnonce]

theorem length_tag {cipher : BlockCipher} (hcipher : cipher.Lawful)
    (hblock : cipher.blockLength = 16) {tagLength : Nat} (htagLength : tagLength ≤ 16)
    {nonce : Bytes} (hnonce : nonce.length = 12) (data plaintext : Bytes) :
    (tag cipher tagLength nonce data plaintext).length = tagLength := by
  have hfirst : 16 ∣ (firstBlock tagLength nonce data plaintext).length := by
    simp [firstBlock, hnonce]
  have hwhole : 16 ∣ (firstBlock tagLength nonce data plaintext
      ++ Bytes.padTo 16 (framed data) ++ Bytes.padTo 16 plaintext).length := by
    rw [List.length_append, List.length_append]
    exact Nat.dvd_add (Nat.dvd_add hfirst (Bytes.dvd_length_padTo (by decide) _))
      (Bytes.dvd_length_padTo (by decide) _)
  have hchain := length_chain hcipher hblock (Bytes.length_of_mem_chunks (by decide) hwhole)
  have hmask := hcipher.length_encrypt (counterBlock nonce 0)
    ((length_counterBlock hnonce 0).trans hblock.symm)
  rw [tag, List.length_take, Bytes.length_xor, hchain, hmask, hblock]
  omega

end Ccm

theorem ccm_lawful {cipher : BlockCipher} (hcipher : cipher.Lawful)
    (hblock : cipher.blockLength = 16) {tagLength : Nat} (htagLength : tagLength ≤ 16) :
    (ccm tagLength cipher).Lawful 12 :=
  have hcounter (nonce : Bytes) (hnonce : nonce.length = 12) :
      (Ccm.counterBlock nonce 1).length = cipher.blockLength :=
    (Ccm.length_counterBlock hnonce 1).trans hblock.symm
  have hmask (nonce text : Bytes) (hnonce : nonce.length = 12) :
      Ccm.mask cipher nonce (Ccm.mask cipher nonce text) = text :=
    counterMode_counterMode hcipher length_incrementBE (hcounter nonce hnonce) text
  { length_ciphertext := fun nonce _ plaintext hnonce =>
      length_counterMode hcipher length_incrementBE (hcounter nonce hnonce) plaintext
    length_tag := fun _ data plaintext hnonce =>
      Ccm.length_tag hcipher hblock htagLength hnonce data plaintext
    ciphertext_eq := fun _ _ _ _ => rfl
    -- the tag covers the plaintext, which the mask gives back
    decrypt_eq_some_iff := by
      intro nonce data ciphertext tag plaintext hnonce
      simp only [ccm, Option.ite_none_right_eq_some, Option.some_inj, Prod.mk.injEq]
      constructor
      · rintro ⟨rfl, rfl⟩
        exact ⟨hmask _ _ hnonce, rfl⟩
      · rintro ⟨rfl, rfl⟩
        rw [hmask _ _ hnonce]
        exact ⟨rfl, rfl⟩ }

/-! ### ChaCha20-Poly1305 -/

namespace ChaCha20Poly1305

theorem length_mask (key nonce text : Bytes) : (mask key nonce text).length = text.length := by
  simp [mask]

theorem mask_mask (key nonce text : Bytes) : mask key nonce (mask key nonce text) = text := by
  have hcover : text.length
      ≤ (ChaCha20.keystream key nonce ChaCha20.blockLength text.length).length :=
    Nat.le_of_eq (ChaCha20.length_keystream ..).symm
  rw [mask, length_mask]
  exact Bytes.xor_xor_cancel hcover

theorem length_tag (key nonce data ciphertext : Bytes) :
    (tag key nonce data ciphertext).length = tagLength :=
  Bytes.length_ofNatLE 16 _

end ChaCha20Poly1305

theorem chaCha20Poly1305_lawful (key : Bytes) (nonceLength : Nat) :
    (chaCha20Poly1305 key).Lawful nonceLength :=
  Aead.lawful_of_mask (fun _ _ _ => rfl) (fun _ _ _ _ => rfl)
    (fun nonce text _ => ChaCha20Poly1305.length_mask key nonce text)
    (fun nonce data ciphertext _ => ChaCha20Poly1305.length_tag key nonce data ciphertext)
    (fun nonce text _ => ChaCha20Poly1305.mask_mask key nonce text)

/-! ### The multilinear mode -/

namespace Multilinear

@[simp]
theorem length_mapFirst (f : UInt8 → UInt8) (bytes : Bytes) :
    (mapFirst f bytes).length = bytes.length := by
  cases bytes <;> rfl

/-- A nonce with its first byte changed is a block, and so is its encryption. -/
theorem length_encrypt_mapFirst {cipher : BlockCipher} (hcipher : cipher.Lawful) {nonce : Bytes}
    (hnonce : nonce.length = cipher.blockLength) (mark : UInt8 → UInt8) :
    (cipher.encrypt (mapFirst mark nonce)).length = cipher.blockLength :=
  hcipher.length_encrypt _ ((length_mapFirst mark nonce).trans hnonce)

@[simp]
theorem length_nextCounter (half : Nat) (block : Bytes) :
    (nextCounter half block).length = block.length := by
  simp [nextCounter]
  omega

theorem tagLength_le (mode : Multilinear) : mode.tagLength ≤ mode.cipher.blockLength := by
  unfold tagLength
  split
  · exact Nat.le_refl _
  · exact Nat.div_le_self _ _

section Lawful

variable {mode : Multilinear} (hcipher : mode.cipher.Lawful)
include hcipher

/-- The tag is as long as the mode says, under nonces of any length. -/
theorem length_tag (nonce data ciphertext : Bytes) :
    (mode.tag nonce data ciphertext).length = mode.tagLength := by
  have hfull := hcipher.length_encrypt _ (Bytes.length_ofNatBE mode.cipher.blockLength
    (sumProducts mode.cipher (keyStart mode.cipher nonce)
      (taggedBlocks mode.cipher.blockLength data ciphertext) 0))
  rw [tag, fullTag, List.length_take, hfull]
  exact Nat.min_eq_left mode.tagLength_le

variable {nonce : Bytes} (hnonce : nonce.length = mode.cipher.blockLength)
include hnonce

theorem length_counterStart : (counterStart mode.cipher nonce).length = mode.cipher.blockLength :=
  length_encrypt_mapFirst hcipher hnonce _

theorem length_mask (text : Bytes) : (mask mode.cipher nonce text).length = text.length :=
  length_counterMode hcipher (length_nextCounter _) (length_counterStart hcipher hnonce) text

theorem mask_mask (text : Bytes) :
    mask mode.cipher nonce (mask mode.cipher nonce text) = text :=
  counterMode_counterMode hcipher (length_nextCounter _) (length_counterStart hcipher hnonce) text

end Lawful

theorem aead_lawful (mode : Multilinear) (hcipher : mode.cipher.Lawful) :
    mode.aead.Lawful mode.cipher.blockLength :=
  Aead.lawful_of_mask (fun _ _ _ => rfl) (fun _ _ _ _ => rfl)
    (fun _ text hnonce => length_mask hcipher hnonce text)
    (fun nonce data ciphertext _ => length_tag hcipher nonce data ciphertext)
    fun _ text hnonce => mask_mask hcipher hnonce text

end Multilinear

end RecordProtection
