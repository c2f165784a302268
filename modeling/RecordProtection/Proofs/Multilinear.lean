import RecordProtection.Proofs.Block.Counting
import RecordProtection.Proofs.Block.Feistel
import RecordProtection.Proofs.Aead

/-!
# The multilinear mode in place

A buffer is encrypted and decrypted where it stands.  Encryption masks it and then makes the tag,
decryption compares the tag and then takes the mask off, so both make the tag of the same
ciphertext.  What is decrypted is exactly what encryption would have made, and a buffer that is
refused is left as it was.
-/

namespace RecordProtection.Multilinear

/-- The encryptions of the counter blocks that cover a length, each of them a whole block. -/
def keystream (cipher : BlockCipher) (nonce : Bytes) (length : Nat) : Bytes :=
  (List.iterate (nextCounter (cipher.blockLength / 2)) (counterStart cipher nonce)
    (pieceCount cipher.blockLength length)).flatMap cipher.encrypt

section Nonce

variable {mode : Multilinear} {nonce : Bytes} (hnonce : nonce.length = mode.blockLength)
include hnonce

theorem encryptInPlace_eq (data buffer : Bytes) :
    mode.encryptInPlace nonce data buffer
      = (.ok (mode.tag nonce data (mask mode.cipher nonce buffer)),
        mask mode.cipher nonce buffer) := by
  simp only [encryptInPlace, checkNonce, if_pos hnonce]

variable (hcipher : mode.cipher.Lawful)
include hcipher

theorem mask_eq_xor (data : Bytes) :
    mask mode.cipher nonce data
      = Bytes.xor data (keystream mode.cipher nonce data.length) :=
  counterMode_eq_xor hcipher (length_nextCounter _) (length_counterStart hcipher hnonce) data

/-- A right tag has the right length. -/
theorem decryptInPlace_eq (data buffer tag : Bytes) :
    mode.decryptInPlace nonce data buffer tag
      = if mode.tag nonce data buffer = tag then (.ok (), mask mode.cipher nonce buffer)
        else (.error .badRecordMac, buffer) := by
  simp only [decryptInPlace, checkNonce, if_pos hnonce]
  refine if_congr ⟨fun h => h.2, fun h => ⟨?_, h⟩⟩ rfl rfl
  rw [← h]
  exact length_tag hcipher nonce data buffer

theorem decryptInPlace_encryptInPlace (data buffer : Bytes) :
    mode.decryptInPlace nonce data (mask mode.cipher nonce buffer)
        (mode.tag nonce data (mask mode.cipher nonce buffer))
      = (.ok (), buffer) := by
  rw [decryptInPlace_eq hnonce hcipher, if_pos rfl, mask_mask hcipher hnonce]

/-- A tag is accepted exactly if encryption makes it of the unmasked buffer. -/
theorem decryptInPlace_eq_ok_iff (data buffer tag : Bytes) :
    (mode.decryptInPlace nonce data buffer tag).1 = .ok ()
      ↔ tag.length = mode.tagLength
        ∧ (mode.encryptInPlace nonce data
          (Bytes.xor buffer (keystream mode.cipher nonce buffer.length))).1 = .ok tag := by
  rw [decryptInPlace_eq hnonce hcipher, encryptInPlace_eq hnonce, ← mask_eq_xor hnonce hcipher,
    mask_mask hcipher hnonce, Except.ok.injEq]
  have hlength := length_tag hcipher nonce data buffer
  constructor
  · intro haccepted
    split at haccepted
    · rename_i hright
      exact ⟨hright ▸ hlength, hright⟩
    · cases haccepted
  · rintro ⟨-, hright⟩
    rw [if_pos hright]

theorem buffer_of_decryptInPlace (data buffer tag : Bytes) :
    ((mode.decryptInPlace nonce data buffer tag).1 = .ok () →
        (mode.decryptInPlace nonce data buffer tag).2
          = Bytes.xor buffer (keystream mode.cipher nonce buffer.length))
      ∧ ∀ error, (mode.decryptInPlace nonce data buffer tag).1 = .error error →
        error = .badRecordMac ∧ (mode.decryptInPlace nonce data buffer tag).2 = buffer := by
  rw [decryptInPlace_eq hnonce hcipher, ← mask_eq_xor hnonce hcipher]
  split
  · exact ⟨fun _ => rfl, fun _ hrefused => (nomatch hrefused)⟩
  · exact ⟨fun haccepted => (nomatch haccepted),
      fun _ hrefused => ⟨(Except.error.inj hrefused).symm, rfl⟩⟩

end Nonce

/-- Half a block of the whole tag is the light one. -/
theorem tag_light (mode : Multilinear) (nonce data text : Bytes) :
    tag { mode with strong := false } nonce data text
      = (tag { mode with strong := true } nonce data text).take (mode.blockLength / 2) := by
  have hstrong : { mode with strong := true }.tagLength = mode.blockLength := rfl
  have hlight : { mode with strong := false }.tagLength = mode.blockLength / 2 := rfl
  rw [tag, tag, hstrong, hlight, List.take_take, Nat.min_eq_left (Nat.div_le_self _ 2)]

/-- What is encrypted in place is decrypted again.  Decryption accepts exactly the tag that
encryption makes of the buffer with the keystream added, which the buffer then holds; else it leaves
the buffer as it was.  The light mode makes the ciphertext of the strong one, and the first half of
its tag. -/
theorem decryptInPlace_inverts (mode : Multilinear) (hcipher : mode.cipher.Lawful) {nonce : Bytes}
    (hnonce : nonce.length = mode.blockLength) (data buffer : Bytes) :
    (∃ tag sealed, mode.encryptInPlace nonce data buffer = (.ok tag, sealed)
        ∧ mode.decryptInPlace nonce data sealed tag = (.ok (), buffer))
      ∧ (∀ tag,
        ((mode.decryptInPlace nonce data buffer tag).1 = .ok ()
            ↔ tag.length = mode.tagLength
              ∧ (mode.encryptInPlace nonce data
                (Bytes.xor buffer (keystream mode.cipher nonce buffer.length))).1 = .ok tag)
          ∧ ((mode.decryptInPlace nonce data buffer tag).1 = .ok () →
            (mode.decryptInPlace nonce data buffer tag).2
              = Bytes.xor buffer (keystream mode.cipher nonce buffer.length))
          ∧ ∀ error, (mode.decryptInPlace nonce data buffer tag).1 = .error error →
            error = .badRecordMac ∧ (mode.decryptInPlace nonce data buffer tag).2 = buffer)
      ∧ ∃ tag sealed,
        encryptInPlace { mode with strong := true } nonce data buffer = (.ok tag, sealed)
          ∧ tag.length = mode.blockLength
          ∧ encryptInPlace { mode with strong := false } nonce data buffer
            = (.ok (tag.take (mode.blockLength / 2)), sealed) := by
  refine ⟨⟨_, _, encryptInPlace_eq hnonce data buffer,
    decryptInPlace_encryptInPlace hnonce hcipher data buffer⟩, fun tag => ?_, ?_⟩
  · exact ⟨decryptInPlace_eq_ok_iff hnonce hcipher data buffer tag,
      buffer_of_decryptInPlace hnonce hcipher data buffer tag⟩
  · have hstrong : { mode with strong := true }.cipher.Lawful := hcipher
    have hlight : nonce.length = { mode with strong := false }.blockLength := hnonce
    refine ⟨_, _, @encryptInPlace_eq { mode with strong := true } nonce hnonce data buffer,
      length_tag hstrong nonce data _, ?_⟩
    rw [encryptInPlace_eq hlight, tag_light]

/-- The mode with tags of four bytes. -/
def lightMagma : Multilinear := ⟨.magma, magma (Bytes.zeros 32), false⟩

/-- A light tag that is cut short, or filled up to a block, is refused. -/
theorem lightMagma_refuses_other_lengths :
    lightMagma.cipher.Lawful ∧ (Bytes.zeros 8).length = lightMagma.blockLength
      ∧ ∃ tag sealed, lightMagma.encryptInPlace (Bytes.zeros 8) [1] [2, 3, 4] = (.ok tag, sealed)
        ∧ lightMagma.decryptInPlace (Bytes.zeros 8) [1] sealed tag = (.ok (), [2, 3, 4])
        ∧ (lightMagma.decryptInPlace (Bytes.zeros 8) [1] sealed (tag.take 3)).1 ≠ .ok ()
        ∧ (lightMagma.decryptInPlace (Bytes.zeros 8) [1] sealed (tag ++ Bytes.zeros 4)).1
          ≠ .ok () := by
  have hcipher : lightMagma.cipher.Lawful := magma_lawful (Bytes.zeros 32)
  have hnonce : (Bytes.zeros 8).length = lightMagma.blockLength := rfl
  obtain ⟨⟨tag, sealed, hsealed, hopened⟩, -⟩ :=
    decryptInPlace_inverts lightMagma hcipher hnonce [1] [2, 3, 4]
  have hlengths (other : Bytes)
      (haccepted : (lightMagma.decryptInPlace (Bytes.zeros 8) [1] sealed other).1 = .ok ()) :
      other.length = 4 :=
    (((decryptInPlace_inverts lightMagma hcipher hnonce [1] sealed).2.1 other).1.mp haccepted).1
  have htag : tag.length = 4 := hlengths tag (congrArg Prod.fst hopened)
  refine ⟨hcipher, hnonce, tag, sealed, hsealed, hopened, fun haccepted => ?_, fun haccepted => ?_⟩
  · have hshort := hlengths _ haccepted
    rw [List.length_take, htag] at hshort
    cases hshort
  · have hlong := hlengths _ haccepted
    rw [List.length_append, htag] at hlong
    cases hlong

end RecordProtection.Multilinear
