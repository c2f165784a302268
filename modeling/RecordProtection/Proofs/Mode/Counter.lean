import RecordProtection.Mode.Counter
import RecordProtection.Proofs.Block.Counter
import RecordProtection.Proofs.Digest
import RecordProtection.Proofs.Nonce

/-!
# Records in counter mode

Both ends start from the same counter block, and the MAC behind the content is found again.
-/

namespace RecordProtection

theorem Authenticator.checkTrailingMac_append (auth : Authenticator) (type : ContentType)
    (content : Bytes) :
    auth.checkTrailingMac type (content ++ auth.computeMac type content) = .ok content.length := by
  have hlong : ¬ (content ++ auth.computeMac type content).length < auth.macLength := by
    simp
  have hlength : (content ++ auth.computeMac type content).length - auth.macLength
      = content.length := by
    simp
  simp only [checkTrailingMac, if_neg hlong, hlength, List.take_left, List.drop_left, if_true]

namespace CounterMode

structure Lawful (mode : CounterMode) : Prop where
  cipher : mode.cipher.Lawful
  layout : mode.layout.Lawful
  nonceLength : mode.layout.nonceLength = mode.cipher.blockLength

theorem lawful_of_create {cipher : BlockCipher} {layout : NonceLayout} {mode : CounterMode}
    (hcipher : cipher.Lawful) (hlayout : layout.Lawful)
    (hcreate : create cipher layout = .ok mode) : mode.Lawful := by
  unfold create at hcreate
  split at hcreate
  · rename_i hlength
    cases hcreate
    exact ⟨hcipher, hlayout, hlength⟩
  · cases hcreate

theorem decrypt_encrypt {mode : CounterMode} (hmode : mode.Lawful) (auth : Authenticator)
    (type : ContentType) (plaintext : Bytes) :
    mode.decrypt auth type (mode.encrypt auth type plaintext) = .ok plaintext := by
  have hblock := auth.length_sequenceBlock
  have hcounter := (NonceLayout.length_nonce_sending hmode.layout hblock).trans hmode.nonceLength
  have hmask := counterMode_counterMode hmode.cipher length_incrementBE hcounter
    (plaintext ++ auth.computeMac type plaintext)
  have hreceiving := NonceLayout.receiving_sending hmode.layout hblock
    (mode.mask (mode.layout.sending auth.sequenceBlock).1
      (plaintext ++ auth.computeMac type plaintext))
  simp only [mask] at hreceiving
  simp only [decrypt, encrypt, mask, hreceiving, bind, Except.bind, hmask,
    auth.checkTrailingMac_append, List.take_left, pure, Except.pure]

end CounterMode

end RecordProtection
