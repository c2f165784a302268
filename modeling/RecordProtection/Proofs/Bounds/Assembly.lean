import RecordProtection.Proofs.Bounds.Cbc
import RecordProtection.Proofs.Bounds.ChaCha20Poly1305
import RecordProtection.Proofs.Bounds.Multilinear
import RecordProtection.Proofs.CipherMode

/-!
# Modes within bounds

Which positions are within bounds depends on the parts that a mode is put together from: ciphers
under keys of the right lengths, IVs of the right lengths, and nonces that fit into their buffers.
The constructors of modes check all of that once.  An `Assembly` holds the parts together with what
was checked, so that its records can be written out in operations that may fault and still never do.
-/

namespace RecordProtection

open Guarded

/-! ### Content and MAC -/

namespace Transform

/-- The content is cut off the front. -/
def guardedWithoutMac (auth : Authenticator) (type : ContentType) (record : Bytes) :
    Guarded (Except RecordError Bytes) := do
  match ← auth.guardedCheckTrailingMac type record with
  | .error e => return .error e
  | .ok contentLength => return .ok (← Buffer.slice record 0 contentLength)

theorem guardedWithoutMac_eq_ok (auth : Authenticator) (type : ContentType) {record : Bytes}
    (hrecord : record.length < lengthFieldBound) :
    guardedWithoutMac auth type record = .ok (withoutMac auth type record) := by
  simp only [guardedWithoutMac, auth.guardedCheckTrailingMac_eq_ok type hrecord, ok_bind,
    withoutMac]
  cases hmac : auth.checkTrailingMac type record with
  | error e => rfl
  | ok contentLength =>
      have hfits : contentLength ≤ record.length := Authenticator.le_of_checkTrailingMac hmac
      simp only [Buffer.slice_front hfits, ok_bind]
      rfl

end Transform

namespace KeyedCipher

variable (keyed : KeyedCipher) (layout : NonceLayout) (auth : Authenticator) (type : ContentType)

/-- What is sent of the nonce stays in front of what is masked. -/
def guardedCounterEncrypt (plaintext : Bytes) : Guarded Bytes := do
  let (counter, sent) ← layout.guardedSending (← auth.guardedSequenceBlock)
  let mac ← auth.guardedComputeMac type plaintext
  let (sent, content) ← Buffer.splitAt (sent ++ (plaintext ++ mac)) sent.length
  return sent ++ (← keyed.guardedCounterMode (fun block => .ok (incrementBE block)) counter content)

def guardedCounterDecrypt (record : Bytes) : Guarded (Except RecordError Bytes) := do
  match ← layout.guardedReceiving (← auth.guardedSequenceBlock) record with
  | .error e => return .error e
  | .ok (counter, body) =>
      let decrypted ← keyed.guardedCounterMode (fun block => .ok (incrementBE block)) counter body
      Transform.guardedWithoutMac auth type decrypted

variable {layout} (hlayout : layout.Lawful) (hlength : layout.nonceLength = keyed.blockLength)
include hlayout hlength

theorem guardedCounterEncrypt_eq_ok {plaintext : Bytes}
    (hplaintext : plaintext.length < lengthFieldBound) :
    keyed.guardedCounterEncrypt layout auth type plaintext
      = .ok (CounterMode.encrypt ⟨keyed.cipher, layout⟩ auth type plaintext) := by
  have hblock := auth.length_sequenceBlock
  have hroom : layout.nonceLength ≤ maxNonceLength := hlength ▸ keyed.lawful.blockLength_le
  have hcounter := (NonceLayout.length_nonce_sending hlayout hblock).trans hlength
  simp only [guardedCounterEncrypt, auth.guardedSequenceBlock_eq_ok,
    NonceLayout.guardedSending_eq_ok hlayout hroom hblock,
    auth.guardedComputeMac_eq_ok type hplaintext, Buffer.splitAt_append rfl, ok_bind,
    keyed.guardedCounterMode_eq_ok (fun _ _ => rfl) length_incrementBE hcounter, pure_eq_ok]
  rfl

theorem guardedCounterDecrypt_eq_ok {record : Bytes} (hrecord : record.length < lengthFieldBound) :
    keyed.guardedCounterDecrypt layout auth type record
      = .ok (CounterMode.decrypt ⟨keyed.cipher, layout⟩ auth type record) := by
  have hblock := auth.length_sequenceBlock
  have hroom : layout.nonceLength ≤ maxNonceLength := hlength ▸ keyed.lawful.blockLength_le
  simp only [guardedCounterDecrypt, auth.guardedSequenceBlock_eq_ok, ok_bind,
    NonceLayout.guardedReceiving_eq_ok hlayout hroom hblock]
  cases hreceiving : layout.receiving auth.sequenceBlock record with
  | error e =>
      simp only [CounterMode.decrypt, hreceiving, bind, Except.bind, pure_eq_ok]
  | ok parts =>
      obtain ⟨counter, body⟩ := parts
      obtain ⟨hnonce, hbody⟩ := NonceLayout.length_of_receiving hlayout hblock hreceiving
      have hcounter := hnonce.trans hlength
      have hdecrypted : (counterMode keyed.cipher incrementBE counter body).length
          < lengthFieldBound := by
        rw [length_counterMode keyed.lawful length_incrementBE hcounter]
        omega
      simp only [keyed.guardedCounterMode_eq_ok (fun _ _ => rfl) length_incrementBE hcounter,
        ok_bind, Transform.guardedWithoutMac_eq_ok auth type hdecrypted, CounterMode.decrypt,
        hreceiving]
      rfl

end KeyedCipher

/-! ### Authenticated encryption -/

/-- The AEADs that modes use, with what they are keyed by. -/
inductive Sealing where
  | tagged (kind : ModeKind) (keyed : KeyedCipher)
  | chaCha20Poly1305 (key : Bytes)
  | multilinear (keyed : KeyedCipher) (strong : Bool)

namespace Sealing

def aead : Sealing → Aead
  | tagged kind keyed => kind.taggedAead keyed.cipher
  | chaCha20Poly1305 key => RecordProtection.chaCha20Poly1305 key
  | multilinear keyed strong => Multilinear.aead ⟨keyed.kind, keyed.cipher, strong⟩

def guarded : Sealing → GuardedAead
  | tagged kind keyed => .ofTagged (kind.taggedAead keyed.cipher)
  | chaCha20Poly1305 key => .chaCha20Poly1305 key
  | multilinear keyed strong => .multilinear keyed strong

def nonceLength : Sealing → Nat
  | tagged .. => 12
  | chaCha20Poly1305 _ => ChaCha20Poly1305.nonceLength
  | multilinear keyed _ => keyed.blockLength

theorem refines (sealing : Sealing) : sealing.guarded.Refines sealing.aead sealing.nonceLength := by
  cases sealing with
  | tagged kind keyed => exact GuardedAead.refines_ofTagged kind keyed.cipher
  | chaCha20Poly1305 key => exact GuardedAead.refines_chaCha20Poly1305 key
  | multilinear keyed strong => exact GuardedAead.refines_multilinear keyed strong

theorem nonceLength_le (sealing : Sealing) : sealing.nonceLength ≤ maxNonceLength := by
  cases sealing with
  | tagged kind keyed => exact Nat.le_of_ble_eq_true rfl
  | chaCha20Poly1305 key => exact Nat.le_of_ble_eq_true rfl
  | multilinear keyed strong => exact keyed.lawful.blockLength_le

end Sealing

/-! ### Transforms and their parts -/

/-- The parts of a transform, with what is checked when they are put together. -/
inductive Assembly where
  | plain
  | stream (cipher : StreamCipher)
  | cbc (keyed : KeyedCipher) (chaining : CbcChaining) (lawful : (keyed.cbc chaining).Lawful)
  | counter (keyed : KeyedCipher) (layout : NonceLayout) (lawful : layout.Lawful)
      (nonceLength_eq : layout.nonceLength = keyed.blockLength)
  | aead (sealing : Sealing) (layout : NonceLayout) (lawful : layout.Lawful)
      (nonceLength_eq : layout.nonceLength = sealing.nonceLength)
  | unavailable

namespace Assembly

def transform : Assembly → Transform
  | plain => .plain
  | stream cipher => .stream cipher
  | cbc keyed chaining _ => .cbc (keyed.cbc chaining)
  | counter keyed layout _ _ => .counter ⟨keyed.cipher, layout⟩
  | aead sealing layout _ _ => .aead ⟨sealing.aead, layout⟩
  | unavailable => .unavailable

def guardedEncrypt (assembly : Assembly) (auth : Authenticator) (type : ContentType)
    (plaintext : Bytes) (random : RandomSource) :
    Guarded (Except RecordError Bytes × Transform × RandomSource) :=
  match assembly with
  | plain => do
      return (.ok (plaintext ++ (← auth.guardedComputeMac type plaintext)), .plain, random)
  | stream cipher => do
      let (record, cipher) := cipher.apply (plaintext ++ (← auth.guardedComputeMac type plaintext))
      return (.ok record, .stream cipher, random)
  | cbc keyed chaining _ => do
      let (record, next, random) ← keyed.guardedCbcEncrypt chaining auth type plaintext random
      return (.ok record, .cbc next, random)
  | counter keyed layout _ _ => do
      let record ← keyed.guardedCounterEncrypt layout auth type plaintext
      return (.ok record, .counter ⟨keyed.cipher, layout⟩, random)
  | aead sealing layout _ _ => do
      let result ← sealing.guarded.protect layout auth type plaintext
      return (result, .aead ⟨sealing.aead, layout⟩, random)
  | unavailable => return (.error Transform.unavailableError, .unavailable, random)

def guardedDecrypt (assembly : Assembly) (auth : Authenticator) (type : ContentType)
    (record : Bytes) : Guarded (Except RecordError Bytes × Transform) :=
  match assembly with
  | plain => do
      return (← Transform.guardedWithoutMac auth type record, .plain)
  | stream cipher => do
      let (decrypted, cipher) := cipher.apply record
      return (← Transform.guardedWithoutMac auth type decrypted, .stream cipher)
  | cbc keyed chaining _ => do
      let (result, next) ← keyed.guardedCbcDecrypt chaining auth type record
      return (result, .cbc next)
  | counter keyed layout _ _ => do
      let result ← keyed.guardedCounterDecrypt layout auth type record
      return (result, .counter ⟨keyed.cipher, layout⟩)
  | aead sealing layout _ _ => do
      let result ← sealing.guarded.unprotect layout auth type record
      return (result, .aead ⟨sealing.aead, layout⟩)
  | unavailable => return (.error Transform.unavailableError, .unavailable)

variable (assembly : Assembly) (auth : Authenticator) (type : ContentType)

theorem guardedEncrypt_eq_ok {plaintext : Bytes}
    (hplaintext : plaintext.length + 24 < lengthFieldBound) (random : RandomSource) :
    assembly.guardedEncrypt auth type plaintext random
      = .ok (assembly.transform.encrypt auth type plaintext random) := by
  have hshort : plaintext.length < lengthFieldBound := by omega
  cases assembly with
  | plain =>
      simp only [guardedEncrypt, auth.guardedComputeMac_eq_ok type hshort, ok_bind, pure_eq_ok]
      rfl
  | stream cipher =>
      simp only [guardedEncrypt, auth.guardedComputeMac_eq_ok type hshort, ok_bind, pure_eq_ok]
      rfl
  | cbc keyed chaining lawful =>
      simp only [guardedEncrypt, keyed.guardedCbcEncrypt_eq_ok auth type lawful hshort, ok_bind,
        pure_eq_ok]
      rfl
  | counter keyed layout lawful nonceLength_eq =>
      simp only [guardedEncrypt, ok_bind, pure_eq_ok,
        keyed.guardedCounterEncrypt_eq_ok auth type lawful nonceLength_eq hshort]
      rfl
  | aead sealing layout lawful nonceLength_eq =>
      have hrefines := nonceLength_eq ▸ sealing.refines
      have hroom := nonceLength_eq ▸ sealing.nonceLength_le
      simp only [guardedEncrypt, ok_bind, pure_eq_ok,
        GuardedAead.protect_eq_ok auth type hrefines lawful hroom hplaintext]
      rfl
  | unavailable => rfl

theorem guardedDecrypt_eq_ok {record : Bytes} (hrecord : record.length < lengthFieldBound) :
    assembly.guardedDecrypt auth type record
      = .ok (assembly.transform.decrypt auth type record) := by
  cases assembly with
  | plain =>
      simp only [guardedDecrypt, Transform.guardedWithoutMac_eq_ok auth type hrecord, ok_bind,
        pure_eq_ok]
      rfl
  | stream cipher =>
      have hdecrypted : (cipher.apply record).1.length < lengthFieldBound := by
        simp only [StreamCipher.apply, Bytes.length_xor]
        omega
      simp only [guardedDecrypt, Transform.guardedWithoutMac_eq_ok auth type hdecrypted, ok_bind,
        pure_eq_ok]
      rfl
  | cbc keyed chaining lawful =>
      simp only [guardedDecrypt, keyed.guardedCbcDecrypt_eq_ok auth type lawful hrecord, ok_bind,
        pure_eq_ok]
      rfl
  | counter keyed layout lawful nonceLength_eq =>
      simp only [guardedDecrypt, ok_bind, pure_eq_ok,
        keyed.guardedCounterDecrypt_eq_ok auth type lawful nonceLength_eq hrecord]
      rfl
  | aead sealing layout lawful nonceLength_eq =>
      have hrefines := nonceLength_eq ▸ sealing.refines
      have hroom := nonceLength_eq ▸ sealing.nonceLength_le
      simp only [guardedDecrypt, ok_bind, pure_eq_ok,
        GuardedAead.unprotect_eq_ok auth type hrefines lawful hroom hrecord]
      rfl
  | unavailable => rfl

end Assembly

/-! ### Modes and their parts -/

namespace CipherMode

/-- The counter moves on by one with every record that succeeds. -/
def guardedEncrypt (mode : CipherMode) (assembly : Assembly) (type : ContentType)
    (plaintext : Bytes) (random : RandomSource) :
    Guarded (Except RecordError Bytes × CipherMode × RandomSource) := do
  let (result, transform, random) ← assembly.guardedEncrypt mode.auth type plaintext random
  let mode := { mode with transform := transform }
  match result with
  | .error e => return (.error e, mode, random)
  | .ok record =>
      match ← mode.auth.guardedAdvance with
      | .error e => return (.error e, mode, random)
      | .ok auth => return (.ok record, { mode with auth := auth }, random)

def guardedDecrypt (mode : CipherMode) (assembly : Assembly) (type : ContentType)
    (record : Bytes) : Guarded (Except RecordError Bytes × CipherMode) := do
  let (result, transform) ← assembly.guardedDecrypt mode.auth type record
  let mode := { mode with transform := transform }
  match result with
  | .error e => return (.error e, mode)
  | .ok plaintext =>
      match ← mode.auth.guardedAdvance with
      | .error e => return (.error e, mode)
      | .ok auth => return (.ok plaintext, { mode with auth := auth })

section Parts

variable {mode : CipherMode} {assembly : Assembly} (hparts : mode.transform = assembly.transform)
  (type : ContentType)
include hparts

theorem guardedEncrypt_eq_ok {plaintext : Bytes}
    (hplaintext : plaintext.length + 24 < lengthFieldBound) (random : RandomSource) :
    mode.guardedEncrypt assembly type plaintext random
      = .ok (mode.encrypt type plaintext random) := by
  simp only [guardedEncrypt, assembly.guardedEncrypt_eq_ok mode.auth type hplaintext, ok_bind,
    ← hparts, encrypt]
  rcases mode.transform.encrypt mode.auth type plaintext random
    with ⟨_ | record, transform, rest⟩
  · rfl
  · simp only [mode.auth.guardedAdvance_eq_ok, ok_bind]
    cases mode.auth.advance <;> rfl

theorem guardedDecrypt_eq_ok {record : Bytes} (hrecord : record.length < lengthFieldBound) :
    mode.guardedDecrypt assembly type record = .ok (mode.decrypt type record) := by
  simp only [guardedDecrypt, assembly.guardedDecrypt_eq_ok mode.auth type hrecord, ok_bind,
    ← hparts, decrypt]
  rcases mode.transform.decrypt mode.auth type record with ⟨_ | content, transform⟩
  · rfl
  · simp only [mode.auth.guardedAdvance_eq_ok, ok_bind]
    cases mode.auth.advance <;> rfl

end Parts

end CipherMode

/-! ### Every mode has parts -/

/-- The block cipher of an engine comes from a key of one of the engine's lengths. -/
theorem Engine.Reached.exists_keyed {engine : Engine} (hengine : engine.Reached)
    {cipher : BlockCipher} (hblock : engine.block? = some cipher) :
    ∃ keyed : KeyedCipher, keyed.kind = engine.kind ∧ keyed.cipher = cipher := by
  induction hengine with
  | created hcreate =>
      obtain ⟨hkey, rfl⟩ := create_eq_ok_iff.mp hcreate
      exact ⟨⟨_, _, cipher, hkey, block?_eq_some_iff.mp hblock⟩, rfl, rfl⟩
  | @processed engine _ input room ih =>
      obtain heq | ⟨stream, heq⟩ := engine.process_eq input room
      · rw [heq] at hblock ⊢
        exact ih hblock
      · rw [heq] at hblock
        cases hblock
  | streamed => cases hblock

namespace Assembly

theorem exists_cbc (keyed : KeyedCipher) {cbc : Cbc} (hcbc : cbc.Lawful)
    (hcipher : cbc.cipher = keyed.cipher) :
    ∃ assembly : Assembly, Transform.cbc cbc = assembly.transform := by
  obtain ⟨cipher, chaining⟩ := cbc
  subst hcipher
  exact ⟨.cbc keyed chaining hcbc, rfl⟩

/-- What a mode is created from is checked there. -/
theorem exists_of_made {kind : ModeKind} {engine : Engine} {auth : Authenticator} {iv : Bytes}
    {sentLength : Nat} {transform : Transform} (hengine : engine.Reached)
    (hmade : CipherMode.Made engine auth iv sentLength kind transform) :
    ∃ assembly : Assembly, transform = assembly.transform := by
  cases hmade with
  | null => exact ⟨.plain, rfl⟩
  | stream cipher => exact ⟨.stream cipher, rfl⟩
  | cbc hblock hmode =>
      obtain ⟨keyed, -, rfl⟩ := hengine.exists_keyed hblock
      exact exists_cbc keyed (Cbc.lawful_of_create keyed.lawful hmode)
        (Cbc.cipher_of_create hmode)
  | ctr hblock hlayout hmode =>
      obtain ⟨keyed, -, rfl⟩ := hengine.exists_keyed hblock
      unfold CounterMode.create at hmode
      split at hmode <;> cases hmode
      rename_i hlength
      exact ⟨.counter keyed _ (NonceLayout.lawful_of_ofIV hlayout) hlength, rfl⟩
  | @tagged kind _ layout _ hblock hlayout _ hlength =>
      obtain ⟨keyed, -, rfl⟩ := hengine.exists_keyed hblock
      exact ⟨.aead (.tagged kind keyed) layout (NonceLayout.lawful_of_ofIV hlayout) hlength, rfl⟩
  | chaCha20Poly1305 hiv =>
      have hlawful : (NonceLayout.masked iv).Lawful := by
        simp only [NonceLayout.Lawful, hiv]
        decide
      exact ⟨.aead (.chaCha20Poly1305 engine.key) (.masked iv) hlawful hiv, rfl⟩
  | multilinear strong hblock hiv =>
      obtain ⟨keyed, hkind, rfl⟩ := hengine.exists_keyed hblock
      have hlawful : (NonceLayout.masked iv).Lawful := by
        simp only [NonceLayout.Lawful, hiv]
        exact CipherMode.sequenceBlockLength_le_blockLength hengine.lawful hblock
      exact ⟨.aead (.multilinear keyed strong) (.masked iv) hlawful hiv, by rw [← hkind]; rfl⟩
  | cntImit => exact ⟨.unavailable, rfl⟩

variable (assembly : Assembly) (auth : Authenticator) (type : ContentType)

/-- Records move keystreams and chains on, and leave all that was checked as it is. -/
theorem exists_encrypt (plaintext : Bytes) (random : RandomSource) :
    ∃ next : Assembly,
      (assembly.transform.encrypt auth type plaintext random).2.1 = next.transform := by
  cases assembly with
  | stream cipher =>
      exact ⟨.stream (cipher.apply (plaintext ++ auth.computeMac type plaintext)).2, rfl⟩
  | cbc keyed chaining lawful =>
      exact exists_cbc keyed (lawful.encrypt auth type plaintext random)
        (Cbc.cipher_encrypt _ auth type plaintext random)
  | plain => exact ⟨.plain, rfl⟩
  | counter keyed layout lawful hlength => exact ⟨.counter keyed layout lawful hlength, rfl⟩
  | aead sealing layout lawful hlength => exact ⟨.aead sealing layout lawful hlength, rfl⟩
  | unavailable => exact ⟨.unavailable, rfl⟩

theorem exists_decrypt (record : Bytes) :
    ∃ next : Assembly, (assembly.transform.decrypt auth type record).2 = next.transform := by
  cases assembly with
  | stream cipher => exact ⟨.stream (cipher.apply record).2, rfl⟩
  | cbc keyed chaining lawful =>
      exact exists_cbc keyed (lawful.decrypt auth type record)
        (Cbc.cipher_decrypt _ auth type record)
  | plain => exact ⟨.plain, rfl⟩
  | counter keyed layout lawful hlength => exact ⟨.counter keyed layout lawful hlength, rfl⟩
  | aead sealing layout lawful hlength => exact ⟨.aead sealing layout lawful hlength, rfl⟩
  | unavailable => exact ⟨.unavailable, rfl⟩

theorem exists_reset : ∃ next : Assembly, assembly.transform.reset = next.transform := by
  cases assembly with
  | stream cipher => exact ⟨.stream cipher.reset, rfl⟩
  | cbc keyed chaining lawful =>
      exact exists_cbc keyed lawful.reset (by cases chaining <;> rfl)
  | plain => exact ⟨.plain, rfl⟩
  | counter keyed layout lawful hlength => exact ⟨.counter keyed layout lawful hlength, rfl⟩
  | aead sealing layout lawful hlength => exact ⟨.aead sealing layout lawful hlength, rfl⟩
  | unavailable => exact ⟨.unavailable, rfl⟩

end Assembly

theorem CipherMode.Reached.exists_assembly {mode : CipherMode} (hmode : mode.Reached) :
    ∃ assembly : Assembly, mode.transform = assembly.transform := by
  induction hmode with
  | created hengine hcreate =>
      obtain ⟨transform, htransform, rfl⟩ := create_eq_ok_iff.mp hcreate
      exact Assembly.exists_of_made hengine (made_of_transformOf htransform)
  | @encrypted mode _ type plaintext random ih =>
      obtain ⟨assembly, hparts⟩ := ih
      rw [transform_encrypt, hparts]
      exact assembly.exists_encrypt mode.auth type plaintext random
  | @decrypted mode _ type record ih =>
      obtain ⟨assembly, hparts⟩ := ih
      rw [transform_decrypt, hparts]
      exact assembly.exists_decrypt mode.auth type record
  | @reset mode _ ih =>
      obtain ⟨assembly, hparts⟩ := ih
      rw [CipherMode.reset, hparts]
      exact assembly.exists_reset
  | placed _ _ ih => exact ih

end RecordProtection
