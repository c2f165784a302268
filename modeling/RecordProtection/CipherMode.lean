import RecordProtection.Aead.Ccm
import RecordProtection.Aead.ChaCha20Poly1305
import RecordProtection.Aead.Gcm
import RecordProtection.Aead.Multilinear
import RecordProtection.Mode.Aead
import RecordProtection.Mode.Cbc
import RecordProtection.Mode.Counter
import RecordProtection.ModeKind

/-!
Record protection for one direction: a transform of records together with the counter that places
them.  The counter moves on by one with every record that succeeds.
-/

namespace RecordProtection

inductive Transform where
  | plain
  | stream (cipher : StreamCipher)
  | cbc (cbc : Cbc)
  | counter (mode : CounterMode)
  | aead (mode : AeadMode)
  | unavailable

namespace Transform

def unavailableError : RecordError := .unsupportedOperation "CNT-IMIT record protection"

def encrypt (transform : Transform) (auth : Authenticator) (type : ContentType) (plaintext : Bytes)
    (random : RandomSource) : Except RecordError Bytes × Transform × RandomSource :=
  match transform with
  | plain => (.ok (plaintext ++ auth.computeMac type plaintext), plain, random)
  | stream cipher =>
      let (record, cipher) := cipher.apply (plaintext ++ auth.computeMac type plaintext)
      (.ok record, stream cipher, random)
  | cbc mode =>
      let (record, mode, random) := mode.encrypt auth type plaintext random
      (.ok record, cbc mode, random)
  | counter mode => (.ok (mode.encrypt auth type plaintext), counter mode, random)
  | aead mode => (mode.encrypt auth type plaintext, aead mode, random)
  | unavailable => (.error unavailableError, unavailable, random)

/-- The content in front of a right MAC. -/
def withoutMac (auth : Authenticator) (type : ContentType) (record : Bytes) :
    Except RecordError Bytes := do
  let contentLength ← auth.checkTrailingMac type record
  return record.take contentLength

/-- A keystream moves on even if the MAC turns out to be wrong. -/
def decrypt (transform : Transform) (auth : Authenticator) (type : ContentType) (record : Bytes) :
    Except RecordError Bytes × Transform :=
  match transform with
  | plain => (withoutMac auth type record, plain)
  | stream cipher =>
      let (decrypted, cipher) := cipher.apply record
      (withoutMac auth type decrypted, stream cipher)
  | cbc mode =>
      let (result, mode) := mode.decrypt auth type record
      (result, cbc mode)
  | counter mode => (mode.decrypt auth type record, counter mode)
  | aead mode => (mode.decrypt auth type record, aead mode)
  | unavailable => (.error unavailableError, unavailable)

def reset : Transform → Transform
  | stream cipher => stream cipher.reset
  | cbc mode => cbc mode.reset
  | transform => transform

end Transform

structure CipherMode where
  kind : ModeKind
  transform : Transform
  auth : Authenticator

namespace CipherMode

def incompatible (kind : ModeKind) (engine : Engine) : RecordError :=
  .incompatibleEngine kind.name engine.kind.name

def requireBlock (kind : ModeKind) (engine : Engine) : Except RecordError BlockCipher :=
  match engine.block? with
  | some cipher => .ok cipher
  | none => .error (incompatible kind engine)

/-- An authenticated mode whose nonces have twelve bytes, for the ciphers that have such modes. -/
def taggedCounterMode (kind : ModeKind) (engine : Engine) (iv : Bytes) (sentLength : Nat)
    (aead : BlockCipher → Aead) : Except RecordError Transform := do
  let cipher ← requireBlock kind engine
  let layout ← NonceLayout.ofIV iv sentLength
  if !engine.kind.hasTaggedCounterModes then
    throw (incompatible kind engine)
  if layout.nonceLength ≠ 12 then
    throw (.invalidKeyLength 12 layout.nonceLength)
  return .aead ⟨aead cipher, layout⟩

/-- A multilinear mode, whose IV is a whole block. -/
def multilinearMode (kind : ModeKind) (engine : Engine) (iv : Bytes) (strong : Bool) :
    Except RecordError Transform :=
  match Multilinear.create engine strong with
  | .error _ => .error (incompatible kind engine)
  | .ok mode =>
      if iv.length = mode.blockLength then .ok (.aead ⟨mode.aead, .masked iv⟩)
      else .error (.invalidKeyLength mode.blockLength iv.length)

/-- The transform of a mode under an engine; `sentLength` bytes of each nonce are sent. -/
def transformOf (kind : ModeKind) (engine : Engine) (auth : Authenticator) (iv : Bytes)
    (sentLength : Nat) : Except RecordError Transform :=
  match kind with
  | .null => if engine.kind = .none then .ok .plain else .error (incompatible kind engine)
  | .stream =>
      match engine.kind, engine.stream? with
      | .rc4, some cipher => .ok (.stream cipher)
      | _, _ => .error (incompatible kind engine)
  | .cbc => do
      let cipher ← requireBlock kind engine
      let mode ← Cbc.create cipher iv auth.version.usesExplicitIV
      return .cbc mode
  | .ctr => do
      let cipher ← requireBlock kind engine
      let layout ← NonceLayout.ofIV iv sentLength
      let mode ← CounterMode.create cipher layout
      return .counter mode
  | .gcm => taggedCounterMode kind engine iv sentLength gcm
  | .ccm => taggedCounterMode kind engine iv sentLength (ccm 16)
  | .ccm8 => taggedCounterMode kind engine iv sentLength (ccm 8)
  | .chaCha20Poly1305 =>
      if engine.kind ≠ .chacha20 then .error (incompatible kind engine)
      else if iv.length ≠ ChaCha20Poly1305.nonceLength then
        .error (.invalidKeyLength ChaCha20Poly1305.nonceLength iv.length)
      else .ok (.aead ⟨chaCha20Poly1305 engine.key, .masked iv⟩)
  | .mgmStrong => multilinearMode kind engine iv true
  | .mgmLight => multilinearMode kind engine iv false
  | .cntImit =>
      if engine.kind.isMultilinear then .ok .unavailable else .error (incompatible kind engine)

def create (kind : ModeKind) (engine : Engine) (auth : Authenticator) (iv : Bytes)
    (sentLength : Nat) : Except RecordError CipherMode := do
  let transform ← transformOf kind engine auth iv sentLength
  return ⟨kind, transform, auth⟩

def encrypt (mode : CipherMode) (type : ContentType) (plaintext : Bytes) (random : RandomSource) :
    Except RecordError Bytes × CipherMode × RandomSource :=
  let (result, transform, random) := mode.transform.encrypt mode.auth type plaintext random
  let mode := { mode with transform := transform }
  match result with
  | .error e => (.error e, mode, random)
  | .ok record =>
      match mode.auth.advance with
      | .error e => (.error e, mode, random)
      | .ok auth => (.ok record, { mode with auth := auth }, random)

def decrypt (mode : CipherMode) (type : ContentType) (record : Bytes) :
    Except RecordError Bytes × CipherMode :=
  let (result, transform) := mode.transform.decrypt mode.auth type record
  let mode := { mode with transform := transform }
  match result with
  | .error e => (.error e, mode)
  | .ok plaintext =>
      match mode.auth.advance with
      | .error e => (.error e, mode)
      | .ok auth => (.ok plaintext, { mode with auth := auth })

def reset (mode : CipherMode) : CipherMode :=
  { mode with
    transform := mode.transform.reset
    auth := mode.auth.enterEpoch mode.auth.sequence.epoch }

end CipherMode

end RecordProtection
