import RecordProtection.CipherMode
import RecordProtection.Mode.Sealed

/-!
Record protection with all that a transform keeps between two records: also the machine of
ChaCha20-Poly1305, of which a record shows nothing.
-/

namespace RecordProtection

inductive StatefulTransform where
  | transform (transform : Transform)
  | sealed (records : SealedRecords)

namespace StatefulTransform

def encrypt (state : StatefulTransform) (auth : Authenticator) (type : ContentType)
    (plaintext : Bytes) (random : RandomSource) :
    Except RecordError Bytes × StatefulTransform × RandomSource :=
  match state with
  | transform state =>
      let (result, state, random) := state.encrypt auth type plaintext random
      (result, transform state, random)
  | sealed records =>
      let (result, records) := records.encrypt auth type plaintext
      (result, sealed records, random)

def decrypt (state : StatefulTransform) (auth : Authenticator) (type : ContentType)
    (record : Bytes) : Except RecordError Bytes × StatefulTransform :=
  match state with
  | transform state =>
      let (result, state) := state.decrypt auth type record
      (result, transform state)
  | sealed records =>
      let (result, records) := records.decrypt auth type record
      (result, sealed records)

def reset : StatefulTransform → StatefulTransform
  | transform state => transform state.reset
  | sealed records => sealed records.reset

def create (kind : ModeKind) (engine : Engine) (auth : Authenticator) (iv : Bytes)
    (sentLength : Nat) : Except RecordError StatefulTransform :=
  if kind = .chaCha20Poly1305 then (SealedRecords.create engine iv).map .sealed
  else (CipherMode.transformOf kind engine auth iv sentLength).map .transform

end StatefulTransform

structure StatefulMode where
  kind : ModeKind
  transform : StatefulTransform
  auth : Authenticator

namespace StatefulMode

def create (kind : ModeKind) (engine : Engine) (auth : Authenticator) (iv : Bytes)
    (sentLength : Nat) : Except RecordError StatefulMode := do
  let transform ← StatefulTransform.create kind engine auth iv sentLength
  return ⟨kind, transform, auth⟩

/-- A record that succeeds moves the counter on, if it can still move. -/
def count (mode : StatefulMode) (result : Except RecordError Bytes) :
    Except RecordError Bytes × StatefulMode :=
  match result with
  | .error e => (.error e, mode)
  | .ok bytes =>
      match mode.auth.advance with
      | .error e => (.error e, mode)
      | .ok auth => (.ok bytes, { mode with auth := auth })

def encrypt (mode : StatefulMode) (type : ContentType) (plaintext : Bytes)
    (random : RandomSource) : Except RecordError Bytes × StatefulMode × RandomSource :=
  let (result, transform, random) := mode.transform.encrypt mode.auth type plaintext random
  let (result, mode) := count { mode with transform := transform } result
  (result, mode, random)

def decrypt (mode : StatefulMode) (type : ContentType) (record : Bytes) :
    Except RecordError Bytes × StatefulMode :=
  let (result, transform) := mode.transform.decrypt mode.auth type record
  count { mode with transform := transform } result

def reset (mode : StatefulMode) : StatefulMode :=
  { mode with
    transform := mode.transform.reset
    auth := mode.auth.enterEpoch mode.auth.sequence.epoch }

end StatefulMode

end RecordProtection
