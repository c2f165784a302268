import RecordProtection.Aead.ChaCha20Poly1305
import RecordProtection.Authenticator
import RecordProtection.Nonce

/-!
Records under ChaCha20-Poly1305 by one machine, which is kept from each record to the next.
-/

namespace RecordProtection

/-- A call of a machine.  A failure ends the record, but what it left of the machine is kept. -/
abbrev SealStep (α : Type) := ExceptT RecordError (StateM SealMachine) α

def SealStep.of {α : Type} (call : SealMachine → Except RecordError α × SealMachine) : SealStep α :=
  ExceptT.mk call

/-- The machine in one of the directions. -/
def SealMachine.turn (machine : SealMachine) (forEncryption : Bool) : SealMachine :=
  { machine with forEncryption := forEncryption }

/-- `forEncryption` is the direction that a reset gives back to the machine. -/
structure SealedRecords where
  machine : SealMachine
  forEncryption : Bool
  iv : Bytes

namespace SealedRecords

def create (engine : Engine) (iv : Bytes) : Except RecordError SealedRecords := do
  let machine ← SealMachine.create engine
  if iv.length ≠ ChaCha20Poly1305.nonceLength then
    throw (.invalidKeyLength ChaCha20Poly1305.nonceLength iv.length)
  return ⟨machine, machine.forEncryption, iv⟩

def reset (records : SealedRecords) : SealedRecords :=
  { records with machine := records.machine.reset.turn records.forEncryption }

/-- A machine at rest takes additional data and payload in one of the directions. -/
def takePayload (encrypts : Bool) (nonce data input : Bytes) : SealStep Bytes := do
  modify (SealMachine.turn · encrypts)
  SealStep.of (SealMachine.start · nonce)
  SealStep.of (SealMachine.updateData · data)
  SealStep.of (SealMachine.process · input input.length)

def sealPayload (nonce data plaintext : Bytes) : SealStep Bytes := do
  let ciphertext ← takePayload true nonce data plaintext
  let tag ← SealStep.of SealMachine.finalize
  return ciphertext ++ tag

def openPayload (nonce data ciphertext tag : Bytes) : SealStep Bytes := do
  let plaintext ← takePayload false nonce data ciphertext
  SealStep.of (SealMachine.verify · tag)
  return plaintext

/-- The keystream of a nonce ends. -/
def maxLength : Nat := 0xffffffff * ChaCha20.blockLength

/-- Each record starts from a machine at rest. -/
def run (records : SealedRecords) (step : SealStep Bytes) :
    Except RecordError Bytes × SealedRecords :=
  let (result, machine) := step records.reset.machine
  (result, { records with machine := machine })

def encrypt (records : SealedRecords) (auth : Authenticator) (type : ContentType)
    (plaintext : Bytes) : Except RecordError Bytes × SealedRecords :=
  let nonce := maskIV records.iv auth.sequenceBlock
  let recordLength := plaintext.length + ChaCha20Poly1305.tagLength
  let data := auth.additionalData type plaintext.length recordLength
  if plaintext.length > maxLength then
    (.error (.unsupportedOperation "AEAD seal"), records)
  else
    records.run (sealPayload nonce data plaintext)

/-- A record that is too short does not get to the machine. -/
def decrypt (records : SealedRecords) (auth : Authenticator) (type : ContentType)
    (record : Bytes) : Except RecordError Bytes × SealedRecords :=
  if record.length < ChaCha20Poly1305.tagLength then
    (.error (.recordTooShort record.length), records)
  else
    let length := record.length - ChaCha20Poly1305.tagLength
    let nonce := maskIV records.iv auth.sequenceBlock
    let data := auth.additionalData type length record.length
    if length > maxLength then
      (.error .badRecordMac, records)
    else
      records.run (openPayload nonce data (record.take length) (record.drop length))

end SealedRecords

end RecordProtection
