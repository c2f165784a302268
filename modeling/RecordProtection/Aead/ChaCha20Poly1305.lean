import RecordProtection.Aead.Basic
import RecordProtection.Aead.Poly1305
import RecordProtection.Engine

/-!
ChaCha20-Poly1305: as one operation on whole messages, and as a machine that takes the additional
data and the payload in pieces.
-/

namespace RecordProtection

namespace ChaCha20Poly1305

def tagLength : Nat := 16

def nonceLength : Nat := 12

/-- The authenticator key is the start of the first keystream block. -/
def macKey (key nonce : Bytes) : Bytes := ChaCha20.keystream key nonce 0 32

/-- The payload is masked from the second keystream block on. -/
def mask (key nonce data : Bytes) : Bytes :=
  Bytes.xor data (ChaCha20.keystream key nonce ChaCha20.blockLength data.length)

def lengths (dataLength payloadLength : Nat) : Bytes :=
  Bytes.ofNatLE 8 dataLength ++ Bytes.ofNatLE 8 payloadLength

/-- Additional data and ciphertext are each filled up to whole blocks, and their lengths follow. -/
def tag (key nonce additionalData ciphertext : Bytes) : Bytes :=
  let message := Bytes.padTo 16 additionalData ++ Bytes.padTo 16 ciphertext
    ++ lengths additionalData.length ciphertext.length
  Poly1305.tag (macKey key nonce) (Bytes.chunks 16 message)

end ChaCha20Poly1305

def chaCha20Poly1305 (key : Bytes) : Aead where
  tagLength := ChaCha20Poly1305.tagLength
  maxLength := 0xffffffff * ChaCha20.blockLength
  encrypt nonce additionalData plaintext :=
    let ciphertext := ChaCha20Poly1305.mask key nonce plaintext
    (ciphertext, ChaCha20Poly1305.tag key nonce additionalData ciphertext)
  decrypt nonce additionalData ciphertext tag :=
    if ChaCha20Poly1305.tag key nonce additionalData ciphertext = tag then
      some (ChaCha20Poly1305.mask key nonce ciphertext)
    else none

/-- How far a message in pieces has come.  A message starts with additional data; its payload ends
the additional data; the tag ends the message. -/
inductive SealPhase where
  | ready
  | additionalData (mac : Absorber Poly1305) (length : Nat)
  | payload (mac : Absorber Poly1305) (dataLength payloadLength : Nat)
  | finished

namespace SealPhase

def name : SealPhase → String
  | ready => "ready"
  | additionalData .. => "aad"
  | payload .. => "data"
  | finished => "finished"

end SealPhase

/-- A machine that encrypts or decrypts one message at a time under one key. -/
structure SealMachine where
  cipher : StreamCipher
  forEncryption : Bool
  phase : SealPhase

namespace SealMachine

def create (engine : Engine) : Except RecordError SealMachine :=
  match engine.kind, engine.stream? with
  | .chacha20, some cipher => .ok ⟨cipher, engine.forEncryption, .ready⟩
  | _, _ => .error (.incompatibleEngine "CHACHA20_POLY1305" engine.kind.name)

def absorb (mac : Absorber Poly1305) (data : Bytes) : Absorber Poly1305 :=
  mac.feed 16 Poly1305.absorbBlock data

/-- Zeros up to the end of the open block. -/
def absorbPadding (mac : Absorber Poly1305) : Absorber Poly1305 :=
  absorb mac (Bytes.zeros ((16 - mac.length % 16) % 16))

/-- The tag over what was absorbed and the two lengths. -/
def closeMac (mac : Absorber Poly1305) (dataLength payloadLength : Nat) : Bytes :=
  (absorb (absorbPadding mac) (ChaCha20Poly1305.lengths dataLength payloadLength)).state.finalize

/-- The first keystream block of a nonce gives the key of the authenticator; the cipher is left at
the second one. -/
def takeMacKey (cipher : StreamCipher) (nonce : Bytes) :
    Except RecordError (Bytes × StreamCipher) := do
  let cipher ← cipher.start nonce
  let (key, cipher) := cipher.apply (Bytes.zeros 32)
  return (key, ← cipher.seekBlock 1)

/-- A message can start once after creation and once after each reset. -/
def start (machine : SealMachine) (nonce : Bytes) : Except RecordError Unit × SealMachine :=
  match machine.phase with
  | .ready =>
      match takeMacKey machine.cipher nonce with
      | .ok (key, cipher) =>
          (.ok (), { machine with
            cipher := cipher
            phase := .additionalData (Absorber.start (Poly1305.ofKey key)) 0 })
      | .error e => (.error e, machine)
  | .finished => (.error .notInitialized, machine)
  | _ => (.error .alreadyInitialized, machine)

def updateData (machine : SealMachine) (data : Bytes) : Except RecordError Unit × SealMachine :=
  match machine.phase with
  | .additionalData mac length =>
      (.ok (), { machine with phase := .additionalData (absorb mac data) (length + data.length) })
  | .payload .. => (.error (.unsupportedOperation "AAD after payload"), machine)
  | _ => (.error .notInitialized, machine)

/-- Masks a piece of the payload; the MAC covers the ciphertext. -/
def processPayload (machine : SealMachine) (mac : Absorber Poly1305)
    (dataLength payloadLength : Nat) (input : Bytes) : Bytes × SealMachine :=
  let (output, cipher) := machine.cipher.apply input
  let covered := if machine.forEncryption then output else input
  (output, { machine with
    cipher := cipher
    phase := .payload (absorb mac covered) dataLength (payloadLength + input.length) })

/-- The first piece of the payload ends the additional data. -/
def process (machine : SealMachine) (input : Bytes) (room : Nat) :
    Except RecordError Bytes × SealMachine :=
  if room < input.length then
    (.error (.recordOverflow input.length room), machine)
  else
    match machine.phase with
    | .additionalData mac length =>
        let (output, machine) := machine.processPayload (absorbPadding mac) length 0 input
        (.ok output, machine)
    | .payload mac dataLength payloadLength =>
        let (output, machine) := machine.processPayload mac dataLength payloadLength input
        (.ok output, machine)
    | _ => (.error .notInitialized, machine)

def finalize (machine : SealMachine) : Except RecordError Bytes × SealMachine :=
  match machine.phase with
  | .additionalData mac length =>
      (.ok (closeMac mac length 0), { machine with phase := .finished })
  | .payload mac dataLength payloadLength =>
      (.ok (closeMac mac dataLength payloadLength), { machine with phase := .finished })
  | _ => (.error .notInitialized, machine)

def verify (machine : SealMachine) (tag : Bytes) : Except RecordError Unit × SealMachine :=
  match machine.finalize with
  | (.ok expected, machine) =>
      (if expected = tag then .ok () else .error .badRecordMac, machine)
  | (.error e, machine) => (.error e, machine)

def reset (machine : SealMachine) : SealMachine :=
  { machine with cipher := machine.cipher.reset, phase := .ready }

end SealMachine

end RecordProtection
