import RecordProtection.Authenticator
import RecordProtection.Block.Cipher
import RecordProtection.Padding
import RecordProtection.RandomSource

/-!
Records in cipher block chaining: content, MAC and padding, encrypted block by block.
-/

namespace RecordProtection

/-- Either each record starts with a random IV, or a record goes on from the last block of the one
before. -/
inductive CbcChaining where
  | explicit
  | chained (initial current : Bytes)
  deriving DecidableEq, Repr

structure Cbc where
  cipher : BlockCipher
  chaining : CbcChaining

/-- Each block is added to the encryption of the one before. -/
def cbcEncryptBlocks (cipher : BlockCipher) : (previous : Bytes) → List Bytes → List Bytes
  | _, [] => []
  | previous, block :: rest =>
      let encrypted := cipher.encrypt (Bytes.xor block previous)
      encrypted :: cbcEncryptBlocks cipher encrypted rest

def cbcDecryptBlocks (cipher : BlockCipher) : (previous : Bytes) → List Bytes → List Bytes
  | _, [] => []
  | previous, block :: rest =>
      Bytes.xor (cipher.decrypt block) previous :: cbcDecryptBlocks cipher block rest

def cbcEncrypt (cipher : BlockCipher) (iv data : Bytes) : Bytes :=
  (cbcEncryptBlocks cipher iv (Bytes.chunks cipher.blockLength data)).flatten

def cbcDecrypt (cipher : BlockCipher) (iv data : Bytes) : Bytes :=
  (cbcDecryptBlocks cipher iv (Bytes.chunks cipher.blockLength data)).flatten

namespace Cbc

/-- The IV is a block; it may be missing where each record brings its own. -/
def create (cipher : BlockCipher) (iv : Bytes) (explicitIV : Bool) : Except RecordError Cbc :=
  if explicitIV ∧ (iv.isEmpty ∨ iv.length = cipher.blockLength) then
    .ok ⟨cipher, .explicit⟩
  else if iv.length = cipher.blockLength then
    .ok ⟨cipher, .chained iv iv⟩
  else
    .error (.invalidKeyLength cipher.blockLength iv.length)

def lastBlock (cbc : Cbc) (body : Bytes) : Bytes := body.drop (body.length - cbc.cipher.blockLength)

def continueFrom (cbc : Cbc) (body : Bytes) : Cbc :=
  match cbc.chaining with
  | .explicit => cbc
  | .chained initial _ => { cbc with chaining := .chained initial (cbc.lastBlock body) }

def frame (cbc : Cbc) (auth : Authenticator) (type : ContentType) (plaintext : Bytes) : Bytes :=
  addPadding cbc.cipher.blockLength (plaintext ++ auth.computeMac type plaintext)

def encrypt (cbc : Cbc) (auth : Authenticator) (type : ContentType) (plaintext : Bytes)
    (random : RandomSource) : Bytes × Cbc × RandomSource :=
  let framed := cbc.frame auth type plaintext
  match cbc.chaining with
  | .explicit =>
      let (iv, random) := random.take cbc.cipher.blockLength
      (iv ++ cbcEncrypt cbc.cipher iv framed, cbc, random)
  | .chained _ current =>
      let body := cbcEncrypt cbc.cipher current framed
      (body, cbc.continueFrom body, random)

/-- The IV of a received record and the body behind it. -/
def split (cbc : Cbc) (record : Bytes) : Except RecordError (Bytes × Bytes) :=
  match cbc.chaining with
  | .explicit =>
      if record.length < cbc.cipher.blockLength then
        .error (.recordTooShort record.length)
      else
        .ok (record.take cbc.cipher.blockLength, record.drop cbc.cipher.blockLength)
  | .chained _ current => .ok (current, record)

/-- The shortest body that can hold a MAC and padding. -/
def minBodyLength (cbc : Cbc) (auth : Authenticator) : Nat :=
  let blockLength := cbc.cipher.blockLength
  (auth.macLength + 1 + blockLength - 1) / blockLength * blockLength

/-- The content of decrypted content, MAC and padding. -/
def unframe (auth : Authenticator) (type : ContentType) (decrypted : Bytes) :
    Except RecordError Bytes :=
  let (paddingValid, unpaddedLength) := checkPadding decrypted
  let contentLength := unpaddedLength - auth.macLength
  match auth.checkPaddedMac type decrypted contentLength paddingValid with
  | .ok () => .ok (decrypted.take contentLength)
  | .error e => .error e

/-- A body of whole blocks moves the chain on, whatever its MAC and padding turn out to be. -/
def decrypt (cbc : Cbc) (auth : Authenticator) (type : ContentType) (record : Bytes) :
    Except RecordError Bytes × Cbc :=
  match cbc.split record with
  | .error e => (.error e, cbc)
  | .ok (iv, body) =>
      if body.length < cbc.minBodyLength auth then
        (.error (.recordTooShort record.length), cbc)
      else if body.length % cbc.cipher.blockLength ≠ 0 then
        (.error .badRecordMac, cbc)
      else
        (unframe auth type (cbcDecrypt cbc.cipher iv body), cbc.continueFrom body)

def reset (cbc : Cbc) : Cbc :=
  match cbc.chaining with
  | .explicit => cbc
  | .chained initial _ => { cbc with chaining := .chained initial initial }

end Cbc

end RecordProtection
