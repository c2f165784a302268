import RecordProtection.Aead.Basic
import RecordProtection.Block.Counter
import RecordProtection.EngineKind
import RecordProtection.Engine

/-!
The multilinear Galois mode: counter mode on one half of the block, and a tag that sums products
of the data blocks with keys that count on the other half.
-/

namespace RecordProtection

namespace Multilinear

/-- The lower coefficients of the field polynomial for 64 and 128 bits. -/
def fieldPolynomial (bits : Nat) : Nat := if bits = 128 then 0x87 else 0x1b

/-- Multiplication by `X` of a polynomial with `bits` coefficients. -/
def doubleElement (bits x : Nat) : Nat :=
  (x <<< 1) % (1 <<< bits) ^^^ (if x.testBit (bits - 1) then fieldPolynomial bits else 0)

/-- Adds up the multiples of `x` by powers of `X` that the lowest `steps` bits of `y` select. -/
def sumMultiples (bits : Nat) : (steps : Nat) → (x y sum : Nat) → Nat
  | 0, _, _, sum => sum
  | steps + 1, x, y, sum =>
      sumMultiples bits steps (doubleElement bits x) (y / 2) (if y % 2 = 1 then sum ^^^ x else sum)

/-- The product in the field of `2 ^ bits` elements. -/
def multiply (x y bits : Nat) : Nat := sumMultiples bits bits x y 0

def mapFirst (f : UInt8 → UInt8) : Bytes → Bytes
  | [] => []
  | byte :: rest => f byte :: rest

/-- The first counter block: the nonce with its top bit cleared, encrypted. -/
def counterStart (cipher : BlockCipher) (nonce : Bytes) : Bytes :=
  cipher.encrypt (mapFirst (· &&& 0x7f) nonce)

/-- The first key block of the tag: the nonce with its top bit set, encrypted. -/
def keyStart (cipher : BlockCipher) (nonce : Bytes) : Bytes :=
  cipher.encrypt (mapFirst (· ||| 0x80) nonce)

/-- Counts in the right half of a block. -/
def nextCounter (half : Nat) (block : Bytes) : Bytes :=
  block.take half ++ incrementBE (block.drop half)

/-- Counts in the left half of a block. -/
def nextKey (half : Nat) (block : Bytes) : Bytes :=
  incrementBE (block.take half) ++ block.drop half

def mask (cipher : BlockCipher) (nonce data : Bytes) : Bytes :=
  counterMode cipher (nextCounter (cipher.blockLength / 2)) (counterStart cipher nonce) data

/-- The sum of the products of the blocks with the encrypted key blocks. -/
def sumProducts (cipher : BlockCipher) : (key : Bytes) → List Bytes → (sum : Nat) → Nat
  | _, [], sum => sum
  | key, block :: rest, sum =>
      let factor := Bytes.toNatBE (cipher.encrypt key)
      sumProducts cipher (nextKey (cipher.blockLength / 2) key) rest
        (sum ^^^ multiply factor (Bytes.toNatBE block) (8 * cipher.blockLength))

/-- Additional data and ciphertext, each filled up with zeros, and their lengths in bits. -/
def taggedBlocks (blockLength : Nat) (additionalData ciphertext : Bytes) : List Bytes :=
  let half := blockLength / 2
  Bytes.chunks blockLength (Bytes.padTo blockLength additionalData)
    ++ Bytes.chunks blockLength (Bytes.padTo blockLength ciphertext)
    ++ [Bytes.ofNatBE half (8 * additionalData.length)
      ++ Bytes.ofNatBE half (8 * ciphertext.length)]

def fullTag (cipher : BlockCipher) (nonce additionalData ciphertext : Bytes) : Bytes :=
  let sum := sumProducts cipher (keyStart cipher nonce)
    (taggedBlocks cipher.blockLength additionalData ciphertext) 0
  cipher.encrypt (Bytes.ofNatBE cipher.blockLength sum)

end Multilinear

/-- The mode under one cipher, strong with a tag of a whole block or light with half of it. -/
structure Multilinear where
  kind : EngineKind
  cipher : BlockCipher
  strong : Bool

namespace Multilinear

def modeName (strong : Bool) : String := if strong then "MGM_S" else "MGM_L"

def create (engine : Engine) (strong : Bool) : Except RecordError Multilinear :=
  match engine.kind.isMultilinear, engine.block? with
  | true, some cipher => .ok ⟨engine.kind, cipher, strong⟩
  | _, _ => .error (.incompatibleEngine (modeName strong) engine.kind.name)

def blockLength (mode : Multilinear) : Nat := mode.cipher.blockLength

def tagLength (mode : Multilinear) : Nat :=
  if mode.strong then mode.blockLength else mode.blockLength / 2

def tag (mode : Multilinear) (nonce additionalData ciphertext : Bytes) : Bytes :=
  (fullTag mode.cipher nonce additionalData ciphertext).take mode.tagLength

def checkNonce (mode : Multilinear) (nonce : Bytes) : Except RecordError Unit :=
  if nonce.length = mode.blockLength then .ok ()
  else .error (.invalidKeyLength mode.blockLength nonce.length)

def aead (mode : Multilinear) : Aead where
  tagLength := mode.tagLength
  maxLength := 1 <<< 64
  encrypt nonce additionalData plaintext :=
    let ciphertext := mask mode.cipher nonce plaintext
    (ciphertext, mode.tag nonce additionalData ciphertext)
  decrypt nonce additionalData ciphertext tag :=
    if mode.tag nonce additionalData ciphertext = tag then
      some (mask mode.cipher nonce ciphertext)
    else none

def encrypt (mode : Multilinear) (nonce additionalData plaintext : Bytes) :
    Except RecordError (Bytes × Bytes) := do
  mode.checkNonce nonce
  return mode.aead.encrypt nonce additionalData plaintext

def decrypt (mode : Multilinear) (nonce additionalData ciphertext tag : Bytes) :
    Except RecordError Bytes := do
  mode.checkNonce nonce
  match mode.aead.decrypt nonce additionalData ciphertext tag with
  | some plaintext => return plaintext
  | none => throw .badRecordMac

/-- Encrypts a buffer where it stands: the tag, and the buffer behind it. -/
def encryptInPlace (mode : Multilinear) (nonce additionalData buffer : Bytes) :
    Except RecordError Bytes × Bytes :=
  match mode.checkNonce nonce with
  | .error e => (.error e, buffer)
  | .ok () =>
      let buffer := mask mode.cipher nonce buffer
      (.ok (mode.tag nonce additionalData buffer), buffer)

/-- The tag is compared before anything of the buffer is decrypted. -/
def decryptInPlace (mode : Multilinear) (nonce additionalData buffer tag : Bytes) :
    Except RecordError Unit × Bytes :=
  match mode.checkNonce nonce with
  | .error e => (.error e, buffer)
  | .ok () =>
      let expected := fullTag mode.cipher nonce additionalData buffer
      if tag.length = mode.tagLength ∧ expected.take mode.tagLength = tag then
        (.ok (), mask mode.cipher nonce buffer)
      else (.error .badRecordMac, buffer)

end Multilinear

end RecordProtection
