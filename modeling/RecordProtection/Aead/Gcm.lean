import RecordProtection.Aead.Basic
import RecordProtection.Block.Counter

/-!
Galois counter mode with a nonce of twelve bytes.
-/

namespace RecordProtection

namespace Gcm

/-- An element of the field of `2 ^ 128` elements; the first bit is the constant coefficient. -/
structure Element where
  high : UInt64
  low : UInt64
  deriving DecidableEq, Repr

namespace Element

def zero : Element := ⟨0, 0⟩

def add (a b : Element) : Element := ⟨a.high ^^^ b.high, a.low ^^^ b.low⟩

/-- Multiplication by `X` modulo `X¹²⁸ + X⁷ + X² + X + 1`. -/
def double (a : Element) : Element :=
  let reduction : UInt64 := if a.low &&& 1 = 1 then 0xe100000000000000 else 0
  ⟨a.high >>> 1 ^^^ reduction, a.low >>> 1 ||| a.high <<< 63⟩

/-- Adds up the multiples of `b` by powers of `X` that the next `steps` bits of a word select. -/
def accumulate : (steps : Nat) → (word : UInt64) → (multiple sum : Element) → Element × Element
  | 0, _, multiple, sum => (multiple, sum)
  | steps + 1, word, multiple, sum =>
      accumulate steps (word <<< 1) multiple.double
        (if word >>> 63 = 1 then sum.add multiple else sum)

def multiply (a b : Element) : Element :=
  let (multiple, sum) := accumulate 64 a.high b zero
  (accumulate 64 a.low multiple sum).2

/-- The element written in a block; missing bytes are zero. -/
def ofBlock (block : Bytes) : Element :=
  match words64 (Bytes.padTo 16 block) with
  | [high, low] => ⟨high, low⟩
  | _ => zero

def toBlock (a : Element) : Bytes := bytes64 a.high ++ bytes64 a.low

end Element

def hash (key : Element) (blocks : List Bytes) : Element :=
  blocks.foldl (fun sum block => (sum.add (Element.ofBlock block)).multiply key) Element.zero

/-- The last 32 bits of the counter block count the blocks. -/
def nextCounter (counter : Bytes) : Bytes := counter.take 12 ++ incrementBE (counter.drop 12)

/-- The hash of the additional data, the ciphertext and their lengths in bits, masked by the
encryption of the first counter block. -/
def tag (cipher : BlockCipher) (nonce additionalData ciphertext : Bytes) : Bytes :=
  let key := Element.ofBlock (cipher.encrypt (Bytes.zeros 16))
  let lengths :=
    Bytes.ofNatBE 8 (8 * additionalData.length) ++ Bytes.ofNatBE 8 (8 * ciphertext.length)
  let sum := hash key (Bytes.chunks 16 additionalData ++ Bytes.chunks 16 ciphertext ++ [lengths])
  Bytes.xor sum.toBlock (cipher.encrypt (nonce ++ [0, 0, 0, 1]))

def mask (cipher : BlockCipher) (nonce data : Bytes) : Bytes :=
  counterMode cipher nextCounter (nonce ++ [0, 0, 0, 2]) data

end Gcm

def gcm (cipher : BlockCipher) : Aead where
  tagLength := 16
  maxLength := 1 <<< 36
  encrypt nonce additionalData plaintext :=
    let ciphertext := Gcm.mask cipher nonce plaintext
    (ciphertext, Gcm.tag cipher nonce additionalData ciphertext)
  decrypt nonce additionalData ciphertext tag :=
    if Gcm.tag cipher nonce additionalData ciphertext = tag then
      some (Gcm.mask cipher nonce ciphertext)
    else none

end RecordProtection
