import RecordProtection.Aead.Basic
import RecordProtection.Block.Counter

/-!
Counter mode with a CBC-MAC, for a nonce of twelve bytes, which leaves three for the length.
-/

namespace RecordProtection

namespace Ccm

def chain (cipher : BlockCipher) (blocks : List Bytes) : Bytes :=
  blocks.foldl (fun last block => cipher.encrypt (Bytes.xor last block)) (Bytes.zeros 16)

/-- The first block holds the tag length, whether there is additional data, the nonce and the
plaintext length. -/
def firstBlock (tagLength : Nat) (nonce additionalData plaintext : Bytes) : Bytes :=
  let hasData := if additionalData.isEmpty then 0 else 64
  UInt8.ofNat (hasData + 8 * ((tagLength - 2) / 2) + 2) :: nonce
    ++ Bytes.ofNatBE 3 plaintext.length

def framed (additionalData : Bytes) : Bytes :=
  if additionalData.isEmpty then []
  else if additionalData.length < 0xff00 then
    Bytes.ofNatBE 2 additionalData.length ++ additionalData
  else
    [0xff, 0xfe] ++ Bytes.ofNatBE 4 additionalData.length ++ additionalData

def counterBlock (nonce : Bytes) (count : Nat) : Bytes := 2 :: nonce ++ Bytes.ofNatBE 3 count

/-- The masked CBC-MAC, cut to the tag length. -/
def tag (cipher : BlockCipher) (tagLength : Nat) (nonce additionalData plaintext : Bytes) : Bytes :=
  let blocks := firstBlock tagLength nonce additionalData plaintext
    ++ Bytes.padTo 16 (framed additionalData) ++ Bytes.padTo 16 plaintext
  let mac := chain cipher (Bytes.chunks 16 blocks)
  (Bytes.xor mac (cipher.encrypt (counterBlock nonce 0))).take tagLength

def mask (cipher : BlockCipher) (nonce data : Bytes) : Bytes :=
  counterMode cipher incrementBE (counterBlock nonce 1) data

end Ccm

def ccm (tagLength : Nat) (cipher : BlockCipher) : Aead where
  tagLength := tagLength
  maxLength := 0xffffff
  encrypt nonce additionalData plaintext :=
    (Ccm.mask cipher nonce plaintext, Ccm.tag cipher tagLength nonce additionalData plaintext)
  decrypt nonce additionalData ciphertext tag :=
    let plaintext := Ccm.mask cipher nonce ciphertext
    if Ccm.tag cipher tagLength nonce additionalData plaintext = tag then some plaintext else none

end RecordProtection
