import RecordProtection.Hmac
import RecordProtection.Version

/-!
The pseudorandom functions of the versions before 1.3.
-/

namespace RecordProtection

/-- The blocks after the link `link` of the chain: each link is the keyed hash of the one before,
and each block is the keyed hash of a link followed by the seed. -/
def prfBlocks (algorithm : HashAlgorithm) (secret seed : Bytes) :
    (count : Nat) → (link : Bytes) → Bytes
  | 0, _ => []
  | count + 1, link =>
      let next := hmac algorithm secret link
      hmac algorithm secret (next ++ seed) ++ prfBlocks algorithm secret seed count next

/-- Data expansion: the chain starts at the seed, and its blocks are cut to `length` bytes. -/
def expandSecret (algorithm : HashAlgorithm) (secret seed : Bytes) (length : Nat) : Bytes :=
  let width := algorithm.outputLength
  (prfBlocks algorithm secret seed ((length + width - 1) / width) seed).take length

def prf12 (algorithm : HashAlgorithm) (secret : Bytes) (label : String) (seed : Bytes)
    (length : Nat) : Bytes :=
  expandSecret algorithm secret (Bytes.ofText label ++ seed) length

/-- Both halves of the secret have half its length, rounded up, and so may share a byte. -/
def prf10 (secret : Bytes) (label : String) (seed : Bytes) (length : Nat) : Bytes :=
  let half := (secret.length + 1) / 2
  let seed := Bytes.ofText label ++ seed
  Bytes.xor (expandSecret .md5 (secret.take half) seed length)
    (expandSecret .sha1 (secret.drop (secret.length - half)) seed length)

end RecordProtection
