import RecordProtection.Hash.Algorithm
import RecordProtection.Error

/-!
Keyed hashing.
-/

namespace RecordProtection

/-- Keys longer than a block are hashed first; all are filled up with zeros to a block. -/
def hmacBlockKey (algorithm : HashAlgorithm) (key : Bytes) : Bytes :=
  let short := if key.length > algorithm.blockLength then algorithm.digest key else key
  short ++ Bytes.zeros (algorithm.blockLength - short.length)

def hmac (algorithm : HashAlgorithm) (key message : Bytes) : Bytes :=
  let blockKey := hmacBlockKey algorithm key
  let inner := algorithm.digest (blockKey.map (· ^^^ 0x36) ++ message)
  algorithm.digest (blockKey.map (· ^^^ 0x5c) ++ inner)

/-- A tag is accepted only if all of it is right. -/
def verifyHmac (algorithm : HashAlgorithm) (key message tag : Bytes) : Except RecordError Unit :=
  if hmac algorithm key message = tag then .ok () else .error .badRecordMac

end RecordProtection
