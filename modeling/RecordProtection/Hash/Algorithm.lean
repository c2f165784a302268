import RecordProtection.Hash.Md5
import RecordProtection.Hash.Sha1
import RecordProtection.Hash.Sha256
import RecordProtection.Hash.Sha384
import RecordProtection.Hash.Sm3
import RecordProtection.Hash.Streebog

/-!
The hash algorithms a cipher suite can name, and messages hashed in pieces.
-/

namespace RecordProtection

inductive HashAlgorithm where
  | md5
  | sha1
  | sha256
  | sha384
  | sm3
  | streebog256
  deriving DecidableEq, Repr, Inhabited

namespace HashAlgorithm

def all : List HashAlgorithm := [md5, sha1, sha256, sha384, sm3, streebog256]

def function : HashAlgorithm → HashFunction
  | md5 => RecordProtection.md5
  | sha1 => RecordProtection.sha1
  | sha256 => RecordProtection.sha256
  | sha384 => RecordProtection.sha384
  | sm3 => RecordProtection.sm3
  | streebog256 => RecordProtection.streebog256

def name : HashAlgorithm → String
  | md5 => "MD5"
  | sha1 => "SHA1"
  | sha256 => "SHA256"
  | sha384 => "SHA384"
  | sm3 => "SM3"
  | streebog256 => "STREEBOG256"

def outputLength (algorithm : HashAlgorithm) : Nat := algorithm.function.outputLength

def blockLength (algorithm : HashAlgorithm) : Nat := algorithm.function.blockLength

def digest (algorithm : HashAlgorithm) (message : Bytes) : Bytes :=
  algorithm.function.digest message

def emptyDigest (algorithm : HashAlgorithm) : Bytes := algorithm.digest []

end HashAlgorithm

/-- A message that is being hashed; its digest so far can be taken at any time. -/
structure RunningHash where
  algorithm : HashAlgorithm
  message : Absorber algorithm.function.State

namespace RunningHash

def start (algorithm : HashAlgorithm) : RunningHash := ⟨algorithm, algorithm.function.start⟩

def update (running : RunningHash) (data : Bytes) : RunningHash :=
  ⟨running.algorithm, running.algorithm.function.update running.message data⟩

def digest (running : RunningHash) : Bytes :=
  running.algorithm.function.finalize running.message

theorem update_append (running : RunningHash) (left right : Bytes) :
    running.update (left ++ right) = (running.update left).update right := by
  simp only [update, HashFunction.update_append]

theorem digest_update_start (algorithm : HashAlgorithm) (message : Bytes) :
    ((start algorithm).update message).digest = algorithm.digest message := rfl

end RunningHash

end RecordProtection
