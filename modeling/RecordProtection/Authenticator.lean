import RecordProtection.ContentType
import RecordProtection.Hmac
import RecordProtection.Sequence

/-!
What binds a record to its direction, its place and its content type: the sequence counter, the
header that MACs and AEADs cover, and the MAC itself.
-/

namespace RecordProtection

/-- Datagram records carry 48 bits of the sequence number. -/
def maxDatagramNumber : UInt64 := 0xffffffffffff

structure MacKey where
  hash : HashAlgorithm
  key : Bytes
  deriving DecidableEq, Repr

structure Authenticator where
  version : ProtocolVersion
  mac : Option MacKey
  sequence : Sequence
  deriving DecidableEq, Repr

namespace Authenticator

def withoutMac (version : ProtocolVersion) : Authenticator := ⟨version, none, Sequence.first 0⟩

/-- MAC keys are as long as a digest. -/
def withMac (version : ProtocolVersion) (hash : HashAlgorithm) (key : Bytes) :
    Except RecordError Authenticator :=
  if key.length = hash.outputLength then
    .ok ⟨version, some ⟨hash, key⟩, Sequence.first 0⟩
  else
    .error (.invalidKeyLength hash.outputLength key.length)

def macLength (auth : Authenticator) : Nat :=
  match auth.mac with
  | some mac => mac.hash.outputLength
  | none => 0

/-- The sequence number in eight bytes; in datagrams the epoch takes the place of the first two. -/
def sequenceBlock (auth : Authenticator) : Bytes :=
  if auth.version.isDatagram then
    bytes16 auth.sequence.epoch ++ (bytes64 auth.sequence.number).drop 2
  else
    bytes64 auth.sequence.number

def maxNumber (auth : Authenticator) : UInt64 :=
  if auth.version.isDatagram then maxDatagramNumber else 0xffffffffffffffff

/-- The next record; the counter does not wrap around. -/
def advance (auth : Authenticator) : Except RecordError Authenticator :=
  if auth.sequence.number ≥ auth.maxNumber then
    .error .sequenceOverflow
  else
    .ok { auth with sequence := { auth.sequence with number := auth.sequence.number + 1 } }

def enterEpoch (auth : Authenticator) (epoch : UInt16) : Authenticator :=
  { auth with sequence := Sequence.first epoch }

def moveTo (auth : Authenticator) (sequence : Sequence) : Except RecordError Authenticator :=
  if sequence.number > maxDatagramNumber then
    .error .sequenceOverflow
  else
    .ok { auth with sequence := sequence }

/-- The header covered by MACs: place, content type, version, and length modulo `2 ^ 16`. -/
def pseudoHeader (auth : Authenticator) (type : ContentType) (length : Nat) : Bytes :=
  auth.sequenceBlock ++ type.code :: auth.version.recordVersionBytes ++ Bytes.ofNatBE 2 length

/-- Before 1.3 the additional data is the header with the plaintext length; from 1.3 on it is the
header of the protected record. -/
def additionalData (auth : Authenticator) (type : ContentType)
    (plaintextLength ciphertextLength : Nat) : Bytes :=
  if auth.version.is13 then
    ContentType.applicationData.code :: auth.version.recordVersionBytes
      ++ Bytes.ofNatBE 2 ciphertextLength
  else
    auth.pseudoHeader type plaintextLength

/-- The MAC of a fragment, empty without a MAC key. -/
def computeMac (auth : Authenticator) (type : ContentType) (fragment : Bytes) : Bytes :=
  match auth.mac with
  | some mac => hmac mac.hash mac.key (auth.pseudoHeader type fragment.length ++ fragment)
  | none => []

/-- The length of the content in front of its MAC, if the MAC is right. -/
def checkTrailingMac (auth : Authenticator) (type : ContentType) (record : Bytes) :
    Except RecordError Nat :=
  if record.length < auth.macLength then
    .error .badRecordMac
  else
    let length := record.length - auth.macLength
    if auth.computeMac type (record.take length) = record.drop length then .ok length
    else .error .badRecordMac

/-- Checks the MAC behind `contentLength` bytes.  A content length that leaves no room for the MAC
fails, and bad padding is reported before a bad MAC. -/
def checkPaddedMac (auth : Authenticator) (type : ContentType) (decrypted : Bytes)
    (contentLength : Nat) (paddingValid : Bool) : Except RecordError Unit :=
  let fits := decide (contentLength + auth.macLength ≤ decrypted.length)
  let received := (decrypted.drop contentLength).take auth.macLength
  let macValid := fits && auth.computeMac type (decrypted.take contentLength) = received
  if !paddingValid then .error .badPadding
  else if macValid then .ok ()
  else .error .badRecordMac

end Authenticator

end RecordProtection
