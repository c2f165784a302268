import RecordProtection.Version

/-!
Why an operation can fail, what is said about it, and which alert it sends to the peer.
-/

namespace RecordProtection

inductive RecordError where
  | invalidKeyLength (expected actual : Nat)
  | alreadyInitialized
  | notInitialized
  | incompatibleEngine (mode engine : String)
  | badRecordMac
  | badPadding
  | unsupportedVersion (version : ProtocolVersion)
  | unsupportedOperation (operation : String)
  | missingMasterSecret
  | missingTranscriptDigest
  | accessAfterDestroy (label : String)
  | sequenceOverflow
  | recordTooShort (length : Nat)
  | recordOverflow (length limit : Nat)
  | replayedRecord (number : UInt64)
  | unexpectedEpoch (expected actual : UInt16)
  | invalidContentType (code : UInt8)
  | unknownCipherSuite (id : UInt16)
  deriving DecidableEq, Repr

/-- The alert that tells the peer why a connection is closed. -/
inductive Alert where
  | badRecordMac
  | recordOverflow
  | decodeError
  | illegalParameter
  | internalError
  deriving DecidableEq, Repr

/-- A 16-bit identifier as four lower-case hexadecimal digits after `0x`. -/
def hexIdentifier (id : UInt16) : String :=
  let digits := Nat.toDigits 16 id.toNat
  "0x" ++ String.ofList (List.replicate (4 - digits.length) '0' ++ digits)

namespace RecordError

def message : RecordError → String
  | invalidKeyLength expected actual =>
      s!"Invalid key length, expected {expected} but got: {actual}"
  | alreadyInitialized => "Already initialized"
  | notInitialized => "Not initialized"
  | incompatibleEngine mode engine => s!"Cipher mode {mode} does not support engine {engine}"
  | badRecordMac => "Bad record mac"
  | badPadding => "Bad padding"
  | unsupportedVersion version => s!"Unsupported protocol version " ++ version.display
  | unsupportedOperation operation => s!"Unsupported operation: {operation}"
  | missingMasterSecret => "Master secret has not been derived"
  | missingTranscriptDigest => "Transcript digest is not available"
  | accessAfterDestroy label => s!"Secret {label} was read after destroy"
  | sequenceOverflow => "Sequence number overflow"
  | recordTooShort length => s!"Record too short {length}"
  | recordOverflow length limit => s!"Record too big (> {limit}) {length}"
  | replayedRecord number => s!"Replayed or stale record {number}"
  | unexpectedEpoch expected actual => s!"Record from epoch {actual}, reading epoch {expected}"
  | invalidContentType code => s!"Invalid content type {code}"
  | unknownCipherSuite id => "Unknown cipher suite " ++ hexIdentifier id

/-- Padding and MAC failures send the same alert, so that a peer cannot tell them apart. -/
def alert : RecordError → Alert
  | badRecordMac | badPadding | replayedRecord _ => .badRecordMac
  | recordOverflow .. => .recordOverflow
  | recordTooShort _ | invalidContentType _ | unexpectedEpoch .. => .decodeError
  | unsupportedVersion _ | unknownCipherSuite _ => .illegalParameter
  | _ => .internalError

/-- Whether the caller is at fault rather than the peer. -/
def isMisuse : RecordError → Bool
  | invalidKeyLength .. | alreadyInitialized | notInitialized | incompatibleEngine ..
  | missingMasterSecret | missingTranscriptDigest | accessAfterDestroy _ => true
  | _ => false

end RecordError

def ProtocolVersion.ofWire (wire : UInt8 × UInt8) : Except RecordError ProtocolVersion :=
  match ofWire? wire with
  | some version => .ok version
  | none => .error (.unsupportedOperation "unknown protocol version")

end RecordProtection
