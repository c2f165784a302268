import RecordProtection.KeySchedule.Hkdf
import RecordProtection.Config
import RecordProtection.ReplayWindow
import RecordProtection.TrafficKeys

/-!
Record protection for both directions of a connection: installing and updating keys, protecting
records to send, and unprotecting received ones, in order or by their place.
-/

namespace RecordProtection

structure ProtectedRecord where
  type : ContentType
  version : ProtocolVersion
  sequence : Sequence
  fragment : Bytes
  deriving DecidableEq, Repr

namespace ProtectedRecord

/-- Type, version, in datagrams the place of the record, and the fragment's length. -/
def header (record : ProtectedRecord) : Bytes :=
  let place :=
    if record.version.isDatagram then
      bytes16 record.sequence.epoch ++ (bytes64 record.sequence.number).drop 2
    else []
  record.type.code :: record.version.recordVersionBytes ++ place
    ++ Bytes.ofNatBE 2 record.fragment.length

def toBytes (record : ProtectedRecord) : Bytes := record.header ++ record.fragment

end ProtectedRecord

/-- One direction: its mode, whether keys have been installed, and the records seen. -/
structure Direction where
  mode : CipherMode
  isProtected : Bool
  replay : ReplayWindow

namespace Direction

def plain (version : ProtocolVersion) : Direction :=
  ⟨⟨.null, .plain, Authenticator.withoutMac version⟩, false, .empty⟩

def sequence (direction : Direction) : Sequence := direction.mode.auth.sequence

def nextEpoch (direction : Direction) : Except RecordError UInt16 :=
  if direction.sequence.epoch = 0xffff then .error .sequenceOverflow
  else .ok (direction.sequence.epoch + 1)

/-- A new mode starts its epoch at the first record, and nothing of it has been seen. -/
def install (mode : CipherMode) (epoch : UInt16) : Direction :=
  ⟨{ mode with auth := mode.auth.enterEpoch epoch }, true, .empty⟩

def moveTo (direction : Direction) (sequence : Sequence) : Except RecordError Direction := do
  let auth ← direction.mode.auth.moveTo sequence
  return { direction with mode := { direction.mode with auth := auth } }

def restore (direction : Direction) (sequence : Sequence) : Direction :=
  { direction with
    mode := { direction.mode with auth := { direction.mode.auth with sequence := sequence } } }

end Direction

structure Protector where
  params : Parameters
  config : Config
  write : Direction
  read : Direction

namespace Protector

/-- How much longer than its content a protected record may be before 1.3. -/
def maxExpansion : Nat := 2048

/-- How much longer than its content a protected record of 1.3 may be. -/
def maxExpansion13 : Nat := 256

def create (params : Parameters) (config : Config) : Protector :=
  ⟨params, config, Direction.plain params.version, Direction.plain params.version⟩

def rekey (protector : Protector) (direction : Direction) (keys : TrafficKeys)
    (forEncryption : Bool) : Except RecordError Direction := do
  let mode ← keys.cipherMode protector.params.suite protector.params.version forEncryption
  let epoch ← direction.nextEpoch
  return Direction.install mode epoch

def installWriteKeys (protector : Protector) (keys : TrafficKeys) :
    Except RecordError Unit × Protector :=
  match protector.rekey protector.write keys true with
  | .ok write => (.ok (), { protector with write := write })
  | .error e => (.error e, protector)

def installReadKeys (protector : Protector) (keys : TrafficKeys) :
    Except RecordError Unit × Protector :=
  match protector.rekey protector.read keys false with
  | .ok read => (.ok (), { protector with read := read })
  | .error e => (.error e, protector)

/-- The write keys are installed first, and stay if the read keys cannot be. -/
def installKeyBlock (protector : Protector) (block : KeyBlock) :
    Except RecordError Unit × Protector :=
  if protector.params.version.is13 then
    (.error (.unsupportedVersion protector.params.version), protector)
  else
    match protector.installWriteKeys (block.writeKeys protector.params.role) with
    | (.ok (), protector) => protector.installReadKeys (block.readKeys protector.params.role)
    | (.error e, protector) => (.error e, protector)

def stageEpoch : TrafficStage → UInt16
  | .handshake => 2
  | .application => 3

def stageModes (protector : Protector) (schedule : HkdfSchedule) (stage : TrafficStage) :
    Except RecordError (CipherMode × CipherMode) := do
  let { version, role, suite } := protector.params
  let writeKeys ← schedule.trafficKeys (← schedule.trafficSecret role stage)
  let readKeys ← schedule.trafficKeys (← schedule.trafficSecret role.peer stage)
  let write ← writeKeys.cipherMode suite version true
  let read ← readKeys.cipherMode suite version false
  return (write, read)

def installTrafficSecrets (protector : Protector) (schedule : HkdfSchedule) (stage : TrafficStage) :
    Except RecordError Unit × Protector :=
  match protector.stageModes schedule stage with
  | .ok (write, read) =>
      (.ok (), { protector with
        write := Direction.install write (stageEpoch stage)
        read := Direction.install read (stageEpoch stage) })
  | .error e => (.error e, protector)

def updatedKeys (schedule : HkdfSchedule) (role : Role) :
    Except RecordError TrafficKeys × HkdfSchedule :=
  match schedule.updateTrafficSecret role with
  | (.ok secret, schedule) => (schedule.trafficKeys secret, schedule)
  | (.error e, schedule) => (.error e, schedule)

/-- The schedule moves on even if the keys cannot be installed. -/
def updateWriteKeys (protector : Protector) (schedule : HkdfSchedule) :
    Except RecordError Unit × Protector × HkdfSchedule :=
  match updatedKeys schedule protector.params.role with
  | (.ok keys, schedule) =>
      let (result, protector) := protector.installWriteKeys keys
      (result, protector, schedule)
  | (.error e, schedule) => (.error e, protector, schedule)

def updateReadKeys (protector : Protector) (schedule : HkdfSchedule) :
    Except RecordError Unit × Protector × HkdfSchedule :=
  match updatedKeys schedule protector.params.role.peer with
  | (.ok keys, schedule) =>
      let (result, protector) := protector.installReadKeys keys
      (result, protector, schedule)
  | (.error e, schedule) => (.error e, protector, schedule)

/-- Content, its type and zeros, all of it at most one byte longer than the longest plaintext. -/
def innerPlaintext (config : Config) (type : ContentType) (plaintext : Bytes) : Bytes :=
  let padding := min config.tls13Padding (maxPlaintextLength + 1 - (plaintext.length + 1))
  plaintext ++ type.code :: Bytes.zeros padding

def outerContent (protector : Protector) (type : ContentType) (plaintext : Bytes) :
    ContentType × Bytes :=
  if protector.write.isProtected && protector.params.version.is13 then
    (.applicationData, innerPlaintext protector.config type plaintext)
  else
    (type, plaintext)

def protect (protector : Protector) (type : ContentType) (plaintext : Bytes)
    (random : RandomSource) : Except RecordError ProtectedRecord × Protector × RandomSource :=
  let limit := protector.config.maxRecordSize
  if plaintext.length > limit then
    (.error (.recordOverflow plaintext.length limit), protector, random)
  else
    let (outerType, content) := protector.outerContent type plaintext
    let (result, mode, random) := protector.write.mode.encrypt outerType content random
    let record := result.map fun fragment =>
      ⟨outerType, protector.params.version, protector.write.sequence, fragment⟩
    (record, { protector with write := { protector.write with mode := mode } }, random)

/-- Whether received records have the form of version 1.3. -/
def reads13 (protector : Protector) : Bool :=
  protector.read.isProtected && protector.params.version.is13

def fragmentLimit (protector : Protector) : Nat :=
  protector.config.maxRecordSize + (if protector.reads13 then maxExpansion13 else maxExpansion)

def checkPlaintext (protector : Protector) (type : ContentType) (plaintext : Bytes) :
    Except RecordError (ContentType × Bytes) :=
  if plaintext.length > protector.config.maxRecordSize then
    .error (.recordOverflow plaintext.length protector.config.maxRecordSize)
  else
    .ok (type, plaintext)

/-- The last byte that is not zero is the content type; the content is in front of it. -/
def parseInner (inner : Bytes) : Except RecordError (ContentType × Bytes) :=
  match inner.reverse.dropWhile (· == 0) with
  | [] => .error (.invalidContentType 0)
  | code :: content => do
      let type ← ContentType.ofCode code
      return (type, content.reverse)

/-- Reads a fragment at the current place.  Under version 1.3 compatibility records pass as they
are, and all others are application data outside. -/
def unprotect (protector : Protector) (type : ContentType) (fragment : Bytes) :
    Except RecordError (ContentType × Bytes) × Protector :=
  if fragment.length > protector.fragmentLimit then
    (.error (.recordOverflow fragment.length protector.fragmentLimit), protector)
  else if protector.reads13 && type == .changeCipherSpec then
    (.ok (type, fragment), protector)
  else if protector.reads13 && type != .applicationData then
    (.error (.invalidContentType type.code), protector)
  else
    let (result, mode) := protector.read.mode.decrypt type fragment
    let content := do
      let plaintext ← result
      let (type, plaintext) ←
        if protector.reads13 then parseInner plaintext else pure (type, plaintext)
      protector.checkPlaintext type plaintext
    (content, { protector with read := { protector.read with mode := mode } })

/-- What has to hold of a datagram record's place before its fragment is looked at. -/
def checkPlace (protector : Protector) (sequence : Sequence) : Except RecordError Direction := do
  if !protector.params.version.isDatagram then
    throw (.unsupportedVersion protector.params.version)
  let expected := protector.read.sequence.epoch
  if sequence.epoch ≠ expected then
    throw (.unexpectedEpoch expected sequence.epoch)
  if protector.config.replayWindow then
    protector.read.replay.check sequence.number
  protector.read.moveTo sequence

def markSeen (protector : Protector) (number : UInt64) : Protector :=
  if protector.config.replayWindow then
    { protector with
      read := { protector.read with replay := protector.read.replay.update number } }
  else protector

/-- Reads a datagram record at its place.  A failure leaves the counter where it was; a success
marks the record as seen. -/
def unprotectAt (protector : Protector) (type : ContentType) (sequence : Sequence)
    (fragment : Bytes) : Except RecordError (ContentType × Bytes) × Protector :=
  match protector.checkPlace sequence with
  | .error e => (.error e, protector)
  | .ok read =>
      match { protector with read := read }.unprotect type fragment with
      | (.ok content, protector) => (.ok content, protector.markSeen sequence.number)
      | (.error e, after) =>
          (.error e, { after with read := after.read.restore protector.read.sequence })

end Protector

end RecordProtection
