import RecordProtection.Hash.Algorithm
import RecordProtection.Error

/-!
The running hash of a handshake.  Messages are kept until the hash is known.
-/

namespace RecordProtection

inductive TranscriptState where
  | buffering (messages : Bytes)
  | paired (md5 sha1 : RunningHash)
  | single (hash : RunningHash)

namespace TranscriptState

def feed (state : TranscriptState) (data : Bytes) : TranscriptState :=
  match state with
  | buffering messages => buffering (messages ++ data)
  | paired md5 sha1 => paired (md5.update data) (sha1.update data)
  | single hash => single (hash.update data)

/-- The hashes that a version uses: a fixed pair at first, later that of the suite. -/
def start (version : ProtocolVersion) (hash : HashAlgorithm) : TranscriptState :=
  match version.prfFamily with
  | .md5Sha1 => paired (RunningHash.start .md5) (RunningHash.start .sha1)
  | .hmac | .hkdf => single (RunningHash.start hash)

end TranscriptState

structure Transcript where
  state : TranscriptState
  committed? : Option Bytes

namespace Transcript

def empty : Transcript := ⟨.buffering [], none⟩

def isInitialized (transcript : Transcript) : Bool :=
  match transcript.state with
  | .buffering _ => false
  | _ => true

def algorithm (transcript : Transcript) : Option HashAlgorithm :=
  match transcript.state with
  | .single hash => some hash.algorithm
  | _ => none

def update (transcript : Transcript) (data : Bytes) : Transcript :=
  { transcript with state := transcript.state.feed data }

/-- Chooses the hash, once, and feeds it what was kept. -/
def chooseHash (transcript : Transcript) (version : ProtocolVersion) (hash : HashAlgorithm) :
    Except RecordError Unit × Transcript :=
  match transcript.state with
  | .buffering messages =>
      (.ok (), { transcript with state := (TranscriptState.start version hash).feed messages })
  | _ => (.error .alreadyInitialized, transcript)

def digest (transcript : Transcript) : Except RecordError Bytes :=
  match transcript.state with
  | .buffering _ => .error .notInitialized
  | .paired md5 sha1 => .ok (md5.digest ++ sha1.digest)
  | .single hash => .ok hash.digest

def commit (transcript : Transcript) : Except RecordError Unit × Transcript :=
  match transcript.digest with
  | .ok digest => (.ok (), { transcript with committed? := some digest })
  | .error e => (.error e, transcript)

def committed (transcript : Transcript) : Except RecordError Bytes :=
  match transcript.committed? with
  | some digest => .ok digest
  | none => .error .missingTranscriptDigest

/-- The message that stands for a first handshake message after a retry. -/
def messageHash (digest : Bytes) : Bytes := [254, 0, 0, UInt8.ofNat digest.length] ++ digest

/-- Everything so far is replaced by the message that holds its digest. -/
def replaceWithMessageHash (transcript : Transcript) : Except RecordError Unit × Transcript :=
  match transcript.state with
  | .single hash =>
      let fresh := (RunningHash.start hash.algorithm).update (messageHash hash.digest)
      (.ok (), { transcript with state := .single fresh })
  | _ => (.error .notInitialized, transcript)

end Transcript

end RecordProtection
