import RecordProtection.KeySchedule.Basic
import RecordProtection.Text.Quoted
import RecordProtection.Transcript

/-!
One-line texts that describe an object without showing its secrets.
-/

namespace RecordProtection

/-- A name followed by its fields in braces. -/
def summaryOf (name : String) (fields : List (String × String)) : String :=
  let listed := fields.map fun field => field.1 ++ ": " ++ field.2
  name ++ " \x7b " ++ ", ".intercalate listed ++ " \x7d"

def summaryOfOption (text : Option String) : String :=
  match text with
  | some text => "Some(" ++ text ++ ")"
  | none => "None"

def Secret.summary (secret : Secret) : String :=
  summaryOf "ConnectionSecret" [
    ("label", quoted secret.label), ("destroyed", toString secret.isDestroyed)]

def Engine.summary (engine : Engine) : String :=
  summaryOf "CipherEngine" [
    ("kind", engine.kind.tag), ("for_encryption", toString engine.forEncryption)]

def Engine.blockSummary (engine : Engine) (cipher : BlockCipher) : String :=
  "BlockEngine(" ++ engine.kind.name ++ ", " ++ toString cipher.blockLength ++ " bytes)"

def StreamCipher.summary : StreamCipher → String
  | rc4 .. => "StreamEngine::Rc4"
  | chacha20 .. => "StreamEngine::ChaCha20"

def Authenticator.summary (auth : Authenticator) : String :=
  summaryOf "ExchangeAuthenticator" [
    ("version", auth.version.tag),
    ("mac", summaryOfOption (auth.mac.map fun mac => mac.hash.name)),
    ("epoch", toString auth.sequence.epoch),
    ("sequence_number", toString auth.sequence.number)]

def TranscriptState.summary : TranscriptState → String
  | buffering messages => "buffering(" ++ toString messages.length ++ ")"
  | paired .. => "md5+sha1"
  | single hash => hash.algorithm.name

def Transcript.summary (transcript : Transcript) : String :=
  summaryOf "TranscriptHash" [
    ("state", quoted transcript.state.summary),
    ("committed", toString transcript.committed?.isSome)]

def CipherMode.summary (mode : CipherMode) : String :=
  summaryOf "CipherMode" [("kind", mode.kind.tag), ("auth", mode.auth.summary)]

def SealMachine.summary (machine : SealMachine) : String :=
  summaryOf "ChaCha20Poly1305" [
    ("for_encryption", toString machine.forEncryption), ("phase", quoted machine.phase.name)]

def Multilinear.summary (mode : Multilinear) : String :=
  summaryOf "Mgm" [("engine", mode.kind.tag), ("tag_len", toString mode.tagLength)]

def PrfSchedule.summary (schedule : PrfSchedule) : String :=
  summaryOf "Tls12KeySchedule" [
    ("version", schedule.version.tag),
    ("suite", quoted schedule.suite.name),
    ("master", summaryOfOption (schedule.session.map fun session => session.master.summary))]

end RecordProtection
