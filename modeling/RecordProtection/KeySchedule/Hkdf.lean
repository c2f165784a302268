import RecordProtection.Hkdf
import RecordProtection.KeySchedule.Parameters
import RecordProtection.TrafficKeys

/-!
The key schedule of version 1.3: a chain of early, handshake and master secrets, and labelled
secrets that hang off it.
-/

namespace RecordProtection

/-- The two stages of a connection that have traffic secrets. -/
inductive TrafficStage where
  | handshake
  | application
  deriving DecidableEq, Repr

structure SideSecrets where
  client : Option Secret
  server : Option Secret
  deriving DecidableEq, Repr

namespace SideSecrets

def empty : SideSecrets := ⟨none, none⟩

def get (secrets : SideSecrets) (role : Role) : Except RecordError Secret :=
  match role, secrets.client, secrets.server with
  | .client, some secret, _ => .ok secret
  | .server, _, some secret => .ok secret
  | _, _, _ => .error .missingMasterSecret

def set (secrets : SideSecrets) (role : Role) (secret : Secret) : SideSecrets :=
  match role with
  | .client => { secrets with client := some secret }
  | .server => { secrets with server := some secret }

def destroy (secrets : SideSecrets) : SideSecrets :=
  ⟨secrets.client.map Secret.destroy, secrets.server.map Secret.destroy⟩

end SideSecrets

structure HkdfSchedule where
  version : ProtocolVersion
  suite : CipherSuite
  early : Secret
  handshake : Option Secret
  master : Option Secret
  handshakeTraffic : SideSecrets
  applicationTraffic : SideSecrets
  exporter : Option Secret
  resumption : Option Secret
  deriving DecidableEq, Repr

namespace HkdfSchedule

def hash (schedule : HkdfSchedule) : HashAlgorithm := schedule.suite.prfHash

/-- The early secret comes from a pre-shared key, or from zeros. -/
def create (params : Parameters) (psk : Option Bytes) : Except RecordError HkdfSchedule :=
  if !params.version.is13 || !params.suite.is13 then
    .error (.unsupportedVersion params.version)
  else
    let hash := params.suite.prfHash
    let keyMaterial := psk.getD (Bytes.zeros hash.outputLength)
    .ok
      { version := params.version
        suite := params.suite
        early := Secret.ofBytes "early secret" (hkdfExtract hash [] keyMaterial)
        handshake := none
        master := none
        handshakeTraffic := .empty
        applicationTraffic := .empty
        exporter := none
        resumption := none }

def expandLabel (schedule : HkdfSchedule) (secret label context : Bytes) (length : Nat) :
    Except RecordError Bytes :=
  hkdfExpandLabel schedule.hash schedule.version.labelPrefix secret label context length

/-- A secret as long as a digest, from another one, a label and a transcript digest. -/
def deriveFrom (schedule : HkdfSchedule) (secret : Secret) (label transcript : Bytes) :
    Except RecordError Bytes := do
  schedule.expandLabel (← secret.data) label transcript schedule.hash.outputLength

def deriveSecret (schedule : HkdfSchedule) (secret : Secret) (label : String) (transcript : Bytes) :
    Except RecordError Bytes :=
  schedule.deriveFrom secret (Bytes.ofText label) transcript

def emptyDigest (schedule : HkdfSchedule) : Bytes := schedule.hash.emptyDigest

def require (secret : Option Secret) : Except RecordError Secret :=
  match secret with
  | some secret => .ok secret
  | none => .error .missingMasterSecret

def binderKey (schedule : HkdfSchedule) (resumption : Bool) : Except RecordError Secret := do
  let label := if resumption then "res binder" else "ext binder"
  let key ← schedule.deriveSecret schedule.early label schedule.emptyDigest
  return Secret.ofBytes "binder key" key

def earlyTrafficSecret (schedule : HkdfSchedule) (transcript : Bytes) :
    Except RecordError Secret := do
  let secret ← schedule.deriveSecret schedule.early "c e traffic" transcript
  return Secret.ofBytes "client early traffic secret" secret

/-- The next secret of the chain, from the one before and new key material. -/
def nextStage (schedule : HkdfSchedule) (secret : Secret) (keyMaterial : Bytes) :
    Except RecordError Bytes := do
  let derived ← schedule.deriveSecret secret "derived" schedule.emptyDigest
  return hkdfExtract schedule.hash derived keyMaterial

/-- The handshake secret and its traffic secrets, from the early and a shared secret. -/
def handshakeStage (schedule : HkdfSchedule) (shared transcript : Bytes) :
    Except RecordError (Secret × SideSecrets) := do
  let handshake := Secret.ofBytes "handshake secret" (← schedule.nextStage schedule.early shared)
  let client ← schedule.deriveSecret handshake "c hs traffic" transcript
  let server ← schedule.deriveSecret handshake "s hs traffic" transcript
  return (handshake,
    { client := some (Secret.ofBytes "client handshake traffic secret" client)
      server := some (Secret.ofBytes "server handshake traffic secret" server) })

def deriveHandshakeSecrets (schedule : HkdfSchedule) (shared transcript : Bytes) :
    Except RecordError Unit × HkdfSchedule :=
  match schedule.handshakeStage shared transcript with
  | .ok (handshake, traffic) =>
      (.ok (), { schedule with handshake := some handshake, handshakeTraffic := traffic })
  | .error e => (.error e, schedule)

def masterStage (schedule : HkdfSchedule) : Except RecordError Secret := do
  let handshake ← require schedule.handshake
  let master ← schedule.nextStage handshake (Bytes.zeros schedule.hash.outputLength)
  return Secret.ofBytes "master secret" master

def deriveMaster (schedule : HkdfSchedule) : Except RecordError Secret × HkdfSchedule :=
  match schedule.masterStage with
  | .ok master => (.ok master, { schedule with master := some master })
  | .error e => (.error e, schedule)

/-- Both stages up to the master secret, for which the transcript digest is needed. -/
def deriveMasterSecret (schedule : HkdfSchedule) (shared : Bytes) (transcript : Option Bytes) :
    Except RecordError Secret × HkdfSchedule :=
  match transcript with
  | none => (.error .missingTranscriptDigest, schedule)
  | some transcript =>
      match schedule.deriveHandshakeSecrets shared transcript with
      | (.ok (), schedule) => schedule.deriveMaster
      | (.error e, schedule) => (.error e, schedule)

def masterSecret (schedule : HkdfSchedule) : Except RecordError Secret := require schedule.master

/-- The application traffic secrets and the exporter secret, from the master secret. -/
def applicationStage (schedule : HkdfSchedule) (transcript : Bytes) :
    Except RecordError (SideSecrets × Secret) := do
  let master ← schedule.masterSecret
  let client ← schedule.deriveSecret master "c ap traffic" transcript
  let server ← schedule.deriveSecret master "s ap traffic" transcript
  let exporter ← schedule.deriveSecret master "exp master" transcript
  return (
    { client := some (Secret.ofBytes "client application traffic secret" client)
      server := some (Secret.ofBytes "server application traffic secret" server) },
    Secret.ofBytes "exporter master secret" exporter)

def deriveApplicationSecrets (schedule : HkdfSchedule) (transcript : Bytes) :
    Except RecordError Unit × HkdfSchedule :=
  match schedule.applicationStage transcript with
  | .ok (traffic, exporter) =>
      (.ok (), { schedule with applicationTraffic := traffic, exporter := some exporter })
  | .error e => (.error e, schedule)

def resumptionStage (schedule : HkdfSchedule) (transcript : Bytes) : Except RecordError Secret := do
  let secret ← schedule.deriveSecret (← schedule.masterSecret) "res master" transcript
  return Secret.ofBytes "resumption master secret" secret

def deriveResumptionSecret (schedule : HkdfSchedule) (transcript : Bytes) :
    Except RecordError Secret × HkdfSchedule :=
  match schedule.resumptionStage transcript with
  | .ok secret => (.ok secret, { schedule with resumption := some secret })
  | .error e => (.error e, schedule)

def resumptionPsk (schedule : HkdfSchedule) (ticketNonce : Bytes) : Except RecordError Secret := do
  let psk ← schedule.deriveSecret (← require schedule.resumption) "resumption" ticketNonce
  return Secret.ofBytes "resumption psk" psk

def trafficSecret (schedule : HkdfSchedule) (role : Role) : TrafficStage → Except RecordError Secret
  | .handshake => schedule.handshakeTraffic.get role
  | .application => schedule.applicationTraffic.get role

def exporterSecret (schedule : HkdfSchedule) : Except RecordError Secret :=
  require schedule.exporter

/-- The key and the IV of a traffic secret; there are no MAC keys. -/
def trafficKeys (schedule : HkdfSchedule) (secret : Secret) : Except RecordError TrafficKeys := do
  let secret ← secret.data
  let key ← schedule.expandLabel secret (Bytes.ofText "key") [] schedule.suite.keyLength
  let iv ← schedule.expandLabel secret (Bytes.ofText "iv") [] schedule.suite.ivLength
  return {
    macKey := Secret.ofBytes "mac key" []
    key := Secret.ofBytes "traffic key" key
    iv := Secret.ofBytes "traffic iv" iv }

/-- The secret that follows an application traffic secret, under the same name. -/
def nextTrafficSecret (schedule : HkdfSchedule) (role : Role) : Except RecordError Secret := do
  let current ← schedule.applicationTraffic.get role
  let next ← schedule.deriveSecret current "traffic upd" []
  return Secret.ofBytes current.label next

def updateTrafficSecret (schedule : HkdfSchedule) (role : Role) :
    Except RecordError Secret × HkdfSchedule :=
  match schedule.nextTrafficSecret role with
  | .ok next =>
      (.ok next, { schedule with applicationTraffic := schedule.applicationTraffic.set role next })
  | .error e => (.error e, schedule)

def exportKeyingMaterial (schedule : HkdfSchedule) (label context : Bytes) (length : Nat) :
    Except RecordError Bytes := do
  let exporter ← schedule.exporterSecret
  let secret ← schedule.deriveFrom exporter label schedule.emptyDigest
  schedule.expandLabel secret (Bytes.ofText "exporter") (schedule.hash.digest context) length

def verifyData (schedule : HkdfSchedule) (role : Role) (transcript : Bytes) :
    Except RecordError Bytes := do
  let key ← schedule.deriveSecret (← schedule.handshakeTraffic.get role) "finished" []
  return hmac schedule.hash key transcript

def destroy (schedule : HkdfSchedule) : HkdfSchedule :=
  { schedule with
    early := schedule.early.destroy
    handshake := schedule.handshake.map Secret.destroy
    master := schedule.master.map Secret.destroy
    handshakeTraffic := schedule.handshakeTraffic.destroy
    applicationTraffic := schedule.applicationTraffic.destroy
    exporter := schedule.exporter.map Secret.destroy
    resumption := schedule.resumption.map Secret.destroy }

end HkdfSchedule

end RecordProtection
