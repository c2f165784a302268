import RecordProtection.Config
import RecordProtection.KeySchedule.Parameters
import RecordProtection.Prf
import RecordProtection.TrafficKeys

/-!
The key schedule of the versions before 1.3: a master secret, and all keys from one block that the
pseudorandom function expands it to.
-/

namespace RecordProtection

def masterSecretLength : Nat := 48

def verifyDataLength : Nat := 12

structure MasterSession where
  master : Secret
  clientRandom : Bytes
  serverRandom : Bytes
  deriving DecidableEq, Repr

structure PrfSchedule where
  version : ProtocolVersion
  suite : CipherSuite
  extendedMasterSecret : Bool
  session : Option MasterSession
  deriving DecidableEq, Repr

namespace PrfSchedule

def create (params : Parameters) (config : Config) : Except RecordError PrfSchedule :=
  if params.version.is13 || params.suite.is13 then
    .error (.unsupportedVersion params.version)
  else
    .ok ⟨params.version, params.suite, config.extendedMasterSecret, none⟩

def prf (schedule : PrfSchedule) (secret : Bytes) (label : String) (seed : Bytes) (length : Nat) :
    Except RecordError Bytes :=
  match schedule.version.prfFamily with
  | .md5Sha1 => .ok (prf10 secret label seed length)
  | .hmac => .ok (prf12 schedule.suite.prfHash secret label seed length)
  | .hkdf => .error (.unsupportedVersion schedule.version)

def masterSession (schedule : PrfSchedule) : Except RecordError MasterSession :=
  match schedule.session with
  | some session => .ok session
  | none => .error .missingMasterSecret

def masterSecret (schedule : PrfSchedule) : Except RecordError Secret := do
  return (← schedule.masterSession).master

/-- A master secret enters together with the random values of its session. -/
def withMaster (schedule : PrfSchedule) (master clientRandom serverRandom : Bytes) : PrfSchedule :=
  { schedule with
    session := some ⟨Secret.ofBytes "master secret" master, clientRandom, serverRandom⟩ }

def resume (schedule : PrfSchedule) (master clientRandom serverRandom : Bytes) :
    Except RecordError Unit × PrfSchedule :=
  if master.length = masterSecretLength then
    (.ok (), schedule.withMaster master clientRandom serverRandom)
  else
    (.error (.invalidKeyLength masterSecretLength master.length), schedule)

/-- The master secret of a pre-master secret, bound to the session hash if there is one and the
extended form is in use, and to the random values otherwise. -/
def masterOf (schedule : PrfSchedule) (preMaster clientRandom serverRandom : Bytes)
    (sessionHash : Option Bytes) : Except RecordError Bytes :=
  match sessionHash, schedule.extendedMasterSecret with
  | some hash, true => schedule.prf preMaster "extended master secret" hash masterSecretLength
  | _, _ =>
      schedule.prf preMaster "master secret" (clientRandom ++ serverRandom) masterSecretLength

def deriveMasterSecret (schedule : PrfSchedule) (preMaster clientRandom serverRandom : Bytes)
    (sessionHash : Option Bytes) : Except RecordError Secret × PrfSchedule :=
  match schedule.masterOf preMaster clientRandom serverRandom sessionHash with
  | .ok master =>
      (.ok (Secret.ofBytes "master secret" master),
        schedule.withMaster master clientRandom serverRandom)
  | .error e => (.error e, schedule)

/-- The parts of the key block in their order, each for the client and then for the server. -/
structure BlockParts where
  clientMac : Bytes
  serverMac : Bytes
  clientKey : Bytes
  serverKey : Bytes
  clientIV : Bytes
  serverIV : Bytes
  deriving DecidableEq, Repr

def cutBlock (suite : CipherSuite) (block : Bytes) : BlockParts :=
  let afterMacs := block.drop (2 * suite.macLength)
  let afterKeys := afterMacs.drop (2 * suite.keyLength)
  { clientMac := block.take suite.macLength
    serverMac := (block.drop suite.macLength).take suite.macLength
    clientKey := afterMacs.take suite.keyLength
    serverKey := (afterMacs.drop suite.keyLength).take suite.keyLength
    clientIV := afterKeys.take suite.fixedIVLength
    serverIV := (afterKeys.drop suite.fixedIVLength).take suite.fixedIVLength }

/-- Export suites expand their short keys, and take their IVs from the random values alone. -/
def expandExport (schedule : PrfSchedule) (session : MasterSession) (parts : BlockParts) :
    Except RecordError BlockParts := do
  let suite := schedule.suite
  let seed := session.clientRandom ++ session.serverRandom
  let clientKey ← schedule.prf parts.clientKey "client write key" seed suite.expandedKeyLength
  let serverKey ← schedule.prf parts.serverKey "server write key" seed suite.expandedKeyLength
  let ivs ← schedule.prf [] "IV block" seed (2 * suite.fixedIVLength)
  return { parts with
    clientKey := clientKey
    serverKey := serverKey
    clientIV := ivs.take suite.fixedIVLength
    serverIV := ivs.drop suite.fixedIVLength }

def keyBlockOf (parts : BlockParts) : KeyBlock where
  client :=
    { macKey := Secret.ofBytes "client write MAC key" parts.clientMac
      key := Secret.ofBytes "client write key" parts.clientKey
      iv := Secret.ofBytes "client write IV" parts.clientIV }
  server :=
    { macKey := Secret.ofBytes "server write MAC key" parts.serverMac
      key := Secret.ofBytes "server write key" parts.serverKey
      iv := Secret.ofBytes "server write IV" parts.serverIV }

/-- The keys of both directions, expanded from the master secret and the random values, the
server's first. -/
def deriveKeyBlock (schedule : PrfSchedule) : Except RecordError KeyBlock := do
  let suite := schedule.suite
  if suite.isExport && schedule.version != .tls10 then
    throw (.unsupportedOperation "export key derivation after TLS 1.0")
  let session ← schedule.masterSession
  let master ← session.master.data
  let block ← schedule.prf master "key expansion" (session.serverRandom ++ session.clientRandom)
    suite.keyBlockLength
  let parts := cutBlock suite block
  if suite.isExport then
    return keyBlockOf (← schedule.expandExport session parts)
  else
    return keyBlockOf parts

/-- A context enters with its length in two bytes; no context differs from an empty one. -/
def exporterSeed (session : MasterSession) (context : Option Bytes) : Except RecordError Bytes :=
  let randoms := session.clientRandom ++ session.serverRandom
  match context with
  | none => .ok randoms
  | some context =>
      if context.length < 65536 then
        .ok (randoms ++ Bytes.ofNatBE 2 context.length ++ context)
      else
        .error (.unsupportedOperation "exporter context too long")

def exportKeyingMaterial (schedule : PrfSchedule) (label : String) (context : Option Bytes)
    (length : Nat) : Except RecordError Bytes := do
  let session ← schedule.masterSession
  let master ← session.master.data
  let seed ← exporterSeed session context
  schedule.prf master label seed length

def finishedLabel : Role → String
  | .client => "client finished"
  | .server => "server finished"

def verifyData (schedule : PrfSchedule) (role : Role) (transcript : Bytes) :
    Except RecordError Bytes := do
  let master ← (← schedule.masterSecret).data
  schedule.prf master (finishedLabel role) transcript verifyDataLength

def destroy (schedule : PrfSchedule) : PrfSchedule :=
  { schedule with
    session := schedule.session.map fun session =>
      { session with master := session.master.destroy } }

end PrfSchedule

end RecordProtection
