import RecordProtection.CipherMode

/-!
What a cipher suite prescribes: the engine and mode that protect records, the key material each
direction needs, and the hash that drives the key derivation.
-/

namespace RecordProtection

structure CipherSuite where
  id : UInt16
  name : String
  engine : EngineKind
  /-- Key bytes that the key block gives to each direction. -/
  keyLength : Nat
  /-- The engine's key length, which differs for export suites. -/
  expandedKeyLength : Nat
  mode : ModeKind
  /-- IV bytes that the key derivation gives to each direction. -/
  fixedIVLength : Nat := 0
  /-- Nonce bytes sent in front of each record. -/
  explicitNonceLength : Nat := 0
  tagLength : Nat := 0
  mac : Option HashAlgorithm := none
  prfHash : HashAlgorithm := .sha256
  is13 : Bool := false
  isExport : Bool := false
  deriving DecidableEq, Repr

namespace CipherSuite

def ivLength (suite : CipherSuite) : Nat := suite.fixedIVLength + suite.explicitNonceLength

def macLength (suite : CipherSuite) : Nat :=
  match suite.mac with
  | some hash => hash.outputLength
  | none => 0

def isAead (suite : CipherSuite) : Bool := suite.mode.isAead

/-- MAC keys, keys and IVs for both directions; export suites derive their IVs elsewhere. -/
def keyBlockLength (suite : CipherSuite) : Nat :=
  2 * (suite.macLength + suite.keyLength + (if suite.isExport then 0 else suite.fixedIVLength))

/-- Whether the suite uses something that versions before 1.2 do not have. -/
def needs12 (suite : CipherSuite) : Bool :=
  suite.isAead || suite.mode == .cntImit || suite.prfHash != .sha256
    || suite.mac == some .sha256 || suite.mac == some .sha384

/-- Whether the suite may be used under a version.  Stream ciphers cannot protect datagrams. -/
def supports (suite : CipherSuite) (version : ProtocolVersion) : Bool :=
  if suite.is13 then version.is13
  else if version.is13 then false
  else if suite.isExport then version == .tls10
  else if suite.mode == .stream && version.isDatagram then false
  else !suite.needs12 || version.prfFamily == .hmac

def authenticator (suite : CipherSuite) (version : ProtocolVersion) (macKey : Bytes) :
    Except RecordError Authenticator :=
  match suite.mac with
  | some hash => Authenticator.withMac version hash macKey
  | none => .ok (Authenticator.withoutMac version)

/-- Record protection for one direction under keys of the final lengths. -/
def cipherMode (suite : CipherSuite) (version : ProtocolVersion) (forEncryption : Bool)
    (key macKey iv : Bytes) : Except RecordError CipherMode := do
  if !suite.supports version then
    throw (.unsupportedVersion version)
  let engine ← Engine.create suite.engine forEncryption key
  let auth ← suite.authenticator version macKey
  CipherMode.create suite.mode engine auth iv suite.explicitNonceLength

def display (suite : CipherSuite) : String := suite.name ++ " (" ++ hexIdentifier suite.id ++ ")"

end CipherSuite

end RecordProtection
