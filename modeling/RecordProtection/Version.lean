import RecordProtection.Bytes

/-!
The protocol versions and the rules that follow from them.
-/

namespace RecordProtection

inductive PrfFamily where
  | md5Sha1
  | hmac
  | hkdf
  deriving DecidableEq, Repr

inductive ProtocolVersion where
  | tls10
  | tls11
  | tls12
  | tls13
  | dtls10
  | dtls12
  | dtls13
  deriving DecidableEq, Repr, Inhabited, Ord

namespace ProtocolVersion

def all : List ProtocolVersion := [tls10, tls11, tls12, tls13, dtls10, dtls12, dtls13]

/-- The two bytes that stand for the version in handshakes; datagram versions count downwards. -/
def wire : ProtocolVersion → UInt8 × UInt8
  | tls10 => (3, 1)
  | tls11 => (3, 2)
  | tls12 => (3, 3)
  | tls13 => (3, 4)
  | dtls10 => (0xfe, 0xff)
  | dtls12 => (0xfe, 0xfd)
  | dtls13 => (0xfe, 0xfc)

def ofWire? (wire : UInt8 × UInt8) : Option ProtocolVersion :=
  all.find? (·.wire = wire)

def isDatagram : ProtocolVersion → Bool
  | dtls10 | dtls12 | dtls13 => true
  | _ => false

def is13 : ProtocolVersion → Bool
  | tls13 | dtls13 => true
  | _ => false

/-- The version that record headers name; 1.3 records claim to be 1.2. -/
def recordVersion : ProtocolVersion → UInt8 × UInt8
  | tls13 => tls12.wire
  | dtls13 => dtls12.wire
  | version => version.wire

def recordVersionBytes (version : ProtocolVersion) : Bytes :=
  [version.recordVersion.1, version.recordVersion.2]

/-- Only the first version chains CBC records; all others send an IV with each record. -/
def usesExplicitIV (version : ProtocolVersion) : Bool := version != tls10

def prfFamily : ProtocolVersion → PrfFamily
  | tls10 | tls11 | dtls10 => .md5Sha1
  | tls12 | dtls12 => .hmac
  | tls13 | dtls13 => .hkdf

/-- What every label of the 1.3 key derivation starts with. -/
def labelPrefix (version : ProtocolVersion) : Bytes :=
  Bytes.ofText (if version.isDatagram then "dtls13" else "tls13 ")

def display : ProtocolVersion → String
  | tls10 => "TLS 1.0"
  | tls11 => "TLS 1.1"
  | tls12 => "TLS 1.2"
  | tls13 => "TLS 1.3"
  | dtls10 => "DTLS 1.0"
  | dtls12 => "DTLS 1.2"
  | dtls13 => "DTLS 1.3"

def tag : ProtocolVersion → String
  | tls10 => "Tls1_0"
  | tls11 => "Tls1_1"
  | tls12 => "Tls1_2"
  | tls13 => "Tls1_3"
  | dtls10 => "Dtls1_0"
  | dtls12 => "Dtls1_2"
  | dtls13 => "Dtls1_3"

end ProtocolVersion

end RecordProtection
