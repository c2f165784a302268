import RecordProtection.Role
import RecordProtection.Suite.Catalog

/-!
What the two ends of a connection have agreed on.
-/

namespace RecordProtection

structure Parameters where
  version : ProtocolVersion
  role : Role
  suite : CipherSuite
  deriving DecidableEq, Repr

end RecordProtection
