/-!
The two ends of a connection.
-/

namespace RecordProtection

inductive Role where
  | client
  | server
  deriving DecidableEq, Repr, Inhabited

namespace Role

def peer : Role → Role
  | client => server
  | server => client

def display : Role → String
  | client => "client"
  | server => "server"

end Role

end RecordProtection
