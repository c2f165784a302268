import RecordProtection.Bytes

/-!
The position of a record in one direction of a connection.
-/

namespace RecordProtection

/-- Epochs count key changes, numbers count records within an epoch. -/
structure Sequence where
  epoch : UInt16
  number : UInt64
  deriving DecidableEq, Repr, Inhabited

namespace Sequence

def first (epoch : UInt16) : Sequence := ⟨epoch, 0⟩

def display (s : Sequence) : String :=
  "[epoch: " ++ toString s.epoch ++ ", sequence_number: " ++ toString s.number ++ "]"

end Sequence

end RecordProtection
