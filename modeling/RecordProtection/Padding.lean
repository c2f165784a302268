import RecordProtection.Bytes

/-!
The padding of CBC records: `n + 1` bytes of value `n`, up to a whole number of blocks.
-/

namespace RecordProtection

def paddingValue (blockLength length : Nat) : Nat :=
  (blockLength - (length + 1) % blockLength) % blockLength

def addPadding (blockLength : Nat) (content : Bytes) : Bytes :=
  let value := paddingValue blockLength content.length
  content ++ List.replicate (value + 1) (UInt8.ofNat value)

/-- Whether a string ends in valid padding, and the length without it; invalid padding counts as
one byte. -/
def checkPadding (padded : Bytes) : Bool × Nat :=
  match padded.getLast? with
  | none => (false, 0)
  | some last =>
      let contentLength := padded.length - (last.toNat + 1)
      if last.toNat < padded.length ∧ (padded.drop contentLength).all (· == last) then
        (true, contentLength)
      else
        (false, padded.length - 1)

end RecordProtection
