import RecordProtection.Error

/-!
Settings of a connection and the limits they keep.
-/

namespace RecordProtection

def maxPlaintextLength : Nat := 16384

structure Config where
  maxRecordSize : Nat := maxPlaintextLength
  extendedMasterSecret : Bool := true
  transcriptBufferCapacity : Nat := 4096
  replayWindow : Bool := true
  tls13Padding : Nat := 0
  deriving DecidableEq, Repr, Inhabited

namespace Config

/-- Accepts settings whose record size is positive and allowed and exceeds the padding. -/
def validate (config : Config) : Except RecordError Config :=
  if config.maxRecordSize = 0 ∨ config.maxRecordSize > maxPlaintextLength then
    .error (.recordOverflow config.maxRecordSize maxPlaintextLength)
  else if config.tls13Padding ≥ config.maxRecordSize then
    .error (.recordOverflow config.tls13Padding config.maxRecordSize)
  else
    .ok config

end Config

end RecordProtection
