import RecordProtection.Bytes

/-!
A stream of random bytes that is read from front to back.
-/

namespace RecordProtection

/-- The bytes of the stream and how many of them have been read. -/
structure RandomSource where
  byteAt : Nat → UInt8
  position : Nat

namespace RandomSource

def take (source : RandomSource) (count : Nat) : Bytes × RandomSource :=
  ((List.range count).map fun i => source.byteAt (source.position + i),
    { source with position := source.position + count })

theorem length_take (source : RandomSource) (count : Nat) :
    (source.take count).1.length = count := by
  simp [take]

end RandomSource

end RecordProtection
