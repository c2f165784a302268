import RecordProtection.Absorber

/-!
The Poly1305 one-time authenticator, for messages that are filled up to whole blocks.
-/

namespace RecordProtection

/-- The clamped factor, the final summand, and the value of the blocks so far. -/
structure Poly1305 where
  factor : Nat
  summand : Nat
  value : Nat
  deriving DecidableEq, Repr

namespace Poly1305

def prime : Nat := (1 <<< 130) - 5

/-- Some bits of the factor are always clear. -/
def clampMask : Nat := 0x0ffffffc0ffffffc0ffffffc0fffffff

def ofKey (key : Bytes) : Poly1305 :=
  ⟨Bytes.toNatLE (key.take 16) &&& clampMask, Bytes.toNatLE (key.drop 16), 0⟩

/-- Blocks of sixteen bytes count with a one behind them. -/
def absorbBlock (mac : Poly1305) (block : Bytes) : Poly1305 :=
  { mac with value := (mac.value + Bytes.toNatLE (block ++ [1])) * mac.factor % prime }

def finalize (mac : Poly1305) : Bytes := Bytes.ofNatLE 16 (mac.value + mac.summand)

def tag (key : Bytes) (blocks : List Bytes) : Bytes :=
  (blocks.foldl absorbBlock (ofKey key)).finalize

end Poly1305

end RecordProtection
