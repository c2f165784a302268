import RecordProtection.Bytes

/-!
Folding a step over the whole blocks of a byte string that may arrive in pieces.  Feeding two
pieces one after the other is feeding their concatenation.
-/

namespace RecordProtection

/-- The state after the whole blocks so far, the bytes of the open block (newest first), and the
number of bytes fed. -/
structure Absorber (σ : Type) where
  state : σ
  newest : Bytes
  length : Nat

namespace Absorber

variable {σ : Type}

def start (state : σ) : Absorber σ := ⟨state, [], 0⟩

/-- A byte that completes a block runs the step on it. -/
def push (width : Nat) (step : σ → Bytes → σ) (a : Absorber σ) (byte : UInt8) : Absorber σ :=
  if (a.length + 1) % width = 0 then
    ⟨step a.state (byte :: a.newest).reverse, [], a.length + 1⟩
  else
    ⟨a.state, byte :: a.newest, a.length + 1⟩

def feed (width : Nat) (step : σ → Bytes → σ) (a : Absorber σ) (data : Bytes) : Absorber σ :=
  data.foldl (push width step) a

def pending (a : Absorber σ) : Bytes := a.newest.reverse

theorem feed_append (width : Nat) (step : σ → Bytes → σ) (a : Absorber σ) (left right : Bytes) :
    feed width step a (left ++ right) = feed width step (feed width step a left) right :=
  List.foldl_append

end Absorber

end RecordProtection
