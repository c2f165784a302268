import RecordProtection.Absorber

/-!
Iterated hash functions: a step over fixed blocks, and a last step that sees what is left over
and how many bytes there were in all.
-/

namespace RecordProtection

structure HashFunction where
  State : Type
  blockLength : Nat
  outputLength : Nat
  initial : State
  compress : State → Bytes → State
  /-- Ends a message from the state after its whole blocks, its length, and the bytes left over. -/
  finish : State → Nat → Bytes → Bytes

namespace HashFunction

def start (f : HashFunction) : Absorber f.State := Absorber.start f.initial

def update (f : HashFunction) (running : Absorber f.State) (data : Bytes) : Absorber f.State :=
  running.feed f.blockLength f.compress data

def finalize (f : HashFunction) (running : Absorber f.State) : Bytes :=
  f.finish running.state running.length running.pending

def digest (f : HashFunction) (message : Bytes) : Bytes :=
  f.finalize (f.update f.start message)

theorem update_append (f : HashFunction) (running : Absorber f.State) (left right : Bytes) :
    f.update running (left ++ right) = f.update (f.update running left) right :=
  Absorber.feed_append ..

/-- The left-over bytes, a one bit, zeros, and the message length, filling whole blocks. -/
def strengthen (blockLength : Nat) (lengthField : Bytes) (pending : Bytes) : Bytes :=
  let used := pending.length + 1 + lengthField.length
  pending ++ 0x80 :: Bytes.zeros ((blockLength - used % blockLength) % blockLength) ++ lengthField

end HashFunction

end RecordProtection
