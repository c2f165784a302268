import RecordProtection.Bytes

/-!
The RC4 keystream generator.
-/

namespace RecordProtection

/-- A permutation of the byte values and two positions in it. -/
structure Rc4 where
  table : Array UInt8
  i : UInt8
  j : UInt8

namespace Rc4

def swap (table : Array UInt8) (i j : UInt8) : Array UInt8 :=
  let atI := table.getD i.toNat 0
  let atJ := table.getD j.toNat 0
  (table.set! i.toNat atJ).set! j.toNat atI

/-- One exchange of the key setup, driven by the key bytes in turn. -/
def setupStep (key : Array UInt8) (state : Array UInt8 × UInt8) (position : Nat) :
    Array UInt8 × UInt8 :=
  let (table, j) := state
  let next := j + table.getD position 0 + key.getD (position % key.size) 0
  (swap table (UInt8.ofNat position) next, next)

def ofKey (key : Bytes) : Rc4 :=
  let identity := (Array.range 256).map UInt8.ofNat
  ⟨((List.range 256).foldl (setupStep key.toArray) (identity, 0)).1, 0, 0⟩

def next : Rc4 → UInt8 × Rc4
  | ⟨table, i, j⟩ =>
      let i := i + 1
      let j := j + table.getD i.toNat 0
      let table := swap table i j
      let sum := table.getD i.toNat 0 + table.getD j.toNat 0
      (table.getD sum.toNat 0, ⟨table, i, j⟩)

/-- The next `count` keystream bytes behind those already taken, which are held newest first. -/
def keystreamOnto : (count : Nat) → Rc4 → Bytes → Bytes × Rc4
  | 0, state, taken => (taken.reverse, state)
  | count + 1, state, taken =>
      let (byte, state) := state.next
      keystreamOnto count state (byte :: taken)

def keystream (state : Rc4) (count : Nat) : Bytes × Rc4 := keystreamOnto count state []

end Rc4

end RecordProtection
