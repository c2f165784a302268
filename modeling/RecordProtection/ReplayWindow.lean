import RecordProtection.Error

/-!
The sliding window that remembers which of the latest 64 sequence numbers have been seen.
-/

namespace RecordProtection

/-- Bit `k` of `seen` stands for the number `k` below `highest`. -/
structure ReplayWindow where
  highest : UInt64
  seen : BitVec 64
  deriving DecidableEq, Repr

namespace ReplayWindow

def width : Nat := 64

def empty : ReplayWindow := ⟨0, 0⟩

/-- A number passes if it is ahead of the window, or inside it and not seen. -/
def check (window : ReplayWindow) (number : UInt64) : Except RecordError Unit :=
  if window.highest < number then
    .ok ()
  else
    let offset := window.highest.toNat - number.toNat
    if offset ≥ width ∨ window.seen.getLsbD offset then .error (.replayedRecord number) else .ok ()

/-- Marks a number as seen, sliding the window forward if the number is ahead of it. -/
def update (window : ReplayWindow) (number : UInt64) : ReplayWindow :=
  if window.highest < number then
    let distance := number.toNat - window.highest.toNat
    let slid := if distance ≥ width then 0 else window.seen <<< distance
    ⟨number, slid ||| 1⟩
  else
    let offset := window.highest.toNat - number.toNat
    if offset < width then { window with seen := window.seen ||| 1 <<< offset } else window

def checkAndUpdate (window : ReplayWindow) (number : UInt64) :
    Except RecordError Unit × ReplayWindow :=
  match window.check number with
  | .ok () => (.ok (), window.update number)
  | .error e => (.error e, window)

end ReplayWindow

end RecordProtection
