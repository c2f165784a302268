import RecordProtection.Proofs.ReplayWindow
import Mathlib.Data.Finset.Insert
import Mathlib.Data.Finset.Lattice.Fold
import Mathlib.Data.Finset.Dedup
import Mathlib.Order.Lattice.Nat

/-!
# The window as a set

Sixty-four bits and a number answer like the set of all numbers that have been marked since the last
reset: a number passes exactly if it is not in the set and is less than the width of the window
below the maximum of the set.  It makes no difference whether the marked numbers were checked.
-/

namespace RecordProtection.ReplayWindow

inductive Operation where
  | update (number : UInt64)
  | checkAndUpdate (number : UInt64)
  | reset

/-! ### The set -/

/-- A number that is new to a set, and not too far below its maximum.  The maximum of the empty set
is zero. -/
def Passes (marked : Finset UInt64) (number : UInt64) : Prop :=
  number ∉ marked ∧ marked.sup UInt64.toNat < number.toNat + width

instance (marked : Finset UInt64) (number : UInt64) : Decidable (Passes marked number) :=
  inferInstanceAs (Decidable (_ ∧ _))

/-- What an operation makes of a set. -/
def Operation.mark : Operation → Finset UInt64 → Finset UInt64
  | update number, marked => insert number marked
  | checkAndUpdate number, marked =>
      if Passes marked number then insert number marked else marked
  | reset, _ => ∅

/-! ### The window -/

/-- A window in use, and the numbers that have been marked in it since it was reset: those of the
updates, and those of the checked updates that succeeded. -/
structure Marking where
  window : ReplayWindow
  marked : Finset UInt64

namespace Marking

def start : Marking := ⟨.empty, ∅⟩

def step (marking : Marking) : Operation → Marking
  | .update number => ⟨marking.window.update number, insert number marking.marked⟩
  | .checkAndUpdate number =>
      match marking.window.checkAndUpdate number with
      | (.ok (), window) => ⟨window, insert number marking.marked⟩
      | (.error _, window) => ⟨window, marking.marked⟩
  | .reset => start

def run (operations : List Operation) : Marking := operations.foldl step start

theorem run_concat (operations : List Operation) (operation : Operation) :
    run (operations ++ [operation]) = (run operations).step operation :=
  List.foldl_concat step start operation operations

end Marking

theorem Tracks.congr {window : ReplayWindow} {accepted other : List UInt64}
    (htracks : window.Tracks accepted) (hmem : ∀ number, number ∈ other ↔ number ∈ accepted) :
    window.Tracks other where
  le_highest number hnumber := htracks.le_highest number ((hmem number).mp hnumber)
  highest_mem := by
    obtain hhighest | ⟨rfl, hzero⟩ := htracks.highest_mem
    · exact .inl ((hmem _).mpr hhighest)
    · refine .inr ⟨List.eq_nil_iff_forall_not_mem.mpr fun number hnumber => ?_, hzero⟩
      exact List.not_mem_nil ((hmem number).mp hnumber)
  seen_iff offset hoffset := by
    simp only [hmem]
    exact htracks.seen_iff offset hoffset

/-- The window remembers the set as far as it reaches. -/
def Marking.Tracks (marking : Marking) : Prop := marking.window.Tracks marking.marked.toList

theorem fresh_toList_iff (marked : Finset UInt64) (number : UInt64) :
    Fresh marked.toList number ↔ Passes marked number := by
  have hbound : 0 < number.toNat + width := Nat.lt_add_left _ (by decide)
  simp only [Fresh, Passes, Finset.mem_toList, Finset.sup_lt_iff hbound]

namespace Marking

section Tracks

variable {marking : Marking} (htracks : marking.Tracks)
include htracks

theorem Tracks.check_eq (number : UInt64) :
    marking.window.check number
      = if Passes marking.marked number then .ok () else .error (.replayedRecord number) := by
  have hcheck := @ReplayWindow.check_eq _ _ htracks number
  simp only [fresh_toList_iff] at hcheck
  exact hcheck

theorem Tracks.checkAndUpdate_eq (number : UInt64) :
    marking.window.checkAndUpdate number
      = if Passes marking.marked number then (.ok (), marking.window.update number)
        else (.error (.replayedRecord number), marking.window) := by
  unfold checkAndUpdate
  rw [htracks.check_eq]
  split <;> rename_i heq <;> split at heq <;> cases heq <;> rename_i hpasses
  · rw [if_pos hpasses]
  · rw [if_neg hpasses]

theorem Tracks.update (number : UInt64) :
    Tracks ⟨marking.window.update number, insert number marking.marked⟩ :=
  (tracks_update htracks number).congr fun other => by simp

/-- A checked update is an update if its number passes, and nothing otherwise. -/
theorem Tracks.step_checkAndUpdate (number : UInt64) :
    marking.step (.checkAndUpdate number)
      = if Passes marking.marked number then marking.step (.update number) else marking := by
  simp only [step, htracks.checkAndUpdate_eq]
  by_cases hpasses : Passes marking.marked number
  · simp only [if_pos hpasses]
  · simp only [if_neg hpasses]

theorem Tracks.step (operation : Operation) :
    (marking.step operation).Tracks
      ∧ (marking.step operation).marked = operation.mark marking.marked := by
  cases operation with
  | update number => exact ⟨htracks.update number, rfl⟩
  | checkAndUpdate number =>
      rw [htracks.step_checkAndUpdate, Operation.mark]
      split
      · exact ⟨htracks.update number, rfl⟩
      · exact ⟨htracks, rfl⟩
  | reset => exact ⟨by simpa [Tracks, Marking.step, start] using tracks_empty, rfl⟩

end Tracks

theorem tracks_start : start.Tracks := by
  simpa [Tracks, start] using tracks_empty

theorem tracks_run (operations : List Operation) :
    (run operations).Tracks
      ∧ (run operations).marked
        = operations.foldl (fun marked operation => operation.mark marked) ∅ := by
  induction operations using List.reverseRecOn with
  | nil => exact ⟨tracks_start, rfl⟩
  | append_singleton operations operation ih =>
      obtain ⟨htracks, hmarked⟩ := ih
      obtain ⟨hstep, hmark⟩ := htracks.step operation
      rw [run_concat, List.foldl_concat, ← hmarked]
      exact ⟨hstep, hmark⟩

/-- After any operations on a new window, checks and checked updates answer like the set of the
marked numbers, a refused number leaves the window as it was, and the set is the one that the
operations make of the empty set without a window. -/
theorem check_run (operations : List Operation) (number : UInt64) :
    (run operations).window.check number
        = (if Passes (run operations).marked number then .ok ()
          else .error (.replayedRecord number))
      ∧ (run operations).window.checkAndUpdate number
        = (if Passes (run operations).marked number then
            (.ok (), (run operations).window.update number)
          else (.error (.replayedRecord number), (run operations).window))
      ∧ (run operations).marked
        = operations.foldl (fun marked operation => operation.mark marked) ∅ := by
  obtain ⟨htracks, hmarked⟩ := tracks_run operations
  exact ⟨htracks.check_eq number, htracks.checkAndUpdate_eq number, hmarked⟩

/-- The highest number of a new window is zero, but zero has not been seen. -/
example : (start.window.check 0, (run [.checkAndUpdate 0]).window.check 0)
    = (.ok (), .error (.replayedRecord 0)) := by
  decide

end Marking

end RecordProtection.ReplayWindow
