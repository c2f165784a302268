import Mathlib.Data.List.Iterate
import Mathlib.Data.List.Nodup
import Mathlib.Data.Nat.ModEq
import RecordProtection.Proofs.BigEndian

/-!
# Counting round

Blocks of one length are counted through like the numbers below `256 ^ length`, and after the last
one the first one comes again.  Two stretches of counting have no block in common exactly if neither
of them reaches the start of the other.
-/

namespace RecordProtection

namespace Bytes

/-- How many steps of counting lead from one block to another one of its length. -/
def stepsTo (one other : Bytes) : Nat :=
  (toNatBE other + (256 ^ one.length - toNatBE one)) % 256 ^ one.length

end Bytes

/-! ### Stretches of counting -/

theorem length_iterate_incrementBE (block : Bytes) (steps : Nat) :
    (incrementBE^[steps] block).length = block.length :=
  length_iterate length_incrementBE block steps

theorem toNatBE_iterate_incrementBE (block : Bytes) (steps : Nat) :
    Bytes.toNatBE (incrementBE^[steps] block)
      = (Bytes.toNatBE block + steps) % 256 ^ block.length := by
  induction steps with
  | zero => exact (Nat.mod_eq_of_lt (Bytes.toNatBE_lt block)).symm
  | succ steps ih =>
      rw [Function.iterate_succ_apply', toNatBE_incrementBE, ih, length_iterate_incrementBE,
        Nat.mod_add_mod, Nat.add_assoc]

theorem iterate_incrementBE_eq_iff {one other : Bytes} (hlength : one.length = other.length)
    {steps : Nat} :
    incrementBE^[steps] one = other ↔ steps % 256 ^ one.length = one.stepsTo other := by
  have hone := Bytes.toNatBE_lt one
  have hother := Bytes.toNatBE_lt other
  rw [← hlength] at hother
  have hvalue := toNatBE_iterate_incrementBE one steps
  unfold Bytes.stepsTo
  constructor
  · rintro rfl
    rw [hvalue, Nat.mod_add_mod]
    have hround : Bytes.toNatBE one + steps + (256 ^ one.length - Bytes.toNatBE one)
        = steps + 256 ^ one.length := by
      omega
    rw [hround, Nat.add_mod_right]
  · intro hsteps
    refine Bytes.toNatBE_injective ((length_iterate_incrementBE one steps).trans hlength) ?_
    have hround : Bytes.toNatBE one
        + (Bytes.toNatBE other + (256 ^ one.length - Bytes.toNatBE one))
        = Bytes.toNatBE other + 256 ^ one.length := by
      omega
    rw [hvalue, Nat.add_mod, hsteps, ← Nat.add_mod, hround, Nat.add_mod_right,
      Nat.mod_eq_of_lt hother]

theorem incrementBE_injective : Function.Injective incrementBE := by
  intro one other h
  have hlength : one.length = other.length := by
    have h := congrArg List.length h
    rwa [length_incrementBE, length_incrementBE] at h
  have hvalue := congrArg Bytes.toNatBE h
  rw [toNatBE_incrementBE, toNatBE_incrementBE, ← hlength] at hvalue
  have hone := Bytes.toNatBE_lt one
  have hother := Bytes.toNatBE_lt other
  rw [← hlength] at hother
  refine Bytes.toNatBE_injective hlength ?_
  have hmod : Bytes.toNatBE one ≡ Bytes.toNatBE other [MOD 256 ^ one.length] :=
    Nat.ModEq.add_right_cancel' 1 hvalue
  exact hmod.eq_of_lt_of_lt hone hother

/-- No block comes again before all of its length have come. -/
theorem nodup_iterate_incrementBE {block : Bytes} {count : Nat}
    (hcount : count ≤ 256 ^ block.length) : (List.iterate incrementBE block count).Nodup := by
  rw [← List.range_map_iterate]
  refine List.Nodup.map_on ?_ List.nodup_range
  intro i hi j hj hsame
  rw [List.mem_range] at hi hj
  have hvalue := congrArg Bytes.toNatBE hsame
  rw [toNatBE_iterate_incrementBE, toNatBE_iterate_incrementBE] at hvalue
  have hmod : i ≡ j [MOD 256 ^ block.length] := Nat.ModEq.add_left_cancel' _ hvalue
  exact hmod.eq_of_lt_of_lt (by omega) (by omega)

/-- The stretch from one block reaches another block. -/
theorem mem_iterate_incrementBE_iff {one other : Bytes} (hlength : one.length = other.length)
    {count : Nat} :
    other ∈ List.iterate incrementBE one count ↔ one.stepsTo other < count := by
  have hlt : one.stepsTo other < 256 ^ one.length := Nat.mod_lt _ (Nat.pow_pos (by decide))
  rw [List.mem_iterate]
  constructor
  · rintro ⟨steps, hsteps, hreach⟩
    rw [← (iterate_incrementBE_eq_iff hlength).mp hreach.symm]
    exact (Nat.mod_le _ _).trans_lt hsteps
  · intro hreach
    refine ⟨one.stepsTo other, hreach, ?_⟩
    exact ((iterate_incrementBE_eq_iff hlength).mpr (Nat.mod_eq_of_lt hlt)).symm

/-- Two stretches are disjoint exactly if neither of them reaches the start of the other. -/
theorem disjoint_iterate_incrementBE_iff {one other : Bytes} (hlength : one.length = other.length)
    {count otherCount : Nat} :
    (List.iterate incrementBE one count).Disjoint (List.iterate incrementBE other otherCount)
      ↔ (0 < otherCount → count ≤ one.stepsTo other)
        ∧ (0 < count → otherCount ≤ other.stepsTo one) := by
  have hstart {block : Bytes} {count : Nat} (hpos : 0 < count) :
      block ∈ List.iterate incrementBE block count := by
    rw [List.mem_iterate]
    exact ⟨0, hpos, rfl⟩
  constructor
  · intro hdisjoint
    refine ⟨fun hpos => Nat.not_lt.mp fun hreach => ?_, fun hpos => Nat.not_lt.mp fun hreach => ?_⟩
    · exact hdisjoint ((mem_iterate_incrementBE_iff hlength).mpr hreach) (hstart hpos)
    · exact hdisjoint (hstart hpos) ((mem_iterate_incrementBE_iff hlength.symm).mpr hreach)
  · rintro ⟨hforward, hbackward⟩ block hone hother
    obtain ⟨i, hi, rfl⟩ := List.mem_iterate.mp hone
    obtain ⟨j, hj, hmeet⟩ := List.mem_iterate.mp hother
    -- the stretch that is further from its start where they meet has passed the start of the other
    rcases Nat.le_total j i with hle | hle
    · obtain ⟨steps, rfl⟩ := Nat.exists_eq_add_of_le hle
      rw [Function.iterate_add_apply] at hmeet
      have hreach := incrementBE_injective.iterate j hmeet
      have hmem : other ∈ List.iterate incrementBE one count :=
        List.mem_iterate.mpr ⟨steps, by omega, hreach.symm⟩
      have hlt := (mem_iterate_incrementBE_iff hlength).mp hmem
      exact absurd hlt (Nat.not_lt.mpr (hforward (by omega)))
    · obtain ⟨steps, rfl⟩ := Nat.exists_eq_add_of_le hle
      rw [Function.iterate_add_apply] at hmeet
      have hreach := incrementBE_injective.iterate i hmeet
      have hmem : one ∈ List.iterate incrementBE other otherCount :=
        List.mem_iterate.mpr ⟨steps, by omega, hreach⟩
      have hlt := (mem_iterate_incrementBE_iff hlength.symm).mp hmem
      exact absurd hlt (Nat.not_lt.mpr (hbackward (by omega)))

end RecordProtection
