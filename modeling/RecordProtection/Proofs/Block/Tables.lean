import RecordProtection.Proofs.Bytes

/-!
# Substitution tables and blocks of sixteen bytes

A table of bytes is read as one number, in which an entry is a digit, so that two tables are
compared by arithmetic.
-/

namespace RecordProtection

/-- Whether the first table takes every entry of the second back to its place. -/
def tablesInvert (inverse table : Array UInt8) : Bool :=
  let entry (digits : Nat) (place : Nat) : Nat := digits / 256 ^ place % 256
  (List.range 256).all fun place =>
    entry (Bytes.toNatLE inverse.toList) (entry (Bytes.toNatLE table.toList) place) == place

theorem getD_getD_of_tablesInvert {inverse table : Array UInt8}
    (h : tablesInvert inverse table = true) (byte : UInt8) :
    inverse.getD (table.getD byte.toNat 0).toNat 0 = byte := by
  have hplace := List.all_eq_true.mp h byte.toNat (List.mem_range.mpr byte.toNat_lt)
  simp only [Bytes.toNatLE_div_mod, beq_iff_eq] at hplace
  apply UInt8.toNat_inj.mp
  simpa using hplace

theorem exists_eq_sixteen_bytes {block : Bytes} (hblock : block.length = 16) :
    ∃ s₀ s₁ s₂ s₃ s₄ s₅ s₆ s₇ s₈ s₉ s₁₀ s₁₁ s₁₂ s₁₃ s₁₄ s₁₅,
      block = [s₀, s₁, s₂, s₃, s₄, s₅, s₆, s₇, s₈, s₉, s₁₀, s₁₁, s₁₂, s₁₃, s₁₄, s₁₅] := by
  match block, hblock with
  | [s₀, s₁, s₂, s₃, s₄, s₅, s₆, s₇, s₈, s₉, s₁₀, s₁₁, s₁₂, s₁₃, s₁₄, s₁₅], _ =>
      exact ⟨s₀, s₁, s₂, s₃, s₄, s₅, s₆, s₇, s₈, s₉, s₁₀, s₁₁, s₁₂, s₁₃, s₁₄, s₁₅, rfl⟩

end RecordProtection
