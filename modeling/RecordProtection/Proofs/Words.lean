import RecordProtection.Proofs.Bytes

/-!
# Words and their bytes

A word is the number that its bytes write, so words and byte strings of their length stand for
each other.
-/

namespace RecordProtection

/-! ### Numbers of words -/

theorem toNat_word16 (b₁ b₀ : UInt8) : (word16 b₁ b₀).toNat = 2 ^ 8 * b₁.toNat + b₀.toNat := by
  have hlow := b₀.toNat_lt
  have hhigh := b₁.toNat_lt
  have hsmall : b₁.toNat <<< 8 % 2 ^ 16 = b₁.toNat <<< 8 :=
    Nat.mod_eq_of_lt (by rw [Nat.shiftLeft_eq]; omega)
  simp only [word16, UInt16.toNat_or, UInt16.toNat_shiftLeft, UInt8.toNat_toUInt16,
    UInt16.reduceToNat, Nat.reduceMod]
  rw [hsmall, ← Nat.shiftLeft_add_eq_or_of_lt (by omega), Nat.shiftLeft_eq, Nat.mul_comm]

theorem toNat_word32 (b₃ b₂ b₁ b₀ : UInt8) :
    (word32 b₃ b₂ b₁ b₀).toNat
      = 2 ^ 24 * b₃.toNat + 2 ^ 16 * b₂.toNat + 2 ^ 8 * b₁.toNat + b₀.toNat := by
  have h₃ := b₃.toNat_lt
  have h₂ := b₂.toNat_lt
  have h₁ := b₁.toNat_lt
  have h₀ := b₀.toNat_lt
  have hsmall₃ : b₃.toNat <<< 24 % 2 ^ 32 = b₃.toNat <<< 24 :=
    Nat.mod_eq_of_lt (by rw [Nat.shiftLeft_eq]; omega)
  have hsmall₂ : b₂.toNat <<< 16 % 2 ^ 32 = b₂.toNat <<< 16 :=
    Nat.mod_eq_of_lt (by rw [Nat.shiftLeft_eq]; omega)
  have hsmall₁ : b₁.toNat <<< 8 % 2 ^ 32 = b₁.toNat <<< 8 :=
    Nat.mod_eq_of_lt (by rw [Nat.shiftLeft_eq]; omega)
  -- disjoint bits are added up from the left
  have hjoin₂ : b₃.toNat <<< 24 ||| b₂.toNat <<< 16 = (2 ^ 8 * b₃.toNat + b₂.toNat) <<< 16 := by
    rw [← Nat.shiftLeft_add_eq_or_of_lt (by rw [Nat.shiftLeft_eq]; omega)]
    simp only [Nat.shiftLeft_eq]
    omega
  have hjoin₁ : (2 ^ 8 * b₃.toNat + b₂.toNat) <<< 16 ||| b₁.toNat <<< 8
      = (2 ^ 16 * b₃.toNat + 2 ^ 8 * b₂.toNat + b₁.toNat) <<< 8 := by
    rw [← Nat.shiftLeft_add_eq_or_of_lt (by rw [Nat.shiftLeft_eq]; omega)]
    simp only [Nat.shiftLeft_eq]
    omega
  simp only [word32, UInt32.toNat_or, UInt32.toNat_shiftLeft, UInt8.toNat_toUInt32,
    UInt32.reduceToNat, Nat.reduceMod]
  rw [hsmall₃, hsmall₂, hsmall₁, hjoin₂, hjoin₁, ← Nat.shiftLeft_add_eq_or_of_lt (by omega)]
  simp only [Nat.shiftLeft_eq]
  omega

theorem toNat_word64 (high low : UInt32) :
    (word64 high low).toNat = 2 ^ 32 * high.toNat + low.toNat := by
  have hhigh := high.toNat_lt
  have hlow := low.toNat_lt
  have hsmall : high.toNat <<< 32 % 2 ^ 64 = high.toNat <<< 32 :=
    Nat.mod_eq_of_lt (by rw [Nat.shiftLeft_eq]; omega)
  simp only [word64, UInt64.toNat_or, UInt64.toNat_shiftLeft, UInt32.toNat_toUInt64,
    UInt64.reduceToNat, Nat.reduceMod]
  rw [hsmall, ← Nat.shiftLeft_add_eq_or_of_lt (by omega), Nat.shiftLeft_eq, Nat.mul_comm]

/-! ### Words of 64 bits and their halves -/

@[simp]
theorem word64_halves (w : UInt64) : word64 (w >>> 32).toUInt32 w.toUInt32 = w := by
  have hw := w.toNat_lt
  apply UInt64.toNat_inj.mp
  simp only [toNat_word64, UInt64.toNat_toUInt32, UInt64.toNat_shiftRight, UInt64.reduceToNat,
    Nat.reduceMod, Nat.shiftRight_eq_div_pow]
  omega

@[simp]
theorem high_word64 (high low : UInt32) : (word64 high low >>> 32).toUInt32 = high := by
  have hhigh := high.toNat_lt
  have hlow := low.toNat_lt
  apply UInt32.toNat_inj.mp
  simp only [UInt64.toNat_toUInt32, UInt64.toNat_shiftRight, toNat_word64, UInt64.reduceToNat,
    Nat.reduceMod, Nat.shiftRight_eq_div_pow]
  omega

@[simp]
theorem low_word64 (high low : UInt32) : (word64 high low).toUInt32 = low := by
  have hlow := low.toNat_lt
  apply UInt32.toNat_inj.mp
  simp only [UInt64.toNat_toUInt32, toNat_word64]
  omega

/-! ### Bytes of words -/

theorem word16_bytes16 (w : UInt16) : word16 (w >>> 8).toUInt8 w.toUInt8 = w := by
  have hw := w.toNat_lt
  apply UInt16.toNat_inj.mp
  simp only [toNat_word16, UInt16.toNat_toUInt8, UInt16.toNat_shiftRight, UInt16.reduceToNat,
    Nat.reduceMod, Nat.shiftRight_eq_div_pow]
  omega

theorem word32_bytes32 (w : UInt32) :
    word32 (w >>> 24).toUInt8 (w >>> 16).toUInt8 (w >>> 8).toUInt8 w.toUInt8 = w := by
  have hw := w.toNat_lt
  apply UInt32.toNat_inj.mp
  simp only [toNat_word32, UInt32.toNat_toUInt8, UInt32.toNat_shiftRight, UInt32.reduceToNat,
    Nat.reduceMod, Nat.shiftRight_eq_div_pow]
  omega

theorem bytes16_word16 (b₁ b₀ : UInt8) : bytes16 (word16 b₁ b₀) = [b₁, b₀] := by
  have h₁ := b₁.toNat_lt
  have h₀ := b₀.toNat_lt
  simp only [bytes16, List.cons.injEq, and_true, ← UInt8.toNat_inj, UInt16.toNat_toUInt8,
    UInt16.toNat_shiftRight, toNat_word16, UInt16.reduceToNat, Nat.reduceMod,
    Nat.shiftRight_eq_div_pow]
  omega

theorem bytes32_word32 (b₃ b₂ b₁ b₀ : UInt8) :
    bytes32 (word32 b₃ b₂ b₁ b₀) = [b₃, b₂, b₁, b₀] := by
  have h₃ := b₃.toNat_lt
  have h₂ := b₂.toNat_lt
  have h₁ := b₁.toNat_lt
  have h₀ := b₀.toNat_lt
  simp only [bytes32, List.cons.injEq, and_true, ← UInt8.toNat_inj, UInt32.toNat_toUInt8,
    UInt32.toNat_shiftRight, toNat_word32, UInt32.reduceToNat, Nat.reduceMod,
    Nat.shiftRight_eq_div_pow]
  omega

@[simp]
theorem words16_bytes16_append (w : UInt16) (rest : Bytes) :
    words16 (bytes16 w ++ rest) = w :: words16 rest := by
  simp only [bytes16, List.cons_append, List.nil_append, words16, word16_bytes16]

@[simp]
theorem words32_bytes32_append (w : UInt32) (rest : Bytes) :
    words32 (bytes32 w ++ rest) = w :: words32 rest := by
  simp only [bytes32, List.cons_append, List.nil_append, words32, word32_bytes32]

@[simp]
theorem words64_bytes64_append (w : UInt64) (rest : Bytes) :
    words64 (bytes64 w ++ rest) = w :: words64 rest := by
  simp only [bytes64, bytes32, List.cons_append, List.nil_append, words64, word32_bytes32,
    word64_halves]

@[simp]
theorem words16_bytes16 (w : UInt16) : words16 (bytes16 w) = [w] := by
  simpa [words16] using words16_bytes16_append w []

@[simp]
theorem words32_bytes32 (w : UInt32) : words32 (bytes32 w) = [w] := by
  simpa [words32] using words32_bytes32_append w []

@[simp]
theorem words64_bytes64 (w : UInt64) : words64 (bytes64 w) = [w] := by
  simpa [words64] using words64_bytes64_append w []

/-! ### Blocks are the bytes of words -/

theorem exists_bytes32_append {block : Bytes} (hlength : 4 ≤ block.length) :
    ∃ w, block = bytes32 w ++ block.drop 4 := by
  match block, hlength with
  | b₃ :: b₂ :: b₁ :: b₀ :: rest, _ => exact ⟨word32 b₃ b₂ b₁ b₀, by rw [bytes32_word32]; rfl⟩

theorem exists_bytes64_append {block : Bytes} (hlength : 8 ≤ block.length) :
    ∃ w, block = bytes64 w ++ block.drop 8 := by
  have hfirst : 4 ≤ block.length := by
    omega
  have hsecond : 4 ≤ (block.drop 4).length := by
    rw [List.length_drop]
    omega
  obtain ⟨high, hhigh⟩ := exists_bytes32_append hfirst
  obtain ⟨low, hlow⟩ := exists_bytes32_append hsecond
  refine ⟨word64 high low, ?_⟩
  rw [bytes64, high_word64, low_word64, List.append_assoc]
  rw [List.drop_drop] at hlow
  rw [← hlow, ← hhigh]

theorem exists_eq_bytes64 {block : Bytes} (hlength : block.length = 8) :
    ∃ w, block = bytes64 w := by
  obtain ⟨w, hw⟩ := exists_bytes64_append (Nat.le_of_eq hlength.symm)
  rw [List.drop_eq_nil_of_le (by omega), List.append_nil] at hw
  exact ⟨w, hw⟩

theorem exists_eq_two_words32 {block : Bytes} (hlength : block.length = 8) :
    ∃ left right, block = bytes32 left ++ bytes32 right := by
  obtain ⟨w, rfl⟩ := exists_eq_bytes64 hlength
  exact ⟨_, _, rfl⟩

theorem exists_eq_two_words64 {block : Bytes} (hlength : block.length = 16) :
    ∃ left right, block = bytes64 left ++ bytes64 right := by
  have hfirst : 8 ≤ block.length := by
    omega
  have hsecond : (block.drop 8).length = 8 := by
    rw [List.length_drop]
    omega
  obtain ⟨left, hleft⟩ := exists_bytes64_append hfirst
  obtain ⟨right, hright⟩ := exists_eq_bytes64 hsecond
  exact ⟨left, right, hright ▸ hleft⟩

theorem exists_eq_four_words32 {block : Bytes} (hlength : block.length = 16) :
    ∃ a b c d, block = bytes32 a ++ (bytes32 b ++ (bytes32 c ++ bytes32 d)) := by
  obtain ⟨left, right, rfl⟩ := exists_eq_two_words64 hlength
  refine ⟨(left >>> 32).toUInt32, left.toUInt32, (right >>> 32).toUInt32, right.toUInt32, ?_⟩
  simp only [bytes64, List.append_assoc]

theorem exists_eq_four_words16 {block : Bytes} (hlength : block.length = 8) :
    ∃ a b c d, block = bytes16 a ++ (bytes16 b ++ (bytes16 c ++ bytes16 d)) := by
  match block, hlength with
  | [a₁, a₀, b₁, b₀, c₁, c₀, d₁, d₀], _ =>
      exact ⟨word16 a₁ a₀, word16 b₁ b₀, word16 c₁ c₀, word16 d₁ d₀, by simp [bytes16_word16]⟩

end RecordProtection
