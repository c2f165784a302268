import RecordProtection.Block.Rc2
import RecordProtection.Proofs.Block.Lawful
import RecordProtection.Proofs.Words

/-!
# RC2 decryption undoes encryption

Mixing and mashing change one word at a time by sums that only the other words enter, so they are
undone word by word from the last one.
-/

namespace RecordProtection

namespace Rc2

/-! ### Words -/

theorem rotateRight_rotateLeft (w : UInt16) {amount : UInt16} (hpos : 0 < amount.toNat)
    (hamount : amount.toNat < 16) : rotateRight (rotateLeft w amount) amount = w := by
  obtain ⟨shift, hshift⟩ : ∃ shift, shift = amount.toNat := ⟨_, rfl⟩
  have hleft : amount.toNat % 16 = shift := by
    omega
  have hright : (16 - amount).toNat % 16 = 16 - shift := by
    rw [UInt16.toNat_sub]
    simp
    omega
  rw [← hshift] at hpos hamount
  have hw (j : Nat) (hj : 16 ≤ j) : w.toNat.testBit j = false :=
    Nat.testBit_lt_two_pow (Nat.lt_of_lt_of_le w.toNat_lt (Nat.pow_le_pow_right (by decide) hj))
  apply UInt16.toNat_inj.mp
  apply Nat.eq_of_testBit_eq
  intro i
  simp only [rotateRight, rotateLeft, UInt16.toNat_or, UInt16.toNat_shiftLeft,
    UInt16.toNat_shiftRight, hleft, hright, Nat.testBit_or, Nat.testBit_mod_two_pow,
    Nat.testBit_shiftLeft, Nat.testBit_shiftRight]
  have hhigh := hw (16 - shift + (shift + i)) (by omega)
  by_cases hi : i < 16
  · by_cases hlow : i < 16 - shift
    · -- the bit was moved up and comes down again
      have hmoved : shift + i < 16 := by omega
      have hplace : shift + i - shift = i := by omega
      simp [hmoved, hplace, hhigh, Nat.not_le.mpr hlow]
    · -- the bit went around
      have hmoved : ¬ shift + i < 16 := by omega
      have haround : 16 - shift ≤ i := Nat.not_lt.mp hlow
      have hbelow : ¬ shift ≤ i - (16 - shift) := by omega
      have hplace : 16 - shift + (i - (16 - shift)) = i := by omega
      simp [hi, hmoved, haround, hbelow, hplace, hhigh]
  · have hmoved : ¬ shift + i < 16 := by omega
    simp [hi, hmoved, hhigh, hw i (Nat.not_lt.mp hi)]

theorem unmixWord_mixWord (word key third second first : UInt16) {amount : UInt16}
    (hpos : 0 < amount.toNat) (hamount : amount.toNat < 16) :
    unmixWord (mixWord word key third second first amount) key third second first amount
      = word := by
  rw [unmixWord, mixWord, rotateRight_rotateLeft _ hpos hamount]
  generalize first &&& second = p
  generalize ~~~ first &&& third = q
  grind

/-! ### Rounds -/

theorem unmix_mix (keys : Array UInt16) (s : State) (round : Nat) :
    unmix keys (mix keys s round) round = s := by
  have hone (w k third second first : UInt16) :=
    @unmixWord_mixWord w k third second first 1 (by decide) (by decide)
  have htwo (w k third second first : UInt16) :=
    @unmixWord_mixWord w k third second first 2 (by decide) (by decide)
  have hthree (w k third second first : UInt16) :=
    @unmixWord_mixWord w k third second first 3 (by decide) (by decide)
  have hfive (w k third second first : UInt16) :=
    @unmixWord_mixWord w k third second first 5 (by decide) (by decide)
  simp only [unmix, mix, hone, htwo, hthree, hfive]

theorem unmash_mash (keys : Array UInt16) (s : State) : unmash keys (mash keys s) = s := by
  simp only [unmash, mash, UInt16.add_sub_cancel]

/-- A run of mixing rounds is undone from the last one on. -/
theorem foldl_unmix_mix (keys : Array UInt16) (rounds : List Nat) (s : State) :
    rounds.reverse.foldl (unmix keys) (rounds.foldl (mix keys) s) = s := by
  induction rounds generalizing s with
  | nil => rfl
  | cons round rounds ih =>
      rw [List.foldl_cons, List.reverse_cons, List.foldl_append, ih]
      exact unmix_mix keys s round

theorem decryptState_encryptState (keys : Array UInt16) (s : State) :
    decryptState keys (encryptState keys s) = s := by
  have hlast := foldl_unmix_mix keys [11, 12, 13, 14, 15]
  have hmiddle := foldl_unmix_mix keys [5, 6, 7, 8, 9, 10]
  have hfirst := foldl_unmix_mix keys [0, 1, 2, 3, 4]
  simp only [List.reverse_cons, List.reverse_nil, List.nil_append, List.cons_append]
    at hlast hmiddle hfirst
  rw [decryptState, encryptState, hlast, unmash_mash, hmiddle, unmash_mash, hfirst]

/-! ### Blocks -/

theorem onBlock_words (f : State → State) (a b c d : UInt16) :
    onBlock f ((bytes16 a).reverse ++ ((bytes16 b).reverse ++ ((bytes16 c).reverse
        ++ (bytes16 d).reverse)))
      = (bytes16 (f ⟨a, b, c, d⟩).a).reverse ++ ((bytes16 (f ⟨a, b, c, d⟩).b).reverse
        ++ ((bytes16 (f ⟨a, b, c, d⟩).c).reverse ++ (bytes16 (f ⟨a, b, c, d⟩).d).reverse)) := by
  have hword (w : UInt16) : word16 (w >>> 8).toUInt8 w.toUInt8 = w := word16_bytes16 w
  simp [onBlock, bytes16, hword]

theorem exists_eq_words {block : Bytes} (hblock : block.length = 8) :
    ∃ a b c d, block = (bytes16 a).reverse ++ ((bytes16 b).reverse ++ ((bytes16 c).reverse
      ++ (bytes16 d).reverse)) := by
  match block, hblock with
  | [a₀, a₁, b₀, b₁, c₀, c₁, d₀, d₁], _ =>
      exact ⟨word16 a₁ a₀, word16 b₁ b₀, word16 c₁ c₀, word16 d₁ d₀, by simp [bytes16_word16]⟩

theorem length_onBlock (f : State → State) {block : Bytes} (hblock : block.length = 8) :
    (onBlock f block).length = 8 := by
  obtain ⟨a, b, c, d, rfl⟩ := exists_eq_words hblock
  simp [onBlock_words]

theorem onBlock_onBlock {f g : State → State} (hinverse : ∀ s, g (f s) = s) {block : Bytes}
    (hblock : block.length = 8) : onBlock g (onBlock f block) = block := by
  obtain ⟨a, b, c, d, rfl⟩ := exists_eq_words hblock
  rw [onBlock_words, onBlock_words, hinverse]

end Rc2

theorem rc2_lawful (key : Bytes) : (rc2 key).Lawful where
  blockLength_pos := show 0 < 8 by decide
  blockLength_le := show 8 ≤ 16 by decide
  length_encrypt _ := Rc2.length_onBlock _
  length_decrypt _ := Rc2.length_onBlock _
  decrypt_encrypt _ := Rc2.onBlock_onBlock (Rc2.decryptState_encryptState _)

end RecordProtection
