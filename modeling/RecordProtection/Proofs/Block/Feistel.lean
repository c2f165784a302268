import RecordProtection.Block.Magma
import RecordProtection.Block.Seed
import RecordProtection.Block.Sm4
import RecordProtection.Proofs.Block.Lawful
import RecordProtection.Proofs.Words

/-!
# Networks that are undone from back to front

SEED and Magma are Feistel networks on words, and SM4 is an unbalanced network on four words.  In
each of them decryption is the same network under the reversed keys.
-/

namespace RecordProtection

theorem xor32_xor32_cancel (a b : UInt32) : a ^^^ b ^^^ b = a := by
  rw [UInt32.xor_assoc, UInt32.xor_self, UInt32.xor_zero]

theorem xor64_xor64_cancel (a b : UInt64) : a ^^^ b ^^^ b = a := by
  rw [UInt64.xor_assoc, UInt64.xor_self, UInt64.xor_zero]

/-! ### SEED -/

namespace Seed

theorem crypt_bytes64 (keys : List UInt64) (left right : UInt64) :
    crypt keys (bytes64 left ++ bytes64 right)
      = bytes64 (feistel roundFunction keys (left, right)).2
        ++ bytes64 (feistel roundFunction keys (left, right)).1 := by
  simp [crypt]

theorem length_crypt (keys : List UInt64) {block : Bytes} (hblock : block.length = 16) :
    (crypt keys block).length = 16 := by
  obtain ⟨left, right, rfl⟩ := exists_eq_two_words64 hblock
  simp [crypt_bytes64]

theorem crypt_reverse_crypt (keys : List UInt64) {block : Bytes} (hblock : block.length = 16) :
    crypt keys.reverse (crypt keys block) = block := by
  obtain ⟨left, right, rfl⟩ := exists_eq_two_words64 hblock
  have hreverse := feistel_reverse roundFunction xor64_xor64_cancel keys left right
  rw [crypt_bytes64, crypt_bytes64, hreverse]

end Seed

theorem seed_lawful (key : Bytes) : (seed key).Lawful where
  blockLength_pos := show 0 < 16 by decide
  blockLength_le := show 16 ≤ 16 by decide
  length_encrypt _ := Seed.length_crypt _
  length_decrypt _ := Seed.length_crypt _
  decrypt_encrypt _ := Seed.crypt_reverse_crypt _

/-! ### Magma -/

namespace Magma

theorem crypt_bytes32 (keys : List UInt32) (left right : UInt32) :
    crypt keys (bytes32 left ++ bytes32 right)
      = bytes32 (feistel roundFunction keys (left, right)).2
        ++ bytes32 (feistel roundFunction keys (left, right)).1 := by
  simp [crypt]

theorem length_crypt (keys : List UInt32) {block : Bytes} (hblock : block.length = 8) :
    (crypt keys block).length = 8 := by
  obtain ⟨left, right, rfl⟩ := exists_eq_two_words32 hblock
  simp [crypt_bytes32]

theorem crypt_reverse_crypt (keys : List UInt32) {block : Bytes} (hblock : block.length = 8) :
    crypt keys.reverse (crypt keys block) = block := by
  obtain ⟨left, right, rfl⟩ := exists_eq_two_words32 hblock
  have hreverse := feistel_reverse roundFunction xor32_xor32_cancel keys left right
  rw [crypt_bytes32, crypt_bytes32, hreverse]

end Magma

theorem magma_lawful (key : Bytes) : (magma key).Lawful where
  blockLength_pos := show 0 < 8 by decide
  blockLength_le := show 8 ≤ 16 by decide
  length_encrypt _ := Magma.length_crypt _
  length_decrypt _ := Magma.length_crypt _
  decrypt_encrypt _ := Magma.crypt_reverse_crypt _

/-! ### SM4 -/

namespace Sm4

def State.reverse (s : State) : State := ⟨s.d, s.c, s.b, s.a⟩

/-- A step under the same key leads from the reversed state back to the reversed state. -/
theorem step_reverse_step (mix : UInt32 → UInt32) (s : State) (key : UInt32) :
    step mix (step mix s key).reverse key = s.reverse := by
  have hmask : s.d ^^^ s.c ^^^ s.b ^^^ key = s.b ^^^ s.c ^^^ s.d ^^^ key := by
    rw [UInt32.xor_comm s.d s.c, UInt32.xor_comm (s.c ^^^ s.d) s.b, UInt32.xor_assoc s.b s.c s.d]
  simp only [step, State.reverse, hmask, xor32_xor32_cancel]

theorem foldl_reverse (mix : UInt32 → UInt32) (keys : List UInt32) (s : State) :
    keys.reverse.foldl (step mix) (keys.foldl (step mix) s).reverse = s.reverse := by
  induction keys generalizing s with
  | nil => rfl
  | cons key keys ih =>
      rw [List.foldl_cons, List.reverse_cons, List.foldl_append, ih]
      exact step_reverse_step mix s key

theorem crypt_bytes32 (keys : List UInt32) (a b c d : UInt32) :
    crypt keys (bytes32 a ++ (bytes32 b ++ (bytes32 c ++ bytes32 d)))
      = bytes32 (keys.foldl (step mixData) ⟨a, b, c, d⟩).d
        ++ (bytes32 (keys.foldl (step mixData) ⟨a, b, c, d⟩).c
          ++ (bytes32 (keys.foldl (step mixData) ⟨a, b, c, d⟩).b
            ++ bytes32 (keys.foldl (step mixData) ⟨a, b, c, d⟩).a)) := by
  simp [crypt]

theorem length_crypt (keys : List UInt32) {block : Bytes} (hblock : block.length = 16) :
    (crypt keys block).length = 16 := by
  obtain ⟨a, b, c, d, rfl⟩ := exists_eq_four_words32 hblock
  simp [crypt_bytes32]

theorem crypt_reverse_crypt (keys : List UInt32) {block : Bytes} (hblock : block.length = 16) :
    crypt keys.reverse (crypt keys block) = block := by
  obtain ⟨a, b, c, d, rfl⟩ := exists_eq_four_words32 hblock
  have hreverse := foldl_reverse mixData keys ⟨a, b, c, d⟩
  simp only [State.reverse] at hreverse
  rw [crypt_bytes32, crypt_bytes32, hreverse]

end Sm4

theorem sm4_lawful (key : Bytes) : (sm4 key).Lawful where
  blockLength_pos := show 0 < 16 by decide
  blockLength_le := show 16 ≤ 16 by decide
  length_encrypt _ := Sm4.length_crypt _
  length_decrypt _ := Sm4.length_crypt _
  decrypt_encrypt _ := Sm4.crypt_reverse_crypt _

end RecordProtection
