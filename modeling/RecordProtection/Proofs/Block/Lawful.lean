import RecordProtection.Block.Cipher
import RecordProtection.Proofs.Bytes

/-!
# Lawful block ciphers

A keyed block cipher maps the blocks of its length to themselves, and its decryption undoes its
encryption.  A Feistel network is undone by the network under the reversed keys, whatever its
round function.
-/

namespace RecordProtection

structure BlockCipher.Lawful (cipher : BlockCipher) : Prop where
  blockLength_pos : 0 < cipher.blockLength
  blockLength_le : cipher.blockLength ≤ 16
  length_encrypt : ∀ block, block.length = cipher.blockLength →
    (cipher.encrypt block).length = cipher.blockLength
  length_decrypt : ∀ block, block.length = cipher.blockLength →
    (cipher.decrypt block).length = cipher.blockLength
  decrypt_encrypt : ∀ block, block.length = cipher.blockLength →
    cipher.decrypt (cipher.encrypt block) = block

section Feistel

variable {α κ : Type} [XorOp α] (f : κ → α → α)

theorem feistel_append (first second : List κ) (halves : α × α) :
    feistel f (first ++ second) halves = feistel f second (feistel f first halves) := by
  induction first generalizing halves with
  | nil => rfl
  | cons key first ih =>
      obtain ⟨left, right⟩ := halves
      exact ih (right, left ^^^ f key right)

/-- The network under the reversed keys leads from the exchanged halves back to the exchanged
halves. -/
theorem feistel_reverse_swap (hxor : ∀ a b : α, a ^^^ b ^^^ b = a) (keys : List κ)
    (halves : α × α) :
    feistel f keys.reverse (feistel f keys halves).swap = halves.swap := by
  induction keys generalizing halves with
  | nil => rfl
  | cons key keys ih =>
      obtain ⟨left, right⟩ := halves
      have hfirst : feistel f (key :: keys) (left, right)
          = feistel f keys (right, left ^^^ f key right) := rfl
      rw [List.reverse_cons, feistel_append, hfirst, ih]
      simp only [Prod.swap_prod_mk, feistel, hxor]

theorem feistel_reverse (hxor : ∀ a b : α, a ^^^ b ^^^ b = a) (keys : List κ) (left right : α) :
    feistel f keys.reverse ((feistel f keys (left, right)).2, (feistel f keys (left, right)).1)
      = (right, left) :=
  feistel_reverse_swap f hxor keys (left, right)

end Feistel

end RecordProtection
