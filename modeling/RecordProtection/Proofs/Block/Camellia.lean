import RecordProtection.Block.Camellia
import RecordProtection.Proofs.Block.Feistel

/-!
# Camellia decryption undoes encryption

Groups of Feistel rounds alternate with a keyed linear layer.  Under the keys from back to front
every group and every layer is undone on the exchanged halves.
-/

namespace RecordProtection

namespace Camellia

/-! ### Groups of rounds and layers -/

theorem network_reverse_swap (keys : List UInt64) (halves : UInt64 × UInt64) :
    network keys.reverse (network keys halves).swap = halves.swap := by
  have hreverse := feistel_reverse_swap roundFunction xor64_xor64_cancel keys halves.swap
  simp only [network, Prod.swap_swap, hreverse]

theorem unlinear_linear (key half : UInt64) : unlinear key (linear key half) = half := by
  simp only [linear, unlinear, high_word64, low_word64, xor32_xor32_cancel, word64_halves]

theorem linear_unlinear (key half : UInt64) : linear key (unlinear key half) = half := by
  simp only [linear, unlinear, high_word64, low_word64, xor32_xor32_cancel, word64_halves]

def layer (keys : UInt64 × UInt64) (halves : UInt64 × UInt64) : UInt64 × UInt64 :=
  (linear keys.1 halves.1, unlinear keys.2 halves.2)

theorem layer_swap (keys halves : UInt64 × UInt64) :
    layer keys.swap (layer keys halves).swap = halves.swap := by
  simp only [layer, Prod.fst_swap, Prod.snd_swap, linear_unlinear, unlinear_linear]
  rfl

theorem layered_cons (group : List UInt64) (groups : List (List UInt64)) (keys : UInt64 × UInt64)
    (layers : List (UInt64 × UInt64)) (halves : UInt64 × UInt64) :
    layered (group :: groups) (keys :: layers) halves
      = layered groups layers (layer keys (network group halves)) := rfl

theorem layered_concat {groups : List (List UInt64)} {layers : List (UInt64 × UInt64)}
    (hlength : groups.length = layers.length + 1) (group : List UInt64)
    (keys halves : UInt64 × UInt64) :
    layered (groups ++ [group]) (layers ++ [keys]) halves
      = network group (layer keys (layered groups layers halves)) := by
  induction layers generalizing groups halves with
  | nil =>
      obtain ⟨first, rfl⟩ := List.length_eq_one_iff.mp hlength
      rfl
  | cons first layers ih =>
      cases groups with
      | nil => cases hlength
      | cons front groups =>
          exact ih (by simpa using hlength) _

/-- The keys from back to front lead from the exchanged halves back to the exchanged halves. -/
theorem layered_reverse {groups : List (List UInt64)} {layers : List (UInt64 × UInt64)}
    (hlength : groups.length = layers.length + 1) (halves : UInt64 × UInt64) :
    layered (groups.map List.reverse).reverse (layers.map Prod.swap).reverse
        (layered groups layers halves).swap = halves.swap := by
  induction layers generalizing groups halves with
  | nil =>
      obtain ⟨group, rfl⟩ := List.length_eq_one_iff.mp hlength
      exact network_reverse_swap group halves
  | cons keys layers ih =>
      cases groups with
      | nil => cases hlength
      | cons group groups =>
          have hrest : groups.length = layers.length + 1 := by simpa using hlength
          rw [layered_cons, List.map_cons, List.map_cons, List.reverse_cons, List.reverse_cons,
            layered_concat (by simp [hrest]), ih hrest, layer_swap, network_reverse_swap]

/-! ### Blocks -/

/-- There is a layer between any two groups. -/
def Keys.Alternate (keys : Keys) : Prop := keys.groups.length = keys.layers.length + 1

theorem expand_alternate (key : Bytes) : (expand key).Alternate := by
  unfold expand
  dsimp only
  split <;> rfl

theorem crypt_bytes64 (keys : Keys) (left right : UInt64) :
    crypt keys (bytes64 left ++ bytes64 right)
      = bytes64 ((layered keys.groups keys.layers
            (left ^^^ keys.before.1, right ^^^ keys.before.2)).2 ^^^ keys.after.1)
        ++ bytes64 ((layered keys.groups keys.layers
            (left ^^^ keys.before.1, right ^^^ keys.before.2)).1 ^^^ keys.after.2) := by
  simp [crypt]

theorem length_crypt (keys : Keys) {block : Bytes} (hblock : block.length = 16) :
    (crypt keys block).length = 16 := by
  obtain ⟨left, right, rfl⟩ := exists_eq_two_words64 hblock
  simp [crypt_bytes64]

theorem crypt_reverse_crypt {keys : Keys} (hkeys : keys.Alternate) {block : Bytes}
    (hblock : block.length = 16) : crypt keys.reverse (crypt keys block) = block := by
  obtain ⟨left, right, rfl⟩ := exists_eq_two_words64 hblock
  have hreverse := layered_reverse hkeys (left ^^^ keys.before.1, right ^^^ keys.before.2)
  have hswap : (Prod.swap : UInt64 × UInt64 → UInt64 × UInt64) = fun pair => (pair.2, pair.1) := rfl
  simp only [hswap] at hreverse
  rw [crypt_bytes64, crypt_bytes64]
  simp only [Keys.reverse, xor64_xor64_cancel]
  rw [hreverse]
  simp only [xor64_xor64_cancel]

end Camellia

theorem camellia_lawful (key : Bytes) : (camellia key).Lawful := by
  have hkeys := Camellia.expand_alternate key
  unfold camellia
  generalize Camellia.expand key = keys at hkeys
  exact {
    blockLength_pos := show 0 < 16 by decide
    blockLength_le := show 16 ≤ 16 by decide
    length_encrypt := fun _ => Camellia.length_crypt keys
    length_decrypt := fun _ => Camellia.length_crypt keys.reverse
    decrypt_encrypt := fun _ => Camellia.crypt_reverse_crypt hkeys }

end RecordProtection
