import RecordProtection.Block.Aria
import RecordProtection.Proofs.Block.Aes

/-!
# ARIA decryption undoes encryption

The two substitutions are inverse to each other, and the diffusion is linear and its own inverse.
So the rounds are undone by the same network under the keys from back to front, the inner ones
diffused.
-/

namespace RecordProtection

namespace Aria

/-! ### Sums of the bytes at given places -/

def sumAt (block : Bytes) (places : List Nat) : UInt8 :=
  places.foldr (fun place sum => block.getD place 0 ^^^ sum) 0

theorem sumAt_append (block : Bytes) (first second : List Nat) :
    sumAt block (first ++ second) = sumAt block first ^^^ sumAt block second := by
  induction first with
  | nil => simp [sumAt]
  | cons place first ih =>
      simp only [sumAt, List.cons_append, List.foldr_cons] at ih ⊢
      rw [ih, UInt8.xor_assoc]

/-- Adds a place to a set of places, or takes it out again. -/
def toggle (place : Nat) (places : List Nat) : List Nat :=
  if place ∈ places then places.erase place else place :: places

theorem sumAt_toggle (block : Bytes) (place : Nat) (places : List Nat) :
    sumAt block (toggle place places) = block.getD place 0 ^^^ sumAt block places := by
  unfold toggle
  split
  · rename_i hmem
    induction places with
    | nil => cases hmem
    | cons first places ih =>
        by_cases hfirst : first = place
        · subst hfirst
          simp [sumAt]
        · have hrest : place ∈ places := by
            rcases List.mem_cons.mp hmem with rfl | hrest
            · exact absurd rfl hfirst
            · exact hrest
          have herase : (first :: places).erase place = first :: places.erase place :=
            List.erase_cons_tail (by simpa using hfirst)
          have htail := ih hrest
          simp only [sumAt, herase, List.foldr_cons] at htail ⊢
          rw [htail, xor8_left_comm]
  · rfl

/-- Places that occur twice cancel out. -/
theorem sumAt_foldr_toggle (block : Bytes) (places : List Nat) :
    sumAt block (places.foldr toggle []) = sumAt block places := by
  induction places with
  | nil => rfl
  | cons place places ih =>
      rw [List.foldr_cons, sumAt_toggle, ih]
      rfl

theorem getD_xor {left right : Bytes} (hlength : left.length = right.length) (place : Nat) :
    (Bytes.xor left right).getD place 0 = left.getD place 0 ^^^ right.getD place 0 := by
  simp only [List.getD_eq_getElem?_getD, Bytes.xor, List.getElem?_zipWith]
  by_cases hplace : place < left.length
  · rw [List.getElem?_eq_getElem hplace, List.getElem?_eq_getElem (hlength ▸ hplace)]
    rfl
  · rw [List.getElem?_eq_none (Nat.not_lt.mp hplace),
      List.getElem?_eq_none (hlength ▸ Nat.not_lt.mp hplace)]
    rfl

theorem sumAt_xor {left right : Bytes} (hlength : left.length = right.length)
    (places : List Nat) :
    sumAt (Bytes.xor left right) places = sumAt left places ^^^ sumAt right places := by
  induction places with
  | nil => simp [sumAt]
  | cons place places ih =>
      simp only [sumAt, List.foldr_cons] at ih ⊢
      rw [ih, getD_xor hlength]
      simp only [UInt8.xor_assoc, xor8_left_comm]

/-! ### Diffusion -/

/-- The places whose bytes are added up for each byte of a diffused block. -/
def diffusionRows : List (List Nat) := [
    [3, 4, 6, 8, 9, 13, 14], [2, 5, 7, 8, 9, 12, 15], [1, 4, 6, 10, 11, 12, 15],
    [0, 5, 7, 10, 11, 13, 14], [0, 2, 5, 8, 11, 14, 15], [1, 3, 4, 9, 10, 14, 15],
    [0, 2, 7, 9, 10, 12, 13], [1, 3, 6, 8, 11, 12, 13], [0, 1, 4, 7, 10, 13, 15],
    [0, 1, 5, 6, 11, 12, 14], [2, 3, 5, 6, 8, 13, 15], [2, 3, 4, 7, 9, 12, 14],
    [1, 2, 6, 7, 9, 11, 12], [0, 3, 6, 7, 8, 10, 13], [0, 3, 4, 5, 9, 11, 14],
    [1, 2, 4, 5, 8, 10, 15]]

theorem diffuse_eq {block : Bytes} (hblock : block.length = 16) :
    diffuse block = diffusionRows.map (sumAt block) := by
  obtain ⟨_, _, _, _, _, _, _, _, _, _, _, _, _, _, _, _, rfl⟩ := exists_eq_sixteen_bytes hblock
  simp [diffuse, diffusionRows, sumAt, UInt8.xor_assoc]

theorem length_diffuse {block : Bytes} (hblock : block.length = 16) :
    (diffuse block).length = 16 := by
  rw [diffuse_eq hblock, List.length_map]
  rfl

theorem diffuse_xor {left right : Bytes} (hleft : left.length = 16) (hright : right.length = 16) :
    diffuse (Bytes.xor left right) = Bytes.xor (diffuse left) (diffuse right) := by
  have hrows : Bytes.xor (diffusionRows.map (sumAt left)) (diffusionRows.map (sumAt right))
      = diffusionRows.map fun places => sumAt left places ^^^ sumAt right places := by
    rw [Bytes.xor, List.zipWith_map, List.zipWith_self]
  rw [diffuse_eq (by simp [hleft, hright]), diffuse_eq hleft, diffuse_eq hright, hrows]
  exact List.map_congr_left fun places _ => sumAt_xor (hleft.trans hright.symm) places

/-- A sum of sums adds up the places of all of them. -/
theorem sumAt_map_sumAt (block : Bytes) (rows : List (List Nat)) (places : List Nat) :
    sumAt (rows.map (sumAt block)) places
      = sumAt block (places.flatMap fun place => rows.getD place []) := by
  induction places with
  | nil => rfl
  | cons place places ih =>
      have hplace : (rows.map (sumAt block)).getD place 0 = sumAt block (rows.getD place []) := by
        by_cases hbound : place < rows.length
        · simp [hbound]
        · simp [Nat.not_lt.mp hbound, sumAt]
      rw [List.flatMap_cons, sumAt_append, ← ih, ← hplace]
      rfl

/-- In two diffusions every place but one is met an even number of times. -/
theorem toggled_diffusionRows :
    (diffusionRows.map fun places =>
        (places.flatMap fun place => diffusionRows.getD place []).foldr toggle [])
      = (List.range 16).map fun place => [place] := by
  decide +kernel

theorem diffuse_diffuse {block : Bytes} (hblock : block.length = 16) :
    diffuse (diffuse block) = block := by
  have hsum (places : List Nat) : sumAt (diffusionRows.map (sumAt block)) places
      = sumAt block
        ((places.flatMap fun place => diffusionRows.getD place []).foldr toggle []) := by
    rw [sumAt_map_sumAt, sumAt_foldr_toggle]
  have hrows := congrArg (List.map (sumAt block)) toggled_diffusionRows
  rw [List.map_map, List.map_map] at hrows
  rw [diffuse_eq (length_diffuse hblock), diffuse_eq hblock, List.map_congr_left fun p _ => hsum p]
  refine Eq.trans hrows ?_
  apply List.ext_getElem
  · simp [hblock]
  · intro i _ hi
    simp [sumAt, hi]

/-! ### Substitution -/

theorem tablesInvert_substitution :
    tablesInvert inverseSubstitution substitution = true := by
  decide +kernel

theorem tablesInvert_inverseSubstitution :
    tablesInvert substitution inverseSubstitution = true := by
  decide +kernel

theorem tablesInvert_aes : tablesInvert Aes.substitution Aes.inverseSubstitution = true := by
  decide +kernel

def substitute (odd : Bool) (block : Bytes) : Bytes :=
  if odd then substituteOdd block else substituteEven block

theorem length_substitute (odd : Bool) {block : Bytes} (hblock : block.length = 16) :
    (substitute odd block).length = 16 := by
  obtain ⟨_, _, _, _, _, _, _, _, _, _, _, _, _, _, _, _, rfl⟩ := exists_eq_sixteen_bytes hblock
  cases odd <;> rfl

theorem substitute_not_substitute (odd : Bool) {block : Bytes} (hblock : block.length = 16) :
    substitute (!odd) (substitute odd block) = block := by
  obtain ⟨_, _, _, _, _, _, _, _, _, _, _, _, _, _, _, _, rfl⟩ := exists_eq_sixteen_bytes hblock
  cases odd with
  | false =>
      simp only [substitute, Bool.not_false, Bool.false_eq_true, if_true, if_false, substituteOdd,
        substituteEven, getD_getD_of_tablesInvert tablesInvert_aes,
        getD_getD_of_tablesInvert tablesInvert_inverseSubstitution, Aes.inverse_substitution,
        getD_getD_of_tablesInvert tablesInvert_substitution]
  | true =>
      simp only [substitute, Bool.not_true, Bool.false_eq_true, if_true, if_false, substituteOdd,
        substituteEven, getD_getD_of_tablesInvert tablesInvert_aes,
        getD_getD_of_tablesInvert tablesInvert_inverseSubstitution, Aes.inverse_substitution,
        getD_getD_of_tablesInvert tablesInvert_substitution]

/-! ### The network in front of its last key -/

/-- Rounds of alternating parity, of which the last one does not diffuse. -/
def network : (odd : Bool) → List Bytes → Bytes → Bytes
  | _, [], block => block
  | odd, [last], block => substitute odd (Bytes.xor block last)
  | odd, key :: keys, block =>
      network (!odd) keys (diffuse (substitute odd (Bytes.xor block key)))

/-- The last key is added behind an even number of rounds. -/
theorem crypt_concat {keys : List Bytes} {pairs : Nat} (hlength : keys.length = 2 * pairs + 2)
    (last block : Bytes) :
    crypt (keys ++ [last]) block = Bytes.xor (network true keys block) last := by
  induction pairs generalizing keys block with
  | zero =>
      match keys, hlength with
      | [first, second], _ => rfl
  | succ pairs ih =>
      match keys, hlength with
      | first :: second :: third :: fourth :: rest, hlength =>
          have hshorter : (third :: fourth :: rest).length = 2 * pairs + 2 := by
            simp only [List.length_cons] at hlength ⊢
            omega
          exact ih hshorter _

def parity (count : Nat) (odd : Bool) : Bool := if count % 2 = 0 then odd else !odd

theorem parity_succ (count : Nat) (odd : Bool) : parity (count + 1) odd = !parity count odd := by
  unfold parity
  by_cases heven : count % 2 = 0
  · rw [if_neg (by omega), if_pos heven]
  · rw [if_pos (by omega), if_neg heven, Bool.not_not]

theorem parity_not (count : Nat) (odd : Bool) : parity count (!odd) = !parity count odd := by
  unfold parity
  split <;> rfl

theorem parity_parity (count : Nat) (odd : Bool) : parity count (parity count odd) = odd := by
  unfold parity
  split
  · rfl
  · rw [Bool.not_not]

theorem network_cons (odd : Bool) (key : Bytes) {keys : List Bytes} (hne : keys ≠ [])
    (block : Bytes) : network odd (key :: keys) block
      = network (!odd) keys (diffuse (substitute odd (Bytes.xor block key))) := by
  cases keys with
  | nil => exact absurd rfl hne
  | cons next keys => rfl

theorem network_concat (odd : Bool) {keys : List Bytes} (hne : keys ≠ []) (key block : Bytes) :
    network odd (keys ++ [key]) block
      = substitute (parity keys.length odd) (Bytes.xor (diffuse (network odd keys block)) key) := by
  induction keys generalizing odd block with
  | nil => exact absurd rfl hne
  | cons first keys ih =>
      rw [List.cons_append, network_cons odd first (by simp)]
      cases keys with
      | nil => rfl
      | cons second keys =>
          rw [ih (!odd) (by simp), network_cons odd first (by simp), List.length_cons (a := first),
            parity_succ, parity_not]

section Lengths

variable {keys : List Bytes} (hkeys : ∀ key ∈ keys, key.length = 16) {block : Bytes}
  (hblock : block.length = 16)
include hkeys hblock

theorem length_network (odd : Bool) : (network odd keys block).length = 16 := by
  induction keys generalizing odd block with
  | nil => exact hblock
  | cons key keys ih =>
      obtain ⟨hkey, hkeys⟩ := List.forall_mem_cons.mp hkeys
      have hsubstituted : (substitute odd (Bytes.xor block key)).length = 16 :=
        length_substitute odd (by simp [hblock, hkey])
      cases keys with
      | nil => exact hsubstituted
      | cons next keys => exact ih hkeys (length_diffuse hsubstituted) (!odd)

end Lengths

/-- The network under the diffused keys from back to front leaves the first key added. -/
theorem network_reverse {first : Bytes} {keys : List Bytes} {last block : Bytes}
    (hfirst : first.length = 16) (hkeys : ∀ key ∈ keys, key.length = 16) (hlast : last.length = 16)
    (hblock : block.length = 16) (odd : Bool) :
    network (!parity keys.length odd) (last :: keys.reverse.map diffuse)
        (Bytes.xor (network odd (first :: keys) block) last)
      = Bytes.xor block first := by
  induction keys generalizing first block odd with
  | nil =>
      have hmasked : (Bytes.xor block first).length = 16 := by simp [hblock, hfirst]
      have hnetwork : (substitute odd (Bytes.xor block first)).length = last.length :=
        (length_substitute odd hmasked).trans hlast.symm
      simp only [network, List.reverse_nil, List.map_nil]
      rw [Bytes.xor_xor_cancel (Nat.le_of_eq hnetwork)]
      exact substitute_not_substitute odd hmasked
  | cons second keys ih =>
      obtain ⟨hsecond, hkeys⟩ := List.forall_mem_cons.mp hkeys
      have hmasked : (Bytes.xor block first).length = 16 := by simp [hblock, hfirst]
      have hsubstituted := length_substitute odd hmasked
      have hdiffused := length_diffuse hsubstituted
      have hparity : parity (keys.length + 1) (!parity (keys.length + 1) odd) = !odd := by
        rw [parity_not, parity_parity]
      have hrest := ih hsecond hkeys hdiffused (!odd)
      rw [parity_not, ← parity_succ] at hrest
      have hcancel : Bytes.xor (diffuse (Bytes.xor (diffuse (substitute odd
          (Bytes.xor block first))) second)) (diffuse second)
          = substitute odd (Bytes.xor block first) := by
        rw [diffuse_xor hdiffused hsecond, Bytes.xor_xor_cancel (Nat.le_of_eq
          ((length_diffuse hdiffused).trans (length_diffuse hsecond).symm)),
          diffuse_diffuse hsubstituted]
      rw [network_cons odd first (by simp), List.reverse_cons, List.map_append, List.map_singleton,
        ← List.cons_append, network_concat _ (by simp), List.length_cons (a := second), hrest,
        hcancel, List.length_cons, List.length_map, List.length_reverse, hparity,
        substitute_not_substitute odd hmasked]

/-! ### Blocks -/

theorem inverseKeys_concat (first : Bytes) (keys : List Bytes) (last : Bytes) :
    inverseKeys (first :: keys ++ [last]) = last :: keys.reverse.map diffuse ++ [first] := by
  simp [inverseKeys]

/-- Round keys of a block each, with an even number of rounds before the last key. -/
structure Scheduled (keys : List Bytes) : Prop where
  length_key : ∀ key ∈ keys, key.length = 16
  length_keys : ∃ pairs, keys.length = 2 * pairs + 3

theorem Scheduled.exists_eq {keys : List Bytes} (hkeys : Scheduled keys) :
    ∃ first middle last pairs, keys = first :: middle ++ [last]
      ∧ (first :: middle).length = 2 * pairs + 2 := by
  obtain ⟨pairs, hlength⟩ := hkeys.length_keys
  cases keys with
  | nil => cases hlength
  | cons first rest =>
      have hne : rest ≠ [] := by
        rintro rfl
        simp at hlength
      refine ⟨first, rest.dropLast, rest.getLast hne, pairs, ?_, ?_⟩
      · rw [List.cons_append, List.dropLast_concat_getLast]
      · rw [List.length_cons, List.length_dropLast]
        rw [List.length_cons] at hlength
        omega

theorem crypt_inverseKeys_crypt {keys : List Bytes} (hkeys : Scheduled keys) {block : Bytes}
    (hblock : block.length = 16) : crypt (inverseKeys keys) (crypt keys block) = block := by
  obtain ⟨first, middle, last, pairs, rfl, hlength⟩ := hkeys.exists_eq
  have hfirst : first.length = 16 := hkeys.length_key first (by simp)
  have hlast : last.length = 16 := hkeys.length_key last (by simp)
  have hmiddle : ∀ key ∈ middle, key.length = 16 := fun key hkey =>
    hkeys.length_key key (by simp [hkey])
  have hparity : (!parity middle.length true) = true := by
    rw [List.length_cons] at hlength
    unfold parity
    rw [if_neg (by omega)]
    rfl
  have hreverse := network_reverse hfirst hmiddle hlast hblock true
  rw [hparity] at hreverse
  rw [inverseKeys_concat, crypt_concat hlength, @crypt_concat _ pairs
    (by simpa using hlength), hreverse,
    Bytes.xor_xor_cancel (Nat.le_of_eq (hblock.trans hfirst.symm))]

theorem length_crypt {keys : List Bytes} (hkeys : Scheduled keys) {block : Bytes}
    (hblock : block.length = 16) : (crypt keys block).length = 16 := by
  obtain ⟨first, middle, last, pairs, rfl, hlength⟩ := hkeys.exists_eq
  have hlast : last.length = 16 := hkeys.length_key last (by simp)
  have hfront : ∀ key ∈ first :: middle, key.length = 16 := fun key hkey =>
    hkeys.length_key key (List.mem_append_left _ hkey)
  have hnetwork := length_network hfront hblock true
  rw [crypt_concat hlength, Bytes.length_xor, hnetwork, hlast]
  rfl

theorem Scheduled.inverseKeys {keys : List Bytes} (hkeys : Scheduled keys) :
    Scheduled (inverseKeys keys) := by
  obtain ⟨first, middle, last, pairs, rfl, hlength⟩ := hkeys.exists_eq
  rw [inverseKeys_concat]
  refine ⟨?_, pairs, ?_⟩
  · intro key hkey
    simp only [List.cons_append, List.mem_cons, List.mem_append, List.mem_map, List.mem_reverse,
      List.not_mem_nil, or_false] at hkey
    rcases hkey with rfl | ⟨other, hother, rfl⟩ | rfl
    · exact hkeys.length_key key (by simp)
    · exact length_diffuse (hkeys.length_key other (by simp [hother]))
    · exact hkeys.length_key key (by simp)
  · simp only [List.cons_append, List.length_cons, List.length_append, List.length_map,
      List.length_reverse, List.length_nil] at hlength ⊢
    omega

/-! ### Round keys -/

theorem length_oddRound {key block : Bytes} (hkey : key.length = 16) (hblock : block.length = 16) :
    (oddRound key block).length = 16 :=
  length_diffuse (length_substitute true (by simp [hkey, hblock]))

theorem length_evenRound {key block : Bytes} (hkey : key.length = 16)
    (hblock : block.length = 16) : (evenRound key block).length = 16 :=
  length_diffuse (length_substitute false (by simp [hkey, hblock]))

theorem exists_keyConstants {key : Bytes} (hkey : key.length ∈ [16, 24, 32]) :
    ∃ c₁ c₂ c₃, keyConstants key.length = [c₁, c₂, c₃]
      ∧ c₁.length = 16 ∧ c₂.length = 16 ∧ c₃.length = 16 := by
  simp only [List.mem_cons, List.not_mem_nil, or_false] at hkey
  rcases hkey with hkey | hkey | hkey <;> rw [hkey] <;> exact ⟨_, _, _, rfl, rfl, rfl, rfl⟩

theorem exists_mixKey {key : Bytes} (hkey : key.length ∈ [16, 24, 32]) :
    ∃ w₀ w₁ w₂ w₃, mixKey key = [w₀, w₁, w₂, w₃]
      ∧ w₀.length = 16 ∧ w₁.length = 16 ∧ w₂.length = 16 ∧ w₃.length = 16 := by
  obtain ⟨c₁, c₂, c₃, hconstants, h₁, h₂, h₃⟩ := exists_keyConstants hkey
  simp only [List.mem_cons, List.not_mem_nil, or_false] at hkey
  have hleft : (key.take 16).length = 16 := by
    rw [List.length_take]
    omega
  have hright : (key.drop 16 ++ Bytes.zeros (32 - key.length)).length = 16 := by
    rw [List.length_append, List.length_drop, Bytes.length_zeros]
    omega
  obtain ⟨w₁, hw₁⟩ : ∃ w, w = Bytes.xor (oddRound c₁ (key.take 16))
      (key.drop 16 ++ Bytes.zeros (32 - key.length)) := ⟨_, rfl⟩
  obtain ⟨w₂, hw₂⟩ : ∃ w, w = Bytes.xor (evenRound c₂ w₁) (key.take 16) := ⟨_, rfl⟩
  obtain ⟨w₃, hw₃⟩ : ∃ w, w = Bytes.xor (oddRound c₃ w₂) w₁ := ⟨_, rfl⟩
  have hlength₁ : w₁.length = 16 := by
    rw [hw₁, Bytes.length_xor, length_oddRound h₁ hleft, hright]
    rfl
  have hlength₂ : w₂.length = 16 := by
    rw [hw₂, Bytes.length_xor, length_evenRound h₂ hlength₁, hleft]
    rfl
  have hlength₃ : w₃.length = 16 := by
    rw [hw₃, Bytes.length_xor, length_oddRound h₃ hlength₂, hlength₁]
    rfl
  exact ⟨key.take 16, w₁, w₂, w₃, by simp only [mixKey, hconstants, hw₁, hw₂, hw₃], hleft,
    hlength₁, hlength₂, hlength₃⟩

theorem roundKeys_scheduled {key : Bytes} (hkey : key.length ∈ [16, 24, 32]) :
    Scheduled (roundKeys key) := by
  obtain ⟨w₀, w₁, w₂, w₃, hmix, h₀, h₁, h₂, h₃⟩ := exists_mixKey hkey
  have hrotate (bits : Nat) (block : Bytes) : (rotate bits block).length = 16 :=
    Bytes.length_ofNatBE 16 _
  simp only [List.mem_cons, List.not_mem_nil, or_false] at hkey
  refine ⟨?_, key.length / 8 + 3, ?_⟩
  · intro roundKey hroundKey
    simp only [roundKeys, hmix] at hroundKey
    obtain ⟨bits, -, hbits⟩ := List.mem_flatMap.mp (List.mem_of_mem_take hroundKey)
    simp only [List.mem_cons, List.not_mem_nil, or_false] at hbits
    rcases hbits with rfl | rfl | rfl | rfl <;> simp [hrotate, h₀, h₁, h₂, h₃]
  · simp only [roundKeys, hmix, List.length_take, List.length_flatMap, List.length_cons,
      List.length_nil, List.map_cons, List.map_nil, List.sum_cons, List.sum_nil]
    omega

end Aria

theorem aria_lawful {key : Bytes} (hkey : key.length ∈ [16, 24, 32]) : (aria key).Lawful := by
  have hkeys := Aria.roundKeys_scheduled hkey
  unfold aria
  generalize Aria.roundKeys key = keys at hkeys
  exact {
    blockLength_pos := show 0 < 16 by decide
    blockLength_le := show 16 ≤ 16 by decide
    length_encrypt := fun _ => Aria.length_crypt hkeys
    length_decrypt := fun _ => Aria.length_crypt hkeys.inverseKeys
    decrypt_encrypt := fun _ => Aria.crypt_inverseKeys_crypt hkeys }

end RecordProtection
