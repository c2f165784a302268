import RecordProtection.Block.Kuznyechik
import RecordProtection.Proofs.Block.Lawful
import RecordProtection.Proofs.Block.Tables

/-!
# Kuznyechik decryption undoes encryption

The last coefficient of the feedback register is one, so the byte that left the register is the
feedback of the block that it left.
-/

namespace RecordProtection

namespace Kuznyechik

/-! ### Substitution -/

@[simp]
theorem length_substitute (block : Bytes) : (substitute block).length = block.length := by
  simp [substitute]

@[simp]
theorem length_unsubstitute (block : Bytes) : (unsubstitute block).length = block.length := by
  simp [unsubstitute]

theorem tablesInvert_substitution :
    tablesInvert inverseSubstitution Streebog.substitution = true := by
  decide +kernel

theorem unsubstitute_substitute (block : Bytes) : unsubstitute (substitute block) = block := by
  simp only [unsubstitute, substitute, List.map_map, Function.comp_def,
    getD_getD_of_tablesInvert tablesInvert_substitution, List.map_id']

/-! ### The feedback register -/

theorem multiply_one (byte : UInt8) : multiply 1 byte = byte :=
  forall_byte (p := fun byte => multiply 1 byte = byte) (by decide +kernel) byte

theorem getD_multiples_one (byte : UInt8) :
    ((Array.range 256).map fun byte => multiply 1 (UInt8.ofNat byte)).getD byte.toNat 0
      = byte := by
  have hbyte : byte.toNat < 256 := byte.toNat_lt
  simp [hbyte, multiply_one]

/-- The last byte of a block is added to the feedback of the others as it is. -/
theorem feedback_concat {front : Bytes} (hfront : front.length = 15) (last : UInt8) :
    feedback (front ++ [last]) = feedback front ^^^ last := by
  have hmultiples : multiples = multiples.take 15
      ++ [(Array.range 256).map fun byte => multiply 1 (UInt8.ofNat byte)] := rfl
  have hlength : (multiples.take 15).length = front.length := hfront.symm
  have hfeedback : feedback front = (List.zipWith (fun table byte => table.getD byte.toNat 0)
      (multiples.take 15) front).foldl (· ^^^ ·) 0 := by
    rw [feedback, hmultiples, ← List.append_nil front, List.zipWith_append hlength]
    simp only [List.zipWith_nil_right, List.append_nil]
    rfl
  rw [hfeedback, feedback, hmultiples, List.zipWith_append hlength, List.foldl_append]
  simp only [List.zipWith_cons_cons, List.zipWith_nil_right, List.foldl_cons, List.foldl_nil,
    getD_multiples_one]
  rfl

theorem length_shiftIn {block : Bytes} (hblock : block.length = 16) :
    (shiftIn block).length = 16 := by
  rw [shiftIn, List.length_cons, List.length_take, hblock]
  rfl

theorem length_shiftOut {block : Bytes} (hblock : block.length = 16) :
    (shiftOut block).length = 16 := by
  cases block with
  | nil => cases hblock
  | cons byte rest => simpa [shiftOut] using hblock

theorem shiftOut_shiftIn {block : Bytes} (hblock : block.length = 16) :
    shiftOut (shiftIn block) = block := by
  have hfront : (block.take 15).length = 15 := by
    rw [List.length_take, hblock]
    rfl
  obtain ⟨last, hlast⟩ : ∃ last, block.drop 15 = [last] :=
    List.length_eq_one_iff.mp (by rw [List.length_drop, hblock])
  have hsplit : block = block.take 15 ++ [last] := by
    rw [← hlast, List.take_append_drop]
  have hfeedback : feedback block = feedback (block.take 15) ^^^ last := by
    rw [← feedback_concat hfront, ← hsplit]
  rw [shiftIn, shiftOut, feedback_concat hfront, hfeedback, xor8_self_left, ← hsplit]

/-! ### The linear layer -/

theorem length_repeat {f : Bytes → Bytes}
    (hf : ∀ block, block.length = 16 → (f block).length = 16) (count : Nat) {block : Bytes}
    (hblock : block.length = 16) : (Nat.repeat f count block).length = 16 := by
  induction count with
  | zero => exact hblock
  | succ count ih => exact hf _ ih

theorem repeat_succ_start {α : Type} (f : α → α) (count : Nat) (a : α) :
    Nat.repeat f (count + 1) a = Nat.repeat f count (f a) := by
  induction count with
  | zero => rfl
  | succ count ih => exact congrArg f ih

theorem repeat_shiftOut_shiftIn (count : Nat) {block : Bytes} (hblock : block.length = 16) :
    Nat.repeat shiftOut count (Nat.repeat shiftIn count block) = block := by
  induction count with
  | zero => rfl
  | succ count ih =>
      have hshifted := length_repeat (fun _ => length_shiftIn) count hblock
      rw [repeat_succ_start, Nat.repeat, shiftOut_shiftIn hshifted, ih]

theorem length_linear {block : Bytes} (hblock : block.length = 16) :
    (linear block).length = 16 :=
  length_repeat (fun _ => length_shiftIn) 16 hblock

theorem length_unlinear {block : Bytes} (hblock : block.length = 16) :
    (unlinear block).length = 16 :=
  length_repeat (fun _ => length_shiftOut) 16 hblock

theorem unlinear_linear {block : Bytes} (hblock : block.length = 16) :
    unlinear (linear block) = block :=
  repeat_shiftOut_shiftIn 16 hblock

/-! ### Rounds -/

theorem length_round {key block : Bytes} (hkey : key.length = 16) (hblock : block.length = 16) :
    (round key block).length = 16 :=
  length_linear (by simp [hkey, hblock])

theorem decryptBlock_singleton (last block : Bytes) :
    decryptBlock [last] block = Bytes.xor block last := rfl

theorem decryptBlock_cons (key : Bytes) {keys : List Bytes} (hne : keys = [] → False)
    (block : Bytes) : decryptBlock (key :: keys) block
      = Bytes.xor (unsubstitute (unlinear (decryptBlock keys block))) key := by
  cases keys with
  | nil => exact (hne rfl).elim
  | cons next keys => rfl

section Blocks

variable {keys : List Bytes} (hkeys : ∀ key ∈ keys, key.length = 16) {block : Bytes}
  (hblock : block.length = 16)
include hkeys hblock

theorem length_encryptBlock : (encryptBlock keys block).length = 16 := by
  fun_induction encryptBlock keys block with
  | case1 block => exact hblock
  | case2 last block =>
      have hlast := hkeys last (by simp)
      simp [hblock, hlast]
  | case3 key keys block hne ih =>
      obtain ⟨hkey, hkeys⟩ := List.forall_mem_cons.mp hkeys
      exact ih hkeys (length_round hkey hblock)

theorem length_decryptBlock : (decryptBlock keys block).length = 16 := by
  fun_induction decryptBlock keys block with
  | case1 => exact hblock
  | case2 last =>
      have hlast := hkeys last (by simp)
      simp [hblock, hlast]
  | case3 key keys block hne ih =>
      obtain ⟨hkey, hkeys⟩ := List.forall_mem_cons.mp hkeys
      simp [length_unlinear (ih hkeys hblock), hkey]

theorem decryptBlock_encryptBlock : decryptBlock keys (encryptBlock keys block) = block := by
  fun_induction encryptBlock keys block with
  | case1 block => rfl
  | case2 last block =>
      have hlast := hkeys last (by simp)
      rw [decryptBlock_singleton, Bytes.xor_xor_cancel (Nat.le_of_eq (hblock.trans hlast.symm))]
  | case3 key keys block hne ih =>
      obtain ⟨hkey, hkeys⟩ := List.forall_mem_cons.mp hkeys
      have hmasked : (substitute (Bytes.xor block key)).length = 16 := by
        simp [hblock, hkey]
      rw [decryptBlock_cons key hne, ih hkeys (length_round hkey hblock), round,
        unlinear_linear hmasked, unsubstitute_substitute,
        Bytes.xor_xor_cancel (Nat.le_of_eq (hblock.trans hkey.symm))]

end Blocks

/-! ### Round keys -/

theorem length_keyConstant {i : Nat} (hi : i < 33) : (keyConstants.getD i []).length = 16 := by
  have hconstant := length_linear (Bytes.length_ofNatBE 16 i)
  simpa [keyConstants, hi] using hconstant

theorem length_keyRound {halves : Bytes × Bytes} (hleft : halves.1.length = 16)
    (hright : halves.2.length = 16) {i : Nat} (hi : i < 33) :
    (keyRound halves i).1.length = 16 ∧ (keyRound halves i).2.length = 16 := by
  have hround := length_round (length_keyConstant hi) hleft
  refine ⟨?_, hleft⟩
  rw [keyRound, Bytes.length_xor, hround, hright]
  rfl

theorem length_foldl_keyRound {halves : Bytes × Bytes} (hleft : halves.1.length = 16)
    (hright : halves.2.length = 16) {start : Nat} (steps : List Nat)
    (hsteps : ∀ i ∈ steps, start + i < 33) :
    (steps.foldl (fun halves i => keyRound halves (start + i)) halves).1.length = 16
      ∧ (steps.foldl (fun halves i => keyRound halves (start + i)) halves).2.length = 16 := by
  induction steps generalizing halves with
  | nil => exact ⟨hleft, hright⟩
  | cons i steps ih =>
      obtain ⟨hi, hsteps⟩ := List.forall_mem_cons.mp hsteps
      obtain ⟨hleft, hright⟩ := length_keyRound hleft hright hi
      exact ih hleft hright hsteps

theorem length_of_mem_roundKeysFrom (steps : Nat) {start : Nat} {halves : Bytes × Bytes}
    (hbound : start + 8 * steps ≤ 33) (hleft : halves.1.length = 16)
    (hright : halves.2.length = 16) :
    ∀ key ∈ roundKeysFrom steps start halves, key.length = 16 := by
  induction steps generalizing start halves with
  | zero => simp [roundKeysFrom, hleft, hright]
  | succ steps ih =>
      have hsteps : ∀ i ∈ List.range 8, start + i < 33 := by
        intro i hi
        have hlt := List.mem_range.mp hi
        omega
      have hlater : start + 8 + 8 * steps ≤ 33 := by
        omega
      have hrounds := length_foldl_keyRound hleft hright (List.range 8) hsteps
      have hrest := ih hlater hrounds.1 hrounds.2
      simp only [roundKeysFrom, List.forall_mem_cons]
      exact ⟨hleft, hright, hrest⟩

theorem length_of_mem_roundKeys {key : Bytes} (hkey : key.length = 32) :
    ∀ roundKey ∈ roundKeys key, roundKey.length = 16 :=
  length_of_mem_roundKeysFrom 4 (by decide) (by rw [List.length_take, hkey]; rfl)
    (by rw [List.length_drop, hkey])

end Kuznyechik

theorem kuznyechik_lawful {key : Bytes} (hkey : key.length = 32) : (kuznyechik key).Lawful := by
  have hkeys := Kuznyechik.length_of_mem_roundKeys hkey
  unfold kuznyechik
  generalize Kuznyechik.roundKeys key = keys at hkeys
  exact {
    blockLength_pos := show 0 < 16 by decide
    blockLength_le := show 16 ≤ 16 by decide
    length_encrypt := fun _ => Kuznyechik.length_encryptBlock hkeys
    length_decrypt := fun _ => Kuznyechik.length_decryptBlock hkeys
    decrypt_encrypt := fun _ => Kuznyechik.decryptBlock_encryptBlock hkeys }

end RecordProtection
