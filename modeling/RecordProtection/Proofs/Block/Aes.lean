import RecordProtection.Block.Aes
import RecordProtection.Proofs.Block.Lawful
import RecordProtection.Proofs.Block.Tables

/-!
# AES decryption undoes encryption

The steps of a round are undone one by one: the substitution by its inverse table, the rotation of
the rows by the opposite rotation, and the mixing of the columns by mixing them again after the
premixing, which follows from the linearity of doubling.
-/

namespace RecordProtection

namespace Aes

/-! ### Substitution and rows -/

@[simp]
theorem length_substitute (state : Bytes) : (substitute state).length = state.length := by
  simp [substitute]

@[simp]
theorem length_unsubstitute (state : Bytes) : (unsubstitute state).length = state.length := by
  simp [unsubstitute]

theorem tablesInvert_substitution :
    tablesInvert inverseSubstitution substitution = true := by
  decide +kernel

theorem inverse_substitution (byte : UInt8) :
    inverseSubstitution.getD (substitution.getD byte.toNat 0).toNat 0 = byte :=
  getD_getD_of_tablesInvert tablesInvert_substitution byte

theorem unsubstitute_substitute (state : Bytes) : unsubstitute (substitute state) = state := by
  simp only [unsubstitute, substitute, List.map_map, Function.comp_def, inverse_substitution,
    List.map_id']

theorem length_shiftRows {state : Bytes} (hstate : state.length = 16) :
    (shiftRows state).length = 16 := by
  obtain ⟨_, _, _, _, _, _, _, _, _, _, _, _, _, _, _, _, rfl⟩ := exists_eq_sixteen_bytes hstate
  rfl

theorem length_unshiftRows {state : Bytes} (hstate : state.length = 16) :
    (unshiftRows state).length = 16 := by
  obtain ⟨_, _, _, _, _, _, _, _, _, _, _, _, _, _, _, _, rfl⟩ := exists_eq_sixteen_bytes hstate
  rfl

theorem unshiftRows_shiftRows {state : Bytes} (hstate : state.length = 16) :
    unshiftRows (shiftRows state) = state := by
  obtain ⟨_, _, _, _, _, _, _, _, _, _, _, _, _, _, _, _, rfl⟩ := exists_eq_sixteen_bytes hstate
  rfl

/-! ### Columns -/

theorem and_top (byte : UInt8) : byte &&& 0x80 = 0 ∨ byte &&& 0x80 = 0x80 :=
  forall_byte (p := fun byte => byte &&& 0x80 = 0 ∨ byte &&& 0x80 = 0x80) (by decide +kernel) byte

theorem xor_and_top (a b : UInt8) : (a ^^^ b) &&& 0x80 = (a &&& 0x80) ^^^ (b &&& 0x80) := by
  apply UInt8.toBitVec_inj.mp
  apply BitVec.eq_of_getLsbD_eq
  intro i _
  simp only [UInt8.toBitVec_and, UInt8.toBitVec_xor, BitVec.getLsbD_and, BitVec.getLsbD_xor,
    Bool.and_xor_distrib_right]

/-- Doubling is linear: the reduction depends on the sum of the top bits. -/
theorem double_xor (a b : UInt8) : double (a ^^^ b) = double a ^^^ double b := by
  have hreduction : (if (a ^^^ b) &&& 0x80 = 0 then (0 : UInt8) else 0x1b)
      = (if a &&& 0x80 = 0 then 0 else 0x1b) ^^^ (if b &&& 0x80 = 0 then 0 else 0x1b) := by
    rw [xor_and_top]
    rcases and_top a with ha | ha <;> rcases and_top b with hb | hb <;> rw [ha, hb] <;> decide
  rw [double, double, double, UInt8.shiftLeft_xor, hreduction]
  simp only [UInt8.xor_assoc, xor8_left_comm]

section Column

variable (a b c d s : UInt8)

theorem sum_mixed :
    (a ^^^ s ^^^ double (a ^^^ b)) ^^^ (b ^^^ s ^^^ double (b ^^^ c))
        ^^^ (c ^^^ s ^^^ double (c ^^^ d)) ^^^ (d ^^^ s ^^^ double (d ^^^ a))
      = a ^^^ b ^^^ c ^^^ d := by
  simp only [double_xor]
  generalize double a = p
  generalize double b = q
  generalize double c = r
  generalize double d = t
  simp only [UInt8.xor_comm, xor8_left_comm, xor8_self_left, UInt8.xor_self, UInt8.xor_zero]

theorem neighbours_mixed :
    (a ^^^ s ^^^ double (a ^^^ b)) ^^^ (b ^^^ s ^^^ double (b ^^^ c))
      = a ^^^ b ^^^ double (a ^^^ c) := by
  simp only [double_xor]
  generalize double a = p
  generalize double b = q
  generalize double c = r
  simp only [UInt8.xor_comm, xor8_left_comm, xor8_self_left]

theorem opposites_mixed :
    (a ^^^ s ^^^ double (a ^^^ b)) ^^^ (c ^^^ s ^^^ double (c ^^^ d))
      = a ^^^ c ^^^ double (a ^^^ b ^^^ c ^^^ d) := by
  simp only [double_xor]
  generalize double a = p
  generalize double b = q
  generalize double c = r
  generalize double d = t
  simp only [UInt8.xor_comm, xor8_left_comm, xor8_self_left]

/-- Premixing adds the same to opposite bytes, so the sum of a column stays. -/
theorem sum_premixed (u v : UInt8) :
    (a ^^^ u) ^^^ (b ^^^ v) ^^^ (c ^^^ u) ^^^ (d ^^^ v) = a ^^^ b ^^^ c ^^^ d := by
  simp only [UInt8.xor_comm, xor8_left_comm, xor8_self_left, UInt8.xor_self, UInt8.xor_zero]

/-- One byte of a column that was mixed, premixed with `u` and `v`, and mixed again. -/
theorem unmix_byte {x y z s u v : UInt8} (hu : u = double (double (x ^^^ z ^^^ double s)))
    (huv : u ^^^ v = double (double s)) :
    (x ^^^ s ^^^ double (x ^^^ y)) ^^^ u ^^^ s
        ^^^ double ((x ^^^ s ^^^ double (x ^^^ y)) ^^^ u
          ^^^ ((y ^^^ s ^^^ double (y ^^^ z)) ^^^ v))
      = x := by
  have hpair : (x ^^^ s ^^^ double (x ^^^ y)) ^^^ u ^^^ ((y ^^^ s ^^^ double (y ^^^ z)) ^^^ v)
      = x ^^^ y ^^^ double (x ^^^ z) ^^^ double (double s) := by
    rw [← huv, ← neighbours_mixed x y z s]
    simp only [UInt8.xor_assoc, xor8_left_comm]
  rw [hpair, hu, double_xor (x ^^^ y ^^^ double (x ^^^ z)), double_xor (x ^^^ y),
    double_xor (x ^^^ z), double_xor (double (x ^^^ z))]
  generalize double (x ^^^ y) = p
  generalize double (double (x ^^^ z)) = q
  generalize double (double (double s)) = r
  simp only [UInt8.xor_comm, xor8_left_comm, xor8_self_left, UInt8.xor_self, UInt8.xor_zero]

end Column

/-- Columns are mixed one by one. -/
theorem unmixColumns_mixColumns_cons (a b c d : UInt8) (rest : Bytes) :
    unmixColumns (mixColumns (a :: b :: c :: d :: rest))
      = a :: b :: c :: d :: unmixColumns (mixColumns rest) := by
  obtain ⟨s, hs⟩ : ∃ s, s = a ^^^ b ^^^ c ^^^ d := ⟨_, rfl⟩
  have hsum := sum_mixed a b c d s
  have hac := opposites_mixed a b c d s
  have hbd := opposites_mixed b c d a s
  have hrotated : b ^^^ c ^^^ d ^^^ a = s := by
    rw [hs]
    simp only [UInt8.xor_comm, xor8_left_comm]
  rw [← hs] at hsum hac
  rw [hrotated] at hbd
  obtain ⟨u, hu⟩ : ∃ u, u = double (double (a ^^^ c ^^^ double s)) := ⟨_, rfl⟩
  obtain ⟨v, hv⟩ : ∃ v, v = double (double (b ^^^ d ^^^ double s)) := ⟨_, rfl⟩
  have hopposites : (a ^^^ c ^^^ double s) ^^^ (b ^^^ d ^^^ double s) = s := by
    generalize double s = t
    rw [hs]
    simp only [UInt8.xor_comm, xor8_left_comm, UInt8.xor_self, UInt8.xor_zero]
  have huv : u ^^^ v = double (double s) := by
    rw [hu, hv, ← double_xor, ← double_xor, hopposites]
  have hu' : u = double (double (c ^^^ a ^^^ double s)) := by
    rw [hu, UInt8.xor_comm a c]
  have hv' : v = double (double (d ^^^ b ^^^ double s)) := by
    rw [hv, UInt8.xor_comm b d]
  have hvu : v ^^^ u = double (double s) := by
    rw [UInt8.xor_comm, huv]
  simp only [unmixColumns, mixColumns, premixColumns, sum_premixed, ← hs, hsum, hac, hbd, ← hu,
    ← hv]
  rw [unmix_byte hu huv, unmix_byte hv hvu, unmix_byte hu' huv, unmix_byte hv' hvu]

theorem unmixColumns_mixColumns {state : Bytes} (hstate : state.length = 16) :
    unmixColumns (mixColumns state) = state := by
  obtain ⟨_, _, _, _, _, _, _, _, _, _, _, _, _, _, _, _, rfl⟩ := exists_eq_sixteen_bytes hstate
  simp only [unmixColumns_mixColumns_cons]
  rfl

theorem length_mixColumns {state : Bytes} (hstate : state.length = 16) :
    (mixColumns state).length = 16 := by
  obtain ⟨_, _, _, _, _, _, _, _, _, _, _, _, _, _, _, _, rfl⟩ := exists_eq_sixteen_bytes hstate
  rfl

theorem length_unmixColumns {state : Bytes} (hstate : state.length = 16) :
    (unmixColumns state).length = 16 := by
  obtain ⟨_, _, _, _, _, _, _, _, _, _, _, _, _, _, _, _, rfl⟩ := exists_eq_sixteen_bytes hstate
  rfl

/-! ### Rounds -/

section Rounds

variable {keys : List Bytes} (hkeys : ∀ key ∈ keys, key.length = 16) {state : Bytes}
  (hstate : state.length = 16)
include hkeys hstate

theorem length_encryptRounds : (encryptRounds keys state).length = 16 := by
  fun_induction encryptRounds keys state with
  | case1 state => exact hstate
  | case2 last state =>
      have hlast := hkeys last (by simp)
      simp [length_shiftRows, hstate, hlast]
  | case3 key keys state hne ih =>
      obtain ⟨hkey, hkeys⟩ := List.forall_mem_cons.mp hkeys
      have hmixed := length_mixColumns (length_shiftRows ((length_substitute state).trans hstate))
      exact ih hkeys (by simp [hmixed, hkey])

theorem length_decryptRounds : (decryptRounds keys state).length = 16 := by
  fun_induction decryptRounds keys state with
  | case1 => exact hstate
  | case2 last =>
      have hlast := hkeys last (by simp)
      rw [length_unsubstitute, length_unshiftRows (by simp [hstate, hlast])]
  | case3 key keys state hne ih =>
      obtain ⟨hkey, hkeys⟩ := List.forall_mem_cons.mp hkeys
      have hrest := ih hkeys hstate
      rw [length_unsubstitute, length_unshiftRows (length_unmixColumns (by simp [hrest, hkey]))]

theorem decryptRounds_encryptRounds : decryptRounds keys (encryptRounds keys state) = state := by
  fun_induction encryptRounds keys state with
  | case1 state => rfl
  | case2 last state =>
      have hlast := hkeys last (by simp)
      have hsubstituted := (length_substitute state).trans hstate
      rw [decryptRounds, Bytes.xor_xor_cancel (Nat.le_of_eq
          ((length_shiftRows hsubstituted).trans hlast.symm)),
        unshiftRows_shiftRows hsubstituted, unsubstitute_substitute]
  | case3 key keys state hne ih =>
      obtain ⟨hkey, hkeys⟩ := List.forall_mem_cons.mp hkeys
      have hsubstituted := (length_substitute state).trans hstate
      have hshifted := length_shiftRows hsubstituted
      have hmixed := length_mixColumns hshifted
      have hrest := ih hkeys (by simp [hmixed, hkey])
      rw [decryptRounds, hrest, Bytes.xor_xor_cancel (Nat.le_of_eq (hmixed.trans hkey.symm)),
        unmixColumns_mixColumns hshifted, unshiftRows_shiftRows hsubstituted,
        unsubstitute_substitute]
      exact hne

end Rounds

/-! ### Round keys -/

/-- An expanded key so far: a number of words of four bytes. -/
structure Expanded (words : Array Bytes) (count : Nat) : Prop where
  size : words.size = count
  length_word : ∀ word ∈ words.toList, word.length = 4

theorem Expanded.length_getD {words : Array Bytes} {count : Nat} (hwords : Expanded words count)
    {i : Nat} (hi : i < count) : (words.getD i []).length = 4 := by
  have hsize : i < words.size := hwords.size ▸ hi
  apply hwords.length_word
  simp [hsize]

theorem Expanded.expandWord {words : Array Bytes} {count keyWords : Nat}
    (hwords : Expanded words count) (hpositive : 0 < keyWords) (hkey : keyWords ≤ count) :
    Expanded (expandWord keyWords words count) (count + 1) := by
  have hlast := hwords.length_getD (i := count - 1) (by omega)
  have hearlier := hwords.length_getD (i := count - keyWords) (by omega)
  have hrotated : (rotateWord (words.getD (count - 1) [])).length = 4 := by
    rw [← hlast]
    generalize words.getD (count - 1) [] = last
    cases last with
    | nil => rfl
    | cons byte rest => simp [rotateWord]
  have hconstant : (roundConstant (count / keyWords)).length = 4 := rfl
  refine ⟨by simp [Aes.expandWord, hwords.size], ?_⟩
  intro word hword
  simp only [Aes.expandWord, Array.toList_push, List.mem_append, List.mem_singleton] at hword
  rcases hword with hword | rfl
  · exact hwords.length_word word hword
  · rw [Bytes.length_xor, hearlier]
    split
    · rw [Bytes.length_xor, length_substitute, hrotated, hconstant]
      rfl
    · split
      · rw [length_substitute, hlast]
        rfl
      · rw [hlast]
        rfl

theorem Expanded.expandWords {words : Array Bytes} {keyWords : Nat}
    (hwords : Expanded words keyWords) (hpositive : 0 < keyWords) (steps : Nat) :
    Expanded ((List.range steps).foldl
      (fun words i => Aes.expandWord keyWords words (i + keyWords)) words) (steps + keyWords) := by
  induction steps with
  | zero => simpa using hwords
  | succ steps ih =>
      rw [List.range_succ, List.foldl_append, Nat.add_right_comm]
      exact ih.expandWord hpositive (by omega)

theorem length_of_mem_roundKeys {key : Bytes} (hkey : key.length ∈ [16, 24, 32]) :
    ∀ roundKey ∈ roundKeys key, roundKey.length = 16 := by
  have hwords : key.length / 4 ∈ [4, 6, 8] ∧ 4 ∣ key.length := by
    simp only [List.mem_cons, List.not_mem_nil, or_false] at hkey ⊢
    omega
  obtain ⟨hcount, hwhole⟩ := hwords
  simp only [List.mem_cons, List.not_mem_nil, or_false] at hcount
  have hstart : Expanded (Bytes.chunks 4 key).toArray (key.length / 4) :=
    ⟨Bytes.length_chunks (by decide) hwhole, Bytes.length_of_mem_chunks (by decide) hwhole⟩
  have hexpanded := hstart.expandWords (by omega)
    (4 * (key.length / 4 + 7) - key.length / 4)
  refine Bytes.length_of_mem_chunks (by decide) ?_
  rw [Bytes.length_flatten hexpanded.length_word, Array.length_toList, hexpanded.size]
  omega

theorem length_encryptBlock {keys : List Bytes} (hkeys : ∀ key ∈ keys, key.length = 16)
    {block : Bytes} (hblock : block.length = 16) : (encryptBlock keys block).length = 16 := by
  cases keys with
  | nil => exact hblock
  | cons key keys =>
      obtain ⟨hkey, hkeys⟩ := List.forall_mem_cons.mp hkeys
      exact length_encryptRounds hkeys (by simp [hblock, hkey])

theorem length_decryptBlock {keys : List Bytes} (hkeys : ∀ key ∈ keys, key.length = 16)
    {block : Bytes} (hblock : block.length = 16) : (decryptBlock keys block).length = 16 := by
  cases keys with
  | nil => exact hblock
  | cons key keys =>
      obtain ⟨hkey, hkeys⟩ := List.forall_mem_cons.mp hkeys
      have hrounds := length_decryptRounds hkeys hblock
      rw [decryptBlock, Bytes.length_xor, hrounds, hkey]
      rfl

theorem decryptBlock_encryptBlock {keys : List Bytes} (hkeys : ∀ key ∈ keys, key.length = 16)
    {block : Bytes} (hblock : block.length = 16) :
    decryptBlock keys (encryptBlock keys block) = block := by
  cases keys with
  | nil => rfl
  | cons key keys =>
      obtain ⟨hkey, hkeys⟩ := List.forall_mem_cons.mp hkeys
      rw [encryptBlock, decryptBlock, decryptRounds_encryptRounds hkeys (by simp [hblock, hkey])]
      exact Bytes.xor_xor_cancel (Nat.le_of_eq (hblock.trans hkey.symm))

end Aes

theorem aes_lawful {key : Bytes} (hkey : key.length ∈ [16, 24, 32]) : (aes key).Lawful where
  blockLength_pos := show 0 < 16 by decide
  blockLength_le := show 16 ≤ 16 by decide
  length_encrypt _ := Aes.length_encryptBlock (Aes.length_of_mem_roundKeys hkey)
  length_decrypt _ := Aes.length_decryptBlock (Aes.length_of_mem_roundKeys hkey)
  decrypt_encrypt _ := Aes.decryptBlock_encryptBlock (Aes.length_of_mem_roundKeys hkey)

end RecordProtection
