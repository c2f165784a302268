import RecordProtection.Stream.Cipher
import RecordProtection.Proofs.Bytes

/-!
# Keystreams cover what they mask

A keystream is as long as was asked for, so the cipher that starts from the same position takes
its mask off again and arrives at the same position.  All keystreams from one position are cut from
one string, so data may be masked in pieces.
-/

namespace RecordProtection

theorem Rc4.length_keystreamOnto (count : Nat) (state : Rc4) (taken : Bytes) :
    (keystreamOnto count state taken).1.length = taken.length + count := by
  induction count generalizing state taken with
  | zero => simp [keystreamOnto]
  | succ count ih =>
      rw [keystreamOnto, ih, List.length_cons]
      omega

theorem Rc4.length_keystream (state : Rc4) (count : Nat) :
    (state.keystream count).1.length = count := by
  rw [keystream, length_keystreamOnto, List.length_nil, Nat.zero_add]

theorem ChaCha20.length_keystreamBlock (key nonce : Bytes) (block : Nat) :
    (keystreamBlock key nonce block).length = blockLength := by
  have hword (word : UInt32) : (bytes32 word).reverse.length = 4 := by
    simp
  rw [keystreamBlock, Bytes.length_flatMap hword, Vector.length_toList, blockLength]

@[simp]
theorem ChaCha20.length_keystream (key nonce : Bytes) (position count : Nat) :
    (keystream key nonce position count).length = count := by
  have hblocks (first blocks : Nat) :
      ((List.range blocks).flatMap fun i => keystreamBlock key nonce (first + i)).length
        = blocks * blockLength := by
    rw [Bytes.length_flatMap fun i => length_keystreamBlock key nonce (first + i),
      List.length_range]
  have hcover := le_blocks_mul (show 0 < blockLength by decide) (position % blockLength + count)
  rw [keystream, List.length_take, List.length_drop, hblocks]
  omega

/-! ### Pieces -/

namespace Rc4

theorem keystreamOnto_eq (count : Nat) (state : Rc4) (taken : Bytes) :
    keystreamOnto count state taken
      = (taken.reverse ++ (state.keystream count).1, (state.keystream count).2) := by
  induction count generalizing state taken with
  | zero => simp only [keystreamOnto, keystream, List.reverse_nil, List.append_nil]
  | succ count ih =>
      have hnext (taken : Bytes) : keystreamOnto (count + 1) state taken
          = keystreamOnto count state.next.2 (state.next.1 :: taken) :=
        rfl
      rw [keystream, hnext, hnext, ih, ih state.next.2 [state.next.1]]
      simp only [List.reverse_cons, List.reverse_nil, List.nil_append, List.append_assoc]

theorem keystream_add (state : Rc4) (first second : Nat) :
    state.keystream (first + second)
      = ((state.keystream first).1 ++ ((state.keystream first).2.keystream second).1,
        ((state.keystream first).2.keystream second).2) := by
  induction first generalizing state with
  | zero =>
      rw [Nat.zero_add]
      rfl
  | succ first ih =>
      have hnext (count : Nat) : state.keystream (count + 1)
          = (state.next.1 :: (state.next.2.keystream count).1,
            (state.next.2.keystream count).2) :=
        keystreamOnto_eq count state.next.2 [state.next.1]
      rw [Nat.add_right_comm, hnext, hnext, ih, List.cons_append]

end Rc4

namespace ChaCha20

/-- The byte of the keystream at a position, counted over all blocks. -/
def keystreamByte (key nonce : Bytes) (position : Nat) : UInt8 :=
  (keystreamBlock key nonce (position / blockLength)).getD (position % blockLength) 0

theorem flatMap_keystreamBlock (key nonce : Bytes) (first blocks : Nat) :
    ((List.range blocks).flatMap fun i => keystreamBlock key nonce (first + i))
      = (List.range (blocks * blockLength)).map fun i =>
        keystreamByte key nonce (first * blockLength + i) := by
  rw [Bytes.flatMap_range_eq_map fun i => length_keystreamBlock key nonce (first + i)]
  refine List.map_congr_left fun i _ => ?_
  have hindex : (first * blockLength + i) / blockLength = first + i / blockLength := by
    rw [Nat.mul_comm, Nat.mul_add_div (by decide)]
  rw [keystreamByte, hindex, Nat.mul_add_mod_self_right]

/-- A keystream is the bytes from its position on. -/
theorem keystream_eq_map (key nonce : Bytes) (position count : Nat) :
    keystream key nonce position count
      = (List.range count).map fun i => keystreamByte key nonce (position + i) := by
  have hpos : 0 < blockLength := by decide
  have hposition : position / blockLength * blockLength + position % blockLength = position :=
    Nat.div_add_mod' position blockLength
  have hcover := le_blocks_mul hpos (position % blockLength + count)
  obtain ⟨more, hmore⟩ := Nat.exists_eq_add_of_le hcover
  rw [keystream, flatMap_keystreamBlock, hmore, List.range_add, List.range_add, List.append_assoc,
    List.map_append, List.drop_left' (by simp), List.map_append, List.take_left' (by simp),
    List.map_map]
  refine List.map_congr_left fun i _ => ?_
  rw [Function.comp_apply, ← Nat.add_assoc, hposition]

theorem keystream_append (key nonce : Bytes) (position first second : Nat) :
    keystream key nonce position (first + second)
      = keystream key nonce position first ++ keystream key nonce (position + first) second := by
  rw [keystream_eq_map, keystream_eq_map, keystream_eq_map, List.range_add, List.map_append,
    List.map_map]
  refine congrArg (_ ++ ·) (List.map_congr_left fun i _ => ?_)
  rw [Function.comp_apply, Nat.add_assoc]

end ChaCha20

namespace StreamCipher

@[simp]
theorem length_keystream (cipher : StreamCipher) (count : Nat) :
    (cipher.keystream count).1.length = count := by
  cases cipher with
  | rc4 key state => exact state.length_keystream count
  | chacha20 key nonce position => exact ChaCha20.length_keystream key nonce position count

@[simp]
theorem length_apply (cipher : StreamCipher) (data : Bytes) :
    (cipher.apply data).1.length = data.length := by
  simp [apply]

theorem keystream_add (cipher : StreamCipher) (first second : Nat) :
    (cipher.keystream (first + second)).1
      = (cipher.keystream first).1 ++ ((cipher.keystream first).2.keystream second).1 := by
  cases cipher with
  | rc4 key state => simp only [keystream, Rc4.keystream_add]
  | chacha20 key nonce position => exact ChaCha20.keystream_append key nonce position first second

/-- Both ends take the same keystream from the same position. -/
theorem apply_apply (cipher : StreamCipher) (data : Bytes) :
    cipher.apply (cipher.apply data).1 = (data, (cipher.apply data).2) := by
  have hlength := cipher.length_apply data
  have hcover : data.length ≤ (cipher.keystream data.length).1.length :=
    Nat.le_of_eq (cipher.length_keystream data.length).symm
  simp only [apply] at hlength ⊢
  rw [hlength, Bytes.xor_xor_cancel hcover]

end StreamCipher

end RecordProtection
