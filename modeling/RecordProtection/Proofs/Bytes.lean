import Mathlib.Algebra.Group.Nat.Defs
import RecordProtection.Bytes

/-!
# Lengths, masks and pieces of byte strings

Every transform of records is built from three operations on byte strings: adding a mask, cutting
into pieces, and writing numbers in a fixed width.  A mask that covers the data is its own inverse,
and pieces put together are the string again.
-/

namespace RecordProtection

/-! ### Single bytes -/

theorem xor8_left_comm (a b c : UInt8) : a ^^^ (b ^^^ c) = b ^^^ (a ^^^ c) := by
  rw [← UInt8.xor_assoc, UInt8.xor_comm a b, UInt8.xor_assoc]

@[simp]
theorem xor8_self_left (a b : UInt8) : a ^^^ (a ^^^ b) = b := by
  rw [← UInt8.xor_assoc, UInt8.xor_self, UInt8.zero_xor]

/-- A property of bytes that holds of all 256 numbers. -/
theorem forall_byte {p : UInt8 → Prop} (h : ∀ n < 256, p (UInt8.ofNat n)) (byte : UInt8) :
    p byte := by
  have hbyte := h byte.toNat byte.toNat_lt
  rwa [UInt8.ofNat_toNat] at hbyte

/-- As many blocks as are needed cover a length. -/
theorem le_blocks_mul {width : Nat} (hwidth : 0 < width) (length : Nat) :
    length ≤ (length + width - 1) / width * width := by
  have hsplit := Nat.div_add_mod' (length + width - 1) width
  have hrest := Nat.mod_lt (length + width - 1) hwidth
  omega

theorem mul_add_div_of_lt {width place : Nat} (hplace : place < width) (index : Nat) :
    (index * width + place) / width = index := by
  rw [Nat.mul_comm, Nat.mul_add_div (by omega), Nat.div_eq_of_lt hplace, Nat.add_zero]

namespace Bytes

/-! ### Lengths and masks -/

@[simp]
theorem length_zeros (count : Nat) : (zeros count).length = count := by
  simp [zeros]

theorem zeros_zero : zeros 0 = [] := rfl

@[simp]
theorem length_xor (left right : Bytes) :
    (xor left right).length = min left.length right.length := by
  simp [xor]

/-- What is long enough has an end of any length. -/
theorem exists_append {bytes : Bytes} {count : Nat} (hlong : count ≤ bytes.length) :
    ∃ front back, bytes = front ++ back ∧ back.length = count := by
  refine ⟨bytes.take (bytes.length - count), bytes.drop (bytes.length - count),
    (List.take_append_drop _ _).symm, ?_⟩
  rw [List.length_drop]
  omega

/-- A mask that covers the data is its own inverse. -/
theorem xor_xor_cancel {data mask : Bytes} (hcover : data.length ≤ mask.length) :
    xor (xor data mask) mask = data := by
  induction data generalizing mask with
  | nil => simp [xor]
  | cons byte data ih =>
      cases mask with
      | nil => simp at hcover
      | cons key mask =>
          have hcovered : data.length ≤ mask.length := by
            simpa using hcover
          have htail := ih hcovered
          simp only [xor, List.zipWith_cons_cons] at htail ⊢
          rw [htail, UInt8.xor_assoc, UInt8.xor_self, UInt8.xor_zero]

theorem xor_comm (left right : Bytes) : xor left right = xor right left := by
  unfold xor
  rw [List.zipWith_comm]
  congr 1
  funext a b
  exact UInt8.xor_comm b a

theorem zeros_xor (mask : Bytes) : xor (zeros mask.length) mask = mask := by
  induction mask with
  | nil => rfl
  | cons byte mask ih =>
      simp only [xor, zeros, List.length_cons, List.replicate_succ, List.zipWith_cons_cons] at ih ⊢
      rw [ih, UInt8.zero_xor]

/-! ### Numbers of a fixed width -/

@[simp]
theorem length_ofNatLE (width value : Nat) : (ofNatLE width value).length = width := by
  induction width generalizing value with
  | zero => rfl
  | succ width ih => simp [ofNatLE, ih]

@[simp]
theorem length_ofNatBE (width value : Nat) : (ofNatBE width value).length = width := by
  simp [ofNatBE]

/-- The digits of the number that bytes write are the bytes. -/
theorem toNatLE_div_mod (bytes : Bytes) (position : Nat) :
    toNatLE bytes / 256 ^ position % 256 = (bytes.getD position 0).toNat := by
  induction position generalizing bytes with
  | zero =>
      cases bytes with
      | nil => rfl
      | cons byte bytes =>
          have hbyte := byte.toNat_lt
          simp [toNatLE]
  | succ position ih =>
      cases bytes with
      | nil => simp [toNatLE]
      | cons byte bytes =>
          have hbyte := byte.toNat_lt
          have hrest : (byte.toNat + 256 * toNatLE bytes) / 256 = toNatLE bytes := by
            omega
          rw [List.getD_cons_succ, ← ih, toNatLE, Nat.pow_succ', ← Nat.div_div_eq_div_mul, hrest]

/-! ### Pieces -/

@[simp]
theorem chunks_nil (width : Nat) : chunks width [] = [] := by
  simp [chunks]

theorem chunks_of_ne_nil {width : Nat} {bytes : Bytes} (hwidth : 0 < width) (hne : bytes ≠ []) :
    chunks width bytes = bytes.take width :: chunks width (bytes.drop width) := by
  obtain ⟨byte, rest, rfl⟩ := List.exists_cons_of_ne_nil hne
  obtain ⟨width, rfl⟩ : ∃ n, width = n + 1 := ⟨width - 1, by omega⟩
  rw [chunks]
  simp

theorem chunks_append {width : Nat} {piece rest : Bytes} (hwidth : 0 < width)
    (hpiece : piece.length = width) :
    chunks width (piece ++ rest) = piece :: chunks width rest := by
  have hne : piece ++ rest ≠ [] := by
    intro h
    simp only [List.append_eq_nil_iff] at h
    simp [h.1] at hpiece
    omega
  rw [chunks_of_ne_nil hwidth hne, List.take_left' hpiece, List.drop_left' hpiece]

theorem flatten_chunks (width : Nat) (bytes : Bytes) : (chunks width bytes).flatten = bytes := by
  fun_induction chunks width bytes with
  | case1 => rfl
  | case2 byte rest ih => simp [ih]

theorem chunks_flatten {width : Nat} (hwidth : 0 < width) (pieces : List Bytes)
    (hpieces : ∀ piece ∈ pieces, piece.length = width) :
    chunks width pieces.flatten = pieces := by
  induction pieces with
  | nil => simp
  | cons piece pieces ih =>
      rw [List.flatten_cons, chunks_append hwidth (hpieces piece (by simp)),
        ih fun other hother => hpieces other (by simp [hother])]

theorem length_le_of_mem_chunks {width : Nat} (hwidth : 0 < width) (bytes : Bytes) :
    ∀ piece ∈ chunks width bytes, piece.length ≤ width := by
  fun_induction chunks width bytes with
  | case1 => simp
  | case2 byte rest ih =>
      intro piece hpiece
      rcases List.mem_cons.mp hpiece with rfl | hpiece
      · simp only [List.length_cons, List.length_take]
        omega
      · exact ih piece hpiece

/-- A string of whole pieces is cut into pieces of full width. -/
theorem length_of_mem_chunks {width : Nat} {bytes : Bytes} (hwidth : 0 < width)
    (hwhole : width ∣ bytes.length) :
    ∀ piece ∈ chunks width bytes, piece.length = width := by
  obtain ⟨count, hcount⟩ := hwhole
  induction count generalizing bytes with
  | zero =>
      have hnil : bytes = [] := List.eq_nil_of_length_eq_zero (by simpa using hcount)
      simp [hnil]
  | succ count ih =>
      rw [Nat.mul_succ] at hcount
      have hne : bytes ≠ [] := by
        rintro rfl
        simp at hcount
        omega
      rw [chunks_of_ne_nil hwidth hne]
      intro piece hpiece
      rcases List.mem_cons.mp hpiece with rfl | hpiece
      · rw [List.length_take]
        omega
      · refine ih ?_ piece hpiece
        rw [List.length_drop]
        omega

theorem length_flatten {width : Nat} {pieces : List Bytes}
    (hpieces : ∀ piece ∈ pieces, piece.length = width) :
    pieces.flatten.length = pieces.length * width := by
  induction pieces with
  | nil => simp
  | cons piece pieces ih =>
      have hhead := hpieces piece (by simp)
      have htail := ih fun other hother => hpieces other (by simp [hother])
      simp only [List.flatten_cons, List.length_append, hhead, htail, List.length_cons]
      rw [Nat.add_mul, Nat.one_mul, Nat.add_comm]

theorem length_chunks {width : Nat} {bytes : Bytes} (hwidth : 0 < width)
    (hwhole : width ∣ bytes.length) : (chunks width bytes).length = bytes.length / width := by
  have hsum := length_flatten (length_of_mem_chunks hwidth hwhole)
  rw [flatten_chunks] at hsum
  rw [hsum, Nat.mul_div_cancel _ hwidth]

theorem length_flatMap {α : Type} {width : Nat} {f : α → Bytes} (hf : ∀ a, (f a).length = width)
    (items : List α) : (items.flatMap f).length = items.length * width := by
  have hpieces : ∀ piece ∈ items.map f, piece.length = width := by
    intro piece hpiece
    obtain ⟨a, -, rfl⟩ := List.mem_map.mp hpiece
    exact hf a
  rw [List.flatMap_def, length_flatten hpieces, List.length_map]

/-- A block is its bytes by their positions over all blocks. -/
theorem block_eq_map {width : Nat} {block : Nat → Bytes}
    (hblock : ∀ index, (block index).length = width) (index : Nat) :
    block index = (List.range width).map fun place =>
      (block ((index * width + place) / width)).getD ((index * width + place) % width) 0 := by
  apply List.ext_getElem
  · rw [hblock, List.length_map, List.length_range]
  · intro place hplace _
    have hshort : place < width := hblock index ▸ hplace
    rw [List.getElem_map, List.getElem_range, mul_add_div_of_lt hshort,
      Nat.mul_add_mod_of_lt hshort, List.getD_eq_getElem?_getD, List.getElem?_eq_getElem hplace,
      Option.getD_some]

/-- Blocks side by side, each byte found by its position over all of them. -/
theorem flatMap_range_eq_map {width : Nat} {block : Nat → Bytes}
    (hblock : ∀ index, (block index).length = width) (count : Nat) :
    (List.range count).flatMap block
      = (List.range (count * width)).map fun position =>
        (block (position / width)).getD (position % width) 0 := by
  induction count with
  | zero => simp
  | succ count ih =>
      rw [List.range_succ, List.flatMap_append, ih, List.flatMap_singleton, Nat.succ_mul,
        List.range_add, List.map_append, List.map_map]
      exact congrArg (_ ++ ·) (block_eq_map hblock count)

theorem dvd_length_padTo {width : Nat} (hwidth : 0 < width) (bytes : Bytes) :
    width ∣ (padTo width bytes).length := by
  rw [padTo, List.length_append, length_zeros]
  by_cases hrest : bytes.length % width = 0
  · rw [hrest, Nat.sub_zero, Nat.mod_self, Nat.add_zero]
    exact Nat.dvd_of_mod_eq_zero hrest
  · have hlt := Nat.mod_lt bytes.length hwidth
    rw [Nat.mod_eq_of_lt (by omega)]
    have hsplit := Nat.div_add_mod bytes.length width
    exact ⟨bytes.length / width + 1, by rw [Nat.mul_succ]; omega⟩

/-- Whole pieces in front are cut off as they are. -/
theorem chunks_append_of_dvd {width : Nat} (hwidth : 0 < width) {front : Bytes}
    (hfront : width ∣ front.length) (rest : Bytes) :
    chunks width (front ++ rest) = chunks width front ++ chunks width rest := by
  have hpieces := length_of_mem_chunks hwidth hfront
  rw [← flatten_chunks width front]
  generalize chunks width front = pieces at hpieces
  induction pieces with
  | nil => simp
  | cons piece pieces ih =>
      have hrest := ih fun other hother => hpieces other (by simp [hother])
      have hpiece := hpieces piece (by simp)
      rw [List.flatten_cons, List.append_assoc, chunks_append hwidth hpiece, hrest,
        chunks_append hwidth hpiece, List.cons_append]

theorem padTo_append_of_dvd {width : Nat} {front : Bytes} (hfront : width ∣ front.length)
    (rest : Bytes) : padTo width (front ++ rest) = front ++ padTo width rest := by
  obtain ⟨count, hcount⟩ := hfront
  rw [padTo, padTo, List.length_append, hcount, Nat.mul_add_mod, List.append_assoc]

/-- Only the last piece may be short, so padding a string is padding each of its pieces. -/
theorem chunks_padTo {width : Nat} (hwidth : 0 < width) (bytes : Bytes) :
    chunks width (padTo width bytes)
      = (chunks width bytes).map fun piece => piece ++ zeros (width - piece.length) := by
  induction hlength : bytes.length using Nat.strongRecOn generalizing bytes with
  | ind length ih =>
      subst hlength
      by_cases hne : bytes = []
      · simp [hne, padTo, zeros_zero]
      · have hpos := List.length_pos_iff.mpr hne
        rw [chunks_of_ne_nil hwidth hne, List.map_cons]
        by_cases hlong : width ≤ bytes.length
        · have hfront : (bytes.take width).length = width := List.length_take_of_le hlong
          have hrest := ih (bytes.drop width).length (by rw [List.length_drop]; omega) _ rfl
          rw [hfront, Nat.sub_self, zeros_zero, List.append_nil, ← hrest,
            ← chunks_append hwidth hfront, ← padTo_append_of_dvd ⟨1, by omega⟩,
            List.take_append_drop]
        · have hshort : bytes.length < width := by omega
          have hmod : (width - bytes.length % width) % width = width - bytes.length := by
            rw [Nat.mod_eq_of_lt hshort, Nat.mod_eq_of_lt (by omega)]
          have hpadded : (bytes ++ zeros (width - bytes.length)).length = width := by
            rw [List.length_append, length_zeros]
            omega
          have hsingle := @chunks_append width _ [] hwidth hpadded
          rw [List.append_nil, chunks_nil] at hsingle
          rw [List.take_of_length_le (Nat.le_of_lt hshort),
            List.drop_eq_nil_of_le (Nat.le_of_lt hshort), chunks_nil,
            List.map_nil, padTo, hmod, hsingle]

end Bytes

@[simp]
theorem length_bytes16 (w : UInt16) : (bytes16 w).length = 2 := rfl

@[simp]
theorem length_bytes32 (w : UInt32) : (bytes32 w).length = 4 := rfl

@[simp]
theorem length_bytes64 (w : UInt64) : (bytes64 w).length = 8 := rfl

end RecordProtection
