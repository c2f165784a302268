import RecordProtection.Proofs.Bounds.Aead
import RecordProtection.Proofs.Bounds.Cipher

/-!
# The multilinear mode within bounds

The mode counts in the halves of its blocks, reads and writes blocks as numbers of at most 128 bits,
and fills pieces of any length up to blocks in a buffer.  All of its positions come from the block
length, which is even, and from the lengths of pieces, which are at most that.
-/

namespace RecordProtection

open Guarded

namespace Multilinear

/-! ### Numbers of 128 bits -/

/-- Shifting a number of 128 bits by all of them or more is a fault. -/
def shiftRight (value amount : Nat) : Guarded Nat := do
  return value >>> (← fit 128 amount)

def guardedSumMultiples (bits : Nat) : (positions : List Nat) → (x y sum : Nat) → Guarded Nat
  | [], _, _, sum => .ok sum
  | i :: rest, x, y, sum => do
      let selected ← shiftRight y i
      let carry ← shiftRight x (← sub bits 1)
      let doubled := (x <<< 1) % (1 <<< bits) ^^^ if carry % 2 = 1 then fieldPolynomial bits else 0
      guardedSumMultiples bits rest doubled y (if selected % 2 = 1 then sum ^^^ x else sum)

def guardedMultiply (x y bits : Nat) : Guarded Nat :=
  guardedSumMultiples bits (List.range bits) x y 0

/-- The bytes of a number at positions counted from the front. -/
def guardedDigits (value width : Nat) : (positions : List Nat) → Guarded Bytes
  | [] => .ok []
  | i :: rest => do
      let digit ← shiftRight value (← mul 8 (← sub (← sub width 1) i))
      return UInt8.ofNat digit :: (← guardedDigits value width rest)

def guardedOfNatBE (width value : Nat) : Guarded Bytes :=
  guardedDigits value width (List.range width)

theorem shiftRight_eq_ok {value amount : Nat} (h : amount < 128) :
    shiftRight value amount = .ok (value >>> amount) := by
  simp only [shiftRight, fit_eq_ok h, ok_bind, pure_eq_ok]

theorem guardedSumMultiples_eq_ok {bits : Nat} (hbits : 0 < bits) (hword : bits ≤ 128)
    {steps first : Nat} (hsteps : first + steps ≤ 128) (x y sum : Nat) :
    guardedSumMultiples bits (List.range' first steps) x y sum
      = .ok (sumMultiples bits steps x (y >>> first) sum) := by
  induction steps generalizing first x sum with
  | zero => rfl
  | succ steps ih =>
      have hlast : bits - 1 < 128 := by omega
      have hfirst : first < 128 := by omega
      have hcarry : x >>> (bits - 1) % 2 = 1 ↔ x.testBit (bits - 1) = true := by
        rw [Nat.testBit_eq_decide_div_mod_eq, decide_eq_true_eq, Nat.shiftRight_eq_div_pow]
      simp only [List.range'_succ, guardedSumMultiples, shiftRight_eq_ok hfirst,
        sub_eq_ok (show 1 ≤ bits from hbits), shiftRight_eq_ok hlast, ok_bind, hcarry,
        ih (show first + 1 + steps ≤ 128 by omega), sumMultiples, doubleElement,
        Nat.shiftRight_succ]

theorem guardedMultiply_eq_ok {bits : Nat} (hbits : 0 < bits) (hword : bits ≤ 128) (x y : Nat) :
    guardedMultiply x y bits = .ok (multiply x y bits) := by
  have hsum := @guardedSumMultiples_eq_ok bits hbits hword bits 0 (by omega) x y 0
  rwa [Nat.shiftRight_zero, ← List.range_eq_range'] at hsum

theorem guardedDigits_eq_ok {value width : Nat} (hwidth : width ≤ 16) {positions : List Nat}
    (hpositions : ∀ i ∈ positions, i < width) :
    guardedDigits value width positions
      = .ok (positions.map fun i => UInt8.ofNat (value >>> (8 * (width - 1 - i)))) := by
  induction positions with
  | nil => rfl
  | cons i positions ih =>
      have hi := hpositions i (by simp)
      have hlength : 8 * (width - 1 - i) < lengthBound := by
        simp only [lengthBound]
        omega
      have hrest := ih fun other hother => hpositions other (by simp [hother])
      simp only [guardedDigits, sub_eq_ok (show 1 ≤ width by omega),
        sub_eq_ok (show i ≤ width - 1 by omega), mul_eq_ok hlength,
        shiftRight_eq_ok (show 8 * (width - 1 - i) < 128 by omega), ok_bind, pure_eq_ok, hrest,
        List.map_cons]

theorem ofNatLE_eq_map (width value : Nat) :
    Bytes.ofNatLE width value
      = (List.range width).map fun i => UInt8.ofNat (value >>> (8 * i)) := by
  induction width generalizing value with
  | zero => rfl
  | succ width ih =>
      rw [Bytes.ofNatLE, ih, List.range_succ_eq_map, List.map_cons, List.map_map]
      refine congrArg₂ List.cons rfl (List.map_congr_left fun i _ => ?_)
      simp only [Function.comp_apply, Nat.shiftRight_eq_div_pow, Nat.div_div_eq_div_mul]
      congr 2
      rw [Nat.mul_succ, Nat.pow_add, Nat.mul_comm]

theorem guardedOfNatBE_eq_ok {width : Nat} (hwidth : width ≤ 16) (value : Nat) :
    guardedOfNatBE width value = .ok (Bytes.ofNatBE width value) := by
  have hdigits := @guardedDigits_eq_ok value width hwidth (List.range width)
    fun i hi => List.mem_range.mp hi
  rw [guardedOfNatBE, hdigits, Bytes.ofNatBE, ofNatLE_eq_map]
  refine congrArg Except.ok (List.ext_getElem (by simp) fun i hi _ => ?_)
  simp [List.getElem_reverse]

/-! ### Blocks that are summed up -/

/-- A block counts with the encryption of the key block, which counts on. -/
def absorbStep (cipher : BlockCipher) (state : Bytes × Nat) (block : Bytes) : Bytes × Nat :=
  (nextKey (cipher.blockLength / 2) state.1,
    state.2 ^^^ multiply (Bytes.toNatBE (cipher.encrypt state.1)) (Bytes.toNatBE block)
      (8 * cipher.blockLength))

theorem sumProducts_eq_foldl (cipher : BlockCipher) (key : Bytes) (blocks : List Bytes)
    (sum : Nat) :
    sumProducts cipher key blocks sum = (blocks.foldl (absorbStep cipher) (key, sum)).2 := by
  induction blocks generalizing key sum with
  | nil => rfl
  | cons block blocks ih =>
      rw [sumProducts, ih]
      rfl

theorem length_nextKey (half : Nat) (block : Bytes) :
    (nextKey half block).length = block.length := by
  simp [nextKey]
  omega

theorem length_foldl_absorbStep (cipher : BlockCipher) (state : Bytes × Nat)
    (blocks : List Bytes) :
    (blocks.foldl (absorbStep cipher) state).1.length = state.1.length := by
  induction blocks generalizing state with
  | nil => rfl
  | cons block blocks ih => exact (ih _).trans (length_nextKey _ _)

end Multilinear

namespace KeyedCipher

variable (keyed : KeyedCipher)

/-- The first byte of a nonce is changed before it is encrypted. -/
def guardedMark (mark : UInt8 → UInt8) (nonce : Bytes) : Guarded Bytes := do
  let byte ← Buffer.get nonce 0
  keyed.guardedEncrypt (← Buffer.set nonce 0 (mark byte))

def guardedNextCounter (block : Bytes) : Guarded Bytes :=
  Buffer.update block (keyed.blockLength / 2) block.length fun half => .ok (incrementBE half)

def guardedNextKey (block : Bytes) : Guarded Bytes :=
  Buffer.update block 0 (keyed.blockLength / 2) fun half => .ok (incrementBE half)

def guardedAbsorb (state : Bytes × Nat) (block : Bytes) : Guarded (Bytes × Nat) := do
  let (key, sum) := state
  let factor ← keyed.guardedEncrypt (← Buffer.copy (Bytes.zeros keyed.blockLength) key)
  let product ← Multilinear.guardedMultiply (Bytes.toNatBE factor) (Bytes.toNatBE block)
    (8 * keyed.blockLength)
  return (← keyed.guardedNextKey key, sum ^^^ product)

/-- Each piece goes to the front of a block of zeros. -/
def guardedAbsorbPieces : (state : Bytes × Nat) → List Bytes → Guarded (Bytes × Nat)
  | state, [] => .ok state
  | state, piece :: rest => do
      let block ← Buffer.overwrite (Bytes.zeros keyed.blockLength) 0 piece.length piece
      guardedAbsorbPieces (← keyed.guardedAbsorb state block) rest

def guardedLengths (dataLength ciphertextLength : Nat) : Guarded Bytes := do
  let block := Bytes.zeros keyed.blockLength
  let block ← Buffer.update block 0 (keyed.blockLength / 2) fun half =>
    Multilinear.guardedOfNatBE half.length (8 * dataLength)
  Buffer.update block (keyed.blockLength / 2) block.length fun half =>
    Multilinear.guardedOfNatBE half.length (8 * ciphertextLength)

def guardedFullTag (nonce data ciphertext : Bytes) : Guarded Bytes := do
  let key ← keyed.guardedMark (· ||| 0x80) nonce
  let dataPieces ← Buffer.chunks keyed.blockLength data
  let pieces ← Buffer.chunks keyed.blockLength ciphertext
  let state ← keyed.guardedAbsorbPieces (key, 0) (dataPieces ++ pieces)
  let (_, sum) ← keyed.guardedAbsorb state (← keyed.guardedLengths data.length ciphertext.length)
  keyed.guardedEncrypt (← Multilinear.guardedOfNatBE keyed.blockLength sum)

def guardedMask (nonce data : Bytes) : Guarded Bytes := do
  let counter ← keyed.guardedMark (· &&& 0x7f) nonce
  keyed.guardedCounterMode keyed.guardedNextCounter counter data

theorem blockLength_eq_or : keyed.blockLength = 8 ∨ keyed.blockLength = 16 := by
  have hlength := keyed.kind_blockLength
  revert hlength
  cases keyed.kind <;> simp +contextual [EngineKind.blockLength, eq_comm]

/-! ### Within bounds -/

section Blocks

variable {block : Bytes} (hblock : block.length = keyed.blockLength)
include hblock

theorem guardedMark_eq_ok (mark : UInt8 → UInt8) :
    keyed.guardedMark mark block
      = .ok (keyed.cipher.encrypt (Multilinear.mapFirst mark block)) := by
  have hpos : 0 < block.length := hblock ▸ keyed.lawful.blockLength_pos
  obtain ⟨byte, rest, rfl⟩ := List.exists_cons_of_length_pos hpos
  have hmarked : (mark byte :: rest).length = keyed.blockLength := hblock
  simp only [guardedMark, Buffer.get_eq_ok hpos, Buffer.set_eq_ok hpos, ok_bind,
    List.getElem_cons_zero, List.set_cons_zero, keyed.guardedEncrypt_eq_ok hmarked,
    Multilinear.mapFirst]

theorem guardedNextCounter_eq_ok :
    keyed.guardedNextCounter block
      = .ok (Multilinear.nextCounter (keyed.blockLength / 2) block) := by
  have hhalf : keyed.blockLength / 2 ≤ block.length := hblock ▸ Nat.div_le_self _ _
  have hupdate := @Buffer.update_eq_ok block (keyed.blockLength / 2) block.length
    (fun half => .ok (incrementBE half)) _ hhalf (Nat.le_refl _) rfl
  rwa [List.take_length, List.drop_length, List.append_nil] at hupdate

theorem guardedNextKey_eq_ok :
    keyed.guardedNextKey block = .ok (Multilinear.nextKey (keyed.blockLength / 2) block) := by
  have hhalf : keyed.blockLength / 2 ≤ block.length := hblock ▸ Nat.div_le_self _ _
  have hupdate := @Buffer.update_eq_ok block 0 (keyed.blockLength / 2)
    (fun half => .ok (incrementBE half)) _ (Nat.zero_le _) hhalf rfl
  rwa [List.drop_zero, List.take_zero, List.nil_append] at hupdate

end Blocks

section States

variable {state : Bytes × Nat} (hstate : state.1.length = keyed.blockLength)
include hstate

theorem guardedAbsorb_eq_ok (block : Bytes) :
    keyed.guardedAbsorb state block = .ok (Multilinear.absorbStep keyed.cipher state block) := by
  have hbits : 8 * keyed.blockLength ≤ 128 := by
    have hle : keyed.blockLength ≤ 16 := keyed.lawful.blockLength_le
    omega
  have hpos : 0 < 8 * keyed.blockLength := Nat.mul_pos (by decide) keyed.lawful.blockLength_pos
  have hbuffer : (Bytes.zeros keyed.blockLength).length = state.1.length := by
    rw [hstate, Bytes.length_zeros]
  simp only [guardedAbsorb, Buffer.copy_eq_ok hbuffer, keyed.guardedEncrypt_eq_ok hstate,
    Multilinear.guardedMultiply_eq_ok hpos hbits, keyed.guardedNextKey_eq_ok hstate, ok_bind,
    pure_eq_ok, Multilinear.absorbStep]

theorem guardedAbsorbPieces_eq_ok {pieces : List Bytes}
    (hpieces : ∀ piece ∈ pieces, piece.length ≤ keyed.blockLength) :
    keyed.guardedAbsorbPieces state pieces
      = .ok ((pieces.map fun piece =>
          piece ++ Bytes.zeros (keyed.blockLength - piece.length)).foldl
            (Multilinear.absorbStep keyed.cipher) state) := by
  induction pieces generalizing state with
  | nil => rfl
  | cons piece pieces ih =>
      have hnext : (Multilinear.absorbStep keyed.cipher state (piece
          ++ Bytes.zeros (keyed.blockLength - piece.length))).1.length = keyed.blockLength :=
        (Multilinear.length_nextKey _ _).trans hstate
      have hrest := ih hnext fun other hother => hpieces other (by simp [hother])
      simp only [guardedAbsorbPieces,
        Buffer.overwrite_zeros_front rfl (hpieces piece (by simp)), ok_bind,
        keyed.guardedAbsorb_eq_ok hstate, hrest, List.map_cons, List.foldl_cons]

end States

theorem guardedLengths_eq_ok (dataLength ciphertextLength : Nat) :
    keyed.guardedLengths dataLength ciphertextLength
      = .ok (Bytes.ofNatBE (keyed.blockLength / 2) (8 * dataLength)
        ++ Bytes.ofNatBE (keyed.blockLength / 2) (8 * ciphertextLength)) := by
  obtain ⟨half, hhalf, hle⟩ : ∃ half, keyed.blockLength = half + half ∧ half ≤ 8 := by
    rcases keyed.blockLength_eq_or with h | h
    · exact ⟨4, h, by decide⟩
    · exact ⟨8, h, by decide⟩
  have hdiv : (half + half) / 2 = half := by omega
  have hwidth : half ≤ 16 := by omega
  have hleft : ((Bytes.zeros (half + half)).take half).length = half := by
    simp
  have hfront := @Buffer.update_eq_ok (Bytes.zeros (half + half)) 0 half
    (fun part => Multilinear.guardedOfNatBE part.length (8 * dataLength))
    (Bytes.ofNatBE half (8 * dataLength)) (Nat.zero_le _) (by simp)
    (by rw [List.drop_zero, hleft, Multilinear.guardedOfNatBE_eq_ok hwidth])
  rw [List.take_zero, List.nil_append, Buffer.drop_zeros, Nat.add_sub_cancel] at hfront
  have hlength : (Bytes.ofNatBE half (8 * dataLength) ++ Bytes.zeros half).length
      = half + half := by
    simp
  have hback := @Buffer.update_eq_ok (Bytes.ofNatBE half (8 * dataLength) ++ Bytes.zeros half)
    half (half + half) (fun part => Multilinear.guardedOfNatBE part.length (8 * ciphertextLength))
    (Bytes.ofNatBE half (8 * ciphertextLength)) (Nat.le_add_left _ _) (Nat.le_of_eq hlength.symm)
    (by simp [Multilinear.guardedOfNatBE_eq_ok hwidth])
  rw [List.take_left' (Bytes.length_ofNatBE half _), List.drop_eq_nil_of_le (Nat.le_of_eq hlength),
    List.append_nil] at hback
  simp only [guardedLengths, hhalf, hdiv, hfront, ok_bind, hlength, hback]

/-! ### Tags and keystreams -/

section Nonces

variable {nonce : Bytes} (hnonce : nonce.length = keyed.blockLength)
include hnonce

theorem guardedFullTag_eq_ok (data ciphertext : Bytes) :
    keyed.guardedFullTag nonce data ciphertext
      = .ok (Multilinear.fullTag keyed.cipher nonce data ciphertext) := by
  have hpos : 0 < keyed.blockLength := keyed.lawful.blockLength_pos
  have hle : keyed.blockLength ≤ 16 := keyed.lawful.blockLength_le
  have hkey := Multilinear.length_encrypt_mapFirst keyed.lawful hnonce (· ||| 0x80)
  have hpieces : ∀ piece ∈ Bytes.chunks keyed.blockLength data
      ++ Bytes.chunks keyed.blockLength ciphertext, piece.length ≤ keyed.blockLength := by
    intro piece hpiece
    rcases List.mem_append.mp hpiece with hpiece | hpiece
    · exact Bytes.length_le_of_mem_chunks hpos data piece hpiece
    · exact Bytes.length_le_of_mem_chunks hpos ciphertext piece hpiece
  have hpiecesOk := @guardedAbsorbPieces_eq_ok keyed
    (keyed.cipher.encrypt (Multilinear.mapFirst (· ||| 0x80) nonce), 0) hkey _ hpieces
  have hlengthsOk := fun blocks => @guardedAbsorb_eq_ok keyed _
    ((Multilinear.length_foldl_absorbStep keyed.cipher
      (keyed.cipher.encrypt (Multilinear.mapFirst (· ||| 0x80) nonce), 0) blocks).trans hkey)
  simp only [guardedFullTag, keyed.guardedMark_eq_ok hnonce, Buffer.chunks_eq_ok hpos, ok_bind,
    hpiecesOk, keyed.guardedLengths_eq_ok, hlengthsOk, Multilinear.guardedOfNatBE_eq_ok hle,
    keyed.guardedEncrypt_eq_ok (Bytes.length_ofNatBE _ _)]
  simp only [Multilinear.fullTag, Multilinear.taggedBlocks, Multilinear.sumProducts_eq_foldl,
    Bytes.chunks_padTo hpos, List.foldl_append, List.foldl_cons, List.foldl_nil, List.map_append,
    Multilinear.keyStart]

theorem guardedMask_eq_ok (data : Bytes) :
    keyed.guardedMask nonce data = .ok (Multilinear.mask keyed.cipher nonce data) := by
  have hcounter := Multilinear.length_encrypt_mapFirst keyed.lawful hnonce (· &&& 0x7f)
  have hstep := Multilinear.length_nextCounter (keyed.blockLength / 2)
  simp only [guardedMask, keyed.guardedMark_eq_ok hnonce, ok_bind,
    keyed.guardedCounterMode_eq_ok (fun _ => keyed.guardedNextCounter_eq_ok) hstep hcounter]
  rfl

end Nonces

end KeyedCipher

/-! ### The mode -/

def KeyedCipher.tagLength (keyed : KeyedCipher) (strong : Bool) : Nat :=
  if strong then keyed.blockLength else keyed.blockLength / 2

theorem KeyedCipher.tagLength_le (keyed : KeyedCipher) (strong : Bool) :
    keyed.tagLength strong ≤ keyed.blockLength := by
  unfold tagLength
  split
  · exact Nat.le_refl _
  · exact Nat.div_le_self _ _

/-- Nonces of a wrong length are refused, and so are tags. -/
def GuardedAead.multilinear (keyed : KeyedCipher) (strong : Bool) : GuardedAead where
  tagLength := keyed.tagLength strong
  encrypt nonce data plaintext := do
    if nonce.length = keyed.blockLength then
      let ciphertext ← keyed.guardedMask nonce plaintext
      let tag ← keyed.guardedFullTag nonce data ciphertext
      return .ok (ciphertext, tag.take (keyed.tagLength strong))
    else return .error (.invalidKeyLength keyed.blockLength nonce.length)
  decrypt nonce data ciphertext tag := do
    if nonce.length = keyed.blockLength then
      let expected ← keyed.guardedFullTag nonce data ciphertext
      if tag.length = keyed.tagLength strong then
        if (← Buffer.slice expected 0 (keyed.tagLength strong)) = tag then
          return .ok (← keyed.guardedMask nonce ciphertext)
        else return .error .badRecordMac
      else return .error .badRecordMac
    else return .error (.invalidKeyLength keyed.blockLength nonce.length)

theorem GuardedAead.refines_multilinear (keyed : KeyedCipher) (strong : Bool) :
    (multilinear keyed strong).Refines (Multilinear.aead ⟨keyed.kind, keyed.cipher, strong⟩)
      keyed.blockLength := by
  have hle := keyed.tagLength_le strong
  have hblock : keyed.blockLength ≤ 16 := keyed.lawful.blockLength_le
  have hfull : ∀ nonce data ciphertext,
      (Multilinear.fullTag keyed.cipher nonce data ciphertext).length = keyed.blockLength :=
    fun _ _ _ => keyed.lawful.length_encrypt _ (Bytes.length_ofNatBE _ _)
  refine ⟨rfl, hle.trans hblock, Nat.le_of_ble_eq_true rfl, ?_, ?_⟩
  · intro nonce data plaintext hnonce _ _
    simp only [multilinear, if_pos hnonce, keyed.guardedMask_eq_ok hnonce,
      keyed.guardedFullTag_eq_ok hnonce, ok_bind, pure_eq_ok]
    rfl
  · intro nonce data ciphertext tag hnonce _ _ htag
    have hslice : Buffer.slice (Multilinear.fullTag keyed.cipher nonce data ciphertext) 0
        (keyed.tagLength strong)
        = .ok (Multilinear.tag ⟨keyed.kind, keyed.cipher, strong⟩ nonce data ciphertext) :=
      Buffer.slice_front (hle.trans (Nat.le_of_eq (hfull nonce data ciphertext).symm))
    have htagLength : tag.length = keyed.tagLength strong := htag
    simp only [multilinear, if_pos hnonce, if_pos htagLength, hslice,
      keyed.guardedMask_eq_ok hnonce, keyed.guardedFullTag_eq_ok hnonce, ok_bind, pure_eq_ok,
      Multilinear.aead]
    split <;> rfl

end RecordProtection
