import RecordProtection.Proofs.Bounds.Aead
import RecordProtection.Proofs.SealMachine

/-!
# ChaCha20-Poly1305 within bounds

The authenticator takes its input in pieces of any length and keeps what does not fill a block in a
buffer of one block.  Whatever the buffer holds, it stays within its bounds and does the same as an
authenticator that is fed byte by byte: an open block is completed first, whole blocks are taken
from the input, and a section ends in a padded block.
-/

namespace RecordProtection

open Guarded

/-! ### The authenticator -/

/-- The authenticator, a block that may be open, and how much of it is filled. -/
structure PaddedMac where
  mac : Poly1305
  buffer : Bytes
  filled : Nat

namespace PaddedMac

def ofKey (key : Bytes) : Guarded PaddedMac := do
  let key ← Buffer.copy (Bytes.zeros 32) key
  return ⟨Poly1305.ofKey key, Bytes.zeros 16, 0⟩

def absorbBlocks : Poly1305 → List Bytes → Guarded Poly1305
  | mac, [] => .ok mac
  | mac, block :: rest => do
      let block ← Buffer.copy (Bytes.zeros 16) block
      absorbBlocks (mac.absorbBlock block) rest

/-- Whole blocks are absorbed, and the rest is kept. -/
def absorbWhole (m : PaddedMac) (data : Bytes) : Guarded PaddedMac := do
  let (whole, rest) ← Buffer.splitAt data (data.length / 16 * 16)
  let mac ← absorbBlocks m.mac (← Buffer.chunks 16 whole)
  let buffer ← Buffer.overwrite m.buffer 0 rest.length rest
  return ⟨mac, buffer, rest.length⟩

/-- An open block is filled first. -/
def absorb (m : PaddedMac) (data : Bytes) : Guarded PaddedMac :=
  if m.filled > 0 then do
    let taken := min (← sub 16 m.filled) data.length
    let stop ← add m.filled taken
    let buffer ← Buffer.overwrite m.buffer m.filled stop (← Buffer.slice data 0 taken)
    let data ← Buffer.slice data taken data.length
    if stop < 16 then return { m with buffer := buffer, filled := stop }
    else absorbWhole ⟨← absorbBlocks m.mac [buffer], buffer, 0⟩ data
  else m.absorbWhole data

/-- An open block is filled up with zeros. -/
def pad (m : PaddedMac) : Guarded PaddedMac :=
  if m.filled > 0 then do
    let rest ← Buffer.slice m.buffer 0 m.filled
    return { m with mac := m.mac.absorbBlock (Bytes.padTo 16 rest), filled := 0 }
  else return m

/-- The tag over what was absorbed and the two lengths. -/
def close (m : PaddedMac) (dataLength payloadLength : Nat) : Guarded Bytes := do
  let m ← m.pad
  let lengths ← Buffer.overwrite (Bytes.zeros 16) 0 8 (Bytes.ofNatLE 8 dataLength)
  let lengths ← Buffer.overwrite lengths 8 16 (Bytes.ofNatLE 8 payloadLength)
  let m ← m.absorb lengths
  Buffer.copy (Bytes.zeros ChaCha20Poly1305.tagLength) m.mac.finalize

/-- The buffer holds the open block. -/
structure Holds (m : PaddedMac) (mac : Absorber Poly1305) : Prop where
  state : m.mac = mac.state
  buffer : m.buffer.length = 16
  filled : m.filled = mac.length % 16
  pending : m.buffer.take m.filled = mac.pending

theorem absorbBlocks_eq_ok {blocks : List Bytes} (hblocks : ∀ block ∈ blocks, block.length = 16)
    (mac : Poly1305) : absorbBlocks mac blocks = .ok (blocks.foldl Poly1305.absorbBlock mac) := by
  induction blocks generalizing mac with
  | nil => rfl
  | cons block blocks ih =>
      have hcopy : (Bytes.zeros 16).length = block.length := by
        rw [hblocks block (by simp), Bytes.length_zeros]
      simp only [absorbBlocks, Buffer.copy_eq_ok hcopy, ok_bind,
        ih fun other hother => hblocks other (by simp [hother]), List.foldl_cons]

section Holds

variable {m : PaddedMac} {mac : Absorber Poly1305} (hm : m.Holds mac)
include hm

theorem Holds.filled_lt : m.filled < 16 := by
  rw [hm.filled]
  exact Nat.mod_lt _ (by decide)

theorem Holds.length_pending : mac.pending.length = m.filled := by
  have hfilled := hm.filled_lt
  rw [← hm.pending, List.length_take, hm.buffer]
  omega

/-- At the end of a block nothing is open. -/
theorem Holds.eq_of_filled_eq_zero (hempty : m.filled = 0) :
    16 ∣ mac.length ∧ mac = ⟨mac.state, [], mac.length⟩ := by
  have hpending := hm.length_pending
  rw [hempty, List.length_eq_zero_iff, Absorber.pending, List.reverse_eq_nil_iff] at hpending
  refine ⟨Nat.dvd_of_mod_eq_zero (hm.filled ▸ hempty), ?_⟩
  obtain ⟨state, newest, length⟩ := mac
  cases hpending
  rfl

/-- From the end of a block, whole blocks are absorbed and the rest is kept. -/
theorem Holds.absorbWhole (hempty : m.filled = 0) (data : Bytes) :
    ∃ next, m.absorbWhole data = .ok next ∧ next.Holds (SealMachine.absorb mac data) := by
  obtain ⟨hblock, hmac⟩ := hm.eq_of_filled_eq_zero hempty
  have hwhole : data.length / 16 * 16 ≤ data.length := Nat.div_mul_le_self _ _
  obtain ⟨blocks, rest, hdata, hblocks, hrest⟩ : ∃ blocks rest, data = blocks ++ rest
      ∧ blocks.length = data.length / 16 * 16 ∧ rest.length < 16 := by
    refine ⟨_, _, (List.take_append_drop (data.length / 16 * 16) data).symm,
      List.length_take_of_le hwhole, ?_⟩
    rw [List.length_drop]
    omega
  have hdvd : 16 ∣ blocks.length := hblocks ▸ Nat.dvd_mul_left 16 (data.length / 16)
  have hwidth := Bytes.length_of_mem_chunks (show 0 < 16 by decide) hdvd
  have hfed : SealMachine.absorb mac data
      = ⟨(Bytes.chunks 16 blocks).foldl Poly1305.absorbBlock mac.state, rest.reverse,
        mac.length + blocks.length + rest.length⟩ := by
    have hend : (mac.length + blocks.length) % 16 + rest.length < 16 := by
      omega
    have hwholes := @Absorber.feed_blocks _ _ Poly1305.absorbBlock mac.state _ hblock (by decide)
      (Bytes.chunks 16 blocks) hwidth
    rw [Bytes.flatten_chunks, ← hmac] at hwholes
    rw [SealMachine.absorb, hdata, Absorber.feed_append, hwholes,
      Absorber.feed_within_block _ rest hend, List.append_nil]
  have hroom : rest.length ≤ m.buffer.length := by
    rw [hm.buffer]
    omega
  have hsplit : Buffer.splitAt data (data.length / 16 * 16) = .ok (blocks, rest) := by
    rw [← hblocks, hdata]
    exact Buffer.splitAt_append rfl rest
  refine ⟨⟨(Bytes.chunks 16 blocks).foldl Poly1305.absorbBlock mac.state,
    rest ++ m.buffer.drop rest.length, rest.length⟩, ?_, ?_⟩
  · simp only [PaddedMac.absorbWhole, hsplit, Buffer.chunks_eq_ok (show 0 < 16 by decide), ok_bind,
      hm.state, absorbBlocks_eq_ok hwidth, Buffer.overwrite_front rfl hroom, pure_eq_ok]
  · rw [hfed]
    refine ⟨rfl, ?_, ?_, ?_⟩
    · rw [List.length_append, List.length_drop, hm.buffer]
      omega
    · simp only
      omega
    · simp only [List.take_left, Absorber.pending, List.reverse_reverse]

/-- A piece that does not complete the open block goes behind it. -/
theorem Holds.absorb_of_short {data : Bytes} (hopen : 0 < m.filled)
    (hshort : m.filled + data.length < 16) :
    ∃ next, m.absorb data = .ok next ∧ next.Holds (SealMachine.absorb mac data) := by
  have hfilled := hm.filled
  have htaken : min (16 - m.filled) data.length = data.length := by
    omega
  have hstop : m.filled + data.length < lengthBound := Nat.lt_trans hshort (by decide)
  have hroom : m.filled + data.length ≤ m.buffer.length := by
    rw [hm.buffer]
    omega
  have hfed : SealMachine.absorb mac data
      = ⟨mac.state, data.reverse ++ mac.newest, mac.length + data.length⟩ :=
    Absorber.feed_within_block mac data (hfilled ▸ hshort)
  have hfront : (m.buffer.take m.filled).length = m.filled := by
    rw [List.length_take]
    omega
  refine ⟨⟨m.mac, m.buffer.take m.filled ++ data ++ m.buffer.drop (m.filled + data.length),
    m.filled + data.length⟩, ?_, ?_⟩
  · simp only [PaddedMac.absorb, gt_iff_lt, hopen, if_true, sub_eq_ok hm.filled_lt.le, ok_bind,
      htaken, add_eq_ok hstop, Buffer.slice_front (Nat.le_refl _), List.take_length,
      Buffer.overwrite_eq_ok hroom rfl, Buffer.slice_back (Nat.le_refl _), hshort, pure_eq_ok]
  · rw [hfed]
    refine ⟨hm.state, ?_, ?_, ?_⟩
    · simp only [List.length_append, List.length_drop, hfront, hm.buffer]
      omega
    · simp only
      omega
    · rw [List.take_left' (by rw [List.length_append, hfront]), hm.pending]
      simp only [Absorber.pending, List.reverse_append, List.reverse_reverse]

/-- A piece that completes the open block leaves none, and the rest of it goes on from there. -/
theorem Holds.absorb_of_long {data : Bytes} (hopen : 0 < m.filled)
    (hlong : 16 ≤ m.filled + data.length) :
    ∃ next, m.absorb data = .ok next ∧ next.Holds (SealMachine.absorb mac data) := by
  have hfilled := hm.filled_lt
  obtain ⟨front, back, rfl, hfront⟩ : ∃ front back, data = front ++ back
      ∧ m.filled + front.length = 16 := by
    refine ⟨_, _, (List.take_append_drop (16 - m.filled) data).symm, ?_⟩
    rw [List.length_take]
    omega
  have hne : front ≠ [] := by
    rintro rfl
    exact Nat.ne_of_lt hfilled hfront
  have htaken : min (16 - m.filled) (front ++ back).length = front.length := by
    rw [List.length_append]
    omega
  have hstop : m.filled + front.length < lengthBound := hfront ▸ (by decide)
  have hroom : m.filled + front.length ≤ m.buffer.length := by
    rw [hm.buffer, hfront]
  have hcut : front.length ≤ (front ++ back).length := by
    simp
  have hblock : (mac.pending ++ front).length = 16 := by
    rw [List.length_append, hm.length_pending, hfront]
  have hend : ¬ m.filled + front.length < 16 := by
    omega
  have hnothing : m.buffer.drop (m.filled + front.length) = [] :=
    List.drop_eq_nil_of_le (by rw [hm.buffer, hfront])
  -- the completed block, behind which nothing is open
  have hfed : SealMachine.absorb mac front
      = ⟨mac.state.absorbBlock (mac.pending ++ front), [], mac.length + front.length⟩ :=
    Absorber.feed_completes_block mac hne (hm.filled ▸ hfront)
  have hcompleted : Holds ⟨mac.state.absorbBlock (mac.pending ++ front), mac.pending ++ front, 0⟩
      (SealMachine.absorb mac front) := by
    rw [hfed]
    refine ⟨rfl, hblock, ?_, rfl⟩
    have hmac := hm.filled
    simp only
    omega
  obtain ⟨next, hnext, hholds⟩ := hcompleted.absorbWhole rfl back
  refine ⟨next, ?_, ?_⟩
  · have hsingle : absorbBlocks mac.state [mac.pending ++ front]
        = .ok (mac.state.absorbBlock (mac.pending ++ front)) :=
      absorbBlocks_eq_ok (by simpa using hblock) mac.state
    simp only [PaddedMac.absorb, gt_iff_lt, hopen, if_true, sub_eq_ok hfilled.le, ok_bind, htaken,
      add_eq_ok hstop, Buffer.slice_front hcut, List.take_left, Buffer.overwrite_eq_ok hroom rfl,
      hm.pending, hnothing, List.append_nil, Buffer.slice_back hcut, List.drop_left, hend, if_false,
      hm.state, hsingle, hnext]
  · rwa [SealMachine.absorb, Absorber.feed_append]

/-- Wherever the pieces are cut, the buffer holds the open block. -/
theorem Holds.absorb (data : Bytes) :
    ∃ next, m.absorb data = .ok next ∧ next.Holds (SealMachine.absorb mac data) := by
  rcases Nat.eq_zero_or_pos m.filled with hempty | hopen
  · have hwhole : m.absorb data = m.absorbWhole data := by
      simp only [PaddedMac.absorb, hempty, gt_iff_lt, Nat.lt_irrefl, if_false]
    rw [hwhole]
    exact hm.absorbWhole hempty data
  · rcases Nat.lt_or_ge (m.filled + data.length) 16 with hshort | hlong
    · exact hm.absorb_of_short hopen hshort
    · exact hm.absorb_of_long hopen hlong

theorem Holds.pad : ∃ next, m.pad = .ok next ∧ next.Holds (SealMachine.absorbPadding mac) := by
  rcases Nat.eq_zero_or_pos m.filled with hempty | hopen
  · have hblock : mac.length % 16 = 0 := hm.filled ▸ hempty
    have hnone : SealMachine.absorbPadding mac = mac := by
      rw [SealMachine.absorbPadding, hblock]
      rfl
    refine ⟨m, ?_, hnone.symm ▸ hm⟩
    simp only [PaddedMac.pad, hempty, gt_iff_lt, Nat.lt_irrefl, if_false, pure_eq_ok]
  · have hfilled := hm.filled_lt
    have hslice : Buffer.slice m.buffer 0 m.filled = .ok mac.pending := by
      rw [Buffer.slice_front (by rw [hm.buffer]; exact hfilled.le), hm.pending]
    have hzeros : (16 - mac.length % 16) % 16 = 16 - m.filled := by
      rw [← hm.filled]
      omega
    have hfed : SealMachine.absorbPadding mac
        = ⟨mac.state.absorbBlock (Bytes.padTo 16 mac.pending), [],
          mac.length + (16 - m.filled)⟩ := by
      have hne : Bytes.zeros (16 - m.filled) ≠ [] := by
        rw [← List.length_pos_iff, Bytes.length_zeros]
        omega
      have hfull : mac.length % 16 + (Bytes.zeros (16 - m.filled)).length = 16 := by
        rw [Bytes.length_zeros, ← hm.filled]
        omega
      have hpadded : Bytes.padTo 16 mac.pending = mac.pending ++ Bytes.zeros (16 - m.filled) := by
        rw [Bytes.padTo, hm.length_pending, Nat.mod_eq_of_lt hfilled, Nat.mod_eq_of_lt (by omega)]
      rw [SealMachine.absorbPadding, hzeros, SealMachine.absorb,
        Absorber.feed_completes_block mac hne hfull, hpadded, Bytes.length_zeros]
    refine ⟨⟨mac.state.absorbBlock (Bytes.padTo 16 mac.pending), m.buffer, 0⟩, ?_, ?_⟩
    · simp only [PaddedMac.pad, gt_iff_lt, hopen, if_true, hslice, ok_bind, pure_eq_ok, hm.state]
    · rw [hfed]
      refine ⟨rfl, hm.buffer, ?_, rfl⟩
      have hmac := hm.filled
      simp only
      omega

/-- The lengths fill a block behind the last section. -/
theorem Holds.close (dataLength payloadLength : Nat) :
    m.close dataLength payloadLength = .ok (SealMachine.closeMac mac dataLength payloadLength) := by
  have hfirst : Buffer.overwrite (Bytes.zeros 16) 0 8 (Bytes.ofNatLE 8 dataLength)
      = .ok (Bytes.ofNatLE 8 dataLength ++ Bytes.zeros 8) :=
    Buffer.overwrite_zeros_front (by simp) (by simp)
  have hsecond : Buffer.overwrite (Bytes.ofNatLE 8 dataLength ++ Bytes.zeros 8) 8 16
      (Bytes.ofNatLE 8 payloadLength)
      = .ok (ChaCha20Poly1305.lengths dataLength payloadLength ++ Bytes.zeros 0) :=
    Buffer.overwrite_zeros (by simp) (by simp) (by simp)
  have htag {state : Poly1305} : (Bytes.zeros ChaCha20Poly1305.tagLength).length
      = state.finalize.length := by
    simp [Poly1305.finalize, ChaCha20Poly1305.tagLength]
  obtain ⟨padded, hpad, hpadded⟩ := hm.pad
  obtain ⟨closed, habsorb, hclosed⟩ :=
    hpadded.absorb (ChaCha20Poly1305.lengths dataLength payloadLength)
  simp only [PaddedMac.close, hpad, hfirst, hsecond, Bytes.zeros_zero, List.append_nil, habsorb,
    ok_bind, Buffer.copy_eq_ok htag, hclosed.state, SealMachine.closeMac]

end Holds

end PaddedMac

/-! ### The AEAD -/

namespace ChaCha20Poly1305

/-- The keystream of a nonce has as many blocks as a word can count. -/
def guardedKeystream (key nonce : Bytes) (position : Nat) (buffer : Bytes) : Guarded Bytes :=
  if position + buffer.length ≤ 2 ^ 32 * ChaCha20.blockLength then
    .ok (Bytes.xor buffer (ChaCha20.keystream key nonce position buffer.length))
  else .error .overflow

def guardedStart (key nonce : Bytes) : Guarded PaddedMac := do
  PaddedMac.ofKey (← guardedKeystream key nonce 0 (Bytes.zeros 32))

def guardedPayload (key nonce input : Bytes) : Guarded Bytes := do
  let output ← Buffer.overwrite (Bytes.zeros input.length) 0 input.length input
  guardedKeystream key nonce ChaCha20.blockLength output

/-- The additional data are closed before the payload is taken, whose ciphertext is absorbed. -/
def guardedTag (key nonce data ciphertext : Bytes) : Guarded Bytes := do
  let mac ← (← (← guardedStart key nonce).absorb data).pad
  let mac ← mac.absorb ciphertext
  mac.close data.length ciphertext.length

theorem guardedStart_eq_ok (key nonce : Bytes) : ∃ mac, guardedStart key nonce = .ok mac
    ∧ mac.Holds (Absorber.start (Poly1305.ofKey (macKey key nonce))) := by
  have hkey := zeros_xor_keystream key nonce
  have hlength : (Bytes.zeros 32).length = (macKey key nonce).length := by
    simp [macKey]
  have hshort : 0 + 32 ≤ 2 ^ 32 * ChaCha20.blockLength := by decide
  simp only [guardedStart, guardedKeystream, Bytes.length_zeros, if_pos hshort, ok_bind, hkey,
    PaddedMac.ofKey, Buffer.copy_eq_ok hlength, pure_eq_ok]
  exact ⟨_, rfl, rfl, Bytes.length_zeros 16, rfl, rfl⟩

theorem guardedPayload_eq_ok (key nonce : Bytes) {input : Bytes}
    (hinput : input.length < lengthFieldBound) :
    guardedPayload key nonce input = .ok (mask key nonce input) := by
  have hshort : ChaCha20.blockLength + input.length ≤ 2 ^ 32 * ChaCha20.blockLength := by
    simp only [lengthFieldBound, ChaCha20.blockLength] at hinput ⊢
    omega
  simp only [guardedPayload, Buffer.overwrite_all, ok_bind, guardedKeystream, if_pos hshort, mask]

theorem guardedTag_eq_ok (key nonce data ciphertext : Bytes) :
    guardedTag key nonce data ciphertext = .ok (tag key nonce data ciphertext) := by
  obtain ⟨started, hstart, hstarted⟩ := guardedStart_eq_ok key nonce
  obtain ⟨absorbed, habsorb, habsorbed⟩ := hstarted.absorb data
  obtain ⟨padded, hpad, hpadded⟩ := habsorbed.pad
  obtain ⟨last, hlast, hholds⟩ := hpadded.absorb ciphertext
  simp only [guardedTag, hstart, habsorb, hpad, hlast, ok_bind, hholds.close,
    SealMachine.closeMac_absorb]

end ChaCha20Poly1305

def GuardedAead.chaCha20Poly1305 (key : Bytes) : GuardedAead where
  tagLength := ChaCha20Poly1305.tagLength
  encrypt nonce data plaintext := do
    let nonce ← Buffer.copy (Bytes.zeros ChaCha20Poly1305.nonceLength) nonce
    let ciphertext ← ChaCha20Poly1305.guardedPayload key nonce plaintext
    return .ok (ciphertext, ← ChaCha20Poly1305.guardedTag key nonce data ciphertext)
  decrypt nonce data ciphertext tag := do
    let nonce ← Buffer.copy (Bytes.zeros ChaCha20Poly1305.nonceLength) nonce
    let plaintext ← ChaCha20Poly1305.guardedPayload key nonce ciphertext
    let expected ← ChaCha20Poly1305.guardedTag key nonce data ciphertext
    if expected = tag then return .ok plaintext else return .error .badRecordMac

theorem GuardedAead.refines_chaCha20Poly1305 (key : Bytes) :
    (chaCha20Poly1305 key).Refines (RecordProtection.chaCha20Poly1305 key)
      ChaCha20Poly1305.nonceLength := by
  have hcopy {nonce : Bytes} (hnonce : nonce.length = ChaCha20Poly1305.nonceLength) :
      Buffer.copy (Bytes.zeros ChaCha20Poly1305.nonceLength) nonce = .ok nonce :=
    Buffer.copy_eq_ok (by rw [hnonce, Bytes.length_zeros])
  refine ⟨rfl, Nat.le_refl _, Nat.le_of_ble_eq_true rfl, ?_, ?_⟩
  · intro nonce data plaintext hnonce _ hplaintext
    simp only [chaCha20Poly1305, hcopy hnonce, ok_bind, pure_eq_ok,
      ChaCha20Poly1305.guardedPayload_eq_ok key nonce hplaintext,
      ChaCha20Poly1305.guardedTag_eq_ok, RecordProtection.chaCha20Poly1305]
  · intro nonce data ciphertext tag hnonce _ hciphertext _
    simp only [chaCha20Poly1305, hcopy hnonce, ok_bind, pure_eq_ok,
      ChaCha20Poly1305.guardedPayload_eq_ok key nonce hciphertext,
      ChaCha20Poly1305.guardedTag_eq_ok, RecordProtection.chaCha20Poly1305]
    split <;> rfl

end RecordProtection
