import RecordProtection.Aead.ChaCha20Poly1305
import RecordProtection.Proofs.Stream

/-!
# Whole messages through the machine

A machine that is reset and then takes a whole message gives the ciphertext and the tag of the one
operation on whole messages, whatever it was in the middle of.  So nothing of a record, read or not,
shows in the next one.
-/

namespace RecordProtection

namespace Absorber

variable {σ : Type} {width : Nat} {step : σ → Bytes → σ}

@[simp]
theorem length_feed (a : Absorber σ) (data : Bytes) :
    (a.feed width step data).length = a.length + data.length := by
  induction data generalizing a with
  | nil => rfl
  | cons byte rest ih =>
      have hpushed : (a.push width step byte).length = a.length + 1 := by
        unfold push
        split <;> rfl
      rw [feed, List.foldl_cons]
      exact (ih _).trans (by rw [hpushed, List.length_cons]; omega)

/-- Bytes that do not complete the open block wait in it. -/
theorem feed_within_block (a : Absorber σ) (data : Bytes)
    (hopen : a.length % width + data.length < width) :
    a.feed width step data = ⟨a.state, data.reverse ++ a.newest, a.length + data.length⟩ := by
  induction data generalizing a with
  | nil => rfl
  | cons byte rest ih =>
      rw [List.length_cons] at hopen
      have hnext : (a.length + 1) % width = a.length % width + 1 := by
        rw [Nat.add_mod, Nat.mod_eq_of_lt (show 1 < width by omega), Nat.mod_eq_of_lt (by omega)]
      have hpushed : a.push width step byte = ⟨a.state, byte :: a.newest, a.length + 1⟩ :=
        if_neg (by omega)
      rw [feed, List.foldl_cons, hpushed]
      have hrest := ih ⟨a.state, byte :: a.newest, a.length + 1⟩ (by simp only [hnext]; omega)
      refine hrest.trans ?_
      simp only [List.reverse_cons, List.append_assoc, List.singleton_append, List.length_cons]
      congr 1
      omega

/-- Bytes that complete the open block run the step on it. -/
theorem feed_completes_block (a : Absorber σ) {data : Bytes} (hdata : data ≠ [])
    (hfull : a.length % width + data.length = width) :
    a.feed width step data
      = ⟨step a.state (a.pending ++ data), [], a.length + data.length⟩ := by
  obtain ⟨front, last, rfl⟩ : ∃ front last, data = front ++ [last] :=
    ⟨_, _, (List.dropLast_concat_getLast hdata).symm⟩
  rw [List.length_append, List.length_singleton] at hfull
  have hopen : a.length % width + front.length < width := by
    omega
  have hwhole : (a.length + front.length + 1) % width = 0 := by
    have hsplit := Nat.div_add_mod a.length width
    have htotal : a.length + front.length + 1 = width * (a.length / width + 1) := by
      rw [Nat.mul_add, Nat.mul_one]
      omega
    rw [htotal, Nat.mul_mod_right]
  rw [feed_append, feed_within_block a front hopen]
  simp only [feed, List.foldl_cons, List.foldl_nil, push, hwhole, if_true, List.reverse_cons,
    List.reverse_append, List.reverse_reverse, pending, List.length_append, List.length_singleton,
    List.append_assoc]
  rw [Nat.add_assoc]

/-- A whole block at its place runs the step on it. -/
theorem feed_block (state : σ) {length : Nat} (hlength : width ∣ length) {block : Bytes}
    (hwidth : 0 < width) (hblock : block.length = width) :
    feed width step ⟨state, [], length⟩ block = ⟨step state block, [], length + width⟩ := by
  have hne : block ≠ [] := List.length_pos_iff.mp (hblock ▸ hwidth)
  have hfull : length % width + block.length = width := by
    rw [Nat.mod_eq_zero_of_dvd hlength, Nat.zero_add, hblock]
  rw [feed_completes_block ⟨state, [], length⟩ hne hfull, hblock]
  rfl

/-- Whole blocks run the step one after the other. -/
theorem feed_blocks (state : σ) {length : Nat} (hlength : width ∣ length) (hwidth : 0 < width)
    (blocks : List Bytes) (hblocks : ∀ block ∈ blocks, block.length = width) :
    feed width step ⟨state, [], length⟩ blocks.flatten
      = ⟨blocks.foldl step state, [], length + blocks.flatten.length⟩ := by
  induction blocks generalizing state length with
  | nil => rfl
  | cons block blocks ih =>
      have hblock := hblocks block (by simp)
      have hnext : width ∣ length + width := Nat.dvd_add hlength (Nat.dvd_refl width)
      rw [List.flatten_cons, feed_append, feed_block state hlength hwidth hblock,
        ih _ hnext fun other hother => hblocks other (by simp [hother])]
      simp only [List.foldl_cons, List.length_append, hblock, Nat.add_assoc]

theorem state_feed_start (state : σ) (hwidth : 0 < width) {data : Bytes}
    (hwhole : width ∣ data.length) :
    (feed width step (start state) data).state = (Bytes.chunks width data).foldl step state := by
  have hfeed := @feed_blocks _ _ step state _ (Nat.dvd_zero width) hwidth
    (Bytes.chunks width data) (Bytes.length_of_mem_chunks hwidth hwhole)
  rw [Bytes.flatten_chunks] at hfeed
  rw [start, hfeed]

end Absorber

/-- Zeros that are masked give the mask. -/
theorem ChaCha20Poly1305.zeros_xor_keystream (key nonce : Bytes) :
    Bytes.xor (Bytes.zeros 32) (ChaCha20.keystream key nonce 0 32) = macKey key nonce := by
  have hzeros := Bytes.zeros_xor (ChaCha20.keystream key nonce 0 32)
  rwa [ChaCha20.length_keystream] at hzeros

namespace SealMachine

/-- Zeros behind a piece that starts at a block fill it up to whole blocks. -/
theorem absorbPadding_absorb {mac : Absorber Poly1305} (hmac : 16 ∣ mac.length) (data : Bytes) :
    absorbPadding (absorb mac data) = absorb mac (Bytes.padTo 16 data) := by
  have hrest : (mac.length + data.length) % 16 = data.length % 16 := by
    omega
  simp only [absorbPadding, absorb, Absorber.length_feed, hrest, Bytes.padTo, Absorber.feed_append]

/-- What has been absorbed in blocks and is closed gives the tag of a whole message. -/
theorem closeMac_absorb (key nonce data ciphertext : Bytes) :
    closeMac (absorb (absorbPadding (absorb (Absorber.start
        (Poly1305.ofKey (ChaCha20Poly1305.macKey key nonce))) data)) ciphertext)
      data.length ciphertext.length
      = ChaCha20Poly1305.tag key nonce data ciphertext := by
  have hstart : 16 ∣ (Absorber.start
      (Poly1305.ofKey (ChaCha20Poly1305.macKey key nonce))).length := Nat.dvd_zero 16
  have hdata := Bytes.dvd_length_padTo (show 0 < 16 by decide) data
  have hciphertext := Bytes.dvd_length_padTo (show 0 < 16 by decide) ciphertext
  have hblock : 16 ∣ (absorb (Absorber.start
      (Poly1305.ofKey (ChaCha20Poly1305.macKey key nonce))) (Bytes.padTo 16 data)).length := by
    rw [absorb, Absorber.length_feed]
    exact Nat.dvd_add hstart hdata
  have hlengths : 16 ∣ (ChaCha20Poly1305.lengths data.length ciphertext.length).length := by
    simp [ChaCha20Poly1305.lengths]
  have hwhole : 16 ∣ (Bytes.padTo 16 data ++ Bytes.padTo 16 ciphertext
      ++ ChaCha20Poly1305.lengths data.length ciphertext.length).length := by
    rw [List.length_append, List.length_append]
    exact Nat.dvd_add (Nat.dvd_add hdata hciphertext) hlengths
  rw [closeMac, absorbPadding_absorb hstart, absorbPadding_absorb hblock]
  simp only [absorb, ← Absorber.feed_append]
  rw [Absorber.state_feed_start _ (by decide) hwhole]
  rfl

/-- Whatever the cipher was used for before, a nonce puts it at the start of its keystream. -/
theorem takeMacKey_chacha20 (key old nonce : Bytes) (position : Nat) :
    takeMacKey (.chacha20 key old position) nonce
      = .ok (ChaCha20Poly1305.macKey key nonce, .chacha20 key nonce ChaCha20.blockLength) := by
  have hkey := ChaCha20Poly1305.zeros_xor_keystream key nonce
  have happly : (StreamCipher.chacha20 key nonce 0).apply (Bytes.zeros 32)
      = (ChaCha20Poly1305.macKey key nonce, .chacha20 key nonce 32) := by
    simp only [StreamCipher.apply, StreamCipher.keystream, Bytes.length_zeros, hkey, Nat.zero_add]
  simp only [takeMacKey, StreamCipher.start, bind, Except.bind, happly]
  rfl

/-- A whole message after a reset: additional data, then a payload with enough room. -/
def message (machine : SealMachine) (nonce data input : Bytes) :
    Except RecordError Bytes × SealMachine :=
  let started := (machine.reset.start nonce).2
  (started.updateData data).2.process input input.length

section Message

variable {machine : SealMachine} {key old : Bytes} {position : Nat}
  (hcipher : machine.cipher = .chacha20 key old position) (nonce data : Bytes)
include hcipher

/-- The machine is at the end of the payload, with the ciphertext absorbed. -/
theorem message_eq (input : Bytes) :
    machine.message nonce data input
      = (.ok (ChaCha20Poly1305.mask key nonce input),
        { machine with
          cipher := .chacha20 key nonce (ChaCha20.blockLength + input.length)
          phase := .payload
            (absorb (absorbPadding (absorb (Absorber.start
                (Poly1305.ofKey (ChaCha20Poly1305.macKey key nonce))) data))
              (if machine.forEncryption then ChaCha20Poly1305.mask key nonce input else input))
            data.length input.length }) := by
  simp only [message, reset, hcipher, StreamCipher.reset, start, takeMacKey_chacha20, updateData,
    process, Nat.lt_irrefl, if_false, processPayload, StreamCipher.apply, StreamCipher.keystream,
    ChaCha20Poly1305.mask, Nat.zero_add]

/-- Sealed in pieces, a record is the same as in one operation, whatever phase the machine was left
in. -/
theorem finalize_message (hencrypts : machine.forEncryption = true) (plaintext : Bytes) :
    (machine.message nonce data plaintext).1
        = .ok ((chaCha20Poly1305 key).encrypt nonce data plaintext).1
      ∧ (machine.message nonce data plaintext).2.finalize.1
        = .ok ((chaCha20Poly1305 key).encrypt nonce data plaintext).2 := by
  have hlength : plaintext.length = (ChaCha20Poly1305.mask key nonce plaintext).length := by
    simp [ChaCha20Poly1305.mask]
  have htag := closeMac_absorb key nonce data (ChaCha20Poly1305.mask key nonce plaintext)
  rw [message_eq hcipher, hencrypts]
  refine ⟨rfl, ?_⟩
  simp only [finalize, if_true]
  rw [hlength, htag]
  rfl

/-- A record is opened in pieces exactly if it is in one operation. -/
theorem verify_message_iff (hdecrypts : machine.forEncryption = false) (ciphertext tag : Bytes) :
    ((machine.message nonce data ciphertext).2.verify tag).1 = .ok ()
      ↔ ∃ plaintext, (machine.message nonce data ciphertext).1 = .ok plaintext
        ∧ (chaCha20Poly1305 key).decrypt nonce data ciphertext tag = some plaintext := by
  have htag := closeMac_absorb key nonce data ciphertext
  rw [message_eq hcipher, hdecrypts]
  simp only [verify, finalize, Bool.false_eq_true, if_false, htag, chaCha20Poly1305]
  by_cases hright : ChaCha20Poly1305.tag key nonce data ciphertext = tag
  · simp [hright]
  · simp [hright]

end Message

end SealMachine

end RecordProtection
