import RecordProtection.Proofs.Bounds.ChaCha20Poly1305
import RecordProtection.Proofs.SealMachine

/-!
# Messages in pieces

A message may be given to the machine in pieces: its additional data, and then its payload, in calls
of any number and with inputs of any length.  What comes out, put together, and the tag depend on
the whole message only, and so does what an opening machine accepts, which may be given other
pieces.
-/

namespace RecordProtection

/-! ### Calls -/

inductive SealCall where
  | start (nonce : Bytes)
  | updateData (data : Bytes)
  | process (input : Bytes) (room : Nat)
  | finalize
  | verify (tag : Bytes)
  | reset

/-- What a call answers, and the machine behind it.  A call that only succeeds answers no bytes. -/
def SealCall.run (call : SealCall) (machine : SealMachine) :
    Except RecordError Bytes × SealMachine :=
  match call with
  | start nonce => (machine.start nonce).map (·.map fun _ => []) id
  | updateData data => (machine.updateData data).map (·.map fun _ => []) id
  | process input room => machine.process input room
  | finalize => machine.finalize
  | verify tag => (machine.verify tag).map (·.map fun _ => []) id
  | reset => (.ok [], machine.reset)

namespace SealMachine

/-- A machine as it is built, whatever its cipher was used for before. -/
def ready (key old : Bytes) (position : Nat) (forEncryption : Bool) : SealMachine :=
  ⟨.chacha20 key old position, forEncryption, .ready⟩

def answers (machine : SealMachine) : List SealCall → List (Except RecordError Bytes)
  | [] => []
  | call :: calls => (call.run machine).1 :: answers (call.run machine).2 calls

def after (machine : SealMachine) (calls : List SealCall) : SealMachine :=
  calls.foldl (fun machine call => (call.run machine).2) machine

/-! ### Additional data in pieces -/

theorem answers_updateData (cipher : StreamCipher) (forEncryption : Bool)
    (mac : Absorber Poly1305) (length : Nat) (data : List Bytes) (rest : List SealCall) :
    answers ⟨cipher, forEncryption, .additionalData mac length⟩ (data.map .updateData ++ rest)
      = data.map (fun _ => .ok [])
        ++ answers ⟨cipher, forEncryption,
          .additionalData (absorb mac data.flatten) (length + data.flatten.length)⟩ rest := by
  induction data generalizing mac length with
  | nil => rfl
  | cons piece data ih =>
      have hpieces := ih (absorb mac piece) (length + piece.length)
      rw [List.flatten_cons, List.length_append, absorb, Absorber.feed_append, ← Nat.add_assoc]
      simp only [List.map_cons, List.cons_append]
      exact congrArg (Except.ok [] :: ·) hpieces

/-! ### A payload in pieces -/

/-- What the pieces of a payload give, one after the other. -/
def maskedPieces (key nonce : Bytes) : (position : Nat) → List Bytes → List Bytes
  | _, [] => []
  | position, piece :: pieces =>
      Bytes.xor piece (ChaCha20.keystream key nonce position piece.length)
        :: maskedPieces key nonce (position + piece.length) pieces

theorem flatten_maskedPieces (key nonce : Bytes) (position : Nat) (pieces : List Bytes) :
    (maskedPieces key nonce position pieces).flatten
      = Bytes.xor pieces.flatten
        (ChaCha20.keystream key nonce position pieces.flatten.length) := by
  induction pieces generalizing position with
  | nil => rfl
  | cons piece pieces ih =>
      have hpiece : piece.length = (ChaCha20.keystream key nonce position piece.length).length := by
        rw [ChaCha20.length_keystream]
      rw [maskedPieces, List.flatten_cons, ih, List.flatten_cons, List.length_append,
        ChaCha20.keystream_append]
      exact (List.zipWith_append hpiece).symm

theorem length_maskedPieces (key nonce : Bytes) (position : Nat) (pieces : List Bytes) :
    (maskedPieces key nonce position pieces).map List.length = pieces.map List.length := by
  induction pieces generalizing position with
  | nil => rfl
  | cons piece pieces ih =>
      simp only [maskedPieces, List.map_cons, ih, Bytes.length_xor, ChaCha20.length_keystream,
        Nat.min_self]

/-- The calls for a payload, each piece with what its output has of room beyond its length. -/
def payloadCalls (payload : List (Bytes × Nat)) : List SealCall :=
  payload.map fun piece => .process piece.1 (piece.1.length + piece.2)

def wholePayload (payload : List (Bytes × Nat)) : Bytes := (payload.map Prod.fst).flatten

/-- The ciphertext of what goes through the machine from a position on. -/
def covered (forEncryption : Bool) (key nonce : Bytes) (position : Nat) (input : Bytes) : Bytes :=
  if forEncryption then Bytes.xor input (ChaCha20.keystream key nonce position input.length)
  else input

theorem covered_append (forEncryption : Bool) (key nonce : Bytes) (position : Nat)
    (first second : Bytes) :
    covered forEncryption key nonce position (first ++ second)
      = covered forEncryption key nonce position first
        ++ covered forEncryption key nonce (position + first.length) second := by
  cases forEncryption with
  | false => rfl
  | true =>
      have hfirst : first.length = (ChaCha20.keystream key nonce position first.length).length := by
        rw [ChaCha20.length_keystream]
      simp only [covered, if_true, List.length_append, ChaCha20.keystream_append, Bytes.xor,
        List.zipWith_append hfirst]

theorem run_process (key nonce : Bytes) (position : Nat) (forEncryption : Bool)
    (mac : Absorber Poly1305) (dataLength payloadLength : Nat) (input : Bytes) (slack : Nat) :
    (SealCall.process input (input.length + slack)).run
        ⟨.chacha20 key nonce position, forEncryption, .payload mac dataLength payloadLength⟩
      = (.ok (Bytes.xor input (ChaCha20.keystream key nonce position input.length)),
        ⟨.chacha20 key nonce (position + input.length), forEncryption,
          .payload (absorb mac (covered forEncryption key nonce position input)) dataLength
            (payloadLength + input.length)⟩) := by
  have hroom : ¬ input.length + slack < input.length := by
    omega
  simp only [SealCall.run, process, hroom, if_false, processPayload, StreamCipher.apply,
    StreamCipher.keystream, covered]

theorem answers_process (key nonce : Bytes) (position : Nat) (forEncryption : Bool)
    (mac : Absorber Poly1305) (dataLength payloadLength : Nat) (payload : List (Bytes × Nat))
    (rest : List SealCall) :
    answers ⟨.chacha20 key nonce position, forEncryption, .payload mac dataLength payloadLength⟩
        (payloadCalls payload ++ rest)
      = (maskedPieces key nonce position (payload.map Prod.fst)).map .ok
        ++ answers ⟨.chacha20 key nonce (position + (wholePayload payload).length), forEncryption,
          .payload (absorb mac (covered forEncryption key nonce position (wholePayload payload)))
            dataLength (payloadLength + (wholePayload payload).length)⟩ rest := by
  induction payload generalizing position mac payloadLength with
  | nil =>
      have hnothing : covered forEncryption key nonce position [] = [] := by
        cases forEncryption <;> rfl
      simp only [payloadCalls, wholePayload, List.map_nil, List.flatten_nil, List.nil_append,
        maskedPieces, hnothing]
      rfl
  | cons piece payload ih =>
      obtain ⟨input, slack⟩ := piece
      have hwhole : wholePayload ((input, slack) :: payload) = input ++ wholePayload payload := rfl
      have hcalls : payloadCalls ((input, slack) :: payload) ++ rest
          = .process input (input.length + slack) :: (payloadCalls payload ++ rest) := rfl
      have hfirst := run_process key nonce position forEncryption mac dataLength payloadLength input
        slack
      rw [hcalls, answers, hfirst, ih, hwhole, covered_append, List.length_append,
        ← Nat.add_assoc, ← Nat.add_assoc]
      simp only [absorb, Absorber.feed_append, List.map_cons, maskedPieces, List.cons_append]

/-! ### Whole messages -/

theorem absorbPadding_absorbPadding (mac : Absorber Poly1305) :
    absorbPadding (absorbPadding mac) = absorbPadding mac := by
  have hblock : (absorbPadding mac).length % 16 = 0 := by
    rw [absorbPadding, absorb, Absorber.length_feed, Bytes.length_zeros]
    omega
  rw [absorbPadding, hblock]
  rfl

/-- What a call answers that ends a message with a tag; other calls do not. -/
def ending (tag : Bytes) : SealCall → Option (Except RecordError Bytes)
  | .finalize => some (.ok tag)
  | .verify other => some (if tag = other then .ok [] else .error .badRecordMac)
  | _ => none

section Ending

variable (cipher : StreamCipher) (forEncryption : Bool) (mac : Absorber Poly1305)
  {last : SealCall} {answer : Except RecordError Bytes}

theorem answers_ending (dataLength payloadLength : Nat)
    (hlast : ending (closeMac mac dataLength payloadLength) last = some answer) :
    answers ⟨cipher, forEncryption, .payload mac dataLength payloadLength⟩ [last] = [answer] := by
  cases last with
  | finalize =>
      cases hlast
      rfl
  | verify other =>
      cases hlast
      by_cases hright : closeMac mac dataLength payloadLength = other
      · simp only [answers, SealCall.run, verify, finalize, hright, if_true]
        rfl
      · simp only [answers, SealCall.run, verify, finalize, hright, if_false]
        rfl
  | start | updateData | process | reset => cases hlast

/-- A payload without any pieces ends the additional data all the same. -/
theorem answers_additionalData {tag : Bytes} (hlast : ending tag last = some answer)
    (length : Nat) (payload : List (Bytes × Nat)) :
    answers ⟨cipher, forEncryption, .additionalData mac length⟩ (payloadCalls payload ++ [last])
      = answers ⟨cipher, forEncryption, .payload (absorbPadding mac) length 0⟩
        (payloadCalls payload ++ [last]) := by
  have hclose : closeMac (absorbPadding mac) length 0 = closeMac mac length 0 := by
    rw [closeMac, absorbPadding_absorbPadding, closeMac]
  cases payload with
  | nil =>
      cases last with
      | finalize | verify =>
          simp only [payloadCalls, List.map_nil, List.nil_append, answers, SealCall.run, verify,
            finalize, hclose]
      | start | updateData | process | reset => cases hlast
  | cons piece payload =>
      have hroom : ¬ piece.1.length + piece.2 < piece.1.length := by
        omega
      simp only [payloadCalls, List.map_cons, List.cons_append, answers, SealCall.run, process,
        hroom, if_false, processPayload]

end Ending

/-- The calls for a message in pieces, up to the one that ends it. -/
def messageCalls (nonce : Bytes) (data : List Bytes) (payload : List (Bytes × Nat))
    (last : SealCall) : List SealCall :=
  .start nonce :: (data.map .updateData ++ (payloadCalls payload ++ [last]))

/-- Each call for a message succeeds, each piece of the payload gives a piece of the output, and the
last call has an answer of its own. -/
def Yields (machine : SealMachine) (nonce : Bytes) (data : List Bytes)
    (payload : List (Bytes × Nat)) (last : SealCall) (output : Bytes)
    (answer : Except RecordError Bytes) : Prop :=
  ∃ pieces : List Bytes, pieces.flatten = output
    ∧ pieces.map List.length = (payload.map Prod.fst).map List.length
    ∧ machine.answers (messageCalls nonce data payload last)
      = .ok [] :: (data.map (fun _ => .ok []) ++ (pieces.map .ok ++ [answer]))

theorem run_start (key old nonce : Bytes) (position : Nat) (forEncryption : Bool) :
    (SealCall.start nonce).run (ready key old position forEncryption)
      = (.ok [], ⟨.chacha20 key nonce ChaCha20.blockLength, forEncryption,
        .additionalData (Absorber.start
          (Poly1305.ofKey (ChaCha20Poly1305.macKey key nonce))) 0⟩) := by
  simp only [SealCall.run, start, ready, takeMacKey_chacha20]
  rfl

/-- A message in pieces gives the masked payload, and ends with the tag of the whole message. -/
theorem yields_of_ending (key old nonce : Bytes) (position : Nat) (forEncryption : Bool)
    (data : List Bytes) (payload : List (Bytes × Nat)) {last : SealCall}
    {answer : Except RecordError Bytes}
    (hlast : ending (ChaCha20Poly1305.tag key nonce data.flatten
      (covered forEncryption key nonce ChaCha20.blockLength (wholePayload payload))) last
        = some answer) :
    (ready key old position forEncryption).Yields nonce data payload last
      (ChaCha20Poly1305.mask key nonce (wholePayload payload)) answer := by
  have hlength : (wholePayload payload).length
      = (covered forEncryption key nonce ChaCha20.blockLength (wholePayload payload)).length := by
    cases forEncryption <;> simp [covered]
  rw [← closeMac_absorb, ← hlength] at hlast
  refine ⟨maskedPieces key nonce ChaCha20.blockLength (payload.map Prod.fst),
    flatten_maskedPieces _ _ _ _, length_maskedPieces _ _ _ _, ?_⟩
  rw [messageCalls, answers, run_start]
  simp only [answers_updateData, answers_additionalData _ _ _ hlast, answers_process, Nat.zero_add,
    answers_ending _ _ _ _ _ hlast]

end SealMachine

/-! ### The buffered authenticator -/

namespace PaddedMac

theorem Holds.absorb_pieces {m : PaddedMac} {mac : Absorber Poly1305} (hm : m.Holds mac)
    (pieces : List Bytes) :
    ∃ next, pieces.foldlM PaddedMac.absorb m = .ok next
      ∧ next.Holds (SealMachine.absorb mac pieces.flatten) := by
  induction pieces generalizing m mac with
  | nil => exact ⟨m, rfl, hm⟩
  | cons piece pieces ih =>
      obtain ⟨next, habsorb, hnext⟩ := hm.absorb piece
      obtain ⟨last, hpieces, hlast⟩ := ih hnext
      refine ⟨last, ?_, ?_⟩
      · rw [List.foldlM_cons, habsorb]
        exact hpieces
      · rw [List.flatten_cons, SealMachine.absorb, Absorber.feed_append]
        exact hlast

end PaddedMac

namespace ChaCha20Poly1305

/-- The tag of a message in pieces, from an authenticator that buffers an open block. -/
def guardedTagOfPieces (key nonce : Bytes) (data ciphertext : List Bytes) : Guarded Bytes := do
  let mac ← data.foldlM PaddedMac.absorb (← guardedStart key nonce)
  let mac ← ciphertext.foldlM PaddedMac.absorb (← mac.pad)
  mac.close data.flatten.length ciphertext.flatten.length

theorem guardedTagOfPieces_eq_ok (key nonce : Bytes) (data ciphertext : List Bytes) :
    guardedTagOfPieces key nonce data ciphertext
      = .ok (tag key nonce data.flatten ciphertext.flatten) := by
  obtain ⟨started, hstart, hstarted⟩ := guardedStart_eq_ok key nonce
  obtain ⟨absorbed, habsorb, habsorbed⟩ := hstarted.absorb_pieces data
  obtain ⟨padded, hpad, hpadded⟩ := habsorbed.pad
  obtain ⟨last, hlast, hholds⟩ := hpadded.absorb_pieces ciphertext
  simp only [guardedTagOfPieces, hstart, habsorb, hpad, hlast, Guarded.ok_bind, hholds.close,
    SealMachine.closeMac_absorb]

end ChaCha20Poly1305

namespace SealMachine

/-- Sealed in pieces, a message gives the ciphertext and the tag of the whole message.  Opened in
any other pieces it gives the plaintext back, and its tag alone is accepted.  A buffered
authenticator comes to the same tag. -/
theorem message_in_pieces (key nonce old other : Bytes) (position place : Nat)
    (data otherData : List Bytes) (payload otherPayload : List (Bytes × Nat))
    (hdata : otherData.flatten = data.flatten)
    (hpayload : wholePayload otherPayload
      = ChaCha20Poly1305.mask key nonce (wholePayload payload)) :
    let ciphertext := ChaCha20Poly1305.mask key nonce (wholePayload payload)
    let tag := ChaCha20Poly1305.tag key nonce data.flatten ciphertext
    (ready key old position true).Yields nonce data payload .finalize ciphertext (.ok tag)
      ∧ (∀ received, (ready key other place false).Yields nonce otherData otherPayload
          (.verify received) (wholePayload payload)
          (if received = tag then .ok [] else .error .badRecordMac))
      ∧ ChaCha20Poly1305.guardedTagOfPieces key nonce otherData (otherPayload.map Prod.fst)
        = .ok tag
      ∧ tag.length = 16 := by
  intro ciphertext tag
  refine ⟨yields_of_ending key old nonce position true data payload rfl, fun received => ?_, ?_,
    ChaCha20Poly1305.length_tag _ _ _ _⟩
  · have hopened : ChaCha20Poly1305.mask key nonce (wholePayload otherPayload)
        = wholePayload payload := by
      rw [hpayload, ChaCha20Poly1305.mask_mask]
    have hending : ending (ChaCha20Poly1305.tag key nonce otherData.flatten
        (covered false key nonce ChaCha20.blockLength (wholePayload otherPayload)))
          (.verify received) = some (if received = tag then .ok [] else .error .badRecordMac) := by
      have hcovered : covered false key nonce ChaCha20.blockLength (wholePayload otherPayload)
          = ciphertext := hpayload
      rw [hdata, hcovered]
      exact congrArg some (if_congr eq_comm rfl rfl)
    have hyields := yields_of_ending key other nonce place false otherData otherPayload hending
    rwa [hopened] at hyields
  · have hbuffered := ChaCha20Poly1305.guardedTagOfPieces_eq_ok key nonce otherData
      (otherPayload.map Prod.fst)
    have hwhole : (otherPayload.map Prod.fst).flatten = ciphertext := hpayload
    rwa [hdata, hwhole] at hbuffered

/-- Five bytes sealed as three, none and two, and opened as one and four. -/
theorem split_message_in_pieces :
    let key := Bytes.zeros 32
    let nonce := Bytes.zeros 12
    let ciphertext := ChaCha20Poly1305.mask key nonce [1, 2, 3, 4, 5]
    let tag := ChaCha20Poly1305.tag key nonce [6, 7, 8] ciphertext
    [[], [6, 7, 8]].flatten = [[6, 7], [8]].flatten
      ∧ wholePayload [([158], 0), ([5, 228, 186, 80], 2)] = ciphertext
      ∧ (ready key nonce 0 true).Yields nonce [[6, 7], [8]] [([1, 2, 3], 0), ([], 4), ([4, 5], 1)]
          .finalize ciphertext (.ok tag)
      ∧ (ready key nonce 0 false).Yields nonce [[], [6, 7, 8]]
          [([158], 0), ([5, 228, 186, 80], 2)] (.verify tag) [1, 2, 3, 4, 5] (.ok []) := by
  intro key nonce ciphertext tag
  have hpayload : wholePayload [([158], 0), ([5, 228, 186, 80], 2)] = ciphertext := by
    decide +kernel
  obtain ⟨hsealed, hopened, -⟩ := message_in_pieces key nonce nonce nonce 0 0 [[6, 7], [8]]
    [[], [6, 7, 8]] [([1, 2, 3], 0), ([], 4), ([4, 5], 1)] [([158], 0), ([5, 228, 186, 80], 2)]
    rfl hpayload
  have haccepted := hopened tag
  rw [if_pos] at haccepted
  · exact ⟨rfl, hpayload, hsealed, haccepted⟩
  · rfl

end SealMachine

end RecordProtection
