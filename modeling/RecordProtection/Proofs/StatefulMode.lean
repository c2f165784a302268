import RecordProtection.Proofs.Placement
import RecordProtection.Proofs.SealMachine
import RecordProtection.StatefulMode

/-!
# Modes with their machines

A mode that keeps the machine of ChaCha20-Poly1305 from each record to the next answers every
sequence of calls like the mode that seals whole messages: a record puts the machine to rest before
it uses it, so nothing of the records before shows.
-/

namespace RecordProtection

/-! ### Records by one machine -/

namespace AeadMode

variable (aead : Aead) (iv : Bytes) (auth : Authenticator) (type : ContentType)

/-- Where nothing of the nonce is sent, a record is ciphertext and tag. -/
theorem encrypt_masked (plaintext : Bytes) :
    encrypt ⟨aead, .masked iv⟩ auth type plaintext
      = if plaintext.length > aead.maxLength then .error (.unsupportedOperation "AEAD seal")
        else
          let recordLength := plaintext.length + aead.tagLength
          let sent := aead.encrypt (maskIV iv auth.sequenceBlock)
            (auth.additionalData type plaintext.length recordLength) plaintext
          .ok (sent.1 ++ sent.2) := by
  simp only [encrypt, NonceLayout.sending, List.length_nil, Nat.zero_add, List.nil_append]

theorem decrypt_masked (record : Bytes) :
    decrypt ⟨aead, .masked iv⟩ auth type record
      = if record.length < aead.tagLength then .error (.recordTooShort record.length)
        else
          let length := record.length - aead.tagLength
          if length > aead.maxLength then .error .badRecordMac
          else
            match aead.decrypt (maskIV iv auth.sequenceBlock)
              (auth.additionalData type length record.length) (record.take length)
              (record.drop length) with
            | some plaintext => .ok plaintext
            | none => .error .badRecordMac := by
  by_cases hshort : record.length < aead.tagLength
  · simp only [decrypt, NonceLayout.receiving, bind, Except.bind, if_pos hshort, throw, throwThe,
      MonadExceptOf.throw]
  · by_cases hlong : record.length - aead.tagLength > aead.maxLength
    · simp only [decrypt, NonceLayout.receiving, bind, Except.bind, if_neg hshort, if_pos hlong,
        throw, throwThe, MonadExceptOf.throw]
    · simp only [decrypt, NonceLayout.receiving, bind, Except.bind, if_neg hshort, if_neg hlong]
      rfl

end AeadMode

namespace SealStep

@[simp]
theorem of_apply {α : Type} (call : SealMachine → Except RecordError α × SealMachine)
    (machine : SealMachine) : SealStep.of call machine = call machine :=
  rfl

@[simp]
theorem pure_apply {α : Type} (result : α) (machine : SealMachine) :
    (pure result : SealStep α) machine = (.ok result, machine) :=
  rfl

@[simp]
theorem modify_apply (f : SealMachine → SealMachine) (machine : SealMachine) :
    (modify f : SealStep PUnit) machine = (.ok ⟨⟩, f machine) :=
  rfl

@[simp]
theorem bind_apply {α β : Type} (step : SealStep α) (next : α → SealStep β)
    (machine : SealMachine) :
    (step >>= next) machine
      = match step machine with
        | (.ok result, after) => next result after
        | (.error e, after) => (.error e, after) := by
  rcases hstep : step machine with ⟨_ | result, after⟩
  · simp only [bind, ExceptT.bind, ExceptT.mk, StateT.bind, hstep, ExceptT.bindCont]
    rfl
  · simp only [bind, ExceptT.bind, ExceptT.mk, StateT.bind, hstep, ExceptT.bindCont]

end SealStep

namespace SealedRecords

section Run

variable {records : SealedRecords} {key old : Bytes} {position : Nat}
  (hcipher : records.machine.cipher = .chacha20 key old position) (nonce data : Bytes)
include hcipher

/-- From rest, header and payload go through as they do in a whole message. -/
theorem takePayload_eq (encrypts : Bool) (input : Bytes) :
    takePayload encrypts nonce data input records.reset.machine
      = (.ok (ChaCha20Poly1305.mask key nonce input),
        ⟨.chacha20 key nonce (ChaCha20.blockLength + input.length), encrypts,
          .payload (SealMachine.absorb (SealMachine.absorbPadding (SealMachine.absorb
              (Absorber.start (Poly1305.ofKey (ChaCha20Poly1305.macKey key nonce))) data))
              (if encrypts then ChaCha20Poly1305.mask key nonce input else input))
            data.length input.length⟩) := by
  have hmachine : (records.machine.turn encrypts).cipher = .chacha20 key old position := hcipher
  refine Eq.trans ?_ (SealMachine.message_eq hmachine nonce data input)
  simp only [takePayload, SealStep.bind_apply, SealStep.modify_apply, SealStep.of_apply, reset,
    SealMachine.message, SealMachine.reset, SealMachine.turn, hcipher, StreamCipher.reset,
    SealMachine.start, SealMachine.takeMacKey_chacha20, SealMachine.updateData]

theorem run_sealPayload (plaintext : Bytes) :
    records.run (sealPayload nonce data plaintext)
      = (.ok (((chaCha20Poly1305 key).encrypt nonce data plaintext).1
          ++ ((chaCha20Poly1305 key).encrypt nonce data plaintext).2),
        { records with
          machine.cipher := .chacha20 key nonce (ChaCha20.blockLength + plaintext.length)
          machine.forEncryption := true
          machine.phase := .finished }) := by
  have htag := SealMachine.closeMac_absorb key nonce data
    (ChaCha20Poly1305.mask key nonce plaintext)
  rw [ChaCha20Poly1305.length_mask] at htag
  simp only [run, sealPayload, SealStep.bind_apply, takePayload_eq hcipher, SealStep.of_apply,
    SealMachine.finalize, if_true, htag, SealStep.pure_apply, chaCha20Poly1305]

/-- The machine is done with the record, whether or not the tag is right. -/
theorem run_openPayload (ciphertext tag : Bytes) :
    records.run (openPayload nonce data ciphertext tag)
      = (match (chaCha20Poly1305 key).decrypt nonce data ciphertext tag with
          | some plaintext => .ok plaintext
          | none => .error .badRecordMac,
        { records with
          machine.cipher := .chacha20 key nonce (ChaCha20.blockLength + ciphertext.length)
          machine.forEncryption := false
          machine.phase := .finished }) := by
  have htag := SealMachine.closeMac_absorb key nonce data ciphertext
  simp only [run, openPayload, SealStep.bind_apply, takePayload_eq hcipher, SealStep.of_apply,
    SealMachine.verify, SealMachine.finalize, Bool.false_eq_true, if_false, htag, chaCha20Poly1305]
  by_cases hright : ChaCha20Poly1305.tag key nonce data ciphertext = tag
  · simp only [hright, if_true, SealStep.pure_apply]
  · simp only [hright, if_false]

end Run

/-- The mode that seals whole messages under the key of the machine. -/
def Seals (records : SealedRecords) (mode : AeadMode) : Prop :=
  ∃ key nonce position, records.machine.cipher = .chacha20 key nonce position
    ∧ mode = ⟨chaCha20Poly1305 key, .masked records.iv⟩

section Seals

variable {records : SealedRecords} {mode : AeadMode} (hrecords : records.Seals mode)
include hrecords

theorem Seals.reset : records.reset.Seals mode := by
  obtain ⟨key, nonce, position, hcipher, rfl⟩ := hrecords
  refine ⟨key, nonce, 0, ?_, rfl⟩
  simp only [SealedRecords.reset, SealMachine.turn, SealMachine.reset, hcipher, StreamCipher.reset]

theorem Seals.encrypt (auth : Authenticator) (type : ContentType) (plaintext : Bytes) :
    (records.encrypt auth type plaintext).1 = mode.encrypt auth type plaintext
      ∧ (records.encrypt auth type plaintext).2.Seals mode := by
  obtain ⟨key, nonce, position, hcipher, rfl⟩ := id hrecords
  have hmax : (chaCha20Poly1305 key).maxLength = maxLength := rfl
  have htag : (chaCha20Poly1305 key).tagLength = ChaCha20Poly1305.tagLength := rfl
  rw [AeadMode.encrypt_masked, SealedRecords.encrypt, hmax, htag]
  by_cases hlong : plaintext.length > maxLength
  · simp only [if_pos hlong, true_and]
    exact hrecords
  · simp only [if_neg hlong, run_sealPayload hcipher, true_and]
    exact ⟨key, _, _, rfl, rfl⟩

theorem Seals.decrypt (auth : Authenticator) (type : ContentType) (record : Bytes) :
    (records.decrypt auth type record).1 = mode.decrypt auth type record
      ∧ (records.decrypt auth type record).2.Seals mode := by
  obtain ⟨key, nonce, position, hcipher, rfl⟩ := id hrecords
  have hmax : (chaCha20Poly1305 key).maxLength = maxLength := rfl
  have htag : (chaCha20Poly1305 key).tagLength = ChaCha20Poly1305.tagLength := rfl
  rw [AeadMode.decrypt_masked, SealedRecords.decrypt, hmax, htag]
  by_cases hshort : record.length < ChaCha20Poly1305.tagLength
  · simp only [if_pos hshort, true_and]
    exact hrecords
  · by_cases hlong : record.length - ChaCha20Poly1305.tagLength > maxLength
    · simp only [if_neg hshort, if_pos hlong, true_and]
      exact hrecords
    · simp only [if_neg hshort, if_neg hlong, run_openPayload hcipher, true_and]
      exact ⟨key, _, _, rfl, rfl⟩

end Seals

end SealedRecords

/-! ### Counting -/

namespace Authenticator

/-- The answer to a call and the place behind it: a record that succeeds moves the counter on, if it
can still move. -/
def count (auth : Authenticator) (result : Except RecordError Bytes) :
    Except RecordError Bytes × Authenticator :=
  match result with
  | .error e => (.error e, auth)
  | .ok bytes =>
      match auth.advance with
      | .error e => (.error e, auth)
      | .ok next => (.ok bytes, next)

/-- Nothing but the place changes. -/
theorem exists_eq_of_count (auth : Authenticator) (result : Except RecordError Bytes) :
    ∃ sequence, (auth.count result).2 = { auth with sequence := sequence } := by
  cases result with
  | error e => exact ⟨auth.sequence, rfl⟩
  | ok bytes =>
      cases hadvance : auth.advance with
      | error e =>
          simp only [count, hadvance]
          exact ⟨auth.sequence, rfl⟩
      | ok next =>
          simp only [count, hadvance]
          obtain ⟨-, rfl⟩ := advance_eq_ok_iff.mp hadvance
          exact ⟨_, rfl⟩

end Authenticator

namespace CipherMode

theorem encrypt_eq_count (mode : CipherMode) (type : ContentType) (plaintext : Bytes)
    (random : RandomSource) :
    mode.encrypt type plaintext random
      = (let sent := mode.transform.encrypt mode.auth type plaintext random
        ((mode.auth.count sent.1).1, ⟨mode.kind, sent.2.1, (mode.auth.count sent.1).2⟩,
          sent.2.2)) := by
  rcases hsent : mode.transform.encrypt mode.auth type plaintext random with ⟨_ | record, _, _⟩
  · simp only [encrypt, hsent, Authenticator.count]
  · cases hadvance : mode.auth.advance <;>
      simp only [encrypt, hsent, Authenticator.count, hadvance]

theorem decrypt_eq_count (mode : CipherMode) (type : ContentType) (record : Bytes) :
    mode.decrypt type record
      = (let received := mode.transform.decrypt mode.auth type record
        ((mode.auth.count received.1).1,
          ⟨mode.kind, received.2, (mode.auth.count received.1).2⟩)) := by
  rcases hreceived : mode.transform.decrypt mode.auth type record with ⟨_ | plaintext, _⟩
  · simp only [decrypt, hreceived, Authenticator.count]
  · cases hadvance : mode.auth.advance <;>
      simp only [decrypt, hreceived, Authenticator.count, hadvance]

end CipherMode

theorem StatefulMode.count_eq (mode : StatefulMode) (result : Except RecordError Bytes) :
    mode.count result
      = ((mode.auth.count result).1, { mode with auth := (mode.auth.count result).2 }) := by
  cases result with
  | error e => rfl
  | ok bytes =>
      cases hadvance : mode.auth.advance <;> simp only [count, Authenticator.count, hadvance]

/-! ### Calls -/

/-- What can happen to a mode; its counter can be moved to any place. -/
inductive ModeCall where
  | encrypt (type : ContentType) (plaintext : Bytes)
  | decrypt (type : ContentType) (record : Bytes)
  | reset
  | place (sequence : Sequence)

namespace ModeCall

/-- What a call gives: an answer, the state after it, and the random bytes that are left. -/
abbrev Step (σ : Type) :=
  σ → ModeCall → RandomSource → Except RecordError Bytes × σ × RandomSource

section Run

variable {σ τ : Type} (step : Step σ)

/-- The answers to calls that are made one after the other. -/
def answers : σ → List ModeCall → RandomSource → List (Except RecordError Bytes)
  | _, [], _ => []
  | state, call :: calls, random =>
      let result := step state call random
      result.1 :: answers result.2.1 calls result.2.2

def after : σ → List ModeCall → RandomSource → σ
  | state, [], _ => state
  | state, call :: calls, random =>
      let result := step state call random
      after result.2.1 calls result.2.2

/-- Related states answer alike and move on to related states. -/
def Simulates (step : Step σ) (other : Step τ) (related : σ → τ → Prop) : Prop :=
  ∀ state twin, related state twin → ∀ call random,
    (step state call random).1 = (other twin call random).1
      ∧ related (step state call random).2.1 (other twin call random).2.1
      ∧ (step state call random).2.2 = (other twin call random).2.2

variable {step} {other : Step τ} {related : σ → τ → Prop}
  (hsimulates : Simulates step other related)
include hsimulates

theorem Simulates.answers_eq {state : σ} {twin : τ} (hstate : related state twin)
    (calls : List ModeCall) (random : RandomSource) :
    answers step state calls random = answers other twin calls random := by
  induction calls generalizing state twin random with
  | nil => rfl
  | cons call calls ih =>
      obtain ⟨hanswer, hnext, hrest⟩ := hsimulates state twin hstate call random
      rw [answers, answers, hanswer, hrest, ih hnext]

theorem Simulates.after {state : σ} {twin : τ} (hstate : related state twin)
    (calls : List ModeCall) (random : RandomSource) :
    related (ModeCall.after step state calls random) (ModeCall.after other twin calls random) := by
  induction calls generalizing state twin random with
  | nil => exact hstate
  | cons call calls ih =>
      obtain ⟨-, hnext, hrest⟩ := hsimulates state twin hstate call random
      rw [ModeCall.after, ModeCall.after, hrest]
      exact ih hnext _

end Run

end ModeCall

namespace CipherMode

def step (mode : CipherMode) (call : ModeCall) (random : RandomSource) :
    Except RecordError Bytes × CipherMode × RandomSource :=
  match call with
  | .encrypt type plaintext => mode.encrypt type plaintext random
  | .decrypt type record =>
      let (answer, mode) := mode.decrypt type record
      (answer, mode, random)
  | .reset => (.ok [], mode.reset, random)
  | .place sequence => (.ok [], mode.placed sequence, random)

end CipherMode

namespace StatefulMode

def placed (mode : StatefulMode) (sequence : Sequence) : StatefulMode :=
  { mode with auth := { mode.auth with sequence := sequence } }

def step (mode : StatefulMode) (call : ModeCall) (random : RandomSource) :
    Except RecordError Bytes × StatefulMode × RandomSource :=
  match call with
  | .encrypt type plaintext => mode.encrypt type plaintext random
  | .decrypt type record =>
      let (answer, mode) := mode.decrypt type record
      (answer, mode, random)
  | .reset => (.ok [], mode.reset, random)
  | .place sequence => (.ok [], mode.placed sequence, random)

end StatefulMode

/-! ### Modes that keep a machine -/

/-- The machine has the key of the mode that seals whole messages. -/
inductive StatefulTransform.Represents : StatefulTransform → Transform → Prop
  | transform (transform : Transform) : Represents (.transform transform) transform
  | sealed {records : SealedRecords} {mode : AeadMode} (hrecords : records.Seals mode) :
      Represents (.sealed records) (.aead mode)

namespace StatefulTransform.Represents

variable {state : StatefulTransform} {transform : Transform}
  (hstate : state.Represents transform)
include hstate

theorem encrypt (auth : Authenticator) (type : ContentType) (plaintext : Bytes)
    (random : RandomSource) :
    (state.encrypt auth type plaintext random).1
        = (transform.encrypt auth type plaintext random).1
      ∧ (state.encrypt auth type plaintext random).2.1.Represents
        (transform.encrypt auth type plaintext random).2.1
      ∧ (state.encrypt auth type plaintext random).2.2
        = (transform.encrypt auth type plaintext random).2.2 := by
  cases hstate with
  | transform transform => exact ⟨rfl, .transform _, rfl⟩
  | sealed hrecords =>
      obtain ⟨hresult, hkept⟩ := hrecords.encrypt auth type plaintext
      exact ⟨hresult, .sealed hkept, rfl⟩

theorem decrypt (auth : Authenticator) (type : ContentType) (record : Bytes) :
    (state.decrypt auth type record).1 = (transform.decrypt auth type record).1
      ∧ (state.decrypt auth type record).2.Represents
        (transform.decrypt auth type record).2 := by
  cases hstate with
  | transform transform => exact ⟨rfl, .transform _⟩
  | sealed hrecords =>
      obtain ⟨hresult, hkept⟩ := hrecords.decrypt auth type record
      exact ⟨hresult, .sealed hkept⟩

theorem reset : state.reset.Represents transform.reset := by
  cases hstate with
  | transform transform => exact .transform _
  | sealed hrecords => exact .sealed hrecords.reset

end StatefulTransform.Represents

namespace StatefulMode

structure Represents (state : StatefulMode) (mode : CipherMode) : Prop where
  kind : state.kind = mode.kind
  transform : state.transform.Represents mode.transform
  auth : state.auth = mode.auth

namespace Represents

variable {state : StatefulMode} {mode : CipherMode} (hstate : state.Represents mode)
include hstate

theorem encrypt (type : ContentType) (plaintext : Bytes) (random : RandomSource) :
    (state.encrypt type plaintext random).1 = (mode.encrypt type plaintext random).1
      ∧ (state.encrypt type plaintext random).2.1.Represents
        (mode.encrypt type plaintext random).2.1
      ∧ (state.encrypt type plaintext random).2.2 = (mode.encrypt type plaintext random).2.2 := by
  obtain ⟨hkind, htransform, hauth⟩ := hstate
  obtain ⟨hresult, hnext, hrest⟩ := htransform.encrypt mode.auth type plaintext random
  simp only [StatefulMode.encrypt, count_eq, CipherMode.encrypt_eq_count, hauth, hresult, hrest]
  exact ⟨trivial, ⟨hkind, hnext, rfl⟩, trivial⟩

theorem decrypt (type : ContentType) (record : Bytes) :
    (state.decrypt type record).1 = (mode.decrypt type record).1
      ∧ (state.decrypt type record).2.Represents (mode.decrypt type record).2 := by
  obtain ⟨hkind, htransform, hauth⟩ := hstate
  obtain ⟨hresult, hnext⟩ := htransform.decrypt mode.auth type record
  simp only [StatefulMode.decrypt, count_eq, CipherMode.decrypt_eq_count, hauth, hresult]
  exact ⟨trivial, ⟨hkind, hnext, rfl⟩⟩

theorem reset : state.reset.Represents mode.reset where
  kind := hstate.kind
  transform := hstate.transform.reset
  auth := by
    simp only [StatefulMode.reset, CipherMode.reset, hstate.auth]

theorem placed (sequence : Sequence) :
    (state.placed sequence).Represents (mode.placed sequence) where
  kind := hstate.kind
  transform := hstate.transform
  auth := by
    simp only [StatefulMode.placed, CipherMode.placed, hstate.auth]

end Represents

theorem simulates : ModeCall.Simulates step CipherMode.step Represents := by
  intro state mode hstate call random
  cases call with
  | encrypt type plaintext => exact hstate.encrypt type plaintext random
  | decrypt type record =>
      obtain ⟨hresult, hnext⟩ := hstate.decrypt type record
      exact ⟨hresult, hnext, rfl⟩
  | reset => exact ⟨rfl, hstate.reset, rfl⟩
  | place sequence => exact ⟨rfl, hstate.placed sequence, rfl⟩

end StatefulMode

end RecordProtection
