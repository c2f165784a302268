import RecordProtection.Transcript
import RecordProtection.Proofs.Digest

/-!
# Transcripts as byte strings

A transcript holds messages, or one or two running hashes that took these messages over, and a
digest that was committed.  It answers like three plain things: the bytes fed so far, the hashes of
which their digest is put together, and the committed digest.  It makes no difference in which
pieces the bytes came, and which of them came before the hashes were known.
-/

namespace RecordProtection

/-! ### Calls -/

inductive TranscriptCall where
  | update (data : Bytes)
  | chooseHash (version : ProtocolVersion) (hash : HashAlgorithm)
  | commit
  | replaceWithMessageHash
  | digest
  | committed

/-- What a call answers, and the transcript behind it.  A call that only succeeds answers no
bytes. -/
def TranscriptCall.run (call : TranscriptCall) (transcript : Transcript) :
    Except RecordError Bytes × Transcript :=
  match call with
  | update data => (.ok [], transcript.update data)
  | chooseHash version hash => (transcript.chooseHash version hash).map (·.map fun _ => []) id
  | commit => transcript.commit.map (·.map fun _ => []) id
  | replaceWithMessageHash => transcript.replaceWithMessageHash.map (·.map fun _ => []) id
  | digest => (transcript.digest, transcript)
  | committed => (transcript.committed, transcript)

namespace Transcript

def answers (transcript : Transcript) : List TranscriptCall → List (Except RecordError Bytes)
  | [] => []
  | call :: calls => (call.run transcript).1 :: answers (call.run transcript).2 calls

def after (transcript : Transcript) (calls : List TranscriptCall) : Transcript :=
  calls.foldl (fun transcript call => (call.run transcript).2) transcript

end Transcript

/-! ### Bytes under hashes -/

/-- The bytes fed so far, the hashes of which their digest is put together, none of them before they
are chosen, and the digest committed last. -/
structure HashedBytes where
  bytes : Bytes
  hashes : List HashAlgorithm
  committed? : Option Bytes

namespace HashedBytes

def empty : HashedBytes := ⟨[], [], none⟩

/-- The first versions hash by MD5 and then by SHA-1, whatever the hash of the suite is. -/
def hashesOf (version : ProtocolVersion) (hash : HashAlgorithm) : List HashAlgorithm :=
  if version ∈ [.tls10, .tls11, .dtls10] then [.md5, .sha1] else [hash]

def digest (hashed : HashedBytes) : Except RecordError Bytes :=
  if hashed.hashes = [] then .error .notInitialized
  else .ok (hashed.hashes.flatMap fun hash => hash.digest hashed.bytes)

/-- A handshake message of type 254, with its length in three bytes. -/
def messageHash (digest : Bytes) : Bytes := 254 :: Bytes.ofNatBE 3 digest.length ++ digest

end HashedBytes

/-- What a call does to bytes under hashes. -/
def TranscriptCall.act (call : TranscriptCall) (hashed : HashedBytes) :
    Except RecordError Bytes × HashedBytes :=
  match call with
  | update data => (.ok [], { hashed with bytes := hashed.bytes ++ data })
  | chooseHash version hash =>
      if hashed.hashes = [] then
        (.ok [], { hashed with hashes := HashedBytes.hashesOf version hash })
      else (.error .alreadyInitialized, hashed)
  | commit =>
      match hashed.digest with
      | .ok value => (.ok [], { hashed with committed? := some value })
      | .error e => (.error e, hashed)
  | replaceWithMessageHash =>
      match hashed.hashes with
      | [hash] =>
          (.ok [], { hashed with bytes := HashedBytes.messageHash (hash.digest hashed.bytes) })
      | _ => (.error .notInitialized, hashed)
  | digest => (hashed.digest, hashed)
  | committed => (hashed.committed?.elim (.error .missingTranscriptDigest) .ok, hashed)

def HashedBytes.answers (hashed : HashedBytes) :
    List TranscriptCall → List (Except RecordError Bytes)
  | [] => []
  | call :: calls => (call.act hashed).1 :: answers (call.act hashed).2 calls

/-! ### The states of a transcript -/

namespace TranscriptState

/-- The state holds the bytes, or the hashes that were fed with all of them. -/
inductive Hashes : TranscriptState → List HashAlgorithm → Bytes → Prop
  | buffering (bytes : Bytes) : Hashes (.buffering bytes) [] bytes
  | paired (bytes : Bytes) :
      Hashes (.paired ((RunningHash.start .md5).update bytes)
        ((RunningHash.start .sha1).update bytes)) [.md5, .sha1] bytes
  | single (hash : HashAlgorithm) (bytes : Bytes) :
      Hashes (.single ((RunningHash.start hash).update bytes)) [hash] bytes

theorem hashes_start (version : ProtocolVersion) (hash : HashAlgorithm) :
    (start version hash).Hashes (HashedBytes.hashesOf version hash) [] := by
  cases version with
  | tls10 | tls11 | dtls10 => exact .paired []
  | tls12 | tls13 | dtls12 | dtls13 => exact .single hash []

theorem Hashes.feed {state : TranscriptState} {hashes : List HashAlgorithm} {bytes : Bytes}
    (h : state.Hashes hashes bytes) (data : Bytes) :
    (state.feed data).Hashes hashes (bytes ++ data) := by
  cases h with
  | buffering => exact .buffering (bytes ++ data)
  | paired =>
      simp only [TranscriptState.feed, ← RunningHash.update_append]
      exact .paired (bytes ++ data)
  | single hash =>
      simp only [TranscriptState.feed, ← RunningHash.update_append]
      exact .single hash (bytes ++ data)

end TranscriptState

/-- A digest is short enough for its length to be written in one byte. -/
theorem Transcript.messageHash_digest (hash : HashAlgorithm) (bytes : Bytes) :
    messageHash (hash.digest bytes) = HashedBytes.messageHash (hash.digest bytes) := by
  have hlength := hash.length_digest bytes
  have hshort := hash.outputLength_le
  rw [← hlength] at hshort
  simp only [messageHash, HashedBytes.messageHash, Bytes.ofNatBE, Bytes.ofNatLE,
    Nat.div_eq_of_lt (show (hash.digest bytes).length < 256 by omega)]
  rfl

/-- The bytes under hashes that a transcript stands for. -/
structure Transcript.Holds (transcript : Transcript) (hashed : HashedBytes) : Prop where
  state : transcript.state.Hashes hashed.hashes hashed.bytes
  committed : transcript.committed? = hashed.committed?

namespace Transcript

variable {transcript : Transcript} {hashed : HashedBytes}

theorem holds_empty : empty.Holds .empty := ⟨.buffering [], rfl⟩

namespace Holds

theorem digest_eq (h : transcript.Holds hashed) : transcript.digest = hashed.digest := by
  obtain ⟨state, committed⟩ := transcript
  obtain ⟨bytes, hashes, other⟩ := hashed
  have hstate : state.Hashes hashes bytes := h.state
  cases hstate with
  | buffering => rfl
  | paired | single =>
      simp [Transcript.digest, HashedBytes.digest, RunningHash.digest_update_start]

/-- Every call answers as it does for the bytes, and leaves a transcript that stands for them. -/
theorem step (h : transcript.Holds hashed) (call : TranscriptCall) :
    (call.run transcript).1 = (call.act hashed).1
      ∧ (call.run transcript).2.Holds (call.act hashed).2 := by
  have hdigest := h.digest_eq
  obtain ⟨state, committed⟩ := transcript
  obtain ⟨bytes, hashes, other⟩ := hashed
  have hstate : state.Hashes hashes bytes := h.state
  obtain rfl : committed = other := h.committed
  cases call with
  | update data => exact ⟨rfl, hstate.feed data, rfl⟩
  | chooseHash version hash =>
      cases hstate with
      | buffering => exact ⟨rfl, (TranscriptState.hashes_start version hash).feed bytes, rfl⟩
      | paired | single => exact ⟨rfl, by constructor, rfl⟩
  | commit =>
      simp only [TranscriptCall.run, TranscriptCall.act, commit, hdigest]
      cases HashedBytes.digest ⟨bytes, hashes, committed⟩ with
      | ok digest => exact ⟨rfl, hstate, rfl⟩
      | error e => exact ⟨rfl, hstate, rfl⟩
  | replaceWithMessageHash =>
      cases hstate with
      | buffering | paired => exact ⟨rfl, by constructor, rfl⟩
      | single hash =>
          refine ⟨rfl, ?_, rfl⟩
          simp only [TranscriptCall.act, ← messageHash_digest]
          exact .single hash _
  | digest => exact ⟨hdigest, hstate, rfl⟩
  | committed =>
      refine ⟨?_, hstate, rfl⟩
      cases committed <;> rfl

theorem answers_eq (h : transcript.Holds hashed) (calls : List TranscriptCall) :
    transcript.answers calls = hashed.answers calls := by
  induction calls generalizing transcript hashed with
  | nil => rfl
  | cons call calls ih =>
      obtain ⟨hanswer, hnext⟩ := h.step call
      rw [answers, HashedBytes.answers, hanswer, ih hnext]

end Holds

/-- No call that fails changes anything, whatever the transcript is. -/
theorem run_of_error {call : TranscriptCall} {error : RecordError}
    (hrun : (call.run transcript).1 = .error error) : (call.run transcript).2 = transcript := by
  obtain ⟨state, committed⟩ := transcript
  cases call with
  | update data => cases hrun
  | chooseHash version hash =>
      cases state with
      | buffering => cases hrun
      | paired | single => rfl
  | commit =>
      cases state with
      | buffering => rfl
      | paired | single => cases hrun
  | replaceWithMessageHash =>
      cases state with
      | buffering | paired => rfl
      | single => cases hrun
  | digest | committed => rfl

/-- From the empty transcript, any calls answer like the bytes under hashes: a digest is that of all
bytes so far under the chosen hashes, in which a message hash has taken the place of those before
it.  A call that fails changes nothing. -/
theorem answers_like_hashed_bytes (calls : List TranscriptCall) :
    empty.answers calls = HashedBytes.empty.answers calls
      ∧ ∀ (call : TranscriptCall) (error : RecordError),
        (call.run (empty.after calls)).1 = .error error →
          (call.run (empty.after calls)).2 = empty.after calls :=
  ⟨holds_empty.answers_eq calls, fun _ _ => run_of_error⟩

end Transcript

end RecordProtection
