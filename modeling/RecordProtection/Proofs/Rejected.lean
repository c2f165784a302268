import RecordProtection.Proofs.Reached
import RecordProtection.Proofs.ReplayWindow

/-!
# Datagrams that are rejected

A call that fails leaves a receiver of datagrams as it was.  A call that succeeds has decrypted the
record, but for the compatibility records of version 1.3: these pass as they are, and still take
their place in the window and move the counter.
-/

namespace RecordProtection

/-- A number that passes leaves its mark. -/
theorem ReplayWindow.update_ne_of_check {window : ReplayWindow} {number : UInt64}
    (hcheck : window.check number = .ok ()) : window.update number ≠ window := by
  intro hsame
  have hrefused := window.refuses_update_self number
  rw [hsame] at hrefused
  exact not_refuses_of_check hcheck hrefused

namespace Direction

/-- Where the counter can be, the checked move back to it does not fail. -/
theorem moveTo_eq_restore (direction : Direction) {sequence : Sequence}
    (hnumber : sequence.number ≤ maxDatagramNumber) :
    direction.moveTo sequence = .ok (direction.restore sequence) := by
  simp only [moveTo, Authenticator.moveTo, gt_iff_lt, UInt64.not_lt.mpr hnumber, if_false, bind,
    Except.bind]
  rfl

end Direction

namespace Protector

/-! ### A receiver of version 1.3 -/

def chaChaKeys : TrafficKeys where
  macKey := Secret.ofBytes "mac key" []
  key := Secret.ofBytes "key" (Bytes.zeros 32)
  iv := Secret.ofBytes "iv" (Bytes.zeros 12)

def unkeyedReceiver : Protector :=
  create ⟨.dtls13, .server, CipherSuite.aead13 0x1303 "TLS_CHACHA20_POLY1305_SHA256" .chacha20 32
    .chaCha20Poly1305 12 16 .sha256⟩ {}

/-- A receiver of version 1.3 whose records have a place. -/
def keyedReceiver : Protector := (unkeyedReceiver.installReadKeys chaChaKeys).2

theorem reached_keyedReceiver : Reached keyedReceiver := by
  have hcreated : Reached unkeyedReceiver := .created rfl
  exact hcreated.installedReadKeys chaChaKeys

theorem keyedReceiver_mem_catalog : keyedReceiver.params.suite ∈ CipherSuite.catalog := by
  decide

variable {protector : Protector} {type : ContentType} {sequence : Sequence} {fragment : Bytes}

/-! ### Calls that fail -/

theorem InUse.eq_of_unprotectAt (hprotector : protector.InUse)
    (hsuite : protector.params.suite ∈ CipherSuite.catalog) {e : RecordError}
    (hfailed : (protector.unprotectAt type sequence fragment).1 = .error e) :
    (protector.unprotectAt type sequence fragment).2 = protector := by
  cases hplace : protector.checkPlace sequence with
  | error other => rw [unprotectAt_of_refused hplace]
  | ok read =>
      have hdatagram := isDatagram_of_checkPlace hplace
      have hstateless := hprotector.read.stateless hsuite hdatagram
      exact eq_of_unprotectAt_error hdatagram hstateless (Prod.ext hfailed rfl)

/-- A call that fails leaves no trace: the protector is the one before it, and whatever the attempt
has made of its read direction, the counter can be moved back to where it was.  The suite has to be
one of the catalog: a suite of version 1.3 with a running keystream, which the catalog does not
have, would not get back the keystream that a forged record has taken. -/
theorem unprotectAt_failed (hreached : Reached protector)
    (hsuite : protector.params.suite ∈ CipherSuite.catalog)
    (hdatagram : protector.params.version.isDatagram = true) {e : RecordError}
    (hfailed : (protector.unprotectAt type sequence fragment).1 = .error e) :
    (protector.unprotectAt type sequence fragment).2 = protector
      ∧ ∀ attempt : Direction, attempt.moveTo protector.read.sequence
        = .ok (attempt.restore protector.read.sequence) := by
  have hprotector := inUse_of_reached hreached
  have hnumber := hprotector.read.number_le_of_isDatagram hdatagram
  refine ⟨hprotector.eq_of_unprotectAt hsuite hfailed, fun attempt => ?_⟩
  exact attempt.moveTo_eq_restore hnumber

theorem short_record_leaves_no_trace :
    (keyedReceiver.unprotectAt .applicationData ⟨1, 5⟩ (Bytes.zeros 15)).1
        = .error (.recordTooShort 15)
      ∧ (keyedReceiver.unprotectAt .applicationData ⟨1, 5⟩ (Bytes.zeros 15)).2 = keyedReceiver := by
  have hfailed : (keyedReceiver.unprotectAt .applicationData ⟨1, 5⟩ (Bytes.zeros 15)).1
      = .error (.recordTooShort 15) := by
    rfl
  exact ⟨hfailed,
    (unprotectAt_failed reached_keyedReceiver keyedReceiver_mem_catalog rfl hfailed).1⟩

/-! ### Records that no mode has decrypted -/

/-- The record has been handed to the read mode at its place, and the mode has accepted it. -/
def Authenticates (protector : Protector) (type : ContentType) (sequence : Sequence)
    (fragment : Bytes) : Prop :=
  ∃ read, protector.checkPlace sequence = .ok read
    ∧ fragment.length ≤ protector.fragmentLimit
    ∧ (protector.reads13 = true → type = .applicationData)
    ∧ ∃ plaintext, (read.mode.decrypt type fragment).1 = .ok plaintext

/-- The record is a compatibility record of version 1.3 at a place that is free. -/
def PassesUnread (protector : Protector) (type : ContentType) (sequence : Sequence)
    (fragment : Bytes) : Prop :=
  protector.reads13 = true ∧ type = .changeCipherSpec
    ∧ fragment.length ≤ protector.fragmentLimit
    ∧ ∃ read, protector.checkPlace sequence = .ok read

theorem unprotect_of_changeCipherSpec (h13 : protector.reads13 = true)
    (hshort : fragment.length ≤ protector.fragmentLimit) :
    protector.unprotect .changeCipherSpec fragment
      = (.ok (.changeCipherSpec, fragment), protector) := by
  simp [unprotect, Nat.not_lt.mpr hshort, h13]

/-- A record that is read has been decrypted, or it has passed as it is. -/
theorem decrypt_of_unprotect_ok {next : Protector} {content : ContentType × Bytes}
    (hread : protector.unprotect type fragment = (.ok content, next)) :
    fragment.length ≤ protector.fragmentLimit
      ∧ (protector.reads13 = true ∧ type = .changeCipherSpec
        ∨ (protector.reads13 = true → type = .applicationData)
          ∧ ∃ plaintext, (protector.read.mode.decrypt type fragment).1 = .ok plaintext) := by
  unfold unprotect at hread
  split at hread
  · cases hread
  · rename_i hshort
    refine ⟨Nat.not_lt.mp hshort, ?_⟩
    split at hread
    · rename_i hpassed
      exact .inl (by simpa using hpassed)
    · split at hread
      · cases hread
      · rename_i hother
        obtain ⟨plaintext, hdecrypt, -⟩ := bind_eq_ok_iff.mp (Prod.mk.inj hread).1
        exact .inr ⟨by simpa using hother, plaintext, hdecrypt⟩

/-- A record that has not been decrypted is refused without a trace, or it passes as it is. -/
theorem InUse.unprotectAt_of_not_authenticates (hprotector : protector.InUse)
    (hsuite : protector.params.suite ∈ CipherSuite.catalog)
    (hforged : ¬ protector.Authenticates type sequence fragment) :
    (¬ protector.PassesUnread type sequence fragment
        ∧ (protector.unprotectAt type sequence fragment).2 = protector)
      ∨ protector.PassesUnread type sequence fragment
        ∧ (protector.unprotectAt type sequence fragment).2
          = (protector.readAt sequence.number protector.read.replay).markSeen sequence.number := by
  cases hplace : protector.checkPlace sequence with
  | error e =>
      refine .inl ⟨?_, by rw [unprotectAt_of_refused hplace]⟩
      rintro ⟨-, -, -, read, hread⟩
      rw [hplace] at hread
      cases hread
  | ok read =>
      have hdatagram := isDatagram_of_checkPlace hplace
      obtain ⟨-, -, -, hread⟩ := (checkPlace_eq_ok_iff hdatagram).mp hplace
      have hcall := unprotectAt_of_checkPlace hdatagram hplace type fragment
      rcases hunprotect : (protector.readAt sequence.number protector.read.replay).unprotect type
        fragment with ⟨e | content, after⟩
      · rw [hunprotect] at hcall
        refine .inl ⟨?_, hprotector.eq_of_unprotectAt hsuite (congrArg Prod.fst hcall)⟩
        rintro ⟨h13, rfl, hshort, -⟩
        have hpassed := @unprotect_of_changeCipherSpec
          (protector.readAt sequence.number protector.read.replay) fragment h13 hshort
        rw [hunprotect] at hpassed
        cases hpassed
      · rw [hunprotect] at hcall
        obtain ⟨hshort, ⟨h13, rfl⟩ | ⟨htype, plaintext, hdecrypt⟩⟩ :=
          decrypt_of_unprotect_ok hunprotect
        · refine .inr ⟨⟨h13, rfl, hshort, read, hplace⟩, ?_⟩
          have hpassed := @unprotect_of_changeCipherSpec
            (protector.readAt sequence.number protector.read.replay) fragment h13 hshort
          obtain rfl := (Prod.mk.inj (hunprotect.symm.trans hpassed)).2
          rw [hcall]
        · exact absurd ⟨read, hplace, hshort, htype, plaintext, hread ▸ hdecrypt⟩ hforged

theorem markSeen_of_no_window (hwindow : ¬ protector.config.replayWindow = true)
    (number : UInt64) : protector.markSeen number = protector :=
  if_neg hwindow

section Place

variable {read : Direction} (hplace : protector.checkPlace sequence = .ok read)
include hplace

theorem sequence_readAt_of_checkPlace :
    (protector.readAt sequence.number protector.read.replay).read.sequence = sequence := by
  obtain ⟨hepoch, -, -, -⟩ := (checkPlace_eq_ok_iff (isDatagram_of_checkPlace hplace)).mp hplace
  change (⟨protector.read.sequence.epoch, sequence.number⟩ : Sequence) = sequence
  rw [← hepoch]

/-- A free place is taken without a trace only where no window is kept and the counter is at this
place anyway. -/
theorem markSeen_keeps_iff :
    (((protector.readAt sequence.number protector.read.replay).markSeen
          sequence.number).read.replay = protector.read.replay
        ∧ ((protector.readAt sequence.number protector.read.replay).markSeen
          sequence.number).read.sequence = protector.read.sequence)
      ↔ ¬ (protector.config.replayWindow = true ∨ sequence ≠ protector.read.sequence) := by
  by_cases hwindow : protector.config.replayWindow = true
  · obtain ⟨-, hcheck, -, -⟩ := (checkPlace_eq_ok_iff (isDatagram_of_checkPlace hplace)).mp hplace
    have hmarked := ReplayWindow.update_ne_of_check (hcheck hwindow)
    simp [markSeen, readAt, hwindow, hmarked]
  · have hunmarked := @markSeen_of_no_window
      (protector.readAt sequence.number protector.read.replay) hwindow sequence.number
    have hreplay :
        (protector.readAt sequence.number protector.read.replay).read.replay
          = protector.read.replay := rfl
    simp [hunmarked, hreplay, sequence_readAt_of_checkPlace hplace, hwindow]

/-- Where window and counter are as before, nothing else is different. -/
theorem markSeen_eq_of_keeps
    (hkept : ¬ (protector.config.replayWindow = true ∨ sequence ≠ protector.read.sequence)) :
    (protector.readAt sequence.number protector.read.replay).markSeen sequence.number
      = protector := by
  obtain ⟨hwindow, hsequence⟩ := not_or.mp hkept
  obtain rfl : sequence = protector.read.sequence := not_not.mp hsequence
  exact markSeen_of_no_window hwindow _

end Place

/-- A record that the read mode has not accepted leaves window and counter where they were, and with
them the whole protector, unless it is a compatibility record of version 1.3 that passes under a
window or at another place than the next one. -/
theorem read_state_kept_iff_of_not_authenticates (hreached : Reached protector)
    (hsuite : protector.params.suite ∈ CipherSuite.catalog)
    (hforged : ¬ protector.Authenticates type sequence fragment) :
    (((protector.unprotectAt type sequence fragment).2.read.replay = protector.read.replay
          ∧ (protector.unprotectAt type sequence fragment).2.read.sequence
            = protector.read.sequence)
        ↔ ¬ (protector.PassesUnread type sequence fragment
          ∧ (protector.config.replayWindow = true ∨ sequence ≠ protector.read.sequence)))
      ∧ ((protector.unprotectAt type sequence fragment).2.read.replay = protector.read.replay →
        (protector.unprotectAt type sequence fragment).2.read.sequence = protector.read.sequence →
        (protector.unprotectAt type sequence fragment).2 = protector) := by
  have hprotector := inUse_of_reached hreached
  obtain ⟨hrefused, hkept⟩ | ⟨hpasses, hafter⟩ :=
    hprotector.unprotectAt_of_not_authenticates hsuite hforged
  · rw [hkept]
    exact ⟨⟨fun _ hpasses => hrefused hpasses.1, fun _ => ⟨rfl, rfl⟩⟩, fun _ _ => rfl⟩
  · have ⟨_, _, _, read, hplace⟩ := hpasses
    have hiff := markSeen_keeps_iff hplace
    rw [hafter]
    refine ⟨by simp only [hiff, hpasses, true_and], fun hreplay hsequence => ?_⟩
    exact markSeen_eq_of_keeps hplace (hiff.mp ⟨hreplay, hsequence⟩)

theorem short_record_keeps_read_state :
    ¬ keyedReceiver.Authenticates .applicationData ⟨1, 5⟩ (Bytes.zeros 15)
      ∧ (keyedReceiver.unprotectAt .applicationData ⟨1, 5⟩ (Bytes.zeros 15)).2.read.replay
        = keyedReceiver.read.replay
      ∧ (keyedReceiver.unprotectAt .applicationData ⟨1, 5⟩ (Bytes.zeros 15)).2.read.sequence
        = keyedReceiver.read.sequence := by
  have hforged : ¬ keyedReceiver.Authenticates .applicationData ⟨1, 5⟩ (Bytes.zeros 15) := by
    rintro ⟨read, hplace, -, -, plaintext, hdecrypt⟩
    obtain rfl := Except.ok.inj hplace
    cases hdecrypt
  refine ⟨hforged, ?_⟩
  refine (read_state_kept_iff_of_not_authenticates reached_keyedReceiver
    keyedReceiver_mem_catalog hforged).1.mpr ?_
  rintro ⟨⟨-, htype, -⟩, -⟩
  cases htype

/-- Not all records that the read mode has not accepted leave the read state alone: a compatibility
record passes at any place that is free. -/
theorem not_forall_read_state_kept :
    ¬ ∀ (protector : Protector) (type : ContentType) (sequence : Sequence) (fragment : Bytes),
      Reached protector → protector.params.suite ∈ CipherSuite.catalog →
      protector.params.version.isDatagram = true → protector.read.isProtected = true →
      ¬ protector.Authenticates type sequence fragment →
      (protector.unprotectAt type sequence fragment).2.read.replay = protector.read.replay
        ∧ (protector.unprotectAt type sequence fragment).2.read.sequence
          = protector.read.sequence := by
  intro h
  have hforged : ¬ keyedReceiver.Authenticates .changeCipherSpec ⟨1, 5000⟩ [1] := by
    rintro ⟨read, -, -, htype, -⟩
    cases htype rfl
  obtain ⟨hreplay, -⟩ :=
    h keyedReceiver .changeCipherSpec ⟨1, 5000⟩ [1] reached_keyedReceiver
      keyedReceiver_mem_catalog rfl rfl hforged
  have hmoved : (keyedReceiver.unprotectAt .changeCipherSpec ⟨1, 5000⟩ [1]).2.read.replay
      = ⟨5000, 1⟩ := by
    rfl
  rw [hmoved] at hreplay
  cases hreplay

end Protector

end RecordProtection
