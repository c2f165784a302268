import RecordProtection.Proofs.Bounds.Assembly
import RecordProtection.Proofs.RecordSize
import RecordProtection.Proofs.Rejected
import RecordProtection.Proofs.ReplayWindow

/-!
# Calls within bounds

Fragments come from the peer and plaintexts from the application, of any length.  The limits of a
protector cut both down to lengths that a header can write, and its settings keep those limits low
enough.  What is left are the parts of its modes, which every protector has, since all of its modes
were created.  So its calls on records never leave their bounds, and all that can come of them is
the value or the error that they return.
-/

namespace RecordProtection

open Guarded

/-! ### Windows -/

namespace ReplayWindow

/-- Shifting by the width of the window or more is a fault. -/
def guardedBit (offset : Nat) : Guarded (BitVec 64) := do
  return 1#64 <<< (← fit width offset)

def guardedCheck (window : ReplayWindow) (number : UInt64) : Guarded (Except RecordError Unit) :=
  if window.highest < number then return .ok ()
  else do
    let offset ← sub window.highest.toNat number.toNat
    if offset ≥ width then return .error (.replayedRecord number)
    else if window.seen &&& (← guardedBit offset) ≠ 0 then return .error (.replayedRecord number)
    else return .ok ()

def guardedUpdate (window : ReplayWindow) (number : UInt64) : Guarded ReplayWindow :=
  if window.highest < number then do
    let distance ← sub number.toNat window.highest.toNat
    let slid ←
      if distance ≥ width then pure 0
      else do
        pure (window.seen <<< (← fit width distance))
    return ⟨number, slid ||| 1⟩
  else do
    let offset ← sub window.highest.toNat number.toNat
    if offset < width then return { window with seen := window.seen ||| (← guardedBit offset) }
    else return window

theorem guardedBit_eq_ok {offset : Nat} (hoffset : offset < width) :
    guardedBit offset = .ok (1#64 <<< offset) := by
  simp only [guardedBit, fit_eq_ok hoffset, ok_bind, pure_eq_ok]

theorem and_bit_ne_zero_iff {offset : Nat} (hoffset : offset < width) (seen : BitVec 64) :
    seen &&& 1#64 <<< offset ≠ 0 ↔ seen.getLsbD offset = true := by
  have hbit : BitVec.twoPow 64 offset ≠ 0#64 := by
    intro hzero
    have hvalue := congrArg BitVec.toNat hzero
    rw [BitVec.toNat_twoPow_of_lt (show offset < 64 from hoffset)] at hvalue
    exact Nat.ne_of_gt (Nat.two_pow_pos offset) hvalue
  rw [← BitVec.twoPow_eq, BitVec.and_twoPow]
  cases hseen : seen.getLsbD offset <;> simp [hbit]

theorem bit_eq_natCast (offset : Nat) : 1#64 <<< offset = ((1 <<< offset : Nat) : BitVec 64) := by
  rw [BitVec.natCast_eq_ofNat]
  refine BitVec.eq_of_toNat_eq ?_
  simp [Nat.one_shiftLeft]

variable (window : ReplayWindow) (number : UInt64)

theorem guardedCheck_eq_ok : window.guardedCheck number = .ok (window.check number) := by
  unfold guardedCheck check
  split
  · rfl
  · rename_i hbehind
    have hle := UInt64.le_iff_toNat_le.mp (UInt64.not_lt.mp hbehind)
    simp only [sub_eq_ok hle, ok_bind]
    by_cases hold : window.highest.toNat - number.toNat ≥ width
    · simp only [hold, if_true, true_or, pure_eq_ok]
    · have hin := Nat.not_le.mp hold
      simp only [hold, if_false, false_or, guardedBit_eq_ok hin, ok_bind, pure_eq_ok,
        and_bit_ne_zero_iff hin]
      split <;> rfl

theorem guardedUpdate_eq_ok : window.guardedUpdate number = .ok (window.update number) := by
  unfold guardedUpdate update
  split
  · rename_i hahead
    have hle := Nat.le_of_lt (UInt64.lt_iff_toNat_lt.mp hahead)
    simp only [sub_eq_ok hle, ok_bind, pure_eq_ok]
    split
    · rfl
    · rename_i hnear
      simp only [fit_eq_ok (Nat.not_le.mp hnear), ok_bind]
  · rename_i hbehind
    have hle := UInt64.le_iff_toNat_le.mp (UInt64.not_lt.mp hbehind)
    simp only [sub_eq_ok hle, ok_bind, pure_eq_ok]
    split
    · rename_i hin
      simp only [guardedBit_eq_ok hin, ok_bind]
      rw [bit_eq_natCast]
    · rfl

end ReplayWindow

namespace Protector

/-! ### Inner plaintexts -/

def guardedInnerPlaintext (config : Config) (type : ContentType) (plaintext : Bytes) :
    Guarded Bytes := do
  let innerLength ← add plaintext.length 1
  let padding := min config.tls13Padding (← sub (maxPlaintextLength + 1) innerLength)
  return Buffer.resize (plaintext ++ [type.code]) (← add innerLength padding) 0

/-- The last position in front of `count` whose byte is not zero. -/
def lastNonzero (bytes : Bytes) : (count : Nat) → Guarded (Option Nat)
  | 0 => .ok none
  | count + 1 => do
      if (← Buffer.get bytes count) ≠ 0 then return some count else lastNonzero bytes count

def guardedParseInner (inner : Bytes) : Guarded (Except RecordError (ContentType × Bytes)) := do
  match ← lastNonzero inner inner.length with
  | none => return .error (.invalidContentType 0)
  | some stop =>
      match ContentType.ofCode (← Buffer.get inner stop) with
      | .error e => return .error e
      | .ok type => return .ok (type, inner.take stop)

theorem guardedInnerPlaintext_eq_ok (config : Config) (type : ContentType) {plaintext : Bytes}
    (hplaintext : plaintext.length ≤ maxPlaintextLength) :
    guardedInnerPlaintext config type plaintext = .ok (innerPlaintext config type plaintext) := by
  have hroom : plaintext.length + 1 ≤ maxPlaintextLength + 1 := Nat.succ_le_succ hplaintext
  have hword : maxPlaintextLength + 1 < lengthBound := by decide
  have hinner : plaintext.length + 1 < lengthBound := hroom.trans_lt hword
  have hpadded : plaintext.length + 1
      + min config.tls13Padding (maxPlaintextLength + 1 - (plaintext.length + 1))
        < lengthBound := by
    omega
  simp only [guardedInnerPlaintext, add_eq_ok hinner, sub_eq_ok hroom, add_eq_ok hpadded, ok_bind,
    pure_eq_ok, innerPlaintext]
  rw [Buffer.resize_of_le (by simp), List.length_append, List.length_singleton,
    Nat.add_sub_cancel_left, List.append_assoc]
  rfl

theorem lastNonzero_eq_ok (front back : Bytes) :
    lastNonzero (front ++ back) front.length
      = .ok (match front.reverse.dropWhile (· == 0) with
        | [] => none
        | _ :: content => some content.length) := by
  induction front using List.reverseRecOn generalizing back with
  | nil => rfl
  | append_singleton front byte ih =>
      have hin : front.length < (front ++ [byte] ++ back).length := by
        simp
      have hget : (front ++ [byte] ++ back)[front.length] = byte := by
        simp
      have hrest := ih ([byte] ++ back)
      rw [← List.append_assoc] at hrest
      rw [List.length_append, List.length_singleton, lastNonzero, Buffer.get_eq_ok hin, hget,
        List.reverse_append, List.reverse_singleton, List.singleton_append]
      by_cases hbyte : byte = 0
      · subst hbyte
        simp only [ne_eq, not_true_eq_false, if_false, ok_bind, List.dropWhile_cons,
          beq_self_eq_true, if_true, hrest]
      · simp only [hbyte, ne_eq, not_false_eq_true, if_true, ok_bind, List.dropWhile_cons,
          beq_iff_eq, if_false, pure_eq_ok, List.length_reverse]

theorem exists_of_dropWhile_reverse {inner content : Bytes} {code : UInt8}
    (hdrop : inner.reverse.dropWhile (· == 0) = code :: content) :
    ∃ rest, inner = content.reverse ++ code :: rest := by
  have hsplit := congrArg List.reverse (@List.takeWhile_append_dropWhile _ (· == 0) inner.reverse)
  rw [hdrop] at hsplit
  exact ⟨(inner.reverse.takeWhile (· == 0)).reverse, by simpa using hsplit.symm⟩

theorem guardedParseInner_eq_ok (inner : Bytes) :
    guardedParseInner inner = .ok (parseInner inner) := by
  have hlast := lastNonzero_eq_ok inner []
  rw [List.append_nil] at hlast
  simp only [guardedParseInner, hlast, ok_bind, parseInner]
  cases hdrop : inner.reverse.dropWhile (· == 0) with
  | nil => rfl
  | cons code content =>
      obtain ⟨rest, rfl⟩ := exists_of_dropWhile_reverse hdrop
      have hin : content.length < (content.reverse ++ code :: rest).length := by
        simp
      have hget : (content.reverse ++ code :: rest)[content.length] = code := by
        simp
      have htake : (content.reverse ++ code :: rest).take content.length = content.reverse :=
        List.take_left' List.length_reverse
      simp only [Buffer.get_eq_ok hin, hget, htake, ok_bind]
      cases ContentType.ofCode code <;> rfl

/-! ### Calls -/

/-- The modes of both directions are put together from these parts. -/
structure MadeOf (protector : Protector) (write read : Assembly) : Prop where
  write : protector.write.mode.transform = write.transform
  read : protector.read.mode.transform = read.transform

section Calls

variable (protector : Protector)

def guardedOuterContent (type : ContentType) (plaintext : Bytes) :
    Guarded (ContentType × Bytes) :=
  if protector.writes13 then do
    return (.applicationData, ← guardedInnerPlaintext protector.config type plaintext)
  else return (type, plaintext)

def guardedProtect (write : Assembly) (type : ContentType) (plaintext : Bytes)
    (random : RandomSource) :
    Guarded (Except RecordError ProtectedRecord × Protector × RandomSource) :=
  let limit := protector.config.maxRecordSize
  if plaintext.length > limit then
    return (.error (.recordOverflow plaintext.length limit), protector, random)
  else do
    let (outerType, content) ← protector.guardedOuterContent type plaintext
    let (result, mode, random) ←
      protector.write.mode.guardedEncrypt write outerType content random
    let record := result.map fun fragment =>
      ⟨outerType, protector.params.version, protector.write.sequence, fragment⟩
    return (record, { protector with write := { protector.write with mode := mode } }, random)

def guardedFragmentLimit : Guarded Nat :=
  add protector.config.maxRecordSize (if protector.reads13 then maxExpansion13 else maxExpansion)

/-- The type and the content inside of what was decrypted. -/
def guardedContent (type : ContentType) (decrypted : Bytes) :
    Guarded (Except RecordError (ContentType × Bytes)) := do
  let inner ←
    if protector.reads13 then guardedParseInner decrypted else pure (.ok (type, decrypted))
  return inner >>= fun (type, content) => protector.checkPlaintext type content

def guardedUnprotect (read : Assembly) (type : ContentType) (fragment : Bytes) :
    Guarded (Except RecordError (ContentType × Bytes) × Protector) := do
  let limit ← protector.guardedFragmentLimit
  if fragment.length > limit then
    return (.error (.recordOverflow fragment.length limit), protector)
  else if protector.reads13 && type == .changeCipherSpec then
    return (.ok (type, fragment), protector)
  else if protector.reads13 && type != .applicationData then
    return (.error (.invalidContentType type.code), protector)
  else
    let (result, mode) ← protector.read.mode.guardedDecrypt read type fragment
    let next := { protector with read := { protector.read with mode := mode } }
    match result with
    | .error e => return (.error e, next)
    | .ok decrypted => return (← protector.guardedContent type decrypted, next)

def guardedCheckPlace (sequence : Sequence) : Guarded (Except RecordError Direction) :=
  let expected := protector.read.sequence.epoch
  if !protector.params.version.isDatagram then
    return .error (.unsupportedVersion protector.params.version)
  else if sequence.epoch ≠ expected then
    return .error (.unexpectedEpoch expected sequence.epoch)
  else do
    let checked ←
      if protector.config.replayWindow then protector.read.replay.guardedCheck sequence.number
      else pure (.ok ())
    return checked >>= fun _ => protector.read.moveTo sequence

def guardedMarkSeen (number : UInt64) : Guarded Protector :=
  if protector.config.replayWindow then do
    let window ← protector.read.replay.guardedUpdate number
    return { protector with read := { protector.read with replay := window } }
  else return protector

def guardedUnprotectAt (read : Assembly) (type : ContentType) (sequence : Sequence)
    (fragment : Bytes) : Guarded (Except RecordError (ContentType × Bytes) × Protector) := do
  match ← protector.guardedCheckPlace sequence with
  | .error e => return (.error e, protector)
  | .ok placed =>
      match ← guardedUnprotect { protector with read := placed } read type fragment with
      | (.ok content, after) => return (.ok content, ← after.guardedMarkSeen sequence.number)
      | (.error e, after) =>
          return (.error e, { after with read := after.read.restore protector.read.sequence })

/-! ### Calls within bounds -/

theorem guardedContent_eq_ok (type : ContentType) (decrypted : Bytes) :
    protector.guardedContent type decrypted
      = .ok (do
        let (type, content) ←
          if protector.reads13 then parseInner decrypted else pure (type, decrypted)
        protector.checkPlaintext type content) := by
  unfold guardedContent
  split
  · simp only [guardedParseInner_eq_ok, ok_bind, pure_eq_ok]
  · rfl

theorem guardedCheckPlace_eq_ok (sequence : Sequence) :
    protector.guardedCheckPlace sequence = .ok (protector.checkPlace sequence) := by
  unfold guardedCheckPlace checkPlace
  cases hdatagram : protector.params.version.isDatagram with
  | false => rfl
  | true =>
      by_cases hepoch : sequence.epoch ≠ protector.read.sequence.epoch
      · simp only [if_pos hepoch]
        rfl
      · simp only [if_neg hepoch]
        cases protector.config.replayWindow with
        | true =>
            simp only [ReplayWindow.guardedCheck_eq_ok]
            rfl
        | false => rfl

theorem guardedMarkSeen_eq_ok (number : UInt64) :
    protector.guardedMarkSeen number = .ok (protector.markSeen number) := by
  unfold guardedMarkSeen markSeen
  split
  · simp only [ReplayWindow.guardedUpdate_eq_ok, ok_bind, pure_eq_ok]
  · rfl

end Calls

section Bounds

variable {protector : Protector} (hconfig : protector.config.validate = .ok protector.config)
include hconfig

theorem guardedOuterContent_eq_ok (type : ContentType) {plaintext : Bytes}
    (hshort : plaintext.length ≤ protector.config.maxRecordSize) :
    protector.guardedOuterContent type plaintext = .ok (protector.outerContent type plaintext) := by
  have hplaintext := hshort.trans (Config.maxRecordSize_le_of_validate hconfig)
  cases h13 : protector.writes13 with
  | true =>
      have houter : protector.outerContent type plaintext
          = (.applicationData, innerPlaintext protector.config type plaintext) := if_pos h13
      simp only [guardedOuterContent, h13, if_true, houter, ok_bind, pure_eq_ok,
        guardedInnerPlaintext_eq_ok protector.config type hplaintext]
  | false =>
      rw [outerContent_of_not_writes13 type plaintext h13]
      simp only [guardedOuterContent, h13, Bool.false_eq_true, if_false, pure_eq_ok]

theorem guardedProtect_eq_ok {write : Assembly}
    (hwrite : protector.write.mode.transform = write.transform) (type : ContentType)
    (plaintext : Bytes) (random : RandomSource) :
    protector.guardedProtect write type plaintext random
      = .ok (protector.protect type plaintext random) := by
  by_cases hlong : plaintext.length > protector.config.maxRecordSize
  · simp only [guardedProtect, protect, if_pos hlong, pure_eq_ok]
  · have hshort := Nat.not_lt.mp hlong
    have hcontent : (protector.outerContent type plaintext).2.length + 24 < lengthFieldBound :=
      Nat.lt_of_le_of_lt
        (Nat.add_le_add_right (length_outerContent_le_of_short hconfig type hshort) 24)
        (by decide)
    simp only [guardedProtect, protect, if_neg hlong, ok_bind, pure_eq_ok,
      guardedOuterContent_eq_ok hconfig type hshort,
      CipherMode.guardedEncrypt_eq_ok hwrite _ hcontent]

theorem guardedFragmentLimit_eq_ok :
    protector.guardedFragmentLimit = .ok protector.fragmentLimit
      ∧ protector.fragmentLimit < lengthFieldBound := by
  have hlimit := Config.maxRecordSize_le_of_validate hconfig
  have hshort : protector.fragmentLimit < lengthFieldBound := by
    unfold fragmentLimit
    simp only [maxPlaintextLength, maxExpansion, maxExpansion13, lengthFieldBound] at hlimit ⊢
    split <;> omega
  exact ⟨add_eq_ok (hshort.trans (by decide)), hshort⟩

theorem guardedUnprotect_eq_ok {read : Assembly}
    (hread : protector.read.mode.transform = read.transform) (type : ContentType)
    (fragment : Bytes) :
    protector.guardedUnprotect read type fragment = .ok (protector.unprotect type fragment) := by
  obtain ⟨hlimitOk, hlimit⟩ := guardedFragmentLimit_eq_ok hconfig
  by_cases hlong : fragment.length > protector.fragmentLimit
  · simp only [guardedUnprotect, hlimitOk, ok_bind, unprotect, if_pos hlong, pure_eq_ok]
  · have hfragment := (Nat.not_lt.mp hlong).trans_lt hlimit
    simp only [guardedUnprotect, hlimitOk, ok_bind, unprotect, if_neg hlong, pure_eq_ok,
      CipherMode.guardedDecrypt_eq_ok hread type hfragment]
    split
    · rfl
    · split
      · rfl
      · cases (protector.read.mode.decrypt type fragment).1 with
        | error e => rfl
        | ok decrypted =>
            simp only [guardedContent_eq_ok, ok_bind]
            rfl

theorem guardedUnprotectAt_eq_ok {read : Assembly}
    (hread : protector.read.mode.transform = read.transform) (type : ContentType)
    (sequence : Sequence) (fragment : Bytes) :
    protector.guardedUnprotectAt read type sequence fragment
      = .ok (protector.unprotectAt type sequence fragment) := by
  simp only [guardedUnprotectAt, guardedCheckPlace_eq_ok, ok_bind, unprotectAt]
  cases hplace : protector.checkPlace sequence with
  | error e => rfl
  | ok placed =>
      have hplaced : placed.mode.transform = read.transform := by
        obtain ⟨-, -, -, rfl⟩ :=
          (checkPlace_eq_ok_iff (isDatagram_of_checkPlace hplace)).mp hplace
        exact hread
      have hunprotect := @guardedUnprotect_eq_ok { protector with read := placed } hconfig read
        hplaced type fragment
      simp only [hunprotect, ok_bind]
      rcases unprotect { protector with read := placed } type fragment with ⟨_ | content, after⟩
      · rfl
      · simp only [guardedMarkSeen_eq_ok, ok_bind, pure_eq_ok]

end Bounds

/-! ### Every protector -/

theorem InUse.exists_madeOf {protector : Protector} (hprotector : protector.InUse) :
    ∃ write read, protector.MadeOf write read := by
  obtain ⟨write, hwrite⟩ := hprotector.write.reached.exists_assembly
  obtain ⟨read, hread⟩ := hprotector.read.reached.exists_assembly
  exact ⟨write, read, hwrite, hread⟩

/-- Whatever has been done with a protector, its modes are put together from parts that fit, and
over these parts every call on records comes, without a fault, to the value or the error and to the
state that the call has on lists. -/
theorem calls_within_bounds {protector : Protector} (hreached : Reached protector) :
    (∃ write read, protector.MadeOf write read)
      ∧ ∀ write read, protector.MadeOf write read →
        (∀ type plaintext random, protector.guardedProtect write type plaintext random
          = .ok (protector.protect type plaintext random))
        ∧ (∀ type fragment, protector.guardedUnprotect read type fragment
          = .ok (protector.unprotect type fragment))
        ∧ ∀ type sequence fragment, protector.guardedUnprotectAt read type sequence fragment
          = .ok (protector.unprotectAt type sequence fragment) := by
  have hprotector := inUse_of_reached hreached
  refine ⟨hprotector.exists_madeOf, fun write read hparts => ⟨?_, ?_, ?_⟩⟩
  · exact guardedProtect_eq_ok hprotector.config hparts.write
  · exact guardedUnprotect_eq_ok hprotector.config hparts.read
  · exact guardedUnprotectAt_eq_ok hprotector.config hparts.read

/-- A record that has no room for a tag ends in an error. -/
theorem short_record_within_bounds :
    ∃ write read, keyedReceiver.MadeOf write read
      ∧ (keyedReceiver.guardedUnprotectAt read .applicationData ⟨1, 5⟩ (Bytes.zeros 15)).map
        Prod.fst = .ok (.error (.recordTooShort 15)) := by
  obtain ⟨⟨write, read, hparts⟩, hcalls⟩ := calls_within_bounds reached_keyedReceiver
  refine ⟨write, read, hparts, ?_⟩
  rw [(hcalls write read hparts).2.2]
  rfl

end Protector

end RecordProtection
