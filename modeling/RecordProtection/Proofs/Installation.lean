import RecordProtection.Proofs.Datagram
import RecordProtection.Proofs.Reached

/-!
# Keys that cannot be installed

Whatever keys a call brings, a failure leaves the read direction as it was.  The write direction is
as it was too, but for a key block whose write keys could be installed before its read keys were
found to be unusable.
-/

namespace RecordProtection

/-- New keys start another epoch. -/
theorem Protector.ne_of_rekey {protector : Protector} {before after : Direction}
    {keys : TrafficKeys} {forEncryption : Bool}
    (hrekey : protector.rekey before keys forEncryption = .ok after) : after ≠ before := by
  obtain ⟨mode, -, hrekey⟩ := bind_eq_ok_iff.mp hrekey
  obtain ⟨epoch, hepoch, hrekey⟩ := bind_eq_ok_iff.mp hrekey
  obtain rfl := Except.ok.inj hrekey
  intro hsame
  have hkept : epoch = before.sequence.epoch := congrArg (fun next => next.sequence.epoch) hsame
  unfold Direction.nextEpoch at hepoch
  split at hepoch
  · cases hepoch
  · have hnext : before.sequence.epoch + 1 = epoch := Except.ok.inj hepoch
    rw [hkept] at hnext
    simp at hnext

/-- The calls that install keys, with what they are given. -/
inductive Installation where
  | writeKeys (keys : TrafficKeys)
  | readKeys (keys : TrafficKeys)
  | keyBlock (block : KeyBlock)
  | trafficSecrets (schedule : HkdfSchedule) (stage : TrafficStage)

namespace Installation

def run (installation : Installation) (protector : Protector) :
    Except RecordError Unit × Protector :=
  match installation with
  | writeKeys keys => protector.installWriteKeys keys
  | readKeys keys => protector.installReadKeys keys
  | keyBlock block => protector.installKeyBlock block
  | trafficSecrets schedule stage => protector.installTrafficSecrets schedule stage

/-- Before version 1.3 a key block keys the write direction, if it can, before anything is done
about the read direction. -/
def KeysWriteFirst (installation : Installation) (protector : Protector) : Prop :=
  match installation with
  | keyBlock block => protector.params.version.is13 = false ∧ ∃ write,
      protector.rekey protector.write (block.writeKeys protector.params.role) true = .ok write
  | _ => False

section Failure

variable {protector : Protector} {e : RecordError}

theorem eq_of_installWriteKeys {keys : TrafficKeys}
    (hfailed : (protector.installWriteKeys keys).1 = .error e) :
    (protector.installWriteKeys keys).2 = protector := by
  unfold Protector.installWriteKeys at hfailed ⊢
  split at hfailed
  · cases hfailed
  · rfl

theorem eq_of_installReadKeys {keys : TrafficKeys}
    (hfailed : (protector.installReadKeys keys).1 = .error e) :
    (protector.installReadKeys keys).2 = protector := by
  unfold Protector.installReadKeys at hfailed ⊢
  split at hfailed
  · cases hfailed
  · rfl

theorem eq_of_installTrafficSecrets {schedule : HkdfSchedule} {stage : TrafficStage}
    (hfailed : (protector.installTrafficSecrets schedule stage).1 = .error e) :
    (protector.installTrafficSecrets schedule stage).2 = protector := by
  unfold Protector.installTrafficSecrets at hfailed ⊢
  split at hfailed
  · cases hfailed
  · rfl

/-- A key block that cannot be installed changes nothing but the write direction, if that much of it
can be installed. -/
theorem eq_of_installKeyBlock {block : KeyBlock}
    (hfailed : (protector.installKeyBlock block).1 = .error e) :
    (protector.installKeyBlock block).2 = protector
        ∧ ¬ (keyBlock block).KeysWriteFirst protector
      ∨ ∃ write, (protector.installKeyBlock block).2 = { protector with write := write }
        ∧ write ≠ protector.write ∧ (keyBlock block).KeysWriteFirst protector := by
  unfold Protector.installKeyBlock at hfailed ⊢
  cases h13 : protector.params.version.is13 with
  | true =>
      refine .inl ⟨rfl, ?_⟩
      rintro ⟨hversion, -⟩
      rw [h13] at hversion
      cases hversion
  | false =>
      simp only [h13, Bool.false_eq_true, if_false] at hfailed ⊢
      cases hwrite : protector.rekey protector.write (block.writeKeys protector.params.role)
        true with
      | error other =>
          refine .inl ⟨by simp only [Protector.installWriteKeys, hwrite], ?_⟩
          rintro ⟨-, write, hrekey⟩
          rw [hwrite] at hrekey
          cases hrekey
      | ok write =>
          simp only [Protector.installWriteKeys, hwrite] at hfailed ⊢
          have hkept := eq_of_installReadKeys hfailed
          exact .inr ⟨write, hkept, Protector.ne_of_rekey hwrite, h13, write, hwrite⟩

/-- A failure to install keys leaves the read direction as it was, and the write direction exactly
if it was not a key block's turn to key it first. -/
theorem directions_kept_iff_of_failed {installation : Installation}
    (hfailed : (installation.run protector).1 = .error e) :
    (installation.run protector).2.read = protector.read
      ∧ ((installation.run protector).2.write = protector.write
        ↔ ¬ installation.KeysWriteFirst protector) := by
  have hkept (hsame : (installation.run protector).2 = protector)
      (hfirst : ¬ installation.KeysWriteFirst protector) :
      (installation.run protector).2.read = protector.read
        ∧ ((installation.run protector).2.write = protector.write
          ↔ ¬ installation.KeysWriteFirst protector) := by
    rw [hsame]
    exact ⟨rfl, fun _ => hfirst, fun _ => rfl⟩
  cases installation with
  | writeKeys keys =>
      exact hkept (eq_of_installWriteKeys hfailed) not_false
  | readKeys keys =>
      exact hkept (eq_of_installReadKeys hfailed) not_false
  | trafficSecrets schedule stage =>
      exact hkept (eq_of_installTrafficSecrets hfailed) not_false
  | keyBlock block =>
      obtain ⟨hsame, hfirst⟩ | ⟨write, hnext, hwrite, hfirst⟩ := eq_of_installKeyBlock hfailed
      · exact hkept hsame hfirst
      · have hrun : ((keyBlock block).run protector).2 = { protector with write := write } := hnext
        rw [hrun]
        exact ⟨rfl, fun hsame => absurd hsame hwrite, fun hother => absurd hfirst hother⟩

end Failure

/-- A key block whose read keys are destroyed, for the client. -/
def halfBlock : KeyBlock := ⟨nullShaKeys, nullShaKeys.destroy⟩

theorem server_keeps_directions_of_halfBlock :
    ((keyBlock halfBlock).run (nullShaEnd .server)).1 = .error (.accessAfterDestroy "key")
      ∧ ((keyBlock halfBlock).run (nullShaEnd .server)).2.read = (nullShaEnd .server).read
      ∧ ((keyBlock halfBlock).run (nullShaEnd .server)).2.write = (nullShaEnd .server).write := by
  have hfailed : ((keyBlock halfBlock).run (nullShaEnd .server)).1
      = .error (.accessAfterDestroy "key") := by
    rfl
  obtain ⟨hread, hwrite⟩ := directions_kept_iff_of_failed hfailed
  refine ⟨hfailed, hread, hwrite.mpr ?_⟩
  rintro ⟨-, write, hrekey⟩
  cases hrekey

/-- Not all failures leave both directions as they were. -/
theorem not_forall_directions_kept :
    ¬ ∀ (protector : Protector) (installation : Installation) (e : RecordError),
      protector.Reached → protector.params.suite ∈ CipherSuite.catalog →
      (installation.run protector).1 = .error e →
      (installation.run protector).2.write = protector.write
        ∧ (installation.run protector).2.read = protector.read := by
  intro h
  have hreached : (nullShaEnd .client).Reached := .created rfl
  obtain ⟨hwrite, -⟩ :=
    h (nullShaEnd .client) (keyBlock halfBlock) (.accessAfterDestroy "key") hreached (by decide)
      rfl
  have hmoved : ((keyBlock halfBlock).run (nullShaEnd .client)).2.write.isProtected = true := by
    rfl
  rw [hwrite] at hmoved
  cases hmoved

end Installation

end RecordProtection
