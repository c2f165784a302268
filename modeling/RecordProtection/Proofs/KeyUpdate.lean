import RecordProtection.Proofs.Installation
import RecordProtection.Proofs.TrafficSecrets

/-!
# Updates that fail

An update of keys moves the traffic secret of one end on, and then keys one direction from the new
secret.  A failure leaves the protector as it was.  The schedule stays where it was if there is no
secret to start from; a failure that comes later finds it moved on.
-/

namespace RecordProtection

/-- The calls that update the keys of a direction. -/
inductive KeyUpdate where
  | write
  | read

theorem SideSecrets.set_of_get {secrets : SideSecrets} {role : Role} {secret : Secret}
    (hget : secrets.get role = .ok secret) : secrets.set role secret = secrets := by
  obtain ⟨client, server⟩ := secrets
  cases role <;> cases client <;> cases server <;> cases hget <;> rfl

theorem SideSecrets.get_destroy {secrets : SideSecrets} {role : Role} {secret : Secret}
    (hget : secrets.get role = .ok secret) : secrets.destroy.get role = .ok secret.destroy := by
  obtain ⟨client, server⟩ := secrets
  cases role <;> cases client <;> cases server <;> cases hget <;> rfl

namespace KeyUpdate

/-- The end whose secret is updated. -/
def secretOf (update : KeyUpdate) (protector : Protector) : Role :=
  match update with
  | write => protector.params.role
  | read => protector.params.role.peer

def install (update : KeyUpdate) (protector : Protector) (keys : TrafficKeys) :
    Except RecordError Unit × Protector :=
  match update with
  | write => protector.installWriteKeys keys
  | read => protector.installReadKeys keys

def run (update : KeyUpdate) (protector : Protector) (schedule : HkdfSchedule) :
    Except RecordError Unit × Protector × HkdfSchedule :=
  match update with
  | write => protector.updateWriteKeys schedule
  | read => protector.updateReadKeys schedule

section Run

variable {update : KeyUpdate} {protector : Protector} {schedule : HkdfSchedule}

theorem eq_of_install {keys : TrafficKeys} {e : RecordError}
    (hfailed : (update.install protector keys).1 = .error e) :
    (update.install protector keys).2 = protector := by
  cases update with
  | write => exact Installation.eq_of_installWriteKeys hfailed
  | read => exact Installation.eq_of_installReadKeys hfailed

theorem run_eq (update : KeyUpdate) (protector : Protector) (schedule : HkdfSchedule) :
    update.run protector schedule
      = match Protector.updatedKeys schedule (update.secretOf protector) with
        | (.ok keys, moved) =>
            ((update.install protector keys).1, (update.install protector keys).2, moved)
        | (.error e, moved) => (.error e, protector, moved) := by
  cases update <;> rfl

/-- Without a next secret nothing happens. -/
theorem run_of_no_secret {e : RecordError}
    (hnext : schedule.nextTrafficSecret (update.secretOf protector) = .error e) :
    update.run protector schedule = (.error e, protector, schedule) := by
  have hkeys : Protector.updatedKeys schedule (update.secretOf protector)
      = (.error e, schedule) := by
    simp only [Protector.updatedKeys, HkdfSchedule.updateTrafficSecret, hnext]
  rw [run_eq, hkeys]

/-- The schedule moves on to the next secret, whatever comes of its keys. -/
theorem run_of_secret {next : Secret}
    (hnext : schedule.nextTrafficSecret (update.secretOf protector) = .ok next) :
    (update.run protector schedule).2.2
        = schedule.withTrafficSecret (update.secretOf protector) next
      ∧ ∀ e, (update.run protector schedule).1 = .error e →
        (update.run protector schedule).2.1 = protector := by
  have hkeys : Protector.updatedKeys schedule (update.secretOf protector)
      = (schedule.trafficKeys next,
        schedule.withTrafficSecret (update.secretOf protector) next) := by
    simp only [Protector.updatedKeys, HkdfSchedule.updateTrafficSecret, hnext]
    rw [HkdfSchedule.trafficKeys_congr rfl rfl]
    rfl
  rw [run_eq, hkeys]
  cases schedule.trafficKeys next with
  | ok keys => exact ⟨rfl, fun e hfailed => eq_of_install hfailed⟩
  | error e => exact ⟨rfl, fun _ _ => rfl⟩

theorem withTrafficSecret_eq_iff {role : Role} {current next : Secret}
    (hcurrent : schedule.applicationTraffic.get role = .ok current) :
    schedule.withTrafficSecret role next = schedule ↔ next = current := by
  constructor
  · intro hsame
    have hget : (schedule.withTrafficSecret role next).applicationTraffic.get role = .ok next :=
      schedule.applicationTraffic.get_set_same role next
    rw [hsame, hcurrent] at hget
    exact (Except.ok.inj hget).symm
  · rintro rfl
    have hset : schedule.applicationTraffic.set role next = schedule.applicationTraffic :=
      SideSecrets.set_of_get hcurrent
    rw [HkdfSchedule.withTrafficSecret, hset]

/-- A failed update leaves the protector as it was.  The schedule is as it was too, exactly if the
secret it would have moved on from is missing, destroyed, or its own successor. -/
theorem kept_iff_of_failed (hreached : schedule.Reached) {e : RecordError}
    (hfailed : (update.run protector schedule).1 = .error e) :
    (update.run protector schedule).2.1 = protector
      ∧ ((update.run protector schedule).2.2 = schedule
        ↔ ∀ current, schedule.applicationTraffic.get (update.secretOf protector) = .ok current →
          current.isDestroyed = true
            ∨ schedule.nextTrafficSecret (update.secretOf protector) = .ok current) := by
  have hsecret := hreached.sized.exists_nextTrafficSecret_iff (update.secretOf protector)
  cases hnext : schedule.nextTrafficSecret (update.secretOf protector) with
  | error other =>
      rw [run_of_no_secret hnext]
      refine ⟨rfl, fun _ current hcurrent => .inl ?_, fun _ => rfl⟩
      cases hlive : current.isDestroyed with
      | true => rfl
      | false =>
          obtain ⟨next, hother⟩ := hsecret.mpr ⟨current, hcurrent, hlive⟩
          rw [hnext] at hother
          cases hother
  | ok next =>
      obtain ⟨hmoved, hkept⟩ := run_of_secret hnext
      obtain ⟨current, hcurrent, hlive⟩ := hsecret.mp ⟨next, hnext⟩
      refine ⟨hkept e hfailed, ?_⟩
      rw [hmoved, withTrafficSecret_eq_iff hcurrent]
      constructor
      · rintro rfl other hother
        rw [hcurrent] at hother
        cases hother
        exact .inr rfl
      · intro h
        obtain hdestroyed | hsame := h current hcurrent
        · rw [hlive] at hdestroyed
          cases hdestroyed
        · exact Except.ok.inj hsame

end Run

/-! ### Keys of another suite -/

def galoisSuite : CipherSuite :=
  CipherSuite.aead13 0x1301 "TLS_AES_128_GCM_SHA256" .aes 16 .gcm 12 16 .sha256

/-- A new schedule, without a pre-shared key. -/
def startedSchedule : HkdfSchedule where
  version := .tls13
  suite := galoisSuite
  early := Secret.ofBytes "early secret" (hkdfExtract .sha256 [] (Bytes.zeros 32))
  handshake := none
  master := none
  handshakeTraffic := .empty
  applicationTraffic := .empty
  exporter := none
  resumption := none

/-- The schedule after a handshake whose shared secret and digests are zeros. -/
def concludedSchedule : HkdfSchedule :=
  ((startedSchedule.deriveMasterSecret (Bytes.zeros 32)
    (some (Bytes.zeros 32))).2.deriveApplicationSecrets (Bytes.zeros 32)).2

/-- A protector of a suite with longer keys. -/
def unkeyedEnd : Protector :=
  .create ⟨.tls13, .client, CipherSuite.aead13 0x1303 "TLS_CHACHA20_POLY1305_SHA256" .chacha20 32
    .chaCha20Poly1305 12 16 .sha256⟩ {}

theorem reached_startedSchedule : startedSchedule.Reached := by
  have hsuite : galoisSuite ∈ CipherSuite.catalog := by
    decide
  have hcreate : HkdfSchedule.create ⟨.tls13, .client, galoisSuite⟩ none = .ok startedSchedule :=
    rfl
  exact .created hsuite hcreate

theorem reached_concludedSchedule : concludedSchedule.Reached :=
  (reached_startedSchedule.derivedMasterSecret _ _).derivedApplicationSecrets _

def concludedSecret : Secret := Secret.ofBytes "client application traffic secret" [
    191, 181, 81, 38, 36, 46, 58, 145, 121, 5, 5, 251, 25, 249, 105, 128, 110, 181, 62, 109, 195,
    245, 179, 228, 201, 110, 45, 186, 240, 88, 176, 185]

theorem get_concludedSchedule :
    concludedSchedule.applicationTraffic.get .client = .ok concludedSecret := by
  decide +kernel

/-- The secret is held, but it is destroyed. -/
theorem unkeyedEnd_keeps_destroyed_secret :
    concludedSchedule.destroy.applicationTraffic.get .client = .ok concludedSecret.destroy
      ∧ (write.run unkeyedEnd concludedSchedule.destroy).1
        = .error (.accessAfterDestroy "client application traffic secret")
      ∧ (write.run unkeyedEnd concludedSchedule.destroy).2.1 = unkeyedEnd
      ∧ (write.run unkeyedEnd concludedSchedule.destroy).2.2 = concludedSchedule.destroy := by
  have hget : concludedSchedule.destroy.applicationTraffic.get .client
      = .ok concludedSecret.destroy :=
    SideSecrets.get_destroy get_concludedSchedule
  have hnext : concludedSchedule.destroy.nextTrafficSecret .client
      = .error (.accessAfterDestroy "client application traffic secret") := by
    rw [HkdfSchedule.nextTrafficSecret, hget]
    rfl
  have hfailed : (write.run unkeyedEnd concludedSchedule.destroy).1
      = .error (.accessAfterDestroy "client application traffic secret") := by
    rw [@run_of_no_secret write unkeyedEnd _ _ hnext]
  obtain ⟨hprotector, hschedule⟩ := kept_iff_of_failed reached_concludedSchedule.destroyed hfailed
  refine ⟨hget, hfailed, hprotector, hschedule.mpr ?_⟩
  intro current hcurrent
  obtain rfl : concludedSecret.destroy = current := Except.ok.inj (hget.symm.trans hcurrent)
  exact .inl rfl

def followingSecret : Secret := Secret.ofBytes "client application traffic secret" [
    115, 56, 66, 202, 212, 0, 1, 199, 195, 201, 61, 136, 91, 32, 154, 24, 146, 105, 139, 113, 208,
    104, 12, 96, 154, 1, 8, 116, 46, 234, 22, 240]

theorem nextTrafficSecret_concludedSchedule :
    concludedSchedule.nextTrafficSecret .client = .ok followingSecret := by
  have hderive : concludedSchedule.deriveSecret concludedSecret "traffic upd" []
      = .ok (followingSecret.stored.getD []) := by
    decide +kernel
  refine bind_eq_ok_iff.mpr ⟨concludedSecret, get_concludedSchedule, ?_⟩
  exact bind_eq_ok_iff.mpr ⟨_, hderive, rfl⟩

/-- Not all failures leave the schedule as it was. -/
theorem not_forall_kept :
    ¬ ∀ (update : KeyUpdate) (protector : Protector) (schedule : HkdfSchedule) (e : RecordError),
      protector.Reached → protector.params.suite ∈ CipherSuite.catalog → schedule.Reached →
      (update.run protector schedule).1 = .error e →
      (update.run protector schedule).2.1 = protector
        ∧ (update.run protector schedule).2.2.applicationTraffic = schedule.applicationTraffic := by
  intro h
  have hreached : unkeyedEnd.Reached := .created rfl
  have hfailed : (write.run unkeyedEnd concludedSchedule).1 = .error (.invalidKeyLength 32 16) := by
    decide +kernel
  obtain ⟨-, hkept⟩ := h write unkeyedEnd concludedSchedule _ hreached (by decide)
    reached_concludedSchedule hfailed
  have hget := concludedSchedule.applicationTraffic.get_set_same .client followingSecret
  have hmoved : (write.run unkeyedEnd concludedSchedule).2.2
      = concludedSchedule.withTrafficSecret .client followingSecret :=
    (@run_of_secret write unkeyedEnd _ _ nextTrafficSecret_concludedSchedule).1
  rw [hmoved] at hkept
  rw [show concludedSchedule.applicationTraffic.set .client followingSecret
    = concludedSchedule.applicationTraffic from hkept, get_concludedSchedule] at hget
  exact absurd (Except.ok.inj hget) (by decide)

end KeyUpdate

end RecordProtection
