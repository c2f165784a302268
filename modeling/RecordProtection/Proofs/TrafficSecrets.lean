import RecordProtection.Proofs.Keying

/-!
# Secrets that follow each other

Whatever a schedule of version 1.3 has been through, an application traffic secret that it still
holds is as long as a digest.  So there is a next one, until the secret is destroyed.
-/

namespace RecordProtection

/-! ### Labelled secrets -/

theorem length_hkdfBlocks (algorithm : HashAlgorithm) (key info : Bytes) (count index : Nat)
    (previous : Bytes) :
    (hkdfBlocks algorithm key info count index previous).length
      = count * algorithm.outputLength := by
  induction count generalizing index previous with
  | zero => simp [hkdfBlocks]
  | succ count ih =>
      rw [hkdfBlocks, List.length_append, length_hmac, ih, Nat.succ_mul, Nat.add_comm]

theorem outputLength_pos (algorithm : HashAlgorithm) : 0 < algorithm.outputLength := by
  cases algorithm <;> decide

/-- Expansion needs a key as long as a digest, and gives as much as it is asked for. -/
theorem hkdfExpand_eq_ok {algorithm : HashAlgorithm} {key : Bytes}
    (hkey : algorithm.outputLength ≤ key.length) (info : Bytes) {length : Nat}
    (hlength : length ≤ 255 * algorithm.outputLength) :
    ∃ output, hkdfExpand algorithm key info length = .ok output ∧ output.length = length := by
  refine ⟨_, by rw [hkdfExpand, if_neg (Nat.not_lt.mpr hkey), if_neg (Nat.not_lt.mpr hlength)], ?_⟩
  have hcover := le_blocks_mul (outputLength_pos algorithm) length
  rw [List.length_take, length_hkdfBlocks]
  exact Nat.min_eq_left hcover

theorem length_of_hkdfExpandLabel {algorithm : HashAlgorithm}
    {labelPrefix secret label context output : Bytes} {length : Nat}
    (hexpand : hkdfExpandLabel algorithm labelPrefix secret label context length = .ok output) :
    output.length = length := by
  unfold hkdfExpandLabel at hexpand
  split at hexpand
  · cases hexpand
  · split at hexpand
    · cases hexpand
    · split at hexpand
      · cases hexpand
      · by_cases hkey : secret.length < algorithm.outputLength
        · simp [hkdfExpand, hkey] at hexpand
        · by_cases hlong : length > 255 * algorithm.outputLength
          · simp [hkdfExpand, hkey, hlong] at hexpand
          · obtain ⟨whole, hwhole, hlength⟩ := hkdfExpand_eq_ok (Nat.not_lt.mp hkey)
              (encodeLabel labelPrefix label context length) (Nat.not_lt.mp hlong)
            rw [hwhole] at hexpand
            cases hexpand
            exact hlength

theorem SideSecrets.stored_of_get_destroy {secrets : SideSecrets} {role : Role} {secret : Secret}
    (hget : secrets.destroy.get role = .ok secret) : secret.stored = none := by
  obtain ⟨client, server⟩ := secrets
  cases role <;> cases client <;> cases server <;> cases hget <;> rfl

namespace HkdfSchedule

theorem length_labelPrefix (version : ProtocolVersion) : version.labelPrefix.length = 6 := by
  cases version <;> decide +kernel

theorem length_of_deriveSecret {schedule : HkdfSchedule} {secret : Secret} {label : String}
    {transcript output : Bytes}
    (hderive : schedule.deriveSecret secret label transcript = .ok output) :
    output.length = schedule.hash.outputLength := by
  obtain ⟨data, -, hexpand⟩ := bind_eq_ok_iff.mp hderive
  exact length_of_hkdfExpandLabel hexpand

/-- From a secret that can be read and is long enough, all is derived whose label and digest fit. -/
theorem exists_deriveSecret {schedule : HkdfSchedule} {secret : Secret} {data : Bytes}
    (hdata : secret.data = .ok data) (hlong : schedule.hash.outputLength ≤ data.length)
    {label : String} (hlabel : (Bytes.ofText label).length ≤ 249) {transcript : Bytes}
    (htranscript : transcript.length ≤ 255) :
    ∃ output, schedule.deriveSecret secret label transcript = .ok output := by
  have hwidth := schedule.hash.outputLength_le
  obtain ⟨output, hexpand, -⟩ := hkdfExpand_eq_ok hlong
    (encodeLabel schedule.version.labelPrefix (Bytes.ofText label) transcript
      schedule.hash.outputLength) (Nat.le_mul_of_pos_left _ (by decide))
  refine ⟨output, bind_eq_ok_iff.mpr ⟨data, hdata, ?_⟩⟩
  rw [expandLabel, hkdfExpandLabel, if_neg, if_neg, if_neg, hexpand]
  · omega
  · exact Nat.not_lt.mpr htranscript
  · rw [List.length_append, length_labelPrefix]
    omega

/-! ### Schedules in use -/

/-- What any calls can make of a new schedule, whatever they return. -/
inductive Reached : HkdfSchedule → Prop
  | created {params : Parameters} {psk : Option Bytes} {schedule : HkdfSchedule}
      (hsuite : params.suite ∈ CipherSuite.catalog) (hcreate : create params psk = .ok schedule) :
      Reached schedule
  | derivedHandshakeSecrets {schedule : HkdfSchedule} (hschedule : Reached schedule)
      (shared transcript : Bytes) :
      Reached (schedule.deriveHandshakeSecrets shared transcript).2
  | derivedMasterSecret {schedule : HkdfSchedule} (hschedule : Reached schedule) (shared : Bytes)
      (transcript : Option Bytes) : Reached (schedule.deriveMasterSecret shared transcript).2
  | derivedApplicationSecrets {schedule : HkdfSchedule} (hschedule : Reached schedule)
      (transcript : Bytes) : Reached (schedule.deriveApplicationSecrets transcript).2
  | derivedResumptionSecret {schedule : HkdfSchedule} (hschedule : Reached schedule)
      (transcript : Bytes) : Reached (schedule.deriveResumptionSecret transcript).2
  | updatedTrafficSecret {schedule : HkdfSchedule} (hschedule : Reached schedule) (role : Role) :
      Reached (schedule.updateTrafficSecret role).2
  | destroyed {schedule : HkdfSchedule} (hschedule : Reached schedule) : Reached schedule.destroy

/-- The application traffic secrets that have not been destroyed are as long as a digest. -/
def Sized (schedule : HkdfSchedule) : Prop :=
  ∀ role secret data, schedule.applicationTraffic.get role = .ok secret →
    secret.data = .ok data → data.length = schedule.hash.outputLength

theorem Sized.congr {schedule next : HkdfSchedule} (hsized : schedule.Sized)
    (hsuite : next.suite = schedule.suite)
    (htraffic : next.applicationTraffic = schedule.applicationTraffic) : next.Sized := by
  intro role secret data hget hdata
  rw [htraffic] at hget
  rw [hash, hsuite]
  exact hsized role secret data hget hdata

theorem Sized.deriveHandshakeSecrets {schedule : HkdfSchedule} (hsized : schedule.Sized)
    (shared transcript : Bytes) : (schedule.deriveHandshakeSecrets shared transcript).2.Sized := by
  unfold HkdfSchedule.deriveHandshakeSecrets
  split
  · exact hsized.congr rfl rfl
  · exact hsized

theorem Sized.deriveMaster {schedule : HkdfSchedule} (hsized : schedule.Sized) :
    schedule.deriveMaster.2.Sized := by
  unfold HkdfSchedule.deriveMaster
  split
  · exact hsized.congr rfl rfl
  · exact hsized

theorem Sized.deriveMasterSecret {schedule : HkdfSchedule} (hsized : schedule.Sized)
    (shared : Bytes) (transcript : Option Bytes) :
    (schedule.deriveMasterSecret shared transcript).2.Sized := by
  unfold HkdfSchedule.deriveMasterSecret
  split
  · exact hsized
  · rename_i digest
    have hhandshake := hsized.deriveHandshakeSecrets shared digest
    split
    · rename_i next hnext
      rw [hnext] at hhandshake
      exact Sized.deriveMaster hhandshake
    · rename_i e next hnext
      rwa [hnext] at hhandshake

theorem Sized.deriveApplicationSecrets {schedule : HkdfSchedule} (hsized : schedule.Sized)
    (transcript : Bytes) : (schedule.deriveApplicationSecrets transcript).2.Sized := by
  unfold HkdfSchedule.deriveApplicationSecrets
  split
  · rename_i traffic exporter hstage
    obtain ⟨master, -, hstage⟩ := bind_eq_ok_iff.mp hstage
    obtain ⟨client, hclient, hstage⟩ := bind_eq_ok_iff.mp hstage
    obtain ⟨server, hserver, hstage⟩ := bind_eq_ok_iff.mp hstage
    obtain ⟨_, -, hstage⟩ := bind_eq_ok_iff.mp hstage
    cases hstage
    intro role secret data hget hdata
    cases role with
    | client =>
        cases hget
        cases hdata
        exact length_of_deriveSecret hclient
    | server =>
        cases hget
        cases hdata
        exact length_of_deriveSecret hserver
  · exact hsized

theorem Sized.deriveResumptionSecret {schedule : HkdfSchedule} (hsized : schedule.Sized)
    (transcript : Bytes) : (schedule.deriveResumptionSecret transcript).2.Sized := by
  unfold HkdfSchedule.deriveResumptionSecret
  split
  · exact hsized.congr rfl rfl
  · exact hsized

theorem Sized.updateTrafficSecret {schedule : HkdfSchedule} (hsized : schedule.Sized)
    (updated : Role) : (schedule.updateTrafficSecret updated).2.Sized := by
  unfold HkdfSchedule.updateTrafficSecret
  split
  · rename_i next hnext
    obtain ⟨current, -, hnext⟩ := bind_eq_ok_iff.mp hnext
    obtain ⟨output, hderive, hnext⟩ := bind_eq_ok_iff.mp hnext
    cases hnext
    intro role secret data hget hdata
    by_cases hrole : role = updated
    · subst hrole
      rw [SideSecrets.get_set_same] at hget
      cases hget
      cases hdata
      exact length_of_deriveSecret hderive
    · obtain rfl : role = updated.peer := by
        cases role <;> cases updated <;> first | rfl | exact absurd rfl hrole
      rw [SideSecrets.get_set_peer] at hget
      exact hsized _ secret data hget hdata
  · exact hsized

theorem Sized.destroy {schedule : HkdfSchedule} : schedule.destroy.Sized := by
  intro role secret data hget hdata
  rw [Secret.data, SideSecrets.stored_of_get_destroy hget] at hdata
  cases hdata

theorem Reached.sized {schedule : HkdfSchedule} (hreached : schedule.Reached) :
    schedule.Sized := by
  induction hreached with
  | created _ hcreate =>
      unfold create at hcreate
      split at hcreate
      · cases hcreate
      · cases hcreate
        intro role secret data hget
        cases role <;> cases hget
  | derivedHandshakeSecrets _ shared transcript ih => exact ih.deriveHandshakeSecrets _ _
  | derivedMasterSecret _ shared transcript ih => exact ih.deriveMasterSecret _ _
  | derivedApplicationSecrets _ transcript ih => exact ih.deriveApplicationSecrets _
  | derivedResumptionSecret _ transcript ih => exact ih.deriveResumptionSecret _
  | updatedTrafficSecret _ role ih => exact ih.updateTrafficSecret _
  | destroyed _ _ => exact Sized.destroy

/-- There is a next secret exactly if the current one can be read. -/
theorem Sized.exists_nextTrafficSecret_iff {schedule : HkdfSchedule} (hsized : schedule.Sized)
    (role : Role) :
    (∃ next, schedule.nextTrafficSecret role = .ok next)
      ↔ ∃ current, schedule.applicationTraffic.get role = .ok current
        ∧ current.isDestroyed = false := by
  constructor
  · rintro ⟨next, hnext⟩
    obtain ⟨current, hget, hnext⟩ := bind_eq_ok_iff.mp hnext
    obtain ⟨output, hderive, -⟩ := bind_eq_ok_iff.mp hnext
    obtain ⟨data, hdata, -⟩ := bind_eq_ok_iff.mp hderive
    refine ⟨current, hget, ?_⟩
    unfold Secret.data at hdata
    unfold Secret.isDestroyed
    split at hdata
    · rename_i hstored
      rw [hstored]
      rfl
    · cases hdata
  · rintro ⟨current, hget, hlive⟩
    obtain ⟨data, hstored⟩ : ∃ data, current.stored = some data := by
      unfold Secret.isDestroyed at hlive
      exact Option.isSome_iff_exists.mp (by simpa using hlive)
    have hdata : current.data = .ok data := by
      simp only [Secret.data, hstored]
    have hlength := hsized role current data hget hdata
    have hlabel : (Bytes.ofText "traffic upd").length ≤ 249 := by
      decide +kernel
    have hnothing : ([] : Bytes).length ≤ 255 := Nat.zero_le 255
    obtain ⟨output, hderive⟩ := exists_deriveSecret hdata hlength.ge hlabel hnothing
    exact ⟨_, bind_eq_ok_iff.mpr ⟨current, hget, bind_eq_ok_iff.mpr ⟨output, hderive, rfl⟩⟩⟩

end HkdfSchedule

end RecordProtection
