import RecordProtection.Proofs.Destruction
import RecordProtection.Proofs.KeyBlock
import RecordProtection.Proofs.KeyUpdate

/-!
# Derivations that fail

A stage derives all of its secrets before the first one is replaced, so a stage that fails leaves
the schedule as it was.  The master secret takes two stages.  The second one starts from the secret
that the first one has just extracted, and binds no digest of the caller: nothing is left that it
could fail for.  What a derivation fails for can therefore be told before it starts.
-/

namespace RecordProtection

/-- A check tells whether there is a result, and which error there is otherwise. -/
def Decides {γ α : Type} (check : Except RecordError γ) (result : Except RecordError α) : Prop :=
  result.map (fun _ => ()) = check.map fun _ => ()

section Decides

variable {γ δ α β : Type} {check : Except RecordError γ} {result : Except RecordError α}

theorem decides_ok_iff {value : γ} : Decides (.ok value) result ↔ ∃ value, result = .ok value := by
  cases result with
  | ok value => exact ⟨fun _ => ⟨value, rfl⟩, fun _ => rfl⟩
  | error e => exact ⟨fun h => (nomatch h), fun ⟨_, h⟩ => (nomatch h)⟩

theorem decides_error_iff {e : RecordError} :
    Decides (.error e : Except RecordError γ) result ↔ result = .error e := by
  cases result with
  | ok value => exact ⟨fun h => (nomatch h), fun h => (nomatch h)⟩
  | error other =>
      constructor
      · intro h
        cases h
        rfl
      · rintro ⟨⟩
        rfl

/-- One check after the other. -/
theorem Decides.bind {next : α → Except RecordError β} {second : γ → Except RecordError δ}
    (h : Decides check result)
    (hnext : ∀ found value, check = .ok found → result = .ok value →
      Decides (second found) (next value)) :
    Decides (check >>= second) (result >>= next) := by
  cases result with
  | ok value =>
      cases check with
      | ok found => exact hnext found value rfl rfl
      | error e => cases h
  | error e =>
      cases check with
      | ok found => cases h
      | error other =>
          cases h
          rfl

theorem Decides.bind_same {next : α → Except RecordError β} {second : α → Except RecordError δ}
    (hnext : ∀ value, result = .ok value → Decides (second value) (next value)) :
    Decides (result >>= second) (result >>= next) := by
  cases result with
  | ok value => exact hnext value rfl
  | error e => rfl

/-- What comes after the result does not fail any more. -/
theorem Decides.bind_of_ok {next : α → Except RecordError β} (h : Decides check result)
    (hnext : ∀ found value, check = .ok found → result = .ok value →
      ∃ last, next value = .ok last) :
    Decides check (result >>= next) := by
  cases result with
  | ok value =>
      cases check with
      | ok found =>
          obtain ⟨last, hlast⟩ := hnext found value rfl rfl
          exact decides_ok_iff.mpr ⟨last, hlast⟩
      | error e => cases h
  | error e => exact h

end Decides

namespace HkdfSchedule

/-! ### What a derivation checks -/

/-- The length of a digest is sent in one byte. -/
def checkDigest (digest : Bytes) : Except RecordError Unit :=
  if digest.length > 255 then
    .error (.unsupportedOperation "Context too long for HKDF-Expand-Label")
  else
    .ok ()

theorem checkDigest_eq_ok_iff {digest : Bytes} :
    checkDigest digest = .ok () ↔ digest.length ≤ 255 := by
  unfold checkDigest
  by_cases hlong : digest.length > 255
  · rw [if_pos hlong]
    exact ⟨fun h => (nomatch h), fun h => absurd h (Nat.not_le.mpr hlong)⟩
  · rw [if_neg hlong]
    exact ⟨fun _ => Nat.not_lt.mp hlong, fun _ => rfl⟩

/-- A secret that can be read is long enough to be expanded. -/
def Expands (schedule : HkdfSchedule) (secret : Secret) : Prop :=
  ∀ data, secret.data = .ok data → schedule.hash.outputLength ≤ data.length

variable {schedule : HkdfSchedule}

theorem expands_ofBytes {data : Bytes} (hdata : data.length = schedule.hash.outputLength)
    (label : String) : schedule.Expands (Secret.ofBytes label data) := by
  rintro _ ⟨⟩
  exact hdata.ge

section Derive

variable {secret : Secret} (hsecret : schedule.Expands secret)
include hsecret

theorem decides_deriveSecret {label : String} (hlabel : label ∈ SecretTree.labels)
    (digest : Bytes) :
    Decides (secret.data >>= fun _ => checkDigest digest)
      (schedule.deriveSecret secret label digest) := by
  have hfits := SecretTree.length_ofText_of_mem_labels hlabel
  by_cases hdigest : digest.length ≤ 255
  · rw [checkDigest_eq_ok_iff.mpr hdigest]
    cases hdata : secret.data with
    | error e =>
        rw [deriveSecret, deriveFrom, hdata]
        rfl
    | ok data =>
        exact decides_ok_iff.mpr (exists_deriveSecret hdata (hsecret data hdata) hfits hdigest)
  · refine Decides.bind_same fun data hdata => ?_
    have hprefix : ¬ (schedule.version.labelPrefix ++ Bytes.ofText label).length > 255 := by
      rw [List.length_append, length_labelPrefix]
      omega
    rw [expandLabel, hkdfExpandLabel, if_neg hprefix, if_pos (Nat.not_le.mp hdigest), checkDigest,
      if_pos (Nat.not_le.mp hdigest)]
    rfl

/-- What is derived after a first secret, from the same secret and with the same digest. -/
theorem exists_deriveSecret_of_check {data : Bytes} (hdata : secret.data = .ok data)
    {label : String} (hlabel : label ∈ SecretTree.labels) {digest : Bytes}
    (hdigest : checkDigest digest = .ok ()) :
    ∃ output, schedule.deriveSecret secret label digest = .ok output :=
  exists_deriveSecret hdata (hsecret data hdata) (SecretTree.length_ofText_of_mem_labels hlabel)
    (checkDigest_eq_ok_iff.mp hdigest)

/-- The next secret of the chain can be extracted as soon as the one before can be read. -/
theorem decides_nextStage (keyMaterial : Bytes) :
    Decides secret.data (schedule.nextStage secret keyMaterial) := by
  have hempty : checkDigest schedule.emptyDigest = .ok () :=
    checkDigest_eq_ok_iff.mpr (SecretTree.length_digest_le schedule.hash [])
  have hlabel : "derived" ∈ SecretTree.labels := by simp [SecretTree.labels]
  have hderive := decides_deriveSecret hsecret hlabel schedule.emptyDigest
  rw [hempty] at hderive
  have hread : Decides secret.data
      (schedule.deriveSecret secret "derived" schedule.emptyDigest) := by
    cases hdata : secret.data <;> rwa [hdata] at hderive
  exact hread.bind_of_ok fun _ _ _ _ => ⟨_, rfl⟩

end Derive

theorem length_of_nextStage {secret : Secret} {keyMaterial output : Bytes}
    (hnext : schedule.nextStage secret keyMaterial = .ok output) :
    output.length = schedule.hash.outputLength := by
  obtain ⟨derived, -, houtput⟩ := bind_eq_ok_iff.mp hnext
  cases houtput
  exact length_hmac _ _ _

/-! ### Stages -/

theorem decides_handshakeStage (hearly : schedule.Expands schedule.early) (shared digest : Bytes) :
    Decides (schedule.early.data >>= fun _ => checkDigest digest)
      (schedule.handshakeStage shared digest) := by
  refine (decides_nextStage hearly shared).bind fun _ handshake _ hnext => ?_
  have hhandshake : schedule.Expands (.ofBytes "handshake secret" handshake) :=
    expands_ofBytes (length_of_nextStage hnext) "handshake secret"
  have hclient : "c hs traffic" ∈ SecretTree.labels := by simp [SecretTree.labels]
  have hserver : "s hs traffic" ∈ SecretTree.labels := by simp [SecretTree.labels]
  refine Decides.bind_of_ok (decides_deriveSecret hhandshake hclient digest) ?_
  intro _ client hdigest _
  obtain ⟨server, hderive⟩ := exists_deriveSecret_of_check hhandshake rfl hserver hdigest
  exact ⟨_, bind_eq_ok_iff.mpr ⟨server, hderive, rfl⟩⟩

/-- Once there is a handshake secret, there is a master secret. -/
theorem exists_masterStage {shared digest : Bytes} {handshake : Secret} {traffic : SideSecrets}
    (hstage : schedule.handshakeStage shared digest = .ok (handshake, traffic)) :
    ∃ master, { schedule with
      handshake := some handshake, handshakeTraffic := traffic }.masterStage = .ok master := by
  obtain ⟨extracted, hnext, hstage⟩ := bind_eq_ok_iff.mp hstage
  obtain ⟨client, -, hstage⟩ := bind_eq_ok_iff.mp hstage
  obtain ⟨server, -, hstage⟩ := bind_eq_ok_iff.mp hstage
  cases hstage
  have hhandshake : schedule.Expands (.ofBytes "handshake secret" extracted) :=
    expands_ofBytes (length_of_nextStage hnext) "handshake secret"
  obtain ⟨master, hmaster⟩ := decides_ok_iff.mp
    (decides_nextStage hhandshake (Bytes.zeros schedule.hash.outputLength))
  exact ⟨_, bind_eq_ok_iff.mpr ⟨_, rfl, bind_eq_ok_iff.mpr ⟨master, hmaster, rfl⟩⟩⟩

theorem decides_applicationStage
    (hmaster : ∀ master, schedule.masterSecret = .ok master → schedule.Expands master)
    (digest : Bytes) :
    Decides (schedule.masterSecret >>= fun master => master.data >>= fun _ => checkDigest digest)
      (schedule.applicationStage digest) := by
  refine Decides.bind_same fun master hheld => ?_
  have hclient : "c ap traffic" ∈ SecretTree.labels := by simp [SecretTree.labels]
  have hserver : "s ap traffic" ∈ SecretTree.labels := by simp [SecretTree.labels]
  have hexporter : "exp master" ∈ SecretTree.labels := by simp [SecretTree.labels]
  refine (decides_deriveSecret (hmaster master hheld) hclient digest).bind_of_ok ?_
  intro _ client hcheck _
  obtain ⟨data, hdata, hdigest⟩ := bind_eq_ok_iff.mp hcheck
  obtain ⟨server, hderiveServer⟩ :=
    exists_deriveSecret_of_check (hmaster master hheld) hdata hserver hdigest
  obtain ⟨exporter, hderiveExporter⟩ :=
    exists_deriveSecret_of_check (hmaster master hheld) hdata hexporter hdigest
  exact ⟨_, bind_eq_ok_iff.mpr ⟨server, hderiveServer,
    bind_eq_ok_iff.mpr ⟨exporter, hderiveExporter, rfl⟩⟩⟩

theorem decides_resumptionStage
    (hmaster : ∀ master, schedule.masterSecret = .ok master → schedule.Expands master)
    (digest : Bytes) :
    Decides (schedule.masterSecret >>= fun master => master.data >>= fun _ => checkDigest digest)
      (schedule.resumptionStage digest) := by
  refine Decides.bind_same fun master hheld => ?_
  have hlabel : "res master" ∈ SecretTree.labels := by simp [SecretTree.labels]
  exact (decides_deriveSecret (hmaster master hheld) hlabel digest).bind_of_ok
    fun _ _ _ _ => ⟨_, rfl⟩

theorem decides_nextTrafficSecret {role : Role}
    (hcurrent : ∀ current, schedule.applicationTraffic.get role = .ok current →
      schedule.Expands current) :
    Decides (schedule.applicationTraffic.get role >>= fun current =>
        current.data >>= fun _ => checkDigest [])
      (schedule.nextTrafficSecret role) := by
  refine Decides.bind_same fun current hheld => ?_
  have hlabel : "traffic upd" ∈ SecretTree.labels := by simp [SecretTree.labels]
  exact (decides_deriveSecret (hcurrent current hheld) hlabel []).bind_of_ok
    fun _ _ _ _ => ⟨_, rfl⟩

end HkdfSchedule

/-! ### Calls -/

namespace Derivation

open HkdfSchedule (checkDigest)

/-- The digest that a call binds; an update binds none. -/
def digest : Derivation → Except RecordError Bytes
  | masterSecret _ none => .error .missingTranscriptDigest
  | masterSecret _ (some digest) => .ok digest
  | handshakeSecrets _ digest => .ok digest
  | applicationSecrets digest => .ok digest
  | resumptionSecret digest => .ok digest
  | update _ => .ok []

/-- The secret that a call starts from. -/
def source (call : Derivation) (schedule : HkdfSchedule) : Except RecordError Secret :=
  match call with
  | masterSecret .. | handshakeSecrets .. => .ok schedule.early
  | applicationSecrets _ | resumptionSecret _ => schedule.masterSecret
  | update role => schedule.applicationTraffic.get role

/-- All that a call needs: a digest, a secret to start from that can be read, and a length of the
digest that can be sent. -/
def check (call : Derivation) (schedule : HkdfSchedule) : Except RecordError Unit := do
  let digest ← call.digest
  let secret ← call.source schedule
  let _ ← secret.data
  checkDigest digest

/-- A call as a whole: what it returns and the schedule that it leads to, or why there is neither.
-/
def attempt (call : Derivation) (schedule : HkdfSchedule) :
    Except RecordError (Option Secret × HkdfSchedule) :=
  match call with
  | masterSecret _ none => .error .missingTranscriptDigest
  | masterSecret shared (some digest) => do
      let (handshake, traffic) ← schedule.handshakeStage shared digest
      let staged := { schedule with handshake := some handshake, handshakeTraffic := traffic }
      let master ← staged.masterStage
      return (some master, { staged with master := some master })
  | handshakeSecrets shared digest => do
      let (handshake, traffic) ← schedule.handshakeStage shared digest
      return (none, { schedule with handshake := some handshake, handshakeTraffic := traffic })
  | applicationSecrets digest => do
      let (traffic, exporter) ← schedule.applicationStage digest
      return (none, { schedule with applicationTraffic := traffic, exporter := some exporter })
  | resumptionSecret digest => do
      let secret ← schedule.resumptionStage digest
      return (some secret, { schedule with resumption := some secret })
  | update role => do
      let next ← schedule.nextTrafficSecret role
      return (some next,
        { schedule with applicationTraffic := schedule.applicationTraffic.set role next })

section Run

variable {call : Derivation} {schedule : HkdfSchedule}

/-- A call is done as a whole or not at all. -/
theorem run_eq (call : Derivation) (schedule : HkdfSchedule) :
    call.run schedule
      = match call.attempt schedule with
        | .ok (answer, next) => (.ok answer, next)
        | .error e => (.error e, schedule) := by
  cases call with
  | masterSecret shared transcript =>
      cases transcript with
      | none => rfl
      | some digest =>
          simp only [run, attempt, HkdfSchedule.deriveMasterSecret,
            HkdfSchedule.deriveHandshakeSecrets]
          cases hresult : schedule.handshakeStage shared digest with
          | error e => rfl
          | ok secrets =>
              -- the first stage is in the schedule by now, so the second one must not fail
              obtain ⟨handshake, traffic⟩ := secrets
              obtain ⟨master, hmaster⟩ := HkdfSchedule.exists_masterStage hresult
              simp only [HkdfSchedule.deriveMaster, bind, Except.bind, hmaster]
              rfl
  | handshakeSecrets shared digest =>
      simp only [run, attempt, HkdfSchedule.deriveHandshakeSecrets]
      cases schedule.handshakeStage shared digest <;> rfl
  | applicationSecrets digest =>
      simp only [run, attempt, HkdfSchedule.deriveApplicationSecrets]
      cases schedule.applicationStage digest <;> rfl
  | resumptionSecret digest =>
      simp only [run, attempt, HkdfSchedule.deriveResumptionSecret]
      cases schedule.resumptionStage digest <;> rfl
  | update role =>
      simp only [run, attempt, HkdfSchedule.updateTrafficSecret]
      cases schedule.nextTrafficSecret role <;> rfl

theorem eq_of_run_error {e : RecordError} (hfailed : (call.run schedule).1 = .error e) :
    (call.run schedule).2 = schedule := by
  rw [run_eq] at hfailed ⊢
  cases hattempt : call.attempt schedule with
  | error other => rfl
  | ok result =>
      rw [hattempt] at hfailed
      cases hfailed

theorem decides_attempt
    (hsource : ∀ secret, call.source schedule = .ok secret → schedule.Expands secret) :
    Decides (call.check schedule) (call.attempt schedule) := by
  cases call with
  | masterSecret shared transcript =>
      cases transcript with
      | none => rfl
      | some digest =>
          refine (HkdfSchedule.decides_handshakeStage (hsource _ rfl) shared digest).bind_of_ok ?_
          rintro _ ⟨handshake, traffic⟩ _ hresult
          obtain ⟨master, hmaster⟩ := HkdfSchedule.exists_masterStage hresult
          exact ⟨_, bind_eq_ok_iff.mpr ⟨master, hmaster, rfl⟩⟩
  | handshakeSecrets shared digest =>
      exact (HkdfSchedule.decides_handshakeStage (hsource _ rfl) shared digest).bind_of_ok
        fun _ _ _ _ => ⟨_, rfl⟩
  | applicationSecrets digest =>
      exact (HkdfSchedule.decides_applicationStage hsource digest).bind_of_ok
        fun _ _ _ _ => ⟨_, rfl⟩
  | resumptionSecret digest =>
      exact (HkdfSchedule.decides_resumptionStage hsource digest).bind_of_ok
        fun _ _ _ _ => ⟨_, rfl⟩
  | update role =>
      exact (HkdfSchedule.decides_nextTrafficSecret hsource).bind_of_ok fun _ _ _ _ => ⟨_, rfl⟩

theorem decides_run
    (hsource : ∀ secret, call.source schedule = .ok secret → schedule.Expands secret) :
    Decides (call.check schedule) (call.run schedule).1 := by
  have hdecides := decides_attempt hsource
  rw [run_eq]
  cases hattempt : call.attempt schedule with
  | error e =>
      rw [hattempt] at hdecides
      exact hdecides
  | ok result =>
      rw [hattempt] at hdecides
      exact hdecides

/-- What a call leaves of the secrets that others start from. -/
theorem trunk_of_attempt {answer : Option Secret} {next : HkdfSchedule}
    (hattempt : call.attempt schedule = .ok (answer, next)) :
    next.suite = schedule.suite ∧ next.early = schedule.early
      ∧ (next.master = schedule.master
        ∨ ∃ data, data.length = schedule.hash.outputLength
          ∧ next.master = some (.ofBytes "master secret" data)) := by
  cases call with
  | masterSecret shared transcript =>
      cases transcript with
      | none => cases hattempt
      | some digest =>
          obtain ⟨⟨handshake, traffic⟩, -, hattempt⟩ := bind_eq_ok_iff.mp hattempt
          obtain ⟨master, hmaster, hattempt⟩ := bind_eq_ok_iff.mp hattempt
          obtain ⟨_, -, hmaster⟩ := bind_eq_ok_iff.mp hmaster
          obtain ⟨data, hnext, hmaster⟩ := bind_eq_ok_iff.mp hmaster
          cases hmaster
          cases hattempt
          exact ⟨rfl, rfl, .inr ⟨data, HkdfSchedule.length_of_nextStage hnext, rfl⟩⟩
  | handshakeSecrets | applicationSecrets | resumptionSecret | update =>
      obtain ⟨_, -, hattempt⟩ := bind_eq_ok_iff.mp hattempt
      cases hattempt
      exact ⟨rfl, rfl, .inl rfl⟩

end Run

end Derivation

/-! ### Schedules in use -/

namespace HkdfSchedule

/-- The secrets that stages start from are as long as a digest, as far as they can be read. -/
structure TrunkSized (schedule : HkdfSchedule) : Prop where
  early : schedule.Expands schedule.early
  master : ∀ master ∈ schedule.master, schedule.Expands master

variable {schedule : HkdfSchedule}

theorem TrunkSized.step (h : schedule.TrunkSized) (call : Derivation) :
    (call.run schedule).2.TrunkSized := by
  rw [Derivation.run_eq]
  cases hattempt : call.attempt schedule with
  | error e => exact h
  | ok result =>
      obtain ⟨answer, next⟩ := result
      obtain ⟨hsuite, hearly, hmaster⟩ := Derivation.trunk_of_attempt hattempt
      have hexpands {secret : Secret} (hsecret : schedule.Expands secret) :
          next.Expands secret := by
        intro data hdata
        rw [hash, hsuite]
        exact hsecret data hdata
      refine ⟨?_, fun master hheld => ?_⟩
      · rw [hearly]
        exact hexpands h.early
      · obtain hkept | ⟨data, hlength, hnew⟩ := hmaster
        · rw [hkept] at hheld
          exact hexpands (h.master master hheld)
        · rw [hnew, Option.mem_some_iff] at hheld
          subst hheld
          exact hexpands (expands_ofBytes hlength "master secret")

theorem expands_of_isDestroyed {secret : Secret} (hsecret : secret.isDestroyed = true) :
    schedule.Expands secret := by
  intro data hdata
  obtain ⟨e, hdenied, -⟩ := denied_data hsecret
  rw [hdenied] at hdata
  cases hdata

theorem trunkSized_of_destroyed (h : schedule.Destroyed) : schedule.TrunkSized where
  early := expands_of_isDestroyed h.early
  master := fun master hheld => expands_of_isDestroyed (h.master master hheld)

theorem trunkSized_of_create {params : Parameters} {psk : Option Bytes}
    (hcreate : create params psk = .ok schedule) : schedule.TrunkSized := by
  unfold create at hcreate
  split at hcreate
  · cases hcreate
  · cases hcreate
    refine ⟨expands_ofBytes (length_hmac _ _ _) "early secret", ?_⟩
    rintro _ ⟨⟩

theorem Reached.trunkSized (hreached : schedule.Reached) : schedule.TrunkSized := by
  induction hreached with
  | created _ hcreate => exact trunkSized_of_create hcreate
  | derivedHandshakeSecrets _ shared digest ih => exact ih.step (.handshakeSecrets shared digest)
  | derivedMasterSecret _ shared transcript ih => exact ih.step (.masterSecret shared transcript)
  | derivedApplicationSecrets _ digest ih => exact ih.step (.applicationSecrets digest)
  | derivedResumptionSecret _ digest ih => exact ih.step (.resumptionSecret digest)
  | updatedTrafficSecret _ role ih => exact ih.step (.update role)
  | destroyed _ _ => exact trunkSized_of_destroyed (destroyed_destroy _)

theorem Reached.expands_source (hreached : schedule.Reached) {call : Derivation} {secret : Secret}
    (hsource : call.source schedule = .ok secret) : schedule.Expands secret := by
  have hmaster (hheld : schedule.masterSecret = .ok secret) : schedule.Expands secret := by
    unfold masterSecret require at hheld
    split at hheld
    · rename_i master hslot
      cases hheld
      exact hreached.trunkSized.master secret hslot
    · cases hheld
  cases call with
  | masterSecret | handshakeSecrets =>
      cases hsource
      exact hreached.trunkSized.early
  | applicationSecrets | resumptionSecret => exact hmaster hsource
  | update role =>
      intro data hdata
      exact (hreached.sized role secret data hsource hdata).ge

end HkdfSchedule

/-! ### Histories with failures -/

section History

variable {Call State Answer : Type} (run : Call → State → Except RecordError Answer × State)

/-- The calls of a history that succeed. -/
def succeeding : State → List Call → List Call
  | _, [] => []
  | state, call :: calls =>
      match run call state with
      | (.ok _, next) => call :: succeeding next calls
      | (.error _, next) => succeeding next calls

/-- If no call that fails changes anything, a history leads to where it leads without them. -/
theorem foldl_succeeding
    (hkept : ∀ call state e, (run call state).1 = .error e → (run call state).2 = state)
    (state : State) (calls : List Call) :
    (succeeding run state calls).foldl (fun state call => (run call state).2) state
      = calls.foldl (fun state call => (run call state).2) state := by
  induction calls generalizing state with
  | nil => rfl
  | cons call calls ih =>
      rw [List.foldl_cons, ← ih, succeeding]
      rcases hrun : run call state with ⟨e | answer, next⟩
      · have hsame := hkept call state e (congrArg Prod.fst hrun)
        rw [hrun] at hsame
        subst hsame
        rfl
      · simp only [List.foldl_cons, hrun]

end History

theorem HkdfCall.eq_of_run_error {call : HkdfCall} {schedule : HkdfSchedule} {e : RecordError}
    (hfailed : (call.run schedule).1 = .error e) : (call.run schedule).2 = schedule := by
  cases call with
  | derive call =>
      have hcall : (call.run schedule).1 = .error e := by
        cases hanswer : (call.run schedule).1 with
        | ok answer => simp [run, hanswer, Except.map] at hfailed
        | error other => simpa [run, hanswer, Except.map] using hfailed
      exact call.eq_of_run_error hcall
  | destroy => cases hfailed
  | lend | trafficKeys | binderKey | earlyTrafficSecret | resumptionPsk | exportKeyingMaterial
  | verifyData => rfl

/-- Before version 1.3, master secret and random values enter together or not at all. -/
theorem PrfCall.eq_of_run_error {call : PrfCall} {schedule : PrfSchedule} {e : RecordError}
    (hfailed : (call.run schedule).1 = .error e) : (call.run schedule).2 = schedule := by
  cases call with
  | deriveMasterSecret preMaster clientRandom serverRandom sessionHash =>
      simp only [run, PrfSchedule.deriveMasterSecret] at hfailed ⊢
      cases hmaster : schedule.masterOf preMaster clientRandom serverRandom sessionHash with
      | error other => rfl
      | ok master =>
          rw [hmaster] at hfailed
          cases hfailed
  | resume master clientRandom serverRandom =>
      simp only [run, PrfSchedule.resume] at hfailed ⊢
      by_cases hlength : master.length = masterSecretLength
      · rw [if_pos hlength] at hfailed
        cases hfailed
      · rw [if_neg hlength]
        rfl
  | destroy => cases hfailed
  | masterSecret | deriveKeyBlock | exportKeyingMaterial | verifyData => rfl

/-- A derivation fails exactly if its check does, and then as the check does.  No failed call leaves
a trace in a schedule, neither at once nor in what later calls make of it. -/
theorem failed_calls_leave_no_trace {hkdf : HkdfSchedule} (hreached : hkdf.Reached)
    (prf : PrfSchedule) :
    (∀ call : Derivation, Decides (call.check hkdf) (call.run hkdf).1
        ∧ ∀ e, (call.run hkdf).1 = .error e → (call.run hkdf).2 = hkdf)
      ∧ (∀ (call : PrfCall) e, (call.run prf).1 = .error e → (call.run prf).2 = prf)
      ∧ (∀ calls, HkdfCall.after hkdf (succeeding HkdfCall.run hkdf calls)
        = HkdfCall.after hkdf calls)
      ∧ ∀ calls, PrfCall.after prf (succeeding PrfCall.run prf calls)
        = PrfCall.after prf calls := by
  refine ⟨fun call => ⟨?_, fun e hfailed => call.eq_of_run_error hfailed⟩,
    fun call e hfailed => call.eq_of_run_error hfailed, fun calls => ?_, fun calls => ?_⟩
  · exact call.decides_run fun secret hsource => hreached.expands_source hsource
  · exact foldl_succeeding HkdfCall.run (fun call _ _ hfailed => call.eq_of_run_error hfailed) hkdf
      calls
  · exact foldl_succeeding PrfCall.run (fun call _ _ hfailed => call.eq_of_run_error hfailed) prf
      calls

/-- A new schedule refuses what comes without a digest, too early, or with a digest that is too
long; a master secret of another length is refused as well. -/
theorem startedSchedule_keeps_failures_out :
    (Derivation.masterSecret [] none).run KeyUpdate.startedSchedule
        = (.error .missingTranscriptDigest, KeyUpdate.startedSchedule)
      ∧ (Derivation.applicationSecrets []).run KeyUpdate.startedSchedule
        = (.error .missingMasterSecret, KeyUpdate.startedSchedule)
      ∧ (Derivation.handshakeSecrets [] (Bytes.zeros 256)).run KeyUpdate.startedSchedule
        = (.error (.unsupportedOperation "Context too long for HKDF-Expand-Label"),
          KeyUpdate.startedSchedule)
      ∧ (PrfCall.resume [] [] []).run PrfSchedule.exportSchedule
        = (.error (.invalidKeyLength 48 0), PrfSchedule.exportSchedule) := by
  obtain ⟨hderivation, hcall, -, -⟩ := failed_calls_leave_no_trace
    KeyUpdate.reached_startedSchedule PrfSchedule.exportSchedule
  have hrefused {call : Derivation} {e : RecordError}
      (hcheck : call.check KeyUpdate.startedSchedule = .error e) :
      call.run KeyUpdate.startedSchedule = (.error e, KeyUpdate.startedSchedule) := by
    obtain ⟨hdecides, hkept⟩ := hderivation call
    rw [hcheck, decides_error_iff] at hdecides
    exact Prod.ext hdecides (hkept e hdecides)
  have hcheck (digest : Bytes) :
      (Derivation.handshakeSecrets [] digest).check KeyUpdate.startedSchedule
        = HkdfSchedule.checkDigest digest := by
    rfl
  have hlong : (Bytes.zeros 256).length > 255 := by
    rw [Bytes.length_zeros]
    decide
  exact ⟨hrefused rfl, hrefused rfl, hrefused ((hcheck (Bytes.zeros 256)).trans (if_pos hlong)),
    Prod.ext rfl (hcall (.resume [] [] []) _ rfl)⟩

end RecordProtection
