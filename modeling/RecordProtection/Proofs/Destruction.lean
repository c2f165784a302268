import RecordProtection.KeySchedule.Prf
import RecordProtection.Proofs.Lineage

/-!
# Destroyed schedules

A schedule that has been destroyed gives nothing away any more.  Where it does not fail, it lends a
secret that has been destroyed itself.  A schedule of version 1.3 stays so for good, since all that
it could derive comes from its early secret.  The master secret of the earlier versions comes from
outside, so that a new one can be supplied.
-/

namespace RecordProtection

/-! ### What calls give away -/

/-- What a call on a schedule may give to the caller. -/
inductive Disclosure where
  | nothing
  | secret (secret : Secret)
  | bytes (bytes : Bytes)
  | keys (keys : TrafficKeys)
  | block (block : KeyBlock)

/-- The errors of a secret that is not there to be read. -/
def RecordError.Denies : RecordError → Prop
  | accessAfterDestroy _ | missingMasterSecret | missingTranscriptDigest => True
  | _ => False

/-- A result that cannot be had without a secret that is not there. -/
def Denied {α : Type} (result : Except RecordError α) : Prop :=
  ∃ error, result = .error error ∧ error.Denies

/-- An answer that gives nothing away. -/
def Withheld (answer : Except RecordError Disclosure) : Prop :=
  Denied answer ∨ ∃ secret, answer = .ok (.secret secret) ∧ secret.isDestroyed = true

section Denied

variable {α β : Type}

theorem Denied.bind {result : Except RecordError α} (h : Denied result)
    (next : α → Except RecordError β) : Denied (result >>= next) := by
  obtain ⟨error, rfl, herror⟩ := h
  exact ⟨error, rfl, herror⟩

theorem Denied.map {result : Except RecordError α} (h : Denied result) (f : α → β) :
    Denied (result.map f) := by
  obtain ⟨error, rfl, herror⟩ := h
  exact ⟨error, rfl, herror⟩

theorem denied_data {secret : Secret} (h : secret.isDestroyed = true) : Denied secret.data := by
  have hstored : secret.stored = none := Option.isNone_iff_eq_none.mp h
  refine ⟨.accessAfterDestroy secret.label, ?_, trivial⟩
  rw [Secret.data, hstored]

end Denied

/-- No secret of a slot can be read. -/
def Gone (slot : Option Secret) : Prop := ∀ secret ∈ slot, secret.isDestroyed = true

theorem gone_destroy (slot : Option Secret) : Gone (slot.map Secret.destroy) := by
  intro secret hsecret
  obtain ⟨old, -, rfl⟩ := Option.map_eq_some_iff.mp hsecret
  rfl

/-! ### Version 1.3 -/

def SideSecrets.Gone (secrets : SideSecrets) : Prop :=
  RecordProtection.Gone secrets.client ∧ RecordProtection.Gone secrets.server

namespace HkdfSchedule

/-- The schedule holds no secret that can be read. -/
structure Destroyed (schedule : HkdfSchedule) : Prop where
  early : schedule.early.isDestroyed = true
  handshake : Gone schedule.handshake
  master : Gone schedule.master
  handshakeTraffic : schedule.handshakeTraffic.Gone
  applicationTraffic : schedule.applicationTraffic.Gone
  exporter : Gone schedule.exporter
  resumption : Gone schedule.resumption

theorem destroyed_destroy (schedule : HkdfSchedule) : schedule.destroy.Destroyed where
  early := rfl
  handshake := gone_destroy _
  master := gone_destroy _
  handshakeTraffic := ⟨gone_destroy _, gone_destroy _⟩
  applicationTraffic := ⟨gone_destroy _, gone_destroy _⟩
  exporter := gone_destroy _
  resumption := gone_destroy _

end HkdfSchedule

/-- The secrets that a schedule lends. -/
inductive Lent where
  | master
  | traffic (role : Role) (stage : TrafficStage)
  | exporter

def Lent.secret (schedule : HkdfSchedule) : Lent → Except RecordError Secret
  | master => schedule.masterSecret
  | traffic role stage => schedule.trafficSecret role stage
  | exporter => schedule.exporterSecret

/-- The calls on a schedule of version 1.3.  Traffic keys are those of a secret that it lends. -/
inductive HkdfCall where
  | derive (call : Derivation)
  | lend (lent : Lent)
  | trafficKeys (lent : Lent)
  | binderKey (resumption : Bool)
  | earlyTrafficSecret (digest : Bytes)
  | resumptionPsk (nonce : Bytes)
  | exportKeyingMaterial (label context : Bytes) (length : Nat)
  | verifyData (role : Role) (digest : Bytes)
  | destroy

namespace HkdfCall

def run (call : HkdfCall) (schedule : HkdfSchedule) :
    Except RecordError Disclosure × HkdfSchedule :=
  match call with
  | derive call => (call.run schedule).map (·.map fun secret => secret.elim .nothing .secret) id
  | lend lent => ((lent.secret schedule).map .secret, schedule)
  | trafficKeys lent => ((lent.secret schedule >>= schedule.trafficKeys).map .keys, schedule)
  | binderKey resumption => ((schedule.binderKey resumption).map .secret, schedule)
  | earlyTrafficSecret digest => ((schedule.earlyTrafficSecret digest).map .secret, schedule)
  | resumptionPsk nonce => ((schedule.resumptionPsk nonce).map .secret, schedule)
  | exportKeyingMaterial label context length =>
      ((schedule.exportKeyingMaterial label context length).map .bytes, schedule)
  | verifyData role digest => ((schedule.verifyData role digest).map .bytes, schedule)
  | destroy => (.ok .nothing, schedule.destroy)

def after (schedule : HkdfSchedule) (calls : List HkdfCall) : HkdfSchedule :=
  calls.foldl (fun schedule call => (call.run schedule).2) schedule

end HkdfCall

/-- A secret that was asked for, but is missing or destroyed. -/
def Vacant (result : Except RecordError Secret) : Prop :=
  result = .error .missingMasterSecret
    ∨ ∃ secret, result = .ok secret ∧ secret.isDestroyed = true

theorem Vacant.withheld {result : Except RecordError Secret} (h : Vacant result) :
    Withheld (result.map .secret) := by
  obtain rfl | ⟨secret, rfl, hsecret⟩ := h
  · exact .inl ⟨.missingMasterSecret, rfl, trivial⟩
  · exact .inr ⟨secret, rfl, hsecret⟩

theorem Vacant.denied_bind {α : Type} {result : Except RecordError Secret} (h : Vacant result)
    {next : Secret → Except RecordError α}
    (hnext : ∀ secret, secret.isDestroyed = true → Denied (next secret)) :
    Denied (result >>= next) := by
  obtain rfl | ⟨secret, rfl, hsecret⟩ := h
  · exact ⟨.missingMasterSecret, rfl, trivial⟩
  · exact hnext secret hsecret

theorem Gone.vacant {slot : Option Secret} (h : Gone slot) :
    Vacant (HkdfSchedule.require slot) := by
  cases slot with
  | none => exact .inl rfl
  | some secret => exact .inr ⟨secret, rfl, h secret rfl⟩

theorem SideSecrets.Gone.vacant {secrets : SideSecrets} (h : secrets.Gone) (role : Role) :
    Vacant (secrets.get role) := by
  obtain ⟨client, server⟩ := secrets
  cases role with
  | client =>
      cases client with
      | none => cases server <;> exact .inl rfl
      | some secret => exact .inr ⟨secret, rfl, h.1 secret rfl⟩
  | server =>
      cases server with
      | none => cases client <;> exact .inl rfl
      | some secret => exact .inr ⟨secret, by cases client <;> rfl, h.2 secret rfl⟩

namespace HkdfSchedule

variable {schedule : HkdfSchedule}

theorem denied_deriveFrom {secret : Secret} (hsecret : secret.isDestroyed = true)
    (label transcript : Bytes) : Denied (schedule.deriveFrom secret label transcript) :=
  (denied_data hsecret).bind _

theorem denied_nextStage {secret : Secret} (hsecret : secret.isDestroyed = true)
    (keyMaterial : Bytes) : Denied (schedule.nextStage secret keyMaterial) :=
  (denied_deriveFrom hsecret _ _).bind _

section Destroyed

variable (h : schedule.Destroyed)
include h

theorem Destroyed.vacant_lent (lent : Lent) : Vacant (lent.secret schedule) := by
  cases lent with
  | master => exact h.master.vacant
  | traffic role stage =>
      cases stage with
      | handshake => exact h.handshakeTraffic.vacant role
      | application => exact h.applicationTraffic.vacant role
  | exporter => exact h.exporter.vacant

/-- Nothing is derived from secrets that are gone, and nothing is replaced. -/
theorem Destroyed.denied_derivation (call : Derivation) :
    Denied (call.run schedule).1 ∧ (call.run schedule).2 = schedule := by
  have hhandshake (shared digest : Bytes) : Denied (schedule.handshakeStage shared digest) :=
    (denied_nextStage h.early shared).bind _
  cases call with
  | masterSecret shared transcript =>
      cases transcript with
      | none => exact ⟨⟨.missingTranscriptDigest, rfl, trivial⟩, rfl⟩
      | some digest =>
          obtain ⟨error, hstage, herror⟩ := hhandshake shared digest
          rw [Derivation.run, deriveMasterSecret, deriveHandshakeSecrets, hstage]
          exact ⟨⟨error, rfl, herror⟩, rfl⟩
  | handshakeSecrets shared digest =>
      obtain ⟨error, hstage, herror⟩ := hhandshake shared digest
      rw [Derivation.run, deriveHandshakeSecrets, hstage]
      exact ⟨⟨error, rfl, herror⟩, rfl⟩
  | applicationSecrets digest =>
      have hdenied : Denied (schedule.applicationStage digest) :=
        h.master.vacant.denied_bind fun secret hsecret => (denied_deriveFrom hsecret _ _).bind _
      obtain ⟨error, hstage, herror⟩ := hdenied
      rw [Derivation.run, deriveApplicationSecrets, hstage]
      exact ⟨⟨error, rfl, herror⟩, rfl⟩
  | resumptionSecret digest =>
      have hdenied : Denied (schedule.resumptionStage digest) :=
        h.master.vacant.denied_bind fun secret hsecret => (denied_deriveFrom hsecret _ _).bind _
      obtain ⟨error, hstage, herror⟩ := hdenied
      rw [Derivation.run, deriveResumptionSecret, hstage]
      exact ⟨⟨error, rfl, herror⟩, rfl⟩
  | update role =>
      have hdenied : Denied (schedule.nextTrafficSecret role) :=
        (h.applicationTraffic.vacant role).denied_bind fun secret hsecret =>
          (denied_deriveFrom hsecret _ _).bind _
      obtain ⟨error, hnext, herror⟩ := hdenied
      rw [Derivation.run, updateTrafficSecret, hnext]
      exact ⟨⟨error, rfl, herror⟩, rfl⟩

theorem Destroyed.withheld (call : HkdfCall) (hcall : call ≠ .destroy) :
    Withheld (call.run schedule).1 := by
  cases call with
  | derive call => exact .inl ((h.denied_derivation call).1.map _)
  | lend lent => exact (h.vacant_lent lent).withheld
  | trafficKeys lent =>
      have hdenied : Denied (lent.secret schedule >>= schedule.trafficKeys) :=
        (h.vacant_lent lent).denied_bind fun secret hsecret => (denied_data hsecret).bind _
      exact .inl (hdenied.map _)
  | binderKey resumption =>
      have hdenied : Denied (schedule.binderKey resumption) :=
        (denied_deriveFrom h.early _ _).bind _
      exact .inl (hdenied.map _)
  | earlyTrafficSecret digest =>
      have hdenied : Denied (schedule.earlyTrafficSecret digest) :=
        (denied_deriveFrom h.early _ _).bind _
      exact .inl (hdenied.map _)
  | resumptionPsk nonce =>
      have hdenied : Denied (schedule.resumptionPsk nonce) :=
        h.resumption.vacant.denied_bind fun secret hsecret => (denied_deriveFrom hsecret _ _).bind _
      exact .inl (hdenied.map _)
  | exportKeyingMaterial label context length =>
      have hdenied : Denied (schedule.exportKeyingMaterial label context length) :=
        h.exporter.vacant.denied_bind fun secret hsecret => (denied_deriveFrom hsecret _ _).bind _
      exact .inl (hdenied.map _)
  | verifyData role digest =>
      have hdenied : Denied (schedule.verifyData role digest) :=
        (h.handshakeTraffic.vacant role).denied_bind fun secret hsecret =>
          (denied_deriveFrom hsecret _ _).bind _
      exact .inl (hdenied.map _)
  | destroy => exact absurd rfl hcall

end Destroyed

theorem Destroyed.step (h : schedule.Destroyed) (call : HkdfCall) :
    (call.run schedule).2.Destroyed := by
  cases call with
  | derive call =>
      have hsame := (h.denied_derivation call).2
      rw [← hsame] at h
      exact h
  | destroy => exact destroyed_destroy schedule
  | lend | trafficKeys | binderKey | earlyTrafficSecret | resumptionPsk | exportKeyingMaterial
  | verifyData => exact h

theorem destroyed_after (schedule : HkdfSchedule) (calls : List HkdfCall) :
    (HkdfCall.after schedule.destroy calls).Destroyed := by
  induction calls using List.reverseRecOn with
  | nil => exact destroyed_destroy schedule
  | append_singleton calls call ih =>
      rw [HkdfCall.after, List.foldl_append]
      exact ih.step call

end HkdfSchedule

/-! ### Earlier versions -/

/-- The calls on a schedule of an earlier version. -/
inductive PrfCall where
  | deriveMasterSecret (preMaster clientRandom serverRandom : Bytes) (sessionHash : Option Bytes)
  | resume (master clientRandom serverRandom : Bytes)
  | masterSecret
  | deriveKeyBlock
  | exportKeyingMaterial (label : String) (context : Option Bytes) (length : Nat)
  | verifyData (role : Role) (transcript : Bytes)
  | destroy

namespace PrfCall

def run (call : PrfCall) (schedule : PrfSchedule) : Except RecordError Disclosure × PrfSchedule :=
  match call with
  | deriveMasterSecret preMaster clientRandom serverRandom sessionHash =>
      (schedule.deriveMasterSecret preMaster clientRandom serverRandom sessionHash).map
        (·.map .secret) id
  | resume master clientRandom serverRandom =>
      (schedule.resume master clientRandom serverRandom).map (·.map fun _ => .nothing) id
  | masterSecret => (schedule.masterSecret.map .secret, schedule)
  | deriveKeyBlock => (schedule.deriveKeyBlock.map .block, schedule)
  | exportKeyingMaterial label context length =>
      ((schedule.exportKeyingMaterial label context length).map .bytes, schedule)
  | verifyData role transcript => ((schedule.verifyData role transcript).map .bytes, schedule)
  | destroy => (.ok .nothing, schedule.destroy)

def after (schedule : PrfSchedule) (calls : List PrfCall) : PrfSchedule :=
  calls.foldl (fun schedule call => (call.run schedule).2) schedule

/-- Calls that read the master secret. -/
def reads : PrfCall → Bool
  | masterSecret | deriveKeyBlock | exportKeyingMaterial .. | verifyData .. => true
  | deriveMasterSecret .. | resume .. | destroy => false

/-- Whether a call puts a new master secret into the schedule. -/
def supplies (call : PrfCall) (schedule : PrfSchedule) : Bool :=
  match call with
  | deriveMasterSecret .. | resume .. => (call.run schedule).1.isOk
  | _ => false

/-- Whether a master secret has been supplied since the last destruction, where one call follows
others. -/
def supplyAfter (call : PrfCall) (schedule : PrfSchedule) (before : Bool) : Bool :=
  match call with
  | destroy => false
  | _ => before || call.supplies schedule

def supplied (schedule : PrfSchedule) (before : Bool) : List PrfCall → Bool
  | [] => before
  | call :: calls => supplied (call.run schedule).2 (call.supplyAfter schedule before) calls

end PrfCall

namespace PrfSchedule

/-- The schedule holds no master secret that can be read. -/
def Destroyed (schedule : PrfSchedule) : Prop :=
  ∀ session ∈ schedule.session, session.master.isDestroyed = true

/-- The one call that looks at the suite before it looks for the master secret. -/
def RefusesExport (schedule : PrfSchedule) (call : PrfCall) : Prop :=
  call = .deriveKeyBlock ∧ schedule.suite.isExport = true ∧ schedule.version ≠ .tls10
    ∧ (call.run schedule).1
      = .error (.unsupportedOperation "export key derivation after TLS 1.0")

theorem destroyed_destroy (schedule : PrfSchedule) : schedule.destroy.Destroyed := by
  intro session hsession
  obtain ⟨old, -, rfl⟩ := Option.map_eq_some_iff.mp hsession
  rfl

theorem not_destroyed_withMaster (schedule : PrfSchedule)
    (master clientRandom serverRandom : Bytes) :
    ¬ (schedule.withMaster master clientRandom serverRandom).Destroyed := by
  intro h
  cases h _ rfl

section Destroyed

variable {schedule : PrfSchedule} (h : schedule.Destroyed)
include h

theorem Destroyed.denied_session_bind {α : Type} {next : MasterSession → Except RecordError α}
    (hnext : ∀ session, session.master.isDestroyed = true → Denied (next session)) :
    Denied (schedule.masterSession >>= next) := by
  cases hsession : schedule.session with
  | none =>
      rw [masterSession, hsession]
      exact ⟨.missingMasterSecret, rfl, trivial⟩
  | some session =>
      rw [masterSession, hsession]
      exact hnext session (h session hsession)

theorem Destroyed.vacant_masterSecret : Vacant schedule.masterSecret := by
  cases hsession : schedule.session with
  | none =>
      rw [masterSecret, masterSession, hsession]
      exact .inl rfl
  | some session =>
      rw [masterSecret, masterSession, hsession]
      exact .inr ⟨session.master, rfl, h session hsession⟩

theorem Destroyed.withheld (call : PrfCall) (hcall : call.reads = true) :
    Withheld (call.run schedule).1 ∨ schedule.RefusesExport call := by
  cases call with
  | masterSecret => exact .inl h.vacant_masterSecret.withheld
  | deriveKeyBlock =>
      by_cases hexport : (schedule.suite.isExport && schedule.version != .tls10) = true
      · have hrefused : schedule.deriveKeyBlock
            = .error (.unsupportedOperation "export key derivation after TLS 1.0") := by
          simp only [deriveKeyBlock, if_pos hexport]
          rfl
        obtain ⟨hsuite, hversion⟩ := Bool.and_eq_true_iff.mp hexport
        refine .inr ⟨rfl, hsuite, bne_iff_ne.mp hversion, ?_⟩
        rw [PrfCall.run, hrefused]
        rfl
      · have hdenied : Denied schedule.deriveKeyBlock := by
          simp only [deriveKeyBlock, if_neg hexport]
          exact h.denied_session_bind fun session hsession => (denied_data hsession).bind _
        exact .inl (.inl (hdenied.map _))
  | exportKeyingMaterial label context length =>
      have hdenied : Denied (schedule.exportKeyingMaterial label context length) :=
        h.denied_session_bind fun session hsession => (denied_data hsession).bind _
      exact .inl (.inl (hdenied.map _))
  | verifyData role transcript =>
      have hdenied : Denied (schedule.verifyData role transcript) :=
        h.vacant_masterSecret.denied_bind fun secret hsecret => (denied_data hsecret).bind _
      exact .inl (.inl (hdenied.map _))
  | deriveMasterSecret | resume | destroy => cases hcall

end Destroyed

/-- What a call leaves of a schedule cannot be read exactly if nothing could be read before and the
call has supplied nothing. -/
theorem destroyed_run_iff (schedule : PrfSchedule) (call : PrfCall) {before : Bool}
    (hbefore : schedule.Destroyed ↔ before = false) :
    (call.run schedule).2.Destroyed ↔ call.supplyAfter schedule before = false := by
  cases call with
  | deriveMasterSecret preMaster clientRandom serverRandom sessionHash =>
      simp only [PrfCall.supplyAfter, PrfCall.supplies, PrfCall.run,
        PrfSchedule.deriveMasterSecret]
      cases hmaster : schedule.masterOf preMaster clientRandom serverRandom sessionHash with
      | ok master =>
          have hlive := schedule.not_destroyed_withMaster master clientRandom serverRandom
          simp [hlive, Except.map, Except.isOk, Except.toBool]
      | error error => simp [hbefore, Except.map, Except.isOk, Except.toBool]
  | resume master clientRandom serverRandom =>
      simp only [PrfCall.supplyAfter, PrfCall.supplies, PrfCall.run, PrfSchedule.resume]
      by_cases hlength : master.length = masterSecretLength
      · have hlive := schedule.not_destroyed_withMaster master clientRandom serverRandom
        simp [hlength, hlive, Except.map, Except.isOk, Except.toBool]
      · simp [hlength, hbefore, Except.map, Except.isOk, Except.toBool]
  | destroy => exact ⟨fun _ => rfl, fun _ => schedule.destroyed_destroy⟩
  | masterSecret | deriveKeyBlock | exportKeyingMaterial | verifyData =>
      simp [PrfCall.supplyAfter, PrfCall.supplies, PrfCall.run, hbefore]

theorem destroyed_after_iff (schedule : PrfSchedule) (calls : List PrfCall) {before : Bool}
    (hbefore : schedule.Destroyed ↔ before = false) :
    (PrfCall.after schedule calls).Destroyed
      ↔ PrfCall.supplied schedule before calls = false := by
  induction calls generalizing schedule before with
  | nil => exact hbefore
  | cons call calls ih => exact ih _ (schedule.destroyed_run_iff call hbefore)

end PrfSchedule

/-! ### Destruction is final -/

/-- Nothing can be had from the schedule that depends on a secret of it. -/
structure HkdfSchedule.Closed (schedule : HkdfSchedule) : Prop where
  destroyed : schedule.Destroyed
  withheld : ∀ call, call ≠ HkdfCall.destroy → Withheld (call.run schedule).1

/-- Nothing can be had from the schedule that depends on its master secret. -/
structure PrfSchedule.Closed (schedule : PrfSchedule) : Prop where
  destroyed : schedule.Destroyed
  withheld : ∀ call : PrfCall, call.reads = true →
    Withheld (call.run schedule).1 ∨ schedule.RefusesExport call

/-- After its destruction a schedule of version 1.3 is closed, whatever is called.  One of an
earlier version is closed exactly until it is supplied with a new master secret. -/
theorem closed_after_destroy (hkdf : HkdfSchedule) (prf : PrfSchedule) :
    (∀ calls, (HkdfCall.after hkdf.destroy calls).Closed)
      ∧ ∀ calls, (PrfCall.after prf.destroy calls).Closed
        ↔ PrfCall.supplied prf.destroy false calls = false := by
  refine ⟨fun calls => ?_, fun calls => ?_⟩
  · have hdestroyed := hkdf.destroyed_after calls
    exact ⟨hdestroyed, hdestroyed.withheld⟩
  · have hiff := prf.destroy.destroyed_after_iff calls
      ⟨fun _ => rfl, fun _ => prf.destroyed_destroy⟩
    rw [← hiff]
    exact ⟨PrfSchedule.Closed.destroyed, fun h => ⟨h, h.withheld⟩⟩

/-- An export suite, with a version that it is too old for. -/
def exportParams : Parameters :=
  ⟨.tls12, .client, CipherSuite.rc4 0x0003 "TLS_RSA_EXPORT_WITH_RC4_40_MD5" .md5 true⟩

def masterSecretOfZeros : PrfCall :=
  .deriveMasterSecret (Bytes.zeros 48) (Bytes.zeros 32) (Bytes.zeros 32) none

/-- The key block of an export suite is refused on account of the version. -/
theorem not_forall_withheld :
    ¬ ∀ (params : Parameters) (config : Config) (started : PrfSchedule),
      PrfSchedule.create params config = .ok started →
        ∀ (before : List PrfCall) (call : PrfCall), call.reads = true →
          Withheld (call.run (PrfCall.after started before).destroy).1 := by
  intro hall
  obtain ⟨started, hcreate⟩ : ∃ started, PrfSchedule.create exportParams {} = .ok started :=
    ⟨_, rfl⟩
  have hwithheld := hall exportParams {} started hcreate [masterSecretOfZeros] .deriveKeyBlock rfl
  cases hcreate
  obtain ⟨error, herror, hdenies⟩ | ⟨secret, hsecret, -⟩ := hwithheld
  · cases herror
    exact hdenies
  · cases hsecret

end RecordProtection
