import Mathlib.Data.List.Induction
import RecordProtection.Proofs.HeldTree

/-!
# Where secrets come from

A schedule may go through its stages in any order and any number of times.  A stage replaces its own
secrets and leaves those of the stages below as they are.  So each secret comes from the last call
that has derived it, from the secret above it that was held at that time.  All secrets that are held
belong to one tree if those calls go back to one shared secret.
-/

namespace RecordProtection

/-! ### Calls -/

/-- The calls that derive the secrets of a schedule. -/
inductive Derivation where
  | masterSecret (shared : Bytes) (transcript : Option Bytes)
  | handshakeSecrets (shared digest : Bytes)
  | applicationSecrets (digest : Bytes)
  | resumptionSecret (digest : Bytes)
  | update (role : Role)

namespace Derivation

/-- The secret that a call returns if it returns one, and the schedule behind it. -/
def run (call : Derivation) (schedule : HkdfSchedule) :
    Except RecordError (Option Secret) × HkdfSchedule :=
  match call with
  | masterSecret shared transcript =>
      (schedule.deriveMasterSecret shared transcript).map (·.map some) id
  | handshakeSecrets shared digest =>
      (schedule.deriveHandshakeSecrets shared digest).map (·.map fun _ => none) id
  | applicationSecrets digest =>
      (schedule.deriveApplicationSecrets digest).map (·.map fun _ => none) id
  | resumptionSecret digest => (schedule.deriveResumptionSecret digest).map (·.map some) id
  | update role => (schedule.updateTrafficSecret role).map (·.map some) id

def after (schedule : HkdfSchedule) (calls : List Derivation) : HkdfSchedule :=
  calls.foldl (fun schedule call => (call.run schedule).2) schedule

end Derivation

/-! ### Lineages -/

/-- What the secrets of a stage go back to. -/
structure Origin where
  shared : Bytes
  digest : Bytes

/-- What the secrets of a schedule go back to, each stage on its own. -/
structure Lineage where
  handshake : Option Origin
  master : Option Bytes
  application : Option Origin
  updates : Role → Nat
  resumption : Option Origin

namespace Lineage

def empty : Lineage := ⟨none, none, none, fun _ => 0, none⟩

/-- A call that succeeds takes over the origin of the secret that it starts from. -/
def step (lineage : Lineage) : Derivation → Lineage
  | .masterSecret shared (some digest) =>
      if digest.length ≤ 255 then
        { lineage with handshake := some ⟨shared, digest⟩, master := some shared }
      else lineage
  | .masterSecret _ none => lineage
  | .handshakeSecrets shared digest =>
      if digest.length ≤ 255 then { lineage with handshake := some ⟨shared, digest⟩ } else lineage
  | .applicationSecrets digest =>
      match lineage.master with
      | some shared =>
          if digest.length ≤ 255 then
            { lineage with application := some ⟨shared, digest⟩, updates := fun _ => 0 }
          else lineage
      | none => lineage
  | .resumptionSecret digest =>
      match lineage.master with
      | some shared =>
          if digest.length ≤ 255 then { lineage with resumption := some ⟨shared, digest⟩ }
          else lineage
      | none => lineage
  | .update role =>
      match lineage.application with
      | some _ =>
          { lineage with
            updates := Function.update lineage.updates role (lineage.updates role + 1) }
      | none => lineage

def of (calls : List Derivation) : Lineage := calls.foldl step empty

section Step

variable {lineage : Lineage} {shared : Bytes} (hmaster : lineage.master = some shared)
  (digest : Bytes)
include hmaster

theorem step_applicationSecrets :
    lineage.step (.applicationSecrets digest)
      = if digest.length ≤ 255 then
          { lineage with application := some ⟨shared, digest⟩, updates := fun _ => 0 }
        else lineage := by
  rw [step, hmaster]

theorem step_resumptionSecret :
    lineage.step (.resumptionSecret digest)
      = if digest.length ≤ 255 then { lineage with resumption := some ⟨shared, digest⟩ }
        else lineage := by
  rw [step, hmaster]

end Step

end Lineage

namespace SecretTree

/-- A tree without any branches. -/
def rooted (params : Parameters) (psk : Option Bytes) : SecretTree :=
  ⟨params.version, params.suite, psk, [], [], [], []⟩

/-- The tree that grows from a shared secret and the digests of its stages. -/
def grown (root : SecretTree) (shared handshakeDigest applicationDigest resumptionDigest : Bytes) :
    SecretTree :=
  ⟨root.version, root.suite, root.psk, shared, handshakeDigest, applicationDigest,
    resumptionDigest⟩

/-- The tree that grows from an origin, whatever stage it is the origin of. -/
def grownFrom (root : SecretTree) (origin : Origin) : SecretTree :=
  root.grown origin.shared origin.digest origin.digest origin.digest

/-! ### What a secret depends on -/

section Grown

variable (root : SecretTree) (shared first second third : Bytes)

theorem block_grown (secret info : Bytes) (index : Nat) :
    (root.grown shared first second third).block secret info index
      = root.block secret info index := by
  induction index with
  | zero => rfl
  | succ index ih =>
      rw [block, ih]
      rfl

theorem derive_grown (secret : Bytes) (label : String) (context : Bytes) :
    (root.grown shared first second third).derive secret label context
      = root.derive secret label context := by
  simp only [derive, expandLabel, expand, block_grown]
  rfl

theorem handshake_grown :
    (root.grown shared first second third).handshake = root.next root.early shared := by
  rw [handshake, next, derive_grown]
  rfl

theorem master_grown :
    (root.grown shared first second third).master
      = root.next (root.next root.early shared) (Bytes.zeros root.width) := by
  rw [master, next, derive_grown, handshake_grown]
  rfl

theorem master_grownFrom (digest other : Bytes) :
    (root.grownFrom ⟨shared, digest⟩).master = (root.grownFrom ⟨shared, other⟩).master := by
  rw [grownFrom, grownFrom, master_grown, master_grown]

theorem handshakeTraffic_grown (role : Role) :
    (root.grown shared first second third).handshakeTraffic role
      = (root.grown shared first first first).handshakeTraffic role := by
  cases role <;> simp only [handshakeTraffic, derive_grown, handshake_grown] <;> rfl

theorem applicationTraffic_grown (role : Role) (updates : Nat) :
    (root.grown shared first second third).applicationTraffic role updates
      = (root.grown shared second second second).applicationTraffic role updates := by
  induction updates with
  | zero => cases role <;> simp only [applicationTraffic, derive_grown, master_grown] <;> rfl
  | succ updates ih => rw [applicationTraffic, applicationTraffic, derive_grown, derive_grown, ih]

theorem exporter_grown :
    (root.grown shared first second third).exporter
      = (root.grown shared second second second).exporter := by
  simp only [exporter, derive_grown, master_grown]
  rfl

theorem resumption_grown :
    (root.grown shared first second third).resumption
      = (root.grown shared third third third).resumption := by
  simp only [resumption, derive_grown, master_grown]
  rfl

end Grown

/-! ### Lengths -/

section Lengths

variable (tree : SecretTree)

theorem length_block (secret info : Bytes) (index : Nat) :
    (tree.block secret info (index + 1)).length = tree.width :=
  length_hmac tree.hash secret _

/-- An expansion is as long as it is asked for, whatever is expanded. -/
theorem length_expand (secret info : Bytes) (length : Nat) :
    (tree.expand secret info length).length = length := by
  have hblocks := Bytes.length_flatMap (tree.length_block secret info)
    (List.range ((length + tree.width - 1) / tree.width))
  rw [List.length_range] at hblocks
  rw [expand, List.length_take, hblocks]
  exact Nat.min_eq_left (le_blocks_mul width_pos length)

theorem length_derived (secret : Bytes) (label : String) (context : Bytes) :
    (tree.derive secret label context).length = tree.width :=
  tree.length_expand secret _ _

theorem length_applicationTraffic (role : Role) (updates : Nat) :
    (tree.applicationTraffic role updates).length = tree.width := by
  cases updates with
  | zero => cases role <;> exact tree.length_derived _ _ _
  | succ updates => exact tree.length_derived _ _ _

end Lengths

end SecretTree

/-! ### Schedules with a lineage -/

namespace Lineage

/-- The schedule that holds the secrets of a lineage, each of the tree that it goes back to. -/
def schedule (lineage : Lineage) (root : SecretTree) : HkdfSchedule where
  version := root.version
  suite := root.suite
  early := .ofBytes "early secret" root.early
  handshake := lineage.handshake.map fun origin =>
    .ofBytes "handshake secret" (root.grownFrom origin).handshake
  master := lineage.master.map fun shared =>
    .ofBytes "master secret" (root.grownFrom ⟨shared, []⟩).master
  handshakeTraffic :=
    match lineage.handshake with
    | some origin => (root.grownFrom origin).sides (fun _ => 0) .handshake
    | none => .empty
  applicationTraffic :=
    match lineage.application with
    | some origin => (root.grownFrom origin).sides lineage.updates .application
    | none => .empty
  exporter := lineage.application.map fun origin =>
    .ofBytes "exporter master secret" (root.grownFrom origin).exporter
  resumption := lineage.resumption.map fun origin => (root.grownFrom origin).resumptionSecret

section Stages

variable (lineage : Lineage) (root : SecretTree)

section Derive

variable (origin : Origin) {secret : Bytes}
  (hsecret : secret.length = (root.grownFrom origin).width) {label : String}
  (hlabel : label ∈ SecretTree.labels) (name : String) {context : Bytes}
include hsecret hlabel

theorem deriveSecret_of_short (hcontext : context.length ≤ 255) :
    (lineage.schedule root).deriveSecret (.ofBytes name secret) label context
      = .ok ((root.grownFrom origin).derive secret label context) :=
  SecretTree.deriveSecret_eq_ok rfl rfl hsecret.ge hlabel name hcontext

theorem deriveSecret_of_long (hcontext : ¬ context.length ≤ 255) :
    ∃ error, (lineage.schedule root).deriveSecret (.ofBytes name secret) label context
      = .error error := by
  have hderive : ((lineage.schedule root).deriveSecret (.ofBytes name secret) label
      context).toOption = if context.length ≤ 255 then
        some ((root.grownFrom origin).derive secret label context) else none :=
    SecretTree.deriveSecret_toOption rfl rfl hsecret.ge hlabel name context
  rw [if_neg hcontext] at hderive
  exact SecretTree.error_of_toOption hderive

end Derive

/-! ### The handshake secret -/

section Handshake

variable (origin : Origin)

theorem nextStage_early :
    (lineage.schedule root).nextStage (lineage.schedule root).early origin.shared
      = .ok (root.grownFrom origin).handshake := by
  have hearly : (root.grownFrom origin).width ≤ (root.grownFrom origin).early.length :=
    SecretTree.length_early.ge
  exact SecretTree.nextStage_eq_ok rfl rfl hearly "early secret" origin.shared

theorem deriveHandshakeSecrets_of_short (hdigest : origin.digest.length ≤ 255) :
    (lineage.schedule root).deriveHandshakeSecrets origin.shared origin.digest
      = (.ok (), { lineage with handshake := some origin }.schedule root) := by
  have hnext := nextStage_early lineage root origin
  have hderive (label : String) (hlabel : label ∈ SecretTree.labels) :=
    deriveSecret_of_short lineage root origin SecretTree.length_handshake hlabel "handshake secret"
      hdigest
  simp only [HkdfSchedule.deriveHandshakeSecrets, HkdfSchedule.handshakeStage, hnext, bind,
    Except.bind, hderive "c hs traffic" (by simp [SecretTree.labels]),
    hderive "s hs traffic" (by simp [SecretTree.labels])]
  rfl

theorem deriveHandshakeSecrets_of_long (hdigest : ¬ origin.digest.length ≤ 255) :
    ∃ error, (lineage.schedule root).deriveHandshakeSecrets origin.shared origin.digest
      = (.error error, lineage.schedule root) := by
  have hnext := nextStage_early lineage root origin
  have hlabel : "c hs traffic" ∈ SecretTree.labels := by simp [SecretTree.labels]
  obtain ⟨error, hfailed⟩ := deriveSecret_of_long lineage root origin SecretTree.length_handshake
    hlabel "handshake secret" hdigest
  refine ⟨error, ?_⟩
  simp only [HkdfSchedule.deriveHandshakeSecrets, HkdfSchedule.handshakeStage, hnext, bind,
    Except.bind, hfailed]

theorem deriveMaster_eq :
    ({ lineage with handshake := some origin }.schedule root).deriveMaster
      = (.ok (.ofBytes "master secret" (root.grownFrom origin).master),
        { lineage with handshake := some origin, master := some origin.shared }.schedule root) := by
  have hstage : ({ lineage with handshake := some origin }.schedule root).masterStage
      = .ok (.ofBytes "master secret" (root.grownFrom origin).master) :=
    SecretTree.masterStage_eq rfl rfl rfl
  rw [HkdfSchedule.deriveMaster, hstage, root.master_grownFrom origin.shared origin.digest []]
  rfl

end Handshake

/-! ### Secrets under the master secret -/

section Master

variable {lineage} {shared : Bytes} (hmaster : lineage.master = some shared) {digest : Bytes}
include hmaster

theorem masterSecret_eq (digest : Bytes) :
    (lineage.schedule root).masterSecret
      = .ok (.ofBytes "master secret" (root.grownFrom ⟨shared, digest⟩).master) := by
  rw [HkdfSchedule.masterSecret, schedule, hmaster, root.master_grownFrom shared digest []]
  rfl

theorem deriveApplicationSecrets_of_short (hdigest : digest.length ≤ 255) :
    (lineage.schedule root).deriveApplicationSecrets digest
      = (.ok (), { lineage with
          application := some ⟨shared, digest⟩
          updates := fun _ => 0 }.schedule root) := by
  have hsecret := masterSecret_eq root hmaster digest
  have hderive (label : String) (hlabel : label ∈ SecretTree.labels) :=
    deriveSecret_of_short lineage root ⟨shared, digest⟩ SecretTree.length_master hlabel
      "master secret" hdigest
  simp only [HkdfSchedule.deriveApplicationSecrets, HkdfSchedule.applicationStage, hsecret, bind,
    Except.bind, hderive "c ap traffic" (by simp [SecretTree.labels]),
    hderive "s ap traffic" (by simp [SecretTree.labels]),
    hderive "exp master" (by simp [SecretTree.labels])]
  rfl

theorem deriveApplicationSecrets_of_long (hdigest : ¬ digest.length ≤ 255) :
    ∃ error, (lineage.schedule root).deriveApplicationSecrets digest
      = (.error error, lineage.schedule root) := by
  have hsecret := masterSecret_eq root hmaster digest
  have hlabel : "c ap traffic" ∈ SecretTree.labels := by simp [SecretTree.labels]
  obtain ⟨error, hfailed⟩ := deriveSecret_of_long lineage root ⟨shared, digest⟩
    SecretTree.length_master hlabel "master secret" hdigest
  refine ⟨error, ?_⟩
  simp only [HkdfSchedule.deriveApplicationSecrets, HkdfSchedule.applicationStage, hsecret, bind,
    Except.bind, hfailed]

theorem deriveResumptionSecret_of_short (hdigest : digest.length ≤ 255) :
    (lineage.schedule root).deriveResumptionSecret digest
      = (.ok (root.grownFrom ⟨shared, digest⟩).resumptionSecret,
        { lineage with resumption := some ⟨shared, digest⟩ }.schedule root) := by
  have hsecret := masterSecret_eq root hmaster digest
  have hlabel : "res master" ∈ SecretTree.labels := by simp [SecretTree.labels]
  have hderive := deriveSecret_of_short lineage root ⟨shared, digest⟩ SecretTree.length_master
    hlabel "master secret" hdigest
  simp only [HkdfSchedule.deriveResumptionSecret, HkdfSchedule.resumptionStage, hsecret, bind,
    Except.bind, hderive]
  rfl

theorem deriveResumptionSecret_of_long (hdigest : ¬ digest.length ≤ 255) :
    ∃ error, (lineage.schedule root).deriveResumptionSecret digest
      = (.error error, lineage.schedule root) := by
  have hsecret := masterSecret_eq root hmaster digest
  have hlabel : "res master" ∈ SecretTree.labels := by simp [SecretTree.labels]
  obtain ⟨error, hfailed⟩ := deriveSecret_of_long lineage root ⟨shared, digest⟩
    SecretTree.length_master hlabel "master secret" hdigest
  refine ⟨error, ?_⟩
  simp only [HkdfSchedule.deriveResumptionSecret, HkdfSchedule.resumptionStage, hsecret, bind,
    Except.bind, hfailed]

end Master

theorem nextTrafficSecret_eq {origin : Origin} (horigin : lineage.application = some origin)
    (role : Role) :
    (lineage.schedule root).nextTrafficSecret role
      = .ok (.ofBytes (SecretTree.trafficLabel role .application)
        ((root.grownFrom origin).applicationTraffic role (lineage.updates role + 1))) := by
  have hget : (lineage.schedule root).applicationTraffic.get role
      = .ok (.ofBytes (SecretTree.trafficLabel role .application)
        ((root.grownFrom origin).applicationTraffic role (lineage.updates role))) := by
    rw [schedule, horigin]
    exact (root.grownFrom origin).get_sides lineage.updates role .application
  have hlabel : "traffic upd" ∈ SecretTree.labels := by simp [SecretTree.labels]
  have hnothing : ([] : Bytes).length ≤ 255 := Nat.zero_le _
  have hderive := deriveSecret_of_short lineage root origin
    ((root.grownFrom origin).length_applicationTraffic role (lineage.updates role)) hlabel
    (SecretTree.trafficLabel role .application) hnothing
  simp only [HkdfSchedule.nextTrafficSecret, hget, bind, Except.bind, hderive]
  rfl

end Stages

/-! ### Calls follow the lineage -/

section Run

variable (root : SecretTree)

theorem run_masterSecret (lineage : Lineage) (shared : Bytes) (transcript : Option Bytes) :
    ((lineage.schedule root).deriveMasterSecret shared transcript).2
      = (lineage.step (.masterSecret shared transcript)).schedule root := by
  cases transcript with
  | none => rfl
  | some digest =>
      by_cases hdigest : digest.length ≤ 255
      · rw [step, if_pos hdigest, HkdfSchedule.deriveMasterSecret,
          deriveHandshakeSecrets_of_short lineage root ⟨shared, digest⟩ hdigest]
        exact congrArg Prod.snd (deriveMaster_eq lineage root ⟨shared, digest⟩)
      · obtain ⟨error, hfailed⟩ :=
          deriveHandshakeSecrets_of_long lineage root ⟨shared, digest⟩ hdigest
        rw [step, if_neg hdigest, HkdfSchedule.deriveMasterSecret, hfailed]

theorem run_handshakeSecrets (lineage : Lineage) (shared digest : Bytes) :
    ((lineage.schedule root).deriveHandshakeSecrets shared digest).2
      = (lineage.step (.handshakeSecrets shared digest)).schedule root := by
  by_cases hdigest : digest.length ≤ 255
  · rw [step, if_pos hdigest,
      deriveHandshakeSecrets_of_short lineage root ⟨shared, digest⟩ hdigest]
  · obtain ⟨error, hfailed⟩ := deriveHandshakeSecrets_of_long lineage root ⟨shared, digest⟩ hdigest
    rw [step, if_neg hdigest, hfailed]

theorem run_applicationSecrets (lineage : Lineage) (digest : Bytes) :
    ((lineage.schedule root).deriveApplicationSecrets digest).2
      = (lineage.step (.applicationSecrets digest)).schedule root := by
  cases hmaster : lineage.master with
  | none =>
      obtain ⟨handshake, master, application, updates, resumption⟩ := lineage
      cases hmaster
      rfl
  | some shared =>
      rw [step_applicationSecrets hmaster]
      by_cases hdigest : digest.length ≤ 255
      · rw [if_pos hdigest, deriveApplicationSecrets_of_short root hmaster hdigest]
      · obtain ⟨error, hfailed⟩ := deriveApplicationSecrets_of_long root hmaster hdigest
        rw [if_neg hdigest, hfailed]

theorem run_resumptionSecret (lineage : Lineage) (digest : Bytes) :
    ((lineage.schedule root).deriveResumptionSecret digest).2
      = (lineage.step (.resumptionSecret digest)).schedule root := by
  cases hmaster : lineage.master with
  | none =>
      obtain ⟨handshake, master, application, updates, resumption⟩ := lineage
      cases hmaster
      rfl
  | some shared =>
      rw [step_resumptionSecret hmaster]
      by_cases hdigest : digest.length ≤ 255
      · rw [if_pos hdigest, deriveResumptionSecret_of_short root hmaster hdigest]
      · obtain ⟨error, hfailed⟩ := deriveResumptionSecret_of_long root hmaster hdigest
        rw [if_neg hdigest, hfailed]

theorem run_update (lineage : Lineage) (role : Role) :
    ((lineage.schedule root).updateTrafficSecret role).2
      = (lineage.step (.update role)).schedule root := by
  obtain ⟨handshake, master, application, updates, resumption⟩ := lineage
  cases application with
  | none => cases role <;> rfl
  | some origin =>
      have hnext := nextTrafficSecret_eq
        ⟨handshake, master, some origin, updates, resumption⟩ root rfl role
      rw [HkdfSchedule.updateTrafficSecret, hnext]
      cases role <;> rfl

/-- A call takes the schedule of a lineage to the schedule of the next lineage. -/
theorem run_schedule (lineage : Lineage) (call : Derivation) :
    (call.run (lineage.schedule root)).2 = (lineage.step call).schedule root := by
  cases call with
  | masterSecret shared transcript => exact run_masterSecret root lineage shared transcript
  | handshakeSecrets shared digest => exact run_handshakeSecrets root lineage shared digest
  | applicationSecrets digest => exact run_applicationSecrets root lineage digest
  | resumptionSecret digest => exact run_resumptionSecret root lineage digest
  | update role => exact run_update root lineage role

theorem after_schedule (lineage : Lineage) (calls : List Derivation) :
    Derivation.after (lineage.schedule root) calls = (calls.foldl step lineage).schedule root := by
  induction calls generalizing lineage with
  | nil => rfl
  | cons call calls ih =>
      rw [List.foldl_cons, ← ih, ← run_schedule]
      rfl

theorem create_eq {params : Parameters} {psk : Option Bytes} {started : HkdfSchedule}
    (hcreate : HkdfSchedule.create params psk = .ok started) :
    started = empty.schedule (.rooted params psk) := by
  unfold HkdfSchedule.create at hcreate
  split at hcreate
  · cases hcreate
  · cases hcreate
    rfl

end Run

end Lineage

/-! ### One tree -/

/-- The secrets that a schedule holds are those of a tree, with application traffic secrets after
any number of updates. -/
structure SecretTree.Grows (tree : SecretTree) (schedule : HkdfSchedule) : Prop where
  version : schedule.version = tree.version
  suite : schedule.suite = tree.suite
  early : schedule.early = .ofBytes "early secret" tree.early
  handshake : ∀ secret ∈ schedule.handshake, secret = .ofBytes "handshake secret" tree.handshake
  handshakeTraffic : ∀ role secret, schedule.handshakeTraffic.get role = .ok secret →
    secret = .ofBytes (SecretTree.trafficLabel role .handshake) (tree.handshakeTraffic role)
  master : ∀ secret ∈ schedule.master, secret = .ofBytes "master secret" tree.master
  applicationTraffic : ∀ role secret, schedule.applicationTraffic.get role = .ok secret →
    ∃ updates, secret = .ofBytes (SecretTree.trafficLabel role .application)
      (tree.applicationTraffic role updates)
  exporter : ∀ secret ∈ schedule.exporter,
    secret = .ofBytes "exporter master secret" tree.exporter
  resumption : ∀ secret ∈ schedule.resumption, secret = tree.resumptionSecret

namespace Lineage

/-- All stages go back to one shared secret. -/
structure Shares (lineage : Lineage) (shared : Bytes) : Prop where
  handshake : ∀ origin ∈ lineage.handshake, origin.shared = shared
  master : ∀ other ∈ lineage.master, other = shared
  application : ∀ origin ∈ lineage.application, origin.shared = shared
  resumption : ∀ origin ∈ lineage.resumption, origin.shared = shared

/-- The digest of a stage, if there is one. -/
def digestOf (stage : Option Origin) : Bytes := (stage.map Origin.digest).getD []

theorem digestOf_eq {stage : Option Origin} {origin : Origin} (horigin : stage = some origin) :
    digestOf stage = origin.digest := by
  rw [horigin]
  rfl

/-- The tree that a lineage over one shared secret belongs to. -/
def tree (lineage : Lineage) (root : SecretTree) (shared : Bytes) : SecretTree :=
  root.grown shared (digestOf lineage.handshake) (digestOf lineage.application)
    (digestOf lineage.resumption)

section Shares

variable {lineage : Lineage} {shared : Bytes} (h : lineage.Shares shared) (root : SecretTree)
  {origin : Origin}
include h

theorem handshakeTraffic_tree (horigin : lineage.handshake = some origin) (role : Role) :
    (root.grownFrom origin).handshakeTraffic role
      = (lineage.tree root shared).handshakeTraffic role := by
  obtain rfl := h.handshake origin horigin
  rw [tree, SecretTree.handshakeTraffic_grown, digestOf_eq horigin]
  rfl

theorem applicationTraffic_tree (horigin : lineage.application = some origin) (role : Role)
    (updates : Nat) :
    (root.grownFrom origin).applicationTraffic role updates
      = (lineage.tree root shared).applicationTraffic role updates := by
  obtain rfl := h.application origin horigin
  rw [tree, SecretTree.applicationTraffic_grown, digestOf_eq horigin]
  rfl

theorem grows_of_shares : (lineage.tree root shared).Grows (lineage.schedule root) where
  version := rfl
  suite := rfl
  early := rfl
  handshake secret hsecret := by
    obtain ⟨origin, horigin, rfl⟩ := Option.map_eq_some_iff.mp hsecret
    rw [tree, SecretTree.grownFrom, SecretTree.handshake_grown, SecretTree.handshake_grown,
      h.handshake origin horigin]
  handshakeTraffic role secret hget := by
    cases horigin : lineage.handshake with
    | none =>
        simp only [schedule, horigin] at hget
        cases role <;> cases hget
    | some origin =>
        simp only [schedule, horigin, SecretTree.get_sides] at hget
        cases hget
        rw [SecretTree.traffic, handshakeTraffic_tree h root horigin]
  master secret hsecret := by
    obtain ⟨other, hother, rfl⟩ := Option.map_eq_some_iff.mp hsecret
    rw [tree, SecretTree.grownFrom, SecretTree.master_grown, SecretTree.master_grown,
      h.master other hother]
  applicationTraffic role secret hget := by
    cases horigin : lineage.application with
    | none =>
        simp only [schedule, horigin] at hget
        cases role <;> cases hget
    | some origin =>
        simp only [schedule, horigin, SecretTree.get_sides] at hget
        cases hget
        refine ⟨lineage.updates role, ?_⟩
        rw [SecretTree.traffic, applicationTraffic_tree h root horigin]
  exporter secret hsecret := by
    obtain ⟨origin, horigin, rfl⟩ := Option.map_eq_some_iff.mp hsecret
    obtain rfl := h.application origin horigin
    rw [tree, SecretTree.exporter_grown, digestOf_eq horigin]
    rfl
  resumption secret hsecret := by
    obtain ⟨origin, horigin, rfl⟩ := Option.map_eq_some_iff.mp hsecret
    obtain rfl := h.resumption origin horigin
    rw [tree, SecretTree.resumptionSecret, SecretTree.resumptionSecret,
      SecretTree.resumption_grown _ _ _ _ (digestOf lineage.resumption), digestOf_eq horigin]
    rfl

end Shares

end Lineage

/-- Whatever is derived from a new schedule, it holds the secrets of the lineage of the calls.  They
are of one tree if all stages of the lineage go back to one shared secret. -/
theorem Derivation.secrets_follow_lineage {params : Parameters} {psk : Option Bytes}
    {started : HkdfSchedule} (hcreate : HkdfSchedule.create params psk = .ok started)
    (calls : List Derivation) :
    after started calls = (Lineage.of calls).schedule (.rooted params psk)
      ∧ ((∃ shared, (Lineage.of calls).Shares shared) →
        ∃ tree : SecretTree, tree.Grows (after started calls)) := by
  have hafter : after started calls = (Lineage.of calls).schedule (.rooted params psk) := by
    rw [Lineage.create_eq hcreate, Lineage.after_schedule]
    rfl
  refine ⟨hafter, ?_⟩
  rintro ⟨shared, hshared⟩
  rw [hafter]
  exact ⟨_, Lineage.grows_of_shares hshared _⟩

/-- A second handshake digest and an update leave a schedule in its tree. -/
def oneSharedSecret : List Derivation :=
  [.masterSecret (Bytes.zeros 32) (some (Bytes.zeros 32)), .applicationSecrets (Bytes.zeros 32),
    .update .client, .handshakeSecrets (Bytes.zeros 32) (List.replicate 32 1),
    .resumptionSecret (Bytes.zeros 32)]

theorem oneSharedSecret_grows :
    ∃ started, HkdfSchedule.create ⟨.tls13, .client, SecretTree.exampleTree.suite⟩ none
        = .ok started
      ∧ ∃ tree : SecretTree, tree.Grows (Derivation.after started oneSharedSecret) := by
  obtain ⟨started, hcreate⟩ : ∃ started, HkdfSchedule.create
      ⟨.tls13, .client, SecretTree.exampleTree.suite⟩ none = .ok started := ⟨_, rfl⟩
  have hshares : (Lineage.of oneSharedSecret).Shares (Bytes.zeros 32) := by
    constructor <;> intro origin horigin <;> cases horigin <;> rfl
  obtain ⟨-, hgrows⟩ := Derivation.secrets_follow_lineage hcreate oneSharedSecret
  exact ⟨started, hcreate, hgrows ⟨_, hshares⟩⟩

theorem SecretTree.Grows.masterStage {tree : SecretTree} {schedule : HkdfSchedule}
    (h : tree.Grows schedule) {handshake master : Secret}
    (hhandshake : schedule.handshake = some handshake) (hmaster : schedule.master = some master) :
    schedule.masterStage = .ok master := by
  rw [h.handshake handshake hhandshake] at hhandshake
  rw [h.master master hmaster]
  exact SecretTree.masterStage_eq h.version h.suite hhandshake

/-- The master secret of one shared secret, and then the handshake secret of another one. -/
def twoSharedSecrets : List Derivation :=
  [.masterSecret (Bytes.zeros 32) (some (Bytes.zeros 32)),
    .handshakeSecrets (List.replicate 32 1) (Bytes.zeros 32)]

/-- A tree without branches, and without a pre-shared key. -/
def bareRoot : SecretTree := .rooted ⟨.tls13, .client, SecretTree.exampleTree.suite⟩ none

theorem emptyDigest_bareRoot :
    bareRoot.hash.digest []
      = [227, 176, 196, 66, 152, 252, 28, 20, 154, 251, 244, 200, 153, 111, 185, 36, 39, 174, 65,
        228, 100, 155, 147, 76, 164, 149, 153, 27, 120, 82, 184, 85] := by
  decide +kernel

theorem derived_bareRoot :
    bareRoot.derive bareRoot.early "derived" (bareRoot.hash.digest [])
      = [111, 38, 21, 161, 8, 199, 2, 197, 103, 143, 84, 252, 157, 186, 182, 151, 22, 192, 118, 24,
        156, 72, 37, 12, 235, 234, 195, 87, 108, 54, 17, 186] := by
  have hearly : bareRoot.early = SecretTree.exampleTree.early := rfl
  rw [hearly, SecretTree.early_exampleTree, emptyDigest_bareRoot]
  decide +kernel

theorem master_bareRoot_ne :
    (bareRoot.grownFrom ⟨Bytes.zeros 32, []⟩).master
      ≠ (bareRoot.grownFrom ⟨List.replicate 32 1, Bytes.zeros 32⟩).master := by
  have hnext (keyMaterial : Bytes) : bareRoot.next bareRoot.early keyMaterial
      = bareRoot.extract [111, 38, 21, 161, 8, 199, 2, 197, 103, 143, 84, 252, 157, 186, 182, 151,
        22, 192, 118, 24, 156, 72, 37, 12, 235, 234, 195, 87, 108, 54, 17, 186] keyMaterial := by
    rw [SecretTree.next, derived_bareRoot]
  rw [SecretTree.grownFrom, SecretTree.grownFrom, SecretTree.master_grown, SecretTree.master_grown,
    hnext, hnext, SecretTree.next, SecretTree.next, emptyDigest_bareRoot]
  decide +kernel

/-- The second shared secret replaces the handshake secret that the master secret comes from. -/
theorem not_forall_grows :
    ¬ ∀ (params : Parameters) (psk : Option Bytes) (started : HkdfSchedule),
      HkdfSchedule.create params psk = .ok started →
        ∀ calls, ∃ tree : SecretTree, tree.Grows (Derivation.after started calls) := by
  intro hall
  obtain ⟨started, hcreate⟩ : ∃ started, HkdfSchedule.create
      ⟨.tls13, .client, SecretTree.exampleTree.suite⟩ none = .ok started := ⟨_, rfl⟩
  obtain ⟨tree, hgrows⟩ := hall _ none started hcreate twoSharedSecrets
  let held : Lineage :=
    ⟨some ⟨List.replicate 32 1, Bytes.zeros 32⟩, some (Bytes.zeros 32), none, fun _ => 0, none⟩
  rw [Lineage.create_eq hcreate, Lineage.after_schedule] at hgrows
  change tree.Grows (held.schedule bareRoot) at hgrows
  have hderived : (held.schedule bareRoot).masterStage
      = .ok (.ofBytes "master secret"
        (bareRoot.grownFrom ⟨List.replicate 32 1, Bytes.zeros 32⟩).master) :=
    SecretTree.masterStage_eq rfl rfl rfl
  have hsame := hderived.symm.trans (hgrows.masterStage rfl rfl)
  have hstored := (Secret.mk.inj (Except.ok.inj hsame)).2
  exact master_bareRoot_ne (Option.some.inj hstored).symm

end RecordProtection
