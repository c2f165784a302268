import RecordProtection.Proofs.SecretTree
import Mathlib.Logic.Function.Basic

/-!
# Schedules that hold the tree

A schedule that has been through a handshake, and any number of updates of one end or the other, can
be asked for every secret of the tree.  What it answers is what the tree says: each application
traffic secret has been updated as often as its own end, and no other secret has changed.
-/

namespace RecordProtection

namespace SecretTree

/-! ### Answers -/

def trafficLabel : Role → TrafficStage → String
  | .client, .handshake => "client handshake traffic secret"
  | .server, .handshake => "server handshake traffic secret"
  | .client, .application => "client application traffic secret"
  | .server, .application => "server application traffic secret"

/-- The traffic secret of an end, where the application secrets have been updated. -/
def traffic (tree : SecretTree) (updates : Role → Nat) (role : Role) : TrafficStage → Bytes
  | .handshake => tree.handshakeTraffic role
  | .application => tree.applicationTraffic role (updates role)

def keys (tree : SecretTree) (secret : Bytes) : TrafficKeys where
  macKey := .ofBytes "mac key" []
  key := .ofBytes "traffic key" (tree.key secret)
  iv := .ofBytes "traffic iv" (tree.iv secret)

/-- Everything that can be asked of the schedule is what the tree says, as far as the length fields
of the derivation allow it. -/
structure HeldBy (tree : SecretTree) (updates : Role → Nat) (schedule : HkdfSchedule) : Prop where
  binderKey : ∀ resumption, schedule.binderKey resumption
    = .ok (.ofBytes "binder key" (tree.binderKey resumption))
  earlyTraffic : ∀ digest, (schedule.earlyTrafficSecret digest).toOption
    = if digest.length ≤ 255 then
        some (.ofBytes "client early traffic secret" (tree.earlyTraffic digest))
      else none
  traffic : ∀ role stage, schedule.trafficSecret role stage
    = .ok (.ofBytes (trafficLabel role stage) (tree.traffic updates role stage))
  finished : ∀ role digest, schedule.verifyData role digest = .ok (tree.finished role digest)
  master : schedule.masterSecret = .ok (.ofBytes "master secret" tree.master)
  update : ∀ role, (schedule.updateTrafficSecret role).1
    = .ok (.ofBytes (trafficLabel role .application)
        (tree.applicationTraffic role (updates role + 1)))
  exporter : schedule.exporterSecret = .ok (.ofBytes "exporter master secret" tree.exporter)
  resumptionPsk : ∀ nonce, (schedule.resumptionPsk nonce).toOption
    = if nonce.length ≤ 255 then some (.ofBytes "resumption psk" (tree.resumptionPsk nonce))
      else none
  keys : ∀ label secret, (schedule.trafficKeys (.ofBytes label secret)).toOption
    = if tree.width ≤ secret.length then some (tree.keys secret) else none
  trafficKeys : ∀ role stage,
    (schedule.trafficSecret role stage).bind schedule.trafficKeys
      = .ok (tree.keys (tree.traffic updates role stage))
  exported : ∀ label context length,
    (schedule.exportKeyingMaterial label context length).toOption
      = if label.length ≤ 249 ∧ length ≤ 255 * tree.width then
          some (tree.exported label context length)
        else none

/-- What the two ends have agreed on fits the schedules, and so do the digests. -/
structure Valid (tree : SecretTree) : Prop where
  suite : tree.suite ∈ CipherSuite.catalog
  suite13 : tree.suite.is13 = true
  version13 : tree.version.is13 = true
  handshakeDigest : tree.handshakeDigest.length ≤ 255
  applicationDigest : tree.applicationDigest.length ≤ 255
  resumptionDigest : tree.resumptionDigest.length ≤ 255

/-! ### A handshake -/

section Handshake

variable (tree : SecretTree)

/-- The traffic secrets of both ends in a stage. -/
def sides (updates : Role → Nat) (stage : TrafficStage) : SideSecrets where
  client := some (.ofBytes (trafficLabel .client stage) (tree.traffic updates .client stage))
  server := some (.ofBytes (trafficLabel .server stage) (tree.traffic updates .server stage))

/-- A new schedule. -/
def started : HkdfSchedule where
  version := tree.version
  suite := tree.suite
  early := .ofBytes "early secret" tree.early
  handshake := none
  master := none
  handshakeTraffic := .empty
  applicationTraffic := .empty
  exporter := none
  resumption := none

/-- The schedule with its trunk. -/
def extracted : HkdfSchedule :=
  { tree.started with
    handshake := some (.ofBytes "handshake secret" tree.handshake)
    master := some (.ofBytes "master secret" tree.master)
    handshakeTraffic := tree.sides (fun _ => 0) .handshake }

/-- The schedule after a handshake, with or without the secret for resumption. -/
def established (updates : Role → Nat) (resumption : Option Secret) : HkdfSchedule :=
  { tree.extracted with
    applicationTraffic := tree.sides updates .application
    exporter := some (.ofBytes "exporter master secret" tree.exporter)
    resumption := resumption }

def resumptionSecret : Secret := .ofBytes "resumption master secret" tree.resumption

theorem get_sides (updates : Role → Nat) (role : Role) (stage : TrafficStage) :
    (tree.sides updates stage).get role
      = .ok (.ofBytes (trafficLabel role stage) (tree.traffic updates role stage)) := by
  cases role <;> rfl

variable {tree}

theorem length_early : tree.early.length = tree.width := length_extract _ _

theorem length_handshake : tree.handshake.length = tree.width := length_extract _ _

theorem length_master : tree.master.length = tree.width := length_extract _ _

variable (hvalid : tree.Valid)
include hvalid

theorem length_traffic (updates : Role → Nat) (role : Role) (stage : TrafficStage) :
    (tree.traffic updates role stage).length = tree.width := by
  have happlication (count : Nat) :
      (tree.applicationTraffic role count).length = tree.width := by
    induction count with
    | zero =>
        cases role with
        | client =>
            exact length_derive length_master.ge (by simp [labels]) hvalid.applicationDigest
        | server =>
            exact length_derive length_master.ge (by simp [labels]) hvalid.applicationDigest
    | succ count ih => exact length_derive ih.ge (by simp [labels]) (Nat.zero_le _)
  cases stage with
  | handshake =>
      cases role with
      | client => exact length_derive length_handshake.ge (by simp [labels]) hvalid.handshakeDigest
      | server => exact length_derive length_handshake.ge (by simp [labels]) hvalid.handshakeDigest
  | application => exact happlication (updates role)

theorem length_exporter : tree.exporter.length = tree.width :=
  length_derive length_master.ge (by simp [labels]) hvalid.applicationDigest

theorem length_resumption : tree.resumption.length = tree.width :=
  length_derive length_master.ge (by simp [labels]) hvalid.resumptionDigest

theorem create_eq (role : Role) :
    HkdfSchedule.create ⟨tree.version, role, tree.suite⟩ tree.psk = .ok tree.started := by
  rw [HkdfSchedule.create, hvalid.version13, hvalid.suite13]
  rfl

theorem handshakeStage_eq :
    tree.started.handshakeStage tree.shared tree.handshakeDigest
      = .ok (.ofBytes "handshake secret" tree.handshake, tree.sides (fun _ => 0) .handshake) := by
  have hnext : tree.started.nextStage tree.started.early tree.shared = .ok tree.handshake :=
    nextStage_eq_ok rfl rfl length_early.ge "early secret" tree.shared
  have hderive (label : String) (hlabel : label ∈ labels) :
      tree.started.deriveSecret (.ofBytes "handshake secret" tree.handshake) label
        tree.handshakeDigest = .ok (tree.derive tree.handshake label tree.handshakeDigest) :=
    deriveSecret_eq_ok rfl rfl length_handshake.ge hlabel _ hvalid.handshakeDigest
  simp only [HkdfSchedule.handshakeStage, hnext, bind, Except.bind,
    hderive "c hs traffic" (by simp [labels]), hderive "s hs traffic" (by simp [labels])]
  rfl

omit hvalid in
theorem masterStage_eq {schedule : HkdfSchedule} (hversion : schedule.version = tree.version)
    (hsuite : schedule.suite = tree.suite)
    (hhandshake : schedule.handshake = some (.ofBytes "handshake secret" tree.handshake)) :
    schedule.masterStage = .ok (.ofBytes "master secret" tree.master) := by
  have hnext : schedule.nextStage (.ofBytes "handshake secret" tree.handshake)
      (Bytes.zeros tree.hash.outputLength) = .ok tree.master :=
    nextStage_eq_ok hversion hsuite length_handshake.ge _ _
  simp only [HkdfSchedule.masterStage, hhandshake, HkdfSchedule.require, hash_eq hsuite, hnext,
    bind, Except.bind]
  rfl

theorem deriveMasterSecret_eq :
    tree.started.deriveMasterSecret tree.shared (some tree.handshakeDigest)
      = (.ok (.ofBytes "master secret" tree.master), tree.extracted) := by
  have hmaster (schedule : HkdfSchedule) (hversion : schedule.version = tree.version)
      (hsuite : schedule.suite = tree.suite)
      (hhandshake : schedule.handshake = some (.ofBytes "handshake secret" tree.handshake)) :
      schedule.deriveMaster = (.ok (.ofBytes "master secret" tree.master),
        { schedule with master := some (.ofBytes "master secret" tree.master) }) := by
    rw [HkdfSchedule.deriveMaster, masterStage_eq hversion hsuite hhandshake]
  simp only [HkdfSchedule.deriveMasterSecret, HkdfSchedule.deriveHandshakeSecrets,
    handshakeStage_eq hvalid]
  exact hmaster _ rfl rfl rfl

theorem deriveApplicationSecrets_eq :
    tree.extracted.deriveApplicationSecrets tree.applicationDigest
      = (.ok (), tree.established (fun _ => 0) none) := by
  have hderive (label : String) (hlabel : label ∈ labels) :
      tree.extracted.deriveSecret (.ofBytes "master secret" tree.master) label
        tree.applicationDigest = .ok (tree.derive tree.master label tree.applicationDigest) :=
    deriveSecret_eq_ok rfl rfl length_master.ge hlabel _ hvalid.applicationDigest
  have hmaster : tree.extracted.masterSecret = .ok (.ofBytes "master secret" tree.master) := rfl
  simp only [HkdfSchedule.deriveApplicationSecrets, HkdfSchedule.applicationStage, hmaster, bind,
    Except.bind, hderive "c ap traffic" (by simp [labels]),
    hderive "s ap traffic" (by simp [labels]), hderive "exp master" (by simp [labels])]
  rfl

variable (updates : Role → Nat) (resumption : Option Secret)

theorem deriveResumptionSecret_eq :
    (tree.established updates resumption).deriveResumptionSecret tree.resumptionDigest
      = (.ok tree.resumptionSecret, tree.established updates (some tree.resumptionSecret)) := by
  have hderive : (tree.established updates resumption).deriveSecret
      (.ofBytes "master secret" tree.master) "res master" tree.resumptionDigest
        = .ok tree.resumption :=
    deriveSecret_eq_ok rfl rfl length_master.ge (by simp [labels]) _ hvalid.resumptionDigest
  have hmaster : (tree.established updates resumption).masterSecret
      = .ok (.ofBytes "master secret" tree.master) := rfl
  simp only [HkdfSchedule.deriveResumptionSecret, HkdfSchedule.resumptionStage, hmaster, hderive,
    bind, Except.bind]
  rfl

/-- An update moves one end to its next secret and leaves the other end alone. -/
theorem updateTrafficSecret_eq (role : Role) :
    (tree.established updates resumption).updateTrafficSecret role
      = (.ok (.ofBytes (trafficLabel role .application)
            (tree.applicationTraffic role (updates role + 1))),
          tree.established (Function.update updates role (updates role + 1)) resumption) := by
  have hderive : (tree.established updates resumption).deriveSecret
      (.ofBytes (trafficLabel role .application) (tree.applicationTraffic role (updates role)))
        "traffic upd" [] = .ok (tree.applicationTraffic role (updates role + 1)) :=
    deriveSecret_eq_ok rfl rfl (length_traffic hvalid updates role .application).ge
      (by simp [labels]) _ (Nat.zero_le _)
  have hget : (tree.established updates resumption).applicationTraffic.get role
      = .ok (.ofBytes (trafficLabel role .application)
        (tree.applicationTraffic role (updates role))) :=
    tree.get_sides updates role .application
  have hset : (tree.sides updates .application).set role
      (.ofBytes (trafficLabel role .application)
        (tree.applicationTraffic role (updates role + 1)))
      = tree.sides (Function.update updates role (updates role + 1)) .application := by
    cases role <;> rfl
  have hnext : (tree.established updates resumption).nextTrafficSecret role
      = .ok (.ofBytes (trafficLabel role .application)
        (tree.applicationTraffic role (updates role + 1))) := by
    simp only [HkdfSchedule.nextTrafficSecret, hget, hderive, bind, Except.bind]
    rfl
  rw [HkdfSchedule.updateTrafficSecret, hnext]
  exact congrArg (fun traffic => (Except.ok _,
    { tree.established updates resumption with applicationTraffic := traffic })) hset

end Handshake

/-! ### What the schedule holds -/

/-- A schedule after updates of one end or the other. -/
def updated (schedule : HkdfSchedule) (roles : List Role) : HkdfSchedule :=
  roles.foldl (fun schedule role => (schedule.updateTrafficSecret role).2) schedule

section Held

variable {tree : SecretTree} (hvalid : tree.Valid) (updates : Role → Nat)
  (resumption : Option Secret)
include hvalid

theorem updated_established (roles : List Role) :
    updated (tree.established updates resumption) roles
      = tree.established (fun role => updates role + roles.count role) resumption := by
  induction roles generalizing updates with
  | nil => rfl
  | cons role roles ih =>
      have hcounts : (fun other => Function.update updates role (updates role + 1) other
            + roles.count other)
          = fun other => updates other + (role :: roles).count other := by
        funext other
        by_cases hother : other = role
        · subst hother
          rw [Function.update_self, List.count_cons_self]
          omega
        · rw [Function.update_of_ne hother, List.count_cons_of_ne (Ne.symm hother)]
      rw [updated, List.foldl_cons, updateTrafficSecret_eq hvalid, ← hcounts]
      exact ih _

/-- Keys and IVs of the suites are short enough to be expanded. -/
theorem keyLengths_le :
    tree.suite.keyLength ≤ 255 * tree.width ∧ tree.suite.ivLength ≤ 255 * tree.width := by
  have hall : ∀ suite ∈ CipherSuite.catalog, suite.keyLength ≤ 255 * suite.prfHash.outputLength
      ∧ suite.ivLength ≤ 255 * suite.prfHash.outputLength := by
    decide
  exact hall tree.suite hvalid.suite

theorem trafficKeys_toOption (name : String) (secret : Bytes) :
    ((tree.established updates resumption).trafficKeys (.ofBytes name secret)).toOption
      = if tree.width ≤ secret.length then some (tree.keys secret) else none := by
  have hexpand (label : Bytes) (length : Nat) :
      ((tree.established updates resumption).expandLabel secret label [] length).toOption
        = if tree.width ≤ secret.length ∧ label.length ≤ 249 ∧ ([] : Bytes).length ≤ 255
              ∧ length ≤ 255 * tree.width then
            some (tree.expandLabel secret label [] length)
          else none :=
    expandLabel_toOption rfl rfl secret label [] length
  have hkey := hexpand (Bytes.ofText "key") tree.suite.keyLength
  have hiv := hexpand (Bytes.ofText "iv") tree.suite.ivLength
  by_cases hsecret : tree.width ≤ secret.length
  · obtain ⟨hkeyLength, hivLength⟩ := keyLengths_le hvalid
    rw [if_pos ⟨hsecret, length_ofText_of_mem_labels (by simp [labels]), Nat.zero_le _,
      hkeyLength⟩] at hkey
    rw [if_pos ⟨hsecret, length_ofText_of_mem_labels (by simp [labels]), Nat.zero_le _,
      hivLength⟩] at hiv
    have hsuite : (tree.established updates resumption).suite = tree.suite := rfl
    simp only [HkdfSchedule.trafficKeys, Secret.data_ofBytes, hsuite, eq_ok_of_toOption hkey,
      eq_ok_of_toOption hiv, bind, Except.bind, if_pos hsecret]
    rfl
  · rw [if_neg fun h => hsecret h.1] at hkey
    obtain ⟨e, hfailed⟩ := error_of_toOption hkey
    have hsuite : (tree.established updates resumption).suite = tree.suite := rfl
    simp only [HkdfSchedule.trafficKeys, Secret.data_ofBytes, hsuite, hfailed, bind, Except.bind,
      if_neg hsecret]
    rfl

theorem exportKeyingMaterial_toOption (label context : Bytes) (length : Nat) :
    ((tree.established updates resumption).exportKeyingMaterial label context length).toOption
      = if label.length ≤ 249 ∧ length ≤ 255 * tree.width then
          some (tree.exported label context length)
        else none := by
  have hexporter : (tree.established updates resumption).exporterSecret
      = .ok (.ofBytes "exporter master secret" tree.exporter) := rfl
  have hempty : (tree.established updates resumption).emptyDigest = tree.hash.digest [] := rfl
  have hderive : ((tree.established updates resumption).deriveFrom
      (.ofBytes "exporter master secret" tree.exporter) label (tree.hash.digest [])).toOption
        = if label.length ≤ 249 ∧ (tree.hash.digest []).length ≤ 255 then
            some (tree.expandLabel tree.exporter label (tree.hash.digest []) tree.width)
          else none :=
    deriveFrom_toOption rfl rfl (length_exporter hvalid).ge _ label _
  by_cases hlabel : label.length ≤ 249
  · have hshort := length_digest_le tree.hash []
    have hlength := length_expandLabel (length_exporter hvalid).ge hlabel hshort
    rw [if_pos ⟨hlabel, hshort⟩] at hderive
    simp only [HkdfSchedule.exportKeyingMaterial, hexporter, hempty, eq_ok_of_toOption hderive,
      bind, Except.bind]
    have hexpand : ((tree.established updates resumption).expandLabel
        (tree.expandLabel tree.exporter label (tree.hash.digest []) tree.width)
        (Bytes.ofText "exporter") (tree.hash.digest context) length).toOption = _ :=
      expandLabel_toOption rfl rfl _ _ _ _
    have hlabels : (Bytes.ofText "exporter").length ≤ 249 :=
      length_ofText_of_mem_labels (by simp [labels])
    simp only [hlength.ge, hlabels, length_digest_le, true_and] at hexpand
    simp only [hlabel, true_and]
    exact hexpand
  · rw [if_neg fun h => hlabel h.1] at hderive
    obtain ⟨e, hfailed⟩ := error_of_toOption hderive
    rw [if_neg fun h => hlabel h.1]
    simp only [HkdfSchedule.exportKeyingMaterial, hexporter, hempty, hfailed, bind, Except.bind]
    rfl

omit hvalid in
theorem binderKey_eq (external : Bool) :
    (tree.established updates resumption).binderKey external
      = .ok (.ofBytes "binder key" (tree.binderKey external)) := by
  have hlabel : (if external then "res binder" else "ext binder") ∈ labels := by
    cases external <;> simp [labels]
  have hempty : (tree.established updates resumption).emptyDigest = tree.hash.digest [] := rfl
  have hderive : (tree.established updates resumption).deriveSecret
      (.ofBytes "early secret" tree.early) (if external then "res binder" else "ext binder")
        (tree.hash.digest []) = .ok (tree.binderKey external) :=
    deriveSecret_eq_ok rfl rfl length_early.ge hlabel _ (length_digest_le tree.hash [])
  have hearly : (tree.established updates resumption).early = .ofBytes "early secret" tree.early :=
    rfl
  simp only [HkdfSchedule.binderKey, hempty, hearly, hderive, bind, Except.bind]
  rfl

omit hvalid in
theorem earlyTrafficSecret_toOption (digest : Bytes) :
    ((tree.established updates resumption).earlyTrafficSecret digest).toOption
      = if digest.length ≤ 255 then
          some (.ofBytes "client early traffic secret" (tree.earlyTraffic digest))
        else none := by
  have hderive : ((tree.established updates resumption).deriveSecret
      (.ofBytes "early secret" tree.early) "c e traffic" digest).toOption
        = if digest.length ≤ 255 then some (tree.earlyTraffic digest) else none :=
    deriveSecret_toOption rfl rfl length_early.ge (by simp [labels]) _ digest
  have hmap := toOption_bind_pure ((tree.established updates resumption).deriveSecret
    (.ofBytes "early secret" tree.early) "c e traffic" digest)
    (Secret.ofBytes "client early traffic secret")
  rw [hderive] at hmap
  refine hmap.trans ?_
  split <;> rfl

theorem resumptionPsk_toOption (nonce : Bytes) :
    ((tree.established updates (some tree.resumptionSecret)).resumptionPsk nonce).toOption
      = if nonce.length ≤ 255 then some (.ofBytes "resumption psk" (tree.resumptionPsk nonce))
        else none := by
  have hderive : ((tree.established updates (some tree.resumptionSecret)).deriveSecret
      tree.resumptionSecret "resumption" nonce).toOption
        = if nonce.length ≤ 255 then some (tree.resumptionPsk nonce) else none :=
    deriveSecret_toOption rfl rfl (length_resumption hvalid).ge (by simp [labels]) _ nonce
  have hmap := toOption_bind_pure ((tree.established updates
    (some tree.resumptionSecret)).deriveSecret tree.resumptionSecret "resumption" nonce)
    (Secret.ofBytes "resumption psk")
  rw [hderive] at hmap
  refine hmap.trans ?_
  split <;> rfl

theorem verifyData_eq (role : Role) (digest : Bytes) :
    (tree.established updates resumption).verifyData role digest
      = .ok (tree.finished role digest) := by
  have hget : (tree.established updates resumption).handshakeTraffic.get role
      = .ok (.ofBytes (trafficLabel role .handshake) (tree.handshakeTraffic role)) :=
    tree.get_sides _ role .handshake
  have hderive : (tree.established updates resumption).deriveSecret
      (.ofBytes (trafficLabel role .handshake) (tree.handshakeTraffic role)) "finished" []
        = .ok (tree.derive (tree.handshakeTraffic role) "finished" []) :=
    deriveSecret_eq_ok rfl rfl (length_traffic hvalid updates role .handshake).ge
      (by simp [labels]) _ (Nat.zero_le _)
  simp only [HkdfSchedule.verifyData, hget, hderive, bind, Except.bind]
  rfl

omit hvalid in
theorem trafficSecret_eq (role : Role) (stage : TrafficStage) :
    (tree.established updates resumption).trafficSecret role stage
      = .ok (.ofBytes (trafficLabel role stage) (tree.traffic updates role stage)) := by
  cases stage with
  | handshake => exact tree.get_sides _ role .handshake
  | application => exact tree.get_sides updates role .application

/-- The schedule after a handshake holds the tree. -/
theorem heldBy_established :
    tree.HeldBy updates (tree.established updates (some tree.resumptionSecret)) where
  binderKey external := binderKey_eq updates _ external
  earlyTraffic digest := earlyTrafficSecret_toOption updates _ digest
  traffic role stage := trafficSecret_eq updates _ role stage
  finished role digest := verifyData_eq hvalid updates _ role digest
  master := rfl
  update role := by
    rw [updateTrafficSecret_eq hvalid]
  exporter := rfl
  resumptionPsk nonce := resumptionPsk_toOption hvalid updates nonce
  keys name secret := trafficKeys_toOption hvalid updates _ name secret
  trafficKeys role stage := by
    have hkeys := trafficKeys_toOption hvalid updates (some tree.resumptionSecret)
      (trafficLabel role stage) (tree.traffic updates role stage)
    rw [if_pos (length_traffic hvalid updates role stage).ge] at hkeys
    rw [trafficSecret_eq]
    exact eq_ok_of_toOption hkeys
  exported label context length :=
    exportKeyingMaterial_toOption hvalid updates _ label context length

end Held

/-- Through a handshake and any updates, no call fails, and the schedule holds the tree. -/
theorem schedule_holds_tree {tree : SecretTree} (hvalid : tree.Valid) (role : Role)
    (before after : List Role) :
    ∃ started extracted established resumable,
      HkdfSchedule.create ⟨tree.version, role, tree.suite⟩ tree.psk = .ok started
        ∧ started.deriveMasterSecret tree.shared (some tree.handshakeDigest)
          = (.ok (.ofBytes "master secret" tree.master), extracted)
        ∧ extracted.deriveApplicationSecrets tree.applicationDigest = (.ok (), established)
        ∧ (updated established before).deriveResumptionSecret tree.resumptionDigest
          = (.ok (.ofBytes "resumption master secret" tree.resumption), resumable)
        ∧ tree.HeldBy (fun role => (before ++ after).count role) (updated resumable after) := by
  have hbefore := updated_established hvalid (fun _ => 0) none before
  simp only [Nat.zero_add] at hbefore
  have hafter := updated_established hvalid (fun role => before.count role)
    (some tree.resumptionSecret) after
  simp only [← List.count_append] at hafter
  refine ⟨tree.started, tree.extracted, tree.established (fun _ => 0) none,
    tree.established (fun role => before.count role) (some tree.resumptionSecret),
    create_eq hvalid role, deriveMasterSecret_eq hvalid, deriveApplicationSecrets_eq hvalid, ?_, ?_⟩
  · rw [hbefore]
    exact deriveResumptionSecret_eq hvalid _ none
  · rw [hafter]
    exact heldBy_established hvalid _

/-- A handshake without a pre-shared key. -/
def exampleTree : SecretTree where
  version := .tls13
  suite := CipherSuite.aead13 0x1301 "TLS_AES_128_GCM_SHA256" .aes 16 .gcm 12 16 .sha256
  psk := none
  shared :=
    [139, 212, 5, 79, 181, 91, 157, 99, 253, 251, 172, 249, 240, 75, 159, 13, 53, 230, 214, 63, 83,
    117, 99, 239, 212, 98, 114, 144, 15, 137, 73, 45]
  handshakeDigest :=
    [134, 12, 6, 237, 192, 120, 88, 238, 142, 120, 240, 231, 66, 140, 88, 237, 214, 180, 63, 44,
    163, 230, 233, 95, 2, 237, 6, 60, 240, 225, 202, 216]
  applicationDigest :=
    [150, 8, 16, 42, 15, 28, 204, 109, 182, 37, 11, 123, 126, 65, 123, 26, 0, 14, 170, 218, 61, 170,
    228, 119, 122, 118, 134, 201, 255, 131, 223, 19]
  resumptionDigest := Bytes.zeros 32

theorem early_exampleTree : exampleTree.early =
    [51, 173, 10, 28, 96, 126, 192, 59, 9, 230, 205, 152, 147, 104, 12, 226, 16, 173, 243, 0, 170,
    31, 38, 96, 225, 178, 46, 16, 241, 112, 249, 42] := by
  decide +kernel

theorem valid_exampleTree : exampleTree.Valid :=
  ⟨by decide, rfl, rfl, by decide, by decide, by decide⟩

theorem exampleTree_is_held : exampleTree.Valid
    ∧ ∃ started extracted established resumable,
      HkdfSchedule.create ⟨.tls13, .client, exampleTree.suite⟩ none = .ok started
        ∧ started.deriveMasterSecret exampleTree.shared (some exampleTree.handshakeDigest)
          = (.ok (.ofBytes "master secret" exampleTree.master), extracted)
        ∧ extracted.deriveApplicationSecrets exampleTree.applicationDigest = (.ok (), established)
        ∧ (updated established [.client]).deriveResumptionSecret (Bytes.zeros 32)
          = (.ok (.ofBytes "resumption master secret" exampleTree.resumption), resumable)
        ∧ (updated resumable [.server, .client]).trafficSecret .client .application
          = .ok (.ofBytes "client application traffic secret"
            (exampleTree.applicationTraffic .client 2)) := by
  obtain ⟨started, extracted, established, resumable, hcreate, hmaster, hsecrets, hresumption,
    hheld⟩ := schedule_holds_tree valid_exampleTree .client [.client] [.server, .client]
  exact ⟨valid_exampleTree, started, extracted, established, resumable, hcreate, hmaster, hsecrets,
    hresumption, hheld.traffic .client .application⟩

end SecretTree

end RecordProtection
