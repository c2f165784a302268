import RecordProtection.Proofs.TrafficSecrets

/-!
# The tree of secrets

The secrets of version 1.3 form a tree.  Its trunk leads from the early over the handshake to the
master secret, each one extracted from new key material with a secret derived from the one before.
All others are expanded from the trunk, or from each other, under a label and a context.  Here the
tree is a function of what goes into it, over keyed hashing alone, and the steps of a schedule are
shown to compute its edges.
-/

namespace RecordProtection

/-- What the secrets of a connection are derived from. -/
structure SecretTree where
  version : ProtocolVersion
  suite : CipherSuite
  psk : Option Bytes
  shared : Bytes
  handshakeDigest : Bytes
  applicationDigest : Bytes
  resumptionDigest : Bytes

namespace SecretTree

/-! ### The tree -/

section Tree

variable (tree : SecretTree)

def hash : HashAlgorithm := tree.suite.prfHash

def width : Nat := tree.hash.outputLength

/-- The blocks of an expansion, counted from one.  Each depends on the one before, and nothing is
before the first. -/
def block (secret info : Bytes) : Nat → Bytes
  | 0 => []
  | index + 1 =>
      hmac tree.hash secret (block secret info index ++ info ++ [UInt8.ofNat (index + 1)])

/-- As many blocks as are needed, cut to the length that is asked for. -/
def expand (secret info : Bytes) (length : Nat) : Bytes :=
  ((List.range ((length + tree.width - 1) / tree.width)).flatMap
    fun index => tree.block secret info (index + 1)).take length

def labelPrefix : Bytes :=
  Bytes.ofText (match tree.version with
    | .dtls10 | .dtls12 | .dtls13 => "dtls13"
    | _ => "tls13 ")

/-- Length, label and context, the latter two as vectors with a length byte. -/
def labelInfo (label context : Bytes) (length : Nat) : Bytes :=
  bytes16 (.ofNat length) ++ UInt8.ofNat (tree.labelPrefix.length + label.length)
    :: tree.labelPrefix ++ label ++ UInt8.ofNat context.length :: context

def expandLabel (secret label context : Bytes) (length : Nat) : Bytes :=
  tree.expand secret (tree.labelInfo label context length) length

/-- A secret under another one, for a label and a digest. -/
def derive (secret : Bytes) (label : String) (context : Bytes) : Bytes :=
  tree.expandLabel secret (Bytes.ofText label) context tree.width

def extract (salt keyMaterial : Bytes) : Bytes := hmac tree.hash salt keyMaterial

/-- The next secret of the trunk. -/
def next (secret keyMaterial : Bytes) : Bytes :=
  tree.extract (tree.derive secret "derived" (tree.hash.digest [])) keyMaterial

def early : Bytes :=
  tree.extract (Bytes.zeros tree.width) (tree.psk.getD (Bytes.zeros tree.width))

def binderKey (resumption : Bool) : Bytes :=
  tree.derive tree.early (if resumption then "res binder" else "ext binder") (tree.hash.digest [])

def earlyTraffic (digest : Bytes) : Bytes := tree.derive tree.early "c e traffic" digest

def handshake : Bytes := tree.next tree.early tree.shared

def handshakeTraffic : Role → Bytes
  | .client => tree.derive tree.handshake "c hs traffic" tree.handshakeDigest
  | .server => tree.derive tree.handshake "s hs traffic" tree.handshakeDigest

def finished (role : Role) (digest : Bytes) : Bytes :=
  hmac tree.hash (tree.derive (tree.handshakeTraffic role) "finished" []) digest

def master : Bytes := tree.next tree.handshake (Bytes.zeros tree.width)

/-- The application traffic secret of an end after a number of updates. -/
def applicationTraffic (role : Role) : Nat → Bytes
  | 0 =>
      match role with
      | .client => tree.derive tree.master "c ap traffic" tree.applicationDigest
      | .server => tree.derive tree.master "s ap traffic" tree.applicationDigest
  | updates + 1 => tree.derive (applicationTraffic role updates) "traffic upd" []

def exporter : Bytes := tree.derive tree.master "exp master" tree.applicationDigest

def resumption : Bytes := tree.derive tree.master "res master" tree.resumptionDigest

def resumptionPsk (nonce : Bytes) : Bytes := tree.derive tree.resumption "resumption" nonce

def key (secret : Bytes) : Bytes :=
  tree.expandLabel secret (Bytes.ofText "key") [] tree.suite.keyLength

def iv (secret : Bytes) : Bytes :=
  tree.expandLabel secret (Bytes.ofText "iv") [] tree.suite.ivLength

def exported (label context : Bytes) (length : Nat) : Bytes :=
  tree.expandLabel (tree.expandLabel tree.exporter label (tree.hash.digest []) tree.width)
    (Bytes.ofText "exporter") (tree.hash.digest context) length

end Tree

/-! ### Expansion -/

theorem eq_ok_of_toOption {ε α : Type} {result : Except ε α} {value : α}
    (hresult : result.toOption = some value) : result = .ok value := by
  cases result with
  | error e => cases hresult
  | ok other =>
      cases hresult
      rfl

theorem error_of_toOption {ε α : Type} {result : Except ε α} (hresult : result.toOption = none) :
    ∃ e, result = .error e := by
  cases result with
  | error e => exact ⟨e, rfl⟩
  | ok value => cases hresult

theorem toOption_bind_pure {ε α β : Type} (result : Except ε α) (f : α → β) :
    (result >>= fun value => pure (f value)).toOption = result.toOption.map f := by
  cases result <;> rfl

section Expansion

variable (tree : SecretTree)

/-- The blocks from some index on, after the block before it. -/
theorem hkdfBlocks_eq (secret info : Bytes) (count index : Nat) :
    hkdfBlocks tree.hash secret info count (index + 1) (tree.block secret info index)
      = (List.range' index count).flatMap fun index => tree.block secret info (index + 1) := by
  induction count generalizing index with
  | zero => rfl
  | succ count ih =>
      rw [List.range'_succ, List.flatMap_cons, ← ih]
      rfl

theorem labelPrefix_eq : tree.version.labelPrefix = tree.labelPrefix := by
  unfold ProtocolVersion.labelPrefix labelPrefix
  cases tree.version <;> rfl

theorem length_labelPrefix : tree.labelPrefix.length = 6 := by
  rw [← labelPrefix_eq, HkdfSchedule.length_labelPrefix]

theorem bytes16_ofNat (value : Nat) : bytes16 (.ofNat value) = Bytes.ofNatBE 2 value := by
  have hhigh : (UInt16.ofNat value >>> 8).toUInt8 = UInt8.ofNat (value / 256) := by
    apply UInt8.toNat_inj.mp
    simp only [UInt16.toNat_toUInt8, UInt16.toNat_shiftRight, UInt16.toNat_ofNat',
      UInt8.toNat_ofNat', UInt16.reduceToNat, Nat.shiftRight_eq_div_pow, Nat.reduceMod,
      Nat.reducePow]
    omega
  have hlow : (UInt16.ofNat value).toUInt8 = UInt8.ofNat value := by
    apply UInt8.toNat_inj.mp
    simp only [UInt16.toNat_toUInt8, UInt16.toNat_ofNat', UInt8.toNat_ofNat']
    omega
  rw [bytes16, hhigh, hlow]
  rfl

theorem encodeLabel_eq (label context : Bytes) (length : Nat) :
    encodeLabel tree.labelPrefix label context length = tree.labelInfo label context length := by
  rw [encodeLabel, labelInfo, bytes16_ofNat, List.length_append]
  simp only [List.append_assoc, List.cons_append]

theorem hkdfExpand_toOption (secret info : Bytes) (length : Nat) :
    (hkdfExpand tree.hash secret info length).toOption
      = if tree.width ≤ secret.length ∧ length ≤ 255 * tree.width then
          some (tree.expand secret info length)
        else none := by
  have hwidth : tree.hash.outputLength = tree.width := rfl
  rw [hkdfExpand, hwidth]
  by_cases hsecret : tree.width ≤ secret.length
  · rw [if_neg (Nat.not_lt.mpr hsecret)]
    by_cases hlength : length ≤ 255 * tree.width
    · have hblocks := tree.hkdfBlocks_eq secret info ((length + tree.width - 1) / tree.width) 0
      rw [← List.range_eq_range'] at hblocks
      rw [if_neg (Nat.not_lt.mpr hlength), if_pos ⟨hsecret, hlength⟩]
      exact congrArg (fun blocks : Bytes => some (blocks.take length)) hblocks
    · rw [if_pos (Nat.not_le.mp hlength), if_neg fun h => hlength h.2]
      rfl
  · rw [if_pos (Nat.not_le.mp hsecret), if_neg fun h => hsecret h.1]
    rfl

/-- Expansion under a label succeeds exactly if the secret is as long as a digest and the length
fields are wide enough, and then it gives what the tree says. -/
theorem hkdfExpandLabel_toOption (secret label context : Bytes) (length : Nat) :
    (hkdfExpandLabel tree.hash tree.version.labelPrefix secret label context length).toOption
      = if tree.width ≤ secret.length ∧ label.length ≤ 249 ∧ context.length ≤ 255
            ∧ length ≤ 255 * tree.width then
          some (tree.expandLabel secret label context length)
        else none := by
  have hlabel : (tree.labelPrefix ++ label).length = 6 + label.length := by
    rw [List.length_append, length_labelPrefix]
  have hwidth : tree.width ≤ 64 := tree.hash.outputLength_le
  rw [labelPrefix_eq, hkdfExpandLabel, hlabel]
  by_cases hfits : label.length ≤ 249 ∧ context.length ≤ 255 ∧ length ≤ 65535
  · obtain ⟨hshort, hcontext, hlength⟩ := hfits
    rw [if_neg (by omega), if_neg (by omega), if_neg (by omega), encodeLabel_eq,
      hkdfExpand_toOption]
    simp only [hshort, hcontext, true_and]
    rfl
  · have hrefused : ¬ (tree.width ≤ secret.length ∧ label.length ≤ 249 ∧ context.length ≤ 255
        ∧ length ≤ 255 * tree.width) := by
      omega
    rw [if_neg hrefused]
    split
    · rfl
    · split
      · rfl
      · rw [if_pos (by omega)]
        rfl

theorem hkdfExpandLabel_eq_ok {secret label context : Bytes} {length : Nat}
    (hsecret : tree.width ≤ secret.length) (hlabel : label.length ≤ 249)
    (hcontext : context.length ≤ 255) (hlength : length ≤ 255 * tree.width) :
    hkdfExpandLabel tree.hash tree.version.labelPrefix secret label context length
      = .ok (tree.expandLabel secret label context length) := by
  have hexpand := tree.hkdfExpandLabel_toOption secret label context length
  rw [if_pos ⟨hsecret, hlabel, hcontext, hlength⟩] at hexpand
  exact eq_ok_of_toOption hexpand

end Expansion

/-! ### Derivation -/

/-- The labels of the tree. -/
def labels : List String :=
  ["res binder", "ext binder", "c e traffic", "derived", "c hs traffic", "s hs traffic", "finished",
    "c ap traffic", "s ap traffic", "traffic upd", "exp master", "res master", "resumption", "key",
    "iv", "exporter"]

theorem length_ofText_of_mem_labels {label : String} (hlabel : label ∈ labels) :
    (Bytes.ofText label).length ≤ 249 := by
  have hall : ∀ label ∈ labels, (Bytes.ofText label).length ≤ 249 := by
    decide +kernel
  exact hall label hlabel

theorem length_digest_le (hash : HashAlgorithm) (message : Bytes) :
    (hash.digest message).length ≤ 255 := by
  rw [HashAlgorithm.length_digest]
  exact Nat.le_trans hash.outputLength_le (by decide)

section Derivation

variable {tree : SecretTree}

theorem width_pos : 0 < tree.width := outputLength_pos tree.hash

theorem length_extract (salt keyMaterial : Bytes) :
    (tree.extract salt keyMaterial).length = tree.width :=
  length_hmac tree.hash salt keyMaterial

theorem length_expandLabel {secret label context : Bytes} (hsecret : tree.width ≤ secret.length)
    (hlabel : label.length ≤ 249) (hcontext : context.length ≤ 255) :
    (tree.expandLabel secret label context tree.width).length = tree.width := by
  have hshort : tree.width ≤ 255 * tree.width := Nat.le_mul_of_pos_left _ (by decide)
  exact length_of_hkdfExpandLabel (tree.hkdfExpandLabel_eq_ok hsecret hlabel hcontext hshort)

variable {schedule : HkdfSchedule} (hversion : schedule.version = tree.version)
  (hsuite : schedule.suite = tree.suite)

include hsuite in
theorem hash_eq : schedule.hash = tree.hash := by
  rw [HkdfSchedule.hash, hsuite]
  rfl

include hversion hsuite

theorem expandLabel_toOption (secret label context : Bytes) (length : Nat) :
    (schedule.expandLabel secret label context length).toOption
      = if tree.width ≤ secret.length ∧ label.length ≤ 249 ∧ context.length ≤ 255
            ∧ length ≤ 255 * tree.width then
          some (tree.expandLabel secret label context length)
        else none := by
  rw [HkdfSchedule.expandLabel, hash_eq hsuite, hversion]
  exact tree.hkdfExpandLabel_toOption secret label context length

theorem deriveFrom_toOption {secret : Bytes} (hsecret : tree.width ≤ secret.length) (name : String)
    (label context : Bytes) :
    (schedule.deriveFrom (.ofBytes name secret) label context).toOption
      = if label.length ≤ 249 ∧ context.length ≤ 255 then
          some (tree.expandLabel secret label context tree.width)
        else none := by
  have hwidth : schedule.hash.outputLength = tree.width := by
    rw [hash_eq hsuite]
    rfl
  have hshort : tree.width ≤ 255 * tree.width := Nat.le_mul_of_pos_left _ (by decide)
  have hexpand := expandLabel_toOption hversion hsuite secret label context tree.width
  simp only [hsecret, hshort, true_and, and_true] at hexpand
  rw [← hexpand, ← hwidth]
  rfl

variable {secret : Bytes} (hsecret : tree.width ≤ secret.length) {label : String}
  (hlabel : label ∈ labels) (name : String)
include hsecret hlabel

theorem deriveSecret_toOption (context : Bytes) :
    (schedule.deriveSecret (.ofBytes name secret) label context).toOption
      = if context.length ≤ 255 then some (tree.derive secret label context) else none := by
  have hderive := deriveFrom_toOption hversion hsuite hsecret name (Bytes.ofText label) context
  simp only [length_ofText_of_mem_labels hlabel, true_and] at hderive
  exact hderive

theorem deriveSecret_eq_ok {context : Bytes} (hcontext : context.length ≤ 255) :
    schedule.deriveSecret (.ofBytes name secret) label context
      = .ok (tree.derive secret label context) := by
  have hderive := deriveSecret_toOption hversion hsuite hsecret hlabel name context
  rw [if_pos hcontext] at hderive
  exact eq_ok_of_toOption hderive

omit hversion hsuite in
theorem length_derive {context : Bytes} (hcontext : context.length ≤ 255) :
    (tree.derive secret label context).length = tree.width :=
  length_expandLabel hsecret (length_ofText_of_mem_labels hlabel) hcontext

omit hlabel in
theorem nextStage_eq_ok (keyMaterial : Bytes) :
    schedule.nextStage (.ofBytes name secret) keyMaterial
      = .ok (tree.next secret keyMaterial) := by
  have hmem : "derived" ∈ labels := by simp [labels]
  have hshort := length_digest_le tree.hash []
  have hderive := deriveSecret_eq_ok hversion hsuite hsecret hmem name hshort
  have hlength := length_derive hsecret hmem hshort
  have hsalt : tree.derive secret "derived" (tree.hash.digest []) ≠ [] := by
    rw [← List.length_pos_iff_ne_nil, hlength]
    exact width_pos
  rw [HkdfSchedule.nextStage, HkdfSchedule.emptyDigest, hash_eq hsuite, HashAlgorithm.emptyDigest,
    hderive]
  simp only [bind, Except.bind, pure, Except.pure, hkdfExtract, List.isEmpty_eq_false_iff.mpr hsalt]
  rfl

end Derivation

end SecretTree

end RecordProtection
