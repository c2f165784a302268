import RecordProtection.Proofs.BigEndian
import RecordProtection.Proofs.TrafficSecrets

/-!
# Labels are kept apart

What an output of the 1.3 key derivation is expanded for is written as one string: its length in two
bytes, then the full label and the context, each behind a byte that says how long it is.  Whatever
these fields can hold is read back from the string, and what they cannot hold is refused.  So
outputs for different purposes are never expanded from the same string.
-/

namespace RecordProtection

/-! ### Vectors -/

/-- A string of at most 255 bytes behind its length. -/
def vector (content : Bytes) : Bytes := UInt8.ofNat content.length :: content

/-- The vector in front of a string, and the rest. -/
def takeVector? : Bytes → Option (Bytes × Bytes)
  | [] => none
  | count :: rest =>
      if count.toNat ≤ rest.length then some (rest.take count.toNat, rest.drop count.toNat)
      else none

theorem takeVector?_vector_append {content : Bytes} (hcontent : content.length ≤ 255)
    (rest : Bytes) : takeVector? (vector content ++ rest) = some (content, rest) := by
  have hcount : (UInt8.ofNat content.length).toNat = content.length :=
    UInt8.toNat_ofNat_of_lt' (Nat.lt_succ_of_le hcontent)
  have hlong : content.length ≤ (content ++ rest).length := by
    rw [List.length_append]
    exact Nat.le_add_right _ _
  rw [vector, List.cons_append, takeVector?, hcount, if_pos hlong, List.take_left, List.drop_left]

theorem takeVector?_eq_some_iff {bytes content rest : Bytes} :
    takeVector? bytes = some (content, rest)
      ↔ content.length ≤ 255 ∧ bytes = vector content ++ rest := by
  constructor
  · intro h
    cases bytes with
    | nil => cases h
    | cons count bytes =>
        have hbyte := count.toNat_lt
        rw [takeVector?] at h
        split at h
        · rename_i hlong
          obtain ⟨rfl, rfl⟩ := Prod.mk.inj (Option.some.inj h)
          have hcontent : (bytes.take count.toNat).length = count.toNat :=
            List.length_take_of_le hlong
          refine ⟨by omega, ?_⟩
          rw [vector, hcontent, UInt8.ofNat_toNat, List.cons_append, List.take_append_drop]
        · cases h
  · rintro ⟨hcontent, rfl⟩
    exact takeVector?_vector_append hcontent rest

/-! ### Labels -/

/-- What an output is expanded for. -/
structure LabelInfo where
  labelPrefix : Bytes
  label : Bytes
  context : Bytes
  length : Nat

namespace LabelInfo

def fullLabel (info : LabelInfo) : Bytes := info.labelPrefix ++ info.label

def Prefixed (info : LabelInfo) : Prop :=
  ∃ version : ProtocolVersion, version.labelPrefix = info.labelPrefix

/-- What the fields of the encoding can hold. -/
structure Fits (info : LabelInfo) : Prop where
  length_fullLabel_le : info.fullLabel.length ≤ 255
  length_context_le : info.context.length ≤ 255
  length_le : info.length ≤ 65535

def encode (info : LabelInfo) : Bytes :=
  encodeLabel info.labelPrefix info.label info.context info.length

/-- The prefix is six bytes long in all versions, so the full label is cut after them. -/
def decode? (bytes : Bytes) : Option LabelInfo := do
  let (fullLabel, rest) ← takeVector? (bytes.drop 2)
  let (context, rest) ← takeVector? rest
  if rest = [] ∧ ∃ version ∈ ProtocolVersion.all, version.labelPrefix = fullLabel.take 6 then
    some ⟨fullLabel.take 6, fullLabel.drop 6, context, Bytes.toNatBE (bytes.take 2)⟩
  else none

theorem encode_eq (info : LabelInfo) :
    info.encode
      = Bytes.ofNatBE 2 info.length ++ (vector info.fullLabel ++ vector info.context) := by
  rw [encode, encodeLabel, vector, vector, fullLabel, List.append_assoc]

theorem exists_mem_all_iff {front : Bytes} :
    (∃ version ∈ ProtocolVersion.all, version.labelPrefix = front)
      ↔ ∃ version : ProtocolVersion, version.labelPrefix = front := by
  constructor
  · rintro ⟨version, -, hversion⟩
    exact ⟨version, hversion⟩
  · rintro ⟨version, hversion⟩
    exact ⟨version, by cases version <;> decide, hversion⟩

theorem decode?_encode {info : LabelInfo} (hprefixed : info.Prefixed) (hfits : info.Fits) :
    decode? info.encode = some info := by
  have hsix : info.labelPrefix.length = 6 := by
    obtain ⟨version, hversion⟩ := hprefixed
    rw [← hversion, HkdfSchedule.length_labelPrefix]
  have hfront : info.encode.take 2 = Bytes.ofNatBE 2 info.length := by
    rw [encode_eq, List.take_left' (Bytes.length_ofNatBE 2 _)]
  have hback : info.encode.drop 2 = vector info.fullLabel ++ vector info.context := by
    rw [encode_eq, List.drop_left' (Bytes.length_ofNatBE 2 _)]
  have hcontext := takeVector?_vector_append hfits.length_context_le []
  have hlength : info.length % 256 ^ 2 = info.length :=
    Nat.mod_eq_of_lt (Nat.lt_succ_of_le hfits.length_le)
  have hversion : ∃ version ∈ ProtocolVersion.all, version.labelPrefix = info.fullLabel.take 6 := by
    rw [exists_mem_all_iff, fullLabel, List.take_left' hsix]
    exact hprefixed
  rw [List.append_nil] at hcontext
  simp only [decode?, hfront, hback, takeVector?_vector_append hfits.length_fullLabel_le, hcontext,
    Option.bind_eq_bind, Option.bind_some, true_and, if_pos hversion, Bytes.toNatBE_ofNatBE,
    hlength]
  rw [fullLabel, List.take_left' hsix, List.drop_left' hsix]

/-- Only encodings are decoded. -/
theorem encode_of_decode? {bytes : Bytes} {info : LabelInfo} (h : decode? bytes = some info) :
    info.Prefixed ∧ info.Fits ∧ info.encode = bytes := by
  simp only [decode?, Option.bind_eq_bind, Option.bind_eq_some_iff] at h
  obtain ⟨⟨fullLabel, rest⟩, hfull, ⟨context, last⟩, hcontext, h⟩ := h
  obtain ⟨hfullLabel, hback⟩ := takeVector?_eq_some_iff.mp hfull
  obtain ⟨hcontextLength, hrest⟩ := takeVector?_eq_some_iff.mp hcontext
  dsimp only at h
  split at h
  · rename_i hwhole
    obtain ⟨hlast, hversion⟩ := hwhole
    obtain rfl := Option.some.inj h
    have hfront : (bytes.take 2).length = 2 := by
      have hlong := congrArg List.length hback
      rw [List.length_drop, vector, List.cons_append, List.length_cons] at hlong
      rw [List.length_take]
      omega
    have hnumber := Bytes.toNatBE_lt (bytes.take 2)
    rw [hfront] at hnumber
    have hdigits : Bytes.ofNatBE 2 (Bytes.toNatBE (bytes.take 2)) = bytes.take 2 := by
      refine Bytes.toNatBE_injective ?_ ?_
      · rw [Bytes.length_ofNatBE, hfront]
      · rw [Bytes.toNatBE_ofNatBE, Nat.mod_eq_of_lt hnumber]
    refine ⟨exists_mem_all_iff.mp hversion, ⟨?_, hcontextLength, Nat.le_of_lt_succ hnumber⟩, ?_⟩
    · rwa [LabelInfo.fullLabel, List.take_append_drop]
    · rw [hlast, List.append_nil] at hrest
      rw [encode_eq, LabelInfo.fullLabel, List.take_append_drop, hdigits, ← hrest, ← hback,
        List.take_append_drop]
  · cases h

theorem decode?_eq_some_iff {bytes : Bytes} {info : LabelInfo} :
    decode? bytes = some info ↔ info.Prefixed ∧ info.Fits ∧ info.encode = bytes := by
  constructor
  · exact encode_of_decode?
  · rintro ⟨hprefixed, hfits, rfl⟩
    exact decode?_encode hprefixed hfits

theorem encode_eq_encode_iff {info other : LabelInfo} (hinfo : info.Prefixed ∧ info.Fits)
    (hother : other.Prefixed ∧ other.Fits) : info.encode = other.encode ↔ info = other := by
  constructor
  · intro h
    have hdecoded := congrArg decode? h
    rw [decode?_encode hinfo.1 hinfo.2, decode?_encode hother.1 hother.2] at hdecoded
    exact Option.some.inj hdecoded
  · rintro rfl
    rfl

/-! ### Expansion -/

section Expand

variable (algorithm : HashAlgorithm) (secret : Bytes) {info : LabelInfo}

def expand (info : LabelInfo) : Except RecordError Bytes :=
  hkdfExpandLabel algorithm info.labelPrefix secret info.label info.context info.length

theorem expand_of_fits (hfits : info.Fits) :
    info.expand algorithm secret = hkdfExpand algorithm secret info.encode info.length := by
  obtain ⟨hlabel, hcontext, hlength⟩ := hfits
  rw [fullLabel] at hlabel
  rw [expand, hkdfExpandLabel, if_neg (Nat.not_lt.mpr hlabel), if_neg (Nat.not_lt.mpr hcontext),
    if_neg (Nat.not_lt.mpr hlength)]
  rfl

theorem expand_of_not_fits (hfits : ¬ info.Fits) :
    ∃ text, info.expand algorithm secret = .error (.unsupportedOperation text) := by
  rw [expand, hkdfExpandLabel]
  split
  · exact ⟨_, rfl⟩
  · rename_i hlabel
    split
    · exact ⟨_, rfl⟩
    · rename_i hcontext
      split
      · exact ⟨_, rfl⟩
      · rename_i hlength
        exact absurd ⟨Nat.not_lt.mp hlabel, Nat.not_lt.mp hcontext, Nat.not_lt.mp hlength⟩ hfits

end Expand

/-- What fits the fields is expanded from its encoding and all else is refused.  Under the prefixes
of the versions the encodings of different labels are different, and a string is decoded exactly to
the label that it encodes. -/
theorem labels_are_kept_apart (algorithm : HashAlgorithm) (secret : Bytes) :
    (∀ info : LabelInfo, info.Fits →
        info.expand algorithm secret = hkdfExpand algorithm secret info.encode info.length)
      ∧ (∀ info : LabelInfo, ¬ info.Fits →
        ∃ text, info.expand algorithm secret = .error (.unsupportedOperation text))
      ∧ (∀ info other : LabelInfo, info.Prefixed ∧ info.Fits → other.Prefixed ∧ other.Fits →
        (info.encode = other.encode ↔ info = other))
      ∧ ∀ (bytes : Bytes) (info : LabelInfo),
        decode? bytes = some info ↔ info.Prefixed ∧ info.Fits ∧ info.encode = bytes := by
  refine ⟨?_, ?_, ?_, ?_⟩
  · intro info hfits
    exact expand_of_fits algorithm secret hfits
  · intro info hfits
    exact expand_of_not_fits algorithm secret hfits
  · intro info other hinfo hother
    exact encode_eq_encode_iff hinfo hother
  · intro bytes info
    exact decode?_eq_some_iff

/-- A label and a context of three letters together. -/
def splitLetters (count : Nat) : LabelInfo where
  labelPrefix := ProtocolVersion.tls13.labelPrefix
  label := (Bytes.ofText "abc").take count
  context := (Bytes.ofText "abc").drop count
  length := 16

/-- Where the label ends is a part of the encoding, and so is how long the output is. -/
theorem splitLetters_are_kept_apart :
    (splitLetters 1).encode ≠ (splitLetters 2).encode
      ∧ decode? (splitLetters 2).encode = some (splitLetters 2)
      ∧ (splitLetters 2).expand .sha256 (Bytes.zeros 32)
        = hkdfExpand .sha256 (Bytes.zeros 32) (splitLetters 2).encode 16
      ∧ ∃ text, LabelInfo.expand .sha256 (Bytes.zeros 32) { splitLetters 2 with length := 65536 }
        = .error (.unsupportedOperation text) := by
  obtain ⟨hexpand, hrefuse, happart, hdecode⟩ := labels_are_kept_apart .sha256 (Bytes.zeros 32)
  have hone : (splitLetters 1).Prefixed ∧ (splitLetters 1).Fits :=
    ⟨⟨.tls13, rfl⟩, by decide +kernel, by decide +kernel, by decide⟩
  have htwo : (splitLetters 2).Prefixed ∧ (splitLetters 2).Fits :=
    ⟨⟨.tls13, rfl⟩, by decide +kernel, by decide +kernel, by decide⟩
  refine ⟨fun hsame => ?_, (hdecode _ _).mpr ⟨htwo.1, htwo.2, rfl⟩, hexpand _ htwo.2,
    hrefuse _ fun hfits => absurd hfits.length_le (by decide)⟩
  have hlabel := congrArg LabelInfo.label ((happart _ _ hone htwo).mp hsame)
  exact absurd hlabel (by decide +kernel)

end LabelInfo

end RecordProtection
