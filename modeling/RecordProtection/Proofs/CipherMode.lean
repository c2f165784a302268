import RecordProtection.CipherMode
import RecordProtection.Proofs.Engine
import RecordProtection.Proofs.Mode.Aead
import RecordProtection.Proofs.Mode.Cbc
import RecordProtection.Proofs.Mode.Counter

/-!
# Lawful record protection

Every mode that can be created holds a lawful transform, and keeps it through all its operations.
A lawful transform reads back what it protected and moves on to the same state on both ends, up to
the one combination in which the two ends compute different headers.
-/

namespace RecordProtection

theorem bind_eq_ok_iff {α β : Type} {first : Except RecordError α}
    {next : α → Except RecordError β} {result : β} :
    first >>= next = .ok result ↔ ∃ value, first = .ok value ∧ next value = .ok result := by
  cases first with
  | error e => simp [bind, Except.bind]
  | ok value => simp [bind, Except.bind]

theorem map_eq_ok_iff {α β : Type} {first : Except RecordError α} {f : α → β} {result : β} :
    first.map f = .ok result ↔ ∃ value, first = .ok value ∧ f value = result := by
  cases first with
  | error e => simp [Except.map]
  | ok value => simp [Except.map]

/-- The modes that may send a part of their nonces under a header that a tag covers. -/
def ModeKind.sendsTaggedNonce : ModeKind → Bool
  | gcm | ccm | ccm8 => true
  | _ => false

def ModeKind.taggedAead : ModeKind → BlockCipher → Aead
  | gcm => RecordProtection.gcm
  | ccm => RecordProtection.ccm 16
  | _ => RecordProtection.ccm 8

theorem ModeKind.taggedAead_lawful (kind : ModeKind) {cipher : BlockCipher}
    (hcipher : cipher.Lawful) (hblock : cipher.blockLength = 16) :
    (kind.taggedAead cipher).Lawful 12 := by
  unfold taggedAead
  split
  · exact gcm_lawful hcipher hblock
  · exact ccm_lawful hcipher hblock (by decide)
  · exact ccm_lawful hcipher hblock (by decide)

namespace Transform

def Lawful : Transform → Prop
  | cbc mode => mode.Lawful
  | counter mode => mode.Lawful
  | aead mode => mode.Lawful
  | plain | stream _ | unavailable => True

/-- Both ends compute the same tag, if there is one. -/
def TagsAgree (transform : Transform) (auth : Authenticator) (type : ContentType)
    (plaintext : Bytes) : Prop :=
  match transform with
  | aead mode => mode.TagsAgree auth type plaintext
  | _ => True

theorem Lawful.encrypt {transform : Transform} (htransform : transform.Lawful)
    (auth : Authenticator) (type : ContentType) (plaintext : Bytes) (random : RandomSource) :
    (transform.encrypt auth type plaintext random).2.1.Lawful := by
  cases transform with
  | cbc mode => exact Cbc.Lawful.encrypt htransform auth type plaintext random
  | _ => exact htransform

theorem Lawful.decrypt {transform : Transform} (htransform : transform.Lawful)
    (auth : Authenticator) (type : ContentType) (record : Bytes) :
    (transform.decrypt auth type record).2.Lawful := by
  cases transform with
  | cbc mode => exact Cbc.Lawful.decrypt htransform auth type record
  | _ => exact htransform

theorem Lawful.reset {transform : Transform} (htransform : transform.Lawful) :
    transform.reset.Lawful := by
  cases transform with
  | cbc mode => exact Cbc.Lawful.reset htransform
  | _ => exact htransform

theorem withoutMac_append (auth : Authenticator) (type : ContentType) (content : Bytes) :
    withoutMac auth type (content ++ auth.computeMac type content) = .ok content := by
  simp only [withoutMac, auth.checkTrailingMac_append, bind, Except.bind, List.take_left, pure,
    Except.pure]

/-- The receiver of a protected record moves on to the state of its sender, and reads the record
back exactly if the tags agree. -/
theorem decrypt_encrypt {transform : Transform} (htransform : transform.Lawful)
    {auth : Authenticator} {type : ContentType} {plaintext record : Bytes} {random : RandomSource}
    (hrecord : (transform.encrypt auth type plaintext random).1 = .ok record) :
    (transform.decrypt auth type record).2 = (transform.encrypt auth type plaintext random).2.1
      ∧ ((transform.decrypt auth type record).1 = .ok plaintext
        ↔ transform.TagsAgree auth type plaintext) := by
  cases transform with
  | plain =>
      cases hrecord
      exact ⟨rfl, by simp [Transform.decrypt, TagsAgree, withoutMac_append]⟩
  | stream cipher =>
      have hback := cipher.apply_apply (plaintext ++ auth.computeMac type plaintext)
      obtain rfl : (cipher.apply (plaintext ++ auth.computeMac type plaintext)).1 = record :=
        Except.ok.inj hrecord
      simp only [Transform.decrypt, hback, withoutMac_append, TagsAgree, and_true]
      rfl
  | cbc mode =>
      have hback := Cbc.decrypt_encrypt htransform auth type plaintext random
      obtain rfl : (mode.encrypt auth type plaintext random).1 = record := Except.ok.inj hrecord
      simp only [Transform.decrypt, hback, TagsAgree, and_true]
      rfl
  | counter mode =>
      have hback := CounterMode.decrypt_encrypt htransform auth type plaintext
      obtain rfl : mode.encrypt auth type plaintext = record := Except.ok.inj hrecord
      simp only [Transform.decrypt, hback, TagsAgree, and_true]
      rfl
  | aead mode => exact ⟨rfl, AeadMode.decrypt_encrypt_iff htransform hrecord⟩
  | unavailable => cases hrecord

/-! ### Transforms of modes -/

def sentLength : Transform → Nat
  | aead mode => mode.layout.sentLength
  | _ => 0

theorem sentLength_encrypt (transform : Transform) (auth : Authenticator) (type : ContentType)
    (plaintext : Bytes) (random : RandomSource) :
    (transform.encrypt auth type plaintext random).2.1.sentLength = transform.sentLength := by
  cases transform <;> rfl

/-- Before version 1.3, and where nothing is sent, the tags agree. -/
theorem tagsAgree_of_same_header {transform : Transform} {auth : Authenticator}
    (h : auth.version.is13 = false ∨ transform.sentLength = 0) (type : ContentType)
    (plaintext : Bytes) : transform.TagsAgree auth type plaintext := by
  cases transform with
  | aead mode => exact AeadMode.tagsAgree_of_same_header h type plaintext
  | _ => trivial

end Transform

namespace CipherMode

theorem requireBlock_eq_ok_iff {kind : ModeKind} {engine : Engine} {cipher : BlockCipher} :
    requireBlock kind engine = .ok cipher ↔ engine.block? = some cipher := by
  unfold requireBlock
  split
  · rename_i hblock
    simp [hblock]
  · rename_i hblock
    simp [hblock]

theorem aead_of_taggedCounterMode {kind : ModeKind} {engine : Engine} {iv : Bytes}
    {sentLength : Nat} {aead : BlockCipher → Aead} {transform : Transform}
    (hcreate : taggedCounterMode kind engine iv sentLength aead = .ok transform) :
    ∃ cipher layout, engine.block? = some cipher
      ∧ NonceLayout.ofIV iv sentLength = .ok layout
      ∧ engine.kind.hasTaggedCounterModes = true ∧ layout.nonceLength = 12
      ∧ transform = .aead ⟨aead cipher, layout⟩ := by
  obtain ⟨cipher, hrequire, hcreate⟩ := bind_eq_ok_iff.mp hcreate
  obtain ⟨layout, hlayout, hcreate⟩ := bind_eq_ok_iff.mp hcreate
  by_cases htagged : engine.kind.hasTaggedCounterModes = true
  · by_cases hlength : layout.nonceLength = 12
    · simp only [htagged, hlength, Bool.not_true, ne_eq, not_true, if_false] at hcreate
      exact ⟨cipher, layout, requireBlock_eq_ok_iff.mp hrequire, hlayout, htagged, hlength,
        (Except.ok.inj hcreate).symm⟩
    · simp [htagged, hlength, bind, Except.bind, throw, throwThe, MonadExceptOf.throw] at hcreate
  · simp [htagged, bind, Except.bind, throw, throwThe, MonadExceptOf.throw] at hcreate

theorem aead_of_multilinearMode {kind : ModeKind} {engine : Engine} {iv : Bytes} {strong : Bool}
    {transform : Transform} (hcreate : multilinearMode kind engine iv strong = .ok transform) :
    ∃ cipher, engine.block? = some cipher ∧ iv.length = cipher.blockLength
      ∧ transform = .aead ⟨Multilinear.aead ⟨engine.kind, cipher, strong⟩, .masked iv⟩ := by
  unfold multilinearMode Multilinear.create at hcreate
  cases hmultilinear : engine.kind.isMultilinear with
  | false => simp [hmultilinear] at hcreate
  | true =>
      cases hblock : engine.block? with
      | none => simp [hmultilinear, hblock] at hcreate
      | some cipher =>
          simp only [hmultilinear, hblock] at hcreate
          split at hcreate
          · rename_i hiv
            cases hcreate
            exact ⟨cipher, rfl, hiv, rfl⟩
          · cases hcreate

/-- What the transform of each mode is made of. -/
inductive Made (engine : Engine) (auth : Authenticator) (iv : Bytes) (sentLength : Nat) :
    ModeKind → Transform → Prop
  | null : Made engine auth iv sentLength .null .plain
  | stream (cipher : StreamCipher) : Made engine auth iv sentLength .stream (.stream cipher)
  | cbc {cipher : BlockCipher} {mode : Cbc} (hblock : engine.block? = some cipher)
      (hmode : Cbc.create cipher iv auth.version.usesExplicitIV = .ok mode) :
      Made engine auth iv sentLength .cbc (.cbc mode)
  | ctr {cipher : BlockCipher} {layout : NonceLayout} {mode : CounterMode}
      (hblock : engine.block? = some cipher) (hlayout : NonceLayout.ofIV iv sentLength = .ok layout)
      (hmode : CounterMode.create cipher layout = .ok mode) :
      Made engine auth iv sentLength .ctr (.counter mode)
  | tagged {kind : ModeKind} {cipher : BlockCipher} {layout : NonceLayout}
      (hkind : kind.sendsTaggedNonce = true) (hblock : engine.block? = some cipher)
      (hlayout : NonceLayout.ofIV iv sentLength = .ok layout)
      (htagged : engine.kind.hasTaggedCounterModes = true) (hlength : layout.nonceLength = 12) :
      Made engine auth iv sentLength kind (.aead ⟨kind.taggedAead cipher, layout⟩)
  | chaCha20Poly1305 (hiv : iv.length = ChaCha20Poly1305.nonceLength) :
      Made engine auth iv sentLength .chaCha20Poly1305
        (.aead ⟨RecordProtection.chaCha20Poly1305 engine.key, .masked iv⟩)
  | multilinear {cipher : BlockCipher} (strong : Bool) (hblock : engine.block? = some cipher)
      (hiv : iv.length = cipher.blockLength) :
      Made engine auth iv sentLength (if strong then .mgmStrong else .mgmLight)
        (.aead ⟨Multilinear.aead ⟨engine.kind, cipher, strong⟩, .masked iv⟩)
  | cntImit : Made engine auth iv sentLength .cntImit .unavailable

theorem made_of_transformOf {kind : ModeKind} {engine : Engine} {auth : Authenticator} {iv : Bytes}
    {sentLength : Nat} {transform : Transform}
    (hcreate : transformOf kind engine auth iv sentLength = .ok transform) :
    Made engine auth iv sentLength kind transform := by
  cases kind with
  | null =>
      simp only [transformOf] at hcreate
      split at hcreate <;> cases hcreate
      exact .null
  | stream =>
      simp only [transformOf] at hcreate
      split at hcreate <;> cases hcreate
      exact .stream _
  | cbc =>
      obtain ⟨cipher, hrequire, hcreate⟩ := bind_eq_ok_iff.mp hcreate
      obtain ⟨mode, hmode, hcreate⟩ := bind_eq_ok_iff.mp hcreate
      cases hcreate
      exact .cbc (requireBlock_eq_ok_iff.mp hrequire) hmode
  | ctr =>
      obtain ⟨cipher, hrequire, hcreate⟩ := bind_eq_ok_iff.mp hcreate
      obtain ⟨layout, hlayout, hcreate⟩ := bind_eq_ok_iff.mp hcreate
      obtain ⟨mode, hmode, hcreate⟩ := bind_eq_ok_iff.mp hcreate
      cases hcreate
      exact .ctr (requireBlock_eq_ok_iff.mp hrequire) hlayout hmode
  | gcm =>
      obtain ⟨_, _, hblock, hlayout, htagged, hlength, rfl⟩ := aead_of_taggedCounterMode hcreate
      have hkind : ModeKind.gcm.sendsTaggedNonce = true := rfl
      exact .tagged hkind hblock hlayout htagged hlength
  | ccm =>
      obtain ⟨_, _, hblock, hlayout, htagged, hlength, rfl⟩ := aead_of_taggedCounterMode hcreate
      have hkind : ModeKind.ccm.sendsTaggedNonce = true := rfl
      exact .tagged hkind hblock hlayout htagged hlength
  | ccm8 =>
      obtain ⟨_, _, hblock, hlayout, htagged, hlength, rfl⟩ := aead_of_taggedCounterMode hcreate
      have hkind : ModeKind.ccm8.sendsTaggedNonce = true := rfl
      exact .tagged hkind hblock hlayout htagged hlength
  | chaCha20Poly1305 =>
      simp only [transformOf] at hcreate
      split at hcreate
      · cases hcreate
      · split at hcreate
        · cases hcreate
        · rename_i hiv
          cases hcreate
          exact .chaCha20Poly1305 (not_not.mp hiv)
  | mgmStrong =>
      obtain ⟨_, hblock, hiv, rfl⟩ := aead_of_multilinearMode hcreate
      exact .multilinear true hblock hiv
  | mgmLight =>
      obtain ⟨_, hblock, hiv, rfl⟩ := aead_of_multilinearMode hcreate
      exact .multilinear false hblock hiv
  | cntImit =>
      simp only [transformOf] at hcreate
      split at hcreate <;> cases hcreate
      exact .cntImit

section Made

variable {kind : ModeKind} {engine : Engine} {auth : Authenticator} {iv : Bytes} {sentLength : Nat}
  {transform : Transform}

/-- Only the counter modes with a tag send bytes of their nonces under it. -/
theorem Made.sentLength_eq (hmade : Made engine auth iv sentLength kind transform) :
    transform.sentLength = if kind.sendsTaggedNonce then sentLength else 0 := by
  cases hmade with
  | tagged hkind hblock hlayout htagged hlength =>
      rw [if_pos hkind]
      exact NonceLayout.sentLength_of_ofIV hlayout
  | multilinear strong hblock hiv => cases strong <;> rfl
  | _ => rfl

variable (hengine : engine.Lawful)
include hengine

theorem blockLength_of_hasTaggedCounterModes
    (htagged : engine.kind.hasTaggedCounterModes = true) {cipher : BlockCipher}
    (hblock : engine.block? = some cipher) : cipher.blockLength = 16 := by
  have hlength := hengine.blockLength cipher hblock
  rw [EngineKind.blockLength_of_hasTaggedCounterModes htagged] at hlength
  exact (Option.some.inj hlength).symm

theorem sequenceBlockLength_le_blockLength {cipher : BlockCipher}
    (hblock : engine.block? = some cipher) : sequenceBlockLength ≤ cipher.blockLength := by
  have hlength := hengine.blockLength cipher hblock
  revert hlength
  cases engine.kind <;> simp +contextual [EngineKind.blockLength, sequenceBlockLength, eq_comm]

/-- Every transform that a mode can have is lawful. -/
theorem Made.lawful (hmade : Made engine auth iv sentLength kind transform) :
    transform.Lawful := by
  cases hmade with
  | null | stream | cntImit => trivial
  | cbc hblock hmode => exact Cbc.lawful_of_create (hengine.cipher _ hblock) hmode
  | ctr hblock hlayout hmode =>
      exact CounterMode.lawful_of_create (hengine.cipher _ hblock)
        (NonceLayout.lawful_of_ofIV hlayout) hmode
  | tagged hkind hblock hlayout htagged hlength =>
      have haead := ModeKind.taggedAead_lawful kind (hengine.cipher _ hblock)
        (blockLength_of_hasTaggedCounterModes hengine htagged hblock)
      rw [← hlength] at haead
      exact ⟨haead, NonceLayout.lawful_of_ofIV hlayout⟩
  | chaCha20Poly1305 hiv =>
      refine ⟨chaCha20Poly1305_lawful engine.key _, ?_⟩
      simp only [NonceLayout.Lawful, hiv]
      decide
  | @multilinear cipher strong hblock hiv =>
      have haead := Multilinear.aead_lawful ⟨engine.kind, cipher, strong⟩
        (hengine.cipher cipher hblock)
      have hlong := sequenceBlockLength_le_blockLength hengine hblock
      refine ⟨?_, ?_⟩
      · simpa only [NonceLayout.nonceLength, hiv] using haead
      · simpa only [NonceLayout.Lawful, hiv] using hlong

end Made

/-! ### Both ends -/

theorem encrypt_eq_ok_iff {mode next : CipherMode} {type : ContentType} {plaintext record : Bytes}
    {random rest : RandomSource} :
    mode.encrypt type plaintext random = (.ok record, next, rest)
      ↔ ∃ auth transform, mode.auth.advance = .ok auth
        ∧ mode.transform.encrypt mode.auth type plaintext random = (.ok record, transform, rest)
        ∧ next = { mode with transform := transform, auth := auth } := by
  rcases htransform : mode.transform.encrypt mode.auth type plaintext random
    with ⟨_ | encrypted, transform, remaining⟩
  · simp [encrypt, htransform]
  · cases hadvance : mode.auth.advance with
    | error e => simp [encrypt, htransform, hadvance]
    | ok auth =>
        simp only [encrypt, htransform, hadvance, Prod.mk.injEq, Except.ok.injEq]
        constructor
        · rintro ⟨rfl, rfl, rfl⟩
          exact ⟨auth, transform, rfl, ⟨rfl, rfl, rfl⟩, rfl⟩
        · rintro ⟨_, _, rfl, ⟨rfl, rfl, rfl⟩, rfl⟩
          exact ⟨rfl, rfl, rfl⟩

@[simp]
theorem transform_encrypt (mode : CipherMode) (type : ContentType) (plaintext : Bytes)
    (random : RandomSource) :
    (mode.encrypt type plaintext random).2.1.transform
      = (mode.transform.encrypt mode.auth type plaintext random).2.1 := by
  rcases htransform : mode.transform.encrypt mode.auth type plaintext random
    with ⟨_ | record, transform, rest⟩
  · simp [encrypt, htransform]
  · cases hadvance : mode.auth.advance <;> simp [encrypt, htransform, hadvance]

@[simp]
theorem transform_decrypt (mode : CipherMode) (type : ContentType) (record : Bytes) :
    (mode.decrypt type record).2.transform
      = (mode.transform.decrypt mode.auth type record).2 := by
  rcases htransform : mode.transform.decrypt mode.auth type record with ⟨_ | content, transform⟩
  · simp [decrypt, htransform]
  · cases hadvance : mode.auth.advance <;> simp [decrypt, htransform, hadvance]

section Received

variable {mode next : CipherMode} (hmode : mode.transform.Lawful) {type : ContentType}
  {plaintext record : Bytes} {random rest : RandomSource}
  (hencrypt : mode.encrypt type plaintext random = (.ok record, next, rest))
include hmode hencrypt

theorem decrypt_encrypt (hagree : mode.transform.TagsAgree mode.auth type plaintext) :
    mode.decrypt type record = (.ok plaintext, next) := by
  obtain ⟨auth, transform, hadvance, htransform, rfl⟩ := encrypt_eq_ok_iff.mp hencrypt
  have hrecord : (mode.transform.encrypt mode.auth type plaintext random).1 = .ok record := by
    rw [htransform]
  obtain ⟨hstate, hresult⟩ := Transform.decrypt_encrypt hmode hrecord
  rw [htransform] at hstate
  simp only [decrypt, hresult.mpr hagree, hstate, hadvance]

theorem tagsAgree_of_decrypt (hdecrypt : (mode.decrypt type record).1 = .ok plaintext) :
    mode.transform.TagsAgree mode.auth type plaintext := by
  obtain ⟨auth, transform, hadvance, htransform, rfl⟩ := encrypt_eq_ok_iff.mp hencrypt
  have hrecord : (mode.transform.encrypt mode.auth type plaintext random).1 = .ok record := by
    rw [htransform]
  refine (Transform.decrypt_encrypt hmode hrecord).2.mp ?_
  cases hresult : (mode.transform.decrypt mode.auth type record).1 with
  | error e => simp [decrypt, hresult] at hdecrypt
  | ok content => simpa [decrypt, hresult, hadvance] using hdecrypt

end Received

/-- The direction of an engine makes no difference to its records. -/
theorem create_forEncryption (kind : ModeKind) (engine : Engine) (forEncryption : Bool)
    (auth : Authenticator) (iv : Bytes) (sentLength : Nat) :
    create kind { engine with forEncryption := forEncryption } auth iv sentLength
      = create kind engine auth iv sentLength := by
  cases kind <;> rfl

theorem create_eq_ok_iff {kind : ModeKind} {engine : Engine} {auth : Authenticator} {iv : Bytes}
    {sentLength : Nat} {mode : CipherMode} :
    create kind engine auth iv sentLength = .ok mode
      ↔ ∃ transform, transformOf kind engine auth iv sentLength = .ok transform
        ∧ mode = ⟨kind, transform, auth⟩ := by
  unfold create
  rw [bind_eq_ok_iff]
  simp only [pure, Except.pure, Except.ok.injEq, eq_comm]

/-- A mode after its creation, any use of it, and any moves of its counter. -/
inductive Reached : CipherMode → Prop
  | created {kind : ModeKind} {engine : Engine} {auth : Authenticator} {iv : Bytes}
      {sentLength : Nat} {mode : CipherMode} (hengine : engine.Reached)
      (hcreate : create kind engine auth iv sentLength = .ok mode) : Reached mode
  | encrypted {mode : CipherMode} (hmode : Reached mode) (type : ContentType) (plaintext : Bytes)
      (random : RandomSource) : Reached (mode.encrypt type plaintext random).2.1
  | decrypted {mode : CipherMode} (hmode : Reached mode) (type : ContentType) (record : Bytes) :
      Reached (mode.decrypt type record).2
  | reset {mode : CipherMode} (hmode : Reached mode) : Reached mode.reset
  | placed {mode : CipherMode} (hmode : Reached mode) (sequence : Sequence) :
      Reached { mode with auth := { mode.auth with sequence := sequence } }

theorem Reached.lawful {mode : CipherMode} (hmode : mode.Reached) : mode.transform.Lawful := by
  induction hmode with
  | created hengine hcreate =>
      obtain ⟨transform, htransform, rfl⟩ := create_eq_ok_iff.mp hcreate
      exact (made_of_transformOf htransform).lawful hengine.lawful
  | @encrypted mode _ type plaintext random ih =>
      rw [transform_encrypt]
      exact ih.encrypt mode.auth type plaintext random
  | @decrypted mode _ type record ih =>
      rw [transform_decrypt]
      exact ih.decrypt mode.auth type record
  | reset _ ih => exact ih.reset
  | placed _ _ ih => exact ih

end CipherMode

end RecordProtection
