import RecordProtection.Proofs.CbcAcceptance
import RecordProtection.Proofs.Overhead
import RecordProtection.Proofs.RoundTrip

/-!
# Accepted records are sent records

Outside of cipher block chaining, a record is accepted exactly if it is put together as a sender
does it: bytes that tell the nonce, then content and MAC under a mask, or ciphertext and tag.  So
the bytes in front and the content determine the record, and with the bytes of its own place in
front it is the record that the same mode sends.
-/

namespace RecordProtection

/-! ### Content and MAC -/

theorem Transform.withoutMac_eq_ok_iff {auth : Authenticator} {type : ContentType}
    {record content : Bytes} :
    withoutMac auth type record = .ok content
      ↔ record = content ++ auth.computeMac type content := by
  constructor
  · intro h
    obtain ⟨length, hcheck, hcontent⟩ := bind_eq_ok_iff.mp h
    obtain rfl : record.take length = content := Except.ok.inj hcontent
    unfold Authenticator.checkTrailingMac at hcheck
    split at hcheck
    · cases hcheck
    · simp only at hcheck
      split at hcheck
      · rename_i hmac
        cases hcheck
        rw [hmac, List.take_append_drop]
      · cases hcheck
  · rintro rfl
    exact withoutMac_append auth type content

namespace CounterMode

/-- The record of a content behind some bytes that tell the counter block. -/
def recordOf (mode : CounterMode) (auth : Authenticator) (type : ContentType)
    (sent content : Bytes) : Bytes :=
  sent ++ mode.mask (mode.layout.nonceOf auth.sequenceBlock sent)
    (content ++ auth.computeMac type content)

theorem encrypt_eq_recordOf (mode : CounterMode) (auth : Authenticator) (type : ContentType)
    (content : Bytes) :
    mode.encrypt auth type content
      = mode.recordOf auth type (mode.layout.sending auth.sequenceBlock).2 content := by
  rw [recordOf, NonceLayout.nonceOf_sending]
  rfl

section Lawful

variable {mode : CounterMode} (hmode : mode.Lawful) (auth : Authenticator) {sent : Bytes}
  (hsent : sent.length = mode.layout.sentLength)
include hmode hsent

theorem length_counter :
    (mode.layout.nonceOf auth.sequenceBlock sent).length = mode.cipher.blockLength :=
  (NonceLayout.length_nonceOf hmode.layout auth.length_sequenceBlock hsent).trans
    hmode.nonceLength

theorem mask_mask (text : Bytes) :
    mode.mask (mode.layout.nonceOf auth.sequenceBlock sent)
      (mode.mask (mode.layout.nonceOf auth.sequenceBlock sent) text) = text :=
  counterMode_counterMode hmode.cipher length_incrementBE (length_counter hmode auth hsent) text

theorem length_recordOf (type : ContentType) (content : Bytes) :
    (mode.recordOf auth type sent content).length
      = mode.layout.sentLength + (content.length + auth.macLength) := by
  have hmask := length_counterMode hmode.cipher length_incrementBE
    (length_counter hmode auth hsent) (content ++ auth.computeMac type content)
  rw [recordOf, List.length_append, hsent, mask, hmask, List.length_append,
    Authenticator.length_computeMac]

end Lawful

theorem decrypt_eq_ok_iff {mode : CounterMode} (hmode : mode.Lawful) {auth : Authenticator}
    {type : ContentType} {record content : Bytes} :
    mode.decrypt auth type record = .ok content
      ↔ ∃ sent, sent.length = mode.layout.sentLength
        ∧ record = mode.recordOf auth type sent content := by
  unfold decrypt
  rw [bind_eq_ok_iff]
  constructor
  · rintro ⟨⟨counter, body⟩, hreceiving, hcontent⟩
    obtain ⟨sent, hsent, rfl, rfl⟩ := NonceLayout.receiving_eq_ok_iff.mp hreceiving
    have hbody := Transform.withoutMac_eq_ok_iff.mp hcontent
    refine ⟨sent, hsent, ?_⟩
    rw [recordOf, ← hbody, mask_mask hmode auth hsent]
  · rintro ⟨sent, hsent, rfl⟩
    have hbody := mask_mask hmode auth hsent (content ++ auth.computeMac type content)
    exact ⟨_, mode.layout.receiving_append auth.sequenceBlock hsent _,
      Transform.withoutMac_eq_ok_iff.mpr hbody⟩

end CounterMode

/-! ### Ciphertext and tag -/

namespace AeadMode

/-- The record of a content behind some bytes that tell the nonce, under the header that its
receiver computes. -/
def recordOf (mode : AeadMode) (auth : Authenticator) (type : ContentType) (sent content : Bytes) :
    Bytes :=
  let data := auth.additionalData type content.length (content.length + mode.aead.tagLength)
  let (ciphertext, tag) :=
    mode.aead.encrypt (mode.layout.nonceOf auth.sequenceBlock sent) data content
  sent ++ (ciphertext ++ tag)

section Lawful

variable {mode : AeadMode} (hmode : mode.Lawful) {auth : Authenticator} {type : ContentType}
include hmode

theorem length_recordOf {sent : Bytes} (hsent : sent.length = mode.layout.sentLength)
    (content : Bytes) :
    (mode.recordOf auth type sent content).length
      = mode.layout.sentLength + (content.length + mode.aead.tagLength) := by
  have hnonce := NonceLayout.length_nonceOf hmode.layout auth.length_sequenceBlock hsent
  simp only [recordOf, List.length_append, hsent, hmode.aead.length_ciphertext _ _ _ hnonce,
    hmode.aead.length_tag _ _ _ hnonce]

theorem decrypt_eq_ok_iff {record content : Bytes} :
    mode.decrypt auth type record = .ok content
      ↔ content.length ≤ mode.aead.maxLength
        ∧ ∃ sent, sent.length = mode.layout.sentLength
          ∧ record = mode.recordOf auth type sent content := by
  constructor
  · intro haccepted
    obtain ⟨⟨nonce, body⟩, hreceiving, hopened⟩ := bind_eq_ok_iff.mp haccepted
    obtain ⟨sent, hsent, rfl, rfl⟩ := NonceLayout.receiving_eq_ok_iff.mp hreceiving
    have hnonce := NonceLayout.length_nonceOf hmode.layout auth.length_sequenceBlock hsent
    by_cases htagged : body.length < mode.aead.tagLength
    · simp [htagged, bind, Except.bind, throw, throwThe, MonadExceptOf.throw] at hopened
    by_cases hlong : body.length - mode.aead.tagLength > mode.aead.maxLength
    · simp [htagged, hlong, bind, Except.bind, throw, throwThe, MonadExceptOf.throw] at hopened
    obtain ⟨ciphertext, tag, rfl, htag⟩ :
        ∃ ciphertext tag, body = ciphertext ++ tag ∧ tag.length = mode.aead.tagLength :=
      ⟨_, _, (List.take_append_drop (body.length - mode.aead.tagLength) body).symm, by
        rw [List.length_drop]
        omega⟩
    have hshort : ciphertext.length ≤ mode.aead.maxLength := by
      rw [List.length_append, htag] at hlong
      omega
    rw [decrypt_of_receiving hreceiving htag hshort] at haccepted
    split at haccepted
    · rename_i opened hdecrypt
      obtain rfl : opened = content := Except.ok.inj haccepted
      have hsealed := (hmode.aead.decrypt_eq_some_iff _ _ _ _ _ hnonce).mp hdecrypt
      -- the ciphertext is as long as the content, so both ends count the same
      have hlength := hmode.aead.length_ciphertext _ (auth.additionalData type ciphertext.length
        (ciphertext.length + mode.aead.tagLength)) opened hnonce
      rw [hsealed] at hlength
      refine ⟨hlength ▸ hshort, sent, hsent, ?_⟩
      rw [recordOf, ← hlength, hsealed]
    · cases haccepted
  · rintro ⟨hshort, sent, hsent, rfl⟩
    have hnonce := NonceLayout.length_nonceOf hmode.layout auth.length_sequenceBlock hsent
    have hciphertext := hmode.aead.length_ciphertext _
      (auth.additionalData type content.length (content.length + mode.aead.tagLength)) content
      hnonce
    have htag := hmode.aead.length_tag _
      (auth.additionalData type content.length (content.length + mode.aead.tagLength)) content
      hnonce
    rw [recordOf, decrypt_of_receiving (mode.layout.receiving_append _ hsent _) htag
      (hciphertext.trans_le hshort), hciphertext, hmode.aead.decrypt_encrypt hnonce]

/-- Where both ends compute the same tag, the record behind the bytes to send is the one sent. -/
theorem encrypt_eq_recordOf {content : Bytes} (hshort : content.length ≤ mode.aead.maxLength)
    (hagree : mode.TagsAgree auth type content) :
    mode.encrypt auth type content
      = .ok (mode.recordOf auth type (mode.layout.sending auth.sequenceBlock).2 content) := by
  unfold TagsAgree at hagree
  rw [encrypt_eq_ok_iff hmode, hagree, hmode.aead.ciphertext_eq _ _
    (auth.additionalData type content.length (content.length + mode.aead.tagLength))]
  simp only [recordOf, NonceLayout.nonceOf_sending]
  exact ⟨hshort, rfl⟩

end Lawful

end AeadMode

/-! ### All transforms but chains -/

namespace Transform

def isCbc : Transform → Bool
  | cbc _ => true
  | _ => false

/-- How many bytes in front of a record tell its nonce. -/
def explicitLength : Transform → Nat
  | counter mode => mode.layout.sentLength
  | aead mode => mode.layout.sentLength
  | _ => 0

/-- The record of a content behind the bytes that tell its nonce, if there is one. -/
def recordOf? (transform : Transform) (auth : Authenticator) (type : ContentType)
    (sent content : Bytes) : Option Bytes :=
  match transform with
  | plain => some (content ++ auth.computeMac type content)
  | stream cipher => some (cipher.apply (content ++ auth.computeMac type content)).1
  | counter mode => some (mode.recordOf auth type sent content)
  | aead mode =>
      if content.length ≤ mode.aead.maxLength then some (mode.recordOf auth type sent content)
      else none
  | cbc _ | unavailable => none

section Lawful

variable {transform : Transform} (htransform : transform.Lawful) {auth : Authenticator}
  {type : ContentType} {sent content record : Bytes}
include htransform

theorem decrypt_eq_ok_iff (hcbc : transform.isCbc = false) :
    (transform.decrypt auth type record).1 = .ok content
      ↔ ∃ sent, sent.length = transform.explicitLength
        ∧ transform.recordOf? auth type sent content = some record := by
  cases transform with
  | plain =>
      simp only [decrypt, withoutMac_eq_ok_iff, explicitLength, recordOf?, Option.some.injEq,
        eq_comm (b := record)]
      constructor
      · intro h
        exact ⟨[], rfl, h⟩
      · rintro ⟨_, _, h⟩
        exact h
  | stream cipher =>
      simp only [decrypt, withoutMac_eq_ok_iff, explicitLength, recordOf?, Option.some.injEq]
      constructor
      · intro h
        refine ⟨[], rfl, ?_⟩
        rw [← h, cipher.apply_apply]
      · rintro ⟨_, _, rfl⟩
        rw [cipher.apply_apply]
  | cbc mode => cases hcbc
  | counter mode =>
      simp only [decrypt, CounterMode.decrypt_eq_ok_iff htransform, explicitLength, recordOf?,
        Option.some.injEq, eq_comm]
  | aead mode =>
      simp only [decrypt, AeadMode.decrypt_eq_ok_iff htransform, explicitLength, recordOf?,
        Option.ite_none_right_eq_some, Option.some.injEq]
      constructor
      · rintro ⟨hshort, sent, hsent, rfl⟩
        exact ⟨sent, hsent, hshort, rfl⟩
      · rintro ⟨sent, hsent, hshort, rfl⟩
        exact ⟨hshort, sent, hsent, rfl⟩
  | unavailable => simp [decrypt, recordOf?]

variable (hsent : sent.length = transform.explicitLength)
  (hrecord : transform.recordOf? auth type sent content = some record)
include hsent hrecord

omit htransform in
theorem take_of_recordOf? : record.take transform.explicitLength = sent := by
  cases transform with
  | plain | stream => exact (List.eq_nil_of_length_eq_zero hsent).symm
  | counter mode =>
      obtain rfl := Option.some.inj hrecord
      exact List.take_left' hsent
  | aead mode =>
      simp only [recordOf?, Option.ite_none_right_eq_some, Option.some.injEq] at hrecord
      obtain ⟨-, rfl⟩ := hrecord
      exact List.take_left' hsent
  | cbc | unavailable => cases hrecord

theorem length_of_recordOf? : record.length = content.length + transform.overhead auth := by
  cases transform with
  | plain | stream =>
      obtain rfl := Option.some.inj hrecord
      simp [overhead]
  | counter mode =>
      obtain rfl := Option.some.inj hrecord
      rw [CounterMode.length_recordOf htransform auth hsent, overhead]
      omega
  | aead mode =>
      simp only [recordOf?, Option.ite_none_right_eq_some, Option.some.injEq] at hrecord
      obtain ⟨-, rfl⟩ := hrecord
      rw [AeadMode.length_recordOf htransform hsent, overhead]
      omega
  | cbc | unavailable => cases hrecord

omit hsent in
/-- Behind the sent bytes of its own place, the record of a content is the one that is sent. -/
theorem encrypt_of_recordOf?
    (hplace : sent = auth.sequenceBlock.drop (sequenceBlockLength - transform.explicitLength))
    (hagree : transform.TagsAgree auth type content) (random : RandomSource) :
    (transform.encrypt auth type content random).1 = .ok record := by
  cases transform with
  | plain | stream => exact congrArg Except.ok (Option.some.inj hrecord)
  | counter mode =>
      obtain rfl := Option.some.inj hrecord
      rw [encrypt, mode.encrypt_eq_recordOf, hplace, explicitLength,
        NonceLayout.sent_eq_drop _ auth.length_sequenceBlock]
  | aead mode =>
      simp only [recordOf?, Option.ite_none_right_eq_some, Option.some.injEq] at hrecord
      obtain ⟨hshort, rfl⟩ := hrecord
      rw [encrypt, AeadMode.encrypt_eq_recordOf htransform hshort hagree, hplace, explicitLength,
        NonceLayout.sent_eq_drop _ auth.length_sequenceBlock]
  | cbc | unavailable => cases hrecord

end Lawful

/-! ### Kinds -/

theorem sentLength_le_explicitLength (transform : Transform) :
    transform.sentLength ≤ transform.explicitLength := by
  cases transform with
  | aead mode => exact Nat.le_refl _
  | _ => exact Nat.zero_le _

/-- Only one kind of modes chains blocks, and only three kinds tag a header that counts the sent
bytes of a nonce. -/
structure Suits (transform : Transform) (kind : ModeKind) : Prop where
  isCbc : kind ≠ .cbc → transform.isCbc = false
  sentLength : kind.sendsTaggedNonce = false → transform.sentLength = 0

section Suits

variable {transform : Transform} {kind : ModeKind} (htransform : transform.Suits kind)
include htransform

theorem Suits.encrypt (auth : Authenticator) (type : ContentType) (plaintext : Bytes)
    (random : RandomSource) : (transform.encrypt auth type plaintext random).2.1.Suits kind := by
  cases transform <;> exact ⟨htransform.isCbc, htransform.sentLength⟩

theorem Suits.decrypt (auth : Authenticator) (type : ContentType) (record : Bytes) :
    (transform.decrypt auth type record).2.Suits kind := by
  cases transform <;> exact ⟨htransform.isCbc, htransform.sentLength⟩

theorem Suits.reset : transform.reset.Suits kind := by
  cases transform <;> exact ⟨htransform.isCbc, htransform.sentLength⟩

end Suits

end Transform

namespace CipherMode

theorem Made.suits {engine : Engine} {auth : Authenticator} {iv : Bytes} {sentLength : Nat}
    {kind : ModeKind} {transform : Transform}
    (hmade : Made engine auth iv sentLength kind transform) : transform.Suits kind where
  isCbc hkind := by
    cases hmade with
    | cbc hblock hmode => exact absurd rfl hkind
    | _ => rfl
  sentLength hkind := by
    rw [hmade.sentLength_eq, hkind]
    rfl

@[simp]
theorem kind_encrypt (mode : CipherMode) (type : ContentType) (plaintext : Bytes)
    (random : RandomSource) : (mode.encrypt type plaintext random).2.1.kind = mode.kind := by
  rcases htransform : mode.transform.encrypt mode.auth type plaintext random
    with ⟨_ | record, transform, rest⟩
  · simp [encrypt, htransform]
  · cases hadvance : mode.auth.advance <;> simp [encrypt, htransform, hadvance]

@[simp]
theorem kind_decrypt (mode : CipherMode) (type : ContentType) (record : Bytes) :
    (mode.decrypt type record).2.kind = mode.kind := by
  rcases htransform : mode.transform.decrypt mode.auth type record with ⟨_ | content, transform⟩
  · simp [decrypt, htransform]
  · cases hadvance : mode.auth.advance <;> simp [decrypt, htransform, hadvance]

theorem Reached.suits {mode : CipherMode} (hmode : mode.Reached) :
    mode.transform.Suits mode.kind := by
  induction hmode with
  | created hengine hcreate =>
      obtain ⟨transform, htransform, rfl⟩ := create_eq_ok_iff.mp hcreate
      exact (made_of_transformOf htransform).suits
  | @encrypted mode _ type plaintext random ih =>
      rw [transform_encrypt, kind_encrypt]
      exact ih.encrypt mode.auth type plaintext random
  | @decrypted mode _ type record ih =>
      rw [transform_decrypt, kind_decrypt]
      exact ih.decrypt mode.auth type record
  | reset _ ih => exact ih.reset
  | placed _ _ ih => exact ih

theorem encrypt_of_transform {mode : CipherMode} {type : ContentType} {plaintext record : Bytes}
    {random : RandomSource} (hnumber : mode.auth.sequence.number < mode.auth.maxNumber)
    (htransform : (mode.transform.encrypt mode.auth type plaintext random).1 = .ok record) :
    (mode.encrypt type plaintext random).1 = .ok record := by
  have hadvance := Authenticator.advance_eq_ok_iff.mpr ⟨hnumber, rfl⟩
  rcases hrecord : mode.transform.encrypt mode.auth type plaintext random with ⟨result, rest⟩
  rw [hrecord] at htransform
  simp only at htransform
  subst htransform
  simp [encrypt, hrecord, hadvance]

/-- A mode that does not chain blocks accepts, behind the sent bytes of its own place, only the
record that it would send, unless version 1.3 tags the length of these bytes.  The bytes in front
and the content determine an accepted record, and none is shorter than these bytes and the tag or
MAC. -/
theorem accepted_records_are_sent {mode : CipherMode} (hmode : mode.Reached)
    (hkind : mode.kind ≠ .cbc) (type : ContentType) :
    (∀ record plaintext,
        (mode.kind.sendsTaggedNonce = true →
          mode.auth.version.is13 = false ∨ mode.transform.explicitLength = 0) →
        record.take mode.transform.explicitLength
          = mode.auth.sequenceBlock.drop (sequenceBlockLength - mode.transform.explicitLength) →
        (mode.decrypt type record).1 = .ok plaintext →
        ∀ random, (mode.encrypt type plaintext random).1 = .ok record)
      ∧ (∀ record other plaintext,
        record.take mode.transform.explicitLength = other.take mode.transform.explicitLength →
        (mode.decrypt type record).1 = .ok plaintext →
        (mode.decrypt type other).1 = .ok plaintext → record = other)
      ∧ ∀ record plaintext, (mode.decrypt type record).1 = .ok plaintext →
        mode.transform.overhead mode.auth ≤ record.length := by
  have hlawful := hmode.lawful
  have hsuits := hmode.suits
  have hread {record plaintext : Bytes} (haccepted : (mode.decrypt type record).1 = .ok plaintext) :
      ∃ sent, sent.length = mode.transform.explicitLength
        ∧ mode.transform.recordOf? mode.auth type sent plaintext = some record :=
    (Transform.decrypt_eq_ok_iff hlawful (hsuits.isCbc hkind)).mp
      (decrypt_eq_ok_iff.mp haccepted).1
  refine ⟨?_, ?_, ?_⟩
  · intro record plaintext hheader hplace haccepted random
    obtain ⟨sent, hsent, hrecord⟩ := hread haccepted
    rw [Transform.take_of_recordOf? hsent hrecord] at hplace
    have hagree : mode.transform.TagsAgree mode.auth type plaintext := by
      refine Transform.tagsAgree_of_same_header ?_ type plaintext
      cases htagged : mode.kind.sendsTaggedNonce with
      | false => exact .inr (hsuits.sentLength htagged)
      | true =>
          refine (hheader htagged).imp_right fun hnone => ?_
          exact Nat.eq_zero_of_le_zero (hnone ▸ mode.transform.sentLength_le_explicitLength)
    exact encrypt_of_transform (decrypt_eq_ok_iff.mp haccepted).2
      (Transform.encrypt_of_recordOf? hlawful hrecord hplace hagree random)
  · intro record other plaintext hfront haccepted hother
    obtain ⟨sent, hsent, hrecord⟩ := hread haccepted
    obtain ⟨_, hlength, hequal⟩ := hread hother
    rw [Transform.take_of_recordOf? hsent hrecord, Transform.take_of_recordOf? hlength hequal]
      at hfront
    subst hfront
    exact Option.some.inj (hrecord.symm.trans hequal)
  · intro record plaintext haccepted
    obtain ⟨sent, hsent, hrecord⟩ := hread haccepted
    rw [Transform.length_of_recordOf? hlawful hsent hrecord]
    exact Nat.le_add_left _ _

/-- The first record of a mode under version 1.2, an alert. -/
def sentNonceAlert : Bytes :=
  Bytes.zeros 8 ++ [
    0x01, 0xa0, 0xc4, 0x70, 0xb9, 0x2b, 0xf1, 0x14, 0x7c, 0x99, 0x3c, 0x78, 0x03, 0x71, 0xd0, 0xe2,
    0x8c, 0x95]

theorem sentNonceMode_accepts_its_alert :
    ((sentNonceMode .tls12).decrypt .alert sentNonceAlert).1 = .ok [2, 40] ∧ ∀ random,
      ((sentNonceMode .tls12).encrypt .alert [2, 40] random).1 = .ok sentNonceAlert :=
  have hdecrypt : ((sentNonceMode .tls12).decrypt .alert sentNonceAlert).1 = .ok [2, 40] := by
    decide +kernel
  have hreached := Reached.created reached_zeroKeyEngine (create_sentNonceMode .tls12)
  ⟨hdecrypt, (accepted_records_are_sent hreached (by decide) .alert).1 _ _ (fun _ => .inl rfl)
    (by decide) hdecrypt⟩

end CipherMode

end RecordProtection
