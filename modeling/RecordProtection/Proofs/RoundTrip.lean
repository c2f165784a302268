import RecordProtection.Proofs.CipherMode

/-!
# Lists of messages

One mode encrypts a list of messages, another one that was created alike decrypts the records.  It
gets back the messages, unless version 1.3 covers a record by a tag that counts the sent bytes of
the nonce at one end only.
-/

namespace RecordProtection

namespace Authenticator

/-- The place of a record further on in the same epoch. -/
def after (auth : Authenticator) (count : Nat) : Authenticator :=
  { auth with
    sequence := { auth.sequence with number := auth.sequence.number + UInt64.ofNat count } }

@[simp]
theorem after_zero (auth : Authenticator) : auth.after 0 = auth := by
  simp [after]

theorem after_after (auth : Authenticator) (first second : Nat) :
    (auth.after first).after second = auth.after (first + second) := by
  simp only [after, UInt64.ofNat_add, UInt64.add_assoc]

theorem advance_eq_ok_iff {auth next : Authenticator} :
    auth.advance = .ok next ↔ auth.sequence.number < auth.maxNumber ∧ next = auth.after 1 := by
  unfold advance
  split
  · rename_i hlast
    exact ⟨fun h => (nomatch h), fun h => absurd h.1 (UInt64.not_lt.mpr hlast)⟩
  · rename_i hlast
    rw [Except.ok.injEq]
    exact ⟨fun h => ⟨UInt64.not_le.mp hlast, h.symm⟩, fun h => h.2.symm⟩

end Authenticator

/-- No use of a transform changes which tags agree. -/
theorem Transform.tagsAgree_encrypt (transform : Transform) (auth other : Authenticator)
    (type inner : ContentType) (plaintext content : Bytes) (random : RandomSource) :
    (transform.encrypt auth type plaintext random).2.1.TagsAgree other inner content
      ↔ transform.TagsAgree other inner content := by
  cases transform <;> rfl

namespace CipherMode

/-- Encrypts messages in order, as long as all of them succeed. -/
def encryptAll : CipherMode → List (ContentType × Bytes) → RandomSource →
    Except RecordError (List Bytes)
  | _, [], _ => .ok []
  | mode, (type, plaintext) :: messages, random =>
      match mode.encrypt type plaintext random with
      | (.error e, _, _) => .error e
      | (.ok record, next, rest) => (next.encryptAll messages rest).map (record :: ·)

/-- Decrypts records in order, as long as all of them succeed. -/
def decryptAll : CipherMode → List (ContentType × Bytes) → Except RecordError (List Bytes)
  | _, [] => .ok []
  | mode, (type, record) :: records =>
      match mode.decrypt type record with
      | (.error e, _) => .error e
      | (.ok plaintext, next) => (next.decryptAll records).map (plaintext :: ·)

/-- Both ends compute the same tags for all messages. -/
def AllTagsAgree (mode : CipherMode) (messages : List (ContentType × Bytes)) : Prop :=
  ∀ (index : Nat) (hindex : index < messages.length),
    mode.transform.TagsAgree (mode.auth.after index) messages[index].1 messages[index].2

theorem allTagsAgree_cons_iff {mode next : CipherMode} {type : ContentType}
    {plaintext record : Bytes} {messages : List (ContentType × Bytes)} {random rest : RandomSource}
    (hencrypt : mode.encrypt type plaintext random = (.ok record, next, rest)) :
    mode.AllTagsAgree ((type, plaintext) :: messages)
      ↔ mode.transform.TagsAgree mode.auth type plaintext ∧ next.AllTagsAgree messages := by
  obtain ⟨auth, transform, hadvance, htransform, rfl⟩ := encrypt_eq_ok_iff.mp hencrypt
  obtain ⟨-, rfl⟩ := Authenticator.advance_eq_ok_iff.mp hadvance
  have hsame (other : Authenticator) (inner : ContentType) (content : Bytes) :
      transform.TagsAgree other inner content ↔ mode.transform.TagsAgree other inner content := by
    have hkept := mode.transform.tagsAgree_encrypt mode.auth other type inner plaintext content
      random
    rwa [htransform] at hkept
  constructor
  · intro hagree
    refine ⟨by simpa using hagree 0 (Nat.zero_lt_succ _), fun index hindex => ?_⟩
    have hnext := hagree (index + 1) (Nat.succ_lt_succ hindex)
    simpa only [hsame, Authenticator.after_after, Nat.add_comm 1 index,
      List.getElem_cons_succ] using hnext
  · rintro ⟨hfirst, hrest⟩ index hindex
    cases index with
    | zero => simpa using hfirst
    | succ index =>
        have hnext := hrest index (Nat.lt_of_succ_lt_succ hindex)
        simpa only [hsame, Authenticator.after_after, Nat.add_comm 1 index,
          List.getElem_cons_succ] using hnext

theorem encryptAll_cons_eq_ok_iff {mode : CipherMode} {type : ContentType} {plaintext : Bytes}
    {messages : List (ContentType × Bytes)} {random : RandomSource} {records : List Bytes} :
    mode.encryptAll ((type, plaintext) :: messages) random = .ok records
      ↔ ∃ record next rest remaining, mode.encrypt type plaintext random = (.ok record, next, rest)
        ∧ next.encryptAll messages rest = .ok remaining ∧ record :: remaining = records := by
  rcases hencrypt : mode.encrypt type plaintext random with ⟨_ | record, next, rest⟩
  · simp [encryptAll, hencrypt]
  · simp only [encryptAll, hencrypt, map_eq_ok_iff]
    constructor
    · rintro ⟨remaining, hremaining, hrecords⟩
      exact ⟨record, next, rest, remaining, rfl, hremaining, hrecords⟩
    · rintro ⟨_, _, _, remaining, ⟨⟩, hremaining, hrecords⟩
      exact ⟨remaining, hremaining, hrecords⟩

theorem decryptAll_cons_eq_ok_iff {mode : CipherMode} {type : ContentType} {record : Bytes}
    {records : List (ContentType × Bytes)} {plaintexts : List Bytes} :
    mode.decryptAll ((type, record) :: records) = .ok plaintexts
      ↔ ∃ plaintext next remaining, mode.decrypt type record = (.ok plaintext, next)
        ∧ next.decryptAll records = .ok remaining ∧ plaintext :: remaining = plaintexts := by
  rcases hdecrypt : mode.decrypt type record with ⟨_ | plaintext, next⟩
  · simp [decryptAll, hdecrypt]
  · simp only [decryptAll, hdecrypt, map_eq_ok_iff]
    constructor
    · rintro ⟨remaining, hremaining, hplaintexts⟩
      exact ⟨plaintext, next, remaining, rfl, hremaining, hplaintexts⟩
    · rintro ⟨_, _, remaining, ⟨⟩, hremaining, hplaintexts⟩
      exact ⟨remaining, hremaining, hplaintexts⟩

/-- The messages come back exactly if all tags agree. -/
theorem decryptAll_eq_ok_iff {mode : CipherMode} (hmode : mode.transform.Lawful)
    {messages : List (ContentType × Bytes)} {random : RandomSource} {records : List Bytes}
    (hrecords : mode.encryptAll messages random = .ok records) :
    mode.decryptAll ((messages.map Prod.fst).zip records) = .ok (messages.map Prod.snd)
      ↔ mode.AllTagsAgree messages := by
  induction messages generalizing mode random records with
  | nil =>
      cases hrecords
      exact ⟨fun _ _ hindex => absurd hindex (Nat.not_lt_zero _), fun _ => rfl⟩
  | cons message messages ih =>
      obtain ⟨type, plaintext⟩ := message
      obtain ⟨record, next, rest, remaining, hencrypt, hremaining, rfl⟩ :=
        encryptAll_cons_eq_ok_iff.mp hrecords
      have hnext : next.transform.Lawful := by
        have htransform := hmode.encrypt mode.auth type plaintext random
        rwa [← transform_encrypt, hencrypt] at htransform
      rw [List.map_cons, List.map_cons, List.zip_cons_cons, decryptAll_cons_eq_ok_iff,
        allTagsAgree_cons_iff hencrypt, ← ih hnext hremaining]
      constructor
      · rintro ⟨_, after, contents, hdecrypt, hcontents, heq⟩
        cases heq
        have hagree := tagsAgree_of_decrypt hmode hencrypt (congrArg Prod.fst hdecrypt)
        rw [decrypt_encrypt hmode hencrypt hagree] at hdecrypt
        cases hdecrypt
        exact ⟨hagree, hcontents⟩
      · rintro ⟨hagree, hcontents⟩
        exact ⟨plaintext, next, _, decrypt_encrypt hmode hencrypt hagree, hcontents, rfl⟩

/-! ### Modes that send bytes of their nonces -/

/-- A Galois mode under a key of zeros that sends eight bytes of its nonces. -/
def sentNonceMode (version : ProtocolVersion) : CipherMode where
  kind := .gcm
  transform := .aead ⟨gcm (aes (Bytes.zeros 16)), .explicit (Bytes.zeros 4) 8⟩
  auth := .withoutMac version

/-- The first record of this mode under version 1.3, without content. -/
def sentNonceRecord : Bytes :=
  Bytes.zeros 8 ++ [
    0xb2, 0x2b, 0x9e, 0x20, 0xe3, 0x76, 0xaa, 0x46, 0x83, 0x72, 0xd6, 0xb2, 0x2f, 0xc5, 0x93, 0xc2]

def zeroKeyEngine : Engine :=
  ⟨.aes, true, Bytes.zeros 16, .block (aes (Bytes.zeros 16))⟩

theorem reached_zeroKeyEngine : zeroKeyEngine.Reached := by
  have hcreate : Engine.create .aes true (Bytes.zeros 16) = .ok zeroKeyEngine := rfl
  exact .created hcreate

theorem create_sentNonceMode (version : ProtocolVersion) :
    create .gcm zeroKeyEngine (.withoutMac version) (Bytes.zeros 4) 8
      = .ok (sentNonceMode version) :=
  rfl

/-- Two modes that were created alike: what one encrypts the other one decrypts, exactly if the tags
agree wherever version 1.3 meets a nonce of which bytes are sent. -/
theorem decryptAll_encryptAll_iff {kind : ModeKind} {engine : Engine} (hengine : engine.Reached)
    {auth : Authenticator} {iv : Bytes} {sentLength : Nat} {sender receiver : CipherMode}
    (hsender : create kind engine auth iv sentLength = .ok sender)
    (hreceiver : create kind engine auth iv sentLength = .ok receiver)
    {messages : List (ContentType × Bytes)} {random : RandomSource} {records : List Bytes}
    (hrecords : sender.encryptAll messages random = .ok records) :
    receiver.decryptAll ((messages.map Prod.fst).zip records) = .ok (messages.map Prod.snd)
      ↔ (auth.version.is13 = true → kind.sendsTaggedNonce = true → 0 < sentLength →
        receiver.AllTagsAgree messages) := by
  rw [hsender, Except.ok.injEq] at hreceiver
  subst hreceiver
  obtain ⟨transform, htransform, rfl⟩ := create_eq_ok_iff.mp hsender
  have hmade := made_of_transformOf htransform
  have hlawful := hmade.lawful hengine.lawful
  have hsent := hmade.sentLength_eq
  rw [decryptAll_eq_ok_iff hlawful hrecords]
  constructor
  · exact fun hagree _ _ _ => hagree
  · intro hagree
    by_cases hheader : auth.version.is13 = false ∨ transform.sentLength = 0
    · intro index hindex
      have hafter : (auth.after index).version.is13 = false ∨ transform.sentLength = 0 := hheader
      exact Transform.tagsAgree_of_same_header hafter _ _
    · simp only [not_or, Bool.not_eq_false, hsent] at hheader
      by_cases hkind : kind.sendsTaggedNonce = true
      · rw [if_pos hkind] at hheader
        exact hagree hheader.1 hkind (Nat.pos_of_ne_zero hheader.2)
      · rw [if_neg hkind] at hheader
        exact absurd rfl hheader.2

/-- An alert and a handshake message, so that the counter has moved for the second one. -/
def twoMessages : List (ContentType × Bytes) := [(.alert, [2, 40]), (.handshake, [1, 2, 3])]

/-- Before version 1.3, the sent bytes of the nonce do no harm. -/
theorem sentNonceMode_reads_back : ∃ records,
    (sentNonceMode .tls12).encryptAll twoMessages ⟨fun _ => 0, 0⟩ = .ok records
      ∧ (sentNonceMode .tls12).decryptAll ([.alert, .handshake].zip records)
        = .ok [[2, 40], [1, 2, 3]] := by
  have hencrypt : (sentNonceMode .tls12).encryptAll twoMessages ⟨fun _ => 0, 0⟩ = .ok _ := rfl
  exact ⟨_, hencrypt, (decryptAll_encryptAll_iff reached_zeroKeyEngine (create_sentNonceMode .tls12)
    (create_sentNonceMode .tls12) hencrypt).mpr (fun h => nomatch h)⟩

/-- Not all modes that were created alike read back each other's messages. -/
theorem not_forall_decryptAll_encryptAll :
    ¬ ∀ (kind : ModeKind) (engine : Engine) (auth : Authenticator) (iv : Bytes) (sentLength : Nat)
      (sender receiver : CipherMode) (messages : List (ContentType × Bytes))
      (random : RandomSource) (records : List Bytes),
      kind ≠ .cntImit → engine.Reached → create kind engine auth iv sentLength = .ok sender →
      create kind engine auth iv sentLength = .ok receiver →
      sender.encryptAll messages random = .ok records →
      receiver.decryptAll ((messages.map Prod.fst).zip records)
        = .ok (messages.map Prod.snd) := by
  intro h
  have hencrypt : (sentNonceMode .tls13).encryptAll [(.applicationData, [])] ⟨fun _ => 0, 0⟩
      = .ok [sentNonceRecord] := by
    decide +kernel
  have hdecrypt : (sentNonceMode .tls13).decryptAll [(.applicationData, sentNonceRecord)]
      = .error .badRecordMac := by
    decide +kernel
  have hback := h .gcm zeroKeyEngine _ _ _ _ _ _ _ _ (by decide) reached_zeroKeyEngine
    (create_sentNonceMode .tls13) (create_sentNonceMode .tls13) hencrypt
  rw [List.map_singleton, List.zip_cons_cons, List.zip_nil_right, hdecrypt] at hback
  cases hback

end CipherMode

end RecordProtection
