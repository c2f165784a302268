import RecordProtection.Mode.Cbc
import RecordProtection.Proofs.Block.Lawful
import RecordProtection.Proofs.Digest
import RecordProtection.Proofs.Padding

/-!
# Records in cipher block chaining

Decryption undoes encryption block by block, so a framed record is read back, and both ends go on
from the same block.  What decryption accepts is more than what encryption frames: padding that is
longer than the room behind the MAC runs into the MAC, and is accepted over empty content.
-/

namespace RecordProtection

/-! ### The chain of blocks -/

section Blocks

variable {cipher : BlockCipher} (hcipher : cipher.Lawful)
include hcipher

theorem length_of_mem_cbcEncryptBlocks {previous : Bytes} {blocks : List Bytes}
    (hprevious : previous.length = cipher.blockLength)
    (hblocks : ∀ block ∈ blocks, block.length = cipher.blockLength) :
    ∀ block ∈ cbcEncryptBlocks cipher previous blocks, block.length = cipher.blockLength := by
  induction blocks generalizing previous with
  | nil => simp [cbcEncryptBlocks]
  | cons block blocks ih =>
      have hencrypted : (cipher.encrypt (Bytes.xor block previous)).length = cipher.blockLength :=
        hcipher.length_encrypt _ (by simp [hprevious, hblocks block (by simp)])
      have htail := ih hencrypted fun other hother => hblocks other (by simp [hother])
      intro other hother
      rcases List.mem_cons.mp hother with rfl | hother
      · exact hencrypted
      · exact htail other hother

theorem length_of_mem_cbcDecryptBlocks {previous : Bytes} {blocks : List Bytes}
    (hprevious : previous.length = cipher.blockLength)
    (hblocks : ∀ block ∈ blocks, block.length = cipher.blockLength) :
    ∀ block ∈ cbcDecryptBlocks cipher previous blocks, block.length = cipher.blockLength := by
  induction blocks generalizing previous with
  | nil => simp [cbcDecryptBlocks]
  | cons block blocks ih =>
      have hblock := hblocks block (by simp)
      have htail := ih hblock fun other hother => hblocks other (by simp [hother])
      intro other hother
      rcases List.mem_cons.mp hother with rfl | hother
      · simp [hprevious, hcipher.length_decrypt block hblock]
      · exact htail other hother

/-- Each ciphertext block is known when the next one is decrypted. -/
theorem cbcDecryptBlocks_cbcEncryptBlocks {previous : Bytes} {blocks : List Bytes}
    (hprevious : previous.length = cipher.blockLength)
    (hblocks : ∀ block ∈ blocks, block.length = cipher.blockLength) :
    cbcDecryptBlocks cipher previous (cbcEncryptBlocks cipher previous blocks) = blocks := by
  induction blocks generalizing previous with
  | nil => rfl
  | cons block blocks ih =>
      have hblock := hblocks block (by simp)
      have hmasked : (Bytes.xor block previous).length = cipher.blockLength := by
        simp [hprevious, hblock]
      have htail := ih (hcipher.length_encrypt _ hmasked)
        fun other hother => hblocks other (by simp [hother])
      simp only [cbcEncryptBlocks, cbcDecryptBlocks, htail, hcipher.decrypt_encrypt _ hmasked]
      rw [Bytes.xor_xor_cancel (by omega)]

end Blocks

@[simp]
theorem length_cbcEncryptBlocks (cipher : BlockCipher) (previous : Bytes) (blocks : List Bytes) :
    (cbcEncryptBlocks cipher previous blocks).length = blocks.length := by
  induction blocks generalizing previous with
  | nil => rfl
  | cons block blocks ih => simp [cbcEncryptBlocks, ih]

@[simp]
theorem length_cbcDecryptBlocks (cipher : BlockCipher) (previous : Bytes) (blocks : List Bytes) :
    (cbcDecryptBlocks cipher previous blocks).length = blocks.length := by
  induction blocks generalizing previous with
  | nil => rfl
  | cons block blocks ih => simp [cbcDecryptBlocks, ih]

/-! ### Whole bodies -/

section Bodies

variable {cipher : BlockCipher} (hcipher : cipher.Lawful) {iv data : Bytes}
  (hiv : iv.length = cipher.blockLength) (hdata : cipher.blockLength ∣ data.length)
include hcipher hiv hdata

theorem length_cbcEncrypt : (cbcEncrypt cipher iv data).length = data.length := by
  have hchunks := Bytes.length_of_mem_chunks hcipher.blockLength_pos hdata
  rw [cbcEncrypt, Bytes.length_flatten (length_of_mem_cbcEncryptBlocks hcipher hiv hchunks),
    length_cbcEncryptBlocks, ← Bytes.length_flatten hchunks, Bytes.flatten_chunks]

theorem length_cbcDecrypt : (cbcDecrypt cipher iv data).length = data.length := by
  have hchunks := Bytes.length_of_mem_chunks hcipher.blockLength_pos hdata
  rw [cbcDecrypt, Bytes.length_flatten (length_of_mem_cbcDecryptBlocks hcipher hiv hchunks),
    length_cbcDecryptBlocks, ← Bytes.length_flatten hchunks, Bytes.flatten_chunks]

theorem cbcDecrypt_cbcEncrypt : cbcDecrypt cipher iv (cbcEncrypt cipher iv data) = data := by
  have hchunks := Bytes.length_of_mem_chunks hcipher.blockLength_pos hdata
  rw [cbcDecrypt, cbcEncrypt, Bytes.chunks_flatten hcipher.blockLength_pos _
    (length_of_mem_cbcEncryptBlocks hcipher hiv hchunks),
    cbcDecryptBlocks_cbcEncryptBlocks hcipher hiv hchunks, Bytes.flatten_chunks]

end Bodies

namespace Cbc

/-! ### What decryption accepts -/

/-- Decrypted bytes that are content, its MAC, and padding. -/
def Framed (auth : Authenticator) (type : ContentType) (decrypted content : Bytes) : Prop :=
  ∃ value, decrypted = content ++ auth.computeMac type content ++ paddingOf value

/-- Decrypted bytes that start with the MAC of empty content and end in padding that reaches into
this MAC. -/
structure Overlapped (auth : Authenticator) (type : ContentType) (decrypted : Bytes) : Prop where
  mac : auth.computeMac type [] <+: decrypted
  room : auth.macLength < decrypted.length
  padding : ∃ value, paddingOf value <:+ decrypted
    ∧ decrypted.length < auth.macLength + (paddingOf value).length

theorem not_overlapped_of_framed {auth : Authenticator} {type : ContentType}
    {decrypted content : Bytes} (hframed : Framed auth type decrypted content) :
    ¬ Overlapped auth type decrypted := by
  rintro ⟨-, -, other, ⟨front, hsuffix⟩, hlong⟩
  obtain ⟨value, hdecrypted⟩ := hframed
  obtain ⟨hfront, rfl⟩ := append_paddingOf_inj (hsuffix.trans hdecrypted)
  rw [hdecrypted] at hlong
  simp only [List.length_append, Authenticator.length_computeMac] at hlong
  omega

theorem checkPaddedMac_eq_ok_iff {auth : Authenticator} {type : ContentType} {decrypted : Bytes}
    {contentLength : Nat} {valid : Bool} :
    auth.checkPaddedMac type decrypted contentLength valid = .ok ()
      ↔ valid = true ∧ contentLength + auth.macLength ≤ decrypted.length
        ∧ auth.computeMac type (decrypted.take contentLength)
          = (decrypted.drop contentLength).take auth.macLength := by
  cases valid with
  | false => simp [Authenticator.checkPaddedMac]
  | true =>
      simp only [Authenticator.checkPaddedMac, Bool.not_true, Bool.false_eq_true, if_false,
        true_and]
      split
      · rename_i hmac
        simpa using hmac
      · rename_i hmac
        simpa using hmac

theorem unframe_eq_ok_iff_checks {auth : Authenticator} {type : ContentType}
    {decrypted content : Bytes} :
    unframe auth type decrypted = .ok content
      ↔ ∃ length, checkPadding decrypted = (true, length)
        ∧ length - auth.macLength + auth.macLength ≤ decrypted.length
        ∧ content = decrypted.take (length - auth.macLength)
        ∧ auth.computeMac type content
          = (decrypted.drop (length - auth.macLength)).take auth.macLength := by
  rcases hcheck : checkPadding decrypted with ⟨valid, length⟩
  simp only [unframe, hcheck]
  split
  · rename_i hmac
    rw [checkPaddedMac_eq_ok_iff] at hmac
    obtain ⟨rfl, hroom, hmac⟩ := hmac
    constructor
    · intro h
      cases h
      exact ⟨length, rfl, hroom, rfl, hmac⟩
    · rintro ⟨other, hother, -, rfl, -⟩
      cases hother
      rfl
  · rename_i e hmac
    constructor
    · intro h
      cases h
    · rintro ⟨other, hother, hroom, rfl, hcontent⟩
      cases hother
      rw [checkPaddedMac_eq_ok_iff.mpr ⟨rfl, hroom, hcontent⟩] at hmac
      cases hmac

theorem unframe_of_framed {auth : Authenticator} {type : ContentType} {decrypted content : Bytes}
    (hframed : Framed auth type decrypted content) :
    unframe auth type decrypted = .ok content := by
  obtain ⟨value, rfl⟩ := hframed
  have hlength : (content ++ auth.computeMac type content).length - auth.macLength
      = content.length := by
    simp
  rw [unframe_eq_ok_iff_checks]
  refine ⟨_, checkPadding_append_paddingOf _ value, ?_, ?_, ?_⟩
  · rw [hlength]
    simp
  · rw [hlength, List.append_assoc, List.take_left]
  · rw [hlength, List.append_assoc, List.drop_left,
      List.take_left' (auth.length_computeMac type content)]

/-- The saturated content length is zero, and the MAC is looked for at the start. -/
theorem unframe_of_overlapped {auth : Authenticator} {type : ContentType} {decrypted : Bytes}
    (h : Overlapped auth type decrypted) : unframe auth type decrypted = .ok [] := by
  obtain ⟨⟨rest, hmac⟩, hroom, value, ⟨front, hpadding⟩, hlong⟩ := h
  have hfront : front.length - auth.macLength = 0 := by
    have hlength := congrArg List.length hpadding
    simp only [List.length_append] at hlength
    omega
  rw [unframe_eq_ok_iff_checks]
  refine ⟨front.length, ?_, ?_, ?_, ?_⟩
  · rw [← hpadding, checkPadding_append_paddingOf]
  · omega
  · rw [hfront, List.take_zero]
  · rw [hfront, List.drop_zero, ← hmac, List.take_left' (auth.length_computeMac type [])]

/-- Where there is room for a MAC and a byte of padding, exactly framed content is accepted, and
empty content whose MAC overlaps with the padding. -/
theorem unframe_eq_ok_iff {auth : Authenticator} {type : ContentType} {decrypted content : Bytes}
    (hroom : auth.macLength < decrypted.length) :
    unframe auth type decrypted = .ok content
      ↔ Framed auth type decrypted content ∨ content = [] ∧ Overlapped auth type decrypted := by
  constructor
  · intro h
    obtain ⟨length, hcheck, hfits, rfl, hmac⟩ := unframe_eq_ok_iff_checks.mp h
    obtain ⟨value, hpadding⟩ := eq_append_paddingOf_of_checkPadding hcheck
    have hsum := congrArg List.length hpadding
    rw [List.length_append, List.length_take, length_paddingOf] at hsum
    by_cases hlong : auth.macLength ≤ length
    · left
      refine ⟨value, ?_⟩
      -- the unpadded bytes are the content and the MAC
      have hsplit : decrypted.take length = decrypted.take (length - auth.macLength)
          ++ (decrypted.drop (length - auth.macLength)).take auth.macLength := by
        rw [← List.take_add, Nat.sub_add_cancel hlong]
      rw [hmac, ← hsplit]
      exact hpadding
    · right
      have hzero : length - auth.macLength = 0 := by omega
      rw [hzero, List.take_zero, List.drop_zero] at hmac
      refine ⟨by rw [hzero, List.take_zero], ?_, hroom, value, ?_, ?_⟩
      · rw [hmac]
        exact List.take_prefix _ _
      · exact ⟨_, hpadding.symm⟩
      · rw [length_paddingOf]
        omega
  · rintro (hframed | ⟨rfl, hoverlapped⟩)
    · exact unframe_of_framed hframed
    · exact unframe_of_overlapped hoverlapped

/-! ### Whole records -/

/-- The chain always holds a block. -/
structure Lawful (cbc : Cbc) : Prop where
  cipher : cbc.cipher.Lawful
  chain : ∀ initial current, cbc.chaining = .chained initial current →
    initial.length = cbc.cipher.blockLength ∧ current.length = cbc.cipher.blockLength

theorem lawful_of_create {cipher : BlockCipher} {iv : Bytes} {explicitIV : Bool} {cbc : Cbc}
    (hcipher : cipher.Lawful) (hcreate : create cipher iv explicitIV = .ok cbc) : cbc.Lawful := by
  unfold create at hcreate
  split at hcreate
  · cases hcreate
    exact ⟨hcipher, by rintro _ _ ⟨⟩⟩
  · split at hcreate
    · rename_i hiv
      cases hcreate
      refine ⟨hcipher, ?_⟩
      rintro _ _ ⟨⟩
      exact ⟨hiv, hiv⟩
    · cases hcreate

@[simp]
theorem cipher_continueFrom (cbc : Cbc) (body : Bytes) :
    (cbc.continueFrom body).cipher = cbc.cipher := by
  unfold continueFrom
  split <;> rfl

theorem Lawful.continueFrom {cbc : Cbc} (hcbc : cbc.Lawful) {body : Bytes}
    (hbody : cbc.cipher.blockLength ≤ body.length) : (cbc.continueFrom body).Lawful := by
  unfold Cbc.continueFrom
  split
  · exact hcbc
  · rename_i initial current hchaining
    refine ⟨hcbc.cipher, ?_⟩
    rintro _ _ ⟨⟩
    refine ⟨(hcbc.chain initial current hchaining).1, ?_⟩
    rw [lastBlock, List.length_drop]
    exact Nat.sub_sub_self hbody

theorem Lawful.reset {cbc : Cbc} (hcbc : cbc.Lawful) : cbc.reset.Lawful := by
  unfold Cbc.reset
  split
  · exact hcbc
  · rename_i initial current hchaining
    refine ⟨hcbc.cipher, ?_⟩
    rintro _ _ ⟨⟩
    have hinitial := (hcbc.chain initial current hchaining).1
    exact ⟨hinitial, hinitial⟩

theorem Lawful.length_iv {cbc : Cbc} (hcbc : cbc.Lawful) {record iv body : Bytes}
    (hsplit : cbc.split record = .ok (iv, body)) : iv.length = cbc.cipher.blockLength := by
  unfold split at hsplit
  split at hsplit
  · split at hsplit
    · cases hsplit
    · cases hsplit
      rw [List.length_take]
      omega
  · rename_i initial current hchaining
    cases hsplit
    exact (hcbc.chain initial _ hchaining).2

/-- A body of whole blocks is long enough exactly if it is longer than the MAC. -/
theorem lt_minBodyLength_iff {cbc : Cbc} (hcbc : cbc.Lawful) {auth : Authenticator} {length : Nat}
    (hwhole : cbc.cipher.blockLength ∣ length) :
    length < cbc.minBodyLength auth ↔ length ≤ auth.macLength := by
  have hpos := hcbc.cipher.blockLength_pos
  obtain ⟨count, rfl⟩ := hwhole
  simp only [minBodyLength]
  rw [Nat.mul_comm, Nat.mul_lt_mul_right hpos, Nat.lt_iff_add_one_le, Nat.le_div_iff_mul_le hpos,
    Nat.add_mul]
  omega

/-- A record that is content, MAC and padding in whole blocks, behind its IV. -/
def InGrammar (cbc : Cbc) (auth : Authenticator) (type : ContentType) (record content : Bytes) :
    Prop :=
  ∃ iv body, cbc.split record = .ok (iv, body) ∧ cbc.cipher.blockLength ∣ body.length
    ∧ Framed auth type (cbcDecrypt cbc.cipher iv body) content

/-- A record of whole blocks whose padding reaches into the MAC of empty content. -/
def Overlaps (cbc : Cbc) (auth : Authenticator) (type : ContentType) (record : Bytes) : Prop :=
  ∃ iv body, cbc.split record = .ok (iv, body) ∧ cbc.cipher.blockLength ∣ body.length
    ∧ Overlapped auth type (cbcDecrypt cbc.cipher iv body)

theorem not_overlaps_of_inGrammar {cbc : Cbc} {auth : Authenticator} {type : ContentType}
    {record content : Bytes} (hgrammar : cbc.InGrammar auth type record content) :
    ¬ cbc.Overlaps auth type record := by
  obtain ⟨iv, body, hsplit, -, hframed⟩ := hgrammar
  rintro ⟨iv', body', hsplit', -, hoverlapped⟩
  rw [hsplit] at hsplit'
  cases hsplit'
  exact not_overlapped_of_framed hframed hoverlapped

/-- Decryption accepts exactly the grammar, and overlaps as empty content. -/
theorem decrypt_eq_ok_iff {cbc : Cbc} (hcbc : cbc.Lawful) {auth : Authenticator}
    {type : ContentType} {record content : Bytes} :
    (cbc.decrypt auth type record).1 = .ok content
      ↔ cbc.InGrammar auth type record content
        ∨ content = [] ∧ cbc.Overlaps auth type record := by
  cases hsplit : cbc.split record with
  | error e => simp [decrypt, InGrammar, Overlaps, hsplit]
  | ok parts =>
      obtain ⟨iv, body⟩ := parts
      have hiv := hcbc.length_iv hsplit
      simp only [decrypt, InGrammar, Overlaps, hsplit, Except.ok.injEq, Prod.mk.injEq]
      by_cases hwhole : cbc.cipher.blockLength ∣ body.length
      · have hlength := length_cbcDecrypt hcbc.cipher hiv hwhole
        by_cases hshort : body.length < cbc.minBodyLength auth
        · -- too short for either form
          have hmac := (lt_minBodyLength_iff hcbc hwhole).mp hshort
          rw [if_pos hshort]
          refine ⟨fun h => (nomatch h), ?_⟩
          rintro (⟨_, _, ⟨rfl, rfl⟩, -, value, hframed⟩ | ⟨-, _, _, ⟨rfl, rfl⟩, -, -, hroom, -⟩)
          · rw [hframed] at hlength
            simp at hlength
            omega
          · omega
        · rw [if_neg hshort, if_neg (by simpa using Nat.mod_eq_zero_of_dvd hwhole)]
          rw [lt_minBodyLength_iff hcbc hwhole] at hshort
          rw [unframe_eq_ok_iff (by omega)]
          constructor
          · rintro (hframed | ⟨rfl, hoverlapped⟩)
            · exact .inl ⟨iv, body, ⟨rfl, rfl⟩, hwhole, hframed⟩
            · exact .inr ⟨rfl, iv, body, ⟨rfl, rfl⟩, hwhole, hoverlapped⟩
          · rintro (⟨_, _, ⟨rfl, rfl⟩, -, hframed⟩ | ⟨rfl, _, _, ⟨rfl, rfl⟩, -, hoverlapped⟩)
            · exact .inl hframed
            · exact .inr ⟨rfl, hoverlapped⟩
      · have hmod : body.length % cbc.cipher.blockLength ≠ 0 := fun hmod =>
          hwhole (Nat.dvd_of_mod_eq_zero hmod)
        rw [if_pos hmod]
        constructor
        · intro h
          split at h <;> cases h
        · rintro (⟨_, _, ⟨rfl, rfl⟩, hdvd, -⟩ | ⟨-, _, _, ⟨rfl, rfl⟩, hdvd, -⟩)
          · exact absurd hdvd hwhole
          · exact absurd hdvd hwhole

/-! ### Both ends stay in step -/

section Framing

variable {cbc : Cbc} (hcbc : cbc.Lawful) (auth : Authenticator) (type : ContentType)
  (plaintext : Bytes)
include hcbc

theorem framed_frame : Framed auth type (cbc.frame auth type plaintext) plaintext :=
  ⟨_, addPadding_eq hcbc.cipher.blockLength_pos
    (Nat.le_trans hcbc.cipher.blockLength_le (by decide)) _⟩

theorem dvd_length_frame : cbc.cipher.blockLength ∣ (cbc.frame auth type plaintext).length :=
  dvd_length_addPadding hcbc.cipher.blockLength_pos _

theorem macLength_lt_length_frame :
    auth.macLength < (cbc.frame auth type plaintext).length := by
  obtain ⟨value, hframe⟩ := framed_frame hcbc auth type plaintext
  rw [hframe]
  simp
  omega

theorem blockLength_le_length_frame :
    cbc.cipher.blockLength ≤ (cbc.frame auth type plaintext).length := by
  have hroom := macLength_lt_length_frame hcbc auth type plaintext
  exact Nat.le_of_dvd (by omega) (dvd_length_frame hcbc auth type plaintext)

theorem decrypt_of_split {record iv : Bytes} (hiv : iv.length = cbc.cipher.blockLength)
    (hsplit : cbc.split record
      = .ok (iv, cbcEncrypt cbc.cipher iv (cbc.frame auth type plaintext))) :
    cbc.decrypt auth type record
      = (.ok plaintext, cbc.continueFrom
          (cbcEncrypt cbc.cipher iv (cbc.frame auth type plaintext))) := by
  have hwhole := dvd_length_frame hcbc auth type plaintext
  have hlength := length_cbcEncrypt hcbc.cipher hiv hwhole
  have hroom := macLength_lt_length_frame hcbc auth type plaintext
  have hmin : ¬ (cbc.frame auth type plaintext).length < cbc.minBodyLength auth := by
    rw [lt_minBodyLength_iff hcbc hwhole]
    omega
  simp only [decrypt, hsplit, hlength]
  rw [if_neg hmin, if_neg (by simpa using Nat.mod_eq_zero_of_dvd hwhole),
    cbcDecrypt_cbcEncrypt hcbc.cipher hiv hwhole,
    unframe_of_framed (framed_frame hcbc auth type plaintext)]

/-- The receiver reads the record back, and goes on from the same block as the sender. -/
theorem decrypt_encrypt (random : RandomSource) :
    cbc.decrypt auth type (cbc.encrypt auth type plaintext random).1
      = (.ok plaintext, (cbc.encrypt auth type plaintext random).2.1) := by
  cases hchaining : cbc.chaining with
  | explicit =>
      have hiv := random.length_take cbc.cipher.blockLength
      have hsplit : cbc.split ((random.take cbc.cipher.blockLength).1 ++ cbcEncrypt cbc.cipher
          (random.take cbc.cipher.blockLength).1 (cbc.frame auth type plaintext))
          = .ok ((random.take cbc.cipher.blockLength).1, cbcEncrypt cbc.cipher
            (random.take cbc.cipher.blockLength).1 (cbc.frame auth type plaintext)) := by
        simp only [split, hchaining, List.length_append, hiv]
        rw [if_neg (by omega), List.take_left' hiv, List.drop_left' hiv]
      have hdecrypt := decrypt_of_split hcbc auth type plaintext hiv hsplit
      simp only [encrypt, hchaining]
      rw [hdecrypt]
      simp only [continueFrom, hchaining]
  | chained initial current =>
      have hcurrent := (hcbc.chain initial current hchaining).2
      have hsplit : ∀ record, cbc.split record = .ok (current, record) := fun record => by
        simp only [split, hchaining]
      have hdecrypt := decrypt_of_split hcbc auth type plaintext hcurrent (hsplit _)
      simp only [encrypt, hchaining]
      exact hdecrypt

theorem Lawful.encrypt (random : RandomSource) :
    (cbc.encrypt auth type plaintext random).2.1.Lawful := by
  unfold Cbc.encrypt
  split
  · exact hcbc
  · rename_i initial current hchaining
    refine hcbc.continueFrom ?_
    rw [length_cbcEncrypt hcbc.cipher (hcbc.chain initial current hchaining).2
      (dvd_length_frame hcbc auth type plaintext)]
    exact blockLength_le_length_frame hcbc auth type plaintext

end Framing

theorem blockLength_le_minBodyLength {cbc : Cbc} (hcbc : cbc.Lawful) (auth : Authenticator) :
    cbc.cipher.blockLength ≤ cbc.minBodyLength auth := by
  have hpos := hcbc.cipher.blockLength_pos
  refine Nat.le_mul_of_pos_left _ (Nat.div_pos ?_ hpos)
  omega

theorem Lawful.decrypt {cbc : Cbc} (hcbc : cbc.Lawful) (auth : Authenticator) (type : ContentType)
    (record : Bytes) : (cbc.decrypt auth type record).2.Lawful := by
  have hblock := blockLength_le_minBodyLength hcbc auth
  unfold Cbc.decrypt
  split
  · exact hcbc
  · split
    · exact hcbc
    · split
      · exact hcbc
      · exact hcbc.continueFrom (by omega)

end Cbc

end RecordProtection
