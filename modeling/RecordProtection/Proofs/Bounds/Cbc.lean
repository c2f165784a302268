import RecordProtection.Proofs.Bounds.Authenticator
import RecordProtection.Proofs.Bounds.Cipher
import RecordProtection.Proofs.Mode.Cbc

/-!
# Chained blocks within bounds

The receiver of a record looks for its padding at the end of whatever the blocks decrypt to, so the
positions that it looks at come from a byte that the sender chose.  They stay in the buffer because
no more than its own length, and no more than the 256 bytes that padding can have, is ever looked
at; the rest follows from the checks of the body's length and from the chain being a block.
-/

namespace RecordProtection

open Guarded

/-! ### Padding -/

def guardedAddPadding (blockLength : Nat) (content : Bytes) : Guarded Bytes := do
  let rest ← mod (← add content.length 1) blockLength
  let padding ← mod (← sub blockLength rest) blockLength
  let length ← add (← add content.length padding) 1
  return Buffer.resize content length (UInt8.ofNat (← fit 256 padding))

/-- Looks at bytes counted from the end; those that belong to the padding have to be its value. -/
def scanPadding (padded : Bytes) (last : UInt8) : List Nat → (valid : Bool) → Guarded Bool
  | [], valid => .ok valid
  | i :: rest, valid => do
      let byte ← Buffer.get padded (← sub (← sub padded.length 1) i)
      let inPadding := !decide (last < UInt8.ofNat (← fit 256 i))
      scanPadding padded last rest (valid && (!inPadding || byte == last))

/-- All of the bytes that padding can have are looked at, whatever length it claims. -/
def guardedCheckPadding (padded : Bytes) : Guarded (Bool × Nat) :=
  match padded.getLast? with
  | none => return (false, 0)
  | some last => do
      let valid ← scanPadding padded last (List.range (min padded.length 256))
        (decide (last.toNat < padded.length))
      return (valid, if valid then padded.length - (last.toNat + 1) else padded.length - 1)

theorem guardedAddPadding_eq_ok {blockLength : Nat} (hblock : 0 < blockLength)
    (hbyte : blockLength ≤ 256) {content : Bytes} (hcontent : content.length < 2 ^ 31) :
    guardedAddPadding blockLength content = .ok (addPadding blockLength content) := by
  have hrest := Nat.mod_lt (content.length + 1) hblock
  have hvalue := paddingValue_lt hblock content.length
  have hone : content.length + 1 < lengthBound := by
    simp only [lengthBound]
    omega
  have hpadded : content.length + paddingValue blockLength content.length < lengthBound := by
    simp only [lengthBound]
    omega
  have hlength : content.length + paddingValue blockLength content.length + 1 < lengthBound := by
    simp only [lengthBound]
    omega
  have hgrown : content.length ≤ content.length + paddingValue blockLength content.length + 1 := by
    omega
  have hvalueMod : (blockLength - (content.length + 1) % blockLength) % blockLength
      = paddingValue blockLength content.length := rfl
  simp only [guardedAddPadding, add_eq_ok hone, mod_eq_ok hblock, sub_eq_ok hrest.le, ok_bind,
    hvalueMod, add_eq_ok hpadded, add_eq_ok hlength, fit_eq_ok (Nat.lt_of_lt_of_le hvalue hbyte),
    pure_eq_ok, Buffer.resize_of_le hgrown, addPadding]
  rw [Nat.add_assoc, Nat.add_sub_cancel_left]

theorem scanPadding_eq_ok {padded : Bytes} {indices : List Nat}
    (hindices : ∀ i ∈ indices, i < padded.length ∧ i < 256) (last : UInt8) (valid : Bool) :
    scanPadding padded last indices valid
      = .ok (valid && indices.all fun i =>
          decide (last.toNat < i) || padded[padded.length - 1 - i]? == some last) := by
  induction indices generalizing valid with
  | nil => simp [scanPadding]
  | cons i indices ih =>
      obtain ⟨hlong, hbyte⟩ := hindices i (by simp)
      have hrest := ih fun other hother => hindices other (by simp [hother])
      have hposition : padded.length - 1 - i < padded.length := by omega
      have hmore : last < UInt8.ofNat i ↔ last.toNat < i := by
        rw [UInt8.lt_iff_toNat_lt, UInt8.toNat_ofNat_of_lt' hbyte]
      have hone : 1 ≤ padded.length := by omega
      have hback : i ≤ padded.length - 1 := by omega
      simp only [scanPadding, sub_eq_ok hone, sub_eq_ok hback, Buffer.get_eq_ok hposition,
        fit_eq_ok hbyte, ok_bind, hrest, hmore, Bool.not_not, List.all_cons,
        List.getElem?_eq_getElem hposition, Option.some_beq_some, Bool.and_assoc]

/-- The bytes of the padding are those that are no further from the end than its value. -/
theorem all_range_iff_all_drop {padded : Bytes} {last : UInt8}
    (hlast : last.toNat < padded.length) :
    ((List.range (min padded.length 256)).all fun i =>
        decide (last.toNat < i) || padded[padded.length - 1 - i]? == some last)
      = (padded.drop (padded.length - (last.toNat + 1))).all (· == last) := by
  have hbyte := last.toNat_lt
  rw [Bool.eq_iff_iff, List.all_eq_true, List.all_eq_true]
  constructor
  · intro h byte hmem
    obtain ⟨k, hk, rfl⟩ := List.mem_iff_getElem.mp hmem
    rw [List.length_drop] at hk
    have hin := h (last.toNat - k) (List.mem_range.mpr (by omega))
    have hposition : padded.length - 1 - (last.toNat - k)
        = padded.length - (last.toNat + 1) + k := by omega
    rw [hposition, List.getElem?_eq_getElem (by omega)] at hin
    have hnear : ¬ last.toNat < last.toNat - k := by omega
    rw [List.getElem_drop]
    simpa [hnear] using hin
  · intro h i hi
    rw [List.mem_range] at hi
    by_cases hfar : last.toNat < i
    · simp [hfar]
    · have hposition : padded.length - 1 - i < padded.length := by omega
      have hmem : padded[padded.length - 1 - i]
          ∈ padded.drop (padded.length - (last.toNat + 1)) := by
        refine List.mem_iff_getElem.mpr ⟨last.toNat - i, by rw [List.length_drop]; omega, ?_⟩
        rw [List.getElem_drop]
        congr 1
        omega
      have hequal := h _ hmem
      rw [List.getElem?_eq_getElem hposition, Option.some_beq_some, hequal, Bool.or_true]

theorem guardedCheckPadding_eq_ok (padded : Bytes) :
    guardedCheckPadding padded = .ok (checkPadding padded) := by
  unfold guardedCheckPadding checkPadding
  cases hlast : padded.getLast? with
  | none => rfl
  | some last =>
      have hindices : ∀ i ∈ List.range (min padded.length 256), i < padded.length ∧ i < 256 := by
        intro i hi
        rw [List.mem_range] at hi
        omega
      simp only [scanPadding_eq_ok hindices, ok_bind, pure_eq_ok]
      by_cases hshort : last.toNat < padded.length
      · rw [all_range_iff_all_drop hshort]
        simp only [hshort, decide_true, Bool.true_and, true_and]
        cases hall : (padded.drop (padded.length - (last.toNat + 1))).all (· == last) <;> rfl
      · simp [hshort]

theorem checkPadding_le (padded : Bytes) : (checkPadding padded).2 ≤ padded.length := by
  unfold checkPadding
  split
  · exact Nat.zero_le _
  · dsimp only
    split <;> exact Nat.sub_le _ _

/-! ### Blocks -/

namespace KeyedCipher

variable (keyed : KeyedCipher)

def guardedEncryptBlocks : (previous : Bytes) → List Bytes → Guarded (List Bytes)
  | _, [] => .ok []
  | previous, block :: rest => do
      let encrypted ← keyed.guardedEncrypt (Buffer.mask block previous)
      let previous ← Buffer.copy previous encrypted
      return encrypted :: (← guardedEncryptBlocks previous rest)

/-- A block is saved before it is decrypted in place, and the buffers of the saved block and of the
one before it change places. -/
def guardedDecryptBlocks : (previous saved : Bytes) → List Bytes → Guarded (List Bytes)
  | _, _, [] => .ok []
  | previous, saved, block :: rest => do
      let saved ← Buffer.copy saved block
      let decrypted ← keyed.guardedDecrypt block
      return Buffer.mask decrypted previous :: (← guardedDecryptBlocks saved previous rest)

def guardedEncryptBody (iv data : Bytes) : Guarded Bytes := do
  let blocks ← Buffer.chunks keyed.blockLength data
  return (← keyed.guardedEncryptBlocks iv blocks).flatten

def guardedDecryptBody (iv data : Bytes) : Guarded Bytes := do
  let blocks ← Buffer.chunks keyed.blockLength data
  return (← keyed.guardedDecryptBlocks iv (Bytes.zeros keyed.blockLength) blocks).flatten

variable {previous saved : Bytes} (hprevious : previous.length = keyed.blockLength)
include hprevious

theorem guardedEncryptBlocks_eq_ok {blocks : List Bytes}
    (hblocks : ∀ block ∈ blocks, block.length = keyed.blockLength) :
    keyed.guardedEncryptBlocks previous blocks
      = .ok (cbcEncryptBlocks keyed.cipher previous blocks) := by
  induction blocks generalizing previous with
  | nil => rfl
  | cons block blocks ih =>
      have hblock := hblocks block (by simp)
      have hmask : (Bytes.xor block previous).length = keyed.blockLength := by
        simp [hprevious, hblock]
      have hencrypted := keyed.lawful.length_encrypt _ hmask
      have hrest := ih hencrypted fun other hother => hblocks other (by simp [hother])
      simp only [guardedEncryptBlocks, Buffer.mask_eq_xor (hblock.trans hprevious.symm).le,
        keyed.guardedEncrypt_eq_ok hmask, Buffer.copy_eq_ok (hprevious.trans hencrypted.symm),
        hrest, ok_bind, pure_eq_ok, cbcEncryptBlocks]

theorem guardedDecryptBlocks_eq_ok (hsaved : saved.length = keyed.blockLength)
    {blocks : List Bytes} (hblocks : ∀ block ∈ blocks, block.length = keyed.blockLength) :
    keyed.guardedDecryptBlocks previous saved blocks
      = .ok (cbcDecryptBlocks keyed.cipher previous blocks) := by
  induction blocks generalizing previous saved with
  | nil => rfl
  | cons block blocks ih =>
      have hblock := hblocks block (by simp)
      have hdecrypted := keyed.lawful.length_decrypt block hblock
      have hrest := ih hblock hprevious fun other hother => hblocks other (by simp [hother])
      simp only [guardedDecryptBlocks, Buffer.copy_eq_ok (hsaved.trans hblock.symm),
        keyed.guardedDecrypt_eq_ok hblock, hrest, ok_bind, pure_eq_ok,
        Buffer.mask_eq_xor (hdecrypted.trans hprevious.symm).le, cbcDecryptBlocks]

variable {data : Bytes} (hdata : keyed.blockLength ∣ data.length)
include hdata

theorem guardedEncryptBody_eq_ok :
    keyed.guardedEncryptBody previous data = .ok (cbcEncrypt keyed.cipher previous data) := by
  have hpos : 0 < keyed.blockLength := keyed.lawful.blockLength_pos
  simp only [guardedEncryptBody, Buffer.chunks_eq_ok hpos, ok_bind, pure_eq_ok,
    keyed.guardedEncryptBlocks_eq_ok hprevious (Bytes.length_of_mem_chunks hpos hdata)]
  rfl

theorem guardedDecryptBody_eq_ok :
    keyed.guardedDecryptBody previous data = .ok (cbcDecrypt keyed.cipher previous data) := by
  have hpos : 0 < keyed.blockLength := keyed.lawful.blockLength_pos
  simp only [guardedDecryptBody, Buffer.chunks_eq_ok hpos, ok_bind, pure_eq_ok,
    keyed.guardedDecryptBlocks_eq_ok hprevious (Bytes.length_zeros _)
      (Bytes.length_of_mem_chunks hpos hdata)]
  rfl

end KeyedCipher

/-! ### Records -/

namespace Cbc

/-- The content length is a difference that stops at zero. -/
def guardedUnframe (auth : Authenticator) (type : ContentType) (decrypted : Bytes) :
    Guarded (Except RecordError Bytes) := do
  let (paddingValid, unpaddedLength) ← guardedCheckPadding decrypted
  let contentLength := unpaddedLength - auth.macLength
  match ← auth.guardedCheckPaddedMac type decrypted contentLength paddingValid with
  | .ok () => return .ok (decrypted.take contentLength)
  | .error e => return .error e

theorem guardedUnframe_eq_ok (auth : Authenticator) (type : ContentType) {decrypted : Bytes}
    (hdecrypted : decrypted.length < lengthFieldBound) :
    guardedUnframe auth type decrypted = .ok (unframe auth type decrypted) := by
  have hunpadded := checkPadding_le decrypted
  have hcontent : (checkPadding decrypted).2 - auth.macLength ≤ decrypted.length :=
    Nat.le_trans (Nat.sub_le _ _) hunpadded
  cases hmac : auth.checkPaddedMac type decrypted ((checkPadding decrypted).2 - auth.macLength)
      (checkPadding decrypted).1 <;>
    simp only [guardedUnframe, guardedCheckPadding_eq_ok, ok_bind,
      auth.guardedCheckPaddedMac_eq_ok type hdecrypted hcontent, hmac, unframe, pure_eq_ok]

theorem cipher_of_create {cipher : BlockCipher} {iv : Bytes} {explicitIV : Bool} {cbc : Cbc}
    (hcreate : create cipher iv explicitIV = .ok cbc) : cbc.cipher = cipher := by
  unfold create at hcreate
  split at hcreate
  · cases hcreate
    rfl
  · split at hcreate <;> cases hcreate
    rfl

theorem cipher_encrypt (cbc : Cbc) (auth : Authenticator) (type : ContentType) (plaintext : Bytes)
    (random : RandomSource) :
    (cbc.encrypt auth type plaintext random).2.1.cipher = cbc.cipher := by
  unfold Cbc.encrypt
  split
  · rfl
  · exact cipher_continueFrom _ _

theorem cipher_decrypt (cbc : Cbc) (auth : Authenticator) (type : ContentType) (record : Bytes) :
    (cbc.decrypt auth type record).2.cipher = cbc.cipher := by
  unfold Cbc.decrypt
  split
  · rfl
  · split
    · rfl
    · split
      · rfl
      · exact cipher_continueFrom _ _

theorem length_body_le {cbc : Cbc} {record iv body : Bytes}
    (hsplit : cbc.split record = .ok (iv, body)) : body.length ≤ record.length := by
  unfold Cbc.split at hsplit
  split at hsplit
  · split at hsplit
    · cases hsplit
    · cases hsplit
      rw [List.length_drop]
      exact Nat.sub_le _ _
  · cases hsplit
    exact Nat.le_refl _

end Cbc

namespace KeyedCipher

variable (keyed : KeyedCipher) (chaining : CbcChaining) (auth : Authenticator) (type : ContentType)

abbrev cbc : Cbc := ⟨keyed.cipher, chaining⟩

def guardedLastBlock (body : Bytes) : Guarded Bytes := do
  Buffer.slice body (← sub body.length keyed.blockLength) body.length

/-- Where each record starts with its own IV, room for it is left at the front and cut off again
before the padding is added. -/
def guardedCbcEncrypt (plaintext : Bytes) (random : RandomSource) :
    Guarded (Bytes × Cbc × RandomSource) := do
  let mac ← auth.guardedComputeMac type plaintext
  match chaining with
  | .explicit =>
      let room := Bytes.zeros keyed.blockLength
      let (room, content) ← Buffer.splitAt (room ++ (plaintext ++ mac)) keyed.blockLength
      let framed ← guardedAddPadding keyed.blockLength content
      let (iv, random) := random.take room.length
      let body ← keyed.guardedEncryptBody iv framed
      return (iv ++ body, keyed.cbc .explicit, random)
  | .chained initial current =>
      let (room, content) ← Buffer.splitAt (plaintext ++ mac) 0
      let framed ← guardedAddPadding keyed.blockLength content
      let body ← keyed.guardedEncryptBody current framed
      let last ← keyed.guardedLastBlock body
      return (room ++ body, keyed.cbc (.chained initial last), random)

def guardedCbcSplit (record : Bytes) : Guarded (Except RecordError (Bytes × Bytes)) :=
  match chaining with
  | .explicit =>
      if record.length < keyed.blockLength then return .error (.recordTooShort record.length)
      else do
        return .ok (← Buffer.splitAt record keyed.blockLength)
  | .chained _ current => return .ok (current, record)

def guardedMinBodyLength : Guarded Nat := do
  mul (← divCeil (← add auth.macLength 1) keyed.blockLength) keyed.blockLength

def guardedContinueFrom (body : Bytes) : Guarded Cbc :=
  match chaining with
  | .explicit => return keyed.cbc .explicit
  | .chained initial _ => do
      return keyed.cbc (.chained initial (← keyed.guardedLastBlock body))

def guardedCbcDecrypt (record : Bytes) : Guarded (Except RecordError Bytes × Cbc) := do
  match ← keyed.guardedCbcSplit chaining record with
  | .error e => return (.error e, keyed.cbc chaining)
  | .ok (iv, body) =>
      if body.length < (← keyed.guardedMinBodyLength auth) then
        return (.error (.recordTooShort record.length), keyed.cbc chaining)
      else if (← mod body.length keyed.blockLength) ≠ 0 then
        return (.error .badRecordMac, keyed.cbc chaining)
      else
        let next ← keyed.guardedContinueFrom chaining body
        let decrypted ← keyed.guardedDecryptBody iv body
        return (← Cbc.guardedUnframe auth type decrypted, next)

/-! ### Records within bounds -/

theorem guardedLastBlock_eq_ok {body : Bytes} (hbody : keyed.blockLength ≤ body.length) :
    keyed.guardedLastBlock body = .ok ((keyed.cbc chaining).lastBlock body) := by
  simp only [guardedLastBlock, sub_eq_ok hbody, ok_bind, Buffer.slice_back (Nat.sub_le _ _)]
  rfl

theorem guardedContinueFrom_eq_ok {body : Bytes} (hbody : keyed.blockLength ≤ body.length) :
    keyed.guardedContinueFrom chaining body = .ok ((keyed.cbc chaining).continueFrom body) := by
  cases chaining with
  | explicit => rfl
  | chained initial current =>
      simp only [guardedContinueFrom,
        keyed.guardedLastBlock_eq_ok (.chained initial current) hbody, ok_bind, pure_eq_ok]
      rfl

theorem guardedCbcSplit_eq_ok (record : Bytes) :
    keyed.guardedCbcSplit chaining record = .ok ((keyed.cbc chaining).split record) := by
  cases chaining with
  | explicit =>
      simp only [guardedCbcSplit, Cbc.split]
      split
      · rfl
      · rename_i hlong
        simp only [Buffer.splitAt_eq_ok (Nat.not_lt.mp hlong), ok_bind, pure_eq_ok]
  | chained initial current => rfl

theorem guardedMinBodyLength_eq_ok :
    keyed.guardedMinBodyLength auth = .ok ((keyed.cbc chaining).minBodyLength auth) := by
  have hmac := auth.macLength_le
  have hpos : 0 < keyed.blockLength := keyed.lawful.blockLength_pos
  have hblock : keyed.blockLength ≤ 16 := keyed.lawful.blockLength_le
  have hone : auth.macLength + 1 < lengthBound := by
    simp only [lengthBound]
    omega
  have hrounded : (auth.macLength + 1 + keyed.blockLength - 1) / keyed.blockLength
      * keyed.blockLength < lengthBound := by
    have hle := Nat.div_mul_le_self (auth.macLength + 1 + keyed.blockLength - 1) keyed.blockLength
    simp only [lengthBound]
    omega
  simp only [guardedMinBodyLength, add_eq_ok hone, divCeil_eq_ok hpos, mul_eq_ok hrounded, ok_bind]
  rfl

variable {chaining} (hcbc : (keyed.cbc chaining).Lawful)
include hcbc

theorem guardedCbcEncrypt_eq_ok {plaintext : Bytes}
    (hplaintext : plaintext.length < lengthFieldBound) (random : RandomSource) :
    keyed.guardedCbcEncrypt chaining auth type plaintext random
      = .ok ((keyed.cbc chaining).encrypt auth type plaintext random) := by
  have hmac := auth.macLength_le
  have hpos : 0 < keyed.blockLength := keyed.lawful.blockLength_pos
  have hblock : keyed.blockLength ≤ 256 :=
    Nat.le_trans keyed.lawful.blockLength_le (by decide)
  have hcontent : (plaintext ++ auth.computeMac type plaintext).length < 2 ^ 31 := by
    simp only [lengthFieldBound] at hplaintext
    rw [List.length_append, Authenticator.length_computeMac]
    omega
  have hframe := Cbc.dvd_length_frame hcbc auth type plaintext
  have hlong := Cbc.blockLength_le_length_frame hcbc auth type plaintext
  cases chaining with
  | explicit =>
      have hiv := random.length_take keyed.blockLength
      have hbody := keyed.guardedEncryptBody_eq_ok hiv hframe
      simp only [Cbc.frame] at hbody
      simp only [guardedCbcEncrypt, auth.guardedComputeMac_eq_ok type hplaintext, ok_bind,
        Buffer.splitAt_append (Bytes.length_zeros _).symm, Bytes.length_zeros,
        guardedAddPadding_eq_ok hpos hblock hcontent, hbody, pure_eq_ok, Cbc.encrypt, Cbc.frame]
  | chained initial current =>
      have hcurrent := (hcbc.chain initial current rfl).2
      have hbody := keyed.guardedEncryptBody_eq_ok hcurrent hframe
      have hlength := length_cbcEncrypt keyed.lawful hcurrent hframe
      have hlast := keyed.guardedLastBlock_eq_ok (.chained initial current)
        (hlong.trans hlength.ge)
      simp only [Cbc.frame] at hbody hlast
      simp only [guardedCbcEncrypt, auth.guardedComputeMac_eq_ok type hplaintext, ok_bind,
        Buffer.splitAt_eq_ok (Nat.zero_le _), List.drop_zero, List.take_zero, List.nil_append,
        guardedAddPadding_eq_ok hpos hblock hcontent, hbody, hlast, pure_eq_ok, Cbc.encrypt,
        Cbc.frame, Cbc.continueFrom]

theorem guardedCbcDecrypt_eq_ok {record : Bytes} (hrecord : record.length < lengthFieldBound) :
    keyed.guardedCbcDecrypt chaining auth type record
      = .ok ((keyed.cbc chaining).decrypt auth type record) := by
  have hpos : 0 < keyed.blockLength := keyed.lawful.blockLength_pos
  simp only [guardedCbcDecrypt, guardedCbcSplit_eq_ok, ok_bind, Cbc.decrypt]
  cases hsplit : (keyed.cbc chaining).split record with
  | error e => rfl
  | ok parts =>
      obtain ⟨iv, body⟩ := parts
      have hiv := hcbc.length_iv hsplit
      simp only [keyed.guardedMinBodyLength_eq_ok chaining, mod_eq_ok hpos, ok_bind]
      split
      · rfl
      · rename_i hmin
        split
        · rfl
        · rename_i hwhole
          have hdvd := Nat.dvd_of_mod_eq_zero (not_not.mp hwhole)
          have hlong := (Cbc.blockLength_le_minBodyLength hcbc auth).trans (Nat.not_lt.mp hmin)
          have hdecrypted : (cbcDecrypt keyed.cipher iv body).length < lengthFieldBound := by
            have hbody := Cbc.length_body_le hsplit
            rw [length_cbcDecrypt keyed.lawful hiv hdvd]
            omega
          simp only [keyed.guardedContinueFrom_eq_ok chaining hlong,
            keyed.guardedDecryptBody_eq_ok hiv hdvd, Cbc.guardedUnframe_eq_ok auth type hdecrypted,
            ok_bind, pure_eq_ok]

end KeyedCipher

end RecordProtection
