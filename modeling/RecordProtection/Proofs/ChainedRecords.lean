import RecordProtection.Proofs.Block.Aes
import RecordProtection.Proofs.Mode.Cbc

/-!
# Records that continue one chain

Where no record brings its own IV, the last block of a record takes its place for the next one.  The
records are then one chain, cut where each of them ends: put together, they are the encryption of
all contents with their MACs and padding, from the first IV.  A receiver that starts from the same
IV picks up the same blocks, and reads the records one by one.
-/

namespace RecordProtection

/-! ### Going on with a chain -/

/-- Where the front of a chain ends, the back starts from its last block. -/
theorem cbcEncryptBlocks_append (cipher : BlockCipher) (previous : Bytes)
    (front back : List Bytes) :
    cbcEncryptBlocks cipher previous (front ++ back)
      = cbcEncryptBlocks cipher previous front
        ++ cbcEncryptBlocks cipher ((cbcEncryptBlocks cipher previous front).getLastD previous)
          back := by
  induction front generalizing previous with
  | nil => rfl
  | cons block front ih =>
      rw [List.cons_append, cbcEncryptBlocks, ih, cbcEncryptBlocks, List.getLastD_cons,
        List.cons_append]

namespace Bytes

/-- The last piece of a string of pieces. -/
theorem drop_flatten {width : Nat} {pieces : List Bytes}
    (hpieces : ∀ piece ∈ pieces, piece.length = width) (hne : pieces ≠ []) (start : Bytes) :
    pieces.flatten.drop (pieces.flatten.length - width) = pieces.getLastD start := by
  obtain ⟨front, last, rfl⟩ := List.eq_nil_or_concat pieces |>.resolve_left hne
  have hlast : last.length = width := hpieces last (by simp)
  rw [List.concat_eq_append, List.flatten_append, List.flatten_singleton, List.getLastD_concat,
    List.length_append, hlast, Nat.add_sub_cancel, List.drop_left]

end Bytes

section Chain

variable {cipher : BlockCipher} (hcipher : cipher.Lawful) {iv front : Bytes}
  (hiv : iv.length = cipher.blockLength) (hfront : cipher.blockLength ∣ front.length)
include hcipher hiv hfront

/-- Encryption goes on from the last block. -/
theorem cbcEncrypt_append (hlong : cipher.blockLength ≤ front.length) (back : Bytes) :
    cbcEncrypt cipher iv (front ++ back)
      = cbcEncrypt cipher iv front
        ++ cbcEncrypt cipher
          ((cbcEncrypt cipher iv front).drop
            ((cbcEncrypt cipher iv front).length - cipher.blockLength)) back := by
  have hpos := hcipher.blockLength_pos
  have hblocks := length_of_mem_cbcEncryptBlocks hcipher hiv
    (Bytes.length_of_mem_chunks hpos hfront)
  have hne : cbcEncryptBlocks cipher iv (Bytes.chunks cipher.blockLength front) ≠ [] := by
    rw [← List.length_pos_iff, length_cbcEncryptBlocks, Bytes.length_chunks hpos hfront]
    exact Nat.div_pos hlong hpos
  simp only [cbcEncrypt]
  rw [Bytes.chunks_append_of_dvd hpos hfront, cbcEncryptBlocks_append, List.flatten_append,
    Bytes.drop_flatten hblocks hne iv]

end Chain

namespace Cbc

/-! ### Many records -/

/-- Bytes of a type at a place, before or after encryption. -/
structure Message where
  auth : Authenticator
  type : ContentType
  bytes : Bytes
  deriving DecidableEq, Repr

/-- What a record protects: content, MAC and padding. -/
def Message.body (blockLength : Nat) (message : Message) : Bytes :=
  addPadding blockLength
    (message.bytes ++ message.auth.computeMac message.type message.bytes)

/-- Encrypts messages in order. -/
def encryptAll : Cbc → List Message → RandomSource → List Message
  | _, [], _ => []
  | cbc, message :: messages, random =>
      let (record, next, rest) := cbc.encrypt message.auth message.type message.bytes random
      { message with bytes := record } :: next.encryptAll messages rest

/-- Decrypts records in order, also after one that fails. -/
def decryptAll : Cbc → List Message → List (Except RecordError Bytes)
  | _, [] => []
  | cbc, record :: records =>
      let (result, next) := cbc.decrypt record.auth record.type record.bytes
      result :: next.decryptAll records

/-- The bytes of records on the wire. -/
def wire (records : List Message) : Bytes := (records.map Message.bytes).flatten

section Run

variable {cbc : Cbc} (hcbc : cbc.Lawful)
include hcbc

/-- One record is the next part of the chain, and the mode goes on from its end. -/
theorem encrypt_of_chained {initial current : Bytes}
    (hchaining : cbc.chaining = .chained initial current) (message : Message) (back : Bytes)
    (random : RandomSource) :
    ∃ record last,
      cbc.encrypt message.auth message.type message.bytes random
          = (record, ⟨cbc.cipher, .chained initial last⟩, random)
        ∧ cbcEncrypt cbc.cipher current (message.body cbc.cipher.blockLength ++ back)
          = record ++ cbcEncrypt cbc.cipher last back := by
  have hcurrent := (hcbc.chain initial current hchaining).2
  refine ⟨cbcEncrypt cbc.cipher current (message.body cbc.cipher.blockLength),
    cbc.lastBlock (cbcEncrypt cbc.cipher current (message.body cbc.cipher.blockLength)), ?_, ?_⟩
  · simp only [encrypt, continueFrom, hchaining]
    rfl
  · exact cbcEncrypt_append hcbc.cipher hcurrent
      (dvd_length_frame hcbc message.auth message.type message.bytes)
      (blockLength_le_length_frame hcbc message.auth message.type message.bytes) back

/-- The records of a chained mode are the encryption of all bodies from where it stands. -/
theorem wire_encryptAll {initial current : Bytes}
    (hchaining : cbc.chaining = .chained initial current) (messages : List Message)
    (random : RandomSource) :
    wire (cbc.encryptAll messages random)
      = cbcEncrypt cbc.cipher current (messages.flatMap (Message.body cbc.cipher.blockLength)) := by
  induction messages generalizing cbc current with
  | nil => simp [wire, encryptAll, cbcEncrypt, cbcEncryptBlocks]
  | cons message messages ih =>
      obtain ⟨record, last, hencrypt, happend⟩ := encrypt_of_chained hcbc hchaining
        message (messages.flatMap (Message.body cbc.cipher.blockLength)) random
      have hnext : Cbc.Lawful ⟨cbc.cipher, .chained initial last⟩ := by
        have hlawful := hcbc.encrypt message.auth message.type message.bytes random
        rwa [hencrypt] at hlawful
      have hrest := ih hnext rfl
      rw [List.flatMap_cons, happend, ← hrest, encryptAll, hencrypt]
      rfl

/-- Whatever the chaining, a mode in the same state reads all records back. -/
theorem decryptAll_encryptAll (messages : List Message) (random : RandomSource) :
    cbc.decryptAll (cbc.encryptAll messages random)
      = messages.map fun message => .ok message.bytes := by
  induction messages generalizing cbc random with
  | nil => rfl
  | cons message messages ih =>
      have hdecrypt := decrypt_encrypt hcbc message.auth message.type message.bytes random
      have hnext := hcbc.encrypt message.auth message.type message.bytes random
      have hrest := ih hnext (cbc.encrypt message.auth message.type message.bytes random).2.2
      rw [List.map_cons, ← hrest]
      simp only [encryptAll, decryptAll, hdecrypt]

end Run

theorem create_eq_ok_iff_of_implicit {cipher : BlockCipher} {iv : Bytes} {cbc : Cbc} :
    create cipher iv false = .ok cbc
      ↔ iv.length = cipher.blockLength ∧ cbc = ⟨cipher, .chained iv iv⟩ := by
  unfold create
  rw [if_neg fun h => absurd h.1 Bool.false_ne_true]
  by_cases hiv : iv.length = cipher.blockLength
  · rw [if_pos hiv, Except.ok.injEq]
    exact ⟨fun h => ⟨hiv, h.symm⟩, fun h => h.2.symm⟩
  · rw [if_neg hiv]
    exact ⟨fun h => (nomatch h), fun h => absurd h.1 hiv⟩

/-- Two modes that were created alike and whose records bring no IV: the records of one are a single
chain from the IV over all bodies, and the other one reads each of them. -/
theorem records_form_one_chain {cipher : BlockCipher} (hcipher : cipher.Lawful) {iv : Bytes}
    {sender receiver : Cbc} (hsender : create cipher iv false = .ok sender)
    (hreceiver : create cipher iv false = .ok receiver) (messages : List Message)
    (random : RandomSource) :
    wire (sender.encryptAll messages random)
        = cbcEncrypt cipher iv (messages.flatMap (Message.body cipher.blockLength))
      ∧ receiver.decryptAll (sender.encryptAll messages random)
        = messages.map fun message => .ok message.bytes := by
  have hlawful := lawful_of_create hcipher hsender
  have hsame : receiver = sender := Except.ok.inj (hreceiver.symm.trans hsender)
  subst hsame
  refine ⟨?_, decryptAll_encryptAll hlawful messages random⟩
  obtain ⟨-, rfl⟩ := create_eq_ok_iff_of_implicit.mp hsender
  exact wire_encryptAll hlawful rfl messages random

/-- The same content twice, under a MAC. -/
def repeatedMessages : List Message :=
  [0, 1].map fun number =>
    ⟨⟨.tls10, some ⟨.sha1, Bytes.zeros 20⟩, ⟨0, number⟩⟩, .handshake, Bytes.ofText "one"⟩

/-- Both of its records are read, though the second one has no IV but the end of the first. -/
theorem repeatedMessages_form_one_chain : ∃ mode,
    create (aes (Bytes.zeros 16)) (Bytes.zeros 16) false = .ok mode
      ∧ wire (mode.encryptAll repeatedMessages ⟨fun _ => 0, 0⟩)
        = cbcEncrypt (aes (Bytes.zeros 16)) (Bytes.zeros 16)
          (repeatedMessages.flatMap (Message.body 16))
      ∧ mode.decryptAll (mode.encryptAll repeatedMessages ⟨fun _ => 0, 0⟩)
        = [.ok (Bytes.ofText "one"), .ok (Bytes.ofText "one")] := by
  have hcreate : create (aes (Bytes.zeros 16)) (Bytes.zeros 16) false = .ok _ := rfl
  obtain ⟨hwire, hread⟩ := records_form_one_chain (aes_lawful (by decide)) hcreate hcreate
    repeatedMessages ⟨fun _ => 0, 0⟩
  exact ⟨_, hcreate, hwire, hread⟩

end Cbc

end RecordProtection
