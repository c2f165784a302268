import RecordProtection.Proofs.Block.Counting
import RecordProtection.Proofs.Outputs
import RecordProtection.Proofs.Overhead
import RecordProtection.Proofs.RoundTrip

/-!
# Keystreams of the records of one mode

In counter mode each record starts at a counter block of its own and counts on from there.  The
first blocks of records are different, but they are the next numbers, so a record of several blocks
can reach the blocks of other records.  The records of a mode share no counter block exactly if no
record reaches the first block of another one.
-/

namespace RecordProtection

namespace NonceLayout

/-- What is sent of a nonce can number so many records, if anything is sent. -/
def Numbers (layout : NonceLayout) (count : Nat) : Prop :=
  match layout with
  | explicit _ sentLength => count ≤ 256 ^ sentLength
  | masked _ => True

theorem nonceNumber_add_ne {layout : NonceLayout} {count : Nat} (hcount : layout.Numbers count)
    (value : Nat) {i j : Nat} (hlt : i < j) (hj : j < count) :
    layout.nonceNumber (value + i) ≠ layout.nonceNumber (value + j) := by
  intro hsame
  cases layout with
  | explicit fixed sentLength =>
      have hbound : count ≤ 256 ^ sentLength := hcount
      have hlow : i ≡ j [MOD 256 ^ sentLength] :=
        Nat.ModEq.add_left_cancel' value (Nat.add_left_cancel hsame)
      have heq := hlow.eq_of_lt_of_lt (by omega) (by omega)
      omega
  | masked iv =>
      have hplace := Nat.xor_right_inj.mp (Nat.add_left_cancel hsame)
      omega

end NonceLayout

theorem Bytes.stepsTo_pos {one other : Bytes} (hlength : one.length = other.length)
    (hne : one ≠ other) : 0 < one.stepsTo other := by
  refine Nat.pos_of_ne_zero fun hzero => hne ?_
  exact (iterate_incrementBE_eq_iff hlength).mpr ((Nat.zero_mod _).trans hzero.symm)

namespace CounterMode

/-- The first counter block of the record at a place. -/
def firstBlock (mode : CounterMode) (auth : Authenticator) : Bytes :=
  (mode.layout.sending auth.sequenceBlock).1

/-- How many counter blocks cover the content and its MAC. -/
def blockCount (mode : CounterMode) (output : Output) : Nat :=
  pieceCount mode.cipher.blockLength (output.plaintext.length + output.mode.auth.macLength)

/-- The counter blocks of a record. -/
def counterBlocks (mode : CounterMode) (output : Output) : List Bytes :=
  List.iterate incrementBE (mode.firstBlock output.mode.auth) (mode.blockCount output)

/-- The record is the sent part of the first counter block, and content and MAC with the encryptions
of the counter blocks added. -/
def Masks (mode : CounterMode) (output : Output) : Prop :=
  output.record = (mode.layout.sending output.mode.auth.sequenceBlock).2
    ++ Bytes.xor
      (output.plaintext ++ output.mode.auth.computeMac output.type output.plaintext)
      ((mode.counterBlocks output).flatMap mode.cipher.encrypt)

/-- Neither of two records counts on to the first counter block of the other. -/
def Apart (mode : CounterMode) (one other : Output) : Prop :=
  (0 < mode.blockCount other → mode.blockCount one
      ≤ (mode.firstBlock one.mode.auth).stepsTo (mode.firstBlock other.mode.auth))
    ∧ (0 < mode.blockCount one → mode.blockCount other
      ≤ (mode.firstBlock other.mode.auth).stepsTo (mode.firstBlock one.mode.auth))

section Lawful

variable {mode : CounterMode} (hmode : mode.Lawful)
include hmode

theorem length_firstBlock (auth : Authenticator) :
    (mode.firstBlock auth).length = mode.cipher.blockLength :=
  (NonceLayout.length_nonce_sending hmode.layout auth.length_sequenceBlock).trans hmode.nonceLength

theorem toNatBE_firstBlock (auth : Authenticator) :
    Bytes.toNatBE (mode.firstBlock auth)
      = mode.layout.nonceNumber (Bytes.toNatBE auth.sequenceBlock) :=
  NonceLayout.toNatBE_sending hmode.layout auth.length_sequenceBlock

/-- Records of one epoch have different first blocks, as far as their nonces can number them. -/
theorem firstBlock_after_ne {count : Nat} (hcount : mode.layout.Numbers count)
    {auth : Authenticator} {i j : Nat} (hlt : i < j) (hj : j < count)
    (hlimit : auth.sequence.number.toNat + j ≤ auth.maxNumber.toNat) :
    mode.firstBlock (auth.after i) ≠ mode.firstBlock (auth.after j) := by
  intro hsame
  have hvalue := congrArg Bytes.toNatBE hsame
  rw [toNatBE_firstBlock hmode, toNatBE_firstBlock hmode,
    Authenticator.toNatBE_sequenceBlock_after (by omega),
    Authenticator.toNatBE_sequenceBlock_after hlimit] at hvalue
  exact NonceLayout.nonceNumber_add_ne hcount _ hlt hj hvalue

theorem masks_of_valid {output : Output} (htransform : output.mode.transform = .counter mode)
    (hvalid : output.Valid) : mode.Masks output := by
  obtain ⟨random, hrecord⟩ := hvalid
  rw [htransform] at hrecord
  have hmask := counterMode_eq_xor hmode.cipher length_incrementBE
    (length_firstBlock hmode output.mode.auth)
    (output.plaintext ++ output.mode.auth.computeMac output.type output.plaintext)
  rw [List.length_append, Authenticator.length_computeMac] at hmask
  rw [Masks, counterBlocks, blockCount, ← hmask]
  exact (Except.ok.inj hrecord).symm

theorem blockCount_le (hblock : sequenceBlockLength ≤ mode.cipher.blockLength) {output : Output}
    (hplaintext : output.plaintext.length ≤ maxPlaintextLength) :
    mode.blockCount output ≤ 256 ^ mode.cipher.blockLength := by
  have hmac := output.mode.auth.macLength_le
  have hle := hmode.cipher.blockLength_le
  have hlimit : maxPlaintextLength = 16384 := rfl
  calc mode.blockCount output
      ≤ output.plaintext.length + output.mode.auth.macLength + (mode.cipher.blockLength - 1) :=
        Nat.div_le_self _ _
    _ ≤ 256 ^ sequenceBlockLength := by
        rw [sequenceBlockLength]
        omega
    _ ≤ 256 ^ mode.cipher.blockLength := Nat.pow_le_pow_right (by decide) hblock

theorem disjoint_counterBlocks_iff (one other : Output) :
    (mode.counterBlocks one).Disjoint (mode.counterBlocks other) ↔ mode.Apart one other :=
  disjoint_iterate_incrementBE_iff
    ((length_firstBlock hmode _).trans (length_firstBlock hmode _).symm)

/-- Records of one block at most, with different first blocks. -/
theorem apart_of_blockCount_le_one {one other : Output} (hone : mode.blockCount one ≤ 1)
    (hother : mode.blockCount other ≤ 1)
    (hne : mode.firstBlock one.mode.auth ≠ mode.firstBlock other.mode.auth) :
    mode.Apart one other := by
  have hlength : (mode.firstBlock one.mode.auth).length
      = (mode.firstBlock other.mode.auth).length :=
    (length_firstBlock hmode _).trans (length_firstBlock hmode _).symm
  have hforward := Bytes.stepsTo_pos hlength hne
  have hbackward := Bytes.stepsTo_pos hlength.symm hne.symm
  exact ⟨fun _ => hone.trans hforward, fun _ => hother.trans hbackward⟩

end Lawful

end CounterMode

namespace CipherMode

/-- A counter mode runs over the block cipher of its engine. -/
theorem counter_of_create {engine : Engine} {auth : Authenticator} {iv : Bytes} {sentLength : Nat}
    {mode : CipherMode} (hcreate : create .ctr engine auth iv sentLength = .ok mode) :
    ∃ counter : CounterMode, mode = ⟨.ctr, .counter counter, auth⟩
      ∧ engine.block? = some counter.cipher := by
  obtain ⟨transform, htransform, rfl⟩ := create_eq_ok_iff.mp hcreate
  obtain ⟨cipher, hrequire, hlayout⟩ := bind_eq_ok_iff.mp htransform
  obtain ⟨layout, -, hcounter⟩ := bind_eq_ok_iff.mp hlayout
  obtain ⟨counter, hcounter, hok⟩ := bind_eq_ok_iff.mp hcounter
  cases hok
  refine ⟨counter, rfl, ?_⟩
  have hblock := requireBlock_eq_ok_iff.mp hrequire
  unfold CounterMode.create at hcounter
  split at hcounter
  · cases hcounter
    exact hblock
  · cases hcounter

section Records

variable {mode : CipherMode} {counter : CounterMode}
  (htransform : mode.transform = .counter counter)
include htransform

theorem stateless_of_counter : mode.transform.Stateless := by
  rw [htransform]
  trivial

variable (hcounter : counter.Lawful)
include hcounter

/-- The first blocks are numbered on from the place where the mode starts. -/
theorem toNatBE_firstBlock_getElem (requests : List (ContentType × Bytes)) (random : RandomSource)
    (i : Nat) (hi : i < (mode.outputs requests random).length) :
    Bytes.toNatBE (counter.firstBlock (mode.outputs requests random)[i].mode.auth)
      = counter.layout.nonceNumber (Bytes.toNatBE mode.auth.sequenceBlock + i) := by
  obtain ⟨hplace, hlimit⟩ :=
    mode_getElem_outputs (stateless_of_counter htransform) requests random i hi
  calc Bytes.toNatBE (counter.firstBlock (mode.outputs requests random)[i].mode.auth)
      = Bytes.toNatBE (counter.firstBlock (mode.auth.after i)) := by
        rw [hplace, after]
    _ = counter.layout.nonceNumber (Bytes.toNatBE (mode.auth.after i).sequenceBlock) :=
        CounterMode.toNatBE_firstBlock hcounter _
    _ = counter.layout.nonceNumber (Bytes.toNatBE mode.auth.sequenceBlock + i) := by
        rw [Authenticator.toNatBE_sequenceBlock_after (Nat.le_of_lt hlimit)]

theorem firstBlocks_nodup {requests : List (ContentType × Bytes)} {random : RandomSource}
    (hnumbers : counter.layout.Numbers (mode.outputs requests random).length) :
    ((mode.outputs requests random).map
      fun output => counter.firstBlock output.mode.auth).Nodup := by
  refine nodup_map_outputs (stateless_of_counter htransform) counter.firstBlock requests random ?_
  intro i j hlt hj hlimit
  exact CounterMode.firstBlock_after_ne hcounter hnumbers hlt hj (Nat.le_of_lt hlimit)

variable (hblock : sequenceBlockLength ≤ counter.cipher.blockLength)
  {requests : List (ContentType × Bytes)}
  (hrequests : ∀ request ∈ requests, request.2.length ≤ maxPlaintextLength)
  {random : RandomSource}
include hblock hrequests

/-- No record is long enough to come round to a counter block of its own. -/
theorem counterBlocks_nodup_of_mem {output : Output}
    (houtput : output ∈ mode.outputs requests random) : (counter.counterBlocks output).Nodup := by
  have hplaintext := hrequests _
    (request_of_mem_outputs (stateless_of_counter htransform) houtput)
  apply nodup_iterate_incrementBE
  calc counter.blockCount output
      ≤ 256 ^ counter.cipher.blockLength := CounterMode.blockCount_le hcounter hblock hplaintext
    _ = 256 ^ (counter.firstBlock output.mode.auth).length := by
        rw [CounterMode.length_firstBlock hcounter]

theorem flatMap_counterBlocks_nodup_iff :
    ((mode.outputs requests random).flatMap counter.counterBlocks).Nodup
      ↔ (mode.outputs requests random).Pairwise counter.Apart := by
  rw [List.nodup_flatMap, and_iff_right fun output houtput =>
    counterBlocks_nodup_of_mem htransform hcounter hblock hrequests houtput]
  exact List.Pairwise.iff (CounterMode.disjoint_counterBlocks_iff hcounter)

end Records

/-- The records of one mode share no counter block exactly if no record counts on to the first
counter block of another one. -/
theorem counterBlocks_nodup_iff {engine : Engine} (hengine : engine.Reached) {auth : Authenticator}
    {iv : Bytes} {sentLength : Nat} {mode : CipherMode}
    (hcreate : create .ctr engine auth iv sentLength = .ok mode)
    {requests : List (ContentType × Bytes)}
    (hrequests : ∀ request ∈ requests, request.2.length ≤ maxPlaintextLength)
    (random : RandomSource) :
    ∃ counter : CounterMode, mode.transform = .counter counter
      ∧ (∀ output ∈ mode.outputs requests random,
        counter.Masks output ∧ (counter.counterBlocks output).Nodup)
      ∧ (∀ i (hi : i < (mode.outputs requests random).length),
        Bytes.toNatBE (counter.firstBlock (mode.outputs requests random)[i].mode.auth)
          = counter.layout.nonceNumber (Bytes.toNatBE mode.auth.sequenceBlock + i))
      ∧ (((mode.outputs requests random).flatMap counter.counterBlocks).Nodup
        ↔ (mode.outputs requests random).Pairwise counter.Apart)
      ∧ (counter.layout.Numbers (mode.outputs requests random).length →
        ((mode.outputs requests random).map
            fun output => counter.firstBlock output.mode.auth).Nodup
          ∧ ((∀ output ∈ mode.outputs requests random, counter.blockCount output ≤ 1) →
            ((mode.outputs requests random).flatMap counter.counterBlocks).Nodup)) := by
  have hlawful := (Reached.created hengine hcreate).lawful
  obtain ⟨counter, rfl, hcipher⟩ := counter_of_create hcreate
  have htransform : (CipherMode.mk .ctr (.counter counter) auth).transform = .counter counter := rfl
  have hcounter : counter.Lawful := hlawful
  have hblock := sequenceBlockLength_le_blockLength hengine.lawful hcipher
  have hstateless := stateless_of_counter htransform
  have hiff := @flatMap_counterBlocks_nodup_iff _ _ htransform hcounter hblock _ hrequests random
  refine ⟨counter, htransform, fun output houtput => ⟨?_, ?_⟩,
    toNatBE_firstBlock_getElem htransform hcounter requests random, hiff, fun hnumbers => ?_⟩
  · exact CounterMode.masks_of_valid hcounter (transform_of_mem_outputs hstateless houtput)
      (valid_of_mem_outputs hstateless houtput)
  · exact counterBlocks_nodup_of_mem htransform hcounter hblock hrequests houtput
  · have hfirst := firstBlocks_nodup htransform hcounter hnumbers
    refine ⟨hfirst, fun hshort => hiff.mpr ?_⟩
    rw [List.Nodup, List.pairwise_map] at hfirst
    apply hfirst.imp_of_mem
    intro one other hone hother hne
    exact CounterMode.apart_of_blockCount_le_one hcounter (hshort one hone)
      (hshort other hother) hne

/-- A counter mode that sends the lower half of its counter blocks. -/
def sentCounter : CounterMode := ⟨aes (Bytes.zeros 16), .explicit (Bytes.zeros 8) 8⟩

/-- The records that it makes of zeros. -/
def sentCounterOutputs (lengths : List Nat) : List Output :=
  (CipherMode.mk .ctr (.counter sentCounter) (.withoutMac .tls12)).outputs
    (lengths.map fun length => (.applicationData, Bytes.zeros length)) ⟨fun _ => 0, 0⟩

theorem create_sentCounter :
    create .ctr zeroKeyEngine (.withoutMac .tls12) (Bytes.zeros 8) 8
      = .ok ⟨.ctr, .counter sentCounter, .withoutMac .tls12⟩ :=
  rfl

/-- Records of a block at most. -/
theorem shortOutputs_counterBlocks_nodup :
    (sentCounterOutputs [16, 5]).flatMap sentCounter.counterBlocks
        = [Bytes.zeros 16, Bytes.zeros 15 ++ [1]]
      ∧ ((sentCounterOutputs [16, 5]).flatMap sentCounter.counterBlocks).Nodup := by
  have hrequests : ∀ request ∈ [(ContentType.applicationData, Bytes.zeros 16),
      (ContentType.applicationData, Bytes.zeros 5)], request.2.length ≤ maxPlaintextLength := by
    decide
  obtain ⟨counter, hcounter, -, -, -, hshort⟩ :=
    counterBlocks_nodup_iff reached_zeroKeyEngine create_sentCounter hrequests ⟨fun _ => 0, 0⟩
  cases hcounter
  have hlength : (sentCounterOutputs [16, 5]).length = 2 := rfl
  have hnumbers : (sentCounterOutputs [16, 5]).length ≤ 256 ^ 8 := by
    rw [hlength]
    decide
  have hone : ∀ output ∈ sentCounterOutputs [16, 5], sentCounter.blockCount output ≤ 1 := by
    have hcounts : (sentCounterOutputs [16, 5]).map sentCounter.blockCount = [1, 1] := rfl
    intro output houtput
    have hmem := hcounts ▸ List.mem_map_of_mem houtput
    have hcount : sentCounter.blockCount output = 1 := by
      simpa using hmem
    exact hcount.le
  exact ⟨rfl, (hshort hnumbers).2 hone⟩

/-- Some records share a counter block: the second block of one can be the first block of the
next. -/
theorem not_forall_counterBlocks_nodup :
    ¬ ∀ (engine : Engine) (auth : Authenticator) (iv : Bytes) (sentLength : Nat)
      (mode : CipherMode) (counter : CounterMode) (requests : List (ContentType × Bytes))
      (random : RandomSource),
      engine.Reached → create .ctr engine auth iv sentLength = .ok mode →
      mode.transform = .counter counter →
      (∀ request ∈ requests, request.2.length ≤ maxPlaintextLength) →
      counter.layout.Numbers (mode.outputs requests random).length →
      ((mode.outputs requests random).flatMap counter.counterBlocks).Nodup := by
  intro h
  have hrequests : ∀ request ∈ [(ContentType.applicationData, Bytes.zeros 32),
      (ContentType.applicationData, Bytes.zeros 32)], request.2.length ≤ maxPlaintextLength := by
    decide
  have hlength : (sentCounterOutputs [32, 32]).length = 2 := rfl
  have hnumbers : (sentCounterOutputs [32, 32]).length ≤ 256 ^ 8 := by
    rw [hlength]
    decide
  have hnodup := h _ _ _ _ _ _ _ ⟨fun _ => 0, 0⟩ reached_zeroKeyEngine create_sentCounter rfl
    hrequests hnumbers
  have hblocks : (sentCounterOutputs [32, 32]).flatMap sentCounter.counterBlocks
      = [Bytes.zeros 16, Bytes.zeros 15 ++ [1], Bytes.zeros 15 ++ [1], Bytes.zeros 15 ++ [2]] :=
    rfl
  have hshared := hblocks ▸ hnodup
  exact absurd hshared (by decide)

end CipherMode

end RecordProtection
