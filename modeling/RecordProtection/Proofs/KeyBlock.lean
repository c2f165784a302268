import RecordProtection.KeySchedule.Prf
import RecordProtection.Proofs.TrafficSecrets

/-!
# Key blocks

Before version 1.3 all keys come from one block.  The lengths in the catalog are those that engines,
MACs and modes ask for, so under every version of a suite the block can be cut, the keys of both
directions are taken, and the two ends come to hold the same two directions.
-/

namespace RecordProtection

/-! ### Lengths of the pseudorandom functions -/

theorem length_prfBlocks (algorithm : HashAlgorithm) (secret seed : Bytes) (count : Nat)
    (link : Bytes) :
    (prfBlocks algorithm secret seed count link).length = count * algorithm.outputLength := by
  induction count generalizing link with
  | zero => simp [prfBlocks]
  | succ count ih =>
      rw [prfBlocks, List.length_append, length_hmac, ih, Nat.succ_mul, Nat.add_comm]

theorem length_expandSecret (algorithm : HashAlgorithm) (secret seed : Bytes) (length : Nat) :
    (expandSecret algorithm secret seed length).length = length := by
  rw [expandSecret, List.length_take, length_prfBlocks]
  exact Nat.min_eq_left (le_blocks_mul (outputLength_pos algorithm) length)

theorem length_prf10 (secret : Bytes) (label : String) (seed : Bytes) (length : Nat) :
    (prf10 secret label seed length).length = length := by
  rw [prf10, Bytes.length_xor, length_expandSecret, length_expandSecret, Nat.min_self]

/-- What the pseudorandom function of a version gives.  Up to TLS 1.1 and DTLS 1.0, MD5 and SHA-1
mask each other; under TLS 1.2 and DTLS 1.2 there is the hash of the suite alone. -/
inductive PrfOutput (version : ProtocolVersion) (suite : CipherSuite) (secret : Bytes)
    (label : String) (seed : Bytes) (length : Nat) : Bytes → Prop
  | md5Sha1 (hversion : version ∈ [.tls10, .tls11, .dtls10]) :
      PrfOutput version suite secret label seed length (prf10 secret label seed length)
  | suiteHash (hversion : version ∈ [.tls12, .dtls12]) :
      PrfOutput version suite secret label seed length
        (prf12 suite.prfHash secret label seed length)

namespace PrfOutput

variable {version : ProtocolVersion} {suite : CipherSuite} {secret seed output : Bytes}
  {label : String} {length : Nat}
  (houtput : PrfOutput version suite secret label seed length output)
include houtput

theorem length_eq : output.length = length := by
  cases houtput with
  | md5Sha1 => exact length_prf10 secret label seed length
  | suiteHash => exact length_expandSecret suite.prfHash secret (Bytes.ofText label ++ seed) length

theorem eq_prf10 (hversion : version ∈ [.tls10, .tls11, .dtls10]) :
    output = prf10 secret label seed length := by
  cases houtput with
  | md5Sha1 => rfl
  | suiteHash hother =>
      exfalso
      revert hversion hother
      cases version <;> decide

end PrfOutput

/-- A schedule before version 1.3 always gets what the version says. -/
theorem PrfSchedule.exists_prf {schedule : PrfSchedule} (hversion : schedule.version.is13 = false)
    (secret : Bytes) (label : String) (seed : Bytes) (length : Nat) :
    ∃ output, schedule.prf secret label seed length = .ok output
      ∧ PrfOutput schedule.version schedule.suite secret label seed length output := by
  unfold prf
  cases hschedule : schedule.version with
  | tls10 | tls11 | dtls10 => exact ⟨_, rfl, .md5Sha1 (by decide)⟩
  | tls12 | dtls12 => exact ⟨_, rfl, .suiteHash (by decide)⟩
  | tls13 | dtls13 =>
      rw [hschedule] at hversion
      cases hversion

/-! ### Suites whose lengths fit -/

namespace CipherSuite

/-- The engine takes keys of the final length, and the mode goes with the engine and the IV. -/
def coherent (suite : CipherSuite) : Bool :=
  suite.expandedKeyLength ∈ suite.engine.keyLengths
    && match suite.mode with
      | .null => suite.engine = .none
      | .stream => suite.engine = .rc4
      | .cbc => suite.engine.blockLength = some suite.fixedIVLength
      | .ctr => false
      | .gcm | .ccm | .ccm8 =>
          suite.engine.hasTaggedCounterModes && suite.ivLength = 12
            && suite.explicitNonceLength ≤ sequenceBlockLength
            && (suite.explicitNonceLength > 0 || suite.fixedIVLength ≥ sequenceBlockLength)
      | .chaCha20Poly1305 =>
          suite.engine = .chacha20 && suite.fixedIVLength = ChaCha20Poly1305.nonceLength
      | .mgmStrong | .mgmLight =>
          suite.engine.isMultilinear && suite.engine.blockLength = some suite.fixedIVLength
      | .cntImit => suite.engine.isMultilinear

theorem coherent_of_mem : ∀ suite ∈ catalog, suite.coherent = true := by
  decide

theorem key_mem_of_coherent {suite : CipherSuite} (hcoherent : suite.coherent = true) :
    suite.expandedKeyLength ∈ suite.engine.keyLengths := by
  unfold coherent at hcoherent
  exact of_decide_eq_true (Bool.and_eq_true_iff.mp hcoherent).1

end CipherSuite

/-- An IV of one block does for chained and for explicit records. -/
theorem Cbc.exists_create {cipher : BlockCipher} {iv : Bytes}
    (hiv : iv.length = cipher.blockLength) (explicitIV : Bool) :
    ∃ mode, create cipher iv explicitIV = .ok mode := by
  unfold create
  rw [if_pos hiv]
  split
  · exact ⟨_, rfl⟩
  · exact ⟨_, rfl⟩

namespace CipherMode

variable {kind : ModeKind} {engine : Engine} {iv : Bytes}

theorem exists_taggedCounterMode {cipher : BlockCipher} (hblock : engine.block? = some cipher)
    (htagged : engine.kind.hasTaggedCounterModes = true) {sentLength : Nat}
    (hnonce : iv.length + sentLength = 12) (hsent : sentLength ≤ sequenceBlockLength)
    (hcover : sentLength > 0 ∨ iv.length ≥ sequenceBlockLength) (aead : BlockCipher → Aead) :
    ∃ transform, taggedCounterMode kind engine iv sentLength aead = .ok transform := by
  obtain ⟨layout, hlayout, hlength⟩ : ∃ layout, NonceLayout.ofIV iv sentLength = .ok layout
      ∧ layout.nonceLength = 12 := by
    unfold NonceLayout.ofIV
    rw [if_neg (Nat.not_lt.mpr hsent), if_neg (by rw [hnonce]; decide)]
    by_cases hpos : sentLength > 0
    · exact ⟨_, if_pos hpos, hnonce⟩
    · have hmasked : ¬ iv.length < sequenceBlockLength :=
        Nat.not_lt.mpr (hcover.resolve_left hpos)
      refine ⟨.masked iv, by rw [if_neg hpos, if_neg hmasked], ?_⟩
      simp only [NonceLayout.nonceLength]
      omega
  have hrequire : requireBlock kind engine = .ok cipher := requireBlock_eq_ok_iff.mpr hblock
  refine ⟨.aead ⟨aead cipher, layout⟩, ?_⟩
  simp [taggedCounterMode, hrequire, hlayout, htagged, hlength, bind, Except.bind, pure,
    Except.pure]

theorem exists_multilinearMode {cipher : BlockCipher} (hblock : engine.block? = some cipher)
    (hmultilinear : engine.kind.isMultilinear = true) (hiv : iv.length = cipher.blockLength)
    (strong : Bool) : ∃ transform, multilinearMode kind engine iv strong = .ok transform := by
  have hmode : Multilinear.create engine strong = .ok ⟨engine.kind, cipher, strong⟩ := by
    simp only [Multilinear.create, hmultilinear, hblock]
  have hlength : iv.length = Multilinear.blockLength ⟨engine.kind, cipher, strong⟩ := hiv
  exact ⟨_, by rw [multilinearMode, hmode]; exact if_pos hlength⟩

end CipherMode

namespace CipherSuite

theorem exists_transformOf {suite : CipherSuite} (hcoherent : suite.coherent = true)
    (forEncryption : Bool) (key : Bytes) (auth : Authenticator) {iv : Bytes}
    (hiv : iv.length = suite.fixedIVLength) :
    ∃ transform, CipherMode.transformOf suite.mode
      ⟨suite.engine, forEncryption, key, suite.engine.primitive key⟩ auth iv
      suite.explicitNonceLength = .ok transform := by
  have hblock {length : Nat} (hlength : suite.engine.blockLength = some length) :
      ∃ cipher, Engine.block? ⟨suite.engine, forEncryption, key, suite.engine.primitive key⟩
        = some cipher ∧ cipher.blockLength = length := by
    obtain ⟨cipher, hprimitive, hcipher⟩ := EngineKind.exists_block hlength key
    exact ⟨cipher, Engine.block?_eq_some_iff.mpr hprimitive, hcipher⟩
  unfold coherent at hcoherent
  obtain ⟨-, hfits⟩ := Bool.and_eq_true_iff.mp hcoherent
  cases hmode : suite.mode with
  | null =>
    simp only [hmode, decide_eq_true_eq] at hfits
    exact ⟨.plain, if_pos hfits⟩
  | stream =>
    simp only [hmode, decide_eq_true_eq] at hfits
    simp [CipherMode.transformOf, hfits, EngineKind.primitive, Engine.stream?]
  | cbc =>
    simp only [hmode, decide_eq_true_eq] at hfits
    obtain ⟨cipher, hcipher, hlength⟩ := hblock hfits
    obtain ⟨mode, hcreate⟩ := Cbc.exists_create (hiv.trans hlength.symm) auth.version.usesExplicitIV
    refine ⟨.cbc mode, bind_eq_ok_iff.mpr ⟨cipher, ?_, bind_eq_ok_iff.mpr ⟨mode, hcreate, rfl⟩⟩⟩
    exact CipherMode.requireBlock_eq_ok_iff.mpr hcipher
  | ctr => simp [hmode] at hfits
  | gcm | ccm | ccm8 =>
    simp only [hmode, Bool.and_eq_true, Bool.or_eq_true, decide_eq_true_eq, ← hiv] at hfits
    obtain ⟨⟨⟨htagged, hnonce⟩, hsent⟩, hcover⟩ := hfits
    obtain ⟨cipher, hcipher, -⟩ := hblock (EngineKind.blockLength_of_hasTaggedCounterModes htagged)
    rw [ivLength, ← hiv] at hnonce
    exact CipherMode.exists_taggedCounterMode hcipher htagged hnonce hsent hcover _
  | chaCha20Poly1305 =>
    simp only [hmode, Bool.and_eq_true, decide_eq_true_eq, ← hiv] at hfits
    simp [CipherMode.transformOf, hfits]
  | mgmStrong | mgmLight =>
    simp only [hmode, Bool.and_eq_true, decide_eq_true_eq] at hfits
    obtain ⟨cipher, hcipher, hlength⟩ := hblock hfits.2
    exact CipherMode.exists_multilinearMode hcipher hfits.1 (hiv.trans hlength.symm) _
  | cntImit =>
    simp only [hmode] at hfits
    exact ⟨.unavailable, if_pos hfits⟩

/-- Every suite of the catalog has a mode, under keys of its lengths. -/
theorem exists_cipherMode {suite : CipherSuite} (hsuite : suite ∈ catalog)
    {version : ProtocolVersion} (hsupports : suite.supports version = true) (forEncryption : Bool)
    {key macKey iv : Bytes} (hkey : key.length = suite.expandedKeyLength)
    (hmac : macKey.length = suite.macLength) (hiv : iv.length = suite.fixedIVLength) :
    ∃ mode, suite.cipherMode version forEncryption key macKey iv = .ok mode := by
  have hcoherent := coherent_of_mem suite hsuite
  have hengine : Engine.create suite.engine forEncryption key
      = .ok ⟨suite.engine, forEncryption, key, suite.engine.primitive key⟩ :=
    if_pos (hkey ▸ key_mem_of_coherent hcoherent)
  obtain ⟨auth, hauth⟩ : ∃ auth, suite.authenticator version macKey = .ok auth := by
    unfold authenticator
    unfold macLength at hmac
    cases hhash : suite.mac with
    | none => exact ⟨_, rfl⟩
    | some hash =>
        rw [hhash] at hmac
        exact ⟨_, if_pos hmac⟩
  obtain ⟨transform, htransform⟩ := exists_transformOf hcoherent forEncryption key auth hiv
  refine ⟨⟨suite.mode, transform, auth⟩, ?_⟩
  simp [cipherMode, hsupports, hengine, hauth, CipherMode.create, htransform, bind, Except.bind,
    pure, Except.pure]

end CipherSuite

/-! ### Cutting the block -/

namespace PrfSchedule

namespace BlockParts

/-- The parts in the order of the block. -/
def joined (parts : BlockParts) : Bytes :=
  parts.clientMac ++ parts.serverMac ++ parts.clientKey ++ parts.serverKey ++ parts.clientIV
    ++ parts.serverIV

/-- Both ends have parts of the same lengths. -/
structure Sized (parts : BlockParts) (macLength keyLength ivLength : Nat) : Prop where
  clientMac : parts.clientMac.length = macLength
  serverMac : parts.serverMac.length = macLength
  clientKey : parts.clientKey.length = keyLength
  serverKey : parts.serverKey.length = keyLength
  clientIV : parts.clientIV.length = ivLength
  serverIV : parts.serverIV.length = ivLength

end BlockParts

/-- A block that is not longer than all the parts is cut without loss. -/
theorem joined_cutBlock {suite : CipherSuite} {block : Bytes}
    (hblock : block.length
      ≤ 2 * suite.macLength + (2 * suite.keyLength + 2 * suite.fixedIVLength)) :
    (cutBlock suite block).joined = block := by
  have hpair (count : Nat) (rest : Bytes) :
      rest.take count ++ (rest.drop count).take count = rest.take (2 * count) := by
    rw [Nat.two_mul, List.take_add]
  have hmacs := hpair suite.macLength block
  have hkeys := hpair suite.keyLength (block.drop (2 * suite.macLength))
  have hivs := hpair suite.fixedIVLength
    ((block.drop (2 * suite.macLength)).drop (2 * suite.keyLength))
  calc (cutBlock suite block).joined
      = block.take (2 * suite.macLength)
          ++ ((block.drop (2 * suite.macLength)).take (2 * suite.keyLength)
            ++ ((block.drop (2 * suite.macLength)).drop (2 * suite.keyLength)).take
              (2 * suite.fixedIVLength)) := by
        simp only [BlockParts.joined, cutBlock, ← hmacs, ← hkeys, ← hivs, List.append_assoc]
    _ = block.take (2 * suite.macLength + (2 * suite.keyLength + 2 * suite.fixedIVLength)) := by
        rw [← List.take_add, ← List.take_add]
    _ = block := List.take_of_length_le hblock

/-- The IVs have what is left of the block. -/
theorem sized_cutBlock {suite : CipherSuite} {block : Bytes} {ivLength : Nat}
    (hblock : block.length = 2 * (suite.macLength + suite.keyLength + ivLength))
    (hiv : ivLength = 0 ∨ ivLength = suite.fixedIVLength) :
    (cutBlock suite block).Sized suite.macLength suite.keyLength ivLength := by
  constructor <;> simp only [cutBlock, List.length_take, List.length_drop] <;> omega

/-! ### Keys from the master secret -/

/-- The master secret of a pre-master secret: bound to the session hash, where there is one and the
extended form is in use, and to the random values otherwise. -/
inductive MasterFrom (schedule : PrfSchedule) (preMaster clientRandom serverRandom : Bytes)
    (sessionHash : Option Bytes) : Bytes → Prop
  | extended {hash master : Bytes} (hextended : schedule.extendedMasterSecret = true)
      (hhash : sessionHash = some hash)
      (houtput : PrfOutput schedule.version schedule.suite preMaster "extended master secret" hash
        48 master) :
      MasterFrom schedule preMaster clientRandom serverRandom sessionHash master
  | ordinary {master : Bytes}
      (hordinary : schedule.extendedMasterSecret = false ∨ sessionHash = none)
      (houtput : PrfOutput schedule.version schedule.suite preMaster "master secret"
        (clientRandom ++ serverRandom) 48 master) :
      MasterFrom schedule preMaster clientRandom serverRandom sessionHash master

/-- The keys of both ends, from the parts that were cut.  Export suites stretch the keys, and take
their IVs from the random values alone. -/
inductive Completed (schedule : PrfSchedule) (clientRandom serverRandom : Bytes)
    (cut : BlockParts) : BlockParts → Prop
  | ordinary (hexport : schedule.suite.isExport = false) :
      Completed schedule clientRandom serverRandom cut cut
  | stretched {clientKey serverKey clientIV serverIV : Bytes}
      (hexport : schedule.suite.isExport = true)
      (hclient : PrfOutput schedule.version schedule.suite cut.clientKey "client write key"
        (clientRandom ++ serverRandom) schedule.suite.expandedKeyLength clientKey)
      (hserver : PrfOutput schedule.version schedule.suite cut.serverKey "server write key"
        (clientRandom ++ serverRandom) schedule.suite.expandedKeyLength serverKey)
      (hivs : PrfOutput schedule.version schedule.suite [] "IV block"
        (clientRandom ++ serverRandom) (2 * schedule.suite.fixedIVLength) (clientIV ++ serverIV)) :
      Completed schedule clientRandom serverRandom cut
        ⟨cut.clientMac, cut.serverMac, clientKey, serverKey, clientIV, serverIV⟩

end PrfSchedule

/-- The secrets of a key block are the parts, each in its place. -/
structure KeyBlock.Holds (block : KeyBlock) (parts : PrfSchedule.BlockParts) : Prop where
  clientMac : block.client.macKey.data = .ok parts.clientMac
  serverMac : block.server.macKey.data = .ok parts.serverMac
  clientKey : block.client.key.data = .ok parts.clientKey
  serverKey : block.server.key.data = .ok parts.serverKey
  clientIV : block.client.iv.data = .ok parts.clientIV
  serverIV : block.server.iv.data = .ok parts.serverIV

theorem CipherSuite.expandedKeyLength_of_not_export :
    ∀ suite ∈ catalog, suite.isExport = false → suite.expandedKeyLength = suite.keyLength := by
  decide

theorem CipherSuite.version_of_isExport {suite : CipherSuite} (h13 : suite.is13 = false)
    (hexport : suite.isExport = true) {version : ProtocolVersion}
    (hsupports : suite.supports version = true) : version = .tls10 := by
  cases version <;> simp [supports, h13, hexport, ProtocolVersion.is13] at hsupports ⊢

namespace PrfSchedule

/-- How a key block comes from a master secret and the random values. -/
structure Derives (schedule : PrfSchedule) (master clientRandom serverRandom : Bytes)
    (cut parts : BlockParts) (block : KeyBlock) : Prop where
  derived : (schedule.withMaster master clientRandom serverRandom).deriveKeyBlock = .ok block
  /-- The parts that are cut are all that the master secret expands to. -/
  material : PrfOutput schedule.version schedule.suite master "key expansion"
    (serverRandom ++ clientRandom) schedule.suite.keyBlockLength cut.joined
  cutSized : cut.Sized schedule.suite.macLength schedule.suite.keyLength
    (if schedule.suite.isExport then 0 else schedule.suite.fixedIVLength)
  completed : schedule.Completed clientRandom serverRandom cut parts
  sized : parts.Sized schedule.suite.macLength schedule.suite.expandedKeyLength
    schedule.suite.fixedIVLength
  holds : block.Holds parts

theorem holds_keyBlockOf (parts : BlockParts) : (keyBlockOf parts).Holds parts :=
  ⟨rfl, rfl, rfl, rfl, rfl, rfl⟩

section Derivation

variable {schedule : PrfSchedule} {master clientRandom serverRandom material : Bytes}

/-- A master secret leaves version and suite alone, and so what keys are derived by. -/
theorem prf_withMaster (schedule : PrfSchedule) (master clientRandom serverRandom : Bytes) :
    (schedule.withMaster master clientRandom serverRandom).prf = schedule.prf :=
  rfl

theorem expandExport_withMaster (schedule : PrfSchedule)
    (master clientRandom serverRandom : Bytes) :
    (schedule.withMaster master clientRandom serverRandom).expandExport = schedule.expandExport :=
  rfl

/-- Where the version may be used, a block is only expanded and cut. -/
theorem deriveKeyBlock_withMaster
    (hversion : schedule.suite.isExport = true → schedule.version = .tls10)
    (hmaterial : schedule.prf master "key expansion" (serverRandom ++ clientRandom)
      schedule.suite.keyBlockLength = .ok material) :
    (schedule.withMaster master clientRandom serverRandom).deriveKeyBlock
      = (if schedule.suite.isExport then
          schedule.expandExport ⟨Secret.ofBytes "master secret" master, clientRandom, serverRandom⟩
            (cutBlock schedule.suite material)
        else .ok (cutBlock schedule.suite material)).map keyBlockOf := by
  rw [deriveKeyBlock, prf_withMaster, expandExport_withMaster]
  simp only [withMaster, masterSession, bind, Except.bind, Secret.data_ofBytes, hmaterial]
  by_cases hexport : schedule.suite.isExport = true
  · simp only [hexport, hversion hexport, Bool.true_and, bne_self_eq_false, Bool.false_eq_true,
      if_false, if_true]
    rfl
  · simp only [hexport, Bool.false_and, Bool.false_eq_true, if_false]
    rfl

/-- Export keys are stretched to the lengths of the engine and the mode. -/
theorem exists_stretched (hversion : schedule.version.is13 = false)
    (hexport : schedule.suite.isExport = true) (session : MasterSession) {cut : BlockParts}
    {ivLength : Nat} (hcut : cut.Sized schedule.suite.macLength schedule.suite.keyLength ivLength) :
    ∃ parts, schedule.expandExport session cut = .ok parts
      ∧ schedule.Completed session.clientRandom session.serverRandom cut parts
      ∧ parts.Sized schedule.suite.macLength schedule.suite.expandedKeyLength
        schedule.suite.fixedIVLength := by
  have hprf (secret : Bytes) (label : String) :=
    exists_prf hversion secret label (session.clientRandom ++ session.serverRandom)
  obtain ⟨clientKey, hclient, hclientOutput⟩ :=
    hprf cut.clientKey "client write key" schedule.suite.expandedKeyLength
  obtain ⟨serverKey, hserver, hserverOutput⟩ :=
    hprf cut.serverKey "server write key" schedule.suite.expandedKeyLength
  obtain ⟨ivs, hivs, hivsOutput⟩ := hprf [] "IV block" (2 * schedule.suite.fixedIVLength)
  have hlength := hivsOutput.length_eq
  have hsplit := List.take_append_drop schedule.suite.fixedIVLength ivs
  refine ⟨_, ?_, .stretched hexport hclientOutput hserverOutput (hsplit.symm ▸ hivsOutput),
    hcut.clientMac, hcut.serverMac, hclientOutput.length_eq, hserverOutput.length_eq, ?_, ?_⟩
  · simp only [expandExport, hclient, hserver, hivs]
    rfl
  · simp only [List.length_take]
    omega
  · simp only [List.length_drop]
    omega

theorem exists_masterFrom (hversion : schedule.version.is13 = false) (preMaster : Bytes)
    (sessionHash : Option Bytes) :
    ∃ master, schedule.masterOf preMaster clientRandom serverRandom sessionHash = .ok master
      ∧ schedule.MasterFrom preMaster clientRandom serverRandom sessionHash master := by
  obtain ⟨master, hmaster, houtput⟩ := exists_prf hversion preMaster "master secret"
    (clientRandom ++ serverRandom) masterSecretLength
  cases sessionHash with
  | none => exact ⟨master, hmaster, .ordinary (.inr rfl) houtput⟩
  | some hash =>
      cases hextended : schedule.extendedMasterSecret with
      | false =>
          refine ⟨master, ?_, .ordinary (.inl hextended) houtput⟩
          simp only [masterOf, hextended]
          exact hmaster
      | true =>
          obtain ⟨bound, hbound, houtput⟩ :=
            exists_prf hversion preMaster "extended master secret" hash masterSecretLength
          refine ⟨bound, ?_, .extended hextended rfl houtput⟩
          simp only [masterOf, hextended]
          exact hbound

theorem exists_derives (hsuite : schedule.suite ∈ CipherSuite.catalog)
    (h13 : schedule.suite.is13 = false)
    (hsupports : schedule.suite.supports schedule.version = true)
    (master clientRandom serverRandom : Bytes) :
    ∃ cut parts block, schedule.Derives master clientRandom serverRandom cut parts block := by
  have hversion : schedule.version.is13 = false := by
    rw [← CipherSuite.is13_of_supports hsupports, h13]
  obtain ⟨material, hmaterial, houtput⟩ := exists_prf hversion master "key expansion"
    (serverRandom ++ clientRandom) schedule.suite.keyBlockLength
  have hlength : material.length = 2 * (schedule.suite.macLength + schedule.suite.keyLength
      + if schedule.suite.isExport then 0 else schedule.suite.fixedIVLength) :=
    houtput.length_eq
  have hjoined : (cutBlock schedule.suite material).joined = material := by
    refine joined_cutBlock ?_
    split at hlength <;> omega
  have hcut := sized_cutBlock hlength (by split <;> simp)
  have hderived := deriveKeyBlock_withMaster
    (fun hexport => CipherSuite.version_of_isExport h13 hexport hsupports) hmaterial
  rw [← hjoined] at houtput
  cases hexport : schedule.suite.isExport with
  | false =>
      rw [hexport, if_neg Bool.false_ne_true] at hderived
      refine ⟨_, _, _, hderived, houtput, hcut, .ordinary hexport, ?_, holds_keyBlockOf _⟩
      rw [CipherSuite.expandedKeyLength_of_not_export _ hsuite hexport]
      rwa [hexport, if_neg Bool.false_ne_true] at hcut
  | true =>
      obtain ⟨parts, hparts, hcompleted, hsized⟩ := exists_stretched hversion hexport
        ⟨Secret.ofBytes "master secret" master, clientRandom, serverRandom⟩ hcut
      rw [hexport, if_pos rfl, hparts] at hderived
      exact ⟨_, parts, _, hderived, houtput, hcut, hcompleted, hsized, holds_keyBlockOf _⟩

end Derivation

end PrfSchedule

/-! ### Installation at both ends -/

theorem TrafficKeys.exists_cipherMode {keys : TrafficKeys} {key macKey iv : Bytes}
    (hkeyData : keys.key.data = .ok key) (hmacData : keys.macKey.data = .ok macKey)
    (hivData : keys.iv.data = .ok iv) {suite : CipherSuite} (hsuite : suite ∈ CipherSuite.catalog)
    {version : ProtocolVersion} (hsupports : suite.supports version = true)
    (hkey : key.length = suite.expandedKeyLength) (hmac : macKey.length = suite.macLength)
    (hiv : iv.length = suite.fixedIVLength) :
    ∃ mode, keys.cipherMode suite version true = .ok mode := by
  obtain ⟨mode, hmode⟩ := CipherSuite.exists_cipherMode hsuite hsupports true hkey hmac hiv
  refine ⟨mode, ?_⟩
  simp only [cipherMode, hkeyData, hmacData, hivData, bind, Except.bind, hmode]

theorem KeyBlock.Holds.exists_cipherMode {block : KeyBlock} {parts : PrfSchedule.BlockParts}
    (hholds : block.Holds parts) {suite : CipherSuite} (hsuite : suite ∈ CipherSuite.catalog)
    {version : ProtocolVersion} (hsupports : suite.supports version = true)
    (hsized : parts.Sized suite.macLength suite.expandedKeyLength suite.fixedIVLength)
    (role : Role) : ∃ mode, (block.side role).cipherMode suite version true = .ok mode := by
  cases role with
  | client =>
      exact TrafficKeys.exists_cipherMode hholds.clientKey hholds.clientMac hholds.clientIV hsuite
        hsupports hsized.clientKey hsized.clientMac hsized.clientIV
  | server =>
      exact TrafficKeys.exists_cipherMode hholds.serverKey hholds.serverMac hholds.serverIV hsuite
        hsupports hsized.serverKey hsized.serverMac hsized.serverIV

namespace Protector

/-- A new end writes under its own side of the block, and reads under that of its peer. -/
theorem installKeyBlock_create {params : Parameters} (hversion : params.version.is13 = false)
    (config : Config) {block : KeyBlock} {write read : CipherMode}
    (hwrite : (block.side params.role).cipherMode params.suite params.version true = .ok write)
    (hread : (block.side params.role.peer).cipherMode params.suite params.version true
      = .ok read) :
    (create params config).installKeyBlock block
      = (.ok (), { create params config with
        write := Direction.install write 1
        read := Direction.install read 1 }) := by
  refine installKeyBlock_eq_ok_iff.mpr ⟨hversion, _, _, ?_, ?_, rfl⟩
  · exact bind_eq_ok_iff.mpr ⟨write, hwrite, bind_eq_ok_iff.mpr ⟨1, rfl, rfl⟩⟩
  · rw [← TrafficKeys.cipherMode_forEncryption _ _ _ false] at hread
    exact bind_eq_ok_iff.mpr ⟨read, hread, bind_eq_ok_iff.mpr ⟨1, rfl, rfl⟩⟩

end Protector

namespace PrfSchedule

/-- Both ends take the keys, and each comes to write under the keys that the other reads under. -/
structure Connects (schedule : PrfSchedule) (block : KeyBlock) (client server : Protector) :
    Prop where
  client_write : ∃ mode, block.client.cipherMode schedule.suite schedule.version true = .ok mode
    ∧ client.write = Direction.install mode 1
  server_write : ∃ mode, block.server.cipherMode schedule.suite schedule.version true = .ok mode
    ∧ server.write = Direction.install mode 1
  server_read : server.read = client.write
  client_read : client.read = server.write

/-- For every suite before version 1.3 and every version that it supports, a master secret can be
derived, and from it a key block, which both ends can install.  The parts of the block are all that
the pseudorandom function of the version expands the master secret to. -/
theorem keyBlock_connects {schedule : PrfSchedule} (hsuite : schedule.suite ∈ CipherSuite.catalog)
    (h13 : schedule.suite.is13 = false)
    (hsupports : schedule.suite.supports schedule.version = true)
    (preMaster clientRandom serverRandom : Bytes) (sessionHash : Option Bytes) :
    ∃ master cut parts block,
      schedule.deriveMasterSecret preMaster clientRandom serverRandom sessionHash
          = (.ok (Secret.ofBytes "master secret" master),
            schedule.withMaster master clientRandom serverRandom)
        ∧ schedule.MasterFrom preMaster clientRandom serverRandom sessionHash master
        ∧ schedule.Derives master clientRandom serverRandom cut parts block
        ∧ ∀ clientConfig serverConfig, ∃ client server,
          (Protector.create ⟨schedule.version, .client, schedule.suite⟩
                clientConfig).installKeyBlock block = (.ok (), client)
            ∧ (Protector.create ⟨schedule.version, .server, schedule.suite⟩
                serverConfig).installKeyBlock block = (.ok (), server)
            ∧ schedule.Connects block client server := by
  have hversion : schedule.version.is13 = false := by
    rw [← CipherSuite.is13_of_supports hsupports, h13]
  obtain ⟨master, hmaster, hfrom⟩ := @exists_masterFrom schedule clientRandom serverRandom hversion
    preMaster sessionHash
  obtain ⟨cut, parts, block, hderives⟩ :=
    exists_derives hsuite h13 hsupports master clientRandom serverRandom
  have hmodes := hderives.holds.exists_cipherMode hsuite hsupports hderives.sized
  obtain ⟨clientMode, hclient⟩ := hmodes .client
  obtain ⟨serverMode, hserver⟩ := hmodes .server
  refine ⟨master, cut, parts, block, ?_, hfrom, hderives, fun clientConfig serverConfig => ?_⟩
  · simp only [deriveMasterSecret, hmaster]
  · exact ⟨_, _, Protector.installKeyBlock_create hversion clientConfig hclient hserver,
      Protector.installKeyBlock_create hversion serverConfig hserver hclient,
      ⟨clientMode, hclient, rfl⟩, ⟨serverMode, hserver, rfl⟩, rfl, rfl⟩

/-- A schedule with short keys, before it has a master secret. -/
def exportSchedule : PrfSchedule where
  version := .tls10
  suite := CipherSuite.exportCbc 0x0006 "TLS_RSA_EXPORT_WITH_RC2_CBC_40_MD5" .rc2 16 .md5
  extendedMasterSecret := true
  session := none

def clientValue : Bytes := List.replicate 32 0x11

def serverValue : Bytes := List.replicate 32 0x22

/-- Its keys are stretched from five bytes to sixteen. -/
theorem exportSchedule_connects :
    ∃ (master : Bytes) (cut parts : BlockParts) (block : KeyBlock) (client server : Protector),
      exportSchedule.deriveMasterSecret (Bytes.zeros 48) clientValue serverValue (some [1])
          = (.ok (Secret.ofBytes "master secret" master),
            exportSchedule.withMaster master clientValue serverValue)
        ∧ master = prf10 (Bytes.zeros 48) "extended master secret" [1] 48
        ∧ (exportSchedule.withMaster master clientValue serverValue).deriveKeyBlock = .ok block
        ∧ cut.joined = prf10 master "key expansion" (serverValue ++ clientValue) 42
        ∧ cut.Sized 16 5 0
        ∧ block.Holds parts
        ∧ parts.clientKey = prf10 cut.clientKey "client write key" (clientValue ++ serverValue) 16
        ∧ parts.clientIV ++ parts.serverIV = prf10 [] "IV block" (clientValue ++ serverValue) 16
        ∧ (Protector.create ⟨.tls10, .client, exportSchedule.suite⟩ {}).installKeyBlock block
          = (.ok (), client)
        ∧ (Protector.create ⟨.tls10, .server, exportSchedule.suite⟩ {}).installKeyBlock block
          = (.ok (), server)
        ∧ server.read = client.write := by
  have hsuite : exportSchedule.suite ∈ CipherSuite.catalog := by decide
  have hversion : exportSchedule.version ∈ [.tls10, .tls11, .dtls10] := by decide
  obtain ⟨master, cut, parts, block, hmaster, hfrom, hderives, hconnects⟩ :=
    keyBlock_connects hsuite rfl rfl (Bytes.zeros 48) clientValue serverValue (some [1])
  obtain ⟨client, server, hclient, hserver, hpair⟩ := hconnects {} {}
  have hextended : master = prf10 (Bytes.zeros 48) "extended master secret" [1] 48 := by
    cases hfrom with
    | extended _ hhash houtput =>
        cases hhash
        exact houtput.eq_prf10 hversion
    | ordinary hordinary => cases hordinary <;> contradiction
  have hstretched : parts.clientKey
        = prf10 cut.clientKey "client write key" (clientValue ++ serverValue) 16
      ∧ parts.clientIV ++ parts.serverIV
        = prf10 [] "IV block" (clientValue ++ serverValue) 16 := by
    cases hderives.completed with
    | ordinary hexport => cases hexport
    | stretched _ hclientKey _ hivs =>
        exact ⟨hclientKey.eq_prf10 hversion, hivs.eq_prf10 hversion⟩
  exact ⟨master, cut, parts, block, client, server, hmaster, hextended, hderives.derived,
    hderives.material.eq_prf10 hversion, hderives.cutSized, hderives.holds, hstretched.1,
    hstretched.2, hclient, hserver, hpair.server_read⟩

end PrfSchedule

end RecordProtection
