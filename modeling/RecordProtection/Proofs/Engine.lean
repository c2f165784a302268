import RecordProtection.Engine
import RecordProtection.Proofs.Block.Aes
import RecordProtection.Proofs.Block.Aria
import RecordProtection.Proofs.Block.Camellia
import RecordProtection.Proofs.Block.Des
import RecordProtection.Proofs.Block.Feistel
import RecordProtection.Proofs.Block.Idea
import RecordProtection.Proofs.Block.Kuznyechik
import RecordProtection.Proofs.Block.Rc2

/-!
# Engines hold lawful ciphers

Under a key of one of its lengths, every block cipher of the engines is lawful, and its blocks
have the length that the kind announces.
-/

namespace RecordProtection

theorem EngineKind.lawful_of_primitive {kind : EngineKind} {key : Bytes}
    (hkey : key.length ∈ kind.keyLengths) {cipher : BlockCipher}
    (hblock : kind.primitive key = .block cipher) : cipher.Lawful := by
  cases kind <;> simp only [primitive, Primitive.block.injEq, reduceCtorEq] at hblock <;>
    subst hblock
  case aes => exact aes_lawful hkey
  case des => exact des_lawful key
  case tripleDes => exact tripleDes_lawful key
  case idea => exact idea_lawful key
  case rc2 => exact rc2_lawful key
  case camellia => exact camellia_lawful key
  case aria => exact aria_lawful hkey
  case seed => exact seed_lawful key
  case sm4 => exact sm4_lawful key
  case magma => exact magma_lawful key
  case kuznyechik => exact kuznyechik_lawful (by simpa [keyLengths] using hkey)

theorem EngineKind.blockLength_of_primitive {kind : EngineKind} {key : Bytes} {cipher : BlockCipher}
    (hblock : kind.primitive key = .block cipher) : kind.blockLength = some cipher.blockLength := by
  cases kind <;> simp only [primitive, Primitive.block.injEq, reduceCtorEq] at hblock <;>
    subst hblock <;> rfl

theorem EngineKind.exists_block {kind : EngineKind} {length : Nat}
    (hlength : kind.blockLength = some length) (key : Bytes) :
    ∃ cipher, kind.primitive key = .block cipher ∧ cipher.blockLength = length := by
  cases hprimitive : kind.primitive key with
  | block cipher =>
      have hblock := blockLength_of_primitive hprimitive
      exact ⟨cipher, rfl, Option.some.inj (hblock.symm.trans hlength)⟩
  | _ => cases kind <;> simp [primitive, blockLength] at hprimitive hlength

theorem EngineKind.blockLength_of_hasTaggedCounterModes {kind : EngineKind}
    (htagged : kind.hasTaggedCounterModes = true) : kind.blockLength = some 16 := by
  cases kind <;> simp [hasTaggedCounterModes] at htagged <;> rfl

namespace Engine

theorem create_eq_ok_iff {kind : EngineKind} {forEncryption : Bool} {key : Bytes}
    {engine : Engine} :
    create kind forEncryption key = .ok engine
      ↔ key.length ∈ kind.keyLengths ∧ engine = ⟨kind, forEncryption, key, kind.primitive key⟩ := by
  unfold create
  split
  · rename_i hkey
    rw [Except.ok.injEq]
    exact ⟨fun h => ⟨hkey, h.symm⟩, fun h => h.2.symm⟩
  · rename_i hkey
    exact ⟨fun h => (nomatch h), fun h => absurd h.1 hkey⟩

theorem block?_eq_some_iff {engine : Engine} {cipher : BlockCipher} :
    engine.block? = some cipher ↔ engine.primitive = .block cipher := by
  obtain ⟨kind, forEncryption, key, primitive⟩ := engine
  cases primitive <;> simp [block?]

/-- The block cipher of an engine is lawful, with the block length of the engine's kind. -/
structure Lawful (engine : Engine) : Prop where
  cipher : ∀ cipher, engine.block? = some cipher → cipher.Lawful
  blockLength : ∀ cipher, engine.block? = some cipher →
    engine.kind.blockLength = some cipher.blockLength

theorem lawful_of_create {kind : EngineKind} {forEncryption : Bool} {key : Bytes}
    {engine : Engine} (hcreate : create kind forEncryption key = .ok engine) : engine.Lawful := by
  obtain ⟨hkey, rfl⟩ := create_eq_ok_iff.mp hcreate
  exact ⟨fun _ hblock => EngineKind.lawful_of_primitive hkey (block?_eq_some_iff.mp hblock),
    fun _ hblock => EngineKind.blockLength_of_primitive (block?_eq_some_iff.mp hblock)⟩

/-- An engine after its creation, its direct use, and any moves of its keystream. -/
inductive Reached : Engine → Prop
  | created {kind : EngineKind} {forEncryption : Bool} {key : Bytes} {engine : Engine}
      (hcreate : create kind forEncryption key = .ok engine) : Reached engine
  | processed {engine : Engine} (hengine : Reached engine) (input : Bytes) (room : Nat) :
      Reached (engine.process input room).2
  | streamed {engine : Engine} (hengine : Reached engine) (cipher : StreamCipher) :
      Reached (engine.withStream cipher)

theorem process_eq (engine : Engine) (input : Bytes) (room : Nat) :
    (engine.process input room).2 = engine
      ∨ ∃ cipher, (engine.process input room).2 = engine.withStream cipher := by
  unfold process
  split
  · exact .inl rfl
  · split
    · exact .inl rfl
    · exact .inr ⟨_, rfl⟩
    · refine .inl ?_
      split
      · rfl
      · split <;> rfl

theorem lawful_withStream (engine : Engine) (cipher : StreamCipher) :
    (engine.withStream cipher).Lawful where
  cipher _ hblock := nomatch hblock
  blockLength _ hblock := nomatch hblock

theorem Reached.lawful {engine : Engine} (hengine : engine.Reached) : engine.Lawful := by
  induction hengine with
  | created hcreate => exact lawful_of_create hcreate
  | @processed engine _ input room ih =>
      obtain heq | ⟨cipher, heq⟩ := engine.process_eq input room
      · rw [heq]
        exact ih
      · rw [heq]
        exact engine.lawful_withStream cipher
  | @streamed engine _ cipher _ => exact engine.lawful_withStream cipher

end Engine

end RecordProtection
