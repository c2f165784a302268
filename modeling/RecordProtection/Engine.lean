import RecordProtection.EngineKind
import RecordProtection.Block.Aes
import RecordProtection.Block.Aria
import RecordProtection.Block.Camellia
import RecordProtection.Block.Des
import RecordProtection.Block.Idea
import RecordProtection.Block.Kuznyechik
import RecordProtection.Block.Magma
import RecordProtection.Block.Rc2
import RecordProtection.Block.Seed
import RecordProtection.Block.Sm4
import RecordProtection.Stream.Cipher

/-!
Keyed ciphers that know nothing of records.
-/

namespace RecordProtection

inductive Primitive where
  | identity
  | block (cipher : BlockCipher)
  | stream (cipher : StreamCipher)

/-- What a cipher does under a key of one of its key lengths. -/
def EngineKind.primitive : EngineKind → (key : Bytes) → Primitive
  | none, _ => .identity
  | aes, key => .block (RecordProtection.aes key)
  | des, key => .block (RecordProtection.des key)
  | tripleDes, key => .block (RecordProtection.tripleDes key)
  | idea, key => .block (RecordProtection.idea key)
  | rc2, key => .block (RecordProtection.rc2 key)
  | rc4, key => .stream (StreamCipher.ofRc4Key key)
  | chacha20, key => .stream (StreamCipher.ofChaCha20Key key)
  | camellia, key => .block (RecordProtection.camellia key)
  | aria, key => .block (RecordProtection.aria key)
  | seed, key => .block (RecordProtection.seed key)
  | sm4, key => .block (RecordProtection.sm4 key)
  | magma, key => .block (RecordProtection.magma key)
  | kuznyechik, key => .block (RecordProtection.kuznyechik key)

structure Engine where
  kind : EngineKind
  forEncryption : Bool
  key : Bytes
  primitive : Primitive

namespace Engine

/-- A wrong key length is compared with the shortest right one. -/
def create (kind : EngineKind) (forEncryption : Bool) (key : Bytes) : Except RecordError Engine :=
  if key.length ∈ kind.keyLengths then
    .ok ⟨kind, forEncryption, key, kind.primitive key⟩
  else
    .error (.invalidKeyLength (kind.keyLengths.headD 0) key.length)

def blockLength (engine : Engine) : Option Nat :=
  match engine.primitive with
  | .block cipher => some cipher.blockLength
  | _ => none

def block? (engine : Engine) : Option BlockCipher :=
  match engine.primitive with
  | .block cipher => some cipher
  | _ => none

def stream? (engine : Engine) : Option StreamCipher :=
  match engine.primitive with
  | .stream cipher => some cipher
  | _ => none

/-- Encrypts or decrypts one input, of exactly a block for block ciphers, if there is room for the
output. -/
def process (engine : Engine) (input : Bytes) (room : Nat) : Except RecordError Bytes × Engine :=
  if room < input.length then
    (.error (.recordTooShort room), engine)
  else
    match engine.primitive with
    | .identity => (.ok input, engine)
    | .stream cipher =>
        let (output, cipher) := cipher.apply input
        (.ok output, { engine with primitive := .stream cipher })
    | .block cipher =>
        if input.length ≠ cipher.blockLength then
          (.error (.unsupportedOperation "input is not one block"), engine)
        else if engine.forEncryption then
          (.ok (cipher.encrypt input), engine)
        else
          (.ok (cipher.decrypt input), engine)

def withStream (engine : Engine) (cipher : StreamCipher) : Engine :=
  { engine with primitive := .stream cipher }

/-- Only keystreams have a state to go back from. -/
def reset (engine : Engine) : Engine :=
  match engine.stream? with
  | some cipher => engine.withStream cipher.reset
  | none => engine

end Engine

end RecordProtection
