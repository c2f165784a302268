import RecordProtection.Error

/-!
The ciphers a suite can name, with their key and block lengths.
-/

namespace RecordProtection

inductive EngineKind where
  | none
  | aes
  | des
  | tripleDes
  | idea
  | rc2
  | rc4
  | chacha20
  | camellia
  | aria
  | seed
  | sm4
  | magma
  | kuznyechik
  deriving DecidableEq, Repr, Inhabited

namespace EngineKind

def all : List EngineKind := [
    none, aes, des, tripleDes, idea, rc2, rc4, chacha20, camellia, aria, seed, sm4, magma,
    kuznyechik]

def name : EngineKind → String
  | none => "NULL"
  | aes => "AES"
  | des => "DES"
  | tripleDes => "3DES"
  | idea => "IDEA"
  | rc2 => "RC2"
  | rc4 => "RC4"
  | chacha20 => "ChaCha20"
  | camellia => "Camellia"
  | aria => "ARIA"
  | seed => "SEED"
  | sm4 => "SM4"
  | magma => "Magma"
  | kuznyechik => "Kuznyechik"

/-- The kind as it is named in summaries. -/
def tag : EngineKind → String
  | none => "None"
  | aes => "Aes"
  | des => "Des"
  | tripleDes => "TripleDes"
  | idea => "Idea"
  | rc2 => "Rc2"
  | rc4 => "Rc4"
  | chacha20 => "ChaCha20"
  | camellia => "Camellia"
  | aria => "Aria"
  | seed => "Seed"
  | sm4 => "Sm4"
  | magma => "Magma"
  | kuznyechik => "Kuznyechik"

def keyLengths : EngineKind → List Nat
  | none => [0]
  | aes | camellia | aria => [16, 24, 32]
  | des => [8]
  | tripleDes => [24]
  | idea | rc2 | rc4 | seed | sm4 => [16]
  | chacha20 | magma | kuznyechik => [32]

def blockLength : EngineKind → Option Nat
  | none | rc4 | chacha20 => Option.none
  | des | tripleDes | idea | rc2 | magma => some 8
  | aes | camellia | aria | seed | sm4 | kuznyechik => some 16

def isStream : EngineKind → Bool
  | rc4 | chacha20 => true
  | _ => false

def isMultilinear : EngineKind → Bool
  | magma | kuznyechik => true
  | _ => false

def hasTaggedCounterModes : EngineKind → Bool
  | aes | camellia | aria | sm4 | kuznyechik => true
  | _ => false

end EngineKind

end RecordProtection
