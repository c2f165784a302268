import RecordProtection.Suite.Basic

/-!
The cipher suites that can be used, under the identifiers of the public registry.
-/

namespace RecordProtection

namespace CipherSuite

def plain (id : UInt16) (name : String) (mac : Option HashAlgorithm) : CipherSuite :=
  { id, name, engine := .none, keyLength := 0, expandedKeyLength := 0, mode := .null, mac }

def rc4 (id : UInt16) (name : String) (mac : HashAlgorithm) (isExport : Bool) : CipherSuite :=
  { id, name, engine := .rc4, keyLength := if isExport then 5 else 16, expandedKeyLength := 16
    mode := .stream, mac := some mac, isExport }

def cbc (id : UInt16) (name : String) (engine : EngineKind) (keyLength blockLength : Nat)
    (mac : HashAlgorithm) : CipherSuite :=
  { id, name, engine, keyLength, expandedKeyLength := keyLength, mode := .cbc
    fixedIVLength := blockLength, mac := some mac
    prfHash := if mac = .sha384 then .sha384 else .sha256 }

/-- Export suites take five key bytes from the key block. -/
def exportCbc (id : UInt16) (name : String) (engine : EngineKind) (expandedKeyLength : Nat)
    (mac : HashAlgorithm) : CipherSuite :=
  { cbc id name engine 5 8 mac with expandedKeyLength := expandedKeyLength, isExport := true }

/-- Nonces have four fixed bytes and eight that are sent. -/
def aead12 (id : UInt16) (name : String) (engine : EngineKind) (keyLength : Nat) (mode : ModeKind)
    (prfHash : HashAlgorithm) : CipherSuite :=
  { id, name, engine, keyLength, expandedKeyLength := keyLength, mode, fixedIVLength := 4
    explicitNonceLength := 8, tagLength := if mode = .ccm8 then 8 else 16, prfHash }

def chaCha12 (id : UInt16) (name : String) : CipherSuite :=
  { id, name, engine := .chacha20, keyLength := 32, expandedKeyLength := 32
    mode := .chaCha20Poly1305, fixedIVLength := 12, tagLength := 16 }

def aead13 (id : UInt16) (name : String) (engine : EngineKind) (keyLength : Nat) (mode : ModeKind)
    (ivLength tagLength : Nat) (prfHash : HashAlgorithm) : CipherSuite :=
  { id, name, engine, keyLength, expandedKeyLength := keyLength, mode, fixedIVLength := ivLength
    tagLength, prfHash, is13 := true }

def counterImit (id : UInt16) (name : String) (engine : EngineKind) (blockLength : Nat) :
    CipherSuite :=
  { id, name, engine, keyLength := 32, expandedKeyLength := 32, mode := .cntImit
    fixedIVLength := blockLength / 2, prfHash := .streebog256 }

/-- The IV is a block, and so is the tag of the strong modes; that of the light ones is half. -/
def multilinear13 (id : UInt16) (name : String) (engine : EngineKind) (blockLength : Nat)
    (strong : Bool) : CipherSuite :=
  aead13 id name engine 32 (if strong then .mgmStrong else .mgmLight) blockLength
    (if strong then blockLength else blockLength / 2) .streebog256

/-- The suite that protects nothing, in use before any keys are. -/
def unprotected : CipherSuite := plain 0x0000 "TLS_NULL_WITH_NULL_NULL" none

def catalog : List CipherSuite := [
    plain 0x0000 "TLS_NULL_WITH_NULL_NULL" none,
    plain 0x0001 "TLS_RSA_WITH_NULL_MD5" (some .md5),
    plain 0x0002 "TLS_RSA_WITH_NULL_SHA" (some .sha1),
    plain 0x003b "TLS_RSA_WITH_NULL_SHA256" (some .sha256),
    rc4 0x0003 "TLS_RSA_EXPORT_WITH_RC4_40_MD5" .md5 true,
    rc4 0x0004 "TLS_RSA_WITH_RC4_128_MD5" .md5 false,
    rc4 0x0005 "TLS_RSA_WITH_RC4_128_SHA" .sha1 false,
    exportCbc 0x0006 "TLS_RSA_EXPORT_WITH_RC2_CBC_40_MD5" .rc2 16 .md5,
    cbc 0x0007 "TLS_RSA_WITH_IDEA_CBC_SHA" .idea 16 8 .sha1,
    exportCbc 0x0008 "TLS_RSA_EXPORT_WITH_DES40_CBC_SHA" .des 8 .sha1,
    cbc 0x0009 "TLS_RSA_WITH_DES_CBC_SHA" .des 8 8 .sha1,
    cbc 0x000a "TLS_RSA_WITH_3DES_EDE_CBC_SHA" .tripleDes 24 8 .sha1,
    cbc 0x0096 "TLS_RSA_WITH_SEED_CBC_SHA" .seed 16 16 .sha1,
    cbc 0x002f "TLS_RSA_WITH_AES_128_CBC_SHA" .aes 16 16 .sha1,
    cbc 0x0035 "TLS_RSA_WITH_AES_256_CBC_SHA" .aes 32 16 .sha1,
    cbc 0x003c "TLS_RSA_WITH_AES_128_CBC_SHA256" .aes 16 16 .sha256,
    cbc 0x003d "TLS_RSA_WITH_AES_256_CBC_SHA256" .aes 32 16 .sha256,
    cbc 0xc009 "TLS_ECDHE_ECDSA_WITH_AES_128_CBC_SHA" .aes 16 16 .sha1,
    cbc 0xc00a "TLS_ECDHE_ECDSA_WITH_AES_256_CBC_SHA" .aes 32 16 .sha1,
    cbc 0xc013 "TLS_ECDHE_RSA_WITH_AES_128_CBC_SHA" .aes 16 16 .sha1,
    cbc 0xc014 "TLS_ECDHE_RSA_WITH_AES_256_CBC_SHA" .aes 32 16 .sha1,
    cbc 0xc023 "TLS_ECDHE_ECDSA_WITH_AES_128_CBC_SHA256" .aes 16 16 .sha256,
    cbc 0xc024 "TLS_ECDHE_ECDSA_WITH_AES_256_CBC_SHA384" .aes 32 16 .sha384,
    cbc 0xc027 "TLS_ECDHE_RSA_WITH_AES_128_CBC_SHA256" .aes 16 16 .sha256,
    cbc 0xc028 "TLS_ECDHE_RSA_WITH_AES_256_CBC_SHA384" .aes 32 16 .sha384,
    aead12 0x009c "TLS_RSA_WITH_AES_128_GCM_SHA256" .aes 16 .gcm .sha256,
    aead12 0x009d "TLS_RSA_WITH_AES_256_GCM_SHA384" .aes 32 .gcm .sha384,
    aead12 0xc02b "TLS_ECDHE_ECDSA_WITH_AES_128_GCM_SHA256" .aes 16 .gcm .sha256,
    aead12 0xc02c "TLS_ECDHE_ECDSA_WITH_AES_256_GCM_SHA384" .aes 32 .gcm .sha384,
    aead12 0xc02f "TLS_ECDHE_RSA_WITH_AES_128_GCM_SHA256" .aes 16 .gcm .sha256,
    aead12 0xc030 "TLS_ECDHE_RSA_WITH_AES_256_GCM_SHA384" .aes 32 .gcm .sha384,
    aead12 0xc09c "TLS_RSA_WITH_AES_128_CCM" .aes 16 .ccm .sha256,
    aead12 0xc09d "TLS_RSA_WITH_AES_256_CCM" .aes 32 .ccm .sha256,
    aead12 0xc0a0 "TLS_RSA_WITH_AES_128_CCM_8" .aes 16 .ccm8 .sha256,
    aead12 0xc0a1 "TLS_RSA_WITH_AES_256_CCM_8" .aes 32 .ccm8 .sha256,
    aead12 0xc0ac "TLS_ECDHE_ECDSA_WITH_AES_128_CCM" .aes 16 .ccm .sha256,
    aead12 0xc0ae "TLS_ECDHE_ECDSA_WITH_AES_128_CCM_8" .aes 16 .ccm8 .sha256,
    cbc 0x0041 "TLS_RSA_WITH_CAMELLIA_128_CBC_SHA" .camellia 16 16 .sha1,
    cbc 0x0084 "TLS_RSA_WITH_CAMELLIA_256_CBC_SHA" .camellia 32 16 .sha1,
    cbc 0x00ba "TLS_RSA_WITH_CAMELLIA_128_CBC_SHA256" .camellia 16 16 .sha256,
    cbc 0x00c0 "TLS_RSA_WITH_CAMELLIA_256_CBC_SHA256" .camellia 32 16 .sha256,
    aead12 0xc07a "TLS_RSA_WITH_CAMELLIA_128_GCM_SHA256" .camellia 16 .gcm .sha256,
    aead12 0xc07b "TLS_RSA_WITH_CAMELLIA_256_GCM_SHA384" .camellia 32 .gcm .sha384,
    cbc 0xc03c "TLS_RSA_WITH_ARIA_128_CBC_SHA256" .aria 16 16 .sha256,
    cbc 0xc03d "TLS_RSA_WITH_ARIA_256_CBC_SHA384" .aria 32 16 .sha384,
    aead12 0xc050 "TLS_RSA_WITH_ARIA_128_GCM_SHA256" .aria 16 .gcm .sha256,
    aead12 0xc051 "TLS_RSA_WITH_ARIA_256_GCM_SHA384" .aria 32 .gcm .sha384,
    chaCha12 0xcca8 "TLS_ECDHE_RSA_WITH_CHACHA20_POLY1305_SHA256",
    chaCha12 0xcca9 "TLS_ECDHE_ECDSA_WITH_CHACHA20_POLY1305_SHA256",
    counterImit 0xc100 "TLS_GOSTR341112_256_WITH_KUZNYECHIK_CTR_OMAC" .kuznyechik 16,
    counterImit 0xc101 "TLS_GOSTR341112_256_WITH_MAGMA_CTR_OMAC" .magma 8,
    aead13 0x1301 "TLS_AES_128_GCM_SHA256" .aes 16 .gcm 12 16 .sha256,
    aead13 0x1302 "TLS_AES_256_GCM_SHA384" .aes 32 .gcm 12 16 .sha384,
    aead13 0x1303 "TLS_CHACHA20_POLY1305_SHA256" .chacha20 32 .chaCha20Poly1305 12 16 .sha256,
    aead13 0x1304 "TLS_AES_128_CCM_SHA256" .aes 16 .ccm 12 16 .sha256,
    aead13 0x1305 "TLS_AES_128_CCM_8_SHA256" .aes 16 .ccm8 12 8 .sha256,
    aead13 0x00c6 "TLS_SM4_GCM_SM3" .sm4 16 .gcm 12 16 .sm3,
    aead13 0x00c7 "TLS_SM4_CCM_SM3" .sm4 16 .ccm 12 16 .sm3,
    multilinear13 0xc103 "TLS_GOSTR341112_256_WITH_KUZNYECHIK_MGM_L" .kuznyechik 16 false,
    multilinear13 0xc104 "TLS_GOSTR341112_256_WITH_MAGMA_MGM_L" .magma 8 false,
    multilinear13 0xc105 "TLS_GOSTR341112_256_WITH_KUZNYECHIK_MGM_S" .kuznyechik 16 true,
    multilinear13 0xc106 "TLS_GOSTR341112_256_WITH_MAGMA_MGM_S" .magma 8 true]

def lookup (id : UInt16) : Except RecordError CipherSuite :=
  match catalog.find? (·.id = id) with
  | some suite => .ok suite
  | none => .error (.unknownCipherSuite id)

def ofName? (name : String) : Option CipherSuite := catalog.find? (·.name = name)

end CipherSuite

end RecordProtection
