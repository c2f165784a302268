import RecordProtection.EngineKind

/-!
The modes of record protection.
-/

namespace RecordProtection

inductive ModeKind where
  | null
  | stream
  | cbc
  | ctr
  | gcm
  | ccm
  | ccm8
  | chaCha20Poly1305
  | mgmStrong
  | mgmLight
  | cntImit
  deriving DecidableEq, Repr, Inhabited

namespace ModeKind

def all : List ModeKind := [
    null, stream, cbc, ctr, gcm, ccm, ccm8, chaCha20Poly1305, mgmStrong, mgmLight, cntImit]

def name : ModeKind → String
  | null => "NULL"
  | stream => "STREAM"
  | cbc => "CBC"
  | ctr => "CTR"
  | gcm => "GCM"
  | ccm => "CCM"
  | ccm8 => "CCM_8"
  | chaCha20Poly1305 => "CHACHA20_POLY1305"
  | mgmStrong => "MGM_S"
  | mgmLight => "MGM_L"
  | cntImit => "CNT_IMIT"

def tag : ModeKind → String
  | null => "Null"
  | stream => "Stream"
  | cbc => "Cbc"
  | ctr => "Ctr"
  | gcm => "Gcm"
  | ccm => "Ccm"
  | ccm8 => "Ccm8"
  | chaCha20Poly1305 => "ChaCha20Poly1305"
  | mgmStrong => "MgmStrong"
  | mgmLight => "MgmLight"
  | cntImit => "CntImit"

def isAead : ModeKind → Bool
  | gcm | ccm | ccm8 | chaCha20Poly1305 | mgmStrong | mgmLight => true
  | _ => false

end ModeKind

end RecordProtection
