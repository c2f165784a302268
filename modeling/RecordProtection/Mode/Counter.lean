import RecordProtection.Authenticator
import RecordProtection.Block.Counter
import RecordProtection.Nonce

/-!
Records in counter mode: content and MAC, masked from the counter block of the record on.
-/

namespace RecordProtection

structure CounterMode where
  cipher : BlockCipher
  layout : NonceLayout

namespace CounterMode

/-- The nonce is the first counter block. -/
def create (cipher : BlockCipher) (layout : NonceLayout) : Except RecordError CounterMode :=
  if layout.nonceLength = cipher.blockLength then .ok ⟨cipher, layout⟩
  else .error (.invalidKeyLength cipher.blockLength layout.nonceLength)

def mask (mode : CounterMode) (counter data : Bytes) : Bytes :=
  counterMode mode.cipher incrementBE counter data

def encrypt (mode : CounterMode) (auth : Authenticator) (type : ContentType) (plaintext : Bytes) :
    Bytes :=
  let (counter, sent) := mode.layout.sending auth.sequenceBlock
  sent ++ mode.mask counter (plaintext ++ auth.computeMac type plaintext)

def decrypt (mode : CounterMode) (auth : Authenticator) (type : ContentType) (record : Bytes) :
    Except RecordError Bytes := do
  let (counter, body) ← mode.layout.receiving auth.sequenceBlock record
  let decrypted := mode.mask counter body
  let contentLength ← auth.checkTrailingMac type decrypted
  return decrypted.take contentLength

end CounterMode

end RecordProtection
