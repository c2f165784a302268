import RecordProtection.Error
import RecordProtection.Stream.ChaCha20
import RecordProtection.Stream.Rc4

/-!
Stream ciphers: a position in a keystream that is added to the data.
-/

namespace RecordProtection

inductive StreamCipher where
  | rc4 (key : Bytes) (state : Rc4)
  | chacha20 (key nonce : Bytes) (position : Nat)

namespace StreamCipher

def ofRc4Key (key : Bytes) : StreamCipher := rc4 key (Rc4.ofKey key)

/-- Until a nonce is given the nonce is zero. -/
def ofChaCha20Key (key : Bytes) : StreamCipher := chacha20 key (Bytes.zeros 12) 0

/-- The next `count` bytes of the keystream, and the cipher behind them. -/
def keystream : StreamCipher → (count : Nat) → Bytes × StreamCipher
  | rc4 key state, count =>
      let (bytes, state) := state.keystream count
      (bytes, rc4 key state)
  | chacha20 key nonce position, count =>
      (ChaCha20.keystream key nonce position count, chacha20 key nonce (position + count))

def apply (cipher : StreamCipher) (data : Bytes) : Bytes × StreamCipher :=
  let (mask, cipher) := cipher.keystream data.length
  (Bytes.xor data mask, cipher)

def start : StreamCipher → (nonce : Bytes) → Except RecordError StreamCipher
  | rc4 .., _ => .error (.unsupportedOperation "RC4 takes no nonce")
  | chacha20 key _ _, nonce => .ok (chacha20 key nonce 0)

def seekBlock : StreamCipher → (block : UInt32) → Except RecordError StreamCipher
  | rc4 .., _ => .error (.unsupportedOperation "RC4 is not seekable")
  | chacha20 key nonce _, block => .ok (chacha20 key nonce (block.toNat * ChaCha20.blockLength))

def reset : StreamCipher → StreamCipher
  | rc4 key _ => ofRc4Key key
  | chacha20 key nonce _ => chacha20 key nonce 0

end StreamCipher

end RecordProtection
