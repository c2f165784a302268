import RecordProtection.Role
import RecordProtection.Secret
import RecordProtection.Suite.Basic

/-!
The keys of one direction, and of both.
-/

namespace RecordProtection

structure TrafficKeys where
  macKey : Secret
  key : Secret
  iv : Secret
  deriving DecidableEq, Repr, Inhabited

namespace TrafficKeys

/-- Record protection under the keys; a destroyed key is found out first. -/
def cipherMode (keys : TrafficKeys) (suite : CipherSuite) (version : ProtocolVersion)
    (forEncryption : Bool) : Except RecordError CipherMode := do
  let key ← keys.key.data
  let macKey ← keys.macKey.data
  let iv ← keys.iv.data
  suite.cipherMode version forEncryption key macKey iv

def destroy (keys : TrafficKeys) : TrafficKeys :=
  ⟨keys.macKey.destroy, keys.key.destroy, keys.iv.destroy⟩

end TrafficKeys

structure KeyBlock where
  client : TrafficKeys
  server : TrafficKeys
  deriving DecidableEq, Repr, Inhabited

namespace KeyBlock

def side (block : KeyBlock) : Role → TrafficKeys
  | .client => block.client
  | .server => block.server

/-- One end writes under its own keys and reads under those of its peer. -/
def writeKeys (block : KeyBlock) (role : Role) : TrafficKeys := block.side role

def readKeys (block : KeyBlock) (role : Role) : TrafficKeys := block.side role.peer

def destroySide (block : KeyBlock) : Role → KeyBlock
  | .client => { block with client := block.client.destroy }
  | .server => { block with server := block.server.destroy }

def destroy (block : KeyBlock) : KeyBlock := ⟨block.client.destroy, block.server.destroy⟩

end KeyBlock

end RecordProtection
