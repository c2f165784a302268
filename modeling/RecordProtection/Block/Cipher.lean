import RecordProtection.Bytes

/-!
Block ciphers, each a permutation of the blocks of one length, and Feistel networks.
-/

namespace RecordProtection

/-- A keyed permutation of blocks and its inverse. -/
structure BlockCipher where
  blockLength : Nat
  encrypt : Bytes → Bytes
  decrypt : Bytes → Bytes

/-- One round for each key: the halves change places, and the left one is masked by a function of
the right one. -/
def feistel {α κ : Type} [XorOp α] (f : κ → α → α) : List κ → α × α → α × α
  | [], halves => halves
  | key :: keys, (left, right) => feistel f keys (right, left ^^^ f key right)

end RecordProtection
