import RecordProtection.Error

/-!
How the nonce of a record is made from the IV and the record's place, and what of it is sent.
-/

namespace RecordProtection

def sequenceBlockLength : Nat := 8

def maxNonceLength : Nat := 16

/-- Either a fixed part followed by bytes sent with the record, or an IV masked by the sequence
block, of which nothing is sent. -/
inductive NonceLayout where
  | explicit (fixed : Bytes) (sentLength : Nat)
  | masked (iv : Bytes)
  deriving DecidableEq, Repr

/-- The IV with the sequence block added to its last bytes. -/
def maskIV (iv sequenceBlock : Bytes) : Bytes :=
  let kept := iv.length - sequenceBlockLength
  iv.take kept ++ Bytes.xor (iv.drop kept) sequenceBlock

namespace NonceLayout

/-- What is sent must fit in the sequence block, the nonce in its maximal length, and a masked IV
must cover the sequence block. -/
def ofIV (iv : Bytes) (sentLength : Nat) : Except RecordError NonceLayout :=
  if sentLength > sequenceBlockLength then
    .error (.invalidKeyLength sequenceBlockLength sentLength)
  else if iv.length + sentLength > maxNonceLength then
    .error (.invalidKeyLength maxNonceLength (iv.length + sentLength))
  else if sentLength > 0 then
    .ok (explicit iv sentLength)
  else if iv.length < sequenceBlockLength then
    .error (.invalidKeyLength sequenceBlockLength iv.length)
  else
    .ok (masked iv)

def nonceLength : NonceLayout → Nat
  | explicit fixed sentLength => fixed.length + sentLength
  | masked iv => iv.length

/-- The nonce of an outgoing record and the part of it that is sent: the low bytes of the sequence
block. -/
def sending (layout : NonceLayout) (sequenceBlock : Bytes) : Bytes × Bytes :=
  match layout with
  | explicit fixed sentLength =>
      let sent := sequenceBlock.drop (sequenceBlockLength - sentLength)
      (fixed ++ sent, sent)
  | masked iv => (maskIV iv sequenceBlock, [])

def receiving (layout : NonceLayout) (sequenceBlock record : Bytes) :
    Except RecordError (Bytes × Bytes) :=
  match layout with
  | explicit fixed sentLength =>
      if record.length < sentLength then
        .error (.recordTooShort record.length)
      else
        .ok (fixed ++ record.take sentLength, record.drop sentLength)
  | masked iv => .ok (maskIV iv sequenceBlock, record)

end NonceLayout

end RecordProtection
