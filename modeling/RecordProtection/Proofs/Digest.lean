import RecordProtection.Authenticator
import RecordProtection.Proofs.Bytes

/-!
# Lengths of digests and MACs

A hash function has the output length that it announces if its last step has, in every state that
its blocks can reach.  The MAC of a fragment is then as long as its authenticator says.
-/

namespace RecordProtection

namespace HashFunction

/-- Digests have the announced length, from states that satisfy an invariant. -/
structure Sized (f : HashFunction) (invariant : f.State → Prop) : Prop where
  initial : invariant f.initial
  compress : ∀ state block, invariant state → invariant (f.compress state block)
  finish : ∀ state length pending, invariant state →
    (f.finish state length pending).length = f.outputLength

variable {f : HashFunction} {invariant : f.State → Prop}

theorem Sized.update (hf : f.Sized invariant) (running : Absorber f.State)
    (hrunning : invariant running.state) (data : Bytes) :
    invariant (f.update running data).state := by
  induction data generalizing running with
  | nil => exact hrunning
  | cons byte data ih =>
      refine ih (Absorber.push f.blockLength f.compress running byte) ?_
      unfold Absorber.push
      split
      · exact hf.compress _ _ hrunning
      · exact hrunning

theorem Sized.length_digest (hf : f.Sized invariant) (message : Bytes) :
    (f.digest message).length = f.outputLength :=
  hf.finish _ _ _ (hf.update f.start hf.initial message)

/-- Where the last step always writes the announced length, nothing is asked of the state. -/
theorem sized_of_finish
    (hfinish : ∀ state length pending, (f.finish state length pending).length = f.outputLength) :
    f.Sized fun _ => True :=
  ⟨trivial, fun _ _ _ => trivial, fun state length pending _ => hfinish state length pending⟩

end HashFunction

/-! ### Streebog keeps eight words -/

namespace Streebog

theorem length_xor (left right : List UInt64) :
    (xor left right).length = min left.length right.length := by
  simp [xor]

@[simp]
theorem length_transform (words : List UInt64) : (transform words).length = 8 := by
  simp [transform]

@[simp]
theorem length_ofNat (value : Nat) : (ofNat value).length = 8 := by
  simp [ofNat]

theorem length_rounds (constants : List (List UInt64)) {key block : List UInt64}
    (hkey : key.length = 8) (hblock : block.length = 8) :
    (rounds constants key block).length = 8 := by
  induction constants generalizing key block with
  | nil => simp [rounds, length_xor, hkey, hblock]
  | cons constant constants ih => exact ih (length_transform _) (length_transform _)

theorem length_mix (counter : List UInt64) {chain message : List UInt64}
    (hchain : chain.length = 8) (hmessage : message.length = 8) :
    (mix counter chain message).length = 8 := by
  have hrounds := length_rounds constants (length_transform (xor chain counter)) hmessage
  simp [mix, length_xor, hrounds, hchain, hmessage]

theorem length_chain_absorb {state : State} (hstate : state.chain.length = 8) (bits : Nat)
    (block : Bytes) : (absorb state bits block).chain.length = 8 :=
  length_mix _ hstate (length_ofNat _)

theorem sized : streebog256.Sized fun state => state.chain.length = 8 where
  initial := by simp [streebog256, initial]
  compress state block hstate := length_chain_absorb hstate 512 block
  finish state length pending hstate := by
    have hlast := length_chain_absorb hstate (8 * pending.length) (pending ++ [1])
    have hcounted := length_mix (ofNat 0) hlast
      (length_ofNat (absorb state (8 * pending.length) (pending ++ [1])).bits)
    have hsummed := length_mix (ofNat 0) hcounted
      (length_ofNat (absorb state (8 * pending.length) (pending ++ [1])).sum)
    simp only [streebog256, finish, List.length_flatMap, List.length_reverse, length_bytes64,
      List.map_const', List.sum_replicate_nat, List.length_drop, hsummed]

end Streebog

/-! ### The algorithms of the suites -/

theorem HashAlgorithm.length_digest (algorithm : HashAlgorithm) (message : Bytes) :
    (algorithm.digest message).length = algorithm.outputLength := by
  cases algorithm with
  | md5 => exact (HashFunction.sized_of_finish fun _ _ _ => rfl).length_digest message
  | sha1 => exact (HashFunction.sized_of_finish fun _ _ _ => rfl).length_digest message
  | sha256 => exact (HashFunction.sized_of_finish fun _ _ _ => rfl).length_digest message
  | sha384 => exact (HashFunction.sized_of_finish fun _ _ _ => rfl).length_digest message
  | sm3 => exact (HashFunction.sized_of_finish fun _ _ _ => rfl).length_digest message
  | streebog256 => exact Streebog.sized.length_digest message

theorem HashAlgorithm.outputLength_le (hash : HashAlgorithm) : hash.outputLength ≤ 64 := by
  cases hash <;> decide

theorem length_hmac (algorithm : HashAlgorithm) (key message : Bytes) :
    (hmac algorithm key message).length = algorithm.outputLength :=
  algorithm.length_digest _

@[simp]
theorem Authenticator.length_computeMac (auth : Authenticator) (type : ContentType)
    (fragment : Bytes) : (auth.computeMac type fragment).length = auth.macLength := by
  unfold computeMac macLength
  split
  · exact length_hmac _ _ _
  · rfl

end RecordProtection
