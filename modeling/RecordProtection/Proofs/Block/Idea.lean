import Mathlib.FieldTheory.Finite.Basic
import Mathlib.Tactic.NormNum.Prime
import RecordProtection.Block.Idea
import RecordProtection.Proofs.Block.Lawful
import RecordProtection.Proofs.Words

/-!
# IDEA decryption undoes encryption

Words stand for the units modulo the prime `2 ^ 16 + 1`, so by Fermat's little theorem a power
inverts the multiplication.  A round is an outer layer, which the inverted keys undo, and an inner
layer, which undoes itself, and then the two middle words change places.
-/

namespace RecordProtection

namespace Idea

instance prime_65537 : Fact (Nat.Prime 65537) := ⟨by norm_num⟩

/-! ### The multiplicative group of the words -/

/-- The number that a word stands for: zero stands for `2 ^ 16`. -/
def number (w : UInt16) : Nat := if w = 0 then 65536 else w.toNat

theorem number_pos (w : UInt16) : 0 < number w := by
  unfold number
  split
  · decide
  · rename_i hne
    exact Nat.pos_of_ne_zero fun h => hne (UInt16.toNat_inj.mp h)

theorem number_lt (w : UInt16) : number w < 65537 := by
  have hw := w.toNat_lt
  unfold number
  split <;> omega

theorem number_injective {a b : UInt16} (h : number a = number b) : a = b := by
  have ha := a.toNat_lt
  have hb := b.toNat_lt
  apply UInt16.toNat_inj.mp
  unfold number at h
  split at h <;> split at h
  · simp_all
  · omega
  · omega
  · exact h

def residue (w : UInt16) : ZMod 65537 := number w

theorem residue_ne_zero (w : UInt16) : residue w ≠ 0 := by
  intro h
  have hdvd := (ZMod.natCast_eq_zero_iff _ _).mp h
  exact absurd (Nat.le_of_dvd (number_pos w) hdvd) (Nat.not_le.mpr (number_lt w))

theorem residue_injective {a b : UInt16} (h : residue a = residue b) : a = b := by
  have hmod := (ZMod.natCast_eq_natCast_iff' _ _ _).mp h
  rw [Nat.mod_eq_of_lt (number_lt a), Nat.mod_eq_of_lt (number_lt b)] at hmod
  exact number_injective hmod

/-- The product of two units is not zero, so it fits in a word again. -/
theorem number_multiply (a b : UInt16) :
    number (multiply a b) = number a * number b % 65537 := by
  have hne : number a * number b % 65537 ≠ 0 := by
    intro h
    have hzero : residue a * residue b = 0 := by
      rw [residue, residue, ← Nat.cast_mul]
      exact (ZMod.natCast_eq_zero_iff _ _).mpr (Nat.dvd_of_mod_eq_zero h)
    rcases mul_eq_zero.mp hzero with h | h
    · exact residue_ne_zero a h
    · exact residue_ne_zero b h
  have hlt : number a * number b % 65537 < 65537 := Nat.mod_lt _ (by decide)
  have hmultiply : multiply a b = UInt16.ofNat (number a * number b % 65537) := rfl
  rw [hmultiply]
  generalize number a * number b % 65537 = product at hne hlt
  unfold number
  split
  · rename_i hzero
    have hnat := congrArg UInt16.toNat hzero
    rw [UInt16.toNat_ofNat', UInt16.toNat_zero] at hnat
    omega
  · rename_i hnonzero
    rw [UInt16.toNat_ofNat']
    refine Nat.mod_eq_of_lt ?_
    by_contra hlarge
    have hproduct : product = 65536 := by omega
    rw [hproduct] at hnonzero
    exact hnonzero rfl

theorem residue_multiply (a b : UInt16) : residue (multiply a b) = residue a * residue b := by
  rw [residue, number_multiply, ZMod.natCast_mod, Nat.cast_mul]
  rfl

/-- Squaring and multiplying builds up the exponent bit by bit. -/
theorem residue_foldl (a : UInt16) (steps : Nat) :
    let state := (List.range steps).foldl
      (fun (power : UInt16 × UInt16) _ =>
        (multiply power.1 power.2, multiply power.2 power.2)) (1, a)
    residue state.1 = residue a ^ (2 ^ steps - 1) ∧ residue state.2 = residue a ^ 2 ^ steps := by
  induction steps with
  | zero =>
      have hone : residue 1 = 1 := by decide
      simp [hone]
  | succ steps ih =>
      obtain ⟨hpower, hbase⟩ := ih
      have hpos : 0 < 2 ^ steps := Nat.pow_pos (by decide)
      have hexponent : 2 ^ steps - 1 + 2 ^ steps = 2 ^ (steps + 1) - 1 := by
        rw [Nat.pow_succ]
        omega
      rw [List.range_succ, List.foldl_append]
      simp only [List.foldl_cons, List.foldl_nil, residue_multiply, hpower, hbase]
      rw [← pow_add, ← pow_add, hexponent, Nat.pow_succ, Nat.mul_two]
      exact ⟨rfl, rfl⟩

theorem multiply_multiply_invert (w key : UInt16) :
    multiply (multiply w key) (invert key) = w := by
  have hinvert : residue (invert key) = residue key ^ 65535 := (residue_foldl key 16).1
  have hfermat := ZMod.pow_card_sub_one_eq_one (residue_ne_zero key)
  apply residue_injective
  rw [residue_multiply, residue_multiply, hinvert, mul_assoc, ← pow_succ', hfermat, mul_one]

/-! ### The layers of a round -/

def outer (k₁ k₂ k₃ k₄ : UInt16) (s : State) : State :=
  ⟨multiply s.a k₁, s.b + k₂, s.c + k₃, multiply s.d k₄⟩

def inner (k₅ k₆ : UInt16) (s : State) : State :=
  let t₀ := multiply (s.a ^^^ s.c) k₅
  let t₁ := multiply ((s.b ^^^ s.d) + t₀) k₆
  ⟨s.a ^^^ t₁, s.b ^^^ (t₀ + t₁), s.c ^^^ t₁, s.d ^^^ (t₀ + t₁)⟩

def exchange (s : State) : State := ⟨s.a, s.c, s.b, s.d⟩

@[simp]
theorem exchange_exchange (s : State) : exchange (exchange s) = s := rfl

theorem outer_exchange (k₁ k₂ k₃ k₄ : UInt16) (s : State) :
    outer k₁ k₂ k₃ k₄ (exchange s) = exchange (outer k₁ k₃ k₂ k₄ s) := rfl

theorem outer_outer (k₁ k₂ k₃ k₄ : UInt16) (s : State) :
    outer (invert k₁) (0 - k₂) (0 - k₃) (invert k₄) (outer k₁ k₂ k₃ k₄ s) = s := by
  have hadd (w k : UInt16) : w + k + (0 - k) = w := by
    grind
  simp only [outer, multiply_multiply_invert, hadd]

theorem xor16_xor16_cancel (a b : UInt16) : a ^^^ b ^^^ b = a := by
  rw [UInt16.xor_assoc, UInt16.xor_self, UInt16.xor_zero]

/-- The sums that the inner layer reads are not changed by it. -/
theorem inner_inner (k₅ k₆ : UInt16) (s : State) : inner k₅ k₆ (inner k₅ k₆ s) = s := by
  have hsum (p q t : UInt16) : (p ^^^ t) ^^^ (q ^^^ t) = p ^^^ q := by
    rw [UInt16.xor_comm q t, ← UInt16.xor_assoc, xor16_xor16_cancel]
  simp only [inner, hsum, xor16_xor16_cancel]

/-! ### Groups of six keys -/

structure Group where
  k₁ : UInt16
  k₂ : UInt16
  k₃ : UInt16
  k₄ : UInt16
  k₅ : UInt16
  k₆ : UInt16

def Group.toList (g : Group) : List UInt16 := [g.k₁, g.k₂, g.k₃, g.k₄, g.k₅, g.k₆]

def Group.apply (s : State) (g : Group) : State :=
  exchange (inner g.k₅ g.k₆ (outer g.k₁ g.k₂ g.k₃ g.k₄ s))

theorem rounds_flatMap_append (groups : List Group) (rest : List UInt16) (s : State) :
    rounds (groups.flatMap Group.toList ++ rest) s = rounds rest (groups.foldl Group.apply s) := by
  induction groups generalizing s with
  | nil => rfl
  | cons g groups ih => exact ih (g.apply s)

/-- The groups of a number of rounds from a place in the keys on. -/
def forward (key : Nat → UInt16) : (place count : Nat) → List Group
  | _, 0 => []
  | place, count + 1 =>
      ⟨key place, key (place + 1), key (place + 2), key (place + 3), key (place + 4),
        key (place + 5)⟩ :: forward key (place + 6) count

/-- The groups that undo these rounds from back to front.  The middle keys change places, except
those of the half round at the end. -/
def backward (key : Nat → UInt16) : (place count : Nat) → List Group
  | _, 0 => []
  | place, count + 1 =>
      let second := if count = 0 then key (place + 7) else key (place + 8)
      let third := if count = 0 then key (place + 8) else key (place + 7)
      backward key (place + 6) count
        ++ [⟨invert (key (place + 6)), 0 - second, 0 - third, invert (key (place + 9)),
          key (place + 4), key (place + 5)⟩]

/-- Undoing all rounds from a place on leaves the outer layer at this place. -/
theorem foldl_backward (key : Nat → UInt16) (place count : Nat) (s : State) :
    (backward key place count).foldl Group.apply
        (outer (key (place + 6 * count)) (key (place + 6 * count + 1))
          (key (place + 6 * count + 2)) (key (place + 6 * count + 3))
          (exchange ((forward key place count).foldl Group.apply s)))
      = if count = 0 then outer (key place) (key (place + 1)) (key (place + 2)) (key (place + 3))
            (exchange s)
        else
          exchange (outer (key place) (key (place + 1)) (key (place + 2)) (key (place + 3)) s) := by
  induction count generalizing place s with
  | zero => rfl
  | succ count ih =>
      have hplace : place + 6 * (count + 1) = place + 6 + 6 * count := by omega
      simp only [hplace, backward, forward, List.foldl_append, List.foldl_cons, List.foldl_nil]
      rw [ih (place + 6), if_neg (Nat.succ_ne_zero count)]
      by_cases hlast : count = 0
      · simp only [if_pos hlast, Group.apply]
        rw [outer_outer, exchange_exchange, inner_inner]
      · simp only [if_neg hlast, Group.apply]
        rw [outer_exchange, outer_outer, exchange_exchange, inner_inner]

/-! ### The two key schedules -/

def keyAt (keys : Array UInt16) (place : Nat) : UInt16 := keys.getD place 0

theorem eq_flatMap_forward {keys : List UInt16} (hlength : keys.length = 52) :
    keys = (forward (keyAt keys.toArray) 0 8).flatMap Group.toList
      ++ [keyAt keys.toArray 48, keyAt keys.toArray 49, keyAt keys.toArray 50,
        keyAt keys.toArray 51] := by
  have hindex : keys = (List.range 52).map (keyAt keys.toArray) := by
    apply List.ext_getElem
    · simp [hlength]
    · intro i hi _
      simp [keyAt, hi]
  exact hindex

theorem inverseSubkeys_eq (keys : Array UInt16) : inverseSubkeys keys
    = (backward (keyAt keys) 0 8).flatMap Group.toList
      ++ [invert (keyAt keys 0), 0 - keyAt keys 1, 0 - keyAt keys 2, invert (keyAt keys 3)] := by
  simp [inverseSubkeys, backward, Group.toList, keyAt, List.range_succ]

theorem rounds_four (k₁ k₂ k₃ k₄ : UInt16) (s : State) :
    rounds [k₁, k₂, k₃, k₄] s = outer k₁ k₂ k₃ k₄ (exchange s) := rfl

theorem rounds_inverseSubkeys {keys : List UInt16} (hlength : keys.length = 52) (s : State) :
    rounds (inverseSubkeys keys.toArray) (rounds keys s) = s := by
  have hbackward := foldl_backward (keyAt keys.toArray) 0 8 s
  have hforward := congrArg (rounds · s) (eq_flatMap_forward hlength)
  simp only [rounds_flatMap_append, rounds_four] at hforward
  rw [if_neg (by decide)] at hbackward
  rw [inverseSubkeys_eq, rounds_flatMap_append, hforward, hbackward, rounds_four,
    exchange_exchange, outer_outer]

/-! ### Blocks -/

theorem crypt_bytes16 (keys : List UInt16) (a b c d : UInt16) :
    crypt keys (bytes16 a ++ (bytes16 b ++ (bytes16 c ++ bytes16 d)))
      = bytes16 (rounds keys ⟨a, b, c, d⟩).a ++ (bytes16 (rounds keys ⟨a, b, c, d⟩).b
        ++ (bytes16 (rounds keys ⟨a, b, c, d⟩).c ++ bytes16 (rounds keys ⟨a, b, c, d⟩).d)) := by
  simp [crypt]

theorem length_crypt (keys : List UInt16) {block : Bytes} (hblock : block.length = 8) :
    (crypt keys block).length = 8 := by
  obtain ⟨a, b, c, d, rfl⟩ := exists_eq_four_words16 hblock
  simp [crypt_bytes16]

theorem crypt_inverseSubkeys {keys : List UInt16} (hlength : keys.length = 52) {block : Bytes}
    (hblock : block.length = 8) :
    crypt (inverseSubkeys keys.toArray) (crypt keys block) = block := by
  obtain ⟨a, b, c, d, rfl⟩ := exists_eq_four_words16 hblock
  rw [crypt_bytes16, crypt_bytes16, rounds_inverseSubkeys hlength]

end Idea

theorem idea_lawful (key : Bytes) : (idea key).Lawful := by
  have hlength : (Idea.subkeys key).length = 52 := by
    simp [Idea.subkeys]
  unfold idea
  generalize Idea.subkeys key = keys at hlength
  exact {
    blockLength_pos := show 0 < 8 by decide
    blockLength_le := show 8 ≤ 16 by decide
    length_encrypt := fun _ => Idea.length_crypt keys
    length_decrypt := fun _ => Idea.length_crypt (Idea.inverseSubkeys keys.toArray)
    decrypt_encrypt := fun _ => Idea.crypt_inverseSubkeys hlength }

end RecordProtection
