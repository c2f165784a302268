import RecordProtection.Block.Cipher

/-!
The IDEA block cipher, which mixes three group operations on 16-bit words.
-/

namespace RecordProtection

namespace Idea

/-- Multiplication modulo `2 ^ 16 + 1`, where zero stands for `2 ^ 16`. -/
def multiply (a b : UInt16) : UInt16 :=
  let value (w : UInt16) : Nat := if w = 0 then 65536 else w.toNat
  UInt16.ofNat (value a * value b % 65537)

/-- The inverse is the power with exponent `2 ^ 16 - 1`. -/
def invert (a : UInt16) : UInt16 :=
  ((List.range 16).foldl
    (fun (power : UInt16 × UInt16) _ =>
      (multiply power.1 power.2, multiply power.2 power.2)) (1, a)).1

/-- The subkeys are the words of the key, then of the key rotated by 25 bits, and so on. -/
def subkeys (key : Bytes) : List UInt16 :=
  let value := Bytes.toNatBE key
  (List.range 52).map fun i =>
    let shift := 25 * (i / 8) % 128
    let rotated := (value <<< shift ||| value >>> (128 - shift)) % (1 <<< 128)
    UInt16.ofNat (rotated >>> (112 - 16 * (i % 8)))

/-- The subkeys that undo the rounds, from those of the last round backwards. -/
def inverseSubkeys (keys : Array UInt16) : List UInt16 :=
  (List.range 9).flatMap fun round =>
    let base := 48 - 6 * round
    let keyAt (i : Nat) : UInt16 := keys.getD (base + i) 0
    let (second, third) := if round = 0 ∨ round = 8 then (keyAt 1, keyAt 2) else (keyAt 2, keyAt 1)
    let outer := [invert (keyAt 0), 0 - second, 0 - third, invert (keyAt 3)]
    if round = 8 then outer
    else outer ++ [keys.getD (base - 2) 0, keys.getD (base - 1) 0]

structure State where
  a : UInt16
  b : UInt16
  c : UInt16
  d : UInt16

/-- Eight rounds of six subkeys and a half round of four. -/
def rounds : List UInt16 → State → State
  | k₁ :: k₂ :: k₃ :: k₄ :: k₅ :: k₆ :: rest, s =>
      let a := multiply s.a k₁
      let b := s.b + k₂
      let c := s.c + k₃
      let d := multiply s.d k₄
      let t₀ := multiply (a ^^^ c) k₅
      let t₁ := multiply ((b ^^^ d) + t₀) k₆
      let t₂ := t₀ + t₁
      rounds rest ⟨a ^^^ t₁, c ^^^ t₁, b ^^^ t₂, d ^^^ t₂⟩
  | [k₁, k₂, k₃, k₄], s => ⟨multiply s.a k₁, s.c + k₂, s.b + k₃, multiply s.d k₄⟩
  | _, s => s

def crypt (keys : List UInt16) (block : Bytes) : Bytes :=
  match words16 block with
  | [a, b, c, d] =>
      let s := rounds keys ⟨a, b, c, d⟩
      [s.a, s.b, s.c, s.d].flatMap bytes16
  | _ => block

end Idea

def idea (key : Bytes) : BlockCipher :=
  let keys := Idea.subkeys key
  let inverse := Idea.inverseSubkeys keys.toArray
  { blockLength := 8, encrypt := Idea.crypt keys, decrypt := Idea.crypt inverse }

end RecordProtection
