import RecordProtection.Proofs.Bytes

/-!
# Buffers with bounds

Records are put together in buffers: pieces are cut out of them, copied into them and changed in
place, at positions that come from sums and differences of lengths.  Lists forgive what buffers do
not, since taking too much gives what there is and a difference stops at zero.  The operations here
do not forgive: each of them faults where it would leave its bounds.  A function that is written out
in them and still gives the value of the function on lists stays within all bounds.
-/

namespace RecordProtection

/-- How an operation on buffers and lengths can leave its bounds. -/
inductive Fault where
  | outOfRange
  | lengthMismatch
  | overflow
  | underflow
  | divisionByZero
  deriving DecidableEq, Repr

/-- A computation that may fault. -/
abbrev Guarded := Except Fault

namespace Guarded

@[simp]
theorem ok_bind {α β : Type} (value : α) (next : α → Guarded β) :
    (Except.ok value : Guarded α) >>= next = next value := rfl

@[simp]
theorem pure_eq_ok {α : Type} (value : α) : (pure value : Guarded α) = .ok value := rfl

/-! ### Lengths -/

/-- A number that has to be less than a bound. -/
def fit (bound value : Nat) : Guarded Nat := if value < bound then .ok value else .error .overflow

/-- Lengths are words, of 32 bits at the least. -/
def lengthBound : Nat := 2 ^ 32

def add (left right : Nat) : Guarded Nat := fit lengthBound (left + right)

def mul (left right : Nat) : Guarded Nat := fit lengthBound (left * right)

def sub (left right : Nat) : Guarded Nat :=
  if right ≤ left then .ok (left - right) else .error .underflow

def mod (length width : Nat) : Guarded Nat :=
  if width = 0 then .error .divisionByZero else .ok (length % width)

/-- How many pieces of a width cover a length. -/
def divCeil (length width : Nat) : Guarded Nat :=
  if width = 0 then .error .divisionByZero else .ok ((length + width - 1) / width)

variable {left right bound length width value : Nat}

theorem fit_eq_ok (h : value < bound) : fit bound value = .ok value := if_pos h

theorem add_eq_ok (h : left + right < lengthBound) : add left right = .ok (left + right) :=
  fit_eq_ok h

theorem mul_eq_ok (h : left * right < lengthBound) : mul left right = .ok (left * right) :=
  fit_eq_ok h

theorem sub_eq_ok (h : right ≤ left) : sub left right = .ok (left - right) := if_pos h

theorem mod_eq_ok (h : 0 < width) : mod length width = .ok (length % width) :=
  if_neg (Nat.ne_of_gt h)

theorem divCeil_eq_ok (h : 0 < width) :
    divCeil length width = .ok ((length + width - 1) / width) := if_neg (Nat.ne_of_gt h)

end Guarded

namespace Buffer

open Guarded

/-! ### Operations -/

def get (buffer : Bytes) (position : Nat) : Guarded UInt8 :=
  match buffer[position]? with
  | some byte => .ok byte
  | none => .error .outOfRange

def set (buffer : Bytes) (position : Nat) (byte : UInt8) : Guarded Bytes :=
  if position < buffer.length then .ok (buffer.set position byte) else .error .outOfRange

/-- The bytes from one position up to another. -/
def slice (buffer : Bytes) (start stop : Nat) : Guarded Bytes :=
  if start ≤ stop ∧ stop ≤ buffer.length then .ok ((buffer.take stop).drop start)
  else .error .outOfRange

def splitAt (buffer : Bytes) (position : Nat) : Guarded (Bytes × Bytes) :=
  if position ≤ buffer.length then .ok (buffer.take position, buffer.drop position)
  else .error .outOfRange

/-- All of a target is replaced by a source of the same length. -/
def copy (target source : Bytes) : Guarded Bytes :=
  if target.length = source.length then .ok source else .error .lengthMismatch

/-- The bytes from one position up to another are changed in place. -/
def update (buffer : Bytes) (start stop : Nat) (change : Bytes → Guarded Bytes) :
    Guarded Bytes := do
  let changed ← change (← slice buffer start stop)
  return buffer.take start ++ changed ++ buffer.drop stop

def overwrite (buffer : Bytes) (start stop : Nat) (source : Bytes) : Guarded Bytes :=
  update buffer start stop fun part => copy part source

/-- Cuts a buffer short or fills it up to a length. -/
def resize (buffer : Bytes) (length : Nat) (byte : UInt8) : Bytes :=
  buffer.take length ++ List.replicate (length - buffer.length) byte

/-- Adds a mask in place; bytes behind the end of the mask stay as they are. -/
def mask (buffer mask : Bytes) : Bytes := Bytes.xor buffer mask ++ buffer.drop mask.length

/-- The pieces of a buffer, which have some width. -/
def chunks (width : Nat) (buffer : Bytes) : Guarded (List Bytes) :=
  if width = 0 then .error .divisionByZero else .ok (Bytes.chunks width buffer)

/-! ### Within bounds -/

variable {buffer : Bytes} {start stop position : Nat}

theorem get_eq_ok (h : position < buffer.length) : get buffer position = .ok buffer[position] := by
  simp only [get, List.getElem?_eq_getElem h]

theorem set_eq_ok (h : position < buffer.length) (byte : UInt8) :
    set buffer position byte = .ok (buffer.set position byte) := if_pos h

theorem slice_eq_ok (hstart : start ≤ stop) (hstop : stop ≤ buffer.length) :
    slice buffer start stop = .ok ((buffer.take stop).drop start) := if_pos ⟨hstart, hstop⟩

theorem slice_front (h : stop ≤ buffer.length) : slice buffer 0 stop = .ok (buffer.take stop) := by
  rw [slice_eq_ok (Nat.zero_le _) h, List.drop_zero]

theorem slice_back (h : start ≤ buffer.length) :
    slice buffer start buffer.length = .ok (buffer.drop start) := by
  rw [slice_eq_ok h (Nat.le_refl _), List.take_length]

theorem splitAt_eq_ok (h : position ≤ buffer.length) :
    splitAt buffer position = .ok (buffer.take position, buffer.drop position) := if_pos h

theorem splitAt_append {left : Bytes} (h : position = left.length) (right : Bytes) :
    splitAt (left ++ right) position = .ok (left, right) := by
  subst h
  rw [splitAt_eq_ok (by simp), List.take_left, List.drop_left]

theorem copy_eq_ok {target source : Bytes} (h : target.length = source.length) :
    copy target source = .ok source := if_pos h

theorem chunks_eq_ok {width : Nat} (h : 0 < width) (buffer : Bytes) :
    chunks width buffer = .ok (Bytes.chunks width buffer) := if_neg (Nat.ne_of_gt h)

theorem mask_eq_xor {mask : Bytes} (h : buffer.length ≤ mask.length) :
    Buffer.mask buffer mask = Bytes.xor buffer mask := by
  rw [Buffer.mask, List.drop_eq_nil_of_le h, List.append_nil]

theorem resize_of_le {length : Nat} (h : buffer.length ≤ length) (byte : UInt8) :
    resize buffer length byte = buffer ++ List.replicate (length - buffer.length) byte := by
  rw [resize, List.take_of_length_le h]

theorem update_eq_ok {change : Bytes → Guarded Bytes} {changed : Bytes} (hstart : start ≤ stop)
    (hstop : stop ≤ buffer.length)
    (hchange : change ((buffer.take stop).drop start) = .ok changed) :
    update buffer start stop change = .ok (buffer.take start ++ changed ++ buffer.drop stop) := by
  simp only [update, slice_eq_ok hstart hstop, ok_bind, hchange, pure_eq_ok]

theorem overwrite_eq_ok {source : Bytes} (hstop : stop ≤ buffer.length)
    (hsource : stop = start + source.length) :
    overwrite buffer start stop source
      = .ok (buffer.take start ++ source ++ buffer.drop stop) := by
  refine update_eq_ok (by omega) hstop (copy_eq_ok ?_)
  rw [List.length_drop, List.length_take]
  omega

/-! ### Filling a buffer from its front -/

variable {written : Bytes} {room : Nat}

/-- A source goes right behind what has been written. -/
theorem overwrite_append {rest source : Bytes} (hstart : start = written.length)
    (hstop : stop = start + source.length) (hroom : source.length ≤ rest.length) :
    overwrite (written ++ rest) start stop source
      = .ok (written ++ source ++ rest.drop source.length) := by
  subst hstart hstop
  rw [overwrite_eq_ok (by simpa using hroom) rfl, List.take_left, List.drop_append,
    List.drop_eq_nil_of_le (Nat.le_add_right _ _), Nat.add_sub_cancel_left, List.nil_append]

theorem overwrite_front {rest source : Bytes} (hstop : stop = source.length)
    (hroom : source.length ≤ rest.length) :
    overwrite rest 0 stop source = .ok (source ++ rest.drop source.length) := by
  have hfilled := @overwrite_append 0 stop [] rest source rfl (by simpa using hstop) hroom
  simpa only [List.nil_append] using hfilled

theorem drop_zeros (count : Nat) : (Bytes.zeros room).drop count = Bytes.zeros (room - count) :=
  List.drop_replicate

theorem overwrite_zeros {source : Bytes} (hstart : start = written.length)
    (hstop : stop = start + source.length) (hroom : source.length ≤ room) :
    overwrite (written ++ Bytes.zeros room) start stop source
      = .ok (written ++ source ++ Bytes.zeros (room - source.length)) := by
  rw [overwrite_append hstart hstop (by simpa using hroom), drop_zeros]

theorem overwrite_zeros_front {source : Bytes} (hstop : stop = source.length)
    (hroom : source.length ≤ room) :
    overwrite (Bytes.zeros room) 0 stop source
      = .ok (source ++ Bytes.zeros (room - source.length)) := by
  rw [overwrite_front hstop (by simpa using hroom), drop_zeros]

theorem overwrite_all (source : Bytes) :
    overwrite (Bytes.zeros source.length) 0 source.length source = .ok source := by
  have hfilled := overwrite_zeros_front rfl (Nat.le_refl source.length)
  rwa [Nat.sub_self, Bytes.zeros_zero, List.append_nil] at hfilled

theorem set_zeros (hposition : position = written.length) (hroom : 0 < room) (byte : UInt8) :
    set (written ++ Bytes.zeros room) position byte
      = .ok (written ++ [byte] ++ Bytes.zeros (room - 1)) := by
  subst hposition
  obtain ⟨room, rfl⟩ : ∃ n, room = n + 1 := ⟨room - 1, by omega⟩
  rw [set_eq_ok (by simp), List.set_append_right _ _ (Nat.le_refl _), Nat.sub_self, Bytes.zeros,
    List.replicate_succ, List.set_cons_zero, List.append_assoc]
  rfl

/-! ### Masks at a position -/

/-- Adds a mask to the bytes from a position on, one after the other. -/
def maskAt (buffer : Bytes) (position : Nat) : (mask : Bytes) → Guarded Bytes
  | [] => .ok buffer
  | key :: mask => do
      let byte ← get buffer position
      let buffer ← set buffer position (byte ^^^ key)
      maskAt buffer (position + 1) mask

theorem maskAt_eq_ok {front masked back mask : Bytes} (hposition : position = front.length)
    (hmasked : masked.length = mask.length) :
    maskAt (front ++ masked ++ back) position mask
      = .ok (front ++ Bytes.xor masked mask ++ back) := by
  induction mask generalizing front masked position with
  | nil => simp [maskAt, List.eq_nil_of_length_eq_zero hmasked, Bytes.xor]
  | cons key mask ih =>
      obtain ⟨byte, masked, rfl⟩ := List.exists_cons_of_length_eq_add_one hmasked
      have hin : position < (front ++ byte :: masked ++ back).length := by
        simp [hposition]
      have hnext := @ih (position + 1) (front ++ [byte ^^^ key]) masked (by simp [hposition])
        (by simpa using hmasked)
      have hget : (front ++ byte :: masked ++ back)[position] = byte := by
        simp [hposition]
      have hset : (front ++ byte :: masked ++ back).set position (byte ^^^ key)
          = front ++ [byte ^^^ key] ++ masked ++ back := by
        simp [hposition]
      simp only [maskAt, get_eq_ok hin, set_eq_ok hin, ok_bind, hget, hset, hnext]
      simp [Bytes.xor]

end Buffer

end RecordProtection
