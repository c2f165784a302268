import RecordProtection.ReplayWindow
import Mathlib.Data.List.Basic

/-!
# What a replay window remembers

A window that has been moved by accepted numbers lets a number pass exactly if it has not been
accepted and is less than the width of the window below the highest accepted number.
-/

namespace RecordProtection.ReplayWindow

/-! ### Refused numbers -/

/-- The window does not let a number pass. -/
def Refuses (window : ReplayWindow) (number : UInt64) : Prop :=
  window.check number = .error (.replayedRecord number)

section Refuses

variable {window : ReplayWindow} {number : UInt64}

theorem refuses_iff : window.Refuses number
    ↔ number ≤ window.highest
      ∧ (width ≤ window.highest.toNat - number.toNat
        ∨ window.seen.getLsbD (window.highest.toNat - number.toNat) = true) := by
  unfold Refuses check
  by_cases hahead : window.highest < number
  · simp [hahead, UInt64.not_le.mpr hahead]
  · by_cases hseen : width ≤ window.highest.toNat - number.toNat
      ∨ window.seen.getLsbD (window.highest.toNat - number.toNat) = true
    · simp [hahead, UInt64.not_lt.mp hahead, hseen]
    · simp [hahead, hseen]

theorem not_refuses_of_check (hcheck : window.check number = .ok ()) :
    ¬ window.Refuses number := by
  unfold Refuses
  rw [hcheck]
  exact fun h => nomatch h

theorem update_of_highest_lt (hahead : window.highest < number) :
    window.update number
      = ⟨number, (if width ≤ number.toNat - window.highest.toNat then 0
        else window.seen <<< (number.toNat - window.highest.toNat)) ||| 1⟩ :=
  if_pos hahead

theorem update_of_le_highest (hbehind : number ≤ window.highest) :
    window.update number
      = if window.highest.toNat - number.toNat < width then
          { window with
            seen := window.seen ||| 1 <<< (window.highest.toNat - number.toNat) }
        else window :=
  if_neg (UInt64.not_lt.mpr hbehind)

theorem getLsbD_mark {offset : Nat} (hoffset : offset < width) (seen : BitVec 64) :
    (seen ||| 1 <<< offset).getLsbD offset = true := by
  simp only [BitVec.getLsbD_or, BitVec.natCast_eq_ofNat, BitVec.getLsbD_ofNat, Nat.one_shiftLeft,
    Nat.testBit_two_pow_self, Bool.and_true, Bool.or_eq_true, decide_eq_true_eq]
  exact .inr hoffset

/-- A number that the window has been moved by does not pass again. -/
theorem refuses_update_self (window : ReplayWindow) (number : UInt64) :
    (window.update number).Refuses number := by
  refine refuses_iff.mpr ?_
  by_cases hahead : window.highest < number
  · rw [update_of_highest_lt hahead]
    refine ⟨UInt64.le_refl _, .inr ?_⟩
    simp
  · have hbehind := UInt64.not_lt.mp hahead
    rw [update_of_le_highest hbehind]
    split
    · rename_i hnear
      exact ⟨hbehind, .inr (getLsbD_mark hnear _)⟩
    · rename_i hfar
      exact ⟨hbehind, .inl (Nat.not_lt.mp hfar)⟩

/-- What the window has refused it refuses for good. -/
theorem Refuses.update (hrefused : window.Refuses number) (other : UInt64) :
    (window.update other).Refuses number := by
  obtain ⟨hbehind, hseen⟩ := refuses_iff.mp hrefused
  have hle := UInt64.le_iff_toNat_le.mp hbehind
  refine refuses_iff.mpr ?_
  by_cases hahead : window.highest < other
  · have hlt := UInt64.lt_iff_toNat_lt.mp hahead
    rw [update_of_highest_lt hahead]
    refine ⟨UInt64.le_trans hbehind (UInt64.le_of_lt hahead), ?_⟩
    -- the number is as far below the new highest one as both steps together
    have hsum : other.toNat - number.toNat
        = other.toNat - window.highest.toNat + (window.highest.toNat - number.toNat) := by
      omega
    by_cases hfar : width ≤ other.toNat - number.toNat
    · exact .inl hfar
    · obtain hold | hbit := hseen
      · exact absurd (Nat.le_trans hold (by omega)) hfar
      · have hnear : ¬ width ≤ other.toNat - window.highest.toNat := by omega
        right
        rw [if_neg hnear, hsum, BitVec.getLsbD_or, BitVec.getLsbD_shiftLeft,
          Nat.add_sub_cancel_left, hbit]
        simp only [width] at hfar
        simp only [Bool.and_true, Bool.or_eq_true, Bool.and_eq_true, decide_eq_true_eq,
          Bool.not_eq_true', decide_eq_false_iff_not]
        exact .inl ⟨by omega, by omega⟩
  · rw [update_of_le_highest (UInt64.not_lt.mp hahead)]
    split
    · refine ⟨hbehind, hseen.imp_right fun hbit => ?_⟩
      rw [BitVec.getLsbD_or, hbit, Bool.true_or]
    · exact ⟨hbehind, hseen⟩

end Refuses

/-! ### Accepted numbers -/

/-- A number that the window lets pass after others have been accepted. -/
def Fresh (accepted : List UInt64) (number : UInt64) : Prop :=
  number ∉ accepted ∧ ∀ earlier ∈ accepted, earlier.toNat < number.toNat + width

instance (accepted : List UInt64) (number : UInt64) : Decidable (Fresh accepted number) :=
  inferInstanceAs (Decidable (_ ∧ _))

/-- The window remembers the accepted numbers as far as it reaches. -/
structure Tracks (window : ReplayWindow) (accepted : List UInt64) : Prop where
  le_highest : ∀ number ∈ accepted, number ≤ window.highest
  highest_mem : window.highest ∈ accepted ∨ accepted = [] ∧ window.highest = 0
  seen_iff : ∀ offset < width, window.seen.getLsbD offset = true
    ↔ ∃ number ∈ accepted, number.toNat + offset = window.highest.toNat

theorem tracks_empty : Tracks .empty [] where
  le_highest _ hnumber := nomatch hnumber
  highest_mem := .inr ⟨rfl, rfl⟩
  seen_iff offset _ := by simp [empty]

variable {window : ReplayWindow} {accepted : List UInt64} (htracks : window.Tracks accepted)
  {number : UInt64}
include htracks

theorem fresh_of_highest_lt (hahead : window.highest < number) : Fresh accepted number := by
  have hlt := UInt64.lt_iff_toNat_lt.mp hahead
  constructor
  · intro hmem
    have hle := UInt64.le_iff_toNat_le.mp (htracks.le_highest number hmem)
    omega
  · intro earlier hmem
    have hle := UInt64.le_iff_toNat_le.mp (htracks.le_highest earlier hmem)
    omega

theorem fresh_iff_of_le_highest (hbehind : number ≤ window.highest) :
    Fresh accepted number
      ↔ window.highest.toNat - number.toNat < width
        ∧ window.seen.getLsbD (window.highest.toNat - number.toNat) = false := by
  have hle := UInt64.le_iff_toNat_le.mp hbehind
  constructor
  · rintro ⟨hnew, hnear⟩
    have hoffset : window.highest.toNat - number.toNat < width := by
      obtain hmem | ⟨-, hzero⟩ := htracks.highest_mem
      · have := hnear _ hmem
        omega
      · simp [hzero, width]
    refine ⟨hoffset, ?_⟩
    by_contra hseen
    obtain ⟨other, hmem, hother⟩ := (htracks.seen_iff _ hoffset).mp (by simpa using hseen)
    have heq : other = number := UInt64.toNat_inj.mp (by omega)
    exact hnew (heq ▸ hmem)
  · rintro ⟨hoffset, hseen⟩
    constructor
    · intro hmem
      have hset := (htracks.seen_iff _ hoffset).mpr ⟨number, hmem, by omega⟩
      simp [hseen] at hset
    · intro earlier hmem
      have := UInt64.le_iff_toNat_le.mp (htracks.le_highest earlier hmem)
      omega

/-- The window lets fresh numbers pass and names the others in its error. -/
theorem check_eq : window.check number
    = if Fresh accepted number then .ok () else .error (.replayedRecord number) := by
  unfold check
  split
  · rename_i hahead
    rw [if_pos (fresh_of_highest_lt htracks hahead)]
  · rename_i hahead
    have hiff := fresh_iff_of_le_highest htracks (UInt64.not_lt.mp hahead)
    by_cases hfresh : Fresh accepted number
    · obtain ⟨hoffset, hseen⟩ := hiff.mp hfresh
      simp only [if_pos hfresh, hseen, Bool.false_eq_true, or_false, ge_iff_le,
        if_neg (Nat.not_le.mpr hoffset)]
    · rw [if_neg hfresh, if_pos]
      by_contra hpass
      simp only [ge_iff_le, not_or, Nat.not_le, Bool.not_eq_true] at hpass
      exact hfresh (hiff.mpr hpass)

theorem getLsbD_slid_iff (hahead : window.highest < number) {offset : Nat}
    (hoffset : offset < width) :
    (window.update number).seen.getLsbD offset = true
      ↔ ∃ other ∈ number :: accepted, other.toNat + offset = number.toNat := by
  have hlt := UInt64.lt_iff_toNat_lt.mp hahead
  obtain rfl | hpos := Nat.eq_zero_or_pos offset
  · have hfirst : (window.update number).seen.getLsbD 0 = true := by
      simp [update, hahead]
    exact ⟨fun _ => ⟨number, by simp, rfl⟩, fun _ => hfirst⟩
  · have hbit : (window.update number).seen.getLsbD offset = true
        ↔ ∃ shift, offset = number.toNat - window.highest.toNat + shift
          ∧ window.seen.getLsbD shift = true := by
      have hnot : offset ≠ 0 := by omega
      simp only [update, hahead, if_true, BitVec.getLsbD_or, hnot, BitVec.ofNat_eq_ofNat,
        BitVec.getLsbD_one, decide_false, Bool.and_false, Bool.or_false]
      split
      · rename_i hfar
        have hmiss : ∀ shift, offset ≠ number.toNat - window.highest.toNat + shift := by
          intro shift
          omega
        simp [hmiss]
      · simp only [BitVec.getLsbD_shiftLeft, Bool.and_eq_true, decide_eq_true_eq,
          Bool.not_eq_true', decide_eq_false_iff_not]
        constructor
        · rintro ⟨⟨-, hreach⟩, hseen⟩
          exact ⟨_, by omega, hseen⟩
        · rintro ⟨shift, rfl, hseen⟩
          refine ⟨⟨hoffset, by omega⟩, ?_⟩
          rwa [Nat.add_sub_cancel_left]
    rw [hbit]
    clear hbit
    constructor
    · rintro ⟨shift, rfl, hseen⟩
      obtain ⟨other, hmem, hother⟩ := (htracks.seen_iff shift (by omega)).mp hseen
      exact ⟨other, List.mem_cons_of_mem _ hmem, by omega⟩
    · rintro ⟨other, hmem, hother⟩
      obtain rfl | hmem := List.mem_cons.mp hmem
      · omega
      · have hle := UInt64.le_iff_toNat_le.mp (htracks.le_highest other hmem)
        refine ⟨window.highest.toNat - other.toNat, by omega, ?_⟩
        exact (htracks.seen_iff _ (by omega)).mpr ⟨other, hmem, by omega⟩

theorem getLsbD_marked_iff (hbehind : number ≤ window.highest)
    (hnear : window.highest.toNat - number.toNat < width) {offset : Nat}
    (hoffset : offset < width) :
    (window.update number).seen.getLsbD offset = true
      ↔ ∃ other ∈ number :: accepted, other.toNat + offset = window.highest.toNat := by
  have hle := UInt64.le_iff_toNat_le.mp hbehind
  have hbit : (window.update number).seen.getLsbD offset = true
      ↔ window.seen.getLsbD offset = true
        ∨ offset = window.highest.toNat - number.toNat := by
    simp only [update, UInt64.not_lt.mpr hbehind, if_false, hnear, if_true, BitVec.getLsbD_or,
      Bool.or_eq_true, BitVec.natCast_eq_ofNat, BitVec.getLsbD_ofNat, Nat.one_shiftLeft,
      Nat.testBit_two_pow, Bool.and_eq_true, decide_eq_true_eq]
    exact or_congr_right ⟨fun h => h.2.symm, fun h => ⟨hoffset, h.symm⟩⟩
  rw [hbit, htracks.seen_iff offset hoffset]
  constructor
  · rintro (⟨other, hmem, hother⟩ | rfl)
    · exact ⟨other, List.mem_cons_of_mem _ hmem, hother⟩
    · exact ⟨number, by simp, by omega⟩
  · rintro ⟨other, hmem, hother⟩
    obtain rfl | hmem := List.mem_cons.mp hmem
    · exact .inr (by omega)
    · exact .inl ⟨other, hmem, hother⟩

/-- A number that the window does not reach any more needs no mark. -/
theorem tracks_cons_of_far (hfar : width ≤ window.highest.toNat - number.toNat) :
    window.Tracks (number :: accepted) := by
  have hwidth : 0 < width := by decide
  refine ⟨?_, ?_, ?_⟩
  · intro other hmem
    obtain rfl | hmem := List.mem_cons.mp hmem
    · exact UInt64.le_iff_toNat_le.mpr (by omega)
    · exact htracks.le_highest other hmem
  · obtain hmem | ⟨-, hzero⟩ := htracks.highest_mem
    · exact .inl (List.mem_cons_of_mem _ hmem)
    · rw [hzero, UInt64.toNat_zero] at hfar
      omega
  · intro offset hoffset
    have hother : ¬ number.toNat + offset = window.highest.toNat := by omega
    simp only [htracks.seen_iff offset hoffset, List.exists_mem_cons_iff, hother, false_or]

/-- A window that is moved by a number remembers it with the others. -/
theorem tracks_update (number : UInt64) : (window.update number).Tracks (number :: accepted) := by
  by_cases hahead : window.highest < number
  · have hhighest : (window.update number).highest = number := by
      simp [update, hahead]
    refine ⟨?_, .inl (by simp [hhighest]), ?_⟩
    · rw [hhighest]
      intro other hmem
      obtain rfl | hmem := List.mem_cons.mp hmem
      · exact UInt64.le_refl _
      · exact UInt64.le_trans (htracks.le_highest other hmem) (UInt64.le_of_lt hahead)
    · intro offset hoffset
      rw [hhighest]
      exact getLsbD_slid_iff htracks hahead hoffset
  · have hbehind := UInt64.not_lt.mp hahead
    by_cases hnear : window.highest.toNat - number.toNat < width
    · have hhighest : (window.update number).highest = window.highest := by
        simp [update, hahead, hnear]
      refine ⟨?_, ?_, ?_⟩
      · rw [hhighest]
        intro other hmem
        obtain rfl | hmem := List.mem_cons.mp hmem
        · exact hbehind
        · exact htracks.le_highest other hmem
      · rw [hhighest]
        obtain hmem | ⟨-, hzero⟩ := htracks.highest_mem
        · exact .inl (List.mem_cons_of_mem _ hmem)
        · refine .inl (List.mem_cons.mpr (.inl ?_))
          exact UInt64.le_antisymm (by simp [hzero]) hbehind
      · intro offset hoffset
        rw [hhighest]
        exact getLsbD_marked_iff htracks hbehind hnear hoffset
    · have hkept : window.update number = window := by
        simp [update, hahead, hnear]
      rw [hkept]
      exact tracks_cons_of_far htracks (Nat.not_lt.mp hnear)

end RecordProtection.ReplayWindow
