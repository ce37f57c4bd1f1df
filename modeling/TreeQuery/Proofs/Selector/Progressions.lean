import Mathlib.Algebra.Order.Ring.Int
import Mathlib.Tactic.Lemma
import TreeQuery.Selector.Nth

/-!
# Arithmetic progressions

A formula picks the positions that its start and its step lead to.  The test for it multiplies and
divides numbers of 64 bits, and on the way there is none that they cannot hold: the distance of a
position from the start takes 33 bits and the step 32.  Main statement: `includes_iff_exists`.
-/

namespace TreeQuery.Selector.Nth

/-! ### Numbers of 64 bits -/

/-- 64 bits hold the integer. -/
def Fits (i : Int) : Prop := -2 ^ 63 ≤ i ∧ i < 2 ^ 63

/-- An integer of less than 63 bits fits 64 bits with a sign. -/
lemma fits_of_natAbs_lt {i : Int} (h : i.natAbs < 2 ^ 63) : Fits i := by
  unfold Fits
  omega

/-- What 64 bits hold is not cut off. -/
lemma bmod_of_fits {i : Int} (fits : Fits i) : i.bmod (2 ^ 64) = i := by
  unfold Fits at fits
  exact Int.bmod_eq_of_le_mul_two (by push_cast; omega) (by push_cast; omega)

variable (nth : Nth) (position : Int32)

/-- How far a position is from the start. -/
def distance : Int := position.toInt - nth.start.toInt

/-- The integers that come up when a position is tested: its distance from the start, the product of
that with the step, and what is left of it and how often the step goes into it. -/
def intermediates : List Int :=
  [nth.distance position, nth.distance position * nth.step.toInt,
    (nth.distance position).tmod nth.step.toInt, (nth.distance position).tdiv nth.step.toInt]

/-- The distance of two integers of 32 bits is less than 2 ^ 32. -/
lemma natAbs_distance_lt : (nth.distance position).natAbs < 2 ^ 32 := by
  have low := position.le_toInt
  have high := position.toInt_lt
  have low' := nth.start.le_toInt
  have high' := nth.start.toInt_lt
  unfold distance
  omega

/-- The size of a step is at most 2 ^ 31. -/
lemma natAbs_step_le : nth.step.toInt.natAbs ≤ 2 ^ 31 := by
  have low := nth.step.le_toInt
  have high := nth.step.toInt_lt
  omega

/-- Whatever is computed on the way fits 64 bits. -/
lemma fits_of_mem_intermediates {i : Int} (member : i ∈ nth.intermediates position) : Fits i := by
  have near := nth.natAbs_distance_lt position
  have small := nth.natAbs_step_le
  apply fits_of_natAbs_lt
  simp only [intermediates, List.mem_cons, List.not_mem_nil, or_false] at member
  rcases member with rfl | rfl | rfl | rfl
  · omega
  · have product : (nth.distance position).natAbs * nth.step.toInt.natAbs ≤
        (2 ^ 32 - 1) * 2 ^ 31 := Nat.mul_le_mul (by omega) small
    rw [Int.natAbs_mul]
    omega
  · have rest : ((nth.distance position).tmod nth.step.toInt).natAbs ≤
        (nth.distance position).natAbs := by
      rw [Int.natAbs_tmod]
      exact Nat.mod_le _ _
    omega
  · have quotient := Int.natAbs_tdiv_le_natAbs (nth.distance position) nth.step.toInt
    omega

/-- The distance in 64 bits is the distance of integers. -/
lemma toInt_distance :
    (position.toInt64 - nth.start.toInt64).toInt = nth.distance position := by
  have fits := nth.fits_of_mem_intermediates position (.head _)
  rw [Int64.toInt_sub, Int32.toInt_toInt64, Int32.toInt_toInt64]
  exact bmod_of_fits fits

/-- The product in 64 bits is the product of integers. -/
lemma toInt_product :
    ((position.toInt64 - nth.start.toInt64) * nth.step.toInt64).toInt =
      nth.distance position * nth.step.toInt := by
  have fits := nth.fits_of_mem_intermediates position (.tail _ (.head _))
  rw [Int64.toInt_mul, toInt_distance, Int32.toInt_toInt64]
  exact bmod_of_fits fits

/-- The remainder in 64 bits is the remainder of integers. -/
lemma toInt_remainder :
    ((position.toInt64 - nth.start.toInt64) % nth.step.toInt64).toInt =
      (nth.distance position).tmod nth.step.toInt := by
  rw [Int64.toInt_mod, toInt_distance, Int32.toInt_toInt64]

/-! ### Multiples -/

/-- A distance is some number of steps if it is a multiple of the step, on the side to which the
step leads. -/
lemma exists_mul_eq_iff {step distance : Int} (moves : step ≠ 0) :
    (∃ k : Nat, step * k = distance) ↔ 0 ≤ distance * step ∧ distance.tmod step = 0 := by
  rw [← Int.dvd_iff_tmod_eq_zero]
  constructor
  · rintro ⟨k, rfl⟩
    refine ⟨?_, Int.dvd_mul_right step k⟩
    rw [mul_right_comm]
    exact Int.mul_nonneg (mul_self_nonneg step) (Int.natCast_nonneg k)
  · rintro ⟨forward, k, rfl⟩
    rw [mul_right_comm] at forward
    have positive : 0 < step * step := mul_self_pos.2 moves
    obtain ⟨n, rfl⟩ := Int.eq_ofNat_of_zero_le (nonneg_of_mul_nonneg_right forward positive)
    exact ⟨n, rfl⟩

/-- A position is included if its distance has the sign of the step and is a multiple of it. -/
lemma includes_iff :
    nth.includes position ↔
      if nth.step = 0 then position = nth.start
      else 0 ≤ nth.distance position * nth.step.toInt ∧
        (nth.distance position).tmod nth.step.toInt = 0 := by
  unfold includes
  dsimp only
  split
  · exact beq_iff_eq
  · rw [Bool.and_eq_true, decide_eq_true_iff, beq_iff_eq, Int64.le_iff_toInt_le,
      ← Int64.toInt_inj, toInt_product, toInt_remainder]
    rfl

/-- A formula includes a position if some number of its steps leads from its start to there,
whatever its coefficients are.  The test computes with integers as they are, since 64 bits hold them
all. -/
theorem includes_iff_exists :
    (nth.includes position ↔
      ∃ k : Nat, nth.step.toInt * k + nth.start.toInt = position.toInt) ∧
    (∀ i ∈ nth.intermediates position, Fits i) ∧
    (position.toInt64 - nth.start.toInt64).toInt = nth.distance position ∧
    ((position.toInt64 - nth.start.toInt64) * nth.step.toInt64).toInt =
      nth.distance position * nth.step.toInt ∧
    ((position.toInt64 - nth.start.toInt64) % nth.step.toInt64).toInt =
      (nth.distance position).tmod nth.step.toInt := by
  refine ⟨?_, fun _ => nth.fits_of_mem_intermediates position, nth.toInt_distance position,
    nth.toInt_product position, nth.toInt_remainder position⟩
  have apart (k : Nat) : nth.step.toInt * k + nth.start.toInt = position.toInt ↔
      nth.step.toInt * k = nth.distance position := eq_sub_iff_add_eq.symm
  simp only [apart]
  rw [includes_iff]
  split
  · rename_i still
    rw [still, Int32.toInt_zero]
    simp only [zero_mul, exists_const]
    rw [distance, @eq_comm _ 0, sub_eq_zero, Int32.toInt_inj]
  · rename_i moves
    have moves : nth.step.toInt ≠ 0 := fun e => moves (Int32.toInt_inj.1 e)
    exact (exists_mul_eq_iff moves).symm

/-- The least step and the greatest start: the greatest position is included, the least is not. -/
example : includes ⟨Int32.minValue, Int32.maxValue⟩ Int32.maxValue = true ∧
    includes ⟨Int32.minValue, Int32.maxValue⟩ Int32.minValue = false := by decide

end TreeQuery.Selector.Nth
