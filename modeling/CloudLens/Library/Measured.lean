import CloudLens.Library.Elapsed
import Mathlib.MeasureTheory.Measure.Lebesgue.Basic

/-! Time measured on the real line. A set that holds all of the inside of a unit, or
none of it, has as its measure between two whole instants the units that elapse. -/
namespace CloudLens.Library.Elapsed
open MeasureTheory

section Units

variable {S : Set ℝ} {active : ℤ → Prop} [DecidablePred active]

theorem volume_unit (n : ℤ) (whole : ∀ t : ℝ, n < t → t < n + 1 → (t ∈ S ↔ active n)) :
    volume (S ∩ Set.Ico (n : ℝ) (n + 1)) = if active n then 1 else 0 := by
  have length : (n : ℝ) + 1 - n = 1 := add_sub_cancel_left _ _
  split
  · rename_i running
    apply le_antisymm
    · have most : volume (S ∩ Set.Ico (n : ℝ) (n + 1)) ≤ volume (Set.Ico (n : ℝ) (n + 1)) := measure_mono Set.inter_subset_right
      rwa [Real.volume_Ico,length,ENNReal.ofReal_one] at most
    · have inside : Set.Ioo (n : ℝ) (n + 1) ⊆ S ∩ Set.Ico (n : ℝ) (n + 1) := by
        rintro t ⟨after,before⟩
        exact ⟨(whole t after before).mpr running,after.le,before⟩
      have least := measure_mono (μ := volume) inside
      rwa [Real.volume_Ioo,length,ENNReal.ofReal_one] at least
  · rename_i idle
    have start : S ∩ Set.Ico (n : ℝ) (n + 1) ⊆ {(n : ℝ)} := by
      rintro t ⟨member,after,before⟩
      rcases after.eq_or_lt with same | later
      · exact same.symm
      · exact absurd ((whole t later before).mp member) idle
    exact measure_mono_null start Real.volume_singleton

theorem volume_units (whole : ∀ (n : ℤ) (t : ℝ), n < t → t < n + 1 → (t ∈ S ↔ active n)) {first last : ℤ} (order : first ≤ last) :
    volume (S ∩ Set.Ico (first : ℝ) last) = (elapsed active first last).toNat := by
  induction last, order using Int.leInduction with
  | base =>
    rw [Set.Ico_self,Set.inter_empty,measure_empty,elapsed_of_le le_rfl]
    simp
  | succ last order ih =>
    have below : (first : ℝ) ≤ last := Int.cast_le.mpr order
    have early : S ∩ Set.Ico (first : ℝ) (last + 1) ∩ Set.Iio (last : ℝ) = S ∩ Set.Ico (first : ℝ) last := by
      ext t
      simp only [Set.mem_inter_iff,Set.mem_Ico,Set.mem_Iio]
      constructor
      · rintro ⟨⟨member,after,_⟩,before⟩
        exact ⟨member,after,before⟩
      · rintro ⟨member,after,before⟩
        exact ⟨⟨member,after,by linarith⟩,before⟩
    have late : (S ∩ Set.Ico (first : ℝ) (last + 1)) \ Set.Iio (last : ℝ) = S ∩ Set.Ico (last : ℝ) (last + 1) := by
      ext t
      simp only [Set.mem_sdiff,Set.mem_inter_iff,Set.mem_Ico,Set.mem_Iio,not_lt]
      constructor
      · rintro ⟨⟨member,_,before⟩,after⟩
        exact ⟨member,after,before⟩
      · rintro ⟨member,after,before⟩
        exact ⟨⟨member,below.trans after,before⟩,after⟩
    have cut := measure_inter_add_sdiff (μ := volume) (S ∩ Set.Ico (first : ℝ) (last + 1)) (measurableSet_Iio (a := (last : ℝ)))
    have unit : elapsed active last (last + 1) = if active last then 1 else 0 := by
      have once : (last + 1 - last).toNat = 1 := by omega
      unfold elapsed
      rw [once,Nat.count_succ,Nat.count_zero]
      simp
    rw [early,late,ih,volume_unit last (whole last)] at cut
    have grown : (elapsed active first (last + 1)).toNat = (elapsed active first last).toNat + if active last then 1 else 0 := by
      have nonneg : 0 ≤ elapsed active first last := elapsed_nonneg
      rw [← elapsed_add order (Int.le_add_one le_rfl),unit]
      split <;> omega
    push_cast
    rw [← cut,grown]
    split <;> simp

end Units

end CloudLens.Library.Elapsed
