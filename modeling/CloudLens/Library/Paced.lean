import Mathlib.Algebra.Order.Ring.Defs
import Mathlib.Tactic.Linarith
import Mathlib.Tactic.Ring

/-! Amounts taken at times, under a rate and a burst. A level that grows no faster
than the rate, that never exceeds the burst and that pays for every amount bounds
what is taken in any interval of time. -/
namespace CloudLens.Library.Paced

variable {K : Type} [CommRing K] [LinearOrder K]

/-- What is taken from the first time to the last one, both included. -/
def takenIn (first last : K) (taken : List (K × K)) : K :=
  ((taken.filter (fun entry => first ≤ entry.1 ∧ entry.1 ≤ last)).map Prod.snd).sum

/-- A level since a time pays for the amounts, each at its time. -/
def Pays (rate burst : K) : K → K → List (K × K) → Prop
  | _, _, [] => True
  | level, since, (time, amount) :: rest => since ≤ time ∧ 0 ≤ amount ∧ ∃ after, 0 ≤ after ∧ after + amount ≤ burst ∧
      after + amount ≤ level + rate * (time - since) ∧ Pays rate burst after time rest

section Bounds

variable {rate burst level since first last time amount : K} {taken : List (K × K)}

theorem takenIn_cons_of_mem (inside : first ≤ time ∧ time ≤ last) :
    takenIn first last ((time, amount) :: taken) = amount + takenIn first last taken := by
  rw [takenIn,List.filter_cons_of_pos (by simpa using inside),List.map_cons,List.sum_cons]
  rfl

theorem takenIn_cons_of_notMem (outside : ¬ (first ≤ time ∧ time ≤ last)) :
    takenIn first last ((time, amount) :: taken) = takenIn first last taken := by
  rw [takenIn,List.filter_cons_of_neg (by simpa using outside)]
  rfl

theorem takenIn_after (beyond : last < since) (pays : Pays rate burst level since taken) : takenIn first last taken = 0 := by
  induction taken generalizing level since with
  | nil => rfl
  | cons entry rest ih =>
    obtain ⟨next,_,after,_,_,_,later⟩ := pays
    have outside : ¬ (first ≤ entry.1 ∧ entry.1 ≤ last) := fun inside => absurd inside.2 (not_le.mpr (beyond.trans_le next))
    rw [takenIn_cons_of_notMem outside]
    exact ih (beyond.trans_le next) later

variable [IsStrictOrderedRing K]

theorem Pays.earlier {start before : K} (pays : Pays rate burst level since taken) (order : before ≤ since)
    (covered : level ≤ start + rate * (since - before)) : Pays rate burst start before taken := by
  cases taken with
  | nil => trivial
  | cons entry rest =>
    obtain ⟨next,positive,after,nonneg,capped,paid,later⟩ := pays
    refine ⟨order.trans next,positive,after,nonneg,capped,?_,later⟩
    have split : rate * (entry.1 - before) = rate * (since - before) + rate * (entry.1 - since) := by ring
    rw [split]
    linarith

theorem takenIn_from (grows : 0 ≤ rate) (nonneg : 0 ≤ level) (order : since ≤ last) (pays : Pays rate burst level since taken) :
    takenIn first last taken ≤ level + rate * (last - since) := by
  induction taken generalizing level since with
  | nil => exact add_nonneg nonneg (mul_nonneg grows (sub_nonneg.mpr order))
  | cons entry rest ih =>
    obtain ⟨next,positive,after,remains,_,paid,later⟩ := pays
    rcases le_or_gt entry.1 last with inside | beyond
    · have tail := ih remains inside later
      have split : rate * (last - since) = rate * (entry.1 - since) + rate * (last - entry.1) := by ring
      rw [split]
      by_cases counted : first ≤ entry.1
      · rw [takenIn_cons_of_mem ⟨counted,inside⟩]
        linarith
      · rw [takenIn_cons_of_notMem fun within => counted within.1]
        linarith
    · rw [takenIn_cons_of_notMem fun within => absurd within.2 (not_le.mpr beyond),takenIn_after beyond later]
      exact add_nonneg nonneg (mul_nonneg grows (sub_nonneg.mpr order))

theorem takenIn_le (grows : 0 ≤ rate) (nonneg : 0 ≤ burst) (order : first ≤ last) (pays : Pays rate burst level since taken) :
    takenIn first last taken ≤ burst + rate * (last - first) := by
  have enough : 0 ≤ burst + rate * (last - first) := add_nonneg nonneg (mul_nonneg grows (sub_nonneg.mpr order))
  induction taken generalizing level since with
  | nil => exact enough
  | cons entry rest ih =>
    obtain ⟨next,positive,after,remains,capped,_,later⟩ := pays
    by_cases inside : first ≤ entry.1 ∧ entry.1 ≤ last
    · -- the first amount in the interval finds at most the burst
      have tail : takenIn first last rest ≤ after + rate * (last - entry.1) := takenIn_from grows remains inside.2 later
      have shorter : rate * (last - entry.1) ≤ rate * (last - first) := mul_le_mul_of_nonneg_left (by linarith [inside.1]) grows
      rw [takenIn_cons_of_mem inside]
      linarith
    · rw [takenIn_cons_of_notMem inside]
      exact ih later

end Bounds

end CloudLens.Library.Paced
