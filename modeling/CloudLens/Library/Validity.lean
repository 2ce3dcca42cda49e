import Mathlib.Order.Basic
import Mathlib.Data.List.Basic
import Mathlib.Order.Lattice

/-! Validity periods: half-open intervals of a linear order that may have no end.
Periods are apart when no instant lies in both. A period without end is apart from
another exactly when the other is empty or has ended by then, and closing a period
that is still open at the time of the closing only shortens it. -/
namespace CloudLens.Library

structure Validity (Time : Type) where
  start : Time
  stop : Option Time

namespace Validity

variable {Time : Type} [LinearOrder Time]

def Covers (period : Validity Time) (t : Time) : Prop := period.start ≤ t ∧ ∀ stop ∈ period.stop, t < stop

instance (period : Validity Time) (t : Time) : Decidable (period.Covers t) :=
  inferInstanceAs (Decidable (period.start ≤ t ∧ ∀ stop ∈ period.stop, t < stop))

def Vacuous (period : Validity Time) : Prop := ∀ t, ¬ period.Covers t

def Apart (first second : Validity Time) : Prop := ∀ t, ¬ (first.Covers t ∧ second.Covers t)

def EndedBy (period : Validity Time) (t : Time) : Prop := ∃ stop ∈ period.stop, stop ≤ t

def closeAt (period : Validity Time) (t : Time) : Validity Time := ⟨period.start,some t⟩

def onward (t : Time) : Validity Time := ⟨t,none⟩

variable {first second period : Validity Time} {t u : Time}

theorem covers_onward : (onward t).Covers u ↔ t ≤ u := by
  simp [onward,Covers]

theorem covers_closeAt : (period.closeAt t).Covers u ↔ period.start ≤ u ∧ u < t := by
  simp [closeAt,Covers]

theorem apart_onward_iff : period.Apart (onward t) ↔ period.Vacuous ∨ period.EndedBy t := by
  constructor
  · intro apart
    by_cases empty : period.Vacuous
    · exact Or.inl empty
    · obtain ⟨u,covered⟩ := not_forall_not.mp empty
      refine Or.inr ?_
      by_contra unended
      refine apart (max u t) ⟨⟨covered.1.trans (le_max_left u t),?_⟩,covers_onward.mpr (le_max_right u t)⟩
      intro stop held
      refine max_lt (covered.2 stop held) (lt_of_not_ge ?_)
      intro ended
      exact unended ⟨stop,held,ended⟩
  · rintro (empty | ⟨stop,held,ended⟩) u ⟨covered,later⟩
    · exact empty u covered
    · exact absurd (covered.2 stop held) (not_lt.mpr (ended.trans (covers_onward.mp later)))

theorem closeAt_covers_of_open (endless : period.stop = none) (covered : (period.closeAt t).Covers u) :
    period.Covers u := by
  refine ⟨(covers_closeAt.mp covered).1,?_⟩
  intro stop held
  rw [endless] at held
  cases held

theorem closeAt_apart_onward : (period.closeAt t).Apart (onward t) :=
  fun _ both => absurd (covers_closeAt.mp both.1).2 (not_lt.mpr (covers_onward.mp both.2))

end Validity

end CloudLens.Library
