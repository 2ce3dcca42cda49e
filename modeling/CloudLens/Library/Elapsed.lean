import Mathlib.Data.Nat.Count
import Mathlib.Algebra.Order.Group.Int

/-! Time measured against a schedule: the ticks between two instants at which
the schedule is active. The deadline of an amount is the first instant that has
the amount behind it; the tick before it is active. -/
namespace CloudLens.Library.Elapsed

section Measure

variable (active : ℤ → Prop) [DecidablePred active]

def elapsed (first last : ℤ) : ℤ := Nat.count (fun k : ℕ => active (first + k)) (last - first).toNat

variable {active} {first middle last : ℤ}

theorem elapsed_of_le (order : last ≤ first) : elapsed active first last = 0 := by
  have none : (last - first).toNat = 0 := by omega
  rw [elapsed,none,Nat.count_zero]
  rfl

theorem elapsed_nonneg : 0 ≤ elapsed active first last := Int.natCast_nonneg _

theorem elapsed_add (left : first ≤ middle) (right : middle ≤ last) :
    elapsed active first middle + elapsed active middle last = elapsed active first last := by
  have length : (last - first).toNat = (middle - first).toNat + (last - middle).toNat := by omega
  have shifted : ∀ k : ℕ, first + (((middle - first).toNat + k : ℕ) : ℤ) = middle + k := by
    intro k
    omega
  unfold elapsed
  rw [length,Nat.count_add,Int.natCast_add]
  simp only [shifted]

theorem elapsed_split (order : first ≤ middle) :
    elapsed active first last = elapsed active first (min last middle) + elapsed active middle last := by
  rcases le_total last middle with before | after
  · rw [min_eq_left before,elapsed_of_le before,add_zero]
  · rw [min_eq_right after,elapsed_add order after]

theorem elapsed_mono (order : middle ≤ last) : elapsed active first middle ≤ elapsed active first last := by
  rcases le_total first middle with inside | before
  · rw [← elapsed_add inside order]
    exact le_add_of_nonneg_right elapsed_nonneg
  · rw [elapsed_of_le before]
    exact elapsed_nonneg

theorem elapsed_anti (order : first ≤ middle) : elapsed active middle last ≤ elapsed active first last := by
  rcases le_total middle last with inside | after
  · rw [← elapsed_add order inside]
    exact le_add_of_nonneg_left elapsed_nonneg
  · rw [elapsed_of_le after]
    exact elapsed_nonneg

theorem elapsed_inactive (never : ∀ t, first ≤ t → t < last → ¬ active t) : elapsed active first last = 0 := by
  unfold elapsed
  rw [Int.natCast_eq_zero]
  apply Nat.count_iff_forall_not.mpr
  intro k below
  exact never (first + k) (by omega) (by omega)

theorem elapsed_le_of_le (order : first ≤ last) : elapsed active first last ≤ last - first := by
  have most := @Nat.count_le (fun k : ℕ => active (first + k)) _ (last - first).toNat
  unfold elapsed
  omega

theorem elapsed_full_iff (order : first ≤ last) :
    last - first ≤ elapsed active first last ↔ ∀ t, first ≤ t → t < last → active t := by
  have most := @Nat.count_le (fun k : ℕ => active (first + k)) _ (last - first).toNat
  constructor
  · intro full t after before
    have whole : Nat.count (fun k : ℕ => active (first + k)) (last - first).toNat = (last - first).toNat := by
      unfold elapsed at full
      omega
    have running := Nat.count_iff_forall.mp whole (t - first).toNat (by omega)
    have here : first + ((t - first).toNat : ℤ) = t := by omega
    rwa [here] at running
  · intro always
    have whole : Nat.count (fun k : ℕ => active (first + k)) (last - first).toNat = (last - first).toNat := by
      apply Nat.count_iff_forall.mpr
      intro k below
      exact always (first + k) (by omega) (by omega)
    unfold elapsed
    omega

theorem elapsed_active (order : first ≤ last) (always : ∀ t, first ≤ t → t < last → active t) :
    elapsed active first last = last - first :=
  le_antisymm (elapsed_le_of_le order) ((elapsed_full_iff order).mpr always)

theorem elapsed_window {lower upper : ℤ} (window : ∀ t, first ≤ t → t < last → (active t ↔ lower ≤ t ∧ t < upper)) :
    elapsed active first last = max 0 (min last upper - max first lower) := by
  rcases le_or_gt (min last upper) (max first lower) with apart | overlap
  · have none : elapsed active first last = 0 := by
      apply elapsed_inactive
      intro t after before running
      have inside := (window t after before).mp running
      omega
    omega
  · have opening : elapsed active first (max first lower) = 0 := by
      apply elapsed_inactive
      intro t after before running
      have inside := (window t after (by omega)).mp running
      omega
    have closing : elapsed active (min last upper) last = 0 := by
      apply elapsed_inactive
      intro t after before running
      have inside := (window t (by omega) before).mp running
      omega
    have between : elapsed active (max first lower) (min last upper) = min last upper - max first lower := by
      apply elapsed_active overlap.le
      intro t after before
      exact (window t (by omega) (by omega)).mpr ⟨by omega,by omega⟩
    have start : first ≤ max first lower := le_max_left _ _
    have finish : min last upper ≤ last := min_le_left _ _
    calc
      elapsed active first last = elapsed active first (max first lower) + elapsed active (max first lower) last :=
        (elapsed_add start (overlap.le.trans finish)).symm
      _ = elapsed active (max first lower) (min last upper) + elapsed active (min last upper) last := by
        rw [opening,zero_add,elapsed_add overlap.le finish]
      _ = max 0 (min last upper - max first lower) := by
        rw [between,closing,add_zero]
        omega

theorem exists_active (some : 0 < elapsed active first last) : ∃ t, first ≤ t ∧ t < last ∧ active t := by
  by_contra none
  push Not at none
  rw [elapsed_inactive none] at some
  exact lt_irrefl _ some

end Measure

section Deadlines

variable {active : ℤ → Prop} [DecidablePred active] {start amount due : ℤ}

structure Deadline (active : ℤ → Prop) [DecidablePred active] (start amount due : ℤ) : Prop where
  after : start < due
  reached : elapsed active start due = amount
  running : active (due - 1)

theorem Deadline.prepend {first : ℤ} (deadline : Deadline active start amount due) (order : first ≤ start) :
    Deadline active first (elapsed active first start + amount) due := by
  refine ⟨lt_of_le_of_lt order deadline.after,?_,deadline.running⟩
  rw [← deadline.reached,elapsed_add order deadline.after.le]

theorem Deadline.least (deadline : Deadline active start amount due) {t : ℤ} (earlier : t < due) :
    elapsed active start t < amount := by
  have lastTick : elapsed active (due - 1) due = 1 := by
    rw [elapsed_active (by omega)]
    · omega
    · intro t after before
      have here : t = due - 1 := by omega
      rw [here]
      exact deadline.running
  have after := deadline.after
  have split : elapsed active start (due - 1) + elapsed active (due - 1) due = elapsed active start due :=
    elapsed_add (by omega) (by omega)
  have before : elapsed active start t ≤ elapsed active start (due - 1) := elapsed_mono (by omega)
  rw [lastTick,deadline.reached] at split
  omega

theorem Deadline.mono {more later : ℤ} (deadline : Deadline active start amount due) (other : Deadline active start more later)
    (order : amount ≤ more) : due ≤ later := by
  by_contra before
  have short := deadline.least (not_le.mp before)
  rw [other.reached] at short
  omega

/-- A deadline counted from an earlier or a later origin holds the amount from
the start exactly when nothing elapses between an earlier origin and the start. -/
theorem Deadline.holds_iff {origin : ℤ} (deadline : Deadline active origin amount due) (positive : 0 < amount) :
    amount ≤ elapsed active start due ↔ elapsed active origin start = 0 := by
  rcases le_total start origin with before | after
  · rw [elapsed_of_le before,← deadline.reached]
    simp only [iff_true]
    exact elapsed_anti before
  · rcases le_total start due with inside | beyond
    · have split : elapsed active origin start + elapsed active start due = elapsed active origin due :=
        elapsed_add after inside
      rw [deadline.reached] at split
      have low : 0 ≤ elapsed active origin start := elapsed_nonneg
      omega
    · have none : elapsed active start due = 0 := elapsed_of_le beyond
      have all : elapsed active origin due ≤ elapsed active origin start := elapsed_mono beyond
      rw [deadline.reached] at all
      omega

end Deadlines

end CloudLens.Library.Elapsed
