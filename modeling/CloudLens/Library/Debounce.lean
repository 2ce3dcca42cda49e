import Mathlib.Data.List.Infix

/-! A debounced observation. A committed value is replaced by an observed one
after the same observation was made a given number of times in a row. The
counter keeps one candidate, and what it holds is tied to the list of the
observations so far, oldest first. -/
namespace CloudLens.Library.Debounce

variable {Value : Type}

structure Counter (Value : Type) where
  committed : Value
  pending : Option Value
  count : ℕ

/-- The observation was made at the last `times` points. -/
def Held (value : Value) (times : ℕ) (seen : List Value) : Prop := List.replicate times value <:+ seen

structure Counts (dwell : ℕ) (seen : List Value) (s : Counter Value) : Prop where
  candidate : ∀ value, s.pending = some value → value ≠ s.committed ∧ 0 < s.count ∧ s.count < dwell ∧
    (∀ times, Held value times seen ↔ times ≤ s.count) ∧ ∀ other ≠ value, ∀ times, Held other times seen ↔ times = 0
  settled : s.pending = none → ∀ value ≠ s.committed, ∀ times, Held value times seen ↔ times = 0

theorem held_zero (value : Value) (seen : List Value) : Held value 0 seen := List.nil_suffix

theorem held_succ {value observed : Value} {times : ℕ} {seen : List Value} :
    Held value (times + 1) (seen ++ [observed]) ↔ value = observed ∧ Held value times seen := by
  rw [Held,List.replicate_succ',List.suffix_concat_iff]
  constructor
  · rintro (empty | ⟨front,same,suffix⟩)
    · simp at empty
    · obtain ⟨rfl,last⟩ := List.append_inj' same rfl
      exact ⟨by simpa using last,suffix⟩
  · rintro ⟨rfl,suffix⟩
    exact Or.inr ⟨_,rfl,suffix⟩

theorem held_other {value observed : Value} (distinct : value ≠ observed) (seen : List Value) (times : ℕ) :
    Held value times (seen ++ [observed]) ↔ times = 0 := by
  cases times with
  | zero => simp [held_zero]
  | succ times => simp [held_succ,distinct]

theorem held_more {value : Value} {seen : List Value} {count : ℕ} (held : ∀ times, Held value times seen ↔ times ≤ count)
    (times : ℕ) : Held value times (seen ++ [value]) ↔ times ≤ count + 1 := by
  cases times with
  | zero => simp [held_zero]
  | succ times => simp [held_succ,held]

theorem counts_nil (dwell : ℕ) (value : Value) : Counts dwell [] ⟨value,none,0⟩ where
  candidate := by
    intro value pending
    cases pending
  settled := by
    intro _ value _ times
    cases times with
    | zero => simp [held_zero]
    | succ times => simp [Held,List.replicate_succ]

theorem pending_none {seen : List Value} {s : Counter Value} (counts : Counts 1 seen s) : s.pending = none := by
  cases pending : s.pending with
  | none => rfl
  | some value =>
    obtain ⟨-,positive,below,-⟩ := counts.candidate value pending
    omega

theorem counts_settled {dwell count : ℕ} {value : Value} (seen : List Value) :
    Counts dwell (seen ++ [value]) ⟨value,none,count⟩ where
  candidate := by
    intro other pending
    cases pending
  settled := fun _ other differs times => held_other differs seen times

variable [DecidableEq Value]

def nominate (s : Counter Value) (observed : Value) : Counter Value :=
  if s.pending = some observed then {s with count := s.count + 1}
  else {s with pending := some observed, count := 1}

def observe (dwell : ℕ) (s : Counter Value) (observed : Value) : Counter Value :=
  if observed = s.committed then {s with pending := none, count := 0}
  else if 1 < dwell then
    if dwell ≤ (nominate s observed).count then ⟨observed,none,0⟩ else nominate s observed
  else {s with committed := observed}

@[simp] theorem nominate_committed (s : Counter Value) (observed : Value) :
    (nominate s observed).committed = s.committed := by
  unfold nominate
  split <;> rfl

@[simp] theorem nominate_pending (s : Counter Value) (observed : Value) :
    (nominate s observed).pending = some observed := by
  unfold nominate
  split
  · assumption
  · rfl

variable {dwell : ℕ} {seen : List Value} {s : Counter Value} {observed : Value}

theorem nominate_held (counts : Counts dwell seen s) (differs : observed ≠ s.committed) (times : ℕ) :
    Held observed times (seen ++ [observed]) ↔ times ≤ (nominate s observed).count := by
  unfold nominate
  split
  · rename_i pending
    exact held_more (counts.candidate observed pending).2.2.2.1 times
  · rename_i fresh
    have none_before : ∀ times, Held observed times seen ↔ times ≤ 0 := by
      intro times
      rw [Nat.le_zero]
      cases pending : s.pending with
      | none => exact counts.settled pending observed differs times
      | some value =>
        refine (counts.candidate value pending).2.2.2.2 observed ?_ times
        rintro rfl
        exact fresh pending
    exact held_more none_before times

theorem nominate_pos (s : Counter Value) (observed : Value) : 0 < (nominate s observed).count := by
  unfold nominate
  split <;> simp

theorem observe_counts (positive : 1 ≤ dwell) (counts : Counts dwell seen s) :
    Counts dwell (seen ++ [observed]) (observe dwell s observed) := by
  unfold observe
  split
  · rename_i same
    rw [same]
    exact counts_settled seen
  · rename_i differs
    split
    · split
      · exact counts_settled seen
      · rename_i short
        refine ⟨?_,?_⟩
        · intro value pending
          rw [nominate_pending,Option.some.injEq] at pending
          subst pending
          refine ⟨by simpa using differs,nominate_pos s _,not_le.mp short,nominate_held counts differs,?_⟩
          exact fun other distinct => held_other distinct seen
        · intro pending
          rw [nominate_pending] at pending
          cases pending
    · have one : dwell = 1 := by omega
      subst one
      rw [show ({s with committed := observed} : Counter Value) = ⟨observed,none,s.count⟩ by
        rw [pending_none counts]]
      exact counts_settled seen

theorem observe_committed (positive : 1 ≤ dwell) (s : Counter Value) (observed : Value) :
    (observe dwell s observed).committed =
      if observed ≠ s.committed ∧ dwell ≤ (nominate s observed).count then observed else s.committed := by
  unfold observe
  split
  · rename_i same
    simp [same]
  · rename_i differs
    split
    · split
      · rename_i reached
        simp [differs,reached]
      · rename_i short
        simp [short]
    · rename_i single
      have enough : dwell ≤ (nominate s observed).count := by
        have := nominate_pos s observed
        omega
      simp [differs,enough]

theorem observe_exact (observed : Value) (positive : 1 ≤ dwell) (counts : Counts dwell seen s) {value : Value}
    (differs : value ≠ s.committed) :
    (observe dwell s observed).committed = value ↔ Held value dwell (seen ++ [observed]) := by
  rw [observe_committed positive]
  by_cases same : value = observed
  · subst same
    rw [nominate_held counts differs]
    by_cases reached : dwell ≤ (nominate s value).count
    · simp [differs,reached]
    · simp [reached,Ne.symm differs]
  · rw [held_other same,iff_false_right (by omega : dwell ≠ 0)]
    split
    · exact fun equal => same equal.symm
    · exact Ne.symm differs

end CloudLens.Library.Debounce
