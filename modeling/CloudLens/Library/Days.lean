import CloudLens.Library.Calendar
import Mathlib.Algebra.BigOperators.Group.List.Basic
import Mathlib.Data.Nat.Basic

/-! The days of the calendar in a row. The ordinal numbers them without a gap from
the first of January of the year 1 to the last of December 9999, so a sum of
days is a sum of numbers as long as it stays within. -/
namespace CloudLens.Library.Calendar.Date
open Library.Calendar

def yearStart (year : ℕ) : ℕ := 365 * (year - 1) + (year - 1) / 4 - (year - 1) / 100 + (year - 1) / 400

def monthStart (year month : ℕ) : ℕ :=
  ((List.range (month - 1)).map fun earlier => daysInMonth year (earlier + 1)).sum

theorem ordinal_eq (d : Date) : d.ordinal = yearStart d.year + monthStart d.year d.month + d.day := rfl

theorem monthStart_succ (year : ℕ) {month : ℕ} (positive : 1 ≤ month) :
    monthStart year (month + 1) = monthStart year month + daysInMonth year month := by
  unfold monthStart
  obtain ⟨m,rfl⟩ := Nat.exists_eq_add_of_le positive
  rw [Nat.add_sub_cancel,Nat.add_sub_cancel_left,Nat.add_comm 1 m,List.range_succ,List.map_append,List.sum_append]
  simp

theorem monthStart_mono (year : ℕ) {month later : ℕ} (positive : 1 ≤ month) (before : month ≤ later) :
    monthStart year month ≤ monthStart year later := by
  induction later, before using Nat.le_induction with
  | base => exact le_rfl
  | succ later before ih =>
    rw [monthStart_succ year (positive.trans before)]
    omega

theorem yearStart_succ {year : ℕ} (positive : 1 ≤ year) : yearStart (year + 1) = yearStart year + monthStart year 13 := by
  have months : monthStart year 13 = 365 + if isLeap year then 1 else 0 := by
    unfold monthStart daysInMonth
    cases isLeap year with
    | false => rfl
    | true => rfl
  have fourth : year / 4 = (year - 1) / 4 + if year % 4 = 0 then 1 else 0 := by split <;> omega
  have century : year / 100 = (year - 1) / 100 + if year % 100 = 0 then 1 else 0 := by split <;> omega
  have cycle : year / 400 = (year - 1) / 400 + if year % 400 = 0 then 1 else 0 := by split <;> omega
  have fewer : (year - 1) / 100 ≤ (year - 1) / 4 := by omega
  have centuries : year % 100 = 0 → year % 4 = 0 := by omega
  have cycles : year % 400 = 0 → year % 100 = 0 := by omega
  rw [months]
  unfold yearStart isLeap
  rw [Nat.add_sub_cancel,fourth,century,cycle]
  generalize (year - 1) / 4 = fourths at *
  generalize (year - 1) / 100 = hundreds at *
  generalize (year - 1) / 400 = fourHundreds at *
  by_cases four : year % 4 = 0
  · by_cases hundred : year % 100 = 0
    · by_cases fourHundred : year % 400 = 0
      · simp only [four,hundred,fourHundred,if_true,decide_true,ne_eq,not_true,decide_false,Bool.false_or,Bool.true_and]
        omega
      · simp only [four,hundred,fourHundred,if_true,if_false,decide_true,ne_eq,not_true,decide_false,Bool.false_or,Bool.true_and,
          Bool.false_eq_true]
        omega
    · have fourHundred : ¬ year % 400 = 0 := fun cycle => hundred (cycles cycle)
      simp only [four,hundred,fourHundred,if_true,if_false,decide_true,ne_eq,not_false_eq_true,decide_false,Bool.or_false,
        Bool.true_and]
      omega
  · have hundred : ¬ year % 100 = 0 := fun century => four (centuries century)
    have fourHundred : ¬ year % 400 = 0 := fun cycle => hundred (cycles cycle)
    simp only [four,hundred,fourHundred,if_false,decide_false,Bool.false_and,Bool.false_eq_true]
    omega

theorem yearStart_mono {year later : ℕ} (positive : 1 ≤ year) (before : year ≤ later) : yearStart year ≤ yearStart later := by
  induction later, before using Nat.le_induction with
  | base => exact le_rfl
  | succ later before ih =>
    rw [yearStart_succ (positive.trans before)]
    omega

theorem ordinal_lt {a b : Date} (before : a < b) : a.ordinal < b.ordinal := by
  have va := a.valid
  have vb := b.valid
  have ends := monthStart_succ a.year va.2.1.1
  rw [ordinal_eq,ordinal_eq]
  rcases (lt_iff a b).mp before with years | ⟨years,months | ⟨months,days⟩⟩
  · have := monthStart_mono a.year (show 1 ≤ a.month + 1 by omega) (show a.month + 1 ≤ 13 by omega)
    have := yearStart_succ va.1.1
    have := yearStart_mono (show 1 ≤ a.year + 1 by omega) (show a.year + 1 ≤ b.year by omega)
    omega
  · have := monthStart_mono a.year (show 1 ≤ a.month + 1 by omega) (show a.month + 1 ≤ b.month by omega)
    rw [years] at this ends ⊢
    rw [years] at va
    omega
  · rw [years,months]
    omega

theorem trichotomy (a b : Date) : a < b ∨ a = b ∨ b < a := by
  rw [lt_iff,lt_iff]
  by_cases years : a.year = b.year
  · by_cases months : a.month = b.month
    · by_cases days : a.day = b.day
      · exact .inr (.inl (ext_fields years months days))
      · omega
    · omega
  · omega

theorem lt_iff_ordinal {a b : Date} : a < b ↔ a.ordinal < b.ordinal := by
  refine ⟨ordinal_lt,fun less => ?_⟩
  rcases trichotomy a b with before | rfl | after
  · exact before
  · exact absurd less (lt_irrefl _)
  · exact absurd (ordinal_lt after) (by omega)

theorem le_iff_ordinal {a b : Date} : a ≤ b ↔ a.ordinal ≤ b.ordinal := by
  rw [le_iff,lt_iff_ordinal,not_lt]

def lastOrdinal : ℕ := 3652059

theorem ordinal_le_last (d : Date) : d.ordinal ≤ lastOrdinal := by
  have last : (⟨9999,12,31,by decide⟩ : Date).ordinal = lastOrdinal := by decide +kernel
  rw [← last,← le_iff_ordinal,le_iff,lt_iff]
  have valid := d.valid
  have days := day_le d
  simp only
  omega

theorem nextDay_some {d next : Date} (after : d.nextDay = some next) : next.ordinal = d.ordinal + 1 := by
  have valid := d.valid
  rw [ordinal_eq,ordinal_eq]
  unfold nextDay at after
  rcases Option.or_eq_some_iff.mp after with within | ⟨ends,after⟩
  · obtain ⟨year,month,day⟩ := of?_fields within
    rw [year,month,day]
    omega
  · have last : d.day = daysInMonth d.year d.month := by
      by_contra inside
      rw [of?,dif_pos (by omega)] at ends
      cases ends
    have month := monthStart_succ d.year valid.2.1.1
    unfold nextMonth at after
    split at after
    · next december =>
      obtain ⟨year,january,day⟩ := of?_fields after
      have turn := yearStart_succ valid.1.1
      have first : monthStart (d.year + 1) 1 = 0 := rfl
      have thirteen : 12 + 1 = 13 := rfl
      rw [december] at month last ⊢
      rw [thirteen] at month
      rw [year,january,day,first]
      omega
    · obtain ⟨year,next,day⟩ := of?_fields after
      rw [year,next,day]
      omega

theorem nextDay_none {d : Date} (ends : d.nextDay = none) : d.ordinal = lastOrdinal := by
  have valid := d.valid
  obtain ⟨within,ends⟩ := Option.or_eq_none_iff.mp ends
  have december : d.month = 12 ∧ d.year = 9999 := by
    unfold nextMonth at ends
    split at ends
    · next december =>
      by_contra inside
      rw [of?,dif_pos (by have := days_pos (d.year + 1) 1; omega)] at ends
      cases ends
    · rw [of?,dif_pos (by have := days_pos d.year (d.month + 1); omega)] at ends
      cases ends
  have last : d.day = daysInMonth d.year d.month := by
    by_contra inside
    rw [of?,dif_pos (by omega)] at within
    cases within
  rw [december.1,december.2] at last
  rw [ordinal_eq,december.1,december.2,last]
  rfl

theorem ordinal_inj {a b : Date} (same : a.ordinal = b.ordinal) : a = b := by
  rcases trichotomy a b with before | equal | after
  · exact absurd (ordinal_lt before) (by omega)
  · exact equal
  · exact absurd (ordinal_lt after) (by omega)

theorem addDays_iff {n : ℕ} {d e : Date} : addDays n d = some e ↔ e.ordinal = d.ordinal + n := by
  induction n generalizing d with
  | zero => exact ⟨fun same => by rw [Option.some.inj same]; rfl,fun same => congrArg some (ordinal_inj same.symm)⟩
  | succ n ih =>
    rw [addDays]
    cases after : d.nextDay with
    | none =>
      have := nextDay_none after
      have := e.ordinal_le_last
      exact ⟨nofun,fun beyond => absurd beyond (by omega)⟩
    | some next =>
      rw [Option.bind_some,ih,nextDay_some after]
      omega

theorem exists_addDays {n : ℕ} {d : Date} (within : d.ordinal + n ≤ lastOrdinal) : ∃ e, addDays n d = some e := by
  induction n generalizing d with
  | zero => exact ⟨d,rfl⟩
  | succ n ih =>
    rw [addDays]
    cases after : d.nextDay with
    | none =>
      have := nextDay_none after
      omega
    | some next =>
      rw [Option.bind_some]
      have := nextDay_some after
      exact ih (by omega)

end CloudLens.Library.Calendar.Date
