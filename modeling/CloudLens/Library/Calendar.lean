import CloudLens.Library.Text
import Mathlib.Order.Basic

/-! Calendar dates of the proleptic Gregorian calendar with years 1 to 9999,
month arithmetic, and the textual form `YYYY-MM` of a month. A date carries its
validity, so an impossible day cannot be built; the month after December 9999
does not exist. A timestamp is a date of universal time with the seconds into
that date, an instant counts microseconds. -/
namespace CloudLens.Library.Calendar

abbrev Instant : Type := ℤ

def day : Instant := 86400 * 10^6

def hour : Instant := 3600 * 10^6

def isLeap (year : ℕ) : Bool := year % 4 = 0 && (year % 100 ≠ 0 || year % 400 = 0)

def daysInMonth (year month : ℕ) : ℕ :=
  if month = 2 then (if isLeap year then 29 else 28)
  else if month = 4 ∨ month = 6 ∨ month = 9 ∨ month = 11 then 30 else 31

structure Date where
  year : ℕ
  month : ℕ
  day : ℕ
  valid : (1 ≤ year ∧ year ≤ 9999) ∧ (1 ≤ month ∧ month ≤ 12) ∧ 1 ≤ day ∧ day ≤ daysInMonth year month
  deriving DecidableEq

namespace Date

def of? (year month day : ℕ) : Option Date :=
  if valid : (1 ≤ year ∧ year ≤ 9999) ∧ (1 ≤ month ∧ month ≤ 12) ∧ 1 ≤ day ∧ day ≤ daysInMonth year month then
    some ⟨year,month,day,valid⟩
  else none

def Before (a b : Date) : Prop :=
  a.year < b.year ∨ (a.year = b.year ∧ (a.month < b.month ∨ (a.month = b.month ∧ a.day < b.day)))

instance : LT Date := ⟨Before⟩
instance : LE Date := ⟨fun a b => ¬ Before b a⟩
instance (a b : Date) : Decidable (Before a b) := inferInstanceAs (Decidable (_ ∨ _))
instance (a b : Date) : Decidable (a < b) := inferInstanceAs (Decidable (Before a b))
instance (a b : Date) : Decidable (a ≤ b) := inferInstanceAs (Decidable (¬ Before b a))

theorem lt_iff (a b : Date) : a < b ↔
    a.year < b.year ∨ (a.year = b.year ∧ (a.month < b.month ∨ (a.month = b.month ∧ a.day < b.day))) := Iff.rfl

theorem le_iff (a b : Date) : a ≤ b ↔ ¬ b < a := Iff.rfl

theorem days_pos (year month : ℕ) : 1 ≤ daysInMonth year month := by
  unfold daysInMonth
  split_ifs <;> omega

def firstOfMonth (d : Date) : Date :=
  ⟨d.year,d.month,1,d.valid.1,d.valid.2.1,le_rfl,days_pos d.year d.month⟩

def nextMonth (d : Date) : Option Date :=
  if d.month = 12 then of? (d.year + 1) 1 1 else of? d.year (d.month + 1) 1

def lastOfMonth (d : Date) : Date :=
  ⟨d.year,d.month,daysInMonth d.year d.month,d.valid.1,d.valid.2.1,days_pos d.year d.month,le_rfl⟩

def nextDay (d : Date) : Option Date :=
  (of? d.year d.month (d.day + 1)).or d.nextMonth

/-- The calendar ends with the year 9999, so a sum may leave it. -/
def addDays : ℕ → Date → Option Date
  | 0, d => some d
  | n + 1, d => d.nextDay.bind (addDays n)

/-- The first of January of the year 1, a Monday, is day one. -/
def ordinal (d : Date) : ℕ :=
  365 * (d.year - 1) + (d.year - 1) / 4 - (d.year - 1) / 100 + (d.year - 1) / 400 +
    ((List.range (d.month - 1)).map (fun earlier => daysInMonth d.year (earlier + 1))).sum + d.day

@[simp] theorem firstOfMonth_year (d : Date) : d.firstOfMonth.year = d.year := rfl
@[simp] theorem firstOfMonth_month (d : Date) : d.firstOfMonth.month = d.month := rfl
@[simp] theorem firstOfMonth_day (d : Date) : d.firstOfMonth.day = 1 := rfl

theorem of?_fields {year month day : ℕ} {d : Date} (built : of? year month day = some d) :
    d.year = year ∧ d.month = month ∧ d.day = day := by
  unfold of? at built
  split at built
  · cases built
    exact ⟨rfl,rfl,rfl⟩
  · cases built

theorem of?_self (d : Date) : of? d.year d.month d.day = some d := by
  simp only [of?,d.valid,and_self,dite_true]

theorem ext_fields {a b : Date} (year : a.year = b.year) (month : a.month = b.month)
    (day : a.day = b.day) : a = b := by
  cases a
  cases b
  simp_all

theorem firstOfMonth_eq_iff {a b : Date} (first : b.day = 1) :
    a.firstOfMonth = b ↔ a.year = b.year ∧ a.month = b.month := by
  constructor
  · rintro rfl
    exact ⟨rfl,rfl⟩
  · rintro ⟨year,month⟩
    exact ext_fields year month (by simp [first])

theorem month_range {start stop d : Date} (first : start.day = 1) (next : start.nextMonth = some stop) :
    (start ≤ d ∧ d < stop) ↔ d.firstOfMonth = start := by
  have dv := d.valid
  rw [firstOfMonth_eq_iff first,le_iff,lt_iff,lt_iff]
  unfold nextMonth at next
  split at next
  · obtain ⟨y,m,k⟩ := of?_fields next
    rw [y,m,k]
    omega
  · obtain ⟨y,m,k⟩ := of?_fields next
    rw [y,m,k]
    omega

end Date

theorem day_le (d : Date) : d.day ≤ 31 := by
  have bound := d.valid.2.2.2
  unfold daysInMonth at bound
  split_ifs at bound <;> omega

structure Timestamp where
  date : Date
  seconds : ℕ
  deriving DecidableEq

def Timestamp.Before (a b : Timestamp) : Prop :=
  a.date < b.date ∨ (a.date = b.date ∧ a.seconds < b.seconds)

instance (a b : Timestamp) : Decidable (a.Before b) := inferInstanceAs (Decidable (_ ∨ _))

def yearDigits (d : Date) : List Char :=
  [Text.digitChar (d.year / 1000), Text.digitChar (d.year / 100), Text.digitChar (d.year / 10),
    Text.digitChar d.year]

def monthDigits (d : Date) : List Char := [Text.digitChar (d.month / 10), Text.digitChar d.month]

def formatMonth (d : Date) : String := String.ofList (yearDigits d ++ '-' :: monthDigits d)

theorem parseInt_yearDigits (d : Date) : Text.parseInt (yearDigits d) = some (d.year : ℤ) := by
  have bounds := d.valid
  have read : Text.numeral (yearDigits d) = some d.year := by
    simp [Text.numeral,yearDigits,Text.digitValue_digitChar]
    omega
  rw [Text.parseInt_digits,read]
  · rfl
  · intro c member
    simp only [yearDigits,List.mem_cons,List.not_mem_nil,or_false] at member
    rcases member with rfl | rfl | rfl | rfl <;> exact ⟨_,rfl⟩

theorem parseInt_monthDigits (d : Date) : Text.parseInt (monthDigits d) = some (d.month : ℤ) := by
  have bounds := d.valid
  have read : Text.numeral (monthDigits d) = some d.month := by
    simp [Text.numeral,monthDigits,Text.digitValue_digitChar]
    omega
  rw [Text.parseInt_digits,read]
  · rfl
  · intro c member
    simp only [monthDigits,List.mem_cons,List.not_mem_nil,or_false] at member
    rcases member with rfl | rfl <;> exact ⟨_,rfl⟩

theorem formatMonth_fields (d : Date) :
    Text.splitOn '-' (formatMonth d).toList = [yearDigits d, monthDigits d] := by
  simp only [formatMonth,String.toList_ofList]
  rw [Text.splitOn_field,Text.splitOn_last]
  · intro c member
    simp only [monthDigits,List.mem_cons,List.not_mem_nil,or_false] at member
    rcases member with rfl | rfl <;> exact Text.digitChar_ne_dash _
  · intro c member
    simp only [yearDigits,List.mem_cons,List.not_mem_nil,or_false] at member
    rcases member with rfl | rfl | rfl | rfl <;> exact Text.digitChar_ne_dash _

end CloudLens.Library.Calendar
