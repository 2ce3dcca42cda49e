import CloudLens.Library.Calendar
import Mathlib.Algebra.Order.Field.Basic
import Mathlib.Algebra.Order.Floor.Ring
import Mathlib.Tactic.Linarith
import Mathlib.Tactic.NormNum
import Mathlib.Tactic.Ring

/-! The named schedules of workloads: whether an instant is an approved slot, and the
approved hours of a period, sampled in the middle of each hour. Instants are hours
from the first of January of the year 1, a Monday, in universal time, over any
ordered field with a floor; a zone adds its offset. -/
namespace CloudLens.Runtime
open Library
open Library.Calendar (Date)

inductive ScheduleError
  | invalidTimeFormat (text : String)

structure TimeOfDay where
  hour : ℕ
  minute : ℕ
  valid : hour < 24 ∧ minute < 60

def timeOfDay (hour minute : ℤ) : Option TimeOfDay :=
  if valid : 0 ≤ hour ∧ hour.toNat < 24 ∧ 0 ≤ minute ∧ minute.toNat < 60 then
    some ⟨hour.toNat,minute.toNat,valid.2.1,valid.2.2.2⟩
  else none

def parseTime (text : String) : Except ScheduleError TimeOfDay :=
  match Text.splitOn ':' (Text.strip text.toList) with
  | hour :: minute :: _ =>
    match (Text.parseInt hour).bind (fun h => (Text.parseInt minute).bind (timeOfDay h)) with
    | some time => .ok time
    | none => .error (.invalidTimeFormat text)
  | _ => .error (.invalidTimeFormat text)

inductive WorkloadType
  | continuous24x7 | scheduleBased | burstWorkload
  deriving DecidableEq

/-- A specific date that is written as no date matches none. -/
structure MaintenanceWindow where
  dayOfWeek : Option ℤ
  startTime : String
  endTime : String
  isRecurring : Bool
  specificDate : Option Date

structure NamedSchedule where
  timezone : String
  workloadType : WorkloadType
  workingDays : List ℤ
  dailyStartTime : String
  dailyEndTime : String
  exclusionDates : List Date
  maintenanceWindows : List MaintenanceWindow

/-- Days are numbered from the first of January of the year 1. -/
def isoWeekday (date : ℤ) : ℤ := date % 7 + 1

def falls (date : ℤ) (day : Date) : Prop := (day.ordinal : ℤ) - 1 = date

instance (date : ℤ) (day : Date) : Decidable (falls date day) := inferInstanceAs (Decidable (_ = _))

namespace NamedSchedule

variable (schedule : NamedSchedule)

def excludes (date : ℤ) : Prop := ∃ day ∈ schedule.exclusionDates, falls date day

instance (date : ℤ) : Decidable (schedule.excludes date) := inferInstanceAs (Decidable (∃ day ∈ schedule.exclusionDates, falls date day))

def worksOn (date : ℤ) : Prop := isoWeekday date ∈ schedule.workingDays

instance (date : ℤ) : Decidable (schedule.worksOn date) := inferInstanceAs (Decidable (_ ∈ _))

end NamedSchedule

def MaintenanceWindow.appliesOn (window : MaintenanceWindow) (date : ℤ) : Prop :=
  (∃ day ∈ window.specificDate, falls date day) ∨ window.isRecurring = true ∧ window.dayOfWeek = some (isoWeekday date)

instance (window : MaintenanceWindow) (date : ℤ) : Decidable (window.appliesOn date) :=
  inferInstanceAs (Decidable ((∃ day ∈ window.specificDate, falls date day) ∨ _))

section Slots

variable {T : Type} [Field T] [LinearOrder T] [FloorRing T]

def TimeOfDay.hours (time : TimeOfDay) : T := time.hour + time.minute / 60

def isTimeInRange (target start stop : T) : Bool :=
  if start ≤ stop then start ≤ target && target ≤ stop else start ≤ target || target ≤ stop

def dateOf (instant : T) : ℤ := ⌊instant / 24⌋

def timeOf (instant : T) : T := instant - 24 * dateOf instant

def withinTimes (target : T) (startTime endTime : String) : Except ScheduleError Bool :=
  match parseTime startTime with
  | .error failure => .error failure
  | .ok start =>
    match parseTime endTime with
    | .error failure => .error failure
    | .ok stop => .ok (isTimeInRange target start.hours stop.hours)

def inMaintenance (instant : T) : List MaintenanceWindow → Except ScheduleError Bool
  | [] => .ok false
  | window :: rest =>
    if window.appliesOn (dateOf instant) then
      match withinTimes (timeOf instant) window.startTime window.endTime with
      | .error failure => .error failure
      | .ok true => .ok true
      | .ok false => inMaintenance instant rest
    else inMaintenance instant rest

/-- `zones` gives the offset of a zone at an instant; a zone that is not known is UTC. -/
def isApprovedRunningSlot (zones : String → T → T) (schedule : NamedSchedule) (instant : T) : Except ScheduleError Bool :=
  let localTime := instant + zones schedule.timezone instant
  if schedule.workloadType = .continuous24x7 then .ok (¬schedule.excludes (dateOf localTime))
  else
    match inMaintenance localTime schedule.maintenanceWindows with
    | .error failure => .error failure
    | .ok true => .ok true
    | .ok false =>
      if schedule.excludes (dateOf localTime) then .ok false
      else if ¬schedule.worksOn (dateOf localTime) then .ok false
      else withinTimes (timeOf localTime) schedule.dailyStartTime schedule.dailyEndTime

/-- The loop over the hours, with a bound on their number. -/
def slotLoop (zones : String → T → T) (schedule : NamedSchedule) (stop : T) : ℕ → T → ℕ → Except ScheduleError ℕ
  | 0, _, approved => .ok approved
  | left + 1, curr, approved =>
    if curr < stop then
      match isApprovedRunningSlot zones schedule (curr + 1 / 2) with
      | .error failure => .error failure
      | .ok slot => slotLoop zones schedule stop left (curr + 1) (if slot then approved + 1 else approved)
    else .ok approved

theorem slotLoop_succ (zones : String → T → T) (schedule : NamedSchedule) (stop : T) (left : ℕ) (curr : T) (approved : ℕ) :
    slotLoop zones schedule stop (left + 1) curr approved =
      if curr < stop then
        match isApprovedRunningSlot zones schedule (curr + 1 / 2) with
        | .error failure => .error failure
        | .ok slot => slotLoop zones schedule stop left (curr + 1) (if slot then approved + 1 else approved)
      else .ok approved := rfl

def computeExpectedRunningHours (zones : String → T → T) (schedule : NamedSchedule) (start stop : T) : Except ScheduleError ℕ :=
  if stop ≤ start then .ok 0 else slotLoop zones schedule stop ⌈stop - start⌉.toNat start 0

end Slots

end CloudLens.Runtime
