import CloudLens.Library.Calendar
import CloudLens.Library.Decimal
import CloudLens.Library.Elapsed

/-! The service level engine: deadlines and remaining hours in the working time
of a schedule. A schedule is resolved from the built-in ones, from master data or
as the default week, and both calculations walk it day by day. Instants
count microseconds from the first of January of the year 1, a Monday, in universal
time; a start may carry the offset of another zone, which decides its date. -/
namespace CloudLens.Workflows.Sla
open Library Library.Calendar Library.Elapsed

def dayLength : ℤ := 86400 * 10^6

def hourLength : ℤ := 3600 * 10^6

structure TimeOfDay where
  hour : ℕ
  minute : ℕ
  valid : hour < 24 ∧ minute < 60
  deriving DecidableEq

def TimeOfDay.of? (hour minute : ℤ) : Option TimeOfDay :=
  if valid : 0 ≤ hour ∧ 0 ≤ minute ∧ hour.toNat < 24 ∧ minute.toNat < 60 then
    some ⟨hour.toNat,minute.toNat,valid.2.2⟩
  else none

def TimeOfDay.micros (time : TimeOfDay) : ℤ := (time.hour * 3600 + time.minute * 60) * 10^6

structure WorkingWeek where
  workingDays : List ℤ
  dailyStart : TimeOfDay
  dailyEnd : TimeOfDay
  exclusions : List Date

def eight : TimeOfDay := ⟨8,0,by decide⟩
def eighteen : TimeOfDay := ⟨18,0,by decide⟩
def midnight : TimeOfDay := ⟨0,0,by decide⟩
def lastMinute : TimeOfDay := ⟨23,59,by decide⟩

def newYear (year : ℕ) (valid : 1 ≤ year ∧ year ≤ 9999) : Date :=
  ⟨year,1,1,valid,⟨le_rfl,Nat.le_add_left 1 11⟩,le_rfl,Date.days_pos year 1⟩

def standardMonFri : WorkingWeek :=
  ⟨[1, 2, 3, 4, 5],eight,eighteen,[newYear 2026 (by decide), ⟨2026,4,3,by decide⟩, ⟨2026,4,6,by decide⟩, ⟨2026,5,4,by decide⟩,
    ⟨2026,5,25,by decide⟩, ⟨2026,8,31,by decide⟩, ⟨2026,12,25,by decide⟩, ⟨2026,12,28,by decide⟩]⟩

def batchNightly : WorkingWeek := ⟨[1, 2, 3, 4, 5, 6, 7],⟨22,0,by decide⟩,⟨6,0,by decide⟩,[]⟩

def standardSchedules : List (String × WorkingWeek) := [
  ("WW_STANDARD_MON_FRI", standardMonFri),
  ("WW_MIDDLE_EAST_SUN_THU", ⟨[7, 1, 2, 3, 4],eight,eighteen,[newYear 2026 (by decide), ⟨2026,12,25,by decide⟩]⟩),
  ("WW_CONTINUOUS_24X7", ⟨[1, 2, 3, 4, 5, 6, 7],midnight,lastMinute,[]⟩),
  ("WEEKEND_SHUTDOWN", ⟨[1, 2, 3, 4, 5],midnight,lastMinute,[]⟩),
  ("BATCH_NIGHTLY", batchNightly)]

def defaultWeek : WorkingWeek := ⟨[1, 2, 3, 4, 5],eight,eighteen,[newYear 2026 (by decide), ⟨2026,12,25,by decide⟩]⟩

structure WorkingWeekAttributes where
  workingDays : Option (List ℤ)
  dailyStartTime : Option String
  dailyEndTime : Option String

structure MasterData where
  workingWeek : String → Option String → Option WorkingWeekAttributes
  holidays : Option String → List String
  fromIsoFormat : String → Option Date

def parseTime (text : String) : Option TimeOfDay :=
  match (Text.splitOn ':' text.toList).mapM Text.parseInt with
  | some (hour :: minute :: _) => TimeOfDay.of? hour minute
  | _ => none

-- Whatever fails while master data is read leaves the default week.
def getSchedule (master : MasterData) (scheduleId : String) (tenantId : Option String) : WorkingWeek :=
  match standardSchedules.lookup scheduleId with
  | some week => week
  | none =>
    match master.workingWeek scheduleId tenantId with
    | none => defaultWeek
    | some attrs =>
      match parseTime (attrs.dailyStartTime.getD "08:00"), parseTime (attrs.dailyEndTime.getD "18:00") with
      | some start, some stop =>
        ⟨attrs.workingDays.getD [1, 2, 3, 4, 5],start,stop,(master.holidays tenantId).filterMap master.fromIsoFormat⟩
      | _, _ => defaultWeek

structure DateTime where
  instant : ℤ
  offset : ℤ
  inside : -dayLength < offset ∧ offset < dayLength

def DateTime.utc (instant : ℤ) : DateTime := ⟨instant,0,by decide⟩

def DateTime.date (time : DateTime) : ℤ := (time.instant + time.offset) / dayLength

def isoWeekday (date : ℤ) : ℤ := date % 7 + 1

namespace WorkingWeek

def isWorkingDay (week : WorkingWeek) (date : ℤ) : Prop :=
  isoWeekday date ∈ week.workingDays ∧ date ∉ week.exclusions.map (fun d => (d.ordinal : ℤ) - 1)

instance (week : WorkingWeek) (date : ℤ) : Decidable (week.isWorkingDay date) := inferInstanceAs (Decidable (_ ∧ _))

def dayStart (week : WorkingWeek) (date : ℤ) : ℤ := date * dayLength + week.dailyStart.micros

def dayEnd (week : WorkingWeek) (date : ℤ) : ℤ := date * dayLength + week.dailyEnd.micros

/-- The working time of the schedule; a window that ends before it starts spans midnight. -/
def Working (week : WorkingWeek) (t : ℤ) : Prop :=
  week.isWorkingDay (t / dayLength) ∧
    if week.dailyStart.micros ≤ week.dailyEnd.micros then
      week.dailyStart.micros ≤ t % dayLength ∧ t % dayLength < week.dailyEnd.micros
    else week.dailyStart.micros ≤ t % dayLength ∨ t % dayLength < week.dailyEnd.micros

instance (week : WorkingWeek) : DecidablePred week.Working := fun t =>
  inferInstanceAs (Decidable (week.isWorkingDay (t / dayLength) ∧
    if week.dailyStart.micros ≤ week.dailyEnd.micros then
      week.dailyStart.micros ≤ t % dayLength ∧ t % dayLength < week.dailyEnd.micros
    else week.dailyStart.micros ≤ t % dayLength ∨ t % dayLength < week.dailyEnd.micros))

end WorkingWeek

def dueLoop (week : WorkingWeek) : ℕ → DateTime → ℤ → Option ℤ
  | 0, _, _ => none
  | days + 1, curr, remaining =>
    let next := DateTime.utc (week.dayStart (curr.date + 1))
    if week.isWorkingDay curr.date then
      let opened := max curr.instant (week.dayStart curr.date)
      if week.dayEnd curr.date ≤ opened then dueLoop week days next remaining
      else if remaining ≤ week.dayEnd curr.date - opened then some (opened + remaining)
      else dueLoop week days next (remaining - (week.dayEnd curr.date - opened))
    else dueLoop week days next remaining

def maxDays : ℕ := 365

def calculateDueDate (week : WorkingWeek) (startTime : DateTime) (slaWorkingHours : ℤ) : ℤ :=
  if slaWorkingHours ≤ 0 then startTime.instant
  else (dueLoop week maxDays startTime (slaWorkingHours * hourLength)).getD (startTime.instant + slaWorkingHours * hourLength)

def remainingLoop (week : WorkingWeek) (deadline : DateTime) : ℕ → ℤ → ℤ → ℤ
  | 0, _, _ => 0
  | days + 1, currDate, curr =>
    if deadline.date < currDate then 0
    else if week.isWorkingDay currDate then
      max 0 (min deadline.instant (week.dayEnd currDate) - max curr (week.dayStart currDate)) +
        remainingLoop week deadline days (currDate + 1) (week.dayStart (currDate + 1))
    else remainingLoop week deadline days (currDate + 1) curr

def calculateRemainingWorkingHours (week : WorkingWeek) (asOf : DateTime) (dueDate : Option DateTime) : ℚ :=
  match dueDate with
  | none => 0
  | some deadline =>
    if deadline.instant ≤ asOf.instant then 0
    else Decimal.quantize 2
      ((remainingLoop week deadline (deadline.date - asOf.date + 1).toNat asOf.date asOf.instant : ℤ) / (hourLength : ℚ))

end CloudLens.Workflows.Sla
