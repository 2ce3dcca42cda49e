import CloudLens.Library.Measured
import CloudLens.Runtime.Schedules

/-! Expected hours as a measure of the approved time, for schedules in universal time
whose windows begin and end on whole hours. Each hour is approved throughout or not
at all, so sampling its middle is exact; an overnight window is judged by the date of
each of its hours, not by the day on which it begins. -/
namespace CloudLens.Runtime
open Library Library.Elapsed MeasureTheory

def wholeHour (text : String) : Option ℕ :=
  match parseTime text with
  | .ok time => if time.minute = 0 then some time.hour else none
  | .error _ => none

def hourOf (text : String) : ℤ := ((wholeHour text).getD 0 : ℕ)

def HourIn (hour start stop : ℤ) : Prop := if start ≤ stop then start ≤ hour ∧ hour < stop else start ≤ hour ∨ hour < stop

instance (hour start stop : ℤ) : Decidable (HourIn hour start stop) := inferInstanceAs (Decidable (ite _ _ _))

namespace NamedSchedule

variable (schedule : NamedSchedule)

structure OnWholeHours : Prop where
  start : (wholeHour schedule.dailyStartTime).isSome
  stop : (wholeHour schedule.dailyEndTime).isSome
  windows : ∀ window ∈ schedule.maintenanceWindows, (wholeHour window.startTime).isSome ∧ (wholeHour window.endTime).isSome

def judgedDay (date : ℤ) : Prop := ¬schedule.excludes date ∧ schedule.worksOn date

instance (date : ℤ) : Decidable (schedule.judgedDay date) := inferInstanceAs (Decidable (_ ∧ _))

def overnight : Prop := hourOf schedule.dailyEndTime < hourOf schedule.dailyStartTime

instance : Decidable schedule.overnight := inferInstanceAs (Decidable (_ < _))

def maintainedHour (hour : ℤ) : Prop :=
  ∃ window ∈ schedule.maintenanceWindows, window.appliesOn (hour / 24) ∧ HourIn (hour % 24) (hourOf window.startTime) (hourOf window.endTime)

instance (hour : ℤ) : Decidable (schedule.maintainedHour hour) := inferInstanceAs (Decidable (∃ window ∈ schedule.maintenanceWindows, _))

def approvedHour (hour : ℤ) : Prop :=
  if schedule.workloadType = .continuous24x7 then ¬schedule.excludes (hour / 24)
  else schedule.maintainedHour hour ∨
    schedule.judgedDay (hour / 24) ∧ HourIn (hour % 24) (hourOf schedule.dailyStartTime) (hourOf schedule.dailyEndTime)

instance (hour : ℤ) : Decidable (schedule.approvedHour hour) := inferInstanceAs (Decidable (ite _ _ _))

/-- The own date of an hour in the morning says what the day before says, on which
an overnight window began. -/
def DaysAgree : Prop :=
  schedule.overnight → ∀ date hour : ℤ, 0 ≤ hour → hour < hourOf schedule.dailyEndTime → ¬schedule.maintainedHour (24 * date + hour) →
    ((if schedule.workloadType = .continuous24x7 then ¬schedule.excludes date else schedule.judgedDay date) ↔ schedule.judgedDay (date - 1))

end NamedSchedule

section Parsing

variable {text : String}

theorem parse_of_whole (whole : (wholeHour text).isSome) :
    ∃ time : TimeOfDay, parseTime text = .ok time ∧ time.minute = 0 ∧ hourOf text = time.hour := by
  unfold hourOf wholeHour at *
  cases parsed : parseTime text with
  | error failure =>
    rw [parsed] at whole
    cases whole
  | ok time =>
    rw [parsed] at whole
    simp only at whole ⊢
    by_cases sharp : time.minute = 0
    · refine ⟨time,rfl,sharp,?_⟩
      rw [if_pos sharp,Option.getD_some]
    · rw [if_neg sharp] at whole
      cases whole

theorem hours_of_whole {T : Type} [Field T] {time : TimeOfDay} (sharp : time.minute = 0) : (time.hours : T) = (time.hour : ℤ) := by
  unfold TimeOfDay.hours
  rw [sharp]
  simp

theorem hourOf_lt (text : String) : hourOf text < 24 := by
  unfold hourOf wholeHour
  split
  · rename_i time _
    have range := time.valid
    split
    · rw [Option.getD_some]
      omega
    · simp
  · simp

end Parsing

section Instants

variable {T : Type} [Field T] [LinearOrder T] [IsStrictOrderedRing T] [FloorRing T] {instant : T} {hour : ℤ}

theorem dateOf_inside (after : hour ≤ instant) (before : instant < hour + 1) : dateOf instant = hour / 24 := by
  have low : 24 * (hour / 24) ≤ hour := Int.mul_ediv_self_le (by norm_num)
  have high : hour + 1 ≤ 24 * (hour / 24) + 24 := by omega
  have lowT : (24 : T) * (hour / 24 : ℤ) ≤ hour := by exact_mod_cast low
  have highT : (hour : T) + 1 ≤ 24 * (hour / 24 : ℤ) + 24 := by exact_mod_cast high
  unfold dateOf
  rw [Int.floor_eq_iff,le_div_iff₀ (by norm_num),div_lt_iff₀ (by norm_num)]
  constructor <;> linarith

theorem timeOf_inside (after : hour ≤ instant) (before : instant < hour + 1) : timeOf instant = instant - 24 * (hour / 24 : ℤ) := by
  unfold timeOf
  rw [dateOf_inside after before]

theorem isTimeInRange_inside {start stop : ℤ} {target : T} (after : hour < target) (before : target < hour + 1) :
    isTimeInRange target (start : T) stop = true ↔ HourIn hour start stop := by
  have started : (start : T) ≤ target ↔ start ≤ hour := by
    constructor
    · intro le
      have below : (start : T) < ((hour + 1 : ℤ) : T) := by
        push_cast
        exact le.trans_lt before
      exact Int.lt_add_one_iff.mp (Int.cast_lt.mp below)
    · intro le
      have reached : (start : T) ≤ hour := Int.cast_le.mpr le
      exact reached.trans after.le
  have running : target ≤ (stop : T) ↔ hour < stop := by
    constructor
    · intro le
      exact Int.cast_lt.mp (after.trans_le le)
    · intro lt
      have reached : ((hour + 1 : ℤ) : T) ≤ stop := Int.cast_le.mpr lt
      push_cast at reached
      exact before.le.trans reached
  unfold isTimeInRange HourIn
  by_cases order : start ≤ stop
  · rw [if_pos (Int.cast_le.mpr order),if_pos order,Bool.and_eq_true,decide_eq_true_iff,decide_eq_true_iff,started,running]
  · rw [if_neg (fun le => order (Int.cast_le.mp le)),if_neg order,Bool.or_eq_true,decide_eq_true_iff,decide_eq_true_iff,started,running]

end Instants

section Approval

theorem withinTimes_whole {T : Type} [Field T] [LinearOrder T] {startTime endTime : String} (target : T) (start : (wholeHour startTime).isSome)
    (stop : (wholeHour endTime).isSome) :
    withinTimes target startTime endTime = .ok (isTimeInRange target (hourOf startTime : T) (hourOf endTime : T)) := by
  obtain ⟨first,parsedFirst,sharpFirst,hourFirst⟩ := parse_of_whole start
  obtain ⟨last,parsedLast,sharpLast,hourLast⟩ := parse_of_whole stop
  unfold withinTimes
  rw [parsedFirst,parsedLast,hourFirst,hourLast]
  simp only [hours_of_whole sharpFirst,hours_of_whole sharpLast]

variable {T : Type} [Field T] [LinearOrder T] [FloorRing T]

def MaintenanceWindow.Covers (window : MaintenanceWindow) (instant : T) : Prop :=
  window.appliesOn (dateOf instant) ∧ isTimeInRange (timeOf instant) (hourOf window.startTime : T) (hourOf window.endTime) = true

instance (window : MaintenanceWindow) (instant : T) : Decidable (window.Covers instant) := inferInstanceAs (Decidable (_ ∧ _))

theorem exists_mem_cons_of_not {instant : T} {window : MaintenanceWindow} {rest : List MaintenanceWindow} (uncovered : ¬window.Covers instant) :
    (∃ other ∈ window :: rest, other.Covers instant) ↔ ∃ other ∈ rest, other.Covers instant := by
  simp [uncovered]

theorem inMaintenance_whole (instant : T) {windows : List MaintenanceWindow}
    (whole : ∀ window ∈ windows, (wholeHour window.startTime).isSome ∧ (wholeHour window.endTime).isSome) :
    inMaintenance instant windows = .ok (decide (∃ window ∈ windows, window.Covers instant)) := by
  induction windows with
  | nil => simp [inMaintenance]
  | cons window rest ih =>
    have rests := ih (fun other member => whole other (List.mem_cons_of_mem _ member))
    have own := whole window List.mem_cons_self
    unfold inMaintenance
    rw [withinTimes_whole _ own.1 own.2,rests]
    by_cases applies : window.appliesOn (dateOf instant)
    · rw [if_pos applies]
      cases covered : isTimeInRange (timeOf instant) (hourOf window.startTime : T) (hourOf window.endTime) with
      | true => exact congrArg Except.ok (decide_eq_true ⟨window,List.mem_cons_self,applies,covered⟩).symm
      | false =>
        have uncovered : ¬window.Covers instant := fun covers => Bool.false_ne_true (covered.symm.trans covers.2)
        exact congrArg Except.ok (decide_eq_decide.mpr (exists_mem_cons_of_not uncovered).symm)
    · rw [if_neg applies]
      have uncovered : ¬window.Covers instant := fun covers => applies covers.1
      exact congrArg Except.ok (decide_eq_decide.mpr (exists_mem_cons_of_not uncovered).symm)

def NamedSchedule.approvedAt (schedule : NamedSchedule) (instant : T) : Prop :=
  if schedule.workloadType = .continuous24x7 then ¬schedule.excludes (dateOf instant)
  else (∃ window ∈ schedule.maintenanceWindows, window.Covers instant) ∨
    schedule.judgedDay (dateOf instant) ∧
      isTimeInRange (timeOf instant) (hourOf schedule.dailyStartTime : T) (hourOf schedule.dailyEndTime) = true

instance (schedule : NamedSchedule) (instant : T) : Decidable (schedule.approvedAt instant) := inferInstanceAs (Decidable (ite _ _ _))

variable {zones : String → T → T} {schedule : NamedSchedule}

theorem isApproved_whole (utc : ∀ instant, zones schedule.timezone instant = 0) (whole : schedule.OnWholeHours) (instant : T) :
    isApprovedRunningSlot zones schedule instant = .ok (decide (schedule.approvedAt instant)) := by
  unfold isApprovedRunningSlot
  simp only [utc,add_zero]
  rw [inMaintenance_whole instant whole.windows,withinTimes_whole _ whole.start whole.stop]
  by_cases continuous : schedule.workloadType = .continuous24x7
  · rw [if_pos continuous]
    simp [NamedSchedule.approvedAt,continuous]
  · rw [if_neg continuous]
    by_cases maintained : ∃ window ∈ schedule.maintenanceWindows, window.Covers instant
    · rw [decide_eq_true maintained]
      simp only [NamedSchedule.approvedAt,if_neg continuous,maintained,true_or,decide_true]
    · rw [decide_eq_false maintained]
      by_cases excluded : schedule.excludes (dateOf instant)
      · simp [NamedSchedule.approvedAt,NamedSchedule.judgedDay,continuous,maintained,excluded]
      · by_cases works : schedule.worksOn (dateOf instant)
        · simp [NamedSchedule.approvedAt,NamedSchedule.judgedDay,continuous,maintained,excluded,works]
        · simp [NamedSchedule.approvedAt,NamedSchedule.judgedDay,continuous,maintained,excluded,works]

theorem slotLoop_count [IsStrictOrderedRing T] {approved : T → Prop} [DecidablePred approved]
    (judged : ∀ instant, isApprovedRunningSlot zones schedule instant = .ok (decide (approved instant))) {stop : T} {left : ℕ} {curr : T}
    {count : ℕ} (enough : ⌈stop - curr⌉.toNat ≤ left) :
    slotLoop zones schedule stop left curr count = .ok (count + Nat.count (fun i : ℕ => approved (curr + i + 1 / 2)) ⌈stop - curr⌉.toNat) := by
  induction left generalizing curr count with
  | zero =>
    rw [Nat.le_zero.mp enough,Nat.count_zero]
    rfl
  | succ left ih =>
    rw [slotLoop_succ]
    by_cases more : curr < stop
    · have positive : 0 < ⌈stop - curr⌉ := Int.ceil_pos.mpr (sub_pos.mpr more)
      have shorter : ⌈stop - (curr + 1)⌉ = ⌈stop - curr⌉ - 1 := by
        rw [← sub_sub,Int.ceil_sub_one]
      have rest : ⌈stop - curr⌉.toNat = ⌈stop - (curr + 1)⌉.toNat + 1 := by omega
      have shifted : ∀ i : ℕ, curr + 1 + (i : T) = curr + (i + 1 : ℕ) := by
        intro i
        rw [Nat.cast_add_one,add_assoc curr,add_comm 1 (i : T)]
      rw [if_pos more,judged]
      simp only
      rw [ih (by omega),rest,Nat.count_succ']
      simp only [shifted,decide_eq_true_eq,Nat.cast_zero,add_zero]
      congr 1
      split <;> omega
    · have none : ⌈stop - curr⌉.toNat = 0 := by
        rw [Int.toNat_eq_zero,Int.ceil_le,Int.cast_zero]
        exact sub_nonpos.mpr (not_lt.mp more)
      rw [if_neg more,none,Nat.count_zero]
      rfl

theorem computeExpected_count [IsStrictOrderedRing T] {approved : T → Prop} [DecidablePred approved]
    (judged : ∀ instant, isApprovedRunningSlot zones schedule instant = .ok (decide (approved instant))) (start stop : T) :
    computeExpectedRunningHours zones schedule start stop =
      .ok (Nat.count (fun i : ℕ => approved (start + i + 1 / 2)) ⌈stop - start⌉.toNat) := by
  unfold computeExpectedRunningHours
  by_cases empty : stop ≤ start
  · have none : ⌈stop - start⌉.toNat = 0 := by
      rw [Int.toNat_eq_zero,Int.ceil_le,Int.cast_zero]
      exact sub_nonpos.mpr empty
    rw [if_pos empty,none,Nat.count_zero]
  · rw [if_neg empty,slotLoop_count judged le_rfl,Nat.zero_add]

end Approval

section Hours

variable {schedule : NamedSchedule} {instant : ℝ} {hour : ℤ}

theorem timeOf_bounds (after : hour < instant) (before : instant < hour + 1) :
    ((hour % 24 : ℤ) : ℝ) < timeOf instant ∧ timeOf instant < ((hour % 24 : ℤ) : ℝ) + 1 := by
  have parts : (24 : ℝ) * (hour / 24 : ℤ) + (hour % 24 : ℤ) = hour := by exact_mod_cast Int.mul_ediv_add_emod hour 24
  rw [timeOf_inside after.le before]
  constructor <;> linarith

theorem inRange_inside (after : hour < instant) (before : instant < hour + 1) (start stop : ℤ) :
    isTimeInRange (timeOf instant) (start : ℝ) stop = true ↔ HourIn (hour % 24) start stop :=
  isTimeInRange_inside (timeOf_bounds after before).1 (timeOf_bounds after before).2

theorem covers_inside {window : MaintenanceWindow} (after : hour < instant) (before : instant < hour + 1) :
    window.Covers instant ↔ window.appliesOn (hour / 24) ∧ HourIn (hour % 24) (hourOf window.startTime) (hourOf window.endTime) := by
  unfold MaintenanceWindow.Covers
  rw [dateOf_inside after.le before,inRange_inside after before]

theorem maintained_inside (after : hour < instant) (before : instant < hour + 1) :
    (∃ window ∈ schedule.maintenanceWindows, window.Covers instant) ↔ schedule.maintainedHour hour := by
  apply exists_congr
  intro window
  rw [covers_inside after before]

theorem approvedAt_inside (after : hour < instant) (before : instant < hour + 1) :
    schedule.approvedAt instant ↔ schedule.approvedHour hour := by
  unfold NamedSchedule.approvedAt NamedSchedule.approvedHour
  rw [dateOf_inside after.le before,maintained_inside after before,inRange_inside after before]

theorem maintained_of_hour (after : hour ≤ instant) (before : instant < hour + 1) (maintained : schedule.maintainedHour hour) :
    ∃ window ∈ schedule.maintenanceWindows, window.Covers instant := by
  obtain ⟨window,member,applies,within⟩ := maintained
  rcases after.eq_or_lt with sharp | inside
  · refine ⟨window,member,?_,?_⟩
    · rwa [dateOf_inside after before]
    · have parts : (24 : ℝ) * (hour / 24 : ℤ) + (hour % 24 : ℤ) = hour := by exact_mod_cast Int.mul_ediv_add_emod hour 24
      have time : timeOf instant = ((hour % 24 : ℤ) : ℝ) := by
        rw [timeOf_inside after before,← sharp,← parts,add_sub_cancel_left]
      unfold isTimeInRange
      unfold HourIn at within
      rw [time]
      by_cases order : hourOf window.startTime ≤ hourOf window.endTime
      · rw [if_pos order] at within
        rw [if_pos (Int.cast_le.mpr order),Bool.and_eq_true,decide_eq_true_iff,decide_eq_true_iff,Int.cast_le,Int.cast_le]
        exact ⟨within.1,within.2.le⟩
      · rw [if_neg order] at within
        rw [if_neg (fun le => order (Int.cast_le.mp le)),Bool.or_eq_true,decide_eq_true_iff,decide_eq_true_iff,Int.cast_le,Int.cast_le]
        exact within.imp_right le_of_lt
  · exact ⟨window,member,(covers_inside inside before).mpr ⟨applies,within⟩⟩

end Hours

/-- What the expected hours of a schedule promise: over whole hours they add up and are
the measure of the approved instants, over any instants they are bounded and add up at
whole steps, and an overnight window is its working day's. -/
structure MeasuresApprovedTime (zones : String → ℝ → ℝ) (schedule : NamedSchedule) : Prop where
  measure : ∀ a c : ℤ, a ≤ c → ∃ n : ℕ, computeExpectedRunningHours zones schedule (a : ℝ) c = .ok n ∧
    volume {instant : ℝ | isApprovedRunningSlot zones schedule instant = .ok true ∧ a ≤ instant ∧ instant < c} = n ∧ (n : ℤ) ≤ c - a
  adds : ∀ a b c : ℤ, a ≤ b → b ≤ c → ∃ m n : ℕ, computeExpectedRunningHours zones schedule (a : ℝ) b = .ok m ∧
    computeExpectedRunningHours zones schedule (b : ℝ) c = .ok n ∧ computeExpectedRunningHours zones schedule (a : ℝ) c = .ok (m + n)
  overnight : schedule.overnight → ∀ instant : ℝ, timeOf instant < hourOf schedule.dailyEndTime →
    inMaintenance instant schedule.maintenanceWindows = .ok false →
    (isApprovedRunningSlot zones schedule instant = .ok true ↔ schedule.judgedDay (dateOf instant - 1))
  bounded : ∀ a c : ℝ, a ≤ c → ∃ n : ℕ, computeExpectedRunningHours zones schedule a c = .ok n ∧ (n : ℤ) ≤ ⌈c - a⌉
  splits : ∀ (a c : ℝ) (k : ℕ), a + k ≤ c → ∃ m n : ℕ, computeExpectedRunningHours zones schedule a (a + k) = .ok m ∧
    computeExpectedRunningHours zones schedule (a + k) c = .ok n ∧ computeExpectedRunningHours zones schedule a c = .ok (m + n)

section Promise

variable {zones : String → ℝ → ℝ} {schedule : NamedSchedule}

theorem expected_whole (utc : ∀ instant, zones schedule.timezone instant = 0) (whole : schedule.OnWholeHours) (start stop : ℝ) :
    computeExpectedRunningHours zones schedule start stop =
      .ok (Nat.count (fun i : ℕ => schedule.approvedAt (start + i + 1 / 2)) ⌈stop - start⌉.toNat) :=
  computeExpected_count (isApproved_whole utc whole) start stop

theorem expected_splits (utc : ∀ instant, zones schedule.timezone instant = 0) (whole : schedule.OnWholeHours) {a c : ℝ} {k : ℕ}
    (order : a + k ≤ c) : ∃ m n : ℕ, computeExpectedRunningHours zones schedule a (a + k) = .ok m ∧
      computeExpectedRunningHours zones schedule (a + k) c = .ok n ∧ computeExpectedRunningHours zones schedule a c = .ok (m + n) := by
  have first : ⌈a + (k : ℝ) - a⌉.toNat = k := by
    rw [add_sub_cancel_left,Int.ceil_natCast,Int.toNat_natCast]
  have rest : ⌈c - (a + k)⌉ = ⌈c - a⌉ - k := by
    rw [← sub_sub,Int.ceil_sub_natCast]
  have nonneg : 0 ≤ ⌈c - (a + k)⌉ := Int.ceil_nonneg (sub_nonneg.mpr order)
  have total : ⌈c - a⌉.toNat = k + ⌈c - (a + k)⌉.toNat := by omega
  have shifted : ∀ i : ℕ, a + (k : ℝ) + (i : ℝ) = a + ((k + i : ℕ) : ℝ) := by
    intro i
    rw [Nat.cast_add,add_assoc]
  refine ⟨_,_,expected_whole utc whole _ _,expected_whole utc whole _ _,?_⟩
  rw [expected_whole utc whole,first,total,Nat.count_add]
  simp only [shifted]

theorem expected_elapsed (utc : ∀ instant, zones schedule.timezone instant = 0) (whole : schedule.OnWholeHours) (a c : ℤ) :
    computeExpectedRunningHours zones schedule (a : ℝ) c = .ok (elapsed schedule.approvedHour a c).toNat := by
  have hours : ∀ i : ℕ, schedule.approvedAt ((a : ℝ) + i + 1 / 2) ↔ schedule.approvedHour (a + i) := by
    intro i
    apply approvedAt_inside
    · push_cast
      linarith
    · push_cast
      linarith
  have length : ⌈(c : ℝ) - a⌉.toNat = (c - a).toNat := by
    rw [← Int.cast_sub,Int.ceil_intCast]
  rw [expected_whole utc whole,length]
  unfold elapsed
  simp only [hours,Int.toNat_natCast]

theorem expected_measure (utc : ∀ instant, zones schedule.timezone instant = 0) (whole : schedule.OnWholeHours) {a c : ℤ} (order : a ≤ c) :
    volume {instant : ℝ | isApprovedRunningSlot zones schedule instant = .ok true ∧ a ≤ instant ∧ instant < c} =
      (elapsed schedule.approvedHour a c).toNat := by
  have units := @volume_units {instant : ℝ | schedule.approvedAt instant} schedule.approvedHour _
    (fun n t after before => approvedAt_inside after before) _ _ order
  rw [← units]
  congr 1
  ext instant
  rw [Set.mem_ofPred_eq,isApproved_whole utc whole,Except.ok.injEq,decide_eq_true_iff]
  rfl

theorem approvedAt_morning {instant : ℝ} (overnight : schedule.overnight) (morning : timeOf instant < hourOf schedule.dailyEndTime)
    (free : ¬∃ window ∈ schedule.maintenanceWindows, window.Covers instant) :
    schedule.approvedAt instant ↔
      if schedule.workloadType = .continuous24x7 then ¬schedule.excludes (dateOf instant) else schedule.judgedDay (dateOf instant) := by
  have spans : ¬(hourOf schedule.dailyStartTime : ℝ) ≤ hourOf schedule.dailyEndTime := by
    rw [Int.cast_le]
    exact not_le.mpr overnight
  have within : isTimeInRange (timeOf instant) (hourOf schedule.dailyStartTime : ℝ) (hourOf schedule.dailyEndTime) = true := by
    unfold isTimeInRange
    rw [if_neg spans,decide_eq_true morning.le,Bool.or_true]
  unfold NamedSchedule.approvedAt
  split
  · rfl
  · simp only [free,within,false_or,and_true]

theorem overnight_iff (utc : ∀ instant, zones schedule.timezone instant = 0) (whole : schedule.OnWholeHours) :
    (schedule.overnight → ∀ instant : ℝ, timeOf instant < hourOf schedule.dailyEndTime →
      inMaintenance instant schedule.maintenanceWindows = .ok false →
      (isApprovedRunningSlot zones schedule instant = .ok true ↔ schedule.judgedDay (dateOf instant - 1))) ↔ schedule.DaysAgree := by
  have judged : ∀ instant, isApprovedRunningSlot zones schedule instant = .ok true ↔ schedule.approvedAt instant := by
    intro instant
    rw [isApproved_whole utc whole,Except.ok.injEq,decide_eq_true_iff]
  have free : ∀ instant : ℝ, inMaintenance instant schedule.maintenanceWindows = .ok false ↔
      ¬∃ window ∈ schedule.maintenanceWindows, window.Covers instant := by
    intro instant
    rw [inMaintenance_whole instant whole.windows,Except.ok.injEq,decide_eq_false_iff_not]
  constructor
  · intro promised overnight date hour nonneg before unmaintained
    -- the middle of the hour speaks for it
    have withinDay : hour < 24 := before.trans (hourOf_lt _)
    have after : ((24 * date + hour : ℤ) : ℝ) < 24 * date + hour + 1 / 2 := by
      push_cast
      linarith
    have below : (24 * (date : ℝ) + hour + 1 / 2) < ((24 * date + hour : ℤ) : ℝ) + 1 := by
      push_cast
      linarith
    have own : (24 * date + hour) / 24 = date := by omega
    have day : dateOf (24 * (date : ℝ) + hour + 1 / 2) = date := by
      rw [dateOf_inside after.le below,own]
    have time : timeOf (24 * (date : ℝ) + hour + 1 / 2) = hour + 1 / 2 := by
      rw [timeOf_inside after.le below,own]
      ring
    have step : (hour : ℝ) + 1 ≤ hourOf schedule.dailyEndTime := by exact_mod_cast before
    have morning : timeOf (24 * (date : ℝ) + hour + 1 / 2) < hourOf schedule.dailyEndTime := by
      rw [time]
      linarith
    have uncovered := mt (maintained_inside after below).mp unmaintained
    have clause := promised overnight _ morning ((free _).mpr uncovered)
    rwa [judged,approvedAt_morning overnight morning uncovered,day] at clause
  · intro agree overnight instant morning idle
    have uncovered := (free instant).mp idle
    have after : ((⌊instant⌋ : ℤ) : ℝ) ≤ instant := Int.floor_le instant
    have below : instant < (⌊instant⌋ : ℝ) + 1 := Int.lt_floor_add_one instant
    have day : dateOf instant = ⌊instant⌋ / 24 := dateOf_inside after below
    have parts : 24 * (⌊instant⌋ / 24) + ⌊instant⌋ % 24 = ⌊instant⌋ := Int.mul_ediv_add_emod _ _
    have before : ⌊instant⌋ % 24 < hourOf schedule.dailyEndTime := by
      have time : ((⌊instant⌋ % 24 : ℤ) : ℝ) ≤ timeOf instant := by
        have partsR : (24 : ℝ) * (⌊instant⌋ / 24 : ℤ) + (⌊instant⌋ % 24 : ℤ) = ⌊instant⌋ := by exact_mod_cast parts
        rw [timeOf_inside after below]
        linarith
      exact Int.cast_lt.mp (time.trans_lt morning)
    have unmaintained : ¬schedule.maintainedHour (24 * (⌊instant⌋ / 24) + ⌊instant⌋ % 24) := by
      rw [parts]
      exact fun maintained => uncovered (maintained_of_hour after below maintained)
    rw [judged,approvedAt_morning overnight morning uncovered,day]
    exact agree overnight _ _ (Int.emod_nonneg _ (by norm_num)) before unmaintained

/-- The hours measure the approved time, and an overnight window is its working day's
exactly when no morning of it falls on a day that is judged otherwise. -/
theorem expected_running_hours_iff (utc : ∀ instant, zones schedule.timezone instant = 0) (whole : schedule.OnWholeHours) :
    MeasuresApprovedTime zones schedule ↔ schedule.DaysAgree := by
  constructor
  · intro promised
    exact (overnight_iff utc whole).mp promised.overnight
  · intro agree
    constructor
    · intro a c order
      refine ⟨_,expected_elapsed utc whole a c,expected_measure utc whole order,?_⟩
      rw [Int.toNat_of_nonneg elapsed_nonneg]
      exact elapsed_le_of_le order
    · intro a b c left right
      have stepped : (a : ℝ) + ((b - a).toNat : ℕ) = b := by
        have whole : ((b - a).toNat : ℤ) = b - a := Int.toNat_of_nonneg (by omega)
        have cast : (((b - a).toNat : ℕ) : ℝ) = b - a := by exact_mod_cast whole
        rw [cast]
        ring
      have split := expected_splits utc whole (a := (a : ℝ)) (c := c) (k := (b - a).toNat) (by rw [stepped]; exact Int.cast_le.mpr right)
      rwa [stepped] at split
    · exact (overnight_iff utc whole).mpr agree
    · intro a c order
      refine ⟨_,expected_whole utc whole a c,?_⟩
      have most := Nat.count_le (p := fun i : ℕ => schedule.approvedAt (a + i + 1 / 2)) (n := ⌈c - a⌉.toNat)
      have nonneg : 0 ≤ ⌈c - a⌉ := Int.ceil_nonneg (sub_nonneg.mpr order)
      omega
    · intro a c k order
      exact expected_splits utc whole order

end Promise

/-- Nights from Monday to Friday; the mornings whose own day says otherwise are maintained. -/
def maintainedNights : NamedSchedule :=
  ⟨"UTC",.scheduleBased,[1, 2, 3, 4, 5],"22:00","06:00",[],[⟨some 1,"00:00","06:00",true,none⟩, ⟨some 6,"00:00","06:00",true,none⟩]⟩

theorem maintainedNights_judges (date : ℤ) : maintainedNights.judgedDay date ↔ date % 7 ≤ 4 := by
  unfold NamedSchedule.judgedDay NamedSchedule.excludes NamedSchedule.worksOn isoWeekday
  simp only [maintainedNights,List.not_mem_nil,false_and,exists_false,not_false_eq_true,true_and,List.mem_cons,or_false]
  omega

theorem maintainedNights_measured : maintainedNights.overnight ∧ MeasuresApprovedTime (fun _ _ => 0) maintainedNights := by
  have whole : maintainedNights.OnWholeHours := ⟨by decide +kernel,by decide +kernel,by decide +kernel⟩
  refine ⟨by decide +kernel,(expected_running_hours_iff (fun _ => rfl) whole).mpr ?_⟩
  intro _ date hour start stop unmaintained
  have six : hourOf "06:00" = 6 := by decide +kernel
  have midnight : hourOf "00:00" = 0 := by decide +kernel
  have early : hour < 6 := six ▸ stop
  have own : (24 * date + hour) / 24 = date ∧ (24 * date + hour) % 24 = hour := by omega
  have covered (day : ℤ) (member : day = 1 ∨ day = 6) : isoWeekday date ≠ day := by
    intro same
    refine unmaintained ⟨⟨some day,"00:00","06:00",true,none⟩,?_,?_⟩
    · rcases member with rfl | rfl <;> simp [maintainedNights]
    · dsimp only
      rw [own.1,own.2,midnight,six]
      exact ⟨Or.inr ⟨rfl,by rw [same]⟩,by unfold HourIn; rw [if_pos (by norm_num)]; exact ⟨start,early⟩⟩
  have monday := covered 1 (Or.inl rfl)
  have saturday := covered 6 (Or.inr rfl)
  unfold isoWeekday at monday saturday
  rw [if_neg (by decide),maintainedNights_judges,maintainedNights_judges]
  omega

def nightShift : NamedSchedule := ⟨"UTC",.scheduleBased,[1, 2, 3, 4, 5],"22:00","06:00",[],[]⟩

/-- On Saturday at two in the morning the shift that began on Friday is not approved. -/
theorem saturday_morning_unapproved : nightShift.OnWholeHours ∧ ¬MeasuresApprovedTime (fun _ _ => 0) nightShift := by
  have whole : nightShift.OnWholeHours := ⟨by decide +kernel,by decide +kernel,by decide⟩
  refine ⟨whole,fun promised => ?_⟩
  have agree := (overnight_iff (fun _ => rfl) whole).mp promised.overnight
  have overnight : nightShift.overnight := by decide +kernel
  have saturday := agree overnight 5 2 (by norm_num) (by decide +kernel) (by decide)
  have friday : nightShift.judgedDay (5 - 1) := by decide
  exact absurd (saturday.mpr friday) (by decide)

end CloudLens.Runtime
