import CloudLens.Workflows.Sla

/-! Deadlines against the working time of a schedule. For a window inside the
day, each turn of the loops accounts for the working time of one date: the due
date is the first instant with the hours behind it whenever the dates scanned
hold that many, and the remaining hours are the working time that elapses. A
window that spans midnight is never entered. -/
namespace CloudLens.Workflows.Sla
open Library Library.Calendar Library.Elapsed

def WorkingWeek.Daytime (week : WorkingWeek) : Prop := week.dailyStart.micros < week.dailyEnd.micros

/-- Where the scan begins to count: a date behind the universal one is over. -/
def scanOrigin (curr : DateTime) : ℤ :=
  if curr.date < curr.instant / dayLength then (curr.date + 1) * dayLength else max curr.instant (curr.date * dayLength)

def scanStop (curr : DateTime) (days : ℕ) : ℤ := (curr.date + days) * dayLength

theorem dayLength_eq : dayLength = 86400000000 := by decide

theorem hourLength_eq : hourLength = 3600000000 := by decide

theorem micros_bounds (time : TimeOfDay) : 0 ≤ time.micros ∧ time.micros < dayLength := by
  obtain ⟨hours,minutes⟩ := time.valid
  unfold TimeOfDay.micros
  rw [dayLength_eq]
  omega

section Days

variable {week : WorkingWeek}

theorem date_of_inside {d t : ℤ} (lower : d * dayLength ≤ t) (upper : t < (d + 1) * dayLength) : t / dayLength = d := by
  rw [dayLength_eq] at *
  omega

theorem dayStart_bounds (d : ℤ) : d * dayLength ≤ week.dayStart d ∧ week.dayStart d < (d + 1) * dayLength := by
  have bounds := micros_bounds week.dailyStart
  unfold WorkingWeek.dayStart
  rw [dayLength_eq] at *
  omega

theorem dayEnd_bounds (d : ℤ) : d * dayLength ≤ week.dayEnd d ∧ week.dayEnd d < (d + 1) * dayLength := by
  have bounds := micros_bounds week.dailyEnd
  unfold WorkingWeek.dayEnd
  rw [dayLength_eq] at *
  omega

theorem dayStart_lt_dayEnd (daytime : week.Daytime) (d : ℤ) : week.dayStart d < week.dayEnd d := by
  unfold WorkingWeek.Daytime at daytime
  unfold WorkingWeek.dayStart WorkingWeek.dayEnd
  omega

theorem working_iff (daytime : week.Daytime) {d t : ℤ} (lower : d * dayLength ≤ t) (upper : t < (d + 1) * dayLength) :
    week.Working t ↔ week.isWorkingDay d ∧ week.dayStart d ≤ t ∧ t < week.dayEnd d := by
  have date := date_of_inside lower upper
  have rest : t % dayLength = t - d * dayLength := by
    rw [← date]
    have split := Int.emod_add_mul_ediv t dayLength
    linarith
  unfold WorkingWeek.Working
  rw [date,if_pos daytime.le,rest]
  unfold WorkingWeek.dayStart WorkingWeek.dayEnd
  refine and_congr_right ?_
  intro _
  constructor
  · intro inside
    omega
  · intro inside
    omega

theorem elapsed_in_day (daytime : week.Daytime) {d first last : ℤ} (lower : d * dayLength ≤ first) (upper : last ≤ (d + 1) * dayLength) :
    elapsed week.Working first last =
      if week.isWorkingDay d then max 0 (min last (week.dayEnd d) - max first (week.dayStart d)) else 0 := by
  split
  · rename_i working
    apply elapsed_window
    intro t after before
    rw [working_iff daytime (lower.trans after) (before.trans_le upper)]
    exact and_iff_right working
  · rename_i free
    apply elapsed_inactive
    intro t after before running
    exact free ((working_iff daytime (lower.trans after) (before.trans_le upper)).mp running).1

theorem elapsed_opening (daytime : week.Daytime) (d last : ℤ) :
    elapsed week.Working (d * dayLength) last = elapsed week.Working (week.dayStart d) last := by
  have bounds := @dayStart_bounds week d
  rw [elapsed_split bounds.1,elapsed_in_day daytime le_rfl ((min_le_right _ _).trans bounds.2.le)]
  have closed : max 0 (min (min last (week.dayStart d)) (week.dayEnd d) - max (d * dayLength) (week.dayStart d)) = 0 := by
    omega
  rw [closed,ite_self,zero_add]

end Days

section Scan

variable {week : WorkingWeek}

theorem date_utc (t : ℤ) : (DateTime.utc t).date = t / dayLength := by
  rw [DateTime.date,DateTime.utc,add_zero]

@[simp] theorem utc_instant (t : ℤ) : (DateTime.utc t).instant = t := rfl

theorem scanOrigin_utc (t : ℤ) : scanOrigin (.utc t) = t := by
  unfold scanOrigin
  rw [date_utc]
  have below : t / dayLength * dayLength ≤ t := Int.ediv_mul_le t (by decide)
  change (if t / dayLength < t / dayLength then _ else max t (t / dayLength * dayLength)) = t
  rw [if_neg (lt_irrefl _),max_eq_left below]

theorem date_opening (d : ℤ) : (DateTime.utc (week.dayStart d)).date = d := by
  have bounds := @dayStart_bounds week d
  rw [date_utc]
  exact date_of_inside bounds.1 bounds.2

theorem scanOrigin_bounds (curr : DateTime) : curr.date * dayLength ≤ scanOrigin curr ∧ scanOrigin curr ≤ (curr.date + 1) * dayLength := by
  unfold scanOrigin
  generalize curr.date = d
  split
  · rw [dayLength_eq] at *
    omega
  · rename_i behind
    rw [dayLength_eq] at *
    omega

theorem elapsed_today (daytime : week.Daytime) (curr : DateTime) :
    elapsed week.Working (scanOrigin curr) ((curr.date + 1) * dayLength) =
      if week.isWorkingDay curr.date then max 0 (week.dayEnd curr.date - max curr.instant (week.dayStart curr.date)) else 0 := by
  have origin := scanOrigin_bounds curr
  rw [elapsed_in_day daytime origin.1 le_rfl]
  refine if_congr Iff.rfl ?_ rfl
  have opens := @dayStart_bounds week curr.date
  have closes := @dayEnd_bounds week curr.date
  unfold scanOrigin
  split
  · rename_i behind
    have beyond : (curr.date + 1) * dayLength ≤ curr.instant := by
      rw [dayLength_eq] at *
      omega
    omega
  · omega

theorem dueLoop_continue {days : ℕ} {curr : DateTime} {remaining : ℤ} (daytime : week.Daytime)
    (left : elapsed week.Working (scanOrigin curr) ((curr.date + 1) * dayLength) < remaining) :
    dueLoop week (days + 1) curr remaining = dueLoop week days (.utc (week.dayStart (curr.date + 1)))
      (remaining - elapsed week.Working (scanOrigin curr) ((curr.date + 1) * dayLength)) := by
  rw [elapsed_today daytime] at left ⊢
  rw [dueLoop]
  dsimp only
  generalize max curr.instant (week.dayStart curr.date) = opened at *
  split
  · rename_i working
    rw [if_pos working] at left
    split
    · rename_i beyond
      rw [max_eq_left (by omega),sub_zero]
    · rename_i reached
      rw [if_neg (by omega),max_eq_right (by omega)]
  · rw [sub_zero]

theorem dueLoop_found {days : ℕ} {curr : DateTime} {remaining : ℤ} (daytime : week.Daytime) (positive : 0 < remaining)
    (enough : remaining ≤ elapsed week.Working (scanOrigin curr) ((curr.date + 1) * dayLength)) :
    ∃ due, dueLoop week (days + 1) curr remaining = some due ∧ Deadline week.Working (scanOrigin curr) remaining due := by
  have origin := scanOrigin_bounds curr
  have opens := @dayStart_bounds week curr.date
  have closes := @dayEnd_bounds week curr.date
  rw [elapsed_today daytime] at enough
  have working : week.isWorkingDay curr.date := by
    by_contra free
    rw [if_neg free] at enough
    omega
  rw [if_pos working] at enough
  have same : max (scanOrigin curr) (week.dayStart curr.date) = max curr.instant (week.dayStart curr.date) := by
    unfold scanOrigin
    split
    · rename_i behind
      have beyond : (curr.date + 1) * dayLength ≤ curr.instant := by
        rw [dayLength_eq] at *
        omega
      omega
    · omega
  refine ⟨max curr.instant (week.dayStart curr.date) + remaining,?_,?_,?_,?_⟩
  · rw [dueLoop]
    dsimp only
    rw [if_pos working,if_neg (by omega),if_pos (by omega)]
  · omega
  · rw [elapsed_in_day daytime origin.1 (by omega),if_pos working,same]
    omega
  · rw [working_iff daytime (d := curr.date) (by omega) (by omega)]
    exact ⟨working,by omega,by omega⟩

theorem dueLoop_spec (daytime : week.Daytime) (days : ℕ) (curr : DateTime) {remaining : ℤ} (positive : 0 < remaining) :
    (remaining ≤ elapsed week.Working (scanOrigin curr) (scanStop curr days) →
      ∃ due, dueLoop week days curr remaining = some due ∧ Deadline week.Working (scanOrigin curr) remaining due) ∧
    (elapsed week.Working (scanOrigin curr) (scanStop curr days) < remaining → dueLoop week days curr remaining = none) := by
  induction days generalizing curr remaining with
  | zero =>
    have none : elapsed week.Working (scanOrigin curr) (scanStop curr 0) = 0 := by
      apply elapsed_of_le
      have origin := scanOrigin_bounds curr
      simpa [scanStop] using origin.1
    rw [none]
    exact ⟨fun enough => absurd enough (by omega),fun _ => rfl⟩
  | succ days ih =>
    have origin := scanOrigin_bounds curr
    have opens := @dayStart_bounds week (curr.date + 1)
    have total : elapsed week.Working (scanOrigin curr) (scanStop curr (days + 1)) =
        elapsed week.Working (scanOrigin curr) ((curr.date + 1) * dayLength) +
          elapsed week.Working (week.dayStart (curr.date + 1)) (scanStop curr (days + 1)) := by
      have later : (curr.date + 1) * dayLength ≤ scanStop curr (days + 1) := by
        unfold scanStop
        push_cast
        rw [dayLength_eq]
        omega
      rw [← elapsed_add origin.2 later,elapsed_opening daytime]
    by_cases today : remaining ≤ elapsed week.Working (scanOrigin curr) ((curr.date + 1) * dayLength)
    · have found := @dueLoop_found week days curr remaining daytime positive today
      refine ⟨fun _ => found,?_⟩
      intro short
      have rest : 0 ≤ elapsed week.Working (week.dayStart (curr.date + 1)) (scanStop curr (days + 1)) := elapsed_nonneg
      omega
    · have step := @dueLoop_continue week days curr remaining daytime (not_le.mp today)
      have next := ih (.utc (week.dayStart (curr.date + 1)))
        (show 0 < remaining - elapsed week.Working (scanOrigin curr) ((curr.date + 1) * dayLength) by omega)
      have stop : scanStop (.utc (week.dayStart (curr.date + 1))) days = scanStop curr (days + 1) := by
        unfold scanStop
        rw [date_opening]
        push_cast
        ring
      rw [scanOrigin_utc,stop] at next
      rw [step,total]
      constructor
      · intro enough
        obtain ⟨due,found,deadline⟩ := next.1 (by omega)
        refine ⟨due,found,?_⟩
        have whole := deadline.prepend (origin.2.trans opens.1)
        have untilOpening : elapsed week.Working (scanOrigin curr) (week.dayStart (curr.date + 1)) =
            elapsed week.Working (scanOrigin curr) ((curr.date + 1) * dayLength) := by
          rw [elapsed_split origin.2,min_eq_right opens.1,elapsed_opening daytime,elapsed_of_le le_rfl,add_zero]
        rw [untilOpening] at whole
        convert whole using 1
        omega
      · intro short
        exact next.2 (by omega)

theorem dueLoop_overnight (overnight : ¬ week.Daytime) (days : ℕ) (curr : DateTime) (remaining : ℤ) :
    dueLoop week days curr remaining = none := by
  induction days generalizing curr with
  | zero => rfl
  | succ days ih =>
    rw [dueLoop]
    dsimp only
    split
    · have closed : week.dayEnd curr.date ≤ max curr.instant (week.dayStart curr.date) := by
        unfold WorkingWeek.Daytime at overnight
        unfold WorkingWeek.dayEnd WorkingWeek.dayStart
        omega
      rw [if_pos closed]
      exact ih _
    · exact ih _

theorem remainingLoop_eq (daytime : week.Daytime) {due : ℤ} (days : ℕ) {d curr : ℤ} (near : curr < (d + 1) * dayLength)
    (covered : due < (d + days) * dayLength) :
    remainingLoop week (.utc due) days d curr = elapsed week.Working (max curr (d * dayLength)) due := by
  induction days generalizing d curr with
  | zero =>
    rw [remainingLoop,elapsed_of_le]
    rw [Nat.cast_zero,add_zero] at covered
    exact covered.le.trans (le_max_right _ _)
  | succ days ih =>
    have opens := @dayStart_bounds week (d + 1)
    have further : due < (d + 1 + days) * dayLength := by
      push_cast at covered
      rw [dayLength_eq] at *
      omega
    have tomorrow : max curr (d * dayLength) ≤ (d + 1) * dayLength := by
      rw [dayLength_eq] at *
      omega
    have cut := @elapsed_split week.Working _ (max curr (d * dayLength)) ((d + 1) * dayLength) due tomorrow
    rw [remainingLoop,date_utc,utc_instant]
    split
    · rename_i past
      rw [elapsed_of_le]
      rw [dayLength_eq] at *
      omega
    · rename_i present
      rw [cut,elapsed_in_day daytime (le_max_right _ _) (min_le_right _ _)]
      split
      · have rest := ih (show week.dayStart (d + 1) < (d + 1 + 1) * dayLength from opens.2) further
        rw [rest,max_eq_left opens.1,elapsed_opening daytime]
        have starts := @dayStart_bounds week d
        have closes := @dayEnd_bounds week d
        congr 1
        rw [dayLength_eq] at *
        omega
      · have rest := ih (show curr < (d + 1 + 1) * dayLength by rw [dayLength_eq] at *; omega) further
        rw [rest,max_eq_right near.le,zero_add]

end Scan

instance (week : WorkingWeek) : Decidable week.Daytime := inferInstanceAs (Decidable (_ < _))

def micros (hours : ℤ) : ℤ := hours * hourLength

def capacity (week : WorkingWeek) (start : DateTime) : ℤ :=
  elapsed week.Working (scanOrigin start) (scanStop start maxDays)

def Reached (week : WorkingWeek) (start : DateTime) (hours : ℤ) : Prop := week.Daytime ∧ micros hours ≤ capacity week start

theorem micros_pos {hours : ℤ} (positive : 1 ≤ hours) : 0 < micros hours := by
  unfold micros
  rw [hourLength_eq]
  omega

section DueDates

variable {week : WorkingWeek} {start : DateTime} {hours : ℤ}

theorem dueDate_cases (positive : 1 ≤ hours) :
    (Reached week start hours ∧ Deadline week.Working (scanOrigin start) (micros hours) (calculateDueDate week start hours)) ∨
      (¬ Reached week start hours ∧ calculateDueDate week start hours = start.instant + micros hours) := by
  have due : calculateDueDate week start hours =
      (dueLoop week maxDays start (micros hours)).getD (start.instant + micros hours) := by
    rw [calculateDueDate,if_neg (by omega)]
    rfl
  rw [due]
  by_cases daytime : week.Daytime
  · have spec := dueLoop_spec daytime maxDays start (micros_pos positive)
    by_cases enough : micros hours ≤ capacity week start
    · obtain ⟨found,answer,deadline⟩ := spec.1 enough
      rw [answer]
      exact Or.inl ⟨⟨daytime,enough⟩,deadline⟩
    · rw [spec.2 (not_le.mp enough)]
      exact Or.inr ⟨fun reached => enough reached.2,rfl⟩
  · rw [dueLoop_overnight daytime]
    exact Or.inr ⟨fun reached => daytime reached.1,rfl⟩

/-- The instant lies in the window of a working day, its opening left out and its end included. -/
def InsideWindow (week : WorkingWeek) (t : ℤ) : Prop :=
  ∃ d, week.isWorkingDay d ∧ week.dayStart d < t ∧ t ≤ week.dayEnd d

theorem insideWindow_of_running (daytime : week.Daytime) {due : ℤ} (running : week.Working (due - 1)) : InsideWindow week due := by
  have lower : (due - 1) / dayLength * dayLength ≤ due - 1 := Int.ediv_mul_le _ (by decide)
  have upper : due - 1 < ((due - 1) / dayLength + 1) * dayLength := Int.lt_ediv_add_one_mul_self _ (by decide)
  obtain ⟨working,opened,closing⟩ := (working_iff daytime lower upper).mp running
  exact ⟨_,working,by omega,by omega⟩

structure Inverse (week : WorkingWeek) (start due hours : ℤ) : Prop where
  remaining : calculateRemainingWorkingHours week (.utc start) (some (.utc due)) = hours
  inside : InsideWindow week due
  least : ∀ t < due, elapsed week.Working start t < micros hours

theorem remaining_of_deadline (daytime : week.Daytime) {first due amount : ℤ}
    (deadline : Deadline week.Working first amount due) :
    calculateRemainingWorkingHours week (.utc first) (some (.utc due)) = Decimal.quantize 2 (amount / (hourLength : ℚ)) := by
  have later := deadline.after
  have near : first < (first / dayLength + 1) * dayLength := Int.lt_ediv_add_one_mul_self _ (by decide)
  have begun : first / dayLength * dayLength ≤ first := Int.ediv_mul_le _ (by decide)
  have covered : due < (first / dayLength + ((due / dayLength - first / dayLength + 1).toNat : ℕ)) * dayLength := by
    rw [dayLength_eq] at *
    omega
  rw [calculateRemainingWorkingHours,utc_instant,utc_instant,if_neg (by omega),date_utc,date_utc,remainingLoop_eq daytime _ near covered,max_eq_left begun,
    deadline.reached]

/-- For a daytime window and at least one hour that the 365 scanned dates hold:
the remaining hours up to the due date are the hours asked for, the due date lies
in a working window and no earlier instant has the hours behind it. -/
theorem due_date_inverse (daytime : week.Daytime) {first : ℤ} (positive : 1 ≤ hours)
    (enough : micros hours ≤ elapsed week.Working first (scanStop (.utc first) maxDays)) :
    Inverse week first (calculateDueDate week (.utc first) hours) hours := by
  have reached : Reached week (.utc first) hours := by
    refine ⟨daytime,?_⟩
    unfold capacity
    rw [scanOrigin_utc]
    exact enough
  rcases @dueDate_cases week (.utc first) hours positive with ⟨_,deadline⟩ | ⟨missed,_⟩
  · rw [scanOrigin_utc] at deadline
    refine ⟨?_,insideWindow_of_running daytime deadline.running,fun t earlier => deadline.least earlier⟩
    rw [remaining_of_deadline daytime deadline]
    have whole : (micros hours : ℚ) / hourLength = hours := by
      unfold micros
      push_cast
      exact mul_div_cancel_right₀ _ (by norm_num [hourLength])
    rw [whole]
    exact Decimal.quantize_of_atScale ⟨hours * 100,by push_cast; ring⟩
  · exact absurd reached missed

end DueDates

-- The fifth of January 2026, a Monday.
def mondayMorning : ℤ := 739620 * dayLength + micros 10

private theorem monday_eight_hours :
    elapsed standardMonFri.Working mondayMorning ((739620 + 1) * dayLength) = micros 8 := by
  have daytime : standardMonFri.Daytime := by decide
  rw [elapsed_in_day daytime (by decide) le_rfl]
  decide

theorem five_hours_inverse :
    Inverse standardMonFri mondayMorning (calculateDueDate standardMonFri (.utc mondayMorning) 5) 5 := by
  have daytime : standardMonFri.Daytime := by decide
  refine due_date_inverse daytime (by decide) (le_trans ?_ (elapsed_mono (show (739620 + 1) * dayLength ≤ _ by decide)))
  rw [monday_eight_hours]
  decide

section Pairs

variable {week : WorkingWeek} {start : DateTime}

/-- The due date keeps its hours: a scan that reaches them counts none from
before the start, and otherwise the time right after the start is all working. -/
structure Kept (week : WorkingWeek) (start : DateTime) (hours : ℤ) : Prop where
  scanned : Reached week start hours → elapsed week.Working (scanOrigin start) start.instant = 0
  unbroken : ¬ Reached week start hours → ∀ t, start.instant ≤ t → t < start.instant + micros hours → week.Working t

structure SoundPair (week : WorkingWeek) (start : DateTime) (fewer more : ℤ) : Prop where
  ordered : calculateDueDate week start fewer ≤ calculateDueDate week start more
  fewerHeld : 1 ≤ fewer → micros fewer ≤ elapsed week.Working start.instant (calculateDueDate week start fewer)
  moreHeld : 1 ≤ more → micros more ≤ elapsed week.Working start.instant (calculateDueDate week start more)

theorem held_iff {hours : ℤ} (positive : 1 ≤ hours) :
    micros hours ≤ elapsed week.Working start.instant (calculateDueDate week start hours) ↔ Kept week start hours := by
  have amount := micros_pos positive
  rcases @dueDate_cases week start hours positive with ⟨reached,deadline⟩ | ⟨missed,due⟩
  · rw [deadline.holds_iff amount]
    exact ⟨fun none => ⟨fun _ => none,fun missed => absurd reached missed⟩,fun kept => kept.scanned reached⟩
  · have full := @elapsed_full_iff week.Working _ start.instant (start.instant + micros hours) (by omega)
    rw [add_sub_cancel_left] at full
    rw [due,full]
    exact ⟨fun always => ⟨fun reached => absurd reached missed,fun _ => always⟩,fun kept => kept.unbroken missed⟩

theorem one_window (daytime : week.Daytime) {first amount : ℤ} (positive : 0 < amount)
    (always : ∀ t, first ≤ t → t < first + amount → week.Working t) :
    week.dayStart (first / dayLength) ≤ first ∧ first + amount ≤ week.dayEnd (first / dayLength) := by
  have lower : first / dayLength * dayLength ≤ first := Int.ediv_mul_le _ (by decide)
  have upper : first < (first / dayLength + 1) * dayLength := Int.lt_ediv_add_one_mul_self _ (by decide)
  have closes := @dayEnd_bounds week (first / dayLength)
  have within : first + amount - 1 < (first / dayLength + 1) * dayLength := by
    by_contra beyond
    have night := always ((first / dayLength + 1) * dayLength - 1) (by omega) (by omega)
    have inside := (working_iff daytime (d := first / dayLength) (by omega) (by omega)).mp night
    omega
  have opening := (working_iff daytime lower upper).mp (always first le_rfl (by omega))
  have ending := (working_iff daytime (d := first / dayLength) (by omega) within).mp
    (always (first + amount - 1) (by omega) (by omega))
  exact ⟨opening.2.1,by omega⟩

theorem date_near (start : DateTime) :
    start.instant / dayLength - 1 ≤ start.date ∧ start.date ≤ start.instant / dayLength + 1 := by
  obtain ⟨low,high⟩ := start.inside
  unfold DateTime.date
  rw [dayLength_eq] at *
  omega

theorem capacity_covers (daytime : week.Daytime) {worked amount : ℤ} (begun : 0 < worked) (held : worked ≤ capacity week start)
    (positive : 0 < amount) (always : ∀ t, start.instant ≤ t → t < start.instant + amount → week.Working t) :
    amount ≤ capacity week start := by
  obtain ⟨opened,closed⟩ := one_window daytime positive always
  have near := date_near start
  have closes := @dayEnd_bounds week (start.instant / dayLength)
  by_cases ahead : start.instant / dayLength < start.date
  · -- The scan starts on the next date, of which it holds a whole window as soon as it holds anything.
    have early : scanOrigin start = start.date * dayLength := by
      unfold scanOrigin
      rw [dayLength_eq] at *
      rw [if_neg (by omega)]
      omega
    have positiveCapacity : 0 < elapsed week.Working (scanOrigin start) (scanStop start maxDays) := begun.trans_le held
    obtain ⟨t,after,before,running⟩ := exists_active positiveCapacity
    have below : t / dayLength * dayLength ≤ t := Int.ediv_mul_le _ (by decide)
    have above : t < (t / dayLength + 1) * dayLength := Int.lt_ediv_add_one_mul_self _ (by decide)
    obtain ⟨working,_,_⟩ := (working_iff daytime below above).mp running
    have window : elapsed week.Working (t / dayLength * dayLength) ((t / dayLength + 1) * dayLength) =
        week.dailyEnd.micros - week.dailyStart.micros := by
      have starts := @dayStart_bounds week (t / dayLength)
      have ends := @dayEnd_bounds week (t / dayLength)
      have length := dayStart_lt_dayEnd daytime (t / dayLength)
      rw [elapsed_in_day daytime le_rfl le_rfl,if_pos working,min_eq_right ends.2.le,max_eq_right starts.1,
        max_eq_right (by omega)]
      unfold WorkingWeek.dayEnd WorkingWeek.dayStart
      ring
    have fits : amount ≤ week.dailyEnd.micros - week.dailyStart.micros := by
      unfold WorkingWeek.dayStart at opened
      unfold WorkingWeek.dayEnd at closed
      omega
    have afterOrigin : scanOrigin start ≤ t / dayLength * dayLength := by
      rw [early] at after ⊢
      rw [dayLength_eq] at *
      omega
    have beforeStop : (t / dayLength + 1) * dayLength ≤ scanStop start maxDays := by
      unfold scanStop at before ⊢
      rw [dayLength_eq] at *
      omega
    calc amount ≤ elapsed week.Working (t / dayLength * dayLength) ((t / dayLength + 1) * dayLength) := by
          rw [window]
          exact fits
      _ ≤ elapsed week.Working (scanOrigin start) ((t / dayLength + 1) * dayLength) := elapsed_anti afterOrigin
      _ ≤ capacity week start := elapsed_mono beforeStop
  · have early : scanOrigin start ≤ start.instant := by
      unfold scanOrigin
      rw [dayLength_eq] at *
      split <;> omega
    have late : start.instant + amount ≤ scanStop start maxDays := by
      unfold scanStop maxDays
      push_cast
      rw [dayLength_eq] at *
      omega
    have full := (@elapsed_full_iff week.Working _ start.instant (start.instant + amount) (by omega)).mpr always
    calc amount ≤ elapsed week.Working start.instant (start.instant + amount) := by
          rw [add_sub_cancel_left] at full
          exact full
      _ ≤ elapsed week.Working (scanOrigin start) (start.instant + amount) := elapsed_anti early
      _ ≤ capacity week start := elapsed_mono late

theorem start_le_due {hours : ℤ} (kept : 1 ≤ hours → Kept week start hours) :
    start.instant ≤ calculateDueDate week start hours := by
  by_cases positive : 1 ≤ hours
  · have held := (held_iff positive).mpr (kept positive)
    by_contra before
    rw [elapsed_of_le (by omega)] at held
    have amount := micros_pos positive
    omega
  · rw [calculateDueDate,if_pos (by omega)]

theorem due_ordered {fewer more : ℤ} (order : fewer ≤ more) (keptMore : 1 ≤ more → Kept week start more) :
    calculateDueDate week start fewer ≤ calculateDueDate week start more := by
  by_cases positive : 1 ≤ fewer
  · have scaled : micros fewer ≤ micros more := by
      unfold micros
      rw [hourLength_eq]
      omega
    rcases @dueDate_cases week start fewer positive with ⟨reached,deadline⟩ | ⟨missed,due⟩
    · rcases @dueDate_cases week start more (by omega) with ⟨_,later⟩ | ⟨missedMore,_⟩
      · exact deadline.mono later scaled
      · have always := (keptMore (by omega)).unbroken missedMore
        exact absurd ⟨reached.1,capacity_covers reached.1 (micros_pos positive) reached.2 (micros_pos (by omega)) always⟩ missedMore
    · rcases @dueDate_cases week start more (by omega) with ⟨reachedMore,_⟩ | ⟨_,dueMore⟩
      · exact absurd ⟨reachedMore.1,scaled.trans reachedMore.2⟩ missed
      · rw [due,dueMore]
        omega
  · rw [calculateDueDate,if_pos (by omega)]
    exact start_le_due keptMore

end Pairs

/-- For any schedule, start and two numbers of hours: the deadlines are in order
and each has its hours of working time before it exactly when every scan that
reaches its hours counts none from before the start, and every one that does not
is at a start followed by nothing but working time. -/
theorem deadlines_sound_iff (week : WorkingWeek) (start : DateTime) {fewer more : ℤ} (order : fewer ≤ more) :
    SoundPair week start fewer more ↔ (1 ≤ fewer → Kept week start fewer) ∧ (1 ≤ more → Kept week start more) := by
  constructor
  · intro sound
    exact ⟨fun positive => (held_iff positive).mp (sound.fewerHeld positive),
      fun positive => (held_iff positive).mp (sound.moreHeld positive)⟩
  · rintro ⟨keptFewer,keptMore⟩
    exact ⟨due_ordered order keptMore,fun positive => (held_iff positive).mpr (keptFewer positive),
      fun positive => (held_iff positive).mpr (keptMore positive)⟩

def noMasterData : MasterData := ⟨fun _ _ => none,fun _ => [],fun _ => none⟩

/-- One hour of the nightly batch window from ten in the morning is due at eleven. -/
theorem nightly_deadline_by_day :
    ¬ ∀ (master : MasterData) (scheduleId : String) (tenantId : Option String) (start : DateTime) (fewer more : ℤ),
      fewer ≤ more → SoundPair (getSchedule master scheduleId tenantId) start fewer more := by
  intro sound
  have held := (sound noMasterData "BATCH_NIGHTLY" none (.utc mondayMorning) 1 1 le_rfl).moreHeld le_rfl
  have schedule : getSchedule noMasterData "BATCH_NIGHTLY" none = batchNightly := by rfl
  rw [schedule] at held
  have due : calculateDueDate batchNightly (.utc mondayMorning) 1 = mondayMorning + micros 1 := by
    rw [calculateDueDate,dueLoop_overnight (by decide)]
    rfl
  rw [due,utc_instant,elapsed_inactive] at held
  · exact absurd held (by decide)
  · intro t after before running
    have window := running.2
    rw [if_neg (by decide)] at window
    have opens : batchNightly.dailyStart.micros = 79200000000 := by decide
    have closes : batchNightly.dailyEnd.micros = 21600000000 := by decide
    rw [opens,closes] at window
    unfold mondayMorning micros at after before
    rw [dayLength_eq,hourLength_eq] at *
    omega

theorem standard_week_sound : SoundPair standardMonFri (.utc mondayMorning) 2 5 := by
  have daytime : standardMonFri.Daytime := by decide
  have kept : ∀ hours, micros hours ≤ micros 8 → Kept standardMonFri (.utc mondayMorning) hours := by
    intro hours few
    have reached : Reached standardMonFri (.utc mondayMorning) hours := by
      have later : (739620 + 1) * dayLength ≤ scanStop (.utc mondayMorning) maxDays := by decide
      refine ⟨daytime,few.trans ?_⟩
      rw [← monday_eight_hours,capacity,scanOrigin_utc]
      exact elapsed_mono later
    refine ⟨fun _ => ?_,fun missed => absurd reached missed⟩
    rw [scanOrigin_utc]
    exact elapsed_of_le le_rfl
  have two : micros 2 ≤ micros 8 := by decide
  have five : micros 5 ≤ micros 8 := by decide
  exact (deadlines_sound_iff standardMonFri (.utc mondayMorning) (by decide)).mpr ⟨fun _ => kept 2 two,fun _ => kept 5 five⟩

end CloudLens.Workflows.Sla
