import CloudLens.Library.Months
import Mathlib.Data.List.Forall2

/-! The windows of budget periods. A fiscal calendar starts its year in a month
and on a day of it; the twelve periods of a fiscal year start on that day of
their month and end with the month. A period table that leaves the years 1 to
9999 cannot be built, and the resolver falls back to the plain calendar. -/
namespace CloudLens.Budgets
open Library Library.Calendar

inductive BudgetPeriod
  | monthly
  | quarterly
  | annual
  | fiscalYear
  | custom
  deriving DecidableEq

structure BudgetSpan where
  period : BudgetPeriod
  effectiveDate : Date
  expiryDate : Option Date

structure FiscalCalendar where
  code : String
  fiscalYearStartMonth : ℕ
  fiscalYearStartDay : ℕ
  month : 1 ≤ fiscalYearStartMonth ∧ fiscalYearStartMonth ≤ 12
  day : 1 ≤ fiscalYearStartDay ∧ fiscalYearStartDay ≤ 28

structure FiscalPeriod where
  calendarCode : String
  fiscalYear : ℕ
  periodNumber : ℕ
  startDate : Date
  endDate : Date
  closeDate : Date

def FiscalPeriod.covers (p : FiscalPeriod) (targetDate : Date) : Bool := p.startDate ≤ targetDate ∧ targetDate ≤ p.endDate

def FiscalCalendar.period (record : FiscalCalendar) (fiscalYear pIdx : ℕ) : Option FiscalPeriod :=
  let totalMonth := record.fiscalYearStartMonth - 1 + pIdx
  let pYear := if record.fiscalYearStartMonth > 1 then fiscalYear + totalMonth / 12 else fiscalYear
  let pMonth := totalMonth % 12 + 1
  let daysInMonth := Calendar.daysInMonth pYear pMonth
  let closeDay := min 5 daysInMonth
  let nextMonth := pMonth % 12 + 1
  let nextYear := pYear + (if pMonth = 12 then 1 else 0)
  match Date.of? pYear pMonth (min record.fiscalYearStartDay daysInMonth), Date.of? pYear pMonth daysInMonth,
      Date.of? nextYear nextMonth closeDay with
  | some pStart, some pEnd, some pClose => some ⟨record.code,fiscalYear,pIdx + 1,pStart,pEnd,pClose⟩
  | _, _, _ => none

def getFiscalPeriods (record : Option FiscalCalendar) (fiscalYear : ℕ) : Option (List FiscalPeriod) :=
  record.bind fun record => (List.range 12).mapM (record.period fiscalYear)

def searchPeriods (record : Option FiscalCalendar) (targetDate : Date) : List ℕ → Option FiscalPeriod
  | [] => (getFiscalPeriods record targetDate.year).bind List.head?
  | fYear :: rest =>
    match getFiscalPeriods record fYear with
    | none => none
    | some periods =>
      match periods.find? (·.covers targetDate) with
      | some p => some p
      | none => searchPeriods record targetDate rest

def getPeriodForDate (record : Option FiscalCalendar) (targetDate : Date) : Option FiscalPeriod :=
  searchPeriods record targetDate [targetDate.year - 1, targetDate.year, targetDate.year + 1]

theorem yearBegins {year : ℕ} (valid : 1 ≤ year ∧ year ≤ 9999) :
    (1 ≤ year ∧ year ≤ 9999) ∧ (1 ≤ 1 ∧ 1 ≤ 12) ∧ 1 ≤ 1 ∧ 1 ≤ Calendar.daysInMonth year 1 :=
  ⟨valid,⟨le_rfl,by omega⟩,le_rfl,Date.days_pos year 1⟩

theorem yearEnds {year : ℕ} (valid : 1 ≤ year ∧ year ≤ 9999) :
    (1 ≤ year ∧ year ≤ 9999) ∧ (1 ≤ 12 ∧ 12 ≤ 12) ∧ 1 ≤ 31 ∧ 31 ≤ Calendar.daysInMonth year 12 :=
  ⟨valid,⟨by omega,le_rfl⟩,by omega,le_rfl⟩

def calendarYear (d : Date) : Date × Date := (⟨d.year,1,1,yearBegins d.valid.1⟩, ⟨d.year,12,31,yearEnds d.valid.1⟩)

def tableWindow (periods : List FiscalPeriod) : Option (Date × Date) :=
  match periods.head?, periods.getLast? with
  | some first, some last => some (first.startDate, last.endDate)
  | _, _ => none

def inWindow (d : Date) (window : Date × Date) : Bool := window.1 ≤ d ∧ d ≤ window.2

/-- The fiscal year of the date: the one that starts in its year, else the one
before, else the one after. Nothing where a table cannot be built. -/
def fiscalYearWindow (record : Option FiscalCalendar) (refDate : Date) : Option (Date × Date) := do
  let periods ← getFiscalPeriods record refDate.year
  let current ← tableWindow periods
  if inWindow refDate current then return current
  let prevP ← getFiscalPeriods record (refDate.year - 1)
  match (tableWindow prevP).filter (inWindow refDate) with
  | some window => return window
  | none =>
    let nextP ← getFiscalPeriods record (refDate.year + 1)
    return ((tableWindow nextP).filter (inWindow refDate)).getD current

/-- Remainders are not negative in Python. -/
def quarterWindow (startMonth : ℕ) (refDate : Date) : Option (Date × Date) :=
  let monthOffset := (refDate.month + 12 - startMonth) % 12
  let qIndex := monthOffset / 3
  let qStartMonth := (startMonth - 1 + qIndex * 3) % 12 + 1
  let qEndMonth := (startMonth - 1 + qIndex * 3 + 2) % 12 + 1
  let startYear :=
    if qStartMonth ≤ refDate.month then refDate.year
    else if startMonth > 1 then refDate.year - 1 else refDate.year
  let endYear := if qEndMonth ≥ qStartMonth then startYear else startYear + 1
  match Date.of? startYear qStartMonth 1, Date.of? endYear qEndMonth (Calendar.daysInMonth endYear qEndMonth) with
  | some start, some stop => some (start, stop)
  | _, _ => none

/-- Nothing where the resolver raises: the first quarter of the year 1 and the last of
9999 may reach out of the calendar. -/
def resolvePeriodBounds (record : Option FiscalCalendar) (budget : BudgetSpan) (refDate : Date) : Option (Date × Date) :=
  match budget.period with
  | .custom => some (budget.effectiveDate, budget.expiryDate.getD (calendarYear budget.effectiveDate).2)
  | .monthly =>
    match getPeriodForDate record refDate with
    | some p => some (p.startDate, p.endDate)
    | none => some (refDate.firstOfMonth, refDate.lastOfMonth)
  | .quarterly => quarterWindow (record.elim 1 FiscalCalendar.fiscalYearStartMonth) refDate
  | .annual => some (calendarYear refDate)
  | .fiscalYear => some ((fiscalYearWindow record refDate).getD (calendarYear refDate))

def OfYears (first last : ℕ) (d : Date) : Prop := first ≤ d.year ∧ d.year ≤ last

instance (first last : ℕ) (d : Date) : Decidable (OfYears first last d) := inferInstanceAs (Decidable (_ ∧ _))

/-- The windows of each kind of period tile the dates of these years, and a quarter
lies within the fiscal year of the same date. -/
structure PeriodsTile (record : FiscalCalendar) (first last : ℕ) : Prop where
  tiles : ∀ budget : BudgetSpan, budget.period ≠ .custom →
    Tiles (OfYears first last) (resolvePeriodBounds (some record) budget)
  nested : ∀ budget other : BudgetSpan, budget.period = .quarterly → other.period = .fiscalYear → ∀ d, OfYears first last d →
    ∀ quarter year, resolvePeriodBounds (some record) budget d = some quarter →
      resolvePeriodBounds (some record) other d = some year → year.1 ≤ quarter.1 ∧ quarter.2 ≤ year.2

variable {record : FiscalCalendar} {fiscalYear pIdx : ℕ} {d : Date}

theorem of?_some {year month day : ℕ} (valid : (1 ≤ year ∧ year ≤ 9999) ∧ (1 ≤ month ∧ month ≤ 12) ∧ 1 ≤ day ∧ day ≤ Calendar.daysInMonth year month) :
    Date.of? year month day = some ⟨year,month,day,valid⟩ := dif_pos valid

theorem twentyEight_le (year month : ℕ) : 28 ≤ Calendar.daysInMonth year month := by
  unfold Calendar.daysInMonth
  split_ifs <;> omega

structure FiscalPeriod.OfMonth (p : FiscalPeriod) (startDay k : ℕ) : Prop where
  opening : p.startDate.monthIndex = k
  opens : p.startDate.day = startDay
  closing : p.endDate.monthIndex = k
  closes : p.endDate.day = Calendar.daysInMonth p.endDate.year p.endDate.month

theorem period_some (record : FiscalCalendar) (within : 1 ≤ fiscalYear ∧ fiscalYear ≤ 9998) (few : pIdx < 12) :
    ∃ p, record.period fiscalYear pIdx = some p ∧
      p.OfMonth record.fiscalYearStartDay (12 * fiscalYear + (record.fiscalYearStartMonth - 1) + pIdx) := by
  have months := record.month
  have days := record.day
  generalize total : record.fiscalYearStartMonth - 1 + pIdx = totalMonth
  generalize years : (if record.fiscalYearStartMonth > 1 then fiscalYear + totalMonth / 12 else fiscalYear) = pYear
  have yearIs : pYear = fiscalYear + totalMonth / 12 := by
    rw [← years]
    split
    · rfl
    · omega
  generalize carries : (if totalMonth % 12 + 1 = 12 then 1 else 0) = carry
  have carryIs : carry = 0 ∨ (totalMonth % 12 + 1 = 12 ∧ carry = 1) := by
    rw [← carries]
    split
    · exact .inr ⟨by assumption,rfl⟩
    · exact .inl rfl
  have long := twentyEight_le pYear (totalMonth % 12 + 1)
  have longNext := twentyEight_le (pYear + carry) ((totalMonth % 12 + 1) % 12 + 1)
  unfold FiscalCalendar.period
  simp only [total,years,carries]
  rw [of?_some (by omega),of?_some (by omega),of?_some (by omega)]
  refine ⟨_,rfl,?_,?_,?_,rfl⟩
  · unfold Date.monthIndex
    simp only
    omega
  · exact min_eq_left (days.2.trans long)
  · unfold Date.monthIndex
    simp only
    omega

theorem of?_none {year month day : ℕ} (outside : ¬ (1 ≤ year ∧ year ≤ 9999)) : Date.of? year month day = none :=
  dif_neg fun valid => outside valid.1

theorem period_last (record : FiscalCalendar) (late : 9999 ≤ fiscalYear) : record.period fiscalYear 11 = none := by
  have months := record.month
  unfold FiscalCalendar.period
  by_cases first : record.fiscalYearStartMonth > 1
  · simp only [if_pos first]
    rw [of?_none (by omega)]
  · have month : record.fiscalYearStartMonth = 1 := by omega
    simp only [month,lt_irrefl,if_false]
    split
    · next closed =>
      rw [of?_none (by simp; omega)] at closed
      cases closed
    · rfl

theorem period_first (record : FiscalCalendar) : record.period 0 0 = none := by
  have months := record.month
  have year : (if record.fiscalYearStartMonth > 1 then 0 + (record.fiscalYearStartMonth - 1 + 0) / 12 else 0) = 0 := by
    split <;> omega
  unfold FiscalCalendar.period
  simp only [year]
  rw [of?_none (by omega)]

section Steps

variable {α β : Type} {step : α → Option β} {items : List α} {results : List β}

theorem mapM_some (each : ∀ item ∈ items, ∃ result, step item = some result) : ∃ results, items.mapM step = some results := by
  induction items with
  | nil => exact ⟨[],rfl⟩
  | cons first rest ih =>
    obtain ⟨⟨result,one⟩,others⟩ := List.forall_mem_cons.mp each
    obtain ⟨results,later⟩ := ih others
    refine ⟨result :: results,?_⟩
    rw [List.mapM_cons,one,later]
    rfl

theorem mapM_cons_some {first : α} {rest : List α} (mapped : (first :: rest).mapM step = some results) :
    ∃ result others, results = result :: others ∧ step first = some result ∧ rest.mapM step = some others := by
  rw [List.mapM_cons] at mapped
  obtain ⟨result,one,mapped⟩ := Option.bind_eq_some_iff.mp mapped
  obtain ⟨others,later,same⟩ := Option.bind_eq_some_iff.mp mapped
  exact ⟨result,others,(Option.some.inj same).symm,one,later⟩

theorem mapM_getElem? (mapped : items.mapM step = some results) (i : ℕ) : results[i]? = items[i]?.bind step := by
  induction items generalizing results i with
  | nil =>
    rw [List.mapM_nil] at mapped
    rw [← Option.some.inj mapped]
    rfl
  | cons first rest ih =>
    obtain ⟨result,others,rfl,one,later⟩ := mapM_cons_some mapped
    cases i with
    | zero => exact one.symm
    | succ i => exact ih later i

theorem mapM_none {item : α} (member : item ∈ items) (raises : step item = none) : items.mapM step = none := by
  cases mapped : items.mapM step with
  | none => rfl
  | some results =>
    exfalso
    induction items generalizing results with
    | nil => cases member
    | cons first rest ih =>
      obtain ⟨result,others,_,one,later⟩ := mapM_cons_some mapped
      rcases List.mem_cons.mp member with rfl | member
      · exact absurd (raises.symm.trans one) (by nofun)
      · exact ih member others later

end Steps

theorem fiscalPeriods_within {periods : List FiscalPeriod} (made : getFiscalPeriods (some record) fiscalYear = some periods) :
    1 ≤ fiscalYear ∧ fiscalYear ≤ 9998 := by
  by_contra outside
  have raises : getFiscalPeriods (some record) fiscalYear = none := by
    by_cases late : 9999 ≤ fiscalYear
    · exact mapM_none (List.mem_range.mpr (by omega)) (period_last record late)
    · obtain rfl : fiscalYear = 0 := by omega
      exact mapM_none (List.mem_range.mpr (by omega)) (period_first record)
  rw [raises] at made
  cases made

theorem fiscalPeriods_some (record : FiscalCalendar) (within : 1 ≤ fiscalYear ∧ fiscalYear ≤ 9998) :
    ∃ periods, getFiscalPeriods (some record) fiscalYear = some periods ∧ (∀ i ≥ 12, periods[i]? = none) ∧
      ∀ i < 12, ∃ p, periods[i]? = some p ∧
        p.OfMonth record.fiscalYearStartDay (12 * fiscalYear + (record.fiscalYearStartMonth - 1) + i) := by
  have each (i : ℕ) (member : i ∈ List.range 12) : ∃ p, record.period fiscalYear i = some p :=
    have ⟨p,made,_⟩ := period_some record within (List.mem_range.mp member)
    ⟨p,made⟩
  obtain ⟨periods,made⟩ := mapM_some each
  refine ⟨periods,made,fun i above => ?_,fun i few => ?_⟩
  · rw [mapM_getElem? made i,List.getElem?_eq_none (by simpa using above)]
    rfl
  · obtain ⟨p,one,month⟩ := period_some record within few
    refine ⟨p,?_,month⟩
    rw [mapM_getElem? made i,List.getElem?_range few]
    exact one

theorem tableWindow_some (record : FiscalCalendar) (within : 1 ≤ fiscalYear ∧ fiscalYear ≤ 9998) :
    ∃ periods window, getFiscalPeriods (some record) fiscalYear = some periods ∧ tableWindow periods = some window ∧
      window.1.monthIndex = 12 * fiscalYear + (record.fiscalYearStartMonth - 1) ∧ window.1.day = record.fiscalYearStartDay ∧
      window.2.monthIndex = 12 * fiscalYear + (record.fiscalYearStartMonth - 1) + 11 ∧
      window.2.day = Calendar.daysInMonth window.2.year window.2.month := by
  obtain ⟨periods,made,beyond,each⟩ := fiscalPeriods_some record within
  obtain ⟨first,atFirst,monthFirst⟩ := each 0 (by omega)
  obtain ⟨last,atLast,monthLast⟩ := each 11 (by omega)
  have twelve : periods.length = 12 := by
    have := List.getElem?_eq_none_iff.mp (beyond 12 le_rfl)
    have := (List.getElem?_eq_some_iff.mp atLast).1
    omega
  refine ⟨periods,(first.startDate, last.endDate),made,?_,monthFirst.opening,monthFirst.opens,monthLast.closing,monthLast.closes⟩
  rw [tableWindow,List.head?_eq_getElem?,atFirst,List.getLast?_eq_getElem?,twelve,atLast]

theorem searchPeriods_covers {years : List ℕ} {p : FiscalPeriod} (found : searchPeriods (some record) d years = some p)
    (one : ∃ year ∈ years, ∀ periods, getFiscalPeriods (some record) year = some periods → ∃ q ∈ periods, q.covers d = true) :
    ∃ year periods, getFiscalPeriods (some record) year = some periods ∧ p ∈ periods ∧ p.covers d = true := by
  induction years with
  | nil => simp at one
  | cons year rest ih =>
    rw [searchPeriods] at found
    split at found
    · cases found
    · next periods made =>
      split at found
      · next q first =>
        obtain rfl := Option.some.inj found
        exact ⟨year,periods,made,List.mem_of_find?_eq_some first,by simpa using List.find?_some first⟩
      · next missing =>
        refine ih found ?_
        obtain ⟨chosen,among,covering⟩ := one
        rcases List.mem_cons.mp among with rfl | among
        · obtain ⟨q,member,covers⟩ := covering periods made
          exact absurd covers (by simpa using List.find?_eq_none.mp missing q member)
        · exact ⟨chosen,among,covering⟩

theorem calendarYear_window (d : Date) : MonthWindow (calendarYear d) (12 * d.year) (12 * d.year + 11) := ⟨rfl,rfl,rfl,rfl⟩

def fiscalYearOf (record : FiscalCalendar) (d : Date) : ℕ :=
  if record.fiscalYearStartMonth ≤ d.month then d.year else d.year - 1

section FirstDay

variable (firstDay : record.fiscalYearStartDay = 1)
include firstDay

theorem month_window {p : FiscalPeriod} {k : ℕ} (month : p.OfMonth record.fiscalYearStartDay k) :
    MonthWindow (p.startDate, p.endDate) k k :=
  ⟨month.opens.trans firstDay,month.opening,month.closes,month.closing⟩

theorem monthly_blocked {budget : BudgetSpan} (monthly : budget.period = .monthly) (inRange : Date → Prop) :
    Blocked 0 1 inRange (resolvePeriodBounds (some record) budget) := by
  intro d _
  have single : blockStart 0 1 d.monthIndex = d.monthIndex := by simp [blockStart]
  rw [single,Nat.sub_self,Nat.add_zero,resolvePeriodBounds]
  simp only [monthly]
  split
  · next p found =>
    refine ⟨_,rfl,?_⟩
    obtain ⟨year,periods,made,member,covers⟩ := searchPeriods_covers found (by
      refine ⟨fiscalYearOf record d,?_,fun periods made => ?_⟩
      · unfold fiscalYearOf
        split <;> simp
      · obtain ⟨_,same,_,each⟩ := fiscalPeriods_some record (fiscalPeriods_within made)
        obtain rfl := Option.some.inj (same.symm.trans made)
        have valid := d.valid
        have months := record.month
        obtain ⟨q,place,month⟩ := each (d.monthIndex - (12 * fiscalYearOf record d + (record.fiscalYearStartMonth - 1))) (by
          unfold Date.monthIndex fiscalYearOf at *
          split <;> omega)
        have index : 12 * fiscalYearOf record d + (record.fiscalYearStartMonth - 1) +
            (d.monthIndex - (12 * fiscalYearOf record d + (record.fiscalYearStartMonth - 1))) = d.monthIndex := by
          unfold Date.monthIndex fiscalYearOf at *
          split <;> omega
        rw [index] at month
        have window := month_window firstDay month
        refine ⟨q,List.mem_of_getElem? place,?_⟩
        exact decide_eq_true ⟨window.start_le_iff.mpr le_rfl,window.le_end_iff.mpr le_rfl⟩)
    obtain ⟨_,same,beyond,each⟩ := fiscalPeriods_some record (fiscalPeriods_within made)
    obtain rfl := Option.some.inj (same.symm.trans made)
    obtain ⟨i,place⟩ := List.mem_iff_getElem?.mp member
    have few : i < 12 := by
      by_contra above
      rw [beyond i (by omega)] at place
      cases place
    obtain ⟨q,atSame,month⟩ := each i few
    obtain rfl := Option.some.inj (atSame.symm.trans place)
    have window := month_window firstDay month
    obtain ⟨starts,ends⟩ := of_decide_eq_true covers
    have index := le_antisymm (window.le_end_iff.mp ends) (window.start_le_iff.mp starts)
    rw [index]
    exact window
  · exact ⟨_,rfl,rfl,rfl,rfl,rfl⟩

theorem fiscalYear_blocked {budget : BudgetSpan} (yearly : budget.period = .fiscalYear) (inRange : Date → Prop)
    (inner : ∀ d, inRange d → (2 ≤ d.year ∧ d.year ≤ 9998) ∨ record.fiscalYearStartMonth = 1) :
    Blocked (record.fiscalYearStartMonth - 1) 12 inRange (resolvePeriodBounds (some record) budget) := by
  intro d member
  have months := record.month
  have valid := d.valid
  have inner := inner d member
  simp only [resolvePeriodBounds,yearly]
  refine ⟨_,rfl,?_⟩
  have block : blockStart (record.fiscalYearStartMonth - 1) 12 d.monthIndex =
      12 * fiscalYearOf record d + (record.fiscalYearStartMonth - 1) := by
    unfold blockStart Date.monthIndex fiscalYearOf
    split <;> omega
  rw [block]
  have table (year : ℕ) (within : 1 ≤ year ∧ year ≤ 9998) : ∃ periods window, getFiscalPeriods (some record) year = some periods ∧
      tableWindow periods = some window ∧ MonthWindow window (12 * year + (record.fiscalYearStartMonth - 1))
        (12 * year + (record.fiscalYearStartMonth - 1) + 11) := by
    obtain ⟨periods,window,made,shape,opening,opens,closing,closes⟩ := tableWindow_some record within
    exact ⟨periods,window,made,shape,opens.trans firstDay,opening,closes,closing⟩
  have covered {window : Date × Date} {year : ℕ} (found : MonthWindow window (12 * year + (record.fiscalYearStartMonth - 1))
      (12 * year + (record.fiscalYearStartMonth - 1) + 11)) : inWindow d window = true ↔ year = fiscalYearOf record d := by
    rw [inWindow,decide_eq_true_iff,found.start_le_iff,found.le_end_iff]
    unfold Date.monthIndex fiscalYearOf
    split <;> omega
  unfold fiscalYearWindow
  by_cases late : d.year = 9999
  · have raises : getFiscalPeriods (some record) d.year = none := by
      cases made : getFiscalPeriods (some record) d.year with
      | none => rfl
      | some periods =>
        have := fiscalPeriods_within made
        omega
    have january : record.fiscalYearStartMonth = 1 := by omega
    have begun : fiscalYearOf record d = d.year := if_pos (by omega)
    rw [raises,begun,january]
    exact calendarYear_window d
  · obtain ⟨periods,window,made,shape,found⟩ := table d.year (by omega)
    by_cases begun : d.year = fiscalYearOf record d
    · have inside := (covered found).mpr begun
      simp only [made,shape,Option.bind_eq_bind,Option.bind_some,inside,if_true]
      rw [← begun]
      exact found
    · have before : d.year - 1 = fiscalYearOf record d ∧ 2 ≤ d.year := by
        unfold fiscalYearOf at begun ⊢
        split at begun
        · exact absurd rfl begun
        · next later =>
          rw [if_neg later]
          omega
      have outside : inWindow d window = false := Bool.eq_false_iff.mpr fun inside => begun ((covered found).mp inside)
      obtain ⟨earlier,previous,madeEarlier,shapeEarlier,foundEarlier⟩ := table (d.year - 1) (by omega)
      have inside := (covered foundEarlier).mpr before.1
      simp only [made,shape,madeEarlier,shapeEarlier,Option.bind_eq_bind,Option.bind_some,outside,Option.filter_some,inside,
        if_true,Bool.false_eq_true,if_false]
      rw [← before.1]
      exact foundEarlier

end FirstDay

theorem annual_blocked {budget : BudgetSpan} (annual : budget.period = .annual) (inRange : Date → Prop) :
    Blocked 0 12 inRange (resolvePeriodBounds (some record) budget) := by
  intro d _
  have valid := d.valid
  have block : blockStart 0 12 d.monthIndex = 12 * d.year := by
    unfold blockStart Date.monthIndex
    omega
  rw [block]
  simp only [resolvePeriodBounds,annual]
  exact ⟨_,rfl,calendarYear_window d⟩

theorem quarterly_blocked {budget : BudgetSpan} (quarterly : budget.period = .quarterly) (inRange : Date → Prop)
    (inner : ∀ d, inRange d → (2 ≤ d.year ∧ d.year ≤ 9998) ∨ record.fiscalYearStartMonth = 1) :
    Blocked (record.fiscalYearStartMonth - 1) 3 inRange (resolvePeriodBounds (some record) budget) := by
  intro d member
  have months := record.month
  have valid := d.valid
  have inner := inner d member
  have start : blockStart (record.fiscalYearStartMonth - 1) 3 d.monthIndex =
      d.monthIndex - (d.month + 12 - record.fiscalYearStartMonth) % 12 % 3 := by
    unfold blockStart Date.monthIndex
    omega
  rw [start]
  simp only [resolvePeriodBounds,quarterly,Option.elim]
  unfold quarterWindow
  generalize offset : (d.month + 12 - record.fiscalYearStartMonth) % 12 = monthOffset
  generalize opening : (record.fiscalYearStartMonth - 1 + monthOffset / 3 * 3) % 12 + 1 = qStartMonth
  generalize closing : (record.fiscalYearStartMonth - 1 + monthOffset / 3 * 3 + 2) % 12 + 1 = qEndMonth
  generalize opens : (if qStartMonth ≤ d.month then d.year
    else if record.fiscalYearStartMonth > 1 then d.year - 1 else d.year) = startYear
  generalize closes : (if qEndMonth ≥ qStartMonth then startYear else startYear + 1) = endYear
  have startIndex : 12 * startYear + (qStartMonth - 1) = d.monthIndex - monthOffset % 3 := by
    unfold Date.monthIndex
    rw [← opens]
    split
    · omega
    · split <;> omega
  have endIndex : 12 * endYear + (qEndMonth - 1) = 12 * startYear + (qStartMonth - 1) + 2 := by
    rw [← closes]
    split <;> omega
  have positive := Date.days_pos endYear qEndMonth
  unfold Date.monthIndex at startIndex
  simp only [opening,closing,opens,closes]
  rw [of?_some (by have := Date.days_pos startYear qStartMonth; omega),of?_some (by omega)]
  refine ⟨_,rfl,rfl,?_,rfl,?_⟩
  · unfold Date.monthIndex
    exact startIndex
  · unfold Date.monthIndex
    rw [← startIndex]
    exact endIndex

/-- With the first of a month as its first day a calendar tiles the years away from the
ends, and with January as its first month all of them. -/
theorem periodsTile_of (first last : ℕ) (firstDay : record.fiscalYearStartDay = 1)
    (inner : ∀ d, OfYears first last d → (2 ≤ d.year ∧ d.year ≤ 9998) ∨ record.fiscalYearStartMonth = 1) :
    PeriodsTile record first last := by
  have months := record.month
  refine ⟨fun budget regular => ?_,fun budget other quarterly yearly d member quarter year foundQuarter foundYear => ?_⟩
  · cases period : budget.period with
    | monthly => exact (monthly_blocked firstDay period _).tiles one_pos (Nat.zero_le 12)
    | quarterly => exact (quarterly_blocked period _ inner).tiles (by omega) (by omega)
    | annual => exact (annual_blocked period _).tiles (by omega) (Nat.zero_le 12)
    | fiscalYear => exact (fiscalYear_blocked firstDay period _ inner).tiles (by omega) (by omega)
    | custom => exact absurd period regular
  · obtain ⟨_,same,inQuarter⟩ := quarterly_blocked quarterly _ inner d member
    rw [Option.some.inj (same.symm.trans foundQuarter)] at inQuarter
    obtain ⟨_,same,inYear⟩ := fiscalYear_blocked firstDay yearly _ inner d member
    rw [Option.some.inj (same.symm.trans foundYear)] at inYear
    rw [inYear.start_le_iff,inYear.le_end_iff,inQuarter.opening,inQuarter.closing]
    unfold blockStart
    omega

theorem firstDay_of_tiles {first last : ℕ} (tile : PeriodsTile record first last) {year : ℕ}
    (within : first ≤ year ∧ year ≤ last) (inner : 2 ≤ year ∧ year ≤ 9998) : record.fiscalYearStartDay = 1 := by
  have months := record.month
  have days := record.day
  have long := twentyEight_le year record.fiscalYearStartMonth
  let d : Date := ⟨year,record.fiscalYearStartMonth,record.fiscalYearStartDay,by omega⟩
  let quarterly : BudgetSpan := ⟨.quarterly,d,none⟩
  let yearly : BudgetSpan := ⟨.fiscalYear,d,none⟩
  have index : d.monthIndex = 12 * year + (record.fiscalYearStartMonth - 1) := rfl
  have blocked : Blocked (record.fiscalYearStartMonth - 1) 3 (· = d) (resolvePeriodBounds (some record) quarterly) :=
    quarterly_blocked rfl _ fun _ same => .inl (same ▸ inner)
  obtain ⟨quarter,foundQuarter,inQuarter⟩ := blocked d rfl
  obtain ⟨periods,window,made,shape,opening,opens,closing,_⟩ := tableWindow_some record (show 1 ≤ year ∧ year ≤ 9998 by omega)
  have start : window.1 = d := by
    have valid := window.1.valid
    unfold Date.monthIndex at opening
    exact Date.ext_fields (show window.1.year = year by omega) (show window.1.month = record.fiscalYearStartMonth by omega) opens
  have inside : inWindow d window = true := by
    have valid := window.2.valid
    refine decide_eq_true ⟨?_,?_⟩
    · rw [start,Date.le_iff,Date.lt_iff]
      omega
    · rw [Date.le_iff,Date.lt_iff]
      unfold Date.monthIndex at closing index
      omega
  have foundYear : resolvePeriodBounds (some record) yearly d = some window := by
    simp only [resolvePeriodBounds,yearly,fiscalYearWindow,show d.year = year from rfl,made,shape,Option.bind_eq_bind,
      Option.bind_some,inside,if_true]
    rfl
  obtain ⟨earlier,_⟩ := tile.nested quarterly yearly rfl rfl d within quarter window foundQuarter foundYear
  have opensQuarter := inQuarter.opens
  have openingQuarter := inQuarter.opening
  have valid := quarter.1.valid
  have fields : d.year = year ∧ d.month = record.fiscalYearStartMonth ∧ d.day = record.fiscalYearStartDay := ⟨rfl,rfl,rfl⟩
  rw [start,Date.le_iff,Date.lt_iff] at earlier
  unfold blockStart at openingQuarter
  unfold Date.monthIndex at openingQuarter index
  omega

theorem firstMonth_of_tiles (tile : PeriodsTile record 1 9999) (firstDay : record.fiscalYearStartDay = 1) :
    record.fiscalYearStartMonth = 1 := by
  have months := record.month
  by_contra later
  let d : Date := ⟨9998,record.fiscalYearStartMonth,1,by have := Date.days_pos 9998 record.fiscalYearStartMonth; omega⟩
  let newYear : Date := ⟨9999,1,1,by decide⟩
  let yearly : BudgetSpan := ⟨.fiscalYear,d,none⟩
  have blocked : Blocked (record.fiscalYearStartMonth - 1) 12 (· = d) (resolvePeriodBounds (some record) yearly) :=
    fiscalYear_blocked firstDay rfl _ fun _ same => .inl (same ▸ ⟨show 2 ≤ 9998 by omega,le_rfl⟩)
  obtain ⟨window,found,inYear⟩ := blocked d rfl
  have lastYear : resolvePeriodBounds (some record) yearly newYear = some (calendarYear newYear) := by
    have raises : getFiscalPeriods (some record) newYear.year = none :=
      mapM_none (List.mem_range.mpr (by omega)) (period_last record le_rfl)
    simp only [resolvePeriodBounds,yearly,fiscalYearWindow,raises,Option.bind_eq_bind,Option.bind_none,Option.getD_none]
  have plain := calendarYear_window newYear
  have index : d.monthIndex = 12 * 9998 + (record.fiscalYearStartMonth - 1) := rfl
  have begins : blockStart (record.fiscalYearStartMonth - 1) 12 d.monthIndex = 12 * 9998 + (record.fiscalYearStartMonth - 1) := by
    rw [index]
    unfold blockStart
    omega
  rw [begins] at inYear
  rcases (tile.tiles yearly nofun).apart d newYear ⟨show 1 ≤ 9998 by omega,show 9998 ≤ 9999 by omega⟩
      ⟨show 1 ≤ 9999 by omega,le_rfl⟩ window _ found lastYear with same | before | after
  · have opening := inYear.opening
    rw [same,plain.opening] at opening
    have : newYear.year = 9999 := rfl
    omega
  · rw [Date.lt_iff_not_le,plain.start_le_iff,inYear.closing] at before
    have : newYear.year = 9999 := rfl
    omega
  · rw [Date.lt_iff_not_le,inYear.start_le_iff,plain.closing] at after
    have : newYear.year = 9999 := rfl
    omega

/-- The budget periods tile all dates exactly when the fiscal year starts on the first of
January, and the dates of any years but the first and the last exactly when it starts on
the first of a month. -/
theorem periodsTile_iff (record : FiscalCalendar) :
    (PeriodsTile record 1 9999 ↔ record.fiscalYearStartMonth = 1 ∧ record.fiscalYearStartDay = 1) ∧
      ∀ first last, 2 ≤ first → first ≤ last → last ≤ 9998 →
        (PeriodsTile record first last ↔ record.fiscalYearStartDay = 1) := by
  refine ⟨⟨fun tile => ?_,fun ⟨january,firstDay⟩ => ?_⟩,fun first last low nonempty high => ⟨fun tile => ?_,fun firstDay => ?_⟩⟩
  · have firstDay := firstDay_of_tiles tile (show 1 ≤ 2000 ∧ 2000 ≤ 9999 by omega) (by omega)
    exact ⟨firstMonth_of_tiles tile firstDay,firstDay⟩
  · exact periodsTile_of 1 9999 firstDay fun _ _ => .inr january
  · exact firstDay_of_tiles tile ⟨le_rfl,nonempty⟩ (by omega)
  · refine periodsTile_of first last firstDay fun d member => .inl ?_
    obtain ⟨after,before⟩ := member
    omega

theorem taxYear_month : 1 ≤ 4 ∧ 4 ≤ 12 := by decide

theorem taxYear_day : 1 ≤ 6 ∧ 6 ≤ 28 := by decide

theorem mayDay_valid : (1 ≤ 2026 ∧ 2026 ≤ 9999) ∧ (1 ≤ 5 ∧ 5 ≤ 12) ∧ 1 ≤ 1 ∧ 1 ≤ Calendar.daysInMonth 2026 5 := by decide

def taxYear : FiscalCalendar := ⟨"FC_UK_TAX",4,6,taxYear_month,taxYear_day⟩

def mayDay : Date := ⟨2026,5,1,mayDay_valid⟩

/-- The first of May is in no period, and is given the first period of the year. -/
theorem mayDay_in_april : (resolvePeriodBounds (some taxYear) ⟨.monthly,mayDay,none⟩ mayDay).map
      (fun window => (window.1.month, window.1.day, window.2.month, window.2.day)) = some (4, 6, 4, 30) ∧
    ¬ PeriodsTile taxYear 1 9999 := by
  refine ⟨by decide +kernel,fun tile => ?_⟩
  obtain ⟨window,found,_,ends⟩ := (tile.tiles ⟨.monthly,mayDay,none⟩ nofun).containing mayDay (by decide +kernel)
  have before : (resolvePeriodBounds (some taxYear) ⟨.monthly,mayDay,none⟩ mayDay).all (fun window => window.2 < mayDay) = true := by
    decide +kernel
  rw [found] at before
  exact ends (of_decide_eq_true before)

end CloudLens.Budgets
