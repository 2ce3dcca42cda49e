import CloudLens.Cost.Repository
import CloudLens.Library.Runs

/-! Agreement of the daily aggregate tables with the stored facts. A refresh
deletes the days of the period's calendar month and rebuilds them from the
period's partition, so the tables keep agreeing with the facts as long as every
fact is charged inside the month of the period it is filed under. -/
namespace CloudLens.Cost
open Library Library.Calendar Library.Runs

structure PeriodCall where
  tenantId : String
  period : String
  facts : List CostFact

def periodStep (db : CostDb) (c : PeriodCall) : CostDb := replaceStep c.tenantId c.period db c.facts

structure AggregatesAgree (db : CostDb) : Prop where
  services : ∀ key, db.aggCostScopeServiceDay.lookup key =
    Table.summary factTotals (db.costFact.selectWhere (fun k row => serviceDayGroup ⟨k,row⟩ = key))
  scopes : ∀ key, db.aggCostScopeDay.lookup key =
    Table.summary serviceTotals (db.aggCostScopeServiceDay.selectWhere (fun k row => scopeDayGroup ⟨k,row⟩ = key))

def ChargedInMonth (table : Table FactKey FactRow) : Prop :=
  ∀ key row, table.lookup key = some row → row.chargePeriodStart.date.firstOfMonth = key.billingPeriodStart

def FiledInMonth (start : Date) (f : CostFact) : Prop :=
  f.billingPeriodStart.getD start = start ∧ f.chargePeriodStart.date.firstOfMonth = start

def MonthlyCall (c : PeriodCall) : Prop :=
  ∀ start next, periodBounds c.period = .ok (start, next) → ∀ f ∈ c.facts, FiledInMonth start f

section Replacement

variable {tenant : String} {start next : Date} {facts : List CostFact} {table : Table FactKey FactRow}

private theorem factKey_filed {f : CostFact} (filed : FiledInMonth start f) :
    factKey tenant start f = ⟨start,tenant,f.id⟩ := by
  simp [factKey,filed.1]

theorem replaceFacts_charged (filed : ∀ f ∈ facts, FiledInMonth start f) (charged : ChargedInMonth table) :
    ChargedInMonth (replaceFacts tenant start facts table) := by
  intro key row found
  rcases Table.mem_of_lookup_upsertAll found with kept | ⟨f,member,same,shape⟩
  · rw [Table.lookup_deleteWhere,Option.filter_eq_some_iff] at kept
    exact charged key row kept.1
  · rw [same,factKey_filed (filed f member)]
    rcases shape with fresh | ⟨earlier,merged⟩
    · rw [fresh]
      exact (filed f member).2
    · rw [merged]
      exact (filed f member).2

theorem replaceFacts_other_days (filed : ∀ f ∈ facts, FiledInMonth start f) (charged : ChargedInMonth table)
    {key : ServiceDayKey} (outside : ¬ (key.tenantId = tenant ∧ key.day.firstOfMonth = start)) :
    (replaceFacts tenant start facts table).selectWhere (fun k row => serviceDayGroup ⟨k,row⟩ = key) =
      table.selectWhere (fun k row => serviceDayGroup ⟨k,row⟩ = key) := by
  have away : ∀ f ∈ facts, ∀ row : FactRow, row.chargePeriodStart = f.chargePeriodStart →
      decide (serviceDayGroup ⟨factKey tenant start f,row⟩ = key) = false := by
    intro f member row charge
    rw [decide_eq_false_iff_not]
    intro same
    apply outside
    rw [← same]
    refine ⟨rfl,?_⟩
    simp only [serviceDayGroup,charge]
    exact (filed f member).2
  rw [replaceFacts,Table.selectWhere_upsertAll_other]
  · rw [Table.selectWhere_deleteWhere]
    apply Table.selectWhere_congr
    intro k row found
    by_cases group : serviceDayGroup ⟨k,row⟩ = key
    · have apart : inPartition tenant start k row = false := by
        rw [← Bool.not_eq_true]
        intro selected
        simp only [inPartition,Bool.and_eq_true,decide_eq_true_eq] at selected
        apply outside
        rw [← group]
        exact ⟨selected.1,(charged k row found).trans selected.2⟩
      simp [apart]
    · simp [group]
  · intro f member earlier found
    rw [factKey_filed (filed f member),Table.lookup_deleteWhere,Option.filter_eq_some_iff] at found
    simp [inPartition] at found
  · intro f member
    exact away f member (factRow f) rfl
  · intro f member earlier
    exact away f member (overwriteFact earlier (factRow f)) rfl

end Replacement

section Refresh

variable {tenant : String} {start next : Date} {costFact : Table FactKey FactRow}

private theorem inRange_iff (first : start.day = 1) (following : start.nextMonth = some next) (owner : String) (d : Date) :
    (owner = tenant && start ≤ d && d < next) = true ↔ owner = tenant ∧ d.firstOfMonth = start := by
  rw [← Date.month_range first following]
  simp [and_assoc]

private theorem partition_in_range (first : start.day = 1) (following : start.nextMonth = some next)
    (charged : ChargedInMonth costFact) :
    ∀ entry ∈ costFact.selectWhere (inPartition tenant start),
      ((serviceDayGroup entry).tenantId = tenant && start ≤ (serviceDayGroup entry).day &&
        (serviceDayGroup entry).day < next) = true := by
  intro entry member
  obtain ⟨key,row⟩ := entry
  obtain ⟨found,selected⟩ := Table.mem_selectWhere.mp member
  simp only [inPartition,Bool.and_eq_true,decide_eq_true_eq] at selected
  exact (inRange_iff first following _ _).mpr ⟨selected.1,(charged key row found).trans selected.2⟩

theorem refreshServiceDays_lookup (first : start.day = 1) (following : start.nextMonth = some next)
    (charged : ChargedInMonth costFact) (table : Table ServiceDayKey AggregateRow) (key : ServiceDayKey) :
    (refreshServiceDays tenant start next costFact table).lookup key =
      if key.tenantId = tenant ∧ key.day.firstOfMonth = start then
        Table.summary factTotals (costFact.selectWhere (fun k row => serviceDayGroup ⟨k,row⟩ = key))
      else table.lookup key := by
  have range := @inRange_iff tenant start next first following key.tenantId key.day
  rw [refreshServiceDays,Table.lookup_refresh table (partition_in_range first following charged)]
  by_cases inside : key.tenantId = tenant ∧ key.day.firstOfMonth = start
  · rw [if_pos inside,if_pos (range.mpr inside),Table.filter_selectWhere]
    congr 1
    apply Table.selectWhere_congr
    intro k row found
    by_cases group : serviceDayGroup ⟨k,row⟩ = key
    · have own : inPartition tenant start k row = true := by
        rw [← group] at inside
        simp only [inPartition,Bool.and_eq_true,decide_eq_true_eq]
        exact ⟨inside.1,(charged k row found).symm.trans inside.2⟩
      simp [own]
    · simp [group]
  · rw [if_neg inside,if_neg (fun covered => inside (range.mp covered))]

theorem refreshServiceDays_other_days (first : start.day = 1) (following : start.nextMonth = some next)
    (charged : ChargedInMonth costFact) (table : Table ServiceDayKey AggregateRow) {key : ScopeDayKey}
    (outside : ¬ (key.tenantId = tenant ∧ key.day.firstOfMonth = start)) :
    (refreshServiceDays tenant start next costFact table).selectWhere (fun k row => scopeDayGroup ⟨k,row⟩ = key) =
      table.selectWhere (fun k row => scopeDayGroup ⟨k,row⟩ = key) := by
  apply Table.selectWhere_refresh_other (partition_in_range first following charged)
  intro k row covered
  rw [decide_eq_false_iff_not]
  intro same
  apply outside
  rw [← same]
  exact (inRange_iff first following _ _).mp covered

theorem refreshScopeDays_lookup (first : start.day = 1) (following : start.nextMonth = some next)
    (services : Table ServiceDayKey AggregateRow) (table : Table ScopeDayKey AggregateRow) (key : ScopeDayKey) :
    (refreshScopeDays tenant start next services table).lookup key =
      if key.tenantId = tenant ∧ key.day.firstOfMonth = start then
        Table.summary serviceTotals (services.selectWhere (fun k row => scopeDayGroup ⟨k,row⟩ = key))
      else table.lookup key := by
  have range := @inRange_iff tenant start next first following key.tenantId key.day
  have covered : ∀ entry ∈ services.selectWhere (fun k _ => k.tenantId = tenant && start ≤ k.day && k.day < next),
      ((scopeDayGroup entry).tenantId = tenant && start ≤ (scopeDayGroup entry).day &&
        (scopeDayGroup entry).day < next) = true := by
    intro entry member
    obtain ⟨k,row⟩ := entry
    exact (Table.mem_selectWhere.mp member).2
  rw [refreshScopeDays,Table.lookup_refresh table covered]
  by_cases inside : key.tenantId = tenant ∧ key.day.firstOfMonth = start
  · rw [if_pos inside,if_pos (range.mpr inside),Table.filter_selectWhere]
    congr 1
    apply Table.selectWhere_congr
    intro k row _
    by_cases group : scopeDayGroup ⟨k,row⟩ = key
    · rw [← group] at inside
      have own : (k.tenantId = tenant && start ≤ k.day && k.day < next) = true :=
        (inRange_iff first following _ _).mpr inside
      rw [own,Bool.and_true]
    · simp [group]
  · rw [if_neg inside,if_neg (fun covered => inside (range.mp covered))]

end Refresh

structure Consistent (db : CostDb) : Prop where
  charged : ChargedInMonth db.costFact
  agree : AggregatesAgree db

theorem swapPartition_consistent {tenant : String} {start next : Date} {facts : List CostFact} {db : CostDb}
    (first : start.day = 1) (following : start.nextMonth = some next) (filed : ∀ f ∈ facts, FiledInMonth start f)
    (before : Consistent db) : Consistent (swapPartition tenant start next facts db) := by
  have charged : ChargedInMonth (swapPartition tenant start next facts db).costFact :=
    replaceFacts_charged filed before.charged
  have services : (swapPartition tenant start next facts db).aggCostScopeServiceDay =
      refreshServiceDays tenant start next (swapPartition tenant start next facts db).costFact
        db.aggCostScopeServiceDay := rfl
  have scopes : (swapPartition tenant start next facts db).aggCostScopeDay =
      refreshScopeDays tenant start next (swapPartition tenant start next facts db).aggCostScopeServiceDay
        db.aggCostScopeDay := rfl
  refine ⟨charged,?_,?_⟩
  · intro key
    rw [services,refreshServiceDays_lookup first following charged]
    by_cases inside : key.tenantId = tenant ∧ key.day.firstOfMonth = start
    · rw [if_pos inside]
    · rw [if_neg inside,before.agree.services key]
      exact congrArg _ (replaceFacts_other_days filed before.charged inside).symm
  · intro key
    rw [scopes,refreshScopeDays_lookup first following]
    by_cases inside : key.tenantId = tenant ∧ key.day.firstOfMonth = start
    · rw [if_pos inside]
    · rw [if_neg inside,before.agree.scopes key,services,
        refreshServiceDays_other_days first following charged db.aggCostScopeServiceDay inside]

theorem periodStep_consistent (db : CostDb) (c : PeriodCall) (before : Consistent db) (monthly : MonthlyCall c) :
    Consistent (periodStep db c) := by
  unfold periodStep
  rcases replaceStep_cases c.tenantId c.period c.facts db with kept | ⟨start,next,replaces,swapped⟩
  · rw [kept]
    exact before
  · obtain ⟨first,following⟩ := periodBounds_spec replaces.bounds
    rw [swapped]
    exact swapPartition_consistent first following (monthly start next replaces.bounds) before

theorem empty_consistent : Consistent CostDb.empty := by
  refine ⟨?_,?_,?_⟩
  · intro key row found
    cases found
  · intro key
    rfl
  · intro key
    rfl

/-- In every run of replacements, by any tenants and for any periods, whose
facts are all charged inside the month of the period they replace, both
aggregate tables agree with the facts. -/
theorem aggregates_agree_with_facts (calls : List PeriodCall)
    (monthly : Along periodStep (fun _ c => MonthlyCall c) CostDb.empty calls) :
    AggregatesAgree (run periodStep CostDb.empty calls) :=
  (run_preserves periodStep_consistent empty_consistent monthly).agree

def lateCharge : CostFact :=
  { usageLine "aws" "f-1" "ec2" march2026 10 with chargePeriodStart := ⟨⟨2026,4,2,by decide⟩,0⟩ }

def freeLateCharge : CostFact := { lateCharge with billedCost := .present 0, effectiveCost := .present 0 }

/-- A fact of the March partition charged on the second of April gets no row in
the scope aggregate; where it is free, its service row survives its deletion. -/
theorem late_charge_breaks_aggregates :
    ¬ AggregatesAgree (run periodStep CostDb.empty [⟨"t-1","2026-03",[lateCharge]⟩]) ∧
      ¬ AggregatesAgree (run periodStep CostDb.empty
        [⟨"t-1","2026-03",[freeLateCharge]⟩, ⟨"t-1","2026-03",[]⟩]) := by
  constructor
  · intro agree
    exact absurd (agree.scopes ⟨"t-1","scope-1",⟨2026,4,2,by decide⟩⟩) (by decide +kernel)
  · intro agree
    exact absurd (agree.services ⟨"t-1","scope-1","ec2",⟨2026,4,2,by decide⟩⟩) (by decide +kernel)

private theorem april_bounds : periodBounds "2026-04" = .ok (april2026, ⟨2026,5,1,by decide⟩) := by decide +kernel

private theorem usage_monthly {period : String} {first following : Date} (bounds : periodBounds period = .ok (first, following))
    (monthStart : first.firstOfMonth = first) (id : String) (amount : ℚ) :
    MonthlyCall ⟨"t-1",period,[usageLine "aws" id "ec2" first amount]⟩ := by
  intro start next same f member
  rw [bounds] at same
  cases same
  rw [List.mem_singleton.mp member]
  exact ⟨monthStart,monthStart⟩

/-- March is ingested, then April, and March once more with the same totals. -/
theorem aggregates_agree_with_facts_spring :
    AggregatesAgree (run periodStep CostDb.empty
      [⟨"t-1","2026-03",[usageLine "aws" "f-1" "ec2" march2026 10]⟩,
        ⟨"t-1","2026-04",[usageLine "aws" "f-2" "ec2" april2026 12]⟩,
        ⟨"t-1","2026-03",[usageLine "aws" "f-3" "ec2" march2026 10]⟩]) :=
  aggregates_agree_with_facts _
    ⟨usage_monthly march_bounds rfl "f-1" 10,usage_monthly april_bounds rfl "f-2" 12,usage_monthly march_bounds rfl "f-3" 10,
      trivial⟩

end CloudLens.Cost
