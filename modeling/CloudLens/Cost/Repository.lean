import CloudLens.Cost.Facts

/-! The SQL cost repository: reading a billing period, and the atomic
replacement of one tenant's partition of a period. A replacement reads the
prior totals, tries to record a restatement when there were prior facts and a
total moved, deletes the partition, inserts the new facts and refreshes both
daily aggregate tables over the calendar days of the period. It is one
transaction, so a call that raises leaves the store as it was. -/
namespace CloudLens.Cost
open Library Library.Calendar

inductive CostError where
  | valueError
  | unknownSchemaVersion (provider schemaVersion : String)
  | undefinedColumn
  | dataError
  deriving DecidableEq

def parseBillingPeriod (period : String) : Except CostError (Option Date) :=
  if period = "" then .ok none
  else match Text.splitOn '-' period.toList with
    | year :: month :: _ =>
      match Text.parseInt year, Text.parseInt month with
      | some y, some m =>
        match Date.of? y.toNat m.toNat 1 with
        | some start => .ok (some start)
        | none => .error .valueError
      | _, _ => .error .valueError
    | _ => .ok none

def fallbackPeriod : Date := ⟨2026,1,1,by decide⟩

def periodBounds (period : String) : Except CostError (Date × Date) :=
  match parseBillingPeriod period with
  | .error e => .error e
  | .ok parsed =>
    match (parsed.getD fallbackPeriod).nextMonth with
    | some next => .ok (parsed.getD fallbackPeriod, next)
    | none => .error .valueError

def inPartition (tenant : String) (start : Date) (key : FactKey) (_ : FactRow) : Bool :=
  key.tenantId = tenant && key.billingPeriodStart = start

/-- COALESCE(SUM(column), 0) over the rows of a partition, in currency units. -/
def partitionTotal (column : FactRow → StoredMeasure) (tenant : String) (start : Date) (db : CostDb) : ℚ :=
  ((db.costFact.sumWhere (inPartition tenant start) (fun _ row => (column row).units.getD 0) : ℤ) : ℚ) / 10^6

def partitionCount (tenant : String) (start : Date) (db : CostDb) : ℕ :=
  db.costFact.countWhere (inPartition tenant start)

def measureTotal (measure : CostFact → Measure) (facts : List CostFact) : ℚ :=
  (facts.filterMap (fun f => measureVal (measure f))).sum

/-- The prior facts of the partition and the new ones differ in a total. -/
def restated (tenant : String) (start : Date) (facts : List CostFact) (db : CostDb) : Bool :=
  partitionCount tenant start db > 0 &&
    (measureTotal CostFact.billedCost facts ≠ partitionTotal FactRow.billedCost tenant start db ||
      measureTotal CostFact.effectiveCost facts ≠ partitionTotal FactRow.effectiveCost tenant start db)

def fitsText (width : ℕ) (text : String) : Bool := text.length ≤ width && '\x00' ∉ text.toList

def fitsNumeric (m : StoredMeasure) : Bool := m.units.all (fun units => units.natAbs < 10^18)

/-- The texts and amounts that the columns of the fact table take. -/
def storable (tenant : String) (f : CostFact) : Bool :=
  [tenant, f.id, f.scopeId, f.serviceId].all (fitsText 64) &&
    [f.resourceId, f.chargeSubcategory, f.pricingUnit].all (fun text => text.all (fitsText 64)) &&
    fitsText 3 f.billingCurrency &&
    [f.billedCost, f.effectiveCost, f.contractedCost, f.listCost, f.pricingQuantity].all (fun m => fitsNumeric (storeMeasure m))

def factKey (tenant : String) (start : Date) (f : CostFact) : FactKey :=
  ⟨f.billingPeriodStart.getD start,tenant,f.id⟩

def replaceFacts (tenant : String) (start : Date) (facts : List CostFact) (table : Table FactKey FactRow) :
    Table FactKey FactRow :=
  (table.deleteWhere (inPartition tenant start)).upsertAll overwriteFact (factKey tenant start) factRow facts

def serviceDayGroup (entry : Σ _ : FactKey, FactRow) : ServiceDayKey :=
  ⟨entry.1.tenantId,entry.2.scopeId,entry.2.serviceId,entry.2.chargePeriodStart.date⟩

def factTotals (entries : List (Σ _ : FactKey, FactRow)) : AggregateRow :=
  ⟨(entries.map (fun entry => entry.2.billedCost.units.getD 0)).sum,
    (entries.map (fun entry => entry.2.effectiveCost.units.getD 0)).sum,entries.length⟩

def refreshServiceDays (tenant : String) (start next : Date) (costFact : Table FactKey FactRow)
    (table : Table ServiceDayKey AggregateRow) : Table ServiceDayKey AggregateRow :=
  (table.deleteWhere (fun key _ => key.tenantId = tenant && start ≤ key.day && key.day < next)).insertGroups
    serviceDayGroup factTotals (costFact.selectWhere (inPartition tenant start))

def scopeDayGroup (entry : Σ _ : ServiceDayKey, AggregateRow) : ScopeDayKey :=
  ⟨entry.1.tenantId,entry.1.scopeId,entry.1.day⟩

def serviceTotals (entries : List (Σ _ : ServiceDayKey, AggregateRow)) : AggregateRow :=
  ⟨(entries.map (fun entry => entry.2.billedCost)).sum,(entries.map (fun entry => entry.2.effectiveCost)).sum,
    (entries.map (fun entry => entry.2.rowCount)).sum⟩

def refreshScopeDays (tenant : String) (start next : Date) (services : Table ServiceDayKey AggregateRow)
    (table : Table ScopeDayKey AggregateRow) : Table ScopeDayKey AggregateRow :=
  (table.deleteWhere (fun key _ => key.tenantId = tenant && start ≤ key.day && key.day < next)).insertGroups
    scopeDayGroup serviceTotals
    (services.selectWhere (fun key _ => key.tenantId = tenant && start ≤ key.day && key.day < next))

def swapPartition (tenant : String) (start next : Date) (facts : List CostFact) (db : CostDb) : CostDb :=
  let costFact := replaceFacts tenant start facts db.costFact
  let services := refreshServiceDays tenant start next costFact db.aggCostScopeServiceDay
  { db with
    costFact := costFact
    aggCostScopeServiceDay := services
    aggCostScopeDay := refreshScopeDays tenant start next services db.aggCostScopeDay }

/-- The insert of a restatement names columns that `cost_restatements` does not
have, so a replacement that detects one raises, and its record is lost. -/
def replacePartitionAtomic (tenant period : String) (facts : List CostFact) (db : CostDb) :
    Except CostError (CostDb × ℕ × Option CostRestatementRecord) :=
  match periodBounds period with
  | .error e => .error e
  | .ok (start, next) =>
    if restated tenant start facts db then .error .undefinedColumn
    else if facts.all (storable tenant) then .ok (swapPartition tenant start next facts db, facts.length, none)
    else .error .dataError

def replaceStep (tenant period : String) (db : CostDb) (facts : List CostFact) : CostDb :=
  match replacePartitionAtomic tenant period facts db with
  | .ok result => result.1
  | .error _ => db

structure PeriodTotals where
  billedCost : ℚ
  effectiveCost : ℚ
  rowCount : ℕ
  deriving DecidableEq

def getPeriodTotals (tenant period : String) (db : CostDb) : Except CostError PeriodTotals :=
  match parseBillingPeriod period with
  | .error e => .error e
  | .ok parsed =>
    .ok ⟨Decimal.quantize 2 (partitionTotal FactRow.billedCost tenant (parsed.getD fallbackPeriod) db),
      Decimal.quantize 2 (partitionTotal FactRow.effectiveCost tenant (parsed.getD fallbackPeriod) db),
      partitionCount tenant (parsed.getD fallbackPeriod) db⟩

/-- An empty scope is no filter, and neither is a period that names no month. -/
def factsWhere (tenant : String) (start : Option Date) (scope : String) (key : FactKey) (row : FactRow) : Bool :=
  key.tenantId = tenant && start.all (fun first => key.billingPeriodStart = first) && (scope = "" || row.scopeId = scope)

def getAllFacts (tenant period scope : String) (db : CostDb) : Except CostError (List CostFact) :=
  match parseBillingPeriod period with
  | .error e => .error e
  | .ok start => .ok ((db.costFact.selectWhere (factsWhere tenant start scope)).map (fun entry => entry.2.providerNative))

/-- The table has no provider column: every row is read under the provider asked for. -/
def listRestatements (tenant provider : String) (db : CostDb) : List CostRestatementRecord :=
  (db.costRestatements.filter (fun r => r.tenantId = tenant)).map (fun r =>
    { id := r.id
      tenantId := r.tenantId
      provider := provider
      billingPeriod := r.billingPeriod
      detectedAt := r.restatementDetectedAt
      originalBilledTotal := r.originalBilledCost
      restatedBilledTotal := r.restatedBilledCost
      billedDelta := Decimal.quantize 2 (r.restatedBilledCost - r.originalBilledCost)
      originalEffectiveTotal := r.originalEffectiveCost
      restatedEffectiveTotal := r.restatedEffectiveCost
      effectiveDelta := Decimal.quantize 2 (r.restatedEffectiveCost - r.originalEffectiveCost)
      affectedRowCount := 0
      notes := r.reasons })

theorem parseBillingPeriod_first {period : String} {start : Date}
    (parsed : parseBillingPeriod period = .ok (some start)) : start.day = 1 := by
  unfold parseBillingPeriod at parsed
  split at parsed
  · cases parsed
  · split at parsed
    · split at parsed
      · split at parsed
        · cases parsed
          rename_i built
          exact (Date.of?_fields built).2.2
        · cases parsed
      · cases parsed
    · cases parsed

theorem parseBillingPeriod_formatMonth (d : Date) :
    parseBillingPeriod (formatMonth d) = .ok (some d.firstOfMonth) := by
  have nonempty : formatMonth d ≠ "" := by
    intro blank
    have fields := formatMonth_fields d
    rw [blank] at fields
    have lengths := congrArg List.length fields
    simp [Text.splitOn] at lengths
  rw [parseBillingPeriod,if_neg nonempty,formatMonth_fields]
  simp only [parseInt_yearDigits,parseInt_monthDigits,Int.toNat_natCast]
  have built := Date.of?_self d.firstOfMonth
  simp only [Date.firstOfMonth_year,Date.firstOfMonth_month,Date.firstOfMonth_day] at built
  rw [built]

theorem periodBounds_spec {period : String} {start next : Date} (bounds : periodBounds period = .ok (start, next)) :
    start.day = 1 ∧ start.nextMonth = some next := by
  unfold periodBounds at bounds
  split at bounds
  · cases bounds
  · rename_i parsed read
    split at bounds
    · rename_i following found
      cases bounds
      refine ⟨?_,found⟩
      cases parsed with
      | none => rfl
      | some d => exact parseBillingPeriod_first read
    · cases bounds

theorem march_bounds : periodBounds "2026-03" = .ok (march2026, april2026) := by decide +kernel

theorem restated_eq_false {tenant : String} {start : Date} {facts : List CostFact} {db : CostDb} :
    restated tenant start facts db = false ↔ partitionCount tenant start db = 0 ∨
      (measureTotal CostFact.billedCost facts = partitionTotal FactRow.billedCost tenant start db ∧
        measureTotal CostFact.effectiveCost facts = partitionTotal FactRow.effectiveCost tenant start db) := by
  rw [← Nat.le_zero,← not_lt,← imp_iff_not_or]
  simp [restated]

/-- A replacement that returns found no restatement and stores facts that fit. -/
structure Replaces (tenant period : String) (start next : Date) (facts : List CostFact) (db : CostDb) : Prop where
  bounds : periodBounds period = .ok (start, next)
  settled : restated tenant start facts db = false
  fits : ∀ f ∈ facts, storable tenant f = true

theorem replacePartitionAtomic_of_replaces {tenant period : String} {start next : Date} {facts : List CostFact} {db : CostDb}
    (replaces : Replaces tenant period start next facts db) :
    replacePartitionAtomic tenant period facts db = .ok (swapPartition tenant start next facts db, facts.length, none) := by
  simp [replacePartitionAtomic,replaces.bounds,replaces.settled,List.all_eq_true.mpr replaces.fits]

theorem replaces_of_ok {tenant period : String} {facts : List CostFact} {db : CostDb}
    {result : CostDb × ℕ × Option CostRestatementRecord} (ran : replacePartitionAtomic tenant period facts db = .ok result) :
    ∃ start next, Replaces tenant period start next facts db ∧
      result = (swapPartition tenant start next facts db, facts.length, none) := by
  unfold replacePartitionAtomic at ran
  split at ran
  · cases ran
  · rename_i start next bounds
    split at ran
    · cases ran
    · rename_i settled
      split at ran
      · rename_i fits
        cases ran
        exact ⟨start,next,⟨bounds,Bool.not_eq_true _ ▸ settled,List.all_eq_true.mp fits⟩,rfl⟩
      · cases ran

theorem replaceStep_of_replaces {tenant period : String} {start next : Date} {facts : List CostFact} {db : CostDb}
    (replaces : Replaces tenant period start next facts db) :
    replaceStep tenant period db facts = swapPartition tenant start next facts db := by
  rw [replaceStep,replacePartitionAtomic_of_replaces replaces]

theorem replaceStep_cases (tenant period : String) (facts : List CostFact) (db : CostDb) :
    replaceStep tenant period db facts = db ∨ ∃ start next, Replaces tenant period start next facts db ∧
      replaceStep tenant period db facts = swapPartition tenant start next facts db := by
  cases ran : replacePartitionAtomic tenant period facts db with
  | error e =>
    left
    rw [replaceStep,ran]
  | ok result =>
    right
    obtain ⟨start,next,replaces,_⟩ := replaces_of_ok ran
    exact ⟨start,next,replaces,replaceStep_of_replaces replaces⟩

end CloudLens.Cost
