import CloudLens.Library.Calendar
import CloudLens.Library.Decimal
import CloudLens.Library.Table

/-! Cost facts, the restatement record and the stored tables of the cost repository, and
the monetary arithmetic that the cost engines share. A measure is a present amount or one
of the four null states, never a bare null. The store keeps `NUMERIC(18,6)` columns, so a
stored amount is an integer number of millionths; the whole fact, its provider included,
is kept beside the columns as the native document. -/
namespace CloudLens.Cost
open Library Library.Calendar

inductive MeasureNullState where
  | noCost
  | noData
  | notApplicable
  | notSupported
  deriving DecidableEq

inductive Measure where
  | present (value : ℚ)
  | absent (state : MeasureNullState)
  deriving DecidableEq

inductive MeasureState where
  | present
  | null (state : MeasureNullState)
  deriving DecidableEq

def measureVal : Measure → Option ℚ
  | .present value => some value
  | .absent _ => none

def measureState : Measure → MeasureState
  | .present _ => .present
  | .absent state => .null state

inductive ChargeCategory where
  | usage
  | purchase
  | adjustment
  | tax
  | credit
  deriving DecidableEq

structure CostFact where
  id : String
  tenantId : String
  scopeId : String
  resourceId : Option String
  provider : String
  serviceId : String
  chargePeriodStart : Timestamp
  chargePeriodEnd : Timestamp
  billingPeriodStart : Option Date
  chargeCategory : ChargeCategory
  chargeSubcategory : Option String
  billedCost : Measure
  effectiveCost : Measure
  contractedCost : Measure
  listCost : Measure
  billingCurrency : String
  pricingQuantity : Measure
  pricingUnit : Option String
  isRestated : Bool
  restatementVersion : ℕ
  restatementDetectedAt : Option Timestamp
  restatementReason : Option String
  createdAt : Timestamp
  deriving DecidableEq

structure CostRestatementRecord where
  id : String
  tenantId : String
  provider : String
  billingPeriod : String
  detectedAt : Timestamp
  originalBilledTotal : ℚ
  restatedBilledTotal : ℚ
  billedDelta : ℚ
  originalEffectiveTotal : ℚ
  restatedEffectiveTotal : ℚ
  effectiveDelta : ℚ
  affectedRowCount : ℕ
  notes : String
  deriving DecidableEq

structure FactKey where
  billingPeriodStart : Date
  tenantId : String
  id : String
  deriving DecidableEq

structure StoredMeasure where
  units : Option ℤ
  state : MeasureState
  deriving DecidableEq

structure FactRow where
  scopeId : String
  resourceId : Option String
  serviceId : String
  chargePeriodStart : Timestamp
  chargePeriodEnd : Timestamp
  chargeCategory : ChargeCategory
  chargeSubcategory : Option String
  billedCost : StoredMeasure
  effectiveCost : StoredMeasure
  contractedCost : StoredMeasure
  listCost : StoredMeasure
  billingCurrency : String
  pricingQuantity : StoredMeasure
  pricingUnit : Option String
  providerNative : CostFact
  createdAt : Timestamp
  deriving DecidableEq

/-- Postgres rounds a value to the scale of its column with ties away from zero. -/
def numericUnits (value : ℚ) : ℤ := Decimal.roundHalfAway (value * 10^6)

def storeMeasure (m : Measure) : StoredMeasure :=
  ⟨(measureVal m).map numericUnits,measureState m⟩

def factRow (f : CostFact) : FactRow where
  scopeId := f.scopeId
  resourceId := f.resourceId
  serviceId := f.serviceId
  chargePeriodStart := f.chargePeriodStart
  chargePeriodEnd := f.chargePeriodEnd
  chargeCategory := f.chargeCategory
  chargeSubcategory := f.chargeSubcategory
  billedCost := storeMeasure f.billedCost
  effectiveCost := storeMeasure f.effectiveCost
  contractedCost := storeMeasure f.contractedCost
  listCost := storeMeasure f.listCost
  billingCurrency := f.billingCurrency
  pricingQuantity := storeMeasure f.pricingQuantity
  pricingUnit := f.pricingUnit
  providerNative := f
  createdAt := f.createdAt

/-- The conflict clause of the insert sets every column but the creation time. -/
def overwriteFact (stored proposed : FactRow) : FactRow :=
  { proposed with createdAt := stored.createdAt }

structure ServiceDayKey where
  tenantId : String
  scopeId : String
  serviceId : String
  day : Date
  deriving DecidableEq

structure ScopeDayKey where
  tenantId : String
  scopeId : String
  day : Date
  deriving DecidableEq

structure AggregateRow where
  billedCost : ℤ
  effectiveCost : ℤ
  rowCount : ℕ
  deriving DecidableEq

structure RestatementRow where
  id : String
  tenantId : String
  billingPeriod : String
  originalBilledCost : ℚ
  restatedBilledCost : ℚ
  originalEffectiveCost : ℚ
  restatedEffectiveCost : ℚ
  reasons : String
  restatementDetectedAt : Timestamp
  deriving DecidableEq

structure CostDb where
  costFact : Table FactKey FactRow
  costRestatements : List RestatementRow
  aggCostScopeServiceDay : Table ServiceDayKey AggregateRow
  aggCostScopeDay : Table ScopeDayKey AggregateRow

def CostDb.empty : CostDb := ⟨∅,[],∅,∅⟩

def march2026 : Date := ⟨2026,3,1,by decide⟩

def april2026 : Date := ⟨2026,4,1,by decide⟩

def usageLine (provider id serviceId : String) (day : Date) (amount : ℚ) : CostFact where
  id := id
  tenantId := "t-1"
  scopeId := "scope-1"
  resourceId := none
  provider := provider
  serviceId := serviceId
  chargePeriodStart := ⟨day,0⟩
  chargePeriodEnd := ⟨day,3600⟩
  billingPeriodStart := some day.firstOfMonth
  chargeCategory := .usage
  chargeSubcategory := none
  billedCost := .present amount
  effectiveCost := .present amount
  contractedCost := .absent .notApplicable
  listCost := .absent .notApplicable
  billingCurrency := "USD"
  pricingQuantity := .absent .notApplicable
  pricingUnit := none
  isRestated := false
  restatementVersion := 1
  restatementDetectedAt := none
  restatementReason := none
  createdAt := ⟨day,7200⟩

def roundCurrency (amount : ℚ) : ℚ := Decimal.quantize 2 amount

theorem dollars_length : "USD".length = 3 := rfl

def Measure.isPresent : Measure → Bool
  | .present _ => true
  | .absent _ => false

def Measure.valueOr (m : Measure) (default : ℚ) : ℚ := (measureVal m).getD default

end CloudLens.Cost
