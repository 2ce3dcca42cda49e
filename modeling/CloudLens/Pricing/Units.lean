import CloudLens.Library.Decimal
import CloudLens.Library.Casing

/-! Unit conversion through the unit catalogue. The catalogue is given by the
unit it finds for a symbol. Conversions within one dimension go through the base
unit; storage and time-storage are related by a duration. -/
namespace CloudLens.Pricing
open Library

/-- The catalogue stores the dimension as text, so a row may carry an unlisted one. -/
inductive Dimensionality where
  | digitalStorage
  | dataRate
  | time
  | timeStorage
  | computeCapacity
  | count
  | percentage
  | currency
  | unlisted (name : String)
  deriving DecidableEq

structure UnitDTO where
  symbol : String
  dimensionality : Dimensionality
  scaleFactorToBase : ℚ
  offsetToBase : ℚ

abbrev UnitCatalogue := String → Option UnitDTO

inductive ConversionError where
  | negativeValue
  | unsupportedSource (unit : String)
  | unsupportedDestination (unit : String)
  | nonPositiveDuration
  | missingReferenceUnit
  | divisionByZero
  | incompatibleUnits (fromUnit toUnit : String) (fromDim toDim : Dimensionality)

def standardBillingMonthHours : ℚ := 730

def rounded (decimalPlaces : Option ℕ) (value : ℚ) : ℚ :=
  match decimalPlaces with
  | some places => Decimal.quantize places value
  | none => value

def divide (numerator denominator : ℚ) : Except ConversionError ℚ :=
  if denominator = 0 then .error .divisionByZero else .ok (numerator / denominator)

def toBase (src : UnitDTO) (value : ℚ) : ℚ := (value - src.offsetToBase) * src.scaleFactorToBase

def ofBase (dst : UnitDTO) (base : ℚ) : Except ConversionError ℚ :=
  (divide base dst.scaleFactorToBase).map (· + dst.offsetToBase)

def effectiveDuration (durationHours : Option ℚ) : Except ConversionError ℚ :=
  if durationHours.getD standardBillingMonthHours ≤ 0 then .error .nonPositiveDuration
  else .ok (durationHours.getD standardBillingMonthHours)

def gigabyte (units : UnitCatalogue) : Except ConversionError UnitDTO :=
  match (units "GB").or (units "gib"), units "GB-hour" with
  | some unit, some _ => .ok unit
  | _, _ => .error .missingReferenceUnit

def storageToTimeStorage (units : UnitCatalogue) (src dst : UnitDTO) (value : ℚ) (durationHours : Option ℚ) :
    Except ConversionError ℚ := do
  let duration ← effectiveDuration durationHours
  let gb ← gigabyte units
  let gbVal ← divide (toBase src value) gb.scaleFactorToBase
  ofBase dst (gbVal * duration)

def timeStorageToStorage (units : UnitCatalogue) (src dst : UnitDTO) (value : ℚ) (durationHours : Option ℚ) :
    Except ConversionError ℚ := do
  let duration ← effectiveDuration durationHours
  let gb ← gigabyte units
  let gbVal ← divide (toBase src value) duration
  ofBase dst (gbVal * gb.scaleFactorToBase)

def convert (units : UnitCatalogue) (value : ℚ) (fromUnit toUnit : String) (durationHours : Option ℚ)
    (decimalPlaces : Option ℕ) : Except ConversionError ℚ :=
  if value < 0 then .error .negativeValue
  else match units fromUnit, units toUnit with
    | none, _ => .error (.unsupportedSource fromUnit)
    | some _, none => .error (.unsupportedDestination toUnit)
    | some src, some dst =>
      if Text.lower src.symbol = Text.lower dst.symbol then .ok (rounded decimalPlaces value)
      else if src.dimensionality = dst.dimensionality then (ofBase dst (toBase src value)).map (rounded decimalPlaces)
      else if src.dimensionality = .digitalStorage ∧ dst.dimensionality = .timeStorage then
        (storageToTimeStorage units src dst value durationHours).map (rounded decimalPlaces)
      else if src.dimensionality = .timeStorage ∧ dst.dimensionality = .digitalStorage then
        (timeStorageToStorage units src dst value durationHours).map (rounded decimalPlaces)
      else .error (.incompatibleUnits fromUnit toUnit src.dimensionality dst.dimensionality)

def sameUnit (first second : String) : Bool := Text.lower (Text.stripped first) = Text.lower (Text.stripped second)

def rule1UnitConversion (units : UnitCatalogue) (quantity : ℚ) (fromUnit toUnit : String) (durationHours : Option ℚ) :
    Except ConversionError ℚ :=
  if sameUnit fromUnit toUnit then .ok quantity else convert units quantity fromUnit toUnit durationHours (some 6)

end CloudLens.Pricing
