import CloudLens.Cost.Facts
import CloudLens.Pricing.Tiers
import CloudLens.Pricing.Units

/-! The cost calculation engine: the chain of rules from the converted quantity
through the allowance, the tiers, the commitment, the discount and the minimum
charge to the final amount, with the derivation that is returned beside it. -/
namespace CloudLens.Pricing
open Library Library.Calendar Cost

inductive CalculationError where
  | conversion (error : ConversionError)
  | invalidCurrency (code : String)
  | exchangeRateMissing (fromCurrency toCurrency : String)

structure ConvertedCostFigure where
  originalAmount : ℚ
  originalCurrency : String
  targetAmount : ℚ
  targetCurrency : String
  exchangeRate : ℚ
  rateEffectiveDate : Date
  disclosure : String

structure CalculationContext where
  units : UnitCatalogue
  convertAtQueryTime : ℚ → String → String → Date → Except CalculationError ConvertedCostFigure
  today : Date

structure CostRequest where
  quantity : ℚ
  unit : String
  priceQuote : PriceQuote
  targetCurrency : String
  durationHours : Option ℚ
  discountInfo : Option DiscountInfo
  commitmentInfo : Option CommitmentInfo
  evaluationDate : Option Date

structure PricingAttributes where
  pricingUnit : String
  pricingCurrency : String
  pricingDimension : String
  pricingSource : String
  pricingSourceUrl : Option String
  recordId : String
  effectiveFrom : Instant
  rateTypeApplied : RateType
  unitPrice : ℚ
  tierStructure : Option TierStructure
  freeAllowance : Option FreeAllowance
  minimumCharge : ℚ
  quoteDiscount : Option DiscountInfo

def PriceQuote.pricing : PriceQuote → PricingAttributes
  | .resolved quote =>
    { pricingUnit := quote.unit
      pricingCurrency := quote.currency
      pricingDimension := quote.pricingDimension
      pricingSource := quote.pricingSource
      pricingSourceUrl := none
      recordId := quote.recordId
      effectiveFrom := quote.queryDate
      rateTypeApplied := quote.rateTypeApplied
      unitPrice := quote.effectivePrice
      tierStructure := quote.tier
      freeAllowance := quote.freeAllowance
      minimumCharge := quote.minimumCharge
      quoteDiscount := none }
  | .record stored =>
    { pricingUnit := stored.unit
      pricingCurrency := stored.currency
      pricingDimension := stored.pricingDimension
      pricingSource := stored.source
      pricingSourceUrl := stored.sourceUrl
      recordId := stored.id
      effectiveFrom := stored.effectiveFrom
      rateTypeApplied := stored.rateType
      unitPrice := stored.unitPrice
      tierStructure := stored.tier
      freeAllowance := stored.freeAllowance
      minimumCharge := stored.minimumCharge
      quoteDiscount := stored.discountInfo }

structure CostDerivation where
  rateApplied : ℚ
  rateTypeApplied : RateType
  pricingDimension : String
  pricingDimensionName : String
  quantityConsumed : ℚ
  unit : String
  tierStructureApplied : Bool
  tierBreakdown : List TierStepDerivation
  freeAllowanceDeducted : ℚ
  freeAllowanceUnit : Option String
  netBillableQuantity : ℚ
  minimumChargeApplied : Bool
  minimumChargeAmount : ℚ
  discountAppliedAmount : ℚ
  discountAppliedPercentage : ℚ
  discountReference : Option String
  commitmentApplied : Option String
  pricingSource : String
  pricingSourceUrl : Option String
  effectiveDate : Instant
  currency : String

structure EstimatedCost where
  amount : ℚ
  currency : String
  pricingRecordId : String
  pricingSource : String
  usageQuantity : ℚ
  usageUnit : String

structure CostCalculation where
  finalAmount : ℚ
  estimatedCost : EstimatedCost
  derivation : CostDerivation

def currencyCode (text : String) : String := Text.upper (Text.stripped text)

/-- The figure refuses a currency code that has not three characters. -/
def rule2CurrencyConversion (context : CalculationContext) (amount : ℚ) (fromCurrency toCurrency : String)
    (asOfDate : Option Date) : Except CalculationError ConvertedCostFigure :=
  if currencyCode fromCurrency = currencyCode toCurrency then
    if (currencyCode fromCurrency).length = 3 then
      .ok
        { originalAmount := amount
          originalCurrency := currencyCode fromCurrency
          targetAmount := amount
          targetCurrency := currencyCode toCurrency
          exchangeRate := 1
          rateEffectiveDate := asOfDate.getD context.today
          disclosure := "Amounts reported in native currency " ++ currencyCode fromCurrency ++ "." }
    else .error (.invalidCurrency (currencyCode fromCurrency))
  else context.convertAtQueryTime amount (currencyCode fromCurrency) (currencyCode toCurrency) (asOfDate.getD context.today)

def rule3Rounding (amount : ℚ) : ℚ := roundCurrency amount

def rule5FreeAllowance (quantity : ℚ) (freeAllowance : Option FreeAllowance) : ℚ × ℚ :=
  match freeAllowance with
  | none => (quantity, 0)
  | some allowance =>
    if allowance.quantity ≤ 0 then (quantity, 0)
    else if quantity ≤ allowance.quantity then (0, quantity)
    else (quantity - allowance.quantity, allowance.quantity)

def rule6MinimumCharge (subtotal minimumCharge : ℚ) : ℚ × Bool :=
  if 0 < minimumCharge ∧ subtotal < minimumCharge then (minimumCharge, true) else (subtotal, false)

def commitmentTerm (commitment : CommitmentInfo) : ℕ := if commitment.termMonths = 0 then 12 else commitment.termMonths

def commitmentRate (onDemandRate : ℚ) (commitment : CommitmentInfo) : ℚ :=
  let discountFraction : ℚ := if commitmentTerm commitment ≤ 12 then 3/10 else 1/2
  match commitment.hourlyCommitment with
  | some rate => if 0 < rate then rate else onDemandRate * (1 - discountFraction)
  | none => onDemandRate * (1 - discountFraction)

structure CommitmentResult where
  effectiveCost : ℚ
  savingsAmount : ℚ
  commitmentReference : Option String

def rule7CommitmentApplication (onDemandRate : ℚ) (commitmentInfo : Option CommitmentInfo) (runtimeHours : ℚ) : CommitmentResult :=
  match commitmentInfo with
  | none => ⟨onDemandRate * runtimeHours,0,none⟩
  | some commitment =>
    if commitment.commitmentType = "NONE" then ⟨onDemandRate * runtimeHours,0,none⟩
    else
      let committedCost := commitmentRate onDemandRate commitment * runtimeHours
      { effectiveCost := committedCost
        savingsAmount := max 0 (onDemandRate * runtimeHours - committedCost)
        commitmentReference := some (commitment.commitmentType ++ "_" ++ toString (commitmentTerm commitment) ++ "M_" ++
          commitment.paymentOption) }

structure DiscountResult where
  discountedSubtotal : ℚ
  discountAmount : ℚ
  discountPercent : ℚ

def percentageDiscount (subtotal : ℚ) (discountInfo : Option DiscountInfo) : DiscountResult :=
  match discountInfo with
  | none => ⟨subtotal,0,0⟩
  | some discount =>
    if 0 < discount.discountPercentage then
      ⟨subtotal - subtotal * (discount.discountPercentage / 100),subtotal * (discount.discountPercentage / 100),
        discount.discountPercentage⟩
    else ⟨subtotal,0,0⟩

def rule8DiscountApplication (subtotal : ℚ) (discountInfo : Option DiscountInfo) (contractedRate listRate : Option ℚ) : DiscountResult :=
  match contractedRate, listRate with
  | some contracted, some listed =>
    if 0 < listed ∧ contracted < listed then
      ⟨subtotal - subtotal * ((listed - contracted) / listed),subtotal * ((listed - contracted) / listed),
        (listed - contracted) / listed * 100⟩
    else percentageDiscount subtotal discountInfo
  | _, _ => percentageDiscount subtotal discountInfo

def runtimeHours (durationHours : Option ℚ) : ℚ := (durationHours.filter (· ≠ 0)).getD 730

def CostRequest.activeDiscount (request : CostRequest) : Option DiscountInfo :=
  request.discountInfo.or request.priceQuote.pricing.quoteDiscount

-- The result of the commitment rule only labels the derivation: the discount is taken on the whole subtotal.
def calculateCost (context : CalculationContext) (request : CostRequest) : Except CalculationError CostCalculation := do
  let pricing := request.priceQuote.pricing
  let convertedQty ← (rule1UnitConversion context.units request.quantity request.unit pricing.pricingUnit
    request.durationHours).mapError .conversion
  let (netBillableQty, allowanceDeducted) := rule5FreeAllowance convertedQty pricing.freeAllowance
  let (subtotalUnrounded, tierSteps) := rule4TierCalculation netBillableQty pricing.tierStructure pricing.unitPrice
  let effectiveSubtotal := subtotalUnrounded
  let commitment := rule7CommitmentApplication pricing.unitPrice request.commitmentInfo (runtimeHours request.durationHours)
  let discount := rule8DiscountApplication effectiveSubtotal request.activeDiscount none none
  let (finalPreCurrency, minApplied) := rule6MinimumCharge discount.discountedSubtotal pricing.minimumCharge
  let figure ← rule2CurrencyConversion context finalPreCurrency pricing.pricingCurrency request.targetCurrency request.evaluationDate
  return {
      finalAmount := figure.targetAmount
      estimatedCost :=
        { amount := rule3Rounding figure.targetAmount
          currency := request.targetCurrency
          pricingRecordId := pricing.recordId
          pricingSource := pricing.pricingSource
          usageQuantity := request.quantity
          usageUnit := request.unit }
      derivation :=
        { rateApplied := pricing.unitPrice
          rateTypeApplied := pricing.rateTypeApplied
          pricingDimension := pricing.pricingDimension
          pricingDimensionName := "Dimension " ++ pricing.pricingDimension
          quantityConsumed := request.quantity
          unit := request.unit
          tierStructureApplied := pricing.tierStructure.any (fun tiers => 0 < tiers.brackets.length)
          tierBreakdown := tierSteps
          freeAllowanceDeducted := allowanceDeducted
          freeAllowanceUnit := pricing.freeAllowance.map FreeAllowance.unit
          netBillableQuantity := netBillableQty
          minimumChargeApplied := minApplied
          minimumChargeAmount := pricing.minimumCharge
          discountAppliedAmount := discount.discountAmount
          discountAppliedPercentage := discount.discountPercent
          discountReference := request.activeDiscount.bind DiscountInfo.contractReference
          commitmentApplied := commitment.commitmentReference
          pricingSource := pricing.pricingSource
          pricingSourceUrl := pricing.pricingSourceUrl
          effectiveDate := pricing.effectiveFrom
          currency := request.targetCurrency } }

end CloudLens.Pricing
