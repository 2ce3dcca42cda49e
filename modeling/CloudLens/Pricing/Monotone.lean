import CloudLens.Pricing.Calculation
import CloudLens.Pricing.Conversion
import CloudLens.Pricing.Derivation
import CloudLens.Pricing.Graduated
import Mathlib.Data.List.MinMax

/-! Estimates grow with consumption. Each rule of the chain keeps the order of two
quantities: the conversion with its rounding, the allowance, the tiers, the discount, the
minimum charge and the exchange. The minimum charge bounds the estimate in the currency
it is charged in. An amount is exchanged at the newest rate that is in effect; a stored
rate was registered through its model, which admits positive rates between codes of three
characters. -/
namespace CloudLens.Pricing
open Library Library.Rising Library.Calendar Cost

structure CurrencyExchangeRate where
  fromCurrency : String
  toCurrency : String
  effectiveDate : Date
  rate : ℚ
  fromCode : fromCurrency.length = 3
  toCode : toCurrency.length = 3
  positive : 0 < rate

abbrev ExchangeRates : Type := List CurrencyExchangeRate

def getEffectiveRate (rates : ExchangeRates) (fromCurrency toCurrency : String) (asOfDate : Date) : Option CurrencyExchangeRate :=
  (rates.filter (fun record => record.fromCurrency = fromCurrency ∧ record.toCurrency = toCurrency ∧
    record.effectiveDate ≤ asOfDate)).argmax (fun record => record.effectiveDate.ordinal)

def rateText (rate : ℚ) : String :=
  let millionths := (Decimal.roundHalfAway (rate * 10^6)).toNat
  toString (millionths / 10^6) ++ "." ++ String.ofList ((toString (millionths % 10^6 + 10^6)).toList.drop 1)

def isoDate (date : Date) : String :=
  String.ofList (yearDigits date ++ '-' :: monthDigits date ++ '-' :: [Text.digitChar (date.day / 10), Text.digitChar date.day])

def convertAtQueryTime (rates : ExchangeRates) (amount : ℚ) (fromCurrency toCurrency : String) (asOfDate : Date) :
    Except CalculationError ConvertedCostFigure :=
  let source := Text.upper fromCurrency
  let target := Text.upper toCurrency
  if source = target then
    if source.length = 3 then
      .ok
        { originalAmount := amount
          originalCurrency := source
          targetAmount := amount
          targetCurrency := target
          exchangeRate := 1
          rateEffectiveDate := asOfDate
          disclosure := "Native currency: " ++ Decimal.fixed2 amount ++ " " ++ source ++ " (basis: BILLED)." }
    else .error (.invalidCurrency source)
  else match getEffectiveRate rates source target asOfDate with
    | none => .error (.exchangeRateMissing source target)
    | some record =>
      let targetAmount := Decimal.quantize 2 (amount * record.rate)
      .ok
        { originalAmount := amount
          originalCurrency := source
          targetAmount := targetAmount
          targetCurrency := target
          exchangeRate := record.rate
          rateEffectiveDate := record.effectiveDate
          disclosure := "Converted from " ++ Decimal.fixed2 amount ++ " " ++ source ++ " to " ++ Decimal.fixed2 targetAmount ++ " " ++
            target ++ " at effective rate " ++ rateText record.rate ++ " as of " ++ isoDate record.effectiveDate ++
            " (basis: BILLED, source: POSTGRESQL_EXCHANGE_RATES)." }

def engineContext (units : UnitCatalogue) (rates : ExchangeRates) (today : Date) : CalculationContext where
  units := units
  convertAtQueryTime := convertAtQueryTime rates
  today := today

def CostRequest.of (request : CostRequest) (quantity : ℚ) : CostRequest := { request with quantity := quantity }

structure Contiguous (tiers : TierStructure) : Prop where
  graduated : tiers.pricingModel = .graduated
  start : ∀ first ∈ tiers.brackets.head?, first.tierStart = 0
  meets : tiers.brackets.IsChain (fun a b => a.tierEnd = some b.tierStart)
  endless : ∃ last ∈ tiers.brackets.getLast?, last.tierEnd = none

/-- More consumption does not cost less, and no estimate is below zero or the minimum charge. -/
structure GrowsWithConsumption (context : CalculationContext) (request : CostRequest) : Prop where
  grows : ∀ fewer more low high, fewer ≤ more → calculateCost context (request.of fewer) = .ok low →
    calculateCost context (request.of more) = .ok high → low.finalAmount ≤ high.finalAmount
  nonneg : ∀ quantity calculation, calculateCost context (request.of quantity) = .ok calculation → 0 ≤ calculation.finalAmount
  floor : ∀ quantity calculation, calculateCost context (request.of quantity) = .ok calculation →
    request.priceQuote.pricing.minimumCharge ≤ calculation.finalAmount

section Rules

variable {pricing : PricingAttributes}

theorem rule5_mono (freeAllowance : Option FreeAllowance) :
    Monotone (fun quantity => (rule5FreeAllowance quantity freeAllowance).1) := by
  intro fewer more below
  dsimp only
  unfold rule5FreeAllowance
  cases freeAllowance with
  | none => exact below
  | some allowance =>
    by_cases empty : allowance.quantity ≤ 0
    · simp only [if_pos empty]
      exact below
    · simp only [if_neg empty]
      split_ifs with low high
      · exact le_refl 0
      · exact sub_nonneg.mpr (not_le.mp high).le
      · exact absurd (below.trans (by assumption)) low
      · exact sub_le_sub_right below _

theorem rule4_of_nonpos {quantity : ℚ} (nonpositive : quantity ≤ 0) (tierStructure : Option TierStructure) (rate : ℚ) :
    (rule4TierCalculation quantity tierStructure rate).1 = 0 := by
  unfold rule4TierCalculation
  rw [if_pos nonpositive]

theorem flat_mono {rate : ℚ} (nonneg : 0 ≤ rate) : Monotone (fun quantity => (rule4TierCalculation quantity none rate).1) := by
  intro fewer more below
  dsimp only
  unfold rule4TierCalculation
  split_ifs with low high
  · exact le_refl 0
  · exact mul_nonneg (not_le.mp high).le nonneg
  · exact absurd (below.trans (by assumption)) low
  · exact mul_le_mul_of_nonneg_right below nonneg

theorem Contiguous.held {tiers : TierStructure} (contiguous : Contiguous tiers)
    (forward : ∀ bracket ∈ tiers.brackets, bracket.Oriented) (quantity : ℚ) : QuantityHeld quantity tiers.brackets := by
  obtain ⟨last,final,none⟩ := contiguous.endless
  exact ⟨tiers.brackets,List.prefix_rfl,forward,Or.inr ⟨last,List.mem_of_getLast? final,none⟩⟩

theorem tiered_mono {tiers : TierStructure} (contiguous : Contiguous tiers)
    (forward : ∀ bracket ∈ tiers.brackets, bracket.Oriented) (rate : ℚ) :
    Monotone (fun quantity => (rule4TierCalculation quantity (some tiers) rate).1) := by
  intro fewer more below
  have some : tiers.brackets ≠ [] := by
    intro none
    obtain ⟨last,final,_⟩ := contiguous.endless
    rw [none] at final
    cases final
  dsimp only
  rw [rule4_graduated contiguous.graduated some,rule4_graduated contiguous.graduated some,walkBrackets_cost,walkBrackets_cost]
  exact graduatedCost_mono (le_refl 0) below (contiguous.held forward more)

theorem rule8_mono (discountInfo : Option DiscountInfo) :
    Monotone (fun subtotal => (rule8DiscountApplication subtotal discountInfo none none).discountedSubtotal) := by
  intro lower higher below
  dsimp only
  unfold rule8DiscountApplication percentageDiscount
  dsimp only
  cases discountInfo with
  | none => exact below
  | some discount =>
    have bounded := discount.percentageBounded
    dsimp only
    split
    · have kept : 0 ≤ 1 - discount.discountPercentage / 100 := by linarith
      have scaled := mul_le_mul_of_nonneg_right below kept
      dsimp only
      linarith
    · exact below

theorem rule8_nonneg {subtotal : ℚ} (start : 0 ≤ subtotal) (discountInfo : Option DiscountInfo) :
    0 ≤ (rule8DiscountApplication subtotal discountInfo none none).discountedSubtotal := by
  have zero : (rule8DiscountApplication 0 discountInfo none none).discountedSubtotal = 0 := by
    unfold rule8DiscountApplication percentageDiscount
    dsimp only
    split
    · rfl
    · split
      · norm_num
      · rfl
  have above := rule8_mono discountInfo start
  dsimp only at above
  rwa [zero] at above

theorem rule6_mono (minimumCharge : ℚ) : Monotone (fun subtotal => (rule6MinimumCharge subtotal minimumCharge).1) := by
  intro lower higher below
  dsimp only
  unfold rule6MinimumCharge
  split_ifs with low high
  · exact le_refl minimumCharge
  · exact not_lt.mp (fun less => high ⟨low.1,less⟩)
  · exact absurd ⟨by tauto,lt_of_le_of_lt below (by tauto)⟩ low
  · exact below

theorem rule6_floor {minimumCharge subtotal : ℚ} (minimum : 0 ≤ minimumCharge) (start : 0 ≤ subtotal) :
    minimumCharge ≤ (rule6MinimumCharge subtotal minimumCharge).1 := by
  unfold rule6MinimumCharge
  split
  · exact le_refl minimumCharge
  · rename_i kept
    rcases minimum.lt_or_eq with positive | zero
    · exact not_lt.mp (fun less => kept ⟨positive,less⟩)
    · rw [← zero]
      exact start

end Rules

section Estimate

variable {units : UnitCatalogue} {rates : ExchangeRates} {today : Date} {request : CostRequest}

theorem rule2_rises (units : UnitCatalogue) (rates : ExchangeRates) (today : Date) (fromCurrency toCurrency : String)
    (asOfDate : Option Date) : Rises (fun _ => True) (fun amount => (rule2CurrencyConversion (engineContext units rates today)
      amount fromCurrency toCurrency asOfDate).map ConvertedCostFigure.targetAmount) := by
  unfold rule2CurrencyConversion
  split
  · split
    · exact rises_ok monotone_id
    · exact rises_error _
  · unfold engineContext convertAtQueryTime
    dsimp only
    split
    · split
      · exact rises_ok monotone_id
      · exact rises_error _
    · split
      · exact rises_error _
      · rename_i record _
        have scaled : Monotone (fun amount : ℚ => amount * record.rate) :=
          fun _ _ below => mul_le_mul_of_nonneg_right below record.positive.le
        exact rises_ok ((Decimal.quantize_mono 2).comp scaled)

theorem rule2_nonneg {amount : ℚ} (start : 0 ≤ amount) {fromCurrency toCurrency : String} {asOfDate : Option Date}
    {figure : ConvertedCostFigure} (converted : rule2CurrencyConversion (engineContext units rates today)
      amount fromCurrency toCurrency asOfDate = .ok figure) : 0 ≤ figure.targetAmount := by
  unfold rule2CurrencyConversion at converted
  split at converted
  · split at converted
    · cases converted
      exact start
    · cases converted
  · unfold engineContext convertAtQueryTime at converted
    dsimp only at converted
    split at converted
    · split at converted
      · cases converted
        exact start
      · cases converted
    · split at converted
      · cases converted
      · rename_i record _
        cases converted
        exact Decimal.quantize_nonneg (mul_nonneg start record.positive.le)

def chargedAmount (request : CostRequest) (converted : ℚ) : ℚ :=
  (rule6MinimumCharge (discountedPrice request converted).discountedSubtotal request.priceQuote.pricing.minimumCharge).1

def toTarget (context : CalculationContext) (request : CostRequest) (amount : ℚ) : Except CalculationError ConvertedCostFigure :=
  rule2CurrencyConversion context amount request.priceQuote.pricing.pricingCurrency request.targetCurrency request.evaluationDate

theorem calculateCost_amount (context : CalculationContext) (request : CostRequest) :
    (calculateCost context request).map CostCalculation.finalAmount =
      ((toPricingUnit context request request.quantity request.unit).mapError .conversion).bind (fun converted =>
        (toTarget context request (chargedAmount request converted)).map ConvertedCostFigure.targetAmount) := by
  unfold toPricingUnit
  cases conversion : rule1UnitConversion context.units request.quantity request.unit request.priceQuote.pricing.pricingUnit
      request.durationHours with
  | error failed =>
    simp only [calculateCost,conversion]
    rfl
  | ok converted =>
    change _ = (toTarget context request (chargedAmount request converted)).map ConvertedCostFigure.targetAmount
    cases figure : toTarget context request (chargedAmount request converted) with
    | error failed =>
      unfold toTarget chargedAmount discountedPrice at figure
      simp only [calculateCost,conversion,Except.mapError,bind,Except.bind,figure]
      rfl
    | ok exchanged =>
      unfold toTarget chargedAmount discountedPrice at figure
      simp only [calculateCost,conversion,Except.mapError,bind,Except.bind,figure]
      rfl

theorem calculateCost_charged {context : CalculationContext} {calculation : CostCalculation}
    (returned : calculateCost context request = .ok calculation) :
    ∃ converted figure, toPricingUnit context request request.quantity request.unit = .ok converted ∧
      toTarget context request (chargedAmount request converted) = .ok figure ∧ calculation.finalAmount = figure.targetAmount ∧
      calculation.estimatedCost.amount = rule3Rounding figure.targetAmount := by
  unfold toPricingUnit
  cases conversion : rule1UnitConversion context.units request.quantity request.unit request.priceQuote.pricing.pricingUnit
      request.durationHours with
  | error failed =>
    simp only [calculateCost,conversion] at returned
    cases returned
  | ok converted =>
    refine ⟨converted,?_⟩
    cases exchanged : toTarget context request (chargedAmount request converted) with
    | error failed =>
      unfold toTarget chargedAmount discountedPrice at exchanged
      simp only [calculateCost,conversion,Except.mapError,bind,Except.bind,exchanged] at returned
      cases returned
    | ok figure =>
      unfold toTarget chargedAmount discountedPrice at exchanged
      simp only [calculateCost,conversion,Except.mapError,bind,Except.bind,exchanged] at returned
      cases returned
      exact ⟨figure,rfl,rfl,rfl,rfl⟩

/-- What the growth of an estimate rests on: positive unit sizes, a minimum
charge and a flat rate that are not negative, and brackets that cover every
quantity in order. -/
structure PricedForGrowth (units : UnitCatalogue) (request : CostRequest) : Prop where
  scales : PositiveScales units
  minimum : 0 ≤ request.priceQuote.pricing.minimumCharge
  flat : request.priceQuote.pricing.tierStructure = none → 0 ≤ request.priceQuote.pricing.unitPrice
  tiered : ∀ tiers ∈ request.priceQuote.pricing.tierStructure, Contiguous tiers ∧ ∀ bracket ∈ tiers.brackets, bracket.Oriented

theorem tierCharge_mono (priced : PricedForGrowth units request) :
    Monotone (fun quantity => (rule4TierCalculation quantity request.priceQuote.pricing.tierStructure
      request.priceQuote.pricing.unitPrice).1) := by
  cases structured : request.priceQuote.pricing.tierStructure with
  | none => exact flat_mono (priced.flat structured)
  | some tiers =>
    obtain ⟨contiguous,forward⟩ := priced.tiered tiers structured
    exact tiered_mono contiguous forward _

theorem tierCharge_nonneg (priced : PricedForGrowth units request) (quantity : ℚ) :
    0 ≤ (rule4TierCalculation quantity request.priceQuote.pricing.tierStructure request.priceQuote.pricing.unitPrice).1 := by
  rcases le_or_gt quantity 0 with nonpositive | positive
  · rw [rule4_of_nonpos nonpositive]
  · have above := tierCharge_mono priced positive.le
    dsimp only at above
    rwa [rule4_of_nonpos (le_refl 0)] at above

theorem chargedAmount_mono (priced : PricedForGrowth units request) : Monotone (chargedAmount request) := by
  have billable := rule5_mono request.priceQuote.pricing.freeAllowance
  exact (rule6_mono _).comp ((rule8_mono request.activeDiscount).comp ((tierCharge_mono priced).comp billable))

theorem chargedAmount_floor (priced : PricedForGrowth units request) (converted : ℚ) :
    request.priceQuote.pricing.minimumCharge ≤ chargedAmount request converted :=
  rule6_floor priced.minimum (rule8_nonneg (tierCharge_nonneg priced _) request.activeDiscount)

theorem calculateCost_rises (priced : PricedForGrowth units request) (rates : ExchangeRates) (today : Date) :
    Rises (Convertible request.unit request.priceQuote.pricing.pricingUnit)
      (fun quantity => (calculateCost (engineContext units rates today) (request.of quantity)).map CostCalculation.finalAmount) := by
  have stages := fun quantity => calculateCost_amount (engineContext units rates today) (request.of quantity)
  apply Rises.congr _ (fun quantity _ => stages quantity)
  have exchange := rule2_rises units rates today request.priceQuote.pricing.pricingCurrency request.targetCurrency
    request.evaluationDate
  have conversion := rule1_rises priced.scales request.unit request.priceQuote.pricing.pricingUnit request.durationHours
  exact (conversion.mapError CalculationError.conversion).bind (fun _ _ _ _ => trivial) (exchange.comp (chargedAmount_mono priced))

theorem of_convertible {quantity : ℚ} {calculation : CostCalculation}
    (returned : calculateCost (engineContext units rates today) (request.of quantity) = .ok calculation) :
    Convertible request.unit request.priceQuote.pricing.pricingUnit quantity := by
  obtain ⟨converted,_,conversion,_⟩ := calculateCost_charged returned
  exact convertible_of_rule1 conversion

structure Charged (context : CalculationContext) (request : CostRequest) (calculation : CostCalculation) : Prop where
  nonneg : 0 ≤ calculation.finalAmount ∧ 0 ≤ calculation.estimatedCost.amount
  floor : ∃ minimum, toTarget context request request.priceQuote.pricing.minimumCharge = .ok minimum ∧
    minimum.targetAmount ≤ calculation.finalAmount
  sameCurrency : SameCurrency request → request.priceQuote.pricing.minimumCharge ≤ calculation.finalAmount

theorem rule3_mono : Monotone rule3Rounding := Decimal.quantize_mono 2

theorem toTarget_sameCurrency {context : CalculationContext} {amount : ℚ} {figure : ConvertedCostFigure} (same : SameCurrency request)
    (exchanged : toTarget context request amount = .ok figure) : figure.targetAmount = amount := by
  unfold SameCurrency at same
  unfold toTarget rule2CurrencyConversion at exchanged
  rw [if_pos same] at exchanged
  split at exchanged
  · cases exchanged
    rfl
  · cases exchanged

theorem estimate_charged (priced : PricedForGrowth units request) {calculation : CostCalculation}
    (returned : calculateCost (engineContext units rates today) request = .ok calculation) :
    Charged (engineContext units rates today) request calculation := by
  obtain ⟨converted,figure,_,exchanged,final,rounded⟩ := calculateCost_charged returned
  have floor := chargedAmount_floor priced converted
  have start : 0 ≤ figure.targetAmount := rule2_nonneg (priced.minimum.trans floor) exchanged
  have exchange := rule2_rises units rates today request.priceQuote.pricing.pricingCurrency request.targetCurrency
    request.evaluationDate
  have high : (toTarget (engineContext units rates today) request (chargedAmount request converted)).map
      ConvertedCostFigure.targetAmount = .ok figure.targetAmount := by
    rw [exchanged]
    rfl
  refine ⟨?_,?_,?_⟩
  · rw [final,rounded]
    exact ⟨start,Decimal.quantize_nonneg start⟩
  · obtain ⟨least,low⟩ := (exchange.returns_iff trivial trivial).mpr ⟨_,high⟩
    cases charged : toTarget (engineContext units rates today) request request.priceQuote.pricing.minimumCharge with
    | error failed =>
      unfold toTarget at charged
      rw [charged] at low
      cases low
    | ok minimum =>
      have least : (toTarget (engineContext units rates today) request request.priceQuote.pricing.minimumCharge).map
          ConvertedCostFigure.targetAmount = .ok minimum.targetAmount := by
        rw [charged]
        rfl
      rw [final]
      exact ⟨minimum,rfl,exchange.le floor trivial trivial least high⟩
  · intro same
    rw [final,toTarget_sameCurrency same exchanged]
    exact floor

/-- Estimates over increasing quantities: the larger one does not cost less, every
one is charged at least the minimum, and quantities that are not negative are
estimated all or none. -/
structure EstimatesGrow (context : CalculationContext) (request : CostRequest) : Prop where
  grows : ∀ fewer more low high, fewer ≤ more → calculateCost context (request.of fewer) = .ok low →
    calculateCost context (request.of more) = .ok high →
    low.finalAmount ≤ high.finalAmount ∧ low.estimatedCost.amount ≤ high.estimatedCost.amount
  charged : ∀ quantity calculation, calculateCost context (request.of quantity) = .ok calculation →
    Charged context (request.of quantity) calculation
  together : ∀ fewer more, 0 ≤ fewer → 0 ≤ more →
    ((∃ low, calculateCost context (request.of fewer) = .ok low) ↔ ∃ high, calculateCost context (request.of more) = .ok high)

theorem map_ok_iff {α β Failure : Type} {result : Except Failure α} (f : α → β) :
    (∃ b, result.map f = .ok b) ↔ ∃ a, result = .ok a := by
  cases result with
  | error failed => exact ⟨nofun,nofun⟩
  | ok a => exact ⟨fun _ => ⟨a,rfl⟩,fun _ => ⟨f a,rfl⟩⟩

/-- For every catalogue with positive unit sizes, every set of exchange rates and
every request with a flat rate or contiguous brackets, estimates grow with
consumption and are charged at least the minimum, exchanged as they are. -/
theorem estimates_grow (units : UnitCatalogue) (rates : ExchangeRates) (today : Date) (request : CostRequest)
    (priced : PricedForGrowth units request) : EstimatesGrow (engineContext units rates today) request := by
  have rises := calculateCost_rises priced rates today
  refine ⟨?_,?_,?_⟩
  · intro fewer more low high below lower higher
    have ordered : low.finalAmount ≤ high.finalAmount := by
      apply rises.le below (of_convertible lower) (of_convertible higher)
      · rw [lower]
        rfl
      · rw [higher]
        rfl
    obtain ⟨_,_,_,_,lowFinal,lowRounded⟩ := calculateCost_charged lower
    obtain ⟨_,_,_,_,highFinal,highRounded⟩ := calculateCost_charged higher
    refine ⟨ordered,?_⟩
    rw [lowRounded,highRounded,← lowFinal,← highFinal]
    exact rule3_mono ordered
  · intro quantity calculation returned
    have kept : PricedForGrowth units (request.of quantity) := ⟨priced.scales,priced.minimum,priced.flat,priced.tiered⟩
    exact estimate_charged kept returned
  · intro fewer more startFewer startMore
    have both := rises.returns_iff (Or.inr startFewer) (Or.inr startMore)
    rwa [map_ok_iff,map_ok_iff] at both

end Estimate

def meteredRequest (tier : Option TierStructure) (unitPrice minimumCharge : ℚ) (unit targetCurrency : String) : CostRequest :=
  { monthOfHours none with
    unit := unit
    targetCurrency := targetCurrency
    priceQuote := .resolved { hourlyQuote with effectivePrice := unitPrice, tier := tier, minimumCharge := minimumCharge } }

def tenThenMore : TierStructure :=
  ⟨.graduated,[firstTen (some 10), plainBracket 10 none 1 ten_nonneg one_nonneg],by decide +kernel⟩

theorem nineTenths_positive : (0:ℚ) < 9 / 10 := by norm_num

def eurosForDollars : CurrencyExchangeRate where
  fromCurrency := "USD"
  toCurrency := "EUR"
  effectiveDate := march2026
  rate := 9 / 10
  fromCode := dollars_length
  toCode := rfl
  positive := nineTenths_positive

def countdown : UnitCatalogue := fun symbol =>
  if symbol = "hours" then some ⟨"hours",.time,1,0⟩
  else if symbol = "left" then some ⟨"left",.time,-1,10⟩
  else none

theorem tenThenMore_grows :
    EstimatesGrow (engineContext (fun _ => none) [] march2026) (meteredRequest (some tenThenMore) 1 5 "hours" "USD") := by
  apply estimates_grow
  refine ⟨nofun,?_,nofun,?_⟩
  · exact five_nonneg
  · intro tiers stored
    cases stored
    refine ⟨⟨rfl,?_,?_,?_⟩,?_⟩
    · intro first member
      cases member
      rfl
    · exact List.isChain_pair.mpr rfl
    · exact ⟨_,rfl,rfl⟩
    · intro bracket member tierEnd ended
      rcases List.mem_pair.mp member with rfl | rfl
      · cases ended
        exact ten_nonneg
      · cases ended

def finalAmount (context : CalculationContext) (request : CostRequest) (quantity : ℚ) : Option ℚ :=
  ((calculateCost context (request.of quantity)).map CostCalculation.finalAmount).toOption

theorem estimate_of_finalAmount {context : CalculationContext} {request : CostRequest} {quantity amount : ℚ}
    (final : finalAmount context request quantity = some amount) :
    ∃ calculation, calculateCost context (request.of quantity) = .ok calculation ∧ calculation.finalAmount = amount := by
  unfold finalAmount at final
  cases estimated : calculateCost context (request.of quantity) with
  | error failed =>
    rw [estimated] at final
    cases final
  | ok calculation =>
    rw [estimated] at final
    exact ⟨calculation,rfl,Option.some.inj final⟩

theorem not_grows_of_falling {context : CalculationContext} {request : CostRequest} {fewer more low high : ℚ} (below : fewer ≤ more)
    (lower : finalAmount context request fewer = some low) (higher : finalAmount context request more = some high)
    (falls : high < low) : ¬ GrowsWithConsumption context request := by
  intro growth
  obtain ⟨_,first,rfl⟩ := estimate_of_finalAmount lower
  obtain ⟨_,second,rfl⟩ := estimate_of_finalAmount higher
  exact absurd (growth.grows fewer more _ _ below first second) (not_le.mpr falls)

/-- A minimum of 100 dollars is 90 euros; a negative flat rate gives a negative
estimate; units that count down make more of them cost less; and a bracket that
ends before it starts takes back what the one before it charged. -/
theorem estimates_below_minimum_or_falling :
    ¬ GrowsWithConsumption (engineContext (fun _ => none) [eurosForDollars] march2026) (meteredRequest none 1 100 "hours" "EUR") ∧
      ¬ GrowsWithConsumption (engineContext (fun _ => none) [] march2026) (meteredRequest none (-1) 0 "hours" "USD") ∧
      ¬ GrowsWithConsumption (engineContext countdown [] march2026) (meteredRequest none 1 0 "left" "USD") ∧
      ¬ GrowsWithConsumption (engineContext (fun _ => none) [] march2026) (meteredRequest (some backwards) 1 0 "hours" "USD") := by
  refine ⟨?_,?_,?_,?_⟩
  · intro growth
    have ninety : finalAmount (engineContext (fun _ => none) [eurosForDollars] march2026)
        (meteredRequest none 1 100 "hours" "EUR") 0 = some 90 := by decide +kernel
    obtain ⟨_,returned,final⟩ := estimate_of_finalAmount ninety
    have floor := growth.floor _ _ returned
    rw [final] at floor
    exact absurd floor (by decide +kernel)
  · intro growth
    have negative : finalAmount (engineContext (fun _ => none) [] march2026)
        (meteredRequest none (-1) 0 "hours" "USD") 1 = some (-1) := by decide +kernel
    obtain ⟨_,returned,final⟩ := estimate_of_finalAmount negative
    have start := growth.nonneg _ _ returned
    rw [final] at start
    exact absurd start (by decide +kernel)
  · have ten : finalAmount (engineContext countdown [] march2026) (meteredRequest none 1 0 "left" "USD") 0 = some 10 := by
      decide +kernel
    have zero : finalAmount (engineContext countdown [] march2026) (meteredRequest none 1 0 "left" "USD") 10 = some 0 := by
      decide +kernel
    exact not_grows_of_falling ten_nonneg ten zero (by norm_num)
  · have ten : finalAmount (engineContext (fun _ => none) [] march2026)
        (meteredRequest (some backwards) 1 0 "hours" "USD") 10 = some 10 := by decide +kernel
    have negative : finalAmount (engineContext (fun _ => none) [] march2026)
        (meteredRequest (some backwards) 1 0 "hours" "USD") 20 = some (-475) := by decide +kernel
    exact not_grows_of_falling (by norm_num) ten negative (by norm_num)

end CloudLens.Pricing
