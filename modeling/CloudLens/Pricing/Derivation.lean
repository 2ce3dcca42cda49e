import CloudLens.Pricing.Calculation

/-! Whether a derivation explains the amount it is returned with. The commitment
saving is recorded but not carried into the amount, and the free allowance is
deducted in its own unit; the derivation explains the amount exactly when
neither of the two, nor the floor below zero, makes a difference. -/
namespace CloudLens.Pricing
open Library

def SameCurrency (request : CostRequest) : Prop :=
  currencyCode request.priceQuote.pricing.pricingCurrency = currencyCode request.targetCurrency

def toPricingUnit (context : CalculationContext) (request : CostRequest) (quantity : ℚ) (unit : String) : Except ConversionError ℚ :=
  rule1UnitConversion context.units quantity unit request.priceQuote.pricing.pricingUnit request.durationHours

def commitmentSaving (request : CostRequest) : ℚ :=
  (rule7CommitmentApplication request.priceQuote.pricing.unitPrice request.commitmentInfo
    (runtimeHours request.durationHours)).savingsAmount

structure Explains (context : CalculationContext) (request : CostRequest) (calculation : CostCalculation) : Prop where
  amount : calculation.finalAmount = max calculation.derivation.minimumChargeAmount
    ((calculation.derivation.tierBreakdown.map TierStepDerivation.bracketSubtotal).sum -
      (if calculation.derivation.commitmentApplied.isSome then commitmentSaving request else 0) -
      calculation.derivation.discountAppliedAmount)
  quantity : ∃ converted, toPricingUnit context request request.quantity request.unit = .ok converted ∧
    ((calculation.derivation.freeAllowanceDeducted = 0 ∧ calculation.derivation.netBillableQuantity = converted) ∨
      ∃ unit inPricingUnit, calculation.derivation.freeAllowanceUnit = some unit ∧
        toPricingUnit context request calculation.derivation.freeAllowanceDeducted unit = .ok inPricingUnit ∧
        calculation.derivation.netBillableQuantity + inPricingUnit = converted)

def discountedPrice (request : CostRequest) (converted : ℚ) : DiscountResult :=
  rule8DiscountApplication
    (rule4TierCalculation (rule5FreeAllowance converted request.priceQuote.pricing.freeAllowance).1
      request.priceQuote.pricing.tierStructure request.priceQuote.pricing.unitPrice).1
    request.activeDiscount none none

def SavingIrrelevant (request : CostRequest) (converted : ℚ) : Prop :=
  let price := (discountedPrice request converted).discountedSubtotal
  let floor := request.priceQuote.pricing.minimumCharge
  price = floor ∨ (price < floor ∧ 0 < floor) ∨ (floor < price ∧ commitmentSaving request = 0)

def AllowanceInPricingUnit (context : CalculationContext) (request : CostRequest) (converted : ℚ) : Prop :=
  let deducted := (rule5FreeAllowance converted request.priceQuote.pricing.freeAllowance).2
  deducted = 0 ∨ ∃ allowance, request.priceQuote.pricing.freeAllowance = some allowance ∧
    toPricingUnit context request deducted allowance.unit = .ok deducted

def EverythingCarried (context : CalculationContext) (request : CostRequest) : Prop :=
  ∃ converted, toPricingUnit context request request.quantity request.unit = .ok converted ∧
    SavingIrrelevant request converted ∧ AllowanceInPricingUnit context request converted

section Rules

theorem rule5_total (quantity : ℚ) (freeAllowance : Option FreeAllowance) :
    (rule5FreeAllowance quantity freeAllowance).1 + (rule5FreeAllowance quantity freeAllowance).2 = quantity := by
  unfold rule5FreeAllowance
  split
  · exact add_zero quantity
  · split
    · exact add_zero quantity
    · split
      · exact zero_add quantity
      · exact sub_add_cancel quantity _

theorem rule7_saving_nonneg (rate hours : ℚ) (commitmentInfo : Option CommitmentInfo) :
    0 ≤ (rule7CommitmentApplication rate commitmentInfo hours).savingsAmount := by
  unfold rule7CommitmentApplication
  split
  · exact le_refl 0
  · split
    · exact le_refl 0
    · exact le_max_left _ _

theorem rule7_saving_unreferenced (rate hours : ℚ) (commitmentInfo : Option CommitmentInfo) :
    (if (rule7CommitmentApplication rate commitmentInfo hours).commitmentReference.isSome then
      (rule7CommitmentApplication rate commitmentInfo hours).savingsAmount else 0) =
      (rule7CommitmentApplication rate commitmentInfo hours).savingsAmount := by
  unfold rule7CommitmentApplication
  split
  · rfl
  · split <;> rfl

theorem rule8_discounted (subtotal : ℚ) (discountInfo : Option DiscountInfo) :
    (rule8DiscountApplication subtotal discountInfo none none).discountedSubtotal =
      subtotal - (rule8DiscountApplication subtotal discountInfo none none).discountAmount := by
  unfold rule8DiscountApplication percentageDiscount
  split
  · rename_i impossible _
    cases impossible
  · split
    · exact (sub_zero subtotal).symm
    · split
      · rfl
      · exact (sub_zero subtotal).symm

theorem floor_eq_iff {price floor saving : ℚ} (nonneg : 0 ≤ saving) :
    (rule6MinimumCharge price floor).1 = max floor (price - saving) ↔
      (price = floor ∨ (price < floor ∧ 0 < floor) ∨ (floor < price ∧ saving = 0)) := by
  unfold rule6MinimumCharge
  by_cases raised : 0 < floor ∧ price < floor
  · rw [if_pos raised,max_eq_left (by linarith [raised.2])]
    exact ⟨fun _ => Or.inr (Or.inl ⟨raised.2,raised.1⟩),fun _ => rfl⟩
  · rw [if_neg raised]
    constructor
    · intro same
      have reached : floor ≤ price := le_trans (le_max_left _ _) same.symm.le
      rcases eq_or_lt_of_le reached with equal | above
      · exact Or.inl equal.symm
      · rcases max_cases floor (price - saving) with ⟨kept,_⟩ | ⟨kept,_⟩
        · rw [kept] at same
          exact absurd same above.ne'
        · rw [kept] at same
          exact Or.inr (Or.inr ⟨above,by linarith⟩)
    · intro either
      rcases either with equal | below | ⟨above,none⟩
      · rw [equal,max_eq_left (by linarith)]
      · exact absurd ⟨below.2,below.1⟩ raised
      · rw [none,sub_zero,max_eq_right above.le]

end Rules

theorem calculateCost_returns {context : CalculationContext} {request : CostRequest} {calculation : CostCalculation}
    (same : SameCurrency request) (returned : calculateCost context request = .ok calculation) :
    ∃ converted, toPricingUnit context request request.quantity request.unit = .ok converted ∧
      calculation.finalAmount = (rule6MinimumCharge (discountedPrice request converted).discountedSubtotal
        request.priceQuote.pricing.minimumCharge).1 ∧
      calculation.derivation.tierBreakdown =
        (rule4TierCalculation (rule5FreeAllowance converted request.priceQuote.pricing.freeAllowance).1
          request.priceQuote.pricing.tierStructure request.priceQuote.pricing.unitPrice).2 ∧
      calculation.derivation.netBillableQuantity = (rule5FreeAllowance converted request.priceQuote.pricing.freeAllowance).1 ∧
      calculation.derivation.freeAllowanceDeducted = (rule5FreeAllowance converted request.priceQuote.pricing.freeAllowance).2 ∧
      calculation.derivation.freeAllowanceUnit = request.priceQuote.pricing.freeAllowance.map FreeAllowance.unit ∧
      calculation.derivation.minimumChargeAmount = request.priceQuote.pricing.minimumCharge ∧
      calculation.derivation.discountAppliedAmount = (discountedPrice request converted).discountAmount ∧
      calculation.derivation.commitmentApplied = (rule7CommitmentApplication request.priceQuote.pricing.unitPrice
        request.commitmentInfo (runtimeHours request.durationHours)).commitmentReference := by
  cases conversion : toPricingUnit context request request.quantity request.unit with
  | error failed =>
    unfold toPricingUnit at conversion
    simp only [calculateCost,conversion] at returned
    cases returned
  | ok converted =>
    unfold toPricingUnit at conversion
    unfold SameCurrency at same
    simp only [calculateCost,conversion,Except.mapError,bind,Except.bind,rule2CurrencyConversion,if_pos same] at returned
    by_cases coded : (currencyCode request.priceQuote.pricing.pricingCurrency).length = 3
    · simp only [if_pos coded] at returned
      cases returned
      exact ⟨converted,rfl,rfl,rfl,rfl,rfl,rfl,rfl,rfl,rfl⟩
    · simp only [if_neg coded] at returned
      cases returned

theorem calculateCost_succeeds {context : CalculationContext} {request : CostRequest} {converted : ℚ} (same : SameCurrency request)
    (conversion : toPricingUnit context request request.quantity request.unit = .ok converted)
    (coded : (currencyCode request.priceQuote.pricing.pricingCurrency).length = 3) :
    ∃ calculation, calculateCost context request = .ok calculation := by
  unfold toPricingUnit at conversion
  unfold SameCurrency at same
  simp only [calculateCost,conversion,Except.mapError,bind,Except.bind,rule2CurrencyConversion,if_pos same,if_pos coded]
  exact ⟨_,rfl⟩

theorem allowance_adds_up_iff {context : CalculationContext} {request : CostRequest} {converted : ℚ} :
    (((rule5FreeAllowance converted request.priceQuote.pricing.freeAllowance).2 = 0 ∧
        (rule5FreeAllowance converted request.priceQuote.pricing.freeAllowance).1 = converted) ∨
      ∃ unit inPricingUnit, request.priceQuote.pricing.freeAllowance.map FreeAllowance.unit = some unit ∧
        toPricingUnit context request (rule5FreeAllowance converted request.priceQuote.pricing.freeAllowance).2 unit =
          .ok inPricingUnit ∧
        (rule5FreeAllowance converted request.priceQuote.pricing.freeAllowance).1 + inPricingUnit = converted) ↔
      AllowanceInPricingUnit context request converted := by
  have total := rule5_total converted request.priceQuote.pricing.freeAllowance
  unfold AllowanceInPricingUnit
  constructor
  · rintro (⟨none,_⟩ | ⟨unit,inPricingUnit,named,expressed,sum⟩)
    · exact Or.inl none
    · obtain ⟨allowance,stored,rfl⟩ := Option.map_eq_some_iff.mp named
      have unchanged : inPricingUnit = (rule5FreeAllowance converted request.priceQuote.pricing.freeAllowance).2 := by linarith
      rw [unchanged] at expressed
      exact Or.inr ⟨allowance,stored,expressed⟩
  · rintro (none | ⟨allowance,stored,expressed⟩)
    · exact Or.inl ⟨none,by linarith⟩
    · exact Or.inr ⟨allowance.unit,_,by rw [stored]; rfl,expressed,total⟩

/-- For every call that returns with same-currency pricing, the derivation
explains the amount and the quantity exactly when the commitment saving makes no
difference to the amount and the deducted allowance has the same measure in the
pricing unit. -/
theorem derivation_explains_amount_iff (context : CalculationContext) (request : CostRequest) (calculation : CostCalculation)
    (same : SameCurrency request) (returned : calculateCost context request = .ok calculation) :
    Explains context request calculation ↔ EverythingCarried context request := by
  obtain ⟨converted,conversion,final,breakdown,net,deducted,unit,minimum,discount,commitment⟩ :=
    calculateCost_returns same returned
  have amount : calculation.finalAmount = max calculation.derivation.minimumChargeAmount
      ((calculation.derivation.tierBreakdown.map TierStepDerivation.bracketSubtotal).sum -
        (if calculation.derivation.commitmentApplied.isSome then commitmentSaving request else 0) -
        calculation.derivation.discountAppliedAmount) ↔ SavingIrrelevant request converted := by
    have saved : (if calculation.derivation.commitmentApplied.isSome then commitmentSaving request else 0) =
        commitmentSaving request := by
      rw [commitment]
      exact rule7_saving_unreferenced _ _ _
    have carried : (calculation.derivation.tierBreakdown.map TierStepDerivation.bracketSubtotal).sum - commitmentSaving request -
        calculation.derivation.discountAppliedAmount =
        (discountedPrice request converted).discountedSubtotal - commitmentSaving request := by
      rw [breakdown,rule4_subtotals,discount,discountedPrice,rule8_discounted]
      ring
    rw [saved,carried,final,minimum]
    exact floor_eq_iff (rule7_saving_nonneg _ _ _)
  have quantity := @allowance_adds_up_iff context request converted
  rw [← net,← deducted,← unit] at quantity
  constructor
  · intro explained
    refine ⟨converted,conversion,amount.mp explained.amount,?_⟩
    obtain ⟨other,again,sum⟩ := explained.quantity
    rw [conversion] at again
    cases again
    exact quantity.mp sum
  · rintro ⟨other,again,irrelevant,shared⟩
    rw [conversion] at again
    cases again
    exact ⟨amount.mpr irrelevant,converted,conversion,quantity.mpr shared⟩

def hourlyQuote : ResolvedPriceQuote where
  pricingDimension := "DIM-03"
  queryDate := 0
  effectivePrice := 1
  rateTypeApplied := .list
  currency := "USD"
  unit := "hours"
  tier := none
  freeAllowance := none
  minimumCharge := 0
  recordId := "record"
  pricingSource := "catalog"

theorem noCommitment_nonneg : ∀ rate, (none : Option ℚ) = some rate → 0 ≤ rate := by
  intro rate absent
  cases absent

def savingsPlan : CommitmentInfo where
  commitmentType := "SAVINGS_PLAN"
  termMonths := 12
  paymentOption := "NO_UPFRONT"
  upfrontCost := 0
  hourlyCommitment := none
  upfrontNonneg := free_nonneg
  commitmentNonneg := noCommitment_nonneg

def monthOfHours (commitmentInfo : Option CommitmentInfo) : CostRequest where
  quantity := 730
  unit := "hours"
  priceQuote := .resolved hourlyQuote
  targetCurrency := "USD"
  durationHours := none
  discountInfo := none
  commitmentInfo := commitmentInfo
  evaluationDate := none

def emptyContext : CalculationContext where
  units := fun _ => none
  convertAtQueryTime := fun _ source target _ => .error (.exchangeRateMissing source target)
  today := Cost.march2026

theorem monthOfHours_sameCurrency (commitmentInfo : Option CommitmentInfo) : SameCurrency (monthOfHours commitmentInfo) := rfl

theorem monthOfHours_converted (commitmentInfo : Option CommitmentInfo) :
    toPricingUnit emptyContext (monthOfHours commitmentInfo) (monthOfHours commitmentInfo).quantity
      (monthOfHours commitmentInfo).unit = .ok 730 := by
  have equalUnits : sameUnit "hours" "hours" = true := by decide +kernel
  exact if_pos equalUnits

theorem hourly_derivation_explains :
    ∃ calculation, calculateCost emptyContext (monthOfHours none) = .ok calculation ∧
      Explains emptyContext (monthOfHours none) calculation := by
  obtain ⟨calculation,returned⟩ := calculateCost_succeeds (monthOfHours_sameCurrency none) (monthOfHours_converted none) (by decide +kernel)
  refine ⟨calculation,returned,(derivation_explains_amount_iff _ _ calculation (monthOfHours_sameCurrency none) returned).mpr ?_⟩
  exact ⟨730,monthOfHours_converted none,Or.inr (Or.inr (by decide +kernel)),Or.inl rfl⟩

/-- A month at one dollar an hour under a savings plan: the derivation records
the plan, whose saving is 219 dollars, but the amount stays at 730 dollars. -/
theorem savings_plan_not_carried :
    ∃ calculation, calculateCost emptyContext (monthOfHours (some savingsPlan)) = .ok calculation ∧
      ¬ Explains emptyContext (monthOfHours (some savingsPlan)) calculation := by
  obtain ⟨calculation,returned⟩ := calculateCost_succeeds (monthOfHours_sameCurrency (some savingsPlan))
    (monthOfHours_converted (some savingsPlan)) (by decide +kernel)
  refine ⟨calculation,returned,?_⟩
  obtain ⟨converted,conversion,final,breakdown,_,_,_,minimum,discount,commitment⟩ :=
    calculateCost_returns (monthOfHours_sameCurrency (some savingsPlan)) returned
  rw [monthOfHours_converted] at conversion
  cases conversion
  intro explained
  have amount := explained.amount
  rw [final,breakdown,minimum,discount,commitment] at amount
  revert amount
  decide +kernel

end CloudLens.Pricing
