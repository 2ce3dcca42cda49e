import CloudLens.Pricing.Model
import Mathlib.Algebra.BigOperators.Group.List.Basic
import Mathlib.Algebra.Order.Ring.Rat
import Mathlib.Data.List.Induction
import Mathlib.Tactic.Linarith

/-! The two tier calculators: the one the pricing models carry and the one the
calculation rules apply. Both walk graduated brackets alike. For volume pricing
one scans the brackets backwards and the other forwards; they find the same
bracket, and differ only below every bracket, where just one charges a fee. -/
namespace CloudLens.Pricing

structure TierStepDerivation where
  bracketIndex : ℕ
  tierStart : ℚ
  tierEnd : Option ℚ
  bracketRate : ℚ
  unitsInBracket : ℚ
  flatFee : ℚ
  bracketSubtotal : ℚ
  deriving DecidableEq

def graduatedCost (totalCost remaining : ℚ) : List TierBracket → ℚ
  | [] => totalCost
  | bracket :: rest =>
    if remaining ≤ 0 then totalCost
    else
      let bracketCapacity := match bracket.tierEnd with
        | some tierEnd => tierEnd - bracket.tierStart
        | none => remaining
      let unitsInBracket := min remaining bracketCapacity
      graduatedCost (totalCost + (unitsInBracket * bracket.tierUnitRate + bracket.flatFee)) (remaining - unitsInBracket) rest

def TierStructure.calculateCost (tiers : TierStructure) (quantity : ℚ) : ℚ :=
  match tiers.brackets with
  | [] => 0
  | first :: rest =>
    if quantity ≤ 0 then 0
    else match tiers.pricingModel with
      | .volume =>
        match (first :: rest).reverse.find? (fun bracket => bracket.tierStart ≤ quantity) with
        | some bracket => quantity * bracket.tierUnitRate + bracket.flatFee
        | none => quantity * first.tierUnitRate
      | .graduated => graduatedCost 0 quantity (first :: rest)

def tierStep (index : ℕ) (bracket : TierBracket) (units : ℚ) : TierStepDerivation where
  bracketIndex := index
  tierStart := bracket.tierStart
  tierEnd := bracket.tierEnd
  bracketRate := bracket.tierUnitRate
  unitsInBracket := units
  flatFee := bracket.flatFee
  bracketSubtotal := units * bracket.tierUnitRate + bracket.flatFee

def flatStep (quantity rate : ℚ) : TierStepDerivation where
  bracketIndex := 0
  tierStart := 0
  tierEnd := none
  bracketRate := rate
  unitsInBracket := quantity
  flatFee := 0
  bracketSubtotal := quantity * rate

def walkBrackets (index : ℕ) (totalCost remaining : ℚ) (steps : List TierStepDerivation) :
    List TierBracket → ℚ × List TierStepDerivation
  | [] => (totalCost, steps)
  | bracket :: rest =>
    if remaining ≤ 0 then (totalCost, steps)
    else
      let units := match bracket.tierEnd with
        | some tierEnd => min remaining (tierEnd - bracket.tierStart)
        | none => remaining
      let subtotal := units * bracket.tierUnitRate + bracket.flatFee
      walkBrackets (index + 1) (totalCost + subtotal) (remaining - units) (steps ++ [tierStep index bracket units]) rest

def qualifyingBracket (quantity : ℚ) (first : TierBracket) (brackets : List TierBracket) : TierBracket :=
  brackets.foldl (fun qualifying bracket => if bracket.tierStart ≤ quantity then bracket else qualifying) first

def rule4TierCalculation (quantity : ℚ) (tierStructure : Option TierStructure) (defaultUnitRate : ℚ) :
    ℚ × List TierStepDerivation :=
  if quantity ≤ 0 then (0, [])
  else match tierStructure with
    | none => (quantity * defaultUnitRate, [flatStep quantity defaultUnitRate])
    | some tiers =>
      match tiers.brackets with
      | [] => (quantity * defaultUnitRate, [flatStep quantity defaultUnitRate])
      | first :: rest =>
        match tiers.pricingModel with
        | .volume =>
          let qualifying := qualifyingBracket quantity first (first :: rest)
          (quantity * qualifying.tierUnitRate + qualifying.flatFee,
            [tierStep ((first :: rest).idxOf qualifying) qualifying quantity])
        | .graduated => walkBrackets 0 0 quantity [] (first :: rest)

theorem walkBrackets_cost (brackets : List TierBracket) (index : ℕ) (totalCost remaining : ℚ) (steps : List TierStepDerivation) :
    (walkBrackets index totalCost remaining steps brackets).1 = graduatedCost totalCost remaining brackets := by
  induction brackets generalizing index totalCost remaining steps with
  | nil => rfl
  | cons bracket rest ih =>
    rw [walkBrackets,graduatedCost]
    split
    · rfl
    · rw [ih]
      cases bracket.tierEnd with
      | none => simp only [min_self]
      | some tierEnd => rfl

theorem walkBrackets_subtotals (brackets : List TierBracket) (index : ℕ) (totalCost remaining : ℚ) (steps : List TierStepDerivation)
    (explained : (steps.map TierStepDerivation.bracketSubtotal).sum = totalCost) :
    ((walkBrackets index totalCost remaining steps brackets).2.map TierStepDerivation.bracketSubtotal).sum =
      (walkBrackets index totalCost remaining steps brackets).1 := by
  induction brackets generalizing index totalCost remaining steps with
  | nil => exact explained
  | cons bracket rest ih =>
    rw [walkBrackets]
    split
    · exact explained
    · apply ih
      rw [List.map_append,List.sum_append,explained]
      simp [tierStep]

theorem rule4_subtotals (quantity : ℚ) (tierStructure : Option TierStructure) (defaultUnitRate : ℚ) :
    ((rule4TierCalculation quantity tierStructure defaultUnitRate).2.map TierStepDerivation.bracketSubtotal).sum =
      (rule4TierCalculation quantity tierStructure defaultUnitRate).1 := by
  unfold rule4TierCalculation
  split
  · rfl
  · split
    · simp [flatStep]
    · split
      · simp [flatStep]
      · split
        · simp [tierStep]
        · exact walkBrackets_subtotals _ 0 0 quantity [] rfl

theorem qualifyingBracket_eq_find (quantity : ℚ) (first : TierBracket) (brackets : List TierBracket) :
    qualifyingBracket quantity first brackets =
      (brackets.reverse.find? (fun bracket => bracket.tierStart ≤ quantity)).getD first := by
  induction brackets using List.reverseRecOn with
  | nil => rfl
  | append_singleton brackets last ih =>
    rw [qualifyingBracket,List.foldl_append,List.foldl_cons,List.foldl_nil,List.reverse_append,List.reverse_singleton,
      List.singleton_append,List.find?_cons]
    by_cases reached : last.tierStart ≤ quantity
    · simp [reached]
    · simp only [reached,decide_false,if_false]
      exact ih

/-- For every accepted tier structure with a bracket and every quantity the two
calculators return the same cost, unless a positive quantity of volume pricing
lies below every bracket and the first bracket carries a fee. -/
theorem tier_calculators_agree_iff (tiers : TierStructure) (first : TierBracket) (rest : List TierBracket)
    (shape : tiers.brackets = first :: rest) (quantity defaultUnitRate : ℚ) :
    (rule4TierCalculation quantity (some tiers) defaultUnitRate).1 = tiers.calculateCost quantity ↔
      ¬ (tiers.pricingModel = .volume ∧ 0 < quantity ∧ (∀ bracket ∈ tiers.brackets, quantity < bracket.tierStart) ∧
        first.flatFee ≠ 0) := by
  unfold rule4TierCalculation TierStructure.calculateCost
  simp only [shape]
  by_cases nonpositive : quantity ≤ 0
  · rw [if_pos nonpositive,if_pos nonpositive]
    have notPositive : ¬ 0 < quantity := not_lt.mpr nonpositive
    simp [notPositive]
  · rw [if_neg nonpositive,if_neg nonpositive]
    have positive : 0 < quantity := not_le.mp nonpositive
    cases model : tiers.pricingModel with
    | graduated =>
      simp only [reduceCtorEq,false_and,not_false_eq_true,iff_true]
      exact walkBrackets_cost (first :: rest) 0 0 quantity []
    | volume =>
      simp only [qualifyingBracket_eq_find,positive,true_and]
      cases found : (first :: rest).reverse.find? (fun bracket => bracket.tierStart ≤ quantity) with
      | some bracket =>
        have reached : bracket.tierStart ≤ quantity := by simpa using List.find?_some found
        have member : bracket ∈ first :: rest := List.mem_reverse.mp (List.mem_of_find?_eq_some found)
        simp only [Option.getD_some,true_iff]
        rintro ⟨below,_⟩
        exact absurd reached (not_le.mpr (below bracket member))
      | none =>
        have below : ∀ bracket ∈ first :: rest, quantity < bracket.tierStart := by
          intro bracket member
          have missed := List.find?_eq_none.mp found bracket (List.mem_reverse.mpr member)
          simpa using missed
        simp only [Option.getD_none,ne_eq,not_and,not_not]
        constructor
        · intro same _
          linarith
        · intro free
          rw [free below,add_zero]

def feeBracket (tierStart flatFee : ℚ) (start : 0 ≤ tierStart) (fee : 0 ≤ flatFee) : TierBracket where
  tierStart := tierStart
  tierEnd := none
  tierUnitRate := 1
  flatFee := flatFee
  startNonneg := start
  rateNonneg := by norm_num
  feeNonneg := fee

theorem ten_nonneg : (0:ℚ) ≤ 10 := by norm_num

theorem five_nonneg : (0:ℚ) ≤ 5 := by norm_num

theorem twenty_nonneg : (0:ℚ) ≤ 20 := by norm_num

theorem nothing_nonneg : (0:ℚ) ≤ 0 := le_rfl

def volumeFrom (bracket : TierBracket) : TierStructure := ⟨.volume,[bracket],rfl⟩

def volumeSteps : TierStructure :=
  ⟨.volume,[{ feeBracket 10 5 ten_nonneg five_nonneg with tierEnd := some 20 }, { feeBracket 10 5 ten_nonneg five_nonneg with
    tierStart := 20, startNonneg := twenty_nonneg, flatFee := 0, feeNonneg := nothing_nonneg }],by decide +kernel⟩

/-- The second of two brackets, found from both ends. -/
theorem tier_calculators_agree_at_twentyFive : volumeSteps.calculateCost 25 = 25 ∧
    (rule4TierCalculation 25 (some volumeSteps) 1).1 = volumeSteps.calculateCost 25 := by
  refine ⟨by decide +kernel,(tier_calculators_agree_iff volumeSteps _ _ rfl 25 1).mpr ?_⟩
  rintro ⟨_,_,below,_⟩
  have first := below _ List.mem_cons_self
  exact absurd first (by decide +kernel)

/-- One unit below a volume bracket that starts at ten with a fee of five costs
six under the calculation rule and one under the pricing model. -/
theorem tier_calculators_differ_below :
    (rule4TierCalculation 1 (some (volumeFrom (feeBracket 10 5 ten_nonneg five_nonneg))) 1).1 ≠
      (volumeFrom (feeBracket 10 5 ten_nonneg five_nonneg)).calculateCost 1 := by
  decide +kernel

end CloudLens.Pricing
