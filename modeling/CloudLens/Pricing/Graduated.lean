import CloudLens.Pricing.Tiers
import Mathlib.Algebra.Order.BigOperators.Group.List
import Mathlib.Algebra.Order.Field.Basic
import Mathlib.Algebra.Order.Field.Rat

/-! Graduated brackets charge every unit once. The validator orders each bracket
after the one before it, but accepts a bracket that ends before it starts and a
last bracket that ends; a quantity is charged once exactly when some first
brackets that do neither hold it. -/
namespace CloudLens.Pricing

def TierBracket.Oriented (bracket : TierBracket) : Prop := ∀ tierEnd ∈ bracket.tierEnd, bracket.tierStart ≤ tierEnd

def TierBracket.width (bracket : TierBracket) : ℚ := (bracket.tierEnd.map (· - bracket.tierStart)).getD 0

def QuantityHeld (quantity : ℚ) (brackets : List TierBracket) : Prop :=
  ∃ filled, filled <+: brackets ∧ (∀ bracket ∈ filled, bracket.Oriented) ∧
    (quantity ≤ (filled.map TierBracket.width).sum ∨ ∃ bracket ∈ filled, bracket.tierEnd = none)

def StepWithin (step : TierStepDerivation) : Prop :=
  0 ≤ step.unitsInBracket ∧ ∀ tierEnd ∈ step.tierEnd, step.unitsInBracket ≤ tierEnd - step.tierStart

/-- Every unit is charged once, and no smaller quantity costs more. -/
structure ChargesOnce (tiers : TierStructure) (defaultUnitRate quantity : ℚ) : Prop where
  within : ∀ step ∈ (rule4TierCalculation quantity (some tiers) defaultUnitRate).2, StepWithin step
  units : ((rule4TierCalculation quantity (some tiers) defaultUnitRate).2.map TierStepDerivation.unitsInBracket).sum = quantity
  subtotals : (rule4TierCalculation quantity (some tiers) defaultUnitRate).1 =
    ((rule4TierCalculation quantity (some tiers) defaultUnitRate).2.map TierStepDerivation.bracketSubtotal).sum
  monotone : ∀ smaller, 0 < smaller → smaller ≤ quantity →
    (rule4TierCalculation smaller (some tiers) defaultUnitRate).1 ≤ (rule4TierCalculation quantity (some tiers) defaultUnitRate).1

def bracketUnits (remaining : ℚ) (bracket : TierBracket) : ℚ :=
  match bracket.tierEnd with
  | some tierEnd => min remaining (tierEnd - bracket.tierStart)
  | none => remaining

section Brackets

variable {bracket : TierBracket} {brackets rest : List TierBracket} {remaining : ℚ}

theorem width_of_end {tierEnd : ℚ} (ended : bracket.tierEnd = some tierEnd) : bracket.width = tierEnd - bracket.tierStart := by
  simp [TierBracket.width,ended]

theorem TierBracket.Oriented.width_nonneg (oriented : bracket.Oriented) : 0 ≤ bracket.width := by
  unfold TierBracket.width
  cases ended : bracket.tierEnd with
  | none => exact le_refl 0
  | some tierEnd => exact sub_nonneg.mpr (oriented tierEnd ended)

theorem widths_nonneg (oriented : ∀ bracket ∈ brackets, bracket.Oriented) : 0 ≤ (brackets.map TierBracket.width).sum := by
  apply List.sum_nonneg
  intro width member
  obtain ⟨bracket,inside,rfl⟩ := List.mem_map.mp member
  exact (oriented bracket inside).width_nonneg

theorem holds_of_nonpos (nonpositive : remaining ≤ 0) (brackets : List TierBracket) : QuantityHeld remaining brackets :=
  ⟨[],List.nil_prefix,nofun,Or.inl nonpositive⟩

theorem not_holds_nil (positive : 0 < remaining) : ¬ QuantityHeld remaining [] := by
  rintro ⟨filled,initial,_,enough⟩
  rw [List.prefix_nil.mp initial] at enough
  rcases enough with below | ⟨_,absent,_⟩
  · exact absurd below (not_le.mpr positive)
  · cases absent

theorem bracketUnits_ended {tierEnd : ℚ} (ended : bracket.tierEnd = some tierEnd) (remaining : ℚ) :
    bracketUnits remaining bracket = min remaining (tierEnd - bracket.tierStart) := by
  simp only [bracketUnits,ended]

theorem bracketUnits_endless (endless : bracket.tierEnd = none) (remaining : ℚ) : bracketUnits remaining bracket = remaining := by
  simp only [bracketUnits,endless]

theorem bracketUnits_le (remaining : ℚ) (bracket : TierBracket) : bracketUnits remaining bracket ≤ remaining := by
  unfold bracketUnits
  split
  · exact min_le_left _ _
  · exact le_refl remaining

theorem TierBracket.Oriented.units_nonneg (oriented : bracket.Oriented) (start : 0 ≤ remaining) :
    0 ≤ bracketUnits remaining bracket := by
  unfold bracketUnits
  split
  · rename_i tierEnd ended
    exact le_min start (sub_nonneg.mpr (oriented tierEnd ended))
  · exact start

theorem holds_cons_iff (positive : 0 < remaining) :
    QuantityHeld remaining (bracket :: rest) ↔ bracket.Oriented ∧ QuantityHeld (remaining - bracketUnits remaining bracket) rest := by
  constructor
  · rintro ⟨filled,initial,oriented,enough⟩
    cases filled with
    | nil =>
      rcases enough with below | ⟨_,absent,_⟩
      · exact absurd below (not_le.mpr positive)
      · cases absent
    | cons first later =>
      obtain ⟨rfl,tail⟩ := List.cons_prefix_cons.mp initial
      obtain ⟨firstOriented,laterOriented⟩ := List.forall_mem_cons.mp oriented
      refine ⟨firstOriented,?_⟩
      have nonneg := widths_nonneg laterOriented
      cases ended : first.tierEnd with
      | none =>
        rw [bracketUnits_endless ended]
        exact holds_of_nonpos (sub_self remaining).le rest
      | some tierEnd =>
        refine ⟨later,tail,laterOriented,?_⟩
        rcases enough with below | ⟨endless,member,none⟩
        · rw [List.map_cons,List.sum_cons,width_of_end ended] at below
          left
          rw [bracketUnits_ended ended]
          rcases min_cases remaining (tierEnd - first.tierStart) with ⟨same,_⟩ | ⟨same,_⟩
          · rw [same,sub_self]
            exact nonneg
          · rw [same]
            linarith
        · rcases List.mem_cons.mp member with rfl | inside
          · rw [ended] at none
            cases none
          · exact Or.inr ⟨endless,inside,none⟩
  · rintro ⟨oriented,filled,initial,laterOriented,enough⟩
    refine ⟨bracket :: filled,List.cons_prefix_cons.mpr ⟨rfl,initial⟩,List.forall_mem_cons.mpr ⟨oriented,laterOriented⟩,?_⟩
    rcases enough with below | ⟨endless,inside,none⟩
    · cases ended : bracket.tierEnd with
      | none => exact Or.inr ⟨bracket,List.mem_cons_self,ended⟩
      | some tierEnd =>
        left
        have bounded := min_le_right remaining (tierEnd - bracket.tierStart)
        rw [bracketUnits_ended ended] at below
        rw [List.map_cons,List.sum_cons,width_of_end ended]
        linarith
    · exact Or.inr ⟨endless,List.mem_cons_of_mem bracket inside,none⟩

end Brackets

section Walk

variable {bracket : TierBracket} {brackets rest : List TierBracket} {remaining : ℚ}

def stepsFrom (index : ℕ) (remaining : ℚ) (brackets : List TierBracket) : List TierStepDerivation :=
  (walkBrackets index 0 remaining [] brackets).2

theorem walkBrackets_steps (brackets : List TierBracket) (index : ℕ) (totalCost remaining : ℚ) (steps : List TierStepDerivation) :
    (walkBrackets index totalCost remaining steps brackets).2 = steps ++ stepsFrom index remaining brackets := by
  unfold stepsFrom
  induction brackets generalizing index totalCost remaining steps with
  | nil => exact (List.append_nil steps).symm
  | cons bracket rest ih =>
    rw [walkBrackets,walkBrackets]
    split
    · exact (List.append_nil steps).symm
    · rw [ih,ih (index + 1) _ _ ([] ++ _),List.append_assoc]
      rfl

theorem stepsFrom_cons (index : ℕ) (positive : 0 < remaining) (bracket : TierBracket) (rest : List TierBracket) :
    stepsFrom index remaining (bracket :: rest) =
      tierStep index bracket (bracketUnits remaining bracket) ::
        stepsFrom (index + 1) (remaining - bracketUnits remaining bracket) rest := by
  unfold stepsFrom
  rw [walkBrackets,if_neg (not_le.mpr positive)]
  dsimp only
  rw [walkBrackets_steps]
  rfl

theorem stepsFrom_of_nonpos (index : ℕ) (nonpositive : remaining ≤ 0) (brackets : List TierBracket) :
    stepsFrom index remaining brackets = [] := by
  unfold stepsFrom
  cases brackets with
  | nil => rfl
  | cons bracket rest => rw [walkBrackets,if_pos nonpositive]

theorem graduatedCost_cons (totalCost : ℚ) (positive : 0 < remaining) (bracket : TierBracket) (rest : List TierBracket) :
    graduatedCost totalCost remaining (bracket :: rest) =
      graduatedCost (totalCost + (bracketUnits remaining bracket * bracket.tierUnitRate + bracket.flatFee))
        (remaining - bracketUnits remaining bracket) rest := by
  rw [graduatedCost,if_neg (not_le.mpr positive)]
  unfold bracketUnits
  cases bracket.tierEnd with
  | none => simp only [min_self]
  | some tierEnd => rfl

theorem graduatedCost_of_nonpos (totalCost : ℚ) (nonpositive : remaining ≤ 0) (brackets : List TierBracket) :
    graduatedCost totalCost remaining brackets = totalCost := by
  cases brackets with
  | nil => rfl
  | cons bracket rest => rw [graduatedCost,if_pos nonpositive]

theorem stepWithin_iff (index : ℕ) (remaining : ℚ) (bracket : TierBracket) :
    StepWithin (tierStep index bracket (bracketUnits remaining bracket)) ↔ 0 ≤ bracketUnits remaining bracket := by
  constructor
  · intro within
    exact within.1
  · intro nonneg
    refine ⟨nonneg,?_⟩
    intro tierEnd ended
    change bracketUnits remaining bracket ≤ _
    rw [bracketUnits_ended ended]
    exact min_le_right _ _

theorem stepsFrom_of_holds (index : ℕ) (start : 0 ≤ remaining) (held : QuantityHeld remaining brackets) :
    (∀ step ∈ stepsFrom index remaining brackets, StepWithin step) ∧
      ((stepsFrom index remaining brackets).map TierStepDerivation.unitsInBracket).sum = remaining := by
  induction brackets generalizing index remaining with
  | nil =>
    have zero : remaining = 0 := by
      rcases start.lt_or_eq with positive | same
      · exact absurd held (not_holds_nil positive)
      · exact same.symm
    rw [stepsFrom_of_nonpos index zero.le,zero]
    exact ⟨nofun,rfl⟩
  | cons bracket rest ih =>
    rcases start.lt_or_eq with positive | same
    · obtain ⟨oriented,later⟩ := (holds_cons_iff positive).mp held
      have left := sub_nonneg.mpr (bracketUnits_le remaining bracket)
      obtain ⟨within,total⟩ := ih (index + 1) left later
      rw [stepsFrom_cons index positive]
      refine ⟨List.forall_mem_cons.mpr ⟨(stepWithin_iff index remaining bracket).mpr (oriented.units_nonneg start),within⟩,?_⟩
      rw [List.map_cons,List.sum_cons,total]
      exact add_sub_cancel _ _
    · rw [stepsFrom_of_nonpos index same.symm.le,← same]
      exact ⟨nofun,rfl⟩

theorem holds_of_steps (index : ℕ) (within : ∀ step ∈ stepsFrom index remaining brackets, StepWithin step)
    (total : ((stepsFrom index remaining brackets).map TierStepDerivation.unitsInBracket).sum = remaining) :
    QuantityHeld remaining brackets := by
  induction brackets generalizing index remaining with
  | nil => exact holds_of_nonpos total.symm.le []
  | cons bracket rest ih =>
    rcases le_or_gt remaining 0 with nonpositive | positive
    · exact holds_of_nonpos nonpositive _
    · rw [stepsFrom_cons index positive] at within total
      obtain ⟨first,later⟩ := List.forall_mem_cons.mp within
      rw [List.map_cons,List.sum_cons] at total
      have nonneg := (stepWithin_iff index remaining bracket).mp first
      refine (holds_cons_iff positive).mpr ⟨?_,ih (index + 1) later (eq_sub_of_add_eq' total)⟩
      intro tierEnd ended
      rw [bracketUnits_ended ended] at nonneg
      exact sub_nonneg.mp (nonneg.trans (min_le_right _ _))

end Walk

section Monotone

variable {bracket : TierBracket} {brackets : List TierBracket} {smaller larger : ℚ}

theorem bracketUnits_mono (bracket : TierBracket) (below : smaller ≤ larger) :
    bracketUnits smaller bracket ≤ bracketUnits larger bracket := by
  unfold bracketUnits
  split
  · exact min_le_min_right _ below
  · exact below

theorem leftover_mono (bracket : TierBracket) (below : smaller ≤ larger) :
    smaller - bracketUnits smaller bracket ≤ larger - bracketUnits larger bracket := by
  cases ended : bracket.tierEnd with
  | none => rw [bracketUnits_endless ended,bracketUnits_endless ended,sub_self,sub_self]
  | some tierEnd =>
    rw [bracketUnits_ended ended,bracketUnits_ended ended,sub_le_iff_le_add]
    rcases min_cases smaller (tierEnd - bracket.tierStart) with ⟨same,_⟩ | ⟨same,_⟩
    · rw [same]
      linarith [min_le_left larger (tierEnd - bracket.tierStart)]
    · rw [same]
      linarith [min_le_right larger (tierEnd - bracket.tierStart)]

theorem bracketCharge_nonneg (oriented : bracket.Oriented) (start : 0 ≤ larger) :
    0 ≤ bracketUnits larger bracket * bracket.tierUnitRate + bracket.flatFee :=
  add_nonneg (mul_nonneg (oriented.units_nonneg start) bracket.rateNonneg) bracket.feeNonneg

theorem graduatedCost_mono {lowTotal highTotal : ℚ} (totals : lowTotal ≤ highTotal) (below : smaller ≤ larger)
    (held : QuantityHeld larger brackets) : graduatedCost lowTotal smaller brackets ≤ graduatedCost highTotal larger brackets := by
  induction brackets generalizing lowTotal highTotal smaller larger with
  | nil => exact totals
  | cons bracket rest ih =>
    rcases le_or_gt larger 0 with nonpositive | positive
    · rw [graduatedCost_of_nonpos _ nonpositive,graduatedCost_of_nonpos _ (below.trans nonpositive)]
      exact totals
    · obtain ⟨oriented,later⟩ := (holds_cons_iff positive).mp held
      rw [graduatedCost_cons highTotal positive]
      rcases le_or_gt smaller 0 with none | some
      · have left := sub_nonneg.mpr (bracketUnits_le larger bracket)
        have charge := bracketCharge_nonneg oriented positive.le
        rw [graduatedCost_of_nonpos _ none,← graduatedCost_of_nonpos lowTotal (le_refl 0) rest]
        exact ih (by linarith) left later
      · rw [graduatedCost_cons lowTotal some]
        apply ih _ (leftover_mono bracket below) later
        have units := mul_le_mul_of_nonneg_right (bracketUnits_mono bracket below) bracket.rateNonneg
        linarith

end Monotone

section Charging

variable {tiers : TierStructure} {defaultUnitRate quantity : ℚ}

theorem rule4_flat (positive : 0 < quantity) (none : tiers.brackets = []) :
    rule4TierCalculation quantity (some tiers) defaultUnitRate =
      (quantity * defaultUnitRate, [flatStep quantity defaultUnitRate]) := by
  unfold rule4TierCalculation
  rw [if_neg (not_le.mpr positive)]
  simp only [none]

theorem rule4_graduated (graduated : tiers.pricingModel = .graduated) (some : tiers.brackets ≠ []) (quantity : ℚ) :
    rule4TierCalculation quantity (.some tiers) defaultUnitRate = walkBrackets 0 0 quantity [] tiers.brackets := by
  unfold rule4TierCalculation
  cases shape : tiers.brackets with
  | nil => exact absurd shape some
  | cons first rest =>
    split
    · rename_i nonpositive
      rw [walkBrackets,if_pos nonpositive]
    · simp only [shape,graduated]

theorem flat_chargesOnce_iff (positive : 0 < quantity) (none : tiers.brackets = []) :
    ChargesOnce tiers defaultUnitRate quantity ↔ 0 ≤ defaultUnitRate := by
  constructor
  · intro once
    have half := once.monotone (quantity / 2) (half_pos positive) (half_le_self positive.le)
    rw [rule4_flat positive none,rule4_flat (half_pos positive) none] at half
    dsimp only at half
    by_contra negative
    have less := mul_neg_of_pos_of_neg positive (not_le.mp negative)
    linarith
  · intro nonneg
    refine ⟨?_,?_,(rule4_subtotals quantity (some tiers) defaultUnitRate).symm,?_⟩
    · rw [rule4_flat positive none]
      intro step member
      rw [List.mem_singleton.mp member]
      exact ⟨positive.le,nofun⟩
    · rw [rule4_flat positive none]
      exact List.sum_singleton
    · intro smaller start below
      rw [rule4_flat positive none,rule4_flat start none]
      exact mul_le_mul_of_nonneg_right below nonneg

theorem bracketed_chargesOnce_iff (graduated : tiers.pricingModel = .graduated) (some : tiers.brackets ≠ [])
    (positive : 0 < quantity) : ChargesOnce tiers defaultUnitRate quantity ↔ QuantityHeld quantity tiers.brackets := by
  have steps : (rule4TierCalculation quantity (.some tiers) defaultUnitRate).2 = stepsFrom 0 quantity tiers.brackets := by
    rw [rule4_graduated graduated some]
    rfl
  have cost : ∀ amount, (rule4TierCalculation amount (.some tiers) defaultUnitRate).1 = graduatedCost 0 amount tiers.brackets := by
    intro amount
    rw [rule4_graduated graduated some,walkBrackets_cost]
  constructor
  · intro once
    have within := once.within
    have units := once.units
    rw [steps] at within units
    exact holds_of_steps 0 within units
  · intro held
    obtain ⟨within,units⟩ := stepsFrom_of_holds 0 positive.le held
    rw [← steps] at within units
    refine ⟨within,units,(rule4_subtotals quantity (.some tiers) defaultUnitRate).symm,?_⟩
    intro smaller _ below
    rw [cost,cost]
    exact graduatedCost_mono (le_refl 0) below held

/-- For every accepted graduated structure and every positive quantity: each
unit is charged once and no smaller quantity costs more exactly when some first
brackets, none of which ends before it starts, hold the quantity; without
brackets, when the flat rate is not negative. -/
theorem graduated_charges_once_iff (tiers : TierStructure) (defaultUnitRate quantity : ℚ)
    (graduated : tiers.pricingModel = .graduated) (positive : 0 < quantity) :
    ChargesOnce tiers defaultUnitRate quantity ↔
      (tiers.brackets = [] ∧ 0 ≤ defaultUnitRate) ∨ QuantityHeld quantity tiers.brackets := by
  by_cases none : tiers.brackets = []
  · rw [flat_chargesOnce_iff positive none]
    constructor
    · intro nonneg
      exact Or.inl ⟨none,nonneg⟩
    · rintro (⟨_,nonneg⟩ | held)
      · exact nonneg
      · rw [none] at held
        exact absurd held (not_holds_nil positive)
  · rw [bracketed_chargesOnce_iff graduated none positive]
    constructor
    · exact Or.inr
    · rintro (⟨empty,_⟩ | held)
      · exact absurd empty none
      · exact held

end Charging

def plainBracket (tierStart : ℚ) (tierEnd : Option ℚ) (tierUnitRate : ℚ) (start : 0 ≤ tierStart) (rate : 0 ≤ tierUnitRate) :
    TierBracket where
  tierStart := tierStart
  tierEnd := tierEnd
  tierUnitRate := tierUnitRate
  flatFee := 0
  startNonneg := start
  rateNonneg := rate
  feeNonneg := free_nonneg

def firstTen (rest : Option ℚ) : TierBracket := plainBracket 0 rest 1 free_nonneg one_nonneg

def upToTen : TierStructure := ⟨.graduated,[firstTen (some 10)],rfl⟩

def backwards : TierStructure :=
  ⟨.graduated,[firstTen (some 10), plainBracket 10 (some 5) 100 ten_nonneg hundred_nonneg, plainBracket 5 none 1 five_nonneg one_nonneg],
    by decide +kernel⟩

def upToForty : TierStructure :=
  ⟨.graduated,[firstTen (some 10), plainBracket 10 (some 40) 100 ten_nonneg hundred_nonneg],by decide +kernel⟩

/-- Ten units at one and fifteen at a hundred. -/
theorem upToForty_charges_twentyFive : (rule4TierCalculation 25 (some upToForty) 1).1 = 1510 ∧ ChargesOnce upToForty 1 25 := by
  refine ⟨by decide +kernel,(graduated_charges_once_iff upToForty 1 25 rfl (by norm_num)).mpr (Or.inr ?_)⟩
  refine ⟨upToForty.brackets,List.prefix_rfl,?_,Or.inl (by decide +kernel)⟩
  intro bracket member tierEnd ended
  rcases List.mem_cons.mp member with rfl | member
  · cases ended
    exact ten_nonneg
  · obtain rfl := List.mem_singleton.mp member
    cases ended
    change (10 : ℚ) ≤ 40
    norm_num

/-- Ten of twenty units are charged, or five units are charged negatively; both structures are accepted. -/
theorem units_lost_or_negative : ¬ ChargesOnce upToTen 1 20 ∧ ¬ ChargesOnce backwards 1 20 := by
  constructor
  · intro once
    exact absurd once.units (by decide +kernel)
  · intro once
    have second := once.within (tierStep 1 (plainBracket 10 (some 5) 100 ten_nonneg hundred_nonneg) (-5)) (by decide +kernel)
    exact absurd second.1 (by decide +kernel)

end CloudLens.Pricing
