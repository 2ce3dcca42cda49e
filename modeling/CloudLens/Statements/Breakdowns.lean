import CloudLens.Statements.Generator

/-! The four breakdowns of a generated statement. Each one splits the direct cost
over the values of a dimension and states every part as a share of the net
total, so a statement comes out exactly when there is nothing to break down or
charges and credits do not cancel, and its parts then add up to the direct cost
but for the rounding of each part and of the whole. -/
namespace CloudLens.Statements
open Library

def factRows (input : GenerateInput) : List AllocatedFact := input.customFacts.getD buildSyntheticScopeFacts

def apportionmentsOf (input : GenerateInput) : List SharedServiceApportionmentItem :=
  input.sharedApportionments.getD buildDefaultSharedApportionment

def netTotal (input : GenerateInput) : ℚ :=
  roundCurrency (((factRows input).map AllocatedFact.billed).sum +
    ((apportionmentsOf input).map SharedServiceApportionmentItem.apportionedAmount).sum)

def StatesItsBasis (item : SharedServiceApportionmentItem) : Prop := Text.strip item.apportionmentBasis.toList ≠ []

def AddsUp (parts : List ℚ) (whole : ℚ) : Prop := |parts.sum - whole| ≤ parts.length * (1/200) + 1/200

structure BreakdownsAddUp (s : ShowbackStatement) : Prop where
  providers : AddsUp (s.providerBreakdown.map ProviderBreakdownItem.allocatedAmount) s.directAllocatedCost
  categories : AddsUp (s.categoryBreakdown.map CategoryBreakdownItem.allocatedAmount) s.directAllocatedCost
  applications : AddsUp (s.applicationBreakdown.map ApplicationBreakdownItem.allocatedAmount) s.directAllocatedCost
  environments : AddsUp (s.environmentBreakdown.map EnvironmentBreakdownItem.allocatedAmount) s.directAllocatedCost

theorem sum_totalsBy (key : AllocatedFact → String) (rows : List AllocatedFact) :
    ((totalsBy key rows).map Prod.snd).sum = (rows.map AllocatedFact.billed).sum := by
  have sorted := ((List.perm_insertionSort (fun a b : String × ℚ => b.2 ≤ a.2)
    ((Grouping.groupInto key rows).map (fun group => (group.1, (group.2.map AllocatedFact.billed).sum)))).map Prod.snd).sum_eq
  rw [totalsBy,sorted,List.map_map]
  exact Grouping.sum_groupInto AllocatedFact.billed key rows

theorem totalsBy_addsUp (key : AllocatedFact → String) (rows : List AllocatedFact) :
    AddsUp ((totalsBy key rows).map (fun total => roundCurrency total.2)) (roundCurrency (rows.map AllocatedFact.billed).sum) := by
  have parts := abs_le.mp (Decimal.sum_quantize_close 2 ((totalsBy key rows).map Prod.snd))
  have whole := abs_le.mp (Decimal.roundingError_le 2 (rows.map AllocatedFact.billed).sum)
  rw [sum_totalsBy,List.length_map,List.map_map] at parts
  norm_num [Decimal.halfUnit,Decimal.roundingError] at parts whole
  unfold AddsUp roundCurrency
  rw [List.length_map,abs_le]
  have amounts : (totalsBy key rows).map (fun total => Decimal.quantize 2 total.2) =
      (totalsBy key rows).map (Decimal.quantize 2 ∘ Prod.snd) := rfl
  rw [amounts]
  constructor <;> linarith [parts.1,parts.2,whole.1,whole.2]

theorem assembled_addUp (tenantId : String) (input : GenerateInput) (rows : List AllocatedFact)
    (apportionments : List SharedServiceApportionmentItem) :
    BreakdownsAddUp (assembleStatement tenantId input rows apportionments) := by
  refine ⟨?_,?_,?_,?_⟩
  all_goals
    simp only [assembleStatement,List.map_map]
    exact totalsBy_addsUp _ rows

theorem generateStatement_based {tenantId : String} {input : GenerateInput}
    (based : ∀ item ∈ apportionmentsOf input, StatesItsBasis item) :
    generateStatement tenantId input = if netTotal input = 0 ∧ factRows input ≠ [] then .error .zeroDivision
      else .ok (assembleStatement tenantId input (factRows input) (apportionmentsOf input)) := by
  have complete : (apportionmentsOf input).find? (fun item => Text.strip item.apportionmentBasis.toList = []) = none := by
    rw [List.find?_eq_none]
    intro item member
    rw [decide_eq_true_eq]
    exact based item member
  unfold apportionmentsOf at complete
  simp only [generateStatement,complete]
  rfl

/-- With a basis on every apportionment line a statement is generated, and its
breakdowns add up, exactly when there are no facts or the net total is not zero. -/
theorem statement_generated_iff {tenantId : String} {input : GenerateInput}
    (based : ∀ item ∈ apportionmentsOf input, StatesItsBasis item) :
    (∃ s, generateStatement tenantId input = .ok s ∧ BreakdownsAddUp s) ↔ factRows input = [] ∨ netTotal input ≠ 0 := by
  rw [generateStatement_based based]
  constructor
  · rintro ⟨s,generated,_⟩
    by_contra cancelled
    rw [not_or,not_not] at cancelled
    rw [if_pos ⟨cancelled.2,cancelled.1⟩] at generated
    cases generated
  · intro either
    have kept : ¬ (netTotal input = 0 ∧ factRows input ≠ []) := by
      rintro ⟨zero,some⟩
      rcases either with none | nonzero
      · exact some none
      · exact nonzero zero
    rw [if_neg kept]
    exact ⟨_,rfl,assembled_addUp tenantId input _ _⟩

def chargeAndCredit : GenerateInput :=
  { retailInput 0 100 90 with
    customFacts := some [⟨none,none,none,none,some 100,none,none⟩, ⟨some "GCP",none,none,none,some (-100),none,none⟩] }

private theorem no_apportionments {input : GenerateInput} (none : apportionmentsOf input = []) :
    ∀ item ∈ apportionmentsOf input, StatesItsBasis item := by
  rw [none]
  intro item member
  cases member

/-- A charge of one hundred and a credit that cancels it: no statement. -/
theorem cancelled_total_raises :
    ¬ ∀ (tenantId : String) (input : GenerateInput), (∀ item ∈ apportionmentsOf input, StatesItsBasis item) →
      ∃ s, generateStatement tenantId input = .ok s ∧ BreakdownsAddUp s := by
  intro always
  have based : ∀ item ∈ apportionmentsOf chargeAndCredit, StatesItsBasis item := no_apportionments rfl
  obtain ⟨s,generated,_⟩ := always "t-1" chargeAndCredit based
  have cancelled : netTotal chargeAndCredit = 0 ∧ factRows chargeAndCredit ≠ [] :=
    ⟨by decide +kernel,List.cons_ne_nil _ _⟩
  rw [generateStatement_based based,if_pos cancelled] at generated
  cases generated

theorem retail_statement_generated :
    ∃ s, generateStatement "t-1" (retailInput 100 120 90) = .ok s ∧ BreakdownsAddUp s :=
  (statement_generated_iff (no_apportionments rfl)).mpr (Or.inr (by decide +kernel))

end CloudLens.Statements
