import CloudLens.Library.Casing
import Mathlib.Data.List.Sort
import CloudLens.Attribution.Model

/-! The allocation rule engine. Rules are kept sorted by tier and priority and
the first active rule that matches a cost fact decides its rows; a fact that no
rule matches goes to the unallocated fallback. The rows always carry the whole
cost, since the last target of a split receives what the rounded shares left. -/
namespace CloudLens.Attribution
open Library Cost

inductive AllocationError where
  | splitTargetsMissing (ruleName : String)
  | splitTotalInvalid (ruleName : String) (total : ℚ)

structure AllocationRuleEngine where
  rules : List AllocationRule

def ruleTierRank : AllocationRuleType → ℕ
  | .directResource => 1
  | .tagRule => 2
  | .scopeRule => 3
  | .serviceRule => 4
  | .splitRule => 5
  | .unallocated => 6

def Precedes (a b : AllocationRule) : Prop :=
  ruleTierRank a.ruleType < ruleTierRank b.ruleType ∨
    (ruleTierRank a.ruleType = ruleTierRank b.ruleType ∧ a.priority ≤ b.priority)

instance : DecidableRel Precedes := fun a b =>
  inferInstanceAs (Decidable (ruleTierRank a.ruleType < ruleTierRank b.ruleType ∨
    (ruleTierRank a.ruleType = ruleTierRank b.ruleType ∧ a.priority ≤ b.priority)))

def sortRules (rules : List AllocationRule) : List AllocationRule := rules.insertionSort Precedes

def addRule (engine : AllocationRuleEngine) (rule : AllocationRule) : Except AllocationError AllocationRuleEngine :=
  if rule.ruleType = .splitRule ∧ rule.splitTargets = [] then .error (.splitTargetsMissing rule.name)
  else if rule.ruleType = .splitRule ∧ splitTotal rule.splitTargets ≠ 100 then
    .error (.splitTotalInvalid rule.name (splitTotal rule.splitTargets))
  else .ok ⟨sortRules (engine.rules ++ [rule])⟩

def engineOf (rules : List AllocationRule) : Except AllocationError AllocationRuleEngine :=
  rules.foldlM addRule ⟨[]⟩

def totalCost (fact : CostFact) : ℚ :=
  if fact.effectiveCost.isPresent then fact.effectiveCost.valueOr 0 else fact.billedCost.valueOr 0

def ruleRow (fact : CostFact) (rule : AllocationRule) (explanation : String) : AllocatedCostRow where
  costFactId := fact.id
  resourceId := fact.resourceId
  scopeId := fact.scopeId
  totalCost := totalCost fact
  allocatedAmount := totalCost fact
  currency := fact.billingCurrency
  costCenterCode := (configured rule.targetCostCenterCode).getD unallocatedKey
  businessUnitCode := rule.targetBusinessUnitCode
  projectCode := rule.targetProjectCode
  winningRuleType := rule.ruleType
  winningRuleId := some rule.id
  winningRuleName := rule.name
  ruleExplanation := explanation
  splitPercentage := some 100

def splitRow (fact : CostFact) (rule : AllocationRule) (target : AllocationSplitTarget) (share : ℚ) : AllocatedCostRow where
  costFactId := fact.id
  resourceId := fact.resourceId
  scopeId := fact.scopeId
  totalCost := totalCost fact
  allocatedAmount := share
  currency := fact.billingCurrency
  costCenterCode := target.costCenterCode
  businessUnitCode := target.businessUnitCode
  projectCode := rule.targetProjectCode
  winningRuleType := .splitRule
  winningRuleId := some rule.id
  winningRuleName := rule.name
  ruleExplanation := "Split rule '" ++ rule.name ++ "' allocated " ++ target.percentageText ++ "% share to CostCenter '" ++
    target.costCenterCode ++ "'"
  splitPercentage := some target.percentage

/-- Every target but the last gets its rounded share, the last one the rest. -/
def splitRows (fact : CostFact) (rule : AllocationRule) (allocatedSoFar : ℚ) : List AllocationSplitTarget → List AllocatedCostRow
  | [] => []
  | [target] => [splitRow fact rule target (totalCost fact - allocatedSoFar)]
  | target :: next :: rest =>
    let share := roundCurrency (totalCost fact * (target.percentage / 100))
    splitRow fact rule target share :: splitRows fact rule (allocatedSoFar + share) (next :: rest)

def unallocatedRow (fact : CostFact) : AllocatedCostRow where
  costFactId := fact.id
  resourceId := fact.resourceId
  scopeId := fact.scopeId
  totalCost := totalCost fact
  allocatedAmount := totalCost fact
  currency := fact.billingCurrency
  costCenterCode := unallocatedKey
  businessUnitCode := none
  projectCode := none
  winningRuleType := .unallocated
  winningRuleId := none
  winningRuleName := "Default Unallocated Fallback"
  ruleExplanation := "No allocation rule matched this cost fact. Cost attributed to UNALLOCATED fallback. " ++
    "Unallocated costs are visible at all aggregation levels and never absorbed."
  splitPercentage := some 100

def directMatch (fact : CostFact) (resource : Option Resource) (rule : AllocationRule) : Option String :=
  (configured rule.matchResourceId).filter (fun id => resource.any (fun r => r.id = id) || fact.resourceId = some id)

def tagMatch (tags : List NormalizedTag) (rule : AllocationRule) : Option NormalizedTag :=
  match configured rule.matchTagKey with
  | none => none
  | some key => tags.find? (fun t => Text.lower t.normalizedKey = Text.lower key &&
      rule.matchTagValue.all (fun value => Text.lower (Text.stripped t.value) = Text.lower value))

def scopeMatch (fact : CostFact) (rule : AllocationRule) : Option String :=
  (configured rule.matchScopeId).filter (fun id => fact.scopeId = id)

def serviceMatch (service : Option Service) (rule : AllocationRule) : Option String :=
  match service with
  | none => none
  | some s =>
    if (configured rule.matchServiceId).any (fun id => s.id = id || Text.lower s.serviceCode = Text.lower id) then
      some ("service " ++ s.serviceCode)
    else if (configured rule.matchServiceCategory).any (fun category => s.category.value = category) then
      some ("service category " ++ s.category.value)
    else none

def splitMatch (fact : CostFact) (service : Option Service) (rule : AllocationRule) : Bool :=
  (configured rule.matchScopeId).all (fun id => fact.scopeId = id) &&
    (configured rule.matchServiceId).all (fun id => service.all (fun s => s.serviceCode = id))

def applyRule (fact : CostFact) (resource : Option Resource) (tags : List NormalizedTag) (service : Option Service)
    (rule : AllocationRule) : Option (List AllocatedCostRow) :=
  match rule.ruleType with
  | .directResource => (directMatch fact resource rule).map (fun id =>
      [ruleRow fact rule ("Direct resource assignment matched rule '" ++ rule.name ++ "' for resource '" ++ id ++ "'")])
  | .tagRule => (tagMatch tags rule).map (fun t =>
      [ruleRow fact rule ("Tag allocation rule '" ++ rule.name ++ "' matched tag '" ++ t.normalizedKey ++ "=" ++ t.value ++ "'")])
  | .scopeRule => (scopeMatch fact rule).map (fun id =>
      [ruleRow fact rule ("Scope allocation rule '" ++ rule.name ++ "' matched scope '" ++ id ++ "'")])
  | .serviceRule => (serviceMatch service rule).map (fun description =>
      [ruleRow fact rule ("Service allocation rule '" ++ rule.name ++ "' matched " ++ description)])
  | .splitRule => if splitMatch fact service rule then some (splitRows fact rule 0 rule.splitTargets) else none
  | .unallocated => none

def allocateCostFact (engine : AllocationRuleEngine) (fact : CostFact) (resource : Option Resource)
    (tags : List NormalizedTag) (service : Option Service) : List AllocatedCostRow :=
  ((engine.rules.filter AllocationRule.isActive).findSome? (applyRule fact resource tags service)).getD [unallocatedRow fact]

structure WonBy (rule : AllocationRule) (row : AllocatedCostRow) : Prop where
  ruleType : row.winningRuleType = rule.ruleType
  ruleId : row.winningRuleId = some rule.id
  ruleName : row.winningRuleName = rule.name

section Rows

variable {fact : CostFact} {rule : AllocationRule}

theorem splitRows_total (targets : List AllocationSplitTarget) (allocatedSoFar : ℚ) (nonempty : targets ≠ []) :
    ((splitRows fact rule allocatedSoFar targets).map AllocatedCostRow.allocatedAmount).sum =
      totalCost fact - allocatedSoFar := by
  induction targets generalizing allocatedSoFar with
  | nil => exact absurd rfl nonempty
  | cons target rest ih =>
    cases rest with
    | nil => simp [splitRows,splitRow]
    | cons next rest =>
      rw [splitRows,List.map_cons,List.sum_cons,ih _ (List.cons_ne_nil _ _)]
      simp only [splitRow]
      ring

theorem splitRows_won (split : rule.ruleType = .splitRule) (targets : List AllocationSplitTarget) (allocatedSoFar : ℚ) :
    ∀ row ∈ splitRows fact rule allocatedSoFar targets, WonBy rule row := by
  have won : ∀ target share, WonBy rule (splitRow fact rule target share) := by
    intro target share
    exact ⟨split.symm,rfl,rfl⟩
  induction targets generalizing allocatedSoFar with
  | nil =>
    intro row member
    cases member
  | cons target rest ih =>
    intro row member
    cases rest with
    | nil =>
      rw [List.mem_singleton.mp member]
      exact won target _
    | cons next rest =>
      rcases List.mem_cons.mp member with rfl | later
      · exact won target _
      · exact ih _ row later

theorem splitRows_ne_nil {targets : List AllocationSplitTarget} (allocatedSoFar : ℚ) (nonempty : targets ≠ []) :
    splitRows fact rule allocatedSoFar targets ≠ [] := by
  cases targets with
  | nil => exact absurd rfl nonempty
  | cons target rest => cases rest <;> simp [splitRows]

private theorem ruleRow_outcome {α : Type} {found : Option α} {describe : α → String} {rows : List AllocatedCostRow}
    (matched : found.map (fun x => [ruleRow fact rule (describe x)]) = some rows) :
    (rows.map AllocatedCostRow.allocatedAmount).sum = totalCost fact ∧ rows ≠ [] ∧ ∀ row ∈ rows, WonBy rule row := by
  obtain ⟨x,_,rfl⟩ := Option.map_eq_some_iff.mp matched
  refine ⟨by simp [ruleRow],List.cons_ne_nil _ _,?_⟩
  intro row member
  rw [List.mem_singleton.mp member]
  exact ⟨rfl,rfl,rfl⟩

theorem applyRule_outcome {resource : Option Resource} {tags : List NormalizedTag} {service : Option Service}
    {rows : List AllocatedCostRow} (matched : applyRule fact resource tags service rule = some rows) :
    (rows.map AllocatedCostRow.allocatedAmount).sum = totalCost fact ∧ rows ≠ [] ∧ ∀ row ∈ rows, WonBy rule row := by
  unfold applyRule at matched
  split at matched
  · exact ruleRow_outcome matched
  · exact ruleRow_outcome matched
  · exact ruleRow_outcome matched
  · exact ruleRow_outcome matched
  · rename_i split
    split at matched
    · cases matched
      refine ⟨?_,splitRows_ne_nil _ (rule.validSplit split).1,splitRows_won split _ _⟩
      rw [splitRows_total _ _ (rule.validSplit split).1,sub_zero]
    · cases matched
  · cases matched

end Rows

theorem addRule_ok (engine : AllocationRuleEngine) (rule : AllocationRule) :
    addRule engine rule = .ok ⟨sortRules (engine.rules ++ [rule])⟩ := by
  unfold addRule
  rw [if_neg,if_neg]
  · rintro ⟨split,total⟩
    exact total (rule.validSplit split).2
  · rintro ⟨split,missing⟩
    exact (rule.validSplit split).1 missing

theorem engineOf_ok (rules : List AllocationRule) :
    ∃ engine, engineOf rules = .ok engine ∧ engine.rules.Perm rules := by
  have extended : ∀ (more : List AllocationRule) (engine : AllocationRuleEngine), ∃ built,
      more.foldlM addRule engine = .ok built ∧ built.rules.Perm (engine.rules ++ more) := by
    intro more
    induction more with
    | nil =>
      intro engine
      exact ⟨engine,rfl,by simp⟩
    | cons rule more ih =>
      intro engine
      obtain ⟨built,folded,permuted⟩ := ih ⟨sortRules (engine.rules ++ [rule])⟩
      refine ⟨built,?_,?_⟩
      · rw [List.foldlM_cons,addRule_ok]
        exact folded
      · have sorted : (sortRules (engine.rules ++ [rule])).Perm (engine.rules ++ [rule]) := List.perm_insertionSort _ _
        refine permuted.trans ((sorted.append_right more).trans ?_)
        rw [List.append_assoc,List.singleton_append]
  exact extended rules ⟨[]⟩

/-- The engine built from any valid rules returns, for every cost fact, rows
that sum to the cost of the fact and that all name one winning rule: an active
rule of the engine, or, in a single row, the unallocated fallback. -/
theorem allocation_conserves_cost (rules : List AllocationRule) :
    ∃ engine, engineOf rules = .ok engine ∧ engine.rules.Perm rules ∧
      ∀ (fact : CostFact) (resource : Option Resource) (tags : List NormalizedTag) (service : Option Service),
        ((allocateCostFact engine fact resource tags service).map AllocatedCostRow.allocatedAmount).sum = totalCost fact ∧
        allocateCostFact engine fact resource tags service ≠ [] ∧
        ((∃ rule ∈ engine.rules, rule.isActive ∧ ∀ row ∈ allocateCostFact engine fact resource tags service, WonBy rule row) ∨
          allocateCostFact engine fact resource tags service = [unallocatedRow fact]) := by
  obtain ⟨engine,built,permuted⟩ := engineOf_ok rules
  refine ⟨engine,built,permuted,?_⟩
  intro fact resource tags service
  unfold allocateCostFact
  cases found : (engine.rules.filter AllocationRule.isActive).findSome? (applyRule fact resource tags service) with
  | none =>
    rw [Option.getD_none]
    exact ⟨by simp [unallocatedRow],List.cons_ne_nil _ _,Or.inr rfl⟩
  | some rows =>
    rw [Option.getD_some]
    obtain ⟨rule,member,matched⟩ := List.exists_of_findSome?_eq_some found
    obtain ⟨inside,active⟩ := List.mem_filter.mp member
    obtain ⟨total,nonempty,won⟩ := applyRule_outcome matched
    exact ⟨total,nonempty,Or.inl ⟨rule,inside,active,won⟩⟩

end CloudLens.Attribution
