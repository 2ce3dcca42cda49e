import CloudLens.Attribution.Order

/-! Split rules: how they share a cost and which costs they capture. Every
target but the last is rounded on its own and the last one takes what is left,
so the rows add up to the cent while the last share carries the rounding errors
of all the others. The predicates of a split rule are those of the scope and
service tiers, except that a service predicate passes when no service is given. -/
namespace CloudLens.Attribution
open Library Cost

def share (fact : CostFact) (target : AllocationSplitTarget) : ℚ := totalCost fact * target.percentage / 100

def roundedRow (fact : CostFact) (rule : AllocationRule) (target : AllocationSplitTarget) : AllocatedCostRow :=
  splitRow fact rule target (roundCurrency (totalCost fact * (target.percentage / 100)))

def FairShare (fact : CostFact) (target : AllocationSplitTarget) (row : AllocatedCostRow) : Prop :=
  0 ≤ row.allocatedAmount ∧ |row.allocatedAmount - share fact target| ≤ 1/100

structure ShareableCost (fact : CostFact) (rule : AllocationRule) : Prop where
  split : rule.ruleType = .splitRule
  percentages : ∀ target ∈ rule.splitTargets, 0 ≤ target.percentage
  cost : 0 ≤ totalCost fact
  cents : Decimal.AtScale 2 (totalCost fact)

structure ResidualShares (fact : CostFact) (targets : List AllocationSplitTarget) (rows : List AllocatedCostRow) : Prop where
  one_each : rows.length = targets.length
  rounded : List.Forall₂ (fun target row => 0 ≤ row.allocatedAmount ∧ |row.allocatedAmount - share fact target| ≤ 1/200)
    targets.dropLast rows.dropLast
  residual : ∀ row ∈ rows.getLast?, row.allocatedAmount =
    totalCost fact - (rows.dropLast.map AllocatedCostRow.allocatedAmount).sum
  close : ∀ target ∈ targets.getLast?, ∀ row ∈ rows.getLast?,
    |row.allocatedAmount - share fact target| ≤ (targets.length - 1) * (1/200)
  fair : targets.length ≤ 2 → List.Forall₂ (FairShare fact) targets rows

section Shares

variable {fact : CostFact} {rule : AllocationRule}

theorem splitRows_shape (earlier : List AllocationSplitTarget) (last : AllocationSplitTarget) (allocatedSoFar : ℚ) :
    splitRows fact rule allocatedSoFar (earlier ++ [last]) = earlier.map (roundedRow fact rule) ++
      [splitRow fact rule last (totalCost fact - (allocatedSoFar +
        ((earlier.map (roundedRow fact rule)).map AllocatedCostRow.allocatedAmount).sum))] := by
  induction earlier generalizing allocatedSoFar with
  | nil => simp [splitRows]
  | cons target earlier ih =>
    have more : ∃ next rest, earlier ++ [last] = next :: rest := by
      cases earlier with
      | nil => exact ⟨last,[],rfl⟩
      | cons next rest => exact ⟨next,rest ++ [last],rfl⟩
    obtain ⟨next,rest,shape⟩ := more
    rw [List.cons_append,shape,splitRows,← shape,ih]
    simp only [List.map_cons,List.cons_append,List.sum_cons,roundedRow,splitRow,add_assoc]

theorem roundedRow_close (target : AllocationSplitTarget) :
    |(roundedRow fact rule target).allocatedAmount - share fact target| ≤ 1/200 := by
  have bound := Decimal.roundingError_le 2 (totalCost fact * (target.percentage / 100))
  norm_num [Decimal.halfUnit] at bound
  have same : share fact target = totalCost fact * (target.percentage / 100) := mul_div_assoc _ _ _
  rw [same]
  exact bound

theorem roundedRow_nonneg {target : AllocationSplitTarget} (cost : 0 ≤ totalCost fact) (positive : 0 ≤ target.percentage) :
    0 ≤ (roundedRow fact rule target).allocatedAmount :=
  Decimal.quantize_nonneg (mul_nonneg cost (div_nonneg positive (by norm_num)))

theorem sum_rounded_close (targets : List AllocationSplitTarget) :
    |((targets.map (roundedRow fact rule)).map AllocatedCostRow.allocatedAmount).sum - (targets.map (share fact)).sum| ≤
      targets.length * (1/200) := by
  have amounts : (targets.map (roundedRow fact rule)).map AllocatedCostRow.allocatedAmount =
      (targets.map (share fact)).map (Decimal.quantize 2) := by
    rw [List.map_map,List.map_map]
    apply List.map_congr_left
    intro target _
    exact congrArg (Decimal.quantize 2) (mul_div_assoc _ _ _).symm
  have bound := Decimal.sum_quantize_close 2 (targets.map (share fact))
  norm_num [Decimal.halfUnit] at bound
  rw [amounts]
  norm_num
  exact bound

theorem sum_share {targets : List AllocationSplitTarget} (whole : splitTotal targets = 100) :
    (targets.map (share fact)).sum = totalCost fact := by
  have factored : (targets.map (share fact)).sum = totalCost fact / 100 * splitTotal targets := by
    unfold splitTotal
    rw [← List.sum_map_mul_left]
    congr 1
    apply List.map_congr_left
    intro target _
    unfold share
    ring
  rw [factored,whole]
  ring

theorem residual_close {earlier : List AllocationSplitTarget} {last : AllocationSplitTarget}
    (whole : splitTotal (earlier ++ [last]) = 100) :
    |(totalCost fact - ((earlier.map (roundedRow fact rule)).map AllocatedCostRow.allocatedAmount).sum) - share fact last| ≤
      earlier.length * (1/200) := by
  have total := @sum_share fact _ whole
  rw [List.map_append,List.sum_append,List.map_singleton,List.sum_singleton] at total
  have bound := @sum_rounded_close fact rule earlier
  rw [abs_sub_comm] at bound
  have same : totalCost fact - ((earlier.map (roundedRow fact rule)).map AllocatedCostRow.allocatedAmount).sum - share fact last =
      (earlier.map (share fact)).sum - ((earlier.map (roundedRow fact rule)).map AllocatedCostRow.allocatedAmount).sum := by
    linarith
  rw [same]
  exact bound

theorem residual_nonneg {target last : AllocationSplitTarget} (cost : 0 ≤ totalCost fact)
    (cents : Decimal.AtScale 2 (totalCost fact)) (positive : 0 ≤ last.percentage)
    (whole : splitTotal [target, last] = 100) : (roundedRow fact rule target).allocatedAmount ≤ totalCost fact := by
  refine Decimal.quantize_le cents ?_
  have sum : target.percentage + last.percentage = 100 := by simpa [splitTotal] using whole
  have most : target.percentage / 100 ≤ 1 := by
    rw [div_le_one (by norm_num)]
    linarith
  exact mul_le_of_le_one_right cost most

end Shares

/-- For every valid split rule and every cost in whole cents: each row but the
last is non-negative and within half a cent of its share, the last row is the
rest of the cost, within half a cent for every other row of its share, and with
at most two targets every row is non-negative and within a cent. -/
theorem split_shares_residual {fact : CostFact} {rule : AllocationRule} (shareable : ShareableCost fact rule)
    {resource : Option Resource} {tags : List NormalizedTag} {service : Option Service} {rows : List AllocatedCostRow}
    (applied : applyRule fact resource tags service rule = some rows) : ResidualShares fact rule.splitTargets rows := by
  have shown : rows = splitRows fact rule 0 rule.splitTargets := by
    rw [applyRule,shareable.split] at applied
    dsimp only at applied
    split at applied
    · exact (Option.some.inj applied).symm
    · cases applied
  obtain ⟨nonempty,whole⟩ := rule.validSplit shareable.split
  have percentages := shareable.percentages
  revert shown whole percentages
  generalize rule.splitTargets = targets at nonempty ⊢
  intro shown whole percentages
  obtain ⟨earlier,last,rfl⟩ : ∃ earlier last, targets = earlier ++ [last] :=
    ⟨targets.dropLast,targets.getLast nonempty,(List.dropLast_append_getLast nonempty).symm⟩
  rw [splitRows_shape,zero_add] at shown
  have close := @residual_close fact rule _ _ whole
  have each : ∀ target ∈ earlier, 0 ≤ (roundedRow fact rule target).allocatedAmount ∧
      |(roundedRow fact rule target).allocatedAmount - share fact target| ≤ 1/200 := by
    intro target member
    exact ⟨roundedRow_nonneg shareable.cost (percentages target (List.mem_append_left _ member)),roundedRow_close target⟩
  subst shown
  refine ⟨by simp,?_,?_,?_,?_⟩
  · rw [List.dropLast_concat,List.dropLast_concat,List.forall₂_map_right_iff,List.forall₂_same]
    exact each
  · intro row member
    rw [List.getLast?_concat,Option.mem_some_iff] at member
    rw [List.dropLast_concat,← member]
    rfl
  · intro target named row member
    rw [List.getLast?_concat,Option.mem_some_iff] at named member
    rw [← named,← member,List.length_append,List.length_singleton]
    push_cast
    rw [add_sub_cancel_right]
    exact close
  · intro few
    rw [List.length_append,List.length_singleton] at few
    have small : earlier.length ≤ 1 := by omega
    have cast : (earlier.length : ℚ) ≤ 1 := by exact_mod_cast small
    have rest : 0 ≤ totalCost fact - ((earlier.map (roundedRow fact rule)).map AllocatedCostRow.allocatedAmount).sum := by
      rcases earlier with - | ⟨target,others⟩
      · simpa using shareable.cost
      · have alone : others = [] := List.length_eq_zero_iff.mp (by simpa using small)
        subst alone
        have fits := @residual_nonneg fact rule target last shareable.cost shareable.cents
          (percentages last (by simp)) whole
        simpa using fits
    apply List.rel_append
    · rw [List.forall₂_map_right_iff,List.forall₂_same]
      intro target member
      exact ⟨(each target member).1,(each target member).2.trans (by norm_num)⟩
    · refine List.Forall₂.cons ⟨rest,close.trans ?_⟩ List.Forall₂.nil
      linarith

def splitRule (service : Option String) (targets : List AllocationSplitTarget)
    (valid : targets ≠ [] ∧ splitTotal targets = 100) : AllocationRule where
  id := "rule-split"
  name := "Platform"
  ruleType := .splitRule
  priority := 100
  matchResourceId := none
  matchTagKey := none
  matchTagValue := none
  matchScopeId := none
  matchServiceId := service
  matchServiceCategory := none
  targetCostCenterCode := none
  targetBusinessUnitCode := none
  targetProjectCode := none
  splitTargets := targets
  isActive := true
  validSplit := fun _ => valid

def halves : List AllocationSplitTarget := [⟨"CC-101",none,50,"50.0"⟩, ⟨"CC-102",none,50,"50.0"⟩]

def halvesAndNone : List AllocationSplitTarget := halves ++ [⟨"CC-103",none,0,"0.0"⟩]

theorem halves_valid : halves ≠ [] ∧ splitTotal halves = 100 := ⟨List.cons_ne_nil _ _,by decide +kernel⟩

theorem halvesAndNone_valid : halvesAndNone ≠ [] ∧ splitTotal halvesAndNone = 100 := ⟨List.cons_ne_nil _ _,by decide +kernel⟩

def threeCents : CostFact := usageLine "aws" "f-1" "ec2" march2026 (3/100)

private theorem threeCents_shareable {targets : List AllocationSplitTarget} (valid : targets ≠ [] ∧ splitTotal targets = 100)
    (positive : ∀ target ∈ targets, 0 ≤ target.percentage) : ShareableCost threeCents (splitRule none targets valid) :=
  ⟨rfl,positive,by decide +kernel,⟨3,by norm_num [threeCents,totalCost,usageLine,Measure.isPresent,Measure.valueOr,measureVal]⟩⟩

/-- Three cents shared in two halves and a target of no percent: both halves are
rounded up to two cents and the last row is minus one cent. -/
theorem residual_share_negative :
    ¬ ∀ (fact : CostFact) (rule : AllocationRule), ShareableCost fact rule →
      ∀ (resource : Option Resource) (tags : List NormalizedTag) (service : Option Service) (rows : List AllocatedCostRow),
        applyRule fact resource tags service rule = some rows → List.Forall₂ (FairShare fact) rule.splitTargets rows := by
  intro fair
  have positive : ∀ target ∈ halvesAndNone, 0 ≤ target.percentage := by decide +kernel
  have rows := fair threeCents _ (threeCents_shareable halvesAndNone_valid positive) none [] none _ rfl
  have last := (List.forall₂_iff_get.mp rows).2 2 (by decide +kernel) (by decide +kernel)
  exact absurd last.1 (by decide +kernel)

theorem three_cents_in_halves :
    ResidualShares threeCents halves (splitRows threeCents (splitRule none halves halves_valid) 0 halves) :=
  @split_shares_residual _ _ (threeCents_shareable halves_valid (by decide +kernel)) none [] none _ rfl

section Captures

def winner (engine : AllocationRuleEngine) (charge : Charge) : Option AllocationRule :=
  (activeRules engine.rules).find? (fun rule => (charge.applyRule rule).isSome)

/-- The comparison of the service tier: the identifier as it is, or the code in any case. -/
def NamedService (service : Service) (name : String) : Prop :=
  service.id = name ∨ Text.lower service.serviceCode = Text.lower name

structure Captures (rule : AllocationRule) (charge : Charge) : Prop where
  scope : ∀ id ∈ configured rule.matchScopeId, charge.fact.scopeId = id
  service : ∀ name ∈ configured rule.matchServiceId, ∃ s ∈ charge.service, NamedService s name

/-- A service is given when the rule names one, unless the rule is inactive or the scope is another. -/
def ServiceSupplied (rule : AllocationRule) (charge : Charge) : Prop :=
  charge.service.isSome ∨ configured rule.matchServiceId = none ∨ rule.isActive = false ∨
    ∃ id ∈ configured rule.matchScopeId, charge.fact.scopeId ≠ id

variable {rule : AllocationRule} {charge : Charge} {engine : AllocationRuleEngine}

theorem engineOf_singleton (rule : AllocationRule) : engineOf [rule] = .ok ⟨[rule]⟩ := by
  rw [engineOf,List.foldlM_cons,addRule_ok]
  rfl

theorem winner_cases (won : winner engine charge = some rule) : rule.isActive ∧ (charge.applyRule rule).isSome := by
  have member := List.mem_of_find?_eq_some won
  have answers := List.find?_some won
  exact ⟨(List.mem_filter.mp member).2,answers⟩

theorem applyRule_split (split : rule.ruleType = .splitRule) :
    (charge.applyRule rule).isSome ↔ splitMatch charge.fact charge.service rule = true := by
  unfold Charge.applyRule applyRule
  rw [split]
  dsimp only
  split <;> simp_all

theorem splitMatch_iff : splitMatch charge.fact charge.service rule = true ↔
    (∀ id ∈ configured rule.matchScopeId, charge.fact.scopeId = id) ∧
      ∀ name ∈ configured rule.matchServiceId, ∀ s ∈ charge.service, s.serviceCode = name := by
  unfold splitMatch
  rw [Bool.and_eq_true,Option.all_eq_true,Option.all_eq_true]
  simp only [decide_eq_true_eq,Option.all_eq_true]
  constructor
  · rintro ⟨scope,service⟩
    exact ⟨fun id named => scope id named,fun name named s given => service name named s given⟩
  · rintro ⟨scope,service⟩
    exact ⟨fun id named => scope id named,fun name named s given => service name named s given⟩

/-- A split rule that wins has captured a cost its predicates select, in every
engine, exactly when a service is given wherever the rule names one. -/
theorem split_captures_iff (split : rule.ruleType = .splitRule) :
    (∀ rules engine, engineOf rules = .ok engine → winner engine charge = some rule → Captures rule charge) ↔
      ServiceSupplied rule charge := by
  constructor
  · intro captures
    by_contra missing
    simp only [ServiceSupplied,not_or,Bool.not_eq_false,not_exists,not_and,not_not,Option.not_isSome_iff_eq_none] at missing
    obtain ⟨absent,names,active,scope⟩ := missing
    obtain ⟨name,named⟩ := Option.ne_none_iff_exists'.mp names
    have matched : splitMatch charge.fact charge.service rule = true := by
      rw [splitMatch_iff,absent]
      exact ⟨scope,fun _ _ s given => nomatch given⟩
    have alone : winner ⟨[rule]⟩ charge = some rule := by
      simp [winner,activeRules,active,(applyRule_split split).mpr matched]
    obtain ⟨s,given,_⟩ := (captures [rule] ⟨[rule]⟩ (engineOf_singleton rule) alone).service name named
    rw [absent] at given
    cases given
  · intro supplied rules engine _ won
    obtain ⟨active,answers⟩ := winner_cases won
    obtain ⟨scope,service⟩ := splitMatch_iff.mp ((applyRule_split split).mp answers)
    refine ⟨scope,?_⟩
    intro name named
    rcases supplied with given | unnamed | inactive | ⟨id,configured,other⟩
    · obtain ⟨s,given⟩ := Option.isSome_iff_exists.mp given
      exact ⟨s,given,Or.inr (congrArg Text.lower (service name named s given))⟩
    · rw [unnamed] at named
      cases named
    · rw [inactive] at active
      cases active
    · exact absurd (scope id configured) other

def ec2Split : AllocationRule := splitRule (some "AmazonEC2") halves halves_valid

def unknownService : Charge := ⟨threeCents,none,[],none⟩

/-- A split rule for one service takes a cost whose service is not given. -/
theorem unknown_service_captured :
    ¬ ∀ (rule : AllocationRule) (charge : Charge) (rules : List AllocationRule) (engine : AllocationRuleEngine),
      rule.ruleType = .splitRule → engineOf rules = .ok engine → winner engine charge = some rule → Captures rule charge := by
  intro captures
  obtain ⟨s,given,_⟩ := (captures ec2Split unknownService [ec2Split] ⟨[ec2Split]⟩ rfl (engineOf_singleton _) rfl).service "AmazonEC2" rfl
  cases given

def knownService : Charge := ⟨threeCents,none,[],some ⟨"svc-1","AmazonEC2",.compute⟩⟩

theorem known_service_captured : winner ⟨[ec2Split]⟩ knownService = some ec2Split ∧ Captures ec2Split knownService :=
  ⟨rfl,(split_captures_iff rfl).mpr (Or.inl rfl) [ec2Split] ⟨[ec2Split]⟩ (engineOf_singleton _) rfl⟩

end Captures

end CloudLens.Attribution
