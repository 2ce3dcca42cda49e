import CloudLens.Attribution.Allocation
import CloudLens.Library.FirstMatch
import Mathlib.Data.Prod.Lex

/-! Order independence of first-match-wins. The engine sorts its rules after
every addition, so as long as no two active rules share a tier and a priority
the order of the additions is forgotten: the active rule that matches with the
least tier and priority decides, and rules behind it are never consulted. -/
namespace CloudLens.Attribution
open Library Cost

def rulePair (rule : AllocationRule) : ℕ ×ₗ ℤ := toLex (ruleTierRank rule.ruleType, rule.priority)

def activeRules (rules : List AllocationRule) : List AllocationRule := rules.filter AllocationRule.isActive

def DistinctPairs (rules : List AllocationRule) : Prop := ((activeRules rules).map rulePair).Nodup

instance (rules : List AllocationRule) : Decidable (DistinctPairs rules) := inferInstanceAs (Decidable (List.Nodup _))

structure Charge where
  fact : CostFact
  resource : Option Resource
  tags : List NormalizedTag
  service : Option Service

def Charge.applyRule (charge : Charge) (rule : AllocationRule) : Option (List AllocatedCostRow) :=
  CloudLens.Attribution.applyRule charge.fact charge.resource charge.tags charge.service rule

def Charge.rows (charge : Charge) (engine : AllocationRuleEngine) : List AllocatedCostRow :=
  allocateCostFact engine charge.fact charge.resource charge.tags charge.service

def Wins (rules : List AllocationRule) (charge : Charge) (winner : AllocationRule) (rows : List AllocatedCostRow) : Prop :=
  FirstMatch.Leads rulePair charge.applyRule (activeRules rules) winner rows

def Immaterial (rules : List AllocationRule) (charge : Charge) (rule : AllocationRule) : Prop :=
  rule.isActive = false ∨ ∃ winner rows, Wins rules charge winner rows ∧ rulePair winner < rulePair rule

theorem precedes_iff (a b : AllocationRule) : Precedes a b ↔ rulePair a ≤ rulePair b := by
  rw [rulePair,rulePair,Prod.Lex.le_iff]
  rfl

instance : Std.Total Precedes := ⟨fun a b => by
  rw [precedes_iff,precedes_iff]
  exact le_total _ _⟩

instance : IsTrans AllocationRule Precedes := ⟨fun a b c first second => by
  rw [precedes_iff] at first second ⊢
  exact first.trans second⟩

theorem sortRules_ordered (rules : List AllocationRule) : FirstMatch.Ordered rulePair (sortRules rules) := by
  have sorted := List.pairwise_insertionSort Precedes rules
  exact sorted.imp (fun before => (precedes_iff _ _).mp before)

theorem foldlM_addRule_ordered {rules : List AllocationRule} {engine built : AllocationRuleEngine}
    (ordered : FirstMatch.Ordered rulePair engine.rules) (folded : rules.foldlM addRule engine = .ok built) :
    FirstMatch.Ordered rulePair built.rules := by
  induction rules generalizing engine with
  | nil =>
    cases folded
    exact ordered
  | cons rule rest ih =>
    rw [List.foldlM_cons,addRule_ok] at folded
    exact ih (sortRules_ordered _) folded

theorem engineOf_ordered {rules : List AllocationRule} {engine : AllocationRuleEngine} (built : engineOf rules = .ok engine) :
    FirstMatch.Ordered rulePair (activeRules engine.rules) := by
  have ordered : FirstMatch.Ordered rulePair ([] : List AllocationRule) := List.Pairwise.nil
  exact (foldlM_addRule_ordered ordered built).filter _

theorem engineOf_perm {rules : List AllocationRule} {engine : AllocationRuleEngine} (built : engineOf rules = .ok engine) :
    engine.rules.Perm rules := by
  obtain ⟨other,same,permuted⟩ := engineOf_ok rules
  rw [built] at same
  cases same
  exact permuted

theorem activeRules_perm {rules others : List AllocationRule} (permuted : rules.Perm others) :
    (activeRules rules).Perm (activeRules others) := permuted.filter _

theorem wins_perm {rules others : List AllocationRule} {charge : Charge} {winner : AllocationRule}
    {rows : List AllocatedCostRow} (permuted : rules.Perm others) (wins : Wins rules charge winner rows) :
    Wins others charge winner rows := by
  have same := activeRules_perm permuted
  exact wins.of_subset (same.mem_iff.mp wins.member) (fun rule member => Or.inl (same.mem_iff.mpr member))

theorem distinct_engine {rules : List AllocationRule} {engine : AllocationRuleEngine} (distinct : DistinctPairs rules)
    (built : engineOf rules = .ok engine) : ((activeRules engine.rules).map rulePair).Nodup :=
  (((activeRules_perm (engineOf_perm built)).map rulePair).nodup_iff).mpr distinct

section Answers

variable {rules others : List AllocationRule} {engine other : AllocationRuleEngine}

theorem winner_or_fallback (distinct : DistinctPairs rules) (built : engineOf rules = .ok engine) (charge : Charge) :
    (∃ winner, Wins rules charge winner (charge.rows engine)) ∨
      ((∀ rule ∈ activeRules rules, charge.applyRule rule = none) ∧ charge.rows engine = [unallocatedRow charge.fact]) := by
  have permuted := engineOf_perm built
  have found : charge.rows engine = ((activeRules engine.rules).findSome? charge.applyRule).getD [unallocatedRow charge.fact] := rfl
  rcases FirstMatch.findSome?_cases (engineOf_ordered built) (distinct_engine distinct built)
    with ⟨winner,rows,leads,answer⟩ | ⟨silent,answer⟩
  · rw [found,answer]
    exact Or.inl ⟨winner,wins_perm permuted leads⟩
  · rw [found,answer]
    refine Or.inr ⟨?_,rfl⟩
    intro rule member
    exact silent rule ((activeRules_perm permuted).mem_iff.mpr member)

theorem rows_congr (distinct : DistinctPairs rules) (built : engineOf rules = .ok engine) (builtOther : engineOf others = .ok other)
    (charge : Charge) (gained : ∀ rule ∈ others, rule ∈ rules ∨ Immaterial rules charge rule)
    (lost : ∀ rule ∈ rules, rule ∈ others ∨ Immaterial rules charge rule) : charge.rows other = charge.rows engine := by
  have permuted := engineOf_perm built
  have permutedOther := engineOf_perm builtOther
  have beaten : ∀ rule, rule.isActive → Immaterial rules charge rule →
      ∃ winner rows, FirstMatch.Leads rulePair charge.applyRule (activeRules engine.rules) winner rows ∧
        rulePair winner < rulePair rule := by
    intro rule active immaterial
    rcases immaterial with inactive | ⟨winner,rows,wins,after⟩
    · rw [inactive] at active
      cases active
    · exact ⟨winner,rows,wins_perm permuted.symm wins,after⟩
  have answers : (activeRules other.rules).findSome? charge.applyRule = (activeRules engine.rules).findSome? charge.applyRule := by
    refine FirstMatch.findSome?_congr (engineOf_ordered built) (distinct_engine distinct built) (engineOf_ordered builtOther) ?_ ?_
    · intro rule member
      obtain ⟨inside,active⟩ := List.mem_filter.mp member
      rcases gained rule (permutedOther.mem_iff.mp inside) with kept | immaterial
      · exact Or.inl (List.mem_filter.mpr ⟨permuted.mem_iff.mpr kept,active⟩)
      · exact Or.inr (Or.inr (beaten rule active immaterial))
    · intro rule member
      obtain ⟨inside,active⟩ := List.mem_filter.mp member
      rcases lost rule (permuted.mem_iff.mp inside) with kept | immaterial
      · exact Or.inl (List.mem_filter.mpr ⟨permutedOther.mem_iff.mpr kept,active⟩)
      · exact Or.inr (Or.inr (beaten rule active immaterial))
  exact congrArg (fun answer => answer.getD [unallocatedRow charge.fact]) answers

end Answers

structure ForgetsOrder (rules : List AllocationRule) (engine : AllocationRuleEngine) : Prop where
  reordered : ∀ others, others.Perm rules →
    ∃ other, engineOf others = .ok other ∧ ∀ charge : Charge, charge.rows other = charge.rows engine
  decided : ∀ charge : Charge, (∃ winner, Wins rules charge winner (charge.rows engine)) ∨
    ((∀ rule ∈ activeRules rules, charge.applyRule rule = none) ∧ charge.rows engine = [unallocatedRow charge.fact])
  added : ∀ extra grown, grown.Perm (rules ++ extra) →
    ∃ other, engineOf grown = .ok other ∧ ∀ charge : Charge, (∀ rule ∈ extra, Immaterial rules charge rule) →
      charge.rows other = charge.rows engine
  removed : ∀ extra kept, rules.Perm (kept ++ extra) →
    ∃ other, engineOf kept = .ok other ∧ ∀ charge : Charge, (∀ rule ∈ extra, Immaterial rules charge rule) →
      charge.rows other = charge.rows engine

/-- With distinct pairs of tier and priority among the active rules every order
of the additions gives the same rows for every charge. They are those of the
active rule that matches with the least pair, or the fallback, and rules that are
inactive or behind the winner can come or go without changing them. -/
theorem first_match_order_independent (rules : List AllocationRule) (distinct : DistinctPairs rules) :
    ∃ engine, engineOf rules = .ok engine ∧ ForgetsOrder rules engine := by
  obtain ⟨engine,built,_⟩ := engineOf_ok rules
  refine ⟨engine,built,?_,winner_or_fallback distinct built,?_,?_⟩
  · intro others permuted
    obtain ⟨other,builtOther,_⟩ := engineOf_ok others
    refine ⟨other,builtOther,?_⟩
    intro charge
    exact rows_congr distinct built builtOther charge (fun rule member => Or.inl (permuted.mem_iff.mp member))
      (fun rule member => Or.inl (permuted.mem_iff.mpr member))
  · intro extra grown permuted
    obtain ⟨other,builtOther,_⟩ := engineOf_ok grown
    refine ⟨other,builtOther,?_⟩
    intro charge immaterial
    refine rows_congr distinct built builtOther charge ?_ ?_
    · intro rule member
      rcases List.mem_append.mp (permuted.mem_iff.mp member) with inside | added
      · exact Or.inl inside
      · exact Or.inr (immaterial rule added)
    · intro rule member
      exact Or.inl (permuted.mem_iff.mpr (List.mem_append_left _ member))
  · intro extra kept permuted
    obtain ⟨other,builtOther,_⟩ := engineOf_ok kept
    refine ⟨other,builtOther,?_⟩
    intro charge immaterial
    refine rows_congr distinct built builtOther charge ?_ ?_
    · intro rule member
      exact Or.inl (permuted.mem_iff.mpr (List.mem_append_left _ member))
    · intro rule member
      rcases List.mem_append.mp (permuted.mem_iff.mp member) with inside | removed
      · exact Or.inl inside
      · exact Or.inr (immaterial rule removed)

def scopeRule (id : String) (priority : ℤ) (scope : String) : AllocationRule where
  id := id
  name := id
  ruleType := .scopeRule
  priority := priority
  matchResourceId := none
  matchTagKey := none
  matchTagValue := none
  matchScopeId := some scope
  matchServiceId := none
  matchServiceCategory := none
  targetCostCenterCode := some "CC-101"
  targetBusinessUnitCode := none
  targetProjectCode := none
  splitTargets := []
  isActive := true
  validSplit := by
    intro split
    cases split

theorem two_scope_rules_forget_order :
    ∃ engine, engineOf [scopeRule "late" 200 "scope-1", scopeRule "early" 100 "scope-1"] = .ok engine ∧
      ForgetsOrder [scopeRule "late" 200 "scope-1", scopeRule "early" 100 "scope-1"] engine :=
  first_match_order_independent _ (by decide +kernel)

end CloudLens.Attribution
