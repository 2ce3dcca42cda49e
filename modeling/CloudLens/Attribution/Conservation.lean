import CloudLens.Attribution.Aggregation

/-! What an aggregation accounts for. The buckets of a summary cover every row
and carry its spend exactly when nothing is dropped on the way: the total does
not round to zero, the roll-up of the small buckets is empty or positive, and
ties are not rounded apart. -/
namespace CloudLens.Attribution
open Library Cost

structure LosesNothing (dimension : Dimension) (rows : List AllocatedCostRow) (otherThreshold : Option ℚ) : Prop where
  counts : ((aggregate dimension rows otherThreshold).buckets.map CostBucket.factCount).sum = rows.length
  totals : |((aggregate dimension rows otherThreshold).buckets.map CostBucket.totalAmount).sum -
      (aggregate dimension rows otherThreshold).totalSpend| ≤ (rows.map dimension.key).dedup.length * (1/200)
  parts : |(aggregate dimension rows otherThreshold).allocatedSpend + (aggregate dimension rows otherThreshold).unallocatedSpend -
      (aggregate dimension rows otherThreshold).totalSpend| ≤ 1/100

def smallGroups (dimension : Dimension) (rows : List AllocatedCostRow) (otherThreshold : Option ℚ) : List Group :=
  (groups dimension rows).filter (fun group => isBelow (roundCurrency (spend rows)) otherThreshold (groupData dimension group))

def groupSpends (grouped : List Group) : List ℚ := grouped.map (fun group => spend group.2)

def AllAccounted (dimension : Dimension) (rows : List AllocatedCostRow) (otherThreshold : Option ℚ) : Prop :=
  rows = [] ∨ (roundCurrency (spend rows) ≠ 0 ∧
    (smallGroups dimension rows otherThreshold = [] ∨
      0 < ((groupSpends (smallGroups dimension rows otherThreshold)).map roundCurrency).sum) ∧
    ¬ Decimal.TiesApart 2 (groupSpends (groups dimension rows)))

section Rollups

variable {dimension : Dimension} {rows : List AllocatedCostRow} {otherThreshold : Option ℚ}

theorem sum_withOther {M : Type} [AddCommMonoid M] (weight : CostBucket → M) (totalSpend : ℚ) (rollup : Rollup) :
    ((sortBuckets (withOther totalSpend rollup)).map weight).sum =
      (rollup.buckets.map weight).sum + if 0 < rollup.otherAmount then weight (otherBucket totalSpend rollup) else 0 := by
  rw [((sortBuckets_perm _).map weight).sum_eq,withOther]
  split <;> simp

theorem sum_split {α M : Type} [AddCommMonoid M] (weight : α → M) (small : α → Bool) (items : List α) :
    ((items.filter (fun item => !small item)).map weight).sum + ((items.filter small).map weight).sum =
      (items.map weight).sum := by
  have parts := List.sum_map_filter_add_sum_map_filter_not (fun item => small item = true) weight items
  rw [add_comm,← parts]
  simp

theorem small_data :
    (dataOf dimension rows).filter (isBelow (roundCurrency (spend rows)) otherThreshold) =
      (smallGroups dimension rows otherThreshold).map (groupData dimension) := by
  rw [dataOf,smallGroups,List.filter_map]
  rfl

theorem rolled_otherAmount :
    (rolled dimension rows otherThreshold).otherAmount =
      ((groupSpends (smallGroups dimension rows otherThreshold)).map roundCurrency).sum := by
  simp only [rolled,rollupOf]
  rw [small_data,groupSpends,List.map_map,List.map_map]
  rfl

theorem rolled_counts :
    ((rolled dimension rows otherThreshold).buckets.map CostBucket.factCount).sum +
      (rolled dimension rows otherThreshold).otherCount = rows.length := by
  have whole := Grouping.sum_groupInto (fun _ => 1) dimension.key rows
  simp only [rolled,rollupOf,List.map_map]
  have counted := sum_split BucketData.count (isBelow (roundCurrency (spend rows)) otherThreshold) (dataOf dimension rows)
  refine Eq.trans counted ?_
  rw [dataOf,List.map_map]
  simpa [Function.comp_def,groupData,groups] using whole

theorem rolled_totals :
    ((rolled dimension rows otherThreshold).buckets.map CostBucket.totalAmount).sum +
      (rolled dimension rows otherThreshold).otherAmount = ((groupSpends (groups dimension rows)).map roundCurrency).sum := by
  simp only [rolled,rollupOf,List.map_map]
  have totalled := sum_split (fun d : BucketData => roundCurrency d.amount)
    (isBelow (roundCurrency (spend rows)) otherThreshold) (dataOf dimension rows)
  refine Eq.trans totalled ?_
  rw [dataOf,groupSpends,List.map_map,List.map_map]
  rfl

theorem rolled_otherCount_eq_zero :
    (rolled dimension rows otherThreshold).otherCount = 0 ↔ smallGroups dimension rows otherThreshold = [] := by
  simp only [rolled,rollupOf]
  rw [small_data,List.map_map]
  constructor
  · intro none
    rw [List.sum_eq_zero_iff] at none
    rw [List.eq_nil_iff_forall_not_mem]
    intro group member
    have empty : group.2.length = 0 := none _ (List.mem_map_of_mem member)
    have inside := (List.mem_filter.mp member).1
    exact Grouping.group_ne_nil inside (List.length_eq_zero_iff.mp empty)
  · intro none
    rw [none]
    rfl

theorem sum_groupSpends : (groupSpends (groups dimension rows)).sum = spend rows :=
  Grouping.sum_groupInto AllocatedCostRow.allocatedAmount dimension.key rows

theorem spend_filter_split (p : AllocatedCostRow → Bool) :
    spend (rows.filter (fun row => !p row)) + spend (rows.filter p) = spend rows :=
  sum_split AllocatedCostRow.allocatedAmount p rows

theorem length_groups : (groups dimension rows).length = (rows.map dimension.key).dedup.length :=
  Grouping.groupInto_length dimension.key rows

theorem halfCent : Decimal.halfUnit 2 = 1/200 := by norm_num [Decimal.halfUnit]

theorem rounded_groups_close :
    |((groupSpends (groups dimension rows)).map roundCurrency).sum - roundCurrency (spend rows)| ≤
      (rows.map dimension.key).dedup.length * (1/200) ↔ ¬ Decimal.TiesApart 2 (groupSpends (groups dimension rows)) := by
  have errors := Decimal.sum_quantize_error_iff 2 (groupSpends (groups dimension rows))
  have counted : (groupSpends (groups dimension rows)).length = (rows.map dimension.key).dedup.length := by
    rw [groupSpends,List.length_map,length_groups]
  rw [sum_groupSpends,counted,halfCent] at errors
  exact errors

theorem parts_close : |roundCurrency (spend (rows.filter (fun row => !isUnalloc dimension row))) +
    roundCurrency (spend (rows.filter (isUnalloc dimension))) - roundCurrency (spend rows)| ≤ 1/100 := by
  have close := Decimal.quantize_add_error 2 (spend (rows.filter (fun row => !isUnalloc dimension row)))
    (spend (rows.filter (isUnalloc dimension)))
  rw [spend_filter_split,abs_sub_comm] at close
  norm_num at close
  exact close

theorem counts_nonzero (nonzero : roundCurrency (spend rows) ≠ 0) :
    ((aggregate dimension rows otherThreshold).buckets.map CostBucket.factCount).sum = rows.length ↔
      (smallGroups dimension rows otherThreshold = [] ∨
        0 < ((groupSpends (smallGroups dimension rows otherThreshold)).map roundCurrency).sum) := by
  have counted := @rolled_counts dimension rows otherThreshold
  have nothing := @rolled_otherCount_eq_zero dimension rows otherThreshold
  rw [aggregate_nonzero otherThreshold nonzero,sum_withOther,← rolled_otherAmount]
  split
  · rename_i positive
    exact ⟨fun _ => Or.inr positive,fun _ => counted⟩
  · rename_i dropped
    rw [add_zero]
    constructor
    · intro kept
      exact Or.inl (nothing.mp (by omega))
    · intro either
      rcases either with none | positive
      · have zero := nothing.mpr none
        omega
      · exact absurd positive dropped

theorem totals_nonzero (nonzero : roundCurrency (spend rows) ≠ 0)
    (kept : smallGroups dimension rows otherThreshold = [] ∨
      0 < ((groupSpends (smallGroups dimension rows otherThreshold)).map roundCurrency).sum) :
    ((aggregate dimension rows otherThreshold).buckets.map CostBucket.totalAmount).sum =
      ((groupSpends (groups dimension rows)).map roundCurrency).sum := by
  rw [aggregate_nonzero otherThreshold nonzero,sum_withOther,← @rolled_totals dimension rows otherThreshold]
  split
  · rfl
  · rename_i dropped
    rw [rolled_otherAmount] at dropped ⊢
    rcases kept with none | positive
    · simp [none,groupSpends]
    · exact absurd positive dropped

end Rollups

/-- For every dimension, threshold and list of rows, the summary loses nothing
exactly when there are no rows, or the total does not round to zero, the small
buckets are none or roll up to a positive amount, and ties are not rounded apart. -/
theorem aggregation_loses_nothing_iff (dimension : Dimension) (rows : List AllocatedCostRow) (otherThreshold : Option ℚ) :
    LosesNothing dimension rows otherThreshold ↔ AllAccounted dimension rows otherThreshold := by
  by_cases zero : roundCurrency (spend rows) = 0
  · constructor
    · intro complete
      have counts := complete.counts
      rw [aggregate_zero otherThreshold zero] at counts
      exact Or.inl (List.length_eq_zero_iff.mp counts.symm)
    · intro accounted
      rcases accounted with rfl | ⟨nonzero,_⟩
      · refine ⟨?_,?_,?_⟩ <;> simp [aggregate_zero otherThreshold zero]
      · exact absurd zero nonzero
  · have total : (aggregate dimension rows otherThreshold).totalSpend = roundCurrency (spend rows) := by
      rw [aggregate_nonzero otherThreshold zero]
    constructor
    · intro complete
      have kept := (counts_nonzero zero).mp complete.counts
      have totals := complete.totals
      rw [totals_nonzero zero kept,total] at totals
      exact Or.inr ⟨zero,kept,rounded_groups_close.mp totals⟩
    · intro accounted
      rcases accounted with rfl | ⟨_,kept,together⟩
      · exact absurd (by decide +kernel) zero
      · refine ⟨(counts_nonzero zero).mpr kept,?_,?_⟩
        · rw [totals_nonzero zero kept,total]
          exact rounded_groups_close.mpr together
        · rw [aggregate_nonzero otherThreshold zero]
          exact parts_close

def directRow (costCenterCode scopeId : String) (allocatedAmount : ℚ) : AllocatedCostRow where
  costFactId := "fact"
  resourceId := none
  scopeId := scopeId
  totalCost := allocatedAmount
  allocatedAmount := allocatedAmount
  currency := "USD"
  costCenterCode := costCenterCode
  businessUnitCode := none
  projectCode := none
  winningRuleType := .directResource
  winningRuleId := some "rule"
  winningRuleName := "Direct"
  ruleExplanation := "Direct resource assignment matched rule 'Direct' for resource 'vm'"
  splitPercentage := some 100

/-- An unallocated charge and a credit that cancels it leave a summary without
buckets, so neither row is counted. -/
theorem cancelled_charge_loses_rows :
    ¬ LosesNothing .costCenter [directRow "UNALLOCATED" "scope" 10, directRow "CC-1" "scope" (-10)] none := by
  intro complete
  have counts := complete.counts
  revert counts
  decide +kernel

end CloudLens.Attribution
