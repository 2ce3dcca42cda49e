import CloudLens.Attribution.Model
import CloudLens.Library.Grouping
import Mathlib.Data.List.Sort

/-! Aggregation of allocated rows along one dimension. A first pass collects the
rows under their keys in the order the keys appear, a second one rounds every
bucket and rolls the small allocated ones up. Both passes are given here as the
code runs them, together with what they compute from the grouped rows. -/
namespace CloudLens.Attribution
open Library Cost

inductive Dimension where
  | costCenter
  | businessUnit
  | scope
  | winningRuleType
  deriving DecidableEq

def Dimension.label : Dimension → String
  | .costCenter => "cost_center"
  | .businessUnit => "business_unit"
  | .scope => "scope"
  | .winningRuleType => "winning_rule_type"

def Dimension.key : Dimension → AllocatedCostRow → String
  | .costCenter, row => row.costCenterCode
  | .businessUnit, row => (configured row.businessUnitCode).getD unallocatedKey
  | .scope, row => row.scopeId
  | .winningRuleType, row => row.winningRuleType.value

def Dimension.name : Dimension → String → String
  | .costCenter, key => if key = unallocatedKey then "Unallocated Cost" else "Cost Center " ++ key
  | .businessUnit, key => if key = unallocatedKey then "Unallocated Cost" else "Business Unit " ++ key
  | .scope, key => "Scope " ++ key
  | .winningRuleType, key => "Rule Tier " ++ key

structure CostBucket where
  bucketKey : String
  bucketName : String
  totalAmount : ℚ
  percentageOfTotal : ℚ
  factCount : ℕ
  isUnallocated : Bool
  deriving DecidableEq

structure AggregationSummary where
  dimension : String
  totalSpend : ℚ
  allocatedSpend : ℚ
  unallocatedSpend : ℚ
  allocatedPercentage : ℚ
  unallocatedPercentage : ℚ
  buckets : List CostBucket
  deriving DecidableEq

structure BucketData where
  key : String
  name : String
  amount : ℚ
  count : ℕ
  isUnallocated : Bool

structure Tally where
  bucketData : List BucketData
  unallocatedSpend : ℚ
  allocatedSpend : ℚ

structure Rollup where
  buckets : List CostBucket
  otherAmount : ℚ
  otherCount : ℕ

def spend (rows : List AllocatedCostRow) : ℚ := (rows.map AllocatedCostRow.allocatedAmount).sum

def isUnalloc (dimension : Dimension) (row : AllocatedCostRow) : Bool :=
  dimension.key row = unallocatedKey || row.winningRuleType = .unallocated || row.costCenterCode = unallocatedKey

def emptyBucket (dimension : Dimension) (row : AllocatedCostRow) : BucketData where
  key := dimension.key row
  name := dimension.name (dimension.key row)
  amount := 0
  count := 0
  isUnallocated := isUnalloc dimension row

def BucketData.grow (data : BucketData) (row : AllocatedCostRow) : BucketData :=
  { data with amount := data.amount + row.allocatedAmount, count := data.count + 1 }

def collectRow (dimension : Dimension) (row : AllocatedCostRow) : List BucketData → List BucketData
  | [] => [(emptyBucket dimension row).grow row]
  | data :: rest =>
    if data.key = dimension.key row then data.grow row :: rest else data :: collectRow dimension row rest

def tallyRow (dimension : Dimension) (tally : Tally) (row : AllocatedCostRow) : Tally where
  bucketData := collectRow dimension row tally.bucketData
  unallocatedSpend :=
    if isUnalloc dimension row then tally.unallocatedSpend + row.allocatedAmount else tally.unallocatedSpend
  allocatedSpend :=
    if isUnalloc dimension row then tally.allocatedSpend else tally.allocatedSpend + row.allocatedAmount

def tally (dimension : Dimension) (rows : List AllocatedCostRow) : Tally :=
  rows.foldl (tallyRow dimension) ⟨[],0,0⟩

def percentageOf (totalSpend amount : ℚ) : ℚ := roundCurrency (amount / totalSpend * 100)

def costBucket (totalSpend : ℚ) (data : BucketData) : CostBucket where
  bucketKey := data.key
  bucketName := data.name
  totalAmount := roundCurrency data.amount
  percentageOfTotal := percentageOf totalSpend (roundCurrency data.amount)
  factCount := data.count
  isUnallocated := data.isUnallocated

def isBelow (totalSpend : ℚ) (otherThreshold : Option ℚ) (data : BucketData) : Bool :=
  otherThreshold.any (fun threshold => percentageOf totalSpend (roundCurrency data.amount) < threshold) &&
    !data.isUnallocated

def rollupBucket (totalSpend : ℚ) (otherThreshold : Option ℚ) (rollup : Rollup) (data : BucketData) : Rollup :=
  if isBelow totalSpend otherThreshold data then
    { rollup with
      otherAmount := rollup.otherAmount + roundCurrency data.amount
      otherCount := rollup.otherCount + data.count }
  else { rollup with buckets := rollup.buckets ++ [costBucket totalSpend data] }

def otherBucket (totalSpend : ℚ) (rollup : Rollup) : CostBucket where
  bucketKey := "OTHER"
  bucketName := "Other (Below Threshold)"
  totalAmount := rollup.otherAmount
  percentageOfTotal := percentageOf totalSpend rollup.otherAmount
  factCount := rollup.otherCount
  isUnallocated := false

def withOther (totalSpend : ℚ) (rollup : Rollup) : List CostBucket :=
  if 0 < rollup.otherAmount then rollup.buckets ++ [otherBucket totalSpend rollup] else rollup.buckets

/-- Descending by the flag and then by the amount; buckets that agree on both keep their order. -/
def SortsBefore (a b : CostBucket) : Prop :=
  (a.isUnallocated = true ∧ b.isUnallocated = false) ∨
    (a.isUnallocated = b.isUnallocated ∧ b.totalAmount ≤ a.totalAmount)

instance : DecidableRel SortsBefore := fun a b =>
  inferInstanceAs (Decidable ((a.isUnallocated = true ∧ b.isUnallocated = false) ∨
    (a.isUnallocated = b.isUnallocated ∧ b.totalAmount ≤ a.totalAmount)))

def sortBuckets (buckets : List CostBucket) : List CostBucket := buckets.insertionSort SortsBefore

def aggregate (dimension : Dimension) (rows : List AllocatedCostRow) (otherThreshold : Option ℚ) : AggregationSummary :=
  let totalSpend := roundCurrency (spend rows)
  if totalSpend = 0 then
    { dimension := dimension.label
      totalSpend := 0
      allocatedSpend := 0
      unallocatedSpend := 0
      allocatedPercentage := 0
      unallocatedPercentage := 0
      buckets := [] }
  else
    let collected := tally dimension rows
    let rollup := collected.bucketData.foldl (rollupBucket totalSpend otherThreshold) ⟨[],0,0⟩
    { dimension := dimension.label
      totalSpend := totalSpend
      allocatedSpend := roundCurrency collected.allocatedSpend
      unallocatedSpend := roundCurrency collected.unallocatedSpend
      allocatedPercentage := percentageOf totalSpend collected.allocatedSpend
      unallocatedPercentage := percentageOf totalSpend collected.unallocatedSpend
      buckets := sortBuckets (withOther totalSpend rollup) }

def aggregateByCostCenter (rows : List AllocatedCostRow) (otherThresholdPercentage : Option ℚ) : AggregationSummary :=
  aggregate .costCenter rows otherThresholdPercentage

def aggregateByBusinessUnit (rows : List AllocatedCostRow) (otherThresholdPercentage : Option ℚ) : AggregationSummary :=
  aggregate .businessUnit rows otherThresholdPercentage

def aggregateByScope (rows : List AllocatedCostRow) (otherThresholdPercentage : Option ℚ) : AggregationSummary :=
  aggregate .scope rows otherThresholdPercentage

def aggregateByWinningRuleType (rows : List AllocatedCostRow) : AggregationSummary :=
  aggregate .winningRuleType rows none

abbrev Group := String × List AllocatedCostRow

def groups (dimension : Dimension) (rows : List AllocatedCostRow) : List Group :=
  Grouping.groupInto dimension.key rows

def groupData (dimension : Dimension) (group : Group) : BucketData where
  key := group.1
  name := dimension.name group.1
  amount := spend group.2
  count := group.2.length
  isUnallocated := group.2.head?.any (isUnalloc dimension)

def dataOf (dimension : Dimension) (rows : List AllocatedCostRow) : List BucketData :=
  (groups dimension rows).map (groupData dimension)

def rollupOf (totalSpend : ℚ) (otherThreshold : Option ℚ) (data : List BucketData) : Rollup where
  buckets := (data.filter (fun d => !isBelow totalSpend otherThreshold d)).map (costBucket totalSpend)
  otherAmount := ((data.filter (isBelow totalSpend otherThreshold)).map (fun d => roundCurrency d.amount)).sum
  otherCount := ((data.filter (isBelow totalSpend otherThreshold)).map BucketData.count).sum

section Spec

variable {dimension : Dimension}

theorem spend_append (first second : List AllocatedCostRow) : spend (first ++ second) = spend first + spend second := by
  simp [spend]

theorem groupData_append {key : String} {rows : List AllocatedCostRow} (row : AllocatedCostRow) (nonempty : rows ≠ []) :
    groupData dimension (key, rows ++ [row]) = (groupData dimension (key, rows)).grow row := by
  cases rows with
  | nil => exact absurd rfl nonempty
  | cons first rest => simp [groupData,BucketData.grow,spend,add_assoc]

theorem collectRow_groups (row : AllocatedCostRow) (grouped : List Group) (nonempty : ∀ group ∈ grouped, group.2 ≠ []) :
    collectRow dimension row (grouped.map (groupData dimension)) =
      (Grouping.add (dimension.key row) row grouped).map (groupData dimension) := by
  induction grouped with
  | nil => simp [collectRow,Grouping.add,emptyBucket,BucketData.grow,groupData,spend]
  | cons group grouped ih =>
    obtain ⟨key,rows⟩ := group
    rw [List.map_cons,collectRow,Grouping.add]
    have same : (groupData dimension (key, rows)).key = key := rfl
    rw [same]
    split
    · rw [List.map_cons,groupData_append row (nonempty (key, rows) (by simp))]
    · rw [List.map_cons,ih (fun other member => nonempty other (by simp [member]))]

theorem tally_eq (rows : List AllocatedCostRow) :
    tally dimension rows =
      ⟨dataOf dimension rows,spend (rows.filter (isUnalloc dimension)),spend (rows.filter (fun row => !isUnalloc dimension row))⟩ := by
  induction rows using List.reverseRecOn with
  | nil => rfl
  | append_singleton rows row ih =>
    have extended : tally dimension (rows ++ [row]) = tallyRow dimension (tally dimension rows) row := by
      simp [tally]
    have collected : collectRow dimension row (dataOf dimension rows) = dataOf dimension (rows ++ [row]) := by
      have nonempty : ∀ group ∈ groups dimension rows, group.2 ≠ [] := fun group member => Grouping.group_ne_nil member
      rw [dataOf,collectRow_groups row _ nonempty,dataOf,groups,groups,Grouping.groupInto_concat]
    rw [extended,ih,tallyRow,collected,List.filter_append,List.filter_append,spend_append,spend_append]
    cases flag : isUnalloc dimension row with
    | true => simp [flag,spend]
    | false => simp [flag,spend]

theorem rollup_eq (totalSpend : ℚ) (otherThreshold : Option ℚ) (data : List BucketData) :
    data.foldl (rollupBucket totalSpend otherThreshold) ⟨[],0,0⟩ = rollupOf totalSpend otherThreshold data := by
  induction data using List.reverseRecOn with
  | nil => rfl
  | append_singleton data last ih =>
    rw [List.foldl_append,ih,List.foldl_cons,List.foldl_nil,rollupBucket]
    cases small : isBelow totalSpend otherThreshold last with
    | true => simp [rollupOf,small]
    | false => simp [rollupOf,small]

def rolled (dimension : Dimension) (rows : List AllocatedCostRow) (otherThreshold : Option ℚ) : Rollup :=
  rollupOf (roundCurrency (spend rows)) otherThreshold (dataOf dimension rows)

theorem aggregate_zero {rows : List AllocatedCostRow} (otherThreshold : Option ℚ) (zero : roundCurrency (spend rows) = 0) :
    aggregate dimension rows otherThreshold =
      { dimension := dimension.label
        totalSpend := 0
        allocatedSpend := 0
        unallocatedSpend := 0
        allocatedPercentage := 0
        unallocatedPercentage := 0
        buckets := [] } := by
  simp only [aggregate]
  rw [if_pos zero]

theorem aggregate_nonzero {rows : List AllocatedCostRow} (otherThreshold : Option ℚ) (nonzero : roundCurrency (spend rows) ≠ 0) :
    aggregate dimension rows otherThreshold =
      { dimension := dimension.label
        totalSpend := roundCurrency (spend rows)
        allocatedSpend := roundCurrency (spend (rows.filter (fun row => !isUnalloc dimension row)))
        unallocatedSpend := roundCurrency (spend (rows.filter (isUnalloc dimension)))
        allocatedPercentage :=
          percentageOf (roundCurrency (spend rows)) (spend (rows.filter (fun row => !isUnalloc dimension row)))
        unallocatedPercentage := percentageOf (roundCurrency (spend rows)) (spend (rows.filter (isUnalloc dimension)))
        buckets := sortBuckets (withOther (roundCurrency (spend rows)) (rolled dimension rows otherThreshold)) } := by
  simp only [aggregate]
  rw [if_neg nonzero,tally_eq,rollup_eq,rolled]

theorem sortBuckets_perm (buckets : List CostBucket) : (sortBuckets buckets).Perm buckets :=
  List.perm_insertionSort _ _

end Spec

end CloudLens.Attribution
