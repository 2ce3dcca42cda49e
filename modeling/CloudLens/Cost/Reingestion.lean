import CloudLens.Cost.Ledger

/-! Replacing a partition twice with the same facts. The totals that decide about
a restatement are summed over the list that is passed in, while the store keeps
the last fact of every identifier with its amounts at the stored scale. The
second call returns and is without effect exactly when these differences vanish. -/
namespace CloudLens.Cost
open Library Library.Calendar

def lastWith (facts : List CostFact) (id : String) : Option CostFact := facts.reverse.find? (fun f => f.id = id)

def survivors (facts : List CostFact) : List CostFact := (facts.map CostFact.id).dedup.filterMap (lastWith facts)

def Filed (start : Date) (facts : List CostFact) : Prop := ∀ f ∈ facts, f.billingPeriodStart.getD start = start

private theorem find?_agree {α : Type} {p q : α → Bool} {items : List α} (agree : ∀ item ∈ items, p item = q item) :
    items.find? p = items.find? q := by
  induction items with
  | nil => rfl
  | cons item rest ih =>
    rw [List.find?_cons,List.find?_cons,agree item List.mem_cons_self,
      ih (fun other member => agree other (List.mem_cons_of_mem _ member))]

section Survivors

variable {facts : List CostFact}

theorem lastWith_some {id : String} {f : CostFact} (last : lastWith facts id = some f) : f ∈ facts ∧ f.id = id := by
  have member := List.mem_of_find?_eq_some last
  have same := List.find?_some last
  exact ⟨List.mem_reverse.mp member,of_decide_eq_true same⟩

theorem lastWith_isSome {id : String} (member : id ∈ facts.map CostFact.id) : ∃ f, lastWith facts id = some f := by
  obtain ⟨f,inside,same⟩ := List.mem_map.mp member
  cases found : lastWith facts id with
  | some g => exact ⟨g,rfl⟩
  | none => exact absurd (by simpa using same) (List.find?_eq_none.mp found f (List.mem_reverse.mpr inside))

theorem mem_survivors {f : CostFact} : f ∈ survivors facts ↔ lastWith facts f.id = some f := by
  rw [survivors,List.mem_filterMap]
  constructor
  · rintro ⟨id,_,last⟩
    rw [(lastWith_some last).2]
    exact last
  · intro last
    exact ⟨f.id,List.mem_dedup.mpr (List.mem_map_of_mem (lastWith_some last).1),last⟩

theorem survivors_ids : (survivors facts).map CostFact.id = (facts.map CostFact.id).dedup := by
  rw [survivors,List.map_filterMap]
  have each : ∀ id ∈ (facts.map CostFact.id).dedup, (lastWith facts id).map CostFact.id = some id := by
    intro id member
    obtain ⟨f,last⟩ := lastWith_isSome (List.mem_dedup.mp member)
    rw [last,Option.map_some,(lastWith_some last).2]
  rw [List.filterMap_congr each,List.filterMap_some]

theorem survivors_nodup : ((survivors facts).map CostFact.id).Nodup := by
  rw [survivors_ids]
  exact List.nodup_dedup _

end Survivors

section Replaced

variable {tenant : String} {start : Date} {facts : List CostFact} {table : Table FactKey FactRow}

theorem factKey_of_filed (filed : Filed start facts) {f : CostFact} (member : f ∈ facts) :
    factKey tenant start f = ⟨start,tenant,f.id⟩ := by
  rw [factKey,filed f member]

theorem deleted_partition {key : FactKey} (inside : key.tenantId = tenant ∧ key.billingPeriodStart = start) :
    (table.deleteWhere (inPartition tenant start)).lookup key = none := by
  rw [Table.lookup_deleteWhere]
  cases table.lookup key <;> simp [inPartition,Option.filter,inside]

theorem replaced_lookup (filed : Filed start facts) {id : String} {f : CostFact} (last : lastWith facts id = some f) :
    ∃ row, (replaceFacts tenant start facts table).lookup ⟨start,tenant,id⟩ = some row ∧
      (row = factRow f ∨ ∃ earlier, row = overwriteFact earlier (factRow f)) := by
  apply Table.lookup_upsertAll_last
  have same : ∀ other ∈ facts.reverse, decide (factKey tenant start other = ⟨start,tenant,id⟩) = decide (other.id = id) := by
    intro other member
    rw [factKey_of_filed filed (List.mem_reverse.mp member)]
    simp
  rw [find?_agree same]
  exact last

theorem replaced_absent (filed : Filed start facts) {id : String} (absent : id ∉ facts.map CostFact.id) :
    (replaceFacts tenant start facts table).lookup ⟨start,tenant,id⟩ = none := by
  rw [replaceFacts,Table.lookup_upsertAll_of_notMem]
  · exact deleted_partition ⟨rfl,rfl⟩
  · intro f member same
    rw [factKey_of_filed filed member] at same
    have named : f.id = id := congrArg FactKey.id same
    exact absent (named ▸ List.mem_map_of_mem member)

theorem replaced_native (filed : Filed start facts) {id : String} {row : FactRow}
    (found : (replaceFacts tenant start facts table).lookup ⟨start,tenant,id⟩ = some row) :
    lastWith facts id = some row.providerNative := by
  have member : id ∈ facts.map CostFact.id := by
    by_contra absent
    rw [replaced_absent filed absent] at found
    cases found
  obtain ⟨f,last⟩ := lastWith_isSome member
  obtain ⟨stored,held,shape⟩ := @replaced_lookup tenant start facts table filed _ _ last
  rw [held] at found
  cases found
  rw [last]
  rcases shape with rfl | ⟨earlier,rfl⟩
  · rfl
  · rfl

theorem replaced_column (filed : Filed start facts) (column : CostColumn) {id : String} {row : FactRow}
    (found : (replaceFacts tenant start facts table).lookup ⟨start,tenant,id⟩ = some row) :
    column.stored row = storeMeasure (column.measure row.providerNative) := by
  obtain ⟨stored,held,shape⟩ := @replaced_lookup tenant start facts table filed _ _ (replaced_native filed found)
  rw [held] at found
  cases found
  rcases shape with same | ⟨earlier,same⟩
  · rw [same]
    cases column <;> rfl
  · rw [same]
    cases column <;> rfl

def natives (entries : List (Σ _ : FactKey, FactRow)) : List CostFact := entries.map (fun entry => entry.2.providerNative)

theorem mem_partition {entry : Σ _ : FactKey, FactRow} :
    entry ∈ table.selectWhere (inPartition tenant start) ↔
      table.lookup ⟨start,tenant,entry.1.id⟩ = some entry.2 ∧ entry.1 = ⟨start,tenant,entry.1.id⟩ := by
  obtain ⟨⟨filedUnder,owner,id⟩,row⟩ := entry
  rw [Table.mem_selectWhere]
  simp only [inPartition,Bool.and_eq_true,decide_eq_true_eq,FactKey.mk.injEq,and_true]
  constructor
  · rintro ⟨found,rfl,rfl⟩
    exact ⟨found,rfl,rfl⟩
  · rintro ⟨found,rfl,rfl⟩
    exact ⟨found,rfl,rfl⟩

theorem partition_natives (filed : Filed start facts) :
    (natives ((replaceFacts tenant start facts table).selectWhere (inPartition tenant start))).Perm (survivors facts) := by
  have distinctKeys : ((replaceFacts tenant start facts table).selectWhere (inPartition tenant start)).Nodup :=
    (replaceFacts tenant start facts table).nodupKeys.nodup.filter _
  have named : ∀ entry ∈ (replaceFacts tenant start facts table).selectWhere (inPartition tenant start),
      lastWith facts entry.1.id = some entry.2.providerNative ∧ entry.2.providerNative.id = entry.1.id := by
    intro entry member
    have last := replaced_native filed (mem_partition.mp member).1
    exact ⟨last,(lastWith_some last).2⟩
  have distinct : (natives ((replaceFacts tenant start facts table).selectWhere (inPartition tenant start))).Nodup := by
    apply List.Nodup.map_on _ distinctKeys
    intro first left second right same
    have keys : first.1 = second.1 := by
      rw [(mem_partition.mp left).2,(mem_partition.mp right).2,← (named first left).2,← (named second right).2,same]
    have rows := (mem_partition.mp left).1
    rw [congrArg FactKey.id keys,(mem_partition.mp right).1] at rows
    exact Sigma.ext keys (heq_of_eq (Option.some.inj rows).symm)
  refine (List.perm_ext_iff_of_nodup distinct (List.Nodup.of_map _ survivors_nodup)).mpr ?_
  intro f
  rw [mem_survivors,natives,List.mem_map]
  constructor
  · rintro ⟨entry,member,rfl⟩
    rw [(named entry member).2]
    exact (named entry member).1
  · intro last
    obtain ⟨row,found,shape⟩ := @replaced_lookup tenant start facts table filed _ _ last
    refine ⟨⟨⟨start,tenant,f.id⟩,row⟩,mem_partition.mpr ⟨found,rfl⟩,?_⟩
    rcases shape with rfl | ⟨earlier,rfl⟩
    · rfl
    · rfl

theorem replaced_total (filed : Filed start facts) (column : CostColumn) :
    ((replaceFacts tenant start facts table).sumWhere (inPartition tenant start)
        (fun _ row => (column.stored row).units.getD 0) : ℤ) / (10:ℚ)^6 = storedAmount column (survivors facts) := by
  have amounts : ((replaceFacts tenant start facts table).selectWhere (inPartition tenant start)).map
      (fun entry => (column.stored entry.2).units.getD 0) =
      (natives ((replaceFacts tenant start facts table).selectWhere (inPartition tenant start))).map
        (fun f => (storeMeasure (column.measure f)).units.getD 0) := by
    rw [natives,List.map_map]
    apply List.map_congr_left
    intro entry member
    rw [replaced_column filed column (mem_partition.mp member).1]
    rfl
  rw [Table.sumWhere,amounts,((partition_natives filed).map _).sum_eq]
  rfl

end Replaced

section Again

variable {tenant period : String} {start next : Date} {facts : List CostFact} {db : CostDb}

theorem swapped_total (filed : Filed start facts) (column : CostColumn) :
    partitionTotal column.stored tenant start (swapPartition tenant start next facts db) =
      storedAmount column (survivors facts) :=
  replaced_total filed column

theorem swapped_vacant (filed : Filed start facts) :
    partitionCount tenant start (swapPartition tenant start next facts db) = 0 ↔ facts = [] := by
  have counted : partitionCount tenant start (swapPartition tenant start next facts db) =
      (facts.map CostFact.id).dedup.length := by
    rw [← survivors_ids,List.length_map,← (partition_natives filed).length_eq,natives,List.length_map]
    rfl
  rw [counted,List.length_eq_zero_iff,List.dedup_eq_nil,List.map_eq_nil_iff]

theorem replaced_again {table other : Table FactKey FactRow} {key : FactKey}
    (inside : key.tenantId = tenant ∧ key.billingPeriodStart = start) :
    (replaceFacts tenant start facts other).lookup key = (replaceFacts tenant start facts table).lookup key := by
  apply Table.lookup_upsertAll_congr
  rw [deleted_partition inside,deleted_partition inside]

end Again

structure Unchanged (tenant period : String) (start : Date) (once : CostDb) (twice : CostDb × ℕ × Option CostRestatementRecord) :
    Prop where
  unrestated : twice.2.2 = none
  contents : ∀ key : FactKey, key.tenantId = tenant ∧ key.billingPeriodStart = start →
    twice.1.costFact.lookup key = once.costFact.lookup key
  totals : getPeriodTotals tenant period twice.1 = .ok ⟨partitionTotal FactRow.billedCost tenant start twice.1,
    partitionTotal FactRow.effectiveCost tenant start twice.1,partitionCount tenant start twice.1⟩

structure SettlesAtOnce (tenant : String) (start : Date) (facts : List CostFact) (db : CostDb) : Prop where
  sums : ∀ column : CostColumn, measureTotal column.measure facts = storedAmount column (survivors facts)
  entered : partitionCount tenant start db = 0 ∨
    ∀ column : CostColumn, measureTotal column.measure facts = partitionTotal column.stored tenant start db
  fits : ∀ f ∈ facts, storable tenant f = true
  cents : ∀ column : CostColumn, Decimal.AtScale 2 (storedAmount column (survivors facts))

section Twice

variable {tenant period : String} {start next : Date} {facts : List CostFact} {db : CostDb}

theorem second_settled (filed : Filed start facts) :
    restated tenant start facts (swapPartition tenant start next facts db) = false ↔
      ∀ column : CostColumn, measureTotal column.measure facts = storedAmount column (survivors facts) := by
  rw [restated_columns,swapped_vacant filed]
  simp only [swapped_total filed]
  constructor
  · rintro (rfl | same) column
    · simp [measureTotal,storedAmount,survivors]
    · exact same column
  · exact Or.inr

theorem totals_in_cents (bounds : periodBounds period = .ok (start, next)) (tenant : String) (after : CostDb) :
    getPeriodTotals tenant period after = .ok ⟨partitionTotal FactRow.billedCost tenant start after,
      partitionTotal FactRow.effectiveCost tenant start after,partitionCount tenant start after⟩ ↔
      ∀ column : CostColumn, Decimal.AtScale 2 (partitionTotal column.stored tenant start after) := by
  have rounds : ∀ total : ℚ, Decimal.quantize 2 total = total ↔ Decimal.AtScale 2 total := by
    intro total
    constructor
    · intro same
      rw [← same]
      exact Decimal.quantize_atScale 2 total
    · exact Decimal.quantize_of_atScale
  unfold periodBounds at bounds
  cases parsed : parseBillingPeriod period with
  | error e =>
    rw [parsed] at bounds
    cases bounds
  | ok day =>
    rw [parsed] at bounds
    dsimp only at bounds
    have first : day.getD fallbackPeriod = start := by
      split at bounds
      · cases bounds
        rfl
      · cases bounds
    rw [getPeriodTotals,parsed]
    dsimp only
    rw [first,Except.ok.injEq,PeriodTotals.mk.injEq,rounds,rounds]
    constructor
    · rintro ⟨billed,effective,_⟩ column
      cases column
      · exact billed
      · exact effective
    · intro each
      exact ⟨each .billed,each .effective,rfl⟩

end Twice

def doubledLine : List CostFact := [usageLine "aws" "f-1" "ec2" march2026 10, usageLine "aws" "f-1" "ec2" march2026 5]

end CloudLens.Cost
