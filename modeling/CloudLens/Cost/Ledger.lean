import CloudLens.Cost.Repository
import CloudLens.Library.Runs

/-! The restatement ledger of one tenant's billing period over a whole history
of replacements. No row of the ledger can be written: a replacement that would
move the total of an occupied partition raises instead. So a history of calls
that all return keeps the totals of its first non-empty list, and an emptied
partition is refilled without a ledger row. -/
namespace CloudLens.Cost
open Library Library.Calendar Library.Runs

inductive CostColumn where
  | billed
  | effective
  deriving DecidableEq

namespace CostColumn

def measure : CostColumn → CostFact → Measure
  | billed => CostFact.billedCost
  | effective => CostFact.effectiveCost

def stored : CostColumn → FactRow → StoredMeasure
  | billed => FactRow.billedCost
  | effective => FactRow.effectiveCost

def delta : CostColumn → RestatementRow → ℚ
  | billed => fun r => r.restatedBilledCost - r.originalBilledCost
  | effective => fun r => r.restatedEffectiveCost - r.originalEffectiveCost

end CostColumn

def ledgerSum (column : CostColumn) (tenant period : String) (db : CostDb) : ℚ :=
  ((db.costRestatements.filter (fun r => r.tenantId = tenant && r.billingPeriod = period)).map column.delta).sum

def storedAmount (column : CostColumn) (facts : List CostFact) : ℚ :=
  ((facts.map (fun f => (storeMeasure (column.measure f)).units.getD 0)).sum : ℤ) / 10^6

def FitsPeriod (start : Date) (facts : List CostFact) : Prop :=
  (facts.map CostFact.id).Nodup ∧ ∀ f ∈ facts, f.billingPeriodStart = some start

/-- Every call returns, and the stored totals are those of the first list and
of the ledger rows written since. -/
structure LedgerTelescopes (tenant period : String) (start : Date) (db : CostDb) (first : List CostFact)
    (later : List (List CostFact)) : Prop where
  returned : Along (replaceStep tenant period)
    (fun s facts => ∃ result, replacePartitionAtomic tenant period facts s = .ok result) db (first :: later)
  totals : ∀ column : CostColumn,
    partitionTotal column.stored tenant start (run (replaceStep tenant period) db (first :: later)) =
      measureTotal column.measure first +
        (ledgerSum column tenant period (run (replaceStep tenant period) db (first :: later)) - ledgerSum column tenant period db)

/-- The totals a call passes are those the column already holds, or nothing is stored. -/
def Repeats (earlier next : List CostFact) : Prop :=
  earlier = [] ∨ ∀ column : CostColumn, measureTotal column.measure next = storedAmount column earlier

structure SettledHistory (tenant : String) (start : Date) (db : CostDb) (first : List CostFact)
    (later : List (List CostFact)) : Prop where
  entered : partitionCount tenant start db = 0 ∨
    ∀ column : CostColumn, measureTotal column.measure first = partitionTotal column.stored tenant start db
  followed : (first :: later).IsChain Repeats
  fits : ∀ facts ∈ first :: later, ∀ f ∈ facts, storable tenant f = true
  closed : ∀ column : CostColumn, storedAmount column ((first :: later).getLast (List.cons_ne_nil _ _)) =
    measureTotal column.measure first

theorem restated_columns {tenant : String} {start : Date} {facts : List CostFact} {db : CostDb} :
    restated tenant start facts db = false ↔ partitionCount tenant start db = 0 ∨
      ∀ column : CostColumn, measureTotal column.measure facts = partitionTotal column.stored tenant start db := by
  rw [restated_eq_false]
  apply or_congr_right
  constructor
  · rintro ⟨billed,effective⟩ column
    cases column
    · exact billed
    · exact effective
  · intro same
    exact ⟨same .billed,same .effective⟩

theorem stored_factRow (column : CostColumn) (f : CostFact) :
    column.stored (factRow f) = storeMeasure (column.measure f) := by
  cases column <;> rfl

private theorem partition_empty_after_delete (tenant : String) (start : Date) (table : Table FactKey FactRow) :
    (table.deleteWhere (inPartition tenant start)).selectWhere (inPartition tenant start) = [] := by
  rw [Table.selectWhere_deleteWhere,Table.selectWhere_eq_nil_iff]
  intro key row _
  simp

theorem replaceFacts_selection {tenant : String} {start : Date} {facts : List CostFact}
    {table : Table FactKey FactRow} (period : FitsPeriod start facts) :
    (replaceFacts tenant start facts table).selectWhere (inPartition tenant start) =
      (facts.map (fun f => (⟨factKey tenant start f,factRow f⟩ : Σ _ : FactKey, FactRow))).reverse := by
  obtain ⟨distinct,inside⟩ := period
  have here : ∀ f ∈ facts, factKey tenant start f = ⟨start,tenant,f.id⟩ := by
    intro f member
    simp [factKey,inside f member]
  have keys : (facts.map (factKey tenant start)).Nodup := by
    apply List.Nodup.map_on _ (List.Nodup.of_map _ distinct)
    intro f left g right same
    rw [here f left,here g right] at same
    exact List.inj_on_of_nodup_map distinct left right (congrArg FactKey.id same)
  have absent : ∀ f ∈ facts, (table.deleteWhere (inPartition tenant start)).lookup (factKey tenant start f) = none := by
    intro f member
    rw [here f member,Table.lookup_deleteWhere]
    cases table.lookup (⟨start,tenant,f.id⟩ : FactKey) <;> simp [inPartition,Option.filter]
  have selected : ∀ f ∈ facts, inPartition tenant start (factKey tenant start f) (factRow f) = true := by
    intro f member
    rw [here f member]
    simp [inPartition]
  rw [replaceFacts,Table.selectWhere_upsertAll_new keys absent selected,partition_empty_after_delete,List.append_nil]

section History

variable {tenant period : String} {start next : Date} {facts : List CostFact} {db : CostDb}

theorem swap_total (filed : FitsPeriod start facts) (column : CostColumn) :
    partitionTotal column.stored tenant start (swapPartition tenant start next facts db) = storedAmount column facts := by
  have columns : (facts.map (fun f => (⟨factKey tenant start f,factRow f⟩ : Σ _ : FactKey, FactRow))).map
      (fun entry => (column.stored entry.2).units.getD 0) =
      facts.map (fun f => (storeMeasure (column.measure f)).units.getD 0) := by
    simp only [List.map_map]
    apply List.map_congr_left
    intro f _
    simp only [Function.comp_apply,stored_factRow]
  have selected : (swapPartition tenant start next facts db).costFact.selectWhere (inPartition tenant start) = _ :=
    replaceFacts_selection filed
  rw [partitionTotal,Table.sumWhere,selected,List.map_reverse,List.sum_reverse,columns]
  rfl

theorem swap_vacant (filed : FitsPeriod start facts) :
    partitionCount tenant start (swapPartition tenant start next facts db) = 0 ↔ facts = [] := by
  have selected : (swapPartition tenant start next facts db).costFact.selectWhere (inPartition tenant start) = _ :=
    replaceFacts_selection filed
  rw [partitionCount,Table.countWhere,selected,List.length_reverse,List.length_map,List.length_eq_zero_iff]

theorem returns_iff (bounds : periodBounds period = .ok (start, next)) :
    (∃ result, replacePartitionAtomic tenant period facts db = .ok result) ↔
      (partitionCount tenant start db = 0 ∨
        ∀ column : CostColumn, measureTotal column.measure facts = partitionTotal column.stored tenant start db) ∧
      ∀ f ∈ facts, storable tenant f = true := by
  rw [← restated_columns]
  constructor
  · rintro ⟨result,ran⟩
    obtain ⟨first,following,replaces,_⟩ := replaces_of_ok ran
    have same := bounds.symm.trans replaces.bounds
    cases same
    exact ⟨replaces.settled,replaces.fits⟩
  · rintro ⟨settled,fits⟩
    exact ⟨_,replacePartitionAtomic_of_replaces ⟨bounds,settled,fits⟩⟩

theorem replaceStep_of_returns (bounds : periodBounds period = .ok (start, next))
    (returned : ∃ result, replacePartitionAtomic tenant period facts db = .ok result) :
    replaceStep tenant period db facts = swapPartition tenant start next facts db := by
  obtain ⟨result,ran⟩ := returned
  obtain ⟨first,following,replaces,_⟩ := replaces_of_ok ran
  have same := bounds.symm.trans replaces.bounds
  cases same
  exact replaceStep_of_replaces replaces

theorem replaceStep_ledger (db : CostDb) (facts : List CostFact) :
    (replaceStep tenant period db facts).costRestatements = db.costRestatements := by
  rcases replaceStep_cases tenant period facts db with kept | ⟨first,following,_,swapped⟩
  · rw [kept]
  · rw [swapped]
    rfl

theorem run_ledger (column : CostColumn) (db : CostDb) (calls : List (List CostFact)) :
    ledgerSum column tenant period (run (replaceStep tenant period) db calls) = ledgerSum column tenant period db := by
  have kept : (run (replaceStep tenant period) db calls).costRestatements = db.costRestatements :=
    @run_invariant _ _ _ (fun s => s.costRestatements = db.costRestatements)
      (fun s facts same => (replaceStep_ledger s facts).trans same) db calls rfl
  rw [ledgerSum,kept,ledgerSum]

theorem all_return_iff (bounds : periodBounds period = .ok (start, next)) {first : List CostFact} {later : List (List CostFact)}
    (filed : ∀ facts ∈ first :: later, FitsPeriod start facts) :
    Along (replaceStep tenant period) (fun s facts => ∃ result, replacePartitionAtomic tenant period facts s = .ok result)
        db (first :: later) ↔
      (partitionCount tenant start db = 0 ∨
        ∀ column : CostColumn, measureTotal column.measure first = partitionTotal column.stored tenant start db) ∧
      (first :: later).IsChain Repeats ∧ ∀ facts ∈ first :: later, ∀ f ∈ facts, storable tenant f = true := by
  induction later generalizing db first with
  | nil => simp [Along,returns_iff bounds]
  | cons second later ih =>
    have follows : Repeats first second ↔
        (partitionCount tenant start (swapPartition tenant start next first db) = 0 ∨ ∀ column : CostColumn,
          measureTotal column.measure second =
            partitionTotal column.stored tenant start (swapPartition tenant start next first db)) := by
      rw [swap_vacant (filed first (by simp))]
      simp only [swap_total (filed first (by simp))]
      rfl
    have rest := fun s => @ih s second (fun facts member => filed facts (List.mem_cons_of_mem first member))
    rw [Along,List.isChain_cons_cons,List.forall_mem_cons,follows]
    constructor
    · rintro ⟨returned,along⟩
      rw [replaceStep_of_returns bounds returned] at along
      obtain ⟨entered,chain,fits⟩ := (rest _).mp along
      obtain ⟨settled,stored⟩ := (returns_iff bounds).mp returned
      exact ⟨settled,⟨entered,chain⟩,stored,fits⟩
    · rintro ⟨settled,⟨entered,chain⟩,stored,fits⟩
      have returned := (returns_iff bounds).mpr ⟨settled,stored⟩
      refine ⟨returned,?_⟩
      rw [replaceStep_of_returns bounds returned]
      exact (rest _).mpr ⟨entered,chain,fits⟩

theorem returned_total (bounds : periodBounds period = .ok (start, next)) (column : CostColumn) {first : List CostFact}
    {later : List (List CostFact)} (filed : ∀ facts ∈ first :: later, FitsPeriod start facts)
    (returned : Along (replaceStep tenant period)
      (fun s facts => ∃ result, replacePartitionAtomic tenant period facts s = .ok result) db (first :: later)) :
    partitionTotal column.stored tenant start (run (replaceStep tenant period) db (first :: later)) =
      storedAmount column ((first :: later).getLast (List.cons_ne_nil _ _)) := by
  induction later generalizing db first with
  | nil =>
    rw [run_cons,run_nil,replaceStep_of_returns bounds returned.1]
    exact swap_total (filed first (by simp)) column
  | cons second later ih =>
    rw [run_cons,List.getLast_cons (List.cons_ne_nil second later)]
    exact ih (fun facts member => filed facts (List.mem_cons_of_mem first member)) returned.2

end History

def marchUsage (amount : ℚ) : List CostFact := [usageLine "aws" "f-1" "ec2" march2026 amount]

end CloudLens.Cost
