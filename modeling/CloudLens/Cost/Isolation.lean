import CloudLens.Cost.Pipeline
import CloudLens.Library.Runs

/-! Which rows of the fact table a bulk ingestion changes. A replacement
deletes a tenant's whole partition of the month, whatever provider its rows came
from, so a job leaves another provider's rows alone exactly when the partitions
it replaces hold none of them. A replacement that raises replaces nothing. -/
namespace CloudLens.Cost
open Library Library.Calendar Library.Runs

structure ProducedBy (facts : List CostFact) (key : FactKey) (found : Option FactRow) : Prop where
  present : found.isSome ↔ ∃ f ∈ facts, f.billingPeriodStart = some key.billingPeriodStart ∧ f.id = key.id
  native : ∀ row, found = some row → ∃ f ∈ facts, f.billingPeriodStart = some key.billingPeriodStart ∧ f.id = key.id ∧
    row.providerNative = f ∧ overwriteFact row (factRow f) = row

section Swap

variable {tenant : String} {start next : Date} {facts : List CostFact} {db : CostDb}

private theorem factKey_inside (inside : ∀ f ∈ facts, f.billingPeriodStart = some start) {f : CostFact} (member : f ∈ facts) :
    factKey tenant start f = ⟨start,tenant,f.id⟩ := by
  simp [factKey,inside f member]

theorem swap_frame (inside : ∀ f ∈ facts, f.billingPeriodStart = some start) {key : FactKey}
    (apart : ¬ (key.tenantId = tenant ∧ key.billingPeriodStart = start)) :
    (swapPartition tenant start next facts db).costFact.lookup key = db.costFact.lookup key := by
  have outside : ∀ f ∈ facts, factKey tenant start f ≠ key := by
    intro f member same
    apply apart
    rw [← same,factKey_inside inside member]
    exact ⟨rfl,rfl⟩
  have kept : ∀ row, inPartition tenant start key row = false := by
    intro row
    rw [← Bool.not_eq_true]
    simpa [inPartition] using apart
  refine (Table.lookup_upsertAll_of_notMem outside).trans ?_
  rw [Table.lookup_deleteWhere]
  cases db.costFact.lookup key with
  | none => rfl
  | some row => simp [Option.filter,kept row]

theorem swap_produced (inside : ∀ f ∈ facts, f.billingPeriodStart = some start) {key : FactKey}
    (owner : key.tenantId = tenant) (month : key.billingPeriodStart = start) :
    ProducedBy facts key ((swapPartition tenant start next facts db).costFact.lookup key) := by
  have deleted : (db.costFact.deleteWhere (inPartition tenant start)).lookup key = none := by
    rw [Table.lookup_deleteWhere]
    cases db.costFact.lookup key with
    | none => rfl
    | some row => simp [Option.filter,inPartition,owner,month]
  constructor
  · refine Table.lookup_upsertAll_isSome.trans ?_
    rw [deleted]
    simp only [Option.isSome_none,Bool.false_eq_true,false_or]
    constructor
    · rintro ⟨f,member,same⟩
      rw [factKey_inside inside member] at same
      exact ⟨f,member,by rw [inside f member,month],congrArg FactKey.id same⟩
    · rintro ⟨f,member,_,named⟩
      refine ⟨f,member,?_⟩
      rw [factKey_inside inside member,named,← owner,← month]
  · intro row found
    rcases Table.mem_of_lookup_upsertAll found with previous | ⟨f,member,same,shape⟩
    · rw [deleted] at previous
      cases previous
    · rw [factKey_inside inside member] at same
      refine ⟨f,member,by rw [inside f member,month],by rw [same],?_⟩
      rcases shape with rfl | ⟨earlier,rfl⟩
      · exact ⟨rfl,rfl⟩
      · exact ⟨rfl,rfl⟩

end Swap

/-- The months whose partition a job replaces: a replacement that raises ends the
job, and what was replaced before stays. -/
def replacedMonths (tenant : String) : List (String × List CostFact) → CostDb → List Date
  | [], _ => []
  | (period, facts) :: rest, db =>
    match periodBounds period, replacePartitionAtomic tenant period facts db with
    | .ok (start, _), .ok (after, _) => start :: replacedMonths tenant rest after
    | _, _ => []

def FiledGroup (group : String × List CostFact) : Prop :=
  ∃ start : Date, start.day = 1 ∧ group.1 = formatMonth start ∧ ∀ f ∈ group.2, f.billingPeriodStart = some start

private theorem filedGroup_start {group : String × List CostFact} (filed : FiledGroup group) {start next : Date}
    (bounds : periodBounds group.1 = .ok (start, next)) :
    group.1 = formatMonth start ∧ ∀ f ∈ group.2, f.billingPeriodStart = some start := by
  obtain ⟨d,first,named,inside⟩ := filed
  have same : d.firstOfMonth = d := (Date.firstOfMonth_eq_iff first).mpr ⟨rfl,rfl⟩
  rw [named,periodBounds,parseBillingPeriod_formatMonth,same] at bounds
  simp only [Option.getD_some] at bounds
  split at bounds
  · cases bounds
    exact ⟨named,inside⟩
  · cases bounds

section Loop

variable {Raw : Type} {job : IngestionJob Raw} {period : String} {facts : List CostFact} {db : CostDb}
  {groups : List (String × List CostFact)}

private theorem replacedMonths_error {e : CostError} (refused : replacePartitionAtomic job.tenantId period facts db = .error e) :
    replacedMonths job.tenantId ((period, facts) :: groups) db = [] := by
  rw [replacedMonths,refused]
  cases periodBounds period <;> rfl

private theorem replacedMonths_ok {start next : Date} (replaces : Replaces job.tenantId period start next facts db) :
    replacedMonths job.tenantId ((period, facts) :: groups) db =
      start :: replacedMonths job.tenantId groups (swapPartition job.tenantId start next facts db) := by
  rw [replacedMonths,replacePartitionAtomic_of_replaces replaces,replaces.bounds]

private theorem mem_replacedMonths (filed : ∀ group ∈ groups, FiledGroup group) {month : Date}
    (member : month ∈ replacedMonths job.tenantId groups db) : formatMonth month ∈ groups.map Prod.fst := by
  induction groups generalizing db with
  | nil => cases member
  | cons group groups ih =>
    obtain ⟨period,facts⟩ := group
    cases ran : replacePartitionAtomic job.tenantId period facts db with
    | error e =>
      rw [replacedMonths_error ran] at member
      cases member
    | ok result =>
      obtain ⟨start,next,replaces,_⟩ := replaces_of_ok ran
      rw [replacedMonths_ok replaces] at member
      rcases List.mem_cons.mp member with rfl | later
      · rw [← (filedGroup_start (filed (period, facts) (by simp)) replaces.bounds).1]
        simp
      · exact List.mem_cons_of_mem _ (ih (fun other inside => filed other (by simp [inside])) later)

theorem replacePartitions_frame (filed : ∀ group ∈ groups, FiledGroup group) {rows : ℕ}
    {records : List CostRestatementRecord} {key : FactKey}
    (apart : ¬ (key.tenantId = job.tenantId ∧ key.billingPeriodStart ∈ replacedMonths job.tenantId groups db)) :
    (replacePartitions job groups db rows records).1.costFact.lookup key = db.costFact.lookup key := by
  induction groups generalizing db rows records with
  | nil => rfl
  | cons group groups ih =>
    obtain ⟨period,facts⟩ := group
    cases ran : replacePartitionAtomic job.tenantId period facts db with
    | error e => rw [replacePartitions,ran]
    | ok result =>
      obtain ⟨start,next,replaces,rfl⟩ := replaces_of_ok ran
      rw [replacedMonths_ok replaces,List.mem_cons,not_and_or,not_or] at apart
      obtain ⟨_,inside⟩ := filedGroup_start (filed (period, facts) (by simp)) replaces.bounds
      rw [replacePartitions,ran]
      refine (ih (fun other member => filed other (by simp [member])) (by tauto)).trans (swap_frame inside ?_)
      tauto

theorem replacePartitions_produced (filed : ∀ group ∈ groups, FiledGroup group) (distinct : (groups.map Prod.fst).Nodup)
    {rows : ℕ} {records : List CostRestatementRecord} {key : FactKey} (owner : key.tenantId = job.tenantId)
    (touched : key.billingPeriodStart ∈ replacedMonths job.tenantId groups db) :
    ∃ group ∈ groups, group.1 = formatMonth key.billingPeriodStart ∧
      ProducedBy group.2 key ((replacePartitions job groups db rows records).1.costFact.lookup key) := by
  induction groups generalizing db rows records with
  | nil => cases touched
  | cons group groups ih =>
    obtain ⟨period,facts⟩ := group
    rw [List.map_cons,List.nodup_cons] at distinct
    have later : ∀ other ∈ groups, FiledGroup other := fun other member => filed other (by simp [member])
    cases ran : replacePartitionAtomic job.tenantId period facts db with
    | error e =>
      rw [replacedMonths_error ran] at touched
      cases touched
    | ok result =>
      obtain ⟨start,next,replaces,rfl⟩ := replaces_of_ok ran
      obtain ⟨named,inside⟩ := filedGroup_start (filed (period, facts) (by simp)) replaces.bounds
      rw [replacedMonths_ok replaces] at touched
      rw [replacePartitions,ran]
      by_cases here : key.billingPeriodStart = start
      · have once : key.billingPeriodStart ∉
            replacedMonths job.tenantId groups (swapPartition job.tenantId start next facts db) := by
          intro again
          apply distinct.1
          rw [named,← here]
          exact mem_replacedMonths later again
        refine ⟨(period, facts),by simp,by rw [named,here],?_⟩
        rw [replacePartitions_frame later (fun both => once both.2)]
        exact swap_produced inside owner here
      · obtain ⟨other,member,same,produced⟩ := ih later distinct.2 ((List.mem_cons.mp touched).resolve_left here)
        exact ⟨other,by simp [member],same,produced⟩

end Loop

private theorem formatMonth_month {a b : Date} (same : formatMonth a = formatMonth b) : a.firstOfMonth = b.firstOfMonth := by
  have parsed := parseBillingPeriod_formatMonth a
  rw [same,parseBillingPeriod_formatMonth] at parsed
  exact (Option.some.inj (Except.ok.inj parsed)).symm

section Jobs

variable {Raw : Type} (read : RowMapper → Raw → String → String → ℕ → Except CostError RowFields)

def jobFacts (job : IngestionJob Raw) : List CostFact :=
  match mapDataset read job with
  | .ok facts => facts
  | .error _ => []

def ingestStep (db : CostDb) (job : IngestionJob Raw) : CostDb := (executeBulkIngestion read job db).1

def label (job : IngestionJob Raw) : String := Text.lower job.provider

def Touches (db : CostDb) (job : IngestionJob Raw) (key : FactKey) : Prop :=
  key.tenantId = job.tenantId ∧
    key.billingPeriodStart ∈ replacedMonths job.tenantId (Grouping.groupInto factPeriod (jobFacts read job)) db

def providerRow (provider : String) (key : FactKey) (db : CostDb) : Option FactRow :=
  (db.costFact.lookup key).filter (fun row => row.providerNative.provider = provider)

def FindsOwnRows (db : CostDb) (job : IngestionJob Raw) : Prop :=
  ∀ key row, Touches read db job key → db.costFact.lookup key = some row → row.providerNative.provider = label job

def LeavesOthersAlone (db : CostDb) (job : IngestionJob Raw) : Prop :=
  ∀ provider key, provider ≠ label job → providerRow provider key (ingestStep read db job) = providerRow provider key db

variable {read}

private theorem mem_jobFacts {job : IngestionJob Raw} {f : CostFact} (member : f ∈ jobFacts read job) :
    ∃ fields, f = buildFact job.tenantId job.provider (rowMapper job.provider job.schemaVersion) fields := by
  unfold jobFacts at member
  split at member
  · rename_i facts mapped
    exact mem_mapDataset read mapped member
  · cases member

private theorem jobFacts_provider {job : IngestionJob Raw} {f : CostFact} (member : f ∈ jobFacts read job) :
    f.provider = label job := by
  obtain ⟨fields,rfl⟩ := mem_jobFacts member
  exact mapperProvider_rowMapper job.provider job.schemaVersion

private theorem jobFacts_filed (job : IngestionJob Raw) :
    ∀ group ∈ Grouping.groupInto factPeriod (jobFacts read job), FiledGroup group := by
  obtain ⟨_,covered,grouped⟩ := Grouping.groupInto_spec factPeriod (jobFacts read job)
  intro group member
  obtain ⟨f,source,named⟩ := (covered group.1).mp (List.mem_map_of_mem member)
  obtain ⟨fields,rfl⟩ := mem_jobFacts source
  refine ⟨fields.startDate.firstOfMonth,rfl,named.symm,?_⟩
  intro other inside
  rw [grouped group member,List.mem_filter,decide_eq_true_eq] at inside
  obtain ⟨others,rfl⟩ := mem_jobFacts inside.1
  have months := formatMonth_month (inside.2.trans named.symm)
  exact congrArg some months

private theorem ingestStep_eq (db : CostDb) (job : IngestionJob Raw) :
    ingestStep read db job = (replacePartitions job (Grouping.groupInto factPeriod (jobFacts read job)) db 0 []).1 := by
  unfold ingestStep executeBulkIngestion jobFacts mapDataset
  cases validateSchema job.provider job.schemaVersion with
  | error e => rfl
  | ok _ =>
    cases rows : job.dataset with
    | nil => rfl
    | cons row rest =>
      simp only [List.isEmpty_cons,Bool.false_eq_true,if_false]
      cases mapRows read job (rowMapper job.provider job.schemaVersion) 0 (row :: rest) with
      | error e => rfl
      | ok facts =>
        simp only
        split
        · rename_i after e outcome
          rw [outcome]
        · rename_i after total records outcome
          rw [outcome]

theorem ingestStep_untouched {db : CostDb} {job : IngestionJob Raw} {key : FactKey} (apart : ¬ Touches read db job key) :
    (ingestStep read db job).costFact.lookup key = db.costFact.lookup key := by
  rw [ingestStep_eq]
  exact replacePartitions_frame (jobFacts_filed job) apart

theorem ingestStep_touched (db : CostDb) {job : IngestionJob Raw} {key : FactKey} (touched : Touches read db job key) :
    ProducedBy (jobFacts read job) key ((ingestStep read db job).costFact.lookup key) := by
  obtain ⟨distinct,_,grouped⟩ := Grouping.groupInto_spec factPeriod (jobFacts read job)
  rw [ingestStep_eq]
  obtain ⟨group,member,named,produced⟩ := replacePartitions_produced (jobFacts_filed job) distinct touched.1 touched.2
  have whole : ∀ f, f ∈ group.2 ↔ f ∈ jobFacts read job ∧ factPeriod f = group.1 := by
    intro f
    rw [grouped group member,List.mem_filter,decide_eq_true_eq]
  constructor
  · rw [produced.present]
    constructor
    · intro found
      obtain ⟨f,inside,same⟩ := found
      exact ⟨f,((whole f).mp inside).1,same⟩
    · intro found
      obtain ⟨f,source,month,same⟩ := found
      refine ⟨f,(whole f).mpr ⟨source,?_⟩,month,same⟩
      rw [factPeriod,month,named]
  · intro row found
    obtain ⟨f,inside,rest⟩ := produced.native row found
    exact ⟨f,((whole f).mp inside).1,rest⟩

private theorem ingestStep_provider {db : CostDb} {job : IngestionJob Raw} {key : FactKey} {row : FactRow}
    (touched : Touches read db job key) (found : (ingestStep read db job).costFact.lookup key = some row) :
    row.providerNative.provider = label job := by
  obtain ⟨f,source,_,_,native,_⟩ := (ingestStep_touched db touched).native row found
  have same := congrArg CostFact.provider native
  change row.providerNative.provider = f.provider at same
  exact same.trans (jobFacts_provider source)

theorem leavesOthersAlone_iff (db : CostDb) (job : IngestionJob Raw) :
    LeavesOthersAlone read db job ↔ FindsOwnRows read db job := by
  constructor
  · intro alone key row touched found
    by_contra foreign
    have before : providerRow row.providerNative.provider key db = some row := by
      simp [providerRow,found,Option.filter]
    have after := alone _ key foreign
    rw [before,providerRow,Option.filter_eq_some_iff] at after
    exact foreign (ingestStep_provider touched after.1)
  · intro own provider key foreign
    by_cases touched : Touches read db job key
    · have before : providerRow provider key db = none := by
        rw [providerRow,Option.filter_eq_none_iff]
        intro row found same
        rw [decide_eq_true_eq,own key row touched found] at same
        exact foreign same.symm
      have after : providerRow provider key (ingestStep read db job) = none := by
        rw [providerRow,Option.filter_eq_none_iff]
        intro row found same
        rw [decide_eq_true_eq,ingestStep_provider touched found] at same
        exact foreign same.symm
      rw [before,after]
    · rw [providerRow,ingestStep_untouched touched,providerRow]

private theorem providerRow_kept {provider : String} {key : FactKey} {db : CostDb} {jobs : List (IngestionJob Raw)}
    (own : Along (ingestStep read) (FindsOwnRows read) db jobs)
    (absent : Along (ingestStep read) (fun s job => label job = provider → ¬ Touches read s job key) db jobs) :
    providerRow provider key (run (ingestStep read) db jobs) = providerRow provider key db := by
  induction jobs generalizing db with
  | nil => rfl
  | cons job jobs ih =>
    obtain ⟨first,rest⟩ := own
    obtain ⟨quiet,later⟩ := absent
    rw [run_cons,ih rest later]
    by_cases same : label job = provider
    · rw [providerRow,ingestStep_untouched (quiet same),providerRow]
    · exact (leavesOthersAlone_iff db job).mpr first provider key (Ne.symm same)

private theorem produced_providerRow (db : CostDb) {job : IngestionJob Raw} {key : FactKey}
    (touched : Touches read db job key) :
    providerRow (label job) key (ingestStep read db job) = (ingestStep read db job).costFact.lookup key := by
  rw [providerRow]
  cases found : (ingestStep read db job).costFact.lookup key with
  | none => rfl
  | some row => simp [Option.filter,ingestStep_provider touched found]

end Jobs

def readFields (_ : RowMapper) (row : RowFields) (_ _ : String) (_ : ℕ) : Except CostError RowFields := .ok row

def usageRow (id : String) (day : Date) : RowFields where
  id := id
  scopeId := "scope-1"
  resourceId := none
  serviceId := "compute"
  chargePeriodStart := ⟨day,0⟩
  chargePeriodEnd := ⟨day,3600⟩
  startDate := day
  chargeCategory := .usage
  chargeSubcategory := none
  billedCost := .present 10
  effectiveCost := .present 10
  contractedCost := .absent .notApplicable
  listCost := .present 10
  billingCurrency := "USD"
  pricingQuantity := .present 1
  pricingUnit := none
  createdAt := ⟨day,7200⟩

def usageJob (provider schemaVersion id : String) (day : Date) : IngestionJob RowFields where
  jobToken := id
  tenantId := "t-1"
  dataset := [usageRow id day]
  provider := provider
  schemaVersion := schemaVersion
  scopeId := "scope-1"
  finishedAt := ⟨day,0⟩

def awsMarch : IngestionJob RowFields := usageJob "aws" "aws_cur_2_0" "aws-1" march2026

def azureMarch : IngestionJob RowFields := usageJob "azure" "azure_cost_details_v2" "azure-1" march2026

def azureApril : IngestionJob RowFields := usageJob "azure" "azure_cost_details_v2" "azure-1" april2026

end CloudLens.Cost
