import CloudLens.Library.Casing
import CloudLens.Cost.Repository
import CloudLens.Library.Grouping

/-! Bulk ingestion of a provider's billing dataset. A job checks its schema,
maps every record to a fact, groups the facts by billing month and replaces one
partition after the other; each replacement commits on its own, so a job that
raises half way keeps the partitions already replaced. What a row mapper reads
out of a raw record is a parameter; the fact it builds is not. -/
namespace CloudLens.Cost
open Library Library.Calendar

def supportedProviderSchemas : List (String × List String) := [
  ("aws", ["aws_cur_2_0", "aws_focus_1_0", "aws_cost_explorer_v1"]),
  ("azure", ["azure_cost_details_focus_1_0", "azure_cost_details_v2"]),
  ("gcp", ["gcp_billing_export_resource_v1", "gcp_billing_focus_1_0", "gcp_billing_export_v1"]),
  ("oci", ["oci_cost_report_v1", "oci_focus_1_0"])]

def canonical (s : String) : String := Text.lower (String.ofList (Text.strip s.toList))

def validateSchema (provider schemaVersion : String) : Except CostError Unit :=
  match supportedProviderSchemas.lookup (canonical provider) with
  | none => .error (.unknownSchemaVersion provider schemaVersion)
  | some allowed =>
    if canonical schemaVersion ∈ allowed then .ok ()
    else .error (.unknownSchemaVersion provider schemaVersion)

def isFocusNative (schemaVersion : String) : Bool :=
  "focus_1_0".toList <:+: (canonical schemaVersion).toList

inductive RowMapper where
  | focusDirect
  | awsCur
  | azureNative
  | gcpNative
  | ociNative
  deriving DecidableEq

def rowMapper (provider schemaVersion : String) : RowMapper :=
  if isFocusNative schemaVersion then .focusDirect
  else if Text.lower provider = "aws" then .awsCur
  else if Text.lower provider = "azure" then .azureNative
  else if Text.lower provider = "gcp" then .gcpNative
  else if Text.lower provider = "oci" then .ociNative
  else .focusDirect

structure RowFields where
  id : String
  scopeId : String
  resourceId : Option String
  serviceId : String
  chargePeriodStart : Timestamp
  chargePeriodEnd : Timestamp
  startDate : Date
  chargeCategory : ChargeCategory
  chargeSubcategory : Option String
  billedCost : Measure
  effectiveCost : Measure
  contractedCost : Measure
  listCost : Measure
  billingCurrency : String
  pricingQuantity : Measure
  pricingUnit : Option String
  createdAt : Timestamp

def mapperProvider (provider : String) : RowMapper → String
  | .focusDirect => Text.lower provider
  | .awsCur => "aws"
  | .azureNative => "azure"
  | .gcpNative => "gcp"
  | .ociNative => "oci"

def buildFact (tenantId provider : String) (mapper : RowMapper) (fields : RowFields) : CostFact where
  id := fields.id
  tenantId := tenantId
  scopeId := fields.scopeId
  resourceId := fields.resourceId
  provider := mapperProvider provider mapper
  serviceId := fields.serviceId
  chargePeriodStart := fields.chargePeriodStart
  chargePeriodEnd := fields.chargePeriodEnd
  billingPeriodStart := some fields.startDate.firstOfMonth
  chargeCategory := fields.chargeCategory
  chargeSubcategory := fields.chargeSubcategory
  billedCost := fields.billedCost
  effectiveCost := fields.effectiveCost
  contractedCost := fields.contractedCost
  listCost := fields.listCost
  billingCurrency := fields.billingCurrency
  pricingQuantity := fields.pricingQuantity
  pricingUnit := fields.pricingUnit
  isRestated := false
  restatementVersion := 1
  restatementDetectedAt := none
  restatementReason := none
  createdAt := fields.createdAt

def factPeriod (f : CostFact) : String :=
  match f.billingPeriodStart with
  | some start => formatMonth start
  | none => formatMonth f.chargePeriodStart.date

structure IngestionJob (Raw : Type) where
  jobToken : String
  tenantId : String
  dataset : List Raw
  provider : String
  schemaVersion : String
  scopeId : String
  finishedAt : Timestamp

structure IngestionJobResult where
  jobId : String
  tenantId : String
  provider : String
  schemaVersion : String
  billingPeriods : List String
  rowsIngested : ℕ
  isRestatementDetected : Bool
  restatementRecords : List CostRestatementRecord
  freshnessTimestamp : Timestamp

def replacePartitions {Raw : Type} (job : IngestionJob Raw) : List (String × List CostFact) → CostDb → ℕ →
    List CostRestatementRecord → CostDb × Except CostError (ℕ × List CostRestatementRecord)
  | [], db, rows, records => (db, .ok (rows, records))
  | (period, facts) :: rest, db, rows, records =>
    match replacePartitionAtomic job.tenantId period facts db with
    | .error e => (db, .error e)
    | .ok (after, count, restatement) =>
      replacePartitions job rest after (rows + count) (records ++ restatement.toList)

section Ingestion

variable {Raw : Type} (read : RowMapper → Raw → String → String → ℕ → Except CostError RowFields)

def mapRows (job : IngestionJob Raw) (mapper : RowMapper) : ℕ → List Raw → Except CostError (List CostFact)
  | _, [] => .ok []
  | idx, row :: rest =>
    match read mapper row job.provider job.scopeId idx with
    | .error e => .error e
    | .ok fields =>
      match mapRows job mapper (idx + 1) rest with
      | .error e => .error e
      | .ok facts => .ok (buildFact job.tenantId job.provider mapper fields :: facts)

def mapDataset (job : IngestionJob Raw) : Except CostError (List CostFact) :=
  match validateSchema job.provider job.schemaVersion with
  | .error e => .error e
  | .ok _ => mapRows read job (rowMapper job.provider job.schemaVersion) 0 job.dataset

def executeBulkIngestion (job : IngestionJob Raw) (db : CostDb) : CostDb × Except CostError IngestionJobResult :=
  match validateSchema job.provider job.schemaVersion with
  | .error e => (db, .error e)
  | .ok _ =>
    if job.dataset.isEmpty then
      (db, .ok ⟨"job-cost-ingest-" ++ job.jobToken,job.tenantId,job.provider,job.schemaVersion,[],0,false,[],job.finishedAt⟩)
    else match mapDataset read job with
      | .error e => (db, .error e)
      | .ok facts =>
        let partitions := Grouping.groupInto factPeriod facts
        match replacePartitions job partitions db 0 [] with
        | (after, .error e) => (after, .error e)
        | (after, .ok (rows, records)) =>
          (after, .ok ⟨"job-cost-ingest-" ++ job.jobToken,job.tenantId,job.provider,job.schemaVersion,
            (partitions.map Prod.fst).mergeSort (fun a b => decide (a ≤ b)),rows,!records.isEmpty,records,job.finishedAt⟩)

theorem mapperProvider_rowMapper (provider schemaVersion : String) :
    mapperProvider provider (rowMapper provider schemaVersion) = (Text.lower provider) := by
  unfold rowMapper
  split
  · rfl
  · split
    · rename_i named
      exact named.symm
    · split
      · rename_i named
        exact named.symm
      · split
        · rename_i named
          exact named.symm
        · split
          · rename_i named
            exact named.symm
          · rfl

theorem mem_mapRows {job : IngestionJob Raw} {mapper : RowMapper} {idx : ℕ} {rows : List Raw} {facts : List CostFact}
    (mapped : mapRows read job mapper idx rows = .ok facts) {f : CostFact} (member : f ∈ facts) :
    ∃ fields, f = buildFact job.tenantId job.provider mapper fields := by
  induction rows generalizing idx facts with
  | nil =>
    rw [mapRows] at mapped
    cases mapped
    cases member
  | cons row rows ih =>
    rw [mapRows] at mapped
    split at mapped
    · cases mapped
    · rename_i fields _
      split at mapped
      · cases mapped
      · rename_i rest inner
        cases mapped
        rcases List.mem_cons.mp member with rfl | later
        · exact ⟨fields,rfl⟩
        · exact ih inner later

theorem mem_mapDataset {job : IngestionJob Raw} {facts : List CostFact} (mapped : mapDataset read job = .ok facts)
    {f : CostFact} (member : f ∈ facts) :
    ∃ fields, f = buildFact job.tenantId job.provider (rowMapper job.provider job.schemaVersion) fields := by
  unfold mapDataset at mapped
  split at mapped
  · cases mapped
  · exact mem_mapRows read mapped member

end Ingestion

end CloudLens.Cost
