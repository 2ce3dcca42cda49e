import CloudLens.Connectors.Landing
import CloudLens.Library.Sha256

/-! Sync jobs over scopes: the idempotency key, the table sync_jobs with its unique
constraint, and `execute_sync`, which returns an earlier job or processes each
scope on its own. What the work on a scope reads and writes besides its outcome is
a parameter, the world. -/
namespace CloudLens.Sync
open Library Connectors

inductive SyncType
  | initialDiscovery
  | fullSync
  | incrementalSync
  | scheduledSync
  | manualSync
  | onDemandSingleEntityRefresh
  | backfill
  deriving DecidableEq

inductive SyncJobStatus
  | scheduled
  | running
  | completed
  | partialSuccess
  | failed
  | cancelled
  deriving DecidableEq

structure Moment where
  instant : ℤ
  isoformat : String

structure ScopeError where
  message : String
  code : String
  deriving DecidableEq

structure SyncScopeResult where
  scopeId : String
  outcome : Except ScopeError ℕ

structure SyncJob where
  id : String
  tenantId : String
  connectorId : String
  scopeId : String
  syncType : SyncType
  capability : Option ConnectorCapability
  datasetVersion : Option String
  idempotencyKey : List Char
  periodStart : Option ℤ
  periodEnd : Option ℤ
  scopesRequested : List String
  scopesCompleted : List String
  scopesFailed : List String
  status : SyncJobStatus
  rowsIngested : ℕ
  errorMessage : Option String
  deriving DecidableEq

structure HierarchyNode where
  id : Option String
  scopeId : Option String

/-- One call: its arguments, the error of the connector's health probe, the nodes
its hierarchy discovery returns (none when it cannot or fails), and which of the
rows under one key the database returns. -/
structure SyncCall where
  tenantId : String
  connectorId : String
  syncType : SyncType
  capability : Option ConnectorCapability
  targetScopes : List String
  periodStart : Option Moment
  periodEnd : Option Moment
  datasetVersion : Option String
  allowIdempotentSkip : Bool
  healthError : Option String
  hierarchy : List HierarchyNode
  row : ℕ

def isoOrNone (moment : Option Moment) : String := (moment.map Moment.isoformat).getD "none"

def rawKey (connectorId : String) (capability : Option ConnectorCapability) (periodStart periodEnd : Option Moment)
    (datasetVersion : Option String) : String :=
  connectorId ++ ":" ++ (capability.map ConnectorCapability.value).getD "all" ++ ":" ++ isoOrNone periodStart ++ ":" ++
    isoOrNone periodEnd ++ ":" ++ orElseText datasetVersion "v1"

def computeIdempotencyKey (connectorId : String) (capability : Option ConnectorCapability)
    (periodStart periodEnd : Option Moment) (datasetVersion : Option String) : List Char :=
  (Sha256.textDigest (rawKey connectorId capability periodStart periodEnd datasetVersion).toList).take 32

namespace SyncCall

variable (call : SyncCall)

def idempotencyKey : List Char :=
  computeIdempotencyKey call.connectorId call.capability call.periodStart call.periodEnd call.datasetVersion

def initialScopes : List String := if call.targetScopes = [] then ["root"] else call.targetScopes

def discoveredScopes : List String :=
  call.hierarchy.filterMap (fun node =>
    let named := orElseText node.id (node.scopeId.getD "")
    if named = "" then none else some named)

def scopesToProcess : List String :=
  if call.initialScopes = ["root"] ∧ (call.syncType = .initialDiscovery ∨ call.syncType = .fullSync) ∧
      call.discoveredScopes ≠ [] then call.discoveredScopes
  else call.initialScopes

def newJob (id : String) : SyncJob where
  id := id
  tenantId := call.tenantId
  connectorId := call.connectorId
  scopeId := call.initialScopes.head?.getD "root"
  syncType := call.syncType
  capability := call.capability
  datasetVersion := call.datasetVersion
  idempotencyKey := call.idempotencyKey
  periodStart := call.periodStart.map Moment.instant
  periodEnd := call.periodEnd.map Moment.instant
  scopesRequested := call.initialScopes
  scopesCompleted := []
  scopesFailed := []
  status := .running
  rowsIngested := 0
  errorMessage := none

end SyncCall

/-- The rows that uq_sync_jobs_idempotency keeps apart. -/
def SameIdentity (first second : SyncJob) : Prop :=
  first.tenantId = second.tenantId ∧ first.connectorId = second.connectorId ∧ first.capability = second.capability ∧
    first.periodStart = second.periodStart ∧ first.periodEnd = second.periodEnd ∧ first.datasetVersion = second.datasetVersion

instance (first second : SyncJob) : Decidable (SameIdentity first second) := inferInstanceAs (Decidable (_ ∧ _))

/-- INSERT INTO sync_jobs .. ON CONFLICT (id) DO UPDATE; nothing where the unique
constraint refuses the row. -/
def saveJob (jobs : List SyncJob) (job : SyncJob) : Option (List SyncJob) :=
  if job.id ∈ jobs.map SyncJob.id then
    some (jobs.map (fun row => if row.id = job.id then
      { row with
        status := job.status
        rowsIngested := job.rowsIngested
        errorMessage := job.errorMessage
        scopesCompleted := job.scopesCompleted
        scopesFailed := job.scopesFailed } else row))
  else if ∃ row ∈ jobs, SameIdentity row job then none
  else some (jobs ++ [job])

structure SyncState (World : Type) where
  jobs : List SyncJob
  world : World
  drawn : ℕ

inductive SyncAnswer
  | skipped (existing : SyncJob)
  | ran (job : SyncJob) (scopeResults : List SyncScopeResult)
  | refused

def succeeded (results : List SyncScopeResult) : List String :=
  results.filterMap (fun result => match result.outcome with
    | .ok _ => some result.scopeId
    | .error _ => none)

theorem mem_succeeded {results : List SyncScopeResult} {scope : String} :
    scope ∈ succeeded results ↔ ∃ rows, (⟨scope,.ok rows⟩ : SyncScopeResult) ∈ results := by
  unfold succeeded
  rw [List.mem_filterMap]
  constructor
  · rintro ⟨⟨named,outcome⟩,member,selected⟩
    cases outcome with
    | ok rows =>
      obtain rfl := Option.some.inj selected
      exact ⟨rows,member⟩
    | error error => cases selected
  · rintro ⟨rows,member⟩
    exact ⟨_,member,rfl⟩

def failures (results : List SyncScopeResult) : List String :=
  results.filterMap (fun result => match result.outcome with
    | .ok _ => none
    | .error _ => some result.scopeId)

def SyncScopeResult.recordsIngested (result : SyncScopeResult) : ℕ :=
  match result.outcome with
  | .ok rows => rows
  | .error _ => 0

def finalStatus (results : List SyncScopeResult) : SyncJobStatus :=
  if failures results = [] then .completed
  else if succeeded results ≠ [] then .partialSuccess
  else .failed

def finalMessage (results : List SyncScopeResult) : Option String :=
  if failures results = [] then none
  else if succeeded results ≠ [] then
    some (toString (failures results).length ++ " of " ++ toString results.length ++ " scopes failed")
  else some "All target scopes encountered execution failures"

section Execute

variable {World : Type} (uuid : ℕ → String) (work : SyncCall → String → World → String → World × Except ScopeError ℕ)

def processScopes (call : SyncCall) (jobId : String) : World → List String → World × List SyncScopeResult
  | world, [] => (world, [])
  | world, scope :: rest =>
    let (worked, outcome) := work call jobId world scope
    let (last, results) := processScopes call jobId worked rest
    (last, ⟨scope,outcome⟩ :: results)

def runJob (world : World) (call : SyncCall) (job : SyncJob) : World × SyncJob × List SyncScopeResult :=
  match call.healthError with
  | some error => (world, { job with status := .failed, errorMessage := some error }, [])
  | none =>
    let (worked, results) := processScopes work call job.id world call.scopesToProcess
    (worked,
      { job with
        scopesRequested := call.scopesToProcess
        scopesCompleted := succeeded results
        scopesFailed := failures results
        rowsIngested := (results.map SyncScopeResult.recordsIngested).sum
        status := finalStatus results
        errorMessage := finalMessage results }, results)

def finished (job : SyncJob) : Bool := job.status = .completed || job.status = .partialSuccess

def underKey (jobs : List SyncJob) (call : SyncCall) : List SyncJob :=
  jobs.filter (fun job => job.tenantId = call.tenantId && job.idempotencyKey = call.idempotencyKey)

def existingJob (jobs : List SyncJob) (call : SyncCall) : Option SyncJob :=
  if call.allowIdempotentSkip then
    ((underKey jobs call)[call.row % (underKey jobs call).length]?).filter finished
  else none

def executeSync (s : SyncState World) (call : SyncCall) : SyncState World × SyncAnswer :=
  match existingJob s.jobs call with
  | some existing => (s, .skipped existing)
  | none =>
    let job := call.newJob ("sync-" ++ uuid s.drawn)
    match saveJob s.jobs job with
    | none => ({ s with drawn := s.drawn + 1 }, .refused)
    | some started =>
      let (worked, final, results) := runJob work s.world call job
      match saveJob started final with
      | none => (⟨started,worked,s.drawn + 1⟩, .refused)
      | some stored => (⟨stored,worked,s.drawn + 1⟩, .ran final results)

end Execute

end CloudLens.Sync
