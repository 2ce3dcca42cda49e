import CloudLens.Sync.Orchestrator
import CloudLens.Connectors.Pagination

/-! The work on one scope: which methods of the connector a sync type or a targeted
capability calls, how their records are validated, quarantined and landed, and
what is counted. Of the pages of a method only the first is asked for. -/
namespace CloudLens.Sync
open Library Connectors

inductive QuarantineReason
  | schemaViolation
  | monetarySanityFailure
  | missingRequiredFields
  | unparseablePayload
  | rateLimitExhausted
  | retriesExhausted
  deriving DecidableEq

structure Verdict where
  isValid : Bool
  reason : Option QuarantineReason
  message : Option String

structure QuarantineRecord where
  id : String
  tenantId : String
  connectorId : String
  jobId : String
  capability : ConnectorCapability
  quarantineReason : QuarantineReason
  errorDetails : String
  keys : List String
  sample : List (String × List Char)
  deriving DecidableEq

structure LandingAnswer where
  putError : Option String
  uploaded : Bool
  databaseError : Option String

/-- The connector: its capabilities, and the page that a method returns for a scope
and a continuation token. -/
structure CloudConnector where
  declares : ConnectorCapability → Bool
  page : ConnectorCapability → Option String → Option String → Except ScopeError PagedResult

/-- What the work uses besides the connector: the record validator of the tenant,
`json.dumps`, `str`, the error of a failed landing, and the stores' answers. -/
structure SyncServices where
  validateSingleRecord : Json → ConnectorCapability → Verdict
  dumps : Json → Except String (List Char)
  text : Json → List Char
  describe : LandingError → ScopeError
  landing : String → LandingAnswer
  month : String
  requireRealdb : Bool

structure SyncWorld where
  storage : Storage
  quarantine : List QuarantineRecord
  checkpoints : CheckpointKey → Option JobCheckpoint
  drawn : ℕ

/-- One fetch of the dispatch: the method, whether it is given the scope, the
capability its records are validated under, and whether they are landed. -/
structure Stage where
  method : ConnectorCapability
  ofScope : Bool
  validatedAs : Option ConnectorCapability
  lands : Bool
  deriving DecidableEq

section Work

variable (uuid : ℕ → String) (services : SyncServices) (connector : CloudConnector)

def recordMembers : Json → List (String × Json)
  | .obj members => members
  | _ => []

def quarantineRecord (call : SyncCall) (jobId : String) (capability : ConnectorCapability) (id : String) (record : Json) :
    QuarantineRecord where
  id := id
  tenantId := call.tenantId
  connectorId := call.connectorId
  jobId := jobId
  capability := capability
  quarantineReason := (services.validateSingleRecord record capability).reason.getD .schemaViolation
  errorDetails := orElseText (services.validateSingleRecord record capability).message "Unknown validation failure"
  keys := (recordMembers record).map Prod.fst
  sample := ((recordMembers record).take 5).map (fun member => (member.1, (services.text member.2).take 100))

def validateAndQuarantineBatch (call : SyncCall) (jobId : String) (capability : ConnectorCapability) :
    SyncWorld → List Json → SyncWorld × List Json × List QuarantineRecord
  | world, [] => (world, [], [])
  | world, record :: rest =>
    if (services.validateSingleRecord record capability).isValid then
      let (last, valid, quarantined) := validateAndQuarantineBatch call jobId capability world rest
      (last, record :: valid, quarantined)
    else
      let entry := quarantineRecord services call jobId capability ("quar-" ++ uuid world.drawn) record
      let saved := { world with quarantine := world.quarantine ++ [entry], drawn := world.drawn + 1 }
      let (last, valid, quarantined) := validateAndQuarantineBatch call jobId capability saved rest
      (last, valid, entry :: quarantined)

def landingCall (call : SyncCall) (jobId scope : String) (capability : ConnectorCapability) (drawn : ℕ) (valid : List Json) :
    LandingCall where
  tenantId := call.tenantId
  connectorId := call.connectorId
  runId := jobId
  capability := capability
  pageNumber := 1
  rawPayload := .arr valid
  schemaVersion := "2026-09-01"
  dataset := none
  period := none
  landingId := "land-" ++ uuid drawn
  month := services.month
  putError := (services.landing scope).putError
  uploaded := (services.landing scope).uploaded
  databaseError := (services.landing scope).databaseError
  requireRealdb := services.requireRealdb

def resumeToken (call : SyncCall) (jobId : String) (world : SyncWorld) : Option String :=
  if call.capability = none ∧ call.syncType = .incrementalSync then
    match world.checkpoints (call.tenantId, jobId, ConnectorCapability.discoverResources.value) with
    | some checkpoint => if checkpoint.continuationToken = some "" then none else checkpoint.continuationToken
    | none => none
  else none

def executeStage (call : SyncCall) (jobId scope : String) (world : SyncWorld) (stage : Stage) :
    SyncWorld × Except ScopeError ℕ :=
  match connector.page stage.method (if stage.ofScope then some scope else none) (resumeToken call jobId world) with
  | .error error => (world, .error error)
  | .ok page =>
    match stage.validatedAs with
    | none => (world, .ok page.items.length)
    | some capability =>
      let (validated, valid, _) := validateAndQuarantineBatch uuid services call jobId capability world page.items
      if stage.lands ∧ valid ≠ [] then
        let (storage, answer) := landRawPayload services.dumps validated.storage
          (landingCall uuid services call jobId scope capability validated.drawn valid)
        let landed := { validated with storage := storage, drawn := validated.drawn + 1 }
        match answer with
        | .error error => (landed, .error (services.describe error))
        | .ok _ => (landed, .ok valid.length)
      else (validated, .ok valid.length)

def executeStages (call : SyncCall) (jobId scope : String) : SyncWorld → List Stage → SyncWorld × Except ScopeError ℕ
  | world, [] => (world, .ok 0)
  | world, stage :: rest =>
    let (done, answer) := executeStage uuid services connector call jobId scope world stage
    match answer with
    | .error error => (done, .error error)
    | .ok rows =>
      let (last, total) := executeStages call jobId scope done rest
      (last, total.map (rows + ·))

def discoverResourcesStage : Stage := ⟨.discoverResources,true,some .discoverResources,false⟩

def discoverServicesStage : Stage := ⟨.discoverServices,false,none,false⟩

def collectCostStage (lands : Bool) : Stage := ⟨.collectCostBulk,false,some .collectCostBulk,lands⟩

def collectUsageStage : Stage := ⟨.collectUsage,true,some .collectUsage,false⟩

def dispatchCapability : ConnectorCapability → List Stage
  | .discoverResources => [discoverResourcesStage]
  | .collectCostBulk => [collectCostStage true]
  | .collectCostQuery => [⟨.collectCostBulk,false,some .collectCostQuery,true⟩]
  | .collectUsage => [collectUsageStage]
  | .discoverHierarchy => [⟨.discoverHierarchy,false,none,false⟩]
  | .discoverServices => [discoverServicesStage]
  | .collectPricingPublic => [⟨.collectPricingPublic,false,none,false⟩]
  | .collectBudgets => [⟨.collectBudgets,false,none,false⟩]
  | _ => []

def syncTypeStages : SyncType → List Stage
  | .initialDiscovery => [discoverServicesStage, discoverResourcesStage]
  | .fullSync => [discoverResourcesStage, collectCostStage true, collectUsageStage]
  | .manualSync => [discoverResourcesStage, collectCostStage true, collectUsageStage]
  | .scheduledSync => [discoverResourcesStage, collectCostStage true, collectUsageStage]
  | .incrementalSync => [discoverResourcesStage]
  | .onDemandSingleEntityRefresh => [discoverResourcesStage]
  | .backfill => [collectCostStage false]

def scopeStages (call : SyncCall) : List Stage :=
  match call.capability with
  | some capability => if connector.declares capability then dispatchCapability capability else []
  | none => (syncTypeStages call.syncType).filter (fun stage => connector.declares stage.method)

def executeScopeWork (call : SyncCall) (jobId : String) (world : SyncWorld) (scope : String) : SyncWorld × Except ScopeError ℕ :=
  executeStages uuid services connector call jobId scope world (scopeStages connector call)

end Work

end CloudLens.Sync
