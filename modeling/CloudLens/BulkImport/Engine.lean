import CloudLens.BulkImport.Model

/-! The engine of the bulk import for one tenant: the dry run over a parsed file, the
application of a dry run with its snapshot, and the rollback. Records are kept in the
engine and mirrored into the master data, whose failures are ignored. -/
namespace CloudLens.BulkImport
open Library
open MasterData (MasterDataStore MasterDataRecord Environment NewRecord RecordChange normalised)
open Calendar (Instant)

inductive RowOutcome
  | created
  | updated
  | skipped
  | rejected
  | deactivated
  deriving DecidableEq

inductive ImportStatus
  | dryRunCompleted
  | applied
  | reversed
  | failed
  deriving DecidableEq

structure DryRunRowResult where
  rowNumber : ℕ
  outcome : RowOutcome
  naturalKey : String
  entityData : Record
  changesDiff : Dict String (Json × Json) := Dict.empty
  errors : List String := []
  failedMaster : Option String := none
  reasons : List String

structure DryRunSummary where
  dryRunId : String
  entityType : String
  mode : ImportMode
  atomicityPolicy : AtomicityPolicy
  sourceFilename : String
  sourceFileHash : String
  totalRows : ℕ
  createdCount : ℕ
  updatedCount : ℕ
  skippedCount : ℕ
  rejectedCount : ℕ
  deactivatedCount : ℕ
  isValid : Bool
  rowResults : List DryRunRowResult

inductive SnapshotItem
  | created (naturalKey : String)
  | updated (naturalKey : String) (priorData : Record)
  | deactivated (naturalKey : String) (priorData : Record)

def SnapshotItem.naturalKey : SnapshotItem → String
  | .created key => key
  | .updated key _ => key
  | .deactivated key _ => key

def SnapshotItem.priorData : SnapshotItem → Option Record
  | .created _ => none
  | .updated _ prior => some prior
  | .deactivated _ prior => some prior

structure ReversalRecord where
  reversedBy : String
  reversedAt : Instant
  reason : String

structure ImportRunRecord where
  id : String
  entityType : String
  mode : ImportMode
  atomicityPolicy : AtomicityPolicy
  sourceFilename : String
  sourceFileHash : String
  actorId : String
  status : ImportStatus
  totalRows : ℕ
  createdCount : ℕ
  updatedCount : ℕ
  skippedCount : ℕ
  rejectedCount : ℕ
  deactivatedCount : ℕ
  startedAt : Instant
  completedAt : Instant
  dryRunId : String
  rollbackWindowHours : ℕ
  canRollback : Bool
  reversalRecord : Option ReversalRecord
  rowResults : List DryRunRowResult
  snapshotBefore : List SnapshotItem

abbrev StoreKey : Type := String × String

structure EngineState where
  entityStores : Dict StoreKey Record
  recordModifiedAt : Dict StoreKey Instant
  recordDependents : Dict StoreKey (List String)
  dryRuns : Dict String DryRunSummary
  runs : Dict String ImportRunRecord
  master : MasterDataStore

inductive BulkImportError
  | notImportable (entityType : String)
  | modeNotPermitted (mode : ImportMode) (entityType : String)
  | profileNotFound
  | unreadable (reason : String)
  | dryRunRequired (dryRunId : String)
  | validationFailed (rejectedCount : ℕ)
  | runNotFound (importRunId : String)
  | alreadyReversed (importRunId : String)
  | windowExpired (importRunId : String)
  | modifiedSince (naturalKey : String)
  | referenced (naturalKey : String)

structure BulkImportEngine where
  tenantId : String
  catalogue : String → Option EntityImportMetadata
  environment : Environment
  conversions : Conversions
  /-- The text of an instant. -/
  isoformat : Instant → String

structure ImportFile where
  filename : String
  contentHash : String
  rows : Except String (List (ℕ × Record))

structure DryRunRequest where
  file : ImportFile
  entityType : String
  mode : ImportMode
  atomicityPolicy : Option AtomicityPolicy
  /-- The mapping profile, where the call names one that is found. -/
  profile : Except BulkImportError (Option MappingProfile)
  validator : BulkImportValidator
  dryRunId : String
  call : MasterData.Call

namespace BulkImportEngine

variable (engine : BulkImportEngine)

def entryOf (r : MasterDataRecord) : Record :=
  Dict.ofPairs ([("code", .str r.code), ("display_name", .str r.displayName), ("description", MasterData.jsonText r.description),
    ("sort_order", .num r.sortOrder), ("is_active", .bool r.isActive)] ++ r.attributes)

def localRecords (state : EngineState) (entityType : String) : Dict String Record :=
  Dict.ofPairs ((state.entityStores.items.filter (fun item => item.1.1 = entityType)).map (fun item => (item.1.2, item.2)))

def existingRecords (state : EngineState) (call : MasterData.Call) (entityType : String) : Dict String Record :=
  match MasterData.listRecords engine.environment call entityType none (some engine.tenantId) true state.master with
  | .error _ => localRecords state entityType
  | .ok records => records.foldl (fun results r => if (results.get r.code).isNone then results.assign r.code (entryOf r) else results)
      (localRecords state entityType)

def getRecord (state : EngineState) (entityType naturalKey : String) : Option Record :=
  state.entityStores.get (entityType, naturalKey)

def compared (value : Json) : String := if value.truthy then engine.conversions.str value else ""

def calculateDiff (existing incoming : Record) : Dict String (Json × Json) :=
  Dict.ofPairs ((incoming.items.filter (fun item => !startsWithUnderscore item.1 &&
    engine.compared ((existing.get item.1).getD .null) ≠ engine.compared item.2)).map
      (fun item => (item.1, ((existing.get item.1).getD .null, item.2))))

section DryRun

def existingResult (mode : ImportMode) (existing : Record) (row : RowValidationResult) : DryRunRowResult :=
  let result (outcome : RowOutcome) (diff : Dict String (Json × Json)) (reason : String) : DryRunRowResult :=
    { rowNumber := row.rowNumber, outcome := outcome, naturalKey := row.naturalKey, entityData := row.mappedData
      changesDiff := diff, reasons := [reason] }
  if mode = .insertOnly then result .skipped Dict.empty "Record already exists in system; skipped in INSERT_ONLY mode."
  else
    let diff := engine.calculateDiff existing row.mappedData
    if diff.items.isEmpty then
      result .skipped Dict.empty "Record attributes are identical to existing state; no update required."
    else result .updated diff
      ("Updated " ++ toString diff.items.length ++ " fields: " ++ String.intercalate ", " diff.keys ++ ".")

def missingResult (mode : ImportMode) (row : RowValidationResult) : DryRunRowResult :=
  let result (outcome : RowOutcome) (reason : String) : DryRunRowResult :=
    { rowNumber := row.rowNumber, outcome := outcome, naturalKey := row.naturalKey, entityData := row.mappedData
      reasons := [reason] }
  if mode = .updateOnly then result .skipped "Record not found in system; skipped in UPDATE_ONLY mode."
  else result .created "New record to be created in platform."

def rejectedResult (row : RowValidationResult) : DryRunRowResult where
  rowNumber := row.rowNumber
  outcome := .rejected
  naturalKey := row.naturalKey
  entityData := row.mappedData
  errors := row.errors
  failedMaster := row.failedMaster
  reasons := ["Validation failed: " ++ String.intercalate "; " row.errors]

def rowResult (mode : ImportMode) (existingRecords : Dict String Record) (row : RowValidationResult) : DryRunRowResult :=
  if !row.isValid then rejectedResult row
  else
    match existingRecords.get row.naturalKey with
    | some existing => engine.existingResult mode existing row
    | none => missingResult mode row

def isActive (record : Record) : Bool := ((record.get "is_active").getD (.bool true)).truthy

def deactivatedResult (rowNumber : ℕ) (naturalKey : String) (record : Record) : DryRunRowResult where
  rowNumber := rowNumber
  outcome := .deactivated
  naturalKey := naturalKey
  entityData := record
  changesDiff := Dict.ofPairs [("is_active", (.bool true, .bool false))]
  reasons := ["Record omitted from full-refresh import file; will be deactivated."]

def omitted (existingRecords : Dict String Record) (seenKeys : List String) : List (String × Record) :=
  existingRecords.items.filter (fun item => item.1 ∉ seenKeys && isActive item.2)

def countOutcome (outcome : RowOutcome) (results : List DryRunRowResult) : ℕ := results.countP (fun row => row.outcome = outcome)

def dryRunOf (request : DryRunRequest) (entityType : String) (policy : AtomicityPolicy) (existingRecords : Dict String Record)
    (rows : List RowValidationResult) : DryRunSummary :=
  let results := rows.map (engine.rowResult request.mode existingRecords)
  let seenKeys := (rows.filter RowValidationResult.isValid).map RowValidationResult.naturalKey
  let missing := if request.mode = .deactivateMissing then omitted existingRecords seenKeys else []
  let deactivations := missing.zipIdx.map (fun item => deactivatedResult (results.length + item.2 + 1) item.1.1 item.1.2)
  let rejected := countOutcome .rejected results
  let created := countOutcome .created results
  let updated := countOutcome .updated results
  { dryRunId := request.dryRunId
    entityType := entityType
    mode := request.mode
    atomicityPolicy := policy
    sourceFilename := request.file.filename
    sourceFileHash := request.file.contentHash
    totalRows := rows.length
    createdCount := created
    updatedCount := updated
    skippedCount := countOutcome .skipped results
    rejectedCount := rejected
    deactivatedCount := deactivations.length
    isValid := match policy with
      | .allOrNothing => rejected = 0
      | .partialSuccess => rejected = 0 || 0 < created + updated + deactivations.length
    rowResults := results ++ deactivations }

def executeDryRun (state : EngineState) (request : DryRunRequest) : Except BulkImportError (DryRunSummary × EngineState) :=
  let entityType := normalised request.entityType
  match engine.catalogue entityType with
  | none => .error (.notImportable entityType)
  | some metadata =>
    if request.mode ∉ metadata.allowedModes then .error (.modeNotPermitted request.mode entityType)
    else
      match request.profile with
      | .error fault => .error fault
      | .ok profile =>
        match request.file.rows with
        | .error reason => .error (.unreadable reason)
        | .ok rawRows =>
          let rows := rawRows.map (fun raw => request.validator.validateRow metadata profile raw.1 raw.2)
          let summary := engine.dryRunOf request entityType (request.atomicityPolicy.getD metadata.defaultAtomicityPolicy)
            (engine.existingRecords state request.call entityType) rows
          .ok (summary, { state with dryRuns := state.dryRuns.assign summary.dryRunId summary })

end DryRun

section Persisting

def mirroredAttributes (data : Record) : List (String × Json) := data.items.filter (fun item => !startsWithUnderscore item.1)

/-- The name and the description a master record takes, where they are of its types. -/
def mirroredTexts (naturalKey : String) (data : Record) : Option (String × Option String) :=
  match data.get "display_name", MasterData.optionalText (data.get "description") with
  | none, some description => some (naturalKey, description)
  | some (.str word), some description => some (word, description)
  | _, _ => none

def refusedUpdate (call : MasterData.Call) (entityType : String) (current : MasterDataRecord) (master : MasterDataStore) : MasterDataStore :=
  match MasterData.registered engine.environment entityType with
  | .error _ => master
  | .ok entry => if entry.requiresApproval then master else master.saveRecord (MasterData.closed call.now current)

/-- The reflection of a record into the master data, with every failure passed over. -/
def mirror (call : MasterData.Call) (entityType naturalKey : String) (data : Record) (master : MasterDataStore) : MasterDataStore :=
  match MasterData.getRecord engine.environment call entityType naturalKey none (some engine.tenantId) false master with
  | .error _ => master
  | .ok (some current) =>
    match mirroredTexts naturalKey data with
    | some (displayName, description) =>
      (MasterData.updateRecord engine.environment call entityType naturalKey
        ⟨displayName,description,none,none,some (mirroredAttributes data),"bulk_import",none,some engine.tenantId,false⟩ master).1
    | none => engine.refusedUpdate call entityType current master
  | .ok none =>
    match mirroredTexts naturalKey data with
    | some (displayName, description) =>
      (MasterData.createRecord engine.environment call entityType
        ⟨naturalKey,displayName,description,0,none,mirroredAttributes data,some engine.tenantId,"bulk_import",false,false⟩ master).1
    | none => master

def persistRecord (call : MasterData.Call) (entityType naturalKey : String) (data : Record) (state : EngineState) : EngineState :=
  { state with
    entityStores := state.entityStores.assign (entityType, naturalKey) data
    master := engine.mirror call entityType naturalKey data state.master }

def deleteRecord (entityType naturalKey : String) (state : EngineState) : EngineState :=
  { state with entityStores := state.entityStores.erase (entityType, naturalKey) }

def stampModified (entityType naturalKey : String) (time : Instant) (state : EngineState) : EngineState :=
  { state with recordModifiedAt := state.recordModifiedAt.assign (entityType, naturalKey) time }

end Persisting

section Apply

structure RunContext where
  dryRun : DryRunSummary
  importRunId : String
  actorId : String
  startTime : Instant

def provenance (context : RunContext) (row : DryRunRowResult) : Json :=
  .obj [("imported", .bool true), ("source_filename", .str context.dryRun.sourceFilename),
    ("source_file_hash", .str context.dryRun.sourceFileHash), ("import_run_id", .str context.importRunId),
    ("imported_by", .str context.actorId), ("imported_at", .str (engine.isoformat context.startTime)),
    ("source_row_number", .num row.rowNumber)]

structure ApplyProgress where
  state : EngineState
  snapshotBefore : List SnapshotItem := []
  created : ℕ := 0
  updated : ℕ := 0
  deactivated : ℕ := 0

def updatedWith (record : Record) (pairs : List (String × Json)) : Record :=
  pairs.foldl (fun current pair => current.assign pair.1 pair.2) record

def createdRecord (context : RunContext) (row : DryRunRowResult) : Record :=
  (row.entityData.assign "_provenance" (engine.provenance context row)).assign "is_active" (.bool true)

def updatedRecord (context : RunContext) (existing : Record) (row : DryRunRowResult) : Record :=
  (updatedWith existing row.entityData.items).assign "_provenance" (engine.provenance context row)

/-- An empty record counts as none. -/
def existingRecord (state : EngineState) (entityType naturalKey : String) : Option Record :=
  (getRecord state entityType naturalKey).filter (fun record => !record.items.isEmpty)

def applyRow (context : RunContext) (call : MasterData.Call) (row : DryRunRowResult) (progress : ApplyProgress) : ApplyProgress :=
  let entityType := context.dryRun.entityType
  let save (record : Record) : EngineState :=
    stampModified entityType row.naturalKey context.startTime
      (engine.persistRecord call entityType row.naturalKey record progress.state)
  let existing := existingRecord progress.state entityType row.naturalKey
  match row.outcome with
  | .created =>
    { progress with
      state := save (engine.createdRecord context row)
      snapshotBefore := progress.snapshotBefore ++ [.created row.naturalKey]
      created := progress.created + 1 }
  | .updated =>
    { progress with
      state := save (engine.updatedRecord context (existing.getD Dict.empty) row)
      snapshotBefore := progress.snapshotBefore ++ (existing.map (SnapshotItem.updated row.naturalKey)).toList
      updated := progress.updated + 1 }
  | .deactivated =>
    match existing with
    | none => progress
    | some record =>
      { progress with
        state := save (record.assign "is_active" (.bool false))
        snapshotBefore := progress.snapshotBefore ++ [.deactivated row.naturalKey record]
        deactivated := progress.deactivated + 1 }
  | .skipped => progress
  | .rejected => progress

def applyRows (context : RunContext) (calls : ℕ → MasterData.Call) : ℕ → List DryRunRowResult → ApplyProgress → ApplyProgress
  | _, [], progress => progress
  | index, row :: rest, progress => applyRows context calls (index + 1) rest (engine.applyRow context (calls index) row progress)

structure ApplyRequest where
  dryRunId : String
  importRunId : String
  actorId : String
  startTime : Instant
  endTime : Instant
  calls : ℕ → MasterData.Call

def windowHours (entityType : String) : ℕ := (engine.catalogue (normalised entityType)).elim 24 EntityImportMetadata.rollbackWindowHours

def runRecord (request : ApplyRequest) (dryRun : DryRunSummary) (progress : ApplyProgress) : ImportRunRecord where
  id := request.importRunId
  entityType := dryRun.entityType
  mode := dryRun.mode
  atomicityPolicy := dryRun.atomicityPolicy
  sourceFilename := dryRun.sourceFilename
  sourceFileHash := dryRun.sourceFileHash
  actorId := request.actorId
  status := .applied
  totalRows := dryRun.totalRows
  createdCount := progress.created
  updatedCount := progress.updated
  skippedCount := dryRun.skippedCount
  rejectedCount := dryRun.rejectedCount
  deactivatedCount := progress.deactivated
  startedAt := request.startTime
  completedAt := request.endTime
  dryRunId := request.dryRunId
  rollbackWindowHours := engine.windowHours dryRun.entityType
  canRollback := true
  reversalRecord := none
  rowResults := dryRun.rowResults
  snapshotBefore := progress.snapshotBefore

def applyImport (state : EngineState) (request : ApplyRequest) : Except BulkImportError (ImportRunRecord × EngineState) :=
  match state.dryRuns.get request.dryRunId with
  | none => .error (.dryRunRequired request.dryRunId)
  | some dryRun =>
    if !dryRun.isValid then .error (.validationFailed dryRun.rejectedCount)
    else
      let context : RunContext := ⟨dryRun,request.importRunId,request.actorId,request.startTime⟩
      let progress := engine.applyRows context request.calls 0 dryRun.rowResults { state := state }
      let run := engine.runRecord request dryRun progress
      .ok (run, { progress.state with runs := progress.state.runs.assign run.id run })

end Apply

section Rollback

structure RollbackRequest where
  importRunId : String
  actorId : String
  reason : String
  now : Instant
  calls : ℕ → MasterData.Call

def blockedBy (state : EngineState) (run : ImportRunRecord) (item : SnapshotItem) : Option BulkImportError :=
  let storeKey : StoreKey := (run.entityType, item.naturalKey)
  if (state.recordModifiedAt.get storeKey).any (fun modified => run.completedAt < modified) then some (.modifiedSince item.naturalKey)
  else if ((state.recordDependents.get storeKey).getD []) ≠ [] then some (.referenced item.naturalKey)
  else none

def reverseItem (entityType : String) (now : Instant) (call : MasterData.Call) (item : SnapshotItem) (state : EngineState) : EngineState :=
  match item.priorData with
  | none =>
    let deleted := deleteRecord entityType item.naturalKey state
    { deleted with recordModifiedAt := deleted.recordModifiedAt.erase (entityType, item.naturalKey) }
  | some prior => stampModified entityType item.naturalKey now (engine.persistRecord call entityType item.naturalKey prior state)

def reverseItems (entityType : String) (now : Instant) (calls : ℕ → MasterData.Call) : ℕ → List SnapshotItem → EngineState → EngineState
  | _, [], state => state
  | index, item :: rest, state =>
    reverseItems entityType now calls (index + 1) rest (engine.reverseItem entityType now (calls index) item state)

def windowExpired (run : ImportRunRecord) (now : Instant) : Bool :=
  decide ((run.rollbackWindowHours : ℤ) * 3600 * 1000000 < now - run.startedAt)

def rollbackImport (state : EngineState) (request : RollbackRequest) : Except BulkImportError (ImportRunRecord × EngineState) :=
  match state.runs.get request.importRunId with
  | none => .error (.runNotFound request.importRunId)
  | some run =>
    if run.status = .reversed then .error (.alreadyReversed request.importRunId)
    else if windowExpired run request.now then .error (.windowExpired request.importRunId)
    else
      match run.snapshotBefore.findSome? (blockedBy state run) with
      | some fault => .error fault
      | none =>
        let restored := engine.reverseItems run.entityType request.now request.calls 0 run.snapshotBefore.reverse state
        let reversed := { run with
          status := .reversed
          canRollback := false
          reversalRecord := some ⟨request.actorId,request.now,request.reason⟩ }
        .ok (reversed, { restored with runs := restored.runs.assign reversed.id reversed })

end Rollback

end BulkImportEngine

end CloudLens.BulkImport
