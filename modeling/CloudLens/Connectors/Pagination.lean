import CloudLens.Connectors.Landing

/-! Paginated syncs: a page is fetched, landed, and then recorded in the job's
checkpoint. A worker may be killed after any number of these steps; another call
for the job goes on from the checkpoint. What the guards of the execution engine
raise before a page is fetched is a kill at that point. -/
namespace CloudLens.Connectors
open Library

structure PagedResult where
  items : List Json
  continuationToken : Option String
  isTruncated : Bool

inductive CheckpointStatus
  | inProgress
  | completed
  deriving DecidableEq

structure JobCheckpoint where
  continuationToken : Option String
  pageNumber : ℕ
  recordsIngested : ℕ
  status : CheckpointStatus
  deriving DecidableEq

abbrev Month : Type := { text : String // text.toList.length = 7 }

/-- The arguments that the calls for one job share; a context without a tenant is
refused before anything else. -/
structure PaginatedJob where
  tenantId : String
  connectorId : String
  jobId : String
  capability : ConnectorCapability
  authenticated : tenantId ≠ ""

abbrev CheckpointKey : Type := String × String × String

def PaginatedJob.checkpointKey (job : PaginatedJob) : CheckpointKey := (job.tenantId, job.jobId, job.capability.value)

/-- One call of `execute_paginated_capability`; `killedAfter` is the number of
steps its worker lives for. -/
structure PaginatedCall where
  maxPages : Option ℕ
  killedAfter : Option ℕ
  month : Month
  uploaded : ℕ → Bool

structure SyncState where
  storage : Storage
  checkpoints : CheckpointKey → Option JobCheckpoint
  drawn : ℕ

/-- How a call ends; a returned call has seen the last page or stopped at its
`max_pages`. -/
inductive CallEnd
  | returned (items : List Json) (exhausted : Bool)
  | raised (error : LandingError)
  | killed
  | outOfFuel

structure PageCursor where
  token : Option String
  currentPage : ℕ
  recordsSoFar : ℕ
  pagesExecuted : ℕ
  accumulated : List Json
  budget : Option ℕ

def spend : Option ℕ → Option (Option ℕ)
  | none => some none
  | some 0 => none
  | some (left + 1) => some (some left)

def pageLanding (uuid : ℕ → String) (job : PaginatedJob) (call : PaginatedCall) (drawn page : ℕ) (result : PagedResult) :
    LandingCall where
  tenantId := job.tenantId
  connectorId := job.connectorId
  runId := job.jobId
  capability := job.capability
  pageNumber := page
  rawPayload := .arr result.items
  schemaVersion := "2026-09-01"
  dataset := none
  period := none
  landingId := "land-" ++ uuid drawn
  month := call.month.val
  putError := none
  uploaded := call.uploaded page
  databaseError := none
  requireRealdb := true

def saveCheckpoint (state : SyncState) (job : PaginatedJob) (checkpoint : JobCheckpoint) : SyncState :=
  { state with checkpoints := Function.update state.checkpoints job.checkpointKey (some checkpoint) }

def linked (token : Option String) : Bool := token.isSome && token ≠ some ""

def pageCheckpoint (cursor : PageCursor) (result : PagedResult) : JobCheckpoint where
  continuationToken := if result.isTruncated then result.continuationToken else none
  pageNumber := cursor.currentPage
  recordsIngested := cursor.recordsSoFar + result.items.length
  status := if result.isTruncated then .inProgress else .completed

def reachedLimit (call : PaginatedCall) (executed : ℕ) : Bool :=
  match call.maxPages with
  | none => false
  | some limit => limit ≠ 0 && limit ≤ executed

section Loop

variable (dumps : Json → List Char) (uuid : ℕ → String) (source : Option String → PagedResult)

def paginate (job : PaginatedJob) (call : PaginatedCall) : ℕ → SyncState → PageCursor → SyncState × CallEnd
  | 0, state, _ => (state, .outOfFuel)
  | fuel + 1, state, cursor =>
    match spend cursor.budget with
    | none => (state, .killed)
    | some fetched =>
      let result := source cursor.token
      match spend fetched with
      | none => (state, .killed)
      | some landing =>
        let (storage, answer) := landRawPayload (fun json => .ok (dumps json)) state.storage
          (pageLanding uuid job call state.drawn cursor.currentPage result)
        let landed := { state with storage := storage, drawn := state.drawn + 1 }
        match answer with
        | .error error => (landed, .raised error)
        | .ok _ =>
          match spend landing with
          | none => (landed, .killed)
          | some saving =>
            let saved := saveCheckpoint landed job (pageCheckpoint cursor result)
            let accumulated := cursor.accumulated ++ result.items
            match spend saving with
            | none => (saved, .killed)
            | some _ =>
              if result.isTruncated = false ∨ linked result.continuationToken = false then (saved, .returned accumulated true)
              else if reachedLimit call (cursor.pagesExecuted + 1) then (saved, .returned accumulated false)
              else paginate job call fuel saved ⟨result.continuationToken,cursor.currentPage + 1,
                cursor.recordsSoFar + result.items.length,cursor.pagesExecuted + 1,accumulated,saving⟩

/-- Where a call starts: after the checkpoint of an interrupted job, else at the
first page. -/
def startCursor (checkpoint : Option JobCheckpoint) (call : PaginatedCall) : PageCursor :=
  match checkpoint with
  | some found =>
    if found.status = .inProgress ∧ linked found.continuationToken = true then
      ⟨found.continuationToken,found.pageNumber + 1,found.recordsIngested,0,[],call.killedAfter⟩
    else ⟨none,1,0,0,[],call.killedAfter⟩
  | none => ⟨none,1,0,0,[],call.killedAfter⟩

def executePaginated (fuel : ℕ) (job : PaginatedJob) (state : SyncState) (call : PaginatedCall) : SyncState × CallEnd :=
  paginate dumps uuid source job call fuel state (startCursor (state.checkpoints job.checkpointKey) call)

end Loop

end CloudLens.Connectors
