import CloudLens.Library.Calendar
import CloudLens.Library.Decimal
import CloudLens.Library.Table
import CloudLens.Library.Text
import Mathlib.Data.List.Sort

/-! Remediation tasks, their store and the ledger of realised savings. A task is read by
value and saved whole; each save leaves a line in a journal, from which the runs are judged. -/
namespace CloudLens.Remediation
open Library
open Library.Calendar (Instant Date)

inductive TaskState
  | «open» | assigned | inProgress | blocked | awaitingVerification | resolved | verified | closed | rejected | deferred
  | duplicate
  deriving DecidableEq

inductive TaskCategory
  | unownedResource | tagCompliance | scheduleBreach | budgetBreach | forecastBreach | idleResource | staleConnector
  | credentialExpiring | reconciliationVariance | unknownSku | unclassifiedResource | masterdataGap | custom
  deriving DecidableEq

inductive RealisedSavingMethod
  | scheduleExcessAvoidance | idleTerminationDelta | runRateElimination | rightsizingDiff | directEstimateVerified
  deriving DecidableEq

inductive TaskPriority
  | critical | high | medium | low
  deriving DecidableEq

inductive TaskClosureCode
  | fixedAndVerified | falsePositive | riskAccepted | duplicateSuperseded | resourceTerminated
  deriving DecidableEq

structure SubjectEntity where
  entityId : String
  businessUnitId : Option String
  costCentreId : Option String

structure HistoryEntry where
  actorId : String
  action : String
  fromState : TaskState
  toState : TaskState
  reason : Option String
  deriving DecidableEq

structure RemediationTask where
  id : String
  tenantId : String
  subjectEntity : SubjectEntity
  category : TaskCategory
  assigneeId : String
  assigneeType : String
  assigningActor : String
  priority : TaskPriority
  dueDate : Instant
  estimatedSaving : Option ℚ
  /-- In cents, as the ledger has rounded it. -/
  realisedSaving : Option ℤ
  realisedSavingMethod : Option RealisedSavingMethod
  state : TaskState
  reasonCode : Option String
  closureCode : Option TaskClosureCode
  deferralExpiry : Option Instant
  riskAccepted : Bool
  riskAcceptedExpiry : Option Instant
  approvalWorkflowId : Option String
  verificationAttempts : ℕ
  history : List HistoryEntry
  createdAt : Instant
  closedAt : Option Instant

structure RealisedSavingEntry where
  tenantId : String
  taskId : String
  entityId : String
  category : TaskCategory
  teamId : String
  period : String
  /-- In cents. -/
  realisedAmount : ℤ
  calculationMethod : RealisedSavingMethod
  verifiedAt : Instant
  verifiedBy : String

structure Clock where
  now : Instant
  today : Date

inductive RemediationError
  | taskNotFound (taskId : String)
  | taskAlreadyClosed (taskId : String) (state : TaskState)
  | invalidTransition (taskId : String) (fromState toState : TaskState)
  | mandatoryReason (action : String)
  | verifierFailed

inductive Cause
  | created | statusChanged | assigned | pendingVerification | cleared | persistent | deferred | riskAccepted | deferralExpired
  | reprioritised | markedDuplicate | escalated | mirrored
  deriving DecidableEq

structure Change where
  taskId : String
  fromState : Option TaskState
  toState : TaskState
  cause : Cause
  reason : Option String

structure Revision where
  task : RemediationTask
  cause : Cause
  saving : Option RealisedSavingEntry := none

structure Store where
  tasks : Table String RemediationTask
  ledger : List RealisedSavingEntry
  journal : List Change

def validTransitions : TaskState → List TaskState
  | .open => [.assigned, .inProgress, .deferred, .duplicate, .rejected]
  | .assigned => [.inProgress, .blocked, .awaitingVerification, .resolved, .deferred, .duplicate, .rejected]
  | .inProgress => [.blocked, .awaitingVerification, .resolved, .deferred, .duplicate]
  | .blocked => [.inProgress, .awaitingVerification, .resolved, .deferred]
  | .awaitingVerification => [.verified, .closed, .open]
  | .resolved => [.awaitingVerification, .verified, .closed, .open]
  | .verified => [.closed]
  | .deferred => [.open, .inProgress]
  | .closed => [.open]
  | .rejected => []
  | .duplicate => []

def orElse (value other : Option String) : Option String :=
  match value with
  | some text => if text.isEmpty then other else some text
  | none => other

namespace RemediationTask

def isTerminal (task : RemediationTask) : Bool :=
  task.state = .closed || task.state = .rejected || task.state = .duplicate

def addHistory (task : RemediationTask) (action actorId : String) (fromState toState : TaskState) (reason : Option String) :
    RemediationTask :=
  { task with history := task.history ++ [⟨actorId,action,fromState,toState,reason⟩] }

end RemediationTask

namespace Store

def empty : Store := ⟨∅,[],[]⟩

variable (s : Store)

def getTask (tenantId taskId : String) : Option RemediationTask :=
  (s.tasks.lookup taskId).filter (fun task => task.tenantId = tenantId)

def save (tenantId : String) (task : RemediationTask) (change : Change) : Store :=
  { s with
    tasks := s.tasks.upsert (fun _ proposed => proposed) task.id { task with tenantId := tenantId }
    journal := s.journal ++ [change] }

def saveSavingEntry (entry : RealisedSavingEntry) : Store := { s with ledger := s.ledger ++ [entry] }

def listSavingEntries (tenantId : String) : List RealisedSavingEntry :=
  s.ledger.reverse.filter (fun entry => entry.tenantId = tenantId)

def listTasks (tenantId : String) (state : TaskState) (limit : ℕ) : List RemediationTask :=
  (((s.tasks.selectWhere (fun _ task => task.tenantId = tenantId && task.state = state)).map Sigma.snd).insertionSort
    (fun a b => b.createdAt ≤ a.createdAt)).take limit

def commit (tenantId : String) (read : RemediationTask) (revision : Revision) : Store :=
  (revision.saving.elim s s.saveSavingEntry).save tenantId revision.task
    ⟨revision.task.id,some read.state,revision.task.state,revision.cause,revision.task.history.getLast?.bind HistoryEntry.reason⟩

def amend (tenantId taskId : String) (operation : RemediationTask → Except RemediationError Revision) :
    Store × Except RemediationError RemediationTask :=
  match s.getTask tenantId taskId with
  | none => (s, .error (.taskNotFound taskId))
  | some task =>
    match operation task with
    | .error failure => (s, .error failure)
    | .ok revision => (s.commit tenantId task revision, .ok revision.task)

def attempt (tenantId : String) (operation : RemediationTask → Except RemediationError Revision)
    (progress : Store × List RemediationTask) (taskId : String) : Store × List RemediationTask :=
  match progress.1.amend tenantId taskId operation with
  | (after, .ok task) => (after, progress.2 ++ [task])
  | (after, .error _) => (after, progress.2)

def each (tenantId : String) (taskIds : List String) (operation : RemediationTask → Except RemediationError Revision) :
    Store × List RemediationTask :=
  taskIds.foldl (attempt tenantId operation) (s, [])

end Store
end CloudLens.Remediation
