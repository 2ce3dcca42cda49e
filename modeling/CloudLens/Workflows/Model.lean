import CloudLens.Library.Calendar
import CloudLens.Library.Tenancy
import Mathlib.Algebra.Order.Field.Rat

/-! Workflow requests, their approval stages, decisions and history, and the
definitions they are built from. Payload values are the scalars of the request
documents; a stage's quorum is at least one by construction. -/
namespace CloudLens.Workflows
open Library
open Library.Calendar (Instant)

inductive WorkflowState where
  | draft
  | submitted
  | inReview
  | approved
  | rejected
  | withdrawn
  | expired
  | applied
  deriving DecidableEq

def WorkflowState.value : WorkflowState → String
  | .draft => "DRAFT"
  | .submitted => "SUBMITTED"
  | .inReview => "IN_REVIEW"
  | .approved => "APPROVED"
  | .rejected => "REJECTED"
  | .withdrawn => "WITHDRAWN"
  | .expired => "EXPIRED"
  | .applied => "APPLIED"

def WorkflowState.isFinalised : WorkflowState → Bool
  | .approved | .rejected | .withdrawn | .expired | .applied => true
  | .draft | .submitted | .inReview => false

inductive ApprovalChainMode where
  | serial
  | parallel
  deriving DecidableEq

inductive DecisionOutcome where
  | approve
  | reject
  | requestMoreInfo
  deriving DecidableEq

inductive ApproverResolutionType where
  | role
  | scopeOwnership
  | costCentreOwner
  | businessUnitOwner
  | budgetOwner
  | explicitList
  deriving DecidableEq

def ApproverResolutionType.value : ApproverResolutionType → String
  | .role => "ROLE"
  | .scopeOwnership => "SCOPE_OWNERSHIP"
  | .costCentreOwner => "COST_CENTRE_OWNER"
  | .businessUnitOwner => "BUSINESS_UNIT_OWNER"
  | .budgetOwner => "BUDGET_OWNER"
  | .explicitList => "EXPLICIT_LIST"

inductive StageStatus where
  | pending
  | inReview
  | approved
  | rejected
  | skipped
  deriving DecidableEq

inductive Value where
  | none
  | boolean (b : Bool)
  | number (q : ℚ)
  | text (s : String)
  deriving DecidableEq

namespace Value

def numeric : Value → Option ℚ
  | .boolean b => some (if b then 1 else 0)
  | .number q => some q
  | .none | .text _ => Option.none

def equal (a b : Value) : Bool :=
  match a.numeric, b.numeric with
  | some p, some q => p = q
  | _, _ => a = b

def decimal (word : List Char) : Option ℚ :=
  match Text.splitOn '.' word with
  | [whole] => (Text.parseInt whole).map (fun n : ℤ => (n : ℚ))
  | [whole, fraction] =>
    match Text.parseInt (whole ++ fraction) with
    | some n => some ((n : ℚ) / 10 ^ fraction.length)
    | Option.none => Option.none
  | _ => Option.none

def scientific (word : List Char) : Option ℚ :=
  match Text.splitOn 'e' (word.map Char.toLower) with
  | [mantissa] => decimal mantissa
  | [mantissa, exponent] =>
    match decimal mantissa, Text.parseInt exponent with
    | some q, some n => some (q * 10 ^ n)
    | _, _ => Option.none
  | _ => Option.none

def float : Value → Option ℚ
  | .text s => scientific (Text.strip s.toList)
  | v => v.numeric

end Value

abbrev Payload : Type := List (String × Value)

structure SubjectEntity where
  entityType : String
  entityId : String
  scopeType : Option String
  scopeId : Option String
  metadata : List (String × String)

structure RequesterInfo where
  requesterId : String
  requesterEmail : Option String

structure WorkflowDecision where
  decisionId : String
  stageId : String
  decision : DecisionOutcome
  decidedBy : String
  onBehalfOf : Option String
  delegationId : Option String
  comment : Option String
  timestamp : Instant
  deriving DecidableEq

structure WorkflowApproverSpec where
  resolutionType : ApproverResolutionType
  targetRole : Option String
  explicitApprovers : List String
  fallbackRole : String

structure WorkflowStageDefinition where
  stageId : String
  name : String
  sequenceOrder : ℤ
  mode : ApprovalChainMode
  quorum : ℕ
  positive : 1 ≤ quorum
  approverSpec : WorkflowApproverSpec

structure WorkflowEscalationPath where
  escalateToRole : String
  escalateAfterHours : ℕ
  escalatedTo : List String
  escalatedAt : Option Instant
  isEscalated : Bool

structure WorkflowTriggerCondition where
  amountGt : Option ℚ
  attributesMatch : Payload
  always : Bool

structure WorkflowDefinition where
  id : String
  requestType : String
  triggerCondition : WorkflowTriggerCondition
  stages : List WorkflowStageDefinition
  slaWorkingHours : ℕ
  workingScheduleId : String
  escalationPath : WorkflowEscalationPath
  autoRejectOnExpiry : Bool

structure WorkflowStage where
  stageId : String
  name : String
  sequenceOrder : ℤ
  mode : ApprovalChainMode
  quorum : ℕ
  positive : 1 ≤ quorum
  approverSpec : WorkflowApproverSpec
  assignedApprovers : List String
  status : StageStatus
  decisions : List WorkflowDecision

def WorkflowStage.approvedCount (stage : WorkflowStage) : ℕ :=
  stage.decisions.countP (fun d => d.decision = .approve)

def WorkflowStage.isQuorumMet (stage : WorkflowStage) : Bool := stage.quorum ≤ stage.approvedCount

inductive Detail where
  | text (s : String)
  | optional (s : Option String)
  | count (n : ℕ)
  | names (people : List String)
  | instant (t : Instant)
  deriving DecidableEq

structure WorkflowHistoryEntry where
  actorId : String
  action : String
  previousState : WorkflowState
  newState : WorkflowState
  stageId : Option String
  details : List (String × Detail)

structure DelegationRule where
  id : String
  tenantId : String
  originalApproverId : String
  delegateApproverId : String
  startDate : Instant
  endDate : Instant
  requestTypes : List String
  isActive : Bool

def DelegationRule.isCurrentlyActive (rule : DelegationRule) (asOf : Instant) (requestType : String) : Bool :=
  if !rule.isActive then false
  else if asOf < rule.startDate ∨ rule.endDate < asOf then false
  else if rule.requestTypes ≠ [] ∧ requestType ≠ "" ∧ requestType ∉ rule.requestTypes then false
  else true

structure WorkflowRequest where
  id : String
  tenantId : String
  definitionId : Option String
  requestType : String
  title : String
  subjectEntity : SubjectEntity
  requester : RequesterInfo
  justification : String
  payload : Payload
  previousValues : Option Payload
  financialImpact : Option ℚ
  state : WorkflowState
  currentStageIndex : ℕ
  stages : List WorkflowStage
  createdAt : Instant
  submittedAt : Option Instant
  dueDate : Option Instant
  slaWorkingHours : ℕ
  workingScheduleId : String
  slaBreached : Bool
  escalationPath : WorkflowEscalationPath
  escalationDueAt : Option Instant
  isEscalated : Bool
  history : List WorkflowHistoryEntry
  errorMessage : Option String
  appliedAt : Option Instant
  appliedBy : Option String

namespace WorkflowRequest

def currentStage (request : WorkflowRequest) : Option WorkflowStage := request.stages[request.currentStageIndex]?

def addHistory (request : WorkflowRequest) (actorId action : String) (previousState newState : Option WorkflowState)
    (stageId : Option String) (details : List (String × Detail)) : WorkflowRequest :=
  { request with
    history := request.history ++
      [⟨actorId,action,previousState.getD request.state,newState.getD request.state,stageId,details⟩] }

def setStage (request : WorkflowRequest) (index : ℕ) (stage : WorkflowStage) : WorkflowRequest :=
  { request with stages := request.stages.set index stage }

end WorkflowRequest

/-- Whether the payload or the financial impact triggers the workflow; there is
no answer when the amount of the payload cannot be read as a number. -/
def WorkflowTriggerCondition.triggers (condition : WorkflowTriggerCondition) (payload : Payload)
    (financialImpact : Option ℚ) : Option Bool :=
  if condition.always then some true
  else
    let attributes := condition.attributesMatch.all
      (fun expected => ((payload.lookup expected.1).getD .none).equal expected.2)
    match condition.amountGt with
    | none => some attributes
    | some threshold =>
      let amount := match financialImpact with
        | some impact => some impact
        | none => ((payload.lookup "amount").getD ((payload.lookup "new_amount").getD (.number 0))).float
      match amount with
      | none => none
      | some amount => some (if amount ≤ threshold then false else attributes)

structure TenantContext where
  tenantId : String
  userId : String
  email : Option String
  roles : List String
  isSuperuser : Bool

inductive WorkflowError where
  | notFound (requestId : String)
  | definitionNotFound (requestType : String)
  | noResolvableApprover (requestId stageName : String) (resolutionType : ApproverResolutionType)
  | invalidTransition (requestId : String) (current : WorkflowState) (attempted : String)
  | unauthorizedApprover (requestId actorId stageName : String)
  | mandatoryComment (requestId : String)
  | alreadyFinalized (requestId : String) (state : WorkflowState)
  | applicationFailed (requestId reason : String)
  | indexOutOfRange
  | invalidNumber
  | rowLevelSecurity
  deriving DecidableEq

def WorkflowError.message : WorkflowError → String
  | .notFound requestId => "Workflow request '" ++ requestId ++ "' was not found."
  | .definitionNotFound requestType =>
    "No workflow definition registered for request type '" ++ requestType ++ "'."
  | .noResolvableApprover requestId stageName resolutionType =>
    "Governance exception: No approver could be resolved for workflow request '" ++ requestId ++ "' at stage '" ++
      stageName ++ "' using resolution '" ++ resolutionType.value ++ "', and fallback exhausted."
  | .invalidTransition requestId current attempted =>
    "Cannot transition workflow '" ++ requestId ++ "' from state '" ++ current.value ++ "' to '" ++ attempted ++ "'."
  | .unauthorizedApprover requestId actorId stageName =>
    "Actor '" ++ actorId ++ "' is not an authorized approver or delegate for request '" ++ requestId ++
      "' at stage '" ++ stageName ++ "'."
  | .mandatoryComment requestId =>
    "A mandatory comment is required when rejecting workflow request '" ++ requestId ++ "'."
  | .alreadyFinalized requestId state =>
    "Workflow request '" ++ requestId ++ "' is already finalized in state '" ++ state.value ++ "' and cannot be altered."
  | .applicationFailed requestId reason =>
    "Failed to apply approved change for workflow '" ++ requestId ++ "': " ++ reason
  | .indexOutOfRange => "list index out of range"
  | .invalidNumber => "could not convert string to float"
  | .rowLevelSecurity => "new row violates row-level security policy for table workflow_requests"

end CloudLens.Workflows
