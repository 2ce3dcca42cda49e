import CloudLens.Library.Calendar
import CloudLens.Library.Decimal
import CloudLens.Library.Table
import CloudLens.Library.Casing

/-! Resources on their way out: the lifecycle states, the gates of a transition, the
requests that propose and approve it, and the verification that billing has stopped. -/
namespace CloudLens.Decommissioning
open Library
open Library.Calendar (Instant)

inductive LifecycleState
  | requested | provisioned | active | idleCandidate | decommissionProposed | decommissionApproved | stopped | pendingDeletion
  | deleted | retired
  deriving DecidableEq

structure DependencyAcknowledgement where
  dependencyId : String
  dependentOwnerTeam : String
  isCrossTeam : Bool
  isAcknowledged : Bool
  acknowledgedBy : Option String
  acknowledgedAt : Option Instant

structure RetentionObligation where
  retentionBasis : String
  isSatisfied : Bool
  satisfiedBy : Option String
  satisfiedAt : Option Instant
  signoffNotes : Option String

structure LifecycleResource where
  ownerTeam : String
  currentState : LifecycleState
  monthlyRunRate : ℚ
  stoppedAt : Option Instant
  deletedAt : Option Instant
  retiredAt : Option Instant
  costStopTaskId : Option String
  retentionObligation : Option RetentionObligation
  inboundDependencies : List DependencyAcknowledgement

structure DecommissioningRequest where
  resourceIds : List String
  proposingActor : String
  proposerTeam : String
  justification : String
  estimatedMonthlySaving : ℚ
  workflowRequestId : Option String
  isApproved : Bool
  approvedBy : Option String
  approvedAt : Option Instant

inductive LifecycleError
  | notRegistered (resourceId : String)
  | dependencyNotFound (resourceId dependencyId : String)
  | invalidTransition (fromState toState : LifecycleState)
  | unacknowledgedDependency (resourceId dependentTeam dependencyId : String)
  | retentionUnsatisfied (resourceId retentionBasis : String)
  | noObligation (resourceId : String)
  | justificationTooShort
  | requestNotFound (requestId : String)
  | workflowRefused
  /-- The ongoing cost is in cents. -/
  | costStopFailed (resourceId : String) (ongoingCost : ℤ)

def permittedTransitions : LifecycleState → List LifecycleState
  | .requested => [.provisioned]
  | .provisioned => [.active]
  | .active => [.idleCandidate, .decommissionProposed]
  | .idleCandidate => [.active, .decommissionProposed]
  | .decommissionProposed => [.decommissionApproved, .active]
  | .decommissionApproved => [.stopped]
  | .stopped => [.active, .pendingDeletion]
  | .pendingDeletion => [.deleted]
  | .deleted => [.retired]
  | .retired => []

def sameTeam (first second : String) : Bool := Text.lower (Text.stripped first) = Text.lower (Text.stripped second)

def registerResource (ownerTeam : String) (monthlyRunRate : ℚ) (initialState : LifecycleState)
    (retentionObligation : Option RetentionObligation) : LifecycleResource where
  ownerTeam := ownerTeam
  currentState := initialState
  monthlyRunRate := Decimal.quantize 2 monthlyRunRate
  stoppedAt := none
  deletedAt := none
  retiredAt := none
  costStopTaskId := none
  retentionObligation := retentionObligation
  inboundDependencies := []

namespace LifecycleResource

variable (resource : LifecycleResource)

def unacknowledged : Option DependencyAcknowledgement :=
  resource.inboundDependencies.find? (fun dep => dep.isCrossTeam && !dep.isAcknowledged)

def unsatisfied : Option RetentionObligation := resource.retentionObligation.filter (fun obligation => !obligation.isSatisfied)

def addInboundDependency (dependencyId dependentOwnerTeam : String) : LifecycleResource :=
  { resource with inboundDependencies := resource.inboundDependencies ++
      [⟨dependencyId,dependentOwnerTeam,!sameTeam dependentOwnerTeam resource.ownerTeam,false,none,none⟩] }

def acknowledgeFirst (dependencyId acknowledgedBy : String) (now : Instant) :
    List DependencyAcknowledgement → Option (List DependencyAcknowledgement)
  | [] => none
  | dep :: rest =>
    if dep.dependencyId = dependencyId then
      some ({ dep with isAcknowledged := true, acknowledgedBy := some acknowledgedBy, acknowledgedAt := some now } :: rest)
    else (acknowledgeFirst dependencyId acknowledgedBy now rest).map (dep :: ·)

def transition (resourceId : String) (targetState : LifecycleState) (now : Instant) : Except LifecycleError LifecycleResource :=
  if targetState ∉ permittedTransitions resource.currentState then .error (.invalidTransition resource.currentState targetState)
  else
    match if targetState = .decommissionApproved then resource.unacknowledged else none with
    | some dep => .error (.unacknowledgedDependency resourceId dep.dependentOwnerTeam dep.dependencyId)
    | none =>
      match if targetState = .pendingDeletion ∨ targetState = .deleted then resource.unsatisfied else none with
      | some obligation => .error (.retentionUnsatisfied resourceId obligation.retentionBasis)
      | none => .ok { resource with
        stoppedAt := if targetState = .stopped then some now else resource.stoppedAt
        deletedAt := if targetState = .deleted then some now else resource.deletedAt
        retiredAt := if targetState = .retired then some now else resource.retiredAt
        currentState := targetState }

def satisfy (obligation : RetentionObligation) (complianceOfficerId notes : String) (now : Instant) : LifecycleResource :=
  { resource with retentionObligation := some { obligation with
      isSatisfied := true, satisfiedBy := some complianceOfficerId, satisfiedAt := some now, signoffNotes := some notes } }

def retire (now : Instant) : LifecycleResource :=
  if resource.currentState = .deleted then { resource with currentState := .retired, retiredAt := some now } else resource

end LifecycleResource

structure Service where
  resources : Table String LifecycleResource
  requests : Table String DecommissioningRequest

namespace Service

variable (s : Service)

def setResource (resourceId : String) (resource : LifecycleResource) : Service :=
  { s with resources := s.resources.upsert (fun _ proposed => proposed) resourceId resource }

def setRequest (requestId : String) (request : DecommissioningRequest) : Service :=
  { s with requests := s.requests.upsert (fun _ proposed => proposed) requestId request }

def onResource (resourceId : String) (operation : LifecycleResource → Except LifecycleError LifecycleResource) :
    Service × Option LifecycleError :=
  match s.resources.lookup resourceId with
  | none => (s, some (.notRegistered resourceId))
  | some resource =>
    match operation resource with
    | .error failure => (s, some failure)
    | .ok after => (s.setResource resourceId after, none)

def addInboundDependency (resourceId dependencyId dependentOwnerTeam : String) : Service × Option LifecycleError :=
  s.onResource resourceId (fun resource => .ok (resource.addInboundDependency dependencyId dependentOwnerTeam))

def acknowledgeDependency (resourceId dependencyId acknowledgedBy : String) (now : Instant) : Service × Option LifecycleError :=
  s.onResource resourceId (fun resource =>
    match LifecycleResource.acknowledgeFirst dependencyId acknowledgedBy now resource.inboundDependencies with
    | none => .error (.dependencyNotFound resourceId dependencyId)
    | some dependencies => .ok { resource with inboundDependencies := dependencies })

def transitionState (resourceId : String) (targetState : LifecycleState) (now : Instant) : Service × Option LifecycleError :=
  s.onResource resourceId (fun resource => resource.transition resourceId targetState now)

def satisfyRetentionObligation (resourceId complianceOfficerId notes : String) (now : Instant) : Service × Option LifecycleError :=
  s.onResource resourceId (fun resource =>
    match resource.retentionObligation with
    | none => .error (.noObligation resourceId)
    | some obligation => .ok (resource.satisfy obligation complianceOfficerId notes now))

/-- The transitions of a request's resources, up to the first that fails; those before it stay. -/
def transitionEach (targetState : LifecycleState) (now : Instant) : List String → Service → Service × Option LifecycleError
  | [], s => (s, none)
  | resourceId :: rest, s =>
    match s.transitionState resourceId targetState now with
    | (after, none) => transitionEach targetState now rest after
    | (after, some failure) => (after, some failure)

/-- The run rates of the resources; a transition leaves them as they are. -/
def estimatedSaving (resourceIds : List String) : ℚ :=
  (resourceIds.map (fun resourceId => ((s.resources.lookup resourceId).map LifecycleResource.monthlyRunRate).getD 0)).sum

/-- `workflow` is what the workflow service answers: nothing where none is given, a refusal, or the id of its request. -/
def submitDecommissioningRequest (requestId : String) (resourceIds : List String) (proposingActor proposerTeam justification : String)
    (workflow : Option (Except Unit String)) (now : Instant) : Service × Option LifecycleError :=
  if (Text.strip justification.toList).length < 5 then (s, some .justificationTooShort)
  else
    match s.transitionEach .decommissionProposed now resourceIds with
    | (after, some failure) => (after, some failure)
    | (after, none) =>
      let request (workflowRequestId : Option String) : DecommissioningRequest :=
        ⟨resourceIds,proposingActor,proposerTeam,justification,s.estimatedSaving resourceIds,workflowRequestId,false,none,none⟩
      match workflow with
      | none => (after.setRequest requestId (request none), none)
      | some (.error _) => (after, some .workflowRefused)
      | some (.ok workflowRequestId) => (after.setRequest requestId (request (some workflowRequestId)), none)

def approveDecommissioningRequest (requestId approverId : String) (now : Instant) : Service × Option LifecycleError :=
  match s.requests.lookup requestId with
  | none => (s, some (.requestNotFound requestId))
  | some request =>
    match s.transitionEach .decommissionApproved now request.resourceIds with
    | (after, some failure) => (after, some failure)
    | (after, none) =>
      (after.setRequest requestId { request with isApproved := true, approvedBy := some approverId, approvedAt := some now }, none)

/-- `Decimal(...).quantize(Decimal("0.01"))`, in cents. -/
def cents (amount : ℚ) : ℤ := Decimal.roundHalfEven (amount * 100)

/-- `taskId` is the task that a remediation service, where one is given, creates for a failure. -/
def verifyCostStop (resourceId : String) (postDeletionBillingAmount : ℚ) (taskId : Option String) (now : Instant) :
    Service × Option LifecycleError :=
  match s.resources.lookup resourceId with
  | none => (s, some (.notRegistered resourceId))
  | some resource =>
    if 0 < cents postDeletionBillingAmount then
      (s.setResource resourceId { resource with costStopTaskId := taskId.or resource.costStopTaskId },
        some (.costStopFailed resourceId (cents postDeletionBillingAmount)))
    else (s.setResource resourceId (resource.retire now), none)

end Service

inductive Call
  | addInboundDependency (resourceId dependencyId dependentOwnerTeam : String)
  | acknowledgeDependency (resourceId dependencyId acknowledgedBy : String) (now : Instant)
  | transitionState (resourceId : String) (targetState : LifecycleState) (now : Instant)
  | satisfyRetentionObligation (resourceId complianceOfficerId notes : String) (now : Instant)
  | submitDecommissioningRequest (requestId : String) (resourceIds : List String)
      (proposingActor proposerTeam justification : String) (workflow : Option (Except Unit String)) (now : Instant)
  | approveDecommissioningRequest (requestId approverId : String) (now : Instant)
  | verifyCostStop (resourceId : String) (postDeletionBillingAmount : ℚ) (taskId : Option String) (now : Instant)

def Service.perform (s : Service) : Call → Service × Option LifecycleError
  | .addInboundDependency resourceId dependencyId dependentOwnerTeam =>
    s.addInboundDependency resourceId dependencyId dependentOwnerTeam
  | .acknowledgeDependency resourceId dependencyId acknowledgedBy now =>
    s.acknowledgeDependency resourceId dependencyId acknowledgedBy now
  | .transitionState resourceId targetState now => s.transitionState resourceId targetState now
  | .satisfyRetentionObligation resourceId complianceOfficerId notes now =>
    s.satisfyRetentionObligation resourceId complianceOfficerId notes now
  | .submitDecommissioningRequest requestId resourceIds proposingActor proposerTeam justification workflow now =>
    s.submitDecommissioningRequest requestId resourceIds proposingActor proposerTeam justification workflow now
  | .approveDecommissioningRequest requestId approverId now => s.approveDecommissioningRequest requestId approverId now
  | .verifyCostStop resourceId postDeletionBillingAmount taskId now =>
    s.verifyCostStop resourceId postDeletionBillingAmount taskId now

end CloudLens.Decommissioning
