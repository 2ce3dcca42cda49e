import CloudLens.Workflows.Approvers

/-! The workflow service: submission, decisions, application on approval,
withdrawal and the two background evaluators. A decision reads the request,
computes the updated one from it and writes it back; the computation is a
function of its own, since concurrent callers interleave between the three. The
clock, fresh identifiers, the delegation rules read and the outcome of the
applier are inputs of a call. -/
namespace CloudLens.Workflows
open Library
open Library.Calendar (Instant)

inductive ApplierOutcome where
  | applied
  | failed (reason : String)
  deriving DecidableEq

structure Application where
  requestId : String
  outcome : ApplierOutcome
  deriving DecidableEq

structure World where
  requests : Table String (Owned WorkflowRequest)
  directory : Directory
  applications : List Application

structure Call where
  tc : TenantContext
  now : Instant
  applyNow : Instant
  token : String
  delegations : List DelegationRule
  outcome : ApplierOutcome

def WorkflowRequest.forTenant (request : WorkflowRequest) (tenant : String) : WorkflowRequest :=
  { request with tenantId := tenant }

def saveRequest (tc : TenantContext) (request : WorkflowRequest) (w : World) :
    World × Except WorkflowError WorkflowRequest :=
  let entity := request.forTenant tc.tenantId
  match saveOwned tc.tenantId entity.id entity w.requests with
  | none => (w, .error .rowLevelSecurity)
  | some requests => ({ w with requests := requests }, .ok entity)

def commit (tc : TenantContext) : World × Except WorkflowError WorkflowRequest → World × Except WorkflowError WorkflowRequest
  | (w, .error e) => (w, .error e)
  | (w, .ok request) => saveRequest tc request w

def applyRegistered (env : Environment) (outcome : ApplierOutcome) (request : WorkflowRequest) :
    Except WorkflowError Unit :=
  if env.hasApplier request.requestType then
    match outcome with
    | .applied => .ok ()
    | .failed reason => .error (.applicationFailed request.id reason)
  else .ok ()

def recordApplication (env : Environment) (outcome : ApplierOutcome) (request : WorkflowRequest) (w : World) : World :=
  if env.hasApplier request.requestType then
    { w with applications := w.applications ++ [⟨request.id,outcome⟩] }
  else w

def appliedRequest (request : WorkflowRequest) (actorId : String) (now : Instant) : WorkflowRequest :=
  { request with
    state := .applied
    appliedAt := some now
    appliedBy := some actorId
    errorMessage := none }.addHistory actorId "APPLY" (some .approved) (some .applied) none []

def revertedRequest (request : WorkflowRequest) (e : WorkflowError) : WorkflowRequest :=
  { request with
    state := .inReview
    errorMessage := some ("Application failed: " ++ e.message) }.addHistory "system" "APPLICATION_FAILED"
      (some .approved) (some .inReview) none [("error", .text e.message)]

def applyApprovedRequest (env : Environment) (call : Call) (actorId : String) (request : WorkflowRequest) (w : World) :
    World × WorkflowRequest :=
  (recordApplication env call.outcome request w,
    match applyRegistered env call.outcome request with
    | .ok _ => appliedRequest request actorId call.applyNow
    | .error e => revertedRequest request e)

structure SubmitRequest where
  requestType : String
  title : String
  subjectEntity : SubjectEntity
  justification : String
  payload : Payload
  previousValues : Option Payload
  financialImpact : Option ℚ

def requestIdOf (tc : TenantContext) (token : String) : String :=
  "wf-req-" ++ String.ofList (tc.tenantId.toList.take 8) ++ "-" ++ token

def buildStage (definition : WorkflowStageDefinition) : WorkflowStage where
  stageId := definition.stageId
  name := definition.name
  sequenceOrder := definition.sequenceOrder
  mode := definition.mode
  quorum := definition.quorum
  positive := definition.positive
  approverSpec := definition.approverSpec
  assignedApprovers := []
  status := .pending
  decisions := []

def submittedRequest (env : Environment) (call : Call) (input : SubmitRequest) (definition : WorkflowDefinition) :
    WorkflowRequest :=
  { id := requestIdOf call.tc call.token
    tenantId := call.tc.tenantId
    definitionId := some definition.id
    requestType := input.requestType
    title := input.title
    subjectEntity := input.subjectEntity
    requester := ⟨call.tc.userId,call.tc.email⟩
    justification := input.justification
    payload := input.payload
    previousValues := input.previousValues
    financialImpact := input.financialImpact
    state := .submitted
    currentStageIndex := 0
    stages := definition.stages.map buildStage
    createdAt := call.now
    submittedAt := some call.now
    dueDate := some (env.dueDate call.now definition.slaWorkingHours definition.workingScheduleId call.tc.tenantId)
    slaWorkingHours := definition.slaWorkingHours
    workingScheduleId := definition.workingScheduleId
    slaBreached := false
    escalationPath := definition.escalationPath
    escalationDueAt := some (env.dueDate call.now definition.escalationPath.escalateAfterHours
      definition.workingScheduleId call.tc.tenantId)
    isEscalated := false
    history := []
    errorMessage := none
    appliedAt := none
    appliedBy := none : WorkflowRequest }.addHistory call.tc.userId "SUBMIT" none (some .submitted) none
      [("request_type", .text input.requestType), ("title", .text input.title)]

def autoApproved (request : WorkflowRequest) : WorkflowRequest :=
  { request with state := .approved }.addHistory "system" "AUTO_APPROVE" (some .submitted) (some .approved) none
    [("reason", .text "Below threshold or condition not met")]

def escalated (request : WorkflowRequest) (now : Instant) (details : List (String × Detail)) : WorkflowRequest :=
  { request with
    isEscalated := true
    escalationPath := { request.escalationPath with
      isEscalated := true
      escalatedAt := some now
      escalatedTo := [request.escalationPath.escalateToRole] } }.addHistory "system" "AUTO_ESCALATE" none none none details

def initialisedRequest (request : WorkflowRequest) (stage : WorkflowStageDefinition) (resolved : ResolvedApprovers)
    (now : Instant) : WorkflowRequest :=
  let opened := { request with state := .inReview }.setStage 0
    { buildStage stage with assignedApprovers := resolved.effectiveApprovers, status := .inReview }
  let recorded := opened.addHistory "system" "INITIALIZE_STAGE" (some .submitted) (some .inReview) (some stage.stageId)
    [("assigned_approvers", .names resolved.effectiveApprovers)]
  if resolved.unavailableWithoutDelegate = [] then recorded
  else escalated recorded now [("reason", .text "Approver on leave without active delegation")]

def computeSubmission (env : Environment) (call : Call) (input : SubmitRequest) (w : World) :
    World × Except WorkflowError WorkflowRequest :=
  match env.definition call.tc.tenantId input.requestType with
  | none => (w, .error (.definitionNotFound input.requestType))
  | some definition =>
    let request := submittedRequest env call input definition
    match definition.triggerCondition.triggers input.payload input.financialImpact with
    | none => (w, .error .invalidNumber)
    | some false =>
      let applied := applyApprovedRequest env call "system" (autoApproved request) w
      (applied.1, .ok applied.2)
    | some true =>
      match definition.stages with
      | [] => (w, .ok request)
      | stage :: _ =>
        match resolveApprovers env call.tc request.id request.requestType stage request.subjectEntity call.delegations
            call.now w.directory with
        | (directory, .error e) => ({ w with directory := directory }, .error e)
        | (directory, .ok resolved) =>
          ({ w with directory := directory }, .ok (initialisedRequest request stage resolved call.now))

def submitRequest (env : Environment) (call : Call) (input : SubmitRequest) (w : World) :
    World × Except WorkflowError WorkflowRequest :=
  commit call.tc (computeSubmission env call input w)

structure DecisionRequest where
  decision : DecisionOutcome
  comment : Option String

def stageDefinition (definition : Option WorkflowDefinition) (index : ℕ) :
    Except WorkflowError (Option WorkflowStageDefinition) :=
  match definition with
  | none => .ok none
  | some definition =>
    match definition.stages[index]? with
    | none => .error .indexOutOfRange
    | some stage => .ok (some stage)

def mayDecide (tc : TenantContext) (stage : WorkflowStage) (spec : WorkflowApproverSpec) (resolved : ResolvedApprovers) :
    Bool :=
  resolved.isAuthorized tc.userId || tc.userId ∈ stage.assignedApprovers ||
    (present spec.targetRole).any (fun role => role ∈ tc.roles) ||
    (spec.fallbackRole ≠ "" && spec.fallbackRole ∈ tc.roles) || tc.isSuperuser ||
    "GLOBAL_ADMIN" ∈ tc.roles || "TENANT_ADMIN" ∈ tc.roles

def delegationFor (call : Call) (requestType : String) (resolved : ResolvedApprovers) : Option DelegationRule :=
  match resolved.getDelegationFor call.tc.userId with
  | some rule => some rule
  | none =>
    if call.tc.userId ∉ resolved.primaryApprovers ∧ call.tc.userId ∈ resolved.effectiveApprovers then
      call.delegations.find? (fun rule => rule.delegateApproverId = call.tc.userId &&
        rule.isCurrentlyActive call.now requestType)
    else none

def authorise (env : Environment) (call : Call) (requestId : String) (request : WorkflowRequest) (stage : WorkflowStage)
    (directory : Directory) : Directory × Except WorkflowError (Option DelegationRule) :=
  match stageDefinition (env.definition call.tc.tenantId request.requestType) request.currentStageIndex with
  | .error e => (directory, .error e)
  | .ok none => (directory, .ok none)
  | .ok (some definition) =>
    match resolveApprovers env call.tc request.id request.requestType definition request.subjectEntity call.delegations
        call.now directory with
    | (extended, .error e) => (extended, .error e)
    | (extended, .ok resolved) =>
      if mayDecide call.tc stage definition.approverSpec resolved then
        (extended, .ok (delegationFor call request.requestType resolved))
      else (extended, .error (.unauthorizedApprover requestId call.tc.userId stage.name))

def decisionOf (call : Call) (stage : WorkflowStage) (rule : Option DelegationRule) (decision : DecisionOutcome)
    (comment : Option String) : WorkflowDecision where
  decisionId := "dec-" ++ call.token
  stageId := stage.stageId
  decision := decision
  decidedBy := call.tc.userId
  onBehalfOf := rule.map DelegationRule.originalApproverId
  delegationId := rule.map DelegationRule.id
  comment := comment
  timestamp := call.now

def decidedStage (stage : WorkflowStage) (decision : WorkflowDecision) : WorkflowStage :=
  { stage with decisions := stage.decisions ++ [decision] }

def mandatoryComment (comment : Option String) : Option String :=
  present (comment.map (fun text => String.ofList (Text.strip text.toList)))

def rejectedRequest (call : Call) (request : WorkflowRequest) (stage : WorkflowStage) (rule : Option DelegationRule)
    (text : String) : WorkflowRequest :=
  ({ request with state := .rejected }.setStage request.currentStageIndex
    { decidedStage stage (decisionOf call stage rule .reject (some text)) with status := .rejected }).addHistory
      call.tc.userId "REJECT" (some request.state) (some .rejected) (some stage.stageId) [("comment", .text text),
        ("on_behalf_of", .optional (rule.map DelegationRule.originalApproverId)),
        ("delegation_id", .optional (rule.map DelegationRule.id))]

def rejectStage (call : Call) (requestId : String) (comment : Option String) (request : WorkflowRequest)
    (stage : WorkflowStage) (rule : Option DelegationRule) : Except WorkflowError WorkflowRequest :=
  match mandatoryComment comment with
  | none => .error (.mandatoryComment requestId)
  | some text => .ok (rejectedRequest call request stage rule text)

def informedRequest (call : Call) (request : WorkflowRequest) (stage : WorkflowStage) (rule : Option DelegationRule)
    (text : String) : WorkflowRequest :=
  (request.setStage request.currentStageIndex
    (decidedStage stage (decisionOf call stage rule .requestMoreInfo (some text)))).addHistory call.tc.userId
      "REQUEST_MORE_INFO" none none (some stage.stageId) [("comment", .text text)]

def requestInformation (call : Call) (requestId : String) (comment : Option String) (request : WorkflowRequest)
    (stage : WorkflowStage) (rule : Option DelegationRule) : Except WorkflowError WorkflowRequest :=
  match mandatoryComment comment with
  | none => .error (.mandatoryComment ("A comment specifying requested information is required for request '" ++
      requestId ++ "'."))
  | some text => .ok (informedRequest call request stage rule text)

def partiallyApproved (call : Call) (request : WorkflowRequest) (stage : WorkflowStage) : WorkflowRequest :=
  (request.setStage request.currentStageIndex stage).addHistory call.tc.userId "PARTIAL_APPROVAL" none none
    (some stage.stageId) [("approvals_so_far", .count stage.approvedCount), ("quorum_required", .count stage.quorum)]

def stageApproved (call : Call) (request : WorkflowRequest) (stage : WorkflowStage) (rule : Option DelegationRule) :
    WorkflowRequest :=
  (request.setStage request.currentStageIndex { stage with status := .approved }).addHistory call.tc.userId
    "STAGE_APPROVED" none none (some stage.stageId) [("approvals", .count stage.approvedCount),
      ("quorum", .count stage.quorum), ("on_behalf_of", .optional (rule.map DelegationRule.originalApproverId))]

def advancedRequest (request : WorkflowRequest) (next : WorkflowStage) (assigned : List String) : WorkflowRequest :=
  ({ request with currentStageIndex := request.currentStageIndex + 1 }.setStage (request.currentStageIndex + 1)
    { next with status := .inReview, assignedApprovers := assigned }).addHistory "system" "ADVANCE_STAGE" none none
      (some next.stageId) [("next_stage_name", .text next.name)]

def advanceStage (env : Environment) (call : Call) (request : WorkflowRequest) (next : WorkflowStage) (w : World) :
    World × Except WorkflowError WorkflowRequest :=
  match (env.definition call.tc.tenantId request.requestType).bind
      (fun definition => definition.stages[request.currentStageIndex + 1]?) with
  | none => (w, .ok (advancedRequest request next next.assignedApprovers))
  | some definition =>
    match resolveApprovers env call.tc request.id request.requestType definition request.subjectEntity call.delegations
        call.now w.directory with
    | (directory, .error e) => ({ w with directory := directory }, .error e)
    | (directory, .ok resolved) =>
      ({ w with directory := directory }, .ok (advancedRequest request next resolved.effectiveApprovers))

def workflowApproved (call : Call) (request : WorkflowRequest) : WorkflowRequest :=
  { request with state := .approved }.addHistory call.tc.userId "WORKFLOW_APPROVED" (some .inReview) (some .approved)
    none []

def approveStage (env : Environment) (call : Call) (comment : Option String) (request : WorkflowRequest)
    (stage : WorkflowStage) (rule : Option DelegationRule) (w : World) : World × Except WorkflowError WorkflowRequest :=
  let voted := decidedStage stage (decisionOf call stage rule .approve comment)
  if voted.mode = .serial ∨ voted.isQuorumMet then
    let passed := stageApproved call request voted rule
    match passed.stages[passed.currentStageIndex + 1]? with
    | some next => advanceStage env call passed next w
    | none =>
      let applied := applyApprovedRequest env call call.tc.userId (workflowApproved call passed) w
      (applied.1, .ok applied.2)
  else (w, .ok (partiallyApproved call request voted))

def computeDecision (env : Environment) (call : Call) (requestId : String) (input : DecisionRequest)
    (request : WorkflowRequest) (w : World) : World × Except WorkflowError WorkflowRequest :=
  if request.state.isFinalised then (w, .error (.alreadyFinalized requestId request.state))
  else
    match request.currentStage with
    | none => (w, .error (.invalidTransition requestId request.state "DECIDE"))
    | some stage =>
      match authorise env call requestId request stage w.directory with
      | (directory, .error e) => ({ w with directory := directory }, .error e)
      | (directory, .ok rule) =>
        match input.decision with
        | .reject => ({ w with directory := directory }, rejectStage call requestId input.comment request stage rule)
        | .requestMoreInfo =>
          ({ w with directory := directory }, requestInformation call requestId input.comment request stage rule)
        | .approve => approveStage env call input.comment request stage rule { w with directory := directory }

def recordDecision (env : Environment) (call : Call) (requestId : String) (input : DecisionRequest) (w : World) :
    World × Except WorkflowError WorkflowRequest :=
  match getOwned call.tc.tenantId requestId w.requests with
  | none => (w, .error (.notFound requestId))
  | some request => commit call.tc (computeDecision env call requestId input request w)

def withdrawnRequest (tc : TenantContext) (reason : String) (request : WorkflowRequest) : WorkflowRequest :=
  { request with state := .withdrawn }.addHistory tc.userId "WITHDRAW" (some request.state) (some .withdrawn) none
    [("reason", .text reason)]

def computeWithdrawal (tc : TenantContext) (requestId reason : String) (request : WorkflowRequest) :
    Except WorkflowError WorkflowRequest :=
  if request.state.isFinalised then .error (.alreadyFinalized requestId request.state)
  else .ok (withdrawnRequest tc reason request)

def withdrawRequest (tc : TenantContext) (requestId reason : String) (w : World) :
    World × Except WorkflowError WorkflowRequest :=
  match getOwned tc.tenantId requestId w.requests with
  | none => (w, .error (.notFound requestId))
  | some request => commit tc (w, computeWithdrawal tc requestId reason request)

def listRequests (tc : TenantContext) (state : WorkflowState) (limit : ℕ) (w : World) : List WorkflowRequest :=
  (((w.requests.selectWhere (fun _ row => row.tenantId = tc.tenantId && row.entity.state = state)).map
    (fun entry => entry.2.entity)).insertionSort (fun a b => b.createdAt ≤ a.createdAt)).take limit

def saveEach (tc : TenantContext) (update : WorkflowRequest → Option WorkflowRequest) :
    List WorkflowRequest → World → World × Except WorkflowError (List WorkflowRequest)
  | [], w => (w, .ok [])
  | request :: rest, w =>
    match update request with
    | none => saveEach tc update rest w
    | some updated =>
      match saveRequest tc updated w with
      | (after, .error e) => (after, .error e)
      | (after, .ok saved) =>
        match saveEach tc update rest after with
        | (last, .error e) => (last, .error e)
        | (last, .ok others) => (last, .ok (saved :: others))

def escalation (now : Instant) (request : WorkflowRequest) : Option WorkflowRequest :=
  if !request.isEscalated && request.escalationDueAt.any (fun due => due ≤ now) then
    some (escalated request now [("escalated_to", .text request.escalationPath.escalateToRole)])
  else none

def evaluateEscalations (tc : TenantContext) (now : Instant) (w : World) :
    World × Except WorkflowError (List WorkflowRequest) :=
  saveEach tc (escalation now) (listRequests tc .inReview 500 w) w

def expiredRequest (request : WorkflowRequest) (due : Instant) : WorkflowRequest :=
  { request with slaBreached := true, state := .expired }.addHistory "system" "AUTO_EXPIRE" (some .inReview)
    (some .expired) none [("due_date", .instant due)]

def expiration (env : Environment) (tc : TenantContext) (now : Instant) (request : WorkflowRequest) :
    Option WorkflowRequest :=
  match request.dueDate with
  | none => none
  | some due =>
    if due ≤ now ∧ (env.definition tc.tenantId request.requestType).any (fun definition => definition.autoRejectOnExpiry) then
      some (expiredRequest request due)
    else none

def evaluateExpirations (env : Environment) (tc : TenantContext) (now : Instant) (w : World) :
    World × Except WorkflowError (List WorkflowRequest) :=
  saveEach tc (expiration env tc now) (listRequests tc .inReview 500 w) w

inductive WorkflowOp where
  | submit (call : Call) (input : SubmitRequest)
  | recordDecision (call : Call) (requestId : String) (input : DecisionRequest)
  | withdraw (tc : TenantContext) (requestId reason : String)
  | escalate (tc : TenantContext) (now : Instant)
  | expire (tc : TenantContext) (now : Instant)

def serve (env : Environment) (w : World) (op : WorkflowOp) : World :=
  match op with
  | .submit call input => (submitRequest env call input w).1
  | .recordDecision call requestId input => (recordDecision env call requestId input w).1
  | .withdraw tc requestId reason => (withdrawRequest tc requestId reason w).1
  | .escalate tc now => (evaluateEscalations tc now w).1
  | .expire tc now => (evaluateExpirations env tc now w).1

end CloudLens.Workflows
