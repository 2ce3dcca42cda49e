import CloudLens.Library.Dict
import CloudLens.Library.Runs
import CloudLens.Remediation.Model

/-! The remediation service. Every operation reads one task, revises the copy and saves it
whole; the bulk operations and the two sweeps repeat this task by task, and a resolution
is followed by its verification. -/
namespace CloudLens.Remediation
open Library Library.Runs
open Library.Calendar (Instant)

def blank (reason : String) : Bool := (Text.stripped reason).isEmpty

def inferMethod : TaskCategory → RealisedSavingMethod
  | .scheduleBreach => .scheduleExcessAvoidance
  | .idleResource => .idleTerminationDelta
  | .budgetBreach => .runRateElimination
  | _ => .directEstimateVerified

structure TaskCreateRequest where
  subjectEntity : SubjectEntity
  category : TaskCategory
  assigneeId : Option String
  assigneeType : String
  priority : TaskPriority
  estimatedSaving : Option ℚ

structure TaskCreationRule where
  enabled : Bool
  category : TaskCategory
  defaultPriority : TaskPriority

structure Resolution where
  assigneeId : String
  assigneeType : String

namespace RemediationTask

variable (task : RemediationTask)

def transitionState (toState : TaskState) (actor : String) (reason : Option String) : Except RemediationError Revision :=
  if task.isTerminal && toState ≠ .open then .error (.taskAlreadyClosed task.id task.state)
  else if toState ∉ validTransitions task.state then .error (.invalidTransition task.id task.state toState)
  else if (toState = .verified || toState = .closed) && task.state ∉ [.awaitingVerification, .resolved, .verified] then
    .error (.invalidTransition task.id task.state toState)
  else .ok {
    task := { task with state := toState, reasonCode := orElse reason task.reasonCode }.addHistory
      "STATUS_CHANGED" actor task.state toState reason
    cause := .statusChanged }

def assignTask (assigneeId actor assigneeType : String) (reason : Option String) : Except RemediationError Revision :=
  if task.isTerminal then .error (.taskAlreadyClosed task.id task.state)
  else
    let toState := if task.state = .open then TaskState.assigned else task.state
    .ok {
      task := { task with assigneeId, assigneeType, assigningActor := actor, state := toState }.addHistory
        "ASSIGNED" actor task.state toState reason
      cause := .assigned }

def markResolved (actor : String) : Except RemediationError Revision :=
  if task.isTerminal then .error (.taskAlreadyClosed task.id task.state)
  else .ok {
    task := { task with state := .awaitingVerification }.addHistory
      "RESOLVED_PENDING_VERIFICATION" actor task.state .awaitingVerification none
    cause := .pendingVerification }

def savingTeam : String :=
  if task.assigneeType = "TEAM" && !task.assigneeId.isEmpty then task.assigneeId
  else (orElse task.subjectEntity.businessUnitId (orElse task.subjectEntity.costCentreId
    (orElse (some task.assigneeId) none))).getD "enterprise-finops"

/-- `none` is the exception of a verifier that fails. -/
def verifyTask (actor : String) (verdict : Option Bool) (clock : Clock) : Except RemediationError Revision :=
  match verdict with
  | none => .error .verifierFailed
  | some true =>
    let closed := { task with
      state := .closed, closureCode := some .fixedAndVerified, closedAt := some clock.now,
      verificationAttempts := task.verificationAttempts + 1 }.addHistory "VERIFIED_AND_CLOSED" actor task.state .closed none
    let savingAmount := task.estimatedSaving.getD 0
    if 0 < savingAmount then
      let entry : RealisedSavingEntry := {
        tenantId := task.tenantId, taskId := task.id, entityId := task.subjectEntity.entityId, category := task.category,
        teamId := task.savingTeam, period := Calendar.formatMonth clock.today,
        realisedAmount := Decimal.roundHalfEven (savingAmount * 100), calculationMethod := inferMethod task.category,
        verifiedAt := clock.now, verifiedBy := if actor.isEmpty then "system-verifier" else actor }
      .ok {
        task := { closed with
          realisedSaving := some entry.realisedAmount, realisedSavingMethod := some entry.calculationMethod }
        cause := .cleared
        saving := some entry }
    else .ok { task := closed, cause := .cleared }
  | some false => .ok {
    task := { task with state := .open, verificationAttempts := task.verificationAttempts + 1 }.addHistory
      "VERIFICATION_FAILED_REOPENED" "system-verifier" task.state .open none
    cause := .persistent }

def deferTask (actor reason : String) (deferralExpiry : Instant) (approvalWorkflowId : Option String) (now : Instant) :
    Except RemediationError Revision :=
  if task.isTerminal then .error (.taskAlreadyClosed task.id task.state)
  else if blank reason then .error (.mandatoryReason "deferral")
  else if deferralExpiry ≤ now then .error (.mandatoryReason "Deferral expiry must be a future timestamp.")
  else .ok {
    task := { task with
      state := .deferred, reasonCode := some (Text.stripped reason), deferralExpiry := some deferralExpiry,
      approvalWorkflowId }.addHistory "DEFERRED" actor task.state .deferred (some (Text.stripped reason))
    cause := .deferred }

def acceptRisk (actor reason : String) (riskExpiry now : Instant) : Except RemediationError Revision :=
  if blank reason then .error (.mandatoryReason "risk_acceptance")
  else .ok {
    task := { task with
      state := .closed, closureCode := some .riskAccepted, closedAt := some now, riskAccepted := true,
      riskAcceptedExpiry := some riskExpiry, reasonCode := some (Text.stripped reason) }.addHistory
        "RISK_ACCEPTED" actor task.state .closed (some (Text.stripped reason))
    cause := .riskAccepted }

def expiredBy (now : Instant) : Bool := task.deferralExpiry.any (fun expiry => expiry ≤ now)

def reopenExpired : Revision where
  task := { task with state := .open, deferralExpiry := none }.addHistory
    "DEFERRAL_EXPIRED_REOPENED" "system-deferral-scheduler" .deferred .open none
  cause := .deferralExpired

def reprioritise (newPriority : TaskPriority) (actor : String) (reason : Option String) : Revision where
  task := { task with priority := newPriority }.addHistory "REPRIORITISED" actor task.state task.state reason
  cause := .reprioritised

def closeDuplicate (actor : String) (reason : Option String) (now : Instant) : Revision where
  task := { task with
    state := .duplicate, closureCode := some .duplicateSuperseded, closedAt := some now }.addHistory
      "MARKED_DUPLICATE" actor task.state .duplicate reason
  cause := .markedDuplicate

def escalate : Revision where
  task := task.addHistory "ESCALATED" "system-sla-scheduler" task.state task.state none
  cause := .escalated

def mirror : Revision where
  task := task.addHistory "ITSM_MIRRORED" "system-itsm-adapter" task.state task.state none
  cause := .mirrored

end RemediationTask

inductive Operation
  | transitionState (toState : TaskState) (actor : String) (reason : Option String)
  | assignTask (assigneeId actor assigneeType : String) (reason : Option String)
  | markResolved (actor : String)
  | verifyTask (actor : String) (verdict : Option Bool) (clock : Clock)
  | deferTask (actor reason : String) (deferralExpiry : Instant) (approvalWorkflowId : Option String) (now : Instant)
  | acceptRisk (actor reason : String) (riskExpiry now : Instant)
  | reopenExpired (now : Instant)
  | reprioritise (newPriority : TaskPriority) (actor : String) (reason : Option String)
  | closeDuplicate (actor : String) (reason : Option String) (now : Instant)
  | escalate
  | mirror

def Operation.apply : Operation → RemediationTask → Except RemediationError Revision
  | .transitionState toState actor reason, task => task.transitionState toState actor reason
  | .assignTask assigneeId actor assigneeType reason, task => task.assignTask assigneeId actor assigneeType reason
  | .markResolved actor, task => task.markResolved actor
  | .verifyTask actor verdict clock, task => task.verifyTask actor verdict clock
  | .deferTask actor reason deferralExpiry approvalWorkflowId now, task =>
    task.deferTask actor reason deferralExpiry approvalWorkflowId now
  | .acceptRisk actor reason riskExpiry now, task => task.acceptRisk actor reason riskExpiry now
  | .reopenExpired now, task =>
    if task.state = .deferred && task.expiredBy now then .ok task.reopenExpired
    else .error (.invalidTransition task.id task.state .open)
  | .reprioritise newPriority actor reason, task => .ok (task.reprioritise newPriority actor reason)
  | .closeDuplicate actor reason now, task => .ok (task.closeDuplicate actor reason now)
  | .escalate, task => .ok task.escalate
  | .mirror, task => .ok task.mirror

namespace Store

variable (s : Store) (tenantId : String)

def insertTask (task : RemediationTask) : Store :=
  s.save tenantId task ⟨task.id,none,task.state,.created,none⟩

def newTask (taskId : String) (subjectEntity : SubjectEntity) (category : TaskCategory) (priority : TaskPriority)
    (assignee : Resolution) (assigningActor : String) (estimatedSaving : Option ℚ) (state : TaskState) (dueDate now : Instant) :
    RemediationTask where
  id := taskId
  tenantId := tenantId
  subjectEntity := subjectEntity
  category := category
  assigneeId := assignee.assigneeId
  assigneeType := assignee.assigneeType
  assigningActor := assigningActor
  priority := priority
  dueDate := dueDate
  estimatedSaving := estimatedSaving
  realisedSaving := none
  realisedSavingMethod := none
  state := state
  reasonCode := none
  closureCode := none
  deferralExpiry := none
  riskAccepted := false
  riskAcceptedExpiry := none
  approvalWorkflowId := none
  verificationAttempts := 0
  history := []
  createdAt := now
  closedAt := none

def requestedAssignee (req : TaskCreateRequest) (resolve : SubjectEntity → Resolution) : Resolution :=
  match req.assigneeId with
  | some explicit => if explicit.isEmpty then resolve req.subjectEntity else ⟨explicit,req.assigneeType⟩
  | none => resolve req.subjectEntity

def initialState (assignee : Resolution) : TaskState := if assignee.assigneeId.isEmpty then .open else .assigned

def requestedTask (taskId : String) (req : TaskCreateRequest) (resolve : SubjectEntity → Resolution) (actor : String)
    (dueDate now : Instant) : RemediationTask :=
  let assignee := requestedAssignee req resolve
  (newTask tenantId taskId req.subjectEntity req.category req.priority assignee actor req.estimatedSaving
    (initialState assignee) dueDate now).addHistory "CREATED" actor (initialState assignee) (initialState assignee) none

def detectedTask (taskId : String) (rule : TaskCreationRule) (subject : SubjectEntity) (priority : Option TaskPriority)
    (estimatedSaving : Option ℚ) (assignee : Resolution) (dueDate now : Instant) : RemediationTask :=
  let created := (newTask tenantId taskId subject rule.category (priority.getD rule.defaultPriority) assignee
    "SYSTEM_CREATION_ENGINE" estimatedSaving .open dueDate now).addHistory "CREATED" "system-task-engine" .open .open none
  { created with state := .assigned }.addHistory "ASSIGNED" "system-assignment-engine" .open .assigned none

def createTask (taskId : String) (req : TaskCreateRequest) (resolve : SubjectEntity → Resolution) (actor : String)
    (dueDate now : Instant) : Store :=
  s.insertTask tenantId (requestedTask tenantId taskId req resolve actor dueDate now)

def createFromSource (taskId : String) (rule : Option TaskCreationRule) (subject : SubjectEntity)
    (priority : Option TaskPriority) (estimatedSaving : Option ℚ) (assignee : Resolution) (dueDate now : Instant) : Store :=
  match rule with
  | none => s
  | some rule =>
    if rule.enabled then s.insertTask tenantId (detectedTask tenantId taskId rule subject priority estimatedSaving assignee dueDate now)
    else s

def transitionState (taskId : String) (toState : TaskState) (actor : String) (reason : Option String) :=
  s.amend tenantId taskId (fun task => task.transitionState toState actor reason)

def assignTask (taskId assigneeId actor assigneeType : String) (reason : Option String) :=
  s.amend tenantId taskId (fun task => task.assignTask assigneeId actor assigneeType reason)

def verifyTask (taskId actor : String) (verdict : Option Bool) (clock : Clock) :=
  s.amend tenantId taskId (fun task => task.verifyTask actor verdict clock)

def resolveTask (taskId actor : String) (verdict : Option Bool) (clock : Clock) :
    Store × Except RemediationError RemediationTask :=
  match s.amend tenantId taskId (fun task => task.markResolved actor) with
  | (after, .ok _) => after.verifyTask tenantId taskId actor verdict clock
  | (_, .error failure) => (s, .error failure)

def deferTask (taskId actor reason : String) (deferralExpiry : Instant) (approvalWorkflowId : Option String) (now : Instant) :=
  s.amend tenantId taskId (fun task => task.deferTask actor reason deferralExpiry approvalWorkflowId now)

def acceptRisk (taskId actor reason : String) (riskExpiry now : Instant) :=
  s.amend tenantId taskId (fun task => task.acceptRisk actor reason riskExpiry now)

def expiredDeferrals (now : Instant) : List RemediationTask :=
  (s.listTasks tenantId .deferred 500).filter (fun task => task.expiredBy now)

def checkExpiredDeferrals (now : Instant) : Store × List RemediationTask :=
  ((s.expiredDeferrals tenantId now).foldl (fun current task => current.commit tenantId task task.reopenExpired) s,
    (s.expiredDeferrals tenantId now).map (fun task => task.reopenExpired.task))

def bulkAssign (taskIds : List String) (newAssigneeId actor assigneeType : String) (reason : Option String) :=
  s.each tenantId taskIds (fun task => task.assignTask newAssigneeId actor assigneeType reason)

def bulkReprioritise (taskIds : List String) (newPriority : TaskPriority) (actor : String) (reason : Option String) :=
  s.each tenantId taskIds (fun task => .ok (task.reprioritise newPriority actor reason))

def bulkDefer (taskIds : List String) (actor reason : String) (deferralExpiry now : Instant) :=
  s.each tenantId taskIds (fun task => task.deferTask actor reason deferralExpiry none now)

def bulkCloseDuplicate (duplicateTaskIds : List String) (canonicalTaskId actor : String) (reason : Option String)
    (now : Instant) :=
  s.each tenantId (duplicateTaskIds.filter (fun taskId => taskId ≠ canonicalTaskId))
    (fun task => .ok (task.closeDuplicate actor reason now))

def overdue (now : Instant) (state : TaskState) : List RemediationTask :=
  (s.listTasks tenantId state 500).filter (fun task => task.dueDate < now)

def escalateState (now : Instant) (state : TaskState) : Store :=
  (s.overdue tenantId now state).foldl (fun current task => current.commit tenantId task task.escalate) s

def checkOverdueAndEscalate (now : Instant) : Store :=
  [TaskState.open, .assigned, .inProgress, .blocked].foldl (fun current state => current.escalateState tenantId now state) s

/-- `mirrored` tells whether the external system has answered with a ticket. -/
def mirrorToItsm (taskId : String) (mirrored : Bool) : Store :=
  if mirrored then (s.amend tenantId taskId (fun task => .ok task.mirror)).1 else s

end Store

inductive Call
  | createTask (taskId : String) (req : TaskCreateRequest) (resolve : SubjectEntity → Resolution) (actor : String)
      (dueDate now : Instant)
  | createFromSource (taskId : String) (rule : Option TaskCreationRule) (subject : SubjectEntity)
      (priority : Option TaskPriority) (estimatedSaving : Option ℚ) (assignee : Resolution) (dueDate now : Instant)
  | transitionState (taskId : String) (toState : TaskState) (actor : String) (reason : Option String)
  | assignTask (taskId assigneeId actor assigneeType : String) (reason : Option String)
  | resolveTask (taskId actor : String) (verdict : Option Bool) (clock : Clock)
  | verifyTask (taskId actor : String) (verdict : Option Bool) (clock : Clock)
  | deferTask (taskId actor reason : String) (deferralExpiry : Instant) (approvalWorkflowId : Option String) (now : Instant)
  | acceptRisk (taskId actor reason : String) (riskExpiry now : Instant)
  | checkExpiredDeferrals (now : Instant)
  | bulkAssign (taskIds : List String) (newAssigneeId actor assigneeType : String) (reason : Option String)
  | bulkReprioritise (taskIds : List String) (newPriority : TaskPriority) (actor : String) (reason : Option String)
  | bulkDefer (taskIds : List String) (actor reason : String) (deferralExpiry now : Instant)
  | bulkCloseDuplicate (duplicateTaskIds : List String) (canonicalTaskId actor : String) (reason : Option String) (now : Instant)
  | checkOverdueAndEscalate (now : Instant)
  | mirrorToItsm (taskId : String) (mirrored : Bool)

def Store.perform (s : Store) (call : String × Call) : Store :=
  match call.2 with
  | .createTask taskId req resolve actor dueDate now => s.createTask call.1 taskId req resolve actor dueDate now
  | .createFromSource taskId rule subject priority estimatedSaving assignee dueDate now =>
    s.createFromSource call.1 taskId rule subject priority estimatedSaving assignee dueDate now
  | .transitionState taskId toState actor reason => (s.transitionState call.1 taskId toState actor reason).1
  | .assignTask taskId assigneeId actor assigneeType reason =>
    (s.assignTask call.1 taskId assigneeId actor assigneeType reason).1
  | .resolveTask taskId actor verdict clock => (s.resolveTask call.1 taskId actor verdict clock).1
  | .verifyTask taskId actor verdict clock => (s.verifyTask call.1 taskId actor verdict clock).1
  | .deferTask taskId actor reason deferralExpiry approvalWorkflowId now =>
    (s.deferTask call.1 taskId actor reason deferralExpiry approvalWorkflowId now).1
  | .acceptRisk taskId actor reason riskExpiry now => (s.acceptRisk call.1 taskId actor reason riskExpiry now).1
  | .checkExpiredDeferrals now => (s.checkExpiredDeferrals call.1 now).1
  | .bulkAssign taskIds newAssigneeId actor assigneeType reason =>
    (s.bulkAssign call.1 taskIds newAssigneeId actor assigneeType reason).1
  | .bulkReprioritise taskIds newPriority actor reason => (s.bulkReprioritise call.1 taskIds newPriority actor reason).1
  | .bulkDefer taskIds actor reason deferralExpiry now => (s.bulkDefer call.1 taskIds actor reason deferralExpiry now).1
  | .bulkCloseDuplicate duplicateTaskIds canonicalTaskId actor reason now =>
    (s.bulkCloseDuplicate call.1 duplicateTaskIds canonicalTaskId actor reason now).1
  | .checkOverdueAndEscalate now => s.checkOverdueAndEscalate call.1 now
  | .mirrorToItsm taskId mirrored => s.mirrorToItsm call.1 taskId mirrored

end CloudLens.Remediation
