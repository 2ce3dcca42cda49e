import CloudLens.Library.Sha256
import Mathlib.Order.Basic
import Mathlib.Algebra.Order.Ring.Rat

/-! Alerts, their fingerprint, and what each method of an alert changes. The texts
shown to a person and the evidence are carried by no definition here. -/
namespace CloudLens.Alerting
open Library

inductive AlertSeverity
  | info
  | warning
  | high
  | error
  | critical
  deriving DecidableEq

namespace AlertSeverity

def rank : AlertSeverity → ℕ
  | info => 0
  | warning => 1
  | high => 2
  | error => 3
  | critical => 4

theorem rank_injective : Function.Injective rank := by
  intro a b same
  cases a <;> cases b <;> first | rfl | cases same

/-- The order in which the severities are declared. -/
instance : LinearOrder AlertSeverity := LinearOrder.lift' rank rank_injective

end AlertSeverity

inductive AlertLifecycleStatus
  | active
  | acknowledged
  | resolved
  | autoResolved
  | grouped
  | suppressed
  deriving DecidableEq

inductive EscalationState
  | none
  | pending
  | escalated
  | acknowledged
  deriving DecidableEq

inductive AlertType
  | budgetThreshold
  | forecastBudgetBreach
  | runtimeBreach
  | usageThreshold
  | unexpectedCostIncrease
  | missingData
  | staleConnector
  | connectorFailure
  | resourceWithoutOwner
  | resourceWithoutMandatoryTags
  | dependencyChange
  | newServiceDetected
  | deletedService
  | unexpectedResourceCreation
  | credentialExpiring
  | reconciliationFailed
  | quotaHeadroomLow
  | commitmentExpiring
  | provisioningRequestDecided
  | analyticalExtractLateOrEmpty
  | scopeStormGrouped
  | quotaHeadroomBreach
  | credentialExpired
  | securityAlert
  deriving DecidableEq

def AlertType.text : AlertType → String
  | budgetThreshold => "BUDGET_THRESHOLD"
  | forecastBudgetBreach => "FORECAST_BUDGET_BREACH"
  | runtimeBreach => "RUNTIME_BREACH"
  | usageThreshold => "USAGE_THRESHOLD"
  | unexpectedCostIncrease => "UNEXPECTED_COST_INCREASE"
  | missingData => "MISSING_DATA"
  | staleConnector => "STALE_CONNECTOR"
  | connectorFailure => "CONNECTOR_FAILURE"
  | resourceWithoutOwner => "RESOURCE_WITHOUT_OWNER"
  | resourceWithoutMandatoryTags => "RESOURCE_WITHOUT_MANDATORY_TAGS"
  | dependencyChange => "DEPENDENCY_CHANGE"
  | newServiceDetected => "NEW_SERVICE_DETECTED"
  | deletedService => "DELETED_SERVICE"
  | unexpectedResourceCreation => "UNEXPECTED_RESOURCE_CREATION"
  | credentialExpiring => "CREDENTIAL_EXPIRING"
  | reconciliationFailed => "RECONCILIATION_FAILED"
  | quotaHeadroomLow => "QUOTA_HEADROOM_LOW"
  | commitmentExpiring => "COMMITMENT_EXPIRING"
  | provisioningRequestDecided => "PROVISIONING_REQUEST_DECIDED"
  | analyticalExtractLateOrEmpty => "ANALYTICAL_EXTRACT_LATE_OR_EMPTY"
  | scopeStormGrouped => "SCOPE_STORM_GROUPED"
  | quotaHeadroomBreach => "QUOTA_HEADROOM_BREACH"
  | credentialExpired => "CREDENTIAL_EXPIRED"
  | securityAlert => "SECURITY_ALERT"

def orElse (text : Option String) (fallback : String) : String := (text.filter (· ≠ "")).getD fallback

def computeFingerprint (tenantId : String) (alertType : AlertType) (affectedResourceId scopeId ruleId : Option String) : String :=
  let target := orElse affectedResourceId (orElse scopeId "global")
  let raw := tenantId ++ "|" ++ alertType.text ++ "|" ++ target ++ "|" ++ orElse ruleId "none"
  String.ofList ((Sha256.textDigest raw.toList).take 16)

theorem computeFingerprint_nonempty (tenantId : String) (alertType : AlertType) (affectedResourceId scopeId ruleId : Option String) :
    computeFingerprint tenantId alertType affectedResourceId scopeId ruleId ≠ "" := by
  intro empty
  have length := congrArg (fun text => text.toList.length) empty
  simp only [computeFingerprint,String.toList_ofList,List.length_take,Sha256.length_textDigest] at length
  simp at length

inductive Measurement
  | number (value : ℚ)
  | text (value : String)
  deriving DecidableEq

/-- Times are microseconds. The constructor of an alert fills in an empty fingerprint. -/
structure AlertEntity where
  id : String
  createdAt : ℤ
  alertType : AlertType
  severity : AlertSeverity
  source : String
  ruleId : Option String := none
  affectedResourceId : Option String := none
  scopeType : Option String := none
  scopeId : Option String := none
  currentValue : Option Measurement := none
  thresholdValue : Option Measurement := none
  previousValue : Option Measurement := none
  status : AlertLifecycleStatus := .active
  acknowledgedAt : Option ℤ := none
  acknowledgedBy : Option String := none
  acknowledgementReason : Option String := none
  resolvedAt : Option ℤ := none
  resolvedBy : Option String := none
  resolutionReason : Option String := none
  isAutoResolved : Bool := false
  dwellTimeSeconds : ℕ := 300
  conditionClearedAt : Option ℤ := none
  groupedParentId : Option String := none
  childAlertIds : List String := []
  repeatCount : ℕ := 1
  fingerprint : String
  fingerprinted : fingerprint ≠ ""
  escalationLevel : ℕ := 0
  escalationState : EscalationState := .none
  escalatedAt : Option ℤ := none
  remediationTaskId : Option String := none
  deriving DecidableEq

namespace AlertEntity

variable (alert : AlertEntity)

def isOpen : Bool := alert.status = .active || alert.status = .acknowledged

def isSettled : Bool := alert.status = .resolved || alert.status = .autoResolved

def acknowledge (actor : String) (reason remediationTaskId : Option String) (clock : ℤ) : AlertEntity :=
  { alert with
    status := .acknowledged
    acknowledgedBy := some actor
    acknowledgementReason := reason
    acknowledgedAt := some clock
    remediationTaskId := remediationTaskId.or alert.remediationTaskId
    escalationState := if alert.escalationState = .pending ∨ alert.escalationState = .escalated then .acknowledged
      else alert.escalationState }

def resolve (actor : String) (reason : Option String) (clock : ℤ) : AlertEntity :=
  { alert with
    status := .resolved
    resolvedBy := some actor
    resolutionReason := reason
    resolvedAt := some clock
    isAutoResolved := false }

def markConditionCleared (now : ℤ) : AlertEntity := { alert with conditionClearedAt := some now }

def markConditionRetriggered : AlertEntity := { alert with conditionClearedAt := none }

def checkAutoResolveEligible (now : ℤ) : Bool :=
  match alert.conditionClearedAt with
  | none => false
  | some cleared => decide ((alert.dwellTimeSeconds : ℤ) * 1000000 ≤ now - cleared)

def autoResolve (now : ℤ) : AlertEntity :=
  { alert with
    status := .autoResolved
    resolvedBy := some "engine:auto_resolve"
    resolutionReason := some ("Underlying condition cleared and remained healthy past " ++ toString alert.dwellTimeSeconds ++ "s dwell time")
    resolvedAt := some now
    isAutoResolved := true }

def escalate (now : ℤ) : AlertEntity :=
  { alert with
    escalationLevel := alert.escalationLevel + 1
    escalationState := .escalated
    escalatedAt := some now }

def repeated (again : AlertEntity) : AlertEntity :=
  let updated := { alert with
    repeatCount := alert.repeatCount + 1
    currentValue := again.currentValue
    previousValue := again.previousValue }
  if alert.conditionClearedAt.isSome then updated.markConditionRetriggered else updated

def urgent : Bool := alert.severity = .high || alert.severity = .critical

def pendingEscalation : AlertEntity :=
  if alert.urgent then { alert with escalationState := .pending } else alert

def groupUnder (parentId : String) : AlertEntity :=
  { alert with
    groupedParentId := some parentId
    status := .grouped }

section Fields

variable {alert} {clock : ℤ} {again : AlertEntity}

theorem not_isOpen_of_isSettled (settled : alert.isSettled) : alert.isOpen = false := by
  simp only [isSettled,Bool.or_eq_true,decide_eq_true_eq] at settled
  simp only [isOpen,Bool.or_eq_false_iff,decide_eq_false_iff_not]
  rcases settled with same | same <;> rw [same] <;> decide

@[simp] theorem repeated_id : (alert.repeated again).id = alert.id := by
  unfold repeated
  split <;> rfl

@[simp] theorem repeated_fingerprint : (alert.repeated again).fingerprint = alert.fingerprint := by
  unfold repeated
  split <;> rfl

@[simp] theorem repeated_severity : (alert.repeated again).severity = alert.severity := by
  unfold repeated
  split <;> rfl

@[simp] theorem repeated_status : (alert.repeated again).status = alert.status := by
  unfold repeated
  split <;> rfl

@[simp] theorem pendingEscalation_id : alert.pendingEscalation.id = alert.id := by
  unfold pendingEscalation
  split <;> rfl

@[simp] theorem pendingEscalation_fingerprint : alert.pendingEscalation.fingerprint = alert.fingerprint := by
  unfold pendingEscalation
  split <;> rfl

@[simp] theorem pendingEscalation_severity : alert.pendingEscalation.severity = alert.severity := by
  unfold pendingEscalation
  split <;> rfl

@[simp] theorem pendingEscalation_status : alert.pendingEscalation.status = alert.status := by
  unfold pendingEscalation
  split <;> rfl

theorem escalate_ne : alert.escalate clock ≠ alert := by
  intro same
  have level := congrArg AlertEntity.escalationLevel same
  simp [escalate] at level

end Fields

end AlertEntity

end CloudLens.Alerting
