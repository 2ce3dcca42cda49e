import CloudLens.Library.Calendar
import CloudLens.Library.JsonText
import CloudLens.Library.Sha256
import Mathlib.Data.List.Sort

/-! The audit stream of a tenant. An event is hashed together with the hash of
the event that was read as the last one, and inserted into an append-only table.
The table is read newest first, by time and identifier, and the details of an
event pass through a binary column. Two verifications recompute the hashes: one
over what the repository lists, the other over a stream kept in memory. -/
namespace CloudLens.Audit
open Library

def auditEventTypes : List String :=
  ["AUTH_LOGIN_SUCCESS", "AUTH_LOGIN_FAILURE", "AUTH_LOGOUT", "AUTH_SESSION_REVOKED", "AUTH_STEP_UP_CHALLENGE",
    "AUTH_STEP_UP_VERIFIED", "AUTH_BREAK_GLASS_USED", "AUTHORISATION_DENIED", "CONFIG_CHANGED", "BUSINESS_OBJECT_CREATED",
    "BUSINESS_OBJECT_UPDATED", "BUSINESS_OBJECT_DELETED", "OVERRIDE_CREATED", "OVERRIDE_REVERTED", "OVERRIDE_EXPIRED",
    "EXPORT_GENERATED", "CREDENTIAL_CREATED", "CREDENTIAL_ROTATED", "CREDENTIAL_RETIRED", "CREDENTIAL_REVOKED",
    "ROLE_ASSIGNED", "ROLE_REVOKED", "GRANT_CREATED", "GRANT_REVOKED", "BUDGET_CHANGED", "BUDGET_CREATED", "BUDGET_AMENDED",
    "BUDGET_APPROVED", "BUDGET_REJECTED", "BUDGET_EVALUATED", "BUDGET_NATIVE_IMPORTED", "BUDGET_OVERLAP_DETECTED",
    "THRESHOLD_CHANGED", "MANUAL_DEPENDENCY_EDIT", "DEPENDENCY_EDGE_CREATED", "DEPENDENCY_EDGE_UPDATED",
    "DEPENDENCY_EDGE_DELETED", "DEPENDENCY_DISCOVERY_COMPLETED", "DEPENDENCY_CONFLICT_SURFACED",
    "DEPENDENCY_CONFLICT_RESOLVED", "DEPENDENCY_EDGE_MARKED_STALE", "DEPENDENCY_BULK_IMPORTED",
    "DEPENDENCY_BILLING_SYNCED", "TOPOLOGY_VIEW_PROJECTED", "TOPOLOGY_CHAIN_COST_CALCULATED", "TOPOLOGY_GRAPH_EXPORTED",
    "REPORT_GENERATED", "REPORT_DOWNLOADED", "AUDIT_MUTATION_ATTEMPT", "CROSS_TENANT_ACCESS_ATTEMPT", "TENANT_SWITCH",
    "ACT_AS_TENANT_START", "ACT_AS_TENANT_END", "CONNECTOR_REGISTERED", "CONNECTOR_CREDENTIAL_BOUND", "CONNECTOR_PROBED",
    "CONNECTOR_STATE_CHANGED", "CONNECTOR_CAPABILITY_DEGRADED", "CONNECTOR_CAPABILITY_RECOVERED",
    "CONNECTOR_RATE_LIMITED", "CONNECTOR_CIRCUIT_OPENED", "CONNECTOR_PAYLOAD_LANDED", "CONNECTOR_QUOTA_EXHAUSTED",
    "SYNC_STARTED", "SYNC_COMPLETED", "SYNC_PARTIAL", "SYNC_FAILED", "PAYLOAD_QUARANTINED", "WIZARD_STARTED",
    "WIZARD_STEP_SAVED", "WIZARD_COMPLETED", "SCHEDULE_UPDATED", "DIAGNOSTIC_EXECUTION", "FAILOVER_TRIGGERED",
    "ALERT_TEST_DISPATCHED", "FIRST_SYNC_PROGRESS_VIEWED", "MONITORING_TYPE_OVERRIDDEN", "USAGE_EXPECTATION_CHANGED",
    "TELEMETRY_GAP_DETECTED", "RUNTIME_SCHEDULE_ATTACHED", "RUNTIME_SCHEDULE_BREACH_DETECTED",
    "RUNTIME_EXEMPTION_CREATED", "RUNTIME_EXEMPTION_EXPIRED", "THRESHOLD_RULE_CREATED", "THRESHOLD_RULE_UPDATED",
    "THRESHOLD_STATE_TRANSITIONED", "THRESHOLD_OVERRIDE_CREATED", "THRESHOLD_OVERRIDE_EXPIRED",
    "THRESHOLD_STORM_GROUPED", "QUOTA_DISCOVERED", "QUOTA_MANUAL_RECORDED", "QUOTA_HEADROOM_ALERT_DISPATCHED",
    "QUOTA_INCREASE_REQUESTED", "QUOTA_INCREASE_STATUS_UPDATED", "QUOTA_REMEDIATION_TASK_CREATED", "FORECAST_GENERATED",
    "FORECAST_FALLBACK_TRIGGERED", "FORECAST_RECOMPUTED_AFTER_RESTATEMENT", "FORECAST_ACCURACY_RECORDED",
    "POLICY_CREATED", "POLICY_UPDATED", "POLICY_VERSIONED", "POLICY_ENABLED", "POLICY_DISABLED", "POLICY_EVALUATED",
    "POLICY_FINDING_RECORDED", "POLICY_FINDING_CLEARED", "POLICY_EXEMPTION_CREATED", "POLICY_EXEMPTION_EXPIRED",
    "ALERT_GENERATED", "ALERT_ACKNOWLEDGED", "ALERT_RESOLVED", "ALERT_AUTO_RESOLVED", "ALERT_GROUPED", "ALERT_ESCALATED",
    "ALERT_DELIVERED", "ALERT_DELIVERY_FAILED", "GOVERNANCE_EXCEPTION_RAISED", "CONTEXTUAL_ALERT_DISPLAYED",
    "CONTEXTUAL_ALERT_DISMISSED", "CONTEXTUAL_ALERT_ACKNOWLEDGED", "COMMITMENT_EXPIRING_ALERT_DISPATCHED",
    "PROVISIONING_REQUEST_DECIDED_ALERT_DISPATCHED", "GOVERNANCE_TASK_CREATED", "WORKFLOW_REQUEST_CREATED",
    "WORKFLOW_REQUEST_SUBMITTED", "WORKFLOW_STAGE_APPROVED", "WORKFLOW_STAGE_REJECTED", "WORKFLOW_REQUEST_APPROVED",
    "WORKFLOW_REQUEST_REJECTED", "WORKFLOW_REQUEST_WITHDRAWN", "WORKFLOW_REQUEST_ESCALATED", "WORKFLOW_REQUEST_EXPIRED",
    "WORKFLOW_REQUEST_APPLIED", "WORKFLOW_APPLICATION_FAILED", "WORKFLOW_DELEGATION_REGISTERED",
    "WORKFLOW_INFO_REQUESTED", "REMEDIATION_TASK_CREATED", "REMEDIATION_TASK_ASSIGNED",
    "REMEDIATION_TASK_STATUS_CHANGED", "REMEDIATION_TASK_RESOLVED", "REMEDIATION_TASK_VERIFIED",
    "REMEDIATION_TASK_REOPENED", "REMEDIATION_TASK_CLOSED", "REMEDIATION_TASK_DEFERRED",
    "REMEDIATION_TASK_RISK_ACCEPTED", "REMEDIATION_TASK_DUPLICATED", "REMEDIATION_SAVING_REALISED",
    "REMEDIATION_TASK_ESCALATED", "REMEDIATION_TASK_ITSM_MIRRORED", "STATEMENT_GENERATED", "STATEMENT_CIRCULATED",
    "STATEMENT_FINALISED", "STATEMENT_ACCEPTED", "STATEMENT_DISPUTED", "STATEMENT_DISPUTE_RESOLVED",
    "STATEMENT_ADJUSTED_AFTER_RESTATEMENT", "STATEMENT_DISTRIBUTED", "PROVISIONING_ESTIMATE_SAVED",
    "PROVISIONING_REQUEST_CREATED", "PROVISIONING_GATE_TRIGGERED", "PROVISIONING_GATE_BYPASSED",
    "PROVISIONING_RESOURCE_LINKED", "UNAPPROVED_DEPLOYMENT_DETECTED", "PROVISIONING_ACCURACY_EVALUATED", "CT_ACTION",
    "TENANT_CREATED", "TENANT_UPDATED", "TENANT_SUSPENDED", "TENANT_RESUMED"]

structure AuditEventType where
  value : String
  canonical : value ∈ auditEventTypes

structure Moment where
  date : Calendar.Date
  microseconds : ℕ
  within : microseconds < 86400 * 10^6

namespace Moment

def Before (a b : Moment) : Prop :=
  a.date < b.date ∨ (a.date = b.date ∧ a.microseconds < b.microseconds)

instance (a b : Moment) : Decidable (a.Before b) := inferInstanceAs (Decidable (_ ∨ _))

end Moment

def twoDigits (n : ℕ) : List Char := [Text.digitChar (n / 10), Text.digitChar n]

def sixDigits (n : ℕ) : List Char := twoDigits (n / 10000) ++ twoDigits (n / 100) ++ twoDigits n

def clock (seconds : ℕ) : List Char :=
  twoDigits (seconds / 3600) ++ ':' :: (twoDigits (seconds / 60 % 60) ++ ':' :: twoDigits (seconds % 60))

def fraction (microseconds : ℕ) : List Char :=
  if microseconds = 0 then [] else '.' :: sixDigits microseconds

def isoformat (m : Moment) : List Char :=
  Calendar.yearDigits m.date ++ '-' :: (Calendar.monthDigits m.date ++ '-' :: (twoDigits m.date.day ++
    'T' :: (clock (m.microseconds / 10^6) ++ fraction (m.microseconds % 10^6) ++ "+00:00".toList)))

abbrev Details : Type := List (String × JsonValue)

structure TenantContext where
  tenantId : String
  correlationId : Option String := none

structure AuditEventCreate where
  eventType : AuditEventType
  actorId : String
  actorRoles : List String := []
  action : String
  resourceType : String
  resourceId : String
  details : Details := []
  correlationId : Option String := none
  ipAddress : Option String := none
  userAgent : Option String := none

structure AuditEvent where
  id : String
  tenantId : String
  eventType : AuditEventType
  actorId : String
  actorRoles : List String
  action : String
  resourceType : String
  resourceId : String
  details : Details
  correlationId : Option String
  ipAddress : Option String
  userAgent : Option String
  timestamp : Moment
  previousEventHash : Option String
  eventHash : String

def orDefault (text : Option String) (default : String) : String :=
  match text with
  | some text => if text = "" then default else text
  | none => default

def chainInput (tenantId : String) (eventType : AuditEventType) (actorId resourceType resourceId : String)
    (timestamp : Moment) (previousEventHash : Option String) (details : Details) : List Char :=
  tenantId.toList ++ ':' :: (eventType.value.toList ++ ':' :: (actorId.toList ++ ':' :: (resourceType.toList ++
    ':' :: (resourceId.toList ++ ':' :: (isoformat timestamp ++
      ':' :: ((orDefault previousEventHash "GENESIS").toList ++ ':' :: JsonText.dumps details))))))

def computeHash (tenantId : String) (eventType : AuditEventType) (actorId resourceType resourceId : String)
    (timestamp : Moment) (previousEventHash : Option String) (details : Details) : String :=
  String.ofList (Sha256.textDigest
    (chainInput tenantId eventType actorId resourceType resourceId timestamp previousEventHash details))

def buildEvent (tc : TenantContext) (input : AuditEventCreate) (now : Moment) (uuid : String)
    (lastEvent : Option AuditEvent) : AuditEvent where
  id := "aud-" ++ uuid
  tenantId := tc.tenantId
  eventType := input.eventType
  actorId := input.actorId
  actorRoles := input.actorRoles
  action := input.action
  resourceType := input.resourceType
  resourceId := input.resourceId
  details := input.details
  correlationId := if orDefault input.correlationId "" = "" then tc.correlationId else input.correlationId
  ipAddress := input.ipAddress
  userAgent := input.userAgent
  timestamp := now
  previousEventHash := lastEvent.map AuditEvent.eventHash
  eventHash := computeHash tc.tenantId input.eventType input.actorId input.resourceType input.resourceId now
    (lastEvent.map AuditEvent.eventHash) input.details

/-- What the database does to an event: which values its columns refuse, and the
details that a binary column gives back. -/
structure Database where
  accepts : TenantContext → AuditEventCreate → Bool
  reread : Details → Details

def rowToEvent (db : Database) (row : AuditEvent) : AuditEvent :=
  {row with details := db.reread row.details, correlationId := some (orDefault row.correlationId "default-trace")}

def NewestFirst (a b : AuditEvent) : Prop :=
  b.timestamp.Before a.timestamp ∨ (¬ a.timestamp.Before b.timestamp ∧ b.id ≤ a.id)

instance : DecidableRel NewestFirst := fun a b =>
  inferInstanceAs (Decidable (b.timestamp.Before a.timestamp ∨ (¬ a.timestamp.Before b.timestamp ∧ b.id ≤ a.id)))

def streamOf (tenantId : String) (rows : List AuditEvent) : List AuditEvent :=
  rows.filter (fun row => row.tenantId = tenantId)

def listEvents (db : Database) (tenantId : String) (limit offset : ℕ) (rows : List AuditEvent) : List AuditEvent :=
  ((((streamOf tenantId rows).insertionSort NewestFirst).drop offset).take limit).map (rowToEvent db)

def getLastEvent (db : Database) (tenantId : String) (rows : List AuditEvent) : Option AuditEvent :=
  (((streamOf tenantId rows).insertionSort NewestFirst).head?).map (rowToEvent db)

def occupied (rows : List AuditEvent) (event : AuditEvent) : Bool :=
  rows.any (fun row => row.tenantId = event.tenantId ∧ row.id = event.id ∧
    ¬ row.timestamp.Before event.timestamp ∧ ¬ event.timestamp.Before row.timestamp)

structure AppendCall where
  input : AuditEventCreate
  now : Moment
  uuid : String

/-- An append by a single service. A refused insert leaves the table unchanged. -/
def appendEvent (db : Database) (tc : TenantContext) (rows : List AuditEvent) (call : AppendCall) : List AuditEvent :=
  let event := buildEvent tc call.input call.now call.uuid (getLastEvent db tc.tenantId rows)
  if db.accepts tc call.input && !occupied rows event then rows ++ [event] else rows

def verifyChain (tenantId : String) : Option String → List AuditEvent → Bool
  | _, [] => true
  | expected, event :: rest =>
    if event.previousEventHash ≠ expected then false
    else if computeHash tenantId event.eventType event.actorId event.resourceType event.resourceId event.timestamp
        expected event.details ≠ event.eventHash then false
    else verifyChain tenantId (some event.eventHash) rest

def verifyStreamIntegrity (db : Database) (tc : TenantContext) (rows : List AuditEvent) : Bool :=
  verifyChain tc.tenantId none (listEvents db tc.tenantId 100000 0 rows)

inductive ChainVerdict
  | empty
  | previousHashMismatch (index : ℕ) (eventId : String) (expected actual : Option String)
  | tamperedRecord (index : ℕ) (eventId : String) (expected actual : String)
  | verified (count : ℕ) (chainHead : String)

def ChainVerdict.valid : ChainVerdict → Bool
  | .empty => true
  | .verified _ _ => true
  | _ => false

def verifyFrom (index : ℕ) (previous : Option AuditEvent) : List AuditEvent → ChainVerdict
  | [] =>
    match previous with
    | none => .empty
    | some last => .verified index last.eventHash
  | event :: rest =>
    let expected := previous.map AuditEvent.eventHash
    if event.previousEventHash ≠ expected then
      .previousHashMismatch index event.id expected event.previousEventHash
    else
      let recomputed := computeHash event.tenantId event.eventType event.actorId event.resourceType event.resourceId
        event.timestamp event.previousEventHash event.details
      if event.eventHash ≠ recomputed then .tamperedRecord index event.id recomputed event.eventHash
      else verifyFrom (index + 1) (some event) rest

def verifyAuditHashChain (stream : List AuditEvent) : ChainVerdict := verifyFrom 0 none stream

end CloudLens.Audit
