import CloudLens.Audit.Model
import CloudLens.Library.Document
import CloudLens.Library.Table
import Mathlib.Data.List.Sort

/-! Override records, the requests they are created from, and the audit events
that report what becomes of them. A request carries the validation of its texts. -/
namespace CloudLens.Overrides
open Library
open Audit (Moment isoformat)

inductive OverrideClass where
  | budgetThreshold
  | tagPolicy
  | rateCard
  | featureFlag
  | allocationRule
  | retentionPeriod
  | alertDeliveryFailure
  | monitoringType
  | usageExpectation
  | runtimeSchedule
  | runtimeExemption
  | thresholdRule
  | quotaLimit
  | forecastRule
  deriving DecidableEq

def OverrideClass.value : OverrideClass → String
  | .budgetThreshold => "BUDGET_THRESHOLD"
  | .tagPolicy => "TAG_POLICY"
  | .rateCard => "RATE_CARD"
  | .featureFlag => "FEATURE_FLAG"
  | .allocationRule => "ALLOCATION_RULE"
  | .retentionPeriod => "RETENTION_PERIOD"
  | .alertDeliveryFailure => "ALERT_DELIVERY_FAILURE"
  | .monitoringType => "MONITORING_TYPE"
  | .usageExpectation => "USAGE_EXPECTATION"
  | .runtimeSchedule => "RUNTIME_SCHEDULE"
  | .runtimeExemption => "RUNTIME_EXEMPTION"
  | .thresholdRule => "THRESHOLD_RULE"
  | .quotaLimit => "QUOTA_LIMIT"
  | .forecastRule => "FORECAST_RULE"

inductive OverrideStatus where
  | active
  | reverted
  | expired
  | cancelled
  deriving DecidableEq

def OverrideStatus.value : OverrideStatus → String
  | .active => "ACTIVE"
  | .reverted => "REVERTED"
  | .expired => "EXPIRED"
  | .cancelled => "CANCELLED"

structure OverrideApproval where
  approverId : String
  approvedAt : Moment
  ticketRef : String
  permanentApproved : Bool

structure OverrideRecord where
  id : String
  tenantId : String
  overrideClass : OverrideClass
  who : String
  what : String
  why : String
  when : Moment
  previousValue : Json
  newValue : Json
  expiry : Option Moment
  isPermanent : Bool
  approval : Option OverrideApproval
  status : OverrideStatus
  revertedAt : Option Moment
  revertedBy : Option String
  reversionReason : Option String
  correlationId : Option String

structure OverrideCreateRequest where
  overrideClass : OverrideClass
  who : String
  what : String
  why : String
  previousValue : Json
  newValue : Json
  expiry : Option Moment
  isPermanent : Bool
  approval : Option OverrideApproval
  accountable : who ≠ ""
  targeted : what ≠ ""
  explained : 20 ≤ why.length

structure TenantContext where
  tenantId : String
  roles : List String
  correlationId : Option String

inductive OverrideError where
  | notFound (overrideId : String)
  | permanentNotAllowed
  | expiryMissing
  | expiryPast (expiry : Moment)
  | notActive (overrideId : String) (status : OverrideStatus)
  | crossTenant (entityTenant contextTenant : String)
  | rowLevelSecurity

def OverrideError.message : OverrideError → String
  | .notFound overrideId => "Override record '" ++ overrideId ++ "' not found."
  | .permanentNotAllowed =>
    "Permanent overrides require explicit governance approval with permanent_approved=True " ++
      "and a verified change control ticket reference."
  | .expiryMissing => "Expiry timestamp is mandatory for temporary overrides (Prompt 13 Item 87)."
  | .expiryPast expiry =>
    "Override expiry timestamp '" ++ String.ofList (isoformat expiry) ++ "' must be strictly in the future."
  | .notActive overrideId status => "Cannot revert override '" ++ overrideId ++ "' in status '" ++ status.value ++ "'."
  | .crossTenant entityTenant contextTenant =>
    "Cannot save override: entity tenant '" ++ entityTenant ++ "' does not match context tenant '" ++ contextTenant ++ "'."
  | .rowLevelSecurity => "new row violates row-level security policy for table overrides"

inductive AuditEventType where
  | overrideCreated
  | overrideReverted
  | overrideExpired
  deriving DecidableEq

inductive AuditDetails where
  | applied (what why : String) (previousValue newValue : Json) (isPermanent : Bool) (expiry : Option Moment)
      (approval : Option OverrideApproval)
  | reverted (what reversionReason : String) (restoredValue overriddenValue : Json)
  | expired (what : String) (expiryTimestamp revertedAt : Moment) (restoredValue expiredValue : Json)

structure AuditEvent where
  eventType : AuditEventType
  actorId : String
  actorRoles : List String
  action : String
  resourceType : String
  resourceId : String
  overrideId : String
  details : AuditDetails
  correlationId : Option String

end CloudLens.Overrides
