import CloudLens.Library.Casing
import CloudLens.Workflows.Model
import Mathlib.Data.List.Sort

/-! Resolution of a stage's approvers from the role directory, ownership and
master data, with the fallback role and the substitution of delegates. The list
of a registered role is extended in place when the caller holds the role, so a
resolution returns the directory as it leaves it. -/
namespace CloudLens.Workflows
open Library
open Library.Calendar (Instant)

abbrev Directory : Type := Table (String × String) (List String)

structure Environment where
  definition : String → String → Option WorkflowDefinition
  masterRecord : String → String → String → Option (List (String × String))
  outOfOffice : String → Bool
  dueDate : Instant → ℕ → String → String → Instant
  hasApplier : String → Bool

structure ResolvedApprovers where
  primaryApprovers : List String
  effectiveApprovers : List String
  delegationMap : List DelegationRule
  unavailableWithoutDelegate : List String

namespace ResolvedApprovers

def isAuthorized (resolved : ResolvedApprovers) (actorId : String) : Bool :=
  actorId ∈ resolved.effectiveApprovers || actorId ∈ resolved.primaryApprovers

def getDelegationFor (resolved : ResolvedApprovers) (actorId : String) : Option DelegationRule :=
  resolved.delegationMap.reverse.find? (fun rule => rule.delegateApproverId = actorId)

end ResolvedApprovers

def defaultMembers (tenantId : String) : List (String × List String) :=
  [("GLOBAL_ADMIN", ["global-admin-user", tenantId ++ "-global-admin"]),
    ("TENANT_ADMIN", [tenantId ++ "-admin", "user-admin-1", "tenant-admin-1"]),
    ("FINOPS_ADMIN", [tenantId ++ "-finops-lead", "user-finops-lead", "user-finops-1"]),
    ("FINANCE_ADMIN", [tenantId ++ "-finance-lead", "user-finance-lead"]),
    ("SECURITY_ADMIN", [tenantId ++ "-security-lead", "sec-lead", "user-security-lead"]),
    ("CLOUD_ADMIN", [tenantId ++ "-cloud-admin", "user-cloud-admin"]),
    ("PLATFORM_ADMIN", [tenantId ++ "-platform-admin"]),
    ("PROCUREMENT", [tenantId ++ "-procurement-lead"])]

def registeredKey (directory : Directory) (roleCode tenantId : String) : Option (String × String) :=
  if (directory.lookup (tenantId, Text.upper roleCode)).isSome then some (tenantId, Text.upper roleCode)
  else if (directory.lookup ("*", Text.upper roleCode)).isSome then some ("*", Text.upper roleCode)
  else none

def getUsersByRole (directory : Directory) (roleCode tenantId : String) : List String :=
  match registeredKey directory roleCode tenantId with
  | some key => (directory.lookup key).getD []
  | none => ((defaultMembers tenantId).lookup (Text.upper roleCode)).getD []

def present (text : Option String) : Option String := text.filter (fun s => s ≠ "")

def roleCandidates (spec : WorkflowApproverSpec) (tc : TenantContext) (directory : Directory) :
    List String × Directory :=
  let role := (present spec.targetRole).getD "TENANT_ADMIN"
  let members := getUsersByRole directory role tc.tenantId
  let listed := if spec.explicitApprovers = [] then members else (members ++ spec.explicitApprovers).eraseDups
  if role ∈ tc.roles ∧ tc.userId ∉ listed then
    (listed ++ [tc.userId],
      match spec.explicitApprovers, registeredKey directory role tc.tenantId with
      | [], some key => directory.upsert (fun _ proposed => proposed) key (members ++ [tc.userId])
      | _, _ => directory)
  else (listed, directory)

def metadataOwner (subject : SubjectEntity) (first second : String) : List String :=
  ((present (subject.metadata.lookup first)).or (present (subject.metadata.lookup second))).toList

def recordOwner (env : Environment) (tc : TenantContext) (subject : SubjectEntity) (masterType first second : String) :
    List String :=
  match ((present (subject.metadata.lookup first)).or (present (subject.metadata.lookup second))).or
      (present subject.scopeId) with
  | none => []
  | some code =>
    match env.masterRecord masterType code tc.tenantId with
    | none => []
    | some attributes =>
      ((present (attributes.lookup "manager_user_id")).or (present (attributes.lookup "owner"))).toList

def primaryCandidates (env : Environment) (tc : TenantContext) (spec : WorkflowApproverSpec) (subject : SubjectEntity)
    (directory : Directory) : List String × Directory :=
  match spec.resolutionType with
  | .role => roleCandidates spec tc directory
  | .scopeOwnership => (metadataOwner subject "owner" "scope_owner", directory)
  | .costCentreOwner => (recordOwner env tc subject "COST_CENTRE" "cost_centre_code" "cost_center", directory)
  | .businessUnitOwner => (recordOwner env tc subject "BUSINESS_UNIT" "business_unit_code" "business_unit", directory)
  | .budgetOwner => (metadataOwner subject "owner" "budget_owner", directory)
  | .explicitList => (spec.explicitApprovers, directory)

def withFallback (spec : WorkflowApproverSpec) (tenantId : String) (directory : Directory) (candidates : List String) :
    List String :=
  if candidates ≠ [] then candidates
  else
    let members := if spec.fallbackRole = "" then [] else getUsersByRole directory spec.fallbackRole tenantId
    if members = [] then spec.explicitApprovers else members

def resolveApprovers (env : Environment) (tc : TenantContext) (requestId requestType : String)
    (stage : WorkflowStageDefinition) (subject : SubjectEntity) (delegations : List DelegationRule) (asOf : Instant)
    (directory : Directory) : Directory × Except WorkflowError ResolvedApprovers :=
  let primary := primaryCandidates env tc stage.approverSpec subject directory
  let candidates := withFallback stage.approverSpec tc.tenantId primary.2 primary.1
  if candidates = [] then
    (primary.2, .error (.noResolvableApprover requestId stage.name stage.approverSpec.resolutionType))
  else
    let members := match present stage.approverSpec.targetRole with
      | some role => getUsersByRole primary.2 role tc.tenantId
      | none => []
    let rules := delegations.filter (fun rule => rule.isCurrentlyActive asOf requestType &&
      (rule.originalApproverId ∈ candidates || rule.originalApproverId ∈ members))
    (primary.2, .ok {
      primaryApprovers := candidates
      effectiveApprovers := (candidates ++ rules.map DelegationRule.delegateApproverId).eraseDups
      delegationMap := rules
      unavailableWithoutDelegate := candidates.filter (fun candidate => env.outOfOffice candidate &&
        !delegations.any (fun rule => rule.originalApproverId = candidate && rule.isCurrentlyActive asOf requestType)) })

end CloudLens.Workflows
