import CloudLens.Library.Casing
import CloudLens.Workflows.Model

/-! The budget service and the applier of budget approval requests. A budget
carries the two rules its validator checks; the calls it makes to the workflow
engine are recorded as submissions, and what the engine later applies is an
operation of its own. The clock, the day and the fresh identifier are inputs of
a call. -/
namespace CloudLens.Budgets
open Library
open Library.Calendar (Instant Date)
open Workflows (Payload TenantContext WorkflowRequest)

inductive BudgetApprovalStatus where
  | draft
  | pendingApproval
  | approved
  | rejected
  | active
  | expired
  | archived
  deriving DecidableEq

inductive BudgetScopeType where
  | organisation
  | provider
  | managementGroup
  | subscription
  | awsOu
  | awsAccount
  | gcpFolder
  | gcpProject
  | ociCompartment
  | resourceGroup
  | application
  | environment
  | service
  | resource
  | costCentre
  | businessUnit
  | project
  deriving DecidableEq

def BudgetScopeType.value : BudgetScopeType → String
  | .organisation => "ORGANISATION"
  | .provider => "PROVIDER"
  | .managementGroup => "MANAGEMENT_GROUP"
  | .subscription => "SUBSCRIPTION"
  | .awsOu => "AWS_OU"
  | .awsAccount => "AWS_ACCOUNT"
  | .gcpFolder => "GCP_FOLDER"
  | .gcpProject => "GCP_PROJECT"
  | .ociCompartment => "OCI_COMPARTMENT"
  | .resourceGroup => "RESOURCE_GROUP"
  | .application => "APPLICATION"
  | .environment => "ENVIRONMENT"
  | .service => "SERVICE"
  | .resource => "RESOURCE"
  | .costCentre => "COST_CENTRE"
  | .businessUnit => "BUSINESS_UNIT"
  | .project => "PROJECT"

inductive CloudProvider where
  | aws
  | azure
  | gcp
  | oci
  | canonical
  deriving DecidableEq

def CloudProvider.value : CloudProvider → String
  | .aws => "aws"
  | .azure => "azure"
  | .gcp => "gcp"
  | .oci => "oci"
  | .canonical => "canonical"

structure BudgetAmendment where
  previousAmount : ℚ
  newAmount : ℚ
  actorId : String
  approverId : Option String
  reason : String
  timestamp : Instant

structure BudgetApprovalDecision where
  decision : BudgetApprovalStatus
  decidedBy : String
  comment : String
  long : 5 ≤ comment.length
  decidedAt : Instant

def DatesOrdered (effectiveDate : Date) (expiryDate : Option Date) : Prop :=
  ∀ expiry ∈ expiryDate, effectiveDate ≤ expiry

instance (effectiveDate : Date) (expiryDate : Option Date) : Decidable (DatesOrdered effectiveDate expiryDate) :=
  inferInstanceAs (Decidable (∀ expiry ∈ expiryDate, effectiveDate ≤ expiry))

structure BudgetEntity where
  id : String
  name : String
  scopeType : BudgetScopeType
  scopeId : String
  amount : ℚ
  positive : 0 < amount
  currency : String
  effectiveDate : Date
  expiryDate : Option Date
  dated : DatesOrdered effectiveDate expiryDate
  owner : String
  approvalStatus : BudgetApprovalStatus
  approvalDecision : Option BudgetApprovalDecision
  notes : Option String
  isNative : Bool
  isReadOnly : Bool
  nativeProvider : Option CloudProvider
  amendments : List BudgetAmendment

def BudgetEntity.isActive (budget : BudgetEntity) : Bool :=
  budget.approvalStatus = .active || budget.approvalStatus = .approved

inductive BudgetError where
  | notFound (budgetId : String)
  | nativeReadOnly (budgetId : String) (provider : Option CloudProvider)
  | invalidAmount (amount : ℚ)
  | invalidDates (effectiveDate : Date) (expiryDate : Option Date)
  | approvalNotAllowed (budgetId : String) (status : BudgetApprovalStatus)
  | applicationFailed (requestId budgetId : String)
  | shortComment
  | rowLevelSecurity

structure BudgetSubmission where
  requestType : String
  entityType : String
  entityId : String
  scopeType : String
  scopeId : String
  payload : Payload
  previousValues : Option Payload
  financialImpact : Option ℚ
  deriving DecidableEq

structure BudgetStore where
  budgets : Table String (Owned BudgetEntity)
  submissions : List BudgetSubmission

def defaultApprovalLimit : ℚ := 10000

structure Call where
  tc : TenantContext
  today : Date
  now : Instant
  token : String

def Call.actorId (call : Call) (otherwise : String) : String :=
  if call.tc.userId = "" then otherwise else call.tc.userId

def operationalStatus (effectiveDate today : Date) : BudgetApprovalStatus :=
  if effectiveDate ≤ today then .active else .approved

def saveBudget (call : Call) (budget : BudgetEntity) (s : BudgetStore) : Except BudgetError BudgetStore :=
  match saveOwned call.tc.tenantId budget.id budget s.budgets with
  | none => .error .rowLevelSecurity
  | some budgets => .ok { s with budgets := budgets }

def getBudget (call : Call) (budgetId : String) (s : BudgetStore) : Except BudgetError BudgetEntity :=
  match getOwned call.tc.tenantId budgetId s.budgets with
  | none => .error (.notFound budgetId)
  | some budget => .ok budget

def submitApproval (budget : BudgetEntity) (payload : Payload) (previousValues : Option Payload) (s : BudgetStore) :
    BudgetStore :=
  if budget.approvalStatus = .pendingApproval then
    { s with
      submissions := s.submissions ++
        [⟨"BUDGET_APPROVAL","budget",budget.id,budget.scopeType.value,budget.scopeId,payload,previousValues,
          some budget.amount⟩] }
  else s

structure BudgetCreateRequest where
  name : String
  scopeType : BudgetScopeType
  scopeId : String
  amount : ℚ
  currency : String
  effectiveDate : Date
  expiryDate : Option Date
  owner : String
  notes : Option String

def budgetIdOf (call : Call) (scopeType : BudgetScopeType) : String :=
  "bgt-" ++ String.ofList (call.tc.tenantId.toList.take 8) ++ "-" ++ Text.lower scopeType.value ++ "-" ++ call.token

def createdBudget (limit : ℚ) (call : Call) (request : BudgetCreateRequest) (positive : 0 < request.amount)
    (dated : DatesOrdered request.effectiveDate request.expiryDate) : BudgetEntity where
  id := budgetIdOf call request.scopeType
  name := request.name
  scopeType := request.scopeType
  scopeId := request.scopeId
  amount := request.amount
  positive := positive
  currency := Text.upper request.currency
  effectiveDate := request.effectiveDate
  expiryDate := request.expiryDate
  dated := dated
  owner := request.owner
  approvalStatus :=
    if limit < request.amount then .pendingApproval else operationalStatus request.effectiveDate call.today
  approvalDecision := none
  notes := request.notes
  isNative := false
  isReadOnly := false
  nativeProvider := none
  amendments := []

def createBudget (limit : ℚ) (call : Call) (request : BudgetCreateRequest) (s : BudgetStore) :
    BudgetStore × Except BudgetError BudgetEntity :=
  if positive : 0 < request.amount then
    if dated : DatesOrdered request.effectiveDate request.expiryDate then
      let budget := createdBudget limit call request positive dated
      match saveBudget call budget s with
      | .error e => (s, .error e)
      | .ok saved =>
        (submitApproval budget [("budget_id", .text budget.id), ("name", .text budget.name), ("amount", .number budget.amount),
          ("currency", .text budget.currency)] none saved, .ok budget)
    else (s, .error (.invalidDates request.effectiveDate request.expiryDate))
  else (s, .error (.invalidAmount request.amount))

structure BudgetAmendRequest where
  newAmount : ℚ
  reason : String

def amendedBudget (limit : ℚ) (call : Call) (request : BudgetAmendRequest) (positive : 0 < request.newAmount)
    (budget : BudgetEntity) : BudgetEntity :=
  { budget with
    amendments := budget.amendments ++
      [⟨budget.amount,request.newAmount,call.actorId "admin",none,request.reason,call.now⟩]
    amount := request.newAmount
    positive := positive
    approvalStatus :=
      if limit < request.newAmount then .pendingApproval
      else if budget.approvalStatus = .pendingApproval then operationalStatus budget.effectiveDate call.today
      else budget.approvalStatus }

def amendBudget (limit : ℚ) (call : Call) (budgetId : String) (request : BudgetAmendRequest) (s : BudgetStore) :
    BudgetStore × Except BudgetError BudgetEntity :=
  match getBudget call budgetId s with
  | .error e => (s, .error e)
  | .ok budget =>
    if budget.isReadOnly ∨ budget.isNative then (s, .error (.nativeReadOnly budget.id budget.nativeProvider))
    else if positive : 0 < request.newAmount then
      let amended := amendedBudget limit call request positive budget
      match saveBudget call amended s with
      | .error e => (s, .error e)
      | .ok saved =>
        (submitApproval amended [("budget_id", .text amended.id), ("new_amount", .number request.newAmount),
          ("previous_amount", .number budget.amount), ("reason", .text request.reason)]
            (some [("amount", .number budget.amount)]) saved, .ok amended)
    else (s, .error (.invalidAmount request.newAmount))

structure BudgetDecisionRequest where
  comment : String
  long : 5 ≤ comment.length

def approveLast (actorId : String) : List BudgetAmendment → List BudgetAmendment
  | [] => []
  | [last] => [{ last with approverId := some actorId }]
  | first :: second :: rest => first :: approveLast actorId (second :: rest)

def approvedBudget (call : Call) (actorId comment : String) (long : 5 ≤ comment.length) (budget : BudgetEntity) :
    BudgetEntity :=
  { budget with
    approvalDecision := some ⟨.approved,actorId,comment,long,call.now⟩
    approvalStatus := operationalStatus budget.effectiveDate call.today
    amendments := approveLast actorId budget.amendments }

def rejectedBudget (call : Call) (request : BudgetDecisionRequest) (budget : BudgetEntity) : BudgetEntity :=
  { budget with
    approvalDecision := some ⟨.rejected,call.actorId "approver",request.comment,request.long,call.now⟩
    approvalStatus := .rejected }

/-- What approval and rejection share: the budget is read, must not be native and
must be pending, and is saved as the decision leaves it. -/
def decideBudget (call : Call) (budgetId : String) (decided : BudgetEntity → BudgetEntity) (s : BudgetStore) :
    BudgetStore × Except BudgetError BudgetEntity :=
  match getBudget call budgetId s with
  | .error e => (s, .error e)
  | .ok budget =>
    if budget.isReadOnly ∨ budget.isNative then (s, .error (.nativeReadOnly budget.id budget.nativeProvider))
    else if budget.approvalStatus ≠ .pendingApproval then (s, .error (.approvalNotAllowed budgetId budget.approvalStatus))
    else
      match saveBudget call (decided budget) s with
      | .error e => (s, .error e)
      | .ok saved => (saved, .ok (decided budget))

def approveBudget (call : Call) (budgetId : String) (request : BudgetDecisionRequest) (s : BudgetStore) :
    BudgetStore × Except BudgetError BudgetEntity :=
  decideBudget call budgetId (approvedBudget call (call.actorId "approver") request.comment request.long) s

def rejectBudget (call : Call) (budgetId : String) (request : BudgetDecisionRequest) (s : BudgetStore) :
    BudgetStore × Except BudgetError BudgetEntity :=
  decideBudget call budgetId (rejectedBudget call request) s

structure NativeBudgetImportRequest where
  provider : CloudProvider
  nativeBudgetId : String
  nativeBudgetName : String
  scopeType : BudgetScopeType
  scopeId : String
  amount : ℚ
  positive : 0 < amount
  currency : String
  effectiveDate : Date
  expiryDate : Option Date
  owner : String
  notes : Option String

def nativeBudget (request : NativeBudgetImportRequest) (dated : DatesOrdered request.effectiveDate request.expiryDate) :
    BudgetEntity where
  id := "native-" ++ request.provider.value ++ "-" ++ request.nativeBudgetId
  name := "[" ++ Text.upper request.provider.value ++ " Native] " ++ request.nativeBudgetName
  scopeType := request.scopeType
  scopeId := request.scopeId
  amount := request.amount
  positive := request.positive
  currency := Text.upper request.currency
  effectiveDate := request.effectiveDate
  expiryDate := request.expiryDate
  dated := dated
  owner := request.owner
  approvalStatus := .active
  approvalDecision := none
  notes := request.notes
  isNative := true
  isReadOnly := true
  nativeProvider := some request.provider
  amendments := []

def importNativeBudget (call : Call) (request : NativeBudgetImportRequest) (s : BudgetStore) :
    BudgetStore × Except BudgetError BudgetEntity :=
  if dated : DatesOrdered request.effectiveDate request.expiryDate then
    match saveBudget call (nativeBudget request dated) s with
    | .error e => (s, .error e)
    | .ok saved => (saved, .ok (nativeBudget request dated))
  else (s, .error (.invalidDates request.effectiveDate request.expiryDate))

/-- The comment the applier records. A payload value that is no text of at least
five characters fails the validation of the decision. -/
def applierComment (payload : Payload) : Option String :=
  match payload.lookup "comment" with
  | none => some "Approved via unified workflow engine"
  | some (.text comment) => some comment
  | some _ => none

def applierActor (request : WorkflowRequest) : String :=
  match request.history.getLast? with
  | some entry => entry.actorId
  | none => "workflow-engine"

def applyApproval (call : Call) (request : WorkflowRequest) (s : BudgetStore) : BudgetStore × Except BudgetError Unit :=
  match getOwned call.tc.tenantId request.subjectEntity.entityId s.budgets with
  | none => (s, .error (.applicationFailed request.id request.subjectEntity.entityId))
  | some budget =>
    match applierComment request.payload with
    | none => (s, .error .shortComment)
    | some comment =>
      if long : 5 ≤ comment.length then
        match saveBudget call (approvedBudget call (applierActor request) comment long budget) s with
        | .error e => (s, .error e)
        | .ok saved => (saved, .ok ())
      else (s, .error .shortComment)

end CloudLens.Budgets
