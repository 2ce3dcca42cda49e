import CloudLens.Library.Calendar
import CloudLens.Library.Decimal
import CloudLens.Library.Tenancy

/-! Showback statements, restatement adjustments, disputes and reallocations,
and the stores they live in. The statements and the disputes of the repository
carry the tenant that wrote them; the dispute manager keeps its own copies by
tenant and identifier. -/
namespace CloudLens.Statements
open Library
open Library.Calendar (Instant)

inductive RecipientScopeType where
  | businessUnit
  | costCentre
  | application
  | project
  | team
  deriving DecidableEq

inductive StatementLifecycleStatus where
  | draft
  | inReview
  | finalised
  | adjusted
  | superseded
  | disputed
  | accepted
  deriving DecidableEq

inductive StatementMode where
  | showback
  | chargeback
  deriving DecidableEq

inductive BudgetVarianceStatus where
  | onTrack
  | atRisk
  | exceeded
  | unbudgeted
  deriving DecidableEq

inductive MovementDirection where
  | up
  | down
  | flat
  deriving DecidableEq

inductive DisputeStatus where
  | submitted
  | inReview
  | resolvedAccepted
  | resolvedRejected
  deriving DecidableEq

structure ProviderBreakdownItem where
  provider : String
  allocatedAmount : ℚ
  sharePercentage : ℚ
  priorPeriodAmount : ℚ
  movementAmount : ℚ
  movementPct : ℚ

structure CategoryBreakdownItem where
  serviceCategory : String
  allocatedAmount : ℚ
  sharePercentage : ℚ
  priorPeriodAmount : ℚ

structure ApplicationBreakdownItem where
  applicationCode : String
  applicationName : String
  allocatedAmount : ℚ
  sharePercentage : ℚ

structure EnvironmentBreakdownItem where
  environment : String
  allocatedAmount : ℚ
  sharePercentage : ℚ

structure CostMovementItem where
  itemName : String
  priorAmount : ℚ
  currentAmount : ℚ
  deltaAmount : ℚ
  deltaPct : ℚ
  movementDirection : MovementDirection
  narrativeExplanation : String

structure SharedServiceApportionmentItem where
  sharedServiceId : String
  sharedServiceName : String
  provider : String
  sourceTotalCost : ℚ
  apportionedAmount : ℚ
  apportionmentPercentage : ℚ
  allocationRuleId : String
  allocationRuleName : String
  apportionmentBasis : String

structure UnallocatedCostItem where
  unallocatedAmount : ℚ
  unallocatedPercentage : ℚ

structure DiscountBenefitItem where
  listCost : ℚ
  contractedCost : ℚ
  effectiveCost : ℚ
  realisedDiscountAmount : ℚ
  realisedDiscountPercentage : ℚ

structure CurrencyDisclosure where
  baseCurrency : String
  presentationCurrency : String
  exchangeRate : ℚ
  rateType : String
  rateEffectiveDate : String

structure Phase2ChargebackFields where
  isEnabled : Bool
  journalReference : Option String
  postingPeriod : Option String
  glAccount : Option String
  chargebackStatus : Option String

structure ShowbackStatement where
  statementId : String
  tenantId : String
  period : String
  version : ℕ
  supersedesStatementId : Option String
  scopeType : RecipientScopeType
  scopeCode : String
  scopeName : String
  recipientOwnerId : String
  recipientOwnerEmail : String
  status : StatementLifecycleStatus
  mode : StatementMode
  showbackBanner : String
  totalAllocatedCost : ℚ
  directAllocatedCost : ℚ
  sharedServiceApportionedCost : ℚ
  unallocatedCost : ℚ
  costBasis : String
  currency : String
  currencyDisclosure : CurrencyDisclosure
  budgetAmount : ℚ
  budgetVarianceAmount : ℚ
  budgetVariancePct : ℚ
  budgetStatus : BudgetVarianceStatus
  budgetCommentary : String
  priorPeriod : String
  priorPeriodCost : ℚ
  periodMovementAmount : ℚ
  periodMovementPct : ℚ
  movementDirection : MovementDirection
  movementCommentary : String
  providerBreakdown : List ProviderBreakdownItem
  categoryBreakdown : List CategoryBreakdownItem
  applicationBreakdown : List ApplicationBreakdownItem
  environmentBreakdown : List EnvironmentBreakdownItem
  largestMovements : List CostMovementItem
  sharedServiceApportionments : List SharedServiceApportionmentItem
  unallocatedCostDetails : Option UnallocatedCostItem
  discountBenefit : Option DiscountBenefitItem
  templateId : String
  generatedAt : Instant
  circulatedAt : Option Instant
  reviewDeadline : Option Instant
  finalisedAt : Option Instant
  acceptedAt : Option Instant
  acceptedBy : Option String
  acceptanceNotes : Option String
  chargebackFields : Phase2ChargebackFields

structure AdjustmentLine where
  lineId : String
  description : String
  originalAmount : ℚ
  adjustmentDelta : ℚ
  adjustedAmount : ℚ
  reason : String

structure StatementAdjustment where
  adjustmentId : String
  tenantId : String
  originalStatementId : String
  adjustedStatementId : String
  version : ℕ
  originalTotal : ℚ
  adjustmentTotal : ℚ
  adjustedTotal : ℚ
  restatementReason : String
  adjustmentTimestamp : Instant
  adjustedBy : String
  lines : List AdjustmentLine

structure StatementDispute where
  disputeId : String
  tenantId : String
  statementId : String
  lineId : String
  lineDescription : String
  recipientId : String
  recipientEmail : String
  disputedAmount : ℚ
  proposedAmount : ℚ
  reason : String
  status : DisputeStatus
  assignedOwner : String
  slaDeadline : Instant
  workflowRequestId : String
  resolutionNotes : Option String
  resolvedAt : Option Instant
  resolvedBy : Option String
  createdAt : Instant

structure ReallocationRecord where
  reallocationId : String
  tenantId : String
  disputeId : String
  statementId : String
  sourceScopeCode : String
  targetScopeCode : String
  reallocatedAmount : ℚ
  reason : String
  approvedBy : String
  reallocatedAt : Instant

inductive StatementError where
  | statementNotFound (detail : String)
  | statementAlreadyFinalised (message : String)
  | finalisedModificationForbidden (statementId : String)
  | missingApportionmentBasis (sharedServiceId reason : String)
  | zeroDivision
  | dispute (message : String)
  | rowLevelSecurity
  deriving DecidableEq

structure TenantContext where
  tenantId : String
  userId : String
  email : Option String

structure World where
  statements : Table String (Owned ShowbackStatement)
  adjustments : List StatementAdjustment
  disputes : Table String (Owned StatementDispute)
  reallocations : List ReallocationRecord
  managedDisputes : Table (String × String) StatementDispute
  managedReallocations : List ReallocationRecord

def World.empty : World := ⟨∅,[],∅,[],∅,[]⟩

def roundCurrency (amount : ℚ) : ℚ := Decimal.quantize 2 amount

def saveStatement (tc : TenantContext) (statement : ShowbackStatement) (w : World) : Except StatementError World :=
  match saveOwned tc.tenantId statement.statementId statement w.statements with
  | none => .error .rowLevelSecurity
  | some statements => .ok { w with statements := statements }

def getStatement (tc : TenantContext) (id : String) (w : World) : Except StatementError ShowbackStatement :=
  match getOwned tc.tenantId id w.statements with
  | some statement => .ok statement
  | none => .error (.statementNotFound id)

def saveDispute (tc : TenantContext) (dispute : StatementDispute) (w : World) : Except StatementError World :=
  match saveOwned tc.tenantId dispute.disputeId dispute w.disputes with
  | none => .error .rowLevelSecurity
  | some disputes => .ok { w with disputes := disputes }

end CloudLens.Statements
