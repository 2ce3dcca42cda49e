import CloudLens.Cost.Facts

/-! Allocation rules and the rows they produce. A rule of the split tier carries
at least one target and percentages that sum to one hundred: the validator
refuses any other rule, so an invalid rule cannot be built. -/
namespace CloudLens.Attribution
open Cost

inductive AllocationRuleType where
  | directResource
  | tagRule
  | scopeRule
  | serviceRule
  | splitRule
  | unallocated
  deriving DecidableEq

def AllocationRuleType.value : AllocationRuleType → String
  | .directResource => "DIRECT_RESOURCE"
  | .tagRule => "TAG_RULE"
  | .scopeRule => "SCOPE_RULE"
  | .serviceRule => "SERVICE_RULE"
  | .splitRule => "SPLIT_RULE"
  | .unallocated => "UNALLOCATED"

/-- The text is the decimal literal the percentage was given as. -/
structure AllocationSplitTarget where
  costCenterCode : String
  businessUnitCode : Option String
  percentage : ℚ
  percentageText : String

def splitTotal (targets : List AllocationSplitTarget) : ℚ := (targets.map AllocationSplitTarget.percentage).sum

structure AllocationRule where
  id : String
  name : String
  ruleType : AllocationRuleType
  priority : ℤ
  matchResourceId : Option String
  matchTagKey : Option String
  matchTagValue : Option String
  matchScopeId : Option String
  matchServiceId : Option String
  matchServiceCategory : Option String
  targetCostCenterCode : Option String
  targetBusinessUnitCode : Option String
  targetProjectCode : Option String
  splitTargets : List AllocationSplitTarget
  isActive : Bool
  validSplit : ruleType = .splitRule → splitTargets ≠ [] ∧ splitTotal splitTargets = 100

structure AllocatedCostRow where
  costFactId : String
  resourceId : Option String
  scopeId : String
  totalCost : ℚ
  allocatedAmount : ℚ
  currency : String
  costCenterCode : String
  businessUnitCode : Option String
  projectCode : Option String
  winningRuleType : AllocationRuleType
  winningRuleId : Option String
  winningRuleName : String
  ruleExplanation : String
  splitPercentage : Option ℚ
  deriving DecidableEq

structure NormalizedTag where
  normalizedKey : String
  value : String

inductive ServiceCategory where
  | compute
  | storage
  | networking
  | database
  | securityIdentity
  | analytics
  | aiMl
  | managementGovernance
  | integration
  | developerTools
  | other
  deriving DecidableEq

def ServiceCategory.value : ServiceCategory → String
  | .compute => "COMPUTE"
  | .storage => "STORAGE"
  | .networking => "NETWORKING"
  | .database => "DATABASE"
  | .securityIdentity => "SECURITY_IDENTITY"
  | .analytics => "ANALYTICS"
  | .aiMl => "AI_ML"
  | .managementGovernance => "MANAGEMENT_GOVERNANCE"
  | .integration => "INTEGRATION"
  | .developerTools => "DEVELOPER_TOOLS"
  | .other => "OTHER"

structure Service where
  id : String
  serviceCode : String
  category : ServiceCategory

inductive PricingStatus where
  | free
  | freeTier
  | conditionalFree
  | paid
  | estimated
  | unknown
  | notApplicable
  deriving DecidableEq

structure Tag where
  key : String
  value : String
  inherited : Bool
  source : String
  deriving DecidableEq

inductive OriginType where
  | discovered
  | derived
  | curated
  deriving DecidableEq

structure ProvenanceRecord where
  sourceSystem : String
  originType : OriginType
  survivesRediscovery : Bool
  deriving DecidableEq

structure Resource where
  id : String
  name : String
  serviceId : String
  resourceTypeId : String
  regionId : String
  availabilityZone : Option String
  pricingStatus : PricingStatus
  tags : List Tag
  ownerId : Option String
  applicationId : Option String
  environmentId : Option String
  costCenterId : Option String
  sourceProvenance : ProvenanceRecord
  deriving DecidableEq

/-- A text field that is absent or empty counts as not configured. -/
def configured (field : Option String) : Option String := field.filter (fun text => text ≠ "")

def unallocatedKey : String := "UNALLOCATED"

end CloudLens.Attribution
