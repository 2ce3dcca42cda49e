import CloudLens.Library.Calendar
import CloudLens.Library.Decimal
import CloudLens.Library.Dict

/-! Commitments, the analyses of their coverage and utilisation, and what the reports on
them contain. Amounts are exact rationals that the service rounds to cents, half to even;
a moment counts microseconds of its own wall clock, and its date is the whole days in it. -/
namespace CloudLens.Commitments
open Library Library.Decimal Library.Calendar

inductive ProviderType
  | aws | azure | gcp | oci | canonical
  deriving DecidableEq

def ProviderType.upper : ProviderType → String
  | .aws => "AWS"
  | .azure => "AZURE"
  | .gcp => "GCP"
  | .oci => "OCI"
  | .canonical => "CANONICAL"

inductive CommitmentType
  | savingsPlan | reservedInstance | committedUseDiscount | reservedCapacity
  deriving DecidableEq

inductive CommitmentAssessment
  | overCommitment | underCommitment | optimal
  deriving DecidableEq

inductive RenewalAction
  | renewSame | renewHigher | renewLower | changeTerm | changeScope | allowToLapse | doNothing
  deriving DecidableEq

structure HistoricalTrend where
  period : String
  coverageRatio : ℚ
  utilizationRatio : ℚ
  realizedSaving : ℚ
  deriving DecidableEq

structure CommitmentEntity where
  commitmentId : String
  tenantId : String
  provider : ProviderType
  commitmentType : CommitmentType
  termMonths : ℕ
  expiryDate : Instant
  annualCommittedCost : ℚ
  ownerId : String
  deriving DecidableEq

structure UsageCosts where
  eligibleUsageCost : ℚ
  coveredUsageCost : ℚ
  commitmentCost : ℚ
  actualConsumedCost : ℚ
  listPriceCost : ℚ
  deriving DecidableEq

def UsageCosts.quantized (costs : UsageCosts) : UsageCosts where
  eligibleUsageCost := quantize 2 costs.eligibleUsageCost
  coveredUsageCost := quantize 2 costs.coveredUsageCost
  commitmentCost := quantize 2 costs.commitmentCost
  actualConsumedCost := quantize 2 costs.actualConsumedCost
  listPriceCost := quantize 2 costs.listPriceCost

structure CommitmentCoverageAnalysis extends UsageCosts where
  commitmentId : String
  provider : ProviderType
  commitmentType : CommitmentType
  termMonths : ℕ
  expiryDate : Instant
  coverageRatio : ℚ
  utilizationRatio : ℚ
  realizedSaving : ℚ
  assessment : CommitmentAssessment
  trendHistory : List HistoricalTrend
  deriving DecidableEq

structure RenewalPipelineItem where
  commitmentId : String
  provider : ProviderType
  commitmentType : CommitmentType
  expiryDate : Instant
  daysUntilExpiry : ℤ
  isInDecisionWindow : Bool
  valueAtRisk : ℚ
  analysis : CommitmentCoverageAnalysis
  rank : ℕ
  deriving DecidableEq

structure WhatIfOption where
  action : RenewalAction
  description : String
  projectedAnnualCost : ℚ
  projectedAnnualSaving : ℚ
  deltaVsDoNothing : ℚ
  deriving DecidableEq

structure RenewalRecommendation where
  commitmentId : String
  recommendedAction : RenewalAction
  recommendedCommitmentAmount : ℚ
  projectedAnnualSaving : ℚ
  reasoning : List String
  whatIfOptions : List WhatIfOption
  deriving DecidableEq

structure CommitmentDecisionRecord where
  commitmentId : String
  tenantId : String
  chosenAction : RenewalAction
  approverId : String
  justification : String
  requiresApproval : Bool
  approvalStatus : String
  workflowRequestId : Option String
  deriving DecidableEq

structure ExpiryAlertRecord where
  commitmentId : String
  tenantId : String
  ownerId : String
  daysUntilExpiry : ℤ
  decisionDeadline : Instant
  valueAtRisk : ℚ
  remediationTaskId : Option String
  deriving DecidableEq

structure ProviderBreakdown where
  count : ℕ
  annualCommitted : ℚ
  deriving DecidableEq

structure PortfolioSummary where
  totalCommitments : ℕ
  totalAnnualCommittedValue : ℚ
  overallCoverageRatio : ℚ
  overallUtilizationRatio : ℚ
  totalRealizedSavings : ℚ
  totalValueAtRisk : ℚ
  providerBreakdowns : List (String × ProviderBreakdown)
  deriving DecidableEq

inductive CommitmentError
  | commitmentNotFound (commitmentId : String)
  /-- What the workflow or the remediation service raised. -/
  | refusedBy (service : String)
  deriving DecidableEq

def daysLeft (comm : CommitmentEntity) (now : Instant) : ℤ := comm.expiryDate / day - now / day

def ratio (part whole : ℚ) : ℚ := quantize 4 (if 0 < whole then part / whole else 0)

/-- Coverage without utilisation is over-commitment, utilisation without coverage is under-commitment. -/
def assess (coverageRatio utilizationRatio : ℚ) : CommitmentAssessment :=
  if 4/5 ≤ coverageRatio ∧ utilizationRatio < 17/20 then .overCommitment
  else if 19/20 ≤ utilizationRatio ∧ coverageRatio < 7/10 then .underCommitment
  else .optimal

def analysisOf (comm : CommitmentEntity) (costs : UsageCosts) (trendHistory : List HistoricalTrend) : CommitmentCoverageAnalysis :=
  let costs := costs.quantized
  let coverageRatio := ratio costs.coveredUsageCost costs.eligibleUsageCost
  let utilizationRatio := ratio costs.actualConsumedCost costs.commitmentCost
  { costs with
    commitmentId := comm.commitmentId
    provider := comm.provider
    commitmentType := comm.commitmentType
    termMonths := comm.termMonths
    expiryDate := comm.expiryDate
    coverageRatio := coverageRatio
    utilizationRatio := utilizationRatio
    realizedSaving := quantize 2 (costs.listPriceCost - costs.actualConsumedCost)
    assessment := assess coverageRatio utilizationRatio
    trendHistory := trendHistory }

def assumedCosts (eligible actual list : ℚ) (comm : CommitmentEntity) : UsageCosts where
  eligibleUsageCost := comm.annualCommittedCost * eligible
  coveredUsageCost := comm.annualCommittedCost
  commitmentCost := comm.annualCommittedCost
  actualConsumedCost := comm.annualCommittedCost * actual
  listPriceCost := comm.annualCommittedCost * list

def exposureCosts : CommitmentEntity → UsageCosts := assumedCosts (13/10) (9/10) (7/5)

def renewalCosts : CommitmentEntity → UsageCosts := assumedCosts (5/4) (19/20) (27/20)

def valueAtRisk (analysis : CommitmentCoverageAnalysis) : ℚ :=
  let exposure := quantize 2 (analysis.listPriceCost - analysis.commitmentCost)
  if exposure < 0 then analysis.commitmentCost else exposure

def fixed1 (x : ℚ) : String :=
  let tenths := (roundHalfEven (x * 10)).natAbs
  (if x < 0 then "-" else "") ++ toString (tenths / 10) ++ "." ++ toString (tenths % 10)

def separated : List Char → List Char
  | a :: b :: c :: d :: rest => a :: b :: c :: ',' :: separated (d :: rest)
  | short => short

def money (x : ℚ) : String :=
  let cents := (roundHalfEven (x * 100)).natAbs
  (if x < 0 then "-" else "") ++ String.ofList (separated (toString (cents / 100)).toList.reverse).reverse ++
    "." ++ toString (cents % 100 / 10) ++ toString (cents % 10)

example : money 1234567 = "1,234,567.00" := by decide +kernel

end CloudLens.Commitments
