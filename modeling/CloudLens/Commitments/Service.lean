import CloudLens.Commitments.Model

/-! The commitment service: registrations, analyses and decisions write its maps; four
reports read them, and each of these fills in an analysis that is missing with assumed
costs and stores what it filled in under the commitment's id. -/
namespace CloudLens.Commitments
open Library Library.Decimal Library.Calendar

structure Store where
  commitments : Dict String CommitmentEntity
  analyses : Dict String CommitmentCoverageAnalysis
  decisions : Dict String CommitmentDecisionRecord
  alerts : Dict String ExpiryAlertRecord

namespace Store

def empty : Store := ⟨Dict.empty,Dict.empty,Dict.empty,Dict.empty⟩

def registerCommitment (s : Store) (tenantId commitmentId : String) (provider : ProviderType) (commitmentType : CommitmentType)
    (expiryDate : Instant) (annualCommittedCost : ℚ) (ownerId : String) (termMonths : ℕ) : CommitmentEntity × Store :=
  let entity : CommitmentEntity :=
    { commitmentId := commitmentId
      tenantId := tenantId
      provider := provider
      commitmentType := commitmentType
      termMonths := termMonths
      expiryDate := expiryDate
      annualCommittedCost := quantize 2 annualCommittedCost
      ownerId := ownerId }
  (entity, { s with commitments := s.commitments.assign commitmentId entity })

def getCommitment (s : Store) (commitmentId : String) : Except CommitmentError CommitmentEntity :=
  match s.commitments.get commitmentId with
  | some comm => .ok comm
  | none => .error (.commitmentNotFound commitmentId)

def listCommitments (s : Store) (tenantId : String) : List CommitmentEntity :=
  s.commitments.values.filter (fun comm => comm.tenantId = tenantId)

def recordAnalysis (s : Store) (comm : CommitmentEntity) (costs : UsageCosts) (trendHistory : List HistoricalTrend) :
    CommitmentCoverageAnalysis × Store :=
  let analysis := analysisOf comm costs trendHistory
  (analysis, { s with analyses := s.analyses.assign comm.commitmentId analysis })

def analyzeCoverageAndUtilization (s : Store) (commitmentId : String) (costs : UsageCosts) (trendHistory : List HistoricalTrend) :
    Except CommitmentError (CommitmentCoverageAnalysis × Store) := do
  let comm ← s.getCommitment commitmentId
  return s.recordAnalysis comm costs trendHistory

/-- The analysis a report works with: the one stored, else one of assumed costs, which is
stored. The report has the commitment at hand, so the lookup by its id succeeds. -/
def analysisOrAssumed (s : Store) (comm : CommitmentEntity) (assumed : CommitmentEntity → UsageCosts) :
    CommitmentCoverageAnalysis × Store :=
  match s.analyses.get comm.commitmentId with
  | some analysis => (analysis, s)
  | none => s.recordAnalysis comm (assumed comm) []

def isInWindow (leadTimeDays : ℤ) (now : Instant) (comm : CommitmentEntity) : Bool :=
  0 ≤ daysLeft comm now && daysLeft comm now ≤ leadTimeDays

def pipelineItem (now : Instant) (comm : CommitmentEntity) (analysis : CommitmentCoverageAnalysis) : RenewalPipelineItem where
  commitmentId := comm.commitmentId
  provider := comm.provider
  commitmentType := comm.commitmentType
  expiryDate := comm.expiryDate
  daysUntilExpiry := daysLeft comm now
  isInDecisionWindow := true
  valueAtRisk := valueAtRisk analysis
  analysis := analysis
  rank := 1

def collectItems (leadTimeDays : ℤ) (now : Instant) : List CommitmentEntity → Store → List RenewalPipelineItem × Store
  | [], s => ([], s)
  | comm :: rest, s =>
    let (analysis, s) := s.analysisOrAssumed comm exposureCosts
    let (items, s) := collectItems leadTimeDays now rest s
    (if isInWindow leadTimeDays now comm then pipelineItem now comm analysis :: items else items, s)

def ranked (items : List RenewalPipelineItem) : List RenewalPipelineItem :=
  (items.mergeSort (fun a b => decide (b.valueAtRisk ≤ a.valueAtRisk))).mapIdx (fun index item => { item with rank := index + 1 })

def getRenewalPipeline (s : Store) (tenantId : String) (leadTimeDays : ℤ) (now : Instant) : List RenewalPipelineItem × Store :=
  let (items, s) := collectItems leadTimeDays now (s.listCommitments tenantId) s
  (ranked items, s)

end Store

structure Options where
  doNothing : WhatIfOption
  same : WhatIfOption
  higher : WhatIfOption
  lower : WhatIfOption
  term : WhatIfOption
  scope : WhatIfOption
  lapse : WhatIfOption

def Options.toList (options : Options) : List WhatIfOption :=
  [options.doNothing, options.same, options.higher, options.lower, options.term, options.scope, options.lapse]

def pricedOption (action : RenewalAction) (description : String) (doNothingCost cost : ℚ) : WhatIfOption where
  action := action
  description := description
  projectedAnnualCost := cost
  projectedAnnualSaving := quantize 2 (doNothingCost - cost)
  deltaVsDoNothing := quantize 2 (doNothingCost - cost)

def onDemandOption (action : RenewalAction) (description : String) (doNothingCost : ℚ) : WhatIfOption where
  action := action
  description := description
  projectedAnnualCost := doNothingCost
  projectedAnnualSaving := 0
  deltaVsDoNothing := 0

def whatIfOptions (comm : CommitmentEntity) (analysis : CommitmentCoverageAnalysis) (forwardGrowthPct plannedDecommissionPct : ℚ) : Options :=
  let annualBase := comm.annualCommittedCost
  let doNothingCost := quantize 2 (analysis.listPriceCost * (1 + forwardGrowthPct - plannedDecommissionPct))
  { doNothing := onDemandOption .doNothing "Allow commitment to lapse; run all workload on on-demand rates" doNothingCost
    same := pricedOption .renewSame ("Renew identical level at $" ++ money annualBase ++ "/yr") doNothingCost annualBase
    higher := pricedOption .renewHigher "Upsize commitment by 20% to capture unreserved burst capacity" doNothingCost
      (quantize 2 (annualBase * (6/5)))
    lower := pricedOption .renewLower "Downsize commitment by 20% to right-size capacity and prevent idle waste" doNothingCost
      (quantize 2 (annualBase * (4/5)))
    term := pricedOption .changeTerm "Extend to 3-year term for deeper multi-year rate reduction" doNothingCost
      (quantize 2 (annualBase * (17/20)))
    scope := pricedOption .changeScope "Broaden scope to tenant-wide billing pool to eliminate single-account underutilisation"
      doNothingCost annualBase
    lapse := onDemandOption .allowToLapse
      "Deliberately allow commitment to lapse to accommodate planned workload decommissioning" doNothingCost }

def evidence (analysis : CommitmentCoverageAnalysis) (forwardGrowthPct plannedDecommissionPct : ℚ) : List String :=
  ["Coverage ratio is " ++ fixed1 (analysis.coverageRatio * 100) ++ "% of eligible spend.",
    "Utilisation ratio is " ++ fixed1 (analysis.utilizationRatio * 100) ++ "% of commitment capacity.",
    "Realised saving to date is $" ++ money analysis.realizedSaving ++ " against list prices.",
    "Forward workload forecast reflects " ++ fixed1 (forwardGrowthPct * 100) ++ "% organic growth.",
    "Planned decommissioning will release " ++ fixed1 (plannedDecommissionPct * 100) ++ "% of capacity."]

def recommend (comm : CommitmentEntity) (analysis : CommitmentCoverageAnalysis) (forwardGrowthPct plannedDecommissionPct : ℚ) :
    RenewalRecommendation :=
  let options := whatIfOptions comm analysis forwardGrowthPct plannedDecommissionPct
  let evidence := evidence analysis forwardGrowthPct plannedDecommissionPct
  let recommendation (action : RenewalAction) (amount saving : ℚ) (reason : String) : RenewalRecommendation :=
    { commitmentId := comm.commitmentId
      recommendedAction := action
      recommendedCommitmentAmount := amount
      projectedAnnualSaving := saving
      reasoning := evidence ++ [reason]
      whatIfOptions := options.toList }
  let chosen (option : WhatIfOption) (reason : String) : RenewalRecommendation :=
    recommendation option.action option.projectedAnnualCost option.projectedAnnualSaving reason
  if 4/5 ≤ plannedDecommissionPct then
    recommendation .allowToLapse 0 0
      "Recommendation: ALLOW_TO_LAPSE due to complete or near-total workload decommissioning (Prompt 59)."
  else if analysis.assessment = .overCommitment ∨ 3/20 < plannedDecommissionPct then
    chosen options.lower "Recommendation: RENEW_LOWER due to over-commitment and low historical utilisation."
  else if analysis.assessment = .underCommitment ∧ 0 ≤ forwardGrowthPct then
    chosen options.higher "Recommendation: RENEW_HIGHER due to under-commitment with strong workload demand."
  else
    chosen options.same "Recommendation: RENEW_SAME maintaining steady-state baseline commitments."

namespace Store

def generateRecommendation (s : Store) (commitmentId : String) (forwardGrowthPct plannedDecommissionPct : ℚ) :
    Except CommitmentError RenewalRecommendation × Store :=
  match s.getCommitment commitmentId with
  | .error missing => (.error missing, s)
  | .ok comm =>
    let (analysis, s) := s.analysisOrAssumed comm renewalCosts
    (.ok (recommend comm analysis forwardGrowthPct plannedDecommissionPct), s)

/-- `submission` is the answer of the workflow service, where one is given. -/
def recordRenewalDecision (s : Store) (tenantId commitmentId : String) (chosenAction : RenewalAction)
    (approverId justification : String) (submission : Option (Except String String)) (authorityThreshold : ℚ) :
    Except CommitmentError CommitmentDecisionRecord × Store :=
  match s.getCommitment commitmentId with
  | .error missing => (.error missing, s)
  | .ok comm =>
    let requiresApproval : Bool := authorityThreshold ≤ comm.annualCommittedCost
    let record (approvalStatus : String) (workflowRequestId : Option String) :
        Except CommitmentError CommitmentDecisionRecord × Store :=
      let decision : CommitmentDecisionRecord :=
        { commitmentId := commitmentId
          tenantId := tenantId
          chosenAction := chosenAction
          approverId := approverId
          justification := justification
          requiresApproval := requiresApproval
          approvalStatus := approvalStatus
          workflowRequestId := workflowRequestId }
      (.ok decision, { s with decisions := s.decisions.assign commitmentId decision })
    match requiresApproval, submission with
    | true, some (.ok requestId) => record "PENDING_WORKFLOW" (some requestId)
    | true, some (.error refused) => (.error (.refusedBy refused), s)
    | _, _ => record "APPROVED" none

/-- `task` is the answer of the remediation service, where one and a tenant context are given. -/
def triggerExpiryAlertsAndTasks (s : Store) (commitmentId : String) (now : Instant) (task : Option (Except String String)) :
    Except CommitmentError ExpiryAlertRecord × Store :=
  match s.getCommitment commitmentId with
  | .error missing => (.error missing, s)
  | .ok comm =>
    let (analysis, s) := s.analysisOrAssumed comm exposureCosts
    let alerted (taskId : Option String) : Except CommitmentError ExpiryAlertRecord × Store :=
      let alert : ExpiryAlertRecord :=
        { commitmentId := comm.commitmentId
          tenantId := comm.tenantId
          ownerId := comm.ownerId
          daysUntilExpiry := daysLeft comm now
          decisionDeadline := now + max 1 (daysLeft comm now - 14) * day
          valueAtRisk := valueAtRisk analysis
          remediationTaskId := taskId }
      (.ok alert, { s with alerts := s.alerts.assign comm.commitmentId alert })
    match task with
    | some (.error refused) => (.error (.refusedBy refused), s)
    | some (.ok taskId) => alerted (some taskId)
    | none => alerted none

end Store

def average (values : List ℚ) : ℚ := if values = [] then 0 else quantize 4 (values.sum / values.length)

def breakdown (comms : List CommitmentEntity) : List (String × ProviderBreakdown) :=
  (comms.foldl (fun counted comm => counted.amend comm.provider.upper (fun entry =>
    let entry := entry.getD ⟨0,0⟩
    ⟨entry.count + 1,entry.annualCommitted + comm.annualCommittedCost⟩)) Dict.empty).items

namespace Store

/-- The averages and savings are taken over the analyses stored before the pipeline is computed. -/
def getPortfolioView (s : Store) (tenantId : String) (now : Instant) : PortfolioSummary × Store :=
  let comms := s.listCommitments tenantId
  if comms = [] then (⟨0,0,0,0,0,0,[]⟩, s)
  else
    let allAnalyses := comms.filterMap (fun comm => s.analyses.get comm.commitmentId)
    let (pipeline, after) := s.getRenewalPipeline tenantId 365 now
    ({ totalCommitments := comms.length
       totalAnnualCommittedValue := (comms.map CommitmentEntity.annualCommittedCost).sum
       overallCoverageRatio := average (allAnalyses.map CommitmentCoverageAnalysis.coverageRatio)
       overallUtilizationRatio := average (allAnalyses.map CommitmentCoverageAnalysis.utilizationRatio)
       totalRealizedSavings := (allAnalyses.map CommitmentCoverageAnalysis.realizedSaving).sum
       totalValueAtRisk := (pipeline.map RenewalPipelineItem.valueAtRisk).sum
       providerBreakdowns := breakdown comms }, after)

end Store

/-- One call of the service: registrations, analyses and decisions, and the four reports. -/
inductive Operation
  | registerCommitment (commitmentId : String) (provider : ProviderType) (commitmentType : CommitmentType)
      (expiryDate : Instant) (annualCommittedCost : ℚ) (ownerId : String) (termMonths : ℕ)
  | analyzeCoverageAndUtilization (commitmentId : String) (costs : UsageCosts) (trendHistory : List HistoricalTrend)
  | recordRenewalDecision (commitmentId : String) (chosenAction : RenewalAction) (approverId justification : String)
      (submission : Option (Except String String)) (authorityThreshold : ℚ)
  | getRenewalPipeline (leadTimeDays : ℤ) (now : Instant)
  | generateRecommendation (commitmentId : String) (forwardGrowthPct plannedDecommissionPct : ℚ)
  | triggerExpiryAlertsAndTasks (commitmentId : String) (now : Instant) (task : Option (Except String String))
  | getPortfolioView (now : Instant)

structure Call where
  tenantId : String
  operation : Operation

inductive Outcome
  | commitment (entity : CommitmentEntity)
  | analysis (analysis : CommitmentCoverageAnalysis)
  | decision (record : CommitmentDecisionRecord)
  | pipeline (items : List RenewalPipelineItem)
  | recommendation (recommendation : RenewalRecommendation)
  | alert (record : ExpiryAlertRecord)
  | portfolio (summary : PortfolioSummary)
  | raised (error : CommitmentError)
  deriving DecidableEq

def Outcome.of {Result : Type} (wrap : Result → Outcome) : Except CommitmentError Result → Outcome
  | .ok result => wrap result
  | .error error => .raised error

def Store.perform (s : Store) (call : Call) : Outcome × Store :=
  match call.operation with
  | .registerCommitment commitmentId provider commitmentType expiryDate annualCommittedCost ownerId termMonths =>
    let (entity, after) := s.registerCommitment call.tenantId commitmentId provider commitmentType expiryDate annualCommittedCost
      ownerId termMonths
    (.commitment entity, after)
  | .analyzeCoverageAndUtilization commitmentId costs trendHistory =>
    match s.analyzeCoverageAndUtilization commitmentId costs trendHistory with
    | .ok (analysis, after) => (.analysis analysis, after)
    | .error error => (.raised error, s)
  | .recordRenewalDecision commitmentId chosenAction approverId justification submission authorityThreshold =>
    let (answer, after) := s.recordRenewalDecision call.tenantId commitmentId chosenAction approverId justification submission
      authorityThreshold
    (.of .decision answer, after)
  | .getRenewalPipeline leadTimeDays now =>
    let (items, after) := s.getRenewalPipeline call.tenantId leadTimeDays now
    (.pipeline items, after)
  | .generateRecommendation commitmentId forwardGrowthPct plannedDecommissionPct =>
    let (answer, after) := s.generateRecommendation commitmentId forwardGrowthPct plannedDecommissionPct
    (.of .recommendation answer, after)
  | .triggerExpiryAlertsAndTasks commitmentId now task =>
    let (answer, after) := s.triggerExpiryAlertsAndTasks commitmentId now task
    (.of .alert answer, after)
  | .getPortfolioView now =>
    let (summary, after) := s.getPortfolioView call.tenantId now
    (.portfolio summary, after)

end CloudLens.Commitments
