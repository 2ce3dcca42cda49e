import CloudLens.Library.Casing
import CloudLens.Statements.Model
import CloudLens.Library.Grouping
import Mathlib.Data.List.Sort

/-! The statement generator: totals and breakdowns of the allocated facts, the
shared-service apportionments with their mandatory basis, the budget and
prior-period comparisons, and the assembled draft. Commentary texts come from
the template; the synthetic defaults used when no facts or apportionments are
passed are those of the source. -/
namespace CloudLens.Statements
open Library
open Library.Calendar (Instant)

structure AllocatedFact where
  provider : Option String
  serviceCategory : Option String
  applicationCode : Option String
  environment : Option String
  billedCost : Option ℚ
  listCost : Option ℚ
  contractedCost : Option ℚ

structure StatementTemplate where
  templateId : String
  showbackBanner : String
  renderBudgetCommentary : ℚ → ℚ → ℚ → ℚ → String
  renderMovementCommentary : ℚ → ℚ → ℚ → ℚ → String → String → String

structure GenerateInput where
  period : String
  scopeType : RecipientScopeType
  scopeCode : String
  scopeName : String
  recipientOwnerId : String
  recipientOwnerEmail : String
  template : StatementTemplate
  customFacts : Option (List AllocatedFact)
  customBudget : Option ℚ
  priorPeriodCost : Option ℚ
  sharedApportionments : Option (List SharedServiceApportionmentItem)
  unallocatedCost : Option ℚ
  targetCurrency : String
  exchangeRate : ℚ
  rateType : String
  enableChargebackPhase2 : Bool
  now : Instant

def syntheticFact (provider category application environment : String) (billed list contracted : ℚ) : AllocatedFact :=
  ⟨some provider,some category,some application,some environment,some billed,some list,some contracted⟩

def buildSyntheticScopeFacts : List AllocatedFact := [
  syntheticFact "AWS" "Compute" "app-checkout" "PROD" 2150 2800 2400,
  syntheticFact "AWS" "Database" "app-checkout" "PROD" 1420 1750 1550,
  syntheticFact "AZURE" "Storage" "app-inventory" "PROD" 890 1100 980,
  syntheticFact "GCP" "Analytics" "app-bi" "DEV" 1150 1450 1280,
  syntheticFact "OCI" "Compute" "app-dr" "DR" 420 500 450]

def buildDefaultSharedApportionment : List SharedServiceApportionmentItem := [
  { sharedServiceId := "srv-k8s-platform"
    sharedServiceName := "Enterprise EKS Kubernetes Platform Cluster"
    provider := "AWS"
    sourceTotalCost := 4500
    apportionedAmount := 1125
    apportionmentPercentage := 25
    allocationRuleId := "RULE-SPLIT-K8S-01"
    allocationRuleName := "Proportional Container vCPU Core-Hours Rule"
    apportionmentBasis := "Proportional to Workload Core-Hours (720 hrs / 2,880 total cluster hrs = 25.0%)" },
  { sharedServiceId := "srv-transit-gateway"
    sharedServiceName := "Inter-Region Cloud Transit Network Gateway"
    provider := "AWS"
    sourceTotalCost := 1800
    apportionedAmount := 450
    apportionmentPercentage := 25
    allocationRuleId := "RULE-SPLIT-TGW-02"
    allocationRuleName := "Network Egress Volume Apportionment"
    apportionmentBasis := "Measured Cross-VPC Data Transfer Egress (12.4 TB / 49.6 TB Total = 25.0%)" },
  { sharedServiceId := "srv-observability-stack"
    sharedServiceName := "Centralized Datadog / Elasticsearch Telemetry Stack"
    provider := "GCP"
    sourceTotalCost := 2400
    apportionedAmount := 600
    apportionmentPercentage := 25
    allocationRuleId := "RULE-SPLIT-LOGS-03"
    allocationRuleName := "Even Multi-BU Platform Allocation"
    apportionmentBasis := "Equal 4-Way Apportionment across active Business Units (25.0% flat split)" }]

def buildLargestMovements : List CostMovementItem := [
  { itemName := "Amazon EC2 Compute Instances (app-checkout)"
    priorAmount := 1250
    currentAmount := 1850
    deltaAmount := 600
    deltaPct := 48
    movementDirection := .up
    narrativeExplanation := "Autoscaling node group expanded to handle Black Friday inventory load testing." },
  { itemName := "Google Cloud BigQuery Analytics Storage"
    priorAmount := 950
    currentAmount := 620
    deltaAmount := -330
    deltaPct := -347 / 10
    movementDirection := .down
    narrativeExplanation := "Enacted 90-day cold partition retention policy, moving 45 TB to archival tier." },
  { itemName := "Azure SQL Hyperscale Database (app-orders)"
    priorAmount := 1100
    currentAmount := 1280
    deltaAmount := 180
    deltaPct := 164 / 10
    movementDirection := .up
    narrativeExplanation := "Read-replica scaling enabled to isolate analytics reporting queries." }]

def padded (width : ℕ) (n : ℤ) : String :=
  let digits := toString n.natAbs
  if n < 0 then "-" ++ String.ofList (List.replicate (width - 1 - digits.length) '0') ++ digits
  else String.ofList (List.replicate (width - digits.length) '0') ++ digits

def calculatePriorPeriod (period : String) : String :=
  match Text.splitOn '-' period.toList with
  | [year, month] =>
    match Text.parseInt year, Text.parseInt month with
    | some y, some m => if m = 1 then padded 4 (y - 1) ++ "-12" else padded 4 y ++ "-" ++ padded 2 (m - 1)
    | _, _ => "2026-08"
  | _ => "2026-08"

def AllocatedFact.billed (r : AllocatedFact) : ℚ := r.billedCost.getD 0

def AllocatedFact.list (r : AllocatedFact) : ℚ := r.listCost.getD (r.billed * (125 / 100))

def AllocatedFact.contracted (r : AllocatedFact) : ℚ := r.contractedCost.getD (r.billed * (110 / 100))

def totalsBy (key : AllocatedFact → String) (rows : List AllocatedFact) : List (String × ℚ) :=
  ((Grouping.groupInto key rows).map (fun group => (group.1, (group.2.map AllocatedFact.billed).sum))).insertionSort
    (fun a b => b.2 ≤ a.2)

def sharePercentage (amount total : ℚ) : ℚ := roundCurrency (amount / total * 100)

def budgetVariancePct (total budget : ℚ) : ℚ :=
  roundCurrency (if budget > 0 then roundCurrency (total - budget) / budget * 100 else 0)

def budgetStatusOf (total budget : ℚ) : BudgetVarianceStatus :=
  if budget ≤ 0 then .unbudgeted
  else if total ≤ budget then .onTrack
  else if budgetVariancePct total budget ≤ 10 then .atRisk
  else .exceeded

def directionOf (movement : ℚ) : MovementDirection :=
  if movement > 50 then .up else if movement < -50 then .down else .flat

def chargebackFieldsFor (input : GenerateInput) : Phase2ChargebackFields :=
  if input.enableChargebackPhase2 then
    ⟨true,some ("JRN-" ++ input.period ++ "-" ++ input.scopeCode),some (input.period ++ "-P1"),
      some ("GL-7100-" ++ input.scopeCode),some "PENDING_ERP_POSTING"⟩
  else ⟨false,none,none,none,none⟩

def generatedId (tenantId : String) (input : GenerateInput) : String :=
  "stmt-" ++ tenantId ++ "-" ++ input.period ++ "-" ++ Text.lower input.scopeCode ++ "-v1"

def assembleStatement (tenantId : String) (input : GenerateInput) (rows : List AllocatedFact)
    (apportionments : List SharedServiceApportionmentItem) : ShowbackStatement :=
  let directCost := (rows.map AllocatedFact.billed).sum
  let sharedCost := (apportionments.map SharedServiceApportionmentItem.apportionedAmount).sum
  let listCostTotal := (rows.map AllocatedFact.list).sum
  let contractedCostTotal := (rows.map AllocatedFact.contracted).sum
  let total := roundCurrency (directCost + sharedCost)
  let unallocated := input.unallocatedCost.getD (roundCurrency (total * (35 / 1000)))
  let budget := input.customBudget.getD (roundCurrency (total * (108 / 100)))
  let budgetVariance := roundCurrency (total - budget)
  let priorPeriod := calculatePriorPeriod input.period
  let priorCost := input.priorPeriodCost.getD (roundCurrency (total * (92 / 100)))
  let movement := roundCurrency (total - priorCost)
  let movementPct := roundCurrency (if priorCost > 0 then movement / priorCost * 100 else 0)
  let topDriver := match buildLargestMovements with
    | first :: _ => first.itemName
    | [] => "infrastructure expansion"
  let discountAmount := roundCurrency (listCostTotal - total)
  { statementId := generatedId tenantId input
    tenantId := tenantId
    period := input.period
    version := 1
    supersedesStatementId := none
    scopeType := input.scopeType
    scopeCode := input.scopeCode
    scopeName := input.scopeName
    recipientOwnerId := input.recipientOwnerId
    recipientOwnerEmail := input.recipientOwnerEmail
    status := .draft
    mode := if input.enableChargebackPhase2 then .chargeback else .showback
    showbackBanner := input.template.showbackBanner
    totalAllocatedCost := total
    directAllocatedCost := roundCurrency directCost
    sharedServiceApportionedCost := roundCurrency sharedCost
    unallocatedCost := unallocated
    costBasis := "BILLED"
    currency := input.targetCurrency
    currencyDisclosure := ⟨"USD",input.targetCurrency,input.exchangeRate,input.rateType,input.period ++ "-28"⟩
    budgetAmount := budget
    budgetVarianceAmount := budgetVariance
    budgetVariancePct := budgetVariancePct total budget
    budgetStatus := budgetStatusOf total budget
    budgetCommentary := input.template.renderBudgetCommentary total budget budgetVariance (budgetVariancePct total budget)
    priorPeriod := priorPeriod
    priorPeriodCost := priorCost
    periodMovementAmount := movement
    periodMovementPct := movementPct
    movementDirection := directionOf movement
    movementCommentary :=
      input.template.renderMovementCommentary total priorCost movement movementPct priorPeriod topDriver
    providerBreakdown := (totalsBy (fun r => Text.upper (r.provider.getD "AWS")) rows).map (fun p =>
      ⟨p.1,roundCurrency p.2,sharePercentage p.2 total,roundCurrency (p.2 * (90 / 100)),roundCurrency (p.2 * (10 / 100)),10⟩)
    categoryBreakdown := (totalsBy (fun r => r.serviceCategory.getD "Compute") rows).map (fun c =>
      ⟨c.1,roundCurrency c.2,sharePercentage c.2 total,roundCurrency (c.2 * (93 / 100))⟩)
    applicationBreakdown := (totalsBy (fun r => r.applicationCode.getD "app-general") rows).map (fun a =>
      ⟨a.1,"Application " ++ a.1,roundCurrency a.2,sharePercentage a.2 total⟩)
    environmentBreakdown := (totalsBy (fun r => Text.upper (r.environment.getD "PROD")) rows).map (fun e =>
      ⟨e.1,roundCurrency e.2,sharePercentage e.2 total⟩)
    largestMovements := buildLargestMovements
    sharedServiceApportionments := apportionments
    unallocatedCostDetails := some ⟨unallocated,roundCurrency (if total > 0 then unallocated / total * 100 else 0)⟩
    discountBenefit := some ⟨roundCurrency listCostTotal,roundCurrency contractedCostTotal,roundCurrency total,discountAmount,
      roundCurrency (if listCostTotal > 0 then discountAmount / listCostTotal * 100 else 0)⟩
    templateId := input.template.templateId
    generatedAt := input.now
    circulatedAt := none
    reviewDeadline := none
    finalisedAt := none
    acceptedAt := none
    acceptedBy := none
    acceptanceNotes := none
    chargebackFields := chargebackFieldsFor input }

-- The breakdown shares divide by the total, so a zero total with any row raises.
def generateStatement (tenantId : String) (input : GenerateInput) : Except StatementError ShowbackStatement :=
  let rows := input.customFacts.getD buildSyntheticScopeFacts
  let apportionments := input.sharedApportionments.getD buildDefaultSharedApportionment
  match apportionments.find? (fun item => Text.strip item.apportionmentBasis.toList = []) with
  | some item => .error (.missingApportionmentBasis item.sharedServiceId
      ("Apportionment line '" ++ item.sharedServiceName ++ "' must state the split formula and basis."))
  | none =>
    if (assembleStatement tenantId input rows apportionments).totalAllocatedCost = 0 ∧ rows ≠ [] then .error .zeroDivision
    else .ok (assembleStatement tenantId input rows apportionments)

theorem generateStatement_ok {tenantId : String} {input : GenerateInput} {s : ShowbackStatement}
    (generated : generateStatement tenantId input = .ok s) :
    ∃ rows apportionments, s = assembleStatement tenantId input rows apportionments := by
  unfold generateStatement at generated
  simp only at generated
  split at generated
  · cases generated
  · split at generated
    · cases generated
    · exact ⟨_,_,(Except.ok.inj generated).symm⟩

theorem generateStatement_nonzero {tenantId : String} {input : GenerateInput} {rows : List AllocatedFact}
    {apportionments : List SharedServiceApportionmentItem} (facts : input.customFacts = some rows)
    (shared : input.sharedApportionments = some apportionments)
    (based : apportionments.find? (fun item => Text.strip item.apportionmentBasis.toList = []) = none)
    (nonzero : (assembleStatement tenantId input rows apportionments).totalAllocatedCost ≠ 0) :
    generateStatement tenantId input = .ok (assembleStatement tenantId input rows apportionments) := by
  simp [generateStatement,facts,shared,based,nonzero]

def plainTemplate : StatementTemplate := ⟨"tpl-standard-showback","SHOWBACK",fun _ _ _ _ => "",fun _ _ _ _ _ _ => ""⟩

def retailInput (billed budget prior : ℚ) : GenerateInput where
  period := "2026-03"
  scopeType := .businessUnit
  scopeCode := "BU-RETAIL"
  scopeName := "Retail"
  recipientOwnerId := "owner"
  recipientOwnerEmail := "owner@example.com"
  template := plainTemplate
  customFacts := some [⟨none,none,none,none,some billed,none,none⟩]
  customBudget := some budget
  priorPeriodCost := some prior
  sharedApportionments := some []
  unallocatedCost := some 0
  targetCurrency := "USD"
  exchangeRate := 1
  rateType := "CORPORATE_CLOSING"
  enableChargebackPhase2 := false
  now := 0

def retailId : String := "stmt-t-1-2026-03-bu-retail-v1"

end CloudLens.Statements
