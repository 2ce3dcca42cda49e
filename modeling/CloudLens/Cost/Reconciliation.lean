import CloudLens.Library.Casing
import CloudLens.Cost.Facts
import CloudLens.Cost.Repository

/-! Reconciliation of the platform's billed total of a period and scope with the
total the provider reports. The engine refuses a period whose finalisation lag
is still running, compares the facts of the requested provider, or every fact it
read when none carries that provider, and raises an investigation item whenever
the variance is outside both tolerances. The item goes to the repository before
the report, and a repository that refuses it ends the run. -/
namespace CloudLens.Cost
open Library Library.Calendar

inductive VarianceClassification where
  | restatement
  | credit
  | tax
  | amortisationBasisDifference
  | missingScope
  | unrecognisedCharge
  | pricingMismatch
  | dataFreshnessGap
  | withinTolerance
  | unclassified
  deriving DecidableEq

def VarianceClassification.value : VarianceClassification → String
  | .restatement => "RESTATEMENT"
  | .credit => "CREDIT"
  | .tax => "TAX"
  | .amortisationBasisDifference => "AMORTISATION_BASIS_DIFFERENCE"
  | .missingScope => "MISSING_SCOPE"
  | .unrecognisedCharge => "UNRECOGNISED_CHARGE"
  | .pricingMismatch => "PRICING_MISMATCH"
  | .dataFreshnessGap => "DATA_FRESHNESS_GAP"
  | .withinTolerance => "WITHIN_TOLERANCE"
  | .unclassified => "UNCLASSIFIED"

inductive ReconciliationStatus where
  | pass
  | failed
  deriving DecidableEq

inductive InvestigationPriority where
  | low
  | medium
  | high
  | critical
  deriving DecidableEq

inductive InvestigationStatus where
  | «open»
  | investigating
  | resolved
  | closed
  deriving DecidableEq

structure ProviderToleranceConfig where
  provider : String
  absoluteTolerance : ℚ := 5
  percentageTolerance : ℚ := 1/2
  currency : String := "USD"
  finalisationLagDays : ℕ := 3
  absolute_nonneg : 0 ≤ absoluteTolerance := by norm_num
  percentage_nonneg : 0 ≤ percentageTolerance := by norm_num
  currency_code : currency.length = 3 := by decide

structure RunReconciliationRequest where
  billingPeriod : String
  provider : String
  scopeId : String
  providerAuthoritativeTotal : ℚ
  currency : String := "USD"
  bypassLagCheck : Bool := false
  unallocatedCredits : ℚ := 0
  assessedTaxes : ℚ := 0
  unlinkedScopes : List String := []
  unrecognisedCharges : ℚ := 0
  rateMismatchAmount : ℚ := 0
  isSyncInFlight : Bool := false
  period_length : billingPeriod.length = 7 := by decide
  provider_nonempty : provider ≠ "" := by decide
  scope_nonempty : scopeId ≠ "" := by decide
  currency_code : currency.length = 3 := by decide
  amounts_nonneg : 0 ≤ providerAuthoritativeTotal ∧ 0 ≤ unallocatedCredits ∧ 0 ≤ assessedTaxes ∧
    0 ≤ unrecognisedCharges ∧ 0 ≤ rateMismatchAmount := by norm_num

structure ReconciliationInvestigationItem where
  id : String
  reportId : String
  tenantId : String
  provider : String
  scopeId : String
  billingPeriod : String
  platformTotal : ℚ
  providerTotal : ℚ
  varianceAmount : ℚ
  percentageVariance : ℚ
  classification : VarianceClassification
  priority : InvestigationPriority
  status : InvestigationStatus
  createdAt : Timestamp
  resolvedAt : Option Timestamp
  notes : String
  deriving DecidableEq

structure ReconciliationReport where
  id : String
  tenantId : String
  provider : String
  billingPeriod : String
  scopeId : String
  reconciledAt : Timestamp
  platformTotal : ℚ
  providerTotal : ℚ
  absoluteVariance : ℚ
  signedVariance : ℚ
  percentageVariance : ℚ
  status : ReconciliationStatus
  classification : VarianceClassification
  classificationDetails : String
  framingStatement : String
  toleranceConfig : ProviderToleranceConfig
  investigationItemId : Option String
  currency : String
  sourceSystem : String

inductive ReconciliationError where
  | periodNotClosed (billingPeriod provider : String) (finalisationDate : Timestamp)
  | overflowError
  | cost (e : CostError)
  | undefinedColumn
  | attributeError
  deriving DecidableEq

structure SeverityBands where
  criticalPct : ℚ
  criticalAmount : ℚ
  highPct : ℚ
  highAmount : ℚ

def seededSeverityBands : SeverityBands := ⟨5,1000,1,100⟩

/-- The master data may replace the tolerances and the bands, but never drops the default tolerance. -/
structure ReconciliationEngine where
  tolerances : Table String ProviderToleranceConfig
  severityBands : String → SeverityBands
  hasDefault : (tolerances.lookup "default").isSome

def defaultProviderTolerances : Table String ProviderToleranceConfig :=
  (((((∅ : Table String ProviderToleranceConfig).insert "aws" { provider := "aws" }).insert
    "azure" { provider := "azure" }).insert "gcp" { provider := "gcp", finalisationLagDays := 4 }).insert
    "oci" { provider := "oci", finalisationLagDays := 2 }).insert "default" { provider := "default" }

def ReconciliationEngine.standard : ReconciliationEngine :=
  ⟨defaultProviderTolerances,fun _ => seededSeverityBands,by decide⟩

theorem lookup_insert_default (tolerances : Table String ProviderToleranceConfig) (key : String)
    (config : ProviderToleranceConfig) (present : (tolerances.lookup "default").isSome) :
    ((tolerances.insert key config).lookup "default").isSome := by
  by_cases same : key = "default"
  · subst same
    simp
  · rw [AList.lookup_insert_ne (Ne.symm same)]
    exact present

def setProviderTolerance (config : ProviderToleranceConfig) (engine : ReconciliationEngine) : ReconciliationEngine :=
  { engine with
    tolerances := engine.tolerances.insert (Text.lower config.provider) config
    hasDefault := lookup_insert_default engine.tolerances (Text.lower config.provider) config engine.hasDefault }

def getProviderTolerance (engine : ReconciliationEngine) (provider : String) : ProviderToleranceConfig :=
  (engine.tolerances.lookup (Text.lower provider)).getD ((engine.tolerances.lookup "default").get engine.hasDefault)

/-- A period that does not read as a year and a month raises a value error, which the caller swallows. -/
def periodClose (period : String) : Option Timestamp :=
  match Text.splitOn '-' period.toList with
  | [year, month] =>
    match Text.parseInt year, Text.parseInt month with
    | some y, some m => (Date.of? y.toNat m.toNat 1).map (fun first => ⟨first.lastOfMonth,86399⟩)
    | _, _ => none
  | _ => none

def verifyPeriodFinalisation (period : String) (tolerance : ProviderToleranceConfig) (now : Timestamp) :
    Except ReconciliationError Unit :=
  match periodClose period with
  | none => .ok ()
  | some close =>
    match close.date.addDays tolerance.finalisationLagDays with
    | none => .error .overflowError
    | some final =>
      if now.Before ⟨final,close.seconds⟩ then .error (.periodNotClosed period tolerance.provider ⟨final,close.seconds⟩)
      else .ok ()

def lagGuard (engine : ReconciliationEngine) (request : RunReconciliationRequest) (now : Timestamp) :
    Except ReconciliationError Unit :=
  if request.bypassLagCheck then .ok ()
  else verifyPeriodFinalisation request.billingPeriod (getProviderTolerance engine (Text.lower request.provider)) now

def ofProvider (provider : String) (f : CostFact) : Bool := Text.lower f.provider = Text.lower provider

/-- Facts of other providers stand in when none of the facts read is of the requested one. -/
def providerFacts (provider : String) (facts : List CostFact) : List CostFact :=
  match facts.filter (ofProvider provider) with
  | [] => facts
  | matched => matched

def percentageVariance (platformTotal providerTotal : ℚ) : ℚ :=
  if providerTotal > 0 then Decimal.roundHalfAway (|platformTotal - providerTotal| / providerTotal * 100 * 10^2) / 10^2
  else if platformTotal = 0 then 0 else 100

def reconcileStatus (tolerance : ProviderToleranceConfig) (platformTotal providerTotal : ℚ) : ReconciliationStatus :=
  if |platformTotal - providerTotal| ≤ tolerance.absoluteTolerance ∨
      percentageVariance platformTotal providerTotal ≤ tolerance.percentageTolerance then .pass
  else .failed

def matchesAmount (tolerance : ProviderToleranceConfig) (absoluteVariance amount : ℚ) : Bool :=
  |absoluteVariance - amount| ≤ tolerance.absoluteTolerance

def classifyVariance (tenant : String) (request : RunReconciliationRequest) (tolerance : ProviderToleranceConfig)
    (status : ReconciliationStatus) (signedVariance : ℚ) (facts : List CostFact) (db : CostDb) :
    VarianceClassification × String :=
  let absoluteVariance := |signedVariance|
  let restatements := (listRestatements tenant request.provider db).filter
    (fun r => r.billingPeriod = request.billingPeriod)
  let totalDelta := (restatements.map CostRestatementRecord.billedDelta).sum
  let basisDelta := |measureTotal CostFact.billedCost facts - measureTotal CostFact.effectiveCost facts|
  if status = .pass then
    (.withinTolerance, "Variance is within provider tolerance of " ++ Decimal.fixed2 tolerance.absoluteTolerance ++ " " ++
      tolerance.currency ++ " or " ++ Decimal.fixed2 tolerance.percentageTolerance ++ "%.")
  else if request.isSyncInFlight then
    (.dataFreshnessGap, "Delta billing sync is currently in flight or provider lag has not finalized.")
  else if request.unlinkedScopes ≠ [] then
    (.missingScope, "Provider authoritative invoice references unlinked or unregistered scopes: [" ++
      String.intercalate ", " request.unlinkedScopes ++ "].")
  else if restatements ≠ [] ∧ matchesAmount tolerance absoluteVariance |totalDelta| then
    (.restatement, "Variance aligns with retroactive provider restatement audit records (" ++
      toString restatements.length ++ " restatements detected).")
  else if request.unallocatedCredits > 0 ∧ matchesAmount tolerance absoluteVariance request.unallocatedCredits then
    (.credit, "Variance matches invoice-level credit of " ++ Decimal.fixed2 request.unallocatedCredits ++ " " ++
      request.currency ++ " not present in usage rows.")
  else if request.assessedTaxes > 0 ∧ matchesAmount tolerance absoluteVariance request.assessedTaxes then
    (.tax, "Variance matches invoice assessed jurisdictional tax of " ++ Decimal.fixed2 request.assessedTaxes ++ " " ++
      request.currency ++ ".")
  else if request.unrecognisedCharges > 0 then
    (.unrecognisedCharge, "Provider invoice includes uncatalogued charges or SKU mismatches totaling " ++
      Decimal.fixed2 request.unrecognisedCharges ++ " " ++ request.currency ++ ".")
  else if request.rateMismatchAmount > 0 then
    (.pricingMismatch, "Rate card contract discrepancy detected totaling " ++
      Decimal.fixed2 request.rateMismatchAmount ++ " " ++ request.currency ++ ".")
  else if basisDelta > 0 ∧ matchesAmount tolerance absoluteVariance basisDelta then
    (.amortisationBasisDifference, "Variance is attributable to presentation basis difference (Billed vs Amortised delta of " ++
      Decimal.fixed2 basisDelta ++ " " ++ request.currency ++ ").")
  else
    (.unclassified, "Unclassified discrepancy of " ++ Decimal.signedFixed2 signedVariance ++ " " ++ request.currency ++
      " requires auditor investigation.")

def composeFramingStatement (request : RunReconciliationRequest) (platformTotal : ℚ)
    (classification : VarianceClassification) : String :=
  "Reconciliation comparison for billing period " ++ request.billingPeriod ++ " (Scope: " ++ request.scopeId ++
    ", Provider: " ++ Text.upper request.provider ++ "): Platform normalised FOCUS total is " ++
    Decimal.fixed2 platformTotal ++ " " ++ request.currency ++ "; Provider authoritative billed total is " ++
    Decimal.fixed2 request.providerAuthoritativeTotal ++ " " ++ request.currency ++ ". Reconciliation variance is " ++
    Decimal.signedFixed2 (platformTotal - request.providerAuthoritativeTotal) ++ " " ++ request.currency ++ " (" ++
    Decimal.fixed2 (percentageVariance platformTotal request.providerAuthoritativeTotal) ++ "%). Classification: " ++
    classification.value ++
    ". Both figures are recorded objectively as reported without presumption of inaccuracy."

structure ReconciliationContext where
  tenantId : String
  now : Timestamp
  reportToken : String
  itemToken : String

def investigationPriority (bands : SeverityBands) (percentage amount : ℚ) : InvestigationPriority :=
  if percentage ≥ bands.criticalPct ∨ amount ≥ bands.criticalAmount then .critical
  else if percentage ≥ bands.highPct ∨ amount ≥ bands.highAmount then .high
  else .medium

def createInvestigationItem (engine : ReconciliationEngine) (ctx : ReconciliationContext)
    (request : RunReconciliationRequest) (reportId : String) (platformTotal : ℚ)
    (classification : VarianceClassification) : ReconciliationInvestigationItem :=
  let providerTotal := request.providerAuthoritativeTotal
  let varianceAmount := |platformTotal - providerTotal|
  let percentage := percentageVariance platformTotal providerTotal
  { id := "inv-" ++ ctx.tenantId ++ "-" ++ ctx.itemToken
    reportId := reportId
    tenantId := ctx.tenantId
    provider := request.provider
    scopeId := request.scopeId
    billingPeriod := request.billingPeriod
    platformTotal := roundCurrency platformTotal
    providerTotal := roundCurrency providerTotal
    varianceAmount := roundCurrency varianceAmount
    percentageVariance := percentage
    classification := classification
    priority := investigationPriority (engine.severityBands ctx.tenantId) percentage varianceAmount
    status := .open
    createdAt := ctx.now
    resolvedAt := none
    notes := "Automated investigation raised for " ++ Text.upper request.provider ++ " in period " ++ request.billingPeriod ++
      ". Variance of " ++ Decimal.fixed2 varianceAmount ++ " " ++ request.currency ++ " (" ++ Decimal.fixed2 percentage ++
      "%) exceeds configured tolerance. Initial classification: " ++ classification.value ++ "." }

structure InvestigationRow where
  reportId : String
  tenantId : String
  provider : String
  scopeId : String
  billingPeriod : String
  status : InvestigationStatus
  priority : InvestigationPriority
  varianceAmount : ℚ
  percentageVariance : ℚ
  itemPayload : ReconciliationInvestigationItem
  createdAt : Timestamp
  deriving DecidableEq

abbrev Investigations : Type := Table String InvestigationRow

structure ReconciliationRepository (Store : Type) where
  save : String → ReconciliationReport → Store → Except ReconciliationError (Store × ReconciliationReport)
  saveInvestigationItem : String → ReconciliationInvestigationItem → Store → Except ReconciliationError Store

/-- The insert of an item names the columns `item_payload` and `updated_at`, which
its table does not have; the insert of a report reads a variance the report has not. -/
def sqlRepository (Store : Type) : ReconciliationRepository Store :=
  ⟨fun _ _ _ => .error .attributeError,fun _ _ _ => .error .undefinedColumn⟩

def reconcile (engine : ReconciliationEngine) (ctx : ReconciliationContext) (request : RunReconciliationRequest)
    (facts : List CostFact) (db : CostDb) : ReconciliationReport × Option ReconciliationInvestigationItem :=
  let tolerance := getProviderTolerance engine (Text.lower request.provider)
  let matched := providerFacts request.provider facts
  let platformTotal := measureTotal CostFact.billedCost matched
  let providerTotal := request.providerAuthoritativeTotal
  let status := reconcileStatus tolerance platformTotal providerTotal
  let classified := classifyVariance ctx.tenantId request tolerance status (platformTotal - providerTotal) matched db
  let reportId := "recon-" ++ ctx.tenantId ++ "-" ++ Text.lower request.provider ++ "-" ++ request.billingPeriod ++ "-" ++
    ctx.reportToken
  let raised := if status = .failed then
      some (createInvestigationItem engine ctx request reportId platformTotal classified.1)
    else none
  ({ id := reportId
     tenantId := ctx.tenantId
     provider := request.provider
     billingPeriod := request.billingPeriod
     scopeId := request.scopeId
     reconciledAt := ctx.now
     platformTotal := roundCurrency platformTotal
     providerTotal := roundCurrency providerTotal
     absoluteVariance := roundCurrency |platformTotal - providerTotal|
     signedVariance := roundCurrency (platformTotal - providerTotal)
     percentageVariance := percentageVariance platformTotal providerTotal
     status := status
     classification := classified.1
     classificationDetails := classified.2
     framingStatement := composeFramingStatement request platformTotal classified.1
     toleranceConfig := tolerance
     investigationItemId := raised.map ReconciliationInvestigationItem.id
     currency := request.currency
     sourceSystem := "reconciliation-engine-" ++ Text.lower request.provider }, raised)

def saveRaised {Store : Type} (repository : ReconciliationRepository Store) (tenant : String)
    (raised : Option ReconciliationInvestigationItem) (store : Store) : Except ReconciliationError Store :=
  match raised with
  | some item => repository.saveInvestigationItem tenant item store
  | none => .ok store

def saveReport {Store : Type} (repository : ReconciliationRepository Store) (tenant : String) (report : ReconciliationReport)
    (store : Store) : Store × Except ReconciliationError ReconciliationReport :=
  match repository.save tenant report store with
  | .ok (saved, returned) => (saved, .ok returned)
  | .error e => (store, .error e)

section Run

variable {Store : Type} (repository : ReconciliationRepository Store) (engine : ReconciliationEngine)

def runReconciliation (ctx : ReconciliationContext) (request : RunReconciliationRequest) (db : CostDb) (store : Store) :
    Store × Except ReconciliationError ReconciliationReport :=
  match lagGuard engine request ctx.now with
  | .error e => (store, .error e)
  | .ok _ =>
    match getAllFacts ctx.tenantId request.billingPeriod request.scopeId db with
    | .error e => (store, .error (.cost e))
    | .ok facts =>
      let outcome := reconcile engine ctx request facts db
      match saveRaised repository ctx.tenantId outcome.2 store with
      | .error e => (store, .error e)
      | .ok held => saveReport repository ctx.tenantId outcome.1 held

theorem reconcileStatus_pass_iff (tolerance : ProviderToleranceConfig) (platformTotal providerTotal : ℚ) :
    reconcileStatus tolerance platformTotal providerTotal = .pass ↔
      |platformTotal - providerTotal| ≤ tolerance.absoluteTolerance ∨
        percentageVariance platformTotal providerTotal ≤ tolerance.percentageTolerance := by
  unfold reconcileStatus
  split <;> simp_all

theorem providerFacts_of_some {provider : String} {facts : List CostFact}
    (present : ∃ f ∈ facts, ofProvider provider f) : providerFacts provider facts = facts.filter (ofProvider provider) := by
  obtain ⟨f,member,same⟩ := present
  have kept : f ∈ facts.filter (ofProvider provider) := List.mem_filter.mpr ⟨member,same⟩
  unfold providerFacts
  split
  · rename_i none
    rw [none] at kept
    cases kept
  · rfl

theorem providerFacts_of_none {provider : String} {facts : List CostFact}
    (absent : ∀ f ∈ facts, ofProvider provider f = false) : providerFacts provider facts = facts := by
  have none : facts.filter (ofProvider provider) = [] := by
    apply List.filter_eq_nil_iff.mpr
    intro f member same
    rw [absent f member] at same
    cases same
  rw [providerFacts,none]

def billedBy (provider : String) (facts : List CostFact) : ℚ :=
  measureTotal CostFact.billedCost (facts.filter (ofProvider provider))

/-- The total that is compared: the facts of the provider, or all facts where none is of it. -/
def comparedTotal (provider : String) (facts : List CostFact) : ℚ :=
  measureTotal CostFact.billedCost (providerFacts provider facts)

/-- The report compares the facts of the requested provider, and an item that names
it is stored iff it fails. -/
structure ComparesLikeWithLike (ctx : ReconciliationContext) (request : RunReconciliationRequest) (facts : List CostFact)
    (db : CostDb) (store : Store) : Prop where
  total : (reconcile engine ctx request facts db).1.platformTotal = billedBy request.provider facts
  passes : (reconcile engine ctx request facts db).1.status = .pass ↔
    |billedBy request.provider facts - request.providerAuthoritativeTotal| ≤
        (getProviderTolerance engine (Text.lower request.provider)).absoluteTolerance ∨
      percentageVariance (billedBy request.provider facts) request.providerAuthoritativeTotal ≤
        (getProviderTolerance engine (Text.lower request.provider)).percentageTolerance
  raised : (reconcile engine ctx request facts db).1.status = .failed ↔
    ∃ item, (reconcile engine ctx request facts db).2 = some item ∧
      item.reportId = (reconcile engine ctx request facts db).1.id
  stored : ∃ held, saveRaised repository ctx.tenantId (reconcile engine ctx request facts db).2 store = .ok held ∧
    runReconciliation repository engine ctx request db store =
      saveReport repository ctx.tenantId (reconcile engine ctx request facts db).1 held

structure LikeComparable (ctx : ReconciliationContext) (request : RunReconciliationRequest) (facts : List CostFact)
    (db : CostDb) (store : Store) : Prop where
  own : (∃ f ∈ facts, ofProvider request.provider f) → Decimal.AtScale 2 (billedBy request.provider facts)
  generic : (∀ f ∈ facts, ofProvider request.provider f = false) →
    roundCurrency (measureTotal CostFact.billedCost facts) = 0 ∧
      reconcileStatus (getProviderTolerance engine (Text.lower request.provider)) (measureTotal CostFact.billedCost facts)
          request.providerAuthoritativeTotal =
        reconcileStatus (getProviderTolerance engine (Text.lower request.provider)) 0 request.providerAuthoritativeTotal
  taken : ∀ item, (reconcile engine ctx request facts db).2 = some item →
    ∃ held, repository.saveInvestigationItem ctx.tenantId item store = .ok held

variable {ctx : ReconciliationContext} {request : RunReconciliationRequest} {facts : List CostFact} {db : CostDb} {store : Store}

theorem reconcile_status : (reconcile engine ctx request facts db).1.status =
    reconcileStatus (getProviderTolerance engine (Text.lower request.provider)) (comparedTotal request.provider facts)
      request.providerAuthoritativeTotal := rfl

theorem reconcile_raised : (reconcile engine ctx request facts db).1.status = .failed ↔
    ∃ item, (reconcile engine ctx request facts db).2 = some item ∧
      item.reportId = (reconcile engine ctx request facts db).1.id := by
  rw [reconcile_status]
  simp only [reconcile]
  split
  · rename_i failed
    exact ⟨fun _ => ⟨_,rfl,rfl⟩,fun _ => failed⟩
  · rename_i passed
    simp [comparedTotal,passed]

theorem comparedTotal_eq (provider : String) (facts : List CostFact) :
    ((∃ f ∈ facts, ofProvider provider f) ∧ comparedTotal provider facts = billedBy provider facts) ∨
      ((∀ f ∈ facts, ofProvider provider f = false) ∧ billedBy provider facts = 0 ∧
        comparedTotal provider facts = measureTotal CostFact.billedCost facts) := by
  by_cases present : ∃ f ∈ facts, ofProvider provider f
  · refine Or.inl ⟨present,?_⟩
    rw [comparedTotal,providerFacts_of_some present,billedBy]
  · have absent : ∀ f ∈ facts, ofProvider provider f = false := by simpa using present
    have none : facts.filter (ofProvider provider) = [] := List.filter_eq_nil_iff.mpr (by simpa using absent)
    refine Or.inr ⟨absent,?_,?_⟩
    · rw [billedBy,none]
      rfl
    · rw [comparedTotal,providerFacts_of_none absent]

theorem status_agrees_iff {own : ReconciliationStatus} {tolerance : ProviderToleranceConfig} {platformTotal providerTotal : ℚ} :
    (own = .pass ↔ |platformTotal - providerTotal| ≤ tolerance.absoluteTolerance ∨
      percentageVariance platformTotal providerTotal ≤ tolerance.percentageTolerance) ↔
      own = reconcileStatus tolerance platformTotal providerTotal := by
  rw [← reconcileStatus_pass_iff]
  cases own <;> cases reconcileStatus tolerance platformTotal providerTotal <;> simp

theorem saveRaised_ok_iff {raised : Option ReconciliationInvestigationItem} :
    (∃ held, saveRaised repository ctx.tenantId raised store = .ok held) ↔
      ∀ item, raised = some item → ∃ held, repository.saveInvestigationItem ctx.tenantId item store = .ok held := by
  cases raised with
  | none => simp [saveRaised]
  | some item => simp [saveRaised]

theorem runReconciliation_of_read (finalised : lagGuard engine request ctx.now = .ok ())
    (read : getAllFacts ctx.tenantId request.billingPeriod request.scopeId db = .ok facts) {held : Store}
    (kept : saveRaised repository ctx.tenantId (reconcile engine ctx request facts db).2 store = .ok held) :
    runReconciliation repository engine ctx request db store =
      saveReport repository ctx.tenantId (reconcile engine ctx request facts db).1 held := by
  simp only [runReconciliation,finalised,read,kept]

/-- A reconciliation that passes its guard compares like with like exactly when
the provider has facts whose total is whole cents, or has none and all the facts
together come to nothing, and the repository takes the item of a failure. -/
theorem reconciliation_compares_iff (finalised : lagGuard engine request ctx.now = .ok ())
    (read : getAllFacts ctx.tenantId request.billingPeriod request.scopeId db = .ok facts) (store : Store) :
    ComparesLikeWithLike repository engine ctx request facts db store ↔
      LikeComparable repository engine ctx request facts db store := by
  have total : (reconcile engine ctx request facts db).1.platformTotal = roundCurrency (comparedTotal request.provider facts) := rfl
  have cents : roundCurrency (billedBy request.provider facts) = billedBy request.provider facts ↔
      Decimal.AtScale 2 (billedBy request.provider facts) := by
    constructor
    · intro same
      rw [← same]
      exact Decimal.quantize_atScale 2 _
    · exact Decimal.quantize_of_atScale
  constructor
  · rintro ⟨same,passes,_,held,kept,_⟩
    rw [status_agrees_iff,reconcile_status] at passes
    rw [total] at same
    rcases comparedTotal_eq request.provider facts with ⟨⟨f,member,own⟩,compared⟩ | ⟨absent,nothing,compared⟩
    · rw [compared,cents] at same
      refine ⟨fun _ => same,?_,(saveRaised_ok_iff repository).mp ⟨held,kept⟩⟩
      intro absent
      rw [absent f member] at own
      cases own
    · rw [compared,nothing] at same passes
      refine ⟨?_,fun _ => ⟨same,passes⟩,(saveRaised_ok_iff repository).mp ⟨held,kept⟩⟩
      rw [nothing]
      exact fun _ => ⟨0,by norm_num⟩
  · rintro ⟨own,generic,taken⟩
    obtain ⟨held,kept⟩ := (saveRaised_ok_iff repository).mpr taken
    have ran := runReconciliation_of_read repository engine finalised read kept
    refine ⟨?_,?_,reconcile_raised engine,held,kept,ran⟩
    · rw [total]
      rcases comparedTotal_eq request.provider facts with ⟨present,compared⟩ | ⟨absent,nothing,compared⟩
      · rw [compared]
        exact cents.mpr (own present)
      · rw [compared,nothing]
        exact (generic absent).1
    · rw [status_agrees_iff,reconcile_status]
      rcases comparedTotal_eq request.provider facts with ⟨present,compared⟩ | ⟨absent,nothing,compared⟩
      · rw [compared]
      · rw [compared,nothing]
        exact (generic absent).2

end Run

def inMemoryRepository : ReconciliationRepository (List ReconciliationInvestigationItem × List ReconciliationReport) where
  save := fun _ report store => .ok ((store.1, report :: store.2), report)
  saveInvestigationItem := fun _ item store => .ok (item :: store.1, store.2)

def reconciliationNoon : ReconciliationContext := ⟨"t-1",⟨⟨2026,5,1,by decide⟩,43200⟩,"0000000a","0000000b"⟩

def awsInvoice : RunReconciliationRequest :=
  { billingPeriod := "2026-03", provider := "aws", scopeId := "scope-1", providerAuthoritativeTotal := 100 }

def marchStore (facts : List CostFact) : CostDb :=
  { CostDb.empty with costFact := replaceFacts "t-1" march2026 facts ∅ }

def azureCharge : CostFact := usageLine "azure" "f-1" "vm" march2026 100

def awsCharge : CostFact := usageLine "aws" "f-2" "ec2" march2026 40

/-- A charge of azure alone passes for an invoice of aws; the item of a failure
is refused by the SQL repository. -/
theorem azure_charge_passes_as_aws :
    ¬ ComparesLikeWithLike inMemoryRepository .standard reconciliationNoon awsInvoice [azureCharge] (marchStore [azureCharge])
        ([], []) ∧
      ¬ ComparesLikeWithLike (sqlRepository Unit) .standard reconciliationNoon awsInvoice [awsCharge] (marchStore [awsCharge]) () := by
  constructor
  · rintro ⟨total,_⟩
    exact absurd total (by decide +kernel)
  · rintro ⟨_,_,raised,held,kept,_⟩
    obtain ⟨item,named,_⟩ := raised.mp (by decide +kernel)
    rw [named] at kept
    cases kept

/-- Of a charge of aws and one of azure, the invoice of aws is compared with the first. -/
theorem aws_invoice_compared_with_aws :
    ComparesLikeWithLike inMemoryRepository .standard reconciliationNoon awsInvoice [azureCharge, awsCharge]
      (marchStore [awsCharge, azureCharge]) ([], []) := by
  refine (reconciliation_compares_iff inMemoryRepository .standard (by decide +kernel) (by decide +kernel) ([], [])).mpr ⟨?_,?_,?_⟩
  · intro _
    have forty : billedBy awsInvoice.provider [azureCharge, awsCharge] = 40 := by decide +kernel
    exact ⟨4000,by rw [forty]; norm_num⟩
  · intro absent
    exact absurd (absent awsCharge (by simp)) (by decide +kernel)
  · exact fun item _ => ⟨_,rfl⟩

end CloudLens.Cost
