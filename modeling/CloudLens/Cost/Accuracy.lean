import CloudLens.Cost.Reconciliation
import CloudLens.Library.Dict

/-! Estimates against actual billed cost. Estimates are of resources, the actual
cost is grouped by service, so a service with several estimates brings its actual
cost once for each of them. -/
namespace CloudLens.Cost
open Library Library.Calendar

inductive EstimationBias where
  | accurate
  | overEstimated
  | underEstimated
  deriving DecidableEq

structure EstimateInput where
  serviceId : Option String
  resourceId : Option String
  estimatedCost : Option ℚ
  assumptionsSummary : Option String

def EstimateInput.service (est : EstimateInput) : String := est.serviceId.getD "unknown-service"

def EstimateInput.cost (est : EstimateInput) : ℚ := est.estimatedCost.getD 0

structure EstimateVsActualItem where
  id : String
  tenantId : String
  serviceId : String
  resourceId : Option String
  billingPeriod : String
  estimatedCost : ℚ
  actualBilledCost : ℚ
  absoluteError : ℚ
  percentageError : ℚ
  bias : EstimationBias
  assumptionsSummary : Option String
  period_length : billingPeriod.length = 7
  estimated_nonneg : 0 ≤ estimatedCost
  actual_nonneg : 0 ≤ actualBilledCost
  error_nonneg : 0 ≤ absoluteError ∧ 0 ≤ percentageError

structure EstimateVsActualReport where
  id : String
  tenantId : String
  billingPeriod : String
  items : List EstimateVsActualItem
  totalEstimated : ℚ
  totalActual : ℚ
  absoluteErrorTotal : ℚ
  mapePct : ℚ
  overallBias : EstimationBias
  itemsCount : ℕ
  evaluatedAt : Timestamp
  period_length : billingPeriod.length = 7
  totals_nonneg : 0 ≤ totalEstimated ∧ 0 ≤ totalActual
  errors_nonneg : 0 ≤ absoluteErrorTotal ∧ 0 ≤ mapePct

inductive AccuracyError where
  | cost (e : CostError)
  | invalid (fields : List String)
  | notSaved (message : String)
  deriving DecidableEq

structure AccuracyContext where
  tenantId : String
  now : Timestamp
  reportToken : String
  itemToken : ℕ → String

def addActual (actuals : Dict String ℚ) (f : CostFact) : Dict String ℚ :=
  match measureVal f.billedCost with
  | some value => actuals.amend f.serviceId (fun known => known.getD 0 + value)
  | none => actuals

def actualByService (facts : List CostFact) : Dict String ℚ := facts.foldl addActual Dict.empty

def actualCost (actuals : Dict String ℚ) (service : String) : ℚ := (actuals.get service).getD 0

def percentageError (estimated actual : ℚ) : ℚ :=
  if 0 < actual then Decimal.quantizeHalfUp 2 (|estimated - actual| / actual * 100)
  else if estimated = 0 then 0 else 100

def estimationBias (estimated actual : ℚ) : EstimationBias :=
  if actual * (105/100) < estimated then .overEstimated
  else if estimated < actual * (95/100) then .underEstimated
  else .accurate

def refused (valid : Bool) (field : String) : List String := if valid then [] else [field]

def evaluateItem (ctx : AccuracyContext) (period : String) (number : ℕ) (actuals : Dict String ℚ) (est : EstimateInput) :
    Except AccuracyError EstimateVsActualItem :=
  let estimated := roundCurrency est.cost
  let actual := roundCurrency (actualCost actuals est.service)
  let error := roundCurrency |est.cost - actualCost actuals est.service|
  let percentage := percentageError est.cost (actualCost actuals est.service)
  if valid : period.length = 7 ∧ 0 ≤ estimated ∧ 0 ≤ actual ∧ 0 ≤ error ∧ 0 ≤ percentage then
    .ok
      { id := "eva-" ++ ctx.itemToken number
        tenantId := ctx.tenantId
        serviceId := est.service
        resourceId := est.resourceId
        billingPeriod := period
        estimatedCost := estimated
        actualBilledCost := actual
        absoluteError := error
        percentageError := percentage
        bias := estimationBias est.cost (actualCost actuals est.service)
        assumptionsSummary := est.assumptionsSummary
        period_length := valid.1
        estimated_nonneg := valid.2.1
        actual_nonneg := valid.2.2.1
        error_nonneg := valid.2.2.2 }
  else .error (.invalid (refused (period.length = 7) "billing_period" ++ refused (0 ≤ estimated) "estimated_cost" ++
    refused (0 ≤ actual) "actual_billed_cost" ++ refused (0 ≤ error) "absolute_error" ++
    refused (0 ≤ percentage) "percentage_error"))

structure AccuracyTotals where
  items : List EstimateVsActualItem := []
  totalEstimated : ℚ := 0
  totalActual : ℚ := 0
  totalAbsError : ℚ := 0
  percentageErrors : List ℚ := []

def meanError (errors : List ℚ) : ℚ :=
  if errors = [] then 0 else Decimal.quantizeHalfUp 2 (errors.sum / errors.length)

section Evaluate

-- Each item goes to whichever repository the engine was given.
variable (save : EstimateVsActualItem → Except AccuracyError EstimateVsActualItem)

def evaluateStep (ctx : AccuracyContext) (period : String) (actuals : Dict String ℚ) (totals : AccuracyTotals)
    (est : EstimateInput) : Except AccuracyError AccuracyTotals := do
  let item ← evaluateItem ctx period totals.items.length actuals est
  let _ ← save item
  return {
      items := totals.items ++ [item]
      totalEstimated := totals.totalEstimated + est.cost
      totalActual := totals.totalActual + actualCost actuals est.service
      totalAbsError := totals.totalAbsError + |est.cost - actualCost actuals est.service|
      percentageErrors := totals.percentageErrors ++ [item.percentageError] }

def accuracyReport (ctx : AccuracyContext) (period : String) (totals : AccuracyTotals) :
    Except AccuracyError EstimateVsActualReport :=
  let estimated := roundCurrency totals.totalEstimated
  let actual := roundCurrency totals.totalActual
  let error := roundCurrency totals.totalAbsError
  let mape := meanError totals.percentageErrors
  if valid : period.length = 7 ∧ (0 ≤ estimated ∧ 0 ≤ actual) ∧ 0 ≤ error ∧ 0 ≤ mape then
    .ok
      { id := "evar-" ++ ctx.tenantId ++ "-" ++ period ++ "-" ++ ctx.reportToken
        tenantId := ctx.tenantId
        billingPeriod := period
        items := totals.items
        totalEstimated := estimated
        totalActual := actual
        absoluteErrorTotal := error
        mapePct := mape
        overallBias := estimationBias totals.totalEstimated totals.totalActual
        itemsCount := totals.items.length
        evaluatedAt := ctx.now
        period_length := valid.1
        totals_nonneg := valid.2.1
        errors_nonneg := valid.2.2 }
  else .error (.invalid (refused (period.length = 7) "billing_period" ++ refused (0 ≤ estimated) "total_estimated" ++
    refused (0 ≤ actual) "total_actual" ++ refused (0 ≤ error) "absolute_error_total" ++ refused (0 ≤ mape) "mape_pct"))

def evaluateEstimateVsActual (ctx : AccuracyContext) (period : String) (estimates : List EstimateInput) (db : CostDb) :
    Except AccuracyError EstimateVsActualReport := do
  let facts ← (getAllFacts ctx.tenantId period "" db).mapError .cost
  let totals ← estimates.foldlM (evaluateStep save ctx period (actualByService facts)) {}
  accuracyReport ctx period totals

end Evaluate

def serviceActual (facts : List CostFact) (service : String) : ℚ :=
  measureTotal CostFact.billedCost (facts.filter (fun f => f.serviceId = service))

def estimatedServices (estimates : List EstimateInput) : List String := estimates.map EstimateInput.service

def serviceEstimate (estimates : List EstimateInput) (service : String) : ℚ :=
  ((estimates.filter (fun est => est.service = service)).map EstimateInput.cost).sum

def estimatedActual (facts : List CostFact) (estimates : List EstimateInput) : ℚ :=
  measureTotal CostFact.billedCost (facts.filter (fun f => f.serviceId ∈ estimatedServices estimates))

/-- Each fact is in the totals once, to the cent. -/
structure CountsOnce (facts : List CostFact) (estimates : List EstimateInput) (report : EstimateVsActualReport) : Prop where
  actual : report.totalActual = roundCurrency (estimatedActual facts estimates)
  error : (estimatedServices estimates).Nodup → report.absoluteErrorTotal =
    roundCurrency ((estimatedServices estimates).dedup.map
      (fun service => |serviceEstimate estimates service - serviceActual facts service|)).sum

def furtherServices : List String → List String
  | [] => []
  | service :: rest => if service ∈ rest then service :: furtherServices rest else furtherServices rest

/-- What the services with several estimates cost, once for each further estimate. -/
def countedAgain (facts : List CostFact) (estimates : List EstimateInput) : ℚ :=
  ((furtherServices (estimatedServices estimates)).map (serviceActual facts)).sum

/-- What is counted again does not move the total to another cent. -/
def NothingCountedAgain (facts : List CostFact) (estimates : List EstimateInput) : Prop :=
  roundCurrency (estimatedActual facts estimates + countedAgain facts estimates) = roundCurrency (estimatedActual facts estimates)

section Services

variable {facts : List CostFact} {actuals : Dict String ℚ} {service : String}

theorem measureTotal_cons (measure : CostFact → Measure) (f : CostFact) (rest : List CostFact) :
    measureTotal measure (f :: rest) = (measureVal (measure f)).getD 0 + measureTotal measure rest := by
  unfold measureTotal
  cases present : measureVal (measure f) with
  | none =>
    rw [List.filterMap_cons_none (by exact present)]
    exact (zero_add _).symm
  | some value =>
    rw [List.filterMap_cons_some (by exact present),List.sum_cons]
    rfl

theorem actualCost_addActual (actuals : Dict String ℚ) (f : CostFact) (service : String) :
    actualCost (addActual actuals f) service =
      actualCost actuals service + if f.serviceId = service then (measureVal f.billedCost).getD 0 else 0 := by
  unfold addActual actualCost
  cases present : measureVal f.billedCost with
  | none =>
    dsimp only
    split <;> simp
  | some value =>
    dsimp only
    rw [Dict.get_amend]
    by_cases same : service = f.serviceId
    · rw [if_pos same,if_pos same.symm,same]
      rfl
    · rw [if_neg same,if_neg (Ne.symm same),add_zero]

theorem actualCost_foldl (facts : List CostFact) (actuals : Dict String ℚ) (service : String) :
    actualCost (facts.foldl addActual actuals) service = actualCost actuals service + serviceActual facts service := by
  induction facts generalizing actuals with
  | nil => exact (add_zero _).symm
  | cons f rest ih =>
    rw [List.foldl_cons,ih,actualCost_addActual]
    unfold serviceActual
    by_cases same : f.serviceId = service
    · rw [if_pos same,List.filter_cons_of_pos (by simpa using same),measureTotal_cons,add_assoc]
    · rw [if_neg same,List.filter_cons_of_neg (by simpa using same),add_zero]

theorem actualCost_actualByService (facts : List CostFact) (service : String) :
    actualCost (actualByService facts) service = serviceActual facts service :=
  (actualCost_foldl facts Dict.empty service).trans (zero_add _)

theorem measureTotal_insert {services : List String} (absent : service ∉ services) (facts : List CostFact) :
    measureTotal CostFact.billedCost (facts.filter (fun f => f.serviceId ∈ service :: services)) =
      serviceActual facts service + measureTotal CostFact.billedCost (facts.filter (fun f => f.serviceId ∈ services)) := by
  unfold serviceActual
  induction facts with
  | nil => exact (add_zero _).symm
  | cons f rest ih =>
    by_cases here : f.serviceId = service
    · have outside : f.serviceId ∉ services := by rwa [here]
      rw [List.filter_cons_of_pos (by simp [here]),List.filter_cons_of_pos (by simp [here]),
        List.filter_cons_of_neg (by simpa using outside),measureTotal_cons,measureTotal_cons,ih,add_assoc]
    · by_cases inside : f.serviceId ∈ services
      · rw [List.filter_cons_of_pos (by simp [inside]),List.filter_cons_of_neg (by simpa using here),
          List.filter_cons_of_pos (by simpa using inside),measureTotal_cons,measureTotal_cons,ih]
        ring
      · rw [List.filter_cons_of_neg (by simp [here,inside]),List.filter_cons_of_neg (by simpa using here),
          List.filter_cons_of_neg (by simpa using inside),ih]

theorem sum_serviceActual {services : List String} (distinct : services.Nodup) (facts : List CostFact) :
    (services.map (serviceActual facts)).sum =
      measureTotal CostFact.billedCost (facts.filter (fun f => f.serviceId ∈ services)) := by
  induction services with
  | nil => simp [measureTotal]
  | cons service rest ih =>
    obtain ⟨absent,distinct⟩ := List.nodup_cons.mp distinct
    rw [List.map_cons,List.sum_cons,ih distinct,measureTotal_insert absent]

theorem sum_further (value : String → ℚ) (services : List String) :
    (services.map value).sum = (services.dedup.map value).sum + ((furtherServices services).map value).sum := by
  induction services with
  | nil => exact (add_zero _).symm
  | cons service rest ih =>
    rw [List.map_cons,List.sum_cons,ih]
    by_cases again : service ∈ rest
    · rw [List.dedup_cons_of_mem again,furtherServices,if_pos again,List.map_cons,List.sum_cons]
      ring
    · rw [List.dedup_cons_of_notMem again,furtherServices,if_neg again,List.map_cons,List.sum_cons]
      ring

theorem mem_furtherServices_iff {services : List String} : service ∈ furtherServices services ↔ 2 ≤ services.count service := by
  induction services with
  | nil => simp [furtherServices]
  | cons first rest ih =>
    unfold furtherServices
    by_cases same : first = service
    · rw [same,List.count_cons_self]
      by_cases again : service ∈ rest
      · have one := List.count_pos_iff.mpr again
        rw [if_pos again]
        exact ⟨fun _ => by omega,fun _ => List.mem_cons_self⟩
      · have none := List.count_eq_zero.mpr again
        rw [if_neg again,ih,none]
        omega
    · rw [List.count_cons_of_ne same,← ih]
      split
      · rw [List.mem_cons]
        exact ⟨fun either => either.resolve_left (Ne.symm same),Or.inr⟩
      · rfl

theorem sum_estimatedServices (facts : List CostFact) (estimates : List EstimateInput) :
    ((estimatedServices estimates).map (serviceActual facts)).sum =
      estimatedActual facts estimates + countedAgain facts estimates := by
  have once := sum_serviceActual (estimatedServices estimates).nodup_dedup facts
  simp only [List.mem_dedup] at once
  rw [sum_further,once]
  rfl

theorem serviceEstimate_once {estimates : List EstimateInput} (distinct : (estimatedServices estimates).Nodup)
    {est : EstimateInput} (member : est ∈ estimates) : serviceEstimate estimates est.service = est.cost := by
  unfold serviceEstimate
  induction estimates with
  | nil => cases member
  | cons first rest ih =>
    obtain ⟨absent,later⟩ := List.nodup_cons.mp distinct
    rcases List.mem_cons.mp member with rfl | inside
    · have alone : rest.filter (fun other => other.service = est.service) = [] := by
        apply List.filter_eq_nil_iff.mpr
        intro other inside same
        exact absent (List.mem_map.mpr ⟨other,inside,of_decide_eq_true same⟩)
      rw [List.filter_cons_of_pos (by simp),alone]
      exact List.sum_singleton
    · have other : ¬ first.service = est.service :=
        fun same => absent (same ▸ List.mem_map_of_mem inside)
      rw [List.filter_cons_of_neg (by simpa using other)]
      exact ih later inside

theorem sum_errors_once {estimates : List EstimateInput} (distinct : (estimatedServices estimates).Nodup) (facts : List CostFact) :
    ((estimatedServices estimates).dedup.map (fun service => |serviceEstimate estimates service - serviceActual facts service|)).sum =
      (estimates.map (fun est => |est.cost - serviceActual facts est.service|)).sum := by
  rw [List.dedup_eq_self.mpr distinct,estimatedServices,List.map_map]
  apply congrArg
  apply List.map_congr_left
  intro est member
  exact congrArg (fun cost => |cost - serviceActual facts est.service|) (serviceEstimate_once distinct member)

end Services

section Run

variable {save : EstimateVsActualItem → Except AccuracyError EstimateVsActualItem} {ctx : AccuracyContext} {period : String}
  {actuals : Dict String ℚ} {estimates : List EstimateInput} {est : EstimateInput}

theorem evaluateItem_actual {number : ℕ} {item : EstimateVsActualItem}
    (evaluated : evaluateItem ctx period number actuals est = .ok item) : 0 ≤ roundCurrency (actualCost actuals est.service) := by
  unfold evaluateItem at evaluated
  dsimp only at evaluated
  split at evaluated
  · rename_i valid
    exact valid.2.2.1
  · cases evaluated

theorem evaluateStep_adds {totals next : AccuracyTotals} (stepped : evaluateStep save ctx period actuals totals est = .ok next) :
    next.totalActual = totals.totalActual + actualCost actuals est.service ∧
      next.totalAbsError = totals.totalAbsError + |est.cost - actualCost actuals est.service| ∧
      0 ≤ roundCurrency (actualCost actuals est.service) := by
  unfold evaluateStep at stepped
  cases evaluated : evaluateItem ctx period totals.items.length actuals est with
  | error e =>
    rw [evaluated] at stepped
    cases stepped
  | ok item =>
    rw [evaluated] at stepped
    cases saved : save item with
    | error e =>
      simp only [bind,Except.bind,saved] at stepped
      cases stepped
    | ok stored =>
      simp only [bind,Except.bind,saved] at stepped
      cases stepped
      exact ⟨rfl,rfl,evaluateItem_actual evaluated⟩

theorem evaluateSteps_add {totals last : AccuracyTotals}
    (stepped : estimates.foldlM (evaluateStep save ctx period actuals) totals = .ok last) :
    last.totalActual = totals.totalActual + (estimates.map (fun est => actualCost actuals est.service)).sum ∧
      last.totalAbsError = totals.totalAbsError +
        (estimates.map (fun est => |est.cost - actualCost actuals est.service|)).sum ∧
      ∀ est ∈ estimates, 0 ≤ roundCurrency (actualCost actuals est.service) := by
  induction estimates generalizing totals with
  | nil =>
    cases stepped
    exact ⟨(add_zero _).symm,(add_zero _).symm,nofun⟩
  | cons est rest ih =>
    rw [List.foldlM_cons] at stepped
    cases first : evaluateStep save ctx period actuals totals est with
    | error e =>
      rw [first] at stepped
      cases stepped
    | ok next =>
      rw [first] at stepped
      obtain ⟨actual,error,nonneg⟩ := evaluateStep_adds first
      obtain ⟨restActual,restError,restNonneg⟩ := ih stepped
      rw [actual] at restActual
      rw [error] at restError
      refine ⟨restActual.trans ?_,restError.trans ?_,List.forall_mem_cons.mpr ⟨nonneg,restNonneg⟩⟩
      · rw [List.map_cons,List.sum_cons,add_assoc]
      · rw [List.map_cons,List.sum_cons,add_assoc]

theorem evaluation_totals {facts : List CostFact} {db : CostDb} {report : EstimateVsActualReport}
    (read : getAllFacts ctx.tenantId period "" db = .ok facts)
    (returned : evaluateEstimateVsActual save ctx period estimates db = .ok report) :
    report.totalActual = roundCurrency ((estimatedServices estimates).map (serviceActual facts)).sum ∧
      report.absoluteErrorTotal = roundCurrency (estimates.map (fun est => |est.cost - serviceActual facts est.service|)).sum ∧
      ∀ service ∈ estimatedServices estimates, 0 ≤ roundCurrency (serviceActual facts service) := by
  unfold evaluateEstimateVsActual at returned
  rw [read] at returned
  cases stepped : estimates.foldlM (evaluateStep save ctx period (actualByService facts)) {} with
  | error e =>
    simp only [Except.mapError,bind,Except.bind,stepped] at returned
    cases returned
  | ok totals =>
    simp only [Except.mapError,bind,Except.bind,stepped] at returned
    obtain ⟨actual,error,nonneg⟩ := evaluateSteps_add stepped
    simp only [actualCost_actualByService] at actual error nonneg
    unfold accuracyReport at returned
    dsimp only at returned
    split at returned
    · cases returned
      rw [estimatedServices,List.map_map]
      refine ⟨congrArg roundCurrency (actual.trans (zero_add _)),congrArg roundCurrency (error.trans (zero_add _)),?_⟩
      intro service member
      obtain ⟨est,inside,rfl⟩ := List.mem_map.mp member
      exact nonneg est inside
    · cases returned

end Run

section Once

variable {facts : List CostFact} {estimates : List EstimateInput}

def WholeCents (facts : List CostFact) : Prop := ∀ f ∈ facts, Decimal.AtScale 2 ((measureVal f.billedCost).getD 0)

theorem measureTotal_wholeCents (whole : WholeCents facts) (select : CostFact → Bool) :
    Decimal.AtScale 2 (measureTotal CostFact.billedCost (facts.filter select)) := by
  induction facts with
  | nil => exact ⟨0,by simp [measureTotal]⟩
  | cons f rest ih =>
    obtain ⟨first,later⟩ := List.forall_mem_cons.mp whole
    by_cases selected : select f = true
    · rw [List.filter_cons_of_pos selected,measureTotal_cons]
      exact first.add (ih later)
    · rw [List.filter_cons_of_neg selected]
      exact ih later

theorem countedAgain_wholeCents (whole : WholeCents facts) (services : List String) :
    Decimal.AtScale 2 (services.map (serviceActual facts)).sum := by
  induction services with
  | nil => exact ⟨0,by simp⟩
  | cons service rest ih =>
    rw [List.map_cons,List.sum_cons]
    exact (measureTotal_wholeCents whole _).add ih

theorem furtherServices_subset {service : String} {services : List String} (further : service ∈ furtherServices services) :
    service ∈ services :=
  List.count_pos_iff.mp (lt_of_lt_of_le Nat.two_pos (mem_furtherServices_iff.mp further))

theorem nothingCountedAgain_wholeCents_iff (whole : WholeCents facts)
    (nonneg : ∀ service ∈ estimatedServices estimates, 0 ≤ roundCurrency (serviceActual facts service)) :
    NothingCountedAgain facts estimates ↔
      ∀ service, 2 ≤ (estimatedServices estimates).count service → serviceActual facts service = 0 := by
  have once : Decimal.AtScale 2 (estimatedActual facts estimates) := measureTotal_wholeCents whole _
  have again : Decimal.AtScale 2 (countedAgain facts estimates) := countedAgain_wholeCents whole _
  have bounded : ∀ amount ∈ (furtherServices (estimatedServices estimates)).map (serviceActual facts), 0 ≤ amount := by
    intro amount member
    obtain ⟨service,further,rfl⟩ := List.mem_map.mp member
    have start := nonneg service (furtherServices_subset further)
    have cents : Decimal.AtScale 2 (serviceActual facts service) := measureTotal_wholeCents whole _
    rwa [roundCurrency,Decimal.quantize_of_atScale cents] at start
  unfold NothingCountedAgain roundCurrency
  rw [Decimal.quantize_of_atScale (once.add again),Decimal.quantize_of_atScale once,add_eq_left,countedAgain]
  constructor
  · intro nothing service twice
    have further := List.mem_map_of_mem (f := serviceActual facts) (mem_furtherServices_iff.mpr twice)
    exact List.all_zero_of_le_zero_le_of_sum_eq_zero bounded nothing further
  · intro nothing
    apply List.sum_eq_zero
    intro amount member
    obtain ⟨service,further,rfl⟩ := List.mem_map.mp member
    exact nothing service (mem_furtherServices_iff.mp further)

/-- For every list of estimates and every period that is evaluated: the report
counts each fact once exactly when what the services with several estimates cost,
once for each further estimate, does not move the total to another cent. Where
costs are whole cents that is when these services cost nothing. -/
theorem actuals_counted_once_iff (save : EstimateVsActualItem → Except AccuracyError EstimateVsActualItem) (ctx : AccuracyContext)
    (period : String) (estimates : List EstimateInput) (db : CostDb) (facts : List CostFact) (report : EstimateVsActualReport)
    (read : getAllFacts ctx.tenantId period "" db = .ok facts)
    (returned : evaluateEstimateVsActual save ctx period estimates db = .ok report) :
    (CountsOnce facts estimates report ↔ NothingCountedAgain facts estimates) ∧
      (WholeCents facts → (NothingCountedAgain facts estimates ↔
        ∀ service, 2 ≤ (estimatedServices estimates).count service → serviceActual facts service = 0)) := by
  obtain ⟨actual,error,nonneg⟩ := evaluation_totals read returned
  rw [sum_estimatedServices] at actual
  refine ⟨?_,fun whole => nothingCountedAgain_wholeCents_iff whole nonneg⟩
  constructor
  · intro once
    exact actual.symm.trans once.actual
  · intro nothing
    refine ⟨actual.trans nothing,?_⟩
    intro distinct
    rw [error,sum_errors_once distinct]

end Once

def accuracyNoon : AccuracyContext := ⟨"t-1",⟨march2026,43200⟩,"0000000a",fun number => "000000000" ++ toString number⟩

def ec2Charge : CostFact := usageLine "aws" "f-1" "ec2" march2026 100

def ec2Estimate (resourceId : String) (estimatedCost : ℚ) : EstimateInput := ⟨some "ec2",some resourceId,some estimatedCost,none⟩

theorem report_of_total {evaluated : Except AccuracyError EstimateVsActualReport} {total : ℚ}
    (value : (evaluated.map EstimateVsActualReport.totalActual).toOption = some total) :
    ∃ report, evaluated = .ok report ∧ report.totalActual = total := by
  cases evaluated with
  | error e => cases value
  | ok report => exact ⟨report,rfl,Option.some.inj value⟩

def s3Charge : CostFact := usageLine "aws" "f-2" "s3" march2026 30

def iamCharge : CostFact := usageLine "aws" "f-3" "iam" march2026 0

def marchCharges : List CostFact := [ec2Charge, s3Charge, iamCharge]

def servicesEstimated : List EstimateInput :=
  [ec2Estimate "i-1" 90, ⟨some "s3",some "b-1",some 35,none⟩, ⟨some "iam",some "r-1",some 1,none⟩, ⟨some "iam",some "r-2",some 2,none⟩]

/-- Three services, the one with two estimates for free. -/
theorem services_counted_once :
    ∃ report, evaluateEstimateVsActual .ok accuracyNoon "2026-03" servicesEstimated (marchStore marchCharges.reverse) = .ok report ∧
      report.totalActual = 130 ∧ CountsOnce marchCharges servicesEstimated report := by
  have total : ((evaluateEstimateVsActual .ok accuracyNoon "2026-03" servicesEstimated (marchStore marchCharges.reverse)).map
      EstimateVsActualReport.totalActual).toOption = some 130 := by decide +kernel
  have read : getAllFacts accuracyNoon.tenantId "2026-03" "" (marchStore marchCharges.reverse) = .ok marchCharges := by decide +kernel
  obtain ⟨report,returned,actual⟩ := report_of_total total
  have counted := (actuals_counted_once_iff _ _ _ _ _ _ report read returned).1
  exact ⟨report,returned,actual,counted.mpr (by unfold NothingCountedAgain; decide +kernel)⟩

/-- Two estimates of one service: its hundred dollars are counted twice. -/
theorem two_estimates_double_actual :
    ∃ report, evaluateEstimateVsActual .ok accuracyNoon "2026-03" [ec2Estimate "i-1" 50, ec2Estimate "i-2" 50]
        (marchStore [ec2Charge]) = .ok report ∧
      report.totalActual = 200 ∧ ¬ CountsOnce [ec2Charge] [ec2Estimate "i-1" 50, ec2Estimate "i-2" 50] report := by
  have total : ((evaluateEstimateVsActual .ok accuracyNoon "2026-03" [ec2Estimate "i-1" 50, ec2Estimate "i-2" 50]
      (marchStore [ec2Charge])).map EstimateVsActualReport.totalActual).toOption = some 200 := by decide +kernel
  obtain ⟨report,returned,doubled⟩ := report_of_total total
  refine ⟨report,returned,doubled,?_⟩
  intro once
  have hundred : roundCurrency (estimatedActual [ec2Charge] [ec2Estimate "i-1" 50, ec2Estimate "i-2" 50]) = 100 := by decide +kernel
  have actual := once.actual
  rw [doubled,hundred] at actual
  exact absurd actual (by norm_num)

end CloudLens.Cost
