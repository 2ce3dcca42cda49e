import CloudLens.Cost.Reconciliation
import CloudLens.Library.Dict
import CloudLens.Library.Ranking

/-! The executive trust indicator. It reads the newest thousand reconciliation
reports of the tenant and scores them by spend, or by number where the spend is
not positive. Every stored report is counted exactly when there are no more than
that and the provider totals do not add up to a negative amount. -/
namespace CloudLens.Cost
open Library Library.Calendar

inductive ExecutiveTrustStatus where
  | excellent
  | healthy
  | needsAttention
  deriving DecidableEq

structure ReportRow where
  tenantId : String
  createdAt : Instant
  report : ReconciliationReport
  variance_nonneg : 0 ≤ report.absoluteVariance

abbrev ReportOrder : Type := Descending ReportRow.createdAt

def ReportRow.ofTenant (tenant : String) (row : ReportRow) : Bool := row.tenantId = tenant

def listReports (order : ReportOrder) (rows : List ReportRow) (tenant : String) (limit offset : ℕ) : List ReconciliationReport :=
  (((order.sort (rows.filter (ReportRow.ofTenant tenant))).drop offset).take limit).map ReportRow.report

structure ProviderStats where
  totalSpend : ℚ := 0
  totalVariance : ℚ := 0
  passCount : ℕ := 0
  failCount : ℕ := 0
  deriving DecidableEq

structure TrustTotals where
  totalSpend : ℚ := 0
  totalVariance : ℚ := 0
  passCount : ℕ := 0
  failCount : ℕ := 0
  lastTimestamp : Option Timestamp := none
  providerStats : Dict String ProviderStats := Dict.empty

def ProviderStats.count (stats : ProviderStats) (r : ReconciliationReport) : ProviderStats where
  totalSpend := stats.totalSpend + r.providerTotal
  totalVariance := stats.totalVariance + r.absoluteVariance
  passCount := if r.status = .pass then stats.passCount + 1 else stats.passCount
  failCount := if r.status = .pass then stats.failCount else stats.failCount + 1

def later (last : Option Timestamp) (reconciledAt : Timestamp) : Timestamp :=
  match last with
  | none => reconciledAt
  | some timestamp => if timestamp.Before reconciledAt then reconciledAt else timestamp

def TrustTotals.count (totals : TrustTotals) (r : ReconciliationReport) : TrustTotals where
  totalSpend := totals.totalSpend + r.providerTotal
  totalVariance := totals.totalVariance + r.absoluteVariance
  passCount := if r.status = .pass then totals.passCount + 1 else totals.passCount
  failCount := if r.status = .pass then totals.failCount else totals.failCount + 1
  lastTimestamp := some (later totals.lastTimestamp r.reconciledAt)
  providerStats := totals.providerStats.amend (Text.lower r.provider) (fun stats => (stats.getD {}).count r)

def trustTotals (reports : List ReconciliationReport) : TrustTotals := reports.foldl TrustTotals.count {}

def trustScore (totals : TrustTotals) (totalReports : ℕ) : ℚ :=
  if 0 < totals.totalSpend then
    Decimal.quantizeHalfUp 2 (max 0 (100 - totals.totalVariance / totals.totalSpend * 100))
  else if 0 < totalReports then Decimal.quantizeHalfUp 2 ((totals.passCount / totalReports : ℚ) * 100)
  else 100

def healthStatus (score : ℚ) (failCount : ℕ) : ExecutiveTrustStatus :=
  if 995/10 ≤ score ∧ failCount = 0 then .excellent
  else if 98 ≤ score then .healthy
  else .needsAttention

structure ExecutiveTrustIndicator where
  tenantId : String
  trustScorePct : ℚ
  status : ExecutiveTrustStatus
  totalSpendEvaluated : ℚ
  totalVarianceEvaluated : ℚ
  periodsEvaluatedCount : ℕ
  reconciliationPassCount : ℕ
  reconciliationFailCount : ℕ
  activeInvestigationsCount : ℕ
  lastReconciliationTimestamp : Option Timestamp
  providerBreakdowns : Dict String ProviderStats
  isSuppressed : Bool
  score_bounds : 0 ≤ trustScorePct ∧ trustScorePct ≤ 100
  spend_nonneg : 0 ≤ totalSpendEvaluated
  variance_nonneg : 0 ≤ totalVarianceEvaluated

/-- The fields that the model of the indicator refuses. -/
inductive TrustError where
  | invalid (fields : List String)
  deriving DecidableEq

def indicatorErrors (score spend variance : ℚ) : List String :=
  (if 0 ≤ score ∧ score ≤ 100 then [] else ["trust_score_pct"]) ++ (if 0 ≤ spend then [] else ["total_spend_evaluated"]) ++
    (if 0 ≤ variance then [] else ["total_variance_evaluated"])

def openInvestigations (table : Investigations) (tenant : String) : ℕ :=
  table.countWhere (fun _ row => row.tenantId = tenant && row.status = .open)

def indicatorOf (tenant : String) (reports : List ReconciliationReport) (activeInvestigations : ℕ) :
    Except TrustError ExecutiveTrustIndicator :=
  let totals := trustTotals reports
  let score := trustScore totals reports.length
  let spend := roundCurrency totals.totalSpend
  let variance := roundCurrency totals.totalVariance
  if valid : (0 ≤ score ∧ score ≤ 100) ∧ 0 ≤ spend ∧ 0 ≤ variance then
    .ok
      { tenantId := tenant
        trustScorePct := score
        status := healthStatus score totals.failCount
        totalSpendEvaluated := spend
        totalVarianceEvaluated := variance
        periodsEvaluatedCount := reports.length
        reconciliationPassCount := totals.passCount
        reconciliationFailCount := totals.failCount
        activeInvestigationsCount := activeInvestigations
        lastReconciliationTimestamp := totals.lastTimestamp
        providerBreakdowns := totals.providerStats
        isSuppressed := false
        score_bounds := valid.1
        spend_nonneg := valid.2.1
        variance_nonneg := valid.2.2 }
  else .error (.invalid (indicatorErrors score spend variance))

def computeExecutiveTrustIndicator (order : ReportOrder) (rows : List ReportRow) (investigations : Investigations)
    (tenant : String) : Except TrustError ExecutiveTrustIndicator :=
  indicatorOf tenant (listReports order rows tenant 1000 0) (openInvestigations investigations tenant)

def tenantReports (rows : List ReportRow) (tenant : String) : List ReconciliationReport :=
  (rows.filter (ReportRow.ofTenant tenant)).map ReportRow.report

def isFailed (r : ReconciliationReport) : Bool := r.status = .failed

structure NothingSuppressed (rows : List ReportRow) (tenant : String) (indicator : ExecutiveTrustIndicator) : Prop where
  failures : indicator.reconciliationFailCount = (tenantReports rows tenant).countP isFailed
  periods : indicator.periodsEvaluatedCount = (tenantReports rows tenant).length
  score : 0 ≤ indicator.trustScorePct ∧ indicator.trustScorePct ≤ 100
  excellent : indicator.status = .excellent → ∀ r ∈ tenantReports rows tenant, r.status ≠ .failed

def spendOf (reports : List ReconciliationReport) : ℚ := (reports.map ReconciliationReport.providerTotal).sum

section Totals

variable {reports : List ReconciliationReport}

theorem count_totals (totals : TrustTotals) (reports : List ReconciliationReport) :
    (reports.foldl TrustTotals.count totals).totalSpend = totals.totalSpend + spendOf reports ∧
      (reports.foldl TrustTotals.count totals).totalVariance =
        totals.totalVariance + (reports.map ReconciliationReport.absoluteVariance).sum ∧
      (reports.foldl TrustTotals.count totals).failCount = totals.failCount + reports.countP isFailed ∧
      (reports.foldl TrustTotals.count totals).passCount + (reports.foldl TrustTotals.count totals).failCount =
        totals.passCount + totals.failCount + reports.length := by
  induction reports generalizing totals with
  | nil => simp [spendOf]
  | cons r rest ih =>
    obtain ⟨spend,variance,failures,both⟩ := ih (totals.count r)
    rw [List.foldl_cons,both,spend,variance,failures]
    unfold TrustTotals.count spendOf
    rw [List.map_cons,List.sum_cons,List.map_cons,List.sum_cons,List.countP_cons,List.length_cons]
    cases outcome : r.status with
    | pass =>
      simp only [isFailed,outcome,reduceCtorEq,decide_false,Bool.false_eq_true,if_false,if_true]
      refine ⟨by ring,by ring,by omega,by omega⟩
    | failed =>
      simp only [isFailed,outcome,reduceCtorEq,decide_true,if_false,if_true]
      refine ⟨by ring,by ring,by omega,by omega⟩

theorem trustTotals_spend (reports : List ReconciliationReport) : (trustTotals reports).totalSpend = spendOf reports :=
  (count_totals {} reports).1.trans (zero_add _)

theorem trustTotals_variance (reports : List ReconciliationReport) :
    (trustTotals reports).totalVariance = (reports.map ReconciliationReport.absoluteVariance).sum :=
  (count_totals {} reports).2.1.trans (zero_add _)

theorem trustTotals_failures (reports : List ReconciliationReport) : (trustTotals reports).failCount = reports.countP isFailed :=
  (count_totals {} reports).2.2.1.trans (Nat.zero_add _)

theorem trustTotals_passes (reports : List ReconciliationReport) : (trustTotals reports).passCount ≤ reports.length := by
  have both := (count_totals {} reports).2.2.2
  unfold trustTotals
  dsimp only at both
  omega

theorem trustTotals_variance_nonneg (nonneg : ∀ r ∈ reports, 0 ≤ r.absoluteVariance) : 0 ≤ (trustTotals reports).totalVariance := by
  rw [trustTotals_variance]
  apply List.sum_nonneg
  intro variance member
  obtain ⟨r,inside,rfl⟩ := List.mem_map.mp member
  exact nonneg r inside

theorem hundred_score {x : ℚ} (start : 0 ≤ x) (below : x ≤ 100) :
    0 ≤ Decimal.quantizeHalfUp 2 x ∧ Decimal.quantizeHalfUp 2 x ≤ 100 := by
  have bounded : x ≤ ((100:ℤ) : ℚ) := by exact_mod_cast below
  have between := @Decimal.quantizeHalfUp_between 2 x 100 start bounded
  exact_mod_cast between

theorem trustScore_bounds (nonneg : ∀ r ∈ reports, 0 ≤ r.absoluteVariance) :
    0 ≤ trustScore (trustTotals reports) reports.length ∧ trustScore (trustTotals reports) reports.length ≤ 100 := by
  have variance := trustTotals_variance_nonneg nonneg
  have passes : ((trustTotals reports).passCount : ℚ) ≤ reports.length := by exact_mod_cast trustTotals_passes reports
  unfold trustScore
  split_ifs with spent counted
  · apply hundred_score (le_max_left _ _)
    have lost := mul_nonneg (div_nonneg variance spent.le) (by norm_num : (0:ℚ) ≤ 100)
    exact max_le (by norm_num) (by linarith)
  · have positive : (0:ℚ) < reports.length := by exact_mod_cast counted
    have ratio := (div_le_one positive).mpr passes
    exact hundred_score (by positivity) (by linarith)
  · norm_num

end Totals

section Indicator

variable {reports : List ReconciliationReport} {tenant : String} {activeInvestigations : ℕ} {indicator : ExecutiveTrustIndicator}

theorem indicatorOf_counts (computed : indicatorOf tenant reports activeInvestigations = .ok indicator) :
    indicator.reconciliationFailCount = reports.countP isFailed ∧ indicator.periodsEvaluatedCount = reports.length ∧
      (indicator.status = .excellent → reports.countP isFailed = 0) := by
  unfold indicatorOf at computed
  dsimp only at computed
  split at computed
  · cases computed
    refine ⟨trustTotals_failures reports,rfl,?_⟩
    intro excellent
    rw [← trustTotals_failures]
    unfold healthStatus at excellent
    dsimp only at excellent
    split at excellent
    · rename_i reached
      exact reached.2
    · split at excellent
      · cases excellent
      · cases excellent
  · cases computed

theorem indicatorOf_ok_iff (nonneg : ∀ r ∈ reports, 0 ≤ r.absoluteVariance) :
    (∃ indicator, indicatorOf tenant reports activeInvestigations = .ok indicator) ↔ 0 ≤ roundCurrency (spendOf reports) := by
  have score := trustScore_bounds nonneg
  have variance : 0 ≤ roundCurrency (trustTotals reports).totalVariance :=
    Decimal.quantize_nonneg (trustTotals_variance_nonneg nonneg)
  unfold indicatorOf
  dsimp only
  constructor
  · rintro ⟨indicator,computed⟩
    split at computed
    · rename_i valid
      rw [← trustTotals_spend]
      exact valid.2.1
    · cases computed
  · intro spend
    rw [← trustTotals_spend] at spend
    rw [dif_pos ⟨score,spend,variance⟩]
    exact ⟨_,rfl⟩

end Indicator

section Page

variable {order : ReportOrder} {rows : List ReportRow} {investigations : Investigations} {tenant : String}

theorem listReports_nonneg {limit offset : ℕ} : ∀ r ∈ listReports order rows tenant limit offset, 0 ≤ r.absoluteVariance := by
  intro r member
  obtain ⟨row,_,rfl⟩ := List.mem_map.mp member
  exact row.variance_nonneg

theorem listReports_perm {limit : ℕ} (short : (tenantReports rows tenant).length ≤ limit) :
    (listReports order rows tenant limit 0).Perm (tenantReports rows tenant) := by
  rw [tenantReports,List.length_map] at short
  exact (order.take_perm short).map ReportRow.report

theorem listReports_length (limit : ℕ) :
    (listReports order rows tenant limit 0).length = min limit (tenantReports rows tenant).length := by
  unfold listReports tenantReports
  rw [List.length_map,List.length_map,List.length_take,List.drop_zero,(order.perm _).length_eq]

/-- For every stored history and every order of reports of the same time: the
indicator is returned with every report and every failure counted exactly when
the tenant has at most a thousand reports and their provider totals do not round
to a negative amount. -/
theorem trust_indicator_complete_iff (order : ReportOrder) (rows : List ReportRow) (investigations : Investigations)
    (tenant : String) :
    (∃ indicator, computeExecutiveTrustIndicator order rows investigations tenant = .ok indicator ∧
        NothingSuppressed rows tenant indicator) ↔
      (tenantReports rows tenant).length ≤ 1000 ∧ 0 ≤ roundCurrency (spendOf (tenantReports rows tenant)) := by
  have nonneg : ∀ r ∈ listReports order rows tenant 1000 0, 0 ≤ r.absoluteVariance := listReports_nonneg
  have returns : (∃ indicator, computeExecutiveTrustIndicator order rows investigations tenant = .ok indicator) ↔
      0 ≤ roundCurrency (spendOf (listReports order rows tenant 1000 0)) := indicatorOf_ok_iff nonneg
  constructor
  · rintro ⟨indicator,computed,complete⟩
    have counted := (indicatorOf_counts computed).2.1
    rw [complete.periods,listReports_length] at counted
    have short : (tenantReports rows tenant).length ≤ 1000 := by omega
    have spend := returns.mp ⟨indicator,computed⟩
    have same : spendOf (listReports order rows tenant 1000 0) = spendOf (tenantReports rows tenant) :=
      ((listReports_perm short).map _).sum_eq
    rw [same] at spend
    exact ⟨short,spend⟩
  · rintro ⟨short,spend⟩
    have page : (listReports order rows tenant 1000 0).Perm (tenantReports rows tenant) := listReports_perm short
    have same : spendOf (listReports order rows tenant 1000 0) = spendOf (tenantReports rows tenant) := (page.map _).sum_eq
    rw [← same] at spend
    obtain ⟨indicator,computed⟩ := returns.mpr spend
    obtain ⟨failures,periods,excellent⟩ := indicatorOf_counts computed
    rw [page.countP_eq isFailed] at failures excellent
    rw [page.length_eq] at periods
    refine ⟨indicator,computed,failures,periods,indicator.score_bounds,?_⟩
    intro reached r member failed
    exact List.countP_eq_zero.mp (excellent reached) r member (decide_eq_true failed)

end Page

theorem absoluteDefault_nonneg : (0:ℚ) ≤ 5 := by norm_num

theorem percentageDefault_nonneg : (0:ℚ) ≤ 1/2 := by norm_num

def exactReport (id : String) (status : ReconciliationStatus) : ReconciliationReport where
  id := id
  tenantId := "tenant-1"
  provider := "aws"
  billingPeriod := "2026-03"
  scopeId := "scope-1"
  reconciledAt := ⟨march2026,0⟩
  platformTotal := 100
  providerTotal := 100
  absoluteVariance := 0
  signedVariance := 0
  percentageVariance := 0
  status := status
  classification := .withinTolerance
  classificationDetails := ""
  framingStatement := ""
  toleranceConfig :=
    { provider := "aws"
      absolute_nonneg := absoluteDefault_nonneg
      percentage_nonneg := percentageDefault_nonneg
      currency_code := dollars_length }
  investigationItemId := none
  currency := "USD"
  sourceSystem := "reconciliation-engine-aws"

def exactRow (id : String) (createdAt : Instant) (status : ReconciliationStatus) : ReportRow :=
  ⟨"tenant-1",createdAt,exactReport id status,le_refl 0⟩

def oldFailure (passes : ℕ) : List ReportRow := List.replicate passes (exactRow "pass" 1 .pass) ++ [exactRow "failed" 0 .failed]

theorem oldFailure_page (passes : ℕ) :
    listReports .stable (oldFailure passes) "tenant-1" passes 0 = List.replicate passes (exactReport "pass" .pass) := by
  have whole : (oldFailure passes).filter (ReportRow.ofTenant "tenant-1") = oldFailure passes := by
    apply List.filter_eq_self.mpr
    intro row member
    rcases List.mem_append.mp member with pass | failed
    · rw [List.eq_of_mem_replicate pass]
      rfl
    · rw [List.mem_singleton.mp failed]
      rfl
  have ordered : (oldFailure passes).Pairwise (Descending.NotBelow ReportRow.createdAt) := by
    refine List.pairwise_append.mpr ⟨List.pairwise_replicate.mpr (Or.inr (le_refl (1:ℤ))),List.pairwise_singleton _ _,?_⟩
    intro pass passed failed last
    rw [List.eq_of_mem_replicate passed,List.mem_singleton.mp last]
    exact Int.zero_le_ofNat 1
  have sorted : (Descending.stable : Descending ReportRow.createdAt).sort (oldFailure passes) = oldFailure passes :=
    ordered.insertionSort_eq
  unfold listReports
  rw [whole,sorted,List.drop_zero,oldFailure,List.take_left' List.length_replicate]
  exact List.map_replicate

theorem excellent_of_exact {tenant : String} {reports : List ReconciliationReport} {activeInvestigations : ℕ}
    {indicator : ExecutiveTrustIndicator} (spent : 0 < spendOf reports)
    (exact : (reports.map ReconciliationReport.absoluteVariance).sum = 0) (passed : reports.countP isFailed = 0)
    (computed : indicatorOf tenant reports activeInvestigations = .ok indicator) : indicator.status = .excellent := by
  have full : trustScore (trustTotals reports) reports.length = 100 := by
    unfold trustScore
    rw [trustTotals_spend,trustTotals_variance,exact,if_pos spent,zero_div,zero_mul,sub_zero]
    decide +kernel
  unfold indicatorOf at computed
  dsimp only at computed
  split at computed
  · cases computed
    dsimp only
    rw [full,trustTotals_failures,passed]
    exact if_pos ⟨by norm_num,rfl⟩
  · cases computed

/-- The indicator over a thousand passes is EXCELLENT and counts no failure, though an older report failed. -/
theorem old_failure_suppressed :
    (∃ indicator, computeExecutiveTrustIndicator .stable (oldFailure 1000) ∅ "tenant-1" = .ok indicator ∧
        indicator.status = .excellent ∧ indicator.reconciliationFailCount = 0 ∧ indicator.periodsEvaluatedCount = 1000) ∧
      ¬ ∃ indicator, computeExecutiveTrustIndicator .stable (oldFailure 1000) ∅ "tenant-1" = .ok indicator ∧
        NothingSuppressed (oldFailure 1000) "tenant-1" indicator := by
  have spent : spendOf (List.replicate 1000 (exactReport "pass" .pass)) = 100000 := by
    unfold spendOf
    rw [List.map_replicate,List.sum_replicate]
    norm_num [exactReport]
  have passed : (List.replicate 1000 (exactReport "pass" .pass)).countP isFailed = 0 := by
    apply List.countP_eq_zero.mpr
    intro r member
    rw [List.eq_of_mem_replicate member]
    decide
  have exact : ((List.replicate 1000 (exactReport "pass" .pass)).map ReconciliationReport.absoluteVariance).sum = 0 := by
    rw [List.map_replicate,List.sum_replicate]
    exact nsmul_zero 1000
  have known : exactReport "failed" .failed ∈ tenantReports (oldFailure 1000) "tenant-1" := by
    apply List.mem_map.mpr
    exact ⟨exactRow "failed" 0 .failed,List.mem_filter.mpr ⟨List.mem_append_right _ List.mem_cons_self,rfl⟩,rfl⟩
  unfold computeExecutiveTrustIndicator
  rw [oldFailure_page 1000]
  constructor
  · have nonneg : ∀ r ∈ List.replicate 1000 (exactReport "pass" .pass), 0 ≤ r.absoluteVariance := by
      intro r member
      rw [List.eq_of_mem_replicate member]
      exact le_refl 0
    have spend : 0 ≤ roundCurrency (spendOf (List.replicate 1000 (exactReport "pass" .pass))) := by
      rw [spent]
      exact Decimal.quantize_nonneg (by norm_num)
    obtain ⟨indicator,computed⟩ := (indicatorOf_ok_iff nonneg).mpr spend
    obtain ⟨failures,periods,_⟩ := indicatorOf_counts computed
    refine ⟨indicator,computed,?_,failures.trans passed,periods.trans List.length_replicate⟩
    exact excellent_of_exact (by rw [spent]; norm_num) exact passed computed
  · rintro ⟨indicator,computed,complete⟩
    have none := complete.failures.symm.trans ((indicatorOf_counts computed).1.trans passed)
    exact absurd rfl (List.countP_eq_zero.mp none (exactReport "failed" .failed) known)

end CloudLens.Cost
