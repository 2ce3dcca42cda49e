import CloudLens.Budgets.Calendar
import CloudLens.Budgets.Model
import CloudLens.Library.Days
import CloudLens.Library.Decimal
import CloudLens.Thresholds.Model

/-! The evaluation of a budget: how much of it is used and will be used, the state
that its thresholds give it, and the day on which it will be spent. The loop over
the thresholds keeps one percentage for each band, the last one, and the days to
the breach are cut down to a whole number. -/
namespace CloudLens.Budgets
open Library Library.Calendar
open Thresholds (ThresholdState)

structure BudgetThreshold where
  percentage : ℚ
  band : String := "WARNING"
  positive : 0 < percentage

structure EvaluatedBudget extends BudgetEntity where
  period : BudgetPeriod
  thresholds : List BudgetThreshold
  forecastThreshold : Option ℚ := some 100

def EvaluatedBudget.span (budget : EvaluatedBudget) : BudgetSpan := ⟨budget.period,budget.effectiveDate,budget.expiryDate⟩

structure BudgetEvaluationResult where
  actualSpend : ℚ
  actualUtilisation : ℚ
  forecastSpend : ℚ
  forecastUtilisation : ℚ
  variance : ℚ
  variancePct : ℚ
  state : ThresholdState
  stateColor : String
  isBreached : Bool
  isEffective : Bool
  periodStart : Date
  periodEnd : Date
  predictedBreachDate : Option Date

structure BandPercentages where
  warningPct : ℚ
  highPct : ℚ
  criticalPct : ℚ

def BudgetThreshold.severity (t : BudgetThreshold) : Option ThresholdState :=
  let band := Text.upper t.band
  if band = "WARNING" ∨ band = "AMBER" then some .warning
  else if band = "HIGH" ∨ band = "ORANGE" then some .high
  else if band = "CRITICAL" ∨ band = "RED" then some .critical
  else none

def BandPercentages.take (kept : BandPercentages) (t : BudgetThreshold) : BandPercentages :=
  match t.severity with
  | some .warning => { kept with warningPct := t.percentage }
  | some .high => { kept with highPct := t.percentage }
  | some .critical => { kept with criticalPct := t.percentage }
  | _ => kept

def bandPercentages (thresholds : List BudgetThreshold) : BandPercentages := thresholds.foldl .take ⟨80,90,100⟩

def percentOf (amount spend : ℚ) : ℚ := if 0 < amount then Decimal.quantize 2 (spend / amount * 100) else 0

def daysBetween (first second : Date) : ℤ := (second.ordinal : ℤ) - first.ordinal

def velocity (periodStart evalDate : Date) (spend : ℚ) : ℚ :=
  let elapsedDays := max 1 (daysBetween periodStart evalDate + 1)
  spend / elapsedDays

def forecastSpend (window : Date × Date) (evalDate : Date) (spend : ℚ) : ℚ :=
  let remainingDays := max 0 (daysBetween evalDate window.2)
  Decimal.quantize 2 (spend + velocity window.1 evalDate spend * remainingDays)

/-- An absent forecast threshold and one of zero raise no alert. -/
def forecastAlert (forecastThreshold : Option ℚ) (forecastUtil : ℚ) : Bool :=
  forecastThreshold.any fun pct => pct ≠ 0 && pct ≤ forecastUtil

def thresholdState (kept : BandPercentages) (actualUtil : ℚ) (alert : Bool) : ThresholdState :=
  if kept.criticalPct ≤ actualUtil then .critical
  else if kept.highPct ≤ actualUtil then .high
  else if kept.warningPct ≤ actualUtil then .warning
  else if alert then .warning
  else .normal

/-- Nothing where the candidate leaves the calendar. -/
def predictBreach (amount : ℚ) (window : Date × Date) (evalDate : Date) (spend : ℚ) : Option (Option Date) :=
  let rate := velocity window.1 evalDate spend
  if 0 < rate ∧ spend < amount then
    -- the quotient is positive, so cutting it off is its floor
    let daysToBreach := ⌊(amount - spend) / rate⌋.toNat
    (evalDate.addDays daysToBreach).map fun candidateDate => if candidateDate ≤ window.2 then some candidateDate else none
  else some none

def EvaluatedBudget.notEffective (budget : EvaluatedBudget) (window : Date × Date) : BudgetEvaluationResult where
  actualSpend := 0
  actualUtilisation := 0
  forecastSpend := 0
  forecastUtilisation := 0
  variance := budget.amount
  variancePct := 0
  state := .informational
  stateColor := ThresholdState.informational.getColorHex
  isBreached := false
  isEffective := false
  periodStart := window.1
  periodEnd := window.2
  predictedBreachDate := none

def EvaluatedBudget.alert (budget : EvaluatedBudget) (window : Date × Date) (evalDate : Date) (spend : ℚ) : Bool :=
  forecastAlert budget.forecastThreshold (percentOf budget.amount (forecastSpend window evalDate spend))

def EvaluatedBudget.effective (budget : EvaluatedBudget) (window : Date × Date) (evalDate : Date) (spend : ℚ)
    (predictedBreachDate : Option Date) : BudgetEvaluationResult :=
  let actualUtil := percentOf budget.amount spend
  let forecast := forecastSpend window evalDate spend
  let kept := bandPercentages budget.thresholds
  let state := thresholdState kept actualUtil (budget.alert window evalDate spend)
  { actualSpend := spend
    actualUtilisation := actualUtil
    forecastSpend := forecast
    forecastUtilisation := percentOf budget.amount forecast
    variance := Decimal.quantize 2 (budget.amount - spend)
    variancePct := percentOf budget.amount (spend - budget.amount)
    state := state
    stateColor := state.getColorHex
    isBreached := thresholdState kept actualUtil false ≠ .normal
    isEffective := true
    periodStart := window.1
    periodEnd := window.2
    predictedBreachDate := predictedBreachDate }

def evaluate (record : Option FiscalCalendar) (budget : EvaluatedBudget) (evalDate : Date) (actualSpend : Option ℚ) :
    Option BudgetEvaluationResult :=
  (resolvePeriodBounds record budget.span evalDate).bind fun window =>
    if evalDate < budget.effectiveDate then some (budget.notEffective window)
    else
      let spend := actualSpend.getD 0
      (predictBreach budget.amount window evalDate spend).map (budget.effective window evalDate spend)

def severityRank : ThresholdState → ℕ
  | .critical => 3
  | .high => 2
  | .warning => 1
  | _ => 0

/-- At the rate of the period so far the budget is spent on this day, which is after the
evaluation and not after the period. -/
def Breaches (amount : ℚ) (window : Date × Date) (evalDate : Date) (spend : ℚ) (d : Date) : Prop :=
  evalDate < d ∧ d ≤ window.2 ∧ amount ≤ spend + velocity window.1 evalDate spend * daysBetween evalDate d

/-- The evaluation of a spend: every threshold that is reached is reported, more spend
never lowers the state, the order of the thresholds does not matter, and the day of the
breach is the first one. -/
structure EvaluatedExactly (record : Option FiscalCalendar) (budget : EvaluatedBudget) (evalDate : Date) (spend : ℚ) : Prop where
  returned : ∃ result, evaluate record budget evalDate (some spend) = some result
  reported : ∀ result, evaluate record budget evalDate (some spend) = some result → ∀ t ∈ budget.thresholds,
    ∀ band ∈ t.severity, t.percentage ≤ result.actualUtilisation → severityRank band ≤ severityRank result.state
  monotone : ∀ more ≥ spend, ∀ result later, evaluate record budget evalDate (some spend) = some result →
    evaluate record budget evalDate (some more) = some later → severityRank result.state ≤ severityRank later.state
  orderless : ∀ listed : List BudgetThreshold, listed.Perm budget.thresholds →
    ∀ result, evaluate record budget evalDate (some spend) = some result →
      ∃ other, evaluate record { budget with thresholds := listed } evalDate (some spend) = some other ∧ other.state = result.state
  predicted : spend < budget.amount → ∀ result, evaluate record budget evalDate (some spend) = some result →
    ∀ d, result.predictedBreachDate = some d ↔
      Breaches budget.amount (result.periodStart, result.periodEnd) evalDate spend d ∧
        ∀ other, Breaches budget.amount (result.periodStart, result.periodEnd) evalDate spend other → d ≤ other
  absent : spend < budget.amount → ∀ result, evaluate record budget evalDate (some spend) = some result →
    (result.predictedBreachDate = none ↔
      ∀ d, ¬ Breaches budget.amount (result.periodStart, result.periodEnd) evalDate spend d)

def percentagesOf (thresholds : List BudgetThreshold) (band : ThresholdState) (default : ℚ) : List ℚ :=
  let own := (thresholds.filter fun t => t.severity = some band).map BudgetThreshold.percentage
  if own = [] then [default] else own

/-- Of the most severe band that has a percentage reached, all are reached; for the
warnings the forecast alert will do as well. -/
structure ThresholdsAgree (thresholds : List BudgetThreshold) (util : ℚ) (alert : Bool) : Prop where
  critical : (∃ pct ∈ percentagesOf thresholds .critical 100, pct ≤ util) →
    ∀ pct ∈ percentagesOf thresholds .critical 100, pct ≤ util
  high : (∀ pct ∈ percentagesOf thresholds .critical 100, util < pct) →
    (∃ pct ∈ percentagesOf thresholds .high 90, pct ≤ util) → ∀ pct ∈ percentagesOf thresholds .high 90, pct ≤ util
  warning : (∀ pct ∈ percentagesOf thresholds .critical 100, util < pct) →
    (∀ pct ∈ percentagesOf thresholds .high 90, util < pct) →
    (∃ pct ∈ percentagesOf thresholds .warning 80, pct ≤ util) →
      alert = true ∨ ∀ pct ∈ percentagesOf thresholds .warning 80, pct ≤ util

/-- The budget is spent after a whole number of days within the period, or at some time
after the period but before the last day of the calendar; or it is not being spent. -/
def BreachDated (amount : ℚ) (window : Date × Date) (evalDate : Date) (spend : ℚ) : Prop :=
  let rate := velocity window.1 evalDate spend
  spend = 0 ∨ (∃ n : ℕ, (amount - spend) / rate = n ∧ evalDate.ordinal + n ≤ window.2.ordinal) ∨
    ((window.2.ordinal : ℤ) < evalDate.ordinal + ⌊(amount - spend) / rate⌋ ∧
      evalDate.ordinal + ⌊(amount - spend) / rate⌋ ≤ (Date.lastOrdinal : ℤ))

def lastPercentage (band : ThresholdState) (default : ℚ) (thresholds : List BudgetThreshold) : ℚ :=
  thresholds.foldl (fun pct t => if t.severity = some band then t.percentage else pct) default

variable {thresholds listed : List BudgetThreshold} {band : ThresholdState} {default : ℚ}

theorem foldl_take (kept : BandPercentages) : thresholds.foldl .take kept =
    ⟨lastPercentage .warning kept.warningPct thresholds,lastPercentage .high kept.highPct thresholds,
      lastPercentage .critical kept.criticalPct thresholds⟩ := by
  induction thresholds generalizing kept with
  | nil => rfl
  | cons t rest ih =>
    rw [List.foldl_cons,ih]
    unfold BandPercentages.take lastPercentage
    simp only [List.foldl_cons]
    cases t.severity with
    | none => rfl
    | some band => cases band <;> rfl

theorem lastPercentage_mem (band : ThresholdState) (default : ℚ) (listed : List BudgetThreshold) :
    lastPercentage band default listed ∈ percentagesOf listed band default := by
  induction listed using List.reverseRecOn with
  | nil => exact List.mem_singleton_self _
  | append_singleton front t ih =>
    unfold lastPercentage percentagesOf at ih ⊢
    rw [List.foldl_append,List.filter_append,List.map_append]
    by_cases same : t.severity = some band
    · simp [same]
    · simpa [same] using ih

theorem percentagesOf_perm (same : listed.Perm thresholds) :
    (percentagesOf listed band default).Perm (percentagesOf thresholds band default) := by
  have own := (same.filter fun t => t.severity = some band).map BudgetThreshold.percentage
  unfold percentagesOf
  by_cases absent : (thresholds.filter fun t => t.severity = some band).map BudgetThreshold.percentage = []
  · rw [absent] at own
    simp only [own.eq_nil,absent,if_true]
    exact .refl _
  · have present : (listed.filter fun t => t.severity = some band).map BudgetThreshold.percentage ≠ [] := by
      intro none
      rw [none] at own
      exact absent own.symm.eq_nil
    simp only [present,absent,if_false]
    exact own

theorem exists_listed {pct : ℚ} (member : pct ∈ percentagesOf thresholds band default) :
    ∃ listed : List BudgetThreshold, listed.Perm thresholds ∧ lastPercentage band default listed = pct := by
  have last := lastPercentage_mem band default thresholds
  unfold percentagesOf at member last
  dsimp only at member last
  split at member
  · next absent =>
    simp only [absent,if_true,List.mem_singleton] at last
    exact ⟨thresholds,.refl _,last.trans (List.mem_singleton.mp member).symm⟩
  · obtain ⟨t,among,rfl⟩ := List.mem_map.mp member
    obtain ⟨inside,severe⟩ := List.mem_filter.mp among
    obtain ⟨before,after,rfl⟩ := List.append_of_mem inside
    refine ⟨before ++ after ++ [t],?_,?_⟩
    · rw [List.append_assoc]
      exact (List.perm_append_singleton t after).append_left before
    · unfold lastPercentage
      rw [List.foldl_append,List.foldl_cons,List.foldl_nil]
      exact if_pos (of_decide_eq_true severe)

section State

variable {kept : BandPercentages} {util more : ℚ} {alert alertMore : Bool}

theorem thresholdState_mono (kept : BandPercentages) (above : util ≤ more) (alerts : alert = true → alertMore = true) :
    severityRank (thresholdState kept util alert) ≤ severityRank (thresholdState kept more alertMore) := by
  unfold thresholdState
  split_ifs with c1 c2 h1 <;> simp_all [severityRank] <;> linarith

theorem thresholdState_listed (listed : List BudgetThreshold) (util : ℚ) (alert : Bool) :
    thresholdState (bandPercentages listed) util alert =
      if lastPercentage .critical 100 listed ≤ util then .critical
      else if lastPercentage .high 90 listed ≤ util then .high
      else if lastPercentage .warning 80 listed ≤ util then .warning
      else if alert then .warning
      else .normal := by
  rw [bandPercentages,foldl_take]
  rfl

theorem last_reached_iff (same : listed.Perm thresholds)
    (agree : (∃ pct ∈ percentagesOf thresholds band default, pct ≤ util) → ∀ pct ∈ percentagesOf thresholds band default, pct ≤ util) :
    lastPercentage band default listed ≤ util ↔ ∃ pct ∈ percentagesOf thresholds band default, pct ≤ util := by
  have member := (percentagesOf_perm same).mem_iff.mp (lastPercentage_mem band default listed)
  exact ⟨fun reached => ⟨_,member,reached⟩,fun some => agree some _ member⟩

theorem none_reached {pcts : List ℚ} (none : ¬ ∃ pct ∈ pcts, pct ≤ util) : ∀ pct ∈ pcts, util < pct :=
  fun pct member => not_le.mp fun reached => none ⟨pct,member,reached⟩

theorem ThresholdsAgree.state (agree : ThresholdsAgree thresholds util alert) (same : listed.Perm thresholds) :
    thresholdState (bandPercentages listed) util alert =
      if ∃ pct ∈ percentagesOf thresholds .critical 100, pct ≤ util then .critical
      else if ∃ pct ∈ percentagesOf thresholds .high 90, pct ≤ util then .high
      else if (∃ pct ∈ percentagesOf thresholds .warning 80, pct ≤ util) ∨ alert = true then .warning
      else .normal := by
  rw [thresholdState_listed]
  by_cases critical : ∃ pct ∈ percentagesOf thresholds .critical 100, pct ≤ util
  · rw [if_pos ((last_reached_iff same agree.critical).mpr critical),if_pos critical]
  · have noCritical := none_reached critical
    rw [if_neg fun reached => critical ((last_reached_iff same agree.critical).mp reached),if_neg critical]
    by_cases high : ∃ pct ∈ percentagesOf thresholds .high 90, pct ≤ util
    · rw [if_pos ((last_reached_iff same (agree.high noCritical)).mpr high),if_pos high]
    · rw [if_neg fun reached => high ((last_reached_iff same (agree.high noCritical)).mp reached),if_neg high]
      have warning := agree.warning noCritical (none_reached high)
      cases alert with
      | true =>
        simp only [or_true,if_true,ite_self]
      | false =>
        have all (some : ∃ pct ∈ percentagesOf thresholds .warning 80, pct ≤ util) := (warning some).resolve_left (by decide)
        simp only [last_reached_iff same all,or_false,Bool.false_eq_true,if_false]

theorem agree_of_same {pct other : ℚ}
    (same : ∀ listed second : List BudgetThreshold, listed.Perm thresholds → second.Perm thresholds →
      thresholdState (bandPercentages listed) util alert = thresholdState (bandPercentages second) util alert)
    (member : pct ∈ percentagesOf thresholds band default) (memberOther : other ∈ percentagesOf thresholds band default) :
    ∃ listed second : List BudgetThreshold, listed.Perm thresholds ∧ second.Perm thresholds ∧
      lastPercentage band default listed = pct ∧ lastPercentage band default second = other ∧
      thresholdState (bandPercentages listed) util alert = thresholdState (bandPercentages second) util alert := by
  obtain ⟨listed,perm,last⟩ := exists_listed member
  obtain ⟨second,permOther,lastOther⟩ := exists_listed memberOther
  exact ⟨listed,second,perm,permOther,last,lastOther,same listed second perm permOther⟩

theorem last_unreached {default : ℚ} (same : listed.Perm thresholds)
    (none : ∀ pct ∈ percentagesOf thresholds band default, util < pct) : ¬ lastPercentage band default listed ≤ util :=
  not_le.mpr (none _ ((percentagesOf_perm same).mem_iff.mp (lastPercentage_mem band default listed)))

theorem agree_iff (thresholds : List BudgetThreshold) (util : ℚ) (alert : Bool) : ThresholdsAgree thresholds util alert ↔
    ∀ listed second : List BudgetThreshold, listed.Perm thresholds → second.Perm thresholds →
      thresholdState (bandPercentages listed) util alert = thresholdState (bandPercentages second) util alert := by
  constructor
  · intro agree listed second perm permOther
    rw [agree.state perm,agree.state permOther]
  · intro same
    refine ⟨?_,?_,?_⟩
    · rintro ⟨pct,member,reached⟩ other memberOther
      obtain ⟨listed,second,_,_,last,lastOther,equal⟩ := agree_of_same same member memberOther
      by_contra unreached
      rw [thresholdState_listed,thresholdState_listed second,last,lastOther,if_pos reached,if_neg unreached] at equal
      split_ifs at equal
    · rintro noCritical ⟨pct,member,reached⟩ other memberOther
      obtain ⟨listed,second,perm,permOther,last,lastOther,equal⟩ := agree_of_same same member memberOther
      by_contra unreached
      rw [thresholdState_listed,thresholdState_listed second,last,lastOther,if_neg (last_unreached perm noCritical),
        if_neg (last_unreached permOther noCritical),if_pos reached,if_neg unreached] at equal
      split_ifs at equal
    · rintro noCritical noHigh ⟨pct,member,reached⟩
      cases alert with
      | true => exact .inl rfl
      | false =>
        refine .inr fun other memberOther => ?_
        obtain ⟨listed,second,perm,permOther,last,lastOther,equal⟩ := agree_of_same same member memberOther
        by_contra unreached
        rw [thresholdState_listed,thresholdState_listed second,last,lastOther,if_neg (last_unreached perm noCritical),
          if_neg (last_unreached permOther noCritical),if_neg (last_unreached perm noHigh),
          if_neg (last_unreached permOther noHigh),if_pos reached,if_neg unreached] at equal
        cases equal

end State

section Breach

variable {amount spend : ℚ} {window : Date × Date} {evalDate : Date}

theorem elapsed_pos (first second : Date) : (0:ℚ) < (max 1 (daysBetween first second + 1) : ℤ) := by
  have := le_max_left 1 (daysBetween first second + 1)
  exact_mod_cast (show (0:ℤ) < _ by omega)

theorem velocity_pos_iff (start evalDate : Date) (spend : ℚ) : 0 < velocity start evalDate spend ↔ 0 < spend := by
  unfold velocity
  exact div_pos_iff_of_pos_right (elapsed_pos start evalDate)

theorem breaches_iff (rate : 0 < velocity window.1 evalDate spend) (d : Date) : Breaches amount window evalDate spend d ↔
    evalDate < d ∧ d ≤ window.2 ∧ (amount - spend) / velocity window.1 evalDate spend ≤ daysBetween evalDate d := by
  unfold Breaches
  rw [div_le_iff₀ rate,sub_le_iff_le_add,mul_comm (daysBetween evalDate d : ℚ),add_comm spend]

structure PredictedExactly (amount : ℚ) (window : Date × Date) (evalDate : Date) (spend : ℚ) (predicted : Option Date) : Prop where
  first : ∀ d, predicted = some d ↔ Breaches amount window evalDate spend d ∧
    ∀ other, Breaches amount window evalDate spend other → d ≤ other
  absent : predicted = none ↔ ∀ d, ¬ Breaches amount window evalDate spend d

theorem predicted_none (no : ∀ d, ¬ Breaches amount window evalDate spend d) : PredictedExactly amount window evalDate spend none :=
  ⟨fun d => ⟨nofun,fun first => absurd first.1 (no d)⟩,fun _ => no,fun _ => rfl⟩

theorem predicted_some {d : Date} (breach : Breaches amount window evalDate spend d)
    (least : ∀ other, Breaches amount window evalDate spend other → d ≤ other) :
    PredictedExactly amount window evalDate spend (some d) := by
  refine ⟨fun other => ⟨fun same => Option.some.inj same ▸ ⟨breach,least⟩,fun first => ?_⟩,nofun,fun no => absurd breach (no d)⟩
  have after := Date.le_iff_ordinal.mp (least other first.1)
  have before := Date.le_iff_ordinal.mp (first.2 d breach)
  rw [Date.ordinal_inj (le_antisymm after before)]

theorem predictBreach_iff (start : 0 ≤ spend) (below : spend < amount) :
    (∃ predicted, predictBreach amount window evalDate spend = some predicted ∧
      PredictedExactly amount window evalDate spend predicted) ↔ BreachDated amount window evalDate spend := by
  unfold BreachDated
  dsimp only
  by_cases idle : spend = 0
  · subst idle
    have rate : velocity window.1 evalDate 0 = 0 := zero_div _
    refine ⟨fun _ => .inl rfl,fun _ => ⟨none,?_,predicted_none fun d breach => ?_⟩⟩
    · rw [predictBreach,if_neg fun both => absurd both.1 (by rw [rate]; exact lt_irrefl _)]
    · have reached := breach.2.2
      rw [rate] at reached
      linarith
  · have rate : 0 < velocity window.1 evalDate spend := (velocity_pos_iff _ _ _).mpr (lt_of_le_of_ne start (Ne.symm idle))
    rw [predictBreach,if_pos ⟨rate,below⟩]
    dsimp only
    have breaches : ∀ d, Breaches amount window evalDate spend d ↔
        evalDate < d ∧ d ≤ window.2 ∧ (amount - spend) / velocity window.1 evalDate spend ≤ daysBetween evalDate d := breaches_iff rate
    have positive : 0 < (amount - spend) / velocity window.1 evalDate spend := div_pos (by linarith) rate
    generalize (amount - spend) / velocity window.1 evalDate spend = days at breaches positive ⊢
    have floor := Int.floor_nonneg.mpr positive.le
    have floorNat : ((⌊days⌋.toNat : ℕ) : ℤ) = ⌊days⌋ := Int.toNat_of_nonneg floor
    have least := Int.floor_le days
    constructor
    · rintro ⟨predicted,returned,exactly⟩
      obtain ⟨candidate,sum,rfl⟩ := Option.map_eq_some_iff.mp returned
      have place := Date.addDays_iff.mp sum
      have within := candidate.ordinal_le_last
      by_cases inside : candidate ≤ window.2
      · rw [if_pos inside] at exactly
        have reached := ((breaches candidate).mp ((exactly.first candidate).mp rfl).1).2.2
        have counted : daysBetween evalDate candidate = ⌊days⌋ := by
          unfold daysBetween
          omega
        rw [counted] at reached
        refine .inr (.inl ⟨⌊days⌋.toNat,?_,?_⟩)
        · calc days = ((⌊days⌋ : ℤ) : ℚ) := le_antisymm reached least
            _ = ((⌊days⌋.toNat : ℕ) : ℚ) := by exact_mod_cast floorNat.symm
        · have := Date.le_iff_ordinal.mp inside
          omega
      · have := Date.le_iff_ordinal.not.mp inside
        exact .inr (.inr ⟨by omega,by omega⟩)
    · rintro (none | ⟨n,same,within⟩ | ⟨after,within⟩)
      · exact absurd none idle
      · have whole : ⌊days⌋ = n := by rw [same,Int.floor_natCast]
        have last := window.2.ordinal_le_last
        have natural : ⌊days⌋.toNat = n := by omega
        obtain ⟨candidate,sum⟩ := Date.exists_addDays (show evalDate.ordinal + n ≤ Date.lastOrdinal by omega)
        have place := Date.addDays_iff.mp sum
        have inside : candidate ≤ window.2 := Date.le_iff_ordinal.mpr (by omega)
        have ahead : 1 ≤ n := by
          rw [same] at positive
          exact_mod_cast positive
        have counted : daysBetween evalDate candidate = n := by
          unfold daysBetween
          omega
        refine ⟨some candidate,?_,predicted_some ((breaches candidate).mpr ⟨?_,inside,?_⟩) fun other breach => ?_⟩
        · rw [natural,sum,Option.map_some,if_pos inside]
        · exact Date.lt_iff_ordinal.mpr (by omega)
        · rw [counted,same]
          norm_num
        · have reached := ((breaches other).mp breach).2.2
          rw [same] at reached
          have later : (n : ℤ) ≤ daysBetween evalDate other := by exact_mod_cast reached
          unfold daysBetween at later
          exact Date.le_iff_ordinal.mpr (by omega)
      · obtain ⟨candidate,sum⟩ := Date.exists_addDays (show evalDate.ordinal + ⌊days⌋.toNat ≤ Date.lastOrdinal by omega)
        have place := Date.addDays_iff.mp sum
        have outside : ¬ candidate ≤ window.2 := by
          rw [Date.le_iff_ordinal]
          omega
        refine ⟨none,?_,predicted_none fun d breach => ?_⟩
        · rw [sum,Option.map_some,if_neg outside]
        · obtain ⟨_,before,reached⟩ := (breaches d).mp breach
          have before := Date.le_iff_ordinal.mp before
          have later : ⌊days⌋ ≤ daysBetween evalDate d := by exact_mod_cast least.trans reached
          unfold daysBetween at later
          omega

end Breach

section Evaluation

variable {record : Option FiscalCalendar} {budget : EvaluatedBudget} {evalDate : Date} {spend more : ℚ} {window : Date × Date}

theorem percentOf_mono (amount : ℚ) (below : spend ≤ more) : percentOf amount spend ≤ percentOf amount more := by
  unfold percentOf
  split
  · next positive =>
    refine Decimal.quantize_mono 2 (mul_le_mul_of_nonneg_right ?_ (by norm_num))
    exact div_le_div_of_nonneg_right below positive.le
  · exact le_rfl

theorem forecastSpend_mono (window : Date × Date) (evalDate : Date) (below : spend ≤ more) :
    forecastSpend window evalDate spend ≤ forecastSpend window evalDate more := by
  have elapsed := elapsed_pos window.1 evalDate
  have remaining : (0:ℚ) ≤ (max 0 (daysBetween evalDate window.2) : ℤ) := by exact_mod_cast le_max_left 0 _
  refine Decimal.quantize_mono 2 (add_le_add below (mul_le_mul_of_nonneg_right ?_ remaining))
  exact div_le_div_of_nonneg_right below elapsed.le

theorem alert_mono (budget : EvaluatedBudget) (window : Date × Date) (evalDate : Date) (below : spend ≤ more)
    (alert : budget.alert window evalDate spend = true) : budget.alert window evalDate more = true := by
  unfold EvaluatedBudget.alert forecastAlert at alert ⊢
  have above := percentOf_mono budget.amount (forecastSpend_mono window evalDate below)
  cases given : budget.forecastThreshold with
  | none => simp [given] at alert
  | some pct =>
    simp only [given,Option.any_some,Bool.and_eq_true,decide_eq_true_iff] at alert ⊢
    exact ⟨alert.1,alert.2.trans above⟩

theorem evaluate_effective (effective : budget.effectiveDate ≤ evalDate)
    (resolved : resolvePeriodBounds record budget.span evalDate = some window) :
    evaluate record budget evalDate (some spend) =
      (predictBreach budget.amount window evalDate spend).map (budget.effective window evalDate spend) := by
  rw [evaluate,resolved,Option.bind_some]
  exact if_neg effective

theorem predictBreach_over (above : ¬ spend < budget.amount) : predictBreach budget.amount window evalDate spend = some none := by
  rw [predictBreach]
  exact if_neg fun both => above both.2

theorem mem_percentagesOf {thresholds : List BudgetThreshold} {t : BudgetThreshold} {band : ThresholdState} (default : ℚ)
    (member : t ∈ thresholds) (severe : t.severity = some band) : t.percentage ∈ percentagesOf thresholds band default := by
  have own : t.percentage ∈ (thresholds.filter fun t => t.severity = some band).map BudgetThreshold.percentage :=
    List.mem_map_of_mem (List.mem_filter.mpr ⟨member,decide_eq_true severe⟩)
  unfold percentagesOf
  dsimp only
  rw [if_neg (List.ne_nil_of_mem own)]
  exact own

theorem ThresholdsAgree.reported {thresholds : List BudgetThreshold} {util : ℚ} {alert : Bool} {t : BudgetThreshold}
    {band : ThresholdState} (agree : ThresholdsAgree thresholds util alert) (member : t ∈ thresholds)
    (severe : t.severity = some band) (reached : t.percentage ≤ util) :
    severityRank band ≤ severityRank (thresholdState (bandPercentages thresholds) util alert) := by
  rw [agree.state (.refl _)]
  cases band with
  | critical =>
    rw [if_pos ⟨_,mem_percentagesOf 100 member severe,reached⟩]
  | high =>
    split
    · decide
    · rw [if_pos ⟨_,mem_percentagesOf 90 member severe,reached⟩]
  | warning =>
    split
    · decide
    · split
      · decide
      · rw [if_pos (.inl ⟨_,mem_percentagesOf 80 member severe,reached⟩)]
  | normal => exact Nat.zero_le _
  | informational => exact Nat.zero_le _
  | unknown => exact Nat.zero_le _

/-- The evaluation of a budget in effect is exact when its thresholds agree on the
utilisation, and, while it is not spent, the day of its breach is a whole one. -/
theorem evaluatedExactly_iff (record : Option FiscalCalendar) (budget : EvaluatedBudget) (evalDate : Date) (spend : ℚ)
    (start : 0 ≤ spend) (effective : budget.effectiveDate ≤ evalDate) :
    EvaluatedExactly record budget evalDate spend ↔
      ∃ window, resolvePeriodBounds record budget.span evalDate = some window ∧
        ThresholdsAgree budget.thresholds (percentOf budget.amount spend) (budget.alert window evalDate spend) ∧
        (spend < budget.amount → BreachDated budget.amount window evalDate spend) := by
  -- the result for the thresholds in another order
  have listedResult {window : Date × Date} (resolved : resolvePeriodBounds record budget.span evalDate = some window)
      (listed : List BudgetThreshold) : evaluate record { budget with thresholds := listed } evalDate (some spend) =
        (predictBreach budget.amount window evalDate spend).map
          (EvaluatedBudget.effective { budget with thresholds := listed } window evalDate spend) :=
    evaluate_effective effective resolved
  constructor
  · intro exactly
    obtain ⟨result,returned⟩ := exactly.returned
    obtain ⟨window,resolved,_⟩ := Option.bind_eq_some_iff.mp returned
    have evaluated : evaluate record budget evalDate (some spend) = _ := evaluate_effective effective resolved
    rw [returned] at evaluated
    obtain ⟨predicted,predicts,rfl⟩ := Option.map_eq_some_iff.mp evaluated.symm
    refine ⟨window,resolved,(agree_iff _ _ _).mpr fun listed second perm permOther => ?_,fun below => ?_⟩
    · have state (listed : List BudgetThreshold) (perm : listed.Perm budget.thresholds) :
          thresholdState (bandPercentages listed) (percentOf budget.amount spend) (budget.alert window evalDate spend) =
            (budget.effective window evalDate spend predicted).state := by
        obtain ⟨other,returnedOther,same⟩ := exactly.orderless listed perm _ returned
        rw [listedResult resolved listed,predicts] at returnedOther
        rw [← same,← Option.some.inj returnedOther]
        rfl
      rw [state listed perm,state second permOther]
    · exact (predictBreach_iff start below).mp ⟨predicted,predicts,exactly.predicted below _ returned,exactly.absent below _ returned⟩
  · rintro ⟨window,resolved,agree,dated⟩
    obtain ⟨predicted,predicts,day⟩ : ∃ predicted, predictBreach budget.amount window evalDate spend = some predicted ∧
        (spend < budget.amount → PredictedExactly budget.amount window evalDate spend predicted) := by
      by_cases below : spend < budget.amount
      · obtain ⟨predicted,predicts,day⟩ := (predictBreach_iff start below).mpr (dated below)
        exact ⟨predicted,predicts,fun _ => day⟩
      · exact ⟨none,predictBreach_over below,fun spending => absurd spending below⟩
    have evaluated : evaluate record budget evalDate (some spend) = some (budget.effective window evalDate spend predicted) := by
      rw [evaluate_effective effective resolved,predicts]
      rfl
    refine ⟨⟨_,evaluated⟩,?_,?_,?_,?_,?_⟩
    · intro result returned t member band severe reached
      obtain rfl := Option.some.inj (evaluated.symm.trans returned)
      exact agree.reported member severe reached
    · intro more above result later returned returnedLater
      obtain rfl := Option.some.inj (evaluated.symm.trans returned)
      rw [evaluate_effective effective resolved] at returnedLater
      obtain ⟨_,_,rfl⟩ := Option.map_eq_some_iff.mp returnedLater
      exact thresholdState_mono _ (percentOf_mono budget.amount above) (alert_mono budget window evalDate above)
    · intro listed perm result returned
      obtain rfl := Option.some.inj (evaluated.symm.trans returned)
      refine ⟨EvaluatedBudget.effective { budget with thresholds := listed } window evalDate spend predicted,?_,?_⟩
      · rw [listedResult resolved listed,predicts]
        rfl
      · exact (agree.state perm).trans (agree.state (.refl _)).symm
    · intro below result returned
      obtain rfl := Option.some.inj (evaluated.symm.trans returned)
      exact (day below).first
    · intro below result returned
      obtain rfl := Option.some.inj (evaluated.symm.trans returned)
      exact (day below).absent

end Evaluation

theorem hundred_positive : (0:ℚ) < 100 := by norm_num

theorem openEnded_dated : DatesOrdered mayDay none := nofun

theorem fifty_positive : (0:ℚ) < 50 := by norm_num

theorem ninetyFive_positive : (0:ℚ) < 95 := by norm_num

theorem monday_valid : (1 ≤ 2026 ∧ 2026 ≤ 9999) ∧ (1 ≤ 5 ∧ 5 ≤ 12) ∧ 1 ≤ 11 ∧ 11 ≤ Calendar.daysInMonth 2026 5 := by decide

def monday : Date := ⟨2026,5,11,monday_valid⟩

def monthlyBudget (thresholds : List BudgetThreshold) : EvaluatedBudget where
  id := "bgt-1"
  name := "Platform"
  scopeType := .application
  scopeId := "app-1"
  amount := 100
  positive := hundred_positive
  currency := "USD"
  effectiveDate := mayDay
  expiryDate := none
  dated := openEnded_dated
  owner := "ann"
  approvalStatus := .active
  approvalDecision := none
  notes := none
  isNative := false
  isReadOnly := false
  nativeProvider := none
  amendments := []
  period := .monthly
  thresholds := thresholds
  forecastThreshold := none

def halfWarning : BudgetThreshold := ⟨50,"WARNING",fifty_positive⟩

def lateWarning : BudgetThreshold := ⟨95,"WARNING",ninetyFive_positive⟩

/-- With a second warning the first one is reached and not reported. -/
theorem half_warning_unreported :
    (evaluate none (monthlyBudget [halfWarning, lateWarning]) monday (some 60)).map
      (fun result => (result.actualUtilisation, result.state)) = some (60, .normal) ∧
    ¬ EvaluatedExactly none (monthlyBudget [halfWarning, lateWarning]) monday 60 := by
  have state : (evaluate none (monthlyBudget [halfWarning, lateWarning]) monday (some 60)).map
      (fun result => (result.actualUtilisation, result.state)) = some (60, .normal) := by
    decide +kernel
  refine ⟨state,fun exactly => ?_⟩
  obtain ⟨result,returned⟩ := exactly.returned
  rw [returned,Option.map_some,Option.some.injEq,Prod.mk.injEq] at state
  have reported := exactly.reported result returned halfWarning List.mem_cons_self .warning (by decide +kernel)
  rw [state.1,state.2] at reported
  exact absurd (reported (by decide +kernel)) (by decide)

/-- With one warning, and five a day, the hundred are spent on the twentieth. -/
theorem half_warning_exact : 0 ≤ (55:ℚ) ∧ (monthlyBudget [halfWarning]).effectiveDate ≤ monday ∧
    EvaluatedExactly none (monthlyBudget [halfWarning]) monday 55 := by
  have start : 0 ≤ (55:ℚ) := by norm_num
  have effective : (monthlyBudget [halfWarning]).effectiveDate ≤ monday := by decide
  refine ⟨start,effective,(evaluatedExactly_iff none (monthlyBudget [halfWarning]) monday 55 start effective).mpr ?_⟩
  refine ⟨(monday.firstOfMonth, monday.lastOfMonth),rfl,⟨by decide +kernel,by decide +kernel,by decide +kernel⟩,fun _ => ?_⟩
  exact .inr (.inl ⟨9,by decide +kernel,by decide +kernel⟩)

end CloudLens.Budgets
