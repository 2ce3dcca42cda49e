import CloudLens.Library.Calendar
import CloudLens.Library.Table
import Mathlib.Algebra.Order.Ring.Rat

/-! Threshold evaluation with its anti-flapping filters. A measured value is
placed in a band, with the exit threshold of the band that is in force, held
back until it was seen often enough, and alerted on the transition into a breach
unless a cool-down or the grouping of a storm suppresses the alert. The tracker
of an entity and the transitions of a scope are the state of the evaluator. -/
namespace CloudLens.Thresholds
open Library CloudLens.Library.Calendar

inductive ThresholdState
  | normal
  | warning
  | high
  | critical
  | informational
  | unknown
  deriving DecidableEq

namespace ThresholdState

def text : ThresholdState → String
  | normal => "NORMAL"
  | warning => "WARNING"
  | high => "HIGH"
  | critical => "CRITICAL"
  | informational => "INFORMATIONAL"
  | unknown => "UNKNOWN"

def getColorHex : ThresholdState → String
  | normal => "#10b981"
  | warning => "#f59e0b"
  | high => "#f97316"
  | critical => "#ef4444"
  | informational => "#3b82f6"
  | unknown => "#94a3b8"

def isBreach (state : ThresholdState) : Bool := state = warning || state = high || state = critical

end ThresholdState

structure ThresholdBandDefinition where
  state : ThresholdState
  lowerBound : Option ℚ := none
  upperBound : Option ℚ := none
  lowerInclusive : Bool := true
  upperInclusive : Bool := false
  exitThresholdLower : Option ℚ := none
  deriving DecidableEq

structure AntiFlappingConfig where
  dwellEvaluations : ℕ
  cooldownSeconds : ℕ
  groupingStormThreshold : ℕ
  dwellPositive : 1 ≤ dwellEvaluations
  stormPositive : 2 ≤ groupingStormThreshold

theorem AntiFlappingConfig.eq_iff (a b : AntiFlappingConfig) : a = b ↔ a.dwellEvaluations = b.dwellEvaluations ∧
    a.cooldownSeconds = b.cooldownSeconds ∧ a.groupingStormThreshold = b.groupingStormThreshold := by
  cases a
  cases b
  simp

instance : DecidableEq AntiFlappingConfig := fun a b => decidable_of_iff' _ (AntiFlappingConfig.eq_iff a b)

structure ThresholdRule where
  id : String
  name : String
  antiFlapping : AntiFlappingConfig
  deriving DecidableEq

structure ResolvedThreshold where
  rule : ThresholdRule
  bands : List ThresholdBandDefinition

structure AntiFlappingEntityState where
  committedState : ThresholdState := .normal
  pendingState : Option ThresholdState := none
  pendingConsecutiveCount : ℕ := 0
  lastTransitionTime : Option Instant := none
  lastAlertTime : Option Instant := none
  lastEvaluatedValue : Option ℚ := none
  deriving DecidableEq

/-- The four budget bands; the upper three are left downwards below a margin. -/
def createConfigurableBudgetBands (normalUpper warningUpper highUpper hysteresisPct : ℚ) :
    List ThresholdBandDefinition :=
  [{ state := .normal, lowerBound := some 0, upperBound := some normalUpper },
    { state := .warning, lowerBound := some normalUpper, upperBound := some warningUpper,
      exitThresholdLower := some (normalUpper - hysteresisPct) },
    { state := .high, lowerBound := some warningUpper, upperBound := some highUpper,
      exitThresholdLower := some (warningUpper - hysteresisPct) },
    { state := .critical, lowerBound := some highUpper, exitThresholdLower := some (highUpper - hysteresisPct) }]

def createTenantDefaultBudgetRule (tenantId : String) (cooldownSeconds dwellEvaluations : ℕ)
    (positive : 1 ≤ dwellEvaluations) : ThresholdRule where
  id := "thr-default-budget-" ++ tenantId
  name := "Tenant Default Budget Threshold Rule"
  antiFlapping := ⟨dwellEvaluations,cooldownSeconds,5,positive,Nat.le_add_left 2 3⟩

abbrev TrackerKey : Type := String × String × String

/-- A tenant, a scope and a minute of the clock the evaluation was stamped by. -/
abbrev CycleKey : Type := String × String × ℤ

structure ThresholdEvaluator where
  entityStates : Table TrackerKey AntiFlappingEntityState
  cycleTransitions : Table CycleKey (List String)

def ThresholdEvaluator.init : ThresholdEvaluator := ⟨∅,∅⟩

/-- One call of `evaluate`. The stamp is an instant with the offset of its zone. -/
structure Evaluation where
  tenantId : String
  entityId : String
  value : Option ℚ
  resolved : ResolvedThreshold
  scopeId : Option String
  evaluatedAt : Instant
  utcOffset : Instant

structure ThresholdEvaluationResult where
  measuredValue : Option ℚ
  evaluatedState : ThresholdState
  committedState : ThresholdState
  colorHex : String
  isAlertDispatched : Bool
  suppressionReason : Option String
  isDataQualityIssue : Bool
  evaluatedAt : Instant
  transitionOccurred : Bool
  previousCommittedState : ThresholdState
  sourceSystem : String
  deriving DecidableEq

def ThresholdEvaluationResult.isFlappingSuppressed (result : ThresholdEvaluationResult) : Bool :=
  result.suppressionReason.isSome

def Evaluation.key (e : Evaluation) : TrackerKey := (e.tenantId, e.entityId, e.resolved.rule.id)

def Evaluation.config (e : Evaluation) : AntiFlappingConfig := e.resolved.rule.antiFlapping

def getOrCreateEntityState (s : ThresholdEvaluator) (key : TrackerKey) : AntiFlappingEntityState :=
  (s.entityStates.lookup key).getD {}

namespace ThresholdBandDefinition

/-- The band in force is left downwards only below its exit threshold. -/
def holds (band : ThresholdBandDefinition) (value : ℚ) (current : ThresholdState) : Bool :=
  band.state = current && band.state.isBreach &&
    match band.exitThresholdLower, band.lowerBound with
    | some exit, some _ => exit ≤ value && (match band.upperBound with
      | none => true
      | some upper => value < upper)
    | _, _ => false

def contains (band : ThresholdBandDefinition) (value : ℚ) : Bool :=
  (match band.lowerBound with
    | none => true
    | some lower => if band.lowerInclusive then lower ≤ value else lower < value) &&
  (match band.upperBound with
    | none => true
    | some upper => if band.upperInclusive then value ≤ upper else value < upper)

end ThresholdBandDefinition

def evaluateRawBand (value : ℚ) (bands : List ThresholdBandDefinition) (current : ThresholdState) : ThresholdState :=
  match bands.find? (fun band => band.holds value current) with
  | some band => band.state
  | none =>
    match bands.find? (fun band => band.contains value) with
    | some band => band.state
    | none =>
      match bands.getLast? with
      | some band => band.state
      | none => .normal

structure Filtered where
  tracker : AntiFlappingEntityState
  committedState : ThresholdState
  transitionOccurred : Bool
  suppressionReason : Option String
  isAlertDispatched : Bool := false

def dwellReason (af : AntiFlappingConfig) (count : ℕ) (raw : ThresholdState) : String :=
  "Dwell time pending: " ++ toString count ++ "/" ++ toString af.dwellEvaluations ++
    " evaluations in state '" ++ raw.text ++ "'."

def countPending (tracker : AntiFlappingEntityState) (raw : ThresholdState) : AntiFlappingEntityState :=
  if tracker.pendingState = some raw then
    {tracker with pendingConsecutiveCount := tracker.pendingConsecutiveCount + 1}
  else {tracker with pendingState := some raw, pendingConsecutiveCount := 1}

def dwellFilter (af : AntiFlappingConfig) (tracker : AntiFlappingEntityState) (raw : ThresholdState)
    (now : Instant) : Filtered :=
  if raw ≠ tracker.committedState then
    if 1 < af.dwellEvaluations then
      let counted := countPending tracker raw
      if af.dwellEvaluations ≤ counted.pendingConsecutiveCount then
        { tracker := {counted with committedState := raw, pendingState := none, pendingConsecutiveCount := 0,
                                   lastTransitionTime := some now}
          committedState := raw, transitionOccurred := true, suppressionReason := none }
      else
        { tracker := counted, committedState := tracker.committedState, transitionOccurred := false
          suppressionReason := some (dwellReason af counted.pendingConsecutiveCount raw) }
    else
      { tracker := {tracker with committedState := raw, lastTransitionTime := some now}
        committedState := raw, transitionOccurred := true, suppressionReason := none }
  else
    { tracker := {tracker with pendingState := none, pendingConsecutiveCount := 0}
      committedState := tracker.committedState, transitionOccurred := false, suppressionReason := none }

def cooldownReason (af : AntiFlappingConfig) (elapsed : Instant) : String :=
  "Alert suppressed by cool-down period (" ++ toString ((af.cooldownSeconds * 10^6 - elapsed) / 10^6) ++ "s remaining)."

def stormReason (scope : String) (count : ℕ) : String :=
  "Alert storm suppressed: grouped into parent scope '" ++ scope ++ "' event (" ++ toString count ++
    " child transitions in cycle)."

def cycleKey (e : Evaluation) (scope : String) : CycleKey :=
  (e.tenantId, scope, (e.evaluatedAt + e.utcOffset) / (60 * 10^6))

/-- The seconds of an alert's cool-down that have passed are compared exactly. -/
def inCooldown (af : AntiFlappingConfig) (lastAlert : Option Instant) (now : Instant) : Bool :=
  match lastAlert with
  | none => false
  | some last => now - last < af.cooldownSeconds * 10^6

def alerted (filtered : Filtered) (now : Instant) : Filtered :=
  {filtered with tracker := {filtered.tracker with lastAlertTime := some now}, isAlertDispatched := true}

def Evaluation.scope (e : Evaluation) : Option String := e.scopeId.filter (fun scope => scope ≠ "")

def stormFilter (e : Evaluation) (cycles : Table CycleKey (List String)) (filtered : Filtered) :
    Filtered × Table CycleKey (List String) :=
  match e.scope with
  | none => (alerted filtered e.evaluatedAt, cycles)
  | some scope =>
    let transitions := (cycles.lookup (cycleKey e scope)).getD [] ++ [e.entityId]
    let recorded := cycles.insert (cycleKey e scope) transitions
    if e.config.groupingStormThreshold < transitions.length then
      ({filtered with suppressionReason := some (stormReason scope transitions.length)}, recorded)
    else (alerted filtered e.evaluatedAt, recorded)

def alertFilter (e : Evaluation) (cycles : Table CycleKey (List String)) (filtered : Filtered) :
    Filtered × Table CycleKey (List String) :=
  if filtered.transitionOccurred && filtered.committedState.isBreach then
    if inCooldown e.config filtered.tracker.lastAlertTime e.evaluatedAt then
      let reason := filtered.tracker.lastAlertTime.map (fun last => cooldownReason e.config (e.evaluatedAt - last))
      ({filtered with suppressionReason := reason}, cycles)
    else stormFilter e cycles filtered
  else (filtered, cycles)

def missingResult (e : Evaluation) (previous : ThresholdState) : ThresholdEvaluationResult where
  measuredValue := none
  evaluatedState := .unknown
  committedState := .unknown
  colorHex := ThresholdState.unknown.getColorHex
  isAlertDispatched := false
  suppressionReason := none
  isDataQualityIssue := true
  evaluatedAt := e.evaluatedAt
  transitionOccurred := previous ≠ .unknown
  previousCommittedState := previous
  sourceSystem := "cloudlens-threshold:data-quality-gate"

def replayResult (e : Evaluation) (value : ℚ) (previous : ThresholdState) : ThresholdEvaluationResult where
  measuredValue := some value
  evaluatedState := previous
  committedState := previous
  colorHex := previous.getColorHex
  isAlertDispatched := false
  suppressionReason := none
  isDataQualityIssue := false
  evaluatedAt := e.evaluatedAt
  transitionOccurred := false
  previousCommittedState := previous
  sourceSystem := "cloudlens-threshold:idempotent-replay"

def filteredResult (e : Evaluation) (value : ℚ) (raw previous : ThresholdState) (filtered : Filtered) :
    ThresholdEvaluationResult where
  measuredValue := some value
  evaluatedState := raw
  committedState := filtered.committedState
  colorHex := filtered.committedState.getColorHex
  isAlertDispatched := filtered.isAlertDispatched
  suppressionReason := filtered.suppressionReason
  isDataQualityIssue := false
  evaluatedAt := e.evaluatedAt
  transitionOccurred := filtered.transitionOccurred
  previousCommittedState := previous
  sourceSystem := "cloudlens-threshold:anti-flapping-evaluator"

/-- The idempotency check: the value of the previous evaluation again, once a
transition was made. -/
def isReplay (tracker : AntiFlappingEntityState) (value : ℚ) : Bool :=
  tracker.lastEvaluatedValue = some value && tracker.lastTransitionTime.isSome

def filterValue (e : Evaluation) (cycles : Table CycleKey (List String)) (tracker : AntiFlappingEntityState)
    (value : ℚ) : Filtered × Table CycleKey (List String) :=
  alertFilter e cycles (dwellFilter e.config {tracker with lastEvaluatedValue := some value}
    (evaluateRawBand value e.resolved.bands tracker.committedState) e.evaluatedAt)

def evaluate (s : ThresholdEvaluator) (e : Evaluation) : ThresholdEvaluator × ThresholdEvaluationResult :=
  let tracker := getOrCreateEntityState s e.key
  match e.value with
  | none => ({s with entityStates := s.entityStates.insert e.key tracker}, missingResult e tracker.committedState)
  | some value =>
    if isReplay tracker value then
      ({s with entityStates := s.entityStates.insert e.key tracker}, replayResult e value tracker.committedState)
    else
      let raw := evaluateRawBand value e.resolved.bands tracker.committedState
      let filtered := filterValue e s.cycleTransitions tracker value
      (⟨s.entityStates.insert e.key filtered.1.tracker,filtered.2⟩,
        filteredResult e value raw tracker.committedState filtered.1)

end CloudLens.Thresholds
