import CloudLens.Library.Debounce
import CloudLens.Library.Runs
import CloudLens.Thresholds.Model

/-! The dwell filter is a debounced observation of the raw states, as long as
the shortcut for a repeated value is taken only where the raw state is the
committed one and no candidate is pending. A repeated value that is in another
band, or that interrupts a candidate, is not counted. -/
namespace CloudLens.Thresholds
open Library Library.Runs
open Library.Debounce (Counter Counts Held observe)

def step (s : ThresholdEvaluator) (e : Evaluation) : ThresholdEvaluator := (evaluate s e).1

def committed (s : ThresholdEvaluator) (key : TrackerKey) : ThresholdState :=
  (getOrCreateEntityState s key).committedState

def rawState (s : ThresholdEvaluator) (e : Evaluation) : Option ThresholdState :=
  e.value.map (fun value => evaluateRawBand value e.resolved.bands (committed s e.key))

def rawStates (key : TrackerKey) : ThresholdEvaluator → List Evaluation → List ThresholdState
  | _, [] => []
  | s, e :: rest => (if e.key = key then (rawState s e).toList else []) ++ rawStates key (step s e) rest

def CommitsExactly (dwell : ℕ) (key : TrackerKey) (start : ThresholdEvaluator) (before : List Evaluation)
    (e : Evaluation) : Prop :=
  let s := run step start before
  let seen := rawStates key start (before ++ [e])
  (∀ state, (committed (step s e) key = state ∧ state ≠ committed s key) ↔
    (state ≠ committed s key ∧ Held state dwell seen)) ∧
  ((∀ state ≠ committed s key, ¬ Held state dwell seen) → committed (step s e) key = committed s key)

/-- A repeated value is passed over only where counting it would change nothing. -/
def ReplaySettled (s : ThresholdEvaluator) (e : Evaluation) : Prop :=
  ∀ value, e.value = some value → isReplay (getOrCreateEntityState s e.key) value = true →
    evaluateRawBand value e.resolved.bands (committed s e.key) = committed s e.key ∧
      (getOrCreateEntityState s e.key).pendingState = none

def counter (tracker : AntiFlappingEntityState) : Counter ThresholdState :=
  ⟨tracker.committedState,tracker.pendingState,tracker.pendingConsecutiveCount⟩

theorem rawStates_append (key : TrackerKey) (s : ThresholdEvaluator) (first second : List Evaluation) :
    rawStates key s (first ++ second) = rawStates key s first ++ rawStates key (run step s first) second := by
  induction first generalizing s with
  | nil => rfl
  | cons e first ih => simp [rawStates,ih]

theorem rawStates_snoc (key : TrackerKey) (s : ThresholdEvaluator) (before : List Evaluation) (e : Evaluation) :
    rawStates key s (before ++ [e]) =
      rawStates key s before ++ (if e.key = key then (rawState (run step s before) e).toList else []) := by
  simp [rawStates_append,rawStates]

@[simp] theorem getOrCreate_insert (s : ThresholdEvaluator) (key : TrackerKey) (tracker : AntiFlappingEntityState)
    (cycles : Table CycleKey (List String)) :
    getOrCreateEntityState ⟨s.entityStates.insert key tracker,cycles⟩ key = tracker := by
  simp [getOrCreateEntityState]

theorem getOrCreate_insert_ne (s : ThresholdEvaluator) {key other : TrackerKey} (tracker : AntiFlappingEntityState)
    (cycles : Table CycleKey (List String)) (distinct : other ≠ key) :
    getOrCreateEntityState ⟨s.entityStates.insert key tracker,cycles⟩ other = getOrCreateEntityState s other := by
  simp [getOrCreateEntityState,AList.lookup_insert_ne distinct]

theorem step_elsewhere (s : ThresholdEvaluator) {e : Evaluation} {key : TrackerKey} (other : key ≠ e.key) :
    getOrCreateEntityState (step s e) key = getOrCreateEntityState s key := by
  unfold step evaluate
  simp only
  split
  · exact getOrCreate_insert_ne s _ _ other
  · split
    · exact getOrCreate_insert_ne s _ _ other
    · exact getOrCreate_insert_ne s _ _ other

theorem step_missing {s : ThresholdEvaluator} {e : Evaluation} (missing : e.value = none) :
    getOrCreateEntityState (step s e) e.key = getOrCreateEntityState s e.key := by
  simp [step,evaluate,missing]

theorem step_replay {s : ThresholdEvaluator} {e : Evaluation} {value : ℚ} (present : e.value = some value)
    (replay : isReplay (getOrCreateEntityState s e.key) value = true) :
    getOrCreateEntityState (step s e) e.key = getOrCreateEntityState s e.key := by
  simp [step,evaluate,present,replay]

theorem step_filtered {s : ThresholdEvaluator} {e : Evaluation} {value : ℚ} (present : e.value = some value)
    (fresh : isReplay (getOrCreateEntityState s e.key) value = false) :
    getOrCreateEntityState (step s e) e.key =
      (filterValue e s.cycleTransitions (getOrCreateEntityState s e.key) value).1.tracker := by
  simp [step,evaluate,present,fresh]

theorem alertFilter_counter (e : Evaluation) (cycles : Table CycleKey (List String)) (filtered : Filtered) :
    counter (alertFilter e cycles filtered).1.tracker = counter filtered.tracker := by
  unfold alertFilter stormFilter
  split
  · split
    · rfl
    · split
      · rfl
      · simp only
        split <;> rfl
  · rfl

theorem countPending_counter (tracker : AntiFlappingEntityState) (raw : ThresholdState) :
    counter (countPending tracker raw) = Debounce.nominate (counter tracker) raw := by
  unfold countPending Debounce.nominate
  by_cases again : tracker.pendingState = some raw
  · simp [counter,again]
  · simp [counter,again]

theorem countPending_count (tracker : AntiFlappingEntityState) (raw : ThresholdState) :
    (countPending tracker raw).pendingConsecutiveCount = (Debounce.nominate (counter tracker) raw).count := by
  rw [← countPending_counter,counter]

theorem dwellFilter_counter (af : AntiFlappingConfig) (tracker : AntiFlappingEntityState) (raw : ThresholdState)
    (now : Calendar.Instant) :
    counter (dwellFilter af tracker raw now).tracker = observe af.dwellEvaluations (counter tracker) raw := by
  unfold dwellFilter observe
  rw [← countPending_count,← countPending_counter]
  by_cases same : raw = tracker.committedState
  · simp [same,counter]
  · by_cases waits : 1 < af.dwellEvaluations
    · by_cases reached : af.dwellEvaluations ≤ (countPending tracker raw).pendingConsecutiveCount
      · simp [same,waits,reached,counter]
      · simp [same,waits,reached,counter]
    · simp [same,waits,counter]

theorem filterValue_counter (e : Evaluation) (cycles : Table CycleKey (List String))
    (tracker : AntiFlappingEntityState) (value : ℚ) :
    counter (filterValue e cycles tracker value).1.tracker =
      observe e.config.dwellEvaluations (counter tracker)
        (evaluateRawBand value e.resolved.bands tracker.committedState) := by
  rw [filterValue,alertFilter_counter,dwellFilter_counter]
  rfl

section Step

variable {dwell : ℕ} {seen : List ThresholdState} {s : ThresholdEvaluator} {e : Evaluation} {value : ℚ}

theorem step_counter (seen : List ThresholdState) (present : e.value = some value) (settled : ReplaySettled s e) :
    (counter (getOrCreateEntityState (step s e) e.key)).committed =
        (observe e.config.dwellEvaluations (counter (getOrCreateEntityState s e.key))
          (evaluateRawBand value e.resolved.bands (committed s e.key))).committed ∧
      (Counts e.config.dwellEvaluations seen (counter (getOrCreateEntityState s e.key)) →
        Counts e.config.dwellEvaluations (seen ++ [evaluateRawBand value e.resolved.bands (committed s e.key)])
          (counter (getOrCreateEntityState (step s e) e.key))) := by
  cases replay : isReplay (getOrCreateEntityState s e.key) value with
  | true =>
    obtain ⟨same,idle⟩ := settled value present replay
    rw [step_replay present replay,same]
    refine ⟨by simp [observe,counter,committed],?_⟩
    intro _
    rw [counter,idle]
    exact Debounce.counts_settled seen
  | false =>
    rw [step_filtered present replay,filterValue_counter]
    exact ⟨rfl,Debounce.observe_counts e.config.dwellPositive⟩

theorem step_counts (present : e.value = some value) (settled : ReplaySettled s e)
    (counts : Counts e.config.dwellEvaluations seen (counter (getOrCreateEntityState s e.key))) :
    Counts e.config.dwellEvaluations (seen ++ (rawState s e).toList)
      (counter (getOrCreateEntityState (step s e) e.key)) := by
  simpa [rawState,present] using (step_counter seen present settled).2 counts

theorem step_commits (present : e.value = some value) (settled : ReplaySettled s e)
    (counts : Counts e.config.dwellEvaluations seen (counter (getOrCreateEntityState s e.key)))
    (state : ThresholdState) (differs : state ≠ committed s e.key) :
    committed (step s e) e.key = state ↔ Held state e.config.dwellEvaluations (seen ++ (rawState s e).toList) := by
  have exact := Debounce.observe_exact (evaluateRawBand value e.resolved.bands (committed s e.key))
    e.config.dwellPositive counts differs
  rw [← (step_counter seen present settled).1] at exact
  change (counter (getOrCreateEntityState (step s e) e.key)).committed = state ↔ _
  simpa [rawState,present] using exact

end Step

theorem run_counts {start : ThresholdEvaluator} {rule : ThresholdRule} {key : TrackerKey}
    (fresh : start.entityStates.lookup key = none) {evaluations : List Evaluation}
    (ofRule : ∀ e ∈ evaluations, e.key = key → e.resolved.rule = rule)
    (met : Along step (fun s e => e.key = key → ReplaySettled s e) start evaluations) :
    Counts rule.antiFlapping.dwellEvaluations (rawStates key start evaluations)
      (counter (getOrCreateEntityState (run step start evaluations) key)) := by
  induction evaluations using List.reverseRecOn with
  | nil =>
    rw [run_nil,getOrCreateEntityState,fresh]
    exact Debounce.counts_nil _ _
  | append_singleton before e ih =>
    rw [along_append] at met
    have counts := ih (fun other member => ofRule other (List.mem_append_left _ member)) met.1
    rw [run_append,rawStates_snoc,run_cons,run_nil]
    by_cases here : e.key = key
    · have config : e.config = rule.antiFlapping := by rw [Evaluation.config,ofRule e (by simp) here]
      rw [if_pos here]
      subst here
      rw [← config] at counts ⊢
      cases present : e.value with
      | none => simpa [rawState,present,step_missing present] using counts
      | some value => exact step_counts present (met.2.1 rfl) counts
    · rw [if_neg here,List.append_nil,step_elsewhere _ (Ne.symm here)]
      exact counts

theorem snoc_commits {start : ThresholdEvaluator} {rule : ThresholdRule} {key : TrackerKey}
    (fresh : start.entityStates.lookup key = none) {before : List Evaluation} {e : Evaluation}
    (ofRule : ∀ other ∈ before ++ [e], other.key = key → other.resolved.rule = rule)
    (here : e.key = key) (present : e.value.isSome = true)
    (met : Along step (fun s other => other.key = key → ReplaySettled s other) start (before ++ [e])) :
    CommitsExactly rule.antiFlapping.dwellEvaluations key start before e := by
  obtain ⟨value,present⟩ := Option.isSome_iff_exists.mp present
  rw [along_append] at met
  have counts := run_counts fresh (fun other member => ofRule other (List.mem_append_left _ member)) met.1
  have settled : ReplaySettled (run step start before) e := met.2.1 here
  have config : e.config = rule.antiFlapping := by rw [Evaluation.config,ofRule e (by simp) here]
  subst here
  unfold CommitsExactly
  rw [← config] at counts ⊢
  simp only [rawStates_snoc,if_true]
  have exact := step_commits present settled counts
  refine ⟨?_,?_⟩
  · intro state
    rw [and_comm]
    exact and_congr_right (exact state)
  · intro unheld
    by_contra changed
    exact unheld _ changed ((exact _ changed).mp rfl)

/-- In every run whose repeated values are all settled, the committed state
changes exactly after the dwell of its rule. Evaluations of other entities and
missing values may stand between those of the entity. -/
theorem committed_exactly_after_dwell (start : ThresholdEvaluator) (rule : ThresholdRule) (tenantId entityId : String)
    (fresh : start.entityStates.lookup (tenantId, entityId, rule.id) = none) (evaluations : List Evaluation)
    (ofRule : ∀ e ∈ evaluations, e.key = (tenantId, entityId, rule.id) → e.resolved.rule = rule)
    (met : Along step (fun s e => e.key = (tenantId, entityId, rule.id) → ReplaySettled s e) start evaluations) :
    ∀ before e after, evaluations = before ++ e :: after → e.key = (tenantId, entityId, rule.id) →
      e.value.isSome = true →
      CommitsExactly rule.antiFlapping.dwellEvaluations (tenantId, entityId, rule.id) start before e := by
  rintro before e after rfl here present
  have prefixed : before ++ e :: after = (before ++ [e]) ++ after := by simp
  rw [prefixed] at ofRule met
  rw [along_append] at met
  exact snoc_commits fresh (fun other member => ofRule other (List.mem_append_left _ member)) here present met.1

def budgetReading (dwell : ℕ) (positive : 1 ≤ dwell) (minute : ℕ) (value : ℚ) : Evaluation where
  tenantId := "t1"
  entityId := "vm"
  value := some value
  resolved := ⟨createTenantDefaultBudgetRule "t1" 3600 dwell positive,createConfigurableBudgetBands 70 90 100 2⟩
  scopeId := none
  evaluatedAt := minute * (60 * 10^6)
  utcOffset := 0

def dwellTwice (minute : ℕ) (value : ℚ) : Evaluation := budgetReading 2 (Nat.le_succ 1) minute value

/-- Two values above the budget commit the critical state; the fall is seen
twice with one value, and the second time is not counted. -/
theorem repeated_fall_uncounted :
    (∀ e ∈ [dwellTwice 0 110, dwellTwice 1 110, dwellTwice 2 50, dwellTwice 3 50],
      e.key = ("t1", "vm", "thr-default-budget-t1") ∧ e.value.isSome = true ∧ e.config.dwellEvaluations = 2) ∧
    ¬ CommitsExactly 2 ("t1", "vm", "thr-default-budget-t1") .init [dwellTwice 0 110, dwellTwice 1 110, dwellTwice 2 50] (dwellTwice 3 50) := by
  refine ⟨by decide +kernel,?_⟩
  intro exactly
  have fell := (exactly.1 .normal).mpr ⟨by decide +kernel,[.critical, .critical],by decide +kernel⟩
  exact absurd fell.1 (by decide +kernel)

theorem distinct_values_commit :
    CommitsExactly 2 ("t1", "vm", "thr-default-budget-t1") .init [dwellTwice 0 110, dwellTwice 1 110, dwellTwice 2 50] (dwellTwice 3 51) := by
  refine committed_exactly_after_dwell .init (createTenantDefaultBudgetRule "t1" 3600 2 (Nat.le_succ 1)) "t1" "vm" rfl
    [dwellTwice 0 110, dwellTwice 1 110, dwellTwice 2 50, dwellTwice 3 51] ?_ ?_ [dwellTwice 0 110, dwellTwice 1 110, dwellTwice 2 50] (dwellTwice 3 51) [] rfl rfl rfl
  · intro e member _
    simp only [List.mem_cons,List.not_mem_nil,or_false] at member
    rcases member with rfl | rfl | rfl | rfl <;> rfl
  · refine ⟨?_,?_,?_,?_,trivial⟩ <;> intro _ value present replay <;> cases present
    · exact absurd replay (by decide +kernel)
    · exact absurd replay (by decide +kernel)
    · exact absurd replay (by decide +kernel)
    · exact absurd replay (by decide +kernel)

end CloudLens.Thresholds
