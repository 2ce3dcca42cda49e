import CloudLens.Thresholds.Dwell

/-! Alerts under the cool-down. An alert belongs to the transition into a breach
state, so it is dispatched there or not at all: a state entered in the cool-down
of an earlier alert, or in a storm of its scope, is not alerted later. -/
namespace CloudLens.Thresholds
open Library Library.Calendar Library.Runs

def dispatches (s : ThresholdEvaluator) (e : Evaluation) : Bool := (evaluate s e).2.isAlertDispatched

def stormGroups (s : ThresholdEvaluator) (e : Evaluation) : Bool :=
  match e.scope with
  | none => false
  | some scope =>
    e.config.groupingStormThreshold < ((s.cycleTransitions.lookup (cycleKey e scope)).getD []).length + 1

def alertTime (key : TrackerKey) (s : ThresholdEvaluator) (e : Evaluation) : List Instant :=
  if e.key = key ∧ dispatches s e = true then [e.evaluatedAt] else []

def alertTimes (key : TrackerKey) : ThresholdEvaluator → List Evaluation → List Instant
  | _, [] => []
  | s, e :: rest => alertTime key s e ++ alertTimes key (step s e) rest

def CooledDown (cooldownSeconds : ℕ) (alerts : List Instant) (now : Instant) : Prop :=
  ∀ alert ∈ alerts, (cooldownSeconds : Instant) * 10^6 ≤ now - alert

structure Since (key : TrackerKey) (start : ThresholdEvaluator) (first : List Evaluation) (entry : Evaluation)
    (rest : List Evaluation) : Prop where
  own : entry.key = key
  kept : ∀ middle, middle <+: rest →
    committed (run step start (first ++ entry :: middle)) key = committed (run step start (first ++ entry :: rest)) key

def Alerted (key : TrackerKey) (start : ThresholdEvaluator) (evaluations : List Evaluation) : Prop :=
  ∃ first entry rest, evaluations = first ++ entry :: rest ∧ Since key start first entry rest ∧
    dispatches (run step start first) entry = true

def BreachAlerted (cooldownSeconds : ℕ) (key : TrackerKey) (start : ThresholdEvaluator) (before : List Evaluation)
    (e : Evaluation) : Prop :=
  (committed (run step start (before ++ [e])) key).isBreach = true →
    CooledDown cooldownSeconds (alertTimes key start before) e.evaluatedAt →
    stormGroups (run step start before) e = false → Alerted key start (before ++ [e])

structure Entered (key : TrackerKey) (start : ThresholdEvaluator) (first : List Evaluation) (entry : Evaluation)
    (rest : List Evaluation) : Prop extends Since key start first entry rest where
  changed : committed (step (run step start first) entry) key ≠ committed (run step start first) key

theorem dwellFilter_transition (af : AntiFlappingConfig) (tracker : AntiFlappingEntityState) (raw : ThresholdState)
    (now : Instant) :
    let filtered := dwellFilter af tracker raw now
    filtered.committedState = filtered.tracker.committedState ∧ filtered.isAlertDispatched = false ∧
      filtered.tracker.lastAlertTime = tracker.lastAlertTime ∧
      (filtered.transitionOccurred = true ↔ filtered.committedState ≠ tracker.committedState) := by
  have counted : (countPending tracker raw).committedState = tracker.committedState ∧
      (countPending tracker raw).lastAlertTime = tracker.lastAlertTime := by
    unfold countPending
    split <;> exact ⟨rfl,rfl⟩
  unfold dwellFilter
  by_cases same : raw = tracker.committedState
  · simp [same]
  · by_cases waits : 1 < af.dwellEvaluations
    · by_cases reached : af.dwellEvaluations ≤ (countPending tracker raw).pendingConsecutiveCount
      · simp [same,waits,reached,counted]
      · simp [same,waits,reached,counted]
    · simp [same,waits]

theorem stormFilter_alert (s : ThresholdEvaluator) (e : Evaluation) {filtered : Filtered}
    (unalerted : filtered.isAlertDispatched = false) :
    let next := (stormFilter e s.cycleTransitions filtered).1
    next.isAlertDispatched = !stormGroups s e ∧
      next.tracker.lastAlertTime = if next.isAlertDispatched = true then some e.evaluatedAt
        else filtered.tracker.lastAlertTime := by
  unfold stormFilter stormGroups
  cases named : e.scope with
  | none => simp [alerted]
  | some scope =>
    simp only [List.length_append,List.length_singleton]
    split
    · rename_i grouped
      simp [grouped,unalerted]
    · rename_i single
      simp [single,alerted]

theorem alertFilter_alert (s : ThresholdEvaluator) (e : Evaluation) {filtered : Filtered}
    (unalerted : filtered.isAlertDispatched = false) :
    let next := (alertFilter e s.cycleTransitions filtered).1
    (next.isAlertDispatched = true ↔ filtered.transitionOccurred = true ∧ filtered.committedState.isBreach = true ∧
      inCooldown e.config filtered.tracker.lastAlertTime e.evaluatedAt = false ∧ stormGroups s e = false) ∧
    next.tracker.lastAlertTime = if next.isAlertDispatched = true then some e.evaluatedAt
      else filtered.tracker.lastAlertTime := by
  unfold alertFilter
  by_cases entered : (filtered.transitionOccurred && filtered.committedState.isBreach) = true
  · rw [if_pos entered]
    rw [Bool.and_eq_true] at entered
    cases cooling : inCooldown e.config filtered.tracker.lastAlertTime e.evaluatedAt with
    | true => simp [unalerted]
    | false =>
      obtain ⟨sent,stamped⟩ := stormFilter_alert s e unalerted
      refine ⟨?_,stamped⟩
      simp [sent,entered]
  · rw [if_neg entered]
    rw [Bool.and_eq_true,not_and] at entered
    refine ⟨?_,by simp [unalerted]⟩
    rw [unalerted]
    refine iff_of_false (by simp) ?_
    rintro ⟨moved,breach,-⟩
    exact entered moved breach

theorem filterValue_alert (s : ThresholdEvaluator) (e : Evaluation) (tracker : AntiFlappingEntityState) (value : ℚ) :
    let next := (filterValue e s.cycleTransitions tracker value).1
    (next.isAlertDispatched = true ↔ next.tracker.committedState ≠ tracker.committedState ∧
      next.tracker.committedState.isBreach = true ∧
      inCooldown e.config tracker.lastAlertTime e.evaluatedAt = false ∧ stormGroups s e = false) ∧
    next.tracker.lastAlertTime = if next.isAlertDispatched = true then some e.evaluatedAt
      else tracker.lastAlertTime := by
  unfold filterValue
  have dwelt := dwellFilter_transition e.config {tracker with lastEvaluatedValue := some value}
    (evaluateRawBand value e.resolved.bands tracker.committedState) e.evaluatedAt
  generalize dwellFilter e.config {tracker with lastEvaluatedValue := some value}
    (evaluateRawBand value e.resolved.bands tracker.committedState) e.evaluatedAt = filtered at dwelt ⊢
  obtain ⟨published,unalerted,stamp,moved⟩ := dwelt
  obtain ⟨sent,stamped⟩ := alertFilter_alert s e unalerted
  have same : (alertFilter e s.cycleTransitions filtered).1.tracker.committedState = filtered.tracker.committedState :=
    congrArg Debounce.Counter.committed (alertFilter_counter e s.cycleTransitions filtered)
  rw [moved,published,stamp,← same] at sent
  rw [stamp] at stamped
  exact ⟨sent,stamped⟩

theorem dispatches_iff (s : ThresholdEvaluator) (e : Evaluation) :
    (dispatches s e = true ↔ committed (step s e) e.key ≠ committed s e.key ∧
      (committed (step s e) e.key).isBreach = true ∧
      inCooldown e.config (getOrCreateEntityState s e.key).lastAlertTime e.evaluatedAt = false ∧
      stormGroups s e = false) ∧
    (getOrCreateEntityState (step s e) e.key).lastAlertTime =
      if dispatches s e = true then some e.evaluatedAt else (getOrCreateEntityState s e.key).lastAlertTime := by
  cases present : e.value with
  | none =>
    have quiet : dispatches s e = false := by simp [dispatches,evaluate,present,missingResult]
    simp [quiet,committed,step_missing present]
  | some value =>
    cases replay : isReplay (getOrCreateEntityState s e.key) value with
    | true =>
      have quiet : dispatches s e = false := by simp [dispatches,evaluate,present,replay,replayResult]
      simp [quiet,committed,step_replay present replay]
    | false =>
      have dispatched : dispatches s e =
          (filterValue e s.cycleTransitions (getOrCreateEntityState s e.key) value).1.isAlertDispatched := by
        simp [dispatches,evaluate,present,replay,filteredResult]
      rw [dispatched,committed,step_filtered present replay]
      exact filterValue_alert s e _ value

section Run

variable {key : TrackerKey} {start : ThresholdEvaluator}

theorem alertTimes_snoc (key : TrackerKey) (start : ThresholdEvaluator) (before : List Evaluation) (e : Evaluation) :
    alertTimes key start (before ++ [e]) = alertTimes key start before ++ alertTime key (run step start before) e := by
  induction before generalizing start with
  | nil => simp [alertTimes]
  | cons first before ih => simp [alertTimes,ih,List.append_assoc]

theorem alertTimes_sublist (key : TrackerKey) (start : ThresholdEvaluator) (evaluations : List Evaluation) :
    (alertTimes key start evaluations).Sublist
      ((evaluations.filter (fun e => e.key = key)).map Evaluation.evaluatedAt) := by
  induction evaluations generalizing start with
  | nil => exact List.Sublist.refl _
  | cons e evaluations ih =>
    rw [alertTimes,alertTime,List.filter_cons]
    by_cases own : e.key = key
    · by_cases sent : dispatches start e = true
      · simpa [own,sent] using ih (step start e)
      · simpa [own,sent] using (ih (step start e)).cons e.evaluatedAt
    · simpa [own] using ih (step start e)

theorem run_lastAlert (fresh : start.entityStates.lookup key = none) (evaluations : List Evaluation) :
    (getOrCreateEntityState (run step start evaluations) key).lastAlertTime =
      (alertTimes key start evaluations).getLast? := by
  induction evaluations using List.reverseRecOn with
  | nil => simp [getOrCreateEntityState,fresh,alertTimes]
  | append_singleton before e ih =>
    rw [run_append,run_cons,run_nil,alertTimes_snoc,alertTime]
    by_cases own : e.key = key
    · subst own
      rw [(dispatches_iff _ e).2,ih]
      by_cases sent : dispatches (run step start before) e = true
      · simp [sent]
      · simp [sent]
    · rw [step_elsewhere _ (Ne.symm own),ih]
      simp [own]

theorem inCooldown_iff {af : AntiFlappingConfig} {alerts : List Instant} (ordered : alerts.Pairwise (· ≤ ·))
    (now : Instant) : inCooldown af alerts.getLast? now = false ↔ CooledDown af.cooldownSeconds alerts now := by
  induction alerts using List.reverseRecOn with
  | nil => simp [inCooldown,CooledDown]
  | append_singleton alerts last _ =>
    rw [List.getLast?_concat,inCooldown,decide_eq_false_iff_not,not_lt]
    rw [List.pairwise_append] at ordered
    constructor
    · intro cooled alert member
      rcases List.mem_append.mp member with earlier | final
      · have : alert ≤ last := ordered.2.2 alert earlier last (by simp)
        exact le_trans cooled (sub_le_sub_left this now)
      · rw [List.mem_singleton] at final
        rwa [final]
    · intro cooled
      exact cooled last (by simp)

theorem alertTimes_ordered {evaluations : List Evaluation}
    (ordered : ((evaluations.filter (fun e => e.key = key)).map Evaluation.evaluatedAt).Pairwise (· ≤ ·)) :
    (alertTimes key start evaluations).Pairwise (· ≤ ·) :=
  ordered.sublist (alertTimes_sublist key start evaluations)

theorem prefix_ordered {before rest : List Evaluation}
    (ordered : (((before ++ rest).filter (fun e => e.key = key)).map Evaluation.evaluatedAt).Pairwise (· ≤ ·)) :
    ((before.filter (fun e => e.key = key)).map Evaluation.evaluatedAt).Pairwise (· ≤ ·) := by
  rw [List.filter_append,List.map_append,List.pairwise_append] at ordered
  exact ordered.1

theorem alerts_apart {rule : ThresholdRule} (fresh : start.entityStates.lookup key = none)
    {evaluations : List Evaluation} (ofRule : ∀ e ∈ evaluations, e.key = key → e.resolved.rule = rule)
    (ordered : ((evaluations.filter (fun e => e.key = key)).map Evaluation.evaluatedAt).Pairwise (· ≤ ·)) :
    (alertTimes key start evaluations).Pairwise
      (fun earlier later => (rule.antiFlapping.cooldownSeconds : Instant) * 10^6 ≤ later - earlier) := by
  induction evaluations using List.reverseRecOn with
  | nil => exact List.Pairwise.nil
  | append_singleton before e ih =>
    have apart := ih (fun other member => ofRule other (List.mem_append_left _ member)) (prefix_ordered ordered)
    rw [alertTimes_snoc,alertTime,List.pairwise_append]
    refine ⟨apart,?_,?_⟩
    · split <;> simp
    · intro alert earlier now member
      split at member
      · rename_i sent
        rw [List.mem_singleton] at member
        obtain ⟨own,sent⟩ := sent
        have config : e.config = rule.antiFlapping := by rw [Evaluation.config,ofRule e (by simp) own]
        have cooled := ((dispatches_iff _ e).1.mp sent).2.2.1
        rw [own,run_lastAlert fresh,config,inCooldown_iff (alertTimes_ordered (prefix_ordered ordered))] at cooled
        rw [member]
        exact cooled alert earlier
      · cases member

theorem missing_undispatched (s : ThresholdEvaluator) {e : Evaluation} (missing : e.value = none) :
    dispatches s e = false := by
  simp [dispatches,evaluate,missing,missingResult]

theorem breach_entered (fresh : start.entityStates.lookup key = none) (evaluations : List Evaluation)
    (breach : (committed (run step start evaluations) key).isBreach = true) :
    ∃ first entry rest, evaluations = first ++ entry :: rest ∧ Entered key start first entry rest := by
  induction evaluations using List.reverseRecOn with
  | nil => simp [committed,getOrCreateEntityState,fresh,ThresholdState.isBreach] at breach
  | append_singleton before e ih =>
    by_cases same : committed (run step start (before ++ [e])) key = committed (run step start before) key
    · rw [same] at breach
      obtain ⟨first,entry,rest,rfl,entered⟩ := ih breach
      refine ⟨first,entry,rest ++ [e],by simp,⟨⟨entered.own,?_⟩,entered.changed⟩⟩
      intro middle within
      rw [← List.cons_append,← List.append_assoc,same]
      rcases List.prefix_concat_iff.mp within with whole | within
      · rw [whole,← List.cons_append,← List.append_assoc,same]
      · exact entered.kept middle within
    · have own : e.key = key := by
        by_contra other
        rw [run_append,run_cons,run_nil,committed,step_elsewhere _ (Ne.symm other)] at same
        exact same rfl
      refine ⟨before,e,[],rfl,⟨⟨own,?_⟩,?_⟩⟩
      · intro middle within
        rw [List.prefix_nil.mp within]
      · rwa [run_append,run_cons,run_nil] at same

end Run

/-- Alerts keep the cool-down and never come from a missing value, and the
entry into the breach state that an evaluation finds was alerted if the alerts
before it had cooled down and no storm grouped it. -/
theorem alerts_cool_down (start : ThresholdEvaluator) (rule : ThresholdRule) (tenantId entityId : String)
    (fresh : start.entityStates.lookup (tenantId, entityId, rule.id) = none) (evaluations : List Evaluation)
    (ofRule : ∀ e ∈ evaluations, e.key = (tenantId, entityId, rule.id) → e.resolved.rule = rule)
    (ordered : ((evaluations.filter (fun e => e.key = (tenantId, entityId, rule.id))).map
      Evaluation.evaluatedAt).Pairwise (· ≤ ·)) :
    (alertTimes (tenantId, entityId, rule.id) start evaluations).Pairwise
      (fun earlier later => (rule.antiFlapping.cooldownSeconds : Instant) * 10^6 ≤ later - earlier) ∧
    ∀ before e after, evaluations = before ++ e :: after → e.key = (tenantId, entityId, rule.id) →
      (e.value = none → dispatches (run step start before) e = false) ∧
      ((committed (run step start (before ++ [e])) (tenantId, entityId, rule.id)).isBreach = true →
        ∃ first entry rest, before ++ [e] = first ++ entry :: rest ∧
          Entered (tenantId, entityId, rule.id) start first entry rest ∧
          (CooledDown rule.antiFlapping.cooldownSeconds (alertTimes (tenantId, entityId, rule.id) start first)
              entry.evaluatedAt →
            stormGroups (run step start first) entry = false → dispatches (run step start first) entry = true)) := by
  refine ⟨alerts_apart fresh ofRule ordered,?_⟩
  rintro before e after split own
  refine ⟨missing_undispatched _,?_⟩
  intro breach
  obtain ⟨first,entry,rest,parts,entered⟩ := breach_entered fresh _ breach
  refine ⟨first,entry,rest,parts,entered,?_⟩
  intro cooled single
  have whole : evaluations = first ++ (entry :: rest ++ after) := by
    rw [split,← List.append_assoc,← parts]
    simp
  have member : entry ∈ evaluations := by simp [whole]
  have entryConfig : entry.config = rule.antiFlapping := by rw [Evaluation.config,ofRule entry member entered.own]
  refine (dispatches_iff _ entry).1.mpr ⟨?_,?_,?_,single⟩
  · rw [entered.own]
    exact entered.changed
  · have same := entered.kept [] List.nil_prefix
    rw [← parts,run_append,run_cons,run_nil] at same
    rwa [entered.own,same]
  · rw [whole] at ordered
    rwa [entered.own,run_lastAlert fresh,entryConfig,inCooldown_iff (alertTimes_ordered (prefix_ordered ordered))]

theorem firstReading_dwells : 1 ≤ 1 := Nat.le_refl 1

def budgetOnce (minute : ℕ) (value : ℚ) : Evaluation := budgetReading 1 firstReading_dwells minute value

/-- The second rise above the budget falls into the cool-down of the first
alert. Two hours later the breach is still committed and was never alerted. -/
theorem cooled_breach_unalerted :
    ([budgetOnce 0 105, budgetOnce 5 50, budgetOnce 10 105, budgetOnce 120 106].map Evaluation.evaluatedAt).Pairwise (· ≤ ·) ∧
    ¬ BreachAlerted 3600 ("t1", "vm", "thr-default-budget-t1") .init
      [budgetOnce 0 105, budgetOnce 5 50, budgetOnce 10 105] (budgetOnce 120 106) := by
  refine ⟨by decide +kernel,?_⟩
  intro alerted
  obtain ⟨first,entry,rest,parts,since,sent⟩ := alerted (by decide +kernel) (by unfold CooledDown; decide +kernel)
    (by decide +kernel)
  match first, parts with
  | [], parts =>
    cases parts
    exact absurd (since.kept [budgetOnce 5 50] ⟨[budgetOnce 10 105, budgetOnce 120 106],rfl⟩) (by decide +kernel)
  | [_], parts =>
    cases parts
    exact absurd sent (by decide +kernel)
  | [_, _], parts =>
    cases parts
    exact absurd sent (by decide +kernel)
  | [_, _, _], parts =>
    cases parts
    exact absurd sent (by decide +kernel)
  | _ :: _ :: _ :: _ :: _, parts => simp at parts

theorem second_alert_cooled :
    (alertTimes ("t1", "vm", "thr-default-budget-t1") .init
      [budgetOnce 0 105, budgetOnce 5 50, budgetOnce 70 95]).Pairwise (fun earlier later => 3600 * 10^6 ≤ later - earlier) ∧
    (alertTimes ("t1", "vm", "thr-default-budget-t1") .init
      [budgetOnce 0 105, budgetOnce 5 50, budgetOnce 70 95]).length = 2 := by
  refine ⟨(alerts_cool_down .init (createTenantDefaultBudgetRule "t1" 3600 1 (Nat.le_refl 1)) "t1" "vm" rfl
    [budgetOnce 0 105, budgetOnce 5 50, budgetOnce 70 95] ?_ (by decide +kernel)).1,by decide +kernel⟩
  intro e member _
  simp only [List.mem_cons,List.not_mem_nil,or_false] at member
  rcases member with rfl | rfl | rfl <;> rfl

end CloudLens.Thresholds
