import CloudLens.Connectors.RateLimiter
import CloudLens.Connectors.Recovery

/-! The hourly quota of a connector, as execution charges it, against the provider
operations that execution invokes. A call is charged once, before its attempts. -/
namespace CloudLens.Connectors
open Library Library.Runs

variable {Result : Type}

section Tracker

/-- Readings of the clock are microseconds, counted from a full hour of UTC. -/
def hourLength : ℕ := 3600000000

def hourOf (now : ℕ) : ℕ := now / hourLength

structure HourlyQuotaTracker where
  defaultHourlyLimit : ℤ := 10000
  customLimits : ConnectorKey → Option ℤ
  counts : ConnectorKey → ℕ → ℕ

/-- A diagnostic needs a limit of at least one. The percentage is left out. -/
structure HourlyQuotaDiagnostic where
  key : ConnectorKey
  windowHour : ℕ
  requestsMade : ℕ
  hourlyLimit : ℤ
  limited : 1 ≤ hourlyLimit
  remainingHeadroom : ℤ
  isExhausted : Bool
  resetsAt : ℕ

structure QuotaExhausted where
  hourlyLimit : ℤ
  resetsAt : ℕ

namespace HourlyQuotaTracker

variable (quota : HourlyQuotaTracker) (key : ConnectorKey)

def getLimit : ℤ := (quota.customLimits key).getD quota.defaultHourlyLimit

/-- Absent where the limit is refused by the model of the diagnostic. -/
def diagnostic (hour made : ℕ) : Option HourlyQuotaDiagnostic :=
  if limited : 1 ≤ quota.getLimit key then
    let remaining := max 0 (quota.getLimit key - made)
    some ⟨key,hour,made,quota.getLimit key,limited,remaining,remaining = 0,(hour + 1) * hourLength⟩
  else none

def getDiagnostic (now : ℕ) : Option HourlyQuotaDiagnostic := quota.diagnostic key (hourOf now) (quota.counts key (hourOf now))

def setCount (hour count : ℕ) : HourlyQuotaTracker :=
  { quota with counts := fun other window => if other = key ∧ window = hour then count else quota.counts other window }

/-- Drops every window before the current one, of every connector. -/
def pruneExpiredWindows (hour : ℕ) : HourlyQuotaTracker :=
  { quota with counts := fun other window => if window < hour then 0 else quota.counts other window }

def recordRequest (count now : ℕ) : Except QuotaExhausted (HourlyQuotaTracker × Option HourlyQuotaDiagnostic) :=
  let hour := hourOf now
  let made := quota.counts key hour + count
  if quota.getLimit key < made then .error ⟨quota.getLimit key,(hour + 1) * hourLength⟩
  else .ok ((quota.setCount key hour made).pruneExpiredWindows hour, quota.diagnostic key hour made)

end HourlyQuotaTracker

end Tracker

section Metering

/-- A call, with how long each attempt waits for the answer of its operation. -/
structure MeteredCall (Result : Type) extends CapabilityCall Result where
  answering : ℕ → ℕ
  within : ∀ i, answering i ≤ (attempts i).ticks

def retried (call : CapabilityCall Result) (attempt : ℕ) (given : Attempt Result) (m : Manager) : Bool :=
  match (runOperation call given m).2.2 with
  | none => false
  | some error => isThrottled error && decide ((attempt : ℤ) < call.maxRetries)

def MeteredCall.invokedAt (call : MeteredCall Result) (attempt : ℕ) (m : Manager) : ℕ :=
  m.now + ((call.attempts attempt).ticks - call.answering attempt)

/-- When the retry loop, with `left` iterations to go, invokes the operation. -/
def MeteredCall.invocations (call : MeteredCall Result) : ℕ → ℕ → Manager → List ℕ
  | 0, _, _ => []
  | left + 1, attempt, m =>
    let given := call.attempts attempt
    let reached := m.wait given.ticks
    if given.token = false then []
    else if given.slot = false then call.invocations left (attempt + 1) reached
    else
      call.invokedAt attempt m ::
        if retried call.toCapabilityCall attempt given reached then
          call.invocations left (attempt + 1) (runOperation call.toCapabilityCall given reached).1
        else []

def reachesQuota (m : Manager) (call : CapabilityCall Result) : Bool :=
  call.key.1 ≠ "" && call.declared && decide (((m.readBreaker call.key.2 call.capability).breakers call.key.2 call.capability).state ≠ .opened)

/-- The manager and the tracker, with every provider operation ever invoked and the
hour of the last charge. -/
structure Metered where
  manager : Manager
  quota : HourlyQuotaTracker
  invoked : List (ConnectorKey × ℕ)
  charged : ℕ

inductive MeteredStep (Result : Type)
  | wait (ticks : ℕ)
  | call (call : MeteredCall Result)

def MeteredCall.answered (call : MeteredCall Result) (admits : Bool) : MeteredCall Result := { call with withinQuota := admits }

namespace Metered

def charge (s : Metered) (call : MeteredCall Result) : Except QuotaExhausted (HourlyQuotaTracker × Option HourlyQuotaDiagnostic) :=
  s.quota.recordRequest call.key 1 s.manager.now

def operations (s : Metered) (call : MeteredCall Result) : List ℕ :=
  call.invocations (call.maxRetries + 1).toNat 0 (s.manager.readBreaker call.key.2 call.capability)

def step (s : Metered) : MeteredStep Result → Metered
  | .wait ticks => { s with manager := s.manager.wait ticks }
  | .call call =>
    if reachesQuota s.manager call.toCapabilityCall then
      match s.charge call with
      | .ok (quota, _) =>
        ⟨(executeCapability s.manager (call.answered true).toCapabilityCall).1,quota,s.invoked ++ (s.operations call).map (Prod.mk call.key),
          hourOf s.manager.now⟩
      | .error _ => { s with manager := (executeCapability s.manager (call.answered false).toCapabilityCall).1 }
    else { s with manager := (executeCapability s.manager call.toCapabilityCall).1 }

def invokedIn (s : Metered) (key : ConnectorKey) (hour : ℕ) : ℕ :=
  s.invoked.countP (fun entry => entry.1 = key ∧ hourOf entry.2 = hour)

/-- No connector is over its limit in any hour, and the diagnostic of an hour that is
not pruned says what was invoked in it. A limit below zero admits as little as zero. -/
structure BudgetedSince (s : Metered) : Prop where
  within : ∀ key hour, (s.invokedIn key hour : ℤ) ≤ max 0 (s.quota.getLimit key)
  reported : ∀ key now diagnostic, s.charged ≤ hourOf now → s.quota.getDiagnostic key now = some diagnostic →
    s.invokedIn key (hourOf now) = diagnostic.requestsMade

/-- The same with the diagnostic of any hour. -/
structure Budgeted (s : Metered) : Prop where
  within : ∀ key hour, (s.invokedIn key hour : ℤ) ≤ max 0 (s.quota.getLimit key)
  reported : ∀ key now diagnostic, s.quota.getDiagnostic key now = some diagnostic → s.invokedIn key (hourOf now) = diagnostic.requestsMade

end Metered

section Conditions

variable (call : MeteredCall Result)

/-- No attempt from here on invokes the operation before the call ends. -/
def Barren : ℕ → ℕ → Prop
  | 0, _ => True
  | left + 1, attempt => (call.attempts attempt).token = true → (call.attempts attempt).slot = false ∧ Barren left (attempt + 1)

/-- The first attempt with a token and a slot comes within the hour, after attempts
with a token only, and if it is retried then all to follow is barren. -/
def Single (hour : ℕ) : ℕ → ℕ → Manager → Prop
  | 0, _, _ => False
  | left + 1, attempt, m =>
    let given := call.attempts attempt
    let reached := m.wait given.ticks
    given.token = true ∧
      if given.slot = true then
        hourOf (call.invokedAt attempt m) = hour ∧ (retried call.toCapabilityCall attempt given reached = true → Barren call left (attempt + 1))
      else Single hour left (attempt + 1) reached

/-- A call that is charged invokes its operation once, in the hour of the charge. -/
def ChargedOnce (s : Metered) : MeteredStep Result → Prop
  | .wait _ => True
  | .call call => reachesQuota s.manager call.toCapabilityCall = true → (s.quota.counts call.key (hourOf s.manager.now) : ℤ) < s.quota.getLimit call.key →
    Single call (hourOf s.manager.now) (call.maxRetries + 1).toNat 0 (s.manager.readBreaker call.key.2 call.capability)

/-- Before a charge no operation was invoked in an earlier hour: its window is dropped,
and the diagnostic would say zero. -/
def PrunesNothing (s : Metered) : MeteredStep Result → Prop
  | .wait _ => True
  | .call call => reachesQuota s.manager call.toCapabilityCall = true → (s.quota.counts call.key (hourOf s.manager.now) : ℤ) < s.quota.getLimit call.key →
    ∀ key hour, 1 ≤ s.quota.getLimit key → hour < hourOf s.manager.now → s.invokedIn key hour = 0

end Conditions

section Invocations

variable {call : MeteredCall Result} {left attempt hour : ℕ} {m : Manager}

theorem le_of_mem_invocations {t : ℕ} (member : t ∈ call.invocations left attempt m) : m.now ≤ t := by
  induction left generalizing attempt m with
  | zero => cases member
  | succ left ih =>
    have waited : m.now ≤ (m.wait (call.attempts attempt).ticks).now := Nat.le_add_right _ _
    have operated : (m.wait (call.attempts attempt).ticks).now ≤
        (runOperation call.toCapabilityCall (call.attempts attempt) (m.wait (call.attempts attempt).ticks)).1.now :=
      runOperation_spares.now
    unfold MeteredCall.invocations at member
    dsimp only at member
    split_ifs at member
    · cases member
    · exact waited.trans (ih member)
    · rcases List.mem_cons.mp member with rfl | later
      · exact Nat.le_add_right _ _
      · exact waited.trans (operated.trans (ih later))
    · rw [List.mem_singleton.mp member]
      exact Nat.le_add_right _ _

theorem invocations_eq_nil_iff : call.invocations left attempt m = [] ↔ Barren call left attempt := by
  induction left generalizing attempt m with
  | zero => exact iff_of_true rfl trivial
  | succ left ih =>
    unfold MeteredCall.invocations Barren
    dsimp only
    cases (call.attempts attempt).token with
    | false => simp
    | true =>
      cases (call.attempts attempt).slot with
      | false => simpa using ih
      | true => simp

theorem single_iff : (call.invocations left attempt m).map hourOf = [hour] ↔ Single call hour left attempt m := by
  induction left generalizing attempt m with
  | zero => simp [MeteredCall.invocations,Single]
  | succ left ih =>
    unfold MeteredCall.invocations Single
    dsimp only
    cases (call.attempts attempt).token with
    | false => simp
    | true =>
      cases (call.attempts attempt).slot with
      | false => simpa using ih
      | true =>
        simp only [Bool.true_eq_false,if_false,if_true,true_and,List.map_cons,List.cons.injEq,List.map_eq_nil_iff]
        refine and_congr_right fun _ => ?_
        split
        · rename_i again
          rw [invocations_eq_nil_iff]
          exact ⟨fun barren _ => barren,fun barren => barren again⟩
        · rename_i final
          exact iff_of_true rfl fun again => absurd again final

end Invocations

section Counting

variable {quota : HourlyQuotaTracker} {key other : ConnectorKey} {hour window made now : ℕ}

theorem hourOf_start (hour : ℕ) : hourOf (hour * hourLength) = hour := Nat.mul_div_cancel hour (by decide)

theorem hourOf_mono {first last : ℕ} (order : first ≤ last) : hourOf first ≤ hourOf last := Nat.div_le_div_right order

namespace HourlyQuotaTracker

theorem diagnostic_eq_some {diagnostic : HourlyQuotaDiagnostic} (given : quota.diagnostic key hour made = some diagnostic) :
    1 ≤ quota.getLimit key ∧ diagnostic.requestsMade = made := by
  unfold HourlyQuotaTracker.diagnostic at given
  split at given
  · rename_i limited
    cases given
    exact ⟨limited,rfl⟩
  · cases given

theorem exists_diagnostic (limited : 1 ≤ quota.getLimit key) : ∃ diagnostic, quota.diagnostic key hour made = some diagnostic := by
  unfold HourlyQuotaTracker.diagnostic
  rw [dif_pos limited]
  exact ⟨_,rfl⟩

def charged (quota : HourlyQuotaTracker) (key : ConnectorKey) (hour : ℕ) : HourlyQuotaTracker :=
  (quota.setCount key hour (quota.counts key hour + 1)).pruneExpiredWindows hour

theorem counts_charged (later : hour ≤ window) : (quota.charged key hour).counts other window =
    quota.counts other window + if other = key ∧ window = hour then 1 else 0 := by
  change (if window < hour then 0 else if other = key ∧ window = hour then quota.counts key hour + 1 else quota.counts other window) = _
  rw [if_neg (not_lt.mpr later)]
  split
  · rename_i same
    rw [same.1,same.2]
  · rfl

theorem recordRequest_admits (admits : (quota.counts key (hourOf now) : ℤ) < quota.getLimit key) :
    quota.recordRequest key 1 now = .ok (quota.charged key (hourOf now), quota.diagnostic key (hourOf now) (quota.counts key (hourOf now) + 1)) := by
  unfold recordRequest
  dsimp only
  rw [if_neg]
  · rfl
  · omega

theorem recordRequest_refuses (refuses : ¬ (quota.counts key (hourOf now) : ℤ) < quota.getLimit key) :
    ∃ exhausted, quota.recordRequest key 1 now = .error exhausted := by
  unfold recordRequest
  dsimp only
  rw [if_pos]
  · exact ⟨_,rfl⟩
  · omega

end HourlyQuotaTracker

theorem count_iff_singleton {hours : List ℕ} (after : ∀ h ∈ hours, hour ≤ h) :
    (∀ window, hour ≤ window → hours.count window = if window = hour then 1 else 0) ↔ hours = [hour] := by
  constructor
  · intro counts
    have once : hours.count hour = 1 := by rw [counts hour le_rfl,if_pos rfl]
    have all : ∀ h ∈ hours, h = hour := by
      intro h member
      by_contra other
      have none := counts h (after h member)
      rw [if_neg other,List.count_eq_zero] at none
      exact none member
    have repeated := List.eq_replicate_of_mem all
    rw [repeated,List.count_replicate_self] at once
    rw [repeated,once]
    rfl
  · rintro rfl window _
    rcases eq_or_ne window hour with rfl | other
    · rw [if_pos rfl,List.count_singleton_self]
    · rw [if_neg other,List.count_eq_zero]
      simpa using other

end Counting

section Steps

variable {s : Metered}

namespace Metered

theorem budgetedSince_iff : s.BudgetedSince ↔ (∀ key hour, (s.invokedIn key hour : ℤ) ≤ max 0 (s.quota.getLimit key)) ∧
    ∀ key hour, 1 ≤ s.quota.getLimit key → s.charged ≤ hour → s.invokedIn key hour = s.quota.counts key hour := by
  constructor
  · intro budgeted
    refine ⟨budgeted.within,fun key hour limited kept => ?_⟩
    have start := hourOf_start hour
    obtain ⟨diagnostic,given⟩ : ∃ diagnostic, s.quota.getDiagnostic key (hour * hourLength) = some diagnostic :=
      HourlyQuotaTracker.exists_diagnostic limited
    have reported := budgeted.reported key (hour * hourLength) diagnostic (by rwa [start]) given
    rw [(HourlyQuotaTracker.diagnostic_eq_some given).2,start] at reported
    exact reported
  · intro met
    refine ⟨met.1,fun key now diagnostic kept given => ?_⟩
    obtain ⟨limited,made⟩ := HourlyQuotaTracker.diagnostic_eq_some given
    rw [made]
    exact met.2 key (hourOf now) limited kept

/-- Of the hours before the last charge nothing is counted. -/
def Pruned (s : Metered) : Prop := ∀ key hour, hour < s.charged → s.quota.counts key hour = 0

theorem budgeted_iff (pruned : s.Pruned) : s.Budgeted ↔
    s.BudgetedSince ∧ ∀ key hour, 1 ≤ s.quota.getLimit key → hour < s.charged → s.invokedIn key hour = 0 := by
  constructor
  · intro budgeted
    refine ⟨⟨budgeted.within,fun key now diagnostic _ given => budgeted.reported key now diagnostic given⟩,fun key hour limited earlier => ?_⟩
    obtain ⟨diagnostic,given⟩ : ∃ diagnostic, s.quota.getDiagnostic key (hour * hourLength) = some diagnostic :=
      HourlyQuotaTracker.exists_diagnostic limited
    have reported := budgeted.reported key (hour * hourLength) diagnostic given
    rw [(HourlyQuotaTracker.diagnostic_eq_some given).2,hourOf_start,pruned key hour earlier] at reported
    exact reported
  · rintro ⟨since,before⟩
    refine ⟨since.within,fun key now diagnostic given => ?_⟩
    rcases lt_or_ge (hourOf now) s.charged with earlier | later
    · obtain ⟨limited,made⟩ := HourlyQuotaTracker.diagnostic_eq_some given
      rw [made,pruned key (hourOf now) earlier]
      exact before key (hourOf now) limited earlier
    · exact since.reported key now diagnostic later given

/-- The charges are not ahead of the clock. -/
def Clocked (s : Metered) : Prop := s.charged ≤ hourOf s.manager.now

/-- A call is charged to the hour, or leaves the tracker and the operations as they are. -/
theorem step_call (call : MeteredCall Result) : ∃ after : Manager, hourOf s.manager.now ≤ hourOf after.now ∧
    ((reachesQuota s.manager call.toCapabilityCall = true ∧
        (s.quota.counts call.key (hourOf s.manager.now) : ℤ) < s.quota.getLimit call.key ∧
        s.step (.call call) = ⟨after,s.quota.charged call.key (hourOf s.manager.now),
          s.invoked ++ (s.operations call).map (Prod.mk call.key),hourOf s.manager.now⟩) ∨
      (¬ (reachesQuota s.manager call.toCapabilityCall = true ∧
          (s.quota.counts call.key (hourOf s.manager.now) : ℤ) < s.quota.getLimit call.key) ∧
        s.step (.call call) = { s with manager := after })) := by
  have later : ∀ call : CapabilityCall Result, hourOf s.manager.now ≤ hourOf (executeCapability s.manager call).1.now :=
    fun call => hourOf_mono (executeCapability_spares call s.manager).now
  unfold step
  by_cases reaches : reachesQuota s.manager call.toCapabilityCall = true
  · simp only [reaches,if_true,true_and]
    by_cases admits : (s.quota.counts call.key (hourOf s.manager.now) : ℤ) < s.quota.getLimit call.key
    · rw [charge,HourlyQuotaTracker.recordRequest_admits admits]
      exact ⟨_,later _,Or.inl ⟨admits,rfl⟩⟩
    · obtain ⟨exhausted,refused⟩ := HourlyQuotaTracker.recordRequest_refuses admits
      rw [charge,refused]
      exact ⟨_,later _,Or.inr ⟨admits,rfl⟩⟩
  · dsimp only
    rw [if_neg reaches]
    exact ⟨_,later _,Or.inr ⟨fun both => reaches both.1,rfl⟩⟩

theorem clocked_step (clocked : s.Clocked) (action : MeteredStep Result) : (s.step action).Clocked := by
  cases action with
  | wait ticks => exact clocked.trans (hourOf_mono (Nat.le_add_right _ _))
  | call call =>
    obtain ⟨after,later,⟨_,_,stepped⟩ | ⟨_,stepped⟩⟩ := s.step_call call
    · rw [stepped]
      exact later
    · rw [stepped]
      exact clocked.trans later

theorem pruned_step (pruned : s.Pruned) (action : MeteredStep Result) : (s.step action).Pruned := by
  cases action with
  | wait ticks => exact pruned
  | call call =>
    obtain ⟨after,_,⟨_,_,stepped⟩ | ⟨_,stepped⟩⟩ := s.step_call call
    · rw [stepped]
      intro key hour earlier
      exact if_pos earlier
    · rw [stepped]
      exact pruned

theorem le_hours {call : MeteredCall Result} : ∀ h ∈ (s.operations call).map hourOf, hourOf s.manager.now ≤ h := by
  intro h member
  obtain ⟨t,within,rfl⟩ := List.mem_map.mp member
  have started : (s.manager.readBreaker call.key.2 call.capability).now ≤ t := le_of_mem_invocations within
  exact hourOf_mono started

theorem invokedIn_append {call : MeteredCall Result} {key : ConnectorKey} {hour : ℕ} :
    (s.invoked ++ (s.operations call).map (Prod.mk call.key)).countP (fun entry => entry.1 = key ∧ hourOf entry.2 = hour) =
      s.invokedIn key hour + if key = call.key then ((s.operations call).map hourOf).count hour else 0 := by
  rw [List.countP_append,List.countP_map,List.count,List.countP_map]
  congr 1
  by_cases same : key = call.key
  · rw [if_pos same]
    apply List.countP_congr
    intro t _
    simp [same]
  · rw [if_neg same,List.countP_eq_zero]
    intro t _
    simp [Ne.symm same]

theorem budgetedSince_charged_iff {call : MeteredCall Result} (clocked : s.Clocked) (budgeted : s.BudgetedSince)
    (admits : (s.quota.counts call.key (hourOf s.manager.now) : ℤ) < s.quota.getLimit call.key) (after : Manager) :
    BudgetedSince ⟨after,s.quota.charged call.key (hourOf s.manager.now),s.invoked ++ (s.operations call).map (Prod.mk call.key),
        hourOf s.manager.now⟩ ↔ (s.operations call).map hourOf = [hourOf s.manager.now] := by
  obtain ⟨within,counted⟩ := budgetedSince_iff.mp budgeted
  have limited : 1 ≤ s.quota.getLimit call.key := by omega
  rw [budgetedSince_iff,← count_iff_singleton le_hours]
  constructor
  · intro met window later
    have kept := met.2 call.key window limited later
    have before := counted call.key window limited (clocked.trans later)
    rw [Metered.invokedIn,invokedIn_append,if_pos rfl,HourlyQuotaTracker.counts_charged later,before] at kept
    simpa using kept
  · intro single
    have calls : ∀ key window, hourOf s.manager.now ≤ window →
        (if key = call.key then ((s.operations call).map hourOf).count window else 0) =
          if key = call.key ∧ window = hourOf s.manager.now then 1 else 0 := by
      intro key window later
      by_cases same : key = call.key
      · simp only [same,if_true,true_and]
        exact single window later
      · rw [if_neg same,if_neg fun both => same both.1]
    refine ⟨fun key window => ?_,fun key window able later => ?_⟩
    · change ((_ : ℕ) : ℤ) ≤ max 0 (s.quota.getLimit key)
      rw [Metered.invokedIn,invokedIn_append]
      rcases lt_or_ge window (hourOf s.manager.now) with earlier | later
      · have none : ((s.operations call).map hourOf).count window = 0 := by
          rw [List.count_eq_zero]
          intro member
          exact absurd (le_hours window member) (not_le.mpr earlier)
        rw [none,ite_self,add_zero]
        exact within key window
      · rw [calls key window later]
        split
        · rename_i both
          rw [both.1,both.2,counted call.key _ limited clocked]
          omega
        · exact within key window
    · change 1 ≤ s.quota.getLimit key at able
      rw [Metered.invokedIn,invokedIn_append,calls key window later,HourlyQuotaTracker.counts_charged later,
        counted key window able (clocked.trans later)]

theorem budgetedSince_step_iff (clocked : s.Clocked) (budgeted : s.BudgetedSince) (action : MeteredStep Result) :
    (s.step action).BudgetedSince ↔ ChargedOnce s action := by
  cases action with
  | wait ticks => exact iff_of_true ⟨budgeted.within,budgeted.reported⟩ trivial
  | call call =>
    obtain ⟨after,_,⟨reaches,admits,stepped⟩ | ⟨kept,stepped⟩⟩ := s.step_call call
    · simp only [stepped,ChargedOnce,reaches,admits,true_implies]
      rw [← single_iff]
      exact budgetedSince_charged_iff clocked budgeted admits _
    · rw [stepped]
      exact iff_of_true ⟨budgeted.within,budgeted.reported⟩ fun reaches admits => absurd ⟨reaches,admits⟩ kept

theorem invokedIn_earlier {call : MeteredCall Result} {key : ConnectorKey} {hour : ℕ} (earlier : hour < hourOf s.manager.now) :
    (s.invoked ++ (s.operations call).map (Prod.mk call.key)).countP (fun entry => entry.1 = key ∧ hourOf entry.2 = hour) =
      s.invokedIn key hour := by
  have none : ((s.operations call).map hourOf).count hour = 0 := by
    rw [List.count_eq_zero]
    intro member
    exact absurd (le_hours hour member) (not_le.mpr earlier)
  rw [invokedIn_append,none,ite_self,add_zero]

theorem unpruned_step_iff (before : ∀ key hour, 1 ≤ s.quota.getLimit key → hour < s.charged → s.invokedIn key hour = 0)
    (action : MeteredStep Result) :
    (∀ key hour, 1 ≤ (s.step action).quota.getLimit key → hour < (s.step action).charged → (s.step action).invokedIn key hour = 0) ↔
      PrunesNothing s action := by
  cases action with
  | wait ticks => exact iff_of_true before trivial
  | call call =>
    obtain ⟨after,_,⟨reaches,admits,stepped⟩ | ⟨kept,stepped⟩⟩ := s.step_call call
    · simp only [stepped,PrunesNothing,reaches,admits,true_implies]
      refine forall₂_congr fun key hour => forall₂_congr fun limited earlier => ?_
      rw [Metered.invokedIn,invokedIn_earlier earlier]
    · rw [stepped]
      exact iff_of_true before fun reaches admits => absurd ⟨reaches,admits⟩ kept

theorem budgeted_step_iff (clocked : s.Clocked) (pruned : s.Pruned) (budgeted : s.Budgeted) (action : MeteredStep Result) :
    (s.step action).Budgeted ↔ ChargedOnce s action ∧ PrunesNothing s action := by
  obtain ⟨since,before⟩ := (budgeted_iff pruned).mp budgeted
  rw [budgeted_iff (pruned_step pruned action),budgetedSince_step_iff clocked since,unpruned_step_iff before]

def start (manager : Manager) (defaultHourlyLimit : ℤ) (customLimits : ConnectorKey → Option ℤ) : Metered :=
  ⟨manager,⟨defaultHourlyLimit,customLimits,fun _ _ => 0⟩,[],0⟩

section Start

variable {manager : Manager} {defaultHourlyLimit : ℤ} {customLimits : ConnectorKey → Option ℤ}

theorem pruned_start : (start manager defaultHourlyLimit customLimits).Pruned := fun _ _ _ => rfl

theorem budgetedSince_start : (start manager defaultHourlyLimit customLimits).BudgetedSince :=
  budgetedSince_iff.mpr ⟨fun _ _ => le_max_left _ _,fun _ _ _ _ => rfl⟩

theorem budgeted_start : (start manager defaultHourlyLimit customLimits).Budgeted :=
  (budgeted_iff pruned_start).mpr ⟨budgetedSince_start,fun _ _ _ _ => rfl⟩

end Start

end Metered

end Steps

end Metering

/-- Over a run of calls and over every run of tries at the bucket of the connector,
calls are within their budget and tokens within their pace. -/
structure CallsBudgeted (kept : Metered → Prop) (start : Metered) (steps : List (MeteredStep Result)) (bucket : SharedTokenBucket) : Prop where
  calls : ∀ done, done <+: steps → kept (run Metered.step start done)
  tokens : bucket.Bounded

/-- The budget with the diagnostics of all hours, and with those of the hours that are not
pruned. -/
theorem callsBudgeted_iff (manager : Manager) (defaultHourlyLimit : ℤ) (customLimits : ConnectorKey → Option ℤ)
    (steps : List (MeteredStep Result)) (rate burst now : ℚ) :
    (CallsBudgeted Metered.Budgeted (Metered.start manager defaultHourlyLimit customLimits) steps (SharedTokenBucket.create rate burst now) ↔
      Along Metered.step (fun s action => ChargedOnce s action ∧ PrunesNothing s action) (Metered.start manager defaultHourlyLimit customLimits)
        steps ∧ 0 ≤ rate ∧ 0 ≤ burst) ∧
    (CallsBudgeted Metered.BudgetedSince (Metered.start manager defaultHourlyLimit customLimits) steps
        (SharedTokenBucket.create rate burst now) ↔
      Along Metered.step ChargedOnce (Metered.start manager defaultHourlyLimit customLimits) steps ∧ 0 ≤ rate ∧ 0 ≤ burst) := by
  have same : ∀ (s : Metered) (action : MeteredStep Result), s.Clocked ∧ s.Pruned → s.Budgeted → True →
      ((s.step action).Budgeted ↔ ChargedOnce s action ∧ PrunesNothing s action) :=
    fun s action sound budgeted _ => Metered.budgeted_step_iff sound.1 sound.2 budgeted action
  have sameSince : ∀ (s : Metered) (action : MeteredStep Result), s.Clocked ∧ s.Pruned → s.BudgetedSince → True →
      ((s.step action).BudgetedSince ↔ ChargedOnce s action) :=
    fun s action sound budgeted _ => Metered.budgetedSince_step_iff sound.1 budgeted action
  have sound : ∀ (s : Metered) (action : MeteredStep Result), s.Clocked ∧ s.Pruned → True → (s.step action).Clocked ∧ (s.step action).Pruned :=
    fun s action sound _ => ⟨Metered.clocked_step sound.1 action,Metered.pruned_step sound.2 action⟩
  have always : Along Metered.step (fun _ _ => True) (Metered.start manager defaultHourlyLimit customLimits) steps := along_true _ steps
  have throughout := property_throughout_iff (fun s => s.Clocked ∧ s.Pruned) same sound ⟨Nat.zero_le _,Metered.pruned_start⟩
    Metered.budgeted_start always
  have since := property_throughout_iff (fun s => s.Clocked ∧ s.Pruned) sameSince sound ⟨Nat.zero_le _,Metered.pruned_start⟩
    Metered.budgetedSince_start always
  rw [← throughout,← since,← SharedTokenBucket.bounded_create_iff]
  exact ⟨⟨fun met => ⟨met.calls,met.tokens⟩,fun met => ⟨met.1,met.2⟩⟩,⟨fun met => ⟨met.calls,met.tokens⟩,fun met => ⟨met.1,met.2⟩⟩⟩

/-- A discovery call that is throttled once, and answered a second later. -/
def throttledOnce : CapabilityCall Unit where
  key := ("tenant-a", "aws-main")
  capability := .discoverResources
  providerName := "aws"
  declared := true
  withinQuota := true
  maxRetries := 3
  landPayload := false
  attempts := fun attempt =>
    { ticks := 1000000
      token := true
      slot := true
      answer := if attempt = 0 then .error "429 Too Many Requests" else .ok none
      lag := 0
      audit := fun _ => none
      landing := none }

theorem answered_within (i : ℕ) : 0 ≤ (throttledOnce.attempts i).ticks := Nat.zero_le _

def meteredOnce : MeteredCall Unit := ⟨throttledOnce,fun _ => 0,answered_within⟩

def freshManager : Manager where
  settings := ⟨5,30000000,2⟩
  now := 0
  breakers := fun _ _ => .fresh
  states := fun _ => .active
  capabilityHealth := fun _ _ => none

/-- Under a limit of one call an hour the provider is called twice. -/
theorem retries_exceed_quota :
    ¬ CallsBudgeted Metered.Budgeted (Metered.start freshManager 1 fun _ => none) [.call meteredOnce] (SharedTokenBucket.create 50 50 0) := by
  intro budgeted
  have within := (budgeted.calls [.call meteredOnce] List.prefix_rfl).within ("tenant-a", "aws-main") 0
  revert within
  decide +kernel

end CloudLens.Connectors
