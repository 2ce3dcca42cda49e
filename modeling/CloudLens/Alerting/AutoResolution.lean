import CloudLens.Alerting.Vigilance

/-! The dwell of an alert whose condition cleared, against what was heard of the
condition. An alert keeps one time, the last one it was marked cleared at. -/
namespace CloudLens.Alerting
open Library Library.Runs

structure NewAlert where
  alert : AlertEntity
  unmarked : alert.conditionClearedAt = none

inductive DwellAction
  | raise (candidate : NewAlert) (drawn : String) (clock : ℤ)
  | markCleared (alertId : String) (now : ℤ)
  | evaluateAutoResolutions (now : ℤ)

def DwellAction.call : DwellAction → AlertAction
  | .raise candidate drawn clock => .raise candidate.alert drawn clock
  | .markCleared alertId now => .markCleared alertId now
  | .evaluateAutoResolutions now => .evaluateAutoResolutions now

inductive ConditionEvent
  | cleared (now : ℤ)
  | triggered
  deriving DecidableEq

def ConditionEvent.clearedAt : ConditionEvent → Option ℤ
  | .cleared u => some u
  | .triggered => none

structure Clearance where
  store : AlertStore
  events : List ConditionEvent

section Runs

variable (engine : AlertEngine) (id : String)

def heard (store : AlertStore) : DwellAction → List ConditionEvent
  | .raise candidate drawn clock =>
    match engine.raiseAlert candidate.alert drawn clock store with
    | .ok (raised, _) => if raised.id = id then [.triggered] else []
    | .error _ => []
  | .markCleared alertId now => if alertId = id then [.cleared now] else []
  | .evaluateAutoResolutions _ => []

namespace Clearance

def start : Clearance := ⟨.empty,[]⟩

def step (s : Clearance) (action : DwellAction) : Clearance :=
  ⟨engine.perform s.store action.call,s.events ++ heard engine id s.store action⟩

end Clearance

def ClearSince (limit : ℤ) (events : List ConditionEvent) : Prop :=
  ∃ before after u, events = before ++ .cleared u :: after ∧ u ≤ limit ∧ ConditionEvent.triggered ∉ after

def Postponed (limit : ℤ) (events : List ConditionEvent) : Prop :=
  ∃ before after u v, events = before ++ .cleared u :: (after ++ [.cleared v]) ∧ u ≤ limit ∧ limit < v ∧
    ConditionEvent.triggered ∉ after

def AlertEntity.dwellLimit (alert : AlertEntity) (now : ℤ) : ℤ := now - alert.dwellTimeSeconds * 1000000

/-- An evaluation resolves the alert exactly when it is open and clear for its dwell. -/
def ResolvedExactly (s : Clearance) : DwellAction → Prop
  | .evaluateAutoResolutions now => ∀ alert, s.store.getAlert id = some alert →
    (alert.autoResolve now ∈ (AlertEngine.evaluateAutoResolutions now s.store).1 ↔
      alert.isOpen = true ∧ ClearSince (alert.dwellLimit now) s.events)
  | _ => True

/-- No repeated mark puts the resolution off, and the alert is among the newest. -/
def Undelayed (s : Clearance) : DwellAction → Prop
  | .evaluateAutoResolutions now => ∀ alert, s.store.getAlert id = some alert → alert.isOpen = true →
    ¬ Postponed (alert.dwellLimit now) s.events ∧ (ClearSince (alert.dwellLimit now) s.events → alert ∈ s.store.list)
  | _ => True

def Clearance.Marked (s : Clearance) : Prop :=
  ∀ alert, s.store.getAlert id = some alert → alert.isOpen = true →
    alert.conditionClearedAt = s.events.getLast?.bind ConditionEvent.clearedAt

end Runs

section Events

variable {limit : ℤ} {events : List ConditionEvent}

theorem clearSince_of_postponed (postponed : Postponed limit events) : ClearSince limit events := by
  obtain ⟨before,after,u,v,rfl,old,_,untouched⟩ := postponed
  refine ⟨before,after ++ [.cleared v],u,rfl,old,?_⟩
  simpa using untouched

theorem lastCleared_iff : (∃ v, events.getLast?.bind ConditionEvent.clearedAt = some v ∧ v ≤ limit) ↔
    ClearSince limit events ∧ ¬ Postponed limit events := by
  constructor
  · intro met
    obtain ⟨v,lastCleared,old⟩ := met
    obtain ⟨event,isLast,time⟩ := Option.bind_eq_some_iff.mp lastCleared
    obtain ⟨before,rfl⟩ := List.getLast?_eq_some_iff.mp isLast
    cases event with
    | triggered => cases time
    | cleared w =>
      cases time
      refine ⟨⟨before,[],v,rfl,old,List.not_mem_nil⟩,?_⟩
      intro postponed
      obtain ⟨_,after,u,w,same,_,young,_⟩ := postponed
      have ends := congrArg List.getLast? same
      rw [← List.cons_append,← List.append_assoc,List.getLast?_concat,List.getLast?_concat] at ends
      cases ends
      omega
  · intro met
    obtain ⟨⟨before,after,u,rfl,old,untouched⟩,prompt⟩ := met
    rcases List.eq_nil_or_concat' after with rfl | ⟨between,event,rfl⟩
    · exact ⟨u,by rw [List.getLast?_concat]; rfl,old⟩
    · cases event with
      | triggered => simp at untouched
      | cleared v =>
        refine ⟨v,by rw [← List.cons_append,← List.append_assoc,List.getLast?_concat]; rfl,?_⟩
        by_contra young
        exact prompt ⟨before,between,u,v,rfl,old,not_le.mp young,by simpa using untouched⟩

end Events

section Steps

open AlertStore AlertEngine

variable {engine : AlertEngine} {id : String} {s : Clearance}

theorem AlertEntity.repeated_unmarked (alert again : AlertEntity) : (alert.repeated again).conditionClearedAt = none := by
  unfold AlertEntity.repeated
  dsimp only
  split
  · rfl
  · rename_i unmarked
    exact Option.not_isSome_iff_eq_none.mp unmarked

theorem AlertEntity.pendingEscalation_unmarked {alert : AlertEntity} (unmarked : alert.conditionClearedAt = none) :
    alert.pendingEscalation.conditionClearedAt = none := by
  unfold AlertEntity.pendingEscalation
  split <;> exact unmarked

theorem AlertEntity.checkAutoResolveEligible_iff {alert : AlertEntity} {now : ℤ} :
    alert.checkAutoResolveEligible now = true ↔ ∃ v, alert.conditionClearedAt = some v ∧ v ≤ alert.dwellLimit now := by
  unfold AlertEntity.checkAutoResolveEligible AlertEntity.dwellLimit
  cases alert.conditionClearedAt with
  | none => simp
  | some cleared =>
    simp only [decide_eq_true_eq,Option.some.injEq,exists_eq_left']
    omega

theorem Clearance.marked_start : Clearance.start.Marked id := by
  intro alert found
  cases found

theorem getAlert_raise {candidate : NewAlert} {drawn : String} {clock : ℤ} {raised alert : AlertEntity} {after : AlertStore}
    (done : engine.raiseAlert candidate.alert drawn clock s.store = .ok (raised, after))
    (found : after.getAlert id = some alert) (isOpen : alert.isOpen = true) :
    if raised.id = id then alert.conditionClearedAt = none else s.store.getAlert id = some alert := by
  unfold raiseAlert at done
  split at done
  · rename_i existing _
    cases done
    rw [getAlert_saveAlert] at found
    split at found
    · rename_i same
      cases found
      rw [if_pos same.symm]
      exact AlertEntity.repeated_unmarked _ _
    · rename_i other
      rwa [if_neg (Ne.symm other)]
  · split at done
    · cases done
    · rename_i active _
      cases done
      obtain ⟨parent,made⟩ : ∃ parent, parent = engine.stormParent candidate.alert (active ++ [candidate.alert]) drawn clock := ⟨_,rfl⟩
      have unmarked : parent.conditionClearedAt = none := by
        rw [made]
        rfl
      simp only [← made] at found ⊢
      rcases getAlert_saveAll ((active ++ [candidate.alert]).map fun child => child.groupUnder parent.id) (s.store.saveAlert parent) id with
        ⟨same,_⟩ | ⟨child,member,_,read⟩
      · rw [same,getAlert_saveAlert] at found
        split at found
        · rename_i here
          cases found
          rwa [if_pos here.symm]
        · rename_i other
          rwa [if_neg (Ne.symm other)]
      · -- a child of the storm is not open any more
        obtain ⟨was,_,rfl⟩ := List.mem_map.mp member
        rw [read] at found
        cases found
        cases isOpen
    · cases done
      rw [getAlert_saveAlert] at found
      split at found
      · rename_i same
        cases found
        rw [if_pos same.symm]
        exact AlertEntity.pendingEscalation_unmarked candidate.unmarked
      · rename_i other
        rwa [if_neg (Ne.symm other)]

theorem marked_step (marked : s.Marked id) (action : DwellAction) : (s.step engine id action).Marked id := by
  intro alert found isOpen
  unfold Clearance.step at found ⊢
  cases action with
  | raise candidate drawn clock =>
    cases done : engine.raiseAlert candidate.alert drawn clock s.store with
    | error fault =>
      simp only [DwellAction.call,perform,done,savedBy] at found
      simpa only [heard,done,List.append_nil] using marked alert found isOpen
    | ok result =>
      obtain ⟨raised,after⟩ := result
      simp only [DwellAction.call,perform,done,savedBy] at found
      have reading := getAlert_raise done found isOpen
      simp only [heard,done]
      split at reading
      · rename_i returned
        rw [if_pos returned,List.getLast?_concat,reading]
        rfl
      · rename_i other
        rw [if_neg other,List.append_nil]
        exact marked alert reading isOpen
  | markCleared alertId now =>
    simp only [DwellAction.call,perform,AlertEngine.markConditionCleared] at found
    have pointwise : (savedBy (change alertId (fun alert => alert.markConditionCleared now) s.store) s.store).getAlert id =
        (s.store.getAlert id).map (atId alertId fun alert => alert.markConditionCleared now) :=
      getAlert_savedBy_change (s := ⟨s.store,[]⟩) (fun alert : AlertEntity => (rfl : (alert.markConditionCleared now).id = alert.id)) id
    rw [pointwise] at found
    obtain ⟨stored,read,rfl⟩ := Option.map_eq_some_iff.mp found
    have under := getAlert_id read
    simp only [heard]
    by_cases same : alertId = id
    · rw [if_pos same,List.getLast?_concat,atId,if_pos (under.trans same.symm)]
      rfl
    · have other : stored.id ≠ alertId := by
        rw [under]
        exact Ne.symm same
      rw [atId,if_neg other] at isOpen ⊢
      rw [if_neg same,List.append_nil]
      exact marked stored read isOpen
  | evaluateAutoResolutions now =>
    simp only [DwellAction.call,perform,evaluateAutoResolutions] at found
    rw [getAlert_sweep (fun alert : AlertEntity => (rfl : (alert.autoResolve now).id = alert.id))] at found
    obtain ⟨stored,read,same⟩ := Option.map_eq_some_iff.mp found
    simp only [heard,List.append_nil]
    split at same
    · rw [← same] at isOpen
      cases isOpen
    · rw [same] at read
      exact marked alert read isOpen

theorem mem_evaluateAutoResolutions {alert : AlertEntity} {now : ℤ} {store : AlertStore} (found : store.getAlert id = some alert) :
    alert.autoResolve now ∈ (evaluateAutoResolutions now store).1 ↔
      alert ∈ store.list ∧ alert.isOpen = true ∧ alert.checkAutoResolveEligible now = true := by
  unfold evaluateAutoResolutions sweep
  dsimp only
  rw [List.mem_map]
  constructor
  · intro resolved
    obtain ⟨other,member,same⟩ := resolved
    obtain ⟨listed,chosen⟩ := List.mem_filter.mp member
    have under : (other.autoResolve now).id = (alert.autoResolve now).id := congrArg AlertEntity.id same
    change other.id = alert.id at under
    have read := mem_of_mem_list listed
    rw [under,getAlert_id found,found] at read
    cases read
    exact ⟨listed,Bool.and_eq_true_iff.mp chosen⟩
  · intro met
    obtain ⟨listed,chosen⟩ := met
    exact ⟨alert,List.mem_filter.mpr ⟨listed,Bool.and_eq_true_iff.mpr chosen⟩,rfl⟩

theorem resolvedExactly_step_iff (marked : s.Marked id) (action : DwellAction) :
    ResolvedExactly id s action ↔ Undelayed id s action := by
  cases action with
  | raise candidate drawn clock => exact Iff.rfl
  | markCleared alertId now => exact Iff.rfl
  | evaluateAutoResolutions now =>
    refine forall₂_congr fun alert found => ?_
    rw [mem_evaluateAutoResolutions found,AlertEntity.checkAutoResolveEligible_iff]
    by_cases isOpen : alert.isOpen = true
    · rw [marked alert found isOpen,lastCleared_iff]
      simp only [isOpen,true_and,true_implies]
      constructor
      · intro meets
        refine ⟨?_,fun clear => (meets.mpr clear).1⟩
        intro postponed
        exact (meets.mpr (clearSince_of_postponed postponed)).2.2 postponed
      · intro undelayed
        obtain ⟨prompt,listed⟩ := undelayed
        exact ⟨fun resolved => resolved.2.1,fun clear => ⟨listed clear,clear,prompt⟩⟩
    · simp [isOpen]

end Steps

theorem resolvedExactly_iff (engine : AlertEngine) (id : String) (actions : List DwellAction) :
    Along (Clearance.step engine id) (ResolvedExactly id) Clearance.start actions ↔
      Along (Clearance.step engine id) (Undelayed id) Clearance.start actions :=
  along_iff_of_invariant (Clearance.Marked id) (fun _ action marked => resolvedExactly_step_iff marked action)
    (fun _ action marked _ => marked_step marked action) Clearance.marked_start actions

def recovering : NewAlert where
  alert := degraded
  unmarked := rfl

theorem repeated_clear_postpones : ¬ ∀ engine id actions,
    Along (Clearance.step engine id) (ResolvedExactly id) Clearance.start actions := by
  intro always
  have met := (always production degraded.id [.raise recovering "" 0, .markCleared degraded.id 0,
    .markCleared degraded.id 200000000, .evaluateAutoResolutions 300000000]).2.2.2.1
  have resolved := (met (degraded.markConditionCleared 200000000) rfl).mpr
    ⟨rfl,[.triggered],[.cleared 200000000],0,rfl,by decide,by decide⟩
  have listed := (@mem_evaluateAutoResolutions degraded.id _ _ _ rfl).mp resolved
  revert listed
  decide +kernel

end CloudLens.Alerting
