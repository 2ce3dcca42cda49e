import CloudLens.Alerting.Engine
import CloudLens.Library.Runs

/-! What no run of the engine may lose: every raised alert is answered by an open one
that is at least as severe, a fingerprint has one open alert, a settled alert stays
settled, and no urgent alert misses its escalation. -/
namespace CloudLens.Alerting
open Library Library.Runs

inductive AlertAction
  | raise (alert : AlertEntity) (drawn : String) (clock : ℤ)
  | acknowledge (alertId actor : String) (reason remediationTaskId : Option String) (clock : ℤ)
  | resolve (alertId actor : String) (reason : Option String) (clock : ℤ)
  | markCleared (alertId : String) (now : ℤ)
  | evaluateAutoResolutions (now : ℤ)
  | evaluateEscalations (escalationTimeoutSeconds : Option ℤ) (now : ℤ)

def savedBy (result : Except AlertFault (AlertEntity × AlertStore)) (store : AlertStore) : AlertStore :=
  match result with
  | .ok (_, after) => after
  | .error _ => store

def AlertEngine.perform (engine : AlertEngine) (store : AlertStore) : AlertAction → AlertStore
  | .raise alert drawn clock => savedBy (engine.raiseAlert alert drawn clock store) store
  | .acknowledge alertId actor reason task clock => savedBy (acknowledgeAlert alertId actor reason task clock store) store
  | .resolve alertId actor reason clock => savedBy (resolveAlert alertId actor reason clock store) store
  | .markCleared alertId now => savedBy (markConditionCleared alertId now store) store
  | .evaluateAutoResolutions now => (evaluateAutoResolutions now store).2
  | .evaluateEscalations timeout now => (engine.evaluateEscalations timeout now store).2

structure Watch where
  store : AlertStore
  settled : List String

namespace Watch

def start : Watch := ⟨.empty,[]⟩

def step (engine : AlertEngine) (s : Watch) (action : AlertAction) : Watch :=
  let after := engine.perform s.store action
  ⟨after,s.settled ++ (after.alerts.filter AlertEntity.isSettled).map AlertEntity.id⟩

end Watch

def OneOpen (store : AlertStore) : Prop :=
  ∀ a ∈ store.openAlerts, ∀ b ∈ store.openAlerts, a.fingerprint = b.fingerprint → a = b

/-- The call returns an open alert of at least the severity: the alert itself, its
duplicate or its storm parent. -/
def Answered (alert : AlertEntity) (result : Except AlertFault (AlertEntity × AlertStore)) : Prop :=
  ∃ raised after, result = .ok (raised, after) ∧ raised ∈ after.openAlerts ∧ alert.severity ≤ raised.severity ∧
    (raised.id = alert.id ∨ raised.fingerprint = alert.fingerprint ∨ alert.id ∈ raised.childAlertIds)

section Conditions

variable (engine : AlertEngine)

def Due (escalationTimeoutSeconds : Option ℤ) (now : ℤ) (alert : AlertEntity) : Prop :=
  alert.status = .active ∧ alert.urgent = true ∧
    AlertEngine.overdue (escalationTimeoutSeconds.getD engine.defaultEscalationTimeoutSeconds) now alert = true

structure Vigilant (s : Watch) (action : AlertAction) : Prop where
  answered : ∀ alert drawn clock, action = .raise alert drawn clock → Answered alert (engine.raiseAlert alert drawn clock s.store)
  oneOpen : OneOpen (s.step engine action).store
  staysSettled : ∀ alert ∈ (s.step engine action).store.openAlerts, alert.id ∉ s.settled
  escalates : ∀ timeout now, action = .evaluateEscalations timeout now →
    ∀ alert ∈ s.store.alerts, Due engine timeout now alert → (s.step engine action).store.getAlert alert.id = some (alert.escalate now)

/-- The parent of the storm is severe enough, its id is new, and no open alert outside
the storm has its fingerprint. -/
def StormKept (s : Watch) (alert : AlertEntity) (active : List AlertEntity) (drawn : String) : Prop :=
  let children := (active ++ [alert]).map AlertEntity.id
  alert.severity ≤ .high ∧ drawn ∉ children ∧ drawn ∉ s.settled ∧
    ∀ rival ∈ s.store.openAlerts, rival.id ∉ children → rival.id ≠ drawn →
      rival.fingerprint ≠ computeFingerprint engine.tenantId .scopeStormGrouped none alert.scopeId none

def RaiseKept (s : Watch) (alert : AlertEntity) (drawn : String) : Prop :=
  match s.store.findActiveByFingerprint alert.fingerprint, engine.stormAround alert s.store with
  | some existing, _ => alert.severity ≤ existing.severity
  | none, .error _ => False
  | none, .ok (some active) => StormKept engine s alert active drawn
  | none, .ok none => alert.isOpen = true ∧ alert.id ∉ s.settled

def Careful (s : Watch) : AlertAction → Prop
  | .raise alert drawn _ => RaiseKept engine s alert drawn
  | .acknowledge alertId _ _ _ _ => ∀ alert, s.store.getAlert alertId = some alert →
    alert.isOpen = true ∨ (alert.id ∉ s.settled ∧ ∀ rival ∈ s.store.openAlerts, rival.fingerprint ≠ alert.fingerprint)
  | .evaluateEscalations timeout now => ∀ alert ∈ s.store.alerts, Due engine timeout now alert →
    alert ∈ s.store.list ∧ AlertEngine.overdue (engine.timeout timeout) now alert = true
  | _ => True

end Conditions

/-- One open alert for a fingerprint, and none of them was ever settled. -/
structure Watch.Sound (s : Watch) : Prop where
  oneOpen : OneOpen s.store
  unsettled : ∀ alert ∈ s.store.openAlerts, alert.id ∉ s.settled

section Steps

open AlertStore AlertEngine

variable {engine : AlertEngine} {s : Watch}

theorem Watch.sound_start : Watch.start.Sound where
  oneOpen := by
    intro a member
    cases member
  unsettled := by
    intro a member
    cases member

theorem Vigilant.sound {action : AlertAction} (vigilant : Vigilant engine s action) : (s.step engine action).Sound where
  oneOpen := vigilant.oneOpen
  unsettled := by
    intro alert member recorded
    rcases List.mem_append.mp recorded with earlier | now
    · exact vigilant.staysSettled alert member earlier
    · obtain ⟨other,within,same⟩ := List.mem_map.mp now
      obtain ⟨stored,settled⟩ := List.mem_filter.mp within
      obtain ⟨found,isOpen⟩ : (engine.perform s.store action).getAlert alert.id = some alert ∧ alert.isOpen = true :=
        mem_openAlerts.mp member
      rw [← same,mem_alerts.mp stored] at found
      cases found
      rw [AlertEntity.not_isOpen_of_isSettled settled] at isOpen
      cases isOpen

section Pointwise

variable {after : AlertStore} {changed : AlertEntity → AlertEntity}

theorem mem_openAlerts_of_pointwise (same : ∀ id, after.getAlert id = (s.store.getAlert id).map changed)
    (keeps : ∀ alert, (changed alert).id = alert.id) {alert : AlertEntity} :
    alert ∈ after.openAlerts ↔ ∃ stored ∈ s.store.alerts, changed stored = alert ∧ alert.isOpen = true := by
  rw [mem_openAlerts,same]
  simp only [Option.map_eq_some_iff,mem_alerts]
  constructor
  · intro found
    obtain ⟨⟨stored,read,rfl⟩,isOpen⟩ := found
    rw [keeps] at read
    exact ⟨stored,read,rfl,isOpen⟩
  · intro found
    obtain ⟨stored,read,rfl,isOpen⟩ := found
    rw [keeps]
    exact ⟨⟨stored,read,rfl⟩,isOpen⟩

theorem sound_of_pointwise (sound : s.Sound) (same : ∀ id, after.getAlert id = (s.store.getAlert id).map changed)
    (keeps : ∀ alert, (changed alert).id = alert.id) (prints : ∀ alert, (changed alert).fingerprint = alert.fingerprint)
    (opens : ∀ alert, (changed alert).isOpen = true → alert.isOpen = true) :
    OneOpen after ∧ ∀ alert ∈ after.openAlerts, alert.id ∉ s.settled := by
  have before : ∀ alert ∈ after.openAlerts, ∃ stored ∈ s.store.openAlerts, changed stored = alert := by
    intro alert member
    obtain ⟨stored,within,rfl,isOpen⟩ := (mem_openAlerts_of_pointwise same keeps).mp member
    exact ⟨stored,List.mem_filter.mpr ⟨within,opens stored isOpen⟩,rfl⟩
  refine ⟨?_,?_⟩
  · intro a memberA b memberB equal
    obtain ⟨first,withinA,rfl⟩ := before a memberA
    obtain ⟨second,withinB,rfl⟩ := before b memberB
    rw [prints,prints] at equal
    rw [sound.oneOpen first withinA second withinB equal]
  · intro alert member
    obtain ⟨stored,within,rfl⟩ := before alert member
    rw [keeps]
    exact sound.unsettled stored within

theorem vigilant_of_pointwise {action : AlertAction} (sound : s.Sound)
    (same : ∀ id, (engine.perform s.store action).getAlert id = (s.store.getAlert id).map changed)
    (keeps : ∀ alert, (changed alert).id = alert.id) (prints : ∀ alert, (changed alert).fingerprint = alert.fingerprint)
    (opens : ∀ alert, (changed alert).isOpen = true → alert.isOpen = true)
    (raised : ∀ alert drawn clock, action ≠ .raise alert drawn clock) (timed : ∀ timeout now, action ≠ .evaluateEscalations timeout now) :
    Vigilant engine s action where
  answered := fun alert drawn clock this => absurd this (raised alert drawn clock)
  oneOpen := (sound_of_pointwise sound same keeps prints opens).1
  staysSettled := (sound_of_pointwise sound same keeps prints opens).2
  escalates := fun timeout now this => absurd this (timed timeout now)

end Pointwise

section Changes

variable {id : String} {changed : AlertEntity → AlertEntity}

def atId (id : String) (changed : AlertEntity → AlertEntity) (alert : AlertEntity) : AlertEntity :=
  if alert.id = id then changed alert else alert

theorem getAlert_savedBy_change (keeps : ∀ alert, (changed alert).id = alert.id) (other : String) :
    (savedBy (change id changed s.store) s.store).getAlert other = (s.store.getAlert other).map (atId id changed) := by
  cases done : change id changed s.store with
  | ok result => exact getAlert_change keeps done other
  | error fault =>
    rw [savedBy]
    cases read : s.store.getAlert other with
    | none => rfl
    | some stored =>
      have different : stored.id ≠ id := by
        intro same
        rw [← getAlert_id read,same] at read
        rw [change,read] at done
        cases done
      rw [Option.map_some,atId,if_neg different]

theorem atId_id (keeps : ∀ alert, (changed alert).id = alert.id) (alert : AlertEntity) : (atId id changed alert).id = alert.id := by
  unfold atId
  split
  · exact keeps alert
  · rfl

theorem atId_fingerprint (prints : ∀ alert, (changed alert).fingerprint = alert.fingerprint) (alert : AlertEntity) :
    (atId id changed alert).fingerprint = alert.fingerprint := by
  unfold atId
  split
  · exact prints alert
  · rfl

theorem atId_isOpen (opens : ∀ alert, (changed alert).isOpen = true → alert.isOpen = true) (alert : AlertEntity)
    (isOpen : (atId id changed alert).isOpen = true) : alert.isOpen = true := by
  unfold atId at isOpen
  split at isOpen
  · exact opens alert isOpen
  · exact isOpen

variable (changed) in
/-- A change of one alert that does not open it is vigilant. -/
theorem vigilant_change {action : AlertAction} (sound : s.Sound)
    (performed : engine.perform s.store action = savedBy (change id changed s.store) s.store)
    (keeps : ∀ alert, (changed alert).id = alert.id) (prints : ∀ alert, (changed alert).fingerprint = alert.fingerprint)
    (opens : ∀ alert, (changed alert).isOpen = true → alert.isOpen = true)
    (raised : ∀ alert drawn clock, action ≠ .raise alert drawn clock) (timed : ∀ timeout now, action ≠ .evaluateEscalations timeout now) :
    Vigilant engine s action :=
  vigilant_of_pointwise sound (by rw [performed]; exact getAlert_savedBy_change keeps) (atId_id keeps) (atId_fingerprint prints)
    (atId_isOpen opens) raised timed

theorem vigilant_acknowledge_iff (sound : s.Sound) {actor : String} {reason task : Option String} {clock : ℤ} :
    Vigilant engine s (.acknowledge id actor reason task clock) ↔ Careful engine s (.acknowledge id actor reason task clock) := by
  obtain ⟨acked,made⟩ : ∃ acked : AlertEntity → AlertEntity, acked = fun alert => alert.acknowledge actor reason task clock := ⟨_,rfl⟩
  have keeps : ∀ alert, (acked alert).id = alert.id := by
    rw [made]
    exact fun _ => rfl
  have prints : ∀ alert, (acked alert).fingerprint = alert.fingerprint := by
    rw [made]
    exact fun _ => rfl
  have opened : ∀ alert, (acked alert).isOpen = true := by
    rw [made]
    exact fun _ => rfl
  have same : ∀ other, (engine.perform s.store (.acknowledge id actor reason task clock)).getAlert other =
      (s.store.getAlert other).map (atId id acked) := by
    rw [AlertEngine.perform,acknowledgeAlert,← made]
    exact getAlert_savedBy_change keeps
  have members : ∀ {alert}, alert ∈ (s.step engine (.acknowledge id actor reason task clock)).store.openAlerts ↔
      ∃ stored ∈ s.store.alerts, atId id acked stored = alert ∧ alert.isOpen = true :=
    mem_openAlerts_of_pointwise same (atId_id keeps)
  constructor
  · intro vigilant alert found
    by_cases isOpen : alert.isOpen = true
    · exact Or.inl isOpen
    have under := getAlert_id found
    have stored : alert ∈ s.store.alerts := mem_alerts.mpr (under.symm ▸ found)
    have reached := members.mpr ⟨alert,stored,rfl,by rw [atId,if_pos under]; exact opened alert⟩
    refine Or.inr ⟨?_,?_⟩
    · have unsettled := vigilant.staysSettled _ reached
      rwa [atId_id keeps] at unsettled
    · intro rival member print
      obtain ⟨read,rivalOpen⟩ := mem_openAlerts.mp member
      have apart : rival.id ≠ id := by
        intro equal
        rw [equal,found] at read
        cases read
        exact isOpen rivalOpen
      have kept : rival ∈ (s.step engine (.acknowledge id actor reason task clock)).store.openAlerts :=
        members.mpr ⟨rival,mem_alerts.mpr read,by rw [atId,if_neg apart],rivalOpen⟩
      have merged := vigilant.oneOpen rival kept _ reached (by rw [atId_fingerprint prints,print])
      rw [merged,atId_id keeps] at apart
      exact apart under
  · intro careful
    have ready : ∀ stored ∈ s.store.alerts, (atId id acked stored).isOpen = true → stored ∈ s.store.openAlerts ∨
        (stored.id ∉ s.settled ∧ ∀ rival ∈ s.store.openAlerts, rival.fingerprint ≠ stored.fingerprint) := by
      intro stored within isOpen
      by_cases under : stored.id = id
      · rcases careful stored (under ▸ mem_alerts.mp within) with already | apart
        · exact Or.inl (List.mem_filter.mpr ⟨within,already⟩)
        · exact Or.inr apart
      · rw [atId,if_neg under] at isOpen
        exact Or.inl (List.mem_filter.mpr ⟨within,isOpen⟩)
    have closed : ∀ stored ∈ s.store.alerts, (atId id acked stored).isOpen = true → stored ∉ s.store.openAlerts → stored.id = id := by
      intro stored within isOpen absent
      by_contra apart
      rw [atId,if_neg apart] at isOpen
      exact absent (List.mem_filter.mpr ⟨within,isOpen⟩)
    refine ⟨(fun _ _ _ this => by cases this),?_,?_,(fun _ _ this => by cases this)⟩
    · intro a memberA b memberB print
      obtain ⟨first,withinA,rfl,openA⟩ := members.mp memberA
      obtain ⟨second,withinB,rfl,openB⟩ := members.mp memberB
      rw [atId_fingerprint prints,atId_fingerprint prints] at print
      by_cases wasA : first ∈ s.store.openAlerts
      · by_cases wasB : second ∈ s.store.openAlerts
        · rw [sound.oneOpen first wasA second wasB print]
        · rcases ready second withinB openB with now | apart
          · exact absurd now wasB
          · exact absurd print (apart.2 first wasA)
      · by_cases wasB : second ∈ s.store.openAlerts
        · rcases ready first withinA openA with now | apart
          · exact absurd now wasA
          · exact absurd print.symm (apart.2 second wasB)
        · have readA := mem_alerts.mp withinA
          have readB := mem_alerts.mp withinB
          rw [closed first withinA openA wasA] at readA
          rw [closed second withinB openB wasB,readA] at readB
          cases readB
          rfl
    · intro alert member
      obtain ⟨stored,within,rfl,isOpen⟩ := members.mp member
      rw [atId_id keeps]
      rcases ready stored within isOpen with already | apart
      · exact sound.unsettled stored already
      · exact apart.1

end Changes

section Raising

variable {alert : AlertEntity} {drawn : String} {clock : ℤ}

theorem vigilant_raise_iff {raised : AlertEntity} {after : AlertStore} (done : engine.raiseAlert alert drawn clock s.store = .ok (raised, after)) :
    Vigilant engine s (.raise alert drawn clock) ↔
      Answered alert (.ok (raised, after)) ∧ OneOpen after ∧ ∀ alert ∈ after.openAlerts, alert.id ∉ s.settled := by
  have next : (s.step engine (.raise alert drawn clock)).store = after := by
    rw [Watch.step,AlertEngine.perform,done,savedBy]
  constructor
  · intro vigilant
    have answered := vigilant.answered alert drawn clock rfl
    rw [done] at answered
    exact ⟨answered,next ▸ vigilant.oneOpen,next ▸ vigilant.staysSettled⟩
  · intro met
    obtain ⟨answered,oneOpen,stays⟩ := met
    refine ⟨?_,?_,?_,?_⟩
    · intro other drawn' clock' same
      cases same
      rw [done]
      exact answered
    · rw [next]
      exact oneOpen
    · rw [next]
      exact stays
    · intro timeout now same
      cases same

theorem answered_ok {raised : AlertEntity} {after : AlertStore} : Answered alert (.ok (raised, after)) ↔
    raised ∈ after.openAlerts ∧ alert.severity ≤ raised.severity ∧
      (raised.id = alert.id ∨ raised.fingerprint = alert.fingerprint ∨ alert.id ∈ raised.childAlertIds) := by
  unfold Answered
  simp only [Except.ok.injEq,Prod.mk.injEq]
  constructor
  · intro found
    obtain ⟨_,_,⟨rfl,rfl⟩,rest⟩ := found
    exact rest
  · intro rest
    exact ⟨raised,after,⟨rfl,rfl⟩,rest⟩

theorem vigilant_repeated_iff (sound : s.Sound) {existing : AlertEntity}
    (found : s.store.findActiveByFingerprint alert.fingerprint = some existing) :
    Vigilant engine s (.raise alert drawn clock) ↔ alert.severity ≤ existing.severity := by
  obtain ⟨member,print⟩ := findActiveByFingerprint_some found
  obtain ⟨read,isOpen⟩ := mem_openAlerts.mp member
  have done : engine.raiseAlert alert drawn clock s.store =
      .ok (existing.repeated alert, s.store.saveAlert (existing.repeated alert)) := by
    rw [raiseAlert,found]
  have changes : change existing.id (fun stored => stored.repeated alert) s.store =
      .ok (existing.repeated alert, s.store.saveAlert (existing.repeated alert)) := by
    rw [change,read]
  have opens : ∀ stored : AlertEntity, (stored.repeated alert).isOpen = stored.isOpen := by
    intro stored
    simp only [AlertEntity.isOpen,AlertEntity.repeated_status]
  have kept := sound_of_pointwise sound (getAlert_change (fun _ => AlertEntity.repeated_id) changes)
    (atId_id fun _ => AlertEntity.repeated_id) (atId_fingerprint fun _ => AlertEntity.repeated_fingerprint)
    (atId_isOpen fun stored isOpen => (opens stored).symm.trans isOpen)
  rw [vigilant_raise_iff done,answered_ok]
  constructor
  · intro met
    simpa using met.1.2.1
  · intro severe
    refine ⟨⟨?_,by simpa using severe,Or.inr (Or.inl (by simpa using print))⟩,kept⟩
    rw [mem_openAlerts,getAlert_saveAlert,if_pos rfl,opens]
    exact ⟨rfl,isOpen⟩

theorem vigilant_saved_iff (sound : s.Sound) (absent : s.store.findActiveByFingerprint alert.fingerprint = none)
    (calm : engine.stormAround alert s.store = .ok none) :
    Vigilant engine s (.raise alert drawn clock) ↔ alert.isOpen = true ∧ alert.id ∉ s.settled := by
  have done : engine.raiseAlert alert drawn clock s.store = .ok (alert.pendingEscalation, s.store.saveAlert alert.pendingEscalation) := by
    rw [raiseAlert,absent,calm]
  have opens : alert.pendingEscalation.isOpen = alert.isOpen := by
    simp only [AlertEntity.isOpen,AlertEntity.pendingEscalation_status]
  have members : ∀ {other}, other ∈ (s.store.saveAlert alert.pendingEscalation).openAlerts →
      other = alert.pendingEscalation ∨ other ∈ s.store.openAlerts := by
    intro other member
    obtain ⟨read,isOpen⟩ := mem_openAlerts.mp member
    rw [getAlert_saveAlert] at read
    split at read
    · cases read
      exact Or.inl rfl
    · exact Or.inr (mem_openAlerts.mpr ⟨read,isOpen⟩)
  have saved : alert.pendingEscalation ∈ (s.store.saveAlert alert.pendingEscalation).openAlerts ↔ alert.isOpen = true := by
    rw [mem_openAlerts,getAlert_saveAlert,if_pos rfl,opens,and_iff_right rfl]
  rw [vigilant_raise_iff done,answered_ok]
  constructor
  · intro met
    obtain ⟨⟨member,_⟩,_,stays⟩ := met
    have unsettled := stays _ member
    rw [AlertEntity.pendingEscalation_id] at unsettled
    exact ⟨saved.mp member,unsettled⟩
  · intro met
    obtain ⟨isOpen,unsettled⟩ := met
    refine ⟨⟨saved.mpr isOpen,by simp,Or.inl (by simp)⟩,?_,?_⟩
    · intro a memberA b memberB print
      rcases members memberA with rfl | wasA
      · rcases members memberB with rfl | wasB
        · rfl
        · rw [AlertEntity.pendingEscalation_fingerprint] at print
          exact absurd print.symm (findActiveByFingerprint_none absent wasB)
      · rcases members memberB with rfl | wasB
        · rw [AlertEntity.pendingEscalation_fingerprint] at print
          exact absurd print (findActiveByFingerprint_none absent wasA)
        · exact sound.oneOpen a wasA b wasB print
    · intro other member
      rcases members member with rfl | was
      · rwa [AlertEntity.pendingEscalation_id]
      · exact sound.unsettled other was

theorem mem_openAlerts_storm {active : List AlertEntity} {parent : AlertEntity} {after : AlertStore}
    (grouped : engine.groupScopeStorm alert active drawn clock s.store = (parent, after)) {other : AlertEntity} :
    other ∈ after.openAlerts ↔ other.id ∉ (active ++ [alert]).map AlertEntity.id ∧
      (other = parent ∨ other ∈ s.store.openAlerts ∧ other.id ≠ parent.id) := by
  cases grouped
  obtain ⟨parent,made⟩ : ∃ parent, parent = engine.stormParent alert (active ++ [alert]) drawn clock := ⟨_,rfl⟩
  have isOpen : parent.isOpen = true := by
    rw [made]
    rfl
  rw [← made,mem_openAlerts]
  have reading := getAlert_saveAll ((active ++ [alert]).map (fun child => child.groupUnder parent.id)) (s.store.saveAlert parent) other.id
  rw [getAlert_saveAlert] at reading
  rcases reading with ⟨same,apart⟩ | ⟨child,member,under,found⟩
  · have outside : other.id ∉ (active ++ [alert]).map AlertEntity.id := by
      intro inside
      obtain ⟨child,member,same⟩ := List.mem_map.mp inside
      exact apart _ (List.mem_map_of_mem member) same
    rw [same,and_iff_right outside]
    by_cases this : other.id = parent.id
    · rw [if_pos this,Option.some.injEq]
      constructor
      · intro met
        exact Or.inl met.1.symm
      · intro met
        rcases met with rfl | elsewhere
        · exact ⟨rfl,isOpen⟩
        · exact absurd this elsewhere.2
    · rw [if_neg this,← mem_openAlerts]
      constructor
      · intro member
        exact Or.inr ⟨member,this⟩
      · intro met
        rcases met with rfl | elsewhere
        · exact absurd rfl this
        · exact elsewhere.1
  · obtain ⟨was,within,rfl⟩ := List.mem_map.mp member
    rw [found]
    refine iff_of_false ?_ ?_
    · intro met
      obtain ⟨same,otherOpen⟩ := met
      cases same
      cases otherOpen
    · intro met
      have inside : was.id ∈ (active ++ [alert]).map AlertEntity.id := List.mem_map_of_mem within
      exact met.1 (under ▸ inside)

theorem vigilant_storm_iff (sound : s.Sound) (absent : s.store.findActiveByFingerprint alert.fingerprint = none)
    {active : List AlertEntity} (storm : engine.stormAround alert s.store = .ok (some active)) :
    Vigilant engine s (.raise alert drawn clock) ↔ StormKept engine s alert active drawn := by
  obtain ⟨parent,made⟩ : ∃ parent, parent = engine.stormParent alert (active ++ [alert]) drawn clock := ⟨_,rfl⟩
  obtain ⟨after,grouped⟩ : ∃ after, engine.groupScopeStorm alert active drawn clock s.store = (parent, after) := ⟨_,by rw [made]; rfl⟩
  have done : engine.raiseAlert alert drawn clock s.store = .ok (parent, after) := by
    rw [raiseAlert,absent,storm,← grouped]
  have members := @mem_openAlerts_storm engine s alert drawn clock active parent after grouped
  have id : parent.id = drawn := by rw [made]; rfl
  have severity : parent.severity = .high := by rw [made]; rfl
  have covers : alert.id ∈ parent.childAlertIds := by
    rw [made]
    exact List.mem_map_of_mem (by simp)
  have print : parent.fingerprint = computeFingerprint engine.tenantId .scopeStormGrouped none alert.scopeId none := by rw [made]; rfl
  rw [vigilant_raise_iff done,answered_ok,StormKept,← print,← id,severity]
  constructor
  · intro met
    obtain ⟨⟨member,severe,_⟩,oneOpen,stays⟩ := met
    refine ⟨severe,(members.mp member).1,stays parent member,?_⟩
    intro rival stored outside apart same
    have equal := oneOpen rival (members.mpr ⟨outside,Or.inr ⟨stored,apart⟩⟩) parent member same
    exact apart (congrArg AlertEntity.id equal)
  · intro met
    obtain ⟨severe,outside,unsettled,alone⟩ := met
    refine ⟨⟨members.mpr ⟨outside,Or.inl rfl⟩,severe,Or.inr (Or.inr covers)⟩,?_,?_⟩
    · intro a memberA b memberB same
      obtain ⟨outA,fromA⟩ := members.mp memberA
      obtain ⟨outB,fromB⟩ := members.mp memberB
      rcases fromA with rfl | ⟨wasA,apartA⟩
      · rcases fromB with rfl | ⟨wasB,apartB⟩
        · rfl
        · exact absurd same.symm (alone b wasB outB apartB)
      · rcases fromB with rfl | ⟨wasB,apartB⟩
        · exact absurd same (alone a wasA outA apartA)
        · exact sound.oneOpen a wasA b wasB same
    · intro other member
      rcases (members.mp member).2 with rfl | ⟨was,_⟩
      · exact unsettled
      · exact sound.unsettled other was

theorem vigilant_raised_iff (sound : s.Sound) :
    Vigilant engine s (.raise alert drawn clock) ↔ RaiseKept engine s alert drawn := by
  cases found : s.store.findActiveByFingerprint alert.fingerprint with
  | some existing => simp only [RaiseKept,found,vigilant_repeated_iff sound found]
  | none =>
    cases around : engine.stormAround alert s.store with
    | error fault =>
      simp only [RaiseKept,found,around,iff_false]
      intro vigilant
      obtain ⟨raised,after,done,_⟩ := vigilant.answered alert drawn clock rfl
      rw [raiseAlert,found,around] at done
      cases done
    | ok storm =>
      cases storm with
      | none => simp only [RaiseKept,found,around,vigilant_saved_iff sound found around]
      | some active => simp only [RaiseKept,found,around,vigilant_storm_iff sound found around]

end Raising

section Escalating

variable {timeout : Option ℤ} {now : ℤ}

theorem vigilant_escalation_iff (sound : s.Sound) :
    Vigilant engine s (.evaluateEscalations timeout now) ↔ Careful engine s (.evaluateEscalations timeout now) := by
  obtain ⟨chosen,made⟩ : ∃ chosen : AlertEntity → Bool, chosen = fun alert =>
    decide (alert.status = .active) && (alert.urgent && overdue (engine.timeout timeout) now alert) := ⟨_,rfl⟩
  obtain ⟨changed,becomes⟩ : ∃ changed : AlertEntity → AlertEntity, changed = fun alert =>
    if alert ∈ s.store.list ∧ chosen alert = true then alert.escalate now else alert := ⟨_,rfl⟩
  have same : ∀ id, (engine.perform s.store (.evaluateEscalations timeout now)).getAlert id = (s.store.getAlert id).map changed := by
    rw [becomes,made]
    exact AlertEngine.getAlert_sweep (fun _ => rfl)
  have keeps : ∀ alert, (changed alert).id = alert.id := by
    intro alert
    rw [becomes]
    dsimp only
    split <;> rfl
  have prints : ∀ alert, (changed alert).fingerprint = alert.fingerprint := by
    intro alert
    rw [becomes]
    dsimp only
    split <;> rfl
  have opens : ∀ alert, (changed alert).isOpen = true → alert.isOpen = true := by
    intro alert
    rw [becomes]
    dsimp only
    split <;> exact id
  have kept := sound_of_pointwise sound same keeps prints opens
  have escalated : ∀ alert ∈ s.store.alerts, Due engine timeout now alert →
      ((s.step engine (.evaluateEscalations timeout now)).store.getAlert alert.id = some (alert.escalate now) ↔
        alert ∈ s.store.list ∧ overdue (engine.timeout timeout) now alert = true) := by
    intro alert member due
    have read : (s.step engine (.evaluateEscalations timeout now)).store.getAlert alert.id = some (changed alert) := by
      rw [Watch.step,same,mem_alerts.mp member,Option.map_some]
    have selected : chosen alert = overdue (engine.timeout timeout) now alert := by
      rw [made]
      simp [due.1,due.2.1]
    rw [read,Option.some.injEq,becomes]
    dsimp only
    rw [selected]
    split
    · rename_i handled
      exact iff_of_true rfl handled
    · rename_i missed
      exact iff_of_false (AlertEntity.escalate_ne ∘ Eq.symm) missed
  constructor
  · intro vigilant alert member due
    exact (escalated alert member due).mp (vigilant.escalates timeout now rfl alert member due)
  · intro careful
    refine ⟨(fun _ _ _ this => by cases this),kept.1,kept.2,?_⟩
    intro timeout' now' this alert member due
    cases this
    exact (escalated alert member due).mpr (careful alert member due)

end Escalating

end Steps

theorem alerts_never_disappear_iff (engine : AlertEngine) (actions : List AlertAction) :
    Along (Watch.step engine) (Vigilant engine) Watch.start actions ↔ Along (Watch.step engine) (Careful engine) Watch.start actions := by
  refine along_iff_of_invariant Watch.Sound ?_ (fun s action _ vigilant => vigilant.sound) Watch.sound_start actions
  intro s action sound
  cases action with
  | raise alert drawn clock => exact vigilant_raised_iff sound
  | acknowledge alertId actor reason task clock => exact vigilant_acknowledge_iff sound
  | resolve alertId actor reason clock =>
    refine iff_of_true ?_ trivial
    exact vigilant_change (fun alert => alert.resolve actor reason clock) sound rfl (fun _ => rfl) (fun _ => rfl)
      (fun _ isOpen => by cases isOpen) (fun _ _ _ this => by cases this) (fun _ _ this => by cases this)
  | markCleared alertId now =>
    refine iff_of_true ?_ trivial
    exact vigilant_change (fun alert => alert.markConditionCleared now) sound rfl (fun _ => rfl) (fun _ => rfl)
      (fun _ isOpen => isOpen) (fun _ _ _ this => by cases this) (fun _ _ this => by cases this)
  | evaluateAutoResolutions now =>
    refine iff_of_true ?_ trivial
    refine vigilant_of_pointwise sound (AlertEngine.getAlert_sweep fun _ => rfl) ?_ ?_ ?_ (fun _ _ _ this => by cases this)
      (fun _ _ this => by cases this)
    · intro alert
      split <;> rfl
    · intro alert
      split <;> rfl
    · intro alert isOpen
      split at isOpen
      · cases isOpen
      · exact isOpen
  | evaluateEscalations timeout now => exact vigilant_escalation_iff sound

/-- A degraded connector raises a warning, and its failure a critical alert with the
fingerprint of the warning. -/
def degraded : AlertEntity where
  id := "alert-sync-degraded-7"
  createdAt := 0
  alertType := .connectorFailure
  severity := .warning
  source := "ingestion_pipeline"
  affectedResourceId := some "aws-main"
  fingerprint := "b1946ac92492d234"
  fingerprinted := by decide

def quarantined : AlertEntity := { degraded with id := "alert-sync-failed-7", createdAt := 60000000, severity := .critical }

def production : AlertEngine := { backend := .sql, tenantId := "tenant-a" }

theorem critical_repetition_disappears : ¬ ∀ engine actions,
    Along (Watch.step engine) (Vigilant engine) Watch.start actions := by
  intro always
  have answered := (always production [.raise degraded "" 0, .raise quarantined "" 60000000]).2.1.answered quarantined "" 60000000 rfl
  obtain ⟨raised,after,done,_,severe,_⟩ := answered
  cases done
  revert severe
  decide +kernel

end CloudLens.Alerting
