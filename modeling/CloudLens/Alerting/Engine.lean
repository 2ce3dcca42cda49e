import CloudLens.Alerting.Model
import CloudLens.Library.Table

/-! The alerts of a tenant and the operations of the alert engine on them: raising
with deduplication and the grouping of a storm, acknowledgement, resolution, and the
two evaluations over the newest alerts. -/
namespace CloudLens.Alerting
open Library

/-- The table of the database has no column for the scope: the query by scope fails. -/
inductive Backend
  | memory
  | sql
  deriving DecidableEq

structure AlertEngine where
  backend : Backend
  tenantId : String
  scopeStormThreshold : ℤ := 10
  defaultEscalationTimeoutSeconds : ℤ := 3600

inductive AlertFault
  | notFound
  | undefinedColumn
  deriving DecidableEq

structure AlertStore where
  table : Table String AlertEntity
  keyed : ∀ {id alert}, table.lookup id = some alert → alert.id = id

namespace AlertStore

def empty : AlertStore where
  table := ∅
  keyed := by simp

variable (store : AlertStore)

def getAlert (alertId : String) : Option AlertEntity := store.table.lookup alertId

def saveAlert (alert : AlertEntity) : AlertStore where
  table := store.table.upsert (fun _ proposed => proposed) alert.id alert
  keyed := by
    intro id stored found
    rw [Table.lookup_overwrite] at found
    split at found
    · rename_i same
      cases found
      exact same.symm
    · exact store.keyed found

def saveAll (alerts : List AlertEntity) : AlertStore := alerts.foldl saveAlert store

def alerts : List AlertEntity := store.table.entries.map Sigma.snd

def openAlerts : List AlertEntity := store.alerts.filter AlertEntity.isOpen

def findActiveByFingerprint (fingerprint : String) : Option AlertEntity :=
  store.openAlerts.find? (fun alert => alert.fingerprint = fingerprint)

def listActiveByScope (backend : Backend) (scopeId : String) : Except AlertFault (List AlertEntity) :=
  match backend with
  | .memory => .ok (store.openAlerts.filter (fun alert => alert.scopeId = some scopeId))
  | .sql => .error .undefinedColumn

def pageLimit : ℕ := 1000

def list : List AlertEntity :=
  (store.alerts.mergeSort (fun a b => decide (b.createdAt ≤ a.createdAt))).take pageLimit

section Reading

variable {store} {alert : AlertEntity} {id : String}

@[simp] theorem getAlert_saveAlert : (store.saveAlert alert).getAlert id = if id = alert.id then some alert else store.getAlert id :=
  Table.lookup_overwrite _ _ _ _

theorem mem_alerts : alert ∈ store.alerts ↔ store.getAlert alert.id = some alert := by
  unfold alerts getAlert
  rw [List.mem_map,Table.lookup_eq_some_iff]
  constructor
  · intro within
    obtain ⟨⟨key,row⟩,member,rfl⟩ := within
    have same : row.id = key := store.keyed (Table.lookup_eq_some_iff.mpr member)
    subst same
    exact member
  · intro member
    exact ⟨_,member,rfl⟩

theorem getAlert_id (found : store.getAlert id = some alert) : alert.id = id := store.keyed found

theorem mem_openAlerts : alert ∈ store.openAlerts ↔ store.getAlert alert.id = some alert ∧ alert.isOpen = true := by
  rw [openAlerts,List.mem_filter,mem_alerts]

theorem mem_of_mem_list (member : alert ∈ store.list) : store.getAlert alert.id = some alert :=
  mem_alerts.mp (List.mem_mergeSort.mp (List.mem_of_mem_take member))

theorem findActiveByFingerprint_some {fingerprint : String} (found : store.findActiveByFingerprint fingerprint = some alert) :
    alert ∈ store.openAlerts ∧ alert.fingerprint = fingerprint :=
  ⟨List.mem_of_find?_eq_some found,by simpa using List.find?_some found⟩

theorem findActiveByFingerprint_none {fingerprint : String} (absent : store.findActiveByFingerprint fingerprint = none)
    (member : alert ∈ store.openAlerts) : alert.fingerprint ≠ fingerprint := by
  have missed := List.find?_eq_none.mp absent alert member
  simpa using missed

theorem getAlert_saveAll (saved : List AlertEntity) (store : AlertStore) (id : String) :
    (store.saveAll saved).getAlert id = store.getAlert id ∧ (∀ alert ∈ saved, alert.id ≠ id) ∨
      ∃ alert ∈ saved, alert.id = id ∧ (store.saveAll saved).getAlert id = some alert := by
  induction saved generalizing store with
  | nil => exact Or.inl ⟨rfl,by simp⟩
  | cons first rest ih =>
    have later := ih (store.saveAlert first)
    rcases later with ⟨same,apart⟩ | ⟨alert,member,under,found⟩
    · rw [getAlert_saveAlert] at same
      by_cases this : id = first.id
      · rw [if_pos this] at same
        exact Or.inr ⟨first,by simp,this.symm,same⟩
      · rw [if_neg this] at same
        refine Or.inl ⟨same,?_⟩
        intro alert member
        rcases List.mem_cons.mp member with rfl | within
        · exact Ne.symm this
        · exact apart alert within
    · exact Or.inr ⟨alert,by simp [member],under,found⟩

end Reading

end AlertStore

namespace AlertEngine

variable (engine : AlertEngine)

def stormParent (newAlert : AlertEntity) (children : List AlertEntity) (drawn : String) (clock : ℤ) : AlertEntity where
  id := drawn
  createdAt := clock
  alertType := .scopeStormGrouped
  severity := .high
  source := "engine:storm_detector"
  scopeType := newAlert.scopeType
  scopeId := newAlert.scopeId
  childAlertIds := children.map AlertEntity.id
  fingerprint := computeFingerprint engine.tenantId .scopeStormGrouped none newAlert.scopeId none
  fingerprinted := computeFingerprint_nonempty _ _ _ _ _

def groupScopeStorm (newAlert : AlertEntity) (existingAlerts : List AlertEntity) (drawn : String) (clock : ℤ)
    (store : AlertStore) : AlertEntity × AlertStore :=
  let allChildren := existingAlerts ++ [newAlert]
  let parent := engine.stormParent newAlert allChildren drawn clock
  (parent, (store.saveAlert parent).saveAll (allChildren.map (fun child => child.groupUnder parent.id)))

def stormAround (alert : AlertEntity) (store : AlertStore) : Except AlertFault (Option (List AlertEntity)) :=
  match alert.scopeId.filter (· ≠ "") with
  | none => .ok none
  | some scope =>
    match store.listActiveByScope engine.backend scope with
    | .error fault => .error fault
    | .ok active => .ok (if engine.scopeStormThreshold ≤ active.length then some active else none)

def raiseAlert (alert : AlertEntity) (drawn : String) (clock : ℤ) (store : AlertStore) :
    Except AlertFault (AlertEntity × AlertStore) :=
  match store.findActiveByFingerprint alert.fingerprint with
  | some existing => .ok (existing.repeated alert, store.saveAlert (existing.repeated alert))
  | none =>
    match engine.stormAround alert store with
    | .error fault => .error fault
    | .ok (some active) => .ok (engine.groupScopeStorm alert active drawn clock store)
    | .ok none => .ok (alert.pendingEscalation, store.saveAlert alert.pendingEscalation)

def change (alertId : String) (changed : AlertEntity → AlertEntity) (store : AlertStore) :
    Except AlertFault (AlertEntity × AlertStore) :=
  match store.getAlert alertId with
  | none => .error .notFound
  | some alert => .ok (changed alert, store.saveAlert (changed alert))

def acknowledgeAlert (alertId actor : String) (reason remediationTaskId : Option String) (clock : ℤ) (store : AlertStore) :
    Except AlertFault (AlertEntity × AlertStore) :=
  change alertId (fun alert => alert.acknowledge actor reason remediationTaskId clock) store

def resolveAlert (alertId actor : String) (reason : Option String) (clock : ℤ) (store : AlertStore) :
    Except AlertFault (AlertEntity × AlertStore) :=
  change alertId (fun alert => alert.resolve actor reason clock) store

def markConditionCleared (alertId : String) (now : ℤ) (store : AlertStore) : Except AlertFault (AlertEntity × AlertStore) :=
  change alertId (fun alert => alert.markConditionCleared now) store

def sweep (chosen : AlertEntity → Bool) (changed : AlertEntity → AlertEntity) (store : AlertStore) :
    List AlertEntity × AlertStore :=
  let handled := (store.list.filter chosen).map changed
  (handled, store.saveAll handled)

def evaluateAutoResolutions (now : ℤ) (store : AlertStore) : List AlertEntity × AlertStore :=
  sweep (fun alert => alert.isOpen && alert.checkAutoResolveEligible now) (fun alert => alert.autoResolve now) store

def overdue (seconds now : ℤ) (alert : AlertEntity) : Bool :=
  decide (seconds * 1000000 ≤ now - alert.escalatedAt.getD alert.createdAt)

/-- A timeout of zero stands for the default, as an absent one does. -/
def timeout (escalationTimeoutSeconds : Option ℤ) : ℤ :=
  (escalationTimeoutSeconds.filter (· ≠ 0)).getD engine.defaultEscalationTimeoutSeconds

def evaluateEscalations (escalationTimeoutSeconds : Option ℤ) (now : ℤ) (store : AlertStore) :
    List AlertEntity × AlertStore :=
  sweep (fun alert => decide (alert.status = .active) && (alert.urgent && overdue (engine.timeout escalationTimeoutSeconds) now alert))
    (fun alert => alert.escalate now) store

section Effects

open AlertStore

variable {store : AlertStore} {id : String} {changed : AlertEntity → AlertEntity} {chosen : AlertEntity → Bool}

theorem getAlert_change {alert : AlertEntity} {after : AlertStore} (keeps : ∀ alert, (changed alert).id = alert.id)
    (done : change id changed store = .ok (alert, after)) (other : String) :
    after.getAlert other = (store.getAlert other).map (fun stored => if stored.id = id then changed stored else stored) := by
  unfold change at done
  split at done
  · cases done
  · rename_i stored found
    cases done
    rw [getAlert_saveAlert,keeps,getAlert_id found]
    split
    · rename_i same
      rw [same,found,Option.map_some,if_pos (getAlert_id found)]
    · rename_i different
      cases read : store.getAlert other with
      | none => rfl
      | some kept => rw [Option.map_some,if_neg (getAlert_id read ▸ different)]

theorem getAlert_sweep (keeps : ∀ alert, (changed alert).id = alert.id) (id : String) :
    (sweep chosen changed store).2.getAlert id =
      (store.getAlert id).map (fun stored => if stored ∈ store.list ∧ chosen stored then changed stored else stored) := by
  rcases getAlert_saveAll ((store.list.filter chosen).map changed) store id with ⟨same,apart⟩ | ⟨alert,member,under,found⟩
  · rw [sweep,same]
    cases read : store.getAlert id with
    | none => rfl
    | some stored =>
      rw [Option.map_some,if_neg]
      intro handled
      have within : changed stored ∈ (store.list.filter chosen).map changed :=
        List.mem_map_of_mem (List.mem_filter.mpr handled)
      exact apart _ within ((keeps stored).trans (getAlert_id read))
  · obtain ⟨stored,within,rfl⟩ := List.mem_map.mp member
    have handled := List.mem_filter.mp within
    have read := mem_of_mem_list handled.1
    rw [← keeps stored,under] at read
    rw [sweep,found,read,Option.map_some,if_pos handled]

end Effects

end AlertEngine

end CloudLens.Alerting
