import CloudLens.Connectors.Lifecycle
import CloudLens.Library.Runs

/-! Connector state against capability health, over runs of transitions, recorded
successes and failures, and time that passes between them. -/
namespace CloudLens.Connectors
open Library.Runs

inductive LifecycleOperation
  | transition (key : ConnectorKey) (target : ConnectorLifecycleState) (audit : Audit)
  | failure (key : ConnectorKey) (capability : ConnectorCapability) (detail : CapabilityErrorDetail) (lag : ℕ) (audit : Audit)
  | success (key : ConnectorKey) (capability : ConnectorCapability) (lag : ℕ) (audit : Audit)
  | wait (ticks : ℕ)

def perform (m : Manager) : LifecycleOperation → Manager
  | .transition key target audit => (transitionState m key target audit).1
  | .failure key capability detail lag audit => (recordCapabilityFailure m key capability detail lag audit).1
  | .success key capability lag audit => (recordCapabilitySuccess m key capability lag audit).1
  | .wait ticks => m.wait ticks

section Agreement

def TracksUnhealthy (m : Manager) (key : ConnectorKey) : Prop :=
  ∃ capability record, m.capabilityHealth key capability = some record ∧ record.health.Unhealthy

def HasOpenBreaker (m : Manager) (key : ConnectorKey) (reading : ℕ) : Prop :=
  ∃ capability, (m.breakers key.2 capability).Refuses m.settings reading

structure Agrees (m : Manager) (key : ConnectorKey) : Prop where
  active : m.states key = .active → ¬TracksUnhealthy m key
  degraded : m.states key = .degraded → TracksUnhealthy m key ∨ HasOpenBreaker m key m.now

/-- The operations that keep state and health in agreement, by what they find. -/
def Prudent (m : Manager) : LifecycleOperation → Prop
  | .transition key target _ => Moves m key target →
      (target = .active → ¬TracksUnhealthy m key) ∧
      (target = .degraded → TracksUnhealthy m key ∨ HasOpenBreaker m key m.now)
  | .failure key capability _ lag _ => key.1 ≠ "" → ∀ other, other ≠ key → m.states other = .degraded →
      TracksUnhealthy m other ∨ HasOpenBreaker m other (m.now + lag) ∨
        other.2 = key.2 ∧ (m.breakers key.2 capability).Trips m.settings ∧ lag < m.settings.recoveryTimeout
  | .success key capability lag audit => key.1 ≠ "" →
      (∀ other, other ≠ key → m.states other = .degraded → TracksUnhealthy m other ∨ HasOpenBreaker m other (m.now + lag)) ∧
      (m.states key = .degraded →
        (∃ kept record, kept ≠ capability ∧ m.capabilityHealth key kept = some record ∧ record.health.Unhealthy) ∨
        HasOpenBreaker m key (m.now + lag) ∨
        wasDegraded m key capability = true ∧ audit .connectorCapabilityRecovered = none ∧
          ∀ kept record, kept ≠ capability → m.capabilityHealth key kept = some record → record.circuitState ≠ .opened)
  | .wait ticks => ∀ key, m.states key = .degraded → TracksUnhealthy m key ∨ HasOpenBreaker m key (m.now + ticks)

instance (m : Manager) (key : ConnectorKey) : Decidable (TracksUnhealthy m key) :=
  decidable_of_iff (∃ capability ∈ ConnectorCapability.all,
      (m.capabilityHealth key capability).any (fun record => record.health.Unhealthy) = true) (by
    simp [TracksUnhealthy,ConnectorCapability.mem_all,Option.any_eq_true])

instance (m : Manager) (key : ConnectorKey) (reading : ℕ) : Decidable (HasOpenBreaker m key reading) :=
  decidable_of_iff (∃ capability ∈ ConnectorCapability.all, (m.breakers key.2 capability).Refuses m.settings reading) (by
    simp [HasOpenBreaker,ConnectorCapability.mem_all])

variable {m : Manager} {key other : ConnectorKey} {capability : ConnectorCapability} {detail : CapabilityErrorDetail}
  {lag ticks : ℕ} {audit : Audit} {target : ConnectorLifecycleState}

theorem agrees_congr (m m' : Manager) (states : m'.states key = m.states key)
    (health : TracksUnhealthy m' key ↔ TracksUnhealthy m key) :
    Agrees m' key ↔ (m.states key = .active → ¬TracksUnhealthy m key) ∧
      (m.states key = .degraded → TracksUnhealthy m key ∨ HasOpenBreaker m' key m'.now) := by
  constructor
  · intro agrees
    refine ⟨fun isActive tracks => agrees.active (states.trans isActive) (health.mpr tracks),fun isDegraded => ?_⟩
    exact (agrees.degraded (states.trans isDegraded)).imp_left health.mp
  · rintro ⟨active,degraded⟩
    refine ⟨fun isActive tracks => active (states.symm.trans isActive) (health.mp tracks),fun isDegraded => ?_⟩
    exact (degraded (states.symm.trans isDegraded)).imp_left health.mpr

theorem wait_agrees (agree : ∀ key, Agrees m key) : (∀ key, Agrees (m.wait ticks) key) ↔ Prudent m (.wait ticks) := by
  have same : ∀ key, Agrees (m.wait ticks) key ↔ (m.states key = .active → ¬TracksUnhealthy m key) ∧
      (m.states key = .degraded → TracksUnhealthy m key ∨ HasOpenBreaker m key (m.now + ticks)) :=
    fun key => agrees_congr m (m.wait ticks) rfl Iff.rfl
  constructor
  · intro after key
    exact ((same key).mp (after key)).2
  · intro prudent key
    exact (same key).mpr ⟨(agree key).active,prudent key⟩

theorem transition_agrees (agree : ∀ key, Agrees m key) :
    (∀ k, Agrees (transitionState m key target audit).1 k) ↔ Prudent m (.transition key target audit) := by
  have tracked : ∀ k, TracksUnhealthy (transitionState m key target audit).1 k ↔ TracksUnhealthy m k := by
    simp [TracksUnhealthy]
  have isOpen : ∀ k, HasOpenBreaker (transitionState m key target audit).1 k (transitionState m key target audit).1.now ↔
      HasOpenBreaker m k m.now := by
    simp [HasOpenBreaker]
  by_cases moves : Moves m key target
  · have moved : (transitionState m key target audit).1.states = Function.update m.states key target := by
      rw [transition_states,if_pos moves]
    constructor
    · intro after _
      have here := after key
      refine ⟨fun isActive => ?_,fun isDegraded => ?_⟩
      · rw [← tracked]
        exact here.active (by rw [moved,Function.update_self,isActive])
      · rw [← tracked,← isOpen]
        exact here.degraded (by rw [moved,Function.update_self,isDegraded])
    · intro prudent k
      obtain ⟨active,degraded⟩ := prudent moves
      by_cases same : k = key
      · subst same
        refine ⟨fun isActive => ?_,fun isDegraded => ?_⟩
        · rw [moved,Function.update_self] at isActive
          rw [tracked]
          exact active isActive
        · rw [moved,Function.update_self] at isDegraded
          rw [tracked,isOpen]
          exact degraded isDegraded
      · have kept : (transitionState m key target audit).1.states k = m.states k := by
          rw [moved,Function.update_of_ne same]
        rw [agrees_congr m _ kept (tracked k),isOpen]
        exact ⟨(agree k).active,(agree k).degraded⟩
  · have kept : (transitionState m key target audit).1.states = m.states := by rw [transition_states,if_neg moves]
    constructor
    · exact fun _ moved => absurd moved moves
    · intro _ k
      rw [agrees_congr m _ (congrFun kept k) (tracked k),isOpen]
      exact ⟨(agree k).active,(agree k).degraded⟩

theorem failure_open (named : key.1 ≠ "") :
    HasOpenBreaker (recordCapabilityFailure m key capability detail lag audit).1 other (m.now + lag) ↔
      HasOpenBreaker m other (m.now + lag) ∨
        other.2 = key.2 ∧ (m.breakers key.2 capability).Trips m.settings ∧ lag < m.settings.recoveryTimeout := by
  unfold HasOpenBreaker
  rw [failure_breakers named,failure_settings named]
  have each : ∀ wanted, (if other.2 = key.2 ∧ wanted = capability then
        ((m.breakers other.2 wanted).recordFailure m.settings m.now).readState m.settings (m.now + lag)
      else m.breakers other.2 wanted).Refuses m.settings (m.now + lag) ↔
      (m.breakers other.2 wanted).Refuses m.settings (m.now + lag) ∨ (other.2 = key.2 ∧ wanted = capability) ∧
        (m.breakers other.2 wanted).Trips m.settings ∧ lag < m.settings.recoveryTimeout := by
    intro wanted
    split
    · rename_i here
      rw [CapabilityCircuitBreaker.refuses_readState le_rfl,CapabilityCircuitBreaker.refuses_recordFailure]
      simp [here]
    · rename_i elsewhere
      simp [elsewhere]
  simp only [each,exists_or]
  refine or_congr_right ?_
  constructor
  · rintro ⟨wanted,⟨same,rfl⟩,trips,soon⟩
    exact ⟨same,same ▸ trips,soon⟩
  · rintro ⟨same,trips,soon⟩
    exact ⟨capability,⟨same,rfl⟩,same ▸ trips,soon⟩

theorem failure_agrees (agree : ∀ key, Agrees m key) :
    (∀ k, Agrees (recordCapabilityFailure m key capability detail lag audit).1 k) ↔
      Prudent m (.failure key capability detail lag audit) := by
  by_cases named : key.1 = ""
  · have kept : (recordCapabilityFailure m key capability detail lag audit).1 = m := by
      unfold recordCapabilityFailure
      rw [if_pos named]
    rw [kept]
    exact ⟨fun _ absent => absurd named absent,fun _ => agree⟩
  · obtain ⟨record,unhealthy,health⟩ := failure_health m capability detail lag audit named
    have states := failure_states m capability detail lag audit named
    have here : Agrees (recordCapabilityFailure m key capability detail lag audit).1 key := by
      have tracks : TracksUnhealthy (recordCapabilityFailure m key capability detail lag audit).1 key :=
        ⟨capability,record,by rw [health]; simp,unhealthy⟩
      refine ⟨fun isActive => ?_,fun _ => Or.inl tracks⟩
      have moved : (recordCapabilityFailure m key capability detail lag audit).1.states key =
          (failureTarget capability (m.states key)).getD (m.states key) := by
        rw [states]
        cases failureTarget capability (m.states key) with
        | none => rfl
        | some target => exact Function.update_self _ _ _
      exact absurd (moved.symm.trans isActive) (failureTarget_leaves_active _)
    have elsewhere : ∀ k, k ≠ key → (Agrees (recordCapabilityFailure m key capability detail lag audit).1 k ↔
        (m.states k = .degraded → TracksUnhealthy m k ∨ HasOpenBreaker m k (m.now + lag) ∨
          k.2 = key.2 ∧ (m.breakers key.2 capability).Trips m.settings ∧ lag < m.settings.recoveryTimeout)) := by
      intro k other
      have kept : (recordCapabilityFailure m key capability detail lag audit).1.states k = m.states k := by
        rw [states]
        split
        · rfl
        · rw [Function.update_of_ne other]
      have same : TracksUnhealthy (recordCapabilityFailure m key capability detail lag audit).1 k ↔ TracksUnhealthy m k := by
        unfold TracksUnhealthy
        rw [health]
        simp [other]
      rw [agrees_congr m _ kept same,failure_now named,failure_open named]
      exact and_iff_right (agree k).active
    constructor
    · intro after _ k other
      exact (elsewhere k other).mp (after k)
    · intro prudent k
      by_cases same : k = key
      · rw [same]
        exact here
      · exact (elsewhere k same).mpr (prudent named k same)

theorem trackSuccess_open : HasOpenBreaker (trackSuccess m key capability lag) other (m.now + lag) ↔
    HasOpenBreaker m other (m.now + lag) := by
  unfold HasOpenBreaker
  rw [trackSuccess_breakers]
  refine exists_congr (fun wanted => ?_)
  have settings : (trackSuccess m key capability lag).settings = m.settings := rfl
  rw [settings]
  dsimp only
  split
  · rw [CapabilityCircuitBreaker.refuses_readState le_rfl,CapabilityCircuitBreaker.refuses_recordSuccess]
  · rfl

theorem trackSuccess_health : (trackSuccess m key capability lag).capabilityHealth = fun k wanted =>
    if k = key ∧ wanted = capability then some (successRecord (m.noteSuccess key.2 capability lag) key capability)
    else m.capabilityHealth k wanted := rfl

theorem trackSuccess_tracks : TracksUnhealthy (trackSuccess m key capability lag) key ↔
    ∃ kept record, kept ≠ capability ∧ m.capabilityHealth key kept = some record ∧ record.health.Unhealthy := by
  unfold TracksUnhealthy
  rw [trackSuccess_health]
  constructor
  · rintro ⟨kept,record,found,unhealthy⟩
    by_cases same : kept = capability
    · simp only [same,and_self,if_true,Option.some.injEq] at found
      rw [← found] at unhealthy
      exact absurd unhealthy (by simp [successRecord,CapabilityHealth.Unhealthy])
    · simp only [same,and_false,if_false] at found
      exact ⟨kept,record,same,found,unhealthy⟩
  · rintro ⟨kept,record,other,found,unhealthy⟩
    exact ⟨kept,record,by simp [other,found],unhealthy⟩

theorem successRecord_opened : (successRecord (m.noteSuccess key.2 capability lag) key capability).circuitState = .opened ↔
    (m.breakers key.2 capability).Refuses m.settings (m.now + lag) := by
  have read : ((m.noteSuccess key.2 capability lag).breakers key.2 capability) =
      ((m.breakers key.2 capability).recordSuccess m.settings m.now).readState m.settings (m.now + lag) := by
    simp [Manager.noteSuccess,Manager.readBreaker,Manager.updateBreaker,Manager.wait]
  unfold successRecord
  dsimp only
  rw [read]
  exact CapabilityCircuitBreaker.refuses_recordSuccess

theorem hasUnhealthy_trackSuccess : hasUnhealthy (trackSuccess m key capability lag) key = false ↔
    ¬(m.breakers key.2 capability).Refuses m.settings (m.now + lag) ∧
      ∀ kept record, kept ≠ capability → m.capabilityHealth key kept = some record →
        ¬record.health.Unhealthy ∧ record.circuitState ≠ .opened := by
  unfold hasUnhealthy
  rw [trackSuccess_health,List.any_eq_false]
  have each : ∀ wanted, ¬((if key = key ∧ wanted = capability then
        some (successRecord (m.noteSuccess key.2 capability lag) key capability)
      else m.capabilityHealth key wanted).any (fun record => record.health.Unhealthy ∨ record.circuitState = .opened)) = true ↔
      (wanted = capability → ¬(m.breakers key.2 capability).Refuses m.settings (m.now + lag)) ∧
        (wanted ≠ capability → ∀ record, m.capabilityHealth key wanted = some record →
          ¬record.health.Unhealthy ∧ record.circuitState ≠ .opened) := by
    intro wanted
    by_cases same : wanted = capability
    · subst same
      simp only [if_true,Option.any_some,decide_eq_true_eq,successRecord_opened,ne_eq,not_true_eq_false,
        false_implies,and_true,true_implies]
      simp [successRecord,CapabilityHealth.Unhealthy]
    · cases found : m.capabilityHealth key wanted with
      | none => simp [same]
      | some record => simp [same,not_or]
  constructor
  · intro every
    have found := fun wanted => (each wanted).mp (every wanted (ConnectorCapability.mem_all wanted))
    exact ⟨(found capability).1 rfl,fun kept record other => (found kept).2 other record⟩
  · rintro ⟨closed,others⟩ wanted _
    exact (each wanted).mpr ⟨fun _ => closed,fun other record => others wanted record other⟩

theorem success_agrees (agree : ∀ key, Agrees m key) :
    (∀ k, Agrees (recordCapabilitySuccess m key capability lag audit).1 k) ↔
      Prudent m (.success key capability lag audit) := by
  by_cases named : key.1 = ""
  · have kept : (recordCapabilitySuccess m key capability lag audit).1 = m := by
      unfold recordCapabilitySuccess
      rw [if_pos named]
    rw [kept]
    exact ⟨fun _ absent => absurd named absent,fun _ => agree⟩
  · have elsewhere : ∀ k, k ≠ key → (Agrees (recordCapabilitySuccess m key capability lag audit).1 k ↔
        (m.states k = .degraded → TracksUnhealthy m k ∨ HasOpenBreaker m k (m.now + lag))) := by
      intro k other
      have tracked : Agrees (trackSuccess m key capability lag) k ↔
          (m.states k = .degraded → TracksUnhealthy m k ∨ HasOpenBreaker m k (m.now + lag)) := by
        have same : TracksUnhealthy (trackSuccess m key capability lag) k ↔ TracksUnhealthy m k := by
          unfold TracksUnhealthy
          rw [trackSuccess_health]
          simp [other]
        rw [agrees_congr m (trackSuccess m key capability lag) rfl same,show (trackSuccess m key capability lag).now = m.now + lag from rfl,trackSuccess_open]
        exact and_iff_right (agree k).active
      have restored : Agrees ((trackSuccess m key capability lag).setState key .active) k ↔
          Agrees (trackSuccess m key capability lag) k :=
        (agrees_congr (trackSuccess m key capability lag) ((trackSuccess m key capability lag).setState key .active)
          (Function.update_of_ne other _ _) Iff.rfl).trans
          (agrees_congr (trackSuccess m key capability lag) (trackSuccess m key capability lag) rfl Iff.rfl).symm
      rw [success_manager named,← tracked]
      split
      · exact restored
      · exact Iff.rfl
    have here : Agrees (recordCapabilitySuccess m key capability lag audit).1 key ↔ (m.states key = .degraded →
        (∃ kept record, kept ≠ capability ∧ m.capabilityHealth key kept = some record ∧ record.health.Unhealthy) ∨
        HasOpenBreaker m key (m.now + lag) ∨
        wasDegraded m key capability = true ∧ audit .connectorCapabilityRecovered = none ∧
          ∀ kept record, kept ≠ capability → m.capabilityHealth key kept = some record → record.circuitState ≠ .opened) := by
      have trackedOpen : HasOpenBreaker (trackSuccess m key capability lag) key (trackSuccess m key capability lag).now ↔
          HasOpenBreaker m key (m.now + lag) := trackSuccess_open
      by_cases restored : wasDegraded m key capability = true ∧ audit .connectorCapabilityRecovered = none ∧
          Restores (trackSuccess m key capability lag) key
      · have after : (recordCapabilitySuccess m key capability lag audit).1 =
            (trackSuccess m key capability lag).setState key .active := by rw [success_manager named,if_pos restored]
        obtain ⟨recovering,accepted,isDegraded,healthy⟩ := restored
        have others := (hasUnhealthy_trackSuccess.mp healthy).2
        rw [after]
        constructor
        · intro _ _
          exact Or.inr (Or.inr ⟨recovering,accepted,fun kept record other found => (others kept record other found).2⟩)
        · intro _
          refine ⟨fun _ tracks => ?_,fun degraded => ?_⟩
          · obtain ⟨kept,record,other,found,unhealthy⟩ := trackSuccess_tracks.mp tracks
            exact (others kept record other found).1 unhealthy
          · exact absurd degraded (by simp [Manager.setState])
      · have after : (recordCapabilitySuccess m key capability lag audit).1 = trackSuccess m key capability lag := by
          rw [success_manager named,if_neg restored]
        rw [after]
        constructor
        · intro agrees degraded
          rcases agrees.degraded degraded with tracks | isOpen
          · exact Or.inl (trackSuccess_tracks.mp tracks)
          · exact Or.inr (Or.inl (trackedOpen.mp isOpen))
        · intro allowed
          refine ⟨fun isActive tracks => ?_,fun isDegraded => ?_⟩
          · obtain ⟨kept,record,_,found,unhealthy⟩ := trackSuccess_tracks.mp tracks
            exact (agree key).active isActive ⟨kept,record,found,unhealthy⟩
          · rcases allowed isDegraded with tracks | isOpen | ⟨recovering,accepted,unopened⟩
            · exact Or.inl (trackSuccess_tracks.mpr tracks)
            · exact Or.inr (trackedOpen.mpr isOpen)
            · by_contra unexplained
              rw [not_or,trackSuccess_tracks,trackedOpen] at unexplained
              obtain ⟨healthy,closed⟩ := unexplained
              refine restored ⟨recovering,accepted,isDegraded,hasUnhealthy_trackSuccess.mpr ⟨?_,?_⟩⟩
              · exact fun refuses => closed ⟨capability,refuses⟩
              · exact fun kept record other found =>
                  ⟨fun unhealthy => healthy ⟨kept,record,other,found,unhealthy⟩,unopened kept record other found⟩
    constructor
    · intro after _
      exact ⟨fun other apart => (elsewhere other apart).mp (after other),here.mp (after key)⟩
    · intro prudent k
      obtain ⟨others,own⟩ := prudent named
      by_cases same : k = key
      · rw [same]
        exact here.mpr own
      · exact (elsewhere k same).mpr (others k same)

theorem perform_agrees (operation : LifecycleOperation) (agree : ∀ key, Agrees m key) :
    (∀ key, Agrees (perform m operation) key) ↔ Prudent m operation := by
  cases operation with
  | transition key target audit => exact transition_agrees agree
  | failure key capability detail lag audit => exact failure_agrees agree
  | success key capability lag audit => exact success_agrees agree
  | wait ticks => exact wait_agrees agree

theorem perform_states (operation : LifecycleOperation) (key : ConnectorKey) :
    (perform m operation).states key = m.states key ∨ (perform m operation).states key ∈ allowedTransitions (m.states key) := by
  have updated : ∀ (moved : ConnectorKey) (target : ConnectorLifecycleState), target ∈ allowedTransitions (m.states moved) →
      Function.update m.states moved target key = m.states key ∨
        Function.update m.states moved target key ∈ allowedTransitions (m.states key) := by
    intro moved target allowed
    by_cases same : key = moved
    · subst same
      rw [Function.update_self]
      exact Or.inr allowed
    · rw [Function.update_of_ne same]
      exact Or.inl rfl
  cases operation with
  | wait ticks => exact Or.inl rfl
  | transition moved target audit =>
    unfold perform
    dsimp only
    rw [transition_states]
    split
    · rename_i moves
      exact updated moved target moves.2.2
    · exact Or.inl rfl
  | failure moved capability detail lag audit =>
    unfold perform
    dsimp only
    by_cases named : moved.1 = ""
    · unfold recordCapabilityFailure
      rw [if_pos named]
      exact Or.inl rfl
    · rw [failure_states _ _ _ _ _ named]
      cases found : failureTarget capability (m.states moved) with
      | none => exact Or.inl rfl
      | some target => exact updated moved target (failureTarget_allowed found).2
  | success moved capability lag audit =>
    unfold perform
    dsimp only
    by_cases named : moved.1 = ""
    · unfold recordCapabilitySuccess
      rw [if_pos named]
      exact Or.inl rfl
    · rw [success_manager named]
      split
      · rename_i restored
        have isDegraded : m.states moved = .degraded := restored.2.2.1
        exact updated moved .active (by rw [isDegraded]; decide)
      · exact Or.inl rfl

end Agreement

/-- What holds of a run: every change of state is legal, nothing leaves DELETED,
and state and health agree in every state reached. -/
structure Consistent (m : Manager) (operations : List LifecycleOperation) : Prop where
  legal : ∀ done operation, done ++ [operation] <+: operations → ∀ key,
    (run perform m (done ++ [operation])).states key = (run perform m done).states key ∨
      (run perform m (done ++ [operation])).states key ∈ allowedTransitions ((run perform m done).states key)
  absorbing : ∀ done more, done ++ more <+: operations → ∀ key,
    (run perform m done).states key = .deleted → (run perform m (done ++ more)).states key = .deleted
  agrees : ∀ done, done <+: operations → ∀ key, Agrees (run perform m done) key

theorem deleted_stays {m : Manager} {key : ConnectorKey} (operations : List LifecycleOperation)
    (deleted : m.states key = .deleted) : (run perform m operations).states key = .deleted := by
  have keeps : ∀ (before : Manager) (operation : LifecycleOperation), before.states key = .deleted →
      (perform before operation).states key = .deleted := by
    intro before operation holds
    rcases perform_states operation key with same | legal
    · exact same.trans holds
    · rw [holds] at legal
      cases legal
  exact run_invariant keeps operations deleted

theorem state_agrees_with_health_iff (m : Manager) (operations : List LifecycleOperation) :
    Consistent m operations ↔ (∀ key, Agrees m key) ∧ Along perform Prudent m operations := by
  have throughout : (∀ key, Agrees m key) → ((∀ done, done <+: operations → ∀ key, Agrees (run perform m done) key) ↔
      Along perform Prudent m operations) := by
    intro start
    have same : ∀ (before : Manager) (operation : LifecycleOperation), True → (∀ key, Agrees before key) → True →
        ((∀ key, Agrees (perform before operation) key) ↔ Prudent before operation) :=
      fun before operation _ agree _ => perform_agrees operation agree
    exact property_throughout_iff (fun _ => True) same (fun _ _ _ _ => trivial) trivial start (along_true m operations)
  constructor
  · intro consistent
    have start : ∀ key, Agrees m key := consistent.agrees [] (List.nil_prefix)
    exact ⟨start,(throughout start).mp consistent.agrees⟩
  · rintro ⟨start,prudent⟩
    refine ⟨?_,?_,(throughout start).mpr prudent⟩
    · intro done operation _ key
      rw [run_append]
      exact perform_states operation key
    · intro done more _ key deleted
      rw [run_append]
      exact deleted_stays more deleted

/-- An active connector whose capability fails until the breaker opens; a late
success leaves the open breaker in its health record, and the next success finds
nothing to recover. -/
def lateSuccess : List LifecycleOperation :=
  let key := ("t", "c")
  let failure := LifecycleOperation.failure key .discoverResources ⟨.discoverResources,"500","provider error"⟩ 0 (fun _ => none)
  [failure, failure, failure, failure, failure, .success key .discoverResources 0 (fun _ => none), .wait 30,
    .success key .discoverResources 0 (fun _ => none)]

def activeConnectors : Manager where
  settings := ⟨5,30,2⟩
  now := 0
  breakers := fun _ _ => .fresh
  states := fun _ => .active
  capabilityHealth := fun _ _ => none

theorem connector_stays_degraded : (∀ key, Agrees activeConnectors key) ∧ ¬Consistent activeConnectors lateSuccess := by
  constructor
  · intro key
    refine ⟨fun _ => ?_,fun degraded => ?_⟩
    · rintro ⟨capability,record,tracked,_⟩
      cases tracked
    · cases degraded
  · intro consistent
    have agrees := consistent.agrees lateSuccess List.prefix_rfl ("t", "c")
    have isDegraded : (run perform activeConnectors lateSuccess).states ("t", "c") = .degraded := by decide +kernel
    have unexplained : ¬(TracksUnhealthy (run perform activeConnectors lateSuccess) ("t", "c") ∨
        HasOpenBreaker (run perform activeConnectors lateSuccess) ("t", "c")
          (run perform activeConnectors lateSuccess).now) := by decide +kernel
    exact unexplained (agrees.degraded isDegraded)

end CloudLens.Connectors
