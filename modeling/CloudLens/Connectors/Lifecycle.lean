import CloudLens.Connectors.Breaker

/-! The lifecycle of connectors and the health of their capabilities: states, the
transitions between them, and what recorded successes and failures do to both.
Breakers belong to a connector identifier, states and health to a tenant's
connector. The audit service answers each event with the error it raises, if any. -/
namespace CloudLens.Connectors

inductive ConnectorLifecycleState
  | registered
  | credentialBound
  | validated
  | active
  | degraded
  | failed
  | suspended
  | deleted
  deriving DecidableEq

def ConnectorLifecycleState.value : ConnectorLifecycleState → String
  | .registered => "REGISTERED"
  | .credentialBound => "CREDENTIAL_BOUND"
  | .validated => "VALIDATED"
  | .active => "ACTIVE"
  | .degraded => "DEGRADED"
  | .failed => "FAILED"
  | .suspended => "SUSPENDED"
  | .deleted => "DELETED"

def allowedTransitions : ConnectorLifecycleState → List ConnectorLifecycleState
  | .registered => [.credentialBound, .suspended, .deleted]
  | .credentialBound => [.validated, .failed, .suspended, .deleted]
  | .validated => [.active, .degraded, .failed, .suspended, .deleted]
  | .active => [.degraded, .failed, .suspended, .deleted]
  | .degraded => [.active, .failed, .suspended, .deleted]
  | .failed => [.credentialBound, .validated, .suspended, .deleted]
  | .suspended => [.registered, .credentialBound, .validated, .active, .failed, .deleted]
  | .deleted => []

def foundationalCapabilities : List ConnectorCapability := [.authenticate, .validatePermissions]

inductive CapabilityHealth
  | healthy
  | degraded
  | failed
  | disabled
  deriving DecidableEq

def CapabilityHealth.Unhealthy (health : CapabilityHealth) : Prop := health = .degraded ∨ health = .failed

instance (health : CapabilityHealth) : Decidable health.Unhealthy :=
  inferInstanceAs (Decidable (health = .degraded ∨ health = .failed))

structure CapabilityErrorDetail where
  capability : ConnectorCapability
  verbatimError : String
  plainLanguageExplanation : String

structure CapabilityHealthRecord where
  health : CapabilityHealth
  circuitState : CircuitBreakerState
  consecutiveFailures : ℕ
  errorDetail : Option CapabilityErrorDetail

inductive AuditEventType
  | connectorStateChanged
  | connectorCapabilityDegraded
  | connectorCapabilityRecovered
  deriving DecidableEq

abbrev Audit : Type := AuditEventType → Option String

inductive Raised
  | missingTenantContext
  | invalidConnectorStateTransition (current attempted : ConnectorLifecycleState)
  | audit (error : String)
  deriving DecidableEq

def Raised.text : Raised → String
  | .missingTenantContext => "Cannot record success without authenticated TenantContext."
  | .invalidConnectorStateTransition current attempted =>
    "Invalid connector transition from '" ++ current.value ++ "' to '" ++ attempted.value ++ "'."
  | .audit error => error

abbrev ConnectorKey : Type := String × String

/-- The lifecycle manager with the registry of breakers it shares with the
execution engine; `states` is the cached state, else the one the repository
holds, else REGISTERED. -/
structure Manager where
  settings : BreakerSettings
  now : ℕ
  breakers : String → ConnectorCapability → CapabilityCircuitBreaker
  states : ConnectorKey → ConnectorLifecycleState
  capabilityHealth : ConnectorKey → ConnectorCapability → Option CapabilityHealthRecord

namespace Manager

variable (m : Manager)

def wait (ticks : ℕ) : Manager := { m with now := m.now + ticks }

def updateBreaker (connector : String) (capability : ConnectorCapability)
    (change : CapabilityCircuitBreaker → CapabilityCircuitBreaker) : Manager :=
  { m with breakers := fun other wanted =>
      if other = connector ∧ wanted = capability then change (m.breakers other wanted) else m.breakers other wanted }

def setState (key : ConnectorKey) (state : ConnectorLifecycleState) : Manager :=
  { m with states := Function.update m.states key state }

def setHealth (key : ConnectorKey) (capability : ConnectorCapability) (record : CapabilityHealthRecord) : Manager :=
  { m with capabilityHealth := fun other wanted =>
      if other = key ∧ wanted = capability then some record else m.capabilityHealth other wanted }

def readBreaker (connector : String) (capability : ConnectorCapability) : Manager :=
  m.updateBreaker connector capability (CapabilityCircuitBreaker.readState m.settings m.now)

/-- The breaker records a failure, and `lag` later its state is read for the
health record. -/
def noteFailure (connector : String) (capability : ConnectorCapability) (lag : ℕ) : Manager :=
  ((m.updateBreaker connector capability (CapabilityCircuitBreaker.recordFailure m.settings m.now)).wait lag).readBreaker
    connector capability

def noteSuccess (connector : String) (capability : ConnectorCapability) (lag : ℕ) : Manager :=
  ((m.updateBreaker connector capability (CapabilityCircuitBreaker.recordSuccess m.settings m.now)).wait lag).readBreaker
    connector capability

end Manager

def emit (audit : Audit) (event : AuditEventType) : Except Raised Unit :=
  match audit event with
  | some error => .error (.audit error)
  | none => .ok ()

def transitionState (m : Manager) (key : ConnectorKey) (target : ConnectorLifecycleState) (audit : Audit) :
    Manager × Except Raised ConnectorLifecycleState :=
  if key.1 = "" then (m, .error .missingTenantContext)
  else if m.states key = target then (m, .ok target)
  else if target ∈ allowedTransitions (m.states key) then
    (m.setState key target, (emit audit .connectorStateChanged).map (fun _ => target))
  else (m, .error (.invalidConnectorStateTransition (m.states key) target))

def failureTarget (capability : ConnectorCapability) (current : ConnectorLifecycleState) : Option ConnectorLifecycleState :=
  if capability ∈ foundationalCapabilities then
    if current = .active ∨ current = .degraded ∨ current = .validated then some .failed else none
  else if current = .active then some .degraded
  else none

def failureRecord (m : Manager) (key : ConnectorKey) (capability : ConnectorCapability)
    (detail : CapabilityErrorDetail) : CapabilityHealthRecord where
  health := if capability ∈ foundationalCapabilities then .failed else .degraded
  circuitState := (m.breakers key.2 capability).state
  consecutiveFailures := ((m.capabilityHealth key capability).elim 0 CapabilityHealthRecord.consecutiveFailures) + 1
  errorDetail := some detail

def trackFailure (m : Manager) (key : ConnectorKey) (capability : ConnectorCapability) (detail : CapabilityErrorDetail)
    (lag : ℕ) : Manager :=
  (m.noteFailure key.2 capability lag).setHealth key capability
    (failureRecord (m.noteFailure key.2 capability lag) key capability detail)

def recordCapabilityFailure (m : Manager) (key : ConnectorKey) (capability : ConnectorCapability)
    (detail : CapabilityErrorDetail) (lag : ℕ) (audit : Audit) : Manager × Except Raised CapabilityHealthRecord :=
  if key.1 = "" then (m, .error .missingTenantContext)
  else
    let record := failureRecord (m.noteFailure key.2 capability lag) key capability detail
    let tracked := trackFailure m key capability detail lag
    match failureTarget capability (tracked.states key) with
    | none => (tracked, (emit audit .connectorCapabilityDegraded).map (fun _ => record))
    | some target =>
      let (moved, answer) := transitionState tracked key target audit
      (moved, answer.bind (fun _ => (emit audit .connectorCapabilityDegraded).map (fun _ => record)))

def hasUnhealthy (m : Manager) (key : ConnectorKey) : Bool :=
  ConnectorCapability.all.any (fun capability =>
    (m.capabilityHealth key capability).any (fun record => record.health.Unhealthy ∨ record.circuitState = .opened))

def recheckConnectorHealth (m : Manager) (key : ConnectorKey) (audit : Audit) : Manager × Except Raised Unit :=
  if m.states key ≠ .degraded then (m, .ok ())
  else if hasUnhealthy m key then (m, .ok ())
  else
    let (moved, answer) := transitionState m key .active audit
    (moved, answer.map (fun _ => ()))

def successRecord (m : Manager) (key : ConnectorKey) (capability : ConnectorCapability) : CapabilityHealthRecord where
  health := .healthy
  circuitState := (m.breakers key.2 capability).state
  consecutiveFailures := 0
  errorDetail := none

def wasDegraded (m : Manager) (key : ConnectorKey) (capability : ConnectorCapability) : Bool :=
  (m.capabilityHealth key capability).any (fun record => record.health.Unhealthy)

def trackSuccess (m : Manager) (key : ConnectorKey) (capability : ConnectorCapability) (lag : ℕ) : Manager :=
  (m.noteSuccess key.2 capability lag).setHealth key capability
    (successRecord (m.noteSuccess key.2 capability lag) key capability)

def recordCapabilitySuccess (m : Manager) (key : ConnectorKey) (capability : ConnectorCapability)
    (lag : ℕ) (audit : Audit) : Manager × Except Raised CapabilityHealthRecord :=
  if key.1 = "" then (m, .error .missingTenantContext)
  else
    let record := successRecord (m.noteSuccess key.2 capability lag) key capability
    let tracked := trackSuccess m key capability lag
    if wasDegraded m key capability then
      match emit audit .connectorCapabilityRecovered with
      | .error raised => (tracked, .error raised)
      | .ok () =>
        let (rechecked, answer) := recheckConnectorHealth tracked key audit
        (rechecked, answer.map (fun _ => record))
    else (tracked, .ok record)

section Spec

variable {m : Manager} {key : ConnectorKey} {capability : ConnectorCapability} {detail : CapabilityErrorDetail}
  {lag : ℕ} {audit : Audit} {target : ConnectorLifecycleState}

@[simp] theorem transition_now : (transitionState m key target audit).1.now = m.now := by
  unfold transitionState
  split_ifs <;> rfl

@[simp] theorem transition_settings : (transitionState m key target audit).1.settings = m.settings := by
  unfold transitionState
  split_ifs <;> rfl

@[simp] theorem transition_breakers : (transitionState m key target audit).1.breakers = m.breakers := by
  unfold transitionState
  split_ifs <;> rfl

@[simp] theorem transition_health : (transitionState m key target audit).1.capabilityHealth = m.capabilityHealth := by
  unfold transitionState
  split_ifs <;> rfl

def Moves (m : Manager) (key : ConnectorKey) (target : ConnectorLifecycleState) : Prop :=
  key.1 ≠ "" ∧ m.states key ≠ target ∧ target ∈ allowedTransitions (m.states key)

instance : Decidable (Moves m key target) :=
  inferInstanceAs (Decidable (key.1 ≠ "" ∧ m.states key ≠ target ∧ target ∈ allowedTransitions (m.states key)))

theorem transition_states : (transitionState m key target audit).1.states =
    if Moves m key target then Function.update m.states key target else m.states := by
  unfold transitionState Moves
  split_ifs <;> simp_all [Manager.setState]

theorem failureTarget_leaves_active (current : ConnectorLifecycleState) :
    (failureTarget capability current).getD current ≠ .active := by
  unfold failureTarget
  split_ifs with foundational movable isActive
  · simp
  · exact fun same => movable (Or.inl same)
  · simp
  · exact isActive

theorem failureTarget_allowed {current : ConnectorLifecycleState} (moved : failureTarget capability current = some target) :
    current ≠ target ∧ target ∈ allowedTransitions current := by
  unfold failureTarget at moved
  split_ifs at moved with foundational movable movable
  · rw [← Option.some.inj moved]
    rcases movable with rfl | rfl | rfl <;> decide
  · rw [← Option.some.inj moved,movable]
    decide

theorem failure_manager (named : key.1 ≠ "") : (recordCapabilityFailure m key capability detail lag audit).1 =
    match failureTarget capability (m.states key) with
    | none => trackFailure m key capability detail lag
    | some target => (trackFailure m key capability detail lag).setState key target := by
  unfold recordCapabilityFailure
  rw [if_neg named]
  have kept : (trackFailure m key capability detail lag).states = m.states := rfl
  dsimp only
  rw [kept]
  cases moved : failureTarget capability (m.states key) with
  | none => rfl
  | some target =>
    obtain ⟨other,allowed⟩ := failureTarget_allowed moved
    dsimp only
    unfold transitionState
    rw [if_neg named,kept,if_neg other,if_pos allowed]

theorem failure_now (named : key.1 ≠ "") : (recordCapabilityFailure m key capability detail lag audit).1.now = m.now + lag := by
  rw [failure_manager named]
  split <;> rfl

theorem failure_settings (named : key.1 ≠ "") : (recordCapabilityFailure m key capability detail lag audit).1.settings = m.settings := by
  rw [failure_manager named]
  split <;> rfl

variable (m capability detail lag audit) in
theorem failure_states (named : key.1 ≠ "") : (recordCapabilityFailure m key capability detail lag audit).1.states =
    match failureTarget capability (m.states key) with
    | none => m.states
    | some target => Function.update m.states key target := by
  rw [failure_manager named]
  split <;> rfl

variable (m capability detail lag audit) in
/-- The failed capability is the only one whose health changes, and it is unhealthy. -/
theorem failure_health (named : key.1 ≠ "") : ∃ record, record.health.Unhealthy ∧
    (recordCapabilityFailure m key capability detail lag audit).1.capabilityHealth =
      fun other wanted => if other = key ∧ wanted = capability then some record else m.capabilityHealth other wanted := by
  refine ⟨failureRecord (m.noteFailure key.2 capability lag) key capability detail,?_,?_⟩
  · unfold failureRecord CapabilityHealth.Unhealthy
    dsimp only
    split
    · exact Or.inr rfl
    · exact Or.inl rfl
  · rw [failure_manager named]
    split <;> rfl

theorem failure_breakers (named : key.1 ≠ "") : (recordCapabilityFailure m key capability detail lag audit).1.breakers =
    fun other wanted => if other = key.2 ∧ wanted = capability then
        ((m.breakers other wanted).recordFailure m.settings m.now).readState m.settings (m.now + lag)
      else m.breakers other wanted := by
  rw [failure_manager named]
  have noted : (trackFailure m key capability detail lag).breakers =
      fun other wanted => if other = key.2 ∧ wanted = capability then
          ((m.breakers other wanted).recordFailure m.settings m.now).readState m.settings (m.now + lag)
        else m.breakers other wanted := by
    funext other wanted
    simp only [trackFailure,Manager.setHealth,Manager.noteFailure,Manager.readBreaker,Manager.updateBreaker,Manager.wait]
    split_ifs <;> rfl
  split
  · exact noted
  · exact noted

theorem trackSuccess_breakers : (trackSuccess m key capability lag).breakers =
    fun other wanted => if other = key.2 ∧ wanted = capability then
        ((m.breakers other wanted).recordSuccess m.settings m.now).readState m.settings (m.now + lag)
      else m.breakers other wanted := by
  funext other wanted
  simp only [trackSuccess,Manager.setHealth,Manager.noteSuccess,Manager.readBreaker,Manager.updateBreaker,Manager.wait]
  split_ifs <;> rfl

/-- The recheck restores a degraded connector without unhealthy records. -/
def Restores (m : Manager) (key : ConnectorKey) : Prop := m.states key = .degraded ∧ hasUnhealthy m key = false

instance : Decidable (Restores m key) := inferInstanceAs (Decidable (m.states key = .degraded ∧ hasUnhealthy m key = false))

theorem recheck_manager (named : key.1 ≠ "") : (recheckConnectorHealth m key audit).1 =
    if Restores m key then m.setState key .active else m := by
  unfold recheckConnectorHealth
  by_cases restored : Restores m key
  · obtain ⟨isDegraded,healthy⟩ := restored
    have allowed : ConnectorLifecycleState.active ∈ allowedTransitions (m.states key) := by rw [isDegraded]; decide
    have other : m.states key ≠ .active := by rw [isDegraded]; decide
    unfold transitionState
    rw [if_neg (not_not.mpr isDegraded),if_neg (by simp [healthy]),if_neg named,if_neg other,if_pos allowed,
      if_pos ⟨isDegraded,healthy⟩]
  · rw [if_neg restored]
    by_cases isDegraded : m.states key = .degraded
    · have unhealthy : hasUnhealthy m key = true := by
        cases found : hasUnhealthy m key with
        | true => rfl
        | false => exact absurd ⟨isDegraded,found⟩ restored
      rw [if_neg (not_not.mpr isDegraded),if_pos unhealthy]
    · rw [if_pos isDegraded]

theorem success_manager (named : key.1 ≠ "") : (recordCapabilitySuccess m key capability lag audit).1 =
    if wasDegraded m key capability = true ∧ audit .connectorCapabilityRecovered = none ∧
        Restores (trackSuccess m key capability lag) key then
      (trackSuccess m key capability lag).setState key .active
    else trackSuccess m key capability lag := by
  unfold recordCapabilitySuccess
  rw [if_neg named]
  dsimp only
  cases wasDegraded m key capability with
  | false => simp
  | true =>
    cases answer : audit .connectorCapabilityRecovered with
    | some error => simp [emit,answer]
    | none =>
      simp only [emit,answer,if_true,recheck_manager named,true_and]

theorem success_breakers (named : key.1 ≠ "") : (recordCapabilitySuccess m key capability lag audit).1.breakers =
    (trackSuccess m key capability lag).breakers := by
  rw [success_manager named]
  split <;> rfl

theorem success_now (named : key.1 ≠ "") : (recordCapabilitySuccess m key capability lag audit).1.now = m.now + lag := by
  rw [success_manager named]
  split <;> rfl

variable (m capability lag) in
/-- With the audit service accepting every event a recorded success raises nothing. -/
theorem success_accepted (named : key.1 ≠ "") (accepts : ∀ event, audit event = none) :
    ∃ record, (recordCapabilitySuccess m key capability lag audit).2 = .ok record := by
  unfold recordCapabilitySuccess recheckConnectorHealth transitionState
  rw [if_neg named]
  simp only [emit,accepts,if_neg named]
  split_ifs with recovering notDegraded unhealthy already allowed
  · exact ⟨_,rfl⟩
  · exact ⟨_,rfl⟩
  · exact ⟨_,rfl⟩
  · exact ⟨_,rfl⟩
  · have isDegraded := not_not.mp notDegraded
    exact absurd (by rw [isDegraded]; decide) allowed
  · exact ⟨_,rfl⟩

end Spec

end CloudLens.Connectors
