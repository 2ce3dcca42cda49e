import Mathlib.Data.List.Basic
import Mathlib.Algebra.Order.Group.Nat

/-! Circuit breakers of the capabilities of connectors. Readings of the
monotonic clock are counted in its ticks; a breaker that nobody asked for yet is
as the registry would create it. -/
namespace CloudLens.Connectors

inductive ConnectorCapability
  | authenticate
  | validatePermissions
  | discoverOrganizations
  | discoverAccounts
  | discoverHierarchy
  | discoverResources
  | discoverServices
  | collectCostBulk
  | collectCostQuery
  | collectUsage
  | collectPricingPublic
  | collectPricingNegotiated
  | collectTags
  | discoverRelationships
  | collectBudgets
  | healthStatus
  | providerMetadata
  deriving DecidableEq

namespace ConnectorCapability

def value : ConnectorCapability → String
  | authenticate => "authenticate"
  | validatePermissions => "validate_permissions"
  | discoverOrganizations => "discover_organizations"
  | discoverAccounts => "discover_accounts"
  | discoverHierarchy => "discover_hierarchy"
  | discoverResources => "discover_resources"
  | discoverServices => "discover_services"
  | collectCostBulk => "collect_cost_bulk"
  | collectCostQuery => "collect_cost_query"
  | collectUsage => "collect_usage"
  | collectPricingPublic => "collect_pricing_public"
  | collectPricingNegotiated => "collect_pricing_negotiated"
  | collectTags => "collect_tags"
  | discoverRelationships => "discover_relationships"
  | collectBudgets => "collect_budgets"
  | healthStatus => "health_status"
  | providerMetadata => "provider_metadata"

def all : List ConnectorCapability :=
  [authenticate, validatePermissions, discoverOrganizations, discoverAccounts, discoverHierarchy, discoverResources,
    discoverServices, collectCostBulk, collectCostQuery, collectUsage, collectPricingPublic, collectPricingNegotiated,
    collectTags, discoverRelationships, collectBudgets, healthStatus, providerMetadata]

theorem mem_all (capability : ConnectorCapability) : capability ∈ all := by
  cases capability <;> simp [all]

end ConnectorCapability

inductive CircuitBreakerState
  | closed
  | opened
  | halfOpen
  deriving DecidableEq

structure BreakerSettings where
  failureThreshold : ℕ
  recoveryTimeout : ℕ
  successThreshold : ℕ

structure CapabilityCircuitBreaker where
  state : CircuitBreakerState
  consecutiveFailures : ℕ
  consecutiveSuccesses : ℕ
  lastStateChange : ℕ
  lastFailureTime : Option ℕ

namespace CapabilityCircuitBreaker

variable (settings : BreakerSettings) (now : ℕ) (breaker : CapabilityCircuitBreaker)

def fresh : CapabilityCircuitBreaker := ⟨.closed,0,0,0,none⟩

/-- The property `state`: an open breaker whose recovery timeout passed is half
open from this reading on. -/
def readState : CapabilityCircuitBreaker :=
  if breaker.state = .opened ∧ settings.recoveryTimeout ≤ now - breaker.lastStateChange then
    { breaker with state := .halfOpen, lastStateChange := now, consecutiveSuccesses := 0 }
  else breaker

def recordSuccess : CapabilityCircuitBreaker :=
  match breaker.state with
  | .halfOpen =>
    if settings.successThreshold ≤ breaker.consecutiveSuccesses + 1 then
      { breaker with state := .closed, consecutiveFailures := 0, consecutiveSuccesses := 0, lastStateChange := now }
    else { breaker with consecutiveSuccesses := breaker.consecutiveSuccesses + 1 }
  | .closed => { breaker with consecutiveFailures := 0 }
  | .opened => breaker

def recordFailure : CapabilityCircuitBreaker :=
  let failed := { breaker with lastFailureTime := some now, consecutiveFailures := breaker.consecutiveFailures + 1 }
  match breaker.state with
  | .halfOpen => { failed with state := .opened, lastStateChange := now, consecutiveSuccesses := 0 }
  | .closed =>
    if settings.failureThreshold ≤ failed.consecutiveFailures then { failed with state := .opened, lastStateChange := now }
    else failed
  | .opened => failed

def Refuses : Prop := (breaker.readState settings now).state = .opened

instance : Decidable (breaker.Refuses settings now) := inferInstanceAs (Decidable ((breaker.readState settings now).state = .opened))

section Openness

variable {settings : BreakerSettings} {now later : ℕ} {breaker : CapabilityCircuitBreaker}

theorem refuses_iff : breaker.Refuses settings now ↔
    breaker.state = .opened ∧ now - breaker.lastStateChange < settings.recoveryTimeout := by
  unfold Refuses readState
  split
  · rename_i expired
    simp only [reduceCtorEq,false_iff,not_and,not_lt]
    exact fun _ => expired.2
  · rename_i waiting
    constructor
    · intro isOpen
      exact ⟨isOpen,not_le.mp (fun expired => waiting ⟨isOpen,expired⟩)⟩
    · exact fun both => both.1

theorem refuses_readState (order : now ≤ later) :
    (breaker.readState settings now).Refuses settings later ↔ breaker.Refuses settings later := by
  rw [refuses_iff,refuses_iff]
  unfold readState
  split
  · rename_i expired
    simp only [reduceCtorEq,false_and,false_iff,not_and,not_lt]
    intro _
    exact expired.2.trans (Nat.sub_le_sub_right order _)
  · exact Iff.rfl

theorem refuses_recordSuccess : (breaker.recordSuccess settings now).Refuses settings later ↔ breaker.Refuses settings later := by
  rw [refuses_iff,refuses_iff]
  cases current : breaker.state with
  | halfOpen =>
    unfold recordSuccess
    rw [current]
    dsimp only
    split <;> simp
  | closed => simp [recordSuccess,current]
  | opened => simp [recordSuccess,current]

def Trips (settings : BreakerSettings) (breaker : CapabilityCircuitBreaker) : Prop :=
  breaker.state = .halfOpen ∨ breaker.state = .closed ∧ settings.failureThreshold ≤ breaker.consecutiveFailures + 1

theorem refuses_recordFailure {lag : ℕ} : (breaker.recordFailure settings now).Refuses settings (now + lag) ↔
    breaker.Refuses settings (now + lag) ∨ Trips settings breaker ∧ lag < settings.recoveryTimeout := by
  rw [refuses_iff,refuses_iff]
  unfold Trips
  cases current : breaker.state with
  | halfOpen => simp [recordFailure,current]
  | opened => simp [recordFailure,current]
  | closed =>
    simp only [recordFailure,current,reduceCtorEq,false_and,false_or,true_and]
    split
    · rename_i reached
      simp [reached]
    · rename_i below
      simp [below]

end Openness

end CapabilityCircuitBreaker

end CloudLens.Connectors
