import CloudLens.Library.Calendar
import CloudLens.Library.Discovery
import Mathlib.Algebra.Order.Ring.Rat

/-! The dependency graph: typed references, edges with their provenance, status
and billing attributes, and conflicts between a manual edge and a discovered
one. An edge contributes links to an adjacency, and which links it contributes
is what the analyses of the graph differ in. -/
namespace CloudLens.Dependency
open Library Library.Calendar Library.Traversal

inductive EntityReferenceType where
  | resource
  | service
  | application
  | scope
  deriving DecidableEq

inductive RelationshipType where
  | logicalDependency
  | networkConnectivity
  | applicationDependency
  | dataFlow
  | securityRelationship
  | sharedService
  | billingRelationship
  | parentChild
  | network
  | storageAttachment
  | iamRole
  | databaseClient
  | eventSubscription
  deriving DecidableEq

inductive DependencyDirection where
  | inbound
  | outbound
  | bidirectional
  deriving DecidableEq

inductive EdgeProvenanceType where
  | discovered
  | manual
  | imported
  | inferred
  deriving DecidableEq

inductive DiscoveryLayer where
  | structural
  | network
  | providerPlatform
  | curatedApplication
  | inferredNaming
  deriving DecidableEq

inductive EdgeConfidenceLevel where
  | high
  | medium
  | low
  | asAsserted
  deriving DecidableEq

inductive EdgeCriticality where
  | critical
  | high
  | medium
  | low
  deriving DecidableEq

inductive EdgeStatus where
  | active
  | stale
  | conflict
  | resolved
  | deleted
  | superseded
  deriving DecidableEq

def EntityReferenceType.value : EntityReferenceType → String
  | .resource => "RESOURCE"
  | .service => "SERVICE"
  | .application => "APPLICATION"
  | .scope => "SCOPE"

def RelationshipType.value : RelationshipType → String
  | .logicalDependency => "LOGICAL_DEPENDENCY"
  | .networkConnectivity => "NETWORK_CONNECTIVITY"
  | .applicationDependency => "APPLICATION_DEPENDENCY"
  | .dataFlow => "DATA_FLOW"
  | .securityRelationship => "SECURITY_RELATIONSHIP"
  | .sharedService => "SHARED_SERVICE"
  | .billingRelationship => "BILLING_RELATIONSHIP"
  | .parentChild => "PARENT_CHILD"
  | .network => "NETWORK"
  | .storageAttachment => "STORAGE_ATTACHMENT"
  | .iamRole => "IAM_ROLE"
  | .databaseClient => "DATABASE_CLIENT"
  | .eventSubscription => "EVENT_SUBSCRIPTION"

def EdgeStatus.value : EdgeStatus → String
  | .active => "ACTIVE"
  | .stale => "STALE"
  | .conflict => "CONFLICT"
  | .resolved => "RESOLVED"
  | .deleted => "DELETED"
  | .superseded => "SUPERSEDED"

def DiscoveryLayer.value : DiscoveryLayer → String
  | .structural => "STRUCTURAL"
  | .network => "NETWORK"
  | .providerPlatform => "PROVIDER_PLATFORM"
  | .curatedApplication => "CURATED_APPLICATION"
  | .inferredNaming => "INFERRED_NAMING"

structure TypedEntityRef where
  entityType : EntityReferenceType
  entityId : String
  name : Option String := none
  deriving DecidableEq

structure EdgeProvenance where
  provenanceType : EdgeProvenanceType
  ruleId : Option String := none
  actorId : Option String := none
  layer : Option DiscoveryLayer := none
  deriving DecidableEq

/-- The percentage of an allocation lies between none and all. -/
@[ext]
structure BillingAttributes where
  allocationPercentage : ℚ
  allocationRule : String := "FIXED_RATIO"
  sharedServiceId : Option String := none
  costCentreId : Option String := none
  nonnegative : 0 ≤ allocationPercentage
  atMostWhole : allocationPercentage ≤ 100

instance : DecidableEq BillingAttributes := fun _ _ => decidable_of_iff _ BillingAttributes.ext_iff.symm

structure EdgeHistoryEntry where
  timestamp : Instant
  action : String
  actorId : String
  fromStatus : Option String := none
  toStatus : Option String := none
  note : Option String := none
  deriving DecidableEq

structure DependencyEdge where
  id : String
  sourceRef : TypedEntityRef
  targetRef : TypedEntityRef
  relationshipType : RelationshipType
  direction : DependencyDirection := .outbound
  provenance : EdgeProvenance
  confidence : EdgeConfidenceLevel
  criticality : EdgeCriticality := .medium
  firstSeen : Instant
  lastSeen : Instant
  status : EdgeStatus := .active
  notes : Option String := none
  effectiveFrom : Instant
  effectiveTo : Option Instant := none
  conflictId : Option String := none
  billingAttributes : Option BillingAttributes := none
  history : List EdgeHistoryEntry := []
  deriving DecidableEq

namespace DependencyEdge

variable (edge : DependencyEdge)

def sourceId : String := edge.sourceRef.entityId

def targetId : String := edge.targetRef.entityId

def isManual : Bool := edge.provenance.provenanceType = .manual

def isShared : Bool := edge.relationshipType = .sharedService || edge.relationshipType = .billingRelationship

end DependencyEdge

structure Link where
  node : String
  ref : TypedEntityRef
  edge : DependencyEdge
  deriving DecidableEq

def forward (edge : DependencyEdge) : Link := ⟨edge.sourceId,edge.targetRef,edge⟩

def backward (edge : DependencyEdge) : Link := ⟨edge.targetId,edge.sourceRef,edge⟩

def neighboursIn (links : List Link) (node : String) : List (String × Link) :=
  (links.filter (fun link => link.node = node)).map (fun link => (link.ref.entityId, link))

section Links

variable {links : List Link}

theorem mem_neighboursIn_iff {node next : String} {link : Link} :
    (next, link) ∈ neighboursIn links node ↔ link ∈ links ∧ link.node = node ∧ link.ref.entityId = next := by
  simp only [neighboursIn,List.mem_map,List.mem_filter,decide_eq_true_eq,Prod.mk.injEq]
  constructor
  · rintro ⟨found,⟨member,here⟩,there,rfl⟩
    exact ⟨member,here,there⟩
  · rintro ⟨member,here,there⟩
    exact ⟨link,⟨member,here⟩,there,rfl⟩

theorem neighboursIn_inside (node : String) (neighbour : String × Link) (adjacent : neighbour ∈ neighboursIn links node) :
    neighbour.1 ∈ links.map (fun link => link.ref.entityId) := by
  obtain ⟨next,link⟩ := neighbour
  obtain ⟨member,_,there⟩ := mem_neighboursIn_iff.mp adjacent
  exact List.mem_map.mpr ⟨link,member,there⟩

end Links

def LinkStep (links : List Link) (a b : String) : Prop := ∃ link ∈ links, link.node = a ∧ link.ref.entityId = b

section Walks

variable {σ : Type} {links : List Link} {search : Search String Link σ} {root : String} {log : σ}

theorem step_eq_linkStep (along : search.neighbours = neighboursIn links) : search.Step = LinkStep links := by
  funext a b
  unfold Search.Step LinkStep
  rw [along]
  exact propext (exists_congr fun link => mem_neighboursIn_iff)

theorem linkWalk_ref (along : search.neighbours = neighboursIn links) {fuel : ℕ} {found : Entry String × Link}
    (member : found ∈ (search.run fuel (Walk.start root log)).found) : found.2.ref.entityId = found.1.node := by
  obtain ⟨done,state,_⟩ := run_invariant fuel (start_invariant search root log)
  obtain ⟨node,adjacent⟩ := state.labelled found member
  rw [along] at adjacent
  exact (mem_neighboursIn_iff.mp adjacent).2.2

theorem linkWalk_complete (along : search.neighbours = neighboursIn links) (root : String) (log : σ) :
    Complete search root log (search.run (links.length + 1) (Walk.start root log)) := by
  have inside : ∀ node, ∀ neighbour ∈ search.neighbours node,
      neighbour.1 ∈ links.map (fun link => link.ref.entityId) := by
    rw [along]
    exact neighboursIn_inside
  have enough : (links.map (fun link => link.ref.entityId)).length + 1 ≤ links.length + 1 := by
    rw [List.length_map]
  exact run_complete root inside enough log

theorem mem_linkWalk_iff (along : search.neighbours = neighboursIn links) {node : String} :
    node ∈ (search.run (links.length + 1) (Walk.start root log)).nodes ↔
      node ≠ root ∧ ∃ n, (∀ limit ∈ search.limit, n ≤ limit) ∧ search.Steps root n node :=
  (linkWalk_complete along root log).mem_nodes_iff node

theorem mem_linkWalk_unlimited (along : search.neighbours = neighboursIn links) (unlimited : search.limit = none)
    {node : String} : node ∈ (search.run (links.length + 1) (Walk.start root log)).nodes ↔
      node ≠ root ∧ Relation.ReflTransGen (LinkStep links) root node := by
  rw [mem_linkWalk_iff along,← step_eq_linkStep along,← steps_iff_reflTransGen,unlimited]
  simp

end Walks

end CloudLens.Dependency
