import CloudLens.Dependency.Model

/-! Downstream impact and upstream dependencies of an entity. Both walk the
graph breadth first and differ in the links an edge contributes: the downstream
side reads shared services and billing relationships from provider to consumer
whatever their direction, the upstream side reads every edge by its direction.
The two agree exactly when the paths that this leaves out exist otherwise. -/
namespace CloudLens.Dependency
open Library Library.Traversal

structure ImpactNode where
  entityRef : TypedEntityRef
  depth : ℕ
  criticality : EdgeCriticality
  viaRelationship : RelationshipType
  edgeId : String
  direction : DependencyDirection

structure ImpactSet where
  rootEntity : TypedEntityRef
  totalDependents : ℕ
  maxDepthReached : ℕ
  criticalDependentsCount : ℕ
  dependents : List ImpactNode
  edgesTraversed : List String
  hasCycle : Bool
  cycleNodes : List String

def downstreamLinks (edge : DependencyEdge) : List Link :=
  if edge.isShared then [forward edge]
  else
    match edge.direction with
    | .outbound => [backward edge]
    | .inbound => [forward edge]
    | .bidirectional => [backward edge, forward edge]

def upstreamLinks (edge : DependencyEdge) : List Link :=
  match edge.direction with
  | .outbound => [forward edge]
  | .inbound => [backward edge]
  | .bidirectional => [forward edge, backward edge]

def rootRef (edges : List DependencyEdge) (entityId : String) : TypedEntityRef :=
  (edges.foldl (fun found edge =>
    if edge.sourceId = entityId then some edge.sourceRef
    else if edge.targetId = entityId then some edge.targetRef
    else found) none).getD ⟨.resource,entityId,none⟩

structure ImpactLog where
  edgesTraversed : List String := []
  cycleDetected : Bool := false
  cycleNodes : Finset String := ∅

/-- A neighbour on the path is a cycle, any other neighbour makes its edge traversed. -/
def examineLink (entry : Entry String) (neighbour : String × Link) (log : ImpactLog) : ImpactLog :=
  if neighbour.1 ∈ entry.path then { log with cycleDetected := true, cycleNodes := insert neighbour.1 log.cycleNodes }
  else if neighbour.2.edge.id ∉ log.edgesTraversed then
    { log with edgesTraversed := log.edgesTraversed ++ [neighbour.2.edge.id] }
  else log

def impactSearch (links : List Link) (maxDepth : Option ℕ) : Search String Link ImpactLog where
  neighbours := neighboursIn links
  limit := maxDepth
  examine := examineLink

def impactWalk (links : List Link) (maxDepth : Option ℕ) (entityId : String) : Walk String Link ImpactLog :=
  (impactSearch links maxDepth).run (links.length + 1) (Walk.start entityId {})

def impactNode (found : Entry String × Link) : ImpactNode where
  entityRef := found.2.ref
  depth := found.1.depth
  criticality := found.2.edge.criticality
  viaRelationship := found.2.edge.relationshipType
  edgeId := found.2.edge.id
  direction := found.2.edge.direction

def impactSet (rootEntity : TypedEntityRef) (walk : Walk String Link ImpactLog) : ImpactSet where
  rootEntity := rootEntity
  totalDependents := walk.found.length
  maxDepthReached := (walk.found.map (fun f => f.1.depth)).foldl max 0
  criticalDependentsCount := (walk.found.map impactNode).countP (fun n => n.criticality = .critical)
  dependents := walk.found.map impactNode
  edgesTraversed := walk.log.edgesTraversed
  hasCycle := walk.log.cycleDetected
  cycleNodes := Text.sortedNames walk.log.cycleNodes

def ofTypes (relationshipTypes : List RelationshipType) (edges : List DependencyEdge) : List DependencyEdge :=
  if relationshipTypes = [] then edges else edges.filter (fun edge => edge.relationshipType ∈ relationshipTypes)

def computeDownstreamImpact (edges : List DependencyEdge) (entityId : String) (maxDepth : Option ℕ)
    (relationshipTypes : List RelationshipType) : ImpactSet :=
  let edges := ofTypes relationshipTypes edges
  impactSet (rootRef edges entityId) (impactWalk (edges.flatMap downstreamLinks) maxDepth entityId)

def computeUpstreamDependencies (edges : List DependencyEdge) (entityId : String) (maxDepth : Option ℕ) : ImpactSet :=
  impactSet (rootRef edges entityId) (impactWalk (edges.flatMap upstreamLinks) maxDepth entityId)

def ImpactSet.members (impact : ImpactSet) : List String := impact.dependents.map (fun node => node.entityRef.entityId)

section Reachability

variable {links : List Link} {edges : List DependencyEdge}

theorem members_impactSet (rootEntity : TypedEntityRef) (maxDepth : Option ℕ) (entityId : String) :
    (impactSet rootEntity (impactWalk links maxDepth entityId)).members = (impactWalk links maxDepth entityId).nodes := by
  unfold ImpactSet.members impactSet Walk.nodes
  rw [List.map_map]
  apply List.map_congr_left
  intro found member
  exact linkWalk_ref rfl member

theorem mem_impact_iff (rootEntity : TypedEntityRef) (entityId other : String) :
    other ∈ (impactSet rootEntity (impactWalk links none entityId)).members ↔
      other ≠ entityId ∧ Relation.ReflTransGen (LinkStep links) entityId other := by
  rw [members_impactSet]
  exact mem_linkWalk_unlimited rfl rfl

def ImpactStep (edges : List DependencyEdge) : String → String → Prop := LinkStep (edges.flatMap downstreamLinks)

def RelianceStep (edges : List DependencyEdge) : String → String → Prop := LinkStep (edges.flatMap upstreamLinks)

theorem mem_downstream_iff (x y : String) :
    y ∈ (computeDownstreamImpact edges x none []).members ↔ y ≠ x ∧ Relation.ReflTransGen (ImpactStep edges) x y :=
  mem_impact_iff (rootRef edges x) x y

theorem mem_upstream_iff (x y : String) :
    x ∈ (computeUpstreamDependencies edges y none).members ↔ x ≠ y ∧ Relation.ReflTransGen (RelianceStep edges) y x :=
  mem_impact_iff (rootRef edges y) y x

end Reachability

section Duality

variable {edges : List DependencyEdge}

theorem linkStep_flatMap {links : DependencyEdge → List Link} {a b : String} :
    LinkStep (edges.flatMap links) a b ↔ ∃ edge ∈ edges, LinkStep (links edge) a b := by
  unfold LinkStep
  constructor
  · rintro ⟨link,member,there⟩
    obtain ⟨edge,listed,given⟩ := List.mem_flatMap.mp member
    exact ⟨edge,listed,link,given,there⟩
  · rintro ⟨edge,listed,link,given,there⟩
    exact ⟨link,List.mem_flatMap.mpr ⟨edge,listed,given⟩,there⟩

def Joins (edge : DependencyEdge) (a b : String) : Prop := edge.sourceId = a ∧ edge.targetId = b

theorem linkStep_nil {a b : String} : LinkStep [] a b ↔ False := by simp [LinkStep]

theorem linkStep_cons {link : Link} {rest : List Link} {a b : String} :
    LinkStep (link :: rest) a b ↔ (link.node = a ∧ link.ref.entityId = b) ∨ LinkStep rest a b := List.exists_mem_cons_iff _ _ _

theorem linkAt_forward {edge : DependencyEdge} {a b : String} :
    ((forward edge).node = a ∧ (forward edge).ref.entityId = b) ↔ Joins edge a b := Iff.rfl

theorem linkAt_backward {edge : DependencyEdge} {a b : String} :
    ((backward edge).node = a ∧ (backward edge).ref.entityId = b) ↔ Joins edge b a := and_comm

theorem linkStep_downstream (edge : DependencyEdge) (a b : String) : LinkStep (downstreamLinks edge) a b ↔
    (Joins edge a b ∧ (edge.isShared = true ∨ edge.direction ≠ .outbound)) ∨
      (Joins edge b a ∧ edge.isShared = false ∧ edge.direction ≠ .inbound) := by
  unfold downstreamLinks
  cases edge.isShared <;> cases edge.direction <;>
    simp [linkStep_cons,linkStep_nil,linkAt_forward,linkAt_backward,or_comm]

theorem linkStep_upstream (edge : DependencyEdge) (a b : String) : LinkStep (upstreamLinks edge) a b ↔
    (Joins edge a b ∧ edge.direction ≠ .inbound) ∨ (Joins edge b a ∧ edge.direction ≠ .outbound) := by
  unfold upstreamLinks
  cases edge.direction <;> simp [linkStep_cons,linkStep_nil,linkAt_forward,linkAt_backward]

/-- Every shared edge that does not point inbound is made up for by other paths. -/
def SharedEdgesDual (edges : List DependencyEdge) : Prop :=
  ∀ edge ∈ edges, edge.isShared = true →
    (edge.direction ≠ .inbound → Relation.ReflTransGen (ImpactStep edges) edge.targetId edge.sourceId) ∧
      (edge.direction = .outbound → Relation.ReflTransGen (RelianceStep edges) edge.targetId edge.sourceId)

theorem impactStep_of_reliance (dual : SharedEdgesDual edges) {a b : String} (step : RelianceStep edges a b) :
    Relation.ReflTransGen (ImpactStep edges) b a := by
  obtain ⟨edge,member,link⟩ := linkStep_flatMap.mp step
  rcases (linkStep_upstream edge a b).mp link with ⟨⟨rfl,rfl⟩,direction⟩ | ⟨⟨rfl,rfl⟩,direction⟩
  · cases shared : edge.isShared with
    | true => exact (dual edge member shared).1 direction
    | false =>
      apply Relation.ReflTransGen.single
      exact linkStep_flatMap.mpr ⟨edge,member,(linkStep_downstream edge _ _).mpr (Or.inr ⟨⟨rfl,rfl⟩,shared,direction⟩)⟩
  · apply Relation.ReflTransGen.single
    exact linkStep_flatMap.mpr ⟨edge,member,(linkStep_downstream edge _ _).mpr (Or.inl ⟨⟨rfl,rfl⟩,Or.inr direction⟩)⟩

theorem reliance_of_impactStep (dual : SharedEdgesDual edges) {a b : String} (step : ImpactStep edges a b) :
    Relation.ReflTransGen (RelianceStep edges) b a := by
  obtain ⟨edge,member,link⟩ := linkStep_flatMap.mp step
  rcases (linkStep_downstream edge a b).mp link with ⟨⟨rfl,rfl⟩,read⟩ | ⟨⟨rfl,rfl⟩,_,direction⟩
  · by_cases outbound : edge.direction = .outbound
    · rcases read with shared | other
      · exact (dual edge member shared).2 outbound
      · exact absurd outbound other
    · apply Relation.ReflTransGen.single
      exact linkStep_flatMap.mpr ⟨edge,member,(linkStep_upstream edge _ _).mpr (Or.inr ⟨⟨rfl,rfl⟩,outbound⟩)⟩
  · apply Relation.ReflTransGen.single
    exact linkStep_flatMap.mpr ⟨edge,member,(linkStep_upstream edge _ _).mpr (Or.inl ⟨⟨rfl,rfl⟩,direction⟩)⟩

theorem reversed_path {forth back : String → String → Prop}
    (undone : ∀ a b, forth a b → Relation.ReflTransGen back b a) {a b : String} (path : Relation.ReflTransGen forth a b) :
    Relation.ReflTransGen back b a := by
  induction path with
  | refl => exact .refl
  | tail _ step ih => exact (undone _ _ step).trans ih

theorem sharedEdgesDual_of_symmetric
    (symmetric : ∀ x y, x ≠ y → (y ∈ (computeDownstreamImpact edges x none []).members ↔
      x ∈ (computeUpstreamDependencies edges y none).members)) : SharedEdgesDual edges := by
  have paths : ∀ x y, x ≠ y → (Relation.ReflTransGen (ImpactStep edges) x y ↔
      Relation.ReflTransGen (RelianceStep edges) y x) := by
    intro x y other
    have same := symmetric x y other
    rw [mem_downstream_iff,mem_upstream_iff] at same
    simpa [other,other.symm] using same
  intro edge member shared
  by_cases loop : edge.targetId = edge.sourceId
  · rw [loop]
    exact ⟨fun _ => .refl,fun _ => .refl⟩
  refine ⟨?_,?_⟩
  · intro direction
    apply (paths _ _ loop).mpr
    apply Relation.ReflTransGen.single
    exact linkStep_flatMap.mpr ⟨edge,member,(linkStep_upstream edge _ _).mpr (Or.inl ⟨⟨rfl,rfl⟩,direction⟩)⟩
  · intro _
    apply (paths _ _ (Ne.symm loop)).mp
    apply Relation.ReflTransGen.single
    exact linkStep_flatMap.mpr ⟨edge,member,(linkStep_downstream edge _ _).mpr (Or.inl ⟨⟨rfl,rfl⟩,Or.inl shared⟩)⟩

/-- Downstream impact and upstream dependencies mirror each other exactly when,
for every shared edge that is not inbound, an impact also runs back from its
target to its source, and for every outbound one the target also relies on the
source by other edges. -/
theorem impact_symmetric_iff (edges : List DependencyEdge) :
    (∀ x y, x ≠ y → (y ∈ (computeDownstreamImpact edges x none []).members ↔
        x ∈ (computeUpstreamDependencies edges y none).members)) ↔ SharedEdgesDual edges := by
  constructor
  · exact sharedEdgesDual_of_symmetric
  · intro dual x y other
    rw [mem_downstream_iff,mem_upstream_iff]
    refine and_congr (ne_comm) ⟨?_,?_⟩
    · exact reversed_path (fun _ _ => reliance_of_impactStep dual)
    · exact reversed_path (fun _ _ => impactStep_of_reliance dual)

end Duality

def platformRef : TypedEntityRef := ⟨.service,"platform",none⟩

def shopRef : TypedEntityRef := ⟨.application,"shop",none⟩

def sharedEdge : DependencyEdge :=
  { id := "e-1", sourceRef := platformRef, targetRef := shopRef, relationshipType := .sharedService
    provenance := ⟨.manual,none,some "alice",none⟩, confidence := .asAsserted, firstSeen := 0, lastSeen := 0
    effectiveFrom := 0 }

/-- The application is impacted by the platform but does not rely on it. -/
theorem shared_edge_breaks_symmetry :
    "shop" ∈ (computeDownstreamImpact [sharedEdge] "platform" none []).members ∧
      "platform" ∉ (computeUpstreamDependencies [sharedEdge] "shop" none).members := by
  decide +kernel

end CloudLens.Dependency
