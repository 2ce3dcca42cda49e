import CloudLens.Dependency.Impact

/-! How exact the downstream impact is. What it reports is exactly what the root
reaches within the depth limit, each entity at its shortest distance and over an
edge from one step before. Its cycle flag is less exact: an edge is a cycle only
when it leads back to the walk that its entity was first found by, so a cycle
that no such edge closes is not reported. -/
namespace CloudLens.Dependency
open Library Library.Traversal

/-- The dependents are what the root reaches within the limit, each once, at its
shortest distance and over an edge from the root or from a nearer dependent. -/
structure ExactImpact (edges : List DependencyEdge) (root : String) (maxDepth : Option ℕ) (impact : ImpactSet) : Prop where
  once : impact.members.Nodup
  exact : ∀ other, other ∈ impact.members ↔ other ≠ root ∧
    ∃ n, (∀ limit ∈ maxDepth, n ≤ limit) ∧ (impactSearch (edges.flatMap downstreamLinks) maxDepth).Steps root n other
  shortest : ∀ node ∈ impact.dependents,
    (impactSearch (edges.flatMap downstreamLinks) maxDepth).Nearest root node.depth node.entityRef.entityId
  stepped : ∀ node ∈ impact.dependents, ∃ edge ∈ edges, edge.id = node.edgeId ∧
    ∃ before, LinkStep (downstreamLinks edge) before node.entityRef.entityId ∧
      ((before = root ∧ node.depth = 1) ∨
        ∃ nearer ∈ impact.dependents, nearer.entityRef.entityId = before ∧ node.depth = nearer.depth + 1)

section Exactness

variable {edges : List DependencyEdge} {maxDepth : Option ℕ} {root : String}

theorem impactWalk_complete (links : List Link) (maxDepth : Option ℕ) (root : String) :
    Complete (impactSearch links maxDepth) root {} (impactWalk links maxDepth root) :=
  linkWalk_complete rfl root ({} : ImpactLog)

theorem edge_of_downstreamLink {edge : DependencyEdge} {link : Link} (contributed : link ∈ downstreamLinks edge) :
    link.edge = edge := by
  unfold downstreamLinks at contributed
  have forwardEdge : (forward edge).edge = edge := rfl
  have backwardEdge : (backward edge).edge = edge := rfl
  split at contributed
  · rw [List.mem_singleton.mp contributed]
    exact forwardEdge
  · split at contributed
    · rw [List.mem_singleton.mp contributed]
      exact backwardEdge
    · rw [List.mem_singleton.mp contributed]
      exact forwardEdge
    · rcases List.mem_cons.mp contributed with rfl | last
      · exact backwardEdge
      · rw [List.mem_singleton.mp last]
        exact forwardEdge

theorem stepped_over_edge {found : Entry String × Link}
    (member : found ∈ (impactWalk (edges.flatMap downstreamLinks) maxDepth root).found) :
    ∃ edge ∈ edges, edge.id = (impactNode found).edgeId ∧ ∃ before, LinkStep (downstreamLinks edge) before found.1.node ∧
      ((before = root ∧ found.1.depth = 1) ∨
        ∃ nearer ∈ (impactWalk (edges.flatMap downstreamLinks) maxDepth root).found,
          nearer.1.node = before ∧ found.1.depth = nearer.1.depth + 1) := by
  obtain ⟨before,listed,_,child,adjacent⟩ := (impactWalk_complete _ maxDepth root).parent member
  obtain ⟨linked,here,there⟩ := mem_neighboursIn_iff.mp adjacent
  obtain ⟨edge,given,contributed⟩ := List.mem_flatMap.mp linked
  have depth : found.1.depth = before.depth + 1 := congrArg Entry.depth child
  refine ⟨edge,given,congrArg DependencyEdge.id (edge_of_downstreamLink contributed).symm,before.node,
    ⟨found.2,contributed,here,there⟩,?_⟩
  rcases List.mem_cons.mp listed with rfl | earlier
  · exact Or.inl ⟨rfl,depth⟩
  · obtain ⟨nearer,inside,rfl⟩ := List.mem_map.mp earlier
    exact Or.inr ⟨nearer,inside,rfl,depth⟩

/-- The search for dependents comes to its end, and the downstream impact is exact reachability. -/
theorem downstream_impact_exact (edges : List DependencyEdge) (entityId : String) (maxDepth : Option ℕ)
    (relationshipTypes : List RelationshipType) :
    (impactWalk ((ofTypes relationshipTypes edges).flatMap downstreamLinks) maxDepth entityId).queue = [] ∧
      ExactImpact (ofTypes relationshipTypes edges) entityId maxDepth
        (computeDownstreamImpact edges entityId maxDepth relationshipTypes) := by
  have complete := impactWalk_complete ((ofTypes relationshipTypes edges).flatMap downstreamLinks) maxDepth entityId
  have members : (computeDownstreamImpact edges entityId maxDepth relationshipTypes).members =
      (impactWalk ((ofTypes relationshipTypes edges).flatMap downstreamLinks) maxDepth entityId).nodes :=
    members_impactSet _ maxDepth entityId
  refine ⟨complete.ended,⟨?_,?_,?_,?_⟩⟩
  · rw [members]
    exact (List.nodup_cons.mp complete.state.distinct).2
  · intro other
    rw [members]
    exact complete.mem_nodes_iff other
  · intro node member
    obtain ⟨found,listed,rfl⟩ := List.mem_map.mp member
    have same : (impactNode found).entityRef.entityId = found.1.node := linkWalk_ref rfl listed
    rw [same]
    exact complete.nearest (List.mem_cons_of_mem _ (List.mem_map_of_mem listed))
  · intro node member
    obtain ⟨found,listed,rfl⟩ := List.mem_map.mp member
    obtain ⟨edge,given,named,before,step,origin⟩ := stepped_over_edge listed
    have same : (impactNode found).entityRef.entityId = found.1.node := linkWalk_ref rfl listed
    refine ⟨edge,given,named,before,?_,origin.imp_right ?_⟩
    · rw [same]
      exact step
    · rintro ⟨nearer,inside,rfl,depth⟩
      exact ⟨impactNode nearer,List.mem_map_of_mem inside,linkWalk_ref rfl inside,depth⟩

end Exactness

def entityIds (root : String) (edges : List DependencyEdge) : Finset String :=
  (root :: edges.flatMap (fun edge => [edge.sourceId, edge.targetId])).toFinset

/-- A cycle of impacts can be reached from the root. -/
def CycleReachable (edges : List DependencyEdge) (root : String) : Prop :=
  ∃ entity, Relation.ReflTransGen (ImpactStep edges) root entity ∧ Relation.TransGen (ImpactStep edges) entity entity

/-- Some entity has an impact on an entity of its first shortest walk from the
root, walks of one length being compared in the order of the edges. -/
def ReturnsToFirstWalk (edges : List DependencyEdge) (root : String) : Prop :=
  (impactSearch (edges.flatMap downstreamLinks) none).Returns root

section Cycles

variable {edges : List DependencyEdge} {maxDepth : Option ℕ} {root : String}

theorem examineLink_flag (entry : Entry String) (log : ImpactLog) (neighbour : String × Link) :
    (examineLink entry neighbour log).cycleDetected = (log.cycleDetected || decide (neighbour.1 ∈ entry.path)) := by
  unfold examineLink
  split
  · simp [*]
  · split <;> simp [*]

theorem foldl_flag {β : Type} {log : ImpactLog → β → ImpactLog} {flags : β → Bool}
    (each : ∀ before item, (log before item).cycleDetected = (before.cycleDetected || flags item)) (items : List β)
    (before : ImpactLog) : (items.foldl log before).cycleDetected = (before.cycleDetected || items.any flags) := by
  induction items generalizing before with
  | nil => simp
  | cons first rest ih => rw [List.foldl_cons,ih,each,List.any_cons,Bool.or_assoc]

theorem logEntry_flag (search : Search String Link ImpactLog) (logs : search.examine = examineLink) (log : ImpactLog)
    (entry : Entry String) : (search.logEntry log entry).cycleDetected =
      (log.cycleDetected ||
        (search.reaches entry.depth && (search.neighbours entry.node).any (fun neighbour => neighbour.1 ∈ entry.path))) := by
  unfold Search.logEntry
  rw [logs]
  split
  · rename_i reached
    rw [foldl_flag (examineLink_flag entry),reached,Bool.true_and]
  · rename_i beyond
    simp [beyond]

theorem hasCycle_iff (links : List Link) (maxDepth : Option ℕ) (root : String) :
    (impactWalk links maxDepth root).log.cycleDetected = true ↔
      ∃ entry ∈ (impactWalk links maxDepth root).entries root, (impactSearch links maxDepth).reaches entry.depth = true ∧
        ∃ neighbour ∈ neighboursIn links entry.node, neighbour.1 ∈ entry.path := by
  rw [(impactWalk_complete links maxDepth root).state.logged,foldl_flag (logEntry_flag _ rfl)]
  simp [impactSearch]

theorem linked_inside {a b : String} (step : ImpactStep edges a b) : b ∈ entityIds root edges := by
  obtain ⟨edge,member,link⟩ := linkStep_flatMap.mp step
  unfold entityIds
  refine List.mem_toFinset.mpr (List.mem_cons_of_mem root (List.mem_flatMap.mpr ⟨edge,member,?_⟩))
  rcases (linkStep_downstream edge a b).mp link with ⟨⟨rfl,rfl⟩,_⟩ | ⟨⟨rfl,rfl⟩,_⟩
  · simp
  · simp

theorem nearest_lt_card {n : ℕ} {node : String}
    (near : (impactSearch (edges.flatMap downstreamLinks) none).Nearest root n node) : n < (entityIds root edges).card := by
  have complete := impactWalk_complete (edges.flatMap downstreamLinks) none root
  obtain ⟨entry,member,_,rfl⟩ := complete.known near nofun
  refine Nat.lt_of_lt_of_le (complete.depth_lt member) ?_
  have distinct : (((impactWalk (edges.flatMap downstreamLinks) none root).entries root).map Entry.node).Nodup := by
    rw [Walk.entries_nodes]
    exact complete.state.distinct
  rw [← List.length_map (f := Entry.node),← List.toFinset_card_of_nodup distinct]
  apply Finset.card_le_card
  intro id inside
  obtain ⟨known,listed,rfl⟩ := List.mem_map.mp (List.mem_toFinset.mp inside)
  rcases (complete.state.walked known listed).last with same | ⟨before,step⟩
  · rw [same]
    exact List.mem_toFinset.mpr List.mem_cons_self
  · rw [step_eq_linkStep rfl] at step
    exact linked_inside step

theorem hasCycle_iff_returns (deep : ∀ limit ∈ maxDepth, (entityIds root edges).card ≤ limit) :
    (impactWalk (edges.flatMap downstreamLinks) maxDepth root).log.cycleDetected = true ↔ ReturnsToFirstWalk edges root := by
  have complete := impactWalk_complete (edges.flatMap downstreamLinks) maxDepth root
  have within : ∀ n node, (impactSearch (edges.flatMap downstreamLinks) maxDepth).Nearest root n node →
      ∀ limit ∈ maxDepth, n < limit := by
    intro n node near limit given
    have same : (impactSearch (edges.flatMap downstreamLinks) maxDepth).Step =
        (impactSearch (edges.flatMap downstreamLinks) none).Step := rfl
    exact Nat.lt_of_lt_of_le (nearest_lt_card ((nearest_congr same).mp near)) (deep limit given)
  have all : ∀ entry ∈ (impactWalk (edges.flatMap downstreamLinks) maxDepth root).entries root,
      (impactSearch (edges.flatMap downstreamLinks) maxDepth).reaches entry.depth = true := by
    intro entry member
    unfold Search.reaches impactSearch
    cases given : maxDepth with
    | none => rfl
    | some limit =>
      rw [Option.all_some,decide_eq_true_eq]
      exact within _ _ (complete.nearest member) limit given
  have returns := complete.returns_iff (fun n node near limit given => (within n node near limit given).le)
  rw [hasCycle_iff]
  have same : (impactSearch (edges.flatMap downstreamLinks) maxDepth).neighbours =
      (impactSearch (edges.flatMap downstreamLinks) none).neighbours := rfl
  refine Iff.trans ?_ (returns.trans (returns_congr same))
  constructor
  · rintro ⟨entry,member,_,again⟩
    exact ⟨entry,member,again⟩
  · rintro ⟨entry,member,again⟩
    exact ⟨entry,member,all entry member,again⟩

theorem ReturnsToFirstWalk.cycle (returns : ReturnsToFirstWalk edges root) : CycleReachable edges root := by
  have cycle := Search.Returns.cycle returns
  rwa [step_eq_linkStep rfl] at cycle

/-- With no limit below the number of entities, the cycle flag tells whether a
cycle can be reached exactly when every graph that has one has an entity with an
impact on its own first walk. -/
theorem cycle_flag_exact_iff (edges : List DependencyEdge) (entityId : String) (maxDepth : Option ℕ)
    (relationshipTypes : List RelationshipType)
    (deep : ∀ limit ∈ maxDepth, (entityIds entityId (ofTypes relationshipTypes edges)).card ≤ limit) :
    ((computeDownstreamImpact edges entityId maxDepth relationshipTypes).hasCycle = true ↔
        CycleReachable (ofTypes relationshipTypes edges) entityId) ↔
      (CycleReachable (ofTypes relationshipTypes edges) entityId →
        ReturnsToFirstWalk (ofTypes relationshipTypes edges) entityId) := by
  have flag : (computeDownstreamImpact edges entityId maxDepth relationshipTypes).hasCycle = true ↔
      ReturnsToFirstWalk (ofTypes relationshipTypes edges) entityId := hasCycle_iff_returns deep
  rw [flag]
  exact ⟨fun exact => exact.mpr,fun returns => ⟨ReturnsToFirstWalk.cycle,returns⟩⟩

end Cycles

def reliance (id source target : String) : DependencyEdge :=
  { id := id, sourceRef := ⟨.application,source,none⟩, targetRef := ⟨.application,target,none⟩
    relationshipType := .applicationDependency, provenance := ⟨.manual,none,some "alice",none⟩, confidence := .asAsserted
    firstSeen := 0, lastSeen := 0, effectiveFrom := 0 }

theorem impactStep_of_standard {edges : List DependencyEdge} (standard : ∀ edge ∈ edges, edge.isShared = false ∧ edge.direction ≠ .inbound)
    {edge : DependencyEdge} (member : edge ∈ edges) : ImpactStep edges edge.targetId edge.sourceId :=
  linkStep_flatMap.mpr ⟨edge,member,(linkStep_downstream edge _ _).mpr (Or.inr ⟨⟨rfl,rfl⟩,standard edge member⟩)⟩

def closing : List DependencyEdge :=
  [reliance "e-1" "orders" "gateway", reliance "e-2" "stock" "orders", reliance "e-3" "orders" "stock"]

/-- The applications rely on each other, and only one is found over the gateway. -/
theorem closing_cycle_reported : (computeDownstreamImpact closing "gateway" (some 3) []).hasCycle = true ∧
    CycleReachable closing "gateway" ∧ ReturnsToFirstWalk closing "gateway" := by
  have impact (edge : DependencyEdge) : edge ∈ closing → ImpactStep closing edge.targetId edge.sourceId :=
    impactStep_of_standard (by decide)
  have reached : ImpactStep closing "gateway" "orders" := impact (reliance "e-1" "orders" "gateway") (by decide)
  have onStock : ImpactStep closing "orders" "stock" := impact (reliance "e-2" "stock" "orders") (by decide)
  have onOrders : ImpactStep closing "stock" "orders" := impact (reliance "e-3" "orders" "stock") (by decide)
  have cycle : CycleReachable closing "gateway" := ⟨"orders",.single reached,.tail (.single onStock) onOrders⟩
  have flagged : (computeDownstreamImpact closing "gateway" (some 3) []).hasCycle = true := by decide +kernel
  have deep : ∀ limit ∈ some 3, (entityIds "gateway" (ofTypes [] closing)).card ≤ limit := by
    intro limit given
    rw [← Option.some.inj given]
    decide +kernel
  exact ⟨flagged,cycle,(cycle_flag_exact_iff closing "gateway" (some 3) [] deep).mp (iff_of_true flagged cycle) cycle⟩

def crossing : List DependencyEdge :=
  [reliance "e-1" "orders" "gateway", reliance "e-2" "stock" "gateway", reliance "e-3" "orders" "stock",
    reliance "e-4" "stock" "orders"]

/-- Both applications are found over the gateway, so neither edge between them leads back to a first walk. -/
theorem crossing_cycle_unreported : (entityIds "gateway" crossing).card ≤ 3 ∧
    ¬ ((computeDownstreamImpact crossing "gateway" (some 3) []).hasCycle = true ↔ CycleReachable crossing "gateway") := by
  have impact (edge : DependencyEdge) : edge ∈ crossing → ImpactStep crossing edge.targetId edge.sourceId :=
    impactStep_of_standard (by decide)
  have reached : ImpactStep crossing "gateway" "orders" := impact (reliance "e-1" "orders" "gateway") (by decide)
  have onStock : ImpactStep crossing "orders" "stock" := impact (reliance "e-4" "stock" "orders") (by decide)
  have onOrders : ImpactStep crossing "stock" "orders" := impact (reliance "e-3" "orders" "stock") (by decide)
  have cycle : CycleReachable crossing "gateway" := ⟨"orders",.single reached,.tail (.single onStock) onOrders⟩
  have silent : (computeDownstreamImpact crossing "gateway" (some 3) []).hasCycle = false := by decide +kernel
  refine ⟨by decide +kernel,fun exact => ?_⟩
  rw [exact.mpr cycle] at silent
  cases silent

end CloudLens.Dependency
