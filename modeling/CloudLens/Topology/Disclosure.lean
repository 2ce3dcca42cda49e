import CloudLens.Topology.Relabelling

/-! What a view discloses of the entities that are restricted for its caller. The
mask keeps the reference of a node and the chain is not masked at all, so two
worlds that differ only in restricted entities look the same exactly when no
restricted entity is the root, stays visible or lies on the chain. -/
namespace CloudLens.Topology
open Access
open Cost
open Dependency
open Library
open Library.Traversal

def concealed (caller : Caller) (grants : List ScopeGrant) (enrich : Enrichment) (ref : TypedEntityRef) : Bool :=
  !evaluateAccess caller grants (topologyNode enrich ref 0 false)

def veilRef (caller : Caller) (grants : List ScopeGrant) (enrich : Enrichment) (ref : TypedEntityRef) : TypedEntityRef :=
  if concealed caller grants enrich ref then { ref with name := none } else ref

def unguarded (enrichment : NodeEnrichmentData) : NodeEnrichmentData :=
  { enrichment with cost := 0, forecastCost := none, owner := none, provider := none, tags := [] }

/-- The two worlds restrict the same entities for the caller and differ only in
their names, costs, owners, tags and providers. -/
structure SameOutside (caller : Caller) (grants : List ScopeGrant) (world other : TopologyWorld) : Prop where
  restricted : ∀ ref, concealed caller grants other.enrich ref = concealed caller grants world.enrich ref
  shown : ∀ ref, concealed caller grants world.enrich ref = false → enrichRef other.enrich ref = enrichRef world.enrich ref
  guarded : ∀ ref, unguarded (enrichRef other.enrich ref) = unguarded (enrichRef world.enrich ref)
  stored : other.stored.map (relabelEdge (veilRef caller grants world.enrich)) =
    world.stored.map (relabelEdge (veilRef caller grants world.enrich))

def uncollapsed (req : TopologyProjectionRequest) (world : TopologyWorld) : List TopologyNode :=
  (visibleNodes (project req world).nodes ((project req world).edges.map ends) (requestedDepth req)
    req.collapsedNodeIds).values

def rootOf (req : TopologyProjectionRequest) (world : TopologyWorld) : Option TypedEntityRef :=
  viewRoot req (entityMap (requestedEdges req world.stored))

def chainRefs (req : TopologyProjectionRequest) (world : TopologyWorld) (root : TypedEntityRef) : List TypedEntityRef :=
  (chainWalk (listEdges none world.stored) (some (requestedDepth req)) root.entityId).found.map (fun found => found.2.ref)

def exposedRefs (req : TopologyProjectionRequest) (world : TopologyWorld) : List TypedEntityRef :=
  (rootOf req world).toList ++ (uncollapsed req world).map TopologyNode.entityRef ++
    (rootOf req world).toList.flatMap (chainRefs req world)

section Masks

variable {caller : Caller} {grants : List ScopeGrant} {enrich : Enrichment} {ref : TypedEntityRef}

theorem evaluateAccess_topologyNode (depth : ℕ) (isRoot : Bool) :
    evaluateAccess caller grants (topologyNode enrich ref depth isRoot) = !concealed caller grants enrich ref := by
  unfold concealed
  rw [Bool.not_not]
  rfl

theorem concealed_name (name : Option String) :
    concealed caller grants enrich { ref with name := name } = concealed caller grants enrich ref := rfl

theorem concealed_veilRef : concealed caller grants enrich (veilRef caller grants enrich ref) = concealed caller grants enrich ref := by
  unfold veilRef
  split <;> rfl

theorem keepsKeys_veilRef (caller : Caller) (grants : List ScopeGrant) (enrich : Enrichment) :
    KeepsKeys (veilRef caller grants enrich) :=
  keepsKeys_ite (concealed caller grants enrich) ⟨fun _ => rfl,fun _ => rfl⟩

theorem maskFor_concealed (hidden : concealed caller grants enrich ref = true) (depth : ℕ) (isRoot : Bool) :
    maskFor caller grants (topologyNode enrich ref depth isRoot) = maskNode (topologyNode enrich ref depth isRoot) := by
  unfold maskFor
  rw [evaluateAccess_topologyNode,hidden]
  rfl

theorem maskFor_shown (seen : concealed caller grants enrich ref = false) (depth : ℕ) (isRoot : Bool) :
    maskFor caller grants (topologyNode enrich ref depth isRoot) = topologyNode enrich ref depth isRoot := by
  unfold maskFor
  rw [evaluateAccess_topologyNode,seen]
  rfl

theorem retouches_maskFor (caller : Caller) (grants : List ScopeGrant) : Retouches (maskFor caller grants) := by
  refine ⟨?_,?_,?_⟩
  · intro node
    unfold maskFor
    split <;> rfl
  · intro node
    unfold maskFor
    split <;> rfl
  · intro node
    have same : evaluateAccess caller grants { node with collapsed := true } = evaluateAccess caller grants node := rfl
    unfold maskFor
    rw [same]
    split <;> rfl

def veilNode (node : TopologyNode) : TopologyNode :=
  if node.isRestricted then
    { node with
      entityRef := { node.entityRef with name := none }
      enrichment := node.enrichment.map (fun enrichment => { enrichment with provider := none }) }
  else node

theorem retouchesRestricted_veilNode : RetouchesRestricted veilNode :=
  retouchesRestricted_ite ⟨fun _ => rfl,fun _ => rfl,fun _ => rfl⟩ (fun _ => rfl) (fun _ => rfl)

def veiledNode (caller : Caller) (grants : List ScopeGrant) (enrich : Enrichment) (ref : TypedEntityRef) (depth : ℕ)
    (isRoot : Bool) : TopologyNode :=
  veilNode (maskFor caller grants (topologyNode enrich ref depth isRoot))

theorem veiledNode_veilRef : veiledNode caller grants enrich (veilRef caller grants enrich ref) = veiledNode caller grants enrich ref := by
  funext depth isRoot
  cases hidden : concealed caller grants enrich ref with
  | true =>
    have still : concealed caller grants enrich (veilRef caller grants enrich ref) = true := by
      rw [concealed_veilRef,hidden]
    unfold veiledNode
    rw [maskFor_concealed still,maskFor_concealed hidden]
    unfold veilRef
    rw [hidden]
    rfl
  | false =>
    unfold veilRef
    rw [hidden]
    rfl

theorem veiledNode_other {world other : TopologyWorld} (same : SameOutside caller grants world other) :
    veiledNode caller grants other.enrich = veiledNode caller grants world.enrich := by
  funext ref depth isRoot
  cases hidden : concealed caller grants world.enrich ref with
  | true =>
    have currency : (enrichRef other.enrich ref).currency = (enrichRef world.enrich ref).currency := by
      have kept := congrArg NodeEnrichmentData.currency (same.guarded ref)
      exact kept
    unfold veiledNode
    rw [maskFor_concealed ((same.restricted ref).trans hidden),maskFor_concealed hidden]
    simp [veilNode,maskNode,topologyNode,maskedEnrichment,currency]
  | false =>
    unfold veiledNode
    rw [maskFor_shown ((same.restricted ref).trans hidden),maskFor_shown hidden]
    unfold topologyNode
    rw [same.shown ref hidden]

theorem restrictedIds_eq {nodes : List TopologyNode} (fresh : ∀ node ∈ nodes, node.isRestricted = false) :
    restrictedIds caller grants nodes =
      ((nodes.map (maskFor caller grants)).filter TopologyNode.isRestricted).map TopologyNode.id := by
  unfold restrictedIds
  rw [List.filter_map,List.map_map]
  have ids : ∀ node ∈ nodes.filter (TopologyNode.isRestricted ∘ maskFor caller grants),
      (TopologyNode.id ∘ maskFor caller grants) node = node.id := fun node _ => (retouches_maskFor caller grants).id node
  rw [List.map_congr_left ids]
  apply congrArg (List.map TopologyNode.id)
  apply List.filter_congr
  intro node member
  rw [Function.comp_apply]
  unfold maskFor
  cases evaluateAccess caller grants node with
  | true => exact (fresh node member).symm
  | false => rfl

end Masks

section Shown

variable {caller : Caller} {grants : List ScopeGrant} {req : TopologyProjectionRequest} {world other : TopologyWorld}
  {projected : Projected} {f : TopologyNode → TopologyNode}

theorem filter_restricted_map (same : RetouchesRestricted f) (nodes : List TopologyNode) :
    ((nodes.map f).filter TopologyNode.isRestricted).map TopologyNode.id =
      (nodes.filter TopologyNode.isRestricted).map TopologyNode.id := by
  have chosen : TopologyNode.isRestricted ∘ f = TopologyNode.isRestricted := funext same.isRestricted
  rw [List.filter_map,chosen,map_ids same.toRetouches]

theorem shownGraph_map (same : RetouchesRestricted f) (fresh : ∀ node ∈ projected.nodes, node.isRestricted = false) :
    (shownGraph caller grants req projected).map f =
      pruneAndCluster ((projected.nodes.map (maskFor caller grants)).map f)
        (maskEdgesForRestrictedNodes
          ((((projected.nodes.map (maskFor caller grants)).map f).filter TopologyNode.isRestricted).map TopologyNode.id)
          projected.edges)
        (requestedDepth req) req.collapsedNodeIds req.interactiveNodeLimit req.enableClustering req.currency := by
  unfold shownGraph
  rw [← pruneAndCluster_map same,restrictedIds_eq fresh,filter_restricted_map same]

theorem project_fresh (req : TopologyProjectionRequest) (world : TopologyWorld) :
    ∀ node ∈ (project req world).nodes, node.isRestricted = false := by
  intro node member
  rw [(project_eq req world).1] at member
  obtain ⟨_,_,rfl⟩ := List.mem_map.mp member
  rfl

theorem masked_eq (caller : Caller) (grants : List ScopeGrant) (req : TopologyProjectionRequest) (world : TopologyWorld) :
    (project req world).nodes.map (maskFor caller grants) =
      (projectedRefs req world.stored).map
        (fun made => maskFor caller grants (topologyNode world.enrich made.1 made.2.1 made.2.2)) := by
  rw [(project_eq req world).1,List.map_map]
  rfl

theorem maskEdges_ends (ids : List String) (edges : List TopologyEdge) :
    (maskEdgesForRestrictedNodes ids edges).map ends = edges.map ends := map_maskEdges (fun _ => rfl) ids edges

theorem veiled_same (req : TopologyProjectionRequest) (same : SameOutside caller grants world other) :
    ((project req other).nodes.map (maskFor caller grants)).map veilNode =
        ((project req world).nodes.map (maskFor caller grants)).map veilNode ∧
      (project req other).edges = (project req world).edges := by
  have keeps := keepsKeys_veilRef caller grants world.enrich
  refine ⟨?_,?_⟩
  · have made : ∀ stored, (projectedRefs req (stored.map (relabelEdge (veilRef caller grants world.enrich)))).map
        (fun made => veiledNode caller grants world.enrich made.1 made.2.1 made.2.2) =
          (projectedRefs req stored).map (fun made => veiledNode caller grants world.enrich made.1 made.2.1 made.2.2) :=
      fun stored => projectedRefs_relabel keeps req stored _ _ (fun _ => veiledNode_veilRef) (fun _ _ => rfl)
    rw [masked_eq,masked_eq,List.map_map,List.map_map]
    calc (projectedRefs req other.stored).map
          (fun made => veiledNode caller grants other.enrich made.1 made.2.1 made.2.2)
        = (projectedRefs req other.stored).map
          (fun made => veiledNode caller grants world.enrich made.1 made.2.1 made.2.2) := by rw [veiledNode_other same]
      _ = (projectedRefs req world.stored).map
          (fun made => veiledNode caller grants world.enrich made.1 made.2.1 made.2.2) := by
        rw [← made,same.stored,made]
  · rw [(project_eq req other).2,(project_eq req world).2,← projectedEdges_relabel keeps,same.stored,
      projectedEdges_relabel keeps]

theorem shown_veiled_same (req : TopologyProjectionRequest) (same : SameOutside caller grants world other) :
    (shownGraph caller grants req (project req other)).map veilNode =
      (shownGraph caller grants req (project req world)).map veilNode := by
  obtain ⟨nodes,edges⟩ := veiled_same req same
  rw [shownGraph_map retouchesRestricted_veilNode (project_fresh req other),
    shownGraph_map retouchesRestricted_veilNode (project_fresh req world),nodes,edges]

end Shown

section Sufficient

variable {caller : Caller} {grants : List ScopeGrant} {req : TopologyProjectionRequest} {world other : TopologyWorld}

theorem evaluateAccess_congr {node node' : TopologyNode} (same : nodeTarget node = nodeTarget node') :
    evaluateAccess caller grants node = evaluateAccess caller grants node' := by
  unfold evaluateAccess
  rw [same]

def settleNode (enrich : Enrichment) (node : TopologyNode) : TopologyNode :=
  { node with isRestricted := false, enrichment := some (enrichRef enrich node.entityRef) }

theorem uncollapsed_settled {node : TopologyNode} (member : node ∈ uncollapsed req world) : settleNode world.enrich node = node := by
  have retouches : Retouches (settleNode world.enrich) := ⟨fun _ => rfl,fun _ => rfl,fun _ => rfl⟩
  apply visibleNodes_fixed retouches _ node member
  intro made inside
  rw [(project_eq req world).1] at inside
  obtain ⟨_,_,rfl⟩ := List.mem_map.mp inside
  rfl

theorem isRestricted_maskFor {node : TopologyNode} (member : node ∈ uncollapsed req world) :
    (maskFor caller grants node).isRestricted = concealed caller grants world.enrich node.entityRef := by
  have settled := uncollapsed_settled member
  have fresh : node.isRestricted = false := by
    rw [← settled]
    rfl
  have target : nodeTarget node = nodeTarget (topologyNode world.enrich node.entityRef 0 false) := by
    rw [← settled]
    rfl
  unfold maskFor concealed
  rw [evaluateAccess_congr target]
  cases evaluateAccess caller grants (topologyNode world.enrich node.entityRef 0 false) with
  | true => exact fresh
  | false => rfl

theorem shown_restricted (caller : Caller) (grants : List ScopeGrant) (req : TopologyProjectionRequest) (world : TopologyWorld) :
    (shownGraph caller grants req (project req world)).nodes.filter TopologyNode.isRestricted =
      ((uncollapsed req world).filter (fun node => concealed caller grants world.enrich node.entityRef)).map
        (maskFor caller grants) := by
  unfold shownGraph
  rw [pruneAndCluster_restricted,maskEdges_ends,visibleNodes_map (retouches_maskFor caller grants),Dict.values_mapValues,
    List.filter_map]
  apply congrArg (List.map (maskFor caller grants))
  apply List.filter_congr
  intro node member
  exact isRestricted_maskFor member

theorem veilNode_fixed {nodes : List TopologyNode} (shown : ∀ node ∈ nodes, node.isRestricted = false) :
    nodes.map veilNode = nodes := by
  rw [List.map_congr_left (fun node member => retouchesRestricted_veilNode.fixed node (shown node member))]
  exact List.map_id _

theorem shownGraph_same (same : SameOutside caller grants world other)
    (seen : ∀ node ∈ uncollapsed req world, concealed caller grants world.enrich node.entityRef = false) :
    shownGraph caller grants req (project req other) = shownGraph caller grants req (project req world) := by
  have veiled := shown_veiled_same req same
  have unrestricted : ∀ node ∈ (shownGraph caller grants req (project req world)).nodes, node.isRestricted = false := by
    have none : (shownGraph caller grants req (project req world)).nodes.filter TopologyNode.isRestricted = [] := by
      rw [shown_restricted,List.filter_eq_nil_iff.mpr]
      · rfl
      · intro node member
        rw [seen node member]
        exact Bool.false_ne_true
    intro node member
    exact Bool.eq_false_iff.mpr (List.filter_eq_nil_iff.mp none node member)
  have nodes : (shownGraph caller grants req (project req other)).nodes.map veilNode =
      (shownGraph caller grants req (project req world)).nodes.map veilNode := congrArg ClusteredGraph.nodes veiled
  have also : ∀ node ∈ (shownGraph caller grants req (project req other)).nodes, node.isRestricted = false := by
    intro node member
    have inside : veilNode node ∈ (shownGraph caller grants req (project req world)).nodes := by
      rw [← veilNode_fixed unrestricted,← nodes]
      exact List.mem_map_of_mem member
    rw [← retouchesRestricted_veilNode.isRestricted]
    exact unrestricted _ inside
  rw [veilNode_fixed also,veilNode_fixed unrestricted] at nodes
  have edges := congrArg ClusteredGraph.edges veiled
  have count := congrArg ClusteredGraph.count veiled
  generalize shownGraph caller grants req (project req other) = left at nodes edges count ⊢
  generalize shownGraph caller grants req (project req world) = right at nodes edges count ⊢
  cases left
  cases right
  simp only [ClusteredGraph.map] at nodes edges count
  rw [nodes,edges,count]

theorem restrictedIds_same (same : SameOutside caller grants world other) :
    restrictedIds caller grants (project req other).nodes = restrictedIds caller grants (project req world).nodes := by
  rw [restrictedIds_eq (project_fresh req other),restrictedIds_eq (project_fresh req world),
    ← filter_restricted_map retouchesRestricted_veilNode,(veiled_same req same).1,
    filter_restricted_map retouchesRestricted_veilNode]

theorem veilRef_shown {ref : TypedEntityRef} (seen : concealed caller grants world.enrich ref = false) :
    veilRef caller grants world.enrich ref = ref := by
  unfold veilRef
  rw [seen]
  rfl

theorem eq_of_veilRef {ref ref' : TypedEntityRef} (seen : concealed caller grants world.enrich ref = false)
    (veiled : veilRef caller grants world.enrich ref' = veilRef caller grants world.enrich ref) : ref' = ref := by
  have also : concealed caller grants world.enrich ref' = false := by
    rw [← concealed_veilRef,veiled,concealed_veilRef,seen]
  rwa [veilRef_shown seen,veilRef_shown also] at veiled

theorem rootOf_veiled (req : TopologyProjectionRequest) (same : SameOutside caller grants world other) :
    (rootOf req other).map (veilRef caller grants world.enrich) = (rootOf req world).map (veilRef caller grants world.enrich) := by
  have keeps := keepsKeys_veilRef caller grants world.enrich
  have again : veilRef caller grants world.enrich ∘ veilRef caller grants world.enrich = veilRef caller grants world.enrich := by
    funext ref
    rw [Function.comp_apply]
    cases hidden : concealed caller grants world.enrich ref with
    | true => simp [veilRef,hidden,concealed_name]
    | false => rw [veilRef_shown hidden,veilRef_shown hidden]
  have moved : ∀ stored, (viewRoot req (entityMap (requestedEdges req
      (stored.map (relabelEdge (veilRef caller grants world.enrich)))))).map (veilRef caller grants world.enrich) =
        (viewRoot req (entityMap (requestedEdges req stored))).map (veilRef caller grants world.enrich) := by
    intro stored
    rw [requestedEdges_relabel,entityMap_relabel keeps]
    rcases viewRoot_relabel keeps req (entityMap (requestedEdges req stored)) with relabelled | kept
    · rw [relabelled,Option.map_map,again]
    · rw [kept]
  unfold rootOf
  rw [← moved other.stored,same.stored,moved]

theorem rootOf_same (same : SameOutside caller grants world other)
    (seen : ∀ root, rootOf req world = some root → concealed caller grants world.enrich root = false) :
    rootOf req other = rootOf req world := by
  have veiled := rootOf_veiled req same
  cases chosen : rootOf req world with
  | none =>
    rw [chosen] at veiled
    exact Option.map_eq_none_iff.mp veiled
  | some root =>
    rw [chosen] at veiled
    obtain ⟨root',found,looks⟩ := Option.map_eq_some_iff.mp veiled
    rw [found,eq_of_veilRef (seen root chosen) looks]

theorem chain_found_same {Made : Type} (same : SameOutside caller grants world other) {root : TypedEntityRef}
    (seen : ∀ ref ∈ chainRefs req world root, concealed caller grants world.enrich ref = false)
    (make remake : Entry String × Link → Made)
    (agree : ∀ found, concealed caller grants world.enrich found.2.ref = false → remake found = make found)
    (blind : ∀ entry link, concealed caller grants world.enrich link.ref = false →
      make (entry, relabelLink (veilRef caller grants world.enrich) link) = make (entry, link)) :
    (chainWalk (listEdges none other.stored) (some (requestedDepth req)) root.entityId).found.map remake =
      (chainWalk (listEdges none world.stored) (some (requestedDepth req)) root.entityId).found.map make := by
  have keeps := keepsKeys_veilRef caller grants world.enrich
  have moved : ∀ stored : List DependencyEdge,
      (chainWalk (listEdges none (stored.map (relabelEdge (veilRef caller grants world.enrich)))) (some (requestedDepth req))
        root.entityId).found =
      (chainWalk (listEdges none stored) (some (requestedDepth req)) root.entityId).found.map
        (fun found => (found.1, relabelLink (veilRef caller grants world.enrich) found.2)) := by
    intro stored
    rw [listEdges_relabel,chainWalk_relabel keeps]
    rfl
  have veiled := moved other.stored
  rw [same.stored,moved] at veiled
  have here : ∀ found ∈ (chainWalk (listEdges none world.stored) (some (requestedDepth req)) root.entityId).found,
      concealed caller grants world.enrich found.2.ref = false :=
    fun found member => seen _ (List.mem_map_of_mem member)
  have there : ∀ found ∈ (chainWalk (listEdges none other.stored) (some (requestedDepth req)) root.entityId).found,
      concealed caller grants world.enrich found.2.ref = false := by
    intro found member
    have inside := List.mem_map_of_mem (f := fun found : Entry String × Link =>
      (found.1, relabelLink (veilRef caller grants world.enrich) found.2)) member
    rw [← veiled] at inside
    obtain ⟨twin,listed,looks⟩ := List.mem_map.mp inside
    have refs : veilRef caller grants world.enrich twin.2.ref = veilRef caller grants world.enrich found.2.ref :=
      congrArg (fun pair => pair.2.ref) looks
    rw [← concealed_veilRef,← refs,concealed_veilRef]
    exact here twin listed
  have blindly : ∀ found : Entry String × Link, concealed caller grants world.enrich found.2.ref = false →
      make (found.1, relabelLink (veilRef caller grants world.enrich) found.2) = make found :=
    fun found shown => blind found.1 found.2 shown
  calc (chainWalk (listEdges none other.stored) (some (requestedDepth req)) root.entityId).found.map remake
      = (chainWalk (listEdges none other.stored) (some (requestedDepth req)) root.entityId).found.map
          (fun found => make (found.1, relabelLink (veilRef caller grants world.enrich) found.2)) := by
        apply List.map_congr_left
        intro found member
        rw [agree found (there found member),blindly found (there found member)]
    _ = (chainWalk (listEdges none world.stored) (some (requestedDepth req)) root.entityId).found.map
          (fun found => make (found.1, relabelLink (veilRef caller grants world.enrich) found.2)) := by
        have mapped := congrArg (List.map make) veiled
        rw [List.map_map,List.map_map] at mapped
        exact mapped.symm
    _ = (chainWalk (listEdges none world.stored) (some (requestedDepth req)) root.entityId).found.map make := by
        apply List.map_congr_left
        intro found member
        exact blindly found (here found member)

theorem chainCost_same (same : SameOutside caller grants world other) {root : TypedEntityRef}
    (seenRoot : concealed caller grants world.enrich root = false)
    (seen : ∀ ref ∈ chainRefs req world root, concealed caller grants world.enrich ref = false) :
    calculateChainCost (listEdges none other.stored) other.enrich req.currency (requestedDepth req) root =
      calculateChainCost (listEdges none world.stored) world.enrich req.currency (requestedDepth req) root := by
  have kept : ∀ {link : Link}, concealed caller grants world.enrich link.ref = false →
      (relabelLink (veilRef caller grants world.enrich) link).ref = link.ref := veilRef_shown
  have nodes := chain_found_same same seen (nodeBreakdown world.enrich) (nodeBreakdown other.enrich)
    (by
      intro found shown
      unfold nodeBreakdown
      rw [same.shown _ shown])
    (by
      intro entry link shown
      unfold nodeBreakdown
      dsimp only
      rw [kept shown]
      rfl)
  have shared := chain_found_same same seen (sharedBreakdown world.enrich) (sharedBreakdown other.enrich)
    (by
      intro found shown
      unfold sharedBreakdown
      rw [same.shown _ shown])
    (by
      intro entry link shown
      unfold sharedBreakdown
      dsimp only
      rw [kept shown]
      rfl)
  have services := congrArg (List.filterMap id) shared
  rw [List.filterMap_map,List.filterMap_map] at services
  have direct := same.shown root seenRoot
  unfold calculateChainCost
  dsimp only
  rw [nodes,direct]
  exact congrArg (ChainCostDecomposition.mk _ _ _ _ _ _) services

end Sufficient

section Necessary

variable {caller : Caller} {grants : List ScopeGrant} {req : TopologyProjectionRequest} {world : TopologyWorld}

def dearer (caller : Caller) (grants : List ScopeGrant) (world : TopologyWorld) : TopologyWorld :=
  { world with
    enrich := fun type id =>
      if concealed caller grants world.enrich ⟨type,id,none⟩ then
        { world.enrich type id with cost := (world.enrich type id).cost + 1 }
      else world.enrich type id }

theorem enrichRef_dearer (ref : TypedEntityRef) :
    enrichRef (dearer caller grants world).enrich ref =
      if concealed caller grants world.enrich ref then
        { enrichRef world.enrich ref with cost := (enrichRef world.enrich ref).cost + 1 }
      else enrichRef world.enrich ref := rfl

theorem sameOutside_dearer (caller : Caller) (grants : List ScopeGrant) (world : TopologyWorld) :
    SameOutside caller grants world (dearer caller grants world) := by
  refine ⟨?_,?_,?_,rfl⟩
  · intro ref
    unfold concealed
    apply congrArg (!·)
    apply evaluateAccess_congr
    unfold nodeTarget topologyNode
    rw [enrichRef_dearer]
    split <;> rfl
  · intro ref shown
    rw [enrichRef_dearer,shown]
    rfl
  · intro ref
    rw [enrichRef_dearer]
    split <;> rfl

def otherName (ref : TypedEntityRef) : TypedEntityRef := { ref with name := some (ref.name.getD "" ++ "*") }

theorem otherName_ne (ref : TypedEntityRef) : otherName ref ≠ ref := by
  intro same
  have names := congrArg TypedEntityRef.name same
  unfold otherName at names
  cases named : ref.name with
  | none =>
    rw [named] at names
    cases names
  | some name =>
    rw [named] at names
    have lengths := congrArg String.length (Option.some.inj names)
    rw [Option.getD_some,String.length_append] at lengths
    have one : "*".length = 1 := rfl
    omega

def renameRef (caller : Caller) (grants : List ScopeGrant) (enrich : Enrichment) (ref : TypedEntityRef) : TypedEntityRef :=
  if concealed caller grants enrich ref then otherName ref else ref

theorem keepsKeys_renameRef (caller : Caller) (grants : List ScopeGrant) (enrich : Enrichment) :
    KeepsKeys (renameRef caller grants enrich) :=
  keepsKeys_ite (concealed caller grants enrich) ⟨fun _ => rfl,fun _ => rfl⟩

def renamed (caller : Caller) (grants : List ScopeGrant) (world : TopologyWorld) : TopologyWorld :=
  { world with stored := world.stored.map (relabelEdge (renameRef caller grants world.enrich)) }

theorem sameOutside_renamed (caller : Caller) (grants : List ScopeGrant) (world : TopologyWorld) :
    SameOutside caller grants world (renamed caller grants world) := by
  refine ⟨fun _ => rfl,fun _ _ => rfl,fun _ => rfl,?_⟩
  have unseen : ∀ ref, veilRef caller grants world.enrich (renameRef caller grants world.enrich ref) =
      veilRef caller grants world.enrich ref := by
    intro ref
    cases hidden : concealed caller grants world.enrich ref with
    | true => simp [veilRef,renameRef,otherName,hidden,concealed_name]
    | false => simp [renameRef,hidden]
  unfold renamed
  rw [List.map_map]
  apply List.map_congr_left
  intro edge _
  simp [relabelEdge,unseen]

def renameNode (node : TopologyNode) : TopologyNode :=
  if node.isRestricted then { node with entityRef := otherName node.entityRef } else node

theorem retouchesRestricted_renameNode : RetouchesRestricted renameNode :=
  retouchesRestricted_ite ⟨fun _ => rfl,fun _ => rfl,fun _ => rfl⟩ (fun _ => rfl) (fun _ => rfl)

theorem masked_renameRef (enrich : Enrichment) (ref : TypedEntityRef) :
    (fun depth isRoot => maskFor caller grants (topologyNode enrich (renameRef caller grants enrich ref) depth isRoot)) =
      fun depth isRoot => renameNode (maskFor caller grants (topologyNode enrich ref depth isRoot)) := by
  funext depth isRoot
  cases hidden : concealed caller grants enrich ref with
  | true =>
    have still : concealed caller grants enrich (otherName ref) = true := hidden
    unfold renameRef
    rw [hidden,if_pos rfl,maskFor_concealed still,maskFor_concealed hidden]
    rfl
  | false =>
    unfold renameRef
    rw [hidden,if_neg Bool.false_ne_true,maskFor_shown hidden]
    rfl

theorem shownGraph_renamed (seen : ∀ root, rootOf req world = some root → concealed caller grants world.enrich root = false) :
    shownGraph caller grants req (project req (renamed caller grants world)) =
      (shownGraph caller grants req (project req world)).map renameNode := by
  have keeps := keepsKeys_renameRef caller grants world.enrich
  have masked : (project req (renamed caller grants world)).nodes.map (maskFor caller grants) =
      ((project req world).nodes.map (maskFor caller grants)).map renameNode := by
    rw [masked_eq,masked_eq,List.map_map]
    apply projectedRefs_relabel keeps req world.stored
      (fun ref depth isRoot => renameNode (maskFor caller grants (topologyNode world.enrich ref depth isRoot)))
      (fun ref depth isRoot => maskFor caller grants (topologyNode world.enrich ref depth isRoot))
      (masked_renameRef world.enrich)
    intro root chosen
    funext depth isRoot
    rw [maskFor_shown (seen root chosen)]
    rfl
  have edges : (project req (renamed caller grants world)).edges = (project req world).edges := by
    rw [(project_eq req _).2,(project_eq req world).2]
    exact projectedEdges_relabel keeps req world.stored
  rw [shownGraph_map retouchesRestricted_renameNode (project_fresh req world)]
  unfold shownGraph
  rw [restrictedIds_eq (project_fresh req _),masked,edges]

end Necessary

section Structure

variable (caller : Caller) (grants : List ScopeGrant) (req : TopologyProjectionRequest) (world : TopologyWorld)

def unflagged (edge : TopologyEdge) : TopologyEdge := { edge with isRestricted := false }

/-- A view that is not clustered has the nodes and the edges that a caller without grants sees. -/
def StructureShown : Prop :=
  req.enableClustering = false ∨ (uncollapsed req world).length ≤ req.interactiveNodeLimit →
    ∀ view full, projectView caller grants req world = .ok view → projectView caller [] req world = .ok full →
      view.nodes.map TopologyNode.id = full.nodes.map TopologyNode.id ∧ view.edges.map unflagged = full.edges.map unflagged

theorem shownGraph_structure (unclustered : req.enableClustering = false ∨ (uncollapsed req world).length ≤ req.interactiveNodeLimit) :
    (shownGraph caller grants req (project req world)).nodes.map TopologyNode.id =
        (uncollapsed req world).map TopologyNode.id ∧
      (shownGraph caller grants req (project req world)).edges.map unflagged =
        ((project req world).edges.map unflagged).filter (fun edge =>
          edge.sourceId ∈ (visibleNodes (project req world).nodes ((project req world).edges.map ends) (requestedDepth req)
            req.collapsedNodeIds).keys ∧
          edge.targetId ∈ (visibleNodes (project req world).nodes ((project req world).edges.map ends) (requestedDepth req)
            req.collapsedNodeIds).keys) := by
  unfold shownGraph pruneAndCluster
  dsimp only
  rw [maskEdges_ends,visibleNodes_map (retouches_maskFor caller grants),Dict.values_mapValues,Dict.keys_mapValues,
    List.length_map,if_neg]
  · refine ⟨map_ids (retouches_maskFor caller grants) _,?_⟩
    have flags : (maskEdgesForRestrictedNodes (restrictedIds caller grants (project req world).nodes)
        (project req world).edges).map unflagged = (project req world).edges.map unflagged := map_maskEdges (fun _ => rfl) _ _
    rw [← flags,List.filter_map]
    rfl
  · rintro ⟨clusters,beyond⟩
    rcases unclustered with off | within
    · rw [off] at clusters
      cases clusters
    · exact Nat.not_lt.mpr within beyond

theorem structureShown : StructureShown caller grants req world := by
  intro unclustered view full viewed seen
  rw [projectView_eq] at viewed seen
  cases viewed
  cases seen
  obtain ⟨nodes,edges⟩ := shownGraph_structure caller grants req world unclustered
  obtain ⟨allNodes,allEdges⟩ := shownGraph_structure caller [] req world unclustered
  exact ⟨nodes.trans allNodes.symm,edges.trans allEdges.symm⟩

end Structure

section Disclosure

variable {caller : Caller} {grants : List ScopeGrant} {req : TopologyProjectionRequest} {world : TopologyWorld}

theorem mem_exposedRefs_iff {ref : TypedEntityRef} : ref ∈ exposedRefs req world ↔
    rootOf req world = some ref ∨ (∃ node ∈ uncollapsed req world, node.entityRef = ref) ∨
      ∃ root, rootOf req world = some root ∧ ref ∈ chainRefs req world root := by
  unfold exposedRefs
  simp only [List.mem_append,List.mem_map,List.mem_flatMap,Option.mem_toList,or_assoc]

theorem shown_of_cost {ref : TypedEntityRef}
    (same : (enrichRef (dearer caller grants world).enrich ref).cost = (enrichRef world.enrich ref).cost) :
    concealed caller grants world.enrich ref = false := by
  rw [enrichRef_dearer] at same
  split at same
  · linarith
  · rename_i shown
    exact Bool.eq_false_iff.mpr shown

theorem chain_shown (blind : graphView caller grants req (dearer caller grants world) = graphView caller grants req world)
    {root : TypedEntityRef} (chosen : rootOf req world = some root) :
    concealed caller grants world.enrich root = false ∧
      ∀ ref ∈ chainRefs req world root, concealed caller grants world.enrich ref = false := by
  have chains := congrArg TopologyGraphView.chainCost blind
  have also : rootOf req (dearer caller grants world) = some root := chosen
  have chainOf : ∀ taken : TopologyWorld, rootOf req taken = some root → (graphView caller grants req taken).chainCost =
      some (calculateChainCost (listEdges none taken.stored) taken.enrich req.currency (requestedDepth req) root) := by
    intro taken found
    change (rootOf req taken).map _ = _
    rw [found]
    rfl
  rw [chainOf _ also,chainOf _ chosen] at chains
  have chain := Option.some.inj chains
  refine ⟨shown_of_cost (congrArg ChainCostDecomposition.directRootCost chain),?_⟩
  intro ref member
  obtain ⟨found,listed,rfl⟩ := List.mem_map.mp member
  have raw := congrArg (fun chain => chain.contributingNodes.map NodeCostBreakdown.rawPeriodCost) chain
  rw [contributingNodes_raw,contributingNodes_raw] at raw
  exact shown_of_cost (List.map_inj_left.mp raw found listed)

theorem uncollapsed_shown (blind : graphView caller grants req (renamed caller grants world) = graphView caller grants req world)
    (seen : ∀ root, rootOf req world = some root → concealed caller grants world.enrich root = false) {node : TopologyNode}
    (member : node ∈ uncollapsed req world) : concealed caller grants world.enrich node.entityRef = false := by
  by_contra hidden
  have nodes : (shownGraph caller grants req (project req (renamed caller grants world))).nodes =
      (shownGraph caller grants req (project req world)).nodes := congrArg TopologyGraphView.nodes blind
  rw [shownGraph_renamed seen] at nodes
  have fixed := List.map_inj_left.mp (nodes.trans (List.map_id _).symm)
  have masked : maskFor caller grants node ∈
      (shownGraph caller grants req (project req world)).nodes.filter TopologyNode.isRestricted := by
    rw [shown_restricted]
    exact List.mem_map_of_mem (List.mem_filter.mpr ⟨member,Bool.eq_true_of_not_eq_false hidden⟩)
  obtain ⟨listed,restricted⟩ := List.mem_filter.mp masked
  have unchanged := fixed _ listed
  unfold renameNode at unchanged
  rw [restricted] at unchanged
  exact otherName_ne _ (congrArg TopologyNode.entityRef unchanged)

/-- A view tells apart no two worlds that differ only in entities restricted for
its caller, and still shows the structure of the graph, exactly when neither its
root nor an entity that it leaves visible nor one on its chain is restricted. -/
theorem view_discloses_nothing_iff (caller : Caller) (grants : List ScopeGrant) (req : TopologyProjectionRequest)
    (world : TopologyWorld) :
    ((∀ other, SameOutside caller grants world other →
        projectView caller grants req other = projectView caller grants req world) ∧
      StructureShown caller grants req world) ↔
    ∀ ref ∈ exposedRefs req world, concealed caller grants world.enrich ref = false := by
  constructor
  · rintro ⟨blind,_⟩ ref exposed
    have views : ∀ other, SameOutside caller grants world other →
        graphView caller grants req other = graphView caller grants req world := by
      intro other same
      have view := blind other same
      rw [projectView_eq,projectView_eq] at view
      exact Except.ok.inj view
    have dear := views _ (sameOutside_dearer caller grants world)
    rcases mem_exposedRefs_iff.mp exposed with isRoot | ⟨node,member,rfl⟩ | ⟨root,isRoot,member⟩
    · exact (chain_shown dear isRoot).1
    · exact uncollapsed_shown (views _ (sameOutside_renamed caller grants world))
        (fun root chosen => (chain_shown dear chosen).1) member
    · exact (chain_shown dear isRoot).2 ref member
  · intro seen
    refine ⟨?_,structureShown caller grants req world⟩
    intro other same
    have seenRoot : ∀ root, rootOf req world = some root → concealed caller grants world.enrich root = false :=
      fun root chosen => seen root (mem_exposedRefs_iff.mpr (Or.inl chosen))
    have seenNodes : ∀ node ∈ uncollapsed req world, concealed caller grants world.enrich node.entityRef = false :=
      fun node member => seen _ (mem_exposedRefs_iff.mpr (Or.inr (Or.inl ⟨node,member,rfl⟩)))
    have root := rootOf_same same seenRoot
    have shown := shownGraph_same same seenNodes
    have chain : (rootOf req world).map (calculateChainCost (listEdges none other.stored) other.enrich req.currency (requestedDepth req)) =
        (rootOf req world).map (calculateChainCost (listEdges none world.stored) world.enrich req.currency (requestedDepth req)) := by
      cases chosen : rootOf req world with
      | none => rfl
      | some root =>
        have onChain : ∀ ref ∈ chainRefs req world root, concealed caller grants world.enrich ref = false :=
          fun ref member => seen ref (mem_exposedRefs_iff.mpr (Or.inr (Or.inr ⟨root,chosen,member⟩)))
        exact congrArg some (chainCost_same same (seenRoot root chosen) onChain)
    rw [projectView_eq,projectView_eq]
    unfold rootOf at root chain
    unfold graphView
    dsimp only
    rw [root,shown,restrictedIds_same same,chain]

end Disclosure

def databaseEdge (name : Option String) : DependencyEdge :=
  { id := "e-1", sourceRef := ⟨.application,"shop",none⟩, targetRef := ⟨.service,"db",name⟩
    relationshipType := .logicalDependency, provenance := ⟨.manual,none,some "alice",none⟩, confidence := .asAsserted
    firstSeen := 0, lastSeen := 0, effectiveFrom := 0 }

def databaseWorld (name : String) (cost : ℚ) : TopologyWorld where
  stored := [databaseEdge (some name)]
  enrich := customEnrichment {} (fun id => if id = "db" then some cost else none) "USD"

def databaseDeny : ScopeGrant := { defaultDeny with resourceExceptions := ["db"] }

def databaseGrants : List ScopeGrant := [defaultAllow, databaseDeny]

def shopRequest : TopologyProjectionRequest where
  viewType := .applicationDependency
  rootEntityId := some "shop"
  bounded := fun given => absurd given.symm (Option.some_ne_none _)

section Database

variable {target : ResourceTarget} (unpriced : target.isFinancial = false) (unrated : target.isRateDetail = false)
  (plain : target.isAdministrative = false)

include unpriced unrated plain

theorem isMatch_databaseDeny : isMatch target databaseDeny = named target.resourceId ["db"] := by
  simp [isMatch,matchesDimension_ok_iff,providerMatches,withinList,hierarchyMatches,sensitivityMatches,exceptionsMatch,
    isOpen,databaseDeny,defaultDeny,defaultAllow,unpriced,unrated,plain]

theorem isMatch_defaultAllow : isMatch target defaultAllow = true := by
  simp [isMatch,matchesDimension_ok_iff,providerMatches,withinList,hierarchyMatches,sensitivityMatches,exceptionsMatch,
    isOpen,named,defaultAllow,unpriced,unrated,plain]

end Database

theorem concealed_databaseWorld (name : String) (cost : ℚ) (ref : TypedEntityRef) :
    concealed visitor databaseGrants (databaseWorld name cost).enrich ref = decide (ref.entityId = "db") := by
  have ordinary : ¬ Exempt visitor := by
    rintro ⟨role,held,admin⟩
    rw [List.mem_singleton.mp held] at admin
    exact absurd admin (by decide)
  have allowListed : defaultAllow ∈ databaseGrants := List.mem_cons_self
  have denyListed : databaseDeny ∈ databaseGrants := List.mem_cons_of_mem _ (List.mem_singleton.mpr rfl)
  have denied : isMatch (nodeTarget (topologyNode (databaseWorld name cost).enrich ref 0 false)) databaseDeny =
      decide (ref.entityId = "db") := by
    rw [isMatch_databaseDeny rfl rfl rfl]
    by_cases isDatabase : ref.entityId = "db"
    · simp [named,nodeTarget,topologyNode,isDatabase]
    · simp [named,nodeTarget,topologyNode,isDatabase]
  unfold concealed
  rw [evaluateAccess_of_unexempt _ _ ordinary]
  by_cases isDatabase : ref.entityId = "db"
  · rw [decide_eq_true isDatabase] at denied ⊢
    rw [denied_of_matching_deny denyListed rfl (by decide) denied]
    rfl
  · rw [decide_eq_false isDatabase] at denied ⊢
    rw [allowed_of_matching_allow allowListed rfl (by decide) (isMatch_defaultAllow rfl rfl rfl)]
    · rfl
    · intro grant member deny
      rcases List.mem_cons.mp member with isAllow | rest
      · rw [isAllow] at deny
        cases deny
      · rw [List.mem_singleton.mp rest]
        exact denied

theorem sameOutside_databaseWorld : SameOutside visitor databaseGrants (databaseWorld "ledger" 100) (databaseWorld "vault" 200) := by
  refine ⟨?_,?_,?_,?_⟩
  · intro ref
    rw [concealed_databaseWorld,concealed_databaseWorld]
  · intro ref shown
    rw [concealed_databaseWorld,decide_eq_false_iff_not] at shown
    simp [enrichRef,databaseWorld,customEnrichment,shown]
  · intro ref
    by_cases isDatabase : ref.entityId = "db"
    · simp [unguarded,enrichRef,databaseWorld,customEnrichment,enrichNode,periodCost,isDatabase]
    · simp [enrichRef,databaseWorld,customEnrichment,isDatabase]
  · have unnamed : ∀ name, relabelEdge (veilRef visitor databaseGrants (databaseWorld "ledger" 100).enrich)
        (databaseEdge (some name)) = databaseEdge none := by
      intro name
      unfold relabelEdge veilRef
      rw [concealed_databaseWorld,concealed_databaseWorld]
      rfl
    change [relabelEdge _ (databaseEdge (some "vault"))] = [relabelEdge _ (databaseEdge (some "ledger"))]
    rw [unnamed,unnamed]

/-- The view masks the database and then spells out its name and its cost in the chain. -/
theorem chain_discloses_database :
    SameOutside visitor databaseGrants (databaseWorld "ledger" 100) (databaseWorld "vault" 200) ∧
    projectView visitor databaseGrants shopRequest (databaseWorld "vault" 200) ≠
      projectView visitor databaseGrants shopRequest (databaseWorld "ledger" 100) ∧
    (graphView visitor databaseGrants shopRequest (databaseWorld "ledger" 100)).chainCost.map
      (fun chain => chain.contributingNodes.map (fun node => (node.displayName, node.rawPeriodCost))) =
        some [("ledger", 100)] ∧
    (graphView visitor databaseGrants shopRequest (databaseWorld "ledger" 100)).restrictedNodesCount = 1 := by
  refine ⟨sameOutside_databaseWorld,?_,?_,?_⟩
  · decide +kernel
  · decide +kernel
  · decide +kernel

end CloudLens.Topology
