import CloudLens.Library.Dict
import CloudLens.Library.Grouping
import CloudLens.Topology.Restricted
import Mathlib.Data.String.Basic

/-! Collapsing and clustering of a view. What lies below a collapsed node is
hidden, and beyond the limit of an interactive view the leaves of one parent and
type are gathered into one node. Restricted nodes are never gathered, and what
happens to a node depends on its identifier, its depth, its type and its flags. -/
namespace CloudLens.Topology
open Cost Dependency Library Library.Grouping

def ends (edge : TopologyEdge) : String × String := (edge.sourceId, edge.targetId)

def forwardOf (pairs : List (String × String)) (id : String) : List String :=
  (pairs.filter (fun pair => pair.1 = id)).map Prod.snd

def hideBelow (pairs : List (String × String)) (collapsedId : String) : ℕ → List String → List String → List String
  | 0, _, hidden => hidden
  | _, [], hidden => hidden
  | fuel + 1, current :: rest, hidden =>
    if current ∉ hidden ∧ current ≠ collapsedId then
      hideBelow pairs collapsedId fuel (rest ++ forwardOf pairs current) (hidden ++ [current])
    else hideBelow pairs collapsedId fuel rest hidden

structure CollapseState where
  valid : Dict String TopologyNode
  hidden : List String

def collapseOne (pairs : List (String × String)) (state : CollapseState) (collapsedId : String) : CollapseState :=
  match state.valid.get collapsedId with
  | none => state
  | some node =>
    { valid := state.valid.assign collapsedId { node with collapsed := true }
      hidden := hideBelow pairs collapsedId (2 * pairs.length) (forwardOf pairs collapsedId) state.hidden }

def visibleNodes (nodes : List TopologyNode) (pairs : List (String × String)) (maxDepth : ℕ) (collapsedNodeIds : List String) :
    Dict String TopologyNode :=
  let valid := Dict.ofPairs ((nodes.filter (fun node => node.depth ≤ maxDepth)).map (fun node => (node.id, node)))
  if collapsedNodeIds = [] then valid
  else
    let inside := pairs.filter (fun pair => pair.1 ∈ valid.keys ∧ pair.2 ∈ valid.keys)
    let state := collapsedNodeIds.foldl (collapseOne inside) ⟨valid,[]⟩
    state.hidden.foldl (fun left id => left.erase id) state.valid

def firstParent (edges : List TopologyEdge) (id : String) : String :=
  (((edges.filter (fun edge => edge.targetId = id)).map TopologyEdge.sourceId).min?).getD "root"

def isCandidateLeaf (edges : List TopologyEdge) (node : TopologyNode) : Bool :=
  !(node.isRoot || edges.any (fun edge => edge.sourceId = node.id) || node.isRestricted)

def clusterKey (edges : List TopologyEdge) (leaf : TopologyNode) : String × EntityReferenceType :=
  (firstParent edges leaf.id, leaf.entityRef.entityType)

def clusterId (key : String × EntityReferenceType) : String := "cluster-" ++ key.1 ++ "-" ++ key.2.value

def clusterName (key : String × EntityReferenceType) (group : List TopologyNode) : String :=
  toString group.length ++ " " ++ capitalized key.2 ++ "s (Clustered)"

def clusterNode (currency : String) (key : String × EntityReferenceType) (group : List TopologyNode) : TopologyNode :=
  let cost := (group.map TopologyNode.directCost).sum
  { id := clusterId key
    entityRef := ⟨key.2,clusterId key,some (clusterName key group)⟩
    displayName := clusterName key group
    depth := (group.map TopologyNode.depth).foldl max 0
    isClustered := true
    clusteredNodeIds := group.map TopologyNode.id
    clusterCount := group.length
    enrichment := some
      { status := "CLUSTERED"
        cost := roundCurrency cost
        currency := currency
        owner := some "Multiple"
        provider :=
          match group.head?.bind TopologyNode.enrichment with
          | some enrichment => enrichment.provider
          | none => some "aws"
        tags := [("cluster", "true"), ("count", toString group.length)] }
    directCost := cost
    attributedChainCost := cost }

def clusterEdge (key : String × EntityReferenceType) : TopologyEdge where
  edgeId := "edge-cluster-" ++ key.1 ++ "-" ++ clusterId key
  sourceId := key.1
  targetId := clusterId key
  relationshipType := .parentChild
  direction := .outbound
  criticality := .medium
  confidence := .high

structure ClusteredGraph where
  nodes : List TopologyNode
  edges : List TopologyEdge
  count : ℕ
  deriving DecidableEq

def clusterGroup (edges : List TopologyEdge) (limit : ℕ) (currency : String) (graph : ClusteredGraph)
    (group : (String × EntityReferenceType) × List TopologyNode) : ClusteredGraph :=
  if group.2.length ≤ 1 ∨ graph.nodes.length + group.2.length ≤ limit then
    let nodes := graph.nodes ++ group.2
    { graph with
      nodes := nodes
      edges := graph.edges ++ group.2.flatMap (fun leaf =>
        edges.filter (fun edge => edge.targetId = leaf.id ∧ edge.sourceId ∈ nodes.map TopologyNode.id)) }
  else
    { nodes := graph.nodes ++ [clusterNode currency group.1 group.2]
      edges := graph.edges ++ [clusterEdge group.1]
      count := graph.count + group.2.length }

def clusterExcessNodes (nodes : List TopologyNode) (edges : List TopologyEdge) (limit : ℕ) (currency : String) :
    ClusteredGraph :=
  let nonLeafNodes := nodes.filter (fun node => !isCandidateLeaf edges node)
  let candidateLeaves := nodes.filter (isCandidateLeaf edges)
  if candidateLeaves.length < 2 then ⟨nodes,edges,0⟩
  else
    let kept := edges.filter (fun edge =>
      edge.sourceId ∈ nonLeafNodes.map TopologyNode.id ∧ edge.targetId ∈ nonLeafNodes.map TopologyNode.id)
    (groupInto (clusterKey edges) candidateLeaves).foldl (clusterGroup edges limit currency) ⟨nonLeafNodes,kept,0⟩

def pruneAndCluster (nodes : List TopologyNode) (edges : List TopologyEdge) (maxDepth : ℕ) (collapsedNodeIds : List String)
    (interactiveNodeLimit : ℕ) (enableClustering : Bool) (currency : String) : ClusteredGraph :=
  let valid := visibleNodes nodes (edges.map ends) maxDepth collapsedNodeIds
  let prunedNodes := valid.values
  let prunedEdges := edges.filter (fun edge => edge.sourceId ∈ valid.keys ∧ edge.targetId ∈ valid.keys)
  if enableClustering ∧ interactiveNodeLimit < prunedNodes.length then
    clusterExcessNodes prunedNodes prunedEdges interactiveNodeLimit currency
  else ⟨prunedNodes,prunedEdges,0⟩

section Collapse

variable {pairs : List (String × String)} {collapsedId : String}

theorem traded_edges (pairs : List (String × String)) {hidden : List String} {current : String} (visible : current ∉ hidden) :
    (pairs.filter (fun pair => pair.1 ∉ hidden)).length =
      (forwardOf pairs current).length + (pairs.filter (fun pair => pair.1 ∉ hidden ++ [current])).length := by
  unfold forwardOf
  rw [List.length_map]
  induction pairs with
  | nil => rfl
  | cons pair others ih =>
    simp only [List.mem_append,List.mem_singleton] at ih ⊢
    rw [List.filter_cons,List.filter_cons,List.filter_cons]
    by_cases here : pair.1 = current
    · simp only [here,visible,not_false_eq_true,decide_true,if_true,List.length_cons,ih,or_true,not_true_eq_false,
        decide_false,Bool.false_eq_true,if_false]
      omega
    · by_cases known : pair.1 ∈ hidden
      · simp only [here,known,not_true_eq_false,decide_false,Bool.false_eq_true,if_false,ih,or_false]
      · simp only [here,known,not_false_eq_true,decide_true,if_true,List.length_cons,ih,or_false,decide_false,
          Bool.false_eq_true,if_false]
        omega

/-- Every turn takes one entry off the queue or trades it for the edges of a node
that was not hidden before, so the loop has ended within its fuel. -/
theorem hideBelow_ended {fuel : ℕ} {queue hidden : List String}
    (enough : queue.length + (pairs.filter (fun pair => pair.1 ∉ hidden)).length ≤ fuel) :
    hideBelow pairs collapsedId (fuel + 1) queue hidden = hideBelow pairs collapsedId fuel queue hidden := by
  induction fuel generalizing queue hidden with
  | zero =>
    have empty : queue = [] := List.eq_nil_of_length_eq_zero (by omega)
    rw [empty]
    rfl
  | succ fuel ih =>
    cases queue with
    | nil => rfl
    | cons current rest =>
      rw [hideBelow,hideBelow]
      rw [List.length_cons] at enough
      split
      · rename_i visible
        apply ih
        have traded := traded_edges pairs visible.1
        rw [List.length_append]
        omega
      · apply ih
        omega

/-- The loop of a collapse ends within two turns for each edge: more of them hide nothing more. -/
theorem collapse_ended (hidden : List String) (more : ℕ) :
    hideBelow pairs collapsedId (2 * pairs.length + more) (forwardOf pairs collapsedId) hidden =
      hideBelow pairs collapsedId (2 * pairs.length) (forwardOf pairs collapsedId) hidden := by
  have started : (forwardOf pairs collapsedId).length ≤ pairs.length := by
    unfold forwardOf
    rw [List.length_map]
    exact List.length_filter_le _ _
  have left : (pairs.filter (fun pair => pair.1 ∉ hidden)).length ≤ pairs.length := List.length_filter_le _ _
  induction more with
  | zero => rfl
  | succ more ih =>
    rw [← Nat.add_assoc,hideBelow_ended (by omega),ih]

end Collapse

section Retouching

variable {f : TopologyNode → TopologyNode}

structure Retouches (f : TopologyNode → TopologyNode) : Prop where
  id : ∀ node, (f node).id = node.id
  depth : ∀ node, (f node).depth = node.depth
  collapsed : ∀ node, f { node with collapsed := true } = { f node with collapsed := true }

structure RetouchesRestricted (f : TopologyNode → TopologyNode) : Prop extends Retouches f where
  isRoot : ∀ node, (f node).isRoot = node.isRoot
  isRestricted : ∀ node, (f node).isRestricted = node.isRestricted
  fixed : ∀ node, node.isRestricted = false → f node = node

theorem retouchesRestricted_ite {touch : TopologyNode → TopologyNode} (same : Retouches touch)
    (isRoot : ∀ node, (touch node).isRoot = node.isRoot) (isRestricted : ∀ node, (touch node).isRestricted = node.isRestricted) :
    RetouchesRestricted (fun node => if node.isRestricted then touch node else node) := by
  refine ⟨⟨?_,?_,?_⟩,?_,?_,?_⟩
  · intro node
    split
    · exact same.id node
    · rfl
  · intro node
    split
    · exact same.depth node
    · rfl
  · intro node
    dsimp only
    split
    · exact same.collapsed node
    · rfl
  · intro node
    split
    · exact isRoot node
    · rfl
  · intro node
    split
    · exact isRestricted node
    · rfl
  · intro node unrestricted
    rw [unrestricted]
    rfl

def CollapseState.map (f : TopologyNode → TopologyNode) (state : CollapseState) : CollapseState :=
  ⟨state.valid.mapValues f,state.hidden⟩

theorem collapseOne_map (same : Retouches f) (pairs : List (String × String)) (state : CollapseState) (collapsedId : String) :
    collapseOne pairs (state.map f) collapsedId = (collapseOne pairs state collapsedId).map f := by
  unfold collapseOne
  have looked : (state.map f).valid.get collapsedId = (state.valid.get collapsedId).map f := Dict.get_mapValues f
  rw [looked]
  cases state.valid.get collapsedId with
  | none => rfl
  | some node =>
    dsimp only [Option.map_some,CollapseState.map]
    rw [← same.collapsed,Dict.assign_mapValues]

theorem foldl_collapseOne_map (same : Retouches f) (pairs : List (String × String)) (ids : List String) (state : CollapseState) :
    ids.foldl (collapseOne pairs) (state.map f) = (ids.foldl (collapseOne pairs) state).map f := by
  induction ids generalizing state with
  | nil => rfl
  | cons id rest ih =>
    rw [List.foldl_cons,List.foldl_cons,collapseOne_map same]
    exact ih _

theorem foldl_erase_map (hidden : List String) (left : Dict String TopologyNode) :
    hidden.foldl (fun left id => left.erase id) (left.mapValues f) =
      (hidden.foldl (fun left id => left.erase id) left).mapValues f := by
  induction hidden generalizing left with
  | nil => rfl
  | cons id rest ih =>
    rw [List.foldl_cons,List.foldl_cons,Dict.erase_mapValues]
    exact ih _

theorem visibleNodes_map (same : Retouches f) (nodes : List TopologyNode) (pairs : List (String × String)) (maxDepth : ℕ)
    (collapsedNodeIds : List String) :
    visibleNodes (nodes.map f) pairs maxDepth collapsedNodeIds =
      (visibleNodes nodes pairs maxDepth collapsedNodeIds).mapValues f := by
  have start : Dict.ofPairs (((nodes.map f).filter (fun node => node.depth ≤ maxDepth)).map (fun node => (node.id, node))) =
      (Dict.ofPairs ((nodes.filter (fun node => node.depth ≤ maxDepth)).map (fun node => (node.id, node)))).mapValues f := by
    rw [← Dict.ofPairs_mapValues,List.filter_map,List.map_map,List.map_map]
    simp only [Function.comp_def,same.id,same.depth]
  unfold visibleNodes
  dsimp only
  rw [start,Dict.keys_mapValues]
  split
  · rfl
  · generalize pairs.filter _ = inside
    generalize Dict.ofPairs ((nodes.filter (fun node => node.depth ≤ maxDepth)).map (fun node => (node.id, node))) = valid
    have collapsed := foldl_collapseOne_map same inside collapsedNodeIds ⟨valid,[]⟩
    rw [show (⟨valid.mapValues f,[]⟩ : CollapseState) = (⟨valid,[]⟩ : CollapseState).map f from rfl,collapsed]
    exact foldl_erase_map _ _

theorem visibleNodes_fixed (same : Retouches f) {nodes : List TopologyNode} (fixed : ∀ node ∈ nodes, f node = node)
    {pairs : List (String × String)} {maxDepth : ℕ} {collapsedNodeIds : List String} :
    ∀ node ∈ (visibleNodes nodes pairs maxDepth collapsedNodeIds).values, f node = node := by
  have mapped := congrArg Dict.values (visibleNodes_map same nodes pairs maxDepth collapsedNodeIds)
  rw [List.map_congr_left fixed,List.map_id',Dict.values_mapValues] at mapped
  intro node member
  have pointwise := List.map_inj_left.mp ((List.map_id _).trans mapped)
  exact (pointwise node member).symm

def ClusteredGraph.map (f : TopologyNode → TopologyNode) (graph : ClusteredGraph) : ClusteredGraph :=
  { graph with nodes := graph.nodes.map f }

theorem map_ids (same : Retouches f) (nodes : List TopologyNode) :
    (nodes.map f).map TopologyNode.id = nodes.map TopologyNode.id := by
  rw [List.map_map]
  exact List.map_congr_left fun node _ => same.id node

theorem isCandidateLeaf_map (same : RetouchesRestricted f) (edges : List TopologyEdge) (node : TopologyNode) :
    isCandidateLeaf edges (f node) = isCandidateLeaf edges node := by
  unfold isCandidateLeaf
  rw [same.isRoot,same.isRestricted,same.id]

theorem clusterGroup_map (same : RetouchesRestricted f) (edges : List TopologyEdge) (limit : ℕ) (currency : String)
    (graph : ClusteredGraph) {group : (String × EntityReferenceType) × List TopologyNode}
    (shown : ∀ node ∈ group.2, f node = node) :
    clusterGroup edges limit currency (graph.map f) group = (clusterGroup edges limit currency graph group).map f := by
  have kept : group.2.map f = group.2 := by
    rw [List.map_congr_left shown]
    exact List.map_id _
  have gathered : f (clusterNode currency group.1 group.2) = clusterNode currency group.1 group.2 := same.fixed _ rfl
  unfold clusterGroup ClusteredGraph.map
  simp only [List.length_map]
  split
  · simp only [List.map_append,kept,map_ids same.toRetouches]
  · simp only [List.map_append,List.map_cons,List.map_nil,gathered]

theorem clusterExcessNodes_map (same : RetouchesRestricted f) (nodes : List TopologyNode) (edges : List TopologyEdge)
    (limit : ℕ) (currency : String) :
    clusterExcessNodes (nodes.map f) edges limit currency = (clusterExcessNodes nodes edges limit currency).map f := by
  have inner : (nodes.map f).filter (fun node => !isCandidateLeaf edges node) =
      (nodes.filter (fun node => !isCandidateLeaf edges node)).map f := by
    rw [List.filter_map]
    simp only [Function.comp_def,isCandidateLeaf_map same]
  have unrestricted : ∀ node ∈ nodes.filter (isCandidateLeaf edges), f node = node := by
    intro node member
    have leaf := (List.mem_filter.mp member).2
    apply same.fixed
    unfold isCandidateLeaf at leaf
    simp only [Bool.not_eq_true',Bool.or_eq_false_iff] at leaf
    exact leaf.2
  have leaves : (nodes.map f).filter (isCandidateLeaf edges) = nodes.filter (isCandidateLeaf edges) := by
    have chosen : isCandidateLeaf edges ∘ f = isCandidateLeaf edges := funext (isCandidateLeaf_map same edges)
    rw [List.filter_map,chosen,List.map_congr_left unrestricted]
    exact List.map_id _
  unfold clusterExcessNodes
  dsimp only
  rw [inner,leaves,map_ids same.toRetouches]
  split
  · rfl
  · have grouped : ∀ group ∈ groupInto (clusterKey edges) (nodes.filter (isCandidateLeaf edges)),
        ∀ node ∈ group.2, f node = node := by
      intro group member node inside
      rw [(mem_groupInto_iff.mp member).2] at inside
      exact unrestricted node (List.mem_of_mem_filter inside)
    generalize edges.filter _ = kept
    generalize groupInto (clusterKey edges) (nodes.filter (isCandidateLeaf edges)) = groups at grouped ⊢
    have folded : ∀ graph : ClusteredGraph, groups.foldl (clusterGroup edges limit currency) (graph.map f) =
        (groups.foldl (clusterGroup edges limit currency) graph).map f := by
      induction groups with
      | nil => exact fun _ => rfl
      | cons group rest ih =>
        intro graph
        rw [List.foldl_cons,List.foldl_cons,clusterGroup_map same edges limit currency graph (grouped group List.mem_cons_self)]
        exact ih (fun later member => grouped later (List.mem_cons_of_mem group member)) _
    exact folded ⟨_,kept,0⟩

theorem pruneAndCluster_map (same : RetouchesRestricted f) (nodes : List TopologyNode) (edges : List TopologyEdge)
    (maxDepth : ℕ) (collapsedNodeIds : List String) (interactiveNodeLimit : ℕ) (enableClustering : Bool) (currency : String) :
    pruneAndCluster (nodes.map f) edges maxDepth collapsedNodeIds interactiveNodeLimit enableClustering currency =
      (pruneAndCluster nodes edges maxDepth collapsedNodeIds interactiveNodeLimit enableClustering currency).map f := by
  unfold pruneAndCluster
  dsimp only
  rw [visibleNodes_map same.toRetouches,Dict.keys_mapValues,Dict.values_mapValues,List.length_map]
  split
  · exact clusterExcessNodes_map same _ _ _ _
  · rfl

end Retouching

section Restricted

theorem filter_restricted_nil {nodes : List TopologyNode} (shown : ∀ node ∈ nodes, node.isRestricted = false) :
    nodes.filter TopologyNode.isRestricted = [] := by
  rw [List.filter_eq_nil_iff]
  intro node member
  rw [shown node member]
  exact Bool.false_ne_true

theorem clusterGroup_restricted (edges : List TopologyEdge) (limit : ℕ) (currency : String) (graph : ClusteredGraph)
    {group : (String × EntityReferenceType) × List TopologyNode} (shown : ∀ node ∈ group.2, node.isRestricted = false) :
    (clusterGroup edges limit currency graph group).nodes.filter TopologyNode.isRestricted =
      graph.nodes.filter TopologyNode.isRestricted := by
  unfold clusterGroup
  split
  · rw [List.filter_append,filter_restricted_nil shown,List.append_nil]
  · rw [List.filter_append]
    exact List.append_nil _

theorem clusterExcessNodes_restricted (nodes : List TopologyNode) (edges : List TopologyEdge) (limit : ℕ) (currency : String) :
    (clusterExcessNodes nodes edges limit currency).nodes.filter TopologyNode.isRestricted =
      nodes.filter TopologyNode.isRestricted := by
  unfold clusterExcessNodes
  dsimp only
  split
  · rfl
  · have grouped : ∀ group ∈ groupInto (clusterKey edges) (nodes.filter (isCandidateLeaf edges)),
        ∀ node ∈ group.2, node.isRestricted = false := by
      intro group member node inside
      rw [(mem_groupInto_iff.mp member).2] at inside
      have leaf := (List.mem_filter.mp (List.mem_of_mem_filter inside)).2
      unfold isCandidateLeaf at leaf
      simp only [Bool.not_eq_true',Bool.or_eq_false_iff] at leaf
      exact leaf.2
    have inner : (nodes.filter (fun node => !isCandidateLeaf edges node)).filter TopologyNode.isRestricted =
        nodes.filter TopologyNode.isRestricted := by
      rw [List.filter_filter]
      apply List.filter_congr
      intro node _
      unfold isCandidateLeaf
      cases node.isRestricted <;> simp
    generalize edges.filter _ = kept
    generalize groupInto (clusterKey edges) (nodes.filter (isCandidateLeaf edges)) = groups at grouped ⊢
    have folded : ∀ graph : ClusteredGraph, (groups.foldl (clusterGroup edges limit currency) graph).nodes.filter
        TopologyNode.isRestricted = graph.nodes.filter TopologyNode.isRestricted := by
      induction groups with
      | nil => exact fun _ => rfl
      | cons group rest ih =>
        intro graph
        rw [List.foldl_cons,ih (fun later member => grouped later (List.mem_cons_of_mem group member))]
        exact clusterGroup_restricted edges limit currency graph (grouped group List.mem_cons_self)
    rw [folded]
    exact inner

theorem pruneAndCluster_restricted (nodes : List TopologyNode) (edges : List TopologyEdge) (maxDepth : ℕ)
    (collapsedNodeIds : List String) (interactiveNodeLimit : ℕ) (enableClustering : Bool) (currency : String) :
    (pruneAndCluster nodes edges maxDepth collapsedNodeIds interactiveNodeLimit enableClustering currency).nodes.filter
        TopologyNode.isRestricted =
      (visibleNodes nodes (edges.map ends) maxDepth collapsedNodeIds).values.filter TopologyNode.isRestricted := by
  unfold pruneAndCluster
  dsimp only
  split
  · exact clusterExcessNodes_restricted _ _ _ _
  · rfl

end Restricted

end CloudLens.Topology
