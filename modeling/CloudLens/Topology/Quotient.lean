import CloudLens.Library.Text
import CloudLens.Topology.Collapsing

/-! What clustering makes of the survivors. It is a quotient that loses nothing as
long as the leaves of every cluster have one parent, the parent is a node that
stands, and no survivor goes under the identifier of a cluster. -/
namespace CloudLens.Topology
open Dependency Library Library.Grouping

abbrev LeafGroup := (String × EntityReferenceType) × List TopologyNode

section Sorting

variable {edges : List TopologyEdge} {limit : ℕ} {currency : String}

def shown (limit : ℕ) : ℕ → List LeafGroup → List LeafGroup
  | _, [] => []
  | count, group :: rest =>
    if group.2.length ≤ 1 ∨ count + group.2.length ≤ limit then group :: shown limit (count + group.2.length) rest
    else shown limit (count + 1) rest

def gathered (limit : ℕ) : ℕ → List LeafGroup → List LeafGroup
  | _, [] => []
  | count, group :: rest =>
    if group.2.length ≤ 1 ∨ count + group.2.length ≤ limit then gathered limit (count + group.2.length) rest
    else group :: gathered limit (count + 1) rest

theorem shown_gathered_perm (limit count : ℕ) (groups : List LeafGroup) :
    (shown limit count groups ++ gathered limit count groups).Perm groups := by
  induction groups generalizing count with
  | nil => exact List.Perm.refl _
  | cons group rest ih =>
    rw [shown,gathered]
    split
    · exact (ih _).cons group
    · exact List.perm_middle.trans ((ih _).cons group)

theorem gathered_large {count : ℕ} {groups : List LeafGroup} {group : LeafGroup} (member : group ∈ gathered limit count groups) :
    2 ≤ group.2.length := by
  induction groups generalizing count with
  | nil => cases member
  | cons first rest ih =>
    rw [gathered] at member
    split at member
    · exact ih member
    · rcases List.mem_cons.mp member with rfl | later
      · omega
      · exact ih later

theorem foldl_clusterGroup_perm (groups : List LeafGroup) (graph : ClusteredGraph) :
    (groups.foldl (clusterGroup edges limit currency) graph).nodes.Perm
      (graph.nodes ++ (shown limit graph.nodes.length groups).flatMap Prod.snd ++
        (gathered limit graph.nodes.length groups).map (fun group => clusterNode currency group.1 group.2)) := by
  induction groups generalizing graph with
  | nil =>
    rw [shown,gathered,List.flatMap_nil,List.map_nil,List.append_nil,List.append_nil]
    exact List.Perm.refl _
  | cons group rest ih =>
    rw [List.foldl_cons]
    refine (ih _).trans ?_
    rw [shown,gathered]
    unfold clusterGroup
    split
    · rw [List.length_append,List.flatMap_cons,List.append_assoc graph.nodes]
    · rw [List.length_append,List.length_singleton,List.map_cons,List.append_assoc,List.append_assoc,List.append_assoc,
        List.singleton_append]
      exact List.Perm.append_left _ List.perm_middle.symm

theorem foldl_clusterGroup_edges {groups : List LeafGroup} {graph : ClusteredGraph} {edge : TopologyEdge}
    (member : edge ∈ (groups.foldl (clusterGroup edges limit currency) graph).edges) :
    edge ∈ graph.edges ∨ (edge ∈ edges ∧ ∃ group ∈ shown limit graph.nodes.length groups, ∃ leaf ∈ group.2, edge.targetId = leaf.id) ∨
      ∃ group ∈ gathered limit graph.nodes.length groups, edge = clusterEdge group.1 := by
  induction groups generalizing graph with
  | nil => exact Or.inl member
  | cons group rest ih =>
    rw [List.foldl_cons] at member
    have found := ih member
    rw [shown,gathered]
    unfold clusterGroup at found
    split at found
    · rename_i fits
      rw [if_pos fits,if_pos fits]
      rw [List.length_append] at found
      rcases found with before | ⟨source,other,inside,leaf⟩ | clustered
      · rcases List.mem_append.mp before with old | new
        · exact Or.inl old
        · obtain ⟨leaf,inside,chosen⟩ := List.mem_flatMap.mp new
          have entering := (List.mem_filter.mp chosen).2
          simp only [decide_eq_true_eq] at entering
          exact Or.inr (Or.inl ⟨List.mem_of_mem_filter chosen,group,List.mem_cons_self,leaf,inside,entering.1⟩)
      · exact Or.inr (Or.inl ⟨source,other,List.mem_cons_of_mem _ inside,leaf⟩)
      · exact Or.inr (Or.inr clustered)
    · rename_i exceeds
      rw [if_neg exceeds,if_neg exceeds]
      rw [List.length_append,List.length_singleton] at found
      rcases found with before | standing | ⟨other,inside,same⟩
      · rcases List.mem_append.mp before with old | new
        · exact Or.inl old
        · exact Or.inr (Or.inr ⟨group,List.mem_cons_self,List.mem_singleton.mp new⟩)
      · exact Or.inr (Or.inl standing)
      · exact Or.inr (Or.inr ⟨other,List.mem_cons_of_mem _ inside,same⟩)

theorem clusterEdge_mem_foldl {groups : List LeafGroup} {graph : ClusteredGraph} {edge : TopologyEdge}
    (made : edge ∈ graph.edges ∨ ∃ group ∈ gathered limit graph.nodes.length groups, edge = clusterEdge group.1) :
    edge ∈ (groups.foldl (clusterGroup edges limit currency) graph).edges := by
  induction groups generalizing graph with
  | nil =>
    rcases made with old | ⟨group,inside,_⟩
    · exact old
    · cases inside
  | cons group rest ih =>
    rw [List.foldl_cons]
    apply ih
    rw [gathered] at made
    unfold clusterGroup
    split
    · rename_i fits
      rw [if_pos fits] at made
      rw [List.length_append]
      exact made.imp (List.mem_append_left _) id
    · rename_i exceeds
      rw [if_neg exceeds] at made
      rw [List.length_append,List.length_singleton]
      rcases made with old | ⟨other,inside,same⟩
      · exact Or.inl (List.mem_append_left _ old)
      · rcases List.mem_cons.mp inside with rfl | later
        · exact Or.inl (List.mem_append_right _ (List.mem_singleton.mpr same))
        · exact Or.inr ⟨other,later,same⟩

end Sorting

section Parents

variable {edges : List TopologyEdge}

theorem isCandidateLeaf_iff {node : TopologyNode} : isCandidateLeaf edges node = true ↔
    node.isRoot = false ∧ (∀ edge ∈ edges, edge.sourceId ≠ node.id) ∧ node.isRestricted = false := by
  unfold isCandidateLeaf
  simp only [Bool.not_eq_true',Bool.or_eq_false_iff,List.any_eq_false,decide_eq_true_eq,and_assoc]

theorem firstParent_cases (edges : List TopologyEdge) (id : String) :
    (∃ edge ∈ edges, edge.targetId = id ∧ edge.sourceId = firstParent edges id) ∨ firstParent edges id = "root" := by
  unfold firstParent
  cases least : ((edges.filter (fun edge => edge.targetId = id)).map TopologyEdge.sourceId).min? with
  | none => exact Or.inr rfl
  | some parent =>
    obtain ⟨edge,chosen,same⟩ := List.mem_map.mp (List.min?_mem least)
    obtain ⟨inside,target⟩ := List.mem_filter.mp chosen
    exact Or.inl ⟨edge,inside,by simpa using target,same⟩

theorem clusterId_inj {key other : String × EntityReferenceType} (same : clusterId key = clusterId other) : key = other := by
  have hyphenless : ∀ kind : EntityReferenceType, '-' ∉ kind.value.toList := by
    intro kind
    cases kind <;> decide
  have split : key.1.toList ++ '-' :: key.2.value.toList = other.1.toList ++ '-' :: other.2.value.toList := by
    have texts := congrArg String.toList same
    unfold clusterId at texts
    simp only [String.toList_append,List.append_assoc,List.append_cancel_left_eq] at texts
    exact texts
  obtain ⟨parents,kinds⟩ := Text.last_separator split (hyphenless _) (hyphenless _)
  refine Prod.ext (String.toList_inj.mp parents) ?_
  cases key with
  | mk parent kind =>
    cases other with
    | mk otherParent otherKind => cases kind <;> cases otherKind <;> first | rfl | simp [EntityReferenceType.value] at kinds

end Parents

/-- What clustering makes of the survivors: some stand, the others are gathered in groups. -/
structure Regrouping (nodes : List TopologyNode) (edges : List TopologyEdge) (currency : String) (graph : ClusteredGraph)
    (standing : List TopologyNode) (groups : List LeafGroup) : Prop where
  survivors : nodes.Perm (standing ++ groups.flatMap Prod.snd)
  returned : graph.nodes.Perm (standing ++ groups.map (fun group => clusterNode currency group.1 group.2))
  large : ∀ group ∈ groups, 2 ≤ group.2.length
  leaves : ∀ group ∈ groups, ∀ leaf ∈ group.2, isCandidateLeaf edges leaf = true ∧ firstParent edges leaf.id = group.1.1
  kept : ∀ edge ∈ graph.edges, (edge ∈ edges ∧ edge.sourceId ∈ standing.map TopologyNode.id ∧
    edge.targetId ∈ standing.map TopologyNode.id) ∨ ∃ group ∈ groups, edge = clusterEdge group.1
  entered : ∀ group ∈ groups, clusterEdge group.1 ∈ graph.edges

section Clustering

variable {nodes : List TopologyNode} {edges : List TopologyEdge} {limit : ℕ} {currency : String}

def Between (nodes : List TopologyNode) (edges : List TopologyEdge) : Prop :=
  ∀ edge ∈ edges, edge.sourceId ∈ nodes.map TopologyNode.id ∧ edge.targetId ∈ nodes.map TopologyNode.id

theorem regrouping_nil (between : Between nodes edges) : Regrouping nodes edges currency ⟨nodes,edges,0⟩ nodes [] where
  survivors := by rw [List.flatMap_nil,List.append_nil]
  returned := by rw [List.map_nil,List.append_nil]
  large := fun _ member => by cases member
  leaves := fun _ member => by cases member
  kept := fun edge member => Or.inl ⟨member,between edge member⟩
  entered := fun _ member => by cases member

def gatheredGroups (nodes : List TopologyNode) (edges : List TopologyEdge) (limit : ℕ) : List LeafGroup :=
  gathered limit (nodes.filter (fun node => !isCandidateLeaf edges node)).length
    (groupInto (clusterKey edges) (nodes.filter (isCandidateLeaf edges)))

theorem gatheredGroups_nil (few : (nodes.filter (isCandidateLeaf edges)).length < 2) : gatheredGroups nodes edges limit = [] := by
  rw [List.eq_nil_iff_forall_not_mem]
  intro group member
  have large := gathered_large member
  have grouped := (shown_gathered_perm _ _ _).mem_iff.mp (List.mem_append_right _ member)
  rw [(mem_groupInto_iff.mp grouped).2] at large
  have least := List.length_filter_le (fun item => clusterKey edges item = group.1) (nodes.filter (isCandidateLeaf edges))
  omega

theorem source_stands (between : Between nodes edges) {edge : TopologyEdge} (member : edge ∈ edges) :
    edge.sourceId ∈ (nodes.filter (fun node => !isCandidateLeaf edges node)).map TopologyNode.id := by
  obtain ⟨node,inside,same⟩ := List.mem_map.mp (between edge member).1
  refine List.mem_map.mpr ⟨node,List.mem_filter.mpr ⟨inside,?_⟩,same⟩
  rw [Bool.not_eq_true',← Bool.not_eq_true]
  intro leaf
  exact (isCandidateLeaf_iff.mp leaf).2.1 edge member same.symm

theorem regrouping_clusterExcessNodes (between : Between nodes edges) :
    ∃ standing, Regrouping nodes edges currency (clusterExcessNodes nodes edges limit currency) standing (gatheredGroups nodes edges limit) := by
  unfold clusterExcessNodes
  dsimp only
  split
  · rename_i few
    rw [gatheredGroups_nil few]
    exact ⟨nodes,regrouping_nil between⟩
  · obtain ⟨groups,made⟩ : ∃ groups, groups = groupInto (clusterKey edges) (nodes.filter (isCandidateLeaf edges)) := ⟨_,rfl⟩
    obtain ⟨inner,others⟩ : ∃ inner, inner = nodes.filter (fun node => !isCandidateLeaf edges node) := ⟨_,rfl⟩
    unfold gatheredGroups
    rw [← made,← others]
    have sorted := shown_gathered_perm limit inner.length groups
    have leaf : ∀ group ∈ groups, ∀ node ∈ group.2, isCandidateLeaf edges node = true ∧ firstParent edges node.id = group.1.1 := by
      intro group member node inside
      rw [made] at member
      rw [(mem_groupInto_iff.mp member).2] at inside
      obtain ⟨chosen,keyed⟩ := List.mem_filter.mp inside
      exact ⟨(List.mem_filter.mp chosen).2,congrArg Prod.fst (of_decide_eq_true keyed)⟩
    have leaves_perm : (groups.flatMap Prod.snd).Perm (nodes.filter (isCandidateLeaf edges)) := by
      rw [made]
      exact groupInto_flatMap_perm _ _
    refine ⟨inner ++ (shown limit inner.length groups).flatMap Prod.snd,?_⟩
    constructor
    · rw [List.append_assoc,← List.flatMap_append]
      have split := (List.filter_append_perm (isCandidateLeaf edges) nodes).symm
      rw [← others] at split
      refine split.trans (List.perm_append_comm.trans (List.Perm.append_left _ ?_))
      exact leaves_perm.symm.trans (sorted.symm.flatMap_right _)
    · exact foldl_clusterGroup_perm _ _
    · exact fun group member => gathered_large member
    · exact fun group member => leaf group (sorted.mem_iff.mp (List.mem_append_right _ member))
    · intro edge member
      have stands : ∀ other ∈ edges, other.sourceId ∈ (inner ++ (shown limit inner.length groups).flatMap Prod.snd).map TopologyNode.id := by
        intro other inside
        rw [List.map_append,others]
        exact List.mem_append_left _ (source_stands between inside)
      rcases foldl_clusterGroup_edges member with inside | ⟨inside,group,out,node,among,same⟩ | clustered
      · obtain ⟨surviving,joins⟩ := List.mem_filter.mp inside
        refine Or.inl ⟨surviving,stands edge surviving,?_⟩
        rw [List.map_append]
        exact List.mem_append_left _ (of_decide_eq_true joins).2
      · refine Or.inl ⟨inside,stands edge inside,?_⟩
        rw [List.map_append,same]
        exact List.mem_append_right _ (List.mem_map_of_mem (List.mem_flatMap.mpr ⟨group,out,among⟩))
      · exact Or.inr clustered
    · exact fun group member => clusterEdge_mem_foldl (Or.inr ⟨group,member,rfl⟩)

end Clustering

/-- The clusters are the returned nodes under identifiers that no survivor has. A survivor
may come in marked as clustered, so the mark does not tell. -/
def clustersOf (nodes : List TopologyNode) (graph : ClusteredGraph) : List TopologyNode :=
  graph.nodes.filter (fun node => node.id ∉ nodes.map TopologyNode.id)

structure LosslessQuotient (nodes : List TopologyNode) (edges : List TopologyEdge) (graph : ClusteredGraph) : Prop where
  present : ∀ node ∈ nodes, node ∈ graph.nodes ∨ ∃ cluster ∈ clustersOf nodes graph, node.id ∈ cluster.clusteredNodeIds
  once : ∀ node ∈ nodes,
    (graph.nodes.map TopologyNode.id ++ (clustersOf nodes graph).flatMap TopologyNode.clusteredNodeIds).count node.id = 1
  cost : (graph.nodes.map TopologyNode.directCost).sum = (nodes.map TopologyNode.directCost).sum
  apart : ∀ node ∈ nodes, node.isRoot = true ∨ node.isRestricted = true →
    ∀ cluster ∈ clustersOf nodes graph, node.id ∉ cluster.clusteredNodeIds
  joined : ∀ edge ∈ graph.edges, edge.sourceId ∈ graph.nodes.map TopologyNode.id ∧ edge.targetId ∈ graph.nodes.map TopologyNode.id
  entered : ∀ edge ∈ edges, ∀ cluster ∈ clustersOf nodes graph, edge.targetId ∈ cluster.clusteredNodeIds →
    ∃ returned ∈ graph.edges, returned.sourceId = edge.sourceId ∧ returned.targetId = cluster.id

structure PlainGroups (nodes : List TopologyNode) (edges : List TopologyEdge) (groups : List LeafGroup) : Prop where
  fresh : ∀ group ∈ groups, ∀ node ∈ nodes, node.id ≠ clusterId group.1
  parent : ∀ group ∈ groups, group.1.1 ∈ nodes.map TopologyNode.id ∧ ∀ other ∈ groups, ∀ leaf ∈ other.2, leaf.id ≠ group.1.1
  only : ∀ group ∈ groups, ∀ leaf ∈ group.2, ∀ edge ∈ edges, edge.targetId = leaf.id → edge.sourceId = group.1.1

theorem groups_nil_of_named {groups : List LeafGroup} {name : LeafGroup → String} (large : ∀ group ∈ groups, 2 ≤ group.2.length)
    (distinct : ((groups.flatMap Prod.snd).map TopologyNode.id).Nodup)
    (named : ∀ leaf ∈ groups.flatMap Prod.snd, leaf.id ∈ groups.map name) : groups = [] := by
  have covered : (groups.flatMap Prod.snd).map TopologyNode.id ⊆ groups.map name := by
    intro id member
    obtain ⟨leaf,inside,rfl⟩ := List.mem_map.mp member
    exact named leaf inside
  have fewer := (distinct.subperm covered).length_le
  rw [List.length_map,List.length_map] at fewer
  have many : 2 * groups.length ≤ (groups.flatMap Prod.snd).length := by
    clear fewer covered named distinct
    induction groups with
    | nil => exact Nat.le_refl _
    | cons group rest ih =>
      rw [List.flatMap_cons,List.length_append,List.length_cons]
      have first := large group List.mem_cons_self
      have later := ih fun other member => large other (List.mem_cons_of_mem _ member)
      omega
  exact List.eq_nil_of_length_eq_zero (by omega)

section Quotient

variable {nodes standing : List TopologyNode} {edges : List TopologyEdge} {currency : String} {graph : ClusteredGraph}
  {groups : List LeafGroup}

theorem Regrouping.standing_survives (made : Regrouping nodes edges currency graph standing groups) {node : TopologyNode}
    (member : node ∈ standing) : node ∈ nodes := made.survivors.mem_iff.mpr (List.mem_append_left _ member)

theorem Regrouping.leaf_survives (made : Regrouping nodes edges currency graph standing groups) {group : LeafGroup}
    (member : group ∈ groups) {leaf : TopologyNode} (inside : leaf ∈ group.2) : leaf ∈ nodes :=
  made.survivors.mem_iff.mpr (List.mem_append_right _ (List.mem_flatMap.mpr ⟨group,member,inside⟩))

theorem Regrouping.ids_perm (made : Regrouping nodes edges currency graph standing groups) :
    (nodes.map TopologyNode.id).Perm (standing.map TopologyNode.id ++ (groups.flatMap Prod.snd).map TopologyNode.id) := by
  rw [← List.map_append]
  exact made.survivors.map _

theorem Regrouping.returned_ids_perm (made : Regrouping nodes edges currency graph standing groups) :
    (graph.nodes.map TopologyNode.id).Perm (standing.map TopologyNode.id ++ groups.map (fun group => clusterId group.1)) := by
  have mapped := made.returned.map TopologyNode.id
  rw [List.map_append,List.map_map] at mapped
  exact mapped

def freshGroups (nodes : List TopologyNode) (groups : List LeafGroup) : List LeafGroup :=
  groups.filter (fun group => clusterId group.1 ∉ nodes.map TopologyNode.id)

theorem Regrouping.clusters_perm (made : Regrouping nodes edges currency graph standing groups) :
    (clustersOf nodes graph).Perm ((freshGroups nodes groups).map (fun group => clusterNode currency group.1 group.2)) := by
  unfold clustersOf freshGroups
  have chosen := made.returned.filter (fun node => node.id ∉ nodes.map TopologyNode.id)
  have none : standing.filter (fun node => node.id ∉ nodes.map TopologyNode.id) = [] := by
    rw [List.filter_eq_nil_iff]
    intro node member
    simp only [decide_eq_true_eq,not_not]
    exact List.mem_map_of_mem (made.standing_survives member)
  rw [List.filter_append,none,List.nil_append,List.filter_map] at chosen
  exact chosen

theorem Regrouping.mem_clusters (made : Regrouping nodes edges currency graph standing groups) {cluster : TopologyNode} :
    cluster ∈ clustersOf nodes graph ↔
      ∃ group ∈ groups, clusterId group.1 ∉ nodes.map TopologyNode.id ∧ cluster = clusterNode currency group.1 group.2 := by
  rw [made.clusters_perm.mem_iff,List.mem_map,freshGroups]
  simp only [List.mem_filter,decide_eq_true_eq,and_assoc]
  constructor
  · rintro ⟨group,member,fresh,rfl⟩
    exact ⟨group,member,fresh,rfl⟩
  · rintro ⟨group,member,fresh,rfl⟩
    exact ⟨group,member,fresh,rfl⟩

theorem Regrouping.listed_perm (made : Regrouping nodes edges currency graph standing groups) :
    ((clustersOf nodes graph).flatMap TopologyNode.clusteredNodeIds).Perm
      (((freshGroups nodes groups).flatMap Prod.snd).map TopologyNode.id) := by
  refine (made.clusters_perm.flatMap_right _).trans ?_
  rw [List.flatMap_map,List.map_flatMap]
  exact List.Perm.refl _

theorem Regrouping.cost (made : Regrouping nodes edges currency graph standing groups) :
    (graph.nodes.map TopologyNode.directCost).sum = (nodes.map TopologyNode.directCost).sum := by
  have summed : ((groups.map (fun group => clusterNode currency group.1 group.2)).map TopologyNode.directCost).sum =
      ((groups.flatMap Prod.snd).map TopologyNode.directCost).sum := by
    rw [List.map_map,List.map_flatMap,List.flatMap_def,List.sum_flatten,List.map_map]
    rfl
  rw [(made.returned.map _).sum_eq,(made.survivors.map _).sum_eq,List.map_append,List.map_append,List.sum_append,List.sum_append,summed]

theorem Regrouping.apart (made : Regrouping nodes edges currency graph standing groups) (distinct : (nodes.map TopologyNode.id).Nodup)
    {node cluster : TopologyNode} (member : node ∈ nodes) (held : node.isRoot = true ∨ node.isRestricted = true)
    (found : cluster ∈ clustersOf nodes graph) : node.id ∉ cluster.clusteredNodeIds := by
  intro listed
  obtain ⟨group,inside,_,rfl⟩ := made.mem_clusters.mp found
  obtain ⟨leaf,among,same⟩ := List.mem_map.mp listed
  have equal : leaf = node := List.inj_on_of_nodup_map distinct (made.leaf_survives inside among) member same
  obtain ⟨root,_,restricted⟩ := isCandidateLeaf_iff.mp (made.leaves group inside leaf among).1
  rw [equal] at root restricted
  rw [root,restricted] at held
  rcases held with held | held <;> cases held

theorem Regrouping.found_perm (made : Regrouping nodes edges currency graph standing groups) :
    (graph.nodes.map TopologyNode.id ++ (clustersOf nodes graph).flatMap TopologyNode.clusteredNodeIds).Perm
      (standing.map TopologyNode.id ++ groups.map (fun group => clusterId group.1) ++
        ((freshGroups nodes groups).flatMap Prod.snd).map TopologyNode.id) :=
  made.returned_ids_perm.append made.listed_perm

theorem Regrouping.once_of_fresh (made : Regrouping nodes edges currency graph standing groups)
    (distinct : (nodes.map TopologyNode.id).Nodup) (fresh : ∀ group ∈ groups, ∀ node ∈ nodes, node.id ≠ clusterId group.1)
    {node : TopologyNode} (member : node ∈ nodes) :
    (graph.nodes.map TopologyNode.id ++ (clustersOf nodes graph).flatMap TopologyNode.clusteredNodeIds).count node.id = 1 := by
  have all : freshGroups nodes groups = groups := by
    rw [freshGroups,List.filter_eq_self]
    intro group inside
    simp only [decide_eq_true_eq,List.mem_map,not_exists,not_and]
    exact fun other survives => fresh group inside other survives
  have named : node.id ∉ groups.map (fun group => clusterId group.1) := by
    intro inside
    obtain ⟨group,found,same⟩ := List.mem_map.mp inside
    exact fresh group found node member same.symm
  have single : (nodes.map TopologyNode.id).count node.id = 1 :=
    List.count_eq_one_of_mem distinct (List.mem_map_of_mem member)
  rw [made.ids_perm.count_eq,List.count_append] at single
  rw [made.found_perm.count_eq,all,List.count_append,List.count_append,List.count_eq_zero_of_not_mem named]
  exact single

theorem Regrouping.fresh_of_once (made : Regrouping nodes edges currency graph standing groups)
    (distinct : (nodes.map TopologyNode.id).Nodup)
    (once : ∀ node ∈ nodes,
      (graph.nodes.map TopologyNode.id ++ (clustersOf nodes graph).flatMap TopologyNode.clusteredNodeIds).count node.id = 1)
    {group : LeafGroup} (member : group ∈ groups) {node : TopologyNode} (survives : node ∈ nodes) : node.id ≠ clusterId group.1 := by
  obtain ⟨taken,made_taken⟩ : ∃ taken, taken = groups.filter (fun group => clusterId group.1 ∈ nodes.map TopologyNode.id) := ⟨_,rfl⟩
  have parted : (taken ++ freshGroups nodes groups).Perm groups := by
    have halves := List.filter_append_perm (fun group => decide (clusterId group.1 ∈ nodes.map TopologyNode.id)) groups
    rw [← made_taken] at halves
    unfold freshGroups
    simp only [decide_not]
    exact halves
  have laid : (nodes.map TopologyNode.id).Perm (standing.map TopologyNode.id ++ ((taken.flatMap Prod.snd).map TopologyNode.id ++
      ((freshGroups nodes groups).flatMap Prod.snd).map TopologyNode.id)) := by
    rw [← List.map_append,← List.flatMap_append]
    exact made.ids_perm.trans (List.Perm.append_left _ ((parted.symm.flatMap_right _).map _))
  have apart := laid.nodup_iff.mp distinct
  obtain ⟨_,leaves,outside⟩ := List.nodup_append.mp apart
  obtain ⟨leaves_distinct,_,elsewhere⟩ := List.nodup_append.mp leaves
  have named : ∀ leaf ∈ taken.flatMap Prod.snd, leaf.id ∈ taken.map (fun group => clusterId group.1) := by
    intro leaf inside
    have listed : leaf.id ∈ (taken.flatMap Prod.snd).map TopologyNode.id := List.mem_map_of_mem inside
    obtain ⟨owner,held,among⟩ := List.mem_flatMap.mp inside
    have survived : leaf ∈ nodes := made.leaf_survives (parted.mem_iff.mp (List.mem_append_left _ held)) among
    have found := List.count_pos_iff.mp (Nat.lt_of_lt_of_eq Nat.zero_lt_one (once leaf survived).symm)
    rcases List.mem_append.mp (made.found_perm.mem_iff.mp found) with returned | fresh
    · rcases List.mem_append.mp returned with stands | cluster
      · exact absurd rfl (outside _ stands _ (List.mem_append_left _ listed))
      · obtain ⟨other,included,same⟩ := List.mem_map.mp cluster
        refine List.mem_map.mpr ⟨other,?_,same⟩
        rw [made_taken,List.mem_filter,decide_eq_true_eq,same]
        exact ⟨included,List.mem_map_of_mem survived⟩
    · exact absurd rfl (elsewhere _ listed _ fresh)
  have large : ∀ other ∈ taken, 2 ≤ other.2.length :=
    fun other inside => made.large other (parted.mem_iff.mp (List.mem_append_left _ inside))
  have none := groups_nil_of_named large leaves_distinct named
  intro same
  have inside : group ∈ taken := by
    rw [made_taken,List.mem_filter,decide_eq_true_eq,← same]
    exact ⟨member,List.mem_map_of_mem survives⟩
  rw [none] at inside
  cases inside

theorem Regrouping.stands_iff (made : Regrouping nodes edges currency graph standing groups)
    (distinct : (nodes.map TopologyNode.id).Nodup) {id : String} : id ∈ standing.map TopologyNode.id ↔
      id ∈ nodes.map TopologyNode.id ∧ ∀ group ∈ groups, ∀ leaf ∈ group.2, leaf.id ≠ id := by
  obtain ⟨_,_,outside⟩ := List.nodup_append.mp (made.ids_perm.nodup_iff.mp distinct)
  rw [made.ids_perm.mem_iff,List.mem_append]
  constructor
  · intro stands
    refine ⟨Or.inl stands,fun group member leaf inside same => ?_⟩
    have listed : leaf.id ∈ (groups.flatMap Prod.snd).map TopologyNode.id :=
      List.mem_map_of_mem (List.mem_flatMap.mpr ⟨group,member,inside⟩)
    exact outside _ stands _ listed same.symm
  · rintro ⟨stands | listed,free⟩
    · exact stands
    · obtain ⟨leaf,inside,same⟩ := List.mem_map.mp listed
      obtain ⟨group,member,among⟩ := List.mem_flatMap.mp inside
      exact absurd same (free group member leaf among)

theorem Regrouping.parent_ne_clusterId (made : Regrouping nodes edges currency graph standing groups) (between : Between nodes edges)
    {group : LeafGroup} (member : group ∈ groups) {key : String × EntityReferenceType}
    (fresh : clusterId key ∉ nodes.map TopologyNode.id) : group.1.1 ≠ clusterId key := by
  intro same
  obtain ⟨leaf,inside⟩ := List.exists_mem_of_length_pos (Nat.lt_of_lt_of_le Nat.zero_lt_two (made.large group member))
  have first := (made.leaves group member leaf inside).2
  rcases firstParent_cases edges leaf.id with ⟨edge,surviving,_,source⟩ | word
  · apply fresh
    rw [← same,← first,← source]
    exact (between edge surviving).1
  · have texts := congrArg String.toList (word.symm.trans (first.trans same))
    unfold clusterId at texts
    simp at texts

theorem Regrouping.plain_of_lossless (made : Regrouping nodes edges currency graph standing groups)
    (distinct : (nodes.map TopologyNode.id).Nodup) (between : Between nodes edges) (lossless : LosslessQuotient nodes edges graph) :
    PlainGroups nodes edges groups := by
  have fresh : ∀ group ∈ groups, ∀ node ∈ nodes, node.id ≠ clusterId group.1 :=
    fun group member node survives => made.fresh_of_once distinct lossless.once member survives
  have unnamed : ∀ group ∈ groups, clusterId group.1 ∉ nodes.map TopologyNode.id := by
    intro group member inside
    obtain ⟨node,survives,same⟩ := List.mem_map.mp inside
    exact fresh group member node survives same
  refine ⟨fresh,?_,?_⟩
  · intro group member
    rw [← made.stands_iff distinct]
    have returned := (lossless.joined _ (made.entered group member)).1
    rcases List.mem_append.mp (made.returned_ids_perm.mem_iff.mp returned) with stands | cluster
    · exact stands
    · obtain ⟨other,inside,same⟩ := List.mem_map.mp cluster
      exact absurd same.symm (made.parent_ne_clusterId between member (unnamed other inside))
  · intro group member leaf inside edge surviving target
    have cluster := made.mem_clusters.mpr ⟨group,member,unnamed group member,rfl⟩
    have listed : edge.targetId ∈ (clusterNode currency group.1 group.2).clusteredNodeIds :=
      List.mem_map.mpr ⟨leaf,inside,target.symm⟩
    obtain ⟨returned,present,source,entering⟩ := lossless.entered edge surviving _ cluster listed
    rw [← source]
    rcases made.kept returned present with ⟨old,_,_⟩ | ⟨other,_,same⟩
    · -- an edge that survives ends at a survivor, and the cluster is none
      refine absurd (between returned old).2 ?_
      rw [entering]
      exact unnamed group member
    · rw [same] at entering ⊢
      rw [← clusterId_inj entering]
      rfl

theorem Regrouping.lossless_of_plain (made : Regrouping nodes edges currency graph standing groups)
    (distinct : (nodes.map TopologyNode.id).Nodup) (plain : PlainGroups nodes edges groups) : LosslessQuotient nodes edges graph := by
  have unnamed : ∀ group ∈ groups, clusterId group.1 ∉ nodes.map TopologyNode.id := by
    intro group member inside
    obtain ⟨node,survives,same⟩ := List.mem_map.mp inside
    exact plain.fresh group member node survives same
  have returned : ∀ id ∈ standing.map TopologyNode.id, id ∈ graph.nodes.map TopologyNode.id :=
    fun id stands => made.returned_ids_perm.mem_iff.mpr (List.mem_append_left _ stands)
  constructor
  · intro node survives
    rcases List.mem_append.mp (made.survivors.mem_iff.mp survives) with stands | listed
    · exact Or.inl (made.returned.mem_iff.mpr (List.mem_append_left _ stands))
    · obtain ⟨group,member,inside⟩ := List.mem_flatMap.mp listed
      exact Or.inr ⟨_,made.mem_clusters.mpr ⟨group,member,unnamed group member,rfl⟩,List.mem_map_of_mem inside⟩
  · exact fun node survives => made.once_of_fresh distinct plain.fresh survives
  · exact made.cost
  · exact fun node survives held cluster found => made.apart distinct survives held found
  · intro edge member
    rcases made.kept edge member with ⟨_,source,target⟩ | ⟨group,inside,rfl⟩
    · exact ⟨returned _ source,returned _ target⟩
    · refine ⟨returned _ ((made.stands_iff distinct).mpr (plain.parent group inside)),?_⟩
      exact made.returned_ids_perm.mem_iff.mpr (List.mem_append_right _ (List.mem_map.mpr ⟨group,inside,rfl⟩))
  · intro edge surviving cluster found listed
    obtain ⟨group,member,_,rfl⟩ := made.mem_clusters.mp found
    obtain ⟨leaf,inside,target⟩ := List.mem_map.mp listed
    have source := plain.only group member leaf inside edge surviving target.symm
    exact ⟨clusterEdge group.1,made.entered group member,source.symm,rfl⟩

end Quotient

section Survivors

variable {nodes : List TopologyNode} {edges : List TopologyEdge} {maxDepth : ℕ} {order : List String}

def survivors (nodes : List TopologyNode) (edges : List TopologyEdge) (maxDepth : ℕ) (order : List String) : List TopologyNode :=
  (visibleNodes nodes (edges.map ends) maxDepth order).values

def survivingEdges (nodes : List TopologyNode) (edges : List TopologyEdge) (maxDepth : ℕ) (order : List String) : List TopologyEdge :=
  edges.filter (fun edge => edge.sourceId ∈ (survivors nodes edges maxDepth order).map TopologyNode.id ∧
    edge.targetId ∈ (survivors nodes edges maxDepth order).map TopologyNode.id)

theorem survivors_ids (nodes : List TopologyNode) (edges : List TopologyEdge) (maxDepth : ℕ) (order : List String) :
    (survivors nodes edges maxDepth order).map TopologyNode.id = (visibleNodes nodes (edges.map ends) maxDepth order).keys := by
  obtain ⟨keyed,_⟩ := @visibleNodes_keys nodes (edges.map ends) maxDepth order
  unfold survivors Dict.values Dict.keys
  rw [List.map_map]
  apply List.map_congr_left
  intro item member
  exact keyed item.1 item.2 (Dict.get_eq_some_iff.mpr member)

theorem survivors_distinct (nodes : List TopologyNode) (edges : List TopologyEdge) (maxDepth : ℕ) (order : List String) :
    ((survivors nodes edges maxDepth order).map TopologyNode.id).Nodup := by
  rw [survivors_ids]
  exact (visibleNodes nodes (edges.map ends) maxDepth order).distinct

theorem survivingEdges_between (nodes : List TopologyNode) (edges : List TopologyEdge) (maxDepth : ℕ) (order : List String) :
    Between (survivors nodes edges maxDepth order) (survivingEdges nodes edges maxDepth order) :=
  fun _ member => of_decide_eq_true (List.mem_filter.mp member).2

theorem mem_survivors_ids {node : TopologyNode} (member : node ∈ nodes) (within : node.depth ≤ maxDepth) :
    node.id ∈ (survivors nodes edges maxDepth order).map TopologyNode.id ↔
      node.id ∉ hiddenNodes nodes (edges.map ends) maxDepth order := by
  obtain ⟨_,keys⟩ := @visibleNodes_keys nodes (edges.map ends) maxDepth order
  rw [survivors_ids,keys]
  refine and_iff_right (List.mem_map_of_mem (List.mem_filter.mpr ⟨member,?_⟩))
  exact decide_eq_true within

def gatheredOf (nodes : List TopologyNode) (edges : List TopologyEdge) (limit : ℕ) (enableClustering : Bool) : List LeafGroup :=
  if enableClustering ∧ limit < nodes.length then gatheredGroups nodes edges limit else []

theorem pruneAndCluster_eq (nodes : List TopologyNode) (edges : List TopologyEdge) (maxDepth : ℕ) (order : List String)
    (limit : ℕ) (enableClustering : Bool) (currency : String) :
    pruneAndCluster nodes edges maxDepth order limit enableClustering currency =
      if enableClustering ∧ limit < (survivors nodes edges maxDepth order).length then
        clusterExcessNodes (survivors nodes edges maxDepth order) (survivingEdges nodes edges maxDepth order) limit currency
      else ⟨survivors nodes edges maxDepth order,survivingEdges nodes edges maxDepth order,0⟩ := by
  unfold pruneAndCluster survivingEdges
  rw [survivors_ids]
  rfl

theorem regrouping_pruneAndCluster (nodes : List TopologyNode) (edges : List TopologyEdge) (maxDepth : ℕ) (order : List String)
    (limit : ℕ) (enableClustering : Bool) (currency : String) :
    ∃ standing, Regrouping (survivors nodes edges maxDepth order) (survivingEdges nodes edges maxDepth order) currency
      (pruneAndCluster nodes edges maxDepth order limit enableClustering currency) standing
      (gatheredOf (survivors nodes edges maxDepth order) (survivingEdges nodes edges maxDepth order) limit enableClustering) := by
  have between := survivingEdges_between nodes edges maxDepth order
  rw [pruneAndCluster_eq,gatheredOf]
  by_cases crowded : enableClustering ∧ limit < (survivors nodes edges maxDepth order).length
  · rw [if_pos crowded,if_pos crowded]
    exact regrouping_clusterExcessNodes between
  · rw [if_neg crowded,if_neg crowded]
    exact ⟨_,regrouping_nil between⟩

theorem roots_survive_iff (nodes : List TopologyNode) (edges : List TopologyEdge) (maxDepth : ℕ) (collapsed : Finset String) :
    (∀ order : List String, order.Nodup → order.toFinset = collapsed → ∀ root ∈ nodes, root.isRoot = true → root.depth ≤ maxDepth →
        root.id ∈ (survivors nodes edges maxDepth order).map TopologyNode.id) ↔
      ∀ root ∈ nodes, root.isRoot = true → root.depth ≤ maxDepth → ∀ c ∈ collapsed, c ≠ root.id →
        ¬Below (innerPairs nodes (edges.map ends) maxDepth) c root.id := by
  constructor
  · intro survive root member isRoot within c inside apart below
    obtain ⟨order,distinct,whole,hidden⟩ :=
      (hidden_iff nodes (edges.map ends) maxDepth collapsed root.id).mpr ⟨c,inside,below,apart.symm⟩
    exact (mem_survivors_ids member within).mp (survive order distinct whole root member isRoot within) hidden
  · intro clear order distinct whole root member isRoot within
    rw [mem_survivors_ids member within]
    intro hidden
    obtain ⟨c,inside,below,apart⟩ :=
      (hidden_iff nodes (edges.map ends) maxDepth collapsed root.id).mp ⟨order,distinct,whole,hidden⟩
    exact clear root member isRoot within c inside apart.symm below

/-- Whatever the order, clustering is a lossless quotient of what survives and no root is hidden. -/
def ClusteringLossless (nodes : List TopologyNode) (edges : List TopologyEdge) (maxDepth : ℕ) (collapsed : Finset String)
    (limit : ℕ) (enableClustering : Bool) (currency : String) : Prop :=
  ∀ order : List String, order.Nodup → order.toFinset = collapsed →
    LosslessQuotient (survivors nodes edges maxDepth order) (survivingEdges nodes edges maxDepth order)
      (pruneAndCluster nodes edges maxDepth order limit enableClustering currency) ∧
    ∀ root ∈ nodes, root.isRoot = true → root.depth ≤ maxDepth →
      root.id ∈ (survivors nodes edges maxDepth order).map TopologyNode.id

/-- Clustering loses nothing exactly when no root lies below another node that is
collapsed, and in every order the groups beyond the limit are plain ones. -/
theorem clusteringLossless_iff (nodes : List TopologyNode) (edges : List TopologyEdge) (maxDepth : ℕ) (collapsed : Finset String)
    (limit : ℕ) (enableClustering : Bool) (currency : String) :
    ClusteringLossless nodes edges maxDepth collapsed limit enableClustering currency ↔
      (∀ root ∈ nodes, root.isRoot = true → root.depth ≤ maxDepth → ∀ c ∈ collapsed, c ≠ root.id →
        ¬Below (innerPairs nodes (edges.map ends) maxDepth) c root.id) ∧
      ∀ order : List String, order.Nodup → order.toFinset = collapsed →
        PlainGroups (survivors nodes edges maxDepth order) (survivingEdges nodes edges maxDepth order)
          (gatheredOf (survivors nodes edges maxDepth order) (survivingEdges nodes edges maxDepth order) limit enableClustering) := by
  rw [← roots_survive_iff]
  have plain_iff : ∀ order : List String,
      LosslessQuotient (survivors nodes edges maxDepth order) (survivingEdges nodes edges maxDepth order)
          (pruneAndCluster nodes edges maxDepth order limit enableClustering currency) ↔
        PlainGroups (survivors nodes edges maxDepth order) (survivingEdges nodes edges maxDepth order)
          (gatheredOf (survivors nodes edges maxDepth order) (survivingEdges nodes edges maxDepth order) limit enableClustering) := by
    intro order
    obtain ⟨standing,made⟩ := regrouping_pruneAndCluster nodes edges maxDepth order limit enableClustering currency
    have distinct := survivors_distinct nodes edges maxDepth order
    exact ⟨made.plain_of_lossless distinct (survivingEdges_between nodes edges maxDepth order),made.lossless_of_plain distinct⟩
  constructor
  · intro lossless
    refine ⟨fun order distinct whole => (lossless order distinct whole).2,fun order distinct whole => ?_⟩
    exact (plain_iff order).mp (lossless order distinct whole).1
  · rintro ⟨roots,plain⟩ order distinct whole
    exact ⟨(plain_iff order).mpr (plain order distinct whole),roots order distinct whole⟩

end Survivors

def sharedNode (id : String) (depth : ℕ) : TopologyNode where
  id := id
  entityRef := ⟨.resource,id,none⟩
  displayName := id
  depth := depth
  isRoot := decide (depth = 0)

def sharedEdge (edgeId sourceId targetId : String) : TopologyEdge where
  edgeId := edgeId
  sourceId := sourceId
  targetId := targetId
  relationshipType := .logicalDependency

def sharedNodes : List TopologyNode := [sharedNode "app" 0, sharedNode "svc" 1, sharedNode "db-1" 1, sharedNode "db-2" 1]

def sharedEdges : List TopologyEdge :=
  [sharedEdge "e1" "app" "svc", sharedEdge "e2" "app" "db-1", sharedEdge "e3" "app" "db-2", sharedEdge "e4" "svc" "db-1"]

/-- A leaf with two parents is gathered under the first one, and the edge from the second is gone. -/
theorem second_parent_lost : (sharedNodes.map TopologyNode.id).Nodup ∧ Between sharedNodes sharedEdges ∧
    ¬ClusteringLossless sharedNodes sharedEdges 3 ∅ 3 true "USD" := by
  refine ⟨by decide,?_,?_⟩
  · unfold Between
    decide
  · intro lossless
    have entered := (lossless [] List.nodup_nil List.toFinset_nil).1.entered
    revert entered
    decide +kernel

end CloudLens.Topology
