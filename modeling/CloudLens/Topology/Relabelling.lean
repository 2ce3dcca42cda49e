import CloudLens.Topology.Projection

/-! Changing the names that edges carry for their entities. Types and identifiers
stay, so the listings, the adjacencies and the traversals of a graph go the same
way and only what they label with a reference changes. -/
namespace CloudLens.Topology
open Dependency Library Library.Traversal

structure KeepsKeys (g : TypedEntityRef → TypedEntityRef) : Prop where
  type : ∀ ref, (g ref).entityType = ref.entityType
  id : ∀ ref, (g ref).entityId = ref.entityId

def relabelEdge (g : TypedEntityRef → TypedEntityRef) (edge : DependencyEdge) : DependencyEdge :=
  { edge with sourceRef := g edge.sourceRef, targetRef := g edge.targetRef }

def relabelLink (g : TypedEntityRef → TypedEntityRef) (link : Link) : Link :=
  ⟨link.node,g link.ref,relabelEdge g link.edge⟩

section Listings

variable {g : TypedEntityRef → TypedEntityRef}

theorem keepsKeys_ite (p : TypedEntityRef → Bool) (keeps : KeepsKeys g) :
    KeepsKeys (fun ref => if p ref then g ref else ref) := by
  constructor
  · intro ref
    split
    · exact keeps.type ref
    · rfl
  · intro ref
    split
    · exact keeps.id ref
    · rfl

theorem KeepsKeys.root_id (keeps : KeepsKeys g) {root root' : TypedEntityRef} (which : root' = g root ∨ root' = root) :
    root'.entityId = root.entityId := by
  rcases which with rfl | rfl
  · exact keeps.id root
  · rfl

theorem listEdges_relabel (g : TypedEntityRef → TypedEntityRef) (status : Option EdgeStatus) (stored : List DependencyEdge) :
    listEdges status (stored.map (relabelEdge g)) = (listEdges status stored).map (relabelEdge g) := by
  unfold listEdges
  rw [List.filter_map,← List.map_take]
  rfl

theorem requestedEdges_relabel (g : TypedEntityRef → TypedEntityRef) (req : TopologyProjectionRequest)
    (stored : List DependencyEdge) :
    requestedEdges req (stored.map (relabelEdge g)) = (requestedEdges req stored).map (relabelEdge g) := by
  unfold requestedEdges ofTypes
  rw [listEdges_relabel]
  split
  · rfl
  · rw [List.filter_map]
    rfl

theorem entityMap_relabel (keeps : KeepsKeys g) (edges : List DependencyEdge) :
    entityMap (edges.map (relabelEdge g)) = (entityMap edges).mapValues g := by
  induction edges using List.reverseRecOn with
  | nil => rfl
  | append_singleton rest edge ih =>
    unfold entityMap at ih ⊢
    rw [List.map_append,List.foldl_append,List.foldl_append,ih]
    have source : (relabelEdge g edge).sourceId = edge.sourceId := keeps.id edge.sourceRef
    have target : (relabelEdge g edge).targetId = edge.targetId := keeps.id edge.targetRef
    rw [List.map_cons,List.map_nil,List.foldl_cons,List.foldl_nil,List.foldl_cons,List.foldl_nil,source,target]
    change Dict.assign _ (g edge.targetRef) (Dict.assign _ (g edge.sourceRef) _) = _
    rw [Dict.assign_mapValues,Dict.assign_mapValues]

theorem viewRoot_relabel (keeps : KeepsKeys g) (req : TopologyProjectionRequest) (known : Dict String TypedEntityRef) :
    viewRoot req (known.mapValues g) = (viewRoot req known).map g ∨ viewRoot req (known.mapValues g) = viewRoot req known := by
  unfold viewRoot
  dsimp only
  split
  · rename_i id _
    rw [Dict.get_mapValues]
    cases known.get id with
    | none => exact Or.inr rfl
    | some ref => exact Or.inl rfl
  · split
    · exact Or.inl rfl
    · refine Or.inl ?_
      rw [Dict.values_mapValues,List.find?_map]
      simp only [Function.comp_def,keeps.type]

theorem viewRoot_relabel_none (keeps : KeepsKeys g) {req : TopologyProjectionRequest} {known : Dict String TypedEntityRef}
    (rootless : viewRoot req known = none) : viewRoot req (known.mapValues g) = none := by
  rcases viewRoot_relabel keeps req known with relabelled | kept
  · rw [relabelled,rootless]
    rfl
  · rw [kept,rootless]

theorem viewRoot_relabel_some (keeps : KeepsKeys g) {req : TopologyProjectionRequest} {known : Dict String TypedEntityRef}
    {root : TypedEntityRef} (chosen : viewRoot req known = some root) :
    ∃ root', viewRoot req (known.mapValues g) = some root' ∧ (root' = g root ∨ root' = root) := by
  rcases viewRoot_relabel keeps req known with relabelled | kept
  · exact ⟨g root,by rw [relabelled,chosen,Option.map_some],Or.inl rfl⟩
  · exact ⟨root,by rw [kept,chosen],Or.inr rfl⟩

end Listings

section Traversals

variable {g : TypedEntityRef → TypedEntityRef}

theorem forward_relabel (keeps : KeepsKeys g) (edge : DependencyEdge) :
    forward (relabelEdge g edge) = relabelLink g (forward edge) := by
  unfold forward relabelLink
  rw [show (relabelEdge g edge).sourceId = edge.sourceId from keeps.id edge.sourceRef]
  rfl

theorem backward_relabel (keeps : KeepsKeys g) (edge : DependencyEdge) :
    backward (relabelEdge g edge) = relabelLink g (backward edge) := by
  unfold backward relabelLink
  rw [show (relabelEdge g edge).targetId = edge.targetId from keeps.id edge.targetRef]
  rfl

theorem chainLinks_relabel (keeps : KeepsKeys g) (edge : DependencyEdge) :
    chainLinks (relabelEdge g edge) = (chainLinks edge).map (relabelLink g) := by
  unfold chainLinks
  rw [forward_relabel keeps,backward_relabel keeps]
  have direction : (relabelEdge g edge).direction = edge.direction := rfl
  have shared : (relabelEdge g edge).isShared = edge.isShared := rfl
  rw [direction,shared,List.map_append]
  cases edge.direction <;> cases edge.isShared <;> rfl

theorem projectionLinks_relabel (keeps : KeepsKeys g) (edge : DependencyEdge) :
    projectionLinks (relabelEdge g edge) = (projectionLinks edge).map (relabelLink g) := by
  unfold projectionLinks
  rw [forward_relabel keeps,backward_relabel keeps]
  have direction : (relabelEdge g edge).direction = edge.direction := rfl
  rw [direction]
  cases edge.direction <;> rfl

theorem flatMap_relabel {links : DependencyEdge → List Link}
    (moved : ∀ edge, links (relabelEdge g edge) = (links edge).map (relabelLink g)) (edges : List DependencyEdge) :
    (edges.map (relabelEdge g)).flatMap links = (edges.flatMap links).map (relabelLink g) := by
  rw [List.flatMap_map,List.map_flatMap]
  simp only [moved]

theorem neighboursIn_relabel (keeps : KeepsKeys g) (links : List Link) (node : String) :
    neighboursIn (links.map (relabelLink g)) node =
      (neighboursIn links node).map (fun next => (next.1, relabelLink g next.2)) := by
  unfold neighboursIn
  rw [List.filter_map,List.map_map,List.map_map]
  apply List.map_congr_left
  intro link _
  simp only [Function.comp_apply,relabelLink,keeps.id]

theorem chainWalk_relabel (keeps : KeepsKeys g) (edges : List DependencyEdge) (maxDepth : Option ℕ) (rootId : String) :
    chainWalk (edges.map (relabelEdge g)) maxDepth rootId = (chainWalk edges maxDepth rootId).map (relabelLink g) := by
  unfold chainWalk
  rw [flatMap_relabel (chainLinks_relabel keeps),List.length_map]
  have same : Relabels (relabelLink g) (chainSearch (edges.flatMap chainLinks) maxDepth)
      (chainSearch ((edges.flatMap chainLinks).map (relabelLink g)) maxDepth) :=
    ⟨neighboursIn_relabel keeps _,rfl,fun _ _ _ _ => rfl⟩
  exact run_map same _ (Walk.start rootId ())

theorem topologyEdge_relabel (keeps : KeepsKeys g) (edge : DependencyEdge) :
    topologyEdge (relabelEdge g edge) = topologyEdge edge := by
  unfold topologyEdge
  rw [show (relabelEdge g edge).sourceId = edge.sourceId from keeps.id edge.sourceRef,
    show (relabelEdge g edge).targetId = edge.targetId from keeps.id edge.targetRef]
  rfl

theorem projectionWalk_relabel (keeps : KeepsKeys g) (edges : List DependencyEdge) (maxDepth : ℕ) (rootId : String) :
    projectionWalk (edges.map (relabelEdge g)) maxDepth rootId = (projectionWalk edges maxDepth rootId).map (relabelLink g) := by
  unfold projectionWalk
  rw [flatMap_relabel (projectionLinks_relabel keeps),List.length_map]
  have same : Relabels (relabelLink g) (projectionSearch (edges.flatMap projectionLinks) maxDepth)
      (projectionSearch ((edges.flatMap projectionLinks).map (relabelLink g)) maxDepth) := by
    refine ⟨neighboursIn_relabel keeps _,rfl,?_⟩
    intro entry next link projected
    change examineEdge entry (next, relabelLink g link) projected = examineEdge entry (next, link) projected
    unfold examineEdge
    rw [show (relabelLink g link).edge = relabelEdge g link.edge from rfl,topologyEdge_relabel keeps]
    rfl
  exact run_map same _ (Walk.start rootId [])

end Traversals

section Projections

variable {g : TypedEntityRef → TypedEntityRef} {Made : Type}

def projectedRefs (req : TopologyProjectionRequest) (stored : List DependencyEdge) : List (TypedEntityRef × ℕ × Bool) :=
  let edges := requestedEdges req stored
  match viewRoot req (entityMap edges) with
  | some root =>
    (root, 0, true) ::
      (projectionWalk edges (requestedDepth req) root.entityId).found.map (fun found => (found.2.ref, found.1.depth, false))
  | none => (entityMap edges).values.map (fun ref => (ref, 1, false))

def projectedEdges (req : TopologyProjectionRequest) (stored : List DependencyEdge) : List TopologyEdge :=
  let edges := requestedEdges req stored
  match viewRoot req (entityMap edges) with
  | some root => (projectionWalk edges (requestedDepth req) root.entityId).log
  | none => edges.map topologyEdge

theorem project_eq (req : TopologyProjectionRequest) (world : TopologyWorld) :
    (project req world).nodes =
        (projectedRefs req world.stored).map (fun made => topologyNode world.enrich made.1 made.2.1 made.2.2) ∧
      (project req world).edges = projectedEdges req world.stored := by
  unfold project projectedRefs projectedEdges
  dsimp only
  cases viewRoot req (entityMap (requestedEdges req world.stored)) with
  | some root => simp [traverseFromRoot]
  | none => simp [projectAll]

theorem projectedRefs_relabel (keeps : KeepsKeys g) (req : TopologyProjectionRequest) (stored : List DependencyEdge)
    (make remake : TypedEntityRef → ℕ → Bool → Made) (moved : ∀ ref, remake (g ref) = make ref)
    (rooted : ∀ root, viewRoot req (entityMap (requestedEdges req stored)) = some root → remake root = make root) :
    (projectedRefs req (stored.map (relabelEdge g))).map (fun made => remake made.1 made.2.1 made.2.2) =
      (projectedRefs req stored).map (fun made => make made.1 made.2.1 made.2.2) := by
  unfold projectedRefs
  dsimp only
  rw [requestedEdges_relabel,entityMap_relabel keeps]
  cases chosen : viewRoot req (entityMap (requestedEdges req stored)) with
  | none =>
    rw [viewRoot_relabel_none keeps chosen,Dict.values_mapValues]
    simp [moved,Function.comp_def]
  | some root =>
    obtain ⟨root',again,which⟩ := viewRoot_relabel_some keeps chosen
    have made : remake root' = make root := by
      rcases which with rfl | rfl
      · exact moved root
      · exact rooted root' chosen
    rw [again]
    dsimp only
    rw [projectionWalk_relabel keeps,keeps.root_id which]
    simp [Walk.map,relabelLink,moved,made,Function.comp_def]

theorem projectedEdges_relabel (keeps : KeepsKeys g) (req : TopologyProjectionRequest) (stored : List DependencyEdge) :
    projectedEdges req (stored.map (relabelEdge g)) = projectedEdges req stored := by
  unfold projectedEdges
  dsimp only
  rw [requestedEdges_relabel,entityMap_relabel keeps]
  cases chosen : viewRoot req (entityMap (requestedEdges req stored)) with
  | none =>
    rw [viewRoot_relabel_none keeps chosen]
    simp [topologyEdge_relabel keeps,Function.comp_def]
  | some root =>
    obtain ⟨root',again,which⟩ := viewRoot_relabel_some keeps chosen
    rw [again]
    dsimp only
    rw [projectionWalk_relabel keeps,keeps.root_id which]
    rfl

end Projections

end CloudLens.Topology
