import CloudLens.Dependency.Store
import CloudLens.Topology.ChainCost

/-! Edges at a point in time. The repository takes the time but does not filter
by it: without a status it lists the newest thousand edges, ended and future ones
with the others. The listing is that of the time exactly when its edges are
effective then and no older edge is. The topology graph and the chain cost read
the same listing. -/
namespace CloudLens.Topology
open Dependency Library Library.Calendar

structure EdgeFilter where
  status : Option EdgeStatus := none
  relationshipType : Option RelationshipType := none
  asOf : Option Instant := none
  sourceId : Option String := none
  targetId : Option String := none
  includeHistory : Bool := false
  includeDeleted : Bool := false
  limit : ℕ := 1000

/-- An empty identifier is no filter. -/
def EdgeFilter.selects (filter : EdgeFilter) (edge : DependencyEdge) : Bool :=
  (match filter.status with
    | some status => edge.status = status
    | none => filter.asOf.isSome || filter.includeHistory || filter.includeDeleted ||
      (edge.status ≠ .deleted && edge.status ≠ .superseded)) &&
    filter.relationshipType.all (fun type => edge.relationshipType = type) &&
    filter.sourceId.all (fun source => source = "" || edge.sourceId = source) &&
    filter.targetId.all (fun target => target = "" || edge.targetId = target)

def EdgeFilter.listEdges (database : Database) (filter : EdgeFilter) (store : Store) : List DependencyEdge :=
  ((database.newestFirst (rowsWhere filter.selects store)).take filter.limit).map EdgeRow.edge

structure DependencyGraph where
  tenantId : String
  asOf : Instant
  nodes : List TypedEntityRef
  edges : List DependencyEdge
  conflictsCount : ℕ
  staleEdgesCount : ℕ

def refKey (ref : TypedEntityRef) : String := ref.entityType.value ++ ":" ++ ref.entityId

def addNodes (nodes : Dict String TypedEntityRef) (edge : DependencyEdge) : Dict String TypedEntityRef :=
  (nodes.assign (refKey edge.sourceRef) edge.sourceRef).assign (refKey edge.targetRef) edge.targetRef

def unresolvedConflicts (store : Store) : ℕ := store.conflicts.countWhere (fun _ conflict => !conflict.isResolved)

def getTopologyGraph (database : Database) (tenantId : String) (asOf : Option Instant) (now : Instant) (store : Store) :
    DependencyGraph :=
  let edges := EdgeFilter.listEdges database { asOf := some (asOf.getD now) } store
  { tenantId := tenantId
    asOf := asOf.getD now
    nodes := (edges.foldl addNodes Dict.empty).values
    edges := edges
    conflictsCount := unresolvedConflicts store
    staleEdgesCount := edges.countP (fun edge => edge.status = .stale) }

def chainEdges (database : Database) (asOf : Option Instant) (store : Store) : List DependencyEdge :=
  EdgeFilter.listEdges database { status := if asOf.isNone then some .active else none, asOf := asOf } store

def chainCostAsOf (database : Database) (asOf : Option Instant) (enrich : Enrichment) (currency : String) (maxDepth : ℕ)
    (root : TypedEntityRef) (store : Store) : ChainCostDecomposition :=
  calculateChainCost (chainEdges database asOf store) enrich currency maxDepth root

def EffectiveAt (t : Instant) (edge : DependencyEdge) : Prop :=
  edge.effectiveFrom ≤ t ∧ ∀ effectiveTo ∈ edge.effectiveTo, t < effectiveTo

/-- Each stored edge that is effective at the time is listed once, and nothing else is. -/
structure ListedAt (t : Instant) (store : Store) (listed : List DependencyEdge) : Prop where
  exact : ∀ edge, edge ∈ listed ↔ getEdge edge.id store = some edge ∧ EffectiveAt t edge
  once : listed.Nodup

def newestRows (database : Database) (store : Store) : List EdgeRow := database.newestFirst (rowsWhere (fun _ => true) store)

/-- The newest thousand edges are effective at the time, and no older edge is. -/
structure NewestAreEffective (database : Database) (t : Instant) (store : Store) : Prop where
  newest : ∀ row ∈ (newestRows database store).take 1000, EffectiveAt t row.edge
  older : ∀ row ∈ (newestRows database store).drop 1000, ¬ EffectiveAt t row.edge

section Listing

variable {database : Database} {store : Store} {t : Instant}

theorem rowsWhere_ids_nodup (p : DependencyEdge → Bool) (store : Store) :
    ((rowsWhere p store).map (fun row => row.edge.id)).Nodup := by
  have keys : (rowsWhere p store).map (fun row => row.edge.id) =
      (store.edges.selectWhere (fun _ row => p row.edge)).map (fun entry => entry.1) := by
    unfold rowsWhere
    rw [List.map_map]
    apply List.map_congr_left
    rintro ⟨id,row⟩ member
    exact store.keyed (Table.mem_selectWhere.mp member).1
  have selected : (store.edges.selectWhere (fun _ row => p row.edge)).NodupKeys :=
    store.edges.nodupKeys.sublist List.filter_sublist
  rw [keys]
  exact selected

theorem newestRows_ids_nodup (database : Database) (store : Store) :
    ((newestRows database store).map (fun row => row.edge.id)).Nodup :=
  ((database.newestFirst_perm _).map _).nodup_iff.mpr (rowsWhere_ids_nodup _ store)

theorem mem_newestRows_of_stored {edge : DependencyEdge} (stored : getEdge edge.id store = some edge) :
    ∃ row ∈ newestRows database store, row.edge = edge := by
  obtain ⟨row,held,same⟩ := Option.map_eq_some_iff.mp stored
  exact ⟨row,(database.newestFirst_perm _).mem_iff.mpr (mem_rowsWhere_iff.mpr ⟨edge.id,held,rfl⟩),same⟩

theorem stored_of_mem_newestRows {row : EdgeRow} (member : row ∈ newestRows database store) :
    getEdge row.edge.id store = some row.edge :=
  (getEdge_of_mem_rowsWhere ((database.newestFirst_perm _).subset member)).1

theorem listEdges_asOf (database : Database) (t : Instant) (store : Store) :
    EdgeFilter.listEdges database { asOf := some t } store = ((newestRows database store).take 1000).map EdgeRow.edge := by
  have everything : ({ asOf := some t } : EdgeFilter).selects = fun _ => true := rfl
  unfold EdgeFilter.listEdges newestRows
  rw [everything]

theorem listEdges_asOf_nodup (database : Database) (t : Instant) (store : Store) :
    (EdgeFilter.listEdges database { asOf := some t } store).Nodup := by
  have ids := (newestRows_ids_nodup database store).sublist ((List.take_sublist 1000 _).map _)
  rw [listEdges_asOf]
  apply List.Nodup.of_map DependencyEdge.id
  rwa [List.map_map]

/-- For every store, every time and every order of edges written at the same
time: the edges listed for the time, and with them those of the topology graph
and of the chain cost, are the edges effective then exactly when the newest
thousand edges are and no older edge is. -/
theorem listed_at_iff (database : Database) (store : Store) (t : Instant) :
    (ListedAt t store (EdgeFilter.listEdges database { asOf := some t } store) ↔ NewestAreEffective database t store) ∧
      (∀ tenantId now, ListedAt t store (getTopologyGraph database tenantId (some t) now store).edges ↔
        NewestAreEffective database t store) ∧
      (ListedAt t store (chainEdges database (some t) store) ↔ NewestAreEffective database t store) := by
  have listing : ListedAt t store (EdgeFilter.listEdges database { asOf := some t } store) ↔ NewestAreEffective database t store := by
    have ids := newestRows_ids_nodup database store
    constructor
    · intro listed
      have exact := listed.exact
      rw [listEdges_asOf] at exact
      refine ⟨fun row member => ((exact row.edge).mp (List.mem_map_of_mem member)).2,?_⟩
      intro row older effective
      have stored := stored_of_mem_newestRows (List.mem_of_mem_drop older)
      obtain ⟨other,newest,same⟩ := List.mem_map.mp ((exact row.edge).mpr ⟨stored,effective⟩)
      rw [← List.take_append_drop 1000 (newestRows database store),List.map_append] at ids
      have apart := (List.nodup_append.mp ids).2.2 _ (List.mem_map_of_mem newest) _ (List.mem_map_of_mem older)
      exact apart (congrArg DependencyEdge.id same)
    · intro split
      refine ⟨?_,listEdges_asOf_nodup database t store⟩
      intro edge
      rw [listEdges_asOf]
      constructor
      · intro member
        obtain ⟨row,newest,rfl⟩ := List.mem_map.mp member
        exact ⟨stored_of_mem_newestRows (List.mem_of_mem_take newest),split.newest row newest⟩
      · rintro ⟨stored,effective⟩
        have newest : ∃ row ∈ newestRows database store, row.edge = edge := mem_newestRows_of_stored stored
        obtain ⟨row,member,rfl⟩ := newest
        rw [← List.take_append_drop 1000 (newestRows database store)] at member
        rcases List.mem_append.mp member with newest | older
        · exact List.mem_map_of_mem newest
        · exact absurd effective (split.older row older)
  exact ⟨listing,fun _ _ => listing,listing⟩

end Listing

def endedEdge : DependencyEdge :=
  { id := "e-1", sourceRef := ⟨.application,"shop",none⟩, targetRef := ⟨.service,"db",none⟩
    relationshipType := .logicalDependency, provenance := ⟨.manual,none,some "alice",none⟩, confidence := .asAsserted
    firstSeen := 10, lastSeen := 20, status := .deleted, effectiveFrom := 10, effectiveTo := some 20 }

/-- At thirty the ended edge is still listed, and at five before it began. -/
theorem ended_and_future_listed :
    ¬ ListedAt 30 (saveEdge endedEdge .empty) (EdgeFilter.listEdges inOrder { asOf := some 30 } (saveEdge endedEdge .empty)) ∧
      ¬ ListedAt 5 (saveEdge endedEdge .empty) (EdgeFilter.listEdges inOrder { asOf := some 5 } (saveEdge endedEdge .empty)) := by
  constructor
  · intro listed
    have effective := ((listed.exact endedEdge).mp (by decide +kernel)).2
    exact absurd (effective.2 20 rfl) (by decide)
  · intro listed
    have effective := ((listed.exact endedEdge).mp (by decide +kernel)).2
    exact absurd effective.1 (by decide)

end CloudLens.Topology
