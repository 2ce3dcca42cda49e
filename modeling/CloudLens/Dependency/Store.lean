import CloudLens.Dependency.Model
import CloudLens.Library.Table
import Mathlib.Data.List.Sort

/-! The stored dependency edges and conflicts of one tenant. A row keeps the time
it was first written beside the edge. A lookup by endpoints returns some matching
row without saying which, and a listing is ordered by that time only, so both
choices belong to the database and differ from call to call. -/
namespace CloudLens.Dependency
open Library Library.Calendar

inductive ConflictResolutionAction where
  | keepManual
  | acceptDiscovered
  | merge
  deriving DecidableEq

structure EdgeConflict where
  conflictId : String
  sourceRef : TypedEntityRef
  manualEdgeId : String
  discoveredEdgeId : String
  manualVersion : DependencyEdge
  discoveredVersion : DependencyEdge
  conflictReason : String
  detectedAt : Instant
  isResolved : Bool := false
  resolvedBy : Option String := none
  resolvedAt : Option Instant := none
  resolutionAction : Option ConflictResolutionAction := none
  resolutionNotes : Option String := none
  deriving DecidableEq

structure EdgeRow where
  createdAt : Instant
  edge : DependencyEdge
  deriving DecidableEq

structure Store where
  edges : Table String EdgeRow
  conflicts : Table String EdgeConflict
  keyed : ∀ {id row}, edges.lookup id = some row → row.edge.id = id
  filed : ∀ {id conflict}, conflicts.lookup id = some conflict → conflict.conflictId = id

structure Database where
  pick : List EdgeRow → Option EdgeRow
  newestFirst : List EdgeRow → List EdgeRow
  pick_mem : ∀ {rows row}, pick rows = some row → row ∈ rows
  pick_none : ∀ {rows}, pick rows = none → rows = []
  newestFirst_perm : ∀ rows, (newestFirst rows).Perm rows
  newestFirst_sorted : ∀ rows, ((newestFirst rows).map EdgeRow.createdAt).Pairwise (· ≥ ·)

def Newer (a b : EdgeRow) : Prop := a.createdAt ≥ b.createdAt

instance : DecidableRel Newer := fun a b => inferInstanceAs (Decidable (a.createdAt ≥ b.createdAt))

instance : Std.Total Newer := ⟨fun a b => le_total b.createdAt a.createdAt⟩

instance : IsTrans EdgeRow Newer := ⟨fun _ _ _ later earlier => earlier.trans later⟩

theorem newestFirst_insertionSort (rows : List EdgeRow) :
    ((rows.insertionSort Newer).map EdgeRow.createdAt).Pairwise (· ≥ ·) :=
  List.pairwise_map.mpr (List.pairwise_insertionSort Newer rows)

def inOrder : Database where
  pick := List.head?
  newestFirst := List.insertionSort Newer
  pick_mem := List.mem_of_head?
  pick_none := List.head?_eq_none_iff.mp
  newestFirst_perm := List.perm_insertionSort Newer
  newestFirst_sorted := newestFirst_insertionSort

def Store.empty : Store := ⟨∅,∅,nofun,nofun⟩

def keepCreation (stored proposed : EdgeRow) : EdgeRow := { proposed with createdAt := stored.createdAt }

def upsertedEdges (edge : DependencyEdge) (store : Store) : Table String EdgeRow :=
  store.edges.upsert keepCreation edge.id ⟨edge.effectiveFrom,edge⟩

theorem keyed_upsertedEdges (edge : DependencyEdge) (store : Store) {id : String} {row : EdgeRow}
    (held : (upsertedEdges edge store).lookup id = some row) : row.edge.id = id := by
  unfold upsertedEdges at held
  by_cases same : id = edge.id
  · rw [same,Table.lookup_upsert_self] at held
    rw [same]
    cases stored : store.edges.lookup edge.id <;> simp only [stored] at held <;> cases held <;> rfl
  · rw [Table.lookup_upsert_ne _ _ _ same] at held
    exact store.keyed held

def saveEdge (edge : DependencyEdge) (store : Store) : Store :=
  { store with edges := upsertedEdges edge store, keyed := keyed_upsertedEdges edge store }

def getEdge (id : String) (store : Store) : Option DependencyEdge := (store.edges.lookup id).map EdgeRow.edge

def rowsWhere (p : DependencyEdge → Bool) (store : Store) : List EdgeRow :=
  (store.edges.selectWhere (fun _ row => p row.edge)).map (fun entry => entry.2)

def findEdge (database : Database) (sourceId targetId : String) (relationshipType : Option RelationshipType)
    (store : Store) : Option DependencyEdge :=
  (database.pick (rowsWhere (fun edge => edge.sourceId = sourceId ∧ edge.targetId = targetId ∧
    relationshipType.all (fun type => edge.relationshipType = type)) store)).map EdgeRow.edge

/-- At most a thousand rows, without the deleted and the superseded ones. -/
def listCurrentEdges (database : Database) (sourceId : String) (relationshipType : RelationshipType) (store : Store) :
    List DependencyEdge :=
  ((database.newestFirst (rowsWhere (fun edge => edge.status ≠ .deleted ∧ edge.status ≠ .superseded ∧
    edge.relationshipType = relationshipType ∧ edge.sourceId = sourceId) store)).take 1000).map EdgeRow.edge

def listActiveEdges (database : Database) (store : Store) : List DependencyEdge :=
  ((database.newestFirst (rowsWhere (fun edge => edge.status = .active) store)).take 1000).map EdgeRow.edge

def upsertedConflicts (conflict : EdgeConflict) (store : Store) : Table String EdgeConflict :=
  store.conflicts.upsert (fun _ proposed => proposed) conflict.conflictId conflict

theorem filed_upsertedConflicts (conflict : EdgeConflict) (store : Store) {id : String} {found : EdgeConflict}
    (held : (upsertedConflicts conflict store).lookup id = some found) : found.conflictId = id := by
  unfold upsertedConflicts at held
  rw [Table.lookup_overwrite] at held
  split at held
  · cases held
    rename_i same
    exact same.symm
  · exact store.filed held

def saveConflict (conflict : EdgeConflict) (store : Store) : Store :=
  { store with conflicts := upsertedConflicts conflict store, filed := filed_upsertedConflicts conflict store }

def getConflict (id : String) (store : Store) : Option EdgeConflict := store.conflicts.lookup id

section Lookups

variable {store : Store} {edge : DependencyEdge}

theorem getEdge_saveEdge (edge : DependencyEdge) (store : Store) (id : String) :
    getEdge id (saveEdge edge store) = if id = edge.id then some edge else getEdge id store := by
  unfold getEdge saveEdge upsertedEdges
  by_cases same : id = edge.id
  · rw [if_pos same,same,Table.lookup_upsert_self]
    cases store.edges.lookup edge.id <;> rfl
  · rw [if_neg same]
    dsimp only
    rw [Table.lookup_upsert_ne _ _ _ same]

theorem getEdge_saveConflict (conflict : EdgeConflict) (store : Store) (id : String) :
    getEdge id (saveConflict conflict store) = getEdge id store := rfl

theorem getConflict_saveConflict (conflict : EdgeConflict) (store : Store) (id : String) :
    getConflict id (saveConflict conflict store) =
      if id = conflict.conflictId then some conflict else getConflict id store :=
  Table.lookup_overwrite store.conflicts conflict.conflictId id conflict

theorem mem_rowsWhere_iff {p : DependencyEdge → Bool} {row : EdgeRow} :
    row ∈ rowsWhere p store ↔ ∃ id, store.edges.lookup id = some row ∧ p row.edge = true := by
  unfold rowsWhere
  rw [List.mem_map]
  constructor
  · rintro ⟨⟨id,stored⟩,selected,rfl⟩
    exact ⟨id,Table.mem_selectWhere.mp selected⟩
  · rintro ⟨id,selected⟩
    exact ⟨⟨id,row⟩,Table.mem_selectWhere.mpr selected,rfl⟩

theorem id_of_getEdge {id : String} (held : getEdge id store = some edge) : edge.id = id := by
  obtain ⟨row,stored,rfl⟩ := Option.map_eq_some_iff.mp held
  exact store.keyed stored

theorem getEdge_of_mem_rowsWhere {p : DependencyEdge → Bool} {row : EdgeRow} (member : row ∈ rowsWhere p store) :
    getEdge row.edge.id store = some row.edge ∧ p row.edge = true := by
  obtain ⟨id,stored,selected⟩ := mem_rowsWhere_iff.mp member
  refine ⟨?_,selected⟩
  rw [getEdge,store.keyed stored,stored]
  rfl

theorem findEdge_some {database : Database} {sourceId targetId : String} {relationshipType : Option RelationshipType}
    (found : findEdge database sourceId targetId relationshipType store = some edge) :
    getEdge edge.id store = some edge ∧ edge.sourceId = sourceId ∧ edge.targetId = targetId := by
  obtain ⟨row,picked,rfl⟩ := Option.map_eq_some_iff.mp found
  obtain ⟨held,selected⟩ := getEdge_of_mem_rowsWhere (database.pick_mem picked)
  simp only [decide_eq_true_eq] at selected
  exact ⟨held,selected.1,selected.2.1⟩

theorem findEdge_none {database : Database} {sourceId targetId : String}
    (missing : findEdge database sourceId targetId none store = none) {id : String} (held : getEdge id store = some edge) :
    ¬ (edge.sourceId = sourceId ∧ edge.targetId = targetId) := by
  intro ends
  obtain ⟨row,stored,rfl⟩ := Option.map_eq_some_iff.mp held
  have empty := database.pick_none (Option.map_eq_none_iff.mp missing)
  have selected : row ∈ rowsWhere (fun edge => edge.sourceId = sourceId ∧ edge.targetId = targetId ∧
      (none : Option RelationshipType).all (fun type => edge.relationshipType = type)) store :=
    mem_rowsWhere_iff.mpr ⟨id,stored,by simp [ends]⟩
  rw [empty] at selected
  cases selected

theorem listCurrentEdges_mem {database : Database} {sourceId : String} {relationshipType : RelationshipType}
    (listed : edge ∈ listCurrentEdges database sourceId relationshipType store) :
    getEdge edge.id store = some edge ∧ edge.sourceId = sourceId ∧ edge.relationshipType = relationshipType := by
  obtain ⟨row,taken,rfl⟩ := List.mem_map.mp listed
  have member := (database.newestFirst_perm _).subset (List.mem_of_mem_take taken)
  obtain ⟨held,selected⟩ := getEdge_of_mem_rowsWhere member
  simp only [decide_eq_true_eq] at selected
  exact ⟨held,selected.2.2.2,selected.2.2.1⟩

theorem listActiveEdges_mem {database : Database} (listed : edge ∈ listActiveEdges database store) :
    getEdge edge.id store = some edge := by
  obtain ⟨row,taken,rfl⟩ := List.mem_map.mp listed
  exact (getEdge_of_mem_rowsWhere ((database.newestFirst_perm _).subset (List.mem_of_mem_take taken))).1

end Lookups

end CloudLens.Dependency
