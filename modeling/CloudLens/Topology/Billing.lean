import CloudLens.Dependency.Merger
import CloudLens.Topology.ChainCost

/-! Billing relationships of a shared service and the chains of its consumers.
The synchronisation writes edges from the service to each consumer, while a chain
follows billing edges from the consumer to what it consumes, so no chain of a
consumer ever reaches the service over them. -/
namespace CloudLens.Topology
open Cost Dependency Library Library.Calendar Library.Traversal

structure BillingAllocationSyncItem where
  consumerRef : TypedEntityRef
  allocationPercentage : ℚ
  allocationRule : String := "FIXED_RATIO"
  costCentreId : Option String := none
  nonnegative : 0 ≤ allocationPercentage
  atMostWhole : allocationPercentage ≤ 100

/-- A request names at least one consumer. -/
structure BillingAllocationSyncRequest where
  sharedServiceRef : TypedEntityRef
  allocations : List BillingAllocationSyncItem
  notes : Option String := none
  provided : allocations ≠ []

structure SyncDraw where
  database : Database
  edgeId : String

def syncedAttributes (request : BillingAllocationSyncRequest) (item : BillingAllocationSyncItem) : BillingAttributes where
  allocationPercentage := item.allocationPercentage
  allocationRule := item.allocationRule
  sharedServiceId := some request.sharedServiceRef.entityId
  costCentreId := item.costCentreId
  nonnegative := item.nonnegative
  atMostWhole := item.atMostWhole

def noteOr (notes : Option String) (default : String) : String :=
  match notes with
  | some text => if text = "" then default else text
  | none => default

def updatedBilling (request : BillingAllocationSyncRequest) (item : BillingAllocationSyncItem) (actor : String) (now : Instant)
    (existing : DependencyEdge) : DependencyEdge :=
  addHistory now "BILLING_SYNCED" actor none none (noteOr request.notes "Updated shared-service billing allocation.")
    { existing with billingAttributes := some (syncedAttributes request item), lastSeen := now }

def createdBilling (request : BillingAllocationSyncRequest) (item : BillingAllocationSyncItem) (actor : String) (now : Instant)
    (edgeId : String) : DependencyEdge :=
  addHistory now "BILLING_SYNCED" actor none none (noteOr request.notes "Created shared-service billing allocation edge.")
    { id := edgeId
      sourceRef := request.sharedServiceRef
      targetRef := item.consumerRef
      relationshipType := .billingRelationship
      direction := .outbound
      provenance := ⟨.manual,none,some actor,some .curatedApplication⟩
      confidence := .high
      criticality := .medium
      status := .active
      notes := some (noteOr request.notes "Shared service billing cost allocation link.")
      firstSeen := now
      lastSeen := now
      effectiveFrom := now
      billingAttributes := some (syncedAttributes request item) }

structure SyncState where
  store : Store
  created : ℕ
  updated : ℕ

def syncItem (request : BillingAllocationSyncRequest) (actor : String) (now : Instant) (draw : SyncDraw)
    (item : BillingAllocationSyncItem) (state : SyncState) : SyncState :=
  match findEdge draw.database request.sharedServiceRef.entityId item.consumerRef.entityId (some .billingRelationship)
      state.store with
  | some existing =>
    { state with store := saveEdge (updatedBilling request item actor now existing) state.store, updated := state.updated + 1 }
  | none =>
    { state with
      store := saveEdge (createdBilling request item actor now draw.edgeId) state.store, created := state.created + 1 }

structure BillingAllocationSyncResult where
  sharedServiceId : String
  totalAllocationsSynced : ℕ
  edgesCreated : ℕ
  edgesUpdated : ℕ
  totalPercentage : ℚ

def syncBillingRelationships (request : BillingAllocationSyncRequest) (actor : String) (now : Instant) (draws : ℕ → SyncDraw)
    (store : Store) : Store × BillingAllocationSyncResult :=
  let final := request.allocations.zipIdx.foldl
    (fun state item => syncItem request actor now (draws item.2) item.1 state) ⟨store,0,0⟩
  (final.store,
    { sharedServiceId := request.sharedServiceRef.entityId
      totalAllocationsSynced := request.allocations.length
      edgesCreated := final.created
      edgesUpdated := final.updated
      totalPercentage := (request.allocations.map BillingAllocationSyncItem.allocationPercentage).sum })

section Sync

variable {request : BillingAllocationSyncRequest} {actor : String} {now : Instant}

def LeadsOut (source : String) (store : Store) : Prop :=
  ∀ id edge, getEdge id store = some edge → edge.sourceId = source ∧ edge.direction = .outbound

theorem leadsOut_saveEdge {source : String} {edge : DependencyEdge} {store : Store} (before : LeadsOut source store)
    (leaves : edge.sourceId = source ∧ edge.direction = .outbound) : LeadsOut source (saveEdge edge store) := by
  intro id held stored
  rw [getEdge_saveEdge] at stored
  split at stored
  · cases stored
    exact leaves
  · exact before id held stored

theorem leadsOut_syncItem (draw : SyncDraw) (item : BillingAllocationSyncItem) {state : SyncState}
    (before : LeadsOut request.sharedServiceRef.entityId state.store) :
    LeadsOut request.sharedServiceRef.entityId (syncItem request actor now draw item state).store := by
  unfold syncItem
  split
  · rename_i existing found
    exact leadsOut_saveEdge before (before existing.id existing (findEdge_some found).1)
  · exact leadsOut_saveEdge before ⟨rfl,rfl⟩

theorem leadsOut_sync (draws : ℕ → SyncDraw) {store : Store} (before : LeadsOut request.sharedServiceRef.entityId store) :
    LeadsOut request.sharedServiceRef.entityId (syncBillingRelationships request actor now draws store).1 := by
  unfold syncBillingRelationships
  dsimp only
  generalize request.allocations.zipIdx = items
  have start : LeadsOut request.sharedServiceRef.entityId (⟨store,0,0⟩ : SyncState).store := before
  generalize (⟨store,0,0⟩ : SyncState) = state at start ⊢
  induction items generalizing state with
  | nil => exact start
  | cons item rest ih => exact ih _ (leadsOut_syncItem (draws item.2) item.1 start)

end Sync

section Chains

variable {edges : List DependencyEdge} {source : String}

theorem source_notMem_chain (leaving : ∀ edge ∈ edges, edge.sourceId = source ∧ edge.direction = .outbound) (maxDepth : Option ℕ)
    (rootId : String) : source ∉ (chainWalk edges maxDepth rootId).nodes := by
  intro found
  obtain ⟨done,state⟩ := chainWalk_invariant edges maxDepth rootId
  obtain ⟨entry,listed,same⟩ := Walk.mem_nodes_iff.mp found
  have walked := state.walked entry.1 (List.mem_cons_of_mem _ (List.mem_map_of_mem listed))
  have fromSource : ∀ link ∈ edges.flatMap chainLinks, link.node = source := by
    intro link member
    obtain ⟨edge,inside,contributed⟩ := List.mem_flatMap.mp member
    obtain ⟨starts,outbound⟩ := leaving edge inside
    have isForward : link = forward edge := by
      unfold chainLinks at contributed
      rw [outbound] at contributed
      rcases List.mem_append.mp contributed with first | again
      · exact List.mem_singleton.mp first
      · split at again
        · exact List.mem_singleton.mp again
        · cases again
    rw [isForward]
    exact starts
  -- The walk leaves the root by a link of the source, so the root is the source.
  have atRoot : rootId = source ∨ ∀ n node, (chainSearch (edges.flatMap chainLinks) maxDepth).Steps rootId n node →
      node = rootId := by
    by_cases isSource : rootId = source
    · exact Or.inl isSource
    · refine Or.inr fun n node steps => ?_
      induction steps with
      | zero => rfl
      | succ _ step ih =>
        obtain ⟨link,adjacent⟩ := step
        obtain ⟨member,here,_⟩ := mem_neighboursIn_iff.mp adjacent
        rw [ih] at here
        exact absurd (here.symm.trans (fromSource link member)) isSource
  have fresh := (List.nodup_cons.mp (chainWalk_distinct edges maxDepth rootId)).1
  rcases atRoot with isSource | stays
  · rw [isSource] at fresh found
    exact fresh found
  · rw [same] at walked
    rw [stays _ _ walked] at found
    exact fresh found

end Chains

def ReachesConsumer (edges : List DependencyEdge) (enrich : Enrichment) (currency : String) (maxDepth : ℕ)
    (service : TypedEntityRef) (item : BillingAllocationSyncItem) : Prop :=
  ∃ node, (calculateChainCost edges enrich currency maxDepth item.consumerRef).contributingNodes.filter
      (fun node => node.entityId = service.entityId) = [node] ∧
    node.apportionmentPct = item.allocationPercentage ∧
    node.effectiveContributedCost = roundCurrency ((enrichRef enrich service).cost * item.allocationPercentage / 100)

theorem leadsOut_of_unlinked {store : Store} (unlinked : store.edges = ∅) (source : String) : LeadsOut source store := by
  intro id edge held
  rw [getEdge,unlinked] at held
  cases held

/-- On a graph without other edges, no consumer's chain ever has the service that
was synchronised for it, whatever the percentages and however the database orders
its answers. -/
theorem billing_never_reaches_consumer (request : BillingAllocationSyncRequest) (actor : String) (now later : Instant)
    (draws redraws : ℕ → SyncDraw) {store : Store} (unlinked : store.edges = ∅) (database : Database) (enrich : Enrichment)
    (currency : String) (maxDepth : ℕ) :
    (∀ item ∈ request.allocations, ¬ ReachesConsumer
      (listActiveEdges database (syncBillingRelationships request actor now draws store).1) enrich currency maxDepth
      request.sharedServiceRef item) ∧
    ¬ ((∀ item ∈ request.allocations, ReachesConsumer
        (listActiveEdges database (syncBillingRelationships request actor now draws store).1) enrich currency maxDepth
        request.sharedServiceRef item) ∧
      ∀ root, calculateChainCost (listActiveEdges database (syncBillingRelationships request actor later redraws
          (syncBillingRelationships request actor now draws store).1).1) enrich currency maxDepth root =
        calculateChainCost (listActiveEdges database (syncBillingRelationships request actor now draws store).1) enrich
          currency maxDepth root) := by
  have leaving : ∀ edge ∈ listActiveEdges database (syncBillingRelationships request actor now draws store).1,
      edge.sourceId = request.sharedServiceRef.entityId ∧ edge.direction = .outbound := by
    intro edge listed
    exact leadsOut_sync draws (leadsOut_of_unlinked unlinked _) edge.id edge (listActiveEdges_mem listed)
  have missed : ∀ item, ¬ ReachesConsumer
      (listActiveEdges database (syncBillingRelationships request actor now draws store).1) enrich currency maxDepth
      request.sharedServiceRef item := by
    rintro item ⟨node,only,_⟩
    have kept : node ∈ List.filter (fun node => node.entityId = request.sharedServiceRef.entityId)
        (calculateChainCost (listActiveEdges database (syncBillingRelationships request actor now draws store).1) enrich
          currency maxDepth item.consumerRef).contributingNodes := by
      rw [only]
      exact List.mem_singleton.mpr rfl
    obtain ⟨contributing,named⟩ := List.mem_filter.mp kept
    apply source_notMem_chain leaving (some maxDepth) item.consumerRef.entityId
    rw [← contributingNodes_ids _ enrich currency,← of_decide_eq_true named]
    exact List.mem_map_of_mem contributing
  refine ⟨fun item _ => missed item,?_⟩
  rintro ⟨reached,_⟩
  obtain ⟨item,member⟩ := List.exists_mem_of_ne_nil _ request.provided
  exact missed item (reached item member)

def databaseSync : BillingAllocationSyncRequest where
  sharedServiceRef := ⟨.service,"db",none⟩
  allocations := [⟨⟨.application,"shop",none⟩,60,"FIXED_RATIO",none,by decide,by decide⟩]
  provided := List.cons_ne_nil _ _

def databaseCosts : String → Option ℚ
  | "db" => some 100
  | _ => none

def syncedDatabase : Store := (syncBillingRelationships databaseSync "alice" 0 (fun _ => ⟨inOrder,"dep-bill-1"⟩) Store.empty).1

/-- The edge is stored and active, and the chain of the shop is empty all the same. -/
theorem synced_database_misses_shop :
    ((listActiveEdges inOrder syncedDatabase).map (fun edge => (edge.sourceId, edge.targetId)) = [("db", "shop")] ∧
      (calculateChainCost (listActiveEdges inOrder syncedDatabase) (customEnrichment {} databaseCosts "USD") "USD" 10
        ⟨.application,"shop",none⟩).contributingNodes = []) ∧
    (∀ item ∈ databaseSync.allocations, ¬ ReachesConsumer (listActiveEdges inOrder syncedDatabase)
      (customEnrichment {} databaseCosts "USD") "USD" 10 databaseSync.sharedServiceRef item) := by
  refine ⟨by decide +kernel,?_⟩
  rintro item member ⟨node,only,_⟩
  rw [List.mem_singleton.mp member] at only
  have empty : (calculateChainCost (listActiveEdges inOrder syncedDatabase) (customEnrichment {} databaseCosts "USD") "USD" 10
      ⟨.application,"shop",none⟩).contributingNodes = [] := by decide +kernel
  rw [empty] at only
  cases only

theorem shop_misses_synced_database :
    Store.empty.edges = ∅ ∧
    ∀ item ∈ databaseSync.allocations, ¬ ReachesConsumer (listActiveEdges inOrder syncedDatabase)
      (customEnrichment {} databaseCosts "USD") "USD" 10 databaseSync.sharedServiceRef item :=
  ⟨rfl,(billing_never_reaches_consumer databaseSync "alice" 0 1 (fun _ => ⟨inOrder,"dep-bill-1"⟩)
    (fun _ => ⟨inOrder,"dep-bill-2"⟩) rfl inOrder (customEnrichment {} databaseCosts "USD") "USD" 10).1⟩

end CloudLens.Topology
