import CloudLens.Topology.Model

/-! The cost of a dependency chain: the root and every entity below it, each at
its apportioned part. The chain is walked breadth first, an entity is counted
over the first edge that reaches it, and the type and the billing attributes of
that edge alone decide its part. -/
namespace CloudLens.Topology
open Cost Dependency Library Library.Traversal

structure NodeCostBreakdown where
  entityId : String
  entityType : EntityReferenceType
  displayName : String
  relationshipPath : List String
  depth : ℕ
  rawPeriodCost : ℚ
  apportionmentPct : ℚ
  effectiveContributedCost : ℚ
  costSharePercentage : ℚ
  isShared : Bool
  isRestricted : Bool := false
  deriving DecidableEq

structure SharedServiceCostBreakdown where
  serviceId : String
  displayName : String
  totalServiceCost : ℚ
  consumersCount : ℕ
  apportionedPctToThisChain : ℚ
  apportionedCostToThisChain : ℚ
  allocationRule : String
  deriving DecidableEq

structure ChainCostDecomposition where
  rootEntity : TypedEntityRef
  currency : String
  totalChainCost : ℚ
  directRootCost : ℚ
  attributedDownstreamCost : ℚ
  contributingNodes : List NodeCostBreakdown
  sharedServicesIncluded : List SharedServiceCostBreakdown
  deriving DecidableEq

/-- A shared service or a billing relationship adds its target a second time. -/
def chainLinks (edge : DependencyEdge) : List Link :=
  (match edge.direction with
    | .outbound => [forward edge]
    | .inbound => [backward edge]
    | .bidirectional => [forward edge, backward edge]) ++
  if edge.isShared then [forward edge] else []

structure Apportionment where
  pct : ℚ
  isShared : Bool
  rule : String
  deriving DecidableEq

/-- Attributes that state no percentage, or none at all, leave the default. -/
def statedAttributes (edge : DependencyEdge) : Option BillingAttributes :=
  edge.billingAttributes.filter (fun attributes => attributes.allocationPercentage ≠ 0)

def ruleName (default : String) (attributes : BillingAttributes) : String :=
  if attributes.allocationRule = "" then default else attributes.allocationRule

def apportionment (edge : DependencyEdge) : Apportionment :=
  match edge.relationshipType, statedAttributes edge with
  | .sharedService, some attributes => ⟨attributes.allocationPercentage,true,ruleName "SHARED_SERVICE_RATIO" attributes⟩
  | .sharedService, none => ⟨50,true,"SHARED_SERVICE_RATIO"⟩
  | .billingRelationship, some attributes =>
    ⟨attributes.allocationPercentage,attributes.allocationPercentage < 100,ruleName "BILLING_ALLOCATION" attributes⟩
  | .billingRelationship, none => ⟨100,false,"BILLING_ALLOCATION"⟩
  | _, _ => ⟨100,false,"DIRECT_ATTACHMENT"⟩

def chainSearch (links : List Link) (maxDepth : Option ℕ) : Search String Link Unit where
  neighbours := neighboursIn links
  limit := maxDepth
  examine := fun _ _ log => log

def chainWalk (edges : List DependencyEdge) (maxDepth : Option ℕ) (rootId : String) : Walk String Link Unit :=
  (chainSearch (edges.flatMap chainLinks) maxDepth).run ((edges.flatMap chainLinks).length + 1) (Walk.start rootId ())

def effectiveCost (raw pct : ℚ) : ℚ := roundCurrency (raw * (pct / 100))

def nodeBreakdown (enrich : Enrichment) (found : Entry String × Link) : NodeCostBreakdown :=
  let part := apportionment found.2.edge
  let raw := (enrichRef enrich found.2.ref).cost
  { entityId := found.2.ref.entityId
    entityType := found.2.ref.entityType
    displayName := displayName found.2.ref
    relationshipPath := found.1.path
    depth := found.1.depth
    rawPeriodCost := raw
    apportionmentPct := part.pct
    effectiveContributedCost := effectiveCost raw part.pct
    costSharePercentage := 0
    isShared := part.isShared }

def sharedBreakdown (enrich : Enrichment) (found : Entry String × Link) : Option SharedServiceCostBreakdown :=
  let part := apportionment found.2.edge
  let raw := (enrichRef enrich found.2.ref).cost
  if part.isShared then
    some
      { serviceId := found.2.ref.entityId
        displayName := displayName found.2.ref
        totalServiceCost := raw
        consumersCount := 1
        apportionedPctToThisChain := part.pct
        apportionedCostToThisChain := effectiveCost raw part.pct
        allocationRule := part.rule }
  else none

def costShare (total : ℚ) (node : NodeCostBreakdown) : NodeCostBreakdown :=
  { node with
    costSharePercentage := if 0 < total then Decimal.quantize 2 (node.effectiveContributedCost / total * 100) else 0 }

def calculateChainCost (edges : List DependencyEdge) (enrich : Enrichment) (currency : String) (maxDepth : ℕ)
    (rootEntityRef : TypedEntityRef) : ChainCostDecomposition :=
  let found := (chainWalk edges (some maxDepth) rootEntityRef.entityId).found
  let nodes := found.map (nodeBreakdown enrich)
  let direct := (enrichRef enrich rootEntityRef).cost
  let attributed := (nodes.map NodeCostBreakdown.effectiveContributedCost).sum
  let total := roundCurrency (direct + attributed)
  { rootEntity := rootEntityRef
    currency := currency
    totalChainCost := total
    directRootCost := direct
    attributedDownstreamCost := attributed
    contributingNodes := nodes.map (costShare total)
    sharedServicesIncluded := found.filterMap (sharedBreakdown enrich) }

section Chain

variable {edges : List DependencyEdge} {maxDepth : Option ℕ} {rootId : String}

theorem chainWalk_invariant (edges : List DependencyEdge) (maxDepth : Option ℕ) (rootId : String) :
    ∃ done, Invariant (chainSearch (edges.flatMap chainLinks) maxDepth) rootId done (chainWalk edges maxDepth rootId) := by
  obtain ⟨done,state,_⟩ := run_invariant ((edges.flatMap chainLinks).length + 1)
    (start_invariant (chainSearch (edges.flatMap chainLinks) maxDepth) rootId ())
  exact ⟨done,state⟩

theorem chainWalk_ref {found : Entry String × Link} (member : found ∈ (chainWalk edges maxDepth rootId).found) :
    found.2.ref.entityId = found.1.node := by
  exact linkWalk_ref rfl member

theorem chainWalk_distinct (edges : List DependencyEdge) (maxDepth : Option ℕ) (rootId : String) :
    (rootId :: (chainWalk edges maxDepth rootId).nodes).Nodup := by
  obtain ⟨done,state⟩ := chainWalk_invariant edges maxDepth rootId
  exact state.distinct

theorem chainWalk_unlimited {node : String} (found : node ∈ (chainWalk edges maxDepth rootId).nodes) :
    node ∈ (chainWalk edges none rootId).nodes := by
  obtain ⟨other,n,_,walked⟩ := (mem_linkWalk_iff rfl).mp found
  have wider : ∀ a b, (chainSearch (edges.flatMap chainLinks) maxDepth).Step a b →
      (chainSearch (edges.flatMap chainLinks) none).Step a b := fun _ _ step => step
  exact (mem_linkWalk_iff rfl).mpr ⟨other,n,nofun,walked.imp wider⟩

theorem contributingNodes_eq (edges : List DependencyEdge) (enrich : Enrichment) (currency : String) (maxDepth : ℕ)
    (root : TypedEntityRef) :
    ∃ total, (calculateChainCost edges enrich currency maxDepth root).contributingNodes =
      (chainWalk edges (some maxDepth) root.entityId).found.map (fun found => costShare total (nodeBreakdown enrich found)) := by
  unfold calculateChainCost
  dsimp only
  rw [List.map_map]
  exact ⟨_,rfl⟩

theorem contributingNodes_ids (edges : List DependencyEdge) (enrich : Enrichment) (currency : String) (maxDepth : ℕ)
    (root : TypedEntityRef) :
    (calculateChainCost edges enrich currency maxDepth root).contributingNodes.map NodeCostBreakdown.entityId =
      (chainWalk edges (some maxDepth) root.entityId).nodes := by
  obtain ⟨total,listed⟩ := contributingNodes_eq edges enrich currency maxDepth root
  rw [listed,List.map_map]
  apply List.map_congr_left
  intro found member
  exact chainWalk_ref member

theorem contributingNodes_raw (edges : List DependencyEdge) (enrich : Enrichment) (currency : String) (maxDepth : ℕ)
    (root : TypedEntityRef) :
    (calculateChainCost edges enrich currency maxDepth root).contributingNodes.map NodeCostBreakdown.rawPeriodCost =
      (chainWalk edges (some maxDepth) root.entityId).found.map (fun found => (enrichRef enrich found.2.ref).cost) := by
  obtain ⟨total,listed⟩ := contributingNodes_eq edges enrich currency maxDepth root
  rw [listed,List.map_map]
  rfl

theorem apportionment_pct (edge : DependencyEdge) : 0 < (apportionment edge).pct ∧ (apportionment edge).pct ≤ 100 := by
  have stated : ∀ attributes, statedAttributes edge = some attributes →
      0 < attributes.allocationPercentage ∧ attributes.allocationPercentage ≤ 100 := by
    intro attributes given
    obtain ⟨_,nonzero⟩ := Option.filter_eq_some_iff.mp given
    exact ⟨lt_of_le_of_ne attributes.nonnegative (Ne.symm (of_decide_eq_true nonzero)),attributes.atMostWhole⟩
  unfold apportionment
  split
  · exact stated _ (by assumption)
  · norm_num
  · exact stated _ (by assumption)
  · norm_num
  · norm_num

end Chain

end CloudLens.Topology
