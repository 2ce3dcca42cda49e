import CloudLens.Dependency.Impact
import CloudLens.Topology.ChainCost
import CloudLens.Topology.Clustering

/-! The projection of a topology view: the entities within reach of the root, or
all of them, are enriched, masked for the caller, collapsed and clustered, and
the cost of the chain beneath the root is attached. -/
namespace CloudLens.Topology
open Access Cost Dependency Library Library.Calendar Library.Traversal

inductive TopologyViewType where
  | serviceDependency
  | applicationDependency
  | accountTopology
  | subscriptionTopology
  | projectTopology
  | compartmentTopology
  | resourceRelationship
  | costAwareDependency
  deriving DecidableEq

def viewDefault : TopologyViewType → Option EntityReferenceType × ℕ
  | .serviceDependency => (some .service, 3)
  | .applicationDependency => (some .application, 4)
  | .accountTopology => (some .scope, 2)
  | .subscriptionTopology => (some .scope, 2)
  | .projectTopology => (some .scope, 2)
  | .compartmentTopology => (some .scope, 2)
  | .resourceRelationship => (some .resource, 2)
  | .costAwareDependency => (none, 3)

/-- An empty list of types leaves all of them, the collapsed identifiers come in
the order in which their set is iterated, and a depth of its own lies between one
and ten. -/
structure TopologyProjectionRequest where
  viewType : TopologyViewType := .serviceDependency
  rootEntityId : Option String := none
  rootEntityType : Option EntityReferenceType := none
  maxDepth : Option ℕ := none
  asOf : Option Instant := none
  relationshipTypes : List RelationshipType := []
  collapsedNodeIds : List String := []
  interactiveNodeLimit : ℕ := 500
  enableClustering : Bool := true
  currency : String := "USD"
  bounded : ∀ {depth}, maxDepth = some depth → 1 ≤ depth ∧ depth ≤ 10

inductive TopologyError where
  | invalidTraversalDepth (depth maxAllowed : ℕ)
  deriving DecidableEq

structure TopologyGraphView where
  viewType : TopologyViewType
  rootEntity : Option TypedEntityRef
  currency : String
  maxDepth : ℕ
  totalNodes : ℕ
  totalEdges : ℕ
  restrictedNodesCount : ℕ
  clusteredNodesCount : ℕ
  totalViewCost : ℚ
  nodes : List TopologyNode
  edges : List TopologyEdge
  chainCost : Option ChainCostDecomposition
  deriving DecidableEq

structure TopologyWorld where
  stored : List DependencyEdge
  enrich : Enrichment

def listEdges (status : Option EdgeStatus) (stored : List DependencyEdge) : List DependencyEdge :=
  (stored.filter (fun edge => status.all (fun wanted => edge.status = wanted))).take 1000

def requestedDepth (req : TopologyProjectionRequest) : ℕ :=
  match req.maxDepth with
  | some depth => if depth = 0 then (viewDefault req.viewType).2 else depth
  | none => (viewDefault req.viewType).2

def requestedEdges (req : TopologyProjectionRequest) (stored : List DependencyEdge) : List DependencyEdge :=
  ofTypes req.relationshipTypes (listEdges (if req.asOf = none then some .active else none) stored)

def viewRoot (req : TopologyProjectionRequest) (known : Dict String TypedEntityRef) : Option TypedEntityRef :=
  let expected := (viewDefault req.viewType).1
  match req.rootEntityId.filter (fun id => id ≠ "") with
  | some id => some ((known.get id).getD ⟨(req.rootEntityType <|> expected).getD .application,id,some id⟩)
  | none =>
    if req.viewType = .costAwareDependency then none
    else known.values.find? (fun ref => expected.all (fun type => ref.entityType = type))

def topologyNode (enrich : Enrichment) (ref : TypedEntityRef) (depth : ℕ) (isRoot : Bool) : TopologyNode where
  id := ref.entityId
  entityRef := ref
  displayName := displayName ref
  depth := depth
  isRoot := isRoot
  enrichment := some (enrichRef enrich ref)
  directCost := (enrichRef enrich ref).cost
  attributedChainCost := (enrichRef enrich ref).cost

def topologyEdge (edge : DependencyEdge) : TopologyEdge where
  edgeId := edge.id
  sourceId := edge.sourceId
  targetId := edge.targetId
  relationshipType := edge.relationshipType
  direction := edge.direction
  criticality := edge.criticality
  confidence := edge.confidence
  billingAttributes := edge.billingAttributes

def projectionLinks (edge : DependencyEdge) : List Link :=
  if edge.direction = .bidirectional then [forward edge, backward edge] else [forward edge]

def examineEdge (_ : Entry String) (neighbour : String × Link) (projected : List TopologyEdge) : List TopologyEdge :=
  if neighbour.2.edge.id ∈ projected.map TopologyEdge.edgeId then projected
  else projected ++ [topologyEdge neighbour.2.edge]

def projectionSearch (links : List Link) (maxDepth : ℕ) : Search String Link (List TopologyEdge) where
  neighbours := neighboursIn links
  limit := some maxDepth
  examine := examineEdge

def projectionWalk (edges : List DependencyEdge) (maxDepth : ℕ) (rootId : String) : Walk String Link (List TopologyEdge) :=
  (projectionSearch (edges.flatMap projectionLinks) maxDepth).run ((edges.flatMap projectionLinks).length + 1)
    (Walk.start rootId [])

structure Projected where
  nodes : List TopologyNode
  edges : List TopologyEdge

def traverseFromRoot (edges : List DependencyEdge) (enrich : Enrichment) (maxDepth : ℕ) (root : TypedEntityRef) : Projected :=
  let walk := projectionWalk edges maxDepth root.entityId
  { nodes := topologyNode enrich root 0 true ::
      walk.found.map (fun found => topologyNode enrich found.2.ref found.1.depth false)
    edges := walk.log }

def projectAll (edges : List DependencyEdge) (enrich : Enrichment) (known : Dict String TypedEntityRef) : Projected where
  nodes := known.values.map (fun ref => topologyNode enrich ref 1 false)
  edges := edges.map topologyEdge

def project (req : TopologyProjectionRequest) (world : TopologyWorld) : Projected :=
  let edges := requestedEdges req world.stored
  match viewRoot req (entityMap edges) with
  | some root => traverseFromRoot edges world.enrich (requestedDepth req) root
  | none => projectAll edges world.enrich (entityMap edges)

def maskFor (caller : Caller) (grants : List ScopeGrant) (node : TopologyNode) : TopologyNode :=
  if evaluateAccess caller grants node then node else maskNode node

def restrictedIds (caller : Caller) (grants : List ScopeGrant) (nodes : List TopologyNode) : List String :=
  (nodes.filter (fun node => !evaluateAccess caller grants node)).map TopologyNode.id

def shownGraph (caller : Caller) (grants : List ScopeGrant) (req : TopologyProjectionRequest) (projected : Projected) :
    ClusteredGraph :=
  pruneAndCluster (projected.nodes.map (maskFor caller grants))
    (maskEdgesForRestrictedNodes (restrictedIds caller grants projected.nodes) projected.edges) (requestedDepth req)
    req.collapsedNodeIds req.interactiveNodeLimit req.enableClustering req.currency

def graphView (caller : Caller) (grants : List ScopeGrant) (req : TopologyProjectionRequest) (world : TopologyWorld) :
    TopologyGraphView :=
  let root := viewRoot req (entityMap (requestedEdges req world.stored))
  let projected := project req world
  let shown := shownGraph caller grants req projected
  { viewType := req.viewType
    rootEntity := root
    currency := req.currency
    maxDepth := requestedDepth req
    totalNodes := shown.nodes.length
    totalEdges := shown.edges.length
    restrictedNodesCount := (restrictedIds caller grants projected.nodes).length
    clusteredNodesCount := shown.count
    totalViewCost := roundCurrency (shown.nodes.map TopologyNode.directCost).sum
    nodes := shown.nodes
    edges := shown.edges
    -- The time of the view is always given to the chain, so its edges are of every status.
    chainCost := root.map
      (calculateChainCost (listEdges none world.stored) world.enrich req.currency (requestedDepth req)) }

def projectView (caller : Caller) (grants : List ScopeGrant) (req : TopologyProjectionRequest) (world : TopologyWorld) :
    Except TopologyError TopologyGraphView :=
  let depth := requestedDepth req
  if depth < 1 ∨ 10 < depth then .error (.invalidTraversalDepth depth 10)
  else .ok (graphView caller grants req world)

theorem requestedDepth_bounded (req : TopologyProjectionRequest) : 1 ≤ requestedDepth req ∧ requestedDepth req ≤ 10 := by
  have usual : 1 ≤ (viewDefault req.viewType).2 ∧ (viewDefault req.viewType).2 ≤ 10 := by
    cases req.viewType <;> decide
  unfold requestedDepth
  split
  · rename_i depth given
    split
    · exact usual
    · exact req.bounded given
  · exact usual

theorem projectView_eq (caller : Caller) (grants : List ScopeGrant) (req : TopologyProjectionRequest) (world : TopologyWorld) :
    projectView caller grants req world = .ok (graphView caller grants req world) := by
  have bounds := requestedDepth_bounded req
  unfold projectView
  dsimp only
  rw [if_neg]
  omega

end CloudLens.Topology
