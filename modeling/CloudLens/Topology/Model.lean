import CloudLens.Cost.Facts
import CloudLens.Dependency.Model
import CloudLens.Library.Dict

/-! Nodes and edges of a topology view, and the telemetry a node is enriched
with. The enrichment reads the type and the identifier of an entity, never its
name. -/
namespace CloudLens.Topology
open Cost Dependency Library

inductive TopologyBudgetStatus where
  | ok
  | warn
  | breach
  | notConfigured
  deriving DecidableEq

inductive NodeScheduleState where
  | runningOnSchedule
  | runningOutsideSchedule
  | idle
  | orphaned
  | unknown
  deriving DecidableEq

inductive ThresholdBadge where
  | green
  | amber
  | red
  deriving DecidableEq

inductive NodeCostTrend where
  | up
  | down
  | stable
  deriving DecidableEq

inductive TopologyPricingClassification where
  | onDemand
  | spot
  | reserved
  | savingsPlan
  | unknown
  deriving DecidableEq

structure NodeEnrichmentData where
  status : String := "RUNNING"
  cost : ℚ := 0
  currency : String := "USD"
  budgetUtilisationPct : Option ℚ := none
  budgetStatus : TopologyBudgetStatus := .ok
  runtimeState : NodeScheduleState := .runningOnSchedule
  usage : List (String × ℚ) := []
  thresholdState : ThresholdBadge := .green
  costTrend : NodeCostTrend := .stable
  costTrendPct : Option ℚ := some 0
  forecastCost : Option ℚ := none
  pricingClassification : TopologyPricingClassification := .onDemand
  owner : Option String := none
  businessUnit : Option String := none
  costCenter : Option String := none
  provider : Option String := some "aws"
  tags : List (String × String) := []
  deriving DecidableEq

structure TopologyNode where
  id : String
  entityRef : TypedEntityRef
  displayName : String
  depth : ℕ := 0
  isRoot : Bool := false
  isRestricted : Bool := false
  isClustered : Bool := false
  clusteredNodeIds : List String := []
  clusterCount : ℕ := 1
  collapsed : Bool := false
  enrichment : Option NodeEnrichmentData := none
  directCost : ℚ := 0
  attributedChainCost : ℚ := 0
  costSharePct : ℚ := 0
  isSharedService : Bool := false
  apportionedSharePct : ℚ := 100
  deriving DecidableEq

structure TopologyEdge where
  edgeId : String
  sourceId : String
  targetId : String
  relationshipType : RelationshipType
  direction : DependencyDirection := .outbound
  criticality : EdgeCriticality := .medium
  confidence : EdgeConfidenceLevel := .high
  isRestricted : Bool := false
  billingAttributes : Option BillingAttributes := none
  deriving DecidableEq

structure Telemetry where
  provider : Option String := none
  tags : Option (List (String × String)) := none
  owner : Option String := none
  costCenter : Option String := none
  businessUnit : Option String := none
  cost : Option ℚ := none
  pricingClassification : Option TopologyPricingClassification := none
  budgetUtilisationPct : Option ℚ := none
  budgetStatus : Option TopologyBudgetStatus := none
  thresholdState : Option ThresholdBadge := none
  costTrend : Option NodeCostTrend := none
  costTrendPct : Option ℚ := none
  forecastCost : Option ℚ := none
  runtimeState : Option NodeScheduleState := none
  usage : Option (List (String × ℚ)) := none
  status : Option String := none

structure NodeEnrichmentService where
  repoCost : Option (EntityReferenceType → String → ℚ × Option TopologyPricingClassification) := none

/-- The first text that is present and not empty, else the last one as it is. -/
def firstText : List (Option String) → Option String
  | [] => none
  | [last] => last
  | text :: rest => if text.any (fun t => t ≠ "") then text else firstText rest

def defaultUsage : List (String × ℚ) :=
  [("cpu_utilization", 85/2), ("memory_utilization", 306/5), ("storage_bytes", 107374182400)]

def budgetStatusOf (utilisation : Option ℚ) : TopologyBudgetStatus :=
  match utilisation with
  | none => .ok
  | some pct => if 100 ≤ pct then .breach else if 70 ≤ pct then .warn else .ok

def thresholdOf : TopologyBudgetStatus → ThresholdBadge
  | .breach => .red
  | .warn => .amber
  | _ => .green

def periodCost (service : NodeEnrichmentService) (type : EntityReferenceType) (id : String) (custom : Telemetry) :
    ℚ × TopologyPricingClassification :=
  match custom.cost, service.repoCost with
  | some cost, _ => (cost, .onDemand)
  | none, some repoCost => ((repoCost type id).1, (repoCost type id).2.getD .onDemand)
  | none, none => (0, .onDemand)

def enrichNode (service : NodeEnrichmentService) (currency : String) (type : EntityReferenceType) (id : String)
    (custom : Telemetry) : NodeEnrichmentData :=
  let tags := custom.tags.getD []
  let budgetStatus := custom.budgetStatus.getD (budgetStatusOf custom.budgetUtilisationPct)
  let spend := periodCost service type id custom
  { status := custom.status.getD "RUNNING"
    cost := roundCurrency spend.1
    currency := currency
    budgetUtilisationPct := custom.budgetUtilisationPct
    budgetStatus := budgetStatus
    runtimeState := custom.runtimeState.getD .runningOnSchedule
    usage := custom.usage.getD defaultUsage
    thresholdState := custom.thresholdState.getD (thresholdOf budgetStatus)
    costTrend := custom.costTrend.getD .stable
    costTrendPct := some (custom.costTrendPct.getD 0)
    forecastCost :=
      match custom.forecastCost with
      | some forecast => some forecast
      | none => if 0 < spend.1 then some (roundCurrency (spend.1 * (27/25))) else none
    pricingClassification := custom.pricingClassification.getD spend.2
    owner := firstText [custom.owner, tags.lookup "owner", tags.lookup "Owner", tags.lookup "Team"]
    businessUnit := firstText [custom.businessUnit, tags.lookup "business_unit", tags.lookup "BusinessUnit"]
    costCenter := firstText [custom.costCenter, tags.lookup "cost_center", tags.lookup "CostCenter"]
    provider := some (custom.provider.getD "aws")
    tags := tags }

abbrev Enrichment : Type := EntityReferenceType → String → NodeEnrichmentData

/-- The views hand the enrichment the costs given for the nodes and nothing else. -/
def customEnrichment (service : NodeEnrichmentService) (customNodeCosts : String → Option ℚ) (currency : String) :
    Enrichment :=
  fun type id => enrichNode service currency type id { cost := customNodeCosts id }

theorem customEnrichment_cost (customNodeCosts : String → Option ℚ) (currency : String) (type : EntityReferenceType)
    (id : String) :
    (customEnrichment {} customNodeCosts currency type id).cost = roundCurrency ((customNodeCosts id).getD 0) := by
  unfold customEnrichment enrichNode periodCost
  cases customNodeCosts id <;> rfl

def enrichRef (enrich : Enrichment) (ref : TypedEntityRef) : NodeEnrichmentData := enrich ref.entityType ref.entityId

def displayName (ref : TypedEntityRef) : String :=
  match ref.name with
  | some name => if name = "" then ref.entityId else name
  | none => ref.entityId

def entityMap (edges : List DependencyEdge) : Dict String TypedEntityRef :=
  edges.foldl (fun known edge => (known.assign edge.sourceId edge.sourceRef).assign edge.targetId edge.targetRef) Dict.empty

theorem get_entityMap (edges : List DependencyEdge) {id : String} {ref : TypedEntityRef}
    (held : (entityMap edges).get id = some ref) : ref.entityId = id := by
  unfold entityMap at held
  induction edges using List.reverseRecOn with
  | nil => cases held
  | append_singleton rest edge ih =>
    rw [List.foldl_append,List.foldl_cons,List.foldl_nil,Dict.get_assign,Dict.get_assign] at held
    split at held
    · rename_i same
      cases held
      exact same.symm
    · split at held
      · rename_i same
        cases held
        exact same.symm
      · exact ih held

end CloudLens.Topology
