import CloudLens.Library.Calendar
import CloudLens.Library.Decimal
import CloudLens.Library.Dict

/-! Inventory resources, the table they are stored in, and the nodes of a hierarchy tree with the
figures that roll up to them. The table lists its rows from the newest to the oldest; rows
created at the same moment stand in the order in which the database returns them. -/
namespace CloudLens.Hierarchy
open Library Library.Calendar

inductive HierarchyLevel
  | provider | organisation | group | billingBoundary | subGroup | service | resource
  deriving DecidableEq

inductive LateralLensType
  | providerHierarchy | application | costCentre | environment | owner | region | tag
  deriving DecidableEq

inductive ThresholdState
  | normal | warning | critical
  deriving DecidableEq

def ThresholdState.value : ThresholdState → String
  | normal => "NORMAL"
  | warning => "WARNING"
  | critical => "CRITICAL"

structure Tag where
  key : Option String
  value : Option String
  deriving DecidableEq

structure InventoryResource35 where
  id : String
  tenantId : String
  scopeId : String
  nativeId : String
  name : String
  provider : String
  serviceId : String
  serviceName : String
  serviceCategory : String
  resourceTypeId : String
  resourceType : String
  regionId : String
  regionName : String
  availabilityZone : Option String
  pricingStatus : String
  runtimeState : String
  lifecycleStatus : String
  tags : List Tag
  applicationId : Option String
  applicationName : Option String
  environmentId : Option String
  environmentName : Option String
  ownerId : Option String
  ownerName : Option String
  ownerEmail : Option String
  costCenterId : Option String
  costCenterName : Option String
  businessUnitId : Option String
  businessUnitName : Option String
  projectId : Option String
  projectName : Option String
  monthlyCost : ℚ
  currency : String
  lastSyncedAt : Instant
  createdAt : Instant
  deriving DecidableEq

structure TenantContext where
  tenantId : String
  scopeGrants : List String

structure Row where
  tenantId : String
  createdAt : Instant
  resource : InventoryResource35

structure Inventory where
  rows : List Row
  keyed : (rows.map (fun row => row.resource.id)).Nodup
  newestFirst : rows.Pairwise (fun a b => b.createdAt ≤ a.createdAt)

def pageLimit : ℕ := 1000

def Inventory.ofTenant (inventory : Inventory) (tenantContext : TenantContext) : List InventoryResource35 :=
  (inventory.rows.filter (fun row => row.tenantId = tenantContext.tenantId)).map Row.resource

def Inventory.listResources (inventory : Inventory) (tenantContext : TenantContext) : List InventoryResource35 :=
  (inventory.ofTenant tenantContext).take pageLimit

def Inventory.getResource (inventory : Inventory) (resourceId : String) (tenantContext : TenantContext) : Option InventoryResource35 :=
  (inventory.ofTenant tenantContext).find? (fun resource => resource.id = resourceId)

def isResourceInScope (tenantContext : TenantContext) (resource : InventoryResource35) : Bool :=
  resource.tenantId = tenantContext.tenantId && ("*" ∈ tenantContext.scopeGrants || resource.scopeId ∈ tenantContext.scopeGrants)

def Inventory.scopedResources (inventory : Inventory) (tenantContext : TenantContext) : List InventoryResource35 :=
  (inventory.listResources tenantContext).filter (isResourceInScope tenantContext)

def Inventory.inScope (inventory : Inventory) (tenantContext : TenantContext) : List InventoryResource35 :=
  (inventory.ofTenant tenantContext).filter (isResourceInScope tenantContext)

def getResourceThresholdState (resource : InventoryResource35) : ThresholdState :=
  if 1000 ≤ resource.monthlyCost then .critical
  else if 400 ≤ resource.monthlyCost then .warning
  else .normal

def combineThresholdStates (states : List ThresholdState) : ThresholdState :=
  if .critical ∈ states then .critical
  else if .warning ∈ states then .warning
  else .normal

structure Spec where
  id : String
  name : String
  level : HierarchyLevel
  lensType : LateralLensType
  provider : Option String := none
  nativeType : Option String := none
  scopeId : Option String := none
  metadata : List (String × Option String) := []
  deriving DecidableEq

structure RollUp where
  aggregateCost : ℚ
  budgetAmount : ℚ
  budgetUtilisationPct : ℚ
  worstChildThresholdState : ThresholdState
  directResourceCount : ℕ
  totalDescendantResourceCount : ℕ
  childCount : ℕ
  deriving DecidableEq

inductive HierarchyNode
  | node (spec : Spec) (rollUp : RollUp) (children : List HierarchyNode)

namespace HierarchyNode

def spec : HierarchyNode → Spec
  | node spec _ _ => spec

def rollUp : HierarchyNode → RollUp
  | node _ rollUp _ => rollUp

def children : HierarchyNode → List HierarchyNode
  | node _ _ children => children

def id (n : HierarchyNode) : String := n.spec.id

def aggregateCost (n : HierarchyNode) : ℚ := n.rollUp.aggregateCost

def totalDescendantResourceCount (n : HierarchyNode) : ℕ := n.rollUp.totalDescendantResourceCount

def worstChildThresholdState (n : HierarchyNode) : ThresholdState := n.rollUp.worstChildThresholdState

@[simp] theorem id_node (spec : Spec) (rollUp : RollUp) (children : List HierarchyNode) : (node spec rollUp children).id = spec.id := rfl

def isResource (n : HierarchyNode) : Bool := n.spec.level = .resource

end HierarchyNode

def utilisation (cost budget : ℚ) : ℚ := if 0 < budget then Decimal.quantize 2 (cost / budget * 100) else 0

def resourceToLeaf (resource : InventoryResource35) : HierarchyNode :=
  .node
    { id := resource.id
      name := resource.name
      level := .resource
      lensType := .providerHierarchy
      provider := some resource.provider
      nativeType := some resource.resourceType
      scopeId := some resource.scopeId
      metadata := [("native_id", some resource.nativeId), ("service_id", some resource.serviceId), ("region", some resource.regionId),
        ("runtime_state", some resource.runtimeState), ("owner", resource.ownerName)] }
    { aggregateCost := resource.monthlyCost
      budgetAmount := 0
      budgetUtilisationPct := 0
      worstChildThresholdState := getResourceThresholdState resource
      directResourceCount := 1
      totalDescendantResourceCount := 1
      childCount := 0 }
    []

def groupNode (spec : Spec) (budget : ℚ) (resources : List InventoryResource35) (leaves : List HierarchyNode) : HierarchyNode :=
  let cost := (resources.map InventoryResource35.monthlyCost).sum
  .node spec
    { aggregateCost := cost
      budgetAmount := budget
      budgetUtilisationPct := utilisation cost budget
      worstChildThresholdState := combineThresholdStates (leaves.map HierarchyNode.worstChildThresholdState)
      directResourceCount := leaves.length
      totalDescendantResourceCount := leaves.length
      childCount := leaves.length }
    leaves

def parentNode (spec : Spec) (budget : ℚ) (children : List HierarchyNode) : HierarchyNode :=
  let cost := (children.map HierarchyNode.aggregateCost).sum
  .node spec
    { aggregateCost := cost
      budgetAmount := budget
      budgetUtilisationPct := utilisation cost budget
      worstChildThresholdState := combineThresholdStates (children.map HierarchyNode.worstChildThresholdState)
      directResourceCount := 0
      totalDescendantResourceCount := (children.map HierarchyNode.totalDescendantResourceCount).sum
      childCount := children.length }
    children

def orElse (text : Option String) (other : String) : String :=
  match text with
  | some text => if text = "" then other else text
  | none => other

def dashed (text : String) : String := String.ofList (text.toList.map (fun c => if c = ' ' then '-' else c))

end CloudLens.Hierarchy
