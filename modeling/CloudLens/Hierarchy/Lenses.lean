import CloudLens.Library.Casing
import CloudLens.Hierarchy.Model
import CloudLens.Library.Outline

/-! The seven lenses on an estate. Each groups the resources by its own names, level below level,
and gives each group a node whose id is made of the names that lead to it; the lens of the
providers puts a provider's fixed organisation between the provider and its services. -/
namespace CloudLens.Hierarchy
open Library Library.Outline

/-- How a lens groups resources, the node it makes for a path of names, where the empty path is
the root, and the budget of that node, given the resources of the group. -/
structure Lens where
  plan : Plan InventoryResource35
  node : List String → Spec
  budget : List String → List InventoryResource35 → ℚ

def Lens.branch (lens : Lens) (path : List String) (lowest : Bool) (resources : List InventoryResource35)
    (children : List HierarchyNode) : HierarchyNode :=
  if lowest then groupNode (lens.node path) (lens.budget path resources) resources children
  else parentNode (lens.node path) (lens.budget path resources) children

def Lens.tree (lens : Lens) (resources : List InventoryResource35) : HierarchyNode :=
  parentNode (lens.node []) (lens.budget [] resources) (outline resourceToLeaf lens.branch lens.plan [] resources)

structure Subtree where
  chain : List Spec
  provider : String
  serviceId : String
  serviceType : String

def Subtree.plan (subtree : Subtree) : Plan InventoryResource35 :=
  subtree.chain.foldr (fun spec below => .each [spec.name] (fun _ => below)) (.per InventoryResource35.serviceName (fun _ => .items))

def Subtree.service (subtree : Subtree) (name : String) : Spec where
  id := subtree.serviceId ++ Text.lower (dashed name)
  name := name
  level := .service
  lensType := .providerHierarchy
  provider := some subtree.provider
  nativeType := some subtree.serviceType

def Subtree.node (subtree : Subtree) (path : List String) : Spec :=
  match subtree.chain[path.length - 1]? with
  | some spec => spec
  | none => subtree.service (path.getLast?.getD "")

def organisationNode (provider id name : String) (level : HierarchyLevel) (nativeType : String) (scopeId : Option String) : Spec where
  id := id
  name := name
  level := level
  lensType := .providerHierarchy
  provider := some provider
  nativeType := some nativeType
  scopeId := scopeId

def awsSubtree : Subtree where
  chain := [organisationNode "AWS" "aws-org-root" "o-enterprise-root" .organisation "Organization" none,
    organisationNode "AWS" "aws-ou-core-workloads" "ou-core-workloads" .group "OrganizationalUnit" none,
    organisationNode "AWS" "aws-acct-112233440001" "112233440001 (Core Workloads)" .billingBoundary "Account" (some "sc-aws-prod-1")]
  provider := "AWS"
  serviceId := "aws-svc-"
  serviceType := "AWSService"

def azureSubtree : Subtree where
  chain := [organisationNode "Azure" "az-tenant-root" "t-azure-enterprise" .organisation "Tenant" none,
    organisationNode "Azure" "az-mg-finops" "mg-finops-tier-0" .group "ManagementGroup" none,
    organisationNode "Azure" "az-sub-prod-0001" "sub-prod-0001 (Production)" .billingBoundary "Subscription" (some "sc-azure-prod-1"),
    organisationNode "Azure" "az-rg-workload-001" "rg-workload-001" .subGroup "ResourceGroup" none]
  provider := "Azure"
  serviceId := "az-svc-"
  serviceType := "AzureService"

def gcpSubtree : Subtree where
  chain := [organisationNode "GCP" "gcp-org-root" "org-gcp-enterprise" .organisation "Organization" none,
    organisationNode "GCP" "gcp-folder-data" "folder-data-tier" .group "Folder" none,
    organisationNode "GCP" "gcp-prj-finops-0001" "prj-finops-0001" .billingBoundary "Project" (some "sc-gcp-analytics-1")]
  provider := "GCP"
  serviceId := "gcp-svc-"
  serviceType := "GCPService"

def ociSubtree : Subtree where
  chain := [organisationNode "OCI" "oci-tenancy-root" "ocid1.tenancy.oc1..enterprise" .organisation "Tenancy" none,
    organisationNode "OCI" "oci-comp-core" "core-compartment" .group "Compartment" none,
    organisationNode "OCI" "oci-comp-sub0001" "sub-compartment-0001" .billingBoundary "Compartment" (some "sc-oci-core-1"),
    organisationNode "OCI" "oci-subcomp-micro" "micro-tier" .subGroup "Subcompartment" none]
  provider := "OCI"
  serviceId := "oci-svc-"
  serviceType := "OCIService"

/-- Any provider that is none of the other three is shown as OCI. -/
def subtreeOf (provider : String) : Subtree :=
  if Text.upper provider = "AWS" then awsSubtree
  else if Text.upper provider = "AZURE" then azureSubtree
  else if Text.upper provider = "GCP" then gcpSubtree
  else ociSubtree

def providerHierarchyLens (budgets : Dict String ℚ) : Lens where
  plan := .per InventoryResource35.provider (fun provider => (subtreeOf provider).plan)
  node
    | [] =>
      { id := "root-estate"
        name := "Global Cloud Estate"
        level := .organisation
        lensType := .providerHierarchy
        nativeType := some "EnterpriseEstate"
        metadata := [("description", some "Enterprise multi-cloud global estate root")] }
    | [provider] =>
      { id := "prov-" ++ Text.lower provider
        name := provider
        level := .provider
        lensType := .providerHierarchy
        provider := some provider
        nativeType := some "CloudProvider"
        metadata := [("provider", some provider)] }
    | provider :: below => (subtreeOf provider).node below
  budget
    | [], _ => (budgets.get "GLOBAL").getD 0
    | [provider], _ => (budgets.get provider).getD 0
    | _, _ => 0

def lensNode (lensType : LateralLensType) (level : HierarchyLevel) (id name : String) : Spec where
  id := id
  name := name
  level := level
  lensType := lensType

def applicationOf (resource : InventoryResource35) : String := orElse resource.applicationName "Unassigned"

def environmentOf (resource : InventoryResource35) : String := orElse resource.environmentName "Unassigned"

def costCentreOf (resource : InventoryResource35) : String := orElse resource.costCenterName "Unallocated"

def projectOf (resource : InventoryResource35) : String := orElse resource.projectName "Unassigned"

def ownerOf (resource : InventoryResource35) : String := orElse resource.ownerName "Unowned"

def tagOf (key : String) (resource : InventoryResource35) : String :=
  ((resource.tags.find? (fun tag => tag.key = some key)).bind Tag.value).getD "(Untagged)"

/-- The budget of an application is filed under the id that its first resource gives it. -/
def applicationBudget (budgets : Dict String ℚ) (app : String) (resources : List InventoryResource35) : ℚ :=
  (budgets.get (orElse (resources.head?.bind InventoryResource35.applicationId) ("app-" ++ Text.lower app))).getD 0

def applicationLens (budgets : Dict String ℚ) : Lens where
  plan := .per applicationOf (fun _ => .per environmentOf (fun _ => .per InventoryResource35.serviceName (fun _ => .items)))
  node
    | [app] => lensNode .application .group ("lens-app-" ++ dashed (Text.lower app)) app
    | [app, env] => lensNode .application .subGroup ("app-" ++ Text.lower app ++ "-env-" ++ Text.lower env) env
    | [app, env, svc] =>
      lensNode .application .service ("app-" ++ Text.lower app ++ "-env-" ++ Text.lower env ++ "-svc-" ++ dashed (Text.lower svc)) svc
    | _ => lensNode .application .organisation "lens-root-application" "Estate by Application"
  budget
    | [app], resources => applicationBudget budgets app resources
    | _, _ => 0

def costCentreLens : Lens where
  plan := .per costCentreOf (fun _ => .per projectOf (fun _ => .items))
  node
    | [cc] => lensNode .costCentre .group ("lens-cc-" ++ dashed (Text.lower cc)) cc
    | [cc, prj] => lensNode .costCentre .subGroup ("cc-" ++ Text.lower cc ++ "-prj-" ++ dashed (Text.lower prj)) prj
    | _ => lensNode .costCentre .organisation "lens-root-cost-centre" "Estate by Cost Centre"
  budget _ _ := 0

def environmentLens : Lens where
  plan := .per environmentOf (fun _ => .per applicationOf (fun _ => .items))
  node
    | [env] => lensNode .environment .group ("lens-env-" ++ Text.lower env) env
    | [env, app] => lensNode .environment .subGroup ("env-" ++ Text.lower env ++ "-app-" ++ dashed (Text.lower app)) app
    | _ => lensNode .environment .organisation "lens-root-environment" "Estate by Environment"
  budget _ _ := 0

def ownerLens : Lens where
  plan := .per ownerOf (fun _ => .items)
  node
    | [owner] => lensNode .owner .group ("lens-owner-" ++ dashed (Text.lower owner)) owner
    | _ => lensNode .owner .organisation "lens-root-owner" "Estate by Owner"
  budget _ _ := 0

def regionLens : Lens where
  plan := .per InventoryResource35.regionId (fun _ => .per InventoryResource35.serviceName (fun _ => .items))
  node
    | [reg] => lensNode .region .group ("lens-reg-" ++ reg) reg
    | [reg, svc] => lensNode .region .service ("reg-" ++ reg ++ "-svc-" ++ dashed (Text.lower svc)) svc
    | _ => lensNode .region .organisation "lens-root-region" "Estate by Region"
  budget _ _ := 0

def tagKeys : List String := ["CostCenter", "Environment", "Owner", "Project"]

/-- Every resource is shown under each key, by its value or as untagged. -/
def tagLens : Lens where
  plan := .each tagKeys (fun key => .per (tagOf key) (fun _ => .items))
  node
    | [key] => lensNode .tag .group ("lens-tag-" ++ Text.lower key) ("Tag: " ++ key)
    | [key, val] => lensNode .tag .subGroup ("tag-" ++ Text.lower key ++ "-val-" ++ dashed (Text.lower val)) val
    | _ => lensNode .tag .organisation "lens-root-tag" "Estate by Tag Key"
  budget _ _ := 0

def lensOf (budgets : Dict String ℚ) : LateralLensType → Lens
  | .providerHierarchy => providerHierarchyLens budgets
  | .application => applicationLens budgets
  | .costCentre => costCentreLens
  | .environment => environmentLens
  | .owner => ownerLens
  | .region => regionLens
  | .tag => tagLens

def Inventory.getHierarchyTree (inventory : Inventory) (budgets : Dict String ℚ) (lensType : LateralLensType)
    (tenantContext : TenantContext) : HierarchyNode :=
  (lensOf budgets lensType).tree (inventory.scopedResources tenantContext)

mutual

def HierarchyNode.findNode (targetId : String) : HierarchyNode → Option (List HierarchyNode)
  | .node spec rollUp children =>
    if spec.id = targetId then some [.node spec rollUp children]
    else (findAmong targetId children).map (List.cons (.node spec rollUp children))

def findAmong (targetId : String) : List HierarchyNode → Option (List HierarchyNode)
  | [] => none
  | child :: rest => (child.findNode targetId).or (findAmong targetId rest)

end

mutual

def HierarchyNode.collectLeaves : HierarchyNode → List String
  | .node spec _ children => if spec.level = .resource then [spec.id] else collectAmong children

def collectAmong : List HierarchyNode → List String
  | [] => []
  | child :: rest => child.collectLeaves ++ collectAmong rest

end

structure HierarchyDetailPane where
  nodeId : String
  name : String
  lensType : LateralLensType
  level : HierarchyLevel
  provider : Option String
  nativeType : Option String
  aggregateCost : ℚ
  budgetAmount : ℚ
  budgetUtilisationPct : ℚ
  thresholdState : ThresholdState
  directResources : List InventoryResource35
  topContributingServices : List (String × ℚ)
  breadcrumbs : List String

def HierarchyNode.pane (found : HierarchyNode) (lensType : LateralLensType) (resources : List InventoryResource35)
    (breadcrumbs : List String) : HierarchyDetailPane :=
  let matched := resources.filter (fun resource => resource.id ∈ found.collectLeaves)
  let contributions := Dict.tally InventoryResource35.serviceName InventoryResource35.monthlyCost matched
  { nodeId := found.spec.id
    name := found.spec.name
    lensType := lensType
    level := found.spec.level
    provider := found.spec.provider
    nativeType := found.spec.nativeType
    aggregateCost := found.rollUp.aggregateCost
    budgetAmount := found.rollUp.budgetAmount
    budgetUtilisationPct := found.rollUp.budgetUtilisationPct
    thresholdState := found.rollUp.worstChildThresholdState
    directResources := matched.take 20
    topContributingServices := (contributions.items.mergeSort (fun a b => decide (b.2 ≤ a.2))).take 5
    breadcrumbs := breadcrumbs }

def Inventory.getNodeDetail (inventory : Inventory) (budgets : Dict String ℚ) (nodeId : String) (lensType : LateralLensType)
    (tenantContext : TenantContext) : HierarchyDetailPane :=
  let tree := inventory.getHierarchyTree budgets lensType tenantContext
  let path := (tree.findNode nodeId).getD [tree]
  (path.getLast?.getD tree).pane lensType (inventory.scopedResources tenantContext) (path.map (fun n => n.spec.name))

end CloudLens.Hierarchy
