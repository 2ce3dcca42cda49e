import CloudLens.Hierarchy.Lenses
import CloudLens.Library.Text
import Mathlib.Data.List.Infix

/-! The reads of the inventory beside the trees: filtered counts, queries and exports, the global
search, and single resources; and the bulk assignment of curated fields. -/
namespace CloudLens.Hierarchy
open Library

structure TagFilter where
  key : String
  value : Option String
  operator : String

/-- A list that is absent filters nothing, as an empty one. -/
structure InventoryFilterQuery where
  providers : List String := []
  billingBoundaries : List String := []
  scopeSubtrees : List String := []
  services : List String := []
  categories : List String := []
  resourceTypes : List String := []
  regions : List String := []
  zones : List String := []
  applications : List String := []
  projects : List String := []
  environments : List String := []
  owners : List String := []
  costCenters : List String := []
  businessUnits : List String := []
  tagFilters : List TagFilter := []
  minCost : Option ℚ := none
  maxCost : Option ℚ := none
  thresholdStates : List String := []
  runtimeStates : List String := []
  lifecycleStatuses : List String := []
  search : String := ""

def occursIn (part whole : String) : Bool := part.toList <:+: whole.toList

def anyOf {Member : Type} (selected : List Member) (accepts : Member → Bool) : Bool := selected.isEmpty || selected.any accepts

def named (field : Option String) (wanted : String) : Bool := orElse field "" ≠ "" && field = some wanted

def lastTag (resource : InventoryResource35) (key : String) : Option String :=
  (resource.tags.reverse.find? (fun tag => tag.key = some key)).bind Tag.value

def TagFilter.accepts (resource : InventoryResource35) (tagFilter : TagFilter) : Bool :=
  let present := resource.tags.any (fun tag => tag.key = some tagFilter.key)
  if tagFilter.operator = "exists" then present
  else if tagFilter.operator = "not_exists" then !present
  else if tagFilter.operator = "eq" then lastTag resource tagFilter.key = tagFilter.value
  else if tagFilter.operator = "ne" then lastTag resource tagFilter.key ≠ tagFilter.value
  else true

def searchable (resource : InventoryResource35) : String :=
  (Text.lower (resource.name ++ " " ++ resource.nativeId ++ " " ++ resource.serviceName ++ " " ++ orElse resource.applicationName "" ++ " " ++
    orElse resource.ownerName ""))

def InventoryFilterQuery.accepts (q : InventoryFilterQuery) (resource : InventoryResource35) : Bool :=
  anyOf q.providers (fun p => Text.upper p = Text.upper resource.provider) &&
  anyOf q.billingBoundaries (fun b => occursIn b resource.nativeId || occursIn b resource.scopeId) &&
  anyOf q.scopeSubtrees (fun s => s = resource.scopeId) &&
  anyOf q.services (fun s => s = resource.serviceId || s = resource.serviceName) &&
  anyOf q.categories (fun c => c = resource.serviceCategory) &&
  anyOf q.resourceTypes (fun t => t = resource.resourceType) &&
  anyOf q.regions (fun r => r = resource.regionId) &&
  anyOf q.zones (named resource.availabilityZone) &&
  anyOf q.applications (fun app => occursIn (Text.lower app) (Text.lower (orElse resource.applicationName "")) || some app = resource.applicationId) &&
  anyOf q.projects (fun prj => occursIn (Text.lower prj) (Text.lower (orElse resource.projectName "")) || some prj = resource.projectId) &&
  anyOf q.environments (named resource.environmentName) &&
  anyOf q.owners (fun o => Text.lower o = Text.lower (ownerOf resource)) &&
  anyOf q.costCenters (named resource.costCenterName) &&
  anyOf q.businessUnits (named resource.businessUnitName) &&
  q.minCost.all (fun cost => cost ≤ resource.monthlyCost) &&
  q.maxCost.all (fun cost => resource.monthlyCost ≤ cost) &&
  anyOf q.runtimeStates (fun s => s = resource.runtimeState) &&
  anyOf q.lifecycleStatuses (fun s => s = resource.lifecycleStatus) &&
  anyOf q.thresholdStates (fun s => s = (getResourceThresholdState resource).value) &&
  q.tagFilters.all (TagFilter.accepts resource) &&
  (q.search = "" || occursIn (Text.lower (Text.stripped q.search)) (searchable resource))

def matchesFilter (q : InventoryFilterQuery) (tenantContext : TenantContext) (resource : InventoryResource35) : Bool :=
  isResourceInScope tenantContext resource && q.accepts resource

structure FilterCountPreview where
  matchingCount : ℕ
  totalSpend : ℚ
  currency : String
  countsByProvider : Dict String ℕ
  countsByEnvironment : Dict String ℕ

def Inventory.previewFilterCounts (inventory : Inventory) (query : InventoryFilterQuery) (tenantContext : TenantContext) :
    FilterCountPreview :=
  let matched := (inventory.listResources tenantContext).filter (matchesFilter query tenantContext)
  { matchingCount := matched.length
    totalSpend := (matched.map InventoryResource35.monthlyCost).sum
    currency := "USD"
    countsByProvider := Dict.tally InventoryResource35.provider (fun _ => 1) matched
    countsByEnvironment := Dict.tally environmentOf (fun _ => 1) matched }

def Inventory.queryInventory (inventory : Inventory) (query : InventoryFilterQuery) (tenantContext : TenantContext)
    (limit offset : ℕ) : ℕ × List InventoryResource35 :=
  let matched := ((inventory.listResources tenantContext).filter (matchesFilter query tenantContext)).mergeSort
    (fun a b => decide (a.name ≤ b.name))
  (matched.length, (matched.drop offset).take limit)

structure Rendering where
  json : List InventoryResource35 → String
  csv : List InventoryResource35 → String

def Inventory.exportInventory (inventory : Inventory) (rendering : Rendering) (query : InventoryFilterQuery) (exportFormat : String)
    (tenantContext : TenantContext) : String × String :=
  let (_, resources) := inventory.queryInventory query tenantContext 10000 0
  if Text.lower exportFormat = "json" then (rendering.json resources, "application/json")
  else (rendering.csv resources, "text/csv")

inductive EntityType
  | resource | service | scope | application | budget | owner | connector | policy | alert
  deriving DecidableEq

structure GlobalSearchItem where
  id : String
  entityType : EntityType
  identifier : String
  title : String
  subtitle : String
  provider : Option String := none
  scopeId : String
  rankScore : ℚ := 1/2
  deepLink : String

structure GlobalSearchResponse where
  query : String
  totalMatches : ℕ
  results : List GlobalSearchItem
  isScopeRestricted : Bool

structure SetOrder where
  arrange : {Member : Type} → List Member → List Member
  perm : ∀ {Member : Type} (members : List Member), (arrange members).Perm members

def scopeName (scopeId : String) : String :=
  if scopeId = "sc-aws-prod-1" then "AWS Core Production"
  else if scopeId = "sc-aws-dev-1" then "AWS Dev Sandbox"
  else if scopeId = "sc-azure-prod-1" then "Azure Corporate Production"
  else if scopeId = "sc-gcp-analytics-1" then "GCP Analytics Tier"
  else if scopeId = "sc-oci-core-1" then "OCI Core Infrastructure"
  else scopeId

def resourceItem (r : InventoryResource35) : GlobalSearchItem where
  id := r.id
  entityType := .resource
  identifier := r.nativeId
  title := r.name
  subtitle := r.provider ++ " • " ++ r.serviceName ++ " • " ++ r.regionId
  provider := some r.provider
  scopeId := r.scopeId
  deepLink := "/inventory?resource_id=" ++ r.id

def serviceItems (resources : List InventoryResource35) : List GlobalSearchItem :=
  (Dict.ofPairs (resources.map (fun r => (r.serviceName, r)))).items.map (fun (name, r) =>
    { id := "svc-" ++ r.serviceId
      entityType := .service
      identifier := r.serviceId
      title := name
      subtitle := "Service • Provider: " ++ r.provider
      provider := some r.provider
      scopeId := r.scopeId
      deepLink := "/services?service_id=" ++ r.serviceId })

def scopeItems (resources : List InventoryResource35) : List GlobalSearchItem :=
  (Dict.ofPairs (resources.map (fun r => (r.scopeId, r.provider)))).items.map (fun (sid, prov) =>
    { id := sid
      entityType := .scope
      identifier := sid
      title := scopeName sid
      subtitle := "Scope Boundary • " ++ prov
      provider := some prov
      scopeId := sid
      deepLink := "/hierarchy?scope_id=" ++ sid })

def applicationItems (order : SetOrder) (resources : List InventoryResource35) : List GlobalSearchItem :=
  let applications := (resources.filter (fun r => orElse r.applicationName "" ≠ "")).map
    (fun r => (r.applicationId, orElse r.applicationName "", r.scopeId))
  (order.arrange applications.dedup).map (fun (applicationId, name, scopeId) =>
    { id := orElse applicationId name
      entityType := .application
      identifier := orElse applicationId name
      title := name
      subtitle := "Application System"
      scopeId := scopeId
      deepLink := "/applications?app_id=" ++ orElse applicationId name })

def ownerItems (order : SetOrder) (resources : List InventoryResource35) : List GlobalSearchItem :=
  let owners := (resources.filter (fun r => orElse r.ownerName "" ≠ "")).map
    (fun r => (if orElse r.ownerId "" ≠ "" then r.ownerId else r.ownerEmail, orElse r.ownerName "", r.ownerEmail, r.scopeId))
  (order.arrange owners.dedup).map (fun (ownerId, name, email, scopeId) =>
    { id := orElse ownerId name
      entityType := .owner
      identifier := orElse email name
      title := name
      subtitle := "Resource Owner • " ++ orElse email name
      scopeId := scopeId
      deepLink := "/inventory?owner=" ++ name })

def governanceItems : List GlobalSearchItem :=
  [{ id := "bgt-finops-core"
     entityType := .budget
     identifier := "bgt-finops-core"
     title := "Core FinOps Q4 Budget"
     subtitle := "Financial Control Budget"
     scopeId := "sc-aws-prod-1"
     deepLink := "/budgets?budget_id=bgt-finops-core" },
   { id := "conn-aws-root"
     entityType := .connector
     identifier := "conn-aws-root"
     title := "AWS Multi-Account Connector"
     subtitle := "Cloud Connector • AWS"
     provider := some "AWS"
     scopeId := "sc-aws-prod-1"
     deepLink := "/connectors?connector_id=conn-aws-root" },
   { id := "pol-tag-req"
     entityType := .policy
     identifier := "pol-tag-req"
     title := "Mandatory FinOps Tagging Policy"
     subtitle := "Governance Tag & Cost Policy"
     scopeId := "sc-aws-prod-1"
     deepLink := "/policies?policy_id=pol-tag-req" },
   { id := "alt-aws-spike"
     entityType := .alert
     identifier := "alt-aws-spike"
     title := "EC2 Cost Velocity Anomaly Alert"
     subtitle := "Anomaly & Threshold Alert"
     scopeId := "sc-aws-prod-1"
     deepLink := "/alerts?alert_id=alt-aws-spike" }]

def searchEntities (order : SetOrder) (resources : List InventoryResource35) : List GlobalSearchItem :=
  resources.map resourceItem ++ serviceItems resources ++ scopeItems resources ++ applicationItems order resources ++
    ownerItems order resources ++ (if resources.any (fun r => r.scopeId = "sc-aws-prod-1") then governanceItems else [])

def rankOf (lowerQuery : String) (item : GlobalSearchItem) : Option ℚ :=
  let identifier := Text.lower item.identifier
  let title := Text.lower item.title
  if lowerQuery = identifier ∨ lowerQuery = Text.lower item.id then some 1
  else if lowerQuery = title then some (9/10)
  else if lowerQuery.toList <+: identifier.toList ∨ lowerQuery.toList <+: title.toList then some (3/4)
  else if occursIn lowerQuery identifier || occursIn lowerQuery title || occursIn lowerQuery (Text.lower item.subtitle) then some (1/2)
  else none

def Inventory.searchGlobal (inventory : Inventory) (order : SetOrder) (query : String) (tenantContext : TenantContext) (limit : ℕ) :
    GlobalSearchResponse :=
  let isRestricted : Bool := "*" ∉ tenantContext.scopeGrants
  if Text.stripped query = "" then ⟨query,0,[],isRestricted⟩
  else
    let visible := (searchEntities order (inventory.scopedResources tenantContext)).filter
      (fun item => !(isRestricted && item.scopeId ∉ tenantContext.scopeGrants))
    let matched := visible.filterMap
      (fun item => (rankOf (Text.lower (Text.stripped query)) item).map (fun score => { item with rankScore := score }))
    let sorted := matched.mergeSort
      (fun a b => decide (b.rankScore < a.rankScore ∨ (a.rankScore = b.rankScore ∧ a.title ≤ b.title)))
    ⟨query,matched.length,sorted.take limit,isRestricted⟩

def Inventory.getResourceById (inventory : Inventory) (resourceId : String) (tenantContext : TenantContext) : Option InventoryResource35 :=
  inventory.getResource resourceId tenantContext

structure BulkAssignmentRequest where
  resourceIds : List String
  ownerName : Option String
  ownerEmail : Option String
  applicationName : Option String
  environmentName : Option String
  costCenter : Option String

def BulkAssignmentRequest.assign (request : BulkAssignmentRequest) (res : InventoryResource35) : InventoryResource35 :=
  { res with
    ownerName := request.ownerName.or res.ownerName
    ownerEmail := request.ownerEmail.or res.ownerEmail
    applicationName := request.applicationName.or res.applicationName
    environmentName := request.environmentName.or res.environmentName
    costCenterName := request.costCenter.or res.costCenterName }

def BulkAssignmentRequest.modifiedFields (request : BulkAssignmentRequest) : List String :=
  [(request.ownerName, "owner_name"), (request.ownerEmail, "owner_email"), (request.applicationName, "application_name"),
    (request.environmentName, "environment_name"), (request.costCenter, "cost_center_name")].filterMap
    (fun (given, field) => given.map (fun _ => field))

def Row.saved (resource : InventoryResource35) (row : Row) : Row :=
  if row.resource.id = resource.id then { row with resource := resource } else row

theorem saved_id (resource : InventoryResource35) (row : Row) : (row.saved resource).resource.id = row.resource.id := by
  unfold Row.saved
  split
  · rename_i same
    exact same.symm
  · rfl

theorem saved_createdAt (resource : InventoryResource35) (row : Row) : (row.saved resource).createdAt = row.createdAt := by
  unfold Row.saved
  split <;> rfl

/-- Saves a resource whose row exists; the row keeps its place and its own columns. -/
def Inventory.saveResource (inventory : Inventory) (resource : InventoryResource35) : Inventory where
  rows := inventory.rows.map (Row.saved resource)
  keyed := by
    rw [List.map_map]
    simpa only [Function.comp_def,saved_id] using inventory.keyed
  newestFirst := by
    rw [List.pairwise_map]
    simpa only [saved_createdAt] using inventory.newestFirst

structure BulkAssignmentResponse where
  updatedCount : ℕ
  modifiedFields : List String

def Inventory.assignEach (request : BulkAssignmentRequest) (tenantContext : TenantContext) : List String → Inventory → ℕ × Inventory
  | [], inventory => (0, inventory)
  | rid :: rest, inventory =>
    match inventory.getResource rid tenantContext with
    | none => inventory.assignEach request tenantContext rest
    | some res =>
      if isResourceInScope tenantContext res then
        let (updated, after) := (inventory.saveResource (request.assign res)).assignEach request tenantContext rest
        (updated + 1, after)
      else inventory.assignEach request tenantContext rest

def Inventory.bulkAssignCuratedFields (inventory : Inventory) (request : BulkAssignmentRequest) (tenantContext : TenantContext) :
    BulkAssignmentResponse × Inventory :=
  let (updated, after) := inventory.assignEach request tenantContext request.resourceIds
  (⟨updated,request.modifiedFields⟩, after)

end CloudLens.Hierarchy
