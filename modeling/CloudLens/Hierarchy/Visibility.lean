import CloudLens.Hierarchy.Search
import CloudLens.Hierarchy.Estate

/-! What a caller can tell of resources outside their scope. The reads that go through the listing
depend on the resources in scope that are on its page; reading a resource by its id does not ask
for the scope at all. -/
namespace CloudLens.Hierarchy
open Library

inductive Read
  | getHierarchyTree (lensType : LateralLensType)
  | getNodeDetail (nodeId : String) (lensType : LateralLensType)
  | searchGlobal (query : String) (limit : ℕ)
  | previewFilterCounts (query : InventoryFilterQuery)
  | queryInventory (query : InventoryFilterQuery) (limit offset : ℕ)
  | exportInventory (query : InventoryFilterQuery) (exportFormat : String)
  | getResourceById (resourceId : String)

inductive Answer
  | tree (root : HierarchyNode)
  | detail (pane : HierarchyDetailPane)
  | search (response : GlobalSearchResponse)
  | preview (counts : FilterCountPreview)
  | inventory (total : ℕ) (resources : List InventoryResource35)
  | export (payload mediaType : String)
  | resource (found : Option InventoryResource35)

/-- What a service reads with beside the table: its budgets, the order of sets and the formats of its exports. -/
structure Setting where
  budgets : Dict String ℚ
  order : SetOrder
  rendering : Rendering

def Inventory.answer (inventory : Inventory) (setting : Setting) (tenantContext : TenantContext) : Read → Answer
  | .getHierarchyTree lensType => .tree (inventory.getHierarchyTree setting.budgets lensType tenantContext)
  | .getNodeDetail nodeId lensType => .detail (inventory.getNodeDetail setting.budgets nodeId lensType tenantContext)
  | .searchGlobal query limit => .search (inventory.searchGlobal setting.order query tenantContext limit)
  | .previewFilterCounts query => .preview (inventory.previewFilterCounts query tenantContext)
  | .queryInventory query limit offset =>
    let (total, resources) := inventory.queryInventory query tenantContext limit offset
    .inventory total resources
  | .exportInventory query exportFormat =>
    let (payload, mediaType) := inventory.exportInventory setting.rendering query exportFormat tenantContext
    .export payload mediaType
  | .getResourceById resourceId => .resource (inventory.getResourceById resourceId tenantContext)

def Inventory.outOfScope (inventory : Inventory) (tenantContext : TenantContext) : List InventoryResource35 :=
  (inventory.ofTenant tenantContext).filter (fun resource => !isResourceInScope tenantContext resource)

def Inventory.hiddenRows (inventory : Inventory) (tenantContext : TenantContext) : List Row :=
  inventory.rows.filter (fun row => !(row.tenantId = tenantContext.tenantId && isResourceInScope tenantContext row.resource))

/-- In two inventories that hold the same in-scope resources, every read answers alike, and no
bulk assignment touches what is hidden. -/
structure Invisible (setting : Setting) (tenantContext : TenantContext) (first second : Inventory) : Prop where
  reads : ∀ read, first.answer setting tenantContext read = second.answer setting tenantContext read
  writes : ∀ request, (first.bulkAssignCuratedFields request tenantContext).2.hiddenRows tenantContext = first.hiddenRows tenantContext

section Listings

variable {first second inventory : Inventory} {tenantContext : TenantContext} {setting : Setting}

theorem scopedResources_eq_take : inventory.scopedResources tenantContext =
    (inventory.inScope tenantContext).take (inventory.scopedResources tenantContext).length :=
  List.prefix_iff_eq_take.mp ((List.take_prefix _ _).filter _)

theorem scopedResources_congr (same : first.inScope tenantContext = second.inScope tenantContext)
    (number : (first.scopedResources tenantContext).length = (second.scopedResources tenantContext).length) :
    first.scopedResources tenantContext = second.scopedResources tenantContext := by
  rw [scopedResources_eq_take,number,same]
  exact scopedResources_eq_take.symm

theorem matching_eq (query : InventoryFilterQuery) : (inventory.listResources tenantContext).filter (matchesFilter query tenantContext) =
    (inventory.scopedResources tenantContext).filter query.accepts := by
  unfold Inventory.scopedResources
  rw [List.filter_filter]
  apply List.filter_congr
  intro resource _
  unfold matchesFilter
  rw [Bool.and_comm]

theorem getResource_eq_some {resourceId : String} {resource : InventoryResource35} :
    inventory.getResource resourceId tenantContext = some resource ↔
      resource ∈ inventory.ofTenant tenantContext ∧ resource.id = resourceId := by
  unfold Inventory.getResource
  constructor
  · intro found
    exact ⟨List.mem_of_find?_eq_some found,by simpa using List.find?_some found⟩
  · rintro ⟨member,rfl⟩
    have present : ((inventory.ofTenant tenantContext).find? (fun other => other.id = resource.id)).isSome :=
      List.find?_isSome.mpr ⟨resource,member,by simp⟩
    obtain ⟨other,found⟩ := Option.isSome_iff_exists.mp present
    have same : other.id = resource.id := by simpa using List.find?_some found
    rw [found,List.inj_on_of_nodup_map ofTenant_keyed (List.mem_of_find?_eq_some found) member same]

theorem mem_ofTenant {resource : InventoryResource35} : resource ∈ inventory.ofTenant tenantContext ↔
    resource ∈ inventory.inScope tenantContext ∨ resource ∈ inventory.outOfScope tenantContext := by
  unfold Inventory.inScope Inventory.outOfScope
  cases seen : isResourceInScope tenantContext resource <;> simp [seen]

theorem answer_congr (same : first.scopedResources tenantContext = second.scopedResources tenantContext)
    (found : ∀ resourceId, first.getResource resourceId tenantContext = second.getResource resourceId tenantContext) (read : Read) :
    first.answer setting tenantContext read = second.answer setting tenantContext read := by
  have matched (query : InventoryFilterQuery) : (first.listResources tenantContext).filter (matchesFilter query tenantContext) =
      (second.listResources tenantContext).filter (matchesFilter query tenantContext) := by
    rw [matching_eq,matching_eq,same]
  have queried (query : InventoryFilterQuery) (limit offset : ℕ) :
      first.queryInventory query tenantContext limit offset = second.queryInventory query tenantContext limit offset := by
    unfold Inventory.queryInventory
    rw [matched]
  have tree (lensType : LateralLensType) : first.getHierarchyTree setting.budgets lensType tenantContext =
      second.getHierarchyTree setting.budgets lensType tenantContext := by
    unfold Inventory.getHierarchyTree
    rw [same]
  cases read with
  | getHierarchyTree lensType => exact congrArg Answer.tree (tree lensType)
  | getNodeDetail nodeId lensType =>
    refine congrArg Answer.detail ?_
    unfold Inventory.getNodeDetail
    rw [tree,same]
  | searchGlobal query limit =>
    refine congrArg Answer.search ?_
    unfold Inventory.searchGlobal
    rw [same]
  | previewFilterCounts query =>
    refine congrArg Answer.preview ?_
    unfold Inventory.previewFilterCounts
    rw [matched]
  | queryInventory query limit offset =>
    exact congrArg (fun found : ℕ × List InventoryResource35 => Answer.inventory found.1 found.2) (queried query limit offset)
  | exportInventory query exportFormat =>
    have written : first.exportInventory setting.rendering query exportFormat tenantContext =
        second.exportInventory setting.rendering query exportFormat tenantContext := by
      unfold Inventory.exportInventory
      rw [queried]
    exact congrArg (fun written : String × String => Answer.export written.1 written.2) written
  | getResourceById resourceId => exact congrArg Answer.resource (found resourceId)

theorem matching_all : (inventory.previewFilterCounts {} tenantContext).matchingCount = (inventory.scopedResources tenantContext).length := by
  change ((inventory.listResources tenantContext).filter (matchesFilter {} tenantContext)).length = _
  rw [matching_eq,List.filter_eq_self.mpr]
  intro resource _
  rfl

end Listings

section Assignments

variable {inventory : Inventory} {tenantContext : TenantContext} {request : BulkAssignmentRequest} {res : InventoryResource35}

theorem hiddenRows_saved {resourceId : String} (found : inventory.getResource resourceId tenantContext = some res)
    (inScope : isResourceInScope tenantContext res = true) :
    (inventory.saveResource (request.assign res)).hiddenRows tenantContext = inventory.hiddenRows tenantContext := by
  obtain ⟨member,_⟩ := getResource_eq_some.mp found
  obtain ⟨holder,held,rfl⟩ := List.mem_map.mp member
  obtain ⟨inside,tenant⟩ := List.mem_filter.mp held
  have only : ∀ row ∈ inventory.rows, row.resource.id = holder.resource.id → row = holder := by
    intro row listed same
    exact List.inj_on_of_nodup_map inventory.keyed listed inside same
  have kept : ∀ row ∈ inventory.rows,
      ((!((row.saved (request.assign holder.resource)).tenantId = tenantContext.tenantId &&
        isResourceInScope tenantContext (row.saved (request.assign holder.resource)).resource)) =
          !(row.tenantId = tenantContext.tenantId && isResourceInScope tenantContext row.resource)) ∧
      ((!(row.tenantId = tenantContext.tenantId && isResourceInScope tenantContext row.resource)) = true →
        row.saved (request.assign holder.resource) = row) := by
    intro row listed
    by_cases same : row.resource.id = holder.resource.id
    · obtain rfl := only row listed same
      have saved : row.saved (request.assign row.resource) = { row with resource := request.assign row.resource } := if_pos rfl
      have still : isResourceInScope tenantContext (request.assign row.resource) = true := inScope
      rw [saved]
      simp [still,inScope,of_decide_eq_true tenant]
    · have saved : row.saved (request.assign holder.resource) = row := if_neg same
      rw [saved]
      exact ⟨rfl,fun _ => rfl⟩
  unfold Inventory.hiddenRows Inventory.saveResource
  dsimp only
  rw [List.filter_map]
  have alike : inventory.rows.filter ((fun row : Row => !(row.tenantId = tenantContext.tenantId &&
      isResourceInScope tenantContext row.resource)) ∘ Row.saved (request.assign holder.resource)) =
      inventory.rows.filter (fun row => !(row.tenantId = tenantContext.tenantId && isResourceInScope tenantContext row.resource)) :=
    List.filter_congr (fun row listed => (kept row listed).1)
  rw [alike]
  refine (List.map_congr_left ?_).trans (List.map_id _)
  intro row filtered
  obtain ⟨listed,hidden⟩ := List.mem_filter.mp filtered
  exact (kept row listed).2 hidden

theorem hiddenRows_assignEach (resourceIds : List String) :
    (inventory.assignEach request tenantContext resourceIds).2.hiddenRows tenantContext = inventory.hiddenRows tenantContext := by
  induction resourceIds generalizing inventory with
  | nil => rfl
  | cons rid rest ih =>
    unfold Inventory.assignEach
    split
    · exact ih
    · rename_i res found
      split
      · rename_i inScope
        exact ih.trans (hiddenRows_saved found inScope)
      · exact ih

end Assignments

/-- A resource out of scope cannot be told exactly where the two inventories hold the same of them
and the listing reaches as many of those in scope. -/
theorem invisible_iff (setting : Setting) (tenantContext : TenantContext) (first second : Inventory)
    (same : first.inScope tenantContext = second.inScope tenantContext) :
    Invisible setting tenantContext first second ↔
      (∀ resource, resource ∈ first.outOfScope tenantContext ↔ resource ∈ second.outOfScope tenantContext) ∧
        (first.scopedResources tenantContext).length = (second.scopedResources tenantContext).length := by
  constructor
  · intro invisible
    have found (resourceId : String) : first.getResource resourceId tenantContext = second.getResource resourceId tenantContext :=
      Answer.resource.inj (invisible.reads (.getResourceById resourceId))
    have moved {here there : Inventory} (found : ∀ resourceId, here.getResource resourceId tenantContext =
        there.getResource resourceId tenantContext) (resource : InventoryResource35) (member : resource ∈ here.outOfScope tenantContext) :
        resource ∈ there.outOfScope tenantContext := by
      have held : here.getResource resource.id tenantContext = some resource :=
        getResource_eq_some.mpr ⟨mem_ofTenant.mpr (Or.inr member),rfl⟩
      rw [found] at held
      exact List.mem_filter.mpr ⟨(getResource_eq_some.mp held).1,(List.mem_filter.mp member).2⟩
    refine ⟨fun resource => ⟨moved found resource,moved (fun id => (found id).symm) resource⟩,?_⟩
    have counted := Answer.preview.inj (invisible.reads (.previewFilterCounts {}))
    rw [← matching_all,← matching_all]
    exact congrArg FilterCountPreview.matchingCount counted
  · rintro ⟨hidden,number⟩
    refine ⟨answer_congr (scopedResources_congr same number) ?_,fun request => hiddenRows_assignEach request.resourceIds⟩
    intro resourceId
    apply Option.ext
    intro resource
    rw [getResource_eq_some,getResource_eq_some,mem_ofTenant,mem_ofTenant,same,hidden]

def lone : Inventory where
  rows := [⟨"t",0,sampleResource "a" "Ada Lee" 10⟩]
  keyed := by decide
  newestFirst := by decide

def shadowed : Inventory where
  rows := [⟨"t",5,{ sampleResource "b" "Bo" 20 with scopeId := "elsewhere" }⟩, ⟨"t",0,sampleResource "a" "Ada Lee" 10⟩]
  keyed := by decide
  newestFirst := by decide

def delayed : Inventory where
  rows := [⟨"t",0,sampleResource "a" "Ada Lee" 10⟩, ⟨"t",-5,{ sampleResource "b" "Bo" 20 with scopeId := "elsewhere" }⟩]
  keyed := by decide
  newestFirst := by decide

def plainSetting : Setting where
  budgets := Dict.empty
  order := ⟨fun members => members,fun _ => List.Perm.refl _⟩
  rendering := ⟨fun resources => ", ".intercalate (resources.map InventoryResource35.id),
    fun resources => "\n".intercalate (resources.map InventoryResource35.id)⟩

theorem creation_time_invisible : Invisible plainSetting sampleCaller shadowed delayed := by
  refine (invisible_iff plainSetting sampleCaller shadowed delayed rfl).mpr ⟨?_,rfl⟩
  intro resource
  exact Iff.rfl

theorem hidden_resource_readable : "*" ∉ sampleCaller.scopeGrants ∧ lone.inScope sampleCaller = shadowed.inScope sampleCaller ∧
    lone.getResourceById "b" sampleCaller = none ∧
    (shadowed.getResourceById "b" sampleCaller).map InventoryResource35.scopeId = some "elsewhere" := by
  refine ⟨?_,?_,?_,?_⟩
  · decide
  · rfl
  · rfl
  · rfl

end CloudLens.Hierarchy
