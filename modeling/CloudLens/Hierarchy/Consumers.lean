import CloudLens.Hierarchy.Estate
import CloudLens.Hierarchy.Search
import CloudLens.Library.Pages

/-! Preview, pages and export of the inventory. Each request lists the newest rows of the
tenant anew, and rows created at the same moment may stand in another order each time;
the consumers agree on the resources that are stored only where neither the length of
the listing nor that order matters. -/
namespace CloudLens.Hierarchy
open Library Library.Pages

def Inventory.Reads (stored seen : Inventory) : Prop := seen.rows.Perm stored.rows

def Inventory.matching (inventory : Inventory) (query : InventoryFilterQuery) (tenantContext : TenantContext) : List InventoryResource35 :=
  (inventory.ofTenant tenantContext).filter (matchesFilter query tenantContext)

/-- A selection that is kept, or one of something to which values are added. -/
def Grows (selected wider : List String) : Prop := selected = wider ∨ selected ≠ [] ∧ selected ⊆ wider

structure Widens (q wider : InventoryFilterQuery) : Prop where
  providers : Grows q.providers wider.providers
  billingBoundaries : Grows q.billingBoundaries wider.billingBoundaries
  scopeSubtrees : Grows q.scopeSubtrees wider.scopeSubtrees
  services : Grows q.services wider.services
  categories : Grows q.categories wider.categories
  resourceTypes : Grows q.resourceTypes wider.resourceTypes
  regions : Grows q.regions wider.regions
  zones : Grows q.zones wider.zones
  applications : Grows q.applications wider.applications
  projects : Grows q.projects wider.projects
  environments : Grows q.environments wider.environments
  owners : Grows q.owners wider.owners
  costCenters : Grows q.costCenters wider.costCenters
  businessUnits : Grows q.businessUnits wider.businessUnits
  runtimeStates : Grows q.runtimeStates wider.runtimeStates
  lifecycleStatuses : Grows q.lifecycleStatuses wider.lifecycleStatuses
  thresholdStates : Grows q.thresholdStates wider.thresholdStates
  tagFilters : wider.tagFilters = q.tagFilters
  minCost : wider.minCost = q.minCost
  maxCost : wider.maxCost = q.maxCost
  search : wider.search = q.search

/-- What preview, pages and export promise of a store. -/
structure ConsumersAgree (inventory : Inventory) (query : InventoryFilterQuery) (tenantContext : TenantContext) : Prop where
  preview : ∀ one other : Inventory, inventory.Reads one → inventory.Reads other → ∀ limit offset : ℕ,
    (one.previewFilterCounts query tenantContext).matchingCount = (other.queryInventory query tenantContext limit offset).1
  counts : ∀ seen : Inventory, inventory.Reads seen →
    (seen.previewFilterCounts query tenantContext).countsByProvider.values.sum = (seen.previewFilterCounts query tenantContext).matchingCount ∧
    (seen.previewFilterCounts query tenantContext).countsByEnvironment.values.sum = (seen.previewFilterCounts query tenantContext).matchingCount
  pages : ∀ seen : ℕ → Inventory, (∀ k, inventory.Reads (seen k)) → ∀ size count : ℕ, 1 ≤ size →
    (inventory.matching query tenantContext).length ≤ count * size →
    ((List.range count).flatMap (fun k => ((seen k).queryInventory query tenantContext size (k * size)).2)).Perm
      (inventory.matching query tenantContext)
  exported : ∀ seen : Inventory, inventory.Reads seen → ∀ (rendering : Rendering) (exportFormat : String),
    ∃ resources : List InventoryResource35, resources.Perm (inventory.matching query tenantContext) ∧
      seen.exportInventory rendering query exportFormat tenantContext =
        if Text.lower exportFormat = "json" then (rendering.json resources, "application/json") else (rendering.csv resources, "text/csv")
  widened : ∀ wider : InventoryFilterQuery, Widens query wider → ∀ resource : InventoryResource35,
    matchesFilter query tenantContext resource = true → matchesFilter wider tenantContext resource = true
  narrowed : ∀ (front back : List TagFilter) (tagFilter : TagFilter), query.tagFilters = front ++ back → ∀ resource : InventoryResource35,
    matchesFilter { query with tagFilters := front ++ tagFilter :: back } tenantContext resource = true →
      matchesFilter query tenantContext resource = true

def Row.Asked (query : InventoryFilterQuery) (tenantContext : TenantContext) (row : Row) : Prop :=
  row.tenantId = tenantContext.tenantId ∧ matchesFilter query tenantContext row.resource = true

/-- No row that is asked for can fall behind the end of a listing, and no two of them
have both a name and a moment of creation in common. -/
structure Inventory.Settled (inventory : Inventory) (query : InventoryFilterQuery) (tenantContext : TenantContext) : Prop where
  within : ∀ row ∈ inventory.rows, row.Asked query tenantContext →
    inventory.rows.countP (fun other => other.tenantId = tenantContext.tenantId ∧ row.createdAt ≤ other.createdAt) ≤ pageLimit
  told : ∀ row ∈ inventory.rows, ∀ other ∈ inventory.rows, row.Asked query tenantContext → other.Asked query tenantContext →
    row.createdAt = other.createdAt → row.resource.name = other.resource.name → row = other

section Filters

variable {q wider : InventoryFilterQuery} {tenantContext : TenantContext} {resource : InventoryResource35}

theorem anyOf_grows {selected more : List String} {accepts : String → Bool} (grows : Grows selected more)
    (accepted : anyOf selected accepts = true) : anyOf more accepts = true := by
  rcases grows with rfl | ⟨some,inside⟩
  · exact accepted
  · unfold anyOf at *
    rw [Bool.or_eq_true,List.isEmpty_iff,List.any_eq_true] at *
    obtain ⟨value,member,kept⟩ := accepted.resolve_left some
    exact Or.inr ⟨value,inside member,kept⟩

theorem matches_widened (widens : Widens q wider) (matched : matchesFilter q tenantContext resource = true) :
    matchesFilter wider tenantContext resource = true := by
  unfold matchesFilter InventoryFilterQuery.accepts at *
  rw [widens.tagFilters,widens.minCost,widens.maxCost,widens.search]
  simp only [Bool.and_eq_true,and_assoc] at matched ⊢
  obtain ⟨scope,providers,billing,scopes,services,categories,types,regions,zones,applications,projects,environments,owners,centers,
    units,least,most,runtime,lifecycle,thresholds,tags,search⟩ := matched
  exact ⟨scope,anyOf_grows widens.providers providers,anyOf_grows widens.billingBoundaries billing,anyOf_grows widens.scopeSubtrees scopes,
    anyOf_grows widens.services services,anyOf_grows widens.categories categories,anyOf_grows widens.resourceTypes types,
    anyOf_grows widens.regions regions,anyOf_grows widens.zones zones,anyOf_grows widens.applications applications,
    anyOf_grows widens.projects projects,anyOf_grows widens.environments environments,anyOf_grows widens.owners owners,
    anyOf_grows widens.costCenters centers,anyOf_grows widens.businessUnits units,least,most,anyOf_grows widens.runtimeStates runtime,
    anyOf_grows widens.lifecycleStatuses lifecycle,anyOf_grows widens.thresholdStates thresholds,tags,search⟩

theorem matches_narrowed {front back : List TagFilter} {tagFilter : TagFilter} (split : q.tagFilters = front ++ back)
    (matched : matchesFilter { q with tagFilters := front ++ tagFilter :: back } tenantContext resource = true) :
    matchesFilter q tenantContext resource = true := by
  have fewer : (front ++ tagFilter :: back).all (TagFilter.accepts resource) = true → q.tagFilters.all (TagFilter.accepts resource) = true := by
    rw [split,List.all_append,List.all_append,List.all_cons,Bool.and_eq_true,Bool.and_eq_true,Bool.and_eq_true]
    exact And.imp_right And.right
  unfold matchesFilter InventoryFilterQuery.accepts at *
  simp only [Bool.and_eq_true] at matched ⊢
  exact ⟨matched.1,⟨matched.2.1.1,fewer matched.2.1.2⟩,matched.2.2⟩

end Filters

section Listings

variable {inventory seen one other : Inventory} {query : InventoryFilterQuery} {tenantContext : TenantContext} {row : Row}

instance (row : Row) : Decidable (row.Asked query tenantContext) := inferInstanceAs (Decidable (_ ∧ _))

def Inventory.found (inventory : Inventory) (query : InventoryFilterQuery) (tenantContext : TenantContext) : List Row :=
  ((inventory.rows.filter (fun row => row.tenantId = tenantContext.tenantId)).take pageLimit).filter
    (fun row => matchesFilter query tenantContext row.resource)

def byName (a b : Row) : Bool := decide (a.resource.name ≤ b.resource.name)

theorem byName_trans (a b c : Row) (first : byName a b = true) (second : byName b c = true) : byName a c = true :=
  decide_eq_true ((of_decide_eq_true first).trans (of_decide_eq_true second))

theorem byName_total (a b : Row) : (byName a b || byName b a) = true := by
  rw [Bool.or_eq_true]
  exact (le_total a.resource.name b.resource.name).imp decide_eq_true decide_eq_true

theorem found_map : (inventory.found query tenantContext).map Row.resource =
    (inventory.listResources tenantContext).filter (matchesFilter query tenantContext) := by
  unfold Inventory.found Inventory.listResources Inventory.ofTenant
  rw [← List.map_take,List.filter_map]
  rfl

theorem queryInventory_eq (limit offset : ℕ) : inventory.queryInventory query tenantContext limit offset =
    ((inventory.found query tenantContext).length,
      ((((inventory.found query tenantContext).mergeSort byName).drop offset).take limit).map Row.resource) := by
  have sorted : ((inventory.found query tenantContext).mergeSort byName).map Row.resource =
      ((inventory.listResources tenantContext).filter (matchesFilter query tenantContext)).mergeSort (fun a b => decide (a.name ≤ b.name)) := by
    rw [← found_map]
    exact List.map_mergeSort (fun _ _ _ _ => rfl)
  have length := congrArg List.length sorted
  rw [List.length_map,List.length_mergeSort] at length
  rw [List.map_take,List.map_drop,sorted,length]
  rfl

theorem matchingCount_eq : (inventory.previewFilterCounts query tenantContext).matchingCount =
    ((inventory.listResources tenantContext).filter (matchesFilter query tenantContext)).length := rfl

theorem mem_found : row ∈ inventory.found query tenantContext →
    row ∈ inventory.rows ∧ row.Asked query tenantContext := by
  intro member
  obtain ⟨listed,matched⟩ := List.mem_filter.mp member
  obtain ⟨stored,owned⟩ := List.mem_filter.mp ((List.take_sublist _ _).subset listed)
  exact ⟨stored,of_decide_eq_true owned,matched⟩

theorem nodup_rows (inventory : Inventory) : inventory.rows.Nodup := List.Nodup.of_map _ inventory.keyed

theorem nodup_found : (inventory.found query tenantContext).Nodup :=
  ((((nodup_rows inventory).filter _).sublist (List.take_sublist _ _)).filter _)

def Inventory.asked (inventory : Inventory) (query : InventoryFilterQuery) (tenantContext : TenantContext) : List Row :=
  inventory.rows.filter (fun row => row.Asked query tenantContext)

theorem asked_perm (reads : inventory.Reads seen) : (seen.asked query tenantContext).Perm (inventory.asked query tenantContext) :=
  reads.filter _

theorem settled_seen (settled : inventory.Settled query tenantContext) (reads : inventory.Reads seen) :
    seen.Settled query tenantContext := by
  refine ⟨?_,?_⟩
  · intro row member asked
    rw [reads.countP_eq]
    exact settled.within row (reads.mem_iff.mp member) asked
  · intro row member other held
    exact settled.told row (reads.mem_iff.mp member) other (reads.mem_iff.mp held)

def Inventory.tenantRows (inventory : Inventory) (tenantContext : TenantContext) : List Row :=
  inventory.rows.filter (fun row => row.tenantId = tenantContext.tenantId)

theorem tenantRows_ordered : (inventory.tenantRows tenantContext).Pairwise (fun a b => b.createdAt ≤ a.createdAt) :=
  inventory.newestFirst.filter _

theorem asked_eq : inventory.asked query tenantContext =
    (inventory.tenantRows tenantContext).filter (fun row => matchesFilter query tenantContext row.resource) := by
  unfold Inventory.asked Inventory.tenantRows
  rw [List.filter_filter]
  apply List.filter_congr
  intro row _
  rw [Bool.eq_iff_iff,decide_eq_true_iff,Bool.and_eq_true,decide_eq_true_iff]
  exact and_comm

theorem asked_map : (inventory.asked query tenantContext).map Row.resource = inventory.matching query tenantContext := by
  rw [asked_eq]
  unfold Inventory.matching Inventory.ofTenant Inventory.tenantRows
  rw [List.filter_map]
  rfl

theorem countP_tenantRows (row : Row) : (inventory.tenantRows tenantContext).countP (fun other => row.createdAt ≤ other.createdAt) =
    inventory.rows.countP (fun other => other.tenantId = tenantContext.tenantId ∧ row.createdAt ≤ other.createdAt) := by
  unfold Inventory.tenantRows
  rw [List.countP_filter]
  apply List.countP_congr
  intro other _
  simp [and_comm]

theorem found_settled (settled : inventory.Settled query tenantContext) :
    inventory.found query tenantContext = inventory.asked query tenantContext := by
  have all : ∀ row ∈ (inventory.tenantRows tenantContext).drop pageLimit, matchesFilter query tenantContext row.resource = false := by
    intro row behind
    have member := (List.drop_sublist _ _).subset behind
    rw [Bool.eq_false_iff]
    intro matched
    obtain ⟨stored,owned⟩ := List.mem_filter.mp member
    have few := settled.within row stored ⟨of_decide_eq_true owned,matched⟩
    rw [← countP_tenantRows] at few
    have listed := mem_take_of_count tenantRows_ordered member few
    have distinct : (inventory.tenantRows tenantContext).Nodup := (nodup_rows inventory).filter _
    rw [← List.take_append_drop pageLimit (inventory.tenantRows tenantContext)] at distinct
    exact List.disjoint_of_nodup_append distinct listed behind
  have none : ((inventory.tenantRows tenantContext).drop pageLimit).filter (fun row => matchesFilter query tenantContext row.resource) = [] := by
    rw [List.filter_eq_nil_iff]
    intro row behind
    rw [all row behind]
    exact Bool.false_ne_true
  rw [asked_eq]
  conv_rhs => rw [← List.take_append_drop pageLimit (inventory.tenantRows tenantContext),List.filter_append,none,List.append_nil]
  rfl

theorem sorted_found {before : Row → Row → Prop} (ordered : inventory.rows.Pairwise before) :
    ((inventory.found query tenantContext).mergeSort byName).Pairwise
      (fun a b => a.resource.name ≤ b.resource.name ∧ (b.resource.name ≤ a.resource.name → before a b)) := by
  have kept : (inventory.found query tenantContext).Pairwise before :=
    ((ordered.filter _).sublist (List.take_sublist _ _)).filter _
  refine (sorted_stable byName_trans byName_total nodup_found kept).imp ?_
  intro a b order
  exact ⟨of_decide_eq_true order.1,fun tie => order.2 (decide_eq_true tie)⟩

theorem sorted_settled (settled : inventory.Settled query tenantContext) (reads : inventory.Reads seen) :
    (seen.found query tenantContext).mergeSort byName = (inventory.found query tenantContext).mergeSort byName := by
  have first := @sorted_found _ query tenantContext _ seen.newestFirst
  have second := @sorted_found _ query tenantContext _ inventory.newestFirst
  have found : (seen.found query tenantContext).Perm (inventory.found query tenantContext) := by
    rw [found_settled (settled_seen settled reads),found_settled settled]
    exact asked_perm reads
  have perm : ((seen.found query tenantContext).mergeSort byName).Perm ((inventory.found query tenantContext).mergeSort byName) :=
    (List.mergeSort_perm _ _).trans (found.trans (List.mergeSort_perm _ _).symm)
  refine List.Perm.eq_of_pairwise ?_ first second perm
  intro a b memberA memberB forward backward
  have foundA := mem_found (List.mem_mergeSort.mp memberA)
  have foundB := mem_found (List.mem_mergeSort.mp memberB)
  have names : a.resource.name = b.resource.name := le_antisymm forward.1 backward.1
  have created : a.createdAt = b.createdAt := le_antisymm (backward.2 names.le) (forward.2 names.ge)
  exact settled.told a (reads.mem_iff.mp foundA.1) b foundB.1 foundA.2 foundB.2 created names

theorem perm_matching (settled : inventory.Settled query tenantContext) :
    (((inventory.found query tenantContext).mergeSort byName).map Row.resource).Perm (inventory.matching query tenantContext) := by
  have perm := List.mergeSort_perm (inventory.found query tenantContext) byName
  rw [found_settled settled] at perm ⊢
  rw [← asked_map]
  exact perm.map _

theorem agree_of_settled (settled : inventory.Settled query tenantContext) : ConsumersAgree inventory query tenantContext := by
  have found : ∀ seen : Inventory, inventory.Reads seen → (seen.found query tenantContext).length = (inventory.asked query tenantContext).length := by
    intro seen reads
    rw [found_settled (settled_seen settled reads)]
    exact (asked_perm reads).length_eq
  have counted : ∀ seen : Inventory, (seen.previewFilterCounts query tenantContext).matchingCount = (seen.found query tenantContext).length := by
    intro seen
    rw [← List.length_map Row.resource,found_map,matchingCount_eq]
  constructor
  · intro one other first second limit offset
    rw [queryInventory_eq,counted,found one first,found other second]
  · intro seen _
    constructor
    · exact (Dict.sum_tally _ _ _).trans (by rw [List.map_const',List.sum_replicate_nat,Nat.mul_one]; rfl)
    · exact (Dict.sum_tally _ _ _).trans (by rw [List.map_const',List.sum_replicate_nat,Nat.mul_one]; rfl)
  · intro seen reads size count _ enough
    have page : ∀ k, ((seen k).queryInventory query tenantContext size (k * size)).2 =
        ((((inventory.found query tenantContext).mergeSort byName).map Row.resource).drop (k * size)).take size := by
      intro k
      rw [queryInventory_eq,sorted_settled settled (reads k),List.map_take,List.map_drop]
    have together := pages_constant (((inventory.found query tenantContext).mergeSort byName).map Row.resource) size count
    simp only [page]
    rw [pages] at together
    rw [together,List.take_of_length_le]
    · exact perm_matching settled
    · rw [(perm_matching settled).length_eq]
      exact enough
  · intro seen reads rendering exportFormat
    refine ⟨(seen.queryInventory query tenantContext 10000 0).2,?_,rfl⟩
    have short : ((seen.found query tenantContext).mergeSort byName).length ≤ 10000 := by
      have page : (seen.found query tenantContext).length ≤ pageLimit :=
        (List.length_filter_le _ _).trans (List.length_take_le _ _)
      have limit : pageLimit ≤ 10000 := by decide
      rw [List.length_mergeSort]
      exact page.trans limit
    rw [queryInventory_eq,List.drop_zero,List.take_of_length_le short,sorted_settled settled reads]
    exact perm_matching settled
  · intro wider widens resource
    exact matches_widened widens
  · intro front back tagFilter split resource
    exact matches_narrowed split

def Inventory.postpone (inventory : Inventory) (late : Row → Bool) : Inventory where
  rows := postponed Row.createdAt late inventory.rows
  keyed := (postponed_perm.map _).nodup_iff.mpr inventory.keyed
  newestFirst := postponed_ordered

theorem reads_postpone (late : Row → Bool) : inventory.Reads (inventory.postpone late) := postponed_perm

theorem resource_inj (first : row ∈ inventory.rows) {other : Row} (second : other ∈ inventory.rows) (same : row.resource = other.resource) :
    row = other :=
  List.inj_on_of_nodup_map inventory.keyed first second (by rw [same])

theorem sorted_agree (agree : ConsumersAgree inventory query tenantContext) (first : inventory.Reads one) (second : inventory.Reads other) :
    ((one.found query tenantContext).mergeSort byName).map Row.resource = ((other.found query tenantContext).mergeSort byName).map Row.resource := by
  apply @listings_agree _ (fun items => ∃ seen, inventory.Reads seen ∧ items = ((seen.found query tenantContext).mergeSort byName).map Row.resource)
    (inventory.matching query tenantContext)
  · intro listing listed size count positive enough
    choose seen reads same using listed
    have paged := agree.pages seen reads size count positive enough
    simp only [queryInventory_eq,List.map_take,List.map_drop,← same] at paged
    exact paged
  · exact ⟨one,first,rfl⟩
  · exact ⟨other,second,rfl⟩

theorem rows_agree (agree : ConsumersAgree inventory query tenantContext) (first : inventory.Reads one) (second : inventory.Reads other) :
    (one.found query tenantContext).mergeSort byName = (other.found query tenantContext).mergeSort byName := by
  have resources := sorted_agree agree first second
  have lengths := congrArg List.length resources
  rw [List.length_map,List.length_map] at lengths
  apply List.ext_getElem lengths
  intro i bound boundOther
  have same := List.getElem_of_eq resources (by rwa [List.length_map])
  rw [List.getElem_map,List.getElem_map] at same
  have member := mem_found (List.mem_mergeSort.mp (List.getElem_mem bound))
  have memberOther := mem_found (List.mem_mergeSort.mp (List.getElem_mem boundOther))
  exact resource_inj (first.mem_iff.mp member.1) (second.mem_iff.mp memberOther.1) same

theorem found_of_agree (agree : ConsumersAgree inventory query tenantContext) (reads : inventory.Reads seen) :
    (((seen.found query tenantContext).mergeSort byName).map Row.resource).Perm (inventory.matching query tenantContext) := by
  have paged := agree.pages (fun _ => seen) (fun _ => reads) (((seen.found query tenantContext).mergeSort byName).length +
    (inventory.matching query tenantContext).length + 1) 1 (by omega) (by omega)
  simp only [queryInventory_eq] at paged
  rw [List.range_one,List.flatMap_singleton,Nat.zero_mul,List.drop_zero,List.take_of_length_le (by omega)] at paged
  exact paged

theorem settled_of_agree (agree : ConsumersAgree inventory query tenantContext) : inventory.Settled query tenantContext := by
  classical
  have held : ∀ {row : Row}, row ∈ inventory.rows → row.Asked query tenantContext → ∀ {seen : Inventory}, inventory.Reads seen →
      row ∈ seen.found query tenantContext := by
    intro row stored asked seen reads
    have matched : row.resource ∈ inventory.matching query tenantContext := by
      rw [← asked_map]
      exact List.mem_map_of_mem (List.mem_filter.mpr ⟨stored,decide_eq_true asked⟩)
    obtain ⟨other,member,same⟩ := List.mem_map.mp ((found_of_agree agree reads).mem_iff.mpr matched)
    have inside := List.mem_mergeSort.mp member
    rwa [resource_inj (reads.mem_iff.mp (mem_found inside).1) stored same] at inside
  constructor
  · intro row stored asked
    by_contra many
    have reads := @reads_postpone inventory (fun other => decide (other = row))
    have listed := (List.mem_filter.mp (held stored asked reads)).1
    refine @not_mem_take_of_count _ _ _ Row.createdAt _ row _ ((nodup_rows (inventory.postpone _)).filter _) ?_ ?_ listed
    · refine (postponed_before.filter _).imp ?_
      intro a b before
      refine before.imp_right (And.imp_right ?_)
      intro late same
      exact of_decide_eq_true (late (decide_eq_true same))
    · have same := @countP_tenantRows (inventory.postpone (fun other => decide (other = row))) tenantContext row
      rw [reads.countP_eq] at same
      rw [Inventory.tenantRows] at same
      rw [same]
      exact not_le.mp many
  · intro row stored other storedOther asked askedOther created name
    by_contra different
    -- each of the two comes after the other in some order of the store
    have first := @reads_postpone inventory (fun last => decide (last = other))
    have second := @reads_postpone inventory (fun last => decide (last = row))
    have alike := rows_agree agree first second
    have orderedFirst := @sorted_found (inventory.postpone (fun last => decide (last = other)))
      query tenantContext _ postponed_before
    have orderedSecond := @sorted_found (inventory.postpone (fun last => decide (last = row)))
      query tenantContext _ postponed_before
    rw [← alike] at orderedSecond
    have ordered := List.Pairwise.and orderedFirst orderedSecond
    have member := (@List.mem_mergeSort _ byName _ _).mpr (held stored asked first)
    have memberOther := (@List.mem_mergeSort _ byName _ _).mpr (held storedOther askedOther first)
    rcases before_or_after ordered member memberOther different with before | before
    · rcases before.2.2 name.ge with less | ⟨-,last⟩
      · exact absurd less (created ▸ lt_irrefl _)
      · exact different (of_decide_eq_true (last (decide_eq_true rfl))).symm
    · rcases before.1.2 name.le with less | ⟨-,last⟩
      · exact absurd less (created ▸ lt_irrefl _)
      · exact different (of_decide_eq_true (last (decide_eq_true rfl)))

theorem consumers_agree_iff (inventory : Inventory) (query : InventoryFilterQuery) (tenantContext : TenantContext) :
    ConsumersAgree inventory query tenantContext ↔ inventory.Settled query tenantContext :=
  ⟨settled_of_agree,agree_of_settled⟩

end Listings

def numbered (k : ℕ) : Row := ⟨"t",-k,sampleResource (String.ofList (List.replicate k 'r')) "Ada Lee" 10⟩

def crowd (n : ℕ) : Inventory where
  rows := (List.range n).map numbered
  keyed := by
    rw [List.map_map]
    apply List.nodup_range.map
    intro a b same
    have lengths := congrArg (fun word : String => word.toList.length) same
    simpa [numbered,sampleResource] using lengths
  newestFirst := by
    rw [List.pairwise_map]
    refine List.pairwise_lt_range.imp ?_
    intro a b before
    exact neg_le_neg (Int.ofNat_le.mpr before.le)

theorem numbered_asked (k : ℕ) : (numbered k).Asked {} sampleCaller := ⟨rfl,rfl⟩

theorem crowd_ofTenant (n : ℕ) : (crowd n).ofTenant sampleCaller = ((List.range n).map numbered).map Row.resource := by
  unfold Inventory.ofTenant
  congr 1
  apply List.filter_eq_self.mpr
  intro row member
  obtain ⟨k,-,rfl⟩ := List.mem_map.mp member
  exact decide_eq_true (numbered_asked k).1

theorem crowd_matched {n : ℕ} {resource : InventoryResource35} (member : resource ∈ (crowd n).ofTenant sampleCaller) :
    matchesFilter {} sampleCaller resource = true := by
  rw [crowd_ofTenant,List.map_map] at member
  obtain ⟨k,-,rfl⟩ := List.mem_map.mp member
  exact (numbered_asked k).2

theorem crowd_length (n : ℕ) : ((crowd n).ofTenant sampleCaller).length = n := by
  rw [crowd_ofTenant,List.length_map,List.length_map,List.length_range]

theorem crowd_unsettled {n : ℕ} (many : pageLimit ≤ n) : ¬(crowd (n + 1)).Settled {} sampleCaller := by
  intro settled
  have member : numbered n ∈ (crowd (n + 1)).rows := List.mem_map_of_mem (List.mem_range.mpr n.lt_succ_self)
  have few := settled.within (numbered n) member (numbered_asked n)
  have all : ∀ row ∈ (crowd (n + 1)).rows,
      (fun other : Row => decide (other.tenantId = sampleCaller.tenantId ∧ (numbered n).createdAt ≤ other.createdAt)) row = true := by
    intro row member
    obtain ⟨k,below,rfl⟩ := List.mem_map.mp member
    have bound := Nat.lt_succ_iff.mp (List.mem_range.mp below)
    exact decide_eq_true ⟨(numbered_asked k).1,neg_le_neg (Int.ofNat_le.mpr bound)⟩
  have length : (crowd (n + 1)).rows.length = n + 1 := by
    unfold crowd
    rw [List.length_map,List.length_range]
  rw [List.countP_eq_length.mpr all,length] at few
  omega

/-- The oldest of 1001 resources is neither counted nor listed. -/
theorem oldest_not_listed : ((crowd 1001).matching {} sampleCaller).length = 1001 ∧
    ((crowd 1001).previewFilterCounts {} sampleCaller).matchingCount = 1000 ∧ ¬ConsumersAgree (crowd 1001) {} sampleCaller := by
  refine ⟨?_,?_,fun agree => crowd_unsettled (n := 1000) le_rfl (settled_of_agree agree)⟩
  · unfold Inventory.matching
    rw [List.filter_eq_self.mpr (fun resource member => crowd_matched member),crowd_length]
  · have listed : (((crowd 1001).listResources sampleCaller).filter (matchesFilter {} sampleCaller)).length = min pageLimit 1001 := by
      unfold Inventory.listResources
      rw [List.filter_eq_self.mpr (fun resource member => crowd_matched ((List.take_sublist _ _).subset member)),List.length_take,crowd_length]
    rw [matchingCount_eq,listed]
    exact min_eq_left (by decide)

end CloudLens.Hierarchy
