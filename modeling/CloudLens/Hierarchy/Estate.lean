import CloudLens.Hierarchy.Lenses

/-! Whether the lenses show the same estate: that figures roll up, that the root stands for all
the caller may see, that ids tell nodes apart, and that the detail of an id is that of its node. -/
namespace CloudLens.Hierarchy
open Library Library.Outline

def ThresholdState.severity : ThresholdState → ℕ
  | normal => 0
  | warning => 1
  | critical => 2

mutual

def HierarchyNode.nodes : HierarchyNode → List HierarchyNode
  | .node spec rollUp children => .node spec rollUp children :: nodesAmong children

def nodesAmong : List HierarchyNode → List HierarchyNode
  | [] => []
  | child :: rest => child.nodes ++ nodesAmong rest

end

/-- An inner node has the sums of its children and the worst of their states. -/
structure HierarchyNode.RollsUp (n : HierarchyNode) : Prop where
  cost : n.aggregateCost = (n.children.map HierarchyNode.aggregateCost).sum
  count : n.totalDescendantResourceCount = (n.children.map HierarchyNode.totalDescendantResourceCount).sum
  atLeast : ∀ child ∈ n.children, child.worstChildThresholdState.severity ≤ n.worstChildThresholdState.severity
  attained : n.worstChildThresholdState = .normal ∨
    ∃ child ∈ n.children, child.worstChildThresholdState = n.worstChildThresholdState

/-- What a lens owes the caller. -/
structure Faithful (inventory : Inventory) (budgets : Dict String ℚ) (lensType : LateralLensType) (tenantContext : TenantContext) :
    Prop where
  rollsUp : ∀ n ∈ (inventory.getHierarchyTree budgets lensType tenantContext).nodes, n.isResource = false → n.RollsUp
  cost : (inventory.getHierarchyTree budgets lensType tenantContext).aggregateCost =
    ((inventory.inScope tenantContext).map InventoryResource35.monthlyCost).sum
  count : (inventory.getHierarchyTree budgets lensType tenantContext).totalDescendantResourceCount =
    (inventory.inScope tenantContext).length
  distinct : (inventory.getHierarchyTree budgets lensType tenantContext).nodes.Pairwise
    (fun a b => a.id = b.id → lensType = .tag ∧ a.isResource ∧ a = b)
  described : ∀ n ∈ (inventory.getHierarchyTree budgets lensType tenantContext).nodes,
    ∃ breadcrumbs, breadcrumbs.getLast? = some n.spec.name ∧ inventory.getNodeDetail budgets n.id lensType tenantContext =
      n.pane lensType (inventory.scopedResources tenantContext) breadcrumbs

def groupPaths (budgets : Dict String ℚ) (lensType : LateralLensType) (resources : List InventoryResource35) : List (List String) :=
  [] :: groups (lensOf budgets lensType).plan resources

def pathId (budgets : Dict String ℚ) (lensType : LateralLensType) (path : List String) : String :=
  ((lensOf budgets lensType).node path).id

/-- The listing has every resource that the caller may see; under the four tag keys, a quarter of
them in number and in cost. No two groups get one id, and no resource has that of a group. -/
structure Sound (inventory : Inventory) (budgets : Dict String ℚ) (lensType : LateralLensType) (tenantContext : TenantContext) :
    Prop where
  listed : lensType ≠ .tag → inventory.scopedResources tenantContext = inventory.inScope tenantContext
  quartered : lensType = .tag → 4 * (inventory.scopedResources tenantContext).length = (inventory.inScope tenantContext).length ∧
    4 * ((inventory.scopedResources tenantContext).map InventoryResource35.monthlyCost).sum =
      ((inventory.inScope tenantContext).map InventoryResource35.monthlyCost).sum
  groups : ∀ path ∈ groupPaths budgets lensType (inventory.scopedResources tenantContext),
    ∀ other ∈ groupPaths budgets lensType (inventory.scopedResources tenantContext),
      pathId budgets lensType path = pathId budgets lensType other → path = other
  resources : ∀ path ∈ groupPaths budgets lensType (inventory.scopedResources tenantContext),
    ∀ resource ∈ inventory.scopedResources tenantContext, pathId budgets lensType path ≠ resource.id

section Nodes

theorem nodesAmong_eq (children : List HierarchyNode) : nodesAmong children = children.flatMap HierarchyNode.nodes := by
  induction children with
  | nil => rfl
  | cons child rest ih => rw [nodesAmong,ih,List.flatMap_cons]

theorem nodes_eq (n : HierarchyNode) : n.nodes = n :: n.children.flatMap HierarchyNode.nodes := by
  obtain ⟨spec,rollUp,children⟩ := n
  rw [HierarchyNode.nodes,nodesAmong_eq]
  rfl

mutual

theorem findNode_getLast (targetId : String) : ∀ n : HierarchyNode,
    (n.findNode targetId).map List.getLast? = (n.nodes.find? (fun m => m.id = targetId)).map some
  | .node spec rollUp children => by
    rw [HierarchyNode.findNode,HierarchyNode.nodes,List.find?_cons]
    by_cases same : spec.id = targetId
    · simp [same]
    · have below := findAmong_getLast targetId children
      cases found : findAmong targetId children with
      | none =>
        rw [found] at below
        simpa [same] using below
      | some path =>
        rw [found] at below
        obtain ⟨m,first,last⟩ := Option.map_eq_some_iff.mp below.symm
        simp [same,List.getLast?_cons,first,← last]

theorem findAmong_getLast (targetId : String) : ∀ children : List HierarchyNode,
    (findAmong targetId children).map List.getLast? = ((nodesAmong children).find? (fun m => m.id = targetId)).map some
  | [] => rfl
  | child :: rest => by
    have here := findNode_getLast targetId child
    have later := findAmong_getLast targetId rest
    rw [findAmong,nodesAmong,List.find?_append]
    cases found : child.findNode targetId with
    | none =>
      rw [found] at here
      rw [Option.map_eq_none_iff.mp here.symm]
      exact later
    | some path =>
      rw [found] at here
      obtain ⟨m,first,last⟩ := Option.map_eq_some_iff.mp here.symm
      rw [first]
      exact congrArg some last.symm

end

end Nodes

section Lenses

def LateralLensType.copies : LateralLensType → ℕ
  | tag => 4
  | _ => 1

structure Lens.Proper (lens : Lens) (times : ℕ) : Prop where
  shows : Shows lens.plan times
  distinct : lens.plan.Distinct
  inner : ∀ path, (lens.node path).level ≠ .resource

theorem subtree_shows (subtree : Subtree) : Shows subtree.plan 1 := by
  unfold Subtree.plan
  induction subtree.chain with
  | nil => exact .per (fun _ => .items)
  | cons spec rest ih => exact @Shows.each _ [spec.name] _ 1 (fun _ => ih)

theorem subtree_distinct (subtree : Subtree) : subtree.plan.Distinct := by
  unfold Subtree.plan
  induction subtree.chain with
  | nil => exact fun _ => trivial
  | cons spec rest ih => exact ⟨List.nodup_singleton _,fun _ => ih⟩

theorem subtree_inner (provider : String) (path : List String) : ((subtreeOf provider).node path).level ≠ .resource := by
  have chained : ∀ spec ∈ (subtreeOf provider).chain, spec.level ≠ .resource := by
    unfold subtreeOf
    split_ifs <;> decide
  unfold Subtree.node
  split
  · rename_i spec found
    exact chained spec (List.mem_of_getElem? found)
  · rintro ⟨⟩

theorem lensOf_proper (budgets : Dict String ℚ) (lensType : LateralLensType) : (lensOf budgets lensType).Proper lensType.copies := by
  cases lensType with
  | providerHierarchy =>
    refine ⟨.per (fun _ => subtree_shows _),fun _ => subtree_distinct _,?_⟩
    intro path
    obtain _ | ⟨provider,_ | ⟨name,rest⟩⟩ := path
    · rintro ⟨⟩
    · rintro ⟨⟩
    · exact subtree_inner provider (name :: rest)
  | application =>
    refine ⟨.per (fun _ => .per (fun _ => .per (fun _ => .items))),fun _ _ _ => trivial,?_⟩
    intro path
    obtain _ | ⟨app,_ | ⟨env,_ | ⟨svc,_ | _⟩⟩⟩ := path <;> rintro ⟨⟩
  | costCentre =>
    refine ⟨.per (fun _ => .per (fun _ => .items)),fun _ _ => trivial,?_⟩
    intro path
    obtain _ | ⟨cc,_ | ⟨prj,_ | _⟩⟩ := path <;> rintro ⟨⟩
  | environment =>
    refine ⟨.per (fun _ => .per (fun _ => .items)),fun _ _ => trivial,?_⟩
    intro path
    obtain _ | ⟨env,_ | ⟨app,_ | _⟩⟩ := path <;> rintro ⟨⟩
  | owner =>
    refine ⟨.per (fun _ => .items),fun _ => trivial,?_⟩
    intro path
    obtain _ | ⟨owner,_ | _⟩ := path <;> rintro ⟨⟩
  | region =>
    refine ⟨.per (fun _ => .per (fun _ => .items)),fun _ _ => trivial,?_⟩
    intro path
    obtain _ | ⟨reg,_ | ⟨svc,_ | _⟩⟩ := path <;> rintro ⟨⟩
  | tag =>
    refine ⟨@Shows.each _ tagKeys _ 1 (fun _ => .per (fun _ => .items)),⟨by decide,fun _ _ => trivial⟩,?_⟩
    intro path
    obtain _ | ⟨key,_ | ⟨val,_ | _⟩⟩ := path <;> rintro ⟨⟩

theorem severity_combine (states : List ThresholdState) :
    (∀ state ∈ states, state.severity ≤ (combineThresholdStates states).severity) ∧
      (combineThresholdStates states = .normal ∨ combineThresholdStates states ∈ states) := by
  unfold combineThresholdStates
  split_ifs with critical warning
  · refine ⟨?_,Or.inr critical⟩
    intro state _
    cases state <;> decide
  · refine ⟨?_,Or.inr warning⟩
    intro state member
    cases state with
    | critical => exact absurd member critical
    | warning => decide
    | normal => decide
  · refine ⟨?_,Or.inl rfl⟩
    intro state member
    cases state with
    | critical => exact absurd member critical
    | warning => exact absurd member warning
    | normal => decide

variable {lens : Lens} {times : ℕ} {resources : List InventoryResource35}

theorem parentNode_rollsUp (spec : Spec) (budget : ℚ) (children : List HierarchyNode) : (parentNode spec budget children).RollsUp := by
  obtain ⟨bound,attained⟩ := severity_combine (children.map HierarchyNode.worstChildThresholdState)
  refine ⟨rfl,rfl,?_,?_⟩
  · intro child member
    exact bound _ (List.mem_map_of_mem member)
  · exact attained.imp_right (fun member => List.mem_map.mp member)

theorem groupNode_rollsUp (spec : Spec) (budget : ℚ) (resources : List InventoryResource35) :
    (groupNode spec budget resources (resources.map resourceToLeaf)).RollsUp := by
  obtain ⟨bound,attained⟩ := severity_combine ((resources.map resourceToLeaf).map HierarchyNode.worstChildThresholdState)
  refine ⟨?_,?_,?_,?_⟩
  · change (resources.map InventoryResource35.monthlyCost).sum = ((resources.map resourceToLeaf).map HierarchyNode.aggregateCost).sum
    rw [List.map_map]
    rfl
  · change (resources.map resourceToLeaf).length = ((resources.map resourceToLeaf).map HierarchyNode.totalDescendantResourceCount).sum
    rw [List.map_map,List.length_map]
    change resources.length = (resources.map (fun _ => 1)).sum
    simp
  · intro child member
    exact bound _ (List.mem_map_of_mem member)
  · exact attained.imp_right (fun member => List.mem_map.mp member)

theorem branch_rollsUp (path : List String) (lowest : Bool) (resources : List InventoryResource35) (children : List HierarchyNode)
    (leaves : lowest = true → children = resources.map resourceToLeaf) : (lens.branch path lowest resources children).RollsUp := by
  unfold Lens.branch
  cases lowest with
  | true =>
    rw [leaves rfl]
    exact groupNode_rollsUp _ _ _
  | false => exact parentNode_rollsUp _ _ _

theorem children_branch (path : List String) (lowest : Bool) (resources : List InventoryResource35) (children : List HierarchyNode) :
    (lens.branch path lowest resources children).children = children := by
  cases lowest <;> rfl

theorem spec_branch (path : List String) (lowest : Bool) (resources : List InventoryResource35) (children : List HierarchyNode) :
    (lens.branch path lowest resources children).spec = lens.node path := by
  cases lowest <;> rfl

theorem tree_rollsUp : ∀ n ∈ (lens.tree resources).nodes, n.isResource = false → n.RollsUp := by
  have below : ∀ n ∈ outline resourceToLeaf lens.branch lens.plan [] resources, ∀ m ∈ n.nodes, m.isResource = false → m.RollsUp := by
    apply outline_forall
    · intro path lowest group children leaves good m member inner
      rw [nodes_eq,children_branch] at member
      obtain rfl | deeper := List.mem_cons.mp member
      · exact branch_rollsUp path lowest group children leaves
      · obtain ⟨child,inside,found⟩ := List.mem_flatMap.mp deeper
        exact good child inside m found inner
    · intro resource _ m member inner
      rw [List.mem_singleton.mp member] at inner
      cases inner
  intro n member inner
  rw [nodes_eq] at member
  obtain rfl | deeper := List.mem_cons.mp member
  · exact parentNode_rollsUp _ _ _
  · obtain ⟨child,inside,found⟩ := List.mem_flatMap.mp deeper
    exact below child inside n found inner

theorem tree_cost (proper : lens.Proper times) :
    (lens.tree resources).aggregateCost = times * (resources.map InventoryResource35.monthlyCost).sum := by
  have total : (lens.tree resources).aggregateCost = ((shown lens.plan resources).map InventoryResource35.monthlyCost).sum := by
    refine sum_outline (fun _ => rfl) ?_ lens.plan [] resources
    intro path lowest group children leaves
    rw [(branch_rollsUp path lowest group children leaves).cost,children_branch]
  rw [total,sum_shown proper.shows,nsmul_eq_mul]

theorem tree_count (proper : lens.Proper times) : (lens.tree resources).totalDescendantResourceCount = times * resources.length := by
  have total : (lens.tree resources).totalDescendantResourceCount = ((shown lens.plan resources).map (fun _ => 1)).sum := by
    refine sum_outline (fun _ => rfl) ?_ lens.plan [] resources
    intro path lowest group children leaves
    rw [(branch_rollsUp path lowest group children leaves).count,children_branch]
  rw [total,sum_shown proper.shows]
  simp

def HierarchyNode.label (n : HierarchyNode) : Bool × String := (n.isResource, n.id)

theorem label_branch (proper : lens.Proper times) (path : List String) (lowest : Bool) (resources : List InventoryResource35)
    (children : List HierarchyNode) : (lens.branch path lowest resources children).label = (false, (lens.node path).id) := by
  unfold HierarchyNode.label HierarchyNode.isResource HierarchyNode.id
  rw [spec_branch,decide_eq_false (proper.inner path)]

theorem tree_labels (proper : lens.Proper times) : ((lens.tree resources).nodes.map HierarchyNode.label).Perm
    (([] :: groups lens.plan resources).map (fun path => (false, (lens.node path).id)) ++
      (shown lens.plan resources).map (fun resource => (true, resource.id))) := by
  have root : (lens.tree resources).label = (false, (lens.node []).id) := by
    unfold HierarchyNode.label HierarchyNode.isResource
    exact congrArg (Prod.mk · _) (decide_eq_false (proper.inner []))
  rw [nodes_eq,List.map_cons,root,List.map_flatMap]
  refine List.Perm.cons _ ?_
  have below : ((outline resourceToLeaf lens.branch lens.plan [] resources).flatMap (fun n => n.nodes.map HierarchyNode.label)).Perm
      ((groups lens.plan resources).map (fun rest => (false, (lens.node ([] ++ rest)).id)) ++
        (shown lens.plan resources).map (fun resource => (true, resource.id))) := by
    refine labels_outline (fun path => (false, (lens.node path).id)) ?_ ?_ lens.plan [] resources
    · intro resource
      rfl
    · intro path lowest group children
      rw [nodes_eq,children_branch,List.map_cons,label_branch proper,List.map_flatMap]
  exact below

theorem leaf_of_isResource (proper : lens.Proper times) : ∀ n ∈ (lens.tree resources).nodes, n.isResource = true →
    ∃ resource ∈ resources, n = resourceToLeaf resource := by
  have below : ∀ n ∈ outline resourceToLeaf lens.branch lens.plan [] resources, ∀ m ∈ n.nodes, m.isResource = true →
      ∃ resource ∈ resources, m = resourceToLeaf resource := by
    apply outline_forall
    · intro path lowest group children _ good m member leaf
      rw [nodes_eq,children_branch] at member
      obtain rfl | deeper := List.mem_cons.mp member
      · have inner : false = true := (congrArg Prod.fst (label_branch proper path lowest group children)).symm.trans leaf
        cases inner
      · obtain ⟨child,inside,found⟩ := List.mem_flatMap.mp deeper
        exact good child inside m found leaf
    · intro resource inside m member _
      exact ⟨resource,inside,List.mem_singleton.mp member⟩
  intro n member leaf
  rw [nodes_eq] at member
  obtain rfl | deeper := List.mem_cons.mp member
  · exact absurd (of_decide_eq_true leaf) (proper.inner [])
  · obtain ⟨child,inside,found⟩ := List.mem_flatMap.mp deeper
    exact below child inside n found leaf

theorem paths_nodup (proper : lens.Proper times) : ([] :: groups lens.plan resources).Nodup :=
  List.nodup_cons.mpr ⟨groups_nonempty,groups_nodup proper.distinct resources⟩

theorem mem_shown (proper : lens.Proper times) (positive : 0 < times) {resource : InventoryResource35} :
    resource ∈ shown lens.plan resources ↔ resource ∈ resources := by
  rw [(shown_perm proper.shows resources).mem_iff,List.mem_flatten]
  simp [List.mem_replicate,Nat.pos_iff_ne_zero.mp positive]

theorem leaf_unique (proper : lens.Proper times) (keyed : (resources.map InventoryResource35.id).Nodup) {a b : HierarchyNode}
    (first : a ∈ (lens.tree resources).nodes) (second : b ∈ (lens.tree resources).nodes) (leaf : a.isResource = true)
    (other : b.isResource = true) (same : a.id = b.id) : a = b := by
  obtain ⟨resource,inside,rfl⟩ := leaf_of_isResource proper a first leaf
  obtain ⟨next,within,rfl⟩ := leaf_of_isResource proper b second other
  rw [List.inj_on_of_nodup_map keyed inside within same]

theorem distinct_iff {lensType : LateralLensType} (proper : lens.Proper lensType.copies)
    (keyed : (resources.map InventoryResource35.id).Nodup) :
    (lens.tree resources).nodes.Pairwise (fun a b => a.id = b.id → lensType = .tag ∧ a.isResource ∧ a = b) ↔
      (∀ path ∈ [] :: groups lens.plan resources, ∀ other ∈ [] :: groups lens.plan resources,
        (lens.node path).id = (lens.node other).id → path = other) ∧
      (∀ path ∈ [] :: groups lens.plan resources, ∀ resource ∈ resources, (lens.node path).id ≠ resource.id) := by
  have positive : 0 < lensType.copies := by cases lensType <;> decide
  have labelled : (lens.tree resources).nodes.Pairwise (fun a b => a.id = b.id → lensType = .tag ∧ a.isResource ∧ a = b) ↔
      ((lens.tree resources).nodes.map HierarchyNode.label).Pairwise
        (fun a b => a.2 = b.2 → lensType = .tag ∧ a.1 = true ∧ b.1 = true) := by
    rw [List.pairwise_map]
    constructor
    · intro apart
      refine apart.imp ?_
      intro a b distinct same
      obtain ⟨tag,leaf,rfl⟩ := distinct same
      exact ⟨tag,leaf,leaf⟩
    · intro apart
      refine List.Pairwise.imp_of_mem ?_ apart
      intro a b first second distinct same
      obtain ⟨tag,leaf,other⟩ := distinct same
      exact ⟨tag,leaf,leaf_unique proper keyed first second leaf other same⟩
  have shownOnce : (shown lens.plan resources).Pairwise (fun a b => a.id = b.id → lensType = .tag ∧ True ∧ True) := by
    by_cases tag : lensType = .tag
    · exact List.pairwise_of_forall (fun a b _ => ⟨tag,trivial,trivial⟩)
    · have once : lensType.copies = 1 := by
        cases lensType with
        | tag => exact absurd rfl tag
        | _ => rfl
      have listed := shown_perm proper.shows resources
      rw [once,List.replicate_one,List.flatten_singleton] at listed
      have distinct : ((shown lens.plan resources).map InventoryResource35.id).Nodup := (listed.map _).nodup_iff.mpr keyed
      exact (List.pairwise_map.mp distinct).imp (fun apart same => absurd same apart)
  have symmetric {a b : Bool × String} (distinct : a.2 = b.2 → lensType = .tag ∧ a.1 = true ∧ b.1 = true) :
      b.2 = a.2 → lensType = .tag ∧ b.1 = true ∧ a.1 = true := by
    intro same
    obtain ⟨tag,first,second⟩ := distinct same.symm
    exact ⟨tag,second,first⟩
  rw [labelled,(tree_labels proper).pairwise_iff symmetric,List.pairwise_append,List.pairwise_map,List.pairwise_map]
  constructor
  · rintro ⟨apart,_,across⟩
    refine ⟨?_,?_⟩
    · intro path member other inside same
      have distinct : (([] :: groups lens.plan resources).map (fun path => (lens.node path).id)).Nodup := by
        refine List.pairwise_map.mpr (apart.imp ?_)
        intro first second forbidden equal
        obtain ⟨_,inner,_⟩ := forbidden equal
        cases inner
      exact List.inj_on_of_nodup_map distinct member inside same
    · intro path member resource inside same
      obtain ⟨_,inner,_⟩ := across _ (List.mem_map_of_mem member) _
        (List.mem_map_of_mem ((mem_shown proper positive).mpr inside)) same
      cases inner
  · rintro ⟨injective,apart⟩
    refine ⟨?_,?_,?_⟩
    · refine List.Pairwise.imp_of_mem ?_ (paths_nodup proper)
      intro path other member inside different same
      exact absurd (injective path member other inside same) different
    · exact shownOnce.imp (fun distinct same => ⟨(distinct same).1,rfl,rfl⟩)
    · intro first member second inside same
      obtain ⟨path,listed,rfl⟩ := List.mem_map.mp member
      obtain ⟨resource,seen,rfl⟩ := List.mem_map.mp inside
      exact absurd same (apart path listed resource ((mem_shown proper positive).mp seen))

end Lenses

variable {inventory : Inventory} {budgets : Dict String ℚ} {lensType : LateralLensType} {tenantContext : TenantContext}

theorem scopedResources_sublist : (inventory.scopedResources tenantContext).Sublist (inventory.inScope tenantContext) :=
  (List.take_sublist _ _).filter _

theorem ofTenant_keyed : ((inventory.ofTenant tenantContext).map InventoryResource35.id).Nodup := by
  unfold Inventory.ofTenant
  rw [List.map_map]
  exact (List.filter_sublist.map _).nodup inventory.keyed

theorem scopedResources_keyed : ((inventory.scopedResources tenantContext).map InventoryResource35.id).Nodup :=
  ((scopedResources_sublist.trans List.filter_sublist).map _).nodup ofTenant_keyed

theorem described_of_distinct
    (distinct : (inventory.getHierarchyTree budgets lensType tenantContext).nodes.Pairwise
      (fun a b => a.id = b.id → lensType = .tag ∧ a.isResource ∧ a = b)) :
    ∀ n ∈ (inventory.getHierarchyTree budgets lensType tenantContext).nodes,
      ∃ breadcrumbs, breadcrumbs.getLast? = some n.spec.name ∧ inventory.getNodeDetail budgets n.id lensType tenantContext =
        n.pane lensType (inventory.scopedResources tenantContext) breadcrumbs := by
  intro n member
  have symmetric : Std.Symm (fun a b : HierarchyNode => a.id = b.id → a = b) := ⟨fun a b alike same => (alike same.symm).symm⟩
  have alike : (inventory.getHierarchyTree budgets lensType tenantContext).nodes.Pairwise (fun a b => a.id = b.id → a = b) :=
    distinct.imp (fun apart same => (apart same).2.2)
  have present : ((inventory.getHierarchyTree budgets lensType tenantContext).nodes.find? (fun m => m.id = n.id)).isSome :=
    List.find?_isSome.mpr ⟨n,member,by simp⟩
  obtain ⟨m,first⟩ := Option.isSome_iff_exists.mp present
  have same : m.id = n.id := by simpa using List.find?_some first
  obtain rfl : m = n := alike.forall_of_forall (fun _ _ _ => rfl) (List.mem_of_find?_eq_some first) member same
  have found := findNode_getLast m.id (inventory.getHierarchyTree budgets lensType tenantContext)
  rw [first] at found
  obtain ⟨path,reached,last⟩ := Option.map_eq_some_iff.mp found
  refine ⟨path.map (fun n => n.spec.name),?_,?_⟩
  · rw [List.getLast?_map,last]
    rfl
  · unfold Inventory.getNodeDetail
    dsimp only
    rw [reached,Option.getD_some,last,Option.getD_some]

/-- A lens shows the estate faithfully exactly where the listing is whole and ids are derived apart. -/
theorem faithful_iff_sound (inventory : Inventory) (budgets : Dict String ℚ) (lensType : LateralLensType)
    (tenantContext : TenantContext) :
    Faithful inventory budgets lensType tenantContext ↔ Sound inventory budgets lensType tenantContext := by
  have proper := lensOf_proper budgets lensType
  have cost : (inventory.getHierarchyTree budgets lensType tenantContext).aggregateCost = _ := tree_cost proper
  have count : (inventory.getHierarchyTree budgets lensType tenantContext).totalDescendantResourceCount = _ := tree_count proper
  have ids := distinct_iff proper (@scopedResources_keyed inventory tenantContext)
  constructor
  · intro faithful
    have costs := cost.symm.trans faithful.cost
    have counts := count.symm.trans faithful.count
    obtain ⟨groups,resources⟩ := ids.mp faithful.distinct
    refine ⟨?_,?_,groups,resources⟩
    · intro other
      apply scopedResources_sublist.eq_of_length
      have once : lensType.copies = 1 := by
        cases lensType with
        | tag => exact absurd rfl other
        | _ => rfl
      rwa [once,one_mul] at counts
    · rintro rfl
      exact ⟨counts,by simpa [LateralLensType.copies] using costs⟩
  · intro sound
    have distinct := ids.mpr ⟨sound.groups,sound.resources⟩
    refine ⟨tree_rollsUp,?_,?_,distinct,described_of_distinct distinct⟩
    · rw [cost]
      by_cases tag : lensType = .tag
      · rw [← (sound.quartered tag).2,tag]
        rfl
      · rw [sound.listed tag]
        cases lensType with
        | tag => exact absurd rfl tag
        | _ => simp [LateralLensType.copies]
    · rw [count]
      by_cases tag : lensType = .tag
      · rw [← (sound.quartered tag).1,tag]
        rfl
      · rw [sound.listed tag]
        cases lensType with
        | tag => exact absurd rfl tag
        | _ => simp [LateralLensType.copies]

def sampleResource (id owner : String) (cost : ℚ) : InventoryResource35 where
  id := id
  tenantId := "t"
  scopeId := "s"
  nativeId := "n-" ++ id
  name := id
  provider := "AWS"
  serviceId := "ec2"
  serviceName := "EC2"
  serviceCategory := "Compute"
  resourceTypeId := "vm"
  resourceType := "Instance"
  regionId := "eu-west-1"
  regionName := "Ireland"
  availabilityZone := none
  pricingStatus := "PAID"
  runtimeState := "RUNNING"
  lifecycleStatus := "ACTIVE"
  tags := []
  applicationId := none
  applicationName := none
  environmentId := none
  environmentName := none
  ownerId := none
  ownerName := some owner
  ownerEmail := none
  costCenterId := none
  costCenterName := none
  businessUnitId := none
  businessUnitName := none
  projectId := none
  projectName := none
  monthlyCost := cost
  currency := "USD"
  lastSyncedAt := 0
  createdAt := 0

def twoOwners : Inventory where
  rows := [⟨"t",0,sampleResource "a" "Ada Lee" 10⟩, ⟨"t",0,sampleResource "b" "ada-lee" 20⟩]
  keyed := by decide
  newestFirst := by decide

def sampleCaller : TenantContext := ⟨"t",["s"]⟩

/-- Two owners get one id, whose detail is that of the first, and the tag lens counts each resource four times. -/
theorem owners_share_id :
    (twoOwners.getHierarchyTree Dict.empty .owner sampleCaller).children.map HierarchyNode.id =
      ["lens-owner-ada-lee", "lens-owner-ada-lee"] ∧
    (twoOwners.getHierarchyTree Dict.empty .owner sampleCaller).children.map HierarchyNode.aggregateCost = [10, 20] ∧
    (twoOwners.getNodeDetail Dict.empty "lens-owner-ada-lee" .owner sampleCaller).aggregateCost = 10 ∧
    (twoOwners.getHierarchyTree Dict.empty .tag sampleCaller).aggregateCost = 120 ∧
    ((twoOwners.inScope sampleCaller).map InventoryResource35.monthlyCost).sum = 30 := by
  refine ⟨?_,?_,?_,?_,?_⟩ <;> decide +kernel

end CloudLens.Hierarchy
