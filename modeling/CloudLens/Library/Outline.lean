import Mathlib.Algebra.BigOperators.Group.List.Basic
import Mathlib.Data.List.Dedup
import Mathlib.Data.List.Perm.Basic
import Mathlib.Data.List.Sort
import Mathlib.Data.String.Basic

/-! Outlines: items arranged in nested groups. A plan says at each level whether the items are
parted by a key, with the groups in the order of their names, or shown whole below each of some
names; the outline of a plan is built from leaves and branches of any kind, bottom up. A group is
named by the path of names that leads to it. -/
namespace CloudLens.Library.Outline

inductive Plan (Item : Type)
  | items
  | per (key : Item → String) (inner : String → Plan Item)
  | each (names : List String) (inner : String → Plan Item)

variable {Item Node Label M : Type}

def Plan.isItems : Plan Item → Bool
  | items => true
  | _ => false

/-- The names that the items have, each once and in order. -/
def namesOf (key : Item → String) (items : List Item) : List String := (items.map key).dedup.insertionSort (· ≤ ·)

def part (key : Item → String) (items : List Item) (name : String) : List Item := items.filter (fun item => key item = name)

/-- A branch is made of its path, whether items stand below it, the items of its group and what stands below it. -/
def outline (leaf : Item → Node) (branch : List String → Bool → List Item → List Node → Node) :
    Plan Item → List String → List Item → List Node
  | .items, _, items => items.map leaf
  | .per key inner, path, items => (namesOf key items).map (fun name =>
      branch (path ++ [name]) (inner name).isItems (part key items name)
        (outline leaf branch (inner name) (path ++ [name]) (part key items name)))
  | .each names inner, path, items => names.map (fun name =>
      branch (path ++ [name]) (inner name).isItems items (outline leaf branch (inner name) (path ++ [name]) items))

/-- The paths of the groups below the top. -/
def groups : Plan Item → List Item → List (List String)
  | .items, _ => []
  | .per key inner, items => (namesOf key items).flatMap (fun name =>
      [name] :: (groups (inner name) (part key items name)).map (List.cons name))
  | .each names inner, items => names.flatMap (fun name => [name] :: (groups (inner name) items).map (List.cons name))

/-- The items in the order and number in which the outline shows them. -/
def shown : Plan Item → List Item → List Item
  | .items, items => items
  | .per key inner, items => (namesOf key items).flatMap (fun name => shown (inner name) (part key items name))
  | .each names inner, items => names.flatMap (fun name => shown (inner name) items)

/-- The outline shows each item so many times. -/
inductive Shows : Plan Item → ℕ → Prop
  | items : Shows .items 1
  | per {key : Item → String} {inner : String → Plan Item} {times : ℕ} (below : ∀ name, Shows (inner name) times) :
      Shows (.per key inner) times
  | each {names : List String} {inner : String → Plan Item} {times : ℕ} (below : ∀ name, Shows (inner name) times) :
      Shows (.each names inner) (names.length * times)

/-- No level repeats a name. -/
def Plan.Distinct : Plan Item → Prop
  | items => True
  | per _ inner => ∀ name, (inner name).Distinct
  | each names inner => names.Nodup ∧ ∀ name, (inner name).Distinct

theorem mem_namesOf {key : Item → String} {items : List Item} {name : String} :
    name ∈ namesOf key items ↔ ∃ item ∈ items, key item = name := by
  simp [namesOf]

theorem namesOf_nodup (key : Item → String) (items : List Item) : (namesOf key items).Nodup :=
  (List.perm_insertionSort _ _).nodup_iff.mpr (List.nodup_dedup _)

theorem sections_perm {key : Item → String} {names : List String} (distinct : names.Nodup) {items : List Item}
    (named : ∀ item ∈ items, key item ∈ names) : (names.flatMap (part key items)).Perm items := by
  induction names generalizing items with
  | nil =>
    have none : items = [] := List.eq_nil_iff_forall_not_mem.mpr (fun item member => List.not_mem_nil (named item member))
    rw [none]
    exact List.Perm.refl _
  | cons name rest ih =>
    obtain ⟨fresh,distinct⟩ := List.nodup_cons.mp distinct
    have later : rest.flatMap (part key items) =
        rest.flatMap (part key (items.filter (fun item => ¬key item = name))) := by
      rw [List.flatMap_def,List.flatMap_def]
      congr 1
      apply List.map_congr_left
      intro other member
      unfold part
      rw [List.filter_filter]
      apply List.filter_congr
      intro item _
      by_cases same : key item = other
      · have apart : other ≠ name := fun equal => fresh (equal ▸ member)
        simp [same,apart]
      · simp [same]
    rw [List.flatMap_cons,later]
    have remaining : ∀ item ∈ items.filter (fun item => ¬key item = name), key item ∈ rest := by
      intro item member
      obtain ⟨inside,other⟩ := List.mem_filter.mp member
      exact (List.mem_cons.mp (named item inside)).resolve_left (of_decide_eq_true other)
    have below := ih distinct remaining
    refine (List.Perm.append_left _ below).trans ?_
    simpa [part] using List.filter_append_perm (fun item => decide (key item = name)) items

theorem flatMap_replicate_perm (f : Label → List Item) (names : List Label) (times : ℕ) :
    (names.flatMap (fun name => (List.replicate times (f name)).flatten)).Perm (List.replicate times (names.flatMap f)).flatten := by
  induction times with
  | zero => simp
  | succ times ih =>
    simp only [List.replicate_succ,List.flatten_cons]
    exact (List.flatMap_append_perm names f _).symm.trans (List.Perm.append_left _ ih)

theorem flatten_replicate_perm {first second : List Item} (same : first.Perm second) (times : ℕ) :
    (List.replicate times first).flatten.Perm (List.replicate times second).flatten := by
  induction times with
  | zero => exact List.Perm.refl _
  | succ times ih =>
    rw [List.replicate_succ,List.flatten_cons,List.replicate_succ,List.flatten_cons]
    exact same.append ih

theorem shown_perm {plan : Plan Item} {times : ℕ} (shows : Shows plan times) (items : List Item) :
    (shown plan items).Perm (List.replicate times items).flatten := by
  induction shows generalizing items with
  | items => simp [shown]
  | @per key inner times below ih =>
    have parted : ((namesOf key items).flatMap (part key items)).Perm items :=
      sections_perm (namesOf_nodup key items) (fun item member => mem_namesOf.mpr ⟨item,member,rfl⟩)
    refine (List.Perm.flatMap_left _ (fun name _ => ih name (part key items name))).trans ?_
    exact (flatMap_replicate_perm (part key items) (namesOf key items) times).trans (flatten_replicate_perm parted times)
  | @each names inner times below ih =>
    refine (List.Perm.flatMap_left _ (fun name _ => ih name items)).trans ?_
    clear below ih
    induction names with
    | nil => simp
    | cons name rest inner_ih =>
      rw [List.flatMap_cons,List.length_cons,Nat.succ_mul,Nat.add_comm,List.replicate_add,List.flatten_append]
      exact List.Perm.append_left _ inner_ih

theorem sum_shown [AddCommMonoid M] {plan : Plan Item} {times : ℕ} (shows : Shows plan times) (weight : Item → M) (items : List Item) :
    ((shown plan items).map weight).sum = times • (items.map weight).sum := by
  rw [((shown_perm shows items).map weight).sum_eq]
  clear shows
  induction times with
  | zero => simp
  | succ times ih => rw [List.replicate_succ,List.flatten_cons,List.map_append,List.sum_append,ih,succ_nsmul']

section Groups

theorem groups_nonempty {plan : Plan Item} {items : List Item} : [] ∉ groups plan items := by
  cases plan with
  | items => simp [groups]
  | per key inner => simp [groups]
  | each names inner => simp [groups]

theorem level_nodup {names : List String} (distinct : names.Nodup) {below : String → List (List String)}
    (nonempty : ∀ name, [] ∉ below name) (nodup : ∀ name, (below name).Nodup) :
    (names.flatMap (fun name => [name] :: (below name).map (List.cons name))).Nodup := by
  have headed : ∀ name, ∀ path ∈ [name] :: (below name).map (List.cons name), path.head? = some name := by
    intro name path member
    obtain rfl | inside := List.mem_cons.mp member
    · rfl
    · obtain ⟨rest,_,rfl⟩ := List.mem_map.mp inside
      rfl
  refine List.nodup_flatMap.mpr ⟨?_,?_⟩
  · intro name _
    refine List.nodup_cons.mpr ⟨?_,(nodup name).map (List.cons_injective)⟩
    intro member
    obtain ⟨rest,inside,same⟩ := List.mem_map.mp member
    obtain rfl : rest = [] := (List.cons.inj same).2
    exact nonempty name inside
  · refine distinct.imp ?_
    intro first second apart path left right
    have same := (headed first path left).symm.trans (headed second path right)
    exact apart (Option.some.inj same)

theorem groups_nodup {plan : Plan Item} (distinct : plan.Distinct) (items : List Item) : (groups plan items).Nodup := by
  induction plan generalizing items with
  | items => exact List.nodup_nil
  | per key inner ih =>
    exact level_nodup (namesOf_nodup key items) (fun _ => groups_nonempty) (fun name => ih name (distinct name) _)
  | each names inner ih =>
    exact level_nodup distinct.1 (fun _ => groups_nonempty) (fun name => ih name (distinct.2 name) _)

end Groups

section Outlined

variable {leaf : Item → Node} {branch : List String → Bool → List Item → List Node → Node}

theorem outline_isItems {plan : Plan Item} {path : List String} {items : List Item} (lowest : plan.isItems = true) :
    outline leaf branch plan path items = items.map leaf := by
  cases plan with
  | items => rfl
  | per key inner => cases lowest
  | each names inner => cases lowest

theorem outline_forall {good : Node → Prop}
    (branches : ∀ path lowest group children, (lowest = true → children = group.map leaf) → (∀ child ∈ children, good child) →
      good (branch path lowest group children)) (plan : Plan Item) (path : List String) {items : List Item}
    (leaves : ∀ item ∈ items, good (leaf item)) : ∀ node ∈ outline leaf branch plan path items, good node := by
  induction plan generalizing path items with
  | items =>
    intro node member
    obtain ⟨item,inside,rfl⟩ := List.mem_map.mp member
    exact leaves item inside
  | per key inner ih =>
    intro node member
    obtain ⟨name,_,rfl⟩ := List.mem_map.mp member
    apply branches _ _ _ _ outline_isItems
    exact ih name _ (fun item inside => leaves item (List.mem_of_mem_filter inside))
  | each names inner ih =>
    intro node member
    obtain ⟨name,_,rfl⟩ := List.mem_map.mp member
    exact branches _ _ _ _ outline_isItems (ih name _ leaves)

theorem sum_outline [AddCommMonoid M] {value : Node → M} {weight : Item → M} (leaves : ∀ item, value (leaf item) = weight item)
    (branches : ∀ path lowest group children, (lowest = true → children = group.map leaf) →
      value (branch path lowest group children) = (children.map value).sum)
    (plan : Plan Item) (path : List String) (items : List Item) :
    ((outline leaf branch plan path items).map value).sum = ((shown plan items).map weight).sum := by
  have added (names : List String) (below : String → List Node) (covers : String → List Item)
      (each : ∀ name, ((below name).map value).sum = ((covers name).map weight).sum) :
      (names.map (fun name => ((below name).map value).sum)).sum = ((names.flatMap covers).map weight).sum := by
    induction names with
    | nil => rfl
    | cons name rest ih =>
      rw [List.map_cons,List.sum_cons,ih,each,List.flatMap_cons,List.map_append,List.sum_append]
  induction plan generalizing path items with
  | items =>
    change ((items.map leaf).map value).sum = (items.map weight).sum
    rw [List.map_map]
    congr 1
    exact List.map_congr_left (fun item _ => leaves item)
  | per key inner ih =>
    change (((namesOf key items).map _).map value).sum = _
    rw [List.map_map]
    refine Eq.trans ?_ (added (namesOf key items) _ _ (fun name => ih name (path ++ [name]) (part key items name)))
    congr 1
    exact List.map_congr_left (fun name _ => branches _ _ _ _ outline_isItems)
  | each names inner ih =>
    change ((names.map _).map value).sum = _
    rw [List.map_map]
    refine Eq.trans ?_ (added names _ _ (fun name => ih name (path ++ [name]) items))
    congr 1
    exact List.map_congr_left (fun name _ => branches _ _ _ _ outline_isItems)

theorem labels_level {labels : Node → List Label} {tag : List String → Label} {mark : Item → Label}
    (branches : ∀ path lowest group children, labels (branch path lowest group children) = tag path :: children.flatMap labels)
    (path : List String) (names : List String) (lowest : String → Bool) (group covers : String → List Item)
    (below : String → List Node) (paths : String → List (List String))
    (each : ∀ name, ((below name).flatMap labels).Perm
      ((paths name).map (fun rest => tag (path ++ [name] ++ rest)) ++ (covers name).map mark)) :
    ((names.map (fun name => branch (path ++ [name]) (lowest name) (group name) (below name))).flatMap labels).Perm
      ((names.flatMap (fun name => [name] :: (paths name).map (List.cons name))).map (fun rest => tag (path ++ rest)) ++
        (names.flatMap covers).map mark) := by
  induction names with
  | nil => exact List.Perm.refl _
  | cons name rest ih =>
    simp only [List.map_cons,List.flatMap_cons,branches,List.map_append,List.cons_append,List.map_map]
    refine List.Perm.cons _ ?_
    have inside : (paths name).map ((fun rest => tag (path ++ rest)) ∘ List.cons name) =
        (paths name).map (fun rest => tag (path ++ [name] ++ rest)) := by
      apply List.map_congr_left
      intro rest _
      simp
    rw [inside]
    refine ((each name).append ih).trans ?_
    rw [List.append_assoc,List.append_assoc]
    refine List.Perm.append_left _ ?_
    rw [← List.append_assoc,← List.append_assoc]
    exact List.Perm.append_right _ List.perm_append_comm

theorem labels_outline {labels : Node → List Label} (tag : List String → Label) {mark : Item → Label}
    (leaves : ∀ item, labels (leaf item) = [mark item])
    (branches : ∀ path lowest group children, labels (branch path lowest group children) = tag path :: children.flatMap labels)
    (plan : Plan Item) (path : List String) (items : List Item) :
    ((outline leaf branch plan path items).flatMap labels).Perm
      ((groups plan items).map (fun rest => tag (path ++ rest)) ++ (shown plan items).map mark) := by
  induction plan generalizing path items with
  | items =>
    change ((items.map leaf).flatMap labels).Perm (items.map mark)
    rw [List.flatMap_map]
    simp only [leaves]
    rw [← List.map_eq_flatMap]
  | per key inner ih =>
    exact labels_level branches path (namesOf key items) _ _ _ _ _ (fun name => ih name (path ++ [name]) (part key items name))
  | each names inner ih =>
    exact labels_level branches path names _ _ _ _ _ (fun name => ih name (path ++ [name]) items)

end Outlined

end CloudLens.Library.Outline
