import Mathlib.Algebra.BigOperators.Group.List.Basic
import Mathlib.Data.List.Dedup
import Mathlib.Data.List.Induction
import Mathlib.Data.List.Nodup
import Mathlib.Data.List.Perm.Basic

/-! Dictionaries of lists that keep the order in which their keys first
appeared: appending an item under a key, and grouping a list of items. -/
namespace CloudLens.Library.Grouping

variable {Key Item : Type} [DecidableEq Key]

def add (key : Key) (item : Item) : List (Key × List Item) → List (Key × List Item)
  | [] => [(key, [item])]
  | (k, items) :: rest => if k = key then (k, items ++ [item]) :: rest else (k, items) :: add key item rest

def groupInto (key : Item → Key) (items : List Item) : List (Key × List Item) :=
  items.foldl (fun groups item => add (key item) item groups) []

theorem mem_keys_add {key : Key} {item : Item} {groups : List (Key × List Item)} {k : Key} :
    k ∈ (add key item groups).map Prod.fst ↔ k = key ∨ k ∈ groups.map Prod.fst := by
  induction groups with
  | nil => simp [add]
  | cons group groups ih =>
    obtain ⟨name,items⟩ := group
    rw [add]
    split
    · rename_i same
      simp [same]
    · simp only [List.map_cons,List.mem_cons,ih]
      tauto

theorem add_keys_nodup {key : Key} {item : Item} {groups : List (Key × List Item)}
    (distinct : (groups.map Prod.fst).Nodup) : ((add key item groups).map Prod.fst).Nodup := by
  induction groups with
  | nil => simp [add]
  | cons group groups ih =>
    obtain ⟨name,items⟩ := group
    rw [List.map_cons,List.nodup_cons] at distinct
    rw [add]
    split
    · exact List.nodup_cons.mpr distinct
    · rename_i other
      rw [List.map_cons,List.nodup_cons,mem_keys_add]
      refine ⟨?_,ih distinct.2⟩
      intro found
      rcases found with same | inside
      · exact other same
      · exact distinct.1 inside

theorem mem_add {key : Key} {item : Item} {groups : List (Key × List Item)} (distinct : (groups.map Prod.fst).Nodup)
    {group : Key × List Item} (member : group ∈ add key item groups) :
    (group ∈ groups ∧ group.1 ≠ key) ∨ (∃ items, (key, items) ∈ groups ∧ group = (key, items ++ [item])) ∨
      (key ∉ groups.map Prod.fst ∧ group = (key, [item])) := by
  induction groups with
  | nil =>
    simp only [add,List.mem_singleton] at member
    exact Or.inr (Or.inr ⟨by simp,member⟩)
  | cons first groups ih =>
    obtain ⟨name,items⟩ := first
    rw [List.map_cons,List.nodup_cons] at distinct
    rw [add] at member
    split at member
    · rename_i same
      subst same
      rcases List.mem_cons.mp member with here | later
      · exact Or.inr (Or.inl ⟨items,by simp,here⟩)
      · refine Or.inl ⟨by simp [later],?_⟩
        intro same
        exact distinct.1 (List.mem_map.mpr ⟨group,later,same⟩)
    · rename_i other
      rcases List.mem_cons.mp member with here | later
      · subst here
        exact Or.inl ⟨by simp,other⟩
      · rcases ih distinct.2 later with ⟨inside,apart⟩ | ⟨old,inside,shape⟩ | ⟨absent,shape⟩
        · exact Or.inl ⟨by simp [inside],apart⟩
        · exact Or.inr (Or.inl ⟨old,by simp [inside],shape⟩)
        · refine Or.inr (Or.inr ⟨?_,shape⟩)
          rw [List.map_cons,List.mem_cons,not_or]
          exact ⟨fun same => other same.symm,absent⟩

theorem groupInto_concat (key : Item → Key) (items : List Item) (item : Item) :
    groupInto key (items ++ [item]) = add (key item) item (groupInto key items) := by
  simp [groupInto]

theorem groupInto_spec (key : Item → Key) (items : List Item) :
    ((groupInto key items).map Prod.fst).Nodup ∧ (∀ k, k ∈ (groupInto key items).map Prod.fst ↔ ∃ item ∈ items, key item = k) ∧
      ∀ group ∈ groupInto key items, group.2 = items.filter (fun item => key item = group.1) := by
  induction items using List.reverseRecOn with
  | nil => simp [groupInto]
  | append_singleton items item ih =>
    obtain ⟨distinct,covered,grouped⟩ := ih
    rw [groupInto_concat]
    refine ⟨add_keys_nodup distinct,?_,?_⟩
    · intro k
      rw [mem_keys_add,covered k]
      constructor
      · intro found
        rcases found with rfl | ⟨other,member,same⟩
        · exact ⟨item,by simp,rfl⟩
        · exact ⟨other,by simp [member],same⟩
      · intro found
        obtain ⟨other,member,same⟩ := found
        rcases List.mem_append.mp member with old | new
        · exact Or.inr ⟨other,old,same⟩
        · exact Or.inl (by rw [← same,List.mem_singleton.mp new])
    · intro group member
      rw [List.filter_append]
      rcases mem_add distinct member with ⟨inside,apart⟩ | ⟨old,inside,rfl⟩ | ⟨absent,rfl⟩
      · simp [grouped group inside,Ne.symm apart]
      · have previous : old = items.filter (fun other => key other = key item) := grouped _ inside
        simp [previous]
      · have none : items.filter (fun other => key other = key item) = [] := by
          rw [List.filter_eq_nil_iff]
          intro other inside same
          exact absent ((covered (key item)).mpr ⟨other,inside,by simpa using same⟩)
        simp [none]

theorem mem_groupInto_iff {key : Item → Key} {items : List Item} {group : Key × List Item} :
    group ∈ groupInto key items ↔
      (∃ item ∈ items, key item = group.1) ∧ group.2 = items.filter (fun item => key item = group.1) := by
  obtain ⟨_,covered,grouped⟩ := groupInto_spec key items
  constructor
  · intro member
    exact ⟨(covered group.1).mp (List.mem_map_of_mem member),grouped group member⟩
  · rintro ⟨present,collected⟩
    obtain ⟨other,member,same⟩ := List.mem_map.mp ((covered group.1).mpr present)
    have equal : group = other := by
      apply Prod.ext same.symm
      rw [collected,grouped other member,same]
    rwa [equal]

theorem group_ne_nil {key : Item → Key} {items : List Item} {group : Key × List Item}
    (member : group ∈ groupInto key items) : group.2 ≠ [] := by
  obtain ⟨⟨item,inside,same⟩,collected⟩ := mem_groupInto_iff.mp member
  rw [collected]
  apply List.ne_nil_of_mem (a := item)
  simp [inside,same]

theorem groupInto_length (key : Item → Key) (items : List Item) :
    (groupInto key items).length = (items.map key).dedup.length := by
  obtain ⟨distinct,covered,_⟩ := groupInto_spec key items
  have same : ((groupInto key items).map Prod.fst).Perm (items.map key).dedup := by
    rw [List.perm_ext_iff_of_nodup distinct (List.nodup_dedup _)]
    intro k
    rw [covered,List.mem_dedup,List.mem_map]
  rw [← same.length_eq,List.length_map]

theorem groupInto_keys_perm (key : Item → Key) {items shuffled : List Item} (same : shuffled.Perm items) :
    ((groupInto key shuffled).map Prod.fst).Perm ((groupInto key items).map Prod.fst) := by
  obtain ⟨distinct,covered,_⟩ := groupInto_spec key items
  obtain ⟨otherDistinct,otherCovered,_⟩ := groupInto_spec key shuffled
  rw [List.perm_ext_iff_of_nodup otherDistinct distinct]
  intro k
  rw [covered,otherCovered]
  constructor
  · rintro ⟨item,member,found⟩
    exact ⟨item,same.mem_iff.mp member,found⟩
  · rintro ⟨item,member,found⟩
    exact ⟨item,same.mem_iff.mpr member,found⟩

theorem groupInto_nodup (key : Item → Key) (items : List Item) : (groupInto key items).Nodup :=
  (groupInto_spec key items).1.of_map _

theorem groupInto_flatMap_perm (key : Item → Key) (items : List Item) : ((groupInto key items).flatMap Prod.snd).Perm items := by
  have added : ∀ (k : Key) (item : Item) (groups : List (Key × List Item)),
      ((add k item groups).flatMap Prod.snd).Perm (groups.flatMap Prod.snd ++ [item]) := by
    intro k item groups
    induction groups with
    | nil => exact List.Perm.refl _
    | cons group rest ih =>
      rw [add]
      split
      · rw [List.flatMap_cons,List.flatMap_cons,List.append_assoc,List.append_assoc]
        exact List.perm_append_comm.append_left _
      · rw [List.flatMap_cons,List.flatMap_cons,List.append_assoc]
        exact ih.append_left _
  induction items using List.reverseRecOn with
  | nil => exact List.Perm.refl _
  | append_singleton items item ih =>
    rw [groupInto_concat]
    exact (added (key item) item _).trans (ih.append_right _)

section Sums

variable {M : Type} [AddCommMonoid M] (weight : Item → M)

theorem sum_add (key : Key) (item : Item) (groups : List (Key × List Item)) :
    ((add key item groups).map (fun group => (group.2.map weight).sum)).sum =
      (groups.map (fun group => (group.2.map weight).sum)).sum + weight item := by
  induction groups with
  | nil => simp [add]
  | cons group groups ih =>
    obtain ⟨name,items⟩ := group
    rw [add]
    split
    · simp only [List.map_cons,List.sum_cons,List.map_append,List.sum_append,List.map_nil,List.sum_nil,add_zero]
      exact add_right_comm _ _ _
    · simp only [List.map_cons,List.sum_cons,ih,add_assoc]

theorem sum_groupInto (key : Item → Key) (items : List Item) :
    ((groupInto key items).map (fun group => (group.2.map weight).sum)).sum = (items.map weight).sum := by
  induction items using List.reverseRecOn with
  | nil => simp [groupInto]
  | append_singleton items item ih =>
    rw [groupInto_concat,sum_add,ih]
    simp

end Sums

end CloudLens.Library.Grouping
