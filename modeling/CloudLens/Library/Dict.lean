import Mathlib.Algebra.BigOperators.Group.Finset.Basic
import Mathlib.Data.List.Nodup

/-! Dictionaries that keep the order in which their keys were first assigned. A
later assignment changes the value in place. -/
namespace CloudLens.Library

structure Dict (Key Value : Type) where
  items : List (Key × Value)
  distinct : (items.map Prod.fst).Nodup

namespace Dict

variable {Key Value : Type}

def empty : Dict Key Value := ⟨[],List.nodup_nil⟩

def keys (dict : Dict Key Value) : List Key := dict.items.map Prod.fst

def values (dict : Dict Key Value) : List Value := dict.items.map Prod.snd

variable [DecidableEq Key]

def get (dict : Dict Key Value) (key : Key) : Option Value :=
  (dict.items.find? (fun item => item.1 = key)).map Prod.snd

def amendItems (key : Key) (change : Option Value → Value) : List (Key × Value) → List (Key × Value)
  | [] => [(key, change none)]
  | item :: rest => if item.1 = key then (key, change (some item.2)) :: rest else item :: amendItems key change rest

theorem mem_keys_amendItems {key wanted : Key} {change : Option Value → Value} {items : List (Key × Value)} :
    wanted ∈ (amendItems key change items).map Prod.fst ↔ wanted = key ∨ wanted ∈ items.map Prod.fst := by
  induction items with
  | nil => simp [amendItems]
  | cons item rest ih =>
    unfold amendItems
    split
    · rename_i same
      simp [same]
    · rw [List.map_cons,List.mem_cons,ih,List.map_cons,List.mem_cons]
      tauto

theorem amendItems_nodup (key : Key) (change : Option Value → Value) {items : List (Key × Value)}
    (distinct : (items.map Prod.fst).Nodup) : ((amendItems key change items).map Prod.fst).Nodup := by
  induction items with
  | nil => exact List.nodup_singleton key
  | cons item rest ih =>
    rw [List.map_cons,List.nodup_cons] at distinct
    unfold amendItems
    split
    · rename_i same
      rw [List.map_cons,List.nodup_cons,← same]
      exact distinct
    · rename_i other
      rw [List.map_cons,List.nodup_cons,mem_keys_amendItems]
      exact ⟨fun inside => inside.elim other distinct.1,ih distinct.2⟩

/-- Assigns a key what becomes of its value, or of none. -/
def amend (key : Key) (change : Option Value → Value) (dict : Dict Key Value) : Dict Key Value :=
  ⟨amendItems key change dict.items,amendItems_nodup key change dict.distinct⟩

def assign (key : Key) (value : Value) (dict : Dict Key Value) : Dict Key Value := dict.amend key (fun _ => value)

/-- The dictionary of a list of pairs, where later pairs win. -/
def ofPairs (pairs : List (Key × Value)) : Dict Key Value :=
  pairs.foldl (fun dict pair => dict.assign pair.1 pair.2) empty

def erase (key : Key) (dict : Dict Key Value) : Dict Key Value :=
  ⟨dict.items.filter (fun item => item.1 ≠ key),dict.distinct.sublist (List.filter_sublist.map Prod.fst)⟩

section Lookups

variable {dict : Dict Key Value} {key wanted : Key} {value : Value} {change : Option Value → Value}

theorem get_eq_some_iff : dict.get key = some value ↔ (key, value) ∈ dict.items := by
  unfold get
  obtain ⟨items,distinct⟩ := dict
  induction items with
  | nil => simp
  | cons item rest ih =>
    rw [List.map_cons,List.nodup_cons] at distinct
    by_cases same : item.1 = key
    · have apart : (key, value) ∉ rest := fun inside => distinct.1 (by rw [same]; exact List.mem_map_of_mem inside)
      rw [List.find?_cons_of_pos (by simpa using same)]
      simp only [Option.map_some,Option.some.injEq,List.mem_cons,apart,or_false,Prod.ext_iff,same,true_and]
      exact eq_comm
    · rw [List.find?_cons_of_neg (by simpa using same),List.mem_cons]
      simp only [Prod.ext_iff,Ne.symm same,false_and,false_or]
      exact ih distinct.2

theorem mem_keys_iff : key ∈ dict.keys ↔ ∃ value, dict.get key = some value := by
  unfold keys
  rw [List.mem_map]
  constructor
  · rintro ⟨⟨_,value⟩,member,rfl⟩
    exact ⟨value,get_eq_some_iff.mpr member⟩
  · rintro ⟨value,held⟩
    exact ⟨(key, value),get_eq_some_iff.mp held,rfl⟩

theorem get_amend : (dict.amend key change).get wanted = if wanted = key then some (change (dict.get key)) else dict.get wanted := by
  unfold amend get
  obtain ⟨items,distinct⟩ := dict
  dsimp only
  clear distinct
  induction items with
  | nil =>
    by_cases same : wanted = key
    · simp [amendItems,same]
    · simp [amendItems,same,Ne.symm same]
  | cons item rest ih =>
    unfold amendItems
    by_cases here : item.1 = key
    · rw [if_pos here]
      by_cases same : wanted = key
      · simp [same,here]
      · simp [same,here,Ne.symm same]
    · rw [if_neg here]
      by_cases found : item.1 = wanted
      · have other : wanted ≠ key := fun same => here (found.trans same)
        simp [found,other]
      · rw [List.find?_cons_of_neg (by simpa using found),ih,List.find?_cons_of_neg (by simpa using here),
          List.find?_cons_of_neg (by simpa using found)]

theorem get_assign : (dict.assign key value).get wanted = if wanted = key then some value else dict.get wanted := get_amend

theorem get_erase : (dict.erase key).get wanted = if wanted = key then none else dict.get wanted := by
  ext value
  rw [get_eq_some_iff]
  unfold erase
  rw [List.mem_filter,← get_eq_some_iff]
  by_cases same : wanted = key <;> simp [same]

theorem mem_keys_amend : wanted ∈ (dict.amend key change).keys ↔ wanted = key ∨ wanted ∈ dict.keys := mem_keys_amendItems

theorem amendItems_of_notMem {items : List (Key × Value)} (absent : key ∉ items.map Prod.fst) :
    amendItems key change items = items ++ [(key, change none)] := by
  induction items with
  | nil => rfl
  | cons item rest ih =>
    rw [List.map_cons,List.mem_cons,not_or] at absent
    unfold amendItems
    rw [if_neg (Ne.symm absent.1),ih absent.2,List.cons_append]

theorem items_assign_of_notMem (absent : key ∉ dict.keys) : (dict.assign key value).items = dict.items ++ [(key, value)] :=
  amendItems_of_notMem absent

theorem mem_keys_ofPairs {pairs : List (Key × Value)} : key ∈ (ofPairs pairs).keys ↔ key ∈ pairs.map Prod.fst := by
  induction pairs using List.reverseRecOn with
  | nil => rfl
  | append_singleton rest pair ih =>
    unfold ofPairs at ih ⊢
    rw [List.foldl_append,List.foldl_cons,List.foldl_nil,assign,mem_keys_amend,ih,List.map_append,List.mem_append]
    simp [or_comm]

theorem items_ofPairs {pairs : List (Key × Value)} (distinct : (pairs.map Prod.fst).Nodup) : (ofPairs pairs).items = pairs := by
  induction pairs using List.reverseRecOn with
  | nil => rfl
  | append_singleton rest pair ih =>
    rw [List.map_append,List.nodup_append] at distinct
    have absent : pair.1 ∉ (ofPairs rest).keys := by
      rw [mem_keys_ofPairs]
      intro inside
      exact distinct.2.2 pair.1 inside pair.1 (by simp) rfl
    have earlier := ih distinct.1
    unfold ofPairs at earlier absent ⊢
    rw [List.foldl_append,List.foldl_cons,List.foldl_nil,items_assign_of_notMem absent,earlier]

theorem items_assign_ne_nil : (dict.assign key value).items ≠ [] := by
  intro empty
  have inside : key ∈ (dict.assign key value).keys := mem_keys_amend.mpr (Or.inl rfl)
  rw [keys,empty] at inside
  cases inside

theorem sum_values {M : Type} [AddCommMonoid M] (weight : Value → M) {all : Finset Key} (covered : ∀ key ∈ dict.keys, key ∈ all) :
    (dict.values.map weight).sum = ∑ key ∈ all, ((dict.get key).map weight).getD 0 := by
  have listed : dict.values.map weight = dict.keys.map (fun key => ((dict.get key).map weight).getD 0) := by
    unfold values keys
    rw [List.map_map,List.map_map]
    apply List.map_congr_left
    intro item member
    have held : dict.get item.1 = some item.2 := get_eq_some_iff.mpr member
    simp [held]
  have distinct : dict.keys.Nodup := dict.distinct
  rw [listed,← List.sum_toFinset _ distinct]
  apply Finset.sum_subset
  · intro key member
    exact covered key (List.mem_toFinset.mp member)
  · intro key _ absent
    have none : dict.get key = none := by
      rw [Option.eq_none_iff_forall_ne_some]
      intro value held
      exact absent (List.mem_toFinset.mpr (mem_keys_iff.mpr ⟨value,held⟩))
    rw [none]
    rfl

end Lookups

section Tallies

variable {M Item : Type} [AddCommMonoid M]

/-- Adds up the weights of the items by their keys. -/
def tally (key : Item → Key) (weight : Item → M) (items : List Item) : Dict Key M :=
  items.foldl (fun sums item => sums.amend (key item) (fun sum => sum.getD 0 + weight item)) empty

theorem sum_amend (dict : Dict Key M) (key : Key) (x : M) :
    (dict.amend key (fun sum => sum.getD 0 + x)).values.sum = dict.values.sum + x := by
  obtain ⟨items,distinct⟩ := dict
  unfold amend values
  dsimp only
  clear distinct
  induction items with
  | nil => simp [amendItems]
  | cons item rest ih =>
    unfold amendItems
    split
    · rw [List.map_cons,List.sum_cons,List.map_cons,List.sum_cons,Option.getD_some,add_right_comm]
    · rw [List.map_cons,List.sum_cons,ih,List.map_cons,List.sum_cons,add_assoc]

theorem sum_tally (key : Item → Key) (weight : Item → M) (items : List Item) :
    (tally key weight items).values.sum = (items.map weight).sum := by
  induction items using List.reverseRecOn with
  | nil => rfl
  | append_singleton rest item ih =>
    unfold tally at ih ⊢
    rw [List.foldl_append,List.foldl_cons,List.foldl_nil,sum_amend,ih,List.map_append,List.sum_append,List.map_singleton,
      List.sum_singleton]

end Tallies

section Mapping

variable {Other : Type} {dict : Dict Key Value} {key : Key} {value : Value}

omit [DecidableEq Key] in
theorem keys_map (f : Value → Other) (items : List (Key × Value)) :
    (items.map (fun item => (item.1, f item.2))).map Prod.fst = items.map Prod.fst := by
  simp [Function.comp_def]

omit [DecidableEq Key] in
theorem mapValues_distinct (f : Value → Other) (dict : Dict Key Value) :
    ((dict.items.map (fun item => (item.1, f item.2))).map Prod.fst).Nodup := by
  rw [keys_map]
  exact dict.distinct

def mapValues (f : Value → Other) (dict : Dict Key Value) : Dict Key Other :=
  ⟨dict.items.map (fun item => (item.1, f item.2)),mapValues_distinct f dict⟩

omit [DecidableEq Key] in
theorem values_mapValues (f : Value → Other) : (dict.mapValues f).values = dict.values.map f := by
  simp [values,mapValues,Function.comp_def]

omit [DecidableEq Key] in
theorem keys_mapValues (f : Value → Other) : (dict.mapValues f).keys = dict.keys := keys_map f dict.items

theorem get_mapValues (f : Value → Other) : (dict.mapValues f).get key = (dict.get key).map f := by
  unfold get mapValues
  rw [List.find?_map,Option.map_map,Option.map_map]
  rfl

theorem assign_mapValues (f : Value → Other) : (dict.mapValues f).assign key (f value) = (dict.assign key value).mapValues f := by
  obtain ⟨items,distinct⟩ := dict
  unfold assign amend mapValues
  simp only [Dict.mk.injEq]
  clear distinct
  induction items with
  | nil => rfl
  | cons item rest ih =>
    rw [List.map_cons,amendItems,amendItems]
    split
    · simp
    · rw [List.map_cons,ih]

theorem ofPairs_mapValues (f : Value → Other) (pairs : List (Key × Value)) :
    ofPairs (pairs.map (fun pair => (pair.1, f pair.2))) = (ofPairs pairs).mapValues f := by
  induction pairs using List.reverseRecOn with
  | nil => rfl
  | append_singleton rest pair ih =>
    unfold ofPairs at ih ⊢
    rw [List.map_append,List.foldl_append,List.foldl_append,ih]
    exact assign_mapValues f

theorem erase_mapValues (f : Value → Other) : (dict.mapValues f).erase key = (dict.erase key).mapValues f := by
  unfold erase mapValues
  simp only [Dict.mk.injEq,List.filter_map]
  rfl

end Mapping

section Restriction

variable {dict : Dict Key Value} {key wanted : Key} {value : Value} {kept : Value → Bool}

/-- The entries whose value is kept, in their order. -/
def filterValues (kept : Value → Bool) (dict : Dict Key Value) : Dict Key Value :=
  ⟨dict.items.filter (fun item => kept item.2),(List.filter_sublist.map Prod.fst).nodup dict.distinct⟩

omit [DecidableEq Key] in
theorem values_filterValues : (dict.filterValues kept).values = dict.values.filter kept := by
  simp [values,filterValues,List.filter_map,Function.comp_def]

theorem get_filterValues_eq_some : (dict.filterValues kept).get wanted = some value ↔ dict.get wanted = some value ∧ kept value := by
  rw [get_eq_some_iff,get_eq_some_iff]
  simp [filterValues]

theorem filterValues_assign (before : ∀ old, dict.get key = some old → kept old = kept value) :
    (dict.assign key value).filterValues kept =
      if kept value then (dict.filterValues kept).assign key value else dict.filterValues kept := by
  have held : ∀ item ∈ dict.items, item.1 = key → kept item.2 = kept value := by
    intro item member same
    exact before item.2 (get_eq_some_iff.mpr (same ▸ member))
  obtain ⟨items,distinct⟩ := dict
  cases keeps : kept value with
  | _ =>
    unfold assign amend filterValues
    simp only [Bool.false_eq_true,if_true,if_false,Dict.mk.injEq]
    dsimp only at held
    clear distinct before
    induction items with
    | nil => simp [amendItems,keeps]
    | cons item rest ih =>
      have later := ih (fun other member => held other (List.mem_cons_of_mem item member))
      by_cases same : item.1 = key
      · have alike := (held item (List.mem_cons_self ..) same).trans keeps
        simp [amendItems,same,keeps,alike]
      · cases shown : kept item.2 <;> simp [amendItems,same,shown,later]

end Restriction

end Dict

end CloudLens.Library
