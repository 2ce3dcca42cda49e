import CloudLens.Topology.Clustering
import Mathlib.Data.Finset.Dedup
import Mathlib.Logic.Relation

/-! What the collapsed nodes hide. The walk below one of them passes by what is hidden
already, so the order in which the collapsed ones come matters; what the first one
hides is all that lies below it. -/
namespace CloudLens.Topology
open Library

def Follows (pairs : List (String × String)) (a b : String) : Prop := (a, b) ∈ pairs

abbrev Below (pairs : List (String × String)) : String → String → Prop := Relation.TransGen (Follows pairs)

section Walk

variable {pairs : List (String × String)} {collapsedId x : String}

theorem mem_forwardOf {a b : String} : b ∈ forwardOf pairs a ↔ Follows pairs a b := by
  unfold forwardOf Follows
  simp

theorem subset_hideBelow (fuel : ℕ) (queue hidden : List String) : hidden ⊆ hideBelow pairs collapsedId fuel queue hidden := by
  induction fuel generalizing queue hidden with
  | zero => exact List.Subset.refl _
  | succ fuel ih =>
    cases queue with
    | nil => exact List.Subset.refl _
    | cons current rest =>
      rw [hideBelow]
      split
      · exact List.Subset.trans (List.subset_append_left _ _) (ih _ _)
      · exact ih _ _

theorem hideBelow_below (fuel : ℕ) {queue hidden : List String} (below : ∀ y ∈ queue, Below pairs collapsedId y)
    (member : x ∈ hideBelow pairs collapsedId fuel queue hidden) : x ∈ hidden ∨ Below pairs collapsedId x ∧ x ≠ collapsedId := by
  induction fuel generalizing queue hidden with
  | zero => exact Or.inl member
  | succ fuel ih =>
    cases queue with
    | nil => exact Or.inl member
    | cons current rest =>
      have current_below := below current List.mem_cons_self
      have rest_below : ∀ y ∈ rest, Below pairs collapsedId y := fun y inside => below y (List.mem_cons_of_mem _ inside)
      rw [hideBelow] at member
      split at member
      · rename_i visible
        have queued : ∀ y ∈ rest ++ forwardOf pairs current, Below pairs collapsedId y := by
          intro y inside
          rcases List.mem_append.mp inside with waiting | next
          · exact rest_below y waiting
          · exact current_below.tail (mem_forwardOf.mp next)
        rcases ih queued member with before | found
        · rcases List.mem_append.mp before with old | new
          · exact Or.inl old
          · rw [List.mem_singleton.mp new]
            exact Or.inr ⟨current_below,visible.2⟩
        · exact Or.inr found
      · exact ih rest_below member

def ClosedBut (pairs : List (String × String)) (collapsedId : String) (queue hidden : List String) : Prop :=
  ∀ a ∈ hidden, ∀ b, Follows pairs a b → b ∈ hidden ∨ b = collapsedId ∨ b ∈ queue

theorem hideBelow_closed {fuel : ℕ} {queue hidden : List String}
    (enough : queue.length + (pairs.filter (fun pair => pair.1 ∉ hidden)).length ≤ fuel) (closed : ClosedBut pairs collapsedId queue hidden) :
    ClosedBut pairs collapsedId [] (hideBelow pairs collapsedId fuel queue hidden) ∧
      ∀ y ∈ queue, y ∈ hideBelow pairs collapsedId fuel queue hidden ∨ y = collapsedId := by
  induction fuel generalizing queue hidden with
  | zero =>
    have empty : queue = [] := List.eq_nil_of_length_eq_zero (by omega)
    rw [empty] at closed ⊢
    exact ⟨closed,fun y inside => by cases inside⟩
  | succ fuel ih =>
    cases queue with
    | nil => exact ⟨closed,fun y inside => by cases inside⟩
    | cons current rest =>
      rw [List.length_cons] at enough
      rw [hideBelow]
      split
      · rename_i visible
        have traded := traded_edges pairs visible.1
        have next : ClosedBut pairs collapsedId (rest ++ forwardOf pairs current) (hidden ++ [current]) := by
          intro a inside b edge
          rcases List.mem_append.mp inside with old | new
          · rcases closed a old b edge with known | same | waits
            · exact Or.inl (List.mem_append_left _ known)
            · exact Or.inr (Or.inl same)
            · rcases List.mem_cons.mp waits with rfl | later
              · exact Or.inl (List.mem_append_right _ List.mem_cons_self)
              · exact Or.inr (Or.inr (List.mem_append_left _ later))
          · rw [List.mem_singleton.mp new] at edge
            exact Or.inr (Or.inr (List.mem_append_right _ (mem_forwardOf.mpr edge)))
        obtain ⟨done,taken⟩ := ih (by rw [List.length_append]; omega) next
        refine ⟨done,fun y inside => ?_⟩
        rcases List.mem_cons.mp inside with rfl | later
        · exact Or.inl (subset_hideBelow _ _ _ (List.mem_append_right _ List.mem_cons_self))
        · exact taken y (List.mem_append_left _ later)
      · rename_i passed
        have known : current ∈ hidden ∨ current = collapsedId := by
          by_contra fresh
          push Not at fresh
          exact passed fresh
        have next : ClosedBut pairs collapsedId rest hidden := by
          intro a inside b edge
          rcases closed a inside b edge with old | same | waits
          · exact Or.inl old
          · exact Or.inr (Or.inl same)
          · rcases List.mem_cons.mp waits with rfl | later
            · exact known.imp id Or.inl
            · exact Or.inr (Or.inr later)
        obtain ⟨done,taken⟩ := ih (by omega) next
        refine ⟨done,fun y inside => ?_⟩
        rcases List.mem_cons.mp inside with rfl | later
        · exact known.imp (fun old => subset_hideBelow _ _ _ old) id
        · exact taken y later

theorem mem_hideBelow_of_below (below : Below pairs collapsedId x) (apart : x ≠ collapsedId) :
    x ∈ hideBelow pairs collapsedId (2 * pairs.length) (forwardOf pairs collapsedId) [] := by
  have started : (forwardOf pairs collapsedId).length ≤ pairs.length := by
    unfold forwardOf
    rw [List.length_map]
    exact List.length_filter_le _ _
  have left : (pairs.filter (fun pair => pair.1 ∉ ([] : List String))).length ≤ pairs.length := List.length_filter_le _ _
  obtain ⟨closed,taken⟩ := @hideBelow_closed pairs collapsedId (2 * pairs.length) (forwardOf pairs collapsedId) [] (by omega)
    (fun a inside => by cases inside)
  have reached : ∀ y, Below pairs collapsedId y →
      y ∈ hideBelow pairs collapsedId (2 * pairs.length) (forwardOf pairs collapsedId) [] ∨ y = collapsedId := by
    intro y path
    induction path with
    | single edge => exact taken _ (mem_forwardOf.mpr edge)
    | tail _ edge ih =>
      rcases ih with inside | rfl
      · exact (closed _ inside _ edge).imp id fun rest => rest.resolve_right List.not_mem_nil
      · exact taken _ (mem_forwardOf.mpr edge)
  exact (reached x below).resolve_right apart

end Walk

section Collapsed

variable {nodes : List TopologyNode} {pairs : List (String × String)} {maxDepth : ℕ} {order : List String} {x : String}

def withinDepth (nodes : List TopologyNode) (maxDepth : ℕ) : List TopologyNode := nodes.filter (fun node => node.depth ≤ maxDepth)

def innerPairs (nodes : List TopologyNode) (pairs : List (String × String)) (maxDepth : ℕ) : List (String × String) :=
  pairs.filter (fun pair => pair.1 ∈ (withinDepth nodes maxDepth).map TopologyNode.id ∧ pair.2 ∈ (withinDepth nodes maxDepth).map TopologyNode.id)

def Keyed (valid : Dict String TopologyNode) : Prop := ∀ key node, valid.get key = some node → node.id = key

theorem keyed_ofPairs (nodes : List TopologyNode) : Keyed (Dict.ofPairs (nodes.map (fun node => (node.id, node)))) := by
  induction nodes using List.reverseRecOn with
  | nil =>
    intro key node found
    cases found
  | append_singleton nodes last ih =>
    intro key node found
    rw [List.map_append,Dict.ofPairs,List.foldl_append,List.map_singleton,List.foldl_cons,List.foldl_nil,Dict.get_assign] at found
    split at found
    · rename_i same
      cases found
      exact same.symm
    · exact ih key node found

theorem collapseOne_keyed {state : CollapseState} (keyed : Keyed state.valid) (collapsedId : String) :
    Keyed (collapseOne pairs state collapsedId).valid ∧ ∀ key, key ∈ (collapseOne pairs state collapsedId).valid.keys ↔ key ∈ state.valid.keys := by
  unfold collapseOne
  split
  · exact ⟨keyed,fun _ => Iff.rfl⟩
  · rename_i node held
    refine ⟨fun key other found => ?_,fun key => ?_⟩
    · rw [Dict.get_assign] at found
      split at found
      · rename_i same
        cases found
        rw [same]
        exact keyed collapsedId node held
      · exact keyed key other found
    · rw [Dict.assign,Dict.mem_keys_amend]
      refine ⟨fun met => ?_,Or.inr⟩
      rcases met with rfl | inside
      · exact Dict.mem_keys_iff.mpr ⟨node,held⟩
      · exact inside

theorem foldl_collapseOne_keyed {state : CollapseState} (keyed : Keyed state.valid) (order : List String) :
    Keyed (order.foldl (collapseOne pairs) state).valid ∧
      ∀ key, key ∈ (order.foldl (collapseOne pairs) state).valid.keys ↔ key ∈ state.valid.keys := by
  induction order generalizing state with
  | nil => exact ⟨keyed,fun _ => Iff.rfl⟩
  | cons first rest ih =>
    obtain ⟨kept,same⟩ := @collapseOne_keyed pairs state keyed first
    obtain ⟨done,equal⟩ := ih kept
    exact ⟨done,fun key => (equal key).trans (same key)⟩

theorem foldl_erase_keyed {valid : Dict String TopologyNode} (keyed : Keyed valid) (hidden : List String) :
    Keyed (hidden.foldl (fun left id => left.erase id) valid) ∧
      ∀ key, key ∈ (hidden.foldl (fun left id => left.erase id) valid).keys ↔ key ∈ valid.keys ∧ key ∉ hidden := by
  induction hidden generalizing valid with
  | nil => exact ⟨keyed,fun key => by simp⟩
  | cons first rest ih =>
    have left : Keyed (valid.erase first) := by
      intro key node found
      have member := Dict.get_eq_some_iff.mp found
      exact keyed key node (Dict.get_eq_some_iff.mpr (List.mem_of_mem_filter member))
    obtain ⟨kept,same⟩ := ih left
    refine ⟨kept,fun key => (same key).trans ?_⟩
    have erased : key ∈ (valid.erase first).keys ↔ key ∈ valid.keys ∧ key ≠ first := by
      unfold Dict.keys Dict.erase
      simp only [List.mem_map,List.mem_filter,decide_eq_true_eq]
      constructor
      · rintro ⟨item,⟨member,other⟩,rfl⟩
        exact ⟨⟨item,member,rfl⟩,other⟩
      · rintro ⟨⟨item,member,rfl⟩,other⟩
        exact ⟨item,⟨member,other⟩,rfl⟩
    rw [erased,List.mem_cons,not_or,and_assoc]

def hiddenNodes (nodes : List TopologyNode) (pairs : List (String × String)) (maxDepth : ℕ) (order : List String) : List String :=
  (order.foldl (collapseOne (innerPairs nodes pairs maxDepth))
    ⟨Dict.ofPairs ((withinDepth nodes maxDepth).map (fun node => (node.id, node))),[]⟩).hidden

theorem visibleNodes_keys : Keyed (visibleNodes nodes pairs maxDepth order) ∧ ∀ key, key ∈ (visibleNodes nodes pairs maxDepth order).keys ↔
    key ∈ (withinDepth nodes maxDepth).map TopologyNode.id ∧ key ∉ hiddenNodes nodes pairs maxDepth order := by
  obtain ⟨valid,made⟩ : ∃ valid, valid = Dict.ofPairs ((withinDepth nodes maxDepth).map (fun node => (node.id, node))) := ⟨_,rfl⟩
  have keyed : Keyed valid := by
    rw [made]
    exact keyed_ofPairs _
  have keys : ∀ key, key ∈ valid.keys ↔ key ∈ (withinDepth nodes maxDepth).map TopologyNode.id := by
    intro key
    rw [made,Dict.mem_keys_ofPairs,List.map_map]
    rfl
  have inner : pairs.filter (fun pair => pair.1 ∈ valid.keys ∧ pair.2 ∈ valid.keys) = innerPairs nodes pairs maxDepth := by
    unfold innerPairs
    simp only [keys]
  unfold visibleNodes hiddenNodes
  rw [withinDepth] at made
  rw [withinDepth,← made]
  dsimp only
  split
  · rename_i none
    rw [none]
    exact ⟨keyed,fun key => (keys key).trans (by rw [withinDepth]; simp)⟩
  · rw [inner]
    obtain ⟨kept,same⟩ := @foldl_collapseOne_keyed (innerPairs nodes pairs maxDepth) ⟨valid,[]⟩ keyed order
    obtain ⟨done,erased⟩ := foldl_erase_keyed kept (order.foldl (collapseOne (innerPairs nodes pairs maxDepth)) ⟨valid,[]⟩).hidden
    refine ⟨done,fun key => (erased key).trans (and_congr_left fun _ => (same key).trans ?_)⟩
    exact keys key

theorem hidden_below {state : CollapseState} (order : List String)
    (member : x ∈ (order.foldl (collapseOne pairs) state).hidden) :
    x ∈ state.hidden ∨ ∃ c ∈ order, Below pairs c x ∧ x ≠ c := by
  induction order generalizing state with
  | nil => exact Or.inl member
  | cons first rest ih =>
    rcases ih member with before | ⟨c,inside,below⟩
    · unfold collapseOne at before
      split at before
      · exact Or.inl before
      · have waiting : ∀ y ∈ forwardOf pairs first, Below pairs first y := fun y inside => .single (mem_forwardOf.mp inside)
        exact (hideBelow_below _ waiting before).imp id fun found => ⟨first,List.mem_cons_self,found⟩
    · exact Or.inr ⟨c,List.mem_cons_of_mem _ inside,below⟩

theorem hidden_mono (state : CollapseState) (order : List String) : state.hidden ⊆ (order.foldl (collapseOne pairs) state).hidden := by
  induction order generalizing state with
  | nil => exact List.Subset.refl _
  | cons first rest ih =>
    refine List.Subset.trans ?_ (ih (collapseOne pairs state first))
    unfold collapseOne
    split
    · exact List.Subset.refl _
    · exact subset_hideBelow _ _ _

theorem hidden_iff (nodes : List TopologyNode) (pairs : List (String × String)) (maxDepth : ℕ) (collapsed : Finset String) (x : String) :
    (∃ order : List String, order.Nodup ∧ order.toFinset = collapsed ∧ x ∈ hiddenNodes nodes pairs maxDepth order) ↔
      ∃ c ∈ collapsed, Below (innerPairs nodes pairs maxDepth) c x ∧ x ≠ c := by
  constructor
  · rintro ⟨order,_,rfl,member⟩
    rcases hidden_below order member with none | ⟨c,inside,below⟩
    · cases none
    · exact ⟨c,List.mem_toFinset.mpr inside,below⟩
  · rintro ⟨c,inside,below,apart⟩
    refine ⟨c :: (collapsed.erase c).toList,?_,?_,?_⟩
    · exact List.nodup_cons.mpr ⟨by simp,Finset.nodup_toList _⟩
    · rw [List.toFinset_cons,Finset.toList_toFinset,Finset.insert_erase inside]
    · -- the first one finds nothing hidden, and it is within the depth since an edge leaves it
      have within : c ∈ (withinDepth nodes maxDepth).map TopologyNode.id := by
        obtain ⟨_,edge,_⟩ := Relation.TransGen.head'_iff.mp below
        have inner := (List.mem_filter.mp edge).2
        simp only [decide_eq_true_eq] at inner
        exact inner.1
      have held : c ∈ (Dict.ofPairs ((withinDepth nodes maxDepth).map (fun node => (node.id, node)))).keys := by
        rw [Dict.mem_keys_ofPairs,List.map_map]
        exact within
      obtain ⟨node,found⟩ := Dict.mem_keys_iff.mp held
      refine hidden_mono (collapseOne (innerPairs nodes pairs maxDepth)
        ⟨Dict.ofPairs ((withinDepth nodes maxDepth).map (fun node => (node.id, node))),[]⟩ c) _ ?_
      unfold collapseOne
      rw [found]
      exact mem_hideBelow_of_below below apart

end Collapsed

end CloudLens.Topology
