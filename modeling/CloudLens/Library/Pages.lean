import Mathlib.Data.List.Sort
import Mathlib.Order.Basic

/-! Listings of a store that are ordered by a key alone, from the greatest, and cut after
a number of items; rows of one key stand in any order. What every such listing holds,
what a stable sort makes of it, and what pages taken from several listings add up to. -/
namespace CloudLens.Library.Pages

variable {α β : Type}

section Cut

variable [LinearOrder β] {key : α → β} {items : List α} {item : α} {n : ℕ}

theorem mem_take_of_count (ordered : items.Pairwise (fun a b => key b ≤ key a)) (member : item ∈ items)
    (few : items.countP (fun other => key item ≤ key other) ≤ n) : item ∈ items.take n := by
  obtain ⟨front,back,rfl⟩ := List.append_of_mem member
  have great : ∀ other ∈ front, (fun other => decide (key item ≤ key other)) other = true := by
    intro other inside
    exact decide_eq_true ((List.pairwise_append.mp ordered).2.2 other inside item List.mem_cons_self)
  have counted := List.countP_eq_length.mpr great
  rw [List.countP_append,List.countP_cons_of_pos (by simp),counted] at few
  rw [List.take_append,List.take_of_length_le (by omega)]
  obtain ⟨k,left⟩ : ∃ k, n - front.length = k + 1 := ⟨n - front.length - 1,by omega⟩
  rw [left,List.take_succ_cons]
  exact List.mem_append_right front List.mem_cons_self

/-- A listing in which some items come after the others of their key. -/
def postponed (key : α → β) (late : α → Bool) (items : List α) : List α :=
  items.mergeSort (fun a b => key b < key a || (key a = key b && (!late a || late b)))

variable {late : α → Bool}

theorem postponed_perm : (postponed key late items).Perm items := List.mergeSort_perm _ _

theorem postponed_before : (postponed key late items).Pairwise
    (fun a b => key b < key a ∨ key a = key b ∧ (late a = true → late b = true)) := by
  have transitive : ∀ a b c : α, (key b < key a || (key a = key b && (!late a || late b))) = true →
      (key c < key b || (key b = key c && (!late b || late c))) = true → (key c < key a || (key a = key c && (!late a || late c))) = true := by
    intro a b c first second
    simp only [Bool.or_eq_true,Bool.and_eq_true,decide_eq_true_eq,Bool.not_eq_true'] at first second ⊢
    rcases first with first | ⟨same,lateness⟩
    · rcases second with second | ⟨same,-⟩
      · exact Or.inl (second.trans first)
      · exact Or.inl (same ▸ first)
    · rcases second with second | ⟨again,later⟩
      · exact Or.inl (same ▸ second)
      · refine Or.inr ⟨same.trans again,?_⟩
        rcases lateness with early | late
        · exact Or.inl early
        · rw [late] at later
          exact Or.inr (later.resolve_left Bool.noConfusion)
  have total : ∀ a b : α, ((key b < key a || (key a = key b && (!late a || late b))) ||
      (key a < key b || (key b = key a && (!late b || late a)))) = true := by
    intro a b
    simp only [Bool.or_eq_true,Bool.and_eq_true,decide_eq_true_eq,Bool.not_eq_true']
    rcases lt_trichotomy (key a) (key b) with less | same | more
    · exact Or.inr (Or.inl less)
    · cases lateA : late a with
      | false => exact Or.inl (Or.inr ⟨same,Or.inl rfl⟩)
      | true => exact Or.inr (Or.inr ⟨same.symm,Or.inr rfl⟩)
    · exact Or.inl (Or.inl more)
  refine (List.pairwise_mergeSort transitive total items).imp ?_
  intro a b before
  simp only [Bool.or_eq_true,Bool.and_eq_true,decide_eq_true_eq,Bool.not_eq_true'] at before
  refine before.imp_right (And.imp_right ?_)
  rintro (early | late) first
  · rw [early] at first
    cases first
  · exact late

theorem postponed_ordered : (postponed key late items).Pairwise (fun a b => key b ≤ key a) :=
  postponed_before.imp (fun before => before.elim le_of_lt (fun same => same.1.ge))

theorem not_mem_take_of_count (distinct : items.Nodup)
    (ordered : items.Pairwise (fun a b => key b < key a ∨ key a = key b ∧ (a = item → b = item)))
    (many : n < items.countP (fun other => key item ≤ key other)) : item ∉ items.take n := by
  intro listed
  obtain ⟨front,back,split⟩ := List.append_of_mem listed
  have whole : items = front ++ item :: (back ++ items.drop n) := by
    rw [← List.cons_append,← List.append_assoc,← split,List.take_append_drop]
  have small : (back ++ items.drop n).countP (fun other => key item ≤ key other) = 0 := by
    rw [List.countP_eq_zero]
    intro other inside reached
    rw [whole] at ordered distinct
    have after := (List.pairwise_cons.mp (List.pairwise_append.mp ordered).2.1).1 other inside
    have apart := (List.nodup_cons.mp (List.nodup_append.mp distinct).2.1).1
    rcases after with less | ⟨-,same⟩
    · exact absurd (of_decide_eq_true reached) (not_le.mpr less)
    · exact apart (same rfl ▸ inside)
  have short : front.length + 1 ≤ n := by
    have length := congrArg List.length split
    rw [List.length_take,List.length_append,List.length_cons] at length
    omega
  have most := List.countP_le_length (p := fun other => decide (key item ≤ key other)) (l := front)
  rw [whole,List.countP_append,List.countP_cons_of_pos (by simp),small] at many
  omega

end Cut

section Stable

variable {le : α → α → Bool} {items : List α} {before : α → α → Prop}

theorem before_or_after {a b : α} (ordered : items.Pairwise before) (first : a ∈ items) (second : b ∈ items) (other : a ≠ b) :
    before a b ∨ before b a := by
  obtain ⟨i,boundI,rfl⟩ := List.getElem_of_mem first
  obtain ⟨j,boundJ,rfl⟩ := List.getElem_of_mem second
  have ordered := List.pairwise_iff_getElem.mp ordered
  rcases lt_trichotomy i j with less | rfl | more
  · exact Or.inl (ordered i j boundI boundJ less)
  · exact absurd rfl other
  · exact Or.inr (ordered j i boundJ boundI more)

theorem not_both_sublist {a b : α} (distinct : items.Nodup) (forward : [a, b].Sublist items) : ¬[b, a].Sublist items := by
  induction items with
  | nil => cases forward
  | cons c items ih =>
    have absent := (List.nodup_cons.mp distinct).1
    intro backward
    rcases List.sublist_cons_iff.mp forward with within | ⟨_,same,held⟩
    · rcases List.sublist_cons_iff.mp backward with again | ⟨_,same,-⟩
      · exact ih (List.nodup_cons.mp distinct).2 within again
      · rw [List.cons.injEq] at same
        exact absent (same.1 ▸ within.subset (List.mem_cons_of_mem a List.mem_cons_self))
    · rw [List.cons.injEq] at same
      have inside : a ∈ items := by
        rcases List.sublist_cons_iff.mp backward with again | ⟨_,other,held⟩
        · exact again.subset (List.mem_cons_of_mem b List.mem_cons_self)
        · rw [List.cons.injEq] at other
          exact held.subset (other.2 ▸ List.mem_cons_self)
      exact absent (same.1 ▸ inside)

theorem sorted_stable (transitive : ∀ a b c : α, le a b = true → le b c = true → le a c = true)
    (total : ∀ a b : α, (le a b || le b a) = true) (distinct : items.Nodup) (ordered : items.Pairwise before) :
    (items.mergeSort le).Pairwise (fun a b => le a b = true ∧ (le b a = true → before a b)) := by
  have sorted := List.pairwise_mergeSort transitive total items
  have nodup : (items.mergeSort le).Nodup := (List.mergeSort_perm items le).nodup_iff.mpr distinct
  rw [List.pairwise_iff_forall_sublist] at sorted ⊢
  intro a b pair
  refine ⟨sorted pair,fun tie => ?_⟩
  have different : a ≠ b := (List.pairwise_iff_forall_sublist.mp nodup) pair
  have first : a ∈ items := List.mem_mergeSort.mp (pair.subset List.mem_cons_self)
  have second : b ∈ items := List.mem_mergeSort.mp (pair.subset (List.mem_cons_of_mem a List.mem_cons_self))
  have kept : (items.Pairwise (fun a b => [a, b].Sublist items)) := by
    rw [List.pairwise_iff_forall_sublist]
    intro a b pair
    exact pair
  rcases before_or_after kept first second different with listed | listed
  · exact (List.pairwise_iff_forall_sublist.mp ordered) listed
  · exact absurd (List.pair_sublist_mergeSort transitive total tie listed) (not_both_sublist nodup pair)

end Stable

section Concatenated

/-- The pages of a size, each from a listing of its own. -/
def pages (listing : ℕ → List α) (size count : ℕ) : List α :=
  (List.range count).flatMap (fun k => ((listing k).drop (k * size)).take size)

theorem pages_constant (items : List α) (size count : ℕ) : pages (fun _ => items) size count = items.take (count * size) := by
  induction count with
  | zero => simp [pages]
  | succ count ih =>
    unfold pages at ih ⊢
    rw [List.range_succ,List.flatMap_append,ih,List.flatMap_singleton,Nat.succ_mul,List.take_add]

theorem pages_single (listing : ℕ → List α) (p rest : ℕ) : pages listing 1 (p + (rest + 1)) =
    pages listing 1 p ++ (((listing p).drop p).take 1 ++ (List.range rest).flatMap (fun k => ((listing (p + (k + 1))).drop (p + (k + 1))).take 1)) := by
  unfold pages
  rw [List.range_add,List.flatMap_append,List.range_succ_eq_map,List.map_cons,List.flatMap_cons,List.map_map,List.flatMap_map]
  simp only [Nat.mul_one,Nat.add_zero]
  rfl

theorem listings_agree {listed : List α → Prop} {reference : List α}
    (complete : ∀ listing : ℕ → List α, (∀ k, listed (listing k)) → ∀ size count, 1 ≤ size → reference.length ≤ count * size →
      (pages listing size count).Perm reference) {one other : List α} (first : listed one) (second : listed other) : one = other := by
  have whole : ∀ {items : List α}, listed items → items.Perm reference := by
    intro items member
    have all := complete (fun _ => items) (fun _ => member) 1 (items.length + reference.length) le_rfl (by omega)
    rwa [pages_constant,List.take_of_length_le (by omega)] at all
  have lengths : one.length = other.length := (whole first).length_eq.trans (whole second).length_eq.symm
  apply List.ext_getElem lengths
  intro p bound boundOther
  -- the page of this item alone comes from the other listing
  have mixed : ∀ k, listed (if k = p then other else one) := by
    intro k
    split
    · exact second
    · exact first
  have enough : reference.length ≤ (p + ((one.length - p - 1) + 1)) * 1 := by
    rw [← (whole first).length_eq]
    omega
  have constant := complete (fun _ => one) (fun _ => first) 1 _ le_rfl enough
  have switched := complete (fun k => if k = p then other else one) mixed 1 _ le_rfl enough
  have same := constant.trans switched.symm
  have early : pages (fun k => if k = p then other else one) 1 p = pages (fun _ => one) 1 p := by
    unfold pages
    apply List.flatMap_congr
    intro k member
    dsimp only
    rw [if_neg (Nat.ne_of_lt (List.mem_range.mp member))]
  have late : ∀ k, (if p + (k + 1) = p then other else one) = one := by
    intro k
    rw [if_neg (by omega)]
  rw [pages_single,pages_single,early,List.perm_append_left_iff] at same
  simp only [late,if_pos] at same
  rw [List.perm_append_right_iff,List.drop_eq_getElem_cons bound,List.drop_eq_getElem_cons boundOther] at same
  have item := List.perm_singleton.mp same.symm
  exact (List.cons.inj item).1.symm

end Concatenated

end CloudLens.Library.Pages
