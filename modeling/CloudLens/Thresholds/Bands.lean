import CloudLens.Library.Tiling
import CloudLens.Thresholds.Model
import Mathlib.Data.List.Sort
import Mathlib.Order.WithBot
import Mathlib.Tactic.Linarith

/-! Band lists and the values they decide. The validator orders the bands by
their lower bounds and compares the bounds that follow each other; it looks
neither at the inclusivity of a bound nor at the ends of the list. The lookup
does, and beyond the ends it answers with whatever band is listed last. -/
namespace CloudLens.Thresholds
open Library

inductive BandError
  | empty
  | unboundedUpper (curr nxt : ThresholdBandDefinition)
  | unboundedLower (curr nxt : ThresholdBandDefinition)
  | overlap (curr nxt : ThresholdBandDefinition)
  | discontinuity (curr nxt : ThresholdBandDefinition)

def sortKey (band : ThresholdBandDefinition) : WithBot ℚ :=
  match band.lowerBound with
  | none => ⊥
  | some lower => lower

def sortedBands (bands : List ThresholdBandDefinition) : List ThresholdBandDefinition :=
  bands.insertionSort (fun a b => sortKey a ≤ sortKey b)

def checkAdjacent : List ThresholdBandDefinition → Except BandError Unit
  | curr :: nxt :: rest =>
    match curr.upperBound, nxt.lowerBound with
    | none, _ => .error (.unboundedUpper curr nxt)
    | some _, none => .error (.unboundedLower curr nxt)
    | some upper, some lower =>
      if lower < upper then .error (.overlap curr nxt)
      else if upper < lower then .error (.discontinuity curr nxt)
      else checkAdjacent (nxt :: rest)
  | _ => .ok ()

def validateContiguousNonOverlappingBands (bands : List ThresholdBandDefinition) : Except BandError Unit :=
  if bands = [] then .error .empty else checkAdjacent (sortedBands bands)

namespace ThresholdBandDefinition

def begun (value : ℚ) (band : ThresholdBandDefinition) : Bool :=
  match band.lowerBound with
  | none => true
  | some lower => if band.lowerInclusive then lower ≤ value else lower < value

def remains (value : ℚ) (band : ThresholdBandDefinition) : Bool :=
  match band.upperBound with
  | none => true
  | some upper => if band.upperInclusive then value ≤ upper else value < upper

def inhabited (band : ThresholdBandDefinition) : Bool :=
  match band.lowerBound, band.upperBound with
  | some lower, some upper => lower < upper || (lower = upper && band.lowerInclusive && band.upperInclusive)
  | _, _ => true

def distance (value : ℚ) (band : ThresholdBandDefinition) : ℚ :=
  max ((band.lowerBound.map (· - value)).getD 0) (max ((band.upperBound.map (value - ·)).getD 0) 0)

end ThresholdBandDefinition

open ThresholdBandDefinition

def Covered (bands : List ThresholdBandDefinition) (value : ℚ) : Prop := ∃ band ∈ bands, band.contains value = true

def Beyond (bands : List ThresholdBandDefinition) (value : ℚ) : Prop :=
  (∀ other ≤ value, ¬ Covered bands other) ∨ ∀ other ≥ value, ¬ Covered bands other

def Nearest (bands : List ThresholdBandDefinition) (value : ℚ) (band : ThresholdBandDefinition) : Prop :=
  band ∈ bands ∧ ∀ other ∈ bands, band.distance value ≤ other.distance value

/-- Each value is in one band, whose state it has, or outside the range and then
no breach beside a band that is none; and the order of the list is without effect. -/
structure PartitionsValues (bands : List ThresholdBandDefinition) : Prop where
  placed : ∀ value, bands.countP (fun band => band.contains value) = 1 ∨
    Beyond bands value ∧ ((evaluateRawBand value bands .normal).isBreach →
      ∀ band, Nearest bands value band → band.state.isBreach)
  answered : ∀ value, ∀ band ∈ bands, band.contains value → evaluateRawBand value bands .normal = band.state
  orderless : ∀ value listed, listed.Perm bands → evaluateRawBand value listed .normal = evaluateRawBand value bands .normal

def SharedOnce (bands : List ThresholdBandDefinition) : Prop :=
  ((sortedBands bands).filter inhabited).IsChain (fun a b => a.upperInclusive ≠ b.lowerInclusive)

def Endless (bands : List ThresholdBandDefinition) : Prop :=
  (∃ band ∈ bands, band.lowerBound = none) ∧ ∃ band ∈ bands, band.upperBound = none

def Alike (bands : List ThresholdBandDefinition) : Prop := ∀ a ∈ bands, ∀ b ∈ bands, a.state = b.state

section Validation

def Meets (a b : ThresholdBandDefinition) : Prop := ∃ bound, a.upperBound = some bound ∧ b.lowerBound = some bound

theorem checkAdjacent_ok_iff (bands : List ThresholdBandDefinition) : checkAdjacent bands = .ok () ↔ bands.IsChain Meets := by
  induction bands with
  | nil => exact ⟨fun _ => .nil,fun _ => rfl⟩
  | cons curr rest ih =>
    cases rest with
    | nil => exact ⟨fun _ => .singleton curr,fun _ => rfl⟩
    | cons nxt rest =>
      rw [List.isChain_cons_cons]
      unfold checkAdjacent
      cases above : curr.upperBound with
      | none => simp [Meets,above]
      | some upper =>
        cases below : nxt.lowerBound with
        | none => simp [Meets,below]
        | some lower =>
          have meets : Meets curr nxt ↔ upper = lower := by simp [Meets,above,below,eq_comm]
          rw [meets]
          dsimp only
          split
          · rename_i overlapping
            simp [ne_of_gt overlapping]
          · rename_i notOver
            split
            · rename_i apart
              simp [ne_of_lt apart]
            · rename_i notUnder
              have equal : upper = lower := le_antisymm (not_lt.mp notOver) (not_lt.mp notUnder)
              rw [ih]
              exact (and_iff_right equal).symm

variable {bands : List ThresholdBandDefinition} {a b band : ThresholdBandDefinition} {value : ℚ}

theorem mem_sortedBands : band ∈ sortedBands bands ↔ band ∈ bands := List.mem_insertionSort _

theorem sortedBands_perm (bands : List ThresholdBandDefinition) : (sortedBands bands).Perm bands := List.perm_insertionSort _ bands

theorem sortedBands_sorted (bands : List ThresholdBandDefinition) :
    (sortedBands bands).Pairwise (fun a b => sortKey a ≤ sortKey b) := by
  have total : Std.Total (fun a b : ThresholdBandDefinition => sortKey a ≤ sortKey b) := ⟨fun a b => le_total (sortKey a) (sortKey b)⟩
  have trans : IsTrans ThresholdBandDefinition (fun a b => sortKey a ≤ sortKey b) := ⟨fun _ _ _ => le_trans⟩
  exact List.pairwise_insertionSort _ bands

theorem accepted_chain (accepted : validateContiguousNonOverlappingBands bands = .ok ()) :
    bands ≠ [] ∧ (sortedBands bands).IsChain Meets := by
  unfold validateContiguousNonOverlappingBands at accepted
  split at accepted
  · cases accepted
  · rename_i given
    exact ⟨given,(checkAdjacent_ok_iff _).mp accepted⟩

theorem meets_over (sorted : sortKey band ≤ sortKey b) (first : Meets a band) (second : Meets band b)
    (empty : band.inhabited = false) : Meets a b := by
  obtain ⟨lower,above,begins⟩ := first
  obtain ⟨upper,ends,below⟩ := second
  unfold inhabited at empty
  rw [begins,ends] at empty
  unfold sortKey at sorted
  rw [begins,below] at sorted
  have ordered : lower ≤ upper := WithBot.coe_le_coe.mp sorted
  simp only [Bool.or_eq_false_iff,decide_eq_false_iff_not,not_lt] at empty
  exact ⟨lower,above,below.trans (congrArg some (le_antisymm empty.1 ordered))⟩

theorem meets_inhabited (chain : bands.IsChain Meets) (sorted : bands.Pairwise (fun a b => sortKey a ≤ sortKey b)) :
    (bands.filter inhabited).IsChain Meets := by
  have keepsFirst : ∀ (rest : List ThresholdBandDefinition) (first : ThresholdBandDefinition), (first :: rest).IsChain Meets →
      rest.Pairwise (fun a b => sortKey a ≤ sortKey b) → (first :: rest.filter inhabited).IsChain Meets := by
    intro rest
    induction rest with
    | nil => exact fun first _ _ => .singleton first
    | cons second rest ih =>
      intro first chain sorted
      obtain ⟨meets,chain⟩ := List.isChain_cons_cons.mp chain
      obtain ⟨below,sorted⟩ := List.pairwise_cons.mp sorted
      cases here : second.inhabited with
      | true =>
        rw [List.filter_cons_of_pos here]
        exact List.isChain_cons_cons.mpr ⟨meets,ih second chain sorted⟩
      | false =>
        rw [List.filter_cons_of_neg (by rw [here]; exact Bool.false_ne_true)]
        apply ih first _ sorted
        cases rest with
        | nil => exact .singleton first
        | cons third rest =>
          obtain ⟨next,chain⟩ := List.isChain_cons_cons.mp chain
          exact List.isChain_cons_cons.mpr ⟨meets_over (below third List.mem_cons_self) meets next here,chain⟩
  induction bands with
  | nil => exact .nil
  | cons first rest ih =>
    have later := (List.pairwise_cons.mp sorted).2
    cases here : first.inhabited with
    | true =>
      rw [List.filter_cons_of_pos here]
      exact keepsFirst rest first chain later
    | false =>
      rw [List.filter_cons_of_neg (by rw [here]; exact Bool.false_ne_true)]
      exact ih chain.tail later

end Validation

section Values

variable {bands : List ThresholdBandDefinition} {a b band : ThresholdBandDefinition} {value other : ℚ}

theorem contains_eq (value : ℚ) (band : ThresholdBandDefinition) :
    band.contains value = Tiling.inside (begun value) (remains value) band := rfl

theorem contains_iff : band.contains value = true ↔ begun value band = true ∧ remains value band = true := by
  rw [contains_eq]
  exact Bool.and_eq_true_iff

theorem begun_mono (less : value ≤ other) (here : begun value band = true) : begun other band = true := by
  unfold begun at here ⊢
  split at here
  · rfl
  · split at here
    · rename_i inclusive
      rw [if_pos inclusive]
      exact decide_eq_true ((of_decide_eq_true here).trans less)
    · rename_i exclusive
      rw [if_neg exclusive]
      exact decide_eq_true ((of_decide_eq_true here).trans_le less)

theorem remains_anti (less : other ≤ value) (here : remains value band = true) : remains other band = true := by
  unfold remains at here ⊢
  split at here
  · rfl
  · split at here
    · rename_i inclusive
      rw [if_pos inclusive]
      exact decide_eq_true (less.trans (of_decide_eq_true here))
    · rename_i exclusive
      rw [if_neg exclusive]
      exact decide_eq_true (less.trans_lt (of_decide_eq_true here))

theorem le_of_begun {lower : ℚ} (bound : band.lowerBound = some lower) (here : begun value band = true) : lower ≤ value := by
  unfold begun at here
  rw [bound] at here
  dsimp only at here
  split at here
  · exact of_decide_eq_true here
  · exact le_of_lt (of_decide_eq_true here)

theorem le_of_remains {upper : ℚ} (bound : band.upperBound = some upper) (here : remains value band = true) : value ≤ upper := by
  unfold remains at here
  rw [bound] at here
  dsimp only at here
  split at here
  · exact of_decide_eq_true here
  · exact le_of_lt (of_decide_eq_true here)

theorem inhabited_of_contains (inside : band.contains value = true) : band.inhabited = true := by
  obtain ⟨here,left⟩ := contains_iff.mp inside
  unfold inhabited
  split
  · rename_i lower upper below above
    unfold begun at here
    unfold remains at left
    rw [below] at here
    rw [above] at left
    dsimp only at here left
    rcases lt_trichotomy lower upper with less | same | more
    · simp [less]
    · subst same
      cases low : band.lowerInclusive <;> cases high : band.upperInclusive <;>
        simp only [low,high,if_true,Bool.false_eq_true,if_false,decide_eq_true_eq] at here left
      · exact absurd (here.trans left) (lt_irrefl _)
      · exact absurd (here.trans_le left) (lt_irrefl _)
      · exact absurd (here.trans_lt left) (lt_irrefl _)
      · simp
    · have between := (le_of_begun below (contains_iff.mp inside).1).trans (le_of_remains above (contains_iff.mp inside).2)
      exact absurd between (not_le.mpr more)
  · rfl

theorem begun_or_remains (given : band.inhabited = true) (value : ℚ) : begun value band = true ∨ remains value band = true := by
  by_contra neither
  rw [not_or,Bool.not_eq_true,Bool.not_eq_true] at neither
  obtain ⟨early,late⟩ := neither
  unfold inhabited at given
  unfold begun at early
  unfold remains at late
  cases below : band.lowerBound with
  | none =>
    rw [below] at early
    cases early
  | some lower =>
    cases above : band.upperBound with
    | none =>
      rw [above] at late
      cases late
    | some upper =>
      rw [below] at early given
      rw [above] at late given
      simp only [Bool.or_eq_true,Bool.and_eq_true,decide_eq_true_eq] at given
      have ordered : lower ≤ upper := given.elim le_of_lt (fun point => le_of_eq point.1.1)
      dsimp only at early late
      split at early <;> split at late <;> simp only [decide_eq_false_iff_not,not_le,not_lt] at early late
      · linarith
      · linarith
      · linarith
      · rename_i exclusive _
        have proper : lower < upper := given.resolve_right (fun point => exclusive point.1.2)
        linarith

theorem contains_of_between (above : ∀ lower ∈ band.lowerBound, lower < value) (below : ∀ upper ∈ band.upperBound, value < upper) :
    band.contains value = true := by
  rw [contains_iff]
  unfold begun remains
  constructor
  · cases bound : band.lowerBound with
    | none => rfl
    | some lower =>
      have less := above lower bound
      dsimp only
      split
      · exact decide_eq_true less.le
      · exact decide_eq_true less
  · cases bound : band.upperBound with
    | none => rfl
    | some upper =>
      have less := below upper bound
      dsimp only
      split
      · exact decide_eq_true less.le
      · exact decide_eq_true less

theorem exists_contains (given : band.inhabited = true) : ∃ value, band.contains value = true := by
  cases below : band.lowerBound with
  | none =>
    refine ⟨(band.upperBound.getD 0) - 1,contains_of_between ?_ ?_⟩
    · rw [below]
      exact nofun
    · intro upper bound
      rw [bound,Option.getD_some]
      linarith
  | some lower =>
    cases above : band.upperBound with
    | none =>
      refine ⟨lower + 1,contains_of_between ?_ ?_⟩
      · intro bound same
        rw [below] at same
        cases same
        linarith
      · rw [above]
        exact nofun
    | some upper =>
      unfold inhabited at given
      rw [below,above] at given
      simp only [Bool.or_eq_true,Bool.and_eq_true,decide_eq_true_eq] at given
      rcases given with proper | ⟨⟨same,low⟩,high⟩
      · refine ⟨(lower + upper) / 2,contains_of_between ?_ ?_⟩
        · intro bound same
          rw [below] at same
          cases same
          linarith
        · intro bound same
          rw [above] at same
          cases same
          linarith
      · subst same
        refine ⟨lower,contains_iff.mpr ⟨?_,?_⟩⟩
        · unfold begun
          rw [below]
          simp [low]
        · unfold remains
          rw [above]
          simp [high]

theorem begun_eq_not_remains (meets : Meets a b) (once : a.upperInclusive ≠ b.lowerInclusive) (value : ℚ) :
    begun value b = !remains value a := by
  obtain ⟨bound,above,below⟩ := meets
  unfold begun remains
  rw [above,below]
  cases ends : a.upperInclusive <;> cases begins : b.lowerInclusive <;> rw [ends,begins] at once
  · exact absurd rfl once
  · by_cases less : value < bound
    · simp [less]
    · simp [less,not_lt.mp less]
  · by_cases most : value ≤ bound
    · simp [most]
    · simp [most,not_le.mp most]
  · exact absurd rfl once

theorem begun_at_bound {bound : ℚ} (below : band.lowerBound = some bound) : begun bound band = band.lowerInclusive := by
  unfold begun
  rw [below]
  cases band.lowerInclusive <;> simp

theorem remains_at_bound {bound : ℚ} (above : band.upperBound = some bound) : remains bound band = band.upperInclusive := by
  unfold remains
  rw [above]
  cases band.upperInclusive <;> simp

end Values

section Partition

variable {bands : List ThresholdBandDefinition} {a b band : ThresholdBandDefinition} {value : ℚ}

def Precedes (a b : ThresholdBandDefinition) : Prop :=
  ∃ upper, a.upperBound = some upper ∧ (∃ lower, b.lowerBound = some lower ∧ upper ≤ lower) ∧ ∀ bound ∈ b.upperBound, upper ≤ bound

instance : IsTrans ThresholdBandDefinition Precedes where
  trans := by
    rintro a b c ⟨upper,above,_,past⟩ ⟨bound,ends,⟨lower,below,less⟩,beyond⟩
    have later := past bound ends
    exact ⟨upper,above,⟨lower,below,later.trans less⟩,fun other given => later.trans (beyond other given)⟩

theorem precedes_of_meets (meets : Meets a b) (given : b.inhabited = true) : Precedes a b := by
  obtain ⟨bound,above,below⟩ := meets
  refine ⟨bound,above,⟨bound,below,le_refl bound⟩,?_⟩
  intro upper ends
  unfold inhabited at given
  rw [below,ends] at given
  simp only [Bool.or_eq_true,Bool.and_eq_true,decide_eq_true_eq] at given
  exact given.elim le_of_lt (fun point => le_of_eq point.1.1)

def inhabitedBands (bands : List ThresholdBandDefinition) : List ThresholdBandDefinition := (sortedBands bands).filter inhabited

theorem inhabitedBands_chain (accepted : validateContiguousNonOverlappingBands bands = .ok ()) :
    (inhabitedBands bands).IsChain Meets := meets_inhabited (accepted_chain accepted).2 (sortedBands_sorted bands)

theorem inhabitedBands_precede (accepted : validateContiguousNonOverlappingBands bands = .ok ()) :
    (inhabitedBands bands).Pairwise Precedes := by
  rw [← List.isChain_iff_pairwise]
  apply (inhabitedBands_chain accepted).imp_of_mem_imp
  intro a b _ later meets
  exact precedes_of_meets meets (List.mem_filter.mp later).2

theorem count_inhabitedBands (bands : List ThresholdBandDefinition) (value : ℚ) :
    bands.countP (fun band => band.contains value) = (inhabitedBands bands).countP (fun band => band.contains value) := by
  unfold inhabitedBands
  rw [List.countP_filter,← (sortedBands_perm bands).countP_eq]
  apply List.countP_congr
  intro band _
  rw [Bool.and_eq_true]
  exact ⟨fun inside => ⟨inside,inhabited_of_contains inside⟩,And.left⟩

theorem covered_iff : Covered bands value ↔ bands.countP (fun band => band.contains value) ≠ 0 := by
  rw [← Nat.pos_iff_ne_zero,List.countP_pos_iff]
  rfl

theorem abutting_of_sharedOnce (accepted : validateContiguousNonOverlappingBands bands = .ok ()) (once : SharedOnce bands)
    (value : ℚ) : Tiling.Abutting (begun value) (remains value) (inhabitedBands bands) := by
  refine ⟨fun band member => begun_or_remains (List.mem_filter.mp member).2 value,?_⟩
  apply List.isChain_iff_forall_rel_of_append_cons_cons.mpr
  intro a b before after split
  have meets := List.isChain_iff_forall_rel_of_append_cons_cons.mp (inhabitedBands_chain accepted) split
  have different := List.isChain_iff_forall_rel_of_append_cons_cons.mp once split
  exact begun_eq_not_remains meets different value

theorem placed_of_sharedOnce (accepted : validateContiguousNonOverlappingBands bands = .ok ()) (once : SharedOnce bands)
    (value : ℚ) : bands.countP (fun band => band.contains value) = 1 ∨ Beyond bands value := by
  have abutting := abutting_of_sharedOnce accepted once
  cases row : inhabitedBands bands with
  | nil =>
    refine Or.inr (Or.inl fun other _ covered => ?_)
    rw [covered_iff,count_inhabitedBands,row] at covered
    exact covered rfl
  | cons first rest =>
    rw [row] at abutting
    have count : ∀ other, bands.countP (fun band => band.contains other) =
        (begun other first && remains other ((first :: rest).getLast (List.cons_ne_nil first rest))).toNat := by
      intro other
      rw [count_inhabitedBands,row]
      exact (abutting other).count
    rw [count]
    cases here : begun value first with
    | false =>
      refine Or.inr (Or.inl fun other less covered => ?_)
      rw [covered_iff,count] at covered
      cases there : begun other first with
      | true => exact absurd (begun_mono less there) (by rw [here]; exact Bool.false_ne_true)
      | false => exact covered (by rw [there]; rfl)
    | true =>
      cases left : remains value ((first :: rest).getLast (List.cons_ne_nil first rest)) with
      | true => exact Or.inl rfl
      | false =>
        refine Or.inr (Or.inr fun other more covered => ?_)
        rw [covered_iff,count] at covered
        cases later : remains other ((first :: rest).getLast (List.cons_ne_nil first rest)) with
        | true => exact absurd (remains_anti more later) (by rw [left]; exact Bool.false_ne_true)
        | false =>
          rw [later,Bool.and_false] at covered
          exact covered rfl

theorem uncovered_at_gap (accepted : validateContiguousNonOverlappingBands bands = .ok ()) {before after : List ThresholdBandDefinition}
    (split : inhabitedBands bands = before ++ a :: b :: after) {bound low high : ℚ} (above : a.upperBound = some bound)
    (below : b.lowerBound = some bound) (ends : a.upperInclusive = false) (begins : b.lowerInclusive = false)
    (lowInside : a.contains low = true) (highInside : b.contains high = true) (less : low < bound) (more : bound < high) :
    ¬ Covered bands bound := by
  have order := inhabitedBands_precede accepted
  rw [split,List.pairwise_append,List.pairwise_cons,List.pairwise_cons] at order
  obtain ⟨_,⟨_,bBefore,_⟩,beforeA⟩ := order
  rintro ⟨band,member,inside⟩
  obtain ⟨here,left⟩ := contains_iff.mp inside
  have listed : band ∈ inhabitedBands bands :=
    List.mem_filter.mpr ⟨mem_sortedBands.mpr member,inhabited_of_contains inside⟩
  rw [split] at listed
  rcases List.mem_append.mp listed with early | late
  · obtain ⟨upper,ended,⟨lower,starts,order⟩,_⟩ := beforeA band early a List.mem_cons_self
    have last := le_of_remains ended left
    have started := le_of_begun starts (contains_iff.mp lowInside).1
    linarith
  · rcases List.mem_cons.mp late with rfl | late
    · rw [remains_at_bound above,ends] at left
      cases left
    · rcases List.mem_cons.mp late with rfl | late
      · rw [begun_at_bound below,begins] at here
        cases here
      · obtain ⟨upper,ended,⟨lower,starts,order⟩,_⟩ := bBefore band late
        have last := le_of_remains ended (contains_iff.mp highInside).2
        have started := le_of_begun starts here
        linarith

theorem sharedOnce_of_placed (accepted : validateContiguousNonOverlappingBands bands = .ok ())
    (placed : ∀ value, bands.countP (fun band => band.contains value) = 1 ∨ Beyond bands value) : SharedOnce bands := by
  apply List.isChain_iff_forall_rel_of_append_cons_cons.mpr
  intro a b before after split same
  change inhabitedBands bands = before ++ a :: b :: after at split
  obtain ⟨bound,above,below⟩ := List.isChain_iff_forall_rel_of_append_cons_cons.mp (inhabitedBands_chain accepted) split
  have aListed : a ∈ inhabitedBands bands := by
    rw [split]
    simp
  have bListed : b ∈ inhabitedBands bands := by
    rw [split]
    simp
  obtain ⟨low,lowInside⟩ := exists_contains (List.mem_filter.mp aListed).2
  obtain ⟨high,highInside⟩ := exists_contains (List.mem_filter.mp bListed).2
  have lowLe := le_of_remains above (contains_iff.mp lowInside).2
  have highLe := le_of_begun below (contains_iff.mp highInside).1
  have lowCovered : Covered bands low := ⟨a,mem_sortedBands.mp (List.mem_of_mem_filter aListed),lowInside⟩
  have highCovered : Covered bands high := ⟨b,mem_sortedBands.mp (List.mem_of_mem_filter bListed),highInside⟩
  cases included : a.upperInclusive with
  | true =>
    have aInside : a.contains bound = true :=
      contains_iff.mpr ⟨begun_mono lowLe (contains_iff.mp lowInside).1,by rw [remains_at_bound above,included]⟩
    have bInside : b.contains bound = true :=
      contains_iff.mpr ⟨by rw [begun_at_bound below,← same,included],remains_anti highLe (contains_iff.mp highInside).2⟩
    rcases placed bound with once | early | late
    · rw [count_inhabitedBands,split] at once
      simp only [List.countP_append,List.countP_cons,aInside,bInside,if_true] at once
      omega
    · exact early bound le_rfl ⟨a,mem_sortedBands.mp (List.mem_of_mem_filter aListed),aInside⟩
    · exact late bound le_rfl ⟨a,mem_sortedBands.mp (List.mem_of_mem_filter aListed),aInside⟩
  | false =>
    have less : low < bound := by
      refine lt_of_le_of_ne lowLe ?_
      rintro rfl
      have left := (contains_iff.mp lowInside).2
      rw [remains_at_bound above,included] at left
      cases left
    have more : bound < high := by
      refine lt_of_le_of_ne highLe ?_
      rintro rfl
      have here := (contains_iff.mp highInside).1
      rw [begun_at_bound below,← same,included] at here
      cases here
    have gap := uncovered_at_gap accepted split above below included (same.symm.trans included) lowInside highInside less more
    rcases placed bound with once | early | late
    · exact gap (covered_iff.mpr (by rw [once]; exact Nat.one_ne_zero))
    · exact early low lowLe lowCovered
    · exact late high highLe highCovered

end Partition

section Answers

variable {bands listed : List ThresholdBandDefinition} {a b band : ThresholdBandDefinition} {value : ℚ}

theorem not_holds_normal (band : ThresholdBandDefinition) (value : ℚ) : band.holds value .normal = false := by
  unfold holds
  cases band.state <;> rfl

theorem evaluateRawBand_normal (value : ℚ) (bands : List ThresholdBandDefinition) : evaluateRawBand value bands .normal =
    (((bands.find? (fun band => band.contains value)).or bands.getLast?).map ThresholdBandDefinition.state).getD .normal := by
  unfold evaluateRawBand
  have free : bands.find? (fun band => band.holds value .normal) = none := by
    apply List.find?_eq_none.mpr
    intro band _
    rw [not_holds_normal]
    exact Bool.false_ne_true
  rw [free]
  cases bands.find? (fun band => band.contains value) with
  | some band => rfl
  | none =>
    rw [Option.none_or]
    cases bands.getLast? <;> rfl

theorem evaluateRawBand_once (once : bands.countP (fun band => band.contains value) = 1) (member : band ∈ bands)
    (inside : band.contains value = true) : evaluateRawBand value bands .normal = band.state := by
  rw [evaluateRawBand_normal]
  cases found : bands.find? (fun band => band.contains value) with
  | none => exact absurd inside (List.find?_eq_none.mp found band member)
  | some other =>
    rw [List.countP_eq_length_filter] at once
    obtain ⟨only,filtered⟩ := List.length_eq_one_iff.mp once
    have first : other ∈ bands.filter (fun band => band.contains value) :=
      List.mem_filter.mpr ⟨List.mem_of_find?_eq_some found,by simpa using List.find?_some found⟩
    have second : band ∈ bands.filter (fun band => band.contains value) := List.mem_filter.mpr ⟨member,inside⟩
    rw [filtered,List.mem_singleton] at first second
    rw [first,second]
    rfl

theorem evaluateRawBand_beyond (beyond : Beyond bands value) : evaluateRawBand value bands .normal =
    (bands.getLast?.map ThresholdBandDefinition.state).getD .normal := by
  rw [evaluateRawBand_normal]
  have absent : bands.find? (fun band => band.contains value) = none := by
    apply List.find?_eq_none.mpr
    intro band member inside
    rcases beyond with early | late
    · exact early value le_rfl ⟨band,member,inside⟩
    · exact late value le_rfl ⟨band,member,inside⟩
  rw [absent,Option.none_or]

theorem beyond_congr (same : listed.Perm bands) : Beyond listed value ↔ Beyond bands value := by
  have covered : ∀ other, Covered listed other ↔ Covered bands other := by
    intro other
    unfold Covered
    simp only [same.mem_iff]
  unfold Beyond
  simp only [covered]

theorem evaluateRawBand_alike (alike : Alike bands) (member : band ∈ bands) (value : ℚ) :
    evaluateRawBand value bands .normal = band.state := by
  rw [evaluateRawBand_normal]
  cases found : bands.find? (fun band => band.contains value) with
  | some other => exact alike other (List.mem_of_find?_eq_some found) band member
  | none =>
    cases last : bands.getLast? with
    | none =>
      rw [List.getLast?_eq_none_iff.mp last] at member
      cases member
    | some other => exact alike other (List.mem_of_getLast? last) band member

theorem exists_below (bands : List ThresholdBandDefinition) : ∃ value, ∀ band ∈ bands, ∀ lower ∈ band.lowerBound, value < lower := by
  induction bands with
  | nil => exact ⟨0,nofun⟩
  | cons band rest ih =>
    obtain ⟨value,under⟩ := ih
    refine ⟨min value (band.lowerBound.getD 0 - 1),?_⟩
    intro other member lower bound
    rcases List.mem_cons.mp member with rfl | later
    · rw [bound,Option.getD_some]
      have least := min_le_right value (lower - 1)
      linarith
    · exact (min_le_left _ _).trans_lt (under other later lower bound)

theorem exists_above (bands : List ThresholdBandDefinition) : ∃ value, ∀ band ∈ bands, ∀ upper ∈ band.upperBound, upper < value := by
  induction bands with
  | nil => exact ⟨0,nofun⟩
  | cons band rest ih =>
    obtain ⟨value,above⟩ := ih
    refine ⟨max value (band.upperBound.getD 0 + 1),?_⟩
    intro other member upper bound
    rcases List.mem_cons.mp member with rfl | later
    · rw [bound,Option.getD_some]
      have most := le_max_right value (upper + 1)
      linarith
    · exact (above other later upper bound).trans_le (le_max_left _ _)

theorem exists_beyond (ended : ¬ Endless bands) : ∃ value, Beyond bands value := by
  rcases not_and_or.mp ended with noStart | noEnd
  · obtain ⟨value,under⟩ := exists_below bands
    refine ⟨value,Or.inl ?_⟩
    rintro other less ⟨band,member,inside⟩
    cases bound : band.lowerBound with
    | none => exact noStart ⟨band,member,bound⟩
    | some lower =>
      have started := le_of_begun bound (contains_iff.mp inside).1
      have short := under band member lower bound
      linarith
  · obtain ⟨value,above⟩ := exists_above bands
    refine ⟨value,Or.inr ?_⟩
    rintro other more ⟨band,member,inside⟩
    cases bound : band.upperBound with
    | none => exact noEnd ⟨band,member,bound⟩
    | some upper =>
      have last := le_of_remains bound (contains_iff.mp inside).2
      have short := above band member upper bound
      linarith

theorem not_beyond (endless : Endless bands) : ¬ Beyond bands value := by
  obtain ⟨⟨lowest,lowListed,noStart⟩,highest,highListed,noEnd⟩ := endless
  rintro (early | late)
  · apply early (min value (lowest.upperBound.getD 0 - 1)) (min_le_left _ _)
    refine ⟨lowest,lowListed,contains_of_between ?_ ?_⟩
    · rw [noStart]
      exact nofun
    · intro upper bound
      rw [bound,Option.getD_some]
      have least := min_le_right value (upper - 1)
      linarith
  · apply late (max value (highest.lowerBound.getD 0 + 1)) (le_max_left _ _)
    refine ⟨highest,highListed,contains_of_between ?_ ?_⟩
    · intro lower bound
      rw [bound,Option.getD_some]
      have most := le_max_right value (lower + 1)
      linarith
    · rw [noEnd]
      exact nofun

theorem alike_of_orderless (beyond : Beyond bands value)
    (orderless : ∀ listed, listed.Perm bands → evaluateRawBand value listed .normal = evaluateRawBand value bands .normal) :
    Alike bands := by
  have each : ∀ band ∈ bands, evaluateRawBand value bands .normal = band.state := by
    intro band member
    have moved : (bands.erase band ++ [band]).Perm bands :=
      (List.perm_append_singleton band _).trans (List.perm_cons_erase member).symm
    rw [← orderless _ moved,evaluateRawBand_beyond ((beyond_congr moved).mpr beyond),List.getLast?_concat]
    rfl
  intro a aMember b bMember
  exact (each a aMember).symm.trans (each b bMember)

/-- An accepted list decides every value exactly when two bands with values that
follow each other share their bound, and the list is endless or of one state. -/
theorem bands_partition_iff (bands : List ThresholdBandDefinition) (accepted : validateContiguousNonOverlappingBands bands = .ok ()) :
    PartitionsValues bands ↔ SharedOnce bands ∧ (Endless bands ∨ Alike bands) := by
  constructor
  · intro partitions
    refine ⟨sharedOnce_of_placed accepted fun value => (partitions.placed value).imp_right And.left,?_⟩
    by_cases endless : Endless bands
    · exact Or.inl endless
    · obtain ⟨value,beyond⟩ := exists_beyond endless
      exact Or.inr (alike_of_orderless beyond (partitions.orderless value))
  · rintro ⟨once,complete⟩
    have placed := placed_of_sharedOnce accepted once
    have single : ∀ value band, band ∈ bands → band.contains value = true → bands.countP (fun band => band.contains value) = 1 := by
      intro value band member inside
      refine (placed value).resolve_right ?_
      rintro (early | late)
      · exact early value le_rfl ⟨band,member,inside⟩
      · exact late value le_rfl ⟨band,member,inside⟩
    refine ⟨?_,fun value band member inside => evaluateRawBand_once (single value band member inside) member inside,?_⟩
    · intro value
      refine (placed value).imp_right fun beyond => ⟨beyond,?_⟩
      intro breach band nearest
      have alike := complete.resolve_left fun endless => not_beyond endless beyond
      rwa [evaluateRawBand_alike alike nearest.1] at breach
    · intro value listed same
      rcases placed value with inOne | beyond
      · obtain ⟨band,member,inside⟩ := List.countP_pos_iff.mp (by rw [inOne]; exact Nat.one_pos)
        rw [evaluateRawBand_once inOne member inside]
        exact evaluateRawBand_once ((same.countP_eq _).trans inOne) (same.mem_iff.mpr member) inside
      · have alike := complete.resolve_left fun endless => not_beyond endless beyond
        have others : Alike listed := fun a aMember b bMember => alike a (same.mem_iff.mp aMember) b (same.mem_iff.mp bMember)
        obtain ⟨band,member⟩ := List.exists_mem_of_ne_nil bands (accepted_chain accepted).1
        rw [evaluateRawBand_alike alike member,evaluateRawBand_alike others (same.mem_iff.mpr member)]

end Answers

def twoBands : List ThresholdBandDefinition :=
  [{ state := .critical, lowerBound := some 80 }, { state := .normal, upperBound := some 80 }]

theorem twoBands_partition : PartitionsValues twoBands := by
  apply (bands_partition_iff twoBands rfl).mpr
  refine ⟨?_,Or.inl ⟨⟨_,List.mem_cons_of_mem _ List.mem_cons_self,rfl⟩,_,List.mem_cons_self,rfl⟩⟩
  have order : (sortedBands twoBands).filter inhabited = twoBands.reverse := rfl
  unfold SharedOnce
  rw [order]
  exact List.isChain_pair.mpr (by decide)

def defaultBudgetBands : List ThresholdBandDefinition := createConfigurableBudgetBands 70 90 100 2

/-- A value below zero is answered CRITICAL, though the nearest band is the normal one. -/
theorem below_zero_is_critical : validateContiguousNonOverlappingBands defaultBudgetBands = .ok () ∧
    evaluateRawBand (-5) defaultBudgetBands .normal = .critical ∧ ¬ PartitionsValues defaultBudgetBands := by
  refine ⟨rfl,by decide +kernel,?_⟩
  intro partitions
  have critical : evaluateRawBand (-5) defaultBudgetBands .normal = .critical := by decide +kernel
  rcases partitions.placed (-5) with inOne | ⟨_,breach⟩
  · exact absurd inOne (by decide +kernel)
  · have nearest : Nearest defaultBudgetBands (-5) { state := .normal, lowerBound := some 0, upperBound := some 70 } := by
      refine ⟨List.mem_cons_self,?_⟩
      decide +kernel
    rw [critical] at breach
    exact absurd (breach rfl _ nearest) (by decide)

end CloudLens.Thresholds
