import Mathlib.Data.List.Chain

/-! Parts in a row, seen from one point. A point that has come to a part and has
not left it is inside; where the parts abut, each begins for the point exactly
when the one before has ended, and a point is inside one part at most. -/
namespace CloudLens.Library.Tiling

variable {Part : Type} {begun remains : Part → Bool} {first : Part} {parts : List Part}

def inside (begun remains : Part → Bool) (part : Part) : Bool := begun part && remains part

structure Abutting (begun remains : Part → Bool) (parts : List Part) : Prop where
  met : ∀ part ∈ parts, begun part = true ∨ remains part = true
  joined : parts.IsChain (fun a b => begun b = !remains a)

theorem Abutting.tail (abutting : Abutting begun remains (first :: parts)) : Abutting begun remains parts :=
  ⟨fun part member => abutting.met part (List.mem_cons_of_mem first member),abutting.joined.tail⟩

theorem Abutting.remains_last (abutting : Abutting begun remains (first :: parts)) (ahead : begun first = false) :
    remains ((first :: parts).getLast (List.cons_ne_nil first parts)) = true := by
  induction parts generalizing first with
  | nil => exact (abutting.met first List.mem_cons_self).resolve_left (by rw [ahead]; exact Bool.false_ne_true)
  | cons second rest ih =>
    rw [List.getLast_cons (List.cons_ne_nil second rest)]
    apply ih abutting.tail
    have remaining : remains first = true :=
      (abutting.met first List.mem_cons_self).resolve_left (by rw [ahead]; exact Bool.false_ne_true)
    rw [(List.isChain_cons_cons.mp abutting.joined).1,remaining]
    rfl

theorem Abutting.count (abutting : Abutting begun remains (first :: parts)) :
    (first :: parts).countP (inside begun remains) =
      (begun first && remains ((first :: parts).getLast (List.cons_ne_nil first parts))).toNat := by
  induction parts generalizing first with
  | nil =>
    rw [List.countP_cons,List.countP_nil,List.getLast_singleton]
    unfold inside
    cases begun first && remains first <;> rfl
  | cons second rest ih =>
    have next := (List.isChain_cons_cons.mp abutting.joined).1
    rw [List.countP_cons,ih abutting.tail,List.getLast_cons (List.cons_ne_nil second rest)]
    unfold inside
    cases left : remains first with
    | true =>
      rw [left] at next
      rw [next,abutting.tail.remains_last next]
      cases begun first <;> rfl
    | false =>
      have here : begun first = true :=
        (abutting.met first List.mem_cons_self).resolve_right (by rw [left]; exact Bool.false_ne_true)
      rw [left] at next
      rw [next,here]
      cases remains ((second :: rest).getLast (List.cons_ne_nil second rest)) <;> rfl

end CloudLens.Library.Tiling
