import Mathlib.Data.List.Basic
import Mathlib.Data.List.Forall2
import Mathlib.Data.List.Nodup
import Mathlib.Order.Lattice

/-! Ranked rules of which the first one that answers decides. A list kept in
the order of the ranks answers with its leader, the answering rule ranked before
every other one, so the answer depends on the rules and not on how they came to
be in that order. Then ranked tiers of candidates, of which the first tier that has
a candidate decides, and the items of a list of which none before has their key. -/
namespace CloudLens.Library

namespace FirstMatch

variable {Rule Outcome Rank : Type} [LinearOrder Rank] (rank : Rule → Rank) (answer : Rule → Option Outcome)

structure Leads (rules : List Rule) (winner : Rule) (outcome : Outcome) : Prop where
  member : winner ∈ rules
  answers : answer winner = some outcome
  least : ∀ rule ∈ rules, (answer rule).isSome → rule = winner ∨ rank winner < rank rule

def Ordered (rules : List Rule) : Prop := rules.Pairwise (fun a b => rank a ≤ rank b)

variable {rank answer}

theorem Leads.of_subset {rules others : List Rule} {winner : Rule} {outcome : Outcome}
    (leads : Leads rank answer rules winner outcome) (kept : winner ∈ others)
    (least : ∀ rule ∈ others, rule ∈ rules ∨ answer rule = none ∨ rank winner < rank rule) :
    Leads rank answer others winner outcome := by
  refine ⟨kept,leads.answers,?_⟩
  intro rule member answering
  rcases least rule member with inside | silent | after
  · exact leads.least rule inside answering
  · rw [silent] at answering
    cases answering
  · exact Or.inr after

theorem findSome?_of_leads {rules : List Rule} {winner : Rule} {outcome : Outcome} (ordered : Ordered rank rules)
    (leads : Leads rank answer rules winner outcome) : rules.findSome? answer = some outcome := by
  induction rules with
  | nil => exact absurd leads.member List.not_mem_nil
  | cons rule rest ih =>
    obtain ⟨first,later⟩ := List.pairwise_cons.mp ordered
    rw [List.findSome?_cons]
    cases found : answer rule with
    | none =>
      have behind : winner ∈ rest := by
        rcases List.mem_cons.mp leads.member with same | behind
        · rw [← same,leads.answers] at found
          cases found
        · exact behind
      exact ih later (leads.of_subset behind (fun other inside => Or.inl (List.mem_cons_of_mem _ inside)))
    | some early =>
      have same : rule = winner := by
        rcases leads.least rule List.mem_cons_self (by simp [found]) with same | after
        · exact same
        · rcases List.mem_cons.mp leads.member with same | behind
          · exact same.symm
          · exact absurd (first winner behind) (not_le.mpr after)
      rw [← found,same,leads.answers]

theorem leads_of_findSome? {rules : List Rule} {outcome : Outcome} (ordered : Ordered rank rules)
    (distinct : (rules.map rank).Nodup) (found : rules.findSome? answer = some outcome) :
    ∃ winner, Leads rank answer rules winner outcome := by
  induction rules with
  | nil => cases found
  | cons rule rest ih =>
    obtain ⟨first,later⟩ := List.pairwise_cons.mp ordered
    obtain ⟨fresh,apart⟩ := List.nodup_cons.mp distinct
    rw [List.findSome?_cons] at found
    cases answering : answer rule with
    | none =>
      rw [answering] at found
      obtain ⟨winner,leads⟩ := ih later apart found
      refine ⟨winner,leads.of_subset (List.mem_cons_of_mem _ leads.member) ?_⟩
      intro other member
      rcases List.mem_cons.mp member with rfl | inside
      · exact Or.inr (Or.inl answering)
      · exact Or.inl inside
    | some early =>
      rw [answering] at found
      refine ⟨rule,List.mem_cons_self,answering.trans found,?_⟩
      intro other member _
      rcases List.mem_cons.mp member with same | inside
      · exact Or.inl same
      · refine Or.inr (lt_of_le_of_ne (first other inside) ?_)
        intro same
        exact fresh (same ▸ List.mem_map_of_mem inside)

theorem findSome?_cases {rules : List Rule} (ordered : Ordered rank rules) (distinct : (rules.map rank).Nodup) :
    (∃ winner outcome, Leads rank answer rules winner outcome ∧ rules.findSome? answer = some outcome) ∨
      ((∀ rule ∈ rules, answer rule = none) ∧ rules.findSome? answer = none) := by
  cases found : rules.findSome? answer with
  | none => exact Or.inr ⟨List.findSome?_eq_none_iff.mp found,rfl⟩
  | some outcome =>
    obtain ⟨winner,leads⟩ := leads_of_findSome? ordered distinct found
    exact Or.inl ⟨winner,outcome,leads,rfl⟩

theorem findSome?_congr {rules others : List Rule} (ordered : Ordered rank rules) (distinct : (rules.map rank).Nodup)
    (orderedOthers : Ordered rank others)
    (gained : ∀ rule ∈ others, rule ∈ rules ∨ answer rule = none ∨
      ∃ winner outcome, Leads rank answer rules winner outcome ∧ rank winner < rank rule)
    (lost : ∀ rule ∈ rules, rule ∈ others ∨ answer rule = none ∨
      ∃ winner outcome, Leads rank answer rules winner outcome ∧ rank winner < rank rule) :
    others.findSome? answer = rules.findSome? answer := by
  rcases findSome?_cases ordered distinct with ⟨winner,outcome,leads,found⟩ | ⟨silent,found⟩
  · rw [found]
    have unique : ∀ other result, Leads rank answer rules other result → other = winner := by
      intro other result leading
      rcases leads.least other leading.member (by rw [leading.answers]; rfl) with same | after
      · exact same
      · rcases leading.least winner leads.member (by rw [leads.answers]; rfl) with same | before
        · exact same.symm
        · exact absurd before (lt_asymm after)
    have kept : winner ∈ others := by
      rcases lost winner leads.member with inside | quiet | ⟨other,result,leading,after⟩
      · exact inside
      · rw [leads.answers] at quiet
        cases quiet
      · rw [unique other result leading] at after
        exact absurd after (lt_irrefl _)
    refine findSome?_of_leads orderedOthers (leads.of_subset kept ?_)
    intro rule member
    rcases gained rule member with inside | quiet | ⟨other,result,leading,after⟩
    · exact Or.inl inside
    · exact Or.inr (Or.inl quiet)
    · rw [unique other result leading] at after
      exact Or.inr (Or.inr after)
  · rw [found,List.findSome?_eq_none_iff]
    intro rule member
    rcases gained rule member with inside | quiet | ⟨winner,outcome,leads,_⟩
    · exact silent rule inside
    · exact quiet
    · have nothing := silent winner leads.member
      rw [leads.answers] at nothing
      cases nothing

end FirstMatch

namespace Tiers

variable {α β : Type} {a b : α} {tiers others : List (List α)}

/-- A candidate of the highest tier that has any. -/
inductive Leads (a : α) : List (List α) → Prop
  | here {tier : List α} {lower : List (List α)} (member : a ∈ tier) : Leads a (tier :: lower)
  | under {lower : List (List α)} (leads : Leads a lower) : Leads a ([] :: lower)

theorem leads_of_head (first : tiers.flatten.head? = some a) : Leads a tiers := by
  induction tiers with
  | nil => cases first
  | cons tier lower ih =>
    cases tier with
    | nil => exact .under (ih first)
    | cons candidate rest =>
      rw [List.flatten_cons,List.cons_append,List.head?_cons] at first
      rw [← Option.some.inj first]
      exact .here List.mem_cons_self

theorem Leads.mem_flatten (leads : Leads a tiers) : a ∈ tiers.flatten := by
  induction leads with
  | here member => exact List.mem_flatten_of_mem List.mem_cons_self member
  | under _ ih => exact ih

theorem Leads.of_perm (leads : Leads a tiers) (same : List.Forall₂ List.Perm tiers others) : Leads a others := by
  induction same with
  | nil => exact leads
  | cons tier lower ih =>
    cases leads with
    | here member => exact .here (tier.mem_iff.mp member)
    | under leads =>
      rw [tier.symm.eq_nil]
      exact .under (ih leads)

theorem Leads.unique (first : Leads a tiers) (second : Leads b tiers) (few : ∀ tier ∈ tiers, tier.length ≤ 1) : a = b := by
  induction first with
  | @here tier lower member =>
    cases second with
    | here other =>
      have short := few tier List.mem_cons_self
      obtain ⟨only,rfl⟩ := List.length_eq_one_iff.mp (Nat.le_antisymm short (List.length_pos_of_mem member))
      rw [List.mem_singleton.mp member,List.mem_singleton.mp other]
    | under _ => cases member
  | under _ ih =>
    cases second with
    | here other => cases other
    | under second => exact ih second fun tier member => few tier (List.mem_cons_of_mem [] member)

theorem find?_map (holds : β → Bool) (made : β → α) (rows : List β) :
    (rows.find? holds).map made = ((rows.filter holds).map made).head? := by
  rw [List.head?_map,List.head?_filter]

theorem head?_flatten_cons (tier : List α) (lower : List (List α)) :
    (tier :: lower).flatten.head? = tier.head?.or lower.flatten.head? := by
  rw [List.flatten_cons,List.head?_append]

end Tiers

namespace Firsts

variable {Item Key : Type} [DecidableEq Key] (key : Item → Key)

def keep (kept : List Item) (item : Item) : List Item := if key item ∈ kept.map key then kept else kept ++ [item]

def firsts (items : List Item) : List Item := items.foldl (keep key) []

variable {key} {items kept : List Item} {item wanted : Item}

theorem find?_keep : (keep key kept item).find? (fun other => key other = key wanted) =
    (kept ++ [item]).find? (fun other => key other = key wanted) := by
  unfold keep
  split
  · rename_i within
    obtain ⟨earlier,member,same⟩ := List.mem_map.mp within
    rw [List.find?_append]
    cases found : kept.find? (fun other => key other = key wanted) with
    | some first => rfl
    | none =>
      have different : key earlier ≠ key wanted := by simpa using List.find?_eq_none.mp found earlier member
      rw [Option.none_or,List.find?_singleton,if_neg]
      simpa [same] using different
  · rfl

theorem find?_foldl_keep (kept items : List Item) : (items.foldl (keep key) kept).find? (fun other => key other = key wanted) =
    (kept ++ items).find? (fun other => key other = key wanted) := by
  induction items generalizing kept with
  | nil => rw [List.foldl_nil,List.append_nil]
  | cons item items ih =>
    rw [List.foldl_cons,ih,List.find?_append,find?_keep,← List.find?_append,List.append_assoc,List.singleton_append]

theorem nodup_keep (distinct : (kept.map key).Nodup) : ((keep key kept item).map key).Nodup := by
  unfold keep
  split
  · exact distinct
  · rename_i new
    rw [List.map_append,List.map_singleton,List.nodup_append]
    refine ⟨distinct,List.nodup_singleton _,?_⟩
    intro a member b single
    rw [List.mem_singleton] at single
    rw [single]
    rintro rfl
    exact new member

theorem nodup_foldl_keep (items : List Item) (distinct : (kept.map key).Nodup) : ((items.foldl (keep key) kept).map key).Nodup := by
  induction items generalizing kept with
  | nil => exact distinct
  | cons item items ih => exact ih (nodup_keep distinct)

theorem find?_self_iff (distinct : (kept.map key).Nodup) : kept.find? (fun other => key other = key item) = some item ↔ item ∈ kept := by
  constructor
  · exact List.mem_of_find?_eq_some
  · intro member
    cases found : kept.find? (fun other => key other = key item) with
    | none => simpa using List.find?_eq_none.mp found item member
    | some other =>
      have same : key other = key item := by simpa using List.find?_some found
      rw [List.inj_on_of_nodup_map distinct (List.mem_of_find?_eq_some found) member same]

theorem mem_firsts : item ∈ firsts key items ↔ items.find? (fun other => key other = key item) = some item := by
  have distinct : ((firsts key items).map key).Nodup := nodup_foldl_keep items (by simp)
  rw [← find?_self_iff distinct,firsts,find?_foldl_keep,List.nil_append]

theorem firsts_eq_nil_iff : firsts key items = [] ↔ items = [] := by
  constructor
  · intro none
    cases items with
    | nil => rfl
    | cons item rest =>
      have leads : item ∈ firsts key (item :: rest) := by
        rw [mem_firsts]
        simp
      rw [none] at leads
      cases leads
  · rintro rfl
    rfl

end Firsts

end CloudLens.Library
