import Mathlib.Data.List.Perm.Basic

/-! Votes combined so that a denial defeats every permission. The ruling over a
list of votes is the first denial when there is one, else all permissions in
order, else silence. Appending a vote has an exact effect on the ruling, and
reordering the votes changes it only by the choice of its first entry. -/
namespace CloudLens.Library.DenyOverrides

inductive Effect where
  | allow
  | deny
  deriving DecidableEq

inductive Ruling (α : Type) where
  | denied (first : α)
  | permitted (first : α) (others : List α)
  | silent

variable {α : Type}

def voiced (effect : Effect) (vote : Effect × α) : Option α := if vote.1 = effect then some vote.2 else none

def ruling : List α → List α → Ruling α
  | first :: _, _ => .denied first
  | [], first :: others => .permitted first others
  | [], [] => .silent

def resolve (votes : List (Effect × α)) : Ruling α :=
  ruling (votes.filterMap (voiced .deny)) (votes.filterMap (voiced .allow))

namespace Ruling

def afterAllow (content : α) : Ruling α → Ruling α
  | .denied first => .denied first
  | .permitted first others => .permitted first (others ++ [content])
  | .silent => .permitted content []

def afterDeny (content : α) : Ruling α → Ruling α
  | .denied first => .denied first
  | _ => .denied content

/-- Rulings of one kind, whose permissions are the same up to order. -/
inductive Alike : Ruling α → Ruling α → Prop where
  | denied (a b : α) : Alike (.denied a) (.denied b)
  | permitted {a b : α} {as bs : List α} (same : (a :: as).Perm (b :: bs)) : Alike (.permitted a as) (.permitted b bs)
  | silent : Alike .silent .silent

end Ruling

theorem filterMap_voiced_snoc (votes : List (Effect × α)) (effect other : Effect) (content : α) :
    (votes ++ [(other, content)]).filterMap (voiced effect) =
      votes.filterMap (voiced effect) ++ if other = effect then [content] else [] := by
  rw [List.filterMap_append]
  by_cases same : other = effect <;> simp [voiced,same]

theorem resolve_append_allow (votes : List (Effect × α)) (content : α) :
    resolve (votes ++ [(.allow, content)]) = (resolve votes).afterAllow content := by
  simp only [resolve,filterMap_voiced_snoc,reduceCtorEq,if_false,if_true,List.append_nil]
  cases votes.filterMap (voiced .deny) with
  | cons first rest => rfl
  | nil => cases votes.filterMap (voiced .allow) <;> rfl

theorem resolve_append_deny (votes : List (Effect × α)) (content : α) :
    resolve (votes ++ [(.deny, content)]) = (resolve votes).afterDeny content := by
  simp only [resolve,filterMap_voiced_snoc,reduceCtorEq,if_false,if_true,List.append_nil]
  cases votes.filterMap (voiced .deny) with
  | cons first rest => rfl
  | nil => cases votes.filterMap (voiced .allow) <;> rfl

theorem ruling_perm {denials denials' permits permits' : List α} (denied : denials.Perm denials')
    (permitted : permits.Perm permits') : Ruling.Alike (ruling denials permits) (ruling denials' permits') := by
  cases denials with
  | cons a as =>
    cases denials' with
    | cons b bs => exact .denied a b
    | nil => exact absurd denied.eq_nil (List.cons_ne_nil a as)
  | nil =>
    rw [← denied.nil_eq]
    cases permits with
    | nil =>
      rw [← permitted.nil_eq]
      exact .silent
    | cons a as =>
      cases permits' with
      | cons b bs => exact .permitted permitted
      | nil => exact absurd permitted.eq_nil (List.cons_ne_nil a as)

theorem resolve_perm {votes votes' : List (Effect × α)} (permuted : votes.Perm votes') :
    Ruling.Alike (resolve votes) (resolve votes') :=
  ruling_perm (permuted.filterMap (voiced .deny)) (permuted.filterMap (voiced .allow))

end CloudLens.Library.DenyOverrides
