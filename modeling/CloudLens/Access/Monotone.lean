import CloudLens.Access.Model

/-! How a decision depends on the list of grants. It is a function of the votes
alone, so a grant without a vote may be added anywhere, the order matters only
for the grant that is named, an allow grant never takes access away and a deny
grant never gives it. -/
namespace CloudLens.Access
open Library Library.DenyOverrides

section Votes

variable {caller : Caller} {target : ResourceTarget} {grant : ScopeGrant}

theorem vote_effect {effect : Effect} {content : Vote} (voted : vote caller target grant = some (effect, content)) :
    effect = grant.effect := by
  unfold vote at voted
  split at voted
  · cases voted
    rfl
  · cases voted

theorem vote_of_not_applicable (inapplicable : isApplicable caller grant = false) :
    vote caller target grant = none := by
  simp [vote,inapplicable]

theorem isApplicable_of_foreign (own : grant.tenantId ≠ caller.tenantId) (global : grant.tenantId ≠ "*") :
    isApplicable caller grant = false := by
  simp [isApplicable,own,global]

theorem isApplicable_of_inactive (inactive : grant.isActive = false) : isApplicable caller grant = false := by
  simp [isApplicable,inactive]

def OtherGrantee (caller : Caller) (grant : ScopeGrant) : Prop :=
  (grant.granteeType = .user → grant.granteeId ≠ caller.userId) ∧
    (grant.granteeType = .role → grant.granteeId ∉ caller.roleCodes)

theorem isApplicable_of_otherGrantee (other : OtherGrantee caller grant) : isApplicable caller grant = false := by
  obtain ⟨user,role⟩ := other
  cases kind : grant.granteeType with
  | user => simp [isApplicable,kind,user kind]
  | role => simp [isApplicable,kind,role kind]

end Votes

theorem evaluateScopeGrants_snoc (caller : Caller) (grants : List ScopeGrant) (grant : ScopeGrant)
    (target : ResourceTarget) :
    evaluateScopeGrants caller (grants ++ [grant]) target = evaluateScopeGrants caller grants target ∨
      ∃ content, evaluateScopeGrants caller (grants ++ [grant]) target =
        decision caller (resolve (grants.filterMap (vote caller target) ++ [(grant.effect, content)])) := by
  rw [evaluateScopeGrants_eq,evaluateScopeGrants_eq,List.filterMap_append]
  cases voted : vote caller target grant with
  | none =>
    left
    rw [List.filterMap_cons_none voted,List.filterMap_nil,List.append_nil]
  | some cast =>
    obtain ⟨effect,content⟩ := cast
    right
    refine ⟨content,?_⟩
    rw [List.filterMap_cons_some voted,List.filterMap_nil,vote_effect voted]

theorem evaluateScopeGrants_insert {caller : Caller} {target : ResourceTarget} {grant : ScopeGrant}
    (unvoiced : vote caller target grant = none) (before after : List ScopeGrant) :
    evaluateScopeGrants caller (before ++ grant :: after) target =
      evaluateScopeGrants caller (before ++ after) target := by
  rw [evaluateScopeGrants_eq,evaluateScopeGrants_eq,List.filterMap_append,List.filterMap_append,
    List.filterMap_cons_none unvoiced]

theorem seesRates_perm {votes votes' : List Vote} (permuted : votes.Perm votes') :
    seesRates votes = seesRates votes' := permuted.any_eq

theorem decision_alike (caller : Caller) {left right : Ruling Vote} (alike : Ruling.Alike left right) :
    (decision caller left).allowed = (decision caller right).allowed ∧
      (decision caller left).effectiveFinancialSensitivity = (decision caller right).effectiveFinancialSensitivity ∧
      (decision caller left).canViewRates = (decision caller right).canViewRates := by
  cases alike with
  | denied a b => exact ⟨rfl,rfl,rfl⟩
  | silent => exact ⟨rfl,rfl,rfl⟩
  | permitted same =>
    simp only [decision,seesRates_perm same]
    exact ⟨trivial,trivial,trivial⟩

theorem allowed_afterAllow {caller : Caller} {held : Ruling Vote} (content : Vote)
    (allowed : (decision caller held).allowed = true) : (decision caller (held.afterAllow content)).allowed = true := by
  cases held with
  | denied v => cases allowed
  | permitted v others => rfl
  | silent => rfl

theorem allowed_afterDeny (caller : Caller) (held : Ruling Vote) (content : Vote) :
    (decision caller (held.afterDeny content)).allowed = false := by
  cases held <;> rfl

theorem allow_grant_keeps_access {caller : Caller} {grants : List ScopeGrant} {grant : ScopeGrant}
    {target : ResourceTarget} (allows : grant.effect = .allow)
    (allowed : (evaluateScopeGrants caller grants target).allowed = true) :
    (evaluateScopeGrants caller (grants ++ [grant]) target).allowed = true := by
  rcases evaluateScopeGrants_snoc caller grants grant target with same | ⟨content,cast⟩
  · rw [same]
    exact allowed
  · rw [evaluateScopeGrants_eq] at allowed
    rw [cast,allows,resolve_append_allow]
    exact allowed_afterAllow content allowed

theorem deny_grant_gives_no_access {caller : Caller} {grants : List ScopeGrant} {grant : ScopeGrant}
    {target : ResourceTarget} (denies : grant.effect = .deny)
    (refused : (evaluateScopeGrants caller grants target).allowed = false) :
    (evaluateScopeGrants caller (grants ++ [grant]) target).allowed = false := by
  rcases evaluateScopeGrants_snoc caller grants grant target with same | ⟨content,cast⟩
  · rw [same]
    exact refused
  · rw [cast,denies,resolve_append_deny]
    exact allowed_afterDeny caller _ content

/-- The order of the grants does not reach access, sensitivity or the view of
rates, an allow grant never takes access away, a deny grant never gives it, and
a grant of another tenant, of another grantee or out of force changes nothing. -/
theorem grants_act_monotonically (caller : Caller) (grants : List ScopeGrant) (target : ResourceTarget) :
    (∀ permuted : List ScopeGrant, grants.Perm permuted →
      (evaluateScopeGrants caller grants target).allowed = (evaluateScopeGrants caller permuted target).allowed ∧
      (evaluateScopeGrants caller grants target).effectiveFinancialSensitivity =
        (evaluateScopeGrants caller permuted target).effectiveFinancialSensitivity ∧
      (evaluateScopeGrants caller grants target).canViewRates =
        (evaluateScopeGrants caller permuted target).canViewRates) ∧
    (∀ grant : ScopeGrant, grant.effect = .allow → (evaluateScopeGrants caller grants target).allowed = true →
      (evaluateScopeGrants caller (grants ++ [grant]) target).allowed = true) ∧
    (∀ grant : ScopeGrant, grant.effect = .deny → (evaluateScopeGrants caller grants target).allowed = false →
      (evaluateScopeGrants caller (grants ++ [grant]) target).allowed = false) ∧
    (∀ (grant : ScopeGrant) (before after : List ScopeGrant), grants = before ++ after →
      ((grant.tenantId ≠ caller.tenantId ∧ grant.tenantId ≠ "*") ∨ OtherGrantee caller grant ∨ grant.isActive = false) →
      evaluateScopeGrants caller (before ++ grant :: after) target = evaluateScopeGrants caller grants target) := by
  refine ⟨?_,fun grant => allow_grant_keeps_access,fun grant => deny_grant_gives_no_access,?_⟩
  · intro permuted order
    rw [evaluateScopeGrants_eq,evaluateScopeGrants_eq]
    apply decision_alike
    apply resolve_perm
    exact order.filterMap (vote caller target)
  · intro grant before after split irrelevant
    rw [split]
    apply evaluateScopeGrants_insert
    apply vote_of_not_applicable
    rcases irrelevant with ⟨own,global⟩ | other | inactive
    · exact isApplicable_of_foreign own global
    · exact isApplicable_of_otherGrantee other
    · exact isApplicable_of_inactive inactive

end CloudLens.Access
