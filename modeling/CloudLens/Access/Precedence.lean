import CloudLens.Access.Stored

/-! A deny grant against an allow grant with the same boundary. One matcher
serves both effects, so the sensitivity and the administrative flag of a deny
grant narrow what it denies. Denial of everything the allow grant permits then
comes down to a comparison of those two fields. -/
namespace CloudLens.Access
open Library Library.DenyOverrides

def FinancialSensitivity.rank : FinancialSensitivity → Nat
  | .nonFinancial => 0
  | .costTotalsOnly => 1
  | .fullFinancialDetail => 2

def requiredSensitivity (target : ResourceTarget) : FinancialSensitivity :=
  if target.isRateDetail then .fullFinancialDetail else if target.isFinancial then .costTotalsOnly else .nonFinancial

theorem sensitivityMatches_iff (grant : ScopeGrant) (target : ResourceTarget) :
    sensitivityMatches grant target = true ↔
      (requiredSensitivity target).rank ≤ grant.financialSensitivity.rank := by
  unfold sensitivityMatches requiredSensitivity
  cases target.isFinancial <;> cases target.isRateDetail <;> cases grant.financialSensitivity <;>
    simp [FinancialSensitivity.rank]

/-- The seven boundary lists and the cascade agree. -/
structure SameBoundary (left right : ScopeGrant) : Prop where
  providers : left.providers = right.providers
  accountIds : left.accountIds = right.accountIds
  hierarchySubtreeRoots : left.hierarchySubtreeRoots = right.hierarchySubtreeRoots
  cascadeHierarchy : left.cascadeHierarchy = right.cascadeHierarchy
  projectIds : left.projectIds = right.projectIds
  applicationIds : left.applicationIds = right.applicationIds
  costCentreIds : left.costCentreIds = right.costCentreIds
  businessUnitIds : left.businessUnitIds = right.businessUnitIds

/-- The deny grant reaches every target the allow grant can reach. -/
structure Covers (denyGrant allowGrant : ScopeGrant) : Prop where
  sensitivity : allowGrant.financialSensitivity.rank ≤ denyGrant.financialSensitivity.rank
  administrative : allowGrant.isAdministrative = true → denyGrant.isAdministrative = true

section Pair

variable {allowGrant denyGrant : ScopeGrant} {target : ResourceTarget}

theorem hierarchyMatches_of_sameBoundary (same : SameBoundary allowGrant denyGrant) :
    hierarchyMatches allowGrant target = hierarchyMatches denyGrant target := by
  simp only [hierarchyMatches,pathMatches,same.hierarchySubtreeRoots,same.cascadeHierarchy]

theorem providerMatches_of_sameBoundary (same : SameBoundary allowGrant denyGrant) :
    providerMatches allowGrant target = providerMatches denyGrant target := by
  simp only [providerMatches,same.providers]

theorem denyGrant_matches_iff (denies : denyGrant.effect = .deny) (unexcepted : denyGrant.resourceExceptions = [])
    (same : SameBoundary allowGrant denyGrant) (hit : isMatch target allowGrant = true) :
    isMatch target denyGrant = true ↔
      (requiredSensitivity target).rank ≤ denyGrant.financialSensitivity.rank ∧
        (target.isAdministrative = true → denyGrant.isAdministrative = true) := by
  rw [isMatch,decide_eq_true_eq,matchesDimension_ok_iff] at hit
  obtain ⟨provider,account,hierarchy,project,application,centre,unit,_,_,_⟩ := hit
  have exceptions : exceptionsMatch denyGrant target = true := by
    simp [exceptionsMatch,denies,unexcepted]
  have administrative : (!target.isAdministrative || denyGrant.isAdministrative) = true ↔
      (target.isAdministrative = true → denyGrant.isAdministrative = true) := by
    cases target.isAdministrative <;> simp
  rw [isMatch,decide_eq_true_eq,matchesDimension_ok_iff,sensitivityMatches_iff,administrative]
  rw [providerMatches_of_sameBoundary same] at provider
  rw [hierarchyMatches_of_sameBoundary same] at hierarchy
  rw [same.accountIds] at account
  rw [same.projectIds] at project
  rw [same.applicationIds] at application
  rw [same.costCentreIds] at centre
  rw [same.businessUnitIds] at unit
  constructor
  · rintro ⟨_,_,_,_,_,_,_,sensitive,admin,_⟩
    exact ⟨sensitive,admin⟩
  · rintro ⟨sensitive,admin⟩
    exact ⟨provider,account,hierarchy,project,application,centre,unit,sensitive,admin,exceptions⟩

theorem covers_of_matches (hit : isMatch target allowGrant = true) (covers : Covers denyGrant allowGrant) :
    (requiredSensitivity target).rank ≤ denyGrant.financialSensitivity.rank ∧
      (target.isAdministrative = true → denyGrant.isAdministrative = true) := by
  rw [isMatch,decide_eq_true_eq,matchesDimension_ok_iff,sensitivityMatches_iff] at hit
  obtain ⟨_,_,_,_,_,_,_,sensitive,administrative,_⟩ := hit
  refine ⟨sensitive.trans covers.sensitivity,?_⟩
  intro flagged
  apply covers.administrative
  simpa [flagged] using administrative

def strictProbe (grant : ScopeGrant) : ResourceTarget :=
  { probe grant grant.applicationIds.head? with
    isFinancial := grant.financialSensitivity ≠ .nonFinancial
    isRateDetail := grant.financialSensitivity = .fullFinancialDetail
    isAdministrative := grant.isAdministrative }

theorem requiredSensitivity_strictProbe (grant : ScopeGrant) :
    requiredSensitivity (strictProbe grant) = grant.financialSensitivity := by
  unfold requiredSensitivity strictProbe
  cases grant.financialSensitivity <;> simp

theorem isMatch_strictProbe (allows : allowGrant.effect = .allow) : isMatch (strictProbe allowGrant) allowGrant = true := by
  have sensitive : sensitivityMatches allowGrant (strictProbe allowGrant) = true := by
    rw [sensitivityMatches_iff,requiredSensitivity_strictProbe]
  have administrative : (!(strictProbe allowGrant).isAdministrative || allowGrant.isAdministrative) = true := by
    cases flag : allowGrant.isAdministrative <;> simp [strictProbe,flag]
  have exceptions : exceptionsMatch allowGrant (strictProbe allowGrant) = true := by
    simp [exceptionsMatch,allows,strictProbe,probe,named]
  rw [isMatch,decide_eq_true_eq,matchesDimension_ok_iff]
  exact ⟨providerMatches_probe allowGrant none,withinList_head _,hierarchyMatches_probe allowGrant none,withinList_head _,
    withinList_head _,withinList_head _,withinList_head _,sensitive,administrative,exceptions⟩

end Pair

section Evaluation

variable {caller : Caller} {grants : List ScopeGrant} {target : ResourceTarget}

theorem denied_of_matching_deny {denyGrant : ScopeGrant} (member : denyGrant ∈ grants)
    (denies : denyGrant.effect = .deny) (applies : isApplicable caller denyGrant = true)
    (hit : isMatch target denyGrant = true) : (evaluateScopeGrants caller grants target).allowed = false := by
  have listed : denyGrant ∈ (grants.filter (isApplicable caller)).filter (fun g => g.effect = .deny) := by
    simp [member,applies,denies]
  cases found : List.find? (isMatch target) ((grants.filter (isApplicable caller)).filter (fun g => g.effect = .deny)) with
  | some first => simp only [evaluateScopeGrants,found]
  | none => exact absurd hit (List.find?_eq_none.mp found denyGrant listed)

theorem allowed_of_matching_allow {allowGrant : ScopeGrant} (member : allowGrant ∈ grants)
    (allows : allowGrant.effect = .allow) (applies : isApplicable caller allowGrant = true)
    (hit : isMatch target allowGrant = true)
    (undenied : ∀ grant ∈ grants, grant.effect = .deny → isMatch target grant = false) :
    (evaluateScopeGrants caller grants target).allowed = true := by
  have silent : List.find? (isMatch target) ((grants.filter (isApplicable caller)).filter (fun g => g.effect = .deny)) =
      none := by
    rw [List.find?_eq_none]
    intro grant listed
    simp only [List.mem_filter,decide_eq_true_eq] at listed
    simp [undenied grant listed.1.1 listed.2]
  have voiced : allowGrant ∈ ((grants.filter (isApplicable caller)).filter (fun g => g.effect = .allow)).filter
      (isMatch target) := by
    simp [member,applies,allows,hit]
  simp only [evaluateScopeGrants,silent]
  split
  · rfl
  · rename_i empty
    rw [empty] at voiced
    cases voiced

end Evaluation

/-- A deny grant that applies to the caller, with the boundary of an allow grant
and no exceptions, denies all the allow grant permits exactly when its
sensitivity is at least that of the allow grant and it is administrative
whenever the allow grant is. -/
theorem deny_defeats_allow_iff {allowGrant denyGrant : ScopeGrant} {caller : Caller}
    (allows : allowGrant.effect = .allow) (denies : denyGrant.effect = .deny)
    (applies : isApplicable caller denyGrant = true) (unexcepted : denyGrant.resourceExceptions = [])
    (same : SameBoundary allowGrant denyGrant) :
    (∀ grants target, allowGrant ∈ grants → denyGrant ∈ grants → isApplicable caller allowGrant = true →
        isMatch target allowGrant = true → (evaluateScopeGrants caller grants target).allowed = false) ↔
      (isApplicable caller allowGrant = true → Covers denyGrant allowGrant) := by
  constructor
  · intro defeated permitted
    have hit := isMatch_strictProbe allows
    have denied := defeated [allowGrant, denyGrant] (strictProbe allowGrant) (by simp) (by simp) permitted hit
    have matched : isMatch (strictProbe allowGrant) denyGrant = true := by
      by_contra missed
      have undenied : ∀ grant ∈ [allowGrant, denyGrant], grant.effect = .deny →
          isMatch (strictProbe allowGrant) grant = false := by
        intro grant member denying
        rcases List.mem_pair.mp member with rfl | rfl
        · rw [allows] at denying
          cases denying
        · simpa using missed
      have allowed := allowed_of_matching_allow (by simp) allows permitted hit undenied
      rw [allowed] at denied
      cases denied
    obtain ⟨sensitive,administrative⟩ := (denyGrant_matches_iff denies unexcepted same hit).mp matched
    rw [requiredSensitivity_strictProbe] at sensitive
    exact ⟨sensitive,administrative⟩
  · intro covers grants target _ member permitted hit
    apply denied_of_matching_deny member denies applies
    rw [denyGrant_matches_iff denies unexcepted same hit]
    exact covers_of_matches hit (covers permitted)

def defaultAllow : ScopeGrant := { id := "g-allow", tenantId := "t-1", granteeType := .user, granteeId := "alice" }

def adminAllow : ScopeGrant := { defaultAllow with isAdministrative := true }

def defaultDeny : ScopeGrant := { defaultAllow with id := "g-deny", effect := .deny }

def adminTarget : ResourceTarget := { resourceId := some "r-1", isAdministrative := true }

def accountAllow : ScopeGrant :=
  { id := "g-totals", tenantId := "t-1", granteeType := .user, granteeId := "alice", providers := ["aws"], accountIds := ["111", "222"],
    financialSensitivity := .costTotalsOnly }

/-- For a role of the caller, and with more detail than the allow grant. -/
def accountDeny : ScopeGrant :=
  { accountAllow with id := "g-stop", effect := .deny, granteeType := .role, granteeId := "ANALYST", financialSensitivity := .fullFinancialDetail }

theorem account_deny_defeats_account_allow : isMatch { provider := some "aws", accountId := some "222", isFinancial := true } accountAllow = true ∧
    ∀ grants target, accountAllow ∈ grants → accountDeny ∈ grants → isMatch target accountAllow = true →
      (evaluateScopeGrants ⟨"alice","t-1",["ANALYST"]⟩ grants target).allowed = false := by
  refine ⟨by decide +kernel,fun grants target allowed denied hit => ?_⟩
  have covers : Covers accountDeny accountAllow := ⟨by decide,by decide⟩
  have same : SameBoundary accountAllow accountDeny := ⟨rfl,rfl,rfl,rfl,rfl,rfl,rfl,rfl⟩
  have unexcepted : accountDeny.resourceExceptions = [] := rfl
  exact (deny_defeats_allow_iff rfl rfl (by decide) unexcepted same).mpr (fun _ => covers) grants target allowed denied (by decide) hit

/-- The default deny grant leaves an administrative target allowed. -/
theorem default_deny_misses_administrative_target :
    adminAllow.effect = .allow ∧ defaultDeny.effect = .deny ∧ defaultDeny.isActive = true ∧
      SameBoundary adminAllow defaultDeny ∧ defaultDeny.resourceExceptions = [] ∧
      adminAllow.granteeType = defaultDeny.granteeType ∧ adminAllow.granteeId = defaultDeny.granteeId ∧
      adminAllow.tenantId = defaultDeny.tenantId ∧ isApplicable ⟨"alice","t-1",[]⟩ adminAllow = true ∧
      isApplicable ⟨"alice","t-1",[]⟩ defaultDeny = true ∧ isMatch adminTarget adminAllow = true ∧
      (evaluateScopeGrants ⟨"alice","t-1",[]⟩ [adminAllow, defaultDeny] adminTarget).allowed = true := by
  refine ⟨rfl,rfl,rfl,⟨rfl,rfl,rfl,rfl,rfl,rfl,rfl,rfl⟩,rfl,rfl,rfl,rfl,?_⟩
  decide +kernel

end CloudLens.Access
