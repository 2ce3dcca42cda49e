import CloudLens.Access.Precedence

/-! Full authorization: the permissions of the caller's roles first, then the
scope grants, then a gate that takes the view of rates away from a caller
without a rate permission. A request without a target is answered from the
permissions alone. -/
namespace CloudLens.Access
open Library Library.DenyOverrides

structure RoleDefinition where
  code : String
  allowedPermissions : List String

structure PermissionCatalogue where
  roles : List (String × RoleDefinition)
  roleSynonyms : List (String × String)
  customRole : String → String → Option RoleDefinition

def resolveRoleCode (catalogue : PermissionCatalogue) (nameOrCode : String) : Option String :=
  let cleaned := Text.stripped nameOrCode
  if (catalogue.roles.lookup cleaned).isSome then some cleaned
  else catalogue.roleSynonyms.lookup (Text.lower cleaned)

def getRole (catalogue : PermissionCatalogue) (nameOrCode tenantId : String) : Option RoleDefinition :=
  match (resolveRoleCode catalogue nameOrCode).bind (fun code => catalogue.roles.lookup code) with
  | some role => some role
  | none => if tenantId = "" then none else catalogue.customRole tenantId (Text.stripped (Text.upper nameOrCode))

def effectivePermissions (catalogue : PermissionCatalogue) (caller : Caller) : List String :=
  caller.roleCodes.flatMap (fun code =>
    match getRole catalogue code caller.tenantId with
    | some role => role.allowedPermissions
    | none => [])

def ratePermissions : List String := ["financial:detail:read", "cost:rates:read", "pricing:read"]

def hasRatePermission (catalogue : PermissionCatalogue) (caller : Caller) : Bool :=
  ratePermissions.any (fun code => code ∈ effectivePermissions catalogue caller)

def gateRates (hasRatePerm : Bool) (decision : AuthorizationDecision) : AuthorizationDecision :=
  if decision.allowed then { decision with canViewRates := decision.canViewRates && hasRatePerm } else decision

def evaluate (catalogue : PermissionCatalogue) (caller : Caller) (permissionCode : String)
    (target : Option ResourceTarget) (grants : List ScopeGrant) : AuthorizationDecision :=
  let hasRatePerm := hasRatePermission catalogue caller
  if permissionCode ∉ effectivePermissions catalogue caller then
    { allowed := false
      effect := .deny
      reason := "Permission denied: Principal lacks required permission '" ++ permissionCode ++ "'."
      matchedGrantId := none
      effectiveFinancialSensitivity := .nonFinancial
      canViewRates := false }
  else if target.any (fun t => t.isRateDetail) && !hasRatePerm then
    { allowed := false
      effect := .deny
      reason := "Access denied: Viewing granular rate details, unit costs, or charge lines " ++
        "requires 'financial:detail:read' permission."
      matchedGrantId := none
      effectiveFinancialSensitivity := .costTotalsOnly
      canViewRates := false }
  else
    match target with
    | none =>
      { allowed := true
        effect := .allow
        reason := "Permission '" ++ permissionCode ++ "' verified. No scope boundaries applied."
        matchedGrantId := none
        effectiveFinancialSensitivity := if hasRatePerm then .fullFinancialDetail else .costTotalsOnly
        canViewRates := hasRatePerm }
    | some target => gateRates hasRatePerm (evaluateScopeGrants caller grants target)

/-- The allow grants behind a decision. Without a target no boundary can fail. -/
def matchingAllowGrants (caller : Caller) (grants : List ScopeGrant) (target : Option ResourceTarget) :
    List ScopeGrant :=
  ((grants.filter (isApplicable caller)).filter (fun g => g.effect = .allow)).filter
    (fun g => target.all (fun t => isMatch t g))

def Administrator (caller : Caller) : Prop := "SUPER_ADMIN" ∈ caller.roleCodes ∨ "PLATFORM_ADMIN" ∈ caller.roleCodes

/-- The decision shows no more than the most some grant in the list allows. -/
def WithinGrants (decision : AuthorizationDecision) (grants : List ScopeGrant) : Prop :=
  ∃ grant ∈ grants, decision.effectiveFinancialSensitivity.rank ≤ grant.financialSensitivity.rank

section Scoped

variable {catalogue : PermissionCatalogue} {caller : Caller} {permissionCode : String} {target : ResourceTarget}
  {grants : List ScopeGrant}

theorem evaluateScopeGrants_of_allowed (ordinary : ¬ Administrator caller)
    (allowed : (evaluateScopeGrants caller grants target).allowed = true) :
    matchingAllowGrants caller grants (some target) ≠ [] ∧
      (evaluateScopeGrants caller grants target).canViewRates =
        (matchingAllowGrants caller grants (some target)).any
          (fun g => g.financialSensitivity = .fullFinancialDetail) ∧
      (evaluateScopeGrants caller grants target).effectiveFinancialSensitivity =
        if (matchingAllowGrants caller grants (some target)).any
          (fun g => g.financialSensitivity = .fullFinancialDetail) then .fullFinancialDetail else .costTotalsOnly := by
  have unprivileged : "SUPER_ADMIN" ∉ caller.roleCodes ∧ "PLATFORM_ADMIN" ∉ caller.roleCodes := not_or.mp ordinary
  have listed : matchingAllowGrants caller grants (some target) =
      ((grants.filter (isApplicable caller)).filter (fun g => g.effect = .allow)).filter (isMatch target) := rfl
  rw [listed]
  simp only [evaluateScopeGrants,unprivileged,if_false] at allowed ⊢
  split at allowed
  · cases allowed
  · rename_i undenied
    split at allowed
    · rename_i primary others matching
      simp only [matching]
      refine ⟨?_,?_,?_⟩
      · simp
      · trivial
      · trivial
    · cases allowed

theorem evaluateScopeGrants_within_grants (ordinary : ¬ Administrator caller)
    (allowed : (evaluateScopeGrants caller grants target).allowed = true)
    (financial : ∃ grant ∈ matchingAllowGrants caller grants (some target), grant.financialSensitivity ≠ .nonFinancial) :
    WithinGrants (evaluateScopeGrants caller grants target) (matchingAllowGrants caller grants (some target)) := by
  obtain ⟨_,_,sensitivity⟩ := evaluateScopeGrants_of_allowed ordinary allowed
  unfold WithinGrants
  rw [sensitivity]
  split
  · rename_i full
    obtain ⟨grant,member,detail⟩ := List.any_eq_true.mp full
    refine ⟨grant,member,?_⟩
    rw [of_decide_eq_true detail]
  · obtain ⟨grant,member,filled⟩ := financial
    refine ⟨grant,member,?_⟩
    cases kind : grant.financialSensitivity with
    | nonFinancial => exact absurd kind filled
    | costTotalsOnly => exact le_rfl
    | fullFinancialDetail => exact Nat.le_succ 1

theorem gateRates_allowed {hasRatePerm : Bool} {decision : AuthorizationDecision}
    (allowed : (gateRates hasRatePerm decision).allowed = true) : decision.allowed = true ∧
      (gateRates hasRatePerm decision).canViewRates = (decision.canViewRates && hasRatePerm) ∧
      (gateRates hasRatePerm decision).effectiveFinancialSensitivity = decision.effectiveFinancialSensitivity := by
  unfold gateRates at allowed ⊢
  split at allowed
  · rename_i granted
    rw [if_pos granted]
    exact ⟨granted,rfl,rfl⟩
  · rename_i refused
    exact absurd allowed refused

theorem evaluate_scoped (allowed : (evaluate catalogue caller permissionCode (some target) grants).allowed = true) :
    evaluate catalogue caller permissionCode (some target) grants =
      gateRates (hasRatePermission catalogue caller) (evaluateScopeGrants caller grants target) := by
  unfold evaluate at allowed ⊢
  dsimp only at allowed ⊢
  split at allowed
  · cases allowed
  · split at allowed
    · cases allowed
    · rename_i permitted detailed
      rw [if_neg permitted,if_neg detailed]

theorem evaluate_unscoped (allowed : (evaluate catalogue caller permissionCode none grants).allowed = true) :
    (evaluate catalogue caller permissionCode none grants).effectiveFinancialSensitivity =
        (if hasRatePermission catalogue caller then .fullFinancialDetail else .costTotalsOnly) ∧
      (evaluate catalogue caller permissionCode none grants).canViewRates = hasRatePermission catalogue caller := by
  unfold evaluate at allowed ⊢
  dsimp only at allowed ⊢
  split at allowed
  · cases allowed
  · rename_i permitted
    rw [if_neg permitted]
    exact ⟨rfl,rfl⟩

end Scoped

/-- What an allowing decision shows a caller without an administrator role. The
view of rates comes only with full detail. Without a target the permissions
decide. With one, some allow grant matches, the sensitivity stays within the
matching grants once one of them is financial, and a caller with a rate
permission who may not view rates is not shown full detail. -/
theorem evaluate_visibility {catalogue : PermissionCatalogue} {caller : Caller} {permissionCode : String}
    {grants : List ScopeGrant} (ordinary : ¬ Administrator caller) (target : Option ResourceTarget)
    (allowed : (evaluate catalogue caller permissionCode target grants).allowed = true) :
    ((evaluate catalogue caller permissionCode target grants).canViewRates = true →
      (evaluate catalogue caller permissionCode target grants).effectiveFinancialSensitivity = .fullFinancialDetail ∧
        hasRatePermission catalogue caller = true) ∧
    (target = none →
      (evaluate catalogue caller permissionCode target grants).canViewRates = hasRatePermission catalogue caller ∧
        (evaluate catalogue caller permissionCode target grants).effectiveFinancialSensitivity =
          if hasRatePermission catalogue caller then .fullFinancialDetail else .costTotalsOnly) ∧
    (target ≠ none →
      matchingAllowGrants caller grants target ≠ [] ∧
      ((∃ grant ∈ matchingAllowGrants caller grants target, grant.financialSensitivity ≠ .nonFinancial) →
        WithinGrants (evaluate catalogue caller permissionCode target grants)
          (matchingAllowGrants caller grants target)) ∧
      (hasRatePermission catalogue caller = true →
        (evaluate catalogue caller permissionCode target grants).canViewRates = false →
        (evaluate catalogue caller permissionCode target grants).effectiveFinancialSensitivity ≠
          .fullFinancialDetail)) := by
  cases target with
  | none =>
    obtain ⟨sensitivity,rates⟩ := evaluate_unscoped allowed
    refine ⟨?_,fun _ => ⟨rates,sensitivity⟩,fun given => absurd rfl given⟩
    intro views
    rw [rates] at views
    rw [sensitivity,if_pos views]
    exact ⟨rfl,views⟩
  | some target =>
    have decided := evaluate_scoped allowed
    rw [decided] at allowed ⊢
    obtain ⟨granted,gated,kept⟩ := gateRates_allowed allowed
    obtain ⟨matched,rates,sensitivity⟩ := evaluateScopeGrants_of_allowed ordinary granted
    have within := evaluateScopeGrants_within_grants ordinary granted
    simp only [WithinGrants] at within ⊢
    rw [gated,kept]
    refine ⟨?_,nofun,fun _ => ⟨matched,within,?_⟩⟩
    · intro views
      obtain ⟨full,permitted⟩ := Bool.and_eq_true_iff.mp views
      rw [rates] at full
      rw [sensitivity,if_pos full]
      exact ⟨rfl,permitted⟩
    · intro permitted hidden
      rw [permitted,Bool.and_true,rates] at hidden
      rw [sensitivity,hidden]
      simp

def analystCatalogue : PermissionCatalogue :=
  { roles := [("ANALYST", ⟨"ANALYST",["cost:read", "pricing:read"]⟩)], roleSynonyms := [], customRole := fun _ _ => none }

def analyst : Caller := ⟨"bob","t-1",["ANALYST"]⟩

def totalsGrant : ScopeGrant :=
  { id := "g-totals", tenantId := "t-1", granteeType := .user, granteeId := "bob", financialSensitivity := .costTotalsOnly }

theorem analyst_ordinary : ¬ Administrator analyst := by
  unfold Administrator analyst
  decide

theorem evaluate_visibility_of_totals :
    WithinGrants (evaluate analystCatalogue analyst "cost:read" (some { isFinancial := true }) [totalsGrant])
      (matchingAllowGrants analyst [totalsGrant] (some { isFinancial := true })) := by
  apply ((evaluate_visibility analyst_ordinary (some { isFinancial := true }) (by decide +kernel)).2.2 (by simp)).2.1
  refine ⟨totalsGrant,?_,by decide⟩
  decide +kernel

/-- Without a target a caller granted cost totals only is shown full detail. -/
theorem unscoped_request_exceeds_grants :
    ¬ Administrator analyst ∧ (evaluate analystCatalogue analyst "cost:read" none [totalsGrant]).allowed = true ∧
      matchingAllowGrants analyst [totalsGrant] none = [totalsGrant] ∧
      ¬ WithinGrants (evaluate analystCatalogue analyst "cost:read" none [totalsGrant])
        (matchingAllowGrants analyst [totalsGrant] none) := by
  refine ⟨analyst_ordinary,by decide +kernel,by decide +kernel,?_⟩
  unfold WithinGrants
  decide +kernel

end CloudLens.Access
