import CloudLens.Library.DenyOverrides
import CloudLens.Library.Casing

/-! Scope grants and their evaluation against a resource target. A grant
restricts eight dimensions, and an empty list or a star leaves its dimension
unrestricted. A caller's decision is the ruling over the votes of the grants
that apply to the caller and match the target, with the two administrator roles
standing in when no grant speaks. -/
namespace CloudLens.Access
open Library Library.DenyOverrides

inductive GranteeType where
  | user
  | role
  deriving DecidableEq

abbrev GrantEffect : Type := DenyOverrides.Effect

inductive FinancialSensitivity where
  | fullFinancialDetail
  | costTotalsOnly
  | nonFinancial
  deriving DecidableEq

inductive ScopingDimension where
  | provider
  | accountBillingBoundary
  | hierarchySubtree
  | projectApplication
  | costCentreBusinessUnit
  | financialDataSensitivity
  | administrative
  | resourceException
  deriving DecidableEq

structure ScopeGrant where
  id : String
  tenantId : String
  granteeType : GranteeType
  granteeId : String
  effect : GrantEffect := .allow
  providers : List String := []
  accountIds : List String := []
  hierarchySubtreeRoots : List String := []
  cascadeHierarchy : Bool := true
  projectIds : List String := []
  applicationIds : List String := []
  costCentreIds : List String := []
  businessUnitIds : List String := []
  financialSensitivity : FinancialSensitivity := .fullFinancialDetail
  isAdministrative : Bool := false
  resourceExceptions : List String := []
  createdBy : String := "system"
  description : Option String := none
  isActive : Bool := true
  deriving DecidableEq

structure ResourceTarget where
  resourceId : Option String := none
  provider : Option String := none
  accountId : Option String := none
  hierarchyPath : List String := []
  projectId : Option String := none
  applicationId : Option String := none
  costCentreId : Option String := none
  businessUnitId : Option String := none
  isFinancial : Bool := false
  isRateDetail : Bool := false
  isAdministrative : Bool := false
  deriving DecidableEq

structure AuthorizationDecision where
  allowed : Bool
  effect : GrantEffect
  reason : String
  matchedGrantId : Option String
  effectiveFinancialSensitivity : FinancialSensitivity
  canViewRates : Bool
  deriving DecidableEq

/-- An absent or starred list leaves its dimension open. -/
def isOpen (allowed : List String) : Bool := allowed = [] || "*" ∈ allowed

def withinList (allowed : List String) (value : Option String) : Bool :=
  isOpen allowed || value.any (fun v => v ∈ allowed)

def normalised (word : String) : String := Text.lower (Text.stripped word)

def providerMatches (grant : ScopeGrant) (target : ResourceTarget) : Bool :=
  isOpen grant.providers || target.provider.any (fun p => normalised p ∈ grant.providers.map normalised)

/-- A present but empty identifier is as good as none. -/
def named (value : Option String) (among : List String) : Bool := value.any (fun v => v ≠ "" ∧ v ∈ among)

def pathMatches (grant : ScopeGrant) (path : List String) : Bool :=
  if grant.cascadeHierarchy then path.any (fun node => node ∈ grant.hierarchySubtreeRoots)
  else path.getLast?.any (fun node => node ∈ grant.hierarchySubtreeRoots)

def hierarchyMatches (grant : ScopeGrant) (target : ResourceTarget) : Bool :=
  isOpen grant.hierarchySubtreeRoots || pathMatches grant target.hierarchyPath ||
    named target.accountId grant.hierarchySubtreeRoots || named target.resourceId grant.hierarchySubtreeRoots

def sensitivityMatches (grant : ScopeGrant) (target : ResourceTarget) : Bool :=
  (!target.isFinancial || grant.financialSensitivity ≠ .nonFinancial) &&
    (!target.isRateDetail || grant.financialSensitivity = .fullFinancialDetail)

/-- The exceptions of an allow grant are left out of it, those of a deny grant are all it denies. -/
def exceptionsMatch (grant : ScopeGrant) (target : ResourceTarget) : Bool :=
  match grant.effect with
  | .allow => !named target.resourceId grant.resourceExceptions
  | .deny => grant.resourceExceptions = [] || named target.resourceId grant.resourceExceptions

def matchesDimension (grant : ScopeGrant) (target : ResourceTarget) : Except ScopingDimension Unit :=
  if !providerMatches grant target then .error .provider
  else if !withinList grant.accountIds target.accountId then .error .accountBillingBoundary
  else if !hierarchyMatches grant target then .error .hierarchySubtree
  else if !withinList grant.projectIds target.projectId then .error .projectApplication
  else if !withinList grant.applicationIds target.applicationId then .error .projectApplication
  else if !withinList grant.costCentreIds target.costCentreId then .error .costCentreBusinessUnit
  else if !withinList grant.businessUnitIds target.businessUnitId then .error .costCentreBusinessUnit
  else if !sensitivityMatches grant target then .error .financialDataSensitivity
  else if target.isAdministrative && !grant.isAdministrative then .error .administrative
  else if !exceptionsMatch grant target then .error .resourceException
  else .ok ()

def isMatch (target : ResourceTarget) (grant : ScopeGrant) : Bool := matchesDimension grant target = .ok ()

structure Caller where
  userId : String
  tenantId : String
  roleCodes : List String

def isApplicable (caller : Caller) (grant : ScopeGrant) : Bool :=
  grant.isActive && (grant.tenantId = caller.tenantId || grant.tenantId = "*") &&
    ((grant.granteeType = .user && grant.granteeId = caller.userId) ||
      (grant.granteeType = .role && grant.granteeId ∈ caller.roleCodes))

def evaluateScopeGrants (caller : Caller) (grants : List ScopeGrant) (target : ResourceTarget) :
    AuthorizationDecision :=
  let applicable := grants.filter (isApplicable caller)
  let denyGrants := applicable.filter (fun g => g.effect = .deny)
  let allowGrants := applicable.filter (fun g => g.effect = .allow)
  match denyGrants.find? (isMatch target) with
  | some denyGrant =>
    { allowed := false
      effect := .deny
      reason := "Access denied by deny scope grant '" ++ denyGrant.id ++ "' (grantee: " ++ denyGrant.granteeId ++
        "). A deny grant defeats all overlapping allow grants."
      matchedGrantId := some denyGrant.id
      effectiveFinancialSensitivity := .nonFinancial
      canViewRates := false }
  | none =>
    match allowGrants.filter (isMatch target) with
    | primaryGrant :: others =>
      let canViewRates := (primaryGrant :: others).any (fun g => g.financialSensitivity = .fullFinancialDetail)
      { allowed := true
        effect := .allow
        reason := "Access granted by allow scope grant '" ++ primaryGrant.id ++ "' (grantee: " ++
          primaryGrant.granteeId ++ ")."
        matchedGrantId := some primaryGrant.id
        effectiveFinancialSensitivity := if canViewRates then .fullFinancialDetail else .costTotalsOnly
        canViewRates := canViewRates }
    | [] =>
      if "SUPER_ADMIN" ∈ caller.roleCodes then
        { allowed := true
          effect := .allow
          reason := "Access granted via Super Admin (SUPER_ADMIN) platform authority."
          matchedGrantId := none
          effectiveFinancialSensitivity := .fullFinancialDetail
          canViewRates := true }
      else if "PLATFORM_ADMIN" ∈ caller.roleCodes then
        { allowed := true
          effect := .allow
          reason := "Access granted via Platform Admin (PLATFORM_ADMIN) tenant authority."
          matchedGrantId := none
          effectiveFinancialSensitivity := .fullFinancialDetail
          canViewRates := true }
      else
        { allowed := false
          effect := .deny
          reason := "Access denied: No matching allow scope grant found for the requested target context."
          matchedGrantId := none
          effectiveFinancialSensitivity := .nonFinancial
          canViewRates := false }

theorem isApplicable_iff (caller : Caller) (grant : ScopeGrant) : isApplicable caller grant = true ↔
    grant.isActive = true ∧ (grant.tenantId = caller.tenantId ∨ grant.tenantId = "*") ∧
      ((grant.granteeType = .user ∧ grant.granteeId = caller.userId) ∨
        (grant.granteeType = .role ∧ grant.granteeId ∈ caller.roleCodes)) := by
  simp only [isApplicable,Bool.and_eq_true,Bool.or_eq_true,decide_eq_true_eq,and_assoc]

theorem guard_ok_iff {holds : Bool} {dimension : ScopingDimension} {next : Except ScopingDimension Unit} :
    (if !holds then .error dimension else next) = .ok () ↔ holds = true ∧ next = .ok () := by
  cases holds <;> simp

theorem matchesDimension_ok_iff (grant : ScopeGrant) (target : ResourceTarget) :
    matchesDimension grant target = .ok () ↔
      providerMatches grant target ∧ withinList grant.accountIds target.accountId ∧ hierarchyMatches grant target ∧
      withinList grant.projectIds target.projectId ∧ withinList grant.applicationIds target.applicationId ∧
      withinList grant.costCentreIds target.costCentreId ∧ withinList grant.businessUnitIds target.businessUnitId ∧
      sensitivityMatches grant target ∧ (!target.isAdministrative || grant.isAdministrative) ∧
      exceptionsMatch grant target := by
  have administrative : (target.isAdministrative && !grant.isAdministrative) =
      !(!target.isAdministrative || grant.isAdministrative) := by simp
  rw [matchesDimension,administrative]
  simp only [guard_ok_iff,and_true]

structure Vote where
  grantId : String
  granteeId : String
  sensitivity : FinancialSensitivity
  deriving DecidableEq

def contribution (grant : ScopeGrant) : Vote := ⟨grant.id,grant.granteeId,grant.financialSensitivity⟩

def vote (caller : Caller) (target : ResourceTarget) (grant : ScopeGrant) : Option (Effect × Vote) :=
  if isApplicable caller grant && isMatch target grant then some (grant.effect, contribution grant) else none

def seesRates (votes : List Vote) : Bool := votes.any (fun v => v.sensitivity = .fullFinancialDetail)

def roleDecision (caller : Caller) : AuthorizationDecision :=
  if "SUPER_ADMIN" ∈ caller.roleCodes then
    ⟨true,.allow,"Access granted via Super Admin (SUPER_ADMIN) platform authority.",none,.fullFinancialDetail,true⟩
  else if "PLATFORM_ADMIN" ∈ caller.roleCodes then
    ⟨true,.allow,"Access granted via Platform Admin (PLATFORM_ADMIN) tenant authority.",none,.fullFinancialDetail,true⟩
  else
    ⟨false,.deny,"Access denied: No matching allow scope grant found for the requested target context.",none,
      .nonFinancial,false⟩

def decision (caller : Caller) : Ruling Vote → AuthorizationDecision
  | .denied v => ⟨false,.deny,"Access denied by deny scope grant '" ++ v.grantId ++ "' (grantee: " ++ v.granteeId ++
      "). A deny grant defeats all overlapping allow grants.",some v.grantId,.nonFinancial,false⟩
  | .permitted v others => ⟨true,.allow,"Access granted by allow scope grant '" ++ v.grantId ++ "' (grantee: " ++
      v.granteeId ++ ").",some v.grantId,if seesRates (v :: others) then .fullFinancialDetail else .costTotalsOnly,
      seesRates (v :: others)⟩
  | .silent => roleDecision caller

theorem filterMap_vote (caller : Caller) (target : ResourceTarget) (effect : Effect) (grants : List ScopeGrant) :
    (grants.filterMap (vote caller target)).filterMap (voiced effect) =
      (((grants.filter (isApplicable caller)).filter (fun g => g.effect = effect)).filter (isMatch target)).map
        contribution := by
  induction grants with
  | nil => rfl
  | cons g rest ih =>
    rw [List.filterMap_cons,List.filter_cons]
    by_cases applies : isApplicable caller g = true <;> by_cases same : g.effect = effect <;>
      by_cases hit : isMatch target g = true <;> simp [vote,voiced,applies,same,hit,ih]

theorem seesRates_contributions (grants : List ScopeGrant) : seesRates (grants.map contribution) =
    grants.any (fun g => g.financialSensitivity = .fullFinancialDetail) := List.any_map

theorem evaluateScopeGrants_eq (caller : Caller) (grants : List ScopeGrant) (target : ResourceTarget) :
    evaluateScopeGrants caller grants target =
      decision caller (resolve (grants.filterMap (vote caller target))) := by
  unfold evaluateScopeGrants resolve
  rw [filterMap_vote,filterMap_vote]
  simp only [← List.head?_filter]
  cases List.filter (isMatch target) ((grants.filter (isApplicable caller)).filter (fun g => g.effect = .deny)) with
  | cons denyGrant rest => rfl
  | nil =>
    cases List.filter (isMatch target) ((grants.filter (isApplicable caller)).filter (fun g => g.effect = .allow)) with
    | nil => rfl
    | cons primaryGrant others =>
      simp only [List.map_cons,List.map_nil,List.head?_nil,ruling,decision]
      rw [← List.map_cons,seesRates_contributions]
      rfl

end CloudLens.Access
