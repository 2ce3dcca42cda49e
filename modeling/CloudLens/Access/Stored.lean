import CloudLens.Access.Monotone
import CloudLens.Library.Table

/-! Scope grants in the store. A row keeps the grantee and the effect in columns
and the dimensions in a document of named members, each of which may be absent
and some of which have a second name from an earlier schema. The document has no
member for the applications of a grant, and a conflicting row keeps its tenant. -/
namespace CloudLens.Access
open Library Library.DenyOverrides

def GranteeType.value : GranteeType → String
  | .user => "USER"
  | .role => "ROLE"

def GranteeType.ofValue (value : String) : Option GranteeType :=
  if value = "USER" then some .user else if value = "ROLE" then some .role else none

def effectValue : GrantEffect → String
  | .allow => "ALLOW"
  | .deny => "DENY"

def effectOfValue (value : String) : Option GrantEffect :=
  if value = "ALLOW" then some .allow else if value = "DENY" then some .deny else none

def FinancialSensitivity.value : FinancialSensitivity → String
  | .fullFinancialDetail => "FULL_FINANCIAL_DETAIL"
  | .costTotalsOnly => "COST_TOTALS_ONLY"
  | .nonFinancial => "NON_FINANCIAL"

def FinancialSensitivity.ofValue (value : String) : Option FinancialSensitivity :=
  if value = "FULL_FINANCIAL_DETAIL" then some .fullFinancialDetail
  else if value = "COST_TOTALS_ONLY" then some .costTotalsOnly
  else if value = "NON_FINANCIAL" then some .nonFinancial else none

structure GrantData where
  providers : Option (List String)
  accountIds : Option (List String)
  hierarchySubtreeRoots : Option (List String)
  cascadeHierarchy : Option Bool
  projectIds : Option (List String)
  costCentreCodes : Option (List String)
  businessUnitCodes : Option (List String)
  costCentreIds : Option (List String)
  businessUnitIds : Option (List String)
  financialSensitivity : Option String
  isAdministrative : Option Bool
  administrative : Option Bool
  resourceExceptions : Option (List String)
  resourceExceptionsAllow : Option (List String)
  resourceExceptionsDeny : Option (List String)
  isActive : Option Bool

structure GrantRow where
  tenantId : String
  granteeType : String
  granteeId : String
  effect : String
  data : GrantData

abbrev RoleGrants : Type := Table String GrantRow

inductive RbacError where
  | valueError (value : String)
  deriving DecidableEq

def parsed {α : Type} (parse : String → Option α) (value : String) : Except RbacError α :=
  match parse value with
  | some result => .ok result
  | none => .error (.valueError value)

def rowToGrant (id : String) (row : GrantRow) : Except RbacError ScopeGrant := do
  let granteeType ← parsed GranteeType.ofValue row.granteeType
  let effect ← parsed effectOfValue row.effect
  let financialSensitivity ← parsed FinancialSensitivity.ofValue
    (row.data.financialSensitivity.getD "FULL_FINANCIAL_DETAIL")
  return {
    id := id
    tenantId := row.tenantId
    granteeType := granteeType
    granteeId := row.granteeId
    effect := effect
    providers := row.data.providers.getD []
    accountIds := row.data.accountIds.getD []
    hierarchySubtreeRoots := row.data.hierarchySubtreeRoots.getD []
    cascadeHierarchy := row.data.cascadeHierarchy.getD true
    projectIds := row.data.projectIds.getD []
    costCentreIds := row.data.costCentreIds.getD (row.data.costCentreCodes.getD [])
    businessUnitIds := row.data.businessUnitIds.getD (row.data.businessUnitCodes.getD [])
    financialSensitivity := financialSensitivity
    isAdministrative := row.data.isAdministrative.getD (row.data.administrative.getD false)
    resourceExceptions := row.data.resourceExceptions.getD (row.data.resourceExceptionsAllow.getD [])
    isActive := row.data.isActive.getD true }

def grantData (grant : ScopeGrant) : GrantData where
  providers := some grant.providers
  accountIds := some grant.accountIds
  hierarchySubtreeRoots := some grant.hierarchySubtreeRoots
  cascadeHierarchy := some grant.cascadeHierarchy
  projectIds := some grant.projectIds
  costCentreCodes := some grant.costCentreIds
  businessUnitCodes := some grant.businessUnitIds
  costCentreIds := some grant.costCentreIds
  businessUnitIds := some grant.businessUnitIds
  financialSensitivity := some grant.financialSensitivity.value
  isAdministrative := some grant.isAdministrative
  administrative := some grant.isAdministrative
  resourceExceptions := some grant.resourceExceptions
  resourceExceptionsAllow := some grant.resourceExceptions
  resourceExceptionsDeny := some []
  isActive := some grant.isActive

def grantRow (grant : ScopeGrant) : GrantRow :=
  ⟨grant.tenantId,grant.granteeType.value,grant.granteeId,effectValue grant.effect,grantData grant⟩

def overwriteGrant (stored proposed : GrantRow) : GrantRow := { proposed with tenantId := stored.tenantId }

def saveScopeGrant (grant : ScopeGrant) (table : RoleGrants) : RoleGrants :=
  table.upsert overwriteGrant grant.id (grantRow grant)

def getScopeGrant (id : String) (table : RoleGrants) : Except RbacError (Option ScopeGrant) :=
  match table.lookup id with
  | none => .ok none
  | some row => (rowToGrant id row).map some

def storedTenant (grant : ScopeGrant) (table : RoleGrants) : String :=
  ((table.lookup grant.id).map GrantRow.tenantId).getD grant.tenantId

def reloaded (grant : ScopeGrant) (table : RoleGrants) : ScopeGrant :=
  { grant with tenantId := storedTenant grant table, applicationIds := [], createdBy := "system", description := none }

theorem granteeType_ofValue (kind : GranteeType) : GranteeType.ofValue kind.value = some kind := by
  cases kind <;> rfl

theorem effect_ofValue (effect : GrantEffect) : effectOfValue (effectValue effect) = some effect := by
  cases effect <;> rfl

theorem sensitivity_ofValue (sensitivity : FinancialSensitivity) :
    FinancialSensitivity.ofValue sensitivity.value = some sensitivity := by
  cases sensitivity <;> rfl

theorem rowToGrant_grantRow (grant : ScopeGrant) (tenantId : String) :
    rowToGrant grant.id { grantRow grant with tenantId := tenantId } =
      .ok { grant with tenantId := tenantId, applicationIds := [], createdBy := "system", description := none } := by
  simp only [rowToGrant,grantRow,grantData,parsed,granteeType_ofValue,effect_ofValue,sensitivity_ofValue,
    Option.getD_some]
  rfl

theorem getScopeGrant_saveScopeGrant (grant : ScopeGrant) (table : RoleGrants) :
    getScopeGrant grant.id (saveScopeGrant grant table) = .ok (some (reloaded grant table)) := by
  have row : (saveScopeGrant grant table).lookup grant.id =
      some { grantRow grant with tenantId := storedTenant grant table } := by
    rw [saveScopeGrant,Table.lookup_upsert_self,storedTenant]
    cases table.lookup grant.id <;> rfl
  rw [getScopeGrant,row]
  simp only [rowToGrant_grantRow]
  rfl

structure SameDecision (a b : AuthorizationDecision) : Prop where
  allowed : a.allowed = b.allowed
  matched : a.matchedGrantId = b.matchedGrantId
  sensitivity : a.effectiveFinancialSensitivity = b.effectiveFinancialSensitivity
  rates : a.canViewRates = b.canViewRates

theorem SameDecision.of_eq {a b : AuthorizationDecision} (same : a = b) : SameDecision a b := by
  subst same
  exact ⟨rfl,rfl,rfl,rfl⟩

def AuthorisesAlike (grant stored : ScopeGrant) : Prop :=
  ∀ (caller : Caller) (before after : List ScopeGrant) (target : ResourceTarget),
    SameDecision (evaluateScopeGrants caller (before ++ grant :: after) target)
      (evaluateScopeGrants caller (before ++ stored :: after) target)

-- No target and no caller bring such a grant to bear: the empty identifier names no resource.
def Inert (grant : ScopeGrant) : Prop :=
  grant.isActive = false ∨
    (grant.effect = .deny ∧ grant.resourceExceptions ≠ [] ∧ ∀ resource ∈ grant.resourceExceptions, resource = "")

section Probe

def probe (grant : ScopeGrant) (application : Option String) : ResourceTarget where
  resourceId := if grant.effect = .deny then grant.resourceExceptions.find? (fun resource => resource ≠ "") else none
  provider := grant.providers.head?
  accountId := grant.accountIds.head?
  hierarchyPath := grant.hierarchySubtreeRoots.take 1
  projectId := grant.projectIds.head?
  applicationId := application
  costCentreId := grant.costCentreIds.head?
  businessUnitId := grant.businessUnitIds.head?

theorem withinList_head (allowed : List String) : withinList allowed allowed.head? = true := by
  cases allowed <;> simp [withinList,isOpen]

theorem withinList_none (allowed : List String) : withinList allowed none = isOpen allowed := by
  simp [withinList]

theorem withinList_of_open {allowed : List String} (unrestricted : isOpen allowed = true) (value : Option String) :
    withinList allowed value = true := by
  simp [withinList,unrestricted]

theorem providerMatches_probe (grant : ScopeGrant) (application : Option String) :
    providerMatches grant (probe grant application) = true := by
  unfold providerMatches probe
  cases grant.providers <;> simp [isOpen]

theorem hierarchyMatches_probe (grant : ScopeGrant) (application : Option String) :
    hierarchyMatches grant (probe grant application) = true := by
  unfold hierarchyMatches probe pathMatches
  cases grant.hierarchySubtreeRoots with
  | nil => simp [isOpen]
  | cons root rest => cases grant.cascadeHierarchy <;> simp

theorem exceptionsMatch_probe {grant : ScopeGrant} (application : Option String) (bears : ¬ Inert grant) :
    exceptionsMatch grant (probe grant application) = true := by
  unfold exceptionsMatch probe
  cases effect : grant.effect with
  | allow => simp [named]
  | deny =>
    by_cases none : grant.resourceExceptions = []
    · simp [none]
    · have some : ∃ resource ∈ grant.resourceExceptions, resource ≠ "" := by
        by_contra blank
        push Not at blank
        exact bears (Or.inr ⟨effect,none,blank⟩)
      cases found : grant.resourceExceptions.find? (fun resource => resource ≠ "") with
      | none =>
        obtain ⟨resource,member,filled⟩ := some
        have passed := List.find?_eq_none.mp found resource member
        exact absurd (by simpa using filled) passed
      | some resource =>
        have member := List.mem_of_find?_eq_some found
        have filled := List.find?_some found
        simp_all [named]

theorem isMatch_probe (grant : ScopeGrant) (application : Option String) (bears : ¬ Inert grant) :
    isMatch (probe grant application) grant = withinList grant.applicationIds application := by
  rw [Bool.eq_iff_iff,isMatch,decide_eq_true_eq,matchesDimension_ok_iff]
  constructor
  · rintro ⟨_,_,_,_,admitted,_⟩
    exact admitted
  · intro admitted
    exact ⟨providerMatches_probe grant application,withinList_head _,hierarchyMatches_probe grant application,
      withinList_head _,admitted,withinList_head _,withinList_head _,rfl,rfl,exceptionsMatch_probe application bears⟩

def grantee (grant : ScopeGrant) (tenantId : String) : Caller := ⟨grant.granteeId,tenantId,[grant.granteeId]⟩

theorem isApplicable_grantee (grant : ScopeGrant) (tenantId : String) :
    isApplicable (grantee grant tenantId) grant = true ↔
      grant.isActive = true ∧ (grant.tenantId = tenantId ∨ grant.tenantId = "*") := by
  have addressed : (grant.granteeType = .user ∧ grant.granteeId = (grantee grant tenantId).userId) ∨
      (grant.granteeType = .role ∧ grant.granteeId ∈ (grantee grant tenantId).roleCodes) := by
    cases kind : grant.granteeType with
    | user => exact Or.inl ⟨rfl,rfl⟩
    | role => exact Or.inr ⟨rfl,List.mem_singleton.mpr rfl⟩
  rw [isApplicable_iff]
  simp only [addressed,and_true]
  rfl

theorem matched_singleton (caller : Caller) (grant : ScopeGrant) (target : ResourceTarget) :
    (evaluateScopeGrants caller [grant] target).matchedGrantId =
      if isApplicable caller grant && isMatch target grant then some grant.id else none := by
  rw [evaluateScopeGrants_eq]
  by_cases speaks : (isApplicable caller grant && isMatch target grant) = true
  · have voted : vote caller target grant = some (grant.effect, contribution grant) := if_pos speaks
    rw [List.filterMap_cons_some voted,if_pos speaks]
    cases grant.effect <;> rfl
  · have unvoiced : vote caller target grant = none := if_neg speaks
    rw [List.filterMap_cons_none unvoiced,if_neg speaks]
    simp only [List.filterMap_nil,resolve,ruling,decision,roleDecision]
    split_ifs <;> rfl

end Probe

section Reload

variable (grant : ScopeGrant) (table : RoleGrants)

theorem isMatch_reloaded {target : ResourceTarget} (unrestricted : isOpen grant.applicationIds = true) :
    isMatch target (reloaded grant table) = isMatch target grant := by
  rw [Bool.eq_iff_iff,isMatch,isMatch,decide_eq_true_eq,decide_eq_true_eq,matchesDimension_ok_iff,
    matchesDimension_ok_iff,withinList_of_open unrestricted]
  rfl

theorem vote_reloaded {caller : Caller} {target : ResourceTarget} (unrestricted : isOpen grant.applicationIds = true)
    (tenant : storedTenant grant table = grant.tenantId) :
    vote caller target (reloaded grant table) = vote caller target grant := by
  have applies : isApplicable caller (reloaded grant table) = isApplicable caller grant := by
    simp only [isApplicable,reloaded,tenant]
  unfold vote
  rw [applies,isMatch_reloaded grant table unrestricted]
  rfl

theorem inert_reloaded (inert : Inert grant) : Inert (reloaded grant table) := inert

theorem vote_of_inert {grant : ScopeGrant} {caller : Caller} {target : ResourceTarget} (inert : Inert grant) :
    vote caller target grant = none := by
  rcases inert with inactive | ⟨denies,excepted,blank⟩
  · exact vote_of_not_applicable (isApplicable_of_inactive inactive)
  · have unnamed : named target.resourceId grant.resourceExceptions = false := by
      cases target.resourceId with
      | none => rfl
      | some resource =>
        simp only [named,Option.any_some,decide_eq_false_iff_not]
        rintro ⟨filled,member⟩
        exact filled (blank resource member)
    have unmatched : isMatch target grant = false := by
      rw [isMatch,decide_eq_false_iff_not,matchesDimension_ok_iff]
      rintro ⟨_,_,_,_,_,_,_,_,_,excepting⟩
      simp [exceptionsMatch,denies,excepted,unnamed] at excepting
    simp [vote,unmatched]

theorem evaluate_of_votes {grant stored : ScopeGrant} {caller : Caller} {target : ResourceTarget}
    (same : vote caller target grant = vote caller target stored) (before after : List ScopeGrant) :
    evaluateScopeGrants caller (before ++ grant :: after) target =
      evaluateScopeGrants caller (before ++ stored :: after) target := by
  rw [evaluateScopeGrants_eq,evaluateScopeGrants_eq,List.filterMap_append,List.filterMap_append,
    List.filterMap_cons,List.filterMap_cons,same]

theorem speaks_alike {grant stored : ScopeGrant} (alike : AuthorisesAlike grant stored) (caller : Caller)
    (target : ResourceTarget) :
    (isApplicable caller grant = true ∧ isMatch target grant = true) ↔
      (isApplicable caller stored = true ∧ isMatch target stored = true) := by
  have matched := (alike caller [] [] target).matched
  simp only [List.nil_append,matched_singleton,Bool.and_eq_true] at matched
  constructor
  · intro speaks
    by_contra mute
    rw [if_pos speaks,if_neg mute] at matched
    cases matched
  · intro speaks
    by_contra mute
    rw [if_pos speaks,if_neg mute] at matched
    cases matched

theorem active_of_bears {grant : ScopeGrant} (bears : ¬ Inert grant) : grant.isActive = true := by
  cases state : grant.isActive with
  | true => rfl
  | false => exact absurd (Or.inl state) bears

theorem tenant_of_alike (bears : ¬ Inert grant) (alike : AuthorisesAlike grant (reloaded grant table)) :
    storedTenant grant table = grant.tenantId := by
  have active := active_of_bears bears
  have hit : isMatch (probe grant grant.applicationIds.head?) grant = true := by
    rw [isMatch_probe grant _ bears]
    exact withinList_head grant.applicationIds
  have storedHit : isMatch (probe grant grant.applicationIds.head?) (reloaded grant table) = true :=
    isMatch_probe (reloaded grant table) grant.applicationIds.head? bears
  have tenants : ∀ tenantId, (grant.tenantId = tenantId ∨ grant.tenantId = "*") ↔
      (storedTenant grant table = tenantId ∨ storedTenant grant table = "*") := by
    intro tenantId
    have speaks := speaks_alike alike (grantee grant tenantId) (probe grant grant.applicationIds.head?)
    have original := isApplicable_grantee grant tenantId
    have stored := isApplicable_grantee (reloaded grant table) tenantId
    rw [original] at speaks
    change _ ↔ isApplicable (grantee (reloaded grant table) tenantId) (reloaded grant table) = true ∧ _ at speaks
    rw [stored,hit,storedHit] at speaks
    simpa [reloaded,active] using speaks
  by_contra differ
  rcases (tenants grant.tenantId).mp (Or.inl rfl) with same | storedAll
  · exact differ same
  · rcases (tenants (storedTenant grant table)).mpr (Or.inl rfl) with same | all
    · exact differ same.symm
    · exact differ (storedAll.trans all.symm)

theorem open_of_alike (bears : ¬ Inert grant) (alike : AuthorisesAlike grant (reloaded grant table)) :
    isOpen grant.applicationIds = true := by
  have tenant := tenant_of_alike grant table bears alike
  have applies : isApplicable (grantee grant grant.tenantId) (reloaded grant table) = true := by
    apply (isApplicable_grantee (reloaded grant table) grant.tenantId).mpr
    exact ⟨active_of_bears bears,Or.inl tenant⟩
  have storedHit : isMatch (probe grant none) (reloaded grant table) = true :=
    isMatch_probe (reloaded grant table) none bears
  have hit := ((speaks_alike alike (grantee grant grant.tenantId) (probe grant none)).mpr ⟨applies,storedHit⟩).2
  rw [isMatch_probe grant none bears,withinList_none] at hit
  exact hit

/-- A stored grant authorises like the original exactly when the original names
no particular application and no row of another tenant was under its identifier,
or when it never had any effect. -/
theorem stored_grant_authorises_alike_iff :
    (∃ stored, getScopeGrant grant.id (saveScopeGrant grant table) = .ok (some stored) ∧
        AuthorisesAlike grant stored) ↔
      Inert grant ∨ (isOpen grant.applicationIds = true ∧
        ∀ row, table.lookup grant.id = some row → row.tenantId = grant.tenantId) := by
  constructor
  · rintro ⟨stored,read,alike⟩
    rw [getScopeGrant_saveScopeGrant] at read
    cases read
    by_cases inert : Inert grant
    · exact Or.inl inert
    · refine Or.inr ⟨open_of_alike grant table inert alike,?_⟩
      intro row found
      have tenant := tenant_of_alike grant table inert alike
      rw [storedTenant,found] at tenant
      exact tenant
  · intro condition
    refine ⟨reloaded grant table,getScopeGrant_saveScopeGrant grant table,?_⟩
    intro caller before after target
    apply SameDecision.of_eq
    apply evaluate_of_votes
    rcases condition with inert | ⟨unrestricted,tenant⟩
    · rw [vote_of_inert inert,vote_of_inert (inert_reloaded grant table inert)]
    · have kept : storedTenant grant table = grant.tenantId := by
        unfold storedTenant
        cases found : table.lookup grant.id with
        | none => rfl
        | some row => exact tenant row found
      rw [vote_reloaded grant table unrestricted kept]

end Reload

def billingGrant : ScopeGrant :=
  { id := "g-1", tenantId := "t-1", granteeType := .user, granteeId := "alice", applicationIds := ["billing"] }

def payrollTarget : ResourceTarget := { applicationId := some "payroll" }

/-- The grant for one application, once stored, allows every other. -/
theorem stored_application_grant_widens :
    ∃ stored, getScopeGrant "g-1" (saveScopeGrant billingGrant ∅) = .ok (some stored) ∧
      (evaluateScopeGrants ⟨"alice","t-1",[]⟩ [billingGrant] payrollTarget).allowed = false ∧
      (evaluateScopeGrants ⟨"alice","t-1",[]⟩ [stored] payrollTarget).allowed = true := by
  refine ⟨reloaded billingGrant ∅,getScopeGrant_saveScopeGrant billingGrant ∅,?_,?_⟩
  all_goals decide +kernel

end CloudLens.Access
