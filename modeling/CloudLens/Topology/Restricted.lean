import CloudLens.Access.Precedence
import CloudLens.Topology.Model

/-! Which nodes of a view the caller may see in full, and the placeholder shown
for the others. The administrator roles and an empty grant list let everything
through before the grants are evaluated. -/
namespace CloudLens.Topology
open Access Dependency Library Library.DenyOverrides

def adminRoleCodes : List String := ["SUPER_ADMIN", "PLATFORM_ADMIN", "super_admin", "platform_admin"]

def nodeTarget (node : TopologyNode) : ResourceTarget where
  resourceId := some node.entityRef.entityId
  provider := node.enrichment.bind NodeEnrichmentData.provider
  accountId := if node.entityRef.entityType = .scope then some node.entityRef.entityId else none
  applicationId := if node.entityRef.entityType = .application then some node.entityRef.entityId else none
  projectId := if node.entityRef.entityType = .scope then some node.entityRef.entityId else none
  costCentreId := node.enrichment.bind NodeEnrichmentData.costCenter
  businessUnitId := node.enrichment.bind NodeEnrichmentData.businessUnit

def evaluateAccess (caller : Caller) (grants : List ScopeGrant) (node : TopologyNode) : Bool :=
  if caller.roleCodes.any (fun role => role ∈ adminRoleCodes) then true
  else if grants = [] then true
  else (evaluateScopeGrants caller grants (nodeTarget node)).allowed

def capitalized : EntityReferenceType → String
  | .resource => "Resource"
  | .service => "Service"
  | .application => "Application"
  | .scope => "Scope"

def maskedEnrichment (enrichment : Option NodeEnrichmentData) : NodeEnrichmentData where
  status := "RESTRICTED"
  cost := 0
  currency := (enrichment.map NodeEnrichmentData.currency).getD "USD"
  budgetUtilisationPct := none
  budgetStatus := .ok
  runtimeState := .unknown
  usage := []
  thresholdState := .green
  costTrend := .stable
  costTrendPct := some 0
  forecastCost := none
  pricingClassification := .onDemand
  owner := some "[Restricted]"
  businessUnit := some "[Restricted]"
  costCenter := some "[Restricted]"
  provider := enrichment.bind NodeEnrichmentData.provider
  tags := [("access", "restricted")]

def maskNode (node : TopologyNode) : TopologyNode :=
  { node with
    displayName := "[Restricted " ++ capitalized node.entityRef.entityType ++ "]"
    isRestricted := true
    directCost := 0
    attributedChainCost := 0
    costSharePct := 0
    enrichment := some (maskedEnrichment node.enrichment) }

def maskEdgesForRestrictedNodes (restrictedNodeIds : List String) (edges : List TopologyEdge) : List TopologyEdge :=
  edges.map (fun edge =>
    if edge.sourceId ∈ restrictedNodeIds ∨ edge.targetId ∈ restrictedNodeIds then { edge with isRestricted := true }
    else edge)

theorem map_maskEdges {Read : Type} {read : TopologyEdge → Read}
    (unflagged : ∀ edge, read { edge with isRestricted := true } = read edge) (ids : List String) (edges : List TopologyEdge) :
    (maskEdgesForRestrictedNodes ids edges).map read = edges.map read := by
  unfold maskEdgesForRestrictedNodes
  rw [List.map_map]
  apply List.map_congr_left
  intro edge _
  rw [Function.comp_apply]
  split
  · exact unflagged edge
  · rfl

section Access

variable {caller : Caller} (grants : List ScopeGrant) (node : TopologyNode)

def Exempt (caller : Caller) : Prop := ∃ role ∈ caller.roleCodes, role ∈ adminRoleCodes

theorem evaluateAccess_of_exempt (exempt : Exempt caller) : evaluateAccess caller grants node = true := by
  obtain ⟨role,held,admin⟩ := exempt
  unfold evaluateAccess
  rw [if_pos]
  exact List.any_eq_true.mpr ⟨role,held,decide_eq_true admin⟩

theorem evaluateAccess_of_unexempt (unexempt : ¬ Exempt caller) : evaluateAccess caller grants node =
    (decide (grants = []) || (evaluateScopeGrants caller grants (nodeTarget node)).allowed) := by
  unfold evaluateAccess
  rw [if_neg]
  · by_cases none : grants = []
    · simp [none]
    · simp [none]
  · intro any
    obtain ⟨role,held,admin⟩ := List.any_eq_true.mp any
    exact unexempt ⟨role,held,of_decide_eq_true admin⟩

/-- Access to a node is what the evaluator allows, apart from the exempt roles and
an empty grant list, and a matching deny grant restricts the node for everyone
who is not exempt. -/
theorem evaluateAccess_agrees (caller : Caller) (grants : List ScopeGrant) (node : TopologyNode) :
    (evaluateAccess caller grants node = true ↔
      Exempt caller ∨ grants = [] ∨ (evaluateScopeGrants caller grants (nodeTarget node)).allowed = true) ∧
    ((∃ denyGrant ∈ grants, denyGrant.effect = .deny ∧ isApplicable caller denyGrant = true ∧
        isMatch (nodeTarget node) denyGrant = true) →
      (evaluateAccess caller grants node = true ↔ Exempt caller)) := by
  by_cases exempt : Exempt caller
  · have seen := evaluateAccess_of_exempt grants node exempt
    simp [seen,exempt]
  · have read := evaluateAccess_of_unexempt grants node exempt
    refine ⟨?_,?_⟩
    · simp [read,exempt]
    · rintro ⟨denyGrant,member,denies,applies,hit⟩
      have denied := denied_of_matching_deny member denies applies hit
      have present : grants ≠ [] := List.ne_nil_of_mem member
      simp [read,exempt,denied,present]

end Access

def vmNode : TopologyNode where
  id := "vm"
  entityRef := ⟨.resource,"vm",some "billing database"⟩
  displayName := "billing database"
  enrichment := some {}

def superAdmin : Caller := ⟨"alice","t-1",["SUPER_ADMIN"]⟩

def visitor : Caller := ⟨"alice","t-1",["ANALYST"]⟩

theorem exempt_callers_bypass_grants :
    (evaluateAccess superAdmin [defaultDeny] vmNode = true ∧
      (evaluateScopeGrants superAdmin [defaultDeny] (nodeTarget vmNode)).allowed = false) ∧
    (evaluateAccess visitor [] vmNode = true ∧ (evaluateScopeGrants visitor [] (nodeTarget vmNode)).allowed = false) := by
  decide +kernel

end CloudLens.Topology
