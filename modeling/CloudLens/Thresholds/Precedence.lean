import CloudLens.Library.Casing
import CloudLens.Library.FirstMatch
import CloudLens.Thresholds.Bands

/-! Which threshold applies to an entity: a temporary override, an administrative
one, a rule attached to the entity, to its scope, to its service or to its
environment, and at last a default of the tenant. The resolver asks whether an
override has expired and not whether it has begun. -/
namespace CloudLens.Thresholds
open Library Library.Calendar

inductive ThresholdBasis
  | absoluteValue
  | percentage
  | budgetUtilisation
  | forecast
  | runtime
  | volume
  | growthPercentage
  | varianceFromBaseline
  | historicalAverage
  | seasonalBaseline
  | quotaHeadroom
  deriving DecidableEq

inductive ThresholdSourceType
  | temporaryOverride
  | adminOverride
  | localRule
  | inheritedAncestor
  | tenantDefault
  deriving DecidableEq

/-- A rule with what it is attached to. Its bands passed the validator. -/
structure AttachedRule extends ThresholdRule where
  basis : ThresholdBasis
  bands : List ThresholdBandDefinition
  scopeId : Option String := none
  serviceId : Option String := none
  resourceId : Option String := none
  environment : Option String := none
  isTenantDefault : Bool := false
  accepted : validateContiguousNonOverlappingBands bands = .ok ()

/-- The reason is kept without the blanks around it. -/
structure ThresholdOverride where
  id : String
  targetId : String
  sourceType : ThresholdSourceType
  customBands : Option (List ThresholdBandDefinition)
  reason : String
  approvedBy : Option String
  validFrom : Instant
  expiresAt : Option Instant
  isActive : Bool
  reasoned : 20 ≤ reason.length
  temporary : sourceType = .temporaryOverride → expiresAt.isSome
  accepted : ∀ bands ∈ customBands, bands ≠ [] → validateContiguousNonOverlappingBands bands = .ok ()

def ThresholdOverride.isExpired (ovr : ThresholdOverride) (asOf : Instant) : Bool :=
  match ovr.expiresAt with
  | none => false
  | some expiresAt => expiresAt ≤ asOf

structure ResolvedSource where
  rule : AttachedRule
  bands : List ThresholdBandDefinition
  sourceType : ThresholdSourceType
  sourceId : String
  sourceDisplay : String
  activeOverride : Option ThresholdOverride

structure PrecedenceQuery where
  entityId : String
  basis : ThresholdBasis
  scopeId : Option String
  serviceId : Option String
  environment : Option String
  tenantDefaultRule : AttachedRule
  asOf : Instant

namespace PrecedenceQuery

variable (q : PrecedenceQuery)

def selects (kind : ThresholdSourceType) (ovr : ThresholdOverride) : Bool :=
  ovr.isActive && ovr.sourceType = kind && (ovr.targetId = q.entityId || some ovr.targetId = q.scopeId) && !ovr.isExpired q.asOf

/-- An absent or empty list of custom bands leaves the bands of the tenant's default. -/
def overridden (kind : ThresholdSourceType) (display : String) (ovr : ThresholdOverride) : ResolvedSource where
  rule := q.tenantDefaultRule
  bands := (ovr.customBands.filter (· ≠ [])).getD q.tenantDefaultRule.bands
  sourceType := kind
  sourceId := ovr.id
  sourceDisplay := display
  activeOverride := some ovr

def temporarily (ovr : ThresholdOverride) : ResolvedSource :=
  q.overridden .temporaryOverride
    ("Temporary override '" ++ ovr.id ++ "' on " ++ ovr.targetId ++ " (Reason: " ++ ovr.reason ++ ")") ovr

def administratively (ovr : ThresholdOverride) : ResolvedSource :=
  q.overridden .adminOverride
    ("Administrative override '" ++ ovr.id ++ "' on " ++ ovr.targetId ++ " (Approved by: " ++
      (ovr.approvedBy.filter (· ≠ "")).getD "admin" ++ ")") ovr

def ruled (kind : ThresholdSourceType) (display : String) (rule : AttachedRule) : ResolvedSource where
  rule := rule
  bands := rule.bands
  sourceType := kind
  sourceId := rule.id
  sourceDisplay := display
  activeOverride := none

def isLocal (rule : AttachedRule) : Bool := rule.basis = q.basis && rule.resourceId = some q.entityId

def locally (rule : AttachedRule) : ResolvedSource :=
  ruled .localRule ("Local rule '" ++ rule.name ++ "' attached to entity '" ++ q.entityId ++ "'") rule

def attachedTo (given attached : Option String) : Bool := given.any (· ≠ "") && attached = given

def isOfScope (rule : AttachedRule) : Bool := rule.basis = q.basis && attachedTo q.scopeId rule.scopeId

def isOfService (rule : AttachedRule) : Bool := rule.basis = q.basis && attachedTo q.serviceId rule.serviceId

def inherited (origin name : String) (rule : AttachedRule) : ResolvedSource :=
  ruled .inheritedAncestor ("Inherited from " ++ origin ++ " '" ++ name ++ "' via rule '" ++ rule.name ++ "'") rule

def environmentKey (environment : String) : String := Text.lower (Text.stripped environment)

def isOfEnvironment (rule : AttachedRule) : Bool :=
  rule.basis = q.basis &&
    match q.environment.filter (· ≠ ""), rule.environment.filter (· ≠ "") with
    | some given, some attached => environmentKey attached = environmentKey given
    | _, _ => false

def isDefault (rule : AttachedRule) : Bool := rule.basis = q.basis && rule.isTenantDefault

def byDefault (rule : AttachedRule) : ResolvedSource :=
  ruled .tenantDefault ("Tenant default rule '" ++ rule.name ++ "'") rule

def resolve (rules : List AttachedRule) (overrides : List ThresholdOverride) : ResolvedSource :=
  ((overrides.find? (q.selects .temporaryOverride)).map q.temporarily <|>
    (overrides.find? (q.selects .adminOverride)).map q.administratively <|>
    (rules.find? q.isLocal).map q.locally <|>
    (rules.find? q.isOfScope).map (inherited "ancestor scope" (q.scopeId.getD "")) <|>
    (rules.find? q.isOfService).map (inherited "ancestor service" (q.serviceId.getD "")) <|>
    (rules.find? q.isOfEnvironment).map (inherited "environment tier" (q.environment.getD "")) <|>
    (rules.find? q.isDefault).map byDefault).getD (byDefault q.tenantDefaultRule)

def applies (kind : ThresholdSourceType) (ovr : ThresholdOverride) : Bool :=
  ovr.isActive && ovr.sourceType = kind && (ovr.targetId = q.entityId || some ovr.targetId = q.scopeId) &&
    ovr.validFrom ≤ q.asOf && ovr.expiresAt.all (q.asOf < ·)

def candidates (rules : List AttachedRule) (overrides : List ThresholdOverride) : List (List ResolvedSource) :=
  [(overrides.filter (q.applies .temporaryOverride)).map q.temporarily,
    (overrides.filter (q.applies .adminOverride)).map q.administratively,
    (rules.filter q.isLocal).map q.locally,
    (rules.filter q.isOfScope).map (inherited "ancestor scope" (q.scopeId.getD "")),
    (rules.filter q.isOfService).map (inherited "ancestor service" (q.serviceId.getD "")),
    (rules.filter q.isOfEnvironment).map (inherited "environment tier" (q.environment.getD "")),
    (rules.filter q.isDefault).map byDefault,
    [byDefault q.tenantDefaultRule]]

/-- For a set of rules and overrides, in whatever order they are listed: the source
is a candidate of the highest tier that has one; with one candidate in each tier at
most it is the same in every order; and an override that has expired is as if it were
not there. -/
structure ExactPrecedence (rules : List AttachedRule) (overrides : List ThresholdOverride) : Prop where
  highest : ∀ listed set, listed.Perm rules → set.Perm overrides → Tiers.Leads (q.resolve listed set) (q.candidates listed set)
  orderless : (∀ tier ∈ q.candidates rules overrides, tier.length ≤ 1) →
    ∀ listed set, listed.Perm rules → set.Perm overrides → q.resolve listed set = q.resolve rules overrides
  reverts : ∀ before ovr after, overrides = before ++ ovr :: after → ∀ expiry ∈ ovr.expiresAt, ∀ later ≥ expiry,
    ({ q with asOf := later } : PrecedenceQuery).resolve rules overrides =
      ({ q with asOf := later } : PrecedenceQuery).resolve rules (before ++ after)

def AllBegun (kind : ThresholdSourceType) (overrides : List ThresholdOverride) : Prop :=
  ∀ ovr ∈ overrides, q.selects kind ovr = true → ovr.validFrom ≤ q.asOf

variable {q} {kind : ThresholdSourceType} {rules listed : List AttachedRule} {overrides set : List ThresholdOverride}

theorem applies_eq (ovr : ThresholdOverride) : q.applies kind ovr = (q.selects kind ovr && decide (ovr.validFrom ≤ q.asOf)) := by
  have expiry : ovr.expiresAt.all (q.asOf < ·) = !ovr.isExpired q.asOf := by
    cases h : ovr.expiresAt with
    | none => simp [ThresholdOverride.isExpired,h]
    | some expiresAt =>
      simp only [ThresholdOverride.isExpired,h,Option.all_some,← decide_not]
      exact decide_eq_decide.mpr not_le.symm
  rw [applies,selects,expiry]
  ac_rfl

theorem AllBegun.filter_applies (begun : q.AllBegun kind overrides) (same : set.Perm overrides) :
    set.filter (q.applies kind) = set.filter (q.selects kind) := by
  refine List.filter_congr fun ovr member => ?_
  rw [applies_eq]
  cases taken : q.selects kind ovr with
  | false => rfl
  | true => rw [decide_eq_true (begun ovr (same.mem_iff.mp member) taken)]; rfl

theorem AllBegun.of_perm (begun : q.AllBegun kind overrides) (same : set.Perm overrides) : q.AllBegun kind set :=
  fun ovr member => begun ovr (same.mem_iff.mp member)

theorem resolve_head (rules : List AttachedRule) (overrides : List ThresholdOverride) : (([(overrides.filter (q.selects .temporaryOverride)).map q.temporarily,
      (overrides.filter (q.selects .adminOverride)).map q.administratively] ++
      (q.candidates rules overrides).drop 2).flatten).head? = some (q.resolve rules overrides) := by
  simp only [candidates,List.drop_succ_cons,List.drop_zero,List.cons_append,List.nil_append,Tiers.head?_flatten_cons,
    ← Tiers.find?_map]
  simp only [resolve,List.head?_cons,List.flatten_nil,List.head?_nil,Option.or_none,Option.orElse_eq_orElse,
    Option.orElse_eq_or]
  simp only [Option.or_some,Option.getD_or]

theorem candidates_perm (sameRules : listed.Perm rules) (sameOverrides : set.Perm overrides) :
    List.Forall₂ List.Perm (q.candidates listed set) (q.candidates rules overrides) := by
  have scanned (holds : AttachedRule → Bool) (made : AttachedRule → ResolvedSource) :
      ((listed.filter holds).map made).Perm ((rules.filter holds).map made) := (sameRules.filter holds).map made
  have taken (holds : ThresholdOverride → Bool) (made : ThresholdOverride → ResolvedSource) :
      ((set.filter holds).map made).Perm ((overrides.filter holds).map made) := (sameOverrides.filter holds).map made
  exact .cons (taken _ _) (.cons (taken _ _) (.cons (scanned _ _) (.cons (scanned _ _) (.cons (scanned _ _)
    (.cons (scanned _ _) (.cons (scanned _ _) (.cons (.refl _) .nil)))))))

theorem leads_resolve (temporary : q.AllBegun .temporaryOverride overrides)
    (administrative : (∃ ovr ∈ overrides, q.selects .temporaryOverride ovr = true) ∨ q.AllBegun .adminOverride overrides) :
    Tiers.Leads (q.resolve rules overrides) (q.candidates rules overrides) := by
  have first := resolve_head (q := q) rules overrides
  rw [← temporary.filter_applies (.refl _)] at first
  rcases administrative with ⟨ovr,member,taken⟩ | administrative
  · have nonempty : (overrides.filter (q.applies .temporaryOverride)).map q.temporarily ≠ [] := by
      rw [temporary.filter_applies (.refl _)]
      exact fun none => absurd (List.map_eq_nil_iff.mp none) (List.ne_nil_of_mem (List.mem_filter.mpr ⟨member,taken⟩))
    rw [List.cons_append,Tiers.head?_flatten_cons,List.head?_eq_some_head nonempty,Option.some_or] at first
    rw [← Option.some.inj first]
    exact .here (List.head_mem nonempty)
  · rw [← administrative.filter_applies (.refl _)] at first
    exact Tiers.leads_of_head first

theorem selects_expired {ovr : ThresholdOverride} {expiry : Instant} (ends : ovr.expiresAt = some expiry)
    (passed : expiry ≤ q.asOf) : q.selects kind ovr = false := by
  simp only [selects,ThresholdOverride.isExpired,ends,decide_eq_true passed,Bool.not_true,Bool.and_false]

theorem resolve_without {before after : List ThresholdOverride} {ovr : ThresholdOverride} {expiry : Instant}
    (ends : ovr.expiresAt = some expiry) (passed : expiry ≤ q.asOf) :
    q.resolve rules (before ++ ovr :: after) = q.resolve rules (before ++ after) := by
  simp only [resolve,List.find?_append,List.find?_cons_of_neg (Bool.eq_false_iff.mp (selects_expired ends passed))]

theorem begun_of_candidate {source : ResolvedSource} {ovr : ThresholdOverride}
    (member : source ∈ (q.candidates rules overrides).flatten) (active : source.activeOverride = some ovr) :
    ovr.validFrom ≤ q.asOf := by
  have begun {kind : ThresholdSourceType} {made : ThresholdOverride → ResolvedSource}
      (keeps : ∀ row, (made row).activeOverride = some row)
      (member : source ∈ (overrides.filter (q.applies kind)).map made) : ovr.validFrom ≤ q.asOf := by
    obtain ⟨row,applied,rfl⟩ := List.mem_map.mp member
    rw [keeps row] at active
    rw [← Option.some.inj active]
    have applied := (List.mem_filter.mp applied).2
    rw [applies_eq,Bool.and_eq_true] at applied
    exact of_decide_eq_true applied.2
  have scanned {holds : AttachedRule → Bool} {made : AttachedRule → ResolvedSource}
      (keeps : ∀ row, (made row).activeOverride = none)
      (member : source ∈ (rules.filter holds).map made) : ovr.validFrom ≤ q.asOf := by
    obtain ⟨row,_,rfl⟩ := List.mem_map.mp member
    rw [keeps row] at active
    cases active
  simp only [candidates,List.flatten_cons,List.flatten_nil,List.append_nil,List.mem_append] at member
  rcases member with tier | tier | tier | tier | tier | tier | tier | tier
  · exact begun (fun _ => rfl) tier
  · exact begun (fun _ => rfl) tier
  · exact scanned (fun _ => rfl) tier
  · exact scanned (fun _ => rfl) tier
  · exact scanned (fun _ => rfl) tier
  · exact scanned (fun _ => rfl) tier
  · exact scanned (fun _ => rfl) tier
  · rw [List.mem_singleton.mp tier] at active
    cases active

/-- The resolver keeps to the precedence when the overrides it would take up have begun. -/
theorem exactPrecedence_iff (q : PrecedenceQuery) (rules : List AttachedRule) (overrides : List ThresholdOverride) :
    q.ExactPrecedence rules overrides ↔
      q.AllBegun .temporaryOverride overrides ∧
        ((∃ ovr ∈ overrides, q.selects .temporaryOverride ovr = true) ∨ q.AllBegun .adminOverride overrides) := by
  constructor
  · intro precedence
    -- An override that has not begun wins where it is listed first.
    have begun {ovr : ThresholdOverride} (member : ovr ∈ overrides)
        (wins : ∀ others, (ovr :: others).Perm overrides → (q.resolve rules (ovr :: others)).activeOverride = some ovr) :
        ovr.validFrom ≤ q.asOf := by
      obtain ⟨before,after,rfl⟩ := List.append_of_mem member
      have leads := precedence.highest rules (ovr :: (before ++ after)) (.refl _) List.perm_middle.symm
      exact begun_of_candidate leads.mem_flatten (wins _ List.perm_middle.symm)
    refine ⟨fun ovr member taken => begun member fun others _ => ?_,?_⟩
    · rw [resolve,List.find?_cons_of_pos taken]
      rfl
    · by_cases temporary : ∃ ovr ∈ overrides, q.selects .temporaryOverride ovr = true
      · exact .inl temporary
      · refine .inr fun ovr member taken => begun member fun others same => ?_
        have untaken : (ovr :: others).find? (q.selects .temporaryOverride) = none := by
          rw [List.find?_eq_none]
          exact fun row listed taken => temporary ⟨row,same.mem_iff.mp listed,taken⟩
        rw [resolve,untaken,List.find?_cons_of_pos taken]
        rfl
  · rintro ⟨temporary,administrative⟩
    have highest (listed set) (sameRules : listed.Perm rules) (sameOverrides : set.Perm overrides) :
        Tiers.Leads (q.resolve listed set) (q.candidates listed set) := by
      refine leads_resolve (temporary.of_perm sameOverrides) ?_
      rcases administrative with ⟨ovr,member,taken⟩ | administrative
      · exact .inl ⟨ovr,sameOverrides.mem_iff.mpr member,taken⟩
      · exact .inr (administrative.of_perm sameOverrides)
    refine ⟨highest,fun few listed set sameRules sameOverrides => ?_,?_⟩
    · exact ((highest listed set sameRules sameOverrides).of_perm (candidates_perm sameRules sameOverrides)).unique
        (highest rules overrides (.refl _) (.refl _)) few
    · rintro before ovr after rfl expiry ends later passed
      exact resolve_without (Option.mem_def.mp ends) passed

end PrecedenceQuery

theorem defaultBudgetBands_accepted : validateContiguousNonOverlappingBands defaultBudgetBands = .ok () := rfl

theorem one_evaluation : 1 ≤ 1 := le_refl 1

theorem maintenance_reasoned : 20 ≤ "Planned maintenance on the first of May".length := by decide

def budgetRule : AttachedRule where
  toThresholdRule := createTenantDefaultBudgetRule "acme" 3600 1 one_evaluation
  basis := .budgetUtilisation
  bands := defaultBudgetBands
  isTenantDefault := true
  accepted := defaultBudgetBands_accepted

def maintenance : ThresholdOverride where
  id := "thr-ovr-1"
  targetId := "vm-1"
  sourceType := .adminOverride
  customBands := none
  reason := "Planned maintenance on the first of May"
  approvedBy := some "head-of-finance"
  validFrom := Calendar.day
  expiresAt := none
  isActive := true
  reasoned := maintenance_reasoned
  temporary := nofun
  accepted := nofun

def beforeMaintenance : PrecedenceQuery := ⟨"vm-1",.budgetUtilisation,none,none,none,budgetRule,0⟩

/-- An override that begins a day later is already in force. -/
theorem maintenance_early : (beforeMaintenance.resolve [budgetRule] [maintenance]).activeOverride = some maintenance ∧
    ¬ beforeMaintenance.ExactPrecedence [budgetRule] [maintenance] := by
  have early : (beforeMaintenance.resolve [budgetRule] [maintenance]).activeOverride = some maintenance := rfl
  refine ⟨early,fun precedence => ?_⟩
  have leads := precedence.highest _ _ (.refl _) (.refl _)
  exact absurd (PrecedenceQuery.begun_of_candidate leads.mem_flatten early) (by decide)

end CloudLens.Thresholds
