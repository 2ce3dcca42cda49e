import CloudLens.Access.Evaluation
import CloudLens.Library.Document

/-! Filtering a dataset of records by the grants of a caller. Each record names
its own target, an allowed record is shown with its rates set to null unless the
caller may view them, and what was left out is disclosed by count and dimension.
Redaction reaches the top level of a record, so the values of rates stay hidden
exactly for records that keep them there. -/
namespace CloudLens.Access
open Library

def rateFields : List String :=
  ["contracted_unit_price", "list_unit_price", "unit_rate", "unit_price", "rate", "rate_card_margin", "pricing_quantity",
    "discount_percentage"]

def redactRates (item : Json.Record) : Json.Record := item.nullify rateFields

def ScopingDimension.value : ScopingDimension → String
  | .provider => "provider"
  | .accountBillingBoundary => "account_billing_boundary"
  | .hierarchySubtree => "hierarchy_subtree"
  | .projectApplication => "project_application"
  | .costCentreBusinessUnit => "cost_centre_business_unit"
  | .financialDataSensitivity => "financial_data_sensitivity"
  | .administrative => "administrative"
  | .resourceException => "resource_exception"

def member (item : Json.Record) (name : String) : Json := (item.get? name).getD .null

def firstOf (first second : Json) : Json := if first.truthy then first else second

def text? : Json → Option String
  | .str value => some value
  | _ => none

def optionalText? : Json → Option (Option String)
  | .null => some none
  | value => (text? value).map some

def texts? : Json → Option (List String)
  | .arr items => items.mapM text?
  | _ => none

def flag (item : Json.Record) (name : String) (otherwise : Bool) : Bool :=
  ((item.get? name).map Json.truthy).getD otherwise

structure TargetFields where
  resourceId : Option (Option String)
  provider : Option (Option String)
  accountId : Option (Option String)
  hierarchyPath : Option (List String)
  projectId : Option (Option String)
  applicationId : Option (Option String)
  costCentreId : Option (Option String)
  businessUnitId : Option (Option String)
  isFinancial : Bool
  isRateDetail : Bool
  isAdministrative : Bool

def targetFields (item : Json.Record) : TargetFields where
  resourceId := optionalText? (firstOf (member item "resource_id") (member item "id"))
  provider := optionalText? (member item "provider")
  accountId := optionalText? (firstOf (member item "account_id") (member item "subscription_id"))
  hierarchyPath := texts? (firstOf (member item "hierarchy_path") (.arr []))
  projectId := optionalText? (member item "project_id")
  applicationId := optionalText? (firstOf (member item "application_id") (member item "application_code"))
  costCentreId := optionalText? (firstOf (member item "cost_centre_id") (member item "cost_center_id"))
  businessUnitId := optionalText? (member item "business_unit_id")
  isFinancial := flag item "is_financial" true
  isRateDetail := flag item "is_rate_detail" false
  isAdministrative := flag item "is_administrative" false

def TargetFields.invalid (fields : TargetFields) : List String :=
  (if fields.resourceId.isNone then ["resource_id"] else []) ++
    (if fields.provider.isNone then ["provider"] else []) ++
    (if fields.accountId.isNone then ["account_id"] else []) ++
    (if fields.hierarchyPath.isNone then ["hierarchy_path"] else []) ++
    (if fields.projectId.isNone then ["project_id"] else []) ++
    (if fields.applicationId.isNone then ["application_id"] else []) ++
    (if fields.costCentreId.isNone then ["cost_centre_id"] else []) ++
    (if fields.businessUnitId.isNone then ["business_unit_id"] else [])

inductive FilterError where
  | validationError (fields : List String)

def TargetFields.validated (fields : TargetFields) : Except FilterError ResourceTarget :=
  if fields.invalid = [] then
    .ok {
      resourceId := fields.resourceId.getD none
      provider := fields.provider.getD none
      accountId := fields.accountId.getD none
      hierarchyPath := fields.hierarchyPath.getD []
      projectId := fields.projectId.getD none
      applicationId := fields.applicationId.getD none
      costCentreId := fields.costCentreId.getD none
      businessUnitId := fields.businessUnitId.getD none
      isFinancial := fields.isFinancial
      isRateDetail := fields.isRateDetail
      isAdministrative := fields.isAdministrative }
  else .error (.validationError fields.invalid)

def extractTargetFromItem (item : Json.Record) : Except FilterError ResourceTarget := (targetFields item).validated

structure DisclosureMetadata where
  isFiltered : Bool
  filteredDimensions : List String
  hiddenCount : Nat
  totalUnfilteredCount : Nat
  disclosureNotice : Option String

structure FilteredAggregateResult where
  data : List Json.Record
  disclosure : DisclosureMetadata

structure FilterState where
  allowedItems : List Json.Record := []
  hiddenCount : Nat := 0
  filteredDimensions : Finset String := ∅

def fallbackDimension (target : ResourceTarget) : String :=
  if target.businessUnitId.any (fun v => v ≠ "") then "cost_centre_business_unit"
  else if target.provider.any (fun v => v ≠ "") then "provider"
  else if target.accountId.any (fun v => v ≠ "") then "account_billing_boundary"
  else "scope"

def failedDimensions (grants : List ScopeGrant) (target : ResourceTarget) : List String :=
  (grants.filter (fun g => g.isActive)).filterMap (fun g =>
    match matchesDimension g target with
    | .error dimension => some dimension.value
    | .ok () => none)

def excludedBy (grants : List ScopeGrant) (target : ResourceTarget) : List String :=
  if failedDimensions grants target = [] then [fallbackDimension target] else failedDimensions grants target

structure FilterRequest where
  catalogue : PermissionCatalogue
  caller : Caller
  permissionCode : String
  grants : List ScopeGrant
  targetExtractor : Option (Json.Record → ResourceTarget) := none

def FilterRequest.target (request : FilterRequest) (item : Json.Record) : Except FilterError ResourceTarget :=
  match request.targetExtractor with
  | some extract => .ok (extract item)
  | none => extractTargetFromItem item

def FilterRequest.decide (request : FilterRequest) (target : ResourceTarget) : AuthorizationDecision :=
  evaluate request.catalogue request.caller request.permissionCode (some target) request.grants

def filterItem (request : FilterRequest) (state : FilterState) (item : Json.Record) : Except FilterError FilterState := do
  let target ← request.target item
  let decision := request.decide target
  if decision.allowed then
    return { state with
      allowedItems := state.allowedItems ++ [if !decision.canViewRates then redactRates item else item] }
  else
    return { state with
      hiddenCount := state.hiddenCount + 1
      filteredDimensions := state.filteredDimensions ∪ (excludedBy request.grants target).toFinset }

def disclosureNotice (hiddenCount total : Nat) (dimensions : List String) : String :=
  "Access control filtered " ++ toString hiddenCount ++ " of " ++ toString total ++
    " items due to scope boundaries on: " ++ String.intercalate ", " dimensions ++ "."

def filterDataset (request : FilterRequest) (items : List Json.Record) : Except FilterError FilteredAggregateResult := do
  let final ← items.foldlM (filterItem request) {}
  let isFiltered := decide (final.hiddenCount > 0)
  let sortedDims := Text.sortedNames final.filteredDimensions
  return {
    data := final.allowedItems
    disclosure := {
      isFiltered := isFiltered
      filteredDimensions := sortedDims
      hiddenCount := final.hiddenCount
      totalUnfilteredCount := items.length
      disclosureNotice :=
        if isFiltered then some (disclosureNotice final.hiddenCount items.length sortedDims) else none } }

section Extraction

variable {item variant : Json.Record}

def erased (value : Json) : Json := value.mapUnder rateFields (fun _ => .null)

theorem member_erase {name : String} (other : name ∉ rateFields) :
    member (item.erase rateFields) name = erased (member item name) := by
  unfold member
  rw [Json.Record.get?_erase rateFields item name other]
  cases item.get? name <;> rfl

theorem firstOf_erased (first second : Json) : firstOf (erased first) (erased second) = erased (firstOf first second) := by
  unfold firstOf
  rw [erased,Json.truthy_mapUnder]
  split <;> rfl

theorem text?_erased (value : Json) : text? (erased value) = text? value := by
  cases value <;> rfl

theorem optionalText?_erased (value : Json) : optionalText? (erased value) = optionalText? value := by
  cases value <;> rfl

theorem texts?_erased (value : Json) : texts? (erased value) = texts? value := by
  cases value with
  | arr items =>
    simp only [erased,Json.mapUnder,Json.mapItems_eq_map,texts?]
    induction items with
    | nil => rfl
    | cons first rest ih =>
      have head := text?_erased first
      unfold erased at head
      rw [List.map_cons,List.mapM_cons,List.mapM_cons,ih,head]
  | _ => rfl

theorem flag_erase {name : String} (otherwise : Bool) (other : name ∉ rateFields) :
    flag (item.erase rateFields) name otherwise = flag item name otherwise := by
  unfold flag
  rw [Json.Record.get?_erase rateFields item name other,Option.map_map]
  congr 2
  funext value
  exact Json.truthy_mapUnder rateFields (fun _ => .null) value

theorem targetFields_erase (item : Json.Record) : targetFields (item.erase rateFields) = targetFields item := by
  have path : ∀ value, firstOf (erased value) (.arr []) = erased (firstOf value (.arr [])) :=
    fun value => firstOf_erased value (.arr [])
  unfold targetFields
  simp only [member_erase (show "resource_id" ∉ rateFields by decide),member_erase (show "id" ∉ rateFields by decide),
    member_erase (show "provider" ∉ rateFields by decide),member_erase (show "account_id" ∉ rateFields by decide),
    member_erase (show "subscription_id" ∉ rateFields by decide),
    member_erase (show "hierarchy_path" ∉ rateFields by decide),
    member_erase (show "project_id" ∉ rateFields by decide),member_erase (show "application_id" ∉ rateFields by decide),
    member_erase (show "application_code" ∉ rateFields by decide),
    member_erase (show "cost_centre_id" ∉ rateFields by decide),
    member_erase (show "cost_center_id" ∉ rateFields by decide),
    member_erase (show "business_unit_id" ∉ rateFields by decide),
    flag_erase true (show "is_financial" ∉ rateFields by decide),
    flag_erase false (show "is_rate_detail" ∉ rateFields by decide),
    flag_erase false (show "is_administrative" ∉ rateFields by decide),path,firstOf_erased,optionalText?_erased,
    texts?_erased]

theorem extractTarget_of_erase_eq (same : item.erase rateFields = variant.erase rateFields) :
    extractTargetFromItem item = extractTargetFromItem variant := by
  unfold extractTargetFromItem
  rw [← targetFields_erase item,same,targetFields_erase]

end Extraction

section Loop

variable (request : FilterRequest)

def failure (item : Json.Record) : Option FilterError :=
  match request.target item with
  | .error error => some error
  | .ok _ => none

def isAllowed (item : Json.Record) : Bool :=
  match request.target item with
  | .ok target => (request.decide target).allowed
  | .error _ => false

def viewsRates (item : Json.Record) : Bool :=
  match request.target item with
  | .ok target => (request.decide target).canViewRates
  | .error _ => false

def shown (item : Json.Record) : Json.Record := if !viewsRates request item then redactRates item else item

def hiddenBy (item : Json.Record) : Finset String :=
  match request.target item with
  | .ok target => if isAllowed request item then ∅ else (excludedBy request.grants target).toFinset
  | .error _ => ∅

def outcome (state : FilterState) (items : List Json.Record) : FilterState where
  allowedItems := state.allowedItems ++ (items.filter (isAllowed request)).map (shown request)
  hiddenCount := state.hiddenCount + items.countP (fun item => !isAllowed request item)
  filteredDimensions := items.foldl (fun dimensions item => dimensions ∪ hiddenBy request item) state.filteredDimensions

theorem filterItem_eq (state : FilterState) (item : Json.Record) :
    filterItem request state item =
      match failure request item with
      | some error => .error error
      | none => .ok (outcome request state [item]) := by
  unfold filterItem failure outcome shown
  cases named : request.target item with
  | error error => rfl
  | ok target =>
    have allowed : isAllowed request item = (request.decide target).allowed := by simp only [isAllowed,named]
    have rates : viewsRates request item = (request.decide target).canViewRates := by simp only [viewsRates,named]
    cases granted : (request.decide target).allowed <;>
      simp [hiddenBy,named,allowed,rates,granted,bind,Except.bind,pure,Except.pure]

theorem outcome_outcome (state : FilterState) (item : Json.Record) (rest : List Json.Record) :
    outcome request (outcome request state [item]) rest = outcome request state (item :: rest) := by
  unfold outcome
  cases allowed : isAllowed request item
  · simp [allowed]
    omega
  · simp [allowed]

theorem foldlM_filterItem (items : List Json.Record) (state : FilterState) :
    items.foldlM (filterItem request) state =
      match items.findSome? (failure request) with
      | some error => .error error
      | none => .ok (outcome request state items) := by
  induction items generalizing state with
  | nil => simp [outcome,pure,Except.pure]
  | cons item rest ih =>
    rw [List.foldlM_cons,filterItem_eq,List.findSome?_cons]
    cases failed : failure request item with
    | some error => rfl
    | none =>
      simp only [bind,Except.bind]
      rw [ih,outcome_outcome]

end Loop

/-- The two lists differ at most in what is stored under the names of rates, at any depth. -/
def SameButRates (items variant : List Json.Record) : Prop :=
  items.map (Json.Record.erase rateFields) = variant.map (Json.Record.erase rateFields)

/-- Where no decision grants the view of rates, their values do not reach the result. -/
def RateBlind (request : FilterRequest) (items : List Json.Record) : Prop :=
  ∀ variant, SameButRates items variant → (∀ item ∈ items, viewsRates request item = false) →
    (∀ item ∈ variant, viewsRates request item = false) → filterDataset request items = filterDataset request variant

/-- The result shows the allowed items in order and accounts for the others. -/
structure Accounts (request : FilterRequest) (items : List Json.Record) (result : FilteredAggregateResult) : Prop where
  data : result.data = (items.filter (isAllowed request)).map (shown request)
  counted : result.data.length + result.disclosure.hiddenCount = items.length
  flagged : result.disclosure.isFiltered = true ↔ 0 < result.disclosure.hiddenCount

section Results

variable {request : FilterRequest} {items variant : List Json.Record}

theorem filterDataset_of_failure {error : FilterError} (failed : items.findSome? (failure request) = some error) :
    filterDataset request items = .error error := by
  unfold filterDataset
  rw [foldlM_filterItem,failed]
  rfl

theorem filterDataset_of_named (named : items.findSome? (failure request) = none) :
    ∃ result, filterDataset request items = .ok result ∧
      result.data = (items.filter (isAllowed request)).map (shown request) ∧
      result.disclosure.hiddenCount = items.countP (fun item => !isAllowed request item) ∧
      result.disclosure.isFiltered = decide (0 < result.disclosure.hiddenCount) := by
  unfold filterDataset
  rw [foldlM_filterItem,named]
  refine ⟨_,rfl,?_,?_,rfl⟩
  · exact List.nil_append _
  · exact Nat.zero_add _

theorem length_filter_add_countP_not (items : List Json.Record) (p : Json.Record → Bool) :
    (items.filter p).length + items.countP (fun item => !p item) = items.length := by
  rw [← List.countP_eq_length_filter,List.length_eq_countP_add_countP p]
  simp

theorem accounts_of_ok {result : FilteredAggregateResult} (filtered : filterDataset request items = .ok result) :
    Accounts request items result := by
  cases named : items.findSome? (failure request) with
  | some error =>
    rw [filterDataset_of_failure named] at filtered
    cases filtered
  | none =>
    obtain ⟨found,same,data,hidden,flagged⟩ := filterDataset_of_named named
    rw [same] at filtered
    cases filtered
    refine ⟨data,?_,?_⟩
    · rw [data,List.length_map,hidden]
      exact length_filter_add_countP_not items (isAllowed request)
    · rw [flagged,decide_eq_true_eq]

theorem filterDataset_ok_iff : (∃ result, filterDataset request items = .ok result) ↔
    ∀ item ∈ items, failure request item = none := by
  rw [← List.findSome?_eq_none_iff]
  constructor
  · rintro ⟨result,filtered⟩
    cases named : items.findSome? (failure request) with
    | none => rfl
    | some error =>
      rw [filterDataset_of_failure named] at filtered
      cases filtered
  · intro named
    obtain ⟨result,filtered,_⟩ := filterDataset_of_named named
    exact ⟨result,filtered⟩

end Results

def plainRequest (catalogue : PermissionCatalogue) (caller : Caller) (permissionCode : String)
    (grants : List ScopeGrant) : FilterRequest :=
  { catalogue := catalogue, caller := caller, permissionCode := permissionCode, grants := grants }

section Congruence

variable {request : FilterRequest} {items variant : List Json.Record}

structure Interchangeable (request : FilterRequest) (item other : Json.Record) : Prop where
  target : request.target item = request.target other
  shown : isAllowed request item = true → shown request item = shown request other

theorem failures_congr (same : List.Forall₂ (fun a b => request.target a = request.target b) items variant) :
    items.findSome? (failure request) = variant.findSome? (failure request) := by
  induction same with
  | nil => rfl
  | cons first _ ih => simp only [List.findSome?_cons,failure,first,ih]

theorem outcome_congr (same : List.Forall₂ (Interchangeable request) items variant) (state : FilterState) :
    outcome request state items = outcome request state variant := by
  induction same generalizing state with
  | nil => rfl
  | cons first _ ih =>
    rename_i item other rest others _
    have allowed : isAllowed request item = isAllowed request other := by simp only [isAllowed,first.target]
    have hidden : hiddenBy request item = hiddenBy request other := by simp only [hiddenBy,first.target,allowed]
    have one : outcome request state [item] = outcome request state [other] := by
      unfold outcome
      cases granted : isAllowed request item with
      | false => simp [granted,← allowed,hidden]
      | true => simp [granted,← allowed,hidden,first.shown granted]
    rw [← outcome_outcome request state item rest,← outcome_outcome request state other others,one,ih]

theorem filterDataset_congr (same : List.Forall₂ (Interchangeable request) items variant) :
    filterDataset request items = filterDataset request variant := by
  have failures := failures_congr (same.imp fun _ _ alike => alike.target)
  unfold filterDataset
  rw [foldlM_filterItem,foldlM_filterItem,failures,outcome_congr same,same.length_eq]

end Congruence

section RateBlindness

variable (catalogue : PermissionCatalogue) (caller : Caller) (permissionCode : String) (grants : List ScopeGrant)

theorem target_of_erase_eq {item variant : Json.Record} (same : item.erase rateFields = variant.erase rateFields) :
    (plainRequest catalogue caller permissionCode grants).target item =
      (plainRequest catalogue caller permissionCode grants).target variant :=
  extractTarget_of_erase_eq same

theorem sameButRates_forall₂ {items variant : List Json.Record} (same : SameButRates items variant) :
    List.Forall₂ (fun a b => a.erase rateFields = b.erase rateFields) items variant := by
  rw [SameButRates,← List.forall₂_eq_eq_eq,List.forall₂_map_left_iff,List.forall₂_map_right_iff] at same
  exact same

theorem sameButRates_wrap (items : List Json.Record) :
    SameButRates items (items.map (Json.Record.wrap rateFields)) := by
  unfold SameButRates
  rw [List.map_map]
  apply List.map_congr_left
  intro item _
  exact (Json.Record.erase_wrap rateFields item).symm

theorem redactRates_congr {item variant : Json.Record} (same : item.erase rateFields = variant.erase rateFields)
    (shallow : item.Shallow rateFields) : redactRates item = redactRates variant := by
  unfold redactRates
  rw [Json.Record.nullify_eq_erase rateFields shallow,
    Json.Record.nullify_eq_erase rateFields (Json.Record.shallow_of_erase_eq rateFields same shallow),same]

theorem rateBlind_of_shallow {items : List Json.Record}
    (shallow : ∀ item ∈ items, isAllowed (plainRequest catalogue caller permissionCode grants) item = true →
      item.Shallow rateFields) :
    RateBlind (plainRequest catalogue caller permissionCode grants) items := by
  intro variant same hidden hiddenVariant
  apply filterDataset_congr
  have pairs := sameButRates_forall₂ same
  clear same
  induction pairs with
  | nil => exact .nil
  | cons first _ ih =>
    rename_i item other rest others _
    obtain ⟨headShallow,restShallow⟩ := List.forall_mem_cons.mp shallow
    obtain ⟨headHidden,restHidden⟩ := List.forall_mem_cons.mp hidden
    obtain ⟨otherHidden,othersHidden⟩ := List.forall_mem_cons.mp hiddenVariant
    refine .cons ⟨target_of_erase_eq catalogue caller permissionCode grants first,?_⟩
      (ih restShallow restHidden othersHidden)
    intro allowed
    simp only [shown,headHidden,otherHidden,Bool.not_false,if_true]
    exact redactRates_congr first (headShallow allowed)

theorem rateBlind_of_failure {items : List Json.Record}
    (failed : ∃ item ∈ items, failure (plainRequest catalogue caller permissionCode grants) item ≠ none) :
    RateBlind (plainRequest catalogue caller permissionCode grants) items := by
  intro variant same _ _
  have targets : List.Forall₂ (fun a b => (plainRequest catalogue caller permissionCode grants).target a =
      (plainRequest catalogue caller permissionCode grants).target b) items variant :=
    (sameButRates_forall₂ same).imp fun _ _ => target_of_erase_eq catalogue caller permissionCode grants
  cases named : items.findSome? (failure (plainRequest catalogue caller permissionCode grants)) with
  | none =>
    obtain ⟨item,member,refused⟩ := failed
    exact absurd (List.findSome?_eq_none_iff.mp named item member) refused
  | some error =>
    rw [filterDataset_of_failure named,filterDataset_of_failure ((failures_congr targets).symm.trans named)]

theorem shallow_of_rateBlind {items : List Json.Record}
    (blind : RateBlind (plainRequest catalogue caller permissionCode grants) items)
    (hidden : ∀ item ∈ items, viewsRates (plainRequest catalogue caller permissionCode grants) item = false)
    (named : ∀ item ∈ items, failure (plainRequest catalogue caller permissionCode grants) item = none) :
    ∀ item ∈ items, isAllowed (plainRequest catalogue caller permissionCode grants) item = true →
      item.Shallow rateFields := by
  have target : ∀ item, (plainRequest catalogue caller permissionCode grants).target (item.wrap rateFields) =
      (plainRequest catalogue caller permissionCode grants).target item :=
    fun item => target_of_erase_eq catalogue caller permissionCode grants (Json.Record.erase_wrap rateFields item)
  generalize plainRequest catalogue caller permissionCode grants = request at *
  have allowed : ∀ item, isAllowed request (item.wrap rateFields) = isAllowed request item := by
    intro item
    simp only [isAllowed,target]
  have rates : ∀ item, viewsRates request (item.wrap rateFields) = viewsRates request item := by
    intro item
    simp only [viewsRates,target]
  have hiddenWrapped : ∀ item ∈ items.map (Json.Record.wrap rateFields), viewsRates request item = false := by
    intro item inside
    obtain ⟨source,member,rfl⟩ := List.mem_map.mp inside
    rw [rates,hidden source member]
  have same := blind _ (sameButRates_wrap items) hidden hiddenWrapped
  obtain ⟨result,filtered⟩ := filterDataset_ok_iff.mpr named
  have data := (accounts_of_ok filtered).data
  have dataWrapped := (accounts_of_ok (same.symm.trans filtered)).data
  rw [data,List.filter_map,List.map_map] at dataWrapped
  have filters : isAllowed request ∘ Json.Record.wrap rateFields = isAllowed request := funext allowed
  rw [filters] at dataWrapped
  intro item member granted
  have listed : item ∈ items.filter (isAllowed request) := List.mem_filter.mpr ⟨member,granted⟩
  have shownAlike := List.map_eq_map_iff.mp dataWrapped item listed
  simp only [Function.comp_apply,shown,rates,hidden item member,Bool.not_false,if_true] at shownAlike
  exact Json.Record.shallow_of_nullify_wrap rateFields shownAlike.symm

theorem erase_redactRates (item : Json.Record) : (redactRates item).erase rateFields = item.erase rateFields := by
  ext1
  simp only [redactRates,Json.Record.nullify,Json.Record.erase,Json.mapMembers_eq_map,List.map_map]
  refine List.map_congr_left fun member _ => ?_
  by_cases named : member.1 ∈ rateFields <;> simp [Json.mapMember,named]

theorem redactRates_redactRates (item : Json.Record) : redactRates (redactRates item) = redactRates item := by
  ext1
  simp only [redactRates,Json.Record.nullify,List.map_map]
  refine List.map_congr_left fun member _ => ?_
  by_cases named : member.1 ∈ rateFields <;> simp [named]

section Shown

variable {request : FilterRequest} {item : Json.Record} (same : request.target (shown request item) = request.target item)
include same

theorem failure_shown : failure request (shown request item) = failure request item := by simp only [failure,same]

theorem isAllowed_shown : isAllowed request (shown request item) = isAllowed request item := by simp only [isAllowed,same]

theorem shown_shown : shown request (shown request item) = shown request item := by
  have rates : viewsRates request (shown request item) = viewsRates request item := by simp only [viewsRates,same]
  unfold shown at rates ⊢
  rw [rates]
  split
  · exact redactRates_redactRates item
  · rfl

end Shown

/-- What has been filtered passes the same filter whole and as it is. -/
theorem filterDataset_again (items : List Json.Record) :
    (do
      let first ← filterDataset (plainRequest catalogue caller permissionCode grants) items
      let again ← filterDataset (plainRequest catalogue caller permissionCode grants) first.data
      return (again.data, again.disclosure.hiddenCount)) =
    (do
      let first ← filterDataset (plainRequest catalogue caller permissionCode grants) items
      return (first.data, 0)) := by
  have target : ∀ item, (plainRequest catalogue caller permissionCode grants).target (redactRates item) =
      (plainRequest catalogue caller permissionCode grants).target item :=
    fun item => target_of_erase_eq catalogue caller permissionCode grants (erase_redactRates item)
  generalize plainRequest catalogue caller permissionCode grants = request at *
  have same : ∀ item, request.target (shown request item) = request.target item := by
    intro item
    unfold shown
    split
    · exact target item
    · rfl
  cases filtered : filterDataset request items with
  | error fault => rfl
  | ok result =>
    have named := filterDataset_ok_iff.mp ⟨result,filtered⟩
    have data := (accounts_of_ok filtered).data
    have listed : ∀ kept ∈ result.data, ∃ item ∈ items, isAllowed request item = true ∧ shown request item = kept := by
      intro kept inside
      rw [data] at inside
      obtain ⟨item,member,made⟩ := List.mem_map.mp inside
      exact ⟨item,List.mem_of_mem_filter member,(List.mem_filter.mp member).2,made⟩
    have renamed : result.data.findSome? (failure request) = none := by
      rw [List.findSome?_eq_none_iff]
      intro kept inside
      obtain ⟨item,member,_,rfl⟩ := listed kept inside
      exact (failure_shown (same item)).trans (named item member)
    have allowed : ∀ kept ∈ result.data, isAllowed request kept = true := by
      intro kept inside
      obtain ⟨item,_,granted,rfl⟩ := listed kept inside
      exact (isAllowed_shown (same item)).trans granted
    obtain ⟨again,refiltered,passed,hidden,_⟩ := filterDataset_of_named renamed
    have whole : again.data = result.data := by
      rw [passed,List.filter_eq_self.mpr allowed]
      conv_rhs => rw [← List.map_id result.data]
      refine List.map_congr_left ?_
      intro kept inside
      obtain ⟨item,_,_,rfl⟩ := listed kept inside
      exact shown_shown (same item)
    have none : again.disclosure.hiddenCount = 0 := by
      rw [hidden,List.countP_eq_zero]
      intro item inside
      simp [allowed item inside]
    simp only [bind,Except.bind,pure,Except.pure,refiltered,whole,none]

/-- Filtering keeps rates from a caller who may not view them, and accounts for
what it leaves out, exactly when some decision does grant the view of rates, or
some item names no valid target, or every allowed item keeps the names of rates
out of its nested values. -/
theorem filterDataset_rate_blind_iff (items : List Json.Record) :
    (RateBlind (plainRequest catalogue caller permissionCode grants) items ∧
      ((∃ result, filterDataset (plainRequest catalogue caller permissionCode grants) items = .ok result) ↔
        ∀ item ∈ items, failure (plainRequest catalogue caller permissionCode grants) item = none) ∧
      ∀ result, filterDataset (plainRequest catalogue caller permissionCode grants) items = .ok result →
        Accounts (plainRequest catalogue caller permissionCode grants) items result) ↔
    ((∃ item ∈ items, viewsRates (plainRequest catalogue caller permissionCode grants) item = true) ∨
      (∃ item ∈ items, failure (plainRequest catalogue caller permissionCode grants) item ≠ none) ∨
      ∀ item ∈ items, isAllowed (plainRequest catalogue caller permissionCode grants) item = true →
        item.Shallow rateFields) := by
  constructor
  · rintro ⟨blind,_⟩
    by_cases views : ∃ item ∈ items, viewsRates (plainRequest catalogue caller permissionCode grants) item = true
    · exact Or.inl views
    by_cases failed : ∃ item ∈ items, failure (plainRequest catalogue caller permissionCode grants) item ≠ none
    · exact Or.inr (Or.inl failed)
    push Not at views failed
    simp only [ne_eq,Bool.not_eq_true] at views
    exact Or.inr (Or.inr (shallow_of_rateBlind catalogue caller permissionCode grants blind views failed))
  · intro condition
    refine ⟨?_,filterDataset_ok_iff,fun _ filtered => accounts_of_ok filtered⟩
    rcases condition with ⟨item,member,views⟩ | failed | shallow
    · intro variant _ hidden
      rw [hidden item member] at views
      cases views
    · exact rateBlind_of_failure catalogue caller permissionCode grants failed
    · exact rateBlind_of_shallow catalogue caller permissionCode grants shallow

end RateBlindness

def usageMembers (rate : ℚ) : List (String × Json) :=
  [("provider", .str "aws"), ("billed_cost", .num 12), ("line", .obj [("rate", .num rate)])]

theorem usageMembers_distinct (rate : ℚ) : Json.distinctMembers (usageMembers rate) := by
  simp [usageMembers,Json.distinctMembers,Json.distinct]

def usageLine (rate : ℚ) : Json.Record := ⟨usageMembers rate,usageMembers_distinct rate⟩

def analystRequest : FilterRequest := plainRequest analystCatalogue analyst "cost:read" [totalsGrant]

/-- Rates inside a nested value are shown to a caller who may see totals only. -/
theorem nested_rate_is_shown :
    SameButRates [usageLine 1] [usageLine 2] ∧
      (∀ item ∈ [usageLine 1], viewsRates analystRequest item = false) ∧
      (∀ item ∈ [usageLine 2], viewsRates analystRequest item = false) ∧
      filterDataset analystRequest [usageLine 1] ≠ filterDataset analystRequest [usageLine 2] := by
  have allowed : isAllowed analystRequest (usageLine 1) = true ∧ isAllowed analystRequest (usageLine 2) = true := by
    decide +kernel
  have hidden : viewsRates analystRequest (usageLine 1) = false ∧ viewsRates analystRequest (usageLine 2) = false := by
    decide +kernel
  refine ⟨rfl,by simpa using hidden.1,by simpa using hidden.2,?_⟩
  intro same
  have named : ∀ item ∈ [usageLine 1], failure analystRequest item = none := by
    simp only [List.mem_singleton,forall_eq]
    rfl
  obtain ⟨result,filtered⟩ := filterDataset_ok_iff.mpr named
  have first := (accounts_of_ok filtered).data
  have second := (accounts_of_ok (same.symm.trans filtered)).data
  rw [first] at second
  simp only [List.filter_cons,List.filter_nil,allowed.1,allowed.2,if_true,List.map_cons,List.map_nil,shown,hidden.1,
    hidden.2,Bool.not_false,List.cons.injEq,and_true] at second
  have members := congrArg Json.Record.members second
  simp [redactRates,Json.Record.nullify,usageLine,usageMembers,rateFields] at members

end CloudLens.Access
