import CloudLens.Attribution.Model
import CloudLens.Library.Runs
import CloudLens.Library.Table
import Mathlib.Data.List.Induction

/-! Protection of curated fields against re-discovery. The service keeps its
records beside the resources it guards. Seen from one field of one resource the
three operations form a small machine of their own, and the value of the field
at any time follows from the last curation, the last discovery and whether a
record was cleared since. -/
namespace CloudLens.Attribution
open Library Library.Runs

inductive CuratedField where
  | owner
  | application
  | environment
  | costCenter
  | monitoringType
  deriving DecidableEq

structure CuratedFieldRecord (Value : Type) where
  resourceId : String
  fieldName : CuratedField
  curatedValue : Option Value
  curatedBy : String
  reason : String

structure Inventory where
  resource : String → Resource
  named : ∀ id, (resource id).id = id

structure Estate (Value : Type) where
  inventory : Inventory
  curatedRecords : Table (String × CuratedField) (CuratedFieldRecord Value)

inductive CurationAction (Value : Type) where
  | protectCuration (resourceId : String) (fieldName : CuratedField) (value : Option Value) (actor reason : String)
  | clearCuration (resourceId : String) (fieldName : CuratedField) (actor : String)
  | reconcileRediscovery (resourceId : String) (discovered : Resource) (explicitUserAction : Bool)

def protectedMappings : List CuratedField := [.owner, .application, .environment, .costCenter]

/-- The monitoring type has no attribute on the resource. -/
def readField : CuratedField → Resource → Option String
  | .owner, resource => resource.ownerId
  | .application, resource => resource.applicationId
  | .environment, resource => resource.environmentId
  | .costCenter, resource => resource.costCenterId
  | .monitoringType, _ => none

def setField : CuratedField → Option String → Resource → Resource
  | .owner, value, resource => { resource with ownerId := value }
  | .application, value, resource => { resource with applicationId := value }
  | .environment, value, resource => { resource with environmentId := value }
  | .costCenter, value, resource => { resource with costCenterId := value }
  | .monitoringType, _, resource => resource

def curateField (field : CuratedField) (value : Option String) (resource : Resource) : Resource :=
  { setField field value resource with
    sourceProvenance :=
      { sourceSystem := "cloudlens-curation"
        originType := .curated
        survivesRediscovery := true } }

def adoptTechnical (discovered resource : Resource) : Resource :=
  { resource with
    name := discovered.name
    serviceId := discovered.serviceId
    resourceTypeId := discovered.resourceTypeId
    regionId := discovered.regionId
    availabilityZone := discovered.availabilityZone
    pricingStatus := discovered.pricingStatus
    tags := discovered.tags }

theorem setField_id (field : CuratedField) (value : Option String) (resource : Resource) :
    (setField field value resource).id = resource.id := by
  cases field <;> rfl

theorem curateField_id (field : CuratedField) (value : Option String) (resource : Resource) :
    (curateField field value resource).id = resource.id :=
  setField_id field value resource

theorem adoptTechnical_id (discovered resource : Resource) : (adoptTechnical discovered resource).id = resource.id := rfl

def Inventory.modify (inventory : Inventory) (id : String) (update : Resource → Resource)
    (keeps : ∀ resource, (update resource).id = resource.id) : Inventory where
  resource := Function.update inventory.resource id (update (inventory.resource id))
  named := by
    intro other
    by_cases same : other = id
    · subst same
      rw [Function.update_self,keeps]
      exact inventory.named other
    · rw [Function.update_of_ne same]
      exact inventory.named other

section Service

variable {Value : Type}

def isCurated (estate : Estate Value) (resourceId : String) (fieldName : CuratedField) : Bool :=
  (estate.curatedRecords.lookup (resourceId, fieldName)).isSome

def protectCuration (str : Value → String) (estate : Estate Value) (resourceId : String) (fieldName : CuratedField)
    (value : Option Value) (actor reason : String) : Estate Value where
  inventory := estate.inventory.modify resourceId (curateField fieldName (value.map str)) (curateField_id fieldName (value.map str))
  curatedRecords := estate.curatedRecords.upsert (fun _ proposed => proposed) (resourceId, fieldName)
    { resourceId := resourceId
      fieldName := fieldName
      curatedValue := value
      curatedBy := actor
      reason := reason }

def clearCuration (estate : Estate Value) (resourceId : String) (fieldName : CuratedField) : Estate Value :=
  { estate with curatedRecords := estate.curatedRecords.deleteWhere (fun key _ => key = (resourceId, fieldName)) }

def adoptField (estate : Estate Value) (resourceId : String) (discovered : Resource) (field : CuratedField) : Estate Value :=
  { estate with
    inventory := estate.inventory.modify resourceId (setField field (readField field discovered))
      (setField_id field (readField field discovered)) }

def reconcileField (resourceId : String) (discovered : Resource) (explicitUserAction : Bool) (estate : Estate Value)
    (field : CuratedField) : Estate Value :=
  if isCurated estate resourceId field then
    if explicitUserAction then clearCuration (adoptField estate resourceId discovered field) resourceId field
    else estate
  else adoptField estate resourceId discovered field

def reconcileRediscovery (estate : Estate Value) (resourceId : String) (discovered : Resource)
    (explicitUserAction : Bool) : Estate Value :=
  protectedMappings.foldl (reconcileField resourceId discovered explicitUserAction)
    { estate with inventory := estate.inventory.modify resourceId (adoptTechnical discovered) (adoptTechnical_id discovered) }

def curationStep (str : Value → String) (estate : Estate Value) : CurationAction Value → Estate Value
  | .protectCuration id field value actor reason => protectCuration str estate id field value actor reason
  | .clearCuration id field _ => clearCuration estate id field
  | .reconcileRediscovery id discovered explicit => reconcileRediscovery estate id discovered explicit

def newService (inventory : Inventory) : Estate Value := ⟨inventory,∅⟩

structure FieldView (Value : Type) where
  value : Option String
  record : Option (CuratedFieldRecord Value)

def view (estate : Estate Value) (id : String) (field : CuratedField) : FieldView Value where
  value := readField field (estate.inventory.resource id)
  record := estate.curatedRecords.lookup (id, field)

def reconciled (discovered : Option String) (explicitUserAction : Bool) (seen : FieldView Value) : FieldView Value :=
  if seen.record.isSome && !explicitUserAction then seen else ⟨discovered,none⟩

variable {estate : Estate Value} {id other : String} {field wanted : CuratedField}

theorem readField_setField (guarded : wanted ∈ protectedMappings) (value : Option String) (resource : Resource) :
    readField wanted (setField field value resource) = if wanted = field then value else readField wanted resource := by
  cases wanted <;> cases field <;> first | rfl | simp [protectedMappings] at guarded

theorem readField_curateField (value : Option String) (resource : Resource) :
    readField wanted (curateField field value resource) = readField wanted (setField field value resource) := by
  cases wanted <;> rfl

theorem readField_adoptTechnical (discovered resource : Resource) :
    readField wanted (adoptTechnical discovered resource) = readField wanted resource := by
  cases wanted <;> rfl

theorem readField_modify {inventory : Inventory} {update : Resource → Resource}
    (keeps : ∀ resource, (update resource).id = resource.id) :
    readField wanted ((inventory.modify id update keeps).resource other) =
      if other = id then readField wanted (update (inventory.resource other)) else readField wanted (inventory.resource other) := by
  simp only [Inventory.modify]
  split
  · rename_i same
    subst same
    rw [Function.update_self]
  · rename_i distinct
    rw [Function.update_of_ne distinct]

theorem lookup_clearCuration :
    (clearCuration estate id field).curatedRecords.lookup (other, wanted) =
      if other = id ∧ wanted = field then none else estate.curatedRecords.lookup (other, wanted) := by
  simp only [clearCuration]
  rw [Table.lookup_deleteWhere]
  split
  · rename_i same
    obtain ⟨rfl,rfl⟩ := same
    cases estate.curatedRecords.lookup (other, wanted) <;> simp [Option.filter]
  · rename_i distinct
    have apart : (other, wanted) ≠ (id, field) := fun equal => distinct (Prod.mk.inj equal)
    cases estate.curatedRecords.lookup (other, wanted) <;> simp [Option.filter,apart]

theorem view_protectCuration (str : Value → String) (guarded : wanted ∈ protectedMappings) (value : Option Value)
    (actor reason : String) :
    view (protectCuration str estate id field value actor reason) other wanted =
      if other = id ∧ wanted = field then ⟨value.map str,some ⟨id,field,value,actor,reason⟩⟩ else view estate other wanted := by
  simp only [view,protectCuration,readField_modify,readField_curateField,readField_setField guarded,Table.lookup_overwrite]
  by_cases sameId : other = id
  · by_cases sameField : wanted = field
    · simp [sameId,sameField]
    · simp [sameId,sameField]
  · simp [sameId]

theorem view_clearCuration :
    view (clearCuration estate id field) other wanted =
      if other = id ∧ wanted = field then ⟨(view estate other wanted).value,none⟩ else view estate other wanted := by
  rw [view,lookup_clearCuration]
  split <;> rfl

theorem view_adoptField (guarded : wanted ∈ protectedMappings) (discovered : Resource) :
    view (adoptField estate id discovered field) other wanted =
      if other = id ∧ wanted = field then ⟨readField wanted discovered,(view estate other wanted).record⟩
      else view estate other wanted := by
  simp only [view,adoptField,readField_modify,readField_setField guarded]
  by_cases sameId : other = id
  · by_cases sameField : wanted = field
    · simp [sameId,sameField]
    · simp [sameId,sameField]
  · simp [sameId]

theorem view_reconcileField (guarded : wanted ∈ protectedMappings) (discovered : Resource) (explicit : Bool) :
    view (reconcileField id discovered explicit estate field) other wanted =
      if other = id ∧ wanted = field then reconciled (readField wanted discovered) explicit (view estate other wanted)
      else view estate other wanted := by
  unfold reconcileField isCurated
  by_cases same : other = id ∧ wanted = field
  · obtain ⟨rfl,rfl⟩ := same
    have shown : (view estate other wanted).record = estate.curatedRecords.lookup (other, wanted) := rfl
    cases stored : estate.curatedRecords.lookup (other, wanted) with
    | none => simp [view_adoptField guarded,reconciled,shown,stored]
    | some record =>
      cases explicit with
      | true => simp [view_clearCuration,view_adoptField guarded,reconciled,shown,stored]
      | false => simp [reconciled,shown,stored]
  · rw [if_neg same]
    split
    · split
      · rw [view_clearCuration,if_neg same,view_adoptField guarded,if_neg same]
      · rfl
    · rw [view_adoptField guarded,if_neg same]

theorem view_reconcileFields (guarded : wanted ∈ protectedMappings) (discovered : Resource) (explicit : Bool)
    (fields : List CuratedField) (distinct : fields.Nodup) (estate : Estate Value) :
    view (fields.foldl (reconcileField id discovered explicit) estate) other wanted =
      if other = id ∧ wanted ∈ fields then reconciled (readField wanted discovered) explicit (view estate other wanted)
      else view estate other wanted := by
  induction fields generalizing estate with
  | nil => simp
  | cons field fields ih =>
    obtain ⟨fresh,rest⟩ := List.nodup_cons.mp distinct
    rw [List.foldl_cons,ih rest,view_reconcileField guarded]
    by_cases sameId : other = id
    · by_cases sameField : wanted = field
      · simp [sameId,sameField,fresh]
      · simp [sameId,sameField]
    · simp [sameId]

theorem view_reconcileRediscovery (guarded : wanted ∈ protectedMappings) (discovered : Resource) (explicit : Bool) :
    view (reconcileRediscovery estate id discovered explicit) other wanted =
      if other = id then reconciled (readField wanted discovered) explicit (view estate other wanted)
      else view estate other wanted := by
  unfold reconcileRediscovery
  rw [view_reconcileFields guarded discovered explicit protectedMappings (by decide)]
  have technical : view { estate with inventory := estate.inventory.modify id (adoptTechnical discovered) (adoptTechnical_id discovered) } other wanted =
      view estate other wanted := by
    simp only [view,readField_modify,readField_adoptTechnical,ite_self]
  rw [technical]
  simp [guarded]

end Service

section History

variable {Value : Type}

def CurationAction.discovers (id : String) : CurationAction Value → Bool
  | .reconcileRediscovery resourceId _ _ => resourceId = id
  | _ => false

def noteCurated (id : String) (field : CuratedField) (last : Option (Option Value)) : CurationAction Value → Option (Option Value)
  | .protectCuration resourceId fieldName value _ _ => if resourceId = id ∧ fieldName = field then some value else last
  | _ => last

def noteDiscovered (id : String) (field : CuratedField) (last : Option String) : CurationAction Value → Option String
  | .reconcileRediscovery resourceId discovered _ => if resourceId = id then readField field discovered else last
  | _ => last

def lastCurated (actions : List (CurationAction Value)) (id : String) (field : CuratedField) : Option (Option Value) :=
  actions.foldl (noteCurated id field) none

def lastDiscovered (inventory : Inventory) (actions : List (CurationAction Value)) (id : String) (field : CuratedField) : Option String :=
  actions.foldl (noteDiscovered id field) (readField field (inventory.resource id))

def estateAfter (str : Value → String) (inventory : Inventory) (actions : List (CurationAction Value)) : Estate Value :=
  run (curationStep str) (newService inventory) actions

/-- A record of the field was removed by a clearing that no discovery of the resource followed. -/
def ClearedSince (str : Value → String) (inventory : Inventory) (actions : List (CurationAction Value)) (id : String)
    (field : CuratedField) : Prop :=
  ∃ before actor after, actions = before ++ .clearCuration id field actor :: after ∧
    isCurated (estateAfter str inventory before) id field = true ∧ ∀ action ∈ after, action.discovers id = false

/-- The literal reading: a field without a record has the value of the last discovery. -/
structure FollowsDiscovery (str : Value → String) (inventory : Inventory) (actions : List (CurationAction Value)) : Prop where
  curated : ∀ id, ∀ field ∈ protectedMappings, ∀ record,
    (estateAfter str inventory actions).curatedRecords.lookup (id, field) = some record →
      ∃ value, lastCurated actions id field = some value ∧
        readField field ((estateAfter str inventory actions).inventory.resource id) = value.map str
  discovered : ∀ id, ∀ field ∈ protectedMappings,
    (estateAfter str inventory actions).curatedRecords.lookup (id, field) = none →
      readField field ((estateAfter str inventory actions).inventory.resource id) = lastDiscovered inventory actions id field

structure FollowsHistory (str : Value → String) (inventory : Inventory) (actions : List (CurationAction Value)) (id : String)
    (field : CuratedField) : Prop where
  curated : ∀ record, (view (estateAfter str inventory actions) id field).record = some record →
    lastCurated actions id field = some record.curatedValue ∧
      (view (estateAfter str inventory actions) id field).value = record.curatedValue.map str
  cleared : (view (estateAfter str inventory actions) id field).record = none → ClearedSince str inventory actions id field →
    ∃ value, lastCurated actions id field = some value ∧ (view (estateAfter str inventory actions) id field).value = value.map str
  discovered : (view (estateAfter str inventory actions) id field).record = none → ¬ ClearedSince str inventory actions id field →
    (view (estateAfter str inventory actions) id field).value = lastDiscovered inventory actions id field

structure LeavesOthers (str : Value → String) (estate : Estate Value) : Prop where
  curating : ∀ id field value actor reason other, ∀ wanted ∈ protectedMappings, ¬ (other = id ∧ wanted = field) →
    view (protectCuration str estate id field value actor reason) other wanted = view estate other wanted
  clearing : ∀ id field other wanted, ¬ (other = id ∧ wanted = field) →
    view (clearCuration estate id field) other wanted = view estate other wanted
  clearedValue : ∀ id field other, (clearCuration estate id field).inventory.resource other = estate.inventory.resource other

variable {str : Value → String} {inventory : Inventory} {actions : List (CurationAction Value)} {action : CurationAction Value}
  {id : String} {field : CuratedField}

theorem estateAfter_concat : estateAfter str inventory (actions ++ [action]) = curationStep str (estateAfter str inventory actions) action := by
  rw [estateAfter,run_append]
  rfl

theorem lastCurated_concat : lastCurated (actions ++ [action]) id field = noteCurated id field (lastCurated actions id field) action := by
  simp [lastCurated]

theorem lastDiscovered_concat :
    lastDiscovered inventory (actions ++ [action]) id field = noteDiscovered id field (lastDiscovered inventory actions id field) action := by
  simp [lastDiscovered]

theorem clearedSince_concat : ClearedSince str inventory (actions ++ [action]) id field ↔
    (isCurated (estateAfter str inventory actions) id field = true ∧ ∃ actor, action = .clearCuration id field actor) ∨
      (ClearedSince str inventory actions id field ∧ action.discovers id = false) := by
  constructor
  · rintro ⟨before,actor,after,shape,present,quiet⟩
    rcases List.eq_nil_or_concat after with rfl | ⟨front,last,rfl⟩
    · obtain ⟨rfl,same⟩ := List.append_inj' shape rfl
      exact Or.inl ⟨present,actor,(List.cons.inj same).1⟩
    · rw [List.concat_eq_append,← List.cons_append,← List.append_assoc] at shape
      obtain ⟨earlier,same⟩ := List.append_inj' shape rfl
      rw [(List.cons.inj same).1]
      exact Or.inr ⟨⟨before,actor,front,earlier,present,fun a member => quiet a (by simp [member])⟩,quiet last (by simp)⟩
  · rintro (⟨present,actor,rfl⟩ | ⟨⟨before,actor,after,rfl,present,quiet⟩,last⟩)
    · exact ⟨actions,actor,[],rfl,present,by simp⟩
    · refine ⟨before,actor,after ++ [action],by simp,present,?_⟩
      intro a member
      rcases List.mem_append.mp member with old | new
      · exact quiet a old
      · rw [List.mem_singleton.mp new]
        exact last

theorem isCurated_view (estate : Estate Value) : isCurated estate id field = (view estate id field).record.isSome := rfl

private theorem followsHistory_untouched (held : FollowsHistory str inventory actions id field)
    (seen : view (estateAfter str inventory (actions ++ [action])) id field = view (estateAfter str inventory actions) id field)
    (curations : noteCurated id field (lastCurated actions id field) action = lastCurated actions id field)
    (quiet : action.discovers id = false) (kept : ∀ actor, action ≠ .clearCuration id field actor) :
    FollowsHistory str inventory (actions ++ [action]) id field := by
  have clearings : ClearedSince str inventory (actions ++ [action]) id field ↔ ClearedSince str inventory actions id field := by
    rw [clearedSince_concat]
    constructor
    · rintro (⟨_,actor,same⟩ | ⟨before,_⟩)
      · exact absurd same (kept actor)
      · exact before
    · intro before
      exact Or.inr ⟨before,quiet⟩
  have discoveries : lastDiscovered inventory (actions ++ [action]) id field = lastDiscovered inventory actions id field := by
    rw [lastDiscovered_concat]
    cases action with
    | reconcileRediscovery resourceId discovered explicit =>
      have other : resourceId ≠ id := by simpa [CurationAction.discovers] using quiet
      simp [noteDiscovered,other]
    | protectCuration => rfl
    | clearCuration => rfl
  refine ⟨?_,?_,?_⟩
  · rw [seen,lastCurated_concat,curations]
    exact held.curated
  · rw [seen,clearings,lastCurated_concat,curations]
    exact held.cleared
  · rw [seen,clearings,discoveries]
    exact held.discovered

theorem followsHistory_protect (guarded : field ∈ protectedMappings) (held : FollowsHistory str inventory actions id field)
    (resourceId : String) (fieldName : CuratedField) (value : Option Value) (actor reason : String) :
    FollowsHistory str inventory (actions ++ [.protectCuration resourceId fieldName value actor reason]) id field := by
  by_cases hit : id = resourceId ∧ field = fieldName
  · obtain ⟨rfl,rfl⟩ := hit
    have shown : view (estateAfter str inventory (actions ++ [.protectCuration id field value actor reason])) id field =
        ⟨value.map str,some ⟨id,field,value,actor,reason⟩⟩ := by
      rw [estateAfter_concat]
      exact (view_protectCuration str guarded value actor reason).trans (if_pos ⟨rfl,rfl⟩)
    refine ⟨?_,?_,?_⟩
    · intro record found
      rw [shown] at found ⊢
      cases found
      rw [lastCurated_concat]
      exact ⟨by simp [noteCurated],rfl⟩
    · intro none
      rw [shown] at none
      cases none
    · intro none
      rw [shown] at none
      cases none
  · refine followsHistory_untouched held ?_ ?_ rfl (by simp)
    · rw [estateAfter_concat]
      exact (view_protectCuration str guarded value actor reason).trans (if_neg hit)
    · have apart : ¬ (resourceId = id ∧ fieldName = field) := fun same => hit ⟨same.1.symm,same.2.symm⟩
      simp only [noteCurated]
      rw [if_neg apart]

theorem followsHistory_clear (held : FollowsHistory str inventory actions id field) (resourceId : String)
    (fieldName : CuratedField) (actor : String) :
    FollowsHistory str inventory (actions ++ [.clearCuration resourceId fieldName actor]) id field := by
  by_cases hit : id = resourceId ∧ field = fieldName
  · obtain ⟨rfl,rfl⟩ := hit
    have shown : view (estateAfter str inventory (actions ++ [.clearCuration id field actor])) id field =
        ⟨(view (estateAfter str inventory actions) id field).value,none⟩ := by
      rw [estateAfter_concat]
      exact view_clearCuration.trans (if_pos ⟨rfl,rfl⟩)
    have clearings : ClearedSince str inventory (actions ++ [.clearCuration id field actor]) id field ↔
        (view (estateAfter str inventory actions) id field).record.isSome = true ∨ ClearedSince str inventory actions id field := by
      rw [clearedSince_concat,isCurated_view]
      simp [CurationAction.discovers]
    refine ⟨?_,?_,?_⟩
    · intro record found
      rw [shown] at found
      cases found
    · intro _ removed
      rw [shown,lastCurated_concat]
      cases stored : (view (estateAfter str inventory actions) id field).record with
      | some record => exact ⟨record.curatedValue,held.curated record stored⟩
      | none =>
        rw [clearings,stored] at removed
        exact held.cleared stored (removed.resolve_left (by simp))
    · intro _ kept
      rw [clearings,not_or] at kept
      rw [shown,lastDiscovered_concat]
      cases stored : (view (estateAfter str inventory actions) id field).record with
      | some record => exact absurd (by rw [stored]; rfl) kept.1
      | none => exact held.discovered stored kept.2
  · refine followsHistory_untouched held ?_ rfl rfl ?_
    · rw [estateAfter_concat]
      exact view_clearCuration.trans (if_neg hit)
    · intro other same
      cases same
      exact hit ⟨rfl,rfl⟩

theorem followsHistory_reconcile (guarded : field ∈ protectedMappings) (held : FollowsHistory str inventory actions id field)
    (resourceId : String) (discovered : Resource) (explicit : Bool) :
    FollowsHistory str inventory (actions ++ [.reconcileRediscovery resourceId discovered explicit]) id field := by
  by_cases hit : id = resourceId
  · subst hit
    have shown : view (estateAfter str inventory (actions ++ [.reconcileRediscovery id discovered explicit])) id field =
        reconciled (readField field discovered) explicit (view (estateAfter str inventory actions) id field) := by
      rw [estateAfter_concat]
      exact (view_reconcileRediscovery guarded discovered explicit).trans (if_pos rfl)
    have uncleared : ¬ ClearedSince str inventory (actions ++ [.reconcileRediscovery id discovered explicit]) id field := by
      rw [clearedSince_concat]
      simp [CurationAction.discovers]
    refine ⟨?_,fun _ removed => absurd removed uncleared,?_⟩
    · intro record found
      rw [shown] at found ⊢
      unfold reconciled at found ⊢
      split at found
      · rename_i kept
        rw [if_pos kept,lastCurated_concat]
        exact held.curated record found
      · cases found
    · intro none _
      rw [shown] at none ⊢
      unfold reconciled at none ⊢
      split at none
      · rename_i kept
        rw [none] at kept
        cases kept
      · rename_i adopted
        rw [if_neg adopted,lastDiscovered_concat]
        simp [noteDiscovered]
  · refine followsHistory_untouched held ?_ rfl ?_ (by simp)
    · rw [estateAfter_concat]
      exact (view_reconcileRediscovery guarded discovered explicit).trans (if_neg hit)
    · have apart : resourceId ≠ id := fun same => hit same.symm
      simp [CurationAction.discovers,apart]

theorem followsHistory (guarded : field ∈ protectedMappings) : FollowsHistory str inventory actions id field := by
  induction actions using List.reverseRecOn with
  | nil =>
    have unprotected : (view (estateAfter str inventory ([] : List (CurationAction Value))) id field).record = none := rfl
    refine ⟨?_,?_,?_⟩
    · intro record found
      rw [unprotected] at found
      cases found
    · rintro _ ⟨before,actor,after,shape,_⟩
      simp at shape
    · intro _ _
      rfl
  | append_singleton actions action held =>
    cases action with
    | protectCuration resourceId fieldName value actor reason =>
      exact followsHistory_protect guarded held resourceId fieldName value actor reason
    | clearCuration resourceId fieldName actor => exact followsHistory_clear held resourceId fieldName actor
    | reconcileRediscovery resourceId discovered explicit =>
      exact followsHistory_reconcile guarded held resourceId discovered explicit

end History

/-- After every sequence of operations a protected field has its last curated
value; an unprotected one has the value of the last discovery, or still the last
curated value when its record was cleared since then. Curating or clearing one
field leaves the value and the protection of every other field as they were. -/
theorem curated_fields_survive {Value : Type} (str : Value → String) (inventory : Inventory)
    (actions : List (CurationAction Value)) :
    (∀ id, ∀ field ∈ protectedMappings, FollowsHistory str inventory actions id field) ∧
      LeavesOthers str (estateAfter str inventory actions) := by
  refine ⟨fun id field guarded => followsHistory guarded,?_,?_,?_⟩
  · intro id field value actor reason other wanted guarded apart
    rw [view_protectCuration str guarded,if_neg apart]
  · intro id field other wanted apart
    rw [view_clearCuration,if_neg apart]
  · intro id field other
    rfl

def discoveredOwner (id owner : String) : Resource where
  id := id
  name := "vm"
  serviceId := "service"
  resourceTypeId := "type"
  regionId := "region"
  availabilityZone := none
  pricingStatus := .paid
  tags := []
  ownerId := some owner
  applicationId := none
  environmentId := none
  costCenterId := none
  sourceProvenance := ⟨"canonical",.discovered,false⟩

/-- Clearing a curated owner keeps the curated value on the resource, although
the field has no record and the last discovery reported another owner. -/
theorem cleared_owner_keeps_curation :
    ¬ FollowsDiscovery (fun text : String => text) ⟨fun id => discoveredOwner id "bob",fun _ => rfl⟩
      [.protectCuration "vm-1" .owner (some "alice") "admin" "Manual curation", .clearCuration "vm-1" .owner "admin"] := by
  intro follows
  have value := follows.discovered "vm-1" .owner (by decide)
  revert value
  decide

end CloudLens.Attribution
