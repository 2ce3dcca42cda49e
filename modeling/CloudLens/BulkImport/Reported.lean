import CloudLens.BulkImport.Mirror

/-! The dry run against the application of it: the outcomes of the rows, their counts,
and what every record is afterwards. -/
namespace CloudLens.BulkImport
open Library
open MasterData (MasterDataStore MasterDataRecord normalised)
open BulkImportEngine

section Outcomes

variable {engine : BulkImportEngine} {mode : ImportMode} {existing : Dict String Record} {row : RowValidationResult}

@[simp] theorem rowResult_naturalKey : (engine.rowResult mode existing row).naturalKey = row.naturalKey := by
  unfold rowResult
  split
  · rfl
  · split
    · unfold existingResult
      dsimp only
      split
      · rfl
      · split <;> rfl
    · unfold missingResult
      dsimp only
      split <;> rfl

@[simp] theorem rowResult_entityData : (engine.rowResult mode existing row).entityData = row.mappedData := by
  unfold rowResult
  split
  · rfl
  · split
    · unfold existingResult
      dsimp only
      split
      · rfl
      · split <;> rfl
    · unfold missingResult
      dsimp only
      split <;> rfl

variable (engine mode existing row) in
/-- An invalid row is rejected; a valid one is not, and none deactivates. -/
theorem rowResult_outcome : (engine.rowResult mode existing row).outcome = .rejected ∧ row.isValid = false ∨
    row.isValid = true ∧ ((engine.rowResult mode existing row).outcome.Writes ∨ (engine.rowResult mode existing row).outcome = .skipped) := by
  unfold rowResult RowOutcome.Writes
  cases valid : row.isValid with
  | false => exact Or.inl ⟨rfl,rfl⟩
  | true =>
    refine Or.inr ⟨rfl,?_⟩
    rw [if_neg (by simp)]
    split
    · unfold existingResult
      dsimp only
      split
      · exact Or.inr rfl
      · split
        · exact Or.inr rfl
        · exact Or.inl (Or.inr rfl)
    · unfold missingResult
      dsimp only
      split
      · exact Or.inr rfl
      · exact Or.inl (Or.inl rfl)

theorem rowResult_ne_deactivated : (engine.rowResult mode existing row).outcome ≠ .deactivated := by
  intro ends
  rcases rowResult_outcome engine mode existing row with ⟨rejected,_⟩ | ⟨_,(created | updated) | skipped⟩
  · rw [ends] at rejected
    cases rejected
  · rw [ends] at created
    cases created
  · rw [ends] at updated
    cases updated
  · rw [ends] at skipped
    cases skipped

theorem isValid_of_not_idle (active : ¬(engine.rowResult mode existing row).outcome.Idle) : row.isValid = true := by
  rcases rowResult_outcome engine mode existing row with ⟨rejected,_⟩ | ⟨valid,_⟩
  · exact absurd (Or.inr rejected) active
  · exact valid

theorem length_eq_counts {results : List DryRunRowResult} (filed : ∀ result ∈ results, result.outcome ≠ .deactivated) :
    results.length = countOutcome .created results + countOutcome .updated results + countOutcome .skipped results +
      countOutcome .rejected results := by
  induction results with
  | nil => rfl
  | cons result rest ih =>
    have counted := ih (fun other member => filed other (List.mem_cons_of_mem _ member))
    have here := filed result List.mem_cons_self
    unfold countOutcome at counted ⊢
    simp only [List.countP_cons,List.length_cons]
    cases kind : result.outcome with
    | deactivated => exact absurd kind here
    | created => simp; omega
    | updated => simp; omega
    | skipped => simp; omega
    | rejected => simp; omega

end Outcomes

section Summary

variable {engine : BulkImportEngine} {request : DryRunRequest} {entityType : String} {policy : AtomicityPolicy}
  {existing : Dict String Record} {rows : List RowValidationResult}

def deactivations (request : DryRunRequest) (existing : Dict String Record) (rows : List RowValidationResult) : List DryRunRowResult :=
  let missing := if request.mode = .deactivateMissing then
    omitted existing ((rows.filter RowValidationResult.isValid).map RowValidationResult.naturalKey) else []
  missing.zipIdx.map (fun item => deactivatedResult (rows.length + item.2 + 1) item.1.1 item.1.2)

theorem rowResults_dryRunOf : (engine.dryRunOf request entityType policy existing rows).rowResults =
    rows.map (engine.rowResult request.mode existing) ++ deactivations request existing rows := by
  simp only [dryRunOf,deactivations,List.length_map]

theorem deactivatedCount_dryRunOf :
    (engine.dryRunOf request entityType policy existing rows).deactivatedCount = (deactivations request existing rows).length := by
  simp only [dryRunOf,deactivations,List.length_map]

theorem mem_deactivations {row : DryRunRowResult} (member : row ∈ deactivations request existing rows) :
    row.outcome = .deactivated ∧ ∀ valid ∈ rows, valid.isValid = true → valid.naturalKey ≠ row.naturalKey := by
  unfold deactivations at member
  obtain ⟨⟨⟨key,record⟩,position⟩,within,rfl⟩ := List.mem_map.mp member
  refine ⟨rfl,?_⟩
  intro valid held isValid same
  have listed := List.mem_zipIdx' within
  have inside : (key, record) ∈ (if request.mode = .deactivateMissing then
      omitted existing ((rows.filter RowValidationResult.isValid).map RowValidationResult.naturalKey) else []) := by
    rw [listed.2]
    exact List.getElem_mem _
  split at inside
  · have unseen := (List.mem_filter.mp inside).2
    simp only [Bool.and_eq_true,decide_eq_true_eq] at unseen
    exact unseen.1 (List.mem_map.mpr ⟨valid,List.mem_filter.mpr ⟨held,isValid⟩,same⟩)
  · cases inside

variable (request existing rows) in
theorem deactivations_nodup : ((deactivations request existing rows).map DryRunRowResult.naturalKey).Nodup := by
  have keys : ∀ (missing : List (String × Record)) (start : ℕ), (missing.map Prod.fst).Nodup →
      ((missing.zipIdx.map (fun item => deactivatedResult (start + item.2 + 1) item.1.1 item.1.2)).map DryRunRowResult.naturalKey).Nodup := by
    intro missing start distinct
    rw [List.map_map]
    have same : (DryRunRowResult.naturalKey ∘ fun item : (String × Record) × ℕ => deactivatedResult (start + item.2 + 1) item.1.1 item.1.2) =
        Prod.fst ∘ Prod.fst := rfl
    rw [same,← List.map_map,List.zipIdx_map_fst]
    exact distinct
  unfold deactivations
  refine keys _ _ ?_
  split
  · exact existing.distinct.sublist (List.filter_sublist.map Prod.fst)
  · exact List.nodup_nil

theorem solitary_dryRunOf : Solitary (engine.dryRunOf request entityType policy existing rows).rowResults := by
  unfold Solitary
  rw [rowResults_dryRunOf,List.pairwise_append]
  refine ⟨?_,?_,?_⟩
  · refine List.Pairwise.imp_of_mem ?_ (List.pairwise_of_forall (R := fun _ _ => True) (fun _ _ => trivial))
    intro earlier later _ member _ ends
    obtain ⟨row,_,rfl⟩ := List.mem_map.mp member
    exact absurd ends rowResult_ne_deactivated
  · refine (List.pairwise_map.mp (deactivations_nodup request existing rows)).imp ?_
    intro earlier later different _ same
    exact absurd same.symm different
  · intro earlier inFile later added _ same
    obtain ⟨row,member,rfl⟩ := List.mem_map.mp inFile
    by_contra active
    rw [rowResult_naturalKey] at same
    exact (mem_deactivations added).2 row member (isValid_of_not_idle active) same.symm

end Summary

section Folds

variable {engine : BulkImportEngine} {context : RunContext} {mine : List DryRunRowResult} {held : Option Record}

def Carries (record data : Record) : Prop := ∀ name value, data.get name = some value → record.get name = some value

theorem get_updatedWith_other {pairs : List (String × Json)} {name : String} (absent : name ∉ pairs.map Prod.fst) (record : Record) :
    (updatedWith record pairs).get name = record.get name := by
  induction pairs generalizing record with
  | nil => rfl
  | cons pair rest ih =>
    rw [List.map_cons,List.mem_cons,not_or] at absent
    rw [updatedWith,List.foldl_cons,← updatedWith,ih absent.2,Dict.get_assign,if_neg absent.1]

theorem get_updatedWith {pairs : List (String × Json)} (distinct : (pairs.map Prod.fst).Nodup) {name : String} {value : Json}
    (member : (name, value) ∈ pairs) (record : Record) : (updatedWith record pairs).get name = some value := by
  induction pairs generalizing record with
  | nil => cases member
  | cons pair rest ih =>
    rw [List.map_cons,List.nodup_cons] at distinct
    rw [updatedWith,List.foldl_cons,← updatedWith]
    rcases List.mem_cons.mp member with rfl | later
    · rw [get_updatedWith_other distinct.1,Dict.get_assign,if_pos rfl]
    · exact ih distinct.2 later _

def Plain (row : DryRunRowResult) : Prop := ∀ name ∈ row.entityData.keys, isReserved name = false

variable (engine context) in
theorem rewritten_carries {row : DryRunRowResult} (writes : row.outcome.Writes) (plain : Plain row) (held : Option Record) :
    ∃ record, rewritten engine context held row = some record ∧ Carries record row.entityData := by
  have apart : ∀ name value, row.entityData.get name = some value → name ≠ "_provenance" ∧ name ≠ "is_active" := by
    intro name value found
    have free := plain name (Dict.mem_keys_iff.mpr ⟨value,found⟩)
    refine ⟨?_,?_⟩
    · rintro rfl
      exact absurd free (by decide)
    · rintro rfl
      exact absurd free (by decide)
  unfold rewritten
  rcases writes with created | updated
  · rw [created]
    refine ⟨_,rfl,?_⟩
    intro name value found
    rw [createdRecord,Dict.get_assign,if_neg (apart name value found).2,Dict.get_assign,if_neg (apart name value found).1,found]
  · rw [updated]
    refine ⟨_,rfl,?_⟩
    intro name value found
    rw [updatedRecord,Dict.get_assign,if_neg (apart name value found).1]
    exact get_updatedWith row.entityData.distinct (Dict.get_eq_some_iff.mp found) _

theorem foldl_idle (idle : ∀ row ∈ mine, row.outcome.Idle) : mine.foldl (rewritten engine context) held = held := by
  induction mine with
  | nil => rfl
  | cons row rest ih =>
    rw [List.foldl_cons,rewritten_idle (idle row List.mem_cons_self)]
    exact ih (fun other member => idle other (List.mem_cons_of_mem _ member))

variable (engine context held mine) in
/-- Where the written rows of a key agree, its record carries each of them. -/
theorem foldl_carries (kinds : ∀ row ∈ mine, row.outcome.Writes ∨ row.outcome.Idle) (plain : ∀ row ∈ mine, row.outcome.Writes → Plain row)
    (agree : ∀ a ∈ mine, ∀ b ∈ mine, a.outcome.Writes → b.outcome.Writes → ∀ name, a.entityData.get name = b.entityData.get name)
    {row : DryRunRowResult} (member : row ∈ mine) (writes : row.outcome.Writes) :
    ∃ record, mine.foldl (rewritten engine context) held = some record ∧ Carries record row.entityData := by
  induction mine using List.reverseRecOn with
  | nil => cases member
  | append_singleton rest last ih =>
    have within : ∀ {other}, other ∈ rest → other ∈ rest ++ [last] := fun inside => List.mem_append_left _ inside
    have final : last ∈ rest ++ [last] := List.mem_append_right _ (List.mem_singleton_self last)
    rw [List.foldl_append,List.foldl_cons,List.foldl_nil]
    rcases kinds last final with lastWrites | idle
    · obtain ⟨record,found,carries⟩ := rewritten_carries engine context lastWrites (plain last final lastWrites)
        (rest.foldl (rewritten engine context) held)
      refine ⟨record,found,?_⟩
      intro name value given
      exact carries name value ((agree last final row member lastWrites writes name).trans given)
    · have earlier : row ∈ rest := by
        rcases List.mem_append.mp member with inside | single
        · exact inside
        · rw [List.mem_singleton.mp single] at writes
          rcases writes with same | same <;> rcases idle with other | other <;> rw [same] at other <;> cases other
      rw [rewritten_idle idle]
      exact ih (fun other inside => kinds other (within inside)) (fun other inside => plain other (within inside))
        (fun a insideA b insideB => agree a (within insideA) b (within insideB)) earlier

theorem counted_rewritten {row : DryRunRowResult} (kind : row.outcome = .deactivated ∨ row.outcome.Idle) (present : (counted held).isSome) :
    (counted (rewritten engine context held row)).isSome := by
  rcases kind with ends | idle
  · obtain ⟨record,found⟩ := Option.isSome_iff_exists.mp present
    unfold rewritten
    rw [ends]
    change (counted (((counted held).map _).or held)).isSome
    rw [found]
    simp [counted,Option.filter_some,Dict.items_assign_ne_nil]
  · rw [rewritten_idle idle]
    exact present

variable (engine context) in
theorem counted_foldl (kinds : ∀ row ∈ mine, row.outcome = .deactivated ∨ row.outcome.Idle) (present : (counted held).isSome) :
    (counted (mine.foldl (rewritten engine context) held)).isSome := by
  induction mine generalizing held with
  | nil => exact present
  | cons row rest ih =>
    exact ih (fun other member => kinds other (List.mem_cons_of_mem _ member)) (counted_rewritten (kinds row List.mem_cons_self) present)

variable (engine context held mine) in
/-- A deactivated record that exists ends inactive. -/
theorem foldl_inactive (kinds : ∀ row ∈ mine, row.outcome = .deactivated ∨ row.outcome.Idle) (present : (counted held).isSome)
    {row : DryRunRowResult} (member : row ∈ mine) (ends : row.outcome = .deactivated) :
    ∃ record, mine.foldl (rewritten engine context) held = some record ∧ record.get "is_active" = some (.bool false) := by
  induction mine using List.reverseRecOn with
  | nil => cases member
  | append_singleton rest last ih =>
    have before : ∀ other ∈ rest, other.outcome = .deactivated ∨ other.outcome.Idle := fun other inside => kinds other (List.mem_append_left _ inside)
    rw [List.foldl_append,List.foldl_cons,List.foldl_nil]
    rcases kinds last (List.mem_append_right _ (List.mem_singleton_self last)) with lastEnds | idle
    · obtain ⟨record,found⟩ := Option.isSome_iff_exists.mp (counted_foldl engine context before present)
      refine ⟨record.assign "is_active" (.bool false),?_,by rw [Dict.get_assign,if_pos rfl]⟩
      unfold rewritten
      rw [lastEnds]
      dsimp only
      change ((counted (rest.foldl (rewritten engine context) held)).map _).or _ = _
      rw [found]
      rfl
    · have earlier : row ∈ rest := by
        rcases List.mem_append.mp member with inside | single
        · exact inside
        · rw [List.mem_singleton.mp single] at ends
          rcases idle with other | other <;> rw [ends] at other <;> cases other
      rw [rewritten_idle idle]
      exact ih before earlier

end Folds

section Visible

variable {engine : BulkImportEngine} {state : EngineState} {entityType key : String}

theorem get_localRecords : (localRecords state entityType).get key = getRecord state entityType key := by
  have distinct : (((state.entityStores.items.filter (fun item => item.1.1 = entityType)).map
      (fun item => (item.1.2, item.2))).map Prod.fst).Nodup := by
    rw [List.map_map]
    refine List.pairwise_map.mpr ?_
    refine List.Pairwise.imp_of_mem ?_ ((List.pairwise_map.mp state.entityStores.distinct).filter _)
    intro a b memberA memberB different same
    have typeA := of_decide_eq_true (List.mem_filter.mp memberA).2
    have typeB := of_decide_eq_true (List.mem_filter.mp memberB).2
    exact different (Prod.ext (typeA.trans typeB.symm) same)
  ext record
  unfold localRecords getRecord
  rw [Dict.get_eq_some_iff,Dict.items_ofPairs distinct,Dict.get_eq_some_iff]
  simp only [List.mem_map,List.mem_filter,decide_eq_true_eq]
  constructor
  · intro found
    obtain ⟨⟨⟨_,_⟩,_⟩,⟨held,rfl⟩,same⟩ := found
    cases same
    exact held
  · intro held
    exact ⟨_,⟨held,rfl⟩,rfl⟩

theorem get_existingRecords {record : Record} (held : getRecord state entityType key = some record) (call : MasterData.Call) :
    (engine.existingRecords state call entityType).get key = some record := by
  have kept : ∀ (records : List MasterDataRecord) (results : Dict String Record), results.get key = some record →
      (records.foldl (fun results r => if (results.get r.code).isNone then results.assign r.code (entryOf r) else results) results).get key =
        some record := by
    intro records
    induction records with
    | nil => exact fun _ found => found
    | cons r rest ih =>
      intro results found
      rw [List.foldl_cons]
      refine ih _ ?_
      split
      · rename_i absent
        rw [Dict.get_assign,if_neg,found]
        rintro rfl
        rw [found] at absent
        cases absent
      · exact found
  have here : (localRecords state entityType).get key = some record := get_localRecords.trans held
  unfold existingRecords
  split
  · exact here
  · exact kept _ _ here

end Visible

section Promise

variable (engine : BulkImportEngine)

def appliedKeys (dryRun : DryRunSummary) : List String :=
  (dryRun.rowResults.filter (fun row => row.outcome ≠ .skipped && row.outcome ≠ .rejected)).map DryRunRowResult.naturalKey

/-- The run counts what the dry run counted, the records have the values of their rows
or are inactive, and no other record has changed. -/
structure AsReported (before : EngineState) (dryRun : DryRunSummary) (run : ImportRunRecord) (after : EngineState) : Prop where
  created : run.createdCount = dryRun.createdCount
  updated : run.updatedCount = dryRun.updatedCount
  deactivated : run.deactivatedCount = dryRun.deactivatedCount
  carried : ∀ row ∈ dryRun.rowResults, row.outcome.Writes → ∀ call,
    ∃ record, (engine.existingRecords after call dryRun.entityType).get row.naturalKey = some record ∧ Carries record row.entityData
  inactive : ∀ row ∈ dryRun.rowResults, row.outcome = .deactivated → ∀ call,
    ∃ record, (engine.existingRecords after call dryRun.entityType).get row.naturalKey = some record ∧ record.get "is_active" = some (.bool false)
  others : ∀ entityType key, ¬(entityType = dryRun.entityType ∧ key ∈ appliedKeys dryRun) →
    getRecord after entityType key = getRecord before entityType key
  masters : ∀ masterType code, ¬(masterType = normalised dryRun.entityType ∧ code ∈ appliedKeys dryRun) →
    codeRows masterType code after.master = codeRows masterType code before.master

def runContext (request : ApplyRequest) (dryRun : DryRunSummary) : RunContext :=
  ⟨dryRun,request.importRunId,request.actorId,request.startTime⟩

/-- Every record to deactivate is one of the engine's, rows that write one key agree, and
every row is reflected in the master data under an applied key. -/
structure Executable (before : EngineState) (request : ApplyRequest) (dryRun : DryRunSummary) : Prop where
  held : ∀ row ∈ dryRun.rowResults, row.outcome = .deactivated → (existingRecord before dryRun.entityType row.naturalKey).isSome
  agree : ∀ a ∈ dryRun.rowResults, ∀ b ∈ dryRun.rowResults, a.outcome.Writes → b.outcome.Writes → a.naturalKey = b.naturalKey →
    ∀ name, a.entityData.get name = b.entityData.get name
  spelled : engine.Spelled (runContext request dryRun) request.calls (appliedKeys dryRun) 0 dryRun.rowResults { state := before }

end Promise

structure Filed (dryRun : DryRunSummary) : Prop where
  total : dryRun.totalRows = dryRun.createdCount + dryRun.updatedCount + dryRun.skippedCount + dryRun.rejectedCount
  created : dryRun.createdCount = countOutcome .created dryRun.rowResults
  updated : dryRun.updatedCount = countOutcome .updated dryRun.rowResults
  deactivated : dryRun.deactivatedCount = countOutcome .deactivated dryRun.rowResults
  complete : dryRun.atomicityPolicy = .allOrNothing → dryRun.isValid = decide (dryRun.rejectedCount = 0)
  columns : ∃ names : List String, (∀ name ∈ names, isReserved name = false) ∧
    ∀ row ∈ dryRun.rowResults, row.outcome.Writes → ∀ name, name ∈ row.entityData.keys ↔ name ∈ names
  apart : ∀ a ∈ dryRun.rowResults, ∀ b ∈ dryRun.rowResults, a.outcome = .deactivated → b.naturalKey = a.naturalKey →
    b.outcome = .deactivated ∨ b.outcome.Idle
  solitary : Solitary dryRun.rowResults

section Filing

variable {engine : BulkImportEngine} {state after : EngineState} {request : DryRunRequest} {summary : DryRunSummary}

theorem countOutcome_append (outcome : RowOutcome) (first second : List DryRunRowResult) :
    countOutcome outcome (first ++ second) = countOutcome outcome first + countOutcome outcome second := List.countP_append

theorem countOutcome_eq_zero {outcome : RowOutcome} {results : List DryRunRowResult} (other : ∀ row ∈ results, row.outcome ≠ outcome) :
    countOutcome outcome results = 0 := by
  refine List.countP_eq_zero.mpr ?_
  intro row member
  simpa using other row member

theorem executeDryRun_ok (dry : engine.executeDryRun state request = .ok (summary, after)) :
    ∃ metadata profile policy, ∃ rawRows : List (ℕ × Record),
      summary = engine.dryRunOf request (normalised request.entityType) policy
        (engine.existingRecords state request.call (normalised request.entityType))
        (rawRows.map (fun raw => request.validator.validateRow metadata profile raw.1 raw.2)) ∧
      after = { state with dryRuns := state.dryRuns.assign summary.dryRunId summary } := by
  unfold executeDryRun at dry
  dsimp only at dry
  split at dry
  · cases dry
  · rename_i metadata declared
    split at dry
    · cases dry
    · split at dry
      · cases dry
      · rename_i profile given
        split at dry
        · cases dry
        · rename_i rawRows parsed
          cases dry
          exact ⟨metadata,profile,_,rawRows,rfl,rfl⟩

theorem filed_dryRunOf (metadata : EntityImportMetadata) (profile : Option MappingProfile) (entityType : String) (policy : AtomicityPolicy)
    (existing : Dict String Record) (rawRows : List (ℕ × Record)) :
    Filed (engine.dryRunOf request entityType policy existing
      (rawRows.map (fun raw => request.validator.validateRow metadata profile raw.1 raw.2))) := by
  obtain ⟨rows,made⟩ : ∃ rows, rows = rawRows.map (fun raw => request.validator.validateRow metadata profile raw.1 raw.2) := ⟨_,rfl⟩
  rw [← made]
  have inFile : ∀ result ∈ rows.map (engine.rowResult request.mode existing), result.outcome ≠ .deactivated := by
    intro result member
    obtain ⟨row,_,rfl⟩ := List.mem_map.mp member
    exact rowResult_ne_deactivated
  have added : ∀ result ∈ deactivations request existing rows, result.outcome = .deactivated := fun result member => (mem_deactivations member).1
  have absent : ∀ outcome, outcome ≠ .deactivated → countOutcome outcome (deactivations request existing rows) = 0 := by
    intro outcome other
    refine countOutcome_eq_zero ?_
    intro result member same
    exact other (same.symm.trans (added result member))
  refine ⟨?_,?_,?_,?_,?_,?_,?_,solitary_dryRunOf⟩
  · have counted := length_eq_counts inFile
    rw [List.length_map] at counted
    exact counted
  · rw [rowResults_dryRunOf,countOutcome_append,absent .created (by simp)]
    rfl
  · rw [rowResults_dryRunOf,countOutcome_append,absent .updated (by simp)]
    rfl
  · rw [rowResults_dryRunOf,countOutcome_append,countOutcome_eq_zero inFile,deactivatedCount_dryRunOf,Nat.zero_add]
    exact (List.countP_eq_length.mpr (fun result member => by simpa using added result member)).symm
  · intro complete
    have given : policy = .allOrNothing := complete
    subst given
    rfl
  · refine ⟨metadata.columns.map ColumnDefinition.name,?_,?_⟩
    · intro name member
      obtain ⟨column,within,rfl⟩ := List.mem_map.mp member
      exact metadata.plain column within
    · intro result member writes name
      rw [rowResults_dryRunOf] at member
      rcases List.mem_append.mp member with filed | extra
      · obtain ⟨row,within,rfl⟩ := List.mem_map.mp filed
        have active : ¬(engine.rowResult request.mode existing row).outcome.Idle := by
          rintro (idle | idle) <;> rcases writes with same | same <;> rw [same] at idle <;> cases idle
        have valid := isValid_of_not_idle active
        rw [made] at within
        obtain ⟨raw,_,rfl⟩ := List.mem_map.mp within
        rw [rowResult_entityData]
        exact BulkImportValidator.mem_keys_validateRow valid name
      · rcases writes with same | same <;> rw [added result extra] at same <;> cases same
  · intro a memberA b memberB ends same
    rw [rowResults_dryRunOf] at memberA memberB
    have extra : a ∈ deactivations request existing rows := by
      rcases List.mem_append.mp memberA with filed | extra
      · exact absurd ends (inFile a filed)
      · exact extra
    rcases List.mem_append.mp memberB with filed | extraB
    · obtain ⟨row,within,rfl⟩ := List.mem_map.mp filed
      refine Or.inr ?_
      by_contra active
      rw [rowResult_naturalKey] at same
      exact (mem_deactivations extra).2 row within (isValid_of_not_idle active) same
    · exact Or.inl (added b extraB)

end Filing

section Applied

variable {engine : BulkImportEngine} {before after : EngineState} {dryRun : DryRunSummary} {request : ApplyRequest} {run : ImportRunRecord}

theorem applyImport_ok (stored : before.dryRuns.get request.dryRunId = some dryRun)
    (served : engine.applyImport before request = .ok (run, after)) :
    ∃ progress, progress = engine.applyRows (runContext request dryRun) request.calls 0 dryRun.rowResults { state := before } ∧
      run = engine.runRecord request dryRun progress ∧ after = { progress.state with runs := progress.state.runs.assign run.id run } := by
  unfold applyImport at served
  rw [stored] at served
  dsimp only at served
  split at served
  · cases served
  · cases served
    exact ⟨_,rfl,rfl,rfl⟩

theorem countP_and_eq_iff {Item : Type} {p q : Item → Prop} [DecidablePred p] [DecidablePred q] {items : List Item} :
    items.countP (fun item => p item ∧ q item) = items.countP (fun item => p item) ↔ ∀ item ∈ items, p item → q item := by
  induction items with
  | nil => simp
  | cons item rest ih =>
    have fewer : rest.countP (fun item => p item ∧ q item) ≤ rest.countP (fun item => p item) :=
      List.countP_mono_left (fun other _ both => by simp_all)
    rw [List.countP_cons,List.countP_cons,List.forall_mem_cons,← ih]
    by_cases holds : p item
    · by_cases also : q item
      · simp [holds,also]
      · simp only [Bool.decide_and] at fewer
        simp [holds,also]
        omega
    · simp [holds]

theorem mem_appliedKeys {key : String} : key ∈ appliedKeys dryRun ↔
    ∃ row ∈ dryRun.rowResults, ¬ row.outcome.Idle ∧ row.naturalKey = key := by
  unfold appliedKeys RowOutcome.Idle
  simp [List.mem_map,List.mem_filter,and_assoc]

theorem idle_or_writes (outcome : RowOutcome) : outcome = .deactivated ∨ outcome.Writes ∨ outcome.Idle := by
  unfold RowOutcome.Writes RowOutcome.Idle
  cases outcome <;> simp

theorem not_idle_of_writes {outcome : RowOutcome} (writes : outcome.Writes) : ¬ outcome.Idle := by
  rcases writes with rfl | rfl <;> simp [RowOutcome.Idle]

theorem deactivatedCount_eq_iff (filed : Filed dryRun) (stored : before.dryRuns.get request.dryRunId = some dryRun)
    (served : engine.applyImport before request = .ok (run, after)) : run.deactivatedCount = dryRun.deactivatedCount ↔
      ∀ row ∈ dryRun.rowResults, row.outcome = .deactivated → (existingRecord before dryRun.entityType row.naturalKey).isSome := by
  obtain ⟨progress,made,rfl,_⟩ := applyImport_ok stored served
  have counted := deactivated_applyRows engine (runContext request dryRun) request.calls dryRun.rowResults
    filed.solitary 0 { state := before }
  rw [← made,Nat.zero_add] at counted
  rw [filed.deactivated]
  change progress.deactivated = _ ↔ _
  rw [counted]
  exact countP_and_eq_iff

theorem agree_of_asReported (filed : Filed dryRun) (reported : AsReported engine before dryRun run after) {a b : DryRunRowResult}
    (memberA : a ∈ dryRun.rowResults) (memberB : b ∈ dryRun.rowResults) (writesA : a.outcome.Writes) (writesB : b.outcome.Writes)
    (same : a.naturalKey = b.naturalKey) (call : MasterData.Call) (name : String) : a.entityData.get name = b.entityData.get name := by
  obtain ⟨names,_,columns⟩ := filed.columns
  obtain ⟨first,foundA,carriesA⟩ := reported.carried a memberA writesA call
  obtain ⟨second,foundB,carriesB⟩ := reported.carried b memberB writesB call
  rw [same,foundB] at foundA
  cases foundA
  have keys : name ∈ a.entityData.keys ↔ name ∈ b.entityData.keys := (columns a memberA writesA name).trans (columns b memberB writesB name).symm
  cases valueA : a.entityData.get name with
  | some value =>
    obtain ⟨other,valueB⟩ := Dict.mem_keys_iff.mp (keys.mp (Dict.mem_keys_iff.mpr ⟨value,valueA⟩))
    rw [valueB,← carriesA name value valueA,carriesB name other valueB]
  | none =>
    cases valueB : b.entityData.get name with
    | none => rfl
    | some value =>
      obtain ⟨other,found⟩ := Dict.mem_keys_iff.mp (keys.mpr (Dict.mem_keys_iff.mpr ⟨value,valueB⟩))
      rw [valueA] at found
      cases found

theorem executable_of_asReported (filed : Filed dryRun) (stored : before.dryRuns.get request.dryRunId = some dryRun)
    (served : engine.applyImport before request = .ok (run, after)) (fresh : FreshCalls request.calls dryRun.entityType 0 before.master)
    (reported : AsReported engine before dryRun run after) : Executable engine before request dryRun where
  held := (deactivatedCount_eq_iff filed stored served).mp reported.deactivated
  agree := fun _ memberA _ memberB writesA writesB same =>
    agree_of_asReported filed reported memberA memberB writesA writesB same (request.calls 0)
  spelled := by
    obtain ⟨progress,rfl,_,shaped⟩ := applyImport_ok stored served
    have kept := reported.masters
    rw [shaped] at kept
    exact (@codeRows_applyRows_iff engine (runContext request dryRun) _ _ _ _ _ fresh).mp kept

theorem getRecord_applyImport (stored : before.dryRuns.get request.dryRunId = some dryRun)
    (served : engine.applyImport before request = .ok (run, after)) (entityType key : String) :
    getRecord after entityType key = if entityType = dryRun.entityType then
        (dryRun.rowResults.filter (fun row => row.naturalKey = key)).foldl (rewritten engine (runContext request dryRun))
          (getRecord before entityType key)
      else getRecord before entityType key := by
  obtain ⟨progress,made,_,shaped⟩ := applyImport_ok stored served
  have applied := getRecord_applyRows engine (runContext request dryRun) request.calls entityType key
    dryRun.rowResults 0 { state := before }
  rw [← made] at applied
  rw [shaped]
  exact applied

theorem asReported_of_executable (filed : Filed dryRun) (stored : before.dryRuns.get request.dryRunId = some dryRun)
    (served : engine.applyImport before request = .ok (run, after)) (fresh : FreshCalls request.calls dryRun.entityType 0 before.master)
    (executable : Executable engine before request dryRun) : AsReported engine before dryRun run after := by
  have counts := (deactivatedCount_eq_iff filed stored served).mpr executable.held
  obtain ⟨names,free,columns⟩ := filed.columns
  obtain ⟨progress,made,ran,shaped⟩ := applyImport_ok stored served
  have records := getRecord_applyImport stored served
  generalize runContext request dryRun = context at records
  have plain : ∀ row ∈ dryRun.rowResults, row.outcome.Writes → Plain row := by
    intro row member writes name held
    exact free name ((columns row member writes name).mp held)
  refine ⟨?_,?_,counts,?_,?_,?_,?_⟩
  · rw [filed.created,ran]
    change progress.created = _
    rw [made,created_applyRows,Nat.zero_add]
  · rw [filed.updated,ran]
    change progress.updated = _
    rw [made,updated_applyRows,Nat.zero_add]
  · intro row member writes call
    have mine : row ∈ dryRun.rowResults.filter (fun other => other.naturalKey = row.naturalKey) :=
      List.mem_filter.mpr ⟨member,by simp⟩
    obtain ⟨record,found,carries⟩ := foldl_carries engine context (dryRun.rowResults.filter (fun other => other.naturalKey = row.naturalKey))
      (getRecord before dryRun.entityType row.naturalKey)
      (by
        intro other inside
        obtain ⟨held,same⟩ := List.mem_filter.mp inside
        rcases idle_or_writes other.outcome with ends | writesOr
        · rcases filed.apart other held row member ends (of_decide_eq_true same).symm with also | idle
          · rcases writes with kind | kind <;> rw [kind] at also <;> cases also
          · exact absurd idle (not_idle_of_writes writes)
        · exact writesOr)
      (fun other inside => plain other (List.mem_of_mem_filter inside))
      (by
        intro a insideA b insideB writesA writesB
        obtain ⟨heldA,sameA⟩ := List.mem_filter.mp insideA
        obtain ⟨heldB,sameB⟩ := List.mem_filter.mp insideB
        exact executable.agree a heldA b heldB writesA writesB ((of_decide_eq_true sameA).trans (of_decide_eq_true sameB).symm))
      mine writes
    refine ⟨record,get_existingRecords ?_ call,carries⟩
    rw [records,if_pos rfl,found]
  · intro row member ends call
    have mine : row ∈ dryRun.rowResults.filter (fun other => other.naturalKey = row.naturalKey) :=
      List.mem_filter.mpr ⟨member,by simp⟩
    obtain ⟨record,found,inactive⟩ := foldl_inactive engine context (dryRun.rowResults.filter (fun other => other.naturalKey = row.naturalKey))
      (getRecord before dryRun.entityType row.naturalKey)
      (by
        intro other inside
        obtain ⟨held,same⟩ := List.mem_filter.mp inside
        exact filed.apart row member other held ends (of_decide_eq_true same))
      (executable.held row member ends) mine ends
    refine ⟨record,get_existingRecords ?_ call,inactive⟩
    rw [records,if_pos rfl,found]
  · intro entityType key outside
    rw [records]
    split
    · rename_i same
      refine foldl_idle ?_
      intro row inside
      obtain ⟨held,keyed⟩ := List.mem_filter.mp inside
      by_contra active
      exact outside ⟨same,mem_appliedKeys.mpr ⟨row,held,active,of_decide_eq_true keyed⟩⟩
    · rfl
  · intro masterType code outside
    have kept := (@codeRows_applyRows_iff engine (runContext request dryRun) _ _ _ _ _ fresh).mpr executable.spelled masterType code outside
    rw [← made] at kept
    rw [shaped]
    exact kept

end Applied

section DryRuns

variable {engine : BulkImportEngine} {state afterDry : EngineState} {request : DryRunRequest} {summary : DryRunSummary}

theorem get_dryRuns (dry : engine.executeDryRun state request = .ok (summary, afterDry)) :
    afterDry.dryRuns.get summary.dryRunId = some summary := by
  obtain ⟨_,_,_,_,_,shaped⟩ := executeDryRun_ok dry
  rw [shaped]
  exact Dict.get_assign.trans (if_pos rfl)

theorem filed_of_dry (dry : engine.executeDryRun state request = .ok (summary, afterDry)) : Filed summary := by
  obtain ⟨metadata,profile,policy,rawRows,made,_⟩ := executeDryRun_ok dry
  rw [made]
  exact filed_dryRunOf metadata profile _ policy _ rawRows

end DryRuns

section Example

def budgetColumns : EntityImportMetadata where
  columns := [{ name := "budget_id", required := true }, { name := "owner_id" }]
  naturalKeyColumns := ["budget_id"]
  defaultAtomicityPolicy := .allOrNothing
  allowedModes := [.insertOnly, .updateOnly, .upsert]
  rollbackWindowHours := 24
  distinct := by decide
  plain := by decide

def plainConversions : Conversions where
  str
    | .str word => word
    | _ => "None"
  float := fun _ => none
  isDate := fun _ => false
  text := fun _ => rfl

def budgetEngine : BulkImportEngine where
  tenantId := "tenant-a"
  catalogue := fun entityType => if entityType = "BUDGET" then some budgetColumns else none
  environment := ⟨fun _ => none,fun _ _ => []⟩
  conversions := plainConversions
  isoformat := fun _ => "2026-01-01T00:00:00+00:00"

def blankState : EngineState := ⟨Dict.empty,Dict.empty,Dict.empty,Dict.empty,Dict.empty,.blank⟩

def repeatedCalls (i : ℕ) : MasterData.Call := ⟨10,String.ofList (List.replicate i 'a'),.stable⟩

def budgetRow (owner : String) : Record := Dict.ofPairs [("budget_id", .str "BUD-1"), ("owner_id", .str owner)]

def repeatedBudget : DryRunRequest where
  file := ⟨"budgets.csv","9f86d081",.ok [(2, budgetRow "first"), (3, budgetRow "second")]⟩
  entityType := "BUDGET"
  mode := .insertOnly
  atomicityPolicy := none
  profile := .ok none
  validator := ⟨plainConversions,fun _ => []⟩
  dryRunId := "dry-1"
  call := repeatedCalls 0

def budgetApplication : ApplyRequest := ⟨"dry-1","imp-1","admin",20,30,repeatedCalls⟩

theorem repeatedBudget_reported : (budgetEngine.executeDryRun blankState repeatedBudget).toOption.any (fun dry =>
    dry.1.rowResults.map (fun row => (row.outcome, row.naturalKey, MasterData.textOf (row.entityData.get "owner_id"))) =
      [(.created, "BUD-1", some "first"), (.created, "BUD-1", some "second")] &&
    (budgetEngine.applyImport dry.2 budgetApplication).toOption.isSome && dry.1.dryRunId = "dry-1" && dry.1.entityType = "BUDGET") = true := by
  decide +kernel

theorem ok_of_toOption {Answer : Type} {result : Except BulkImportError Answer} {answer : Answer} (given : result.toOption = some answer) :
    result = .ok answer := by
  cases result with
  | error fault => cases given
  | ok value =>
    cases given
    rfl

theorem repeatedBudget_served : ∃ summary afterDry run after a b,
    budgetEngine.executeDryRun blankState repeatedBudget = .ok (summary, afterDry) ∧
      budgetEngine.applyImport afterDry budgetApplication = .ok (run, after) ∧ summary.dryRunId = "dry-1" ∧ summary.entityType = "BUDGET" ∧
      summary.rowResults = [a, b] ∧ a.outcome = .created ∧ b.outcome = .created ∧ a.naturalKey = b.naturalKey ∧
      MasterData.textOf (a.entityData.get "owner_id") ≠ MasterData.textOf (b.entityData.get "owner_id") := by
  have reported := repeatedBudget_reported
  rw [Option.any_eq_true] at reported
  obtain ⟨⟨summary,afterDry⟩,dry,facts⟩ := reported
  simp only [Bool.and_eq_true,decide_eq_true_eq,Option.isSome_iff_exists] at facts
  obtain ⟨⟨⟨rows,⟨⟨run,after⟩,served⟩⟩,named⟩,typed⟩ := facts
  obtain ⟨a,rest,shape,first,others⟩ := List.map_eq_cons_iff.mp rows
  obtain ⟨b,last,tail,second,none⟩ := List.map_eq_cons_iff.mp others
  rw [List.map_eq_nil_iff] at none
  simp only [Prod.mk.injEq] at first second
  refine ⟨summary,afterDry,run,after,a,b,ok_of_toOption dry,ok_of_toOption served,named,typed,?_,first.1,second.1,?_,?_⟩
  · rw [shape,tail,none]
  · rw [first.2.1,second.2.1]
  · rw [first.2.2,second.2.2]
    decide

def costCentreColumns : EntityImportMetadata where
  columns := [{ name := "code", required := true }, { name := "display_name" }]
  naturalKeyColumns := ["code"]
  defaultAtomicityPolicy := .partialSuccess
  allowedModes := [.insertOnly, .updateOnly, .upsert, .deactivateMissing]
  rollbackWindowHours := 24
  distinct := by decide
  plain := by decide

def costCentreEngine : BulkImportEngine where
  tenantId := "tenant-a"
  catalogue := fun entityType => if entityType = "COST_CENTRE" then some costCentreColumns else none
  environment := ⟨fun masterType => if masterType = "COST_CENTRE" then some ⟨"COST_CENTRE",false⟩ else none,fun _ _ => []⟩
  conversions := plainConversions
  isoformat := fun _ => "2026-01-01T00:00:00+00:00"

def costCentreRow (code name : String) : Record := Dict.ofPairs [("code", .str code), ("display_name", .str name)]

def globalRetail : MasterDataRecord where
  id := "m"
  masterType := "COST_CENTRE"
  code := "RETAIL"
  displayName := "Retail"
  description := none
  sortOrder := 0
  isSystem := false
  isActive := true
  effectiveFrom := 0
  effectiveTo := none
  version := 1
  parentCode := none
  attributes := []
  tenantId := none
  createdBy := "system"
  approvedBy := some "system"
  lifecycleStatus := .published

/-- Retail is in the master data as well. -/
def costCentreState : EngineState where
  entityStores := Dict.ofPairs [(("COST_CENTRE", "RETAIL"), costCentreRow "RETAIL" "Retail"),
    (("COST_CENTRE", "LOGISTICS"), costCentreRow "LOGISTICS" "Logistics"), (("COST_CENTRE", "PRINT"), costCentreRow "PRINT" "Print")]
  recordModifiedAt := Dict.empty
  recordDependents := Dict.empty
  dryRuns := Dict.empty
  runs := Dict.empty
  master := ⟨[globalRetail],List.nodup_singleton _⟩

def mixedCostCentres : DryRunRequest where
  file := ⟨"cost_centres.csv","2c26b46b",.ok [(2, costCentreRow "RETAIL" "Retail shops"), (3, costCentreRow "LOGISTICS" "Logistics"),
    (4, costCentreRow "" "Nowhere"), (5, costCentreRow "ONLINE" "Online shop")]⟩
  entityType := "cost_centre"
  mode := .deactivateMissing
  atomicityPolicy := none
  profile := .ok none
  validator := ⟨plainConversions,fun _ => []⟩
  dryRunId := "dry-2"
  call := repeatedCalls 0

def costCentreApplication : ApplyRequest := ⟨"dry-2","imp-2","admin",20,30,repeatedCalls⟩

theorem costCentreApplication_fresh : FreshCalls costCentreApplication.calls "COST_CENTRE" 0 costCentreState.master where
  unused := by
    intro later _ member
    have same := congrArg String.length (List.mem_singleton.mp member)
    simp [MasterData.recordIdOf,globalRetail,String.length] at same
  distinct := by
    intro i j different same
    have lengths := congrArg String.length same
    simp [MasterData.recordIdOf,costCentreApplication,repeatedCalls] at lengths
    exact different lengths

theorem mixedCostCentres_reported : (costCentreEngine.executeDryRun costCentreState mixedCostCentres).toOption.any (fun dry =>
    dry.1.rowResults.map (fun row => (row.outcome, row.naturalKey)) =
      [(.updated, "RETAIL"), (.skipped, "LOGISTICS"), (.rejected, "row-4"), (.created, "ONLINE"), (.deactivated, "PRINT")] &&
    (costCentreEngine.applyImport dry.2 costCentreApplication).toOption.isSome && dry.1.dryRunId = "dry-2" &&
    dry.1.entityType = "COST_CENTRE" && (existingRecord dry.2 "COST_CENTRE" "PRINT").isSome &&
    costCentreEngine.Spelled (runContext costCentreApplication dry.1) repeatedCalls (appliedKeys dry.1) 0 dry.1.rowResults { state := dry.2 }) =
      true := by
  decide +kernel

theorem mixedCostCentres_served : ∃ summary afterDry run after,
    costCentreEngine.executeDryRun costCentreState mixedCostCentres = .ok (summary, afterDry) ∧
      costCentreEngine.applyImport afterDry costCentreApplication = .ok (run, after) ∧
      summary.rowResults.map (fun row => (row.outcome, row.naturalKey)) =
        [(.updated, "RETAIL"), (.skipped, "LOGISTICS"), (.rejected, "row-4"), (.created, "ONLINE"), (.deactivated, "PRINT")] ∧
      summary.dryRunId = "dry-2" ∧ summary.entityType = "COST_CENTRE" ∧
      Executable costCentreEngine afterDry costCentreApplication summary := by
  have reported := mixedCostCentres_reported
  rw [Option.any_eq_true] at reported
  obtain ⟨⟨summary,afterDry⟩,dry,facts⟩ := reported
  simp only [Bool.and_eq_true,decide_eq_true_eq,Option.isSome_iff_exists] at facts
  obtain ⟨⟨⟨⟨⟨rows,⟨run,after⟩,served⟩,named⟩,typed⟩,held⟩,spelled⟩ := facts
  refine ⟨summary,afterDry,run,after,ok_of_toOption dry,ok_of_toOption served,rows,named,typed,?_,?_,spelled⟩
  · intro row member ends
    have listed : (row.outcome, row.naturalKey) ∈ summary.rowResults.map (fun row => (row.outcome, row.naturalKey)) :=
      List.mem_map_of_mem member
    rw [rows,ends] at listed
    have key : row.naturalKey = "PRINT" := by simpa using listed
    rw [typed,key]
    exact Option.isSome_iff_exists.mpr held
  · intro a memberA b memberB _ _ same name
    have keys : summary.rowResults.map DryRunRowResult.naturalKey = ["RETAIL", "LOGISTICS", "row-4", "ONLINE", "PRINT"] := by
      simpa [Function.comp_def] using congrArg (List.map Prod.snd) rows
    have distinct : (summary.rowResults.map DryRunRowResult.naturalKey).Nodup := by
      rw [keys]
      decide
    rw [List.inj_on_of_nodup_map distinct memberA memberB same]

end Example

end CloudLens.BulkImport
