import CloudLens.BulkImport.Reported
import Mathlib.Logic.Relation

/-! The rollback of an applied import, against the records from before the import. -/
namespace CloudLens.BulkImport
open Library BulkImportEngine

section Undone

variable {engine : BulkImportEngine} {context : RunContext} {calls : ℕ → MasterData.Call} {progress : ApplyProgress} {row : DryRunRowResult}

def recorded (held : Option Record) (row : DryRunRowResult) : List SnapshotItem :=
  match row.outcome with
  | .created => [.created row.naturalKey]
  | .updated => ((counted held).map (SnapshotItem.updated row.naturalKey)).toList
  | .deactivated => ((counted held).map (SnapshotItem.deactivated row.naturalKey)).toList
  | .skipped => []
  | .rejected => []

/-- The record that a key has once the snapshot is reversed. -/
def undone (snapshot : List SnapshotItem) (key : String) (held : Option Record) : Option Record :=
  (snapshot.find? (fun item => item.naturalKey = key)).elim held SnapshotItem.priorData

theorem getRecord_reverseItem (now : Calendar.Instant) (call : MasterData.Call) (item : SnapshotItem) (state : EngineState)
    (type entityType key : String) : getRecord (engine.reverseItem type now call item state) entityType key =
      if entityType = type ∧ item.naturalKey = key then item.priorData else getRecord state entityType key := by
  unfold reverseItem getRecord
  cases prior : item.priorData with
  | none => simp [deleteRecord,Dict.get_erase,eq_comm]
  | some record => simp [stampModified,persistRecord,Dict.get_assign,Prod.ext_iff,eq_comm]

variable (engine calls) in
/-- Of the items of a key, the last one reversed is the first of the snapshot. -/
theorem getRecord_reverseItems (now : Calendar.Instant) (type entityType key : String) (items : List SnapshotItem) (index : ℕ)
    (state : EngineState) : getRecord (engine.reverseItems type now calls index items state) entityType key =
      if entityType = type then undone items.reverse key (getRecord state entityType key) else getRecord state entityType key := by
  induction items generalizing index state with
  | nil => simp [reverseItems,undone]
  | cons item rest ih =>
    rw [reverseItems,ih,getRecord_reverseItem]
    by_cases same : entityType = type
    · rw [if_pos same,if_pos same,undone,undone,List.reverse_cons,List.find?_append]
      cases rest.reverse.find? (fun item => item.naturalKey = key) with
      | some earlier => rfl
      | none => by_cases here : item.naturalKey = key <;> simp [same,here]
    · rw [if_neg same,if_neg same,if_neg (fun both => same both.1)]

theorem snapshotBefore_applyRow (call : MasterData.Call) :
    (engine.applyRow context call row progress).snapshotBefore =
      progress.snapshotBefore ++ recorded (getRecord progress.state context.dryRun.entityType row.naturalKey) row := by
  unfold applyRow recorded existingRecord counted
  cases row.outcome with
  | created => rfl
  | updated => rfl
  | deactivated =>
    dsimp only
    cases (getRecord progress.state context.dryRun.entityType row.naturalKey).filter (fun record => !record.items.isEmpty) with
    | none => exact (List.append_nil _).symm
    | some record => rfl
  | skipped => exact (List.append_nil _).symm
  | rejected => exact (List.append_nil _).symm

/-- The record that a key of the run would have, were the progress reversed. -/
def original (context : RunContext) (key : String) (progress : ApplyProgress) : Option Record :=
  undone progress.snapshotBefore key (getRecord progress.state context.dryRun.entityType key)

theorem counted_eq_some {held : Option Record} {record : Record} (present : counted held = some record) : held = some record :=
  (Option.filter_eq_some_iff.mp present).1

theorem mem_recorded {held : Option Record} {item : SnapshotItem} (member : item ∈ recorded held row) : item.naturalKey = row.naturalKey := by
  unfold recorded at member
  split at member
  · rw [List.mem_singleton.mp member]
    rfl
  · obtain ⟨record,_,rfl⟩ := Option.map_eq_some_iff.mp (Option.mem_toList.mp member)
    rfl
  · obtain ⟨record,_,rfl⟩ := Option.map_eq_some_iff.mp (Option.mem_toList.mp member)
    rfl
  · cases member
  · cases member

/-- The row writes over nothing that the snapshot would have to keep. -/
def Kept (row : DryRunRowResult) (held : Option Record) : Prop :=
  (row.outcome = .created → held = none) ∧ (row.outcome = .updated → (counted held).isSome)

theorem undone_recorded {held : Option Record} (kept : Kept row held) :
    undone (recorded held row) row.naturalKey (rewritten engine context held row) = held := by
  unfold undone recorded rewritten
  cases kind : row.outcome with
  | created => simp [SnapshotItem.naturalKey,SnapshotItem.priorData,kept.1 kind]
  | updated =>
    obtain ⟨record,present⟩ := Option.isSome_iff_exists.mp (kept.2 kind)
    obtain rfl := counted_eq_some present
    simp [SnapshotItem.naturalKey,SnapshotItem.priorData,present]
  | deactivated =>
    cases present : counted held with
    | none => simp
    | some record => simp [SnapshotItem.naturalKey,SnapshotItem.priorData,counted_eq_some present]
  | skipped => rfl
  | rejected => rfl

theorem original_applyRow {call : MasterData.Call} {key : String}
    (kept : row.naturalKey = key → Kept row (original context key progress)) :
    original context key (engine.applyRow context call row progress) = original context key progress := by
  unfold original at kept ⊢
  rw [snapshotBefore_applyRow,getRecord_applyRow,undone,List.find?_append]
  unfold undone at kept ⊢
  cases first : progress.snapshotBefore.find? (fun item => item.naturalKey = key) with
  | some item => rfl
  | none =>
    rw [first] at kept
    by_cases here : row.naturalKey = key
    · subst here
      rw [if_pos ⟨rfl,rfl⟩]
      exact undone_recorded (kept rfl)
    · have absent : (recorded (getRecord progress.state context.dryRun.entityType row.naturalKey) row).find? (fun item => item.naturalKey = key) =
          none := by
        refine List.find?_eq_none.mpr ?_
        intro item member
        rw [mem_recorded member]
        simpa using here
      rw [absent,if_neg (fun both => here both.2.symm)]
      rfl

variable (engine calls) in
theorem original_applyRows {key : String} (rows : List DryRunRowResult) (index : ℕ) (progress : ApplyProgress)
    (kept : ∀ row ∈ rows, row.naturalKey = key → Kept row (original context key progress)) :
    original context key (engine.applyRows context calls index rows progress) = original context key progress := by
  induction rows generalizing index progress with
  | nil => rfl
  | cons row rest ih =>
    have here := @original_applyRow engine _ _ _ (calls index) _ (kept row List.mem_cons_self)
    rw [applyRows,ih,here]
    intro other member
    rw [here]
    exact kept other (List.mem_cons_of_mem _ member)

theorem counted_updated (held : Option Record) (kind : row.outcome = .updated) : (counted (rewritten engine context held row)).isSome := by
  unfold rewritten
  rw [kind]
  simp [counted,updatedRecord,Option.filter_some,Dict.items_assign_ne_nil]

theorem counted_unwritten {held : Option Record} (missing : counted held = none) (found : row.outcome ≠ .created)
    (idle : row.outcome ≠ .updated) : counted (rewritten engine context held row) = none := by
  unfold rewritten
  cases outcome : row.outcome with
  | created => exact absurd outcome found
  | updated => exact absurd outcome idle
  | deactivated => simp [missing]
  | skipped => exact missing
  | rejected => exact missing

theorem recorded_missing {held : Option Record} (missing : counted held = none) (found : row.outcome ≠ .created) : recorded held row = [] := by
  unfold recorded
  rw [missing]
  cases outcome : row.outcome with
  | created => exact absurd outcome found
  | updated => rfl
  | deactivated => rfl
  | skipped => rfl
  | rejected => rfl

variable (engine calls) in
/-- An updated row without a record leaves one, which no item of the snapshot undoes. -/
theorem original_applyRows_lost {key : String} (rows : List DryRunRowResult) (index : ℕ) (progress : ApplyProgress)
    (filed : ∀ row ∈ rows, row.naturalKey = key → row.outcome ≠ .created) (unsaved : ∀ item ∈ progress.snapshotBefore, item.naturalKey ≠ key)
    (missing : counted (getRecord progress.state context.dryRun.entityType key) = none)
    (lost : ∃ row ∈ rows, row.naturalKey = key ∧ row.outcome = .updated) :
    (counted (original context key (engine.applyRows context calls index rows progress))).isSome := by
  induction rows generalizing index progress with
  | nil => exact absurd lost (by simp)
  | cons row rest ih =>
    have later : ∀ other ∈ rest, other.naturalKey = key → other.outcome ≠ .created := fun other member => filed other (List.mem_cons_of_mem _ member)
    have unrecorded : row.naturalKey = key → recorded (getRecord progress.state context.dryRun.entityType row.naturalKey) row = [] := by
      intro here
      rw [here]
      exact recorded_missing missing (filed row List.mem_cons_self here)
    have still : ∀ item ∈ (engine.applyRow context (calls index) row progress).snapshotBefore, item.naturalKey ≠ key := by
      intro item member same
      rw [snapshotBefore_applyRow] at member
      rcases List.mem_append.mp member with before | added
      · exact unsaved item before same
      · have here := (mem_recorded added).symm.trans same
        rw [unrecorded here] at added
        cases added
    rw [applyRows]
    by_cases updated : row.naturalKey = key ∧ row.outcome = .updated
    · have present : (counted (original context key (engine.applyRow context (calls index) row progress))).isSome := by
        rw [original,undone,List.find?_eq_none.mpr (by simpa using still),getRecord_applyRow,if_pos ⟨rfl,updated.1.symm⟩]
        exact counted_updated _ updated.2
      rw [original_applyRows]
      · exact present
      · intro other member same
        exact ⟨fun created => absurd created (later other member same),fun _ => present⟩
    · refine ih (index + 1) _ later still ?_ ?_
      · rw [getRecord_applyRow]
        split
        · rename_i here
          exact counted_unwritten missing (filed row List.mem_cons_self here.2.symm) (fun kind => updated ⟨here.2.symm,kind⟩)
        · exact missing
      · obtain ⟨other,member,same,kind⟩ := lost
        rcases List.mem_cons.mp member with rfl | inside
        · exact absurd ⟨same,kind⟩ updated
        · exact ⟨other,inside,same,kind⟩

end Undone

section Restored

variable {engine : BulkImportEngine} {state afterDry after restored : EngineState} {request : DryRunRequest} {summary : DryRunSummary}
  {application : ApplyRequest} {run reversed : ImportRunRecord} {rollback : RollbackRequest}

section Reversal

variable (stored : after.runs.get rollback.importRunId = some run) (served : engine.rollbackImport after rollback = .ok (reversed, restored))
include stored served

theorem rollbackImport_ok :
    ∃ between, between = engine.reverseItems run.entityType rollback.now rollback.calls 0 run.snapshotBefore.reverse after ∧
      reversed.id = run.id ∧ reversed.status = .reversed ∧ restored = { between with runs := between.runs.assign reversed.id reversed } := by
  unfold rollbackImport at served
  rw [stored] at served
  dsimp only at served
  split at served
  · cases served
  · split at served
    · cases served
    · split at served
      · cases served
      · cases served
        exact ⟨_,rfl,rfl,rfl,rfl⟩

theorem reversed_rollbackImport : (restored.runs.get run.id).any (fun stored => stored.status = .reversed) = true := by
  obtain ⟨between,_,identity,status,final⟩ := rollbackImport_ok stored served
  rw [final,identity,Dict.get_assign,if_pos rfl]
  simpa using status

end Reversal

section Requests

/-- A request that the engine served; a later import draws another identifier. -/
inductive Served (engine : BulkImportEngine) (importRunId : String) (before after : EngineState) : Prop
  | dryRun (request : DryRunRequest) (summary : DryRunSummary) (served : engine.executeDryRun before request = .ok (summary, after))
  | apply (request : ApplyRequest) (run : ImportRunRecord) (other : request.importRunId ≠ importRunId)
      (served : engine.applyImport before request = .ok (run, after))
  | rollback (request : RollbackRequest) (reversed : ImportRunRecord) (served : engine.rollbackImport before request = .ok (reversed, after))

def IsReversed (state : EngineState) (importRunId : String) : Prop :=
  (state.runs.get importRunId).any (fun run => run.status = .reversed) = true

theorem runs_applyRows (calls : ℕ → MasterData.Call) (context : RunContext) (rows : List DryRunRowResult) (index : ℕ) (progress : ApplyProgress) :
    (engine.applyRows context calls index rows progress).state.runs = progress.state.runs := by
  induction rows generalizing index progress with
  | nil => rfl
  | cons row rest ih =>
    rw [applyRows,ih]
    unfold applyRow
    cases row.outcome with
    | deactivated => dsimp only; split <;> rfl
    | created => rfl
    | updated => rfl
    | skipped => rfl
    | rejected => rfl

theorem runs_reverseItems (calls : ℕ → MasterData.Call) (entityType : String) (now : Calendar.Instant) (items : List SnapshotItem)
    (index : ℕ) (state : EngineState) : (engine.reverseItems entityType now calls index items state).runs = state.runs := by
  induction items generalizing index state with
  | nil => rfl
  | cons item rest ih =>
    rw [reverseItems,ih]
    unfold reverseItem
    split <;> rfl

theorem isReversed_of_served {importRunId : String} (step : Served engine importRunId afterDry after)
    (before : IsReversed afterDry importRunId) : IsReversed after importRunId := by
  unfold IsReversed at before ⊢
  cases step with
  | dryRun request summary served =>
    obtain ⟨_,_,_,_,_,shaped⟩ := executeDryRun_ok served
    rwa [shaped]
  | apply request run other served =>
    cases stored : afterDry.dryRuns.get request.dryRunId with
    | none => simp [applyImport,stored] at served
    | some dryRun =>
      obtain ⟨progress,rfl,rfl,shaped⟩ := applyImport_ok stored served
      have apart : ¬ importRunId = (engine.runRecord request dryRun (engine.applyRows (runContext request dryRun) request.calls 0
          dryRun.rowResults { state := afterDry })).id := fun same => other same.symm
      rw [shaped,Dict.get_assign,if_neg apart,runs_applyRows]
      exact before
  | rollback request reversed served =>
    cases stored : afterDry.runs.get request.importRunId with
    | none => simp [rollbackImport,stored] at served
    | some run =>
      obtain ⟨between,rfl,_,status,final⟩ := rollbackImport_ok stored served
      rw [final,Dict.get_assign]
      split
      · simpa using status
      · rw [runs_reverseItems]
        exact before

theorem isReversed_of_requests {importRunId : String} (requests : Relation.ReflTransGen (Served engine importRunId) afterDry after)
    (before : IsReversed afterDry importRunId) : IsReversed after importRunId := by
  induction requests with
  | refl => exact before
  | tail _ step ih => exact isReversed_of_served step ih

theorem rollbackImport_refused {again : RollbackRequest} {importRunId : String} (done : IsReversed after importRunId)
    (asked : again.importRunId = importRunId) : engine.rollbackImport after again = .error (.alreadyReversed again.importRunId) := by
  obtain ⟨run,stored,status⟩ := (Option.any_eq_true _ _).mp done
  unfold rollbackImport
  rw [asked,stored]
  exact if_pos (of_decide_eq_true status)

end Requests

theorem get_existing_of_dryRun {existing : Dict String Record} {rows : List RowValidationResult} {policy : AtomicityPolicy} {entityType : String}
    {row : DryRunRowResult} (member : row ∈ (engine.dryRunOf request entityType policy existing rows).rowResults) :
    (row.outcome = .created → existing.get row.naturalKey = none) ∧ (row.outcome = .updated → existing.get row.naturalKey ≠ none) := by
  rw [rowResults_dryRunOf] at member
  rcases List.mem_append.mp member with filed | added
  · obtain ⟨valid,_,rfl⟩ := List.mem_map.mp filed
    rw [rowResult_naturalKey]
    unfold rowResult
    split
    · simp [rejectedResult]
    · split
      · rename_i found
        unfold existingResult
        dsimp only
        split
        · simp
        · split <;> simp [found]
      · rename_i found
        unfold missingResult
        dsimp only
        split <;> simp [found]
  · simp [(mem_deactivations added).1]

/-- A created key has no record, and no row creates a key that another one updates. -/
structure Classified (state : EngineState) (dryRun : DryRunSummary) : Prop where
  created : ∀ row ∈ dryRun.rowResults, row.outcome = .created → getRecord state dryRun.entityType row.naturalKey = none
  updated : ∀ row ∈ dryRun.rowResults, row.outcome = .updated → ∀ other ∈ dryRun.rowResults, other.naturalKey = row.naturalKey →
    other.outcome ≠ .created

theorem classified_dryRunOf (call : MasterData.Call) (entityType : String) (policy : AtomicityPolicy) (rows : List RowValidationResult) :
    Classified state (engine.dryRunOf request entityType policy (engine.existingRecords state call entityType) rows) where
  created := by
    intro row member created
    by_contra held
    obtain ⟨record,found⟩ := Option.ne_none_iff_exists'.mp held
    have visible := @get_existingRecords engine _ _ _ _ found call
    exact absurd (((get_existing_of_dryRun member).1 created).symm.trans visible) (by simp)
  updated := by
    intro row member updated other inside same created
    refine (get_existing_of_dryRun member).2 updated ?_
    rw [← same]
    exact (get_existing_of_dryRun inside).1 created

theorem get_runs (stored : afterDry.dryRuns.get application.dryRunId = some summary)
    (applied : engine.applyImport afterDry application = .ok (run, after)) : after.runs.get run.id = some run := by
  obtain ⟨progress,_,_,finished⟩ := applyImport_ok stored applied
  rw [finished]
  exact Dict.get_assign.trans (if_pos rfl)

/-- The records after the rollback, from the progress of the import. -/
theorem getRecord_rolledBack (stored : afterDry.dryRuns.get application.dryRunId = some summary)
    (applied : engine.applyImport afterDry application = .ok (run, after)) (kept : after.runs.get rollback.importRunId = some run)
    (served : engine.rollbackImport after rollback = .ok (reversed, restored)) :
    ∀ entityType key, getRecord restored entityType key =
      if entityType = summary.entityType then
        original (runContext application summary) key
          (engine.applyRows (runContext application summary) application.calls 0 summary.rowResults { state := afterDry })
      else getRecord afterDry entityType key := by
  obtain ⟨progress,done,ran,finished⟩ := applyImport_ok stored applied
  obtain ⟨between,reverted,_,_,final⟩ := rollbackImport_ok kept served
  intro entityType key
  have back := getRecord_reverseItems engine rollback.calls rollback.now run.entityType entityType key run.snapshotBefore.reverse 0 after
  have forth := getRecord_applyRows engine (runContext application summary) application.calls entityType key summary.rowResults 0
    { state := afterDry }
  rw [← done] at forth ⊢
  rw [← reverted,List.reverse_reverse,ran,finished] at back
  rw [final]
  refine back.trans ?_
  by_cases same : entityType = summary.entityType
  · subst same
    rw [if_pos rfl]
    exact if_pos rfl
  · rw [if_neg same]
    exact (if_neg same).trans (forth.trans (if_neg same))

/-- A rollback right after an import restores the records exactly where the updated ones
were the engine's own, and it is not made twice. -/
theorem rollback_restores_iff (dry : engine.executeDryRun state request = .ok (summary, afterDry))
    (named : application.dryRunId = summary.dryRunId) (applied : engine.applyImport afterDry application = .ok (run, after))
    (asked : rollback.importRunId = run.id) (served : engine.rollbackImport after rollback = .ok (reversed, restored)) :
    ((∀ entityType key, getRecord restored entityType key = getRecord state entityType key) ↔
      ∀ row ∈ summary.rowResults, row.outcome = .updated → (counted (getRecord state summary.entityType row.naturalKey)).isSome) ∧
    ∀ later, Relation.ReflTransGen (Served engine run.id) restored later → ∀ again : RollbackRequest, again.importRunId = run.id →
      engine.rollbackImport later again = .error (.alreadyReversed again.importRunId) := by
  have stored : afterDry.dryRuns.get application.dryRunId = some summary := named ▸ get_dryRuns dry
  have kept : after.runs.get rollback.importRunId = some run := asked ▸ get_runs stored applied
  have records := getRecord_rolledBack stored applied kept served
  obtain ⟨metadata,profile,policy,rawRows,made,shaped⟩ := executeDryRun_ok dry
  have classified : Classified state summary := by
    rw [made]
    exact classified_dryRunOf request.call _ policy _
  have unread : ∀ entityType key, getRecord afterDry entityType key = getRecord state entityType key := by
    intro entityType key
    rw [shaped]
    rfl
  have start : ∀ key, original (runContext application summary) key { state := afterDry } = getRecord state summary.entityType key := by
    intro key
    rw [← unread]
    rfl
  refine ⟨⟨?_,?_⟩,fun later requests again next => rollbackImport_refused (isReversed_of_requests requests (reversed_rollbackImport kept served)) next⟩
  · intro back row member updated
    by_contra missing
    have absent : counted (original (runContext application summary) row.naturalKey { state := afterDry }) = none := by
      rw [start]
      exact Option.not_isSome_iff_eq_none.mp missing
    have lost := original_applyRows_lost engine application.calls summary.rowResults 0 { state := afterDry }
      (classified.updated row member updated) (fun item inside => absurd inside List.not_mem_nil)
      absent ⟨row,member,rfl,updated⟩
    have equal := back summary.entityType row.naturalKey
    rw [records,if_pos rfl] at equal
    rw [equal] at lost
    exact missing lost
  · intro own entityType key
    rw [records]
    split
    · rename_i same
      rw [original_applyRows,start,same]
      intro row member here
      rw [start,← here]
      exact ⟨classified.created row member,own row member⟩
    · exact unread entityType key

section Example

def costCentreRollback : RollbackRequest := ⟨"imp-2","admin","wrong file",40,repeatedCalls⟩

theorem costCentreRollback_served : (costCentreEngine.executeDryRun costCentreState mixedCostCentres).toOption.any (fun dry =>
    (costCentreEngine.applyImport dry.2 costCentreApplication).toOption.any (fun applied => applied.1.id = "imp-2" &&
      (counted (getRecord costCentreState "COST_CENTRE" "RETAIL")).isSome &&
      (costCentreEngine.rollbackImport applied.2 costCentreRollback).toOption.isSome)) = true := by
  decide +kernel

theorem rollback_restores_iff_cost_centres : ∃ summary afterDry run after reversed restored,
    costCentreEngine.executeDryRun costCentreState mixedCostCentres = .ok (summary, afterDry) ∧
      costCentreEngine.applyImport afterDry costCentreApplication = .ok (run, after) ∧
      costCentreEngine.rollbackImport after costCentreRollback = .ok (reversed, restored) ∧
      summary.rowResults.map (fun row => (row.outcome, row.naturalKey)) =
        [(.updated, "RETAIL"), (.skipped, "LOGISTICS"), (.rejected, "row-4"), (.created, "ONLINE"), (.deactivated, "PRINT")] ∧
      ∀ entityType key, getRecord restored entityType key = getRecord costCentreState entityType key := by
  obtain ⟨summary,afterDry,run,after,dry,applied,rows,named,typed,_⟩ := mixedCostCentres_served
  have served := costCentreRollback_served
  simp only [dry,applied,Except.toOption,Option.any_some,Bool.and_eq_true,decide_eq_true_eq] at served
  obtain ⟨⟨identified,held⟩,undone⟩ := served
  change (Except.toOption _).isSome at undone
  obtain ⟨⟨reversed,restored⟩,undone⟩ := Option.isSome_iff_exists.mp undone
  have back := rollback_restores_iff dry named.symm applied identified.symm (ok_of_toOption undone)
  refine ⟨summary,afterDry,run,after,reversed,restored,dry,applied,ok_of_toOption undone,rows,back.1.mpr ?_⟩
  intro row member updated
  have listed : (row.outcome, row.naturalKey) ∈ summary.rowResults.map (fun row => (row.outcome, row.naturalKey)) :=
    List.mem_map_of_mem member
  rw [rows,updated] at listed
  have key : row.naturalKey = "RETAIL" := by simpa using listed
  rw [typed,key]
  exact held

end Example

end Restored

end CloudLens.BulkImport
