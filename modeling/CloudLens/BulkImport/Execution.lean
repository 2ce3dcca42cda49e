import CloudLens.BulkImport.Engine

/-! What the application of a dry run leaves under each key of the engine, against
what the dry run reported. -/
namespace CloudLens.BulkImport
open Library BulkImportEngine

def RowOutcome.Writes (outcome : RowOutcome) : Prop := outcome = .created ∨ outcome = .updated

instance (outcome : RowOutcome) : Decidable outcome.Writes := inferInstanceAs (Decidable (_ ∨ _))

section Keys

variable (engine : BulkImportEngine) (context : RunContext)

def counted (held : Option Record) : Option Record := held.filter (fun record => !record.items.isEmpty)

def rewritten (held : Option Record) (row : DryRunRowResult) : Option Record :=
  match row.outcome with
  | .created => some (engine.createdRecord context row)
  | .updated => some (engine.updatedRecord context ((counted held).getD Dict.empty) row)
  | .deactivated => ((counted held).map (fun record => record.assign "is_active" (.bool false))).or held
  | .skipped => held
  | .rejected => held

variable {engine context} {progress : ApplyProgress} {row : DryRunRowResult} {call : MasterData.Call} {calls : ℕ → MasterData.Call}

theorem getRecord_applyRow (entityType naturalKey : String) :
    getRecord (engine.applyRow context call row progress).state entityType naturalKey =
      if entityType = context.dryRun.entityType ∧ naturalKey = row.naturalKey then
        rewritten engine context (getRecord progress.state entityType naturalKey) row
      else getRecord progress.state entityType naturalKey := by
  have saved : ∀ record : Record,
      (progress.state.entityStores.assign (context.dryRun.entityType, row.naturalKey) record).get (entityType, naturalKey) =
        if entityType = context.dryRun.entityType ∧ naturalKey = row.naturalKey then some record
        else progress.state.entityStores.get (entityType, naturalKey) := by
    intro record
    rw [Dict.get_assign]
    simp only [Prod.mk.injEq]
  unfold applyRow rewritten existingRecord counted getRecord
  by_cases here : entityType = context.dryRun.entityType ∧ naturalKey = row.naturalKey
  · obtain ⟨rfl,rfl⟩ := here
    cases row.outcome with
    | created => simp [stampModified,persistRecord,saved]
    | updated => simp [stampModified,persistRecord,saved]
    | deactivated =>
      dsimp only
      cases existing : (progress.state.entityStores.get (context.dryRun.entityType, row.naturalKey)).filter
          (fun record => !record.items.isEmpty) with
      | none => simp
      | some record => simp [stampModified,persistRecord,saved]
    | skipped => simp
    | rejected => simp
  · cases row.outcome with
    | created => simp [stampModified,persistRecord,saved,here]
    | updated => simp [stampModified,persistRecord,saved,here]
    | deactivated =>
      dsimp only
      split
      · simp [here]
      · simp [stampModified,persistRecord,saved,here]
    | skipped => simp [here]
    | rejected => simp [here]

variable (engine context calls) in
/-- The record under a key depends on the rows with the key alone. -/
theorem getRecord_applyRows (entityType naturalKey : String) (rows : List DryRunRowResult) (index : ℕ) (progress : ApplyProgress) :
    getRecord (engine.applyRows context calls index rows progress).state entityType naturalKey =
      if entityType = context.dryRun.entityType then
        (rows.filter (fun row => row.naturalKey = naturalKey)).foldl (rewritten engine context)
          (getRecord progress.state entityType naturalKey)
      else getRecord progress.state entityType naturalKey := by
  induction rows generalizing index progress with
  | nil => simp [applyRows]
  | cons row rest ih =>
    rw [applyRows,ih,getRecord_applyRow]
    by_cases same : entityType = context.dryRun.entityType
    · rw [if_pos same,if_pos same]
      by_cases here : row.naturalKey = naturalKey
      · rw [if_pos ⟨same,here.symm⟩,List.filter_cons_of_pos (by simpa using here),List.foldl_cons]
      · rw [if_neg (fun both => here both.2.symm),List.filter_cons_of_neg (by simpa using here)]
    · rw [if_neg same,if_neg same,if_neg (fun both => same both.1)]

end Keys

section Counts

variable {engine : BulkImportEngine} {context : RunContext} {call : MasterData.Call} {calls : ℕ → MasterData.Call}

variable (engine context calls) in
theorem created_applyRows (rows : List DryRunRowResult) (index : ℕ) (progress : ApplyProgress) :
    (engine.applyRows context calls index rows progress).created = progress.created + countOutcome .created rows := by
  induction rows generalizing index progress with
  | nil => rfl
  | cons row rest ih =>
    rw [applyRows,ih,countOutcome,countOutcome,List.countP_cons]
    unfold applyRow
    cases row.outcome with
    | deactivated => dsimp only; split <;> simp
    | created => simp; omega
    | updated => simp
    | skipped => simp
    | rejected => simp

variable (engine context calls) in
theorem updated_applyRows (rows : List DryRunRowResult) (index : ℕ) (progress : ApplyProgress) :
    (engine.applyRows context calls index rows progress).updated = progress.updated + countOutcome .updated rows := by
  induction rows generalizing index progress with
  | nil => rfl
  | cons row rest ih =>
    rw [applyRows,ih,countOutcome,countOutcome,List.countP_cons]
    unfold applyRow
    cases row.outcome with
    | deactivated => dsimp only; split <;> simp
    | created => simp
    | updated => simp; omega
    | skipped => simp
    | rejected => simp

end Counts

section Deactivations

variable {engine : BulkImportEngine} {context : RunContext} {calls : ℕ → MasterData.Call}

def RowOutcome.Idle (outcome : RowOutcome) : Prop := outcome = .skipped ∨ outcome = .rejected

theorem rewritten_idle {held : Option Record} {row : DryRunRowResult} (idle : row.outcome.Idle) : rewritten engine context held row = held := by
  unfold rewritten
  rcases idle with same | same <;> rw [same]

theorem getRecord_applyRow_other {call : MasterData.Call} {row : DryRunRowResult} {progress : ApplyProgress} {entityType naturalKey : String}
    (other : naturalKey = row.naturalKey → row.outcome.Idle) :
    getRecord (engine.applyRow context call row progress).state entityType naturalKey = getRecord progress.state entityType naturalKey := by
  rw [getRecord_applyRow]
  split
  · rename_i here
    exact rewritten_idle (other here.2)
  · rfl

def Solitary (rows : List DryRunRowResult) : Prop :=
  rows.Pairwise (fun earlier later => later.outcome = .deactivated → later.naturalKey = earlier.naturalKey → earlier.outcome.Idle)

theorem deactivated_applyRow (call : MasterData.Call) (row : DryRunRowResult) (progress : ApplyProgress) :
    (engine.applyRow context call row progress).deactivated = progress.deactivated +
      if row.outcome = .deactivated ∧ (existingRecord progress.state context.dryRun.entityType row.naturalKey).isSome then 1 else 0 := by
  unfold applyRow
  cases row.outcome with
  | deactivated =>
    dsimp only
    cases existing : existingRecord progress.state context.dryRun.entityType row.naturalKey with
    | none => simp
    | some record => simp
  | created => simp
  | updated => simp
  | skipped => simp
  | rejected => simp

variable (engine context calls) in
theorem deactivated_applyRows (rows : List DryRunRowResult) (solitary : Solitary rows) (index : ℕ) (progress : ApplyProgress) :
    (engine.applyRows context calls index rows progress).deactivated = progress.deactivated +
      rows.countP (fun row => row.outcome = .deactivated ∧
        (existingRecord progress.state context.dryRun.entityType row.naturalKey).isSome) := by
  induction rows generalizing index progress with
  | nil => rfl
  | cons row rest ih =>
    obtain ⟨first,later⟩ := List.pairwise_cons.mp solitary
    have same : ∀ other ∈ rest, (other.outcome = .deactivated ∧
        (existingRecord (engine.applyRow context (calls index) row progress).state context.dryRun.entityType other.naturalKey).isSome) ↔
        (other.outcome = .deactivated ∧ (existingRecord progress.state context.dryRun.entityType other.naturalKey).isSome) := by
      intro other member
      refine and_congr_right ?_
      intro ends
      unfold existingRecord
      rw [getRecord_applyRow_other (first other member ends)]
    have equal : rest.countP (fun other => decide (other.outcome = .deactivated ∧
        (existingRecord (engine.applyRow context (calls index) row progress).state context.dryRun.entityType other.naturalKey).isSome)) =
        rest.countP (fun other => decide (other.outcome = .deactivated ∧
          (existingRecord progress.state context.dryRun.entityType other.naturalKey).isSome)) :=
      List.countP_congr (fun other member => by simpa only [decide_eq_true_eq] using same other member)
    rw [applyRows,ih later,deactivated_applyRow,List.countP_cons,equal]
    simp only [decide_eq_true_eq]
    omega

end Deactivations

end CloudLens.BulkImport
