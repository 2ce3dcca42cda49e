import CloudLens.Sync.Orchestrator
import CloudLens.Library.Runs

/-! When an earlier job may stand for a call: the jobs in the table against the
calls that ran, with what became of each of their scopes. -/
namespace CloudLens.Sync
open Library Library.Runs Connectors

structure EarlierRun where
  call : SyncCall
  id : String
  results : List SyncScopeResult

namespace EarlierRun

variable (run : EarlierRun)

def Finished : Prop := run.call.healthError = none ∧ (failures run.results = [] ∨ succeeded run.results ≠ [])

def storedRow : SyncJob :=
  { run.call.newJob run.id with
    status := if run.call.healthError = none then finalStatus run.results else .failed
    rowsIngested := (run.results.map SyncScopeResult.recordsIngested).sum
    errorMessage := if run.call.healthError = none then finalMessage run.results else run.call.healthError
    scopesCompleted := succeeded run.results
    scopesFailed := failures run.results }

def Covers (later : SyncCall) : Prop := ∀ scope ∈ later.scopesToProcess, ∃ rows, (⟨scope,.ok rows⟩ : SyncScopeResult) ∈ run.results

variable {run}

theorem covers_iff {later : SyncCall} : run.Covers later ↔ ∀ scope ∈ later.scopesToProcess, scope ∈ run.storedRow.scopesCompleted := by
  unfold Covers
  simp only [← mem_succeeded]
  rfl

theorem finished_iff : finished run.storedRow = true ↔ run.Finished := by
  unfold finished Finished storedRow
  by_cases healthy : run.call.healthError = none
  · simp only [healthy,if_true,finalStatus,true_and]
    by_cases none : failures run.results = []
    · simp [none]
    · by_cases some : succeeded run.results = []
      · simp [none,some]
      · simp [none,some]
  · simp [healthy]

end EarlierRun

structure SyncHistory (World : Type) where
  state : SyncState World
  runs : List EarlierRun

section Table

variable {jobs : List SyncJob} {call : SyncCall} {job : SyncJob}

theorem saveJob_new (fresh : job.id ∉ jobs.map SyncJob.id) (apart : ∀ row ∈ jobs, ¬SameIdentity row job) :
    saveJob jobs job = some (jobs ++ [job]) := by
  unfold saveJob
  rw [if_neg fresh,if_neg]
  rintro ⟨row,member,same⟩
  exact apart row member same

theorem saveJob_refused (fresh : job.id ∉ jobs.map SyncJob.id) {row : SyncJob} (member : row ∈ jobs) (same : SameIdentity row job) :
    saveJob jobs job = none := by
  unfold saveJob
  rw [if_neg fresh,if_pos ⟨row,member,same⟩]

theorem saveJob_update (fresh : job.id ∉ jobs.map SyncJob.id) (final : SyncJob) (same : final.id = job.id) :
    saveJob (jobs ++ [job]) final = some (jobs ++ [{ job with
      status := final.status
      rowsIngested := final.rowsIngested
      errorMessage := final.errorMessage
      scopesCompleted := final.scopesCompleted
      scopesFailed := final.scopesFailed }]) := by
  have others : ∀ row ∈ jobs, row.id ≠ final.id := by
    intro row member equal
    exact fresh (List.mem_map.mpr ⟨row,member,equal.trans same⟩)
  unfold saveJob
  rw [if_pos (by simp [same]),List.map_append]
  congr 2
  · conv_rhs => rw [← List.map_id jobs]
    exact List.map_congr_left (fun row member => by rw [if_neg (others row member)]; rfl)
  · simp [same]

theorem existingJob_some (found : existingJob jobs call = some job) :
    call.allowIdempotentSkip = true ∧ job ∈ underKey jobs call ∧ finished job = true := by
  unfold existingJob at found
  split at found
  · rename_i allowed
    rw [Option.filter_eq_some_iff] at found
    exact ⟨allowed,List.mem_of_getElem? found.1,found.2⟩
  · cases found

theorem existingJob_chosen (allowed : call.allowIdempotentSkip = true) (member : job ∈ underKey jobs call) :
    ∃ row, existingJob jobs { call with row := row } = (some job).filter finished := by
  obtain ⟨row,within,found⟩ := List.getElem_of_mem member
  refine ⟨row,?_⟩
  have under : underKey jobs { call with row := row } = underKey jobs call := rfl
  unfold existingJob
  rw [under,if_pos allowed]
  dsimp only
  rw [Nat.mod_eq_of_lt within,List.getElem?_eq_getElem within,found]

theorem existingJob_row (row : ℕ) (allowed : call.allowIdempotentSkip = true) (stored : underKey jobs call ≠ [])
    (all : ∀ job ∈ underKey jobs call, finished job = true) : existingJob jobs { call with row := row } ≠ none := by
  have under : underKey jobs { call with row := row } = underKey jobs call := rfl
  have within : row % (underKey jobs call).length < (underKey jobs call).length :=
    Nat.mod_lt row (List.length_pos_iff.mpr stored)
  unfold existingJob
  rw [under,if_pos allowed]
  dsimp only
  rw [List.getElem?_eq_getElem within,Option.filter_some,if_pos (all _ (List.getElem_mem within))]
  simp

end Table

section Histories

variable {World : Type} (uuid : ℕ → String) (work : SyncCall → String → World → String → World × Except ScopeError ℕ)

def perform (history : SyncHistory World) (call : SyncCall) : SyncHistory World :=
  let (state, answer) := executeSync uuid work history.state call
  match answer with
  | .ran job results => ⟨state,history.runs ++ [⟨call,job.id,results⟩]⟩
  | _ => ⟨state,history.runs⟩

def Matches (job : SyncJob) (call : SyncCall) : Prop :=
  job.connectorId = call.connectorId ∧ job.capability = call.capability ∧ job.syncType = call.syncType ∧
    job.periodStart = call.periodStart.map Moment.instant ∧ job.periodEnd = call.periodEnd.map Moment.instant ∧
    job.datasetVersion = call.datasetVersion

def Done (job : SyncJob) (call : SyncCall) : Prop := ∀ scope ∈ call.scopesToProcess, scope ∈ job.scopesCompleted

/-- Whichever row the database returns: an earlier job that is returned matches the
call and is done with its scopes, and so is the job that keeps the call from running. -/
def Justified (history : SyncHistory World) (call : SyncCall) : Prop :=
  ∀ row, match (executeSync uuid work history.state { call with row := row }).2 with
    | .skipped job => Matches job call ∧ Done job call
    | .refused => ∀ job ∈ history.state.jobs, SameIdentity job (call.newJob "") → Done job call
    | .ran _ _ => True

def sameMoments (first second : SyncCall) : Prop :=
  first.periodStart.map Moment.instant = second.periodStart.map Moment.instant ∧
    first.periodEnd.map Moment.instant = second.periodEnd.map Moment.instant

def UnderKey (run : EarlierRun) (call : SyncCall) : Prop :=
  run.call.tenantId = call.tenantId ∧ run.call.idempotencyKey = call.idempotencyKey

def Blocks (run : EarlierRun) (call : SyncCall) : Prop :=
  run.call.tenantId = call.tenantId ∧ run.call.connectorId = call.connectorId ∧ run.call.capability = call.capability ∧
    sameMoments run.call call ∧ run.call.datasetVersion = call.datasetVersion

/-- Every finished run under the call's key asked for the same and covers the call;
and a run with its arguments covers it, unless some run under its key, and each of
them, is finished. -/
structure Warranted (history : SyncHistory World) (call : SyncCall) : Prop where
  skips : call.allowIdempotentSkip = true → ∀ run ∈ history.runs, UnderKey run call → run.Finished →
    (run.call.connectorId = call.connectorId ∧ run.call.capability = call.capability ∧ run.call.syncType = call.syncType ∧
      sameMoments run.call call ∧ run.call.datasetVersion = call.datasetVersion) ∧ run.Covers call
  blocks : ∀ run ∈ history.runs, Blocks run call → run.Covers call ∨
    call.allowIdempotentSkip = true ∧ (∃ other ∈ history.runs, UnderKey other call) ∧
      ∀ other ∈ history.runs, UnderKey other call → other.Finished

structure Recorded (history : SyncHistory World) : Prop where
  rows : history.state.jobs = history.runs.map EarlierRun.storedRow
  unused : ∀ n, history.state.drawn ≤ n → "sync-" ++ uuid n ∉ history.state.jobs.map SyncJob.id

theorem runJob_stored (world : World) (call : SyncCall) (id : String) :
    (runJob work world call (call.newJob id)).2.1.id = id ∧
      { call.newJob id with
        status := (runJob work world call (call.newJob id)).2.1.status
        rowsIngested := (runJob work world call (call.newJob id)).2.1.rowsIngested
        errorMessage := (runJob work world call (call.newJob id)).2.1.errorMessage
        scopesCompleted := (runJob work world call (call.newJob id)).2.1.scopesCompleted
        scopesFailed := (runJob work world call (call.newJob id)).2.1.scopesFailed } =
        (⟨call,id,(runJob work world call (call.newJob id)).2.2⟩ : EarlierRun).storedRow := by
  unfold runJob EarlierRun.storedRow
  cases health : call.healthError with
  | some error => exact ⟨rfl,rfl⟩
  | none => exact ⟨rfl,rfl⟩

variable {uuid} {work} {history : SyncHistory World} {call : SyncCall}

theorem mem_underKey (recorded : Recorded uuid history) {job : SyncJob} :
    job ∈ underKey history.state.jobs call ↔ ∃ run ∈ history.runs, UnderKey run call ∧ run.storedRow = job := by
  unfold underKey UnderKey
  rw [recorded.rows,List.mem_filter,List.mem_map]
  constructor
  · rintro ⟨⟨run,member,rfl⟩,under⟩
    simp only [Bool.and_eq_true,decide_eq_true_eq] at under
    exact ⟨run,member,under,rfl⟩
  · rintro ⟨run,member,under,rfl⟩
    refine ⟨⟨run,member,rfl⟩,?_⟩
    simp only [Bool.and_eq_true,decide_eq_true_eq]
    exact under

theorem matches_storedRow {run : EarlierRun} : Matches run.storedRow call ↔
    run.call.connectorId = call.connectorId ∧ run.call.capability = call.capability ∧ run.call.syncType = call.syncType ∧
      sameMoments run.call call ∧ run.call.datasetVersion = call.datasetVersion := by
  unfold sameMoments
  rw [and_assoc]
  rfl

theorem sameIdentity_storedRow {run : EarlierRun} {id : String} : SameIdentity run.storedRow (call.newJob id) ↔ Blocks run call := by
  unfold Blocks sameMoments
  rw [and_assoc]
  rfl

theorem executeSync_skipped {job : SyncJob} {s : SyncState World} (found : existingJob s.jobs call = some job) :
    executeSync uuid work s call = (s, .skipped job) := by
  unfold executeSync
  rw [found]

theorem executeSync_refused (recorded : Recorded uuid history) (unskipped : existingJob history.state.jobs call = none)
    {run : EarlierRun} (member : run ∈ history.runs) (blocks : Blocks run call) :
    executeSync uuid work history.state call = ({ history.state with drawn := history.state.drawn + 1 }, .refused) := by
  have stored : run.storedRow ∈ history.state.jobs := by
    rw [recorded.rows]
    exact List.mem_map_of_mem member
  unfold executeSync
  rw [unskipped]
  dsimp only
  rw [saveJob_refused (recorded.unused _ le_rfl) stored (sameIdentity_storedRow.mpr blocks)]

variable (work) in
/-- A call that runs adds the row of its run. -/
theorem executeSync_ran (recorded : Recorded uuid history) (unskipped : existingJob history.state.jobs call = none)
    (apart : ∀ run ∈ history.runs, ¬Blocks run call) : ∃ world job results,
      executeSync uuid work history.state call =
        (⟨history.state.jobs ++ [(⟨call,job.id,results⟩ : EarlierRun).storedRow],world,history.state.drawn + 1⟩,
          .ran job results) ∧ job.id = "sync-" ++ uuid history.state.drawn := by
  have fresh : (call.newJob ("sync-" ++ uuid history.state.drawn)).id ∉ history.state.jobs.map SyncJob.id :=
    recorded.unused history.state.drawn le_rfl
  have free : ∀ row ∈ history.state.jobs, ¬SameIdentity row (call.newJob ("sync-" ++ uuid history.state.drawn)) := by
    rw [recorded.rows]
    intro row stored same
    obtain ⟨run,member,rfl⟩ := List.mem_map.mp stored
    exact apart run member (sameIdentity_storedRow.mp same)
  obtain ⟨sameId,row⟩ := runJob_stored work history.state.world call ("sync-" ++ uuid history.state.drawn)
  unfold executeSync
  rw [unskipped]
  dsimp only
  rw [saveJob_new fresh free]
  dsimp only
  generalize runJob work history.state.world call (call.newJob ("sync-" ++ uuid history.state.drawn)) = outcome at sameId row ⊢
  obtain ⟨world,final,results⟩ := outcome
  dsimp only at sameId row ⊢
  rw [saveJob_update fresh final sameId,row]
  exact ⟨world,final,results,by rw [sameId],sameId⟩

theorem mem_of_underKey (recorded : Recorded uuid history) {run : EarlierRun} (member : run ∈ history.runs)
    (under : UnderKey run call) : run.storedRow ∈ underKey history.state.jobs call :=
  (mem_underKey recorded).mpr ⟨run,member,under,rfl⟩

theorem existingJob_always (recorded : Recorded uuid history)
    (never : ∀ row, existingJob history.state.jobs { call with row := row } ≠ none) :
    call.allowIdempotentSkip = true ∧ (∃ other ∈ history.runs, UnderKey other call) ∧
      ∀ other ∈ history.runs, UnderKey other call → other.Finished := by
  obtain ⟨job,found⟩ := Option.ne_none_iff_exists'.mp (never 0)
  obtain ⟨allowed,stored,_⟩ := existingJob_some found
  have allowed : call.allowIdempotentSkip = true := allowed
  obtain ⟨other,member,under,_⟩ := (mem_underKey recorded).mp stored
  refine ⟨allowed,⟨other,member,under⟩,?_⟩
  intro run ran under
  obtain ⟨row,chosen⟩ := existingJob_chosen allowed (mem_of_underKey recorded ran under)
  by_contra unfinished
  refine never row ?_
  rw [chosen,Option.filter_some,if_neg]
  intro finished
  exact unfinished (EarlierRun.finished_iff.mp finished)

theorem warranted_of_justified (recorded : Recorded uuid history) (justified : Justified uuid work history call) :
    Warranted history call := by
  refine ⟨?_,?_⟩
  · intro allowed run member under finished
    obtain ⟨row,chosen⟩ := existingJob_chosen allowed (mem_of_underKey recorded member under)
    rw [Option.filter_some,if_pos (EarlierRun.finished_iff.mpr finished)] at chosen
    have answer := justified row
    rw [executeSync_skipped chosen] at answer
    exact ⟨matches_storedRow.mp answer.1,EarlierRun.covers_iff.mpr answer.2⟩
  · intro run member blocks
    by_cases never : ∀ row, existingJob history.state.jobs { call with row := row } ≠ none
    · exact Or.inr (existingJob_always recorded never)
    · refine Or.inl ?_
      push Not at never
      obtain ⟨row,unskipped⟩ := never
      have answer := justified row
      rw [executeSync_refused recorded unskipped member blocks] at answer
      have stored : run.storedRow ∈ history.state.jobs := by
        rw [recorded.rows]
        exact List.mem_map_of_mem member
      exact EarlierRun.covers_iff.mpr (answer run.storedRow stored (sameIdentity_storedRow.mpr blocks))

theorem justified_of_warranted (recorded : Recorded uuid history) (warranted : Warranted history call) :
    Justified uuid work history call := by
  intro row
  cases found : existingJob history.state.jobs { call with row := row } with
  | some job =>
    rw [executeSync_skipped found]
    obtain ⟨allowed,stored,finished⟩ := existingJob_some found
    obtain ⟨run,member,under,rfl⟩ := (mem_underKey recorded).mp stored
    obtain ⟨same,covers⟩ := warranted.skips allowed run member under (EarlierRun.finished_iff.mp finished)
    exact ⟨matches_storedRow.mpr same,EarlierRun.covers_iff.mp covers⟩
  | none =>
    by_cases blocked : ∃ run ∈ history.runs, Blocks run call
    · obtain ⟨run,member,blocks⟩ := blocked
      rw [executeSync_refused recorded found member blocks]
      intro job stored same
      rw [recorded.rows] at stored
      obtain ⟨blocking,member,rfl⟩ := List.mem_map.mp stored
      rcases warranted.blocks blocking member (sameIdentity_storedRow.mp same) with covers | ⟨allowed,⟨other,ran,under⟩,all⟩
      · exact EarlierRun.covers_iff.mp covers
      · refine absurd found (existingJob_row row allowed (List.ne_nil_of_mem (mem_of_underKey recorded ran under)) ?_)
        intro job found
        obtain ⟨run,ran,alike,rfl⟩ := (mem_underKey recorded).mp found
        exact EarlierRun.finished_iff.mpr (all run ran alike)
    · obtain ⟨world,job,results,ran,_⟩ := executeSync_ran work recorded found
        (fun run member blocks => blocked ⟨run,member,blocks⟩)
      rw [ran]
      trivial

theorem perform_recorded (distinct : Function.Injective uuid) (recorded : Recorded uuid history) (call : SyncCall) :
    Recorded uuid (perform uuid work history call) := by
  unfold perform
  cases found : existingJob history.state.jobs call with
  | some job =>
    rw [executeSync_skipped found]
    exact recorded
  | none =>
    by_cases blocked : ∃ run ∈ history.runs, Blocks run call
    · obtain ⟨run,member,blocks⟩ := blocked
      rw [executeSync_refused recorded found member blocks]
      refine ⟨recorded.rows,fun n later => recorded.unused n ?_⟩
      have drawn : history.state.drawn + 1 ≤ n := later
      omega
    · obtain ⟨world,job,results,ran,named⟩ := executeSync_ran work recorded found
        (fun run member blocks => blocked ⟨run,member,blocks⟩)
      rw [ran]
      refine ⟨?_,?_⟩
      · simp [recorded.rows]
      · intro n later
        have drawn : history.state.drawn + 1 ≤ n := later
        have apart : "sync-" ++ uuid n ≠ job.id := by
          intro same
          have texts := congrArg String.toList (same.trans named)
          simp only [String.toList_append] at texts
          exact absurd (distinct (String.toList_inj.mp (List.append_cancel_left texts))) (by omega)
        simp only [List.map_append,List.map_singleton,List.mem_append,List.mem_singleton,not_or]
        exact ⟨recorded.unused n (by omega),apart⟩

/-- Earlier jobs stand for calls, in a run from an empty table, exactly when each call
is warranted by the runs before it. -/
theorem skips_justified_iff (distinct : Function.Injective uuid) (world : World) (calls : List SyncCall) :
    Along (perform uuid work) (Justified uuid work) ⟨⟨[],world,0⟩,[]⟩ calls ↔
      Along (perform uuid work) Warranted ⟨⟨[],world,0⟩,[]⟩ calls := by
  have start : Recorded uuid (⟨⟨[],world,0⟩,[]⟩ : SyncHistory World) := ⟨rfl,fun n _ => by simp⟩
  exact along_iff_of_invariant (Recorded uuid)
    (fun history call recorded => ⟨warranted_of_justified recorded,justified_of_warranted recorded⟩)
    (fun history call recorded _ => perform_recorded distinct recorded call) start calls

end Histories

section Examples

def manualCall (scope : String) : SyncCall where
  tenantId := "t"
  connectorId := "c"
  syncType := .manualSync
  capability := none
  targetScopes := [scope]
  periodStart := none
  periodEnd := none
  datasetVersion := none
  allowIdempotentSkip := true
  healthError := none
  hierarchy := []
  row := 0

def countedWork (_ : SyncCall) (_ : String) (world : Unit) (_ : String) : Unit × Except ScopeError ℕ := (world, .ok 1)

def unaryId (n : ℕ) : String := String.ofList (List.replicate n 'a')

def emptyHistory : SyncHistory Unit := ⟨⟨[],(),0⟩,[]⟩

theorem manualCall_ran : (perform unaryId countedWork emptyHistory (manualCall "a")).runs =
    [⟨manualCall "a","sync-" ++ unaryId 0,[⟨"a",.ok 1⟩]⟩] := rfl

theorem repeated_scope_skipped : Along (perform unaryId countedWork) (Justified unaryId countedWork) emptyHistory
    [manualCall "a", manualCall "a"] := by
  refine (skips_justified_iff ?_ () [manualCall "a", manualCall "a"]).mpr ⟨?_,?_,trivial⟩
  · intro first second same
    simpa [unaryId] using congrArg (fun id => id.toList.length) same
  · exact ⟨fun _ run ran => absurd ran (by simp),fun run ran => absurd ran (by simp)⟩
  · have covers : (⟨manualCall "a","sync-" ++ unaryId 0,[⟨"a",.ok 1⟩]⟩ : EarlierRun).Covers (manualCall "a") := by
      intro scope asked
      obtain rfl := List.mem_singleton.mp asked
      exact ⟨1,List.mem_singleton.mpr rfl⟩
    refine ⟨?_,?_⟩
    · intro _ run ran _ _
      have ran : run ∈ (perform unaryId countedWork emptyHistory (manualCall "a")).runs := ran
      rw [manualCall_ran] at ran
      obtain rfl := List.mem_singleton.mp ran
      exact ⟨⟨rfl,rfl,rfl,⟨rfl,rfl⟩,rfl⟩,covers⟩
    · intro run ran _
      have ran : run ∈ (perform unaryId countedWork emptyHistory (manualCall "a")).runs := ran
      rw [manualCall_ran] at ran
      obtain rfl := List.mem_singleton.mp ran
      exact Or.inl covers

/-- A scope that no call has processed is skipped: the key leaves out the scopes. -/
theorem new_scope_skipped : ¬Along (perform unaryId countedWork) (Justified unaryId countedWork) emptyHistory
    [manualCall "a", manualCall "b"] := by
  rintro ⟨_,second,_⟩
  have answer := second 0
  have returned : executeSync unaryId countedWork (perform unaryId countedWork emptyHistory (manualCall "a")).state
      { manualCall "b" with row := 0 } = (_, .skipped _) := executeSync_skipped rfl
  rw [returned] at answer
  have done := answer.2 "b" (by decide)
  revert done
  decide

end Examples

end CloudLens.Sync
