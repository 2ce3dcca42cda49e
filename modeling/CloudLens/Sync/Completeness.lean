import CloudLens.Sync.Outcomes
import Mathlib.Algebra.BigOperators.Group.List.Basic

/-! What a job counts against what its connector offers, over all pages of each
dataset the job is for. -/
namespace CloudLens.Sync
open Library Connectors

section Offers

def followPages (fetch : Option String → Except ScopeError PagedResult) : ℕ → Option String → List PagedResult
  | 0, _ => []
  | n + 1, token =>
    match fetch token with
    | .error _ => []
    | .ok page =>
      page :: if page.isTruncated ∧ linked page.continuationToken then followPages fetch n page.continuationToken else []

variable (connector : CloudConnector) (scope : String) (dataset : Stage)

def offeredRecords (n : ℕ) : List Json :=
  (followPages (connector.page dataset.method (if dataset.ofScope then some scope else none)) n none).flatMap PagedResult.items

def laterRecords (n : ℕ) : List Json :=
  match firstPage connector scope dataset with
  | .error _ => []
  | .ok page =>
    if page.isTruncated ∧ linked page.continuationToken then
      (followPages (connector.page dataset.method (if dataset.ofScope then some scope else none)) n
        page.continuationToken).flatMap PagedResult.items
    else []

theorem offeredRecords_succ (n : ℕ) :
    offeredRecords connector scope dataset (n + 1) = firstItems connector scope dataset ++ laterRecords connector scope dataset n := by
  unfold offeredRecords laterRecords firstItems firstPage
  rw [followPages]
  cases connector.page dataset.method (if dataset.ofScope then some scope else none) none with
  | error error => rfl
  | ok page =>
    dsimp only
    split
    · rw [List.flatMap_cons]
    · rw [List.flatMap_cons,List.flatMap_nil]

def ownDatasets : ConnectorCapability → List Stage
  | .authenticate => []
  | .validatePermissions => []
  | .healthStatus => []
  | .providerMetadata => []
  | .collectCostQuery => [⟨.collectCostQuery,false,some .collectCostQuery,true⟩]
  | capability => if dispatchCapability capability = [] then [⟨capability,true,none,false⟩] else dispatchCapability capability

def datasets (call : SyncCall) : List Stage :=
  match call.capability with
  | some capability => if connector.declares capability then ownDatasets capability else []
  | none => scopeStages connector call

def isCost (dataset : Stage) : Bool := dataset.method = .collectCostBulk || dataset.method = .collectCostQuery

end Offers

section Jobs

variable (uuid : ℕ → String) (services : SyncServices) (connector : CloudConnector)

def countOf (scope : String) (n : ℕ) (listed : List Stage) : ℕ :=
  (listed.map (fun dataset => stageCount services (offeredRecords connector scope dataset n) dataset)).sum

def offeredEntries (call : SyncCall) (jobId scope : String) (n : ℕ) : List QuarantineRecord :=
  (datasets connector call).flatMap (fun dataset =>
    stageEntries services call jobId (offeredRecords connector scope dataset n) dataset)

def costCount (call : SyncCall) (n : ℕ) : ℕ := countOf services connector "root" n ((datasets connector call).filter isCost)

/-- The job is complete, and what it reports is what its scopes give one by one. -/
structure CountedOnce (call : SyncCall) (world : SyncWorld) (job : SyncJob) (results : List SyncScopeResult) : Prop where
  partition : (job.scopesCompleted ++ job.scopesFailed).Perm job.scopesRequested
  status : job.status = .completed ↔ job.scopesFailed = []
  isolated : ∀ before failing rest, call.scopesToProcess = before ++ failing :: rest → failing ∈ job.scopesFailed →
    (processScopes (executeScopeWork uuid services connector) call job.id world (before ++ rest)).2 =
      results.filter (fun result => result.scopeId ≠ failing)
  accounted : List.Forall₂ (fun result part => ∀ rows, result.outcome = .ok rows → ∀ n,
      rows = countOf services connector result.scopeId (n + 1) (datasets connector call) ∧
      part.map QuarantineRecord.anonymous = offeredEntries services connector call job.id result.scopeId (n + 1))
    results (quarantinedBy uuid services connector call job.id world call.scopesToProcess)
  once : ∀ n, job.rowsIngested =
    (job.scopesCompleted.map (fun scope =>
      countOf services connector scope (n + 1) ((datasets connector call).filter (fun dataset => !isCost dataset)))).sum +
    if job.scopesCompleted = [] then 0 else costCount services connector call (n + 1)

def Answers (call : SyncCall) (jobId : String) (storage : Storage) (scope : String) : Prop :=
  ∀ stage ∈ scopeStages connector call, ∃ page, firstPage connector scope stage = .ok page ∧
    ∀ capability, stage.validatedAs = some capability → stage.lands = true →
      validRecords services capability page.items ≠ [] →
      landingFailure services.dumps (landingCall uuid services call jobId scope capability 0
        (validRecords services capability page.items)) (stageBlocked uuid services connector call jobId storage scope stage) = none

/-- No record lies beyond the first pages that the dispatch asks for. A targeted
cost query is dispatched to the bulk export, which then has to tally with it. -/
def Exhausted (call : SyncCall) (jobId scope : String) : Prop :=
  if call.capability = some .collectCostQuery then
    ∀ stage ∈ scopeStages connector call, ∀ dataset ∈ datasets connector call, ∀ n,
      stageCount services (firstItems connector scope stage) stage =
        stageCount services (offeredRecords connector scope dataset (n + 1)) dataset ∧
      stageEntries services call jobId (firstItems connector scope stage) stage =
        stageEntries services call jobId (offeredRecords connector scope dataset (n + 1)) dataset
  else ∀ dataset ∈ datasets connector call, ∀ n,
    if dataset ∈ scopeStages connector call then laterRecords connector scope dataset n = []
    else offeredRecords connector scope dataset (n + 1) = []

/-- The connector is healthy, the scopes that it and the stores answer are exhausted
by their first pages, and no valid cost record is offered or at most one is answered. -/
structure Countable (call : SyncCall) (jobId : String) (storage : Storage) : Prop where
  healthy : call.healthError = none
  exhausted : ∀ scope ∈ call.scopesToProcess, Answers uuid services connector call jobId storage scope →
    Exhausted services connector call jobId scope
  shared : (∀ n, costCount services connector call (n + 1) = 0) ∨ ∀ first ∈ call.scopesToProcess, ∀ second ∈ call.scopesToProcess,
    Answers uuid services connector call jobId storage first → Answers uuid services connector call jobId storage second →
    first = second

variable {uuid} {services} {connector} {call : SyncCall} {jobId scope : String} {storage : Storage}

theorem size_split (services : SyncServices) (call : SyncCall) (jobId : String) (records : List Json) (dataset : Stage) :
    stageCount services records dataset + (stageEntries services call jobId records dataset).length = records.length := by
  unfold stageCount stageEntries
  cases dataset.validatedAs with
  | none => rfl
  | some capability => exact records_split services call jobId capability records

theorem stageOutcome_ok_iff {stage : Stage} {held : Bool} :
    (∃ rows, stageOutcome uuid services connector call jobId held scope stage = .ok rows) ↔
      ∃ page, firstPage connector scope stage = .ok page ∧
        ∀ capability, stage.validatedAs = some capability → stage.lands = true →
          validRecords services capability page.items ≠ [] →
          landingFailure services.dumps (landingCall uuid services call jobId scope capability 0
            (validRecords services capability page.items)) held = none := by
  unfold stageOutcome
  cases first : firstPage connector scope stage with
  | error error => simp
  | ok page =>
    dsimp only
    cases validated : stage.validatedAs with
    | none => simp
    | some capability =>
      dsimp only
      by_cases landing : stage.lands = true ∧ validRecords services capability page.items ≠ []
      · rw [if_pos landing]
        cases failure : landingFailure services.dumps (landingCall uuid services call jobId scope capability 0
            (validRecords services capability page.items)) held with
        | none =>
          refine iff_of_true ⟨_,rfl⟩ ⟨page,rfl,?_⟩
          intro other same _ _
          obtain rfl := Option.some.inj same
          exact failure
        | some reason =>
          refine iff_of_false (by simp) ?_
          rintro ⟨other,same,unfailing⟩
          obtain rfl := Except.ok.inj same
          exact absurd (failure.symm.trans (unfailing capability rfl landing.1 landing.2)) (by simp)
      · rw [if_neg landing]
        refine iff_of_true ⟨_,rfl⟩ ⟨page,rfl,?_⟩
        intro other same lands nonempty
        obtain rfl := Option.some.inj same
        exact absurd ⟨lands,nonempty⟩ landing

theorem stagesOutcome_ok_iff {held : Stage → Bool} {stages : List Stage} :
    (∃ rows, stagesOutcome uuid services connector call jobId held scope stages = .ok rows) ↔
      ∀ stage ∈ stages, ∃ rows, stageOutcome uuid services connector call jobId (held stage) scope stage = .ok rows := by
  induction stages with
  | nil => simp [stagesOutcome]
  | cons stage rest ih =>
    rw [List.forall_mem_cons,← ih,stagesOutcome]
    cases stageOutcome uuid services connector call jobId (held stage) scope stage with
    | error error => simp
    | ok rows =>
      dsimp only
      cases stagesOutcome uuid services connector call jobId held scope rest with
      | error error => simp [Except.map]
      | ok total => simp [Except.map]

theorem answers_iff : Answers uuid services connector call jobId storage scope ↔
    ∃ rows, scopeOutcome uuid services connector call jobId storage scope = .ok rows := by
  unfold scopeOutcome Answers
  rw [stagesOutcome_ok_iff]
  simp only [stageOutcome_ok_iff]

theorem stagesOutcome_rows {held : Stage → Bool} {stages : List Stage} {rows : ℕ}
    (succeeds : stagesOutcome uuid services connector call jobId held scope stages = .ok rows) :
    rows = (stages.map (fun stage => stageCount services (firstItems connector scope stage) stage)).sum := by
  induction stages generalizing rows with
  | nil => exact (Except.ok.inj succeeds).symm
  | cons stage rest ih =>
    unfold stagesOutcome at succeeds
    cases outcome : stageOutcome uuid services connector call jobId (held stage) scope stage with
    | error error =>
      rw [outcome] at succeeds
      cases succeeds
    | ok first =>
      rw [outcome] at succeeds
      dsimp only at succeeds
      cases rested : stagesOutcome uuid services connector call jobId held scope rest with
      | error error =>
        rw [rested] at succeeds
        cases succeeds
      | ok others =>
        rw [rested] at succeeds
        obtain ⟨page,_,counted⟩ := stageOutcome_fetched outcome
        rw [List.map_cons,List.sum_cons,← ih rested,← counted]
        exact (Except.ok.inj succeeds).symm

theorem scopeOutcome_rows {rows : ℕ} (succeeds : scopeOutcome uuid services connector call jobId storage scope = .ok rows) :
    rows = ((scopeStages connector call).map (fun stage => stageCount services (firstItems connector scope stage) stage)).sum :=
  stagesOutcome_rows succeeds

theorem sizes_split (services : SyncServices) (call : SyncCall) (jobId : String) (records : Stage → List Json) (listed : List Stage) :
    (listed.map (fun dataset => stageCount services (records dataset) dataset)).sum +
      (listed.flatMap (fun dataset => stageEntries services call jobId (records dataset) dataset)).length =
      (listed.map (fun dataset => (records dataset).length)).sum := by
  induction listed with
  | nil => rfl
  | cons dataset rest ih =>
    have split := size_split services call jobId (records dataset) dataset
    simp only [List.map_cons,List.sum_cons,List.flatMap_cons,List.length_append]
    omega

theorem tallied_iff (call : SyncCall) (jobId : String) (listed : List Stage) :
    (∀ n, (listed.map (fun stage => stageCount services (firstItems connector scope stage) stage)).sum =
        countOf services connector scope (n + 1) listed ∧
      firstEntries services connector call jobId scope listed = listed.flatMap (fun dataset =>
        stageEntries services call jobId (offeredRecords connector scope dataset (n + 1)) dataset)) ↔
      ∀ dataset ∈ listed, ∀ n, laterRecords connector scope dataset n = [] := by
  constructor
  · intro tallied dataset member n
    obtain ⟨counts,entries⟩ := tallied n
    have first := sizes_split services call jobId (firstItems connector scope) listed
    have offered := sizes_split services call jobId (fun dataset => offeredRecords connector scope dataset (n + 1)) listed
    unfold firstEntries at entries
    unfold countOf at counts
    rw [← counts,← entries,first] at offered
    simp only [offeredRecords_succ,List.length_append,List.sum_map_add] at offered
    have nothing : (listed.map (fun dataset => (laterRecords connector scope dataset n).length)).sum = 0 := by omega
    rw [List.sum_eq_zero_iff_forall_eq_nat] at nothing
    exact List.length_eq_zero_iff.mp (nothing _ (List.mem_map_of_mem member))
  · intro exhausted n
    have offered : ∀ dataset ∈ listed, offeredRecords connector scope dataset (n + 1) = firstItems connector scope dataset := by
      intro dataset member
      rw [offeredRecords_succ,exhausted dataset member n,List.append_nil]
    unfold countOf firstEntries
    refine ⟨?_,?_⟩
    · exact congrArg List.sum (List.map_congr_left (fun dataset member => by rw [offered dataset member]))
    · exact List.flatMap_congr (fun dataset member => by rw [offered dataset member])

theorem undispatched {call : SyncCall} (other : call.capability ≠ some .collectCostQuery)
    (differ : datasets connector call ≠ scopeStages connector call) : ∃ capability,
    scopeStages connector call = [] ∧ datasets connector call = [⟨capability,true,none,false⟩] := by
  unfold datasets scopeStages at *
  cases targeted : call.capability with
  | none =>
    rw [targeted] at differ
    exact absurd rfl differ
  | some capability =>
    rw [targeted] at differ other
    dsimp only at differ ⊢
    by_cases declared : connector.declares capability = true
    · rw [if_pos declared,if_pos declared] at differ ⊢
      have branches : ∀ capability, some capability ≠ some ConnectorCapability.collectCostQuery →
          ownDatasets capability ≠ dispatchCapability capability →
          dispatchCapability capability = [] ∧ ownDatasets capability = [⟨capability,true,none,false⟩] := by
        intro capability
        cases capability <;> decide
      exact ⟨capability,branches capability other differ⟩
    · rw [if_neg declared,if_neg declared] at differ
      exact absurd rfl differ

variable (services) in
/-- What the stages give for a scope is what is offered to it exactly when it is
exhausted. -/
theorem exhausted_iff (call : SyncCall) (jobId scope : String) :
    (∀ n, ((scopeStages connector call).map (fun stage => stageCount services (firstItems connector scope stage) stage)).sum =
        countOf services connector scope (n + 1) (datasets connector call) ∧
      firstEntries services connector call jobId scope (scopeStages connector call) =
        offeredEntries services connector call jobId scope (n + 1)) ↔ Exhausted services connector call jobId scope := by
  unfold Exhausted offeredEntries
  by_cases query : call.capability = some .collectCostQuery
  · rw [if_pos query]
    by_cases declared : connector.declares .collectCostQuery = true
    · have stages : scopeStages connector call = [⟨.collectCostBulk,false,some .collectCostQuery,true⟩] := by
        unfold scopeStages
        rw [query]
        simp only [declared,if_true,dispatchCapability]
      have offers : datasets connector call = [⟨.collectCostQuery,false,some .collectCostQuery,true⟩] := by
        unfold datasets
        rw [query]
        simp only [declared,if_true,ownDatasets]
      rw [stages,offers]
      simp [countOf,firstEntries]
    · have stages : scopeStages connector call = [] := by
        unfold scopeStages
        rw [query]
        simp only [declared,if_false,Bool.false_eq_true]
      have offers : datasets connector call = [] := by
        unfold datasets
        rw [query]
        simp only [declared,if_false,Bool.false_eq_true]
      rw [stages,offers]
      simp [countOf,firstEntries]
  · rw [if_neg query]
    by_cases same : datasets connector call = scopeStages connector call
    · rw [same,tallied_iff]
      refine forall_congr' (fun dataset => forall_congr' (fun member => forall_congr' (fun n => ?_)))
      rw [if_pos member]
    · obtain ⟨capability,stages,offers⟩ := undispatched query same
      rw [stages,offers]
      simp [countOf,firstEntries,stageCount,stageEntries,@eq_comm ℕ 0]

theorem scopes_partition (results : List SyncScopeResult) :
    (succeeded results ++ failures results).Perm (results.map SyncScopeResult.scopeId) := by
  induction results with
  | nil => exact .refl _
  | cons result rest ih =>
    obtain ⟨scope,outcome⟩ := result
    cases outcome with
    | ok rows => exact ih.cons scope
    | error error =>
      refine List.Perm.trans ?_ (ih.cons scope)
      exact List.perm_middle

def resultsOf (outcome : String → Except ScopeError ℕ) (scopes : List String) : List SyncScopeResult :=
  scopes.map (fun scope => ⟨scope,outcome scope⟩)

theorem mem_succeeded_resultsOf {outcome : String → Except ScopeError ℕ} {scopes : List String} :
    scope ∈ succeeded (resultsOf outcome scopes) ↔ scope ∈ scopes ∧ ∃ rows, outcome scope = .ok rows := by
  rw [mem_succeeded]
  unfold resultsOf
  simp only [List.mem_map,SyncScopeResult.mk.injEq]
  constructor
  · rintro ⟨rows,first,member,rfl,found⟩
    exact ⟨member,rows,found⟩
  · rintro ⟨member,rows,found⟩
    exact ⟨rows,scope,member,rfl,found⟩

theorem nodup_succeeded {outcome : String → Except ScopeError ℕ} {scopes : List String} (distinct : scopes.Nodup) :
    (succeeded (resultsOf outcome scopes)).Nodup := by
  have names : (resultsOf outcome scopes).map SyncScopeResult.scopeId = scopes := by simp [resultsOf,Function.comp_def]
  have whole := (scopes_partition (resultsOf outcome scopes)).nodup_iff.mpr (by rwa [names])
  exact (List.nodup_append.mp whole).1

theorem rows_resultsOf {outcome : String → Except ScopeError ℕ} {scopes : List String} {count : String → ℕ}
    (counted : ∀ scope rows, outcome scope = .ok rows → rows = count scope) :
    ((resultsOf outcome scopes).map SyncScopeResult.recordsIngested).sum =
      ((succeeded (resultsOf outcome scopes)).map count).sum := by
  unfold resultsOf succeeded
  induction scopes with
  | nil => rfl
  | cons scope rest ih =>
    rw [List.map_cons,List.map_cons,List.sum_cons,ih,List.filterMap_cons]
    cases found : outcome scope with
    | ok rows =>
      rw [List.map_cons,List.sum_cons,← counted scope rows found]
      rfl
    | error error => exact Nat.zero_add _

theorem executeSync_runs {uuid : ℕ → String} {World : Type}
    {work : SyncCall → String → World → String → World × Except ScopeError ℕ} {s after : SyncState World} {call : SyncCall}
    {job : SyncJob} {results : List SyncScopeResult} (ran : executeSync uuid work s call = (after, .ran job results)) :
    ∃ id world, runJob work s.world call (call.newJob id) = (world, job, results) := by
  unfold executeSync at ran
  split at ran
  · cases (Prod.mk.inj ran).2
  · dsimp only at ran
    split at ran
    · cases (Prod.mk.inj ran).2
    · split at ran
      · cases (Prod.mk.inj ran).2
      · rename_i stored saved
        obtain ⟨same,all⟩ := SyncAnswer.ran.inj (Prod.mk.inj ran).2
        exact ⟨_,_,Prod.ext rfl (Prod.ext same all)⟩

theorem forall₂_iff_forall {α β : Type} {given wanted : α → β → Prop} {good : α → Prop} {left : List α} {right : List β}
    (related : List.Forall₂ given left right) (same : ∀ a b, given a b → (wanted a b ↔ good a)) :
    List.Forall₂ wanted left right ↔ ∀ a ∈ left, good a := by
  induction related with
  | nil => simp
  | cons first _ ih => rw [List.forall₂_cons,List.forall_mem_cons,same _ _ first,ih]

theorem accounted_iff {world : SyncWorld} (scopes : List String) (fresh : resumeToken call jobId world = none) :
    List.Forall₂ (fun result part => ∀ rows, result.outcome = .ok rows → ∀ n,
        rows = countOf services connector result.scopeId (n + 1) (datasets connector call) ∧
        part.map QuarantineRecord.anonymous = offeredEntries services connector call jobId result.scopeId (n + 1))
      (resultsOf (scopeOutcome uuid services connector call jobId world.storage) scopes)
      (quarantinedBy uuid services connector call jobId world scopes) ↔
    ∀ scope ∈ scopes, Answers uuid services connector call jobId world.storage scope →
      Exhausted services connector call jobId scope := by
  unfold resultsOf
  rw [List.forall₂_map_left_iff]
  refine forall₂_iff_forall (processScopes_outcomes scopes fresh).2 ?_
  intro scope part entries
  rw [answers_iff,← exhausted_iff services call jobId scope]
  constructor
  · rintro accounted ⟨rows,succeeds⟩ n
    obtain ⟨counts,same⟩ := accounted rows succeeds n
    rw [← stagesOutcome_rows succeeds,← entries rows succeeds]
    exact ⟨counts,same⟩
  · intro tallied rows succeeds n
    obtain ⟨counts,same⟩ := tallied ⟨rows,succeeds⟩ n
    rw [stagesOutcome_rows succeeds,entries rows succeeds]
    exact ⟨counts,same⟩

theorem countOf_split (n : ℕ) (listed : List Stage) : countOf services connector scope n listed =
    countOf services connector scope n (listed.filter (fun dataset => !isCost dataset)) +
      countOf services connector scope n (listed.filter isCost) := by
  unfold countOf
  induction listed with
  | nil => rfl
  | cons dataset rest ih =>
    cases cost : isCost dataset with
    | true =>
      simp only [List.filter_cons,cost,Bool.not_true,Bool.false_eq_true,if_false,if_true,List.map_cons,List.sum_cons]
      omega
    | false =>
      simp only [List.filter_cons,cost,Bool.not_false,Bool.false_eq_true,if_false,if_true,List.map_cons,List.sum_cons]
      omega

theorem datasets_cost {dataset : Stage} (member : dataset ∈ datasets connector call) (cost : isCost dataset = true) :
    dataset.ofScope = false := by
  have targeted : ∀ capability, ∀ dataset ∈ ownDatasets capability, isCost dataset = true → dataset.ofScope = false := by
    intro capability
    cases capability <;> decide
  have typed : ∀ syncType, ∀ dataset ∈ syncTypeStages syncType, isCost dataset = true → dataset.ofScope = false := by
    intro syncType
    cases syncType <;> decide
  unfold datasets scopeStages at member
  cases named : call.capability with
  | none =>
    rw [named] at member
    exact typed call.syncType dataset (List.mem_of_mem_filter member) cost
  | some capability =>
    rw [named] at member
    dsimp only at member
    by_cases declared : connector.declares capability = true
    · rw [if_pos declared] at member
      exact targeted capability dataset member cost
    · rw [if_neg declared] at member
      cases member

theorem countOf_cost (scope : String) (n : ℕ) :
    countOf services connector scope n ((datasets connector call).filter isCost) = costCount services connector call n := by
  unfold costCount countOf
  refine congrArg List.sum (List.map_congr_left ?_)
  intro dataset member
  obtain ⟨listed,cost⟩ := List.mem_filter.mp member
  unfold offeredRecords
  rw [datasets_cost listed cost]
  rfl

theorem once_iff {completed : List String} {rows : ℕ}
    (counted : ∀ n, rows = (completed.map (fun scope => countOf services connector scope (n + 1) (datasets connector call))).sum) :
    (∀ n, rows = (completed.map (fun scope =>
        countOf services connector scope (n + 1) ((datasets connector call).filter (fun dataset => !isCost dataset)))).sum +
      if completed = [] then 0 else costCount services connector call (n + 1)) ↔
    (∀ n, costCount services connector call (n + 1) = 0) ∨ completed.length ≤ 1 := by
  have shared (n : ℕ) : rows = (completed.map (fun scope =>
      countOf services connector scope (n + 1) ((datasets connector call).filter (fun dataset => !isCost dataset)))).sum +
      completed.length * costCount services connector call (n + 1) := by
    rw [counted n]
    simp only [countOf_split (n + 1) (datasets connector call),countOf_cost]
    rw [List.sum_map_add]
    simp
  have each : (∀ n, rows = (completed.map (fun scope =>
        countOf services connector scope (n + 1) ((datasets connector call).filter (fun dataset => !isCost dataset)))).sum +
      if completed = [] then 0 else costCount services connector call (n + 1)) ↔
      ∀ n, completed.length * costCount services connector call (n + 1) =
        if completed = [] then 0 else costCount services connector call (n + 1) := by
    refine forall_congr' (fun n => ?_)
    have total := shared n
    constructor
    · intro once
      omega
    · intro once
      omega
  rw [each]
  match completed with
  | [] => simp
  | [scope] => simp
  | first :: second :: rest =>
    constructor
    · intro once
      refine Or.inl (fun n => ?_)
      have equal := once n
      rw [if_neg (by simp),List.length_cons,List.length_cons] at equal
      by_contra positive
      have many : 2 * costCount services connector call (n + 1) ≤
          (rest.length + 1 + 1) * costCount services connector call (n + 1) := Nat.mul_le_mul_right _ (by omega)
      omega
    · rintro (none | few) n
      · rw [none n]
        simp
      · simp at few

theorem at_most_one {completed : List String} (distinct : completed.Nodup) :
    completed.length ≤ 1 ↔ ∀ first ∈ completed, ∀ second ∈ completed, first = second := by
  match completed, distinct with
  | [], _ => simp
  | [scope], _ => simp
  | first :: second :: rest, distinct =>
    refine iff_of_false (by simp) ?_
    intro same
    have equal := same first (by simp) second (by simp)
    rw [equal] at distinct
    exact absurd distinct (by simp)

/-- A job that runs is complete and counted once exactly when its connector is healthy,
no record of an answered scope lies beyond the first pages, and no valid cost record
is offered or at most one scope is answered. -/
theorem job_counted_once_iff {s after : SyncState SyncWorld} {job : SyncJob} {results : List SyncScopeResult}
    (ran : executeSync uuid (executeScopeWork uuid services connector) s call = (after, .ran job results))
    (distinct : call.scopesToProcess.Nodup) (fresh : resumeToken call job.id s.world = none) :
    CountedOnce uuid services connector call s.world job results ↔
      Countable uuid services connector call job.id s.world.storage := by
  obtain ⟨id,world,run⟩ := executeSync_runs ran
  unfold runJob at run
  cases health : call.healthError with
  | some error =>
    rw [health] at run
    obtain rfl : _ = job := (Prod.mk.inj (Prod.mk.inj run).2).1
    refine iff_of_false ?_ ?_
    · intro counted
      have scopes : call.initialScopes ≠ [] := by
        unfold SyncCall.initialScopes
        split
        · simp
        · assumption
      exact scopes (List.nil_perm.mp counted.partition)
    · intro countable
      exact absurd (health.symm.trans countable.healthy) (by simp)
  | none =>
    rw [health] at run
    dsimp only at run
    obtain ⟨same,all⟩ := Prod.mk.inj (Prod.mk.inj run).2
    have named : job.id = id := by rw [← same]; rfl
    subst named
    have resultsAre : results = resultsOf (scopeOutcome uuid services connector call job.id s.world.storage) call.scopesToProcess :=
      all.symm.trans (processScopes_outcomes call.scopesToProcess fresh).1
    have requested : job.scopesRequested = call.scopesToProcess := (congrArg SyncJob.scopesRequested same).symm
    have completed : job.scopesCompleted = succeeded results :=
      (congrArg SyncJob.scopesCompleted same).symm.trans (congrArg succeeded all)
    have failed : job.scopesFailed = failures results := (congrArg SyncJob.scopesFailed same).symm.trans (congrArg failures all)
    have status : job.status = finalStatus results := (congrArg SyncJob.status same).symm.trans (congrArg finalStatus all)
    have rows : job.rowsIngested = (results.map SyncScopeResult.recordsIngested).sum :=
      (congrArg SyncJob.rowsIngested same).symm.trans
        (congrArg (fun results => (List.map SyncScopeResult.recordsIngested results).sum) all)
    have mem_completed (scope : String) : scope ∈ job.scopesCompleted ↔ scope ∈ call.scopesToProcess ∧
        Answers uuid services connector call job.id s.world.storage scope := by
      rw [completed,resultsAre,mem_succeeded_resultsOf,answers_iff]
    have counted : ∀ scope ∈ call.scopesToProcess, Answers uuid services connector call job.id s.world.storage scope →
        Exhausted services connector call job.id scope → ∀ n,
        ((scopeStages connector call).map (fun stage => stageCount services (firstItems connector scope stage) stage)).sum =
          countOf services connector scope (n + 1) (datasets connector call) :=
      fun scope _ _ exhausted n => ((exhausted_iff services call job.id scope).mpr exhausted n).1
    have total (exhausted : ∀ scope ∈ call.scopesToProcess, Answers uuid services connector call job.id s.world.storage scope →
        Exhausted services connector call job.id scope) (n : ℕ) : job.rowsIngested =
        (job.scopesCompleted.map (fun scope => countOf services connector scope (n + 1) (datasets connector call))).sum := by
      rw [rows,resultsAre,rows_resultsOf (fun scope rows succeeds => scopeOutcome_rows succeeds),← resultsAre,← completed]
      refine congrArg List.sum (List.map_congr_left ?_)
      intro scope member
      obtain ⟨asked,answers⟩ := (mem_completed scope).mp member
      exact counted scope asked answers (exhausted scope asked answers) n
    have shared : job.scopesCompleted.length ≤ 1 ↔ ∀ first ∈ call.scopesToProcess, ∀ second ∈ call.scopesToProcess,
        Answers uuid services connector call job.id s.world.storage first →
        Answers uuid services connector call job.id s.world.storage second → first = second := by
      rw [at_most_one (by rw [completed,resultsAre]; exact nodup_succeeded distinct)]
      constructor
      · intro equal first asked second also answers answered
        exact equal first ((mem_completed first).mpr ⟨asked,answers⟩) second ((mem_completed second).mpr ⟨also,answered⟩)
      · intro equal first member second also
        obtain ⟨asked,answers⟩ := (mem_completed first).mp member
        obtain ⟨other,answered⟩ := (mem_completed second).mp also
        exact equal first asked second other answers answered
    constructor
    · intro once
      have accounted := once.accounted
      rw [resultsAre] at accounted
      have exhausted := (accounted_iff call.scopesToProcess fresh).mp accounted
      exact ⟨health,exhausted,((once_iff (total exhausted)).mp once.once).imp_right shared.mp⟩
    · intro countable
      refine ⟨?_,?_,?_,?_,?_⟩
      · rw [completed,failed,requested,resultsAre]
        have names : (resultsOf (scopeOutcome uuid services connector call job.id s.world.storage) call.scopesToProcess).map
            SyncScopeResult.scopeId = call.scopesToProcess := by simp [resultsOf,Function.comp_def]
        conv_rhs => rw [← names]
        exact scopes_partition _
      · rw [status,failed]
        unfold finalStatus
        split
        · rename_i none
          simp [none]
        · rename_i some
          split <;> simp [some]
      · intro before failing rest parts _
        rw [(processScopes_outcomes (before ++ rest) fresh).1,resultsAre,parts]
        rw [parts] at distinct
        have absent := (List.nodup_cons.mp (List.perm_middle.nodup_iff.mp distinct)).1
        unfold resultsOf
        rw [List.filter_map,List.filter_append,List.filter_cons_of_neg (by simp),← List.filter_append]
        congr 1
        refine (List.filter_eq_self.mpr ?_).symm
        intro scope member
        simp only [Function.comp_apply,decide_eq_true_eq]
        rintro rfl
        exact absent member
      · rw [resultsAre]
        exact (accounted_iff call.scopesToProcess fresh).mpr countable.exhausted
      · exact (once_iff (total countable.exhausted)).mpr (countable.shared.imp_right shared.mpr)

end Jobs

section Examples

def resourcesCall : SyncCall where
  tenantId := "t"
  connectorId := "c"
  syncType := .manualSync
  capability := some .discoverResources
  targetScopes := ["a"]
  periodStart := none
  periodEnd := none
  datasetVersion := none
  allowIdempotentSkip := true
  healthError := none
  hierarchy := []
  row := 0

def acceptingServices : SyncServices where
  validateSingleRecord _ _ := ⟨true,none,none⟩
  dumps _ := .ok []
  text _ := []
  describe _ := ⟨"",""⟩
  landing _ := ⟨none,true,none⟩
  month := "2026-09"
  requireRealdb := false

def pagedConnector (second : Bool) : CloudConnector where
  declares _ := true
  page _ _ token := .ok (if token = none then ⟨[.null],if second then some "2" else none,second⟩ else ⟨[.null],none,false⟩)

def emptySync : SyncState SyncWorld := ⟨[],⟨emptyStorage,[],fun _ => none,0⟩,0⟩

def scopesCall : SyncCall := { resourcesCall with targetScopes := ["a", "b", "c"] }

/-- Records that are not null are quarantined. -/
def nullServices : SyncServices :=
  { acceptingServices with
    validateSingleRecord := fun record _ => ⟨record matches .null,some .schemaViolation,none⟩ }

def scopedPages : Option String → Except ScopeError PagedResult
  | some "a" => .ok ⟨[.null],none,false⟩
  | some "b" => .ok ⟨[.null, .bool true, .null],none,false⟩
  | _ => .error ⟨"TimeoutError","no answer"⟩

def scopedConnector : CloudConnector where
  declares _ := true
  page _ scope _ := scopedPages scope

/-- Of three scopes one fails; three records of the others are counted and one is quarantined. -/
theorem single_pages_counted : ∃ after job results,
    executeSync (fun _ => "1") (executeScopeWork (fun _ => "1") nullServices scopedConnector) emptySync scopesCall =
      (after, .ran job results) ∧
    job.rowsIngested = 3 ∧ job.scopesFailed = ["c"] ∧ after.world.quarantine.length = 1 ∧
    CountedOnce (fun _ => "1") nullServices scopedConnector scopesCall emptySync.world job results := by
  refine ⟨_,_,_,rfl,by decide +kernel,by decide +kernel,by decide +kernel,
    (job_counted_once_iff rfl (by decide) rfl).mpr ⟨rfl,?_,Or.inl fun _ => rfl⟩⟩
  intro scope asked _
  unfold Exhausted
  rw [if_neg (by decide)]
  intro dataset member n
  obtain rfl := List.mem_singleton.mp (show dataset ∈ [discoverResourcesStage] from member)
  rcases List.mem_cons.mp asked with rfl | asked
  · rfl
  rcases List.mem_cons.mp asked with rfl | asked
  · rfl
  obtain rfl := List.mem_singleton.mp asked
  rfl

/-- The record of the second page is neither counted nor quarantined. -/
theorem second_page_lost : ∃ after job results,
    executeSync (fun _ => "1") (executeScopeWork (fun _ => "1") acceptingServices (pagedConnector true)) emptySync resourcesCall =
      (after, .ran job results) ∧
    ¬CountedOnce (fun _ => "1") acceptingServices (pagedConnector true) resourcesCall emptySync.world job results := by
  refine ⟨_,_,_,rfl,?_⟩
  intro counted
  have once := counted.once 1
  revert once
  decide

end Examples

end CloudLens.Sync
