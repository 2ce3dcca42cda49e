import CloudLens.Remediation.Service

/-! The service as a machine. A move saves one task, either a new one or a revision of a
stored one; each call of the service is a run of moves, so that a property of the store
holds whenever a call of any run has saved something exactly when each move keeps it. -/
namespace CloudLens.Remediation
open Library Library.Runs
open Library.Calendar (Instant)

def Operation.admits : Operation → RemediationTask → Prop
  | .transitionState toState _ _, task => toState ∈ validTransitions task.state
  | .assignTask _ _ _ _, task => ¬task.isTerminal
  | .markResolved _, task => ¬task.isTerminal
  | .verifyTask _ verdict _, _ => verdict ≠ none
  | .deferTask _ reason deferralExpiry _ now, task => ¬task.isTerminal ∧ ¬blank reason ∧ now < deferralExpiry
  | .acceptRisk _ reason _ _, _ => ¬blank reason
  | .reopenExpired now, task => task.state = .deferred ∧ task.expiredBy now
  | .reprioritise _ _ _, _ => True
  | .closeDuplicate _ _ _, _ => True
  | .escalate, _ => True
  | .mirror, _ => True

structure Effect where
  state : TaskState
  cause : Cause
  reason : Option String
  reasonCode : Option String
  deferralExpiry : Option Instant
  /-- In cents, where a saving is recorded. -/
  amount : Option ℤ

def Effect.change (effect : Effect) (taskId : String) (before : TaskState) : Change :=
  ⟨taskId,some before,effect.state,effect.cause,effect.reason⟩

def RemediationTask.noted (task : RemediationTask) (cause : Cause) (reason : Option String) : Effect :=
  ⟨task.state,cause,reason,task.reasonCode,task.deferralExpiry,none⟩

def Revision.effect (revision : Revision) : Effect where
  state := revision.task.state
  cause := revision.cause
  reason := revision.task.history.getLast?.bind HistoryEntry.reason
  reasonCode := revision.task.reasonCode
  deferralExpiry := revision.task.deferralExpiry
  amount := revision.saving.map RealisedSavingEntry.realisedAmount

def Operation.effect : Operation → RemediationTask → Effect
  | .transitionState toState _ reason, task =>
    { task.noted .statusChanged reason with state := toState, reasonCode := orElse reason task.reasonCode }
  | .assignTask _ _ _ reason, task =>
    { task.noted .assigned reason with state := if task.state = .open then .assigned else task.state }
  | .markResolved _, task => { task.noted .pendingVerification none with state := .awaitingVerification }
  | .verifyTask _ (some true) _, task =>
    { task.noted .cleared none with
      state := .closed
      amount := if 0 < task.estimatedSaving.getD 0 then some (Decimal.roundHalfEven (task.estimatedSaving.getD 0 * 100))
        else none }
  | .verifyTask _ _ _, task => { task.noted .persistent none with state := .open }
  | .deferTask _ reason deferralExpiry _ _, task =>
    { task.noted .deferred (some (Text.stripped reason)) with
      state := .deferred, reasonCode := some (Text.stripped reason), deferralExpiry := some deferralExpiry }
  | .acceptRisk _ reason _ _, task =>
    { task.noted .riskAccepted (some (Text.stripped reason)) with
      state := .closed, reasonCode := some (Text.stripped reason) }
  | .reopenExpired _, task => { task.noted .deferralExpired none with state := .open, deferralExpiry := none }
  | .reprioritise _ _ reason, task => task.noted .reprioritised reason
  | .closeDuplicate _ reason _, task => { task.noted .markedDuplicate reason with state := .duplicate }
  | .escalate, task => task.noted .escalated none
  | .mirror, task => task.noted .mirrored none

structure Revises (operation : Operation) (task : RemediationTask) (revision : Revision) : Prop where
  id : revision.task.id = task.id
  tenantId : revision.task.tenantId = task.tenantId
  estimatedSaving : revision.task.estimatedSaving = task.estimatedSaving
  history : ∃ entry, revision.task.history = task.history ++ [entry] ∧ entry.fromState = task.state ∧
    entry.toState = revision.task.state
  effect : revision.effect = operation.effect task
  realisedSaving : revision.task.realisedSaving = (revision.saving.map RealisedSavingEntry.realisedAmount).or task.realisedSaving
  saving : ∀ entry ∈ revision.saving, entry.taskId = task.id

theorem blank_stripped (reason : String) : blank (Text.stripped reason) = blank reason := by
  rw [blank,blank,Text.stripped_stripped]

section Applied

variable {α ε : Type} {task : RemediationTask} {revision : Revision} {operation : Operation}

theorem guarded_ok {c : Prop} [Decidable c] {failure : ε} {otherwise : Except ε α} {value : α} :
    (if c then Except.error failure else otherwise) = .ok value ↔ ¬c ∧ otherwise = .ok value := by
  by_cases holds : c <;> simp [holds]

theorem transitionState_ok {toState : TaskState} {actor : String} {reason : Option String} :
    task.transitionState toState actor reason = .ok revision ↔ toState ∈ validTransitions task.state ∧ {
      task := { task with state := toState, reasonCode := orElse reason task.reasonCode }.addHistory
        "STATUS_CHANGED" actor task.state toState reason
      cause := .statusChanged } = revision := by
  have open_only : toState ∈ validTransitions task.state → (task.isTerminal && toState ≠ .open) = false := by
    unfold RemediationTask.isTerminal
    cases task.state <;> cases toState <;> decide
  have verified : toState ∈ validTransitions task.state → ((toState = .verified || toState = .closed) &&
      task.state ∉ [TaskState.awaitingVerification, .resolved, .verified]) = false := by
    cases task.state <;> cases toState <;> decide
  unfold RemediationTask.transitionState
  rw [guarded_ok,guarded_ok,guarded_ok,Except.ok.injEq]
  constructor
  · rintro ⟨_,allowed,_,made⟩
    exact ⟨not_not.mp allowed,made⟩
  · rintro ⟨allowed,made⟩
    exact ⟨by rw [open_only allowed]; decide,not_not.mpr allowed,by rw [verified allowed]; decide,made⟩

theorem admits_of_ok (applied : operation.apply task = .ok revision) : operation.admits task := by
  cases operation with
  | transitionState toState actor reason => exact (transitionState_ok.mp applied).1
  | assignTask assigneeId actor assigneeType reason => exact (guarded_ok.mp applied).1
  | markResolved actor => exact (guarded_ok.mp applied).1
  | verifyTask actor verdict clock =>
    rintro rfl
    cases applied
  | deferTask actor reason deferralExpiry approvalWorkflowId now =>
    obtain ⟨active,rest⟩ := guarded_ok.mp applied
    obtain ⟨stated,rest⟩ := guarded_ok.mp rest
    exact ⟨active,stated,not_le.mp (guarded_ok.mp rest).1⟩
  | acceptRisk actor reason riskExpiry now => exact (guarded_ok.mp applied).1
  | reopenExpired now =>
    by_cases due : task.state = .deferred ∧ task.expiredBy now
    · exact due
    · simp [Operation.apply,due] at applied
  | reprioritise newPriority actor reason => trivial
  | closeDuplicate actor reason now => trivial
  | escalate => trivial
  | mirror => trivial

theorem ok_of_admits (admitted : operation.admits task) : ∃ revision, operation.apply task = .ok revision := by
  cases operation with
  | transitionState toState actor reason => exact ⟨_,transitionState_ok.mpr ⟨admitted,rfl⟩⟩
  | assignTask assigneeId actor assigneeType reason => exact ⟨_,guarded_ok.mpr ⟨admitted,rfl⟩⟩
  | markResolved actor => exact ⟨_,guarded_ok.mpr ⟨admitted,rfl⟩⟩
  | verifyTask actor verdict clock =>
    obtain _ | _ | _ := verdict
    · exact absurd rfl admitted
    · exact ⟨_,rfl⟩
    · unfold Operation.apply RemediationTask.verifyTask
      dsimp only
      split <;> exact ⟨_,rfl⟩
  | deferTask actor reason deferralExpiry approvalWorkflowId now =>
    obtain ⟨active,stated,later⟩ := admitted
    exact ⟨_,guarded_ok.mpr ⟨active,guarded_ok.mpr ⟨stated,guarded_ok.mpr ⟨not_le.mpr later,rfl⟩⟩⟩⟩
  | acceptRisk actor reason riskExpiry now => exact ⟨_,guarded_ok.mpr ⟨admitted,rfl⟩⟩
  | reopenExpired now =>
    obtain ⟨deferred,expired⟩ := admitted
    exact ⟨task.reopenExpired,by simp [Operation.apply,deferred,expired]⟩
  | reprioritise newPriority actor reason => exact ⟨_,rfl⟩
  | closeDuplicate actor reason now => exact ⟨_,rfl⟩
  | escalate => exact ⟨_,rfl⟩
  | mirror => exact ⟨_,rfl⟩

theorem revises_of_entry {entry : HistoryEntry} (history : revision.task.history = task.history ++ [entry])
    (fromState : entry.fromState = task.state) (toState : entry.toState = revision.task.state) (id : revision.task.id = task.id)
    (tenantId : revision.task.tenantId = task.tenantId) (estimatedSaving : revision.task.estimatedSaving = task.estimatedSaving)
    (effect : operation.effect task = ⟨revision.task.state,revision.cause,entry.reason,revision.task.reasonCode,
      revision.task.deferralExpiry,revision.saving.map RealisedSavingEntry.realisedAmount⟩)
    (realisedSaving : revision.task.realisedSaving =
      (revision.saving.map RealisedSavingEntry.realisedAmount).or task.realisedSaving)
    (saving : ∀ entry ∈ revision.saving, entry.taskId = task.id) : Revises operation task revision where
  id := id
  tenantId := tenantId
  estimatedSaving := estimatedSaving
  history := ⟨entry,history,fromState,toState⟩
  effect := by rw [effect,Revision.effect,history,List.getLast?_concat,Option.bind_some]
  realisedSaving := realisedSaving
  saving := saving

theorem revises_of_plain {entry : HistoryEntry} (history : revision.task.history = task.history ++ [entry])
    (fromState : entry.fromState = task.state) (toState : entry.toState = revision.task.state) (id : revision.task.id = task.id)
    (tenantId : revision.task.tenantId = task.tenantId) (estimatedSaving : revision.task.estimatedSaving = task.estimatedSaving)
    (plain : revision.saving = none) (realisedSaving : revision.task.realisedSaving = task.realisedSaving)
    (effect : operation.effect task = ⟨revision.task.state,revision.cause,entry.reason,revision.task.reasonCode,
      revision.task.deferralExpiry,none⟩) : Revises operation task revision := by
  apply revises_of_entry history fromState toState id tenantId estimatedSaving
  · rw [effect,plain,Option.map_none]
  · rw [realisedSaving,plain,Option.map_none,Option.none_or]
  · intro entry recorded
    rw [plain] at recorded
    exact absurd recorded (Option.not_mem_none entry)

theorem revises_of_ok (applied : operation.apply task = .ok revision) : Revises operation task revision := by
  cases operation with
  | transitionState toState actor reason =>
    obtain ⟨_,rfl⟩ := transitionState_ok.mp applied
    exact revises_of_plain rfl rfl rfl rfl rfl rfl rfl rfl rfl
  | assignTask assigneeId actor assigneeType reason =>
    obtain ⟨_,made⟩ := guarded_ok.mp applied
    cases made
    exact revises_of_plain rfl rfl rfl rfl rfl rfl rfl rfl rfl
  | markResolved actor =>
    obtain ⟨_,made⟩ := guarded_ok.mp applied
    cases made
    exact revises_of_plain rfl rfl rfl rfl rfl rfl rfl rfl rfl
  | verifyTask actor verdict clock =>
    obtain _ | _ | _ := verdict
    · cases applied
    · cases applied
      exact revises_of_plain rfl rfl rfl rfl rfl rfl rfl rfl rfl
    · by_cases saved : 0 < task.estimatedSaving.getD 0
      · simp only [Operation.apply,RemediationTask.verifyTask,saved,if_true,Except.ok.injEq] at applied
        cases applied
        refine revises_of_entry rfl rfl rfl rfl rfl rfl ?_ rfl ?_
        · simp [Operation.effect,RemediationTask.noted,RemediationTask.addHistory,saved]
        · intro entry recorded
          cases recorded
          rfl
      · simp only [Operation.apply,RemediationTask.verifyTask,saved,if_false,Except.ok.injEq] at applied
        cases applied
        refine revises_of_plain rfl rfl rfl rfl rfl rfl rfl rfl ?_
        simp [Operation.effect,RemediationTask.noted,RemediationTask.addHistory,saved]
  | deferTask actor reason deferralExpiry approvalWorkflowId now =>
    obtain ⟨_,rest⟩ := guarded_ok.mp applied
    obtain ⟨_,rest⟩ := guarded_ok.mp rest
    obtain ⟨_,made⟩ := guarded_ok.mp rest
    cases made
    exact revises_of_plain rfl rfl rfl rfl rfl rfl rfl rfl rfl
  | acceptRisk actor reason riskExpiry now =>
    obtain ⟨_,made⟩ := guarded_ok.mp applied
    cases made
    exact revises_of_plain rfl rfl rfl rfl rfl rfl rfl rfl rfl
  | reopenExpired now =>
    have due : task.state = .deferred ∧ task.expiredBy now := admits_of_ok applied
    simp only [Operation.apply,due.1,due.2,decide_true,Bool.and_self,if_true,Except.ok.injEq] at applied
    cases applied
    exact revises_of_plain rfl due.1.symm rfl rfl rfl rfl rfl rfl rfl
  | reprioritise newPriority actor reason =>
    cases applied
    exact revises_of_plain rfl rfl rfl rfl rfl rfl rfl rfl rfl
  | closeDuplicate actor reason now =>
    cases applied
    exact revises_of_plain rfl rfl rfl rfl rfl rfl rfl rfl rfl
  | escalate =>
    cases applied
    exact revises_of_plain rfl rfl rfl rfl rfl rfl rfl rfl rfl
  | mirror =>
    cases applied
    exact revises_of_plain rfl rfl rfl rfl rfl rfl rfl rfl rfl

end Applied

inductive Move
  | insert (tenantId : String) (task : RemediationTask)
  | revise (tenantId taskId : String) (operation : Operation)

namespace Store

def step (s : Store) : Move → Store
  | .insert tenantId task => s.insertTask tenantId task
  | .revise tenantId taskId operation => (s.amend tenantId taskId operation.apply).1

def escalations (tenantId : String) (now : Instant) : List TaskState → Store → List Move
  | [], _ => []
  | state :: rest, s => (s.overdue tenantId now state).map (fun task => .revise tenantId task.id .escalate) ++
    escalations tenantId now rest (s.escalateState tenantId now state)

def moves (s : Store) (call : String × Call) : List Move :=
  let revise (taskId : String) (operation : Operation) := Move.revise call.1 taskId operation
  match call.2 with
  | .createTask taskId req resolve actor dueDate now => [.insert call.1 (requestedTask call.1 taskId req resolve actor dueDate now)]
  | .createFromSource taskId rule subject priority estimatedSaving assignee dueDate now =>
    match rule with
    | none => []
    | some rule =>
      if rule.enabled then
        [.insert call.1 (detectedTask call.1 taskId rule subject priority estimatedSaving assignee dueDate now)]
      else []
  | .transitionState taskId toState actor reason => [revise taskId (.transitionState toState actor reason)]
  | .assignTask taskId assigneeId actor assigneeType reason => [revise taskId (.assignTask assigneeId actor assigneeType reason)]
  | .resolveTask taskId actor verdict clock =>
    match (s.amend call.1 taskId (Operation.markResolved actor).apply).2 with
    | .ok _ => [revise taskId (.markResolved actor), revise taskId (.verifyTask actor verdict clock)]
    | .error _ => []
  | .verifyTask taskId actor verdict clock => [revise taskId (.verifyTask actor verdict clock)]
  | .deferTask taskId actor reason deferralExpiry approvalWorkflowId now =>
    [revise taskId (.deferTask actor reason deferralExpiry approvalWorkflowId now)]
  | .acceptRisk taskId actor reason riskExpiry now => [revise taskId (.acceptRisk actor reason riskExpiry now)]
  | .checkExpiredDeferrals now => (s.expiredDeferrals call.1 now).map (fun task => revise task.id (.reopenExpired now))
  | .bulkAssign taskIds newAssigneeId actor assigneeType reason =>
    taskIds.map (fun taskId => revise taskId (.assignTask newAssigneeId actor assigneeType reason))
  | .bulkReprioritise taskIds newPriority actor reason =>
    taskIds.map (fun taskId => revise taskId (.reprioritise newPriority actor reason))
  | .bulkDefer taskIds actor reason deferralExpiry now =>
    taskIds.map (fun taskId => revise taskId (.deferTask actor reason deferralExpiry none now))
  | .bulkCloseDuplicate duplicateTaskIds canonicalTaskId actor reason now =>
    (duplicateTaskIds.filter (fun taskId => taskId ≠ canonicalTaskId)).map
      (fun taskId => revise taskId (.closeDuplicate actor reason now))
  | .checkOverdueAndEscalate now => escalations call.1 now [.open, .assigned, .inProgress, .blocked] s
  | .mirrorToItsm taskId mirrored => if mirrored then [revise taskId .mirror] else []

def trace (s : Store) : List (String × Call) → List Move
  | [] => []
  | call :: calls => s.moves call ++ trace (s.perform call) calls

def Fresh (s : Store) (call : String × Call) : Prop :=
  match call.2 with
  | .createTask taskId _ _ _ _ _ => s.tasks.lookup taskId = none
  | .createFromSource taskId _ _ _ _ _ _ _ => s.tasks.lookup taskId = none
  | _ => True

def Connected (history : List HistoryEntry) (state : TaskState) : Prop :=
  history.IsChain (fun earlier later => later.fromState = earlier.toState) ∧
    history.getLast?.map HistoryEntry.toState = some state

structure Opened (task : RemediationTask) : Prop where
  state : task.state = .open ∨ task.state = .assigned
  history : Connected task.history task.state
  deferralExpiry : task.deferralExpiry = none
  realisedSaving : task.realisedSaving = none

def Allowed (s : Store) : Move → Prop
  | .insert _ task => Opened task ∧ s.tasks.lookup task.id = none
  | .revise _ _ _ => True

def Meets (good : Operation → RemediationTask → Prop) (s : Store) : Move → Prop
  | .insert _ _ => True
  | .revise tenantId taskId operation =>
    ∀ task, s.getTask tenantId taskId = some task → operation.admits task → good operation task

def Keyed (s : Store) : Prop := ∀ id task, s.tasks.lookup id = some task → task.id = id

end Store

section Saves

variable {s : Store} {tenantId taskId id : String} {task : RemediationTask} {revision : Revision} {operation : Operation}

theorem getTask_eq_some : s.getTask tenantId id = some task ↔ s.tasks.lookup id = some task ∧ task.tenantId = tenantId := by
  simp [Store.getTask,Option.filter_eq_some_iff]

@[simp] theorem insertTask_journal : (s.insertTask tenantId task).journal =
    s.journal ++ [⟨task.id,none,task.state,.created,none⟩] := rfl

theorem lookup_insertTask : (s.insertTask tenantId task).tasks.lookup id =
    if id = task.id then some { task with tenantId := tenantId } else s.tasks.lookup id :=
  Table.lookup_overwrite s.tasks task.id id _

@[simp] theorem commit_journal : (s.commit tenantId task revision).journal = s.journal ++ [⟨revision.task.id,some task.state,
    revision.task.state,revision.cause,revision.task.history.getLast?.bind HistoryEntry.reason⟩] := by
  cases h : revision.saving <;> simp [Store.commit,h,Store.save,Store.saveSavingEntry]

@[simp] theorem commit_ledger : (s.commit tenantId task revision).ledger = s.ledger ++ revision.saving.toList := by
  cases h : revision.saving <;> simp [Store.commit,h,Store.save,Store.saveSavingEntry]

theorem commit_line (applied : operation.apply task = .ok revision) :
    (s.commit tenantId task revision).journal = s.journal ++ [(operation.effect task).change task.id task.state] := by
  rw [commit_journal,← (revises_of_ok applied).effect,← (revises_of_ok applied).id]
  rfl

theorem lookup_commit : (s.commit tenantId task revision).tasks.lookup id =
    if id = revision.task.id then some { revision.task with tenantId := tenantId } else s.tasks.lookup id := by
  have tasks : (revision.saving.elim s s.saveSavingEntry).tasks = s.tasks := by cases revision.saving <;> rfl
  unfold Store.commit Store.save
  rw [Table.lookup_overwrite,tasks]

theorem revise_cases (s : Store) (tenantId taskId : String) (operation : Operation) :
    (∃ task revision, s.getTask tenantId taskId = some task ∧ operation.apply task = .ok revision ∧
      s.step (.revise tenantId taskId operation) = s.commit tenantId task revision) ∨
    (∀ task, s.getTask tenantId taskId = some task → ¬operation.admits task) ∧ s.step (.revise tenantId taskId operation) = s := by
  cases found : s.getTask tenantId taskId with
  | none =>
    refine Or.inr ⟨?_,by simp [Store.step,Store.amend,found]⟩
    intro task held
    cases held
  | some task =>
    cases applied : operation.apply task with
    | ok revision => exact Or.inl ⟨task,revision,rfl,applied,by simp [Store.step,Store.amend,found,applied]⟩
    | error failure =>
      refine Or.inr ⟨?_,by simp [Store.step,Store.amend,found,applied]⟩
      intro other same admitted
      cases same
      obtain ⟨revision,made⟩ := ok_of_admits admitted
      rw [made] at applied
      cases applied

theorem keyed_empty : Store.empty.Keyed := by
  intro id task held
  simp [Store.empty] at held

theorem keyed_step (keyed : s.Keyed) (move : Move) : (s.step move).Keyed := by
  intro id task held
  cases move with
  | insert tenantId opened =>
    rw [Store.step,lookup_insertTask] at held
    split at held
    · rename_i same
      cases held
      exact same.symm
    · exact keyed id task held
  | revise tenantId taskId operation =>
    obtain ⟨read,revision,found,applied,saved⟩ | ⟨_,unchanged⟩ := revise_cases s tenantId taskId operation
    · rw [saved,lookup_commit] at held
      split at held
      · rename_i same
        cases held
        exact same.symm
      · exact keyed id task held
    · rw [unchanged] at held
      exact keyed id task held

end Saves

section Sample

def sampleRequest : TaskCreateRequest where
  subjectEntity := ⟨"vm-1",some "bu-1",none⟩
  category := .idleResource
  assigneeId := some "ada"
  assigneeType := "USER"
  priority := .medium
  estimatedSaving := some 100

def sampleClock : Clock := ⟨5,⟨2026,10,3,by decide,by decide,by decide,by decide⟩⟩

def sampleTask : String × Call := ("t", .createTask "rem-task-1" sampleRequest (fun _ => ⟨"queue","QUEUE"⟩) "bob" 100 1)

end Sample

section Refinement

variable {s : Store} {tenantId : String}

theorem attempts_eq_run (operation : Operation) (progress : Store × List RemediationTask) (taskIds : List String) :
    (taskIds.foldl (Store.attempt tenantId operation.apply) progress).1 =
      run Store.step progress.1 (taskIds.map (fun taskId => .revise tenantId taskId operation)) := by
  induction taskIds generalizing progress with
  | nil => rfl
  | cons taskId taskIds ih =>
    have stepped : (Store.attempt tenantId operation.apply progress taskId).1 =
        progress.1.step (.revise tenantId taskId operation) := by
      unfold Store.attempt Store.step
      split <;> simp [*]
    rw [List.foldl_cons,List.map_cons,run_cons,ih,stepped]

theorem each_eq_run (operation : Operation) (taskIds : List String) :
    (s.each tenantId taskIds operation.apply).1 = run Store.step s (taskIds.map (fun taskId => .revise tenantId taskId operation)) :=
  attempts_eq_run operation (s, []) taskIds

theorem commits_eq_run {operation : Operation} {revise : RemediationTask → Revision} {page : List RemediationTask}
    (applied : ∀ task ∈ page, operation.apply task = .ok (revise task))
    (held : ∀ task ∈ page, s.getTask tenantId task.id = some task) (distinct : (page.map RemediationTask.id).Nodup) :
    page.foldl (fun current task => current.commit tenantId task (revise task)) s =
      run Store.step s (page.map (fun task => .revise tenantId task.id operation)) := by
  induction page generalizing s with
  | nil => rfl
  | cons task page ih =>
    rw [List.map_cons,List.nodup_cons] at distinct
    have first := applied task (List.mem_cons_self ..)
    have stepped : s.step (.revise tenantId task.id operation) = s.commit tenantId task (revise task) := by
      rw [Store.step,Store.amend,held task (List.mem_cons_self ..)]
      simp only [first]
    rw [List.foldl_cons,List.map_cons,run_cons,stepped]
    apply ih (fun other member => applied other (List.mem_cons_of_mem task member)) _ distinct.2
    intro other member
    have apart : other.id ≠ (revise task).task.id := by
      rw [(revises_of_ok first).id]
      intro same
      exact distinct.1 (same ▸ List.mem_map_of_mem member)
    have before := held other (List.mem_cons_of_mem task member)
    rw [getTask_eq_some] at before ⊢
    rw [lookup_commit,if_neg apart]
    exact before

theorem mem_listTasks {state : TaskState} {limit : ℕ} {task : RemediationTask} (member : task ∈ s.listTasks tenantId state limit) :
    ∃ id, s.tasks.lookup id = some task ∧ task.tenantId = tenantId ∧ task.state = state := by
  have listed := List.mem_of_mem_take member
  rw [List.mem_insertionSort,List.mem_map] at listed
  obtain ⟨⟨id,row⟩,selected,rfl⟩ := listed
  obtain ⟨held,wanted⟩ := Table.mem_selectWhere.mp selected
  simp only [Bool.and_eq_true,decide_eq_true_eq] at wanted
  exact ⟨id,held,wanted⟩

theorem held_of_listed (keyed : s.Keyed) {state : TaskState} {limit : ℕ} {task : RemediationTask}
    (member : task ∈ s.listTasks tenantId state limit) : s.getTask tenantId task.id = some task ∧ task.state = state := by
  obtain ⟨id,held,owned,inState⟩ := mem_listTasks member
  have same := keyed id task held
  subst same
  exact ⟨getTask_eq_some.mpr ⟨held,owned⟩,inState⟩

theorem listed_distinct (keyed : s.Keyed) (state : TaskState) (limit : ℕ) :
    ((s.listTasks tenantId state limit).map RemediationTask.id).Nodup := by
  unfold Store.listTasks
  rw [List.map_take]
  apply List.Nodup.sublist (List.take_sublist limit _)
  apply ((List.perm_insertionSort _ _).map RemediationTask.id).nodup_iff.mpr
  rw [List.map_map]
  have keys : (s.tasks.selectWhere (fun _ task => task.tenantId = tenantId && task.state = state)).map
      (RemediationTask.id ∘ Sigma.snd) =
      (s.tasks.selectWhere (fun _ task => task.tenantId = tenantId && task.state = state)).map Sigma.fst := by
    apply List.map_congr_left
    rintro ⟨id,task⟩ selected
    exact keyed id task (Table.mem_selectWhere.mp selected).1
  rw [keys]
  exact s.tasks.nodupKeys.sublist List.filter_sublist

theorem keyed_run (keyed : s.Keyed) (moves : List Move) : (run Store.step s moves).Keyed := by
  have keeps : ∀ (t : Store) (move : Move), t.Keyed → (t.step move).Keyed := fun _ move before => keyed_step before move
  exact run_invariant keeps moves keyed

theorem expired_eq_run (keyed : s.Keyed) (now : Instant) : (s.checkExpiredDeferrals tenantId now).1 =
    run Store.step s ((s.expiredDeferrals tenantId now).map (fun task => .revise tenantId task.id (.reopenExpired now))) := by
  apply commits_eq_run
  · intro task member
    obtain ⟨listed,expired⟩ := List.mem_filter.mp member
    simp [Operation.apply,(held_of_listed keyed listed).2,expired]
  · intro task member
    exact (held_of_listed keyed (List.mem_filter.mp member).1).1
  · exact (listed_distinct keyed .deferred 500).sublist (List.filter_sublist.map RemediationTask.id)

theorem escalateState_eq_run (keyed : s.Keyed) (now : Instant) (state : TaskState) : s.escalateState tenantId now state =
    run Store.step s ((s.overdue tenantId now state).map (fun task => .revise tenantId task.id .escalate)) := by
  apply commits_eq_run
  · intro task member
    rfl
  · intro task member
    exact (held_of_listed keyed (List.mem_filter.mp member).1).1
  · exact (listed_distinct keyed state 500).sublist (List.filter_sublist.map RemediationTask.id)

theorem escalations_eq_run (keyed : s.Keyed) (now : Instant) (states : List TaskState) :
    states.foldl (fun current state => current.escalateState tenantId now state) s =
      run Store.step s (Store.escalations tenantId now states s) := by
  induction states generalizing s with
  | nil => rfl
  | cons state states ih =>
    have first : s.escalateState tenantId now state = _ := escalateState_eq_run keyed now state
    have kept : (s.escalateState tenantId now state).Keyed := by
      rw [first]
      exact keyed_run keyed _
    rw [List.foldl_cons,Store.escalations,run_append,← first]
    exact ih kept

theorem resolve_eq_run (taskId actor : String) (verdict : Option Bool) (clock : Clock) :
    (s.resolveTask tenantId taskId actor verdict clock).1 =
      run Store.step s (s.moves (tenantId, .resolveTask taskId actor verdict clock)) := by
  unfold Store.resolveTask Store.moves
  cases outcome : s.amend tenantId taskId (Operation.markResolved actor).apply with
  | mk after answer =>
    have same : s.amend tenantId taskId (fun task => task.markResolved actor) = (after, answer) := outcome
    have marked : s.step (.revise tenantId taskId (.markResolved actor)) = after := by rw [Store.step,outcome]
    cases answer with
    | ok task =>
      simp only [outcome,same,run_cons,run_nil,marked]
      rfl
    | error failure => simp only [outcome,same,run_nil]

theorem perform_eq_run (keyed : s.Keyed) (call : String × Call) : s.perform call = run Store.step s (s.moves call) := by
  obtain ⟨tenantId,call⟩ := call
  cases call with
  | createTask taskId req resolve actor dueDate now => rfl
  | createFromSource taskId rule subject priority estimatedSaving assignee dueDate now =>
    cases rule with
    | none => rfl
    | some rule =>
      unfold Store.perform Store.createFromSource Store.moves
      dsimp only
      split <;> rfl
  | transitionState taskId toState actor reason => rfl
  | assignTask taskId assigneeId actor assigneeType reason => rfl
  | resolveTask taskId actor verdict clock => exact resolve_eq_run taskId actor verdict clock
  | verifyTask taskId actor verdict clock => rfl
  | deferTask taskId actor reason deferralExpiry approvalWorkflowId now => rfl
  | acceptRisk taskId actor reason riskExpiry now => rfl
  | checkExpiredDeferrals now => exact expired_eq_run keyed now
  | bulkAssign taskIds newAssigneeId actor assigneeType reason =>
    exact each_eq_run (.assignTask newAssigneeId actor assigneeType reason) taskIds
  | bulkReprioritise taskIds newPriority actor reason => exact each_eq_run (.reprioritise newPriority actor reason) taskIds
  | bulkDefer taskIds actor reason deferralExpiry now =>
    exact each_eq_run (.deferTask actor reason deferralExpiry none now) taskIds
  | bulkCloseDuplicate duplicateTaskIds canonicalTaskId actor reason now =>
    exact each_eq_run (.closeDuplicate actor reason now) _
  | checkOverdueAndEscalate now => exact escalations_eq_run keyed now _
  | mirrorToItsm taskId mirrored => cases mirrored <;> rfl

theorem performs_eq_run (keyed : s.Keyed) (calls : List (String × Call)) :
    run Store.perform s calls = run Store.step s (s.trace calls) := by
  induction calls generalizing s with
  | nil => rfl
  | cons call calls ih =>
    have first := perform_eq_run keyed call
    have kept : (s.perform call).Keyed := by
      rw [first]
      exact keyed_run keyed _
    rw [run_cons,Store.trace,run_append,← first]
    exact ih kept

/-- A deferral that ends before the sweep. -/
def deferredRun : List (String × Call) :=
  [sampleTask, ("t", .deferTask "rem-task-1" "bob" "change freeze" 3 none 2), ("t", .checkExpiredDeferrals 4)]

theorem performs_eq_run_sweep :
    run Store.perform Store.empty deferredRun = run Store.step Store.empty (Store.empty.trace deferredRun) ∧
      (Store.empty.trace deferredRun).length = 3 :=
  ⟨performs_eq_run keyed_empty _,by decide +kernel⟩

end Refinement

section Throughout

variable {s : Store}

theorem requestedTask_opened (tenantId taskId : String) (req : TaskCreateRequest) (resolve : SubjectEntity → Resolution)
    (actor : String) (dueDate now : Instant) :
    Store.Opened (Store.requestedTask tenantId taskId req resolve actor dueDate now) := by
  refine ⟨?_,⟨List.isChain_singleton _,rfl⟩,rfl,rfl⟩
  change Store.initialState _ = _ ∨ Store.initialState _ = _
  unfold Store.initialState
  split
  · exact Or.inl rfl
  · exact Or.inr rfl

theorem detectedTask_opened (tenantId taskId : String) (rule : TaskCreationRule) (subject : SubjectEntity)
    (priority : Option TaskPriority) (estimatedSaving : Option ℚ) (assignee : Resolution) (dueDate now : Instant) :
    Store.Opened (Store.detectedTask tenantId taskId rule subject priority estimatedSaving assignee dueDate now) := by
  refine ⟨Or.inr rfl,⟨?_,rfl⟩,rfl,rfl⟩
  exact List.isChain_pair.mpr rfl

theorem escalations_revise (tenantId : String) (now : Instant) (states : List TaskState) :
    ∀ move ∈ Store.escalations tenantId now states s, ∃ taskId, move = .revise tenantId taskId .escalate := by
  induction states generalizing s with
  | nil => exact fun move member => absurd member List.not_mem_nil
  | cons state states ih =>
    intro move member
    obtain first | later := List.mem_append.mp member
    · obtain ⟨task,_,rfl⟩ := List.mem_map.mp first
      exact ⟨task.id,rfl⟩
    · exact ih move later

theorem moves_allowed (call : String × Call) (fresh : s.Fresh call) : Along Store.step Store.Allowed s (s.moves call) := by
  obtain ⟨tenantId,call⟩ := call
  have revisions : ∀ moves : List Move, (∀ move ∈ moves, ∃ taskId operation, move = .revise tenantId taskId operation) →
      Along Store.step Store.Allowed s moves := by
    intro moves all
    apply along_of_forall
    intro move member t
    obtain ⟨taskId,operation,rfl⟩ := all move member
    trivial
  have repeated : ∀ {α : Type} (items : List α) (key : α → String) (operation : Operation),
      Along Store.step Store.Allowed s (items.map (fun item => .revise tenantId (key item) operation)) := by
    intro α items key operation
    apply revisions
    intro move member
    obtain ⟨item,_,rfl⟩ := List.mem_map.mp member
    exact ⟨key item,operation,rfl⟩
  cases call with
  | createTask taskId req resolve actor dueDate now =>
    exact ⟨⟨requestedTask_opened tenantId taskId req resolve actor dueDate now,fresh⟩,trivial⟩
  | createFromSource taskId rule subject priority estimatedSaving assignee dueDate now =>
    cases rule with
    | none => trivial
    | some rule =>
      unfold Store.moves
      dsimp only
      split
      · exact ⟨⟨detectedTask_opened tenantId taskId rule subject priority estimatedSaving assignee dueDate now,fresh⟩,trivial⟩
      · trivial
  | transitionState taskId toState actor reason => exact ⟨trivial,trivial⟩
  | assignTask taskId assigneeId actor assigneeType reason => exact ⟨trivial,trivial⟩
  | resolveTask taskId actor verdict clock =>
    unfold Store.moves
    dsimp only
    split
    · exact ⟨trivial,trivial,trivial⟩
    · trivial
  | verifyTask taskId actor verdict clock => exact ⟨trivial,trivial⟩
  | deferTask taskId actor reason deferralExpiry approvalWorkflowId now => exact ⟨trivial,trivial⟩
  | acceptRisk taskId actor reason riskExpiry now => exact ⟨trivial,trivial⟩
  | checkExpiredDeferrals now => exact repeated _ RemediationTask.id _
  | bulkAssign taskIds newAssigneeId actor assigneeType reason => exact repeated _ id _
  | bulkReprioritise taskIds newPriority actor reason => exact repeated _ id _
  | bulkDefer taskIds actor reason deferralExpiry now => exact repeated _ id _
  | bulkCloseDuplicate duplicateTaskIds canonicalTaskId actor reason now => exact repeated _ id _
  | checkOverdueAndEscalate now =>
    apply revisions
    intro move member
    obtain ⟨taskId,rfl⟩ := escalations_revise tenantId now _ move member
    exact ⟨taskId,.escalate,rfl⟩
  | mirrorToItsm taskId mirrored =>
    cases mirrored
    · trivial
    · exact ⟨trivial,trivial⟩

theorem trace_allowed (keyed : s.Keyed) {calls : List (String × Call)} (fresh : Along Store.perform Store.Fresh s calls) :
    Along Store.step Store.Allowed s (s.trace calls) := by
  induction calls generalizing s with
  | nil => trivial
  | cons call calls ih =>
    have first := perform_eq_run keyed call
    have kept : (s.perform call).Keyed := by
      rw [first]
      exact keyed_run keyed _
    rw [Store.trace,along_append,← first]
    exact ⟨moves_allowed call fresh.1,ih kept fresh.2⟩

/-- Where a revision keeps a property exactly when its operation suits the task, the property
holds after every save exactly when all revisions suit their tasks. -/
theorem throughout_iff {property : Store → Prop} {good : Operation → RemediationTask → Prop} (invariant : Store → Prop)
    (start : invariant Store.empty) (holds : property Store.empty)
    (inserted : ∀ (s : Store) tenantId task, Store.Opened task → s.tasks.lookup task.id = none → s.Keyed → invariant s →
      invariant (s.insertTask tenantId task) ∧ (property s → property (s.insertTask tenantId task)))
    (revised : ∀ (s : Store) tenantId task operation revision, s.getTask tenantId task.id = some task → operation.apply task = .ok revision →
      s.Keyed → invariant s → invariant (s.commit tenantId task revision) ∧
        (property s → (property (s.commit tenantId task revision) ↔ good operation task)))
    {calls : List (String × Call)} (fresh : Along Store.perform Store.Fresh Store.empty calls) :
    (∀ done, done <+: Store.empty.trace calls → property (run Store.step Store.empty done)) ↔
      Along Store.step (Store.Meets good) Store.empty (Store.empty.trace calls) := by
  refine property_throughout_iff (fun s => s.Keyed ∧ invariant s) ?_ ?_ ⟨keyed_empty,start⟩ holds (trace_allowed keyed_empty fresh)
  · rintro s (⟨tenantId,task⟩ | ⟨tenantId,taskId,operation⟩) ⟨keyed,kept⟩ before allowed
    · have after := (inserted s tenantId task allowed.1 allowed.2 keyed kept).2 before
      exact iff_of_true after trivial
    · obtain ⟨task,revision,found,applied,saved⟩ | ⟨refused,unchanged⟩ := revise_cases s tenantId taskId operation
      · have same := keyed taskId task (getTask_eq_some.mp found).1
        subst same
        rw [saved,(revised s tenantId task operation revision found applied keyed kept).2 before]
        constructor
        · intro suits other again _
          rw [found] at again
          cases again
          exact suits
        · intro meets
          exact meets task found (admits_of_ok applied)
      · rw [unchanged]
        exact iff_of_true before (fun task found admitted => absurd admitted (refused task found))
  · rintro s move ⟨keyed,kept⟩ allowed
    refine ⟨keyed_step keyed move,?_⟩
    cases move with
    | insert tenantId task => exact (inserted s tenantId task allowed.1 allowed.2 keyed kept).1
    | revise tenantId taskId operation =>
      obtain ⟨task,revision,found,applied,saved⟩ | ⟨_,unchanged⟩ := revise_cases s tenantId taskId operation
      · have same := keyed taskId task (getTask_eq_some.mp found).1
        subst same
        rw [saved]
        exact (revised s tenantId task operation revision found applied keyed kept).1
      · rw [unchanged]
        exact kept

theorem meets_of_state {good : Operation → RemediationTask → Prop} {tenantId taskId : String} {operation : Operation}
    (state : TaskState) (shown : (s.getTask tenantId taskId).map RemediationTask.state = some state)
    (suits : ∀ task, task.state = state → good operation task) : s.Meets good (.revise tenantId taskId operation) := by
  intro task found _
  rw [found,Option.map_some,Option.some.injEq] at shown
  exact suits task shown

end Throughout

end CloudLens.Remediation
