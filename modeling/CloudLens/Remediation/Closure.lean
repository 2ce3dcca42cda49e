import CloudLens.Remediation.Moves

/-! On whose word a task is closed. The journal is cut at the last change that created the
task or took it out of CLOSED; what closes the task has to stand after that cut. -/
namespace CloudLens.Remediation
open Library Library.Runs

def Change.reopens (change : Change) : Bool := change.fromState.all (fun before => before = .closed && change.toState ≠ .closed)

/-- The verifier found the condition cleared, or the risk was accepted with a reason. -/
def Change.Justifies (change : Change) : Prop :=
  change.cause = .cleared ∨ change.cause = .riskAccepted ∧ ∃ reason ∈ change.reason, ¬blank reason

def Store.sinceOpened (s : Store) (id : String) : List Change := since Change.taskId Change.reopens s.journal id

structure Accountable (s : Store) : Prop where
  closed : ∀ id task, s.tasks.lookup id = some task → task.state = .closed → ∃ change ∈ s.sinceOpened id, change.Justifies
  absorbing : ∀ change ∈ s.journal, ∀ before ∈ change.fromState, before = .rejected ∨ before = .duplicate →
    change.toState = before
  edges : ∀ change ∈ s.journal, ∀ before ∈ change.fromState, change.toState ≠ before → ¬change.Justifies →
    change.toState ∈ validTransitions before
  history : ∀ id task, s.tasks.lookup id = some task → Store.Connected task.history task.state

def Operation.answers : Operation → RemediationTask → Prop
  | .transitionState toState _ _, _ => toState ≠ .closed
  | .markResolved _, task => task.state = .awaitingVerification ∨ .awaitingVerification ∈ validTransitions task.state
  | .verifyTask _ (some true) _, task => task.state ≠ .rejected ∧ task.state ≠ .duplicate
  | .verifyTask _ _ _, task => task.state = .open ∨ .open ∈ validTransitions task.state
  | .deferTask _ _ _ _ _, task => task.state = .deferred ∨ .deferred ∈ validTransitions task.state
  | .acceptRisk _ _ _ _, task => task.state ≠ .rejected ∧ task.state ≠ .duplicate
  | .closeDuplicate _ _ _, task => task.state = .duplicate ∨ .duplicate ∈ validTransitions task.state
  | .assignTask _ _ _ _, _ => True
  | .reopenExpired _, _ => True
  | .reprioritise _ _ _, _ => True
  | .escalate, _ => True
  | .mirror, _ => True

/-- A change that leaves no closure unanswered for, no absorbing state, and no other way than the table's. -/
structure Lawful (before toState : TaskState) (justified : Prop) : Prop where
  closed : toState = .closed → before = .closed ∨ justified
  absorbing : before = .rejected ∨ before = .duplicate → toState = before
  edges : toState ≠ before → ¬justified → toState ∈ validTransitions before

theorem lawful_same (state : TaskState) (justified : Prop) : Lawful state state justified :=
  ⟨Or.inl,fun _ => rfl,fun moved => absurd rfl moved⟩

theorem lawful_unjustified {before toState : TaskState} {justified : Prop} (open_ended : toState ≠ .closed) (plain : ¬justified) :
    Lawful before toState justified ↔ before = toState ∨ toState ∈ validTransitions before := by
  constructor
  · intro lawful
    by_cases same : before = toState
    · exact Or.inl same
    · exact Or.inr (lawful.edges (Ne.symm same) plain)
  · rintro (rfl | edge)
    · exact lawful_same before justified
    · refine ⟨fun closed => absurd closed open_ended,?_,fun _ _ => edge⟩
      rintro (rfl | rfl) <;> cases edge

theorem lawful_closure {before : TaskState} {justified : Prop} (holds : justified) :
    Lawful before .closed justified ↔ before ≠ .rejected ∧ before ≠ .duplicate := by
  constructor
  · intro lawful
    constructor
    · rintro rfl
      cases lawful.absorbing (Or.inl rfl)
    · rintro rfl
      cases lawful.absorbing (Or.inr rfl)
  · rintro ⟨unrejected,single⟩
    refine ⟨fun _ => Or.inr holds,?_,fun _ plain => absurd holds plain⟩
    rintro (rejected | duplicate)
    · exact absurd rejected unrejected
    · exact absurd duplicate single

section Revised

variable {s : Store} {tenantId id : String} {task : RemediationTask} {operation : Operation} {revision : Revision}

theorem unjustified (operation : Operation) (task : RemediationTask) (uncleared : (operation.effect task).cause ≠ .cleared)
    (unaccepted : (operation.effect task).cause ≠ .riskAccepted) :
    ¬((operation.effect task).change task.id task.state).Justifies := by
  rintro (cleared | ⟨accepted,_⟩)
  · exact uncleared cleared
  · exact unaccepted accepted

theorem lawful_iff_answers (admitted : operation.admits task) :
    Lawful task.state (operation.effect task).state ((operation.effect task).change task.id task.state).Justifies ↔
      operation.answers task := by
  cases operation with
  | transitionState toState actor reason =>
    have plain := unjustified (.transitionState toState actor reason) task (by rintro ⟨⟩) (by rintro ⟨⟩)
    constructor
    · rintro lawful rfl
      obtain already | justified := lawful.closed rfl
      · change _ ∈ validTransitions task.state at admitted
        rw [already] at admitted
        exact absurd admitted (by decide)
      · exact plain justified
    · intro other
      exact (lawful_unjustified other plain).mpr (Or.inr admitted)
  | assignTask assigneeId actor assigneeType reason =>
    apply iff_of_true _ trivial
    simp only [Operation.effect]
    split
    · rename_i unassigned
      rw [unassigned]
      have plain := unjustified (.assignTask assigneeId actor assigneeType reason) task (by rintro ⟨⟩) (by rintro ⟨⟩)
      exact (lawful_unjustified (by decide) plain).mpr (Or.inr (by decide))
    · exact lawful_same _ _
  | markResolved actor =>
    exact lawful_unjustified (by rintro ⟨⟩) (unjustified (.markResolved actor) task (by rintro ⟨⟩) (by rintro ⟨⟩))
  | verifyTask actor verdict clock =>
    obtain _ | _ | _ := verdict
    · exact absurd rfl admitted
    · have plain := unjustified (.verifyTask actor (some false) clock) task (by rintro ⟨⟩) (by rintro ⟨⟩)
      exact lawful_unjustified (by rintro ⟨⟩) plain
    · exact lawful_closure (Or.inl rfl)
  | deferTask actor reason deferralExpiry approvalWorkflowId now =>
    have plain := unjustified (.deferTask actor reason deferralExpiry approvalWorkflowId now) task (by rintro ⟨⟩) (by rintro ⟨⟩)
    exact lawful_unjustified (by rintro ⟨⟩) plain
  | acceptRisk actor reason riskExpiry now =>
    refine lawful_closure (Or.inr ⟨rfl,Text.stripped reason,rfl,?_⟩)
    rw [blank_stripped]
    exact admitted
  | reopenExpired now =>
    apply iff_of_true _ trivial
    have plain := unjustified (.reopenExpired now) task (by rintro ⟨⟩) (by rintro ⟨⟩)
    rw [admitted.1] at plain ⊢
    refine (lawful_unjustified ?_ plain).mpr (Or.inr (List.mem_cons_self ..))
    rintro ⟨⟩
  | reprioritise newPriority actor reason => exact iff_of_true (lawful_same _ _) trivial
  | closeDuplicate actor reason now =>
    have plain := unjustified (.closeDuplicate actor reason now) task (by rintro ⟨⟩) (by rintro ⟨⟩)
    exact lawful_unjustified (by rintro ⟨⟩) plain
  | escalate => exact iff_of_true (lawful_same _ _) trivial
  | mirror => exact iff_of_true (lawful_same _ _) trivial

theorem since_commit_other (applied : operation.apply task = .ok revision) (other : id ≠ task.id) :
    (s.commit tenantId task revision).sinceOpened id = s.sinceOpened id := by
  unfold Store.sinceOpened
  rw [commit_line applied]
  exact since_other other

theorem since_commit_self (applied : operation.apply task = .ok revision) :
    (s.commit tenantId task revision).sinceOpened task.id =
      if task.state = .closed ∧ (operation.effect task).state ≠ .closed then []
      else s.sinceOpened task.id ++ [(operation.effect task).change task.id task.state] := by
  unfold Store.sinceOpened
  rw [commit_line applied]
  split
  · rename_i reopened
    exact since_opened (by simp [Change.reopens,Effect.change,reopened])
  · rename_i kept
    rw [not_and_or,not_not] at kept
    apply since_kept
    obtain active | closed := kept
    · simp [Change.reopens,Effect.change,active]
    · simp [Change.reopens,Effect.change,closed]

theorem connected_revised (applied : operation.apply task = .ok revision) (before : Store.Connected task.history task.state) :
    Store.Connected revision.task.history revision.task.state := by
  obtain ⟨entry,history,fromState,toState⟩ := (revises_of_ok applied).history
  rw [history]
  refine ⟨?_,by rw [List.getLast?_concat,Option.map_some,toState]⟩
  rw [List.isChain_append]
  refine ⟨before.1,List.isChain_singleton entry,?_⟩
  intro last atEnd first atStart
  have ended := before.2
  rw [Option.mem_def.mp atEnd,Option.map_some,Option.some.injEq] at ended
  have same : entry = first := by simpa using atStart
  rw [← same,fromState,ended]

/-- A journal names a justified closure only of tasks that are still closed. -/
structure Answered (s : Store) : Prop where
  history : ∀ id task, s.tasks.lookup id = some task → Store.Connected task.history task.state
  closed : ∀ id task, s.tasks.lookup id = some task → (∃ change ∈ s.sinceOpened id, change.Justifies) → task.state = .closed

theorem closed_of_justifies (justified : ((operation.effect task).change task.id task.state).Justifies) :
    (operation.effect task).state = .closed := by
  by_contra active
  refine unjustified operation task ?_ ?_ justified
  all_goals
    cases operation with
    | verifyTask actor verdict clock =>
      obtain _ | _ | _ := verdict
      · rintro ⟨⟩
      · rintro ⟨⟩
      · exact absurd rfl active
    | acceptRisk actor reason riskExpiry now => exact absurd rfl active
    | _ => rintro ⟨⟩

theorem answered_revised (found : s.getTask tenantId task.id = some task) (applied : operation.apply task = .ok revision)
    (answered : Answered s) : Answered (s.commit tenantId task revision) := by
  have revises := revises_of_ok applied
  have held := (getTask_eq_some.mp found).1
  have state : revision.task.state = (operation.effect task).state := congrArg Effect.state revises.effect
  refine ⟨?_,?_⟩
  · intro id stored lookup
    rw [lookup_commit,revises.id] at lookup
    split at lookup
    · cases lookup
      exact connected_revised applied (answered.history task.id task held)
    · exact answered.history id stored lookup
  · intro id stored lookup closure
    rw [lookup_commit,revises.id] at lookup
    split at lookup
    · rename_i same
      subst same
      cases lookup
      change revision.task.state = .closed
      rw [state]
      rw [since_commit_self applied] at closure
      split at closure
      · simp at closure
      · rename_i kept
        obtain ⟨change,member,justified⟩ := closure
        obtain earlier | latest := List.mem_append.mp member
        · have before := answered.closed task.id task held ⟨change,earlier,justified⟩
          by_contra active
          exact kept ⟨before,active⟩
        · rw [List.mem_singleton.mp latest] at justified
          exact closed_of_justifies justified
    · rename_i other
      rw [since_commit_other applied other] at closure
      exact answered.closed id stored lookup closure

theorem accountable_revised (found : s.getTask tenantId task.id = some task) (applied : operation.apply task = .ok revision)
    (answered : Answered s) (accountable : Accountable s) :
    Accountable (s.commit tenantId task revision) ↔ operation.answers task := by
  have revises := revises_of_ok applied
  have held := (getTask_eq_some.mp found).1
  have state : revision.task.state = (operation.effect task).state := congrArg Effect.state revises.effect
  have after : (s.commit tenantId task revision).tasks.lookup task.id = some { revision.task with tenantId := tenantId } := by
    rw [lookup_commit,revises.id,if_pos rfl]
  rw [← lawful_iff_answers (admits_of_ok applied)]
  constructor
  · intro kept
    have added : (operation.effect task).change task.id task.state ∈ (s.commit tenantId task revision).journal := by
      rw [commit_line applied]
      simp
    refine ⟨?_,kept.absorbing _ added task.state rfl,kept.edges _ added task.state rfl⟩
    intro closed
    obtain ⟨change,member,justified⟩ := kept.closed task.id _ after (state.trans closed)
    rw [since_commit_self applied,if_neg (fun reopened => reopened.2 closed)] at member
    obtain earlier | latest := List.mem_append.mp member
    · exact Or.inl (answered.closed task.id task held ⟨change,earlier,justified⟩)
    · rw [List.mem_singleton.mp latest] at justified
      exact Or.inr justified
  · intro lawful
    refine ⟨?_,?_,?_,(answered_revised found applied answered).history⟩
    · intro id stored lookup closed
      rw [lookup_commit,revises.id] at lookup
      split at lookup
      · rename_i same
        subst same
        cases lookup
        have closed : (operation.effect task).state = .closed := state.symm.trans closed
        rw [since_commit_self applied,if_neg (fun reopened => reopened.2 closed)]
        obtain before | justified := lawful.closed closed
        · obtain ⟨change,member,justified⟩ := accountable.closed task.id task held before
          exact ⟨change,List.mem_append_left _ member,justified⟩
        · exact ⟨_,List.mem_append_right _ (List.mem_singleton_self _),justified⟩
      · rename_i other
        rw [since_commit_other applied other]
        exact accountable.closed id stored lookup closed
    · rw [commit_line applied]
      intro change member before from_before
      obtain earlier | latest := List.mem_append.mp member
      · exact accountable.absorbing change earlier before from_before
      · cases List.mem_singleton.mp latest
        cases from_before
        exact lawful.absorbing
    · rw [commit_line applied]
      intro change member before from_before
      obtain earlier | latest := List.mem_append.mp member
      · exact accountable.edges change earlier before from_before
      · cases List.mem_singleton.mp latest
        cases from_before
        exact lawful.edges

end Revised

section Inserted

variable {s : Store} {tenantId : String} {task : RemediationTask}

theorem since_insert_other {id : String} (other : id ≠ task.id) :
    (s.insertTask tenantId task).sinceOpened id = s.sinceOpened id := by
  unfold Store.sinceOpened
  rw [insertTask_journal]
  exact since_other other

theorem since_insert_self : (s.insertTask tenantId task).sinceOpened task.id = [] := by
  unfold Store.sinceOpened
  rw [insertTask_journal]
  exact since_opened rfl

theorem answered_inserted (opened : Store.Opened task) (answered : Answered s) : Answered (s.insertTask tenantId task) := by
  refine ⟨?_,?_⟩
  · intro id stored lookup
    rw [lookup_insertTask] at lookup
    split at lookup
    · cases lookup
      exact opened.history
    · exact answered.history id stored lookup
  · intro id stored lookup closure
    rw [lookup_insertTask] at lookup
    split at lookup
    · rename_i same
      subst same
      rw [since_insert_self] at closure
      simp at closure
    · rename_i other
      rw [since_insert_other other] at closure
      exact answered.closed id stored lookup closure

theorem accountable_inserted (opened : Store.Opened task) (answered : Answered s) (accountable : Accountable s) :
    Accountable (s.insertTask tenantId task) := by
  refine ⟨?_,?_,?_,(answered_inserted opened answered).history⟩
  · intro id stored lookup closed
    rw [lookup_insertTask] at lookup
    split at lookup
    · cases lookup
      change task.state = .closed at closed
      obtain unassigned | assigned := opened.state
      · rw [unassigned] at closed
        cases closed
      · rw [assigned] at closed
        cases closed
    · rename_i other
      rw [since_insert_other other]
      exact accountable.closed id stored lookup closed
  · intro change member before from_before
    obtain earlier | latest := List.mem_append.mp member
    · exact accountable.absorbing change earlier before from_before
    · cases List.mem_singleton.mp latest
      cases from_before
  · intro change member before from_before
    obtain earlier | latest := List.mem_append.mp member
    · exact accountable.edges change earlier before from_before
    · cases List.mem_singleton.mp latest
      cases from_before

end Inserted

/-- Every closure is answered for, in every store that a run of calls leaves, exactly when no
operation that sets the state by itself finds the task where the table does not lead from and
no task is moved to CLOSED by hand. -/
theorem closures_accountable_iff {calls : List (String × Call)} (fresh : Along Store.perform Store.Fresh Store.empty calls) :
    (∀ done, done <+: Store.empty.trace calls → Accountable (run Store.step Store.empty done)) ↔
      Along Store.step (Store.Meets Operation.answers) Store.empty (Store.empty.trace calls) := by
  have nothing : ∀ id (task : RemediationTask), Store.empty.tasks.lookup id ≠ some task := by simp [Store.empty]
  apply throughout_iff Answered _ _ _ _ fresh
  · exact ⟨fun id task held => absurd held (nothing id task),fun id task held => absurd held (nothing id task)⟩
  · exact ⟨fun id task held => absurd held (nothing id task),fun _ member => absurd member List.not_mem_nil,
      fun _ member => absurd member List.not_mem_nil,fun id task held => absurd held (nothing id task)⟩
  · intro s tenantId task opened _ _ answered
    exact ⟨answered_inserted opened answered,accountable_inserted opened answered⟩
  · intro s tenantId task operation revision found applied _ answered
    exact ⟨answered_revised found applied answered,accountable_revised found applied answered⟩

section Word

def verifiedWork : List (String × Call) :=
  [sampleTask, ("t", .transitionState "rem-task-1" .inProgress "ada" none),
    ("t", .resolveTask "rem-task-1" "ada" (some true) sampleClock)]

theorem verifiedWork_accountable : Accountable (run Store.step Store.empty (Store.empty.trace verifiedWork)) := by
  have fresh : Along Store.perform Store.Fresh Store.empty verifiedWork := ⟨rfl,trivial,trivial,trivial⟩
  refine (closures_accountable_iff fresh).mpr ?_ _ (List.prefix_refl _)
  have moves : Store.empty.trace verifiedWork =
      [.insert "t" (Store.requestedTask "t" "rem-task-1" sampleRequest (fun _ => ⟨"queue","QUEUE"⟩) "bob" 100 1),
        .revise "t" "rem-task-1" (.transitionState .inProgress "ada" none), .revise "t" "rem-task-1" (.markResolved "ada"),
        .revise "t" "rem-task-1" (.verifyTask "ada" (some true) sampleClock)] := rfl
  rw [moves]
  refine ⟨trivial,?_,?_,?_,trivial⟩
  · exact meets_of_state .assigned (by decide +kernel) (fun _ _ => nofun)
  · refine meets_of_state .inProgress (by decide +kernel) ?_
    intro task at_work
    refine Or.inr ?_
    rw [at_work]
    decide
  · refine meets_of_state .awaitingVerification (by decide +kernel) ?_
    intro task pending
    exact ⟨by rw [pending]; decide,by rw [pending]; decide⟩

def ownWord : List (String × Call) :=
  [sampleTask, ("t", .transitionState "rem-task-1" .resolved "ada" none), ("t", .transitionState "rem-task-1" .closed "ada" none)]

theorem ownWord_closes : ¬∀ calls : List (String × Call), Along Store.perform Store.Fresh Store.empty calls →
    ∀ done, done <+: Store.empty.trace calls → Accountable (run Store.step Store.empty done) := by
  intro always
  have accountable := always ownWord ⟨rfl,trivial,trivial,trivial⟩ _ (List.prefix_refl _)
  have closed : ((run Store.step Store.empty (Store.empty.trace ownWord)).tasks.lookup "rem-task-1").map
      RemediationTask.state = some .closed := by decide +kernel
  have unverified : ∀ change ∈ (run Store.step Store.empty (Store.empty.trace ownWord)).sinceOpened "rem-task-1",
      change.cause = .statusChanged := by decide +kernel
  obtain ⟨task,held,state⟩ := Option.map_eq_some_iff.mp closed
  obtain ⟨change,member,cleared | ⟨accepted,_⟩⟩ := accountable.closed "rem-task-1" task held state
  · rw [unverified change member] at cleared
    cases cleared
  · rw [unverified change member] at accepted
    cases accepted

end Word
end CloudLens.Remediation
