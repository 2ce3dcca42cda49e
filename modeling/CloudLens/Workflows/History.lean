import CloudLens.Workflows.StageDiscipline
import CloudLens.Library.Interleaving
import CloudLens.Library.Trail

/-! The history of a workflow request as a trail. An entry names its states or
takes the state of the request at the time it is added; either way it leaves
the state the history has reached. This is shown for runs of whole operations
and for operations that interleave between reading, computing and saving. -/
namespace CloudLens.Workflows
open Library Library.Runs Library.Interleaving Library.Trail
open Library.Calendar (Instant)

def replayed (history : List WorkflowHistoryEntry) : Option WorkflowState :=
  replay WorkflowHistoryEntry.previousState WorkflowHistoryEntry.newState .submitted history

/-- The history starts with the submission and leads through states that meet
to the state of the request. -/
structure ReplaysToState (request : WorkflowRequest) : Prop where
  connected : request.history.IsChain (fun earlier later => earlier.newState = later.previousState)
  first : ∃ entry rest, request.history = entry :: rest ∧ entry.action = "SUBMIT" ∧
    entry.previousState = .submitted ∧ entry.newState = .submitted
  last : request.history.getLast?.map WorkflowHistoryEntry.newState = some request.state
  replays : replayed request.history = some request.state

structure Traced (request : WorkflowRequest) : Prop where
  replays : replayed request.history = some request.state
  submitted : ∃ entry rest, request.history = entry :: rest ∧ entry.action = "SUBMIT" ∧ entry.newState = .submitted

def Reviewed (request : WorkflowRequest) : Prop :=
  request.state.isFinalised = false → request.state = .inReview ∨ request.stages = []

structure Chronicled (request : WorkflowRequest) : Prop where
  traced : Traced request
  reviewed : Reviewed request

section Entries

variable {env : Environment} {call : Call} {request result : WorkflowRequest} {w after : World}

theorem Traced.replaysToState (traced : Traced request) : ReplaysToState request := by
  obtain ⟨replays,entry,rest,starts,submit,enters⟩ := traced
  refine ⟨connected_of_replay replays,⟨entry,rest,starts,submit,?_,enters⟩,?_,replays⟩
  · rw [replayed,starts,replay] at replays
    split at replays
    · assumption
    · cases replays
  · have reached := last_of_replay replays
    rw [starts] at reached ⊢
    cases ends : (entry :: rest).getLast? with
    | none => simp at ends
    | some last =>
      rw [ends] at reached
      exact congrArg some reached

theorem traced_addHistory {moved : WorkflowRequest} {actorId action : String} {previousState newState : Option WorkflowState}
    {stageId : Option String} {details : List (String × Detail)} (traced : Traced request)
    (history : moved.history = request.history) (leaves : previousState.getD moved.state = request.state)
    (enters : newState.getD moved.state = moved.state) :
    Traced (moved.addHistory actorId action previousState newState stageId details) := by
  obtain ⟨replays,entry,rest,starts,submit,opens⟩ := traced
  constructor
  · have prolonged : replayed (request.history ++ [⟨actorId,action,previousState.getD moved.state,
        newState.getD moved.state,stageId,details⟩]) = some (newState.getD moved.state) := replay_concat replays leaves
    rw [← history,enters] at prolonged
    simp only [WorkflowRequest.addHistory,enters]
    exact prolonged
  · have grown : (moved.addHistory actorId action previousState newState stageId details).history =
        entry :: (rest ++ [⟨actorId,action,previousState.getD moved.state,newState.getD moved.state,stageId,details⟩]) := by
      simp only [WorkflowRequest.addHistory,history,starts,List.cons_append]
    exact ⟨entry,_,grown,submit,opens⟩

theorem chronicled_forTenant (chronicled : Chronicled request) (tenant : String) : Chronicled (request.forTenant tenant) := by
  obtain ⟨⟨replays,submitted⟩,reviewed⟩ := chronicled
  exact ⟨⟨replays,submitted⟩,reviewed⟩

private theorem apply_chronicled (traced : Traced request) (approved : request.state = .approved) (actorId : String) :
    Chronicled (applyApprovedRequest env call actorId request w).2 := by
  rcases apply_cases actorId request with ⟨same,_⟩ | ⟨reason,_,_,same⟩
  · rw [same]
    exact ⟨traced_addHistory traced rfl approved.symm rfl,fun finalised => by cases finalised⟩
  · rw [same]
    exact ⟨traced_addHistory traced rfl approved.symm rfl,fun _ => Or.inl rfl⟩

theorem escalated_chronicled (chronicled : Chronicled request) (now : Instant) (details : List (String × Detail)) :
    Chronicled (escalated request now details) :=
  ⟨traced_addHistory chronicled.traced rfl rfl rfl,chronicled.reviewed⟩

theorem expired_chronicled (chronicled : Chronicled request) (inReview : request.state = .inReview) (due : Instant) :
    Chronicled (expiredRequest request due) :=
  ⟨traced_addHistory chronicled.traced rfl inReview.symm rfl,fun finalised => by cases finalised⟩

theorem withdrawn_chronicled (chronicled : Chronicled request) (tc : TenantContext) (reason : String) :
    Chronicled (withdrawnRequest tc reason request) :=
  ⟨traced_addHistory chronicled.traced rfl rfl rfl,fun finalised => by cases finalised⟩

theorem submitted_traced (input : SubmitRequest) (definition : WorkflowDefinition) :
    Traced (submittedRequest env call input definition) :=
  ⟨rfl,_,_,rfl,rfl,rfl⟩

theorem passed_chronicled (traced : Traced request) (submitted : request.state = .submitted) :
    Chronicled (applyApprovedRequest env call "system" (autoApproved request) w).2 := by
  have approved : Traced (autoApproved request) := traced_addHistory traced rfl submitted.symm rfl
  exact apply_chronicled approved rfl "system"

theorem initialised_chronicled (traced : Traced request) (submitted : request.state = .submitted)
    (stage : WorkflowStageDefinition) (resolved : ResolvedApprovers) (now : Instant) :
    Chronicled (initialisedRequest request stage resolved now) := by
  have opened : ∀ {moved : WorkflowRequest}, moved.state = .inReview → Traced moved → Chronicled moved :=
    fun inReview traced => ⟨traced,fun _ => Or.inl inReview⟩
  unfold initialisedRequest
  simp only
  split
  · exact opened rfl (traced_addHistory traced rfl submitted.symm rfl)
  · refine escalated_chronicled ?_ _ _
    exact opened rfl (traced_addHistory traced rfl submitted.symm rfl)

theorem submission_chronicled {input : SubmitRequest} (built : SubmissionResult env call input w after result) :
    Chronicled result := by
  cases built with
  | passed found untriggered =>
    rename_i definition
    exact passed_chronicled (submitted_traced input definition) rfl
  | stageless found stageless =>
    rename_i definition
    refine ⟨submitted_traced input definition,fun _ => Or.inr ?_⟩
    simp [submittedRequest,WorkflowRequest.addHistory,stageless]
  | initialised found first =>
    rename_i definition stage rest directory resolved
    exact initialised_chronicled (submitted_traced input definition) rfl stage resolved call.now

theorem under_review {stage : WorkflowStage} (reviewed : Reviewed request) (reviewable : request.state.isFinalised = false)
    (current : request.currentStage = some stage) : request.state = .inReview := by
  rcases reviewed reviewable with inReview | stageless
  · exact inReview
  · simp [WorkflowRequest.currentStage,stageless] at current

theorem decision_chronicled {input : DecisionRequest} {stage : WorkflowStage} {rule : Option DelegationRule}
    (chronicled : Chronicled request) (reviewable : request.state.isFinalised = false)
    (current : request.currentStage = some stage) (shape : DecisionResult env call input request stage rule w after result) :
    Chronicled result := by
  obtain ⟨traced,reviewed⟩ := chronicled
  have inReview := under_review reviewed reviewable current
  have passes : ∀ voted, Traced (stageApproved call request voted rule) := fun voted => traced_addHistory traced rfl rfl rfl
  cases shape with
  | rejected asked commented => exact ⟨traced_addHistory traced rfl rfl rfl,fun finalised => by cases finalised⟩
  | informed asked commented => exact ⟨traced_addHistory traced rfl rfl rfl,fun _ => Or.inl inReview⟩
  | partially asked vote short => exact ⟨traced_addHistory traced rfl rfl rfl,fun _ => Or.inl inReview⟩
  | advanced asked vote enough following =>
    rename_i voted next directory assigned
    exact ⟨traced_addHistory (passes voted) rfl rfl rfl,fun _ => Or.inl inReview⟩
  | completed asked vote enough last =>
    rename_i voted
    have approved : Traced (workflowApproved call (stageApproved call request voted rule)) :=
      traced_addHistory (passes voted) rfl inReview.symm rfl
    exact apply_chronicled approved rfl call.tc.userId

end Entries

section Operations

variable {env : Environment} {w : World}

def AllChronicled (w : World) : Prop := ∀ id row, w.requests.lookup id = some row → Chronicled row.entity

theorem allChronicled_empty (empty : w.requests = ∅) : AllChronicled w := by
  intro id row found
  rw [empty] at found
  cases found

theorem change_chronicled {op : WorkflowOp} {id tenant : String} {result : WorkflowRequest} (all : AllChronicled w)
    (change : RequestChange env w op id tenant result) : Chronicled result := by
  cases change with
  | submitted asked named built => exact submission_chronicled built
  | decided asked stored reviewable current authorised shape =>
    exact decision_chronicled (all id _ stored) reviewable current shape
  | withdrawn asked stored reviewable => exact withdrawn_chronicled (all id _ stored) _ _
  | escalated asked stored reviewed => exact escalated_chronicled (all id _ stored) _ _
  | expired asked stored reviewed => exact expired_chronicled (all id _ stored) reviewed _

theorem serve_chronicled (w : World) (op : WorkflowOp) (holds : Keyed w ∧ AllChronicled w) :
    Keyed (serve env w op) ∧ AllChronicled (serve env w op) := by
  obtain ⟨keyed,all⟩ := holds
  refine ⟨serve_keyed w op keyed,?_⟩
  intro id row found
  rcases serve_cases keyed op id with same | ⟨tenant,result,change,written⟩
  · rw [same] at found
    exact all id row found
  · rw [written] at found
    cases found
    exact change_chronicled all change

end Operations

/-- An operation as one client carries it out. An evaluator is a client for each
request it lists, which it reads while the request is under review. -/
inductive ServiceCall where
  | submit (call : Call) (input : SubmitRequest)
  | recordDecision (call : Call) (requestId : String) (input : DecisionRequest)
  | withdraw (tc : TenantContext) (requestId reason : String)
  | escalate (tc : TenantContext) (now : Instant) (requestId : String)
  | expire (tc : TenantContext) (now : Instant) (requestId : String)

def ServiceCall.tc : ServiceCall → TenantContext
  | .submit call _ => call.tc
  | .recordDecision call _ _ => call.tc
  | .withdraw tc _ _ => tc
  | .escalate tc _ _ => tc
  | .expire tc _ _ => tc

def ServiceCall.evaluates : ServiceCall → Bool
  | .escalate _ _ _ | .expire _ _ _ => true
  | .submit _ _ | .recordDecision _ _ _ | .withdraw _ _ _ => false

def readFor (c : ServiceCall) (id : String) (w : World) : Option (Option WorkflowRequest) :=
  ((getOwned c.tc.tenantId id w.requests).filter (fun request => !c.evaluates || request.state = .inReview)).map some

def outcomeOf : World × Except WorkflowError WorkflowRequest → World × Option WorkflowRequest
  | (w, .ok request) => (w, some request)
  | (w, .error _) => (w, none)

def serviceProtocol (env : Environment) : Protocol World ServiceCall (Option WorkflowRequest) WorkflowRequest where
  read w c :=
    match c with
    | .submit _ _ => some none
    | .recordDecision _ id _ | .withdraw _ id _ | .escalate _ _ id | .expire _ _ id => readFor c id w
  compute w c seen :=
    match c, seen with
    | .submit call input, _ => outcomeOf (computeSubmission env call input w)
    | .recordDecision call id input, some request => outcomeOf (computeDecision env call id input request w)
    | .withdraw tc id reason, some request => outcomeOf (w, computeWithdrawal tc id reason request)
    | .escalate _ now _, some request => (w, escalation now request)
    | .expire tc now _, some request => (w, expiration env tc now request)
    | _, none => (w, none)
  write w c request := (saveRequest c.tc request w).1

section Interleaved

variable {env : Environment} {w : World}

def HeldCopy (c : ServiceCall) (seen : Option WorkflowRequest) : Prop :=
  ∀ request, seen = some request → Chronicled request ∧ (c.evaluates = true → request.state = .inReview)

private theorem readFor_held {c : ServiceCall} {id : String} {seen : Option WorkflowRequest} (all : AllChronicled w)
    (read : readFor c id w = some seen) : HeldCopy c seen := by
  obtain ⟨request,kept,rfl⟩ := Option.map_eq_some_iff.mp read
  obtain ⟨found,passes⟩ := Option.filter_eq_some_iff.mp kept
  intro other same
  cases same
  refine ⟨all id _ (getOwned_eq_some_iff.mp found),?_⟩
  intro evaluates
  simpa [evaluates] using passes

theorem compute_chronicled (c : ServiceCall) (seen : Option WorkflowRequest) (held : HeldCopy c seen) :
    ((serviceProtocol env).compute w c seen).1.requests = w.requests ∧
      ∀ update, ((serviceProtocol env).compute w c seen).2 = some update → Chronicled update := by
  have refused : ∀ {after : World}, after.requests = w.requests → after.requests = w.requests ∧
      ∀ update, (none : Option WorkflowRequest) = some update → Chronicled update :=
    fun same => ⟨same,fun update absent => by cases absent⟩
  have answered : ∀ {after : World} {request : WorkflowRequest}, after.requests = w.requests → Chronicled request →
      after.requests = w.requests ∧ ∀ update, some request = some update → Chronicled update := by
    intro after request same chronicled
    refine ⟨same,?_⟩
    intro update equal
    cases equal
    exact chronicled
  cases c with
  | submit call input =>
    simp only [serviceProtocol]
    rcases computed : computeSubmission env call input w with ⟨after,outcome⟩
    rcases computeSubmission_cases computed with ⟨e,rfl,idle⟩ | ⟨result,rfl,built⟩
    · exact refused idle.requests
    · exact answered built.requests (submission_chronicled built)
  | recordDecision call id input =>
    cases seen with
    | none => exact refused rfl
    | some request =>
      simp only [serviceProtocol]
      rcases computed : computeDecision env call id input request w with ⟨after,outcome⟩
      rcases computeDecision_cases computed with
        ⟨e,rfl,idle⟩ | ⟨result,stage,rule,directory,rfl,reviewable,current,authorised,shape⟩
      · exact refused idle.requests
      · exact answered shape.requests (decision_chronicled (held request rfl).1 reviewable current shape)
  | withdraw tc id reason =>
    cases seen with
    | none => exact refused rfl
    | some request =>
      simp only [serviceProtocol,computeWithdrawal]
      split
      · exact refused rfl
      · exact answered rfl (withdrawn_chronicled (held request rfl).1 tc reason)
  | escalate tc now id =>
    cases seen with
    | none => exact refused rfl
    | some request =>
      refine ⟨rfl,?_⟩
      intro update changed
      obtain ⟨details,rfl⟩ := escalation_some changed
      exact escalated_chronicled (held request rfl).1 now details
  | expire tc now id =>
    cases seen with
    | none => exact refused rfl
    | some request =>
      refine ⟨rfl,?_⟩
      intro update changed
      obtain ⟨due,rfl⟩ := expiration_some changed
      obtain ⟨chronicled,reviewed⟩ := held request rfl
      exact expired_chronicled chronicled (reviewed rfl) due

theorem save_chronicled {tc : TenantContext} {request : WorkflowRequest} (all : AllChronicled w)
    (chronicled : Chronicled request) : AllChronicled (saveRequest tc request w).1 := by
  intro id row found
  rcases @commit_cases tc w request id with same | ⟨_,written⟩
  · exact all id row (same.symm.trans found)
  · cases written.symm.trans found
    exact chronicled_forTenant chronicled tc.tenantId

theorem advance_chronicled {Client : Type} [DecidableEq Client]
    (s : System World Client ServiceCall (Option WorkflowRequest) WorkflowRequest) (action : Action Client ServiceCall)
    (coherent : Coherent AllChronicled HeldCopy (fun _ => Chronicled) s) :
    Coherent AllChronicled HeldCopy (fun _ => Chronicled) (advance (serviceProtocol env) s action) := by
  refine advance_coherent ?_ ?_ ?_ s action coherent
  · intro w c seen all read
    cases c with
    | submit call input =>
      cases read
      intro request absent
      cases absent
    | recordDecision call id input => exact readFor_held all read
    | withdraw tc id reason => exact readFor_held all read
    | escalate tc now id => exact readFor_held all read
    | expire tc now id => exact readFor_held all read
  · intro w c seen all held
    obtain ⟨same,updates⟩ := @compute_chronicled env w c seen held
    refine ⟨?_,updates⟩
    rw [AllChronicled,same]
    exact all
  · intro w c update all chronicled
    exact save_chronicled all chronicled

end Interleaved

/-- Every request stored by a run of operations, or by operations that any
number of clients interleave, replays to its state. -/
theorem history_replays {Client : Type} [DecidableEq Client] (env : Environment) (start : World)
    (empty : start.requests = ∅) :
    (∀ (ops : List WorkflowOp) id row, (run (serve env) start ops).requests.lookup id = some row →
      ReplaysToState row.entity) ∧
    ∀ (actions : List (Action Client ServiceCall)) id row,
      (run (advance (serviceProtocol env)) (System.quiet start) actions).world.requests.lookup id = some row →
        ReplaysToState row.entity := by
  constructor
  · intro ops id row found
    have holds := run_invariant (@serve_chronicled env) ops ⟨keyed_empty empty,allChronicled_empty empty⟩
    exact (holds.2 id row found).traced.replaysToState
  · intro actions id row found
    have first : @Coherent World Client _ _ _ AllChronicled HeldCopy (fun _ => Chronicled) (System.quiet start) :=
      quiet_coherent (allChronicled_empty empty)
    have holds := run_invariant (@advance_chronicled env Client _) actions first
    exact (holds.world id row found).traced.replaysToState

def approvalAgainstWithdrawal : List (Action Bool ServiceCall) :=
  [.read true (.submit (callBy "analyst" "a" .applied) ⟨"BUDGET_APPROVAL","Change",⟨"entity","e-1",none,none,[]⟩,
      "needed this quarter",[],none,some 20000⟩), .compute true, .write true,
    .read true (.recordDecision (callBy "t-1-finops-lead" "b" .applied) "wf-req-t-1-a" ⟨.approve,none⟩),
    .read false (.withdraw (callBy "analyst" "c" .applied).tc "wf-req-t-1-a" "superseded"), .compute true, .compute false,
    .write false, .write true]

def actionsOf (w : World) (id : String) : Option (List String) :=
  (w.requests.lookup id).map (fun row => row.entity.history.map WorkflowHistoryEntry.action)

theorem budget_history_replays :
    actionsOf (run (serve (governedBy budgetApproval)) World.blank budgetRun) "wf-req-t-1-a" =
        some ["SUBMIT", "INITIALIZE_STAGE", "STAGE_APPROVED", "ADVANCE_STAGE", "STAGE_APPROVED", "WORKFLOW_APPROVED",
          "APPLICATION_FAILED", "STAGE_APPROVED", "WORKFLOW_APPROVED", "APPLY"] ∧
      actionsOf (run (advance (serviceProtocol (governedBy budgetApproval))) (System.quiet World.blank)
        approvalAgainstWithdrawal).world "wf-req-t-1-a" =
          some ["SUBMIT", "INITIALIZE_STAGE", "STAGE_APPROVED", "ADVANCE_STAGE"] ∧
      (∀ (ops : List WorkflowOp) id row,
        (run (serve (governedBy budgetApproval)) World.blank ops).requests.lookup id = some row →
          ReplaysToState row.entity) ∧
      ∀ (actions : List (Action Bool ServiceCall)) id row,
        (run (advance (serviceProtocol (governedBy budgetApproval))) (System.quiet World.blank)
          actions).world.requests.lookup id = some row → ReplaysToState row.entity :=
  ⟨by decide +kernel,by decide +kernel,history_replays (governedBy budgetApproval) World.blank rfl⟩

end CloudLens.Workflows
