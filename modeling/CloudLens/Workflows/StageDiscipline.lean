import CloudLens.Workflows.Changes

/-! Stage discipline of workflow requests. The stages before the current one are
approved and those after it pending, a request is applied only when the trigger
did not match or every stage is approved, and a request in a final state keeps
it. The identifier a submission draws is assumed to be new. -/
namespace CloudLens.Workflows
open Library Library.Runs

structure StagesOrdered (request : WorkflowRequest) : Prop where
  before : ∀ i stage, request.stages[i]? = some stage → i < request.currentStageIndex → stage.status = .approved
  after : ∀ i stage, request.stages[i]? = some stage → request.currentStageIndex < i → stage.status = .pending

def AutoApproved (env : Environment) (request : WorkflowRequest) : Prop :=
  (∃ definition, env.definition request.tenantId request.requestType = some definition ∧
    definition.triggerCondition.triggers request.payload request.financialImpact = some false) ∧
  ∃ entry ∈ request.history, entry.action = "AUTO_APPROVE"

def FullyApproved (request : WorkflowRequest) : Prop :=
  ∀ stage ∈ request.stages, stage.status = .approved ∧ ∃ decision ∈ stage.decisions, decision.decision = .approve

structure Disciplined (env : Environment) (request : WorkflowRequest) : Prop where
  ordered : StagesOrdered request
  evidence : ∀ stage ∈ request.stages, stage.status = .approved → ∃ decision ∈ stage.decisions, decision.decision = .approve
  applied : request.state = .applied → AutoApproved env request ∨ FullyApproved request

def Terminal (state : WorkflowState) : Prop :=
  state = .rejected ∨ state = .withdrawn ∨ state = .expired ∨ state = .applied

def Absorbing (env : Environment) (w : World) (op : WorkflowOp) : Prop :=
  ∀ id row, w.requests.lookup id = some row → Terminal row.entity.state →
    (serve env w op).requests.lookup id = some row

def FailureReverts (env : Environment) (w : World) (op : WorkflowOp) : Prop :=
  ∀ id reason, (serve env w op).applications = w.applications ++ [⟨id,.failed reason⟩] →
    ∃ row, (serve env w op).requests.lookup id = some row ∧ row.entity.state = .inReview ∧
      row.entity.errorMessage = some ("Application failed: " ++ (WorkflowError.applicationFailed id reason).message)

def FreshIdentifier (w : World) (op : WorkflowOp) : Prop :=
  match op with
  | .submit call _ => w.requests.lookup (requestIdOf call.tc call.token) = none
  | _ => True

structure Governed (env : Environment) (w : World) : Prop where
  keyed : Keyed w
  disciplined : ∀ id row, w.requests.lookup id = some row → Disciplined env row.entity

section Stages

variable {env : Environment} {request : WorkflowRequest}

theorem set_cases {stages : List WorkflowStage} {index i : ℕ} {stage found : WorkflowStage}
    (read : (stages.set index stage)[i]? = some found) : (i = index ∧ found = stage) ∨ stages[i]? = some found := by
  rw [List.getElem?_set] at read
  split at read
  · rename_i same
    split at read
    · cases read
      exact Or.inl ⟨same.symm,rfl⟩
    · cases read
  · exact Or.inr read

private theorem replaced_ordered (ordered : StagesOrdered request) (stage : WorkflowStage) {result : WorkflowRequest}
    (stages : result.stages = request.stages.set request.currentStageIndex stage)
    (index : result.currentStageIndex = request.currentStageIndex) : StagesOrdered result := by
  constructor
  · intro i found read earlier
    rw [stages] at read
    rw [index] at earlier
    rcases set_cases read with ⟨same,_⟩ | old
    · omega
    · exact ordered.before i found old earlier
  · intro i found read later
    rw [stages] at read
    rw [index] at later
    rcases set_cases read with ⟨same,_⟩ | old
    · omega
    · exact ordered.after i found old later

private theorem replaced_evidence {stages : List WorkflowStage} {index : ℕ} {stage : WorkflowStage}
    (evidence : ∀ s ∈ stages, s.status = .approved → ∃ decision ∈ s.decisions, decision.decision = .approve)
    (new : stage.status = .approved → ∃ decision ∈ stage.decisions, decision.decision = .approve) :
    ∀ s ∈ stages.set index stage, s.status = .approved → ∃ decision ∈ s.decisions, decision.decision = .approve := by
  intro s member
  rcases List.mem_or_eq_of_mem_set member with old | rfl
  · exact evidence s old
  · exact new

private theorem initial_disciplined (index : request.currentStageIndex = 0)
    (pending : ∀ i stage, request.stages[i]? = some stage → 0 < i → stage.status = .pending)
    (unapproved : ∀ stage ∈ request.stages, stage.status ≠ .approved)
    (applied : request.state = .applied → AutoApproved env request) : Disciplined env request := by
  refine ⟨⟨?_,?_⟩,?_,fun done => Or.inl (applied done)⟩
  · intro i stage _ earlier
    omega
  · intro i stage read later
    exact pending i stage read (by omega)
  · intro stage member approved
    exact absurd approved (unapproved stage member)

theorem built_pending {definitions : List WorkflowStageDefinition} {stage : WorkflowStage}
    (member : stage ∈ definitions.map buildStage) : stage.status = .pending := by
  obtain ⟨definition,_,rfl⟩ := List.mem_map.mp member
  rfl

theorem initialised_fields (request : WorkflowRequest) (stage : WorkflowStageDefinition)
    (resolved : ResolvedApprovers) (now : Calendar.Instant) :
    (initialisedRequest request stage resolved now).stages = request.stages.set 0
        { buildStage stage with assignedApprovers := resolved.effectiveApprovers, status := .inReview } ∧
      (initialisedRequest request stage resolved now).currentStageIndex = request.currentStageIndex ∧
      (initialisedRequest request stage resolved now).state = .inReview := by
  unfold initialisedRequest
  simp only
  split
  · exact ⟨rfl,rfl,rfl⟩
  · exact ⟨rfl,rfl,rfl⟩

theorem submitted_disciplined {call : Call} {input : SubmitRequest} {w after : World} {result : WorkflowRequest}
    (built : SubmissionResult env call input w after result) : Disciplined env result := by
  cases built with
  | passed found untriggered =>
    rename_i definition
    have fresh : ∀ request : WorkflowRequest, request.currentStageIndex = 0 →
        request.stages = definition.stages.map buildStage →
        (request.state = .applied → AutoApproved env request) → Disciplined env request := by
      intro request index stages applied
      refine initial_disciplined index ?_ ?_ applied
      · intro i stage read _
        rw [stages] at read
        exact built_pending (List.mem_of_getElem? read)
      · intro stage member approved
        rw [stages] at member
        rw [built_pending member] at approved
        cases approved
    rcases apply_cases "system" (autoApproved (submittedRequest env call input definition)) with
      ⟨same,_⟩ | ⟨reason,_,_,same⟩
    · rw [same]
      refine fresh _ rfl rfl ?_
      intro _
      exact ⟨⟨definition,found,untriggered⟩,_,List.mem_append_left _ (List.mem_append_right _ List.mem_cons_self),rfl⟩
    · rw [same]
      refine fresh _ rfl rfl ?_
      intro done
      cases done
  | stageless found stageless =>
    rename_i definition
    have none : (submittedRequest env call input definition).stages = [] := by
      simp [submittedRequest,WorkflowRequest.addHistory,stageless]
    refine initial_disciplined rfl ?_ ?_ ?_
    · intro i stage read _
      rw [none] at read
      cases read
    · intro stage member
      rw [none] at member
      cases member
    · intro done
      cases done
  | initialised found first =>
    rename_i definition stage rest directory resolved
    obtain ⟨stages,index,state⟩ := initialised_fields (submittedRequest env call input definition) stage resolved call.now
    refine initial_disciplined index ?_ ?_ ?_
    · intro i other read later
      rw [stages] at read
      rcases set_cases read with ⟨same,_⟩ | old
      · omega
      · exact built_pending (List.mem_of_getElem? old)
    · intro other member approved
      rw [stages] at member
      rcases List.mem_or_eq_of_mem_set member with old | rfl
      · rw [built_pending old] at approved
        cases approved
      · cases approved
    · intro done
      rw [state] at done
      cases done

private theorem vote_evidence {stage : WorkflowStage} (decision : WorkflowDecision)
    (evidence : stage.status = .approved → ∃ d ∈ stage.decisions, d.decision = .approve)
    (approved : (decidedStage stage decision).status = .approved) :
    ∃ d ∈ (decidedStage stage decision).decisions, d.decision = .approve := by
  obtain ⟨d,member,approval⟩ := evidence approved
  exact ⟨d,List.mem_append_left _ member,approval⟩

private theorem passed_disciplined (disciplined : Disciplined env request) {stage voted : WorkflowStage} {call : Call}
    {rule : Option DelegationRule} {comment : Option String}
    (vote : voted = decidedStage stage (decisionOf call stage rule .approve comment)) :
    let passed := stageApproved call request voted rule
    StagesOrdered passed ∧ (∀ s, passed.stages[passed.currentStageIndex]? = some s → s.status = .approved) ∧
      ∀ s ∈ passed.stages, s.status = .approved → ∃ d ∈ s.decisions, d.decision = .approve := by
  refine ⟨replaced_ordered disciplined.ordered _ rfl rfl,?_,?_⟩
  · intro s read
    have current : (request.stages.set request.currentStageIndex { voted with status := .approved })[
        request.currentStageIndex]? = some s := read
    rw [List.getElem?_set_self'] at current
    obtain ⟨_,_,rfl⟩ := Option.map_eq_some_iff.mp current
    rfl
  · refine replaced_evidence disciplined.evidence ?_
    intro _
    refine ⟨decisionOf call stage rule .approve comment,?_,rfl⟩
    rw [vote]
    exact List.mem_append_right _ List.mem_cons_self

private theorem advanced_ordered (ordered : StagesOrdered request)
    (approved : ∀ s, request.stages[request.currentStageIndex]? = some s → s.status = .approved) (next : WorkflowStage)
    (assigned : List String) : StagesOrdered (advancedRequest request next assigned) := by
  constructor
  · intro i found read earlier
    rcases set_cases read with ⟨same,_⟩ | old
    · exact absurd earlier (by rw [same]; exact lt_irrefl _)
    · rcases Nat.lt_succ_iff_lt_or_eq.mp earlier with lower | same
      · exact ordered.before i found old lower
      · rw [same] at old
        exact approved found old
  · intro i found read later
    rcases set_cases read with ⟨same,_⟩ | old
    · exact absurd later (by rw [same]; exact lt_irrefl _)
    · exact ordered.after i found old (Nat.lt_of_succ_lt later)

private theorem last_approved (ordered : StagesOrdered request)
    (approved : ∀ s, request.stages[request.currentStageIndex]? = some s → s.status = .approved)
    (last : request.stages[request.currentStageIndex + 1]? = none) : ∀ s ∈ request.stages, s.status = .approved := by
  intro s inside
  obtain ⟨i,read⟩ := List.getElem?_of_mem inside
  have bounded : i < request.currentStageIndex + 1 := by
    by_contra beyond
    have outside : request.stages[i]? = none :=
      List.getElem?_eq_none (le_trans (List.getElem?_eq_none_iff.mp last) (not_lt.mp beyond))
    exact absurd (outside.symm.trans read) (by simp)
  rcases Nat.lt_succ_iff_lt_or_eq.mp bounded with lower | final
  · exact ordered.before i s read lower
  · rw [final] at read
    exact approved s read

private theorem kept_disciplined (disciplined : Disciplined env request) {result : WorkflowRequest}
    (stages : result.stages = request.stages) (index : result.currentStageIndex = request.currentStageIndex)
    (unapplied : result.state ≠ .applied) : Disciplined env result := by
  obtain ⟨⟨before,after⟩,evidence,_⟩ := disciplined
  rw [← stages] at before after evidence
  rw [← index] at before after
  exact ⟨⟨before,after⟩,evidence,fun applied => absurd applied unapplied⟩

private theorem stages_disciplined {passed result : WorkflowRequest} (ordered : StagesOrdered passed)
    (evidence : ∀ stage ∈ passed.stages, stage.status = .approved → ∃ decision ∈ stage.decisions, decision.decision = .approve)
    (stages : result.stages = passed.stages) (index : result.currentStageIndex = passed.currentStageIndex)
    (applied : result.state = .applied → FullyApproved passed) : Disciplined env result := by
  refine ⟨⟨?_,?_⟩,?_,?_⟩
  · rw [stages,index]
    exact ordered.before
  · rw [stages,index]
    exact ordered.after
  · rw [stages]
    exact evidence
  · intro terminal
    unfold FullyApproved
    rw [stages]
    exact Or.inr (applied terminal)

theorem decided_disciplined {call : Call} {input : DecisionRequest} {stage : WorkflowStage} {rule : Option DelegationRule}
    {w after : World} {result : WorkflowRequest} (disciplined : Disciplined env request)
    (reviewable : request.state.isFinalised = false) (current : request.currentStage = some stage)
    (shape : DecisionResult env call input request stage rule w after result) : Disciplined env result := by
  have member : stage ∈ request.stages := List.mem_of_getElem? current
  have unapplied : request.state ≠ .applied := by
    intro applied
    rw [applied] at reviewable
    cases reviewable
  cases shape with
  | rejected asked commented =>
    refine ⟨replaced_ordered disciplined.ordered _ rfl rfl,replaced_evidence disciplined.evidence ?_,?_⟩
    · intro approved
      cases approved
    · intro applied
      cases applied
  | informed asked commented =>
    refine ⟨replaced_ordered disciplined.ordered _ rfl rfl,replaced_evidence disciplined.evidence ?_,?_⟩
    · exact vote_evidence _ (disciplined.evidence stage member)
    · intro applied
      exact absurd applied unapplied
  | partially asked vote short =>
    refine ⟨replaced_ordered disciplined.ordered _ rfl rfl,replaced_evidence disciplined.evidence ?_,?_⟩
    · rw [vote]
      exact vote_evidence _ (disciplined.evidence stage member)
    · intro applied
      exact absurd applied unapplied
  | advanced asked vote enough following =>
    rename_i voted next directory assigned
    obtain ⟨ordered,approved,evidence⟩ := passed_disciplined disciplined vote
    refine ⟨advanced_ordered ordered approved next assigned,replaced_evidence evidence ?_,?_⟩
    · intro pending
      cases pending
    · intro applied
      exact absurd applied unapplied
  | completed asked vote enough last =>
    rename_i voted
    obtain ⟨ordered,approved,evidence⟩ := passed_disciplined disciplined vote
    rcases apply_cases call.tc.userId (workflowApproved call (stageApproved call request voted rule)) with
      ⟨same,_⟩ | ⟨reason,_,_,same⟩
    · rw [same]
      refine stages_disciplined ordered evidence rfl rfl ?_
      intro _ s inside
      have status : s.status = .approved := last_approved ordered approved last s inside
      exact ⟨status,evidence s inside status⟩
    · rw [same]
      refine stages_disciplined ordered evidence rfl rfl ?_
      intro applied
      cases applied

end Stages

theorem governed_empty {env : Environment} {w : World} (empty : w.requests = ∅) : Governed env w := by
  refine ⟨keyed_empty empty,?_⟩
  intro id row found
  rw [empty] at found
  cases found

theorem change_disciplined {env : Environment} {w : World} {op : WorkflowOp} {id tenant : String}
    {result : WorkflowRequest} (governed : Governed env w) (change : RequestChange env w op id tenant result) :
    Disciplined env result := by
  cases change with
  | submitted asked named built => exact submitted_disciplined built
  | decided asked stored reviewable current authorised shape =>
    exact decided_disciplined (governed.disciplined id _ stored) reviewable current shape
  | withdrawn asked stored reviewable =>
    exact kept_disciplined (governed.disciplined id _ stored) rfl rfl WorkflowState.noConfusion
  | escalated asked stored reviewed =>
    refine kept_disciplined (governed.disciplined id _ stored) rfl rfl ?_
    intro applied
    exact absurd (reviewed.symm.trans applied) (by decide)
  | expired asked stored reviewed =>
    exact kept_disciplined (governed.disciplined id _ stored) rfl rfl WorkflowState.noConfusion

theorem serve_governed {env : Environment} (w : World) (op : WorkflowOp) (governed : Governed env w) :
    Governed env (serve env w op) := by
  refine ⟨serve_keyed w op governed.keyed,?_⟩
  intro id row found
  rcases serve_cases governed.keyed op id with same | ⟨tenant,result,change,written⟩
  · rw [same] at found
    exact governed.disciplined id row found
  · rw [written] at found
    cases found
    exact change_disciplined governed change

private theorem terminal_finalised {state : WorkflowState} (terminal : Terminal state) : state.isFinalised = true := by
  rcases terminal with rfl | rfl | rfl | rfl <;> rfl

theorem serve_absorbing {env : Environment} (w : World) (op : WorkflowOp) (governed : Governed env w)
    (fresh : FreshIdentifier w op) : Absorbing env w op := by
  intro id row found terminal
  have closed := terminal_finalised terminal
  rcases serve_cases governed.keyed op id with same | ⟨tenant,result,change,_⟩
  · rw [same]
    exact found
  · rcases change.origin with ⟨call,input,rfl,named⟩ | ⟨owner,request,stored,reviewable⟩
    · have unused : w.requests.lookup _ = none := fresh
      rw [named,found] at unused
      cases unused
    · rw [stored] at found
      cases found
      exact absurd (reviewable.symm.trans closed) (by decide)

section Failure

variable {env : Environment} {call : Call} {w after : World} {id reason : String}

private theorem apply_failed {actorId : String} {request : WorkflowRequest}
    (appended : (applyApprovedRequest env call actorId request w).1.applications =
      w.applications ++ [⟨id,.failed reason⟩]) :
    request.id = id ∧ (applyApprovedRequest env call actorId request w).2 =
      revertedRequest request (.applicationFailed id reason) := by
  rw [apply_applications,List.append_cancel_left_eq] at appended
  split at appended
  · rename_i registered
    obtain ⟨same,failed⟩ := Application.mk.inj (List.head_eq_of_cons_eq appended)
    subst same
    refine ⟨rfl,?_⟩
    rcases apply_cases actorId request with ⟨_,applied⟩ | ⟨other,_,outcome,reverted⟩
    · rw [applied registered] at failed
      cases failed
    · rw [failed] at outcome
      cases outcome
      exact reverted
  · cases appended

private theorem submission_failed {input : SubmitRequest} {result : WorkflowRequest}
    (built : SubmissionResult env call input w after result)
    (appended : after.applications = w.applications ++ [⟨id,.failed reason⟩]) :
    result.id = id ∧ result.state = .inReview ∧
      result.errorMessage = some ("Application failed: " ++ (WorkflowError.applicationFailed id reason).message) := by
  cases built with
  | passed found untriggered =>
    obtain ⟨same,reverted⟩ := apply_failed appended
    rw [reverted]
    exact ⟨same,rfl,rfl⟩
  | stageless found stageless => simp at appended
  | initialised found first => simp at appended

private theorem decision_failed {input : DecisionRequest} {request result : WorkflowRequest} {stage : WorkflowStage}
    {rule : Option DelegationRule} (shape : DecisionResult env call input request stage rule w after result)
    (appended : after.applications = w.applications ++ [⟨id,.failed reason⟩]) :
    result.id = id ∧ result.state = .inReview ∧
      result.errorMessage = some ("Application failed: " ++ (WorkflowError.applicationFailed id reason).message) := by
  cases shape with
  | completed asked vote enough last =>
    obtain ⟨same,reverted⟩ := apply_failed appended
    rw [reverted]
    exact ⟨same,rfl,rfl⟩
  | _ => simp at appended

theorem serve_failureReverts (w : World) (op : WorkflowOp) (governed : Governed env w) (fresh : FreshIdentifier w op) :
    FailureReverts env w op := by
  intro id reason appended
  cases op with
  | submit call input =>
    simp only [serve,submitRequest] at appended ⊢
    rcases computed : computeSubmission env call input w with ⟨after,outcome⟩
    rw [computed,commit_applications] at appended
    rcases computeSubmission_cases computed with ⟨e,rfl,idle⟩ | ⟨result,rfl,built⟩
    · rw [idle.applications] at appended
      simp at appended
    · obtain ⟨rfl,state,message⟩ := submission_failed built appended
      refine ⟨_,commit_saved ?_,state,message⟩
      intro stored found
      have unused : w.requests.lookup _ = none := fresh
      rw [built.requests,built.identity.1,unused] at found
      cases found
  | recordDecision call target input =>
    simp only [serve,recordDecision] at appended ⊢
    cases read : getOwned call.tc.tenantId target w.requests with
    | none => simp [read] at appended
    | some request =>
      simp only [read] at appended ⊢
      have stored := getOwned_eq_some_iff.mp read
      rcases computed : computeDecision env call target input request w with ⟨after,outcome⟩
      rw [computed,commit_applications] at appended
      rcases computeDecision_cases computed with
        ⟨e,rfl,idle⟩ | ⟨result,stage,rule,directory,rfl,reviewable,current,authorised,shape⟩
      · rw [idle.applications] at appended
        simp at appended
      · obtain ⟨rfl,state,message⟩ := decision_failed shape appended
        refine ⟨_,commit_saved ?_,state,message⟩
        intro row found
        rw [shape.requests,shape.identity.1] at found
        have own : request.id = target := (governed.keyed target _ stored).1
        rw [own,stored] at found
        cases found
        rfl
  | withdraw tc target reason =>
    simp only [serve,withdrawRequest] at appended
    split at appended
    · simp at appended
    · rw [commit_applications] at appended
      simp at appended
  | escalate tc now =>
    simp only [serve,evaluateEscalations,saveEach_applications] at appended
    simp at appended
  | expire tc now =>
    simp only [serve,evaluateExpirations,saveEach_applications] at appended
    simp at appended

end Failure

/-- In every run of the workflow service over an empty store whose submissions
draw new identifiers: the stages before the current one are approved and those
after it pending, a request is applied only if it was auto-approved without a
matching trigger or every stage carries its approval, a request in a final state
stays as it is, and a failed application leaves the request in review with the
error attached. -/
theorem workflow_stage_discipline (env : Environment) (start : World) (empty : start.requests = ∅)
    (ops : List WorkflowOp) (fresh : Along (serve env) FreshIdentifier start ops) :
    Governed env (run (serve env) start ops) ∧ Along (serve env) (Absorbing env) start ops ∧
      Along (serve env) (FailureReverts env) start ops := by
  have first : Governed env start := governed_empty empty
  have keeps : ∀ w op, Governed env w → FreshIdentifier w op → Governed env (serve env w op) :=
    fun w op governed _ => serve_governed w op governed
  refine ⟨run_preserves keeps first fresh,?_,?_⟩
  · exact along_of_invariant serve_absorbing keeps first fresh
  · exact along_of_invariant serve_failureReverts keeps first fresh

def serialStage (stageId name : String) (order : ℤ) (spec : WorkflowApproverSpec) : WorkflowStageDefinition :=
  ⟨stageId,name,order,.serial,1,Nat.le_refl 1,spec⟩

def budgetApproval : WorkflowDefinition where
  id := "wf-def-budget-approval"
  requestType := "BUDGET_APPROVAL"
  triggerCondition := ⟨some 10000,[],false⟩
  stages :=
    [serialStage "stage-budget-finops" "FinOps Lead Review" 1 ⟨.role,some "FINOPS_ADMIN",[],"TENANT_ADMIN"⟩,
      serialStage "stage-budget-exec" "Budget Scope Authority Approval" 2 ⟨.scopeOwnership,none,[],"TENANT_ADMIN"⟩]
  slaWorkingHours := 48
  workingScheduleId := "WW_STANDARD_MON_FRI"
  escalationPath := ⟨"GLOBAL_ADMIN",24,[],none,false⟩
  autoRejectOnExpiry := true

def governedBy (definition : WorkflowDefinition) : Environment where
  definition _ requestType := if requestType = definition.requestType then some definition else none
  masterRecord _ _ _ := none
  outOfOffice _ := false
  dueDate start hours _ _ := start + hours * Calendar.hour
  hasApplier _ := true

def callBy (userId token : String) (outcome : ApplierOutcome) : Call :=
  ⟨⟨"t-1",userId,none,[],false⟩,1,1,token,[],outcome⟩

def submission (requestType : String) (impact : ℚ) : WorkflowOp :=
  .submit (callBy "analyst" "a" .applied)
    ⟨requestType,"Change",⟨"entity","e-1",none,none,[]⟩,"needed this quarter",[],none,some impact⟩

def approval (userId token : String) (outcome : ApplierOutcome) : WorkflowOp :=
  .recordDecision (callBy userId token outcome) "wf-req-t-1-a" ⟨.approve,none⟩

def World.blank : World := ⟨∅,∅,[]⟩

def budgetRun : List WorkflowOp :=
  [submission "BUDGET_APPROVAL" 20000, approval "t-1-finops-lead" "b" .applied,
    approval "t-1-admin" "c" (.failed "budget not found"), approval "t-1-admin" "d" .applied]

theorem workflow_stage_discipline_budget :
    ((run (serve (governedBy budgetApproval)) World.blank budgetRun).requests.lookup "wf-req-t-1-a").map
        (fun row => row.entity.state) = some .applied ∧
      Governed (governedBy budgetApproval) (run (serve (governedBy budgetApproval)) World.blank budgetRun) ∧
      Along (serve (governedBy budgetApproval)) (Absorbing (governedBy budgetApproval)) World.blank budgetRun ∧
      Along (serve (governedBy budgetApproval)) (FailureReverts (governedBy budgetApproval)) World.blank budgetRun :=
  ⟨by decide +kernel,workflow_stage_discipline (governedBy budgetApproval) World.blank rfl budgetRun
    ⟨rfl,trivial,trivial,trivial,trivial⟩⟩

end CloudLens.Workflows
