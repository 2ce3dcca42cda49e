import CloudLens.Workflows.StageDiscipline
import Mathlib.Data.Finset.Card

/-! Quorums of parallel stages. The service counts approving decisions, not
approvers, so a stage carries the approvals of as many principals as its quorum
asks for when no principal approves it twice while it is open. A delegate counts
as the approver it acts for. -/
namespace CloudLens.Workflows
open Library Library.Runs

def principal (decision : WorkflowDecision) : String := decision.onBehalfOf.getD decision.decidedBy

def approvers (stage : WorkflowStage) : List String :=
  (stage.decisions.filter (fun d => d.decision = .approve)).map principal

def DistinctQuorum (stage : WorkflowStage) : Prop :=
  stage.mode = .parallel → stage.status = .approved → stage.quorum ≤ (approvers stage).toFinset.card

def QuorumsDistinct (w : World) : Prop :=
  ∀ id row, w.requests.lookup id = some row → ∀ stage ∈ row.entity.stages, DistinctQuorum stage

def actingPrincipal (call : Call) (rule : Option DelegationRule) : String :=
  (rule.map DelegationRule.originalApproverId).getD call.tc.userId

def NewApprover (env : Environment) (w : World) (op : WorkflowOp) : Prop :=
  match op with
  | .recordDecision call id input => input.decision = .approve → ∀ request stage directory rule,
      w.requests.lookup id = some ⟨call.tc.tenantId,request⟩ → request.currentStage = some stage →
      stage.mode = .parallel → stage.status ≠ .approved →
      authorise env call id request stage w.directory = (directory, .ok rule) →
      actingPrincipal call rule ∉ approvers stage
  | _ => True

structure Counted (stage : WorkflowStage) : Prop where
  unrepeated : stage.mode = .parallel → stage.status ≠ .approved → stage.status ≠ .rejected → (approvers stage).Nodup
  distinct : DistinctQuorum stage

structure CountedRequest (request : WorkflowRequest) : Prop where
  stages : ∀ stage ∈ request.stages, Counted stage
  closed : ∀ stage ∈ request.stages, stage.status = .rejected → request.state = .rejected

structure Counting (env : Environment) (w : World) : Prop where
  governed : Governed env w
  counted : ∀ id row, w.requests.lookup id = some row → CountedRequest row.entity

section Stages

variable {env : Environment} {call : Call} {stage : WorkflowStage} {rule : Option DelegationRule}

theorem approvedCount_eq_length (stage : WorkflowStage) : stage.approvedCount = (approvers stage).length := by
  simp [WorkflowStage.approvedCount,approvers,List.countP_eq_length_filter]

theorem approvers_approve (comment : Option String) :
    approvers (decidedStage stage (decisionOf call stage rule .approve comment)) =
      approvers stage ++ [actingPrincipal call rule] := by
  simp [approvers,decidedStage,decisionOf,principal,actingPrincipal]

theorem approvers_other {decision : DecisionOutcome} (other : decision ≠ .approve) (comment : Option String) :
    approvers (decidedStage stage (decisionOf call stage rule decision comment)) = approvers stage := by
  simp [approvers,decidedStage,decisionOf,other]

private theorem counted_of_approvers {other : WorkflowStage} (counted : Counted stage) (mode : other.mode = stage.mode)
    (quorum : other.quorum = stage.quorum) (same : approvers other = approvers stage)
    (status : other.status = stage.status) : Counted other := by
  constructor
  · intro parallel unapproved unrejected
    rw [same]
    rw [status] at unapproved unrejected
    exact counted.unrepeated (mode.symm.trans parallel) unapproved unrejected
  · intro parallel approved
    rw [same,quorum]
    exact counted.distinct (mode.symm.trans parallel) (status.symm.trans approved)

private theorem counted_of_unapproved (unapproved : stage.status ≠ .approved)
    (unrepeated : stage.mode = .parallel → stage.status ≠ .rejected → (approvers stage).Nodup) : Counted stage := by
  refine ⟨fun parallel _ unrejected => unrepeated parallel unrejected,?_⟩
  intro _ approved
  exact absurd approved unapproved

private theorem unbuilt_counted {definitions : List WorkflowStageDefinition} (member : stage ∈ definitions.map buildStage) :
    Counted stage := by
  obtain ⟨definition,_,rfl⟩ := List.mem_map.mp member
  exact counted_of_unapproved StageStatus.noConfusion (fun _ _ => List.nodup_nil)

theorem voted_counted (counted : Counted stage) (comment : Option String)
    (new : stage.mode = .parallel → stage.status ≠ .approved → actingPrincipal call rule ∉ approvers stage) :
    Counted (decidedStage stage (decisionOf call stage rule .approve comment)) := by
  constructor
  · intro parallel unapproved unrejected
    rw [approvers_approve]
    refine List.Nodup.append (counted.unrepeated parallel unapproved unrejected) (List.nodup_singleton _) ?_
    intro person before after
    rw [List.mem_singleton.mp after] at before
    exact new parallel unapproved before
  · intro parallel approved
    rw [approvers_approve]
    refine le_trans (counted.distinct parallel approved) (Finset.card_le_card ?_)
    intro person member
    rw [List.mem_toFinset] at member ⊢
    exact List.mem_append_left _ member

theorem approved_counted {voted : WorkflowStage} (counted : Counted voted) (unrejected : voted.status ≠ .rejected)
    (enough : voted.mode = .serial ∨ voted.isQuorumMet) : Counted { voted with status := .approved } := by
  constructor
  · intro _ unapproved _
    exact absurd rfl unapproved
  · intro parallel _
    by_cases before : voted.status = .approved
    · exact counted.distinct parallel before
    · have mode : voted.mode = .parallel := parallel
      have met : voted.quorum ≤ voted.approvedCount := by
        rcases enough with serial | met
        · rw [mode] at serial
          cases serial
        · simpa [WorkflowStage.isQuorumMet] using met
      calc
        voted.quorum ≤ voted.approvedCount := met
        _ = (approvers voted).length := approvedCount_eq_length voted
        _ = (approvers voted).toFinset.card := (List.toFinset_card_of_nodup (counted.unrepeated mode before unrejected)).symm

private theorem set_counted {stages : List WorkflowStage} {index : ℕ} (counted : ∀ s ∈ stages, Counted s)
    (new : Counted stage) : ∀ s ∈ stages.set index stage, Counted s := by
  intro s member
  rcases List.mem_or_eq_of_mem_set member with old | rfl
  · exact counted s old
  · exact new

private theorem set_unrejected {stages : List WorkflowStage} {index : ℕ} (noneRejected : ∀ s ∈ stages, s.status ≠ .rejected)
    (new : stage.status ≠ .rejected) : ∀ s ∈ stages.set index stage, s.status ≠ .rejected := by
  intro s member
  rcases List.mem_or_eq_of_mem_set member with old | rfl
  · exact noneRejected s old
  · exact new

private theorem counted_open {request : WorkflowRequest} (counted : ∀ s ∈ request.stages, Counted s)
    (noneRejected : ∀ s ∈ request.stages, s.status ≠ .rejected) : CountedRequest request :=
  ⟨counted,fun s member rejected => absurd rejected (noneRejected s member)⟩

private theorem open_of_reviewable {request : WorkflowRequest} (counted : CountedRequest request)
    (reviewable : request.state.isFinalised = false) : ∀ s ∈ request.stages, s.status ≠ .rejected := by
  intro s member rejected
  rw [counted.closed s member rejected] at reviewable
  cases reviewable

theorem submitted_counted {input : SubmitRequest} {w after : World} {result : WorkflowRequest}
    (built : SubmissionResult env call input w after result) : CountedRequest result := by
  have fresh : ∀ {request : WorkflowRequest} {definitions : List WorkflowStageDefinition},
      request.stages = definitions.map buildStage → CountedRequest request := by
    intro request definitions stages
    refine counted_open ?_ ?_
    · intro s member
      rw [stages] at member
      exact unbuilt_counted member
    · intro s member
      rw [stages] at member
      rw [built_pending member]
      exact StageStatus.noConfusion
  cases built with
  | passed found untriggered => exact fresh (apply_stages _ _)
  | stageless found stageless => exact fresh rfl
  | initialised found first =>
    rename_i definition initial rest directory resolved
    have stages := (initialised_fields (submittedRequest env call input definition) initial resolved call.now).1
    have before : CountedRequest (submittedRequest env call input definition) := fresh rfl
    refine counted_open ?_ ?_
    · rw [stages]
      exact set_counted before.stages (counted_of_unapproved StageStatus.noConfusion (fun _ _ => List.nodup_nil))
    · rw [stages]
      exact set_unrejected (open_of_reviewable before rfl) StageStatus.noConfusion

theorem decided_counted {input : DecisionRequest} {request result : WorkflowRequest} {w after : World}
    (ordered : StagesOrdered request) (counted : CountedRequest request) (reviewable : request.state.isFinalised = false)
    (current : request.currentStage = some stage)
    (new : input.decision = .approve → stage.mode = .parallel → stage.status ≠ .approved →
      actingPrincipal call rule ∉ approvers stage)
    (shape : DecisionResult env call input request stage rule w after result) : CountedRequest result := by
  have member : stage ∈ request.stages := List.mem_of_getElem? current
  have own : Counted stage := counted.stages stage member
  have noneRejected := open_of_reviewable counted reviewable
  have unrejected := noneRejected stage member
  have passing : ∀ {voted : WorkflowStage}, input.decision = .approve →
      voted = decidedStage stage (decisionOf call stage rule .approve input.comment) →
      (voted.mode = .serial ∨ voted.isQuorumMet) →
      (∀ s ∈ (stageApproved call request voted rule).stages, Counted s) ∧
        ∀ s ∈ (stageApproved call request voted rule).stages, s.status ≠ .rejected := by
    intro voted asked vote enough
    subst vote
    constructor
    · exact set_counted counted.stages (approved_counted (voted_counted own _ (new asked)) unrejected enough)
    · exact set_unrejected noneRejected StageStatus.noConfusion
  cases shape with
  | rejected asked commented =>
    refine ⟨set_counted counted.stages (counted_of_unapproved StageStatus.noConfusion ?_),fun _ _ _ => rfl⟩
    intro _ unclosed
    exact absurd rfl unclosed
  | informed asked commented =>
    refine counted_open (set_counted counted.stages ?_) (set_unrejected noneRejected unrejected)
    exact counted_of_approvers own rfl rfl (approvers_other DecisionOutcome.noConfusion _) rfl
  | partially asked vote short =>
    subst vote
    exact counted_open (set_counted counted.stages (voted_counted own _ (new asked))) (set_unrejected noneRejected unrejected)
  | advanced asked vote enough following =>
    rename_i voted next directory assigned
    obtain ⟨passed,unclosed⟩ := passing asked vote enough
    have pending : next.status = .pending := by
      rcases set_cases following with ⟨same,_⟩ | old
      · omega
      · exact ordered.after _ _ old (Nat.lt_succ_self _)
    refine counted_open (set_counted passed ?_) (set_unrejected unclosed StageStatus.noConfusion)
    refine counted_of_unapproved StageStatus.noConfusion ?_
    intro parallel _
    refine (passed next (List.mem_of_getElem? following)).unrepeated parallel ?_ ?_
    · rw [pending]
      exact StageStatus.noConfusion
    · rw [pending]
      exact StageStatus.noConfusion
  | completed asked vote enough last =>
    obtain ⟨passed,unclosed⟩ := passing asked vote enough
    refine counted_open ?_ ?_
    · rw [apply_stages]
      exact passed
    · rw [apply_stages]
      exact unclosed

end Stages

theorem change_counted {env : Environment} {w : World} {op : WorkflowOp} {id tenant : String} {result : WorkflowRequest}
    (counting : Counting env w) (new : NewApprover env w op) (change : RequestChange env w op id tenant result) :
    CountedRequest result := by
  cases change with
  | submitted asked named built => exact submitted_counted built
  | decided asked stored reviewable current authorised shape =>
    subst asked
    refine decided_counted (counting.governed.disciplined id _ stored).ordered (counting.counted id _ stored) reviewable
      current ?_ shape
    intro approval parallel unapproved
    exact new approval _ _ _ _ stored current parallel unapproved authorised
  | withdrawn asked stored reviewable =>
    have counted := counting.counted id _ stored
    have noneRejected := open_of_reviewable counted reviewable
    exact counted_open counted.stages noneRejected
  | escalated asked stored reviewed =>
    have counted := counting.counted id _ stored
    exact ⟨counted.stages,counted.closed⟩
  | expired asked stored reviewed =>
    rename_i request
    have counted := counting.counted id _ stored
    have reviewable : request.state.isFinalised = false := by
      rw [reviewed]
      rfl
    have noneRejected := open_of_reviewable counted reviewable
    exact counted_open counted.stages noneRejected

theorem serve_counting {env : Environment} (w : World) (op : WorkflowOp) (counting : Counting env w)
    (new : NewApprover env w op) : Counting env (serve env w op) := by
  refine ⟨serve_governed w op counting.governed,?_⟩
  intro id row found
  rcases serve_cases counting.governed.keyed op id with same | ⟨tenant,result,change,written⟩
  · rw [same] at found
    exact counting.counted id row found
  · rw [written] at found
    cases found
    exact change_counted counting new change

/-- In every run in which no principal approves an open parallel stage twice, a
parallel stage is approved only with the approvals of as many different
principals as its quorum asks for. -/
theorem quorum_of_distinct_approvers (env : Environment) (start : World) (empty : start.requests = ∅)
    (ops : List WorkflowOp) (new : Along (serve env) (NewApprover env) start ops) :
    QuorumsDistinct (run (serve env) start ops) := by
  have first : Counting env start := by
    refine ⟨governed_empty empty,?_⟩
    intro id row found
    rw [empty] at found
    cases found
  intro id row found stage member
  exact ((run_preserves serve_counting first new).counted id row found).stages stage member |>.distinct

def customRoleCreation : WorkflowDefinition where
  id := "wf-def-custom-role"
  requestType := "CUSTOM_ROLE_CREATION"
  triggerCondition := ⟨none,[],true⟩
  stages :=
    [⟨"stage-role-dual-auth","Dual Security & Admin Sign-off",1,.parallel,2,by decide,
      ⟨.role,some "SECURITY_ADMIN",["sec-lead", "tenant-admin-1"],"TENANT_ADMIN"⟩⟩]
  slaWorkingHours := 72
  workingScheduleId := "WW_STANDARD_MON_FRI"
  escalationPath := ⟨"GLOBAL_ADMIN",36,[],none,false⟩
  autoRejectOnExpiry := true

def dualRun (first second : String) : List WorkflowOp :=
  [submission "CUSTOM_ROLE_CREATION" 0, approval first "b" .applied, approval second "c" .applied]

/-- One administrator who approves twice meets the dual authorization of a custom
role alone. -/
theorem repeated_approval_meets_quorum :
    ¬ QuorumsDistinct (run (serve (governedBy customRoleCreation)) World.blank (dualRun "sec-lead" "sec-lead")) := by
  intro distinct
  have checked : ∀ entry ∈ (run (serve (governedBy customRoleCreation)) World.blank
      (dualRun "sec-lead" "sec-lead")).requests.entries, ∀ stage ∈ entry.2.entity.stages,
      stage.mode = .parallel → stage.status = .approved → stage.quorum ≤ (approvers stage).toFinset.card := by
    intro entry member
    exact distinct entry.1 entry.2 (Table.lookup_eq_some_iff.mpr member)
  exact absurd checked (by decide +kernel)

private theorem newApprover_of_check {env : Environment} {w : World} {call : Call} {id : String} {input : DecisionRequest}
    (check : (w.requests.lookup id).all (fun row => row.entity.currentStage.all (fun stage =>
      match (authorise env call id row.entity stage w.directory).2 with
      | .ok rule => decide (actingPrincipal call rule ∉ approvers stage)
      | .error _ => true)) = true) : NewApprover env w (.recordDecision call id input) := by
  intro _ request stage directory rule stored current _ _ authorised
  rw [stored,Option.all_some,current,Option.all_some,authorised] at check
  simpa using check

theorem quorum_of_distinct_approvers_dual :
    ((run (serve (governedBy customRoleCreation)) World.blank (dualRun "sec-lead" "tenant-admin-1")).requests.lookup
        "wf-req-t-1-a").map (fun row => row.entity.stages.map WorkflowStage.status) = some [.approved] ∧
      QuorumsDistinct (run (serve (governedBy customRoleCreation)) World.blank (dualRun "sec-lead" "tenant-admin-1")) :=
  ⟨by decide +kernel,quorum_of_distinct_approvers (governedBy customRoleCreation) World.blank rfl
    (dualRun "sec-lead" "tenant-admin-1")
    ⟨trivial,newApprover_of_check (by decide +kernel),newApprover_of_check (by decide +kernel),trivial⟩⟩

end CloudLens.Workflows
