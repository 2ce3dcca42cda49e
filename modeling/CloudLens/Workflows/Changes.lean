import CloudLens.Workflows.Service
import CloudLens.Library.Runs

/-! What an operation of the workflow service does to the stored request of one
identifier. A submission and a decision have a handful of outcomes each; an
operation then leaves the row as it is or replaces it by one of these. Every
property of whole runs is derived from the case analysis. -/
namespace CloudLens.Workflows
open Library
open Library.Calendar (Instant)

inductive SubmissionResult (env : Environment) (call : Call) (input : SubmitRequest) (w : World) :
    World → WorkflowRequest → Prop
  | passed {definition : WorkflowDefinition} (found : env.definition call.tc.tenantId input.requestType = some definition)
      (untriggered : definition.triggerCondition.triggers input.payload input.financialImpact = some false) :
      SubmissionResult env call input w
        (applyApprovedRequest env call "system" (autoApproved (submittedRequest env call input definition)) w).1
        (applyApprovedRequest env call "system" (autoApproved (submittedRequest env call input definition)) w).2
  | stageless {definition : WorkflowDefinition} (found : env.definition call.tc.tenantId input.requestType = some definition)
      (stageless : definition.stages = []) :
      SubmissionResult env call input w w (submittedRequest env call input definition)
  | initialised {definition : WorkflowDefinition} {stage : WorkflowStageDefinition} {rest : List WorkflowStageDefinition}
      {directory : Directory} {resolved : ResolvedApprovers}
      (found : env.definition call.tc.tenantId input.requestType = some definition)
      (first : definition.stages = stage :: rest) :
      SubmissionResult env call input w { w with directory := directory }
        (initialisedRequest (submittedRequest env call input definition) stage resolved call.now)

inductive DecisionResult (env : Environment) (call : Call) (input : DecisionRequest) (request : WorkflowRequest)
    (stage : WorkflowStage) (rule : Option DelegationRule) (w : World) : World → WorkflowRequest → Prop
  | rejected {text : String} (asked : input.decision = .reject) (commented : mandatoryComment input.comment = some text) :
      DecisionResult env call input request stage rule w w (rejectedRequest call request stage rule text)
  | informed {text : String} (asked : input.decision = .requestMoreInfo)
      (commented : mandatoryComment input.comment = some text) :
      DecisionResult env call input request stage rule w w (informedRequest call request stage rule text)
  | partially {voted : WorkflowStage} (asked : input.decision = .approve)
      (vote : voted = decidedStage stage (decisionOf call stage rule .approve input.comment))
      (short : ¬ (voted.mode = .serial ∨ voted.isQuorumMet)) :
      DecisionResult env call input request stage rule w w (partiallyApproved call request voted)
  | advanced {voted next : WorkflowStage} {directory : Directory} {assigned : List String}
      (asked : input.decision = .approve)
      (vote : voted = decidedStage stage (decisionOf call stage rule .approve input.comment))
      (enough : voted.mode = .serial ∨ voted.isQuorumMet)
      (following : (stageApproved call request voted rule).stages[request.currentStageIndex + 1]? = some next) :
      DecisionResult env call input request stage rule w { w with directory := directory }
        (advancedRequest (stageApproved call request voted rule) next assigned)
  | completed {voted : WorkflowStage} (asked : input.decision = .approve)
      (vote : voted = decidedStage stage (decisionOf call stage rule .approve input.comment))
      (enough : voted.mode = .serial ∨ voted.isQuorumMet)
      (last : (stageApproved call request voted rule).stages[request.currentStageIndex + 1]? = none) :
      DecisionResult env call input request stage rule w
        (applyApprovedRequest env call call.tc.userId (workflowApproved call (stageApproved call request voted rule)) w).1
        (applyApprovedRequest env call call.tc.userId (workflowApproved call (stageApproved call request voted rule)) w).2

structure Idle (w after : World) : Prop where
  requests : after.requests = w.requests
  applications : after.applications = w.applications

section Compute

variable {env : Environment} {call : Call} {w after : World}

theorem computeSubmission_cases {input : SubmitRequest} {outcome : Except WorkflowError WorkflowRequest}
    (computed : computeSubmission env call input w = (after, outcome)) :
    (∃ e, outcome = .error e ∧ Idle w after) ∨
      ∃ result, outcome = .ok result ∧ SubmissionResult env call input w after result := by
  unfold computeSubmission at computed
  split at computed
  · cases computed
    exact Or.inl ⟨_,rfl,rfl,rfl⟩
  · rename_i definition found
    simp only at computed
    split at computed
    · cases computed
      exact Or.inl ⟨_,rfl,rfl,rfl⟩
    · rename_i untriggered
      cases computed
      exact Or.inr ⟨_,rfl,.passed found untriggered⟩
    · split at computed
      · rename_i stageless
        cases computed
        exact Or.inr ⟨_,rfl,.stageless found stageless⟩
      · rename_i stage rest first
        split at computed
        · cases computed
          exact Or.inl ⟨_,rfl,rfl,rfl⟩
        · cases computed
          exact Or.inr ⟨_,rfl,.initialised found first⟩

private theorem approveStage_cases {input : DecisionRequest} {request : WorkflowRequest} {stage : WorkflowStage}
    {rule : Option DelegationRule} {outcome : Except WorkflowError WorkflowRequest} (asked : input.decision = .approve)
    (computed : approveStage env call input.comment request stage rule w = (after, outcome)) :
    (∃ e, outcome = .error e ∧ Idle w after) ∨
      ∃ result, outcome = .ok result ∧ DecisionResult env call input request stage rule w after result := by
  unfold approveStage at computed
  simp only at computed
  split at computed
  · rename_i enough
    split at computed
    · rename_i next following
      unfold advanceStage at computed
      split at computed
      · cases computed
        exact Or.inr ⟨_,rfl,.advanced asked rfl enough following⟩
      · split at computed
        · cases computed
          exact Or.inl ⟨_,rfl,rfl,rfl⟩
        · cases computed
          exact Or.inr ⟨_,rfl,.advanced asked rfl enough following⟩
    · rename_i last
      cases computed
      exact Or.inr ⟨_,rfl,.completed asked rfl enough last⟩
  · rename_i short
    cases computed
    exact Or.inr ⟨_,rfl,.partially asked rfl short⟩

theorem computeDecision_cases {id : String} {input : DecisionRequest} {request : WorkflowRequest}
    {outcome : Except WorkflowError WorkflowRequest} (computed : computeDecision env call id input request w = (after, outcome)) :
    (∃ e, outcome = .error e ∧ Idle w after) ∨
      ∃ result stage rule directory, outcome = .ok result ∧ request.state.isFinalised = false ∧
        request.currentStage = some stage ∧ authorise env call id request stage w.directory = (directory, .ok rule) ∧
        DecisionResult env call input request stage rule { w with directory := directory } after result := by
  unfold computeDecision at computed
  split at computed
  · cases computed
    exact Or.inl ⟨_,rfl,rfl,rfl⟩
  · rename_i unfinalised
    have reviewable : request.state.isFinalised = false := by simpa using unfinalised
    split at computed
    · cases computed
      exact Or.inl ⟨_,rfl,rfl,rfl⟩
    · rename_i stage current
      split at computed
      · cases computed
        exact Or.inl ⟨_,rfl,rfl,rfl⟩
      · rename_i directory rule authorised
        split at computed
        · rename_i asked
          unfold rejectStage at computed
          split at computed
          · cases computed
            exact Or.inl ⟨_,rfl,rfl,rfl⟩
          · rename_i text commented
            cases computed
            exact Or.inr ⟨_,stage,rule,directory,rfl,reviewable,current,authorised,.rejected asked commented⟩
        · rename_i asked
          unfold requestInformation at computed
          split at computed
          · cases computed
            exact Or.inl ⟨_,rfl,rfl,rfl⟩
          · rename_i text commented
            cases computed
            exact Or.inr ⟨_,stage,rule,directory,rfl,reviewable,current,authorised,.informed asked commented⟩
        · rename_i asked
          rcases approveStage_cases asked computed with ⟨e,failed,idle⟩ | ⟨result,succeeded,shape⟩
          · exact Or.inl ⟨e,failed,idle.requests,idle.applications⟩
          · exact Or.inr ⟨result,stage,rule,directory,succeeded,reviewable,current,authorised,shape⟩

theorem apply_requests (actorId : String) (request : WorkflowRequest) :
    (applyApprovedRequest env call actorId request w).1.requests = w.requests := by
  simp only [applyApprovedRequest,recordApplication]
  split <;> rfl

theorem apply_applications (actorId : String) (request : WorkflowRequest) :
    (applyApprovedRequest env call actorId request w).1.applications =
      w.applications ++ if env.hasApplier request.requestType then [⟨request.id,call.outcome⟩] else [] := by
  simp only [applyApprovedRequest,recordApplication]
  split
  · rfl
  · simp

theorem apply_cases (actorId : String) (request : WorkflowRequest) :
    ((applyApprovedRequest env call actorId request w).2 = appliedRequest request actorId call.applyNow ∧
      (env.hasApplier request.requestType = true → call.outcome = .applied)) ∨
    ∃ reason, env.hasApplier request.requestType = true ∧ call.outcome = .failed reason ∧
      (applyApprovedRequest env call actorId request w).2 =
        revertedRequest request (.applicationFailed request.id reason) := by
  simp only [applyApprovedRequest,applyRegistered]
  cases registered : env.hasApplier request.requestType with
  | false => exact Or.inl ⟨rfl,fun absent => by cases absent⟩
  | true =>
    cases outcome : call.outcome with
    | applied => exact Or.inl ⟨rfl,fun _ => rfl⟩
    | failed reason => exact Or.inr ⟨reason,rfl,rfl,rfl⟩

theorem apply_stages (actorId : String) (request : WorkflowRequest) :
    (applyApprovedRequest env call actorId request w).2.stages = request.stages := by
  rcases apply_cases actorId request with ⟨same,_⟩ | ⟨reason,_,_,same⟩
  · rw [same]
    rfl
  · rw [same]
    rfl

private theorem apply_identity (actorId : String) (request : WorkflowRequest) :
    (applyApprovedRequest env call actorId request w).2.id = request.id ∧
      (applyApprovedRequest env call actorId request w).2.tenantId = request.tenantId := by
  rcases apply_cases actorId request with ⟨same,_⟩ | ⟨reason,_,_,same⟩
  · rw [same]
    exact ⟨rfl,rfl⟩
  · rw [same]
    exact ⟨rfl,rfl⟩

theorem SubmissionResult.requests {input : SubmitRequest} {result : WorkflowRequest}
    (built : SubmissionResult env call input w after result) : after.requests = w.requests := by
  cases built with
  | passed found untriggered => exact apply_requests _ _
  | stageless found stageless => rfl
  | initialised found first => rfl

theorem SubmissionResult.identity {input : SubmitRequest} {result : WorkflowRequest}
    (built : SubmissionResult env call input w after result) :
    result.id = requestIdOf call.tc call.token ∧ result.tenantId = call.tc.tenantId := by
  cases built with
  | passed found untriggered => exact apply_identity _ _
  | stageless found stageless => exact ⟨rfl,rfl⟩
  | initialised found first =>
    unfold initialisedRequest
    simp only
    split
    · exact ⟨rfl,rfl⟩
    · exact ⟨rfl,rfl⟩

theorem DecisionResult.requests {input : DecisionRequest} {request result : WorkflowRequest} {stage : WorkflowStage}
    {rule : Option DelegationRule} (shape : DecisionResult env call input request stage rule w after result) :
    after.requests = w.requests := by
  cases shape with
  | completed asked vote enough last => exact apply_requests _ _
  | _ => rfl

theorem DecisionResult.identity {input : DecisionRequest} {request result : WorkflowRequest} {stage : WorkflowStage}
    {rule : Option DelegationRule} (shape : DecisionResult env call input request stage rule w after result) :
    result.id = request.id ∧ result.tenantId = request.tenantId := by
  cases shape with
  | completed asked vote enough last => exact apply_identity _ _
  | _ => exact ⟨rfl,rfl⟩

end Compute

section Commit

variable {tc : TenantContext} {w : World}

theorem commit_applications (outcome : Except WorkflowError WorkflowRequest) :
    (commit tc (w, outcome)).1.applications = w.applications := by
  cases outcome with
  | error e => rfl
  | ok result =>
    simp only [commit,saveRequest]
    split <;> rfl

theorem commit_cases (result : WorkflowRequest) (id : String) :
    (commit tc (w, .ok result)).1.requests.lookup id = w.requests.lookup id ∨
      result.id = id ∧ (commit tc (w, .ok result)).1.requests.lookup id = some ⟨tc.tenantId,result.forTenant tc.tenantId⟩ := by
  simp only [commit,saveRequest]
  split
  · exact Or.inl rfl
  · rename_i requests saved
    obtain ⟨here,elsewhere,_⟩ := saveOwned_ok saved
    by_cases same : result.id = id
    · subst same
      exact Or.inr ⟨rfl,here⟩
    · exact Or.inl (elsewhere id (Ne.symm same))

theorem commit_saved {result : WorkflowRequest}
    (owned : ∀ stored, w.requests.lookup result.id = some stored → stored.tenantId = tc.tenantId) :
    (commit tc (w, .ok result)).1.requests.lookup result.id =
      some ⟨tc.tenantId,result.forTenant tc.tenantId⟩ := by
  obtain ⟨requests,accepted⟩ := @saveOwned_own _ _ _ (result.forTenant tc.tenantId) _ owned
  have saved : saveOwned tc.tenantId (result.forTenant tc.tenantId).id (result.forTenant tc.tenantId) w.requests =
    some requests := accepted
  simp only [commit,saveRequest,saved]
  exact (saveOwned_ok saved).1

theorem saveEach_preserves {update : WorkflowRequest → Option WorkflowRequest} {holds : World → Prop}
    (requests : List WorkflowRequest) (w : World) (start : holds w)
    (keeps : ∀ request ∈ requests, ∀ updated, update request = some updated →
      ∀ v, holds v → holds (commit tc (v, .ok updated)).1) :
    holds (saveEach tc update requests w).1 := by
  induction requests generalizing w with
  | nil => exact start
  | cons request rest ih =>
    have others : ∀ v, holds v → holds (saveEach tc update rest v).1 := by
      intro v held
      exact ih v held (fun other member => keeps other (List.mem_cons_of_mem _ member))
    rw [saveEach]
    cases changed : update request with
    | none => exact others w start
    | some updated =>
      have saved : holds (saveRequest tc updated w).1 := keeps request List.mem_cons_self updated changed w start
      simp only
      split
      · rename_i after e refused
        rw [refused] at saved
        exact saved
      · rename_i after stored accepted
        rw [accepted] at saved
        have later := others after saved
        split
        · rename_i last e failed
          rw [failed] at later
          exact later
        · rename_i last kept succeeded
          rw [succeeded] at later
          exact later

theorem saveEach_cases {update : WorkflowRequest → Option WorkflowRequest} (requests : List WorkflowRequest) (w : World)
    (id : String) :
    (saveEach tc update requests w).1.requests.lookup id = w.requests.lookup id ∨
      ∃ request ∈ requests, ∃ updated, update request = some updated ∧ updated.id = id ∧
        (saveEach tc update requests w).1.requests.lookup id =
          some ⟨tc.tenantId,updated.forTenant tc.tenantId⟩ := by
  refine @saveEach_preserves tc update (fun v => v.requests.lookup id = w.requests.lookup id ∨
    ∃ request ∈ requests, ∃ updated, update request = some updated ∧ updated.id = id ∧
      v.requests.lookup id = some ⟨tc.tenantId,updated.forTenant tc.tenantId⟩) requests w (Or.inl rfl) ?_
  intro request member updated changed v held
  rcases @commit_cases tc v updated id with same | ⟨named,written⟩
  · rw [same]
    exact held
  · exact Or.inr ⟨request,member,updated,changed,named,written⟩

theorem saveEach_applications {update : WorkflowRequest → Option WorkflowRequest} (requests : List WorkflowRequest)
    (w : World) : (saveEach tc update requests w).1.applications = w.applications := by
  refine @saveEach_preserves tc update (fun v => v.applications = w.applications) requests w rfl ?_
  intro request _ updated _ v held
  exact (commit_applications _).trans held

theorem listRequests_mem {state : WorkflowState} {limit : ℕ} {request : WorkflowRequest}
    (member : request ∈ listRequests tc state limit w) :
    ∃ key, w.requests.lookup key = some ⟨tc.tenantId,request⟩ ∧ request.state = state := by
  unfold listRequests at member
  have listed := List.mem_of_mem_take member
  rw [List.mem_insertionSort,List.mem_map] at listed
  obtain ⟨⟨key,owner,entity⟩,selected,rfl⟩ := listed
  obtain ⟨found,matched⟩ := Table.mem_selectWhere.mp selected
  simp only [Bool.and_eq_true,decide_eq_true_iff] at matched
  obtain ⟨rfl,reviewed⟩ := matched
  exact ⟨key,found,reviewed⟩

end Commit

inductive RequestChange (env : Environment) (w : World) (op : WorkflowOp) (id : String) : String → WorkflowRequest → Prop
  | submitted {call : Call} {input : SubmitRequest} {after : World} {result : WorkflowRequest}
      (asked : op = .submit call input) (named : requestIdOf call.tc call.token = id)
      (built : SubmissionResult env call input w after result) :
      RequestChange env w op id call.tc.tenantId result
  | decided {call : Call} {input : DecisionRequest} {after : World} {directory : Directory}
      {request result : WorkflowRequest} {stage : WorkflowStage} {rule : Option DelegationRule}
      (asked : op = .recordDecision call id input) (stored : w.requests.lookup id = some ⟨call.tc.tenantId,request⟩)
      (reviewable : request.state.isFinalised = false) (current : request.currentStage = some stage)
      (authorised : authorise env call id request stage w.directory = (directory, .ok rule))
      (shape : DecisionResult env call input request stage rule { w with directory := directory } after result) :
      RequestChange env w op id call.tc.tenantId result
  | withdrawn {tc : TenantContext} {reason : String} {request : WorkflowRequest} (asked : op = .withdraw tc id reason)
      (stored : w.requests.lookup id = some ⟨tc.tenantId,request⟩) (reviewable : request.state.isFinalised = false) :
      RequestChange env w op id tc.tenantId (withdrawnRequest tc reason request)
  | escalated {tc : TenantContext} {now : Instant} {request : WorkflowRequest} {details : List (String × Detail)}
      (asked : op = .escalate tc now) (stored : w.requests.lookup id = some ⟨tc.tenantId,request⟩)
      (reviewed : request.state = .inReview) :
      RequestChange env w op id tc.tenantId (escalated request now details)
  | expired {tc : TenantContext} {now due : Instant} {request : WorkflowRequest} (asked : op = .expire tc now)
      (stored : w.requests.lookup id = some ⟨tc.tenantId,request⟩) (reviewed : request.state = .inReview) :
      RequestChange env w op id tc.tenantId (expiredRequest request due)

def Keyed (w : World) : Prop :=
  ∀ id row, w.requests.lookup id = some row → row.entity.id = id ∧ row.entity.tenantId = row.tenantId

theorem keyed_empty {w : World} (empty : w.requests = ∅) : Keyed w := by
  intro id row found
  rw [empty] at found
  cases found

private theorem forTenant_own {request : WorkflowRequest} {tenant : String} (same : request.tenantId = tenant) :
    request.forTenant tenant = request := by
  subst same
  rfl

theorem escalation_some {now : Instant} {request updated : WorkflowRequest}
    (changed : escalation now request = some updated) : ∃ details, updated = escalated request now details := by
  unfold escalation at changed
  split at changed
  · cases changed
    exact ⟨_,rfl⟩
  · cases changed

theorem expiration_some {env : Environment} {tc : TenantContext} {now : Instant} {request updated : WorkflowRequest}
    (changed : expiration env tc now request = some updated) : ∃ due, updated = expiredRequest request due := by
  unfold expiration at changed
  split at changed
  · cases changed
  · split at changed
    · cases changed
      exact ⟨_,rfl⟩
    · cases changed

private theorem saveEach_listed {tc : TenantContext} {update : WorkflowRequest → Option WorkflowRequest} {w : World}
    (keyed : Keyed w) (keeps : ∀ request updated, update request = some updated →
      updated.id = request.id ∧ updated.tenantId = request.tenantId) (limit : ℕ) (id : String) :
    (saveEach tc update (listRequests tc .inReview limit w) w).1.requests.lookup id = w.requests.lookup id ∨
      ∃ request updated, w.requests.lookup id = some ⟨tc.tenantId,request⟩ ∧ request.state = .inReview ∧
        update request = some updated ∧
        (saveEach tc update (listRequests tc .inReview limit w) w).1.requests.lookup id =
          some ⟨tc.tenantId,updated⟩ := by
  rcases saveEach_cases (listRequests tc .inReview limit w) w id with
    same | ⟨request,member,updated,changed,named,written⟩
  · exact Or.inl same
  · obtain ⟨key,stored,reviewed⟩ := listRequests_mem member
    obtain ⟨own,tenant⟩ := keyed key _ stored
    obtain ⟨kept,owner⟩ := keeps request updated changed
    have here : key = id := own.symm.trans (kept.symm.trans named)
    subst here
    rw [forTenant_own (owner.trans tenant)] at written
    exact Or.inr ⟨request,updated,stored,reviewed,changed,written⟩

theorem serve_cases {env : Environment} {w : World} (keyed : Keyed w) (op : WorkflowOp) (id : String) :
    (serve env w op).requests.lookup id = w.requests.lookup id ∨
      ∃ tenant result, RequestChange env w op id tenant result ∧
        (serve env w op).requests.lookup id = some ⟨tenant,result⟩ := by
  cases op with
  | submit call input =>
    simp only [serve,submitRequest]
    rcases computed : computeSubmission env call input w with ⟨after,outcome⟩
    rcases computeSubmission_cases computed with ⟨e,rfl,idle⟩ | ⟨result,rfl,built⟩
    · exact Or.inl (by rw [commit,idle.requests])
    · rcases @commit_cases call.tc after result id with same | ⟨named,written⟩
      · exact Or.inl (by rw [same,built.requests])
      · obtain ⟨drawn,tenant⟩ := built.identity
        rw [forTenant_own tenant] at written
        exact Or.inr ⟨_,result,.submitted rfl (drawn.symm.trans named) built,written⟩
  | recordDecision call target input =>
    simp only [serve,recordDecision]
    split
    · exact Or.inl rfl
    · rename_i request read
      have stored := getOwned_eq_some_iff.mp read
      obtain ⟨own,tenant⟩ := keyed target _ stored
      rcases computed : computeDecision env call target input request w with ⟨after,outcome⟩
      rcases computeDecision_cases computed with
        ⟨e,rfl,idle⟩ | ⟨result,stage,rule,directory,rfl,reviewable,current,authorised,shape⟩
      · exact Or.inl (by rw [commit,idle.requests])
      · rcases @commit_cases call.tc after result id with same | ⟨named,written⟩
        · exact Or.inl (by rw [same,shape.requests])
        · obtain ⟨kept,owner⟩ := shape.identity
          have here : target = id := own.symm.trans (kept.symm.trans named)
          subst here
          rw [forTenant_own (owner.trans tenant)] at written
          exact Or.inr ⟨_,result,.decided rfl stored reviewable current authorised shape,written⟩
  | withdraw tc target reason =>
    simp only [serve,withdrawRequest]
    split
    · exact Or.inl rfl
    · rename_i request read
      have stored := getOwned_eq_some_iff.mp read
      obtain ⟨own,tenant⟩ := keyed target _ stored
      unfold computeWithdrawal
      cases reviewable : request.state.isFinalised with
      | true => exact Or.inl rfl
      | false =>
        simp only [Bool.false_eq_true,if_false]
        rcases @commit_cases tc w (withdrawnRequest tc reason request) id with same | ⟨named,written⟩
        · exact Or.inl same
        · have here : target = id := own.symm.trans named
          subst here
          have owner : (withdrawnRequest tc reason request).tenantId = tc.tenantId := tenant
          rw [forTenant_own owner] at written
          exact Or.inr ⟨_,_,.withdrawn rfl stored reviewable,written⟩
  | escalate tc now =>
    simp only [serve,evaluateEscalations]
    have keeps : ∀ request updated, escalation now request = some updated →
        updated.id = request.id ∧ updated.tenantId = request.tenantId := by
      intro request updated changed
      obtain ⟨details,rfl⟩ := escalation_some changed
      exact ⟨rfl,rfl⟩
    rcases saveEach_listed keyed keeps 500 id with same | ⟨request,updated,stored,reviewed,changed,written⟩
    · exact Or.inl same
    · obtain ⟨details,rfl⟩ := escalation_some changed
      exact Or.inr ⟨_,_,.escalated rfl stored reviewed,written⟩
  | expire tc now =>
    simp only [serve,evaluateExpirations]
    have keeps : ∀ request updated, expiration env tc now request = some updated →
        updated.id = request.id ∧ updated.tenantId = request.tenantId := by
      intro request updated changed
      obtain ⟨due,rfl⟩ := expiration_some changed
      exact ⟨rfl,rfl⟩
    rcases saveEach_listed keyed keeps 500 id with same | ⟨request,updated,stored,reviewed,changed,written⟩
    · exact Or.inl same
    · obtain ⟨due,rfl⟩ := expiration_some changed
      exact Or.inr ⟨_,_,.expired rfl stored reviewed,written⟩

theorem RequestChange.origin {env : Environment} {w : World} {op : WorkflowOp} {id tenant : String}
    {result : WorkflowRequest} (change : RequestChange env w op id tenant result) :
    (∃ call input, op = .submit call input ∧ requestIdOf call.tc call.token = id) ∨
      ∃ owner request, w.requests.lookup id = some ⟨owner,request⟩ ∧ request.state.isFinalised = false := by
  cases change with
  | submitted asked named built => exact Or.inl ⟨_,_,asked,named⟩
  | decided asked stored reviewable current authorised shape => exact Or.inr ⟨_,_,stored,reviewable⟩
  | withdrawn asked stored reviewable => exact Or.inr ⟨_,_,stored,reviewable⟩
  | escalated asked stored reviewed => exact Or.inr ⟨_,_,stored,by rw [reviewed]; rfl⟩
  | expired asked stored reviewed => exact Or.inr ⟨_,_,stored,by rw [reviewed]; rfl⟩

theorem RequestChange.identity {env : Environment} {w : World} {op : WorkflowOp} {id tenant : String}
    {result : WorkflowRequest} (keyed : Keyed w) (change : RequestChange env w op id tenant result) :
    result.id = id ∧ result.tenantId = tenant := by
  cases change with
  | submitted asked named built => exact ⟨built.identity.1.trans named,built.identity.2⟩
  | decided asked stored reviewable current authorised shape =>
    obtain ⟨own,tenant⟩ := keyed id _ stored
    exact ⟨shape.identity.1.trans own,shape.identity.2.trans tenant⟩
  | withdrawn asked stored reviewable =>
    have own := keyed id _ stored
    exact own
  | escalated asked stored reviewed =>
    have own := keyed id _ stored
    exact own
  | expired asked stored reviewed =>
    have own := keyed id _ stored
    exact own

theorem serve_keyed {env : Environment} (w : World) (op : WorkflowOp) (keyed : Keyed w) : Keyed (serve env w op) := by
  intro id row found
  rcases serve_cases keyed op id with same | ⟨tenant,result,change,written⟩
  · rw [same] at found
    exact keyed id row found
  · rw [written] at found
    cases found
    exact change.identity keyed

end CloudLens.Workflows
