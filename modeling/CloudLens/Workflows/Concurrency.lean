import CloudLens.Workflows.StageDiscipline
import CloudLens.Library.Interleaving

/-! Concurrent decisions and withdrawals on one request. Each call reads the
request, computes on its own copy, which runs the applier on a final approval,
and upserts the copy; the upsert compares no version. The log of accepted
decisions holds the calls whose write has been stored. -/
namespace CloudLens.Workflows
open Library Library.Runs Library.Interleaving

inductive ClientCall where
  | recordDecision (call : Call) (input : DecisionRequest)
  | withdraw (tc : TenantContext) (reason : String)

def ClientCall.tc : ClientCall → TenantContext
  | .recordDecision call _ => call.tc
  | .withdraw tc _ => tc

structure Shared where
  world : World
  accepted : List (Call × DecisionRequest)

def computeCall (env : Environment) (id : String) (c : ClientCall) (request : WorkflowRequest) (w : World) :
    World × Except WorkflowError WorkflowRequest :=
  match c with
  | .recordDecision call input => computeDecision env call id input request w
  | .withdraw tc reason => (w, computeWithdrawal tc id reason request)

def acceptedBy (c : ClientCall) (accepted : List (Call × DecisionRequest)) : List (Call × DecisionRequest) :=
  match c with
  | .recordDecision call input => accepted ++ [(call, input)]
  | .withdraw _ _ => accepted

def requestProtocol (env : Environment) (id : String) : Protocol Shared ClientCall WorkflowRequest WorkflowRequest where
  read s c := getOwned c.tc.tenantId id s.world.requests
  compute s c request :=
    match computeCall env id c request s.world with
    | (after, .error _) => ({ s with world := after }, none)
    | (after, .ok updated) => ({ s with world := after }, some updated)
  write s c updated :=
    match saveRequest c.tc updated s.world with
    | (after, .error _) => { s with world := after }
    | (after, .ok _) => ⟨after,acceptedBy c s.accepted⟩

def effects (id : String) (w : World) : ℕ := w.applications.countP (fun a => a.requestId = id && a.outcome = .applied)

structure Records (d : WorkflowDecision) (entry : Call × DecisionRequest) : Prop where
  decisionId : d.decisionId = "dec-" ++ entry.1.token
  decidedBy : d.decidedBy = entry.1.tc.userId
  decision : d.decision = entry.2.decision
  timestamp : d.timestamp = entry.1.now

def Holds (request : WorkflowRequest) (d : WorkflowDecision) : Prop := ∃ stage ∈ request.stages, d ∈ stage.decisions

def Recorded (request : WorkflowRequest) (entry : Call × DecisionRequest) : Prop := ∃ d, Holds request d ∧ Records d entry

def AppliedAtMostOnce (id : String) (s : Shared) : Prop := effects id s.world ≤ 1

def DecisionsKept (id : String) (s : Shared) : Prop :=
  ∀ entry ∈ s.accepted, ∃ row, s.world.requests.lookup id = some row ∧ Recorded row.entity entry

structure Opening (id : String) (s : Shared) : Prop where
  keyed : ∀ row, s.world.requests.lookup id = some row → row.entity.id = id ∧ row.entity.tenantId = row.tenantId
  unapplied : effects id s.world = 0
  unread : s.accepted = []

structure Sound (id : String) (s : Shared) : Prop where
  keyed : ∀ row, s.world.requests.lookup id = some row → row.entity.id = id ∧ row.entity.tenantId = row.tenantId
  once : AppliedAtMostOnce id s
  applied : effects id s.world ≠ 0 → ∃ row, s.world.requests.lookup id = some row ∧ row.entity.state = .applied
  kept : DecisionsKept id s

def ClientCall.on (id : String) : ClientCall → WorkflowOp
  | .recordDecision call input => .recordDecision call id input
  | .withdraw tc reason => .withdraw tc id reason

/-- A call whose three steps are not interrupted is the call of the service. -/
theorem atomically_serves (env : Environment) (id : String) (s : Shared) (c : ClientCall) :
    (atomically (requestProtocol env id) s c).world = serve env s.world (c.on id) := by
  cases c with
  | recordDecision call input =>
    simp only [atomically,requestProtocol,serve,recordDecision,computeCall,ClientCall.tc,ClientCall.on]
    cases getOwned call.tc.tenantId id s.world.requests with
    | none => rfl
    | some request =>
      simp only
      rcases computeDecision env call id input request s.world with ⟨after,outcome⟩
      cases outcome with
      | error e => rfl
      | ok updated =>
        simp only [commit]
        rcases saveRequest call.tc updated after with ⟨last,saved⟩
        cases saved with
        | error e => rfl
        | ok stored => rfl
  | withdraw tc reason =>
    simp only [atomically,requestProtocol,serve,withdrawRequest,computeCall,ClientCall.tc,ClientCall.on]
    cases getOwned tc.tenantId id s.world.requests with
    | none => rfl
    | some request =>
      simp only
      rcases computeWithdrawal tc id reason request with e | updated
      · rfl
      · simp only [commit]
        rcases saveRequest tc updated s.world with ⟨last,saved⟩
        cases saved with
        | error e => rfl
        | ok stored => rfl

section Decisions

variable {env : Environment} {call : Call} {input : DecisionRequest} {request result : WorkflowRequest}
  {stage : WorkflowStage} {rule : Option DelegationRule} {w after : World}

private theorem set_holds {index : ℕ} {old new : WorkflowStage} (stages : result.stages = request.stages.set index new)
    (read : request.stages[index]? = some old) (grows : ∀ d ∈ old.decisions, d ∈ new.decisions) :
    ∀ d, Holds request d → Holds result d := by
  intro d held
  obtain ⟨s,member,inside⟩ := held
  obtain ⟨i,found⟩ := List.getElem?_of_mem member
  unfold Holds
  rw [stages]
  by_cases same : i = index
  · subst same
    rw [read] at found
    cases found
    have bound : i < request.stages.length := (List.getElem?_eq_some_iff.mp read).1
    exact ⟨new,List.mem_set bound new,grows d inside⟩
  · have kept : (request.stages.set index new)[i]? = some s := by
      rw [List.getElem?_set_ne (Ne.symm same)]
      exact found
    exact ⟨s,List.mem_of_getElem? kept,inside⟩

private theorem vote_holds {voted : WorkflowStage} {d : WorkflowDecision} (current : request.currentStage = some stage)
    (stages : result.stages = request.stages.set request.currentStageIndex voted)
    (decisions : voted.decisions = stage.decisions ++ [d]) (records : Records d (call, input)) :
    (∀ other, Holds request other → Holds result other) ∧ Recorded result (call, input) := by
  constructor
  · refine set_holds stages current ?_
    intro other inside
    rw [decisions]
    exact List.mem_append_left _ inside
  · have bound : request.currentStageIndex < request.stages.length := (List.getElem?_eq_some_iff.mp current).1
    refine ⟨d,⟨voted,?_,?_⟩,records⟩
    · rw [stages]
      exact List.mem_set bound voted
    · rw [decisions]
      exact List.mem_append_right _ List.mem_cons_self

private theorem decision_records {decision : DecisionOutcome} (asked : input.decision = decision) (comment : Option String) :
    Records (decisionOf call stage rule decision comment) (call, input) :=
  ⟨rfl,rfl,asked.symm,rfl⟩

private theorem approved_holds (current : request.currentStage = some stage) (asked : input.decision = .approve)
    {voted : WorkflowStage} (vote : voted = decidedStage stage (decisionOf call stage rule .approve input.comment)) :
    (∀ d, Holds request d → Holds (stageApproved call request voted rule) d) ∧
      Recorded (stageApproved call request voted rule) (call, input) := by
  subst vote
  exact vote_holds current rfl rfl (decision_records asked _)

theorem decided_recorded (current : request.currentStage = some stage)
    (shape : DecisionResult env call input request stage rule w after result) :
    (∀ d, Holds request d → Holds result d) ∧ Recorded result (call, input) := by
  cases shape with
  | rejected asked commented => exact vote_holds current rfl rfl (decision_records asked _)
  | informed asked commented => exact vote_holds current rfl rfl (decision_records asked _)
  | partially asked vote short =>
    subst vote
    exact vote_holds current rfl rfl (decision_records asked _)
  | advanced asked vote enough following =>
    rename_i voted next directory assigned
    obtain ⟨kept,d,held,records⟩ := approved_holds current asked vote
    have further : ∀ other, Holds (stageApproved call request voted rule) other →
        Holds (advancedRequest (stageApproved call request voted rule) next assigned) other :=
      set_holds rfl following (fun other inside => inside)
    exact ⟨fun other before => further other (kept other before),d,further d held,records⟩
  | completed asked vote enough last =>
    rename_i voted
    obtain ⟨kept,d,held,records⟩ := approved_holds current asked vote
    have same := @apply_stages env call w call.tc.userId (workflowApproved call (stageApproved call request voted rule))
    unfold Recorded Holds
    rw [same]
    exact ⟨kept,d,held,records⟩

theorem decided_effects {id : String} (unapplied : effects id w = 0)
    (shape : DecisionResult env call input request stage rule w after result) :
    effects id after ≤ 1 ∧ (effects id after ≠ 0 → result.state = .applied) := by
  have idle : ∀ {v : World}, v.applications = w.applications →
      effects id v ≤ 1 ∧ (effects id v ≠ 0 → result.state = .applied) := by
    intro v same
    have none : effects id v = 0 := by
      rw [effects,same]
      exact unapplied
    exact ⟨by omega,fun some => absurd none some⟩
  cases shape with
  | completed asked vote enough last =>
    rename_i voted
    rcases @apply_cases env call w call.tc.userId (workflowApproved call (stageApproved call request voted rule)) with
      ⟨same,_⟩ | ⟨reason,registered,failed,same⟩
    · refine ⟨?_,fun _ => by rw [same]; rfl⟩
      unfold effects at unapplied ⊢
      rw [apply_applications,List.countP_append,unapplied,Nat.zero_add]
      split
      · exact List.countP_le_length
      · simp
    · have none : effects id (applyApprovedRequest env call call.tc.userId
          (workflowApproved call (stageApproved call request voted rule)) w).1 = 0 := by
        unfold effects at unapplied ⊢
        rw [apply_applications,List.countP_append,unapplied,Nat.zero_add,failed]
        split <;> simp
      exact ⟨by omega,fun some => absurd none some⟩
  | rejected asked commented => exact idle rfl
  | informed asked commented => exact idle rfl
  | partially asked vote short => exact idle rfl
  | advanced asked vote enough following => exact idle rfl

end Decisions

structure Computed (id : String) (c : ClientCall) (request : WorkflowRequest) (w after : World) (updated : WorkflowRequest) :
    Prop where
  requests : after.requests = w.requests
  identity : updated.id = request.id ∧ updated.tenantId = request.tenantId
  once : effects id after ≤ 1
  applied : effects id after ≠ 0 → updated.state = .applied
  kept : ∀ d, Holds request d → Holds updated d
  recorded : ∀ entry, acceptedBy c [] = [entry] → Recorded updated entry

section Calls

variable {env : Environment} {id : String} {s : Shared} {c : ClientCall} {request : WorkflowRequest}

private theorem reviewable_unapplied (sound : Sound id s)
    (stored : s.world.requests.lookup id = some ⟨c.tc.tenantId,request⟩) (reviewable : request.state.isFinalised = false) :
    effects id s.world = 0 := by
  by_contra some
  obtain ⟨row,found,applied⟩ := sound.applied some
  rw [stored] at found
  cases found
  rw [show request.state = .applied from applied] at reviewable
  cases reviewable

theorem computeCall_cases (sound : Sound id s) (stored : s.world.requests.lookup id = some ⟨c.tc.tenantId,request⟩)
    {after : World} {outcome : Except WorkflowError WorkflowRequest}
    (computed : computeCall env id c request s.world = (after, outcome)) :
    (∃ e, outcome = .error e ∧ Idle s.world after) ∨
      ∃ updated, outcome = .ok updated ∧ Computed id c request s.world after updated := by
  cases c with
  | recordDecision call input =>
    rcases computeDecision_cases computed with
      failed | ⟨updated,stage,rule,directory,succeeded,reviewable,current,authorised,shape⟩
    · exact Or.inl failed
    · refine Or.inr ⟨updated,succeeded,?_⟩
      have unapplied : effects id { s.world with directory := directory } = 0 :=
        reviewable_unapplied sound stored reviewable
      obtain ⟨once,applied⟩ := decided_effects unapplied shape
      obtain ⟨kept,recorded⟩ := decided_recorded current shape
      refine ⟨shape.requests,shape.identity,once,applied,kept,?_⟩
      intro entry same
      cases same
      exact recorded
  | withdraw tc reason =>
    simp only [computeCall,computeWithdrawal] at computed
    split at computed
    · cases computed
      exact Or.inl ⟨_,rfl,rfl,rfl⟩
    · rename_i unfinalised
      cases computed
      have reviewable : request.state.isFinalised = false := by simpa using unfinalised
      have unapplied := reviewable_unapplied sound stored reviewable
      refine Or.inr ⟨_,rfl,rfl,⟨rfl,rfl⟩,by omega,fun some => absurd unapplied some,fun d held => held,?_⟩
      intro entry none
      cases none

private theorem same_kept (sound : Sound id s) {after : World} (requests : after.requests = s.world.requests) :
    DecisionsKept id { s with world := after } := by
  intro entry member
  simp only [requests]
  exact sound.kept entry member

private theorem idle_sound (sound : Sound id s) {after : World} (idle : Idle s.world after) :
    Sound id { s with world := after } := by
  obtain ⟨requests,applications⟩ := idle
  have same : effects id after = effects id s.world := by rw [effects,applications,effects]
  refine ⟨?_,?_,?_,?_⟩
  · simp only [requests]
    exact sound.keyed
  · exact (le_of_eq same).trans sound.once
  · simp only [requests,same]
    exact sound.applied
  · exact same_kept sound requests

private theorem acceptedBy_cases {accepted : List (Call × DecisionRequest)} {entry : Call × DecisionRequest}
    (member : entry ∈ acceptedBy c accepted) : entry ∈ accepted ∨ acceptedBy c [] = [entry] := by
  cases c with
  | recordDecision call input =>
    rcases List.mem_append.mp member with old | new
    · exact Or.inl old
    · rw [List.mem_singleton.mp new]
      exact Or.inr rfl
  | withdraw tc reason => exact Or.inl member

private theorem written_sound (sound : Sound id s) (stored : s.world.requests.lookup id = some ⟨c.tc.tenantId,request⟩)
    {after : World} {updated : WorkflowRequest} (computed : Computed id c request s.world after updated) :
    Sound id ((requestProtocol env id).write { s with world := after } c updated) := by
  obtain ⟨own,tenant⟩ := sound.keyed _ stored
  obtain ⟨requests,⟨same,owner⟩,once,applied,kept,recorded⟩ := computed
  have target : updated.id = id := same.trans own
  have owned : ∀ row, after.requests.lookup updated.id = some row → row.tenantId = c.tc.tenantId := by
    intro row found
    rw [requests,target,stored] at found
    cases found
    rfl
  have here := commit_saved owned
  have log := @commit_applications c.tc after (.ok updated)
  simp only [commit] at here log
  simp only [requestProtocol]
  rcases saving : saveRequest c.tc updated after with ⟨last,outcome⟩
  rw [saving] at here log
  rw [target] at here
  have total : effects id last = effects id after := by rw [effects,log,effects]
  have stays : ∀ accepted, (∀ entry ∈ accepted, entry ∈ s.accepted ∨ acceptedBy c [] = [entry]) →
      Sound id ⟨last,accepted⟩ := by
    intro accepted entries
    refine ⟨?_,?_,?_,?_⟩
    · intro row found
      rw [here] at found
      cases found
      exact ⟨target,rfl⟩
    · exact (le_of_eq total).trans once
    · intro some
      rw [total] at some
      exact ⟨_,here,applied some⟩
    · intro entry member
      refine ⟨_,here,?_⟩
      rcases entries entry member with old | new
      · obtain ⟨row,found,d,held,records⟩ := sound.kept entry old
        rw [stored] at found
        cases found
        exact ⟨d,kept d held,records⟩
      · exact recorded entry new
  cases outcome with
  | error e => exact stays s.accepted (fun entry member => Or.inl member)
  | ok saved => exact stays _ (fun entry member => acceptedBy_cases member)

theorem atomically_sound (env : Environment) (s : Shared) (c : ClientCall) (sound : Sound id s) :
    Sound id (atomically (requestProtocol env id) s c) := by
  unfold atomically
  split
  · exact sound
  · rename_i request read
    have stored : s.world.requests.lookup id = some ⟨c.tc.tenantId,request⟩ := getOwned_eq_some_iff.mp read
    simp only [requestProtocol]
    rcases computed : computeCall env id c request s.world with ⟨after,outcome⟩
    rcases computeCall_cases sound stored computed with ⟨e,rfl,idle⟩ | ⟨updated,rfl,result⟩
    · exact idle_sound sound idle
    · exact @written_sound env id s c request sound stored after updated result

theorem underway_sound {after : Shared} {updated : WorkflowRequest} (sound : Sound id s)
    (read : (requestProtocol env id).read s c = some request)
    (compute : (requestProtocol env id).compute s c request = (after, some updated)) :
    AppliedAtMostOnce id after ∧ DecisionsKept id after := by
  have stored : s.world.requests.lookup id = some ⟨c.tc.tenantId,request⟩ := getOwned_eq_some_iff.mp read
  simp only [requestProtocol] at compute
  rcases computed : computeCall env id c request s.world with ⟨w,outcome⟩
  rw [computed] at compute
  rcases computeCall_cases sound stored computed with ⟨e,rfl,idle⟩ | ⟨result,rfl,facts⟩
  · cases compute
  · cases compute
    exact ⟨facts.once,same_kept sound facts.requests⟩

end Calls

/-- In every interleaving of decisions and withdrawals on a request in which no
client reads it while another is between its read and its write, the applier's
effect happens at most once and every accepted decision is in the stored request. -/
theorem applied_once_when_exclusive {Client : Type} [DecidableEq Client] (env : Environment) (id : String) (start : Shared)
    (opening : Opening id start) (actions : List (Action Client ClientCall))
    (exclusive : Along (advance (requestProtocol env id)) Exclusive (System.quiet start) actions) :
    AppliedAtMostOnce id (run (advance (requestProtocol env id)) (System.quiet start) actions).world ∧
      DecisionsKept id (run (advance (requestProtocol env id)) (System.quiet start) actions).world := by
  have first : Sound id start := by
    obtain ⟨keyed,unapplied,unread⟩ := opening
    refine ⟨keyed,?_,fun some => absurd unapplied some,?_⟩
    · rw [AppliedAtMostOnce,unapplied]
      exact Nat.zero_le 1
    · rw [DecisionsKept,unread]
      intro entry member
      cases member
  refine @exclusive_preserves _ Client _ _ _ _ _ start (Sound id) (fun s => AppliedAtMostOnce id s ∧ DecisionsKept id s)
    ?_ ?_ ?_ first actions exclusive
  · intro s sound
    exact ⟨sound.once,sound.kept⟩
  · intro s c sound
    exact atomically_sound env s c sound
  · intro s c request after updated sound read compute
    exact underway_sound sound read compute

theorem accepted_atomically {env : Environment} {id : String} {s : Shared} {c : ClientCall} {entry : Call × DecisionRequest}
    (member : entry ∈ (atomically (requestProtocol env id) s c).accepted) : entry ∈ s.accepted ∨ c = .recordDecision entry.1 entry.2 := by
  unfold atomically requestProtocol at member
  dsimp only at member
  split at member
  · exact Or.inl member
  · rename_i request read
    rcases computed : computeCall env id c request s.world with ⟨after,e | updated⟩
    · rw [computed] at member
      exact Or.inl member
    · rw [computed] at member
      dsimp only at member
      split at member
      · exact Or.inl member
      · cases c with
        | withdraw tc reason => exact Or.inl member
        | recordDecision call input =>
          rcases List.mem_append.mp member with old | new
          · exact Or.inl old
          · rw [List.mem_singleton.mp new]
            exact Or.inr rfl

/-- Once the clients of such an interleaving are idle, the service is as some of their
calls, served one after the other, leave it, every accepted decision among them. -/
theorem exclusive_serializable {Client : Type} [DecidableEq Client] (env : Environment) (id : String) (start : Shared)
    (actions : List (Action Client ClientCall)) (exclusive : Along (advance (requestProtocol env id)) Exclusive (System.quiet start) actions)
    (settled : ∀ client, (run (advance (requestProtocol env id)) (System.quiet start) actions).phase client = .idle) :
    ∃ calls : List ClientCall, (∀ c ∈ calls, ∃ client, .read client c ∈ actions) ∧
      (run (advance (requestProtocol env id)) (System.quiet start) actions).world.world =
        run (serve env) start.world (calls.map (ClientCall.on id)) ∧
      ∀ entry ∈ (run (advance (requestProtocol env id)) (System.quiet start) actions).world.accepted,
        entry ∈ start.accepted ∨ .recordDecision entry.1 entry.2 ∈ calls := by
  obtain ⟨calls,begun,same⟩ := serial_of_exclusive exclusive settled
  refine ⟨calls,begun,?_,?_⟩
  all_goals
    rw [same]
    clear same begun exclusive settled
    induction calls generalizing start with
    | nil => simp
    | cons c rest ih => ?_
  · rw [run_cons,ih,atomically_serves]
    rfl
  · intro entry member
    rcases ih _ entry member with before | later
    · rcases accepted_atomically before with old | rfl
      · exact Or.inl old
      · exact Or.inr List.mem_cons_self
    · exact Or.inr (List.mem_cons_of_mem _ later)

def overrideApproval : WorkflowDefinition where
  id := "wf-def-override-approval"
  requestType := "OVERRIDE_APPROVAL"
  triggerCondition := ⟨none,[],true⟩
  stages := [serialStage "stage-override-security" "Security & Compliance Review" 1
    ⟨.role,some "SECURITY_ADMIN",[],"TENANT_ADMIN"⟩]
  slaWorkingHours := 24
  workingScheduleId := "WW_STANDARD_MON_FRI"
  escalationPath := ⟨"TENANT_ADMIN",12,[],none,false⟩
  autoRejectOnExpiry := true

def overrideStore : Shared :=
  ⟨run (serve (governedBy overrideApproval)) World.blank [submission "OVERRIDE_APPROVAL" 0],[]⟩

def overrideProtocol : Protocol Shared ClientCall WorkflowRequest WorkflowRequest :=
  requestProtocol (governedBy overrideApproval) "wf-req-t-1-a"

def clientApproval (userId token : String) : ClientCall := .recordDecision (callBy userId token .applied) ⟨.approve,none⟩

def racingApprovals : List (Action Bool ClientCall) :=
  [.read true (clientApproval "sec-lead" "b"), .read false (clientApproval "user-security-lead" "c"), .compute true,
    .compute false, .write true, .write false]

def orderedApprovals : List (Action Bool ClientCall) :=
  [.read true (clientApproval "sec-lead" "b"), .compute true, .write true,
    .read false (clientApproval "user-security-lead" "c"), .compute false, .write false]

private theorem overrideStore_opening : Opening "wf-req-t-1-a" overrideStore := by
  refine ⟨?_,by decide +kernel,rfl⟩
  have blank : Keyed World.blank := keyed_empty rfl
  exact run_invariant serve_keyed [submission "OVERRIDE_APPROVAL" 0] blank "wf-req-t-1-a"

private theorem kept_identifiers {id : String} {s : Shared} (kept : DecisionsKept id s) :
    ∀ entry ∈ s.accepted, (s.world.requests.lookup id).any (fun row => row.entity.stages.any (fun stage =>
      stage.decisions.any (fun d => d.decisionId = "dec-" ++ entry.1.token))) = true := by
  intro entry member
  obtain ⟨row,found,d,⟨stage,inside,decided⟩,records⟩ := kept entry member
  rw [found,Option.any_some,List.any_eq_true]
  refine ⟨stage,inside,?_⟩
  rw [List.any_eq_true]
  exact ⟨d,decided,by simp [records.decisionId]⟩

/-- Two approvers who read the request before either writes it run the applier
twice, and the first decision is overwritten. -/
theorem racing_approvals_apply_twice :
    Opening "wf-req-t-1-a" overrideStore ∧
      ¬ AppliedAtMostOnce "wf-req-t-1-a" (run (advance overrideProtocol) (System.quiet overrideStore) racingApprovals).world ∧
      ¬ DecisionsKept "wf-req-t-1-a" (run (advance overrideProtocol) (System.quiet overrideStore) racingApprovals).world := by
  refine ⟨overrideStore_opening,?_,?_⟩
  · unfold AppliedAtMostOnce
    decide +kernel
  · intro kept
    exact absurd (kept_identifiers kept) (by decide +kernel)

private theorem idle_of_check {phase : Phase ClientCall WorkflowRequest WorkflowRequest}
    (check : (match phase with | .idle => true | _ => false) = true) : phase = .idle := by
  split at check
  · rfl
  · cases check

private theorem exclusive_of_idle {s : System Shared Bool ClientCall WorkflowRequest WorkflowRequest} {client : Bool}
    {call : ClientCall} (check : (match s.phase (!client) with | .idle => true | _ => false) = true) :
    Exclusive s (.read client call) := by
  intro other distinct
  have opposite : other = !client := by
    cases other <;> cases client <;> simp_all
  subst opposite
  exact idle_of_check check

theorem applied_once_when_exclusive_override :
    (run (advance overrideProtocol) (System.quiet overrideStore) orderedApprovals).world.accepted.length = 1 ∧
      AppliedAtMostOnce "wf-req-t-1-a" (run (advance overrideProtocol) (System.quiet overrideStore) orderedApprovals).world ∧
      DecisionsKept "wf-req-t-1-a" (run (advance overrideProtocol) (System.quiet overrideStore) orderedApprovals).world :=
  ⟨by decide +kernel,applied_once_when_exclusive (governedBy overrideApproval) "wf-req-t-1-a" overrideStore
    overrideStore_opening orderedApprovals
    ⟨exclusive_of_idle (by decide +kernel),trivial,trivial,exclusive_of_idle (by decide +kernel),trivial,trivial,trivial⟩⟩

theorem exclusive_serializable_override : ∃ calls : List ClientCall, calls ≠ [] ∧
    (run (advance overrideProtocol) (System.quiet overrideStore) orderedApprovals).world.world =
      run (serve (governedBy overrideApproval)) overrideStore.world (calls.map (ClientCall.on "wf-req-t-1-a")) := by
  obtain ⟨calls,_,same,accepted⟩ := exclusive_serializable (governedBy overrideApproval) "wf-req-t-1-a" overrideStore orderedApprovals
    ⟨exclusive_of_idle (by decide +kernel),trivial,trivial,exclusive_of_idle (by decide +kernel),trivial,trivial,trivial⟩
    (by
      intro client
      cases client
      · exact idle_of_check (by decide +kernel)
      · exact idle_of_check (by decide +kernel))
  refine ⟨calls,?_,same⟩
  have one : (run (advance overrideProtocol) (System.quiet overrideStore) orderedApprovals).world.accepted.length = 1 := by decide +kernel
  obtain ⟨entry,shape⟩ := List.length_eq_one_iff.mp one
  rcases accepted entry (shape ▸ List.mem_singleton_self entry) with old | served
  · cases old
  · exact List.ne_nil_of_mem served

end CloudLens.Workflows
