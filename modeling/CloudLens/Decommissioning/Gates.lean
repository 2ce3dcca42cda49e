import CloudLens.Decommissioning.Model
import CloudLens.Library.Runs
import Mathlib.Data.List.Forall2

/-! Which gates a resource has passed when it is gone. A run notes beside the engine how many
dependencies each resource had when it entered its state, and which resources were verified
to cost nothing while they were deleted. -/
namespace CloudLens.Decommissioning
open Library Library.Runs
open Library.Calendar (Instant)

structure World where
  service : Service
  marks : String → ℕ
  stopped : List String

namespace World

def stateOf (s : Service) (id : String) : Option LifecycleState := (s.resources.lookup id).map LifecycleResource.currentState

def start (resources : Table String LifecycleResource) : World := ⟨⟨resources,∅⟩,fun _ => 0,[]⟩

def step (w : World) (call : Call) : World where
  service := (w.service.perform call).1
  marks := fun id =>
    if stateOf (w.service.perform call).1 id = stateOf w.service id then w.marks id
    else (((w.service.perform call).1.resources.lookup id).map (fun r => r.inboundDependencies.length)).getD 0
  stopped := match call with
    | .verifyCostStop id amount _ _ =>
      if Service.cents amount = 0 ∧ stateOf w.service id = some .deleted then id :: w.stopped else w.stopped
    | _ => w.stopped

end World

def Service.Fresh (s : Service) : Call → Prop
  | .submitDecommissioningRequest requestId _ _ _ _ _ _ => s.requests.lookup requestId = none
  | _ => True

def Leaving (state : LifecycleState) : Prop := state = .pendingDeletion ∨ state = .deleted ∨ state = .retired

def Approved (s : Service) (id : String) : Prop :=
  ∃ requestId request, s.requests.lookup requestId = some request ∧ request.isApproved ∧ id ∈ request.resourceIds

def SignedOff (dependencies : List DependencyAcknowledgement) : Prop := ∀ dep ∈ dependencies, dep.isCrossTeam → dep.isAcknowledged

structure Gated (w : World) (id : String) (resource : LifecycleResource) : Prop where
  acknowledged : SignedOff (resource.inboundDependencies.take (w.marks id))
  retention : resource.unsatisfied = none
  approved : Approved w.service id
  costStopped : resource.currentState = .retired → id ∈ w.stopped

section Runs

variable (resources : Table String LifecycleResource)

def Registered (id : String) : Prop :=
  ∃ ownerTeam monthlyRunRate initialState retentionObligation, (initialState = .requested ∨ initialState = .active) ∧
    resources.lookup id = some (registerResource ownerTeam monthlyRunRate initialState retentionObligation)

def GatesHold (w : World) : Prop :=
  ∀ id, Registered resources id → ∀ resource, w.service.resources.lookup id = some resource → Leaving resource.currentState →
    Gated w id resource

/-- A call that takes a registered resource towards its end finds its dependencies signed off and its
request approved, and only a verification of nothing retires it. -/
def Orderly (w : World) : Call → Prop
  | .transitionState id targetState _ => Registered resources id → ∀ resource, w.service.resources.lookup id = some resource →
    targetState ∈ permittedTransitions resource.currentState → targetState ≠ .retired ∧
      (targetState = .pendingDeletion ∨ targetState = .deleted → resource.unsatisfied = none →
        SignedOff resource.inboundDependencies ∧ Approved w.service id)
  | .verifyCostStop id amount _ _ => Registered resources id → ∀ resource, w.service.resources.lookup id = some resource →
    resource.currentState = .deleted → Service.cents amount ≤ 0 →
      Service.cents amount = 0 ∧ SignedOff resource.inboundDependencies ∧ Approved w.service id
  | _ => True

end Runs

structure Follows (before after : LifecycleResource) : Prop where
  dependencies : ∃ kept added, after.inboundDependencies = kept ++ added ∧
    List.Forall₂ (fun a b => b.isCrossTeam = a.isCrossTeam ∧ (a.isAcknowledged → b.isAcknowledged)) before.inboundDependencies kept
  retention : before.unsatisfied = none → after.unsatisfied = none

section Resources

variable {resource after : LifecycleResource}

theorem unchanged_dependencies (dependencies : List DependencyAcknowledgement) :
    List.Forall₂ (fun a b => b.isCrossTeam = a.isCrossTeam ∧ (a.isAcknowledged → b.isAcknowledged)) dependencies dependencies :=
  List.forall₂_same.mpr (fun _ _ => ⟨rfl,id⟩)

theorem follows_of_eq (dependencies : after.inboundDependencies = resource.inboundDependencies)
    (retention : after.retentionObligation = resource.retentionObligation) : Follows resource after := by
  refine ⟨⟨resource.inboundDependencies,[],?_,unchanged_dependencies _⟩,?_⟩
  · rw [dependencies,List.append_nil]
  · unfold LifecycleResource.unsatisfied
    rw [retention]
    exact id

theorem signedOff_follows (follows : Follows resource after) {mark : ℕ} (within : mark ≤ resource.inboundDependencies.length)
    (signed : SignedOff (resource.inboundDependencies.take mark)) : SignedOff (after.inboundDependencies.take mark) := by
  obtain ⟨kept,added,split,related⟩ := follows.dependencies
  rw [split,List.take_append_of_le_length (related.length_eq ▸ within)]
  intro dep member
  obtain ⟨i,bound,rfl⟩ := List.mem_iff_getElem.mp member
  have taken := List.forall₂_take mark related
  obtain ⟨cross,acknowledged⟩ := taken.get (by rw [taken.length_eq]; exact bound) bound
  intro crossing
  exact acknowledged (signed _ (List.getElem_mem _) (cross.symm.trans crossing))

theorem transition_ok {id : String} {targetState : LifecycleState} {now : Instant}
    (moved : resource.transition id targetState now = .ok after) :
    targetState ∈ permittedTransitions resource.currentState ∧
      (targetState = .pendingDeletion ∨ targetState = .deleted → resource.unsatisfied = none) ∧
      after.currentState = targetState ∧ after.inboundDependencies = resource.inboundDependencies ∧
      after.retentionObligation = resource.retentionObligation := by
  unfold LifecycleResource.transition at moved
  split at moved
  · cases moved
  · rename_i permitted
    split at moved
    · cases moved
    · split at moved
      · cases moved
      · rename_i satisfied
        cases moved
        refine ⟨not_not.mp permitted,?_,rfl,rfl,rfl⟩
        intro gate
        rw [if_pos gate] at satisfied
        exact satisfied

theorem acknowledgeFirst_related {dependencyId acknowledgedBy : String} {now : Instant}
    {dependencies acknowledged : List DependencyAcknowledgement}
    (found : LifecycleResource.acknowledgeFirst dependencyId acknowledgedBy now dependencies = some acknowledged) :
    List.Forall₂ (fun a b => b.isCrossTeam = a.isCrossTeam ∧ (a.isAcknowledged → b.isAcknowledged)) dependencies acknowledged := by
  induction dependencies generalizing acknowledged with
  | nil => cases found
  | cons dep rest ih =>
    unfold LifecycleResource.acknowledgeFirst at found
    split at found
    · cases found
      exact List.Forall₂.cons ⟨rfl,fun _ => rfl⟩ (unchanged_dependencies rest)
    · obtain ⟨later,deeper,rfl⟩ := Option.map_eq_some_iff.mp found
      exact List.Forall₂.cons ⟨rfl,id⟩ (ih deeper)

theorem retire_kept (now : Instant) : (resource.retire now).inboundDependencies = resource.inboundDependencies ∧
    (resource.retire now).retentionObligation = resource.retentionObligation := by
  unfold LifecycleResource.retire
  split <;> exact ⟨rfl,rfl⟩

end Resources

section Calls

variable {s : Service} {id resourceId : String} {resource after : LifecycleResource}

theorem lookup_setResource (s : Service) (resourceId : String) (resource : LifecycleResource) (id : String) :
    (s.setResource resourceId resource).resources.lookup id = if id = resourceId then some resource else s.resources.lookup id :=
  Table.lookup_overwrite s.resources resourceId id resource

theorem onResource_cases (s : Service) (resourceId : String)
    (operation : LifecycleResource → Except LifecycleError LifecycleResource) :
    (∃ resource after, s.resources.lookup resourceId = some resource ∧ operation resource = .ok after ∧
      s.onResource resourceId operation = (s.setResource resourceId after, none)) ∨
    (s.onResource resourceId operation).1 = s ∧
      ∀ resource, s.resources.lookup resourceId = some resource → ∃ failure, operation resource = .error failure := by
  cases found : s.resources.lookup resourceId with
  | none =>
    refine Or.inr ⟨by simp [Service.onResource,found],?_⟩
    intro resource held
    cases held
  | some resource =>
    cases applied : operation resource with
    | ok after => exact Or.inl ⟨resource,after,rfl,applied,by simp [Service.onResource,found,applied]⟩
    | error failure =>
      refine Or.inr ⟨by simp [Service.onResource,found,applied],?_⟩
      intro other same
      cases same
      exact ⟨failure,applied⟩

theorem onResource_before {operation : LifecycleResource → Except LifecycleError LifecycleResource}
    (held : (s.onResource resourceId operation).1.resources.lookup id = some after) :
    s.resources.lookup id = some after ∨
      ∃ resource, id = resourceId ∧ s.resources.lookup id = some resource ∧ operation resource = .ok after := by
  obtain ⟨resource,made,found,applied,saved⟩ | ⟨unchanged,_⟩ := onResource_cases s resourceId operation
  · rw [saved,lookup_setResource] at held
    split at held
    · rename_i same
      cases held
      exact Or.inr ⟨resource,same,same ▸ found,applied⟩
    · exact Or.inl held
  · rw [unchanged] at held
    exact Or.inl held

theorem onResource_requests (s : Service) (resourceId : String)
    (operation : LifecycleResource → Except LifecycleError LifecycleResource) :
    (s.onResource resourceId operation).1.requests = s.requests := by
  obtain ⟨_,_,_,_,saved⟩ | ⟨unchanged,_⟩ := onResource_cases s resourceId operation
  · rw [saved]
    rfl
  · rw [unchanged]

theorem transitionEach_requests {targetState : LifecycleState} {now : Instant} (resourceIds : List String) :
    (s.transitionEach targetState now resourceIds).1.requests = s.requests := by
  induction resourceIds generalizing s with
  | nil => rfl
  | cons first rest ih =>
    have same := onResource_requests s first (fun resource => resource.transition first targetState now)
    unfold Service.transitionEach Service.transitionState
    split
    · rename_i moved outcome
      rw [outcome] at same
      rw [ih,same]
    · rename_i moved failure outcome
      rw [outcome] at same
      exact same

theorem transitionEach_before {targetState : LifecycleState} {now : Instant} {resourceIds : List String}
    (held : (s.transitionEach targetState now resourceIds).1.resources.lookup id = some after) :
    ∃ resource, s.resources.lookup id = some resource ∧ (after = resource ∨ resource.currentState ≠ .retired ∧
      after.currentState = targetState ∧ after.inboundDependencies = resource.inboundDependencies ∧
      after.retentionObligation = resource.retentionObligation) := by
  induction resourceIds generalizing s with
  | nil => exact ⟨after,held,Or.inl rfl⟩
  | cons first rest ih =>
    have one : ∀ {moved}, (s.transitionState first targetState now).1.resources.lookup id = some moved →
        ∃ resource, s.resources.lookup id = some resource ∧ (moved = resource ∨ resource.currentState ≠ .retired ∧
          moved.currentState = targetState ∧ moved.inboundDependencies = resource.inboundDependencies ∧
          moved.retentionObligation = resource.retentionObligation) := by
      intro moved there
      obtain same | ⟨resource,_,found,applied⟩ := onResource_before there
      · exact ⟨moved,same,Or.inl rfl⟩
      · obtain ⟨permitted,_,moves⟩ := transition_ok applied
        refine ⟨resource,found,Or.inr ⟨?_,moves⟩⟩
        intro retired
        rw [retired] at permitted
        cases permitted
    unfold Service.transitionEach at held
    split at held
    · rename_i moved outcome
      rw [outcome] at one
      obtain ⟨middle,found,later⟩ := ih held
      obtain ⟨resource,earlier,sooner⟩ := one found
      refine ⟨resource,earlier,?_⟩
      obtain rfl | ⟨active,state,dependencies,retention⟩ := later
      · exact sooner
      · obtain rfl | ⟨activeBefore,_,dependenciesBefore,retentionBefore⟩ := sooner
        · exact Or.inr ⟨active,state,dependencies,retention⟩
        · exact Or.inr ⟨activeBefore,state,dependencies.trans dependenciesBefore,retention.trans retentionBefore⟩
    · rename_i moved failure outcome
      rw [outcome] at one
      exact one held

theorem follows_refl (resource : LifecycleResource) : Follows resource resource := follows_of_eq rfl rfl

theorem submit_resources (s : Service) (requestId : String) (resourceIds : List String) (proposingActor proposerTeam justification : String)
    (workflow : Option (Except Unit String)) (now : Instant) :
    (s.submitDecommissioningRequest requestId resourceIds proposingActor proposerTeam justification workflow now).1.resources =
        (s.transitionEach .decommissionProposed now resourceIds).1.resources ∨
      (s.submitDecommissioningRequest requestId resourceIds proposingActor proposerTeam justification workflow now).1.resources =
        s.resources := by
  unfold Service.submitDecommissioningRequest
  split
  · exact Or.inr rfl
  · cases outcome : s.transitionEach .decommissionProposed now resourceIds with
    | mk moved answer =>
      cases answer with
      | some failure => exact Or.inl rfl
      | none => rcases workflow with _ | (_ | _) <;> exact Or.inl rfl

theorem approve_resources (s : Service) (requestId approverId : String) (now : Instant) :
    (s.approveDecommissioningRequest requestId approverId now).1.resources = s.resources ∨
      ∃ resourceIds, (s.approveDecommissioningRequest requestId approverId now).1.resources =
        (s.transitionEach .decommissionApproved now resourceIds).1.resources := by
  unfold Service.approveDecommissioningRequest
  split
  · exact Or.inl rfl
  · rename_i request found
    cases outcome : s.transitionEach .decommissionApproved now request.resourceIds with
    | mk moved answer =>
      refine Or.inr ⟨request.resourceIds,?_⟩
      rw [outcome]
      cases answer <;> rfl

/-- How a call may have brought a resource where it is: in the state it was in, in one that is
no end, by a transition, or by a verification that found it deleted. -/
def Brought (call : Call) (id : String) (resource after : LifecycleResource) : Prop :=
  after.currentState = resource.currentState ∨ ¬Leaving after.currentState ∧ resource.currentState ≠ .retired ∨
    (∃ targetState now, call = .transitionState id targetState now ∧ resource.transition id targetState now = .ok after) ∨
    ∃ amount taskId now, call = .verifyCostStop id amount taskId now ∧ resource.currentState = .deleted ∧
      Service.cents amount ≤ 0 ∧ after = resource.retire now

theorem brought_each {call : Call} {targetState : LifecycleState} {now : Instant} {resourceIds : List String}
    (staying : ¬Leaving targetState) (held : (s.transitionEach targetState now resourceIds).1.resources.lookup id = some after) :
    ∃ resource, s.resources.lookup id = some resource ∧ Follows resource after ∧ Brought call id resource after := by
  obtain ⟨resource,found,rfl | ⟨active,state,dependencies,retention⟩⟩ := transitionEach_before held
  · exact ⟨after,found,follows_refl after,Or.inl rfl⟩
  · refine ⟨resource,found,follows_of_eq dependencies retention,Or.inr (Or.inl ⟨?_,active⟩)⟩
    rw [state]
    exact staying

theorem perform_before {call : Call} (held : (s.perform call).1.resources.lookup id = some after) :
    ∃ resource, s.resources.lookup id = some resource ∧ Follows resource after ∧ Brought call id resource after := by
  have alone : s.resources.lookup id = some after →
      ∃ resource, s.resources.lookup id = some resource ∧ Follows resource after ∧ Brought call id resource after :=
    fun same => ⟨after,same,follows_refl after,Or.inl rfl⟩
  cases call with
  | addInboundDependency resourceId dependencyId dependentOwnerTeam =>
    obtain same | ⟨resource,_,found,applied⟩ := onResource_before held
    · exact alone same
    · cases applied
      exact ⟨resource,found,⟨⟨_,_,rfl,unchanged_dependencies _⟩,fun kept => kept⟩,Or.inl rfl⟩
  | acknowledgeDependency resourceId dependencyId acknowledgedBy now =>
    obtain same | ⟨resource,_,found,applied⟩ := onResource_before held
    · exact alone same
    · split at applied
      · cases applied
      · rename_i dependencies acknowledged
        cases applied
        refine ⟨resource,found,⟨⟨dependencies,[],?_,acknowledgeFirst_related acknowledged⟩,fun kept => kept⟩,Or.inl rfl⟩
        rw [List.append_nil]
  | transitionState resourceId targetState now =>
    obtain same | ⟨resource,rfl,found,applied⟩ := onResource_before held
    · exact alone same
    · obtain ⟨_,_,_,dependencies,retention⟩ := transition_ok applied
      exact ⟨resource,found,follows_of_eq dependencies retention,Or.inr (Or.inr (Or.inl ⟨targetState,now,rfl,applied⟩))⟩
  | satisfyRetentionObligation resourceId complianceOfficerId notes now =>
    obtain same | ⟨resource,_,found,applied⟩ := onResource_before held
    · exact alone same
    · split at applied
      · cases applied
      · cases applied
        refine ⟨resource,found,⟨⟨_,[],?_,unchanged_dependencies _⟩,fun _ => rfl⟩,Or.inl rfl⟩
        rw [List.append_nil]
        rfl
  | submitDecommissioningRequest requestId resourceIds proposingActor proposerTeam justification workflow now =>
    have resources := submit_resources s requestId resourceIds proposingActor proposerTeam justification workflow now
    unfold Service.perform at held
    obtain moved | same := resources
    · rw [moved] at held
      exact brought_each (by rintro (left | left | left) <;> cases left) held
    · rw [same] at held
      exact alone held
  | approveDecommissioningRequest requestId approverId now =>
    have resources := approve_resources s requestId approverId now
    unfold Service.perform at held
    obtain same | ⟨resourceIds,moved⟩ := resources
    · rw [same] at held
      exact alone held
    · rw [moved] at held
      exact brought_each (by rintro (left | left | left) <;> cases left) held
  | verifyCostStop resourceId amount taskId now =>
    unfold Service.perform Service.verifyCostStop at held
    dsimp only at held
    split at held
    · exact alone held
    · rename_i resource found
      split at held
      · rw [lookup_setResource] at held
        split at held
        · rename_i same
          subst same
          cases held
          exact ⟨resource,found,follows_of_eq rfl rfl,Or.inl rfl⟩
        · exact alone held
      · rename_i cheap
        rw [lookup_setResource] at held
        split at held
        · rename_i same
          subst same
          cases held
          refine ⟨resource,found,follows_of_eq (retire_kept now).1 (retire_kept now).2,?_⟩
          by_cases deleted : resource.currentState = .deleted
          · exact Or.inr (Or.inr (Or.inr ⟨amount,taskId,now,rfl,deleted,not_lt.mp cheap,rfl⟩))
          · exact Or.inl (by rw [LifecycleResource.retire,if_neg deleted])
        · exact alone held

theorem lookup_setRequest (s : Service) (requestId : String) (request : DecommissioningRequest) (id : String) :
    (s.setRequest requestId request).requests.lookup id = if id = requestId then some request else s.requests.lookup id :=
  Table.lookup_overwrite s.requests requestId id request

theorem approved_of_requests {t : Service} (same : t.requests = s.requests) (approved : Approved s id) : Approved t id := by
  obtain ⟨requestId,request,found,approval,named⟩ := approved
  exact ⟨requestId,request,same ▸ found,approval,named⟩

theorem approved_perform {call : Call} (fresh : s.Fresh call) (approved : Approved s id) : Approved (s.perform call).1 id := by
  cases call with
  | addInboundDependency resourceId dependencyId dependentOwnerTeam =>
    exact approved_of_requests (onResource_requests s resourceId _) approved
  | acknowledgeDependency resourceId dependencyId acknowledgedBy now =>
    exact approved_of_requests (onResource_requests s resourceId _) approved
  | transitionState resourceId targetState now => exact approved_of_requests (onResource_requests s resourceId _) approved
  | satisfyRetentionObligation resourceId complianceOfficerId notes now =>
    exact approved_of_requests (onResource_requests s resourceId _) approved
  | submitDecommissioningRequest requestId resourceIds proposingActor proposerTeam justification workflow now =>
    unfold Service.perform Service.submitDecommissioningRequest
    dsimp only
    split
    · exact approved
    · have same : (s.transitionEach .decommissionProposed now resourceIds).1.requests = s.requests :=
        transitionEach_requests resourceIds
      obtain ⟨approvedId,request,found,approval,named⟩ := approved
      have other : approvedId ≠ requestId := by
        rintro rfl
        rw [Service.Fresh,found] at fresh
        cases fresh
      have kept : ∀ proposed, Approved ((s.transitionEach .decommissionProposed now resourceIds).1.setRequest requestId proposed) id := by
        intro proposed
        refine ⟨approvedId,request,?_,approval,named⟩
        rw [lookup_setRequest,if_neg other,same]
        exact found
      cases outcome : s.transitionEach .decommissionProposed now resourceIds with
      | mk moved answer =>
        rw [outcome] at same kept
        have still : Approved moved id := ⟨approvedId,request,by rw [same]; exact found,approval,named⟩
        cases answer with
        | some failure => exact still
        | none =>
          obtain _ | _ | workflowRequestId := workflow
          · exact kept _
          · exact still
          · exact kept _
  | approveDecommissioningRequest requestId approverId now =>
    unfold Service.perform Service.approveDecommissioningRequest
    dsimp only
    split
    · exact approved
    · rename_i proposed pending
      have same : (s.transitionEach .decommissionApproved now proposed.resourceIds).1.requests = s.requests :=
        transitionEach_requests proposed.resourceIds
      obtain ⟨approvedId,request,found,approval,named⟩ := approved
      cases outcome : s.transitionEach .decommissionApproved now proposed.resourceIds with
      | mk moved answer =>
        rw [outcome] at same
        cases answer with
        | some failure => exact ⟨approvedId,request,by rw [same]; exact found,approval,named⟩
        | none =>
          by_cases again : approvedId = requestId
          · subst again
            rw [found] at pending
            cases pending
            refine ⟨approvedId,{ proposed with isApproved := true, approvedBy := some approverId, approvedAt := some now },?_,rfl,named⟩
            rw [lookup_setRequest,if_pos rfl]
          · refine ⟨approvedId,request,?_,approval,named⟩
            rw [lookup_setRequest,if_neg again,same]
            exact found
  | verifyCostStop resourceId amount taskId now =>
    unfold Service.perform Service.verifyCostStop
    dsimp only
    split
    · exact approved
    · split <;> exact approved_of_requests rfl approved

end Calls

section Steps

variable {resources : Table String LifecycleResource} {w : World} {id : String} {resource after : LifecycleResource}

/-- What holds of every run: what is due for deletion has met its retention, marks lie within the
dependencies, and what was verified to cost nothing is retired. -/
structure Kept (resources : Table String LifecycleResource) (w : World) : Prop where
  retention : ∀ id, Registered resources id → ∀ resource, w.service.resources.lookup id = some resource →
    Leaving resource.currentState → resource.unsatisfied = none
  within : ∀ id resource, w.service.resources.lookup id = some resource → w.marks id ≤ resource.inboundDependencies.length
  retired : ∀ id ∈ w.stopped, ∀ resource, w.service.resources.lookup id = some resource → resource.currentState = .retired

theorem retention_brought {call : Call} (follows : Follows resource after) (brought : Brought call id resource after)
    (before : Leaving resource.currentState → resource.unsatisfied = none) (leaving : Leaving after.currentState) :
    after.unsatisfied = none := by
  apply follows.retention
  obtain same | ⟨staying,_⟩ | ⟨targetState,now,_,moved⟩ | ⟨amount,taskId,now,_,deleted,_,_⟩ := brought
  · exact before (same ▸ leaving)
  · exact absurd leaving staying
  · obtain ⟨permitted,gate,state,_,_⟩ := transition_ok moved
    rw [state] at leaving
    obtain pending | gone | rfl := leaving
    · exact gate (Or.inl pending)
    · exact gate (Or.inr gone)
    · apply before
      revert permitted
      cases resource.currentState <;> simp [permittedTransitions,Leaving]
  · exact before (Or.inr (Or.inl deleted))

theorem step_service (w : World) (call : Call) : (w.step call).service = (w.service.perform call).1 := rfl

theorem step_marks {call : Call} (before : w.service.resources.lookup id = some resource)
    (held : (w.step call).service.resources.lookup id = some after) :
    (w.step call).marks id = if after.currentState = resource.currentState then w.marks id else after.inboundDependencies.length := by
  rw [step_service] at held
  unfold World.step World.stateOf
  simp only [before,held,Option.map_some,Option.some.injEq,Option.getD_some]

theorem follows_length (follows : Follows resource after) :
    resource.inboundDependencies.length ≤ after.inboundDependencies.length := by
  obtain ⟨kept,added,split,related⟩ := follows.dependencies
  rw [split,List.length_append,related.length_eq]
  exact Nat.le_add_right _ _

theorem step_stopped {call : Call} (member : id ∈ (w.step call).stopped) : id ∈ w.stopped ∨
    ∃ amount taskId now, call = .verifyCostStop id amount taskId now ∧ Service.cents amount = 0 ∧
      World.stateOf w.service id = some .deleted := by
  cases call with
  | verifyCostStop verified amount taskId now =>
    unfold World.step at member
    dsimp only at member
    split at member
    · rename_i nothing
      obtain rfl | earlier := List.mem_cons.mp member
      · exact Or.inr ⟨amount,taskId,now,rfl,nothing⟩
      · exact Or.inl earlier
    · exact Or.inl member
  | _ => exact Or.inl member

theorem retired_verified {amount : ℚ} {taskId : Option String} {now : Instant} (nothing : Service.cents amount ≤ 0)
    (found : w.service.resources.lookup id = some resource) :
    (w.step (.verifyCostStop id amount taskId now)).service.resources.lookup id = some (resource.retire now) := by
  rw [step_service,Service.perform,Service.verifyCostStop,found]
  dsimp only
  rw [if_neg (not_lt.mpr nothing),lookup_setResource,if_pos rfl]

theorem retired_brought {call : Call} (brought : Brought call id resource after) (retired : resource.currentState = .retired) :
    after.currentState = .retired := by
  obtain same | ⟨_,active⟩ | ⟨targetState,now,_,moved⟩ | ⟨amount,taskId,now,_,deleted,_,_⟩ := brought
  · exact same.trans retired
  · exact absurd retired active
  · have permitted := (transition_ok moved).1
    rw [retired] at permitted
    cases permitted
  · rw [retired] at deleted
    cases deleted

theorem kept_step (kept : Kept resources w) (call : Call) : Kept resources (w.step call) := by
  refine ⟨?_,?_,?_⟩
  · intro id registered after held leaving
    obtain ⟨resource,found,follows,brought⟩ := perform_before held
    exact retention_brought follows brought (kept.retention id registered resource found) leaving
  · intro id after held
    obtain ⟨resource,found,follows,_⟩ := perform_before held
    rw [step_marks found held]
    split
    · exact (kept.within id resource found).trans (follows_length follows)
    · exact Nat.le_refl _
  · intro id member after held
    obtain ⟨resource,found,_,brought⟩ := perform_before held
    obtain earlier | ⟨amount,taskId,now,rfl,nothing,deleted⟩ := step_stopped member
    · exact retired_brought brought (kept.retired id earlier resource found)
    · rw [retired_verified (le_of_eq nothing) found] at held
      cases held
      rw [World.stateOf,found,Option.map_some,Option.some.injEq] at deleted
      rw [LifecycleResource.retire,if_pos deleted]

theorem permitted_ne {targetState : LifecycleState} (permitted : targetState ∈ permittedTransitions resource.currentState) :
    targetState ≠ resource.currentState := by
  intro same
  rw [same] at permitted
  revert permitted
  cases resource.currentState <;> decide

theorem gated_unmoved {call : Call} (kept : Kept resources w) (fresh : w.service.Fresh call)
    (found : w.service.resources.lookup id = some resource) (held : (w.step call).service.resources.lookup id = some after)
    (follows : Follows resource after) (unmoved : after.currentState = resource.currentState) (gated : Gated w id resource) :
    Gated (w.step call) id after := by
  refine ⟨?_,follows.retention gated.retention,approved_perform fresh gated.approved,?_⟩
  · rw [step_marks found held,if_pos unmoved]
    exact signedOff_follows follows (kept.within id resource found) gated.acknowledged
  · intro retired
    have earlier := gated.costStopped (unmoved.symm.trans retired)
    cases call with
    | verifyCostStop verified amount taskId now =>
      unfold World.step
      dsimp only
      split
      · exact List.mem_cons_of_mem verified earlier
      · exact earlier
    | _ => exact earlier

theorem gated_moved {call : Call} (fresh : w.service.Fresh call) (found : w.service.resources.lookup id = some resource)
    (held : (w.step call).service.resources.lookup id = some after) (moved : after.currentState ≠ resource.currentState)
    (same : after.inboundDependencies = resource.inboundDependencies) (retention : after.unsatisfied = none)
    (signed : SignedOff resource.inboundDependencies) (approved : Approved w.service id)
    (costStopped : after.currentState = .retired → id ∈ (w.step call).stopped) : Gated (w.step call) id after := by
  refine ⟨?_,retention,approved_perform fresh approved,costStopped⟩
  rw [step_marks found held,if_neg moved,List.take_length,same]
  exact signed

theorem signedOff_moved {call : Call} (found : w.service.resources.lookup id = some resource)
    (held : (w.step call).service.resources.lookup id = some after) (moved : after.currentState ≠ resource.currentState)
    (same : after.inboundDependencies = resource.inboundDependencies) (gated : Gated (w.step call) id after) :
    SignedOff resource.inboundDependencies := by
  have signed := gated.acknowledged
  rw [step_marks found held,if_neg moved,List.take_length,same] at signed
  exact signed

theorem transition_applied (id : String) {targetState : LifecycleState} (now : Instant)
    (permitted : targetState ∈ permittedTransitions resource.currentState) (unapproved : targetState ≠ .decommissionApproved)
    (gate : targetState = .pendingDeletion ∨ targetState = .deleted → resource.unsatisfied = none) :
    ∃ after, resource.transition id targetState now = .ok after := by
  unfold LifecycleResource.transition
  rw [if_neg (not_not.mpr permitted),if_neg unapproved]
  dsimp only
  by_cases gated : targetState = .pendingDeletion ∨ targetState = .deleted
  · rw [if_pos gated,gate gated]
    exact ⟨_,rfl⟩
  · rw [if_neg gated]
    exact ⟨_,rfl⟩

theorem step_transition {targetState : LifecycleState} {now : Instant} (found : w.service.resources.lookup id = some resource)
    (applied : resource.transition id targetState now = .ok after) :
    (w.step (.transitionState id targetState now)).service.resources.lookup id = some after := by
  rw [step_service,Service.perform,Service.transitionState,Service.onResource,found]
  simp only [applied]
  rw [lookup_setResource,if_pos rfl]

theorem orderly_of_gates {call : Call} (kept : Kept resources w) (fresh : w.service.Fresh call)
    (holds : GatesHold resources (w.step call)) : Orderly resources w call := by
  cases call with
  | transitionState id targetState now =>
    intro registered resource found permitted
    have still : (w.step (.transitionState id targetState now)).service.requests = w.service.requests := onResource_requests _ id _
    have leads : targetState = .pendingDeletion ∨ targetState = .deleted ∨ targetState = .retired →
        (targetState = .pendingDeletion ∨ targetState = .deleted → resource.unsatisfied = none) →
        ∃ after, after.currentState = targetState ∧ SignedOff resource.inboundDependencies ∧
          Gated (w.step (.transitionState id targetState now)) id after := by
      intro leaving gate
      have unapproved : targetState ≠ .decommissionApproved := by
        rintro rfl
        obtain left | left | left := leaving <;> cases left
      obtain ⟨after,applied⟩ := transition_applied id now permitted unapproved gate
      obtain ⟨_,_,state,dependencies,_⟩ := transition_ok applied
      have held := step_transition found applied
      have moved : after.currentState ≠ resource.currentState := by
        rw [state]
        exact permitted_ne permitted
      have gated := holds id registered after held (by rw [state]; exact leaving)
      exact ⟨after,state,signedOff_moved found held moved dependencies gated,gated⟩
    refine ⟨?_,?_⟩
    · rintro rfl
      obtain ⟨after,state,_,gated⟩ := leads (Or.inr (Or.inr rfl)) (by rintro (left | left) <;> cases left)
      have already := kept.retired id (gated.costStopped state) resource found
      exact permitted_ne permitted already.symm
    · intro gate satisfied
      obtain ⟨after,_,signed,gated⟩ := leads (gate.imp_right Or.inl) (fun _ => satisfied)
      exact ⟨signed,approved_of_requests still.symm gated.approved⟩
  | verifyCostStop id amount taskId now =>
    intro registered resource found deleted nothing
    have held : (w.step (.verifyCostStop id amount taskId now)).service.resources.lookup id = some (resource.retire now) :=
      retired_verified nothing found
    have state : (resource.retire now).currentState = .retired := by rw [LifecycleResource.retire,if_pos deleted]
    have moved : (resource.retire now).currentState ≠ resource.currentState := by
      rw [state,deleted]
      decide
    have gated := holds id registered _ held (Or.inr (Or.inr state))
    refine ⟨?_,signedOff_moved found held moved (retire_kept now).1 gated,?_⟩
    · obtain earlier | ⟨_,_,_,same,exact_zero,_⟩ := step_stopped (gated.costStopped state)
      · have already := kept.retired id earlier resource found
        rw [deleted] at already
        cases already
      · cases same
        exact exact_zero
    · have still : (w.step (.verifyCostStop id amount taskId now)).service.requests = w.service.requests := by
        rw [step_service,Service.perform,Service.verifyCostStop,found]
        dsimp only
        split <;> rfl
      exact approved_of_requests still.symm gated.approved
  | _ => trivial

theorem gates_of_orderly {call : Call} (kept : Kept resources w) (fresh : w.service.Fresh call) (holds : GatesHold resources w)
    (orderly : Orderly resources w call) : GatesHold resources (w.step call) := by
  intro id registered after held leaving
  obtain ⟨resource,found,follows,brought⟩ := perform_before held
  have retention := retention_brought follows brought (kept.retention id registered resource found) leaving
  by_cases unmoved : after.currentState = resource.currentState
  · exact gated_unmoved kept fresh found held follows unmoved (holds id registered resource found (unmoved ▸ leaving))
  · obtain same | ⟨staying,_⟩ | ⟨targetState,now,rfl,applied⟩ | ⟨amount,taskId,now,rfl,deleted,nothing,rfl⟩ := brought
    · exact absurd same unmoved
    · exact absurd leaving staying
    · obtain ⟨permitted,gate,state,dependencies,_⟩ := transition_ok applied
      obtain ⟨not_retired,clear⟩ := orderly registered resource found permitted
      rw [state] at leaving
      have gated : targetState = .pendingDeletion ∨ targetState = .deleted := by
        obtain pending | gone | retired := leaving
        · exact Or.inl pending
        · exact Or.inr gone
        · exact absurd retired not_retired
      obtain ⟨signed,approved⟩ := clear gated (gate gated)
      refine gated_moved fresh found held unmoved dependencies retention signed approved ?_
      intro retired
      exact absurd (state.symm.trans retired) not_retired
    · obtain ⟨exact_zero,signed,approved⟩ := orderly registered resource found deleted nothing
      refine gated_moved fresh found held unmoved (retire_kept now).1 retention signed approved ?_
      intro _
      unfold World.step World.stateOf
      dsimp only
      rw [found,Option.map_some,deleted,if_pos ⟨exact_zero,rfl⟩]
      exact List.mem_cons_self ..

end Steps

/-- The gates hold in every engine that a run of calls leaves exactly when every call that takes a
registered resource towards its end finds it cleared, and nothing but a verification of no cost
retires it. -/
theorem decommissioning_gated_iff (resources : Table String LifecycleResource) {calls : List Call}
    (fresh : Along World.step (fun w call => w.service.Fresh call) (World.start resources) calls) :
    (∀ done, done <+: calls → GatesHold resources (run World.step (World.start resources) done)) ↔
      Along World.step (Orderly resources) (World.start resources) calls := by
  have unready : ∀ id, Registered resources id → ∀ resource, resources.lookup id = some resource → ¬Leaving resource.currentState := by
    rintro id ⟨_,_,state,_,young,held⟩ resource found leaving
    rw [held] at found
    cases found
    obtain rfl | rfl := young <;> obtain left | left | left := leaving <;> cases left
  apply property_throughout_iff (Kept resources) _ _ _ _ fresh
  · intro w call kept holds drawn
    exact ⟨orderly_of_gates kept drawn,gates_of_orderly kept drawn holds⟩
  · intro w call kept _
    exact kept_step kept call
  · refine ⟨?_,fun _ _ _ => Nat.zero_le _,nofun⟩
    intro id registered resource found leaving
    exact absurd leaving (unready id registered resource found)
  · intro id registered resource found leaving
    exact absurd leaving (unready id registered resource found)

section Shortcut

def machines : Table String LifecycleResource := (∅ : Table String LifecycleResource).insert "vm-1" (registerResource "team-a" 100 .active none)

def decommissioned : List Call :=
  [.submitDecommissioningRequest "dcom-1" ["vm-1"] "ada" "team-a" "unused since May" none 1,
    .approveDecommissioningRequest "dcom-1" "bob" 2, .transitionState "vm-1" .stopped 3, .transitionState "vm-1" .pendingDeletion 4,
    .transitionState "vm-1" .deleted 5, .verifyCostStop "vm-1" (1/1000) none 6]

theorem cleared_of_shown {w : World} {id : String} (requestId : String) {resource : LifecycleResource}
    (alone : (w.service.resources.lookup id).map (fun r => r.inboundDependencies.length) = some 0)
    (shown : (w.service.requests.lookup requestId).any (fun r => r.isApproved && id ∈ r.resourceIds) = true)
    (found : w.service.resources.lookup id = some resource) : SignedOff resource.inboundDependencies ∧ Approved w.service id := by
  rw [found,Option.map_some,Option.some.injEq,List.length_eq_zero_iff] at alone
  obtain ⟨request,held,both⟩ := (Option.any_eq_true ..).mp shown
  rw [Bool.and_eq_true,decide_eq_true_eq] at both
  refine ⟨?_,requestId,request,held,both⟩
  intro dep member
  rw [alone] at member
  cases member

theorem decommissioned_gated : GatesHold machines (run World.step (World.start machines) decommissioned) := by
  have fresh : Along World.step (fun w call => w.service.Fresh call) (World.start machines) decommissioned :=
    ⟨rfl,trivial,trivial,trivial,trivial,trivial,trivial⟩
  refine (decommissioning_gated_iff machines fresh).mpr ⟨trivial,trivial,?_,?_,?_,?_,trivial⟩ _ (List.prefix_refl _)
  · intro _ resource _ _
    exact ⟨by decide,by rintro (left | left) <;> cases left⟩
  · intro _ resource found _
    exact ⟨by decide,fun _ _ => cleared_of_shown "dcom-1" (by decide +kernel) (by decide +kernel) found⟩
  · intro _ resource found _
    exact ⟨by decide,fun _ _ => cleared_of_shown "dcom-1" (by decide +kernel) (by decide +kernel) found⟩
  · intro _ resource found _ _
    exact ⟨by decide +kernel,cleared_of_shown "dcom-1" (by decide +kernel) (by decide +kernel) found⟩

def unrequested : List Call :=
  [.transitionState "vm-1" .decommissionProposed 1, .transitionState "vm-1" .decommissionApproved 2,
    .transitionState "vm-1" .stopped 3, .transitionState "vm-1" .pendingDeletion 4]

theorem unrequested_ungated : ¬∀ (resources : Table String LifecycleResource) (calls : List Call),
    Along World.step (fun w call => w.service.Fresh call) (World.start resources) calls →
    ∀ done, done <+: calls → GatesHold resources (run World.step (World.start resources) done) := by
  intro always
  have holds := always machines unrequested ⟨trivial,trivial,trivial,trivial,trivial⟩ _ (List.prefix_refl _)
  have state : World.stateOf (run World.step (World.start machines) unrequested).service "vm-1" = some .pendingDeletion := by
    decide +kernel
  obtain ⟨resource,found,pending⟩ := Option.map_eq_some_iff.mp state
  have registered : Registered machines "vm-1" := ⟨"team-a",100,.active,none,Or.inr rfl,rfl⟩
  obtain ⟨requestId,request,held,_⟩ := (holds "vm-1" registered resource found (Or.inl pending)).approved
  have none : (run World.step (World.start machines) unrequested).service.requests.keys = [] := by decide +kernel
  have member : requestId ∈ (run World.step (World.start machines) unrequested).service.requests.keys :=
    AList.mem_keys.mp (AList.lookup_isSome.mp (by rw [held]; rfl))
  rw [none] at member
  cases member

end Shortcut
end CloudLens.Decommissioning
