import CloudLens.Decommissioning.Gates

/-! Requests over several resources, proposed and approved one resource after the
other. What was moved before a resource that cannot be moved stays moved. -/
namespace CloudLens.Decommissioning
open Library
open Library.Calendar (Instant)

/-- The moves of a request: its proposal and its approval. -/
def Requesting (targetState : LifecycleState) : Prop := targetState = .decommissionProposed ∨ targetState = .decommissionApproved

/-- The resource exists, the state machine permits the move, and for an approval its cross-team
dependencies are acknowledged. -/
def Service.movable (s : Service) (targetState : LifecycleState) (id : String) : Bool :=
  match s.resources.lookup id with
  | none => false
  | some resource => targetState ∈ permittedTransitions resource.currentState &&
      (targetState ≠ .decommissionApproved || resource.unacknowledged.isNone)

structure MovedTo (targetState : LifecycleState) (s after : Service) (ids : List String) : Prop where
  listed : ∀ id ∈ ids, World.stateOf after id = some targetState
  others : ∀ id, id ∉ ids → after.resources.lookup id = s.resources.lookup id

/-- A call that raises leaves every lifecycle state and the requests as they were; one that
succeeds has moved the listed resources and no other. -/
structure AllOrNothing (targetState : LifecycleState) (s : Service) (ids : List String)
    (result : Service × Option LifecycleError) : Prop where
  raised : result.2 ≠ none → (∀ id, World.stateOf result.1 id = World.stateOf s id) ∧ result.1.requests = s.requests
  succeeded : result.2 = none → MovedTo targetState s result.1 ids

/-- Nothing is listed, the first resource cannot be moved, or all can, each listed once. -/
def Service.Whole (s : Service) (targetState : LifecycleState) (ids : List String) : Prop :=
  (∀ id ∈ ids.head?, s.movable targetState id = false) ∨ ids.Nodup ∧ ∀ id ∈ ids, s.movable targetState id = true

section Moves

variable {s after : Service} {targetState : LifecycleState} {now : Instant} {id : String} {ids : List String}

theorem transition_movable (requesting : Requesting targetState) {resource : LifecycleResource}
    (found : s.resources.lookup id = some resource) (moves : s.movable targetState id = true) :
    ∃ moved, resource.transition id targetState now = .ok moved ∧ moved.currentState = targetState := by
  unfold Service.movable at moves
  rw [found] at moves
  simp only [Bool.and_eq_true,decide_eq_true_eq,Bool.or_eq_true,Option.isNone_iff_eq_none] at moves
  obtain ⟨permitted,gate⟩ := moves
  have acknowledged : (if targetState = .decommissionApproved then resource.unacknowledged else none) = none := by
    split
    · rename_i approval
      exact gate.resolve_left (fun other => other approval)
    · rfl
  have retained : ¬(targetState = .pendingDeletion ∨ targetState = .deleted) := by
    obtain rfl | rfl := requesting <;> decide
  unfold LifecycleResource.transition
  rw [if_neg (not_not.mpr permitted),acknowledged,if_neg retained]
  exact ⟨_,rfl,rfl⟩

theorem transition_unmovable {resource : LifecycleResource} (found : s.resources.lookup id = some resource)
    (stuck : s.movable targetState id = false) : ∃ failure, resource.transition id targetState now = .error failure := by
  unfold Service.movable at stuck
  rw [found] at stuck
  unfold LifecycleResource.transition
  by_cases permitted : targetState ∈ permittedTransitions resource.currentState
  · simp only [permitted,decide_true,Bool.true_and,Bool.or_eq_false_iff,decide_eq_false_iff_not,not_not] at stuck
    obtain ⟨approval,undecided⟩ := stuck
    rw [if_neg (not_not.mpr permitted),if_pos approval]
    cases pending : resource.unacknowledged with
    | none =>
      rw [pending] at undecided
      cases undecided
    | some dep => exact ⟨_,rfl⟩
  · rw [if_pos permitted]
    exact ⟨_,rfl⟩

theorem transitionState_movable (requesting : Requesting targetState) (moves : s.movable targetState id = true) :
    ∃ after, s.transitionState id targetState now = (after, none) ∧ MovedTo targetState s after [id] ∧ after.requests = s.requests := by
  cases found : s.resources.lookup id with
  | none =>
    rw [Service.movable,found] at moves
    cases moves
  | some resource =>
    obtain ⟨moved,applied,state⟩ := @transition_movable _ _ now _ requesting _ found moves
    refine ⟨s.setResource id moved,?_,⟨?_,?_⟩,rfl⟩
    · simp [Service.transitionState,Service.onResource,found,applied]
    · intro other same
      rw [List.mem_singleton.mp same,World.stateOf,lookup_setResource,if_pos rfl,Option.map_some,state]
    · intro other distinct
      rw [lookup_setResource,if_neg (fun same => distinct (List.mem_singleton.mpr same))]

theorem transitionState_unmovable (stuck : s.movable targetState id = false) :
    ∃ failure, s.transitionState id targetState now = (s, some failure) := by
  cases found : s.resources.lookup id with
  | none => exact ⟨.notRegistered id,by simp [Service.transitionState,Service.onResource,found]⟩
  | some resource =>
    obtain ⟨failure,refused⟩ := @transition_unmovable _ _ now _ _ found stuck
    exact ⟨failure,by simp [Service.transitionState,Service.onResource,found,refused]⟩

theorem movable_after (requesting : Requesting targetState) (moved : MovedTo targetState s after [id]) (other : String) :
    after.movable targetState other = (decide (other ≠ id) && s.movable targetState other) := by
  by_cases same : other = id
  · subst same
    obtain ⟨resource,found,state⟩ := Option.map_eq_some_iff.mp (moved.listed other (List.mem_singleton_self other))
    have final : targetState ∉ permittedTransitions targetState := by
      obtain rfl | rfl := requesting <;> decide
    simp [Service.movable,found,state,final]
  · have kept := moved.others other (by simpa using same)
    simp [Service.movable,kept,same]

theorem movedTo_cons {first : String} {middle : Service} (one : MovedTo targetState s middle [first])
    (rest : MovedTo targetState middle after ids) : MovedTo targetState s after (first :: ids) := by
  refine ⟨?_,?_⟩
  · intro id member
    by_cases later : id ∈ ids
    · exact rest.listed id later
    · have here : id = first := (List.mem_cons.mp member).resolve_right later
      rw [World.stateOf,rest.others id later]
      exact one.listed id (by simp [here])
  · intro id absent
    rw [List.mem_cons,not_or] at absent
    rw [rest.others id absent.2]
    exact one.others id (by simpa using absent.1)

theorem transitionEach_moves (requesting : Requesting targetState) (s : Service) (ids : List String) :
    ∃ done, done <+: ids ∧ MovedTo targetState s (s.transitionEach targetState now ids).1 done ∧
      (∀ id ∈ done, s.movable targetState id = true) ∧ (∀ id ∈ ids.head?, s.movable targetState id = true → id ∈ done) ∧
      ((s.transitionEach targetState now ids).2 = none ↔ ids.Nodup ∧ ∀ id ∈ ids, s.movable targetState id = true) ∧
      ((s.transitionEach targetState now ids).2 = none → done = ids) := by
  induction ids generalizing s with
  | nil =>
    refine ⟨[],List.prefix_refl [],⟨?_,fun _ _ => rfl⟩,?_,?_,?_,fun _ => rfl⟩
    · intro id member
      cases member
    · intro id member
      cases member
    · intro id member
      cases member
    · simp [Service.transitionEach]
  | cons first rest ih =>
    cases moves : s.movable targetState first with
    | false =>
      obtain ⟨failure,refused⟩ := @transitionState_unmovable _ _ now _ moves
      have stopped : s.transitionEach targetState now (first :: rest) = (s, some failure) := by
        rw [Service.transitionEach,refused]
      rw [stopped]
      refine ⟨[],List.nil_prefix,⟨?_,fun _ _ => rfl⟩,?_,?_,?_,?_⟩
      · intro id member
        cases member
      · intro id member
        cases member
      · intro id member moved
        cases member
        rw [moves] at moved
        cases moved
      · simp [moves]
      · intro none
        cases none
    | true =>
      obtain ⟨middle,applied,one,_⟩ := @transitionState_movable _ _ now _ requesting moves
      have onward : s.transitionEach targetState now (first :: rest) = middle.transitionEach targetState now rest := by
        rw [Service.transitionEach,applied]
      obtain ⟨done,within,moved,able,_,whole,all⟩ := ih middle
      rw [onward]
      refine ⟨first :: done,List.cons_prefix_cons.mpr ⟨rfl,within⟩,movedTo_cons one moved,?_,?_,?_,?_⟩
      · intro id member
        obtain rfl | later := List.mem_cons.mp member
        · exact moves
        · have again := able id later
          rw [movable_after requesting one,Bool.and_eq_true] at again
          exact again.2
      · intro id member _
        cases member
        exact List.mem_cons_self ..
      · rw [whole,List.nodup_cons,List.forall_mem_cons]
        simp only [movable_after requesting one,Bool.and_eq_true,decide_eq_true_eq]
        constructor
        · rintro ⟨distinct,each⟩
          exact ⟨⟨fun inside => (each first inside).1 rfl,distinct⟩,moves,fun id member => (each id member).2⟩
        · rintro ⟨⟨absent,distinct⟩,_,each⟩
          exact ⟨distinct,fun id member => ⟨fun same => absent (same ▸ member),each id member⟩⟩
      · intro none
        rw [all none]

theorem stateOf_ne_of_movable (requesting : Requesting targetState) (moves : s.movable targetState id = true) :
    World.stateOf s id ≠ some targetState := by
  intro state
  obtain ⟨resource,found,there⟩ := Option.map_eq_some_iff.mp state
  have final : targetState ∉ permittedTransitions targetState := by
    obtain rfl | rfl := requesting <;> decide
  simp [Service.movable,found,there,final] at moves

theorem states_kept_iff (requesting : Requesting targetState) :
    (∀ id, World.stateOf (s.transitionEach targetState now ids).1 id = World.stateOf s id) ↔
      ∀ id ∈ ids.head?, s.movable targetState id = false := by
  obtain ⟨done,within,moved,able,head,_,_⟩ := @transitionEach_moves _ now requesting s ids
  constructor
  · intro kept id first
    cases moves : s.movable targetState id with
    | false => rfl
    | true =>
      have there := moved.listed id (head id first moves)
      rw [kept id] at there
      exact absurd there (stateOf_ne_of_movable requesting moves)
  · intro stuck
    have none : done = [] := by
      cases done with
      | nil => rfl
      | cons first rest =>
        obtain ⟨later,rfl⟩ := within
        have moves := able first (List.mem_cons_self ..)
        rw [stuck first (by simp)] at moves
        cases moves
    intro id
    rw [World.stateOf,moved.others id (by simp [none]),World.stateOf]

theorem transitionEach_allOrNothing_iff (requesting : Requesting targetState) :
    AllOrNothing targetState s ids (s.transitionEach targetState now ids) ↔ s.Whole targetState ids := by
  obtain ⟨done,_,moved,_,_,whole,all⟩ := @transitionEach_moves _ now requesting s ids
  unfold Service.Whole
  rw [← whole,← @states_kept_iff _ _ now _ requesting]
  constructor
  · intro atomic
    by_cases none : (s.transitionEach targetState now ids).2 = none
    · exact Or.inr none
    · exact Or.inl (atomic.raised none).1
  · intro condition
    refine ⟨?_,?_⟩
    · intro failed
      exact ⟨condition.resolve_right failed,transitionEach_requests ids⟩
    · intro none
      rw [all none] at moved
      exact moved

end Moves

section Requests

variable (s : Service)

def Service.requestedIds (requestId : String) : List String :=
  ((s.requests.lookup requestId).map DecommissioningRequest.resourceIds).getD []

/-- The justification is too short, nothing is listed, the first resource cannot be proposed, or all
can, each listed once, and the workflow service does not refuse. -/
def Service.SubmitsWhole (ids : List String) (justification : String) (workflow : Option (Except Unit String)) : Prop :=
  (Text.strip justification.toList).length < 5 ∨ (∀ id ∈ ids.head?, s.movable .decommissionProposed id = false) ∨
    ids.Nodup ∧ (∀ id ∈ ids, s.movable .decommissionProposed id = true) ∧ workflow ≠ some (.error ())

variable {s} {ids : List String} {targetState : LifecycleState} {now : Instant}

theorem movedTo_setRequest {after : Service} (requestId : String) (request : DecommissioningRequest)
    (moved : MovedTo targetState s after ids) : MovedTo targetState s (after.setRequest requestId request) ids :=
  ⟨moved.listed,moved.others⟩

theorem transitionEach_none_iff (requesting : Requesting targetState) :
    (s.transitionEach targetState now ids).2 = none ↔ ids.Nodup ∧ ∀ id ∈ ids, s.movable targetState id = true := by
  obtain ⟨_,_,_,_,_,whole,_⟩ := @transitionEach_moves _ now requesting s ids
  exact whole

theorem raised_allOrNothing_iff (requesting : Requesting targetState) (failure : LifecycleError) :
    AllOrNothing targetState s ids ((s.transitionEach targetState now ids).1, some failure) ↔
      ∀ id ∈ ids.head?, s.movable targetState id = false := by
  rw [← @states_kept_iff _ _ now _ requesting]
  constructor
  · intro atomic
    exact (atomic.raised (Option.some_ne_none failure)).1
  · intro kept
    exact ⟨fun _ => ⟨kept,transitionEach_requests ids⟩,fun none => absurd none (Option.some_ne_none failure)⟩

theorem saved_allOrNothing {after : Service} (requesting : Requesting targetState) (requestId : String)
    (request : DecommissioningRequest) (each : s.transitionEach targetState now ids = (after, none)) :
    AllOrNothing targetState s ids (after.setRequest requestId request, none) := by
  have whole : AllOrNothing targetState s ids (after, none) := by
    rw [← each,transitionEach_allOrNothing_iff requesting]
    exact Or.inr ((transitionEach_none_iff requesting).mp (by rw [each]))
  exact ⟨fun failed => absurd rfl failed,fun _ => movedTo_setRequest requestId request (whole.succeeded rfl)⟩

theorem submit_allOrNothing_iff (requestId : String) (ids : List String) (proposingActor proposerTeam justification : String)
    (workflow : Option (Except Unit String)) (now : Instant) :
    AllOrNothing .decommissionProposed s ids
      (s.submitDecommissioningRequest requestId ids proposingActor proposerTeam justification workflow now) ↔
      s.SubmitsWhole ids justification workflow := by
  have requesting : Requesting .decommissionProposed := Or.inl rfl
  have complete := @transitionEach_none_iff s ids _ now requesting
  have refusal := @raised_allOrNothing_iff s ids _ now requesting
  unfold Service.SubmitsWhole Service.submitDecommissioningRequest
  split
  · rename_i short
    refine iff_of_true ?_ (Or.inl short)
    exact ⟨fun _ => ⟨fun _ => rfl,rfl⟩,fun none => absurd none (Option.some_ne_none _)⟩
  · rename_i long
    rw [or_iff_right long]
    split
    · rename_i after failure each
      rw [each] at complete refusal
      rw [refusal failure]
      refine ⟨Or.inl,fun condition => condition.resolve_right ?_⟩
      rintro ⟨distinct,able,_⟩
      cases complete.mpr ⟨distinct,able⟩
    · rename_i after each
      have able := complete.mp (by rw [each])
      dsimp only
      split
      · exact iff_of_true (saved_allOrNothing requesting requestId _ each) (Or.inr ⟨able.1,able.2,nofun⟩)
      · rw [each] at refusal
        rw [refusal .workflowRefused]
        refine ⟨Or.inl,fun condition => condition.resolve_right ?_⟩
        rintro ⟨_,_,accepted⟩
        exact accepted rfl
      · exact iff_of_true (saved_allOrNothing requesting requestId _ each) (Or.inr ⟨able.1,able.2,nofun⟩)

theorem approve_allOrNothing_iff (requestId approverId : String) (now : Instant) :
    AllOrNothing .decommissionApproved s (s.requestedIds requestId) (s.approveDecommissioningRequest requestId approverId now) ↔
      s.Whole .decommissionApproved (s.requestedIds requestId) := by
  have requesting : Requesting .decommissionApproved := Or.inr rfl
  unfold Service.approveDecommissioningRequest Service.requestedIds
  cases held : s.requests.lookup requestId with
  | none =>
    refine iff_of_true ?_ (Or.inl fun id none => nomatch none)
    exact ⟨fun _ => ⟨fun _ => rfl,rfl⟩,fun none => absurd none (Option.some_ne_none _)⟩
  | some request =>
    have whole := @transitionEach_allOrNothing_iff s _ now request.resourceIds requesting
    dsimp only [Option.map_some,Option.getD_some]
    split
    · rename_i after failure each
      rw [each] at whole
      exact whole
    · rename_i after each
      refine iff_of_true (saved_allOrNothing requesting requestId _ each) ?_
      exact Or.inr ((transitionEach_none_iff requesting).mp (by rw [each]))

/-- Exactly when a proposal and an approval are all or nothing, whatever the service holds. -/
theorem decommissioning_all_or_nothing_iff (s : Service) :
    (∀ requestId ids proposingActor proposerTeam justification workflow now, AllOrNothing .decommissionProposed s ids
      (s.submitDecommissioningRequest requestId ids proposingActor proposerTeam justification workflow now) ↔
        s.SubmitsWhole ids justification workflow) ∧
    ∀ requestId approverId now, AllOrNothing .decommissionApproved s (s.requestedIds requestId)
      (s.approveDecommissioningRequest requestId approverId now) ↔ s.Whole .decommissionApproved (s.requestedIds requestId) :=
  ⟨submit_allOrNothing_iff,approve_allOrNothing_iff⟩

end Requests

/-- The second of two listed resources is unknown: the first stays proposed. -/
theorem unknown_resource_half_proposed : ¬∀ (s : Service) (requestId : String) (ids : List String)
    (proposingActor proposerTeam justification : String) (workflow : Option (Except Unit String)) (now : Instant),
    AllOrNothing .decommissionProposed s ids
      (s.submitDecommissioningRequest requestId ids proposingActor proposerTeam justification workflow now) := by
  intro always
  have atomic := always ⟨machines,∅⟩ "dcom-1" ["vm-1", "vm-9"] "ada" "team-a" "unused since May" none 1
  have same := (atomic.raised (by decide +kernel)).1 "vm-1"
  have proposed : World.stateOf ((Service.mk machines ∅).submitDecommissioningRequest "dcom-1" ["vm-1", "vm-9"] "ada" "team-a"
      "unused since May" none 1).1 "vm-1" = some .decommissionProposed := by
    decide +kernel
  rw [proposed] at same
  revert same
  decide +kernel

end CloudLens.Decommissioning
