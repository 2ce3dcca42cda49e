import CloudLens.Dependency.Merger
import CloudLens.Library.Runs

/-! Manual edges through any run of merges and resolutions. A merge keeps what a
manual edge asserts and flags it at most, a resolution changes what it asserts
only by merging, and a manual edge whose conflicts were all decided for it is
active and free of conflict. -/
namespace CloudLens.Dependency
open Library Library.Calendar Library.Runs

structure Assertion where
  sourceRef : TypedEntityRef
  targetRef : TypedEntityRef
  relationshipType : RelationshipType
  provenance : EdgeProvenance
  direction : DependencyDirection
  criticality : EdgeCriticality
  confidence : EdgeConfidenceLevel
  billingAttributes : Option BillingAttributes

def assertion (edge : DependencyEdge) : Assertion where
  sourceRef := edge.sourceRef
  targetRef := edge.targetRef
  relationshipType := edge.relationshipType
  provenance := edge.provenance
  direction := edge.direction
  criticality := edge.criticality
  confidence := edge.confidence
  billingAttributes := edge.billingAttributes

/-- What discovery and import promise of a call: the candidate is not manual, its
identifier is not that of a manual edge, and the conflict identifier is unused. -/
def Promised (store : Store) : MergeAction → Prop
  | .merge _ candidate _ conflictId =>
    candidate.isManual = false ∧ (∀ edge, getEdge candidate.id store = some edge → edge.isManual = false) ∧
      getConflict conflictId store = none
  | .resolve _ _ _ _ => True

/-- A resolution by merging, of a conflict that names the edge. -/
def MergesInto (store : Store) (id : String) : MergeAction → Prop
  | .merge _ _ _ _ => False
  | .resolve conflictId request _ _ =>
    request.resolutionAction = .merge ∧ ∃ conflict, getConflict conflictId store = some conflict ∧ conflict.manualEdgeId = id

/-- Some conflict names the edge, and every one that does was decided for it. -/
structure DecidedFor (store : Store) (id : String) : Prop where
  named : ∃ key conflict, getConflict key store = some conflict ∧ conflict.manualEdgeId = id
  decided : ∀ key conflict, getConflict key store = some conflict → conflict.manualEdgeId = id →
    conflict.isResolved = true ∧
      (conflict.resolutionAction = some .keepManual ∨ conflict.resolutionAction = some .merge)

section Edges

variable {candidate edge : DependencyEdge} {now : Instant}

theorem isManual_of_assertion {other : DependencyEdge} (same : assertion other = assertion edge) :
    other.isManual = edge.isManual := by
  have provenance := congrArg Assertion.provenance same
  unfold DependencyEdge.isManual
  rw [show other.provenance = edge.provenance from provenance]

theorem assertion_settledDiscovered (request : ConflictResolveRequest) (actorId : String) (now : Instant)
    (edge : DependencyEdge) : assertion (settledDiscovered request actorId now edge) = assertion edge := by
  unfold settledDiscovered addHistory
  cases request.resolutionAction <;> rfl

theorem assertion_settledManual {request : ConflictResolveRequest} (kept : request.resolutionAction ≠ .merge)
    (actorId : String) (now : Instant) (edge : DependencyEdge) :
    assertion (settledManual request actorId now edge) = assertion edge := by
  unfold settledManual addHistory
  cases action : request.resolutionAction with
  | merge => exact absurd action kept
  | keepManual => rfl
  | acceptDiscovered => rfl

theorem isManual_settledManual (request : ConflictResolveRequest) (actorId : String) (now : Instant)
    (edge : DependencyEdge) : (settledManual request actorId now edge).isManual = edge.isManual := by
  unfold settledManual addHistory
  cases request.resolutionAction <;> rfl

theorem settledManual_active {request : ConflictResolveRequest}
    (kept : request.resolutionAction = .keepManual ∨ request.resolutionAction = .merge) (actorId : String) (now : Instant)
    (edge : DependencyEdge) :
    (settledManual request actorId now edge).status = .active ∧
      (settledManual request actorId now edge).conflictId = none := by
  unfold settledManual addHistory
  rcases kept with keep | merge
  · rw [keep]
    exact ⟨rfl,rfl⟩
  · rw [merge]
    exact ⟨rfl,rfl⟩

theorem isManual_refreshDiscovered : (refreshDiscovered candidate now edge).isManual = edge.isManual := by
  unfold refreshDiscovered addHistory
  split <;> rfl

theorem refreshDiscovered_id : (refreshDiscovered candidate now edge).id = edge.id := by
  unfold refreshDiscovered addHistory
  split <;> rfl

end Edges

section MergeStep

variable {database : Database} {candidate : DependencyEdge} {now : Instant} {conflictId : String} {store next : Store}

theorem merged_keeps_manual (merged : Merged database candidate now conflictId store next)
    (other : ∀ edge, getEdge candidate.id store = some edge → edge.isManual = false) {id : String} {edge : DependencyEdge}
    (held : getEdge id store = some edge) (asserted : edge.isManual = true) :
    ∃ kept, getEdge id next = some kept ∧ assertion kept = assertion edge ∧
      ((kept.status = edge.status ∧ kept.conflictId = edge.conflictId) ∨
        ∃ conflict, getConflict conflictId next = some conflict ∧ conflict.manualEdgeId = id ∧
          conflict.isResolved = false) := by
  have notCandidate : id ≠ candidate.id := by
    rintro rfl
    rw [other edge held] at asserted
    cases asserted
  have flags : ∀ manual reason, getEdge manual.id store = some manual →
      ∃ kept, getEdge id (surfaced manual candidate reason now conflictId store) = some kept ∧
        assertion kept = assertion edge ∧
        ((kept.status = edge.status ∧ kept.conflictId = edge.conflictId) ∨
          ∃ conflict, getConflict conflictId (surfaced manual candidate reason now conflictId store) = some conflict ∧
            conflict.manualEdgeId = id ∧ conflict.isResolved = false) := by
    intro manual reason stored
    rw [getEdge_surfaced]
    by_cases same : id = manual.id
    · subst same
      rw [stored] at held
      cases held
      exact ⟨_,if_pos rfl,rfl,
        Or.inr ⟨_,(getConflict_surfaced _ candidate reason now conflictId store conflictId).trans (if_pos rfl),rfl,rfl⟩⟩
    · rw [if_neg same,if_neg notCandidate]
      exact ⟨edge,held,rfl,Or.inl ⟨rfl,rfl⟩⟩
  cases merged with
  | @confirmed manual stored _ _ _ _ =>
    rw [getEdge_saveEdge]
    by_cases same : id = manual.id
    · subst same
      rw [stored] at held
      cases held
      exact ⟨_,if_pos rfl,rfl,Or.inl ⟨rfl,rfl⟩⟩
    · exact ⟨edge,(if_neg same).trans held,rfl,Or.inl ⟨rfl,rfl⟩⟩
  | @refreshed existing stored found _ _ =>
    have differs : id ≠ existing.id := by
      rintro rfl
      rw [stored] at held
      cases held
      rw [found] at asserted
      cases asserted
    rw [getEdge_saveEdge,refreshDiscovered_id,if_neg differs]
    exact ⟨edge,held,rfl,Or.inl ⟨rfl,rfl⟩⟩
  | retyped found _ _ => exact flags _ _ (findEdge_some found).1
  | redirected stored _ _ _ _ _ => exact flags _ _ stored
  | stored _ =>
    rw [getEdge_saveEdge]
    exact ⟨edge,(if_neg notCandidate).trans held,rfl,Or.inl ⟨rfl,rfl⟩⟩

theorem DecidedFor.of_merged (merged : Merged database candidate now conflictId store next)
    (unused : getConflict conflictId store = none) {id : String} (decided : DecidedFor next id) : DecidedFor store id := by
  have surfacing : ∀ manual reason, DecidedFor (surfaced manual candidate reason now conflictId store) id →
      DecidedFor store id := by
    intro manual reason after
    have earlier : ∀ key conflict, getConflict key store = some conflict →
        getConflict key (surfaced manual candidate reason now conflictId store) = some conflict := by
      intro key conflict filed
      have differs : key ≠ conflictId := by
        rintro rfl
        rw [unused] at filed
        cases filed
      rw [getConflict_surfaced,if_neg differs]
      exact filed
    refine ⟨?_,fun key conflict filed => after.decided key conflict (earlier key conflict filed)⟩
    obtain ⟨key,conflict,filed,named⟩ := after.named
    have resolved := (after.decided key conflict filed named).1
    rw [getConflict_surfaced] at filed
    split at filed
    · cases filed
      cases resolved
    · exact ⟨key,conflict,filed,named⟩
  cases merged with
  | confirmed _ _ _ _ _ => exact ⟨decided.named,decided.decided⟩
  | refreshed _ _ _ _ => exact ⟨decided.named,decided.decided⟩
  | retyped _ _ _ => exact surfacing _ _ decided
  | redirected _ _ _ _ _ _ => exact surfacing _ _ decided
  | stored _ => exact ⟨decided.named,decided.decided⟩

end MergeStep

section ResolveStep

variable {conflict : EdgeConflict} {manual : DependencyEdge} {request : ConflictResolveRequest} {actorId : String}
  {now : Instant} {store : Store}

theorem resolved_keeps_assertion (held : getEdge conflict.manualEdgeId store = some manual) {id : String}
    {edge : DependencyEdge} (stored : getEdge id store = some edge)
    (unmerged : ¬ (request.resolutionAction = .merge ∧ conflict.manualEdgeId = id)) :
    ∃ kept, getEdge id (resolved conflict manual request actorId now store) = some kept ∧
      assertion kept = assertion edge := by
  rw [getEdge_resolved held]
  split
  · rw [stored]
    exact ⟨_,rfl,assertion_settledDiscovered request actorId now edge⟩
  · split
    · rename_i same
      subst same
      rw [stored] at held
      cases held
      exact ⟨_,rfl,assertion_settledManual (fun merges => unmerged ⟨merges,rfl⟩) actorId now _⟩
    · exact ⟨edge,stored,rfl⟩

theorem resolved_keeps_manual (held : getEdge conflict.manualEdgeId store = some manual) {id : String}
    {edge : DependencyEdge} (stored : getEdge id store = some edge) (asserted : edge.isManual = true) :
    ∃ kept, getEdge id (resolved conflict manual request actorId now store) = some kept ∧ kept.isManual = true := by
  rw [getEdge_resolved held]
  split
  · rw [stored]
    refine ⟨_,rfl,?_⟩
    rw [isManual_of_assertion (assertion_settledDiscovered request actorId now edge),asserted]
  · split
    · rename_i same
      subst same
      rw [stored] at held
      cases held
      exact ⟨_,rfl,(isManual_settledManual request actorId now _).trans asserted⟩
    · exact ⟨edge,stored,asserted⟩

theorem DecidedFor.of_resolved {key : String} (filed : getConflict key store = some conflict) {id : String}
    (other : conflict.manualEdgeId ≠ id) (decided : DecidedFor (resolved conflict manual request actorId now store) id) :
    DecidedFor store id := by
  have same := store.filed filed
  have elsewhere : ∀ place found, found.manualEdgeId = id →
      (getConflict place (resolved conflict manual request actorId now store) = some found ↔
        getConflict place store = some found) := by
    intro place found named
    rw [getConflict_resolved]
    split
    · rename_i here
      have there : getConflict place store = some conflict := by
        rw [here,same]
        exact filed
      rw [there]
      constructor
      · intro held
        cases held
        exact absurd named other
      · intro held
        cases held
        exact absurd named other
    · exact Iff.rfl
  obtain ⟨place,found,held,named⟩ := decided.named
  refine ⟨⟨place,found,(elsewhere place found named).mp held,named⟩,?_⟩
  intro place found held named
  exact decided.decided place found ((elsewhere place found named).mpr held) named

end ResolveStep

theorem manual_of_merged {database : Database} {candidate : DependencyEdge} {now : Instant} {conflictId : String}
    {store next : Store}
    (merged : Merged database candidate now conflictId store next) (discovery : candidate.isManual = false) {id : String}
    {edge : DependencyEdge} (held : getEdge id next = some edge) (asserted : edge.isManual = true) :
    ∃ before, getEdge id store = some before ∧ before.isManual = true := by
  have saving : ∀ saved existing : DependencyEdge, getEdge existing.id store = some existing → saved.id = existing.id →
      saved.isManual = existing.isManual → getEdge id (saveEdge saved store) = some edge →
      ∃ before, getEdge id store = some before ∧ before.isManual = true := by
    intro saved existing stored sameId sameKind found
    rw [getEdge_saveEdge,sameId] at found
    split at found
    · rename_i here
      cases found
      exact ⟨existing,here ▸ stored,sameKind.symm.trans asserted⟩
    · exact ⟨edge,found,asserted⟩
  have surfacing : ∀ manual reason, getEdge manual.id store = some manual → manual.isManual = true →
      getEdge id (surfaced manual candidate reason now conflictId store) = some edge →
      ∃ before, getEdge id store = some before ∧ before.isManual = true := by
    intro manual reason stored manually found
    rw [getEdge_surfaced] at found
    split at found
    · rename_i here
      exact ⟨manual,here ▸ stored,manually⟩
    · split at found
      · cases found
        rw [show (contested candidate now conflictId reason).isManual = candidate.isManual from rfl,discovery] at asserted
        cases asserted
      · exact ⟨edge,found,asserted⟩
  cases merged with
  | @confirmed manual stored _ _ _ _ => exact saving (confirmManual candidate now manual) manual stored rfl rfl held
  | refreshed stored _ _ _ => exact saving _ _ stored refreshDiscovered_id isManual_refreshDiscovered held
  | retyped found manually _ => exact surfacing _ _ (findEdge_some found).1 manually held
  | redirected stored manually _ _ _ _ => exact surfacing _ _ stored manually held
  | stored _ =>
    rw [getEdge_saveEdge] at held
    split at held
    · cases held
      rw [show (discovered candidate now).isManual = candidate.isManual from rfl,discovery] at asserted
      cases asserted
    · exact ⟨edge,held,asserted⟩

theorem manual_of_resolved {conflict : EdgeConflict} {manual : DependencyEdge} {request : ConflictResolveRequest}
    {actorId : String} {now : Instant} {store : Store} (held : getEdge conflict.manualEdgeId store = some manual)
    {id : String} {edge : DependencyEdge}
    (found : getEdge id (resolved conflict manual request actorId now store) = some edge)
    (asserted : edge.isManual = true) : ∃ before, getEdge id store = some before ∧ before.isManual = true := by
  rw [getEdge_resolved held] at found
  split at found
  · obtain ⟨before,stored,rfl⟩ := Option.map_eq_some_iff.mp found
    rw [isManual_of_assertion (assertion_settledDiscovered request actorId now before)] at asserted
    exact ⟨before,stored,asserted⟩
  · split at found
    · rename_i here
      cases found
      rw [isManual_settledManual] at asserted
      exact ⟨manual,here ▸ held,asserted⟩
    · exact ⟨edge,found,asserted⟩

/-- Conflicts keep manual edges on their manual side, and a manual edge whose
conflicts were all decided for it is in force. -/
structure Orderly (store : Store) : Prop where
  discoveries : ∀ key conflict, getConflict key store = some conflict →
    ∀ edge, getEdge conflict.discoveredEdgeId store = some edge → edge.isManual = false
  settled : ∀ id edge, getEdge id store = some edge → edge.isManual = true → DecidedFor store id →
    edge.status = .active ∧ edge.conflictId = none

theorem orderly_of_merged {database : Database} {candidate : DependencyEdge} {now : Instant} {conflictId : String}
    {store next : Store} (orderly : Orderly store) (merged : Merged database candidate now conflictId store next)
    (discovery : candidate.isManual = false)
    (other : ∀ edge, getEdge candidate.id store = some edge → edge.isManual = false)
    (unused : getConflict conflictId store = none) : Orderly next := by
  have conflicts : ∀ key conflict, getConflict key next = some conflict →
      conflict.discoveredEdgeId = candidate.id ∨ getConflict key store = some conflict := by
    intro key conflict filed
    have surfacing : ∀ manual reason, getConflict key (surfaced manual candidate reason now conflictId store) = some conflict →
        conflict.discoveredEdgeId = candidate.id ∨ getConflict key store = some conflict := by
      intro manual reason found
      rw [getConflict_surfaced] at found
      split at found
      · cases found
        exact Or.inl rfl
      · exact Or.inr found
    cases merged with
    | confirmed _ _ _ _ _ => exact Or.inr filed
    | refreshed _ _ _ _ => exact Or.inr filed
    | retyped _ _ _ => exact surfacing _ _ filed
    | redirected _ _ _ _ _ _ => exact surfacing _ _ filed
    | stored _ => exact Or.inr filed
  refine ⟨?_,?_⟩
  · intro key conflict filed edge held
    by_contra manually
    rw [Bool.not_eq_false] at manually
    obtain ⟨before,stored,asserted⟩ := manual_of_merged merged discovery held manually
    rcases conflicts key conflict filed with candidateId | earlier
    · rw [candidateId] at stored
      rw [other before stored] at asserted
      cases asserted
    · rw [orderly.discoveries key conflict earlier before stored] at asserted
      cases asserted
  · intro id edge held asserted decided
    obtain ⟨before,stored,manually⟩ := manual_of_merged merged discovery held asserted
    obtain ⟨kept,found,_,state⟩ := merged_keeps_manual merged other stored manually
    rw [held] at found
    cases found
    rcases state with ⟨status,conflict⟩ | ⟨conflict,filed,named,unresolved⟩
    · rw [status,conflict]
      exact orderly.settled id before stored manually (decided.of_merged merged unused)
    · have resolved := (decided.decided conflictId conflict filed named).1
      rw [unresolved] at resolved
      cases resolved

theorem orderly_of_resolved {conflict : EdgeConflict} {manual : DependencyEdge} {request : ConflictResolveRequest}
    {actorId : String} {now : Instant} {store : Store} {key : String} (orderly : Orderly store)
    (filed : getConflict key store = some conflict) (held : getEdge conflict.manualEdgeId store = some manual) :
    Orderly (resolved conflict manual request actorId now store) := by
  refine ⟨?_,?_⟩
  · intro place found listed edge stored
    by_contra manually
    rw [Bool.not_eq_false] at manually
    obtain ⟨before,earlier,asserted⟩ := manual_of_resolved held stored manually
    have source : ∃ place' original, getConflict place' store = some original ∧
        original.discoveredEdgeId = found.discoveredEdgeId := by
      rw [getConflict_resolved] at listed
      split at listed
      · cases listed
        exact ⟨key,conflict,filed,rfl⟩
      · exact ⟨place,found,listed,rfl⟩
    obtain ⟨place',original,inStore,same⟩ := source
    rw [← same] at earlier
    rw [orderly.discoveries place' original inStore before earlier] at asserted
    cases asserted
  · intro id edge found asserted decided
    obtain ⟨before,stored,manually⟩ := manual_of_resolved held found asserted
    have notDiscovered : ¬ (id = conflict.discoveredEdgeId ∧ (getEdge id store).isSome = true) := by
      rintro ⟨rfl,_⟩
      rw [orderly.discoveries key conflict filed before stored] at manually
      cases manually
    rw [getEdge_resolved held,if_neg notDiscovered] at found
    by_cases here : id = conflict.manualEdgeId
    · rw [if_pos here] at found
      cases found
      have closing : getConflict conflict.conflictId (resolved conflict manual request actorId now store) =
          some (closed request actorId now conflict) := by
        rw [getConflict_resolved,if_pos rfl]
      have kept := (decided.decided _ _ closing here.symm).2
      apply settledManual_active
      simpa [closed] using kept
    · rw [if_neg here] at found
      exact orderly.settled id edge found asserted (decided.of_resolved filed (fun same => here same.symm))

theorem orderly_step {store : Store} {action : MergeAction} (orderly : Orderly store) (promised : Promised store action) :
    Orderly (step store action) := by
  cases action with
  | merge database candidate now conflictId =>
    obtain ⟨discovery,other,unused⟩ := promised
    exact orderly_of_merged orderly (mergeCandidateEdge_merged database candidate now conflictId store) discovery other unused
  | resolve conflictId request actorId now =>
    rcases step_resolve_cases store conflictId request actorId now with same | ⟨conflict,manual,filed,_,held,result⟩
    · rw [same]
      exact orderly
    · rw [result]
      exact orderly_of_resolved orderly filed held

theorem step_keeps_manual {store : Store} {action : MergeAction} (promised : Promised store action) {id : String}
    {edge : DependencyEdge} (held : getEdge id store = some edge) (asserted : edge.isManual = true) :
    ∃ kept, getEdge id (step store action) = some kept ∧ kept.isManual = true ∧
      (¬ MergesInto store id action → assertion kept = assertion edge) := by
  cases action with
  | merge database candidate now conflictId =>
    obtain ⟨kept,found,same,_⟩ := merged_keeps_manual (mergeCandidateEdge_merged database candidate now conflictId store)
      promised.2.1 held asserted
    exact ⟨kept,found,(isManual_of_assertion same).trans asserted,fun _ => same⟩
  | resolve conflictId request actorId now =>
    rcases step_resolve_cases store conflictId request actorId now with same | ⟨conflict,manual,filed,_,stored,result⟩
    · rw [same]
      exact ⟨edge,held,asserted,fun _ => rfl⟩
    · rw [result]
      obtain ⟨kept,found,manually⟩ := resolved_keeps_manual stored held asserted
      refine ⟨kept,found,manually,?_⟩
      intro unmerged
      obtain ⟨same,foundSame,unchanged⟩ := resolved_keeps_assertion stored held
        (fun merges => unmerged ⟨merges.1,conflict,filed,merges.2⟩)
      rw [found] at foundSame
      cases foundSame
      exact unchanged

def parentEdge : DependencyEdge :=
  { id := "dep-man-1", sourceRef := ⟨.resource,"vm",none⟩, targetRef := ⟨.resource,"a",none⟩
    relationshipType := .parentChild, provenance := ⟨.manual,none,some "alice",none⟩, confidence := .asAsserted
    firstSeen := 0, lastSeen := 0, effectiveFrom := 0 }

def parentCandidate : DependencyEdge :=
  { parentEdge with
    id := "dep-struct-1", targetRef := ⟨.resource,"b",none⟩, provenance := ⟨.discovered,some "rule-1",none,some .structural⟩
    confidence := .high }

def parentStore : Store := saveEdge parentEdge Store.empty

def keepRequest : ConflictResolveRequest := { resolutionAction := .keepManual, resolutionNotes := "curated" }

def parentRun : List MergeAction :=
  [.merge inOrder parentCandidate 1 "conf-1", .resolve "conf-1" keepRequest "alice" 2]

theorem parentRun_promised : Along step Promised parentStore parentRun := by
  refine ⟨⟨rfl,?_,rfl⟩,trivial,trivial⟩
  intro edge held
  cases held

end CloudLens.Dependency
