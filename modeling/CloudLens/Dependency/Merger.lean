import CloudLens.Dependency.Store

/-! Merging candidate edges into the store and resolving the conflicts this
surfaces. A candidate confirms the manual edge between its endpoints, refreshes a
discovered one, contradicts a manual edge of another type or with another target,
or is stored as new. A resolution settles the manual edge and the discovered one
and closes the conflict. -/
namespace CloudLens.Dependency
open Library Library.Calendar

inductive DependencyError where
  | dependencyConflict (conflictId : String) (message : String)
  | edgeNotFound (edgeId : String)
  deriving DecidableEq

structure ConflictResolveRequest where
  resolutionAction : ConflictResolutionAction
  resolutionNotes : String
  mergedCriticality : Option EdgeCriticality := none
  mergedDirection : Option DependencyDirection := none
  mergedBilling : Option BillingAttributes := none

def addHistory (now : Instant) (action actorId : String) (fromStatus toStatus : Option EdgeStatus) (note : String)
    (edge : DependencyEdge) : DependencyEdge :=
  { edge with history := edge.history ++
      [⟨now,action,actorId,fromStatus.map EdgeStatus.value,toStatus.map EdgeStatus.value,some note⟩] }

def discoveredBy (candidate : DependencyEdge) : String :=
  match candidate.provenance.ruleId with
  | some rule => if rule = "" then "discovery-engine" else rule
  | none => "discovery-engine"

def confirmManual (candidate : DependencyEdge) (now : Instant) (manual : DependencyEdge) : DependencyEdge :=
  addHistory now "DISCOVERY_CONFIRMED" (discoveredBy candidate) none none
    ("Discovered edge confirmed manual relationship '" ++ candidate.relationshipType.value ++ "'.")
    { manual with lastSeen := now }

def refreshDiscovered (candidate : DependencyEdge) (now : Instant) (edge : DependencyEdge) : DependencyEdge :=
  let seen := { edge with
    lastSeen := now
    confidence := candidate.confidence
    criticality := candidate.criticality
    billingAttributes := candidate.billingAttributes <|> edge.billingAttributes }
  if edge.status = .stale then
    addHistory now "STALE_REVIVED" (discoveredBy candidate) none (some .active)
      "Stale edge revived upon re-observation." { seen with status := .active }
  else seen

def discovered (candidate : DependencyEdge) (now : Instant) : DependencyEdge :=
  addHistory now "DISCOVERED" (discoveredBy candidate) none (some .active)
    ("Discovered via " ++ (candidate.provenance.layer.map DiscoveryLayer.value).getD "unknown layer" ++ ".")
    { candidate with lastSeen := now, status := .active }

def contested (candidate : DependencyEdge) (now : Instant) (conflictId reason : String) : DependencyEdge :=
  addHistory now "CONFLICT_SURFACED" (discoveredBy candidate) none (some .conflict) reason
    { candidate with status := .conflict, conflictId := some conflictId, lastSeen := now }

def flagged (manual candidate : DependencyEdge) (now : Instant) (conflictId reason : String) : DependencyEdge :=
  addHistory now "CONFLICT_SURFACED" "system-merger" none (some .conflict)
    ("Conflict surfaced with discovered edge '" ++ candidate.id ++ "': " ++ reason)
    { manual with status := .conflict, conflictId := some conflictId }

def openConflict (manual candidate : DependencyEdge) (now : Instant) (conflictId reason : String) : EdgeConflict where
  conflictId := conflictId
  sourceRef := manual.sourceRef
  manualEdgeId := manual.id
  discoveredEdgeId := candidate.id
  manualVersion := flagged manual candidate now conflictId reason
  discoveredVersion := contested candidate now conflictId reason
  conflictReason := reason
  detectedAt := now

def surfaceConflict (manual candidate : DependencyEdge) (reason : String) (now : Instant) (conflictId : String)
    (store : Store) : Store × DependencyEdge × Option EdgeConflict :=
  let discoveredEdge := contested candidate now conflictId reason
  let store := saveEdge discoveredEdge store
  let store := saveEdge (flagged manual candidate now conflictId reason) store
  let conflict := openConflict manual candidate now conflictId reason
  (saveConflict conflict store, discoveredEdge, some conflict)

def singleTargetTypes : List RelationshipType := [.parentChild, .applicationDependency]

def typeReason (manual candidate : DependencyEdge) : String :=
  "Discovered relationship type '" ++ candidate.relationshipType.value ++ "' conflicts with manual assertion '" ++
    manual.relationshipType.value ++ "'."

def targetReason (manual candidate : DependencyEdge) : String :=
  "Discovered target '" ++ candidate.targetId ++ "' conflicts with manually asserted target '" ++ manual.targetId ++
    "' for " ++ candidate.relationshipType.value ++ "."

def contradictedBy (database : Database) (candidate : DependencyEdge) (store : Store) : Option DependencyEdge :=
  if candidate.relationshipType ∈ singleTargetTypes then
    (listCurrentEdges database candidate.sourceId candidate.relationshipType store).find?
      (fun existing => existing.isManual && existing.targetId ≠ candidate.targetId)
  else none

def mergeCandidateEdge (database : Database) (candidate : DependencyEdge) (now : Instant) (conflictId : String)
    (store : Store) : Store × DependencyEdge × Option EdgeConflict :=
  match findEdge database candidate.sourceId candidate.targetId none store with
  | some exactMatch =>
    if exactMatch.isManual then
      if exactMatch.relationshipType = candidate.relationshipType then
        let confirmed := confirmManual candidate now exactMatch
        (saveEdge confirmed store, confirmed, none)
      else surfaceConflict exactMatch candidate (typeReason exactMatch candidate) now conflictId store
    else
      let refreshed := refreshDiscovered candidate now exactMatch
      (saveEdge refreshed store, refreshed, none)
  | none =>
    match contradictedBy database candidate store with
    | some existing => surfaceConflict existing candidate (targetReason existing candidate) now conflictId store
    | none =>
      let saved := discovered candidate now
      (saveEdge saved store, saved, none)

def settledManual (request : ConflictResolveRequest) (actorId : String) (now : Instant) (manual : DependencyEdge) :
    DependencyEdge :=
  match request.resolutionAction with
  | .keepManual =>
    addHistory now "CONFLICT_RESOLVED_KEEP_MANUAL" actorId (some .conflict) (some .active)
      ("Human resolved conflict by keeping manual assertion: " ++ request.resolutionNotes)
      { manual with status := .active, conflictId := none }
  | .acceptDiscovered =>
    addHistory now "CONFLICT_RESOLVED_ACCEPTED_DISCOVERED" actorId (some .conflict) (some .superseded)
      ("Human resolved conflict by accepting discovered edge: " ++ request.resolutionNotes)
      { manual with status := .superseded, effectiveTo := some now }
  | .merge =>
    addHistory now "CONFLICT_RESOLVED_MERGED" actorId (some .conflict) (some .active)
      ("Human merged attributes into manual edge: " ++ request.resolutionNotes)
      { manual with
        criticality := request.mergedCriticality.getD manual.criticality
        direction := request.mergedDirection.getD manual.direction
        billingAttributes := request.mergedBilling <|> manual.billingAttributes
        status := .active
        conflictId := none }

def settledDiscovered (request : ConflictResolveRequest) (actorId : String) (now : Instant) (edge : DependencyEdge) :
    DependencyEdge :=
  match request.resolutionAction with
  | .keepManual =>
    addHistory now "CONFLICT_SUPERSEDED" actorId (some .conflict) (some .superseded)
      ("Discovered edge superseded in favor of manual edge: " ++ request.resolutionNotes)
      { edge with status := .superseded, effectiveTo := some now }
  | .acceptDiscovered =>
    addHistory now "CONFLICT_RESOLVED_ACTIVATED" actorId (some .conflict) (some .active)
      ("Activated discovered edge after conflict resolution: " ++ request.resolutionNotes)
      { edge with status := .active, conflictId := none }
  | .merge =>
    addHistory now "CONFLICT_SUPERSEDED_BY_MERGE" actorId (some .conflict) (some .superseded)
      ("Discovered edge merged into manual edge: " ++ request.resolutionNotes)
      { edge with status := .superseded, effectiveTo := some now }

def closed (request : ConflictResolveRequest) (actorId : String) (now : Instant) (conflict : EdgeConflict) :
    EdgeConflict :=
  { conflict with
    isResolved := true
    resolvedBy := some actorId
    resolvedAt := some now
    resolutionAction := some request.resolutionAction
    resolutionNotes := some request.resolutionNotes }

def saveOptionalEdge (edge : Option DependencyEdge) (store : Store) : Store :=
  match edge with
  | some edge => saveEdge edge store
  | none => store

/-- Both edges are read before the first of them is written. -/
def resolveConflict (conflictId : String) (request : ConflictResolveRequest) (actorId : String) (now : Instant)
    (store : Store) : Except DependencyError (Store × EdgeConflict) :=
  match getConflict conflictId store with
  | none => .error (.dependencyConflict conflictId "Conflict record not found.")
  | some conflict =>
    if conflict.isResolved then .error (.dependencyConflict conflictId "Conflict is already resolved.")
    else
      match getEdge conflict.manualEdgeId store with
      | none => .error (.edgeNotFound conflict.manualEdgeId)
      | some manual =>
        let discoveredEdge := getEdge conflict.discoveredEdgeId store
        let store := saveEdge (settledManual request actorId now manual) store
        let store := saveOptionalEdge (discoveredEdge.map (settledDiscovered request actorId now)) store
        let conflict := closed request actorId now conflict
        .ok (saveConflict conflict store, conflict)

inductive MergeAction where
  | merge (database : Database) (candidate : DependencyEdge) (now : Instant) (conflictId : String)
  | resolve (conflictId : String) (request : ConflictResolveRequest) (actorId : String) (now : Instant)

def step (store : Store) : MergeAction → Store
  | .merge database candidate now conflictId => (mergeCandidateEdge database candidate now conflictId store).1
  | .resolve conflictId request actorId now =>
    match resolveConflict conflictId request actorId now store with
    | .ok (next, _) => next
    | .error _ => store

def surfaced (manual candidate : DependencyEdge) (reason : String) (now : Instant) (conflictId : String)
    (store : Store) : Store := (surfaceConflict manual candidate reason now conflictId store).1

inductive Merged (database : Database) (candidate : DependencyEdge) (now : Instant) (conflictId : String) (store : Store) :
    Store → Prop where
  | confirmed {manual : DependencyEdge} (held : getEdge manual.id store = some manual) (asserted : manual.isManual = true)
      (source : manual.sourceId = candidate.sourceId) (target : manual.targetId = candidate.targetId)
      (type : manual.relationshipType = candidate.relationshipType) :
      Merged database candidate now conflictId store (saveEdge (confirmManual candidate now manual) store)
  | refreshed {edge : DependencyEdge} (held : getEdge edge.id store = some edge) (found : edge.isManual = false)
      (source : edge.sourceId = candidate.sourceId) (target : edge.targetId = candidate.targetId) :
      Merged database candidate now conflictId store (saveEdge (refreshDiscovered candidate now edge) store)
  | retyped {manual : DependencyEdge}
      (found : findEdge database candidate.sourceId candidate.targetId none store = some manual)
      (asserted : manual.isManual = true) (type : manual.relationshipType ≠ candidate.relationshipType) :
      Merged database candidate now conflictId store (surfaced manual candidate (typeReason manual candidate) now conflictId store)
  | redirected {manual : DependencyEdge} (held : getEdge manual.id store = some manual)
      (asserted : manual.isManual = true) (source : manual.sourceId = candidate.sourceId)
      (target : manual.targetId ≠ candidate.targetId) (type : manual.relationshipType = candidate.relationshipType)
      (missing : ∀ id edge, getEdge id store = some edge →
        ¬ (edge.sourceId = candidate.sourceId ∧ edge.targetId = candidate.targetId)) :
      Merged database candidate now conflictId store
        (surfaced manual candidate (targetReason manual candidate) now conflictId store)
  | stored (missing : ∀ id edge, getEdge id store = some edge →
        ¬ (edge.sourceId = candidate.sourceId ∧ edge.targetId = candidate.targetId)) :
      Merged database candidate now conflictId store (saveEdge (discovered candidate now) store)

theorem contradictedBy_some {database : Database} {candidate manual : DependencyEdge} {store : Store}
    (found : contradictedBy database candidate store = some manual) :
    getEdge manual.id store = some manual ∧ manual.isManual = true ∧ manual.sourceId = candidate.sourceId ∧
      manual.targetId ≠ candidate.targetId ∧ manual.relationshipType = candidate.relationshipType := by
  unfold contradictedBy at found
  split at found
  · have listed := List.mem_of_find?_eq_some found
    have passed := List.find?_some found
    obtain ⟨held,source,type⟩ := listCurrentEdges_mem listed
    simp only [Bool.and_eq_true,decide_eq_true_eq] at passed
    exact ⟨held,passed.1,source,passed.2,type⟩
  · cases found

theorem mergeCandidateEdge_merged (database : Database) (candidate : DependencyEdge) (now : Instant)
    (conflictId : String) (store : Store) :
    Merged database candidate now conflictId store (mergeCandidateEdge database candidate now conflictId store).1 := by
  unfold mergeCandidateEdge
  split
  · rename_i exactMatch found
    obtain ⟨held,source,target⟩ := findEdge_some found
    split
    · rename_i asserted
      split
      · rename_i type
        exact .confirmed held asserted source target type
      · rename_i type
        exact .retyped found asserted type
    · rename_i notManual
      exact .refreshed held (by simpa using notManual) source target
  · rename_i absent
    have missing : ∀ id edge, getEdge id store = some edge →
        ¬ (edge.sourceId = candidate.sourceId ∧ edge.targetId = candidate.targetId) :=
      fun _ _ held => findEdge_none absent held
    split
    · rename_i existing contradicted
      obtain ⟨held,asserted,source,target,type⟩ := contradictedBy_some contradicted
      exact .redirected held asserted source target type missing
    · exact .stored missing

def resolved (conflict : EdgeConflict) (manual : DependencyEdge) (request : ConflictResolveRequest) (actorId : String)
    (now : Instant) (store : Store) : Store :=
  saveConflict (closed request actorId now conflict)
    (saveOptionalEdge ((getEdge conflict.discoveredEdgeId store).map (settledDiscovered request actorId now))
      (saveEdge (settledManual request actorId now manual) store))

theorem step_resolve_cases (store : Store) (conflictId : String) (request : ConflictResolveRequest) (actorId : String)
    (now : Instant) :
    step store (.resolve conflictId request actorId now) = store ∨
      ∃ conflict manual, getConflict conflictId store = some conflict ∧ conflict.isResolved = false ∧
        getEdge conflict.manualEdgeId store = some manual ∧
        step store (.resolve conflictId request actorId now) = resolved conflict manual request actorId now store := by
  cases filed : getConflict conflictId store with
  | none =>
    left
    simp only [step,resolveConflict,filed]
  | some conflict =>
    cases already : conflict.isResolved with
    | true =>
      left
      simp only [step,resolveConflict,filed,already,if_true]
    | false =>
      cases held : getEdge conflict.manualEdgeId store with
      | none =>
        left
        simp [step,resolveConflict,filed,already,held]
      | some manual =>
        right
        refine ⟨conflict,manual,rfl,already,held,?_⟩
        simp [step,resolveConflict,filed,already,held,resolved]

section Frames

variable {store : Store}

theorem getEdge_surfaced (manual candidate : DependencyEdge) (reason : String) (now : Instant) (conflictId : String)
    (store : Store) (id : String) :
    getEdge id (surfaced manual candidate reason now conflictId store) =
      if id = manual.id then some (flagged manual candidate now conflictId reason)
      else if id = candidate.id then some (contested candidate now conflictId reason)
      else getEdge id store := by
  unfold surfaced surfaceConflict
  dsimp only
  rw [getEdge_saveConflict,getEdge_saveEdge,getEdge_saveEdge]
  rfl

theorem getConflict_surfaced (manual candidate : DependencyEdge) (reason : String) (now : Instant)
    (conflictId : String) (store : Store) (id : String) :
    getConflict id (surfaced manual candidate reason now conflictId store) =
      if id = conflictId then some (openConflict manual candidate now conflictId reason)
      else getConflict id store := by
  unfold surfaced surfaceConflict
  dsimp only
  rw [getConflict_saveConflict]
  rfl

theorem settledManual_id (request : ConflictResolveRequest) (actorId : String) (now : Instant) (edge : DependencyEdge) :
    (settledManual request actorId now edge).id = edge.id := by
  unfold settledManual addHistory
  cases request.resolutionAction <;> rfl

theorem settledDiscovered_id (request : ConflictResolveRequest) (actorId : String) (now : Instant)
    (edge : DependencyEdge) : (settledDiscovered request actorId now edge).id = edge.id := by
  unfold settledDiscovered addHistory
  cases request.resolutionAction <;> rfl

theorem getEdge_resolved {conflict : EdgeConflict} {manual : DependencyEdge}
    (held : getEdge conflict.manualEdgeId store = some manual) (request : ConflictResolveRequest) (actorId : String)
    (now : Instant) (id : String) :
    getEdge id (resolved conflict manual request actorId now store) =
      if id = conflict.discoveredEdgeId ∧ (getEdge id store).isSome = true then
        (getEdge id store).map (settledDiscovered request actorId now)
      else if id = conflict.manualEdgeId then some (settledManual request actorId now manual)
      else getEdge id store := by
  unfold resolved
  rw [getEdge_saveConflict]
  have manualId : manual.id = conflict.manualEdgeId := id_of_getEdge held
  cases other : getEdge conflict.discoveredEdgeId store with
  | none =>
    simp only [Option.map_none,saveOptionalEdge]
    rw [getEdge_saveEdge,settledManual_id,manualId]
    by_cases same : id = conflict.discoveredEdgeId
    · subst same
      simp [other]
    · simp [same]
  | some edge =>
    have edgeId : edge.id = conflict.discoveredEdgeId := id_of_getEdge other
    simp only [Option.map_some,saveOptionalEdge]
    rw [getEdge_saveEdge,settledDiscovered_id,edgeId,getEdge_saveEdge,settledManual_id,manualId]
    by_cases same : id = conflict.discoveredEdgeId
    · subst same
      simp [other]
    · simp [same]

theorem getConflict_resolved (conflict : EdgeConflict) (manual : DependencyEdge) (request : ConflictResolveRequest)
    (actorId : String) (now : Instant) (id : String) :
    getConflict id (resolved conflict manual request actorId now store) =
      if id = conflict.conflictId then some (closed request actorId now conflict) else getConflict id store := by
  unfold resolved
  rw [getConflict_saveConflict]
  cases getEdge conflict.discoveredEdgeId store <;> rfl

end Frames

end CloudLens.Dependency
