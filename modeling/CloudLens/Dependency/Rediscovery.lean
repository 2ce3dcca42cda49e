import CloudLens.Dependency.Manual

/-! Discovery that finds the same candidates again and again. There is one stored
edge between two endpoints and one conflict for what it is about, and a conflict
that was decided for the manual edge stays decided, as long as no candidate comes
with another type than a manual edge between its endpoints: such a candidate is
stored beside the manual edge, and a later look-up may answer with either. -/
namespace CloudLens.Dependency
open Library Library.Calendar Library.Runs

/-- What a merge or a resolution never changes of a stored edge. -/
structure Trace where
  manual : Bool
  sourceId : String
  targetId : String
  type : RelationshipType

def trace (edge : DependencyEdge) : Trace := ⟨edge.isManual,edge.sourceId,edge.targetId,edge.relationshipType⟩

def traceAt (id : String) (store : Store) : Option Trace := (getEdge id store).map trace

/-- A discovered candidate with a new identifier. -/
def Discovers (store : Store) : MergeAction → Prop
  | .merge _ candidate _ _ => candidate.isManual = false ∧ getEdge candidate.id store = none
  | .resolve _ _ _ _ => True

/-- Every manual edge between the candidate's endpoints has the candidate's type. -/
def SameTyped (store : Store) : MergeAction → Prop
  | .merge _ candidate _ _ => ∀ id edge, getEdge id store = some edge → edge.isManual = true →
      edge.sourceId = candidate.sourceId → edge.targetId = candidate.targetId →
      edge.relationshipType = candidate.relationshipType
  | .resolve _ _ _ _ => True

def OnePerPair (store : Store) : Prop :=
  ∀ id id' edge edge', getEdge id store = some edge → getEdge id' store = some edge' →
    edge.sourceId = edge'.sourceId → edge.targetId = edge'.targetId → id = id'

def Repeats (edge : DependencyEdge) : MergeAction → Prop
  | .merge _ candidate _ _ =>
    candidate.sourceId = edge.sourceId ∧ candidate.targetId = edge.targetId ∧
      candidate.relationshipType = edge.relationshipType
  | .resolve _ _ _ _ => False

/-- One conflict for a manual edge and what contradicts it, one edge between two
endpoints, and what was decided for a manual edge stays so, also through the next action. -/
structure Settled (store : Store) (after : List MergeAction) : Prop where
  conflicts : ∀ key key' conflict conflict', getConflict key store = some conflict →
    getConflict key' store = some conflict' → conflict.isResolved = false → conflict'.isResolved = false →
    conflict.manualEdgeId = conflict'.manualEdgeId →
    conflict.discoveredVersion.targetId = conflict'.discoveredVersion.targetId →
    conflict.discoveredVersion.relationshipType = conflict'.discoveredVersion.relationshipType → key = key'
  pairs : OnePerPair store
  superseded : ∀ key conflict, getConflict key store = some conflict → conflict.resolutionAction = some .keepManual →
    ∃ edge, getEdge conflict.discoveredEdgeId store = some edge ∧ edge.status = .superseded
  undisturbed : ∀ key conflict, getConflict key store = some conflict → conflict.resolutionAction = some .keepManual →
    ∀ action rest, after = action :: rest → Repeats conflict.discoveredVersion action →
      getEdge conflict.manualEdgeId (step store action) = getEdge conflict.manualEdgeId store

/-- Every conflict has a discovered edge of its own, from the source of its
manual edge, and one decided for the manual edge has superseded it. -/
structure Tidy (store : Store) : Prop where
  pairs : OnePerPair store
  records : ∀ key conflict, getConflict key store = some conflict →
    traceAt conflict.discoveredEdgeId store = some (trace conflict.discoveredVersion) ∧
      conflict.discoveredVersion.isManual = false ∧
      ∃ targetId type, traceAt conflict.manualEdgeId store = some ⟨true,conflict.discoveredVersion.sourceId,targetId,type⟩
  distinct : ∀ key key' conflict conflict', getConflict key store = some conflict →
    getConflict key' store = some conflict' → conflict.discoveredEdgeId = conflict'.discoveredEdgeId → key = key'
  superseded : ∀ key conflict, getConflict key store = some conflict → conflict.resolutionAction = some .keepManual →
    conflict.isResolved = true ∧ ∃ edge, getEdge conflict.discoveredEdgeId store = some edge ∧ edge.status = .superseded

section Traces

variable {store next : Store}

theorem getEdge_of_traceAt {id : String} {found : Trace} (traced : traceAt id store = some found) :
    ∃ edge, getEdge id store = some edge ∧ trace edge = found := Option.map_eq_some_iff.mp traced

theorem traceAt_of_getEdge {id : String} {edge : DependencyEdge} (held : getEdge id store = some edge) :
    traceAt id store = some (trace edge) := by rw [traceAt,held,Option.map_some]

theorem OnePerPair.of_traces (same : ∀ id, traceAt id next = traceAt id store) (single : OnePerPair store) :
    OnePerPair next := by
  have earlier : ∀ id edge, getEdge id next = some edge → ∃ held, getEdge id store = some held ∧ trace held = trace edge := by
    intro id edge held
    exact getEdge_of_traceAt ((same id).symm.trans (traceAt_of_getEdge held))
  intro id id' edge edge' held held' source target
  obtain ⟨first,stored,traced⟩ := earlier id edge held
  obtain ⟨second,stored',traced'⟩ := earlier id' edge' held'
  apply single id id' first second stored stored'
  · exact (congrArg Trace.sourceId traced).trans (source.trans (congrArg Trace.sourceId traced').symm)
  · exact (congrArg Trace.targetId traced).trans (target.trans (congrArg Trace.targetId traced').symm)

theorem OnePerPair.of_new {newId : String} {added : DependencyEdge}
    (elsewhere : ∀ id, id ≠ newId → traceAt id next = traceAt id store) (here : traceAt newId next = some (trace added))
    (missing : ∀ id edge, getEdge id store = some edge → ¬ (edge.sourceId = added.sourceId ∧ edge.targetId = added.targetId))
    (single : OnePerPair store) : OnePerPair next := by
  have known : ∀ id edge, getEdge id next = some edge → (id = newId ∧ trace edge = trace added) ∨
      (id ≠ newId ∧ ∃ held, getEdge id store = some held ∧ trace held = trace edge) := by
    intro id edge held
    by_cases isNew : id = newId
    · refine Or.inl ⟨isNew,?_⟩
      rw [isNew] at held
      exact Option.some.inj ((traceAt_of_getEdge held).symm.trans here)
    · exact Or.inr ⟨isNew,getEdge_of_traceAt ((elsewhere id isNew).symm.trans (traceAt_of_getEdge held))⟩
  have apart : ∀ edge edge' held id, trace edge = trace added → getEdge id store = some held → trace held = trace edge' →
      ¬ (edge'.sourceId = edge.sourceId ∧ edge'.targetId = edge.targetId) := by
    rintro edge edge' held id isAdded stored traced ⟨source,target⟩
    apply missing id held stored
    exact ⟨(congrArg Trace.sourceId traced).trans (source.trans (congrArg Trace.sourceId isAdded)),
      (congrArg Trace.targetId traced).trans (target.trans (congrArg Trace.targetId isAdded))⟩
  intro id id' edge edge' held held' source target
  rcases known id edge held with ⟨isNew,isAdded⟩ | ⟨_,first,stored,traced⟩
  · rcases known id' edge' held' with ⟨isNew',_⟩ | ⟨_,second,stored',traced'⟩
    · exact isNew.trans isNew'.symm
    · exact absurd ⟨source.symm,target.symm⟩ (apart edge edge' second id' isAdded stored' traced')
  · rcases known id' edge' held' with ⟨_,isAdded'⟩ | ⟨_,second,stored',traced'⟩
    · exact absurd ⟨source,target⟩ (apart edge' edge first id isAdded' stored traced)
    · apply single id id' first second stored stored'
      · exact (congrArg Trace.sourceId traced).trans (source.trans (congrArg Trace.sourceId traced').symm)
      · exact (congrArg Trace.targetId traced).trans (target.trans (congrArg Trace.targetId traced').symm)

theorem traceAt_saveEdge {saved existing : DependencyEdge} (held : getEdge existing.id store = some existing)
    (sameId : saved.id = existing.id) (sameTrace : trace saved = trace existing) (id : String) :
    traceAt id (saveEdge saved store) = traceAt id store := by
  unfold traceAt
  rw [getEdge_saveEdge,sameId]
  split
  · rename_i here
    rw [here,held,Option.map_some,Option.map_some,sameTrace]
  · rfl

theorem trace_of_assertion {edge other : DependencyEdge} (same : assertion other = assertion edge) :
    trace other = trace edge := by
  unfold trace DependencyEdge.isManual DependencyEdge.sourceId DependencyEdge.targetId
  rw [show other.provenance = edge.provenance from congrArg Assertion.provenance same,
    show other.sourceRef = edge.sourceRef from congrArg Assertion.sourceRef same,
    show other.targetRef = edge.targetRef from congrArg Assertion.targetRef same,
    show other.relationshipType = edge.relationshipType from congrArg Assertion.relationshipType same]

theorem trace_refreshDiscovered (candidate : DependencyEdge) (now : Instant) (edge : DependencyEdge) :
    trace (refreshDiscovered candidate now edge) = trace edge := by
  unfold refreshDiscovered addHistory
  split <;> rfl

theorem trace_settledManual (request : ConflictResolveRequest) (actorId : String) (now : Instant) (edge : DependencyEdge) :
    trace (settledManual request actorId now edge) = trace edge := by
  unfold settledManual addHistory
  cases request.resolutionAction <;> rfl

theorem traceAt_resolved {conflict : EdgeConflict} {manual : DependencyEdge}
    (held : getEdge conflict.manualEdgeId store = some manual) (request : ConflictResolveRequest) (actorId : String)
    (now : Instant) (id : String) : traceAt id (resolved conflict manual request actorId now store) = traceAt id store := by
  unfold traceAt
  rw [getEdge_resolved held]
  split
  · rw [Option.map_map]
    congr 1
    funext edge
    exact trace_of_assertion (assertion_settledDiscovered request actorId now edge)
  · split
    · rename_i here
      rw [here,held,Option.map_some,Option.map_some,trace_settledManual]
    · rfl

theorem traceAt_surfaced {manual : DependencyEdge} (held : getEdge manual.id store = some manual)
    {candidate : DependencyEdge} (unused : getEdge candidate.id store = none) (reason : String) (now : Instant)
    (conflictId : String) (id : String) :
    traceAt id (surfaced manual candidate reason now conflictId store) =
      if id = candidate.id then some (trace candidate) else traceAt id store := by
  unfold traceAt
  rw [getEdge_surfaced]
  have different : manual.id ≠ candidate.id := by
    intro same
    rw [same,unused] at held
    cases held
  split
  · rename_i here
    rw [if_neg (fun same => different (here.symm.trans same)),here,held]
    rfl
  · split
    · rfl
    · rfl

end Traces

section Steps

variable {store : Store}

theorem tidy_saveEdge (tidy : Tidy store) {saved existing : DependencyEdge}
    (held : getEdge existing.id store = some existing) (sameId : saved.id = existing.id)
    (sameTrace : trace saved = trace existing) (retired : existing.status = .superseded → saved.status = .superseded) :
    Tidy (saveEdge saved store) := by
  have traces := traceAt_saveEdge held sameId sameTrace
  refine ⟨tidy.pairs.of_traces traces,?_,tidy.distinct,?_⟩
  · intro key conflict filed
    simp only [traces]
    exact tidy.records key conflict filed
  · intro key conflict filed kept
    obtain ⟨closed,edge,stored,status⟩ := tidy.superseded key conflict filed kept
    refine ⟨closed,?_⟩
    rw [getEdge_saveEdge,sameId]
    split
    · rename_i here
      rw [here,held] at stored
      cases stored
      exact ⟨saved,rfl,retired status⟩
    · exact ⟨edge,stored,status⟩

theorem ne_of_traced {id newId : String} {found : Trace} (traced : traceAt id store = some found)
    (unused : getEdge newId store = none) : id ≠ newId := by
  rintro rfl
  rw [traceAt,unused] at traced
  cases traced

theorem discovered_id (candidate : DependencyEdge) (now : Instant) : (discovered candidate now).id = candidate.id := rfl

theorem tidy_stored (tidy : Tidy store) {candidate : DependencyEdge} (now : Instant)
    (unused : getEdge candidate.id store = none)
    (missing : ∀ id edge, getEdge id store = some edge →
      ¬ (edge.sourceId = candidate.sourceId ∧ edge.targetId = candidate.targetId)) :
    Tidy (saveEdge (discovered candidate now) store) := by
  have traces : ∀ id, id ≠ candidate.id → traceAt id (saveEdge (discovered candidate now) store) = traceAt id store := by
    intro id other
    rw [traceAt,getEdge_saveEdge,discovered_id,if_neg other]
    rfl
  have here : traceAt candidate.id (saveEdge (discovered candidate now) store) = some (trace candidate) := by
    rw [traceAt,getEdge_saveEdge,discovered_id,if_pos rfl]
    rfl
  refine ⟨tidy.pairs.of_new traces here missing,?_,tidy.distinct,?_⟩
  · intro key conflict filed
    obtain ⟨found,discovery,targetId,type,manual⟩ := tidy.records key conflict filed
    rw [traces _ (ne_of_traced found unused),traces _ (ne_of_traced manual unused)]
    exact ⟨found,discovery,targetId,type,manual⟩
  · intro key conflict filed kept
    obtain ⟨closed,edge,stored,status⟩ := tidy.superseded key conflict filed kept
    refine ⟨closed,edge,?_,status⟩
    rw [getEdge_saveEdge,discovered_id,if_neg (ne_of_traced (traceAt_of_getEdge stored) unused)]
    exact stored

theorem tidy_surfaced (tidy : Tidy store) {manual candidate : DependencyEdge} (reason : String) (now : Instant)
    {conflictId : String} (held : getEdge manual.id store = some manual) (asserted : manual.isManual = true)
    (source : manual.sourceId = candidate.sourceId) (discovery : candidate.isManual = false)
    (unused : getEdge candidate.id store = none)
    (missing : ∀ id edge, getEdge id store = some edge →
      ¬ (edge.sourceId = candidate.sourceId ∧ edge.targetId = candidate.targetId)) :
    Tidy (surfaced manual candidate reason now conflictId store) := by
  have traces := traceAt_surfaced held unused reason now conflictId
  have elsewhere : ∀ id, id ≠ candidate.id →
      traceAt id (surfaced manual candidate reason now conflictId store) = traceAt id store := by
    intro id other
    rw [traces,if_neg other]
  have here : traceAt candidate.id (surfaced manual candidate reason now conflictId store) = some (trace candidate) := by
    rw [traces,if_pos rfl]
  have manualTrace := traceAt_of_getEdge held
  have manualThere : traceAt manual.id (surfaced manual candidate reason now conflictId store) =
      some ⟨true,candidate.sourceId,manual.targetId,manual.relationshipType⟩ := by
    rw [elsewhere _ (ne_of_traced manualTrace unused),manualTrace,trace,asserted,source]
  refine ⟨tidy.pairs.of_new elsewhere here missing,?_,?_,?_⟩
  · intro key conflict filed
    rw [getConflict_surfaced] at filed
    split at filed
    · cases filed
      exact ⟨here,discovery,manual.targetId,manual.relationshipType,manualThere⟩
    · obtain ⟨found,isFound,targetId,type,traced⟩ := tidy.records key conflict filed
      rw [elsewhere _ (ne_of_traced found unused),elsewhere _ (ne_of_traced traced unused)]
      exact ⟨found,isFound,targetId,type,traced⟩
  · intro key key' conflict conflict' filed filed' same
    rw [getConflict_surfaced] at filed filed'
    split at filed
    · rename_i isNew
      split at filed'
      · rename_i isNew'
        rw [isNew,isNew']
      · cases filed
        exact absurd same.symm (ne_of_traced (tidy.records key' conflict' filed').1 unused)
    · split at filed'
      · cases filed'
        exact absurd same (ne_of_traced (tidy.records key conflict filed).1 unused)
      · exact tidy.distinct key key' conflict conflict' filed filed' same
  · intro key conflict filed kept
    rw [getConflict_surfaced] at filed
    split at filed
    · cases filed
      cases kept
    · obtain ⟨closed,edge,stored,status⟩ := tidy.superseded key conflict filed kept
      have notManual : conflict.discoveredEdgeId ≠ manual.id := by
        intro same
        obtain ⟨found,isFound,_⟩ := tidy.records key conflict filed
        rw [same,manualTrace] at found
        have manually := congrArg Trace.manual (Option.some.inj found)
        simp [trace,asserted,isFound] at manually
      refine ⟨closed,edge,?_,status⟩
      rw [getEdge_surfaced,if_neg notManual,if_neg (ne_of_traced (traceAt_of_getEdge stored) unused)]
      exact stored

theorem settledDiscovered_superseded {request : ConflictResolveRequest} (kept : request.resolutionAction = .keepManual)
    (actorId : String) (now : Instant) (edge : DependencyEdge) :
    (settledDiscovered request actorId now edge).status = .superseded := by
  unfold settledDiscovered addHistory
  rw [kept]

theorem tidy_resolved (tidy : Tidy store) {conflict : EdgeConflict} {manual : DependencyEdge} {key : String}
    (filed : getConflict key store = some conflict) (held : getEdge conflict.manualEdgeId store = some manual)
    (request : ConflictResolveRequest) (actorId : String) (now : Instant) :
    Tidy (resolved conflict manual request actorId now store) := by
  have traces := traceAt_resolved held request actorId now
  have keyOf := store.filed filed
  have origin : ∀ place found, getConflict place (resolved conflict manual request actorId now store) = some found →
      ∃ original, getConflict place store = some original ∧ original.discoveredEdgeId = found.discoveredEdgeId ∧
        original.manualEdgeId = found.manualEdgeId ∧ original.discoveredVersion = found.discoveredVersion := by
    intro place found listed
    rw [getConflict_resolved] at listed
    split at listed
    · rename_i here
      cases listed
      refine ⟨conflict,?_,rfl,rfl,rfl⟩
      rw [here,keyOf]
      exact filed
    · exact ⟨found,listed,rfl,rfl,rfl⟩
  refine ⟨tidy.pairs.of_traces traces,?_,?_,?_⟩
  · intro place found listed
    obtain ⟨original,stored,discoveredId,manualId,version⟩ := origin place found listed
    simp only [traces,← discoveredId,← manualId,← version]
    exact tidy.records place original stored
  · intro place place' found found' listed listed' same
    obtain ⟨original,stored,discoveredId,_⟩ := origin place found listed
    obtain ⟨original',stored',discoveredId',_⟩ := origin place' found' listed'
    apply tidy.distinct place place' original original' stored stored'
    rw [discoveredId,discoveredId',same]
  · intro place found listed kept
    rw [getConflict_resolved] at listed
    split at listed
    · cases listed
      have action : request.resolutionAction = .keepManual := by simpa [closed] using kept
      obtain ⟨edge,stored,_⟩ := getEdge_of_traceAt (tidy.records key conflict filed).1
      refine ⟨rfl,settledDiscovered request actorId now edge,?_,settledDiscovered_superseded action actorId now edge⟩
      change getEdge conflict.discoveredEdgeId _ = _
      rw [getEdge_resolved held,stored]
      simp
    · rename_i elsewhere
      obtain ⟨isClosed,edge,stored,status⟩ := tidy.superseded place found listed kept
      have otherDiscovered : found.discoveredEdgeId ≠ conflict.discoveredEdgeId := by
        intro same
        exact elsewhere ((tidy.distinct place key found conflict listed filed same).trans keyOf.symm)
      have otherManual : found.discoveredEdgeId ≠ conflict.manualEdgeId := by
        intro same
        have isFound := (tidy.records place found listed).1
        obtain ⟨_,_,targetId,type,isManual⟩ := tidy.records key conflict filed
        rw [same,isManual] at isFound
        have kind := congrArg Trace.manual (Option.some.inj isFound)
        rw [trace,(tidy.records place found listed).2.1] at kind
        cases kind
      refine ⟨isClosed,edge,?_,status⟩
      rw [getEdge_resolved held,if_neg (fun here => otherDiscovered here.1),if_neg otherManual]
      exact stored

theorem refreshDiscovered_superseded (candidate : DependencyEdge) (now : Instant) {edge : DependencyEdge}
    (retired : edge.status = .superseded) : (refreshDiscovered candidate now edge).status = .superseded := by
  unfold refreshDiscovered
  rw [if_neg (by rw [retired]; decide)]
  exact retired

theorem tidy_step {action : MergeAction} (tidy : Tidy store) (discovers : Discovers store action)
    (sameTyped : SameTyped store action) : Tidy (step store action) := by
  cases action with
  | merge database candidate now conflictId =>
    obtain ⟨discovery,unused⟩ := discovers
    have merged := mergeCandidateEdge_merged database candidate now conflictId store
    change Tidy (mergeCandidateEdge database candidate now conflictId store).1
    generalize (mergeCandidateEdge database candidate now conflictId store).1 = next at merged ⊢
    cases merged with
    | @confirmed manual held _ _ _ _ =>
      have same : trace (confirmManual candidate now manual) = trace manual := rfl
      exact tidy_saveEdge tidy held rfl same (fun retired => retired)
    | @refreshed edge held _ _ _ =>
      exact tidy_saveEdge tidy held refreshDiscovered_id (trace_refreshDiscovered candidate now edge)
        (refreshDiscovered_superseded candidate now)
    | @retyped manual found asserted type =>
      obtain ⟨held,source,target⟩ := findEdge_some found
      exact absurd (sameTyped manual.id manual held asserted source target) type
    | redirected held asserted source _ _ missing =>
      exact tidy_surfaced tidy _ now held asserted source discovery unused missing
    | stored missing => exact tidy_stored tidy now unused missing
  | resolve conflictId request actorId now =>
    rcases step_resolve_cases store conflictId request actorId now with same | ⟨conflict,manual,filed,_,held,result⟩
    · rw [same]
      exact tidy
    · rw [result]
      exact tidy_resolved tidy filed held request actorId now

theorem retyped_keeps_both {store : Store} {database : Database} {candidate manual : DependencyEdge}
    (found : findEdge database candidate.sourceId candidate.targetId none store = some manual)
    (asserted : manual.isManual = true) (type : manual.relationshipType ≠ candidate.relationshipType)
    (unused : getEdge candidate.id store = none) (now : Instant) (conflictId : String) :
    getEdge manual.id (step store (.merge database candidate now conflictId)) =
        some (flagged manual candidate now conflictId (typeReason manual candidate)) ∧
      getEdge candidate.id (step store (.merge database candidate now conflictId)) =
        some (contested candidate now conflictId (typeReason manual candidate)) ∧
      getConflict conflictId (step store (.merge database candidate now conflictId)) =
        some (openConflict manual candidate now conflictId (typeReason manual candidate)) := by
  have result : step store (.merge database candidate now conflictId) =
      surfaced manual candidate (typeReason manual candidate) now conflictId store := by
    simp only [step,mergeCandidateEdge,found,asserted,if_true,if_neg type]
    rfl
  have different : candidate.id ≠ manual.id := by
    intro same
    have held := (findEdge_some found).1
    rw [← same,unused] at held
    cases held
  rw [result]
  refine ⟨?_,?_,?_⟩
  · rw [getEdge_surfaced,if_pos rfl]
  · rw [getEdge_surfaced,if_neg different,if_pos rfl]
  · rw [getConflict_surfaced,if_pos rfl]

/-- A candidate of another type than the manual edge between its endpoints is stored beside it. -/
theorem sameTyped_of_single {action : MergeAction} (single : OnePerPair store) (discovers : Discovers store action)
    (kept : OnePerPair (step store action)) : SameTyped store action := by
  cases action with
  | resolve conflictId request actorId now => trivial
  | merge database candidate now conflictId =>
    obtain ⟨_,unused⟩ := discovers
    intro id edge held asserted source target
    by_contra different
    cases answer : findEdge database candidate.sourceId candidate.targetId none store with
    | none => exact findEdge_none answer held ⟨source,target⟩
    | some manual =>
      obtain ⟨stored,fromSource,toTarget⟩ := findEdge_some answer
      have same := single id manual.id edge manual held stored (source.trans fromSource.symm) (target.trans toTarget.symm)
      rw [← same,held] at stored
      cases stored
      have both := retyped_keeps_both answer asserted different unused now conflictId
      have again := kept _ _ _ _ both.1 both.2.1 source target
      rw [same,again,unused] at held
      cases held

end Steps

section Runs

variable {store : Store}

theorem Tidy.conflict_unique (tidy : Tidy store) {key key' : String} {conflict conflict' : EdgeConflict}
    (filed : getConflict key store = some conflict) (filed' : getConflict key' store = some conflict')
    (manual : conflict.manualEdgeId = conflict'.manualEdgeId)
    (target : conflict.discoveredVersion.targetId = conflict'.discoveredVersion.targetId) : key = key' := by
  obtain ⟨found,_,targetId,_,traced⟩ := tidy.records key conflict filed
  obtain ⟨found',_,targetId',_,traced'⟩ := tidy.records key' conflict' filed'
  rw [manual,traced'] at traced
  have source := congrArg Trace.sourceId (Option.some.inj traced)
  obtain ⟨edge,held,same⟩ := getEdge_of_traceAt found
  obtain ⟨edge',held',same'⟩ := getEdge_of_traceAt found'
  apply tidy.distinct key key' conflict conflict' filed filed'
  apply tidy.pairs _ _ edge edge' held held'
  · exact (congrArg Trace.sourceId same).trans (source.symm.trans (congrArg Trace.sourceId same').symm)
  · exact (congrArg Trace.targetId same).trans (target.trans (congrArg Trace.targetId same').symm)

theorem Tidy.repeat_keeps_manual (tidy : Tidy store) {key : String} {conflict : EdgeConflict}
    (filed : getConflict key store = some conflict) {action : MergeAction} (repeats : Repeats conflict.discoveredVersion action) :
    getEdge conflict.manualEdgeId (step store action) = getEdge conflict.manualEdgeId store := by
  obtain ⟨found,discovery,targetId,_,traced⟩ := tidy.records key conflict filed
  obtain ⟨stored,held,same⟩ := getEdge_of_traceAt found
  cases action with
  | resolve conflictId request actorId now => exact absurd repeats id
  | merge database candidate now conflictId =>
    obtain ⟨source,target,_⟩ := repeats
    have known : stored.sourceId = candidate.sourceId ∧ stored.targetId = candidate.targetId :=
      ⟨(congrArg Trace.sourceId same).trans source.symm,(congrArg Trace.targetId same).trans target.symm⟩
    have notManual : stored.isManual = false := (congrArg Trace.manual same).trans discovery
    -- an edge between the candidate's endpoints is the discovered edge itself
    have only : ∀ edge, getEdge edge.id store = some edge → edge.sourceId = candidate.sourceId →
        edge.targetId = candidate.targetId → edge.isManual = false := by
      intro edge listed fromSource toTarget
      have isStored := tidy.pairs _ _ edge stored listed held (fromSource.trans known.1.symm) (toTarget.trans known.2.symm)
      rw [isStored,held] at listed
      cases listed
      exact notManual
    have merged := mergeCandidateEdge_merged database candidate now conflictId store
    change getEdge conflict.manualEdgeId (mergeCandidateEdge database candidate now conflictId store).1 = _
    generalize (mergeCandidateEdge database candidate now conflictId store).1 = next at merged ⊢
    cases merged with
    | confirmed listed asserted fromSource toTarget _ =>
      rw [only _ listed fromSource toTarget] at asserted
      cases asserted
    | @refreshed edge listed kind _ _ =>
      have apart : conflict.manualEdgeId ≠ edge.id := by
        intro equal
        rw [equal,traceAt_of_getEdge listed] at traced
        have manually := congrArg Trace.manual (Option.some.inj traced)
        rw [trace,kind] at manually
        cases manually
      rw [getEdge_saveEdge,refreshDiscovered_id,if_neg apart]
    | retyped answered asserted _ =>
      obtain ⟨listed,fromSource,toTarget⟩ := findEdge_some answered
      rw [only _ listed fromSource toTarget] at asserted
      cases asserted
    | redirected _ _ _ _ _ missing => exact absurd known (missing _ stored held)
    | stored missing => exact absurd known (missing _ stored held)

theorem Tidy.settled (tidy : Tidy store) (after : List MergeAction) : Settled store after where
  conflicts := fun _ _ _ _ filed filed' _ _ manual target _ => tidy.conflict_unique filed filed' manual target
  pairs := tidy.pairs
  superseded := fun key conflict filed kept => (tidy.superseded key conflict filed kept).2
  undisturbed := fun _ _ filed _ _ _ _ repeats => tidy.repeat_keeps_manual filed repeats

theorem sameTyped_of_settled {actions : List MergeAction} (tidy : Tidy store) (discovers : Along step Discovers store actions)
    (settled : ∀ before after, actions = before ++ after → OnePerPair (run step store before)) :
    Along step SameTyped store actions := by
  induction actions generalizing store with
  | nil => trivial
  | cons action actions ih =>
    obtain ⟨first,rest⟩ := discovers
    have sameTyped := sameTyped_of_single tidy.pairs first (settled [action] actions rfl)
    refine ⟨sameTyped,ih (tidy_step tidy first sameTyped) rest ?_⟩
    rintro before after rfl
    exact settled (action :: before) after rfl

/-- From a store with one edge for two endpoints and no conflict, every state of a
run of discoveries and resolutions is settled exactly when no candidate comes with
another type than a manual edge that is stored between its endpoints. -/
theorem rediscovery_settled_iff {start : Store} {actions : List MergeAction} (quiet : start.conflicts = ∅)
    (single : OnePerPair start) (discovers : Along step Discovers start actions) :
    (∀ before after, actions = before ++ after → Settled (run step start before) after) ↔ Along step SameTyped start actions := by
  have none : ∀ key conflict, getConflict key start ≠ some conflict := by
    intro key conflict filed
    rw [getConflict,quiet] at filed
    cases filed
  have tidy : Tidy start :=
    ⟨single,fun key conflict filed => absurd filed (none key conflict),
      fun key _ conflict _ filed => absurd filed (none key conflict),
      fun key conflict filed => absurd filed (none key conflict)⟩
  constructor
  · intro settled
    exact sameTyped_of_settled tidy discovers (fun before after shape => (settled before after shape).pairs)
  · rintro sameTyped before after rfl
    have both := along_and.mpr ⟨discovers,sameTyped⟩
    have reached : Tidy (run step start before) :=
      run_preserves (fun _ _ holds met => tidy_step holds met.1 met.2) tidy ((along_append start before after).mp both).1
    exact reached.settled after

end Runs

def retypedCandidate : DependencyEdge :=
  { parentCandidate with
    id := "dep-net-1", targetRef := ⟨.resource,"a",none⟩, relationshipType := .networkConnectivity }

/-- A database that answers a look-up with the row it wrote first. -/
def firstWritten : Database :=
  { inOrder with
    pick := List.getLast?
    pick_mem := List.mem_of_getLast?
    pick_none := List.getLast?_eq_none_iff.mp }

def retypedRun : List MergeAction :=
  [.merge firstWritten retypedCandidate 1 "conf-1", .resolve "conf-1" keepRequest "alice" 2,
    .merge firstWritten { retypedCandidate with id := "dep-net-2" } 3 "conf-2"]

def rediscoveryRun : List MergeAction :=
  [.merge inOrder parentCandidate 1 "conf-1", .resolve "conf-1" keepRequest "alice" 2,
    .merge inOrder { parentCandidate with id := "dep-struct-2" } 3 "conf-2"]

theorem getEdge_parentStore {id : String} {edge : DependencyEdge} (held : getEdge id parentStore = some edge) :
    id = "dep-man-1" ∧ edge = parentEdge := by
  unfold parentStore at held
  rw [getEdge_saveEdge] at held
  split at held
  · rename_i here
    cases held
    exact ⟨here,rfl⟩
  · cases held

theorem parentStore_single : OnePerPair parentStore := by
  intro id id' edge edge' held held' _ _
  rw [(getEdge_parentStore held).1,(getEdge_parentStore held').1]

/-- One merge stores a second edge between the same endpoints, although there was
only one, and the same candidate after the decision opens the conflict again. -/
theorem retyped_candidate_doubles_pair :
    OnePerPair parentStore ∧ ¬ OnePerPair (run step parentStore (retypedRun.take 1)) ∧
      (getEdge "dep-man-1" (run step parentStore (retypedRun.take 2))).map DependencyEdge.status = some .active ∧
      (getEdge "dep-man-1" (run step parentStore retypedRun)).map DependencyEdge.status = some .conflict := by
  refine ⟨parentStore_single,?_,by decide +kernel,by decide +kernel⟩
  intro single
  have found : findEdge firstWritten retypedCandidate.sourceId retypedCandidate.targetId none parentStore = some parentEdge := by
    decide +kernel
  have both := retyped_keeps_both found rfl (by decide) (by decide +kernel) 1 "conf-1"
  have same := single _ _ _ _ both.1 both.2.1 rfl rfl
  exact absurd same (by decide)

/-- The kept decision on another target survives the next discovery of it. -/
theorem kept_decision_survives_rediscovery :
    (getEdge "dep-man-1" (run step parentStore rediscoveryRun)).map DependencyEdge.status = some .active ∧
      ∀ before after, rediscoveryRun = before ++ after → Settled (run step parentStore before) after := by
  have listed : ∀ entry ∈ (run step parentStore (rediscoveryRun.take 2)).edges.entries,
      entry.2.edge.isManual = true → entry.2.edge.targetId ≠ "b" := by decide +kernel
  refine ⟨by decide +kernel,(rediscovery_settled_iff rfl parentStore_single ?_).mpr ?_⟩
  · exact ⟨⟨rfl,by decide +kernel⟩,trivial,⟨rfl,by decide +kernel⟩,trivial⟩
  · refine ⟨?_,trivial,?_,trivial⟩
    · intro id edge held _ _ target
      rw [(getEdge_parentStore held).2] at target
      exact absurd target (by decide)
    · intro id edge held asserted _ target
      obtain ⟨row,stored,rfl⟩ := Option.map_eq_some_iff.mp held
      exact absurd target (listed _ (Table.lookup_eq_some_iff.mp stored) asserted)

end CloudLens.Dependency
