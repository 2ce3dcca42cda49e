import CloudLens.Sync.Dispatch
import CloudLens.Connectors.Verifiability

/-! What becomes of a scope does not depend on the scopes worked on before it: the
outcome of its stages and the records they quarantine are read from the answers of
the connector and the stores alone. -/
namespace CloudLens.Sync
open Library Connectors

section Landing

variable (dumps : Json → Except String (List Char))

def blocked (s : Storage) (call : LandingCall) : Bool :=
  match dumps call.rawPayload, existingObject s call.tenantId call.relativeKey with
  | .ok text, some found => found ≠ Sha256.encode text
  | _, _ => false

def landingFailure (call : LandingCall) (blocked : Bool) : Option LandingError :=
  if call.tenantId = "" then some .missingTenantContext
  else match dumps call.rawPayload with
    | .error error => some (.serialization error)
    | .ok _ =>
      if blocked then some (.immutable call.relativeKey)
      else match sanitizeAndResolveKey call.tenantId call.relativeKey with
        | .error error => some (.storage error)
        | .ok _ => match call.putError with
          | some error => some (.storage (.io error))
          | none => match call.databaseError with
            | none => none
            | some error => if call.requireRealdb then some (.database error) else none

variable {dumps} {s : Storage} {call : LandingCall} {text : List Char}

theorem blocked_iff (dumped : dumps call.rawPayload = .ok text) : blocked dumps s call = true ↔
    existingObject s call.tenantId call.relativeKey ≠ none ∧
      existingObject s call.tenantId call.relativeKey ≠ some (Sha256.encode text) := by
  unfold blocked
  rw [dumped]
  cases existingObject s call.tenantId call.relativeKey with
  | none => simp
  | some found =>
    dsimp only
    generalize Sha256.encode text = payload
    simp

theorem blocked_congr {other : LandingCall} (payload : other.rawPayload = call.rawPayload) (tenant : other.tenantId = call.tenantId)
    (key : other.relativeKey = call.relativeKey) : blocked dumps s other = blocked dumps s call := by
  unfold blocked
  rw [payload,tenant,key]

theorem landingFailure_congr {other : LandingCall} {held : Bool} (payload : other.rawPayload = call.rawPayload)
    (tenant : other.tenantId = call.tenantId) (key : other.relativeKey = call.relativeKey) (put : other.putError = call.putError)
    (database : other.databaseError = call.databaseError) (required : other.requireRealdb = call.requireRealdb) :
    landingFailure dumps other held = landingFailure dumps call held := by
  unfold landingFailure
  rw [payload,tenant,key,put,database,required]

theorem landRawPayload_answer (dumps : Json → Except String (List Char)) (s : Storage) (call : LandingCall) :
    (landRawPayload dumps s call).2.map (fun _ => ()) =
    match landingFailure dumps call (blocked dumps s call) with
    | some error => .error error
    | none => .ok () := by
  unfold landRawPayload landingFailure
  by_cases tenant : call.tenantId = ""
  · rw [if_pos tenant,if_pos tenant]
    rfl
  · rw [if_neg tenant,if_neg tenant]
    cases dumped : dumps call.rawPayload with
    | error error => rfl
    | ok text =>
      have decided := blocked_iff (s := s) dumped
      obtain ⟨payload,made⟩ : ∃ payload, payload = Sha256.encode text := ⟨_,rfl⟩
      dsimp only
      rw [← made] at decided ⊢
      by_cases held : blocked dumps s call = true
      · rw [if_pos (decided.mp held),if_pos held]
        rfl
      · rw [if_neg (fun other => held (decided.mpr other)),if_neg held]
        unfold putObject
        cases sanitizeAndResolveKey call.tenantId call.relativeKey with
        | error error => rfl
        | ok resolved =>
          cases call.putError with
          | some error => rfl
          | none =>
            cases call.databaseError with
            | none => rfl
            | some error => cases call.requireRealdb <;> rfl

theorem blocked_landed : blocked dumps (landRawPayload dumps s call).1 call = blocked dumps s call := by
  by_cases reached : ∃ payload resolved, Reaches dumps s call payload resolved
  · obtain ⟨payload,resolved,reaches⟩ := reached
    obtain ⟨objects,_,_⟩ := landRawPayload_reaches reaches
    obtain ⟨text,dumped,made⟩ := reaches.serialised
    have before : ¬blocked dumps s call = true := by
      rw [blocked_iff dumped,← made]
      exact reaches.unblocked
    have after : ¬blocked dumps (landRawPayload dumps s call).1 call = true := by
      rw [blocked_iff dumped,← made]
      rintro ⟨_,differs⟩
      refine differs ?_
      unfold existingObject
      rw [reaches.key]
      dsimp only
      rw [objects,written_updates,Function.update_self]
    rw [Bool.eq_false_iff.mpr before,Bool.eq_false_iff.mpr after]
  · obtain ⟨error,stopped⟩ := landRawPayload_stops (fun payload resolved reaches => reached ⟨payload,resolved,reaches⟩)
    rw [stopped]

end Landing

section Batch

variable (uuid : ℕ → String) (services : SyncServices) (call : SyncCall) (jobId : String) (capability : ConnectorCapability)

def QuarantineRecord.anonymous (record : QuarantineRecord) : QuarantineRecord := { record with id := "" }

def quarantineEntries (records : List Json) : List QuarantineRecord :=
  (records.filter (fun record => !(services.validateSingleRecord record capability).isValid)).map
    (quarantineRecord services call jobId capability "")

def validRecords (records : List Json) : List Json :=
  records.filter (fun record => (services.validateSingleRecord record capability).isValid)

theorem validateAndQuarantineBatch_splits (world : SyncWorld) (records : List Json) : ∃ drawn entries,
    validateAndQuarantineBatch uuid services call jobId capability world records =
      ({ world with quarantine := world.quarantine ++ entries, drawn := drawn },
        validRecords services capability records, entries) ∧
      entries.map QuarantineRecord.anonymous = quarantineEntries services call jobId capability records := by
  induction records generalizing world with
  | nil => exact ⟨world.drawn,[],by simp [validateAndQuarantineBatch,validRecords],rfl⟩
  | cons record rest ih =>
    unfold validateAndQuarantineBatch validRecords quarantineEntries
    by_cases valid : (services.validateSingleRecord record capability).isValid = true
    · obtain ⟨drawn,entries,split,same⟩ := ih world
      rw [if_pos valid,split]
      refine ⟨drawn,entries,?_,?_⟩
      · simp [validRecords,valid]
      · simp [same,quarantineEntries,valid]
    · obtain ⟨drawn,entries,split,same⟩ := ih
        { world with
          quarantine := world.quarantine ++ [quarantineRecord services call jobId capability ("quar-" ++ uuid world.drawn) record]
          drawn := world.drawn + 1 }
      rw [if_neg valid]
      dsimp only
      rw [split]
      refine ⟨drawn,quarantineRecord services call jobId capability ("quar-" ++ uuid world.drawn) record :: entries,?_,?_⟩
      · simp [validRecords,valid]
      · rw [List.map_cons,same]
        simp [quarantineEntries,valid,QuarantineRecord.anonymous,quarantineRecord]

theorem records_split (records : List Json) : (validRecords services capability records).length +
      (quarantineEntries services call jobId capability records).length = records.length := by
  unfold validRecords quarantineEntries
  rw [List.length_map]
  induction records with
  | nil => rfl
  | cons record rest ih =>
    by_cases valid : (services.validateSingleRecord record capability).isValid = true
    · simp only [List.filter_cons,valid,Bool.not_true,if_true,List.length_cons,Bool.false_eq_true,if_false]
      omega
    · simp only [List.filter_cons,valid,Bool.not_false,if_true,List.length_cons,Bool.false_eq_true,if_false]
      omega

end Batch

section Stages

variable (uuid : ℕ → String) (services : SyncServices) (connector : CloudConnector) (call : SyncCall) (jobId : String)

def firstPage (scope : String) (stage : Stage) : Except ScopeError PagedResult :=
  connector.page stage.method (if stage.ofScope then some scope else none) none

def firstItems (scope : String) (stage : Stage) : List Json :=
  match firstPage connector scope stage with
  | .ok page => page.items
  | .error _ => []

def stageCount (records : List Json) (stage : Stage) : ℕ :=
  match stage.validatedAs with
  | none => records.length
  | some capability => (validRecords services capability records).length

def stageEntries (records : List Json) (stage : Stage) : List QuarantineRecord :=
  match stage.validatedAs with
  | none => []
  | some capability => quarantineEntries services call jobId capability records

def stageBlocked (storage : Storage) (scope : String) (stage : Stage) : Bool :=
  match stage.validatedAs with
  | none => false
  | some capability => stage.lands && blocked services.dumps storage (landingCall uuid services call jobId scope capability 0
      (validRecords services capability (firstItems connector scope stage)))

def stageOutcome (held : Bool) (scope : String) (stage : Stage) : Except ScopeError ℕ :=
  match firstPage connector scope stage with
  | .error error => .error error
  | .ok page =>
    match stage.validatedAs with
    | none => .ok page.items.length
    | some capability =>
      let valid := validRecords services capability page.items
      if stage.lands ∧ valid ≠ [] then
        match landingFailure services.dumps (landingCall uuid services call jobId scope capability 0 valid) held with
        | some error => .error (services.describe error)
        | none => .ok valid.length
      else .ok valid.length

def stagesOutcome (held : Stage → Bool) (scope : String) : List Stage → Except ScopeError ℕ
  | [] => .ok 0
  | stage :: rest =>
    match stageOutcome uuid services connector call jobId (held stage) scope stage with
    | .error error => .error error
    | .ok rows => (stagesOutcome held scope rest).map (rows + ·)

def scopeOutcome (storage : Storage) (scope : String) : Except ScopeError ℕ :=
  stagesOutcome uuid services connector call jobId (stageBlocked uuid services connector call jobId storage scope) scope
    (scopeStages connector call)

def Steady (before after : SyncWorld) : Prop :=
  after.checkpoints = before.checkpoints ∧ ∀ scope, ∀ stage ∈ scopeStages connector call,
    stageBlocked uuid services connector call jobId after.storage scope stage =
      stageBlocked uuid services connector call jobId before.storage scope stage

def quarantinedBy : SyncWorld → List String → List (List QuarantineRecord)
  | _, [] => []
  | world, scope :: rest =>
    let worked := (executeScopeWork uuid services connector call jobId world scope).1
    worked.quarantine.drop world.quarantine.length :: quarantinedBy worked rest

variable {uuid services connector call jobId} {world : SyncWorld} {scope : String} {stage : Stage}

theorem scopeStages_landing {first second : Stage} (member : first ∈ scopeStages connector call)
    (other : second ∈ scopeStages connector call) (lands : first.lands = true) (also : second.lands = true) :
    first = second ∧ first.ofScope = false := by
  have dispatched : ∀ capability, ∀ first ∈ dispatchCapability capability, ∀ second ∈ dispatchCapability capability,
      first.lands = true → second.lands = true → first = second ∧ first.ofScope = false := by
    intro capability
    cases capability <;> decide
  have typed : ∀ syncType, ∀ first ∈ syncTypeStages syncType, ∀ second ∈ syncTypeStages syncType,
      first.lands = true → second.lands = true → first = second ∧ first.ofScope = false := by
    intro syncType
    cases syncType <;> decide
  unfold scopeStages at member other
  cases targeted : call.capability with
  | some capability =>
    rw [targeted] at member other
    dsimp only at member other
    by_cases declared : connector.declares capability = true
    · rw [if_pos declared] at member other
      exact dispatched capability first member second other lands also
    · rw [if_neg declared] at member
      cases member
  | none =>
    rw [targeted] at member other
    exact typed call.syncType first (List.mem_of_mem_filter member) second (List.mem_of_mem_filter other) lands also

theorem blocked_landingCall (storage : Storage) (capability : ConnectorCapability) (valid : List Json) (scope other : String)
    (drawn later : ℕ) : blocked services.dumps storage (landingCall uuid services call jobId scope capability drawn valid) =
      blocked services.dumps storage (landingCall uuid services call jobId other capability later valid) :=
  blocked_congr rfl rfl rfl

theorem landingFailure_landingCall (capability : ConnectorCapability) (valid : List Json) (drawn : ℕ) (held : Bool) :
    landingFailure services.dumps (landingCall uuid services call jobId scope capability drawn valid) held =
      landingFailure services.dumps (landingCall uuid services call jobId scope capability 0 valid) held := by
  exact landingFailure_congr rfl rfl rfl rfl rfl rfl

theorem stageBlocked_landed {capability : ConnectorCapability} {page : PagedResult} (drawn : ℕ)
    (validated : stage.validatedAs = some capability) (lands : stage.lands = true) (whole : stage.ofScope = false)
    (first : firstPage connector scope stage = .ok page) (storage : Storage) (other : String) :
    stageBlocked uuid services connector call jobId
      (landRawPayload services.dumps storage
        (landingCall uuid services call jobId scope capability drawn (validRecords services capability page.items))).1 other stage =
      stageBlocked uuid services connector call jobId storage other stage := by
  have same : firstItems connector other stage = page.items := by
    unfold firstPage at first
    unfold firstItems firstPage
    rw [whole] at first ⊢
    rw [if_neg (by simp)] at first ⊢
    rw [first]
  unfold stageBlocked
  rw [validated,lands,same]
  dsimp only
  rw [Bool.true_and,Bool.true_and,blocked_landingCall _ capability _ other scope 0 drawn,blocked_landed,
    blocked_landingCall _ capability _ scope other drawn 0]

variable (uuid services scope) in
theorem executeStage_outcome (fresh : resumeToken call jobId world = none) (member : stage ∈ scopeStages connector call) :
    ∃ after entries,
      executeStage uuid services connector call jobId scope world stage =
        (after, stageOutcome uuid services connector call jobId
          (stageBlocked uuid services connector call jobId world.storage scope stage) scope stage) ∧
      after.quarantine = world.quarantine ++ entries ∧ Steady uuid services connector call jobId world after ∧
      ∀ page, firstPage connector scope stage = .ok page →
        entries.map QuarantineRecord.anonymous = stageEntries services call jobId page.items stage := by
  have fetched : connector.page stage.method (if stage.ofScope then some scope else none) (resumeToken call jobId world) =
      firstPage connector scope stage := by
    rw [fresh]
    rfl
  unfold executeStage stageOutcome stageEntries
  rw [fetched]
  cases first : firstPage connector scope stage with
  | error error => exact ⟨world,[],rfl,by simp,⟨rfl,fun _ _ _ => rfl⟩,fun page held => nomatch held⟩
  | ok page =>
    have items : firstItems connector scope stage = page.items := by
      unfold firstItems
      rw [first]
    dsimp only
    cases validated : stage.validatedAs with
    | none =>
      refine ⟨world,[],rfl,by simp,⟨rfl,fun _ _ _ => rfl⟩,?_⟩
      rintro other same
      rfl
    | some capability =>
      obtain ⟨drawn,entries,split,same⟩ := validateAndQuarantineBatch_splits uuid services call jobId capability
        world page.items
      dsimp only
      rw [split]
      dsimp only
      have stored : ∀ other, Except.ok page = (Except.ok other : Except ScopeError PagedResult) →
          entries.map QuarantineRecord.anonymous = quarantineEntries services call jobId capability other.items := by
        intro other held
        obtain rfl := Except.ok.inj held
        exact same
      by_cases landing : stage.lands = true ∧ validRecords services capability page.items ≠ []
      · rw [if_pos landing,if_pos landing]
        have held : stageBlocked uuid services connector call jobId world.storage scope stage =
            blocked services.dumps world.storage (landingCall uuid services call jobId scope capability drawn
              (validRecords services capability page.items)) := by
          unfold stageBlocked
          rw [validated,landing.1,items]
          dsimp only
          rw [Bool.true_and]
          exact blocked_landingCall _ _ _ _ _ _ _
        have answer := landRawPayload_answer services.dumps world.storage
          (landingCall uuid services call jobId scope capability drawn (validRecords services capability page.items))
        rw [← held] at answer
        rw [landingFailure_landingCall] at answer
        have steady (other : String) (second : Stage) (also : second ∈ scopeStages connector call) :
            stageBlocked uuid services connector call jobId (landRawPayload services.dumps world.storage (landingCall uuid services
              call jobId scope capability drawn (validRecords services capability page.items))).1 other second =
              stageBlocked uuid services connector call jobId world.storage other second := by
          by_cases lands : second.lands = true
          · obtain ⟨rfl,whole⟩ := scopeStages_landing member also landing.1 lands
            exact stageBlocked_landed drawn validated lands whole first world.storage other
          · unfold stageBlocked
            cases second.validatedAs with
            | none => rfl
            | some _ => simp [lands]
        generalize landRawPayload services.dumps world.storage (landingCall uuid services call jobId scope capability drawn
          (validRecords services capability page.items)) = outcome at answer steady ⊢
        obtain ⟨storage,landed⟩ := outcome
        generalize landingFailure services.dumps (landingCall uuid services call jobId scope capability 0
          (validRecords services capability page.items)) (stageBlocked uuid services connector call jobId world.storage scope
            stage) = failure at answer ⊢
        cases failure with
        | none =>
          cases landed with
          | ok record => exact ⟨_,entries,rfl,rfl,⟨rfl,steady⟩,stored⟩
          | error error => cases answer
        | some reason =>
          cases landed with
          | ok record => cases answer
          | error error =>
            obtain rfl := Except.error.inj answer
            exact ⟨_,entries,rfl,rfl,⟨rfl,steady⟩,stored⟩
      · rw [if_neg landing,if_neg landing]
        exact ⟨_,entries,rfl,rfl,⟨rfl,fun _ _ _ => rfl⟩,stored⟩

theorem steady_trans {first second third : SyncWorld} (steady : Steady uuid services connector call jobId first second)
    (later : Steady uuid services connector call jobId second third) : Steady uuid services connector call jobId first third :=
  ⟨later.1.trans steady.1,fun scope stage member => (later.2 scope stage member).trans (steady.2 scope stage member)⟩

theorem resumeToken_steady {after : SyncWorld} (steady : Steady uuid services connector call jobId world after) :
    resumeToken call jobId after = resumeToken call jobId world := by
  unfold resumeToken
  rw [steady.1]

variable (uuid services connector call jobId scope) in
theorem stagesOutcome_congr {held other : Stage → Bool} {stages : List Stage} (same : ∀ stage ∈ stages, held stage = other stage) :
    stagesOutcome uuid services connector call jobId held scope stages =
      stagesOutcome uuid services connector call jobId other scope stages := by
  induction stages with
  | nil => rfl
  | cons stage rest ih =>
    obtain ⟨first,later⟩ := List.forall_mem_cons.mp same
    unfold stagesOutcome
    rw [first,ih later]

def firstEntries (services : SyncServices) (connector : CloudConnector) (call : SyncCall) (jobId scope : String)
    (stages : List Stage) : List QuarantineRecord :=
  stages.flatMap (fun stage => stageEntries services call jobId (firstItems connector scope stage) stage)

theorem stageOutcome_fetched {held : Bool} {rows : ℕ}
    (succeeds : stageOutcome uuid services connector call jobId held scope stage = .ok rows) :
    ∃ page, firstPage connector scope stage = .ok page ∧ rows = stageCount services (firstItems connector scope stage) stage := by
  unfold stageOutcome at succeeds
  cases first : firstPage connector scope stage with
  | error error =>
    rw [first] at succeeds
    cases succeeds
  | ok page =>
    have items : firstItems connector scope stage = page.items := by
      unfold firstItems
      rw [first]
    refine ⟨page,rfl,?_⟩
    rw [first] at succeeds
    rw [items]
    unfold stageCount
    cases validated : stage.validatedAs with
    | none =>
      rw [validated] at succeeds
      exact (Except.ok.inj succeeds).symm
    | some capability =>
      rw [validated] at succeeds
      dsimp only at succeeds ⊢
      split at succeeds
      · split at succeeds
        · cases succeeds
        · exact (Except.ok.inj succeeds).symm
      · exact (Except.ok.inj succeeds).symm

variable (uuid services scope) in
theorem executeStages_outcome {stages : List Stage} (fresh : resumeToken call jobId world = none)
    (within : ∀ stage ∈ stages, stage ∈ scopeStages connector call) : ∃ after entries,
      executeStages uuid services connector call jobId scope world stages =
        (after, stagesOutcome uuid services connector call jobId
          (stageBlocked uuid services connector call jobId world.storage scope) scope stages) ∧
      after.quarantine = world.quarantine ++ entries ∧ Steady uuid services connector call jobId world after ∧
      ∀ rows, stagesOutcome uuid services connector call jobId
          (stageBlocked uuid services connector call jobId world.storage scope) scope stages = .ok rows →
        entries.map QuarantineRecord.anonymous = firstEntries services connector call jobId scope stages := by
  induction stages generalizing world with
  | nil => exact ⟨world,[],rfl,by simp,⟨rfl,fun _ _ _ => rfl⟩,fun _ _ => rfl⟩
  | cons stage rest ih =>
    obtain ⟨member,later⟩ := List.forall_mem_cons.mp within
    obtain ⟨done,entries,executed,stored,steady,same⟩ := executeStage_outcome uuid services scope fresh member
    unfold executeStages stagesOutcome
    rw [executed]
    cases outcome : stageOutcome uuid services connector call jobId
        (stageBlocked uuid services connector call jobId world.storage scope stage) scope stage with
    | error error => exact ⟨done,entries,rfl,stored,steady,fun rows succeeds => nomatch succeeds⟩
    | ok rows =>
      obtain ⟨last,more,worked,kept,still,all⟩ := ih ((resumeToken_steady steady).trans fresh) later
      have unchanged := stagesOutcome_congr uuid services connector call jobId scope
        (fun stage listed => steady.2 scope stage (later stage listed))
      rw [unchanged] at worked all
      dsimp only
      rw [worked]
      refine ⟨last,entries ++ more,rfl,by rw [kept,stored,List.append_assoc],steady_trans steady still,?_⟩
      intro total succeeds
      obtain ⟨page,first,_⟩ := stageOutcome_fetched outcome
      have items : firstItems connector scope stage = page.items := by
        unfold firstItems
        rw [first]
      cases rested : stagesOutcome uuid services connector call jobId
          (stageBlocked uuid services connector call jobId world.storage scope) scope rest with
      | error error =>
        rw [rested] at succeeds
        cases succeeds
      | ok others =>
        unfold firstEntries
        rw [List.map_append,same page first,all others rested,List.flatMap_cons,items]
        rfl

theorem processScopes_outcomes (scopes : List String) (fresh : resumeToken call jobId world = none) :
    (processScopes (executeScopeWork uuid services connector) call jobId world scopes).2 =
      scopes.map (fun scope => ⟨scope,scopeOutcome uuid services connector call jobId world.storage scope⟩) ∧
    List.Forall₂ (fun scope part => ∀ rows, scopeOutcome uuid services connector call jobId world.storage scope = .ok rows →
      part.map QuarantineRecord.anonymous = firstEntries services connector call jobId scope (scopeStages connector call))
      scopes (quarantinedBy uuid services connector call jobId world scopes) := by
  induction scopes generalizing world with
  | nil => exact ⟨rfl,.nil⟩
  | cons scope rest ih =>
    obtain ⟨done,entries,worked,stored,steady,same⟩ := executeStages_outcome uuid services scope fresh
      (fun stage listed => listed)
    obtain ⟨others,accounted⟩ := ih ((resumeToken_steady steady).trans fresh)
    have unchanged (scope : String) : scopeOutcome uuid services connector call jobId done.storage scope =
        scopeOutcome uuid services connector call jobId world.storage scope :=
      stagesOutcome_congr uuid services connector call jobId scope (fun stage listed => steady.2 scope stage listed)
    simp only [unchanged] at others accounted
    have whole : executeScopeWork uuid services connector call jobId world scope =
        (done, scopeOutcome uuid services connector call jobId world.storage scope) := worked
    unfold processScopes quarantinedBy
    rw [whole]
    dsimp only
    rw [others,stored,List.drop_left]
    exact ⟨rfl,.cons same accounted⟩

end Stages

end CloudLens.Sync
