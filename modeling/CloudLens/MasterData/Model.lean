import CloudLens.Library.Calendar
import CloudLens.Library.Dict
import CloudLens.Library.Document
import CloudLens.Library.Casing
import CloudLens.Library.Validity
import Mathlib.Data.List.Sort

/-! Master data records, the store behind them and the service over the store. The
store gives out copies of its rows and changes only when a record is saved or
deleted. Rows are listed by sort order; how rows of one sort order follow each
other is left to the database. A call reads the clock once, and its instants are
those of UTC; the clock, the fresh identifier and the listing are inputs of a
call. -/
namespace CloudLens.MasterData
open Library
open Library.Calendar (Instant)

inductive LifecycleStatus where
  | draft
  | inReview
  | approved
  | published
  | rejected
  | deprecated
  deriving DecidableEq

/-- A reading of a clock and its offset from UTC; one without an offset is taken as
UTC. -/
structure DateTime where
  reading : Instant
  offset : Option ℤ
  deriving DecidableEq

def DateTime.instant (d : DateTime) : Instant := d.reading - d.offset.getD 0

def defaultMasterEpoch : Instant := 946684800 * 10^6

structure MasterRegistryEntry where
  code : String
  requiresApproval : Bool
  deriving DecidableEq

structure MasterDataRecord where
  id : String
  masterType : String
  code : String
  displayName : String
  description : Option String
  sortOrder : ℤ
  isSystem : Bool
  isActive : Bool
  effectiveFrom : Instant
  effectiveTo : Option Instant
  version : ℕ
  parentCode : Option String
  attributes : List (String × Json)
  tenantId : Option String
  createdBy : String
  approvedBy : Option String
  lifecycleStatus : LifecycleStatus

def MasterDataRecord.validity (r : MasterDataRecord) : Validity Instant := ⟨r.effectiveFrom,r.effectiveTo⟩

def isRecordEffective (r : MasterDataRecord) (targetTime : Instant) : Bool := r.validity.Covers targetTime

inductive MasterDataError where
  | notRegistered (masterType : String)
  | alreadyExists (code masterType : String) (tenantId : Option String)
  | notFound (code masterType : String)
  | noVersion (status : LifecycleStatus) (code masterType : String)
  | deactivationBlocked (code masterType reason : String)
  | deletionBlocked (code masterType reason : String)
  | systemMaster (code : String)

/-- No two rows share an identifier. -/
structure MasterDataStore where
  rows : List MasterDataRecord
  keyed : (rows.map MasterDataRecord.id).Nodup

namespace MasterDataStore

def blank : MasterDataStore := ⟨[],List.nodup_nil⟩

/-- A saved record overwrites the row with its identifier, but for the master type
and the code. -/
def overwrite (record stored : MasterDataRecord) : MasterDataRecord :=
  if stored.id = record.id then { record with masterType := stored.masterType, code := stored.code } else stored

theorem overwrite_id (record stored : MasterDataRecord) : (overwrite record stored).id = stored.id := by
  unfold overwrite
  split
  · rename_i same
    exact same.symm
  · rfl

theorem overwrite_keyed (record : MasterDataRecord) {rows : List MasterDataRecord}
    (keyed : (rows.map MasterDataRecord.id).Nodup) : ((rows.map (overwrite record)).map MasterDataRecord.id).Nodup := by
  have same : (rows.map (overwrite record)).map MasterDataRecord.id = rows.map MasterDataRecord.id := by
    rw [List.map_map]
    exact List.map_congr_left (fun stored _ => overwrite_id record stored)
  rw [same]
  exact keyed

theorem append_keyed {record : MasterDataRecord} {rows : List MasterDataRecord}
    (keyed : (rows.map MasterDataRecord.id).Nodup) (fresh : record.id ∉ rows.map MasterDataRecord.id) :
    ((rows ++ [record]).map MasterDataRecord.id).Nodup := by
  rw [List.map_append,List.map_singleton,List.nodup_append]
  refine ⟨keyed,List.nodup_singleton _,?_⟩
  rintro id held other single rfl
  rw [List.mem_singleton.mp single] at held
  exact fresh held

def saveRecord (record : MasterDataRecord) (s : MasterDataStore) : MasterDataStore :=
  if fresh : record.id ∉ s.rows.map MasterDataRecord.id then ⟨s.rows ++ [record],append_keyed s.keyed fresh⟩
  else ⟨s.rows.map (overwrite record),overwrite_keyed record s.keyed⟩

def deleteRecord (id : String) (s : MasterDataStore) : MasterDataStore :=
  ⟨s.rows.filter (fun r => r.id ≠ id),s.keyed.sublist (List.filter_sublist.map MasterDataRecord.id)⟩

end MasterDataStore

structure Arrangement where
  arrange : List MasterDataRecord → List MasterDataRecord
  permuted : ∀ rows, (arrange rows).Perm rows
  ordered : ∀ rows, (arrange rows).Pairwise (fun a b => a.sortOrder ≤ b.sortOrder)

def bySortOrder (a b : MasterDataRecord) : Prop := a.sortOrder ≤ b.sortOrder

instance : DecidableRel bySortOrder := fun a b => inferInstanceAs (Decidable (a.sortOrder ≤ b.sortOrder))

instance : Std.Total bySortOrder := ⟨fun a b => le_total a.sortOrder b.sortOrder⟩

instance : IsTrans MasterDataRecord bySortOrder := ⟨fun _ _ _ => le_trans⟩

def Arrangement.stable : Arrangement where
  arrange := List.insertionSort bySortOrder
  permuted := List.perm_insertionSort bySortOrder
  ordered := List.pairwise_insertionSort bySortOrder

structure Environment where
  manifest : String → Option MasterRegistryEntry
  references : String → String → List (String × ℤ)

structure Call where
  now : Instant
  token : String
  listing : Arrangement

@[irreducible] def normalised (word : String) : String := Text.upper (Text.stripped word)

def listRecordsOf (listing : Arrangement) (masterType : String) (s : MasterDataStore) : List MasterDataRecord :=
  listing.arrange (s.rows.filter (fun r => r.masterType = masterType))

def given (tenantId : Option String) : Option String := tenantId.filter (fun tenant => tenant ≠ "")

def isVisible (targetTime : Instant) (includeInactive : Bool) (r : MasterDataRecord) : Bool :=
  isRecordEffective r targetTime && (includeInactive || r.lifecycleStatus = .published)

def candidates (listing : Arrangement) (masterType code : String) (targetTime : Instant) (includeInactive : Bool)
    (s : MasterDataStore) : List MasterDataRecord :=
  (listRecordsOf listing masterType s).filter
    (fun r => Text.upper r.code = normalised code && isVisible targetTime includeInactive r)

def preferred (tenantId : Option String) (found : List MasterDataRecord) : Option MasterDataRecord :=
  match (given tenantId).bind (fun tenant => found.find? (fun r => r.tenantId = some tenant)) with
  | some own => some own
  | none => (found.find? (fun r => r.tenantId = none)).or found.getLast?

def registered (env : Environment) (masterType : String) : Except MasterDataError MasterRegistryEntry :=
  match env.manifest (normalised masterType) with
  | none => .error (.notRegistered (normalised masterType))
  | some entry => .ok entry

def targetTimeOf (asOf : Option DateTime) (now : Instant) : Instant :=
  match asOf with
  | none => now
  | some d => d.reading

def resolve (listing : Arrangement) (masterType code : String) (targetTime : Instant) (tenantId : Option String)
    (includeInactive : Bool) (s : MasterDataStore) : Option MasterDataRecord :=
  preferred tenantId (candidates listing masterType code targetTime includeInactive s)

def getRecord (env : Environment) (call : Call) (masterType code : String) (asOf : Option DateTime)
    (tenantId : Option String) (includeInactive : Bool) (s : MasterDataStore) :
    Except MasterDataError (Option MasterDataRecord) :=
  match registered env masterType with
  | .error e => .error e
  | .ok _ =>
    .ok (resolve call.listing (normalised masterType) code (targetTimeOf asOf call.now) tenantId includeInactive s)

def listStep (tenantId : Option String) (byCode : Dict String MasterDataRecord) (r : MasterDataRecord) :
    Dict String MasterDataRecord :=
  if given tenantId ≠ none ∧ r.tenantId = tenantId then byCode.assign r.code r
  else if byCode.get r.code = none then byCode.assign r.code r
  else byCode

def listed (listing : Arrangement) (masterType : String) (targetTime : Instant) (tenantId : Option String)
    (includeInactive : Bool) (s : MasterDataStore) : List MasterDataRecord :=
  (((listRecordsOf listing masterType s).filter (isVisible targetTime includeInactive)).foldl (listStep tenantId)
    Dict.empty).values.insertionSort
      (fun a b => a.sortOrder < b.sortOrder ∨ (a.sortOrder = b.sortOrder ∧ a.code ≤ b.code))

def listRecords (env : Environment) (call : Call) (masterType : String) (asOf : Option DateTime)
    (tenantId : Option String) (includeInactive : Bool) (s : MasterDataStore) :
    Except MasterDataError (List MasterDataRecord) :=
  match registered env masterType with
  | .error e => .error e
  | .ok _ =>
    .ok (listed call.listing (normalised masterType) (targetTimeOf asOf call.now) tenantId includeInactive s)

@[irreducible] def recordIdOf (call : Call) (masterType : String) : String := "md-" ++ Text.lower masterType ++ "-" ++ call.token

structure NewRecord where
  code : String
  displayName : String
  description : Option String
  sortOrder : ℤ
  parentCode : Option String
  attributes : List (String × Json)
  tenantId : Option String
  createdBy : String
  isSystem : Bool
  forcePublish : Bool

def createdRecord (call : Call) (masterType : String) (requiresApproval : Bool) (input : NewRecord) :
    MasterDataRecord where
  id := recordIdOf call masterType
  masterType := masterType
  code := Text.stripped input.code
  displayName := input.displayName
  description := input.description
  sortOrder := input.sortOrder
  isSystem := input.isSystem
  isActive := true
  effectiveFrom := if requiresApproval && !input.forcePublish then defaultMasterEpoch else call.now
  effectiveTo := none
  version := 1
  parentCode := input.parentCode
  attributes := input.attributes
  tenantId := input.tenantId
  createdBy := input.createdBy
  approvedBy := if requiresApproval && !input.forcePublish then none else some input.createdBy
  lifecycleStatus := if requiresApproval && !input.forcePublish then .draft else .published

def isTaken (listing : Arrangement) (masterType code : String) (tenantId : Option String) (s : MasterDataStore) : Bool :=
  (listRecordsOf listing masterType s).any
    (fun r => Text.upper r.code = normalised code && r.tenantId = tenantId && r.isActive)

def createRecord (env : Environment) (call : Call) (masterType : String) (input : NewRecord) (s : MasterDataStore) :
    MasterDataStore × Except MasterDataError MasterDataRecord :=
  match registered env masterType with
  | .error e => (s, .error e)
  | .ok entry =>
    if isTaken call.listing (normalised masterType) input.code input.tenantId s then
      (s, .error (.alreadyExists input.code (normalised masterType) input.tenantId))
    else
      let record := createdRecord call (normalised masterType) entry.requiresApproval input
      (s.saveRecord record, .ok record)

structure RecordChange where
  displayName : String
  description : Option String
  sortOrder : Option ℤ
  parentCode : Option String
  attributes : Option (List (String × Json))
  changedBy : String
  effectiveAt : Option DateTime
  tenantId : Option String
  forcePublish : Bool

def transitionTime (call : Call) (change : RecordChange) : Instant :=
  match change.effectiveAt with
  | none => call.now
  | some d => d.instant

def nextVersion (call : Call) (masterType : String) (requiresApproval : Bool) (change : RecordChange)
    (current : MasterDataRecord) : MasterDataRecord where
  id := recordIdOf call masterType
  masterType := masterType
  code := current.code
  displayName := change.displayName
  description := change.description.or current.description
  sortOrder := change.sortOrder.getD current.sortOrder
  isSystem := current.isSystem
  isActive := true
  effectiveFrom := transitionTime call change
  effectiveTo := none
  version := current.version + 1
  parentCode := change.parentCode.or current.parentCode
  attributes := change.attributes.getD current.attributes
  tenantId := (given change.tenantId).or current.tenantId
  createdBy := change.changedBy
  approvedBy := if requiresApproval && !change.forcePublish then none else some change.changedBy
  lifecycleStatus := if requiresApproval && !change.forcePublish then .draft else .published

def closed (transition : Instant) (current : MasterDataRecord) : MasterDataRecord :=
  { current with effectiveTo := some transition, isActive := false }

def updateRecord (env : Environment) (call : Call) (masterType code : String) (change : RecordChange)
    (s : MasterDataStore) : MasterDataStore × Except MasterDataError MasterDataRecord :=
  match registered env masterType with
  | .error e => (s, .error e)
  | .ok entry =>
    match resolve call.listing (normalised masterType) code call.now change.tenantId false s with
    | none => (s, .error (.notFound code (normalised masterType)))
    | some current =>
      let version := nextVersion call (normalised masterType) entry.requiresApproval change current
      if entry.requiresApproval && !change.forcePublish then (s.saveRecord version, .ok version)
      else ((s.saveRecord (closed (transitionTime call change) current)).saveRecord version, .ok version)

def lastInStatus (listing : Arrangement) (masterType code : String) (status : LifecycleStatus) (s : MasterDataStore) :
    Except MasterDataError MasterDataRecord :=
  match (listRecordsOf listing (normalised masterType) s).reverse.find?
      (fun r => r.code = code && r.lifecycleStatus = status) with
  | none => .error (.noVersion status code (normalised masterType))
  | some r => .ok r

def submitForReview (call : Call) (masterType code : String) (s : MasterDataStore) :
    MasterDataStore × Except MasterDataError MasterDataRecord :=
  (s, (lastInStatus call.listing masterType code .draft s).map (fun draft => { draft with lifecycleStatus := .inReview }))

def approve (call : Call) (masterType code approverId : String) (s : MasterDataStore) :
    MasterDataStore × Except MasterDataError MasterDataRecord :=
  (s, (lastInStatus call.listing masterType code .inReview s).map
    (fun review => { review with lifecycleStatus := .approved, approvedBy := some approverId }))

def previousActive (listing : Arrangement) (masterType code : String) (approved : MasterDataRecord)
    (s : MasterDataStore) : Option MasterDataRecord :=
  (listRecordsOf listing (normalised masterType) s).find?
    (fun r => r.code = code && r.id ≠ approved.id && r.isActive && r.effectiveTo = none)

/-- The published version and the previous one, closed: both are copies. -/
def publish (call : Call) (masterType code : String) (s : MasterDataStore) :
    MasterDataStore × Except MasterDataError (MasterDataRecord × Option MasterDataRecord) :=
  (s, (lastInStatus call.listing masterType code .approved s).map (fun approved =>
    ({ approved with
        lifecycleStatus := .published
        isActive := true
        effectiveFrom := call.now
        effectiveTo := none }, (previousActive call.listing masterType code approved s).map (closed call.now))))

def blockingReason (counts : List (String × ℤ)) : String :=
  "Referenced by " ++ String.intercalate ", " ((counts.filter (fun entry => 0 < entry.2)).map
    (fun entry => toString entry.2 ++ " " ++ entry.1)) ++ "."

def isInUse (counts : List (String × ℤ)) : Bool := 0 < (counts.map Prod.snd).sum

def deactivateRecord (env : Environment) (call : Call) (masterType code : String) (s : MasterDataStore) :
    MasterDataStore × Except MasterDataError MasterDataRecord :=
  match getRecord env call masterType code none none false s with
  | .error e => (s, .error e)
  | .ok none => (s, .error (.notFound code (normalised masterType)))
  | .ok (some current) =>
    let counts := env.references (normalised masterType) (normalised code)
    if isInUse counts then (s, .error (.deactivationBlocked code (normalised masterType) (blockingReason counts)))
    else (s, .ok (closed call.now current))

def deleteRecord (env : Environment) (call : Call) (masterType code : String) (s : MasterDataStore) :
    MasterDataStore × Except MasterDataError Unit :=
  match getRecord env call masterType code none none true s with
  | .error e => (s, .error e)
  | .ok none => (s, .error (.notFound code (normalised masterType)))
  | .ok (some current) =>
    let counts := env.references (normalised masterType) (normalised code)
    if current.isSystem then (s, .error (.systemMaster code))
    else if isInUse counts then (s, .error (.deletionBlocked code (normalised masterType) (blockingReason counts)))
    else (s.deleteRecord current.id, .ok ())

end CloudLens.MasterData
