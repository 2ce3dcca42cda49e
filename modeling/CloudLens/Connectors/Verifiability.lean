import CloudLens.Connectors.Landing
import CloudLens.Library.Runs

/-! Landed payloads against the records returned for them, over runs of landings. -/
namespace CloudLens.Connectors
open Library Library.Runs

structure LandingRun where
  storage : Storage
  returned : List RawLandingRecord

section Cases

variable (dumps : Json → Except String (List Char)) (s : Storage) (call : LandingCall)

def land (landings : LandingRun) (call : LandingCall) : LandingRun :=
  let (storage, answer) := landRawPayload dumps landings.storage call
  match answer with
  | .ok record => ⟨storage,landings.returned ++ [record]⟩
  | .error _ => ⟨storage,landings.returned⟩

structure Reaches (payload : Bytes) (resolved : String) : Prop where
  tenant : call.tenantId ≠ ""
  serialised : ∃ text, dumps call.rawPayload = .ok text ∧ payload = Sha256.encode text
  key : sanitizeAndResolveKey call.tenantId call.relativeKey = .ok resolved
  unwritten : s.objects resolved = none ∨ s.objects resolved = some payload
  written : call.putError = none

/-- The metadata is stored, or its loss is only logged. -/
def LandingCall.Completes : Prop := call.databaseError = none ∨ call.requireRealdb = false

instance : Decidable call.Completes := inferInstanceAs (Decidable (call.databaseError = none ∨ call.requireRealdb = false))

def written (payload : Bytes) (resolved : String) : Storage :=
  uploadToMinio { s with objects := Function.update s.objects resolved (some payload) } call.fullStoragePath payload call.uploaded

variable {dumps s call} {payload : Bytes} {resolved : String}

theorem insertLanding_objects (record : RawLandingRecord) : (insertLanding s record).objects = s.objects := by
  unfold insertLanding
  split <;> rfl

theorem insertLanding_bucket (record : RawLandingRecord) : (insertLanding s record).bucket = s.bucket := by
  unfold insertLanding
  split <;> rfl

theorem Reaches.unblocked (reaches : Reaches dumps s call payload resolved) :
    ¬(existingObject s call.tenantId call.relativeKey ≠ none ∧ existingObject s call.tenantId call.relativeKey ≠ some payload) := by
  have existing : existingObject s call.tenantId call.relativeKey = s.objects resolved := by
    unfold existingObject
    rw [reaches.key]
  rw [existing]
  rintro ⟨occupied,other⟩
  exact reaches.unwritten.elim occupied other

theorem Reaches.put (reaches : Reaches dumps s call payload resolved) :
    putObject s call.tenantId call.relativeKey payload call.putError =
      .ok { s with objects := Function.update s.objects resolved (some payload) } := by
  unfold putObject
  rw [reaches.key,reaches.written]
  rfl

theorem landRawPayload_inserts (reaches : Reaches dumps s call payload resolved) (stored : call.databaseError = none) :
    landRawPayload dumps s call =
      (insertLanding (written s call payload resolved) (call.landingRecord payload), .ok (call.landingRecord payload)) := by
  obtain ⟨text,dumped,rfl⟩ := reaches.serialised
  unfold landRawPayload
  rw [if_neg reaches.tenant,dumped]
  dsimp only
  rw [if_neg reaches.unblocked,reaches.put,stored]
  rfl

theorem written_updates : (written s call payload resolved).objects = Function.update s.objects resolved (some payload) := by
  unfold written uploadToMinio
  split <;> rfl

theorem written_rows : (written s call payload resolved).rows = s.rows := by
  unfold written uploadToMinio
  split <;> rfl

theorem written_objects (reaches : Reaches dumps s call payload resolved) {key : String} {old : Bytes}
    (held : s.objects key = some old) : (written s call payload resolved).objects key = some old := by
  rw [written_updates]
  by_cases same : key = resolved
  · subst same
    rcases reaches.unwritten with empty | kept
    · exact absurd (empty.symm.trans held) (by simp)
    · rw [Function.update_self,← kept]
      exact held
  · rw [Function.update_of_ne same]
    exact held

theorem landRawPayload_reaches (reaches : Reaches dumps s call payload resolved) :
    (landRawPayload dumps s call).1.objects = (written s call payload resolved).objects ∧
    (landRawPayload dumps s call).1.bucket = (written s call payload resolved).bucket ∧
    ((landRawPayload dumps s call).2 = .ok (call.landingRecord payload) ∧ call.Completes ∨
      (∃ error, (landRawPayload dumps s call).2 = .error error) ∧ ¬call.Completes) := by
  cases answer : call.databaseError with
  | none =>
    rw [landRawPayload_inserts reaches answer]
    exact ⟨insertLanding_objects _,insertLanding_bucket _,Or.inl ⟨rfl,Or.inl answer⟩⟩
  | some error =>
    obtain ⟨text,dumped,rfl⟩ := reaches.serialised
    unfold landRawPayload LandingCall.Completes
    rw [if_neg reaches.tenant,dumped]
    dsimp only
    rw [if_neg reaches.unblocked,reaches.put,answer]
    dsimp only
    cases required : call.requireRealdb with
    | true => exact ⟨rfl,rfl,Or.inr ⟨⟨_,rfl⟩,by simp⟩⟩
    | false => exact ⟨rfl,rfl,Or.inl ⟨rfl,Or.inr rfl⟩⟩

theorem landRawPayload_stops (stops : ∀ payload resolved, ¬Reaches dumps s call payload resolved) :
    ∃ error, landRawPayload dumps s call = (s, .error error) := by
  unfold landRawPayload
  split
  · exact ⟨_,rfl⟩
  · rename_i tenant
    split
    · exact ⟨_,rfl⟩
    · rename_i text dumped
      obtain ⟨payload,made⟩ : ∃ payload, payload = Sha256.encode text := ⟨_,rfl⟩
      rw [← made]
      dsimp only
      by_cases blocked : existingObject s call.tenantId call.relativeKey ≠ none ∧
          existingObject s call.tenantId call.relativeKey ≠ some payload
      · rw [if_pos blocked]
        exact ⟨_,rfl⟩
      · have refused : ∃ error, putObject s call.tenantId call.relativeKey payload call.putError = .error error := by
          unfold putObject
          cases key : sanitizeAndResolveKey call.tenantId call.relativeKey with
          | error error => exact ⟨error,rfl⟩
          | ok resolved =>
            cases failure : call.putError with
            | some error => exact ⟨_,rfl⟩
            | none =>
              have existing : existingObject s call.tenantId call.relativeKey = s.objects resolved := by
                unfold existingObject
                rw [key]
              rw [existing,not_and_or,not_not,not_not] at blocked
              exact absurd ⟨tenant,⟨text,dumped,made⟩,key,blocked,failure⟩ (stops payload resolved)
        obtain ⟨error,refused⟩ := refused
        rw [if_neg blocked,refused]
        exact ⟨_,rfl⟩

end Cases

section Records

def Describes (record : RawLandingRecord) (payload : Bytes) : Prop :=
  record.sha256Checksum = Sha256.hexdigest payload ∧ record.byteSize = payload.length

def Verifies (s : Storage) (record : RawLandingRecord) : Prop :=
  ∃ payload, s.bucket record.storagePath = some payload ∧ Describes record payload

def AllVerify (landings : LandingRun) : Prop := ∀ record ∈ landings.returned, Verifies landings.storage record

structure Keeps (s after : Storage) : Prop where
  objects : ∀ key payload, s.objects key = some payload → after.objects key = some payload
  bucket : ∀ path payload, s.bucket path = some payload → after.bucket path = some payload

variable (dumps : Json → Except String (List Char))

/-- The call changes no object if it succeeds, and leaves every record returned so
far, and its own, describing the object at its path. -/
def Sound (landings : LandingRun) (call : LandingCall) : Prop :=
  ((∃ record, (landRawPayload dumps landings.storage call).2 = .ok record) →
    Keeps landings.storage (land dumps landings call).storage) ∧ AllVerify (land dumps landings call)

/-- What the call finds at its path in the bucket: an upload finds nothing there or
the same bytes (or, when the call then fails, no record it would contradict), and a
payload that is not uploaded finds an object of its checksum and size. -/
def Careful (landings : LandingRun) (call : LandingCall) : Prop :=
  ∀ payload resolved, Reaches dumps landings.storage call payload resolved →
    if call.uploaded = true then
      if call.Completes then
        landings.storage.bucket call.fullStoragePath = none ∨ landings.storage.bucket call.fullStoragePath = some payload
      else ∀ record ∈ landings.returned, record.storagePath = call.fullStoragePath → Describes record payload
    else call.Completes → ∃ found, landings.storage.bucket call.fullStoragePath = some found ∧
      Describes (call.landingRecord payload) found

variable {dumps} {landings : LandingRun} {call : LandingCall} {payload : Bytes} {resolved : String}

theorem written_bucket (path : String) : (written landings.storage call payload resolved).bucket path =
    if call.uploaded = true ∧ path = call.fullStoragePath then some payload else landings.storage.bucket path := by
  unfold written uploadToMinio
  by_cases uploaded : call.uploaded = true
  · rw [if_pos uploaded]
    by_cases same : path = call.fullStoragePath
    · rw [same]
      simp [uploaded]
    · simp [uploaded,same]
  · rw [if_neg uploaded,if_neg (fun both => uploaded both.1)]

theorem verifies_written {record : RawLandingRecord} (s : Storage)
    (bucket : s.bucket = (written landings.storage call payload resolved).bucket) : Verifies s record ↔
      if call.uploaded = true ∧ record.storagePath = call.fullStoragePath then Describes record payload
      else Verifies landings.storage record := by
  unfold Verifies
  rw [bucket]
  by_cases here : call.uploaded = true ∧ record.storagePath = call.fullStoragePath
  · simp [written_bucket,here]
  · simp only [written_bucket,if_neg here]

theorem describes_own : Describes (call.landingRecord payload) payload := ⟨rfl,rfl⟩

theorem reaches_unique {other : Bytes} {key : String} (reaches : Reaches dumps landings.storage call payload resolved)
    (again : Reaches dumps landings.storage call other key) : other = payload ∧ key = resolved := by
  obtain ⟨text,dumped,made⟩ := reaches.serialised
  obtain ⟨text',dumped',made'⟩ := again.serialised
  have sameText : text' = text := Except.ok.inj (dumped'.symm.trans dumped)
  exact ⟨by rw [made',made,sameText],Except.ok.inj (again.key.symm.trans reaches.key)⟩

theorem careful_reaches (reaches : Reaches dumps landings.storage call payload resolved) : Careful dumps landings call ↔
    if call.uploaded = true then
      if call.Completes then
        landings.storage.bucket call.fullStoragePath = none ∨ landings.storage.bucket call.fullStoragePath = some payload
      else ∀ record ∈ landings.returned, record.storagePath = call.fullStoragePath → Describes record payload
    else call.Completes → ∃ found, landings.storage.bucket call.fullStoragePath = some found ∧
      Describes (call.landingRecord payload) found := by
  constructor
  · exact fun careful => careful payload resolved reaches
  · intro held other key again
    obtain ⟨rfl,rfl⟩ := reaches_unique reaches again
    exact held

theorem written_keeps (reaches : Reaches dumps landings.storage call payload resolved) (after : Storage)
    (objects : after.objects = (written landings.storage call payload resolved).objects)
    (bucket : after.bucket = (written landings.storage call payload resolved).bucket) : Keeps landings.storage after ↔
      (call.uploaded = true → landings.storage.bucket call.fullStoragePath = none ∨
        landings.storage.bucket call.fullStoragePath = some payload) := by
  constructor
  · intro keeps uploaded
    cases held : landings.storage.bucket call.fullStoragePath with
    | none => exact Or.inl rfl
    | some old =>
      have kept := keeps.bucket call.fullStoragePath old held
      rw [bucket,written_bucket,if_pos ⟨uploaded,rfl⟩] at kept
      exact Or.inr kept.symm
  · intro free
    refine ⟨fun key old held => ?_,fun path old held => ?_⟩
    · rw [objects]
      exact written_objects reaches held
    · rw [bucket,written_bucket]
      split
      · rename_i here
        rw [here.2] at held
        rcases free here.1 with empty | same
        · exact absurd (empty.symm.trans held) (by simp)
        · exact same.symm.trans held
      · exact held

theorem land_ok {record : RawLandingRecord} (answer : (landRawPayload dumps landings.storage call).2 = .ok record) :
    land dumps landings call = ⟨(landRawPayload dumps landings.storage call).1,landings.returned ++ [record]⟩ := by
  unfold land
  generalize landRawPayload dumps landings.storage call = outcome at answer ⊢
  obtain ⟨after,answered⟩ := outcome
  obtain rfl : answered = .ok record := answer
  rfl

theorem land_error {error : LandingError} (answer : (landRawPayload dumps landings.storage call).2 = .error error) :
    land dumps landings call = ⟨(landRawPayload dumps landings.storage call).1,landings.returned⟩ := by
  unfold land
  generalize landRawPayload dumps landings.storage call = outcome at answer ⊢
  obtain ⟨after,answered⟩ := outcome
  obtain rfl : answered = .error error := answer
  rfl

theorem returned_verify (verify : AllVerify landings) (s : Storage)
    (bucket : s.bucket = (written landings.storage call payload resolved).bucket) :
    (∀ record ∈ landings.returned, Verifies s record) ↔
      (call.uploaded = true → ∀ record ∈ landings.returned, record.storagePath = call.fullStoragePath → Describes record payload) := by
  constructor
  · intro all uploaded record returned same
    have verified := (verifies_written s bucket).mp (all record returned)
    rwa [if_pos ⟨uploaded,same⟩] at verified
  · intro described record returned
    rw [verifies_written s bucket]
    split
    · rename_i here
      exact described here.1 record returned here.2
    · exact verify record returned

theorem sound_completes (verify : AllVerify landings) (reaches : Reaches dumps landings.storage call payload resolved)
    (completes : call.Completes) : Sound dumps landings call ↔
      if call.uploaded = true then
        landings.storage.bucket call.fullStoragePath = none ∨ landings.storage.bucket call.fullStoragePath = some payload
      else ∃ found, landings.storage.bucket call.fullStoragePath = some found ∧ Describes (call.landingRecord payload) found := by
  obtain ⟨objects,bucket,⟨answer,_⟩ | ⟨_,fails⟩⟩ := landRawPayload_reaches reaches
  · have after := land_ok answer
    have ends : ∃ record, (landRawPayload dumps landings.storage call).2 = .ok record := ⟨_,answer⟩
    have split : AllVerify (land dumps landings call) ↔
        (∀ record ∈ landings.returned, Verifies (landRawPayload dumps landings.storage call).1 record) ∧
          Verifies (landRawPayload dumps landings.storage call).1 (call.landingRecord payload) := by
      rw [after]
      unfold AllVerify
      simp only [List.mem_append,List.mem_singleton,or_imp,forall_and,forall_eq]
    unfold Sound
    rw [split,returned_verify verify _ bucket,after]
    rw [imp_iff_right ends,written_keeps reaches _ objects bucket,verifies_written _ bucket]
    by_cases uploaded : call.uploaded = true
    · rw [if_pos uploaded,if_pos ⟨uploaded,rfl⟩,imp_iff_right uploaded,imp_iff_right uploaded]
      constructor
      · exact fun sound => sound.1
      · intro free
        refine ⟨free,?_,describes_own⟩
        intro record returned same
        obtain ⟨found,held,described⟩ := verify record returned
        rw [same] at held
        rcases free with empty | kept
        · exact absurd (empty.symm.trans held) (by simp)
        · rwa [Option.some.inj (held.symm.trans kept)] at described
    · rw [if_neg uploaded,if_neg (fun both => uploaded both.1)]
      constructor
      · exact fun sound => sound.2.2
      · exact fun found => ⟨fun done => absurd done uploaded,fun done => absurd done uploaded,found⟩
  · exact absurd completes fails

theorem sound_fails (verify : AllVerify landings) (reaches : Reaches dumps landings.storage call payload resolved)
    (fails : ¬call.Completes) : Sound dumps landings call ↔
      (call.uploaded = true → ∀ record ∈ landings.returned, record.storagePath = call.fullStoragePath → Describes record payload) := by
  obtain ⟨objects,bucket,⟨_,completes⟩ | ⟨⟨error,answer⟩,_⟩⟩ := landRawPayload_reaches reaches
  · exact absurd completes fails
  · have after := land_error answer
    have unanswered : ¬∃ record, (landRawPayload dumps landings.storage call).2 = .ok record := by
      rintro ⟨record,answered⟩
      cases answer.symm.trans answered
    unfold Sound
    rw [after]
    rw [iff_true_intro (fun answered => absurd answered unanswered),true_and]
    exact returned_verify verify _ bucket

theorem sound_iff (verify : AllVerify landings) : Sound dumps landings call ↔ Careful dumps landings call := by
  by_cases reached : ∃ payload resolved, Reaches dumps landings.storage call payload resolved
  · obtain ⟨payload,resolved,reaches⟩ := reached
    rw [careful_reaches reaches]
    by_cases completes : call.Completes
    · rw [sound_completes verify reaches completes]
      simp only [completes,if_true,true_imp_iff]
    · rw [sound_fails verify reaches completes]
      by_cases uploaded : call.uploaded = true
      · rw [if_pos uploaded,if_neg completes,imp_iff_right uploaded]
      · rw [if_neg uploaded]
        exact ⟨fun _ done => absurd done completes,fun _ done => absurd done uploaded⟩
  · have stops : ∀ payload resolved, ¬Reaches dumps landings.storage call payload resolved :=
      fun payload resolved reaches => reached ⟨payload,resolved,reaches⟩
    obtain ⟨error,stopped⟩ := landRawPayload_stops stops
    have same : land dumps landings call = landings := by
      unfold land
      rw [stopped]
    constructor
    · exact fun _ payload resolved reaches => absurd reaches (stops payload resolved)
    · intro _
      unfold Sound
      rw [same,stopped]
      refine ⟨?_,verify⟩
      rintro ⟨record,impossible⟩
      cases impossible

/-- Every landing of a run is sound exactly when every landing is careful. -/
theorem landings_verifiable_iff (storage : Storage) (calls : List LandingCall) :
    Along (land dumps) (Sound dumps) ⟨storage,[]⟩ calls ↔ Along (land dumps) (Careful dumps) ⟨storage,[]⟩ calls := by
  have start : AllVerify ⟨storage,[]⟩ := fun record returned => nomatch returned
  exact along_iff_of_invariant AllVerify (fun landings call verify => sound_iff verify)
    (fun landings call _ sound => sound.2) start calls

/-- One run collects cost in bulk and by query: both capabilities are filed as the
dataset `cost`. -/
def costLanding (capability : ConnectorCapability) (rawPayload : Json) : LandingCall where
  tenantId := "t"
  connectorId := "c"
  runId := "run-1"
  capability := capability
  pageNumber := 1
  rawPayload := rawPayload
  schemaVersion := "2026-09-01"
  dataset := none
  period := none
  landingId := capability.value
  month := "2026-09"
  putError := none
  uploaded := true
  databaseError := none
  requireRealdb := false

def dumpsBrief : Json → Except String (List Char)
  | .arr [] => .ok ['[', ']']
  | .arr [.bool true] => .ok ['[', 't', 'r', 'u', 'e', ']']
  | _ => .error "not a payload of this run"

def emptyStorage : Storage := ⟨fun _ => none,fun _ => none,[]⟩

theorem cost_landing_overwritten : ¬Along (land dumpsBrief) (Sound dumpsBrief) ⟨emptyStorage,[]⟩
    [costLanding .collectCostBulk (.arr []), costLanding .collectCostQuery (.arr [.bool true])] := by
  rintro ⟨_,second,_⟩
  let first := land dumpsBrief ⟨emptyStorage,[]⟩ (costLanding .collectCostBulk (.arr []))
  have succeeds : (landRawPayload dumpsBrief first.storage (costLanding .collectCostQuery (.arr [.bool true]))).2.toBool = true := by
    decide +kernel
  have answered : ∃ record, (landRawPayload dumpsBrief first.storage
      (costLanding .collectCostQuery (.arr [.bool true]))).2 = .ok record := by
    cases answer : (landRawPayload dumpsBrief first.storage (costLanding .collectCostQuery (.arr [.bool true]))).2 with
    | ok record => exact ⟨record,rfl⟩
    | error error =>
      rw [answer] at succeeds
      cases succeeds
  have kept := (second.1 answered).bucket "raw-landing/t/c/cost/2026-09/run_run-1_page_1.json" [91, 93] (by decide +kernel)
  revert kept
  decide +kernel

end Records

end CloudLens.Connectors
