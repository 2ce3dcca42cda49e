import CloudLens.MasterData.Import
import Mathlib.Data.List.ReduceOption

/-! The import of one file row by row. A row updates the published record in force
for its code, or creates one, and a file with a row that the dry run finds invalid
is not imported. -/
namespace CloudLens.MasterData
open Library
open Library.Calendar (Instant)

def isInForce (masterType code : String) (t : Instant) (s : MasterDataStore) : Bool :=
  (versionsOf masterType code s).any (isVisible t false)

def isHeld (masterType code : String) (s : MasterDataStore) : Bool :=
  (versionsOf masterType code s).any (fun r => r.tenantId = none && r.isActive)

section Rows

variable {s : MasterDataStore} {masterType code : String}

theorem preferred_eq_none_iff {wanted : Option String} {found : List MasterDataRecord} :
    preferred wanted found = none ↔ found = [] := by
  constructor
  · intro nothing
    unfold preferred at nothing
    split at nothing
    · cases nothing
    · exact List.getLast?_eq_none_iff.mp (Option.or_eq_none_iff.mp nothing).2
  · rintro rfl
    unfold preferred
    cases given wanted <;> rfl

theorem resolve_isSome (listing : Arrangement) (t : Instant) (wanted : Option String) :
    (resolve listing (normalised masterType) code t wanted false s).isSome = isInForce masterType code t s := by
  have present : candidates listing (normalised masterType) code t false s ≠ [] ↔
      ∃ r, r ∈ candidates listing (normalised masterType) code t false s := by
    refine ⟨List.exists_mem_of_ne_nil _,?_⟩
    rintro ⟨r,member⟩
    exact List.ne_nil_of_mem member
  rw [Bool.eq_iff_iff,Option.isSome_iff_ne_none,resolve,ne_eq,preferred_eq_none_iff,← ne_eq,present]
  simp only [isInForce,List.any_eq_true,mem_candidates,mem_versionsOf,and_assoc]

theorem isTaken_eq_isHeld (listing : Arrangement) :
    isTaken listing (normalised masterType) code none s = isHeld masterType code s := by
  rw [Bool.eq_iff_iff]
  simp only [isTaken,isHeld,List.any_eq_true,listRecordsOf,(listing.permuted _).mem_iff,List.mem_filter,mem_versionsOf,
    Bool.and_eq_true,decide_eq_true_eq,and_assoc]

end Rows

section Steps

variable {env : Environment} {entry : MasterRegistryEntry} {reading : Reading} {importedBy masterType : String}
  {call : Call} {row : Row} {now : MasterDataStore}

theorem changeOf_untenanted {change : RecordChange} (read : changeOf reading importedBy row = some change) :
    change.tenantId = none ∧ change.effectiveAt = none ∧ change.forcePublish = false := by
  unfold changeOf at read
  split at read
  · cases read
    exact ⟨rfl,rfl,rfl⟩
  · cases read

theorem newRecordOf_untenanted {code : String} {input : NewRecord}
    (read : newRecordOf reading importedBy code row = some input) :
    input.code = code ∧ input.tenantId = none ∧ input.forcePublish = false := by
  unfold newRecordOf at read
  split at read
  · cases read
    exact ⟨rfl,rfl,rfl⟩
  · cases read

theorem importRow_updated (declared : env.manifest (normalised masterType) = some entry) {code : String}
    (named : textOf (row.get "code") = some code) {current : MasterDataRecord}
    (found : resolve call.listing (normalised masterType) code call.now none false now = some current)
    {change : RecordChange} (read : changeOf reading importedBy row = some change) :
    importRow env reading importedBy call masterType row now =
      (if entry.requiresApproval then
          now.saveRecord (nextVersion call (normalised masterType) entry.requiresApproval change current)
        else (now.saveRecord (closed call.now current)).saveRecord
          (nextVersion call (normalised masterType) entry.requiresApproval change current), .ok true) := by
  obtain ⟨untenanted,undated,unforced⟩ := changeOf_untenanted read
  have known := registered_of_manifest declared
  cases approval : entry.requiresApproval <;>
    simp [importRow,named,getRecord,known,targetTimeOf,found,read,lifted,updateRecord,untenanted,unforced,approval,
      transitionTime,undated]

theorem importRow_created (declared : env.manifest (normalised masterType) = some entry) {code : String}
    (named : textOf (row.get "code") = some code)
    (absent : resolve call.listing (normalised masterType) code call.now none false now = none)
    {input : NewRecord} (read : newRecordOf reading importedBy code row = some input)
    (free : isHeld masterType code now = false) :
    importRow env reading importedBy call masterType row now =
      (now.saveRecord (createdRecord call (normalised masterType) entry.requiresApproval input), .ok false) := by
  obtain ⟨spelled,untenanted,unforced⟩ := newRecordOf_untenanted read
  simp [importRow,named,getRecord,registered_of_manifest declared,targetTimeOf,absent,read,lifted,createRecord,
    untenanted,spelled,isTaken_eq_isHeld,free]

theorem isVisible_endless {record : MasterDataRecord} (published : record.lifecycleStatus = .published)
    (endless : record.effectiveTo = none) {t : Instant} (begun : record.effectiveFrom ≤ t) :
    isVisible t false record = true := by
  simp [isVisible,published,isRecordEffective,Validity.Covers,MasterDataRecord.validity,endless,begun]

theorem ids_saveRecord_fresh {record : MasterDataRecord} (fresh : record.id ∉ now.rows.map MasterDataRecord.id) :
    (now.saveRecord record).rows.map MasterDataRecord.id = now.rows.map MasterDataRecord.id ++ [record.id] := by
  rw [rows_saveRecord_fresh fresh,List.map_append,List.map_singleton]

theorem ids_saveRecord_closed {current : MasterDataRecord} (t : Instant) (held : current ∈ now.rows) :
    (now.saveRecord (closed t current)).rows.map MasterDataRecord.id = now.rows.map MasterDataRecord.id := by
  rw [rows_saveRecord_closed t held,ids_superseded]

end Steps

section Runs

variable {env : Environment} {entry : MasterRegistryEntry} {reading : Reading} {importedBy masterType : String}
  {calls : ℕ → Call} {s : MasterDataStore}

theorem importRows_served {i : ℕ} {row : Row} {rest : List Row} {now after : MasterDataStore} {updated : Bool}
    (served : importRow env reading importedBy (calls i) masterType row now = (after, .ok updated)) :
    importRows env reading importedBy calls masterType i (row :: rest) now =
      ((importRows env reading importedBy calls masterType (i + 1) rest after).1,
        (importRows env reading importedBy calls masterType (i + 1) rest after).2.map
          (fun counts => if updated then (counts.1, counts.2 + 1) else (counts.1 + 1, counts.2))) := by
  simp only [importRows,served]
  cases importRows env reading importedBy calls masterType (i + 1) rest after with
  | mk last answer => cases answer <;> rfl

theorem reduceOption_of_allSome {held : List (Option Row)} : ∀ {rows : List Row}, held.allSome = some rows →
    held.reduceOption = rows := by
  induction held with
  | nil =>
    intro rows all
    cases all
    rfl
  | cons row rest restAll =>
    intro rows all
    simp only [List.allSome,List.mapM_cons,id_eq] at all restAll
    cases row with
    | none => cases all
    | some row =>
      cases found : rest.mapM id with
      | none =>
        rw [found] at all
        cases all
      | some tail =>
        rw [found] at all
        cases all
        rw [List.reduceOption_cons_of_some,restAll found]

theorem validated (importedBy : String) (calls : ℕ → Call) (s : MasterDataStore) {format : String} {content : Document} {held : List (Option Row)} {rows : List Row}
    (declared : env.manifest (normalised masterType) = some entry) (read : readRows format content = .ok (.ok held))
    (all : held.allSome = some rows) (valid : ∀ row ∈ rows, errorsOf reading row = []) :
    validateImport env reading masterType format content s = .ok (dryRun reading (normalised masterType)
        (Text.lower (Text.stripped format)) (existingCodes (normalised masterType) s) rows) ∧
      importData env reading importedBy calls masterType format content s =
        importRows env reading importedBy calls masterType 0 rows s := by
  have report : validateImport env reading masterType format content s = .ok (dryRun reading (normalised masterType)
      (Text.lower (Text.stripped format)) (existingCodes (normalised masterType) s) rows) := by
    simp [validateImport,registered_of_manifest declared,read,all]
  have clean : (dryRun reading (normalised masterType) (Text.lower (Text.stripped format))
      (existingCodes (normalised masterType) s) rows).invalidRows = 0 := by
    simpa [dryRun,List.countP_eq_zero] using valid
  refine ⟨report,?_⟩
  unfold importData
  simp only [report,clean,Nat.lt_irrefl,if_false,read,reduceOption_of_allSome all]

theorem unvalidated (importedBy : String) (calls : ℕ → Call) (s : MasterDataStore) {format : String} {content : Document}
    (invalid : ∀ entry held rows, env.manifest (normalised masterType) = some entry →
      readRows format content = .ok (.ok held) → held.allSome = some rows → ∃ row ∈ rows, errorsOf reading row ≠ []) :
    (∀ report, validateImport env reading masterType format content s = .ok report → 0 < report.invalidRows) ∧
      ∃ e, importData env reading importedBy calls masterType format content s = (s, .error e) := by
  have reported : ∀ report, validateImport env reading masterType format content s = .ok report →
      0 < report.invalidRows := by
    intro report made
    unfold validateImport registered at made
    cases declared : env.manifest (normalised masterType) with
    | none => simp [declared] at made
    | some entry =>
      simp only [declared] at made
      cases read : readRows format content with
      | error e => simp [read] at made
      | ok served =>
        cases served with
        | error reason =>
          simp only [read] at made
          cases made
          exact Nat.one_pos
        | ok held =>
          cases all : held.allSome with
          | none => simp [read,all] at made
          | some rows =>
            simp only [read,all] at made
            cases made
            obtain ⟨row,member,wrong⟩ := invalid entry held rows declared read all
            exact List.countP_pos_iff.mpr ⟨row,member,decide_eq_true wrong⟩
  refine ⟨reported,?_⟩
  unfold importData
  cases made : validateImport env reading masterType format content s with
  | error e => exact ⟨e,rfl⟩
  | ok report => exact ⟨.validationFailed report.invalidRows,if_pos (reported report made)⟩

end Runs

end CloudLens.MasterData
