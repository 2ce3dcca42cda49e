import CloudLens.BulkImport.Parsing
import CloudLens.Library.Runs
import CloudLens.MasterData.Isolation

/-! The master codes that rows are validated against. The validator keeps the codes of a
master from the first time that it looks them up, and a master without codes is passed by
every value. -/
namespace CloudLens.BulkImport
open Library
open MasterData (Environment Call MasterDataStore MasterDataRecord MasterOp masterStep listRecords listed isVisible given normalised Shown)
open BulkImportValidator

def getValidMasterValues (env : Environment) (call : Call) (masterType : String) (tenantId : Option String) (store : MasterDataStore) :
    List String :=
  match listRecords env call (normalised masterType) none tenantId false store with
  | .error _ => []
  | .ok records => (records.filter MasterDataRecord.isActive).map MasterDataRecord.code

abbrev MasterCache : Type := Dict String (List String)

def cacheKey (tenantId : Option String) (masterType : String) : String := (given tenantId).getD "global" ++ ":" ++ Text.upper masterType

def plain (conversions : Conversions) : BulkImportValidator := ⟨conversions,fun _ => []⟩

/-- The world a row is validated in: the clock and the listing, the tenant, and the master data. -/
structure Moment where
  env : Environment
  call : Call
  tenantId : Option String
  store : MasterDataStore

namespace Moment

variable (moment : Moment)

def liveCodes (masterType : String) : List String :=
  (getValidMasterValues moment.env moment.call masterType moment.tenantId moment.store).map normalised

def getMasterCodes (masterType : String) (cache : MasterCache) : List String × MasterCache :=
  match cache.get (cacheKey moment.tenantId masterType) with
  | some codes => (codes, cache)
  | none => (moment.liveCodes masterType, cache.assign (cacheKey moment.tenantId masterType) (moment.liveCodes masterType))

def reference (column : ColumnDefinition) : Option String := column.masterReference.filter (· ≠ "")

variable (conversions : Conversions)

def checkColumnCached (profile : Option MappingProfile) (rowNumber : ℕ) (raw : Record) (column : ColumnDefinition) (cache : MasterCache) :
    ColumnCheck × MasterCache :=
  match (reference column).filter (fun _ => !(plain conversions).isMissing (cellOf profile raw column.name)) with
  | none => ((plain conversions).checkColumn profile rowNumber raw column, cache)
  | some master =>
    let found := moment.getMasterCodes master cache
    ((⟨conversions,fun _ => found.1⟩ : BulkImportValidator).checkColumn profile rowNumber raw column, found.2)

def checkColumns (profile : Option MappingProfile) (rowNumber : ℕ) (raw : Record) :
    List ColumnDefinition → MasterCache → List (String × ColumnCheck) × MasterCache
  | [], cache => ([], cache)
  | column :: columns, cache =>
    let check := moment.checkColumnCached conversions profile rowNumber raw column cache
    let rest := checkColumns profile rowNumber raw columns check.2
    ((column.name, check.1) :: rest.1, rest.2)

end Moment

def rowOutcome (conversions : Conversions) (metadata : EntityImportMetadata) (rowNumber : ℕ) (checks : List (String × ColumnCheck)) :
    RowValidationResult :=
  let mapped := Dict.ofPairs (checks.filterMap (fun check => check.2.value.map (fun value => (check.1, value))))
  let keyErrors := metadata.naturalKeyColumns.filter (fun keyColumn => ((plain conversions).keyPart mapped keyColumn).isNone)
  let parts := metadata.naturalKeyColumns.filterMap ((plain conversions).keyPart mapped)
  { rowNumber
    naturalKey := if parts = [] then "row-" ++ toString rowNumber else String.intercalate ":" parts
    mappedData := mapped
    errors := checks.flatMap (fun check => check.2.errors) ++ keyErrors.map (fun keyColumn =>
      prefixed rowNumber ("Natural key column '" ++ keyColumn ++ "' is missing or empty."))
    failedMaster := (checks.filterMap (fun check => check.2.failedMaster)).head? }

structure RowCall where
  call : Call
  tenantId : Option String
  metadata : EntityImportMetadata
  profile : Option MappingProfile
  rowNumber : ℕ
  rawRow : Record

inductive Event
  | change (masterType : String) (op : MasterOp)
  | validate (row : RowCall)

structure Validation where
  store : MasterDataStore
  cache : MasterCache

section Steps

variable (env : Environment) (conversions : Conversions)

def RowCall.moment (row : RowCall) (store : MasterDataStore) : Moment := ⟨env,row.call,row.tenantId,store⟩

def RowCall.checks (row : RowCall) (s : Validation) : List (String × ColumnCheck) × MasterCache :=
  (row.moment env s.store).checkColumns conversions row.profile row.rowNumber (rawNormalized row.rawRow) row.metadata.columns s.cache

def validateRowCached (row : RowCall) (s : Validation) : RowValidationResult × MasterCache :=
  (rowOutcome conversions row.metadata row.rowNumber (row.checks env conversions s).1, (row.checks env conversions s).2)

def validationStep (s : Validation) : Event → Validation
  | .change masterType op => { s with store := masterStep env masterType s.store op }
  | .validate row => { s with cache := (validateRowCached env conversions row s).2 }

end Steps

/-- The codes a value is held against: those that are kept of its master, or else the live ones. -/
def Moment.keptCodes (moment : Moment) (cache : MasterCache) (masterType : String) : List String :=
  (cache.get (cacheKey moment.tenantId masterType)).getD (moment.liveCodes masterType)

section Lookups

variable {moment : Moment} {cache : MasterCache} {masterType other : String}

theorem liveCodes_of_key (same : cacheKey moment.tenantId masterType = cacheKey moment.tenantId other) :
    moment.liveCodes masterType = moment.liveCodes other := by
  unfold Moment.liveCodes getValidMasterValues
  rw [MasterData.normalised_eq masterType,String.append_right_inj _ |>.mp same,← MasterData.normalised_eq]

theorem getMasterCodes_fst : (moment.getMasterCodes masterType cache).1 = moment.keptCodes cache masterType := by
  unfold Moment.getMasterCodes Moment.keptCodes
  cases cache.get (cacheKey moment.tenantId masterType) with
  | none => rfl
  | some codes => rfl

theorem keptCodes_getMasterCodes : moment.keptCodes (moment.getMasterCodes masterType cache).2 other = moment.keptCodes cache other := by
  unfold Moment.getMasterCodes
  cases held : cache.get (cacheKey moment.tenantId masterType) with
  | some codes => rfl
  | none =>
    unfold Moment.keptCodes
    rw [Dict.get_assign]
    by_cases same : cacheKey moment.tenantId other = cacheKey moment.tenantId masterType
    · rw [if_pos same,same,held]
      exact (liveCodes_of_key same).symm
    · rw [if_neg same]

end Lookups

section Checks

variable {conversions : Conversions} {codes others : String → List String} {profile : Option MappingProfile} {rowNumber : ℕ} {raw : Record}
  {column : ColumnDefinition} {clean : String}

variable (codes rowNumber) in
theorem checkColumn_of_missing (missing : (plain conversions).isMissing (cellOf profile raw column.name) = true) :
    (BulkImportValidator.mk conversions codes).checkColumn profile rowNumber raw column =
      (plain conversions).checkColumn profile rowNumber raw column := by
  have first : (BulkImportValidator.mk conversions codes).isMissing (cellOf profile raw column.name) = true := missing
  unfold checkColumn
  dsimp only
  rw [if_pos first,if_pos missing]

variable (codes rowNumber) in
/-- A master adds its own errors behind those of the column. -/
theorem checkColumn_of_given (given : (plain conversions).isMissing (cellOf profile raw column.name) = false) :
    (BulkImportValidator.mk conversions codes).checkColumn profile rowNumber raw column =
      ⟨((plain conversions).checkColumn profile rowNumber raw column).value,
        ((plain conversions).checkColumn profile rowNumber raw column).errors ++
          ((BulkImportValidator.mk conversions codes).masterErrors column ((plain conversions).cleaned (cellOf profile raw column.name))).map
            (prefixed rowNumber),
        (BulkImportValidator.mk conversions codes).failedMaster column ((plain conversions).cleaned (cellOf profile raw column.name))⟩ := by
  have second : ¬ (plain conversions).isMissing (cellOf profile raw column.name) = true := Bool.eq_false_iff.mp given
  have first : ¬ (BulkImportValidator.mk conversions codes).isMissing (cellOf profile raw column.name) = true := second
  have none : ∀ clean, (plain conversions).masterErrors column clean = [] := by
    intro clean
    unfold masterErrors failedMaster plain
    cases column.masterReference <;> rfl
  unfold checkColumn
  dsimp only
  rw [if_neg first,if_neg second,none,List.append_nil,← List.map_append]
  rfl

theorem failedMaster_eq_none_iff : (BulkImportValidator.mk conversions codes).failedMaster column clean = none ↔
    ∀ master, column.masterReference = some master → codes master = [] ∨ Text.upper clean ∈ codes master := by
  unfold failedMaster
  cases column.masterReference with
  | none => exact iff_of_true rfl (fun master refers => by cases refers)
  | some master =>
    rw [Option.filter_some]
    simp only [Option.some.injEq,forall_eq']
    split
    · rename_i failed
      simp only [Bool.and_eq_true,decide_eq_true_eq] at failed
      exact iff_of_false (Option.some_ne_none master) (not_or.mpr failed)
    · rename_i passed
      simp only [Bool.and_eq_true,decide_eq_true_eq,not_and_or,not_not] at passed
      exact iff_of_true rfl passed

theorem masterErrors_eq_nil_iff : (BulkImportValidator.mk conversions codes).masterErrors column clean = [] ↔
    (BulkImportValidator.mk conversions codes).failedMaster column clean = none := by
  unfold masterErrors
  cases (BulkImportValidator.mk conversions codes).failedMaster column clean with
  | none => exact iff_of_true rfl rfl
  | some master => exact iff_of_false (List.cons_ne_nil _ _) (Option.some_ne_none master)

theorem failedMaster_congr (same : ∀ master, column.masterReference = some master → codes master = others master) :
    (BulkImportValidator.mk conversions codes).failedMaster column clean = (BulkImportValidator.mk conversions others).failedMaster column clean := by
  unfold failedMaster
  cases referenced : column.masterReference with
  | none => rfl
  | some master => simp only [Option.filter_some,same master referenced]

theorem checkColumn_congr (same : (plain conversions).isMissing (cellOf profile raw column.name) = false →
    ∀ master, column.masterReference = some master → codes master = others master) :
    (BulkImportValidator.mk conversions codes).checkColumn profile rowNumber raw column =
      (BulkImportValidator.mk conversions others).checkColumn profile rowNumber raw column := by
  cases missing : (plain conversions).isMissing (cellOf profile raw column.name) with
  | true => rw [checkColumn_of_missing codes rowNumber missing,checkColumn_of_missing others rowNumber missing]
  | false =>
    rw [checkColumn_of_given codes rowNumber missing,checkColumn_of_given others rowNumber missing]
    unfold masterErrors
    rw [failedMaster_congr (same missing)]

theorem checkColumn_value : ((BulkImportValidator.mk conversions codes).checkColumn profile rowNumber raw column).value =
    ((plain conversions).checkColumn profile rowNumber raw column).value := by
  cases missing : (plain conversions).isMissing (cellOf profile raw column.name) with
  | true => rw [checkColumn_of_missing codes rowNumber missing]
  | false => rw [checkColumn_of_given codes rowNumber missing]

theorem errors_checkColumn : ((BulkImportValidator.mk conversions codes).checkColumn profile rowNumber raw column).errors = [] ↔
    ((plain conversions).checkColumn profile rowNumber raw column).errors = [] ∧
      ((plain conversions).isMissing (cellOf profile raw column.name) = false → ∀ master, column.masterReference = some master →
        codes master = [] ∨ Text.upper ((plain conversions).cleaned (cellOf profile raw column.name)) ∈ codes master) := by
  cases missing : (plain conversions).isMissing (cellOf profile raw column.name) with
  | true =>
    rw [checkColumn_of_missing codes rowNumber missing]
    exact (and_iff_left (fun given => absurd given.symm Bool.false_ne_true)).symm
  | false =>
    rw [checkColumn_of_given codes rowNumber missing]
    dsimp only
    rw [List.append_eq_nil_iff,List.map_eq_nil_iff,masterErrors_eq_nil_iff,failedMaster_eq_none_iff]
    exact and_congr_right (fun _ => ⟨fun passes _ => passes,fun passes => passes rfl⟩)

end Checks

section Rows

variable {env : Environment} {conversions : Conversions} {row : RowCall} {s : Validation}

def Moment.codes (moment : Moment) (cache : MasterCache) (masterType : String) : List String :=
  if masterType = "" then [] else moment.keptCodes cache masterType

theorem codes_of_kept {moment : Moment} {cache later : MasterCache}
    (same : ∀ masterType, moment.keptCodes later masterType = moment.keptCodes cache masterType) : moment.codes later = moment.codes cache := by
  funext masterType
  unfold Moment.codes
  rw [same]

theorem checkColumnCached_spec (moment : Moment) (profile : Option MappingProfile) (rowNumber : ℕ) (raw : Record) (column : ColumnDefinition)
    (cache : MasterCache) :
    (moment.checkColumnCached conversions profile rowNumber raw column cache).1 =
        (BulkImportValidator.mk conversions (moment.codes cache)).checkColumn profile rowNumber raw column ∧
      ∀ masterType, moment.keptCodes (moment.checkColumnCached conversions profile rowNumber raw column cache).2 masterType =
        moment.keptCodes cache masterType := by
  unfold Moment.checkColumnCached
  split
  · rename_i idle
    refine ⟨checkColumn_congr ?_,fun masterType => rfl⟩
    intro given master refers
    rw [Moment.reference,refers,given,Option.filter_eq_none_iff] at idle
    have nameless : master = "" := by
      by_contra named
      exact idle master (Option.filter_eq_some_iff.mpr ⟨rfl,decide_eq_true named⟩) rfl
    rw [Moment.codes,if_pos nameless]
  · rename_i master looked
    refine ⟨checkColumn_congr ?_,fun masterType => keptCodes_getMasterCodes⟩
    intro given other refers
    obtain ⟨referred,-⟩ := Option.filter_eq_some_iff.mp looked
    rw [Moment.reference,refers] at referred
    obtain ⟨same,named⟩ := Option.filter_eq_some_iff.mp referred
    cases same
    rw [getMasterCodes_fst,Moment.codes,if_neg (of_decide_eq_true named)]

theorem checkColumns_spec (moment : Moment) (profile : Option MappingProfile) (rowNumber : ℕ) (raw : Record) (columns : List ColumnDefinition)
    (cache : MasterCache) :
    (moment.checkColumns conversions profile rowNumber raw columns cache).1 = columns.map (fun column =>
        (column.name, (BulkImportValidator.mk conversions (moment.codes cache)).checkColumn profile rowNumber raw column)) ∧
      ∀ masterType, moment.keptCodes (moment.checkColumns conversions profile rowNumber raw columns cache).2 masterType =
        moment.keptCodes cache masterType := by
  induction columns generalizing cache with
  | nil => exact ⟨rfl,fun _ => rfl⟩
  | cons column columns ih =>
    have first := @checkColumnCached_spec conversions moment profile rowNumber raw column cache
    have rest := ih (moment.checkColumnCached conversions profile rowNumber raw column cache).2
    rw [codes_of_kept first.2] at rest
    refine ⟨?_,fun masterType => (rest.2 masterType).trans (first.2 masterType)⟩
    rw [List.map_cons,← rest.1,← first.1]
    rfl

theorem validateRowCached_fst : (validateRowCached env conversions row s).1 =
    (BulkImportValidator.mk conversions ((row.moment env s.store).codes s.cache)).validateRow row.metadata row.profile row.rowNumber row.rawRow := by
  unfold validateRowCached RowCall.checks
  dsimp only
  rw [(checkColumns_spec _ _ _ _ _ _).1]
  rfl

def RowCall.values (conversions : Conversions) (row : RowCall) : List (String × String) :=
  row.metadata.columns.filterMap (fun column =>
    let value := cellOf row.profile (rawNormalized row.rawRow) column.name
    if (plain conversions).isMissing value then none
    else (Moment.reference column).map (fun master => (master, Text.upper ((plain conversions).cleaned value))))

theorem mem_values {value : String × String} : value ∈ row.values conversions ↔ ∃ column ∈ row.metadata.columns,
    (plain conversions).isMissing (cellOf row.profile (rawNormalized row.rawRow) column.name) = false ∧ column.masterReference = some value.1 ∧
      value.1 ≠ "" ∧ value.2 = Text.upper ((plain conversions).cleaned (cellOf row.profile (rawNormalized row.rawRow) column.name)) := by
  unfold RowCall.values
  rw [List.mem_filterMap]
  apply exists_congr
  intro column
  apply and_congr_right
  intro _
  dsimp only
  split
  · rename_i missing
    exact iff_of_false (fun held => by cases held) (fun held => Bool.false_ne_true (held.1.symm.trans missing))
  · rename_i given
    rw [Option.map_eq_some_iff,and_iff_right (Bool.eq_false_iff.mpr given)]
    constructor
    · rintro ⟨master,refers,rfl⟩
      obtain ⟨refers,named⟩ := Option.filter_eq_some_iff.mp refers
      exact ⟨refers,of_decide_eq_true named,rfl⟩
    · rintro ⟨refers,named,same⟩
      exact ⟨value.1,Option.filter_eq_some_iff.mpr ⟨refers,decide_eq_true named⟩,Prod.ext rfl same.symm⟩

def RowCall.Faulty (conversions : Conversions) (row : RowCall) : Prop :=
  ((plain conversions).validateRow row.metadata row.profile row.rowNumber row.rawRow).isValid = false

def RowCall.Refused (row : RowCall) (env : Environment) (s : Validation) (value : String × String) : Prop :=
  (row.moment env s.store).keptCodes s.cache value.1 ≠ [] ∧ value.2 ∉ (row.moment env s.store).keptCodes s.cache value.1

theorem isValid_validateRow (codes : String → List String) (metadata : EntityImportMetadata) (profile : Option MappingProfile) (rowNumber : ℕ)
    (rawRow : Record) : ((BulkImportValidator.mk conversions codes).validateRow metadata profile rowNumber rawRow).isValid = true ↔
      ((plain conversions).validateRow metadata profile rowNumber rawRow).isValid = true ∧ ∀ column ∈ metadata.columns,
        (plain conversions).isMissing (cellOf profile (rawNormalized rawRow) column.name) = false → ∀ master, column.masterReference = some master →
          codes master = [] ∨ Text.upper ((plain conversions).cleaned (cellOf profile (rawNormalized rawRow) column.name)) ∈ codes master := by
  have mapped : (metadata.columns.map (fun column =>
        (column.name, (BulkImportValidator.mk conversions codes).checkColumn profile rowNumber (rawNormalized rawRow) column))).filterMap
          (fun check => check.2.value.map (fun value => (check.1, value))) =
      (metadata.columns.map (fun column => (column.name, (plain conversions).checkColumn profile rowNumber (rawNormalized rawRow) column))).filterMap
          (fun check => check.2.value.map (fun value => (check.1, value))) := by
    rw [List.filterMap_map,List.filterMap_map]
    apply List.filterMap_congr
    intro column _
    simp only [Function.comp_apply,checkColumn_value]
  unfold RowValidationResult.isValid validateRow
  dsimp only
  rw [mapped]
  simp only [List.isEmpty_iff,List.append_eq_nil_iff,List.flatMap_eq_nil_iff,List.forall_mem_map,@errors_checkColumn _ codes,forall_and]
  tauto

theorem isValid_iff : (validateRowCached env conversions row s).1.isValid = true ↔
    ¬ row.Faulty conversions ∧ ∀ value ∈ row.values conversions, ¬ row.Refused env s value := by
  rw [validateRowCached_fst,isValid_validateRow]
  apply and_congr
  · unfold RowCall.Faulty
    rw [Bool.not_eq_false]
  · constructor
    · intro passes value member refused
      obtain ⟨column,inside,given,refers,named,same⟩ := mem_values.mp member
      have passed := passes column inside given value.1 refers
      rw [Moment.codes,if_neg named,← same] at passed
      exact passed.elim refused.1 refused.2
    · intro free column inside given master refers
      by_cases named : master = ""
      · rw [Moment.codes,if_pos named]
        exact Or.inl rfl
      · have passed := free (master, _) (mem_values.mpr ⟨column,inside,given,refers,named,rfl⟩)
        rw [Moment.codes,if_neg named]
        unfold RowCall.Refused at passed
        exact or_iff_not_and_not.mpr (fun both => passed both)

def Moment.Effective (moment : Moment) (value : String × String) : Prop :=
  ∃ record, Shown value.1 moment.call.now moment.store record ∧ record.isActive = true ∧
    (record.tenantId = none ∨ record.tenantId = given moment.tenantId) ∧ normalised record.code = value.2

/-- A valid row has effective codes of their masters for values. -/
def RowCall.Sound (row : RowCall) (env : Environment) (conversions : Conversions) (s : Validation) : Prop :=
  (validateRowCached env conversions row s).1.isValid = true → ∀ value ∈ row.values conversions, (row.moment env s.store).Effective value

/-- Of the values none is let through that is not effective, be it that no codes are kept
of its master or that it is one of those kept, unless the row is refused for something else. -/
def RowCall.Met (row : RowCall) (env : Environment) (conversions : Conversions) (s : Validation) : Prop :=
  (∀ value ∈ row.values conversions, ((row.moment env s.store).keptCodes s.cache value.1 = [] ∨
      value.2 ∈ (row.moment env s.store).keptCodes s.cache value.1) → (row.moment env s.store).Effective value) ∨
    row.Faulty conversions ∨ ∃ value ∈ row.values conversions, row.Refused env s value

theorem sound_iff_met : row.Sound env conversions s ↔ row.Met env conversions s := by
  unfold RowCall.Sound RowCall.Met
  rw [isValid_iff]
  constructor
  · intro sound
    by_cases faulty : row.Faulty conversions
    · exact Or.inr (Or.inl faulty)
    · by_cases refused : ∃ value ∈ row.values conversions, row.Refused env s value
      · exact Or.inr (Or.inr refused)
      · exact Or.inl (fun value member _ => sound ⟨faulty,fun other inside stopped => refused ⟨other,inside,stopped⟩⟩ value member)
  · rintro (met | faulty | ⟨other,inside,refused⟩) ⟨faultless,free⟩ value member
    · refine met value member ?_
      exact or_iff_not_and_not.mpr (fun both => free value member both)
    · exact absurd faulty faultless
    · exact absurd refused (free other inside)

end Rows

section Imports

def Event.Sound (env : Environment) (conversions : Conversions) (s : Validation) : Event → Prop
  | .change _ _ => True
  | .validate row => row.Sound env conversions s

def Event.Met (env : Environment) (conversions : Conversions) (s : Validation) : Event → Prop
  | .change _ _ => True
  | .validate row => row.Met env conversions s

def Validation.fresh (store : MasterDataStore) : Validation := ⟨store,Dict.empty⟩

/-- Rows are held against the masters and have their line numbers exactly when no call lets
a value through that is not effective, and the rows of a file follow its header. -/
theorem imports_sound_iff (env : Environment) (conversions : Conversions) (store : MasterDataStore) (events : List Event) (upload : Upload) :
    (Runs.Along (validationStep env conversions) (Event.Sound env conversions) (.fresh store) events ∧ upload.Numbered) ↔
      Runs.Along (validationStep env conversions) (Event.Met env conversions) (.fresh store) events ∧ upload.InOrder := by
  apply and_congr
  · apply Runs.along_congr
    intro s event
    cases event with
    | change masterType op => exact Iff.rfl
    | validate row => exact sound_iff_met
  · exact Upload.numbered_iff_inOrder

end Imports

section Strays

def planets : Environment where
  manifest masterType := if masterType = "PLANET" then some ⟨"PLANET",false⟩ else none
  references _ _ := []

def spelledOut : Conversions where
  str value := match value with
    | .str word => word
    | _ => ""
  float _ := none
  isDate _ := false
  text _ := rfl

def atSecond (n : ℕ) : Call := ⟨n * 10^6,toString n,.stable⟩

def sites : EntityImportMetadata where
  columns := [{ name := "planet", required := true, masterReference := some "PLANET" }]
  naturalKeyColumns := ["planet"]
  defaultAtomicityPolicy := .allOrNothing
  allowedModes := [.upsert]
  rollbackWindowHours := 24
  distinct := List.nodup_singleton _
  plain column member := by
    rw [List.mem_singleton.mp member]
    decide

def siteOn (planet : String) (n : ℕ) : Event :=
  .validate ⟨atSecond n,some "t1",sites,none,2,Dict.ofPairs [("planet", .str planet)]⟩

def earth : MasterData.NewRecord := ⟨"EARTH","Earth",none,1,none,[],none,"admin",false,false⟩

def commented : Upload := ⟨⟨fun _ _ => true,fun _ _ => "# sites\nplanet\nMARS".toList,fun _ => .error ""⟩,[],"sites.csv",none,none⟩

/-- A master without codes lets any value pass, a code that is deleted passes as before,
and the row on the third line of a file has number two. -/
theorem strays_pass_misnumbered :
    ¬ Runs.Along (validationStep planets spelledOut) (Event.Sound planets spelledOut) (.fresh .blank) [siteOn "MARS" 1] ∧
      ¬ Runs.Along (validationStep planets spelledOut) (Event.Sound planets spelledOut) (.fresh .blank)
        [.change "PLANET" (.create (atSecond 1) earth), siteOn "EARTH" 2, .change "PLANET" (.delete (atSecond 3) "EARTH"), siteOn "EARTH" 4] ∧
      ¬ commented.Numbered := by
  refine ⟨?_,?_,?_⟩
  · rintro ⟨sound,-⟩
    obtain ⟨record,shown,-⟩ := sound (by decide +kernel) ("PLANET", "MARS") (by decide +kernel)
    exact List.not_mem_nil shown.1
  · rintro ⟨-,-,-,sound,-⟩
    obtain ⟨record,shown,-⟩ := sound (by decide +kernel) ("PLANET", "EARTH") (by decide +kernel)
    exact absurd (List.length_pos_of_mem shown.1) (by decide +kernel)
  · intro numbered
    have delimited : commented.Delimited := ⟨by decide +kernel,by unfold NoBreakInCells; decide +kernel⟩
    obtain ⟨file,parsed,rows⟩ := Upload.parsed_of_delimited delimited
    have same := congrArg (List.map Prod.fst) (rows.symm.trans (numbered delimited file parsed))
    exact absurd same (by decide +kernel)

end Strays

end CloudLens.BulkImport
