import CloudLens.MasterData.Import

/-! Bulk import of entities: what the catalogue says of an entity type, and the
validation of a row against it. What the language makes of a value as a text, of a text
as a number and of a text as a date is given by the conversions. -/
namespace CloudLens.BulkImport
open Library

abbrev Record : Type := Dict String Json

inductive ImportMode
  | insertOnly
  | updateOnly
  | upsert
  | deactivateMissing
  deriving DecidableEq

def ImportMode.text : ImportMode → String
  | insertOnly => "INSERT_ONLY"
  | updateOnly => "UPDATE_ONLY"
  | upsert => "UPSERT"
  | deactivateMissing => "DEACTIVATE_MISSING"

inductive AtomicityPolicy
  | allOrNothing
  | partialSuccess
  deriving DecidableEq

inductive DataType
  | string
  | number
  | boolean
  | date
  | json
  deriving DecidableEq

structure ColumnDefinition where
  name : String
  dataType : DataType := .string
  required : Bool := false
  masterReference : Option String := none
  allowedValues : List String := []

def startsWithUnderscore (name : String) : Bool := name.toList.head? = some '_'

def isReserved (name : String) : Bool := name = "is_active" || startsWithUnderscore name

/-- The columns of a type have distinct names, none of them reserved. -/
structure EntityImportMetadata where
  columns : List ColumnDefinition
  naturalKeyColumns : List String
  defaultAtomicityPolicy : AtomicityPolicy
  allowedModes : List ImportMode
  rollbackWindowHours : ℕ
  distinct : (columns.map ColumnDefinition.name).Nodup
  plain : ∀ column ∈ columns, isReserved column.name = false

structure MappingProfile where
  columnMappings : List (String × String)
  defaultValues : Record

/-- `str`, `float` and the check of `date.fromisoformat`. -/
structure Conversions where
  str : Json → String
  float : String → Option ℚ
  isDate : String → Bool
  text : ∀ word, str (.str word) = word

structure RowValidationResult where
  rowNumber : ℕ
  naturalKey : String
  mappedData : Record
  errors : List String
  failedMaster : Option String

namespace RowValidationResult

def isValid (row : RowValidationResult) : Bool := row.errors.isEmpty

end RowValidationResult

structure BulkImportValidator where
  conversions : Conversions
  /-- The upper-case codes of a master, of the tenant the row is imported for. -/
  masterCodes : String → List String

structure ColumnCheck where
  value : Option Json
  errors : List String := []
  failedMaster : Option String := none

namespace BulkImportValidator

variable (validator : BulkImportValidator)

def isNull : Json → Bool
  | .null => true
  | _ => false

def isEmptyText : Json → Bool
  | .str word => word = ""
  | _ => false

def cleaned (value : Json) : String := Text.stripped (validator.conversions.str value)

def isMissing (value : Json) : Bool := isNull value || validator.cleaned value = ""

def rawNormalized (raw : Record) : Record := Dict.ofPairs (raw.items.map (fun item => (Text.lower (Text.stripped item.1), item.2)))

def mappedValue (mappings : List (String × String)) (raw : Record) (target : String) : Json :=
  match mappings.find? (fun mapping => mapping.2 = target && (raw.get (Text.lower mapping.1)).isSome) with
  | none => .null
  | some mapping => (raw.get (Text.lower mapping.1)).getD .null

def cellOf (profile : Option MappingProfile) (raw : Record) (target : String) : Json :=
  let mapped := mappedValue (profile.elim [] MappingProfile.columnMappings) raw target
  let direct := if isNull mapped then (raw.get (Text.lower target)).getD .null else mapped
  if isNull direct || isEmptyText direct then
    ((profile.elim Dict.empty MappingProfile.defaultValues).get target).getD direct
  else direct

def prefixed (rowNumber : ℕ) (message : String) : String := "Row " ++ toString rowNumber ++ ": " ++ message

def datePart (word : String) : String := String.ofList (word.toList.takeWhile (· ≠ 'T'))

def parseCell (column : ColumnDefinition) (clean : String) : Json × List String :=
  match column.dataType with
  | .number =>
    match validator.conversions.float clean with
    | some number => (.num number, [])
    | none => (.str clean, ["Field '" ++ column.name ++ "' requires numeric value, got '" ++ clean ++ "'."])
  | .boolean =>
    if Text.lower clean ∈ ["true", "1", "yes", "y", "t"] then (.bool true, [])
    else if Text.lower clean ∈ ["false", "0", "no", "n", "f"] then (.bool false, [])
    else (.str clean, ["Field '" ++ column.name ++ "' requires boolean value, got '" ++ clean ++ "'."])
  | .date =>
    if validator.conversions.isDate (datePart clean) then (.str (datePart clean), [])
    else (.str clean, ["Field '" ++ column.name ++ "' requires valid date format (YYYY-MM-DD), got '" ++ clean ++ "'."])
  | _ => (.str clean, [])

def listed (values : List String) : String := "[" ++ String.intercalate ", " (values.map (fun value => "'" ++ value ++ "'")) ++ "]"

def allowedErrors (column : ColumnDefinition) (clean : String) : List String :=
  if column.allowedValues ≠ [] ∧ Text.upper clean ∉ column.allowedValues.map Text.upper then
    ["Value '" ++ clean ++ "' for field '" ++ column.name ++ "' is not in allowed values: " ++ listed column.allowedValues ++ "."]
  else []

def failedMaster (column : ColumnDefinition) (clean : String) : Option String :=
  column.masterReference.filter (fun master => validator.masterCodes master ≠ [] && Text.upper clean ∉ validator.masterCodes master)

def masterErrors (column : ColumnDefinition) (clean : String) : List String :=
  match validator.failedMaster column clean with
  | none => []
  | some master =>
    ["Value '" ++ clean ++ "' for field '" ++ column.name ++ "' does not exist in registered master '" ++ master ++
      "'. Free-text substitution is forbidden."]

def checkColumn (profile : Option MappingProfile) (rowNumber : ℕ) (raw : Record) (column : ColumnDefinition) : ColumnCheck :=
  let value := cellOf profile raw column.name
  if validator.isMissing value then
    if column.required then ⟨none,[prefixed rowNumber ("Required field '" ++ column.name ++ "' is missing or empty.")],none⟩
    else ⟨some .null,[],none⟩
  else
    let clean := validator.cleaned value
    let parsed := validator.parseCell column clean
    ⟨some parsed.1,(parsed.2 ++ allowedErrors column clean ++ validator.masterErrors column clean).map (prefixed rowNumber),
      validator.failedMaster column clean⟩

def keyPart (mapped : Record) (keyColumn : String) : Option String :=
  ((mapped.get keyColumn).filter (fun value => !validator.isMissing value)).map validator.cleaned

def validateRow (metadata : EntityImportMetadata) (profile : Option MappingProfile) (rowNumber : ℕ) (rawRow : Record) :
    RowValidationResult :=
  let raw := rawNormalized rawRow
  let checks := metadata.columns.map (fun column => (column.name, validator.checkColumn profile rowNumber raw column))
  let mapped := Dict.ofPairs (checks.filterMap (fun check => check.2.value.map (fun value => (check.1, value))))
  let keyErrors := metadata.naturalKeyColumns.filter (fun keyColumn => (validator.keyPart mapped keyColumn).isNone)
  let parts := metadata.naturalKeyColumns.filterMap (validator.keyPart mapped)
  { rowNumber
    naturalKey := if parts = [] then "row-" ++ toString rowNumber else String.intercalate ":" parts
    mappedData := mapped
    errors := checks.flatMap (fun check => check.2.errors) ++ keyErrors.map (fun keyColumn =>
      prefixed rowNumber ("Natural key column '" ++ keyColumn ++ "' is missing or empty."))
    failedMaster := (checks.filterMap (fun check => check.2.failedMaster)).head? }

section Columns

variable {validator} {metadata : EntityImportMetadata} {profile : Option MappingProfile} {rowNumber : ℕ} {rawRow : Record}

theorem checkColumn_value_none {raw : Record} {column : ColumnDefinition}
    (absent : (validator.checkColumn profile rowNumber raw column).value = none) :
    (validator.checkColumn profile rowNumber raw column).errors ≠ [] := by
  unfold checkColumn at absent ⊢
  dsimp only at absent ⊢
  split
  · rename_i missing
    rw [if_pos missing] at absent
    split
    · simp
    · rename_i optional
      rw [if_neg optional] at absent
      cases absent
  · rename_i given
    rw [if_neg given] at absent
    cases absent

theorem mem_keys_validateRow (valid : (validator.validateRow metadata profile rowNumber rawRow).isValid = true) (name : String) :
    name ∈ (validator.validateRow metadata profile rowNumber rawRow).mappedData.keys ↔
      name ∈ metadata.columns.map ColumnDefinition.name := by
  unfold RowValidationResult.isValid validateRow at valid
  simp only [List.isEmpty_iff,List.append_eq_nil_iff,List.flatMap_eq_nil_iff,List.mem_map] at valid
  have found : ∀ column ∈ metadata.columns,
      ∃ value, (validator.checkColumn profile rowNumber (rawNormalized rawRow) column).value = some value := by
    intro column member
    cases check : (validator.checkColumn profile rowNumber (rawNormalized rawRow) column).value with
    | some value => exact ⟨value,rfl⟩
    | none => exact absurd (valid.1 _ ⟨column,member,rfl⟩) (checkColumn_value_none check)
  unfold validateRow
  dsimp only
  rw [Dict.mem_keys_ofPairs]
  simp only [List.mem_map,List.mem_filterMap]
  constructor
  · intro held
    obtain ⟨pair,⟨check,⟨column,member,rfl⟩,given⟩,rfl⟩ := held
    obtain ⟨value,_,rfl⟩ := Option.map_eq_some_iff.mp given
    exact ⟨column,member,rfl⟩
  · intro held
    obtain ⟨column,member,rfl⟩ := held
    obtain ⟨value,given⟩ := found column member
    refine ⟨(column.name, value),⟨_,⟨column,member,rfl⟩,?_⟩,rfl⟩
    rw [given]
    rfl

end Columns

end BulkImportValidator

end CloudLens.BulkImport
