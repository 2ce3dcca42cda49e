import CloudLens.MasterData.Approval

/-! The import of master data. A document is what the JSON and the CSV
reader make of its text; both readers end in rows of named values. The dry run
looks at the rows alone and at the codes in store, the import resolves each row in
turn and writes as it goes. -/
namespace CloudLens.MasterData
open Library
open Library.Calendar (Instant)

abbrev Row : Type := Dict String Json

/-- The integer a loose value is accepted for, and the text of a value that is no
string, which is never blank. -/
structure Reading where
  integer : Json → Option ℤ
  text : Json → String
  visible : ∀ value, Text.stripped (text value) ≠ ""

def Reading.shown (reading : Reading) : Json → String
  | .str word => word
  | value => reading.text value

/-- The attributes cell of a line: its column may be missing, the line may end
before it, it may be empty, and its text may be no JSON. -/
inductive AttributesCell where
  | absent
  | short
  | empty
  | text (parsed : Option Json)

structure CsvLine where
  cells : Dict String (Option String)
  attributes : AttributesCell

def cellValue : Option String → Json
  | none => .null
  | some word => .str word

def CsvLine.row (line : CsvLine) : Row :=
  let plain := line.cells.mapValues cellValue
  match line.attributes with
  | .absent => plain
  | .short => plain.assign "attributes" .null
  | .empty => plain.assign "attributes" (.str "")
  | .text (some parsed) => plain.assign "attributes" parsed
  | .text none => plain.assign "attributes" (.obj [])

structure Document where
  json : Except String Json
  csv : Except String (List CsvLine)

inductive ImportError where
  | unsupportedFormat (format : String)
  | rowNotObject
  | validationFailed (invalidRows : ℕ)
  | codeNotText
  | invalidRecord
  | masterData (e : MasterDataError)

def objectRow : Json → Option Row
  | .obj members => some (Dict.ofPairs members)
  | _ => none

def readRows (format : String) (content : Document) : Except ImportError (Except String (List (Option Row))) :=
  if Text.lower (Text.stripped format) = "json" then
    match content.json with
    | .error e => .ok (.error ("Invalid JSON syntax: " ++ e))
    | .ok (.arr values) => .ok (.ok (values.map objectRow))
    | .ok _ => .ok (.error "Root JSON must be a list of objects.")
  else if Text.lower (Text.stripped format) = "csv" then
    match content.csv with
    | .error e => .ok (.error ("Invalid CSV structure: " ++ e))
    | .ok lines => .ok (.ok (lines.map (fun line => some line.row)))
  else .error (.unsupportedFormat format)

structure RowError where
  rowIndex : ℕ
  code : Option String
  errors : List String

structure PreviewRecord where
  code : String
  displayName : String
  action : String

structure DryRunValidationResult where
  masterType : String
  format : String
  totalRows : ℕ
  validRows : ℕ
  invalidRows : ℕ
  toAddCount : ℕ
  toUpdateCount : ℕ
  rowErrors : List RowError
  previewRecords : List PreviewRecord

def trimmed (reading : Reading) (row : Row) (key : String) : String :=
  match row.get key with
  | none => ""
  | some value => Text.stripped (reading.shown value)

def errorsOf (reading : Reading) (row : Row) : List String :=
  (if trimmed reading row "code" = "" then ["Missing mandatory 'code' key."] else []) ++
    (if trimmed reading row "display_name" = "" then ["Missing mandatory 'display_name'."] else [])

def existingCodes (masterType : String) (s : MasterDataStore) : List String :=
  (s.rows.filter (fun r => r.masterType = masterType)).map MasterDataRecord.code

def isKnown (reading : Reading) (existing : List String) (row : Row) : Bool :=
  errorsOf reading row = [] && trimmed reading row "code" ∈ existing

def isNew (reading : Reading) (existing : List String) (row : Row) : Bool :=
  errorsOf reading row = [] && trimmed reading row "code" ∉ existing

def rowErrorOf (reading : Reading) (numbered : Row × ℕ) : Option RowError :=
  match errorsOf reading numbered.1 with
  | [] => none
  | errors =>
    let code := trimmed reading numbered.1 "code"
    some ⟨numbered.2,some (if code = "" then "<EMPTY>" else code),errors⟩

def previewOf (reading : Reading) (existing : List String) (row : Row) : PreviewRecord :=
  let code := trimmed reading row "code"
  ⟨code,trimmed reading row "display_name",if code ∈ existing then "UPDATE" else "ADD"⟩

def dryRun (reading : Reading) (masterType format : String) (existing : List String) (rows : List Row) :
    DryRunValidationResult where
  masterType := masterType
  format := format
  totalRows := rows.length
  validRows := rows.countP (fun row => errorsOf reading row = [])
  invalidRows := rows.countP (fun row => errorsOf reading row ≠ [])
  toAddCount := rows.countP (isNew reading existing)
  toUpdateCount := rows.countP (isKnown reading existing)
  rowErrors := (rows.zipIdx 1).filterMap (rowErrorOf reading)
  previewRecords := ((rows.filter (fun row => errorsOf reading row = [])).take 5).map (previewOf reading existing)

def validateImport (env : Environment) (reading : Reading) (masterType format : String) (content : Document)
    (s : MasterDataStore) : Except ImportError DryRunValidationResult :=
  match registered env masterType with
  | .error e => .error (.masterData e)
  | .ok _ =>
    match readRows format content with
    | .error e => .error e
    | .ok (.error reason) =>
      .ok ⟨normalised masterType,Text.lower (Text.stripped format),0,0,1,0,0,[⟨0,none,[reason]⟩],[]⟩
    | .ok (.ok rows) =>
      match rows.allSome with
      | none => .error .rowNotObject
      | some rows =>
        .ok (dryRun reading (normalised masterType) (Text.lower (Text.stripped format))
          (existingCodes (normalised masterType) s) rows)

def textOf : Option Json → Option String
  | some (.str word) => some word
  | _ => none

def optionalText : Option Json → Option (Option String)
  | none | some .null => some none
  | some (.str word) => some (some word)
  | some _ => none

def optionalInteger (reading : Reading) : Option Json → Option (Option ℤ)
  | none | some .null => some none
  | some value => (reading.integer value).map some

def optionalMembers : Option Json → Option (Option (List (String × Json)))
  | none | some .null => some none
  | some (.obj members) => some (some members)
  | some _ => none

def changeOf (reading : Reading) (importedBy : String) (row : Row) : Option RecordChange :=
  match textOf (row.get "display_name"), optionalText (row.get "description"),
    optionalInteger reading (row.get "sort_order"), optionalText (row.get "parent_code"),
    optionalMembers (row.get "attributes") with
  | some displayName, some description, some sortOrder, some parentCode, some attributes =>
    some ⟨displayName,description,sortOrder,parentCode,attributes,importedBy,none,none,false⟩
  | _, _, _, _, _ => none

def newSortOrder (reading : Reading) : Option Json → Option ℤ
  | none => some 0
  | some value => reading.integer value

def newMembers : Option Json → Option (List (String × Json))
  | none => some []
  | some (.obj members) => some members
  | some value => if value.truthy then none else some []

def newRecordOf (reading : Reading) (importedBy code : String) (row : Row) : Option NewRecord :=
  match textOf (row.get "display_name"), optionalText (row.get "description"),
    newSortOrder reading (row.get "sort_order"), optionalText (row.get "parent_code"),
    newMembers (row.get "attributes") with
  | some displayName, some description, some sortOrder, some parentCode, some attributes =>
    some ⟨code,displayName,description,sortOrder,parentCode,attributes,none,importedBy,false,false⟩
  | _, _, _, _, _ => none

def lifted {Answer : Type} (updated : Bool) (served : MasterDataStore × Except MasterDataError Answer) :
    MasterDataStore × Except ImportError Bool :=
  (served.1,
    match served.2 with
    | .error e => .error (.masterData e)
    | .ok _ => .ok updated)

/-- An update whose new version is refused: the current version has been closed by
then, unless the new one would have been a draft. -/
def refusedUpdate (env : Environment) (call : Call) (masterType code : String) (s : MasterDataStore) :
    MasterDataStore × Except ImportError Bool :=
  match registered env masterType with
  | .error e => (s, .error (.masterData e))
  | .ok entry =>
    match resolve call.listing (normalised masterType) code call.now none false s with
    | none => (s, .error (.masterData (.notFound code (normalised masterType))))
    | some current =>
      if entry.requiresApproval then (s, .error .invalidRecord)
      else (s.saveRecord (closed call.now current), .error .invalidRecord)

def refusedCreate (call : Call) (masterType code : String) (s : MasterDataStore) : ImportError :=
  if isTaken call.listing (normalised masterType) code none s then
    .masterData (.alreadyExists code (normalised masterType) none)
  else .invalidRecord

def importRow (env : Environment) (reading : Reading) (importedBy : String) (call : Call) (masterType : String) (row : Row)
    (s : MasterDataStore) : MasterDataStore × Except ImportError Bool :=
  match textOf (row.get "code") with
  | none => (s, .error .codeNotText)
  | some code =>
    match getRecord env call masterType code none none false s with
    | .error e => (s, .error (.masterData e))
    | .ok (some _) =>
      match changeOf reading importedBy row with
      | some change => lifted true (updateRecord env call masterType code change s)
      | none => refusedUpdate env call masterType code s
    | .ok none =>
      match newRecordOf reading importedBy code row with
      | some input => lifted false (createRecord env call masterType input s)
      | none => (s, .error (refusedCreate call masterType code s))

def importRows (env : Environment) (reading : Reading) (importedBy : String) (calls : ℕ → Call) (masterType : String) :
    ℕ → List Row → MasterDataStore → MasterDataStore × Except ImportError (ℕ × ℕ)
  | _, [], s => (s, .ok (0, 0))
  | i, row :: rest, s =>
    match importRow env reading importedBy (calls i) masterType row s with
    | (after, .error e) => (after, .error e)
    | (after, .ok updated) =>
      match importRows env reading importedBy calls masterType (i + 1) rest after with
      | (last, .error e) => (last, .error e)
      | (last, .ok (added, changed)) => (last, .ok (if updated then (added, changed + 1) else (added + 1, changed)))

def importData (env : Environment) (reading : Reading) (importedBy : String) (calls : ℕ → Call) (masterType format : String)
    (content : Document) (s : MasterDataStore) : MasterDataStore × Except ImportError (ℕ × ℕ) :=
  match validateImport env reading masterType format content s with
  | .error e => (s, .error e)
  | .ok report =>
    if 0 < report.invalidRows then (s, .error (.validationFailed report.invalidRows))
    else
      match readRows format content with
      | .ok (.ok rows) => importRows env reading importedBy calls masterType 0 rows.reduceOption s
      | .ok (.error _) => (s, .ok (0, 0))
      | .error e => (s, .error e)

def jsonText : Option String → Json
  | none => .null
  | some word => .str word

end CloudLens.MasterData
