import CloudLens.BulkImport.Model
import CloudLens.Library.Delimited

/-! The parsing of an uploaded file into numbered rows. What the platform makes of bytes
in an encoding and of a text in JSON is given by the codecs. Lines of comment are taken
out before the rest is read, and the rows that are read are counted up from two. -/
namespace CloudLens.BulkImport
open Library Library.Delimited

structure Codecs where
  decodes : String → List UInt8 → Bool
  decode : String → List UInt8 → List Char
  loads : List Char → Except String Json

def detectEncoding (codecs : Codecs) (contentBytes : List UInt8) : String :=
  if [0xef, 0xbb, 0xbf].isPrefixOf contentBytes then "utf-8-sig"
  else if [0xff, 0xfe].isPrefixOf contentBytes || [0xfe, 0xff].isPrefixOf contentBytes then "utf-16"
  else if codecs.decodes "utf-8" contentBytes then "utf-8"
  else if codecs.decodes "cp1252" contentBytes then "cp1252"
  else "latin1"

def isComment (line : Line) : Bool := (Text.strip line).head? = some '#'

def delimiterCandidates : List Char := [',', ';', '\t', '|']

def occurrences (lines : List Line) (delim : Char) : ℕ := (lines.map (List.count delim)).sum

/-- The candidate that occurs most in the first lines, the earlier one on a tie. -/
def detectDelimiter (sampleText : List Char) : Char :=
  let lines := (((splitLines sampleText).map Text.strip).filter (fun line => line ≠ [] && !isComment line)).take 5
  let best := delimiterCandidates.foldl (fun best delim => if occurrences lines best < occurrences lines delim then delim else best) ','
  if 0 < occurrences lines best then best else ','

section Delimited

variable (delimiter : Char)

/-- What is read of a record under the names of the header. A cell that is missing is
null, and a cell without a name is dropped. -/
def dictRow (fieldnames cells : List (List Char)) : Dict (List Char) (Option (List Char)) :=
  Dict.ofPairs (fieldnames.zipIdx.map (fun name => (name.1, cells[name.2]?)))

def cleanedRow (rawDict : Dict (List Char) (Option (List Char))) : Record :=
  Dict.ofPairs (rawDict.items.map (fun item =>
    (String.ofList (Text.strip item.1), item.2.elim .null (fun cell => .str (String.ofList (Text.strip cell))))))

def dictReader : List (List (List Char)) → List (Dict (List Char) (Option (List Char)))
  | [] => []
  | fieldnames :: records => (records.filter (· ≠ [])).map (dictRow fieldnames)

def cleanLines (textContent : List Char) : List Line := (splitLines textContent).filter (fun line => !isComment line)

def parseDelimited (textContent : List Char) : List (ℕ × Record) :=
  ((dictReader (records delimiter (fedLines (cleanLines textContent)))).zipIdx 2).map (fun row => (row.2, cleanedRow row.1))

end Delimited

def jsonRows : ℕ → List Json → Except String (List (ℕ × Record))
  | _, [] => .ok []
  | idx, .obj members :: items => (jsonRows (idx + 1) items).map (fun rows => (idx, Dict.ofPairs members) :: rows)
  | idx, _ :: _ => .error ("JSON row " ++ toString idx ++ " is not an object.")

def importedRows : Json → Except String (List (ℕ × Record))
  | .arr items => jsonRows 1 items
  | _ => .error "JSON import root must be an array of objects."

def parseJson (codecs : Codecs) (textContent : List Char) : Except String (List (ℕ × Record)) :=
  ((codecs.loads textContent).bind importedRows).mapError ("Failed to parse JSON file: " ++ ·)

def isJson (filename : String) (textContent : List Char) : Bool :=
  ".json".toList.isSuffixOf (Text.lower filename).toList ||
    (Text.strip textContent).head? = some '[' && (Text.strip textContent).getLast? = some ']'

structure ParsedFile where
  encoding : String
  format : String
  rows : List (ℕ × Record)

def parseFileContent (codecs : Codecs) (contentBytes : List UInt8) (filename : String) (explicitEncoding : Option String)
    (explicitDelimiter : Option Char) : Except String ParsedFile :=
  let encoding := (explicitEncoding.filter (· ≠ "")).getD (detectEncoding codecs contentBytes)
  let textContent := codecs.decode encoding contentBytes
  if isJson filename textContent then (parseJson codecs textContent).map (fun rows => ⟨encoding,"json",rows⟩)
  else
    let delimiter := explicitDelimiter.getD (detectDelimiter (textContent.take 4096))
    .ok ⟨encoding,String.ofList [delimiter],parseDelimited delimiter textContent⟩

section Numbering

variable {delimiter : Char} {textContent : List Char}

def isRow (line : Line) : Bool := !isComment line && line ≠ []

def numberedLines (textContent : List Char) : List (Line × ℕ) := ((splitLines textContent).zipIdx 1).filter (fun line => !isComment line.1)

def rowsByLine (delimiter : Char) (textContent : List Char) : List (ℕ × Record) :=
  match numberedLines textContent with
  | [] => []
  | header :: lines => (lines.filter (fun line => line.1 ≠ [])).map (fun line =>
      (line.2, cleanedRow (dictRow (lineRecord delimiter header.1) (lineRecord delimiter line.1))))

def NoBreakInCells (delimiter : Char) (textContent : List Char) : Prop :=
  ∀ record ∈ records delimiter (fedLines (cleanLines textContent)), ∀ cell ∈ record, '\n' ∉ cell

/-- The file has no rows, or its first line is the header and the rows come next, before
any comment and any empty line. -/
def RowsFollowHeader (textContent : List Char) : Prop :=
  (∀ line ∈ (cleanLines textContent).tail, line = []) ∨
    ∃ header rows rest, splitLines textContent = header :: (rows ++ rest) ∧ isComment header = false ∧
      (∀ row ∈ rows, isRow row = true) ∧ ∀ line ∈ rest, isRow line = false

theorem fedLines_nonempty (lines : List Line) : ((fedLines lines).map Prod.fst).filter (· ≠ []) = lines.filter (· ≠ []) := by
  induction lines with
  | nil => rfl
  | cons line lines ih =>
    cases lines with
    | nil =>
      unfold fedLines
      by_cases empty : line = []
      · rw [if_pos empty,empty]
        rfl
      · rw [if_neg empty]
        rfl
    | cons next rest =>
      rw [fedLines_cons (List.cons_ne_nil next rest),List.map_cons,List.filter_cons,List.filter_cons,ih]

theorem lineRecord_nonempty (lines : List Line) :
    (lines.map (lineRecord delimiter)).filter (· ≠ []) = (lines.filter (· ≠ [])).map (lineRecord delimiter) := by
  rw [List.filter_map]
  apply congrArg
  apply List.filter_congr
  intro line _
  simp only [Function.comp_apply,ne_eq,lineRecord_eq_nil_iff]

theorem numberedLines_fst : (numberedLines textContent).map Prod.fst = cleanLines textContent := by
  have filtered := List.filter_map (f := (Prod.fst : Line × ℕ → Line)) (p := fun line => !isComment line) (l := (splitLines textContent).zipIdx 1)
  rw [List.zipIdx_map_fst] at filtered
  exact filtered.symm

theorem dictReader_cleanLines (unbroken : NoBreakInCells delimiter textContent) {header : Line} {lines : List Line}
    (clean : cleanLines textContent = header :: lines) : dictReader (records delimiter (fedLines (cleanLines textContent))) =
      (lines.filter (· ≠ [])).map (fun line => dictRow (lineRecord delimiter header) (lineRecord delimiter line)) := by
  have alone : (fedLines (cleanLines textContent)).map (fun item => lineRecord delimiter item.1) =
      ((fedLines (cleanLines textContent)).map Prod.fst).map (lineRecord delimiter) := by
    rw [List.map_map]
    rfl
  rw [records_fedLines _ unbroken,alone,clean]
  cases lines with
  | nil =>
    unfold fedLines
    by_cases empty : header = []
    · rw [if_pos empty]
      rfl
    · rw [if_neg empty]
      rfl
  | cons next rest =>
    rw [fedLines_cons (List.cons_ne_nil next rest),List.map_cons,List.map_cons,dictReader,lineRecord_nonempty,fedLines_nonempty,List.map_map]
    rfl

theorem numbered_iff (unbroken : NoBreakInCells delimiter textContent) : parseDelimited delimiter textContent = rowsByLine delimiter textContent ↔
    ((numberedLines textContent).tail.filter (fun line => line.1 ≠ [])).map Prod.snd =
      List.range' 2 (((numberedLines textContent).tail.filter (fun line => line.1 ≠ [])).map Prod.snd).length := by
  have clean := @numberedLines_fst textContent
  unfold parseDelimited rowsByLine
  cases numbered : numberedLines textContent with
  | nil =>
    rw [numbered] at clean
    rw [← clean]
    exact iff_of_true rfl rfl
  | cons header lines =>
    rw [numbered,List.map_cons] at clean
    rw [dictReader_cleanLines unbroken clean.symm,List.tail_cons]
    have data : (lines.map Prod.fst).filter (· ≠ []) = (lines.filter (fun line => line.1 ≠ [])).map Prod.fst := List.filter_map
    rw [data,List.map_map,List.zipIdx_map,List.map_map]
    exact enumerated_eq_iff (f := fun line => cleanedRow (dictRow (lineRecord delimiter header.1) (lineRecord delimiter line.1))) (g := Prod.snd)

theorem cleanLines_split (textContent : List Char) : cleanLines textContent = [] ∨ ∃ front header rest,
    splitLines textContent = front ++ header :: rest ∧ (∀ line ∈ front, isComment line = true) ∧ isComment header = false := by
  have whole := (List.takeWhile_append_dropWhile (p := isComment) (l := splitLines textContent)).symm
  cases kept : (splitLines textContent).dropWhile isComment with
  | nil =>
    left
    rw [kept,List.append_nil] at whole
    unfold cleanLines
    rw [List.filter_eq_nil_iff]
    intro line member
    rw [whole] at member
    rw [List.mem_takeWhile_imp member]
    exact Bool.false_ne_true
  | cons header rest =>
    right
    rw [kept] at whole
    refine ⟨_,header,rest,whole,fun line member => List.mem_takeWhile_imp member,?_⟩
    have first := List.head_dropWhile_not isComment (l := splitLines textContent) (by rw [kept]; exact List.cons_ne_nil _ _)
    simpa only [kept,List.head_cons] using first

section Split

variable {front rest : List Line} {header : Line}

theorem numberedLines_split (split : splitLines textContent = front ++ header :: rest) (comments : ∀ line ∈ front, isComment line = true)
    (named : isComment header = false) : numberedLines textContent =
      (header, front.length + 1) :: (rest.zipIdx (front.length + 2)).filter (fun line => !isComment line.1) := by
  have dropped : (front.zipIdx 1).filter (fun line => !isComment line.1) = [] := by
    rw [List.filter_eq_nil_iff]
    rintro ⟨line,n⟩ member
    rw [comments line (List.fst_mem_of_mem_zipIdx member)]
    exact Bool.false_ne_true
  unfold numberedLines
  rw [split,List.zipIdx_append,List.filter_append,dropped,List.nil_append,List.zipIdx_cons,List.filter_cons_of_pos]
  · rw [Nat.add_comm 1,Nat.add_assoc]
  · rw [named]
    rfl

theorem numbers_split (split : splitLines textContent = front ++ header :: rest) (comments : ∀ line ∈ front, isComment line = true)
    (named : isComment header = false) : ((numberedLines textContent).tail.filter (fun line => line.1 ≠ [])).map Prod.snd =
      numbersFrom isRow (front.length + 2) rest := by
  rw [numberedLines_split split comments named,List.tail_cons,List.filter_filter,← numbersFrom_filter]
  apply congrArg
  apply List.filter_congr
  intro line _
  unfold isRow
  rw [Bool.and_comm]

theorem no_rows_split (split : splitLines textContent = front ++ header :: rest) (comments : ∀ line ∈ front, isComment line = true)
    (named : isComment header = false) : (∀ line ∈ (cleanLines textContent).tail, line = []) ↔ numbersFrom isRow (front.length + 2) rest = [] := by
  have clean : cleanLines textContent = header :: rest.filter (fun line => !isComment line) := by
    rw [← numberedLines_fst,numberedLines_split split comments named,List.map_cons]
    have filtered := List.filter_map (f := (Prod.fst : Line × ℕ → Line)) (p := fun line => !isComment line) (l := rest.zipIdx (front.length + 2))
    rw [List.zipIdx_map_fst] at filtered
    rw [filtered]
    rfl
  rw [clean,List.tail_cons,numbersFrom_eq_nil_iff]
  simp only [List.mem_filter,Bool.not_eq_true',isRow,Bool.and_eq_false_iff,Bool.not_eq_false',decide_eq_false_iff_not,not_not]
  constructor
  · intro empty line member
    by_cases comment : isComment line = true
    · exact Or.inl comment
    · exact Or.inr (empty line ⟨member,Bool.eq_false_iff.mpr comment⟩)
  · rintro idle line ⟨member,plain⟩
    exact (idle line member).resolve_left (by rw [plain]; exact Bool.false_ne_true)

theorem numbers_range_iff (comments : ∀ line ∈ front, isComment line = true)
    (some : numbersFrom isRow (front.length + 2) rest ≠ []) :
    numbersFrom isRow (front.length + 2) rest = List.range' 2 (numbersFrom isRow (front.length + 2) rest).length ↔
      front = [] ∧ ∃ rows others, rest = rows ++ others ∧ (∀ row ∈ rows, isRow row = true) ∧ ∀ line ∈ others, isRow line = false := by
  constructor
  · intro same
    have least : front = [] := by
      obtain ⟨first,numbers,shape⟩ := List.exists_cons_of_ne_nil some
      have late := @numbersFrom_ge _ isRow (front.length + 2) _ rest (shape ▸ List.mem_cons_self)
      rw [shape,List.length_cons,List.range'_succ,List.cons.injEq] at same
      exact List.eq_nil_of_length_eq_zero (by omega)
    rw [least] at same
    exact ⟨least,numbersFrom_eq_range_iff.mp same⟩
  · rintro ⟨rfl,follow⟩
    exact numbersFrom_eq_range_iff.mpr follow

end Split

theorem parseDelimited_eq_iff (unbroken : NoBreakInCells delimiter textContent) :
    parseDelimited delimiter textContent = rowsByLine delimiter textContent ↔ RowsFollowHeader textContent := by
  rw [numbered_iff unbroken]
  rcases cleanLines_split textContent with none | ⟨front,header,rest,split,comments,named⟩
  · have numbered : numberedLines textContent = [] := List.map_eq_nil_iff.mp (numberedLines_fst.trans none)
    rw [numbered]
    refine iff_of_true rfl (Or.inl ?_)
    rw [none]
    exact fun line member => by cases member
  · rw [numbers_split split comments named,RowsFollowHeader,no_rows_split split comments named]
    by_cases idle : numbersFrom isRow (front.length + 2) rest = []
    · rw [idle]
      exact iff_of_true rfl (Or.inl rfl)
    · rw [numbers_range_iff comments idle]
      constructor
      · rintro ⟨rfl,rows,others,rfl,all,rest⟩
        exact Or.inr ⟨header,rows,others,split,named,all,rest⟩
      · rintro (none | ⟨first,rows,others,lines,plain,all,rest⟩)
        · exact absurd none idle
        · rw [split] at lines
          cases front with
          | nil =>
            rw [List.nil_append,List.cons.injEq] at lines
            exact ⟨rfl,rows,others,lines.2,all,rest⟩
          | cons comment front =>
            rw [List.cons_append,List.cons.injEq] at lines
            rw [← lines.1,comments comment List.mem_cons_self] at plain
            cases plain

end Numbering

section Uploads

structure Upload where
  codecs : Codecs
  contentBytes : List UInt8
  filename : String
  explicitEncoding : Option String
  explicitDelimiter : Option Char

namespace Upload

variable (upload : Upload)

def parsed : Except String ParsedFile :=
  parseFileContent upload.codecs upload.contentBytes upload.filename upload.explicitEncoding upload.explicitDelimiter

def textContent : List Char :=
  upload.codecs.decode ((upload.explicitEncoding.filter (· ≠ "")).getD (detectEncoding upload.codecs upload.contentBytes)) upload.contentBytes

def delimiter : Char := upload.explicitDelimiter.getD (detectDelimiter (upload.textContent.take 4096))

def Delimited : Prop := isJson upload.filename upload.textContent = false ∧ NoBreakInCells upload.delimiter upload.textContent

def Numbered : Prop := upload.Delimited → ∀ file, upload.parsed = .ok file → file.rows = rowsByLine upload.delimiter upload.textContent

def InOrder : Prop := upload.Delimited → RowsFollowHeader upload.textContent

variable {upload}

theorem parsed_of_delimited (delimited : upload.Delimited) : ∃ file, upload.parsed = .ok file ∧
    file.rows = parseDelimited upload.delimiter upload.textContent := by
  refine ⟨_,if_neg ?_,rfl⟩
  exact Bool.eq_false_iff.mp delimited.1

theorem numbered_iff_inOrder : upload.Numbered ↔ upload.InOrder := by
  apply forall_congr'
  intro delimited
  obtain ⟨file,parsed,rows⟩ := parsed_of_delimited delimited
  rw [← parseDelimited_eq_iff delimited.2,← rows,parsed]
  exact ⟨fun numbered => numbered file rfl,fun same other held => by cases held; exact same⟩

end Upload

end Uploads

end CloudLens.BulkImport
