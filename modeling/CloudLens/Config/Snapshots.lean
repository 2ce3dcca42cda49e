import CloudLens.Library.Dict
import CloudLens.Library.JsonReading
import CloudLens.Library.Sha256
import CloudLens.Library.Table

/-! The configuration snapshots that carry master data from one environment to the
next: a bundle is exported from the seed files of a directory, compared with another
bundle, and written into the files of a target directory, one after the other. -/
namespace CloudLens.Config
open Library

structure Master where
  value : JsonValue
  proper : JsonText.Proper value

structure FileName where
  stem : String
  plain : '/' ∉ stem.toList
  deriving DecidableEq

/-- A directory of seed files; one that cannot be read as JSON holds nothing. -/
abbrev SeedFiles : Type := Table FileName (Option Master)

abbrev Masters : Type := Dict String Master

structure Snapshot where
  schemaVersion : String
  versionLabel : String
  environment : String
  bundleSha256 : Option String
  mastersCount : ℕ
  masters : Masters

def dumpsMasters (masters : Masters) : List Char := JsonText.dumps (masters.items.map (fun item => (item.1, item.2.value)))

def bundleHash (masters : Masters) : String := String.ofList (Sha256.textDigest (dumpsMasters masters))

def seedFilesInOrder (files : SeedFiles) : List (Σ _ : FileName, Option Master) :=
  files.entries.insertionSort (fun a b => a.1.stem ++ ".json" ≤ b.1.stem ++ ".json")

def readableMasters (files : SeedFiles) : List (String × Master) :=
  (seedFilesInOrder files).filterMap (fun file => file.2.map (fun data => (file.1.stem, data)))

def exportSnapshot (schemaVersion : String) (files : SeedFiles) (environment versionLabel : String) : Snapshot :=
  let masters := Dict.ofPairs (readableMasters files)
  ⟨schemaVersion,versionLabel,environment,some (bundleHash masters),masters.items.length,masters⟩

structure Modification where
  recordsBefore : ℕ
  recordsAfter : ℕ
  delta : ℤ

structure Difference where
  hasDifferences : Bool
  totalDifferencesCount : ℕ
  sourceEnv : String
  targetEnv : String
  addedMasters : List String
  removedMasters : List String
  modifiedMasters : List (String × Modification)

def Master.records (master : Master) : ℕ :=
  match master.value with
  | .list items => items.length
  | _ => 1

def modification (before after : Master) : Option Modification :=
  if JsonText.dumpsValue before.value = JsonText.dumpsValue after.value then none
  else some ⟨before.records,after.records,(after.records : ℤ) - before.records⟩

section Comparison

variable (a b : Masters)

def allKeys : List String := Text.sortedNames (a.keys.toFinset ∪ b.keys.toFinset)

def addedMasters : List String := (allKeys a b).filter (fun k => (a.get k).isNone)

def removedMasters : List String := (allKeys a b).filter (fun k => (a.get k).isSome && (b.get k).isNone)

def modifiedMasters : List (String × Modification) :=
  (allKeys a b).filterMap (fun k =>
    match a.get k, b.get k with
    | some before, some after => (modification before after).map (Prod.mk k)
    | _, _ => none)

end Comparison

def diffSnapshots (a b : Snapshot) : Difference :=
  let added := addedMasters a.masters b.masters
  let removed := removedMasters a.masters b.masters
  let modified := modifiedMasters a.masters b.masters
  let total := added.length + removed.length + modified.length
  ⟨0 < total,total,a.environment,b.environment,added,removed,modified⟩

/-- Where the file system puts the file of a master's name: under a stem of the target directory
itself, or elsewhere. A name without a slash is a stem. -/
structure Resolver where
  directly : String → Option FileName
  plain : ∀ file : FileName, directly file.stem = some file

/-- The write that fails, counted from the first. It is torn when the file is open already. -/
structure Fault where
  index : ℕ
  torn : Bool

/-- The target directory and the names whose files went elsewhere. -/
structure Disk where
  target : SeedFiles
  elsewhere : List String

def Disk.write (r : Resolver) (disk : Disk) (name : String) (content : Option Master) : Disk :=
  match r.directly name with
  | some file => { disk with target := disk.target.upsert (fun _ proposed => proposed) file content }
  | none => { disk with elsewhere := name :: disk.elsewhere }

def attempted : Option Fault → List (String × Master) → List (String × Option Master)
  | _, [] => []
  | some ⟨0,torn⟩, (name, _) :: _ => if torn then [(name, none)] else []
  | some ⟨index + 1,torn⟩, (name, records) :: rest => (name, some records) :: attempted (some ⟨index,torn⟩) rest
  | none, (name, records) :: rest => (name, some records) :: attempted none rest

def Disk.writeAll (r : Resolver) (disk : Disk) (writes : List (String × Option Master)) : Disk :=
  writes.foldl (fun current write => current.write r write.1 write.2) disk

inductive ImportError
  | emptyMasters
  | hashMismatch (expected actual : String)
  | writeFailed (name : String)

structure ImportReport where
  dryRun : Bool
  schemaVersion : String
  importedMastersCount : ℕ
  importedFiles : List String
  bundleSha256 : String

def failedWrite (fault : Option Fault) (masters : Masters) : Option String :=
  fault.bind (fun f => masters.keys[f.index]?)

def sealRefused (snapshot : Snapshot) : Option String :=
  snapshot.bundleSha256.filter (fun expected => expected ≠ "" && expected ≠ bundleHash snapshot.masters)

def importSnapshot (r : Resolver) (snapshot : Snapshot) (dryRun : Bool) (fault : Option Fault) (disk : Disk) :
    Disk × Except ImportError ImportReport :=
  let masters := snapshot.masters
  let actualHash := bundleHash masters
  let report : ImportReport := ⟨dryRun,snapshot.schemaVersion,masters.items.length,masters.keys,actualHash⟩
  if masters.items = [] then (disk, .error .emptyMasters)
  else
    match sealRefused snapshot with
    | some expected => (disk, .error (.hashMismatch expected actualHash))
    | none =>
      if dryRun then (disk, .ok report)
      else
        let after := disk.writeAll r (attempted fault masters.items)
        match failedWrite fault masters with
        | some name => (after, .error (.writeFailed name))
        | none => (after, .ok report)

end CloudLens.Config
