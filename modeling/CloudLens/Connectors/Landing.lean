import CloudLens.Connectors.Breaker
import CloudLens.Library.Document
import CloudLens.Library.Sha256
import CloudLens.Library.Casing
import Mathlib.Logic.Function.Basic

/-! Landing raw payloads: the tenant's object store under one key, the bucket
`raw-landing` under another, and the metadata row that describes the payload.
Objects are bytes under resolved keys; `dumps` is `json.dumps` with sorted keys. -/
namespace CloudLens.Connectors
open Library

abbrev Bytes : Type := List ℕ

inductive StorageError
  | emptyKey
  | directoryTraversal
  | nullByte
  | crossTenant (specified : String)
  | io (error : String)

def dropSlashes (word : List Char) : List Char := (word.dropWhile (· = '/')).rdropWhile (· = '/')

def sanitizeAndResolveKey (tenant raw : String) : Except StorageError String :=
  let clean := (Text.strip raw.toList).map (fun c => if c = '\\' then '/' else c)
  if clean = [] then .error .emptyKey
  else if "/../".toList <:+: '/' :: clean ++ ['/'] ∨ "../".toList <+: clean ∨ "/..".toList <:+ clean then
    .error .directoryTraversal
  else if '\x00' ∈ clean then .error .nullByte
  else
    let parts := Text.splitOn '/' clean
    let prefixed := "tenants/".toList <+: clean
    if prefixed ∧ parts.tail.head? ≠ some tenant.toList then
      .error (.crossTenant (String.ofList (parts.tail.head?.getD [])))
    else
      let own := dropSlashes (if prefixed then (parts.drop 2).intersperse ['/'] |>.flatten else clean)
      if own = [] then .error .emptyKey else .ok ("tenants/" ++ tenant ++ "/" ++ String.ofList own)

structure RawLandingRecord where
  landingId : String
  tenantId : String
  connectorId : String
  runId : String
  capability : ConnectorCapability
  schemaVersion : String
  storagePath : String
  sha256Checksum : List Char
  byteSize : ℕ
  recordCount : ℕ
  deriving DecidableEq

structure Storage where
  objects : String → Option Bytes
  bucket : String → Option Bytes
  rows : List RawLandingRecord

/-- One call: its arguments, the readings of its clock and its fresh id, and how
the stores and the database answer it. -/
structure LandingCall where
  tenantId : String
  connectorId : String
  runId : String
  capability : ConnectorCapability
  pageNumber : ℤ
  rawPayload : Json
  schemaVersion : String
  dataset : Option String
  period : Option String
  landingId : String
  month : String
  putError : Option String
  uploaded : Bool
  databaseError : Option String
  requireRealdb : Bool

inductive LandingError
  | missingTenantContext
  | serialization (error : String)
  | immutable (key : String)
  | storage (error : StorageError)
  | database (error : String)

def recordCount (rawPayload : Json) : ℕ :=
  match rawPayload with
  | .arr items => items.length
  | .obj members =>
    let held := fun name => ((members.find? (fun member => member.1 = name)).map Prod.snd).getD .null
    let items := if (held "items").truthy then held "items"
      else if (held "records").truthy then held "records" else held "data"
    match items with
    | .arr items => items.length
    | _ => 1
  | _ => 0

def orElseText (given : Option String) (otherwise : String) : String :=
  match given with
  | some text => if text = "" then otherwise else text
  | none => otherwise

namespace LandingCall

variable (call : LandingCall)

def effDataset : String :=
  let named := (Text.lower call.capability.value).toList
  orElseText call.dataset
    (if "cost".toList <:+: named then "cost"
    else if "inventory".toList <:+: named ∨ "resource".toList <:+: named then "inventory"
    else (Text.lower call.capability.value))

def effPeriod : String := orElseText call.period call.month

def minioKey : String :=
  call.tenantId ++ "/" ++ call.connectorId ++ "/" ++ call.effDataset ++ "/" ++ call.effPeriod ++ "/run_" ++ call.runId ++
    "_page_" ++ toString call.pageNumber ++ ".json"

def fullStoragePath : String := "raw-landing/" ++ call.minioKey

def relativeKey : String :=
  "landings/" ++ call.connectorId ++ "/" ++ call.capability.value ++ "/" ++ call.runId ++ "/page_" ++
    toString call.pageNumber ++ ".json"

def landingRecord (payload : Bytes) : RawLandingRecord where
  landingId := call.landingId
  tenantId := call.tenantId
  connectorId := call.connectorId
  runId := call.runId
  capability := call.capability
  schemaVersion := call.schemaVersion
  storagePath := call.fullStoragePath
  sha256Checksum := Sha256.hexdigest payload
  byteSize := payload.length
  recordCount := recordCount call.rawPayload

end LandingCall

def putObject (s : Storage) (tenant key : String) (payload : Bytes) (failure : Option String) : Except StorageError Storage := do
  let resolved ← sanitizeAndResolveKey tenant key
  match failure with
  | some error => .error (.io error)
  | none => .ok { s with objects := Function.update s.objects resolved (some payload) }

/-- `object_exists` and `get_object`; a key that does not resolve holds nothing. -/
def existingObject (s : Storage) (tenant key : String) : Option Bytes :=
  match sanitizeAndResolveKey tenant key with
  | .ok resolved => s.objects resolved
  | .error _ => none

/-- `upload_to_minio_s3`, whose failures are only logged. -/
def uploadToMinio (s : Storage) (path : String) (payload : Bytes) (uploaded : Bool) : Storage :=
  if uploaded then { s with bucket := Function.update s.bucket path (some payload) } else s

/-- INSERT INTO raw_landings .. ON CONFLICT (id) DO NOTHING. -/
def insertLanding (s : Storage) (record : RawLandingRecord) : Storage :=
  if record.landingId ∈ s.rows.map RawLandingRecord.landingId then s else { s with rows := s.rows ++ [record] }

section Landing

variable (dumps : Json → Except String (List Char))

def landRawPayload (s : Storage) (call : LandingCall) : Storage × Except LandingError RawLandingRecord :=
  if call.tenantId = "" then (s, .error .missingTenantContext)
  else match dumps call.rawPayload with
    | .error error => (s, .error (.serialization error))
    | .ok text =>
      let payload := Sha256.encode text
      if existingObject s call.tenantId call.relativeKey ≠ none ∧
          existingObject s call.tenantId call.relativeKey ≠ some payload then
        (s, .error (.immutable call.relativeKey))
      else match putObject s call.tenantId call.relativeKey payload call.putError with
        | .error error => (s, .error (.storage error))
        | .ok written =>
          let landed := uploadToMinio written call.fullStoragePath payload call.uploaded
          let record := call.landingRecord payload
          match call.databaseError with
          | none => (insertLanding landed record, .ok record)
          | some error => if call.requireRealdb then (landed, .error (.database error)) else (landed, .ok record)

end Landing

end CloudLens.Connectors
