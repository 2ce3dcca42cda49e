import CloudLens.Library.Casing
import CloudLens.Library.Decimal
import CloudLens.Library.Table
import CloudLens.Pricing.Model
import Mathlib.Data.List.Sort

/-! The pricing catalogue: one row for every version of a rate, with the record
kept beside the columns as a payload that readers prefer. A call runs in one
transaction, so a failure leaves the tables as they were. The change record of a
new version is built from keyword arguments, which its model checks by name. -/
namespace CloudLens.Pricing
open Library Library.Calendar

def RateType.value : RateType → String
  | .list => "LIST"
  | .contracted => "CONTRACTED"
  | .promotional => "PROMOTIONAL"
  | .override => "OVERRIDE"

structure PriceKey where
  tenantId : Option String
  provider : String
  sku : String
  region : String
  pricingDimension : String
  rateType : String
  deriving DecidableEq

structure PriceRow where
  key : PriceKey
  currency : String
  unit : String
  effectiveFrom : Instant
  effectiveTo : Option Instant
  isActive : Bool
  rate : ℚ
  attributes : Option PricingRecord

inductive ChangeField where
  | text (value : Option String)
  | number (value : ℚ)
  | count (value : ℕ)
  | moment (value : Instant)

inductive KeywordProblem where
  | missing (name : String)
  | extraForbidden (name : String)
  deriving DecidableEq

def changeRecordFields : List String :=
  ["id", "tenant_id", "provider", "service", "service_sku", "region", "pricing_dimension", "rate_type", "old_unit_price",
    "new_unit_price", "absolute_change", "percentage_change", "effective_from", "detected_at", "source", "notes"]

def changeRecordRequired : List String :=
  ["provider", "service", "region", "pricing_dimension", "rate_type", "old_unit_price", "new_unit_price", "absolute_change",
    "percentage_change", "effective_from", "source"]

def keywordProblems (supplied : List String) : List KeywordProblem :=
  (changeRecordRequired.filter (fun name => name ∉ supplied)).map .missing ++
    (supplied.filter (fun name => name ∉ changeRecordFields)).map .extraForbidden

structure PricingChangeRecord where
  arguments : List (String × ChangeField)
  accepted : keywordProblems (arguments.map Prod.fst) = []

inductive CatalogueError where
  | scdConflict (effectiveFrom activeFrom : Instant) (serviceSku : Option String)
  | invalidRecord
  | invalidChange (problems : List KeywordProblem)
  | duplicateId (id : String)
  | rowSecurity
  | columnOverflow

def PricingChangeRecord.construct (arguments : List (String × ChangeField)) : Except CatalogueError PricingChangeRecord :=
  if accepted : keywordProblems (arguments.map Prod.fst) = [] then .ok ⟨arguments,accepted⟩
  else .error (.invalidChange (keywordProblems (arguments.map Prod.fst)))

structure PricingDb where
  records : Table String PriceRow
  changes : List PricingChangeRecord

def isEffectiveOn (record : PricingRecord) (queryDate : Instant) : Bool :=
  record.effectiveFrom ≤ queryDate && record.effectiveTo.all (fun effectiveTo => queryDate < effectiveTo)

def keyFor (tenantId : Option String) (provider : String) (sku : Option String) (region dimension : String)
    (rateType : RateType) : PriceKey where
  tenantId := tenantId
  provider := Text.lower (Text.stripped provider)
  sku := Text.lower (Text.stripped (sku.getD ""))
  region := Text.lower (Text.stripped region)
  pricingDimension := Text.upper (Text.stripped dimension)
  rateType := rateType.value

def keyOf (record : PricingRecord) : PriceKey :=
  keyFor record.tenantId record.provider record.serviceSku record.region record.pricingDimension record.rateType

/-- The tenant setting of a session: the placeholder tenant and no tenant leave it empty. -/
def sessionTenant (tenantId : Option String) : String :=
  match tenantId with
  | some tenant => if tenant = "anonymous" then "" else tenant
  | none => ""

def passesPolicy (session : Option String) (tenantId : Option String) : Bool :=
  tenantId.all (fun tenant => tenant = sessionTenant session)

def storedRate (unitPrice : ℚ) : ℚ := Decimal.roundHalfAway (unitPrice * 10^6) / 10^6

def fitsColumns (id : String) (row : PriceRow) : Bool :=
  id.length ≤ 64 && row.key.tenantId.all (fun tenant => tenant.length ≤ 64) && row.key.provider.length ≤ 16 &&
    row.key.sku.length ≤ 255 && row.key.region.length ≤ 64 && row.key.pricingDimension.length ≤ 64 &&
    row.currency.length ≤ 3 && row.unit.length ≤ 64 && row.rate < 10^12

def rowFor (record : PricingRecord) : PriceRow where
  key := keyOf record
  currency := record.currency
  unit := if record.unit = "" then "Hour" else record.unit
  effectiveFrom := record.effectiveFrom
  effectiveTo := record.effectiveTo
  isActive := true
  rate := storedRate record.unitPrice
  attributes := some record

/-- A row without a payload lacks fields that the record requires. -/
def rowToRecord (row : PriceRow) : Except CatalogueError PricingRecord :=
  match row.attributes with
  | some record => .ok record
  | none => .error .invalidRecord

def insertRow (session : Option String) (id : String) (row : PriceRow) (records : Table String PriceRow) :
    Except CatalogueError (Table String PriceRow) :=
  if fitsColumns id row = false then .error .columnOverflow
  else if passesPolicy session row.key.tenantId = false then .error .rowSecurity
  else match records.lookup id with
    | some _ => .error (.duplicateId id)
    | none => .ok (records.upsert (fun _ proposed => proposed) id row)

def updateRow (session : Option String) (id : String) (change : PriceRow → PriceRow) (records : Table String PriceRow) :
    Table String PriceRow :=
  match records.lookup id with
  | some row =>
    if passesPolicy session row.key.tenantId then records.upsert (fun _ proposed => proposed) id (change row) else records
  | none => records

def activeRows (session : Option String) (key : PriceKey) (records : Table String PriceRow) : List (Σ _ : String, PriceRow) :=
  records.selectWhere (fun _ row => passesPolicy session row.key.tenantId && (row.key = key) && row.isActive)

def firstVersion (record : PricingRecord) : PricingRecord :=
  { record with version := 1, isActive := true, effectiveTo := none, versionPositive := firstVersion_positive }

def nextVersion (active record : PricingRecord) : PricingRecord :=
  { record with version := active.version + 1, isActive := true, effectiveTo := none, versionPositive := Nat.le_add_left 1 _ }

def refreshed (active record : PricingRecord) : PricingRecord := { active with retrievedAt := record.retrievedAt }

def pricingChanged (active record : PricingRecord) : Bool :=
  active.unitPrice ≠ record.unitPrice || active.tier ≠ record.tier || active.freeAllowance ≠ record.freeAllowance

def changeArguments (active new : PricingRecord) : List (String × ChangeField) :=
  let absDiff := Decimal.quantize 6 (new.unitPrice - active.unitPrice)
  [("tenant_id", .text new.tenantId),
    ("provider", .text (some new.provider)),
    ("sku", .text new.serviceSku),
    ("region", .text (some new.region)),
    ("dimension", .text (some new.pricingDimension)),
    ("rate_type", .text (some new.rateType.value)),
    ("old_version", .count active.version),
    ("new_version", .count new.version),
    ("old_unit_price", .number active.unitPrice),
    ("new_unit_price", .number new.unitPrice),
    ("price_delta", .number absDiff),
    ("percentage_change", .number (if 0 < active.unitPrice then Decimal.quantize 4 (absDiff / active.unitPrice * 100) else 0)),
    ("effective_date", .moment new.effectiveFrom),
    ("change_type", .text (some (if active.unitPrice < new.unitPrice then "INCREASE" else "DECREASE")))]

structure UpdateOutcome where
  db : PricingDb
  record : PricingRecord
  change : Option PricingChangeRecord

def addFirst (db : PricingDb) (record : PricingRecord) : Except CatalogueError UpdateOutcome :=
  (insertRow record.tenantId record.id (rowFor (firstVersion record)) db.records).map
    (fun records => ⟨{ db with records := records },firstVersion record,none⟩)

def refresh (db : PricingDb) (active record : PricingRecord) : UpdateOutcome :=
  let kept := refreshed active record
  ⟨{ db with records := updateRow record.tenantId kept.id (fun row => { row with attributes := some kept }) db.records },kept,none⟩

def supersede (db : PricingDb) (active record : PricingRecord) : Except CatalogueError UpdateOutcome := do
  if record.effectiveFrom < active.effectiveFrom then
    throw (.scdConflict record.effectiveFrom active.effectiveFrom record.serviceSku)
  let closed := updateRow record.tenantId active.id
    (fun row => { row with isActive := false, effectiveTo := some record.effectiveFrom }) db.records
  let new := nextVersion active record
  let records ← insertRow record.tenantId new.id (rowFor new) closed
  let change ← PricingChangeRecord.construct (changeArguments active new)
  return ⟨⟨records,db.changes ++ [change]⟩,new,some change⟩

def addOrUpdate (db : PricingDb) (record : PricingRecord) : Except CatalogueError UpdateOutcome :=
  match activeRows record.tenantId (keyOf record) db.records with
  | [] => addFirst db record
  | ⟨_,row⟩ :: _ => do
    let active ← rowToRecord row
    if pricingChanged active record then supersede db active record else return refresh db active record

def RanksBefore (a b : PriceRow) : Prop :=
  (a.key.tenantId.isSome = true ∧ b.key.tenantId.isSome = false) ∨
    (a.key.tenantId.isSome = b.key.tenantId.isSome ∧ b.effectiveFrom ≤ a.effectiveFrom)

instance : DecidableRel RanksBefore := fun a b =>
  inferInstanceAs (Decidable ((a.key.tenantId.isSome = true ∧ b.key.tenantId.isSome = false) ∨
    (a.key.tenantId.isSome = b.key.tenantId.isSome ∧ b.effectiveFrom ≤ a.effectiveFrom)))

def coversTimestamp (key : PriceKey) (timestamp : Instant) (row : PriceRow) : Bool :=
  passesPolicy key.tenantId row.key.tenantId && (row.key = key || row.key = { key with tenantId := none }) &&
    row.effectiveFrom ≤ timestamp && row.effectiveTo.all (fun effectiveTo => timestamp < effectiveTo)

def rateAt (db : PricingDb) (key : PriceKey) (timestamp : Instant) : Except CatalogueError (Option PricingRecord) :=
  match (((db.records.selectWhere (fun _ row => coversTimestamp key timestamp row)).map Sigma.snd).insertionSort RanksBefore).head? with
  | none => .ok none
  | some row => (rowToRecord row).map some

def getRateAtTimestamp (db : PricingDb) (provider : String) (sku : Option String) (region dimension : String)
    (timestamp : Instant) (rateType : RateType) (tenantId : Option String) : Except CatalogueError (Option PricingRecord) :=
  rateAt db (keyFor tenantId provider sku region dimension rateType) timestamp

end CloudLens.Pricing
