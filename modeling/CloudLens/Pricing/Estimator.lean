import CloudLens.Attribution.Model
import CloudLens.Library.Dict
import CloudLens.Pricing.Calculation

/-! The estimator: what a service will cost before it is deployed. Its usage is
priced first, and without a price for that the estimate is unknown. What the
request asks for beside it is priced as far as the catalogue has a price, and
left out where it has none. -/
namespace CloudLens.Pricing
open Attribution (PricingStatus)
open Cost Library Library.Calendar

inductive RuntimeScheduleType where
  | continuous247
  | businessHours8x5
  | customHours
  | fractionalMonth
  deriving DecidableEq

inductive CostCategoryType where
  | compute
  | storage
  | network
  | database
  | backup
  | licensing
  | other
  deriving DecidableEq

structure PreDeploymentEstimateRequest where
  provider : String
  service : String
  region : String
  instanceType : Option String
  storageGb : ℚ
  storageType : Option String
  publicIp : Bool
  dataTransferOutGb : ℚ
  runtimeScheduleType : RuntimeScheduleType
  customRuntimeHours : Option ℚ
  databaseEngine : Option String
  backupStorageGb : ℚ
  targetCurrency : String
  tenantId : Option String
  providerGiven : provider ≠ ""
  serviceGiven : service ≠ ""
  regionGiven : region ≠ ""
  storageNonneg : 0 ≤ storageGb
  transferNonneg : 0 ≤ dataTransferOutGb
  hoursBounded : ∀ hours ∈ customRuntimeHours, 0 ≤ hours ∧ hours ≤ 744
  backupNonneg : 0 ≤ backupStorageGb
  currencyLength : targetCurrency.length = 3

inductive Detail where
  | number (value : ℚ)
  | text (value : Option String)
  | flag (value : Bool)
  deriving DecidableEq

structure CostDriverComponent where
  category : CostCategoryType
  name : String
  monthlyCost : EstimatedCost
  percentageOfTotal : ℚ
  derivation : CostDerivation
  drillableDetails : List (String × Detail)
  percentageNonneg : 0 ≤ percentageOfTotal
  percentageBounded : percentageOfTotal ≤ 100

structure PreDeploymentEstimateResult where
  provider : String
  service : String
  region : String
  currency : String
  pricingStatus : PricingStatus
  hourlyCost : EstimatedCost
  dailyCost : EstimatedCost
  monthlyCost : EstimatedCost
  annualisedCost : EstimatedCost
  costDrivers : List CostDriverComponent
  overallDerivation : CostDerivation
  unavailabilityReason : Option String
  lastKnownPricingDate : Option Instant

inductive EstimateError where
  | calculation (error : CalculationError)
  | shareOutOfBounds (percentage : ℚ)

structure PriceQuery where
  provider : String
  service : String
  serviceSku : Option String
  region : String
  pricingDimension : String
  tenantId : Option String
  deriving DecidableEq

/-- The catalogue: the quote for a query or the text of its refusal, and the time
from which the newest record of a provider, a service and a region is effective. -/
structure PricingService where
  resolvePriceAtDate : PriceQuery → Except String ResolvedPriceQuote
  latestRecord : String → String → String → Option Instant

def rule9MissingData (pricingFound : Bool) (provider service : String) (sku : Option String) (region : String) :
    PricingStatus × Option String :=
  if pricingFound then (.paid, none)
  else (.unknown, some ("Pricing record not available for provider='" ++ provider ++ "', service='" ++ service ++ "', sku='" ++
    (sku.filter (· ≠ "")).getD "default" ++ "' in region='" ++ region ++ "'. Pre-deployment estimate cannot assume 0.00."))

def rule11RuntimeSchedule (scheduleType : RuntimeScheduleType) (customHours : Option ℚ) (daysInMonth : ℕ) : ℚ :=
  match scheduleType with
  | .businessHours8x5 => 1733333/10000
  | .customHours => (customHours.filter (0 ≤ ·)).getD 730
  | .fractionalMonth => (min 30 (max 1 daysInMonth) * 24 : ℕ)
  | .continuous247 => 730

structure DriverData where
  category : CostCategoryType
  name : String
  amount : ℚ
  derivation : CostDerivation
  details : List (String × Detail)

def driverShare (total amount : ℚ) : ℚ := if 0 < total then roundCurrency (amount / total * 100) else 0

def driverComponent (total : ℚ) (currency : String) (driver : DriverData) : Except EstimateError CostDriverComponent :=
  let pct := driverShare total driver.amount
  if bounded : 0 ≤ pct ∧ pct ≤ 100 then
    .ok
      { category := driver.category
        name := driver.name
        monthlyCost :=
          { amount := roundCurrency driver.amount
            currency := currency
            pricingRecordId := "driver-" ++ (Text.lower driver.name).map (fun c => if c = ' ' then '-' else c)
            pricingSource := driver.derivation.pricingSource
            usageQuantity := driver.derivation.quantityConsumed
            usageUnit := driver.derivation.unit }
        percentageOfTotal := pct
        derivation := driver.derivation
        drillableDetails := driver.details
        percentageNonneg := bounded.1
        percentageBounded := bounded.2 }
  else .error (.shareOutOfBounds pct)

def rule12CostDriverDecomposition (drivers : List DriverData) (currency : String) :
    Except EstimateError (List CostDriverComponent) :=
  drivers.mapM (driverComponent (drivers.map DriverData.amount).sum currency)

structure Unavailable where
  reason : String
  lastDate : Option Instant

def resolveSafeQuote (pricing : PricingService) (query : PriceQuery) : Except Unavailable ResolvedPriceQuote :=
  match pricing.resolvePriceAtDate query with
  | .ok quote => .ok quote
  | .error refusal =>
    let reason := (rule9MissingData false query.provider query.service query.serviceSku query.region).2
    .error ⟨reason.getD "" ++ " Details: " ++ refusal,pricing.latestRecord query.provider query.service query.region⟩

structure PricedComponent where
  wanted : Bool
  query : PriceQuery
  quantity : ℚ
  unit : Option String
  durationHours : Option ℚ
  category : CostCategoryType
  name : String
  details : List (String × Detail)

def PricedComponent.costRequest (component : PricedComponent) (currency : String) (quote : ResolvedPriceQuote) : CostRequest where
  quantity := component.quantity
  unit := component.unit.getD quote.unit
  priceQuote := .resolved quote
  targetCurrency := currency
  durationHours := component.durationHours
  discountInfo := none
  commitmentInfo := none
  evaluationDate := none

namespace PreDeploymentEstimateRequest

variable (request : PreDeploymentEstimateRequest)

def providerKey : String := Text.lower (Text.stripped request.provider)

def currency : String := currencyCode request.targetCurrency

def hours : ℚ := rule11RuntimeSchedule request.runtimeScheduleType request.customRuntimeHours 30

def query (service : String) (sku : Option String) (dimension : String) : PriceQuery where
  provider := request.providerKey
  service := service
  serviceSku := sku
  region := Text.stripped request.region
  pricingDimension := dimension
  tenantId := request.tenantId

end PreDeploymentEstimateRequest

section Skus

variable (provider : String)

def computeSkuHint : Option String :=
  match provider with
  | "aws" => some "AWS-EC2-T3-XLARGE-US-EAST"
  | "azure" => some "00000000-1111-2222-3333-444444444444"
  | "gcp" => some "D982-F0A1-332B"
  | "oci" => some "B88298"
  | _ => none

def databaseSkuHint : Option String :=
  match provider with
  | "aws" => some "AWS-RDS-DB-R5-2XLARGE"
  | "azure" => some "AZURE-SQL-GEN5-4VCORE"
  | "gcp" => some "GCP-CLOUDSQL-PG-CUSTOM-4-16"
  | "oci" => some "OCI-ADB-ECPU"
  | _ => none

def blockServiceAndSku : String × String :=
  match provider with
  | "aws" => ("AmazonEBS", "AWS-EBS-GP3-STORAGE")
  | "azure" => ("Managed Disks", "AZURE-DISK-PREMIUM-SSD-P10")
  | "gcp" => ("Persistent Disk", "GCP-DISK-PD-BALANCED")
  | "oci" => ("Block Volume", "OCI-BLOCK-STORAGE-BALANCED")
  | _ => ("Storage", "DEFAULT-BLOCK-STORAGE")

def ipServiceAndSku : String × String :=
  match provider with
  | "aws" => ("AmazonEC2", "AWS-PUBLIC-IPV4-ADDRESS")
  | "azure" => ("Virtual Machines", "AZURE-PUBLIC-IP-STANDARD")
  | "gcp" => ("Compute Engine", "GCP-NETWORK-STATIC-IP")
  | "oci" => ("Compute", "OCI-NETWORKING-RESERVED-PUBLIC-IP")
  | _ => ("Network", "DEFAULT-PUBLIC-IP")

def egressServiceAndSku : String × String :=
  match provider with
  | "aws" => ("AmazonEC2", "AWS-DATA-TRANSFER-OUT-INTERNET")
  | "azure" => ("Virtual Machines", "AZURE-BANDWIDTH-EGRESS-INTERNET")
  | "gcp" => ("Compute Engine", "GCP-NETWORK-INTERNET-EGRESS")
  | "oci" => ("Compute", "OCI-NETWORKING-OUTBOUND-DATA")
  | _ => ("Network", "DEFAULT-EGRESS")

end Skus

section Components

variable (request : PreDeploymentEstimateRequest)

def runtimeName (title : String) (kind : Option String) : String :=
  request.service ++ " " ++ title ++ " (" ++ (kind.filter (· ≠ "")).getD "Default" ++ ")"

def sized (title : String) (gigabytes : ℚ) : String := title ++ " (" ++ Decimal.floatText gigabytes ++ " GB)"

def runtimeUsage (sku : Option String) (dimension : String) (category : CostCategoryType) (name : String)
    (details : List (String × Detail)) : PricedComponent where
  wanted := true
  query := request.query request.service sku dimension
  quantity := request.hours
  unit := none
  durationHours := some request.hours
  category := category
  name := name
  details := details

def computeUsage : PricedComponent :=
  let provider := request.providerKey
  runtimeUsage request (computeSkuHint provider) (if provider = "oci" then "DIM-14" else if provider = "gcp" then "DIM-15" else "DIM-03")
    .compute (runtimeName request "Runtime" request.instanceType)
    [("runtime_hours", .number request.hours), ("instance_type", .text request.instanceType)]

def databaseUsage : PricedComponent :=
  let provider := request.providerKey
  runtimeUsage request (databaseSkuHint provider) (if provider = "oci" then "DIM-14" else "DIM-03") .database
    (runtimeName request "Instance Runtime" request.databaseEngine)
    [("engine", .text request.databaseEngine), ("hours", .number request.hours)]

def capacityUsage (title : String) (details : List (String × Detail)) : PricedComponent where
  wanted := true
  query := request.query request.service none "DIM-11"
  quantity := max 1 request.storageGb
  unit := some "GB-Mo"
  durationHours := none
  category := .storage
  name := sized (request.service ++ " " ++ title) (max 1 request.storageGb)
  details := ("storage_gb", .number (max 1 request.storageGb)) :: details

def objectUsage : PricedComponent := capacityUsage request "Capacity" []

def blockUsage : PricedComponent := capacityUsage request "Volume Capacity" [("storage_type", .text request.storageType)]

def gigabytes (priced : String × String) (dimension : String) (amount : ℚ) (unit : String) (category : CostCategoryType)
    (title : String) (details : List (String × Detail)) : PricedComponent where
  wanted := 0 < amount
  query := request.query priced.1 (some priced.2) dimension
  quantity := amount
  unit := some unit
  durationHours := none
  category := category
  name := sized title amount
  details := details

def attachedBlockStorage : PricedComponent :=
  gigabytes request (blockServiceAndSku request.providerKey) "DIM-11" request.storageGb "GB-Mo" .storage "Attached Block Storage"
    [("storage_gb", .number request.storageGb), ("type", .text request.storageType)]

def databaseStorageVolume : PricedComponent :=
  gigabytes request (blockServiceAndSku request.providerKey) "DIM-11" request.storageGb "GB-Mo" .storage "Database Storage Volume"
    [("storage_gb", .number request.storageGb)]

def publicIpv4Address : PricedComponent where
  wanted := request.publicIp
  query := request.query (ipServiceAndSku request.providerKey).1 (some (ipServiceAndSku request.providerKey).2) "DIM-03"
  quantity := request.hours
  unit := none
  durationHours := some request.hours
  category := .network
  name := "Public IPv4 Address"
  details := [("public_ip", .flag true), ("hours", .number request.hours)]

def outboundTransfer (title : String) : PricedComponent :=
  gigabytes request (egressServiceAndSku request.providerKey) "DIM-12" request.dataTransferOutGb "GB" .network title
    [("egress_gb", .number request.dataTransferOutGb)]

def outboundInternetTransfer : PricedComponent := outboundTransfer request "Outbound Internet Transfer"

def outboundDataTransfer : PricedComponent := outboundTransfer request "Outbound Data Transfer"

def backupSnapshotStorage : PricedComponent :=
  gigabytes request (blockServiceAndSku request.providerKey) "DIM-11" request.backupStorageGb "GB-Mo" .backup
    "Backup Snapshot Storage" [("backup_gb", .number request.backupStorageGb)]

def standardUsage : PricedComponent :=
  let quantity := max 1 (((some request.storageGb).filter (· ≠ 0)).getD ((request.customRuntimeHours.filter (· ≠ 0)).getD 730))
  { wanted := true
    query := request.query request.service none "DIM-03"
    quantity := quantity
    unit := none
    durationHours := none
    category := .other
    name := request.service ++ " Standard Usage"
    details := [("quantity", .number quantity)] }

def standardDriver (quote : ResolvedPriceQuote) (main : DriverData) : CostDriverComponent where
  category := main.category
  name := main.name
  monthlyCost :=
    { amount := roundCurrency main.amount
      currency := request.currency
      pricingRecordId := quote.recordId
      pricingSource := quote.pricingSource
      usageQuantity := (standardUsage request).quantity
      usageUnit := quote.unit }
  percentageOfTotal := 100
  derivation := main.derivation
  drillableDetails := main.details ++ [("unit", .text (some quote.unit))]
  percentageNonneg := by norm_num
  percentageBounded := le_refl 100

end Components

section Results

variable (request : PreDeploymentEstimateRequest)

def horizon (record : String) (amount usageQuantity : ℚ) (usageUnit : String) (derivation : CostDerivation) : EstimatedCost where
  amount := amount
  currency := request.currency
  pricingRecordId := record ++ Text.lower request.service
  pricingSource := derivation.pricingSource
  usageQuantity := usageQuantity
  usageUnit := usageUnit

def buildSuccessfulResult (monthlyAmount runtimeHours : ℚ) (costDrivers : List CostDriverComponent)
    (primaryDerivation : CostDerivation) : PreDeploymentEstimateResult :=
  let safeHours := if 0 < runtimeHours then runtimeHours else 730
  let monthly := roundCurrency monthlyAmount
  { provider := request.provider
    service := request.service
    region := request.region
    currency := request.currency
    pricingStatus := if 0 < monthly then .estimated else .free
    hourlyCost := horizon request "est-hourly-" (Decimal.quantize 4 (monthlyAmount / safeHours)) 1 "hour" primaryDerivation
    dailyCost := horizon request "est-daily-" (roundCurrency (monthlyAmount / 30)) 1 "day" primaryDerivation
    monthlyCost := horizon request "est-monthly-" monthly safeHours "month" primaryDerivation
    annualisedCost := horizon request "est-annual-" (roundCurrency (monthlyAmount * 12)) 12 "year" primaryDerivation
    costDrivers := costDrivers
    overallDerivation := primaryDerivation
    unavailabilityReason := none
    lastKnownPricingDate := none }

def dummyDerivation (now : Instant) : CostDerivation where
  rateApplied := 0
  rateTypeApplied := .list
  pricingDimension := "UNKNOWN"
  pricingDimensionName := ""
  quantityConsumed := 0
  unit := "unit"
  tierStructureApplied := false
  tierBreakdown := []
  freeAllowanceDeducted := 0
  freeAllowanceUnit := none
  netBillableQuantity := 0
  minimumChargeApplied := false
  minimumChargeAmount := 0
  discountAppliedAmount := 0
  discountAppliedPercentage := 0
  discountReference := none
  commitmentApplied := none
  pricingSource := "unavailable"
  pricingSourceUrl := none
  effectiveDate := now
  currency := request.currency

def buildUnavailableResult (now : Instant) (unavailable : Unavailable) : PreDeploymentEstimateResult :=
  let zero : EstimatedCost := ⟨0,request.currency,"unavailable","unavailable",0,"unit"⟩
  { provider := request.provider
    service := request.service
    region := request.region
    currency := request.currency
    pricingStatus := .unknown
    hourlyCost := zero
    dailyCost := zero
    monthlyCost := zero
    annualisedCost := zero
    costDrivers := []
    overallDerivation := dummyDerivation request now
    unavailabilityReason := some unavailable.reason
    lastKnownPricingDate := unavailable.lastDate }

end Results

abbrev ServiceEstimatorHandler : Type := PreDeploymentEstimateRequest → Except EstimateError PreDeploymentEstimateResult

def handlerKey (provider service : String) : String × String :=
  (Text.lower (Text.stripped provider), Text.lower (Text.stripped service))

structure PreDeploymentEstimator where
  pricingService : PricingService
  calculationEngine : CalculationContext
  now : Instant
  registry : Dict (String × String) ServiceEstimatorHandler

namespace PreDeploymentEstimator

def create (pricing : PricingService) (engine : CalculationContext) (now : Instant) : PreDeploymentEstimator :=
  ⟨pricing,engine,now,Dict.empty⟩

def register (provider service : String) (handler : ServiceEstimatorHandler) (estimator : PreDeploymentEstimator) :
    PreDeploymentEstimator :=
  { estimator with registry := estimator.registry.assign (handlerKey provider service) handler }

variable (estimator : PreDeploymentEstimator)

def driverFor (currency : String) (component : PricedComponent) (quote : ResolvedPriceQuote) : Except EstimateError DriverData := do
  let calculation ← (calculateCost estimator.calculationEngine (component.costRequest currency quote)).mapError .calculation
  return ⟨component.category,component.name,calculation.finalAmount,calculation.derivation,component.details⟩

def attach (currency : String) (component : PricedComponent) : Except EstimateError (Option DriverData) :=
  if component.wanted then
    match resolveSafeQuote estimator.pricingService component.query with
    | .ok quote => (estimator.driverFor currency component quote).map some
    | .error _ => .ok none
  else .ok none

def estimateUsage (request : PreDeploymentEstimateRequest) (usage : PricedComponent) (runtimeHours : ℚ)
    (attached : List PricedComponent) : Except EstimateError PreDeploymentEstimateResult :=
  match resolveSafeQuote estimator.pricingService usage.query with
  | .error unavailable => .ok (buildUnavailableResult request estimator.now unavailable)
  | .ok quote => do
    let main ← estimator.driverFor request.currency usage quote
    let others ← attached.mapM (estimator.attach request.currency)
    let drivers ← rule12CostDriverDecomposition (main :: others.reduceOption) request.currency
    return buildSuccessfulResult request (drivers.map (fun d => d.monthlyCost.amount)).sum runtimeHours drivers main.derivation

def estimateCompute (request : PreDeploymentEstimateRequest) : Except EstimateError PreDeploymentEstimateResult :=
  estimator.estimateUsage request (computeUsage request) request.hours
    [attachedBlockStorage request, publicIpv4Address request, outboundInternetTransfer request, backupSnapshotStorage request]

def estimateDatabase (request : PreDeploymentEstimateRequest) : Except EstimateError PreDeploymentEstimateResult :=
  estimator.estimateUsage request (databaseUsage request) request.hours [databaseStorageVolume request]

def estimateObjectStorage (request : PreDeploymentEstimateRequest) : Except EstimateError PreDeploymentEstimateResult :=
  estimator.estimateUsage request (objectUsage request) 730 [outboundDataTransfer request]

def estimateBlockStorage (request : PreDeploymentEstimateRequest) : Except EstimateError PreDeploymentEstimateResult :=
  estimator.estimateUsage request (blockUsage request) 730 []

def estimateGenericCatalogService (request : PreDeploymentEstimateRequest) : Except EstimateError PreDeploymentEstimateResult :=
  match resolveSafeQuote estimator.pricingService (standardUsage request).query with
  | .error unavailable => .ok (buildUnavailableResult request estimator.now unavailable)
  | .ok quote => do
    let main ← estimator.driverFor request.currency (standardUsage request) quote
    return buildSuccessfulResult request main.amount 730 [standardDriver request quote main] main.derivation

end PreDeploymentEstimator

def mentionsAny (words : List String) (service : String) : Bool := words.any (fun word => word.toList <:+: service.toList)

def isComputeService (provider service : String) : Bool :=
  mentionsAny ["ec2", "virtual machines", "compute engine"] service ||
    (provider = "oci" && mentionsAny ["compute"] service && !mentionsAny ["storage"] service)

def isDatabaseService (service : String) : Bool := mentionsAny ["rds", "sql", "database", "aurora"] service

def isObjectStorageService (provider service : String) : Bool :=
  mentionsAny ["s3", "blob"] service || (mentionsAny ["cloud storage"] service && !mentionsAny ["persistent"] service) ||
    (provider = "oci" && mentionsAny ["object"] service)

def isBlockStorageService (service : String) : Bool :=
  mentionsAny ["ebs", "disk", "persistent disk", "block volume", "block storage"] service

inductive EstimatedService where
  | compute
  | database
  | objectStorage
  | blockStorage
  | generic
  deriving DecidableEq

def PreDeploymentEstimateRequest.kind (request : PreDeploymentEstimateRequest) : EstimatedService :=
  let service := Text.lower (Text.stripped request.service)
  if isComputeService request.providerKey service then .compute
  else if isDatabaseService service then .database
  else if isObjectStorageService request.providerKey service then .objectStorage
  else if isBlockStorageService service then .blockStorage
  else .generic

def PreDeploymentEstimator.estimate (estimator : PreDeploymentEstimator) (request : PreDeploymentEstimateRequest) :
    Except EstimateError PreDeploymentEstimateResult :=
  match estimator.registry.get (handlerKey request.provider request.service) with
  | some handler => handler request
  | none =>
    match request.kind with
    | .compute => estimator.estimateCompute request
    | .database => estimator.estimateDatabase request
    | .objectStorage => estimator.estimateObjectStorage request
    | .blockStorage => estimator.estimateBlockStorage request
    | .generic => estimator.estimateGenericCatalogService request

end CloudLens.Pricing
