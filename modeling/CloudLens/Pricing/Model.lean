import CloudLens.Library.Calendar
import Mathlib.Data.Rat.Defs
import Mathlib.Algebra.Order.Ring.Unbundled.Rat

/-! Pricing records and the structures they carry. Every bound that the
validators check is a field of the structure, and the brackets of a tier
structure carry the outcome of their own check, so that a structure that the
code would refuse cannot be built. -/
namespace CloudLens.Pricing
open Library.Calendar

inductive RateType where
  | list
  | contracted
  | promotional
  | override
  deriving DecidableEq

inductive PricingTierModel where
  | graduated
  | volume
  deriving DecidableEq

inductive PricingTierError where
  | unboundedBracket
  | overlappingBrackets (index : ℕ) (tierEnd nextStart : ℚ)

structure TierBracket where
  tierStart : ℚ
  tierEnd : Option ℚ
  tierUnitRate : ℚ
  flatFee : ℚ
  startNonneg : 0 ≤ tierStart
  rateNonneg : 0 ≤ tierUnitRate
  feeNonneg : 0 ≤ flatFee
  deriving DecidableEq

def checkBrackets (index : ℕ) : List TierBracket → Except PricingTierError Unit
  | [] => .ok ()
  | [_] => .ok ()
  | current :: next :: rest =>
    match current.tierEnd with
    | none => .error .unboundedBracket
    | some tierEnd =>
      if tierEnd > next.tierStart then .error (.overlappingBrackets index tierEnd next.tierStart)
      else checkBrackets (index + 1) (next :: rest)

def validateBracketsOrder (brackets : List TierBracket) : Except PricingTierError (List TierBracket) :=
  (checkBrackets 0 brackets).map (fun _ => brackets)

structure TierStructure where
  pricingModel : PricingTierModel
  brackets : List TierBracket
  ordered : (validateBracketsOrder brackets).isOk = true
  deriving DecidableEq

structure FreeAllowance where
  quantity : ℚ
  unit : String
  resetPeriod : String
  postAllowanceRate : ℚ
  isExhaustible : Bool
  quantityNonneg : 0 ≤ quantity
  rateNonneg : 0 ≤ postAllowanceRate
  deriving DecidableEq

structure DiscountInfo where
  discountType : String
  discountPercentage : ℚ
  contractReference : Option String
  percentageNonneg : 0 ≤ discountPercentage
  percentageBounded : discountPercentage ≤ 100
  deriving DecidableEq

structure CommitmentInfo where
  commitmentType : String
  termMonths : ℕ
  paymentOption : String
  upfrontCost : ℚ
  hourlyCommitment : Option ℚ
  upfrontNonneg : 0 ≤ upfrontCost
  commitmentNonneg : ∀ rate, hourlyCommitment = some rate → 0 ≤ rate
  deriving DecidableEq

structure PricingRecord where
  id : String
  tenantId : Option String
  provider : String
  service : String
  serviceSku : Option String
  resourceType : String
  region : String
  pricingDimension : String
  unit : String
  unitPrice : ℚ
  currency : String
  freeAllowance : Option FreeAllowance
  tier : Option TierStructure
  minimumCharge : ℚ
  effectiveFrom : Instant
  effectiveTo : Option Instant
  discountInfo : Option DiscountInfo
  commitmentInfo : Option CommitmentInfo
  source : String
  sourceUrl : Option String
  retrievedAt : Instant
  rateType : RateType
  isActive : Bool
  version : ℕ
  priceNonneg : 0 ≤ unitPrice
  minimumNonneg : 0 ≤ minimumCharge
  versionPositive : 1 ≤ version
  deriving DecidableEq

structure ResolvedPriceQuote where
  pricingDimension : String
  queryDate : Instant
  effectivePrice : ℚ
  rateTypeApplied : RateType
  currency : String
  unit : String
  tier : Option TierStructure
  freeAllowance : Option FreeAllowance
  minimumCharge : ℚ
  recordId : String
  pricingSource : String

inductive PriceQuote where
  | resolved (quote : ResolvedPriceQuote)
  | record (record : PricingRecord)

theorem free_nonneg : (0:ℚ) ≤ 0 := le_refl 0

theorem one_nonneg : (0:ℚ) ≤ 1 := by norm_num

theorem hundred_nonneg : (0:ℚ) ≤ 100 := by norm_num

theorem firstVersion_positive : 1 ≤ 1 := Nat.le_refl 1

end CloudLens.Pricing
