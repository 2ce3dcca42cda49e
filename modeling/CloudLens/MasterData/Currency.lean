import CloudLens.Library.Days
import CloudLens.Library.Decimal
import CloudLens.MasterData.Layers
import Mathlib.Data.List.Forall2

/-! The conversion of a cost into the reporting currency of a tenant. The policy of
the tenant selects a type of rate for what the cost is shown as; the first rate
of that type between the two currencies is taken, in the direction asked for or
else in the other one. The date asked for is looked at nowhere. -/
namespace CloudLens.MasterData
open Library
open Library.Calendar (Date)

structure ExchangeRate where
  fromCurrency : String
  toCurrency : String
  rate : ℚ
  effectiveDate : Date
  rateType : String
  source : String := "MANUAL"

structure TenantFxPolicy where
  reportingCurrency : String := "USD"
  presentationPolicies : List (String × String) := []

structure CurrencyRecord where
  minorUnits : ℕ := 2
  roundingRule : String := "HALF_EVEN"
  symbol : String

structure CurrencyConversionResult where
  originalAmount : ℚ
  fromCurrency : String
  reportingCurrency : String
  rateUsed : ℚ
  rateType : String
  rateDate : Date
  rateSource : String
  convertedAmount : ℚ
  formattedDisplay : String

inductive ConversionError
  | rateNotFound (fromCurrency reportingCurrency rateType : String)
  | divisionByZero

structure ConversionQuery where
  policy : Option TenantFxPolicy
  currency : String → Option CurrencyRecord
  fromCurrency : String
  presentationContext : String
  asOfDate : Date

def groupReversed : List Char → List Char
  | a :: b :: c :: d :: rest => a :: b :: c :: ',' :: groupReversed (d :: rest)
  | short => short

/-- A number with this many decimal places; its thousands may be set apart. -/
def fixedText (apart : Bool) (places : ℕ) (x : ℚ) : String :=
  let units := (Decimal.roundHalfEven (x * 10^places)).natAbs
  let whole := (toString (units / 10^places)).toList
  (if x < 0 then "-" else "") ++ String.ofList (if apart then (groupReversed whole.reverse).reverse else whole) ++
    if places = 0 then "" else "." ++ String.ofList ((toString (units % 10^places + 10^places)).toList.drop 1)

def isoDate (date : Date) : String :=
  String.ofList (Calendar.yearDigits date ++ '-' :: Calendar.monthDigits date ++
    '-' :: [Text.digitChar (date.day / 10), Text.digitChar date.day])

def ExchangeRate.between (r : ExchangeRate) (source target rateType : String) : Bool :=
  Text.upper r.fromCurrency = source && Text.upper r.toCurrency = target && Text.upper r.rateType = Text.upper rateType

def roundBy (rule : String) (places : ℕ) (x : ℚ) : ℚ :=
  if rule = "HALF_EVEN" then Decimal.quantize places x else Decimal.quantizeHalfUp places x

namespace ConversionQuery

variable (q : ConversionQuery)

def source : String := normalised q.fromCurrency

def reportingCurr : String := q.policy.elim "USD" TenantFxPolicy.reportingCurrency

def selectedRateType : String :=
  ((q.policy.elim [] TenantFxPolicy.presentationPolicies).lookup q.presentationContext).getD "MONTHLY_AVERAGE"

def minorUnits : ℕ := (q.currency q.reportingCurr).elim 2 CurrencyRecord.minorUnits

def roundingRule : String := (q.currency q.reportingCurr).elim "HALF_EVEN" CurrencyRecord.roundingRule

def symbol : String := (q.currency q.reportingCurr).elim q.reportingCurr CurrencyRecord.symbol

/-- The rate that is taken, and whether it is taken the other way round. -/
def matchedRate (rates : List ExchangeRate) : Option (ExchangeRate × Bool) :=
  match rates.find? (·.between q.source q.reportingCurr q.selectedRateType) with
  | some r => some (r, false)
  | none => (rates.find? (·.between q.reportingCurr q.source q.selectedRateType)).map fun r => (r, true)

def identity (amount : ℚ) : CurrencyConversionResult where
  originalAmount := amount
  fromCurrency := q.source
  reportingCurrency := q.reportingCurr
  rateUsed := 1
  rateType := "IDENTITY"
  rateDate := q.asOfDate
  rateSource := "SYSTEM"
  convertedAmount := amount
  formattedDisplay := q.reportingCurr ++ " " ++ fixedText true 2 amount ++ " (Rate: 1.000000, 1:1)"

def convertedAt (amount : ℚ) (r : ExchangeRate) (rateUsed : ℚ) : CurrencyConversionResult :=
  let converted := roundBy q.roundingRule q.minorUnits (amount * rateUsed)
  { originalAmount := amount
    fromCurrency := q.source
    reportingCurrency := q.reportingCurr
    rateUsed := rateUsed
    rateType := q.selectedRateType
    rateDate := r.effectiveDate
    rateSource := r.source
    convertedAmount := converted
    formattedDisplay := q.symbol ++ fixedText true q.minorUnits converted ++ " (Rate: " ++ fixedText false 6 rateUsed ++ ", " ++
      q.selectedRateType ++ " on " ++ isoDate r.effectiveDate ++ " via " ++ r.source ++ ")" }

def settle (amount : ℚ) : Option (ExchangeRate × Bool) → Except ConversionError CurrencyConversionResult
  | none => .error (.rateNotFound q.source q.reportingCurr q.selectedRateType)
  | some (r, inverse) =>
    if inverse ∧ r.rate = 0 then .error .divisionByZero
    else .ok (q.convertedAt amount r (if inverse then 1 / r.rate else r.rate))

def convertCost (rates : List ExchangeRate) (amount : ℚ) : Except ConversionError CurrencyConversionResult :=
  if q.source = Text.upper q.reportingCurr then .ok (q.identity amount) else q.settle amount (q.matchedRate rates)

/-- The direct records; where there is none, the inverse ones. The codes are compared
whatever the case of their letters. -/
def candidates (rates : List ExchangeRate) : List ExchangeRate × Bool :=
  let direct := rates.filter (·.between q.source (Text.upper q.reportingCurr) q.selectedRateType)
  if direct = [] then (rates.filter (·.between (Text.upper q.reportingCurr) q.source q.selectedRateType), true) else (direct, false)

def Latest (rates : List ExchangeRate) (r : ExchangeRate) : Prop :=
  r ∈ (q.candidates rates).1 ∧ r.effectiveDate ≤ q.asOfDate ∧
    ∀ other ∈ (q.candidates rates).1, other.effectiveDate ≤ q.asOfDate → other.effectiveDate ≤ r.effectiveDate

end ConversionQuery

def Respelled (r other : ExchangeRate) : Prop :=
  Text.upper other.fromCurrency = Text.upper r.fromCurrency ∧ Text.upper other.toCurrency = Text.upper r.toCurrency ∧
    other.rate = r.rate ∧ other.effectiveDate = r.effectiveDate ∧ other.rateType = r.rateType ∧ other.source = r.source

/-- The rate of its date: the latest candidate in effect is used, or its reciprocal;
neither the order of the records nor the letters of the codes matter; and a higher
amount is never less when converted. -/
structure HistoricRate (q : ConversionQuery) (rates : List ExchangeRate) (amount : ℚ) : Prop where
  used : ∃ r, q.Latest rates r ∧ ((q.candidates rates).2 = true → r.rate ≠ 0) ∧
    ∃ result, q.convertCost rates amount = .ok result ∧
      result.rateUsed = (if (q.candidates rates).2 then 1 / r.rate else r.rate) ∧
      result.rateDate = r.effectiveDate ∧ result.rateSource = r.source ∧
      result.convertedAmount = roundBy q.roundingRule q.minorUnits (amount * result.rateUsed)
  orderless : ∀ listed : List ExchangeRate, listed.Perm rates → q.convertCost listed amount = q.convertCost rates amount
  respelled : ∀ spelled : String, normalised spelled = normalised q.fromCurrency →
    ∀ others, List.Forall₂ Respelled rates others →
      ({ q with fromCurrency := spelled } : ConversionQuery).convertCost others amount = q.convertCost rates amount
  monotone : ∀ more ≥ amount, ∀ result later, q.convertCost rates amount = .ok result → q.convertCost rates more = .ok later →
    result.convertedAmount ≤ later.convertedAmount

/-- The reporting currency is kept in capitals, and the candidates agree: all have one
rate, date and source, are in effect, and none has a negative rate, nor, taken the
other way round, a rate of zero. -/
structure OneRate (q : ConversionQuery) (rates : List ExchangeRate) : Prop where
  capitals : Text.upper q.reportingCurr = q.reportingCurr
  same : ∀ r ∈ (q.candidates rates).1, ∀ other ∈ (q.candidates rates).1,
    r.rate = other.rate ∧ r.effectiveDate = other.effectiveDate ∧ r.source = other.source
  inEffect : ∀ r ∈ (q.candidates rates).1, r.effectiveDate ≤ q.asOfDate
  sign : ∀ r ∈ (q.candidates rates).1, if (q.candidates rates).2 then 0 < r.rate else 0 ≤ r.rate

section Matching

variable {q : ConversionQuery} {rates listed : List ExchangeRate} {amount : ℚ} {r : ExchangeRate}

theorem matchedRate_eq (capitals : Text.upper q.reportingCurr = q.reportingCurr) (rates : List ExchangeRate) :
    q.matchedRate rates = (q.candidates rates).1.head?.map fun r => (r, (q.candidates rates).2) := by
  unfold ConversionQuery.matchedRate ConversionQuery.candidates
  rw [capitals,← List.head?_filter,← List.head?_filter]
  cases direct : rates.filter (·.between q.source q.reportingCurr q.selectedRateType) with
  | nil => rfl
  | cons first rest => rfl

theorem matchedRate_none (small : Text.upper q.reportingCurr ≠ q.reportingCurr) (rates : List ExchangeRate) :
    q.matchedRate rates = none := by
  have none (r : ExchangeRate) (code : String) : Text.upper code ≠ q.reportingCurr := by
    intro same
    rw [← same] at small
    exact small (Text.upper_upper code)
  have direct : rates.find? (·.between q.source q.reportingCurr q.selectedRateType) = Option.none := by
    rw [List.find?_eq_none]
    intro r _
    simp [ExchangeRate.between,none r r.toCurrency]
  have inverse : rates.find? (·.between q.reportingCurr q.source q.selectedRateType) = Option.none := by
    rw [List.find?_eq_none]
    intro r _
    simp [ExchangeRate.between,none r r.fromCurrency]
  rw [ConversionQuery.matchedRate,direct,inverse]
  rfl

theorem candidateRates_perm (same : listed.Perm rates) :
    (q.candidates listed).1.Perm (q.candidates rates).1 ∧ (q.candidates listed).2 = (q.candidates rates).2 := by
  have direct := same.filter (·.between q.source (Text.upper q.reportingCurr) q.selectedRateType)
  have inverse := same.filter (·.between (Text.upper q.reportingCurr) q.source q.selectedRateType)
  unfold ConversionQuery.candidates
  by_cases absent : rates.filter (·.between q.source (Text.upper q.reportingCurr) q.selectedRateType) = []
  · rw [absent] at direct
    simp only [direct.eq_nil,absent,if_true]
    exact ⟨inverse,trivial⟩
  · have present : listed.filter (·.between q.source (Text.upper q.reportingCurr) q.selectedRateType) ≠ [] := by
      intro none
      rw [none] at direct
      exact absent direct.symm.eq_nil
    simp only [present,absent,if_false]
    exact ⟨direct,trivial⟩

theorem exists_first (member : r ∈ (q.candidates rates).1) : ∃ listed : List ExchangeRate, listed.Perm rates ∧
    (q.candidates listed).1.head? = some r ∧ (q.candidates listed).2 = (q.candidates rates).2 := by
  have among : r ∈ rates := by
    unfold ConversionQuery.candidates at member
    dsimp only at member
    split at member <;> exact (List.mem_filter.mp member).1
  obtain ⟨before,after,rfl⟩ := List.append_of_mem among
  have same : (r :: (before ++ after)).Perm (before ++ r :: after) := List.perm_middle.symm
  refine ⟨r :: (before ++ after),same,?_,(candidateRates_perm same).2⟩
  have direct := same.filter (·.between q.source (Text.upper q.reportingCurr) q.selectedRateType)
  have first (holds : ExchangeRate → Bool) (taken : holds r = true) :
      (r :: (before ++ after)).filter holds = r :: (before ++ after).filter holds := List.filter_cons_of_pos taken
  unfold ConversionQuery.candidates at member ⊢
  dsimp only at member ⊢
  split at member
  · next absent =>
    rw [absent] at direct
    rw [if_pos direct.eq_nil,first _ (List.mem_filter.mp member).2]
    rfl
  · have taken := (List.mem_filter.mp member).2
    rw [if_neg (by rw [first _ taken]; exact List.cons_ne_nil _ _),first _ taken]
    rfl

theorem convertCost_eq (distinct : q.source ≠ Text.upper q.reportingCurr) (rates : List ExchangeRate) (amount : ℚ) :
    q.convertCost rates amount = q.settle amount (q.matchedRate rates) := if_neg distinct

theorem settle_ok {matched : Option (ExchangeRate × Bool)} {result : CurrencyConversionResult}
    (settled : q.settle amount matched = .ok result) : ∃ r inverse, matched = some (r, inverse) ∧ (inverse = true → r.rate ≠ 0) ∧
      result = q.convertedAt amount r (if inverse then 1 / r.rate else r.rate) := by
  cases matched with
  | none => cases settled
  | some pair =>
    obtain ⟨r,inverse⟩ := pair
    rw [ConversionQuery.settle] at settled
    split at settled
    · cases settled
    · next finite =>
      exact ⟨r,inverse,rfl,fun turned zero => finite ⟨turned,zero⟩,(Except.ok.inj settled).symm⟩

theorem settle_some (amount : ℚ) {r : ExchangeRate} {inverse : Bool} (finite : inverse = true → r.rate ≠ 0) :
    q.settle amount (some (r, inverse)) = .ok (q.convertedAt amount r (if inverse then 1 / r.rate else r.rate)) := by
  rw [ConversionQuery.settle,if_neg fun both => finite both.1 both.2]

theorem roundBy_mono (rule : String) (places : ℕ) : Monotone (roundBy rule places) := by
  intro x y below
  unfold roundBy
  split
  · exact Decimal.quantize_mono places below
  · exact Decimal.quantizeHalfUp_mono places below

theorem roundBy_lt (rule : String) (places : ℕ) (x : ℚ) : roundBy rule places (x - 2) < roundBy rule places x := by
  unfold roundBy
  split
  · exact Decimal.scaled_lt Decimal.roundHalfEven_error places x
  · exact Decimal.scaled_lt Decimal.roundHalfAway_error places x

theorem find?_respelled {others : List ExchangeRate} (same : List.Forall₂ Respelled rates others) (source target rateType : String) :
    (rates.find? (·.between source target rateType) = none ∧ others.find? (·.between source target rateType) = none) ∨
      ∃ r other, rates.find? (·.between source target rateType) = some r ∧
        others.find? (·.between source target rateType) = some other ∧ Respelled r other := by
  induction same with
  | nil => exact .inl ⟨rfl,rfl⟩
  | @cons r other rates others spelled same ih =>
    have alike : other.between source target rateType = r.between source target rateType := by
      unfold ExchangeRate.between
      rw [spelled.1,spelled.2.1,spelled.2.2.2.2.1]
    cases found : r.between source target rateType with
    | true => exact .inr ⟨r,other,List.find?_cons_of_pos found,List.find?_cons_of_pos (alike.trans found),spelled⟩
    | false =>
      rw [List.find?_cons_of_neg (by rw [found]; decide),List.find?_cons_of_neg (by rw [alike,found]; decide)]
      exact ih

theorem settle_respelled {r other : ExchangeRate} (spelled : Respelled r other) (amount : ℚ) (inverse : Bool) :
    q.settle amount (some (other, inverse)) = q.settle amount (some (r, inverse)) := by
  obtain ⟨_,_,rate,date,_,source⟩ := spelled
  simp only [ConversionQuery.settle,ConversionQuery.convertedAt,rate,date,source]

theorem convertCost_source (spelled : String) (alike : normalised spelled = normalised q.fromCurrency) (rates : List ExchangeRate)
    (amount : ℚ) : ({ q with fromCurrency := spelled } : ConversionQuery).convertCost rates amount = q.convertCost rates amount := by
  have source : ({ q with fromCurrency := spelled } : ConversionQuery).source = q.source := alike
  unfold ConversionQuery.convertCost ConversionQuery.settle ConversionQuery.matchedRate ConversionQuery.convertedAt
    ConversionQuery.identity
  simp only [source]
  rfl

theorem convertCost_respelled {others : List ExchangeRate} (same : List.Forall₂ Respelled rates others) (amount : ℚ) :
    q.convertCost others amount = q.convertCost rates amount := by
  unfold ConversionQuery.convertCost ConversionQuery.matchedRate
  rcases find?_respelled same q.source q.reportingCurr q.selectedRateType with ⟨none,noneOther⟩ | ⟨r,other,found,foundOther,spelled⟩
  · rw [none,noneOther]
    rcases find?_respelled same q.reportingCurr q.source q.selectedRateType with ⟨none,noneOther⟩ | ⟨r,other,found,foundOther,spelled⟩
    · rw [none,noneOther]
    · rw [found,foundOther]
      simp only [Option.map_some,settle_respelled spelled]
  · rw [found,foundOther]
    simp only [settle_respelled spelled]

/-- With two currencies and a candidate in effect the conversion uses the rate of its
date exactly when there is one rate. -/
theorem historicRate_iff (q : ConversionQuery) (rates : List ExchangeRate) (amount : ℚ) (distinct : q.source ≠ Text.upper q.reportingCurr)
    (begun : ∃ r ∈ (q.candidates rates).1, r.effectiveDate ≤ q.asOfDate) : HistoricRate q rates amount ↔ OneRate q rates := by
  constructor
  · intro historic
    obtain ⟨latest,⟨_,inEffect,_⟩,_,result,returned,_,usedDate,usedSource,_⟩ := historic.used
    have capitals : Text.upper q.reportingCurr = q.reportingCurr := by
      by_contra small
      rw [convertCost_eq distinct,matchedRate_none small] at returned
      cases returned
    -- each candidate gives the result where it is listed first
    have each (r : ExchangeRate) (member : r ∈ (q.candidates rates).1) : ((q.candidates rates).2 = true → r.rate ≠ 0) ∧
        result = q.convertedAt amount r (if (q.candidates rates).2 then 1 / r.rate else r.rate) := by
      obtain ⟨listed,perm,first,direction⟩ := exists_first member
      have settled := historic.orderless listed perm
      rw [returned,convertCost_eq distinct,matchedRate_eq capitals,first,direction] at settled
      obtain ⟨_,_,same,finite,equal⟩ := settle_ok settled
      obtain ⟨rfl,rfl⟩ := Prod.mk.inj (Option.some.inj same)
      exact ⟨finite,equal⟩
    have rateUsed (r : ExchangeRate) (member : r ∈ (q.candidates rates).1) :
        result.rateUsed = if (q.candidates rates).2 then 1 / r.rate else r.rate := by rw [(each r member).2]; rfl
    have dated (r : ExchangeRate) (member : r ∈ (q.candidates rates).1) : r.effectiveDate = latest.effectiveDate := by
      rw [← usedDate,(each r member).2]
      rfl
    have sourced (r : ExchangeRate) (member : r ∈ (q.candidates rates).1) : r.source = latest.source := by
      rw [← usedSource,(each r member).2]
      rfl
    refine ⟨capitals,fun r member other memberOther => ⟨?_,?_,?_⟩,fun r member => ?_,fun r member => ?_⟩
    · have equal := (rateUsed r member).symm.trans (rateUsed other memberOther)
      split at equal
      · exact inv_inj.mp (by simpa using equal)
      · exact equal
    · rw [dated r member,dated other memberOther]
    · rw [sourced r member,sourced other memberOther]
    · rw [dated r member]
      exact inEffect
    · have start : 0 ≤ result.rateUsed := by
        by_contra negative
        have negative := not_le.mp negative
        rw [convertCost_eq distinct] at returned
        obtain ⟨first,inverse,matched,finite,rfl⟩ := settle_ok returned
        generalize rate : (if inverse then 1 / first.rate else first.rate) = used at returned negative
        have negative : used < 0 := negative
        have later : q.convertCost rates (amount - 2 / used) = .ok (q.convertedAt (amount - 2 / used) first used) := by
          rw [convertCost_eq distinct,matched,settle_some _ finite,rate]
        have above : amount - 2 / used ≥ amount := by
          have := div_neg_of_pos_of_neg (show (0:ℚ) < 2 by norm_num) negative
          linarith
        have grows := historic.monotone _ above _ _ ((convertCost_eq distinct rates amount).trans returned) later
        have product : (amount - 2 / used) * used = amount * used - 2 := by
          have := negative.ne
          field_simp
        have falls := roundBy_lt q.roundingRule q.minorUnits (amount * used)
        rw [← product] at falls
        exact absurd grows (not_le.mpr falls)
      rw [rateUsed r member] at start
      have finite := (each r member).1
      cases turned : (q.candidates rates).2 with
      | true =>
        rw [turned,if_pos rfl] at start
        rw [if_pos rfl]
        exact lt_of_le_of_ne (one_div_nonneg.mp start) (Ne.symm (finite turned))
      | false =>
        rw [turned] at start
        exact start
  · intro one
    obtain ⟨begin,member,inEffect⟩ := begun
    have finite (r : ExchangeRate) (member : r ∈ (q.candidates rates).1) (turned : (q.candidates rates).2 = true) : r.rate ≠ 0 := by
      have sign := one.sign r member
      rw [turned,if_pos rfl] at sign
      exact sign.ne'
    -- whatever is listed first gives the same result
    have settled (listed : List ExchangeRate) (perm : listed.Perm rates) (amount : ℚ) : q.convertCost listed amount =
        .ok (q.convertedAt amount begin (if (q.candidates rates).2 then 1 / begin.rate else begin.rate)) := by
      obtain ⟨same,direction⟩ := candidateRates_perm (q := q) perm
      obtain ⟨first,rest,shape⟩ := List.exists_cons_of_ne_nil (List.ne_nil_of_mem (same.mem_iff.mpr member))
      have inside : first ∈ (q.candidates rates).1 := same.mem_iff.mp (shape ▸ List.mem_cons_self)
      obtain ⟨rate,date,source⟩ := one.same first inside begin member
      rw [convertCost_eq distinct,matchedRate_eq one.capitals,shape,direction]
      refine (settle_some amount (finite first inside)).trans ?_
      simp only [ConversionQuery.convertedAt,rate,date,source]
    have start : 0 ≤ if (q.candidates rates).2 then 1 / begin.rate else begin.rate := by
      have sign := one.sign begin member
      cases turned : (q.candidates rates).2 with
      | true =>
        rw [turned,if_pos rfl] at sign
        exact one_div_nonneg.mpr sign.le
      | false =>
        rw [turned] at sign
        exact sign
    refine ⟨⟨begin,⟨member,inEffect,fun other among _ => ?_⟩,finite begin member,_,settled rates (.refl _) amount,rfl,rfl,rfl,rfl⟩,
      fun listed perm => ?_,fun spelled alike others same => ?_,fun more above result later returned returnedLater => ?_⟩
    · rw [(one.same other among begin member).2.1]
      exact Calendar.Date.le_iff_ordinal.mpr le_rfl
    · rw [settled listed perm,settled rates (.refl _)]
    · rw [convertCost_source spelled alike,convertCost_respelled same]
    · obtain rfl := Except.ok.inj ((settled rates (.refl _) amount).symm.trans returned)
      obtain rfl := Except.ok.inj ((settled rates (.refl _) more).symm.trans returnedLater)
      exact roundBy_mono _ _ (mul_le_mul_of_nonneg_right above start)

end Matching

theorem inMonth_valid {month : ℕ} (within : 1 ≤ month ∧ month ≤ 12) :
    (1 ≤ 2026 ∧ 2026 ≤ 9999) ∧ (1 ≤ month ∧ month ≤ 12) ∧ 1 ≤ 1 ∧ 1 ≤ Calendar.daysInMonth 2026 month :=
  ⟨by decide,within,le_rfl,Date.days_pos 2026 month⟩

theorem march_within : 1 ≤ 3 ∧ 3 ≤ 12 := by decide

theorem april_within : 1 ≤ 4 ∧ 4 ≤ 12 := by decide

theorem april_first_valid : (1 ≤ 2026 ∧ 2026 ≤ 9999) ∧ (1 ≤ 4 ∧ 4 ≤ 12) ∧ 1 ≤ 1 ∧ 1 ≤ Calendar.daysInMonth 2026 4 := inMonth_valid april_within

theorem september_within : 1 ≤ 9 ∧ 9 ≤ 12 := by decide

def monthlyAverage (month : ℕ) (within : 1 ≤ month ∧ month ≤ 12) (rate : ℚ) : ExchangeRate :=
  ⟨"USD","EUR",rate,⟨2026,month,1,inMonth_valid within⟩,"MONTHLY_AVERAGE","ECB"⟩

def march : ExchangeRate := monthlyAverage 3 march_within (95/100)

def september : ExchangeRate := monthlyAverage 9 september_within (92/100)

def inEuros : ConversionQuery :=
  ⟨some { reportingCurrency := "EUR" },fun _ => none,"USD","actual_cost",⟨2026,4,1,april_first_valid⟩⟩

/-- The rate of September, listed first, is used in April. -/
theorem september_in_april : ((inEuros.convertCost [september, march] 100).toOption.map
      fun result => (result.rateUsed, result.rateDate)) = some (92/100, september.effectiveDate) ∧
    ¬ HistoricRate inEuros [september, march] 100 := by
  have used : ((inEuros.convertCost [september, march] 100).toOption.map
      fun result => (result.rateUsed, result.rateDate)) = some (92/100, september.effectiveDate) := by decide +kernel
  refine ⟨used,fun historic => ?_⟩
  obtain ⟨r,⟨_,inEffect,_⟩,_,result,returned,_,date,_⟩ := historic.used
  rw [returned] at used
  have same : r.effectiveDate = september.effectiveDate := date.symm.trans (Prod.mk.inj (Option.some.inj used)).2
  rw [same] at inEffect
  exact absurd inEffect (by decide)

def euroRates : List ExchangeRate :=
  [{ september with rateType := "SPOT" }, { march with fromCurrency := "usd", toCurrency := "Eur" }, march]

/-- Two candidates of March that agree; the rate of September is of another type. -/
theorem march_twice_in_april : inEuros.source ≠ Text.upper inEuros.reportingCurr ∧
    (inEuros.candidates euroRates).1.length = 2 ∧
    (∃ r ∈ (inEuros.candidates euroRates).1, r.effectiveDate ≤ inEuros.asOfDate) ∧ HistoricRate inEuros euroRates 100 := by
  have distinct : inEuros.source ≠ Text.upper inEuros.reportingCurr := by decide +kernel
  have begun : ∃ r ∈ (inEuros.candidates euroRates).1, r.effectiveDate ≤ inEuros.asOfDate := by decide +kernel
  refine ⟨distinct,by decide +kernel,begun,(historicRate_iff inEuros euroRates 100 distinct begun).mpr ?_⟩
  exact ⟨by decide +kernel,by decide +kernel,by decide +kernel,by decide +kernel⟩

end CloudLens.MasterData
