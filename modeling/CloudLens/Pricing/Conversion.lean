import CloudLens.Library.Calendar
import CloudLens.Library.Ranking
import CloudLens.Library.Rising
import CloudLens.Pricing.Units
import Mathlib.Algebra.Order.Field.Basic
import Mathlib.Algebra.Order.Field.Rat
import Mathlib.Tactic.FieldSimp

/-! Conversion through a catalogue with positive unit sizes. It rises with the
value, and without offsets and rounding it loses nothing: there and back gives
the value again, and a stop on the way makes no difference. The catalogue is a
table of rows, found by symbol whatever its case. -/
namespace CloudLens.Pricing
open Library Library.Rising Library.Calendar

def PositiveScales (units : UnitCatalogue) : Prop := ∀ symbol row, units symbol = some row → 0 < row.scaleFactorToBase

section Conversion

variable {units : UnitCatalogue} {within : ℚ → Prop}

theorem rises_divide {denominator : ℚ} (positive : 0 < denominator) :
    Rises within (fun numerator => divide numerator denominator) := by
  have nonzero : ¬ denominator = 0 := positive.ne'
  simp only [divide,if_neg nonzero]
  exact rises_ok (fun _ _ below => div_le_div_of_nonneg_right below positive.le)

theorem rises_ofBase {dst : UnitDTO} (positive : 0 < dst.scaleFactorToBase) : Rises within (ofBase dst) :=
  (rises_divide positive).map (fun _ _ below => add_le_add_left below dst.offsetToBase)

theorem toBase_mono {src : UnitDTO} (positive : 0 < src.scaleFactorToBase) : Monotone (toBase src) :=
  fun _ _ below => mul_le_mul_of_nonneg_right (sub_le_sub_right below src.offsetToBase) positive.le

theorem gigabyte_positive (positive : PositiveScales units) {gb : UnitDTO} (found : gigabyte units = .ok gb) :
    0 < gb.scaleFactorToBase := by
  unfold gigabyte at found
  split at found
  · rename_i unit hour either hours
    cases found
    rcases Option.or_eq_some_iff.mp either with named | ⟨_,fallback⟩
    · exact positive "GB" _ named
    · exact positive "gib" _ fallback
  · cases found

theorem effectiveDuration_positive {durationHours : Option ℚ} {duration : ℚ} (given : effectiveDuration durationHours = .ok duration) :
    0 < duration := by
  unfold effectiveDuration at given
  split at given
  · cases given
  · rename_i positive
    cases given
    exact not_le.mp positive

theorem scaled_rises {denominator factor : ℚ} {src dst : UnitDTO} (positive : 0 < denominator) (nonneg : 0 ≤ factor)
    (source : 0 < src.scaleFactorToBase) (target : 0 < dst.scaleFactorToBase) :
    Rises within (fun value => divide (toBase src value) denominator >>= fun gbVal => ofBase dst (gbVal * factor)) := by
  have gbVal : Rises within (fun value => divide (toBase src value) denominator) :=
    (rises_divide positive).comp (toBase_mono source)
  have grown : Monotone (fun amount : ℚ => amount * factor) := fun _ _ below => mul_le_mul_of_nonneg_right below nonneg
  have based : Rises (fun _ : ℚ => True) (fun amount => ofBase dst (amount * factor)) := (rises_ofBase target).comp grown
  exact gbVal.bind (fun _ _ _ _ => trivial) based

theorem storageToTimeStorage_rises (positive : PositiveScales units) {src dst : UnitDTO} (source : 0 < src.scaleFactorToBase)
    (target : 0 < dst.scaleFactorToBase) (durationHours : Option ℚ) :
    Rises within (fun value => storageToTimeStorage units src dst value durationHours) := by
  apply rises_read (effectiveDuration durationHours)
  intro duration given
  apply rises_read (gigabyte units)
  intro gb found
  exact scaled_rises (gigabyte_positive positive found) (effectiveDuration_positive given).le source target

theorem timeStorageToStorage_rises (positive : PositiveScales units) {src dst : UnitDTO} (source : 0 < src.scaleFactorToBase)
    (target : 0 < dst.scaleFactorToBase) (durationHours : Option ℚ) :
    Rises within (fun value => timeStorageToStorage units src dst value durationHours) := by
  apply rises_read (effectiveDuration durationHours)
  intro duration given
  apply rises_read (gigabyte units)
  intro gb found
  exact scaled_rises (effectiveDuration_positive given) (gigabyte_positive positive found).le source target

theorem rounded_mono (decimalPlaces : Option ℕ) : Monotone (rounded decimalPlaces) := by
  intro x y below
  cases decimalPlaces with
  | none => exact below
  | some places => exact Decimal.quantize_mono places below

theorem convert_rises (positive : PositiveScales units) (fromUnit toUnit : String) (durationHours : Option ℚ)
    (decimalPlaces : Option ℕ) :
    Rises (fun value => 0 ≤ value) (fun value => convert units value fromUnit toUnit durationHours decimalPlaces) := by
  have accepted : ∀ value, 0 ≤ value → convert units value fromUnit toUnit durationHours decimalPlaces = _ :=
    fun value start => if_neg (not_lt.mpr start)
  apply Rises.congr _ accepted
  cases found : units fromUnit with
  | none => exact rises_error _
  | some src =>
    cases wanted : units toUnit with
    | none => exact rises_error _
    | some dst =>
      have source := positive fromUnit src found
      have target := positive toUnit dst wanted
      dsimp only
      by_cases same : Text.lower src.symbol = Text.lower dst.symbol
      · simp only [if_pos same]
        exact rises_ok (rounded_mono decimalPlaces)
      · simp only [if_neg same]
        by_cases alike : src.dimensionality = dst.dimensionality
        · simp only [if_pos alike]
          apply Rises.map _ (rounded_mono decimalPlaces)
          exact (rises_ofBase target).comp (toBase_mono source)
        · simp only [if_neg alike]
          by_cases timed : src.dimensionality = .digitalStorage ∧ dst.dimensionality = .timeStorage
          · simp only [if_pos timed]
            exact (storageToTimeStorage_rises positive source target durationHours).map (rounded_mono decimalPlaces)
          · simp only [if_neg timed]
            by_cases untimed : src.dimensionality = .timeStorage ∧ dst.dimensionality = .digitalStorage
            · simp only [if_pos untimed]
              exact (timeStorageToStorage_rises positive source target durationHours).map (rounded_mono decimalPlaces)
            · simp only [if_neg untimed]
              exact rises_error _

/-- A quantity that the conversion accepts: the unit is the pricing unit, or the quantity is not negative. -/
def Convertible (fromUnit toUnit : String) (quantity : ℚ) : Prop := sameUnit fromUnit toUnit = true ∨ 0 ≤ quantity

theorem rule1_rises (positive : PositiveScales units) (fromUnit toUnit : String) (durationHours : Option ℚ) :
    Rises (Convertible fromUnit toUnit) (fun quantity => rule1UnitConversion units quantity fromUnit toUnit durationHours) := by
  unfold rule1UnitConversion
  cases same : sameUnit fromUnit toUnit with
  | true =>
    simp only [if_true]
    exact rises_ok monotone_id
  | false =>
    simp only [Bool.false_eq_true,if_false]
    apply (convert_rises positive fromUnit toUnit durationHours (some 6)).narrow
    rintro quantity (alike | start)
    · rw [same] at alike
      cases alike
    · exact start

theorem convertible_of_rule1 {fromUnit toUnit : String} {durationHours : Option ℚ} {quantity converted : ℚ}
    (returned : rule1UnitConversion units quantity fromUnit toUnit durationHours = .ok converted) :
    Convertible fromUnit toUnit quantity := by
  unfold rule1UnitConversion at returned
  split at returned
  · exact Or.inl (by assumption)
  · right
    by_contra negative
    unfold convert at returned
    rw [if_pos (not_le.mp negative)] at returned
    cases returned

end Conversion

deriving instance DecidableEq for UnitDTO

/-- A row of the unit table. Its symbol is the primary key. -/
structure UnitRow where
  unit : UnitDTO
  version : ℤ
  effectiveFrom : Instant
  effectiveTo : Option Instant

def UnitRow.effectiveAt (row : UnitRow) (asOf : Instant) : Bool :=
  row.effectiveFrom ≤ asOf ∧ ∀ effectiveTo ∈ row.effectiveTo, asOf < effectiveTo

structure UnitLookup where
  asOf : Instant
  newest : Descending UnitRow.effectiveFrom
  latest : Descending UnitRow.version

def spelled (symbol : String) (row : UnitRow) : Bool := (Text.lower row.unit.symbol).toList = (Text.lower (Text.stripped symbol)).toList

def getUnit (lookup : UnitLookup) (rows : List UnitRow) (symbol : String) : Option UnitDTO :=
  let effective := (lookup.newest.sort (rows.filter (fun row => spelled symbol row && row.effectiveAt lookup.asOf))).head?
  let fallback := (lookup.latest.sort (rows.filter (spelled symbol))).head?
  (effective.or fallback).map UnitRow.unit

def PlainUnits (rows : List UnitRow) : Prop := ∀ row ∈ rows, 0 < row.unit.scaleFactorToBase ∧ row.unit.offsetToBase = 0

def DistinctSymbols (rows : List UnitRow) : Prop := (rows.map (fun row => Text.lower row.unit.symbol)).Nodup

def StorageAndTime (a b : UnitDTO) : Prop :=
  (a.dimensionality = .digitalStorage ∧ b.dimensionality = .timeStorage) ∨
    (a.dimensionality = .timeStorage ∧ b.dimensionality = .digitalStorage)

def Related (a b : UnitDTO) : Prop := a.dimensionality = b.dimensionality ∨ StorageAndTime a b

def HasReference (rows : List UnitRow) : Prop :=
  (∃ row ∈ rows, Text.lower row.unit.symbol = "gb" ∨ Text.lower row.unit.symbol = "gib") ∧
    ∃ row ∈ rows, Text.lower row.unit.symbol = "gb-hour"

def ReferencedRelated (rows : List UnitRow) (a b : UnitDTO) : Prop :=
  a.dimensionality = b.dimensionality ∨ (StorageAndTime a b ∧ HasReference rows)

/-- There and back is the value again, and a stop on the way makes no difference. -/
structure LosslessConversion (rows : List UnitRow) (pair : UnitDTO → UnitDTO → Prop) : Prop where
  roundTrip : ∀ (away home : UnitLookup) (value : ℚ) (a b : String) (src dst : UnitDTO) (durationHours : Option ℚ), 0 ≤ value →
    getUnit away rows a = some src → getUnit away rows b = some dst → pair src dst → (∀ duration ∈ durationHours, 0 < duration) →
    ∃ converted, convert (getUnit away rows) value a b durationHours none = .ok converted ∧
      convert (getUnit home rows) converted b a durationHours none = .ok value
  pathIndependent : ∀ (first second direct : UnitLookup) (value stop final there : ℚ) (a b c : String) (durationHours : Option ℚ),
    convert (getUnit first rows) value a b durationHours none = .ok stop →
    convert (getUnit second rows) stop b c durationHours none = .ok final →
    convert (getUnit direct rows) value a c durationHours none = .ok there → final = there

section Measure

variable {units : UnitCatalogue} {durationHours : Option ℚ} {value converted : ℚ} {a b : String} {src dst : UnitDTO}

/-- Unit sizes are positive, without offset, and a symbol stands for one unit whatever its case. -/
structure Sized (units : UnitCatalogue) : Prop where
  positive : PositiveScales units
  plain : ∀ symbol unit, units symbol = some unit → unit.offsetToBase = 0
  same : ∀ s t u v, units s = some u → units t = some v → Text.lower u.symbol = Text.lower v.symbol → u = v

def measure (reference duration : ℚ) (unit : UnitDTO) : ℚ :=
  if unit.dimensionality = .digitalStorage then unit.scaleFactorToBase / reference * duration else unit.scaleFactorToBase

def referenceSize (units : UnitCatalogue) : ℚ :=
  match gigabyte units with
  | .ok gb => gb.scaleFactorToBase
  | .error _ => 1

def heldFor (durationHours : Option ℚ) : ℚ :=
  if 0 < durationHours.getD standardBillingMonthHours then durationHours.getD standardBillingMonthHours else 1

def sizeOf (units : UnitCatalogue) (durationHours : Option ℚ) (unit : UnitDTO) : ℚ :=
  measure (referenceSize units) (heldFor durationHours) unit

def Crossable (units : UnitCatalogue) (durationHours : Option ℚ) : Prop :=
  (∃ gb, gigabyte units = .ok gb) ∧ 0 < durationHours.getD standardBillingMonthHours

def Connected (units : UnitCatalogue) (durationHours : Option ℚ) (src dst : UnitDTO) : Prop :=
  src.dimensionality = dst.dimensionality ∨ (StorageAndTime src dst ∧ Crossable units durationHours)

theorem referenceSize_positive (positive : PositiveScales units) : 0 < referenceSize units := by
  unfold referenceSize
  split
  · rename_i gb found
    exact gigabyte_positive positive found
  · norm_num

theorem heldFor_positive (durationHours : Option ℚ) : 0 < heldFor durationHours := by
  unfold heldFor
  split
  · assumption
  · norm_num

theorem sizeOf_positive (positive : PositiveScales units) {symbol : String} {unit : UnitDTO} (found : units symbol = some unit) :
    0 < sizeOf units durationHours unit := by
  have scale := positive symbol unit found
  unfold sizeOf measure
  split
  · exact mul_pos (div_pos scale (referenceSize_positive positive)) (heldFor_positive durationHours)
  · exact scale

theorem Connected.swap (connected : Connected units durationHours src dst) : Connected units durationHours dst src := by
  rcases connected with alike | ⟨crossing,crossable⟩
  · exact Or.inl alike.symm
  · refine Or.inr ⟨?_,crossable⟩
    rcases crossing with ⟨storage,time⟩ | ⟨time,storage⟩
    · exact Or.inr ⟨time,storage⟩
    · exact Or.inl ⟨storage,time⟩

theorem ofBase_plain (positive : 0 < dst.scaleFactorToBase) (plain : dst.offsetToBase = 0) (base : ℚ) :
    ofBase dst base = .ok (base / dst.scaleFactorToBase) := by
  have nonzero : ¬ dst.scaleFactorToBase = 0 := positive.ne'
  unfold ofBase divide
  rw [if_neg nonzero,plain]
  exact congrArg Except.ok (add_zero _)

theorem toBase_plain (plain : src.offsetToBase = 0) (value : ℚ) : toBase src value = value * src.scaleFactorToBase := by
  unfold toBase
  rw [plain,sub_zero]

theorem effectiveDuration_held (positive : 0 < durationHours.getD standardBillingMonthHours) :
    effectiveDuration durationHours = .ok (heldFor durationHours) := by
  unfold effectiveDuration heldFor
  rw [if_neg (not_le.mpr positive),if_pos positive]

theorem gigabyte_reference {gb : UnitDTO} (found : gigabyte units = .ok gb) : gb.scaleFactorToBase = referenceSize units := by
  unfold referenceSize
  rw [found]

theorem scaled_sized {denominator : ℚ} (nonzero : denominator ≠ 0) (sized : Sized units) (source : units a = some src)
    (target : units b = some dst) (value factor : ℚ) :
    (divide (toBase src value) denominator >>= fun gbVal => ofBase dst (gbVal * factor)) =
      .ok (value * src.scaleFactorToBase / denominator * factor / dst.scaleFactorToBase) := by
  simp only [bind,Except.bind]
  rw [divide,if_neg nonzero,toBase_plain (sized.plain a src source)]
  exact ofBase_plain (sized.positive b dst target) (sized.plain b dst target) _

theorem storageToTimeStorage_sized (sized : Sized units) (source : units a = some src) (target : units b = some dst)
    (storage : src.dimensionality = .digitalStorage) (time : dst.dimensionality = .timeStorage)
    (crossable : Crossable units durationHours) (value : ℚ) : storageToTimeStorage units src dst value durationHours =
      .ok (value * sizeOf units durationHours src / sizeOf units durationHours dst) := by
  obtain ⟨⟨gb,found⟩,positive⟩ := crossable
  have untimed : ¬ dst.dimensionality = .digitalStorage := by
    rw [time]
    decide
  unfold storageToTimeStorage
  rw [effectiveDuration_held positive,found]
  refine (scaled_sized (gigabyte_reference found ▸ (referenceSize_positive sized.positive).ne') sized source target value _).trans ?_
  unfold sizeOf measure
  rw [if_pos storage,if_neg untimed,gigabyte_reference found]
  apply congrArg Except.ok
  ring

theorem timeStorageToStorage_sized (sized : Sized units) (source : units a = some src) (target : units b = some dst)
    (time : src.dimensionality = .timeStorage) (storage : dst.dimensionality = .digitalStorage)
    (crossable : Crossable units durationHours) (value : ℚ) : timeStorageToStorage units src dst value durationHours =
      .ok (value * sizeOf units durationHours src / sizeOf units durationHours dst) := by
  obtain ⟨⟨gb,found⟩,positive⟩ := crossable
  have duration := (heldFor_positive durationHours).ne'
  have untimed : ¬ src.dimensionality = .digitalStorage := by
    rw [time]
    decide
  unfold timeStorageToStorage
  rw [effectiveDuration_held positive,found]
  refine (scaled_sized duration sized source target value _).trans ?_
  unfold sizeOf measure
  rw [if_pos storage,if_neg untimed,gigabyte_reference found]
  apply congrArg Except.ok
  have size := (sized.positive b dst target).ne'
  have reference := (referenceSize_positive sized.positive).ne'
  field_simp

theorem sameDimension_sized (sized : Sized units) (source : units a = some src) (target : units b = some dst)
    (alike : src.dimensionality = dst.dimensionality) (value : ℚ) :
    ofBase dst (toBase src value) = .ok (value * sizeOf units durationHours src / sizeOf units durationHours dst) := by
  have reference := (referenceSize_positive sized.positive).ne'
  have duration := (heldFor_positive durationHours).ne'
  have size := (sized.positive b dst target).ne'
  rw [toBase_plain (sized.plain a src source),ofBase_plain (sized.positive b dst target) (sized.plain b dst target)]
  unfold sizeOf measure
  rw [alike]
  apply congrArg Except.ok
  split
  · field_simp
  · rfl

theorem crossable_of_read {compute : ℚ → UnitDTO → Except ConversionError ℚ}
    (returned : (do let duration ← effectiveDuration durationHours; let gb ← gigabyte units; compute duration gb) = .ok converted) :
    Crossable units durationHours := by
  unfold effectiveDuration at returned
  split at returned
  · cases returned
  · rename_i positive
    cases found : gigabyte units with
    | error failed =>
      rw [found] at returned
      cases returned
    | ok gb => exact ⟨⟨gb,found⟩,not_le.mp positive⟩

theorem map_unrounded {computed : Except ConversionError ℚ} : computed.map (rounded none) = computed := by
  cases computed with
  | error failed => rfl
  | ok value => rfl

theorem convert_between (sized : Sized units) (source : units a = some src) (target : units b = some dst) (start : 0 ≤ value)
    (connected : Connected units durationHours src dst) : convert units value a b durationHours none =
      .ok (value * sizeOf units durationHours src / sizeOf units durationHours dst) := by
  unfold convert
  rw [if_neg (not_lt.mpr start),source,target]
  simp only [map_unrounded]
  split_ifs with same alike storage time
  · have equal := sized.same a b src dst source target same
    have size : sizeOf units durationHours dst ≠ 0 := (sizeOf_positive sized.positive target).ne'
    rw [equal,mul_div_assoc,div_self size,mul_one]
    rfl
  · exact sameDimension_sized sized source target alike value
  · rcases connected with equal | ⟨_,crossable⟩
    · exact absurd equal alike
    · exact storageToTimeStorage_sized sized source target storage.1 storage.2 crossable value
  · rcases connected with equal | ⟨_,crossable⟩
    · exact absurd equal alike
    · exact timeStorageToStorage_sized sized source target time.1 time.2 crossable value
  · rcases connected with equal | ⟨crossing,_⟩
    · exact absurd equal alike
    · rcases crossing with forth | back
      · exact absurd forth storage
      · exact absurd back time

theorem connected_of_convert (sized : Sized units) (returned : convert units value a b durationHours none = .ok converted) :
    ∃ src dst, units a = some src ∧ units b = some dst ∧ 0 ≤ value ∧ Connected units durationHours src dst := by
  unfold convert at returned
  by_cases negative : value < 0
  · rw [if_pos negative] at returned
    cases returned
  · rw [if_neg negative] at returned
    cases source : units a with
    | none =>
      rw [source] at returned
      cases returned
    | some src =>
      cases target : units b with
      | none =>
        rw [source,target] at returned
        cases returned
      | some dst =>
        refine ⟨src,dst,rfl,rfl,not_lt.mp negative,?_⟩
        rw [source,target] at returned
        simp only [map_unrounded] at returned
        split_ifs at returned with same alike storage time
        · exact Or.inl (congrArg UnitDTO.dimensionality (sized.same a b src dst source target same))
        · exact Or.inl alike
        · exact Or.inr ⟨Or.inl storage,crossable_of_read returned⟩
        · exact Or.inr ⟨Or.inr time,crossable_of_read returned⟩

theorem convert_ok_iff (sized : Sized units) : convert units value a b durationHours none = .ok converted ↔
    ∃ src dst, units a = some src ∧ units b = some dst ∧ 0 ≤ value ∧ Connected units durationHours src dst ∧
      converted = value * sizeOf units durationHours src / sizeOf units durationHours dst := by
  constructor
  · intro returned
    obtain ⟨src,dst,source,target,start,connected⟩ := connected_of_convert sized returned
    rw [convert_between sized source target start connected] at returned
    exact ⟨src,dst,source,target,start,connected,(Except.ok.inj returned).symm⟩
  · rintro ⟨src,dst,source,target,start,connected,rfl⟩
    exact convert_between sized source target start connected

theorem convert_back (sized : Sized units) (source : units a = some src) (target : units b = some dst) (start : 0 ≤ value)
    (connected : Connected units durationHours src dst) :
    ∃ converted, convert units value a b durationHours none = .ok converted ∧
      convert units converted b a durationHours none = .ok value := by
  have here : 0 < sizeOf units durationHours src := sizeOf_positive sized.positive source
  have there : 0 < sizeOf units durationHours dst := sizeOf_positive sized.positive target
  refine ⟨_,convert_between sized source target start connected,?_⟩
  rw [convert_between sized target source (div_nonneg (mul_nonneg start here.le) there.le) connected.swap]
  have nonzeroHere := here.ne'
  have nonzeroThere := there.ne'
  apply congrArg Except.ok
  field_simp

theorem convert_through (sized : Sized units) {c : String} {stop final there : ℚ}
    (first : convert units value a b durationHours none = .ok stop) (second : convert units stop b c durationHours none = .ok final)
    (direct : convert units value a c durationHours none = .ok there) : final = there := by
  obtain ⟨src,mid,source,middle,_,_,rfl⟩ := (convert_ok_iff sized).mp first
  obtain ⟨mid',dst,middle',target,_,_,rfl⟩ := (convert_ok_iff sized).mp second
  obtain ⟨src',dst',source',target',_,_,rfl⟩ := (convert_ok_iff sized).mp direct
  rw [middle] at middle'
  rw [source] at source'
  rw [target] at target'
  cases middle'
  cases source'
  cases target'
  have nonzero : sizeOf units durationHours mid ≠ 0 := (sizeOf_positive sized.positive middle).ne'
  rw [div_mul_cancel₀ _ nonzero]

end Measure

section Catalogue

variable {rows : List UnitRow} {symbol : String} {unit : UnitDTO}

def unitNamed (rows : List UnitRow) (symbol : String) : Option UnitDTO := (rows.find? (spelled symbol)).map UnitRow.unit

theorem spelled_iff {row : UnitRow} : spelled symbol row = true ↔ Text.lower row.unit.symbol = (Text.lower (Text.stripped symbol)) :=
  decide_eq_true_iff.trans String.toList_inj

theorem spelled_once (distinct : DistinctSymbols rows) (symbol : String) :
    rows.filter (spelled symbol) = (rows.find? (spelled symbol)).toList := by
  have spellings : ((rows.filter (spelled symbol)).map (fun row => Text.lower row.unit.symbol)).Nodup :=
    distinct.sublist (List.filter_sublist.map _)
  have alike : ∀ row ∈ rows.filter (spelled symbol), Text.lower row.unit.symbol = (Text.lower (Text.stripped symbol)) :=
    fun row member => spelled_iff.mp (List.mem_filter.mp member).2
  rw [← List.head?_filter]
  cases found : rows.filter (spelled symbol) with
  | nil => rfl
  | cons first rest =>
    cases rest with
    | nil => rfl
    | cons second others =>
      rw [found] at spellings alike
      have equal := (alike first List.mem_cons_self).trans (alike second (List.mem_cons_of_mem _ List.mem_cons_self)).symm
      rw [List.map_cons,List.map_cons,equal] at spellings
      exact absurd List.mem_cons_self (List.nodup_cons.mp spellings).1

theorem getUnit_distinct (distinct : DistinctSymbols rows) (lookup : UnitLookup) : getUnit lookup rows = unitNamed rows := by
  funext symbol
  have once := spelled_once distinct symbol
  have effective : rows.filter (fun row => spelled symbol row && row.effectiveAt lookup.asOf) =
      (rows.filter (spelled symbol)).filter (fun row => row.effectiveAt lookup.asOf) := by
    rw [List.filter_filter]
    exact List.filter_congr (fun row _ => Bool.and_comm _ _)
  unfold getUnit unitNamed
  rw [effective,once]
  cases rows.find? (spelled symbol) with
  | none =>
    simp only [Option.toList_none,List.filter_nil,Descending.sort_nil]
    rfl
  | some row =>
    simp only [Option.toList_some,Descending.sort_singleton]
    cases current : row.effectiveAt lookup.asOf with
    | true =>
      simp only [List.filter_singleton,current,cond_true,Descending.sort_singleton]
      rfl
    | false =>
      simp only [List.filter_singleton,current,cond_false,Descending.sort_nil]
      rfl

theorem unitNamed_some (found : unitNamed rows symbol = some unit) :
    ∃ row ∈ rows, row.unit = unit ∧ Text.lower unit.symbol = (Text.lower (Text.stripped symbol)) := by
  obtain ⟨row,first,rfl⟩ := Option.map_eq_some_iff.mp found
  exact ⟨row,List.mem_of_find?_eq_some first,rfl,spelled_iff.mp (List.find?_some first)⟩

theorem sized_unitNamed (plain : PlainUnits rows) : Sized (unitNamed rows) := by
  refine ⟨?_,?_,?_⟩
  · intro symbol unit found
    obtain ⟨row,member,rfl,_⟩ := unitNamed_some found
    exact (plain row member).1
  · intro symbol unit found
    obtain ⟨row,member,rfl,_⟩ := unitNamed_some found
    exact (plain row member).2
  · intro s t u v first second alike
    obtain ⟨_,_,_,spelledFirst⟩ := unitNamed_some first
    obtain ⟨_,_,_,spelledSecond⟩ := unitNamed_some second
    have equal : spelled s = spelled t := by
      funext row
      unfold spelled
      rw [← spelledFirst,← spelledSecond,alike]
    unfold unitNamed at first second
    rw [equal] at first
    exact Option.some.inj (first.symm.trans second)

theorem unitNamed_isSome {row : UnitRow} (member : row ∈ rows) (same : Text.lower row.unit.symbol = Text.lower (Text.stripped symbol)) :
    ∃ unit, unitNamed rows symbol = some unit := by
  obtain ⟨first,found⟩ := Option.isSome_iff_exists.mp (List.find?_isSome.mpr ⟨row,member,spelled_iff.mpr same⟩)
  exact ⟨first.unit,by rw [unitNamed,found]; rfl⟩

theorem gigabyte_of_reference (reference : HasReference rows) : ∃ gb, gigabyte (unitNamed rows) = .ok gb := by
  obtain ⟨⟨row,member,spelling⟩,hourRow,hourMember,hourSpelling⟩ := reference
  obtain ⟨hour,hourFound⟩ := unitNamed_isSome hourMember
    (hourSpelling.trans (by decide +kernel : "gb-hour" = Text.lower (Text.stripped "GB-hour")))
  have either : ∃ unit, (unitNamed rows "GB").or (unitNamed rows "gib") = some unit := by
    rcases spelling with gigabyte | gibibyte
    · obtain ⟨unit,found⟩ := unitNamed_isSome member (gigabyte.trans (by decide +kernel : "gb" = Text.lower (Text.stripped "GB")))
      exact ⟨unit,by rw [found]; rfl⟩
    · obtain ⟨unit,found⟩ := unitNamed_isSome member (gibibyte.trans (by decide +kernel : "gib" = Text.lower (Text.stripped "gib")))
      rw [found]
      cases unitNamed rows "GB" with
      | none => exact ⟨unit,rfl⟩
      | some first => exact ⟨first,rfl⟩
  obtain ⟨unit,found⟩ := either
  unfold gigabyte
  rw [found,hourFound]
  exact ⟨unit,rfl⟩

/-- Over every table with positive sizes, no offsets and one spelling of each
symbol, at all times and for every order of the rows: converting there and back
gives the value again, across storage and time-storage when the gigabyte rows
are there, and converting over a stop agrees with converting directly. -/
theorem conversion_lossless (rows : List UnitRow) (plain : PlainUnits rows) (distinct : DistinctSymbols rows) :
    LosslessConversion rows (ReferencedRelated rows) := by
  have sized := sized_unitNamed plain
  constructor
  · intro away home value a b src dst durationHours start source target related lasting
    rw [getUnit_distinct distinct] at source target
    rw [getUnit_distinct distinct,getUnit_distinct distinct]
    apply convert_back sized source target start
    rcases related with alike | ⟨crossing,reference⟩
    · exact Or.inl alike
    · refine Or.inr ⟨crossing,gigabyte_of_reference reference,?_⟩
      cases durationHours with
      | none =>
        unfold standardBillingMonthHours
        norm_num
      | some duration => exact lasting duration rfl
  · intro first second direct value stop final there a b c durationHours
    rw [getUnit_distinct distinct,getUnit_distinct distinct,getUnit_distinct distinct]
    exact convert_through sized

end Catalogue

def plainUnit (symbol : String) (dimensionality : Dimensionality) (scaleFactorToBase : ℚ) : UnitRow where
  unit := ⟨symbol,dimensionality,scaleFactorToBase,0⟩
  version := 1
  effectiveFrom := 0
  effectiveTo := none

def storageUnits : List UnitRow :=
  [plainUnit "MB" .digitalStorage 1, plainUnit "GB" .digitalStorage 1000, plainUnit "GB-hour" .timeStorage 1]

def noGigabyte : List UnitRow := [plainUnit "MB" .digitalStorage 1, plainUnit "GB-hour" .timeStorage 1]

def twoSpellings : List UnitRow :=
  [plainUnit "MB" .digitalStorage 1, plainUnit "GB" .digitalStorage 1000, plainUnit "gb" .digitalStorage 1]

def inTableOrder : UnitLookup := ⟨0,.stable,.stable⟩

def inTurnedOrder : UnitLookup := ⟨0,Descending.stable.turned,.stable⟩

theorem storageUnits_plain : PlainUnits storageUnits := by
  unfold PlainUnits storageUnits plainUnit
  decide +kernel

theorem storageUnits_lossless : LosslessConversion storageUnits (ReferencedRelated storageUnits) :=
  conversion_lossless storageUnits storageUnits_plain (by unfold DistinctSymbols; decide +kernel)

theorem returned_value {computed : Except ConversionError ℚ} {x y : ℚ} (returned : computed = .ok x) (value : computed.toOption = some y) :
    x = y := by
  rw [returned] at value
  exact Option.some.inj value

/-- Without a gigabyte in the catalogue the conversion to gigabyte-hours fails;
with two spellings of it, a gigabyte converted to megabytes comes back as other
units when the second lookup finds the other row. -/
theorem conversion_fails_or_loses :
    (PlainUnits noGigabyte ∧ ¬ LosslessConversion noGigabyte Related) ∧
      (PlainUnits twoSpellings ∧ ¬ LosslessConversion twoSpellings Related) := by
  refine ⟨⟨?_,?_⟩,?_,?_⟩
  · unfold PlainUnits noGigabyte plainUnit
    decide +kernel
  · intro lossless
    obtain ⟨converted,away,_⟩ := lossless.roundTrip inTableOrder inTableOrder 1 "MB" "GB-hour" ⟨"MB",.digitalStorage,1,0⟩
      ⟨"GB-hour",.timeStorage,1,0⟩ none (by norm_num) (by decide +kernel) (by decide +kernel) (Or.inr (Or.inl ⟨rfl,rfl⟩)) nofun
    have failed : (convert (getUnit inTableOrder noGigabyte) 1 "MB" "GB-hour" none none).toOption = none := by decide +kernel
    rw [away] at failed
    cases failed
  · unfold PlainUnits twoSpellings plainUnit
    decide +kernel
  · intro lossless
    obtain ⟨converted,away,home⟩ := lossless.roundTrip inTableOrder inTurnedOrder 1 "GB" "MB" ⟨"GB",.digitalStorage,1000,0⟩
      ⟨"MB",.digitalStorage,1,0⟩ none (by norm_num) (by decide +kernel) (by decide +kernel) (Or.inl rfl) nofun
    have thousand : (convert (getUnit inTableOrder twoSpellings) 1 "GB" "MB" none none).toOption = some 1000 := by decide +kernel
    rw [returned_value away thousand] at home
    have other : (convert (getUnit inTurnedOrder twoSpellings) 1000 "MB" "GB" none none).toOption = some 1000 := by
      decide +kernel
    exact absurd (returned_value home other) (by norm_num)

end CloudLens.Pricing
