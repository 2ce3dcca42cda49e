import Mathlib.Data.Nat.Log
import Mathlib.Data.Rat.Floor
import Mathlib.Algebra.BigOperators.Ring.List
import Mathlib.Algebra.Order.BigOperators.Group.List
import Mathlib.Tactic.Linarith
import Mathlib.Tactic.FieldSimp
import Mathlib.Tactic.Ring
import Mathlib.Tactic.Positivity

/-! Rounding of exact rationals to a decimal scale, in the two conventions that
decimal arithmetic offers: ties to the even neighbour and ties away from zero.
Amounts are rationals throughout, so every result here is exact; a quantity is
said to be at a scale when it is an integer multiple of the unit of that scale. -/
namespace CloudLens.Library.Decimal

def roundHalfEven (x : ℚ) : ℤ :=
  if x - ⌊x⌋ < 1/2 then ⌊x⌋
  else if 1/2 < x - ⌊x⌋ then ⌊x⌋ + 1
  else if ⌊x⌋ % 2 = 0 then ⌊x⌋ else ⌊x⌋ + 1

def roundHalfAway (x : ℚ) : ℤ :=
  if 0 ≤ x then ⌊x + 1/2⌋ else -⌊-x + 1/2⌋

def quantize (places : ℕ) (x : ℚ) : ℚ :=
  roundHalfEven (x * 10^places) / 10^places

/-- Ties away from zero. -/
def quantizeHalfUp (places : ℕ) (x : ℚ) : ℚ :=
  roundHalfAway (x * 10^places) / 10^places

def AtScale (places : ℕ) (x : ℚ) : Prop :=
  ∃ units : ℤ, x = units / 10^places

def fixed2 (x : ℚ) : String :=
  let cents := (roundHalfEven (x * 100)).natAbs
  (if x < 0 then "-" else "") ++ toString (cents / 100) ++ "." ++ toString (cents % 100 / 10) ++ toString (cents % 10)

def signedFixed2 (x : ℚ) : String :=
  let cents := (roundHalfEven (x * 100)).natAbs
  (if x < 0 then "-" else "+") ++ toString (cents / 100) ++ "." ++ toString (cents % 100 / 10) ++ toString (cents % 10)

def digitsAfter : ℕ → ℚ → String
  | 0, _ => ""
  | places + 1, x => if x = 0 then "" else toString ⌊10 * x⌋ ++ digitsAfter places (10 * x - ⌊10 * x⌋)

def plainText (x : ℚ) : String := toString ⌊x⌋ ++ "." ++ if x = ⌊x⌋ then "0" else digitsAfter 21 (x - ⌊x⌋)

/-- A float that is not negative, as it prints: very large and very small ones with an exponent. -/
def floatText (x : ℚ) : String :=
  if x = 0 ∨ 1/10^4 ≤ x ∧ x < 10^16 then plainText x
  else
    let exponent : ℤ := if 1 ≤ x then Nat.log 10 ⌊x⌋.toNat else -Nat.clog 10 ⌈1 / x⌉.toNat
    let mantissa := x / (10:ℚ)^exponent
    (if mantissa = ⌊mantissa⌋ then toString ⌊mantissa⌋ else plainText mantissa) ++ (if 0 ≤ exponent then "e+" else "e-") ++
      (if exponent.natAbs < 10 then "0" else "") ++ toString exponent.natAbs

theorem roundHalfEven_intCast (n : ℤ) : roundHalfEven n = n := by
  simp [roundHalfEven]

theorem roundHalfAway_between {x : ℚ} {n : ℤ} (start : 0 ≤ x) (below : x ≤ n) : 0 ≤ roundHalfAway x ∧ roundHalfAway x ≤ n := by
  have half : ⌊(n:ℚ) + 1/2⌋ = n := by
    rw [Int.floor_eq_iff]
    constructor <;> linarith
  unfold roundHalfAway
  rw [if_pos start]
  constructor
  · exact Int.floor_nonneg.mpr (by linarith)
  · exact (Int.floor_le_floor (by linarith)).trans_eq half

theorem roundHalfEven_error (x : ℚ) : |(roundHalfEven x : ℚ) - x| ≤ 1/2 := by
  have lower := Int.floor_le x
  have upper := Int.lt_floor_add_one x
  rw [abs_le]
  unfold roundHalfEven
  split_ifs <;> push_cast <;> constructor <;> linarith

theorem roundHalfAway_error (x : ℚ) : |(roundHalfAway x : ℚ) - x| ≤ 1/2 := by
  have lower := Int.floor_le (x + 1/2)
  have upper := Int.lt_floor_add_one (x + 1/2)
  have lowerNeg := Int.floor_le (-x + 1/2)
  have upperNeg := Int.lt_floor_add_one (-x + 1/2)
  rw [abs_le]
  unfold roundHalfAway
  split_ifs <;> push_cast <;> constructor <;> linarith

theorem roundHalfAway_mono {x y : ℚ} (below : x ≤ y) : roundHalfAway x ≤ roundHalfAway y := by
  unfold roundHalfAway
  split_ifs with first second
  · exact Int.floor_le_floor (by linarith)
  · linarith
  · have negative : 0 ≤ ⌊-x + 1/2⌋ := Int.floor_nonneg.mpr (by linarith)
    have positive : 0 ≤ ⌊y + 1/2⌋ := Int.floor_nonneg.mpr (by linarith)
    omega
  · exact neg_le_neg (Int.floor_le_floor (by linarith))

theorem scale_pos (places : ℕ) : (0:ℚ) < 10^places := by positivity

theorem quantizeHalfUp_between {places : ℕ} {x : ℚ} {n : ℤ} (start : 0 ≤ x) (below : x ≤ n) :
    0 ≤ quantizeHalfUp places x ∧ quantizeHalfUp places x ≤ n := by
  have scale := scale_pos places
  have scaled : x * 10^places ≤ ((n * 10^places : ℤ) : ℚ) := by
    push_cast
    exact mul_le_mul_of_nonneg_right below scale.le
  obtain ⟨low,high⟩ := roundHalfAway_between (mul_nonneg start scale.le) scaled
  unfold quantizeHalfUp
  constructor
  · exact div_nonneg (by exact_mod_cast low) scale.le
  · rw [div_le_iff₀ scale]
    exact_mod_cast high

theorem quantize_atScale (places : ℕ) (x : ℚ) : AtScale places (quantize places x) :=
  ⟨roundHalfEven (x * 10^places),rfl⟩

theorem quantize_of_atScale {places : ℕ} {x : ℚ} (scaled : AtScale places x) :
    quantize places x = x := by
  obtain ⟨units,rfl⟩ := scaled
  have cancel : (units:ℚ) / 10^places * 10^places = units :=
    div_mul_cancel₀ _ (scale_pos places).ne'
  rw [quantize,cancel,roundHalfEven_intCast]

theorem AtScale.add {places : ℕ} {x y : ℚ} (left : AtScale places x) (right : AtScale places y) :
    AtScale places (x + y) := by
  obtain ⟨a,rfl⟩ := left
  obtain ⟨b,rfl⟩ := right
  exact ⟨a + b,by push_cast; ring⟩

theorem AtScale.sub {places : ℕ} {x y : ℚ} (left : AtScale places x) (right : AtScale places y) :
    AtScale places (x - y) := by
  obtain ⟨a,rfl⟩ := left
  obtain ⟨b,rfl⟩ := right
  exact ⟨a - b,by push_cast; ring⟩

/-- Rounding the sum and the summands separately leaves at most one unit of the
scale between them: three half-unit errors, and the difference is whole. -/
theorem quantize_add_error (places : ℕ) (x y : ℚ) :
    |quantize places (x + y) - (quantize places x + quantize places y)| ≤ 1 / 10^places := by
  have pos := scale_pos places
  let whole := roundHalfEven ((x + y) * 10^places)
  let left := roundHalfEven (x * 10^places)
  let right := roundHalfEven (y * 10^places)
  have wholeError := abs_le.mp (roundHalfEven_error ((x + y) * 10^places))
  have leftError := abs_le.mp (roundHalfEven_error (x * 10^places))
  have rightError := abs_le.mp (roundHalfEven_error (y * 10^places))
  have below : ((whole - (left + right) : ℤ) : ℚ) < 2 := by
    push_cast; linarith [wholeError.2,leftError.1,rightError.1]
  have above : (-2 : ℚ) < ((whole - (left + right) : ℤ) : ℚ) := by
    push_cast; linarith [wholeError.1,leftError.2,rightError.2]
  have belowInt : whole - (left + right) < 2 := by exact_mod_cast below
  have aboveInt : -2 < whole - (left + right) := by exact_mod_cast above
  have small : |whole - (left + right)| ≤ 1 := by rw [abs_le]; omega
  have difference : quantize places (x + y) - (quantize places x + quantize places y) =
      ((whole - (left + right) : ℤ) : ℚ) / 10^places := by
    simp only [quantize,whole,left,right]
    push_cast
    ring
  rw [difference,abs_div,abs_of_pos pos]
  apply div_le_div_of_nonneg_right _ pos.le
  exact_mod_cast small

section Ties

def halfUnit (places : ℕ) : ℚ := 1 / (2 * 10^places)

def roundingError (places : ℕ) (x : ℚ) : ℚ := quantize places x - x

/-- Every summand is a tie rounded in one direction, the sum a tie rounded in the other. -/
def TiesApart (places : ℕ) (xs : List ℚ) : Prop :=
  (∀ x ∈ xs, roundingError places x = halfUnit places) ∧ roundingError places xs.sum = -halfUnit places ∨
    (∀ x ∈ xs, roundingError places x = -halfUnit places) ∧ roundingError places xs.sum = halfUnit places

instance (places : ℕ) (xs : List ℚ) : Decidable (TiesApart places xs) :=
  inferInstanceAs (Decidable (_ ∧ _ ∨ _ ∧ _))

variable {places : ℕ}

theorem halfUnit_pos (places : ℕ) : 0 < halfUnit places := by
  unfold halfUnit
  positivity

theorem roundingError_le (places : ℕ) (x : ℚ) : |roundingError places x| ≤ halfUnit places := by
  have pos := scale_pos places
  have scaled : roundingError places x = ((roundHalfEven (x * 10^places) : ℚ) - x * 10^places) / 10^places := by
    unfold roundingError quantize
    field_simp
  have half : halfUnit places = (1/2) / 10^places := by
    unfold halfUnit
    field_simp
  rw [scaled,half,abs_div,abs_of_pos pos]
  exact div_le_div_of_nonneg_right (roundHalfEven_error _) pos.le

theorem roundHalfEven_le {x : ℚ} {n : ℤ} (below : x ≤ n) : roundHalfEven x ≤ n := by
  have near := (abs_le.mp (roundHalfEven_error x)).2
  have close : (roundHalfEven x : ℚ) < n + 1 := by linarith
  exact Int.lt_add_one_iff.mp (by exact_mod_cast close)

theorem roundHalfEven_nonpos_iff (x : ℚ) : roundHalfEven x ≤ 0 ↔ x ≤ 1/2 := by
  constructor
  · intro rounded
    by_contra above
    have start : 0 ≤ ⌊x⌋ := Int.floor_nonneg.mpr (by linarith)
    unfold roundHalfEven at rounded
    split at rounded
    · rename_i low
      have zero : ⌊x⌋ = 0 := le_antisymm rounded start
      rw [zero] at low
      norm_num at low
      linarith
    · split at rounded
      · omega
      · rename_i high
        have zero : ⌊x⌋ = 0 := by
          split at rounded <;> omega
        rw [zero] at high
        norm_num at high
        linarith
  · intro below
    have start : ⌊x⌋ ≤ 0 := Int.lt_add_one_iff.mp (Int.floor_lt.mpr (by push_cast; linarith))
    rcases Int.lt_or_eq_of_le start with negative | zero
    · unfold roundHalfEven
      split_ifs <;> omega
    · unfold roundHalfEven
      have untied : ¬ 1/2 < x - ⌊x⌋ := by
        rw [zero]
        push_cast
        linarith
      rw [if_neg untied]
      split_ifs <;> omega

theorem roundHalfEven_eq_even {m : ℤ} (even : m % 2 = 0) (x : ℚ) : roundHalfEven x = m ↔ |x - m| ≤ 1/2 := by
  constructor
  · intro rounded
    rw [← rounded,abs_sub_comm]
    exact roundHalfEven_error x
  · intro near
    obtain ⟨below,above⟩ := abs_le.mp near
    by_cases reached : (m : ℚ) ≤ x
    · have whole : ⌊x⌋ = m := by
        rw [Int.floor_eq_iff]
        exact ⟨reached,by linarith⟩
      unfold roundHalfEven
      rw [whole,if_neg (by linarith : ¬ 1/2 < x - (m:ℚ)),if_pos even,ite_self]
    · have whole : ⌊x⌋ = m - 1 := by
        rw [Int.floor_eq_iff]
        push_cast
        exact ⟨by linarith,by linarith⟩
      have odd : ¬ (m - 1) % 2 = 0 := by omega
      have high : ¬ x - ((m - 1 : ℤ) : ℚ) < 1/2 := by
        push_cast
        linarith
      unfold roundHalfEven
      rw [whole,if_neg high,if_neg odd,ite_self,sub_add_cancel]

theorem quantize_le {places : ℕ} {x bound : ℚ} (scaled : AtScale places bound) (below : x ≤ bound) :
    quantize places x ≤ bound := by
  obtain ⟨units,rfl⟩ := scaled
  have pos := scale_pos places
  unfold quantize
  rw [div_le_div_iff_of_pos_right pos]
  exact_mod_cast roundHalfEven_le ((le_div_iff₀ pos).mp below)

theorem roundHalfEven_mono {x y : ℚ} (below : x ≤ y) : roundHalfEven x ≤ roundHalfEven y := by
  rcases (Int.floor_mono below).lt_or_eq with apart | same
  · have upper : roundHalfEven x ≤ ⌊x⌋ + 1 := by
      apply roundHalfEven_le
      push_cast
      exact (Int.lt_floor_add_one x).le
    have lower : ⌊y⌋ ≤ roundHalfEven y := by
      unfold roundHalfEven
      split_ifs <;> omega
    omega
  · unfold roundHalfEven
    rw [← same]
    split_ifs <;> first | omega | linarith

theorem quantize_mono (places : ℕ) : Monotone (quantize places) := by
  intro x y below
  have scale := scale_pos places
  unfold quantize
  apply div_le_div_of_nonneg_right _ scale.le
  exact_mod_cast roundHalfEven_mono (mul_le_mul_of_nonneg_right below scale.le)

theorem quantizeHalfUp_mono (places : ℕ) : Monotone (quantizeHalfUp places) := by
  intro x y below
  have scale := scale_pos places
  unfold quantizeHalfUp
  apply div_le_div_of_nonneg_right _ scale.le
  exact_mod_cast roundHalfAway_mono (mul_le_mul_of_nonneg_right below scale.le)

theorem scaled_lt {round : ℚ → ℤ} (near : ∀ x, |(round x : ℚ) - x| ≤ 1/2) (places : ℕ) (x : ℚ) :
    (round ((x - 2) * 10^places) : ℚ) / 10^places < round (x * 10^places) / 10^places := by
  have scale := scale_pos places
  have one : (1:ℚ) ≤ 10^places := one_le_pow₀ (by norm_num)
  have first := (abs_le.mp (near ((x - 2) * 10^places))).2
  have second := (abs_le.mp (near (x * 10^places))).1
  rw [div_lt_div_iff_of_pos_right scale]
  linarith

theorem roundHalfEven_nonneg {x : ℚ} (start : 0 ≤ x) : 0 ≤ roundHalfEven x := by
  have near := (abs_le.mp (roundHalfEven_error x)).1
  have close : ((-1 : ℤ) : ℚ) < roundHalfEven x := by
    push_cast
    linarith
  have above : -1 < roundHalfEven x := by exact_mod_cast close
  omega

theorem quantize_nonneg {places : ℕ} {x : ℚ} (start : 0 ≤ x) : 0 ≤ quantize places x := by
  have pos := scale_pos places
  exact div_nonneg (Int.cast_nonneg (roundHalfEven_nonneg (mul_nonneg start pos.le))) pos.le

theorem quantize_nonpos_iff (places : ℕ) (x : ℚ) : quantize places x ≤ 0 ↔ x ≤ halfUnit places := by
  have pos := scale_pos places
  have scaled : quantize places x ≤ 0 ↔ roundHalfEven (x * 10^places) ≤ 0 := by
    unfold quantize
    rw [div_le_iff₀ pos,zero_mul]
    exact_mod_cast Iff.rfl
  rw [scaled,roundHalfEven_nonpos_iff,halfUnit,← le_div_iff₀ pos,div_div]

theorem sum_quantize_eq (places : ℕ) (xs : List ℚ) :
    (xs.map (quantize places)).sum = xs.sum + (xs.map (roundingError places)).sum := by
  induction xs with
  | nil => simp
  | cons x xs ih =>
    simp only [List.map_cons,List.sum_cons,ih,roundingError]
    ring

theorem sum_quantize_close (places : ℕ) (xs : List ℚ) :
    |(xs.map (quantize places)).sum - xs.sum| ≤ xs.length * halfUnit places := by
  induction xs with
  | nil => simp
  | cons x xs ih =>
    have head := abs_le.mp (roundingError_le places x)
    have tail := abs_le.mp ih
    simp only [roundingError] at head
    simp only [List.map_cons,List.sum_cons,List.length_cons]
    push_cast
    rw [abs_le]
    constructor <;> linarith [head.1,head.2,tail.1,tail.2]

theorem sum_quantize_atScale (places : ℕ) (xs : List ℚ) : AtScale places (xs.map (quantize places)).sum := by
  induction xs with
  | nil => exact ⟨0,by simp⟩
  | cons x xs ih => exact (quantize_atScale places x).add ih

theorem sum_le_bound {bound : ℚ} {xs : List ℚ} (bounded : ∀ x ∈ xs, x ≤ bound) : xs.sum ≤ xs.length * bound := by
  have total := List.sum_le_card_nsmul xs bound bounded
  rw [nsmul_eq_mul] at total
  exact total

theorem eq_bound_of_sum {bound : ℚ} {xs : List ℚ} (bounded : ∀ x ∈ xs, x ≤ bound) (reached : xs.length * bound ≤ xs.sum) :
    ∀ x ∈ xs, x = bound := by
  induction xs with
  | nil => simp
  | cons x xs ih =>
    have head := bounded x (by simp)
    have inside : ∀ y ∈ xs, y ≤ bound := fun y member => bounded y (by simp [member])
    have tail := sum_le_bound inside
    rw [List.sum_cons,List.length_cons] at reached
    push_cast at reached
    intro y member
    rcases List.mem_cons.mp member with rfl | later
    · linarith
    · exact ih inside (by linarith) y later

private theorem signed_error {sign : ℚ} (unit : sign = 1 ∨ sign = -1) (x : ℚ) :
    -halfUnit places ≤ sign * roundingError places x ∧ sign * roundingError places x ≤ halfUnit places := by
  have bound := abs_le.mp (roundingError_le places x)
  rcases unit with rfl | rfl
  · constructor <;> linarith [bound.1,bound.2]
  · constructor <;> linarith [bound.1,bound.2]

private theorem signed_difference {sign : ℚ} (unit : sign = 1 ∨ sign = -1) (xs : List ℚ) :
    ∃ n : ℤ, sign * ((xs.map (quantize places)).sum - quantize places xs.sum) = 2 * n * halfUnit places := by
  obtain ⟨units,whole⟩ := (sum_quantize_atScale places xs).sub (quantize_atScale places xs.sum)
  have unitSize : (units : ℚ) / 10^places = 2 * units * halfUnit places := by
    unfold halfUnit
    field_simp
  rw [whole,unitSize]
  rcases unit with rfl | rfl
  · exact ⟨units,by ring⟩
  · exact ⟨-units,by push_cast; ring⟩

-- The difference is a whole number of units, so exceeding half a unit for each
/-- summand leaves at least half a unit more. -/
private theorem excess_reaches {sign : ℚ} (unit : sign = 1 ∨ sign = -1) {xs : List ℚ}
    (excess : xs.length * halfUnit places < sign * ((xs.map (quantize places)).sum - quantize places xs.sum)) :
    (xs.length + 1) * halfUnit places ≤ sign * ((xs.map (quantize places)).sum - quantize places xs.sum) := by
  have pos := halfUnit_pos places
  obtain ⟨n,measured⟩ := signed_difference unit xs
  rw [measured] at excess ⊢
  have above : (xs.length : ℚ) < 2 * n := lt_of_mul_lt_mul_right excess pos.le
  have aboveInt : (xs.length : ℤ) + 1 ≤ 2 * n := by
    have strict : (xs.length : ℤ) < 2 * n := by exact_mod_cast above
    omega
  apply mul_le_mul_of_nonneg_right _ pos.le
  exact_mod_cast aboveInt

private theorem ties_of_excess {sign : ℚ} (unit : sign = 1 ∨ sign = -1) {xs : List ℚ}
    (excess : xs.length * halfUnit places < sign * ((xs.map (quantize places)).sum - quantize places xs.sum)) :
    (∀ x ∈ xs, sign * roundingError places x = halfUnit places) ∧ sign * roundingError places xs.sum = -halfUnit places := by
  have errors : ∀ y ∈ xs.map (fun x => sign * roundingError places x), y ≤ halfUnit places := by
    intro y member
    obtain ⟨x,_,rfl⟩ := List.mem_map.mp member
    exact (signed_error unit x).2
  have total := sum_le_bound errors
  have factored : (xs.map (fun x => sign * roundingError places x)).sum = sign * (xs.map (roundingError places)).sum :=
    List.sum_map_mul_left xs (roundingError places) sign
  have split : sign * ((xs.map (quantize places)).sum - quantize places xs.sum) =
      (xs.map (fun x => sign * roundingError places x)).sum - sign * roundingError places xs.sum := by
    rw [sum_quantize_eq,factored,roundingError]
    ring
  have beyond := excess_reaches unit excess
  have last := (signed_error unit xs.sum : -halfUnit places ≤ _ ∧ _).1
  have reached : (xs.map (fun x => sign * roundingError places x)).length * halfUnit places ≤
      (xs.map (fun x => sign * roundingError places x)).sum := by
    rw [List.length_map]
    linarith
  rw [List.length_map] at total
  refine ⟨?_,by linarith⟩
  intro x member
  exact eq_bound_of_sum errors reached _ (List.mem_map_of_mem member)

/-- The rounded summands add up to the rounded sum within half a unit for each
summand, except when ties on the two sides were rounded in opposite directions. -/
theorem sum_quantize_error_iff (places : ℕ) (xs : List ℚ) :
    |(xs.map (quantize places)).sum - quantize places xs.sum| ≤ xs.length * halfUnit places ↔ ¬ TiesApart places xs := by
  have pos := halfUnit_pos places
  have constant : ∀ c : ℚ, (∀ x ∈ xs, roundingError places x = c) → (xs.map (roundingError places)).sum = xs.length * c := by
    intro c same
    rw [List.map_congr_left same]
    simp
  constructor
  · intro close apart
    obtain ⟨below,above⟩ := abs_le.mp close
    rw [sum_quantize_eq] at below above
    rcases apart with ⟨up,down⟩ | ⟨down,up⟩
    · rw [constant _ up] at above
      rw [roundingError] at down
      linarith
    · rw [constant _ down] at below
      rw [roundingError] at up
      linarith
  · intro together
    by_contra far
    apply together
    rcases lt_abs.mp (not_le.mp far) with above | below
    · obtain ⟨all,last⟩ := ties_of_excess (Or.inl rfl) (by rw [one_mul]; exact above)
      simp only [one_mul] at all last
      exact Or.inl ⟨all,last⟩
    · obtain ⟨all,last⟩ := ties_of_excess (Or.inr rfl) (by rw [neg_one_mul]; exact below)
      simp only [neg_one_mul,neg_eq_iff_eq_neg,neg_neg] at all last
      exact Or.inr ⟨all,last⟩

end Ties

end CloudLens.Library.Decimal
