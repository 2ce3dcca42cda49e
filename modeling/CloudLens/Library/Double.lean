import CloudLens.Library.Decimal
import Mathlib.Data.Int.Log

/-! Binary floating point of 53 bits for numbers that are not negative and do not
overflow: a float is the rational it stands for, a sum is rounded after each term,
and the text of a float is the shortest decimal that is read back as it. -/
namespace CloudLens.Library.Double
open Library.Decimal

def exponent (x : ℚ) : ℤ := max (Int.log 2 x) (-1022)

/-- The distance of neighbouring floats at a number. -/
def unit (x : ℚ) : ℚ := 2^(exponent x - 52)

/-- The float nearest to a number, of two equally near the even one. -/
def nearest (x : ℚ) : ℚ := roundHalfEven (x / unit x) * unit x

def sum (floats : List ℚ) : ℚ := floats.foldl (fun total float => nearest (total + float)) 0

/-- A number brought to so many digits by a rounding. -/
def brought (digits : ℕ) (round : ℚ → ℤ) (x : ℚ) : ℚ :=
  let scale : ℚ := 10^((digits : ℤ) - 1 - Int.log 10 x)
  round (x * scale) / scale

/-- The decimals of so many digits about a number, the nearest one first. -/
def decimals (digits : ℕ) (x : ℚ) : List ℚ := [brought digits roundHalfEven x, brought digits Int.floor x, brought digits Int.ceil x]

/-- The number that the text of a float denotes. -/
def shortest (float : ℚ) : ℚ :=
  ((List.range 17).findSome? (fun more => (decimals (more + 1) float).find? (fun x => nearest x = float))).getD float

variable {x y : ℚ}

theorem unit_pos (x : ℚ) : 0 < unit x := zpow_pos (by norm_num) _

theorem nearest_nonneg (start : 0 ≤ x) : 0 ≤ nearest x := by
  have whole : 0 ≤ roundHalfEven (x / unit x) := roundHalfEven_nonneg (div_nonneg start (unit_pos x).le)
  exact mul_nonneg (by exact_mod_cast whole) (unit_pos x).le

theorem sum_nonneg {floats : List ℚ} (start : ∀ float ∈ floats, 0 ≤ float) : 0 ≤ sum floats := by
  have run : ∀ total : ℚ, 0 ≤ total → 0 ≤ floats.foldl (fun total float => nearest (total + float)) total := by
    induction floats with
    | nil => exact fun _ held => held
    | cons float rest ih =>
      intro total held
      exact ih (fun other member => start other (List.mem_cons_of_mem _ member)) _
        (nearest_nonneg (add_nonneg held (start float List.mem_cons_self)))
  exact run 0 le_rfl

/-- The powers of two that bound the numbers of one exponent are 2^52 and 2^53 units. -/
theorem power_eq_units (x : ℚ) : (2:ℚ)^exponent x = (2^52 : ℤ) * unit x ∧ (2:ℚ)^(exponent x + 1) = (2^53 : ℤ) * unit x := by
  have split : (2:ℚ)^exponent x = 2^(52:ℤ) * unit x := by
    rw [unit,← zpow_add₀ (by norm_num)]
    congr 1
    ring
  constructor
  · rw [split]
    norm_num
  · rw [zpow_add_one₀ (by norm_num),split]
    norm_num
    ring

theorem nearest_le_power (x : ℚ) : nearest x ≤ 2^(exponent x + 1) := by
  have short : x ≤ 2^(exponent x + 1) := by
    refine (Int.lt_zpow_succ_log_self (by norm_num) x).le.trans (zpow_le_zpow_right₀ (by norm_num) ?_)
    exact add_le_add (le_max_left _ _) le_rfl
  rw [(power_eq_units x).2] at short ⊢
  have whole := roundHalfEven_le ((div_le_iff₀ (unit_pos x)).mpr short)
  exact mul_le_mul_of_nonneg_right (by exact_mod_cast whole) (unit_pos x).le

theorem power_le_nearest (normal : exponent y = Int.log 2 y) (start : 0 < y) : 2^exponent y ≤ nearest y := by
  have long : (2:ℚ)^exponent y ≤ y := by
    rw [normal]
    exact Int.zpow_log_le_self (by norm_num) start
  rw [(power_eq_units y).1] at long ⊢
  have whole := roundHalfEven_mono ((le_div_iff₀ (unit_pos y)).mpr long)
  rw [roundHalfEven_intCast] at whole
  exact mul_le_mul_of_nonneg_right (by exact_mod_cast whole) (unit_pos y).le

theorem nearest_mono (start : 0 < x) (below : x ≤ y) : nearest x ≤ nearest y := by
  have rising : exponent x ≤ exponent y := max_le_max (Int.log_mono_right start below) le_rfl
  rcases rising.eq_or_lt with same | less
  · have units : unit x = unit y := by rw [unit,unit,same]
    unfold nearest
    rw [units]
    have whole := roundHalfEven_mono (div_le_div_of_nonneg_right below (unit_pos y).le)
    exact mul_le_mul_of_nonneg_right (by exact_mod_cast whole) (unit_pos y).le
  · have normal : exponent y = Int.log 2 y := by
      unfold exponent at less ⊢
      omega
    calc nearest x ≤ 2^(exponent x + 1) := nearest_le_power x
      _ ≤ 2^exponent y := zpow_le_zpow_right₀ (by norm_num) less
      _ ≤ nearest y := power_le_nearest normal (start.trans_le below)

theorem shortest_cases (float : ℚ) : nearest (shortest float) = float ∨ shortest float = float := by
  unfold shortest
  cases found : (List.range 17).findSome? (fun more => (decimals (more + 1) float).find? (fun x => nearest x = float)) with
  | none => exact Or.inr rfl
  | some x =>
    obtain ⟨more,_,first⟩ := List.exists_of_findSome?_eq_some found
    have readBack := List.find?_some first
    exact Or.inl (of_decide_eq_true readBack)

theorem shortest_zero : shortest 0 = 0 := by
  decide +kernel

/-- A float up to a bound that is a float itself denotes no more than it as a text. -/
theorem shortest_le {float bound : ℚ} (start : 0 < bound) (fixed : nearest bound = bound) (text : shortest bound = bound)
    (below : float ≤ bound) : shortest float ≤ bound := by
  rcases shortest_cases float with readBack | same
  · by_contra above
    have more := nearest_mono start (not_le.mp above).le
    rw [fixed,readBack] at more
    rw [le_antisymm below more,text] at above
    exact above le_rfl
  · rwa [same]

example : shortest (sum ([251/10, 271/5, 207/10].map nearest)) = 10000000000000001 / 10^14 := by decide +kernel

end CloudLens.Library.Double
