import Mathlib.Data.Int.Log
import Mathlib.Data.Rat.Floor
import Mathlib.Tactic.Linarith
import Qts.Identifiers

/-!
# Rounded arithmetic

Decimal and binary floating-point numbers keep so many digits of a result: a value is rounded to a
multiple of a unit, which its leading digit gives, and a tie goes to the even multiple.  Rounding
is monotone, whatever the base and the rule for the unit, and leaves a multiple of the unit alone.
The rule for the unit is a parameter; decimal arithmetic and binary64 are two of its values.
-/

namespace Qts

namespace Rounding

/-- The nearest integer, the even one of two. -/
def roundHalfEven (value : ℚ) : Int :=
  let below := value.floor
  let rest := value - below
  if rest < 1 / 2 then below
  else if 1 / 2 < rest then below + 1
  else if below % 2 = 0 then below else below + 1

theorem roundHalfEven_intCast (value : Int) : roundHalfEven value = value := by
  simp [roundHalfEven]

theorem roundHalfEven_bounds (value : ℚ) :
    value.floor ≤ roundHalfEven value ∧ roundHalfEven value ≤ value.floor + 1 := by
  unfold roundHalfEven
  dsimp only
  split_ifs <;> omega

theorem roundHalfEven_mono {value other : ℚ} (order : value ≤ other) :
    roundHalfEven value ≤ roundHalfEven other := by
  rcases (Int.floor_le_floor order).lt_or_eq with before | same
  · have below := (roundHalfEven_bounds value).2
    have above := (roundHalfEven_bounds other).1
    change value.floor < other.floor at before
    omega
  · have rests : value - value.floor ≤ other - other.floor := by
      change value.floor = other.floor at same
      rw [same]
      linarith
    unfold roundHalfEven
    change value.floor = other.floor at same
    dsimp only
    rw [same] at rests ⊢
    split_ifs <;> first | omega | linarith

section Units

variable (base : ℕ) (unitExponent : ℤ → ℤ)

/-- A value to the unit of its leading digit. -/
def roundTo (value : ℚ) : ℚ :=
  if value = 0 then 0
  else
    let unit : ℚ := (base : ℚ) ^ unitExponent (Int.log base |value|)
    roundHalfEven (value / unit) * unit

/-- The unit grows with the leading digit, and is at most that digit where it has grown. -/
structure ValidUnits : Prop where
  base : 1 < base
  mono : ∀ {lower exponent}, lower ≤ exponent → unitExponent lower ≤ unitExponent exponent
  kept : ∀ lower exponent, lower < exponent → unitExponent lower < unitExponent exponent →
    unitExponent exponent ≤ exponent

variable {base unitExponent} {value other : ℚ}

theorem roundTo_zero : roundTo base unitExponent 0 = 0 :=
  if_pos rfl

theorem roundTo_eq (pos : 0 < value) :
    roundTo base unitExponent value =
      roundHalfEven (value / (base : ℚ) ^ unitExponent (Int.log base value)) *
        (base : ℚ) ^ unitExponent (Int.log base value) := by
  rw [roundTo, if_neg pos.ne', abs_of_pos pos]

namespace ValidUnits

variable (valid : ValidUnits base unitExponent)

include valid

theorem power_pos (exponent : ℤ) : (0 : ℚ) < (base : ℚ) ^ exponent :=
  zpow_pos (by exact_mod_cast valid.base.pos) exponent

/-- The unit divides every power of the base that is at least the unit. -/
theorem power_div (exponent : ℤ) {power : ℤ} (below : exponent ≤ power) :
    ∃ count : ℤ, (base : ℚ) ^ power / (base : ℚ) ^ exponent = count := by
  obtain ⟨digits, rfl⟩ := Int.le.dest below
  refine ⟨(base : ℤ) ^ digits, ?_⟩
  rw [zpow_add₀ (by exact_mod_cast valid.base.pos.ne'),
    mul_div_cancel_left₀ _ (valid.power_pos _).ne']
  simp

/-- Rounding crosses no power of the base that its unit divides, neither from below nor from
above. -/
theorem roundTo_le_power (pos : 0 < value) {power : ℤ}
    (below : unitExponent (Int.log base value) ≤ power) (within : value ≤ (base : ℚ) ^ power) :
    roundTo base unitExponent value ≤ (base : ℚ) ^ power := by
  obtain ⟨count, whole⟩ := valid.power_div _ below
  have unit := valid.power_pos (unitExponent (Int.log base value))
  rw [roundTo_eq pos, ← le_div_iff₀ unit, whole]
  have scaled := roundHalfEven_mono (div_le_div_of_nonneg_right within unit.le)
  rw [whole, roundHalfEven_intCast] at scaled
  exact_mod_cast scaled

theorem power_le_roundTo (pos : 0 < value) {power : ℤ}
    (below : unitExponent (Int.log base value) ≤ power) (within : (base : ℚ) ^ power ≤ value) :
    (base : ℚ) ^ power ≤ roundTo base unitExponent value := by
  obtain ⟨count, whole⟩ := valid.power_div _ below
  have unit := valid.power_pos (unitExponent (Int.log base value))
  rw [roundTo_eq pos, ← div_le_iff₀ unit, whole]
  have scaled := roundHalfEven_mono (div_le_div_of_nonneg_right within unit.le)
  rw [whole, roundHalfEven_intCast] at scaled
  exact_mod_cast scaled

theorem roundTo_nonneg (nonneg : 0 ≤ value) : 0 ≤ roundTo base unitExponent value := by
  rcases nonneg.eq_or_lt with rfl | pos
  · exact roundTo_zero.ge
  · have unit := valid.power_pos (unitExponent (Int.log base value))
    have scaled := roundHalfEven_mono (div_pos pos unit).le
    rw [show (0 : ℚ) = ((0 : ℤ) : ℚ) from rfl, roundHalfEven_intCast] at scaled
    rw [roundTo_eq pos]
    exact mul_nonneg (by exact_mod_cast scaled) unit.le

/-- Values of one unit are rounded in their order; else a power of the base parts them. -/
theorem roundTo_mono (nonneg : 0 ≤ value) (order : value ≤ other) :
    roundTo base unitExponent value ≤ roundTo base unitExponent other := by
  rcases nonneg.eq_or_lt with rfl | pos
  · rw [roundTo_zero]
    exact valid.roundTo_nonneg order
  have later := pos.trans_le order
  have logs : Int.log base value ≤ Int.log base other := Int.log_mono_right pos order
  rcases (valid.mono logs).lt_or_eq with coarser | same
  · have digit : Int.log base value < Int.log base other := by
      refine lt_of_le_of_ne logs fun equal => ?_
      rw [equal] at coarser
      exact lt_irrefl _ coarser
    have kept := valid.kept _ _ digit coarser
    have under : value ≤ (base : ℚ) ^ Int.log base other :=
      (Int.lt_zpow_succ_log_self valid.base value).le.trans
        (zpow_le_zpow_right₀ (by exact_mod_cast valid.base.le) (by omega))
    exact (valid.roundTo_le_power pos (coarser.le.trans kept) under).trans
      (valid.power_le_roundTo later kept (Int.zpow_log_le_self valid.base later))
  · have unit := valid.power_pos (unitExponent (Int.log base other))
    rw [roundTo_eq pos, roundTo_eq later, same]
    refine mul_le_mul_of_nonneg_right ?_ unit.le
    exact_mod_cast roundHalfEven_mono (div_le_div_of_nonneg_right order unit.le)

end ValidUnits

end Units

/-! ## Binary floating point -/

/-- A value as binary64 has it, short of its overflow. -/
def roundBinary64 : ℚ → ℚ := roundTo 2 fun exponent => max (exponent - 52) (-1074)

theorem binary64_valid : ValidUnits 2 fun exponent => max (exponent - 52) (-1074) where
  base := by decide
  mono order := by omega
  kept lower exponent _ grown := by omega

end Rounding

/-! ## Decimal arithmetic -/

namespace DecimalRounding

/-- The digits that the default context keeps. -/
def precision : Nat := 28

/-- A value to the significant digits that are kept. -/
def roundDecimal : Decimal → Decimal :=
  Rounding.roundTo 10 fun exponent => exponent + 1 - precision

theorem decimal_valid : Rounding.ValidUnits 10 fun exponent => exponent + 1 - precision where
  base := by decide
  mono order := by omega
  kept lower exponent _ _ := by
    unfold precision
    omega

def sum (amounts : List Decimal) : Decimal :=
  amounts.foldl (fun total amount => roundDecimal (total + amount)) 0

/-- A value that needs no more digits than are kept. -/
def Exact (value : Decimal) : Prop :=
  roundDecimal value = value

instance (value : Decimal) : Decidable (Exact value) :=
  inferInstanceAs (Decidable (roundDecimal value = value))

/-- No partial sum is changed by rounding. -/
def SumsExactly (amounts : List Decimal) : Prop :=
  ∀ count ≤ amounts.length, roundDecimal (amounts.take count).sum = (amounts.take count).sum

instance (amounts : List Decimal) : Decidable (SumsExactly amounts) :=
  inferInstanceAs (Decidable (∀ count ≤ amounts.length, _))

theorem SumsExactly.append_left {amounts more : List Decimal}
    (exact : SumsExactly (amounts ++ more)) : SumsExactly amounts := by
  intro count within
  have inside := exact count (within.trans (by rw [List.length_append]; exact Nat.le_add_right _ _))
  rwa [List.take_append_of_le_length within] at inside

theorem sum_eq {amounts : List Decimal} (exact : SumsExactly amounts) :
    sum amounts = amounts.sum := by
  induction amounts using List.reverseRecOn with
  | nil => rfl
  | append_singleton amounts amount ih =>
    have total := exact _ le_rfl
    rw [List.take_length, List.sum_append, List.sum_singleton] at total
    rw [sum, List.foldl_append, List.sum_append, List.sum_singleton]
    change roundDecimal (sum amounts + amount) = _
    rw [ih exact.append_left, total]

theorem roundDecimal_sum_add {amounts : List Decimal} {amount : Decimal}
    (exact : SumsExactly (amounts ++ [amount])) :
    roundDecimal (sum amounts + amount) = amounts.sum + amount := by
  have total := exact _ le_rfl
  rw [List.take_length, List.sum_append, List.sum_singleton] at total
  rw [sum_eq exact.append_left, total]

end DecimalRounding

end Qts
