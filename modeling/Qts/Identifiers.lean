import Qts.PythonText
import Mathlib.Algebra.Order.Ring.Rat

/-! # Stable identifiers and number types -/

namespace Qts

/-- Decimal amounts, prices and quantities, in exact rational arithmetic. -/
abbrev Decimal := ℚ

/-- An aware timestamp, as an instant on one integer time line. -/
abbrev DateTime := Int

/-- Base of the typed string identifiers. -/
structure StringId where
  value : String
  notEmpty : PythonText.isBlank value = false
deriving DecidableEq

structure AccountId extends StringId
deriving DecidableEq

structure StrategyId extends StringId
deriving DecidableEq

structure InstrumentId extends StringId
deriving DecidableEq

structure OrderId extends StringId
deriving DecidableEq

structure BrokerId extends StringId
deriving DecidableEq

structure CorrelationId extends StringId
deriving DecidableEq

theorem StringId.ext_value {first second : StringId} (values : first.value = second.value) :
    first = second := by
  cases first
  cases second
  cases values
  rfl

theorem InstrumentId.ext_value {first second : InstrumentId}
    (values : first.value = second.value) : first = second := by
  cases first
  cases second
  exact congrArg InstrumentId.mk (StringId.ext_value values)

end Qts
