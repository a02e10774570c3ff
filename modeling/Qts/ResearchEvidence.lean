import Qts.PythonText
import Qts.RaisingCalls
import Mathlib.Algebra.Order.Ring.Rat

/-! # Research evidence -/

namespace Qts

/-! ## Floating-point values -/

inductive FloatValue
  | nan
  | negInfinity
  | finite (value : ℚ)
  | infinity
  deriving DecidableEq

namespace FloatValue

def lt : FloatValue → FloatValue → Bool
  | nan, _ => false
  | _, nan => false
  | negInfinity, other => decide (other ≠ negInfinity)
  | finite _, negInfinity => false
  | finite first, finite second => decide (first < second)
  | finite _, infinity => true
  | infinity, _ => false

def le : FloatValue → FloatValue → Bool
  | nan, _ => false
  | _, nan => false
  | negInfinity, _ => true
  | finite _, negInfinity => false
  | finite first, finite second => decide (first ≤ second)
  | finite _, infinity => true
  | infinity, other => decide (other = infinity)

def abs : FloatValue → FloatValue
  | nan => nan
  | negInfinity => infinity
  | finite value => finite |value|
  | infinity => infinity

def isFinite : FloatValue → Bool
  | finite _ => true
  | _ => false

@[simp]
theorem isFinite_abs (value : FloatValue) : value.abs.isFinite = value.isFinite := by
  cases value <;> rfl

theorem quarter_nonNegative : (finite (1 / 4)).lt (finite 0) = false := by
  decide +kernel

variable {value bound : FloatValue}

theorem le_of_lt_eq_false (shown : value ≠ nan) (bounded : bound ≠ nan)
    (within : bound.lt value = false) : value.le bound = true := by
  cases value <;> cases bound <;> simp_all [lt, le]

/-- Nothing is comparable with what is not a number. -/
theorem ne_nan_of_le (within : value.le bound = true) : value ≠ nan ∧ bound ≠ nan := by
  cases value <;> cases bound <;> simp_all [le]

theorem isFinite_ne_nan {value : FloatValue} (finite : value.isFinite = true) : value ≠ nan := by
  rintro rfl
  exact Bool.false_ne_true finite

theorem finite_le_iff (within : bound.lt value = false) :
    (value.isFinite = true ∧ value.le bound = true) ↔
      (value.isFinite = true ∧ bound ≠ nan) := by
  constructor
  · rintro ⟨finite, le⟩
    exact ⟨finite, (ne_nan_of_le le).2⟩
  · rintro ⟨finite, bounded⟩
    exact ⟨finite, le_of_lt_eq_false (isFinite_ne_nan finite) bounded within⟩

theorem finite_ge_iff (within : value.lt bound = false) :
    (value.isFinite = true ∧ bound.le value = true) ↔
      (value.isFinite = true ∧ bound ≠ nan) := by
  constructor
  · rintro ⟨finite, le⟩
    exact ⟨finite, (ne_nan_of_le le).1⟩
  · rintro ⟨finite, bounded⟩
    exact ⟨finite, le_of_lt_eq_false bounded (isFinite_ne_nan finite) within⟩

end FloatValue

/-! ## Research evidence -/

open FloatValue

inductive EvidenceValue
  | null
  | bool (value : Bool)
  | int (value : Int)
  | float (value : FloatValue)
  | string (value : String)
  | array (items : List EvidenceValue)
  | object (fields : List (String × EvidenceValue))

/-- The fields of a JSON object. -/
abbrev Evidence := List (String × EvidenceValue)

structure NumberTexts where
  float : String → Option FloatValue
  general : FloatValue → String
  precise : FloatValue → String
  str : EvidenceValue → String
  repr : String → String

namespace EvidenceValue

def mapping : Option EvidenceValue → Option Evidence
  | some (object fields) => some fields
  | _ => none

def isTrue : Option EvidenceValue → Bool
  | some (bool value) => value
  | _ => false

def isFalse : Option EvidenceValue → Bool
  | some (bool value) => !value
  | _ => false

def truthy : Option EvidenceValue → Bool
  | none => false
  | some null => false
  | some (bool value) => value
  | some (int value) => decide (value ≠ 0)
  | some (float value) => decide (value ≠ .finite 0)
  | some (string value) => decide (value ≠ "")
  | some (array items) => !items.isEmpty
  | some (object fields) => !fields.isEmpty

def sequence : Option EvidenceValue → Option (List EvidenceValue)
  | some (array items) => some items
  | _ => none

def windows (value : Option EvidenceValue) : List Evidence :=
  ((sequence value).getD []).filterMap fun item => mapping (some item)

/-- The least integer that no float is near enough to. -/
def floatLimit : Int :=
  2 ^ 1024 - 2 ^ 970

def floatOfInt (value : Int) : Except String FloatValue :=
  if |value| < floatLimit then .ok (.finite value)
  else .error "int too large to convert to float"

def number (texts : NumberTexts) : Option EvidenceValue → Except String (Option FloatValue)
  | some (int value) => do
    let value ← floatOfInt value
    return some value
  | some (float value) => .ok (some value)
  | some (string text) => .ok (texts.float text)
  | _ => .ok none

def intOfFloat : FloatValue → Except String Int
  | .nan => .error "cannot convert float NaN to integer"
  | .negInfinity => .error "cannot convert float infinity to integer"
  | .infinity => .error "cannot convert float infinity to integer"
  | .finite value => .ok (Int.tdiv value.num value.den)

def ofNumber : Option FloatValue → EvidenceValue
  | none => null
  | some value => float value

variable (texts : NumberTexts)

def Finite (value : Option EvidenceValue) : Prop :=
  ∃ metric, number texts value = .ok (some metric) ∧ metric.isFinite = true

/-- A value is read as a number. -/
def Shown (value : Option EvidenceValue) : Prop :=
  ∃ metric, number texts value = .ok (some metric) ∧ metric ≠ .nan

/-- A value is read as a finite number that satisfies a condition. -/
def Meets (value : Option EvidenceValue) (condition : FloatValue → Bool) : Prop :=
  ∃ metric, number texts value = .ok (some metric) ∧ metric.isFinite = true ∧
    condition metric = true

/-- A value is read, and the number, if it is one, raises no objection. -/
def Unobjected (value : Option EvidenceValue) (objection : FloatValue → Bool) : Prop :=
  ∃ metric, number texts value = .ok metric ∧ ∀ found ∈ metric, objection found = false

/-- A value is read without raising. -/
abbrev Readable (value : Option EvidenceValue) : Prop :=
  Yields (number texts value) fun _ => True

variable {texts} {value : Option EvidenceValue}

theorem unobjected_iff {metric : Option FloatValue} (read : number texts value = .ok metric)
    (objection : FloatValue → Bool) :
    Unobjected texts value objection ↔ ∀ found ∈ metric, objection found = false := by
  constructor
  · rintro ⟨other, same, clear⟩
    rwa [ok_unique read same]
  · exact fun clear => ⟨metric, read, clear⟩

def Required (texts : NumberTexts) (value : Option EvidenceValue)
    (objection : FloatValue → Bool) : Prop :=
  ∃ metric, number texts value = .ok (some metric) ∧ objection metric = false

theorem required_iff {metric : Option FloatValue} (read : number texts value = .ok metric)
    (objection : FloatValue → Bool) :
    Required texts value objection ↔ ∃ found, metric = some found ∧ objection found = false := by
  constructor
  · rintro ⟨found, same, clear⟩
    exact ⟨found, ok_unique read same, clear⟩
  · rintro ⟨found, rfl, clear⟩
    exact ⟨found, read, clear⟩

theorem Required.readable {objection : FloatValue → Bool}
    (required : Required texts value objection) : Readable texts value := by
  obtain ⟨metric, read, _⟩ := required
  exact ⟨some metric, read, trivial⟩

theorem Required.unobjected {objection : FloatValue → Bool}
    (required : Required texts value objection) : Unobjected texts value objection := by
  obtain ⟨metric, read, clear⟩ := required
  exact ⟨some metric, read, fun found same => Option.some.inj same ▸ clear⟩

theorem meets_iff {objection condition : FloatValue → Bool} {more : Prop}
    (clear : Unobjected texts value objection)
    (decides : ∀ metric, objection metric = false →
      ((metric.isFinite = true ∧ condition metric = true) ↔ (metric.isFinite = true ∧ more))) :
    Meets texts value condition ↔ Finite texts value ∧ more := by
  obtain ⟨found, read, unobjected⟩ := clear
  constructor
  · rintro ⟨metric, shown, finite, met⟩
    rw [read] at shown
    have clear := unobjected metric (Except.ok.inj shown)
    exact ⟨⟨metric, read.trans shown, finite⟩, ((decides metric clear).mp ⟨finite, met⟩).2⟩
  · rintro ⟨⟨metric, shown, finite⟩, holds⟩
    have clear := unobjected metric (ok_unique read shown)
    exact ⟨metric, shown, (decides metric clear).mpr ⟨finite, holds⟩⟩

variable {limit : FloatValue}

/-- A number that a limit from above lets through. -/
theorem meets_le_iff (clear : Unobjected texts value limit.lt) :
    Meets texts value (fun metric => metric.le limit) ↔ Finite texts value ∧ limit ≠ .nan :=
  meets_iff clear fun _ within => finite_le_iff within

/-- A number whose size a limit from above lets through. -/
theorem meets_abs_le_iff (clear : Unobjected texts value fun metric => limit.lt metric.abs) :
    Meets texts value (fun metric => metric.abs.le limit) ↔ Finite texts value ∧ limit ≠ .nan := by
  apply meets_iff clear
  intro metric within
  rw [← isFinite_abs]
  exact finite_le_iff within

/-- A number that a limit from below lets through. -/
theorem meets_ge_iff (clear : Unobjected texts value fun metric => metric.lt limit) :
    Meets texts value limit.le ↔ Finite texts value ∧ limit ≠ .nan :=
  meets_iff clear fun _ within => finite_ge_iff within

end EvidenceValue

def validationSection (candidate : Evidence) (sectionName : String) : Evidence :=
  match EvidenceValue.mapping (candidate.lookup "validation") with
  | some validation => (EvidenceValue.mapping (validation.lookup sectionName)).getD []
  | none => []

def artifactMetadata (payload : Evidence) : Evidence :=
  ["artifact_path", "payload_hash"].filterMap fun fieldName =>
    match payload.lookup fieldName with
    | some (.string value) =>
        if PythonText.isBlank value then none else some (fieldName, .string value)
    | _ => none

end Qts
