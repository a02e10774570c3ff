import Qts.RaisingCalls
import Qts.Identifiers
import Mathlib.Data.List.Infix

/-!
# Failures raised at run time

The exceptions that pass between the runtime services.  Which of them a caller
handles depends on their class and, for a broker capability refusal, on their
text; the text of a timestamp is left to the caller.
-/

namespace Qts

structure Check where
  fails : Bool
  message : String

namespace Check

def firstFailure : List Check → Option String
  | [] => none
  | check :: checks => if check.fails then some check.message else firstFailure checks

theorem firstFailure_none (checks : List Check) :
    firstFailure checks = none ↔ ∀ check ∈ checks, check.fails = false := by
  induction checks with
  | nil => simp [firstFailure]
  | cons check checks ih =>
    cases failed : check.fails <;> simp [firstFailure, failed, ih]

theorem firstFailure_eq_some {checks : List Check} {message : String}
    (failure : firstFailure checks = some message) :
    ∃ check ∈ checks, check.fails = true ∧ check.message = message := by
  induction checks with
  | nil => simp [firstFailure] at failure
  | cons check checks ih =>
    cases failed : check.fails with
    | true =>
      simp only [firstFailure, failed, if_true, Option.some.injEq] at failure
      exact ⟨check, List.mem_cons_self, failed, failure⟩
    | false =>
      simp only [firstFailure, failed, Bool.false_eq_true, if_false] at failure
      obtain ⟨found, mem, rest⟩ := ih failure
      exact ⟨found, List.mem_cons_of_mem _ mem, rest⟩

end Check

def PythonText.contains (text part : String) : Bool :=
  decide (part.toList <:+: text.toList)

theorem PythonText.contains_eq_false {text part : String} {char : Char}
    (inPart : char ∈ part.toList) (absent : char ∉ text.toList) :
    PythonText.contains text part = false :=
  decide_eq_false fun infixed => absent (infixed.subset inPart)

/-- An exception raised while an intent is processed. -/
inductive Failure
  | valueError (message : String)
  | missingExecutionPrice (instrumentId : InstrumentId) (asOf : DateTime) (context : String)
  | keyError (message : String)
  | missingRollSelection (continuousInstrumentId : InstrumentId) (asOf : DateTime)
  | runtimeError (message : String)
  | divisionByZero
  | other (message : String)
deriving DecidableEq

namespace Failure

def isValueError : Failure → Bool
  | valueError _ => true
  | missingExecutionPrice _ _ _ => true
  | _ => false

def isKeyError : Failure → Bool
  | keyError _ => true
  | missingRollSelection _ _ => true
  | _ => false

variable (isoformat : DateTime → String)

def text : Failure → String
  | valueError message => message
  | missingExecutionPrice instrumentId asOf context =>
    "missing roll execution price for " ++ instrumentId.value ++ " at " ++ isoformat asOf ++ ": " ++
      context
  | keyError message => message
  | missingRollSelection continuousInstrumentId asOf =>
    "missing future roll selection for " ++ continuousInstrumentId.value ++ " at " ++
      isoformat asOf
  | runtimeError message => message
  | divisionByZero => "division by zero"
  | other message => message

def isBrokerCapabilityReject (failure : Failure) : Bool :=
  PythonText.contains (failure.text isoformat) "not supported by broker capabilities"

end Failure

/-- The quotient of two amounts; a zero divisor raises. -/
def divide (dividend divisor : Decimal) : Except Failure Decimal :=
  if divisor = 0 then .error .divisionByZero else .ok (dividend / divisor)

end Qts
