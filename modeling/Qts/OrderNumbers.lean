import Qts.PythonText

/-! # Numbered ids -/

namespace Qts

open PythonText

namespace OrderNumbers

def paddedDigits (width number : Nat) : List Char :=
  List.replicate (width - (Nat.toDigits 10 number).length) '0' ++ Nat.toDigits 10 number

/-- Reading the digits gives the number back: leading zeros add nothing. -/
theorem ofDigitChars_paddedDigits (width number : Nat) :
    Nat.ofDigitChars 10 (paddedDigits width number) 0 = number := by
  rw [paddedDigits, Nat.ofDigitChars_append, Nat.ofDigitChars_replicate_zero, Nat.mul_zero,
    Nat.ofDigitChars_ten_toDigits]

theorem paddedDigits_injective (width : Nat) : Function.Injective (paddedDigits width) := by
  intro first second digits
  calc
    first = Nat.ofDigitChars 10 (paddedDigits width first) 0 :=
      (ofDigitChars_paddedDigits width first).symm
    _ = Nat.ofDigitChars 10 (paddedDigits width second) 0 := by rw [digits]
    _ = second := ofDigitChars_paddedDigits width second

def numbered (stem : String) (number : Nat) : String :=
  stem ++ ("-" ++ String.ofList (paddedDigits 6 number))

theorem numbered_injective (stem : String) : Function.Injective (numbered stem) := by
  intro first second texts
  have lists := congrArg String.toList texts
  simp only [numbered, String.toList_append, String.toList_ofList] at lists
  have digits := List.append_cancel_left (List.append_cancel_left lists)
  exact paddedDigits_injective 6 digits

theorem numbered_visible {stem : String} (visible : isBlank stem = false)
    (number : Nat) : isBlank (numbered stem number) = false :=
  isBlank_append_of_left visible _

theorem toString_injective : Function.Injective fun number : Nat => toString number := by
  intro first second texts
  have digits := congrArg String.toList texts
  simp only [Nat.toString_eq_repr, Nat.toList_repr] at digits
  calc
    first = Nat.ofDigitChars 10 (Nat.toDigits 10 first) 0 := Nat.ofDigitChars_ten_toDigits.symm
    _ = Nat.ofDigitChars 10 (Nat.toDigits 10 second) 0 := by rw [digits]
    _ = second := Nat.ofDigitChars_ten_toDigits

theorem isSpace_of_isDigit {char : Char} (digit : char.isDigit = true) : isSpace char = false := by
  have bounds : 48 ≤ char.toNat ∧ char.toNat ≤ 57 := by
    simp only [Char.isDigit, Bool.and_eq_true, decide_eq_true_eq, ge_iff_le] at digit
    exact ⟨UInt32.le_iff_toNat_le.mp digit.1, UInt32.le_iff_toNat_le.mp digit.2⟩
  unfold isSpace
  simp only [Bool.or_eq_false_iff, Bool.and_eq_false_iff, decide_eq_false_iff_not,
      beq_eq_false_iff_ne]
  omega

theorem toString_visible (number : Nat) : isBlank (toString number) = false := by
  rw [isBlank, Nat.toString_eq_repr, Nat.toList_repr, List.all_eq_false]
  obtain ⟨digit, mem⟩ := List.exists_mem_of_ne_nil _ (@Nat.toDigits_ne_nil number 10)
  have shown := isSpace_of_isDigit
    (Nat.isDigit_of_mem_toDigits (by decide) (by decide) mem)
  exact ⟨digit, mem, by simp [shown]⟩

theorem toString_int_visible (number : Int) : isBlank (toString number) = false := by
  cases number with
  | ofNat number => exact toString_visible number
  | negSucc number => exact isBlank_append_of_left (by decide) _

theorem toString_int_eq_zero_iff (number : Int) : toString number = "0" ↔ number = 0 := by
  constructor
  · intro texts
    cases number with
    | ofNat number =>
      have same : number = 0 := toString_injective texts
      rw [same]
      rfl
    | negSucc number =>
      have sign := congrArg (fun text => text.toList.head?) texts
      have start : (toString (Int.negSucc number)).toList =
          '-' :: (toString (number + 1)).toList := by
        change ("-" ++ toString (number + 1)).toList = _
        rw [String.toList_append]
        rfl
      rw [start] at sign
      cases sign
  · rintro rfl
    rfl

example : numbered "bt" 42 = "bt-000042" := by decide +kernel

end OrderNumbers

end Qts
