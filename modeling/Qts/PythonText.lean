import Mathlib.Data.List.DropRight

/-!
# Whitespace in Python text

`str.strip` drops leading and trailing whitespace, where whitespace is what
`str.isspace` accepts.  The validations of the program ask whether a stripped
text is empty; this is the same as asking whether all characters are blank.
-/

namespace Qts

open List

namespace PythonText

/-- The code points that `str.isspace` accepts and `str.strip` removes. -/
def isSpace (char : Char) : Bool :=
  let code := char.toNat
  (0x09 ≤ code && code ≤ 0x0d) || (0x1c ≤ code && code ≤ 0x20) || code == 0x85 ||
    code == 0xa0 || code == 0x1680 || (0x2000 ≤ code && code ≤ 0x200a) ||
    code == 0x2028 || code == 0x2029 || code == 0x202f || code == 0x205f || code == 0x3000

/-- `str.strip` on the characters of a text. -/
def stripChars (chars : List Char) : List Char :=
  (chars.dropWhile isSpace).rdropWhile isSpace

def strip (text : String) : String :=
  String.ofList (stripChars text.toList)

/-- The test `not text.strip()` that the validations share. -/
def isBlank (text : String) : Bool :=
  text.toList.all isSpace

theorem isBlank_append (first second : String) :
    isBlank (first ++ second) = (isBlank first && isBlank second) := by
  simp only [isBlank, String.toList_append, all_append]

theorem isBlank_append_of_left {first : String} (visible : isBlank first = false)
    (second : String) : isBlank (first ++ second) = false := by
  rw [isBlank_append, visible, Bool.false_and]

theorem stripChars_eq_nil_iff (chars : List Char) :
    stripChars chars = [] ↔ chars.all isSpace = true := by
  rw [stripChars, rdropWhile_eq_nil_iff, all_eq_true]
  constructor
  · intro blank
    have dropped : chars.dropWhile isSpace = [] := by
      by_contra remains
      have head := head_dropWhile_not isSpace remains
      rw [blank _ (head_mem remains)] at head
      exact Bool.noConfusion head
    exact dropWhile_eq_nil_iff.mp dropped
  · intro blank char mem
    exact blank char ((dropWhile_sublist isSpace).mem mem)

theorem strip_eq_empty_iff (text : String) : strip text = "" ↔ isBlank text = true := by
  rw [isBlank, ← stripChars_eq_nil_iff, strip]
  constructor
  · intro empty
    have chars := congrArg String.toList empty
    simpa using chars
  · intro empty
    rw [empty, String.ofList_nil]

variable {chars : List Char}

/-- A text without whitespace at either end is its own stripped text. -/
theorem stripChars_eq_self (first : ∀ nonempty : chars ≠ [], isSpace (chars.head nonempty) = false)
    (last : ∀ nonempty : chars ≠ [], isSpace (chars.getLast nonempty) = false) :
    stripChars chars = chars := by
  have front : chars.dropWhile isSpace = chars := by
    cases chars with
    | nil => rfl
    | cons char rest => simpa using first (cons_ne_nil char rest)
  rw [stripChars, front, rdropWhile_eq_self_iff]
  intro nonempty
  simp [last nonempty]

theorem stripChars_getLast (nonempty : stripChars chars ≠ []) :
    isSpace ((stripChars chars).getLast nonempty) = false := by
  have last := rdropWhile_last_not isSpace (chars.dropWhile isSpace) nonempty
  exact Bool.not_eq_true _ ▸ last

theorem stripChars_head (nonempty : stripChars chars ≠ []) :
    isSpace ((stripChars chars).head nonempty) = false := by
  have kept : stripChars chars <+: chars.dropWhile isSpace := rdropWhile_prefix _ _
  rw [kept.head nonempty]
  exact head_dropWhile_not isSpace _

def shown (text : String) : Option String :=
  if strip text = "" then none else some (strip text)

theorem isBlank_strip (text : String) : isBlank (strip text) = isBlank text := by
  by_cases blank : isBlank text = true
  · rw [(strip_eq_empty_iff text).mpr blank, blank]
    rfl
  · have nonempty : stripChars text.toList ≠ [] := by
      intro empty
      exact blank ((stripChars_eq_nil_iff _).mp empty)
    have first := stripChars_head nonempty
    rw [Bool.eq_false_iff.mpr blank, isBlank, strip, String.toList_ofList, all_eq_false]
    exact ⟨_, head_mem nonempty, by rw [first]; exact Bool.false_ne_true⟩

theorem shown_visible {text visible : String} (found : shown text = some visible) :
    isBlank visible = false := by
  unfold shown at found
  split at found
  · cases found
  · next nonempty =>
    obtain rfl := Option.some.inj found
    rw [isBlank_strip]
    exact Bool.eq_false_iff.mpr fun blank => nonempty ((strip_eq_empty_iff text).mpr blank)

theorem any_isBlank_shown (text : String) : (shown text).any isBlank = false := by
  cases found : shown text with
  | none => rfl
  | some visible => exact shown_visible found

/-- The upper case of single characters, as `str.upper` puts it together. -/
structure UpperCase where
  upperChar : Char → List Char
  upperChar_upper : ∀ char, ∀ upper ∈ upperChar char, upperChar upper = [upper]
  upperChar_visible : ∀ char, isSpace char = false →
    upperChar char ≠ [] ∧ ∀ upper ∈ upperChar char, isSpace upper = false

namespace UpperCase

variable (caps : UpperCase)

def upperChars (chars : List Char) : List Char :=
  chars.flatMap caps.upperChar

def upper (text : String) : String :=
  String.ofList (caps.upperChars text.toList)

theorem upperChars_idempotent (chars : List Char) :
    caps.upperChars (caps.upperChars chars) = caps.upperChars chars := by
  have fixed : ∀ uppers : List Char, (∀ upper ∈ uppers, caps.upperChar upper = [upper]) →
      uppers.flatMap caps.upperChar = uppers := by
    intro uppers allUpper
    induction uppers with
    | nil => rfl
    | cons upper rest ih =>
      rw [flatMap_cons, allUpper upper mem_cons_self,
        ih fun other mem => allUpper other (mem_cons_of_mem _ mem)]
      rfl
  apply fixed
  intro upper mem
  obtain ⟨char, _, inUpper⟩ := mem_flatMap.mp mem
  exact caps.upperChar_upper char upper inUpper

theorem stripChars_upperChars (chars : List Char) :
    stripChars (caps.upperChars (stripChars chars)) = caps.upperChars (stripChars chars) := by
  have head : ∀ nonempty : stripChars chars ≠ [],
      isSpace ((stripChars chars).head nonempty) = false := stripChars_head
  have last : ∀ nonempty : stripChars chars ≠ [],
      isSpace ((stripChars chars).getLast nonempty) = false := stripChars_getLast
  generalize stripChars chars = stripped at head last
  apply stripChars_eq_self
  · intro nonempty
    cases stripped with
    | nil => exact absurd rfl nonempty
    | cons char rest =>
      obtain ⟨shown, visible⟩ := caps.upperChar_visible char (head (cons_ne_nil _ _))
      have first : (caps.upperChars (char :: rest)).head nonempty =
          (caps.upperChar char).head shown := head_append_of_ne_nil shown
      rw [first]
      exact visible _ (head_mem shown)
  · intro nonempty
    rcases eq_nil_or_concat stripped with rfl | ⟨rest, char, rfl⟩
    · exact absurd rfl nonempty
    · have visibleChar := last (by simp)
      simp only [concat_eq_append, getLast_append_singleton] at visibleChar
      obtain ⟨shown, visible⟩ := caps.upperChar_visible char visibleChar
      have final : caps.upperChars (rest.concat char) =
          caps.upperChars rest ++ caps.upperChar char := by
        simp [upperChars]
      simp only [final, getLast_append_of_ne_nil _ shown]
      exact visible _ (getLast_mem shown)

theorem upper_upper (text : String) : caps.upper (caps.upper text) = caps.upper text := by
  simp only [upper, String.toList_ofList, upperChars_idempotent]

theorem strip_upper_strip (text : String) :
    strip (caps.upper (strip text)) = caps.upper (strip text) := by
  simp only [upper, strip, String.toList_ofList, stripChars_upperChars]

theorem upper_strip_eq_empty_iff (text : String) :
    caps.upper (strip text) = "" ↔ isBlank text = true := by
  rw [← strip_eq_empty_iff]
  constructor
  · intro empty
    by_contra shown
    have nonempty : stripChars text.toList ≠ [] := fun none => shown (by rw [strip, none])
    have visible := stripChars_head nonempty
    have chars : caps.upperChars (stripChars text.toList) = [] := by
      simpa [upper, strip] using congrArg String.toList empty
    have upperHead := flatMap_eq_nil_iff.mp chars _ (head_mem nonempty)
    exact (caps.upperChar_visible _ visible).1 upperHead
  · intro empty
    rw [empty]
    rfl

def asciiUpper (char : Char) : Char :=
  if 'a'.toNat ≤ char.toNat ∧ char.toNat ≤ 'z'.toNat then Char.ofNat (char.toNat - 32) else char

theorem asciiUpper_letter :
    ∀ index < 26, asciiUpper (Char.ofNat (65 + index)) = Char.ofNat (65 + index) ∧
      isSpace (Char.ofNat (65 + index)) = false := by
  decide

theorem asciiUpper_cases (char : Char) :
    asciiUpper char = char ∨ ∃ index < 26, asciiUpper char = Char.ofNat (65 + index) := by
  unfold asciiUpper
  split
  · next lower =>
    have bounds : 97 ≤ char.toNat ∧ char.toNat ≤ 122 := lower
    refine Or.inr ⟨char.toNat - 97, by omega, ?_⟩
    rw [show char.toNat - 32 = 65 + (char.toNat - 97) by omega]
  · exact Or.inl rfl

def ascii : UpperCase where
  upperChar char := [asciiUpper char]
  upperChar_upper := by
    intro char upper mem
    rw [mem_singleton.mp mem]
    rcases asciiUpper_cases char with same | ⟨index, bound, letter⟩
    · rw [same, same]
    · rw [letter, (asciiUpper_letter index bound).1]
  upperChar_visible := by
    intro char visible
    refine ⟨cons_ne_nil _ _, ?_⟩
    intro upper mem
    rw [mem_singleton.mp mem]
    rcases asciiUpper_cases char with same | ⟨index, bound, letter⟩
    · rw [same]
      exact visible
    · rw [letter, (asciiUpper_letter index bound).2]

end UpperCase

end PythonText

end Qts
