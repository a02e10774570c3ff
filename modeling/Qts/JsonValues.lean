import Mathlib.Data.List.Sort
import Mathlib.Data.Rat.Defs
import Mathlib.Data.String.Basic
import Qts.OrderedDictionary

/-!
# JSON values

The values that a JSON text can hold.  A text written with sorted keys reads
back as the same value with the keys of every object in order.
-/

namespace Qts

open Dict

universe u

def sortItems {Value : Type u} (items : List (String × Value)) : List (String × Value) :=
  items.insertionSort fun first second => first.1 ≤ second.1

variable {Value : Type u} (items : List (String × Value))

theorem sortItems_perm : (sortItems items).Perm items :=
  List.perm_insertionSort _ items

theorem sortItems_sorted : (sortItems items).Pairwise fun first second => first.1 ≤ second.1 :=
  List.pairwise_insertionSort _ items

theorem sortItems_sortItems : sortItems (sortItems items) = sortItems items :=
  List.Pairwise.insertionSort_eq (sortItems_sorted items)

theorem sortItems_map {Value Other : Type u} (change : Value → Other)
    (items : List (String × Value)) :
    sortItems (items.map fun item => (item.1, change item.2)) =
      (sortItems items).map fun item => (item.1, change item.2) := by
  symm
  apply List.map_insertionSort
  intro first _ second _
  exact Iff.rfl

/-- The items of a dictionary in the order of their keys. -/
def Dict.sorted {Value : Type u} (dict : Dict String Value) :
    Dict String Value where
  items := sortItems dict.items
  distinct := ((sortItems_perm dict.items).map Prod.fst).nodup_iff.mpr dict.distinct

@[simp]
theorem Dict.get?_sorted (dict : Dict String Value) (key : String) :
    dict.sorted.get? key = dict.get? key :=
  lookup_perm dict.sorted.distinct (sortItems_perm dict.items) key

inductive Json
  | null
  | bool (value : Bool)
  | int (value : Int)
  | float (value : ℚ)
  | string (value : String)
  | array (items : List Json)
  | object (items : List (String × Json))

namespace Json

mutual

def sorted : Json → Json
  | null => null
  | bool value => bool value
  | int value => int value
  | float value => float value
  | string value => string value
  | array items => array (sortedArray items)
  | object items => object (sortItems (sortedFields items))

def sortedArray : List Json → List Json
  | [] => []
  | item :: rest => sorted item :: sortedArray rest

def sortedFields : List (String × Json) → List (String × Json)
  | [] => []
  | (key, value) :: rest => (key, sorted value) :: sortedFields rest

end

theorem sortedFields_eq_map (items : List (String × Json)) :
    sortedFields items = items.map fun item => (item.1, item.2.sorted) := by
  induction items with
  | nil => rfl
  | cons item rest ih => rw [sortedFields, ih, List.map_cons]

mutual

/-- Sorting the keys again changes nothing. -/
theorem sorted_sorted : ∀ value : Json, value.sorted.sorted = value.sorted
  | null => rfl
  | bool _ => rfl
  | int _ => rfl
  | float _ => rfl
  | string _ => rfl
  | array items => by rw [sorted, sorted, sortedArray_sortedArray items]
  | object items => by
    have fields : sortedFields (sortItems (sortedFields items)) =
        sortItems (sortedFields items) := by
      rw [sortedFields_eq_map, ← sortItems_map, ← sortedFields_eq_map,
        sortedFields_sortedFields items]
    rw [sorted, sorted, fields, sortItems_sortItems]

theorem sortedArray_sortedArray : ∀ items : List Json,
    sortedArray (sortedArray items) = sortedArray items
  | [] => rfl
  | item :: rest => by
    rw [sortedArray, sortedArray, sorted_sorted item, sortedArray_sortedArray rest]

theorem sortedFields_sortedFields : ∀ items : List (String × Json),
    sortedFields (sortedFields items) = sortedFields items
  | [] => rfl
  | (key, value) :: rest => by
    rw [sortedFields, sortedFields, sorted_sorted value, sortedFields_sortedFields rest]

end

end Json

/-- An object that is a dictionary of its own. -/
abbrev JsonObject := Dict String Json

namespace JsonObject

/-- An object as it reads back from a text with sorted keys. -/
def reread (payload : JsonObject) : JsonObject :=
  sorted {
    items := payload.items.map fun item => (item.1, item.2.sorted)
    distinct := by
      rw [List.map_map]
      exact payload.distinct }

theorem get?_reread (payload : JsonObject) (key : String) :
    payload.reread.get? key = (payload.get? key).map Json.sorted := by
  rw [reread, get?_sorted]
  exact lookup_map_value Json.sorted key payload.items

theorem reread_reread (payload : JsonObject) : payload.reread.reread = payload.reread := by
  apply ext
  simp only [reread, sorted, ← sortItems_map, List.map_map, sortItems_sortItems,
    Function.comp_def, Json.sorted_sorted]

end JsonObject

end Qts
