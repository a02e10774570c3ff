import Mathlib.Data.List.Sort
import Mathlib.Data.String.Basic
import Qts.Identifiers

/-! # The identity of a replay cache -/

namespace Qts

open List

/-- Texts of timestamps: visible, distinct and without the separator of fields. -/
structure ReplayTimestampTexts where
  text : DateTime → String
  injective : Function.Injective text
  nonempty : ∀ time, text time ≠ ""
  plain : ∀ time, '|' ∉ (text time).toList

structure ReplayConfig where
  datasetHash : String
  timeframe : String
  start : Option DateTime
  «end» : Option DateTime
  roots : List String
  symbols : List String
  instrumentIds : List String
  rollPolicy : String
  sourcePath : Option String

namespace ReplayConfig

variable (texts : ReplayTimestampTexts) (config : ReplayConfig)

def optionalTimestamp (value : Option DateTime) : String :=
  (value.map texts.text).getD ""

def sortedStrings (values : List String) : List String :=
  values.insertionSort (· ≤ ·)

def joined (values : List String) : String :=
  ",".intercalate (sortedStrings values)

/-- The fields of the seed that stand before the path. -/
def seedFields : List String :=
  ["qts-replay:v1", "dataset_hash=" ++ config.datasetHash, "timeframe=" ++ config.timeframe,
    "start=" ++ optionalTimestamp texts config.start, "end=" ++ optionalTimestamp texts config.end,
    "roots=" ++ joined config.roots, "symbols=" ++ joined config.symbols,
    "instrument_ids=" ++ joined config.instrumentIds, "roll_policy=" ++ config.rollPolicy]

def cacheIdentitySeed : String :=
  "|".intercalate (seedFields texts config ++ ["source_path=" ++ config.sourcePath.getD ""])

structure SameUpToOrder (first second : ReplayConfig) : Prop where
  datasetHash : first.datasetHash = second.datasetHash
  timeframe : first.timeframe = second.timeframe
  start : first.start = second.start
  «end» : first.end = second.end
  roots : first.roots.Perm second.roots
  symbols : first.symbols.Perm second.symbols
  instrumentIds : first.instrumentIds.Perm second.instrumentIds
  rollPolicy : first.rollPolicy = second.rollPolicy
  sourcePath : first.sourcePath = second.sourcePath

/-- A list whose items are visible and hold neither separator. -/
def PlainList (values : List String) : Prop :=
  ∀ value ∈ values, value ≠ "" ∧ ',' ∉ value.toList ∧ '|' ∉ value.toList

/-- No field holds a separator that ends it, no listed text is empty, and no path is. -/
structure Plain (config : ReplayConfig) : Prop where
  datasetHash : '|' ∉ config.datasetHash.toList
  timeframe : '|' ∉ config.timeframe.toList
  roots : PlainList config.roots
  symbols : PlainList config.symbols
  instrumentIds : PlainList config.instrumentIds
  rollPolicy : '|' ∉ config.rollPolicy.toList
  sourcePath : config.sourcePath ≠ some ""

section Separators

variable {separator : Char}

theorem separated_inj {first second rest others : List Char} (plain : separator ∉ first)
    (other : separator ∉ second) (same : first ++ separator :: rest = second ++ separator :: others)
    : first = second ∧ rest = others := by
  induction first generalizing second with
  | nil =>
    cases second with
    | nil => simpa using same
    | cons head tail =>
      obtain rfl : separator = head := (List.cons.inj same).1
      exact absurd mem_cons_self other
  | cons char chars ih =>
    cases second with
    | nil =>
      obtain rfl : char = separator := (List.cons.inj same).1
      exact absurd mem_cons_self plain
    | cons head tail =>
      simp only [mem_cons, not_or] at plain other
      simp only [cons_append, List.cons.injEq] at same
      obtain ⟨rfl, rfl⟩ := ih plain.2 other.2 same.2
      exact ⟨by rw [same.1], rfl⟩

/-- Fields without the separator are known from their join, whatever stands in the last one. -/
theorem intercalate_inj {first second : List (List Char)} {rest others : List Char}
    (plain : ∀ field ∈ first, separator ∉ field) (other : ∀ field ∈ second, separator ∉ field)
    (length : first.length = second.length)
    (same : [separator].intercalate (first ++ [rest]) =
      [separator].intercalate (second ++ [others])) : first = second ∧ rest = others := by
  induction first generalizing second with
  | nil =>
    obtain rfl := eq_nil_of_length_eq_zero length.symm
    simpa using same
  | cons field fields ih =>
    cases second with
    | nil => cases length
    | cons head tail =>
      simp only [mem_cons, forall_eq_or_imp] at plain other
      rw [cons_append, cons_append, intercalate_cons_of_ne_nil (by simp),
        intercalate_cons_of_ne_nil (by simp)] at same
      obtain ⟨rfl, tails⟩ := separated_inj plain.1 other.1 (by simpa using same)
      obtain ⟨rfl, rfl⟩ := ih plain.2 other.2 (by simpa using length) tails
      exact ⟨rfl, rfl⟩

theorem not_mem_intercalate {between : Char} (ne : separator ≠ between)
    {fields : List (List Char)} (plain : ∀ field ∈ fields, separator ∉ field) :
    separator ∉ [between].intercalate fields := by
  induction fields with
  | nil => simp
  | cons field fields ih =>
    simp only [mem_cons, forall_eq_or_imp] at plain
    cases fields with
    | nil => simpa using plain.1
    | cons next fields =>
      rw [intercalate_cons_of_ne_nil (by simp)]
      simp [plain.1, ne, ih plain.2]

/-- A list of visible texts without commas is known from its join. -/
theorem intercalate_inj_visible {first second : List (List Char)}
    (plain : ∀ field ∈ first, separator ∉ field ∧ field ≠ [])
    (other : ∀ field ∈ second, separator ∉ field ∧ field ≠ [])
    (same : [separator].intercalate first = [separator].intercalate second) : first = second := by
  have visible : ∀ {fields : List (List Char)},
      (∀ field ∈ fields, separator ∉ field ∧ field ≠ []) →
        [separator].intercalate fields = [] → fields = [] := by
    intro fields plain empty
    cases fields with
    | nil => rfl
    | cons field fields =>
      cases fields with
      | nil => exact absurd (by simpa using empty) (plain field (by simp)).2
      | cons next fields => simp [intercalate_cons_of_ne_nil] at empty
  by_cases empty : first = []
  · subst empty
    exact (visible other same.symm).symm
  · have filled : second ≠ [] := by
      rintro rfl
      exact empty (visible plain same)
    rw [← splitOn_intercalate separator (fun field mem => (plain field mem).1) empty,
      same, splitOn_intercalate separator (fun field mem => (other field mem).1) filled]

end Separators

theorem joined_perm {first second : List String} (plain : PlainList first)
    (other : PlainList second) (same : joined first = joined second) : first.Perm second := by
  have pieces : ∀ {values : List String}, PlainList values →
      ∀ field ∈ (sortedStrings values).map String.toList, ',' ∉ field ∧ field ≠ [] := by
    intro values plain field mem
    obtain ⟨value, inside, rfl⟩ := mem_map.mp mem
    obtain ⟨visible, single, -⟩ :=
      plain value ((perm_insertionSort (· ≤ ·) values).mem_iff.mp inside)
    exact ⟨single, by simpa using visible⟩
  have texts := congrArg String.toList same
  simp only [joined, String.toList_intercalate] at texts
  have sorted := intercalate_inj_visible (pieces plain) (pieces other) texts
  have level : sortedStrings first = sortedStrings second :=
    map_injective_iff.mpr (fun _ _ => String.toList_inj.mp) sorted
  have left : (sortedStrings first).Perm first := perm_insertionSort (· ≤ ·) first
  have right : (sortedStrings second).Perm second := perm_insertionSort (· ≤ ·) second
  exact left.symm.trans (level ▸ right)

theorem seedFields_plain {config : ReplayConfig} (plain : Plain config) :
    ∀ field ∈ (seedFields texts config).map String.toList, '|' ∉ field := by
  have list : ∀ {values : List String}, PlainList values → '|' ∉ (joined values).toList := by
    intro values plain
    rw [joined, String.toList_intercalate]
    apply not_mem_intercalate (by decide)
    intro field mem
    obtain ⟨value, inside, rfl⟩ := mem_map.mp mem
    exact (plain value ((perm_insertionSort (· ≤ ·) values).mem_iff.mp inside)).2.2
  have time : ∀ value, '|' ∉ (optionalTimestamp texts value).toList := by
    rintro (- | value)
    · simp [optionalTimestamp]
    · exact texts.plain value
  simp [seedFields, list plain.roots, list plain.symbols, list plain.instrumentIds, time,
    plain.datasetHash, plain.timeframe, plain.rollPolicy]

theorem optionalTimestamp_injective : Function.Injective (optionalTimestamp texts) := by
  rintro (- | first) (- | second) same
  · rfl
  · exact absurd same.symm (texts.nonempty second)
  · exact absurd same (texts.nonempty first)
  · exact congrArg some (texts.injective same)

/-- Between configurations without separators or empty texts in their fields, equal seeds stand
for one configuration. -/
theorem cacheIdentitySeed_identifies {first second : ReplayConfig} (plain : Plain first)
    (other : Plain second) (same : cacheIdentitySeed texts first = cacheIdentitySeed texts second) :
    SameUpToOrder first second := by
  have parts := congrArg String.toList same
  simp only [cacheIdentitySeed, String.toList_intercalate, map_append, map_cons, map_nil] at parts
  obtain ⟨fields, path⟩ := intercalate_inj (seedFields_plain texts plain)
    (seedFields_plain texts other) (by simp [seedFields]) parts
  simp [seedFields, String.toList_inj] at fields path
  obtain ⟨datasetHash, timeframe, start, final, roots, symbols, instrumentIds, rollPolicy⟩ := fields
  refine ⟨datasetHash, timeframe, optionalTimestamp_injective texts start,
    optionalTimestamp_injective texts final, joined_perm plain.roots other.roots roots,
    joined_perm plain.symbols other.symbols symbols,
    joined_perm plain.instrumentIds other.instrumentIds instrumentIds, rollPolicy, ?_⟩
  have shown := plain.sourcePath
  have visible := other.sourcePath
  cases ofFirst : first.sourcePath with
  | none =>
    cases ofSecond : second.sourcePath with
    | none => rfl
    | some name => simp_all
  | some path =>
    cases ofSecond : second.sourcePath with
    | none => simp_all
    | some name => simp_all

/-- Timestamps counted out, before and after the epoch. -/
def unaryTexts : ReplayTimestampTexts where
  text
    | .ofNat count => String.ofList ('+' :: replicate count '1')
    | .negSucc count => String.ofList ('-' :: replicate count '1')
  injective := by
    rintro (first | first) (second | second) same
    all_goals
      have chars := String.ofList_inj.mp same
      simp at chars
    · exact congrArg Int.ofNat chars
    · exact congrArg Int.negSucc chars
  nonempty := by
    rintro (count | count) <;> simp
  plain := by
    rintro (count | count) <;> simp [mem_replicate]

def rootsConfig (roots : List String) : ReplayConfig :=
  { datasetHash := "dataset-a", timeframe := "5m", start := none, «end» := none, roots
    symbols := ["GCM26"], instrumentIds := ["FUTURE.CME.GC.GCM26"], rollPolicy := "front"
    sourcePath := some "fixture|1.csv" }

theorem rootsConfig_plain {roots : List String} (plain : PlainList roots) :
    Plain (rootsConfig roots) := by
  constructor <;> simp [rootsConfig, PlainList]
  exact plain

theorem cacheIdentitySeed_identifies_reordered :
    SameUpToOrder (rootsConfig ["GC", "SI"]) (rootsConfig ["SI", "GC"]) :=
  cacheIdentitySeed_identifies unaryTexts
    (rootsConfig_plain (by simp [PlainList]))
    (rootsConfig_plain (by simp [PlainList])) (by decide +kernel)

/-- A comma in a root reads like the end of one. -/
theorem cacheIdentitySeed_joins_roots :
    cacheIdentitySeed unaryTexts (rootsConfig ["GC,SI"]) =
        cacheIdentitySeed unaryTexts (rootsConfig ["GC", "SI"]) ∧
      ¬ SameUpToOrder (rootsConfig ["GC,SI"]) (rootsConfig ["GC", "SI"]) := by
  refine ⟨by decide +kernel, ?_⟩
  intro same
  have lengths := same.roots.length_eq
  cases lengths

end ReplayConfig

end Qts
