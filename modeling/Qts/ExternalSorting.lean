import Mathlib.Data.Prod.Lex
import Mathlib.Data.String.Basic
import Qts.OrderedMerge
import Qts.PythonText
import Qts.StableSorting

/-! # The external sort of generated rows -/

namespace Qts

open PythonText StableSorting List

universe u v

variable {Item : Type u} {Key : Type v} [LinearOrder Key] {key : Item → Key}
  {before : Item → Item → Prop} [DecidableRel before]

namespace StableSorting

theorem filter_insertionSort (orders : ∀ first second, before first second ↔ key first ≤ key second)
    (items : List Item) (shared : Key) :
    (items.insertionSort before).filter (fun item => decide (key item = shared)) =
      items.filter fun item => decide (key item = shared) := by
  have total : Std.Total before :=
    ⟨fun first second => by simpa only [orders] using le_total (key first) (key second)⟩
  have trans : IsTrans Item before :=
    ⟨fun first second third => by simpa only [orders] using le_trans⟩
  have level : (items.filter fun item => decide (key item = shared)).Pairwise before := by
    apply pairwise_of_forall_mem_list
    intro first firstMember second secondMember
    rw [orders, of_decide_eq_true (mem_filter.mp firstMember).2,
      of_decide_eq_true (mem_filter.mp secondMember).2]
  have kept := (sublist_insertionSort level filter_sublist).filter
    fun item => decide (key item = shared)
  rw [filter_filter] at kept
  simp only [Bool.and_self] at kept
  have same := ((perm_insertionSort before items).filter
    fun item => decide (key item = shared)).length_eq
  exact (kept.eq_of_length same.symm).symm

theorem key_head_le {item found : Item} {items : List Item}
    (sorted : (item :: items).Pairwise fun first second => key first ≤ key second)
    (mem : found ∈ item :: items) : key item ≤ key found := by
  rcases mem_cons.mp mem with rfl | later
  · exact le_rfl
  · exact (pairwise_cons.mp sorted).1 found later

theorem eq_of_filter_eq {items others : List Item}
    (sorted : items.Pairwise fun first second => key first ≤ key second)
    (ordered : others.Pairwise fun first second => key first ≤ key second)
    (agree : ∀ shared, items.filter (fun item => decide (key item = shared)) =
      others.filter fun item => decide (key item = shared)) : items = others := by
  induction items generalizing others with
  | nil =>
    cases others with
    | nil => rfl
    | cons other others => simpa using agree (key other)
  | cons item items ih =>
    have here : item ∈ others.filter fun found => decide (key found = key item) := by
      rw [← agree]
      simp
    cases others with
    | nil => cases here
    | cons other others =>
      have there : other ∈ (item :: items).filter fun found => decide (key found = key other) := by
        rw [agree]
        simp
      have level : key item = key other :=
        le_antisymm (key_head_le sorted (mem_filter.mp there).1)
          (key_head_le ordered (mem_filter.mp here).1)
      have first := agree (key other)
      simp only [level, decide_true, filter_cons_of_pos, List.cons.injEq] at first
      obtain ⟨rfl, -⟩ := first
      congr 1
      apply ih sorted.tail ordered.tail
      intro shared
      have rest := agree shared
      by_cases same : key item = shared
      · simpa [same] using rest
      · simpa [same] using rest

end StableSorting

namespace OrderedMerge

section Tagged

variable {streams : List (Nat × List (Nat × Item))}
  (tagged : ∀ stream ∈ streams, ∀ item ∈ stream.2, item.1 = stream.1) {source : Nat}

include tagged

theorem filter_unknown (unknown : source ∉ streams.map Prod.fst) :
    (streams.flatMap Prod.snd).filter (fun item => decide (item.1 = source)) = [] := by
  apply filter_eq_nil_iff.mpr
  intro item inside
  obtain ⟨stream, mem, inStream⟩ := mem_flatMap.mp inside
  rw [tagged stream mem item inStream, decide_eq_true_eq]
  rintro rfl
  exact unknown (mem_map_of_mem mem)

theorem filter_known (distinct : (streams.map Prod.fst).Nodup)
    {stream : Nat × List (Nat × Item)} (mem : stream ∈ streams) :
    (streams.flatMap Prod.snd).filter (fun item => decide (item.1 = stream.1)) = stream.2 := by
  induction streams with
  | nil => cases mem
  | cons head streams ih =>
    rw [map_cons, nodup_cons] at distinct
    have later : ∀ other ∈ streams, ∀ item ∈ other.2, item.1 = other.1 :=
      fun other inside => tagged other (mem_cons_of_mem head inside)
    have own := tagged head mem_cons_self
    rw [flatMap_cons, filter_append]
    rcases mem_cons.mp mem with rfl | inside
    · rw [filter_unknown later distinct.1, append_nil, filter_eq_self]
      simpa using own
    · have apart : head.1 ≠ stream.1 := fun same =>
        distinct.1 (same ▸ mem_map_of_mem inside)
      rw [ih later distinct.2 inside, filter_eq_nil_iff.mpr, nil_append]
      intro item here
      simpa [own item here] using apart

/-- Apart from the order of the streams, a merge delivers what the streams hold one by one. -/
theorem filter_merged {order : Nat × Item → Key} (distinct : (streams.map Prod.fst).Nodup) :
    ((merged order streams).map Head.item).filter (fun item => decide (item.1 = source)) =
      (streams.flatMap Prod.snd).filter fun item => decide (item.1 = source) := by
  have delivered : ∀ delivery ∈ merged order streams, delivery.item.1 = delivery.source := by
    intro delivery mem
    obtain ⟨stream, known, same⟩ := mem_map.mp (mem_merged_source distinct mem)
    have inside : delivery.item ∈ ofSource (merged order streams) stream.1 :=
      mem_map_of_mem (mem_filter.mpr ⟨mem, decide_eq_true same.symm⟩)
    rw [ofSource_merged order distinct known] at inside
    exact (tagged stream known _ inside).trans same
  have own : ((merged order streams).map Head.item).filter
      (fun item => decide (item.1 = source)) = ofSource (merged order streams) source := by
    rw [ofSource, filter_map]
    congr 1
    apply filter_congr
    intro delivery mem
    simp [delivered delivery mem]
  rw [own]
  by_cases known : source ∈ streams.map Prod.fst
  · obtain ⟨stream, mem, rfl⟩ := mem_map.mp known
    rw [ofSource_merged order distinct mem, filter_known tagged distinct mem]
  · rw [filter_unknown tagged known, ofSource, filter_eq_nil_iff.mpr, map_nil]
    intro delivery mem
    rw [decide_eq_true_eq]
    rintro rfl
    exact known (mem_merged_source distinct mem)

end Tagged

def tagged (chunks : List (List Item)) : List (Nat × List (Nat × Item)) :=
  chunks.zipIdx.map fun chunk => (chunk.2, chunk.1.map fun item => (chunk.2, item))

/-- The order of a heap that holds a line of each chunk: by key, then by chunk. -/
def chunkKey (key : Item → Key) (item : Nat × Item) : Key ×ₗ Nat :=
  toLex (key item.2, item.1)

def mergeChunks (key : Item → Key) (chunks : List (List Item)) : List Item :=
  ((merged (chunkKey key) (tagged chunks)).map Head.item).map Prod.snd

theorem mergeChunks_eq (orders : ∀ first second, before first second ↔ key first ≤ key second)
    {chunks : List (List Item)} (sorted : ∀ chunk ∈ chunks, Ascending key chunk) :
    mergeChunks key chunks = chunks.flatten.insertionSort before := by
  have distinct : ((tagged chunks).map Prod.fst).Nodup := by
    rw [tagged, map_map]
    change (chunks.zipIdx.map Prod.snd).Nodup
    rw [zipIdx_map_snd]
    exact nodup_range'
  have own : ∀ stream ∈ tagged chunks, ∀ item ∈ stream.2, item.1 = stream.1 := by
    simp only [tagged, mem_map]
    rintro _ ⟨chunk, -, rfl⟩ _ inside
    obtain ⟨item, -, rfl⟩ := mem_map.mp inside
    rfl
  have ascends : Ascending (chunkKey key)
      ((merged (chunkKey key) (tagged chunks)).map Head.item) := by
    rw [merged_ascending_iff distinct]
    simp only [tagged, mem_map]
    rintro _ ⟨chunk, mem, rfl⟩
    have inOrder := sorted chunk.1 (fst_mem_of_mem_zipIdx mem)
    apply pairwise_map.mpr
    refine inOrder.imp fun below => ?_
    rcases below.lt_or_eq with less | equal
    · exact Prod.Lex.toLex_le_toLex.mpr (.inl less)
    · exact Prod.Lex.toLex_le_toLex.mpr (.inr ⟨equal, le_rfl⟩)
  have untagged : ((tagged chunks).flatMap Prod.snd).map Prod.snd = chunks.flatten := by
    simp [tagged, flatMap_map, map_flatMap, Function.comp_def]
    rw [← flatMap_id, ← zipIdx_map_fst 0 chunks, flatMap_map]
    simp
  have inStreams : ((tagged chunks).flatMap Prod.snd).Pairwise fun first second =>
      first.1 ≤ second.1 := by
    apply pairwise_flatMap.mpr
    constructor
    · intro stream mem
      apply pairwise_of_forall_mem_list
      intro first here second there
      rw [own stream mem first here, own stream mem second there]
    · have indexed : (tagged chunks).Pairwise fun first second => first.1 < second.1 := by
        rw [← pairwise_map]
        simpa [tagged, Function.comp_def] using pairwise_lt_range'
      apply indexed.imp_of_mem
      intro stream other mem later below first here second there
      rw [own stream mem first here, own other later second there]
      exact below.le
  have merges := fun source =>
    @filter_merged Item (Key ×ₗ Nat) _ (tagged chunks) own source (chunkKey key) distinct
  unfold mergeChunks
  generalize (merged (chunkKey key) (tagged chunks)).map Head.item = delivered at ascends merges ⊢
  apply @eq_of_filter_eq _ _ _ key
  · apply pairwise_map.mpr
    refine ascends.imp fun below => ?_
    rcases Prod.Lex.toLex_le_toLex.mp below with less | ⟨equal, -⟩
    · exact less.le
    · exact equal.le
  · exact pairwise_key key orders chunks.flatten
  · intro shared
    rw [filter_insertionSort orders, ← untagged, filter_map, filter_map]
    congr 1
    apply @eq_of_filter_eq _ _ _ Prod.fst
    · apply pairwise_filter.mpr
      refine ascends.imp fun below here there => ?_
      rcases Prod.Lex.toLex_le_toLex.mp below with less | ⟨-, inOrder⟩
      · rw [of_decide_eq_true here, of_decide_eq_true there] at less
        exact absurd less (lt_irrefl shared)
      · exact inOrder
    · exact inStreams.filter _
    · intro source
      have swapped := congrArg (List.filter fun item => decide (key item.2 = shared))
          (merges source)
      rw [filter_filter, filter_filter] at swapped ⊢
      simpa [Bool.and_comm] using swapped

end OrderedMerge

namespace GeneratedRows

open StableSorting OrderedMerge

def csvSortKey (line : String) : String ×ₗ String ×ₗ String :=
  let fields := ((line.toList.rdropWhile fun char => char = '\r' || char = '\n').splitOn ',').map
    String.ofList
  toLex (fields.getD 0 "", toLex (fields.getD 3 "", fields.getD 9 ""))

def sortedRows (rows : List String) : List String :=
  rows.insertionSort fun first second => csvSortKey first ≤ csvSortKey second

/-- The chunk files written so far and the chunk that is being read. -/
structure ChunkedRows where
  chunks : List (List String) := []
  chunk : List String := []

def readRow (sortChunkRows : Nat) (reading : ChunkedRows) (line : String) : ChunkedRows :=
  if isBlank line then reading
  else
    let chunk := reading.chunk ++ [line]
    if sortChunkRows ≤ chunk.length then { chunks := reading.chunks ++ [sortedRows chunk] }
    else { reading with chunk }

def sortedChunks (sortChunkRows : Nat) (lines : List String) : List (List String) :=
  let reading := lines.foldl (readRow sortChunkRows) {}
  if reading.chunk = [] then reading.chunks else reading.chunks ++ [sortedRows reading.chunk]

def sortCsvFileInPlace (sortChunkRows : Nat) : List String → List String
  | [] => []
  | header :: lines => header :: mergeChunks csvSortKey (sortedChunks sortChunkRows lines)

/-- The chunks written are the sorted parts of what was read, and the last part is in memory. -/
def Parted (rows : List String) (reading : ChunkedRows) : Prop :=
  ∃ parts : List (List String), reading.chunks = parts.map sortedRows ∧
      parts.flatten ++ reading.chunk = rows

theorem Parted.read {rows : List String} {reading : ChunkedRows} (parted : Parted rows reading)
    (sortChunkRows : Nat) (line : String) :
    Parted (rows ++ [line].filter fun line => !isBlank line)
      (readRow sortChunkRows reading line) := by
  obtain ⟨parts, written, rfl⟩ := parted
  unfold readRow
  by_cases blank : isBlank line = true
  · rw [if_pos blank]
    exact ⟨parts, written, by simp [blank]⟩
  · rw [if_neg blank]
    dsimp only
    split
    · exact ⟨parts ++ [reading.chunk ++ [line]], by simp [written], by simp [blank]⟩
    · exact ⟨parts, written, by simp [blank]⟩

theorem Parted.chunks (sortChunkRows : Nat) (lines : List String) :
    ∃ parts : List (List String), sortedChunks sortChunkRows lines = parts.map sortedRows ∧
      parts.flatten = lines.filter fun line => !isBlank line := by
  have parted : Parted (lines.filter fun line => !isBlank line)
      (lines.foldl (readRow sortChunkRows) {}) := by
    induction lines using reverseRecOn with
    | nil => exact ⟨[], rfl, rfl⟩
    | append_singleton lines line ih =>
      rw [filter_append, foldl_append]
      exact ih.read sortChunkRows line
  obtain ⟨parts, written, all⟩ := parted
  unfold sortedChunks
  generalize lines.foldl (readRow sortChunkRows) {} = reading at written all ⊢
  dsimp only
  split
  · next empty => exact ⟨parts, written, by rw [← all, empty, append_nil]⟩
  · exact ⟨parts ++ [reading.chunk], by simp [written], by simpa using all⟩

theorem filter_sortedParts (parts : List (List String)) (shared : String ×ₗ String ×ₗ String) :
    (parts.map sortedRows).flatten.filter (fun line => decide (csvSortKey line = shared)) =
      parts.flatten.filter fun line => decide (csvSortKey line = shared) := by
  induction parts with
  | nil => rfl
  | cons part parts ih =>
    rw [map_cons, flatten_cons, flatten_cons, filter_append,
      filter_append, ih, sortedRows, filter_insertionSort fun _ _ => Iff.rfl]

/-- The external sort of a file is the stable sort of its rows in memory, blank ones left out. -/
theorem sortCsvFileInPlace_eq (sortChunkRows : Nat) (header : String) (lines : List String) :
    let rows := lines.filter fun line => !isBlank line
    ∃ sorted, sortCsvFileInPlace sortChunkRows (header :: lines) = header :: sorted ∧
      sorted = sortedRows rows ∧ sorted.Perm rows ∧
      (sorted.Pairwise fun first second => csvSortKey first ≤ csvSortKey second) ∧
      ∀ shared, sorted.filter (fun line => decide (csvSortKey line = shared)) =
        rows.filter fun line => decide (csvSortKey line = shared) := by
  intro rows
  obtain ⟨parts, written, all⟩ := Parted.chunks sortChunkRows lines
  have ascending := pairwise_key csvSortKey fun _ _ => Iff.rfl
  have merges : mergeChunks csvSortKey (sortedChunks sortChunkRows lines) = sortedRows rows := by
    rw [written, mergeChunks_eq fun _ _ => Iff.rfl]
    · apply eq_of_filter_eq (ascending _) (ascending rows)
      intro shared
      rw [filter_insertionSort fun _ _ => Iff.rfl, filter_insertionSort fun _ _ => Iff.rfl,
        filter_sortedParts, all]
    · intro chunk mem
      obtain ⟨part, -, rfl⟩ := mem_map.mp mem
      exact ascending part
  refine ⟨_, rfl, merges, ?_⟩
  rw [merges]
  exact ⟨perm_insertionSort _ rows, ascending rows, filter_insertionSort (fun _ _ => Iff.rfl) rows⟩

end GeneratedRows

end Qts
