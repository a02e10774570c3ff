import Mathlib.Algebra.GroupWithZero.Nat
import Mathlib.Data.List.Nodup
import Mathlib.Data.List.Perm.Basic
import Mathlib.Order.Lattice

/-! # Merging streams on a heap -/

namespace Qts

open List

namespace OrderedMerge

universe u v

variable {Item : Type u} {Key : Type v} [LinearOrder Key]

/-- The next item of a stream, with what is behind it. -/
structure Head (Item : Type u) where
  sequence : Nat
  source : Nat
  item : Item
  rest : List Item

/-- The heap and the number of the next push. -/
structure State (Item : Type u) where
  heap : List (Head Item) := []
  sequence : Nat := 0

/-- The order of the heap: by key, then by the number of the push. -/
def comesFirst (key : Item → Key) (first second : Head Item) : Bool :=
  decide (key first.item < key second.item) ||
    (decide (key first.item = key second.item) && decide (first.sequence ≤ second.sequence))

def popLeast (key : Item → Key) : List (Head Item) → Option (Head Item × List (Head Item))
  | [] => none
  | head :: heads =>
    match popLeast key heads with
    | none => some (head, [])
    | some (least, others) =>
      if comesFirst key head least then some (head, heads) else some (least, head :: others)

/-- Push the next item of a stream, if there is one. -/
def pull (state : State Item) (source : Nat) : List Item → State Item
  | [] => state
  | item :: rest =>
    { heap := ⟨state.sequence, source, item, rest⟩ :: state.heap
      sequence := state.sequence + 1 }

/-- The number of items that are still to be delivered. -/
def remaining (heads : List (Head Item)) : Nat :=
  (heads.map fun head => head.rest.length + 1).sum

/-- So many deliveries, each followed by a pull from the stream it came from. -/
def deliver (key : Item → Key) : Nat → State Item → List (Head Item)
  | 0, _ => []
  | count + 1, state =>
    match popLeast key state.heap with
    | none => []
    | some (least, others) =>
      least :: deliver key count (pull { state with heap := others } least.source least.rest)

def pullAll (state : State Item) : List (Nat × List Item) → State Item
  | [] => state
  | stream :: streams => pullAll (pull state stream.1 stream.2) streams

def merged (key : Item → Key) (streams : List (Nat × List Item)) : List (Head Item) :=
  let state := pullAll {} streams
  deliver key (remaining state.heap) state

/-- The items of a stream that are still to be delivered. -/
def pending (heads : List (Head Item)) (source : Nat) : List Item :=
  match heads.find? fun head => head.source = source with
  | none => []
  | some head => head.item :: head.rest

/-- No stream has two heads. -/
def Separate (heads : List (Head Item)) : Prop :=
  (heads.map Head.source).Nodup

theorem pending_cons_self (head : Head Item) (heads : List (Head Item)) :
    pending (head :: heads) head.source = head.item :: head.rest := by
  simp [pending]

variable {source : Nat}

theorem pending_cons_of_ne {head : Head Item} (other : head.source ≠ source)
    (heads : List (Head Item)) : pending (head :: heads) source = pending heads source := by
  simp [pending, other]

variable {heads : List (Head Item)}

theorem pending_of_not_mem (absent : source ∉ heads.map Head.source) :
    pending heads source = [] := by
  induction heads with
  | nil => rfl
  | cons head heads ih =>
    rw [map_cons, mem_cons, not_or] at absent
    rw [pending_cons_of_ne (Ne.symm absent.1), ih absent.2]

theorem pending_of_mem (separate : Separate heads) {head : Head Item}
    (mem : head ∈ heads) : pending heads head.source = head.item :: head.rest := by
  induction heads with
  | nil => cases mem
  | cons first heads ih =>
    unfold Separate at separate
    rw [map_cons, nodup_cons] at separate
    rcases mem_cons.mp mem with rfl | later
    · exact pending_cons_self head heads
    · have other : first.source ≠ head.source := fun same =>
        separate.1 (same ▸ mem_map_of_mem later)
      rw [pending_cons_of_ne other, ih separate.2 later]

variable {heads others : List (Head Item)}

theorem Separate.perm (separate : Separate heads) (same : heads.Perm others) : Separate others :=
  (same.map Head.source).nodup_iff.mp separate

/-- What is still to come does not depend on the layout of the heap. -/
theorem pending_perm (separate : Separate heads) (same : heads.Perm others) (source : Nat) :
    pending heads source = pending others source := by
  by_cases known : source ∈ heads.map Head.source
  · obtain ⟨head, mem, rfl⟩ := mem_map.mp known
    rw [pending_of_mem separate mem,
      pending_of_mem (separate.perm same) (same.mem_iff.mp mem)]
  · have absent : source ∉ others.map Head.source := fun mem =>
      known ((same.map Head.source).mem_iff.mpr mem)
    rw [pending_of_not_mem known, pending_of_not_mem absent]

variable {state : State Item}

theorem pending_pull (absent : source ∉ state.heap.map Head.source) (stream : List Item)
    (other : Nat) :
    pending (pull state source stream).heap other =
      if other = source then stream else pending state.heap other := by
  cases stream with
  | nil =>
    by_cases same : other = source
    · rw [if_pos same, same]
      exact pending_of_not_mem absent
    · rw [if_neg same]
      rfl
  | cons item rest =>
    by_cases same : other = source
    · rw [if_pos same, same]
      exact pending_cons_self _ _
    · rw [if_neg same]
      exact pending_cons_of_ne (Ne.symm same) _

theorem separate_pull (separate : Separate state.heap)
    (absent : source ∉ state.heap.map Head.source) (stream : List Item) :
    Separate (pull state source stream).heap := by
  cases stream with
  | nil => exact separate
  | cons item rest => exact nodup_cons.mpr ⟨absent, separate⟩

theorem mem_sources_pull {source other : Nat} {stream : List Item}
    (mem : other ∈ (pull state source stream).heap.map Head.source) :
    other = source ∨ other ∈ state.heap.map Head.source := by
  cases stream with
  | nil => exact .inr mem
  | cons item rest => exact mem_cons.mp mem

theorem remaining_pull (state : State Item) (source : Nat) (stream : List Item) :
    remaining (pull state source stream).heap = stream.length + remaining state.heap := by
  cases stream with
  | nil => simp [pull]
  | cons item rest => simp [pull, remaining]

variable {key : Item → Key}

theorem popLeast_none (none : popLeast key heads = none) :
    heads = [] := by
  cases heads with
  | nil => rfl
  | cons head heads =>
    rw [popLeast] at none
    cases later : popLeast key heads with
    | none => simp [later] at none
    | some found =>
      rw [later] at none
      dsimp only at none
      split at none
      · cases none
      · cases none

theorem popLeast_spec {least : Head Item} (popped : popLeast key heads = some (least, others)) :
    heads.Perm (least :: others) ∧ ∀ head ∈ others, key least.item ≤ key head.item := by
  induction heads generalizing least others with
  | nil => cases popped
  | cons head heads ih =>
    rw [popLeast] at popped
    cases later : popLeast key heads with
    | none =>
      rw [later] at popped
      cases popped
      rw [popLeast_none later]
      exact ⟨.refl _, by simp⟩
    | some found =>
      obtain ⟨inner, rest⟩ := found
      obtain ⟨same, first⟩ := ih later
      rw [later] at popped
      dsimp only at popped
      split at popped
      · next isFirst =>
        cases popped
        have before : key head.item ≤ key inner.item := by
          simp only [comesFirst, Bool.or_eq_true, Bool.and_eq_true, decide_eq_true_eq] at isFirst
          rcases isFirst with less | ⟨equal, -⟩
          · exact less.le
          · exact equal.le
        refine ⟨.refl _, ?_⟩
        intro other mem
        rcases mem_cons.mp (same.mem_iff.mp mem) with rfl | inRest
        · exact before
        · exact before.trans (first other inRest)
      · next notFirst =>
        cases popped
        refine ⟨(same.cons head).trans (.swap _ _ _), ?_⟩
        intro other mem
        rcases mem_cons.mp mem with rfl | inRest
        · simp only [comesFirst, Bool.or_eq_true, Bool.and_eq_true, decide_eq_true_eq, not_or,
            not_lt] at notFirst
          exact notFirst.1
        · exact first other inRest

theorem after_delivery {least : Head Item} {others : List (Head Item)}
    (separate : Separate state.heap) (popped : popLeast key state.heap = some (least, others)) :
    let next := pull { state with heap := others } least.source least.rest
    Separate next.heap ∧ remaining state.heap = remaining next.heap + 1 ∧
      (∀ source, pending state.heap source =
        if source = least.source then least.item :: pending next.heap source
        else pending next.heap source) ∧
      ∀ source ∈ next.heap.map Head.source, source ∈ state.heap.map Head.source := by
  obtain ⟨same, -⟩ := popLeast_spec popped
  have parted : Separate (least :: others) := separate.perm same
  have absent : least.source ∉ others.map Head.source := (nodup_cons.mp parted).1
  have rest : Separate others := (nodup_cons.mp parted).2
  refine ⟨separate_pull rest absent _, ?_, ?_, ?_⟩
  · have total : remaining state.heap = remaining (least :: others) :=
      (same.map fun head : Head Item => head.rest.length + 1).sum_nat
    have cons : remaining (least :: others) = least.rest.length + 1 + remaining others := rfl
    rw [remaining_pull, total, cons]
    dsimp only
    omega
  · intro source
    rw [pending_perm separate same, pending_pull absent]
    by_cases own : source = least.source
    · rw [if_pos own, if_pos own, own]
      exact pending_cons_self least others
    · rw [if_neg own, if_neg own]
      exact pending_cons_of_ne (Ne.symm own) others
  · intro source mem
    apply (same.map Head.source).mem_iff.mpr
    exact mem_cons.mpr (mem_sources_pull mem)

def ofSource (deliveries : List (Head Item)) (source : Nat) : List Item :=
  (deliveries.filter fun delivery => delivery.source = source).map Head.item

theorem ofSource_cons (delivery : Head Item) (deliveries : List (Head Item)) (source : Nat) :
    ofSource (delivery :: deliveries) source =
      if source = delivery.source then delivery.item :: ofSource deliveries source
      else ofSource deliveries source := by
  by_cases own : source = delivery.source
  · simp [ofSource, own]
  · simp [ofSource, own, Ne.symm own]

/-- Every stream is delivered in its own order, nothing lost. -/
theorem ofSource_deliver (key : Item → Key) (separate : Separate state.heap) {count : Nat}
    (enough : remaining state.heap = count) (source : Nat) :
    ofSource (deliver key count state) source = pending state.heap source := by
  induction count generalizing state with
  | zero =>
    have empty : state.heap = [] := by
      cases heap : state.heap with
      | nil => rfl
      | cons head heads => simp [heap, remaining] at enough
    rw [empty]
    rfl
  | succ count ih =>
    rw [deliver]
    cases popped : popLeast key state.heap with
    | none =>
      rw [popLeast_none popped]
      rfl
    | some found =>
      obtain ⟨least, others⟩ := found
      obtain ⟨parted, total, toCome, -⟩ := after_delivery separate popped
      have rest := ih parted (by omega)
      rw [ofSource_cons, rest, toCome]

variable {delivery : Head Item}

theorem mem_deliver_source (separate : Separate state.heap) {count : Nat}
    (mem : delivery ∈ deliver key count state) :
    delivery.source ∈ state.heap.map Head.source := by
  induction count generalizing state with
  | zero => cases mem
  | succ count ih =>
    rw [deliver] at mem
    cases popped : popLeast key state.heap with
    | none => simp [popped] at mem
    | some found =>
      obtain ⟨least, others⟩ := found
      obtain ⟨same, -⟩ := popLeast_spec popped
      obtain ⟨parted, -, -, fewer⟩ := after_delivery separate popped
      rw [popped] at mem
      rcases mem_cons.mp mem with rfl | later
      · exact mem_map_of_mem (same.mem_iff.mpr mem_cons_self)
      · exact fewer _ (ih parted later)

theorem mem_deliver (separate : Separate state.heap)
    (mem : delivery ∈ deliver key (remaining state.heap) state) :
    delivery.item ∈ pending state.heap delivery.source := by
  rw [← ofSource_deliver key separate rfl]
  exact mem_map_of_mem (mem_filter.mpr ⟨mem, decide_eq_true rfl⟩)

/-- No item before one with a smaller key. -/
def Ascending (key : Item → Key) (items : List Item) : Prop :=
  items.Pairwise fun first second => key first ≤ key second

theorem deliver_ascending (separate : Separate state.heap)
    (sorted : ∀ source, Ascending key (pending state.heap source)) {count : Nat}
    (enough : remaining state.heap = count) :
    Ascending key ((deliver key count state).map Head.item) := by
  induction count generalizing state with
  | zero => exact .nil
  | succ count ih =>
    rw [deliver]
    cases popped : popLeast key state.heap with
    | none => exact .nil
    | some found =>
      obtain ⟨least, others⟩ := found
      obtain ⟨same, first⟩ := popLeast_spec popped
      obtain ⟨parted, total, toCome, -⟩ := after_delivery separate popped
      have left : remaining (pull { state with heap := others } least.source least.rest).heap =
          count := by omega
      have later : ∀ source, Ascending key
          (pending (pull { state with heap := others } least.source least.rest).heap source) := by
        intro source
        have before := sorted source
        rw [toCome source] at before
        split at before
        · exact before.tail
        · exact before
      refine .cons ?_ (ih parted later left)
      intro item mem
      obtain ⟨delivery, delivered, rfl⟩ := mem_map.mp mem
      rw [← left] at delivered
      have inside := mem_deliver parted delivered
      have whole := sorted delivery.source
      by_cases own : delivery.source = least.source
      · rw [toCome, if_pos own] at whole
        exact rel_of_pairwise_cons whole inside
      · -- The item stands behind another head, which is not before the least one.
        have known := mem_deliver_source parted delivered
        obtain ⟨head, inHeap, ofHead⟩ := mem_map.mp
          ((mem_sources_pull known).resolve_left own)
        have headIn : head ∈ state.heap := same.mem_iff.mpr (mem_cons_of_mem _ inHeap)
        rw [← ofHead, pending_of_mem separate headIn] at whole
        have stands : delivery.item ∈ head.item :: head.rest := by
          rw [← pending_of_mem separate headIn, ofHead, toCome, if_neg own]
          exact inside
        apply (first head inHeap).trans
        rcases mem_cons.mp stands with isHead | behind
        · rw [isHead]
        · exact rel_of_pairwise_cons whole behind

theorem pullAll_spec {streams : List (Nat × List Item)} (separate : Separate state.heap)
    (distinct : (streams.map Prod.fst).Nodup)
    (fresh : ∀ source ∈ streams.map Prod.fst, source ∉ state.heap.map Head.source) :
    Separate (pullAll state streams).heap ∧
      (∀ stream ∈ streams, pending (pullAll state streams).heap stream.1 = stream.2) ∧
      ∀ source ∉ streams.map Prod.fst,
        pending (pullAll state streams).heap source = pending state.heap source := by
  induction streams generalizing state with
  | nil => exact ⟨separate, by simp, fun _ _ => rfl⟩
  | cons stream streams ih =>
    rw [map_cons, nodup_cons] at distinct
    have absent := fresh stream.1 mem_cons_self
    have freshNext : ∀ source ∈ streams.map Prod.fst,
        source ∉ (pull state stream.1 stream.2).heap.map Head.source := by
      intro source mem inside
      rcases mem_sources_pull inside with same | old
      · exact distinct.1 (same ▸ mem)
      · exact fresh source (mem_cons_of_mem _ mem) old
    obtain ⟨parted, own, others⟩ := ih (separate_pull separate absent stream.2) distinct.2 freshNext
    refine ⟨parted, ?_, ?_⟩
    · intro other mem
      rcases mem_cons.mp mem with rfl | later
      · rw [pullAll, others _ distinct.1, pending_pull absent, if_pos rfl]
      · exact own other later
    · intro source unknown
      rw [map_cons, mem_cons, not_or] at unknown
      rw [pullAll, others source unknown.2, pending_pull absent, if_neg unknown.1]

theorem separate_empty : Separate ({} : State Item).heap :=
  nodup_nil

variable {streams : List (Nat × List Item)}

theorem ofSource_merged (key : Item → Key) (distinct : (streams.map Prod.fst).Nodup)
    {stream : Nat × List Item} (mem : stream ∈ streams) :
    ofSource (merged key streams) stream.1 = stream.2 := by
  obtain ⟨parted, own, -⟩ := pullAll_spec separate_empty distinct (by simp)
  exact (ofSource_deliver key parted rfl _).trans (own stream mem)

theorem mem_merged_source (distinct : (streams.map Prod.fst).Nodup)
    (mem : delivery ∈ merged key streams) : delivery.source ∈ streams.map Prod.fst := by
  obtain ⟨parted, -, others⟩ := pullAll_spec (@separate_empty Item) distinct (by simp)
  by_contra unknown
  have inside := mem_deliver parted mem
  rw [others _ unknown] at inside
  cases inside

theorem merged_ascending_iff {key : Item → Key} (distinct : (streams.map Prod.fst).Nodup) :
    Ascending key ((merged key streams).map Head.item) ↔
      ∀ stream ∈ streams, Ascending key stream.2 := by
  obtain ⟨parted, own, others⟩ := pullAll_spec (@separate_empty Item) distinct (by simp)
  constructor
  · intro sorted stream mem
    rw [← ofSource_merged key distinct mem]
    exact sorted.sublist (filter_sublist.map Head.item)
  · intro sorted
    refine deliver_ascending parted ?_ rfl
    intro source
    by_cases known : source ∈ streams.map Prod.fst
    · obtain ⟨stream, mem, rfl⟩ := mem_map.mp known
      rw [own stream mem]
      exact sorted stream mem
    · rw [others source known]
      exact .nil

end OrderedMerge

end Qts
