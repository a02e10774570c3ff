import Qts.OrderedDictionary
import Qts.RaisingCalls
import Qts.RuntimeFailures
import Qts.StepRuns
import Mathlib.Data.List.Sort
import Mathlib.Order.Basic

/-! # Persistent order ids -/

namespace Qts

open Dict StepRuns List

/-- The texts of integers, and what `int` reads from a text. -/
structure IntegerTexts where
  text : Int → String
  parse : String → Option Int
  parse_text : ∀ value, parse (text value) = some value

/-- The cursors of the clients, and the entries of the file at the store path. -/
structure IbkrOrderIdAllocator where
  nextIds : Dict Int Int := .empty
  file : Option (List (String × Int)) := none

inductive OrderIdCall
  | reconcileNextValidId (clientId brokerNextValidId : Int)
  | allocate (clientId : Int)
  | restart

namespace IbkrOrderIdAllocator

variable (texts : IntegerTexts)

/-- The entries by client, which the encoder then puts in the order of their keys. -/
def entries (nextIds : Dict Int Int) : List (String × Int) :=
  ((nextIds.items.insertionSort fun first second => first.1 ≤ second.1).map fun item =>
    (texts.text item.1, item.2)).insertionSort fun first second => first.1 ≤ second.1

def persist (nextIds : Dict Int Int) : IbkrOrderIdAllocator where
  nextIds := nextIds
  file := some (entries texts nextIds)

def readEntry (entry : String × Int) : Except Failure (Int × Int) :=
  match texts.parse entry.1 with
  | some clientId => .ok (clientId, entry.2)
  | none => .error (.valueError ("invalid literal for int() with base 10: " ++ entry.1))

def load : Option (List (String × Int)) → Except Failure (Dict Int Int)
  | none => .ok .empty
  | some entries => do return .ofItems (← entries.mapM (readEntry texts))

def validateClientId (clientId : Int) : Except Failure Unit :=
  if clientId ≤ 0 then .error (.valueError "client_id must be positive") else .ok ()

def reconcileNextValidId (allocator : IbkrOrderIdAllocator) (clientId brokerNextValidId : Int) :
    Except Failure IbkrOrderIdAllocator := do
  validateClientId clientId
  if brokerNextValidId ≤ 0 then
    throw (.valueError "broker_next_valid_id must be positive")
  return persist texts (allocator.nextIds.set clientId
    (max ((allocator.nextIds.get? clientId).getD 0) brokerNextValidId))

def allocate (allocator : IbkrOrderIdAllocator) (clientId : Int) :
    Except Failure (Int × IbkrOrderIdAllocator) := do
  validateClientId clientId
  match allocator.nextIds.get? clientId with
  | none => throw (.runtimeError "IBKR nextValidId has not been reconciled for client_id")
  | some orderId =>
    return (orderId, persist texts (allocator.nextIds.set clientId (orderId + 1)))

/-- A call, answered by the id that it allocates; a restart makes another allocator at the path. -/
def step : Step IbkrOrderIdAllocator OrderIdCall (Except Failure (Option Int)) :=
  fun allocator call =>
    match call with
    | .reconcileNextValidId clientId brokerNextValidId =>
      match allocator.reconcileNextValidId texts clientId brokerNextValidId with
      | .ok next => (.ok none, next)
      | .error failure => (.error failure, allocator)
    | .allocate clientId =>
      match allocator.allocate texts clientId with
      | .ok (orderId, next) => (.ok (some orderId), next)
      | .error failure => (.error failure, allocator)
    | .restart =>
      match load texts allocator.file with
      | .ok nextIds => (.ok none, { allocator with nextIds })
      | .error failure => (.error failure, allocator)

def allocatedBy (clientId : Int) : OrderIdCall × Except Failure (Option Int) → Option Int
  | (.allocate other, .ok orderId) => if other = clientId then orderId else none
  | _ => none

/-- The ids that a run allocates to a client. -/
def allocatedTo (clientId : Int) (allocator : IbkrOrderIdAllocator) (calls : List OrderIdCall) :
    List Int :=
  (calls.zip (responses (step texts) allocator calls)).filterMap (allocatedBy clientId)

/-- No id is allocated to a client twice, none is below an id that the broker asked for earlier,
and every restart finds its file. -/
structure NeverReuses (calls : List OrderIdCall) : Prop where
  increasing : ∀ clientId, (allocatedTo texts clientId {} calls).Pairwise (· < ·)
  aboveBroker : ∀ earlier clientId floor later,
    calls = earlier ++ .reconcileNextValidId clientId floor :: later →
      0 < clientId → 0 < floor →
        ∀ orderId ∈ allocatedTo texts clientId
          (final (step texts) {} (earlier ++ [.reconcileNextValidId clientId floor])) later,
          floor ≤ orderId
  restarts : ∀ earlier later, calls = earlier ++ .restart :: later →
    (step texts (final (step texts) {} earlier) .restart).1 = .ok none

/-- The file gives the cursors back. -/
def Stored (allocator : IbkrOrderIdAllocator) : Prop :=
  ∃ loaded, load texts allocator.file = .ok loaded ∧
    ∀ clientId, loaded.get? clientId = allocator.nextIds.get? clientId

theorem persist_stored (nextIds : Dict Int Int) : Stored texts (persist texts nextIds) := by
  have written : (entries texts nextIds).Perm
      (nextIds.items.map fun item => (texts.text item.1, item.2)) :=
    (perm_insertionSort _ _).trans ((perm_insertionSort _ _).map _)
  let decoded (entry : String × Int) : Int × Int := ((texts.parse entry.1).getD 0, entry.2)
  have read : (entries texts nextIds).mapM (readEntry texts) =
      .ok ((entries texts nextIds).map decoded) := by
    rw [mapM_eq_ok_iff, forall₂_map_right_iff, forall₂_same]
    intro entry mem
    obtain ⟨item, -, rfl⟩ := mem_map.mp (written.mem_iff.mp mem)
    simp only [decoded, readEntry, texts.parse_text, Option.getD_some]
  have perm : ((entries texts nextIds).map decoded).Perm nextIds.items := by
    refine (written.map decoded).trans (.of_eq ?_)
    simp [decoded, Function.comp_def, texts.parse_text]
  have distinct := (perm.map Prod.fst).nodup_iff.mpr nextIds.distinct
  refine ⟨.ofItems ((entries texts nextIds).map decoded), ?_, fun clientId => ?_⟩
  · rw [persist, load, read]
    rfl
  · rw [get?_ofItems distinct]
    exact lookup_perm distinct perm clientId

variable {texts} {allocator next : IbkrOrderIdAllocator} {clientId orderId : Int}

/-- One call: the file still gives the cursors back, no cursor moves back, and an allocated id is
the cursor, which then moves past it. -/
structure Advances (texts : IntegerTexts) (allocator next : IbkrOrderIdAllocator)
    (answered : OrderIdCall × Except Failure (Option Int)) : Prop where
  stored : Stored texts next
  onward : ∀ clientId cursor, allocator.nextIds.get? clientId = some cursor →
    ∃ later, next.nextIds.get? clientId = some later ∧ cursor ≤ later
  allocated : ∀ clientId orderId, allocatedBy clientId answered = some orderId →
    allocator.nextIds.get? clientId = some orderId ∧
      next.nextIds.get? clientId = some (orderId + 1)

theorem onward_of_set {value : Int}
    (ahead : ∀ cursor, allocator.nextIds.get? clientId = some cursor → cursor ≤ value)
    (other cursor : Int) (found : allocator.nextIds.get? other = some cursor) :
    ∃ later, (allocator.nextIds.set clientId value).get? other = some later ∧ cursor ≤ later := by
  rw [get?_set]
  split
  · next same => exact ⟨value, rfl, ahead cursor (same ▸ found)⟩
  · exact ⟨cursor, found, le_refl _⟩

theorem step_advances (stored : Stored texts allocator) (call : OrderIdCall) :
    Advances texts allocator (step texts allocator call).2
      (call, (step texts allocator call).1) := by
  have unchanged (failure : Failure) :
      Advances texts allocator allocator (call, .error failure) := by
    refine ⟨stored, fun _ cursor found => ⟨cursor, found, le_refl _⟩, fun _ _ mine => ?_⟩
    cases call <;> cases mine
  cases call with
  | reconcileNextValidId clientId floor =>
    rw [step]
    cases reconciled : allocator.reconcileNextValidId texts clientId floor with
    | error failure => exact unchanged failure
    | ok next =>
      obtain ⟨⟨⟩, -, rest⟩ := bind_inv reconciled
      split at rest
      · cases rest
      cases rest
      refine ⟨persist_stored texts _, onward_of_set fun cursor found => ?_, fun _ _ mine => ?_⟩
      · rw [found, Option.getD_some]
        exact le_max_left _ _
      · cases mine
  | allocate clientId =>
    rw [step]
    cases allocated : allocator.allocate texts clientId with
    | error failure => exact unchanged failure
    | ok answer =>
      obtain ⟨⟨⟩, -, rest⟩ := bind_inv allocated
      cases found : allocator.nextIds.get? clientId with
      | none =>
        rw [found] at rest
        cases rest
      | some cursor =>
        rw [found] at rest
        cases rest
        refine ⟨persist_stored texts _, onward_of_set fun held same => ?_, fun _ _ mine => ?_⟩
        · have := Option.mem_unique same found
          omega
        · rw [allocatedBy] at mine
          split at mine
          · next same =>
            cases mine
            exact ⟨same ▸ found, same ▸ get?_set_self ..⟩
          · cases mine
  | restart =>
    obtain ⟨loaded, read, same⟩ := stored
    rw [step, read]
    refine ⟨⟨loaded, read, fun _ => rfl⟩, fun clientId cursor found => ?_, fun _ _ mine => ?_⟩
    · exact ⟨cursor, (same clientId).trans found, le_refl _⟩
    · cases mine

/-- From any state whose file gives the cursors back the ids of a client grow from its cursor. -/
theorem allocatedTo_from (clientId : Int) (calls : List OrderIdCall)
    (stored : Stored texts allocator) :
    (allocatedTo texts clientId allocator calls).Pairwise (· < ·) ∧
      ∀ cursor, allocator.nextIds.get? clientId = some cursor →
        ∀ orderId ∈ allocatedTo texts clientId allocator calls, cursor ≤ orderId := by
  induction calls generalizing allocator with
  | nil => exact ⟨.nil, fun _ _ _ mem => absurd mem not_mem_nil⟩
  | cons call calls ih =>
    have advances := step_advances stored call
    obtain ⟨increasing, above⟩ := ih advances.stored
    have later : ∀ cursor, allocator.nextIds.get? clientId = some cursor →
        ∀ orderId ∈ allocatedTo texts clientId (step texts allocator call).2 calls,
          cursor ≤ orderId := by
      intro cursor found orderId mem
      obtain ⟨next, reached, onward⟩ := advances.onward clientId cursor found
      exact le_trans onward (above next reached orderId mem)
    rw [allocatedTo, responses_cons, zip_cons_cons, filterMap_cons]
    cases mine : allocatedBy clientId (call, (step texts allocator call).1) with
    | none => exact ⟨increasing, later⟩
    | some orderId =>
      obtain ⟨held, moved⟩ := advances.allocated clientId orderId mine
      refine ⟨pairwise_cons.mpr ⟨fun other mem => ?_, increasing⟩, ?_⟩
      · have := above _ moved other mem
        omega
      · intro cursor found other mem
        obtain rfl := Option.mem_unique held found
        rcases mem_cons.mp mem with rfl | mem
        · exact le_refl _
        · exact later _ found other mem

theorem final_stored (calls : List OrderIdCall) : Stored texts (final (step texts) {} calls) := by
  have start : Stored texts {} := ⟨.empty, rfl, fun _ => rfl⟩
  refine final_invariant (fun allocator call stored => ?_) start calls
  exact (@step_advances texts allocator stored call).stored

/-- Over any sequence of calls and restarts on one store path the ids of a client only grow. -/
theorem run_neverReuses (texts : IntegerTexts) (calls : List OrderIdCall) :
    NeverReuses texts calls := by
  refine ⟨fun clientId => (allocatedTo_from clientId calls (final_stored [])).1, ?_, ?_⟩
  · rintro earlier clientId floor later rfl known pos
    have ahead : ∃ cursor, (final (step texts) {}
        (earlier ++ [.reconcileNextValidId clientId floor])).nextIds.get? clientId = some cursor ∧
          floor ≤ cursor := by
      rw [final_append, final_cons, final_nil]
      simp [step, reconcileNextValidId, validateClientId, persist, not_le.mpr known,
        not_le.mpr pos, bind, Except.bind, pure, Except.pure]
    obtain ⟨cursor, reached, above⟩ := ahead
    intro orderId mem
    exact le_trans above ((allocatedTo_from clientId later (final_stored _)).2 cursor reached
      orderId mem)
  · rintro earlier later rfl
    obtain ⟨loaded, read, -⟩ := @final_stored texts earlier
    rw [step, read]

end IbkrOrderIdAllocator

end Qts
