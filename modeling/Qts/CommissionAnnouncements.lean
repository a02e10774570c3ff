import Qts.IbkrFillRuns

/-! # Commissions announced for one execution -/

namespace Qts

open Dict StepRuns List
open EStateM (run_bind run_get run_modify run_pure)

inductive ExecutionPhase
  | unseen
  | commissioned
  | staged
  | completed
deriving DecidableEq

inductive ExecutionMove
  | execution
  | commission
  | flush
  | other
deriving DecidableEq

namespace ExecutionPhase

variable {accepted : Prop} {amount : Decimal}

/-- One move of an execution, with the commissions inside fill reports and those of standalone
reports.  An execution that is not accepted is never staged.  A flush may also lose a staged
execution, or raise before it reaches it. -/
inductive Moves (accepted : Prop) (amount : Decimal) :
    ExecutionPhase → ExecutionMove → List Decimal → List Decimal → ExecutionPhase → Prop
  | refused (phase) (refused : ¬ accepted) : Moves accepted amount phase .execution [] [] phase
  | stage (accepts : accepted) : Moves accepted amount .unseen .execution [] [] .staged
  | restage : Moves accepted amount .staged .execution [] [] .staged
  | fillNow (accepts : accepted) :
      Moves accepted amount .commissioned .execution [amount] [] .completed
  | dropped : Moves accepted amount .completed .execution [] [] .completed
  | early : Moves accepted amount .unseen .commission [] [amount] .commissioned
  | again : Moves accepted amount .commissioned .commission [] [amount] .commissioned
  | fill : Moves accepted amount .staged .commission [amount] [] .completed
  | late : Moves accepted amount .completed .commission [] [amount] .completed
  | flushed : Moves accepted amount .staged .flush [0] [] .completed
  | lost : Moves accepted amount .staged .flush [] [] .completed
  | unflushed (phase) : Moves accepted amount phase .flush [] [] phase
  | elsewhere (phase) : Moves accepted amount phase .other [] [] phase

inductive Path (accepted : Prop) (amount : Decimal) :
    ExecutionPhase → List ExecutionMove → List Decimal → List Decimal → Prop
  | nil (phase) : Path accepted amount phase [] [] []
  | cons {phase next move moves fills standalone laterFills laterStandalone}
      (first : Moves accepted amount phase move fills standalone next)
      (rest : Path accepted amount next moves laterFills laterStandalone) :
      Path accepted amount phase (move :: moves) (fills ++ laterFills)
        (standalone ++ laterStandalone)

/-- A commission comes before the first execution, which does come. -/
def CommissionFirst (moves : List ExecutionMove) : Prop :=
  .commission ∈ moves.takeWhile (· ≠ .execution) ∧ .execution ∈ moves

instance (moves : List ExecutionMove) : Decidable (CommissionFirst moves) :=
  inferInstanceAs (Decidable (_ ∧ _))

/-- Whether the fill of an execution will repeat a commission that is announced already. -/
def Repeats (accepted : Prop) : ExecutionPhase → List ExecutionMove → Prop
  | .unseen, moves => accepted ∧ CommissionFirst moves
  | .commissioned, moves => accepted ∧ .execution ∈ moves
  | .staged, _ => False
  | .completed, _ => False

instance [Decidable accepted] (phase : ExecutionPhase) (moves : List ExecutionMove) :
    Decidable (Repeats accepted phase moves) := by
  cases phase
  · exact inferInstanceAs (Decidable (_ ∧ _))
  · exact inferInstanceAs (Decidable (_ ∧ _))
  · exact instDecidableFalse
  · exact instDecidableFalse

@[simp]
theorem commissionFirst_execution (moves : List ExecutionMove) :
    ¬ CommissionFirst (.execution :: moves) := by
  simp [CommissionFirst]

@[simp]
theorem commissionFirst_commission (moves : List ExecutionMove) :
    CommissionFirst (.commission :: moves) ↔ .execution ∈ moves := by
  simp [CommissionFirst]

@[simp]
theorem commissionFirst_flush (moves : List ExecutionMove) :
    CommissionFirst (.flush :: moves) ↔ CommissionFirst moves := by
  simp [CommissionFirst]

@[simp]
theorem commissionFirst_other (moves : List ExecutionMove) :
    CommissionFirst (.other :: moves) ↔ CommissionFirst moves := by
  simp [CommissionFirst]

variable {phase : ExecutionPhase}

variable {moves : List ExecutionMove}

theorem repeats_refused (refused : ¬ accepted) :
    ¬ Repeats accepted phase moves := by
  cases phase with
  | unseen => exact fun repeats => refused repeats.1
  | commissioned => exact fun repeats => refused repeats.1
  | staged => exact id
  | completed => exact id

theorem repeats_flush (phase : ExecutionPhase) (moves : List ExecutionMove) :
    Repeats accepted phase (.flush :: moves) ↔ Repeats accepted phase moves := by
  cases phase <;> simp [Repeats]

theorem repeats_other (phase : ExecutionPhase) (moves : List ExecutionMove) :
    Repeats accepted phase (.other :: moves) ↔ Repeats accepted phase moves := by
  cases phase <;> simp [Repeats]

variable {fills standalone : List Decimal}

theorem Path.completed_fills
    (path : Path accepted amount .completed moves fills standalone) : fills = [] := by
  induction moves generalizing fills standalone with
  | nil => cases path; rfl
  | cons move moves ih =>
    cases path with
    | cons first rest =>
      cases first <;> exact ih rest

theorem Path.fills_length
    (path : Path accepted amount phase moves fills standalone) : fills.length ≤ 1 := by
  induction path with
  | nil => exact Nat.zero_le 1
  | cons first rest ih =>
    cases first with
    | fillNow _ => rw [rest.completed_fills]; exact le_rfl
    | fill => rw [rest.completed_fills]; exact le_rfl
    | flushed => rw [rest.completed_fills]; exact le_rfl
    | _ => exact ih

theorem Moves.announces [Decidable accepted] {phase next : ExecutionPhase} {move : ExecutionMove}
    (moved : Moves accepted amount phase move fills standalone next) (moves : List ExecutionMove) :
    fills.sum + standalone.sum + amount * (if Repeats accepted next moves then 1 else 0) =
      amount * ((if move = .commission then 1 else 0) +
        if Repeats accepted phase (move :: moves) then 1 else 0) := by
  cases moved with
  | refused phase refused => simp [repeats_refused refused]
  | stage accepts => simp [Repeats]
  | restage => simp [Repeats]
  | fillNow accepts => simp [Repeats, accepts]
  | dropped => simp [Repeats]
  | early =>
    by_cases due : accepted ∧ .execution ∈ moves <;> simp [Repeats, due, mul_add]
  | again =>
    by_cases due : accepted ∧ .execution ∈ moves <;> simp [Repeats, due, mul_add]
  | fill => simp [Repeats]
  | late => simp [Repeats]
  | flushed => simp [Repeats]
  | lost => simp [Repeats]
  | unflushed phase => simp [repeats_flush]
  | elsewhere phase => simp [repeats_other]

theorem Path.total [Decidable accepted]
    (path : Path accepted amount phase moves fills standalone) :
    fills.sum + standalone.sum =
      amount * (moves.count .commission + if Repeats accepted phase moves then 1 else 0) := by
  induction path with
  | nil phase => cases phase <;> simp [Repeats, CommissionFirst]
  | @cons phase next move moves fills standalone laterFills laterStandalone first rest ih =>
    have announces := first.announces moves
    rw [mul_add] at ih announces
    rw [sum_append, sum_append, count_cons, mul_add, Nat.cast_add, mul_add]
    simp only [beq_iff_eq, Nat.cast_ite, Nat.cast_one, Nat.cast_zero]
    linarith

end ExecutionPhase

namespace IbkrCallbacks

open RaisingCalls ExecutionPhase

def moveOf (executionId : String) : IbkrFillEvent → ExecutionMove
  | .execution payload => if payload.executionId = executionId then .execution else .other
  | .commission payload => if payload.executionId = executionId then .commission else .other
  | .flush _ => .flush
  | .orderMap _ => .other
  | .resolveQuarantined => .other

def fillCommissions (executionId : String) (reports : List ExecutionReport) : List Decimal :=
  (reports.filter fun report => report.fillId = some executionId).map (·.commission)

def standaloneCommissions (executionId : String) (commission : Option BrokerCommissionReport) :
    List Decimal :=
  ((commission.filter fun report => report.executionId = executionId).map (·.commission)).toList

def OfExecution (payload : IbkrExecutionPayload) (commission : IbkrCommissionPayload) :
    IbkrFillEvent → Prop
  | .execution other => other = payload ∨ other.executionId ≠ payload.executionId
  | .commission other => other = commission ∨ other.executionId ≠ payload.executionId
  | .flush _ => True
  | .orderMap _ => False
  | .resolveQuarantined => False

/-- An execution of the account for an order that the order map knows. -/
def Accepts (calls : IbkrCallbacks) (payload : IbkrExecutionPayload) : Prop :=
  payload.accountId.filter (fun accountId => accountId ≠ calls.accountId) = none ∧
    calls.resolves payload.brokerOrderId = true

instance (calls : IbkrCallbacks) (payload : IbkrExecutionPayload) :
    Decidable (Accepts calls payload) :=
  inferInstanceAs (Decidable (_ ∧ _))

/-- The callback state holds what the phase of an execution says, and nothing else of it. -/
structure InPhase (payload : IbkrExecutionPayload) (commission : IbkrCommissionPayload)
    (calls : IbkrCallbacks) (phase : ExecutionPhase) : Prop where
  named : ∀ key execution, calls.pendingExecutions.get? key = some execution →
    execution.executionId = key.2.2
  staged : ∀ key execution, calls.pendingExecutions.get? key = some execution →
    key.2.2 = payload.executionId →
      phase = .staged ∧ key = executionKey calls.accountId payload ∧ execution = payload
  present : phase = .staged →
    calls.pendingExecutions.get? (executionKey calls.accountId payload) = some payload
  known : phase ≠ .completed → calls.commissions.get? payload.executionId =
    if phase = .commissioned then some commission else none
  completed : ∀ key ∈ calls.completedExecutionKeys, key.2.2 = payload.executionId →
    phase = .completed
  done : phase = .completed →
    executionKey calls.accountId payload ∈ calls.completedExecutionKeys

namespace InPhase

variable {payload : IbkrExecutionPayload} {commission : IbkrCommissionPayload}
  {calls : IbkrCallbacks} {phase : ExecutionPhase}

theorem transfer (inPhase : InPhase payload commission calls phase) {after : IbkrCallbacks}
    (account : after.accountId = calls.accountId)
    (pending : ∀ key, after.pendingExecutions.get? key = calls.pendingExecutions.get? key)
    (commissions : phase ≠ .completed → after.commissions.get? payload.executionId =
      calls.commissions.get? payload.executionId)
    (completed : after.completedExecutionKeys = calls.completedExecutionKeys) :
    InPhase payload commission after phase where
  named key execution found := inPhase.named key execution (pending key ▸ found)
  staged key execution found own := by
    rw [account]
    exact inPhase.staged key execution (pending key ▸ found) own
  present stagedPhase := by
    rw [account, pending]
    exact inPhase.present stagedPhase
  known unfinished := (commissions unfinished).trans (inPhase.known unfinished)
  completed := by
    rw [completed]
    exact inPhase.completed
  done completedPhase := by
    rw [completed, account]
    exact inPhase.done completedPhase

theorem completeOther (inPhase : InPhase payload commission calls phase) {key : ExecutionKey}
    (other : key.2.2 ≠ payload.executionId) :
    InPhase payload commission (calls.completed key) phase where
  named key' execution found := by
    simp only [IbkrCallbacks.completed, get?_erase] at found
    split at found
    · cases found
    · exact inPhase.named key' execution found
  staged key' execution found := by
    simp only [IbkrCallbacks.completed, get?_erase] at found
    split at found
    · cases found
    · exact inPhase.staged key' execution found
  present stagedPhase := by
    have ne : executionKey calls.accountId payload ≠ key :=
      fun same => other (congrArg (·.2.2) same).symm
    simp only [IbkrCallbacks.completed, get?_erase, if_neg ne]
    exact inPhase.present stagedPhase
  known := inPhase.known
  completed key' mem named := by
    simp only [IbkrCallbacks.completed, Finset.mem_insert] at mem
    rcases mem with rfl | before
    · exact absurd named other
    · exact inPhase.completed key' before named
  done completedPhase := Finset.mem_insert_of_mem (inPhase.done completedPhase)

theorem completeOwn (inPhase : InPhase payload commission calls phase) :
    InPhase payload commission
      (calls.completed (executionKey calls.accountId payload)) .completed where
  named key execution found := by
    simp only [IbkrCallbacks.completed, get?_erase] at found
    split at found
    · cases found
    · exact inPhase.named key execution found
  staged key execution found own := by
    simp only [IbkrCallbacks.completed, get?_erase] at found
    split at found
    · cases found
    · next ne => exact absurd (inPhase.staged key execution found own).2.1 ne
  present := nofun
  known completes := absurd rfl completes
  completed _ _ _ := rfl
  done _ := Finset.mem_insert_self _ _

theorem stageOther (inPhase : InPhase payload commission calls phase)
    {other : IbkrExecutionPayload} (ne : other.executionId ≠ payload.executionId) :
    InPhase payload commission (calls.stagedState other) phase where
  named key execution found := by
    simp only [IbkrCallbacks.stagedState, get?_set] at found
    split at found
    · next same =>
      obtain rfl := Option.some.inj found
      exact (congrArg (·.2.2) same).symm
    · exact inPhase.named key execution found
  staged key execution found own := by
    simp only [IbkrCallbacks.stagedState, get?_set] at found
    split at found
    · next same =>
      rw [same] at own
      exact absurd own ne
    · exact inPhase.staged key execution found own
  present stagedPhase := by
    have apart : executionKey calls.accountId payload ≠
        executionKey calls.accountId other :=
      fun same => ne (congrArg (·.2.2) same).symm
    simp only [IbkrCallbacks.stagedState, get?_set, if_neg apart]
    exact inPhase.present stagedPhase
  known := inPhase.known
  completed := inPhase.completed
  done := inPhase.done

theorem stageOwn (inPhase : InPhase payload commission calls phase)
    (unknown : phase = .unseen ∨ phase = .staged) :
    InPhase payload commission (calls.stagedState payload) .staged where
  named key execution found := by
    simp only [IbkrCallbacks.stagedState, get?_set] at found
    split at found
    · next same =>
      obtain rfl := Option.some.inj found
      exact (congrArg (·.2.2) same).symm
    · exact inPhase.named key execution found
  staged key execution found own := by
    simp only [IbkrCallbacks.stagedState, get?_set] at found
    split at found
    · next same =>
      obtain rfl := Option.some.inj found
      exact ⟨rfl, same, rfl⟩
    · exact ⟨rfl, (inPhase.staged key execution found own).2⟩
  present _ := get?_set_self _ _ _
  known _ := by
    rcases unknown with rfl | rfl
    · exact inPhase.known (by simp)
    · exact inPhase.known (by simp)
  completed key mem own := by
    have done := inPhase.completed key mem own
    rcases unknown with rfl | rfl <;> cases done
  done finished := by cases finished

theorem learnOwn (inPhase : InPhase payload commission calls phase)
    (unstaged : phase = .unseen ∨ phase = .commissioned)
    {commissions : Dict String IbkrCommissionPayload}
    (known : commissions.get? payload.executionId = some commission) :
    InPhase payload commission { calls with commissions } .commissioned where
  named := inPhase.named
  staged key execution found own := by
    have staged := (inPhase.staged key execution found own).1
    rcases unstaged with rfl | rfl <;> cases staged
  present := nofun
  known _ := known
  completed key mem own := by
    have done := inPhase.completed key mem own
    rcases unstaged with rfl | rfl <;> cases done
  done := nofun

theorem unstaged (inPhase : InPhase payload commission calls phase)
    (ne : phase ≠ .staged) :
    calls.pendingExecutions.keys.find? (fun key => key.2.2 = payload.executionId) = none := by
  refine find?_eq_none.mpr ?_
  intro key mem
  obtain ⟨execution, found⟩ := (calls.pendingExecutions.mem_keys_iff).mp mem
  rw [decide_eq_true_iff]
  exact fun own => ne (inPhase.staged key execution found own).1

theorem stagedKey (inPhase : InPhase payload commission calls .staged) :
    calls.pendingExecutions.keys.find? (fun key => key.2.2 = payload.executionId) =
      some (executionKey calls.accountId payload) := by
  have mem := (calls.pendingExecutions.mem_keys_iff).mpr ⟨payload, inPhase.present rfl⟩
  cases found : calls.pendingExecutions.keys.find?
      (fun key => key.2.2 = payload.executionId) with
  | none =>
    have absent := find?_eq_none.mp found _ mem
    exact absurd rfl (of_decide_eq_false (Bool.eq_false_iff.mpr absent))
  | some key =>
    have own : key.2.2 = payload.executionId := by simpa using find?_some found
    obtain ⟨execution, present⟩ :=
      (calls.pendingExecutions.mem_keys_iff).mp (mem_of_find?_eq_some found)
    rw [(inPhase.staged key execution present own).2.1]

end InPhase

variable {payload : IbkrExecutionPayload} {commission : IbkrCommissionPayload}
  {calls after : IbkrCallbacks} {phase : ExecutionPhase}

/-- Neither the account nor the order map changes. -/
def SameOrders (calls after : IbkrCallbacks) : Prop :=
  after.accountId = calls.accountId ∧ after.orderMap = calls.orderMap

theorem SameOrders.accepts (same : SameOrders calls after) :
    Accepts after payload ↔ Accepts calls payload := by
  rw [Accepts, Accepts, resolves, resolves, same.1, same.2]

theorem fillCommissions_own {report : ExecutionReport} (books : BooksExecution payload report)
    (reports : List ExecutionReport) :
    fillCommissions payload.executionId (report :: reports) =
      report.commission :: fillCommissions payload.executionId reports := by
  simp [fillCommissions, books.2.2.2.2.2]

theorem fillCommissions_other {execution : IbkrExecutionPayload} {report : ExecutionReport}
    (books : BooksExecution execution report)
    (other : execution.executionId ≠ payload.executionId) (reports : List ExecutionReport) :
    fillCommissions payload.executionId (report :: reports) =
      fillCommissions payload.executionId reports := by
  simp [fillCommissions, books.2.2.2.2.2, other]

/-- Completing another execution announces nothing. -/
theorem popCommissionedExecution_other (inPhase : InPhase payload commission calls phase)
    {key : ExecutionKey} (other : key.2.2 ≠ payload.executionId) :
    ∃ report after, (popCommissionedExecution key).run calls = .ok report after ∧
      InPhase payload commission after phase ∧ SameOrders calls after ∧
      fillCommissions payload.executionId report.toList = [] := by
  cases pending : calls.pendingExecutions.get? key with
  | none =>
    refine ⟨none, calls, ?_, inPhase, ⟨rfl, rfl⟩, rfl⟩
    simp only [popCommissionedExecution, run_bind, run_get, pending, run_pure]
  | some execution =>
    cases known : calls.commissions.get? key.2.2 with
    | none =>
      refine ⟨none, calls, ?_, inPhase, ⟨rfl, rfl⟩, rfl⟩
      simp only [popCommissionedExecution, run_bind, run_get, pending, known, run_pure]
    | some known' =>
      obtain ⟨report, ran, books, _⟩ := popCommissionedExecution_booked pending known
      have named := inPhase.named key execution pending
      refine ⟨some report, _, ran, ?_, ⟨rfl, rfl⟩, ?_⟩
      · refine (inPhase.completeOther other).transfer rfl (fun _ => rfl) ?_ rfl
        intro _
        exact get?_erase_of_ne _ other.symm
      · exact fillCommissions_other books (named ▸ other) []

theorem onExecution_other (inPhase : InPhase payload commission calls phase)
    {other : IbkrExecutionPayload} (ne : other.executionId ≠ payload.executionId) :
    ∃ report after, (onExecution other).run calls = .ok report after ∧
      InPhase payload commission after phase ∧ SameOrders calls after ∧
      fillCommissions payload.executionId report.toList = [] := by
  by_cases stages : calls.Stages other
  · rw [onExecution_staged stages]
    split
    · exact ⟨none, _, rfl, inPhase.stageOther ne, ⟨rfl, rfl⟩, rfl⟩
    · exact popCommissionedExecution_other (inPhase.stageOther ne) ne
  · obtain ⟨after, ran, account, orderMap, commissions, pending, completed⟩ :=
      onExecution_dropped stages
    refine ⟨none, after, ran, ?_, ⟨account, orderMap⟩, rfl⟩
    exact inPhase.transfer account (fun _ => by rw [pending]) (fun _ => by rw [commissions])
      completed

theorem onExecution_own (inPhase : InPhase payload commission calls phase) :
    ∃ report after next, (onExecution payload).run calls = .ok report after ∧
      InPhase payload commission after next ∧ SameOrders calls after ∧
      Moves (Accepts calls payload) commission.commission phase .execution
        (fillCommissions payload.executionId report.toList) [] next := by
  by_cases stages : calls.Stages payload
  · have accepts : Accepts calls payload := ⟨stages.1, stages.2.2⟩
    rw [onExecution_staged stages]
    cases phase with
    | unseen =>
      have unknown : calls.commissions.get? payload.executionId = none := inPhase.known (by simp)
      rw [unknown]
      exact ⟨none, _, .staged, rfl, inPhase.stageOwn (.inl rfl), ⟨rfl, rfl⟩, .stage accepts⟩
    | commissioned =>
      have pending : (calls.stagedState payload).pendingExecutions.get?
          (executionKey calls.accountId payload) = some payload :=
        get?_set_self _ _ _
      have known : calls.commissions.get? payload.executionId = some commission :=
        inPhase.known (by simp)
      obtain ⟨report, ran, books, amount⟩ := popCommissionedExecution_booked pending known
      rw [known]
      refine ⟨some report, _, .completed, ran, ?_, ⟨rfl, rfl⟩, ?_⟩
      · refine inPhase.completeOwn.transfer rfl ?_ (absurd rfl) rfl
        intro key
        simp only [IbkrCallbacks.completed, IbkrCallbacks.stagedState, get?_erase, get?_set]
        split <;> rfl
      · rw [Option.toList_some, fillCommissions_own books, amount]
        exact .fillNow accepts
    | staged =>
      have unknown : calls.commissions.get? payload.executionId = none := inPhase.known (by simp)
      rw [unknown]
      exact ⟨none, _, .staged, rfl, inPhase.stageOwn (.inr rfl), ⟨rfl, rfl⟩, .restage⟩
    | completed => exact absurd (inPhase.done rfl) stages.2.1
  · obtain ⟨after, ran, account, orderMap, commissions, pending, completed⟩ :=
      onExecution_dropped stages
    have same : InPhase payload commission after phase :=
      inPhase.transfer account (fun _ => by rw [pending]) (fun _ => by rw [commissions]) completed
    refine ⟨none, after, phase, ran, same, ⟨account, orderMap⟩, ?_⟩
    by_cases accepts : Accepts calls payload
    · have done : executionKey calls.accountId payload ∈ calls.completedExecutionKeys := by
        by_contra uncompleted
        exact stages ⟨accepts.1, uncompleted, accepts.2⟩
      obtain rfl := inPhase.completed _ done rfl
      exact .dropped
    · exact .refused phase accepts

theorem onCommission_other (inPhase : InPhase payload commission calls phase)
    {other : IbkrCommissionPayload} (ne : other.executionId ≠ payload.executionId) :
    ∃ result after, (onCommission other).run calls = .ok result after ∧
      InPhase payload commission after phase ∧ SameOrders calls after ∧
      fillCommissions payload.executionId (commissionedReport result).toList = [] ∧
      (result.isRight → result = .inr other) := by
  let noted : IbkrCallbacks := { calls with
    callbackEvents := calls.callbackEvents ++
      [{ kind := "ibkr_commission_report_received", executionId := some other.executionId }]
    commissions := calls.commissions.set other.executionId other }
  have start : InPhase payload commission noted phase :=
    inPhase.transfer rfl (fun _ => rfl)
      (fun _ => get?_set_of_ne _ _ ne.symm) rfl
  have popped : ∃ report after,
      (popCommissionedExecutionByExecutionId other.executionId).run noted = .ok report after ∧
      InPhase payload commission after phase ∧ SameOrders noted after ∧
      fillCommissions payload.executionId report.toList = [] := by
    simp only [popCommissionedExecutionByExecutionId, run_bind, run_get]
    split
    · next key found =>
      have named : key.2.2 = other.executionId := by simpa using find?_some found
      exact popCommissionedExecution_other start (named ▸ ne)
    · exact ⟨none, noted, rfl, start, ⟨rfl, rfl⟩, rfl⟩
  obtain ⟨report, after, ran, next, same, none⟩ := popped
  simp only [noted] at ran
  cases report with
  | some report =>
    refine ⟨.inl report, after, ?_, next, same, none, by simp⟩
    simp only [onCommission, recordCallbackEvent, run_bind, run_modify, ran, run_pure]
  | none =>
    simp only [onCommission, recordCallbackEvent, run_bind, run_modify, ran, run_get]
    split
    · exact ⟨.inr other, _, rfl, next.transfer rfl (fun _ => rfl) (fun _ => rfl) rfl, same, rfl,
        fun _ => rfl⟩
    · exact ⟨.inr other, after, rfl, next, same, rfl, fun _ => rfl⟩

theorem onCommission_standalone
    (none : calls.pendingExecutions.keys.find?
      (fun key => key.2.2 = commission.executionId) = none) :
    ∃ after, (onCommission commission).run calls = .ok (.inr commission) after ∧
      after.accountId = calls.accountId ∧ after.orderMap = calls.orderMap ∧
      after.pendingExecutions = calls.pendingExecutions ∧
      after.commissions = calls.commissions.set commission.executionId commission ∧
      after.completedExecutionKeys = calls.completedExecutionKeys := by
  simp only [onCommission, recordCallbackEvent, popCommissionedExecutionByExecutionId,
    run_bind, run_modify, run_get, none, run_pure]
  split
  · exact ⟨_, rfl, rfl, rfl, rfl, rfl, rfl⟩
  · exact ⟨_, rfl, rfl, rfl, rfl, rfl, rfl⟩

theorem onCommission_own (inPhase : InPhase payload commission calls phase)
    (same : commission.executionId = payload.executionId) :
    ∃ result after next, (onCommission commission).run calls = .ok result after ∧
      InPhase payload commission after next ∧ SameOrders calls after ∧
      Moves (Accepts calls payload) commission.commission phase .commission
        (fillCommissions payload.executionId (commissionedReport result).toList)
        (standaloneCommissions payload.executionId result.getRight?) next := by
  by_cases staged : phase = .staged
  · subst staged
    let noted : IbkrCallbacks := { calls with
      callbackEvents := calls.callbackEvents ++
        [{ kind := "ibkr_commission_report_received"
           executionId := some commission.executionId }]
      commissions := calls.commissions.set commission.executionId commission }
    have known : noted.commissions.get? payload.executionId = some commission := by
      rw [← same]
      exact get?_set_self _ _ _
    have pending : noted.pendingExecutions.get? (executionKey calls.accountId payload) =
        some payload := inPhase.present rfl
    obtain ⟨report, ran, books, amount⟩ := popCommissionedExecution_booked pending known
    have first := inPhase.stagedKey
    rw [← same] at first
    refine ⟨.inl report, { noted.completed (executionKey calls.accountId payload) with
      commissions := noted.commissions.erase payload.executionId }, .completed, ?_,
      inPhase.completeOwn.transfer rfl (fun _ => rfl) (absurd rfl) rfl, ⟨rfl, rfl⟩, ?_⟩
    · simp only [noted] at ran
      simp only [onCommission, recordCallbackEvent, popCommissionedExecutionByExecutionId,
        run_bind, run_modify, run_get, first, ran, run_pure]
      rfl
    · simp only [commissionedReport, Option.toList_some, fillCommissions_own books, amount]
      exact .fill
  · have absent := inPhase.unstaged staged
    rw [← same] at absent
    obtain ⟨after, ran, account, orderMap, pending, commissions, completed⟩ :=
      onCommission_standalone absent
    have announced : standaloneCommissions payload.executionId (some commission) =
        [commission.commission] := by
      simp [standaloneCommissions, same]
    have known : (calls.commissions.set commission.executionId commission).get?
        payload.executionId = some commission := by
      rw [← same]
      exact get?_set_self _ _ _
    have learn : phase = .unseen ∨ phase = .commissioned →
        InPhase payload commission after .commissioned := fun unstaged =>
      (inPhase.learnOwn unstaged known).transfer account (fun _ => by rw [pending])
        (fun _ => by rw [commissions]) completed
    cases phase with
    | unseen =>
      refine ⟨_, after, .commissioned, ran, learn (.inl rfl), ⟨account, orderMap⟩, ?_⟩
      rw [Sum.getRight?_inr, announced]
      exact .early
    | commissioned =>
      refine ⟨_, after, .commissioned, ran, learn (.inr rfl), ⟨account, orderMap⟩, ?_⟩
      rw [Sum.getRight?_inr, announced]
      exact .again
    | staged => exact absurd rfl staged
    | completed =>
      refine ⟨_, after, .completed, ran, inPhase.transfer account (fun _ => by rw [pending])
        (absurd rfl) completed, ⟨account, orderMap⟩, ?_⟩
      rw [Sum.getRight?_inr, announced]
      exact .late

inductive Flushes : ExecutionPhase → List Decimal → ExecutionPhase → Prop
  | kept (reached : ExecutionPhase) : Flushes reached [] reached
  | booked : Flushes .staged [0] .completed

theorem Flushes.of_completed {fills : List Decimal} {next : ExecutionPhase}
    (flushes : Flushes .completed fills next) : fills = [] ∧ next = .completed := by
  cases flushes
  exact ⟨rfl, rfl⟩

theorem Flushes.moves {accepted : Prop} {amount : Decimal} {phase next : ExecutionPhase}
    {fills : List Decimal} (flushes : Flushes phase fills next) :
    Moves accepted amount phase .flush fills [] next := by
  cases flushes with
  | kept => exact .unflushed phase
  | booked => exact .flushed

theorem flushExecutions_phase {reason : String} (stated : PythonText.isBlank reason = false)
    (items : List (ExecutionKey × IbkrExecutionPayload)) {calls : IbkrCallbacks}
    (inPhase : InPhase payload commission calls phase)
    (present : ∀ item ∈ items, calls.pendingExecutions.get? item.1 = some item.2)
    (distinct : (items.map Prod.fst).Nodup) :
    ∃ reports after next, (flushExecutions reason items).run calls = .ok reports after ∧
      InPhase payload commission after next ∧ SameOrders calls after ∧
      Flushes phase (fillCommissions payload.executionId reports) next := by
  induction items generalizing calls phase with
  | nil => exact ⟨[], calls, phase, rfl, inPhase, ⟨rfl, rfl⟩, .kept phase⟩
  | cons item items ih =>
    obtain ⟨key, execution⟩ := item
    have found := present _ mem_cons_self
    have apart := nodup_cons.mp distinct
    let noted : IbkrCallbacks := { calls.completed key with
      callbackEvents := calls.callbackEvents ++
        [executionEvent execution "ibkr_fill_committed_without_commission" (some reason)] }
    have later : ∀ item ∈ items, noted.pendingExecutions.get? item.1 = some item.2 := by
      intro item mem
      have ne : item.1 ≠ key :=
        fun same => apart.1 (same ▸ mem_map.mpr ⟨item, mem, rfl⟩)
      simp only [noted, IbkrCallbacks.completed, get?_erase, if_neg ne]
      exact present item (mem_cons_of_mem _ mem)
    obtain ⟨report, booked, books, amount⟩ := bookExecution_ok execution le_rfl noted
    have flushed : ∀ {reports after},
        (flushExecutions reason items).run noted = .ok reports after →
        (flushExecutions reason ((key, execution) :: items)).run calls =
          .ok (report :: reports) after := by
      intro reports after ran
      simp only [noted, IbkrCallbacks.completed] at booked ran
      simp only [flushExecutions, stated, Bool.false_eq_true, if_false, recordCallbackEvent,
        run_bind, run_modify, booked, ran, run_pure]
    by_cases own : key.2.2 = payload.executionId
    · obtain ⟨rfl, rfl, rfl⟩ := inPhase.staged key execution found own
      have next : InPhase execution commission noted .completed :=
        inPhase.completeOwn.transfer rfl (fun _ => rfl) (fun _ => rfl) rfl
      obtain ⟨reports, after, _, ran, last, same, flushes⟩ := ih next later apart.2
      obtain ⟨none, rfl⟩ := flushes.of_completed
      refine ⟨report :: reports, after, .completed, flushed ran, last, same, ?_⟩
      rw [fillCommissions_own books, amount, none]
      exact .booked
    · have next : InPhase payload commission noted phase :=
        (inPhase.completeOther own).transfer rfl (fun _ => rfl) (fun _ => rfl) rfl
      obtain ⟨reports, after, last, ran, reached, same, flushes⟩ := ih next later apart.2
      refine ⟨report :: reports, after, last, flushed ran, reached, same, ?_⟩
      rw [fillCommissions_other books (inPhase.named key execution found ▸ own)]
      exact flushes

theorem flushExecutions_blank {reason : String} (blank : PythonText.isBlank reason = true)
    (key : ExecutionKey) (execution : IbkrExecutionPayload)
    (items : List (ExecutionKey × IbkrExecutionPayload)) (calls : IbkrCallbacks) :
    (flushExecutions reason ((key, execution) :: items)).run calls =
      .error (.valueError "reason must not be empty when provided") (calls.completed key) := by
  simp only [flushExecutions, blank, if_true, run_bind, run_modify, throw_run]
  rfl

theorem fillStep_flush (inPhase : InPhase payload commission calls phase) (reason : String) :
    ∃ next, InPhase payload commission (fillStep calls (.flush reason)).2 next ∧
      SameOrders calls (fillStep calls (.flush reason)).2 ∧
      Moves (Accepts calls payload) commission.commission phase .flush
        (fillCommissions payload.executionId (fillStep calls (.flush reason)).1.reports)
        (standaloneCommissions payload.executionId
          (fillStep calls (.flush reason)).1.commission) next := by
  simp only [fillStep, answerReports, flushPendingExecutions, run_bind, run_get]
  cases stated : PythonText.isBlank reason with
  | false =>
    obtain ⟨reports, after, next, ran, reached, same, flushes⟩ := flushExecutions_phase stated
      calls.pendingExecutions.items inPhase
      (fun item mem => (calls.pendingExecutions.get?_eq_some_iff).mpr mem)
      calls.pendingExecutions.distinct
    rw [ran]
    exact ⟨next, reached, same, flushes.moves⟩
  | true =>
    cases waiting : calls.pendingExecutions.items with
    | nil => exact ⟨phase, inPhase, ⟨rfl, rfl⟩, .unflushed phase⟩
    | cons item items =>
      obtain ⟨key, execution⟩ := item
      have found : calls.pendingExecutions.get? key = some execution :=
        (calls.pendingExecutions.get?_eq_some_iff).mpr (waiting ▸ mem_cons_self)
      rw [flushExecutions_blank stated]
      by_cases own : key.2.2 = payload.executionId
      · obtain ⟨rfl, rfl, rfl⟩ := inPhase.staged key execution found own
        exact ⟨.completed, inPhase.completeOwn, ⟨rfl, rfl⟩, .lost⟩
      · exact ⟨phase, inPhase.completeOther own, ⟨rfl, rfl⟩, .unflushed phase⟩

theorem fillStep_phase (same : commission.executionId = payload.executionId)
    (inPhase : InPhase payload commission calls phase) {event : IbkrFillEvent}
    (of : OfExecution payload commission event) :
    ∃ next, InPhase payload commission (fillStep calls event).2 next ∧
      SameOrders calls (fillStep calls event).2 ∧
      Moves (Accepts calls payload) commission.commission phase
        (moveOf payload.executionId event)
        (fillCommissions payload.executionId (fillStep calls event).1.reports)
        (standaloneCommissions payload.executionId (fillStep calls event).1.commission)
        next := by
  cases event with
  | execution other =>
    by_cases own : other.executionId = payload.executionId
    · obtain rfl := of.resolve_right (not_not.mpr own)
      obtain ⟨report, after, next, ran, reached, kept, moved⟩ := onExecution_own inPhase
      simp only [fillStep, answerReports, ran, answer, moveOf, if_true]
      exact ⟨next, reached, kept, moved⟩
    · obtain ⟨report, after, ran, reached, kept, none⟩ := onExecution_other inPhase own
      simp only [fillStep, answerReports, ran, answer, moveOf, own, if_false, none]
      exact ⟨phase, reached, kept, .elsewhere phase⟩
  | commission other =>
    by_cases own : other.executionId = payload.executionId
    · obtain rfl := of.resolve_right (not_not.mpr own)
      obtain ⟨result, after, next, ran, reached, kept, moved⟩ := onCommission_own inPhase same
      simp only [fillStep, ran, answer, moveOf, own, if_true]
      cases result with
      | inl report => exact ⟨next, reached, kept, moved⟩
      | inr report => exact ⟨next, reached, kept, moved⟩
    · obtain ⟨result, after, ran, reached, kept, none, standalone⟩ :=
        onCommission_other inPhase own
      simp only [fillStep, ran, answer, moveOf, own, if_false]
      refine ⟨phase, reached, kept, ?_⟩
      cases result with
      | inl report =>
        have silent : fillCommissions payload.executionId [report] = [] := none
        simp only [silent]
        exact .elsewhere phase
      | inr report =>
        obtain rfl := Sum.inr.inj (standalone rfl)
        have silent : standaloneCommissions payload.executionId (some report) = [] := by
          simp [standaloneCommissions, own]
        simp only [silent]
        exact .elsewhere phase
  | flush reason => exact fillStep_flush inPhase reason
  | orderMap map => exact of.elim
  | resolveQuarantined => exact of.elim

def runFillCommissions (executionId : String) (answers : List IbkrFillAnswer) : List Decimal :=
  answers.flatMap fun answer => fillCommissions executionId answer.reports

def runStandaloneCommissions (executionId : String) (answers : List IbkrFillAnswer) :
    List Decimal :=
  answers.flatMap fun answer => standaloneCommissions executionId answer.commission

theorem run_path (same : commission.executionId = payload.executionId)
    (inPhase : InPhase payload commission calls phase) {events : List IbkrFillEvent}
    (of : ∀ event ∈ events, OfExecution payload commission event) :
    Path (Accepts calls payload) commission.commission phase
      (events.map (moveOf payload.executionId))
      (runFillCommissions payload.executionId (responses fillStep calls events))
      (runStandaloneCommissions payload.executionId
        (responses fillStep calls events)) := by
  induction events generalizing calls phase with
  | nil => exact .nil phase
  | cons event events ih =>
    obtain ⟨next, reached, kept, moved⟩ :=
      fillStep_phase same inPhase (of event mem_cons_self)
    have rest := ih reached fun other mem => of other (mem_cons_of_mem _ mem)
    rw [propext kept.accepts] at rest
    exact .cons moved rest

theorem newFillNormalizer_unseen (accountId : String) (orderMap : Option BrokerOrderMap)
    (callbackEvents : List IbkrOrderCallbackEvent) (callbackQuarantine : BrokerCallbackQuarantine)
    (payload : IbkrExecutionPayload) (commission : IbkrCommissionPayload) :
    InPhase payload commission
      (newFillNormalizer accountId orderMap callbackEvents callbackQuarantine) .unseen where
  named _ _ found := by cases found
  staged _ _ found := by cases found
  present := nofun
  known _ := rfl
  completed key mem := absurd mem (Finset.notMem_empty key)
  done := nofun

/-- The callbacks of an execution announce its commission as the phases of its fill allow: it is
filled at most once, and each of its commission callbacks announces its commission once; a fill
booked when the execution arrives announces a commission that came before it once more. -/
theorem commission_announced (accountId : String) (orderMap : Option BrokerOrderMap)
    (callbackEvents : List IbkrOrderCallbackEvent) (callbackQuarantine : BrokerCallbackQuarantine)
    (payload : IbkrExecutionPayload) (commission : IbkrCommissionPayload)
    (same : commission.executionId = payload.executionId) (events : List IbkrFillEvent)
    (of : ∀ event ∈ events, OfExecution payload commission event) :
    let start := newFillNormalizer accountId orderMap callbackEvents callbackQuarantine
    let answers := responses fillStep start events
    let moves := events.map (moveOf payload.executionId)
    Path (Accepts start payload) commission.commission .unseen moves
        (runFillCommissions payload.executionId answers)
        (runStandaloneCommissions payload.executionId answers) ∧
      (runFillCommissions payload.executionId answers).length ≤ 1 ∧
      (runFillCommissions payload.executionId answers).sum +
          (runStandaloneCommissions payload.executionId answers).sum =
        commission.commission * (moves.count .commission +
          if Accepts start payload ∧ CommissionFirst moves then 1 else 0) := by
  intro start answers moves
  have path := run_path same (newFillNormalizer_unseen accountId orderMap callbackEvents
    callbackQuarantine payload commission) of
  exact ⟨path, path.fills_length, path.total⟩

def sampleCommission : IbkrCommissionPayload where
  executionId := "exec-1"
  commission := 1
  currency := "USD"
  valid := IbkrCommissionFields.unit_valid

theorem commission_announced_sample :
    let answers := responses fillStep (newFillNormalizer "DU1" none [] {})
      [.execution sampleExecution, .commission sampleCommission]
    (runFillCommissions "exec-1" answers).length ≤ 1 ∧
      (runFillCommissions "exec-1" answers).sum +
          (runStandaloneCommissions "exec-1" answers).sum =
        1 * ((1 : ℕ) + if Accepts (newFillNormalizer "DU1" none [] {}) sampleExecution ∧
          CommissionFirst [.execution, .commission] then 1 else 0) :=
  (commission_announced "DU1" none [] {} sampleExecution sampleCommission rfl _ (by
    intro event mem
    simp only [mem_cons, not_mem_nil, or_false] at mem
    rcases mem with rfl | rfl
    · exact .inl rfl
    · exact .inl rfl)).2

/-- A commission that comes first is announced on its own and again inside the fill. -/
theorem earlyCommission_announced_twice :
    let answers := responses fillStep (newFillNormalizer "DU1" none [] {})
      [.commission sampleCommission, .execution sampleExecution]
    (runFillCommissions "exec-1" answers).sum + (runStandaloneCommissions "exec-1" answers).sum ≠
      sampleCommission.commission := by
  decide +kernel

end IbkrCallbacks

end Qts
