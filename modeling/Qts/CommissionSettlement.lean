import Qts.BrokerRuntimeReconciliation
import Qts.CommissionAnnouncements
import Qts.ReportAccounting

/-! # The commission of an execution on its way to the cash -/

namespace Qts

open PythonText Dict HoldingBook IbkrCallbacks AccountActor IbkrFeed IbkrCallbackNormalizer CashBook
    List
open EStateM (run_bind run_get)

/-- What the session of an account hears of one execution. -/
inductive ExecutionNews
  | execution (now : DateTime)
  | commission (now : DateTime)
  | flush (reason : String)

namespace ExecutionNews

def fillEvent (payload : IbkrExecutionPayload) (commission : IbkrCommissionPayload) :
    ExecutionNews → IbkrFillEvent
  | .execution _ => .execution payload
  | .commission _ => .commission commission
  | .flush reason => .flush reason

def sessionEvent (payload : IbkrExecutionPayload) (commission : IbkrCommissionPayload) :
    ExecutionNews → IbkrSessionEvent
  | .execution now => .callback (.execution payload) now
  | .commission now => .callback (.commission commission) now
  | .flush reason => .flush reason

def IsExecution : ExecutionNews → Prop
  | .execution _ => True
  | _ => False

def IsCommission : ExecutionNews → Prop
  | .commission _ => True
  | _ => False

def hear (amount : Decimal) : ExecutionPhase → ExecutionNews → Option Decimal × ExecutionPhase
  | .unseen, .execution _ => (none, .staged)
  | .unseen, .commission _ => (none, .commissioned)
  | .commissioned, .execution _ => (some amount, .completed)
  | .staged, .commission _ => (some amount, .completed)
  | .staged, .flush reason => (if isBlank reason then none else some 0, .completed)
  | phase, _ => (none, phase)

def bookedCommissions (amount : Decimal) : ExecutionPhase → List ExecutionNews → List Decimal
  | _, [] => []
  | phase, news :: later =>
    (hear amount phase news).1.toList ++ bookedCommissions amount (hear amount phase news).2 later

def flushedFor : Bool → List ExecutionNews → Option String
  | _, [] => none
  | _, .commission _ :: _ => none
  | _, .execution _ :: later => flushedFor true later
  | true, .flush reason :: _ => some reason
  | false, .flush _ :: later => flushedFor false later

/-- A flush of the staged execution takes its commission away, unless there is none to take. -/
def KeepsCommission (amount : Decimal) (news : List ExecutionNews) : Prop :=
  ∀ reason ∈ flushedFor false news, isBlank reason = false ∧ amount = 0

variable {amount : Decimal} {news later : List ExecutionNews}

theorem bookedCommissions_completed (amount : Decimal) (news : List ExecutionNews) :
    bookedCommissions amount .completed news = [] := by
  induction news with
  | nil => rfl
  | cons first later ih => cases first <;> exact ih

theorem bookedCommissions_commissioned (executed : ∃ first ∈ news, IsExecution first) :
    bookedCommissions amount .commissioned news = [amount] := by
  induction news with
  | nil => simp at executed
  | cons first later ih =>
    cases first with
    | execution now =>
      change amount :: bookedCommissions amount .completed later = _
      rw [bookedCommissions_completed]
    | commission now =>
      obtain ⟨other, mem, isExecution⟩ := executed
      rcases mem_cons.mp mem with rfl | mem
      · exact isExecution.elim
      · exact ih ⟨other, mem, isExecution⟩
    | flush reason =>
      obtain ⟨other, mem, isExecution⟩ := executed
      rcases mem_cons.mp mem with rfl | mem
      · exact isExecution.elim
      · exact ih ⟨other, mem, isExecution⟩

theorem bookedCommissions_staged (commissioned : ∃ first ∈ news, IsCommission first) :
    bookedCommissions amount .staged news = [amount] ↔
      ∀ reason ∈ flushedFor true news, isBlank reason = false ∧ amount = 0 := by
  induction news with
  | nil => simp at commissioned
  | cons first later ih =>
    cases first with
    | execution now =>
      obtain ⟨other, mem, isCommission⟩ := commissioned
      rcases mem_cons.mp mem with rfl | mem
      · exact isCommission.elim
      · exact ih ⟨other, mem, isCommission⟩
    | commission now =>
      refine iff_of_true ?_ (by simp [flushedFor])
      change amount :: bookedCommissions amount .completed later = _
      rw [bookedCommissions_completed]
    | flush reason =>
      change (if isBlank reason then none else some 0).toList ++
        bookedCommissions amount .completed later = _ ↔ _
      rw [bookedCommissions_completed, append_nil]
      cases blank : isBlank reason with
      | true => simp [flushedFor, blank]
      | false =>
        simp only [flushedFor, blank, Bool.false_eq_true, if_false, Option.toList_some,
          List.cons.injEq, and_true, Option.mem_some_iff, forall_eq', true_and]
        exact eq_comm

theorem bookedCommissions_iff (executed : ∃ first ∈ news, IsExecution first)
    (commissioned : ∃ first ∈ news, IsCommission first) :
    bookedCommissions amount .unseen news = [amount] ↔ KeepsCommission amount news := by
  unfold KeepsCommission
  induction news with
  | nil => simp at executed
  | cons first later ih =>
    cases first with
    | execution now =>
      obtain ⟨other, mem, isCommission⟩ := commissioned
      rcases mem_cons.mp mem with rfl | mem
      · exact isCommission.elim
      · exact bookedCommissions_staged ⟨other, mem, isCommission⟩
    | commission now =>
      obtain ⟨other, mem, isExecution⟩ := executed
      rcases mem_cons.mp mem with rfl | mem
      · exact isExecution.elim
      · exact iff_of_true (bookedCommissions_commissioned ⟨other, mem, isExecution⟩)
          (by simp [flushedFor])
    | flush reason =>
      refine ih ?_ ?_
      · obtain ⟨other, mem, isExecution⟩ := executed
        rcases mem_cons.mp mem with rfl | mem
        · exact isExecution.elim
        · exact ⟨other, mem, isExecution⟩
      · obtain ⟨other, mem, isCommission⟩ := commissioned
        rcases mem_cons.mp mem with rfl | mem
        · exact isCommission.elim
        · exact ⟨other, mem, isCommission⟩

end ExecutionNews

namespace IbkrCallbacks

open RaisingCalls ExecutionPhase ExecutionNews

variable {payload : IbkrExecutionPayload} {commission : IbkrCommissionPayload}
  {calls : IbkrCallbacks} {phase : ExecutionPhase}

structure Follows (payload : IbkrExecutionPayload) (commission : IbkrCommissionPayload)
    (calls : IbkrCallbacks) (phase : ExecutionPhase) : Prop where
  inPhase : InPhase payload commission calls phase
  staging : Staging calls [payload]
  accepts : Accepts calls payload

/-- At most one report, for the execution, with the commission given. -/
def Books (payload : IbkrExecutionPayload) (reports : List ExecutionReport)
    (amount : Option Decimal) : Prop :=
  reports.map (·.commission) = amount.toList ∧
    ∀ report ∈ reports, BooksExecution payload report

theorem fillCommissions_all {reports : List ExecutionReport}
    (all : ∀ report ∈ reports, BooksExecution payload report) :
    fillCommissions payload.executionId reports = reports.map (·.commission) := by
  rw [fillCommissions, filter_eq_self.mpr]
  intro report mem
  exact decide_eq_true (all report mem).2.2.2.2.2

theorem Booking.books_payload {after : IbkrCallbacks} {taken : List IbkrExecutionPayload}
    {reports : List ExecutionReport} (booking : Booking calls after [payload] taken reports) :
    ∀ report ∈ reports, BooksExecution payload report := by
  have known : ∀ execution ∈ taken, execution = payload := fun execution mem =>
    mem_singleton.mp (booking.staged execution mem).known
  have books := booking.books
  clear booking
  induction books with
  | nil => simp
  | cons first _ ih =>
    intro report mem
    rcases mem_cons.mp mem with rfl | mem
    · exact known _ mem_cons_self ▸ first
    · exact ih (fun execution among => known execution (mem_cons_of_mem _ among)) report mem

theorem Follows.values (follows : Follows payload commission calls .staged) :
    calls.pendingExecutions.items = [(executionKey calls.accountId payload, payload)] := by
  have present := (calls.pendingExecutions.get?_eq_some_iff).mp (follows.inPhase.present rfl)
  have only : ∀ item ∈ calls.pendingExecutions.items,
      item = (executionKey calls.accountId payload, payload) := by
    rintro ⟨key, execution⟩ mem
    have staged := follows.staging key execution
      ((calls.pendingExecutions.get?_eq_some_iff).mpr mem)
    obtain rfl := mem_singleton.mp staged.known
    rw [staged.own]
  have distinct := calls.pendingExecutions.distinct
  cases items : calls.pendingExecutions.items with
  | nil => simp [items] at present
  | cons item rest =>
    rw [items] at only distinct
    obtain rfl := only item mem_cons_self
    cases rest with
    | nil => rfl
    | cons other rest =>
      obtain rfl := only other (mem_cons_of_mem _ mem_cons_self)
      simp at distinct

theorem Follows.none_staged (follows : Follows payload commission calls phase)
    (ne : phase ≠ .staged) : calls.pendingExecutions.items = [] := by
  refine eq_nil_iff_forall_not_mem.mpr ?_
  rintro ⟨key, execution⟩ mem
  have found := (calls.pendingExecutions.get?_eq_some_iff).mpr mem
  have staged := follows.staging key execution found
  obtain rfl := mem_singleton.mp staged.known
  exact ne (follows.inPhase.staged key execution found (congrArg (·.2.2) staged.key_eq)).1

theorem hear_of_moves {accepted : Prop} {amount : Decimal} {next : ExecutionPhase}
    {fills standalone : List Decimal} (accepts : accepted) :
    (∀ now, Moves accepted amount phase .execution fills standalone next →
      fills = (hear amount phase (.execution now)).1.toList ∧
        next = (hear amount phase (.execution now)).2) ∧
    ∀ now, Moves accepted amount phase .commission fills standalone next →
      fills = (hear amount phase (.commission now)).1.toList ∧
        next = (hear amount phase (.commission now)).2 := by
  refine ⟨fun now moves => ?_, fun now moves => ?_⟩
  · cases moves with
    | refused phase refused => exact absurd accepts refused
    | stage accepts => exact ⟨rfl, rfl⟩
    | restage => exact ⟨rfl, rfl⟩
    | fillNow accepts => exact ⟨rfl, rfl⟩
    | dropped => exact ⟨rfl, rfl⟩
  · cases moves with
    | early => exact ⟨rfl, rfl⟩
    | again => exact ⟨rfl, rfl⟩
    | fill => exact ⟨rfl, rfl⟩
    | late => exact ⟨rfl, rfl⟩

section

variable (same : commission.executionId = payload.executionId)
  (follows : Follows payload commission calls phase) (now : DateTime)

include same follows now

theorem fillStep_execution_hears :
    Books payload (fillStep calls (.execution payload)).1.reports
        (hear commission.commission phase (.execution now)).1 ∧
      Follows payload commission (fillStep calls (.execution payload)).2
        (hear commission.commission phase (.execution now)).2 := by
  obtain ⟨next, inPhase, kept, moves⟩ :=
    fillStep_phase same follows.inPhase
        (show OfExecution payload commission (.execution payload) from .inl rfl)
  have produced : produce calls (.execution payload) =
      ((fillStep calls (.execution payload)).1.reports,
        (fillStep calls (.execution payload)).2) := by
    simp only [fillStep, answerReports, produce]
    cases (onExecution payload).run calls <;> rfl
  have booking := produce_execution follows.staging (mem_singleton_self payload)
  rw [produced] at booking
  rw [moveOf, if_pos rfl, fillCommissions_all booking.books_payload] at moves
  obtain ⟨fills, rfl⟩ := (hear_of_moves follows.accepts).1 now moves
  exact ⟨⟨fills, booking.books_payload⟩,
    ⟨inPhase, booking.staging, kept.accepts.mpr follows.accepts⟩⟩

theorem fillStep_commission_hears :
    Books payload (fillStep calls (.commission commission)).1.reports
        (hear commission.commission phase (.commission now)).1 ∧
      Follows payload commission (fillStep calls (.commission commission)).2
        (hear commission.commission phase (.commission now)).2 := by
  obtain ⟨next, inPhase, kept, moves⟩ :=
    fillStep_phase same follows.inPhase
        (show OfExecution payload commission (.commission commission) from .inl rfl)
  have produced : produce calls (.commission commission) =
      ((fillStep calls (.commission commission)).1.reports,
        (fillStep calls (.commission commission)).2) := by
    simp only [fillStep, produce]
    cases (onCommission commission).run calls with
    | ok result after => cases result <;> rfl
    | error failure after => rfl
  have booking := produce_commission follows.staging commission
  rw [produced] at booking
  rw [moveOf, if_pos same, fillCommissions_all booking.books_payload] at moves
  obtain ⟨fills, rfl⟩ := (hear_of_moves follows.accepts).2 now moves
  exact ⟨⟨fills, booking.books_payload⟩,
    ⟨inPhase, booking.staging, kept.accepts.mpr follows.accepts⟩⟩

end

theorem hear_flush_unstaged {amount : Decimal} (ne : phase ≠ .staged) (reason : String) :
    hear amount phase (.flush reason) = (none, phase) := by
  cases phase with
  | staged => exact absurd rfl ne
  | _ => rfl

theorem fillStep_flush_empty (empty : calls.pendingExecutions.items = []) (reason : String) :
    fillStep calls (.flush reason) = ({ reports := [] }, calls) := by
  simp only [fillStep, answerReports, flushPendingExecutions, run_bind, run_get,
    empty, flushExecutions]
  rfl

section

variable (same : commission.executionId = payload.executionId)
  (follows : Follows payload commission calls phase)

include same follows

theorem fillStep_flush_hears (reason : String) :
    Books payload (fillStep calls (.flush reason)).1.reports
        (hear commission.commission phase (.flush reason)).1 ∧
      Follows payload commission (fillStep calls (.flush reason)).2
        (hear commission.commission phase (.flush reason)).2 := by
  by_cases staged : phase = .staged
  · subst staged
    have items := follows.values
    cases stated : isBlank reason with
    | true =>
      have flushed : fillStep calls (.flush reason) =
          ({ failure := some (.valueError "reason must not be empty when provided") },
            calls.completed (executionKey calls.accountId payload)) := by
        simp only [fillStep, answerReports, flushPendingExecutions, run_bind,
          run_get, items, flushExecutions_blank stated]
        rfl
      rw [flushed, hear, stated]
      refine ⟨⟨rfl, by simp⟩, follows.inPhase.completeOwn, ?_, follows.accepts⟩
      intro key execution found
      simp only [completed, get?_erase] at found
      split at found
      · cases found
      · next ne =>
        have staged := follows.staging key execution found
        obtain rfl := mem_singleton.mp staged.known
        exact absurd staged.own.symm ne
    | false =>
      obtain ⟨next, inPhase, kept, moves⟩ :=
        fillStep_phase same follows.inPhase
            (show OfExecution payload commission (.flush reason) from trivial)
      have produced : produce calls (.flush reason stated) =
          ((fillStep calls (.flush reason)).1.reports,
            (fillStep calls (.flush reason)).2) := by
        simp only [fillStep, answerReports, produce]
        cases (flushPendingExecutions reason).run calls <;> rfl
      have booking := produce_flush follows.staging reason stated
      rw [produced] at booking
      have one : (fillStep calls (.flush reason)).1.reports.length = 1 := by
        rw [← booking.books.length_eq, booked, values, items]
        rfl
      rw [fillCommissions_all booking.books_payload] at moves
      rw [hear, stated]
      have kept : Follows payload commission (fillStep calls (.flush reason)).2 next :=
        ⟨inPhase, booking.staging, kept.accepts.mpr follows.accepts⟩
      generalize fills : (fillStep calls (.flush reason)).1.reports.map (·.commission) =
        amounts at moves
      generalize standaloneCommissions payload.executionId
        (fillStep calls (.flush reason)).1.commission = standalone at moves
      have single : amounts.length = 1 := by rw [← fills, length_map, one]
      cases moves with
      | flushed => exact ⟨⟨fills, booking.books_payload⟩, kept⟩
      | lost => cases single
      | unflushed => cases single
  · rw [fillStep_flush_empty (follows.none_staged staged), hear_flush_unstaged staged]
    exact ⟨⟨rfl, by simp⟩, follows⟩

theorem fillStep_hears (news : ExecutionNews) :
    Books payload (fillStep calls (news.fillEvent payload commission)).1.reports
        (hear commission.commission phase news).1 ∧
      Follows payload commission (fillStep calls (news.fillEvent payload commission)).2
        (hear commission.commission phase news).2 := by
  cases news with
  | execution now => exact fillStep_execution_hears same follows now
  | commission now => exact fillStep_commission_hears same follows now
  | flush reason => exact fillStep_flush_hears same follows reason

end

end IbkrCallbacks

namespace IbkrOrderSession

open RaisingCalls

variable {payload : IbkrExecutionPayload} {commission : IbkrCommissionPayload} {Value : Type}

theorem onCallbacks_ok {call : CallbackCall Value} {normalizer : IbkrCallbackNormalizer}
    {value : Value} {after : IbkrCallbacks} (ran : call.run normalizer.calls = .ok value after)
    :
    (onCallbacks call).run normalizer =
      .ok value { normalizer with calls := after } := by
  unfold onCallbacks
  simp only [EStateM.run] at ran ⊢
  rw [ran]

theorem onCallbacks_error {call : CallbackCall Value} {normalizer : IbkrCallbackNormalizer}
    {failure : CallbackError} {after : IbkrCallbacks}
    (ran : call.run normalizer.calls = .error failure after) :
    (onCallbacks call).run normalizer =
      .error failure { normalizer with calls := after } := by
  unfold onCallbacks
  simp only [EStateM.run] at ran ⊢
  rw [ran]

theorem onNormalizer_ok {call : NormalizerCall Value} {session : IbkrOrderSession} {value : Value}
    {after : IbkrCallbackNormalizer} (ran : call.run session.normalizer = .ok value after) :
    (onNormalizer call).run session = .ok value { session with normalizer := after } := by
  unfold onNormalizer
  simp only [EStateM.run] at ran ⊢
  rw [ran]

theorem onNormalizer_error {call : NormalizerCall Value} {session : IbkrOrderSession}
    {failure : CallbackError} {after : IbkrCallbackNormalizer}
    (ran : call.run session.normalizer = .error failure after) :
    (onNormalizer call).run session =
      .error failure.raisedAs { session with normalizer := after } := by
  unfold onNormalizer
  simp only [EStateM.run] at ran ⊢
  rw [ran]

theorem step_news (caps : UpperCase) (session : IbkrOrderSession) (news : ExecutionNews) :
    (step caps session (news.sessionEvent payload commission)).1 =
        (session.normalizer.calls.fillStep (news.fillEvent payload commission)).1.reports ∧
      (step caps session (news.sessionEvent payload commission)).2.normalizer.calls =
        (session.normalizer.calls.fillStep (news.fillEvent payload commission)).2 := by
  cases news with
  | execution now =>
    simp only [step, arrive, ExecutionNews.sessionEvent, ExecutionNews.fillEvent,
      fillStep, answerReports, dispatch,
      run_bind]
    cases ran : (onExecution payload).run session.normalizer.calls with
    | ok report after =>
      rw [onCallbacks_ok ran]
      exact ⟨append_nil _, rfl⟩
    | error failure after =>
      rw [onCallbacks_error ran]
      exact ⟨rfl, rfl⟩
  | commission now =>
    simp only [step, arrive, ExecutionNews.sessionEvent, ExecutionNews.fillEvent,
      fillStep, dispatch, run_bind]
    cases ran : (onCommission commission).run session.normalizer.calls with
    | ok result after =>
      rw [onCallbacks_ok ran]
      cases result <;> exact ⟨rfl, rfl⟩
    | error failure after =>
      rw [onCallbacks_error ran]
      exact ⟨rfl, rfl⟩
  | flush reason =>
    simp only [step, ExecutionNews.sessionEvent, ExecutionNews.fillEvent, fillStep, answerReports]
    cases ran : (flushPendingExecutions reason).run
        session.normalizer.calls with
    | ok reports after =>
      rw [onNormalizer_ok (onCallbacks_ok ran)]
      exact ⟨rfl, rfl⟩
    | error failure after =>
      rw [onNormalizer_error (onCallbacks_error ran)]
      exact ⟨rfl, rfl⟩

end IbkrOrderSession

namespace AccountPartition

open RaisingCalls

variable {caps : UpperCase} {partition : AccountPartition}
  {payload : IbkrExecutionPayload} {order : Order}

/-- An order of the account that can take the fill of an execution, which nobody knows yet. -/
structure AwaitsExecution (partition : AccountPartition) (payload : IbkrExecutionPayload)
    (order : Order) : Prop where
  formed : partition.orderManager.manager.WellFormed
  mapped : partition.orderManager.manager.brokerToOrder.get? payload.brokerOrderId =
    some order.orderId
  tracked : partition.orderManager.manager.orders.get? order.orderId = some order
  fillable : (nextState order.state .filled).isSome
  newReport : payload.reportId ∉ partition.orderManager.manager.seenReportIds
  newFill : payload.executionId ∉ partition.orderManager.manager.fillIds.seen
  own : OrderManagerActor.foreignTo partition.orderManager.accountId order.intent.accountId = false
  multiplier : 0 <
    (partition.orderManager.multiplierByInstrument.get? order.intent.instrumentId).getD 1
  currency : isBlank partition.orderManager.currency = false
  taken : partition.applied = partition.orderManager.accountRef.length
  accountOwn : partition.account.accountId.any
    (fun accountId => decide (order.intent.accountId ≠ some accountId)) = false
  untaken : payload.executionId ∉ partition.account.fillIds.seen
  keyed : partition.account.holdings.WellKeyed

def Paid (caps : UpperCase) (before : AccountPartition)
    (payload : IbkrExecutionPayload) (commission : Decimal) (after : AccountPartition) : Prop :=
  ∃ message : ApplyFill,
    after.orderManager.accountRef = before.orderManager.accountRef ++ [message] ∧
    message.fill.fillId = payload.executionId ∧ message.fill.commission = commission ∧
    ∀ balance, before.account.cash.balance caps message.currency = .ok balance →
      after.account.cash.balance caps message.currency =
        .ok (balance - message.fill.signedQuantity * message.fill.price * message.multiplier -
          commission)

theorem payload_visible (payload : IbkrExecutionPayload) : isBlank payload.executionId = false :=
  (Check.firstFailure_none _).mp payload.valid
    ⟨isBlank payload.executionId, "execution_id must not be empty"⟩
    (by simp [IbkrExecutionFields.checks])

theorem payload_price (payload : IbkrExecutionPayload) : 0 ≤ payload.fillPrice := by
  have passes := (Check.firstFailure_none _).mp payload.valid
    ⟨decide (payload.fillPrice < 0), "fill_price must be non-negative"⟩
    (by simp [IbkrExecutionFields.checks])
  simpa using passes

variable {report : ExecutionReport}

theorem AwaitsExecution.processReport (awaits : AwaitsExecution partition payload order)
    (books : BooksExecution payload report) :
    ∃ result manager, (OrderManager.processReport report).run partition.orderManager.manager =
        .ok result manager ∧
      result.fills = [OrderManager.orderFill order report payload.executionId
          payload.fillPrice] := by
  obtain ⟨reportId, brokerOrderId, status, quantity, price, fillId⟩ := books
  have filled : OrderManager.eventForReport report.status = .filled := by
    rw [status]
    rfl
  have pos : 0 < report.filledQuantity := quantity ▸ payload_positive payload
  have carries := OrderManager.carriesFill_of fillId pos
  have mapped := awaits.mapped
  rw [← brokerOrderId] at mapped
  have outcome := OrderManager.processReport_outcome awaits.formed report
  generalize (OrderManager.processReport report).run partition.orderManager.manager = result
    at outcome ⊢
  cases outcome with
  | unknownBrokerOrder unmapped => rw [mapped] at unmapped; cases unmapped
  | untracked orderId named missing =>
    obtain rfl := Option.mem_unique mapped named
    rw [awaits.tracked] at missing
    cases missing
  | duplicate orderId found named tracked seen => exact absurd (reportId ▸ seen) awaits.newReport
  | refused orderId found named tracked unseen refusal =>
    obtain rfl := Option.mem_unique mapped named
    obtain rfl := Option.mem_unique awaits.tracked tracked
    rw [filled] at refusal
    have fillable := awaits.fillable
    rw [refusal] at fillable
    cases fillable
  | raisedFill orderId found state named tracked unseen next failure fill =>
    generalize partition.orderManager.manager.afterReport orderId
      (OrderManager.advancedOrder found state none) report = recorded at fill
    cases fill with
    | missingPrice carries missing => rw [price] at missing; cases missing
    | blankId id amount named priced pos blank =>
      obtain rfl := Option.mem_unique fillId named
      rw [payload_visible] at blank
      cases blank
  | processed orderId found state named tracked unseen next fills after fill =>
    obtain rfl := Option.mem_unique mapped named
    obtain rfl := Option.mem_unique awaits.tracked tracked
    have newFill : payload.executionId ∉ (partition.orderManager.manager.afterReport order.orderId
        (OrderManager.advancedOrder order state none) report).fillIds.seen := awaits.newFill
    generalize partition.orderManager.manager.afterReport order.orderId
      (OrderManager.advancedOrder order state none) report = recorded at fill newFill
    cases fill with
    | noFill nothing => rw [carries] at nothing; cases nothing
    | knownFill id amount named priced pos nonblank known =>
      obtain rfl := Option.mem_unique fillId named
      exact absurd known newFill
    | booked id amount named priced pos nonblank fresh =>
      obtain rfl := Option.mem_unique fillId named
      obtain rfl := Option.mem_unique price priced
      exact ⟨_, _, rfl, rfl⟩

theorem AwaitsExecution.handleOrder (awaits : AwaitsExecution partition payload order)
    (books : BooksExecution payload report) :
    ∃ manager fills,
      (handleOrder (.report report)).run partition = .ok () { partition with
        orderManager := { partition.orderManager with
          manager, fills
          accountRef := partition.orderManager.accountRef ++
            [OrderManagerActor.applyFillMessage partition.orderManager report
              (OrderManager.orderFill order report payload.executionId payload.fillPrice)] } } := by
  obtain ⟨result, manager, ran, fills⟩ := awaits.processReport books
  have reported : (OrderManagerActor.reportFills report).run partition.orderManager =
      .ok result.fills { partition.orderManager with manager } := by
    change OrderManagerActor.handleResult report partition.orderManager
      ((OrderManager.processReport report).run partition.orderManager.manager) = _
    rw [ran, OrderManagerActor.handleResult, if_neg]
    rw [fills]
    simp only [any_cons, any_nil, Bool.or_false]
    exact Bool.not_eq_true _ ▸ awaits.own
  have handled : (OrderManagerActor.handle (.report report)).run partition.orderManager =
      .ok () { partition.orderManager with
        manager
        fills := partition.orderManager.fills ++ result.fills
        accountRef := partition.orderManager.accountRef ++ result.fills.map
          (OrderManagerActor.applyFillMessage partition.orderManager report) } := by
    change (OrderManagerActor.reportFills report >>= _).run partition.orderManager = _
    rw [bind_run_ok reported]
    rfl
  rw [fills] at handled
  refine ⟨manager, partition.orderManager.fills ++
    [OrderManager.orderFill order report payload.executionId payload.fillPrice], ?_⟩
  unfold AccountPartition.handleOrder
  simp only [EStateM.run] at handled ⊢
  rw [handled]
  rfl

theorem applyFill_paid {account : AccountActor} {message : ApplyFill}
    (own : account.foreign message = false) (visible : isBlank message.fill.fillId = false)
    (unseen : message.fill.fillId ∉ account.fillIds.seen) (keyed : account.holdings.WellKeyed)
    (valid : Valid (holdingFill message)) (currency : isBlank message.currency = false) :
    ∃ after, account.applyFill caps message = (.ok (), after) ∧
      ∀ balance, account.cash.balance caps message.currency = .ok balance →
        after.cash.balance caps message.currency =
          .ok (balance + cashDelta message) := by
  have normalized : normalizeCurrency caps message.currency = _ :=
    normalizeCurrency_visible currency
  rw [applyFill_new own visible unseen]
  unfold book
  rw [applyFill_valid (keyed.holding _) valid]
  unfold settle
  dsimp only
  rw [applyDelta_normalized normalized]
  refine ⟨_, rfl, fun balance held => ?_⟩
  rw [balance_normalized normalized] at held ⊢
  cases held
  rw [get?_set_self]
  rfl

theorem handleFill_ok {message : ApplyFill} {account : AccountActor}
    (applied : partition.account.applyFill caps message = (.ok (), account)) :
    (handleFill caps message).run partition =
      .ok () { partition with account, applied := partition.applied + 1 } := by
  unfold handleFill
  simp only [EStateM.run, applied]

theorem AwaitsExecution.paid (awaits : AwaitsExecution partition payload order)
    (books : BooksExecution payload report) :
    Paid caps partition payload report.commission
      (BrokerRuntime.handleMessage caps partition (.report report)) := by
  obtain ⟨manager, fills, handled⟩ := awaits.handleOrder books
  generalize message_eq : OrderManagerActor.applyFillMessage partition.orderManager report
    (OrderManager.orderFill order report payload.executionId payload.fillPrice) = message
    at handled
  have pos : 0 < report.filledQuantity :=
    books.2.2.2.1 ▸ payload_positive payload
  have valid : Valid (holdingFill message) := by
    subst message_eq
    refine ⟨?_, payload_price payload, awaits.multiplier⟩
    change OrderFill.signedQuantity _ ≠ 0
    unfold OrderFill.signedQuantity
    split
    · exact pos.ne'
    · exact neg_ne_zero.mpr pos.ne'
  obtain ⟨account, applied, paid⟩ := @applyFill_paid caps partition.account message
    (message_eq ▸ awaits.accountOwn) (message_eq ▸ payload_visible payload)
    (message_eq ▸ awaits.untaken) awaits.keyed valid (message_eq ▸ awaits.currency)
  have settled : BrokerRuntime.handleMessage caps partition (.report report) = { partition with
      orderManager := { partition.orderManager with
        manager, fills
        accountRef := partition.orderManager.accountRef ++ [message] }
      account
      applied := partition.applied + 1 } := by
    rw [BrokerRuntime.handleMessage, handled]
    simp only [endState_ok, accountProcessAll, run_bind, run_get, awaits.taken,
      drop_left, processFills]
    rw [handleFill_ok]
    · rfl
    · exact applied
  rw [settled]
  refine ⟨message, rfl, ?_, ?_, fun balance held => ?_⟩
  · subst message_eq
    rfl
  · subst message_eq
    rfl
  · rw [paid balance held, cashDelta]
    subst message_eq
    refine congrArg Except.ok ?_
    change balance + (-_ * _ * _ - report.commission) = _
    ring

end AccountPartition

namespace BrokerRuntime

open IbkrCallbacks ExecutionNews AccountPartition

variable {caps : UpperCase} {runtime : BrokerRuntime}
  {payload : IbkrExecutionPayload} {commission : IbkrCommissionPayload} {phase : ExecutionPhase}
  {order : Order}

def afterNews (caps : UpperCase) (runtime : BrokerRuntime)
    (payload : IbkrExecutionPayload) (commission : IbkrCommissionPayload)
    (news : List ExecutionNews) : BrokerRuntime :=
  StepRuns.final (step caps) runtime
    (news.map fun news => .session (news.sessionEvent payload commission))

section

variable (same : commission.executionId = payload.executionId)
  (follows : Follows payload commission runtime.session.normalizer.calls phase)

include same follows

theorem step_news (news : ExecutionNews) :
    ∃ reports, Books payload reports (hear commission.commission phase news).1 ∧
      (step caps runtime (.session (news.sessionEvent payload commission))).2.partition =
        reports.foldl (fun partition report => handleMessage caps partition (.report report))
          runtime.partition ∧
      Follows payload commission (step caps runtime
        (.session (news.sessionEvent payload commission))).2.session.normalizer.calls
        (hear commission.commission phase news).2 := by
  obtain ⟨reports, calls⟩ := @IbkrOrderSession.step_news payload commission caps
    runtime.session news
  obtain ⟨books, next⟩ := fillStep_hears same follows news
  rw [← reports] at books
  rw [← calls] at next
  exact ⟨_, books, rfl, next⟩

theorem afterNews_unbooked {news : List ExecutionNews}
    (nothing : bookedCommissions commission.commission phase news = []) :
    (afterNews caps runtime payload commission news).partition = runtime.partition := by
  induction news generalizing runtime phase with
  | nil => rfl
  | cons first later ih =>
    obtain ⟨first_nothing, later_nothing⟩ := append_eq_nil_iff.mp nothing
    obtain ⟨reports, ⟨amounts, -⟩, partition, next⟩ := @step_news caps runtime _ _ _ same
      follows first
    rw [first_nothing, map_eq_nil_iff] at amounts
    subst amounts
    exact (ih next later_nothing).trans partition

end

theorem hear_completes {amount booked : Decimal} {news : ExecutionNews}
    (books : (hear amount phase news).1 = some booked) :
    (hear amount phase news).2 = .completed := by
  cases phase <;> cases news <;> simp_all [hear]

theorem afterNews_booked (same : commission.executionId = payload.executionId)
    (follows : Follows payload commission runtime.session.normalizer.calls phase)
    (awaits : AwaitsExecution runtime.partition payload order) {news : List ExecutionNews}
    {booked : Decimal} {rest : List Decimal}
    (books : bookedCommissions commission.commission phase news = booked :: rest) :
    rest = [] ∧ Paid caps runtime.partition payload booked
      (afterNews caps runtime payload commission news).partition := by
  induction news generalizing runtime phase with
  | nil => cases books
  | cons first later ih =>
    obtain ⟨reports, ⟨amounts, all⟩, partition, next⟩ := @step_news caps runtime _ _ _ same
      follows first
    change (hear commission.commission phase first).1.toList ++ _ = _ at books
    cases heard : (hear commission.commission phase first).1 with
    | none =>
      rw [heard] at amounts books
      obtain rfl := map_eq_nil_iff.mp amounts
      have unmoved : (step caps runtime
        (.session (first.sessionEvent payload commission))).2.partition = runtime.partition :=
        partition
      rw [← unmoved] at awaits ⊢
      exact ih next awaits books
    | some amount =>
      rw [heard, hear_completes heard, bookedCommissions_completed] at books
      obtain ⟨rfl, rfl⟩ := List.cons.inj books
      rw [heard] at amounts
      obtain ⟨report, rfl, commissioned⟩ := map_eq_singleton_iff.mp amounts
      rw [hear_completes heard] at next
      have last : (afterNews caps runtime payload commission (first :: later)).partition =
          handleMessage caps runtime.partition (.report report) :=
        (afterNews_unbooked same next (bookedCommissions_completed _ later)).trans partition
      refine ⟨rfl, ?_⟩
      rw [last, ← commissioned]
      exact awaits.paid (all report (mem_singleton_self report))

/-- The runtime awaits the execution: its session has heard nothing of it and has nothing staged,
and its account has an open order for it. -/
structure AwaitsNews (runtime : BrokerRuntime) (payload : IbkrExecutionPayload)
    (commission : IbkrCommissionPayload) : Prop where
  unseen : InPhase payload commission runtime.session.normalizer.calls .unseen
  unstaged : runtime.session.normalizer.calls.pendingExecutions.items = []
  accepts : Accepts runtime.session.normalizer.calls payload
  order : ∃ order, AwaitsExecution runtime.partition payload order

theorem AwaitsNews.follows (awaits : AwaitsNews runtime payload commission) :
    Follows payload commission runtime.session.normalizer.calls .unseen where
  inPhase := awaits.unseen
  staging key execution found := by
    have mem := (get?_eq_some_iff _).mp found
    rw [awaits.unstaged] at mem
    exact absurd mem not_mem_nil
  accepts := awaits.accepts

/-- Once an execution and its commission have come, the account has paid the commission exactly
once, exactly where no flush has booked the execution before its commission came. -/
theorem commission_paid_iff (caps : UpperCase) (runtime : BrokerRuntime)
    (payload : IbkrExecutionPayload) (commission : IbkrCommissionPayload)
    (same : commission.executionId = payload.executionId)
    (awaits : AwaitsNews runtime payload commission) (news : List ExecutionNews)
    (executed : ∃ first ∈ news, IsExecution first)
    (commissioned : ∃ first ∈ news, IsCommission first) :
    Paid caps runtime.partition payload commission.commission
        (afterNews caps runtime payload commission news).partition ↔
      KeepsCommission commission.commission news := by
  obtain ⟨order, open_⟩ := awaits.order
  rw [← bookedCommissions_iff executed commissioned]
  cases booked : bookedCommissions commission.commission .unseen news with
  | nil =>
    refine iff_of_false ?_ nofun
    rintro ⟨message, told, -⟩
    rw [afterNews_unbooked same awaits.follows booked] at told
    simp at told
  | cons amount rest =>
    obtain ⟨rfl, paid⟩ := @afterNews_booked caps _ _ _ _ _ same awaits.follows open_ _ _ _ booked
    constructor
    · rintro ⟨message, told, -, charged, -⟩
      obtain ⟨other, toldOther, -, chargedOther, -⟩ := paid
      obtain rfl : other = message := by
        simpa using toldOther.symm.trans told
      rw [← charged, ← chargedOther]
    · intro single
      obtain ⟨rfl, -⟩ := List.cons.inj single
      exact paid

open OrderManagerActor

def twoSent : BrokerRuntime where
  partition := {
    orderManager := (OrderManagerActor.step (idle (some unitAccount) .empty "USD" false)
      (.submit submitTwo)).2
    account := .init (.ofItems [("USD", 1000)]) (some unitAccount) }
  session := { normalizer := { calls := newFillNormalizer "DU1" none [] {} } }

def twoExecuted : IbkrExecutionPayload where
  reportId := "ibkr-exec-1"
  brokerOrderId := "broker-1"
  executionId := "exec-1"
  filledQuantity := 2
  fillPrice := 10
  valid := by decide +kernel

theorem twoSent_awaits : AwaitsNews twoSent twoExecuted sampleCommission where
  unseen := newFillNormalizer_unseen "DU1" none [] {} twoExecuted sampleCommission
  unstaged := rfl
  accepts := by decide +kernel
  order := by
    refine ⟨OrderManager.advancedOrder (OrderManager.createdOrder submitTwo.intent) .sent
      (some "broker-1"), ?_⟩
    exact {
      formed := (step_routed (idle_routed (some unitAccount) .empty "USD" false)
        (fun _ same => by cases same) rfl).ledger.formed
      mapped := by decide +kernel
      tracked := by decide +kernel
      fillable := by decide +kernel
      newReport := by decide +kernel
      newFill := by decide +kernel
      own := by decide +kernel
      multiplier := by decide +kernel
      currency := by decide +kernel
      taken := by decide +kernel
      accountOwn := by decide +kernel
      untaken := Finset.notMem_empty _
      keyed := fun _ _ found => by cases found }

/-- A commission that comes before the flush is paid. -/
theorem commission_paid_iff_beforeFlush :
    Paid .ascii twoSent.partition twoExecuted 1 (afterNews .ascii twoSent twoExecuted
      sampleCommission [.execution 1, .commission 2, .flush "reconnect"]).partition :=
  (commission_paid_iff .ascii twoSent twoExecuted sampleCommission rfl twoSent_awaits
    [.execution 1, .commission 2, .flush "reconnect"]
    ⟨.execution 1, mem_cons_self, trivial⟩
    ⟨.commission 2, mem_cons_of_mem _ mem_cons_self, trivial⟩).mpr nofun

/-- A commission that comes after the flush is not: the cash has paid for the contracts only. -/
theorem lateCommission_unpaid :
    let after := afterNews .ascii twoSent twoExecuted sampleCommission
      [.execution 1, .flush "reconnect", .commission 2]
    after.partition.account.cash.balance .ascii "USD" = .ok (1000 - 2 * 10) ∧
      ¬ Paid .ascii twoSent.partition twoExecuted 1 after.partition := by
  intro after
  refine ⟨by decide +kernel, ?_⟩
  rintro ⟨message, told, -, charged, -⟩
  have free : after.partition.orderManager.accountRef.map (·.fill.commission) = [0] := by
    decide +kernel
  have untold : twoSent.partition.orderManager.accountRef = [] :=
    length_eq_zero_iff.mp (by decide +kernel)
  rw [told, untold] at free
  have costless : message.fill.commission = 0 := by simpa using free
  rw [charged] at costless
  exact absurd costless one_ne_zero

end BrokerRuntime

end Qts
