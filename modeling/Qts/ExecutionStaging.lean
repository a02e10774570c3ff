import Qts.IbkrReportFlow

/-! # Staged executions of one broker order -/

namespace Qts.IbkrCallbacks

open RaisingCalls

theorem payload_positive (payload : IbkrExecutionPayload) : 0 < payload.filledQuantity := by
  have passes := (Check.firstFailure_none _).mp payload.valid
    ⟨decide (payload.filledQuantity ≤ 0), "filled_quantity must be positive"⟩
    (by simp [IbkrExecutionFields.checks])
  simpa using passes

theorem commission_nonneg (payload : IbkrCommissionPayload) : 0 ≤ payload.commission := by
  have passes := (Check.firstFailure_none _).mp payload.valid
    ⟨decide (payload.commission < 0), "commission must be non-negative"⟩
    (by simp [IbkrCommissionFields.checks])
  simpa using passes

theorem bookExecution_ok (execution : IbkrExecutionPayload) {commission : Decimal}
    (nonneg : 0 ≤ commission) (calls : IbkrCallbacks) :
    ∃ report, (bookExecution execution commission).run calls = .ok report calls ∧
      BooksExecution execution report ∧ report.commission = commission := by
  have passes := (Check.firstFailure_none _).mp execution.valid
  have reportId := passes ⟨PythonText.isBlank execution.reportId, "report_id must not be empty"⟩
    (by simp [IbkrExecutionFields.checks])
  have brokerOrderId := passes
    ⟨PythonText.isBlank execution.brokerOrderId, "broker_order_id must not be empty"⟩
    (by simp [IbkrExecutionFields.checks])
  have valid : Check.firstFailure (ExecutionReportFields.checks {
      reportId := execution.reportId
      brokerOrderId := execution.brokerOrderId
      status := .filled
      filledQuantity := execution.filledQuantity
      fillPrice := some execution.fillPrice
      fillId := some execution.executionId
      commission
      fillTime := execution.fillTime }) = none :=
    ExecutionReportFields.valid_of_not_rejected reportId brokerOrderId
      (le_of_lt (payload_positive execution)) nonneg le_rfl nofun
  have ran : (bookExecution execution commission).run calls =
      .ok ⟨_, valid⟩ calls := by
    unfold bookExecution normalizeIbkrExecutionReport
    rw [ExecutionReport.create_ok valid]
    rfl
  exact ⟨_, ran, bookExecution_books execution commission calls _ _ ran, rfl⟩

def completed (calls : IbkrCallbacks) (key : ExecutionKey) : IbkrCallbacks :=
  { calls with
    pendingExecutions := calls.pendingExecutions.erase key
    completedExecutionKeys := insert key calls.completedExecutionKeys }

variable {calls : IbkrCallbacks}

theorem popCommissionedExecution_booked {key : ExecutionKey} {execution : IbkrExecutionPayload}
    {commission : IbkrCommissionPayload}
    (pending : calls.pendingExecutions.get? key = some execution)
    (known : calls.commissions.get? key.2.2 = some commission) :
    ∃ report, (popCommissionedExecution key).run calls =
        .ok (some report) { calls.completed key with
          commissions := calls.commissions.erase key.2.2 } ∧
      BooksExecution execution report ∧ report.commission = commission.commission := by
  obtain ⟨report, ran, books⟩ := bookExecution_ok execution (commission_nonneg commission)
    { calls.completed key with commissions := calls.commissions.erase key.2.2 }
  refine ⟨report, ?_, books⟩
  simp only [popCommissionedExecution, EStateM.run_bind, EStateM.run_get, pending, known,
    EStateM.run_set]
  rw [completed] at ran
  simp only [ran, EStateM.run_pure, completed]

/-- An execution passes the account, duplicate and order-map tests. -/
def Stages (calls : IbkrCallbacks) (payload : IbkrExecutionPayload) : Prop :=
  payload.accountId.filter (fun accountId => accountId ≠ calls.accountId) = none ∧
    executionKey calls.accountId payload ∉ calls.completedExecutionKeys ∧
    calls.resolves payload.brokerOrderId = true

instance (calls : IbkrCallbacks) (payload : IbkrExecutionPayload) :
    Decidable (calls.Stages payload) :=
  inferInstanceAs (Decidable (_ ∧ _ ∧ _))

def commissionedExecution (calls : IbkrCallbacks) (executionId : String) :
    Option IbkrExecutionPayload :=
  (calls.pendingExecutions.keys.find? fun key => key.2.2 = executionId).bind
    calls.pendingExecutions.get?

/-- The executions that an event takes off the staging area, read off the state before. -/
def booked (calls : IbkrCallbacks) : IbkrFeedEvent → List IbkrExecutionPayload
  | .execution payload =>
      if calls.Stages payload ∧ (calls.commissions.get? payload.executionId).isSome then
        [payload]
      else []
  | .commission payload => (calls.commissionedExecution payload.executionId).toList
  | .flush _ _ => calls.pendingExecutions.values
  | _ => []

structure Staged (calls : IbkrCallbacks) (executions : List IbkrExecutionPayload)
    (key : ExecutionKey) (execution : IbkrExecutionPayload) : Prop where
  key_eq : key = (calls.accountId, execution.brokerOrderId, execution.executionId)
  own : executionKey calls.accountId execution = key
  known : execution ∈ executions
  uncompleted : key ∉ calls.completedExecutionKeys

/-- Whatever is staged is staged under its own key. -/
def Staging (calls : IbkrCallbacks) (executions : List IbkrExecutionPayload) : Prop :=
  ∀ key execution, calls.pendingExecutions.get? key = some execution →
    Staged calls executions key execution

structure Booking (calls after : IbkrCallbacks) (executions : List IbkrExecutionPayload)
    (taken : List IbkrExecutionPayload) (reports : List ExecutionReport) : Prop where
  books : List.Forall₂ BooksExecution taken reports
  account : after.accountId = calls.accountId
  staging : Staging after executions
  completed_eq : after.completedExecutionKeys = calls.completedExecutionKeys ∪
    (taken.map (executionKey calls.accountId)).toFinset
  staged : ∀ execution ∈ taken,
    Staged calls executions (executionKey calls.accountId execution) execution
  distinct : (taken.map (executionKey calls.accountId)).Nodup

variable {executions : List IbkrExecutionPayload}

theorem Booking.none {calls after : IbkrCallbacks} (staging : Staging calls executions)
    (account : after.accountId = calls.accountId)
    (pending : after.pendingExecutions = calls.pendingExecutions)
    (completed : after.completedExecutionKeys = calls.completedExecutionKeys) :
    Booking calls after executions [] [] where
  books := .nil
  account := account
  staging key execution found := by
    rw [pending] at found
    have staged := staging key execution found
    exact ⟨by rw [account]; exact staged.key_eq, by rw [account]; exact staged.own,
      staged.known, by rw [completed]; exact staged.uncompleted⟩
  completed_eq := by simp [completed]
  staged := by simp
  distinct := List.nodup_nil

theorem Booking.one {calls after : IbkrCallbacks} {key : ExecutionKey}
    {execution : IbkrExecutionPayload} {report : ExecutionReport}
    (staging : Staging calls executions) (staged : Staged calls executions key execution)
    (books : BooksExecution execution report) (account : after.accountId = calls.accountId)
    (pending : ∀ other, after.pendingExecutions.get? other =
      if other = key then Option.none else calls.pendingExecutions.get? other)
    (completed : after.completedExecutionKeys = insert key calls.completedExecutionKeys) :
    Booking calls after executions [execution] [report] where
  books := .cons books .nil
  account := account
  staging other found present := by
    rw [pending] at present
    split at present
    · cases present
    · next ne =>
      have old := staging other found present
      refine ⟨by rw [account]; exact old.key_eq, by rw [account]; exact old.own, old.known, ?_⟩
      rw [completed, Finset.mem_insert, not_or]
      exact ⟨ne, old.uncompleted⟩
  completed_eq := by simp [completed, staged.own]
  staged other mem := by
    rw [List.mem_singleton.mp mem, staged.own]
    exact staged
  distinct := by simp

variable {payload : IbkrExecutionPayload}

theorem Stages.staged (stages : calls.Stages payload) (known : payload ∈ executions) :
    Staged calls executions (executionKey calls.accountId payload) payload where
  key_eq := by
    cases account : payload.accountId with
    | none => simp [executionKey, account]
    | some accountId =>
      have same := stages.1
      simp only [account, Option.filter_some, ne_eq, decide_not, Bool.not_eq_true',
        decide_eq_false_iff_not, ite_eq_right_iff, reduceCtorEq, imp_false, not_not] at same
      simp [executionKey, account, same]
  own := rfl
  known := known
  uncompleted := stages.2.1

theorem onExecution_dropped (dropped : ¬ calls.Stages payload) :
    ∃ after, (onExecution payload).run calls = .ok Option.none after ∧
      after.accountId = calls.accountId ∧
      after.orderMap = calls.orderMap ∧ after.commissions = calls.commissions ∧
      after.pendingExecutions = calls.pendingExecutions ∧
      after.completedExecutionKeys = calls.completedExecutionKeys := by
  simp only [onExecution, recordCallbackEvent, quarantineExecution, EStateM.run_bind,
    EStateM.run_modify, EStateM.run_get]
  cases account : payload.accountId.filter fun accountId => accountId ≠ calls.accountId with
  | some observed => exact ⟨_, rfl, rfl, rfl, rfl, rfl, rfl⟩
  | none =>
    by_cases done : executionKey calls.accountId payload ∈ calls.completedExecutionKeys
    · simp only [done, if_true]
      exact ⟨_, rfl, rfl, rfl, rfl, rfl, rfl⟩
    · have unresolved : calls.resolves payload.brokerOrderId = false := by
        by_contra resolved
        exact dropped ⟨account, done, Bool.eq_true_of_not_eq_false resolved⟩
      have unresolved' : resolves { calls with callbackEvents := calls.callbackEvents ++
          [executionEvent payload "ibkr_execution_details_received"] } payload.brokerOrderId =
            false := unresolved
      simp only [done, if_false, unresolved', Bool.not_false, if_true]
      exact ⟨_, rfl, rfl, rfl, rfl, rfl, rfl⟩

def stagedState (calls : IbkrCallbacks) (payload : IbkrExecutionPayload) : IbkrCallbacks :=
  { calls with
    callbackEvents := calls.callbackEvents ++
      [executionEvent payload "ibkr_execution_details_received"]
    pendingExecutions :=
      calls.pendingExecutions.set (executionKey calls.accountId payload) payload }

theorem onExecution_staged (stages : calls.Stages payload) :
    (onExecution payload).run calls =
      if (calls.commissions.get? payload.executionId).isNone then
        .ok Option.none (calls.stagedState payload)
      else
        (popCommissionedExecution (executionKey calls.accountId payload)).run
          (calls.stagedState payload) := by
  obtain ⟨account, uncompleted, resolved⟩ := stages
  have resolved' : resolves { calls with callbackEvents := calls.callbackEvents ++
      [executionEvent payload "ibkr_execution_details_received"] } payload.brokerOrderId =
        true := resolved
  simp only [onExecution, recordCallbackEvent, EStateM.run_bind, EStateM.run_modify,
    EStateM.run_get, account, uncompleted, if_false, resolved', Bool.not_true, Bool.false_eq_true]
  split <;> rfl

theorem Staging.stagedState (staging : Staging calls executions)
    (staged : Staged calls executions (executionKey calls.accountId payload) payload) :
    Staging (calls.stagedState payload) executions := by
  intro key execution found
  simp only [IbkrCallbacks.stagedState, Dict.get?_set] at found
  split at found
  · next same =>
    cases found
    rw [same]
    exact ⟨staged.key_eq, staged.own, staged.known, staged.uncompleted⟩
  · have old := staging key execution found
    exact ⟨old.key_eq, old.own, old.known, old.uncompleted⟩

theorem produce_execution (staging : Staging calls executions) (known : payload ∈ executions) :
    Booking calls (IbkrFeed.produce calls (.execution payload)).2 executions
      (calls.booked (.execution payload))
      (IbkrFeed.produce calls (.execution payload)).1 := by
  simp only [IbkrFeed.produce, booked]
  by_cases stages : calls.Stages payload
  · have staged := stages.staged known
    have staging' := staging.stagedState staged
    rw [onExecution_staged stages]
    cases known : calls.commissions.get? payload.executionId with
    | none =>
      simp only [Option.isNone_none, if_true, Option.isSome_none, Bool.false_eq_true, and_false,
        if_false]
      exact {
        books := .nil
        account := rfl
        staging := staging'
        completed_eq := by simp [IbkrFeed.reportsOf, IbkrCallbacks.stagedState]
        staged := by simp
        distinct := List.nodup_nil }
    | some commission =>
      simp only [Option.isNone_some, Bool.false_eq_true, if_false, Option.isSome_some, and_true,
        stages, if_true]
      have pending : (calls.stagedState payload).pendingExecutions.get?
          (executionKey calls.accountId payload) = some payload :=
        Dict.get?_set_self _ _ _
      have commissioned : (calls.stagedState payload).commissions.get?
          (executionKey calls.accountId payload).2.2 = some commission := by
        rw [staged.key_eq]
        exact known
      obtain ⟨report, ran, books, _⟩ := popCommissionedExecution_booked pending commissioned
      rw [ran]
      refine Booking.one staging staged books rfl ?_ rfl
      intro other
      simp only [IbkrFeed.reportsOf, completed, IbkrCallbacks.stagedState,
        Dict.get?_erase, Dict.get?_set]
      split <;> rfl
  · obtain ⟨after, ran, account, _, _, pending, completed⟩ := onExecution_dropped stages
    rw [ran]
    simp only [stages, false_and, if_false]
    exact Booking.none staging account pending completed

theorem produce_commission (staging : Staging calls executions)
    (payload : IbkrCommissionPayload) :
    Booking calls (IbkrFeed.produce calls (.commission payload)).2 executions
      (calls.booked (.commission payload))
      (IbkrFeed.produce calls (.commission payload)).1 := by
  simp only [IbkrFeed.produce, booked, commissionedExecution, onCommission, recordCallbackEvent,
    popCommissionedExecutionByExecutionId, EStateM.run_bind, EStateM.run_modify, EStateM.run_get]
  cases first : calls.pendingExecutions.keys.find? fun key => key.2.2 = payload.executionId with
  | none =>
    simp only [EStateM.run_pure, EStateM.run_bind, EStateM.run_get, Option.bind_none,
      Option.toList_none]
    split
    · exact Booking.none staging rfl rfl rfl
    · exact Booking.none staging rfl rfl rfl
  | some key =>
    have mem := List.mem_of_find?_eq_some first
    obtain ⟨execution, present⟩ := (calls.pendingExecutions.mem_keys_iff).mp mem
    have id : key.2.2 = payload.executionId := by
      simpa using List.find?_some first
    have staged := staging key execution present
    let noted : IbkrCallbacks := { calls with
      callbackEvents := calls.callbackEvents ++
        [{ kind := "ibkr_commission_report_received", executionId := some payload.executionId }]
      commissions := calls.commissions.set payload.executionId payload }
    have pending : noted.pendingExecutions.get? key = some execution := present
    have commissioned : noted.commissions.get? key.2.2 = some payload := by
      rw [id]
      exact Dict.get?_set_self _ _ _
    obtain ⟨report, ran, books, _⟩ := popCommissionedExecution_booked pending commissioned
    simp only [noted] at ran
    simp only [ran, EStateM.run_pure, Option.bind_some, present, Option.toList_some]
    refine Booking.one staging staged books rfl ?_ rfl
    intro other
    simp only [IbkrFeed.reportsOf, completed, Dict.get?_erase]

theorem flushExecutions_run {reason : String} (stated : PythonText.isBlank reason = false)
    (items : List (ExecutionKey × IbkrExecutionPayload)) (calls : IbkrCallbacks) :
    ∃ reports after, (flushExecutions reason items).run calls = .ok reports after ∧
      List.Forall₂ BooksExecution (items.map Prod.snd) reports ∧
      after.accountId = calls.accountId ∧
      after.callbackQuarantine = calls.callbackQuarantine ∧
      after.completedExecutionKeys =
        calls.completedExecutionKeys ∪ (items.map Prod.fst).toFinset ∧
      ∀ key, after.pendingExecutions.get? key =
        if key ∈ items.map Prod.fst then none else calls.pendingExecutions.get? key := by
  induction items generalizing calls with
  | nil => exact ⟨[], calls, rfl, .nil, rfl, rfl, by simp, by simp⟩
  | cons item items ih =>
    obtain ⟨key, execution⟩ := item
    let noted : IbkrCallbacks := { calls.completed key with
      callbackEvents := calls.callbackEvents ++
        [executionEvent execution "ibkr_fill_committed_without_commission" (some reason)] }
    obtain ⟨report, booked, books, _⟩ := bookExecution_ok execution le_rfl noted
    obtain ⟨reports, after, ran, rest, account, quarantine, completed, pending⟩ := ih noted
    refine ⟨report :: reports, after, ?_, .cons books rest, account, quarantine, ?_, ?_⟩
    · simp only [noted, IbkrCallbacks.completed] at booked ran
      simp only [flushExecutions, stated, Bool.false_eq_true, if_false, recordCallbackEvent,
        EStateM.run_bind, EStateM.run_modify, booked, ran, EStateM.run_pure]
    · rw [completed]
      ext other
      simp only [noted, IbkrCallbacks.completed, Finset.mem_union, Finset.mem_insert,
        List.mem_toFinset, List.map_cons, List.mem_cons]
      tauto
    · intro other
      rw [pending]
      simp only [noted, IbkrCallbacks.completed, Dict.get?_erase, List.map_cons,
        List.mem_cons]
      by_cases same : other = key
      · simp [same]
      · simp only [same, false_or, if_false]

theorem produce_flush (staging : Staging calls executions) (reason : String)
    (stated : PythonText.isBlank reason = false) :
    Booking calls (IbkrFeed.produce calls (.flush reason stated)).2 executions
      (calls.booked (.flush reason stated))
      (IbkrFeed.produce calls (.flush reason stated)).1 := by
  obtain ⟨reports, after, ran, books, account, _, completed, pending⟩ :=
    flushExecutions_run stated calls.pendingExecutions.items calls
  have staged : ∀ item ∈ calls.pendingExecutions.items,
      Staged calls executions item.1 item.2 := by
    rintro ⟨key, execution⟩ mem
    exact staging key execution ((calls.pendingExecutions.get?_eq_some_iff).mpr mem)
  have keys : calls.pendingExecutions.values.map (executionKey calls.accountId) =
      calls.pendingExecutions.items.map Prod.fst := by
    rw [Dict.values, List.map_map]
    exact List.map_congr_left fun item mem => (staged item mem).own
  have flushed : (flushPendingExecutions reason).run calls = .ok reports after := by
    simp only [flushPendingExecutions, EStateM.run_bind, EStateM.run_get, ran]
  simp only [IbkrFeed.produce, booked, flushed]
  exact {
    books, account
    staging := by
      intro key execution found
      change after.pendingExecutions.get? key = some execution at found
      rw [pending] at found
      split at found
      · cases found
      · next absent =>
        have present := (calls.pendingExecutions.mem_keys_iff).mpr ⟨execution, found⟩
        exact absurd present absent
    completed_eq := by rw [keys]; exact completed
    staged := by
      intro execution mem
      obtain ⟨item, itemMem, rfl⟩ := List.mem_map.mp mem
      have item_staged := staged item itemMem
      rw [item_staged.own]
      exact item_staged
    distinct := by rw [keys]; exact calls.pendingExecutions.distinct }

def OfExecutions (executions : List IbkrExecutionPayload) : IbkrFeedEvent → Prop
  | .execution payload => payload ∈ executions
  | .commission _ => True
  | .flush _ _ => True
  | _ => False

theorem produce_booking (staging : Staging calls executions) {event : IbkrFeedEvent}
    (ofExecutions : OfExecutions executions event) :
    Booking calls (IbkrFeed.produce calls event).2 executions (calls.booked event)
      (IbkrFeed.produce calls event).1 := by
  cases event with
  | execution payload => exact produce_execution staging ofExecutions
  | commission payload => exact produce_commission staging payload
  | flush reason stated => exact produce_flush staging reason stated
  | orderStatus payload now => exact ofExecutions.elim
  | cancelRequest intent => exact ofExecutions.elim
  | replaceRequest intent riskDecision => exact ofExecutions.elim

end Qts.IbkrCallbacks

namespace Qts.IbkrFeed

open IbkrCallbacks

def bookings (feed : IbkrFeed) : List IbkrFeedEvent → List IbkrExecutionPayload
  | [] => []
  | event :: events => feed.calls.booked event ++ bookings (step feed event).2 events

theorem deliver_append (manager : OrderManager) (first second : List ExecutionReport) :
    deliver manager (first ++ second) =
      ((deliver manager first).1 ++ (deliver (deliver manager first).2 second).1,
        (deliver (deliver manager first).2 second).2) := by
  induction first generalizing manager with
  | nil => rfl
  | cons report reports ih => simp [deliver, ih]

theorem request_ofExecutions {executions : List IbkrExecutionPayload} {event : IbkrFeedEvent}
    (ofExecutions : OfExecutions executions event) (manager : OrderManager) :
    request manager event = manager := by
  cases event with
  | cancelRequest intent => exact ofExecutions.elim
  | replaceRequest intent riskDecision => exact ofExecutions.elim
  | _ => rfl

theorem bookings_run {feed : IbkrFeed} {executions : List IbkrExecutionPayload}
    (staging : Staging feed.calls executions) {events : List IbkrFeedEvent}
    (ofExecutions : ∀ event ∈ events, OfExecutions executions event) :
    ∃ reports, List.Forall₂ BooksExecution (bookings feed events) reports ∧
      deliveries feed events = (deliver feed.manager reports).1 ∧
      ((bookings feed events).map (executionKey feed.calls.accountId)).Nodup ∧
      ∀ execution ∈ bookings feed events, Staged feed.calls executions
        (executionKey feed.calls.accountId execution) execution := by
  induction events generalizing feed with
  | nil => exact ⟨[], .nil, rfl, List.nodup_nil, by simp [bookings]⟩
  | cons event events ih =>
    have first := ofExecutions event List.mem_cons_self
    have booking := produce_booking staging first
    have account : (step feed event).2.calls.accountId = feed.calls.accountId :=
      booking.account
    have nextStaging : Staging (step feed event).2.calls executions := booking.staging
    obtain ⟨reports, books, delivered, distinct, staged⟩ := ih nextStaging
      fun other mem => ofExecutions other (List.mem_cons_of_mem _ mem)
    rw [account] at distinct staged
    have completed : (step feed event).2.calls.completedExecutionKeys =
        feed.calls.completedExecutionKeys ∪
          ((feed.calls.booked event).map (executionKey feed.calls.accountId)).toFinset :=
      booking.completed_eq
    refine ⟨(produce feed.calls event).1 ++ reports, ?_, ?_, ?_, ?_⟩
    · exact List.rel_append booking.books books
    · have manager : (step feed event).2.manager =
          (deliver feed.manager (produce feed.calls event).1).2 := by
        simp only [step, request_ofExecutions first]
      rw [deliver_append, ← manager, ← delivered]
      simp only [deliveries, StepRuns.responses_cons, List.flatten_cons, step,
        request_ofExecutions first]
    · simp only [bookings, List.map_append]
      rw [List.nodup_append]
      refine ⟨booking.distinct, distinct, ?_⟩
      rintro _ now _ later rfl
      obtain ⟨execution, mem, same⟩ := List.mem_map.mp later
      have uncompleted := (staged execution mem).uncompleted
      rw [completed, same, Finset.mem_union, List.mem_toFinset, not_or] at uncompleted
      exact uncompleted.2 now
    · intro execution mem
      simp only [bookings, List.mem_append] at mem
      rcases mem with now | later
      · exact booking.staged execution now
      · have next := staged execution later
        refine ⟨?_, rfl, next.known, ?_⟩
        · rw [← account]
          exact account ▸ next.key_eq
        · have uncompleted := next.uncompleted
          rw [completed, Finset.mem_union, not_or] at uncompleted
          exact uncompleted.1

end Qts.IbkrFeed
