import Qts.ExecutionStaging

/-! # Runs of the fill normalizer -/

namespace Qts

open Dict StepRuns List
open EStateM (run_bind run_get run_modify run_pure)

/-- What happens to a fill normalizer. -/
inductive IbkrFillEvent
  | execution (payload : IbkrExecutionPayload)
  | commission (payload : IbkrCommissionPayload)
  | flush (reason : String)
  | orderMap (map : Option BrokerOrderMap)
  | resolveQuarantined

/-- What an event returns: fill reports, a standalone commission, or a raise. -/
structure IbkrFillAnswer where
  reports : List ExecutionReport := []
  commission : Option BrokerCommissionReport := none
  failure : Option CallbackError := none

namespace IbkrCallbacks

open RaisingCalls

def answerReports {Value : Type} (reports : Value → List ExecutionReport) :
    EStateM.Result CallbackError IbkrCallbacks Value → IbkrFillAnswer × IbkrCallbacks :=
  answer (fun value => { reports := reports value }) fun failure => { failure := some failure }

def fillStep : Step IbkrCallbacks IbkrFillEvent IbkrFillAnswer
  | calls, .execution payload =>
    answerReports Option.toList ((onExecution payload).run calls)
  | calls, .commission payload =>
    answer (fun
      | .inl report => { reports := [report] }
      | .inr commission => { commission := some commission })
      (fun failure => { failure := some failure }) ((onCommission payload).run calls)
  | calls, .flush reason =>
    answerReports id ((flushPendingExecutions reason).run calls)
  | calls, .orderMap map => ({}, { calls with orderMap := map })
  | calls, .resolveQuarantined => answerReports id (resolveQuarantined.run calls)

def reportKey (accountId : String) (report : ExecutionReport) : ExecutionKey :=
  (accountId, report.brokerOrderId, report.fillId.getD "")

/-- Where the executions of an account are: some keys are booked, each once, and no key that is
delivered is neither booked nor staged nor held. -/
structure FillLedger (accountId : String) (delivered : ExecutionKey → Prop)
    (booked : List ExecutionKey) (held : List IbkrExecutionPayload)
    (calls : IbkrCallbacks) : Prop where
  account : calls.accountId = accountId
  staged : ∀ key execution, calls.pendingExecutions.get? key = some execution →
    executionKey accountId execution = key ∧ key.1 = accountId ∧ key ∉ booked
  completed : calls.completedExecutionKeys = booked.toFinset
  once : booked.Nodup
  found : ∀ key, delivered key → key ∈ booked ∨
    (calls.pendingExecutions.get? key).isSome ∨
      ∃ payload ∈ held, executionKey accountId payload = key

namespace FillLedger

variable {accountId : String} {delivered : ExecutionKey → Prop} {booked : List ExecutionKey}
  {held : List IbkrExecutionPayload} {calls : IbkrCallbacks}

theorem transfer (ledger : FillLedger accountId delivered booked held calls)
    {after : IbkrCallbacks} (account : after.accountId = calls.accountId)
    (pending : after.pendingExecutions = calls.pendingExecutions)
    (completed : after.completedExecutionKeys = calls.completedExecutionKeys) :
    FillLedger accountId delivered booked held after where
  account := account.trans ledger.account
  staged key execution present := ledger.staged key execution (pending ▸ present)
  completed := completed.trans ledger.completed
  once := ledger.once
  found key told := by
    rw [pending]
    exact ledger.found key told

theorem hold (ledger : FillLedger accountId delivered booked held calls)
    (payload : IbkrExecutionPayload) :
    FillLedger accountId
      (fun key => delivered key ∨ executionKey accountId payload = key) booked
      (held ++ [payload]) calls where
  account := ledger.account
  staged := ledger.staged
  completed := ledger.completed
  once := ledger.once
  found key told := by
    rcases told with before | same
    · rcases ledger.found key before with booked | staged | ⟨other, mem, named⟩
      · exact .inl booked
      · exact .inr (.inl staged)
      · exact .inr (.inr ⟨other, mem_append_left _ mem, named⟩)
    · exact .inr (.inr ⟨payload, mem_append_right _ mem_cons_self, same⟩)

variable {key : ExecutionKey}

theorem deliver (ledger : FillLedger accountId delivered booked held calls)
    (accounted : key ∈ booked ∨ (calls.pendingExecutions.get? key).isSome) :
    FillLedger accountId (fun other => delivered other ∨ key = other) booked held calls where
  account := ledger.account
  staged := ledger.staged
  completed := ledger.completed
  once := ledger.once
  found other told := by
    rcases told with before | rfl
    · exact ledger.found other before
    · exact accounted.imp_right .inl

theorem release {payload : IbkrExecutionPayload} {before after : List IbkrExecutionPayload}
    (ledger : FillLedger accountId delivered booked (before ++ payload :: after) calls)
    (accounted : executionKey accountId payload ∈ booked ∨
      (calls.pendingExecutions.get? (executionKey accountId payload)).isSome) :
    FillLedger accountId delivered booked (before ++ after) calls where
  account := ledger.account
  staged := ledger.staged
  completed := ledger.completed
  once := ledger.once
  found key told := by
    rcases ledger.found key told with done | staged | ⟨other, mem, same⟩
    · exact .inl done
    · exact .inr (.inl staged)
    · rcases mem_append.mp mem with first | rest
      · exact .inr (.inr ⟨other, mem_append_left _ first, same⟩)
      · rcases mem_cons.mp rest with rfl | later
        · rw [← same]
          exact accounted.imp_right .inl
        · exact .inr (.inr ⟨other, mem_append_right _ later, same⟩)

section

variable (ledger : FillLedger accountId delivered booked held calls)

include ledger

theorem stage {payload : IbkrExecutionPayload}
    (own : (executionKey accountId payload).1 = accountId)
    (unbooked : executionKey accountId payload ∉ booked) :
    FillLedger accountId delivered booked held
      { calls with pendingExecutions :=
          calls.pendingExecutions.set (executionKey accountId payload) payload } where
  account := ledger.account
  staged key execution present := by
    simp only [get?_set] at present
    split at present
    · next same =>
      cases present
      rw [same]
      exact ⟨rfl, own, unbooked⟩
    · exact ledger.staged key execution present
  completed := ledger.completed
  once := ledger.once
  found key told := by
    rcases ledger.found key told with done | staged | held
    · exact .inl done
    · refine .inr (.inl ?_)
      simp only [get?_set]
      split
      · rfl
      · exact staged
    · exact .inr (.inr held)

theorem book {execution : IbkrExecutionPayload}
    (present : calls.pendingExecutions.get? key = some execution) :
    FillLedger accountId delivered (booked ++ [key]) held (calls.completed key) where
  account := ledger.account
  staged other found remains := by
    simp only [IbkrCallbacks.completed, get?_erase] at remains
    split at remains
    · cases remains
    · next ne =>
      obtain ⟨own, account, unbooked⟩ := ledger.staged other found remains
      refine ⟨own, account, ?_⟩
      rw [mem_append, mem_singleton]
      exact fun mem => mem.elim unbooked ne
  completed := by
    simp only [IbkrCallbacks.completed, ledger.completed, toFinset_append,
      toFinset_cons, toFinset_nil, insert_empty_eq]
    rw [Finset.union_comm, Finset.insert_eq]
  once := by
    have unbooked := (ledger.staged key execution present).2.2
    exact nodup_append.mpr ⟨ledger.once, nodup_singleton key, by
      intro first mem second same
      rw [mem_singleton.mp same]
      exact fun equal => unbooked (equal ▸ mem)⟩
  found other told := by
    rcases ledger.found other told with done | staged | held
    · exact .inl (mem_append_left _ done)
    · by_cases same : other = key
      · exact .inl (mem_append_right _ (mem_singleton.mpr same))
      · refine .inr (.inl ?_)
        simp only [IbkrCallbacks.completed, get?_erase, if_neg same]
        exact staged
    · exact .inr (.inr held)

theorem reportKey_eq {execution : IbkrExecutionPayload}
    (present : calls.pendingExecutions.get? key = some execution) {report : ExecutionReport}
    (books : BooksExecution execution report) : reportKey accountId report = key := by
  obtain ⟨own, account, _⟩ := ledger.staged key execution present
  obtain ⟨_, brokerOrderId, _, _, _, fillId⟩ := books
  rw [← own] at account
  rw [← own, reportKey, brokerOrderId, fillId, Option.getD_some]
  exact congrArg (·, execution.brokerOrderId, execution.executionId) account.symm

end

end FillLedger

variable {accountId : String} {delivered : ExecutionKey → Prop} {booked : List ExecutionKey}
  {held : List IbkrExecutionPayload} {calls : IbkrCallbacks}

/-- The own execution that an event delivers. -/
def DeliveredBy (accountId : String) : IbkrFillEvent → ExecutionKey → Prop
  | .execution payload, key => key.1 = accountId ∧ executionKey accountId payload = key
  | _, _ => False

theorem FillLedger.ofExecution {payload : IbkrExecutionPayload}
    (ledger : FillLedger accountId
      (fun key => delivered key ∨ executionKey accountId payload = key) booked held calls) :
    FillLedger accountId
      (fun key => delivered key ∨ DeliveredBy accountId (.execution payload) key) booked held
      calls where
  account := ledger.account
  staged := ledger.staged
  completed := ledger.completed
  once := ledger.once
  found key told := ledger.found key (told.imp_right And.right)

theorem popCommissionedExecution_ledger
    (ledger : FillLedger accountId delivered booked held calls) (key : ExecutionKey) :
    ∃ report after, (popCommissionedExecution key).run calls = .ok report after ∧
      after.callbackQuarantine = calls.callbackQuarantine ∧
      FillLedger accountId delivered (booked ++ report.toList.map (reportKey accountId)) held
        after := by
  cases pending : calls.pendingExecutions.get? key with
  | none =>
    refine ⟨none, calls, ?_, rfl, by simpa using ledger⟩
    simp only [popCommissionedExecution, run_bind, run_get, pending, run_pure]
  | some execution =>
    cases known : calls.commissions.get? key.2.2 with
    | none =>
      refine ⟨none, calls, ?_, rfl, by simpa using ledger⟩
      simp only [popCommissionedExecution, run_bind, run_get, pending, known, run_pure]
    | some commission =>
      obtain ⟨report, ran, books, _⟩ := popCommissionedExecution_booked pending known
      refine ⟨some report, _, ran, rfl, ?_⟩
      have named := ledger.reportKey_eq pending books
      simp only [Option.toList_some, map_cons, map_nil, named]
      exact (ledger.book pending).transfer rfl rfl rfl

theorem executionKey_own {payload : IbkrExecutionPayload}
    (own : payload.accountId.filter (fun other => other ≠ accountId) = none) :
    (executionKey accountId payload).1 = accountId := by
  cases given : payload.accountId with
  | none => simp [executionKey, given]
  | some other =>
    have same : other = accountId := by simpa [given] using own
    simp [executionKey, given, same]

theorem onExecution_ledger
    (ledger : FillLedger accountId delivered booked calls.callbackQuarantine.executions
      calls) (payload : IbkrExecutionPayload) :
    ∃ report after, (onExecution payload).run calls = .ok report after ∧
      FillLedger accountId
        (fun key => delivered key ∨ DeliveredBy accountId (.execution payload) key)
        (booked ++ report.toList.map (reportKey accountId))
        after.callbackQuarantine.executions after := by
  have account := ledger.account
  by_cases stages : calls.Stages payload
  · have own := executionKey_own (account ▸ stages.1)
    have unbooked : executionKey accountId payload ∉ booked := by
      have uncompleted := stages.2.1
      rw [ledger.completed, mem_toFinset, account] at uncompleted
      exact uncompleted
    have staged : FillLedger accountId
        (fun key => delivered key ∨ DeliveredBy accountId (.execution payload) key) booked
        calls.callbackQuarantine.executions (calls.stagedState payload) := by
      have present : ((calls.pendingExecutions.set (executionKey accountId payload)
          payload).get? (executionKey accountId payload)).isSome := by
        rw [get?_set_self]
        rfl
      have moved := (ledger.stage own unbooked).deliver (.inr present)
      refine moved.ofExecution.transfer rfl ?_ rfl
      rw [IbkrCallbacks.stagedState, account]
    rw [onExecution_staged stages]
    split
    · refine ⟨none, _, rfl, ?_⟩
      rw [Option.toList_none, map_nil, append_nil]
      exact staged
    · obtain ⟨report, after, ran, quarantine, popped⟩ :=
        popCommissionedExecution_ledger staged (executionKey calls.accountId payload)
      refine ⟨report, after, ran, ?_⟩
      rw [quarantine]
      exact popped
  · simp only [onExecution, recordCallbackEvent, quarantineExecution, run_bind, run_modify, run_get]
    cases foreign : payload.accountId.filter fun other => other ≠ calls.accountId with
    | some observed =>
      refine ⟨none, _, rfl, ?_⟩
      simp only [Option.toList_none, map_nil, append_nil]
      exact (ledger.hold payload).ofExecution.transfer rfl rfl rfl
    | none =>
      by_cases done : executionKey calls.accountId payload ∈ calls.completedExecutionKeys
      · simp only [done, if_true]
        refine ⟨none, _, rfl, ?_⟩
        simp only [Option.toList_none, map_nil, append_nil]
        have known : executionKey accountId payload ∈ booked := by
          rwa [ledger.completed, mem_toFinset, account] at done
        exact (ledger.deliver (.inl known)).ofExecution.transfer rfl rfl rfl
      · have unresolved : resolves { calls with callbackEvents := calls.callbackEvents ++
            [executionEvent payload "ibkr_execution_details_received"] } payload.brokerOrderId =
              false := by
          refine Bool.eq_false_iff.mpr fun resolved => stages ⟨foreign, done, resolved⟩
        simp only [done, if_false, unresolved, Bool.not_false, if_true]
        refine ⟨none, _, rfl, ?_⟩
        simp only [Option.toList_none, map_nil, append_nil]
        exact (ledger.hold payload).ofExecution.transfer rfl rfl rfl

theorem onCommission_ledger
    (ledger : FillLedger accountId delivered booked calls.callbackQuarantine.executions
      calls) (payload : IbkrCommissionPayload) :
    ∃ result after, (onCommission payload).run calls = .ok result after ∧
      FillLedger accountId delivered
        (booked ++ (commissionedReport result).toList.map (reportKey accountId))
        after.callbackQuarantine.executions after := by
  let noted : IbkrCallbacks := { calls with
    callbackEvents := calls.callbackEvents ++
      [{ kind := "ibkr_commission_report_received", executionId := some payload.executionId }]
    commissions := calls.commissions.set payload.executionId payload }
  have start : FillLedger accountId delivered booked noted.callbackQuarantine.executions noted :=
    ledger.transfer rfl rfl rfl
  have popped : ∃ report after,
      (popCommissionedExecutionByExecutionId payload.executionId).run noted = .ok report after ∧
      after.callbackQuarantine = noted.callbackQuarantine ∧
      FillLedger accountId delivered (booked ++ report.toList.map (reportKey accountId))
        noted.callbackQuarantine.executions after := by
    simp only [popCommissionedExecutionByExecutionId, run_bind, run_get]
    split
    · exact popCommissionedExecution_ledger start _
    · refine ⟨none, noted, rfl, rfl, ?_⟩
      simpa using start
  obtain ⟨report, after, ran, quarantine, popped⟩ := popped
  rw [← quarantine] at popped
  simp only [noted] at ran
  cases report with
  | some report =>
    refine ⟨.inl report, after, ?_, popped⟩
    simp only [onCommission, recordCallbackEvent, run_bind, run_modify, ran, run_pure]
  | none =>
    simp only [onCommission, recordCallbackEvent, run_bind, run_modify, ran, run_get]
    split
    · exact ⟨.inr payload, _, rfl, popped.transfer rfl rfl rfl⟩
    · exact ⟨.inr payload, after, rfl, popped⟩

theorem reportKeys_eq (ledger : FillLedger accountId delivered booked held calls)
    {items : List (ExecutionKey × IbkrExecutionPayload)}
    (present : ∀ item ∈ items, calls.pendingExecutions.get? item.1 = some item.2)
    {reports : List ExecutionReport}
    (books : List.Forall₂ BooksExecution (items.map Prod.snd) reports) :
    reports.map (reportKey accountId) = items.map Prod.fst := by
  induction items generalizing reports with
  | nil =>
    cases books
    rfl
  | cons item items ih =>
    cases books with
    | cons first rest =>
      have named := ledger.reportKey_eq (present item mem_cons_self) first
      have later := ih (fun other mem => present other (mem_cons_of_mem _ mem)) rest
      rw [map_cons, map_cons, named, later]

theorem flush_ledger (ledger : FillLedger accountId delivered booked held calls)
    {reason : String} (stated : PythonText.isBlank reason = false) :
    ∃ reports after, (flushPendingExecutions reason).run calls = .ok reports after ∧
      after.callbackQuarantine = calls.callbackQuarantine ∧
      reports.map (reportKey accountId) = calls.pendingExecutions.keys ∧
      (∀ key, after.pendingExecutions.get? key = none) ∧
      FillLedger accountId delivered (booked ++ calls.pendingExecutions.keys) held after := by
  obtain ⟨reports, after, ran, books, account, quarantine, completed, pending⟩ :=
    flushExecutions_run stated calls.pendingExecutions.items calls
  have present : ∀ item ∈ calls.pendingExecutions.items,
      calls.pendingExecutions.get? item.1 = some item.2 :=
    fun item mem => (calls.pendingExecutions.get?_eq_some_iff).mpr mem
  have emptied : ∀ key, after.pendingExecutions.get? key = none := by
    intro key
    rw [pending]
    split
    · rfl
    · next absent => exact (calls.pendingExecutions.get?_eq_none_iff).mpr absent
  refine ⟨reports, after, ?_, quarantine, reportKeys_eq ledger present books, emptied, ?_⟩
  · simp only [flushPendingExecutions, run_bind, run_get, ran]
  · refine ⟨account.trans ledger.account, ?_, ?_, ?_, ?_⟩
    · intro key execution found
      rw [emptied] at found
      cases found
    · rw [completed, ledger.completed, toFinset_append]
      rfl
    · refine nodup_append.mpr ⟨ledger.once, calls.pendingExecutions.distinct, ?_⟩
      rintro key done other waiting rfl
      obtain ⟨execution, found⟩ := (calls.pendingExecutions.mem_keys_iff).mp waiting
      exact (ledger.staged key execution found).2.2 done
    · intro key told
      rcases ledger.found key told with done | staged | held
      · exact .inl (mem_append_left _ done)
      · refine .inl (mem_append_right _ ?_)
        exact (calls.pendingExecutions.mem_keys_iff).mpr (Option.isSome_iff_exists.mp staged)
      · exact .inr (.inr held)

theorem resolveExecutions_ledger (items : List IbkrExecutionPayload)
    {before : List IbkrExecutionPayload}
    (ledger : FillLedger accountId delivered booked (before ++ items) calls) :
    ∃ resolved unresolved after,
      (resolveExecutions items).run calls = .ok (resolved, unresolved) after ∧
      FillLedger accountId delivered (booked ++ resolved.map (reportKey accountId))
        (before ++ unresolved) after := by
  induction items generalizing before booked calls with
  | nil =>
    refine ⟨[], [], calls, rfl, ?_⟩
    simpa using ledger
  | cons payload items ih =>
    have account := ledger.account
    unfold resolveExecutions
    simp only [run_bind, run_get]
    split
    · rw [append_cons] at ledger
      obtain ⟨resolved, unresolved, after, ran, rest⟩ := ih ledger
      refine ⟨resolved, payload :: unresolved, after, ?_, ?_⟩
      · simp only [run_bind, ran, run_pure]
      · rw [append_cons]
        exact rest
    · next known =>
      split
      · next done =>
        rw [ledger.completed, mem_toFinset, account] at done
        exact ih (ledger.release (.inl done))
      · next uncompleted =>
        rw [ledger.completed, mem_toFinset, account] at uncompleted
        have own : (executionKey accountId payload).1 = accountId := by
          simp only [isForeign, Bool.or_eq_true, not_or, Bool.not_eq_true] at known
          cases given : payload.accountId with
          | none => simp [executionKey, given]
          | some other =>
            have same : other = calls.accountId := by simpa [given] using known.1
            simp [executionKey, given, same, account]
        have staged := ledger.stage own uncompleted
        have present : ((calls.pendingExecutions.set (executionKey accountId payload)
            payload).get? (executionKey accountId payload)).isSome := by
          rw [get?_set_self]
          rfl
        obtain ⟨report, middle, popped, _, kept⟩ := popCommissionedExecution_ledger
          (staged.release (.inr present)) (executionKey accountId payload)
        have noted : FillLedger accountId delivered
            (booked ++ report.toList.map (reportKey accountId)) (before ++ items)
            { middle with callbackEvents := middle.callbackEvents ++
                [executionEvent payload "ibkr_order_callback_quarantine_resolved"] } :=
          kept.transfer rfl rfl rfl
        obtain ⟨resolved, unresolved, after, ran, rest⟩ := ih noted
        refine ⟨report.toList ++ resolved, unresolved, after, ?_, ?_⟩
        · rw [← account] at popped
          simp only [run_bind, run_modify, popped, recordCallbackEvent, ran, run_pure]
        · rw [map_append, ← append_assoc]
          exact rest

theorem resolveQuarantined_ledger
    (ledger : FillLedger accountId delivered booked calls.callbackQuarantine.executions
      calls) :
    ∃ resolved after, resolveQuarantined.run calls = .ok resolved after ∧
      FillLedger accountId delivered (booked ++ resolved.map (reportKey accountId))
        after.callbackQuarantine.executions after := by
  have start : FillLedger accountId delivered booked
      ([] ++ calls.callbackQuarantine.executions) calls := ledger
  obtain ⟨resolved, unresolved, after, ran, rest⟩ := resolveExecutions_ledger _ start
  refine ⟨resolved, { after with callbackQuarantine :=
    { after.callbackQuarantine with executions := unresolved } }, ?_, rest.transfer rfl rfl rfl⟩
  simp only [resolveQuarantined, run_bind, run_get, ran, run_modify, run_pure]

/-- A flush that finds something staged is given a reason that is not blank. -/
def StatedFlush (calls : IbkrCallbacks) : IbkrFillEvent → Prop
  | .flush reason =>
      PythonText.isBlank reason = false ∨ calls.pendingExecutions.items = []
  | _ => True

theorem fillStep_ledger
    (ledger : FillLedger accountId delivered booked calls.callbackQuarantine.executions
      calls) {event : IbkrFillEvent} (stated : StatedFlush calls event) :
    FillLedger accountId (fun key => delivered key ∨ DeliveredBy accountId event key)
      (booked ++ (fillStep calls event).1.reports.map (reportKey accountId))
      (fillStep calls event).2.callbackQuarantine.executions
      (fillStep calls event).2 := by
  cases event with
  | execution payload =>
    obtain ⟨report, after, ran, next⟩ := onExecution_ledger ledger payload
    simp only [fillStep, answerReports, ran, answer]
    exact next
  | commission payload =>
    obtain ⟨result, after, ran, next⟩ := onCommission_ledger ledger payload
    simp only [fillStep, ran, answer, DeliveredBy, or_false]
    cases result with
    | inl report => exact next
    | inr commission => exact next
  | flush reason =>
    simp only [DeliveredBy, or_false]
    rcases stated with stated | empty
    · obtain ⟨reports, after, ran, quarantine, keys, _, next⟩ := flush_ledger ledger stated
      simp only [fillStep, answerReports, ran, answer, id_eq, keys, quarantine]
      exact next
    · simp only [fillStep, answerReports, flushPendingExecutions, run_bind,
        run_get, empty, flushExecutions, run_pure, answer, id_eq, map_nil,
        append_nil]
      exact ledger
  | orderMap map =>
    simp only [fillStep, DeliveredBy, or_false, map_nil, append_nil]
    exact ledger.transfer rfl rfl rfl
  | resolveQuarantined =>
    obtain ⟨resolved, after, ran, next⟩ := resolveQuarantined_ledger ledger
    simp only [fillStep, answerReports, ran, answer, id_eq, DeliveredBy, or_false]
    exact next

def bookedKeys (calls : IbkrCallbacks) (events : List IbkrFillEvent) : List ExecutionKey :=
  (responses fillStep calls events).flatMap fun answer =>
    answer.reports.map (reportKey calls.accountId)

theorem fillStep_account
    (ledger : FillLedger accountId delivered booked calls.callbackQuarantine.executions
      calls) {event : IbkrFillEvent} (stated : StatedFlush calls event) :
    (fillStep calls event).2.accountId = calls.accountId :=
  (fillStep_ledger ledger stated).account.trans ledger.account.symm

theorem run_ledger
    (ledger : FillLedger accountId delivered booked calls.callbackQuarantine.executions
      calls) {events : List IbkrFillEvent}
    (stated : EveryStep fillStep StatedFlush calls events) :
    FillLedger accountId
      (fun key => delivered key ∨ ∃ event ∈ events, DeliveredBy accountId event key)
      (booked ++ bookedKeys calls events)
      (final fillStep calls events).callbackQuarantine.executions
      (final fillStep calls events) := by
  induction events generalizing calls delivered booked with
  | nil => simpa [bookedKeys] using ledger
  | cons event events ih =>
    have next := ih (fillStep_ledger ledger stated.1) stated.2
    have account := fillStep_account ledger stated.1
    simp only [bookedKeys, account] at next
    simp only [bookedKeys, responses_cons, flatMap_cons, final_cons,
      ledger.account, exists_mem_cons_iff, ← or_assoc, ← append_assoc] at next ⊢
    exact next

def newFillNormalizer (accountId : String) (orderMap : Option BrokerOrderMap)
    (callbackEvents : List IbkrOrderCallbackEvent)
    (callbackQuarantine : BrokerCallbackQuarantine) : IbkrCallbacks where
  accountId := accountId
  orderMap := orderMap
  callbackEvents := callbackEvents
  callbackQuarantine := callbackQuarantine

theorem newFillNormalizer_ledger (accountId : String) (orderMap : Option BrokerOrderMap)
    (callbackEvents : List IbkrOrderCallbackEvent) (callbackQuarantine : BrokerCallbackQuarantine) :
    FillLedger accountId (fun _ => False) [] callbackQuarantine.executions
      (newFillNormalizer accountId orderMap callbackEvents callbackQuarantine) where
  account := rfl
  staged _ _ found := by cases found
  completed := rfl
  once := nodup_nil
  found _ told := told.elim

def KeepsExecution (calls : IbkrCallbacks) (booked : List ExecutionKey)
    (payload : IbkrExecutionPayload) : Prop :=
  let key := executionKey calls.accountId payload
  key ∈ booked ∨ (calls.pendingExecutions.get? key).isSome ∨
    ∃ held ∈ calls.callbackQuarantine.executions,
      executionKey calls.accountId held = key

instance (calls : IbkrCallbacks) (booked : List ExecutionKey)
    (payload : IbkrExecutionPayload) : Decidable (KeepsExecution calls booked payload) :=
  inferInstanceAs (Decidable (_ ∨ _ ∨ ∃ held ∈ calls.callbackQuarantine.executions, _))

/-- A flush with a reason that is not blank books exactly what is staged, and nothing stays. -/
def FlushesPending (calls : IbkrCallbacks) : Prop :=
  ∀ reason, PythonText.isBlank reason = false →
    (fillStep calls (.flush reason)).1.failure = none ∧
    (fillStep calls (.flush reason)).1.reports.map (reportKey calls.accountId) =
      calls.pendingExecutions.keys ∧
    ∀ key, (fillStep calls (.flush reason)).2.pendingExecutions.get? key = none

theorem flushesPending (ledger : FillLedger accountId delivered booked held calls) :
    FlushesPending calls := by
  intro reason stated
  obtain ⟨reports, after, ran, _, keys, emptied, _⟩ := flush_ledger ledger stated
  simp only [fillStep, answerReports, ran, answer, id_eq, ledger.account]
  exact ⟨trivial, keys, emptied⟩

/-- What exactly-once staging means after a run: no key is booked twice, no execution of the
account that was delivered is lost, and the next flush books every staged one. -/
structure BooksExactlyOnce (start : IbkrCallbacks) (events : List IbkrFillEvent) : Prop where
  once : (bookedKeys start events).Nodup
  kept : ∀ payload, .execution payload ∈ events →
    payload.accountId.all (· = start.accountId) = true →
    KeepsExecution (final fillStep start events) (bookedKeys start events) payload
  flushes : FlushesPending (final fillStep start events)

/-- Fill staging is exactly-once in every run that gives its flushes a reason. -/
theorem fills_booksExactlyOnce (accountId : String) (orderMap : Option BrokerOrderMap)
    (callbackEvents : List IbkrOrderCallbackEvent)
    (callbackQuarantine : BrokerCallbackQuarantine) (events : List IbkrFillEvent)
    (stated : EveryStep fillStep StatedFlush
      (newFillNormalizer accountId orderMap callbackEvents callbackQuarantine) events) :
    BooksExactlyOnce
      (newFillNormalizer accountId orderMap callbackEvents callbackQuarantine) events := by
  have ledger := run_ledger
    (newFillNormalizer_ledger accountId orderMap callbackEvents callbackQuarantine) stated
  refine ⟨ledger.once, ?_, flushesPending ledger⟩
  intro payload delivered own
  have ownKey : (executionKey accountId payload).1 = accountId := by
    refine executionKey_own ?_
    change payload.accountId.all (· = accountId) = true at own
    cases given : payload.accountId with
    | none => rfl
    | some other => simp_all
  have found := ledger.found (executionKey accountId payload)
    (.inr ⟨_, delivered, ownKey, rfl⟩)
  rw [KeepsExecution, ledger.account]
  exact found

def sampleExecution : IbkrExecutionPayload where
  reportId := "ibkr-exec-1"
  brokerOrderId := "ibkr-1"
  executionId := "exec-1"
  filledQuantity := 2
  fillPrice := 100
  valid := by decide +kernel

theorem fills_booksExactlyOnce_sample :
    BooksExactlyOnce (newFillNormalizer "DU1" none [] {})
      [.execution sampleExecution, .flush "shutdown", .execution sampleExecution] :=
  fills_booksExactlyOnce "DU1" none [] {} _
    ⟨trivial, .inl (by decide +kernel), trivial, trivial⟩

/-- A flush with a blank reason raises after it has taken the first execution off the staging
area and marked it completed: the execution is lost. -/
theorem blankFlush_loses_execution :
    ¬ BooksExactlyOnce (newFillNormalizer "DU1" none [] {})
      [.execution sampleExecution, .flush ""] := by
  intro exactly
  have kept := exactly.kept sampleExecution mem_cons_self rfl
  revert kept
  decide +kernel

end IbkrCallbacks

end Qts
