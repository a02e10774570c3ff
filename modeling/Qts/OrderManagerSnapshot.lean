import Qts.OrderManagerInvariant

/-! # Snapshot and restore of the order manager -/

namespace Qts.OrderManager

open Dict EStateM List StepRuns

open RaisingCalls

/-- Managers that agree on everything an operation can read. -/
structure Alike (first second : OrderManager) : Prop where
  orders : first.orders = second.orders
  machines : ∀ orderId, first.machines.get? orderId = second.machines.get? orderId
  brokerToOrder : first.brokerToOrder = second.brokerToOrder
  fillIds : first.fillIds.seen = second.fillIds.seen
  fillIdsByOrder :
    ∀ orderId, first.fillIdsByOrder.get? orderId = second.fillIdsByOrder.get? orderId
  seenReportIds : first.seenReportIds = second.seenReportIds
  reportIdsByOrder :
    ∀ orderId, first.reportIdsByOrder.get? orderId = second.reportIdsByOrder.get? orderId

theorem get?_set_congr {Key Value : Type} [DecidableEq Key] {first second : Dict Key Value}
    (alike : ∀ key, first.get? key = second.get? key) (target : Key) (value : Value) (key : Key) :
    (first.set target value).get? key = (second.set target value).get? key := by
  rw [get?_set, get?_set, alike]

theorem get?_erase_congr {Key Value : Type} [DecidableEq Key] {first second : Dict Key Value}
    (alike : ∀ key, first.get? key = second.get? key) (target key : Key) :
    (first.erase target).get? key = (second.erase target).get? key := by
  rw [get?_erase, get?_erase, alike]

theorem addOwnedId_congr {first second : Dict OrderId (Finset String)}
    (alike : ∀ orderId, first.get? orderId = second.get? orderId) (target : OrderId) (id : String)
    (orderId : OrderId) :
    (addOwnedId first target id).get? orderId = (addOwnedId second target id).get? orderId := by
  rw [addOwnedId, addOwnedId, alike target]
  exact get?_set_congr alike target _ orderId

variable {first second : OrderManager}

section

variable (alike : Alike first second)

include alike

variable (orderId : OrderId)

theorem getOrder_related :
    Related Alike ((getOrder orderId).run first) ((getOrder orderId).run second) := by
  cases tracked : first.orders.get? orderId with
  | none =>
    rw [getOrder_untracked tracked, getOrder_untracked (alike.orders ▸ tracked)]
    exact .error _ alike
  | some order =>
    rw [getOrder_tracked tracked, getOrder_tracked (alike.orders ▸ tracked)]
    exact .ok order alike

theorem applyEvent_related (event : OrderEvent) :
    Related Alike ((applyEvent orderId event).run first)
      ((applyEvent orderId event).run second) := by
  have machines := alike.machines orderId
  cases tracked : first.machines.get? orderId with
  | none =>
    rw [applyEvent_untracked tracked, applyEvent_untracked (machines ▸ tracked)]
    exact .error _ alike
  | some machine =>
    cases next : nextState machine.state event with
    | none =>
      rw [applyEvent_refused tracked next, applyEvent_refused (machines ▸ tracked) next]
      exact .error _ alike
    | some state =>
      rw [applyEvent_accepted tracked next, applyEvent_accepted (machines ▸ tracked) next]
      exact .ok state { alike with machines := get?_set_congr alike.machines orderId _ }

theorem Alike.setOrder (order : Order) :
    Alike { first with orders := first.orders.set orderId order }
      { second with orders := second.orders.set orderId order } :=
  { alike with orders := by rw [alike.orders] }

theorem replaceOrder_related (state : OrderState) (brokerOrderId : Option String) :
    Related Alike ((replaceOrder orderId state brokerOrderId).run first)
      ((replaceOrder orderId state brokerOrderId).run second) := by
  unfold replaceOrder
  apply Related.bind (getOrder_related alike orderId)
  intro current first second alike
  exact .ok _ (alike.setOrder orderId _)

theorem createOrder_related (intent : OrderIntent) (riskDecision : RiskDecision) :
    Related Alike ((createOrder intent riskDecision).run first)
      ((createOrder intent riskDecision).run second) := by
  cases approved : riskDecision.approved with
  | false =>
    rw [createOrder_refused approved, createOrder_refused approved]
    exact .error _ alike
  | true =>
    rw [createOrder_approved approved, createOrder_approved approved]
    exact .ok _ { alike with
      orders := by simp only [moved, alike.orders]
      machines := get?_set_congr alike.machines intent.orderId _ }

theorem markSent_related (brokerOrderId : String) :
    Related Alike ((markSent orderId brokerOrderId).run first)
      ((markSent orderId brokerOrderId).run second) := by
  unfold markSent
  cases PythonText.isBlank brokerOrderId with
  | true => exact .error _ alike
  | false =>
    simp only [Bool.false_eq_true, if_false]
    apply Related.bind (applyEvent_related alike orderId .sent)
    intro state first second alike
    apply Related.bind (replaceOrder_related alike orderId state (some brokerOrderId))
    intro order first second alike
    exact .ok order { alike with
      brokerToOrder := congrArg (fun map => map.set brokerOrderId orderId) alike.brokerToOrder }

theorem requestCancel_related (intent : CancelIntent) :
    Related Alike ((requestCancel intent).run first) ((requestCancel intent).run second) := by
  unfold requestCancel
  apply Related.bind (applyEvent_related alike intent.orderId .cancelRequested)
  intro state first second alike
  exact replaceOrder_related alike intent.orderId state none

theorem requestReplace_related (intent : ReplaceIntent) (riskDecision : RiskDecision) :
    Related Alike ((requestReplace intent riskDecision).run first)
      ((requestReplace intent riskDecision).run second) := by
  unfold requestReplace
  cases riskDecision.approved with
  | false => exact .error _ alike
  | true =>
    simp only [Bool.not_true, Bool.false_eq_true, if_false]
    apply Related.bind (applyEvent_related alike intent.orderId .replaceRequested)
    intro state first second alike
    apply Related.bind (getOrder_related alike intent.orderId)
    intro current first second alike
    exact .ok _ (alike.setOrder intent.orderId _)

theorem fillsForReport_related (order : Order) (report : ExecutionReport) :
    Related Alike ((fillsForReport order report).run first)
      ((fillsForReport order report).run second) := by
  unfold fillsForReport
  cases report.fillId with
  | none => exact .ok [] alike
  | some fillId =>
    by_cases empty : report.filledQuantity ≤ 0
    · simp only [empty, if_true]
      exact .ok [] alike
    · simp only [empty, if_false]
      cases report.fillPrice with
      | none => exact .error _ alike
      | some price =>
        simp only [run_bind, run_get, FillIdempotencyStore.markSeen, alike.fillIds]
        cases PythonText.isBlank fillId with
        | true => exact .error _ alike
        | false =>
          by_cases known : fillId ∈ second.fillIds.seen
          · simp only [Bool.false_eq_true, if_false, known, if_true]
            exact .ok [] alike
          · simp only [Bool.false_eq_true, if_false, known]
            exact .ok _ { alike with
              fillIds := rfl
              fillIdsByOrder := addOwnedId_congr alike.fillIdsByOrder order.orderId fillId }

theorem processReport_related (report : ExecutionReport) :
    Related Alike ((processReport report).run first) ((processReport report).run second) := by
  unfold processReport
  simp only [run_bind, run_get, alike.brokerToOrder]
  cases second.brokerToOrder.get? report.brokerOrderId with
  | none => exact .error _ alike
  | some orderId =>
    by_cases seen : report.reportId ∈ second.seenReportIds
    · simp only [run_bind, run_get, alike.seenReportIds, seen, if_true]
      exact Related.bind (getOrder_related alike orderId) fun order _ _ alike => .ok _ alike
    · simp only [run_bind, run_get, alike.seenReportIds, seen, if_false]
      apply Related.bind (applyEvent_related alike orderId (eventForReport report.status))
      intro state first second alike
      apply Related.bind (replaceOrder_related alike orderId state none)
      intro order first second alike
      simp only [run_modify]
      have recorded : Alike (first.withReport orderId report.reportId)
          (second.withReport orderId report.reportId) :=
        { alike with
          seenReportIds := by rw [withReport, withReport, alike.seenReportIds]
          reportIdsByOrder :=
            addOwnedId_congr alike.reportIdsByOrder orderId report.reportId }
      exact Related.bind (fillsForReport_related recorded order report)
        fun fills _ _ alike => .ok _ alike

theorem Alike.discarded (order : Order) :
    Alike (first.discarded orderId order) (second.discarded orderId order) where
  orders := by rw [OrderManager.discarded, OrderManager.discarded, alike.orders]
  machines := get?_erase_congr alike.machines orderId
  brokerToOrder := by simp only [OrderManager.discarded, alike.brokerToOrder]
  fillIds := by
    simp only [OrderManager.discarded, FillIdempotencyStore.discardAll_seen, alike.fillIds,
      alike.fillIdsByOrder orderId]
  fillIdsByOrder := get?_erase_congr alike.fillIdsByOrder orderId
  seenReportIds := by
    simp only [OrderManager.discarded, alike.seenReportIds, alike.reportIdsByOrder orderId]
  reportIdsByOrder := get?_erase_congr alike.reportIdsByOrder orderId

theorem discardTerminalOrder_related :
    Related Alike ((discardTerminalOrder orderId).run first)
      ((discardTerminalOrder orderId).run second) := by
  unfold discardTerminalOrder
  apply Related.bind (getOrder_related alike orderId)
  intro order first second alike
  by_cases terminal : order.state ∈ terminalOrderStates
  · simp only [terminal, not_true_eq_false, if_false]
    exact .ok () (alike.discarded orderId order)
  · simp only [terminal, not_false_eq_true, if_true]
    exact .error _ alike

end

theorem alike_bisimulation : Bisimulation step Alike := by
  intro first second command alike
  cases command with
  | createOrder intent riskDecision => exact (createOrder_related alike intent riskDecision).answer
  | markSent orderId brokerOrderId => exact (markSent_related alike orderId brokerOrderId).answer
  | requestCancel intent => exact (requestCancel_related alike intent).answer
  | requestReplace intent riskDecision =>
    exact (requestReplace_related alike intent riskDecision).answer
  | processReport report => exact (processReport_related alike report).answer
  | discardTerminalOrder orderId => exact (discardTerminalOrder_related alike orderId).answer

variable {manager : OrderManager}

theorem ordersByKey_items (formed : manager.WellFormed) :
    manager.orders.values.map (fun order => (order.orderId, order)) = manager.orders.items := by
  have same : ∀ item ∈ manager.orders.items, (item.2.orderId, item.2) = id item := by
    rintro ⟨orderId, order⟩ mem
    have tracked := (manager.orders.get?_eq_some_iff).mpr mem
    simp only [formed.key orderId order tracked, id]
  rw [values, map_map]
  exact (map_congr_left same).trans (map_id _)

theorem restored_orders (formed : manager.WellFormed) :
    (restore (snapshot manager).1).orders = manager.orders := by
  change ofItems (manager.orders.values.map fun order => (order.orderId, order)) = _
  rw [ordersByKey_items formed, ofItems_items_self]

theorem restored_machines (formed : manager.WellFormed) (orderId : OrderId) :
    (restore (snapshot manager).1).machines.get? orderId = manager.machines.get? orderId := by
  have machines : manager.orders.values.map
      (fun order => (order.orderId, (⟨order.state⟩ : OrderStateMachine))) =
        manager.orders.items.map fun item => (item.1, ⟨item.2.state⟩) := by
    rw [← ordersByKey_items formed, map_map]
    rfl
  change (ofItems (manager.orders.values.map
    fun order => (order.orderId, (⟨order.state⟩ : OrderStateMachine)))).get? orderId = _
  rw [machines, formed.machine]
  exact get?_ofItems_map manager.orders
    (fun order => OrderStateMachine.mk order.state) orderId

theorem idsByOrder_roundTrip {idsByOrder : Dict OrderId (Finset String)}
    (nonempty : ∀ orderId ids, idsByOrder.get? orderId = some ids → ids ≠ ∅) (orderId : OrderId) :
    (idsByOrderFromPayload (idsByOrderPayload idsByOrder)).get? orderId =
      idsByOrder.get? orderId := by
  have kept : ((idsByOrder.items.mergeSort fun first second =>
      decide (first.1.value ≤ second.1.value)).filter fun item => item.2 ≠ ∅) =
        idsByOrder.items.mergeSort fun first second =>
          decide (first.1.value ≤ second.1.value) := by
    rw [filter_eq_self]
    rintro ⟨owner, ids⟩ mem
    rw [mem_mergeSort] at mem
    simpa using nonempty owner ids ((idsByOrder.get?_eq_some_iff).mpr mem)
  have payload : (idsByOrderPayload idsByOrder).map (fun item => (item.1, item.2.toFinset)) =
      idsByOrder.items.mergeSort fun first second =>
        decide (first.1.value ≤ second.1.value) := by
    have same : ∀ item : OrderId × Finset String,
        (item.1, (item.2.sort (· ≤ ·)).toFinset) = item := by
      rintro ⟨owner, ids⟩
      rw [Finset.sort_toFinset]
    rw [idsByOrderPayload]
    simp only [kept, map_map, Function.comp_def, same, map_id']
  have perm := mergeSort_perm idsByOrder.items fun first second =>
    decide (first.1.value ≤ second.1.value)
  have distinct := (perm.map Prod.fst).nodup_iff.mpr idsByOrder.distinct
  rw [idsByOrderFromPayload, payload, get?_ofItems distinct]
  exact lookup_perm distinct perm orderId

theorem restore_snapshot_alike (formed : manager.WellFormed) :
    Alike (restore (snapshot manager).1) manager where
  orders := restored_orders formed
  machines := restored_machines formed
  brokerToOrder := ofItems_items_self manager.brokerToOrder
  fillIds := FillIdempotencyStore.restore_snapshot_seen manager.fillIds
  fillIdsByOrder := idsByOrder_roundTrip formed.fillIdsOwned
  seenReportIds := Finset.sort_toFinset manager.seenReportIds (· ≤ ·)
  reportIdsByOrder := idsByOrder_roundTrip formed.reportIdsOwned

theorem snapshot_alike (manager : OrderManager) : Alike (snapshot manager).2 manager where
  orders := rfl
  machines _ := rfl
  brokerToOrder := rfl
  fillIds := manager.fillIds.snapshot_seen
  fillIdsByOrder _ := rfl
  seenReportIds := rfl
  reportIdsByOrder _ := rfl

/-- After any operations, the manager restored from a snapshot and the manager that goes on
after taking it answer every later sequence of operations alike: the same orders, the same
fills and the same failures.  So does the manager that never took a snapshot. -/
theorem restored_manager_answers_alike (before later : List OrderManagerCommand) :
    let manager := final step init before
    responses step (restore (snapshot manager).1) later =
        responses step (snapshot manager).2 later ∧
      responses step (restore (snapshot manager).1) later =
        responses step manager later := by
  intro manager
  have formed : manager.WellFormed := Reachable.formed ⟨before, rfl⟩
  have restored := (alike_bisimulation.run (restore_snapshot_alike formed) later).1
  have continued := (alike_bisimulation.run (snapshot_alike manager) later).1
  exact ⟨restored.trans continued.symm, restored⟩

end Qts.OrderManager
