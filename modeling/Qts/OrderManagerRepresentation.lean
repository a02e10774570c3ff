import Qts.InverseIndex
import Qts.OrderManagerEffects
import Qts.OrderManagerSnapshot

/-! # The order manager's stores represent one set of orders -/

namespace Qts

open Dict StepRuns Option Finset

structure OwnedWithin {Owner Id : Type} (ids : Owner → Finset Id) (seen : Finset Id) : Prop where
  within : ∀ owner, ids owner ⊆ seen
  apart : ∀ first second, first ≠ second → Disjoint (ids first) (ids second)

section OwnedWithin

variable {Owner Id : Type} [DecidableEq Owner] [DecidableEq Id] {ids : Owner → Finset Id}
  {seen : Finset Id}

omit [DecidableEq Owner] [DecidableEq Id] in
theorem OwnedWithin.unowned (owned : OwnedWithin ids seen) {id : Id} (fresh : id ∉ seen)
    (owner : Owner) : id ∉ ids owner :=
  fun mem => fresh (owned.within owner mem)

theorem OwnedWithin.add (owned : OwnedWithin ids seen) {id : Id} (fresh : id ∉ seen)
    (owner : Owner) :
    OwnedWithin (fun other => if other = owner then insert id (ids owner) else ids other)
      (insert id seen) where
  within other := by
    split
    · exact insert_subset_insert id (owned.within owner)
    · exact (owned.within other).trans (subset_insert id seen)
  apart first second ne := by
    have unowned := owned.unowned fresh
    split
    · next same =>
      subst same
      rw [if_neg (Ne.symm ne), disjoint_insert_left]
      exact ⟨unowned second, owned.apart first second ne⟩
    · split
      · next same =>
        subst same
        rw [disjoint_insert_right]
        exact ⟨unowned first, owned.apart first second ne⟩
      · exact owned.apart first second ne

theorem OwnedWithin.release (owned : OwnedWithin ids seen) (owner : Owner) :
    OwnedWithin (fun other => if other = owner then ∅ else ids other) (seen \ ids owner) where
  within other := by
    split
    · exact empty_subset _
    · next ne =>
      exact subset_sdiff.mpr ⟨owned.within other, owned.apart other owner ne⟩
  apart first second ne := by
    split
    · exact disjoint_empty_left _
    · split
      · exact disjoint_empty_right _
      · exact owned.apart first second ne

end OwnedWithin

namespace OrderManager

open InverseIndex

def ownedIds (idsByOrder : Dict OrderId (Finset String)) (orderId : OrderId) :
    Finset String :=
  (idsByOrder.get? orderId).getD ∅

/-- The agreement of the stores. -/
structure Representation (manager : OrderManager) : Prop where
  machine : ∀ orderId order, manager.orders.get? orderId = some order →
    manager.machines.get? orderId = some ⟨order.state⟩
  mapped : ∀ brokerOrderId orderId, manager.brokerToOrder.get? brokerOrderId = some orderId →
    ∃ order, manager.orders.get? orderId = some order ∧ order.brokerOrderId = some brokerOrderId
  unshared : ∀ first second firstOrder secondOrder brokerOrderId,
    manager.orders.get? first = some firstOrder → manager.orders.get? second = some secondOrder →
      firstOrder.brokerOrderId = some brokerOrderId →
        secondOrder.brokerOrderId = some brokerOrderId → first = second
  fillIds : OwnedWithin (ownedIds manager.fillIdsByOrder) manager.fillIds.seen
  reportIds : OwnedWithin (ownedIds manager.reportIdsByOrder) manager.seenReportIds

/-- The invariant behind the agreement: broker order ids are mapped exactly to the orders that
have them, and an order that has not been sent has none. -/
structure Sound (manager : OrderManager) : Prop where
  formed : manager.WellFormed
  broker : Inverse manager.orders.get? (·.brokerOrderId) manager.brokerToOrder.get?
  unsent : ∀ orderId order, manager.orders.get? orderId = some order →
    order.state = .created → order.brokerOrderId = none
  fillIds : OwnedWithin (ownedIds manager.fillIdsByOrder) manager.fillIds.seen
  reportIds : OwnedWithin (ownedIds manager.reportIdsByOrder) manager.seenReportIds

variable {manager : OrderManager}

theorem Sound.representation (sound : manager.Sound) : manager.Representation where
  machine _ _ tracked := sound.formed.machine_tracked tracked
  mapped brokerOrderId orderId leads := (sound.broker brokerOrderId orderId).mp leads
  unshared first second firstOrder secondOrder brokerOrderId trackedFirst trackedSecond hasFirst
      hasSecond := by
    have leadsFirst := (sound.broker brokerOrderId first).mpr ⟨firstOrder, trackedFirst, hasFirst⟩
    have leadsSecond :=
      (sound.broker brokerOrderId second).mpr ⟨secondOrder, trackedSecond, hasSecond⟩
    exact Option.mem_unique leadsFirst leadsSecond
  fillIds := sound.fillIds
  reportIds := sound.reportIds

theorem init_sound : init.Sound where
  formed := init_wellFormed
  broker := Inverse.empty
  unsent _ _ tracked := by simp [init] at tracked
  fillIds := ⟨fun _ => empty_subset _, fun _ _ _ => disjoint_empty_left _⟩
  reportIds := ⟨fun _ => empty_subset _, fun _ _ _ => disjoint_empty_left _⟩

theorem Alike.sound {first second : OrderManager} (alike : Alike first second)
    (sound : second.Sound) : first.Sound where
  formed := {
    machine := fun orderId => by
      rw [alike.machines, alike.orders, sound.formed.machine]
    key := by
      rw [alike.orders]
      exact sound.formed.key
    fillIdsOwned := fun orderId => by
      rw [alike.fillIdsByOrder]
      exact sound.formed.fillIdsOwned orderId
    reportIdsOwned := fun orderId => by
      rw [alike.reportIdsByOrder]
      exact sound.formed.reportIdsOwned orderId }
  broker := by
    rw [alike.orders, alike.brokerToOrder]
    exact sound.broker
  unsent := by
    rw [alike.orders]
    exact sound.unsent
  fillIds := by
    have same : ownedIds first.fillIdsByOrder = ownedIds second.fillIdsByOrder :=
      funext fun orderId => by rw [ownedIds, ownedIds, alike.fillIdsByOrder]
    rw [same, alike.fillIds]
    exact sound.fillIds
  reportIds := by
    have same : ownedIds first.reportIdsByOrder = ownedIds second.reportIdsByOrder :=
      funext fun orderId => by rw [ownedIds, ownedIds, alike.reportIdsByOrder]
    rw [same, alike.seenReportIds]
    exact sound.reportIds

theorem nextState_ne_created {state next : OrderState} {event : OrderEvent}
    (accepted : nextState state event = some next) : next ≠ .created := by
  rintro rfl
  cases state <;> cases event <;>
    simp_all [nextState, duplicateTerminalEvents, transitions]

theorem moved_orders (orderId : OrderId) (order : Order) :
    (manager.moved orderId order).orders.get? =
      fun other => if other = orderId then some order else manager.orders.get? other :=
  funext fun other => get?_set manager.orders orderId other order

variable {order : Order} {orderId : OrderId}

theorem Sound.moved (sound : manager.Sound) (key : order.orderId = orderId)
    (same : (manager.orders.get? orderId).bind (·.brokerOrderId) = order.brokerOrderId)
    (unsent : order.state = .created → order.brokerOrderId = none) :
    (manager.moved orderId order).Sound where
  formed := sound.formed.moved key
  broker := by
    rw [moved_orders]
    exact sound.broker.keep same
  unsent other found tracked := by
    simp only [moved_orders] at tracked
    split at tracked
    · cases tracked
      exact unsent
    · exact sound.unsent other found tracked
  fillIds := sound.fillIds
  reportIds := sound.reportIds

theorem Sound.advanced (sound : manager.Sound) (tracked : manager.orders.get? orderId = some order)
    {event : OrderEvent} {state : OrderState} (next : nextState order.state event = some state) :
    (manager.moved orderId (advancedOrder order state none)).Sound := by
  refine sound.moved (sound.formed.key orderId order tracked) ?_ ?_
  · rw [tracked]
    rfl
  · exact fun created => absurd created (nextState_ne_created next)

theorem Sound.replaced (sound : manager.Sound) {intent : ReplaceIntent}
    (tracked : manager.orders.get? intent.orderId = some order) {state : OrderState}
    (next : nextState order.state .replaceRequested = some state) :
    (manager.moved intent.orderId (replacedOrder order intent state)).Sound := by
  refine sound.moved (sound.formed.key intent.orderId order tracked) ?_ ?_
  · rw [tracked]
    rfl
  · exact fun created => absurd created (nextState_ne_created next)

theorem Sound.sent (sound : manager.Sound) {brokerOrderId : String}
    (tracked : manager.orders.get? orderId = some order) (created : order.state = .created)
    (unused : manager.brokerToOrder.get? brokerOrderId = none) :
    ((manager.moved orderId (advancedOrder order .sent (some brokerOrderId))).withBrokerOrder
      brokerOrderId orderId).Sound where
  formed :=
    (sound.formed.advanced tracked .sent (some brokerOrderId)).withBrokerOrder
      brokerOrderId orderId
  broker := by
    have free : ∀ id other,
        (advancedOrder order .sent (some brokerOrderId)).brokerOrderId = some id →
          manager.brokerToOrder.get? id = some other → other = orderId := by
      rintro id other ⟨⟩ leads
      rw [unused] at leads
      cases leads
    have fieldless : (manager.orders.get? orderId).bind (·.brokerOrderId) = none := by
      rw [tracked]
      exact sound.unsent orderId order tracked created
    have written := sound.broker.write free
    simp only [fieldless, reduceCtorEq, if_false] at written
    have index : (manager.brokerToOrder.set brokerOrderId orderId).get? = fun id =>
        if (advancedOrder order .sent (some brokerOrderId)).brokerOrderId = some id then
          some orderId
        else manager.brokerToOrder.get? id := by
      funext id
      rw [get?_set]
      change _ = if some brokerOrderId = some id then some orderId else _
      simp only [Option.some.injEq, eq_comm]
    rw [← index] at written
    change Inverse (manager.moved orderId _).orders.get? _ _
    rw [moved_orders]
    exact written
  unsent other found stored := by
    change (manager.moved orderId _).orders.get? other = some found at stored
    simp only [moved_orders] at stored
    split at stored
    · cases stored
      rintro ⟨⟩
    · exact sound.unsent other found stored
  fillIds := sound.fillIds
  reportIds := sound.reportIds

theorem ownedIds_addOwnedId (idsByOrder : Dict OrderId (Finset String)) (orderId : OrderId)
    (id : String) :
    ownedIds (addOwnedId idsByOrder orderId id) = fun other =>
      if other = orderId then insert id (ownedIds idsByOrder orderId)
      else ownedIds idsByOrder other := by
  funext other
  rw [ownedIds, addOwnedId, get?_set]
  split <;> rfl

theorem ownedIds_erase (idsByOrder : Dict OrderId (Finset String)) (orderId : OrderId) :
    ownedIds (idsByOrder.erase orderId) = fun other =>
      if other = orderId then ∅ else ownedIds idsByOrder other := by
  funext other
  rw [ownedIds, get?_erase]
  split <;> rfl

theorem Sound.withReport (sound : manager.Sound) (orderId : OrderId) {reportId : String}
    (unseen : reportId ∉ manager.seenReportIds) : (manager.withReport orderId reportId).Sound where
  formed := sound.formed.withReport orderId reportId
  broker := sound.broker
  unsent := sound.unsent
  fillIds := sound.fillIds
  reportIds := by
    have added := sound.reportIds.add unseen orderId
    rw [← ownedIds_addOwnedId] at added
    exact added

theorem Sound.withFill (sound : manager.Sound) (orderId : OrderId) {fillId : String}
    (fresh : fillId ∉ manager.fillIds.seen) : (manager.withFill orderId fillId).Sound where
  formed := sound.formed.withFill orderId fillId
  broker := sound.broker
  unsent := sound.unsent
  fillIds := by
    have added := sound.fillIds.add fresh orderId
    rw [← ownedIds_addOwnedId] at added
    exact added
  reportIds := sound.reportIds

theorem Sound.discarded (sound : manager.Sound) (tracked : manager.orders.get? orderId = some order)
    :
    (manager.discarded orderId order).Sound where
  formed := sound.formed.discarded orderId order
  broker := by
    have removed := sound.broker.remove orderId
    have orders : (manager.discarded orderId order).orders.get? = fun other =>
        if other = orderId then none else manager.orders.get? other :=
      funext fun other => get?_erase manager.orders orderId other
    have index : (manager.discarded orderId order).brokerToOrder.get? = fun id =>
        if (manager.orders.get? orderId).bind (·.brokerOrderId) = some id then none
        else manager.brokerToOrder.get? id := by
      funext id
      simp only [OrderManager.discarded, tracked, bind_some]
      cases order.brokerOrderId with
      | none => simp
      | some brokerOrderId =>
        simp only [get?_erase, Option.some.injEq, eq_comm]
    rw [orders, index]
    exact removed
  unsent other found kept := by
    simp only [OrderManager.discarded, get?_erase] at kept
    split at kept
    · cases kept
    · exact sound.unsent other found kept
  fillIds := by
    have released := sound.fillIds.release orderId
    rw [← ownedIds_erase, ownedIds, ← FillIdempotencyStore.discardAll_seen] at released
    exact released
  reportIds := by
    have released := sound.reportIds.release orderId
    rw [← ownedIds_erase] at released
    exact released

/-- A command that takes ids for an order takes none that is in use: it creates no order over one
that has a broker order id, and sends no order under a broker order id that is mapped. -/
def IdsUnused (manager : OrderManager) : OrderManagerCommand → Prop
  | .createOrder intent riskDecision => riskDecision.approved = true →
      (manager.orders.get? intent.orderId).bind (·.brokerOrderId) = none
  | .markSent orderId brokerOrderId => PythonText.isBlank brokerOrderId = false →
      (manager.orders.get? orderId).map (·.state) = some .created →
        manager.brokerToOrder.get? brokerOrderId = none
  | _ => True

instance (manager : OrderManager) : DecidablePred manager.IdsUnused
  | .createOrder _ _ => inferInstanceAs (Decidable (_ → _))
  | .markSent _ _ => inferInstanceAs (Decidable (_ → _ → _))
  | .requestCancel _ => isTrue trivial
  | .requestReplace _ _ => isTrue trivial
  | .processReport _ => isTrue trivial
  | .discardTerminalOrder _ => isTrue trivial

theorem Sound.step (sound : manager.Sound) {command : OrderManagerCommand}
    (unused : manager.IdsUnused command) : (step manager command).2.Sound := by
  have effect := step_effect sound.formed command
  generalize (OrderManager.step manager command).1 = answer at effect
  generalize (OrderManager.step manager command).2 = after at effect ⊢
  cases effect with
  | refused command error => exact sound
  | created intent riskDecision approved =>
    exact sound.moved rfl (unused approved) fun _ => rfl
  | sent orderId brokerOrderId nonblank order tracked created =>
    exact sound.sent tracked created (unused nonblank (by rw [tracked, map_some, created]))
  | cancelRequested intent order state tracked next => exact sound.advanced tracked next
  | replaceRequested intent riskDecision order state tracked next =>
    exact sound.replaced tracked next
  | duplicateReport report order => exact sound
  | reported report orderId order state mapped tracked unseen next answer unfilled =>
    exact (sound.advanced tracked next).withReport orderId unseen
  | filled report orderId order state mapped tracked unseen next fillId price fresh =>
    exact ((sound.advanced tracked next).withReport orderId unseen).withFill order.orderId fresh
  | discarded orderId order tracked terminal => exact sound.discarded tracked

theorem Sound.recreated (sound : manager.Sound) {intent : OrderIntent}
    (tracked : manager.orders.get? intent.orderId = some order) (sent : order.brokerOrderId ≠ none)
    : ¬ (manager.moved intent.orderId (createdOrder intent)).Representation := by
  intro representation
  obtain ⟨brokerOrderId, has⟩ := ne_none_iff_exists'.mp sent
  have leads := (sound.broker brokerOrderId intent.orderId).mpr ⟨order, tracked, has⟩
  obtain ⟨found, stored, hasFound⟩ := representation.mapped brokerOrderId intent.orderId leads
  simp only [moved_orders, if_true, Option.some.injEq] at stored
  subst stored
  cases hasFound

theorem Sound.resent (sound : manager.Sound) {brokerOrderId : String}
    (tracked : manager.orders.get? orderId = some order) (created : order.state = .created)
    (used : manager.brokerToOrder.get? brokerOrderId ≠ none) :
    ¬ ((manager.moved orderId (advancedOrder order .sent (some brokerOrderId))).withBrokerOrder
        brokerOrderId orderId).Representation := by
  intro representation
  obtain ⟨other, leads⟩ := ne_none_iff_exists'.mp used
  obtain ⟨holder, held, has⟩ := (sound.broker brokerOrderId other).mp leads
  have ne : other ≠ orderId := by
    rintro rfl
    obtain rfl := Option.mem_unique held tracked
    cases (sound.unsent other holder held created).symm.trans has
  have stored : (manager.moved orderId
      (advancedOrder order .sent (some brokerOrderId))).orders.get? orderId =
        some (advancedOrder order .sent (some brokerOrderId)) := by
    simp only [moved_orders, if_true]
  have kept : (manager.moved orderId
      (advancedOrder order .sent (some brokerOrderId))).orders.get? other = some holder := by
    simp only [moved_orders, ne, if_false, held]
  exact ne (representation.unshared other orderId holder _ brokerOrderId kept stored has rfl)

/-- A command that takes an id in use breaks the agreement at once. -/
theorem Sound.broken (sound : manager.Sound) {command : OrderManagerCommand}
    (reused : ¬ manager.IdsUnused command) :
    ¬ (OrderManager.step manager command).2.Representation := by
  cases command with
  | createOrder intent riskDecision =>
    simp only [IdsUnused, not_forall, bind_eq_none_iff] at reused
    obtain ⟨approved, order, tracked, sent⟩ := reused
    simp only [OrderManager.step, RaisingCalls.answer_state, createOrder_approved approved]
    exact sound.recreated tracked sent
  | markSent orderId brokerOrderId =>
    simp only [IdsUnused, not_forall, map_eq_some_iff] at reused
    obtain ⟨nonblank, ⟨order, tracked, created⟩, used⟩ := reused
    simp only [OrderManager.step, RaisingCalls.answer_state]
    have outcome := markSent_outcome sound.formed orderId brokerOrderId
    generalize (markSent orderId brokerOrderId).run manager = result at outcome ⊢
    cases outcome with
    | blank empty => simp [nonblank] at empty
    | notAdvanced nonblank failure outcome =>
      cases outcome with
      | untracked missing => cases missing.symm.trans tracked
      | refused found trackedFound refusal =>
        obtain rfl := Option.mem_unique trackedFound tracked
        rw [created] at refusal
        cases refusal
    | sent nonblank found trackedFound createdFound =>
      obtain rfl := Option.mem_unique trackedFound tracked
      exact sound.resent tracked created used
  | _ => exact absurd trivial reused

end OrderManager

structure RestartableManager where
  manager : OrderManager
  taken : List OrderStateSnapshot

inductive RestartCommand
  | operation (command : OrderManagerCommand)
  | snapshot
  | restore (index : Nat)

inductive RestartAnswer
  | answered (answer : OrderManagerAnswer)
  | taken (snapshot : OrderStateSnapshot)
  | restored
  | notTaken

namespace RestartableManager

open OrderManager

def init : RestartableManager where
  manager := .init
  taken := []

def step : Step RestartableManager RestartCommand RestartAnswer :=
  fun state command =>
    match command with
    | .operation command =>
        let (answer, manager) := OrderManager.step state.manager command
        (.answered answer, { state with manager })
    | .snapshot =>
        let (snapshot, manager) := state.manager.snapshot
        (.taken snapshot, { manager, taken := snapshot :: state.taken })
    | .restore index =>
        match state.taken[index]? with
        | some snapshot => (.restored, { state with manager := restore snapshot })
        | none => (.notTaken, state)

/-- No operation takes an id in use. -/
def IdsUnused (state : RestartableManager) : RestartCommand → Prop
  | .operation command => state.manager.IdsUnused command
  | _ => True

structure Sound (state : RestartableManager) : Prop where
  manager : state.manager.Sound
  taken : ∀ snapshot ∈ state.taken, (restore snapshot).Sound

theorem init_sound : init.Sound where
  manager := OrderManager.init_sound
  taken _ mem := nomatch mem

variable {state : RestartableManager}

theorem Sound.step (sound : state.Sound) {command : RestartCommand}
    (unused : state.IdsUnused command) : (step state command).2.Sound := by
  cases command with
  | operation command => exact ⟨sound.manager.step unused, sound.taken⟩
  | snapshot =>
    refine ⟨(snapshot_alike state.manager).sound sound.manager, ?_⟩
    intro snapshot mem
    cases mem with
    | head => exact (restore_snapshot_alike sound.manager.formed).sound sound.manager
    | tail _ earlier => exact sound.taken snapshot earlier
  | restore index =>
    simp only [RestartableManager.step]
    split
    · next snapshot found =>
      exact ⟨sound.taken snapshot (List.mem_of_getElem? found), sound.taken⟩
    · exact sound

theorem Sound.broken (sound : state.Sound) {command : RestartCommand}
    (reused : ¬ state.IdsUnused command) :
    ¬ (RestartableManager.step state command).2.manager.Representation := by
  cases command with
  | operation command => exact sound.manager.broken reused
  | _ => exact absurd trivial reused

/-- In every sequence of operations, snapshots and restarts, successful or raising, the stores of
the manager agree all along exactly when no operation takes an id that is in use. -/
theorem representation_iff_idsUnused (commands : List RestartCommand) :
    (∀ before, before <+: commands → (final step init before).manager.Representation) ↔
      EveryStep step IdsUnused init commands :=
  everyPrefix_iff_everyStep (fun _ sound => sound.manager.representation)
    (fun _ _ sound unused => sound.step unused) (fun _ _ sound reused => sound.broken reused)
    init_sound commands

def recreatedOrder : List RestartCommand :=
  (sentUnitOrder ++ [OrderManagerCommand.createOrder unitOrder { status := .approved }]).map
    RestartCommand.operation

/-- The broker order id stays mapped to the order, which no longer has it. -/
theorem recreatedOrder_disagrees :
    ¬ ∀ commands, (final step init commands).manager.Representation := by
  intro agrees
  obtain ⟨order, tracked, has⟩ :=
    (agrees recreatedOrder).mapped "broker-1" unitOrder.orderId (by decide +kernel)
  have fresh : (final step init recreatedOrder).manager.orders.get? unitOrder.orderId =
      some (createdOrder unitOrder) := by decide +kernel
  obtain rfl := Option.mem_unique tracked fresh
  cases has

end RestartableManager

end Qts
