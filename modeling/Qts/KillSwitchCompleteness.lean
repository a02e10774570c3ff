import Qts.PartitionCancels

/-! # Completeness of the kill switch -/

namespace Qts

open List

namespace RuntimeSafetySession

open OrderManagerActor AccountPartition RaisingCalls

variable {session : RuntimeSafetySession} {refuted : Prop}

/-- The later session has other partitions and is otherwise the same. -/
def Framed (before after : RuntimeSafetySession) : Prop :=
  after = { before with partition := after.partition }

theorem Framed.trans {first second third : RuntimeSafetySession} (earlier : Framed first second)
    (later : Framed second third) : Framed first third := by
  unfold Framed at earlier later ⊢
  rw [later, earlier]

theorem framed_withPartition (session : RuntimeSafetySession) (account : Option AccountId)
    (partition : AccountPartition) : Framed session (session.withPartition account partition) :=
  rfl

theorem Framed.accounts {before after : RuntimeSafetySession} (framed : Framed before after) :
    after.accounts = before.accounts := by
  rw [framed]
  rfl

@[simp]
theorem withPartition_self (session : RuntimeSafetySession) (account : Option AccountId)
    (partition : AccountPartition) :
    (session.withPartition account partition).partition account = partition := by
  simp [withPartition]

theorem withPartition_of_ne (session : RuntimeSafetySession) {account other : Option AccountId}
    (partition : AccountPartition) (ne : other ≠ account) :
    (session.withPartition account partition).partition other = session.partition other := by
  simp [withPartition, ne]

@[simp]
theorem withPartition_withPartition (session : RuntimeSafetySession) (account : Option AccountId)
    (first second : AccountPartition) :
    (session.withPartition account first).withPartition account second =
      session.withPartition account second := by
  simp [withPartition]

variable {partition : AccountPartition} {account : Option AccountId} {Value : Type}
  {call : PartitionCall Value}

theorem onPartition_ok {value : Value}
    (ran : call.run (session.partition account) = .ok value partition) :
    (onPartition account call).run session =
      .ok value (session.withPartition account partition) := by
  simp only [onPartition, EStateM.run] at ran ⊢
  rw [ran]

theorem onPartition_error {failure : Failure}
    (ran : call.run (session.partition account) = .error failure partition) :
    (onPartition account call).run session =
      .error failure (session.withPartition account partition) := by
  simp only [onPartition, EStateM.run] at ran ⊢
  rw [ran]

theorem onPartition_ends {returned : Value → AccountPartition → Prop}
    (ends : Ends returned (fun _ _ => refuted) call (session.partition account)) :
    Ends (fun value after => ∃ partition, returned value partition ∧
        after = session.withPartition account partition)
      (fun _ _ => refuted) (onPartition account call) session := by
  unfold Ends at ends
  cases ran : call.run (session.partition account) with
  | ok value partition =>
    rw [ran] at ends
    exact .of_ok (onPartition_ok ran) ⟨partition, ends, rfl⟩
  | error failure partition =>
    rw [ran] at ends
    exact .of_error (onPartition_error ran) ends

theorem onPartition_bind_run {First Second : Type} (account : Option AccountId)
    (call : PartitionCall First) (next : First → PartitionCall Second)
    (session : RuntimeSafetySession) :
    (onPartition account (call >>= next)).run session =
      (onPartition account call >>= fun value => onPartition account (next value)).run session := by
  cases ran : call.run (session.partition account) with
  | error failure partition =>
    rw [onPartition_error (bind_run_error ran), bind_run_error (onPartition_error ran)]
  | ok value partition =>
    rw [bind_run_ok (onPartition_ok ran)]
    have self := withPartition_self session account partition
    cases later : (next value).run partition with
    | error failure last =>
      rw [onPartition_error ((bind_run_ok ran).trans later),
        onPartition_error (self.symm ▸ later), withPartition_withPartition]
    | ok answer last =>
      rw [onPartition_ok ((bind_run_ok ran).trans later), onPartition_ok (self.symm ▸ later),
        withPartition_withPartition]

theorem onPartition_bind {First Second : Type} (account : Option AccountId)
    (call : PartitionCall First) (next : First → PartitionCall Second) :
    onPartition account (call >>= next) =
      onPartition account call >>= fun value => onPartition account (next value) :=
  funext (onPartition_bind_run account call next)

theorem onPartition_pure (account : Option AccountId) (value : Value) :
    onPartition account (pure value) = pure value := by
  funext session
  have same : session.withPartition account (session.partition account) = session := by
    simp [withPartition]
  exact (onPartition_ok rfl).trans (congrArg (EStateM.Result.ok value) same)

def onPartitions (call : Option AccountId → PartitionCall Unit) :
    List (Option AccountId) → SafetyCall Unit
  | [] => return
  | account :: rest => do
    onPartition account (call account)
    onPartitions call rest

variable {accounts : List (Option AccountId)}

theorem onPartitions_ends {call : Option AccountId → PartitionCall Unit}
    {returned : Option AccountId → AccountPartition → Prop}
    (distinct : accounts.Nodup)
    (each : ∀ account ∈ accounts, Ends (fun _ after => returned account after)
      (fun _ _ => refuted) (call account) (session.partition account)) :
    Ends (fun _ after => Framed session after ∧
        (∀ account ∉ accounts, after.partition account = session.partition account) ∧
        ∀ account ∈ accounts, returned account (after.partition account))
      (fun _ _ => refuted) (onPartitions call accounts) session := by
  induction accounts generalizing session with
  | nil => exact Ends.pure ⟨rfl, fun _ _ => rfl, fun _ mem => absurd mem not_mem_nil⟩
  | cons account rest ih =>
    obtain ⟨apart, distinct⟩ := nodup_cons.mp distinct
    refine Ends.bind (onPartition_ends (each account mem_cons_self)) ?_
    rintro _ _ ⟨partition, holds, rfl⟩
    have later : ∀ other ∈ rest, Ends (fun _ after => returned other after) (fun _ _ => refuted)
        (call other) ((session.withPartition account partition).partition other) := by
      intro other mem
      have ne : other ≠ account := fun same => apart (same ▸ mem)
      rw [withPartition_of_ne session partition ne]
      exact each other (mem_cons_of_mem _ mem)
    refine (ih distinct later).mono ?_
    rintro _ after ⟨framed, others, all⟩
    refine ⟨(framed_withPartition session account partition).trans framed, ?_, ?_⟩
    · intro other absent
      obtain ⟨ne, notLater⟩ := not_or.mp (mem_cons.not.mp absent)
      rw [others other notLater, withPartition_of_ne session partition ne]
    · intro other mem
      rcases mem_cons.mp mem with rfl | earlier
      · rw [others other apart, withPartition_self]
        exact holds
      · exact all other earlier

theorem tellCancels_append (account : Option AccountId) (orderIds : List OrderId)
    (rest : List (OrderId × Option AccountId)) :
    tellCancels (orderIds.map (fun orderId => (orderId, account)) ++ rest) =
      (do
        onPartition account (tellAll orderIds)
        tellCancels rest) := by
  induction orderIds with
  | nil =>
    rw [tellAll, onPartition_pure]
    rfl
  | cons orderId orderIds ih =>
    simp only [map_cons, cons_append, tellCancels, tellAll, onPartition_bind, bind_assoc, ih]

theorem tellCancels_eq (orderIds : Option AccountId → List OrderId)
    (accounts : List (Option AccountId)) :
    tellCancels (accounts.flatMap fun account =>
        (orderIds account).map fun orderId => (orderId, account)) =
      onPartitions (fun account => tellAll (orderIds account)) accounts := by
  induction accounts with
  | nil => rfl
  | cons account accounts ih => rw [flatMap_cons, tellCancels_append, ih, onPartitions]

theorem processPartitions_eq
    (answers : Option AccountId → ExecutionRequest → Except Failure ExecutionReport)
    (caps : PythonText.UpperCase) (accounts : List (Option AccountId)) :
    processPartitions answers caps accounts =
      onPartitions (fun account => processCancels (answers account) caps) accounts := by
  induction accounts with
  | nil => rfl
  | cons account accounts ih => rw [processPartitions, onPartitions, ih]

/-- An order manager asked for its snapshot may have cached the listing of its fill ids. -/
def Relisted (before after : AccountPartition) : Prop :=
  ∃ fillIds : FillIdempotencyStore, fillIds.seen = before.orderManager.manager.fillIds.seen ∧
    after = { before with
      orderManager := { before.orderManager with
        manager := { before.orderManager.manager with fillIds } } }

theorem Relisted.refl (partition : AccountPartition) : Relisted partition partition :=
  ⟨partition.orderManager.manager.fillIds, rfl, rfl⟩

theorem Relisted.trans {first second third : AccountPartition} (earlier : Relisted first second)
    (later : Relisted second third) : Relisted first third := by
  obtain ⟨_, seen, rfl⟩ := earlier
  obtain ⟨fillIds, same, rfl⟩ := later
  exact ⟨fillIds, same.trans seen, rfl⟩

def activeOrdersOf (partition : AccountPartition) : List Order :=
  activeOrders partition.orderManager.manager.orders.values

/-- A drain of an empty mailbox does nothing. -/
theorem orderManagerProcessAll_idle (idle : partition.orderManagerMailbox = []) :
    Ends (fun _ after => after = partition) (fun _ _ => refuted) orderManagerProcessAll
      partition := by
  refine Ends.get ?_
  rw [idle]
  exact Ends.pure rfl

theorem askOrderManagerSnapshot_ends (idle : partition.orderManagerMailbox = []) :
    Ends (fun snapshot after => activeOrders snapshot.orders = activeOrdersOf partition ∧
        Relisted partition after)
      (fun _ _ => refuted) askOrderManagerSnapshot partition := by
  refine (orderManagerProcessAll_idle idle).bind ?_
  rintro _ _ rfl
  exact Ends.get ⟨rfl, _, FillIdempotencyStore.snapshot_seen _, rfl⟩

def allActive (session : RuntimeSafetySession) (accounts : List (Option AccountId)) :
    List (OrderId × Option AccountId) :=
  accounts.flatMap fun account =>
    (activeOrdersOf (session.partition account)).map fun order => (order.orderId, account)

/-- Asking for snapshots only relists. -/
structure RelistedSession (before after : RuntimeSafetySession) : Prop where
  framed : Framed before after
  partition : ∀ account, Relisted (before.partition account) (after.partition account)

theorem RelistedSession.trans {first second third : RuntimeSafetySession}
    (earlier : RelistedSession first second) (later : RelistedSession second third) :
    RelistedSession first third where
  framed := earlier.framed.trans later.framed
  partition account := (earlier.partition account).trans (later.partition account)

theorem Relisted.activeOrdersOf {before after : AccountPartition}
    (relisted : Relisted before after) : activeOrdersOf after = activeOrdersOf before := by
  obtain ⟨_, _, rfl⟩ := relisted
  rfl

theorem relistedSession_withPartition (relisted : Relisted (session.partition account) partition) :
    RelistedSession session (session.withPartition account partition) where
  framed := framed_withPartition session account partition
  partition other := by
    by_cases same : other = account
    · rw [same, withPartition_self]
      exact relisted
    · rw [withPartition_of_ne session partition same]
      exact .refl _

theorem RelistedSession.allActive {before after : RuntimeSafetySession}
    (relisted : RelistedSession before after) (accounts : List (Option AccountId)) :
    allActive after accounts = allActive before accounts := by
  unfold RuntimeSafetySession.allActive
  refine flatMap_congr fun account _ => ?_
  rw [(relisted.partition account).activeOrdersOf]

theorem activeOrdersByPartition_ends
    (idle : ∀ account ∈ accounts, (session.partition account).orderManagerMailbox = []) :
    Ends (fun active after => active = session.allActive accounts ∧ RelistedSession session after)
      (fun _ _ => refuted) (activeOrdersByPartition accounts) session := by
  induction accounts generalizing session with
  | nil => exact Ends.pure ⟨rfl, rfl, fun _ => .refl _⟩
  | cons account accounts ih =>
    refine Ends.bind (onPartition_ends (askOrderManagerSnapshot_ends
      (idle account mem_cons_self))) ?_
    rintro snapshot _ ⟨partition, ⟨listed, relisted⟩, rfl⟩
    have first := relistedSession_withPartition relisted
    have still : ∀ other ∈ accounts,
        ((session.withPartition account partition).partition other).orderManagerMailbox = [] := by
      intro other mem
      obtain ⟨_, _, after⟩ := first.partition other
      rw [after]
      exact idle other (mem_cons_of_mem _ mem)
    refine Ends.bind (ih still) ?_
    rintro later after ⟨rfl, relistedLater⟩
    refine Ends.pure ⟨?_, first.trans relistedLater⟩
    rw [listed, first.allActive]
    rfl

theorem exists_targets {actor : OrderManagerActor} {orders : List Order}
    (routable : ∀ order ∈ orders, ∃ metadata, CancelTarget.Of actor (order, metadata)) :
    ∃ targets : List CancelTarget, targets.map Prod.fst = orders ∧
      ∀ target ∈ targets, target.Of actor := by
  induction orders with
  | nil => exact ⟨[], rfl, fun _ mem => absurd mem not_mem_nil⟩
  | cons order orders ih =>
    obtain ⟨metadata, of⟩ := routable order mem_cons_self
    obtain ⟨targets, rfl, all⟩ := ih fun other mem =>
      routable other (mem_cons_of_mem _ mem)
    refine ⟨(order, metadata) :: targets, rfl, fun target mem => ?_⟩
    rcases mem_cons.mp mem with rfl | later
    · exact of
    · exact all target later

theorem mem_activeOrdersOf {order : Order} :
    order ∈ activeOrdersOf partition ↔
      order ∈ partition.orderManager.manager.orders.values ∧
        order.state ∉ terminalOrderStates := by
  simp [activeOrdersOf, activeOrders]

theorem values_tracked {manager : OrderManager} (formed : manager.WellFormed) {order : Order}
    (mem : order ∈ manager.orders.values) : manager.orders.get? order.orderId = some order := by
  obtain ⟨⟨orderId, found⟩, stored, rfl⟩ := mem_map.mp mem
  have tracked := manager.orders.get?_eq_some_iff.mpr stored
  rw [formed.key orderId found tracked]
  exact tracked

theorem values_distinct {manager : OrderManager} (formed : manager.WellFormed) :
    (manager.orders.values.map fun order => order.orderId).Nodup := by
  have keys : manager.orders.values.map (fun order => order.orderId) =
      manager.orders.items.map Prod.fst := by
    rw [← OrderManager.ordersByKey_items formed, map_map]
    rfl
  rw [keys]
  exact manager.orders.distinct

theorem activeOrders_targets (routed : WellRouted partition.orderManager) :
    ∃ targets, targets.map Prod.fst = activeOrdersOf partition ∧ Targets partition targets := by
  have routable : ∀ order ∈ activeOrdersOf partition, ∃ metadata,
      CancelTarget.Of partition.orderManager (order, metadata) := by
    intro order mem
    obtain ⟨among, live⟩ := mem_activeOrdersOf.mp mem
    have tracked := values_tracked routed.formed among
    obtain ⟨⟨metadata, route, onRoute⟩, dispatched⟩ := routed.each order.orderId order tracked
    exact ⟨metadata, tracked, route, onRoute, dispatched, live⟩
  obtain ⟨targets, orders, of⟩ := exists_targets routable
  refine ⟨targets, orders, routed.formed, of, ?_⟩
  have ids : targets.map (fun target => target.1.orderId) =
      (activeOrdersOf partition).map fun order => order.orderId := by
    rw [← orders, map_map]
    rfl
  rw [Distinct, ids]
  exact (values_distinct routed.formed).sublist (filter_sublist.map _)

theorem askOrder_ends {orderId : OrderId} (idle : partition.orderManagerMailbox = [])
    (tracked : (partition.orderManager.manager.orders.get? orderId).isSome) :
    Ends (fun _ after => after = partition) (fun _ _ => refuted) (askOrder orderId) partition := by
  refine (orderManagerProcessAll_idle idle).bind ?_
  rintro _ _ rfl
  obtain ⟨order, found⟩ := Option.isSome_iff_exists.mp tracked
  refine Ends.get ?_
  rw [found]
  exact Ends.pure rfl

theorem withPartition_partition (session : RuntimeSafetySession) (account : Option AccountId) :
    session.withPartition account (session.partition account) = session := by
  simp [withPartition]

theorem cancelledOrderIds_ends {active : List (OrderId × Option AccountId)}
    (known : ∀ orderId account, (orderId, account) ∈ active →
      (session.partition account).orderManagerMailbox = [] ∧
        ((session.partition account).orderManager.manager.orders.get? orderId).isSome) :
    Ends (fun _ after => after = session) (fun _ _ => refuted) (cancelledOrderIds active)
      session := by
  induction active with
  | nil => exact Ends.pure rfl
  | cons item active ih =>
    obtain ⟨orderId, account⟩ := item
    obtain ⟨idle, tracked⟩ := known orderId account mem_cons_self
    refine Ends.bind (onPartition_ends (askOrder_ends idle tracked)) ?_
    rintro order _ ⟨_, rfl, rfl⟩
    rw [withPartition_partition]
    have rest := ih fun other owner mem => known other owner (mem_cons_of_mem _ mem)
    refine rest.bind ?_
    rintro later _ rfl
    exact Ends.pure rfl

/-- An account asked for its snapshot changes nothing else of the partition. -/
def Snapshotted (before after : AccountPartition) : Prop :=
  ∃ account, after = { before with account }

theorem Snapshotted.refl (partition : AccountPartition) : Snapshotted partition partition :=
  ⟨partition.account, rfl⟩

theorem Snapshotted.trans {first second third : AccountPartition}
    (earlier : Snapshotted first second) (later : Snapshotted second third) :
    Snapshotted first third := by
  obtain ⟨_, rfl⟩ := earlier
  obtain ⟨account, rfl⟩ := later
  exact ⟨account, rfl⟩

variable {caps : PythonText.UpperCase}

theorem askAccountSnapshot_ends
    (applied : partition.applied = partition.orderManager.accountRef.length) :
    Ends (fun _ after => Snapshotted partition after) (fun _ _ => refuted)
      (askAccountSnapshot caps) partition := by
  have drained : Ends (fun _ after => after = partition) (fun _ _ => refuted)
      (accountProcessAll caps) partition := by
    refine Ends.get ?_
    rw [applied, drop_length]
    exact Ends.pure rfl
  refine drained.bind ?_
  rintro _ _ rfl
  exact Ends.get ⟨_, rfl⟩

/-- Every partition of the later session is that of the earlier one but for its account actor. -/
def SnapshottedSession (before after : RuntimeSafetySession) : Prop :=
  ∀ account, Snapshotted (before.partition account) (after.partition account)

theorem snapshottedSession_withPartition
    (snapshotted : Snapshotted (session.partition account) partition) :
    SnapshottedSession session (session.withPartition account partition) := by
  intro other
  by_cases same : other = account
  · rw [same, withPartition_self]
    exact snapshotted
  · rw [withPartition_of_ne session partition same]
    exact .refl _

theorem SnapshottedSession.applied {before after : RuntimeSafetySession}
    (snapshotted : SnapshottedSession before after) {account : Option AccountId}
    (applied : (before.partition account).applied =
      (before.partition account).orderManager.accountRef.length) :
    (after.partition account).applied =
      (after.partition account).orderManager.accountRef.length := by
  obtain ⟨_, same⟩ := snapshotted account
  rw [same]
  exact applied

theorem recordAccountSnapshots_ends
    (applied : ∀ account ∈ accounts, (session.partition account).applied =
      (session.partition account).orderManager.accountRef.length) :
    Ends (fun _ after => SnapshottedSession session after) (fun _ _ => refuted)
      (recordAccountSnapshots caps accounts) session := by
  induction accounts generalizing session with
  | nil => exact Ends.pure fun _ => .refl _
  | cons account accounts ih =>
    refine Ends.get ?_
    cases session.snapshotActorId account with
    | none => exact ih fun other mem => applied other (mem_cons_of_mem _ mem)
    | some actorId =>
      refine Ends.bind (onPartition_ends
        (askAccountSnapshot_ends (applied account mem_cons_self))) ?_
      rintro snapshot _ ⟨partition, snapshotted, rfl⟩
      refine ends_modify_bind ?_
      have first : SnapshottedSession session
          { session.withPartition account partition with
            savedSnapshots := session.savedSnapshots ++ [(actorId, snapshot)] } :=
        snapshottedSession_withPartition snapshotted
      have still := fun other (mem : other ∈ accounts) =>
        first.applied (applied other (mem_cons_of_mem _ mem))
      refine Ends.bind (ih still) ?_
      intro later after rest
      exact Ends.pure fun other => (first other).trans (rest other)

end RuntimeSafetySession

end Qts
