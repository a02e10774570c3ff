import Qts.OrderManagerRepresentation

/-! # Compaction -/

namespace Qts.OrderManager

open StepRuns

def delivers (orderId : OrderId) (report : ExecutionReport) (manager : OrderManager) :
    OrderManagerCommand → Bool
  | .processReport other =>
    decide (other = report) &&
      decide (manager.brokerToOrder.get? report.brokerOrderId = some orderId)
  | _ => false

def discards (orderId : OrderId) (manager : OrderManager) (command : OrderManagerCommand) : Bool :=
  match command with
  | .discardTerminalOrder other =>
    decide (other = orderId) &&
      decide ((step manager (.discardTerminalOrder other)).1 = .discarded)
  | _ => false

/-- A report was delivered for an order in a run, and the order was not discarded since. -/
def DeliveredFor (orderId : OrderId) (report : ExecutionReport)
    (commands : List OrderManagerCommand) : Prop :=
  outstanding step (delivers orderId report) (discards orderId) false init commands = true

/-- What a discard leaves alone: every other order with its machine, its broker order ids, and the
ids of its fills and reports. -/
structure KeepsOthers (orderId : OrderId) (manager after : OrderManager) : Prop where
  orders : ∀ other, other ≠ orderId → after.orders.get? other = manager.orders.get? other
  machines : ∀ other, other ≠ orderId → after.machines.get? other = manager.machines.get? other
  mapped : ∀ brokerOrderId other, other ≠ orderId →
    (after.brokerToOrder.get? brokerOrderId = some other ↔
      manager.brokerToOrder.get? brokerOrderId = some other)
  fillIds : ∀ other, other ≠ orderId →
    ownedIds after.fillIdsByOrder other = ownedIds manager.fillIdsByOrder other
  reportIds : ∀ other, other ≠ orderId →
    ownedIds after.reportIdsByOrder other = ownedIds manager.reportIdsByOrder other
  seenFillIds : ∀ other, other ≠ orderId →
    ownedIds manager.fillIdsByOrder other ⊆ after.fillIds.seen
  seenReportIds : ∀ other, other ≠ orderId →
    ownedIds manager.reportIdsByOrder other ⊆ after.seenReportIds

/-- An operation that gives the ids of a discarded order to no other. -/
def Avoids (orderId : OrderId) (brokerOrderId : Option String) : OrderManagerCommand → Prop
  | .createOrder intent _ => intent.orderId ≠ orderId
  | .markSent _ other => brokerOrderId ≠ some other
  | _ => True

def Unfilled (answer : OrderManagerAnswer) : Prop :=
  (∃ msg brokerOrderId, answer = .raised (.unknownBrokerOrder msg brokerOrderId)) ∨
    ∃ result, answer = .processed result ∧ result.fills = []

variable {manager : OrderManager} {orderId : OrderId} {order : Order} {brokerOrderId : String}

theorem Sound.keepsOthers (sound : manager.Sound)
    (tracked : manager.orders.get? orderId = some order) :
    KeepsOthers orderId manager (manager.discarded orderId order) where
  orders other ne := Dict.get?_erase_of_ne _ ne
  machines other ne := Dict.get?_erase_of_ne _ ne
  mapped id other ne := by
    simp only [OrderManager.discarded]
    cases has : order.brokerOrderId with
    | none => rfl
    | some own =>
      have leads := (sound.broker own orderId).mpr ⟨order, tracked, has⟩
      rw [Dict.get?_erase]
      split
      · next same =>
        subst same
        rw [leads, Option.some.injEq]
        exact iff_of_false (by simp) ne.symm
      · rfl
  fillIds other ne := by
    simp only [OrderManager.discarded, ownedIds_erase, if_neg ne]
  reportIds other ne := by
    simp only [OrderManager.discarded, ownedIds_erase, if_neg ne]
  seenFillIds other ne := by
    simp only [OrderManager.discarded, FillIdempotencyStore.discardAll_seen]
    exact Finset.subset_sdiff.mpr
      ⟨sound.fillIds.within other, sound.fillIds.apart other orderId ne⟩
  seenReportIds other ne :=
    Finset.subset_sdiff.mpr
      ⟨sound.reportIds.within other, sound.reportIds.apart other orderId ne⟩

theorem Sound.mapped_step (sound : manager.Sound) {command : OrderManagerCommand}
    (unused : manager.IdsUnused command)
    (leads : manager.brokerToOrder.get? brokerOrderId = some orderId)
    (kept : discards orderId manager command = false) :
    (OrderManager.step manager command).2.brokerToOrder.get? brokerOrderId = some orderId := by
  have effect := step_effect sound.formed command
  unfold discards at kept
  generalize (OrderManager.step manager command).2 = after at effect ⊢
  cases command with
  | discardTerminalOrder other =>
    dsimp only at kept
    generalize (OrderManager.step manager (.discardTerminalOrder other)).1 = answer at effect kept
    cases effect with
    | refused command error => exact leads
    | discarded other order tracked terminal =>
      have ne : other ≠ orderId := by
        rintro rfl
        simp at kept
      exact ((sound.keepsOthers tracked).mapped brokerOrderId orderId ne.symm).mpr leads
  | markSent other id =>
    generalize (OrderManager.step manager (.markSent other id)).1 = answer at effect
    cases effect with
    | refused command error => exact leads
    | sent other id nonblank order tracked created =>
      have free := unused nonblank (by rw [tracked, Option.map_some, created])
      have ne : brokerOrderId ≠ id := by
        rintro rfl
        rw [leads] at free
        cases free
      exact (Dict.get?_set_of_ne _ _ ne).trans leads
  | _ =>
    generalize (OrderManager.step manager _).1 = answer at effect
    cases effect <;> exact leads

theorem delivered_mapped {report : ExecutionReport} {commands : List OrderManagerCommand}
    (unused : EveryStep step IdsUnused init commands)
    (delivered : DeliveredFor orderId report commands) :
    (final step init commands).brokerToOrder.get? report.brokerOrderId = some orderId := by
  have kept := @outstanding_invariant _ _ _ step IdsUnused (delivers orderId report)
    (discards orderId) (fun manager held => manager.Sound ∧
      (held = true → manager.brokerToOrder.get? report.brokerOrderId = some orderId))
    (fun manager held command ⟨sound, leads⟩ unused => by
      refine ⟨sound.step unused, fun still => ?_⟩
      rw [Bool.and_eq_true, Bool.not_eq_true'] at still
      refine sound.mapped_step unused ?_ still.2
      rcases Bool.or_eq_true _ _ ▸ still.1 with before | now
      · exact leads before
      · unfold delivers at now
        split at now
        · exact of_decide_eq_true (Bool.and_eq_true _ _ ▸ now).2
        · cases now)
    init false ⟨init_sound, nofun⟩ commands unused
  exact kept.2 delivered

theorem unmapped_step (formed : manager.WellFormed) {command : OrderManagerCommand}
    (avoids : Avoids orderId (some brokerOrderId) command)
    (unmapped : manager.brokerToOrder.get? brokerOrderId = none) :
    (step manager command).2.brokerToOrder.get? brokerOrderId = none := by
  have effect := step_effect formed command
  generalize (step manager command).1 = answer at effect
  generalize (step manager command).2 = after at effect ⊢
  cases effect with
  | sent other id nonblank order tracked created =>
    exact (Dict.get?_set_of_ne _ _ fun same => avoids (congrArg some same)).trans unmapped
  | discarded other order tracked terminal =>
    simp only [OrderManager.discarded]
    split
    · rw [Dict.get?_erase]
      split
      · rfl
      · exact unmapped
    · exact unmapped
  | _ => exact unmapped

theorem unmapped_final {commands : List OrderManagerCommand} (formed : manager.WellFormed)
    (avoids : ∀ command ∈ commands, Avoids orderId (some brokerOrderId) command)
    (unmapped : manager.brokerToOrder.get? brokerOrderId = none) :
    (final step manager commands).brokerToOrder.get? brokerOrderId = none := by
  induction commands generalizing manager with
  | nil => exact unmapped
  | cons command commands ih =>
    exact ih (step_wellFormed manager command formed)
      (fun other mem => avoids other (List.mem_cons_of_mem _ mem))
      (unmapped_step formed (avoids command List.mem_cons_self) unmapped)

theorem unmapped_unfilled {report : ExecutionReport}
    (unmapped : manager.brokerToOrder.get? report.brokerOrderId = none) :
    Unfilled (step manager (.processReport report)).1 := by
  refine .inl ⟨"no tracked order for broker order id", report.brokerOrderId, ?_⟩
  simp only [step, processReport, EStateM.run_bind, EStateM.run_get, unmapped,
    RaisingCalls.throw_run, RaisingCalls.answer]

/-- In a run that takes no id that is in use, a discard leaves every other order alone, and the
reports that were delivered for the discarded order are never filled again, whatever operations
come after that do not reuse its ids. -/
theorem discard_safe (commands : List OrderManagerCommand)
    (unused : EveryStep step IdsUnused init commands) (orderId : OrderId)
    (discarded : (step (final step init commands) (.discardTerminalOrder orderId)).1 = .discarded) :
    let manager := final step init commands
    let after := (step manager (.discardTerminalOrder orderId)).2
    KeepsOthers orderId manager after ∧
      ∀ report, DeliveredFor orderId report commands → ∀ later,
        (∀ command ∈ later, Avoids orderId
          ((manager.orders.get? orderId).bind (·.brokerOrderId)) command) →
            Unfilled (step (final step after later) (.processReport report)).1 := by
  intro manager after
  have sound : manager.Sound :=
    final_invariant_of_everyStep (fun _ _ sound unused => sound.step unused) init_sound unused
  have effect := step_effect sound.formed (.discardTerminalOrder orderId)
  rw [discarded] at effect
  change Effect manager _ _ after at effect
  have formed : after.WellFormed := step_wellFormed _ _ sound.formed
  generalize after = next at effect formed ⊢
  cases effect with
  | discarded orderId order tracked terminal =>
    refine ⟨sound.keepsOthers tracked, fun report delivered later avoids => ?_⟩
    have leads := delivered_mapped unused delivered
    obtain ⟨found, held, has⟩ := (sound.broker report.brokerOrderId orderId).mp leads
    have has : found.brokerOrderId = some report.brokerOrderId := has
    rw [held, Option.bind_some, has] at avoids
    obtain rfl := Option.mem_unique held tracked
    have forgotten : (manager.discarded orderId found).brokerToOrder.get?
        report.brokerOrderId = none := by
      simp only [OrderManager.discarded, has]
      exact Dict.get?_erase_self _ _
    exact unmapped_unfilled (unmapped_final formed avoids forgotten)

def secondOrder : OrderIntent :=
  { unitOrder with
    orderId := ⟨⟨"order-2", Eq.refl false⟩⟩
    valid := by decide +kernel }

def unitFilled : ExecutionReport where
  reportId := "report-1"
  brokerOrderId := "broker-1"
  status := .filled
  filledQuantity := 1
  fillPrice := some 10
  fillId := some "fill-1"
  valid := by decide +kernel

/-- The first of two sent orders is filled and discarded; then the second is cancelled. -/
theorem discard_safe_filled :
    let commands := sentUnitOrder ++ [.processReport unitFilled,
      .createOrder secondOrder { status := .approved }, .markSent secondOrder.orderId "broker-2"]
    let manager := final step init commands
    let after := (step manager (.discardTerminalOrder unitOrder.orderId)).2
    KeepsOthers unitOrder.orderId manager after ∧
      Unfilled (step (final step after [.requestCancel ⟨secondOrder.orderId, "cancel-2"⟩])
        (.processReport unitFilled)).1 := by
  intro commands manager after
  have safe := discard_safe commands (by decide +kernel) unitOrder.orderId (by decide +kernel)
  refine ⟨safe.1, safe.2 unitFilled (by unfold DeliveredFor; decide +kernel) _ fun command mem =>
      ?_⟩
  cases List.mem_singleton.mp mem
  trivial

/-- A second order is sent under the broker order id of the first, which is filled; the discard of
the first takes the broker order id from the second. -/
theorem sharedBrokerOrder_lost :
    let commands := sentUnitOrder ++ [.processReport unitFilled,
      .createOrder secondOrder { status := .approved }, .markSent secondOrder.orderId "broker-1"]
    let manager := final step init commands
    let after := (step manager (.discardTerminalOrder unitOrder.orderId)).2
    (step manager (.discardTerminalOrder unitOrder.orderId)).1 = .discarded ∧
      manager.brokerToOrder.get? "broker-1" = some secondOrder.orderId ∧
      after.brokerToOrder.get? "broker-1" = none ∧
      ¬ KeepsOthers unitOrder.orderId manager after := by
  intro commands manager after
  refine ⟨by decide +kernel, by decide +kernel, by decide +kernel, fun keeps => ?_⟩
  have leads := (keeps.mapped "broker-1" secondOrder.orderId (by decide)).mpr (by decide +kernel)
  exact absurd leads (by decide +kernel)

end Qts.OrderManager
