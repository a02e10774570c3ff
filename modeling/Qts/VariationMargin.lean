import Qts.HoldingAccounting
import Qts.PortfolioValuations

/-! # The margin ledger and its variation margin -/

namespace Qts

open Dict StepRuns HoldingBook List Option

/-- Snapshot of the margin ledger. -/
structure MarginState where
  initialMargin : Decimal
  maintenanceMargin : Decimal
  variationMargin : Decimal

structure MarginUpdate where
  positions : Dict InstrumentId Holding
  marks : DecimalMap
  multipliers : DecimalMap

structure MarginLedger where
  calculator : MarginCalculator := .default
  accountEquity : Decimal := 0
  variationMargin : Decimal := 0
  lastMarks : DecimalMap := .empty
  initialMargin : Decimal := 0
  maintenanceMargin : Decimal := 0

namespace MarginLedger

def state (ledger : MarginLedger) : MarginState where
  initialMargin := ledger.initialMargin
  maintenanceMargin := ledger.maintenanceMargin
  variationMargin := ledger.variationMargin

/-- Settle one position; the first mark of an instrument accrues nothing. -/
def settle (update : MarginUpdate) (ledger : MarginLedger) (item : InstrumentId × Holding) :
    MarginLedger :=
  match update.marks.get? item.1 with
  | none => ledger
  | some mark =>
    if item.2.quantity = 0 then ledger
    else
      { ledger with
        variationMargin :=
          match ledger.lastMarks.get? item.1 with
          | none => ledger.variationMargin
          | some priorMark => ledger.variationMargin +
              item.2.quantity * (mark - priorMark) * (update.multipliers.get? item.1).getD 1
        lastMarks := ledger.lastMarks.set item.1 mark }

/-- Accrue variation margin from the mark moves and recompute the requirements. -/
def update : Step MarginLedger MarginUpdate MarginState := fun ledger change =>
  let settled := change.positions.items.foldl (settle change) ledger
  let requirement := settled.calculator.marginRequirement change.positions change.marks
    change.multipliers settled.accountEquity
  let next := { settled with
    initialMargin := requirement.initialMargin
    maintenanceMargin := requirement.maintenanceMargin }
  (next.state, next)

end MarginLedger

namespace MarginUpdate

def mark (update : MarginUpdate) (instrumentId : InstrumentId) : Decimal :=
  (update.marks.get? instrumentId).getD 0

def multiplier (update : MarginUpdate) (instrumentId : InstrumentId) : Decimal :=
  (update.multipliers.get? instrumentId).getD 1

def quantity (update : MarginUpdate) (instrumentId : InstrumentId) : Decimal :=
  heldQuantity update.positions instrumentId

def Marked (update : MarginUpdate) : Prop :=
  ∀ instrumentId ∈ update.positions.keys, (update.marks.get? instrumentId).isSome = true

def OneChange (earlier later : MarginUpdate) : Prop :=
  (∀ instrumentId, later.quantity instrumentId = earlier.quantity instrumentId) ∨
    ∀ instrumentId, later.marks.get? instrumentId = earlier.marks.get? instrumentId

def heldMove (earlier later : MarginUpdate) : Decimal :=
  earlier.positions.keyedTotal fun instrumentId holding =>
    holding.quantity * (later.mark instrumentId - earlier.mark instrumentId) *
      later.multiplier instrumentId

def heldMoves : List MarginUpdate → Decimal
  | earlier :: later :: rest => heldMove earlier later + heldMoves (later :: rest)
  | _ => 0

def lastHeldMark (history : List MarginUpdate) (instrumentId : InstrumentId) : Option Decimal :=
  (history.reverse.find? fun update => decide (update.quantity instrumentId ≠ 0)).bind
    fun update => update.marks.get? instrumentId

def heldAfter (history : List MarginUpdate) (instrumentId : InstrumentId) : Bool :=
  history.getLast?.any fun update => decide (update.quantity instrumentId ≠ 0)

/-- What re-opened positions would gain on the moves since they were last held. -/
def flatMove (history : List MarginUpdate) (update : MarginUpdate) : Decimal :=
  update.positions.keyedTotal fun instrumentId holding =>
    if heldAfter history instrumentId then 0
    else holding.quantity * (update.mark instrumentId -
      (lastHeldMark history instrumentId).getD (update.mark instrumentId)) *
        update.multiplier instrumentId

structure Admissible (updates : List MarginUpdate) : Prop where
  marked : ∀ update ∈ updates, update.Marked
  oneChange : updates.IsChain OneChange

theorem heldMoves_snoc (history : List MarginUpdate) (earlier later : MarginUpdate) :
    heldMoves (history ++ [earlier, later]) =
      heldMoves (history ++ [earlier]) + heldMove earlier later := by
  induction history with
  | nil => simp [heldMoves]
  | cons first rest ih =>
    cases rest with
    | nil => simp [heldMoves]
    | cons second rest =>
      simp only [cons_append, heldMoves] at ih ⊢
      rw [ih, add_assoc]

theorem lastHeldMark_snoc (history : List MarginUpdate) (update : MarginUpdate)
    (instrumentId : InstrumentId) :
    lastHeldMark (history ++ [update]) instrumentId =
      if update.quantity instrumentId = 0 then lastHeldMark history instrumentId
      else update.marks.get? instrumentId := by
  rw [lastHeldMark, reverse_append, reverse_singleton, singleton_append, find?_cons]
  by_cases flat : update.quantity instrumentId = 0
  · simp [flat, lastHeldMark]
  · simp [flat]

theorem Marked.known {update : MarginUpdate} (marked : update.Marked)
    {instrumentId : InstrumentId} (held : update.quantity instrumentId ≠ 0) :
    update.marks.get? instrumentId = some (update.mark instrumentId) := by
  have among : instrumentId ∈ update.positions.keys := by
    by_contra absent
    have missing := update.positions.get?_eq_none_iff.mpr absent
    rw [quantity, heldQuantity, missing] at held
    exact held rfl
  obtain ⟨known, found⟩ := isSome_iff_exists.mp (marked instrumentId among)
  rw [mark, found, getD_some]

end MarginUpdate

namespace MarginLedger

open MarginUpdate

def accrual (lastMarks : DecimalMap) (update : MarginUpdate) (instrumentId : InstrumentId)
    (holding : Holding) : Decimal :=
  match update.marks.get? instrumentId, lastMarks.get? instrumentId with
  | some mark, some priorMark =>
    holding.quantity * (mark - priorMark) * update.multiplier instrumentId
  | _, _ => 0

section

variable (update : MarginUpdate) (ledger : MarginLedger) (item : InstrumentId × Holding)

include update ledger item

theorem settle_variationMargin :
    (settle update ledger item).variationMargin =
      ledger.variationMargin + accrual ledger.lastMarks update item.1 item.2 := by
  rw [settle, accrual]
  cases update.marks.get? item.1 with
  | none => exact (add_zero _).symm
  | some mark =>
    by_cases flat : item.2.quantity = 0
    · dsimp only
      rw [if_pos flat]
      cases ledger.lastMarks.get? item.1 with
      | none => exact (add_zero _).symm
      | some priorMark => simp [flat]
    · dsimp only
      rw [if_neg flat]
      cases ledger.lastMarks.get? item.1 with
      | none => exact (add_zero _).symm
      | some priorMark => rfl

theorem settle_lastMarks (instrumentId : InstrumentId) :
    (settle update ledger item).lastMarks.get? instrumentId =
      if instrumentId = item.1 ∧ item.2.quantity ≠ 0 then
        update.marks.get? instrumentId <|> ledger.lastMarks.get? instrumentId
      else ledger.lastMarks.get? instrumentId := by
  rw [settle]
  by_cases same : instrumentId = item.1
  · subst same
    cases known : update.marks.get? item.1 with
    | none => simp
    | some mark =>
      by_cases flat : item.2.quantity = 0
      · simp [flat]
      · simp [flat, get?_set_self]
  · rw [if_neg fun both => same both.1]
    cases update.marks.get? item.1 with
    | none => rfl
    | some mark =>
      by_cases flat : item.2.quantity = 0
      · simp [flat]
      · simp [flat, get?_set_of_ne _ _ same]

theorem accrual_settle {instrumentId : InstrumentId} (other : instrumentId ≠ item.1)
    (holding : Holding) :
    accrual (settle update ledger item).lastMarks update instrumentId holding =
      accrual ledger.lastMarks update instrumentId holding := by
  rw [accrual, accrual, settle_lastMarks, if_neg fun both => other both.1]

end

theorem settled_variationMargin (update : MarginUpdate) {items : List (InstrumentId × Holding)}
    (distinct : (items.map Prod.fst).Nodup) (ledger : MarginLedger) :
    (items.foldl (settle update) ledger).variationMargin =
      ledger.variationMargin +
        (items.map fun item => accrual ledger.lastMarks update item.1 item.2).sum := by
  induction items generalizing ledger with
  | nil => simp
  | cons item items ih =>
    rw [map_cons, nodup_cons] at distinct
    have same : items.map (fun later =>
          accrual (settle update ledger item).lastMarks update later.1 later.2) =
        items.map fun later => accrual ledger.lastMarks update later.1 later.2 := by
      apply map_congr_left
      intro later mem
      apply accrual_settle
      intro equal
      exact distinct.1 (mem_map.mpr ⟨later, mem, equal⟩)
    rw [foldl_cons, ih distinct.2, settle_variationMargin, same, map_cons, sum_cons, add_assoc]

theorem settled_lastMarks (update : MarginUpdate) {items : List (InstrumentId × Holding)}
    (distinct : (items.map Prod.fst).Nodup) (ledger : MarginLedger) (instrumentId : InstrumentId) :
    (items.foldl (settle update) ledger).lastMarks.get? instrumentId =
      if ((items.lookup instrumentId).map (·.quantity)).getD 0 = 0 then
        ledger.lastMarks.get? instrumentId
      else update.marks.get? instrumentId <|> ledger.lastMarks.get? instrumentId := by
  induction items generalizing ledger with
  | nil => simp
  | cons item items ih =>
    rw [map_cons, nodup_cons] at distinct
    rw [foldl_cons, ih distinct.2, settle_lastMarks, lookup_cons_if]
    by_cases same : instrumentId = item.1
    · subst same
      have absent : items.lookup item.1 = none := by
        rw [lookup_eq_none_iff]
        intro later mem
        simp only [bne_iff_ne, ne_eq]
        intro equal
        exact distinct.1 (mem_map.mpr ⟨later, mem, equal.symm⟩)
      rw [absent]
      by_cases flat : item.2.quantity = 0
      · simp [flat]
      · simp [flat]
    · have kept : ¬ (instrumentId = item.1 ∧ item.2.quantity ≠ 0) := fun both => same both.1
      rw [if_neg same, if_neg kept]

theorem update_variationMargin (ledger : MarginLedger) (change : MarginUpdate) :
    (update ledger change).2.variationMargin =
      ledger.variationMargin + change.positions.keyedTotal (accrual ledger.lastMarks change) :=
  settled_variationMargin change change.positions.distinct ledger

theorem update_lastMarks (ledger : MarginLedger) (change : MarginUpdate)
    (instrumentId : InstrumentId) :
    (update ledger change).2.lastMarks.get? instrumentId =
      if change.quantity instrumentId = 0 then ledger.lastMarks.get? instrumentId
      else change.marks.get? instrumentId <|> ledger.lastMarks.get? instrumentId :=
  settled_lastMarks change change.positions.distinct ledger instrumentId

theorem weightAt_moves (move factor : InstrumentId → Decimal)
    (positions : Dict InstrumentId Holding) (instrumentId : InstrumentId) :
    positions.weightAt (fun instrumentId holding =>
        holding.quantity * move instrumentId * factor instrumentId) instrumentId =
      heldQuantity positions instrumentId * move instrumentId * factor instrumentId := by
  rw [weightAt, heldQuantity]
  cases positions.get? instrumentId with
  | none => simp
  | some holding => rfl

/-- What an update accrues on one instrument, by its last known mark: the move since the update
before for a held position, the move since it was last held for a re-opened one. -/
theorem accrual_at {earlier later : MarginUpdate} (earlierMarked : earlier.Marked)
    (laterMarked : later.Marked) (oneChange : OneChange earlier later) {lastMarks : DecimalMap}
    {instrumentId : InstrumentId} {known : Option Decimal}
    (last : lastMarks.get? instrumentId =
      if earlier.quantity instrumentId = 0 then known else earlier.marks.get? instrumentId) :
    later.positions.weightAt (accrual lastMarks later) instrumentId =
      earlier.quantity instrumentId * (later.mark instrumentId - earlier.mark instrumentId) *
          later.multiplier instrumentId +
        if earlier.quantity instrumentId = 0 then
          later.quantity instrumentId * (later.mark instrumentId -
            known.getD (later.mark instrumentId)) * later.multiplier instrumentId
        else 0 := by
  by_cases closed : later.quantity instrumentId = 0
  · have nothing : later.positions.weightAt (accrual lastMarks later) instrumentId = 0 := by
      rw [MarginUpdate.quantity, heldQuantity] at closed
      rw [weightAt]
      cases held : later.positions.get? instrumentId with
      | none => rfl
      | some holding =>
        rw [held] at closed
        have flat : holding.quantity = 0 := closed
        simp only [map_some, getD_some, accrual, flat]
        split <;> simp
    rw [nothing, closed]
    rcases oneChange with quantities | marks
    · rw [← quantities instrumentId, closed]
      simp
    · simp only [mark, marks instrumentId]
      simp
  · have now := laterMarked.known closed
    have amount : later.positions.weightAt (accrual lastMarks later) instrumentId =
        match lastMarks.get? instrumentId with
        | none => 0
        | some priorMark => later.quantity instrumentId *
            (later.mark instrumentId - priorMark) * later.multiplier instrumentId := by
      rw [MarginUpdate.quantity, heldQuantity] at closed ⊢
      rw [weightAt]
      cases held : later.positions.get? instrumentId with
      | none =>
        rw [held] at closed
        exact absurd rfl closed
      | some holding =>
        simp only [map_some, getD_some, accrual, now]
        cases lastMarks.get? instrumentId <;> rfl
    rw [amount, last]
    by_cases reopened : earlier.quantity instrumentId = 0
    · rw [if_pos reopened, if_pos reopened, reopened, zero_mul, zero_mul, zero_add]
      cases known with
      | none => simp
      | some priorMark => rfl
    · rw [if_neg reopened, if_neg reopened, earlierMarked.known reopened, add_zero]
      rcases oneChange with quantities | marks
      · rw [← quantities instrumentId]
      · simp only [mark, marks instrumentId]
        simp

def created (calculator : MarginCalculator) (accountEquity : Decimal) : MarginLedger where
  calculator := calculator
  accountEquity := accountEquity

section Runs

variable (calculator : MarginCalculator) (accountEquity : Decimal) {history : List MarginUpdate}

theorem final_lastMarks (marked : ∀ change ∈ history, change.Marked) (instrumentId : InstrumentId) :
    (final update (created calculator accountEquity) history).lastMarks.get?
      instrumentId = lastHeldMark history instrumentId := by
  induction history using reverseRecOn with
  | nil => rfl
  | append_singleton history change ih =>
    have before := ih fun other mem => marked other (mem_append_left _ mem)
    have last : change.Marked := marked change (by simp)
    rw [final_append, final_cons, final_nil, update_lastMarks, before, lastHeldMark_snoc]
    by_cases flat : change.quantity instrumentId = 0
    · rw [if_pos flat, if_pos flat]
    · rw [if_neg flat, if_neg flat, last.known flat]
      rfl

theorem accrued_eq {earlier later : MarginUpdate}
    (admissible : Admissible (history ++ [earlier, later])) :
    later.positions.keyedTotal (accrual (final update
        (created calculator accountEquity) (history ++ [earlier])).lastMarks later) =
      heldMove earlier later + flatMove (history ++ [earlier]) later := by
  have markedBefore : ∀ change ∈ history ++ [earlier], change.Marked := fun change mem =>
    admissible.marked change (by
      rw [append_cons]
      exact mem_append_left _ mem)
  have earlierMarked := markedBefore earlier (by simp)
  have laterMarked : later.Marked := admissible.marked later (by simp)
  have oneChange : OneChange earlier later :=
    isChain_pair.mp admissible.oneChange.right_of_append
  refine keyedTotal_add fun instrumentId => ?_
  have last := final_lastMarks calculator accountEquity markedBefore instrumentId
  rw [lastHeldMark_snoc] at last
  have held := weightAt_moves (fun instrumentId => later.mark instrumentId -
    earlier.mark instrumentId) later.multiplier earlier.positions instrumentId
  rw [accrual_at earlierMarked laterMarked oneChange last, held]
  congr 1
  by_cases reopened : earlier.quantity instrumentId = 0
  · have after : heldAfter (history ++ [earlier]) instrumentId = false := by
      simp [heldAfter, reopened]
    have gap := weightAt_moves (fun instrumentId => later.mark instrumentId -
        (lastHeldMark (history ++ [earlier]) instrumentId).getD (later.mark instrumentId))
      later.multiplier later.positions instrumentId
    rw [lastHeldMark_snoc, if_pos reopened] at gap
    rw [if_pos reopened, MarginUpdate.quantity, ← gap, weightAt, weightAt]
    simp only [after, Bool.false_eq_true, if_false, lastHeldMark_snoc, if_pos reopened]
  · have after : heldAfter (history ++ [earlier]) instrumentId = true := by
      simp [heldAfter, reopened]
    rw [if_neg reopened, weightAt]
    simp only [after, if_true]
    cases later.positions.get? instrumentId <;> rfl

theorem variationMargin_snoc {later : MarginUpdate} (admissible : Admissible (history ++ [later])) :
    (final update (created calculator accountEquity)
        (history ++ [later])).variationMargin - heldMoves (history ++ [later]) =
      (final update (created calculator accountEquity) history).variationMargin -
        heldMoves history + flatMove history later := by
  rw [final_append, final_cons, final_nil, update_variationMargin]
  rcases eq_nil_or_concat history with rfl | ⟨earlier, last, rfl⟩
  · have nothing : later.positions.keyedTotal (accrual .empty later) =
        flatMove [] later := by
      refine keyedTotal_congr fun instrumentId => ?_
      rw [weightAt, weightAt]
      cases later.positions.get? instrumentId with
      | none => rfl
      | some holding =>
        simp only [map_some, getD_some, accrual, get?_empty,
          heldAfter, lastHeldMark, getLast?_nil, reverse_nil, find?_nil]
        cases later.marks.get? instrumentId <;> simp
    have unmoved : heldMoves ([] ++ [later]) = 0 := rfl
    rw [unmoved]
    change 0 + later.positions.keyedTotal (accrual .empty later) - 0 = 0 - 0 + flatMove [] later
    rw [nothing]
    ring
  · rw [concat_eq_append, append_assoc, singleton_append] at admissible
    have accrued := accrued_eq calculator accountEquity admissible
    rw [concat_eq_append, append_assoc, singleton_append, heldMoves_snoc, accrued]
    ring

/-- After every update the variation margin is what the held positions moved, exactly when the
positions that each update re-opens have not moved, on balance, since they were last held. -/
theorem variationMargin_held_iff {updates : List MarginUpdate} (admissible : Admissible updates) :
    (∀ history later, updates = history ++ later →
      (final update (created calculator accountEquity) history).variationMargin =
        heldMoves history) ↔
    ∀ history change later, updates = history ++ change :: later →
      flatMove history change = 0 := by
  have part {history later : List MarginUpdate} (splits : updates = history ++ later) :
      Admissible history := by
    subst splits
    exact ⟨fun change mem => admissible.marked change (mem_append_left _ mem),
      admissible.oneChange.left_of_append⟩
  constructor
  · intro held history change later splits
    have splitsAfter : updates = history ++ [change] ++ later := by rw [splits]; simp
    have snoc := variationMargin_snoc calculator accountEquity (part splitsAfter)
    rw [held _ _ splitsAfter, held _ _ splits, sub_self, sub_self, zero_add] at snoc
    exact snoc.symm
  · intro unmoved history
    induction history using reverseRecOn with
    | nil =>
      intro _ _
      rfl
    | append_singleton history change ih =>
      intro later splits
      have splitsBefore : updates = history ++ change :: later := by rw [splits]; simp
      have snoc := variationMargin_snoc calculator accountEquity (part splits)
      rw [ih _ splitsBefore, unmoved _ _ _ splitsBefore, sub_self, add_zero, sub_eq_zero] at snoc
      exact snoc

end Runs

def sampleUpdate (quantity mark : Decimal) : MarginUpdate where
  positions := .ofItems [(unitInstrument, {
    instrumentId := unitInstrument
    quantity
    averageCost := 100
    realizedPnl := 0 })]
  marks := .ofItems [(unitInstrument, mark)]
  multipliers := .empty

theorem sampleUpdate_marked (quantity mark : Decimal) : (sampleUpdate quantity mark).Marked := by
  intro instrumentId mem
  have same : instrumentId = unitInstrument := mem_singleton.mp mem
  rw [same]
  rfl

theorem sampleUpdate_trade (quantity next mark : Decimal) :
    OneChange (sampleUpdate quantity mark) (sampleUpdate next mark) :=
  .inr fun _ => rfl

theorem sampleUpdate_move (quantity mark next : Decimal) :
    OneChange (sampleUpdate quantity mark) (sampleUpdate quantity next) :=
  .inl fun _ => rfl

/-- Bought at 100, sold at 100, and bought again at 110. -/
def reopening : List MarginUpdate :=
  [sampleUpdate 1 100, sampleUpdate 0 100, sampleUpdate 0 110, sampleUpdate 1 110]

theorem reopening_admissible : Admissible reopening where
  marked := by
    intro change mem
    simp only [reopening, mem_cons, not_mem_nil, or_false] at mem
    rcases mem with rfl | rfl | rfl | rfl <;> exact sampleUpdate_marked _ _
  oneChange := by
    simp only [reopening, isChain_cons_cons, isChain_singleton, and_true]
    exact ⟨sampleUpdate_trade _ _ _, sampleUpdate_move _ _ _, sampleUpdate_trade _ _ _⟩

theorem variationMargin_held_iff_reopening :
    (∀ history later, reopening = history ++ later →
      (final update (created .default 0) history).variationMargin =
        heldMoves history) ↔
    ∀ history change later, reopening = history ++ change :: later →
      flatMove history change = 0 :=
  variationMargin_held_iff .default 0 reopening_admissible

/-- The position was flat while its mark rose by ten, and still accrues ten. -/
theorem reopening_accrues :
    ¬ ∀ updates : List MarginUpdate, Admissible updates →
      (final update (created .default 0) updates).variationMargin =
        heldMoves updates := by
  intro held
  have nothing := held reopening reopening_admissible
  revert nothing
  decide +kernel

end MarginLedger

end Qts
