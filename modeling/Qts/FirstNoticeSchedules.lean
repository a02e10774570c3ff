import Qts.FirstNoticeSelector

/-! # First-notice schedules in two languages -/

namespace Qts

open FirstNoticeDateFutureContractSelector DateRange List

/-- The walk over weekdays that the selector is given as its calendar. -/
def businessSessionOffset : SessionOffset := fun sessionDate offset =>
  let found :=
    if 0 ≤ offset then pythonDates.walkForward offset.natAbs sessionDate
    else pythonDates.walkBack offset.natAbs sessionDate
  match found with
  | some day => .ok day
  | none => .error (.other "date value out of range")

namespace RustText

/-- The code points with the property `White_Space`. -/
def isWhitespace (char : Char) : Bool :=
  let code := char.toNat
  (0x09 ≤ code && code ≤ 0x0d) || code == 0x20 || code == 0x85 || code == 0xa0 ||
    code == 0x1680 || (0x2000 ≤ code && code ≤ 0x200a) || code == 0x2028 || code == 0x2029 ||
    code == 0x202f || code == 0x205f || code == 0x3000

def trim (text : String) : String :=
  String.ofList ((text.toList.dropWhile isWhitespace).rdropWhile isWhitespace)

end RustText

def wrapI32 (value : Int) : Int :=
  (value + 2147483648) % 4294967296 - 2147483648

/-- None where the date overflows. -/
def offsetBusinessSessions (start offset : Int) : Option Int :=
  let remaining := (wrapI32 offset.natAbs).toNat
  if 0 ≤ offset then naiveDates.walkForward remaining start
  else naiveDates.walkBack remaining start

structure RollContractSpec where
  symbol : String
  instrumentId : String
  firstNoticeDay : Int
  expiry : DateTime
deriving DecidableEq

inductive RollError
  | emptyRoot
  | emptyExchange
  | emptySymbol
  | emptyInstrumentId
  | emptyContracts
  | invalidRollSessionOffset
  | offsetOutOfRange
deriving DecidableEq

/-- How a selection fails: with an error, or on a date that overflows. -/
inductive RollFailure
  | error (reason : RollError)
  | panicked

namespace RollContractSpec

def normalized (contract : RollContractSpec) : Except RollError RollContractSpec :=
  let symbol := RustText.trim contract.symbol
  let instrumentId := RustText.trim contract.instrumentId
  if symbol = "" then .error .emptySymbol
  else if instrumentId = "" then .error .emptyInstrumentId
  else .ok { contract with symbol, instrumentId }

def Precedes (left right : RollContractSpec) : Prop :=
  left.expiry < right.expiry ∨ (left.expiry = right.expiry ∧ left.symbol ≤ right.symbol)

instance (left right : RollContractSpec) : Decidable (Precedes left right) :=
  inferInstanceAs (Decidable (_ ∨ _))

end RollContractSpec

structure RollSelection where
  continuousInstrumentId : String
  rootSymbol : String
  exchange : String
  sessionDate : Int
  concreteInstrumentId : String
  sourceSymbol : String
  rollPolicy : String
  offset : Nat

structure FirstNoticeRollSchedule where
  rootSymbol : String
  exchange : String
  contracts : List RollContractSpec
  rollSessionsBeforeFirstNotice : UInt32
deriving DecidableEq

namespace FirstNoticeRollSchedule

def new (toUppercase : String → String) (rootSymbol exchange : String)
    (contracts : List RollContractSpec) (rollSessionsBeforeFirstNotice : UInt32) :
    Except RollError FirstNoticeRollSchedule := do
  let rootSymbol := toUppercase (RustText.trim rootSymbol)
  if rootSymbol = "" then throw .emptyRoot
  let exchange := toUppercase (RustText.trim exchange)
  if exchange = "" then throw .emptyExchange
  if rollSessionsBeforeFirstNotice = 0 then throw .invalidRollSessionOffset
  if contracts.isEmpty then throw .emptyContracts
  let contracts ← contracts.mapM RollContractSpec.normalized
  return { rootSymbol, exchange
           contracts := contracts.insertionSort RollContractSpec.Precedes
           rollSessionsBeforeFirstNotice }

variable (schedule : FirstNoticeRollSchedule)

def continuousInstrumentId (offset : Nat) : String :=
  if offset = 0 then "CONTINUOUS_FUTURE." ++ schedule.exchange ++ "." ++ schedule.rootSymbol
  else "CONTINUOUS_FUTURE." ++ schedule.exchange ++ "." ++ schedule.rootSymbol ++ ".M" ++
    toString (offset + 1)

def rollSession (contract : RollContractSpec) : Option Int :=
  offsetBusinessSessions contract.firstNoticeDay
    (wrapI32 (-(wrapI32 schedule.rollSessionsBeforeFirstNotice.toNat)))

def positionAhead (sessionDate : Int) : List RollContractSpec → Option (Option Nat)
  | [] => some none
  | contract :: contracts => do
    let session ← schedule.rollSession contract
    if sessionDate < session then return some 0
    let later ← positionAhead sessionDate contracts
    return later.map (· + 1)

def select (sessionDate : Int) (offset : Nat) : Except RollFailure RollSelection :=
  match schedule.positionAhead sessionDate schedule.contracts with
  | none => .error .panicked
  | some ahead =>
    let frontIndex := ahead.getD (schedule.contracts.length - 1)
    match schedule.contracts[frontIndex + offset]? with
    | none => .error (.error .offsetOutOfRange)
    | some contract =>
      .ok { continuousInstrumentId := schedule.continuousInstrumentId offset
            rootSymbol := schedule.rootSymbol
            exchange := schedule.exchange
            sessionDate
            concreteInstrumentId := contract.instrumentId
            sourceSymbol := contract.symbol
            rollPolicy := "first_notice"
            offset }

end FirstNoticeRollSchedule

theorem wrapI32_of_lt {value : Int} (lower : -2147483648 ≤ value) (upper : value < 2147483648) :
    wrapI32 value = value := by
  unfold wrapI32
  omega

variable {contract : FutureContractRollSpec}

theorem offsetBusinessSessions_of_ok {sessions : Nat}
    {day : Int} (pos : 0 < sessions)
    (walked : businessSessionOffset contract.firstNoticeDay (-sessions) = .ok day) :
    offsetBusinessSessions contract.firstNoticeDay (wrapI32 (-(wrapI32 sessions))) = some day := by
  have back : ¬ (0 : Int) ≤ -(sessions : Int) := by omega
  unfold businessSessionOffset at walked
  rw [if_neg back, Int.natAbs_neg, Int.natAbs_natCast] at walked
  cases found : pythonDates.walkBack sessions contract.firstNoticeDay with
  | none => simp [found] at walked
  | some reached =>
    simp only [found, Except.ok.injEq] at walked
    subst walked
    obtain ⟨days, bound⟩ := walkBack_le found
    have dated : contract.firstNoticeDay ≤ 2932896 := (holds_iff.mp contract.dated).2
    have first : -719162 ≤ reached := bound pos
    have small : (sessions : Int) < 2147483648 := by omega
    have cast : wrapI32 sessions = sessions := wrapI32_of_lt (by omega) small
    have negated : wrapI32 (-(sessions : Int)) = -sessions := wrapI32_of_lt (by omega) (by omega)
    have whole : (-(sessions : Int)).natAbs = sessions := by omega
    rw [cast, negated, offsetBusinessSessions, whole, cast, if_neg back, Int.toNat_natCast]
    apply walkBack_wider _ found
    intro other held
    obtain ⟨lower, upper⟩ := holds_iff.mp held
    have within : -719162 ≤ other ∧ other ≤ 2932896 := ⟨lower, upper⟩
    exact holds_iff.mpr ⟨within.1.trans' (by decide), within.2.trans (by decide)⟩

/-- A contract of the selector as the schedule is given it. -/
def rustSpec (contract : FutureContractRollSpec) : RollContractSpec where
  symbol := contract.symbol
  instrumentId := contract.instrumentId.value
  firstNoticeDay := contract.firstNoticeDay
  expiry := contract.expiry

/-- A contract of the selector as the schedule keeps it. -/
def trimmedSpec (contract : FutureContractRollSpec) : RollContractSpec where
  symbol := RustText.trim contract.symbol
  instrumentId := RustText.trim contract.instrumentId.value
  firstNoticeDay := contract.firstNoticeDay
  expiry := contract.expiry

/-- Contracts of one expiry have symbols without whitespace around them. -/
def TiesTrimmed (contracts : List FutureContractRollSpec) : Prop :=
  ∀ first ∈ contracts, ∀ second ∈ contracts, first.expiry = second.expiry →
    first = second ∨
      (RustText.trim first.symbol = first.symbol ∧ RustText.trim second.symbol = second.symbol)

instance (contracts : List FutureContractRollSpec) : Decidable (TiesTrimmed contracts) :=
  inferInstanceAs (Decidable (∀ first ∈ contracts, ∀ second ∈ contracts, _ → _))

theorem normalized_rustSpec {normal : RollContractSpec}
    (known : (rustSpec contract).normalized = .ok normal) : normal = trimmedSpec contract := by
  unfold RollContractSpec.normalized at known
  dsimp only at known
  split at known
  · cases known
  · split at known
    · cases known
    · cases known
      rfl

variable {contracts : List FutureContractRollSpec}

theorem mapM_normalized {normal : List RollContractSpec}
    (known : (contracts.map rustSpec).mapM RollContractSpec.normalized = .ok normal) :
    normal = contracts.map trimmedSpec := by
  have all := mapM_eq_ok_iff.mp known
  rw [forall₂_map_left_iff] at all
  clear known
  induction all with
  | nil => rfl
  | cons first _ ih => rw [map_cons, normalized_rustSpec first, ih]

theorem precedes_trimmedSpec
    (ties : TiesTrimmed contracts) :
    ∀ first ∈ contracts, ∀ second ∈ contracts,
      (ExpiresFirst first second ↔ (trimmedSpec first).Precedes (trimmedSpec second)) := by
  intro first mem second secondMember
  unfold ExpiresFirst RollContractSpec.Precedes
  apply or_congr Iff.rfl
  apply and_congr_right
  intro same
  rcases ties first mem second secondMember same with rfl | ⟨trimmed, secondTrimmed⟩
  · simp
  · rw [trimmedSpec, trimmedSpec, trimmed, secondTrimmed]

namespace FirstNoticeRollSchedule

variable {schedule : FirstNoticeRollSchedule} {sessionDate : Int}

def HasRolled (schedule : FirstNoticeRollSchedule) (sessionDate : Int)
    (contract : RollContractSpec) : Prop :=
  ∃ session : Int, schedule.rollSession contract = some session ∧ session ≤ sessionDate

theorem positionAhead_rolled {contracts : List RollContractSpec}
    (rolled : ∀ contract ∈ contracts, schedule.HasRolled sessionDate contract) :
    schedule.positionAhead sessionDate contracts = some none := by
  induction contracts with
  | nil => rfl
  | cons contract contracts ih =>
    obtain ⟨session, known, passed⟩ := rolled contract mem_cons_self
    have rest := ih fun other mem => rolled other (mem_cons_of_mem _ mem)
    simp [positionAhead, known, rest, not_lt.mpr passed]

theorem positionAhead_ahead {contracts : List RollContractSpec} {position : Nat}
    {contract : RollContractSpec} (stands : contracts[position]? = some contract)
    (rolled : ∀ index other, index < position → contracts[index]? = some other →
      schedule.HasRolled sessionDate other) {session : Int}
    (known : schedule.rollSession contract = some session) (ahead : sessionDate < session) :
    schedule.positionAhead sessionDate contracts = some (some position) := by
  induction contracts generalizing position with
  | nil => cases stands
  | cons first contracts ih =>
    cases position with
    | zero =>
      cases stands
      simp [positionAhead, known, ahead]
    | succ position =>
      obtain ⟨other, otherKnown, passed⟩ := rolled 0 first (Nat.succ_pos position) rfl
      have rest := ih stands fun index other before =>
        rolled (index + 1) other (Nat.succ_lt_succ before)
      simp [positionAhead, otherKnown, rest, not_lt.mpr passed]

theorem select_of_schedules {contracts : List FutureContractRollSpec}
    {rollSession : FutureContractRollSpec → Except Failure Int} {position : Nat}
    {contract : FutureContractRollSpec}
    (sameContracts : schedule.contracts = contracts.map trimmedSpec)
    (sameSessions : ∀ other session, rollSession other = .ok session →
      schedule.rollSession (trimmedSpec other) = some session)
    (schedules : Schedules rollSession contracts sessionDate position contract) :
    ∃ selection, schedule.select sessionDate 0 = .ok selection ∧
      selection.concreteInstrumentId = RustText.trim contract.instrumentId.value ∧
      selection.sourceSymbol = RustText.trim contract.symbol := by
  have stands : schedule.contracts[position]? = some (trimmedSpec contract) := by
    rw [sameContracts, getElem?_map, schedules.stands]
    rfl
  have rolled : ∀ index other, index < position → schedule.contracts[index]? = some other →
      schedule.HasRolled sessionDate other := by
    intro index other before isOther
    rw [sameContracts, getElem?_map, Option.map_eq_some_iff] at isOther
    obtain ⟨source, isSource, rfl⟩ := isOther
    obtain ⟨session, known, passed⟩ := schedules.rolled index source before isSource
    exact ⟨session, sameSessions source session known, passed⟩
  obtain ⟨session, known, own⟩ := schedules.own
  have rustKnown := sameSessions contract session known
  have front : ∃ ahead, schedule.positionAhead sessionDate schedule.contracts = some ahead ∧
      ahead.getD (schedule.contracts.length - 1) = position := by
    rcases own with ahead | ⟨passed, isLast⟩
    · exact ⟨some position, positionAhead_ahead stands rolled rustKnown ahead, rfl⟩
    · have length : schedule.contracts.length = contracts.length := by simp [sameContracts]
      refine ⟨none, positionAhead_rolled ?_, by simp only [Option.getD_none]; omega⟩
      intro other mem
      obtain ⟨index, isOther⟩ := mem_iff_getElem?.mp mem
      by_cases before : index < position
      · exact rolled index other before isOther
      · have bound := (List.getElem?_eq_some_iff.mp isOther).1
        obtain rfl : index = position := by omega
        cases stands.symm.trans isOther
        exact ⟨session, rustKnown, passed⟩
  obtain ⟨ahead, found, isPosition⟩ := front
  have stands : schedule.contracts[position]? = some (trimmedSpec contract) := by
    rw [sameContracts, getElem?_map, schedules.stands]
    rfl
  unfold select
  rw [found]
  dsimp only
  rw [isPosition, Nat.add_zero, stands]
  exact ⟨_, rfl, rfl, rfl⟩

theorem new_inv {toUppercase : String → String} {rootSymbol exchange : String}
    {contracts : List FutureContractRollSpec} {sessions : UInt32}
    (made : new toUppercase rootSymbol exchange (contracts.map rustSpec) sessions = .ok schedule) :
    schedule.rollSessionsBeforeFirstNotice = sessions ∧
      schedule.contracts = (contracts.map trimmedSpec).insertionSort RollContractSpec.Precedes := by
  unfold new at made
  dsimp only at made
  split at made
  · cases made
  split at made
  · cases made
  split at made
  · cases made
  split at made
  · cases made
  obtain ⟨normal, known, done⟩ := bind_inv made
  cases done
  refine ⟨rfl, ?_⟩
  rw [mapM_normalized known]

def Agrees (isoformat : Int → String) (fresh : FirstNoticeDateFutureContractSelector)
    (schedule : FirstNoticeRollSchedule) : Prop :=
  ∀ selector, StepRuns.Reachable (FirstNoticeDateFutureContractSelector.select isoformat) fresh
      selector →
    ∀ sessionDate contract, (selector.contractForSession sessionDate).1 = .ok contract →
      ∃ selection, schedule.select sessionDate 0 = .ok selection ∧
        selection.concreteInstrumentId = RustText.trim contract.instrumentId.value ∧
        selection.sourceSymbol = RustText.trim contract.symbol

end FirstNoticeRollSchedule

/-- A first-notice selector rolls by first notice, and with weekday sessions and no active months
the schedule of the same contracts agrees with it, where contracts that share an expiry have
trimmed symbols. -/
theorem firstNotice_rolls (monthOf : DateTime → Nat) (isoformat : Int → String)
    {contracts : List FutureContractRollSpec} {sessionOffset : SessionOffset}
    {activeMonths : List Nat} {sessions : Int} {fresh : FirstNoticeDateFutureContractSelector}
    (distinct : Distinct contracts)
    (created : create monthOf contracts sessionOffset activeMonths sessions = .ok fresh) :
    RollsByFirstNotice isoformat fresh ∧
      (sessionOffset = businessSessionOffset → activeMonths = [] → TiesTrimmed contracts →
        ∀ (count : UInt32) toUppercase rootSymbol exchange schedule, sessions = count.toNat →
          FirstNoticeRollSchedule.new toUppercase rootSymbol exchange (contracts.map rustSpec)
            count = .ok schedule →
          schedule.Agrees isoformat fresh) := by
  obtain ⟨apart, rolls⟩ := create_rolls isoformat distinct created
  refine ⟨rolls, ?_⟩
  rintro rfl rfl ties count toUppercase rootSymbol exchange schedule rfl made
  obtain ⟨pos, isBusiness, isCount, -, sorted⟩ := create_inv created
  obtain ⟨rustCount, rustSorted⟩ := FirstNoticeRollSchedule.new_inv made
  have all : ofActiveMonths monthOf [] contracts = contracts := by simp [ofActiveMonths]
  rw [all] at sorted
  have sameContracts : schedule.contracts = fresh.contracts.map trimmedSpec := by
    rw [sorted, rustSorted, List.map_insertionSort _ RollContractSpec.Precedes trimmedSpec contracts
      (precedes_trimmedSpec ties)]
  have sameSessions : ∀ other session, fresh.rollSessionOf other = .ok session →
      schedule.rollSession (trimmedSpec other) = some session := by
    intro other session known
    unfold rollSessionOf at known
    rw [isBusiness, isCount] at known
    unfold FirstNoticeRollSchedule.rollSession
    rw [rustCount]
    exact offsetBusinessSessions_of_ok (by omega) known
  intro selector reached sessionDate contract chosen
  obtain ⟨position, schedules⟩ := rolls.schedules selector reached sessionDate contract chosen
  exact FirstNoticeRollSchedule.select_of_schedules sameContracts sameSessions schedules

namespace FirstNoticeDateFutureContractSelector

def june : FutureContractRollSpec where
  symbol := "GCM6"
  instrumentId := ⟨⟨"FUTURE.CME.GC.GCM6", rfl⟩⟩
  firstNoticeDay := 20595
  expiry := 0
  notEmpty := by decide
  dated := by decide

/-- The space before the symbol puts it before `GCM6`. -/
def padded : FutureContractRollSpec where
  symbol := " GCQ6"
  instrumentId := ⟨⟨"FUTURE.CME.GC.GCQ6", rfl⟩⟩
  firstNoticeDay := 20595
  expiry := 0
  notEmpty := by decide
  dated := by decide

def rollingOneBefore (contracts : List FutureContractRollSpec) (nonempty : contracts ≠ []) :
    FirstNoticeDateFutureContractSelector where
  contracts := contracts
  nonempty := nonempty
  sessionOffset := businessSessionOffset
  rollSessionsBeforeFirstNotice := 1

theorem create_sorted {contracts ordered : List FutureContractRollSpec} (nonempty : ordered ≠ [])
    (sorted : (ofActiveMonths (fun _ => 6) [] contracts).insertionSort ExpiresFirst = ordered) :
    create (fun _ => 6) contracts businessSessionOffset [] 1 =
      .ok (rollingOneBefore ordered nonempty) := by
  unfold create
  rw [if_neg (by decide)]
  split
  · next none => exact absurd (sorted.symm.trans none) nonempty
  · next found =>
    cases sorted.symm.trans found
    rfl

/-- The contract behind `june`. -/
def august : FutureContractRollSpec where
  symbol := "GCQ6"
  instrumentId := ⟨⟨"FUTURE.CME.GC.GCQ6", rfl⟩⟩
  firstNoticeDay := 20655
  expiry := 5270400000000
  notEmpty := by decide
  dated := by decide

/-- Two contracts, the later one given first. -/
theorem firstNotice_rolls_august :
    ∃ schedule, FirstNoticeRollSchedule.new id "GC" "CME" [rustSpec august, rustSpec june] 1 =
        .ok schedule ∧
      RollsByFirstNotice toString (rollingOneBefore [june, august] (by decide)) ∧
      schedule.Agrees toString (rollingOneBefore [june, august] (by decide)) := by
  have made :
      (FirstNoticeRollSchedule.new id "GC" "CME" [rustSpec august, rustSpec june] 1).isOk =
          true := by
    decide +kernel
  cases found : FirstNoticeRollSchedule.new id "GC" "CME" [rustSpec august, rustSpec june] 1 with
  | error reason =>
    rw [found] at made
    cases made
  | ok schedule =>
    obtain ⟨rolls, agrees⟩ := @firstNotice_rolls (fun _ => 6) toString [august, june] _ _ _ _
      (by decide) (@create_sorted _ [june, august] (by decide) (by decide +kernel))
    refine ⟨schedule, rfl, rolls, agrees rfl rfl ?_ 1 id "GC" "CME" schedule rfl found⟩
    decide +kernel

theorem businessSessionOffset_friday : businessSessionOffset 20595 (-1) = .ok 20594 := by
  have walked : pythonDates.walkBack 1 20595 = some 20594 := by
    rw [walkBack, dif_pos (by decide), if_pos (by decide), walkBack]
    rfl
  unfold businessSessionOffset
  simp [walked]

theorem padded_symbol_splits_languages :
    ∃ fresh schedule,
      create (fun _ => 6) [padded, june] businessSessionOffset [] 1 = .ok fresh ∧
      Distinct [padded, june] ∧
      FirstNoticeRollSchedule.new id "GC" "CME" [rustSpec padded, rustSpec june] 1 =
        .ok schedule ∧
      (fresh.contractForSession 20590).1 = .ok padded ∧
      ∀ selection, schedule.select 20590 0 = .ok selection →
        selection.concreteInstrumentId = june.instrumentId.value := by
  refine ⟨rollingOneBefore [padded, june] (by decide),
    ⟨"GC", "CME", [trimmedSpec june, trimmedSpec padded], 1⟩,
    create_sorted (by decide) (by decide +kernel), by decide, ?_, ?_, ?_⟩
  · decide +kernel
  · have session : businessSessionOffset padded.firstNoticeDay (-1) = .ok 20594 :=
      businessSessionOffset_friday
    simp [contractForSession, firstAhead, rollSessionFor, rollingOneBefore, session,
      Dict.get?_empty, Except.map]
  · intro selection selected
    have session : FirstNoticeRollSchedule.rollSession
        ⟨"GC", "CME", [trimmedSpec june, trimmedSpec padded], 1⟩ (trimmedSpec june) =
          some 20594 :=
      @offsetBusinessSessions_of_ok june 1 _ (by decide) businessSessionOffset_friday
    simp [FirstNoticeRollSchedule.select, FirstNoticeRollSchedule.positionAhead, session]
      at selected
    rw [← selected]
    decide +kernel

end FirstNoticeDateFutureContractSelector

end Qts
