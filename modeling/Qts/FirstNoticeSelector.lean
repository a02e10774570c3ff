import Qts.HistoricalCsvReading

/-! # The first-notice selector -/

namespace Qts

open StepRuns List

structure FutureContractRollSpec where
  symbol : String
  instrumentId : InstrumentId
  firstNoticeDay : Int
  expiry : DateTime
  notEmpty : PythonText.isBlank symbol = false
  dated : pythonDates.holds firstNoticeDay = true

instance : DecidableEq FutureContractRollSpec := fun first second =>
  decidable_of_iff (first.symbol = second.symbol ∧ first.instrumentId = second.instrumentId ∧
      first.firstNoticeDay = second.firstNoticeDay ∧ first.expiry = second.expiry)
    (by cases first; cases second; simp)

abbrev SessionOffset := Int → Int → Except Failure Int

/-- The sort key of contracts, by expiry and then by symbol. -/
def ExpiresFirst (first second : FutureContractRollSpec) : Prop :=
  first.expiry < second.expiry ∨ (first.expiry = second.expiry ∧ first.symbol ≤ second.symbol)

instance (first second : FutureContractRollSpec) : Decidable (ExpiresFirst first second) :=
  inferInstanceAs (Decidable (_ ∨ _))

structure FirstNoticeDateFutureContractSelector where
  contracts : List FutureContractRollSpec
  nonempty : contracts ≠ []
  sessionOffset : SessionOffset
  rollSessionsBeforeFirstNotice : Int
  rollSessions : Dict (InstrumentId × DateTime) Int := .empty

namespace FirstNoticeDateFutureContractSelector

-- The month of an expiry is that of the zone of its datetime.
variable (monthOf : DateTime → Nat) (isoformat : Int → String)

def ofActiveMonths (activeMonths : List Nat) (contracts : List FutureContractRollSpec) :
    List FutureContractRollSpec :=
  contracts.filter fun contract =>
    activeMonths.isEmpty || activeMonths.contains (monthOf contract.expiry)

def create (contracts : List FutureContractRollSpec) (sessionOffset : SessionOffset)
    (activeMonths : List Nat) (rollSessionsBeforeFirstNotice : Int) :
    Except Failure FirstNoticeDateFutureContractSelector :=
  if rollSessionsBeforeFirstNotice ≤ 0 then
    .error (.valueError "roll_sessions_before_first_notice must be positive")
  else
    match (ofActiveMonths monthOf activeMonths contracts).insertionSort ExpiresFirst with
    | [] => .error (.valueError "at least one roll contract is required")
    | first :: rest =>
      .ok { contracts := first :: rest
            nonempty := cons_ne_nil first rest
            sessionOffset, rollSessionsBeforeFirstNotice }

def rollSessionFor (selector : FirstNoticeDateFutureContractSelector)
    (contract : FutureContractRollSpec) :
    Except Failure Int × FirstNoticeDateFutureContractSelector :=
  match selector.rollSessions.get? (contract.instrumentId, contract.expiry) with
  | some rollSession => (.ok rollSession, selector)
  | none =>
    match selector.sessionOffset contract.firstNoticeDay
        (-selector.rollSessionsBeforeFirstNotice) with
    | .error failure => (.error failure, selector)
    | .ok rollSession =>
      (.ok rollSession, { selector with
        rollSessions := selector.rollSessions.set (contract.instrumentId, contract.expiry)
          rollSession })

def firstAhead (sessionDate : Int) :
    FirstNoticeDateFutureContractSelector → List FutureContractRollSpec →
      Except Failure (Option FutureContractRollSpec) × FirstNoticeDateFutureContractSelector
  | selector, [] => (.ok none, selector)
  | selector, contract :: contracts =>
    match selector.rollSessionFor contract with
    | (.error failure, next) => (.error failure, next)
    | (.ok rollSession, next) =>
      if sessionDate < rollSession then (.ok (some contract), next)
      else firstAhead sessionDate next contracts

def contractForSession (selector : FirstNoticeDateFutureContractSelector) (sessionDate : Int) :
    Except Failure FutureContractRollSpec × FirstNoticeDateFutureContractSelector :=
  let found := firstAhead sessionDate selector selector.contracts
  (found.1.map fun contract => contract.getD (selector.contracts.getLast selector.nonempty),
    found.2)

def select (selector : FirstNoticeDateFutureContractSelector)
    (candidates : List FutureContractCandidate) :
    Except Failure FutureContractCandidate × FirstNoticeDateFutureContractSelector :=
  match (candidates.map (·.sessionDate)).dedup with
  | [] => (.error (.valueError "candidates must not be empty"), selector)
  | [some sessionDate] =>
    match selector.contractForSession sessionDate with
    | (.error failure, next) => (.error failure, next)
    | (.ok target, next) =>
      -- Of several candidates of one instrument the dict keeps the last one.
      match candidates.reverse.find? fun candidate =>
          candidate.instrumentId = target.instrumentId with
      | some candidate => (.ok candidate, next)
      | none => (.error (.other ("scheduled contract " ++ target.instrumentId.value ++
          " is unavailable for session " ++ isoformat sessionDate)), next)
  | _ => (.error (.valueError
      "first-notice roll selection requires one exchange session date"), selector)

def rollSessionOf (selector : FirstNoticeDateFutureContractSelector)
    (contract : FutureContractRollSpec) : Except Failure Int :=
  selector.sessionOffset contract.firstNoticeDay (-selector.rollSessionsBeforeFirstNotice)

structure Remembers (fresh selector : FirstNoticeDateFutureContractSelector) : Prop where
  contracts : selector.contracts = fresh.contracts
  sessionOffset : selector.sessionOffset = fresh.sessionOffset
  sessions : selector.rollSessionsBeforeFirstNotice = fresh.rollSessionsBeforeFirstNotice
  known : ∀ contract ∈ fresh.contracts,
    ∀ rollSession ∈ selector.rollSessions.get? (contract.instrumentId, contract.expiry),
      fresh.rollSessionOf contract = .ok rollSession

variable {fresh selector : FirstNoticeDateFutureContractSelector}
  {contract : FutureContractRollSpec} {contracts : List FutureContractRollSpec}
  {sessionDate : Int}

def Distinct (contracts : List FutureContractRollSpec) : Prop :=
  (contracts.map (·.instrumentId)).Nodup

instance (contracts : List FutureContractRollSpec) : Decidable (Distinct contracts) :=
  inferInstanceAs (Decidable (Nodup _))

variable {other : FutureContractRollSpec}

theorem Distinct.eq (distinct : Distinct contracts) (mem : contract ∈ contracts)
    (otherMember : other ∈ contracts) (same : contract.instrumentId = other.instrumentId) :
    contract = other :=
  inj_on_of_nodup_map distinct mem otherMember same

theorem rollSessionFor_spec (distinct : Distinct fresh.contracts)
    (remembers : Remembers fresh selector) (mem : contract ∈ fresh.contracts) :
    (selector.rollSessionFor contract).1 = fresh.rollSessionOf contract ∧
      Remembers fresh (selector.rollSessionFor contract).2 := by
  have asked : selector.sessionOffset contract.firstNoticeDay
      (-selector.rollSessionsBeforeFirstNotice) = fresh.rollSessionOf contract := by
    rw [remembers.sessionOffset, remembers.sessions]
    rfl
  unfold rollSessionFor
  cases found : selector.rollSessions.get? (contract.instrumentId, contract.expiry) with
  | some rollSession => exact ⟨(remembers.known contract mem rollSession found).symm, remembers⟩
  | none =>
    dsimp only
    rw [asked]
    cases said : fresh.rollSessionOf contract with
    | error failure => exact ⟨rfl, remembers⟩
    | ok rollSession =>
      refine ⟨rfl, remembers.contracts, remembers.sessionOffset, remembers.sessions, ?_⟩
      intro other otherMember remembered isRemembered
      rw [Dict.get?_set] at isRemembered
      split at isRemembered
      · next same =>
        obtain rfl := Option.mem_some_iff.mp isRemembered
        have instrument := congrArg Prod.fst same
        rw [distinct.eq otherMember mem instrument]
        exact said
      · exact remembers.known other otherMember remembered isRemembered

def aheadOf (rollSession : FutureContractRollSpec → Except Failure Int)
    (sessionDate : Int) :
    List FutureContractRollSpec → Except Failure (Option FutureContractRollSpec)
  | [] => .ok none
  | contract :: contracts => do
    let session ← rollSession contract
    if sessionDate < session then return some contract
    aheadOf rollSession sessionDate contracts

theorem firstAhead_spec (distinct : Distinct fresh.contracts) (remembers : Remembers fresh selector)
    (subset : ∀ contract ∈ contracts, contract ∈ fresh.contracts) :
    (firstAhead sessionDate selector contracts).1 =
        aheadOf fresh.rollSessionOf sessionDate contracts ∧
      Remembers fresh (firstAhead sessionDate selector contracts).2 := by
  induction contracts generalizing selector with
  | nil => exact ⟨rfl, remembers⟩
  | cons contract contracts ih =>
    obtain ⟨answer, kept⟩ := rollSessionFor_spec distinct remembers
      (subset contract mem_cons_self)
    have rest := @ih (selector.rollSessionFor contract).2 kept
      fun other mem => subset other (mem_cons_of_mem _ mem)
    rw [firstAhead, aheadOf, ← answer]
    revert rest kept
    cases selector.rollSessionFor contract with
    | mk result next =>
      intro kept rest
      cases result with
      | error failure => exact ⟨rfl, kept⟩
      | ok rollSession =>
        dsimp only
        split
        · next ahead =>
          refine ⟨?_, kept⟩
          change _ = (if sessionDate < rollSession then _ else _)
          rw [if_pos ahead]
          rfl
        · next notAhead =>
          refine ⟨?_, rest.2⟩
          change _ = (if sessionDate < rollSession then _ else _)
          rw [if_neg notAhead]
          exact rest.1

/-- The contract at a position is the one for a session: all before it have rolled by then, and it
has not, unless it is the last one. -/
structure Schedules (rollSession : FutureContractRollSpec → Except Failure Int)
    (contracts : List FutureContractRollSpec) (sessionDate : Int) (position : Nat)
    (contract : FutureContractRollSpec) : Prop where
  stands : contracts[position]? = some contract
  rolled : ∀ index other, index < position → contracts[index]? = some other →
    ∃ session, rollSession other = .ok session ∧ session ≤ sessionDate
  own : ∃ session, rollSession contract = .ok session ∧
    (sessionDate < session ∨ (session ≤ sessionDate ∧ position + 1 = contracts.length))

variable {rollSession : FutureContractRollSpec → Except Failure Int}

theorem aheadOf_some (found : aheadOf rollSession sessionDate contracts = .ok (some contract)) :
    ∃ position : Nat, contracts[position]? = some contract ∧
      (∀ index other, index < position → contracts[index]? = some other →
        ∃ session : Int, rollSession other = .ok session ∧ session ≤ sessionDate) ∧
      ∃ session : Int, rollSession contract = .ok session ∧ sessionDate < session := by
  induction contracts with
  | nil => cases found
  | cons first contracts ih =>
    obtain ⟨session, known, found⟩ := bind_inv found
    by_cases ahead : sessionDate < session
    · rw [if_pos ahead] at found
      cases found
      exact ⟨0, rfl, by simp, session, known, ahead⟩
    · rw [if_neg ahead] at found
      obtain ⟨position, stands, rolled, own⟩ := ih found
      refine ⟨position + 1, stands, ?_, own⟩
      intro index other before isOther
      cases index with
      | zero =>
        cases isOther
        exact ⟨session, known, not_lt.mp ahead⟩
      | succ index => exact rolled index other (Nat.lt_of_succ_lt_succ before) isOther

theorem aheadOf_none (found : aheadOf rollSession sessionDate contracts = .ok none) :
    ∀ contract ∈ contracts, ∃ session, rollSession contract = .ok session ∧
      session ≤ sessionDate := by
  induction contracts with
  | nil => simp
  | cons first contracts ih =>
    obtain ⟨session, known, found⟩ := bind_inv found
    by_cases ahead : sessionDate < session
    · rw [if_pos ahead] at found
      cases found
    · rw [if_neg ahead] at found
      intro contract mem
      rcases mem_cons.mp mem with rfl | later
      · exact ⟨session, known, not_lt.mp ahead⟩
      · exact ih found contract later

theorem contractForSession_remembers (distinct : Distinct fresh.contracts)
    (remembers : Remembers fresh selector) (sessionDate : Int) :
    Remembers fresh (selector.contractForSession sessionDate).2 :=
  (firstAhead_spec distinct remembers (by rw [remembers.contracts]; exact fun _ inside => inside)).2

theorem contractForSession_schedules (distinct : Distinct fresh.contracts)
    (remembers : Remembers fresh selector)
    (chosen : (selector.contractForSession sessionDate).1 = .ok contract) :
    ∃ position, Schedules fresh.rollSessionOf fresh.contracts sessionDate position contract := by
  have answer := (@firstAhead_spec fresh selector selector.contracts sessionDate distinct
    remembers (by rw [remembers.contracts]; exact fun _ inside => inside)).1
  have last : selector.contracts.getLast selector.nonempty ∈ fresh.contracts.getLast? := by
    rw [← remembers.contracts]
    exact getLast?_eq_some_getLast selector.nonempty
  rw [contractForSession, Prod.fst, answer] at chosen
  generalize selector.contracts.getLast selector.nonempty = final at last chosen
  rw [remembers.contracts] at chosen
  cases found : aheadOf fresh.rollSessionOf sessionDate fresh.contracts with
  | error failure =>
    rw [found] at chosen
    cases chosen
  | ok result =>
    rw [found] at chosen
    cases result with
    | some ahead =>
      cases chosen
      obtain ⟨position, stands, rolled, session, known, before⟩ := aheadOf_some found
      exact ⟨position, stands, rolled, session, known, .inl before⟩
    | none =>
      have same : final = contract := Except.ok.inj chosen
      rw [same] at last
      have all := aheadOf_none found
      have some := length_pos_iff.mpr fresh.nonempty
      obtain ⟨session, known, passed⟩ := all contract (mem_of_getLast? last)
      rw [getLast?_eq_getElem?] at last
      refine ⟨fresh.contracts.length - 1, last, ?_, session, known, .inr ⟨passed, by omega⟩⟩
      intro index other _ isOther
      exact all other (mem_of_getElem? isOther)

theorem Schedules.advances {earlier later : Int} {first second : Nat}
    (before : Schedules rollSession contracts earlier first contract)
    (after : Schedules rollSession contracts later second other) (le : earlier ≤ later) :
    first ≤ second := by
  by_contra behind
  obtain ⟨session, known, passed⟩ := before.rolled second other (not_le.mp behind) after.stands
  obtain ⟨same, isSame, own⟩ := after.own
  cases known.symm.trans isSame
  have bound : first < contracts.length := by
    by_contra beyond
    have stands := before.stands
    rw [getElem?_eq_none (not_lt.mp beyond)] at stands
    cases stands
  rcases own with ahead | ⟨-, isLast⟩
  · exact absurd (passed.trans le) (not_le.mpr ahead)
  · omega

theorem Schedules.neverLate {position : Nat} {session otherSession : Int}
    (schedules : Schedules rollSession contracts sessionDate position contract)
    (known : rollSession contract = .ok session) (passed : session ≤ sessionDate)
    (mem : other ∈ contracts) (otherKnown : rollSession other = .ok otherSession) :
    otherSession ≤ sessionDate := by
  obtain ⟨same, isSame, own⟩ := schedules.own
  cases known.symm.trans isSame
  obtain ⟨-, isLast⟩ := own.resolve_left (not_lt.mpr passed)
  obtain ⟨index, isOther⟩ := mem_iff_getElem?.mp mem
  have bound : index < contracts.length := by
    by_contra beyond
    rw [getElem?_eq_none (not_lt.mp beyond)] at isOther
    cases isOther
  by_cases before : index < position
  · obtain ⟨found, isFound, rolled⟩ := schedules.rolled index other before isOther
    cases otherKnown.symm.trans isFound
    exact rolled
  · obtain rfl : index = position := by omega
    cases schedules.stands.symm.trans isOther
    cases known.symm.trans otherKnown
    exact passed

theorem select_remembers (distinct : Distinct fresh.contracts)
    (remembers : Remembers fresh selector) (candidates : List FutureContractCandidate) :
    Remembers fresh (selector.select isoformat candidates).2 := by
  unfold select
  split
  · exact remembers
  · next sessionDate alone =>
    have kept := contractForSession_remembers distinct remembers sessionDate
    split
    · next failed => rwa [failed] at kept
    · next chosen =>
      rw [chosen] at kept
      split
      · exact kept
      · exact kept
  · exact remembers

theorem remembers_self (empty : fresh.rollSessions = .empty) : Remembers fresh fresh where
  contracts := rfl
  sessionOffset := rfl
  sessions := rfl
  known contract _ rollSession found := by
    rw [empty] at found
    cases found

theorem reachable_remembers (empty : fresh.rollSessions = .empty)
    (distinct : Distinct fresh.contracts) (reached : Reachable (select isoformat) fresh selector) :
    Remembers fresh selector := by
  apply reached.inv (remembers_self empty)
  intro state candidates remembers
  exact select_remembers isoformat distinct remembers candidates

theorem select_answers {candidates : List FutureContractCandidate}
    {candidate : FutureContractCandidate}
    (answered : (selector.select isoformat candidates).1 = .ok candidate) :
    candidate ∈ candidates ∧ ∃ sessionDate target,
      (∀ other ∈ candidates, other.sessionDate = some sessionDate) ∧
      (selector.contractForSession sessionDate).1 = .ok target ∧
      candidate.instrumentId = target.instrumentId := by
  unfold select at answered
  split at answered
  · cases answered
  · next sessionDate alone =>
    split at answered
    · cases answered
    · next target next chosen =>
      split at answered
      · next found isFound =>
        cases answered
        have own := find?_some isFound
        rw [decide_eq_true_eq] at own
        refine ⟨mem_reverse.mp (mem_of_find?_eq_some isFound), sessionDate, target, ?_,
          by rw [chosen], own⟩
        intro other mem
        have inside : other.sessionDate ∈ (candidates.map (·.sessionDate)).dedup :=
          mem_dedup.mpr (mem_map_of_mem mem)
        rw [alone] at inside
        exact mem_singleton.mp inside
      · cases answered
  · cases answered

structure RollsByFirstNotice (fresh : FirstNoticeDateFutureContractSelector) : Prop where
  /-- The contracts stand in the order of their expiries. -/
  byExpiry : fresh.contracts.Pairwise fun first second => first.expiry ≤ second.expiry
  /-- The first contract whose roll session is after the session, else the last. -/
  schedules : ∀ selector, Reachable (select isoformat) fresh selector →
    ∀ sessionDate contract, (selector.contractForSession sessionDate).1 = .ok contract →
      ∃ position, Schedules fresh.rollSessionOf fresh.contracts sessionDate position contract
  /-- A later session, asked for before or after, has no earlier contract. -/
  advances : ∀ selector, Reachable (select isoformat) fresh selector →
    ∀ other, Reachable (select isoformat) fresh other →
    ∀ sessionDate otherDate contract otherContract, sessionDate ≤ otherDate →
      (selector.contractForSession sessionDate).1 = .ok contract →
      (other.contractForSession otherDate).1 = .ok otherContract →
      fresh.contracts.idxOf contract ≤ fresh.contracts.idxOf otherContract
  /-- No contract is selected from its roll session on while another is before its own. -/
  neverLate : ∀ selector, Reachable (select isoformat) fresh selector →
    ∀ sessionDate contract, (selector.contractForSession sessionDate).1 = .ok contract →
      ∀ session : Int, fresh.rollSessionOf contract = .ok session → session ≤ sessionDate →
        ∀ other ∈ fresh.contracts, ∀ otherSession : Int,
          fresh.rollSessionOf other = .ok otherSession → otherSession ≤ sessionDate
  /-- The candidate of the contract for the session of the candidates is selected. -/
  answers : ∀ selector, Reachable (select isoformat) fresh selector →
    ∀ candidates candidate, (selector.select isoformat candidates).1 = .ok candidate →
      candidate ∈ candidates ∧ ∃ sessionDate target,
        (∀ other ∈ candidates, other.sessionDate = some sessionDate) ∧
        (selector.contractForSession sessionDate).1 = .ok target ∧
        candidate.instrumentId = target.instrumentId

theorem Schedules.idxOf {position : Nat} (distinct : Distinct contracts)
    (schedules : Schedules rollSession contracts sessionDate position contract) :
    contracts.idxOf contract = position := by
  have nodup : contracts.Nodup := List.Nodup.of_map _ distinct
  obtain ⟨bound, stands⟩ := List.getElem?_eq_some_iff.mp schedules.stands
  rw [← stands]
  exact nodup.idxOf_getElem position bound

theorem expiresFirst_total (first second : FutureContractRollSpec) :
    ExpiresFirst first second ∨ ExpiresFirst second first := by
  unfold ExpiresFirst
  rcases lt_trichotomy first.expiry second.expiry with less | same | more
  · exact .inl (.inl less)
  · rcases le_total first.symbol second.symbol with le | ge
    · exact .inl (.inr ⟨same, le⟩)
    · exact .inr (.inr ⟨same.symm, ge⟩)
  · exact .inr (.inl more)

theorem expiresFirst_trans {first second third : FutureContractRollSpec}
    (le : ExpiresFirst first second) (next : ExpiresFirst second third) :
    ExpiresFirst first third := by
  unfold ExpiresFirst at *
  rcases le with less | ⟨same, le⟩
  · rcases next with more | ⟨equal, -⟩
    · exact .inl (less.trans more)
    · exact .inl (equal ▸ less)
  · rcases next with more | ⟨equal, ge⟩
    · exact .inl (same ▸ more)
    · exact .inr ⟨same.trans equal, le.trans ge⟩

variable {monthOf} in
/-- The fields of a new selector. -/
theorem create_inv {given : List FutureContractRollSpec} {sessionOffset : SessionOffset}
    {activeMonths : List Nat} {sessions : Int}
    (created : create monthOf given sessionOffset activeMonths sessions = .ok fresh) :
    0 < sessions ∧ fresh.sessionOffset = sessionOffset ∧
      fresh.rollSessionsBeforeFirstNotice = sessions ∧ fresh.rollSessions = .empty ∧
      fresh.contracts = (ofActiveMonths monthOf activeMonths given).insertionSort ExpiresFirst := by
  unfold create at created
  split at created
  · cases created
  · next pos =>
    split at created
    · cases created
    · next first rest sorted =>
      cases created
      exact ⟨not_le.mp pos, rfl, rfl, rfl, sorted.symm⟩

variable {monthOf} in
theorem create_rolls {given : List FutureContractRollSpec} {sessionOffset : SessionOffset}
    {activeMonths : List Nat} {sessions : Int} (distinct : Distinct given)
    (created : create monthOf given sessionOffset activeMonths sessions = .ok fresh) :
    Distinct fresh.contracts ∧ RollsByFirstNotice isoformat fresh := by
  obtain ⟨-, -, -, empty, sorted⟩ := create_inv created
  have perm := perm_insertionSort ExpiresFirst (ofActiveMonths monthOf activeMonths given)
  have apart : Distinct fresh.contracts := by
    unfold Distinct
    rw [sorted, (perm.map _).nodup_iff]
    exact distinct.sublist (filter_sublist.map _)
  have total : Std.Total ExpiresFirst := ⟨expiresFirst_total⟩
  have trans : IsTrans FutureContractRollSpec ExpiresFirst :=
    ⟨fun _ _ _ => expiresFirst_trans⟩
  refine ⟨apart, ?_, ?_, ?_, ?_, ?_⟩
  · rw [sorted]
    apply (pairwise_insertionSort ExpiresFirst _).imp
    rintro first second (less | ⟨same, -⟩)
    · exact less.le
    · exact same.le
  · intro selector reached sessionDate contract chosen
    exact contractForSession_schedules apart (reachable_remembers isoformat empty apart reached)
      chosen
  · intro selector reached other otherReached sessionDate otherDate contract otherContract le
      chosen otherChosen
    obtain ⟨position, first⟩ := contractForSession_schedules apart
      (reachable_remembers isoformat empty apart reached) chosen
    obtain ⟨otherPosition, second⟩ := contractForSession_schedules apart
      (reachable_remembers isoformat empty apart otherReached) otherChosen
    rw [first.idxOf apart, second.idxOf apart]
    exact first.advances second le
  · intro selector reached sessionDate contract chosen session known passed other mem
      otherSession otherKnown
    obtain ⟨position, schedules⟩ := contractForSession_schedules apart
      (reachable_remembers isoformat empty apart reached) chosen
    exact schedules.neverLate known passed mem otherKnown
  · intro selector _ candidates candidate answered
    exact select_answers isoformat answered

end FirstNoticeDateFutureContractSelector

end Qts
