import Qts.HistoricalCsvReading

/-! # Session windows in two languages -/

namespace Qts

open TimeInterval DateRange

namespace Calendar

/-- The instants of a local time, as `chrono` answers for a time zone. -/
inductive LocalResult
  | none
  | single (value : DateTime)
  | ambiguous (earliest latest : DateTime)

def ResolvesUnique (zone : TimeZone) (fromLocalDatetime : Int → LocalResult) : Prop :=
  ∀ time instant, (∀ other, zone.localTime other = time ↔ other = instant) →
    fromLocalDatetime time = .single instant

inductive SessionError
  | invalidSessionId
  | invalidInterval
  | nonexistentLocalTime

structure RegularSessionWindow where
  timezone : TimeZone
  openTime : Int
  closeTime : Int

def resolveLocalDatetime (fromLocalDatetime : Int → LocalResult) (localTime : Int) :
    Except SessionError DateTime :=
  match fromLocalDatetime localTime with
  | .single value => .ok value
  | .ambiguous first _ => .ok first
  | .none => .error .nonexistentLocalTime

namespace RegularSessionWindow

variable (window : RegularSessionWindow)

/-- The interval of a session; the zone's answers and the reading of a date are `chrono`'s. -/
def intervalForSessionId (fromLocalDatetime : Int → LocalResult)
    (parseFromStr : String → Option Int) (sessionId : String) :
    Except SessionError TimeInterval := do
  let closeDate ← match parseFromStr sessionId with
    | some day => .ok day
    | none => .error .invalidSessionId
  let openDate ← if window.closeTime ≤ window.openTime then
      if naiveDates.holds (closeDate - 1) then .ok (closeDate - 1) else .error .invalidSessionId
    else .ok closeDate
  let start ← resolveLocalDatetime fromLocalDatetime (openDate * oneDay + window.openTime)
  let close ← resolveLocalDatetime fromLocalDatetime (closeDate * oneDay + window.closeTime)
  if ordered : start < close then return ⟨start, close, ordered⟩
  throw .invalidInterval

def closeDateFor (timestamp : DateTime) : Option Int :=
  let localTime := window.timezone.localTime timestamp
  let time := localTime % oneDay
  let date := localTime / oneDay
  if window.closeTime ≤ window.openTime then
    if window.openTime ≤ time then
      if naiveDates.holds (date + 1) then some (date + 1) else none
    else if time < window.closeTime then some date
    else none
  else if window.openTime ≤ time ∧ time < window.closeTime then some date
  else none

def sessionIdFor (format : Int → String) (timestamp : DateTime) : Option String :=
  (window.closeDateFor timestamp).map format

end RegularSessionWindow

end Calendar

namespace RegularSessionWindow

variable (window : RegularSessionWindow)

def toRust : Calendar.RegularSessionWindow where
  timezone := window.exchangeTimezone
  openTime := window.openTime
  closeTime := window.closeTime

def openDate (date : Int) : Int :=
  if window.openTime < window.closeTime then date else date - 1

def openLocal (date : Int) : Int :=
  window.openDate date * oneDay + window.openTime

def closeLocal (date : Int) : Int :=
  date * oneDay + window.closeTime

theorem openLocal_lt_closeLocal (date : Int) : window.openLocal date < window.closeLocal date := by
  have opens := window.openOfDay
  have closes := window.closeOfDay
  unfold openLocal closeLocal openDate
  split
  · omega
  · rw [Int.sub_mul]
    omega

def sessionDateAt (localTime : Int) : Option Int :=
  if window.openTime < window.closeTime then
    if window.openTime ≤ localTime % oneDay ∧ localTime % oneDay < window.closeTime then
      some (localTime / oneDay)
    else none
  else if window.openTime ≤ localTime % oneDay then some (localTime / oneDay + 1)
  else if localTime % oneDay < window.closeTime then some (localTime / oneDay)
  else none

theorem sessionDateAt_iff (localTime date : Int) :
    window.sessionDateAt localTime = some date ↔
      window.openLocal date ≤ localTime ∧ localTime < window.closeLocal date := by
  obtain ⟨opens, opened⟩ := window.openOfDay
  obtain ⟨closes, closed⟩ := window.closeOfDay
  have parts := Int.mul_ediv_add_emod localTime oneDay
  have nonnegative := Int.emod_nonneg localTime (show oneDay ≠ 0 by decide)
  have below := Int.emod_lt_of_pos localTime (show 0 < oneDay by decide)
  unfold sessionDateAt openLocal closeLocal openDate
  generalize localTime % oneDay = time at *
  generalize localTime / oneDay = day at *
  simp only [oneDay, oneSecond] at *
  by_cases sameDay : window.openTime < window.closeTime
  · rw [if_pos sameDay, if_pos sameDay]
    split
    · rw [Option.some_inj]
      omega
    · simp only [reduceCtorEq, false_iff]
      omega
  · rw [if_neg sameDay, if_neg sameDay]
    split
    · rw [Option.some_inj]
      omega
    · split
      · rw [Option.some_inj]
        omega
      · simp only [reduceCtorEq, false_iff]
        omega

def Representable (date : Int) : Prop :=
  pythonDates.holds (window.openDate date) = true ∧
    pythonDates.holds
      (window.exchangeTimezone.instantOf (window.openLocal date) false / oneDay) = true ∧
    pythonDates.holds
      (window.exchangeTimezone.instantOf (window.closeLocal date) false / oneDay) = true

instance (date : Int) : Decidable (window.Representable date) :=
  inferInstanceAs (Decidable (_ ∧ _ ∧ _))

def RepresentableAt (timestamp : DateTime) : Prop :=
  pythonDates.holds (timestamp / oneDay) = true ∧
    pythonDates.holds (window.exchangeTimezone.localTime timestamp / oneDay) = true ∧
    ∀ date ∈ window.sessionDateAt (window.exchangeTimezone.localTime timestamp),
      pythonDates.holds date = true

instance (timestamp : DateTime) : Decidable (window.RepresentableAt timestamp) :=
  inferInstanceAs (Decidable (_ ∧ _ ∧ _))

/-- What Python raises for a date outside its years. -/
def outOfRange : Failure :=
  .other "date value out of range"

theorem checkedDate_eq (day : Int) :
    checkedDate day = if pythonDates.holds day then .ok day else .error outOfRange :=
  rfl

theorem checkedDateTime_eq (time : Int) :
    checkedDateTime time =
      if pythonDates.holds (time / oneDay) then .ok time else .error outOfRange :=
  rfl

theorem sessionDateForTimestamp_eq (timestamp : DateTime) :
    window.sessionDateForTimestamp timestamp =
      if window.RepresentableAt timestamp then
        .ok (window.sessionDateAt (window.exchangeTimezone.localTime timestamp))
      else .error outOfRange := by
  unfold sessionDateForTimestamp
  rw [checkedDateTime_eq]
  by_cases instantHeld : pythonDates.holds (timestamp / oneDay) = true
  swap
  · rw [if_neg instantHeld, if_neg fun held : window.RepresentableAt timestamp =>
      instantHeld held.1]
    rfl
  rw [if_pos instantHeld]
  simp only [bind, Except.bind, checkedDateTime_eq]
  by_cases localHeld :
      pythonDates.holds (window.exchangeTimezone.localTime timestamp / oneDay) = true
  swap
  · rw [if_neg localHeld, if_neg fun held : window.RepresentableAt timestamp =>
      localHeld held.2.1]
  rw [if_pos localHeld]
  have representable : window.RepresentableAt timestamp ↔
      ∀ date ∈ window.sessionDateAt (window.exchangeTimezone.localTime timestamp),
        pythonDates.holds date = true :=
    ⟨fun held => held.2.2, fun held => ⟨instantHeld, localHeld, held⟩⟩
  rw [if_congr representable rfl rfl]
  generalize window.exchangeTimezone.localTime timestamp = localTime at *
  unfold sessionDateAt
  by_cases sameDay : window.openTime < window.closeTime
  · simp only [sameDay, if_true]
    split
    · simp [localHeld, pure, Except.pure]
    · simp [pure, Except.pure]
  · simp only [sameDay, if_false]
    split
    · rw [checkedDate_eq]
      by_cases nextHeld : pythonDates.holds (localTime / oneDay + 1) = true
      · simp [nextHeld, pure, Except.pure]
      · simp [nextHeld]
    · split
      · simp [localHeld, pure, Except.pure]
      · simp [pure, Except.pure]

variable {date : Int}

theorem intervalForSessionId_eq {fromIsoFormat : String → Except Failure Int}
    {sessionId : String} (read : fromIsoFormat sessionId = .ok date)
    (dated : pythonDates.holds date = true)
    (ordered : window.exchangeTimezone.instantOf (window.openLocal date) false <
      window.exchangeTimezone.instantOf (window.closeLocal date) false) :
    window.intervalForSessionId fromIsoFormat sessionId =
      if window.Representable date then
        .ok (some ⟨window.exchangeTimezone.instantOf (window.openLocal date) false,
          window.exchangeTimezone.instantOf (window.closeLocal date) false, ordered⟩)
      else .error outOfRange := by
  have opening : (if window.openTime < window.closeTime then Except.ok date
      else checkedDate (date - 1)) =
      if pythonDates.holds (window.openDate date) then .ok (window.openDate date)
      else .error outOfRange := by
    unfold openDate
    by_cases sameDay : window.openTime < window.closeTime
    · rw [if_pos sameDay, if_pos sameDay, if_pos dated]
    · rw [if_neg sameDay, if_neg sameDay, checkedDate_eq]
  have steps : window.intervalForSessionId fromIsoFormat sessionId =
      ((if window.openTime < window.closeTime then .ok date else checkedDate (date - 1)) >>=
        fun openDate => checkedDateTime
          (window.exchangeTimezone.instantOf (openDate * oneDay + window.openTime) false) >>=
        fun start => checkedDateTime
          (window.exchangeTimezone.instantOf (window.closeLocal date) false) >>=
        fun close => of start close >>= fun interval => .ok (some interval)) := by
    unfold intervalForSessionId
    rw [read]
    by_cases sameDay : window.openTime < window.closeTime
    · simp only [sameDay, if_true]
      rfl
    · simp only [sameDay, if_false]
      rfl
  rw [steps, opening]
  by_cases openHeld : pythonDates.holds (window.openDate date) = true
  swap
  · rw [if_neg openHeld, if_neg fun held : window.Representable date => openHeld held.1]
    rfl
  rw [if_pos openHeld]
  change (checkedDateTime
    (window.exchangeTimezone.instantOf (window.openLocal date) false) >>= _) = _
  rw [checkedDateTime_eq]
  by_cases startHeld : pythonDates.holds
      (window.exchangeTimezone.instantOf (window.openLocal date) false / oneDay) = true
  swap
  · rw [if_neg startHeld, if_neg fun held : window.Representable date => startHeld held.2.1]
    rfl
  rw [if_pos startHeld]
  change (checkedDateTime
    (window.exchangeTimezone.instantOf (window.closeLocal date) false) >>= _) = _
  rw [checkedDateTime_eq]
  by_cases closeHeld : pythonDates.holds
      (window.exchangeTimezone.instantOf (window.closeLocal date) false / oneDay) = true
  swap
  · rw [if_neg closeHeld, if_neg fun held : window.Representable date => closeHeld held.2.2]
    rfl
  have representable : window.Representable date := ⟨openHeld, startHeld, closeHeld⟩
  rw [if_pos closeHeld, if_pos representable]
  change (of (window.exchangeTimezone.instantOf (window.openLocal date) false)
    (window.exchangeTimezone.instantOf (window.closeLocal date) false) >>= _) = _
  rw [of, dif_pos ordered]
  rfl

theorem naive_of_python {day : Int} (held : pythonDates.holds day = true) :
    naiveDates.holds day = true := by
  obtain ⟨lower, upper⟩ := holds_iff.mp held
  exact holds_iff.mpr ⟨lower.trans' (by decide), upper.trans (by decide)⟩

theorem closeDateFor_eq (timestamp : DateTime) {answer : Option Int}
    (assigned : window.sessionDateAt (window.exchangeTimezone.localTime timestamp) = answer)
    (held : ∀ date ∈ answer, naiveDates.holds date = true) :
    window.toRust.closeDateFor timestamp = answer := by
  subst assigned
  unfold Calendar.RegularSessionWindow.closeDateFor toRust sessionDateAt
  unfold sessionDateAt at held
  dsimp only
  generalize window.exchangeTimezone.localTime timestamp = localTime at *
  by_cases sameDay : window.openTime < window.closeTime
  · rw [if_neg (not_le.mpr sameDay), if_pos sameDay]
  · rw [if_pos (not_lt.mp sameDay), if_neg sameDay]
    by_cases evening : window.openTime ≤ localTime % oneDay
    · rw [if_neg sameDay, if_pos evening] at held
      rw [if_pos evening, if_pos evening, if_pos (held _ rfl)]
    · rw [if_neg evening, if_neg evening]

theorem sessionDateAt_of_closeDateFor {timestamp : DateTime}
    (answered : window.toRust.closeDateFor timestamp = some date) :
    window.sessionDateAt (window.exchangeTimezone.localTime timestamp) = some date := by
  unfold Calendar.RegularSessionWindow.closeDateFor toRust at answered
  unfold sessionDateAt
  dsimp only at answered
  generalize window.exchangeTimezone.localTime timestamp = localTime at *
  by_cases sameDay : window.openTime < window.closeTime
  · rw [if_neg (not_le.mpr sameDay)] at answered
    rw [if_pos sameDay, answered]
  · rw [if_pos (not_lt.mp sameDay)] at answered
    rw [if_neg sameDay]
    by_cases evening : window.openTime ≤ localTime % oneDay
    · rw [if_pos evening] at answered ⊢
      split at answered
      · exact answered
      · cases answered
    · rw [if_neg evening] at answered ⊢
      exact answered

/-- Rust computes the interval between the two wall-clock times. -/
theorem toRust_intervalForSessionId_eq {fromLocalDatetime : Int → Calendar.LocalResult}
    (resolves : Calendar.ResolvesUnique window.exchangeTimezone fromLocalDatetime)
    {parseFromStr : String → Option Int} {sessionId : String}
    (parsed : parseFromStr sessionId = some date) (dated : pythonDates.holds date = true)
    (opens : window.exchangeTimezone.ShownOnce (window.openLocal date))
    (closes : window.exchangeTimezone.ShownOnce (window.closeLocal date))
    (ordered : window.exchangeTimezone.instantOf (window.openLocal date) false <
      window.exchangeTimezone.instantOf (window.closeLocal date) false) :
    window.toRust.intervalForSessionId fromLocalDatetime parseFromStr sessionId =
      .ok ⟨window.exchangeTimezone.instantOf (window.openLocal date) false,
        window.exchangeTimezone.instantOf (window.closeLocal date) false, ordered⟩ := by
  have resolved : ∀ time, window.exchangeTimezone.ShownOnce time →
      Calendar.resolveLocalDatetime fromLocalDatetime time =
        .ok (window.exchangeTimezone.instantOf time false) := by
    intro time shown
    rw [Calendar.resolveLocalDatetime, resolves _ _ (shown.localTime_eq_iff false)]
  have closing := resolved _ closes
  have opening := resolved _ opens
  rw [closeLocal] at closing
  rw [openLocal, openDate] at opening
  unfold Calendar.RegularSessionWindow.intervalForSessionId
  rw [parsed]
  simp only [bind, Except.bind, toRust]
  by_cases sameDay : window.openTime < window.closeTime
  · rw [if_pos sameDay] at opening
    simp only [not_le.mpr sameDay, if_false, opening, closing]
    have inOrder := ordered
    rw [openLocal, openDate, if_pos sameDay, closeLocal] at inOrder
    rw [dif_pos inOrder]
    simp only [openLocal, openDate, closeLocal, if_pos sameDay]
    rfl
  · have held : naiveDates.holds (date - 1) = true := by
      obtain ⟨lower, upper⟩ := holds_iff.mp dated
      simp only [pythonDates] at lower upper
      rw [holds_iff]
      simp only [naiveDates]
      omega
    rw [if_neg sameDay] at opening
    simp only [not_lt.mp sameDay, if_true, held, opening, closing]
    have inOrder := ordered
    rw [openLocal, openDate, if_neg sameDay, closeLocal] at inOrder
    rw [dif_pos inOrder]
    simp only [openLocal, openDate, closeLocal, if_neg sameDay]
    rfl

section

variable (opens : window.exchangeTimezone.ShownOnce (window.openLocal date))
  (closes : window.exchangeTimezone.ShownOnce (window.closeLocal date))

include opens closes

theorem between_iff (timestamp : DateTime) :
    (window.exchangeTimezone.instantOf (window.openLocal date) false ≤ timestamp ∧
        timestamp < window.exchangeTimezone.instantOf (window.closeLocal date) false) ↔
      window.sessionDateAt (window.exchangeTimezone.localTime timestamp) = some date := by
  rw [sessionDateAt_iff, closes.localTime_lt_iff false, ← not_lt, ← opens.localTime_lt_iff false,
    not_lt]

theorem start_lt_close :
    window.exchangeTimezone.instantOf (window.openLocal date) false <
      window.exchangeTimezone.instantOf (window.closeLocal date) false := by
  rw [← closes.localTime_lt_iff false, opens.localTime_instantOf false]
  exact window.openLocal_lt_closeLocal date

end

theorem representableAt_of_between (dated : pythonDates.holds date = true)
    (representable : window.Representable date) {timestamp : DateTime}
    (after : window.exchangeTimezone.instantOf (window.openLocal date) false ≤ timestamp)
    (before : timestamp < window.exchangeTimezone.instantOf (window.closeLocal date) false)
    (assigned : window.sessionDateAt (window.exchangeTimezone.localTime timestamp) = some date) :
    window.RepresentableAt timestamp := by
  obtain ⟨openHeld, startHeld, closeHeld⟩ := representable
  have pos : 0 < oneDay := by decide
  refine ⟨?_, ?_, ?_⟩
  · exact holds_of_between startHeld closeHeld (Int.ediv_le_ediv pos after)
      (Int.ediv_le_ediv pos before.le)
  · obtain ⟨opened, notClosed⟩ := (window.sessionDateAt_iff _ _).mp assigned
    refine holds_of_between openHeld dated ?_ ?_
    · rw [Int.le_ediv_iff_mul_le pos]
      have opens := window.openOfDay
      unfold openLocal at opened
      omega
    · rw [← Int.lt_add_one_iff, Int.ediv_lt_iff_lt_mul pos, Int.add_mul, one_mul]
      have closes := window.closeOfDay
      unfold closeLocal at notClosed
      omega
  · intro other isOther
    obtain rfl := Option.mem_unique assigned isOther
    exact dated

section

variable {sessionId : String}
variable {fromIsoFormat : String → Except Failure Int} {parseFromStr : String → Option Int}
variable {isoformat format : Int → String} {fromLocalDatetime : Int → Calendar.LocalResult}

/-- Whichever way a session is asked for, and in either language, an instant lies in the interval
of a date if and only if the session of the instant is that of the date, until Python runs out of
dates. -/
theorem sessionWindow_roundTrip (dated : pythonDates.holds date = true)
    (opens : window.exchangeTimezone.ShownOnce (window.openLocal date))
    (closes : window.exchangeTimezone.ShownOnce (window.closeLocal date))
    (read : fromIsoFormat sessionId = .ok date) (parsed : parseFromStr sessionId = some date)
    (written : ∀ day, pythonDates.holds day = true → isoformat day = format day)
    (resolves : Calendar.ResolvesUnique window.exchangeTimezone fromLocalDatetime) :
    ∃ interval,
      window.toRust.intervalForSessionId fromLocalDatetime parseFromStr sessionId =
        .ok interval ∧
      (∀ timestamp, interval.Contains timestamp ↔
        window.toRust.closeDateFor timestamp = some date) ∧
      window.intervalForSessionId fromIsoFormat sessionId =
        (if window.Representable date then .ok (some interval) else .error outOfRange) ∧
      (window.Representable date → ∀ timestamp, interval.Contains timestamp ↔
        window.sessionDateForTimestamp timestamp = .ok (some date)) ∧
      ∀ timestamp, window.sessionIdForTimestamp isoformat timestamp =
        if window.RepresentableAt timestamp then
          .ok (window.toRust.sessionIdFor format timestamp)
        else .error outOfRange := by
  have ordered := window.start_lt_close opens closes
  refine ⟨_, window.toRust_intervalForSessionId_eq resolves parsed dated opens closes ordered,
    ?_, window.intervalForSessionId_eq read dated ordered, ?_, ?_⟩
  · intro timestamp
    refine (window.between_iff opens closes timestamp).trans ⟨?_, ?_⟩
    · intro assigned
      refine window.closeDateFor_eq timestamp assigned ?_
      rintro _ ⟨⟩
      exact naive_of_python dated
    · exact window.sessionDateAt_of_closeDateFor
  · intro representable timestamp
    rw [sessionDateForTimestamp_eq]
    constructor
    · rintro ⟨after, before⟩
      have assigned := (window.between_iff opens closes timestamp).mp ⟨after, before⟩
      rw [if_pos (window.representableAt_of_between dated representable after before assigned),
        assigned]
    · intro answered
      split at answered
      · exact (window.between_iff opens closes timestamp).mpr (Except.ok.inj answered)
      · cases answered
  · intro timestamp
    unfold sessionIdForTimestamp
    rw [sessionDateForTimestamp_eq]
    by_cases representable : window.RepresentableAt timestamp
    · have answered := window.closeDateFor_eq timestamp rfl fun date mem =>
        naive_of_python (representable.2.2 date mem)
      rw [if_pos representable, if_pos representable, Calendar.RegularSessionWindow.sessionIdFor,
        answered]
      refine congrArg Except.ok (Option.map_congr fun date mem => ?_)
      exact written date (representable.2.2 date mem)
    · rw [if_neg representable, if_neg representable]
      rfl

end

end RegularSessionWindow

/-- The instants of a local time among those that its two folds stand for. -/
def Calendar.fromLocalDatetime (zone : TimeZone) (time : Int) : LocalResult :=
  let earlier := zone.instantOf time false
  let later := zone.instantOf time true
  if zone.localTime earlier = time then
    if zone.localTime later = time ∧ later ≠ earlier then .ambiguous earlier later
    else .single earlier
  else if zone.localTime later = time then .single later
  else .none

theorem resolvesUnique_of_apart {zone : TimeZone} (apart : zone.Apart 0) :
    Calendar.ResolvesUnique zone (Calendar.fromLocalDatetime zone) := by
  intro time instant unique
  have shown := (unique instant).mpr rfl
  have found : zone.instantOf time (zone.foldAt instant) = instant := by
    have back := TimeZone.instantOf_localTime apart le_rfl instant
    rwa [shown] at back
  unfold Calendar.fromLocalDatetime
  dsimp only
  simp only [unique]
  cases fold : zone.foldAt instant with
  | false =>
    rw [fold] at found
    rw [if_pos found, if_neg, found]
    rintro ⟨same, ne⟩
    exact ne (same.trans found.symm)
  | true =>
    rw [fold] at found
    by_cases same : zone.instantOf time false = instant
    · rw [if_pos same, if_neg, same]
      rintro ⟨-, ne⟩
      exact ne (found.trans same.symm)
    · rw [if_neg same, if_pos found, found]

namespace SpringNight

def hour : Int := 3600 * oneSecond

/-- New York in 2026: the clock moves forward on 8 March and back on 1 November. -/
def newYork : TimeZone where
  initial := -5 * hour
  transitions :=
    [⟨20520 * oneDay + 7 * hour, -5 * hour, -4 * hour⟩,
     ⟨20758 * oneDay + 6 * hour, -4 * hour, -5 * hour⟩]
  linked := ⟨rfl, rfl, trivial⟩
  chronological := by simp only [List.pairwise_pair]; decide
  changes := by decide

def globex : RegularSessionWindow where
  exchangeTimezone := newYork
  openTime := 18 * hour
  closeTime := 17 * hour
  distinct := by decide
  openOfDay := by decide
  closeOfDay := by decide

def isoformat (day : Int) : String :=
  if day = 20520 then "2026-03-08" else toString day

def fromIsoFormat (text : String) : Except Failure Int :=
  if text = "2026-03-08" then .ok 20520
  else .error (.valueError ("Invalid isoformat string: '" ++ text ++ "'"))

def parseFromStr (text : String) : Option Int :=
  if text = "2026-03-08" then some 20520 else none

theorem newYork_apart : newYork.Apart 0 := by
  refine List.pairwise_pair.mpr ?_
  decide

theorem shownOnce {time : Int} (clear : ∀ transition ∈ newYork.transitions,
    time < transition.bottom ∨ transition.top ≤ time) : newYork.ShownOnce time := by
  intro transition mem
  have bounds := clear transition mem
  have before := transition.before_le_top
  have after := transition.after_le_top
  have lowerBefore := transition.bottom_le_before
  have lowerAfter := transition.bottom_le_after
  unfold Transition.Skips Transition.Repeats
  omega

/-- The night on which the clock moves forward, in a session of 22 hours. -/
theorem sessionWindow_roundTrip_spring : ∃ interval,
    globex.toRust.intervalForSessionId (Calendar.fromLocalDatetime newYork) parseFromStr
      "2026-03-08" = .ok interval ∧
    (∀ timestamp, interval.Contains timestamp ↔ globex.toRust.closeDateFor timestamp = some 20520) ∧
    globex.intervalForSessionId fromIsoFormat "2026-03-08" =
      (if globex.Representable 20520 then .ok (some interval)
        else .error RegularSessionWindow.outOfRange) ∧
    (globex.Representable 20520 → ∀ timestamp, interval.Contains timestamp ↔
      globex.sessionDateForTimestamp timestamp = .ok (some 20520)) ∧
    ∀ timestamp, globex.sessionIdForTimestamp isoformat timestamp =
      if globex.RepresentableAt timestamp then
        .ok (globex.toRust.sessionIdFor isoformat timestamp)
      else .error RegularSessionWindow.outOfRange := by
  refine globex.sessionWindow_roundTrip (by decide) (shownOnce (by decide)) (shownOnce (by decide))
    (by decide) (by decide) ?_ (resolvesUnique_of_apart newYork_apart)
  intro day _
  rfl

/-- Half past six in the evening of 9999-12-31. -/
def lastEvening : DateTime := 2932896 * oneDay + 23 * hour + 1800 * oneSecond

/-- The session of the last evening closes on a date that Python does not have. -/
theorem last_evening_splits_languages :
    globex.sessionDateForTimestamp lastEvening = .error RegularSessionWindow.outOfRange ∧
      globex.toRust.closeDateFor lastEvening = some 2932897 := by
  decide +kernel

end SpringNight

end Qts
