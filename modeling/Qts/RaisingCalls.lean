import Mathlib.Data.List.Forall2

/-! # Calls that may raise -/

namespace Qts

open EStateM (run_bind run_pure)

universe u

/-- The parts of a composed outcome that is a value. -/
theorem bind_inv {Failure Value Next : Type u} {first : Except Failure Value}
    {next : Value → Except Failure Next} {result : Next} (ran : (first >>= next) = .ok result) :
    ∃ value, first = .ok value ∧ next value = .ok result := by
  cases first with
  | ok value => exact ⟨value, rfl, ran⟩
  | error failure => cases ran

theorem ok_unique {Failure Value : Type u} {outcome : Except Failure Value} {first second : Value}
    (one : outcome = .ok first) (other : outcome = .ok second) : first = second :=
  Except.ok.inj (one.symm.trans other)

/-- Where a composed outcome failed. -/
theorem bind_error {Failure Value Next : Type u} {first : Except Failure Value}
    {next : Value → Except Failure Next} {failure : Failure}
    (ran : (first >>= next) = .error failure) :
    first = .error failure ∨ ∃ value, first = .ok value ∧ next value = .error failure := by
  cases first with
  | ok value => exact .inr ⟨value, rfl, ran⟩
  | error raised => exact .inl (congrArg Except.error (Except.error.inj ran))

namespace RaisingCalls

variable {Failure State Value Next Answer : Type u}

/-- The state a call leaves behind. -/
def endState : EStateM.Result Failure State Value → State
  | .ok _ state => state
  | .error _ state => state

def raised : EStateM.Result Failure State Value → Bool
  | .ok _ _ => false
  | .error _ _ => true

/-- Turn a call into one step of a service that answers failures as well. -/
def answer (returned : Value → Answer) (failed : Failure → Answer) :
    EStateM.Result Failure State Value → Answer × State
  | .ok value state => (returned value, state)
  | .error failure state => (failed failure, state)

@[simp]
theorem endState_ok (value : Value) (state : State) :
    endState (.ok value state : EStateM.Result Failure State Value) = state :=
  rfl

variable (failure : Failure)

@[simp]
theorem endState_error (state : State) :
    endState (.error failure state : EStateM.Result Failure State Value) = state :=
  rfl

@[simp]
theorem raised_ok (value : Value) (state : State) :
    raised (.ok value state : EStateM.Result Failure State Value) = false :=
  rfl

@[simp]
theorem raised_error (state : State) :
    raised (.error failure state : EStateM.Result Failure State Value) = true :=
  rfl

@[simp]
theorem answer_state (returned : Value → Answer) (failed : Failure → Answer)
    (result : EStateM.Result Failure State Value) :
    (answer returned failed result).2 = endState result := by
  cases result <;> rfl

@[simp]
theorem throw_run (state : State) :
    (throw failure : EStateM Failure State Value).run state = .error failure state :=
  rfl

variable {next : Value → EStateM Failure State Next} {call : EStateM Failure State Value}

theorem bind_run_ok {state middle : State} {value : Value} (ran : call.run state = .ok value middle)
    : (call >>= next).run state = (next value).run middle := by
  rw [run_bind, ran]

theorem bind_run_error {state middle : State} {failure : Failure}
    (ran : call.run state = .error failure middle) :
    (call >>= next).run state = .error failure middle := by
  rw [run_bind, ran]

/-- Whenever the call returns, its value satisfies the condition. -/
def Returns (condition : Value → Prop) (call : EStateM Failure State Value) : Prop :=
  ∀ state value after, call.run state = .ok value after → condition value

theorem Returns.pure {condition : Value → Prop} {value : Value} (holds : condition value) :
    Returns condition (Pure.pure value : EStateM Failure State Value) := by
  rintro state _ after ran
  rw [run_pure] at ran
  cases ran
  exact holds

theorem Returns.throw {condition : Value → Prop} :
    Returns condition (MonadExcept.throw failure : EStateM Failure State Value) := by
  intro state value after ran
  rw [throw_run] at ran
  cases ran

/-- The parts of a composed call that returned. -/
theorem bind_run_inv {state after : State} {result : Next}
    (ran : (call >>= next).run state = .ok result after) :
    ∃ value middle, call.run state = .ok value middle ∧
      (next value).run middle = .ok result after := by
  cases first : call.run state with
  | ok value middle =>
    rw [bind_run_ok first] at ran
    exact ⟨value, middle, rfl, ran⟩
  | error failure middle =>
    rw [bind_run_error first] at ran
    cases ran

theorem Returns.bind {middle : Value → Prop} {condition : Next → Prop}
    {call : EStateM Failure State Value} {next : Value → EStateM Failure State Next}
    (first : Returns middle call) (rest : ∀ value, middle value → Returns condition (next value)) :
    Returns condition (call >>= next) := by
  intro state result after ran
  obtain ⟨value, between, ranFirst, ranRest⟩ := bind_run_inv ran
  exact rest value (first state value between ranFirst) between result after ranRest

theorem Returns.bind_last {condition : Next → Prop} (rest : ∀ value, Returns condition (next value))
    : Returns condition (call >>= next) :=
  have first : Returns (fun _ => True) call := fun _ _ _ _ => trivial
  first.bind fun value _ => rest value

/-- The invariant holds after the call, whether it returns or raises. -/
def Keeps (inv : State → Prop) (call : EStateM Failure State Value) : Prop :=
  ∀ state, inv state → inv (endState (call.run state))

section Keeps

variable {inv : State → Prop}

theorem Keeps.pure (value : Value) :
    Keeps inv (Pure.pure value : EStateM Failure State Value) :=
  fun _ holds => holds

theorem Keeps.throw : Keeps inv (MonadExcept.throw failure : EStateM Failure State Value) :=
  fun _ holds => holds

theorem Keeps.bind {call : EStateM Failure State Value}
    {next : Value → EStateM Failure State Next} (first : Keeps inv call)
    (rest : ∀ value, Keeps inv (next value)) : Keeps inv (call >>= next) := by
  intro state holds
  have between := first state holds
  rw [run_bind]
  cases ran : call.run state with
  | ok value middle =>
    rw [ran] at between
    exact rest value middle between
  | error failure middle =>
    rw [ran] at between
    exact between

theorem Keeps.get {next : State → EStateM Failure State Value}
    (rest : ∀ state, inv state → Keeps inv (next state)) :
    Keeps inv (MonadState.get >>= next) :=
  fun state holds => rest state holds state holds

theorem Keeps.modify {change : State → State}
    (kept : ∀ state, inv state → inv (change state)) :
    Keeps inv (modify change : EStateM Failure State PUnit) :=
  kept

theorem Keeps.ite {condition : Prop} [Decidable condition]
    {first second : EStateM Failure State Value}
    (holds : condition → Keeps inv first) (fails : ¬ condition → Keeps inv second) :
    Keeps inv (if condition then first else second) := by
  split
  · next true => exact holds true
  · next false => exact fails false

theorem Keeps.tryCatch {handler : Failure → EStateM Failure State Value}
    (first : Keeps inv call) (handled : ∀ failure, Keeps inv (handler failure)) :
    Keeps inv (MonadExcept.tryCatch call handler) := by
  intro state holds
  have between := first state holds
  change inv (endState ((EStateM.tryCatch call handler).run state))
  simp only [EStateM.tryCatch, EStateM.run] at between ⊢
  cases ran : call state with
  | ok value middle =>
    rw [ran] at between
    exact between
  | error failure middle =>
    rw [ran] at between
    exact handled failure middle between

theorem Keeps.forIn {Item : Type u} {items : List Item}
    {call : Item → EStateM Failure State PUnit} (each : ∀ item, Keeps inv (call item)) :
    Keeps inv (ForIn.forIn items PUnit.unit fun item _ => do
      call item
      return ForInStep.yield PUnit.unit) := by
  induction items with
  | nil => exact Keeps.pure PUnit.unit
  | cons item items ih =>
    rw [List.forIn_cons]
    refine Keeps.bind (Keeps.bind (each item) fun _ => Keeps.pure _) fun step => ?_
    cases step with
    | done value => exact Keeps.pure value
    | yield value => exact ih

end Keeps

/-- The call leaves the state as it is, also when it raises. -/
def Unmoving (call : EStateM Failure State Value) : Prop :=
  ∀ state, (∃ value, call.run state = .ok value state) ∨
    ∃ failure, call.run state = .error failure state

section Unmoving

theorem Unmoving.pure (value : Value) : Unmoving (Pure.pure value : EStateM Failure State Value) :=
  fun _ => .inl ⟨value, rfl⟩

theorem Unmoving.throw : Unmoving (MonadExcept.throw failure : EStateM Failure State Value) :=
  fun _ => .inr ⟨failure, rfl⟩

theorem Unmoving.endState (unmoving : Unmoving call) (state : State) :
    endState (call.run state) = state := by
  rcases unmoving state with ⟨value, ran⟩ | ⟨failure, ran⟩ <;> rw [ran] <;> rfl

/-- A composed call raises with its first part, or goes on with what that answers. -/
theorem Unmoving.bind_run (unmoving : Unmoving call) (next : Value → EStateM Failure State Next)
    (state : State) :
    (∃ failure, (call >>= next).run state = .error failure state) ∨
      ∃ value, call.run state = .ok value state ∧
        (call >>= next).run state = (next value).run state := by
  rcases unmoving state with ⟨value, ran⟩ | ⟨failure, ran⟩
  · exact .inr ⟨value, ran, bind_run_ok ran⟩
  · exact .inl ⟨failure, bind_run_error ran⟩

theorem Unmoving.bind {call : EStateM Failure State Value}
    {next : Value → EStateM Failure State Next} (first : Unmoving call)
    (rest : ∀ value, Unmoving (next value)) : Unmoving (call >>= next) := by
  intro state
  rcases first.bind_run next state with raised | ⟨value, _, ran⟩
  · exact .inr raised
  · rw [ran]
    exact rest value state

theorem Unmoving.get {next : State → EStateM Failure State Value}
    (rest : ∀ state, Unmoving (next state)) : Unmoving (MonadState.get >>= next) :=
  fun state => rest state state

theorem Unmoving.ite {condition : Prop} [Decidable condition]
    {first second : EStateM Failure State Value} (holds : Unmoving first) (fails : Unmoving second)
    : Unmoving (if condition then first else second) := by
  split
  · exact holds
  · exact fails

theorem Unmoving.keeps (unmoving : Unmoving call) {inv : State → Prop} :
    Keeps inv call :=
  fun state holds => (unmoving.endState state).symm ▸ holds

end Unmoving

/-- From a state of the invariant, the call returns into it or raises an allowed failure. -/
def Guarded (inv : State → Prop) (allowed : Failure → Prop)
    (call : EStateM Failure State Value) : Prop :=
  ∀ state, inv state →
    match call.run state with
    | .ok _ after => inv after
    | .error failure _ => allowed failure

section Guarded

variable {inv : State → Prop} {allowed : Failure → Prop}

theorem Guarded.pure (value : Value) :
    Guarded inv allowed (Pure.pure value : EStateM Failure State Value) :=
  fun _ holds => holds

theorem Guarded.bind {call : EStateM Failure State Value}
    {next : Value → EStateM Failure State Next} (first : Guarded inv allowed call)
    (rest : ∀ value, Guarded inv allowed (next value)) :
    Guarded inv allowed (call >>= next) := by
  intro state holds
  have between := first state holds
  rw [run_bind]
  cases ran : call.run state with
  | ok value middle =>
    rw [ran] at between
    exact rest value middle between
  | error failure middle =>
    rw [ran] at between
    exact between

theorem Guarded.modify {change : State → State}
    (kept : ∀ state, inv state → inv (change state)) :
    Guarded inv allowed (modify change : EStateM Failure State PUnit) :=
  kept

theorem Guarded.throw {failure : Failure} (holds : allowed failure) :
    Guarded inv allowed (MonadExcept.throw failure : EStateM Failure State Value) :=
  fun _ _ => holds

theorem Guarded.get {next : State → EStateM Failure State Value}
    (rest : ∀ state, inv state → Guarded inv allowed (next state)) :
    Guarded inv allowed (MonadState.get >>= next) :=
  fun state holds => rest state holds state holds

theorem Guarded.ite {condition : Prop} [Decidable condition]
    {first second : EStateM Failure State Value}
    (holds : condition → Guarded inv allowed first)
    (fails : ¬ condition → Guarded inv allowed second) :
    Guarded inv allowed (if condition then first else second) := by
  split
  · next true => exact holds true
  · next false => exact fails false

end Guarded

/-- From this state the call returns as the first condition says or raises as the second says. -/
def Ends (returned : Value → State → Prop) (failed : Failure → State → Prop)
    (call : EStateM Failure State Value) (state : State) : Prop :=
  match call.run state with
  | .ok value after => returned value after
  | .error failure after => failed failure after

section Ends

variable {returned : Value → State → Prop} {failed : Failure → State → Prop} {state : State}
  {after : State}

theorem Ends.of_ok {value : Value} (ran : call.run state = .ok value after)
    (holds : returned value after) : Ends returned failed call state := by
  rw [Ends, ran]
  exact holds

variable {failure}

theorem Ends.of_error (ran : call.run state = .error failure after) (holds : failed failure after) :
    Ends returned failed call state := by
  rw [Ends, ran]
  exact holds

theorem Ends.of_run {value : Value} (ends : Ends returned failed call state)
    (ran : call.run state = .ok value after) : returned value after := by
  rw [Ends, ran] at ends
  exact ends

theorem Ends.of_raise (ends : Ends returned failed call state)
    (ran : call.run state = .error failure after) : failed failure after := by
  rw [Ends, ran] at ends
  exact ends

theorem Ends.pure {value : Value} (holds : returned value state) :
    Ends returned failed (Pure.pure value) state :=
  holds

theorem Ends.throw (holds : failed failure state) :
    Ends returned failed (MonadExcept.throw failure) state :=
  holds

theorem Ends.bind {middle : Value → State → Prop} {returned : Next → State → Prop}
    {call : EStateM Failure State Value} {next : Value → EStateM Failure State Next}
    (first : Ends middle failed call state)
    (rest : ∀ value between, middle value between → Ends returned failed (next value) between) :
    Ends returned failed (call >>= next) state := by
  unfold Ends at first ⊢
  rw [run_bind]
  cases ran : call.run state with
  | ok value between =>
    rw [ran] at first
    exact rest value between first
  | error failure between =>
    rw [ran] at first
    exact first

theorem Ends.get {next : State → EStateM Failure State Value}
    (rest : Ends returned failed (next state) state) :
    Ends returned failed (MonadState.get >>= next) state :=
  rest

theorem Ends.modify {change : State → State} {returned : PUnit → State → Prop}
    (holds : returned PUnit.unit (change state)) :
    Ends returned failed (modify change : EStateM Failure State PUnit) state :=
  holds

theorem ends_modify_bind {change : State → State} {next : PUnit → EStateM Failure State Value}
    (rest : Ends returned failed (next PUnit.unit) (change state)) :
    Ends returned failed ((modify change : EStateM Failure State PUnit) >>= next) state :=
  rest

theorem Ends.mono {weaker : Value → State → Prop} (ends : Ends returned failed call state)
    (implies : ∀ value after, returned value after → weaker value after) :
    Ends weaker failed call state := by
  unfold Ends at ends ⊢
  split
  · next value after ran =>
    rw [ran] at ends
    exact implies value after ends
  · next failure after ran =>
    rw [ran] at ends
    exact ends

theorem Ends.mono_failed {weaker : Failure → State → Prop} (ends : Ends returned failed call state)
    (implies : ∀ failure after, failed failure after → weaker failure after) :
    Ends returned weaker call state := by
  unfold Ends at ends ⊢
  split
  · next value after ran =>
    rw [ran] at ends
    exact ends
  · next failure after ran =>
    rw [ran] at ends
    exact implies failure after ends

theorem Ends.tryCatch {middle : Failure → State → Prop}
    {handler : Failure → EStateM Failure State Value} (first : Ends returned middle call state)
    (handled : ∀ failure after, middle failure after → Ends returned failed (handler failure) after)
    : Ends returned failed (MonadExcept.tryCatch call handler) state := by
  change Ends returned failed (EStateM.tryCatch call handler) state
  unfold Ends at first ⊢
  simp only [EStateM.tryCatch, EStateM.run] at first ⊢
  cases ran : call state with
  | ok value after =>
    rw [ran] at first
    exact first
  | error failure after =>
    rw [ran] at first
    exact handled failure after first

theorem Keeps.ends {inv : State → Prop} (keeps : Keeps inv call)
    (holds : inv state) :
    Ends (fun _ after => inv after) (fun _ after => inv after) call state := by
  have after := keeps state holds
  unfold Ends
  cases ran : call.run state with
  | ok value next =>
    rw [ran] at after
    exact after
  | error failure next =>
    rw [ran] at after
    exact after

theorem Ends.and {other : Value → State → Prop} (first : Ends returned failed call state)
    (second : Ends other failed call state) :
    Ends (fun value after => returned value after ∧ other value after) failed call state := by
  unfold Ends at first second ⊢
  cases ran : call.run state with
  | ok value after =>
    rw [ran] at first second
    exact ⟨first, second⟩
  | error failure after =>
    rw [ran] at first
    exact first

theorem Ends.returns_iff {fact : Prop}
    (ends : Ends (fun value after => fact ∧ returned value after) (fun _ _ => ¬ fact) call state) :
    (∃ value after, call.run state = .ok value after ∧ returned value after) ↔ fact := by
  unfold Ends at ends
  cases ran : call.run state with
  | ok value after =>
    rw [ran] at ends
    exact ⟨fun _ => ends.1, fun _ => ⟨value, after, rfl, ends.2⟩⟩
  | error failure after =>
    rw [ran] at ends
    constructor
    · rintro ⟨value, other, ⟨⟩, _⟩
    · exact fun fact => absurd fact ends

end Ends

inductive Related (related : State → State → Prop) :
    EStateM.Result Failure State Value → EStateM.Result Failure State Value → Prop
  | ok (value : Value) {first second : State} (states : related first second) :
      Related related (.ok value first) (.ok value second)
  | error (failure : Failure) {first second : State} (states : related first second) :
      Related related (.error failure first) (.error failure second)

variable {related : State → State → Prop}

theorem Related.bind {call : EStateM Failure State Value}
    {next : Value → EStateM Failure State Next} {first second : State}
    (start : Related related (call.run first) (call.run second))
    (rest : ∀ value first second, related first second →
      Related related ((next value).run first) ((next value).run second)) :
    Related related ((call >>= next).run first) ((call >>= next).run second) := by
  rw [run_bind, run_bind]
  generalize call.run first = left at start
  generalize call.run second = right at start
  cases start with
  | ok value states => exact rest value _ _ states
  | error failure states => exact .error failure states

theorem Related.answer {returned : Value → Answer} {failed : Failure → Answer}
    {left right : EStateM.Result Failure State Value} (results : Related related left right) :
    (RaisingCalls.answer returned failed left).1 = (RaisingCalls.answer returned failed right).1 ∧
      related (RaisingCalls.answer returned failed left).2
        (RaisingCalls.answer returned failed right).2 := by
  cases results with
  | ok value states => exact ⟨rfl, states⟩
  | error failure states => exact ⟨rfl, states⟩

end RaisingCalls

/-- A computation does not raise, and its value satisfies a condition. -/
def Yields {Failure Value : Type} (outcome : Except Failure Value) (condition : Value → Prop) :
    Prop :=
  ∃ value, outcome = .ok value ∧ condition value

section Yields

variable {Failure Value Other : Type} {condition : Value → Prop}

@[simp]
theorem yields_ok (value : Value) :
    Yields (.ok value : Except Failure Value) condition ↔ condition value := by
  constructor
  · rintro ⟨_, same, holds⟩
    rwa [Except.ok.inj same]
  · exact fun holds => ⟨value, rfl, holds⟩

@[simp]
theorem yields_pure (value : Value) :
    Yields (pure value : Except Failure Value) condition ↔ condition value :=
  yields_ok value

@[simp]
theorem yields_error (failure : Failure) : ¬ Yields (.error failure) condition :=
  nofun

@[simp]
theorem yields_bind (outcome : Except Failure Other) (next : Other → Except Failure Value) :
    Yields (outcome >>= next) condition ↔
      Yields outcome fun value => Yields (next value) condition := by
  cases outcome with
  | error _ => exact ⟨nofun, nofun⟩
  | ok value =>
    rw [yields_ok]
    exact Iff.rfl

@[simp]
theorem yields_map (outcome : Except Failure Other) (change : Other → Value) :
    Yields (change <$> outcome) condition ↔
      Yields outcome fun value => condition (change value) := by
  cases outcome with
  | error _ => exact ⟨nofun, nofun⟩
  | ok value =>
    rw [yields_ok]
    exact yields_ok (change value)

end Yields

theorem mapM_eq_ok_iff {Source Target Failure : Type} {read : Source → Except Failure Target}
    {sources : List Source} {targets : List Target} :
    sources.mapM read = .ok targets ↔
      List.Forall₂ (fun source target => read source = .ok target) sources targets := by
  induction sources generalizing targets with
  | nil =>
    rw [List.mapM_nil, List.forall₂_nil_left_iff]
    constructor
    · rintro ⟨⟩
      rfl
    · rintro rfl
      rfl
  | cons source rest ih =>
    rw [List.mapM_cons]
    cases first : read source with
    | error failure =>
      constructor
      · rintro ⟨⟩
      · rintro ⟨⟩
        next read _ => exact absurd (first.symm.trans read) (by rintro ⟨⟩)
    | ok target =>
      cases later : rest.mapM read with
      | error failure =>
        constructor
        · rintro ⟨⟩
        · rintro ⟨⟩
          next others => exact absurd (later.symm.trans (ih.mpr others)) (by rintro ⟨⟩)
      | ok others =>
        constructor
        · rintro ⟨⟩
          exact .cons first (ih.mp later)
        · rintro ⟨⟩
          next head tail =>
            cases first.symm.trans head
            cases later.symm.trans (ih.mpr tail)
            rfl

/-- An item of a list that relates to another, item by item, has a counterpart. -/
theorem exists_related_of_mem {First Second : Type} {related : First → Second → Prop}
    {firsts : List First} {seconds : List Second} (all : List.Forall₂ related firsts seconds)
    {first : First} (mem : first ∈ firsts) : ∃ second ∈ seconds, related first second := by
  induction all with
  | nil => exact absurd mem List.not_mem_nil
  | @cons head other firsts seconds relates _ ih =>
    rcases List.mem_cons.mp mem with rfl | mem
    · exact ⟨other, List.mem_cons_self, relates⟩
    · obtain ⟨second, found, relates⟩ := ih mem
      exact ⟨second, List.mem_cons_of_mem other found, relates⟩

end Qts
