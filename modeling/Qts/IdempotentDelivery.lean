import Mathlib.Data.List.TakeDrop

/-! # Idempotent delivery -/

namespace Qts

open List

universe u v

namespace IdempotentDelivery

variable {State : Type u} {Message : Type v}

structure Idempotent (deliver : State → Message → State)
    (settled : State → Message → Prop) : Prop where
  unchanged : ∀ {state message}, settled state message → deliver state message = state
  settles : ∀ state message, settled (deliver state message) message
  kept : ∀ {state message}, settled state message → ∀ other,
    settled (deliver state other) message

/-- A stream that delivers `rest` in order and may repeat whatever was delivered before. -/
inductive Redelivers : List Message → List Message → List Message → Prop
  | done (known : List Message) : Redelivers known [] []
  | next {known rest stream : List Message} {message : Message} :
      Redelivers (message :: known) rest stream →
        Redelivers known (message :: rest) (message :: stream)
  | again {known rest stream : List Message} {message : Message} :
      message ∈ known → Redelivers known rest stream → Redelivers known rest (message :: stream)

variable {deliver : State → Message → State} {settled : State → Message → Prop} {state : State}

section

variable (idempotent : Idempotent deliver settled)

include idempotent

theorem Idempotent.settled_foldl {message : Message} (known : settled state message)
    (messages : List Message) : settled (messages.foldl deliver state) message := by
  induction messages generalizing state with
  | nil => exact known
  | cons other messages ih => exact ih (idempotent.kept known other)

theorem Idempotent.settled_of_mem {message : Message} {messages : List Message}
    (mem : message ∈ messages) (state : State) :
    settled (messages.foldl deliver state) message := by
  induction messages generalizing state with
  | nil => cases mem
  | cons first messages ih =>
    rcases mem_cons.mp mem with rfl | later
    · exact idempotent.settled_foldl (idempotent.settles state message) messages
    · exact ih later (deliver state first)

theorem Idempotent.foldl_settled {messages : List Message}
    (known : ∀ message ∈ messages, settled state message) :
    messages.foldl deliver state = state := by
  induction messages with
  | nil => rfl
  | cons message messages ih =>
    rw [foldl_cons, idempotent.unchanged (known message mem_cons_self)]
    exact ih fun later mem => known later (mem_cons_of_mem _ mem)

theorem Idempotent.foldl_redelivers {known rest stream : List Message}
    (redelivers : Redelivers known rest stream) (before : ∀ message ∈ known, settled state message)
    : stream.foldl deliver state = rest.foldl deliver state := by
  induction redelivers generalizing state with
  | done => rfl
  | @next known rest stream message _ ih =>
    rw [foldl_cons, foldl_cons]
    apply ih
    intro earlier mem
    rcases mem_cons.mp mem with rfl | older
    · exact idempotent.settles state earlier
    · exact idempotent.kept (before earlier older) message
  | again mem _ ih =>
    rw [foldl_cons, idempotent.unchanged (before _ mem)]
    exact ih before

/-- Where everything up to some point is settled, a redelivery from any earlier point ends where
the messages after that point end. -/
theorem Idempotent.foldl_redelivers_since {messages stream : List Message} {saved : Nat}
    (before : ∀ message ∈ messages.take saved, settled state message) {start : Nat}
    (early : start ≤ saved)
    (redelivers : Redelivers (messages.take start) (messages.drop start) stream) :
    stream.foldl deliver state = (messages.drop saved).foldl deliver state := by
  have known : ∀ message ∈ messages.take start, settled state message := by
    intro message mem
    exact before message ((take_prefix_take_left early).subset mem)
  have split : messages.drop start =
      (messages.drop start).take (saved - start) ++ messages.drop saved := by
    have parts := (take_append_drop (saved - start) (messages.drop start)).symm
    rwa [drop_drop, Nat.add_sub_cancel' early] at parts
  have skipped : ∀ message ∈ (messages.drop start).take (saved - start),
      settled state message := by
    intro message mem
    rw [take_drop, Nat.add_sub_cancel' early] at mem
    exact before message (mem_of_mem_drop mem)
  rw [idempotent.foldl_redelivers redelivers known, split, foldl_append,
    idempotent.foldl_settled skipped]

end

end IdempotentDelivery

end Qts
