import Mathlib.Data.List.Forall2
import Mathlib.Data.List.Induction

/-! # Hash chains -/

namespace Qts

open List

namespace HashChain

universe u v

variable {Record : Type u} {Hash : Type v} (hashOf : Record → Hash)
  (previousOf : Record → Option Hash)

/-- Each record carries the hash of the one before it, and the first a given one. -/
def LinkedFrom : Option Hash → List Record → Prop
  | _, [] => True
  | prev, record :: rest =>
    previousOf record = prev ∧ LinkedFrom (some (hashOf record)) rest

def lastHash (prev : Option Hash) (records : List Record) : Option Hash :=
  records.foldl (fun _ record => some (hashOf record)) prev

variable {hashOf previousOf}

theorem lastHash_concat (prev : Option Hash) (records : List Record) (record : Record) :
    lastHash hashOf prev (records ++ [record]) = some (hashOf record) := by
  rw [lastHash, foldl_append]
  rfl

theorem lastHash_eq_getLast? (records : List Record) :
    lastHash hashOf none records = records.getLast?.map hashOf := by
  rcases eq_nil_or_concat records with rfl | ⟨front, record, rfl⟩
  · rfl
  · rw [concat_eq_append, lastHash_concat, getLast?_concat]
    rfl

theorem linkedFrom_append (prev : Option Hash) (first second : List Record) :
    LinkedFrom hashOf previousOf prev (first ++ second) ↔
      LinkedFrom hashOf previousOf prev first ∧
        LinkedFrom hashOf previousOf (lastHash hashOf prev first) second := by
  induction first generalizing prev with
  | nil => exact ⟨fun linked => ⟨trivial, linked⟩, And.right⟩
  | cons record rest ih =>
    rw [cons_append, LinkedFrom, LinkedFrom, ih, and_assoc]
    rfl

theorem forall₂_of_lastHash_eq {Same : Record → Record → Prop} {first second : List Record}
    (binds : ∀ one ∈ first, ∀ other ∈ second, hashOf one = hashOf other → Same one other)
    (links : ∀ one other, Same one other → previousOf one = previousOf other)
    (firstLinked : LinkedFrom hashOf previousOf none first)
    (secondLinked : LinkedFrom hashOf previousOf none second)
    (ends : lastHash hashOf none first = lastHash hashOf none second) :
    Forall₂ Same first second := by
  induction first using reverseRecOn generalizing second with
  | nil =>
    rcases eq_nil_or_concat second with rfl | ⟨front, last, rfl⟩
    · exact .nil
    · rw [concat_eq_append, lastHash_concat] at ends
      cases ends
  | append_singleton front record ih =>
    rcases eq_nil_or_concat second with rfl | ⟨otherFront, other, rfl⟩
    · rw [lastHash_concat] at ends
      cases ends
    · rw [concat_eq_append] at binds secondLinked ends ⊢
      rw [lastHash_concat, lastHash_concat] at ends
      have inFirst : record ∈ front ++ [record] := mem_append_right _ mem_cons_self
      have inSecond : other ∈ otherFront ++ [other] :=
        mem_append_right _ mem_cons_self
      have same := binds record inFirst other inSecond (Option.some.inj ends)
      obtain ⟨frontLinked, recordLinked⟩ := (linkedFrom_append _ _ _).mp firstLinked
      obtain ⟨otherFrontLinked, otherLinked⟩ := (linkedFrom_append _ _ _).mp secondLinked
      -- The last records carry the hashes in which the chains before them end.
      have before : lastHash hashOf none front = lastHash hashOf none otherFront :=
        recordLinked.1.symm.trans ((links _ _ same).trans otherLinked.1)
      refine rel_append (ih ?_ frontLinked otherFrontLinked before) (.cons same .nil)
      intro one mem another anotherMember equal
      exact binds one (mem_append_left _ mem) another
        (mem_append_left _ anotherMember) equal

end HashChain

end Qts
