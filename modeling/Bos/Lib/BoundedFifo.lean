import Mathlib

/-!
# Lib.BoundedFifo

A first-in first-out queue that holds at most `capacity` items: the items in arrival order with
their bound as a field, so that no overfull queue can be built. `push?` refuses an item when
the queue is full, `pop?` takes the oldest item.

The history lemmas say what a sequence of operations does: if what was taken out, followed by
what is still in, is what was put in, then it stays so after each accepted push and each pop.
So the items taken out are always a prefix of the items accepted, in order, with none lost or
repeated.
-/

/-- A FIFO queue of at most `capacity` items, oldest first. -/
structure BoundedFifo (α : Type) where
  items : List α
  capacity : Nat
  length_le : items.length ≤ capacity

namespace BoundedFifo

variable {α : Type} {q q' : BoundedFifo α} {a : α}

/-- The queue holds `capacity` items. -/
def IsFull (q : BoundedFifo α) : Prop := q.items.length = q.capacity

instance (q : BoundedFifo α) : Decidable q.IsFull := inferInstanceAs (Decidable (_ = _))

/-- Append `a` unless the queue is full. -/
def push? (q : BoundedFifo α) (a : α) : Option (BoundedFifo α) :=
  if h : q.items.length < q.capacity then
    some ⟨q.items ++ [a], q.capacity, by rw [List.length_append, List.length_singleton]; omega⟩
  else none

/-- Take the oldest item, if there is one. -/
def pop? (q : BoundedFifo α) : Option (α × BoundedFifo α) :=
  match h : q.items with
  | [] => none
  | a :: rest => some (a, ⟨rest, q.capacity, by
      have := q.length_le
      rw [h, List.length_cons] at this
      omega⟩)

theorem push?_eq_none_iff : q.push? a = none ↔ q.IsFull := by
  have := q.length_le
  unfold push? IsFull
  split <;> simp <;> omega

theorem push?_eq_some_iff :
    q.push? a = some q' ↔ ¬ q.IsFull ∧ q'.items = q.items ++ [a] ∧ q'.capacity = q.capacity := by
  have := q.length_le
  unfold push? IsFull
  split
  · rename_i h
    constructor
    · rintro ⟨⟩
      exact ⟨by omega, rfl, rfl⟩
    · rintro ⟨-, h₁, h₂⟩
      cases q'
      simp only at h₁ h₂
      subst h₁ h₂
      rfl
  · constructor
    · rintro ⟨⟩
    · rintro ⟨h₁, -⟩
      omega

theorem pop?_eq_none_iff : q.pop? = none ↔ q.items = [] := by
  unfold pop?
  split <;> simp_all

theorem pop?_eq_some_iff :
    q.pop? = some (a, q') ↔ q.items = a :: q'.items ∧ q'.capacity = q.capacity := by
  unfold pop?
  split
  · rename_i h
    simp [h]
  · rename_i b rest h
    constructor
    · rintro ⟨⟩
      exact ⟨h, rfl⟩
    · rintro ⟨h₁, h₂⟩
      rw [h] at h₁
      obtain ⟨rfl, h₃⟩ := List.cons.inj h₁
      cases q'
      simp only at h₂ h₃
      subst h₂ h₃
      rfl

/-! ## Histories -/

variable {taken given : List α}

/-- An accepted push adds its item to what was put in. -/
theorem history_push (h : taken ++ q.items = given) (hq : q.push? a = some q') :
    taken ++ q'.items = given ++ [a] := by
  rw [(push?_eq_some_iff.mp hq).2.1, ← List.append_assoc, h]

/-- A pop moves the oldest item to what was taken out. -/
theorem history_pop (h : taken ++ q.items = given) (hq : q.pop? = some (a, q')) :
    (taken ++ [a]) ++ q'.items = given := by
  rw [List.append_assoc, List.singleton_append, ← (pop?_eq_some_iff.mp hq).1, h]

end BoundedFifo
