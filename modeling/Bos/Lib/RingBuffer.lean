import Bos.Lib.BoundedFifo

/-!
# Lib.RingBuffer

A queue kept in a fixed array of `n` cells: `head` is the cell of the oldest item, `tail` the
next free cell and `count` the number of items. `push` writes at `tail` unless `count = n`, and
`pop` reads at `head` unless `count = 0`; both indices wrap with `% n`.

`Inv` is the layout invariant: both indices are cells, at most `n` items, and `tail` is `count`
cells after `head`. `contents` reads the items oldest first, as the array rotated to `head` and
cut at `count`. Under `Inv` the ring refines `BoundedFifo` (`Refines`): `push` is `push?`, a full
ring being left as it is, and `pop` is `pop?`, also when `head = tail`, where the ring is empty
or full according to `count`.
-/

/-- A ring of `n` cells. -/
structure RingBuffer (α : Type) (n : Nat) where
  buffer : List α
  head : Nat
  tail : Nat
  count : Nat
  buffer_length : buffer.length = n

namespace RingBuffer

variable {α : Type} {n : Nat} {r : RingBuffer α n} {a : α}

/-- The empty ring, every cell holding `a`. -/
def new (a : α) : RingBuffer α n := ⟨List.replicate n a, 0, 0, 0, List.length_replicate⟩

/-- Write `a` at `tail` unless all `n` cells hold items. -/
def push (r : RingBuffer α n) (a : α) : RingBuffer α n :=
  if r.count < n then
    { buffer := r.buffer.set r.tail a
      head := r.head
      tail := (r.tail + 1) % n
      count := r.count + 1
      buffer_length := by rw [List.length_set, r.buffer_length] }
  else r

/-- Take the item at `head`, if there is one. -/
def pop [Inhabited α] (r : RingBuffer α n) : Option α × RingBuffer α n :=
  if r.count = 0 then (none, r)
  else (some r.buffer[r.head]!, { r with head := (r.head + 1) % n, count := r.count - 1 })

/-- The layout of a ring between operations. -/
structure Inv (r : RingBuffer α n) : Prop where
  head_lt : r.head < n
  tail_lt : r.tail < n
  count_le : r.count ≤ n
  tail_eq : r.tail = (r.head + r.count) % n

instance (r : RingBuffer α n) : Decidable r.Inv :=
  decidable_of_iff (r.head < n ∧ r.tail < n ∧ r.count ≤ n ∧ r.tail = (r.head + r.count) % n)
    ⟨fun ⟨h₁, h₂, h₃, h₄⟩ => ⟨h₁, h₂, h₃, h₄⟩, fun ⟨h₁, h₂, h₃, h₄⟩ => ⟨h₁, h₂, h₃, h₄⟩⟩

/-- The items, oldest first. -/
def contents (r : RingBuffer α n) : List α := (r.buffer.rotate r.head).take r.count

/-! ## The layout invariant -/

theorem inv_new (hn : 0 < n) : (new a : RingBuffer α n).Inv :=
  ⟨hn, hn, Nat.zero_le _, by simp [new]⟩

theorem Inv.push (h : r.Inv) (a : α) : (r.push a).Inv := by
  unfold RingBuffer.push
  split
  · rename_i hc
    refine ⟨h.head_lt, Nat.mod_lt _ (by have := h.head_lt; omega), hc, ?_⟩
    show (r.tail + 1) % n = (r.head + (r.count + 1)) % n
    rw [h.tail_eq, Nat.mod_add_mod, Nat.add_assoc]
  · exact h

theorem Inv.pop [Inhabited α] (h : r.Inv) : r.pop.2.Inv := by
  unfold RingBuffer.pop
  split
  · exact h
  · rename_i hc
    refine ⟨Nat.mod_lt _ (by have := h.head_lt; omega), h.tail_lt,
      Nat.le_trans (Nat.sub_le _ _) h.count_le, ?_⟩
    -- one cell later and one item fewer: the same `tail`
    show r.tail = ((r.head + 1) % n + (r.count - 1)) % n
    have hsum : r.head + 1 + (r.count - 1) = r.head + r.count := by omega
    rw [h.tail_eq, Nat.mod_add_mod, hsum]

/-! ## What the items are -/

@[simp] theorem contents_new : (new a : RingBuffer α n).contents = [] := by
  simp [new, contents]

theorem length_contents (h : r.Inv) : r.contents.length = r.count := by
  simp [contents, r.buffer_length, h.count_le]

/-- Cells `i` and `j` after `head`, both fewer than `n`, are one cell only when `i = j`. -/
theorem add_mod_inj {h i j : Nat} (hi : i < n) (hj : j < n) (hij : (i + h) % n = (j + h) % n) :
    i = j := by
  have hmod : i % n = j % n := Nat.ModEq.add_right_cancel' h hij
  rwa [Nat.mod_eq_of_lt hi, Nat.mod_eq_of_lt hj] at hmod

theorem push_of_full (hc : ¬ r.count < n) (a : α) : r.push a = r := by
  unfold RingBuffer.push
  rw [if_neg hc]

/-- A push into a ring with a free cell appends its item. -/
theorem contents_push (h : r.Inv) (hc : r.count < n) (a : α) :
    (r.push a).contents = r.contents ++ [a] := by
  unfold RingBuffer.push contents
  rw [if_pos hc]
  apply List.ext_getElem
  · simp [r.buffer_length]
    omega
  · intro i h₁ h₂
    have hi : i < r.count + 1 := by simp [r.buffer_length] at h₁; omega
    simp only [List.getElem_take, List.getElem_rotate, List.getElem_set, List.length_set,
      r.buffer_length]
    rw [List.getElem_append]
    by_cases hlt : i < r.count
    · -- an old item: its cell is not `tail`
      have hne : ¬ r.tail = (i + r.head) % n := by
        rw [h.tail_eq, Nat.add_comm r.head]
        intro heq
        exact absurd (add_mod_inj hc (by omega) heq) (by omega)
      rw [if_neg hne, dif_pos (by simp [r.buffer_length]; omega)]
      simp [List.getElem_rotate, r.buffer_length]
    · -- the new item sits at `tail`
      have hi' : i = r.count := by omega
      subst hi'
      have htail : r.tail = (r.count + r.head) % n := by rw [h.tail_eq, Nat.add_comm]
      rw [if_pos htail, dif_neg (by simp [r.buffer_length])]
      simp [r.buffer_length, h.count_le]

theorem pop_of_count_eq_zero [Inhabited α] (hc : r.count = 0) : r.pop = (none, r) := by
  unfold RingBuffer.pop
  rw [if_pos hc]

theorem pop_fst_eq_none_iff [Inhabited α] : r.pop.1 = none ↔ r.count = 0 := by
  unfold RingBuffer.pop
  split <;> simp_all

/-- A pop from a ring with items takes the oldest one and leaves the others, in order. -/
theorem contents_pop [Inhabited α] (h : r.Inv) (hc : r.count ≠ 0) :
    r.contents = r.buffer[r.head]! :: r.pop.2.contents := by
  unfold RingBuffer.pop contents
  rw [if_neg hc]
  dsimp only
  -- the array rotated to `head`, one cell at a time
  obtain ⟨x, xs, hrot⟩ : ∃ x xs, r.buffer.rotate r.head = x :: xs := by
    cases hl : r.buffer.rotate r.head with
    | nil =>
      have hlen := congrArg List.length hl
      have := h.head_lt
      simp [r.buffer_length] at hlen
      omega
    | cons x xs => exact ⟨x, xs, rfl⟩
  have hxs : xs.length = n - 1 := by
    have := congrArg List.length hrot
    simp [r.buffer_length] at this
    omega
  have hx : r.buffer[r.head]! = x := by
    have h0 : (r.buffer.rotate r.head)[0]? = some x := by rw [hrot]; rfl
    rw [List.getElem?_rotate (by rw [r.buffer_length]; have := h.head_lt; omega)] at h0
    simp only [Nat.zero_add, r.buffer_length, Nat.mod_eq_of_lt h.head_lt] at h0
    rw [List.getElem!_eq_getElem?_getD, h0]
    rfl
  have hnext : r.buffer.rotate ((r.head + 1) % n) = xs ++ [x] := by
    have hmod : (r.head + 1) % n = (r.head + 1) % r.buffer.length := by rw [r.buffer_length]
    rw [hmod, List.rotate_mod, ← List.rotate_rotate, hrot, List.rotate_cons_succ,
      List.rotate_zero]
  obtain ⟨c, hc'⟩ := Nat.exists_eq_succ_of_ne_zero hc
  rw [hnext, hrot, hc', List.take_succ_cons, hx, Nat.succ_sub_one,
    List.take_append_of_le_length (by have := h.count_le; omega)]

theorem pop_eq [Inhabited α] (h : r.Inv) :
    r.pop.1 = r.contents.head? ∧ r.pop.2.contents = r.contents.tail := by
  by_cases hc : r.count = 0
  · rw [pop_of_count_eq_zero hc]
    simp [contents, hc]
  · rw [contents_pop h hc]
    refine ⟨?_, rfl⟩
    unfold RingBuffer.pop
    rw [if_neg hc]
    rfl

/-- What a push and a pop do to a ring: a push appends its item when a cell is free and leaves the
ring as it is otherwise, and a pop takes the oldest item, returning `none` exactly when there is
none. -/
def BehavesAsFifo [Inhabited α] (r : RingBuffer α n) : Prop :=
  (∀ e, r.count < n → (r.push e).contents = r.contents ++ [e]) ∧
    (∀ e, ¬ r.count < n → r.push e = r) ∧
    r.pop.1 = r.contents.head? ∧ r.pop.2.contents = r.contents.tail ∧
    (r.pop.1 = none ↔ r.count = 0)

theorem Inv.behavesAsFifo [Inhabited α] (h : r.Inv) : r.BehavesAsFifo :=
  ⟨fun e hc => contents_push h hc e, fun e hc => push_of_full hc e, (pop_eq h).1, (pop_eq h).2,
    pop_fst_eq_none_iff⟩

/-! ## Refinement of a bounded FIFO -/

/-- The ring holds the queue's items, and the queue has the ring's capacity. -/
structure Refines (r : RingBuffer α n) (q : BoundedFifo α) : Prop where
  inv : r.Inv
  contents_eq : r.contents = q.items
  capacity_eq : q.capacity = n

theorem Refines.isFull_iff {q : BoundedFifo α} (hr : r.Refines q) : q.IsFull ↔ ¬ r.count < n := by
  unfold BoundedFifo.IsFull
  rw [← hr.contents_eq, length_contents hr.inv, hr.capacity_eq]
  have := hr.inv.count_le
  omega

/-- `push` is `push?`, and a push into a full ring leaves it as it is. -/
theorem Refines.push {q : BoundedFifo α} (hr : r.Refines q) (a : α) :
    (r.push a).Refines ((q.push? a).getD q) := by
  by_cases hc : r.count < n
  · obtain ⟨q', hq'⟩ : ∃ q', q.push? a = some q' := Option.ne_none_iff_exists'.mp
      (mt BoundedFifo.push?_eq_none_iff.mp (by rw [hr.isFull_iff]; exact not_not.mpr hc))
    obtain ⟨-, hitems, hcap⟩ := BoundedFifo.push?_eq_some_iff.mp hq'
    rw [hq', Option.getD_some]
    exact ⟨hr.inv.push a, by rw [contents_push hr.inv hc, hitems, hr.contents_eq],
      by rw [hcap, hr.capacity_eq]⟩
  · rw [BoundedFifo.push?_eq_none_iff.mpr (hr.isFull_iff.mpr hc), Option.getD_none,
      push_of_full hc]
    exact hr

/-- `pop` is `pop?`: the same item, and the same queue after it. -/
theorem Refines.pop [Inhabited α] {q : BoundedFifo α} (hr : r.Refines q) :
    r.pop.1 = q.pop?.map Prod.fst ∧ r.pop.2.Refines ((q.pop?.map Prod.snd).getD q) := by
  obtain ⟨hfst, hsnd⟩ := pop_eq hr.inv
  cases hq : q.pop? with
  | none =>
    have hnil := BoundedFifo.pop?_eq_none_iff.mp hq
    have hc : r.count = 0 := by rw [← length_contents hr.inv, hr.contents_eq, hnil]; rfl
    rw [pop_of_count_eq_zero hc]
    exact ⟨rfl, hr⟩
  | some p =>
    obtain ⟨b, q'⟩ := p
    obtain ⟨hitems, hcap⟩ := BoundedFifo.pop?_eq_some_iff.mp hq
    rw [hr.contents_eq, hitems] at hfst hsnd
    refine ⟨hfst, hr.inv.pop, hsnd, ?_⟩
    show q'.capacity = n
    rw [hcap, hr.capacity_eq]

/-! ## Runs -/

/-- The rings reached from `new a` by pushes and pops. -/
inductive Reachable [Inhabited α] (a : α) : RingBuffer α n → Prop
  | new : Reachable a (new a)
  | push {r : RingBuffer α n} (e : α) : Reachable a r → Reachable a (r.push e)
  | pop {r : RingBuffer α n} : Reachable a r → Reachable a r.pop.2

theorem Reachable.inv [Inhabited α] (hn : 0 < n) (h : r.Reachable a) : r.Inv := by
  induction h with
  | new => exact inv_new hn
  | push e _ ih => exact ih.push e
  | pop _ ih => exact ih.pop

end RingBuffer
