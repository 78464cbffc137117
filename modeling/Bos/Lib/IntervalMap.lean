import Mathlib

/-!
# Lib.IntervalMap

Maps from pairwise disjoint inclusive intervals of naturals to values, with the operations of a
discrete interval map: lookup at a point, `cut` (forget every point of an interval, splitting the
entries it meets), insertion that merges with touching entries of the same value, and the gaps
of the map inside an outer interval.

An interval carries `start ≤ last`, and a map keeps its entries sorted and separated
(`sorted`), so no operation can build an ill-formed map. Each operation is described by what it
does to `get?`, the map read as a partial function on points:

* `get?_cut`: `cut` forgets exactly the points of the cut interval.
* `get?_insertMerge`: an insertion that overlaps nothing defines exactly the new points.
* `mem_gapsTrimmed`: a point lies in a gap iff it lies in the outer interval and is unmapped.
-/

/-- A nonempty inclusive interval `[start, last]` of naturals. -/
structure Ival where
  start : Nat
  last : Nat
  valid : start ≤ last
  deriving DecidableEq, Repr

namespace Ival

/-- `x` lies in `[start, last]`. -/
def Mem (i : Ival) (x : Nat) : Prop := i.start ≤ x ∧ x ≤ i.last

instance (i : Ival) (x : Nat) : Decidable (i.Mem x) := inferInstanceAs (Decidable (_ ∧ _))

/-- The two intervals share a point. -/
def overlaps (i j : Ival) : Bool := decide (i.start ≤ j.last) && decide (j.start ≤ i.last)

/-- `j` lies inside `i`. -/
def containsInterval (i j : Ival) : Bool := decide (i.start ≤ j.start) && decide (j.last ≤ i.last)

/-- The interval `[a, b]`, when it is nonempty. -/
def ii? (a b : Nat) : Option Ival := if h : a ≤ b then some ⟨a, b, h⟩ else none

/-- The interval `[a, b)`, when it is nonempty. -/
def ie? (a b : Nat) : Option Ival := if h : a < b then some ⟨a, b - 1, by omega⟩ else none

@[simp] theorem mem_iff (i : Ival) (x : Nat) : i.Mem x ↔ i.start ≤ x ∧ x ≤ i.last := Iff.rfl

theorem overlaps_iff (i j : Ival) : i.overlaps j = true ↔ ∃ x, i.Mem x ∧ j.Mem x := by
  simp only [overlaps, Bool.and_eq_true, decide_eq_true_eq, mem_iff]
  constructor
  · rintro ⟨h1, h2⟩
    exact ⟨max i.start j.start, by have := i.valid; have := j.valid; omega⟩
  · rintro ⟨x, ⟨h1, h2⟩, h3, h4⟩
    omega

theorem containsInterval_iff (i j : Ival) :
    i.containsInterval j = true ↔ ∀ x, j.Mem x → i.Mem x := by
  simp only [containsInterval, Bool.and_eq_true, decide_eq_true_eq, mem_iff]
  constructor
  · rintro ⟨h1, h2⟩ x ⟨h3, h4⟩
    omega
  · intro h
    have hs := h j.start ⟨Nat.le_refl _, j.valid⟩
    have hl := h j.last ⟨j.valid, Nat.le_refl _⟩
    omega

theorem ii?_eq_some {a b : Nat} {i : Ival} (h : ii? a b = some i) : i.start = a ∧ i.last = b := by
  unfold ii? at h
  split at h
  · cases h; exact ⟨rfl, rfl⟩
  · cases h

theorem ie?_eq_some {a b : Nat} {i : Ival} (h : ie? a b = some i) :
    i.start = a ∧ i.last + 1 = b := by
  unfold ie? at h
  split at h
  · rename_i hab; cases h; exact ⟨rfl, by simp; omega⟩
  · cases h

end Ival

/-- The map's entries are sorted by start and pairwise separated. -/
def EntriesSorted {β : Type} (l : List (Ival × β)) : Prop :=
  l.Pairwise (fun a b => a.1.last < b.1.start)

/-- A map from disjoint intervals to values, as a discrete interval map keeps it: entries in
ascending order, no two sharing a point. -/
structure IntervalMap (β : Type) where
  entries : List (Ival × β)
  sorted : EntriesSorted entries

namespace IntervalMap

variable {β : Type}

@[ext] theorem ext {m m' : IntervalMap β} (h : m.entries = m'.entries) : m = m' := by
  cases m; cases m'; cases h; rfl

instance [DecidableEq β] : DecidableEq (IntervalMap β) := fun m m' =>
  decidable_of_iff (m.entries = m'.entries) ⟨ext, fun h => h ▸ rfl⟩

/-- The empty map. -/
def empty : IntervalMap β := ⟨[], List.Pairwise.nil⟩

/-- The value at a point of a list of entries: that of the first entry containing it. -/
def lookup : List (Ival × β) → Nat → Option β
  | [], _ => none
  | (i, v) :: rest, x => if i.Mem x then some v else lookup rest x

/-- The map read as a partial function on points. -/
def get? (m : IntervalMap β) (x : Nat) : Option β := lookup m.entries x

@[simp] theorem lookup_nil (x : Nat) : lookup ([] : List (Ival × β)) x = none := rfl

@[simp] theorem get?_empty (x : Nat) : (empty : IntervalMap β).get? x = none := rfl

theorem lookup_cons (e : Ival × β) (l : List (Ival × β)) (x : Nat) :
    lookup (e :: l) x = if e.1.Mem x then some e.2 else lookup l x := rfl

theorem lookup_append (l₁ l₂ : List (Ival × β)) (x : Nat) :
    lookup (l₁ ++ l₂) x = (lookup l₁ x).or (lookup l₂ x) := by
  induction l₁ with
  | nil => simp
  | cons e l ih =>
    simp only [List.cons_append, lookup_cons, ih]
    split <;> simp

theorem lookup_eq_none_iff (l : List (Ival × β)) (x : Nat) :
    lookup l x = none ↔ ∀ e ∈ l, ¬ e.1.Mem x := by
  induction l with
  | nil => simp
  | cons e l ih =>
    rw [lookup_cons]
    split
    · rename_i h; simp only [reduceCtorEq, false_iff]
      exact fun hall => hall e List.mem_cons_self h
    · rename_i h
      rw [ih, List.forall_mem_cons]
      exact ⟨fun h' => ⟨h, h'⟩, fun h' => h'.2⟩

theorem lookup_of_mem (l : List (Ival × β)) (x : Nat) (h : lookup l x = none ↔ False) :
    ∃ e ∈ l, e.1.Mem x ∧ lookup l x = some e.2 := by
  induction l with
  | nil => simp at h
  | cons e l ih =>
    rw [lookup_cons] at h ⊢
    split
    · rename_i hm; exact ⟨e, List.mem_cons_self, hm, rfl⟩
    · rename_i hm
      rw [if_neg hm] at h
      obtain ⟨e', he', hm', hl⟩ := ih h
      exact ⟨e', List.mem_cons_of_mem _ he', hm', hl⟩

/-- In sorted entries at most one entry holds a point, so lookup finds the value of any entry
holding it. -/
theorem lookup_eq_of_mem {l : List (Ival × β)} (hs : EntriesSorted l) {e : Ival × β}
    (he : e ∈ l) {x : Nat} (hx : e.1.Mem x) : lookup l x = some e.2 := by
  induction l with
  | nil => cases he
  | cons a l ih =>
    unfold EntriesSorted at hs
    rw [List.pairwise_cons] at hs
    rw [lookup_cons]
    rcases List.mem_cons.mp he with rfl | he'
    · rw [if_pos hx]
    · have hlt := hs.1 e he'
      have hna : ¬ a.1.Mem x := by
        simp only [Ival.mem_iff] at hx ⊢; omega
      rw [if_neg hna]
      exact ih hs.2 he'

theorem lookup_eq_some_iff {l : List (Ival × β)} (hs : EntriesSorted l) (x : Nat) (v : β) :
    lookup l x = some v ↔ ∃ e ∈ l, e.1.Mem x ∧ e.2 = v := by
  constructor
  · intro h
    obtain ⟨e, he, hm, hl⟩ := lookup_of_mem l x (by simp [h])
    exact ⟨e, he, hm, by rw [h] at hl; exact (Option.some.inj hl).symm⟩
  · rintro ⟨e, he, hm, rfl⟩
    exact lookup_eq_of_mem hs he hm

theorem get?_eq_some_iff (m : IntervalMap β) (x : Nat) (v : β) :
    m.get? x = some v ↔ ∃ e ∈ m.entries, e.1.Mem x ∧ e.2 = v :=
  lookup_eq_some_iff m.sorted x v

theorem get?_eq_none_iff (m : IntervalMap β) (x : Nat) :
    m.get? x = none ↔ ∀ e ∈ m.entries, ¬ e.1.Mem x :=
  lookup_eq_none_iff m.entries x

/-- Filtering keeps the value at `x` when every entry holding `x` passes the filter. -/
theorem lookup_filter_of_keep (l : List (Ival × β)) (p : Ival × β → Bool) (x : Nat)
    (h : ∀ e ∈ l, e.1.Mem x → p e = true) : lookup (l.filter p) x = lookup l x := by
  induction l with
  | nil => rfl
  | cons e l ih =>
    have ih' := ih (fun e' he' => h e' (List.mem_cons_of_mem _ he'))
    by_cases hm : e.1.Mem x
    · rw [List.filter_cons_of_pos (h e List.mem_cons_self hm), lookup_cons, lookup_cons,
        if_pos hm, if_pos hm]
    · by_cases hp : p e = true
      · rw [List.filter_cons_of_pos hp, lookup_cons, lookup_cons, if_neg hm, if_neg hm, ih']
      · rw [List.filter_cons_of_neg hp, lookup_cons, if_neg hm, ih']

/-- Filtering out every entry that could hold `x` leaves `x` unmapped. -/
theorem lookup_filter_of_drop (l : List (Ival × β)) (p : Ival × β → Bool) (x : Nat)
    (h : ∀ e ∈ l, p e = true → ¬ e.1.Mem x) : lookup (l.filter p) x = none := by
  rw [lookup_eq_none_iff]
  intro e he
  rw [List.mem_filter] at he
  exact h e he.1 he.2

/-! ## `cut` -/

/-- The parts of entry `e` outside `c`: at most one on each side. -/
def residuals (c : Ival) (e : Ival × β) : List (Ival × β) :=
  (if h : e.1.start < c.start then
    [(⟨e.1.start, min e.1.last (c.start - 1), by have := e.1.valid; omega⟩, e.2)] else []) ++
  (if h : c.last < e.1.last then
    [(⟨max e.1.start (c.last + 1), e.1.last, by have := e.1.valid; omega⟩, e.2)] else [])

theorem residuals_within (c : Ival) (e p : Ival × β) (hp : p ∈ residuals c e) :
    e.1.start ≤ p.1.start ∧ p.1.last ≤ e.1.last ∧ p.2 = e.2 := by
  unfold residuals at hp
  rw [List.mem_append] at hp
  rcases hp with hp | hp
  · split at hp
    · rw [List.mem_singleton] at hp; subst hp
      exact ⟨Nat.le_refl _, Nat.min_le_left _ _, rfl⟩
    · cases hp
  · split at hp
    · rw [List.mem_singleton] at hp; subst hp
      exact ⟨Nat.le_max_left _ _, Nat.le_refl _, rfl⟩
    · cases hp

theorem residuals_sorted (c : Ival) (e : Ival × β) : EntriesSorted (residuals c e) := by
  unfold residuals EntriesSorted
  have := c.valid
  split <;> split <;> simp
  omega

theorem exists_residual_mem (c : Ival) (e : Ival × β) (x : Nat) :
    (∃ p ∈ residuals c e, p.1.Mem x) ↔ e.1.Mem x ∧ ¬ c.Mem x := by
  unfold residuals
  have := c.valid
  by_cases h1 : e.1.start < c.start <;> by_cases h2 : c.last < e.1.last <;> simp [h1, h2] <;> omega

theorem lookup_residuals (c : Ival) (e : Ival × β) (x : Nat) :
    lookup (residuals c e) x = if e.1.Mem x ∧ ¬ c.Mem x then some e.2 else none := by
  split
  · rename_i h
    obtain ⟨p, hp, hx⟩ := (exists_residual_mem c e x).mpr h
    rw [lookup_eq_of_mem (residuals_sorted c e) hp hx, (residuals_within c e p hp).2.2]
  · rename_i h
    rw [lookup_eq_none_iff]
    intro p hp hx
    exact h ((exists_residual_mem c e x).mp ⟨p, hp, hx⟩)

theorem lookup_flatMap_residuals {l : List (Ival × β)} (hs : EntriesSorted l) (c : Ival)
    (x : Nat) : lookup (l.flatMap (residuals c)) x = if c.Mem x then none else lookup l x := by
  induction l with
  | nil => simp
  | cons e l ih =>
    unfold EntriesSorted at hs
    rw [List.pairwise_cons] at hs
    rw [List.flatMap_cons, lookup_append, lookup_residuals, ih hs.2, lookup_cons]
    by_cases hc : c.Mem x
    · rw [if_neg (fun h => h.2 hc), if_pos hc, if_pos hc]; rfl
    · rw [if_neg hc, if_neg hc]
      by_cases he : e.1.Mem x
      · rw [if_pos ⟨he, hc⟩, if_pos he]; rfl
      · rw [if_neg (fun h => he h.1), if_neg he]; rfl

theorem flatMap_residuals_sorted {l : List (Ival × β)} (hs : EntriesSorted l) (c : Ival) :
    EntriesSorted (l.flatMap (residuals c)) := by
  unfold EntriesSorted at hs ⊢
  rw [List.pairwise_flatMap]
  refine ⟨fun e _ => residuals_sorted c e, ?_⟩
  refine hs.imp ?_
  intro a b hab p hp q hq
  have h1 := residuals_within c a p hp
  have h2 := residuals_within c b q hq
  omega

/-- Forget every point of `c`, keeping the parts of the entries it meets that lie outside it
(nodit's `cut`; the cut-out parts it also returns are not used). -/
def cut (m : IntervalMap β) (c : Ival) : IntervalMap β :=
  ⟨m.entries.flatMap (residuals c), flatMap_residuals_sorted m.sorted c⟩

theorem get?_cut (m : IntervalMap β) (c : Ival) (x : Nat) :
    (m.cut c).get? x = if c.Mem x then none else m.get? x :=
  lookup_flatMap_residuals m.sorted c x

theorem mem_cut_entries {m : IntervalMap β} {c : Ival} {p : Ival × β}
    (hp : p ∈ (m.cut c).entries) : ∃ e ∈ m.entries, e.1.start ≤ p.1.start ∧
      p.1.last ≤ e.1.last ∧ p.2 = e.2 ∧ ¬ (p.1.overlaps c = true) := by
  simp only [cut, List.mem_flatMap] at hp
  obtain ⟨e, he, hp⟩ := hp
  obtain ⟨h1, h2, h3⟩ := residuals_within c e p hp
  refine ⟨e, he, h1, h2, h3, ?_⟩
  unfold residuals at hp
  rw [List.mem_append] at hp
  simp only [Ival.overlaps, Bool.and_eq_true, decide_eq_true_eq, not_and, Nat.not_le]
  rcases hp with hp | hp
  · split at hp
    · rw [List.mem_singleton] at hp; subst hp; dsimp only; omega
    · cases hp
  · split at hp
    · rw [List.mem_singleton] at hp; subst hp; dsimp only; omega
    · cases hp

/-! ## Insertion -/

/-- Two entries of a sorted list holding the same point are the same entry. -/
theorem eq_of_mem_of_mem {l : List (Ival × β)} (hs : EntriesSorted l) {a b : Ival × β}
    (ha : a ∈ l) (hb : b ∈ l) {x : Nat} (hxa : a.1.Mem x) (hxb : b.1.Mem x) : a = b := by
  induction l with
  | nil => cases ha
  | cons e l ih =>
    unfold EntriesSorted at hs
    rw [List.pairwise_cons] at hs
    simp only [Ival.mem_iff] at hxa hxb
    rcases List.mem_cons.mp ha with rfl | ha' <;> rcases List.mem_cons.mp hb with rfl | hb'
    · rfl
    · have := hs.1 b hb'; omega
    · have := hs.1 a ha'; omega
    · exact ih hs.2 ha' hb'

/-- The nodit error for an insertion that overlaps an entry of the map. -/
structure OverlapError where
  deriving DecidableEq, Repr

variable [DecidableEq β]

/-- Start of the inserted interval after merging with an entry of value `v` that ends just
before it. -/
def mergedStart (l : List (Ival × β)) (i : Ival) (v : β) : Nat :=
  match l.find? (fun e => decide (e.1.last + 1 = i.start ∧ e.2 = v)) with
  | some e => e.1.start
  | none => i.start

/-- Last point of the inserted interval after merging with an entry of value `v` that starts
just after it. -/
def mergedLast (l : List (Ival × β)) (i : Ival) (v : β) : Nat :=
  match l.find? (fun e => decide (i.last + 1 = e.1.start ∧ e.2 = v)) with
  | some e => e.1.last
  | none => i.last

/-- The merged start is the start of an entry of value `v` that ends just before `i`, or the start
of `i` when the map has no such entry. -/
theorem mergedStart_spec (l : List (Ival × β)) (i : Ival) (v : β) :
    (mergedStart l i v = i.start ∧ ∀ e ∈ l, e.1.last + 1 = i.start → e.2 ≠ v) ∨
      ∃ e ∈ l, e.1.start = mergedStart l i v ∧ e.1.last + 1 = i.start ∧ e.2 = v := by
  unfold mergedStart
  split
  · rename_i e he
    have hp := List.find?_some he
    simp only [decide_eq_true_eq] at hp
    exact .inr ⟨e, List.mem_of_find?_eq_some he, rfl, hp⟩
  · rename_i hnone
    refine .inl ⟨rfl, fun e he htouch hv => ?_⟩
    have := List.find?_eq_none.mp hnone e he
    simp only [decide_eq_true_eq, not_and] at this
    exact this htouch hv

/-- The same on the right. -/
theorem mergedLast_spec (l : List (Ival × β)) (i : Ival) (v : β) :
    (mergedLast l i v = i.last ∧ ∀ e ∈ l, i.last + 1 = e.1.start → e.2 ≠ v) ∨
      ∃ e ∈ l, e.1.last = mergedLast l i v ∧ i.last + 1 = e.1.start ∧ e.2 = v := by
  unfold mergedLast
  split
  · rename_i e he
    have hp := List.find?_some he
    simp only [decide_eq_true_eq] at hp
    exact .inr ⟨e, List.mem_of_find?_eq_some he, rfl, hp⟩
  · rename_i hnone
    refine .inl ⟨rfl, fun e he htouch hv => ?_⟩
    have := List.find?_eq_none.mp hnone e he
    simp only [decide_eq_true_eq, not_and] at this
    exact this htouch hv

theorem mergedStart_cases (l : List (Ival × β)) (i : Ival) (v : β) :
    mergedStart l i v = i.start ∨ ∃ e ∈ l, e.1.start = mergedStart l i v ∧
      e.1.last + 1 = i.start ∧ e.2 = v :=
  (mergedStart_spec l i v).imp_left And.left

theorem mergedLast_cases (l : List (Ival × β)) (i : Ival) (v : β) :
    mergedLast l i v = i.last ∨ ∃ e ∈ l, e.1.last = mergedLast l i v ∧
      i.last + 1 = e.1.start ∧ e.2 = v :=
  (mergedLast_spec l i v).imp_left And.left

theorem mergedStart_le (l : List (Ival × β)) (i : Ival) (v : β) : mergedStart l i v ≤ i.start := by
  rcases mergedStart_cases l i v with h | ⟨e, _, h1, h2, _⟩
  · omega
  · have := e.1.valid; omega

theorem le_mergedLast (l : List (Ival × β)) (i : Ival) (v : β) : i.last ≤ mergedLast l i v := by
  rcases mergedLast_cases l i v with h | ⟨e, _, h1, h2, _⟩
  · omega
  · have := e.1.valid; omega

/-- The merged interval. -/
def mergedIval (l : List (Ival × β)) (i : Ival) (v : β) : Ival :=
  ⟨mergedStart l i v, mergedLast l i v, by
    have := mergedStart_le l i v; have := le_mergedLast l i v; have := i.valid; omega⟩

/-- The entries after inserting `i ↦ v` merged with its touching neighbours of value `v`: those
wholly before the merged interval, the merged interval, those wholly after it. -/
def mergedEntries (l : List (Ival × β)) (i : Ival) (v : β) : List (Ival × β) :=
  l.filter (fun e => decide (e.1.last < (mergedIval l i v).start)) ++
    (mergedIval l i v, v) :: l.filter (fun e => decide ((mergedIval l i v).last < e.1.start))

theorem mergedEntries_sorted {l : List (Ival × β)} (hs : EntriesSorted l) (i : Ival) (v : β) :
    EntriesSorted (mergedEntries l i v) := by
  unfold EntriesSorted mergedEntries
  have hv := (mergedIval l i v).valid
  rw [List.pairwise_append, List.pairwise_cons]
  refine ⟨hs.filter _, ⟨?_, hs.filter _⟩, ?_⟩
  · intro b hb
    simp only [List.mem_filter, decide_eq_true_eq] at hb
    exact hb.2
  · intro a ha b hb
    simp only [List.mem_filter, decide_eq_true_eq] at ha
    rcases List.mem_cons.mp hb with rfl | hb
    · exact ha.2
    · simp only [List.mem_filter, decide_eq_true_eq] at hb
      omega

/-- Insert `i ↦ v`, merging with touching entries of value `v`, when nothing overlaps `i`. -/
def insertMerged (m : IntervalMap β) (i : Ival) (v : β) : IntervalMap β :=
  ⟨mergedEntries m.entries i v, mergedEntries_sorted m.sorted i v⟩

/-- nodit's `insert_merge_touching_if_values_equal`: refused, leaving the map as it is, when
`i` overlaps an entry. -/
def insertMergeTouchingIfValuesEqual (m : IntervalMap β) (i : Ival) (v : β) :
    Except OverlapError (IntervalMap β) :=
  if m.entries.any (fun e => e.1.overlaps i) then .error ⟨⟩ else .ok (m.insertMerged i v)

/-- No entry of the map overlaps `i`. -/
def Disjoint (m : IntervalMap β) (i : Ival) : Prop := ∀ e ∈ m.entries, e.1.overlaps i = false

theorem insertMerge_eq_ok {m : IntervalMap β} {i : Ival} (h : m.Disjoint i) (v : β) :
    m.insertMergeTouchingIfValuesEqual i v = .ok (m.insertMerged i v) := by
  unfold insertMergeTouchingIfValuesEqual
  rw [if_neg]
  simp only [List.any_eq_true, not_exists, not_and, Bool.not_eq_true]
  exact h

theorem insertMerge_eq_error {m : IntervalMap β} {i : Ival} (h : ¬ m.Disjoint i) (v : β) :
    m.insertMergeTouchingIfValuesEqual i v = .error ⟨⟩ := by
  unfold insertMergeTouchingIfValuesEqual
  rw [if_pos]
  simp only [Disjoint, Bool.not_eq_false, not_forall, exists_prop] at h
  simpa using h

omit [DecidableEq β] in
/-- `i` is disjoint from the map exactly when the map holds none of its points. -/
theorem disjoint_iff_get? (m : IntervalMap β) (i : Ival) :
    m.Disjoint i ↔ ∀ x, i.Mem x → m.get? x = none := by
  constructor
  · intro hd x hx
    rw [get?_eq_none_iff]
    intro e he hex
    have := (Ival.overlaps_iff e.1 i).mpr ⟨x, hex, hx⟩
    rw [hd e he] at this
    cases this
  · intro h e he
    cases ho : e.1.overlaps i with
    | false => rfl
    | true =>
      obtain ⟨x, hex, hx⟩ := (Ival.overlaps_iff e.1 i).mp ho
      exact absurd hex ((get?_eq_none_iff m x).mp (h x hx) e he)

/-- `insert_merge_touching_if_values_equal` succeeds exactly on a disjoint interval, with the
merged map. -/
theorem insertMerge_eq_ok_iff {m m' : IntervalMap β} {i : Ival} {v : β} :
    m.insertMergeTouchingIfValuesEqual i v = .ok m' ↔ m.Disjoint i ∧ m' = m.insertMerged i v := by
  by_cases hd : m.Disjoint i
  · rw [insertMerge_eq_ok hd]
    simp [hd, eq_comm]
  · rw [insertMerge_eq_error hd]
    simp [hd]

omit [DecidableEq β] in
theorem disjoint_cut (m : IntervalMap β) (i : Ival) : (m.cut i).Disjoint i := by
  intro p hp
  obtain ⟨_, _, _, _, _, h⟩ := mem_cut_entries hp
  simpa using h

omit [DecidableEq β] in
theorem not_mem_of_disjoint {m : IntervalMap β} {i : Ival} (hd : m.Disjoint i) {e : Ival × β}
    (he : e ∈ m.entries) {y : Nat} (hey : e.1.Mem y) : ¬ i.Mem y := by
  intro hiy
  have := (Ival.overlaps_iff e.1 i).mpr ⟨y, hey, hiy⟩
  rw [hd e he] at this; cases this

/-- An entry holding a point below the merged interval ends below it. -/
theorem last_lt_mergedStart {m : IntervalMap β} {i : Ival} (hd : m.Disjoint i) (v : β)
    {e : Ival × β} (he : e ∈ m.entries) {x : Nat} (hex : e.1.Mem x)
    (hxs : x < mergedStart m.entries i v) : e.1.last < mergedStart m.entries i v := by
  have hsi := mergedStart_le m.entries i v
  have := i.valid
  by_contra hge
  simp only [Ival.mem_iff] at hex
  rcases mergedStart_cases m.entries i v with h | ⟨L, hL, hL1, hL2, _⟩
  · have hs : e.1.Mem i.start := ⟨by omega, by omega⟩
    exact not_mem_of_disjoint hd he hs ⟨Nat.le_refl _, i.valid⟩
  · have hxe : e.1.Mem (mergedStart m.entries i v) := ⟨by omega, by omega⟩
    have := eq_of_mem_of_mem m.sorted he hL hxe ⟨by omega, by have := L.1.valid; omega⟩
    subst this; omega

/-- An entry holding a point above the merged interval starts above it. -/
theorem mergedLast_lt_start {m : IntervalMap β} {i : Ival} (hd : m.Disjoint i) (v : β)
    {e : Ival × β} (he : e ∈ m.entries) {x : Nat} (hex : e.1.Mem x)
    (htx : mergedLast m.entries i v < x) : mergedLast m.entries i v < e.1.start := by
  have hit := le_mergedLast m.entries i v
  have := i.valid
  by_contra hge
  simp only [Ival.mem_iff] at hex
  rcases mergedLast_cases m.entries i v with h | ⟨R, hR, hR1, hR2, _⟩
  · have hl : e.1.Mem i.last := ⟨by omega, by omega⟩
    exact not_mem_of_disjoint hd he hl ⟨i.valid, Nat.le_refl _⟩
  · have hxe : e.1.Mem (mergedLast m.entries i v) := ⟨by omega, by omega⟩
    have := eq_of_mem_of_mem m.sorted he hR hxe ⟨by have := R.1.valid; omega, by omega⟩
    subst this; omega

/-- A point of the merged interval outside `i` lies in a merged neighbour, of value `v`. -/
theorem get?_of_mem_mergedIval (m : IntervalMap β) (i : Ival) (v : β) {x : Nat}
    (hx : (mergedIval m.entries i v).Mem x) (hxi : ¬ i.Mem x) : m.get? x = some v := by
  simp only [mergedIval, Ival.mem_iff] at hx hxi
  rw [get?_eq_some_iff]
  by_cases hlo : x < i.start
  · rcases mergedStart_cases m.entries i v with h | ⟨L, hL, hL1, hL2, hL3⟩
    · omega
    · exact ⟨L, hL, ⟨by omega, by omega⟩, hL3⟩
  · rcases mergedLast_cases m.entries i v with h | ⟨R, hR, hR1, hR2, hR3⟩
    · omega
    · exact ⟨R, hR, ⟨by omega, by omega⟩, hR3⟩

/-- Inserting `i ↦ v` where nothing overlaps `i` maps exactly the points of `i` anew. -/
theorem get?_insertMerged {m : IntervalMap β} {i : Ival} (hd : m.Disjoint i) (v : β) (x : Nat) :
    (m.insertMerged i v).get? x = if i.Mem x then some v else m.get? x := by
  have hsi := mergedStart_le m.entries i v
  have hit := le_mergedLast m.entries i v
  have hiv := i.valid
  unfold get? insertMerged mergedEntries
  rw [lookup_append, lookup_cons]
  by_cases hxs : x < mergedStart m.entries i v
  · -- below the merged interval: only entries kept on the left can hold `x`
    have hl := lookup_filter_of_keep m.entries
      (fun e => decide (e.1.last < (mergedIval m.entries i v).start)) x
      (fun e he hex => decide_eq_true (last_lt_mergedStart hd v he hex hxs))
    have hr := lookup_filter_of_drop m.entries
      (fun e => decide ((mergedIval m.entries i v).last < e.1.start)) x
      (fun e _ hlt hex => by
        have h1 : mergedLast m.entries i v < e.1.start := of_decide_eq_true hlt
        simp only [Ival.mem_iff] at hex; omega)
    rw [hl, if_neg (by simp [mergedIval, Ival.mem_iff]; omega), hr,
      if_neg (by simp [Ival.mem_iff]; omega)]
    cases lookup m.entries x <;> rfl
  · have hl := lookup_filter_of_drop m.entries
      (fun e => decide (e.1.last < (mergedIval m.entries i v).start)) x
      (fun e _ hlt hex => by
        have h1 : e.1.last < mergedStart m.entries i v := of_decide_eq_true hlt
        simp only [Ival.mem_iff] at hex; omega)
    rw [hl]
    by_cases htx : mergedLast m.entries i v < x
    · -- above the merged interval: only entries kept on the right can hold `x`
      have hr := lookup_filter_of_keep m.entries
        (fun e => decide ((mergedIval m.entries i v).last < e.1.start)) x
        (fun e he hex => decide_eq_true (mergedLast_lt_start hd v he hex htx))
      rw [if_neg (by simp [mergedIval, Ival.mem_iff]; omega), hr,
        if_neg (by simp [Ival.mem_iff]; omega)]
      rfl
    · -- inside the merged interval
      have hxm : (mergedIval m.entries i v).Mem x := by simp [mergedIval]; omega
      rw [if_pos hxm]
      by_cases hxi : i.Mem x
      · rw [if_pos hxi]; rfl
      · have h := get?_of_mem_mergedIval m i v hxm hxi
        unfold get? at h
        rw [if_neg hxi, h]; rfl

/-- Insertion lets entries only grow: each entry lies inside an entry of the new map, kept as it
was or absorbed into the merged interval. -/
theorem exists_entry_insertMerged {m : IntervalMap β} {i : Ival} (hd : m.Disjoint i) (v : β)
    {e : Ival × β} (he : e ∈ m.entries) :
    ∃ e' ∈ (m.insertMerged i v).entries, e'.1.start ≤ e.1.start ∧ e.1.last ≤ e'.1.last := by
  have hev := e.1.valid
  unfold insertMerged mergedEntries
  simp only [List.mem_append, List.mem_cons, List.mem_filter, decide_eq_true_eq]
  by_cases hlo : e.1.start < mergedStart m.entries i v
  · have h := last_lt_mergedStart hd v he ⟨Nat.le_refl _, hev⟩ hlo
    exact ⟨e, .inl ⟨he, h⟩, Nat.le_refl _, Nat.le_refl _⟩
  by_cases hhi : mergedLast m.entries i v < e.1.last
  · have h := mergedLast_lt_start hd v he ⟨hev, Nat.le_refl _⟩ hhi
    exact ⟨e, .inr (.inr ⟨he, h⟩), Nat.le_refl _, Nat.le_refl _⟩
  -- neither below nor above the merged interval: absorbed into it
  · exact ⟨_, .inr (.inl rfl), by simp only [mergedIval]; omega, by simp only [mergedIval]; omega⟩

/-- The merged interval holds the inserted one. -/
theorem exists_entry_insertMerged_self (m : IntervalMap β) (i : Ival) (v : β) :
    ∃ e ∈ (m.insertMerged i v).entries, e.1.start ≤ i.start ∧ i.last ≤ e.1.last :=
  ⟨_, List.mem_append_right _ List.mem_cons_self, mergedStart_le m.entries i v,
    le_mergedLast m.entries i v⟩

/-! ## Gaps and containment -/

omit [DecidableEq β]

/-- The gaps of sorted entries between the cursor `c` and `hi` (inclusive), in ascending order:
each maximal run of points in `[c, hi]` that no entry holds. -/
def gapsFrom : List (Ival × β) → Nat → Nat → List Ival
  | [], c, hi => (Ival.ii? c hi).toList
  | (i, _) :: rest, c, hi =>
    if i.last < c then gapsFrom rest c hi
    else (if c < i.start then (Ival.ii? c (min hi (i.start - 1))).toList else []) ++
      gapsFrom rest (i.last + 1) hi

/-- nodit's `gaps_trimmed`: the maximal unmapped intervals inside `outer`, in ascending order. -/
def gapsTrimmed (m : IntervalMap β) (outer : Ival) : List Ival :=
  gapsFrom m.entries outer.start outer.last

theorem mem_ii?_toList {a b : Nat} {g : Ival} (h : g ∈ (Ival.ii? a b).toList) :
    g.start = a ∧ g.last = b := by
  cases hg : Ival.ii? a b with
  | none => rw [hg] at h; cases h
  | some g' =>
    rw [hg, Option.toList_some, List.mem_singleton] at h
    subst h; exact Ival.ii?_eq_some hg

theorem exists_mem_ii?_toList {a b x : Nat} (h1 : a ≤ x) (h2 : x ≤ b) :
    ∃ g ∈ (Ival.ii? a b).toList, g.Mem x := by
  refine ⟨⟨a, b, by omega⟩, ?_, ⟨h1, h2⟩⟩
  simp [Ival.ii?, show a ≤ b by omega]

/-- A point lies in a gap from the cursor iff it lies in `[c, hi]` and no entry holds it. -/
theorem mem_gapsFrom {l : List (Ival × β)} (hs : EntriesSorted l) (c hi x : Nat) :
    (∃ g ∈ gapsFrom l c hi, g.Mem x) ↔ c ≤ x ∧ x ≤ hi ∧ ∀ e ∈ l, ¬ e.1.Mem x := by
  induction l generalizing c with
  | nil =>
    simp only [gapsFrom, List.not_mem_nil, IsEmpty.forall_iff, implies_true, and_true]
    constructor
    · rintro ⟨g, hg, hx⟩
      obtain ⟨rfl, rfl⟩ := mem_ii?_toList hg
      exact hx
    · rintro ⟨h1, h2⟩
      exact exists_mem_ii?_toList h1 h2
  | cons e l ih =>
    unfold EntriesSorted at hs
    rw [List.pairwise_cons] at hs
    have hev := e.1.valid
    have hafter : ∀ e' ∈ l, e.1.last < e'.1.start := hs.1
    rw [List.forall_mem_cons]
    obtain ⟨i, w⟩ := e
    dsimp only at hev hafter
    simp only [gapsFrom]
    split
    · -- the entry ends before the cursor
      rename_i hlt
      rw [ih hs.2 c]
      constructor
      · rintro ⟨h1, h2, h3⟩
        exact ⟨h1, h2, by simp only [Ival.mem_iff]; omega, h3⟩
      · rintro ⟨h1, h2, _, h3⟩
        exact ⟨h1, h2, h3⟩
    · rename_i hge
      simp only [List.mem_append]
      constructor
      · rintro ⟨g, hg | hg, hx⟩
        · split at hg
          · obtain ⟨hgs, hgl⟩ := mem_ii?_toList hg
            simp only [Ival.mem_iff, hgs, hgl] at hx
            refine ⟨by omega, by omega, by simp only [Ival.mem_iff]; omega, ?_⟩
            intro e' he' hx'
            have := hafter e' he'
            simp only [Ival.mem_iff] at hx'
            omega
          · cases hg
        · obtain ⟨h1, h2, h3⟩ := (ih hs.2 (i.last + 1)).mp ⟨g, hg, hx⟩
          exact ⟨by omega, h2, by simp only [Ival.mem_iff]; omega, h3⟩
      · rintro ⟨h1, h2, h3, h4⟩
        simp only [Ival.mem_iff, not_and, Nat.not_le] at h3
        by_cases hxs : x < i.start
        · have hcs : c < i.start := by omega
          obtain ⟨g, hg, hx⟩ := exists_mem_ii?_toList h1
            (show x ≤ min hi (i.start - 1) by omega)
          exact ⟨g, .inl (by rw [if_pos hcs]; exact hg), hx⟩
        · obtain ⟨g, hg, hx⟩ := (ih hs.2 (i.last + 1)).mpr ⟨by have := h3 (by omega); omega, h2, h4⟩
          exact ⟨g, .inr hg, hx⟩

theorem mem_gapsTrimmed (m : IntervalMap β) (outer : Ival) (x : Nat) :
    (∃ g ∈ m.gapsTrimmed outer, g.Mem x) ↔ outer.Mem x ∧ m.get? x = none := by
  rw [gapsTrimmed, mem_gapsFrom m.sorted, get?_eq_none_iff]
  simp only [Ival.mem_iff, and_assoc]

/-- Some entry contains the whole of `i` (nodit's `iter().any(contains_interval)`). -/
def anyContains (m : IntervalMap β) (i : Ival) : Bool :=
  m.entries.any (fun e => e.1.containsInterval i)

theorem anyContains_iff (m : IntervalMap β) (i : Ival) :
    m.anyContains i = true ↔ ∃ e ∈ m.entries, ∀ x, i.Mem x → e.1.Mem x := by
  simp only [anyContains, List.any_eq_true, Ival.containsInterval_iff]


/-! ## Canonical form

nodit's merging insertion never leaves two entries of equal value touching. A map in that form
(`Canonical`) is determined by its points (`eq_of_canonical`), and `cut` and the merging
insertion keep the form (`canonical_cut`, `canonical_insertMerged`).
-/

/-- No two entries of the list touch with the same value. -/
def EntriesCanonical (l : List (Ival × β)) : Prop :=
  ∀ a ∈ l, ∀ b ∈ l, a.1.last + 1 = b.1.start → a.2 ≠ b.2

/-- No two entries of the map touch with the same value. -/
def Canonical (m : IntervalMap β) : Prop := EntriesCanonical m.entries

instance (m : IntervalMap β) : Decidable m.Canonical :=
  inferInstanceAs (Decidable (∀ a ∈ m.entries, ∀ b ∈ m.entries, _))

theorem canonical_empty : (empty : IntervalMap β).Canonical := by
  intro a ha
  cases ha

theorem Ival.eq_of_start_last {i j : Ival} (h₁ : i.start = j.start) (h₂ : i.last = j.last) :
    i = j := by
  cases i
  cases j
  simp_all

/-- Two entries of a sorted list are equal or lie apart, one wholly before the other. -/
theorem sorted_cases {l : List (Ival × β)} (hs : EntriesSorted l) {a b : Ival × β} (ha : a ∈ l)
    (hb : b ∈ l) : a = b ∨ a.1.last < b.1.start ∨ b.1.last < a.1.start := by
  by_cases h₁ : a.1.last < b.1.start
  · exact .inr (.inl h₁)
  by_cases h₂ : b.1.last < a.1.start
  · exact .inr (.inr h₂)
  -- otherwise the later of the two starts lies in both
  have hva := a.1.valid
  have hvb := b.1.valid
  exact .inl (eq_of_mem_of_mem hs ha hb (x := max a.1.start b.1.start)
    (by simp only [Ival.mem_iff]; omega) (by simp only [Ival.mem_iff]; omega))

/-- No entry of a sorted list holds a point before its first entry. -/
theorem lookup_lt_start {e : Ival × β} {l : List (Ival × β)} (hs : EntriesSorted (e :: l))
    {x : Nat} (hx : x < e.1.start) : lookup (e :: l) x = none := by
  rw [lookup_eq_none_iff]
  intro a ha hax
  simp only [Ival.mem_iff] at hax
  rcases List.mem_cons.mp ha with rfl | ha
  · omega
  · have := List.rel_of_pairwise_cons hs ha
    have := e.1.valid
    omega

/-- The point just before an entry of a canonical map does not carry the entry's value. -/
theorem Canonical.get?_pred {m : IntervalMap β} (h : m.Canonical) {e : Ival × β}
    (he : e ∈ m.entries) (hpos : 0 < e.1.start) : m.get? (e.1.start - 1) ≠ some e.2 := by
  intro hget
  obtain ⟨a, ha, hax, hav⟩ := (get?_eq_some_iff m _ _).mp hget
  simp only [Ival.mem_iff] at hax
  -- the entry holding that point ends just before `e`
  rcases sorted_cases m.sorted ha he with rfl | hlt | hlt
  · omega
  · exact h a ha e he (by omega) hav
  · have := e.1.valid
    omega

/-- In a canonical map, a run of points that all carry one value lies in one entry: an entry
that ended inside the run would touch the entry of the next point, which has the same value. -/
theorem Canonical.exists_entry_of_get? {m : IntervalMap β} (h : m.Canonical) {lo : Nat} {v : β} :
    ∀ n, (∀ x, lo ≤ x → x ≤ lo + n → m.get? x = some v) →
      ∃ e ∈ m.entries, e.1.start ≤ lo ∧ lo + n ≤ e.1.last ∧ e.2 = v := by
  intro n
  induction n with
  | zero =>
    intro hget
    obtain ⟨e, he, hx, hv⟩ := (get?_eq_some_iff m lo v).mp (hget lo (Nat.le_refl _) (by omega))
    simp only [Ival.mem_iff] at hx
    exact ⟨e, he, hx.1, by omega, hv⟩
  | succ n ih =>
    intro hget
    obtain ⟨e, he, hs, hl, hv⟩ := ih fun x h₁ h₂ => hget x h₁ (by omega)
    by_cases hlast : lo + (n + 1) ≤ e.1.last
    · exact ⟨e, he, hs, hlast, hv⟩
    · exfalso
      obtain ⟨e', he', hx', hv'⟩ :=
        (get?_eq_some_iff m _ v).mp (hget (lo + (n + 1)) (by omega) (Nat.le_refl _))
      simp only [Ival.mem_iff] at hx'
      rcases sorted_cases m.sorted he he' with rfl | hlt | hlt
      · omega
      · exact h e he e' he' (by omega) (hv.trans hv'.symm)
      · have := e.1.valid
        omega

/-- A map is canonical when no entry's value sits just before it. -/
theorem canonical_of_get? {m : IntervalMap β}
    (h : ∀ e ∈ m.entries, 0 < e.1.start → m.get? (e.1.start - 1) ≠ some e.2) : m.Canonical := by
  intro a ha b hb htouch hv
  apply h b hb (by omega)
  rw [← htouch, Nat.add_sub_cancel, ← hv]
  exact lookup_eq_of_mem m.sorted ha ⟨a.1.valid, Nat.le_refl _⟩

/-- Sorted canonical lists that agree at every point are equal. -/
theorem entries_eq_of_lookup : ∀ {l₁ l₂ : List (Ival × β)}, EntriesSorted l₁ → EntriesSorted l₂ →
    EntriesCanonical l₁ → EntriesCanonical l₂ → (∀ x, lookup l₁ x = lookup l₂ x) → l₁ = l₂
  | [], [], _, _, _, _, _ => rfl
  | [], b :: _, _, _, _, _, hg => by
    have := hg b.1.start
    rw [lookup_nil, lookup_cons, if_pos ⟨Nat.le_refl _, b.1.valid⟩] at this
    cases this
  | a :: _, [], _, _, _, _, hg => by
    have := hg a.1.start
    rw [lookup_nil, lookup_cons, if_pos ⟨Nat.le_refl _, a.1.valid⟩] at this
    cases this
  | a :: t₁, b :: t₂, hs₁, hs₂, hc₁, hc₂, hg => by
    have hva := a.1.valid
    have hvb := b.1.valid
    have hafter₁ : ∀ e ∈ t₁, a.1.last < e.1.start := fun e he => List.rel_of_pairwise_cons hs₁ he
    have hafter₂ : ∀ e ∈ t₂, b.1.last < e.1.start := fun e he => List.rel_of_pairwise_cons hs₂ he
    have hat : lookup (a :: t₁) a.1.start = some a.2 := by
      rw [lookup_cons, if_pos ⟨Nat.le_refl _, hva⟩]
    -- the two lists start at the same point, with the same value
    have hstart : a.1.start = b.1.start := by
      rcases Nat.lt_trichotomy a.1.start b.1.start with hlt | heq | hlt
      · have := hg a.1.start
        rw [hat, lookup_lt_start hs₂ hlt] at this
        cases this
      · exact heq
      · have := hg b.1.start
        rw [lookup_lt_start hs₁ hlt, lookup_cons, if_pos ⟨Nat.le_refl _, hvb⟩] at this
        cases this
    have hval : a.2 = b.2 := by
      have := hg a.1.start
      rw [hat, lookup_cons, if_pos ⟨by omega, by omega⟩] at this
      exact Option.some.inj this
    -- a longer first entry on one side would touch an entry of equal value on the other
    have hlast : ∀ {c d : Ival × β} {u v : List (Ival × β)}, EntriesSorted (c :: u) →
        EntriesCanonical (c :: u) → c.1.start = d.1.start → c.2 = d.2 → c.1.last < d.1.last →
        lookup (c :: u) (c.1.last + 1) ≠ lookup (d :: v) (c.1.last + 1) := by
      intro c d u v hs hc hcd hv hlt heq
      rw [lookup_cons, if_neg (by simp only [Ival.mem_iff]; omega), lookup_cons,
        if_pos (by simp only [Ival.mem_iff]; have := c.1.valid; omega)] at heq
      obtain ⟨e, he, hex, hev⟩ := lookup_of_mem u (c.1.last + 1) (by simp [heq])
      rw [heq] at hev
      have hce : c.1.last < e.1.start := List.rel_of_pairwise_cons hs he
      simp only [Ival.mem_iff] at hex
      exact hc c List.mem_cons_self e (List.mem_cons_of_mem _ he) (by omega)
        (hv.trans (Option.some.inj hev))
    have hl : a.1.last = b.1.last := by
      rcases Nat.lt_trichotomy a.1.last b.1.last with hlt | heq | hlt
      · exact absurd (hg _) (hlast hs₁ hc₁ hstart hval hlt)
      · exact heq
      · exact absurd (hg _).symm (hlast hs₂ hc₂ hstart.symm hval.symm hlt)
    have hab : a = b := Prod.ext (Ival.eq_of_start_last hstart hl) hval
    subst hab
    -- past the common first entry the tails agree
    have htail : ∀ x, lookup t₁ x = lookup t₂ x := by
      intro x
      by_cases hx : a.1.Mem x
      · simp only [Ival.mem_iff] at hx
        rw [(lookup_eq_none_iff t₁ x).mpr fun e he hex => by
            have := hafter₁ e he; simp only [Ival.mem_iff] at hex; omega,
          (lookup_eq_none_iff t₂ x).mpr fun e he hex => by
            have := hafter₂ e he; simp only [Ival.mem_iff] at hex; omega]
      · have := hg x
        rwa [lookup_cons, lookup_cons, if_neg hx, if_neg hx] at this
    have hsub : ∀ {t : List (Ival × β)}, EntriesCanonical (a :: t) → EntriesCanonical t :=
      fun hc x hx y hy => hc x (List.mem_cons_of_mem _ hx) y (List.mem_cons_of_mem _ hy)
    rw [entries_eq_of_lookup (List.Pairwise.of_cons hs₁) (List.Pairwise.of_cons hs₂) (hsub hc₁)
      (hsub hc₂) htail]

/-- A canonical map is determined by its points. -/
theorem eq_of_canonical {m₁ m₂ : IntervalMap β} (h₁ : m₁.Canonical) (h₂ : m₂.Canonical)
    (hg : ∀ x, m₁.get? x = m₂.get? x) : m₁ = m₂ :=
  ext (entries_eq_of_lookup m₁.sorted m₂.sorted h₁ h₂ hg)

/-- A part of an entry outside `c` starts where the entry does or just after `c`. -/
theorem residuals_start (c : Ival) (e p : Ival × β) (hp : p ∈ residuals c e) :
    p.1.start = e.1.start ∨ p.1.start = c.last + 1 := by
  unfold residuals at hp
  rw [List.mem_append] at hp
  rcases hp with hp | hp
  · split at hp
    · rw [List.mem_singleton] at hp; subst hp
      exact .inl rfl
    · cases hp
  · split at hp
    · rw [List.mem_singleton] at hp; subst hp
      dsimp only
      omega
    · cases hp

theorem canonical_cut {m : IntervalMap β} (h : m.Canonical) (c : Ival) : (m.cut c).Canonical := by
  apply canonical_of_get?
  intro p hp hpos hget
  rw [get?_cut] at hget
  split at hget
  · cases hget
  rename_i hnc
  simp only [cut, List.mem_flatMap] at hp
  obtain ⟨e, he, hp⟩ := hp
  have hv := (residuals_within c e p hp).2.2
  rcases residuals_start c e p hp with hs | hs
  · -- a part that starts with its entry sees what the entry saw before it
    rw [hs, hv] at hget
    exact h.get?_pred he (hs ▸ hpos) hget
  · -- a part that starts just after `c` has the last point of `c` before it
    rw [hs, Nat.add_sub_cancel] at hnc
    exact hnc ⟨c.valid, Nat.le_refl _⟩

variable [DecidableEq β]

/-- A merged interval that starts where the inserted one does found no touching entry of the same
value on its left. -/
theorem mergedStart_eq_self {l : List (Ival × β)} {i : Ival} {v : β}
    (h : mergedStart l i v = i.start) : ∀ e ∈ l, e.1.last + 1 = i.start → e.2 ≠ v := by
  rcases mergedStart_spec l i v with ⟨-, hnone⟩ | ⟨e, -, hs, hl, -⟩
  · exact hnone
  · -- an entry found would start at `i.start` and end before it
    have := e.1.valid
    omega

/-- The same on the right. -/
theorem mergedLast_eq_self {l : List (Ival × β)} {i : Ival} {v : β}
    (h : mergedLast l i v = i.last) : ∀ e ∈ l, i.last + 1 = e.1.start → e.2 ≠ v := by
  rcases mergedLast_spec l i v with ⟨-, hnone⟩ | ⟨e, -, hl, hs, -⟩
  · exact hnone
  · have := e.1.valid
    omega

theorem canonical_insertMerged {m : IntervalMap β} {i : Ival} (hd : m.Disjoint i) (v : β)
    (h : m.Canonical) : (m.insertMerged i v).Canonical := by
  have hsi := mergedStart_le m.entries i v
  have hit := le_mergedLast m.entries i v
  have hiv := i.valid
  apply canonical_of_get?
  intro p hp hpos hget
  rw [get?_insertMerged hd] at hget
  unfold insertMerged mergedEntries at hp
  simp only [List.mem_append, List.mem_cons, List.mem_filter, decide_eq_true_eq] at hp
  rcases hp with ⟨hp, hlt⟩ | rfl | ⟨hp, hlt⟩
  · -- an entry kept on the left sees what it saw before
    have hpv := p.1.valid
    simp only [mergedIval] at hlt
    rw [if_neg (by simp only [Ival.mem_iff]; omega)] at hget
    exact h.get?_pred hp hpos hget
  · -- the merged entry: its left neighbour, if any, was absorbed
    have hms : (mergedIval m.entries i v, v).1.start = mergedStart m.entries i v := rfl
    have hni : ¬ i.Mem ((mergedIval m.entries i v, v).1.start - 1) := by
      rw [hms]; simp only [Ival.mem_iff]; omega
    rw [if_neg hni] at hget
    rw [hms] at hpos hget
    obtain ⟨a, ha, hax, hav⟩ := (get?_eq_some_iff m _ _).mp hget
    rcases mergedStart_cases m.entries i v with hs | ⟨L, hL, hLs, -, hLv⟩
    · rw [hs] at hax hpos
      simp only [Ival.mem_iff] at hax
      have hnai : ¬ a.1.Mem i.start := fun hm => not_mem_of_disjoint hd ha hm ⟨Nat.le_refl _, hiv⟩
      simp only [Ival.mem_iff, not_and, Nat.not_le] at hnai
      have hlast : a.1.last + 1 = i.start := by omega
      exact mergedStart_eq_self hs a ha hlast hav
    · rw [← hLs, ← hLv] at hget
      exact h.get?_pred hL (by omega) hget
  · -- an entry kept on the right: the inserted interval does not touch it with its value
    have hpv := p.1.valid
    simp only [mergedIval] at hlt
    split at hget
    · rename_i hin
      simp only [Ival.mem_iff] at hin
      have htouch : i.last + 1 = p.1.start := by omega
      have hv : v = p.2 := Option.some.inj hget
      rcases mergedLast_cases m.entries i v with hl | ⟨R, hR, hRl, hRs, -⟩
      · exact mergedLast_eq_self hl p hp htouch hv.symm
      · have := eq_of_mem_of_mem m.sorted hR hp (x := p.1.start)
          (by simp only [Ival.mem_iff]; have := R.1.valid; omega) ⟨Nat.le_refl _, hpv⟩
        subst this
        omega
    · exact h.get?_pred hp hpos hget

/-- Cutting a range out and inserting it back with one value keeps the canonical form. -/
theorem canonical_cut_insert {m m' : IntervalMap β} (h : m.Canonical) {r : Ival} {v : β}
    (hins : (m.cut r).insertMergeTouchingIfValuesEqual r v = .ok m') : m'.Canonical := by
  obtain ⟨hd, rfl⟩ := insertMerge_eq_ok_iff.mp hins
  exact canonical_insertMerged hd v (canonical_cut h r)

end IntervalMap
