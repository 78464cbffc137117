import Mathlib

/-!
# Lib.ArrayOps

Loops over a fixed-size array `[α; N]`, modelled as a list of length `N` read with `getD`, and
`copy_nonoverlapping` on a memory modelled as a function from offsets.

* `shiftDown l pos last` is `for i in pos..last { a[i] = a[i + 1] }`: on the first `last + 1`
  entries it removes the one at `pos` (`take_shiftDown`).
* `shiftUp l n` is `for i in (0..n).rev() { a[i + 1] = a[i] }`: it moves the first `n` entries up
  by one, so writing `a[0]` afterwards puts a value in front of them (`take_shiftUp`).
* `copyRange dst src srcOff dstOff count` is `copy_nonoverlapping(src + srcOff, dst + dstOff,
  count)`.
* `copyRange? dst src len ..` is the same copy into a buffer of `len` entries, `none` when the
  destination range leaves it.
* Loops in `Option` (a body that can panic): `foldlM_induction` carries an invariant through a
  loop that returns, `foldlM_exists` shows that a loop whose body returns from every state of an
  invariant returns, `foldlM_eq_some_foldl` that a loop whose body never panics is the pure loop,
  and `foldlM_eq_none` that a loop whose body panics at one element panics.
-/

namespace ArrayOps

variable {α : Type}

theorem getD_set (l : List α) (i j : Nat) (a d : α) :
    (l.set i a).getD j d = if i = j ∧ j < l.length then a else l.getD j d := by
  simp only [List.getD_eq_getElem?_getD, List.getElem?_set]
  by_cases hij : i = j
  · subst hij
    by_cases hi : i < l.length
    · simp [hi]
    · simp [hi]
  · simp [hij]

theorem take_set_length (l : List α) (k : Nat) (a : α) (h : k < l.length) :
    (l.set k a).take (k + 1) = l.take k ++ [a] := by
  apply List.ext_getElem (by simp; omega)
  intro j h₁ h₂
  simp only [List.length_take, List.length_set] at h₁
  rw [List.getElem_take, List.getElem_set]
  by_cases hj : j < k
  · rw [if_neg (by omega), List.getElem_append_left (by simp; omega), List.getElem_take]
  · rw [if_pos (by omega), List.getElem_append_right (by simp; omega)]
    simp

theorem length_foldl_set {β : Type} (is : List β) (idx : β → Nat) (val : List α → β → α) :
    ∀ l : List α, (is.foldl (fun l i => l.set (idx i) (val l i)) l).length = l.length := by
  induction is with
  | nil => intro l; rfl
  | cons i is ih => intro l; rw [List.foldl_cons, ih, List.length_set]

section Shift

variable [Inhabited α]

/-- `for i in pos..last { a[i] = a[i + 1] }`. -/
def shiftDown (l : List α) (pos last : Nat) : List α :=
  (List.range' pos (last - pos)).foldl (fun l i => l.set i (l.getD (i + 1) default)) l

/-- `for i in (0..n).rev() { a[i + 1] = a[i] }`. -/
def shiftUp (l : List α) (n : Nat) : List α :=
  (List.range n).reverse.foldl (fun l i => l.set (i + 1) (l.getD i default)) l

@[simp] theorem length_shiftDown (l : List α) (pos last : Nat) :
    (shiftDown l pos last).length = l.length :=
  length_foldl_set _ _ _ l

@[simp] theorem length_shiftUp (l : List α) (n : Nat) : (shiftUp l n).length = l.length :=
  length_foldl_set _ _ _ l

/-- Each step reads the entry above the one it writes, which no earlier step has written. -/
theorem getD_foldl_shiftDown (k : Nat) : ∀ (pos : Nat) (l : List α) (j : Nat),
    ((List.range' pos k).foldl (fun l i => l.set i (l.getD (i + 1) default)) l).getD j default =
      if pos ≤ j ∧ j < pos + k then l.getD (j + 1) default else l.getD j default := by
  induction k with
  | zero =>
    intro pos l j
    rw [if_neg (by omega)]
    rfl
  | succ k ih =>
    intro pos l j
    rw [List.range'_succ, List.foldl_cons, ih, getD_set, getD_set]
    by_cases hj : j = pos
    · subst hj
      by_cases hl : j < l.length
      · simp [hl]
      · simp [hl, List.getElem?_eq_none (show l.length ≤ j + 1 by omega)]
    · by_cases hlo : pos + 1 ≤ j ∧ j < pos + 1 + k
      · rw [if_pos hlo, if_neg (by omega), if_pos (by omega)]
      · rw [if_neg hlo, if_neg (by omega), if_neg (by omega)]

theorem getD_shiftDown (l : List α) (pos last j : Nat) :
    (shiftDown l pos last).getD j default =
      if pos ≤ j ∧ j < last then l.getD (j + 1) default else l.getD j default := by
  unfold shiftDown
  rw [getD_foldl_shiftDown]
  by_cases h : pos ≤ j ∧ j < last
  · rw [if_pos (by omega), if_pos h]
  · rw [if_neg (by omega), if_neg h]

/-- Each step reads the entry below the one it writes, which no earlier step has written. -/
theorem getD_foldl_shiftUp (n : Nat) : ∀ (l : List α) (j : Nat),
    ((List.range n).reverse.foldl (fun l i => l.set (i + 1) (l.getD i default)) l).getD j
        default =
      if 1 ≤ j ∧ j ≤ n ∧ j < l.length then l.getD (j - 1) default else l.getD j default := by
  induction n with
  | zero =>
    intro l j
    rw [if_neg (by omega)]
    rfl
  | succ n ih =>
    intro l j
    rw [List.range_succ, List.reverse_append, List.reverse_singleton, List.singleton_append,
      List.foldl_cons, ih, getD_set, getD_set, List.length_set]
    by_cases hj : j = n + 1
    · subst hj
      by_cases hl : n + 1 < l.length
      · simp [hl]
      · simp [hl]
    · by_cases hlo : 1 ≤ j ∧ j ≤ n ∧ j < l.length
      · rw [if_pos hlo, if_neg (by omega), if_pos (by omega)]
      · rw [if_neg hlo, if_neg (by omega)]
        by_cases hn : 1 ≤ j ∧ j ≤ n + 1 ∧ j < l.length
        · omega
        · rw [if_neg hn]

theorem getD_shiftUp (l : List α) (n j : Nat) :
    (shiftUp l n).getD j default =
      if 1 ≤ j ∧ j ≤ n ∧ j < l.length then l.getD (j - 1) default else l.getD j default :=
  getD_foldl_shiftUp n l j

theorem getElem_eq_getD (l : List α) {j : Nat} (h : j < l.length) : l[j] = l.getD j default := by
  rw [List.getD_eq_getElem _ _ h]

/-- On the first `last + 1` entries, `shiftDown` removes the one at `pos`. -/
theorem take_shiftDown {l : List α} {pos last : Nat} (hp : pos ≤ last) (h : last < l.length) :
    (shiftDown l pos last).take last = (l.take (last + 1)).eraseIdx pos := by
  have hlen : ((l.take (last + 1)).eraseIdx pos).length = last := by
    rw [List.length_eraseIdx_of_lt (by simp; omega), List.length_take]
    omega
  apply List.ext_getElem (by rw [hlen, List.length_take, length_shiftDown]; omega)
  intro j h₁ h₂
  simp only [List.length_take, length_shiftDown] at h₁
  rw [List.getElem_take, getElem_eq_getD _ (by simp; omega), getD_shiftDown, List.getElem_eraseIdx]
  by_cases hj : j < pos
  · rw [if_neg (by omega), dif_pos hj, List.getElem_take, getElem_eq_getD]
  · rw [if_pos (by omega), dif_neg hj, List.getElem_take, getElem_eq_getD]

/-- After `shiftUp` and a write of `a[0]`, the first `n + 1` entries are `a` followed by the old
first `n`. -/
theorem take_shiftUp {l : List α} {n : Nat} (a : α) (h : n < l.length) :
    ((shiftUp l n).set 0 a).take (n + 1) = a :: l.take n := by
  apply List.ext_getElem (by simp; omega)
  intro j h₁ h₂
  simp only [List.length_take, List.length_set, length_shiftUp] at h₁
  rw [List.getElem_take, List.getElem_set]
  cases j with
  | zero => rw [if_pos rfl, List.getElem_cons_zero]
  | succ j =>
    rw [if_neg (by omega), getElem_eq_getD _ (by simp; omega), getD_shiftUp, if_pos (by omega),
      List.getElem_cons_succ, List.getElem_take, getElem_eq_getD]
    rfl

end Shift

/-- `copy_nonoverlapping(src.add(srcOff), dst.add(dstOff), count)` on memory modelled by
offsets. -/
def copyRange (dst src : Nat → α) (srcOff dstOff count : Nat) : Nat → α :=
  fun i => if dstOff ≤ i ∧ i < dstOff + count then src (srcOff + (i - dstOff)) else dst i

/-- `copyRange` into a buffer of `len` entries; `none` when the destination range leaves it. -/
def copyRange? (dst src : Nat → α) (len srcOff dstOff count : Nat) : Option (Nat → α) :=
  if dstOff + count ≤ len then some (copyRange dst src srcOff dstOff count) else none

theorem copyRange_of_not_mem (dst src : Nat → α) {srcOff dstOff count i : Nat}
    (hi : ¬ (dstOff ≤ i ∧ i < dstOff + count)) : copyRange dst src srcOff dstOff count i = dst i := by
  unfold copyRange
  rw [if_neg hi]

theorem copyRange?_eq_some {dst src : Nat → α} {len srcOff dstOff count : Nat}
    {dst' : Nat → α} (h : copyRange? dst src len srcOff dstOff count = some dst') :
    dstOff + count ≤ len ∧ dst' = copyRange dst src srcOff dstOff count := by
  unfold copyRange? at h
  split at h
  · exact ⟨‹_›, (Option.some.inj h).symm⟩
  · cases h

/-! ## Rows of a row-major image

An image of width `W` keeps pixel `(x, y)` at offset `y * W + x`. A blit copies one segment of
`n` pixels per row, each with its own `copy_nonoverlapping`. -/

/-- Offset `q * W + b` of a pixel in column `b < W` lies in the segment of row `r` from column
`x0` to `x0 + n` (with `x0 + n ≤ W`) exactly when it is in that row and between those columns. -/
theorem row_segment_iff {W r q b x0 n : Nat} (hb : b < W) (hn : x0 + n ≤ W) :
    (r * W + x0 ≤ q * W + b ∧ q * W + b < r * W + x0 + n) ↔ (q = r ∧ x0 ≤ b ∧ b < x0 + n) := by
  constructor
  · rintro ⟨hlo, hhi⟩
    -- a row apart is `W` apart, more than any column
    have hq : q = r := by
      rcases Nat.lt_trichotomy q r with hlt | heq | hgt
      · have h := Nat.mul_le_mul_right W (Nat.succ_le_of_lt hlt)
        rw [Nat.succ_mul] at h
        omega
      · exact heq
      · have h := Nat.mul_le_mul_right W (Nat.succ_le_of_lt hgt)
        rw [Nat.succ_mul] at h
        omega
    subst hq
    omega
  · rintro ⟨rfl, h₁, h₂⟩
    omega

theorem row_major_lt {W H px py : Nat} (hpx : px < W) (hpy : py < H) : py * W + px < W * H := by
  have h := Nat.mul_le_mul_right W (Nat.succ_le_of_lt hpy)
  rw [Nat.succ_mul, Nat.mul_comm H] at h
  omega

/-- A row segment of a `W × H` image ends inside it. -/
theorem row_segment_le {W H x n y : Nat} (hy : y < H) (hn : x + n ≤ W) : y * W + x + n ≤ W * H := by
  have h := Nat.mul_le_mul_right W (Nat.succ_le_of_lt hy)
  rw [Nat.succ_mul, Nat.mul_comm H] at h
  omega

/-- Two pixels of an image of width `W` at the same offset are the same pixel. -/
theorem row_major_inj {W px py qx qy : Nat} (hp : px < W) (hq : qx < W)
    (h : py * W + px = qy * W + qx) : px = qx ∧ py = qy := by
  have hseg : py * W + px ≤ qy * W + qx ∧ qy * W + qx < py * W + px + 1 := ⟨by omega, by omega⟩
  obtain ⟨hrow, hcol⟩ := (row_segment_iff hq (show px + 1 ≤ W by omega)).mp hseg
  exact ⟨by omega, hrow.symm⟩

/-- A copy of a whole `W × H` image. -/
theorem copyRange_whole (dst src : Nat → α) {W H px py : Nat} (hpx : px < W) (hpy : py < H) :
    copyRange dst src 0 0 (W * H) (py * W + px) = src (py * W + px) := by
  unfold copyRange
  rw [if_pos ⟨Nat.zero_le _, by rw [Nat.zero_add]; exact row_major_lt hpx hpy⟩, Nat.zero_add,
    Nat.sub_zero]

/-- `m` rows copied from `src` into `dst`, row `row` from offset `srcOff row` to column `x0` of
row `y0 + row`: a pixel in the rows `y0 ..< y0 + m` and the columns `x0 ..< x0 + n` comes from
its row's source, every other pixel is kept. -/
theorem foldl_copyRange_rows (dst src : Nat → α) (srcOff : Nat → Nat) {W x0 n : Nat}
    (hn : x0 + n ≤ W) (y0 m : Nat) {px : Nat} (hpx : px < W) (py : Nat) :
    (List.range m).foldl (fun s row => copyRange s src (srcOff row) ((y0 + row) * W + x0) n) dst
        (py * W + px) =
      if y0 ≤ py ∧ py < y0 + m ∧ x0 ≤ px ∧ px < x0 + n then src (srcOff (py - y0) + (px - x0))
      else dst (py * W + px) := by
  induction m with
  | zero => rw [if_neg (by omega)]; rfl
  | succ m ih =>
    rw [List.range_succ, List.foldl_append, List.foldl_cons, List.foldl_nil]
    change (if _ then _ else _) = _
    rw [ih]
    by_cases hrow : py = y0 + m ∧ x0 ≤ px ∧ px < x0 + n
    · -- the last row written holds the pixel
      rw [if_pos ((row_segment_iff hpx hn).mpr hrow), if_pos (by omega)]
      obtain ⟨rfl, -, -⟩ := hrow
      rw [Nat.add_sub_cancel_left]
      congr 1
      omega
    · rw [if_neg (mt (row_segment_iff hpx hn).mp hrow)]
      by_cases hbefore : y0 ≤ py ∧ py < y0 + m ∧ x0 ≤ px ∧ px < x0 + n
      · rw [if_pos hbefore, if_pos (by omega)]
      · rw [if_neg hbefore, if_neg (by omega)]

/-! ## Loops that can panic -/

section Loops

variable {β σ : Type} {f : σ → β → Option σ}

theorem foldlM_induction (P : σ → Prop) {l : List β}
    (hf : ∀ s a s', a ∈ l → P s → f s a = some s' → P s') :
    ∀ s s', P s → l.foldlM f s = some s' → P s' := by
  induction l with
  | nil =>
    intro s s' hs h
    cases h
    exact hs
  | cons b l ih =>
    intro s s' hs h
    rw [List.foldlM_cons, Option.bind_eq_bind, Option.bind_eq_some_iff] at h
    obtain ⟨s₁, h₁, h⟩ := h
    have hs₁ := hf s b s₁ List.mem_cons_self hs h₁
    exact ih (fun t a t' ha => hf t a t' (List.mem_cons_of_mem _ ha)) s₁ s' hs₁ h

theorem foldlM_exists (P : σ → Prop) {l : List β}
    (hf : ∀ s a, a ∈ l → P s → ∃ s', f s a = some s' ∧ P s') :
    ∀ s, P s → ∃ s', l.foldlM f s = some s' ∧ P s' := by
  induction l with
  | nil => exact fun s hs => ⟨s, rfl, hs⟩
  | cons b l ih =>
    intro s hs
    obtain ⟨s₁, h₁, hs₁⟩ := hf s b List.mem_cons_self hs
    obtain ⟨s', h, hs'⟩ := ih (fun t a ha => hf t a (List.mem_cons_of_mem _ ha)) s₁ hs₁
    refine ⟨s', ?_, hs'⟩
    rw [List.foldlM_cons, h₁]
    exact h

theorem foldlM_eq_some_foldl {g : σ → β → σ} {l : List β} (hf : ∀ s a, a ∈ l → f s a = some (g s a)) :
    ∀ s, l.foldlM f s = some (l.foldl g s) := by
  induction l with
  | nil => exact fun s => rfl
  | cons b l ih =>
    intro s
    rw [List.foldlM_cons, hf s b List.mem_cons_self, List.foldl_cons]
    exact ih (fun t a ha => hf t a (List.mem_cons_of_mem _ ha)) (g s b)

end Loops

theorem foldlM_eq_none {β σ : Type} (f : σ → β → Option σ) (P : σ → Prop)
    (hP : ∀ s b s', P s → f s b = some s' → P s') {a : β} (ha : ∀ s, P s → f s a = none) :
    ∀ l : List β, a ∈ l → ∀ s, P s → l.foldlM f s = none := by
  intro l
  induction l with
  | nil => intro h; cases h
  | cons b l ih =>
    intro hmem s hs
    rw [List.foldlM_cons]
    rcases List.mem_cons.mp hmem with hab | hmem
    · rw [← hab, ha s hs]
      rfl
    · cases hf : f s b with
      | none => rfl
      | some s' => exact ih hmem s' (hP s b s' hs hf)

end ArrayOps
