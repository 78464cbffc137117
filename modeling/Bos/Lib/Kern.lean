import Mathlib

/-!
# Lib.Kern

Routines of a kernel written in a language with `Result` and `?` and `panic = "abort"`: a state
monad whose computations return a value, stop early with an error value (`?` on an `Err`;
what was done to the state so far stays done), or panic (the machine stops, there is no state
after it).

`Kern σ ε α` is that monad on state `σ` with errors `ε`. `forRange n body` is `for i in 0..n`.
The lemmas below take a run apart: the bind lemmas (`bind_ok_iff`, `bind_err_iff`,
`bind_panic_iff`) and the loop lemmas (`forRange_go_succ`, `forRange_ok_induction`,
`forM_ok_induction`, `foldlM_ok_induction`).
-/

/-- The outcome of a routine: a value and the final state, an early error and the state at that
point, or a panic. -/
inductive Outcome (σ ε α : Type) where
  | ok (a : α) (s : σ)
  | err (e : ε) (s : σ)
  | panic (msg : String)
  deriving Repr

/-- The routine returned `Ok`. -/
def Outcome.isOk {σ ε α : Type} : Outcome σ ε α → Bool
  | .ok .. => true
  | _ => false

theorem Outcome.exists_of_isOk {σ ε α : Type} {o : Outcome σ ε α} (h : o.isOk = true) :
    ∃ a s, o = .ok a s := by
  cases o with
  | ok a s => exact ⟨a, s, rfl⟩
  | err => cases h
  | panic => cases h

/-- The outcome returned normally, with a value and a state that pass `p`. -/
def Outcome.okAnd {σ ε α : Type} (p : α → σ → Bool) : Outcome σ ε α → Bool
  | .ok a s => p a s
  | _ => false

theorem Outcome.exists_of_okAnd {σ ε α : Type} {o : Outcome σ ε α} {P : α → σ → Prop}
    [∀ a s, Decidable (P a s)] (h : o.okAnd (fun a s => decide (P a s)) = true) :
    ∃ a s, o = .ok a s ∧ P a s := by
  cases o with
  | ok a s => exact ⟨a, s, rfl, of_decide_eq_true h⟩
  | err => cases h
  | panic => cases h

/-- The routine returned `Err`. -/
def Outcome.isErr {σ ε α : Type} : Outcome σ ε α → Bool
  | .err .. => true
  | _ => false

theorem Outcome.exists_of_isErr {σ ε α : Type} {o : Outcome σ ε α} (h : o.isErr = true) :
    ∃ e s, o = .err e s := by
  cases o with
  | ok => cases h
  | err e s => exact ⟨e, s, rfl⟩
  | panic => cases h

/-- The outcome ends in a state that `R` relates to `s`, by `Ok` or by `Err`, or it panics. -/
def Outcome.Keeps {σ ε α : Type} (R : σ → σ → Prop) (s : σ) : Outcome σ ε α → Prop
  | .ok _ s' => R s s'
  | .err _ s' => R s s'
  | .panic _ => True

theorem Outcome.Keeps.of_rel {σ ε α : Type} {R : σ → σ → Prop} [IsTrans σ R] {o : Outcome σ ε α}
    {s s₁ : σ} (h₁ : R s s₁) (h₂ : o.Keeps R s₁) : o.Keeps R s := by
  cases o with
  | ok _ s' => exact trans_of R h₁ h₂
  | err _ s' => exact trans_of R h₁ h₂
  | panic => trivial

def Kern (σ ε α : Type) : Type := σ → Outcome σ ε α

namespace Kern

variable {σ ε α β : Type}

protected def pure (a : α) : Kern σ ε α := fun s => .ok a s

protected def bind (x : Kern σ ε α) (f : α → Kern σ ε β) : Kern σ ε β := fun s =>
  match x s with
  | .ok a s' => f a s'
  | .err e s' => .err e s'
  | .panic m => .panic m

instance : Monad (Kern σ ε) where
  pure := Kern.pure
  bind := Kern.bind

def get : Kern σ ε σ := fun s => .ok s s

def set (s : σ) : Kern σ ε Unit := fun _ => .ok () s

def modify (f : σ → σ) : Kern σ ε Unit := fun s => .ok () (f s)

/-- Return `Err(e)` (`?` on an error). -/
def throw (e : ε) : Kern σ ε α := fun s => .err e s

/-- Panic with a message. -/
def abort (msg : String) : Kern σ ε α := fun _ => .panic msg

/-- `o.expect(msg)`, `o.unwrap()`. -/
def expect (o : Option α) (msg : String) : Kern σ ε α :=
  match o with
  | some a => Kern.pure a
  | none => abort msg

/-- `o.ok_or(e)?`. -/
def okOr (o : Option α) (e : ε) : Kern σ ε α :=
  match o with
  | some a => Kern.pure a
  | none => throw e

/-- A computation that can only panic. -/
def ofExcept (x : Except String α) : Kern σ ε α :=
  match x with
  | .ok a => Kern.pure a
  | .error m => abort m

/-- `a + b` on `u64`, which panics on overflow (the kernel is built with overflow checks). -/
def addU64 (a b : Nat) : Kern σ ε Nat :=
  if a + b < 2 ^ 64 then Kern.pure (a + b) else abort "attempt to add with overflow"

/-- `a * b` on `u64`. -/
def mulU64 (a b : Nat) : Kern σ ε Nat :=
  if a * b < 2 ^ 64 then Kern.pure (a * b) else abort "attempt to multiply with overflow"

/-- `a - b` on `u64`. -/
def subU64 (a b : Nat) : Kern σ ε Nat :=
  if b ≤ a then Kern.pure (a - b) else abort "attempt to subtract with overflow"

/-- Run `k` on the part `view s` of the state and put its final state back with `update`: a
routine that borrows one field of a larger state, as a mapper borrows the page table. -/
def zoom {τ : Type} (view : σ → τ) (update : σ → τ → σ) (k : Kern τ ε α) : Kern σ ε α := fun s =>
  match k (view s) with
  | .ok a t => .ok a (update s t)
  | .err e t => .err e (update s t)
  | .panic m => .panic m

/-- Run `k` and hand its result on as a value, `Ok` or `Err`, as a `match` on it does. -/
def result {ε' : Type} (k : Kern σ ε α) : Kern σ ε' (Except ε α) := fun s =>
  match k s with
  | .ok a s' => .ok (.ok a) s'
  | .err e s' => .ok (.error e) s'
  | .panic m => .panic m

/-- `.map_err(f)`. -/
def mapErr {ε' : Type} (f : ε → ε') (k : Kern σ ε α) : Kern σ ε' α := fun s =>
  match k s with
  | .ok a s' => .ok a s'
  | .err e s' => .err (f e) s'
  | .panic m => .panic m

/-- `.unwrap()` on a `Result`: an error panics. -/
def unwrap {ε' : Type} (k : Kern σ ε' α) : Kern σ ε α := fun s =>
  match k s with
  | .ok a s' => .ok a s'
  | .err _ _ => .panic "called Result::unwrap() on an Err value"
  | .panic m => .panic m

/-- `for i in 0..n { body(i) }`. -/
def forRange (n : Nat) (body : Nat → Kern σ ε Unit) : Kern σ ε Unit :=
  go 0 n
where
  go (i : Nat) : Nat → Kern σ ε Unit
    | 0 => Kern.pure ()
    | k + 1 => Kern.bind (body i) fun _ => go (i + 1) k

@[simp] theorem pure_apply (a : α) (s : σ) : (pure a : Kern σ ε α) s = .ok a s := rfl

@[simp] theorem bind_apply (x : Kern σ ε α) (f : α → Kern σ ε β) (s : σ) :
    (x >>= f) s = match x s with
      | .ok a s' => f a s'
      | .err e s' => .err e s'
      | .panic m => .panic m := rfl

@[simp] theorem get_apply (s : σ) : (get : Kern σ ε σ) s = .ok s s := rfl

@[simp] theorem set_apply (s s' : σ) : (set s' : Kern σ ε Unit) s = .ok () s' := rfl

@[simp] theorem modify_apply (f : σ → σ) (s : σ) : (modify f : Kern σ ε Unit) s = .ok () (f s) :=
  rfl

@[simp] theorem throw_apply (e : ε) (s : σ) : (throw e : Kern σ ε α) s = .err e s := rfl

@[simp] theorem abort_apply (m : String) (s : σ) : (abort m : Kern σ ε α) s = .panic m := rfl

theorem bind_ok_iff {x : Kern σ ε α} {f : α → Kern σ ε β} {s s'' : σ} {b : β} :
    (x >>= f) s = .ok b s'' ↔ ∃ a s', x s = .ok a s' ∧ f a s' = .ok b s'' := by
  simp only [bind_apply]
  split <;> simp_all

theorem bind_err_iff {x : Kern σ ε α} {f : α → Kern σ ε β} {s s'' : σ} {e : ε} :
    (x >>= f) s = .err e s'' ↔ x s = .err e s'' ∨ ∃ a s', x s = .ok a s' ∧ f a s' = .err e s'' := by
  simp only [bind_apply]
  split <;> simp_all

theorem bind_panic_iff {x : Kern σ ε α} {f : α → Kern σ ε β} {s : σ} {m : String} :
    (x >>= f) s = .panic m ↔ x s = .panic m ∨ ∃ a s', x s = .ok a s' ∧ f a s' = .panic m := by
  simp only [bind_apply]
  split <;> simp_all

@[simp] theorem expect_some (a : α) (m : String) : (expect (some a) m : Kern σ ε α) = pure a := rfl

@[simp] theorem expect_none (m : String) : (expect none m : Kern σ ε α) = abort m := rfl

@[simp] theorem okOr_some (a : α) (e : ε) : (okOr (some a) e : Kern σ ε α) = pure a := rfl

@[simp] theorem okOr_none (e : ε) : (okOr none e : Kern σ ε α) = throw e := rfl

@[simp] theorem ofExcept_ok (a : α) : (ofExcept (.ok a) : Kern σ ε α) = pure a := rfl

@[simp] theorem ofExcept_error (m : String) : (ofExcept (.error m) : Kern σ ε α) = abort m := rfl

theorem addU64_of_lt {a b : Nat} (h : a + b < 2 ^ 64) : (addU64 a b : Kern σ ε Nat) = pure (a + b) :=
  if_pos h

theorem mulU64_of_lt {a b : Nat} (h : a * b < 2 ^ 64) : (mulU64 a b : Kern σ ε Nat) = pure (a * b) :=
  if_pos h

theorem subU64_of_le {a b : Nat} (h : b ≤ a) : (subU64 a b : Kern σ ε Nat) = pure (a - b) :=
  if_pos h

theorem addU64_ok {a b : Nat} {s s' : σ} {c : Nat} (h : (addU64 a b : Kern σ ε Nat) s = .ok c s') :
    a + b < 2 ^ 64 ∧ c = a + b ∧ s = s' := by
  unfold addU64 at h
  split at h
  · cases h; exact ⟨‹_›, rfl, rfl⟩
  · cases h

theorem mulU64_ok {a b : Nat} {s s' : σ} {c : Nat} (h : (mulU64 a b : Kern σ ε Nat) s = .ok c s') :
    a * b < 2 ^ 64 ∧ c = a * b ∧ s = s' := by
  unfold mulU64 at h
  split at h
  · cases h; exact ⟨‹_›, rfl, rfl⟩
  · cases h

theorem subU64_ok {a b : Nat} {s s' : σ} {c : Nat} (h : (subU64 a b : Kern σ ε Nat) s = .ok c s') :
    b ≤ a ∧ c = a - b ∧ s = s' := by
  unfold subU64 at h
  split at h
  · cases h; exact ⟨‹_›, rfl, rfl⟩
  · cases h

section Lift

variable {τ ε' : Type}

theorem zoom_ok_iff {view : σ → τ} {update : σ → τ → σ} {k : Kern τ ε α} {s s' : σ} {a : α} :
    zoom view update k s = .ok a s' ↔ ∃ t, k (view s) = .ok a t ∧ s' = update s t := by
  simp only [zoom]
  split <;> simp_all [eq_comm]

theorem zoom_err_iff {view : σ → τ} {update : σ → τ → σ} {k : Kern τ ε α} {s s' : σ} {e : ε} :
    zoom view update k s = .err e s' ↔ ∃ t, k (view s) = .err e t ∧ s' = update s t := by
  simp only [zoom]
  split <;> simp_all [eq_comm]

theorem zoom_panic_iff {view : σ → τ} {update : σ → τ → σ} {k : Kern τ ε α} {s : σ} {m : String} :
    zoom view update k s = .panic m ↔ k (view s) = .panic m := by
  simp only [zoom]
  split <;> simp_all

theorem mapErr_ok_iff {f : ε → ε'} {k : Kern σ ε α} {s s' : σ} {a : α} :
    mapErr f k s = .ok a s' ↔ k s = .ok a s' := by
  simp only [mapErr]
  split <;> simp_all

theorem mapErr_err_iff {f : ε → ε'} {k : Kern σ ε α} {s s' : σ} {e : ε'} :
    mapErr f k s = .err e s' ↔ ∃ e₀, k s = .err e₀ s' ∧ f e₀ = e := by
  simp only [mapErr]
  split <;> simp_all [eq_comm, and_comm]

theorem unwrap_ok_iff {k : Kern σ ε' α} {s s' : σ} {a : α} :
    (unwrap k : Kern σ ε α) s = .ok a s' ↔ k s = .ok a s' := by
  simp only [unwrap]
  split <;> simp_all

theorem result_of_ok {k : Kern σ ε α} {s s' : σ} {a : α} (h : k s = .ok a s') :
    (result k : Kern σ ε' (Except ε α)) s = .ok (.ok a) s' := by
  simp only [result, h]

theorem result_of_err {k : Kern σ ε α} {s s' : σ} {e : ε} (h : k s = .err e s') :
    (result k : Kern σ ε' (Except ε α)) s = .ok (.error e) s' := by
  simp only [result, h]

theorem result_of_panic {k : Kern σ ε α} {s : σ} {m : String} (h : k s = .panic m) :
    (result k : Kern σ ε' (Except ε α)) s = .panic m := by
  simp only [result, h]

theorem result_ok_cases {k : Kern σ ε α} {s s' : σ} {x : Except ε α}
    (h : (result k : Kern σ ε' (Except ε α)) s = .ok x s') :
    (∃ a, x = .ok a ∧ k s = .ok a s') ∨ ∃ e, x = .error e ∧ k s = .err e s' := by
  unfold result at h
  split at h <;> cases h
  · exact .inl ⟨_, rfl, by assumption⟩
  · exact .inr ⟨_, rfl, by assumption⟩

end Lift

theorem ofExcept_ok_iff {x : Except String α} {s s' : σ} {a : α} :
    (ofExcept x : Kern σ ε α) s = .ok a s' ↔ x = .ok a ∧ s = s' := by
  cases x <;> simp [ofExcept, Kern.pure, abort, eq_comm]

theorem okOr_ok_iff {o : Option α} {e : ε} {s s' : σ} {a : α} :
    (okOr o e : Kern σ ε α) s = .ok a s' ↔ o = some a ∧ s = s' := by
  cases o <;> simp [okOr, Kern.pure, throw, eq_comm]

theorem expect_ok_iff {o : Option α} {m : String} {s s' : σ} {a : α} :
    (expect o m : Kern σ ε α) s = .ok a s' ↔ o = some a ∧ s = s' := by
  cases o <;> simp [expect, Kern.pure, abort, eq_comm]

theorem forRange_go_zero (body : Nat → Kern σ ε Unit) (i : Nat) :
    forRange.go body i 0 = pure () := rfl

theorem forRange_go_succ (body : Nat → Kern σ ε Unit) (i k : Nat) :
    forRange.go body i (k + 1) = (body i >>= fun _ => forRange.go body (i + 1) k) := rfl

/-- Loop induction: an invariant `inv i s` of the state before iteration `i` that every
iteration that returns carries to `i + 1` holds after the whole loop, when it returns. -/
theorem forRange_go_ok_induction (body : Nat → Kern σ ε Unit) (inv : Nat → σ → Prop)
    (hstep : ∀ i s s', inv i s → body i s = .ok () s' → inv (i + 1) s') :
    ∀ k i s s', inv i s → forRange.go body i k s = .ok () s' → inv (i + k) s' := by
  intro k
  induction k with
  | zero =>
    intro i s s' hinv h
    cases h
    simpa using hinv
  | succ k ih =>
    intro i s s' hinv h
    rw [forRange_go_succ, bind_ok_iff] at h
    obtain ⟨_, s1, h1, h2⟩ := h
    have := ih (i + 1) s1 s' (hstep i s s1 hinv h1) h2
    rwa [Nat.add_assoc, Nat.add_comm 1 k] at this

theorem forRange_ok_induction (n : Nat) (body : Nat → Kern σ ε Unit) (inv : Nat → σ → Prop)
    (hstep : ∀ i s s', inv i s → body i s = .ok () s' → inv (i + 1) s') {s s' : σ}
    (h0 : inv 0 s) (h : forRange n body s = .ok () s') : inv n s' := by
  have := forRange_go_ok_induction body inv hstep n 0 s s' h0 h
  simpa using this

/-- Loop induction for both outcomes of `for i in 0..n`: an invariant carried by every iteration
that returns, and what holds of the state an iteration fails in. -/
theorem forRange_induction (n : Nat) (body : Nat → Kern σ ε Unit) (inv : Nat → σ → Prop)
    (Q : ε → σ → Prop)
    (hok : ∀ i s s', i < n → inv i s → body i s = .ok () s' → inv (i + 1) s')
    (herr : ∀ i s e s', i < n → inv i s → body i s = .err e s' → Q e s') {s : σ} (h0 : inv 0 s) :
    (∀ s', forRange n body s = .ok () s' → inv n s') ∧
      (∀ e s', forRange n body s = .err e s' → Q e s') := by
  -- the iterations left from `i` on are `k`, all of them below `n`
  have hgo : ∀ k i s, i + k ≤ n → inv i s →
      (∀ s', forRange.go body i k s = .ok () s' → inv (i + k) s') ∧
        (∀ e s', forRange.go body i k s = .err e s' → Q e s') := by
    intro k
    induction k with
    | zero =>
      intro i s _ hinv
      refine ⟨fun s' h => ?_, fun e s' h => ?_⟩
      · cases h
        exact hinv
      · cases h
    | succ k ih =>
      intro i s hle hinv
      rw [forRange_go_succ]
      refine ⟨fun s' h => ?_, fun e s' h => ?_⟩
      · obtain ⟨_, s₁, h₁, h₂⟩ := bind_ok_iff.mp h
        have := (ih (i + 1) s₁ (by omega) (hok i s s₁ (by omega) hinv h₁)).1 s' h₂
        rwa [Nat.add_assoc, Nat.add_comm 1 k] at this
      · rcases bind_err_iff.mp h with h₁ | ⟨_, s₁, h₁, h₂⟩
        · exact herr i s e s' (by omega) hinv h₁
        · exact (ih (i + 1) s₁ (by omega) (hok i s s₁ (by omega) hinv h₁)).2 e s' h₂
  have := hgo n 0 s (by omega) h0
  rw [Nat.zero_add] at this
  exact this

/-- A loop whose every iteration returns from a state of the invariant returns. -/
theorem forRange_ok_of_step (n : Nat) (body : Nat → Kern σ ε Unit) (inv : Nat → σ → Prop)
    (hstep : ∀ i s, i < n → inv i s → ∃ s', body i s = .ok () s' ∧ inv (i + 1) s') {s : σ}
    (h0 : inv 0 s) : ∃ s', forRange n body s = .ok () s' ∧ inv n s' := by
  have hgo : ∀ k i s, i + k ≤ n → inv i s →
      ∃ s', forRange.go body i k s = .ok () s' ∧ inv (i + k) s' := by
    intro k
    induction k with
    | zero =>
      intro i s _ hinv
      exact ⟨s, rfl, hinv⟩
    | succ k ih =>
      intro i s hle hinv
      obtain ⟨s₁, h₁, hinv₁⟩ := hstep i s (by omega) hinv
      obtain ⟨s', h₂, hinv'⟩ := ih (i + 1) s₁ (by omega) hinv₁
      refine ⟨s', ?_, by rwa [Nat.add_assoc, Nat.add_comm 1 k] at hinv'⟩
      rw [forRange_go_succ, bind_apply, h₁]
      exact h₂
  have := hgo n 0 s (by omega) h0
  rw [Nat.zero_add] at this
  exact this

/-- Loop induction over a list (`for x in xs { body(x) }`): an invariant of the items already
done and the state, carried by every iteration that returns. -/
theorem forM_ok_induction {γ : Type} (body : γ → Kern σ ε Unit) (inv : List γ → σ → Prop)
    (hstep : ∀ done x s s', inv done s → body x s = .ok () s' → inv (done ++ [x]) s') :
    ∀ (xs done : List γ) (s s' : σ), inv done s → xs.forM body s = .ok () s' → inv (done ++ xs) s' := by
  intro xs
  induction xs with
  | nil =>
    intro done s s' hinv h
    cases h
    simpa using hinv
  | cons x xs ih =>
    intro done s s' hinv h
    have hcons : (x :: xs).forM body = (body x >>= fun _ => xs.forM body) := rfl
    rw [hcons, bind_ok_iff] at h
    obtain ⟨_, s₁, h₁, h₂⟩ := h
    have := ih (done ++ [x]) s₁ s' (hstep done x s s₁ hinv h₁) h₂
    simpa using this

/-- Loop induction over a fold (`for x in xs { acc = body(acc, x) }`): an invariant of the items
already done, the accumulator and the state, carried by every iteration that returns. -/
theorem foldlM_ok_induction {γ : Type} (body : α → γ → Kern σ ε α) (inv : List γ → α → σ → Prop)
    (hstep : ∀ done x a s a' s', inv done a s → body a x s = .ok a' s' → inv (done ++ [x]) a' s') :
    ∀ (xs done : List γ) (a : α) (s : σ) (a' : α) (s' : σ), inv done a s →
      xs.foldlM body a s = .ok a' s' → inv (done ++ xs) a' s' := by
  intro xs
  induction xs with
  | nil =>
    intro done a s a' s' hinv h
    cases h
    simpa using hinv
  | cons x xs ih =>
    intro done a s a' s' hinv h
    have hcons : (x :: xs).foldlM body a = (body a x >>= fun a₁ => xs.foldlM body a₁) := rfl
    rw [hcons, bind_ok_iff] at h
    obtain ⟨a₁, s₁, h₁, h₂⟩ := h
    have := ih (done ++ [x]) a₁ s₁ a' s' (hstep done x a s a₁ s₁ hinv h₁) h₂
    simpa using this

/-! ## Relations kept on every path

`Stays R k`: every run of `k` that ends in a state, by `Ok` or by an early `Err`, ends in one that
`R` relates to the state it started from. For a preorder `R` the rules below build this up from
the parts of a routine, so what a routine leaves behind on its error paths is proved without a
case split on where the error is raised. -/

/-- Every run of `k` that ends in a state relates its first and last states by `R`. A
structure, so that unifying two of them never runs the routines. -/
structure Stays (R : σ → σ → Prop) (k : Kern σ ε α) : Prop where
  keeps : ∀ s, (k s).Keeps R s

section Stays

variable {R : σ → σ → Prop}

theorem Stays.of_ok_err {k : Kern σ ε α} (hok : ∀ s a s', k s = .ok a s' → R s s')
    (herr : ∀ s e s', k s = .err e s' → R s s') : Stays R k := by
  refine ⟨fun s => ?_⟩
  cases hk : k s with
  | ok a s' => exact hok s a s' hk
  | err e s' => exact herr s e s' hk
  | panic => trivial

theorem Stays.ok {k : Kern σ ε α} (h : Stays R k) {s s' : σ} {a : α} (hk : k s = .ok a s') :
    R s s' := by
  have := h.keeps s
  rwa [hk] at this

theorem Stays.err {k : Kern σ ε α} (h : Stays R k) {s s' : σ} {e : ε} (hk : k s = .err e s') :
    R s s' := by
  have := h.keeps s
  rwa [hk] at this

theorem Stays.zoom {τ : Type} {R' : τ → τ → Prop} {view : σ → τ} {update : σ → τ → σ}
    {k : Kern τ ε α} (hk : Stays R' k) (hu : ∀ s t, R' (view s) t → R s (update s t)) :
    Stays R (zoom view update k) := by
  refine ⟨fun s => ?_⟩
  simp only [Kern.zoom]
  cases hks : k (view s) with
  | ok a t => exact hu s t (hk.ok hks)
  | err e t => exact hu s t (hk.err hks)
  | panic => trivial

theorem Stays.mapErr {ε' : Type} {f : ε → ε'} {k : Kern σ ε α} (hk : Stays R k) :
    Stays R (mapErr f k) := by
  refine ⟨fun s => ?_⟩
  simp only [Kern.mapErr]
  cases hks : k s with
  | ok a s' => exact hk.ok hks
  | err e s' => exact hk.err hks
  | panic => trivial

/-- `unwrap` turns the errors of `k` into panics, which end in no state. -/
theorem Stays.unwrap {ε' : Type} {k : Kern σ ε' α} (hk : Stays R k) :
    Stays R (unwrap k : Kern σ ε α) := by
  refine ⟨fun s => ?_⟩
  simp only [Kern.unwrap]
  cases hks : k s with
  | ok a s' => exact hk.ok hks
  | err e s' => trivial
  | panic => trivial

theorem stays_abort (m : String) : Stays R (abort m : Kern σ ε α) := ⟨fun _ => trivial⟩

theorem stays_modify {f : σ → σ} (h : ∀ s, R s (f s)) : Stays R (modify f : Kern σ ε Unit) := ⟨h⟩

theorem Stays.ite {c : Prop} [Decidable c] {x y : Kern σ ε α} (hx : Stays R x) (hy : Stays R y) :
    Stays R (if c then x else y) := by
  split
  · exact hx
  · exact hy

variable [IsPreorder σ R]

theorem stays_pure (a : α) : Stays R (pure a : Kern σ ε α) := ⟨fun s => refl_of R s⟩

theorem stays_throw (e : ε) : Stays R (throw e : Kern σ ε α) := ⟨fun s => refl_of R s⟩

theorem stays_get : Stays R (get : Kern σ ε σ) := ⟨fun s => refl_of R s⟩

theorem Stays.bind {x : Kern σ ε α} {f : α → Kern σ ε β} (hx : Stays R x)
    (hf : ∀ a, Stays R (f a)) : Stays R (x >>= f) := by
  refine ⟨fun s => ?_⟩
  rw [bind_apply]
  cases hxs : x s with
  | ok a s₁ => exact ((hf a).keeps s₁).of_rel (hx.ok hxs)
  | err e s₁ => exact hx.err hxs
  | panic => trivial

theorem stays_okOr (o : Option α) (e : ε) : Stays R (okOr o e : Kern σ ε α) := by
  cases o with
  | some a => exact stays_pure a
  | none => exact stays_throw e

theorem stays_ofExcept (x : Except String α) : Stays R (ofExcept x : Kern σ ε α) := by
  cases x with
  | ok a => exact stays_pure a
  | error m => exact stays_abort m

theorem stays_addU64 (a b : Nat) : Stays R (addU64 a b : Kern σ ε Nat) :=
  Stays.ite (stays_pure _) (stays_abort _)

theorem stays_mulU64 (a b : Nat) : Stays R (mulU64 a b : Kern σ ε Nat) :=
  Stays.ite (stays_pure _) (stays_abort _)

theorem stays_subU64 (a b : Nat) : Stays R (subU64 a b : Kern σ ε Nat) :=
  Stays.ite (stays_pure _) (stays_abort _)

theorem Stays.forRange {n : Nat} {body : Nat → Kern σ ε Unit} (h : ∀ i, Stays R (body i)) :
    Stays R (forRange n body) := by
  -- the loop from `i` with `k` iterations left is `k` bodies chained by `bind`
  have hgo : ∀ k i, Stays R (forRange.go body i k) := by
    intro k
    induction k with
    | zero =>
      intro i
      rw [forRange_go_zero]
      exact stays_pure ()
    | succ k ih =>
      intro i
      rw [forRange_go_succ]
      exact (h i).bind fun _ => ih (i + 1)
  exact hgo n 0

theorem Stays.forM {γ : Type} {body : γ → Kern σ ε Unit} :
    ∀ {xs : List γ}, (∀ x ∈ xs, Stays R (body x)) → Stays R (xs.forM body)
  | [], _ => stays_pure ()
  | x :: xs, h => by
    have hcons : (x :: xs).forM body = (body x >>= fun _ => xs.forM body) := rfl
    rw [hcons]
    exact (h x List.mem_cons_self).bind fun _ =>
      Stays.forM fun y hy => h y (List.mem_cons_of_mem _ hy)

end Stays

/-! ## Triples for the runs that return

`Triple P k Q`: a run of `k` from a state of `P` that returns `a` ends in a state of `Q a`. An
`Err` or a panic is not constrained: these are the properties a routine restores only when it
completes, such as "every frame taken is mapped", which holds neither between the allocation of a
frame and its mapping nor after an error between the two. -/

def Triple (P : σ → Prop) (k : Kern σ ε α) (Q : α → σ → Prop) : Prop :=
  ∀ s a s', P s → k s = .ok a s' → Q a s'

section Triple

variable {P P' : σ → Prop} {Q Q' : α → σ → Prop}

theorem Triple.conseq {k : Kern σ ε α} (h : Triple P k Q) (hP : ∀ s, P' s → P s)
    (hQ : ∀ a s, Q a s → Q' a s) : Triple P' k Q' :=
  fun s a s' hs hk => hQ a s' (h s a s' (hP s hs) hk)

theorem triple_pure (a : α) (Q : α → σ → Prop) : Triple (Q a) (pure a : Kern σ ε α) Q := by
  intro s b s' hs hk
  cases hk
  exact hs

theorem triple_throw (e : ε) (P : σ → Prop) (Q : α → σ → Prop) :
    Triple P (throw e : Kern σ ε α) Q := by
  intro s a s' _ hk
  cases hk

theorem triple_get (Q : σ → σ → Prop) : Triple (fun s => Q s s) (get : Kern σ ε σ) Q := by
  intro s a s' hs hk
  cases hk
  exact hs

theorem Triple.bind {R : β → σ → Prop} {x : Kern σ ε α} {f : α → Kern σ ε β} (hx : Triple P x Q)
    (hf : ∀ a, Triple (Q a) (f a) R) : Triple P (x >>= f) R := by
  intro s b s'' hs hk
  obtain ⟨a, s', h₁, h₂⟩ := bind_ok_iff.mp hk
  exact hf a s' b s'' (hx s a s' hs h₁) h₂

theorem Triple.ite {c : Prop} [Decidable c] {x y : Kern σ ε α} (hx : c → Triple P x Q)
    (hy : ¬ c → Triple P y Q) : Triple P (if c then x else y) Q := by
  split
  · rename_i hc
    exact hx hc
  · rename_i hc
    exact hy hc

/-- A fact the precondition carries beside the state may be assumed. -/
theorem Triple.pure_pre {c : Prop} {k : Kern σ ε α} (h : c → Triple P k Q) :
    Triple (fun s => P s ∧ c) k Q :=
  fun s a s' hs hk => h hs.2 s a s' hs.1 hk

/-! The steps that only compute a value keep the state and return what the source computes. -/

theorem triple_ofExcept {x : Except String α} : Triple P (ofExcept x : Kern σ ε α)
    fun a s => P s ∧ x = .ok a := by
  intro s a s' hs hk
  obtain ⟨hx, rfl⟩ := ofExcept_ok_iff.mp hk
  exact ⟨hs, hx⟩

theorem triple_okOr {o : Option α} {e : ε} : Triple P (okOr o e : Kern σ ε α)
    fun a s => P s ∧ o = some a := by
  intro s a s' hs hk
  obtain ⟨ho, rfl⟩ := okOr_ok_iff.mp hk
  exact ⟨hs, ho⟩

theorem triple_addU64 {a b : Nat} : Triple P (addU64 a b : Kern σ ε Nat)
    fun c s => P s ∧ c = a + b ∧ a + b < 2 ^ 64 := by
  intro s c s' hs hk
  obtain ⟨hlt, rfl, rfl⟩ := addU64_ok hk
  exact ⟨hs, rfl, hlt⟩

theorem triple_mulU64 {a b : Nat} : Triple P (mulU64 a b : Kern σ ε Nat)
    fun c s => P s ∧ c = a * b ∧ a * b < 2 ^ 64 := by
  intro s c s' hs hk
  obtain ⟨hlt, rfl, rfl⟩ := mulU64_ok hk
  exact ⟨hs, rfl, hlt⟩

theorem triple_subU64 {a b : Nat} : Triple P (subU64 a b : Kern σ ε Nat)
    fun c s => P s ∧ c = a - b ∧ b ≤ a := by
  intro s c s' hs hk
  obtain ⟨hle, rfl, rfl⟩ := subU64_ok hk
  exact ⟨hs, rfl, hle⟩

/-- Loop rule for `for i in 0..n`: an invariant of the iterations done that every iteration
`i < n` carries to `i + 1`. -/
theorem Triple.forRange {n : Nat} {body : Nat → Kern σ ε Unit} {I : Nat → σ → Prop}
    (h : ∀ i < n, Triple (I i) (body i) fun _ => I (i + 1)) :
    Triple (I 0) (forRange n body) fun _ => I n :=
  fun _ _ s' h0 hk => (forRange_induction n body I (fun _ _ => True)
    (fun i s s' hi hs hb => h i hi s () s' hs hb) (fun _ _ _ _ _ _ _ => trivial) h0).1 s' hk

/-- Loop rule for `for x in xs`: an invariant that every iteration carries. -/
theorem Triple.forM {γ : Type} {body : γ → Kern σ ε Unit} {I : σ → Prop} {xs : List γ}
    (h : ∀ x ∈ xs, Triple I (body x) fun _ => I) : Triple I (xs.forM body) fun _ => I := by
  intro s _ s' hs hk
  have := forM_ok_induction body (fun done s => (∀ x ∈ done, x ∈ xs) → I s)
    (fun done x s s' hinv hx hdone => h x (hdone x (by simp)) s () s'
      (hinv fun y hy => hdone y (by simp [hy])) hx) xs [] s s' (fun _ => hs) hk
  exact this fun x hx => by simpa using hx

end Triple

/-! ## Runs of operations -/

/-- One operation of a run: the state before it, its input, its result and the state after. -/
structure Entry (σ ι ε α : Type) where
  pre : σ
  input : ι
  result : Except ε α
  post : σ

/-- The outcome an entry records. -/
def Entry.outcome {ι : Type} (e : Entry σ ι ε α) : Outcome σ ε α :=
  match e.result with
  | .ok a => .ok a e.post
  | .error x => .err x e.post

theorem Entry.outcome_eq_ok_iff {ι : Type} {e : Entry σ ι ε α} {a : α} {s : σ} :
    e.outcome = .ok a s ↔ e.result = .ok a ∧ e.post = s := by
  unfold Entry.outcome
  cases e.result <;> simp

theorem Entry.outcome_eq_err_iff {ι : Type} {e : Entry σ ι ε α} {x : ε} {s : σ} :
    e.outcome = .err x s ↔ e.result = .error x ∧ e.post = s := by
  unfold Entry.outcome
  cases e.result <;> simp

theorem Entry.outcome_ne_panic {ι : Type} (e : Entry σ ι ε α) (m : String) :
    e.outcome ≠ .panic m := by
  unfold Entry.outcome
  cases e.result <;> simp

/-- An operation that cannot fail records a value. -/
theorem Entry.exists_ok_of_empty {ι : Type} (e : Entry σ ι Empty α) :
    ∃ a, e.result = .ok a ∧ e.outcome = .ok a e.post := by
  unfold Entry.outcome
  cases e.result with
  | ok a => exact ⟨a, rfl, rfl⟩
  | error x => exact x.elim

/-- Run `op` on each input in turn from `s`: the entries, and the last state. A panic stops the
machine, so the run ends there without a last state. -/
def runList {ι : Type} (op : ι → Kern σ ε α) : σ → List ι → List (Entry σ ι ε α) × Option σ
  | s, [] => ([], some s)
  | s, i :: is =>
    match op i s with
    | .ok a s' => (⟨s, i, .ok a, s'⟩ :: (runList op s' is).1, (runList op s' is).2)
    | .err e s' => (⟨s, i, .error e, s'⟩ :: (runList op s' is).1, (runList op s' is).2)
    | .panic _ => ([], none)

/-- Run induction over inputs that all satisfy `Q`: a property of the entries so far and the
current state that every operation on such an input carries over holds at the end of every run
that does not panic. -/
theorem runList_induction_of_forall {ι : Type} (op : ι → Kern σ ε α) (Q : ι → Prop)
    (P : List (Entry σ ι ε α) → σ → Prop)
    (hstep : ∀ tr e, P tr e.pre → Q e.input → op e.input e.pre = e.outcome →
      P (tr ++ [e]) e.post) :
    ∀ (is : List ι) (s s' : σ) (tr : List (Entry σ ι ε α)), (∀ i ∈ is, Q i) → P tr s →
      (runList op s is).2 = some s' → P (tr ++ (runList op s is).1) s' := by
  intro is
  induction is with
  | nil =>
    intro s s' tr _ hP h
    cases h
    simpa [runList] using hP
  | cons i is ih =>
    intro s s' tr hQ hP h
    have hi : Q i := hQ i (List.mem_cons_self ..)
    have hQ' : ∀ i' ∈ is, Q i' := fun i' hi' => hQ i' (List.mem_cons_of_mem i hi')
    -- the first entry is the step `op i s`; the rest is a run from its state
    cases ho : op i s with
    | ok a s₁ =>
      simp only [runList, ho] at h ⊢
      have := ih s₁ s' _ hQ' (hstep tr ⟨s, i, .ok a, s₁⟩ hP hi ho) h
      simpa using this
    | err x s₁ =>
      simp only [runList, ho] at h ⊢
      have := ih s₁ s' _ hQ' (hstep tr ⟨s, i, .error x, s₁⟩ hP hi ho) h
      simpa using this
    | panic m =>
      simp only [runList, ho] at h
      cases h

/-- Run induction: a property of the entries so far and the current state that every operation
carries over holds at the end of every run that does not panic. -/
theorem runList_induction {ι : Type} (op : ι → Kern σ ε α) (P : List (Entry σ ι ε α) → σ → Prop)
    (hstep : ∀ tr e, P tr e.pre → op e.input e.pre = e.outcome → P (tr ++ [e]) e.post) :
    ∀ (is : List ι) (s s' : σ) (tr : List (Entry σ ι ε α)), P tr s →
      (runList op s is).2 = some s' → P (tr ++ (runList op s is).1) s' :=
  fun is s s' tr =>
    runList_induction_of_forall op (fun _ => True) P (fun tr e hP _ hop => hstep tr e hP hop)
      is s s' tr fun _ _ => trivial

/-- A run with a last state has one entry for each input, in order. -/
theorem runList_inputs {ι : Type} (op : ι → Kern σ ε α) :
    ∀ (is : List ι) (s s' : σ), (runList op s is).2 = some s' →
      (runList op s is).1.map Entry.input = is := by
  intro is
  induction is with
  | nil => intro s s' _; rfl
  | cons i is ih =>
    intro s s' h
    cases ho : op i s with
    | ok a s₁ =>
      simp only [runList, ho] at h ⊢
      rw [List.map_cons, ih s₁ s' h]
    | err x s₁ =>
      simp only [runList, ho] at h ⊢
      rw [List.map_cons, ih s₁ s' h]
    | panic m =>
      simp only [runList, ho] at h
      cases h

/-- A run of operations that never panic has a last state. -/
theorem runList_some {ι : Type} (op : ι → Kern σ ε α) (hop : ∀ i s m, op i s ≠ .panic m) :
    ∀ (is : List ι) (s : σ), ∃ s', (runList op s is).2 = some s' := by
  intro is
  induction is with
  | nil => exact fun s => ⟨s, rfl⟩
  | cons i is ih =>
    intro s
    cases ho : op i s with
    | ok a s₁ =>
      simp only [runList, ho]
      exact ih s₁
    | err x s₁ =>
      simp only [runList, ho]
      exact ih s₁
    | panic m => exact absurd ho (hop i s m)

/-- Every run is a run of a prefix of its inputs that has a last state `s'`, with the same
entries; it ends there, or the next input panics from `s'`. -/
theorem runList_cases {ι : Type} (op : ι → Kern σ ε α) :
    ∀ (is : List ι) (s : σ), ∃ js s', js <+: is ∧ runList op s js = ((runList op s is).1, some s') ∧
      ((runList op s is).2 = some s' ∨
        ∃ i m, js ++ [i] <+: is ∧ op i s' = .panic m ∧ (runList op s is).2 = none) := by
  intro is
  induction is with
  | nil => exact fun s => ⟨[], s, List.prefix_refl _, rfl, .inl rfl⟩
  | cons i is ih =>
    intro s
    cases ho : op i s with
    | ok a s₁ =>
      obtain ⟨js, s', hpre, hrun, hend⟩ := ih s₁
      refine ⟨i :: js, s', List.cons_prefix_cons.mpr ⟨rfl, hpre⟩, ?_, ?_⟩
      · simp only [runList, ho, hrun]
      · simpa only [runList, ho, List.cons_append, List.cons_prefix_cons, true_and] using hend
    | err x s₁ =>
      obtain ⟨js, s', hpre, hrun, hend⟩ := ih s₁
      refine ⟨i :: js, s', List.cons_prefix_cons.mpr ⟨rfl, hpre⟩, ?_, ?_⟩
      · simp only [runList, ho, hrun]
      · simpa only [runList, ho, List.cons_append, List.cons_prefix_cons, true_and] using hend
    | panic m =>
      -- the run stops at its first input, before any entry
      refine ⟨[], s, List.nil_prefix, ?_, .inr ⟨i, m, ?_, ho, ?_⟩⟩
      · simp only [runList, ho]
      · simp
      · simp only [runList, ho]

end Kern
