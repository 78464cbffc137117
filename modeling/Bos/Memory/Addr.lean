import Mathlib

/-!
# Bos.Memory.Addr

Addresses as the kernel computes with them: `u64` arithmetic that panics on overflow (the kernel
is built with the `dev` profile, whose overflow checks are on), canonical virtual addresses
(`VirtAddr::new` panics on any other), 4 KiB pages and physical frames, and the address-space
constants of `consts.rs`.

A partial operation returns `none` exactly where the source panics; callers turn that `none`
into a kernel panic.
-/

namespace Bos

/-- `Size4KiB::SIZE`. -/
def pageSize : Nat := 4096

/-- Last canonical address of the lower half, inclusive (`LOWER_HALF_END`). -/
def lowerHalfEnd : Nat := 0x7FFFFFFFFFFF

def userMin : Nat := 0x1000

def userMax : Nat := lowerHalfEnd

/-- `a + b` on `u64`. -/
def addU64? (a b : Nat) : Option Nat := if a + b < 2 ^ 64 then some (a + b) else none

/-- `a * b` on `u64`. -/
def mulU64? (a b : Nat) : Option Nat := if a * b < 2 ^ 64 then some (a * b) else none

/-- `a.div_ceil(b)`. -/
def divCeil (a b : Nat) : Nat := (a + b - 1) / b

/-- `a.next_multiple_of(n)`, as the standard library computes it. -/
def nextMultipleOf (a n : Nat) : Nat := if a % n = 0 then a else a + (n - a % n)

@[simp] theorem addU64?_eq_some {a b c : Nat} :
    addU64? a b = some c ↔ a + b < 2 ^ 64 ∧ a + b = c := by
  unfold addU64?
  split
  · rename_i h
    exact ⟨fun hc => ⟨h, Option.some.inj hc⟩, fun ⟨_, hc⟩ => hc ▸ rfl⟩
  · rename_i h; simp only [reduceCtorEq, false_iff, not_and]; omega

@[simp] theorem mulU64?_eq_some {a b c : Nat} :
    mulU64? a b = some c ↔ a * b < 2 ^ 64 ∧ a * b = c := by
  unfold mulU64?
  split
  · rename_i h
    exact ⟨fun hc => ⟨h, Option.some.inj hc⟩, fun ⟨_, hc⟩ => hc ▸ rfl⟩
  · rename_i h; simp only [reduceCtorEq, false_iff, not_and]; omega

theorem nextMultipleOf_spec (a : Nat) : a ≤ nextMultipleOf a pageSize ∧
    nextMultipleOf a pageSize < a + pageSize ∧ nextMultipleOf a pageSize % pageSize = 0 := by
  unfold nextMultipleOf pageSize
  split <;> omega

/-- Bits 47..63 of a 64-bit address agree. -/
def IsCanonical (a : Nat) : Prop := a < 2 ^ 47 ∨ (2 ^ 64 - 2 ^ 47 ≤ a ∧ a < 2 ^ 64)

instance : DecidablePred IsCanonical := fun _ => inferInstanceAs (Decidable (_ ∨ _))

/-- A canonical virtual address. -/
structure VirtAddr where
  addr : Nat
  canonical : IsCanonical addr
  deriving DecidableEq

/-- `VirtAddr::new`. -/
def VirtAddr.new? (a : Nat) : Option VirtAddr := if h : IsCanonical a then some ⟨a, h⟩ else none

theorem VirtAddr.new?_eq_some {a : Nat} {v : VirtAddr} :
    VirtAddr.new? a = some v ↔ IsCanonical a ∧ v.addr = a := by
  unfold VirtAddr.new?
  split
  · rename_i h
    constructor
    · rintro ⟨⟩; exact ⟨h, rfl⟩
    · rintro ⟨_, hv⟩; cases v; simp only at hv; subst hv; rfl
  · rename_i h; simp only [reduceCtorEq, false_iff, not_and]; exact fun h' => absurd h' h

/-- A 4 KiB page, named by its (aligned, canonical) start address. -/
structure Page where
  start : VirtAddr
  aligned : start.addr % pageSize = 0
  deriving DecidableEq

theorem isCanonical_alignDown {a : Nat} (h : IsCanonical a) : IsCanonical (a / pageSize * pageSize) := by
  unfold IsCanonical pageSize at *; omega

/-- `Page::containing_address`. -/
def Page.containingAddress (v : VirtAddr) : Page :=
  ⟨⟨v.addr / pageSize * pageSize, isCanonical_alignDown v.canonical⟩, by unfold pageSize; simp⟩

/-- `VirtAddr::new` in code that may panic. -/
def VirtAddr.new (a : Nat) : Except String VirtAddr :=
  match VirtAddr.new? a with
  | some v => .ok v
  | none => .error "address passed to VirtAddr::new must not contain any data in bits 48 to 64"

theorem VirtAddr.new_eq_ok {a : Nat} {v : VirtAddr} :
    VirtAddr.new a = .ok v ↔ IsCanonical a ∧ v.addr = a := by
  rw [← VirtAddr.new?_eq_some, VirtAddr.new]
  split <;> simp_all

theorem VirtAddr.new_of_not_canonical {a : Nat} (h : ¬ IsCanonical a) :
    VirtAddr.new a =
      .error "address passed to VirtAddr::new must not contain any data in bits 48 to 64" := by
  unfold VirtAddr.new VirtAddr.new?
  rw [dif_neg h]

/-- `page + i`: `Page::containing_address(VirtAddr::new(page.start_address() + i * 4096))`,
where the multiplication and the addition panic on overflow and `VirtAddr::new` on a
non-canonical sum. -/
def Page.add (p : Page) (i : Nat) : Except String Page := do
  let some d := mulU64? i pageSize | .error "attempt to multiply with overflow"
  let some a := addU64? p.start.addr d | .error "attempt to add with overflow"
  let v ← VirtAddr.new a
  pure (Page.containingAddress v)

/-- The virtual page number. -/
def Page.number (p : Page) : Nat := p.start.addr / pageSize

theorem Page.ext_iff' {p q : Page} : p = q ↔ p.start.addr = q.start.addr := by
  constructor
  · rintro rfl; rfl
  · intro h
    obtain ⟨⟨a, ha⟩, _⟩ := p
    obtain ⟨⟨b, hb⟩, _⟩ := q
    simp only at h; subst h; rfl

theorem Page.add_eq_ok {p q : Page} {i : Nat} : p.add i = .ok q ↔
    p.start.addr + i * pageSize < 2 ^ 64 ∧ IsCanonical (p.start.addr + i * pageSize) ∧
      q.start.addr = p.start.addr + i * pageSize := by
  have hp := p.aligned
  have hcont : ∀ v : VirtAddr, v.addr = p.start.addr + i * pageSize →
      (Page.containingAddress v = q ↔ q.start.addr = p.start.addr + i * pageSize) := by
    intro v hv
    rw [eq_comm, Page.ext_iff']
    simp only [Page.containingAddress, hv]
    unfold pageSize at *
    omega
  unfold Page.add
  -- one case per check of the source, in its order: the product, the sum, canonicity
  by_cases h₁ : i * pageSize < 2 ^ 64
  · rw [mulU64?_eq_some.mpr ⟨h₁, rfl⟩]
    dsimp only
    by_cases h₂ : p.start.addr + i * pageSize < 2 ^ 64
    · rw [addU64?_eq_some.mpr ⟨h₂, rfl⟩]
      dsimp only
      by_cases h₃ : IsCanonical (p.start.addr + i * pageSize)
      · rw [VirtAddr.new_eq_ok.mpr (show IsCanonical _ ∧ (⟨_, h₃⟩ : VirtAddr).addr = _ from ⟨h₃, rfl⟩)]
        show Except.ok (Page.containingAddress ⟨_, h₃⟩) = Except.ok q ↔ _
        rw [Except.ok.injEq, hcont ⟨_, h₃⟩ rfl]
        exact ⟨fun h => ⟨h₂, h₃, h⟩, fun h => h.2.2⟩
      · rw [VirtAddr.new_of_not_canonical h₃]
        exact ⟨nofun, fun h => absurd h.2.1 h₃⟩
    · have hnone : addU64? p.start.addr (i * pageSize) = none := by
        unfold addU64?; rw [if_neg h₂]
      rw [hnone]
      exact ⟨nofun, fun h => absurd h.1 h₂⟩
  · have hnone : mulU64? i pageSize = none := by
      unfold mulU64?; rw [if_neg h₁]
    rw [hnone]
    exact ⟨nofun, fun h => absurd (Nat.lt_of_le_of_lt (Nat.le_add_left _ _) h.1) h₁⟩

/-- A 4 KiB physical frame, named by its aligned start address. -/
structure PhysFrame where
  start : Nat
  aligned : start % pageSize = 0
  deriving DecidableEq, Repr

/-- `PhysFrame::containing_address`. -/
def PhysFrame.containingAddress (a : Nat) : PhysFrame := ⟨a / pageSize * pageSize, by unfold pageSize; simp⟩

/-- The byte address `x` lies in the frame. -/
def PhysFrame.Mem (f : PhysFrame) (x : Nat) : Prop := f.start ≤ x ∧ x < f.start + pageSize

instance (f : PhysFrame) (x : Nat) : Decidable (f.Mem x) := inferInstanceAs (Decidable (_ ∧ _))

/-- Two frames that share a byte are equal. -/
theorem PhysFrame.eq_of_mem {f g : PhysFrame} {x : Nat} (hf : f.Mem x) (hg : g.Mem x) : f = g := by
  obtain ⟨a, ha⟩ := f
  obtain ⟨b, hb⟩ := g
  have hab : a = b := by
    simp only [PhysFrame.Mem, pageSize] at hf hg ha hb
    omega
  subst hab; rfl

theorem PhysFrame.mem_start (f : PhysFrame) : f.Mem f.start :=
  ⟨Nat.le_refl _, by unfold pageSize; omega⟩

end Bos
