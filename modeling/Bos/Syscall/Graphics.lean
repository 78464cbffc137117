import Bos.Syscall.Rollback
import Bos.Task.UserTaskFromModule

/-!
# Bos.Syscall.Graphics

`sys_transfer_display` and `sys_get_bounding_box` (`syscall_handlers/graphics.rs`), with
`is_display_owner` of `graphics/display.rs` and the store of the init task's id in
`DISPLAY_OWNER` by `kmain` (`main.rs`). Both calls belong to the task whose id is `DISPLAY_OWNER`.
A transfer maps the framebuffer page by page at `FRAMEBUFFER_USER_VADDR` in the page table the
target's `cr3` names, and only then stores the target's id in `DISPLAY_OWNER`. A failed `map_to`
returns 3 at once, and nothing it mapped before is undone.

Page tables are kept by the physical address of their L4 frame, as `task.cr3` names them. Every
kernel task runs on the kernel's own L4 (`Task::new` reads `Cr3`), so a transfer to a kernel
task maps the framebuffer for all of them; a user task's L4 is its own
(`create_user_page_table`), in the lower half where the framebuffer goes.

The loop's invariant is `WindowMapped`: after `i` iterations the first `i` pages of the window map
to the framebuffer frames at the same offset, and every other page maps as before
(`WindowMapped.step`); a failing iteration changes no mapping (`WindowMapped.err`).

* `sysTransferDisplay_ok`: everything a transfer that returns can do. A non-owner gets 1 and an
  unknown target 2, with nothing changed. Otherwise the call returns 0 with the whole window
  mapped in the target's table and the target the owner, or 3 with the owner kept and a prefix
  of the window left mapped. No table at another root and no other task's address set changes.
* `transfer_never_returns`: once a transfer to `a` has returned 0, no later transfer to `a`, or
  to any task on `a`'s page table, returns 0 while only display calls run: the window stays
  mapped there and `map_to` refuses it. A step that unmaps it (`sys_munmap` by `a`) is what would
  let the display come back.
* `display_owner_follows_transfers`: from the store in `kmain`, in every run of the display calls
  and of any other steps, `DISPLAY_OWNER` is the target of the last transfer that returned 0, or
  the init task if none did, and each such transfer was made by the owner of its time.
-/

namespace Bos

open Kern

/-- `FRAMEBUFFER_USER_VADDR` of `kernel_api_types`. -/
def framebufferUserVaddr : Nat := 0x7F0000000000

/-- `PRESENT | WRITABLE | USER_ACCESSIBLE | WRITE_THROUGH`. -/
def framebufferFlags : PageTableFlags :=
  { PageTableFlags.empty with
    present := true
    writable := true
    userAccessible := true
    writeThrough := true }

/-- What `DISPLAY.get_fb_phys_and_size()` returns: the framebuffer's physical address and its
size, `pitch * height`. -/
structure Framebuffer where
  physAddr : Nat
  size : Nat

/-- `GraphicsResult` of `kernel_api_types`, as the `u64` the calls return. -/
inductive GraphicsResult where
  | ok
  | outOfBounds
  | invalidInput
  | permissionDenied
  deriving DecidableEq, Repr

def GraphicsResult.toU64 : GraphicsResult → Nat
  | .ok => 0
  | .outOfBounds => 1
  | .invalidInput => 2
  | .permissionDenied => 3

/-- What the display calls read and write: the frame allocator's map, RAM, the page tables by the
physical address of their L4 frame, and for every task its `cr3`, its `user_vaddr_set` and
whether `TASK_TABLE` holds it, with `DISPLAY_OWNER`. -/
structure DisplayState where
  phys : PhysicalMemory
  ram : Nat → UInt8
  pageTables : Nat → PageTable
  cr3 : Nat → Nat
  vaddrSets : Nat → VaddrSet
  taskTable : Nat → Bool
  displayOwner : Nat

namespace DisplayState

/-- The page table a task runs on: the one its `cr3` names. -/
def pt (s : DisplayState) (task : Nat) : PageTable := s.pageTables (s.cr3 task)

/-- What `sys_transfer_display` works on while it holds the target's `inner`: the table at the
target's `cr3` and the target's address set. -/
def view (s : DisplayState) (task : Nat) : LoadState := ⟨s.phys, s.ram, s.pt task, s.vaddrSets task⟩

/-- Put the view back: the table goes back under the target's `cr3`, for every task on it. -/
def withView (s : DisplayState) (task : Nat) (u : LoadState) : DisplayState :=
  { s with
    phys := u.phys
    ram := u.ram
    pageTables := Function.update s.pageTables (s.cr3 task) u.pt
    vaddrSets := Function.update s.vaddrSets task u.vaddrSet }

variable (s : DisplayState) (task : Nat) (u : LoadState)

@[simp] theorem withView_cr3 : (s.withView task u).cr3 = s.cr3 := rfl
@[simp] theorem withView_taskTable : (s.withView task u).taskTable = s.taskTable := rfl
@[simp] theorem withView_displayOwner : (s.withView task u).displayOwner = s.displayOwner := rfl

@[simp] theorem withView_pt : (s.withView task u).pt task = u.pt := by
  simp [pt, withView]

@[simp] theorem withView_vaddrSets : (s.withView task u).vaddrSets task = u.vaddrSet := by
  simp [withView]

theorem withView_pageTables_of_ne {root : Nat} (h : root ≠ s.cr3 task) :
    (s.withView task u).pageTables root = s.pageTables root :=
  Function.update_of_ne h _ _

theorem withView_vaddrSets_of_ne {other : Nat} (h : other ≠ task) :
    (s.withView task u).vaddrSets other = s.vaddrSets other :=
  Function.update_of_ne h _ _

@[simp] theorem view_withView : (s.withView task u).view task = u := by
  cases u
  simp [view, withView, pt]

end DisplayState

/-- `DISPLAY_OWNER` as the static starts: `u64::MAX`, no owner. -/
def noOwner : Nat := 2 ^ 64 - 1

/-- `DISPLAY_OWNER.store(init_task.id)` in `kmain`, before the init task is spawned: from then on
the display has an owner. -/
def storeInitOwner (s : DisplayState) (initTaskId : Nat) : DisplayState :=
  { s with displayOwner := initTaskId }

/-- `is_display_owner()`, for the current task of the CPU (its kind and id). -/
def isDisplayOwner (current : Option (TaskKind × Nat)) (displayOwner : Nat) : Bool :=
  match current with
  | some (_, t) => t == displayOwner
  | none => false

/-- `let _ = set.insert_merge_touching(i)`: an overlap leaves the set as it was. -/
def insertMergeTouchingOrKeep (set : VaddrSet) (i : Ival) : VaddrSet :=
  match set.insertMergeTouchingIfValuesEqual i () with
  | .ok set' => set'
  | .error _ => set

/-- One iteration of the mapping loop of `sys_transfer_display`: the framebuffer frame at
`offset = i * 4096` mapped at the page of `FRAMEBUFFER_USER_VADDR + offset`. A failed `map_to`
returns 3, signalled by `Err(())`. -/
def mapFramebufferPage (fb : Framebuffer) (i : Nat) : Kern LoadState Unit Unit := do
  let page ← bufPage framebufferUserVaddr i
  let frame := PhysFrame.containingAddress
    (← Kern.mapErr (fun _ => ()) (physAddrAdd fb.physAddr (← Kern.mulU64 i pageSize)))
  match ← tryMapTo page frame framebufferFlags with
  | .ok () => pure ()
  | .error _ => Kern.throw ()

/-- `ii(virt_start, virt_end)` for the pages of the framebuffer. -/
def framebufferWindow (fb : Framebuffer) : Kern DisplayState Empty Ival := do
  let virtEnd ← Kern.subU64
    (← Kern.addU64 framebufferUserVaddr (← Kern.mulU64 (divCeil fb.size pageSize) pageSize)) 1
  Kern.expect (Ival.ii? framebufferUserVaddr virtEnd) "invalid interval"


/-- `sys_transfer_display(new_owner_id)` with the framebuffer `fb`. -/
def sysTransferDisplay (current : Option (TaskKind × Nat)) (fb : Framebuffer) (newOwnerId : Nat) :
    Kern DisplayState Empty Nat := do
  let s ← Kern.get
  if !isDisplayOwner current s.displayOwner then pure 1
  else if !s.taskTable newOwnerId then pure 2
  else
    let interval ← framebufferWindow fb
    Kern.modify fun s => { s with
      vaddrSets := Function.update s.vaddrSets newOwnerId
        (insertMergeTouchingOrKeep (s.vaddrSets newOwnerId) interval) }
    match ← Kern.zoom (fun s => s.view newOwnerId) (fun s v => s.withView newOwnerId v)
        (Kern.result (Kern.forRange (divCeil fb.size pageSize) (mapFramebufferPage fb))) with
    | .error () => pure 3
    | .ok () => do
      Kern.modify fun s => { s with displayOwner := newOwnerId }
      pure 0

/-- `sys_get_bounding_box(rect_out_ptr)`. The write of the rectangle through `rect_out_ptr` is
not modelled. -/
def sysGetBoundingBox (current : Option (TaskKind × Nat)) (rectOutPtr : Nat) :
    Kern DisplayState Empty Nat := do
  let s ← Kern.get
  if !isDisplayOwner current s.displayOwner then pure GraphicsResult.permissionDenied.toU64
  else
    let valid ← Kern.ofExcept (validateUserPtr
      (current.map fun (k, t) => (k, s.vaddrSets t)) rectOutPtr 16)
    if !valid then pure GraphicsResult.invalidInput.toU64
    else pure GraphicsResult.ok.toU64

/-! ## The mapping loop -/

variable {u u' : LoadState} {fb : Framebuffer}

theorem mapFramebufferPage_ok {i : Nat} (h : mapFramebufferPage fb i u = .ok () u') :
    ∃ p : Page, p.start.addr = framebufferUserVaddr + i * pageSize ∧
      fb.physAddr + i * pageSize < 2 ^ 52 ∧
      u'.pt.leaf p = some ⟨PhysFrame.containingAddress (fb.physAddr + i * pageSize), framebufferFlags⟩ ∧
      (∀ k, k ≠ p.path → u'.pt.entry 1 k = u.pt.entry 1 k) ∧ u'.vaddrSet = u.vaddrSet := by
  unfold mapFramebufferPage at h
  obtain ⟨p, u₁, h₁, h⟩ := bind_ok_iff.mp h
  obtain ⟨hp, hu₁⟩ := bufPage_addr (by decide) h₁
  subst u₁
  obtain ⟨m, u₂, h₂, h⟩ := bind_ok_iff.mp h
  obtain ⟨-, rfl, rfl⟩ := mulU64_ok h₂
  obtain ⟨r, u₃, h₃, h⟩ := bind_ok_iff.mp h
  have h₃' := mapErr_ok_iff.mp h₃
  have hlt := physAddrAdd_lt h₃'
  obtain ⟨rfl, hu₃⟩ := physAddrAdd_ok h₃'
  subst u₃
  obtain ⟨x, u₄, h₄, h⟩ := bind_ok_iff.mp h
  obtain ⟨ps, rfl, ⟨rfl, hm⟩ | ⟨e, rfl, -⟩⟩ := tryMapTo_eq_ok h₄
  · cases h
    obtain ⟨-, -, hleaf, -, hother⟩ := mapTo_ok hm
    exact ⟨p, hp, hlt, hleaf, hother, rfl⟩
  · cases h

theorem mapFramebufferPage_err {i : Nat} {e : Unit} (h : mapFramebufferPage fb i u = .err e u') :
    (∀ k, u'.pt.entry 1 k = u.pt.entry 1 k) ∧ u'.vaddrSet = u.vaddrSet := by
  unfold mapFramebufferPage at h
  rcases bind_err_iff.mp h with h | ⟨p, u₁, h₁, h⟩
  · exact absurd h bufPage_ne_err
  obtain ⟨-, hu₁⟩ := bufPage_addr (by decide) h₁
  subst u₁
  rcases bind_err_iff.mp h with h | ⟨m, u₂, h₂, h⟩
  · unfold mulU64 at h; split at h <;> cases h
  obtain ⟨-, -, rfl⟩ := mulU64_ok h₂
  rcases bind_err_iff.mp h with h | ⟨r, u₃, h₃, h⟩
  · obtain ⟨e₀, h, -⟩ := mapErr_err_iff.mp h
    exact absurd h physAddrAdd_ne_err
  obtain ⟨-, hu₃⟩ := physAddrAdd_ok (mapErr_ok_iff.mp h₃)
  subst u₃
  rcases bind_err_iff.mp h with h | ⟨x, u₄, h₄, h⟩
  · exact absurd h tryMapTo_ne_err
  obtain ⟨ps, rfl, ⟨rfl, -⟩ | ⟨e, rfl, hm⟩⟩ := tryMapTo_eq_ok h₄
  · cases h
  · cases h
    exact ⟨(mapTo_err hm).2, rfl⟩

/-- `pt'` maps the first `n` pages of the framebuffer window to the framebuffer frames at the
same offsets, and every other page as `pt` does. -/
def FramebufferMapped (fb : Framebuffer) (n : Nat) (pt pt' : PageTable) : Prop :=
  (∀ p, InWindow framebufferUserVaddr (framebufferUserVaddr + n * pageSize) p →
    pt'.leaf p = some ⟨PhysFrame.containingAddress
      (fb.physAddr + (p.start.addr - framebufferUserVaddr)), framebufferFlags⟩) ∧
  ∀ p, ¬ InWindow framebufferUserVaddr (framebufferUserVaddr + n * pageSize) p →
    pt'.leaf p = pt.leaf p

/-- What the mapping loop keeps of the target's view `u₀` after `i` iterations: the first `i`
pages of the window are mapped, the address set is as in `u₀`, and the framebuffer's address
was a valid `PhysAddr`. -/
structure WindowMapped (fb : Framebuffer) (u₀ : LoadState) (i : Nat) (u : LoadState) : Prop where
  window : FramebufferMapped fb i u₀.pt u.pt
  vaddrSet : u.vaddrSet = u₀.vaddrSet
  phys : 0 < i → fb.physAddr < 2 ^ 52

namespace WindowMapped

variable {u₀ : LoadState} {i : Nat}

theorem start (fb : Framebuffer) (u₀ : LoadState) : WindowMapped fb u₀ 0 u₀ :=
  ⟨⟨fun p hp => absurd hp (by simpa using not_inWindow_self p), fun _ _ => rfl⟩, rfl,
    fun h => absurd h (Nat.lt_irrefl 0)⟩

theorem step (h : WindowMapped fb u₀ i u) (hb : mapFramebufferPage fb i u = .ok () u') :
    WindowMapped fb u₀ (i + 1) u' := by
  obtain ⟨p, hp, hlt, hleaf, hother, hset⟩ := mapFramebufferPage_ok hb
  -- the window grows by the page the iteration mapped
  have hw : ∀ q, InWindow framebufferUserVaddr (framebufferUserVaddr + (i + 1) * pageSize) q ↔
      InWindow framebufferUserVaddr (framebufferUserVaddr + i * pageSize) q ∨ q = p := by
    intro q
    rw [show framebufferUserVaddr + (i + 1) * pageSize =
      framebufferUserVaddr + i * pageSize + pageSize by ring]
    exact inWindow_push hp (by omega) q
  have hkeep : ∀ q, q ≠ p → u'.pt.leaf q = u.pt.leaf q := fun q hq =>
    hother q.path fun hpath => hq (Page.path_injective hpath)
  refine ⟨⟨fun q hq => ?_, fun q hq => ?_⟩, hset.trans h.vaddrSet, fun _ => ?_⟩
  · rcases (hw q).mp hq with hq | rfl
    · by_cases hqp : q = p
      · subst hqp
        exact absurd hq (by unfold InWindow; omega)
      · rw [hkeep q hqp]
        exact h.window.1 q hq
    · rw [hleaf, hp, Nat.add_sub_cancel_left]
  · have hqp : q ≠ p := fun hqp => hq ((hw q).mpr (.inr hqp))
    rw [hkeep q hqp]
    exact h.window.2 q fun hq' => hq ((hw q).mpr (.inl hq'))
  · have := hlt
    omega

theorem err (h : WindowMapped fb u₀ i u) {e : Unit} (hb : mapFramebufferPage fb i u = .err e u') :
    WindowMapped fb u₀ i u' := by
  obtain ⟨hentry, hset⟩ := mapFramebufferPage_err hb
  have hleaf : ∀ q, u'.pt.leaf q = u.pt.leaf q := fun q => hentry q.path
  exact ⟨⟨fun q hq => (hleaf q).trans (h.window.1 q hq), fun q hq => (hleaf q).trans (h.window.2 q hq)⟩,
    hset.trans h.vaddrSet, h.phys⟩

/-- The whole loop: when it returns all `n` pages are mapped, and when an iteration fails the
pages before it stay mapped. -/
theorem loop (n : Nat) (u₀ : LoadState) :
    (∀ u', forRange n (mapFramebufferPage fb) u₀ = .ok () u' → WindowMapped fb u₀ n u') ∧
      (∀ e u', forRange n (mapFramebufferPage fb) u₀ = .err e u' →
        ∃ k < n, WindowMapped fb u₀ k u') :=
  forRange_induction n (mapFramebufferPage fb) (WindowMapped fb u₀)
    (fun _ u' => ∃ k < n, WindowMapped fb u₀ k u')
    (fun _ _ _ _ h hb => h.step hb) (fun i _ _ _ hi h hb => ⟨i, hi, h.err hb⟩) (start fb u₀)

end WindowMapped
section Transfer

variable {s s' : DisplayState} {current : Option (TaskKind × Nat)} {t r : Nat}

theorem isDisplayOwner_iff {o : Nat} :
    isDisplayOwner current o = true ↔ current.map Prod.snd = some o := by
  cases current with
  | none => simp [isDisplayOwner]
  | some c => simp [isDisplayOwner]

/-- The window depends on the framebuffer only: it is a nonempty run of pages from
`FRAMEBUFFER_USER_VADDR`, the same from every state. -/
theorem framebufferWindow_ok {i : Ival} (h : framebufferWindow fb s = .ok i s') :
    s' = s ∧ 0 < divCeil fb.size pageSize ∧ ∀ s₁, framebufferWindow fb s₁ = .ok i s₁ := by
  unfold framebufferWindow at h
  obtain ⟨m, s₁, h₁, h⟩ := bind_ok_iff.mp h
  obtain ⟨hm, rfl, rfl⟩ := mulU64_ok h₁
  obtain ⟨a, s₂, h₂, h⟩ := bind_ok_iff.mp h
  obtain ⟨ha, rfl, rfl⟩ := addU64_ok h₂
  obtain ⟨e, s₃, h₃, h⟩ := bind_ok_iff.mp h
  obtain ⟨he, rfl, rfl⟩ := subU64_ok h₃
  obtain ⟨hi, rfl⟩ := expect_ok_iff.mp h
  refine ⟨rfl, ?_, fun s₁ => ?_⟩
  · have := Ival.ii?_eq_some hi
    have := i.valid
    unfold pageSize at *
    omega
  · unfold framebufferWindow
    rw [mulU64_of_lt hm]
    simp only [bind_apply, pure_apply]
    rw [addU64_of_lt ha]
    simp only [pure_apply]
    rw [subU64_of_le he]
    simp [expect, hi, Kern.pure]

/-- Everything a transfer that returns can do. A non-owner gets 1 and an unknown target 2, both
with nothing changed. Otherwise the target's address set takes the window, and the loop maps the
window in the table at the target's `cr3`: all of it, after which the target becomes the owner
and the call returns 0, or the pages before a failing one, after which the owner stays and the
call returns 3. No table at another root, no other task's address set, no `cr3` and no entry of
`TASK_TABLE` changes; every task on the target's table sees what was mapped. -/
theorem sysTransferDisplay_ok (h : sysTransferDisplay current fb t s = .ok r s') :
    (isDisplayOwner current s.displayOwner = false ∧ r = 1 ∧ s' = s) ∨
      (isDisplayOwner current s.displayOwner = true ∧ s.taskTable t = false ∧ r = 2 ∧ s' = s) ∨
      (isDisplayOwner current s.displayOwner = true ∧ s.taskTable t = true ∧
        s'.taskTable = s.taskTable ∧ s'.cr3 = s.cr3 ∧
        (∀ root, root ≠ s.cr3 t → s'.pageTables root = s.pageTables root) ∧
        (∀ u, u ≠ t → s'.vaddrSets u = s.vaddrSets u) ∧
        (∃ i, (∀ s₁, framebufferWindow fb s₁ = .ok i s₁) ∧
          s'.vaddrSets t = insertMergeTouchingOrKeep (s.vaddrSets t) i) ∧
        ((r = 0 ∧ s'.displayOwner = t ∧ fb.physAddr < 2 ^ 52 ∧
            FramebufferMapped fb (divCeil fb.size pageSize) (s.pt t) (s'.pt t)) ∨
          (r = 3 ∧ s'.displayOwner = s.displayOwner ∧ ∃ k < divCeil fb.size pageSize,
            FramebufferMapped fb k (s.pt t) (s'.pt t)))) := by
  unfold sysTransferDisplay at h
  obtain ⟨s₀, s₁, h₀, h⟩ := bind_ok_iff.mp h
  cases h₀
  by_cases ho : isDisplayOwner current s.displayOwner = true
  swap
  · rw [if_pos (by simpa using ho)] at h
    cases h
    exact .inl ⟨by simpa using ho, rfl, rfl⟩
  rw [if_neg (by simp [ho])] at h
  by_cases ht : s.taskTable t = true
  swap
  · rw [if_pos (by simpa using ht)] at h
    cases h
    exact .inr (.inl ⟨ho, by simpa using ht, rfl, rfl⟩)
  rw [if_neg (by simp [ht])] at h
  refine .inr (.inr ⟨ho, ht, ?_⟩)
  obtain ⟨i, s₂, h₂, h⟩ := bind_ok_iff.mp h
  obtain ⟨hs₂, hpos, hwin⟩ := framebufferWindow_ok h₂
  subst s₂
  obtain ⟨_, s₃, h₃, h⟩ := bind_ok_iff.mp h
  cases h₃
  obtain ⟨x, s₄, h₄, h⟩ := bind_ok_iff.mp h
  obtain ⟨u, hres, rfl⟩ := zoom_ok_iff.mp h₄
  -- the frame of the write-back: other roots and other tasks' sets are as before
  set s₃ : DisplayState := { s with
    vaddrSets := Function.update s.vaddrSets t (insertMergeTouchingOrKeep (s.vaddrSets t) i) }
  have hroots : ∀ root, root ≠ s.cr3 t → (s₃.withView t u).pageTables root = s.pageTables root :=
    fun root hr => s₃.withView_pageTables_of_ne t u hr
  have hsets : ∀ v, v ≠ t → (s₃.withView t u).vaddrSets v = s.vaddrSets v := fun v hv => by
    rw [s₃.withView_vaddrSets_of_ne t u hv]
    exact Function.update_of_ne hv _ _
  have hset : ∀ k, WindowMapped fb (s₃.view t) k u →
      (s₃.withView t u).vaddrSets t = insertMergeTouchingOrKeep (s.vaddrSets t) i := fun k hw => by
    rw [DisplayState.withView_vaddrSets, hw.vaddrSet]
    simp [s₃, DisplayState.view]
  have hpt : ∀ o, ({ s₃.withView t u with displayOwner := o }).pt t = u.pt := fun _ =>
    s₃.withView_pt t u
  rcases result_ok_cases hres with ⟨a, rfl, hk⟩ | ⟨e, rfl, hk⟩
  · -- the whole window is mapped, and `DISPLAY_OWNER` is stored
    obtain ⟨_, s₅, h₅, h⟩ := bind_ok_iff.mp h
    cases h₅
    cases h
    have hw := (WindowMapped.loop _ _).1 _ hk
    exact ⟨rfl, rfl, hroots, hsets, ⟨i, hwin, hset _ hw⟩,
      .inl ⟨rfl, rfl, hw.phys hpos, by rw [hpt]; exact hw.window⟩⟩
  · cases h
    obtain ⟨k, hk', hw⟩ := (WindowMapped.loop _ _).2 e _ hk
    exact ⟨rfl, rfl, hroots, hsets, ⟨i, hwin, hset _ hw⟩,
      .inr ⟨rfl, rfl, k, hk', by rw [s₃.withView_pt t u]; exact hw.window⟩⟩

/-- A framebuffer of one page at `0x80000000`. -/
def onePageFb : Framebuffer := ⟨0x80000000, pageSize⟩

/-- Eight `Usable` frames at `0x100000`, empty page tables, and in `TASK_TABLE` the user tasks
1, 2 and 3, each on its own table, and the kernel tasks 4 and 5 on the kernel's table at 0. Task 1
is the owner. -/
def ownedDisplay : DisplayState :=
  ⟨⟨⟨[(⟨0x100000, 0x107FFF, by decide⟩, .usable)], List.pairwise_singleton _ _⟩⟩, fun _ => 0,
    fun _ => emptyKernel, fun t => if t ≤ 3 then t else 0, fun _ => IntervalMap.empty,
    fun t => 1 ≤ t && t ≤ 5, 1⟩

/-- A transfer to the kernel task 4 maps the framebuffer for the kernel task 5 too. -/
theorem sysTransferDisplay_ok_sample :
    ∃ s', sysTransferDisplay (some (.user, 1)) onePageFb 4 ownedDisplay = .ok 0 s' ∧
      s'.displayOwner = 4 ∧ FramebufferMapped onePageFb (divCeil onePageFb.size pageSize)
        (ownedDisplay.pt 5) (s'.pt 5) := by
  obtain ⟨r, s', h, hr⟩ : ∃ r s', sysTransferDisplay (some (.user, 1)) onePageFb 4 ownedDisplay =
      .ok r s' ∧ r = 0 := Outcome.exists_of_okAnd (by decide +kernel)
  subst hr
  refine ⟨s', h, ?_⟩
  rcases sysTransferDisplay_ok h with ⟨-, hr, -⟩ | ⟨-, -, hr, -⟩ |
    ⟨-, -, -, hcr3, -, -, -, ⟨-, hown, -, hmap⟩ | ⟨hr, -⟩⟩
  all_goals first | cases hr | skip
  -- tasks 4 and 5 share the kernel's `cr3`
  have hpt : s'.pt 5 = s'.pt 4 := by
    simp only [DisplayState.pt, hcr3]
    rfl
  exact ⟨hown, by rw [hpt]; exact hmap⟩

/-- The first iteration does not succeed on a target whose page table maps the first page of the
window already: \`map_to\` refuses it, or an allocation of a table frame panics. -/
theorem mapFramebufferPage_of_mapped {u : LoadState} (hphys : fb.physAddr < 2 ^ 52) {p : Page}
    (hp : p.start.addr = framebufferUserVaddr) (hleaf : (u.pt.leaf p).isSome) :
    (∃ u', mapFramebufferPage fb 0 u = .err () u') ∨ ∃ m, mapFramebufferPage fb 0 u = .panic m := by
  obtain ⟨q, hq, hbuf⟩ := bufPage_ok
    (show framebufferUserVaddr % pageSize = 0 by decide)
    (show framebufferUserVaddr + 0 * pageSize < 2 ^ 47 by decide)
  have hqp : q = p := Page.ext_iff'.mpr (by rw [hq, hp]; rfl)
  subst hqp
  have hadd : physAddrAdd fb.physAddr 0 u = .ok fb.physAddr u := by
    unfold physAddrAdd
    rw [addU64_of_lt (by omega), Nat.add_zero]
    simp only [bind_apply, pure_apply, if_pos hphys]
  have hrun : ∀ {r : Outcome LoadState Unit (Except MapToError Unit)},
      tryMapTo q (PhysFrame.containingAddress fb.physAddr) framebufferFlags u = r →
      mapFramebufferPage fb 0 u = (match r with
        | .ok (.ok ()) s' => .ok () s'
        | .ok (.error _) s' => .err () s'
        | .err e s' => .err e s'
        | .panic m => .panic m) := by
    intro r htry
    unfold mapFramebufferPage
    simp only [bind_apply, hbuf, mulU64_of_lt (show 0 * pageSize < 2 ^ 64 by decide), pure_apply,
      Nat.zero_mul, mapErr, hadd, htry]
    rcases r with ⟨_ | _, _⟩ | _ | _ <;> rfl
  -- \`map_to\` does not map a used page, so it fails or panics
  cases hm : mapTo .usedByUserMode q (PhysFrame.containingAddress fb.physAddr) framebufferFlags
    u.paging with
  | ok a ps =>
    have hnone : u.pt.leaf q = none := (mapTo_ok hm).2.1
    rw [hnone] at hleaf
    cases hleaf
  | err e ps =>
    exact .inl ⟨_, hrun (zoom_ok_iff.mpr ⟨ps, result_of_err hm, rfl⟩)⟩
  | panic msg =>
    exact .inr ⟨msg, hrun (zoom_panic_iff.mpr (result_of_panic hm))⟩

/-- A transfer by the owner to a task of \`TASK_TABLE\` whose page table already maps the first
page of the window returns 3 and keeps the owner, or panics in the allocation of a table frame. -/
theorem sysTransferDisplay_of_mapped (ho : isDisplayOwner current s.displayOwner = true)
    (ht : s.taskTable t = true) {i : Ival} (hwin : ∀ s₁, framebufferWindow fb s₁ = .ok i s₁)
    (hphys : fb.physAddr < 2 ^ 52) {p : Page} (hp : p.start.addr = framebufferUserVaddr)
    (hleaf : ((s.pt t).leaf p).isSome) :
    (∃ s', sysTransferDisplay current fb t s = .ok 3 s' ∧ s'.displayOwner = s.displayOwner) ∨
      ∃ m, sysTransferDisplay current fb t s = .panic m := by
  obtain ⟨-, hpos, -⟩ := framebufferWindow_ok (hwin s)
  obtain ⟨n, hn⟩ : ∃ n, divCeil fb.size pageSize = n + 1 := ⟨_, (Nat.succ_pred_eq_of_pos hpos).symm⟩
  unfold sysTransferDisplay
  simp only [bind_apply, get_apply, ho, ht, Bool.not_true, Bool.false_eq_true, if_false, hwin,
    modify_apply]
  set s₃ : DisplayState := { s with
    vaddrSets := Function.update s.vaddrSets t (insertMergeTouchingOrKeep (s.vaddrSets t) i) }
  have hfirst : ∀ {r}, mapFramebufferPage fb 0 (s₃.view t) = r →
      forRange (divCeil fb.size pageSize) (mapFramebufferPage fb) (s₃.view t) =
        (match r with
          | .ok () s' => forRange.go (mapFramebufferPage fb) 1 n s'
          | .err e s' => .err e s'
          | .panic m => .panic m) := by
    intro r hb
    unfold forRange
    rw [hn, forRange_go_succ, bind_apply, hb]
    rcases r with ⟨⟨⟩, _⟩ | _ | _ <;> rfl
  -- the loop's first iteration fails on the target's view, so the loop does
  rcases mapFramebufferPage_of_mapped (u := s₃.view t) hphys hp hleaf with ⟨u', hb⟩ | ⟨m, hb⟩
  · have hzoom : Kern.zoom (fun s : DisplayState => s.view t) (fun s v => s.withView t v)
        (Kern.result (forRange (divCeil fb.size pageSize) (mapFramebufferPage fb)) :
          Kern LoadState Empty (Except Unit Unit)) s₃ = .ok (.error ()) (s₃.withView t u') :=
      zoom_ok_iff.mpr ⟨u', result_of_err (hfirst hb), rfl⟩
    refine .inl ⟨s₃.withView t u', ?_, rfl⟩
    rw [hzoom]
    rfl
  · have hzoom : Kern.zoom (fun s : DisplayState => s.view t) (fun s v => s.withView t v)
        (Kern.result (forRange (divCeil fb.size pageSize) (mapFramebufferPage fb)) :
          Kern LoadState Empty (Except Unit Unit)) s₃ = .panic m :=
      zoom_panic_iff.mpr (result_of_panic (hfirst hb))
    refine .inr ⟨m, ?_⟩
    rw [hzoom]

/-! ## The display does not come back -/

/-- A page that was mapped stays mapped: the loop only adds mappings. -/
theorem FramebufferMapped.isSome_leaf {k : Nat} {pt pt' : PageTable}
    (hm : FramebufferMapped fb k pt pt') {p : Page} (h : (pt.leaf p).isSome) :
    (pt'.leaf p).isSome := by
  by_cases hp : InWindow framebufferUserVaddr (framebufferUserVaddr + k * pageSize) p
  · rw [hm.1 p hp]
    rfl
  · rw [hm.2 p hp]
    exact h

/-- A transfer keeps every mapped page of every table mapped, and every `cr3`. -/
theorem sysTransferDisplay_keeps_leaf (h : sysTransferDisplay current fb t s = .ok r s')
    {root : Nat} {p : Page} (hleaf : ((s.pageTables root).leaf p).isSome) :
    ((s'.pageTables root).leaf p).isSome ∧ s'.cr3 = s.cr3 := by
  rcases sysTransferDisplay_ok h with ⟨-, -, rfl⟩ | ⟨-, -, -, rfl⟩ |
    ⟨-, -, -, hcr3, hroots, -, -, hmap⟩
  · exact ⟨hleaf, rfl⟩
  · exact ⟨hleaf, rfl⟩
  refine ⟨?_, hcr3⟩
  by_cases hroot : root = s.cr3 t
  · -- the target's table: the loop mapped a prefix of the window over it
    subst hroot
    obtain ⟨k, hm⟩ : ∃ k, FramebufferMapped fb k (s.pt t) (s'.pt t) := by
      rcases hmap with ⟨-, -, -, hm⟩ | ⟨-, -, k, -, hm⟩
      exacts [⟨_, hm⟩, ⟨k, hm⟩]
    have hpt : s'.pt t = s'.pageTables (s.cr3 t) := by rw [DisplayState.pt, hcr3]
    rw [← hpt]
    exact hm.isSome_leaf hleaf
  · rw [hroots root hroot]
    exact hleaf

/-- A transfer to a task whose page table maps the first page of the window does not return 0:
a non-owner gets 1, an unknown target 2, and the owner 3. -/
theorem sysTransferDisplay_ne_zero_of_mapped {i : Ival}
    (hwin : ∀ s₁, framebufferWindow fb s₁ = .ok i s₁) (hphys : fb.physAddr < 2 ^ 52) {p : Page}
    (hp : p.start.addr = framebufferUserVaddr) (hleaf : ((s.pt t).leaf p).isSome)
    (h : sysTransferDisplay current fb t s = .ok r s') : r ≠ 0 := by
  rcases sysTransferDisplay_ok h with ⟨-, rfl, -⟩ | ⟨-, -, rfl, -⟩ | ⟨ho, ht, -⟩
  · decide
  · decide
  · rcases sysTransferDisplay_of_mapped ho ht hwin hphys hp hleaf with ⟨s₃, h₃, -⟩ | ⟨m, h₃⟩
    · rw [h₃] at h
      cases h
      decide
    · rw [h₃] at h
      cases h

theorem sysGetBoundingBox_ok {ptr : Nat} (h : sysGetBoundingBox current ptr s = .ok r s') :
    s' = s ∧ (isDisplayOwner current s.displayOwner = false →
      r = GraphicsResult.permissionDenied.toU64) := by
  unfold sysGetBoundingBox at h
  obtain ⟨s₀, s₁, h₀, h⟩ := bind_ok_iff.mp h
  cases h₀
  by_cases ho : isDisplayOwner current s.displayOwner = true
  · rw [if_neg (by simp [ho])] at h
    obtain ⟨v, s₂, h₂, h⟩ := bind_ok_iff.mp h
    obtain ⟨-, rfl⟩ := ofExcept_ok_iff.mp h₂
    refine ⟨?_, fun hf => absurd ho (by simp [hf])⟩
    split at h <;> cases h <;> rfl
  · rw [if_pos (by simpa using ho)] at h
    cases h
    exact ⟨rfl, fun _ => rfl⟩

end Transfer

/-! ## Runs -/

/-- A step of the machine as the display calls see it: one of the two calls, or any other step,
which may change memory, the page tables, the tasks and their `cr3` but not `DISPLAY_OWNER`:
after `kmain`, only `sys_transfer_display` stores it. -/
inductive DisplayCall where
  | transferDisplay (current : Option (TaskKind × Nat)) (newOwnerId : Nat)
  | getBoundingBox (current : Option (TaskKind × Nat)) (rectOutPtr : Nat)
  | other (next : DisplayState)

namespace DisplayCall

def exec (fb : Framebuffer) : DisplayCall → Kern DisplayState Empty Nat
  | .transferDisplay current t => sysTransferDisplay current fb t
  | .getBoundingBox current ptr => sysGetBoundingBox current ptr
  | .other next => do
    Kern.modify fun s => { next with displayOwner := s.displayOwner }
    pure 0

/-- The two display calls. Any other step may unmap the framebuffer (`sys_munmap`). -/
def isDisplayCall : DisplayCall → Bool
  | .transferDisplay .. | .getBoundingBox .. => true
  | .other _ => false

/-- The target of a call that returned `r`, if it is a transfer that returned 0. -/
def transferTarget : DisplayCall → Nat → Option Nat
  | .transferDisplay _ t, 0 => some t
  | _, _ => none

end DisplayCall

/-- The target of an entry's transfer, if it returned 0. -/
def transferredTo (e : Entry DisplayState DisplayCall Empty Nat) : Option Nat :=
  match e.result with
  | .ok r => e.input.transferTarget r
  | .error x => nomatch x

/-- The one way a step changes `DISPLAY_OWNER`: a transfer that returns 0, by the owner, to a task
of `TASK_TABLE`. -/
theorem DisplayCall.exec_owner {c : DisplayCall} {s s' : DisplayState} {r : Nat}
    (h : c.exec fb s = .ok r s') :
    s'.displayOwner = (c.transferTarget r).getD s.displayOwner ∧
      ∀ t, c.transferTarget r = some t → ∃ current, c = .transferDisplay current t ∧
        current.map Prod.snd = some s.displayOwner ∧ s.taskTable t = true := by
  cases c with
  | transferDisplay current t =>
    rcases sysTransferDisplay_ok h with ⟨-, rfl, rfl⟩ | ⟨-, -, rfl, rfl⟩ |
      ⟨ho, ht, -, -, -, -, -, ⟨rfl, hown, -⟩ | ⟨rfl, hown, -⟩⟩
    · exact ⟨rfl, fun _ h => by cases h⟩
    · exact ⟨rfl, fun _ h => by cases h⟩
    · refine ⟨hown, fun t' ht' => ?_⟩
      cases ht'
      exact ⟨current, rfl, isDisplayOwner_iff.mp ho, ht⟩
    · exact ⟨hown, fun _ h => by cases h⟩
  | getBoundingBox current ptr =>
    obtain ⟨rfl, -⟩ := sysGetBoundingBox_ok h
    exact ⟨rfl, fun _ h => by cases h⟩
  | other next =>
    simp only [DisplayCall.exec, bind_apply, modify_apply, pure_apply] at h
    cases h
    exact ⟨rfl, fun _ h => by cases h⟩

/-- What a run keeps of `DISPLAY_OWNER`: it is the target of the trace's last transfer that
returned 0, or `owner₀` if none did, and each such transfer was made by the owner of its time to
a task of `TASK_TABLE`. -/
structure OwnerFollows (owner₀ : Nat) (tr : List (Entry DisplayState DisplayCall Empty Nat))
    (s : DisplayState) : Prop where
  owner : s.displayOwner = ((tr.filterMap transferredTo).getLast?).getD owner₀
  byOwner : ∀ e ∈ tr, ∀ t, transferredTo e = some t → ∃ current,
    e.input = .transferDisplay current t ∧ current.map Prod.snd = some e.pre.displayOwner ∧
      e.pre.taskTable t = true

theorem OwnerFollows.step {owner₀ : Nat} {tr : List (Entry DisplayState DisplayCall Empty Nat)}
    {e : Entry DisplayState DisplayCall Empty Nat} (h : OwnerFollows owner₀ tr e.pre)
    (hop : e.input.exec fb e.pre = e.outcome) : OwnerFollows owner₀ (tr ++ [e]) e.post := by
  obtain ⟨r, hr, hout⟩ := Entry.exists_ok_of_empty e
  rw [hout] at hop
  obtain ⟨hown, hby⟩ := DisplayCall.exec_owner hop
  have hto : transferredTo e = e.input.transferTarget r := by simp [transferredTo, hr]
  refine ⟨?_, fun e' he' t ht => ?_⟩
  · rw [hown, List.filterMap_append, List.getLast?_append, h.owner]
    simp only [List.filterMap_cons, List.filterMap_nil, hto]
    cases e.input.transferTarget r <;> rfl
  · rcases List.mem_append.mp he' with he' | he'
    · exact h.byOwner e' he' t ht
    · rw [List.mem_singleton.mp he'] at ht ⊢
      exact hby t (hto ▸ ht)

/-- From the store in `kmain`, in every run of the display calls and of any other steps,
`DISPLAY_OWNER` is the target of the last transfer that returned 0, or the init task if none did,
and every such transfer was made by the owner of its time to a task of `TASK_TABLE`. -/
theorem display_owner_follows_transfers (fb : Framebuffer) (calls : List DisplayCall)
    (s₀ : DisplayState) (initTaskId : Nat) {s : DisplayState}
    (hrun : (runList (DisplayCall.exec fb) (storeInitOwner s₀ initTaskId) calls).2 = some s) :
    s.displayOwner = (((runList (DisplayCall.exec fb) (storeInitOwner s₀ initTaskId) calls).1.filterMap
        transferredTo).getLast?).getD initTaskId ∧
      ∀ e ∈ (runList (DisplayCall.exec fb) (storeInitOwner s₀ initTaskId) calls).1, ∀ t,
        transferredTo e = some t → ∃ current, e.input = .transferDisplay current t ∧
          current.map Prod.snd = some e.pre.displayOwner ∧ e.pre.taskTable t = true := by
  have h := runList_induction (DisplayCall.exec fb) (OwnerFollows initTaskId)
    (fun _ _ h hop => h.step hop) calls _ s [] ⟨rfl, fun _ h => absurd h List.not_mem_nil⟩ hrun
  rw [List.nil_append] at h
  exact ⟨h.owner, h.byOwner⟩

/-- `DISPLAY_OWNER` as the static starts, over `ownedDisplay`. -/
def bootDisplay : DisplayState := { ownedDisplay with displayOwner := noOwner }

/-- A transfer by a task that is not the owner returns 1; the init task's transfer to 2 makes 2
the owner. -/
theorem display_owner_follows_transfers_sample :
    ∃ s, (runList (DisplayCall.exec onePageFb) (storeInitOwner bootDisplay 1)
        [.transferDisplay (some (.user, 2)) 3, .transferDisplay (some (.user, 1)) 2,
          .getBoundingBox (some (.user, 1)) 0x1000]).2 = some s ∧ s.displayOwner = 2 := by
  obtain ⟨s, hs⟩ := Option.isSome_iff_exists.mp (by decide +kernel :
    (runList (DisplayCall.exec onePageFb) (storeInitOwner bootDisplay 1)
      [.transferDisplay (some (.user, 2)) 3, .transferDisplay (some (.user, 1)) 2,
        .getBoundingBox (some (.user, 1)) 0x1000]).2.isSome)
  refine ⟨s, hs, ?_⟩
  rw [(display_owner_follows_transfers onePageFb _ bootDisplay 1 hs).1]
  decide +kernel

/-- What a run of display calls keeps after a transfer to `a`: every `cr3` as then, and the page
`p` mapped in `a`'s table. -/
structure KeepsMapped (root : Nat) (cr3 : Nat → Nat) (p : Page) (s : DisplayState) : Prop where
  cr3_eq : s.cr3 = cr3
  mapped : ((s.pageTables root).leaf p).isSome

/-- Once a transfer to `a` has returned 0, as long as only the display calls run, no transfer to
`a` or to any task on `a`'s page table (every kernel task, if `a` is one) returns 0: the window
stays mapped there, and `map_to` refuses it. -/
theorem transfer_never_returns {c₀ : Option (TaskKind × Nat)} {a : Nat} {s₀ s₁ s : DisplayState}
    (h₁ : sysTransferDisplay c₀ fb a s₀ = .ok 0 s₁) (calls : List DisplayCall)
    (hcalls : ∀ c ∈ calls, c.isDisplayCall = true)
    (hrun : (runList (DisplayCall.exec fb) s₁ calls).2 = some s) :
    ∀ e ∈ (runList (DisplayCall.exec fb) s₁ calls).1, ∀ current t,
      e.input = .transferDisplay current t → s₁.cr3 t = s₁.cr3 a → e.result ≠ .ok 0 := by
  obtain ⟨hcr3₁, hwin, hphys, hmap₁⟩ : s₁.cr3 = s₀.cr3 ∧
      (∃ i, ∀ s, framebufferWindow fb s = .ok i s) ∧ fb.physAddr < 2 ^ 52 ∧
      FramebufferMapped fb (divCeil fb.size pageSize) (s₀.pt a) (s₁.pt a) := by
    rcases sysTransferDisplay_ok h₁ with ⟨-, h, -⟩ | ⟨-, -, h, -⟩ |
      ⟨-, -, -, hcr3, -, -, ⟨i, hwin, -⟩, ⟨-, -, hphys, hmap⟩ | ⟨h, -⟩⟩
    all_goals first | cases h | exact ⟨hcr3, ⟨i, hwin⟩, hphys, hmap⟩
  obtain ⟨i, hwin⟩ := hwin
  -- the first page of the window, which the transfer to `a` mapped
  obtain ⟨p, hp, -⟩ := bufPage_ok
    (show framebufferUserVaddr % pageSize = 0 by decide)
    (show framebufferUserVaddr + 0 * pageSize < 2 ^ 47 by decide)
  have hpos := (framebufferWindow_ok (hwin s₀)).2.1
  have hin : InWindow framebufferUserVaddr
      (framebufferUserVaddr + divCeil fb.size pageSize * pageSize) p := by
    unfold InWindow
    rw [hp]
    unfold pageSize at *
    omega
  have hstart : KeepsMapped (s₁.cr3 a) s₁.cr3 p s₁ := ⟨rfl, by
    show ((s₁.pt a).leaf p).isSome
    rw [hmap₁.1 p hin]
    rfl⟩
  -- the invariant over runs of display calls: the page stays mapped in `a`'s table, and no
  -- transfer to a task on that table returns 0
  have hinv := runList_induction_of_forall (DisplayCall.exec fb) (·.isDisplayCall = true)
    (fun tr s => KeepsMapped (s₁.cr3 a) s₁.cr3 p s ∧
      ∀ e ∈ tr, ∀ current t, e.input = .transferDisplay current t → s₁.cr3 t = s₁.cr3 a →
        e.result ≠ .ok 0)
    (fun tr e ⟨hk, htr⟩ hdisp hop => by
      obtain ⟨r, hr, hout⟩ := Entry.exists_ok_of_empty e
      rw [hout] at hop
      cases hin : e.input with
      | transferDisplay current t =>
        rw [hin] at hop
        obtain ⟨hleaf, hcr3⟩ := sysTransferDisplay_keeps_leaf hop hk.mapped
        refine ⟨⟨hcr3.trans hk.cr3_eq, hleaf⟩, fun e' he' c' t' hc' hroot => ?_⟩
        rcases List.mem_append.mp he' with he' | he'
        · exact htr e' he' c' t' hc' hroot
        · rw [List.mem_singleton.mp he'] at hc' ⊢
          rw [hin] at hc'
          cases hc'
          -- the target's table is `a`'s, where the first page is mapped
          have hleaf₀ : ((e.pre.pt t).leaf p).isSome := by
            rw [DisplayState.pt, hk.cr3_eq, hroot]
            exact hk.mapped
          rw [hr]
          intro h0
          cases h0
          exact sysTransferDisplay_ne_zero_of_mapped hwin hphys hp hleaf₀ hop rfl
      | getBoundingBox current ptr =>
        rw [hin] at hop
        obtain ⟨hpost, -⟩ := sysGetBoundingBox_ok hop
        refine ⟨hpost ▸ hk, fun e' he' c' t' hc' hroot => ?_⟩
        rcases List.mem_append.mp he' with he' | he'
        · exact htr e' he' c' t' hc' hroot
        · rw [List.mem_singleton.mp he', hin] at hc'
          cases hc'
      | other next =>
        rw [hin] at hdisp
        cases hdisp)
    calls s₁ s [] hcalls ⟨hstart, fun _ h => absurd h List.not_mem_nil⟩ hrun
  simpa using hinv.2

/-- The display goes to the kernel task 4, then to 2; the transfer back to the kernel task 5,
on 4's table, returns 3. -/
theorem transfer_never_returns_sample :
    ∃ s₁ s, sysTransferDisplay (some (.user, 1)) onePageFb 4 ownedDisplay = .ok 0 s₁ ∧
      (runList (DisplayCall.exec onePageFb) s₁
        [.transferDisplay (some (.kernel, 4)) 2, .transferDisplay (some (.user, 2)) 5]).2 = some s ∧
      ∀ e ∈ (runList (DisplayCall.exec onePageFb) s₁
        [.transferDisplay (some (.kernel, 4)) 2, .transferDisplay (some (.user, 2)) 5]).1,
        ∀ current t, e.input = .transferDisplay current t → s₁.cr3 t = s₁.cr3 4 →
          e.result ≠ .ok 0 := by
  -- the first transfer and the run after it
  obtain ⟨r, s₁, h₁, rfl, hsome⟩ : ∃ r s₁,
      sysTransferDisplay (some (.user, 1)) onePageFb 4 ownedDisplay = .ok r s₁ ∧ r = 0 ∧
        (runList (DisplayCall.exec onePageFb) s₁
          [.transferDisplay (some (.kernel, 4)) 2, .transferDisplay (some (.user, 2)) 5]).2.isSome =
          true :=
    Outcome.exists_of_okAnd (by decide +kernel)
  obtain ⟨s, hs⟩ := Option.isSome_iff_exists.mp hsome
  exact ⟨s₁, s, h₁, hs, transfer_never_returns h₁ _ (by decide) hs⟩

end Bos
