import Bos.Syscall.PageRun

/-!
# Bos.Syscall.Rollback

The failure paths of `sys_mmap`, `sys_create_shared_buf` and `sys_map_shared_buf`, and
`sys_munmap` after `sys_mmap`. Each of the three mapping loops fails at some page `i`, in the frame
allocation or in `map_to` after the frame was taken, and then unwinds the `i` pages before with its
own rollback loop (freeing as `UsedByUserMode`, as `SharedBuffer`, or not at all) and gives the
range back. One step lemma per loop body (`mmapPage_step`, `createBufPage_step`,
`mapBufPage_step`) carries the window of `Bos.Syscall.PageRun` and, on `Err`, the state before the
range was taken; a loop lemma per loop lifts it to the whole run.

* `memory_syscall_failures_roll_back`: when `sys_mmap` returns 0, `sys_map_shared_buf` returns 0,
  or `sys_create_shared_buf` returns `u64::MAX` while `NEXT_BUF_ID` is not `u64::MAX`, the current
  task's address set and leaf mappings, the registry, and the type of every frame outside the
  task's page-table frames are as before the call (`MemState.Restored`).
* `create_shared_buf_returns_max_id`: with `NEXT_BUF_ID` at `u64::MAX` a successful
  `sys_create_shared_buf` returns `u64::MAX` and has changed the registry.
* `mmap_then_munmap_restores`: the pages of a successful `sys_mmap` are mapped with the flags
  asked for, and `sys_munmap` of the same range returns 0 and gives back the state before the
  `sys_mmap`.

The results assume what every reachable state has: a canonical map of frame types and a canonical
address set of the task (`allocateUserPages_canonical`, `freeUserPages_canonical` and the
canonical fields of the runs keep them).
-/

namespace Bos

open Kern

/-! ## Taking a range and a frame -/

theorem allocUserRange_err {n : Nat} {s t : LoadState} {e : Unit}
    (h : allocUserRange n s = .err e t) : t = s := by
  unfold allocUserRange at h
  simp only [bind_apply, get_apply] at h
  cases hA : allocateUserPages s.vaddrSet n with
  | error msg => simp [hA] at h
  | ok r =>
    cases r with
    | none =>
      simp only [hA, ofExcept_ok, pure_apply, throw_apply] at h
      cases h
      rfl
    | some r => simp [hA] at h

theorem allocUserRange_ok {n a : Nat} {s t : LoadState} (h : allocUserRange n s = .ok a t) :
    ∃ set, allocateUserPages s.vaddrSet n = .ok (some (a, set)) ∧ t = { s with vaddrSet := set } := by
  unfold allocUserRange at h
  simp only [bind_apply, get_apply] at h
  cases hA : allocateUserPages s.vaddrSet n with
  | error msg => simp [hA] at h
  | ok r =>
    cases r with
    | none => simp [hA] at h
    | some r =>
      obtain ⟨a', set⟩ := r
      simp only [hA, ofExcept_ok, pure_apply] at h
      cases h
      exact ⟨set, rfl, rfl⟩

/-- The range `allocate_user_pages` takes for `n > 0` pages is aligned, lies in the lower half,
and `free_user_pages` gives it back whole. -/
theorem allocated_range {set set' : VaddrSet} {n a : Nat} (hc : set.Canonical) (hn : 0 < n)
    (h : allocateUserPages set n = .ok (some (a, set'))) :
    a % pageSize = 0 ∧ a + n * pageSize ≤ 2 ^ 47 ∧
      freeUserPages set' a (n * pageSize) = .ok (true, set) := by
  obtain ⟨hal, hrange, -⟩ := allocateUserPages_spec h
  have hsize : 0 < n * pageSize := Nat.mul_pos hn (by unfold pageSize; omega)
  have hlast := (hrange (a + n * pageSize - 1) (by omega) (by omega)).2.1
  unfold userMax lowerHalfEnd at hlast
  exact ⟨hal, by omega, freeUserPages_of_allocate hc hn h⟩

/-- A frame taken from the allocator as `ty` is the only change of type, in the form the steps
of a run ask for. -/
theorem allocate_taken {pm pm' : PhysicalMemory} {ty : MemoryType} {f : PhysFrame}
    (h : pm.allocateFrameWithType ty = .ok (some (f, pm'))) :
    (∀ x, pm'.typeAt x = pm.typeAt x ∨ ∃ ty', some ty = some ty' ∧ f.Mem x) ∧
      ∀ ty', some ty = some ty' → ∀ x, f.Mem x →
        pm.typeAt x = some .usable ∧ pm'.typeAt x = some ty' := by
  obtain ⟨husable, htype⟩ := PhysicalMemory.allocateFrameWithType_spec h
  refine ⟨fun x => ?_, fun ty' hty' x hx => ?_⟩
  · rw [htype x]
    split
    · rename_i hx
      exact .inr ⟨ty, rfl, hx⟩
    · exact .inl rfl
  · cases hty'
    exact ⟨husable x hx, by rw [htype x, if_pos hx]⟩

theorem tryMapTo_ne_err {page : Page} {frame : PhysFrame} {fl : PageTableFlags}
    {s s' : LoadState} {e : Unit} : tryMapTo page frame fl s ≠ .err e s' := by
  intro h
  obtain ⟨ps, hres, -⟩ := zoom_err_iff.mp h
  unfold result at hres
  split at hres <;> cases hres

namespace MapRun

variable {flags : PageTableFlags} {lo hi : Nat} {s₀ t : LoadState}

/-- A step that takes a fresh frame as `ty` and maps it at the page after the window: `Ok` grows
the window, `Err` leaves it once the frame is freed as `ty`. -/
theorem take_map {ty : MemoryType} (hty : ty ≠ .usable)
    (hrun : MapRun (some ty) flags lo hi s₀ t) (hle : lo ≤ hi) {p : Page}
    (hp : p.start.addr = hi) {f : PhysFrame} {pm' : PhysicalMemory}
    (halloc : t.phys.allocateFrameWithType ty = .ok (some (f, pm'))) {r : Except MapToError Unit}
    {t₂ : LoadState} (htry : tryMapTo p f flags { t with phys := pm', ram := zeroFrame t.ram f } =
      .ok r t₂) :
    (r = .ok () → MapRun (some ty) flags lo (hi + pageSize) s₀ t₂) ∧
      ∀ e, r = .error e → MapRun (some ty) flags lo hi s₀
        { t₂ with phys := releaseFrame t₂.phys f ty } := by
  obtain ⟨hmid, hfresh⟩ := allocate_taken halloc
  exact hrun.tryMapTo_step hle (fun _ h => by cases h; exact hty) hp (by rfl) (by rfl)
    (PhysicalMemory.allocateFrameWithType_canonical hrun.canonical halloc) hmid hfresh htry

end MapRun

/-! ## The loop bodies -/

section Steps

variable {start nPages i : Nat} {set : VaddrSet} {s t : LoadState}

theorem page_in_range (hi : i < nPages) (hend : start + nPages * pageSize ≤ 2 ^ 47) :
    start + i * pageSize + pageSize ≤ start + nPages * pageSize ∧
      start + i * pageSize < 2 ^ 47 := by
  have h : (i + 1) * pageSize ≤ nPages * pageSize := Nat.mul_le_mul_right pageSize hi
  rw [Nat.add_mul, Nat.one_mul] at h
  unfold pageSize at *
  omega

theorem succ_page (start i : Nat) :
    start + (i + 1) * pageSize = start + i * pageSize + pageSize := by
  rw [Nat.add_mul, Nat.one_mul, Nat.add_assoc]

/-- One iteration of the loop of `sys_mmap`, after `i` pages: `Ok` maps page `i`, `Err` has given
back the state before the range was taken. -/
theorem mmapPage_step {flags : PageTableFlags} (hfl : flags.present = true ∧ flags.hugePage = false)
    (hal : start % pageSize = 0) (hi : i < nPages) (hend : start + nPages * pageSize ≤ 2 ^ 47)
    (hfree : freeUserPages set start (nPages * pageSize) = .ok (true, s.vaddrSet))
    (hrun : MapRun (some .usedByUserMode) flags start (start + i * pageSize)
      { s with vaddrSet := set } t) :
    (∀ t', mmapPage start nPages flags i t = .ok () t' →
      MapRun (some .usedByUserMode) flags start (start + (i + 1) * pageSize)
        { s with vaddrSet := set } t') ∧
      ∀ t', mmapPage start nPages flags i t = .err () t' → s.Reverted t' := by
  obtain ⟨-, hlt⟩ := page_in_range hi hend
  obtain ⟨p, hp, hbuf⟩ := bufPage_ok hal hlt
  have hle : start ≤ start + i * pageSize := Nat.le_add_right _ _
  rw [succ_page]
  cases halloc : t.phys.allocateFrameWithType .usedByUserMode with
  | error m =>
    -- `PhysAddr::new` panicked in the allocator
    have h : mmapPage start nPages flags i t = .panic m := by
      simp only [mmapPage, bind_apply, hbuf, get_apply, halloc, abort_apply]
    rw [h]
    exact ⟨fun _ h' => (nomatch h'), fun _ h' => (nomatch h')⟩
  | ok o =>
    cases o with
    | none =>
      -- no frame: the `i` pages mapped so far are unmapped and the range given back
      obtain ⟨t₁, hloop, hrel, hrev⟩ := hrun.unwind hfl hal hi.le hend hfree
      have h : mmapPage start nPages flags i t = .err () { t₁ with vaddrSet := s.vaddrSet } := by
        simp only [mmapPage, bind_apply, hbuf, get_apply, halloc, rollbackMmap, hloop, hrel,
          throw_apply]
      rw [h]
      exact ⟨fun _ h' => (nomatch h'), fun _ h' => by cases h'; exact hrev⟩
    | some fp =>
      obtain ⟨f, pm'⟩ := fp
      cases htry : tryMapTo p f flags { t with phys := pm', ram := zeroFrame t.ram f } with
      | ok r t₂ =>
        obtain ⟨hok, herr⟩ := hrun.take_map (by decide) hle hp halloc htry
        cases r with
        | ok u =>
          have h : mmapPage start nPages flags i t = .ok () t₂ := by
            simp only [mmapPage, bind_apply, hbuf, get_apply, halloc, set_apply, htry, pure_apply]
          rw [h]
          exact ⟨fun _ h' => (by cases h'; exact hok rfl), fun _ h' => (nomatch h')⟩
        | error e =>
          -- `map_to` failed: the frame is freed, then the pages before are unwound
          obtain ⟨t₁, hloop, hrel, hrev⟩ := (herr e rfl).unwind hfl hal hi.le hend hfree
          have h : mmapPage start nPages flags i t = .err () { t₁ with vaddrSet := s.vaddrSet } := by
            simp only [mmapPage, bind_apply, hbuf, get_apply, halloc, set_apply, htry,
              modify_apply, rollbackMmap, hloop, hrel, throw_apply]
          rw [h]
          exact ⟨fun _ h' => (nomatch h'), fun _ h' => by cases h'; exact hrev⟩
      | err e t₂ => exact absurd htry tryMapTo_ne_err
      | panic msg =>
        have h : mmapPage start nPages flags i t = .panic msg := by
          simp only [mmapPage, bind_apply, hbuf, get_apply, halloc, set_apply, htry]
        rw [h]
        exact ⟨fun _ h' => (nomatch h'), fun _ h' => (nomatch h')⟩

/-- One iteration of the loop of `create_shared_buf`: as for `sys_mmap`, with `SharedBuffer`
frames and the rollback that frees them as `SharedBuffer`. -/
theorem createBufPage_step (hal : start % pageSize = 0) (hi : i < nPages)
    (hend : start + nPages * pageSize ≤ 2 ^ 47)
    (hfree : freeUserPages set start (nPages * pageSize) = .ok (true, s.vaddrSet))
    (hrun : MapRun (some .sharedBuffer) sharedBufFlags start (start + i * pageSize)
      { s with vaddrSet := set } t) :
    (∀ f t', createBufPage start nPages i t = .ok f t' →
      MapRun (some .sharedBuffer) sharedBufFlags start (start + (i + 1) * pageSize)
        { s with vaddrSet := set } t') ∧
      ∀ t', createBufPage start nPages i t = .err () t' → s.Reverted t' := by
  have hfl : sharedBufFlags.present = true ∧ sharedBufFlags.hugePage = false := ⟨rfl, rfl⟩
  obtain ⟨-, hlt⟩ := page_in_range hi hend
  obtain ⟨p, hp, hbuf⟩ := bufPage_ok hal hlt
  have hle : start ≤ start + i * pageSize := Nat.le_add_right _ _
  rw [succ_page]
  cases halloc : t.phys.allocateFrameWithType .sharedBuffer with
  | error m =>
    -- `PhysAddr::new` panicked in the allocator
    have h : createBufPage start nPages i t = .panic m := by
      simp only [createBufPage, bind_apply, hbuf, get_apply, halloc, abort_apply]
    rw [h]
    exact ⟨fun _ _ h' => (nomatch h'), fun _ h' => (nomatch h')⟩
  | ok o =>
    cases o with
    | none =>
      obtain ⟨t₁, hloop, hrel, hrev⟩ := hrun.unwind hfl hal hi.le hend hfree
      have hloop' : rollback start i true t = .ok () t₁ := by
        rw [rollback_eq]
        exact hloop
      have h : createBufPage start nPages i t = .err () { t₁ with vaddrSet := s.vaddrSet } := by
        simp only [createBufPage, bind_apply, hbuf, get_apply, halloc, hloop', hrel, throw_apply]
      rw [h]
      exact ⟨fun _ _ h' => (nomatch h'), fun _ h' => by cases h'; exact hrev⟩
    | some fp =>
      obtain ⟨f, pm'⟩ := fp
      cases htry : tryMapTo p f sharedBufFlags { t with phys := pm', ram := zeroFrame t.ram f } with
      | ok r t₂ =>
        obtain ⟨hok, herr⟩ := hrun.take_map (by decide) hle hp halloc htry
        cases r with
        | ok u =>
          have h : createBufPage start nPages i t = .ok f t₂ := by
            simp only [createBufPage, bind_apply, hbuf, get_apply, halloc, set_apply, htry,
              pure_apply]
          rw [h]
          exact ⟨fun _ _ h' => (by cases h'; exact hok rfl), fun _ h' => (nomatch h')⟩
        | error e =>
          obtain ⟨t₁, hloop, hrel, hrev⟩ := (herr e rfl).unwind hfl hal hi.le hend hfree
          have hloop' : rollback start i true
              { t₂ with phys := releaseFrame t₂.phys f .sharedBuffer } = .ok () t₁ := by
            rw [rollback_eq]
            exact hloop
          have h : createBufPage start nPages i t = .err () { t₁ with vaddrSet := s.vaddrSet } := by
            simp only [createBufPage, bind_apply, hbuf, get_apply, halloc, set_apply, htry,
              modify_apply, hloop', hrel, throw_apply]
          rw [h]
          exact ⟨fun _ _ h' => (nomatch h'), fun _ h' => by cases h'; exact hrev⟩
      | err e t₂ => exact absurd htry tryMapTo_ne_err
      | panic msg =>
        have h : createBufPage start nPages i t = .panic msg := by
          simp only [createBufPage, bind_apply, hbuf, get_apply, halloc, set_apply, htry]
        rw [h]
        exact ⟨fun _ _ h' => (nomatch h'), fun _ h' => (nomatch h')⟩

/-- One iteration of the loop of `map_shared_buf`: the buffer's frame is mapped as it is, and a
failed mapping unmaps the pages before without freeing their frames. -/
theorem mapBufPage_step (frame : PhysFrame) (hal : start % pageSize = 0) (hi : i < nPages)
    (hend : start + nPages * pageSize ≤ 2 ^ 47)
    (hfree : freeUserPages set start (nPages * pageSize) = .ok (true, s.vaddrSet))
    (hrun : MapRun none sharedBufFlags start (start + i * pageSize) { s with vaddrSet := set } t) :
    (∀ t', mapBufPage start nPages i frame t = .ok () t' →
      MapRun none sharedBufFlags start (start + (i + 1) * pageSize) { s with vaddrSet := set } t') ∧
      ∀ t', mapBufPage start nPages i frame t = .err () t' → s.Reverted t' := by
  have hfl : sharedBufFlags.present = true ∧ sharedBufFlags.hugePage = false := ⟨rfl, rfl⟩
  obtain ⟨-, hlt⟩ := page_in_range hi hend
  obtain ⟨p, hp, hbuf⟩ := bufPage_ok hal hlt
  have hle : start ≤ start + i * pageSize := Nat.le_add_right _ _
  rw [succ_page]
  cases htry : tryMapTo p frame sharedBufFlags t with
  | ok r t₂ =>
    -- no frame is taken: the state `map_to` starts from is the run's
    obtain ⟨hok, herr⟩ := hrun.tryMapTo_step hle (fun _ h => nomatch h) hp rfl rfl
      hrun.canonical (fun _ => .inl rfl) (fun _ h => nomatch h) htry
    cases r with
    | ok u =>
      have h : mapBufPage start nPages i frame t = .ok () t₂ := by
        simp only [mapBufPage, bind_apply, hbuf, htry, pure_apply]
      rw [h]
      exact ⟨fun _ h' => (by cases h'; exact hok rfl), fun _ h' => (nomatch h')⟩
    | error e =>
      have hrun₂ : MapRun none sharedBufFlags start (start + i * pageSize)
          { s with vaddrSet := set } t₂ := herr e rfl
      obtain ⟨t₁, hloop, hrel, hrev⟩ := hrun₂.unwind hfl hal hi.le hend hfree
      have hloop' : rollback start i false t₂ = .ok () t₁ := by
        rw [rollback_eq]
        exact hloop
      have h : mapBufPage start nPages i frame t = .err () { t₁ with vaddrSet := s.vaddrSet } := by
        simp only [mapBufPage, bind_apply, hbuf, htry, hloop', hrel, throw_apply]
      rw [h]
      exact ⟨fun _ h' => (nomatch h'), fun _ h' => by cases h'; exact hrev⟩
  | err e t₂ => exact absurd htry tryMapTo_ne_err
  | panic msg =>
    have h : mapBufPage start nPages i frame t = .panic msg := by
      simp only [mapBufPage, bind_apply, hbuf, htry]
    rw [h]
    exact ⟨fun _ h' => (nomatch h'), fun _ h' => (nomatch h')⟩

/-! The loops, from the state `{ s with vaddrSet := set }` right after the range was taken. -/

/-- The loop of `sys_mmap` maps the whole range, or fails having given back `s`. -/
theorem mmapLoop {flags : PageTableFlags} (hfl : flags.present = true ∧ flags.hugePage = false)
    (hal : start % pageSize = 0) (hend : start + nPages * pageSize ≤ 2 ^ 47)
    (hfree : freeUserPages set start (nPages * pageSize) = .ok (true, s.vaddrSet))
    (hc : s.phys.map.Canonical) :
    (∀ t, forRange nPages (mmapPage start nPages flags) { s with vaddrSet := set } = .ok () t →
      MapRun (some .usedByUserMode) flags start (start + nPages * pageSize)
        { s with vaddrSet := set } t) ∧
      ∀ e t, forRange nPages (mmapPage start nPages flags) { s with vaddrSet := set } = .err e t →
        s.Reverted t :=
  forRange_induction nPages _
    (fun i t => MapRun (some .usedByUserMode) flags start (start + i * pageSize)
      { s with vaddrSet := set } t) (fun _ t => s.Reverted t)
    (fun _ _ t' hi hrun h => (mmapPage_step hfl hal hi hend hfree hrun).1 t' h)
    (fun _ _ _ t' hi hrun h => (mmapPage_step hfl hal hi hend hfree hrun).2 t' h)
    (by rw [Nat.zero_mul, Nat.add_zero]; exact MapRun.start _ _ start hc)

/-- A failure of the loop of `create_shared_buf` over the pages `i, .., n_pages - 1` gives back
`s`. The induction is on the pages left, the window one page longer after each. -/
theorem createBufPages_err (hal : start % pageSize = 0)
    (hend : start + nPages * pageSize ≤ 2 ^ 47)
    (hfree : freeUserPages set start (nPages * pageSize) = .ok (true, s.vaddrSet)) :
    ∀ k i t, i + k = nPages →
      MapRun (some .sharedBuffer) sharedBufFlags start (start + i * pageSize)
        { s with vaddrSet := set } t →
      ∀ t', createBufPages start nPages (List.range' i k) t = .err () t' → s.Reverted t' := by
  intro k
  induction k with
  | zero =>
    intro i t _ _ t' h
    simp only [List.range'_zero, createBufPages, pure_apply] at h
    cases h
  | succ k ih =>
    intro i t hik hrun t' h
    have hstep := createBufPage_step hal (by omega) hend hfree hrun
    rw [List.range'_succ, createBufPages] at h
    rcases bind_err_iff.mp h with h₁ | ⟨f, t₁, h₁, h₂⟩
    · exact hstep.2 t' h₁
    rcases bind_err_iff.mp h₂ with h₃ | ⟨_, _, -, h₄⟩
    · exact ih (i + 1) t₁ (by omega) (hstep.1 f t₁ h₁) t' h₃
    · cases h₄

/-- A failure of the loop of `map_shared_buf` over the frames from page `i` on gives back `s`,
by induction on the frames left. -/
theorem mapBufPages_err (hal : start % pageSize = 0)
    (hend : start + nPages * pageSize ≤ 2 ^ 47)
    (hfree : freeUserPages set start (nPages * pageSize) = .ok (true, s.vaddrSet)) :
    ∀ (frames : List PhysFrame) i t, i + frames.length = nPages →
      MapRun none sharedBufFlags start (start + i * pageSize) { s with vaddrSet := set } t →
      ∀ t', mapBufPages start nPages i frames t = .err () t' → s.Reverted t' := by
  intro frames
  induction frames with
  | nil =>
    intro i t _ _ t' h
    simp only [mapBufPages, pure_apply] at h
    cases h
  | cons frame frames ih =>
    intro i t hik hrun t' h
    rw [List.length_cons] at hik
    have hstep := mapBufPage_step frame hal (by omega) hend hfree hrun
    rw [mapBufPages] at h
    rcases bind_err_iff.mp h with h₁ | ⟨_, t₁, h₁, h₂⟩
    · exact hstep.2 t' h₁
    · exact ih (i + 1) t₁ (by omega) (hstep.1 t₁ h₁) t' h₂

end Steps

/-! ## The routines -/

/-- `sys_mmap` once `inner` is locked: a success has mapped the whole range it took, a failure has
given back the state. -/
theorem mmap_outcome {nPages : Nat} {flags : PageTableFlags}
    (hfl : flags.present = true ∧ flags.hugePage = false) (hn : 0 < nPages) {s : LoadState}
    (hc : s.phys.map.Canonical) (hv : s.vaddrSet.Canonical) :
    (∀ a t, mmap nPages flags s = .ok a t → ∃ set,
      allocateUserPages s.vaddrSet nPages = .ok (some (a, set)) ∧
        MapRun (some .usedByUserMode) flags a (a + nPages * pageSize) { s with vaddrSet := set } t) ∧
      ∀ t, mmap nPages flags s = .err () t → s.Reverted t := by
  refine ⟨fun a t h => ?_, fun t h => ?_⟩
  · obtain ⟨a₁, s₁, h₁, h₂⟩ := bind_ok_iff.mp h
    obtain ⟨set, halloc, rfl⟩ := allocUserRange_ok h₁
    obtain ⟨hal, hend, hfree⟩ := allocated_range hv hn halloc
    obtain ⟨_, t₁, h₃, h₄⟩ := bind_ok_iff.mp h₂
    cases h₄
    exact ⟨set, halloc, (mmapLoop hfl hal hend hfree hc).1 t h₃⟩
  · rcases bind_err_iff.mp h with h₁ | ⟨a₁, s₁, h₁, h₂⟩
    · obtain rfl := allocUserRange_err h₁
      exact LoadState.Reverted.refl _
    obtain ⟨set, halloc, rfl⟩ := allocUserRange_ok h₁
    obtain ⟨hal, hend, hfree⟩ := allocated_range hv hn halloc
    rcases bind_err_iff.mp h₂ with h₃ | ⟨_, _, -, h₄⟩
    · exact (mmapLoop hfl hal hend hfree hc).2 () t h₃
    · cases h₄

namespace MemState

theorem view_withView (m : MemState) (task : Nat) (t : LoadState) :
    (m.withView task t).view task = t := by
  cases t
  simp [view, withView]

theorem withView_withView (m : MemState) (task : Nat) (t t' : LoadState) :
    (m.withView task t).withView task t' = m.withView task t' := by
  simp [withView, Function.update_idem]

/-- `m'` gives back what a failed memory call of `task` took: the task's address set, leaf
mappings and frame types outside its page-table frames, the registry, and every other task's
address space. -/
structure Restored (task : Nat) (m m' : MemState) : Prop where
  reverted : (m.view task).Reverted (m'.view task)
  registry : m'.registry = m.registry
  others : ∀ t, t ≠ task → m'.spaces t = m.spaces t

theorem Restored.refl (task : Nat) (m : MemState) : m.Restored task m :=
  ⟨LoadState.Reverted.refl _, rfl, fun _ _ => rfl⟩

/-- A routine under the task's `inner` changes the machine only through the task's view. -/
theorem Restored.of_withView {task : Nat} {m : MemState} {t : LoadState}
    (h : (m.view task).Reverted t) : m.Restored task (m.withView task t) where
  reverted := by rw [view_withView]; exact h
  registry := rfl
  others _ ht := Function.update_of_ne ht _ _

end MemState

theorem createSharedBuf_err {task nPages : Nat} {m m' : MemState} (hc : m.phys.map.Canonical)
    (hv : (m.spaces task).vaddrSet.Canonical) (h : createSharedBuf task nPages m = .err () m') :
    m.Restored task m' := by
  unfold createSharedBuf at h
  rcases bind_err_iff.mp h with h₁ | ⟨⟨a, frames⟩, m₁, -, h₂⟩
  · obtain ⟨u, hu, rfl⟩ := zoom_err_iff.mp h₁
    apply MemState.Restored.of_withView
    -- the routine under `inner` failed in taking the range or in the loop
    rcases bind_err_iff.mp hu with h₃ | ⟨a, s₁, h₃, h₄⟩
    · obtain rfl := allocUserRange_err h₃
      exact LoadState.Reverted.refl _
    obtain ⟨set, halloc, rfl⟩ := allocUserRange_ok h₃
    rcases bind_err_iff.mp h₄ with h₅ | ⟨_, _, -, h₆⟩
    · rcases Nat.eq_zero_or_pos nPages with rfl | hn
      · simp [createBufPages] at h₅
      · obtain ⟨hal, hend, hfree⟩ := allocated_range hv hn halloc
        rw [List.range_eq_range'] at h₅
        exact createBufPages_err hal hend hfree nPages 0 _ (Nat.zero_add _)
          (by rw [Nat.zero_mul, Nat.add_zero]; exact MapRun.start _ _ a hc) _ h₅
    · cases h₆
  · simp only [bind_apply, get_apply, set_apply, pure_apply] at h₂
    cases h₂

theorem createSharedBuf_ok {task nPages id a : Nat} {m m' : MemState}
    (h : createSharedBuf task nPages m = .ok (id, a) m') : id = m.nextBufId := by
  unfold createSharedBuf at h
  obtain ⟨⟨a₁, frames⟩, m₁, h₁, h₂⟩ := bind_ok_iff.mp h
  obtain ⟨u, -, rfl⟩ := zoom_ok_iff.mp h₁
  simp only [bind_apply, get_apply, set_apply, pure_apply] at h₂
  cases h₂
  rfl

theorem mapSharedBuf_err {id task : Nat} {m m' : MemState} (hc : m.phys.map.Canonical)
    (hv : (m.spaces task).vaddrSet.Canonical) (h : mapSharedBuf id task m = .err () m') :
    m.Restored task m' := by
  unfold mapSharedBuf at h
  simp only [bind_apply, get_apply] at h
  cases hr : m.registry id with
  | none =>
    simp only [hr, okOr_none, throw_apply] at h
    cases h
    exact MemState.Restored.refl task m
  | some frames =>
    simp only [hr, okOr_some, pure_apply] at h
    obtain ⟨u, hu, rfl⟩ := zoom_err_iff.mp h
    apply MemState.Restored.of_withView
    rcases bind_err_iff.mp hu with h₃ | ⟨a, s₁, h₃, h₄⟩
    · obtain rfl := allocUserRange_err h₃
      exact LoadState.Reverted.refl _
    obtain ⟨set, halloc, rfl⟩ := allocUserRange_ok h₃
    rcases bind_err_iff.mp h₄ with h₅ | ⟨_, _, -, h₆⟩
    · cases frames with
      | nil =>
        simp [mapBufPages] at h₅
      | cons frame rest =>
        obtain ⟨hal, hend, hfree⟩ := allocated_range hv (Nat.succ_pos _) halloc
        exact mapBufPages_err hal hend hfree _ 0 _ (Nat.zero_add _)
          (by rw [Nat.zero_mul, Nat.add_zero]; exact MapRun.start _ _ a hc) _ h₅
    · cases h₆

theorem mapSharedBuf_ok {id task a : Nat} {m m' : MemState} (h : mapSharedBuf id task m = .ok a m') :
    userMin ≤ a := by
  unfold mapSharedBuf at h
  simp only [bind_apply, get_apply] at h
  cases hr : m.registry id with
  | none => simp [hr] at h
  | some frames =>
    simp only [hr, okOr_some, pure_apply] at h
    obtain ⟨u, hu, -⟩ := zoom_ok_iff.mp h
    obtain ⟨a₁, s₁, h₁, h₂⟩ := bind_ok_iff.mp hu
    obtain ⟨set, halloc, -⟩ := allocUserRange_ok h₁
    obtain ⟨_, _, -, h₃⟩ := bind_ok_iff.mp h₂
    cases h₃
    exact allocateUserPages_start halloc

/-! ## The syscalls -/

theorem mmapPageFlags_fl (flags : Nat) :
    (mmapPageFlags flags).present = true ∧ (mmapPageFlags flags).hugePage = false :=
  ⟨rfl, rfl⟩

section ZoomView

variable {ε' α : Type} {task : Nat} {k : Kern LoadState Unit α} {m : MemState}

/-! A routine under the task's `inner`, its result handed on as a value. -/

theorem zoomView_ok {a : α} {u : LoadState} (hk : k (m.view task) = .ok a u) :
    (zoom (·.view task) (·.withView task ·) (result k) : Kern MemState ε' (Except Unit α)) m =
      .ok (.ok a) (m.withView task u) :=
  zoom_ok_iff.mpr ⟨u, result_of_ok hk, rfl⟩

theorem zoomView_err {e : Unit} {u : LoadState} (hk : k (m.view task) = .err e u) :
    (zoom (·.view task) (·.withView task ·) (result k) : Kern MemState ε' (Except Unit α)) m =
      .ok (.error e) (m.withView task u) :=
  zoom_ok_iff.mpr ⟨u, result_of_err hk, rfl⟩

theorem zoomView_panic {msg : String} (hk : k (m.view task) = .panic msg) :
    (zoom (·.view task) (·.withView task ·) (result k) : Kern MemState ε' (Except Unit α)) m =
      .panic msg :=
  zoom_panic_iff.mpr (result_of_panic hk)

end ZoomView

section Syscalls

variable {kind : TaskKind} {task : Nat} {m m' : MemState} (hc : m.phys.map.Canonical)
  (hv : (m.spaces task).vaddrSet.Canonical)

include hc hv

/-- `sys_mmap` returns 0 only when it took nothing or gave back what it took. -/
theorem sysMmap_zero {size flags : Nat} (h : sysMmap (some (kind, task)) size flags m = .ok 0 m') :
    m.Restored task m' := by
  unfold sysMmap at h
  by_cases hs : size = 0
  · rw [if_pos hs] at h
    cases h
    exact .refl task m
  rw [if_neg hs] at h
  cases kind with
  | kernel =>
    cases h
    exact .refl task m
  | user =>
    have hn : 0 < divCeil size pageSize := by unfold divCeil pageSize; omega
    obtain ⟨hok, herr⟩ := mmap_outcome (s := m.view task) (mmapPageFlags_fl flags) hn hc hv
    cases hk : mmap (divCeil size pageSize) (mmapPageFlags flags) (m.view task) with
    | ok a u =>
      -- a success returns the start of the range, which is at or above `USER_MIN`
      obtain ⟨set, halloc, -⟩ := hok a u hk
      simp only [bind_apply, zoomView_ok hk, pure_apply, Outcome.ok.injEq] at h
      have hmin := allocateUserPages_start halloc
      unfold userMin at hmin
      omega
    | err e u =>
      simp only [bind_apply, zoomView_err hk, pure_apply, Outcome.ok.injEq] at h
      rw [← h.2]
      exact .of_withView (herr u hk)
    | panic msg =>
      simp only [bind_apply, zoomView_panic hk] at h
      cases h

/-- `sys_create_shared_buf` returns `u64::MAX` only when it took nothing or gave back what it
took, or when the id it handed out was `u64::MAX`. -/
theorem sysCreateSharedBuf_max {size ptr : Nat} (hid : m.nextBufId ≠ u64Max)
    (h : sysCreateSharedBuf (some (kind, task)) size ptr m = .ok u64Max m') :
    m.Restored task m' := by
  unfold sysCreateSharedBuf at h
  by_cases hs : size = 0
  · rw [if_pos hs] at h
    cases h
    exact .refl task m
  rw [if_neg hs] at h
  simp only [bind_apply, get_apply, Option.map_some] at h
  cases hval : validateUserPtr (some (kind, (m.spaces task).vaddrSet)) ptr 8 with
  | error msg => simp [hval] at h
  | ok valid =>
    cases valid with
    | false =>
      simp only [hval, ofExcept_ok, pure_apply, Bool.not_false, ite_true] at h
      cases h
      exact .refl task m
    | true =>
      simp only [hval, ofExcept_ok, pure_apply, Bool.not_true, Bool.false_eq_true, ite_false] at h
      cases kind with
      | kernel =>
        cases h
        exact .refl task m
      | user =>
        cases hk : createSharedBuf task (divCeil size pageSize) m with
        | ok r m₁ =>
          -- a success returns `NEXT_BUF_ID`, which is not `u64::MAX` here
          obtain ⟨id, a⟩ := r
          simp only [bind_apply, result_of_ok hk, pure_apply, Outcome.ok.injEq] at h
          exact absurd (h.1 ▸ createSharedBuf_ok hk).symm hid
        | err e m₁ =>
          simp only [bind_apply, result_of_err hk, pure_apply, Outcome.ok.injEq] at h
          rw [← h.2]
          exact createSharedBuf_err hc hv hk
        | panic msg =>
          simp only [bind_apply, result_of_panic hk] at h
          cases h

/-- `sys_map_shared_buf` returns 0 only when it took nothing or gave back what it took. -/
theorem sysMapSharedBuf_zero {id : Nat} (h : sysMapSharedBuf (some (kind, task)) id m = .ok 0 m') :
    m.Restored task m' := by
  unfold sysMapSharedBuf at h
  cases kind with
  | kernel =>
    cases h
    exact .refl task m
  | user =>
    cases hk : mapSharedBuf id task m with
    | ok a m₁ =>
      simp only [bind_apply, result_of_ok hk, pure_apply, Outcome.ok.injEq] at h
      have hmin := mapSharedBuf_ok hk
      unfold userMin at hmin
      omega
    | err e m₁ =>
      simp only [bind_apply, result_of_err hk, pure_apply, Outcome.ok.injEq] at h
      rw [← h.2]
      exact mapSharedBuf_err hc hv hk
    | panic msg =>
      simp only [bind_apply, result_of_panic hk] at h
      cases h

end Syscalls

/-- A failed memory syscall gives back what it took from the current task: when `sys_mmap` returns
0, `sys_create_shared_buf` returns `u64::MAX` while `NEXT_BUF_ID` is not `u64::MAX`, or
`sys_map_shared_buf` returns 0, the task's address set and leaf mappings, the registry, and the
type of every frame outside the task's page-table frames are as before the call. -/
theorem memory_syscall_failures_roll_back (kind : TaskKind) (task : Nat) (m : MemState)
    (hc : m.phys.map.Canonical) (hv : (m.spaces task).vaddrSet.Canonical) :
    (∀ size flags m', sysMmap (some (kind, task)) size flags m = .ok 0 m' → m.Restored task m') ∧
    (∀ size ptr m', m.nextBufId ≠ u64Max →
      sysCreateSharedBuf (some (kind, task)) size ptr m = .ok u64Max m' → m.Restored task m') ∧
    ∀ id m', sysMapSharedBuf (some (kind, task)) id m = .ok 0 m' → m.Restored task m' :=
  ⟨fun _ _ _ h => sysMmap_zero hc hv h, fun _ _ _ hid h => sysCreateSharedBuf_max hc hv hid h,
    fun _ _ h => sysMapSharedBuf_zero hc hv h⟩

/-- Five `Usable` frames at `0x100000` and task `1` with an empty page table and address set. -/
def fiveFrameMachine : MemState :=
  ⟨⟨⟨[(⟨0x100000, 0x104FFF, by decide⟩, .usable)], List.pairwise_singleton _ _⟩⟩, fun _ => 0xAA,
    fun _ => ⟨emptyKernel, IntervalMap.empty⟩, fun _ => none, 1⟩

/-- Three pages need three frames and three page tables: the third frame is missing, the two
pages mapped are unmapped again, and `sys_mmap` returns 0. -/
theorem memory_syscall_failures_roll_back_sample :
    ∃ m', sysMmap (some (.user, 1)) (3 * pageSize) mmapWrite fiveFrameMachine = .ok 0 m' ∧
      fiveFrameMachine.Restored 1 m' := by
  have hc : fiveFrameMachine.phys.map.Canonical := by decide
  have hv : (fiveFrameMachine.spaces 1).vaddrSet.Canonical := by decide
  obtain ⟨r, m', h, hr⟩ : ∃ r m', sysMmap (some (.user, 1)) (3 * pageSize) mmapWrite
      fiveFrameMachine = .ok r m' ∧ r = 0 := Outcome.exists_of_okAnd (by decide +kernel)
  subst hr
  exact ⟨m', h, (memory_syscall_failures_roll_back .user 1 fiveFrameMachine hc hv).1 _ _ _ h⟩

/-- `bufMachine` with `NEXT_BUF_ID` at `u64::MAX`, which `fetch_add(1)` reaches after
`2^64 - 2` buffers. -/
def wrapMachine : MemState := { bufMachine with nextBufId := u64Max }

/-- With `NEXT_BUF_ID` at `u64::MAX`, a `sys_create_shared_buf` that succeeds returns `u64::MAX`,
the value of a failure, and has registered the buffer under it. The pointer it is given is the
page of an earlier `sys_mmap`. -/
theorem create_shared_buf_returns_max_id :
    ∃ a m₁ m₂, sysMmap (some (.user, 1)) pageSize mmapWrite wrapMachine = .ok a m₁ ∧
      sysCreateSharedBuf (some (.user, 1)) pageSize a m₁ = .ok u64Max m₂ ∧
      m₂.registry u64Max ≠ m₁.registry u64Max ∧ ¬ m₁.Restored 1 m₂ := by
  -- both calls, with the registry entry in between
  obtain ⟨⟨a, reg, r⟩, m₂, h, hr, hreg⟩ : ∃ x m₂, (do
      let a ← sysMmap (some (.user, 1)) pageSize mmapWrite
      let m₁ ← Kern.get
      let r ← sysCreateSharedBuf (some (.user, 1)) pageSize a
      pure (a, m₁.registry u64Max, r) : Kern MemState Empty _) wrapMachine = .ok x m₂ ∧
        x.2.2 = u64Max ∧ m₂.registry u64Max ≠ x.2.1 :=
    Outcome.exists_of_okAnd (by decide +kernel)
  obtain ⟨a', m₁, h₁, h₂⟩ := bind_ok_iff.mp h
  obtain ⟨_, _, h₃, h₄⟩ := bind_ok_iff.mp h₂
  cases h₃
  obtain ⟨r', m₂', h₅, h₆⟩ := bind_ok_iff.mp h₄
  cases h₆
  subst hr
  exact ⟨_, m₁, m₂, h₁, h₅, hreg, fun hres => hreg (by rw [hres.registry])⟩

/-! ## `sys_munmap` after `sys_mmap` -/

/-- `sys_munmap` once `inner` is locked, on a range that a run of the loop of `sys_mmap` mapped
whole: the range is given back and every page unmapped and its frame freed, which is the state
before the range was taken. -/
theorem munmap_of_run {n a : Nat} {flags : PageTableFlags}
    (hfl : flags.present = true ∧ flags.hugePage = false) {s u : LoadState} {set : VaddrSet}
    (hrun : MapRun (some .usedByUserMode) flags a (a + n * pageSize) { s with vaddrSet := set } u)
    (hal : a % pageSize = 0) (hend : a + n * pageSize ≤ 2 ^ 47)
    (hfree : freeUserPages set a (n * pageSize) = .ok (true, s.vaddrSet)) :
    ∃ t, munmap a n u = .ok () t ∧ s.Reverted t := by
  have hv : u.vaddrSet = set := hrun.vaddrSet
  -- the run does not read the address set, so it goes on from the set given back
  obtain ⟨t, hloop, hrun'⟩ := (hrun.withVaddrSet s.vaddrSet).unmap_all hfl hal hend
  refine ⟨t, ?_, hrun'.reverted (s := s) (Nat.le_refl _) rfl rfl hrun'.vaddrSet⟩
  unfold munmap
  rw [mulU64_of_lt (by omega)]
  simp only [bind_apply, pure_apply, get_apply, hv, hfree, ofExcept_ok, Bool.not_true,
    Bool.false_eq_true, ite_false, set_apply, hloop]

theorem sysMmap_ok {task size flags a : Nat} {m m₁ : MemState}
    (h : sysMmap (some (.user, task)) size flags m = .ok a m₁) (ha : a ≠ 0) :
    size ≠ 0 ∧ ∃ u, mmap (divCeil size pageSize) (mmapPageFlags flags) (m.view task) = .ok a u ∧
      m₁ = m.withView task u := by
  unfold sysMmap at h
  by_cases hs : size = 0
  · rw [if_pos hs] at h
    cases h
    exact absurd rfl ha
  rw [if_neg hs] at h
  refine ⟨hs, ?_⟩
  cases hk : mmap (divCeil size pageSize) (mmapPageFlags flags) (m.view task) with
  | ok a' u =>
    simp only [bind_apply, zoomView_ok hk, pure_apply, Outcome.ok.injEq] at h
    obtain ⟨rfl, rfl⟩ := h
    exact ⟨u, rfl, rfl⟩
  | err e u =>
    simp only [bind_apply, zoomView_err hk, pure_apply, Outcome.ok.injEq] at h
    exact absurd h.1.symm ha
  | panic msg =>
    simp only [bind_apply, zoomView_panic hk] at h
    cases h

/-- The pages of a successful `sys_mmap` are present and user-accessible, writable with
`MMAP_WRITE` and executable with `MMAP_EXEC`; a `sys_munmap` of the address and size right after
returns 0 and gives back the state before the `sys_mmap`. -/
theorem mmap_then_munmap_restores (task : Nat) (m : MemState) (hc : m.phys.map.Canonical)
    (hv : (m.spaces task).vaddrSet.Canonical) {size flags a : Nat} {m₁ : MemState}
    (h : sysMmap (some (.user, task)) size flags m = .ok a m₁) (ha : a ≠ 0) :
    (∀ p : Page, a ≤ p.start.addr → p.start.addr < a + divCeil size pageSize * pageSize →
      ∃ e, (m₁.spaces task).pt.translate p = some e ∧ e.flags.present = true ∧
        e.flags.userAccessible = true ∧ (e.flags.writable = true ↔ flags &&& mmapWrite ≠ 0) ∧
        (e.flags.noExecute = false ↔ flags &&& mmapExec ≠ 0)) ∧
    ∃ m₂, sysMunmap (some (.user, task)) a size m₁ = .ok 0 m₂ ∧ m.Restored task m₂ := by
  obtain ⟨hs, u, hk, rfl⟩ := sysMmap_ok h ha
  have hn : 0 < divCeil size pageSize := by unfold divCeil pageSize; omega
  obtain ⟨set, halloc, hrun⟩ :=
    (mmap_outcome (s := m.view task) (mmapPageFlags_fl flags) hn hc hv).1 a u hk
  obtain ⟨hal, hend, hfree⟩ := allocated_range hv hn halloc
  have hpt : ((m.withView task u).spaces task).pt = u.pt := by simp [MemState.withView]
  refine ⟨fun p hlo hhi => ?_, ?_⟩
  · -- every page of the range is in the window of the run
    obtain ⟨-, hw, f, hleaf, -⟩ := hrun.leaf_in p ⟨hlo, hhi⟩
    refine ⟨⟨f, mmapPageFlags flags⟩,
      by rw [hpt]; exact PageTable.translate_of_walkable hw hleaf rfl, rfl, rfl, ?_, ?_⟩
    · simp [mmapPageFlags]
    · simp [mmapPageFlags]
  · obtain ⟨t, hmun, hrev⟩ := munmap_of_run (mmapPageFlags_fl flags) hrun hal hend hfree
    have hk' : munmap a (divCeil size pageSize) ((m.withView task u).view task) = .ok () t := by
      rw [MemState.view_withView]
      exact hmun
    refine ⟨(m.withView task u).withView task t, ?_, ?_⟩
    · unfold sysMunmap
      rw [if_neg (not_or.mpr ⟨hs, not_not.mpr hal⟩)]
      simp only [bind_apply, zoomView_ok hk', pure_apply]
    · rw [MemState.withView_withView]
      exact .of_withView hrev

theorem mmap_then_munmap_restores_sample :
    ∃ a m₁, sysMmap (some (.user, 1)) pageSize mmapWrite bufMachine = .ok a m₁ ∧ a ≠ 0 ∧
      ∃ m₂, sysMunmap (some (.user, 1)) a pageSize m₁ = .ok 0 m₂ ∧ bufMachine.Restored 1 m₂ := by
  have hc : bufMachine.phys.map.Canonical := by decide
  have hv : (bufMachine.spaces 1).vaddrSet.Canonical := by decide
  obtain ⟨a, m₁, h, ha⟩ : ∃ a m₁, sysMmap (some (.user, 1)) pageSize mmapWrite bufMachine =
      .ok a m₁ ∧ a ≠ 0 := Outcome.exists_of_okAnd (by decide +kernel)
  exact ⟨a, m₁, h, ha, (mmap_then_munmap_restores 1 bufMachine hc hv h ha).2⟩

end Bos
