import Bos.Memory.SharedBuf
import Bos.Syscall.Dispatch

/-!
# Bos.Syscall.Memory

The memory syscalls of `syscall_handlers/memory.rs`. `sys_mmap` takes a page range from the
task's `user_vaddr_set` and maps a zeroed `UsedByUserMode` frame at each page; when a frame or a
page-table allocation fails it unmaps the pages before (`rollback_mmap`), gives the range back
and returns 0. `sys_munmap` removes a range that one interval of the set covers and unmaps its
pages, freeing each frame it finds as `UsedByUserMode`.

A routine works on the view of the current task (`MemState.view`) and signals a `return 0` or
`return !0` by `Err(())`, which the syscall turns into its return value.

* `user_page_syscalls_overflow`: sizes within a page of `2^64` make `n_pages * 4096` overflow, so
  `sys_mmap` panics in `allocate_user_pages`, and `sys_munmap` panics when
  `addr + n_pages * 4096` does not fit in a `u64`, before it checks anything against the set.
-/

namespace Bos

/-- `MMAP_WRITE` of `kernel_api_types`. -/
def mmapWrite : Nat := 1 <<< 0

/-- `MMAP_EXEC` of `kernel_api_types`. -/
def mmapExec : Nat := 1 <<< 1

/-- The page flags of `sys_mmap`: `PRESENT | USER_ACCESSIBLE`, `WRITABLE` with `MMAP_WRITE`,
`NO_EXECUTE` without `MMAP_EXEC`. -/
def mmapPageFlags (flags : Nat) : PageTableFlags :=
  { PageTableFlags.empty with
    present := true
    userAccessible := true
    writable := flags &&& mmapWrite != 0
    noExecute := flags &&& mmapExec == 0 }

/-- The body of an unmapping loop: `mapper.unmap(page)` at `start + j * 4096`, and the frame it
returns freed with the type `release`, if any; a page that does not unmap is skipped. -/
def unmapPage (start : Nat) (release : Option MemoryType) (j : Nat) : Kern LoadState Unit Unit := do
  let page ← bufPage start j
  let s ← Kern.get
  match s.pt.unmap page with
  | .error _ => pure ()
  | .ok (frame, _, pt) =>
    Kern.set { s with pt, phys := match release with
                                  | none => s.phys
                                  | some ty => releaseFrame s.phys frame ty }

/-- The body of `shared_buf::rollback` is the unmapping loop that frees as `SharedBuffer`, or not
at all. -/
theorem rollbackPage_eq (start : Nat) (freeFrames : Bool) (j : Nat) :
    rollbackPage start freeFrames j =
      unmapPage start (if freeFrames then some .sharedBuffer else none) j := by
  cases freeFrames <;> rfl

/-- `rollback_mmap(mapper, phys_mem, start_vaddr, count)`. -/
def rollbackMmap (start count : Nat) : Kern LoadState Unit Unit :=
  Kern.forRange count (unmapPage start (some .usedByUserMode))

/-- One iteration of the loop of `sys_mmap`: a zeroed `UsedByUserMode` frame mapped at page `i`.
When the frame or the mapping fails, the pages before are unmapped and their frames freed, the
range is given back, and the call returns 0. -/
def mmapPage (start nPages : Nat) (flags : PageTableFlags) (i : Nat) :
    Kern LoadState Unit Unit := do
  let page ← bufPage start i
  let s ← Kern.get
  match s.phys.allocateFrameWithType .usedByUserMode with
  | .ok none =>
    rollbackMmap start i
    releaseUserPages start nPages
    Kern.throw ()
  | .error m => Kern.abort m
  | .ok (some (frame, phys)) =>
    -- zeroed before it is given to user space
    Kern.set { s with phys, ram := zeroFrame s.ram frame }
    match ← tryMapTo page frame flags with
    | .ok () => pure ()
    | .error _ =>
      Kern.modify fun s => { s with phys := releaseFrame s.phys frame .usedByUserMode }
      rollbackMmap start i
      releaseUserPages start nPages
      Kern.throw ()

/-- `sys_mmap` once the task's `inner` is locked: the start of the new range. -/
def mmap (nPages : Nat) (flags : PageTableFlags) : Kern LoadState Unit Nat := do
  let start ← allocUserRange nPages
  Kern.forRange nPages (mmapPage start nPages flags)
  pure start

/-- `sys_mmap(size, flags, ..)`, with the current task of the CPU and its kind. -/
def sysMmap (current : Option (TaskKind × Nat)) (size flags : Nat) : Kern MemState Empty Nat :=
  if size = 0 then pure 0 else
  let nPages := divCeil size pageSize
  match current with
  | some (.user, task) => do
    match ← Kern.zoom (·.view task) (·.withView task ·)
        (Kern.result (mmap nPages (mmapPageFlags flags))) with
    | .ok start => pure start
    | .error () => pure 0
  | _ => pure 0

/-- `sys_munmap` once the task's `inner` is locked. -/
def munmap (addr nPages : Nat) : Kern LoadState Unit Unit := do
  let totalSize ← Kern.mulU64 nPages pageSize
  let s ← Kern.get
  let (covered, set) ← Kern.ofExcept (freeUserPages s.vaddrSet addr totalSize)
  if !covered then Kern.throw () else do
  Kern.set { s with vaddrSet := set }
  Kern.forRange nPages (unmapPage addr (some .usedByUserMode))

/-- `sys_munmap(addr, size, ..)`: 0, or `!0` on a failure. -/
def sysMunmap (current : Option (TaskKind × Nat)) (addr size : Nat) : Kern MemState Empty Nat :=
  if size = 0 ∨ addr % pageSize ≠ 0 then pure u64Max else
  let nPages := divCeil size pageSize
  match current with
  | some (.user, task) => do
    match ← Kern.zoom (·.view task) (·.withView task ·) (Kern.result (munmap addr nPages)) with
    | .ok () => pure 0
    | .error () => pure u64Max
  | _ => pure u64Max

/-- `sys_create_shared_buf(size, vaddr_out_ptr, ..)`: the buffer's id, or `u64::MAX` on a failure.
The start address it writes to `vaddr_out_ptr` is not part of the model. -/
def sysCreateSharedBuf (current : Option (TaskKind × Nat)) (size vaddrOutPtr : Nat) :
    Kern MemState Empty Nat := do
  if size = 0 then pure u64Max else
  let m ← Kern.get
  let valid ← Kern.ofExcept (validateUserPtr
    (current.map fun (kind, task) => (kind, (m.spaces task).vaddrSet)) vaddrOutPtr 8)
  if !valid then pure u64Max else
  let nPages := divCeil size pageSize
  match current with
  | some (.user, task) => do
    match ← Kern.result (createSharedBuf task nPages) with
    | .ok (id, _) => pure id
    | .error () => pure u64Max
  | _ => pure u64Max

/-- `sys_map_shared_buf(id, ..)`: the start address of the new mapping, or 0 on a failure. -/
def sysMapSharedBuf (current : Option (TaskKind × Nat)) (id : Nat) : Kern MemState Empty Nat :=
  match current with
  | some (.user, task) => do
    match ← Kern.result (mapSharedBuf id task) with
    | .ok vaddr => pure vaddr
    | .error () => pure 0
  | _ => pure 0

/-! ## Overflow -/

theorem allocateUserPages_of_overflow {set : VaddrSet} {n : Nat} (h : 2 ^ 64 ≤ n * pageSize) :
    allocateUserPages set n = .error "attempt to multiply with overflow" := by
  unfold allocateUserPages mulU64?
  rw [if_neg (by omega)]

theorem freeUserPages_of_overflow {set : VaddrSet} {addr size : Nat} (h : 2 ^ 64 ≤ addr + size) :
    freeUserPages set addr size = .error "attempt to add with overflow" := by
  unfold freeUserPages addU64?
  rw [if_neg (by omega)]

theorem allocUserRange_panic_of_overflow {n : Nat} (h : 2 ^ 64 ≤ n * pageSize) (s : LoadState) :
    allocUserRange n s = .panic "attempt to multiply with overflow" := by
  unfold allocUserRange
  simp only [Kern.bind_apply, Kern.get_apply]
  rw [allocateUserPages_of_overflow h]
  rfl

theorem mmap_panic_of_overflow {n : Nat} (flags : PageTableFlags) (h : 2 ^ 64 ≤ n * pageSize)
    (s : LoadState) : ∃ msg, mmap n flags s = .panic msg := by
  unfold mmap
  exact ⟨_, Kern.bind_panic_iff.mpr (.inl (allocUserRange_panic_of_overflow h s))⟩

/-- `n_pages * 4096` or `addr + n_pages * 4096` overflows before the set is looked at. -/
theorem munmap_panic_of_overflow {addr n : Nat} (h : 2 ^ 64 ≤ addr + n * pageSize)
    (s : LoadState) : ∃ msg, munmap addr n s = .panic msg := by
  unfold munmap
  by_cases hmul : n * pageSize < 2 ^ 64
  · refine ⟨"attempt to add with overflow", ?_⟩
    rw [Kern.mulU64_of_lt hmul]
    simp only [Kern.bind_apply, Kern.pure_apply, Kern.get_apply]
    rw [freeUserPages_of_overflow h]
    rfl
  · have hpanic : (Kern.mulU64 n pageSize : Kern LoadState Unit Nat) s =
        .panic "attempt to multiply with overflow" := by
      unfold Kern.mulU64
      rw [if_neg hmul]
      rfl
    exact ⟨_, Kern.bind_panic_iff.mpr (.inl hpanic)⟩

/-- A size within a page of `2^64` rounds up to `2^52` pages, whose byte count `2^64` overflows:
`sys_mmap` panics. `sys_munmap` panics on an aligned address whose page range ends past `2^64`,
such as the last page of the address space with a size of two pages. -/
theorem user_page_syscalls_overflow (task : Nat) (m : MemState) :
    (∀ size flags, 2 ^ 64 ≤ divCeil size pageSize * pageSize →
      ∃ msg, sysMmap (some (.user, task)) size flags m = .panic msg) ∧
    (∀ addr size, 0 < size → addr % pageSize = 0 →
      2 ^ 64 ≤ addr + divCeil size pageSize * pageSize →
      ∃ msg, sysMunmap (some (.user, task)) addr size m = .panic msg) := by
  refine ⟨fun size flags h => ?_, fun addr size hsize haddr h => ?_⟩
  · have hsize : size ≠ 0 := by
      rintro rfl
      unfold divCeil pageSize at h
      omega
    obtain ⟨msg, hk⟩ := mmap_panic_of_overflow (mmapPageFlags flags) h (m.view task)
    refine ⟨msg, ?_⟩
    unfold sysMmap
    rw [if_neg hsize]
    exact Kern.bind_panic_iff.mpr (.inl (Kern.zoom_panic_iff.mpr (Kern.result_of_panic hk)))
  · obtain ⟨msg, hk⟩ := munmap_panic_of_overflow h (m.view task)
    refine ⟨msg, ?_⟩
    unfold sysMunmap
    rw [if_neg (by omega)]
    exact Kern.bind_panic_iff.mpr (.inl (Kern.zoom_panic_iff.mpr (Kern.result_of_panic hk)))

theorem user_page_syscalls_overflow_sample :
    (∃ msg, sysMmap (some (.user, 1)) (2 ^ 64 - 1) mmapWrite bufMachine = .panic msg) ∧
    ∃ msg, sysMunmap (some (.user, 1)) (2 ^ 64 - pageSize) (2 * pageSize) bufMachine = .panic msg :=
  ⟨(user_page_syscalls_overflow 1 bufMachine).1 _ _ (by decide),
    (user_page_syscalls_overflow 1 bufMachine).2 _ _ (by decide) (by decide) (by decide)⟩

end Bos
