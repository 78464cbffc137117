import Bos.Task.ElfImage

/-!
# Bos.Memory.SharedBuf

The shared buffers of `shared_buf.rs`. `create_shared_buf` maps `n_pages` fresh zeroed frames of
type `SharedBuffer` into the calling task and records them in `SHARED_BUF_REGISTRY`, undoing its
work (`rollback`) when a frame or a page-table allocation fails. `map_shared_buf` maps the frames
of a buffer into another task, and `destroy_shared_buf` removes the buffer and frees its frames.

The routines work on the memory of the whole machine (`MemState`): the frame allocator and RAM,
and every task's page table and `user_vaddr_set`, by task id. A routine that locks one task's
`inner` works on that task's view, the `LoadState` the ELF loader also works on.

`destroy_shared_buf` reads no page table (`destroySharedBuf_spaces`). A frame it frees becomes
`Usable` while every task that mapped it keeps a present entry for it
(`destroy_shared_buf_frees_mapped_frame`), and the frame allocator can hand it out again.
-/

namespace Bos

/-- A task's page table (`task.cr3`) and `user_vaddr_set`. -/
structure AddrSpace where
  pt : PageTable
  vaddrSet : VaddrSet

/-- The memory of the machine: the frame allocator's map, RAM, every task's address space,
`SHARED_BUF_REGISTRY` (a buffer's frames, in page order) and `NEXT_BUF_ID`. -/
structure MemState where
  phys : PhysicalMemory
  ram : Nat → UInt8
  spaces : Nat → AddrSpace
  registry : Nat → Option (List PhysFrame)
  nextBufId : Nat

namespace MemState

/-- The part of the machine a routine holding `task.inner` works on. -/
def view (m : MemState) (task : Nat) : LoadState :=
  ⟨m.phys, m.ram, (m.spaces task).pt, (m.spaces task).vaddrSet⟩

/-- Put a task's view back. -/
def withView (m : MemState) (task : Nat) (s : LoadState) : MemState :=
  { m with phys := s.phys, ram := s.ram, spaces := Function.update m.spaces task ⟨s.pt, s.vaddrSet⟩ }

end MemState

/-- `PRESENT | WRITABLE | USER_ACCESSIBLE | NO_EXECUTE`. -/
def sharedBufFlags : PageTableFlags :=
  { PageTableFlags.empty with
    present := true
    writable := true
    userAccessible := true
    noExecute := true }

/-- `let _ = phys_mem.free_frame(frame, ty)`: a refused free changes nothing. -/
def releaseFrame (pm : PhysicalMemory) (frame : PhysFrame) (ty : MemoryType) : PhysicalMemory :=
  match pm.freeFrame frame ty with
  | .ok pm' => pm'
  | .error _ => pm

/-- The page at `start_vaddr + i * 4096`: `Page::containing_address(VirtAddr::new(..))`. -/
def bufPage (start i : Nat) : Kern LoadState Unit Page := do
  let v ← Kern.ofExcept (VirtAddr.new (← Kern.addU64 start (← Kern.mulU64 i pageSize)))
  pure (Page.containingAddress v)

/-- One iteration of `rollback`: `mapper.unmap(page)`, and when `free_frames` is set the freed
frame goes back as `SharedBuffer`; a page that does not unmap is skipped. -/
def rollbackPage (start : Nat) (freeFrames : Bool) (j : Nat) : Kern LoadState Unit Unit := do
  let page ← bufPage start j
  let s ← Kern.get
  match s.pt.unmap page with
  | .error _ => pure ()
  | .ok (frame, _, pt) =>
    Kern.set { s with pt, phys := if freeFrames then releaseFrame s.phys frame .sharedBuffer
                                  else s.phys }

/-- `rollback(mapper, phys_mem, start_vaddr, count, free_frames)`. -/
def rollback (start count : Nat) (freeFrames : Bool) : Kern LoadState Unit Unit :=
  Kern.forRange count (rollbackPage start freeFrames)

/-- `user_vaddr::free_user_pages(&mut inner.user_vaddr_set, start_vaddr, n_pages * 4096)` on a
failure path, whose result is dropped. -/
def releaseUserPages (start nPages : Nat) : Kern LoadState Unit Unit := do
  let size ← Kern.mulU64 nPages pageSize
  let s ← Kern.get
  let (_, set) ← Kern.ofExcept (freeUserPages s.vaddrSet start size)
  Kern.set { s with vaddrSet := set }

/-- `mapper.map_to(page, frame, page_flags, &mut pt_alloc)`, its result handed back as a value. -/
def tryMapTo (page : Page) (frame : PhysFrame) (flags : PageTableFlags) :
    Kern LoadState Unit (Except MapToError Unit) :=
  Kern.zoom LoadState.paging (fun s p => { s with pt := p.pt, phys := p.phys })
    (Kern.result (mapTo .usedByUserMode page frame flags))

/-- One iteration of the loop of `create_shared_buf`: a zeroed `SharedBuffer` frame mapped at
page `i`. When the frame or the mapping fails, the pages before are unmapped and their frames
freed, the virtual range is given back, and the call returns `None`. -/
def createBufPage (start nPages i : Nat) : Kern LoadState Unit PhysFrame := do
  let page ← bufPage start i
  let s ← Kern.get
  match s.phys.allocateFrameWithType .sharedBuffer with
  | .ok none =>
    rollback start i true
    releaseUserPages start nPages
    Kern.throw ()
  | .error m => Kern.abort m
  | .ok (some (frame, phys)) =>
    -- zeroed before it is handed to user space
    Kern.set { s with phys, ram := zeroFrame s.ram frame }
    match ← tryMapTo page frame sharedBufFlags with
    | .ok () => pure frame
    | .error _ =>
      Kern.modify fun s => { s with phys := releaseFrame s.phys frame .sharedBuffer }
      rollback start i true
      releaseUserPages start nPages
      Kern.throw ()

/-- The loop of `create_shared_buf` over the page indices `is`: the frames, in page order. -/
def createBufPages (start nPages : Nat) : List Nat → Kern LoadState Unit (List PhysFrame)
  | [] => pure []
  | i :: is => do
    let frame ← createBufPage start nPages i
    let frames ← createBufPages start nPages is
    pure (frame :: frames)

/-- One iteration of the loop of `map_shared_buf`: the buffer's `i`-th frame mapped at page `i`.
A failed mapping unmaps the pages before without freeing their frames, and gives the virtual
range back. -/
def mapBufPage (start nPages i : Nat) (frame : PhysFrame) : Kern LoadState Unit Unit := do
  let page ← bufPage start i
  match ← tryMapTo page frame sharedBufFlags with
  | .ok () => pure ()
  | .error _ =>
    rollback start i false
    releaseUserPages start nPages
    Kern.throw ()

/-- The loop of `map_shared_buf`, from page `i` on. -/
def mapBufPages (start nPages : Nat) : Nat → List PhysFrame → Kern LoadState Unit Unit
  | _, [] => pure ()
  | i, frame :: frames => do
    mapBufPage start nPages i frame
    mapBufPages start nPages (i + 1) frames

/-- `allocate_user_pages(&mut inner.user_vaddr_set, n_pages)?`. -/
def allocUserRange (nPages : Nat) : Kern LoadState Unit Nat := do
  let s ← Kern.get
  match ← Kern.ofExcept (allocateUserPages s.vaddrSet nPages) with
  | none => Kern.throw ()
  | some (start, set) =>
    Kern.set { s with vaddrSet := set }
    pure start

/-- `create_shared_buf(task, n_pages)`: the buffer's id and start address, or `None`
(`Err(())`). -/
def createSharedBuf (task nPages : Nat) : Kern MemState Unit (Nat × Nat) := do
  let (start, frames) ← Kern.zoom (·.view task) (·.withView task ·) do
    let start ← allocUserRange nPages
    let frames ← createBufPages start nPages (List.range nPages)
    pure (start, frames)
  let m ← Kern.get
  -- `NEXT_BUF_ID.fetch_add(1)`, which wraps
  let id := m.nextBufId
  Kern.set { m with
    registry := Function.update m.registry id (some frames)
    nextBufId := (id + 1) % 2 ^ 64 }
  pure (id, start)

/-- `map_shared_buf(id, task)`: the start address of the new mapping, or `None`. -/
def mapSharedBuf (id task : Nat) : Kern MemState Unit Nat := do
  let m ← Kern.get
  let frames ← Kern.okOr (m.registry id) ()
  Kern.zoom (·.view task) (·.withView task ·) do
    let start ← allocUserRange frames.length
    mapBufPages start frames.length 0 frames
    pure start

/-- `destroy_shared_buf(id)`: the buffer leaves the registry and each of its frames is freed as
`SharedBuffer`; an unknown id does nothing. -/
def destroySharedBuf (id : Nat) (m : MemState) : MemState :=
  match m.registry id with
  | none => m
  | some frames =>
    { m with
      registry := Function.update m.registry id none
      phys := frames.foldl (fun pm frame => releaseFrame pm frame .sharedBuffer) m.phys }

/-! ## Freeing frames -/

/-- A `Usable` address stays `Usable` whatever frame is freed. -/
theorem releaseFrame_usable {pm : PhysicalMemory} {x : Nat} (hx : pm.typeAt x = some .usable)
    (frame : PhysFrame) (ty : MemoryType) : (releaseFrame pm frame ty).typeAt x = some .usable := by
  unfold releaseFrame
  split
  · rename_i pm' hfree
    rw [(PhysicalMemory.freeFrame_spec hfree).2 x]
    split <;> trivial
  · exact hx

theorem foldl_releaseFrame_usable {x : Nat} (ty : MemoryType) :
    ∀ (frames : List PhysFrame) (pm : PhysicalMemory), pm.typeAt x = some .usable →
      (frames.foldl (fun pm frame => releaseFrame pm frame ty) pm).typeAt x = some .usable := by
  intro frames
  induction frames with
  | nil => exact fun _ hx => hx
  | cons frame frames ih => exact fun pm hx => ih _ (releaseFrame_usable hx frame ty)

/-- Freeing a frame that one entry of its type holds makes all of it `Usable`. -/
theorem releaseFrame_of_holds {pm : PhysicalMemory} {frame : PhysFrame} {ty : MemoryType}
    (h : pm.Holds frame ty) {x : Nat} (hx : frame.Mem x) :
    (releaseFrame pm frame ty).typeAt x = some .usable := by
  obtain ⟨pm', hfree⟩ := PhysicalMemory.freeFrame_ok_of_holds h
  unfold releaseFrame
  rw [hfree]
  dsimp only
  rw [(PhysicalMemory.freeFrame_spec hfree).2 x, if_pos hx]

theorem releaseFrame_of_not_mem {pm : PhysicalMemory} {frame : PhysFrame} {ty : MemoryType}
    {x : Nat} (hx : ¬ frame.Mem x) : (releaseFrame pm frame ty).typeAt x = pm.typeAt x := by
  unfold releaseFrame
  split
  · rename_i pm' hfree
    rw [(PhysicalMemory.freeFrame_spec hfree).2 x, if_neg hx]
  · rfl

theorem releaseFrame_canonical {pm : PhysicalMemory} (hc : pm.map.Canonical) (frame : PhysFrame)
    (ty : MemoryType) : (releaseFrame pm frame ty).map.Canonical := by
  unfold releaseFrame
  split
  · rename_i pm' hfree
    exact PhysicalMemory.freeFrame_canonical hc hfree
  · exact hc

/-- `destroy_shared_buf` changes no page table and no virtual address set. -/
theorem destroySharedBuf_spaces (id : Nat) (m : MemState) :
    (destroySharedBuf id m).spaces = m.spaces := by
  unfold destroySharedBuf
  split <;> rfl

variable {m : MemState}

theorem destroy_shared_buf_frees_mapped_frame {id t : Nat} {frame : PhysFrame}
    {rest : List PhysFrame} {page : Page} (hbuf : m.registry id = some (frame :: rest))
    (hmap : ((m.spaces t).pt.translate page).map PageTableEntry.frame = some frame)
    (hholds : m.phys.Holds frame .sharedBuffer) :
    ((destroySharedBuf id m).spaces t).pt.translate page = (m.spaces t).pt.translate page ∧
      ((((destroySharedBuf id m).spaces t).pt.translate page).map PageTableEntry.frame =
        some frame) ∧
      ∀ x, frame.Mem x → (destroySharedBuf id m).phys.typeAt x = some .usable := by
  have hspaces := destroySharedBuf_spaces id m
  refine ⟨by rw [hspaces], by rw [hspaces]; exact hmap, fun x hx => ?_⟩
  -- the first frame is freed first, and no later free makes an address other than `Usable`
  unfold destroySharedBuf
  rw [hbuf]
  exact foldl_releaseFrame_usable .sharedBuffer rest _ (releaseFrame_of_holds hholds hx)

/-- The frames and RAM of `sampleMachine` (`0x100000..0x1FFFFF` usable, RAM holding `0xAA`),
and task `1` with an empty page table and an empty address set. -/
def bufMachine : MemState :=
  ⟨sampleMachine.phys, sampleMachine.ram, fun _ => ⟨emptyKernel, IntervalMap.empty⟩, fun _ => none, 1⟩

/-- The frame of the second one-page buffer task `1` creates in `bufMachine`, after the first
buffer's frame and the three tables its mapping took. -/
def bufFrame : PhysFrame := ⟨0x104000, by decide⟩

/-- The page of that buffer, after the first buffer's page `0x1000`. -/
def bufStartPage : Page := ⟨⟨0x2000, by decide⟩, by decide⟩

/-- Task `1` creates two one-page buffers and the second is destroyed (by any task: the id is all
`sys_destroy_shared_buf` takes). Its page still maps its frame, which is `Usable`, and is the next
frame the allocator hands out. -/
theorem destroy_shared_buf_frees_mapped_frame_sample :
    ∃ ids m₁, (createSharedBuf 1 1 >>= fun _ => createSharedBuf 1 1) bufMachine = .ok ids m₁ ∧
      m₁.registry ids.1 = some [bufFrame] ∧ bufStartPage.start.addr = ids.2 ∧
      ((((destroySharedBuf ids.1 m₁).spaces 1).pt.translate bufStartPage).map
        PageTableEntry.frame = some bufFrame) ∧
      (∀ x, bufFrame.Mem x → (destroySharedBuf ids.1 m₁).phys.typeAt x = some .usable) ∧
      ((destroySharedBuf ids.1 m₁).phys.allocateFrameWithType .usedByUserMode).map
        (Option.map Prod.fst) = .ok (some bufFrame) := by
  obtain ⟨ids, m₁, h, hbuf, hstart, hmap, hholds, halloc⟩ :
      ∃ ids m₁, (createSharedBuf 1 1 >>= fun _ => createSharedBuf 1 1) bufMachine = .ok ids m₁ ∧
        m₁.registry ids.1 = some [bufFrame] ∧ bufStartPage.start.addr = ids.2 ∧
        ((m₁.spaces 1).pt.translate bufStartPage).map PageTableEntry.frame = some bufFrame ∧
        m₁.phys.Holds bufFrame .sharedBuffer ∧
        ((destroySharedBuf ids.1 m₁).phys.allocateFrameWithType .usedByUserMode).map
          (Option.map Prod.fst) = .ok (some bufFrame) :=
    Outcome.exists_of_okAnd (by decide +kernel)
  obtain ⟨-, hkept, husable⟩ := destroy_shared_buf_frees_mapped_frame hbuf hmap hholds
  exact ⟨ids, m₁, h, hbuf, hstart, hkept, husable, halloc⟩

end Bos
