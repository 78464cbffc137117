import Bos.Task.ElfImage

/-!
# Bos.Task.UserTaskFromModule

`create_user_task_from_elf` (`user_task_from_elf.rs`), the zero-copy loader of the init task.
The ELF image is the Limine boot module, already in RAM at a physical address. Its frames are
cut out of the physical memory map, and the file pages of each `PT_LOAD` segment are mapped
straight to them and marked `UsedByUserMode`. The one segment whose memory size passes a non-zero
file size gets fresh zeroed frames for its BSS pages and has the rest of its last file page
(`range_to_zero`) zeroed in place, once every segment is mapped; the module frames that no
segment maps are handed back as `Usable`. Every failure panics.

`create_user_task_from_elf_bytes` copies the same segments into fresh frames instead. The two
agree on the entry point, the stack and the virtual address set, and on the segment bytes as long
as no two segments share a file page. When another segment's file bytes lie in the zeroed rest of
the BSS segment's last file page, that segment reads zeros in the zero-copy task and its file
bytes in the copied one (`loaders_disagree_on_shared_page`).

* `loadModuleSegments_rangeToZero`: after the segment loop `range_to_zero` is the tail range of the
  segment that zeroes its tail (a second one panics);
* `createUserTaskFromElf_zeroes`: in every run that returns, the task's RAM is zero on that range
  and on the rest of the module's last frame, since the stack mapped after the zeroing writes no
  RAM (`mapUserStackOrPanic_keepsZeros`).
-/

namespace Bos

/-- The boot module of the init task: the physical address of its first byte and its size. -/
structure BootModule where
  base : Nat
  size : Nat

/-- The module's bytes, read through the direct map. -/
def BootModule.bytes (module : BootModule) (ram : Nat → UInt8) : List UInt8 :=
  (List.range module.size).map fun i => ram (module.base + i)

/-- The module's bytes are those of a list the RAM holds from the module's base on. -/
theorem BootModule.bytes_eq {module : BootModule} {ram : Nat → UInt8} {l : List UInt8}
    (hlen : l.length = module.size) (h : ∀ i < module.size, ram (module.base + i) = l.getD i 0) :
    module.bytes ram = l := by
  apply List.ext_getElem
  · simp [BootModule.bytes, hlen]
  · intro i h₁ h₂
    simp only [BootModule.bytes, List.getElem_map, List.getElem_range]
    rw [h i (by simpa [BootModule.bytes] using h₁), List.getD_eq_getElem _ _ h₂]

/-- `PhysAddr + u64`, which panics on overflow and on an address past 52 bits. -/
def physAddrAdd (a b : Nat) : Kern LoadState SpawnError Nat := do
  let r ← Kern.addU64 a b
  if r < 2 ^ 52 then pure r
  else Kern.abort "physical addresses must not have any bits in the range 52 to 64 set"

/-- `PhysAddr::align_up(page_size)`. -/
def physAlignUp (a : Nat) : Kern LoadState SpawnError Nat :=
  if nextMultipleOf a pageSize < 2 ^ 52 then pure (nextMultipleOf a pageSize)
  else Kern.abort "physical addresses must not have any bits in the range 52 to 64 set"

/-- `start_frame + i`. -/
def frameAdd (f : PhysFrame) (i : Nat) : Kern LoadState SpawnError PhysFrame := do
  let a ← physAddrAdd f.start (← Kern.mulU64 i pageSize)
  pure (PhysFrame.containingAddress a)

/-- `ie(a, b)`. -/
def ieOrPanic (a b : Nat) : Kern LoadState SpawnError Ival :=
  Kern.expect (Ival.ie? a b) "invalid interval"

/-- `physical_memory.map_mut().cut(&i)`, its result dropped. -/
def cutPhys (i : Ival) : Kern LoadState SpawnError Unit :=
  Kern.modify fun s => { s with phys := ⟨s.phys.map.cut i⟩ }

/-- `physical_memory.map_mut().insert_merge_touching_if_values_equal(i, t).unwrap()`. -/
def insertPhys (i : Ival) (t : MemoryType) : Kern LoadState SpawnError Unit := fun s =>
  match s.phys.map.insertMergeTouchingIfValuesEqual i t with
  | .ok map => .ok () { s with phys := ⟨map⟩ }
  | .error _ => .panic "called Result::unwrap() on an Err value"

/-- `physical_memory.allocate_frame_with_type(UsedByUserMode).unwrap()`. -/
def allocUserFrameOrPanic : Kern LoadState SpawnError PhysFrame := fun s =>
  match s.phys.allocateFrameWithType .usedByUserMode with
  | .ok none => .panic "called Option::unwrap() on a None value"
  | .ok (some (frame, phys)) => .ok frame { s with phys }
  | .error m => .panic m

/-- `mapper.map_to(page, frame, flags, &mut user_mode_allocator).unwrap()`. -/
def mapPageOrPanic (page : Page) (frame : PhysFrame) (flags : PageTableFlags) :
    Kern LoadState SpawnError Unit :=
  Kern.unwrap (Kern.zoom LoadState.paging (fun s p => { s with pt := p.pt, phys := p.phys })
    (mapTo .usedByUserMode page frame flags))

/-- `ptr.write_bytes(0, stop - start)` on the physical bytes `[start, stop)`. -/
def zeroRange (start stop : Nat) : Kern LoadState SpawnError Unit :=
  Kern.modify fun s => { s with ram := fun x => if start ≤ x ∧ x < stop then 0 else s.ram x }

/-- One iteration of the file-page loop: page `start_page + i` mapped to the module's frame
`start_frame + i`. -/
def mapModulePage (startPage : Page) (startFrame : PhysFrame) (flags : PageTableFlags) (i : Nat) :
    Kern LoadState SpawnError Unit := do
  let page ← Kern.ofExcept (startPage.add i)
  let frame ← frameAdd startFrame i
  mapPageOrPanic page frame flags

/-- One iteration of the BSS loop: a fresh frame, zeroed, mapped at `extra_start_page + i`. -/
def mapModuleBssPage (extraStartPage : Page) (flags : PageTableFlags) (i : Nat) :
    Kern LoadState SpawnError Unit := do
  let page ← Kern.ofExcept (extraStartPage.add i)
  let frame ← allocUserFrameOrPanic
  Kern.modify fun s => { s with ram := zeroFrame s.ram frame }
  mapPageOrPanic page frame flags

/-- `if file_pages_len > 0`: the segment's frames of the module cut out of the map and inserted
back as `UsedByUserMode`. -/
def markModuleFrames (startFrame : PhysFrame) (nFile : Nat) : Kern LoadState SpawnError Unit :=
  if nFile > 0 then do
    let interval ← ieOrPanic startFrame.start
      (← Kern.addU64 startFrame.start (← Kern.mulU64 nFile pageSize))
    cutPhys interval
    insertPhys interval .usedByUserMode
  else pure ()

/-- `if segment.p_filesz > 0`: the rest of the segment's last file page in the module becomes
`range_to_zero`, which no earlier segment may have set. -/
def setRangeToZero (module : BootModule) (rangeToZero : Option (Nat × Nat)) (seg : ProgramHeader) :
    Kern LoadState SpawnError (Option (Nat × Nat)) :=
  if seg.pFilesz.toNat > 0 then
    -- `assert_eq!(range_to_zero, None, ..)`
    if rangeToZero.isSome then
      Kern.abort "there can only be up to 1 segment with p_memsz > p_filesz"
    else do
      let start ← physAddrAdd (← physAddrAdd module.base seg.pOffset.toNat) seg.pFilesz.toNat
      pure (some (start, ← physAlignUp start))
  else pure rangeToZero

/-- `if segment.p_memsz > segment.p_filesz`: the range to zero, and the extra pages, mapped to
fresh zeroed frames. Returns the range to zero and the extra page count. -/
def loadModuleBss (module : BootModule) (rangeToZero : Option (Nat × Nat)) (seg : ProgramHeader)
    (startPage : Page) (nFile : Nat) (flags : PageTableFlags) :
    Kern LoadState SpawnError (Option (Nat × Nat) × Nat) :=
  if seg.pMemsz.toNat > seg.pFilesz.toNat then do
    let rangeToZero ← setRangeToZero module rangeToZero seg
    let memEnd ← Kern.addU64 seg.pVaddr.toNat seg.pMemsz.toNat
    let fileEnd ← Kern.addU64 seg.pVaddr.toNat seg.pFilesz.toNat
    let nExtra ← Kern.subU64 (divCeil memEnd pageSize) (divCeil fileEnd pageSize)
    let extraStartPage ← Kern.ofExcept (startPage.add nFile)
    Kern.forRange nExtra (mapModuleBssPage extraStartPage flags)
    pure (rangeToZero, nExtra)
  else pure (rangeToZero, 0)

/-- `if total_pages > 0`: the segment's virtual range tracked in the address set. -/
def trackSegmentVaddr (startPage : Page) (totalPages : Nat) : Kern LoadState SpawnError Unit :=
  if totalPages > 0 then do
    let segStart := startPage.start.addr
    let segEnd ← Kern.addU64 segStart (← Kern.mulU64 totalPages pageSize)
    insertUserVaddr segStart segEnd "ELF segment vaddr overlap"
  else pure ()

/-- The body of the segment loop, which carries `range_to_zero`. -/
def loadModuleSegment (module : BootModule) (rangeToZero : Option (Nat × Nat))
    (seg : ProgramHeader) : Kern LoadState SpawnError (Option (Nat × Nat)) :=
  -- `ElfSegmentType::try_from(p_type) != Ok(Load)`: `continue`
  if seg.pType ≠ 1 then pure rangeToZero else do
  let fileEnd ← Kern.addU64 seg.pOffset.toNat seg.pFilesz.toNat
  if fileEnd > module.size then
    Kern.abort "assertion failed: segment.p_offset + segment.p_filesz <= module.size()"
  else do
  let startPage := Page.containingAddress (← Kern.ofExcept (VirtAddr.new seg.pVaddr.toNat))
  let nFile ← filePagesLen seg.pVaddr.toNat seg.pFilesz.toNat
  let startFrame := PhysFrame.containingAddress (← physAddrAdd module.base seg.pOffset.toNat)
  let flags := elfFlagsToPageTableFlags seg.pFlags
  Kern.forRange nFile (mapModulePage startPage startFrame flags)
  markModuleFrames startFrame nFile
  let (rangeToZero, nExtra) ← loadModuleBss module rangeToZero seg startPage nFile flags
  trackSegmentVaddr startPage (← Kern.addU64 nFile nExtra)
  pure rangeToZero

/-- The loop that hands back as `Usable` every frame of the module that no segment maps: it
inserts the first gap of the module's interval until there is none. Each pass fills a non-empty
gap of the interval, so `fuel` passes for each of its points are more than it makes. -/
def releaseModuleGaps (moduleIval : Ival) : Nat → Kern LoadState SpawnError Unit
  | 0 => pure ()
  | fuel + 1 => fun s =>
    match (s.phys.map.gapsTrimmed moduleIval).head? with
    | none => .ok () s
    | some gap => (insertPhys gap .usable >>= fun _ => releaseModuleGaps moduleIval fuel) s

/-- One iteration of the stack loop: a frame mapped at `start_page + i`. -/
def mapStackPageOrPanic (startPage : Page) (i : Nat) : Kern LoadState SpawnError Unit := do
  let page ← Kern.ofExcept (startPage.add i)
  let frame ← allocUserFrameOrPanic
  mapPageOrPanic page frame stackFlags

/-- The user stack block of `create_user_task_from_elf`. -/
def mapUserStackOrPanic : Kern LoadState SpawnError Unit := do
  let stackStartVaddr ← Kern.subU64 userStackTop (← Kern.mulU64 userStackPages pageSize)
  let startPage := Page.containingAddress (← Kern.ofExcept (VirtAddr.new stackStartVaddr))
  Kern.forRange userStackPages (mapStackPageOrPanic startPage)
  insertUserVaddr stackStartVaddr
    (← Kern.addU64 stackStartVaddr (← Kern.mulU64 userStackPages pageSize))
    "user stack vaddr overlap"

/-- `if let Some(range_to_zero) = range_to_zero`: the range zeroed. -/
def zeroRangeToZero : Option (Nat × Nat) → Kern LoadState SpawnError Unit
  | some (start, stop) => zeroRange start stop
  | none => pure ()

/-- The zeroing of `range_to_zero`, if any, and of the rest of the module's last frame. -/
def zeroModuleTails (module : BootModule) (rangeToZero : Option (Nat × Nat)) :
    Kern LoadState SpawnError Unit := do
  zeroRangeToZero rangeToZero
  let moduleEnd ← Kern.addU64 module.base module.size
  zeroRange moduleEnd (nextMultipleOf moduleEnd pageSize)

/-- Everything after `create_user_page_table`. -/
def loadModuleElf (module : BootModule) (elf : ElfFile) : Kern LoadState SpawnError UserImage := do
  let moduleEnd ← Kern.addU64 module.base module.size
  let moduleIval ← ieOrPanic module.base (nextMultipleOf moduleEnd pageSize)
  cutPhys moduleIval
  let segments ← Kern.expect elf.segments "called Option::unwrap() on a None value"
  let rangeToZero ← segments.foldlM (loadModuleSegment module) none
  releaseModuleGaps moduleIval (moduleIval.last + 1 - moduleIval.start + 1)
  let entryPoint ← Kern.expect (if elf.entry.toNat = 0 then none else some elf.entry.toNat)
    "ELF does not define an entry point"
  zeroModuleTails module rangeToZero
  mapUserStackOrPanic
  let s ← Kern.get
  pure ⟨entryPoint, userStackTop, s.pt, s.vaddrSet, 0⟩

/-- `create_user_task_from_elf()`, up to the call of `Task::new_user`, for the boot module of the
init task. -/
def createUserTaskFromElf (parse : List UInt8 → Option ElfFile) (kernel : PageTable)
    (module : BootModule) : Kern Machine SpawnError UserImage := fun m =>
  match parse (module.bytes m.ram) with
  | none => .panic "Failed to parse ELF"
  | some elf =>
    match createUserPageTable kernel m.phys with
    | .error msg => .panic msg
    | .ok (pt, phys) =>
      Kern.zoom (fun m => ⟨phys, m.ram, pt, IntervalMap.empty⟩) (fun _ s => ⟨s.phys, s.ram⟩)
        (loadModuleElf module elf) m

/-- The byte a task reads at user address `a`: through its page table's translation of the page
of `a`, from RAM. -/
def userByte (pt : PageTable) (ram : Nat → UInt8) (a : Nat) : Option UInt8 :=
  match VirtAddr.new? a with
  | none => none
  | some v => (pt.translate (Page.containingAddress v)).map fun e => ram (e.frame.start + a % pageSize)

/-! ## What the loader writes to RAM

The zero-copy loader writes RAM only to zero it: the fresh BSS frames, `range_to_zero` and the rest
of the module's last frame. So a byte of the module that the zeroing reaches is zero in the task,
whatever the image held there, and the stack mapped after it writes nothing. -/

/-- Every byte of RAM that is zero stays zero. -/
def LoadState.KeepsZeros (s s' : LoadState) : Prop := ∀ x, s.ram x = 0 → s'.ram x = 0

instance : IsPreorder LoadState LoadState.KeepsZeros where
  refl _ _ h := h
  trans _ _ _ h₁ h₂ x h := h₂ x (h₁ x h)

/-- A `PT_LOAD` segment with file bytes and more memory than file: the segment whose last file page
the loader zeroes past `p_filesz`. -/
def ProgramHeader.ZeroesTail (seg : ProgramHeader) : Prop :=
  seg.pType = 1 ∧ 0 < seg.pFilesz.toNat ∧ seg.pFilesz.toNat < seg.pMemsz.toNat

/-- `range_to_zero` as such a segment sets it: from its end of file in the module to the next frame
boundary. -/
def tailRange (module : BootModule) (seg : ProgramHeader) : Nat × Nat :=
  (module.base + seg.pOffset.toNat + seg.pFilesz.toNat,
    nextMultipleOf (module.base + seg.pOffset.toNat + seg.pFilesz.toNat) pageSize)

/-! ## Two segments on one file page -/

/-- A writable segment with 16 file bytes at offset 0 and two pages of memory at `0x400000`. -/
def dataSegment : ProgramHeader := ⟨1, 6, 0, 0x400000, 0x10, 0x2000⟩

/-- A read-only segment with 16 file bytes at offset `0x800`, mapped at `0x500800`. -/
def rodataSegment : ProgramHeader := ⟨1, 4, 0x800, 0x500800, 0x10, 0x10⟩

/-- The executable's file header and its two program headers, `0xB0` bytes. -/
def sharedPageHeaders : List UInt8 := execBytes 0x401000 [dataSegment, rodataSegment] []

/-- The executable's `0x810` bytes: its headers, then `0x5A`. -/
def sharedPageBytes : List UInt8 := sharedPageHeaders ++ List.replicate 0x760 0x5A

/-- The image as the boot module at `0x300000`, outside the usable RAM of `sampleMachine`. -/
def sharedPageModule : BootModule := ⟨0x300000, 0x810⟩

def moduleMachine : Machine :=
  ⟨sampleMachine.phys, fun a =>
    if 0x300000 ≤ a ∧ a < 0x300810 then sharedPageBytes.getD (a - 0x300000) 0 else 0xAA⟩

theorem sharedPageModule_bytes : sharedPageModule.bytes moduleMachine.ram = sharedPageBytes := by
  refine BootModule.bytes_eq (by decide +kernel) fun i hi => ?_
  have hin : 0x300000 ≤ 0x300000 + i ∧ 0x300000 + i < 0x300810 := by
    change i < 0x810 at hi
    omega
  simp only [moduleMachine, sharedPageModule, if_pos hin, Nat.add_sub_cancel_left]

section Zeroing

open Kern

variable {s s' : LoadState}

theorem physAddrAdd_ok {a b r : Nat} (h : physAddrAdd a b s = .ok r s') : r = a + b ∧ s = s' := by
  unfold physAddrAdd at h
  rw [bind_ok_iff] at h
  obtain ⟨c, s₁, h₁, h⟩ := h
  obtain ⟨-, rfl, rfl⟩ := addU64_ok h₁
  split at h
  · cases h
    exact ⟨rfl, rfl⟩
  · cases h

theorem physAddrAdd_lt {a b r : Nat} (h : physAddrAdd a b s = .ok r s') : r < 2 ^ 52 := by
  unfold physAddrAdd at h
  obtain ⟨c, u₁, -, h⟩ := bind_ok_iff.mp h
  split at h
  · cases h
    assumption
  · cases h

theorem physAddrAdd_ne_err {a b : Nat} {e : SpawnError} : physAddrAdd a b s ≠ .err e s' := by
  intro h
  unfold physAddrAdd at h
  rcases bind_err_iff.mp h with h | ⟨c, u₁, -, h⟩
  · unfold addU64 at h; split at h <;> cases h
  · split at h <;> cases h

theorem physAlignUp_ok {a r : Nat} (h : physAlignUp a s = .ok r s') :
    r = nextMultipleOf a pageSize ∧ s = s' := by
  unfold physAlignUp at h
  split at h
  · cases h
    exact ⟨rfl, rfl⟩
  · cases h

/-- A segment with file bytes sets its tail range, and only when no segment before it did. -/
theorem setRangeToZero_ok {module : BootModule} {r r' : Option (Nat × Nat)} {seg : ProgramHeader}
    (h : setRangeToZero module r seg s = .ok r' s') :
    (0 < seg.pFilesz.toNat → r = none ∧ r' = some (tailRange module seg)) ∧
      (seg.pFilesz.toNat = 0 → r' = r) := by
  unfold setRangeToZero at h
  split at h
  · rename_i hf
    split at h
    · cases h
    · rename_i hr
      rw [bind_ok_iff] at h
      obtain ⟨a, s₁, h₁, h⟩ := h
      obtain ⟨rfl, rfl⟩ := physAddrAdd_ok h₁
      rw [bind_ok_iff] at h
      obtain ⟨start, s₂, h₂, h⟩ := h
      obtain ⟨rfl, rfl⟩ := physAddrAdd_ok h₂
      rw [bind_ok_iff] at h
      obtain ⟨stop, s₃, h₃, h⟩ := h
      obtain ⟨rfl, rfl⟩ := physAlignUp_ok h₃
      cases h
      exact ⟨fun _ => ⟨Option.not_isSome_iff_eq_none.mp hr, rfl⟩, fun h0 => absurd h0 (by omega)⟩
  · rename_i hf
    cases h
    exact ⟨fun h0 => absurd h0 hf, fun _ => rfl⟩

theorem loadModuleBss_rangeToZero {module : BootModule} {r r' : Option (Nat × Nat)}
    {seg : ProgramHeader} {startPage : Page} {nFile nExtra : Nat} {flags : PageTableFlags}
    (h : loadModuleBss module r seg startPage nFile flags s = .ok (r', nExtra) s') :
    (0 < seg.pFilesz.toNat ∧ seg.pFilesz.toNat < seg.pMemsz.toNat →
        r = none ∧ r' = some (tailRange module seg)) ∧
      (¬ (0 < seg.pFilesz.toNat ∧ seg.pFilesz.toNat < seg.pMemsz.toNat) → r' = r) := by
  unfold loadModuleBss at h
  split at h
  · rename_i hm
    rw [bind_ok_iff] at h
    obtain ⟨r₁, s₁, h₁, h⟩ := h
    -- the rest of the block maps the extra pages and returns `r₁`
    simp only [bind_ok_iff] at h
    obtain ⟨_, _, -, _, _, -, _, _, -, _, _, -, _, _, -, h⟩ := h
    cases h
    obtain ⟨hset, hkeep⟩ := setRangeToZero_ok h₁
    exact ⟨fun hz => hset hz.1, fun hz => hkeep (by omega)⟩
  · rename_i hm
    cases h
    exact ⟨fun hz => absurd hz.2 hm, fun _ => rfl⟩

/-- One pass of the segment loop: a segment that zeroes its tail sets `range_to_zero`, which was
unset, and any other segment leaves it as it was. -/
theorem loadModuleSegment_rangeToZero {module : BootModule} {r r' : Option (Nat × Nat)}
    {seg : ProgramHeader} (h : loadModuleSegment module r seg s = .ok r' s') :
    (seg.ZeroesTail → r = none ∧ r' = some (tailRange module seg)) ∧
      (¬ seg.ZeroesTail → r' = r) := by
  unfold loadModuleSegment at h
  split at h
  · rename_i hty
    cases h
    exact ⟨fun hz => absurd hz.1 hty, fun _ => rfl⟩
  · rename_i hty
    rw [bind_ok_iff] at h
    obtain ⟨fileEnd, s₁, -, h⟩ := h
    split at h
    · cases h
    · simp only [bind_ok_iff] at h
      obtain ⟨_, _, -, _, _, -, _, _, -, _, _, -, _, _, -, ⟨r₁, nExtra⟩, s₇, h₇, h⟩ := h
      dsimp only at h
      obtain ⟨_, _, -, _, _, -, h⟩ := h
      cases h
      obtain ⟨hset, hkeep⟩ := loadModuleBss_rangeToZero h₇
      exact ⟨fun hz => hset hz.2, fun hz => hkeep fun hb => hz ⟨not_not.mp hty, hb⟩⟩

/-- After the segment loop, `range_to_zero` is the tail range of every segment that zeroes its
tail: there is at most one, since a second one panics. -/
theorem loadModuleSegments_rangeToZero {module : BootModule} {segs : List ProgramHeader}
    {r : Option (Nat × Nat)} (h : segs.foldlM (loadModuleSegment module) none s = .ok r s') :
    ∀ seg ∈ segs, seg.ZeroesTail → r = some (tailRange module seg) := by
  -- the invariant: the range carried is the tail range of every segment done that zeroes its tail
  have hrun := foldlM_ok_induction (loadModuleSegment module)
    (fun done r _ => ∀ seg ∈ done, seg.ZeroesTail → r = some (tailRange module seg))
    (fun done x r _ r' _ hinv hstep => by
      obtain ⟨hset, hkeep⟩ := loadModuleSegment_rangeToZero hstep
      intro seg hmem hz
      rcases List.mem_append.mp hmem with hdone | hx
      · by_cases hzx : x.ZeroesTail
        · have hr := hinv seg hdone hz
          rw [(hset hzx).1] at hr
          cases hr
        · rw [hkeep hzx]
          exact hinv seg hdone hz
      · obtain rfl := List.mem_singleton.mp hx
        exact (hset hz).2)
    segs [] none s r s' (fun _ hmem => absurd hmem List.not_mem_nil) h
  rwa [List.nil_append] at hrun

/-- `write_bytes(0, ..)`: zero on the range, and every zero of RAM kept. -/
theorem zeroRange_ok {a b : Nat} (h : zeroRange a b s = .ok () s') :
    LoadState.KeepsZeros s s' ∧ ∀ x, a ≤ x → x < b → s'.ram x = 0 := by
  unfold zeroRange at h
  rw [modify_apply] at h
  cases h
  refine ⟨fun x hx => ?_, fun x h₁ h₂ => by dsimp only; rw [if_pos ⟨h₁, h₂⟩]⟩
  dsimp only
  split
  · rfl
  · exact hx

theorem zeroModuleTails_ok {module : BootModule} {r : Option (Nat × Nat)}
    (h : zeroModuleTails module r s = .ok () s') :
    (∀ a b, r = some (a, b) → ∀ x, a ≤ x → x < b → s'.ram x = 0) ∧
      ∀ x, module.base + module.size ≤ x →
        x < nextMultipleOf (module.base + module.size) pageSize → s'.ram x = 0 := by
  unfold zeroModuleTails at h
  rw [bind_ok_iff] at h
  obtain ⟨_, s₁, h₁, h⟩ := h
  rw [bind_ok_iff] at h
  obtain ⟨moduleEnd, s₂, h₂, h⟩ := h
  obtain ⟨-, rfl, rfl⟩ := addU64_ok h₂
  obtain ⟨hkeep, htail⟩ := zeroRange_ok h
  refine ⟨fun a b hr x ha hb => hkeep x ?_, htail⟩
  subst hr
  exact (zeroRange_ok h₁).2 x ha hb

theorem allocUserFrameOrPanic_keepsZeros : Stays LoadState.KeepsZeros allocUserFrameOrPanic := by
  refine ⟨fun s => ?_⟩
  unfold allocUserFrameOrPanic
  split
  · trivial
  · exact fun _ hx => hx
  · trivial

theorem mapPageOrPanic_keepsZeros (page : Page) (frame : PhysFrame) (flags : PageTableFlags) :
    Stays LoadState.KeepsZeros (mapPageOrPanic page frame flags) :=
  (Stays.zoom (mapTo_stays page frame flags) fun _ _ _ _ hx => hx).unwrap

theorem insertUserVaddr_keepsZeros (a b : Nat) (msg : String) :
    Stays LoadState.KeepsZeros (insertUserVaddr a b msg) :=
  insertUserVaddr_stays_of (fun _ _ _ hx => hx) a b msg

/-- The stack frames are mapped as they come out of the allocator: the stack writes no RAM. -/
theorem mapUserStackOrPanic_keepsZeros : Stays LoadState.KeepsZeros mapUserStackOrPanic := by
  unfold mapUserStackOrPanic
  refine (stays_mulU64 _ _).bind fun size => (stays_subU64 _ _).bind fun start => ?_
  refine (stays_ofExcept _).bind fun v => (Stays.forRange fun i => ?_).bind fun _ => ?_
  · unfold mapStackPageOrPanic
    exact (stays_ofExcept _).bind fun page => allocUserFrameOrPanic_keepsZeros.bind fun frame =>
      mapPageOrPanic_keepsZeros page frame stackFlags
  · exact (stays_mulU64 _ _).bind fun _ => (stays_addU64 _ _).bind fun _ =>
      insertUserVaddr_keepsZeros _ _ _

/-- In every run of the loader that returns, RAM is zero on the rest of the module's last frame and
on the tail range of the segment that zeroes its tail, whatever the module held there. -/
theorem loadModuleElf_zeroes {module : BootModule} {elf : ElfFile} {img : UserImage}
    (h : loadModuleElf module elf s = .ok img s') :
    (∀ x, module.base + module.size ≤ x →
      x < nextMultipleOf (module.base + module.size) pageSize → s'.ram x = 0) ∧
    ∀ segs, elf.segments = some segs → ∀ seg ∈ segs, seg.ZeroesTail →
      ∀ x, (tailRange module seg).1 ≤ x → x < (tailRange module seg).2 → s'.ram x = 0 := by
  unfold loadModuleElf at h
  simp only [bind_ok_iff] at h
  -- the module interval and its cut, the segments, the loop, the gaps, the entry point, the
  -- zeroing, the stack and the final read of the state
  obtain ⟨_, _, -, _, _, -, _, _, -, segments, s₄, h₄, rangeToZero, s₅, h₅, _, _, -, _, s₇, h₇,
    _, s₈, h₈, _, s₉, h₉, _, _, h₁₀, h⟩ := h
  obtain ⟨hrange, htail⟩ := zeroModuleTails_ok h₈
  have hstack : LoadState.KeepsZeros s₈ s₉ := mapUserStackOrPanic_keepsZeros.ok h₉
  cases h₁₀
  cases h
  refine ⟨fun x h₁ h₂ => hstack x (htail x h₁ h₂), fun segs hsegs seg hseg hz x h₁ h₂ => ?_⟩
  obtain ⟨hsome, rfl⟩ := expect_ok_iff.mp h₄
  rw [hsome] at hsegs
  cases hsegs
  exact hstack x (hrange _ _ (loadModuleSegments_rangeToZero h₅ seg hseg hz) x h₁ h₂)

/-- The same for `create_user_task_from_elf`: the task's RAM is zero there. -/
theorem createUserTaskFromElf_zeroes {parse : List UInt8 → Option ElfFile} {kernel : PageTable}
    {module : BootModule} {m m' : Machine} {img : UserImage} {elf : ElfFile}
    (h : createUserTaskFromElf parse kernel module m = .ok img m')
    (helf : parse (module.bytes m.ram) = some elf) :
    (∀ x, module.base + module.size ≤ x →
      x < nextMultipleOf (module.base + module.size) pageSize → m'.ram x = 0) ∧
    ∀ segs, elf.segments = some segs → ∀ seg ∈ segs, seg.ZeroesTail →
      ∀ x, (tailRange module seg).1 ≤ x → x < (tailRange module seg).2 → m'.ram x = 0 := by
  unfold createUserTaskFromElf at h
  rw [helf] at h
  dsimp only at h
  split at h
  · cases h
  · obtain ⟨t, ht, rfl⟩ := zoom_ok_iff.mp h
    exact loadModuleElf_zeroes ht

/-- The zero-copy load of the two-segment image zeroes the rest of `dataSegment`'s file page. -/
theorem createUserTaskFromElf_zeroes_sample :
    ∃ img m', createUserTaskFromElf ElfFile.minimalParse emptyKernel sharedPageModule
        moduleMachine = .ok img m' ∧
      ∀ x, (tailRange sharedPageModule dataSegment).1 ≤ x →
        x < (tailRange sharedPageModule dataSegment).2 → m'.ram x = 0 := by
  obtain ⟨img, m', h, -⟩ : ∃ img m', createUserTaskFromElf ElfFile.minimalParse
      emptyKernel sharedPageModule moduleMachine = .ok img m' ∧ True :=
    Outcome.exists_of_okAnd (by decide +kernel)
  have hparse : ElfFile.minimalParse (sharedPageModule.bytes moduleMachine.ram) =
      some ⟨0x401000, some [dataSegment, rodataSegment]⟩ := by
    rw [sharedPageModule_bytes]
    decide +kernel
  exact ⟨img, m', h, (createUserTaskFromElf_zeroes h hparse).2 _ rfl dataSegment
    (List.mem_cons_self ..) ⟨rfl, by decide, by decide⟩⟩

end Zeroing

/-! ## The two loaders on one file page -/

theorem loaders_disagree_on_shared_page :
    sharedPageModule.bytes moduleMachine.ram = sharedPageBytes ∧
    dataSegment.pOffset.toNat % pageSize = dataSegment.pVaddr.toNat % pageSize ∧
    rodataSegment.pOffset.toNat % pageSize = rodataSegment.pVaddr.toNat % pageSize ∧
    dataSegment.pVaddr.toNat + dataSegment.pMemsz.toNat ≤ rodataSegment.pVaddr.toNat ∧
    dataSegment.pOffset.toNat + dataSegment.pFilesz.toNat ≤ rodataSegment.pOffset.toNat ∧
    rodataSegment.pMemsz = rodataSegment.pFilesz ∧
    ∃ img m img' m',
      createUserTaskFromElf ElfFile.minimalParse emptyKernel sharedPageModule
        moduleMachine = .ok img m ∧
      createUserTaskFromElfBytes ElfFile.minimalParse emptyKernel sharedPageBytes 0
        moduleMachine = .ok img' m' ∧
      img.entry = img'.entry ∧ img.rsp = img'.rsp ∧ img.vaddrSet = img'.vaddrSet ∧
      userByte img.pageTable m.ram 0x500800 = some 0 ∧
      userByte img'.pageTable m'.ram 0x500800 = some 0x5A := by
  have hruns := (by decide +kernel :
    (createUserTaskFromElf ElfFile.minimalParse emptyKernel sharedPageModule
      moduleMachine).okAnd (fun img m => decide ((createUserTaskFromElfBytes
        ElfFile.minimalParse emptyKernel sharedPageBytes 0 moduleMachine).okAnd
          (fun img' m' => decide (img.entry = img'.entry ∧ img.rsp = img'.rsp ∧
            img.vaddrSet = img'.vaddrSet ∧ userByte img.pageTable m.ram 0x500800 = some 0 ∧
            userByte img'.pageTable m'.ram 0x500800 = some 0x5A)) = true)) = true)
  obtain ⟨img, m, h₁, h₂⟩ := Outcome.exists_of_okAnd hruns
  obtain ⟨img', m', h₃, h₄⟩ := Outcome.exists_of_okAnd h₂
  exact ⟨sharedPageModule_bytes, by decide, by decide, by decide, by decide, by decide,
    img, m, img', m', h₁, h₃, h₄⟩

end Bos
