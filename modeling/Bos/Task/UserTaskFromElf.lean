import Bos.Memory.Paging
import Bos.Memory.UserVaddr
import Bos.Lib.Elf

/-!
# Bos.Task.UserTaskFromElf

`create_user_task_from_elf_bytes` (`user_task_from_elf.rs`), the loader behind the spawn system
call. It parses the ELF image, makes a fresh user page table, and for each `PT_LOAD` segment
allocates one frame per page, zeroes it, copies the segment's file bytes into the file-backed
pages, maps the pages with the segment's flags and records the mapped range in the task's
virtual address set. It then maps a 16-page user stack below `LOWER_HALF_END + 1 - 0x1000`.

The parse is a parameter (`parse`), so that what is proved of the loader holds whatever the
parse returns: the loader only reads the entry point and the program headers. The kernel's is
the elf crate's `ElfBytes::minimal_parse` (`Lib.Elf`), seen through `ElfFile.minimalParse`. The
kernel's page table, whose higher-half entries every user table copies, is a parameter too.

The loop bodies are separate definitions (`loadFilePage`, `loadBssPage`, `mapStackPage`), each
with its own spec lemma, and the whole run is described by `Progress`: what a stretch of the run
may change (which level-1 entries, which bytes of RAM, which frames).
-/

namespace Bos

/-- A program header as the elf crate returns it. -/
structure ProgramHeader where
  pType : UInt32
  pFlags : UInt32
  pOffset : UInt64
  pVaddr : UInt64
  pFilesz : UInt64
  pMemsz : UInt64
  deriving DecidableEq, Repr

/-- What the loader reads of a parsed `ElfBytes`: `ehdr.e_entry` and `segments()`. -/
structure ElfFile where
  entry : UInt64
  segments : Option (List ProgramHeader)
  deriving DecidableEq, Repr

/-- The fields of a program header the loader reads. -/
def ProgramHeader.ofElf (p : Elf.ProgramHeader) : ProgramHeader :=
  ⟨p.pType, p.pFlags, p.pOffset, p.pVaddr, p.pFilesz, p.pMemsz⟩

def ElfFile.ofElfBytes (elf : Elf.ElfBytes) : ElfFile :=
  ⟨elf.ehdr.eEntry, elf.segments.map (List.map ProgramHeader.ofElf)⟩

/-- `ElfBytes::<AnyEndian>::minimal_parse(elf_bytes)`, as the loaders read its result. -/
def ElfFile.minimalParse (elfBytes : List UInt8) : Option ElfFile :=
  (Elf.minimalParse elfBytes).map ElfFile.ofElfBytes

inductive SpawnError where
  | invalidElf
  | outOfMemory
  deriving DecidableEq, Repr

/-- Physical memory: the frame allocator's map and the bytes (read and written through the
higher-half direct map). -/
structure Machine where
  phys : PhysicalMemory
  ram : Nat → UInt8

/-- The state of a load in progress: the machine, the new task's page table and its virtual
address set. -/
structure LoadState where
  phys : PhysicalMemory
  ram : Nat → UInt8
  pt : PageTable
  vaddrSet : VaddrSet

/-- The view of a load state that `map_to` works on. -/
def LoadState.paging (s : LoadState) : Paging := ⟨s.pt, s.phys⟩

/-- What `Task::new_user` is called with. -/
structure UserImage where
  entry : Nat
  rsp : Nat
  pageTable : PageTable
  vaddrSet : VaddrSet
  arg : Nat

/-- `elf_flags_to_page_table_flags`: always `PRESENT | USER_ACCESSIBLE`, `WRITABLE` for a
writable segment, `NO_EXECUTE` for one that is not executable. -/
def elfFlagsToPageTableFlags (elfFlags : UInt32) : PageTableFlags :=
  { PageTableFlags.empty with
    present := true
    userAccessible := true
    writable := elfFlags &&& 2 != 0
    noExecute := elfFlags &&& 1 == 0 }

/-- The flags of the user stack: `PRESENT | USER_ACCESSIBLE | WRITABLE | NO_EXECUTE`. -/
def stackFlags : PageTableFlags :=
  { PageTableFlags.empty with
    present := true
    userAccessible := true
    writable := true
    noExecute := true }

/-- `frame.write_bytes(0, page_size)`. -/
def zeroFrame (ram : Nat → UInt8) (f : PhysFrame) : Nat → UInt8 :=
  fun x => if f.Mem x then 0 else ram x

/-- `copy_nonoverlapping(bytes.add(src), dst, count)`. -/
def copyBytes (ram : Nat → UInt8) (bytes : List UInt8) (src dst count : Nat) : Nat → UInt8 :=
  fun x => if dst ≤ x ∧ x < dst + count then bytes.getD (src + (x - dst)) 0 else ram x

/-- `physical_memory.allocate_frame_with_type(UsedByUserMode).ok_or(SpawnError::OutOfMemory)?`. -/
def allocUserFrame : Kern LoadState SpawnError PhysFrame := fun s =>
  match s.phys.allocateFrameWithType .usedByUserMode with
  | .ok none => .err .outOfMemory s
  | .ok (some (frame, phys)) => .ok frame { s with phys }
  | .error m => .panic m

/-- `mapper.map_to(page, frame, flags, &mut user_mode_allocator).map_err(|_| OutOfMemory)?`. -/
def mapUserPage (page : Page) (frame : PhysFrame) (flags : PageTableFlags) :
    Kern LoadState SpawnError Unit :=
  Kern.mapErr (fun _ => .outOfMemory)
    (Kern.zoom LoadState.paging (fun s p => { s with pt := p.pt, phys := p.phys })
      (mapTo .usedByUserMode page frame flags))

/-- `user_vaddr_set.insert_merge_touching(ie(a, b)).expect(msg)`. -/
def insertUserVaddr (a b : Nat) (msg : String) : Kern LoadState SpawnError Unit := fun s =>
  match Ival.ie? a b with
  | none => .panic "invalid interval"
  | some i =>
    match s.vaddrSet.insertMergeTouchingIfValuesEqual i () with
    | .ok set => .ok () { s with vaddrSet := set }
    | .error _ => .panic msg

/-- The copy window of the file-page loop: the bytes of the page at `pageVaddr` that lie in
`[p_vaddr, p_vaddr + p_filesz)` are copied from the file into `frame`. -/
def copySegmentBytes (elfBytes : List UInt8) (seg : ProgramHeader) (frame : PhysFrame)
    (pageVaddr : Nat) : Kern LoadState SpawnError Unit := do
  let segFileStart := seg.pVaddr.toNat
  let segFileEnd ← Kern.addU64 seg.pVaddr.toNat seg.pFilesz.toNat
  let copyStartVaddr := max pageVaddr segFileStart
  let copyEndVaddr := min (← Kern.addU64 pageVaddr pageSize) segFileEnd
  if copyStartVaddr < copyEndVaddr then
    let offsetInPage ← Kern.subU64 copyStartVaddr pageVaddr
    let offsetInFile ← Kern.addU64 seg.pOffset.toNat (← Kern.subU64 copyStartVaddr segFileStart)
    let count ← Kern.subU64 copyEndVaddr copyStartVaddr
    Kern.modify fun s =>
      { s with ram := copyBytes s.ram elfBytes offsetInFile (frame.start + offsetInPage) count }
  else pure ()

/-- One iteration of the file-page loop: a zeroed frame that receives the part of the segment's
file bytes that falls in page `start_page + i`, then is mapped there. -/
def loadFilePage (elfBytes : List UInt8) (seg : ProgramHeader) (startPage : Page)
    (flags : PageTableFlags) (i : Nat) : Kern LoadState SpawnError Unit := do
  let page ← Kern.ofExcept (startPage.add i)
  let frame ← allocUserFrame
  Kern.modify fun s => { s with ram := zeroFrame s.ram frame }
  copySegmentBytes elfBytes seg frame page.start.addr
  mapUserPage page frame flags

/-- One iteration of the BSS loop: a zeroed frame mapped at `bss_start_page + i`. -/
def loadBssPage (bssStartPage : Page) (flags : PageTableFlags) (i : Nat) :
    Kern LoadState SpawnError Unit := do
  let page ← Kern.ofExcept (bssStartPage.add i)
  let frame ← allocUserFrame
  Kern.modify fun s => { s with ram := zeroFrame s.ram frame }
  mapUserPage page frame flags

/-- The BSS part of a segment (`p_memsz > p_filesz`): the number of extra pages it maps after the
`file_pages_len` file-backed ones. -/
def loadBss (seg : ProgramHeader) (startPage : Page) (filePagesLen : Nat)
    (flags : PageTableFlags) : Kern LoadState SpawnError Nat :=
  if seg.pMemsz.toNat > seg.pFilesz.toNat then do
    let memEnd ← Kern.addU64 seg.pVaddr.toNat seg.pMemsz.toNat
    let fileEnd ← Kern.addU64 seg.pVaddr.toNat seg.pFilesz.toNat
    let extraPagesLen ← Kern.subU64 (divCeil memEnd pageSize) (divCeil fileEnd pageSize)
    let bssStartPage ← Kern.ofExcept (startPage.add filePagesLen)
    Kern.forRange extraPagesLen (loadBssPage bssStartPage flags)
    pure extraPagesLen
  else pure 0

/-- The number of file-backed pages of a segment starting at `v` with `filesz` file bytes. -/
def filePagesLen (v filesz : Nat) : Kern LoadState SpawnError Nat :=
  if filesz > 0 then do
    let fileEnd ← Kern.addU64 v filesz
    Kern.subU64 (divCeil fileEnd pageSize) (v / pageSize)
  else pure 0

/-- The body of the segment loop. -/
def loadSegment (elfBytes : List UInt8) (seg : ProgramHeader) : Kern LoadState SpawnError Unit :=
  -- `ElfSegmentType::try_from(p_type) != Ok(Load)`: `continue`
  if seg.pType ≠ 1 then pure () else do
  let fileEnd ← Kern.addU64 seg.pOffset.toNat seg.pFilesz.toNat
  if fileEnd > elfBytes.length then Kern.throw .invalidElf else do
  let v ← Kern.ofExcept (VirtAddr.new seg.pVaddr.toNat)
  let startPage := Page.containingAddress v
  let nFile ← filePagesLen seg.pVaddr.toNat seg.pFilesz.toNat
  let flags := elfFlagsToPageTableFlags seg.pFlags
  Kern.forRange nFile (loadFilePage elfBytes seg startPage flags)
  let nExtra ← loadBss seg startPage nFile flags
  let totalPages ← Kern.addU64 nFile nExtra
  if totalPages > 0 then do
    let segStart := startPage.start.addr
    let segEnd ← Kern.addU64 segStart (← Kern.mulU64 totalPages pageSize)
    insertUserVaddr segStart segEnd "ELF segment vaddr overlap"
  else pure ()

/-- `rsp = (LOWER_HALF_END + 1) - 0x1000`. -/
def userStackTop : Nat := lowerHalfEnd + 1 - 0x1000

/-- `pages_len = stack_size.div_ceil(page_size)` for the 64 KiB user stack. -/
def userStackPages : Nat := divCeil (64 * 0x400) pageSize

/-- One iteration of the stack loop: a frame mapped at `start_page + i`. -/
def mapStackPage (startPage : Page) (i : Nat) : Kern LoadState SpawnError Unit := do
  let page ← Kern.ofExcept (startPage.add i)
  let frame ← allocUserFrame
  mapUserPage page frame stackFlags

/-- The user stack block. -/
def mapUserStack : Kern LoadState SpawnError Unit := do
  let stackStartVaddr ← Kern.subU64 userStackTop (← Kern.mulU64 userStackPages pageSize)
  let startPage := Page.containingAddress (← Kern.ofExcept (VirtAddr.new stackStartVaddr))
  Kern.forRange userStackPages (mapStackPage startPage)
  insertUserVaddr stackStartVaddr (← Kern.addU64 stackStartVaddr (← Kern.mulU64 userStackPages pageSize))
    "user stack vaddr overlap"

/-- Everything after `create_user_page_table`. -/
def loadElf (elfBytes : List UInt8) (elf : ElfFile) (childArg : Nat) :
    Kern LoadState SpawnError UserImage := do
  let segments ← Kern.okOr elf.segments .invalidElf
  segments.forM (loadSegment elfBytes)
  -- `NonZero::new(elf.ehdr.e_entry).ok_or(SpawnError::InvalidElf)?`
  let entryPoint ← Kern.okOr (if elf.entry.toNat = 0 then none else some elf.entry.toNat) .invalidElf
  mapUserStack
  let s ← Kern.get
  pure ⟨entryPoint, userStackTop, s.pt, s.vaddrSet, childArg⟩

/-- `create_user_task_from_elf_bytes(elf_bytes, child_arg)`, up to the call of `Task::new_user`. -/
def createUserTaskFromElfBytes (parse : List UInt8 → Option ElfFile) (kernel : PageTable)
    (elfBytes : List UInt8) (childArg : Nat) : Kern Machine SpawnError UserImage := fun m =>
  match parse elfBytes with
  | none => .err .invalidElf m
  | some elf =>
    match createUserPageTable kernel m.phys with
    | .error msg => .panic msg
    | .ok (pt, phys) =>
      Kern.zoom (fun m => ⟨phys, m.ram, pt, IntervalMap.empty⟩) (fun _ s => ⟨s.phys, s.ram⟩)
        (loadElf elfBytes elf childArg) m

/-! ## Spec lemmas of the steps -/

@[simp] theorem LoadState.paging_pt (s : LoadState) : s.paging.pt = s.pt := rfl

@[simp] theorem LoadState.paging_phys (s : LoadState) : s.paging.phys = s.phys := rfl

/-- What a stretch of a load may change, given the virtual addresses `region` it works on: the
paging state evolves, no level-1 entry is removed, only pages of the region get entries and only
to frames that were `Usable`, only frames allocated meanwhile are written, and the virtual
address set grows only by the region. -/
structure Progress (region : Nat → Prop) (s s' : LoadState) : Prop where
  paging : Paging.Evolves .usedByUserMode s.paging s'.paging
  leafKept : ∀ q e, s.pt.leaf q = some e → s'.pt.leaf q = some e
  leafOther : ∀ q : Page, ¬ region q.start.addr → s'.pt.leaf q = s.pt.leaf q
  leafNew : ∀ q e, s'.pt.leaf q = some e →
    s.pt.leaf q = some e ∨ ∀ x, e.frame.Mem x → s.phys.typeAt x = some .usable
  ram : ∀ x, s'.ram x ≠ s.ram x →
    s.phys.typeAt x = some .usable ∧ s'.phys.typeAt x = some .usedByUserMode
  vaddrKept : ∀ x, s.vaddrSet.Mem x → s'.vaddrSet.Mem x
  vaddrNew : ∀ x, s'.vaddrSet.Mem x → s.vaddrSet.Mem x ∨ region x
  covers : ∀ lo hi, s.vaddrSet.Covers lo hi → s'.vaddrSet.Covers lo hi

namespace Progress

variable {r r' : Nat → Prop} {s s' s'' : LoadState}

theorem refl (r : Nat → Prop) (s : LoadState) : Progress r s s :=
  ⟨.refl _ _, fun _ _ h => h, fun _ _ => rfl, fun _ _ h => .inl h, fun _ h => absurd rfl h,
    fun _ h => h, fun _ h => .inl h, fun _ _ h => h⟩

theorem mono (h : Progress r s s') (hr : ∀ a, r a → r' a) : Progress r' s s' :=
  ⟨h.paging, h.leafKept, fun q hq => h.leafOther q (fun h' => hq (hr _ h')), h.leafNew, h.ram,
    h.vaddrKept, fun x hx => (h.vaddrNew x hx).imp_right (hr x), h.covers⟩

/-- An address that is `Usable` at the end of the stretch was `Usable` at its start. -/
theorem usable (h : Progress r s s') {x : Nat} (hx : s'.phys.typeAt x = some .usable) :
    s.phys.typeAt x = some .usable :=
  h.paging.phys.usable_of_usable (by decide) hx

/-- A user-mode frame stays one. -/
theorem typeAt_eq (h : Progress r s s') {x : Nat} (hx : s.phys.typeAt x = some .usedByUserMode) :
    s'.phys.typeAt x = some .usedByUserMode := by
  rcases h.paging.phys x with h | ⟨h, -⟩
  · exact h.trans hx
  · simp only [LoadState.paging_phys] at h
    rw [hx] at h
    cases h

theorem trans (h₁ : Progress r s s') (h₂ : Progress r' s' s'') :
    Progress (fun a => r a ∨ r' a) s s'' where
  paging := h₁.paging.trans h₂.paging
  leafKept q e he := h₂.leafKept q e (h₁.leafKept q e he)
  leafOther q hq := by
    rw [h₂.leafOther q (fun h => hq (.inr h)), h₁.leafOther q (fun h => hq (.inl h))]
  leafNew q e he := by
    rcases h₂.leafNew q e he with h | h
    · exact h₁.leafNew q e h
    · exact .inr fun x hx => h₁.usable (h x hx)
  ram x hx := by
    by_cases h₁x : s'.ram x = s.ram x
    · rw [← h₁x] at hx
      obtain ⟨hu, ht⟩ := h₂.ram x hx
      exact ⟨h₁.usable hu, ht⟩
    · obtain ⟨hu, ht⟩ := h₁.ram x h₁x
      exact ⟨hu, h₂.typeAt_eq ht⟩
  vaddrKept x hx := h₂.vaddrKept x (h₁.vaddrKept x hx)
  vaddrNew x hx := by
    rcases h₂.vaddrNew x hx with h | h
    · exact (h₁.vaddrNew x h).imp_right .inl
    · exact .inr (.inr h)
  covers lo hi h := h₂.covers lo hi (h₁.covers lo hi h)

/-- An address whose frame is not `Usable` at the start keeps its byte. -/
theorem ram_eq (h : Progress r s s') {x : Nat} (hx : s.phys.typeAt x ≠ some .usable) :
    s'.ram x = s.ram x := by
  by_contra hne
  exact hx (h.ram x hne).1

/-- An address still `Usable` at the end of the stretch keeps its byte. -/
theorem ram_eq_of_usable (h : Progress r s s') {x : Nat} (hx : s'.phys.typeAt x = some .usable) :
    s'.ram x = s.ram x := by
  by_contra hne
  rw [(h.ram x hne).2] at hx
  cases hx

/-- A page that the stretch found unused and left mapped points to a frame that was `Usable` at
its start. -/
theorem usable_of_new (h : Progress r s s') {q : Page} {e : PageTableEntry}
    (hnone : s.pt.leaf q = none) (he : s'.pt.leaf q = some e) :
    ∀ x, e.frame.Mem x → s.phys.typeAt x = some .usable := by
  rcases h.leafNew q e he with h | h
  · rw [hnone] at h
    cases h
  · exact h

theorem walkable (h : Progress r s s') {p : Page} (hp : s.pt.Walkable p) : s'.pt.Walkable p :=
  ⟨h.paging.keep _ _ hp.1, h.paging.keep _ _ hp.2.1, h.paging.keep _ _ hp.2.2⟩

end Progress

/-- `page` is mapped with `flags` to a user-mode frame whose byte at offset `o` is
`content frame o`. -/
def Loaded (s : LoadState) (page : Page) (flags : PageTableFlags)
    (content : PhysFrame → Nat → UInt8) : Prop :=
  ∃ frame : PhysFrame, s.pt.leaf page = some ⟨frame, flags⟩ ∧ s.pt.Walkable page ∧
    (∀ x, frame.Mem x → s.phys.typeAt x = some .usedByUserMode) ∧
    ∀ o, o < pageSize → s.ram (frame.start + o) = content frame o

/-- A loaded page stays loaded over the rest of the run. -/
theorem Loaded.progress {r : Nat → Prop} {s s' : LoadState} {page : Page} {flags : PageTableFlags}
    {content : PhysFrame → Nat → UInt8} (hl : Loaded s page flags content) (h : Progress r s s') :
    Loaded s' page flags content := by
  obtain ⟨frame, hleaf, hwalk, htype, hram⟩ := hl
  refine ⟨frame, h.leafKept _ _ hleaf, h.walkable hwalk, fun x hx => h.typeAt_eq (htype x hx),
    fun o ho => ?_⟩
  have hmem : frame.Mem (frame.start + o) := ⟨by omega, by omega⟩
  rw [h.ram_eq (by rw [htype _ hmem]; decide), hram o ho]

theorem Loaded.congr {s : LoadState} {page : Page} {flags : PageTableFlags}
    {content content' : PhysFrame → Nat → UInt8} (hl : Loaded s page flags content)
    (hc : ∀ f o, o < pageSize → content f o = content' f o) : Loaded s page flags content' := by
  obtain ⟨frame, hleaf, hwalk, htype, hram⟩ := hl
  exact ⟨frame, hleaf, hwalk, htype, fun o ho => (hram o ho).trans (hc frame o ho)⟩

section Steps

variable {s s' : LoadState}

theorem allocUserFrame_ok {f : PhysFrame} (h : allocUserFrame s = .ok f s') :
    ∃ phys, s.phys.allocateFrameWithType .usedByUserMode = .ok (some (f, phys)) ∧
      s' = { s with phys := phys } := by
  unfold allocUserFrame at h
  split at h
  · cases h
  · rename_i frame phys halloc
    cases h
    exact ⟨phys, halloc, rfl⟩
  · cases h

theorem mapUserPage_ok {page : Page} {frame : PhysFrame} {flags : PageTableFlags}
    (h : mapUserPage page frame flags s = .ok () s') :
    ∃ p, mapTo .usedByUserMode page frame flags s.paging = .ok () p ∧
      s' = { s with pt := p.pt, phys := p.phys } := by
  unfold mapUserPage at h
  rw [Kern.mapErr_ok_iff, Kern.zoom_ok_iff] at h
  exact h

/-- One iteration of a page loop: a frame is allocated, written only inside, and mapped at
`page`. The frame was `Usable`, and the page was unused. -/
theorem iteration_ok {page : Page} {frame : PhysFrame} {flags : PageTableFlags}
    {phys : PhysicalMemory} (ha : s.phys.allocateFrameWithType .usedByUserMode = .ok (some (frame, phys)))
    {s₁ : LoadState} (hmap : mapUserPage page frame flags s₁ = .ok () s') (hphys : s₁.phys = phys)
    (hpt : s₁.pt = s.pt) (hvs : s₁.vaddrSet = s.vaddrSet) (hw : ∀ x, s₁.ram x ≠ s.ram x → frame.Mem x) :
    Progress (· = page.start.addr) s s' ∧ s.pt.leaf page = none ∧
      s'.pt.leaf page = some ⟨frame, flags⟩ ∧ s'.pt.Walkable page ∧ s'.ram = s₁.ram ∧
      (∀ x, frame.Mem x → s.phys.typeAt x = some .usable ∧
        s'.phys.typeAt x = some .usedByUserMode) := by
  obtain ⟨husable, hty⟩ := PhysicalMemory.allocateFrameWithType_spec ha
  obtain ⟨p, hp, rfl⟩ := mapUserPage_ok hmap
  obtain ⟨hev, hnone, hleaf, hwalk, hother⟩ := mapTo_ok hp
  simp only [LoadState.paging_pt, hpt] at hnone hother
  have hne : ∀ q : Page, q ≠ page → q.path ≠ page.path := fun q hq h => hq (Page.path_injective h)
  have halloc : Paging.Evolves .usedByUserMode s.paging s₁.paging :=
    ⟨by simp [hpt], fun _ _ h => by simpa [hpt] using h,
      by simpa [hphys] using PhysicalMemory.allocateFrameWithType_onlyAllocates ha⟩
  -- the frame is user-mode after the allocation, and `map_to` only allocates from `Usable`
  have htype : ∀ x, frame.Mem x → p.phys.typeAt x = some .usedByUserMode := fun x hx => by
    rcases hev.phys x with h | ⟨h, -⟩
    · rw [h]; simp [hphys, hty x, hx]
    · simp [hphys, hty x, hx] at h
  refine ⟨⟨halloc.trans hev, fun q e hq => ?_, fun q hq => ?_, fun q e hq => ?_, fun x hx => ?_,
    fun _ h => by simpa [hvs] using h, fun _ h => .inl (by simpa [hvs] using h),
    fun _ _ h => by simpa [hvs] using h⟩, hnone, hleaf,
    hwalk, rfl, fun x hx => ⟨husable x hx, htype x hx⟩⟩
  · by_cases hqp : q = page
    · subst hqp
      rw [hnone] at hq
      cases hq
    · exact (hother _ (hne q hqp)).trans hq
  · exact hother _ (hne q (fun h => hq (by rw [h])))
  · by_cases hqp : q = page
    · subst hqp
      rw [hleaf] at hq
      cases hq
      exact .inr husable
    · exact .inl ((hother _ (hne q hqp)).symm.trans hq)
  · have hf := hw x hx
    exact ⟨husable x hf, htype x hf⟩

/-- The byte a segment's image has at virtual address `a`: its file byte in the first `p_filesz`
bytes of the segment, zero elsewhere. -/
def segmentByte (elfBytes : List UInt8) (seg : ProgramHeader) (a : Nat) : UInt8 :=
  if seg.pVaddr.toNat ≤ a ∧ a < seg.pVaddr.toNat + seg.pFilesz.toNat then
    elfBytes.getD (seg.pOffset.toNat + (a - seg.pVaddr.toNat)) 0
  else 0

/-- The copy window writes, inside `frame`, exactly the bytes of the page at `pageVaddr` that
come from the file. -/
theorem copySegmentBytes_ok {elfBytes : List UInt8} {seg : ProgramHeader} {frame : PhysFrame}
    {pageVaddr : Nat} (h : copySegmentBytes elfBytes seg frame pageVaddr s = .ok () s') :
    s' = { s with ram := (fun x =>
      if frame.Mem x ∧ seg.pVaddr.toNat ≤ pageVaddr + (x - frame.start) ∧
          pageVaddr + (x - frame.start) < seg.pVaddr.toNat + seg.pFilesz.toNat then
        elfBytes.getD (seg.pOffset.toNat + (pageVaddr + (x - frame.start) - seg.pVaddr.toNat)) 0
      else s.ram x) } := by
  unfold copySegmentBytes at h
  rw [Kern.bind_ok_iff] at h
  obtain ⟨fileEnd, s₁, h₁, h⟩ := h
  obtain ⟨-, rfl, rfl⟩ := Kern.addU64_ok h₁
  rw [Kern.bind_ok_iff] at h
  obtain ⟨pageEnd, s₂, h₂, h⟩ := h
  obtain ⟨-, rfl, rfl⟩ := Kern.addU64_ok h₂
  split at h
  · rename_i hlt
    rw [Kern.bind_ok_iff] at h
    obtain ⟨_, s₃, h₃, h⟩ := h
    obtain ⟨-, rfl, rfl⟩ := Kern.subU64_ok h₃
    rw [Kern.bind_ok_iff] at h
    obtain ⟨_, s₄, h₄, h⟩ := h
    obtain ⟨-, rfl, rfl⟩ := Kern.subU64_ok h₄
    rw [Kern.bind_ok_iff] at h
    obtain ⟨_, s₅, h₅, h⟩ := h
    obtain ⟨-, rfl, rfl⟩ := Kern.addU64_ok h₅
    rw [Kern.bind_ok_iff] at h
    obtain ⟨_, s₆, h₆, h⟩ := h
    obtain ⟨-, rfl, rfl⟩ := Kern.subU64_ok h₆
    rw [Kern.modify_apply] at h
    cases h
    refine congrArg (fun r => { s with ram := r }) (funext fun x => ?_)
    unfold copyBytes
    -- inside the copy window the two byte indices agree; outside it the byte is not a file byte
    split
    · rw [if_pos (by unfold PhysFrame.Mem pageSize at *; omega)]
      unfold pageSize at *
      exact congrArg (elfBytes.getD · 0) (by omega)
    · rw [if_neg (by unfold PhysFrame.Mem pageSize at *; omega)]
  · rename_i hge
    cases h
    refine congrArg (fun r => { s with ram := r }) (funext fun x => ?_)
    rw [if_neg (by unfold PhysFrame.Mem pageSize at *; omega)]

theorem insertUserVaddr_ok {a b : Nat} {msg : String} (h : insertUserVaddr a b msg s = .ok () s') :
    a < b ∧ (∀ x, a ≤ x → x < b → ¬ s.vaddrSet.Mem x) ∧
      Progress (fun x => a ≤ x ∧ x < b) s s' ∧ s'.vaddrSet.Covers a b := by
  unfold insertUserVaddr at h
  split at h
  · cases h
  · rename_i i hi
    obtain ⟨hstart, hlast⟩ := Ival.ie?_eq_some hi
    have hmem : ∀ x, i.Mem x ↔ a ≤ x ∧ x < b := fun x => by
      rw [Ival.mem_iff]; omega
    split at h
    · rename_i set hset
      cases h
      obtain ⟨hfree, hnew⟩ := VaddrSet.insert_ok hset
      obtain ⟨hcov, hkeep⟩ := VaddrSet.covers_insert hset
      refine ⟨by have := i.valid; omega, fun x h₁ h₂ => hfree x ((hmem x).mpr ⟨h₁, h₂⟩),
        ⟨.refl _ _, fun _ _ h => h, fun _ _ => rfl, fun _ _ h => .inl h, fun x hx => absurd rfl hx,
          fun x hx => (hnew x).mpr (.inr hx), fun x hx => ((hnew x).mp hx).symm.imp_right (hmem x).mp,
          hkeep⟩, by rwa [hstart, hlast] at hcov⟩
    · cases h

/-- `insertUserVaddr` changes only the address set, and its failures panic: it keeps every
relation that holds between a state and the state with another address set. -/
theorem insertUserVaddr_stays_of {R : LoadState → LoadState → Prop}
    (hR : ∀ s set, R s { s with vaddrSet := set }) (a b : Nat) (msg : String) :
    Kern.Stays R (insertUserVaddr a b msg) := by
  refine ⟨fun s => ?_⟩
  unfold insertUserVaddr
  split
  · trivial
  · split
    · exact hR s _
    · trivial

/-- One iteration of the file-page loop maps `start_page + i` to a fresh frame holding the
segment's image of that page. -/
theorem loadFilePage_ok {elfBytes : List UInt8} {seg : ProgramHeader} {startPage : Page}
    {flags : PageTableFlags} {i : Nat} (h : loadFilePage elfBytes seg startPage flags i s = .ok () s') :
    ∃ page, startPage.add i = .ok page ∧ Progress (· = page.start.addr) s s' ∧
      s.pt.leaf page = none ∧
      Loaded s' page flags fun _ o => segmentByte elfBytes seg (page.start.addr + o) := by
  unfold loadFilePage at h
  rw [Kern.bind_ok_iff] at h
  obtain ⟨page, s₁, h₁, h⟩ := h
  obtain ⟨hpage, rfl⟩ := Kern.ofExcept_ok_iff.mp h₁
  rw [Kern.bind_ok_iff] at h
  obtain ⟨frame, s₂, h₂, h⟩ := h
  obtain ⟨phys, halloc, rfl⟩ := allocUserFrame_ok h₂
  rw [Kern.bind_ok_iff] at h
  obtain ⟨_, s₃, h₃, h⟩ := h
  rw [Kern.modify_apply] at h₃
  cases h₃
  rw [Kern.bind_ok_iff] at h
  obtain ⟨_, s₄, h₄, h⟩ := h
  have hs₄ := copySegmentBytes_ok h₄
  -- zeroing and copying write only inside the new frame
  obtain ⟨hprog, hfresh, hleaf, hwalk, hram, htype⟩ := iteration_ok halloc h (by rw [hs₄])
    (by rw [hs₄]) (by rw [hs₄]) fun x hx => by
      by_contra hm
      simp [hs₄, zeroFrame, hm] at hx
  refine ⟨page, hpage, hprog, hfresh, frame, hleaf, hwalk, fun x hx => (htype x hx).2,
    fun o ho => ?_⟩
  have hmem : frame.Mem (frame.start + o) := ⟨by omega, by unfold pageSize at *; omega⟩
  rw [hram, hs₄]
  simp only [segmentByte, zeroFrame, hmem, true_and, if_true, Nat.add_sub_cancel_left]

/-- One iteration of the BSS loop maps `bss_start_page + i` to a fresh zeroed frame. -/
theorem loadBssPage_ok {bssStartPage : Page} {flags : PageTableFlags} {i : Nat}
    (h : loadBssPage bssStartPage flags i s = .ok () s') :
    ∃ page, bssStartPage.add i = .ok page ∧ Progress (· = page.start.addr) s s' ∧
      s.pt.leaf page = none ∧ Loaded s' page flags fun _ _ => 0 := by
  unfold loadBssPage at h
  rw [Kern.bind_ok_iff] at h
  obtain ⟨page, s₁, h₁, h⟩ := h
  obtain ⟨hpage, rfl⟩ := Kern.ofExcept_ok_iff.mp h₁
  rw [Kern.bind_ok_iff] at h
  obtain ⟨frame, s₂, h₂, h⟩ := h
  obtain ⟨phys, halloc, rfl⟩ := allocUserFrame_ok h₂
  rw [Kern.bind_ok_iff] at h
  obtain ⟨_, s₃, h₃, h⟩ := h
  rw [Kern.modify_apply] at h₃
  cases h₃
  obtain ⟨hprog, hfresh, hleaf, hwalk, hram, htype⟩ := iteration_ok halloc h rfl rfl rfl
    fun x hx => by
      by_contra hm
      simp [zeroFrame, hm] at hx
  refine ⟨page, hpage, hprog, hfresh, frame, hleaf, hwalk, fun x hx => (htype x hx).2,
    fun o ho => ?_⟩
  have hmem : frame.Mem (frame.start + o) := ⟨by omega, by unfold pageSize at *; omega⟩
  rw [hram]
  simp [zeroFrame, hmem]

/-- One iteration of the stack loop maps `start_page + i` to a frame that was `Usable` and that
it does not write. -/
theorem mapStackPage_ok {startPage : Page} {i : Nat} (h : mapStackPage startPage i s = .ok () s') :
    ∃ page, startPage.add i = .ok page ∧ Progress (· = page.start.addr) s s' ∧
      s.pt.leaf page = none ∧ s'.ram = s.ram ∧
      Loaded s' page stackFlags fun f o => s.ram (f.start + o) := by
  unfold mapStackPage at h
  rw [Kern.bind_ok_iff] at h
  obtain ⟨page, s₁, h₁, h⟩ := h
  obtain ⟨hpage, rfl⟩ := Kern.ofExcept_ok_iff.mp h₁
  rw [Kern.bind_ok_iff] at h
  obtain ⟨frame, s₂, h₂, h⟩ := h
  obtain ⟨phys, halloc, rfl⟩ := allocUserFrame_ok h₂
  obtain ⟨hprog, hfresh, hleaf, hwalk, hram, htype⟩ := iteration_ok halloc h rfl rfl rfl
    fun x hx => absurd rfl hx
  exact ⟨page, hpage, hprog, hfresh, hram, frame, hleaf, hwalk, fun x hx => (htype x hx).2,
    fun o _ => by rw [hram]⟩

end Steps

end Bos
