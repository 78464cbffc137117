import Bos.Task.ElfImage

/-!
# Bos.Task.SpawnFailure

What `create_user_task_from_elf_bytes` leaves behind when it returns `Err`. Every step of the
loader changes the frame map only by taking `Usable` frames as `UsedByUserMode`, through
`allocate_frame_with_type` and through the table frames `map_to` creates, and it does so on its
error paths as well (`loadElf_stays`, built with the rules of `Kern.Stays`). No error path frees
a frame: an `Err` after the parse leaves the L4 frame of the half-built table, and every frame
taken before the error, allocated with nothing that owns them (`spawn_error_keeps_frames`).
An `Err` at the parse changes nothing: bytes without the ELF magic are refused before the first
allocation (`spawn_rejects_non_elf`).
-/

namespace Bos

/-- The frame map only gains `UsedByUserMode` frames, taken from `Usable` ones. -/
def LoadState.Allocates (s s' : LoadState) : Prop :=
  PhysicalMemory.OnlyAllocates .usedByUserMode s.phys s'.phys

instance : IsPreorder LoadState LoadState.Allocates where
  refl s := PhysicalMemory.OnlyAllocates.refl _ s.phys
  trans _ _ _ h₁ h₂ := h₁.trans h₂

namespace Spawn

open Kern

/-! ## The steps of the loader -/

theorem allocUserFrame_stays : Stays LoadState.Allocates allocUserFrame := by
  refine ⟨fun s => ?_⟩
  unfold allocUserFrame
  split
  · exact refl_of LoadState.Allocates s
  · rename_i frame phys halloc
    exact PhysicalMemory.allocateFrameWithType_onlyAllocates halloc
  · trivial

theorem mapUserPage_stays (page : Page) (frame : PhysFrame) (flags : PageTableFlags) :
    Stays LoadState.Allocates (mapUserPage page frame flags) := by
  unfold mapUserPage
  refine Stays.mapErr (Stays.zoom (mapTo_stays page frame flags) ?_)
  intro s p hp
  exact hp.phys

theorem insertUserVaddr_stays (a b : Nat) (msg : String) :
    Stays LoadState.Allocates (insertUserVaddr a b msg) :=
  insertUserVaddr_stays_of (fun s _ => refl_of LoadState.Allocates s) a b msg

/-- A step that writes RAM only. -/
theorem stays_modify_ram (f : LoadState → Nat → UInt8) :
    Stays LoadState.Allocates (modify fun s => { s with ram := f s } : Kern LoadState SpawnError Unit) :=
  stays_modify fun s => refl_of LoadState.Allocates s

theorem copySegmentBytes_stays (elfBytes : List UInt8) (seg : ProgramHeader) (frame : PhysFrame)
    (pageVaddr : Nat) : Stays LoadState.Allocates (copySegmentBytes elfBytes seg frame pageVaddr) := by
  unfold copySegmentBytes
  refine (stays_addU64 _ _).bind fun segFileEnd => (stays_addU64 _ _).bind fun pageEnd => ?_
  refine Stays.ite ?_ (stays_pure ())
  refine (stays_subU64 _ _).bind fun offsetInPage => (stays_subU64 _ _).bind fun _ => ?_
  refine (stays_addU64 _ _).bind fun offsetInFile => (stays_subU64 _ _).bind fun count => ?_
  exact stays_modify_ram _

theorem loadFilePage_stays (elfBytes : List UInt8) (seg : ProgramHeader) (startPage : Page)
    (flags : PageTableFlags) (i : Nat) :
    Stays LoadState.Allocates (loadFilePage elfBytes seg startPage flags i) := by
  unfold loadFilePage
  refine (stays_ofExcept _).bind fun page => allocUserFrame_stays.bind fun frame => ?_
  refine (stays_modify_ram _).bind fun _ => (copySegmentBytes_stays _ _ _ _).bind fun _ => ?_
  exact mapUserPage_stays page frame flags

theorem loadBssPage_stays (bssStartPage : Page) (flags : PageTableFlags) (i : Nat) :
    Stays LoadState.Allocates (loadBssPage bssStartPage flags i) := by
  unfold loadBssPage
  refine (stays_ofExcept _).bind fun page => allocUserFrame_stays.bind fun frame => ?_
  exact (stays_modify_ram _).bind fun _ => mapUserPage_stays page frame flags

theorem loadBss_stays (seg : ProgramHeader) (startPage : Page) (filePagesLen : Nat)
    (flags : PageTableFlags) : Stays LoadState.Allocates (loadBss seg startPage filePagesLen flags) := by
  unfold loadBss
  refine Stays.ite ?_ (stays_pure 0)
  refine (stays_addU64 _ _).bind fun memEnd => (stays_addU64 _ _).bind fun fileEnd => ?_
  refine (stays_subU64 _ _).bind fun extraPagesLen => (stays_ofExcept _).bind fun bssStartPage => ?_
  exact (Stays.forRange fun i => loadBssPage_stays bssStartPage flags i).bind fun _ => stays_pure _

theorem filePagesLen_stays (v filesz : Nat) : Stays LoadState.Allocates (filePagesLen v filesz) :=
  Stays.ite ((stays_addU64 _ _).bind fun _ => stays_subU64 _ _) (stays_pure 0)

theorem loadSegment_stays (elfBytes : List UInt8) (seg : ProgramHeader) :
    Stays LoadState.Allocates (loadSegment elfBytes seg) := by
  unfold loadSegment
  -- a segment that is not `PT_LOAD` is skipped; one whose file range is out of the image is
  -- refused before anything is allocated
  refine Stays.ite (stays_pure ()) ?_
  refine (stays_addU64 _ _).bind fun fileEnd => Stays.ite (stays_throw _) ?_
  refine (stays_ofExcept _).bind fun v => (filePagesLen_stays _ _).bind fun nFile => ?_
  refine (Stays.forRange fun i => loadFilePage_stays _ _ _ _ i).bind fun _ => ?_
  refine (loadBss_stays _ _ _ _).bind fun nExtra => (stays_addU64 _ _).bind fun totalPages => ?_
  refine Stays.ite ?_ (stays_pure ())
  refine (stays_mulU64 _ _).bind fun size => (stays_addU64 _ _).bind fun segEnd => ?_
  exact insertUserVaddr_stays _ _ _

theorem mapStackPage_stays (startPage : Page) (i : Nat) :
    Stays LoadState.Allocates (mapStackPage startPage i) := by
  unfold mapStackPage
  refine (stays_ofExcept _).bind fun page => allocUserFrame_stays.bind fun frame => ?_
  exact mapUserPage_stays page frame stackFlags

theorem mapUserStack_stays : Stays LoadState.Allocates mapUserStack := by
  unfold mapUserStack
  refine (stays_mulU64 _ _).bind fun size => (stays_subU64 _ _).bind fun start => ?_
  refine (stays_ofExcept _).bind fun v => ?_
  refine (Stays.forRange fun i => mapStackPage_stays _ i).bind fun _ => ?_
  refine (stays_mulU64 _ _).bind fun size' => (stays_addU64 _ _).bind fun stackEnd => ?_
  exact insertUserVaddr_stays _ _ _

/-- On every path that ends in a state, `Ok` or `Err`, the loader only allocates frames. -/
theorem loadElf_stays (elfBytes : List UInt8) (elf : ElfFile) (childArg : Nat) :
    Stays LoadState.Allocates (loadElf elfBytes elf childArg) := by
  unfold loadElf
  refine (stays_okOr _ _).bind fun segments => ?_
  refine (Stays.forM fun seg _ => loadSegment_stays elfBytes seg).bind fun _ => ?_
  refine (stays_okOr _ _).bind fun entryPoint => mapUserStack_stays.bind fun _ => ?_
  exact stays_get.bind fun s => stays_pure _

/-! ## A failed spawn -/

/-- An `Err` after the parse frees nothing: the frame map only gained `UsedByUserMode` frames,
among them the L4 frame of the new table, so the map after the call is not the map before it. -/
theorem spawn_error_keeps_frames {parse : List UInt8 → Option ElfFile} {kernel : PageTable}
    {elfBytes : List UInt8} {childArg : Nat} {m m' : Machine} {e : SpawnError} {elf : ElfFile}
    (hparse : parse elfBytes = some elf)
    (herr : createUserTaskFromElfBytes parse kernel elfBytes childArg m = .err e m') :
    PhysicalMemory.OnlyAllocates .usedByUserMode m.phys m'.phys ∧ m'.phys ≠ m.phys ∧
      ∃ pt phys, createUserPageTable kernel m.phys = .ok (pt, phys) ∧
        ∀ x, pt.l4Frame.Mem x → m.phys.typeAt x = some .usable ∧
          m'.phys.typeAt x = some .usedByUserMode := by
  unfold createUserTaskFromElfBytes at herr
  rw [hparse] at herr
  dsimp only at herr
  split at herr
  · cases herr
  rename_i pt phys hpt
  obtain ⟨s', hload, rfl⟩ := zoom_err_iff.mp herr
  have hs : PhysicalMemory.OnlyAllocates .usedByUserMode phys s'.phys :=
    (loadElf_stays elfBytes elf childArg).err hload
  -- the L4 frame was taken before the load, which never gives a frame back
  have hl4 : ∀ x, pt.l4Frame.Mem x →
      m.phys.typeAt x = some .usable ∧ s'.phys.typeAt x = some .usedByUserMode := by
    intro x hx
    obtain ⟨husable, hused⟩ := createUserPageTable_l4Frame hpt hx
    refine ⟨husable, ?_⟩
    rcases hs x with hkept | ⟨hwas, -⟩
    · rw [hkept, hused]
    · rw [hused] at hwas
      cases hwas
  refine ⟨(createUserPageTable_spec hpt).1.trans hs, fun heq => ?_, pt, phys, hpt, hl4⟩
  obtain ⟨husable, hused⟩ := hl4 _ pt.l4Frame.mem_start
  have hsame : s'.phys.typeAt pt.l4Frame.start = m.phys.typeAt pt.l4Frame.start := by
    rw [← heq]
  rw [hsame, husable] at hused
  cases hused

/-- A valid `PT_LOAD` segment of four file bytes. -/
def zeroEntrySegment : ProgramHeader := ⟨1, 5, 0, 0x400000, 4, 4⟩

/-- An executable of that segment with entry point 0. -/
def zeroEntryImage : List UInt8 := execBytes 0 [zeroEntrySegment] []

theorem spawn_error_keeps_frames_sample :
    ∃ e m', createUserTaskFromElfBytes ElfFile.minimalParse emptyKernel zeroEntryImage 0
        sampleMachine = .err e m' ∧ m'.phys ≠ sampleMachine.phys := by
  obtain ⟨e, m', h⟩ := Outcome.exists_of_isErr (by decide +kernel :
    (createUserTaskFromElfBytes ElfFile.minimalParse emptyKernel zeroEntryImage 0
      sampleMachine).isErr = true)
  exact ⟨e, m', h, (spawn_error_keeps_frames (minimalParse_execBytes (by decide) _ _) h).2.1⟩

end Spawn

end Bos
