import Bos.Syscall.Dispatch
import Bos.Task.ElfImage

/-!
# Bos.Syscall.UserPtr

What `validate_user_ptr` tells a syscall handler about a range of a task created by
`create_user_task_from_elf_bytes`. The check asks only whether one interval of the task's
`user_vaddr_set` covers the range; the loader records each `PT_LOAD` segment there whatever its
flags, so a range inside a read-only segment passes although its page is mapped without
`WRITABLE`, and a handler that writes its result through the pointer writes a read-only page.
-/

namespace Bos

section Spawn

variable {parse : List UInt8 → Option ElfFile} {kernel : PageTable} {elfBytes : List UInt8}
  {childArg : Nat} {m m' : Machine} {img : UserImage}

/-- `validate_user_ptr` accepts every nonempty range of the lower half inside one `PT_LOAD`
segment of a spawned task. -/
theorem validateUserPtr_of_segment {elf : ElfFile} {segments : List ProgramHeader}
    {seg : ProgramHeader} (hparse : parse elfBytes = some elf)
    (hsegs : elf.segments = some segments) (hseg : seg ∈ segments) (hload : seg.pType = 1)
    {ptr size : Nat} (hsize : 0 < size) (hmin : userMin ≤ ptr) (hlo : segmentStart seg ≤ ptr)
    (hhi : ptr + size ≤ segmentStart seg + segmentPageCount seg * pageSize)
    (hlow : ptr + size < 2 ^ 47)
    (h : createUserTaskFromElfBytes parse kernel elfBytes childArg m = .ok img m') :
    validateUserPtr (some (.user, img.vaddrSet)) ptr size = .ok true := by
  obtain ⟨elf', segments', hparse', hsegs', hcov, -⟩ := spawn_covers h
  rw [hparse] at hparse'
  cases hparse'
  rw [hsegs] at hsegs'
  cases hsegs'
  have hreg : segmentRegion seg ptr := ⟨hlo, by omega⟩
  have hpos : 0 < segmentPageCount seg := segmentPageCount_pos hreg
  have hc : img.vaddrSet.Covers ptr (ptr + size) := (hcov seg hseg hload hpos).mono hlo hhi
  rw [validateUserPtr_eq _ _ _ (by omega), decide_eq_true]
  refine ⟨hsize, hmin, by omega, ?_, hc⟩
  unfold userMax lowerHalfEnd
  omega

/-- A read-only `PT_LOAD` segment with at least eight file bytes: `validate_user_ptr` accepts the
eight bytes at its `p_vaddr`, as a handler asks before writing a `u64` result there, while the
page holding them is mapped present and user-accessible but not writable. -/
theorem validated_range_not_writable {elf : ElfFile} {segments : List ProgramHeader}
    {seg : ProgramHeader} (hparse : parse elfBytes = some elf)
    (hsegs : elf.segments = some segments) (hseg : seg ∈ segments) (hload : seg.pType = 1)
    (hro : seg.pFlags &&& 2 = 0) (hmin : userMin ≤ seg.pVaddr.toNat)
    (hf : 8 ≤ seg.pFilesz.toNat) (hlow : seg.pVaddr.toNat + 8 < 2 ^ 47)
    (h : createUserTaskFromElfBytes parse kernel elfBytes childArg m = .ok img m') :
    validateUserPtr (some (.user, img.vaddrSet)) seg.pVaddr.toNat 8 = .ok true ∧
      ∃ page e, page.start.addr ≤ seg.pVaddr.toNat ∧ seg.pVaddr.toNat < page.start.addr + pageSize ∧
        img.pageTable.translate page = some e ∧ e.flags.present = true ∧
        e.flags.userAccessible = true ∧ e.flags.writable = false := by
  -- the file pages alone reach past the eight bytes
  have hfile : seg.pVaddr.toNat + 8 ≤ segmentStart seg + segmentPageCount seg * pageSize := by
    unfold segmentStart segmentPageCount
    rw [if_pos (by omega)]
    unfold divCeil pageSize
    split_ifs <;> omega
  have hlo : segmentStart seg ≤ seg.pVaddr.toNat := by unfold segmentStart pageSize; omega
  have hpos : 0 < segmentPageCount seg := segmentPageCount_pos ⟨hlo, by omega⟩
  obtain ⟨elf', segments', hparse', hsegs', hpages⟩ := spawn_segment_pages h
  rw [hparse] at hparse'
  cases hparse'
  rw [hsegs] at hsegs'
  cases hsegs'
  obtain ⟨page, haddr, frame, hleaf, hwalk, -, -⟩ := hpages seg hseg hload 0 hpos
  have hwr : (elfFlagsToPageTableFlags seg.pFlags).writable = false := by
    simp [elfFlagsToPageTableFlags, hro]
  refine ⟨validateUserPtr_of_segment hparse hsegs hseg hload (by decide) hmin hlo hfile hlow h,
    page, ⟨frame, elfFlagsToPageTableFlags seg.pFlags⟩, ?_, ?_,
    PageTable.translate_of_walkable hwalk hleaf rfl, rfl, rfl, hwr⟩
  · rw [haddr]; unfold segmentStart pageSize; omega
  · rw [haddr]; unfold segmentStart pageSize; omega

/-- Eight file bytes in a read-only segment at `0x400000`. -/
def readOnlySegment : ProgramHeader := ⟨1, 4, 0, 0x400000, 8, 8⟩

def readOnlyImage : List UInt8 := execBytes 0x400000 [readOnlySegment] []

theorem validated_range_not_writable_sample :
    ∃ img m', createUserTaskFromElfBytes ElfFile.minimalParse emptyKernel readOnlyImage 0
        sampleMachine = .ok img m' ∧
      validateUserPtr (some (.user, img.vaddrSet)) 0x400000 8 = .ok true ∧
      ∃ page e, page.start.addr ≤ 0x400000 ∧ 0x400000 < page.start.addr + pageSize ∧
        img.pageTable.translate page = some e ∧ e.flags.present = true ∧
        e.flags.userAccessible = true ∧ e.flags.writable = false := by
  obtain ⟨img, m', h⟩ := Outcome.exists_of_isOk (by decide +kernel :
    (createUserTaskFromElfBytes ElfFile.minimalParse emptyKernel readOnlyImage 0
      sampleMachine).isOk = true)
  have hro := validated_range_not_writable (minimalParse_execBytes (by decide) _ _) rfl
    (List.mem_singleton_self _) rfl (by decide) (by decide) (by decide) (by decide) h
  exact ⟨img, m', h, hro⟩

end Spawn

end Bos
