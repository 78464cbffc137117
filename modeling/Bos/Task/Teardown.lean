import Bos.Task.ElfImage
import Bos.Memory.AddressSpace

/-!
# Bos.Task.Teardown

A spawn and the drop of the task it built, together: `create_user_task_from_elf_bytes` followed by
`TaskInner::drop` (`free_user_address_space` on the task's L4 frame) gives back the frame map of
before the spawn, exactly.

The proof carries `Paging.Accounts` through the loader, as a triple of `Kern` for the runs that
return:

* a loop iteration takes a frame (which is then held) and maps it at a page of the lower half
  (which makes it the table's), so every iteration keeps the invariant with nothing held
  (`loadFilePage_accounts`, `loadBssPage_accounts`, `mapStackPage_accounts`);
* the other steps write RAM or the address set only (`accounts_of_paging`);
* the loops and the segment loop carry it (`loadSegment_accounts`, `loadElf_accounts`), and the
  fresh table starts it (`createUserTaskFromElfBytes_accounts`).

The segments must lie in the lower half: a segment above it is mapped through the kernel's shared
higher-half entries, which the walk of `free_user_address_space` never visits.
-/

namespace Bos

open Kern

/-- The invariant of a load: the paging state accounts for its frames against `pm₀`, with the
frames `held` taken and not yet mapped. -/
def LoadState.Accounts (pm₀ : PhysicalMemory) (held : PhysFrame → Prop) (s : LoadState) : Prop :=
  Paging.Accounts pm₀ held s.paging

namespace Teardown

variable {pm₀ : PhysicalMemory} {held : PhysFrame → Prop}

/-! ## The steps -/

/-- A step that leaves the page table and the frame map as they were. -/
theorem accounts_of_paging {α : Type} {k : Kern LoadState SpawnError α}
    (hk : ∀ s a s', k s = .ok a s' → s'.paging = s.paging) :
    Triple (LoadState.Accounts pm₀ held) k fun _ => LoadState.Accounts pm₀ held :=
  fun s a s' hs h => by
    show Paging.Accounts pm₀ held s'.paging
    rw [hk s a s' h]
    exact hs

theorem modify_ram_accounts (f : LoadState → Nat → UInt8) :
    Triple (LoadState.Accounts pm₀ held)
      (modify fun s => { s with ram := f s } : Kern LoadState SpawnError Unit)
      fun _ => LoadState.Accounts pm₀ held :=
  accounts_of_paging fun _ _ _ h => by cases h; rfl

theorem insertUserVaddr_accounts (a b : Nat) (msg : String) :
    Triple (LoadState.Accounts pm₀ held) (insertUserVaddr a b msg)
      fun _ => LoadState.Accounts pm₀ held :=
  accounts_of_paging fun _ _ _ h =>
    (insertUserVaddr_stays_of (R := fun s s' => s'.paging = s.paging) (fun _ _ => rfl) a b msg).ok h

/-- The frame taken is held. -/
theorem allocUserFrame_accounts :
    Triple (LoadState.Accounts pm₀ held) allocUserFrame
      fun F => LoadState.Accounts pm₀ fun f => held f ∨ f = F := by
  intro s F s' hs h
  obtain ⟨phys, ha, rfl⟩ := allocUserFrame_ok h
  exact Paging.Accounts.alloc hs ha

/-- Mapping a held frame at a page of the lower half makes it the table's. -/
theorem mapUserPage_accounts {page : Page} {F : PhysFrame} {flags : PageTableFlags}
    (hpage : page.start.addr < 2 ^ 47) (hfl : flags.present = true) :
    Triple (LoadState.Accounts pm₀ fun f => held f ∨ f = F) (mapUserPage page F flags)
      fun _ => LoadState.Accounts pm₀ held := by
  intro s _ s' hs h
  obtain ⟨p, hp, rfl⟩ := mapUserPage_ok h
  exact Paging.Accounts.mapTo hpage hfl hs hp

/-- One iteration of the file-page loop at a page of the lower half. -/
theorem loadFilePage_accounts {elfBytes : List UInt8} {seg : ProgramHeader} {startPage : Page}
    {flags : PageTableFlags} {i : Nat} (hfl : flags.present = true)
    (hpage : ∀ page, startPage.add i = .ok page → page.start.addr < 2 ^ 47) :
    Triple (LoadState.Accounts pm₀ held) (loadFilePage elfBytes seg startPage flags i)
      fun _ => LoadState.Accounts pm₀ held := by
  unfold loadFilePage
  refine triple_ofExcept.bind fun page => Triple.pure_pre fun hadd => ?_
  refine allocUserFrame_accounts.bind fun frame => (modify_ram_accounts _).bind fun _ => ?_
  refine (accounts_of_paging fun _ _ _ h => by rw [copySegmentBytes_ok h]; rfl).bind fun _ => ?_
  exact mapUserPage_accounts (hpage page hadd) hfl

/-- One iteration of the BSS loop at a page of the lower half. -/
theorem loadBssPage_accounts {bssStartPage : Page} {flags : PageTableFlags} {i : Nat}
    (hfl : flags.present = true)
    (hpage : ∀ page, bssStartPage.add i = .ok page → page.start.addr < 2 ^ 47) :
    Triple (LoadState.Accounts pm₀ held) (loadBssPage bssStartPage flags i)
      fun _ => LoadState.Accounts pm₀ held := by
  unfold loadBssPage
  refine triple_ofExcept.bind fun page => Triple.pure_pre fun hadd => ?_
  refine allocUserFrame_accounts.bind fun frame => (modify_ram_accounts _).bind fun _ => ?_
  exact mapUserPage_accounts (hpage page hadd) hfl

/-- One iteration of the stack loop at a page of the lower half. -/
theorem mapStackPage_accounts {startPage : Page} {i : Nat}
    (hpage : ∀ page, startPage.add i = .ok page → page.start.addr < 2 ^ 47) :
    Triple (LoadState.Accounts pm₀ held) (mapStackPage startPage i)
      fun _ => LoadState.Accounts pm₀ held := by
  unfold mapStackPage
  refine triple_ofExcept.bind fun page => Triple.pure_pre fun hadd => ?_
  exact allocUserFrame_accounts.bind fun frame => mapUserPage_accounts (hpage page hadd) rfl

/-! ## The loops -/

/-- The page `i` of a loop from `base`, when `base + i` pages lie below `2 ^ 47`. -/
theorem add_lt_of_lt {base : Page} {i : Nat} (h : base.start.addr + i * pageSize < 2 ^ 47) :
    ∀ page, base.add i = .ok page → page.start.addr < 2 ^ 47 := by
  intro page hadd
  rw [(Page.add_eq_ok.mp hadd).2.2]
  exact h

theorem filePagesLen_triple {P : LoadState → Prop} {v f : Nat} :
    Triple P (filePagesLen v f)
      fun n s => P s ∧ n = if 0 < f then divCeil (v + f) pageSize - v / pageSize else 0 := by
  intro s n s' hs h
  obtain ⟨rfl, hn, -⟩ := filePagesLen_ok h
  exact ⟨hs, hn⟩

/-- The BSS part of a segment whose pages after the `n_file` file pages lie in the lower half. -/
theorem loadBss_accounts {seg : ProgramHeader} {startPage : Page} {nFile : Nat}
    {flags : PageTableFlags} (hfl : flags.present = true)
    (hlow : ∀ i, i < divCeil (seg.pVaddr.toNat + seg.pMemsz.toNat) pageSize -
      divCeil (seg.pVaddr.toNat + seg.pFilesz.toNat) pageSize →
        startPage.start.addr + (nFile + i) * pageSize < 2 ^ 47) :
    Triple (LoadState.Accounts pm₀ held) (loadBss seg startPage nFile flags)
      fun _ => LoadState.Accounts pm₀ held := by
  unfold loadBss
  refine Triple.ite (fun _ => ?_) fun _ => triple_pure 0 fun _ => LoadState.Accounts pm₀ held
  refine triple_addU64.bind fun memEnd => Triple.pure_pre fun hmem => ?_
  refine triple_addU64.bind fun fileEnd => Triple.pure_pre fun hfile => ?_
  refine triple_subU64.bind fun extra => Triple.pure_pre fun hextra => ?_
  refine triple_ofExcept.bind fun bssStart => Triple.pure_pre fun hbss => ?_
  -- the BSS page `i` is page `n_file + i` of the segment
  have hpage : ∀ i < extra, bssStart.start.addr + i * pageSize < 2 ^ 47 := fun i hi => by
    rw [(Page.add_eq_ok.mp hbss).2.2, Nat.add_assoc, ← Nat.add_mul]
    rw [hextra.1, hmem.1, hfile.1] at hi
    exact hlow i hi
  exact (Triple.forRange (I := fun _ => LoadState.Accounts pm₀ held) fun i hi =>
    loadBssPage_accounts hfl (add_lt_of_lt (hpage i hi))).bind fun _ =>
      triple_pure _ fun _ => LoadState.Accounts pm₀ held

/-- A segment whose region lies in the lower half. -/
theorem loadSegment_accounts {elfBytes : List UInt8} {seg : ProgramHeader}
    (hlow : seg.pType = 1 → ∀ a, segmentRegion seg a → a < 2 ^ 47) :
    Triple (LoadState.Accounts pm₀ held) (loadSegment elfBytes seg)
      fun _ => LoadState.Accounts pm₀ held := by
  unfold loadSegment
  refine Triple.ite (fun _ => triple_pure () fun _ => LoadState.Accounts pm₀ held) fun hload => ?_
  refine triple_addU64.bind fun fileEnd => Triple.pure_pre fun _ =>
    Triple.ite (fun _ => triple_throw _ _ _) fun _ => ?_
  refine triple_ofExcept.bind fun v => Triple.pure_pre fun hv => ?_
  have hstart : (Page.containingAddress v).start.addr = segmentStart seg := by
    simp [Page.containingAddress, segmentStart, (VirtAddr.new_eq_ok.mp hv).2]
  -- every page of the segment lies in its region, so below `2 ^ 47`
  have hpages : ∀ k < segmentPageCount seg,
      (Page.containingAddress v).start.addr + k * pageSize < 2 ^ 47 := fun k hk => by
    rw [hstart]
    refine hlow (not_not.mp hload) _ ⟨Nat.le_add_right _ _, ?_⟩
    unfold pageSize at *
    omega
  refine filePagesLen_triple.bind fun nFile => Triple.pure_pre fun hn => ?_
  -- the file pages and the BSS pages after them are the segment's pages
  have hfilePages : ∀ i < nFile, (Page.containingAddress v).start.addr + i * pageSize < 2 ^ 47 :=
    fun i hi => hpages i (by unfold segmentPageCount; rw [hn] at hi; omega)
  have hbssPages : ∀ i, i < divCeil (seg.pVaddr.toNat + seg.pMemsz.toNat) pageSize -
      divCeil (seg.pVaddr.toNat + seg.pFilesz.toNat) pageSize →
        (Page.containingAddress v).start.addr + (nFile + i) * pageSize < 2 ^ 47 := fun i hi => by
    refine hpages _ ?_
    unfold segmentPageCount
    unfold divCeil pageSize at *
    split_ifs at hn ⊢ <;> omega
  refine (Triple.forRange (I := fun _ => LoadState.Accounts pm₀ held) fun i hi =>
    loadFilePage_accounts rfl (add_lt_of_lt (hfilePages i hi))).bind fun _ => ?_
  refine (loadBss_accounts rfl hbssPages).bind fun nExtra => ?_
  refine triple_addU64.bind fun total => Triple.pure_pre fun _ => Triple.ite (fun _ => ?_)
    fun _ => triple_pure () fun _ => LoadState.Accounts pm₀ held
  refine triple_mulU64.bind fun size => Triple.pure_pre fun _ => ?_
  refine triple_addU64.bind fun segEnd => Triple.pure_pre fun _ => ?_
  exact insertUserVaddr_accounts _ _ _

/-- The user stack: its sixteen pages end at `USER_STACK_TOP`, in the lower half. -/
theorem mapUserStack_accounts :
    Triple (LoadState.Accounts pm₀ held) mapUserStack fun _ => LoadState.Accounts pm₀ held := by
  unfold mapUserStack
  refine triple_mulU64.bind fun size => Triple.pure_pre fun hsize => ?_
  refine triple_subU64.bind fun start => Triple.pure_pre fun hstart => ?_
  refine triple_ofExcept.bind fun v => Triple.pure_pre fun hv => ?_
  have hpage : ∀ i < userStackPages,
      (Page.containingAddress v).start.addr + i * pageSize < 2 ^ 47 := fun i hi => by
    have hbase : (Page.containingAddress v).start.addr = userStackStart := by
      show v.addr / pageSize * pageSize = userStackStart
      rw [(VirtAddr.new_eq_ok.mp hv).2, hstart.1, hsize.1]
      decide
    rw [hbase, userStackStart_eq]
    rw [userStackPages_eq] at hi
    unfold pageSize
    omega
  refine (Triple.forRange (I := fun _ => LoadState.Accounts pm₀ held) fun i hi =>
    mapStackPage_accounts (add_lt_of_lt (hpage i hi))).bind fun _ => ?_
  refine triple_mulU64.bind fun size' => Triple.pure_pre fun _ => ?_
  refine triple_addU64.bind fun stackEnd => Triple.pure_pre fun _ => ?_
  exact insertUserVaddr_accounts _ _ _

/-- The whole load, from a table whose segments lie in the lower half: the image returned has
the final table. -/
theorem loadElf_accounts {elfBytes : List UInt8} {elf : ElfFile} {childArg : Nat}
    (hlow : ∀ segments, elf.segments = some segments →
      ∀ a, segmentsRegion segments a → a < 2 ^ 47) :
    Triple (LoadState.Accounts pm₀ held) (loadElf elfBytes elf childArg)
      fun img s => LoadState.Accounts pm₀ held s ∧ img.pageTable = s.pt := by
  unfold loadElf
  refine triple_okOr.bind fun segments => Triple.pure_pre fun hsegs => ?_
  refine (Triple.forM fun seg hseg => loadSegment_accounts fun hl a ha =>
    hlow segments hsegs a ⟨seg, hseg, hl, ha⟩).bind fun _ => ?_
  refine triple_okOr.bind fun entryPoint => Triple.pure_pre fun _ => ?_
  refine mapUserStack_accounts.bind fun _ => ?_
  exact ((triple_get fun s s' => LoadState.Accounts pm₀ held s' ∧ s.pt = s'.pt).conseq
    (fun s hs => ⟨hs, rfl⟩) fun _ _ h => h).bind fun s =>
      triple_pure (⟨entryPoint, userStackTop, s.pt, s.vaddrSet, childArg⟩ : UserImage)
        fun img s => LoadState.Accounts pm₀ held s ∧ img.pageTable = s.pt

end Teardown

section Spawn

variable {parse : List UInt8 → Option ElfFile} {kernel : PageTable} {elfBytes : List UInt8}
  {childArg : Nat} {m m' : Machine} {img : UserImage}

/-- A spawn whose segments lie in the lower half ends in a state that accounts for its frames,
with none held, against the frame map it started from. -/
theorem createUserTaskFromElfBytes_accounts (hc : m.phys.map.Canonical)
    (hlow : ∀ elf segments, parse elfBytes = some elf → elf.segments = some segments →
      ∀ a, segmentsRegion segments a → a < 2 ^ 47)
    (h : createUserTaskFromElfBytes parse kernel elfBytes childArg m = .ok img m') :
    ∃ s, LoadState.Accounts m.phys (fun _ => False) s ∧ img.pageTable = s.pt ∧ m'.phys = s.phys := by
  obtain ⟨elf, pt, phys, s, hparse, hpt, hload, rfl⟩ := createUserTaskFromElfBytes_ok h
  have h₀ : LoadState.Accounts m.phys (fun _ => False) ⟨phys, m.ram, pt, IntervalMap.empty⟩ :=
    createUserPageTable_accounts hc hpt
  obtain ⟨hs, himg⟩ := Teardown.loadElf_accounts (fun segs hsegs => hlow elf segs hparse hsegs)
    _ img s h₀ hload
  exact ⟨s, hs, himg, rfl⟩

/-- Spawning a task and dropping it gives back the frame map of before the spawn, exactly: every
frame the spawn took (the L4 table, the tables `map_to` made, the frames of the segments and of
the stack) is met by the walk of `free_user_address_space` and freed, and no other address
changes type. -/
theorem spawn_then_drop_restores_frames (hc : m.phys.map.Canonical)
    (hlow : ∀ elf segments, parse elfBytes = some elf → elf.segments = some segments →
      ∀ a, segmentsRegion segments a → a < 2 ^ 47)
    (h : createUserTaskFromElfBytes parse kernel elfBytes childArg m = .ok img m') :
    freeUserAddressSpace img.pageTable m'.phys = m.phys := by
  obtain ⟨s, hs, hpt, hphys⟩ := createUserTaskFromElfBytes_accounts hc hlow h
  rw [hpt, hphys]
  exact Paging.Accounts.freeUserAddressSpace_eq hc hs

theorem spawn_then_drop_restores_frames_sample :
    ∃ img m', createUserTaskFromElfBytes ElfFile.minimalParse emptyKernel bssImage 0
        sampleMachine = .ok img m' ∧ m'.phys ≠ sampleMachine.phys ∧
      freeUserAddressSpace img.pageTable m'.phys = sampleMachine.phys := by
  obtain ⟨img, m', h, hne⟩ := Outcome.exists_of_okAnd
    (o := createUserTaskFromElfBytes ElfFile.minimalParse emptyKernel bssImage 0 sampleMachine)
    (P := fun _ m' => m'.phys ≠ sampleMachine.phys) (by decide +kernel)
  refine ⟨img, m', h, hne, spawn_then_drop_restores_frames (by decide)
    (fun elf segs hparse hsegs a ha => ?_) h⟩
  -- the one segment of `bssImage` is the page `0x1000`
  rw [show bssImage = execBytes 0x1800 [bssSegment] [] from rfl,
    minimalParse_execBytes (by decide)] at hparse
  cases hparse
  cases hsegs
  obtain ⟨seg, hseg, -, -, h₂⟩ := ha
  rw [List.mem_singleton] at hseg
  subst hseg
  have hend : segmentStart bssSegment + segmentPageCount bssSegment * pageSize ≤ 2 ^ 47 := by
    decide
  omega

end Spawn

end Bos
