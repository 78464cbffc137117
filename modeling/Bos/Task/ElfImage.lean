import Bos.Task.UserTaskFromElf

/-!
# Bos.Task.ElfImage

What a successful `create_user_task_from_elf_bytes` leaves behind, over whole runs.

The source counts the pages of a `PT_LOAD` segment as `file_pages_len`, from `p_vaddr / 4096`,
plus `extra_pages_len`, from `ceil((p_vaddr + p_filesz) / 4096)` (`segmentPageCount`), and maps
them from the page of `p_vaddr` on (`segmentRegion`). `loadSegment_ok` says that a segment maps
exactly these pages, each to a fresh frame holding the segment's bytes (`segmentByte`), and
records exactly this region in the address set; `mapUserStack_ok` says the same of the stack,
whose frames keep the bytes they had. `createUserTaskFromElfBytes_ok` puts the segments and
the stack together for a whole spawn.

The samples spawn from the bytes of little-endian `ELF64` executables (`execBytes`), read by the
model of `minimal_parse` (`minimalParse_execBytes`).
-/

namespace Bos

/-- `file_pages_len + extra_pages_len` of a `PT_LOAD` segment as the source computes them. -/
def segmentPageCount (seg : ProgramHeader) : Nat :=
  (if 0 < seg.pFilesz.toNat then
    divCeil (seg.pVaddr.toNat + seg.pFilesz.toNat) pageSize - seg.pVaddr.toNat / pageSize else 0) +
  (if seg.pFilesz.toNat < seg.pMemsz.toNat then
    divCeil (seg.pVaddr.toNat + seg.pMemsz.toNat) pageSize -
      divCeil (seg.pVaddr.toNat + seg.pFilesz.toNat) pageSize else 0)

/-- The start of the page of `p_vaddr`. -/
def segmentStart (seg : ProgramHeader) : Nat := seg.pVaddr.toNat / pageSize * pageSize

/-- The addresses the loader maps for a `PT_LOAD` segment. -/
def segmentRegion (seg : ProgramHeader) (a : Nat) : Prop :=
  segmentStart seg ≤ a ∧ a < segmentStart seg + segmentPageCount seg * pageSize

instance (seg : ProgramHeader) : DecidablePred (segmentRegion seg) :=
  fun _ => inferInstanceAs (Decidable (_ ∧ _))

/-- A segment with an address in its region has pages. -/
theorem segmentPageCount_pos {seg : ProgramHeader} {a : Nat} (ha : segmentRegion seg a) :
    0 < segmentPageCount seg := by
  rcases Nat.eq_zero_or_pos (segmentPageCount seg) with h0 | h0
  · unfold segmentRegion at ha
    rw [h0, Nat.zero_mul, Nat.add_zero] at ha
    omega
  · exact h0

/-- `stack_start_vaddr`. -/
def userStackStart : Nat := userStackTop - userStackPages * pageSize

def stackRegion (a : Nat) : Prop := userStackStart ≤ a ∧ a < userStackTop

instance : DecidablePred stackRegion := fun _ => inferInstanceAs (Decidable (_ ∧ _))

/-- The addresses of the `PT_LOAD` segments among `segments`. -/
def segmentsRegion (segments : List ProgramHeader) (a : Nat) : Prop :=
  ∃ seg ∈ segments, seg.pType = 1 ∧ segmentRegion seg a

instance (segments : List ProgramHeader) : DecidablePred (segmentsRegion segments) :=
  fun _ => inferInstanceAs (Decidable (∃ seg ∈ segments, _))

/-- Everything a load of these program headers maps: its segments and the stack. -/
def imageRegion (segments : List ProgramHeader) (a : Nat) : Prop :=
  segmentsRegion segments a ∨ stackRegion a

instance (segments : List ProgramHeader) : DecidablePred (imageRegion segments) :=
  fun _ => inferInstanceAs (Decidable (_ ∨ _))

section Loops

variable {s₀ s' : LoadState}

/-- A page loop whose every iteration `i` maps page `base + i`, fresh, with `flags` and
`content`, maps all its pages, over the region `base + i * 4096`, `i < n`. -/
theorem forRange_loads {n : Nat} {body : Nat → Kern LoadState SpawnError Unit} {base : Page}
    {flags : PageTableFlags} {content : Page → PhysFrame → Nat → UInt8}
    (hbody : ∀ i s s', Progress (fun a => ∃ j < i, a = base.start.addr + j * pageSize) s₀ s →
      body i s = .ok () s' → ∃ page, base.add i = .ok page ∧ Progress (· = page.start.addr) s s' ∧
        s.pt.leaf page = none ∧ Loaded s' page flags (content page))
    (h : Kern.forRange n body s₀ = .ok () s') :
    Progress (fun a => ∃ i < n, a = base.start.addr + i * pageSize) s₀ s' ∧
      ∀ i < n, ∃ page, base.add i = .ok page ∧ s₀.pt.leaf page = none ∧
        Loaded s' page flags (content page) := by
  -- the invariant: the pages of the iterations done are loaded, and were unused at the start
  refine Kern.forRange_ok_induction n body
    (fun i s => Progress (fun a => ∃ j < i, a = base.start.addr + j * pageSize) s₀ s ∧
      ∀ j < i, ∃ page, base.add j = .ok page ∧ s₀.pt.leaf page = none ∧
        Loaded s page flags (content page))
    (fun i s s' hinv hi => ?_) ⟨.refl _ _, fun j hj => absurd hj (Nat.not_lt_zero _)⟩ h
  obtain ⟨page, hadd, hprog, hfresh, hl⟩ := hbody i s s' hinv.1 hi
  have hpage := (Page.add_eq_ok.mp hadd).2.2
  refine ⟨(hinv.1.trans hprog).mono fun a ha => ?_, fun j hj => ?_⟩
  · rcases ha with ⟨j, hj, rfl⟩ | rfl
    · exact ⟨j, by omega, rfl⟩
    · exact ⟨i, by omega, hpage⟩
  · rcases Nat.lt_succ_iff_lt_or_eq.mp hj with hj | rfl
    · obtain ⟨p, hp, hp₀, hlp⟩ := hinv.2 j hj
      exact ⟨p, hp, hp₀, hlp.progress hprog⟩
    · refine ⟨page, hadd, ?_, hl⟩
      cases h₀ : s₀.pt.leaf page with
      | none => rfl
      | some e => rw [hinv.1.leafKept page e h₀] at hfresh; cases hfresh

theorem filePagesLen_ok {v f n : Nat} (h : filePagesLen v f s₀ = .ok n s') :
    s₀ = s' ∧ n = (if 0 < f then divCeil (v + f) pageSize - v / pageSize else 0) ∧
      (0 < f → v + f < 2 ^ 64) := by
  unfold filePagesLen at h
  split at h
  · rename_i hf
    rw [Kern.bind_ok_iff] at h
    obtain ⟨e, s₁, h₁, h⟩ := h
    obtain ⟨hlt, rfl, rfl⟩ := Kern.addU64_ok h₁
    obtain ⟨-, rfl, rfl⟩ := Kern.subU64_ok h
    exact ⟨rfl, by rw [if_pos hf], fun _ => hlt⟩
  · rename_i hf
    cases h
    exact ⟨rfl, by rw [if_neg hf], fun h => absurd h hf⟩

/-- The BSS part maps its `extra_pages_len` pages after the `n_file` file pages, zeroed. -/
theorem loadBss_ok {seg : ProgramHeader} {startPage : Page} {nFile nExtra : Nat}
    {flags : PageTableFlags} (h : loadBss seg startPage nFile flags s₀ = .ok nExtra s') :
    nExtra = (if seg.pFilesz.toNat < seg.pMemsz.toNat then
        divCeil (seg.pVaddr.toNat + seg.pMemsz.toNat) pageSize -
          divCeil (seg.pVaddr.toNat + seg.pFilesz.toNat) pageSize else 0) ∧
      Progress (fun a => ∃ i < nExtra, a = startPage.start.addr + (nFile + i) * pageSize) s₀ s' ∧
      ∀ i < nExtra, ∃ page, page.start.addr = startPage.start.addr + (nFile + i) * pageSize ∧
        Loaded s' page flags fun _ _ => 0 := by
  unfold loadBss at h
  split at h
  · rename_i hm
    rw [Kern.bind_ok_iff] at h
    obtain ⟨memEnd, s₁, h₁, h⟩ := h
    obtain ⟨-, rfl, rfl⟩ := Kern.addU64_ok h₁
    rw [Kern.bind_ok_iff] at h
    obtain ⟨fileEnd, s₂, h₂, h⟩ := h
    obtain ⟨-, rfl, rfl⟩ := Kern.addU64_ok h₂
    rw [Kern.bind_ok_iff] at h
    obtain ⟨extra, s₃, h₃, h⟩ := h
    obtain ⟨-, rfl, rfl⟩ := Kern.subU64_ok h₃
    rw [Kern.bind_ok_iff] at h
    obtain ⟨bssStart, s₄, h₄, h⟩ := h
    obtain ⟨hbss, rfl⟩ := Kern.ofExcept_ok_iff.mp h₄
    rw [Kern.bind_ok_iff] at h
    obtain ⟨_, s₅, h₅, h⟩ := h
    cases h
    have hstart := (Page.add_eq_ok.mp hbss).2.2
    obtain ⟨hprog, hpages⟩ := forRange_loads (fun i s s' _ hi => loadBssPage_ok hi) h₅
    have haddr : ∀ i, bssStart.start.addr + i * pageSize =
        startPage.start.addr + (nFile + i) * pageSize := fun i => by
      rw [hstart, Nat.add_mul, Nat.add_assoc]
    refine ⟨by rw [if_pos hm], hprog.mono fun a ⟨i, hi, ha⟩ => ⟨i, hi, by rw [ha, haddr]⟩,
      fun i hi => ?_⟩
    obtain ⟨page, hadd, -, hl⟩ := hpages i hi
    exact ⟨page, by rw [(Page.add_eq_ok.mp hadd).2.2, haddr], hl⟩
  · rename_i hm
    cases h
    exact ⟨by rw [if_neg hm], .refl _ _, fun i hi => absurd hi (Nat.not_lt_zero _)⟩

/-- A segment that is not `PT_LOAD` is skipped. -/
theorem loadSegment_skip {elfBytes : List UInt8} {seg : ProgramHeader} (h : seg.pType ≠ 1) :
    loadSegment elfBytes seg = pure () := by
  unfold loadSegment
  rw [if_pos h]

/-- A `PT_LOAD` segment whose file range lies in the image but whose `p_vaddr` is not canonical
panics in `VirtAddr::new`. -/
theorem loadSegment_panic_of_not_canonical {elfBytes : List UInt8} {seg : ProgramHeader}
    {s : LoadState} (hload : seg.pType = 1)
    (hfile : seg.pOffset.toNat + seg.pFilesz.toNat ≤ elfBytes.length)
    (hlen : elfBytes.length < 2 ^ 64) (hnc : ¬ IsCanonical seg.pVaddr.toNat) :
    loadSegment elfBytes seg s =
      .panic "address passed to VirtAddr::new must not contain any data in bits 48 to 64" := by
  unfold loadSegment
  rw [if_neg (not_not.mpr hload), Kern.bind_panic_iff]
  refine .inr ⟨_, s, by rw [Kern.addU64_of_lt (by omega)]; rfl, ?_⟩
  -- the bounds check passes, and the first fallible step after it is `VirtAddr::new(p_vaddr)`
  rw [if_neg (by omega), Kern.bind_panic_iff, VirtAddr.new_of_not_canonical hnc]
  exact .inl rfl

/-- The segment loop panics in its first iteration when that segment is a `PT_LOAD` one at a
non-canonical `p_vaddr`. -/
theorem loadElf_panic_of_not_canonical {elfBytes : List UInt8} {elf : ElfFile} {seg : ProgramHeader}
    {rest : List ProgramHeader} {childArg : Nat} {s : LoadState}
    (hsegs : elf.segments = some (seg :: rest)) (hload : seg.pType = 1)
    (hfile : seg.pOffset.toNat + seg.pFilesz.toNat ≤ elfBytes.length)
    (hlen : elfBytes.length < 2 ^ 64) (hnc : ¬ IsCanonical seg.pVaddr.toNat) :
    loadElf elfBytes elf childArg s =
      .panic "address passed to VirtAddr::new must not contain any data in bits 48 to 64" := by
  have hcons : (seg :: rest).forM (loadSegment elfBytes) =
      (loadSegment elfBytes seg >>= fun _ => rest.forM (loadSegment elfBytes)) := rfl
  unfold loadElf
  rw [hsegs, Kern.bind_panic_iff]
  refine .inr ⟨_, _, rfl, ?_⟩
  rw [Kern.bind_panic_iff, hcons, Kern.bind_panic_iff]
  exact .inl (.inl (loadSegment_panic_of_not_canonical hload hfile hlen hnc))

/-- A `PT_LOAD` segment maps its `segmentPageCount` pages from the page of `p_vaddr` on, each to a
fresh frame holding the segment's bytes with the segment's flags, and records exactly that
region in the address set. -/
theorem loadSegment_ok {elfBytes : List UInt8} {seg : ProgramHeader} (hload : seg.pType = 1)
    (h : loadSegment elfBytes seg s₀ = .ok () s') :
    Progress (segmentRegion seg) s₀ s' ∧
      (∀ k < segmentPageCount seg, ∃ page, page.start.addr = segmentStart seg + k * pageSize ∧
        Loaded s' page (elfFlagsToPageTableFlags seg.pFlags)
          fun _ o => segmentByte elfBytes seg (page.start.addr + o)) ∧
      (0 < segmentPageCount seg → s'.vaddrSet.Covers (segmentStart seg)
        (segmentStart seg + segmentPageCount seg * pageSize)) := by
  unfold loadSegment at h
  rw [if_neg (by simpa using hload)] at h
  rw [Kern.bind_ok_iff] at h
  obtain ⟨fileEnd, s₁, h₁, h⟩ := h
  obtain ⟨-, rfl, rfl⟩ := Kern.addU64_ok h₁
  split at h
  · cases h
  rw [Kern.bind_ok_iff] at h
  obtain ⟨v, s₂, h₂, h⟩ := h
  obtain ⟨hv, rfl⟩ := Kern.ofExcept_ok_iff.mp h₂
  have hstart : (Page.containingAddress v).start.addr = segmentStart seg := by
    simp [Page.containingAddress, segmentStart, (VirtAddr.new_eq_ok.mp hv).2]
  rw [Kern.bind_ok_iff] at h
  obtain ⟨nFile, s₃, h₃, h⟩ := h
  obtain ⟨rfl, hnFile, -⟩ := filePagesLen_ok h₃
  rw [Kern.bind_ok_iff] at h
  obtain ⟨_, s₄, h₄, h⟩ := h
  obtain ⟨hprog₁, hfile⟩ := forRange_loads (fun i s s' _ hi => loadFilePage_ok hi) h₄
  rw [Kern.bind_ok_iff] at h
  obtain ⟨nExtra, s₅, h₅, h⟩ := h
  obtain ⟨hnExtra, hprog₂, hbss⟩ := loadBss_ok h₅
  rw [Kern.bind_ok_iff] at h
  obtain ⟨total, s₆, h₆, h⟩ := h
  obtain ⟨-, rfl, rfl⟩ := Kern.addU64_ok h₆
  have hcount : nFile + nExtra = segmentPageCount seg := by rw [hnFile, hnExtra]; rfl
  have hreg : ∀ a, segmentRegion seg a ↔ (Page.containingAddress v).start.addr ≤ a ∧
      a < (Page.containingAddress v).start.addr + (nFile + nExtra) * pageSize := fun a => by
    rw [hstart, hcount]; rfl
  -- the pages of both loops lie in the region
  have hprog₁₂ : Progress (segmentRegion seg) s₀ s₅ := (hprog₁.trans hprog₂).mono fun a ha => by
    rw [hreg]
    unfold pageSize at *
    rcases ha with ⟨i, hi, rfl⟩ | ⟨i, hi, rfl⟩ <;> omega
  -- the file pages hold file bytes; the BSS pages lie past them and hold zeros
  have hpages : ∀ k < segmentPageCount seg, ∃ page,
      page.start.addr = segmentStart seg + k * pageSize ∧
        Loaded s₅ page (elfFlagsToPageTableFlags seg.pFlags)
          fun _ o => segmentByte elfBytes seg (page.start.addr + o) := by
    intro k hk
    by_cases hkf : k < nFile
    · obtain ⟨page, hadd, -, hl⟩ := hfile k hkf
      exact ⟨page, by rw [(Page.add_eq_ok.mp hadd).2.2, hstart], hl.progress hprog₂⟩
    · obtain ⟨page, haddr, hl⟩ := hbss (k - nFile) (by omega)
      have hk' : nFile + (k - nFile) = k := by omega
      rw [hk'] at haddr
      refine ⟨page, by rw [haddr, hstart], hl.congr fun _ o ho => ?_⟩
      unfold segmentByte
      rw [if_neg]
      rw [haddr]
      unfold segmentStart divCeil pageSize at *
      split_ifs at hnFile <;> omega
  split at h
  · rw [Kern.bind_ok_iff] at h
    obtain ⟨size, s₇, h₇, h⟩ := h
    obtain ⟨-, rfl, rfl⟩ := Kern.mulU64_ok h₇
    rw [Kern.bind_ok_iff] at h
    obtain ⟨segEnd, s₈, h₈, h⟩ := h
    obtain ⟨-, rfl, rfl⟩ := Kern.addU64_ok h₈
    obtain ⟨-, -, hprog₃, hcov⟩ := insertUserVaddr_ok h
    refine ⟨(hprog₁₂.trans hprog₃).mono fun a ha => ha.elim id (hreg a).mpr, fun k hk => ?_,
      fun _ => by rwa [hstart, hcount] at hcov⟩
    obtain ⟨page, haddr, hl⟩ := hpages k hk
    exact ⟨page, haddr, hl.progress hprog₃⟩
  · rename_i hzero
    cases h
    have h0 : nFile + nExtra = 0 := by omega
    exact ⟨hprog₁₂, hpages, fun hpos => absurd hpos (by omega)⟩

theorem userStackTop_eq : userStackTop = 0x7FFFFFFFF000 := by decide

theorem userStackPages_eq : userStackPages = 16 := by decide

theorem userStackStart_eq : userStackStart = 0x7FFFFFFEF000 := by decide

/-- The stack maps its 16 pages to frames that were `Usable` and keeps their bytes, and records
its region in the address set. -/
theorem mapUserStack_ok (h : mapUserStack s₀ = .ok () s') :
    Progress stackRegion s₀ s' ∧
      (∀ j < userStackPages, ∃ page, page.start.addr = userStackStart + j * pageSize ∧
        s₀.pt.leaf page = none ∧ Loaded s' page stackFlags fun f o => s₀.ram (f.start + o)) ∧
      s'.vaddrSet.Covers userStackStart userStackTop := by
  unfold mapUserStack at h
  rw [Kern.bind_ok_iff] at h
  obtain ⟨size, s₁, h₁, h⟩ := h
  obtain ⟨-, rfl, rfl⟩ := Kern.mulU64_ok h₁
  rw [Kern.bind_ok_iff] at h
  obtain ⟨stackStart, s₂, h₂, h⟩ := h
  obtain ⟨-, rfl, rfl⟩ := Kern.subU64_ok h₂
  rw [Kern.bind_ok_iff] at h
  obtain ⟨v, s₃, h₃, h⟩ := h
  obtain ⟨hv, rfl⟩ := Kern.ofExcept_ok_iff.mp h₃
  have hstart : (Page.containingAddress v).start.addr = userStackStart := by
    show v.addr / pageSize * pageSize = userStackStart
    rw [(VirtAddr.new_eq_ok.mp hv).2]
    decide
  rw [Kern.bind_ok_iff] at h
  obtain ⟨_, s₄, h₄, h⟩ := h
  -- the loop writes no byte, so every stack frame holds what it held before the loop
  obtain ⟨hprog₁, hpages⟩ := forRange_loads (fun i s s' hpre hi => by
    obtain ⟨page, hadd, hprog, hfresh, -, frame, hleaf, hwalk, htype, hbytes⟩ := mapStackPage_ok hi
    have husable := hprog.usable_of_new hfresh hleaf
    refine ⟨page, hadd, hprog, hfresh, frame, hleaf, hwalk, htype, fun o ho => ?_⟩
    have hmem : frame.Mem (frame.start + o) := ⟨by omega, by omega⟩
    exact (hbytes o ho).trans (hpre.ram_eq_of_usable (husable _ hmem))) h₄
  rw [Kern.bind_ok_iff] at h
  obtain ⟨size', s₅, h₅, h⟩ := h
  obtain ⟨-, rfl, rfl⟩ := Kern.mulU64_ok h₅
  rw [Kern.bind_ok_iff] at h
  obtain ⟨stackEnd, s₆, h₆, h⟩ := h
  obtain ⟨-, rfl, rfl⟩ := Kern.addU64_ok h₆
  obtain ⟨-, -, hprog₂, hcov⟩ := insertUserVaddr_ok h
  have hreg : ∀ a, stackRegion a ↔ userStackTop - userStackPages * pageSize ≤ a ∧
      a < userStackTop - userStackPages * pageSize + userStackPages * pageSize := fun a => by
    unfold stackRegion userStackStart
    rw [Nat.sub_add_cancel (by decide)]
  have hend : userStackTop - userStackPages * pageSize + userStackPages * pageSize = userStackTop :=
    Nat.sub_add_cancel (by decide)
  refine ⟨(hprog₁.trans hprog₂).mono fun a ha => ?_, fun j hj => ?_, by rwa [hend] at hcov⟩
  · rcases ha with ⟨i, hi, rfl⟩ | ha
    · unfold stackRegion
      rw [hstart, userStackStart_eq, userStackTop_eq]
      rw [userStackPages_eq] at hi
      unfold pageSize
      omega
    · exact (hreg a).mpr ha
  · obtain ⟨page, hadd, hfresh, hl⟩ := hpages j hj
    exact ⟨page, by rw [(Page.add_eq_ok.mp hadd).2.2, hstart], hfresh, hl.progress hprog₂⟩

/-- After the segments `done`, starting from `s₀`: their regions are loaded and recorded, and
nothing outside them changed. -/
def SegmentsLoaded (elfBytes : List UInt8) (s₀ : LoadState) (done : List ProgramHeader)
    (s : LoadState) : Prop :=
  Progress (segmentsRegion done) s₀ s ∧
    (∀ seg ∈ done, seg.pType = 1 → ∀ k < segmentPageCount seg, ∃ page,
      page.start.addr = segmentStart seg + k * pageSize ∧
        Loaded s page (elfFlagsToPageTableFlags seg.pFlags)
          fun _ o => segmentByte elfBytes seg (page.start.addr + o)) ∧
    ∀ seg ∈ done, seg.pType = 1 → 0 < segmentPageCount seg →
      s.vaddrSet.Covers (segmentStart seg) (segmentStart seg + segmentPageCount seg * pageSize)

theorem segmentsRegion_append (done : List ProgramHeader) (x : ProgramHeader) (a : Nat) :
    segmentsRegion (done ++ [x]) a ↔ segmentsRegion done a ∨ (x.pType = 1 ∧ segmentRegion x a) := by
  simp [segmentsRegion, or_and_right, exists_or]

/-- One iteration of the segment loop. -/
theorem segmentsLoaded_step {elfBytes : List UInt8} {done : List ProgramHeader} {x : ProgramHeader}
    {s : LoadState} (hinv : SegmentsLoaded elfBytes s₀ done s)
    (h : loadSegment elfBytes x s = .ok () s') : SegmentsLoaded elfBytes s₀ (done ++ [x]) s' := by
  obtain ⟨hprog, hpages, hvs⟩ := hinv
  by_cases hx : x.pType = 1
  · obtain ⟨hprog', hpages', hvs'⟩ := loadSegment_ok hx h
    refine ⟨(hprog.trans hprog').mono fun a ha =>
        (segmentsRegion_append done x a).mpr (ha.imp id fun h => ⟨hx, h⟩),
      fun seg hseg hl k hk => ?_, fun seg hseg hl hpos => ?_⟩
    · rcases List.mem_append.mp hseg with hseg | hseg
      · obtain ⟨page, haddr, hlp⟩ := hpages seg hseg hl k hk
        exact ⟨page, haddr, hlp.progress hprog'⟩
      · rw [List.mem_singleton] at hseg
        subst hseg
        exact hpages' k hk
    · rcases List.mem_append.mp hseg with hseg | hseg
      · exact hprog'.covers _ _ (hvs seg hseg hl hpos)
      · rw [List.mem_singleton] at hseg
        subst hseg
        exact hvs' hpos
  · rw [loadSegment_skip hx, Kern.pure_apply] at h
    cases h
    refine ⟨hprog.mono fun a ha => (segmentsRegion_append done x a).mpr (.inl ha),
      fun seg hseg hl => ?_, fun seg hseg hl => ?_⟩
    · rcases List.mem_append.mp hseg with hseg | hseg
      · exact hpages seg hseg hl
      · rw [List.mem_singleton] at hseg
        subst hseg
        exact absurd hl hx
    · rcases List.mem_append.mp hseg with hseg | hseg
      · exact hvs seg hseg hl
      · rw [List.mem_singleton] at hseg
        subst hseg
        exact absurd hl hx

theorem loadSegments_ok {elfBytes : List UInt8} {segments : List ProgramHeader}
    (h : segments.forM (loadSegment elfBytes) s₀ = .ok () s') :
    SegmentsLoaded elfBytes s₀ segments s' := by
  have := Kern.forM_ok_induction (loadSegment elfBytes) (SegmentsLoaded elfBytes s₀)
    (fun _ _ _ _ hinv hx => segmentsLoaded_step hinv hx) segments [] s₀ s'
    ⟨.refl _ _, fun seg hseg => absurd hseg List.not_mem_nil,
      fun seg hseg => absurd hseg List.not_mem_nil⟩ h
  simpa using this

/-- A successful load: the segments are loaded, then the stack, from the state after the
segments. -/
theorem loadElf_ok {elfBytes : List UInt8} {elf : ElfFile} {childArg : Nat} {img : UserImage}
    (h : loadElf elfBytes elf childArg s₀ = .ok img s') :
    ∃ segments s₁, elf.segments = some segments ∧ elf.entry.toNat ≠ 0 ∧
      img = ⟨elf.entry.toNat, userStackTop, s'.pt, s'.vaddrSet, childArg⟩ ∧
      SegmentsLoaded elfBytes s₀ segments s₁ ∧ Progress stackRegion s₁ s' ∧
      (∀ j < userStackPages, ∃ page, page.start.addr = userStackStart + j * pageSize ∧
        s₁.pt.leaf page = none ∧ Loaded s' page stackFlags fun f o => s₁.ram (f.start + o)) ∧
      s'.vaddrSet.Covers userStackStart userStackTop := by
  unfold loadElf at h
  rw [Kern.bind_ok_iff] at h
  obtain ⟨segments, s₁, h₁, h⟩ := h
  obtain ⟨hsegs, rfl⟩ := Kern.okOr_ok_iff.mp h₁
  rw [Kern.bind_ok_iff] at h
  obtain ⟨_, s₂, h₂, h⟩ := h
  have hloaded := loadSegments_ok h₂
  rw [Kern.bind_ok_iff] at h
  obtain ⟨entry, s₃, h₃, h⟩ := h
  obtain ⟨hentry, rfl⟩ := Kern.okOr_ok_iff.mp h₃
  have hne : elf.entry.toNat ≠ 0 := fun h0 => by simp [h0] at hentry
  have hentry' : entry = elf.entry.toNat := by simp [hne] at hentry; exact hentry.symm
  rw [Kern.bind_ok_iff] at h
  obtain ⟨_, s₄, h₄, h⟩ := h
  obtain ⟨hprog, hstack, hcov⟩ := mapUserStack_ok h₄
  rw [Kern.bind_ok_iff] at h
  obtain ⟨s₅, s₆, h₅, h⟩ := h
  rw [Kern.get_apply] at h₅
  cases h₅
  rw [Kern.pure_apply] at h
  cases h
  exact ⟨segments, s₂, hsegs, hne, by rw [hentry'], hloaded, hprog, hstack, hcov⟩

end Loops

/-! ## Whole spawns -/

/-- The task's view of memory after a spawn: its page table and address set over the machine. -/
def UserImage.loadState (img : UserImage) (m : Machine) : LoadState :=
  ⟨m.phys, m.ram, img.pageTable, img.vaddrSet⟩

section Spawn

variable {parse : List UInt8 → Option ElfFile} {kernel : PageTable} {elfBytes : List UInt8}
  {childArg : Nat} {m m' : Machine} {img : UserImage}

theorem createUserTaskFromElfBytes_ok
    (h : createUserTaskFromElfBytes parse kernel elfBytes childArg m = .ok img m') :
    ∃ elf pt phys s', parse elfBytes = some elf ∧ createUserPageTable kernel m.phys = .ok (pt, phys) ∧
      loadElf elfBytes elf childArg ⟨phys, m.ram, pt, IntervalMap.empty⟩ = .ok img s' ∧
      m' = ⟨s'.phys, s'.ram⟩ := by
  unfold createUserTaskFromElfBytes at h
  split at h
  · cases h
  · rename_i elf hparse
    split at h
    · cases h
    · rename_i pt phys hpt
      obtain ⟨s', hs', rfl⟩ := Kern.zoom_ok_iff.mp h
      exact ⟨elf, pt, phys, s', hparse, hpt, hs', rfl⟩

/-- A successful spawn, as the states it goes through: a fresh table `s₀`, the segments loaded
in `s₁`, the stack in `s'`. -/
theorem spawn_run (h : createUserTaskFromElfBytes parse kernel elfBytes childArg m = .ok img m') :
    ∃ elf segments s₀ s₁ s', parse elfBytes = some elf ∧ elf.segments = some segments ∧
      img = ⟨elf.entry.toNat, userStackTop, s'.pt, s'.vaddrSet, childArg⟩ ∧ elf.entry.toNat ≠ 0 ∧
      m' = ⟨s'.phys, s'.ram⟩ ∧ s₀.ram = m.ram ∧ s₀.vaddrSet = IntervalMap.empty ∧
      PhysicalMemory.OnlyAllocates .usedByUserMode m.phys s₀.phys ∧
      (∀ q : Page, q.start.addr < 2 ^ 47 → s₀.pt.leaf q = none) ∧
      SegmentsLoaded elfBytes s₀ segments s₁ ∧ Progress stackRegion s₁ s' ∧
      (∀ j < userStackPages, ∃ page, page.start.addr = userStackStart + j * pageSize ∧
        s₁.pt.leaf page = none ∧ Loaded s' page stackFlags fun f o => s₁.ram (f.start + o)) ∧
      s'.vaddrSet.Covers userStackStart userStackTop := by
  obtain ⟨elf, pt, phys, s', hparse, hpt, hload, rfl⟩ := createUserTaskFromElfBytes_ok h
  obtain ⟨hphys, hlower⟩ := createUserPageTable_spec hpt
  obtain ⟨segments, s₁, hsegs, hne, rfl, hloaded, hprog, hstack, hcov⟩ := loadElf_ok hload
  exact ⟨elf, segments, _, s₁, s', hparse, hsegs, rfl, hne, rfl, rfl, rfl, hphys, hlower, hloaded,
    hprog, hstack, hcov⟩

/-- The address set of a spawned task is exactly the region of its `PT_LOAD` segments and stack. -/
theorem spawn_vaddrSet (h : createUserTaskFromElfBytes parse kernel elfBytes childArg m = .ok img m') :
    ∃ elf segments, parse elfBytes = some elf ∧ elf.segments = some segments ∧
      ∀ a, img.vaddrSet.Mem a ↔ imageRegion segments a := by
  obtain ⟨elf, segments, s₀, s₁, s', hparse, hsegs, rfl, -, -, -, hvs₀, -, -, ⟨hprog₁, -, hcov₁⟩,
    hprog₂, -, hcov₂⟩ := spawn_run h
  refine ⟨elf, segments, hparse, hsegs, fun a => ⟨fun ha => ?_, fun ha => ?_⟩⟩
  · -- the set starts empty and grows only by the regions
    have hempty : ¬ s₀.vaddrSet.Mem a := by simp [hvs₀, VaddrSet.Mem]
    rcases (hprog₁.trans hprog₂).vaddrNew a ha with h | h
    · exact absurd h hempty
    · exact h
  · rcases ha with ⟨seg, hseg, hl, h₁, h₂⟩ | ⟨h₁, h₂⟩
    · exact VaddrSet.mem_of_covers
        (hprog₂.covers _ _ (hcov₁ seg hseg hl (segmentPageCount_pos ⟨h₁, h₂⟩))) h₁ h₂
    · exact VaddrSet.mem_of_covers hcov₂ h₁ h₂

/-- In the lower half, a spawned task maps nothing outside its image region. -/
theorem spawn_leaf_outside (h : createUserTaskFromElfBytes parse kernel elfBytes childArg m = .ok img m') :
    ∃ elf segments, parse elfBytes = some elf ∧ elf.segments = some segments ∧
      ∀ q : Page, q.start.addr < 2 ^ 47 → ¬ imageRegion segments q.start.addr →
        img.pageTable.leaf q = none := by
  obtain ⟨elf, segments, s₀, s₁, s', hparse, hsegs, rfl, -, -, -, -, -, hlower, ⟨hprog₁, -, -⟩,
    hprog₂, -, -⟩ := spawn_run h
  exact ⟨elf, segments, hparse, hsegs, fun q hq hout =>
    ((hprog₁.trans hprog₂).leafOther q hout).trans (hlower q hq)⟩

/-- Each page of a `PT_LOAD` segment of a spawned task is mapped with the segment's flags to a
user-mode frame holding the segment's bytes. -/
theorem spawn_segment_pages
    (h : createUserTaskFromElfBytes parse kernel elfBytes childArg m = .ok img m') :
    ∃ elf segments, parse elfBytes = some elf ∧ elf.segments = some segments ∧
      ∀ seg ∈ segments, seg.pType = 1 → ∀ k < segmentPageCount seg, ∃ page,
        page.start.addr = segmentStart seg + k * pageSize ∧
          Loaded (img.loadState m') page (elfFlagsToPageTableFlags seg.pFlags)
            fun _ o => segmentByte elfBytes seg (page.start.addr + o) := by
  obtain ⟨elf, segments, s₀, s₁, s', hparse, hsegs, rfl, -, rfl, -, -, -, -, ⟨-, hpages, -⟩,
    hprog₂, -, -⟩ := spawn_run h
  refine ⟨elf, segments, hparse, hsegs, fun seg hseg hl k hk => ?_⟩
  obtain ⟨page, haddr, hlp⟩ := hpages seg hseg hl k hk
  exact ⟨page, haddr, hlp.progress hprog₂⟩

/-- One interval of a spawned task's address set covers each nonempty `PT_LOAD` segment, and one
covers the stack. -/
theorem spawn_covers (h : createUserTaskFromElfBytes parse kernel elfBytes childArg m = .ok img m') :
    ∃ elf segments, parse elfBytes = some elf ∧ elf.segments = some segments ∧
      (∀ seg ∈ segments, seg.pType = 1 → 0 < segmentPageCount seg → img.vaddrSet.Covers
        (segmentStart seg) (segmentStart seg + segmentPageCount seg * pageSize)) ∧
      img.vaddrSet.Covers userStackStart userStackTop := by
  obtain ⟨elf, segments, s₀, s₁, s', hparse, hsegs, rfl, -, -, -, -, -, -, ⟨-, -, hcov₁⟩,
    hprog₂, -, hcov₂⟩ := spawn_run h
  exact ⟨elf, segments, hparse, hsegs,
    fun seg hseg hl hpos => hprog₂.covers _ _ (hcov₁ seg hseg hl hpos), hcov₂⟩

/-- The program header a linker writes for a segment: `p_paddr = p_vaddr`, 4 KiB alignment. -/
def ProgramHeader.toElf (p : ProgramHeader) : Elf.ProgramHeader :=
  ⟨p.pType, p.pFlags, p.pOffset, p.pVaddr, p.pVaddr, p.pFilesz, p.pMemsz, 0x1000⟩

@[simp] theorem ProgramHeader.ofElf_toElf (p : ProgramHeader) : ofElf p.toElf = p := rfl

/-- The file header of a little-endian `ELF64` x86-64 executable with entry point `entry`, `n`
program headers right after the header, and no section headers. -/
def execHeader (entry : UInt64) (n : Nat) : Elf.FileHeader :=
  { elfClass := .elf64, endianness := .little, version := 1, osabi := 0, abiversion := 0,
    eType := 2, eMachine := 62, eEntry := entry, ePhoff := 64, eShoff := 0, eFlags := 0,
    eEhsize := 64, ePhentsize := 56, ePhnum := UInt16.ofNat n, eShentsize := 64, eShnum := 0,
    eShstrndx := 0 }

/-- The bytes of such an executable with the segments `segs`, followed by `rest`. -/
def execBytes (entry : UInt64) (segs : List ProgramHeader) (rest : List UInt8) : List UInt8 :=
  Elf.image (execHeader entry segs.length) (segs.map ProgramHeader.toElf) rest

/-- `minimal_parse` gives the loader back the entry point and the segments of such a file. -/
theorem minimalParse_execBytes {segs : List ProgramHeader} (hn : segs.length < Elf.pnXnum)
    (entry : UInt64) (rest : List UInt8) :
    ElfFile.minimalParse (execBytes entry segs rest) = some ⟨entry, some segs⟩ := by
  have hd : (execHeader entry segs.length).Describes (segs.map ProgramHeader.toElf) := by
    unfold Elf.pnXnum at hn
    refine ⟨⟨Elf.Class.fits_elf64 _, Elf.Class.fits_elf64 _, Elf.Class.fits_elf64 _⟩,
      fun p _ => ⟨Elf.Class.fits_elf64 _, Elf.Class.fits_elf64 _, Elf.Class.fits_elf64 _,
        Elf.Class.fits_elf64 _, Elf.Class.fits_elf64 _, Elf.Class.fits_elf64 _⟩,
      rfl, rfl, ?_, by simpa [Elf.pnXnum] using hn, rfl⟩
    simp only [execHeader, List.length_map]
    exact UInt16.toNat_ofNat_of_lt' (Nat.lt_trans hn (by decide))
  have hsegs : (segs.map ProgramHeader.toElf).map ProgramHeader.ofElf = segs := by
    simp [List.map_map, Function.comp_def]
  rw [ElfFile.minimalParse, execBytes, Elf.minimalParse_image hd]
  simp only [Option.map_some, ElfFile.ofElfBytes, hsegs]
  rfl

/-- A machine whose frames `[0x100000, 0x1FFFFF]` are `Usable` and whose RAM holds `0xAA`
everywhere. -/
def sampleMachine : Machine :=
  ⟨⟨⟨[(⟨0x100000, 0x1FFFFF, by decide⟩, .usable)], List.pairwise_singleton _ _⟩⟩,
    fun _ => 0xAA⟩

/-- A kernel table with no entries. -/
def emptyKernel : PageTable := ⟨⟨0, Nat.zero_mod _⟩, fun _ _ => none⟩

/-- One BSS-only `PT_LOAD` segment of one page at the unaligned address `0x1800`. -/
def bssSegment : ProgramHeader := ⟨1, 6, 0, 0x1800, 0, 0x1000⟩

/-- An executable of that segment alone: its file is the two headers. -/
def bssImage : List UInt8 := execBytes 0x1800 [bssSegment] []

/-- The user stack of a spawned task is mapped to frames that were `Usable` before the spawn and
that still hold the bytes they had then: the loader never zeroes them. -/
theorem spawn_stack_keeps_stale_bytes
    (h : createUserTaskFromElfBytes parse kernel elfBytes childArg m = .ok img m') :
    ∀ j < userStackPages, ∃ page frame, page.start.addr = userStackStart + j * pageSize ∧
      img.pageTable.leaf page = some ⟨frame, stackFlags⟩ ∧
      ∀ x, frame.Mem x → m.phys.typeAt x = some .usable ∧ m'.ram x = m.ram x := by
  obtain ⟨elf, segments, s₀, s₁, s', -, -, rfl, -, rfl, hram₀, -, hphys, -, ⟨hprog₁, -, -⟩, hprog₂,
    hstack, -⟩ := spawn_run h
  intro j hj
  obtain ⟨page, haddr, hfresh, frame, hleaf, -, -, hbytes⟩ := hstack j hj
  -- the frame was still `Usable` when the stack loop began, so nothing wrote it before
  have husable₁ := hprog₂.usable_of_new hfresh hleaf
  refine ⟨page, frame, haddr, hleaf, fun x hx => ⟨?_, ?_⟩⟩
  · exact hphys.usable_of_usable (by decide) (hprog₁.usable (husable₁ x hx))
  · have hx' : x = frame.start + (x - frame.start) := by unfold PhysFrame.Mem at hx; omega
    calc s'.ram x = s₁.ram x := by
          rw [hx', hbytes _ (by unfold PhysFrame.Mem at hx; omega)]
      _ = s₀.ram x := hprog₁.ram_eq_of_usable (husable₁ x hx)
      _ = m.ram x := by rw [hram₀]

theorem spawn_stack_keeps_stale_bytes_sample :
    ∃ img m' page frame,
      createUserTaskFromElfBytes ElfFile.minimalParse emptyKernel bssImage 0 sampleMachine =
        .ok img m' ∧
      img.pageTable.leaf page = some ⟨frame, stackFlags⟩ ∧ m'.ram frame.start = 0xAA := by
  obtain ⟨img, m', h⟩ := Outcome.exists_of_isOk (by decide +kernel :
    (createUserTaskFromElfBytes ElfFile.minimalParse emptyKernel bssImage 0
      sampleMachine).isOk = true)
  obtain ⟨page, frame, -, hleaf, hframe⟩ := spawn_stack_keeps_stale_bytes h 0 (by decide)
  exact ⟨img, m', page, frame, h, hleaf,
    (hframe frame.start (by unfold PhysFrame.Mem pageSize; omega)).2⟩

/-- A `PT_LOAD` segment with file bytes and `p_vaddr` below `USER_MIN` gets page 0 mapped,
user-accessible, and recorded in the address set. -/
theorem spawn_maps_page_zero {elf : ElfFile} {segments : List ProgramHeader} {seg : ProgramHeader}
    (hparse : parse elfBytes = some elf) (hsegs : elf.segments = some segments)
    (hseg : seg ∈ segments) (hload : seg.pType = 1) (hv : seg.pVaddr.toNat < userMin)
    (hf : 0 < seg.pFilesz.toNat)
    (h : createUserTaskFromElfBytes parse kernel elfBytes childArg m = .ok img m') :
    img.vaddrSet.Mem 0 ∧ ∃ page e, page.start.addr = 0 ∧ img.pageTable.translate page = some e ∧
      e.flags.userAccessible = true := by
  have hstart : segmentStart seg = 0 := by
    unfold segmentStart pageSize; unfold userMin at hv; omega
  have hcount : 0 < segmentPageCount seg := by
    unfold segmentPageCount
    rw [if_pos hf]
    unfold divCeil pageSize; unfold userMin at hv; omega
  have hreg : imageRegion segments 0 := .inl ⟨seg, hseg, hload, by
    unfold segmentRegion; rw [hstart]; unfold pageSize; omega⟩
  obtain ⟨elf₁, segments₁, hparse₁, hsegs₁, hvs⟩ := spawn_vaddrSet h
  obtain ⟨elf₂, segments₂, hparse₂, hsegs₂, hpages⟩ := spawn_segment_pages h
  rw [hparse] at hparse₁ hparse₂
  cases hparse₁
  cases hparse₂
  rw [hsegs] at hsegs₁ hsegs₂
  cases hsegs₁
  cases hsegs₂
  obtain ⟨page, haddr, frame, hleaf, hwalk, -, -⟩ := hpages seg hseg hload 0 hcount
  refine ⟨(hvs 0).mpr hreg, page, ⟨frame, elfFlagsToPageTableFlags seg.pFlags⟩,
    by rw [haddr, hstart]; rfl, PageTable.translate_of_walkable hwalk hleaf rfl, rfl⟩

/-- Four file bytes, the first four of the file, at `p_vaddr = 0`. -/
def pageZeroSegment : ProgramHeader := ⟨1, 5, 0, 0, 4, 4⟩

def pageZeroImage : List UInt8 := execBytes 0x10 [pageZeroSegment] []

theorem spawn_maps_page_zero_sample :
    ∃ img m', createUserTaskFromElfBytes ElfFile.minimalParse emptyKernel pageZeroImage 0
        sampleMachine = .ok img m' ∧
      img.vaddrSet.Mem 0 ∧ ∃ page e, page.start.addr = 0 ∧ img.pageTable.translate page = some e ∧
        e.flags.userAccessible = true := by
  obtain ⟨img, m', h⟩ := Outcome.exists_of_isOk (by decide +kernel :
    (createUserTaskFromElfBytes ElfFile.minimalParse emptyKernel pageZeroImage 0
      sampleMachine).isOk = true)
  exact ⟨img, m', h, spawn_maps_page_zero (minimalParse_execBytes (by decide) _ _) rfl
    (List.mem_singleton_self _) rfl (by decide) (by decide) h⟩

/-- A BSS-only `PT_LOAD` segment at an unaligned `p_vaddr` loses its last page: the page holding
its last byte `p_vaddr + p_memsz - 1` is neither mapped nor in the address set. -/
theorem spawn_drops_last_bss_page {elf : ElfFile} {seg : ProgramHeader}
    (hparse : parse elfBytes = some elf) (hsegs : elf.segments = some [seg]) (hload : seg.pType = 1)
    (hf : seg.pFilesz.toNat = 0) (hv : seg.pVaddr.toNat % pageSize ≠ 0) (hm : 0 < seg.pMemsz.toNat)
    (hlow : seg.pVaddr.toNat + seg.pMemsz.toNat ≤ userStackStart)
    (h : createUserTaskFromElfBytes parse kernel elfBytes childArg m = .ok img m') :
    ¬ img.vaddrSet.Mem (seg.pVaddr.toNat + seg.pMemsz.toNat - 1) ∧
      ∀ page : Page, page.start.addr = (seg.pVaddr.toNat + seg.pMemsz.toNat - 1) / pageSize * pageSize →
        img.pageTable.translate page = none := by
  -- the segment's pages end at the page of the last byte, which they do not include
  have hcount : segmentStart seg + segmentPageCount seg * pageSize =
      (seg.pVaddr.toNat + seg.pMemsz.toNat - 1) / pageSize * pageSize := by
    unfold segmentStart segmentPageCount
    rw [if_neg (by omega), if_pos (by omega), hf]
    unfold divCeil pageSize at *
    omega
  have hout : ∀ a, (seg.pVaddr.toNat + seg.pMemsz.toNat - 1) / pageSize * pageSize ≤ a →
      a < userStackStart → ¬ imageRegion [seg] a := by
    intro a h₁ h₂ ha
    rcases ha with ⟨seg', hseg', -, h₃, h₄⟩ | ⟨h₃, -⟩
    · rw [List.mem_singleton] at hseg'
      subst hseg'
      omega
    · omega
  have hlast : (seg.pVaddr.toNat + seg.pMemsz.toNat - 1) / pageSize * pageSize ≤
      seg.pVaddr.toNat + seg.pMemsz.toNat - 1 := Nat.div_mul_le_self _ _
  obtain ⟨elf₁, segments₁, hparse₁, hsegs₁, hvs⟩ := spawn_vaddrSet h
  obtain ⟨elf₂, segments₂, hparse₂, hsegs₂, hleaf⟩ := spawn_leaf_outside h
  rw [hparse] at hparse₁ hparse₂
  cases hparse₁
  cases hparse₂
  rw [hsegs] at hsegs₁ hsegs₂
  cases hsegs₁
  cases hsegs₂
  refine ⟨fun hmem => hout _ hlast (by omega) ((hvs _).mp hmem), fun page hpage => ?_⟩
  have hnone := hleaf page (by rw [hpage, userStackStart_eq] at *; omega)
    (hout _ (Nat.le_of_eq hpage.symm) (by omega))
  cases ht : img.pageTable.translate page with
  | none => rfl
  | some e => rw [(PageTable.leaf_of_translate ht).1] at hnone; cases hnone

theorem spawn_drops_last_bss_page_sample :
    ∃ img m', createUserTaskFromElfBytes ElfFile.minimalParse emptyKernel bssImage 0
        sampleMachine = .ok img m' ∧
      ¬ img.vaddrSet.Mem 0x27FF ∧
      ∀ page : Page, page.start.addr = 0x2000 → img.pageTable.translate page = none := by
  obtain ⟨img, m', h⟩ := Outcome.exists_of_isOk (by decide +kernel :
    (createUserTaskFromElfBytes ElfFile.minimalParse emptyKernel bssImage 0
      sampleMachine).isOk = true)
  have hbss := spawn_drops_last_bss_page (minimalParse_execBytes (by decide) _ _) rfl rfl
    (by decide) (by decide) (by decide) (by decide) h
  exact ⟨img, m', h, hbss⟩

/-- A `PT_LOAD` segment at the first non-canonical address `0x800000000000`. -/
def highSegment : ProgramHeader := ⟨1, 5, 0, 0x800000000000, 0, 0x1000⟩

def highImage : List UInt8 := execBytes 0x10 [highSegment] []

/-- The first `PT_LOAD` segment, with its file range inside the image, panics the kernel when
its `p_vaddr` is not canonical. -/
theorem spawn_panics_on_noncanonical_vaddr {elf : ElfFile} {seg : ProgramHeader}
    {rest : List ProgramHeader} (hparse : parse elfBytes = some elf)
    (hsegs : elf.segments = some (seg :: rest)) (hload : seg.pType = 1)
    (hfile : seg.pOffset.toNat + seg.pFilesz.toNat ≤ elfBytes.length)
    (hlen : elfBytes.length ≤ 64 * 1024 * 1024) (hnc : ¬ IsCanonical seg.pVaddr.toNat) :
    ∃ msg, createUserTaskFromElfBytes parse kernel elfBytes childArg m = .panic msg := by
  unfold createUserTaskFromElfBytes
  split
  · rename_i hnone
    rw [hparse] at hnone
    cases hnone
  rename_i elf' hparse'
  rw [hparse] at hparse'
  cases hparse'
  split
  · exact ⟨_, rfl⟩
  · exact ⟨_, Kern.zoom_panic_iff.mpr
      (loadElf_panic_of_not_canonical hsegs hload hfile (by omega) hnc)⟩

theorem spawn_panics_on_noncanonical_vaddr_sample :
    ∃ msg, createUserTaskFromElfBytes ElfFile.minimalParse emptyKernel highImage 0
      sampleMachine = .panic msg :=
  spawn_panics_on_noncanonical_vaddr (minimalParse_execBytes (by decide) _ _) rfl rfl
    (by decide +kernel) (by decide +kernel) (by decide)

end Spawn

end Bos
