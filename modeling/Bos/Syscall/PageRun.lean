import Bos.Syscall.Memory

/-!
# Bos.Syscall.PageRun

The loops that map a run of pages into a task and take them back out: the loops of `sys_mmap`,
`create_shared_buf` and `map_shared_buf`, the rollback loops of their failure paths, and the loop
of `sys_munmap`. They all work page by page on `start + i * 4096`, and what they have done so far
is a window `[lo, hi)` of mapped pages (`MapRun`):

* a mapping step adds the page at `hi` (`MapRun.map_ok`), a failed one adds nothing
  (`MapRun.map_err`), and an unmapping step takes the page at `lo` out, freeing its frame when
  the loop frees frames (`MapRun.unmap`);
* the rollback and unmapping loops run through the whole window and empty it
  (`MapRun.unmap_all`), and an empty window is the state the run started from, up to new
  page-table frames (`MapRun.leaf_eq`, `MapRun.typeAt_eq`);
* the failure path of a mapping loop, the rollback loop followed by the release of the range,
  gives back the state before the range was taken (`MapRun.unwind`, `LoadState.Reverted`).

With `release = some ty` the frames of the window were taken `Usable` as `ty` and are freed as
`ty`; with `release = none` (the frames of a shared buffer mapped into another task) they are
neither counted nor freed.
-/

namespace Bos

open Kern

/-! ## The pages of a run -/

/-- The page `start + i * 4096`, for an aligned `start` with the page in the lower half. -/
theorem bufPage_ok {start i : Nat} (hal : start % pageSize = 0)
    (hlt : start + i * pageSize < 2 ^ 47) :
    ∃ p : Page, p.start.addr = start + i * pageSize ∧ ∀ s, bufPage start i s = .ok p s := by
  have hmul : i * pageSize < 2 ^ 64 := by omega
  have hadd : start + i * pageSize < 2 ^ 64 := by omega
  have hv : VirtAddr.new (start + i * pageSize) = .ok ⟨start + i * pageSize, .inl hlt⟩ :=
    VirtAddr.new_eq_ok.mpr ⟨.inl hlt, rfl⟩
  refine ⟨Page.containingAddress ⟨start + i * pageSize, .inl hlt⟩, ?_, fun s => ?_⟩
  · show (start + i * pageSize) / pageSize * pageSize = start + i * pageSize
    unfold pageSize at *
    omega
  · unfold bufPage
    rw [mulU64_of_lt hmul]
    simp only [bind_apply, pure_apply]
    rw [addU64_of_lt hadd]
    simp only [pure_apply]
    rw [hv]
    rfl

theorem bufPage_addr {start i : Nat} {s s' : LoadState} {p : Page} (hal : start % pageSize = 0)
    (h : bufPage start i s = .ok p s') : p.start.addr = start + i * pageSize ∧ s' = s := by
  unfold bufPage at h
  obtain ⟨m, u₁, h₁, h⟩ := bind_ok_iff.mp h
  obtain ⟨-, rfl, rfl⟩ := mulU64_ok h₁
  obtain ⟨a, u₂, h₂, h⟩ := bind_ok_iff.mp h
  obtain ⟨-, rfl, rfl⟩ := addU64_ok h₂
  obtain ⟨v, u₃, h₃, h⟩ := bind_ok_iff.mp h
  obtain ⟨hv, rfl⟩ := ofExcept_ok_iff.mp h₃
  cases h
  obtain ⟨-, hva⟩ := VirtAddr.new_eq_ok.mp hv
  refine ⟨?_, rfl⟩
  show v.addr / pageSize * pageSize = _
  rw [hva]
  unfold pageSize at *
  omega

theorem bufPage_ne_err {start i : Nat} {s s' : LoadState} {e : Unit} :
    bufPage start i s ≠ .err e s' := by
  intro h
  unfold bufPage at h
  rcases bind_err_iff.mp h with h | ⟨m, u₁, -, h⟩
  · unfold mulU64 at h; split at h <;> cases h
  rcases bind_err_iff.mp h with h | ⟨a, u₂, -, h⟩
  · unfold addU64 at h; split at h <;> cases h
  rcases bind_err_iff.mp h with h | ⟨v, u₃, -, h⟩
  · cases hv : VirtAddr.new a <;> simp [hv, Kern.ofExcept, Kern.pure, abort] at h
  · cases h

/-- The page starts in `[lo, hi)`. -/
def InWindow (lo hi : Nat) (p : Page) : Prop := lo ≤ p.start.addr ∧ p.start.addr < hi

/-- Pages are aligned: the window grown by a page at its end gains exactly that page. -/
theorem inWindow_push {lo hi : Nat} {p : Page} (hp : p.start.addr = hi) (hle : lo ≤ hi) (q : Page) :
    InWindow lo (hi + pageSize) q ↔ InWindow lo hi q ∨ q = p := by
  have hpa := p.aligned
  have hqa := q.aligned
  unfold InWindow
  rw [Page.ext_iff']
  unfold pageSize at *
  omega

/-- The window shrunk by the page at its start loses exactly that page. -/
theorem inWindow_pop {lo hi : Nat} {p : Page} (hp : p.start.addr = lo) (q : Page) :
    InWindow (lo + pageSize) hi q ↔ InWindow lo hi q ∧ q ≠ p := by
  have hpa := p.aligned
  have hqa := q.aligned
  unfold InWindow
  rw [Ne, Page.ext_iff']
  unfold pageSize at *
  omega

theorem not_inWindow_self {lo : Nat} (p : Page) : ¬ InWindow lo lo p := by
  unfold InWindow
  omega

theorem leaf_update_of_ne {pt : PageTable} {p q : Page} (hq : q ≠ p) (e : Option PageTableEntry) :
    (pt.update 1 p.path e).leaf q = pt.leaf q := by
  unfold PageTable.leaf
  rw [PageTable.update_entry_of_ne _ _ fun h => hq (Page.path_injective h.2)]

theorem leaf_update_self (pt : PageTable) (p : Page) (e : Option PageTableEntry) :
    (pt.update 1 p.path e).leaf p = e := by
  unfold PageTable.leaf
  exact PageTable.update_entry_self _ _ _ _

/-! ## The window of mapped pages -/

/-- The frame was `Usable` in `s₀` and is `ty` in `s`. -/
def Taken (ty : MemoryType) (s₀ s : LoadState) (f : PhysFrame) : Prop :=
  ∀ x, f.Mem x → s₀.phys.typeAt x = some .usable ∧ s.phys.typeAt x = some ty

/-- The frame a step took freed again after its mapping failed (`none`: the step took none). -/
def freeTaken (pm : PhysicalMemory) (release : Option MemoryType) (f : PhysFrame) :
    PhysicalMemory :=
  match release with
  | none => pm
  | some ty => releaseFrame pm f ty

theorem typeAt_freeTaken {pm : PhysicalMemory} {release : Option MemoryType} {f : PhysFrame}
    (hf : ∀ ty, release = some ty → pm.Holds f ty) (x : Nat) :
    (freeTaken pm release f).typeAt x =
      if ∃ ty, release = some ty ∧ f.Mem x then some .usable else pm.typeAt x := by
  cases release with
  | none => simp [freeTaken]
  | some ty =>
    by_cases hx : f.Mem x
    · rw [if_pos ⟨ty, rfl, hx⟩]
      exact releaseFrame_of_holds (hf ty rfl) hx
    · rw [if_neg fun ⟨_, _, h⟩ => hx h]
      exact releaseFrame_of_not_mem hx

theorem freeTaken_canonical {pm : PhysicalMemory} (hc : pm.map.Canonical)
    (release : Option MemoryType) (f : PhysFrame) : (freeTaken pm release f).map.Canonical := by
  cases release with
  | none => exact hc
  | some ty => exact releaseFrame_canonical hc f ty

/-- The work of a mapping loop so far: `s` is `s₀` with the pages of `[lo, hi)` mapped with
`flags`, each walkable, and with page-table frames added. With `release = some ty` each page has
a frame of its own, taken `Usable` as `ty`; an address changes type only in such a frame or in a
new page-table frame. -/
structure MapRun (release : Option MemoryType) (flags : PageTableFlags) (lo hi : Nat)
    (s₀ s : LoadState) : Prop where
  vaddrSet : s.vaddrSet = s₀.vaddrSet
  canonical : s.phys.map.Canonical
  tables : ∀ f, s₀.pt.TableFrame f → s.pt.TableFrame f
  leaf_out : ∀ p, ¬ InWindow lo hi p → s.pt.leaf p = s₀.pt.leaf p
  leaf_in : ∀ p, InWindow lo hi p → s₀.pt.leaf p = none ∧ s.pt.Walkable p ∧
    ∃ f, s.pt.leaf p = some ⟨f, flags⟩ ∧ ∀ ty, release = some ty → Taken ty s₀ s f
  inj : ∀ ty, release = some ty → ∀ p q f, InWindow lo hi p → InWindow lo hi q →
    s.pt.leaf p = some ⟨f, flags⟩ → s.pt.leaf q = some ⟨f, flags⟩ → p = q
  types : ∀ x, s.phys.typeAt x = s₀.phys.typeAt x ∨
    (s₀.phys.typeAt x = some .usable ∧ s.pt.TableAddr x) ∨
    ∃ ty p f, release = some ty ∧ InWindow lo hi p ∧ s.pt.leaf p = some ⟨f, flags⟩ ∧ f.Mem x

/-- `s'` has the address set and the leaf mappings of `s`, and the frame types of `s` outside
its page-table frames: what a failed mapping loop gives back. -/
structure LoadState.Reverted (s s' : LoadState) : Prop where
  vaddrSet : s'.vaddrSet = s.vaddrSet
  leaf : ∀ p, s'.pt.leaf p = s.pt.leaf p
  types : ∀ x, ¬ s'.pt.TableAddr x → s'.phys.typeAt x = s.phys.typeAt x

theorem LoadState.Reverted.refl (s : LoadState) : s.Reverted s :=
  ⟨rfl, fun _ => rfl, fun _ _ => rfl⟩

namespace MapRun

variable {release : Option MemoryType} {flags : PageTableFlags} {lo hi : Nat} {s₀ s : LoadState}

theorem start (release : Option MemoryType) (flags : PageTableFlags) (a : Nat)
    (hc : s₀.phys.map.Canonical) : MapRun release flags a a s₀ s₀ where
  vaddrSet := rfl
  canonical := hc
  tables _ h := h
  leaf_out _ _ := rfl
  leaf_in p h := absurd h (not_inWindow_self p)
  inj _ _ p _ _ h := absurd h (not_inWindow_self p)
  types _ := .inl rfl

theorem taken_of_leaf (hrun : MapRun release flags lo hi s₀ s) {q : Page} {g : PhysFrame}
    (hq : InWindow lo hi q) (hg : s.pt.leaf q = some ⟨g, flags⟩) {ty : MemoryType}
    (hrel : release = some ty) : Taken ty s₀ s g := by
  obtain ⟨-, -, g', hg', ht⟩ := hrun.leaf_in q hq
  rw [hg] at hg'
  cases hg'
  exact ht ty hrel

/-- An address `Usable` now was `Usable` at the start: the frames of the window are not. -/
theorem usable_start (hrun : MapRun release flags lo hi s₀ s)
    (hty : ∀ ty, release = some ty → ty ≠ .usable) {x : Nat}
    (hx : s.phys.typeAt x = some .usable) : s₀.phys.typeAt x = some .usable := by
  rcases hrun.types x with h | ⟨h, -⟩ | ⟨ty, p, f, hrel, hp, hl, hfx⟩
  · rw [← h]
    exact hx
  · exact h
  · have := (hrun.taken_of_leaf hp hl hrel x hfx).2
    rw [hx] at this
    exact absurd (Option.some.inj this).symm (hty ty hrel)

theorem leaf_eq (hrun : MapRun release flags lo hi s₀ s) (hle : hi ≤ lo) (p : Page) :
    s.pt.leaf p = s₀.pt.leaf p :=
  hrun.leaf_out p fun h => by unfold InWindow at h; omega

/-- An empty window leaves every address outside the page-table frames with its type. -/
theorem typeAt_eq (hrun : MapRun release flags lo hi s₀ s) (hle : hi ≤ lo) {x : Nat}
    (hx : ¬ s.pt.TableAddr x) : s.phys.typeAt x = s₀.phys.typeAt x := by
  rcases hrun.types x with h | ⟨-, h⟩ | ⟨-, p, -, -, hp, -⟩
  · exact h
  · exact absurd h hx
  · unfold InWindow at hp
    omega

/-- One iteration of an unmapping loop on the first page of the window: the page's leaf is
cleared, its frame freed when the loop frees frames, and the window starts a page later. -/
theorem unmap (hrun : MapRun release flags lo hi s₀ s)
    (hfl : flags.present = true ∧ flags.hugePage = false) {start j : Nat} {p : Page}
    (hbuf : ∀ s, bufPage start j s = .ok p s) (hp : p.start.addr = lo) (hlt : lo < hi) :
    ∃ s', unmapPage start release j s = .ok () s' ∧
      MapRun release flags (lo + pageSize) hi s₀ s' := by
  obtain ⟨hnone, hwalk, f, hleaf, htaken⟩ := hrun.leaf_in p ⟨by omega, by omega⟩
  have hun := PageTable.unmap_eq_ok hwalk hleaf hfl.1 hfl.2
  let s' : LoadState := { s with
    pt := s.pt.update 1 p.path none
    phys := match release with
      | none => s.phys
      | some ty => releaseFrame s.phys f ty }
  refine ⟨s', ?_, ?_⟩
  · unfold unmapPage
    simp only [bind_apply, hbuf, get_apply, hun, set_apply]
    cases release <;> rfl
  -- a frame of another page of the window is not the one freed
  have hother : ∀ q g x, InWindow lo hi q → q ≠ p → s.pt.leaf q = some ⟨g, flags⟩ → g.Mem x →
      ∀ ty, release = some ty → ¬ f.Mem x := by
    intro q g x hq hqp hg hgx ty hrel hfx
    have hfg : f = g := PhysFrame.eq_of_mem hfx hgx
    subst hfg
    exact hqp (hrun.inj ty hrel q p f hq ⟨by omega, by omega⟩ hg hleaf)
  have hkeep : ∀ x, ¬ (∃ ty, release = some ty ∧ f.Mem x) →
      s'.phys.typeAt x = s.phys.typeAt x := by
    intro x hx
    cases release with
    | none => rfl
    | some ty => exact releaseFrame_of_not_mem fun hfx => hx ⟨ty, rfl, hfx⟩
  refine ⟨hrun.vaddrSet, ?_, fun g hg => (PageTable.tableFrame_update_one _ _ _ g).mpr
    (hrun.tables g hg), fun q hq => ?_, fun q hq => ?_, fun ty hrel q q' g hq hq' hl hl' => ?_,
    fun x => ?_⟩
  · cases release with
    | none => exact hrun.canonical
    | some ty => exact releaseFrame_canonical hrun.canonical f ty
  · by_cases hqp : q = p
    · subst hqp
      rw [leaf_update_self, hnone]
    · rw [leaf_update_of_ne hqp]
      exact hrun.leaf_out q fun hin => hq ((inWindow_pop hp q).mpr ⟨hin, hqp⟩)
  · obtain ⟨hin, hqp⟩ := (inWindow_pop hp q).mp hq
    obtain ⟨h₀, hw, g, hg, ht⟩ := hrun.leaf_in q hin
    refine ⟨h₀, (PageTable.walkable_update_one _ _ _ q).mpr hw, g,
      by rw [leaf_update_of_ne hqp]; exact hg, fun ty hrel x hx => ⟨(ht ty hrel x hx).1, ?_⟩⟩
    rw [hkeep x fun ⟨ty', hrel', hfx⟩ => hother q g x hin hqp hg hx ty' hrel' hfx]
    exact (ht ty hrel x hx).2
  · obtain ⟨hin, hqp⟩ := (inWindow_pop hp q).mp hq
    obtain ⟨hin', hqp'⟩ := (inWindow_pop hp q').mp hq'
    rw [leaf_update_of_ne hqp] at hl
    rw [leaf_update_of_ne hqp'] at hl'
    exact hrun.inj ty hrel q q' g hin hin' hl hl'
  · by_cases hfree : ∃ ty, release = some ty ∧ f.Mem x
    · -- the freed frame is `Usable` again, as it was at the start
      obtain ⟨ty, rfl, hfx⟩ := hfree
      have hholds := PhysicalMemory.holds_of_typeAt hrun.canonical fun y hy => (htaken ty rfl y hy).2
      left
      rw [(htaken ty rfl x hfx).1]
      exact releaseFrame_of_holds hholds hfx
    · rw [hkeep x hfree]
      rcases hrun.types x with h | ⟨hu, ha⟩ | ⟨ty, q, g, hrel, hq, hg, hgx⟩
      · exact .inl h
      · exact .inr (.inl ⟨hu, (PageTable.tableAddr_update_one _ _ _ x).mpr ha⟩)
      · have hqp : q ≠ p := by
          rintro rfl
          rw [hleaf] at hg
          cases hg
          exact hfree ⟨ty, hrel, hgx⟩
        exact .inr (.inr ⟨ty, q, g, hrel, (inWindow_pop hp q).mpr ⟨hq, hqp⟩,
          by rw [leaf_update_of_ne hqp]; exact hg, hgx⟩)

/-- An unmapping loop over the whole window from its first page returns, and leaves the window
empty. The induction is on the iterations done, the window starting a page later after each. -/
theorem unmap_all {start k : Nat} (hrun : MapRun release flags start (start + k * pageSize) s₀ s)
    (hfl : flags.present = true ∧ flags.hugePage = false) (hal : start % pageSize = 0)
    (hlt : start + k * pageSize ≤ 2 ^ 47) :
    ∃ s', forRange k (unmapPage start release) s = .ok () s' ∧
      MapRun release flags (start + k * pageSize) (start + k * pageSize) s₀ s' := by
  refine forRange_ok_of_step k _
    (fun j s => MapRun release flags (start + j * pageSize) (start + k * pageSize) s₀ s) ?_
    (by rw [Nat.zero_mul, Nat.add_zero]; exact hrun)
  intro j s hj hinv
  have hjk : start + j * pageSize < start + k * pageSize := by unfold pageSize; omega
  obtain ⟨p, hp, hbuf⟩ := bufPage_ok (i := j) hal (by omega)
  obtain ⟨s', h, hinv'⟩ := hinv.unmap hfl hbuf hp hjk
  refine ⟨s', h, ?_⟩
  rw [Nat.add_mul, Nat.one_mul, ← Nat.add_assoc]
  exact hinv'

section Step

/-! The state a mapping step hands to `map_to`: `s₁` is `s` with, when the loop takes frames, the
frame `f` just taken. -/

variable (hrun : MapRun release flags lo hi s₀ s) (hty : ∀ ty, release = some ty → ty ≠ .usable)
  {f : PhysFrame} {s₁ : LoadState}
  (hmid : ∀ x, s₁.phys.typeAt x = s.phys.typeAt x ∨ ∃ ty, release = some ty ∧ f.Mem x)
  (hfresh : ∀ ty, release = some ty → ∀ x, f.Mem x →
    s.phys.typeAt x = some .usable ∧ s₁.phys.typeAt x = some ty)
  {ps : Paging} (hgrow : Paging.Grows .usedByUserMode s₁.paging ps)

include hrun hty hmid hfresh hgrow

/-- A frame of the window is not the one just taken, and keeps its type through `map_to`. -/
theorem window_frame_kept {ty : MemoryType} (hrel : release = some ty) {q : Page} {g : PhysFrame}
    (hq : InWindow lo hi q) (hg : s.pt.leaf q = some ⟨g, flags⟩) {x : Nat} (hx : g.Mem x) :
    ps.phys.typeAt x = some ty ∧ ¬ f.Mem x := by
  have hsx := (hrun.taken_of_leaf hq hg hrel x hx).2
  have hnf : ¬ f.Mem x := fun hfx => by
    rw [(hfresh ty hrel x hfx).1] at hsx
    exact hty ty hrel (Option.some.inj hsx).symm
  have h₁x : s₁.phys.typeAt x = some ty := by
    rcases hmid x with h | ⟨ty', hrel', hfx⟩
    · rw [h, hsx]
    · exact absurd hfx hnf
  exact ⟨hgrow.typeAt_of_ne_usable h₁x (hty ty hrel), hnf⟩

omit hmid in
theorem fresh_frame_kept {ty : MemoryType} (hrel : release = some ty) {x : Nat} (hx : f.Mem x) :
    s₀.phys.typeAt x = some .usable ∧ ps.phys.typeAt x = some ty :=
  ⟨hrun.usable_start hty (hfresh ty hrel x hx).1,
    hgrow.typeAt_of_ne_usable (hfresh ty hrel x hx).2 (hty ty hrel)⟩

omit hfresh in
/-- Away from the frame just taken, an address after `map_to` changed type, if at all, in a new
page-table frame or in a frame of the window. -/
theorem types_kept (hpt : s₁.pt = s.pt) {x : Nat} (hx : ¬ ∃ ty, release = some ty ∧ f.Mem x) :
    ps.phys.typeAt x = s₀.phys.typeAt x ∨ (s₀.phys.typeAt x = some .usable ∧ ps.pt.TableAddr x) ∨
      ∃ ty q g, release = some ty ∧ InWindow lo hi q ∧ s.pt.leaf q = some ⟨g, flags⟩ ∧ g.Mem x := by
  have h₁x : s₁.phys.typeAt x = s.phys.typeAt x := by
    rcases hmid x with h | h
    · exact h
    · exact absurd h hx
  rcases hgrow.types x with h | ⟨hu, -, ha⟩
  · rw [h, LoadState.paging_phys, h₁x]
    rcases hrun.types x with h | ⟨hu, ha⟩ | h
    · exact .inl h
    · have ha' : s₁.paging.pt.TableAddr x := by rw [LoadState.paging_pt, hpt]; exact ha
      obtain ⟨g, hg, hgx⟩ := ha'
      exact .inr (.inl ⟨hu, g, hgrow.tables g hg, hgx⟩)
    · exact .inr (.inr h)
  · rw [LoadState.paging_phys, h₁x] at hu
    exact .inr (.inl ⟨hrun.usable_start hty hu, ha⟩)

end Step

/-- A mapping step on the page after the window: a successful `map_to` of the page to `f` (the
frame just taken, when the loop takes frames) grows the window by that page. -/
theorem map_ok (hrun : MapRun release flags lo hi s₀ s) (hle : lo ≤ hi)
    (hty : ∀ ty, release = some ty → ty ≠ .usable) {p : Page} (hp : p.start.addr = hi)
    {f : PhysFrame} {s₁ : LoadState} (hpt : s₁.pt = s.pt) (hv : s₁.vaddrSet = s.vaddrSet)
    (hc : s₁.phys.map.Canonical)
    (hmid : ∀ x, s₁.phys.typeAt x = s.phys.typeAt x ∨ ∃ ty, release = some ty ∧ f.Mem x)
    (hfresh : ∀ ty, release = some ty → ∀ x, f.Mem x →
      s.phys.typeAt x = some .usable ∧ s₁.phys.typeAt x = some ty)
    {ps : Paging} (hmap : mapTo .usedByUserMode p f flags s₁.paging = .ok () ps) :
    MapRun release flags lo (hi + pageSize) s₀ { s₁ with pt := ps.pt, phys := ps.phys } := by
  obtain ⟨hev, hnone, hleaf, hwalk, hother⟩ := mapTo_ok hmap
  have hgrow := (mapTo_grows p f flags).ok hmap
  rw [LoadState.paging_pt, hpt] at hnone
  have hpout : ¬ InWindow lo hi p := fun h => by unfold InWindow at h; omega
  have hq_ne : ∀ q, InWindow lo hi q → q ≠ p := fun q hq hqp => hpout (hqp ▸ hq)
  -- `map_to` wrote the leaf of `p` and no other
  have hleaf_ne : ∀ q, q ≠ p → ps.pt.leaf q = s.pt.leaf q := fun q hqp => by
    unfold PageTable.leaf
    rw [hother q.path fun h => hqp (Page.path_injective h), LoadState.paging_pt, hpt]
  refine ⟨hv.trans hrun.vaddrSet, hgrow.canonical hc, fun g hg => hgrow.tables g
    (by rw [LoadState.paging_pt, hpt]; exact hrun.tables g hg), fun q hq => ?_, fun q hq => ?_,
    fun ty hrel q q' g hq hq' hl hl' => ?_, fun x => ?_⟩
  · have hq' := not_or.mp (mt (inWindow_push hp hle q).mpr hq)
    rw [hleaf_ne q hq'.2]
    exact hrun.leaf_out q hq'.1
  · rcases (inWindow_push hp hle q).mp hq with hq | rfl
    · obtain ⟨h₀, hw, g, hg, -⟩ := hrun.leaf_in q hq
      refine ⟨h₀, hev.walkable (by rw [LoadState.paging_pt, hpt]; exact hw), g,
        by rw [hleaf_ne q (hq_ne q hq)]; exact hg, fun ty hrel x hx => ?_⟩
      exact ⟨(hrun.taken_of_leaf hq hg hrel x hx).1,
        (window_frame_kept hrun hty hmid hfresh hgrow hrel hq hg hx).1⟩
    · exact ⟨(hrun.leaf_out q hpout).symm.trans hnone, hwalk, f, hleaf,
        fun ty hrel x hx => fresh_frame_kept hrun hty hfresh hgrow hrel hx⟩
  · -- the frame just taken is not a frame of the window
    have hold : ∀ q g, InWindow lo hi q → s.pt.leaf q = some ⟨g, flags⟩ → g ≠ f :=
      fun q g hq hg hgf => (window_frame_kept hrun hty hmid hfresh hgrow hrel hq hg
        (hgf ▸ f.mem_start)).2 (PhysFrame.mem_start f)
    rcases (inWindow_push hp hle q).mp hq with hq | rfl <;>
      rcases (inWindow_push hp hle q').mp hq' with hq' | rfl
    · rw [hleaf_ne q (hq_ne q hq)] at hl
      rw [hleaf_ne q' (hq_ne q' hq')] at hl'
      exact hrun.inj ty hrel q q' g hq hq' hl hl'
    · rw [hleaf_ne q (hq_ne q hq)] at hl
      rw [hleaf] at hl'
      cases hl'
      exact absurd rfl (hold q _ hq hl)
    · rw [hleaf_ne q' (hq_ne q' hq')] at hl'
      rw [hleaf] at hl
      cases hl
      exact absurd rfl (hold q' _ hq' hl')
    · rfl
  · by_cases hfx : ∃ ty, release = some ty ∧ f.Mem x
    · obtain ⟨ty, hrel, hx⟩ := hfx
      exact .inr (.inr ⟨ty, p, f, hrel, (inWindow_push hp hle p).mpr (.inr rfl), hleaf, hx⟩)
    · rcases types_kept hrun hty hmid hgrow hpt hfx with h | h | ⟨ty, q, g, hrel, hq, hg, hgx⟩
      · exact .inl h
      · exact .inr (.inl h)
      · exact .inr (.inr ⟨ty, q, g, hrel, (inWindow_push hp hle q).mpr (.inl hq),
          by rw [hleaf_ne q (hq_ne q hq)]; exact hg, hgx⟩)

/-- A failed `map_to` maps nothing: with the frame just taken freed again when the loop takes
frames, the window is as before. -/
theorem map_err (hrun : MapRun release flags lo hi s₀ s)
    (hty : ∀ ty, release = some ty → ty ≠ .usable) {p : Page} {f : PhysFrame} {s₁ : LoadState}
    (hpt : s₁.pt = s.pt) (hv : s₁.vaddrSet = s.vaddrSet) (hc : s₁.phys.map.Canonical)
    (hmid : ∀ x, s₁.phys.typeAt x = s.phys.typeAt x ∨ ∃ ty, release = some ty ∧ f.Mem x)
    (hfresh : ∀ ty, release = some ty → ∀ x, f.Mem x →
      s.phys.typeAt x = some .usable ∧ s₁.phys.typeAt x = some ty)
    {ps : Paging} {e : MapToError} (hmap : mapTo .usedByUserMode p f flags s₁.paging = .err e ps) :
    MapRun release flags lo hi s₀ { s₁ with pt := ps.pt, phys := freeTaken ps.phys release f } := by
  obtain ⟨hev, hleaf⟩ := mapTo_err hmap
  have hgrow := (mapTo_grows p f flags).err hmap
  rw [LoadState.paging_pt, hpt] at hleaf
  have hleaf' : ∀ q, ps.pt.leaf q = s.pt.leaf q := fun q => hleaf q.path
  have hc' : ps.phys.map.Canonical := hgrow.canonical hc
  -- the frame just taken is freed, and nothing else
  have hrelease := @typeAt_freeTaken ps.phys release f fun ty hrel =>
    PhysicalMemory.holds_of_typeAt hc' fun y hy => (fresh_frame_kept hrun hty hfresh hgrow hrel hy).2
  refine ⟨hv.trans hrun.vaddrSet, freeTaken_canonical hc' release f, fun g hg => hgrow.tables g
    (by rw [LoadState.paging_pt, hpt]; exact hrun.tables g hg), fun q hq => ?_, fun q hq => ?_,
    fun ty hrel q q' g hq hq' hl hl' => ?_, fun x => ?_⟩
  · rw [hleaf' q]
    exact hrun.leaf_out q hq
  · obtain ⟨h₀, hw, g, hg, -⟩ := hrun.leaf_in q hq
    refine ⟨h₀, hev.walkable (by rw [LoadState.paging_pt, hpt]; exact hw), g,
      by rw [hleaf' q]; exact hg, fun ty hrel x hx => ?_⟩
    obtain ⟨hps, hnf⟩ := window_frame_kept hrun hty hmid hfresh hgrow hrel hq hg hx
    refine ⟨(hrun.taken_of_leaf hq hg hrel x hx).1, ?_⟩
    show (freeTaken ps.phys release f).typeAt x = some ty
    rw [hrelease x, if_neg fun ⟨_, _, h⟩ => hnf h]
    exact hps
  · rw [hleaf' q] at hl
    rw [hleaf' q'] at hl'
    exact hrun.inj ty hrel q q' g hq hq' hl hl'
  · show (freeTaken ps.phys release f).typeAt x = _ ∨ _
    rw [hrelease x]
    split
    · rename_i hfx
      obtain ⟨ty, hrel, hx⟩ := hfx
      exact .inl (fresh_frame_kept hrun hty hfresh hgrow hrel hx).1.symm
    · rename_i hfx
      rcases types_kept hrun hty hmid hgrow hpt hfx with h | h | ⟨ty, q, g, hrel, hq, hg, hgx⟩
      · exact .inl h
      · exact .inr (.inl h)
      · exact .inr (.inr ⟨ty, q, g, hrel, hq, by rw [hleaf' q]; exact hg, hgx⟩)

theorem withVaddrSet (hrun : MapRun release flags lo hi s₀ s) (v : VaddrSet) :
    MapRun release flags lo hi { s₀ with vaddrSet := v } { s with vaddrSet := v } :=
  { hrun with vaddrSet := rfl }

/-- An empty window, with the address set given back, is the state before the range was taken. -/
theorem reverted {set : VaddrSet} {s t : LoadState}
    (hrun : MapRun release flags lo hi { s with vaddrSet := set } t) (hle : hi ≤ lo)
    {t' : LoadState} (hpt : t'.pt = t.pt) (hphys : t'.phys = t.phys)
    (hv : t'.vaddrSet = s.vaddrSet) : s.Reverted t' where
  vaddrSet := hv
  leaf p := by rw [hpt]; exact hrun.leaf_eq hle p
  types x hx := by
    rw [hpt] at hx
    rw [hphys]
    exact hrun.typeAt_eq hle hx

end MapRun

/-! ## The steps of a mapping loop -/

/-- `try_map_to` hands back the outcome of `map_to` on the state's page table and frames. -/
theorem tryMapTo_eq_ok {page : Page} {frame : PhysFrame} {fl : PageTableFlags} {s s' : LoadState}
    {r : Except MapToError Unit} (h : tryMapTo page frame fl s = .ok r s') :
    ∃ ps, s' = { s with pt := ps.pt, phys := ps.phys } ∧
      (r = .ok () ∧ mapTo .usedByUserMode page frame fl s.paging = .ok () ps ∨
        ∃ e, r = .error e ∧ mapTo .usedByUserMode page frame fl s.paging = .err e ps) := by
  obtain ⟨ps, hres, rfl⟩ := zoom_ok_iff.mp h
  refine ⟨ps, rfl, ?_⟩
  cases hm : mapTo .usedByUserMode page frame fl s.paging with
  | ok a ps' =>
    rw [result_of_ok hm] at hres
    cases hres
    exact .inl ⟨rfl, rfl⟩
  | err e ps' =>
    rw [result_of_err hm] at hres
    cases hres
    exact .inr ⟨e, rfl, rfl⟩
  | panic msg =>
    rw [result_of_panic hm] at hres
    cases hres

theorem releaseUserPages_eq {start nPages : Nat} (hn : nPages * pageSize < 2 ^ 64)
    {t : LoadState} {b : Bool} {set : VaddrSet}
    (h : freeUserPages t.vaddrSet start (nPages * pageSize) = .ok (b, set)) :
    releaseUserPages start nPages t = .ok () { t with vaddrSet := set } := by
  unfold releaseUserPages
  rw [mulU64_of_lt hn]
  simp only [bind_apply, pure_apply, get_apply, h, ofExcept_ok, set_apply]

theorem rollback_eq (start count : Nat) (freeFrames : Bool) :
    rollback start count freeFrames =
      forRange count (unmapPage start (if freeFrames then some .sharedBuffer else none)) := by
  unfold rollback
  rw [funext (rollbackPage_eq start freeFrames)]

namespace MapRun

variable {release : Option MemoryType} {flags : PageTableFlags} {lo hi : Nat} {s₀ s : LoadState}

/-- A `try_map_to` of the page after the window, from a state that differs from the run's by the
frame just taken: `Ok` grows the window by the page, `Err` leaves it once that frame is freed. -/
theorem tryMapTo_step (hrun : MapRun release flags lo hi s₀ s) (hle : lo ≤ hi)
    (hty : ∀ ty, release = some ty → ty ≠ .usable) {p : Page} (hp : p.start.addr = hi)
    {f : PhysFrame} {s₁ : LoadState} (hpt : s₁.pt = s.pt) (hv : s₁.vaddrSet = s.vaddrSet)
    (hc : s₁.phys.map.Canonical)
    (hmid : ∀ x, s₁.phys.typeAt x = s.phys.typeAt x ∨ ∃ ty, release = some ty ∧ f.Mem x)
    (hfresh : ∀ ty, release = some ty → ∀ x, f.Mem x →
      s.phys.typeAt x = some .usable ∧ s₁.phys.typeAt x = some ty)
    {r : Except MapToError Unit} {t : LoadState} (h : tryMapTo p f flags s₁ = .ok r t) :
    (r = .ok () → MapRun release flags lo (hi + pageSize) s₀ t) ∧
      (∀ e, r = .error e → MapRun release flags lo hi s₀ { t with phys := freeTaken t.phys release f }) := by
  obtain ⟨ps, rfl, (⟨rfl, hm⟩ | ⟨e, rfl, hm⟩)⟩ := tryMapTo_eq_ok h
  · exact ⟨fun _ => map_ok hrun hle hty hp hpt hv hc hmid hfresh hm, fun _ he => by cases he⟩
  · exact ⟨(fun he => by cases he), fun _ _ => map_err hrun hty hpt hv hc hmid hfresh hm⟩

/-- The failure path of a mapping loop at page `k`: the rollback loop over the `k` pages mapped so
far returns, and with the range of `n_pages` released the state is the one before the range was
taken, up to new page-table frames. -/
theorem unwind {start k nPages : Nat} {set : VaddrSet} {t : LoadState}
    (hrun : MapRun release flags start (start + k * pageSize) { s with vaddrSet := set } t)
    (hfl : flags.present = true ∧ flags.hugePage = false) (hal : start % pageSize = 0)
    (hk : k ≤ nPages) (hend : start + nPages * pageSize ≤ 2 ^ 47)
    (hfree : freeUserPages set start (nPages * pageSize) = .ok (true, s.vaddrSet)) :
    ∃ t₁, forRange k (unmapPage start release) t = .ok () t₁ ∧
      releaseUserPages start nPages t₁ = .ok () { t₁ with vaddrSet := s.vaddrSet } ∧
      s.Reverted { t₁ with vaddrSet := s.vaddrSet } := by
  have hkn : start + k * pageSize ≤ start + nPages * pageSize := by
    have := Nat.mul_le_mul_right pageSize hk
    omega
  obtain ⟨t₁, hloop, hrun₁⟩ := hrun.unmap_all hfl hal (by omega)
  have hv : t₁.vaddrSet = set := hrun₁.vaddrSet
  refine ⟨t₁, hloop, releaseUserPages_eq (by omega) (by rw [hv]; exact hfree), ?_⟩
  exact hrun₁.reverted (Nat.le_refl _) rfl rfl rfl

end MapRun

end Bos
