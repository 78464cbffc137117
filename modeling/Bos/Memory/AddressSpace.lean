import Bos.Memory.Paging

/-!
# Bos.Memory.AddressSpace

`free_user_address_space` (`task/task.rs`), which `TaskInner::drop` runs on the task's page table
when the last reference to a user task goes. It walks the L4 entries `0..256` and, under each
present entry, the tables below it; it hands every frame it meets back with
`free_frame(frame, UsedByUserMode)`: the data frame of each present level-1 entry, then each
level-1, level-2 and level-3 table, then the L4 frame. Errors of `free_frame` are dropped
(`let _ =`), so a frame that is not wholly `UsedByUserMode` — a `SharedBuffer` frame mapped into
the task, the framebuffer (which the map does not track), a frame met twice — stays as it is.

The walk reads the table through the entries of the model (`PageTable.entry`), keyed by index
path: the table that the level-`l` entry `key` points to holds the level-`l - 1` entries
`key * 512 + j`, `j < 512`.

* `foldl_tryFreeFrame_typeAt`: dropping errors, a run of `free_frame(_, t)` over any list of
  frames, in any order and with repetitions, makes `Usable` exactly the addresses of the frames of
  the list that were wholly of type `t`.
* `UserFrame pt f`: the frames the walk meets, the L4 frame and the frame of every present entry
  whose entries above are present, under an L4 index below 256 (`mem_walkFrames`).
* `freeUserAddressSpace_typeAt`: the walk makes `Usable` exactly the user frames of the table that
  were wholly `UsedByUserMode`, and nothing else changes.
-/

namespace Bos

namespace PhysicalMemory

/-- `let _ = physical_memory.free_frame(frame, expected)`: an error leaves the map as it is. -/
def tryFreeFrame (pm : PhysicalMemory) (frame : PhysFrame) (expected : MemoryType) : PhysicalMemory :=
  match pm.freeFrame frame expected with
  | .ok pm' => pm'
  | .error _ => pm

/-- Every address of the frame has type `t`. -/
def Whole (pm : PhysicalMemory) (f : PhysFrame) (t : MemoryType) : Prop :=
  ∀ y, f.Mem y → pm.typeAt y = some t

instance (pm : PhysicalMemory) (f : PhysFrame) (t : MemoryType) : Decidable (pm.Whole f t) :=
  decidable_of_iff (∀ o < pageSize, pm.typeAt (f.start + o) = some t) <| by
    unfold Whole PhysFrame.Mem
    constructor
    · intro h y hy
      have := h (y - f.start) (by omega)
      rwa [Nat.add_sub_cancel' hy.1] at this
    · intro h o ho
      exact h _ ⟨by omega, by omega⟩

/-- An entry that holds the whole frame gives every address of it its type. -/
theorem Holds.whole {pm : PhysicalMemory} {f : PhysFrame} {t : MemoryType} (h : pm.Holds f t) :
    pm.Whole f t := by
  obtain ⟨e, he, hs, hl, ht⟩ := h
  intro y hy
  unfold PhysFrame.Mem at hy
  exact (IntervalMap.get?_eq_some_iff _ _ _).mpr ⟨e, he, ⟨by omega, by omega⟩, ht⟩

section Release

variable {pm : PhysicalMemory} {t : MemoryType}

/-- In a canonical map, `free_frame(f, t)` frees `f` exactly when it is wholly of type `t`. -/
theorem tryFreeFrame_typeAt (hc : pm.map.Canonical) (f : PhysFrame) (t : MemoryType) (y : Nat) :
    (pm.tryFreeFrame f t).typeAt y = if f.Mem y ∧ pm.Whole f t then some .usable else pm.typeAt y := by
  unfold tryFreeFrame
  split
  · rename_i pm' hok
    obtain ⟨hwhole, hty⟩ := freeFrame_spec hok
    rw [hty y]
    by_cases hy : f.Mem y
    · rw [if_pos hy, if_pos ⟨hy, hwhole⟩]
    · rw [if_neg hy, if_neg fun h => hy h.1]
  · rename_i e herr
    -- a frame wholly of type `t` is held by one entry, which `free_frame` would have accepted
    have hnot : ¬ pm.Whole f t := fun hw => by
      obtain ⟨pm', hok⟩ := freeFrame_ok_of_holds (holds_of_typeAt hc hw)
      rw [hok] at herr
      cases herr
    rw [if_neg fun h => hnot h.2]

theorem tryFreeFrame_canonical (hc : pm.map.Canonical) (f : PhysFrame) (t : MemoryType) :
    (pm.tryFreeFrame f t).map.Canonical := by
  unfold tryFreeFrame
  split
  · rename_i pm' hok
    exact freeFrame_canonical hc hok
  · exact hc

/-- A frame that a free leaves whole, or that it does not meet, keeps every type: the frames
freed are aligned, so two of them are equal or disjoint. -/
theorem tryFreeFrame_typeAt_of_mem (hc : pm.map.Canonical) {f g : PhysFrame} {x : Nat}
    (hg : g.Mem x) (hx : ¬ (f.Mem x ∧ pm.Whole f t)) :
    ∀ y, g.Mem y → (pm.tryFreeFrame f t).typeAt y = pm.typeAt y := by
  intro y hy
  rw [tryFreeFrame_typeAt hc]
  rw [if_neg]
  rintro ⟨hfy, hw⟩
  obtain rfl := PhysFrame.eq_of_mem hfy hy
  exact hx ⟨hg, hw⟩

/-- Frees of type `t` one after the other, errors dropped: the addresses of the frames of the list
that were wholly of type `t` become `Usable`, and no other address changes. -/
theorem foldl_tryFreeFrame_typeAt (t : MemoryType) (fs : List PhysFrame) :
    ∀ (pm : PhysicalMemory), pm.map.Canonical → ∀ x,
      (fs.foldl (fun pm f => pm.tryFreeFrame f t) pm).typeAt x =
        if ∃ f ∈ fs, f.Mem x ∧ pm.Whole f t then some .usable else pm.typeAt x := by
  induction fs with
  | nil =>
    intro pm _ x
    simp
  | cons f fs ih =>
    intro pm hc x
    rw [List.foldl_cons, ih _ (tryFreeFrame_canonical hc f t) x]
    by_cases hfx : f.Mem x ∧ pm.Whole f t
    · -- `x` is freed at the first step and stays `Usable`
      have hfree : ∃ g ∈ f :: fs, g.Mem x ∧ pm.Whole g t := ⟨f, List.mem_cons_self, hfx⟩
      rw [if_pos hfree, tryFreeFrame_typeAt hc, if_pos hfx]
      split <;> rfl
    · -- the first free leaves every frame that holds `x` as it was
      have hsame : ∀ g, g.Mem x → ((pm.tryFreeFrame f t).Whole g t ↔ pm.Whole g t) :=
        fun g hg => by
          unfold Whole
          constructor
          · intro h y hy
            rw [← tryFreeFrame_typeAt_of_mem hc hg hfx y hy]
            exact h y hy
          · intro h y hy
            rw [tryFreeFrame_typeAt_of_mem hc hg hfx y hy]
            exact h y hy
      rw [tryFreeFrame_typeAt hc, if_neg hfx]
      by_cases hex : ∃ g ∈ fs, g.Mem x ∧ pm.Whole g t
      · obtain ⟨g, hgs, hgx, hgw⟩ := hex
        rw [if_pos ⟨g, hgs, hgx, (hsame g hgx).mpr hgw⟩,
          if_pos ⟨g, List.mem_cons_of_mem f hgs, hgx, hgw⟩]
      · rw [if_neg fun ⟨g, hgs, hgx, hgw⟩ => hex ⟨g, hgs, hgx, (hsame g hgx).mp hgw⟩, if_neg]
        rintro ⟨g, hgs, hgx, hgw⟩
        rcases List.mem_cons.mp hgs with rfl | hgs
        · exact hfx ⟨hgx, hgw⟩
        · exact hex ⟨g, hgs, hgx, hgw⟩

theorem foldl_tryFreeFrame_canonical (t : MemoryType) (fs : List PhysFrame) :
    ∀ (pm : PhysicalMemory), pm.map.Canonical →
      (fs.foldl (fun pm f => pm.tryFreeFrame f t) pm).map.Canonical := by
  induction fs with
  | nil => exact fun _ hc => hc
  | cons f fs ih => exact fun pm hc => ih _ (tryFreeFrame_canonical hc f t)

end Release

end PhysicalMemory

/-! ## The walk -/

/-- The entries of the table that the level-`lvl + 1` entry `key` points to, as level-`lvl`
keys. -/
def childKeys (key : Nat) : List Nat := (List.range 512).map (key * 512 + ·)

theorem mem_childKeys {key k : Nat} : k ∈ childKeys key ↔ k / 512 = key := by
  unfold childKeys
  simp only [List.mem_map, List.mem_range]
  constructor
  · rintro ⟨j, hj, rfl⟩
    omega
  · intro h
    exact ⟨k % 512, Nat.mod_lt _ (by decide), by omega⟩

/-- The loop over the entries `keys` of a level-`lvl` table: under each present entry, the table
it points to first (above level 1), then the frame of the entry itself. -/
def freeEntries (pt : PageTable) : Nat → List Nat → PhysicalMemory → PhysicalMemory
  | 0, _, phys => phys
  | lvl + 1, keys, phys => keys.foldl (fun phys key =>
      match pt.entry (lvl + 1) key with
      | some e =>
        if e.flags.present then
          (freeEntries pt lvl (childKeys key) phys).tryFreeFrame e.frame .usedByUserMode
        else phys
      | none => phys) phys

/-- `free_user_address_space(l4_phys, phys_mem)`, with the task's page table for the tables that
`l4_phys` leads to through the direct map. -/
def freeUserAddressSpace (pt : PageTable) (phys : PhysicalMemory) : PhysicalMemory :=
  (freeEntries pt 4 (List.range 256) phys).tryFreeFrame pt.l4Frame .usedByUserMode

/-- The frames the walk frees under the entries `keys` of a level-`lvl` table, in its order. -/
def walkFrames (pt : PageTable) : Nat → List Nat → List PhysFrame
  | 0, _ => []
  | lvl + 1, keys => keys.flatMap fun key =>
      match pt.entry (lvl + 1) key with
      | some e => if e.flags.present then walkFrames pt lvl (childKeys key) ++ [e.frame] else []
      | none => []

/-- The walk is a run of frees over the frames it meets. -/
theorem freeEntries_eq_foldl (pt : PageTable) :
    ∀ (lvl : Nat) (keys : List Nat) (phys : PhysicalMemory), freeEntries pt lvl keys phys =
      (walkFrames pt lvl keys).foldl (fun pm f => pm.tryFreeFrame f .usedByUserMode) phys := by
  intro lvl
  induction lvl with
  | zero => intro keys phys; rfl
  | succ lvl ih =>
    intro keys
    induction keys with
    | nil => intro phys; rfl
    | cons key keys ihk =>
      intro phys
      simp only [freeEntries, walkFrames, List.flatMap_cons, List.foldl_append,
        List.foldl_cons] at ihk ⊢
      -- one key: its subtree and its own frame, or nothing
      cases he : pt.entry (lvl + 1) key with
      | none => exact ihk phys
      | some e =>
        dsimp only
        split
        · rw [List.foldl_append, ← ih, List.foldl_cons, List.foldl_nil]
          exact ihk _
        · exact ihk phys

/-- The walk started at the entries `keys` of a level-`top` table reaches the level-`lvl` entry
`key`: the ancestor of `key` in that table is one of `keys`, and the entries in between are
present. -/
def PageTable.ReachesFrom (pt : PageTable) (top : Nat) (keys : List Nat) (lvl key : Nat) : Prop :=
  key / 512 ^ (top - lvl) ∈ keys ∧
    ∀ l, lvl < l → l ≤ top → ∃ e, pt.entry l (key / 512 ^ (l - lvl)) = some e ∧
      e.flags.present = true

/-- A frame `free_user_address_space` meets: the L4 frame, or the frame of a present entry that the
walk from the L4 entries `0..256` reaches. -/
def PageTable.UserFrame (pt : PageTable) (f : PhysFrame) : Prop :=
  f = pt.l4Frame ∨ ∃ lvl key e, 1 ≤ lvl ∧ lvl ≤ 4 ∧ pt.ReachesFrom 4 (List.range 256) lvl key ∧
    pt.entry lvl key = some e ∧ e.flags.present = true ∧ e.frame = f

theorem div_pow_succ (key n : Nat) : key / 512 ^ (n + 1) = key / 512 ^ n / 512 := by
  rw [Nat.pow_succ, Nat.div_div_eq_div_mul]

/-- The frames the walk meets under `keys` are the frames of the present entries it reaches. -/
theorem mem_walkFrames (pt : PageTable) {f : PhysFrame} :
    ∀ (top : Nat) (keys : List Nat), f ∈ walkFrames pt top keys ↔
      ∃ lvl key e, 1 ≤ lvl ∧ lvl ≤ top ∧ pt.ReachesFrom top keys lvl key ∧
        pt.entry lvl key = some e ∧ e.flags.present = true ∧ e.frame = f := by
  intro top
  induction top with
  | zero =>
    intro keys
    simp only [walkFrames, List.not_mem_nil, false_iff]
    rintro ⟨lvl, key, e, h₁, h₀, -⟩
    omega
  | succ top ih =>
    intro keys
    simp only [walkFrames, List.mem_flatMap]
    constructor
    · rintro ⟨k, hk, hf⟩
      split at hf
      · rename_i e he
        split at hf
        · rename_i hp
          rcases List.mem_append.mp hf with hf | hf
          · -- below the entry `k`: one level further from the top
            obtain ⟨lvl, key, e', h₁, hle, ⟨hkey, hchain⟩, he', hp', rfl⟩ := (ih _).mp hf
            refine ⟨lvl, key, e', h₁, by omega, ⟨?_, fun l hl hl' => ?_⟩, he', hp', rfl⟩
            · rw [Nat.succ_sub hle, div_pow_succ, mem_childKeys.mp hkey]
              exact hk
            · rcases Nat.lt_or_ge l (top + 1) with hlt | hge
              · exact hchain l hl (by omega)
              · have hl1 : l = top + 1 := by omega
                subst hl1
                have hk' : key / 512 ^ (top + 1 - lvl) = k := by
                  rw [Nat.succ_sub hle, div_pow_succ, mem_childKeys.mp hkey]
                rw [hk']
                exact ⟨e, he, hp⟩
          · -- the entry `k` itself
            rw [List.mem_singleton] at hf
            exact ⟨top + 1, k, e, by omega, le_refl _, ⟨by simpa using hk,
              fun l hl hl' => absurd hl' (by omega)⟩, he, hp, hf.symm⟩
        · cases hf
      · cases hf
    · rintro ⟨lvl, key, e, h₁, hle, ⟨hkey, hchain⟩, he, hp, rfl⟩
      refine ⟨_, hkey, ?_⟩
      rcases Nat.lt_or_ge lvl (top + 1) with hlt | hge
      · -- a deeper entry: the entry at the top of the walk is present, and the rest is below it
        obtain ⟨e₁, he₁, hp₁⟩ := hchain (top + 1) hlt (le_refl _)
        rw [he₁]
        dsimp only
        rw [if_pos hp₁]
        refine List.mem_append_left _ ((ih _).mpr ⟨lvl, key, e, h₁, by omega, ⟨?_, fun l hl hl' =>
          hchain l hl (by omega)⟩, he, hp, rfl⟩)
        have hsub : top + 1 - lvl = top - lvl + 1 := by omega
        rw [mem_childKeys, ← div_pow_succ, ← hsub]
      · have hl1 : lvl = top + 1 := by omega
        subst hl1
        rw [Nat.sub_self, Nat.pow_zero, Nat.div_one, he]
        dsimp only
        rw [if_pos hp]
        exact List.mem_append_right _ (List.mem_singleton_self _)

/-- The frames `free_user_address_space` frees, in its order: those of the walk, then the L4
frame. -/
theorem freeUserAddressSpace_eq_foldl (pt : PageTable) (phys : PhysicalMemory) :
    freeUserAddressSpace pt phys =
      (walkFrames pt 4 (List.range 256) ++ [pt.l4Frame]).foldl
        (fun pm f => pm.tryFreeFrame f .usedByUserMode) phys := by
  rw [List.foldl_append, ← freeEntries_eq_foldl]
  rfl

theorem mem_userFrames (pt : PageTable) (f : PhysFrame) :
    f ∈ walkFrames pt 4 (List.range 256) ++ [pt.l4Frame] ↔ pt.UserFrame f := by
  rw [List.mem_append, mem_walkFrames, List.mem_singleton, PageTable.UserFrame, or_comm]

theorem freeUserAddressSpace_canonical {pt : PageTable} {pm : PhysicalMemory}
    (hc : pm.map.Canonical) : (freeUserAddressSpace pt pm).map.Canonical := by
  rw [freeUserAddressSpace_eq_foldl]
  exact PhysicalMemory.foldl_tryFreeFrame_canonical _ _ pm hc

/-- An address of a frame the walk meets that was wholly `UsedByUserMode` is freed. -/
theorem freeUserAddressSpace_typeAt_freed {pt : PageTable} {pm : PhysicalMemory}
    (hc : pm.map.Canonical) {x : Nat} {f : PhysFrame} (hf : pt.UserFrame f) (hx : f.Mem x)
    (hw : pm.Whole f .usedByUserMode) : (freeUserAddressSpace pt pm).typeAt x = some .usable := by
  rw [freeUserAddressSpace_eq_foldl, PhysicalMemory.foldl_tryFreeFrame_typeAt _ _ pm hc x,
    if_pos ⟨f, (mem_userFrames pt f).mpr hf, hx, hw⟩]

/-- An address in no frame the walk meets wholly `UsedByUserMode` keeps its type. -/
theorem freeUserAddressSpace_typeAt_kept {pt : PageTable} {pm : PhysicalMemory}
    (hc : pm.map.Canonical) {x : Nat}
    (hno : ∀ f, pt.UserFrame f → f.Mem x → ¬ pm.Whole f .usedByUserMode) :
    (freeUserAddressSpace pt pm).typeAt x = pm.typeAt x := by
  rw [freeUserAddressSpace_eq_foldl, PhysicalMemory.foldl_tryFreeFrame_typeAt _ _ pm hc x,
    if_neg fun ⟨f, hf, hx, hw⟩ => hno f ((mem_userFrames pt f).mp hf) hx hw]

/-- `TaskInner::drop` of a user task: every frame of its lower half that was wholly
`UsedByUserMode` (its data frames, its tables, its L4 frame) becomes `Usable`, and every other
address keeps its type; the map stays canonical. -/
theorem freeUserAddressSpace_typeAt {pt : PageTable} {pm : PhysicalMemory}
    (hc : pm.map.Canonical) :
    (freeUserAddressSpace pt pm).map.Canonical ∧
      (∀ x f, pt.UserFrame f → f.Mem x → pm.Whole f .usedByUserMode →
        (freeUserAddressSpace pt pm).typeAt x = some .usable) ∧
      ∀ x, (∀ f, pt.UserFrame f → f.Mem x → ¬ pm.Whole f .usedByUserMode) →
        (freeUserAddressSpace pt pm).typeAt x = pm.typeAt x :=
  ⟨freeUserAddressSpace_canonical hc, fun _ _ hf hx hw => freeUserAddressSpace_typeAt_freed hc hf hx hw,
    fun _ hno => freeUserAddressSpace_typeAt_kept hc hno⟩

/-- A table with its L4 frame at `0x500000` and one present L4 entry, index 0, whose level-3
table is the frame `0x502000`: the two frames that `PhysicalMemory.fourFrameRun` holds for user mode. -/
def twoFrameTable : PageTable :=
  ⟨⟨0x500000, by decide⟩, fun l k => if l = 4 ∧ k = 0 then
    some ⟨⟨0x502000, by decide⟩, ⟨true, true, true, false, false, false, false⟩⟩ else none⟩

theorem freeUserAddressSpace_typeAt_sample :
    PhysicalMemory.fourFrameRun.map.Canonical ∧
      (freeUserAddressSpace twoFrameTable PhysicalMemory.fourFrameRun).typeAt 0x500000 = some .usable ∧
      (freeUserAddressSpace twoFrameTable PhysicalMemory.fourFrameRun).typeAt 0x502FFF = some .usable ∧
      (freeUserAddressSpace twoFrameTable PhysicalMemory.fourFrameRun).typeAt 0x501000 =
        PhysicalMemory.fourFrameRun.typeAt 0x501000 := by
  have hc : PhysicalMemory.fourFrameRun.map.Canonical := by decide
  obtain ⟨-, hfreed, hkept⟩ := @freeUserAddressSpace_typeAt twoFrameTable _ hc
  -- the two frames are held by entries of `fourFrameRun` for user mode
  have hl4 : PhysicalMemory.fourFrameRun.Holds twoFrameTable.l4Frame .usedByUserMode := by decide
  have hl3' : PhysicalMemory.fourFrameRun.Holds ⟨0x502000, by decide⟩ .usedByUserMode := by decide
  have hl3 : twoFrameTable.UserFrame ⟨0x502000, by decide⟩ :=
    .inr ⟨4, 0, _, le_of_lt (by decide), le_refl _,
      ⟨by decide, fun l h₁ h₂ => absurd h₂ (by omega)⟩, rfl, rfl, rfl⟩
  refine ⟨hc, hfreed _ _ (.inl rfl) (by decide) hl4.whole, hfreed _ _ hl3 (by decide) hl3'.whole,
    hkept _ fun f _ hx hw => ?_⟩
  -- the frame of `0x501000` is `Usable` in `PhysicalMemory.fourFrameRun`
  have := hw _ hx
  revert this
  decide

/-! ## Building a user half

`Paging.Accounts pm₀ held s`: against the frame map `pm₀` a table was started from, every address
whose type has changed lies in a frame of the table's user half or in a frame `held` outside it,
and each of those frames was `Usable` in `pm₀` and is wholly `UsedByUserMode` now. A fresh user
table has it (`createUserPageTable_accounts`); `map_to` of a held frame at a lower-half page keeps
it and puts the frame into the table (`mapTo_accounts`); and the drop of a table that holds no frame
outside its user half gives `pm₀` back (`Paging.Accounts.freeUserAddressSpace_eq`). -/

/-- The indices of a page above level `lvl` are a prefix of those at `lvl`. -/
theorem Page.key_div_pow (p : Page) {l l' : Nat} (h₁ : 1 ≤ l) (h : l ≤ l') :
    p.key l / 512 ^ (l' - l) = p.key l' := by
  unfold Page.key
  rw [Nat.div_div_eq_div_mul, ← Nat.pow_add]
  congr 2
  omega

namespace PageTable

variable {pt : PageTable} {lvl key : Nat} {e : PageTableEntry} {f : PhysFrame}

/-- A frame of the user half: the L4 frame, or the frame of an entry, at any level, whose index
path starts with one of the L4 entries `0..256`. -/
def LowerFrame (pt : PageTable) (f : PhysFrame) : Prop :=
  f = pt.l4Frame ∨ ∃ lvl key e, 1 ≤ lvl ∧ lvl ≤ 4 ∧ key / 512 ^ (4 - lvl) < 256 ∧
    pt.entry lvl key = some e ∧ e.frame = f

/-- The entries above the level-`lvl` entry `key` on its path are present. -/
def AbovePresent (pt : PageTable) (lvl key : Nat) : Prop :=
  ∀ l, lvl < l → l ≤ 4 → ∃ e, pt.entry l (key / 512 ^ (l - lvl)) = some e ∧ e.flags.present = true

/-- Every entry of the user half is present, and so is every entry above it. -/
def Rooted (pt : PageTable) : Prop :=
  ∀ lvl key e, 1 ≤ lvl → lvl ≤ 4 → key / 512 ^ (4 - lvl) < 256 → pt.entry lvl key = some e →
    e.flags.present = true ∧ pt.AbovePresent lvl key

/-- In a rooted table the walk of `free_user_address_space` meets every frame of the user half,
and nothing else. -/
theorem Rooted.userFrame_iff (hr : pt.Rooted) : pt.UserFrame f ↔ pt.LowerFrame f := by
  constructor
  · rintro (rfl | ⟨lvl, key, e, h₁, h₄, ⟨hk, -⟩, he, -, rfl⟩)
    · exact .inl rfl
    · exact .inr ⟨lvl, key, e, h₁, h₄, List.mem_range.mp hk, he, rfl⟩
  · rintro (rfl | ⟨lvl, key, e, h₁, h₄, hk, he, rfl⟩)
    · exact .inl rfl
    · obtain ⟨hp, habove⟩ := hr lvl key e h₁ h₄ hk he
      exact .inr ⟨lvl, key, e, h₁, h₄, ⟨List.mem_range.mpr hk, habove⟩, he, hp, rfl⟩

/-- The walk to a page reaches its level-`lvl` entry when the entries above it are walkable. -/
theorem abovePresent_key {page : Page} (h₁ : 1 ≤ lvl)
    (h : ∀ l, lvl < l → l ≤ 4 → pt.TableEntry l (page.key l)) : pt.AbovePresent lvl (page.key lvl) := by
  intro l hl hl'
  obtain ⟨e, he, hp, -⟩ := h l hl hl'
  exact ⟨e, by rw [page.key_div_pow h₁ hl.le]; exact he, hp⟩

theorem AbovePresent.update {l k : Nat} (hp : e.flags.present = true) (h : pt.AbovePresent l k) :
    (pt.update lvl key (some e)).AbovePresent l k := by
  intro l' hl hl'
  by_cases hlk : l' = lvl ∧ k / 512 ^ (l' - l) = key
  · exact ⟨e, by rw [update_entry, if_pos hlk], hp⟩
  · obtain ⟨e', he', hp'⟩ := h l' hl hl'
    exact ⟨e', by rw [update_entry_of_ne _ _ hlk]; exact he', hp'⟩

/-- Writing a present entry below present entries keeps the table rooted. -/
theorem Rooted.update (hr : pt.Rooted) (hp : e.flags.present = true)
    (habove : pt.AbovePresent lvl key) : (pt.update lvl key (some e)).Rooted := by
  intro l k e' h₁ h₄ hk he'
  by_cases hlk : l = lvl ∧ k = key
  · obtain ⟨rfl, rfl⟩ := hlk
    rw [update_entry_self] at he'
    cases he'
    exact ⟨hp, habove.update hp⟩
  · rw [update_entry_of_ne _ _ hlk] at he'
    obtain ⟨hp', habove'⟩ := hr l k e' h₁ h₄ hk he'
    exact ⟨hp', habove'.update hp⟩

/-- A frame of the user half after a write was one before it, or is the frame written. -/
theorem lowerFrame_update (h : (pt.update lvl key (some e)).LowerFrame f) :
    pt.LowerFrame f ∨ e.frame = f := by
  rcases h with h | ⟨l, k, e', h₁, h₄, hk, he', rfl⟩
  · exact .inl (.inl h)
  · by_cases hlk : l = lvl ∧ k = key
    · obtain ⟨rfl, rfl⟩ := hlk
      rw [update_entry_self] at he'
      cases he'
      exact .inr rfl
    · rw [update_entry_of_ne _ _ hlk] at he'
      exact .inl (.inr ⟨l, k, e', h₁, h₄, hk, he', rfl⟩)

/-- A write that keeps the frame of the entry it replaces keeps every frame of the user half. -/
theorem lowerFrame_update_of (hold : ∀ e₀, pt.entry lvl key = some e₀ → e₀.frame = e.frame)
    (h : pt.LowerFrame f) : (pt.update lvl key (some e)).LowerFrame f := by
  rcases h with h | ⟨l, k, e', h₁, h₄, hk, he', rfl⟩
  · exact .inl h
  · by_cases hlk : l = lvl ∧ k = key
    · obtain ⟨rfl, rfl⟩ := hlk
      exact .inr ⟨l, k, e, h₁, h₄, hk, update_entry_self _ _ _ _, (hold e' he').symm⟩
    · exact .inr ⟨l, k, e', h₁, h₄, hk, by rw [update_entry_of_ne _ _ hlk]; exact he', rfl⟩

end PageTable

/-- What the frames of a user address space under construction owe to the map `pm₀` it started
from: see the section's header. -/
structure Paging.Accounts (pm₀ : PhysicalMemory) (held : PhysFrame → Prop) (s : Paging) : Prop where
  canonical : s.phys.map.Canonical
  rooted : s.pt.Rooted
  owned : ∀ f, s.pt.LowerFrame f ∨ held f →
    (∀ x, f.Mem x → pm₀.typeAt x = some .usable) ∧ s.phys.Whole f .usedByUserMode
  changed : ∀ x, s.phys.typeAt x ≠ pm₀.typeAt x → ∃ f, (s.pt.LowerFrame f ∨ held f) ∧ f.Mem x

namespace Paging.Accounts

variable {pm₀ : PhysicalMemory} {held : PhysFrame → Prop} {s s' : Paging}

/-- An address that is `Usable` now is `Usable` in `pm₀`. -/
theorem typeAt_of_usable (h : Accounts pm₀ held s) {x : Nat}
    (hx : s.phys.typeAt x = some .usable) : pm₀.typeAt x = some .usable := by
  by_contra hne
  obtain ⟨f, hf, hfx⟩ := h.changed x fun heq => hne (heq.symm.trans hx)
  have := (h.owned f hf).2 x hfx
  rw [hx] at this
  cases this

/-- Taking a frame from the allocator for user mode: the frame is held. -/
theorem alloc (h : Accounts pm₀ held s) {F : PhysFrame} {phys : PhysicalMemory}
    (ha : s.phys.allocateFrameWithType .usedByUserMode = .ok (some (F, phys))) :
    Accounts pm₀ (fun f => held f ∨ f = F) ⟨s.pt, phys⟩ := by
  obtain ⟨husable, hty⟩ := PhysicalMemory.allocateFrameWithType_spec ha
  -- the allocation only turns the addresses of `F` to `UsedByUserMode`
  have hwhole : ∀ f, s.phys.Whole f .usedByUserMode → phys.Whole f .usedByUserMode :=
    fun f hw y hy => by
      rw [hty y]
      split
      · rfl
      · exact hw y hy
  refine ⟨PhysicalMemory.allocateFrameWithType_canonical h.canonical ha, h.rooted,
    fun f hf => ?_, fun x hx => ?_⟩
  · rcases hf with hf | hf | rfl
    · exact (h.owned f (.inl hf)).imp_right (hwhole f)
    · exact (h.owned f (.inr hf)).imp_right (hwhole f)
    · exact ⟨fun x hx => h.typeAt_of_usable (husable x hx), fun y hy => by rw [hty y, if_pos hy]⟩
  · by_cases hF : F.Mem x
    · exact ⟨F, .inr (.inr rfl), hF⟩
    · rw [hty x, if_neg hF] at hx
      obtain ⟨f, hf, hfx⟩ := h.changed x hx
      exact ⟨f, hf.imp_right .inl, hfx⟩

/-- Writing a present entry, below present entries, that points to a frame the table owns. -/
theorem write (h : Accounts pm₀ held s) {lvl key : Nat} {e : PageTableEntry}
    (hp : e.flags.present = true) (habove : s.pt.AbovePresent lvl key)
    (hold : ∀ e₀, s.pt.entry lvl key = some e₀ → e₀.frame = e.frame)
    (hF : s.pt.LowerFrame e.frame ∨ held e.frame) :
    Accounts pm₀ held ⟨s.pt.update lvl key (some e), s.phys⟩ := by
  have hframes : ∀ f, (s.pt.update lvl key (some e)).LowerFrame f ∨ held f →
      s.pt.LowerFrame f ∨ held f := by
    rintro f (hf | hf)
    · rcases PageTable.lowerFrame_update hf with hf | rfl
      · exact .inl hf
      · exact hF
    · exact .inr hf
  refine ⟨h.canonical, h.rooted.update hp habove, fun f hf => h.owned f (hframes f hf),
    fun x hx => ?_⟩
  obtain ⟨f, hf, hfx⟩ := h.changed x hx
  exact ⟨f, hf.imp_left (PageTable.lowerFrame_update_of hold), hfx⟩

/-- A held frame that the user half now holds need not be held. -/
theorem release {F : PhysFrame} (h : Accounts pm₀ (fun f => held f ∨ f = F) s)
    (hF : s.pt.LowerFrame F) : Accounts pm₀ held s := by
  refine ⟨h.canonical, h.rooted, fun f hf => h.owned f (hf.imp_right .inl), fun x hx => ?_⟩
  obtain ⟨f, hf, hfx⟩ := h.changed x hx
  refine ⟨f, ?_, hfx⟩
  rcases hf with hf | hf | rfl
  · exact .inl hf
  · exact .inr hf
  · exact .inl hF

/-- `create_next_table` for user mode at an entry of the user half below present entries. -/
theorem createNextTable (h : Accounts pm₀ held s) {lvl key : Nat} {fl : PageTableFlags}
    (h₂ : 2 ≤ lvl) (h₄ : lvl ≤ 4) (hk : key / 512 ^ (4 - lvl) < 256)
    (habove : s.pt.AbovePresent lvl key)
    (hok : createNextTable .usedByUserMode lvl key fl s = .ok () s') : Accounts pm₀ held s' := by
  rcases createNextTable_ok_cases hok with ⟨F, hnone, ha, hp, hpt⟩ | ⟨e, he, hp, rfl⟩
  · -- a fresh table: taken from the allocator, then written, then owned by the table
    have hw := (h.alloc ha).write (e := ⟨F, fl⟩) hp habove
      (fun e₀ he₀ => by rw [hnone] at he₀; cases he₀) (.inr (.inr rfl))
    have hs' : s' = ⟨s.pt.update lvl key (some ⟨F, fl⟩), s'.phys⟩ := by
      rw [← hpt]
    rw [hs']
    exact hw.release (.inr ⟨lvl, key, _, by omega, h₄, hk, PageTable.update_entry_self _ _ _ _, rfl⟩)
  · -- an entry in use keeps its frame
    exact h.write hp habove (fun e₀ he₀ => by rw [he] at he₀; cases he₀; simp)
      (.inl (.inr ⟨lvl, key, e, by omega, h₄, hk, he, by simp⟩))

/-- `map_to` for user mode of a held frame at a page of the lower half, with present flags: the
three tables on the way are made or kept, the leaf is written, and the frame is no longer held. -/
theorem mapTo {page : Page} {F : PhysFrame} {flags : PageTableFlags}
    (hpage : page.start.addr < 2 ^ 47) (hfl : flags.present = true)
    (h : Accounts pm₀ (fun f => held f ∨ f = F) s)
    (hok : mapTo .usedByUserMode page F flags s = .ok () s') : Accounts pm₀ held s' := by
  have hlow : ∀ l, 1 ≤ l → l ≤ 4 → page.key l / 512 ^ (4 - l) < 256 := fun l h₁ h₄ => by
    rw [page.key_div_pow h₁ h₄]
    exact (Page.key_four_lt_iff page).mpr hpage
  unfold Bos.mapTo at hok
  obtain ⟨_, s₁, h₁, hok⟩ := Kern.bind_ok_iff.mp hok
  obtain ⟨_, s₂, h₂, hok⟩ := Kern.bind_ok_iff.mp hok
  obtain ⟨_, s₃, h₃, hok⟩ := Kern.bind_ok_iff.mp hok
  -- each level's table is made below the ones made before it
  have a₁ := h.createNextTable (by decide) le_rfl (hlow 4 (by decide) le_rfl)
    (PageTable.abovePresent_key (by decide) fun l hl hl' => absurd hl' (by omega)) h₁
  obtain ⟨e₁, t₁, -⟩ := createNextTable_ok h₁
  have a₂ := a₁.createNextTable (by decide) (by decide) (hlow 3 (by decide) (by decide))
    (PageTable.abovePresent_key (by decide) fun l hl hl' => by
      obtain rfl : l = 4 := by omega
      exact t₁) h₂
  obtain ⟨e₂, t₂, -⟩ := createNextTable_ok h₂
  have a₃ := a₂.createNextTable (by decide) (by decide) (hlow 2 (by decide) (by decide))
    (PageTable.abovePresent_key (by decide) fun l hl hl' => by
      obtain rfl | rfl : l = 3 ∨ l = 4 := by omega
      · exact t₂
      · exact e₂.keep _ _ t₁) h₃
  obtain ⟨e₃, t₃, -⟩ := createNextTable_ok h₃
  simp only [Kern.bind_apply, Kern.get_apply] at hok
  split at hok
  · cases hok
  · rename_i hfree
    cases hok
    -- the leaf: unused, below the three tables, and then the frame is the table's
    have hnone : s₃.pt.entry 1 page.path = none := Option.not_isSome_iff_eq_none.mp hfree
    have habove : s₃.pt.AbovePresent 1 page.path := by
      rw [← page.key_one]
      refine PageTable.abovePresent_key le_rfl fun l hl hl' => ?_
      obtain rfl | rfl | rfl : l = 2 ∨ l = 3 ∨ l = 4 := by omega
      · exact t₃
      · exact e₃.keep _ _ t₂
      · exact e₃.keep _ _ (e₂.keep _ _ t₁)
    refine (a₃.write hfl habove (fun e₀ he₀ => by rw [hnone] at he₀; cases he₀)
      (.inr (.inr rfl))).release (.inr ⟨1, page.path, _, le_rfl, by decide, ?_,
        PageTable.update_entry_self _ _ _ _, rfl⟩)
    rw [← page.key_one]
    exact hlow 1 le_rfl (by decide)

end Paging.Accounts

/-- A fresh user table owns its L4 frame and nothing else. -/
theorem createUserPageTable_accounts {kernel pt : PageTable} {phys phys' : PhysicalMemory}
    (hc : phys.map.Canonical) (h : createUserPageTable kernel phys = .ok (pt, phys')) :
    Paging.Accounts phys (fun _ => False) ⟨pt, phys'⟩ := by
  unfold createUserPageTable at h
  split at h
  · cases h
  · rename_i l4 phys'' halloc
    cases h
    obtain ⟨husable, hty⟩ := PhysicalMemory.allocateFrameWithType_spec halloc
    -- the user half of the fresh table is empty
    have hnone : ∀ lvl key e, key / 512 ^ (4 - lvl) < 256 →
        (if 256 ≤ key / 512 ^ (4 - lvl) then kernel.entry lvl key else none) ≠ some e :=
      fun lvl key e hk => by rw [if_neg (by omega)]; exact Option.some_ne_none e ∘ Eq.symm
    have hl4 : ∀ f, PageTable.LowerFrame ⟨l4, fun lvl key =>
        if 256 ≤ key / 512 ^ (4 - lvl) then kernel.entry lvl key else none⟩ f ∨ False → f = l4 := by
      rintro f ((rfl | ⟨lvl, key, e, -, -, hk, he, -⟩) | hf)
      · rfl
      · exact absurd he (hnone lvl key e hk)
      · exact hf.elim
    refine ⟨PhysicalMemory.allocateFrameWithType_canonical hc halloc,
      fun lvl key e _ _ hk he => absurd he (hnone lvl key e hk), fun f hf => ?_, fun x hx => ?_⟩
    · obtain rfl := hl4 f hf
      exact ⟨husable, fun y hy => by rw [hty y, if_pos hy]⟩
    · by_cases hx' : l4.Mem x
      · exact ⟨l4, .inl (.inl rfl), hx'⟩
      · rw [hty x, if_neg hx'] at hx
        exact absurd rfl hx
  · cases h

/-- The drop of a table that holds no frame outside its user half gives back the map it was
built from. -/
theorem Paging.Accounts.freeUserAddressSpace_eq {pm₀ : PhysicalMemory} {s : Paging}
    (hc₀ : pm₀.map.Canonical) (h : Paging.Accounts pm₀ (fun _ => False) s) :
    freeUserAddressSpace s.pt s.phys = pm₀ := by
  have hframe : ∀ f, s.pt.UserFrame f ↔ s.pt.LowerFrame f ∨ False := fun f => by
    rw [h.rooted.userFrame_iff, or_false]
  refine PhysicalMemory.eq_of_typeAt (freeUserAddressSpace_canonical h.canonical) hc₀ fun x => ?_
  by_cases hx : ∃ f, s.pt.UserFrame f ∧ f.Mem x
  · -- `x` lies in a frame of the user half: it was `Usable` and is freed
    obtain ⟨f, hf, hfx⟩ := hx
    obtain ⟨h₀, hw⟩ := h.owned f ((hframe f).mp hf)
    rw [freeUserAddressSpace_typeAt_freed h.canonical hf hfx hw, h₀ x hfx]
  · -- elsewhere nothing changed, neither in the build nor in the drop
    rw [freeUserAddressSpace_typeAt_kept h.canonical fun f hf hfx _ => hx ⟨f, hf, hfx⟩]
    by_contra hne
    obtain ⟨f, hf, hfx⟩ := h.changed x hne
    exact hx ⟨f, (hframe f).mpr hf, hfx⟩

end Bos
