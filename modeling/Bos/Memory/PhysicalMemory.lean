import Bos.Lib.IntervalMap
import Bos.Memory.Addr

/-!
# Bos.Memory.PhysicalMemory

The physical frame allocator of `memory/physical_memory.rs`: an interval map from physical
addresses to the `MemoryType` recorded for them. `allocate_frame_with_type` hands out the first
4 KiB-aligned frame it finds in a `Usable` interval and re-marks it; `free_frame` checks that one
interval covers the frame with the expected type and marks it `Usable` again.

Both are described by their effect on `MemoryType` at each address (`typeAt`):

* `allocateFrameWithType_spec`: the frame was `Usable` throughout and now has the requested type;
  every other address keeps its type.
* `freeFrame_spec`: the frame had the expected type throughout and is now `Usable`; every other
  address keeps its type. A failed `free_frame` returns the error and changes nothing.
-/

namespace Bos

inductive KernelMemoryUsageType where
  | pageTables
  | globalAllocatorHeap
  | stack
  deriving DecidableEq, Repr

inductive MemoryType where
  | usable
  | usedByLimine
  | usedByKernel (k : KernelMemoryUsageType)
  | usedByUserMode
  | sharedBuffer
  deriving DecidableEq, Repr

inductive FreeError where
  | frameNotAllocated
  | wrongMemoryType (expected found : MemoryType)
  deriving DecidableEq, Repr

structure PhysicalMemory where
  map : IntervalMap MemoryType
  deriving DecidableEq

namespace PhysicalMemory

/-- The type recorded at a physical address, `none` outside the tracked map. -/
def typeAt (pm : PhysicalMemory) (x : Nat) : Option MemoryType := pm.map.get? x

/-- The interval `[a, a + 4096)` (`(a..a + size).into()`). -/
def frameIval (a : Nat) : Ival := ⟨a, a + pageSize - 1, by unfold pageSize; omega⟩

theorem frameIval_mem (f : PhysFrame) (x : Nat) : (frameIval f.start).Mem x ↔ f.Mem x := by
  simp only [frameIval, Ival.mem_iff, PhysFrame.Mem, pageSize]; omega

/-- The `find_map` body of `allocate_frame_with_type`. The frame's exclusive end is compared with
the interval's inclusive end, as the source does. -/
def usableStart (e : Ival × MemoryType) : Option Nat :=
  match e.2 with
  | .usable =>
    let alignedStart := nextMultipleOf e.1.start pageSize
    let requiredEnd := alignedStart + pageSize
    if requiredEnd ≤ e.1.last then some alignedStart else none
  | _ => none

/-- `allocate_frame_with_type`: `Ok None` when no `Usable` interval fits a frame. `PhysAddr::new`
panics on a frame that starts at or above `2 ^ 52`, after the map has been updated. The `unwrap`
of the insertion cannot fail, since the range was just cut out (`insertMerge_eq_ok`,
`disjoint_cut`). -/
def allocateFrameWithType (pm : PhysicalMemory) (memoryType : MemoryType) :
    Except String (Option (PhysFrame × PhysicalMemory)) :=
  match pm.map.entries.findSome? usableStart with
  | none => .ok none
  | some alignedStart =>
    let range := frameIval alignedStart
    match (pm.map.cut range).insertMergeTouchingIfValuesEqual range memoryType with
    | .ok map =>
      if alignedStart < 2 ^ 52 then .ok (some (PhysFrame.containingAddress alignedStart, ⟨map⟩))
      else .error "physical addresses must not have any bits in the range 52 to 64 set"
    | .error _ => .error "called `Result::unwrap()` on an `Err` value"

/-- `free_frame`. -/
def freeFrame (pm : PhysicalMemory) (frame : PhysFrame) (expected : MemoryType) :
    Except FreeError PhysicalMemory :=
  let start := frame.start
  let end_ := start + pageSize - 1
  match pm.map.entries.find? (fun e => decide (e.1.start ≤ start ∧ e.1.last ≥ end_)) with
  | none => .error .frameNotAllocated
  | some (_, foundType) =>
    if foundType ≠ expected then .error (.wrongMemoryType expected foundType)
    else
      let range := frameIval start
      match (pm.map.cut range).insertMergeTouchingIfValuesEqual range .usable with
      | .ok map => .ok ⟨map⟩
      | .error _ => .error .frameNotAllocated

/-- Limine's `EntryType`, a `u64` with named values. -/
structure EntryType where
  val : UInt64
  deriving DecidableEq, Repr

/-- `EntryType::USABLE`. -/
def EntryType.usable : EntryType := ⟨0⟩

/-- `EntryType::BOOTLOADER_RECLAIMABLE`. -/
def EntryType.bootloaderReclaimable : EntryType := ⟨5⟩

/-- An entry of Limine's memory map. -/
structure MemoryMapEntry where
  base : UInt64
  length : UInt64
  entryType : EntryType
  deriving DecidableEq, Repr

/-- `GLOBAL_ALLOCATOR_SIZE`: 4 MiB. -/
def globalAllocatorSize : Nat := 4 * 0x400 * 0x400

/-- `global_allocator::init`: `PhysAddr::new` of the base of the first `USABLE` entry of at least
`GLOBAL_ALLOCATOR_SIZE` bytes. `none` is a panic: no such entry (`unwrap`), or a base with a bit
set above bit 51. -/
def globalAllocatorInit (entries : List MemoryMapEntry) : Option Nat := do
  let entry ← entries.find? fun e =>
    decide (e.entryType = .usable ∧ globalAllocatorSize ≤ e.length.toNat)
  if entry.base.toNat < 2 ^ 52 then some entry.base.toNat else none

/-- The type `PhysicalMemory::new` records for an entry: `Usable`, `UsedByLimine`, or nothing,
since the other entries may overlap. -/
def memoryTypeOfEntry (t : EntryType) : Option MemoryType :=
  if t = .usable then some .usable
  else if t = .bootloaderReclaimable then some .usedByLimine
  else none

/-- One iteration of the loop of `PhysicalMemory::new`. `none` is a panic: `base + length`
overflows, the range is empty, or the insertion overlaps (`unwrap`). -/
def insertEntry (map : IntervalMap MemoryType) (entry : MemoryMapEntry) :
    Option (IntervalMap MemoryType) :=
  match memoryTypeOfEntry entry.entryType with
  | none => some map
  | some memoryType => do
    let e ← addU64? entry.base.toNat entry.length.toNat
    let interval ← Ival.ie? entry.base.toNat e
    (map.insertMergeTouchingIfValuesEqual interval memoryType).toOption

/-- `PhysicalMemory::new(memory_map, global_allocator_start)`: the boot map, with the global
allocator's 4 MiB cut out and recorded as its heap. `none` is a panic. -/
def new (entries : List MemoryMapEntry) (globalAllocatorStart : Nat) : Option PhysicalMemory := do
  let map ← entries.foldlM insertEntry IntervalMap.empty
  let e ← addU64? globalAllocatorStart globalAllocatorSize
  let interval ← Ival.ie? globalAllocatorStart e
  let map ← ((map.cut interval).insertMergeTouchingIfValuesEqual interval
    (.usedByKernel .globalAllocatorHeap)).toOption
  pure ⟨map⟩

/-- The start of `init_bsp`: the global allocator takes its memory, then `PhysicalMemory::new`. -/
def boot (entries : List MemoryMapEntry) : Option PhysicalMemory :=
  globalAllocatorInit entries >>= new entries

theorem usableStart_spec {e : Ival × MemoryType} {a : Nat} (h : usableStart e = some a) :
    e.2 = .usable ∧ a % pageSize = 0 ∧ e.1.start ≤ a ∧ a + pageSize ≤ e.1.last := by
  obtain ⟨i, t⟩ := e
  have := nextMultipleOf_spec i.start
  cases t <;> simp only [usableStart, reduceCtorEq] at h
  split at h
  · cases h; exact ⟨rfl, this.2.2, this.1, by assumption⟩
  · cases h

theorem get?_cut_insert (m : IntervalMap MemoryType) (r : Ival) (t : MemoryType) (x : Nat) :
    ∃ m', (m.cut r).insertMergeTouchingIfValuesEqual r t = .ok m' ∧
      m'.get? x = if r.Mem x then some t else m.get? x := by
  refine ⟨_, IntervalMap.insertMerge_eq_ok (IntervalMap.disjoint_cut m r) t, ?_⟩
  rw [IntervalMap.get?_insertMerged (IntervalMap.disjoint_cut m r), IntervalMap.get?_cut]
  split <;> simp_all

theorem containingAddress_of_aligned {a : Nat} (h : a % pageSize = 0) :
    (PhysFrame.containingAddress a).start = a := by
  simp only [PhysFrame.containingAddress]; unfold pageSize at *; omega

/-- An allocated frame was `Usable` throughout, and only its addresses change type. -/
theorem allocateFrameWithType_spec {pm pm' : PhysicalMemory} {t : MemoryType} {f : PhysFrame}
    (h : pm.allocateFrameWithType t = .ok (some (f, pm'))) :
    (∀ x, f.Mem x → pm.typeAt x = some .usable) ∧
      ∀ x, pm'.typeAt x = if f.Mem x then some t else pm.typeAt x := by
  unfold allocateFrameWithType at h
  split at h
  · cases h
  · rename_i a ha
    obtain ⟨e, he, hea⟩ := List.exists_of_findSome?_eq_some ha
    obtain ⟨ht, hal, hlo, hhi⟩ := usableStart_spec hea
    have hfa : (PhysFrame.containingAddress a).start = a := containingAddress_of_aligned hal
    dsimp only at h
    split at h
    · rename_i map hmap
      -- a frame at or above `2 ^ 52` panics in `PhysAddr::new`
      have ha52 : a < 2 ^ 52 := by
        by_contra hge
        rw [if_neg hge] at h
        cases h
      rw [if_pos ha52] at h
      cases h
      refine ⟨fun x hx => ?_, fun x => ?_⟩
      · unfold PhysFrame.Mem at hx
        rw [hfa] at hx
        have hx' : e.1.Mem x := by simp only [Ival.mem_iff]; unfold pageSize at *; omega
        unfold typeAt IntervalMap.get?
        rw [IntervalMap.lookup_eq_of_mem pm.map.sorted he hx', ht]
      · obtain ⟨m', hm', hget⟩ := get?_cut_insert pm.map (frameIval a) t x
        rw [hmap] at hm'
        cases hm'
        have hiff : (frameIval a).Mem x ↔ (PhysFrame.containingAddress a).Mem x := by
          rw [← frameIval_mem, hfa]
        rw [typeAt, hget]
        by_cases hx : (PhysFrame.containingAddress a).Mem x
        · rw [if_pos (hiff.mpr hx), if_pos hx]
        · rw [if_neg (fun h => hx (hiff.mp h)), if_neg hx]; rfl
    · rename_i hins
      have := IntervalMap.insertMerge_eq_ok (IntervalMap.disjoint_cut pm.map (frameIval a)) t
      rw [this] at hins
      cases hins

/-- `pm'` differs from `pm` only at addresses that were `Usable` in `pm` and have type `t` in
`pm'`: what any sequence of allocations of type `t` does. -/
def OnlyAllocates (t : MemoryType) (pm pm' : PhysicalMemory) : Prop :=
  ∀ x, pm'.typeAt x = pm.typeAt x ∨ (pm.typeAt x = some .usable ∧ pm'.typeAt x = some t)

namespace OnlyAllocates

variable {t : MemoryType} {pm pm' pm'' : PhysicalMemory}

theorem refl (t : MemoryType) (pm : PhysicalMemory) : OnlyAllocates t pm pm := fun _ => .inl rfl

theorem trans (h₁ : OnlyAllocates t pm pm') (h₂ : OnlyAllocates t pm' pm'') :
    OnlyAllocates t pm pm'' := by
  intro x
  rcases h₁ x with h₁ | ⟨h₁u, h₁t⟩ <;> rcases h₂ x with h₂ | ⟨h₂u, h₂t⟩
  · exact .inl (h₂.trans h₁)
  · exact .inr ⟨h₁ ▸ h₂u, h₂t⟩
  · exact .inr ⟨h₁u, h₂.trans h₁t⟩
  · exact .inr ⟨h₁u, h₂t⟩

/-- An address that is `Usable` after allocations of another type was `Usable` before. -/
theorem usable_of_usable (h : OnlyAllocates t pm pm') (ht : t ≠ .usable) {x : Nat}
    (hx : pm'.typeAt x = some .usable) : pm.typeAt x = some .usable := by
  rcases h x with h | ⟨hu, htx⟩
  · rwa [← h]
  · rw [hx] at htx
    exact absurd (Option.some.inj htx).symm ht

end OnlyAllocates

theorem allocateFrameWithType_onlyAllocates {pm pm' : PhysicalMemory} {t : MemoryType}
    {f : PhysFrame} (h : pm.allocateFrameWithType t = .ok (some (f, pm'))) :
    OnlyAllocates t pm pm' := by
  obtain ⟨husable, hty⟩ := allocateFrameWithType_spec h
  intro x
  rw [hty x]
  by_cases hx : f.Mem x
  · exact .inr ⟨husable x hx, by rw [if_pos hx]⟩
  · exact .inl (by rw [if_neg hx])

/-- A frame that `free_frame` accepts had the expected type throughout, and only its addresses
change, to `Usable`. -/
theorem freeFrame_spec {pm pm' : PhysicalMemory} {f : PhysFrame} {t : MemoryType}
    (h : pm.freeFrame f t = .ok pm') :
    (∀ x, f.Mem x → pm.typeAt x = some t) ∧
      ∀ x, pm'.typeAt x = if f.Mem x then some .usable else pm.typeAt x := by
  unfold freeFrame at h
  dsimp only at h
  split at h
  · cases h
  · rename_i i found hfind
    have he := List.mem_of_find?_eq_some hfind
    have hcov := List.find?_some hfind
    simp only [decide_eq_true_eq, ge_iff_le] at hcov
    split at h
    · cases h
    · rename_i hft
      simp only [ne_eq, Decidable.not_not] at hft
      subst hft
      split at h
      · rename_i map hmap
        cases h
        refine ⟨fun x hx => ?_, fun x => ?_⟩
        · have hx' : (i, found).1.Mem x := by
            simp only [Ival.mem_iff]; unfold PhysFrame.Mem pageSize at *; omega
          exact IntervalMap.lookup_eq_of_mem pm.map.sorted he hx'
        · obtain ⟨m', hm', hget⟩ := get?_cut_insert pm.map (frameIval f.start) .usable x
          rw [hmap] at hm'
          cases hm'
          rw [typeAt, hget]
          by_cases hx : f.Mem x
          · rw [if_pos ((frameIval_mem f x).mpr hx), if_pos hx]
          · rw [if_neg (fun h => hx ((frameIval_mem f x).mp h)), if_neg hx]; rfl
      · rename_i hins
        rw [IntervalMap.insertMerge_eq_ok (IntervalMap.disjoint_cut pm.map _)] at hins
        cases hins

/-- `free_frame` refuses a frame whose first byte does not have the expected type. -/
theorem freeFrame_error_of_typeAt {pm : PhysicalMemory} {f : PhysFrame} {t : MemoryType}
    (h : pm.typeAt f.start ≠ some t) : ∃ e, pm.freeFrame f t = .error e := by
  cases hf : pm.freeFrame f t with
  | error e => exact ⟨e, rfl⟩
  | ok pm' =>
    have := (freeFrame_spec hf).1 f.start ⟨Nat.le_refl _, by unfold pageSize; omega⟩
    exact absurd this h

/-- One entry of the map holds the whole frame, with type `t`: the entry `free_frame` looks for. -/
def Holds (pm : PhysicalMemory) (f : PhysFrame) (t : MemoryType) : Prop :=
  ∃ e ∈ pm.map.entries, e.1.start ≤ f.start ∧ f.start + pageSize - 1 ≤ e.1.last ∧ e.2 = t

instance (pm : PhysicalMemory) (f : PhysFrame) (t : MemoryType) : Decidable (pm.Holds f t) :=
  inferInstanceAs (Decidable (∃ e ∈ pm.map.entries, _))

/-- `free_frame` accepts a frame that one entry of the expected type holds. -/
theorem freeFrame_ok_of_holds {pm : PhysicalMemory} {f : PhysFrame} {t : MemoryType}
    (h : pm.Holds f t) : ∃ pm', pm.freeFrame f t = .ok pm' := by
  obtain ⟨⟨i, ty⟩, he, hlo, hhi, ht⟩ := h
  dsimp only at hlo hhi ht
  subst ht
  let p : Ival × MemoryType → Bool :=
    fun e => decide (e.1.start ≤ f.start ∧ e.1.last ≥ f.start + pageSize - 1)
  have hsome : (pm.map.entries.find? p).isSome := by
    rw [List.find?_isSome]
    exact ⟨(i, ty), he, by simp only [p, decide_eq_true_eq]; omega⟩
  obtain ⟨⟨i₀, ty₀⟩, hfind⟩ := Option.isSome_iff_exists.mp hsome
  have hcov₀ := List.find?_some hfind
  simp only [p, decide_eq_true_eq] at hcov₀
  unfold pageSize at hhi hcov₀
  -- the entries are disjoint, so the entry found is the one that holds the frame
  have hx₀ : (i₀, ty₀).1.Mem f.start := by simp only [Ival.mem_iff]; omega
  have hx : (i, ty).1.Mem f.start := by simp only [Ival.mem_iff]; omega
  have heq := IntervalMap.eq_of_mem_of_mem pm.map.sorted (List.mem_of_find?_eq_some hfind) he hx₀ hx
  cases heq
  unfold freeFrame
  dsimp only
  rw [show (pm.map.entries.find? fun e => decide (e.1.start ≤ f.start ∧
    e.1.last ≥ f.start + pageSize - 1)) = some (i, ty) from hfind]
  dsimp only
  rw [if_neg (fun h => h rfl)]
  obtain ⟨m', hm', -⟩ := get?_cut_insert pm.map (frameIval f.start) .usable 0
  rw [hm']
  exact ⟨_, rfl⟩

end PhysicalMemory

end Bos
