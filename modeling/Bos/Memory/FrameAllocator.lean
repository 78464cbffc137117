import Bos.Lib.Kern
import Bos.Memory.PhysicalMemory

/-!
# Bos.Memory.FrameAllocator

The frame allocator of `memory/physical_memory.rs` over whole runs. Every update of the map cuts
one range out and inserts it back with a type, so from the map `PhysicalMemory::new` builds the
map stays canonical: no two touching intervals carry the same `MemoryType`. A canonical map is
determined by the type at each address (`IntervalMap.eq_of_canonical`), so a run is described by
the types the calls give to addresses.

* `free_frame_checks_then_updates`: `free_frame` accepts a frame exactly when one interval holds
  all of it with the expected type, says otherwise which check failed, and refuses a second free.
* `frame_run_canonical_fresh`: over a run of calls from `PhysicalMemory::new` the map stays
  canonical, and a frame handed out and not freed since keeps a type other than `Usable`, so no
  allocation hands it out again.
* `allocate_fails_on_whole_frames`: the fit test compares the frame's exclusive end with the
  interval's inclusive end, so a `Usable` interval that is one whole aligned frame never gives
  it; a frame freed between two allocated ones is such an interval.
* `allocate_then_free_restores`: freeing the frame just allocated puts the map back as it was.
-/

namespace Bos

namespace PhysicalMemory

/-! ## Inversion lemmas -/

/-- A successful allocation took the first fitting start `a` of a `Usable` entry, cut its frame
out and inserted it with the requested type. -/
theorem allocateFrameWithType_eq_some {pm pm' : PhysicalMemory} {t : MemoryType} {f : PhysFrame}
    (h : pm.allocateFrameWithType t = .ok (some (f, pm'))) :
    ∃ a, pm.map.entries.findSome? usableStart = some a ∧ f = PhysFrame.containingAddress a ∧
      (pm.map.cut (frameIval a)).insertMergeTouchingIfValuesEqual (frameIval a) t = .ok pm'.map := by
  unfold allocateFrameWithType at h
  split at h
  · cases h
  · rename_i a ha
    dsimp only at h
    split at h
    · rename_i map hmap
      split at h
      · cases h
        exact ⟨a, ha, rfl, hmap⟩
      · cases h
    · cases h

/-- An allocation panics only in `PhysAddr::new`, on a first fitting start at or above
`2 ^ 52`. -/
theorem allocateFrameWithType_eq_error {pm : PhysicalMemory} {t : MemoryType} {m : String}
    (h : pm.allocateFrameWithType t = .error m) :
    ∃ a, pm.map.entries.findSome? usableStart = some a ∧ 2 ^ 52 ≤ a := by
  unfold allocateFrameWithType at h
  split at h
  · cases h
  · rename_i a ha
    dsimp only at h
    split at h
    · split at h
      · cases h
      · rename_i hge
        exact ⟨a, ha, Nat.le_of_not_lt hge⟩
    · -- the insertion after the cut cannot fail
      rename_i hins
      rw [IntervalMap.insertMerge_eq_ok (IntervalMap.disjoint_cut pm.map _)] at hins
      cases hins

/-- A successful free found an entry holding the frame with the expected type, then cut the frame
out and inserted it as `Usable`. -/
theorem freeFrame_eq_ok {pm pm' : PhysicalMemory} {f : PhysFrame} {t : MemoryType}
    (h : pm.freeFrame f t = .ok pm') :
    pm.Holds f t ∧ (pm.map.cut (frameIval f.start)).insertMergeTouchingIfValuesEqual
      (frameIval f.start) .usable = .ok pm'.map := by
  unfold freeFrame at h
  dsimp only at h
  split at h
  · cases h
  · rename_i i found hfind
    have hcov := List.find?_some hfind
    simp only [decide_eq_true_eq, ge_iff_le] at hcov
    split at h
    · cases h
    · rename_i hft
      simp only [ne_eq, Decidable.not_not] at hft
      split at h
      · rename_i map hmap
        cases h
        exact ⟨⟨(i, found), List.mem_of_find?_eq_some hfind, hcov.1, hcov.2, hft⟩, hmap⟩
      · cases h

theorem freeFrame_ok_iff_holds {pm : PhysicalMemory} {f : PhysFrame} {t : MemoryType} :
    (∃ pm', pm.freeFrame f t = .ok pm') ↔ pm.Holds f t :=
  ⟨fun ⟨_, h⟩ => (freeFrame_eq_ok h).1, freeFrame_ok_of_holds⟩

/-- A refused free: no entry holds the whole frame (`FrameNotAllocated`), or the one that does has
another type (`WrongMemoryType`). -/
theorem freeFrame_eq_error {pm : PhysicalMemory} {f : PhysFrame} {t : MemoryType} {e : FreeError}
    (h : pm.freeFrame f t = .error e) :
    (e = .frameNotAllocated ∧ ∀ u, ¬ pm.Holds f u) ∨
      ∃ found, found ≠ t ∧ e = .wrongMemoryType t found ∧ pm.Holds f found := by
  unfold freeFrame at h
  dsimp only at h
  split at h
  · rename_i hfind
    cases h
    refine .inl ⟨rfl, fun u ⟨en, hen, hlo, hhi, _⟩ => ?_⟩
    have := List.find?_eq_none.mp hfind en hen
    simp only [decide_eq_true_eq, ge_iff_le, not_and, Nat.not_le] at this
    exact absurd hhi (Nat.not_le.mpr (this hlo))
  · rename_i i found hfind
    have hcov := List.find?_some hfind
    simp only [decide_eq_true_eq, ge_iff_le] at hcov
    split at h
    · rename_i hft
      cases h
      exact .inr ⟨found, hft, rfl, (i, found), List.mem_of_find?_eq_some hfind, hcov.1, hcov.2, rfl⟩
    · split at h
      · cases h
      · rename_i hins
        rw [IntervalMap.insertMerge_eq_ok (IntervalMap.disjoint_cut pm.map _)] at hins
        cases hins

/-! ## The canonical form -/

theorem allocateFrameWithType_canonical {pm pm' : PhysicalMemory} {t : MemoryType} {f : PhysFrame}
    (hc : pm.map.Canonical) (h : pm.allocateFrameWithType t = .ok (some (f, pm'))) :
    pm'.map.Canonical := by
  obtain ⟨a, -, -, hins⟩ := allocateFrameWithType_eq_some h
  exact IntervalMap.canonical_cut_insert hc hins

theorem freeFrame_canonical {pm pm' : PhysicalMemory} {f : PhysFrame} {t : MemoryType}
    (hc : pm.map.Canonical) (h : pm.freeFrame f t = .ok pm') : pm'.map.Canonical :=
  IntervalMap.canonical_cut_insert hc (freeFrame_eq_ok h).2

theorem insertEntry_canonical {map map' : IntervalMap MemoryType} {entry : MemoryMapEntry}
    (hc : map.Canonical) (h : insertEntry map entry = some map') : map'.Canonical := by
  unfold insertEntry at h
  split at h
  · cases h
    exact hc
  · rename_i memoryType _
    obtain ⟨e, -, h⟩ := Option.bind_eq_some_iff.mp h
    obtain ⟨i, -, h⟩ := Option.bind_eq_some_iff.mp h
    cases hins : map.insertMergeTouchingIfValuesEqual i memoryType with
    | error _ =>
      rw [hins] at h
      cases h
    | ok m =>
      rw [hins] at h
      cases h
      obtain ⟨hd, rfl⟩ := IntervalMap.insertMerge_eq_ok_iff.mp hins
      exact IntervalMap.canonical_insertMerged hd _ hc

theorem foldlM_insertEntry_canonical :
    ∀ (entries : List MemoryMapEntry) (map map' : IntervalMap MemoryType), map.Canonical →
      entries.foldlM insertEntry map = some map' → map'.Canonical
  | [], _, _, hc, h => by
    cases h
    exact hc
  | entry :: rest, map, map', hc, h => by
    rw [List.foldlM_cons] at h
    obtain ⟨m₁, h₁, h₂⟩ := Option.bind_eq_some_iff.mp h
    exact foldlM_insertEntry_canonical rest m₁ map' (insertEntry_canonical hc h₁) h₂

/-- The map `PhysicalMemory::new` builds is canonical. -/
theorem new_canonical {entries : List MemoryMapEntry} {start : Nat} {pm : PhysicalMemory}
    (h : new entries start = some pm) : pm.map.Canonical := by
  unfold new at h
  obtain ⟨map, hmap, h⟩ := Option.bind_eq_some_iff.mp h
  obtain ⟨e, -, h⟩ := Option.bind_eq_some_iff.mp h
  obtain ⟨i, -, h⟩ := Option.bind_eq_some_iff.mp h
  have hc := foldlM_insertEntry_canonical entries _ map IntervalMap.canonical_empty hmap
  cases hins : (map.cut i).insertMergeTouchingIfValuesEqual i (.usedByKernel .globalAllocatorHeap) with
  | error _ =>
    rw [hins] at h
    cases h
  | ok m =>
    rw [hins] at h
    cases h
    exact IntervalMap.canonical_cut_insert hc hins

/-! ## When an allocation fails -/

theorem usableStart_eq_none {e : Ival × MemoryType} :
    usableStart e = none ↔
      (e.2 = .usable → e.1.last < nextMultipleOf e.1.start pageSize + pageSize) := by
  obtain ⟨i, ty⟩ := e
  cases ty <;> simp [usableStart]

/-- `allocate_frame_with_type` returns `None` exactly when no `Usable` entry has a frame whose
aligned start is followed by a full frame before the entry's last byte. -/
theorem allocateFrameWithType_eq_none_iff (pm : PhysicalMemory) (t : MemoryType) :
    pm.allocateFrameWithType t = .ok none ↔
      ∀ e ∈ pm.map.entries, e.2 = .usable →
        e.1.last < nextMultipleOf e.1.start pageSize + pageSize := by
  constructor
  · intro h e he
    cases hf : pm.map.entries.findSome? usableStart with
    | none => exact usableStart_eq_none.mp (List.findSome?_eq_none_iff.mp hf e he)
    | some a =>
      -- a fitting start gives a frame or a panic: the insertion after the cut cannot fail
      obtain ⟨m', hm', -⟩ := get?_cut_insert pm.map (frameIval a) t 0
      unfold allocateFrameWithType at h
      rw [hf] at h
      dsimp only at h
      simp only [hm'] at h
      split at h <;> cases h
  · intro h
    unfold allocateFrameWithType
    rw [List.findSome?_eq_none_iff.mpr fun e he => usableStart_eq_none.mpr (h e he)]

/-! ## The round trip -/

/-- The frame just allocated is held by one entry, the merged one, with its new type. -/
theorem allocateFrameWithType_holds {pm pm' : PhysicalMemory} {t : MemoryType} {f : PhysFrame}
    (h : pm.allocateFrameWithType t = .ok (some (f, pm'))) : pm'.Holds f t := by
  obtain ⟨a, ha, rfl, hins⟩ := allocateFrameWithType_eq_some h
  obtain ⟨hd, hmap⟩ := IntervalMap.insertMerge_eq_ok_iff.mp hins
  obtain ⟨e, -, hea⟩ := List.exists_of_findSome?_eq_some ha
  have hfa := containingAddress_of_aligned (usableStart_spec hea).2.1
  have hlast := IntervalMap.le_mergedLast (pm.map.cut (frameIval a)).entries (frameIval a) t
  refine ⟨(IntervalMap.mergedIval (pm.map.cut (frameIval a)).entries (frameIval a) t, t), ?_, ?_, ?_,
    rfl⟩
  · rw [hmap]
    exact List.mem_append_right _ List.mem_cons_self
  · rw [hfa]
    exact IntervalMap.mergedStart_le _ _ _
  · rw [hfa]
    exact hlast

/-- In a canonical map, a frame whose every address has type `t` is held by one entry. -/
theorem holds_of_typeAt {pm : PhysicalMemory} (hc : pm.map.Canonical) {f : PhysFrame}
    {t : MemoryType} (h : ∀ x, f.Mem x → pm.typeAt x = some t) : pm.Holds f t := by
  obtain ⟨e, he, hs, hl, hv⟩ :=
    IntervalMap.Canonical.exists_entry_of_get? hc (pageSize - 1) fun x h₁ h₂ =>
      h x ⟨h₁, by unfold pageSize at h₂ ⊢; omega⟩
  exact ⟨e, he, hs, by unfold pageSize at hl ⊢; omega, hv⟩

/-- Two states with the same canonical map of types are the same state. -/
theorem eq_of_typeAt {pm pm' : PhysicalMemory} (hc : pm.map.Canonical) (hc' : pm'.map.Canonical)
    (h : ∀ x, pm.typeAt x = pm'.typeAt x) : pm = pm' := by
  obtain ⟨m⟩ := pm
  obtain ⟨m'⟩ := pm'
  congr 1
  exact IntervalMap.eq_of_canonical hc hc' h

end PhysicalMemory

/-! ## Runs of calls -/


/-- A call on the frame allocator, under its lock. -/
inductive FrameCall where
  | allocate (memoryType : MemoryType)
  | free (frame : PhysFrame) (expected : MemoryType)
  deriving DecidableEq, Repr

namespace FrameCall

/-- The call and its result: the frame an allocation returns, `None` when there is none, or `Ok`
and `Err` of a free. A free that returns `Err` has changed nothing. -/
def exec : FrameCall → Kern PhysicalMemory FreeError (Option PhysFrame)
  | .allocate t => fun pm =>
    match pm.allocateFrameWithType t with
    | .ok none => .ok none pm
    | .ok (some (f, pm')) => .ok (some f) pm'
    | .error m => .panic m
  | .free frame expected => fun pm =>
    match pm.freeFrame frame expected with
    | .ok pm' => .ok none pm'
    | .error e => .err e pm

/-- The kernel's calls: an allocation asks for a type other than `Usable`. -/
def Proper : FrameCall → Prop
  | .allocate t => t ≠ .usable
  | .free _ _ => True

instance (c : FrameCall) : Decidable c.Proper := by
  cases c <;> unfold Proper <;> infer_instance

/-- A call panics only as an allocation whose first fitting start is at or above `2 ^ 52`. -/
theorem exec_panic {c : FrameCall} {pm : PhysicalMemory} {m : String} (h : c.exec pm = .panic m) :
    ∃ t a, c = .allocate t ∧ pm.map.entries.findSome? PhysicalMemory.usableStart = some a ∧
      2 ^ 52 ≤ a := by
  cases c with
  | allocate t =>
    simp only [exec] at h
    split at h
    · cases h
    · cases h
    · rename_i halloc
      obtain ⟨a, ha, hge⟩ := PhysicalMemory.allocateFrameWithType_eq_error halloc
      exact ⟨t, a, rfl, ha, hge⟩
  | free frame expected =>
    simp only [exec] at h
    split at h <;> cases h

end FrameCall

/-- `free_frame` checks before it updates: it returns `Ok` exactly when one interval holds the
whole frame with the expected type, a refusal says which check failed and changes nothing, and a
frame freed to `Usable` cannot be freed again with a type other than `Usable`. -/
theorem free_frame_checks_then_updates (pm : PhysicalMemory) (f : PhysFrame) (t : MemoryType) :
    ((∃ pm', pm.freeFrame f t = .ok pm') ↔ pm.Holds f t) ∧
      (∀ e, pm.freeFrame f t = .error e →
        (FrameCall.free f t).exec pm = .err e pm ∧
          ((e = .frameNotAllocated ∧ ∀ u, ¬ pm.Holds f u) ∨
            ∃ found, found ≠ t ∧ e = .wrongMemoryType t found ∧ pm.Holds f found)) ∧
      (∀ pm', pm.freeFrame f t = .ok pm' → t ≠ .usable → ∃ e, pm'.freeFrame f t = .error e) := by
  refine ⟨PhysicalMemory.freeFrame_ok_iff_holds, fun e he => ⟨?_, PhysicalMemory.freeFrame_eq_error he⟩,
    fun pm' hok ht => PhysicalMemory.freeFrame_error_of_typeAt ?_⟩
  · simp only [FrameCall.exec, he]
  · -- the first free left the frame's first byte `Usable`
    rw [(PhysicalMemory.freeFrame_spec hok).2, if_pos f.mem_start]
    exact fun h => ht (Option.some.inj h).symm

/-- One call of a run, with the state before and after it. -/
abbrev FrameEntry := Kern.Entry PhysicalMemory FrameCall FreeError (Option PhysFrame)

/-- The entry is an allocation that returned `f`. -/
def FrameEntry.handsOut (f : PhysFrame) (e : FrameEntry) : Bool :=
  match e.input, e.result with
  | .allocate _, .ok (some g) => decide (g = f)
  | _, _ => false

/-- The entry is a free of `f` that returned `Ok`. -/
def FrameEntry.frees (f : PhysFrame) (e : FrameEntry) : Bool :=
  match e.input, e.result with
  | .free g _, .ok _ => decide (g = f)
  | _, _ => false

/-- After the entries, `f` has been handed out and not freed since. -/
def outstanding (f : PhysFrame) (tr : List FrameEntry) : Bool :=
  tr.foldl (fun held e => if e.handsOut f then true else if e.frees f then false else held) false

@[simp] theorem outstanding_nil (f : PhysFrame) : outstanding f [] = false := rfl

theorem outstanding_append_singleton (f : PhysFrame) (tr : List FrameEntry) (e : FrameEntry) :
    outstanding f (tr ++ [e]) =
      if e.handsOut f then true else if e.frees f then false else outstanding f tr := by
  simp only [outstanding, List.foldl_append, List.foldl_cons, List.foldl_nil]

/-- What a run of proper calls from a canonical map keeps: the map stays canonical, each entry
records its call, a frame handed out and not freed since has a first byte that is not `Usable`,
and no allocation so far handed out a frame that was still out. -/
structure FrameRunInv (tr : List FrameEntry) (pm : PhysicalMemory) : Prop where
  canonical : pm.map.Canonical
  entries : ∀ e ∈ tr, e.pre.map.Canonical ∧ e.post.map.Canonical ∧ e.input.exec e.pre = e.outcome
  held : ∀ f, outstanding f tr = true → pm.typeAt f.start ≠ some .usable
  fresh : ∀ tr₁ e tr₂ f, tr = tr₁ ++ e :: tr₂ → e.handsOut f = true → outstanding f tr₁ = false

theorem frameRunInv_start {pm : PhysicalMemory} (hc : pm.map.Canonical) : FrameRunInv [] pm where
  canonical := hc
  entries _ he := by cases he
  held _ h := by cases h
  fresh tr₁ e tr₂ _ h := by
    have := congrArg List.length h
    simp at this

/-- The four paths of a call: an allocation that returns a frame or finds none, a free that
succeeds or is refused. -/
inductive FrameCall.Step :
    PhysicalMemory → FrameCall → Except FreeError (Option PhysFrame) → PhysicalMemory → Prop
  | allocated {pm pm' : PhysicalMemory} {t : MemoryType} {f : PhysFrame} :
      pm.allocateFrameWithType t = .ok (some (f, pm')) → Step pm (.allocate t) (.ok (some f)) pm'
  | exhausted {pm : PhysicalMemory} {t : MemoryType} :
      pm.allocateFrameWithType t = .ok none → Step pm (.allocate t) (.ok none) pm
  | freed {pm pm' : PhysicalMemory} {f : PhysFrame} {t : MemoryType} :
      pm.freeFrame f t = .ok pm' → Step pm (.free f t) (.ok none) pm'
  | refused {pm : PhysicalMemory} {f : PhysFrame} {t : MemoryType} {x : FreeError} :
      pm.freeFrame f t = .error x → Step pm (.free f t) (.error x) pm

theorem FrameCall.step_of_exec {e : FrameEntry} (h : e.input.exec e.pre = e.outcome) :
    Step e.pre e.input e.result e.post := by
  obtain ⟨pre, input, result, post⟩ := e
  cases input with
  | allocate t =>
    simp only [exec] at h
    split at h
    · rename_i halloc
      obtain ⟨hres, hpost⟩ := Kern.Entry.outcome_eq_ok_iff.mp h.symm
      dsimp only at hres hpost
      subst hres hpost
      exact .exhausted halloc
    · rename_i f pm' halloc
      obtain ⟨hres, hpost⟩ := Kern.Entry.outcome_eq_ok_iff.mp h.symm
      dsimp only at hres hpost
      subst hres hpost
      exact .allocated halloc
    · exact absurd h.symm (Kern.Entry.outcome_ne_panic _ _)
  | free f t =>
    simp only [exec] at h
    split at h
    · rename_i pm' hf
      obtain ⟨hres, hpost⟩ := Kern.Entry.outcome_eq_ok_iff.mp h.symm
      dsimp only at hres hpost
      subst hres hpost
      exact .freed hf
    · rename_i x hf
      obtain ⟨hres, hpost⟩ := Kern.Entry.outcome_eq_err_iff.mp h.symm
      dsimp only at hres hpost
      subst hres hpost
      exact .refused hf

theorem FrameCall.Step.canonical {pm pm' : PhysicalMemory} {c : FrameCall}
    {r : Except FreeError (Option PhysFrame)} (hs : Step pm c r pm') (hc : pm.map.Canonical) :
    pm'.map.Canonical := by
  cases hs with
  | allocated h => exact PhysicalMemory.allocateFrameWithType_canonical hc h
  | exhausted _ => exact hc
  | freed h => exact PhysicalMemory.freeFrame_canonical hc h
  | refused _ => exact hc

/-- An entry that hands out `f` is an allocation that returned it. -/
theorem FrameEntry.allocation_of_handsOut {e : FrameEntry} {f : PhysFrame}
    (hs : FrameCall.Step e.pre e.input e.result e.post) (h : e.handsOut f = true) :
    ∃ t, e.input = .allocate t ∧ e.pre.allocateFrameWithType t = .ok (some (f, e.post)) := by
  obtain ⟨pre, input, result, post⟩ := e
  cases hs with
  | allocated halloc =>
    simp only [handsOut, decide_eq_true_eq] at h
    subst h
    exact ⟨_, rfl, halloc⟩
  | exhausted _ => simp [handsOut] at h
  | freed _ => simp [handsOut] at h
  | refused _ => simp [handsOut] at h

/-- What one call does to a frame that it neither hands out nor frees: its first byte keeps its
type. -/
theorem typeAt_start_of_not_touched {e : FrameEntry} {f : PhysFrame}
    (hs : FrameCall.Step e.pre e.input e.result e.post) (hout : e.handsOut f = false)
    (hfree : e.frees f = false) : e.post.typeAt f.start = e.pre.typeAt f.start := by
  obtain ⟨pre, input, result, post⟩ := e
  cases hs with
  | allocated halloc =>
    simp only [FrameEntry.handsOut, decide_eq_false_iff_not] at hout
    rw [(PhysicalMemory.allocateFrameWithType_spec halloc).2, if_neg]
    exact fun hm => hout (PhysFrame.eq_of_mem hm f.mem_start)
  | exhausted _ => rfl
  | freed hf =>
    simp only [FrameEntry.frees, decide_eq_false_iff_not] at hfree
    rw [(PhysicalMemory.freeFrame_spec hf).2, if_neg]
    exact fun hm => hfree (PhysFrame.eq_of_mem hm f.mem_start)
  | refused _ => rfl

/-- One proper call keeps the run invariant. -/
theorem frameRunInv_step {tr : List FrameEntry} {e : FrameEntry} (hinv : FrameRunInv tr e.pre)
    (hp : e.input.Proper) (he : e.input.exec e.pre = e.outcome) : FrameRunInv (tr ++ [e]) e.post := by
  have hs := FrameCall.step_of_exec he
  have hc' := hs.canonical hinv.canonical
  refine ⟨hc', fun e' he' => ?_, fun f hf => ?_, fun tr₁ e' tr₂ f htr hout => ?_⟩
  · rcases List.mem_append.mp he' with he' | he'
    · exact hinv.entries e' he'
    · rw [List.mem_singleton.mp he']
      exact ⟨hinv.canonical, hc', he⟩
  · rw [outstanding_append_singleton] at hf
    cases hout : e.handsOut f with
    | true =>
      -- the call hands `f` out: its first byte now has the type asked for
      obtain ⟨t, hin, halloc⟩ := FrameEntry.allocation_of_handsOut hs hout
      rw [(PhysicalMemory.allocateFrameWithType_spec halloc).2, if_pos f.mem_start]
      rw [hin] at hp
      exact fun h => hp (Option.some.inj h)
    | false =>
      cases hfree : e.frees f with
      | true => simp [hout, hfree] at hf
      | false =>
        simp only [hout, hfree, Bool.false_eq_true, if_false] at hf
        rw [typeAt_start_of_not_touched hs hout hfree]
        exact hinv.held f hf
  · rcases List.eq_nil_or_concat' tr₂ with rfl | ⟨L, b, rfl⟩
    · -- `e'` is the new entry: `f` was `Usable`, so it was not out
      obtain ⟨rfl, he'⟩ := List.append_inj' htr rfl
      obtain rfl : e = e' := List.singleton_inj.mp he'
      obtain ⟨_, -, halloc⟩ := FrameEntry.allocation_of_handsOut hs hout
      cases hprev : outstanding f tr with
      | false => rfl
      | true =>
        exact absurd ((PhysicalMemory.allocateFrameWithType_spec halloc).1 _ f.mem_start)
          (hinv.held f hprev)
    · have htr' : tr ++ [e] = (tr₁ ++ e' :: L) ++ [b] := by rw [htr]; simp
      obtain ⟨rfl, -⟩ := List.append_inj' htr' rfl
      exact hinv.fresh tr₁ e' L f rfl hout

/-- A run of proper calls keeps the run invariant. -/
theorem frameRunInv_run {pm₀ pm : PhysicalMemory} (hc : pm₀.map.Canonical) {calls : List FrameCall}
    (hp : ∀ c ∈ calls, c.Proper) (h : (Kern.runList FrameCall.exec pm₀ calls).2 = some pm) :
    FrameRunInv (Kern.runList FrameCall.exec pm₀ calls).1 pm := by
  -- the calls of the run are proper, so induct with that as a premise
  have hind := Kern.runList_induction FrameCall.exec
    (fun tr pm => (∀ e ∈ tr, e.input.Proper) → FrameRunInv tr pm)
    (fun tr e ih hpre hp' => frameRunInv_step (ih fun e' h' => hp' e' (List.mem_append_left _ h'))
      (hp' e (List.mem_append_right _ (List.mem_singleton_self e))) hpre)
    calls pm₀ pm [] (fun _ => frameRunInv_start hc) h
  rw [List.nil_append] at hind
  apply hind
  intro e he
  apply hp
  rw [← Kern.runList_inputs FrameCall.exec calls pm₀ pm h]
  exact List.mem_map_of_mem he

/-- From the map `PhysicalMemory::new` builds, a run of allocations of types other than `Usable`
and of frees keeps the map canonical before and after every call, and ends in a canonical map
`pm`, unless an allocation from `pm` finds a frame at or above `2 ^ 52` and panics. An
allocation that returns a frame took it from `Usable` addresses, gave it the type asked for and
changed no other address, and the frame was not out at that point of the run. -/
theorem frame_run_canonical_fresh {entries : List PhysicalMemory.MemoryMapEntry} {start : Nat}
    {pm₀ : PhysicalMemory} (h₀ : PhysicalMemory.new entries start = some pm₀)
    (calls : List FrameCall) (hp : ∀ c ∈ calls, c.Proper) :
    ∃ pm, pm.map.Canonical ∧
      ((Kern.runList FrameCall.exec pm₀ calls).2 = some pm ∨
        ∃ t a, FrameCall.allocate t ∈ calls ∧ (Kern.runList FrameCall.exec pm₀ calls).2 = none ∧
          pm.map.entries.findSome? PhysicalMemory.usableStart = some a ∧ 2 ^ 52 ≤ a) ∧
      ∀ tr₁ e tr₂, (Kern.runList FrameCall.exec pm₀ calls).1 = tr₁ ++ e :: tr₂ →
        e.pre.map.Canonical ∧ e.post.map.Canonical ∧
          ∀ t f, e.input = .allocate t → e.result = .ok (some f) →
            (∀ x, f.Mem x → e.pre.typeAt x = some .usable) ∧
            (∀ x, e.post.typeAt x = if f.Mem x then some t else e.pre.typeAt x) ∧
            outstanding f tr₁ = false := by
  -- the entries are those of a run of a prefix of the calls that returns
  obtain ⟨js, pm, hpre, hrun, hend⟩ := Kern.runList_cases FrameCall.exec calls pm₀
  have hinv : FrameRunInv (Kern.runList FrameCall.exec pm₀ calls).1 pm := by
    have := frameRunInv_run (PhysicalMemory.new_canonical h₀)
      (fun c hc => hp c (hpre.subset hc)) (by rw [hrun])
    rwa [hrun] at this
  refine ⟨pm, hinv.canonical, ?_, fun tr₁ e tr₂ htr => ?_⟩
  · rcases hend with hend | ⟨i, m, hpi, hpanic, hnone⟩
    · exact .inl hend
    · obtain ⟨t, a, rfl, ha, hge⟩ := FrameCall.exec_panic hpanic
      exact .inr ⟨t, a, hpi.subset (by simp), hnone, ha, hge⟩
  have hmem : e ∈ (Kern.runList FrameCall.exec pm₀ calls).1 := by
    rw [htr]
    exact List.mem_append_right _ List.mem_cons_self
  obtain ⟨hpre, hpost, he⟩ := hinv.entries e hmem
  refine ⟨hpre, hpost, fun t f hin hres => ?_⟩
  have hout : e.handsOut f = true := by simp [FrameEntry.handsOut, hin, hres]
  obtain ⟨t', hin', halloc⟩ := FrameEntry.allocation_of_handsOut (FrameCall.step_of_exec he) hout
  obtain rfl : t' = t := FrameCall.allocate.inj (hin'.symm.trans hin)
  obtain ⟨husable, hty⟩ := PhysicalMemory.allocateFrameWithType_spec halloc
  exact ⟨husable, hty, hinv.fresh tr₁ e tr₂ f htr hout⟩

namespace PhysicalMemory

/-! ## Four frames

A machine whose firmware map has one `Usable` region of 4 MiB and four frames. The global
allocator takes its first 4 MiB, which leaves the frames `0x500000` to `0x503000` `Usable`. -/

def fourFrameMap : List MemoryMapEntry := [⟨0x100000, 0x404000, .usable⟩]

def fourFrameMemory : PhysicalMemory := (boot fourFrameMap).get (by decide)

/-- Three frames allocated for user mode, then the middle one freed. -/
def fourFrameCalls : List FrameCall :=
  [.allocate .usedByUserMode, .allocate .usedByUserMode, .allocate .usedByUserMode,
    .free ⟨0x501000, by decide⟩ .usedByUserMode]

def fourFrameRun : PhysicalMemory :=
  (Kern.runList FrameCall.exec fourFrameMemory fourFrameCalls).2.get (by decide)

theorem frame_run_canonical_fresh_sample :
    new fourFrameMap 0x100000 = some fourFrameMemory ∧ (∀ c ∈ fourFrameCalls, c.Proper) ∧
      ∃ pm, (Kern.runList FrameCall.exec fourFrameMemory fourFrameCalls).2 = some pm ∧
        pm.map.Canonical := by
  have h₀ : new fourFrameMap 0x100000 = some fourFrameMemory := by decide
  have hp : ∀ c ∈ fourFrameCalls, c.Proper := by decide
  obtain ⟨pm, hc, hend, -⟩ := frame_run_canonical_fresh h₀ fourFrameCalls hp
  rcases hend with hpm | ⟨t, a, -, hnone, -⟩
  · exact ⟨h₀, hp, pm, hpm, hc⟩
  · exact absurd hnone (by decide)

/-- An allocation fails when every `Usable` entry is one whole aligned frame, though each of them
holds a frame: the frame's end is compared with the entry's last byte, not with the byte after. -/
theorem allocate_fails_on_whole_frames {pm : PhysicalMemory} {t : MemoryType}
    (h : ∀ e ∈ pm.map.entries, e.2 = .usable →
      e.1.start % pageSize = 0 ∧ e.1.last = e.1.start + pageSize - 1) :
    pm.allocateFrameWithType t = .ok none := by
  rw [allocateFrameWithType_eq_none_iff]
  intro e he hu
  obtain ⟨hal, hlast⟩ := h e he hu
  -- an aligned start is its own next multiple
  have hnm : nextMultipleOf e.1.start pageSize = e.1.start := by
    unfold nextMultipleOf
    rw [if_pos hal]
  rw [hnm, hlast]
  unfold pageSize
  omega

theorem allocate_fails_on_whole_frames_sample :
    (Kern.runList FrameCall.exec fourFrameMemory fourFrameCalls).2 = some fourFrameRun ∧
      fourFrameRun.typeAt 0x500000 = some .usedByUserMode ∧
      fourFrameRun.typeAt 0x502000 = some .usedByUserMode ∧
      fourFrameRun.Holds ⟨0x501000, by decide⟩ .usable ∧
      fourFrameRun.Holds ⟨0x503000, by decide⟩ .usable ∧
      fourFrameRun.allocateFrameWithType .usedByUserMode = .ok none :=
  ⟨(Option.some_get _).symm, by decide, by decide, by decide, by decide,
    allocate_fails_on_whole_frames (by decide)⟩

/-- Allocating a frame and freeing it again puts the map back as it was, so a second allocation
returns the same frame. -/
theorem allocate_then_free_restores {pm pm' : PhysicalMemory} {t : MemoryType} {f : PhysFrame}
    (hc : pm.map.Canonical) (h : pm.allocateFrameWithType t = .ok (some (f, pm'))) :
    ∃ pm'', pm'.freeFrame f t = .ok pm'' ∧ pm'' = pm ∧
      pm''.allocateFrameWithType t = .ok (some (f, pm')) := by
  obtain ⟨pm'', hfree⟩ := freeFrame_ok_of_holds (allocateFrameWithType_holds h)
  have hc'' := freeFrame_canonical (allocateFrameWithType_canonical hc h) hfree
  -- the free gives the frame back the `Usable` it had before the allocation
  have hty : ∀ x, pm''.typeAt x = pm.typeAt x := by
    intro x
    obtain ⟨husable, hty'⟩ := allocateFrameWithType_spec h
    rw [(freeFrame_spec hfree).2 x, hty' x]
    by_cases hx : f.Mem x
    · rw [if_pos hx, husable x hx]
    · rw [if_neg hx, if_neg hx]
  obtain rfl := eq_of_typeAt hc'' hc hty
  exact ⟨_, hfree, rfl, h⟩

theorem allocate_then_free_restores_sample :
    fourFrameMemory.map.Canonical ∧ ∃ f pm', fourFrameMemory.allocateFrameWithType .usedByUserMode =
      .ok (some (f, pm')) ∧ pm'.freeFrame f .usedByUserMode = .ok fourFrameMemory := by
  have hc : fourFrameMemory.map.Canonical := by decide
  obtain ⟨⟨f, pm'⟩, h⟩ : ∃ r, fourFrameMemory.allocateFrameWithType .usedByUserMode = .ok (some r) := by
    have hsome : (fourFrameMemory.allocateFrameWithType .usedByUserMode).toOption.join.isSome := by
      decide
    cases ha : fourFrameMemory.allocateFrameWithType .usedByUserMode with
    | error m => simp [ha, Except.toOption] at hsome
    | ok o =>
      cases o with
      | none => simp [ha, Except.toOption] at hsome
      | some r => exact ⟨r, rfl⟩
  obtain ⟨_, hfree, rfl, -⟩ := allocate_then_free_restores hc h
  exact ⟨hc, f, pm', h, hfree⟩

end PhysicalMemory

end Bos
