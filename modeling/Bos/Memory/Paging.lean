import Bos.Lib.Kern
import Bos.Memory.FrameAllocator

/-!
# Bos.Memory.Paging

The four-level x86-64 page tables as the kernel drives them through the x86_64 crate's
`OffsetPageTable`: `map_to` creates the missing intermediate tables with the frame allocator it is
given (`create_next_table`), refuses a page that is already mapped, and writes the level-1 entry;
`unmap` clears a level-1 entry and returns its frame and flags.

A table is described by its entries: `entry lvl key` is the entry of a level-`lvl` table (4 is the
L4 table) that covers the pages whose index path starts with `key` (`Page.key`). The contents of
the frames that hold the tables are not modelled apart from these entries.

`create_user_page_table` (in `user_task_from_elf.rs`) allocates a fresh L4 table and copies the
kernel's higher-half L4 entries into it, so the lower half of a new user table is empty
(`createUserPageTable_spec`). An allocation of a table frame can panic (`PhysAddr::new` on a frame
at or above `2 ^ 52`), and so can `map_to` and `create_user_page_table`.

The main lemmas say what one `map_to` does: `mapTo_ok` (the page's entry is written, every other
level-1 entry is unchanged, intermediate tables come only from `Usable` frames) and `mapTo_err`
(a failed `map_to` changes no level-1 entry).
-/

namespace Bos

/-- The bits of x86_64's `PageTableFlags` that the kernel sets or tests. -/
structure PageTableFlags where
  present : Bool
  writable : Bool
  userAccessible : Bool
  writeThrough : Bool
  noCache : Bool
  hugePage : Bool
  noExecute : Bool
  deriving DecidableEq, Repr

namespace PageTableFlags

def empty : PageTableFlags := ⟨false, false, false, false, false, false, false⟩

/-- `a | b`. -/
def union (a b : PageTableFlags) : PageTableFlags :=
  ⟨a.present || b.present, a.writable || b.writable, a.userAccessible || b.userAccessible,
    a.writeThrough || b.writeThrough, a.noCache || b.noCache, a.hugePage || b.hugePage,
    a.noExecute || b.noExecute⟩

/-- `a.contains(b)`. -/
def contains (a b : PageTableFlags) : Bool := a.union b == a

/-- `flags & (PRESENT | WRITABLE | USER_ACCESSIBLE)`: the flags `map_to` gives to the
intermediate entries on the way to the page. -/
def parentFlags (f : PageTableFlags) : PageTableFlags :=
  { empty with present := f.present, writable := f.writable, userAccessible := f.userAccessible }

@[simp] theorem union_present (a b : PageTableFlags) :
    (a.union b).present = (a.present || b.present) := rfl

@[simp] theorem union_hugePage (a b : PageTableFlags) :
    (a.union b).hugePage = (a.hugePage || b.hugePage) := rfl

@[simp] theorem parentFlags_present (f : PageTableFlags) : f.parentFlags.present = f.present := rfl

@[simp] theorem parentFlags_hugePage (f : PageTableFlags) : f.parentFlags.hugePage = false := rfl

end PageTableFlags

structure PageTableEntry where
  frame : PhysFrame
  flags : PageTableFlags

/-- `create_next_table` on a used entry: `set_flags(flags | insert_flags)` when the insert flags
are not empty and not already contained. -/
def PageTableEntry.addFlags (e : PageTableEntry) (insertFlags : PageTableFlags) : PageTableEntry :=
  if insertFlags ≠ .empty ∧ !e.flags.contains insertFlags then
    { e with flags := e.flags.union insertFlags } else e

/-- Whichever branch it takes, the entry ends with `flags | insert_flags`. -/
theorem PageTableEntry.addFlags_flags (e : PageTableEntry) (fl : PageTableFlags) :
    (e.addFlags fl).flags = e.flags.union fl := by
  unfold addFlags
  split
  · rfl
  · rename_i h
    by_cases he : fl = .empty
    · subst he
      cases e.flags
      simp [PageTableFlags.union, PageTableFlags.empty]
    · have hc : e.flags.contains fl = true := by simpa [he] using h
      exact (beq_iff_eq.mp hc).symm

@[simp] theorem PageTableEntry.addFlags_frame (e : PageTableEntry) (fl : PageTableFlags) :
    (e.addFlags fl).frame = e.frame := by
  unfold addFlags
  split <;> rfl

/-- The page's four 9-bit table indices, L4 index first, as one 36-bit number. -/
def Page.path (p : Page) : Nat := p.start.addr / pageSize % 2 ^ 36

/-- The first `5 - lvl` indices of the path: which entry of a level-`lvl` table covers `p`. -/
def Page.key (p : Page) (lvl : Nat) : Nat := p.path / 512 ^ (lvl - 1)

@[simp] theorem Page.key_one (p : Page) : p.key 1 = p.path := by simp [Page.key]

/-- Two distinct canonical pages have distinct index paths. -/
theorem Page.path_injective {p q : Page} (h : p.path = q.path) : p = q := by
  rw [Page.ext_iff']
  have hp := p.start.canonical
  have hq := q.start.canonical
  have hpa := p.aligned
  have hqa := q.aligned
  unfold Page.path at h
  unfold IsCanonical at hp hq
  unfold pageSize at *
  omega

/-- Whether `p` lies in the lower (user) half: its L4 index is below 256. -/
theorem Page.key_four_lt_iff (p : Page) : p.key 4 < 256 ↔ p.start.addr < 2 ^ 47 := by
  have hp := p.start.canonical
  unfold IsCanonical at hp
  simp only [Page.key, Page.path, pageSize]
  omega

inductive UnmapError where
  | parentEntryHugePage
  | pageNotMapped
  deriving DecidableEq, Repr

structure PageTable where
  l4Frame : PhysFrame
  entry : Nat → Nat → Option PageTableEntry

namespace PageTable

/-- Write the entry of the level-`lvl` table at `key`. -/
def update (pt : PageTable) (lvl key : Nat) (e : Option PageTableEntry) : PageTable :=
  { pt with entry := fun l k => if l = lvl ∧ k = key then e else pt.entry l k }

/-- The level-1 entry of a page. -/
def leaf (pt : PageTable) (p : Page) : Option PageTableEntry := pt.entry 1 p.path

@[simp] theorem update_l4Frame (pt : PageTable) (lvl key : Nat) (e : Option PageTableEntry) :
    (pt.update lvl key e).l4Frame = pt.l4Frame := rfl

theorem update_entry (pt : PageTable) (lvl key : Nat) (e : Option PageTableEntry) (l k : Nat) :
    (pt.update lvl key e).entry l k = if l = lvl ∧ k = key then e else pt.entry l k := rfl

@[simp] theorem update_entry_self (pt : PageTable) (lvl key : Nat) (e : Option PageTableEntry) :
    (pt.update lvl key e).entry lvl key = e := by simp [update_entry]

theorem update_entry_of_ne (pt : PageTable) {lvl key l k : Nat} (e : Option PageTableEntry)
    (h : ¬ (l = lvl ∧ k = key)) : (pt.update lvl key e).entry l k = pt.entry l k := by
  rw [update_entry, if_neg h]

/-- An intermediate entry through which the walk goes on: present and not a huge page. -/
def TableEntry (pt : PageTable) (lvl key : Nat) : Prop :=
  ∃ e, pt.entry lvl key = some e ∧ e.flags.present = true ∧ e.flags.hugePage = false

/-- The walk to `p` reaches its level-1 table. -/
def Walkable (pt : PageTable) (p : Page) : Prop :=
  pt.TableEntry 4 (p.key 4) ∧ pt.TableEntry 3 (p.key 3) ∧ pt.TableEntry 2 (p.key 2)

/-- `next_table_mut` on an intermediate entry. -/
def walkEntry (pt : PageTable) (lvl key : Nat) : Except UnmapError Unit :=
  match pt.entry lvl key with
  | none => .error .pageNotMapped
  | some e =>
    if !e.flags.present then .error .pageNotMapped
    else if e.flags.hugePage then .error .parentEntryHugePage
    else .ok ()

/-- The walk from the L4 table down to the level-1 table of `p`. -/
def walk (pt : PageTable) (p : Page) : Except UnmapError Unit := do
  pt.walkEntry 4 (p.key 4)
  pt.walkEntry 3 (p.key 3)
  pt.walkEntry 2 (p.key 2)

/-- `translate_page`: the level-1 entry of `p`, when the walk reaches it and it is present. -/
def translate (pt : PageTable) (p : Page) : Option PageTableEntry :=
  match pt.walk p, pt.leaf p with
  | .ok (), some e => if e.flags.present then some e else none
  | _, _ => none

theorem walkEntry_eq_ok_iff (pt : PageTable) (lvl key : Nat) :
    pt.walkEntry lvl key = .ok () ↔ pt.TableEntry lvl key := by
  unfold walkEntry TableEntry
  split
  · simp_all
  · rename_i e he
    by_cases hp : e.flags.present <;> by_cases hh : e.flags.hugePage <;> simp_all

theorem walk_eq_ok_iff (pt : PageTable) (p : Page) : pt.walk p = .ok () ↔ pt.Walkable p := by
  simp only [walk, Walkable, ← walkEntry_eq_ok_iff]
  cases pt.walkEntry 4 (p.key 4) <;> cases pt.walkEntry 3 (p.key 3) <;>
    cases pt.walkEntry 2 (p.key 2) <;> simp [bind, Except.bind]

theorem translate_of_walkable {pt : PageTable} {p : Page} (hw : pt.Walkable p) {e : PageTableEntry}
    (hl : pt.leaf p = some e) (hp : e.flags.present = true) : pt.translate p = some e := by
  rw [← walk_eq_ok_iff] at hw
  simp [translate, hw, hl, hp]

theorem leaf_of_translate {pt : PageTable} {p : Page} {e : PageTableEntry}
    (h : pt.translate p = some e) : pt.leaf p = some e ∧ e.flags.present = true := by
  unfold translate at h
  split at h
  · rename_i e' _ hl
    split at h
    · cases h; exact ⟨hl, ‹_›⟩
    · cases h
  · cases h

/-- `mapper.unmap(page)`: the frame and flags of the page's level-1 entry, which is cleared. -/
def unmap (pt : PageTable) (page : Page) :
    Except UnmapError (PhysFrame × PageTableFlags × PageTable) := do
  pt.walk page
  match pt.leaf page with
  | none => .error .pageNotMapped
  | some e =>
    if !e.flags.present then .error .pageNotMapped
    else if e.flags.hugePage then .error .parentEntryHugePage
    else .ok (e.frame, e.flags, pt.update 1 page.path none)

/-- The walk reads the entries of levels 4 to 2 only: a level-1 write keeps every walk. -/
@[simp] theorem walkable_update_one (pt : PageTable) (key : Nat) (e : Option PageTableEntry)
    (p : Page) : (pt.update 1 key e).Walkable p ↔ pt.Walkable p := by
  simp [Walkable, TableEntry, update_entry]

/-- `unmap` of a walkable page whose leaf is a present 4 KiB entry clears the leaf. -/
theorem unmap_eq_ok {pt : PageTable} {page : Page} (hw : pt.Walkable page) {e : PageTableEntry}
    (hl : pt.leaf page = some e) (hp : e.flags.present = true) (hh : e.flags.hugePage = false) :
    pt.unmap page = .ok (e.frame, e.flags, pt.update 1 page.path none) := by
  rw [← walk_eq_ok_iff] at hw
  simp [unmap, hw, hl, hp, hh]
  rfl

/-- A page-table frame: the L4 frame, or the table an entry of level 2 to 4 points to. -/
def TableFrame (pt : PageTable) (f : PhysFrame) : Prop :=
  f = pt.l4Frame ∨ ∃ l k e, 2 ≤ l ∧ l ≤ 4 ∧ pt.entry l k = some e ∧ e.frame = f

/-- The address lies in a page-table frame. -/
def TableAddr (pt : PageTable) (x : Nat) : Prop := ∃ f, pt.TableFrame f ∧ f.Mem x

/-- A level-1 write changes no page-table frame. -/
@[simp] theorem tableFrame_update_one (pt : PageTable) (key : Nat) (e : Option PageTableEntry)
    (f : PhysFrame) : (pt.update 1 key e).TableFrame f ↔ pt.TableFrame f := by
  unfold TableFrame
  simp only [update_l4Frame, update_entry]
  constructor
  · rintro (h | ⟨l, k, e', h₂, h₄, he, hf⟩)
    · exact .inl h
    · rw [if_neg (by omega)] at he
      exact .inr ⟨l, k, e', h₂, h₄, he, hf⟩
  · rintro (h | ⟨l, k, e', h₂, h₄, he, hf⟩)
    · exact .inl h
    · exact .inr ⟨l, k, e', h₂, h₄, by rw [if_neg (by omega)]; exact he, hf⟩

@[simp] theorem tableAddr_update_one (pt : PageTable) (key : Nat) (e : Option PageTableEntry)
    (x : Nat) : (pt.update 1 key e).TableAddr x ↔ pt.TableAddr x := by
  simp only [TableAddr, tableFrame_update_one]

/-- Writing an intermediate entry whose frame is the old one's, or where there was none, keeps
every page-table frame. -/
theorem tableFrame_update {pt : PageTable} {lvl key : Nat} {e : PageTableEntry}
    (hold : ∀ e₀, pt.entry lvl key = some e₀ → e₀.frame = e.frame) {f : PhysFrame}
    (h : pt.TableFrame f) : (pt.update lvl key (some e)).TableFrame f := by
  rcases h with h | ⟨l, k, e₀, h₂, h₄, he₀, hf⟩
  · exact .inl h
  · by_cases hk : l = lvl ∧ k = key
    · obtain ⟨rfl, rfl⟩ := hk
      exact .inr ⟨l, k, e, h₂, h₄, by simp, (hold e₀ he₀).symm.trans hf⟩
    · exact .inr ⟨l, k, e₀, h₂, h₄, by rw [update_entry_of_ne _ _ hk]; exact he₀, hf⟩

end PageTable

inductive MapToError where
  | frameAllocationFailed
  | parentEntryHugePage
  | pageAlreadyMapped (frame : PhysFrame)

/-- What `map_to` works on: the page table it writes and the physical memory its frame
allocator takes intermediate tables from. -/
structure Paging where
  pt : PageTable
  phys : PhysicalMemory

/-- The end of `create_next_table`: `next_table_mut` on the entry it has just made or updated.
An entry that is not present is `unreachable!()` there. -/
def nextTable (e : PageTableEntry) (s : Paging) : Outcome Paging MapToError Unit :=
  if !e.flags.present then .panic "internal error: entered unreachable code"
  else if e.flags.hugePage then .err .parentEntryHugePage s
  else .ok () s

/-- `create_next_table`: an unused entry gets a fresh table from the allocator (frames of type
`ty`) with the insert flags; a used one gets the insert flags it lacks. -/
def createNextTable (ty : MemoryType) (lvl key : Nat) (insertFlags : PageTableFlags) :
    Kern Paging MapToError Unit := fun s =>
  match s.pt.entry lvl key with
  | none =>
    match s.phys.allocateFrameWithType ty with
    | .ok none => .err .frameAllocationFailed s
    | .ok (some (frame, phys)) =>
      nextTable ⟨frame, insertFlags⟩ ⟨s.pt.update lvl key (some ⟨frame, insertFlags⟩), phys⟩
    | .error m => .panic m
  | some e =>
    let e' := e.addFlags insertFlags
    nextTable e' { s with pt := s.pt.update lvl key (some e') }

/-- `mapper.map_to(page, frame, flags, allocator)` for a 4 KiB page, with an allocator of frames
of type `ty`. -/
def mapTo (ty : MemoryType) (page : Page) (frame : PhysFrame) (flags : PageTableFlags) :
    Kern Paging MapToError Unit := do
  createNextTable ty 4 (page.key 4) flags.parentFlags
  createNextTable ty 3 (page.key 3) flags.parentFlags
  createNextTable ty 2 (page.key 2) flags.parentFlags
  let s ← Kern.get
  if (s.pt.leaf page).isSome then Kern.throw (.pageAlreadyMapped frame)
  else Kern.set { s with pt := s.pt.update 1 page.path (some ⟨frame, flags⟩) }

/-- What `create_next_table` and `map_to` may do to the state whatever their outcome: the L4
frame stays, an entry the walk goes through stays one, and intermediate tables are taken only
from `Usable` frames. -/
structure Paging.Evolves (ty : MemoryType) (s s' : Paging) : Prop where
  l4Frame : s'.pt.l4Frame = s.pt.l4Frame
  keep : ∀ l k, s.pt.TableEntry l k → s'.pt.TableEntry l k
  phys : PhysicalMemory.OnlyAllocates ty s.phys s'.phys

namespace Paging.Evolves

variable {ty : MemoryType} {s s' s'' : Paging}

theorem refl (ty : MemoryType) (s : Paging) : Paging.Evolves ty s s :=
  ⟨rfl, fun _ _ h => h, .refl ty s.phys⟩

theorem trans (h₁ : Paging.Evolves ty s s') (h₂ : Paging.Evolves ty s' s'') :
    Paging.Evolves ty s s'' :=
  ⟨h₂.l4Frame.trans h₁.l4Frame, fun l k h => h₂.keep l k (h₁.keep l k h), h₁.phys.trans h₂.phys⟩

theorem walkable (h : Paging.Evolves ty s s') {p : Page} (hw : s.pt.Walkable p) :
    s'.pt.Walkable p :=
  ⟨h.keep _ _ hw.1, h.keep _ _ hw.2.1, h.keep _ _ hw.2.2⟩

end Paging.Evolves

/-- What `map_to` may do to the frames, whatever its outcome: every page-table frame stays one,
and an address changes type only from `Usable` to `ty`, inside a page-table frame. -/
structure Paging.Grows (ty : MemoryType) (s s' : Paging) : Prop where
  tables : ∀ f, s.pt.TableFrame f → s'.pt.TableFrame f
  types : ∀ x, s'.phys.typeAt x = s.phys.typeAt x ∨
    (s.phys.typeAt x = some .usable ∧ s'.phys.typeAt x = some ty ∧ s'.pt.TableAddr x)
  canonical : s.phys.map.Canonical → s'.phys.map.Canonical

namespace Paging.Grows

variable {ty : MemoryType} {s s' s'' : Paging}

theorem refl (ty : MemoryType) (s : Paging) : Paging.Grows ty s s :=
  ⟨fun _ h => h, fun _ => .inl rfl, id⟩

theorem trans (h₁ : Paging.Grows ty s s') (h₂ : Paging.Grows ty s' s'') : Paging.Grows ty s s'' := by
  refine ⟨fun f h => h₂.tables f (h₁.tables f h), fun x => ?_, h₂.canonical ∘ h₁.canonical⟩
  rcases h₂.types x with e₂ | ⟨u₂, t₂, a₂⟩ <;> rcases h₁.types x with e₁ | ⟨u₁, t₁, ⟨f, hf, hx⟩⟩
  · exact .inl (e₂.trans e₁)
  · exact .inr ⟨u₁, e₂.trans t₁, f, h₂.tables f hf, hx⟩
  · exact .inr ⟨e₁ ▸ u₂, t₂, a₂⟩
  · exact .inr ⟨u₁, t₂, a₂⟩

/-- An address of a type other than `Usable` keeps it. -/
theorem typeAt_of_ne_usable (h : Paging.Grows ty s s') {x : Nat} {t : MemoryType}
    (hx : s.phys.typeAt x = some t) (ht : t ≠ .usable) : s'.phys.typeAt x = some t := by
  rcases h.types x with h | ⟨hu, -⟩
  · rw [h, hx]
  · rw [hx] at hu
    exact absurd (Option.some.inj hu) ht

instance : IsPreorder Paging (Paging.Grows ty) where
  refl := refl ty
  trans _ _ _ := trans

end Paging.Grows

section MapTo

variable {ty : MemoryType} {s s' : Paging}

theorem nextTable_ok {e : PageTableEntry} (h : nextTable e s = .ok () s') :
    e.flags.present = true ∧ e.flags.hugePage = false ∧ s' = s := by
  unfold nextTable at h
  split at h
  · cases h
  · split at h
    · cases h
    · cases h; simp_all

theorem nextTable_err {e : PageTableEntry} {err : MapToError} (h : nextTable e s = .err err s') :
    e.flags.hugePage = true ∧ s' = s := by
  unfold nextTable at h
  split at h
  · cases h
  · split at h
    · cases h; simp_all
    · cases h

/-- Writing an entry at `(lvl, key)` that is present and not huge when the old one was keeps every
walkable entry walkable. -/
theorem tableEntry_update {pt : PageTable} {lvl key l k : Nat} {e : PageTableEntry}
    (he : pt.TableEntry lvl key → e.flags.present = true ∧ e.flags.hugePage = false)
    (h : pt.TableEntry l k) : (pt.update lvl key (some e)).TableEntry l k := by
  by_cases hk : l = lvl ∧ k = key
  · obtain ⟨rfl, rfl⟩ := hk
    exact ⟨e, by simp, he h⟩
  · obtain ⟨e', he', hp⟩ := h
    exact ⟨e', by rw [PageTable.update_entry_of_ne _ _ hk]; exact he', hp⟩

/-- A successful `create_next_table` leaves a walkable entry at `(lvl, key)` and writes no
other entry. -/
theorem createNextTable_ok {lvl key : Nat} {fl : PageTableFlags}
    (h : createNextTable ty lvl key fl s = .ok () s') :
    Paging.Evolves ty s s' ∧ s'.pt.TableEntry lvl key ∧
      ∀ l k, ¬ (l = lvl ∧ k = key) → s'.pt.entry l k = s.pt.entry l k := by
  unfold createNextTable at h
  split at h
  · split at h
    · cases h
    · rename_i frame phys halloc
      obtain ⟨hp, hh, rfl⟩ := nextTable_ok h
      refine ⟨⟨rfl, fun l k hlk => tableEntry_update (fun _ => ⟨hp, hh⟩) hlk,
        PhysicalMemory.allocateFrameWithType_onlyAllocates halloc⟩, ⟨_, by simp, hp, hh⟩,
        fun l k hlk => PageTable.update_entry_of_ne _ _ hlk⟩
    · cases h
  · obtain ⟨hp, hh, rfl⟩ := nextTable_ok h
    refine ⟨⟨rfl, fun l k hlk => tableEntry_update (fun _ => ⟨hp, hh⟩) hlk, .refl ty s.phys⟩,
      ⟨_, by simp, hp, hh⟩, fun l k hlk => PageTable.update_entry_of_ne _ _ hlk⟩

/-- What a successful `create_next_table` did: an unused entry got a fresh frame from the
allocator with the insert flags, or a used one got the insert flags added; the entry written is
present and not a huge page. -/
theorem createNextTable_ok_cases {lvl key : Nat} {fl : PageTableFlags}
    (h : createNextTable ty lvl key fl s = .ok () s') :
    ((∃ frame, s.pt.entry lvl key = none ∧ s.phys.allocateFrameWithType ty = .ok (some (frame, s'.phys)) ∧
        fl.present = true ∧ s'.pt = s.pt.update lvl key (some ⟨frame, fl⟩)) ∨
      ∃ e, s.pt.entry lvl key = some e ∧ (e.addFlags fl).flags.present = true ∧
        s' = { s with pt := s.pt.update lvl key (some (e.addFlags fl)) }) := by
  unfold createNextTable at h
  split at h
  · rename_i hnone
    split at h
    · cases h
    · rename_i frame phys halloc
      obtain ⟨hp, -, rfl⟩ := nextTable_ok h
      exact .inl ⟨frame, hnone, halloc, hp, rfl⟩
    · cases h
  · rename_i e he
    obtain ⟨hp, -, rfl⟩ := nextTable_ok h
    exact .inr ⟨e, he, hp, rfl⟩

/-- A failed `create_next_table` writes no entry but the one at `(lvl, key)`, and that one only
when it maps a huge page. -/
theorem createNextTable_err {lvl key : Nat} {fl : PageTableFlags} (hfl : fl.hugePage = false)
    {err : MapToError} (h : createNextTable ty lvl key fl s = .err err s') :
    Paging.Evolves ty s s' ∧ ∀ l k, ¬ (l = lvl ∧ k = key) → s'.pt.entry l k = s.pt.entry l k := by
  unfold createNextTable at h
  split at h
  · split at h
    · cases h
      exact ⟨.refl ty s, fun _ _ _ => rfl⟩
    · have := (nextTable_err h).1
      simp only at this
      rw [hfl] at this
      cases this
    · cases h
  · rename_i e he
    obtain ⟨hh, rfl⟩ := nextTable_err h
    have hh' : e.flags.hugePage = true := by
      rw [PageTableEntry.addFlags_flags, PageTableFlags.union_hugePage, hfl, Bool.or_false] at hh
      exact hh
    refine ⟨⟨rfl, fun l k hlk => tableEntry_update (fun ⟨e₀, he₀, _, hh₀⟩ => ?_) hlk,
      .refl ty s.phys⟩, fun l k hlk => PageTable.update_entry_of_ne _ _ hlk⟩
    rw [he] at he₀
    cases he₀
    rw [hh'] at hh₀
    cases hh₀

/-- Either outcome of `create_next_table` at an intermediate level leaves every level-1 entry as
it was. -/
theorem createNextTable_level_one {lvl key : Nat} (hlvl : lvl ≠ 1) {fl : PageTableFlags}
    (hfl : fl.hugePage = false)
    (h : createNextTable ty lvl key fl s = .ok () s' ∨ ∃ err, createNextTable ty lvl key fl s = .err err s') :
    Paging.Evolves ty s s' ∧ ∀ k, s'.pt.entry 1 k = s.pt.entry 1 k := by
  have hne : ∀ k, ¬ (1 = lvl ∧ k = key) := fun k hk => hlvl hk.1.symm
  rcases h with h | ⟨err, h⟩
  · obtain ⟨he, -, ho⟩ := createNextTable_ok h
    exact ⟨he, fun k => ho 1 k (hne k)⟩
  · obtain ⟨he, ho⟩ := createNextTable_err hfl h
    exact ⟨he, fun k => ho 1 k (hne k)⟩

/-- The level-1 write at the end of `map_to`, on a page whose entry is unused. -/
theorem evolves_update_leaf {page : Page} {e : PageTableEntry} (hnone : s.pt.leaf page = none) :
    Paging.Evolves ty s { s with pt := s.pt.update 1 page.path (some e) } := by
  refine ⟨rfl, fun l k hlk => tableEntry_update (fun ⟨e₀, he₀, _⟩ => ?_) hlk, .refl ty s.phys⟩
  rw [PageTable.leaf] at hnone
  rw [hnone] at he₀
  cases he₀

/-- A successful `map_to` found the page unused, wrote its level-1 entry, made the walk to it go
through, and wrote no other level-1 entry. -/
theorem mapTo_ok {page : Page} {frame : PhysFrame} {flags : PageTableFlags}
    (h : mapTo ty page frame flags s = .ok () s') :
    Paging.Evolves ty s s' ∧ s.pt.leaf page = none ∧ s'.pt.leaf page = some ⟨frame, flags⟩ ∧
      s'.pt.Walkable page ∧ ∀ k, k ≠ page.path → s'.pt.entry 1 k = s.pt.entry 1 k := by
  unfold mapTo at h
  obtain ⟨_, s₁, h₁, h⟩ := Kern.bind_ok_iff.mp h
  obtain ⟨_, s₂, h₂, h⟩ := Kern.bind_ok_iff.mp h
  obtain ⟨_, s₃, h₃, h⟩ := Kern.bind_ok_iff.mp h
  obtain ⟨e₁, t₁, -⟩ := createNextTable_ok h₁
  obtain ⟨e₂, t₂, -⟩ := createNextTable_ok h₂
  obtain ⟨e₃, t₃, -⟩ := createNextTable_ok h₃
  have l₁ := (createNextTable_level_one (by decide) rfl (.inl h₁)).2
  have l₂ := (createNextTable_level_one (by decide) rfl (.inl h₂)).2
  have l₃ := (createNextTable_level_one (by decide) rfl (.inl h₃)).2
  have hleaf : ∀ k, s₃.pt.entry 1 k = s.pt.entry 1 k := fun k => by rw [l₃, l₂, l₁]
  simp only [Kern.bind_apply, Kern.get_apply] at h
  split at h
  · cases h
  · rename_i hfree
    cases h
    have hnone : s₃.pt.leaf page = none := Option.not_isSome_iff_eq_none.mp hfree
    have e₄ : Paging.Evolves ty s₃ { s₃ with pt := s₃.pt.update 1 page.path (some ⟨frame, flags⟩) } :=
      evolves_update_leaf hnone
    refine ⟨e₁.trans (e₂.trans (e₃.trans e₄)), ?_, by simp [PageTable.leaf], ?_, ?_⟩
    · rw [PageTable.leaf, ← hleaf]; exact hnone
    · exact ⟨e₄.keep _ _ (e₃.keep _ _ (e₂.keep _ _ t₁)), e₄.keep _ _ (e₃.keep _ _ t₂),
        e₄.keep _ _ t₃⟩
    · intro k hk
      rw [PageTable.update_entry_of_ne _ _ (fun h => hk h.2), hleaf]

/-- A failed `map_to` leaves every level-1 entry as it was. -/
theorem mapTo_err {page : Page} {frame : PhysFrame} {flags : PageTableFlags} {err : MapToError}
    (h : mapTo ty page frame flags s = .err err s') :
    Paging.Evolves ty s s' ∧ ∀ k, s'.pt.entry 1 k = s.pt.entry 1 k := by
  unfold mapTo at h
  rcases Kern.bind_err_iff.mp h with h₁ | ⟨_, s₁, h₁, h⟩
  · exact createNextTable_level_one (by decide) rfl (.inr ⟨_, h₁⟩)
  obtain ⟨e₁, l₁⟩ := createNextTable_level_one (by decide) rfl (.inl h₁)
  rcases Kern.bind_err_iff.mp h with h₂ | ⟨_, s₂, h₂, h⟩
  · obtain ⟨e₂, l₂⟩ := createNextTable_level_one (by decide) rfl (.inr ⟨_, h₂⟩)
    exact ⟨e₁.trans e₂, fun k => (l₂ k).trans (l₁ k)⟩
  obtain ⟨e₂, l₂⟩ := createNextTable_level_one (by decide) rfl (.inl h₂)
  rcases Kern.bind_err_iff.mp h with h₃ | ⟨_, s₃, h₃, h⟩
  · obtain ⟨e₃, l₃⟩ := createNextTable_level_one (by decide) rfl (.inr ⟨_, h₃⟩)
    exact ⟨e₁.trans (e₂.trans e₃), fun k => by rw [l₃, l₂, l₁]⟩
  obtain ⟨e₃, l₃⟩ := createNextTable_level_one (by decide) rfl (.inl h₃)
  simp only [Kern.bind_apply, Kern.get_apply] at h
  split at h
  · cases h
    exact ⟨e₁.trans (e₂.trans e₃), fun k => by rw [l₃, l₂, l₁]⟩
  · cases h

/-- `map_to` evolves the paging state on its error paths as well. -/
theorem mapTo_stays (page : Page) (frame : PhysFrame) (flags : PageTableFlags) :
    Kern.Stays (Paging.Evolves ty) (mapTo ty page frame flags) :=
  .of_ok_err (fun _ _ _ h => (mapTo_ok h).1) (fun _ _ _ h => (mapTo_err h).1)

/-- `next_table_mut` at the end of `create_next_table` keeps the state it is given. -/
theorem nextTable_keeps {R : Paging → Paging → Prop} {e : PageTableEntry} {s₀ : Paging}
    (h : R s₀ s) : (nextTable e s).Keeps R s₀ := by
  unfold nextTable
  split
  · trivial
  · split
    · exact h
    · exact h

/-- `create_next_table` at a level 2 to 4 only adds page-table frames: a fresh table comes from a
`Usable` frame, and an entry in use keeps its frame. -/
theorem createNextTable_grows {lvl key : Nat} (hl : 2 ≤ lvl ∧ lvl ≤ 4) (fl : PageTableFlags) :
    Kern.Stays (Paging.Grows ty) (createNextTable ty lvl key fl) := by
  refine ⟨fun s => ?_⟩
  unfold createNextTable
  split
  · rename_i hnone
    split
    · exact Paging.Grows.refl ty s
    · rename_i frame phys halloc
      apply nextTable_keeps
      obtain ⟨husable, hty⟩ := PhysicalMemory.allocateFrameWithType_spec halloc
      refine ⟨fun f hf => PageTable.tableFrame_update (fun e₀ he₀ => ?_) hf, fun x => ?_,
        fun hc => PhysicalMemory.allocateFrameWithType_canonical hc halloc⟩
      · rw [hnone] at he₀
        cases he₀
      · by_cases hx : frame.Mem x
        · -- the new table is the frame just allocated
          refine .inr ⟨husable x hx, by simp only [hty x, if_pos hx], frame,
            .inr ⟨lvl, key, ⟨frame, fl⟩, hl.1, hl.2, by simp, rfl⟩, hx⟩
        · exact .inl (by simp only [hty x, if_neg hx])
    · -- a panic ends the run, and keeps any relation
      trivial
  · rename_i e he
    apply nextTable_keeps
    refine ⟨fun f hf => PageTable.tableFrame_update (fun e₀ he₀ => ?_) hf, fun _ => .inl rfl, id⟩
    rw [he] at he₀
    cases he₀
    exact (PageTableEntry.addFlags_frame _ _).symm

/-- `map_to` only adds page-table frames, on its error paths as well. -/
theorem mapTo_grows (page : Page) (frame : PhysFrame) (flags : PageTableFlags) :
    Kern.Stays (Paging.Grows ty) (mapTo ty page frame flags) := by
  unfold mapTo
  refine (createNextTable_grows (by decide) _).bind fun _ =>
    (createNextTable_grows (by decide) _).bind fun _ =>
      (createNextTable_grows (by decide) _).bind fun _ => ⟨fun s => ?_⟩
  -- the last step writes a level-1 entry or refuses
  simp only [Kern.bind_apply, Kern.get_apply]
  split
  · exact Paging.Grows.refl ty s
  · exact ⟨fun f hf => (PageTable.tableFrame_update_one _ _ _ f).mpr hf, fun _ => .inl rfl, id⟩

end MapTo

/-- `create_user_page_table`: a fresh L4 table from the user-mode allocator, empty but for the
kernel's higher-half entries 256..512, which it shares with the kernel. It panics when the
allocator has no frame (`expect`) or panics itself. -/
def createUserPageTable (kernel : PageTable) (phys : PhysicalMemory) :
    Except String (PageTable × PhysicalMemory) :=
  match phys.allocateFrameWithType .usedByUserMode with
  | .ok none => .error "Failed to allocate L4 frame for user page table"
  | .ok (some (l4Frame, phys)) =>
    .ok (⟨l4Frame, fun lvl key => if 256 ≤ key / 512 ^ (4 - lvl) then kernel.entry lvl key
      else none⟩, phys)
  | .error m => .error m

/-- A fresh user table comes from a `Usable` frame and maps nothing in the lower half. -/
theorem createUserPageTable_spec {kernel pt : PageTable} {phys phys' : PhysicalMemory}
    (h : createUserPageTable kernel phys = .ok (pt, phys')) :
    PhysicalMemory.OnlyAllocates .usedByUserMode phys phys' ∧
      ∀ q : Page, q.start.addr < 2 ^ 47 → pt.leaf q = none := by
  unfold createUserPageTable at h
  split at h
  · cases h
  · rename_i l4 phys'' halloc
    cases h
    refine ⟨PhysicalMemory.allocateFrameWithType_onlyAllocates halloc, fun q hq => ?_⟩
    have h4 := (Page.key_four_lt_iff q).mpr hq
    simp only [Page.key] at h4
    simp only [PageTable.leaf]
    rw [if_neg (by simpa using h4)]
  · cases h

/-- The new table's L4 frame was `Usable` and is `UsedByUserMode` after the call. -/
theorem createUserPageTable_l4Frame {kernel pt : PageTable} {phys phys' : PhysicalMemory}
    (h : createUserPageTable kernel phys = .ok (pt, phys')) {x : Nat} (hx : pt.l4Frame.Mem x) :
    phys.typeAt x = some .usable ∧ phys'.typeAt x = some .usedByUserMode := by
  unfold createUserPageTable at h
  split at h
  · cases h
  · rename_i l4 phys'' halloc
    cases h
    obtain ⟨husable, hty⟩ := PhysicalMemory.allocateFrameWithType_spec halloc
    exact ⟨husable x hx, by rw [hty, if_pos hx]⟩
  · cases h

end Bos
