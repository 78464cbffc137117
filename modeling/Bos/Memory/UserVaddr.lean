import Bos.Lib.IntervalMap
import Bos.Memory.Addr

/-!
# Bos.Memory.UserVaddr

The per-task set of user virtual address ranges (`memory/user_vaddr.rs`), a nodit interval set
modelled as an `IntervalMap Unit`. `allocate_user_pages` takes the first gap of the set inside
`[USER_MIN, USER_MAX]` that holds an aligned run of the requested pages and inserts that run;
`free_user_pages` removes a range that one interval of the set covers;
`is_user_vaddr_valid_range` asks whether one interval covers a range.

Every `u64` overflow panics; a panic is `Except.error` with the standard library's message.

* `allocateUserPages_spec`: the run is aligned, lies in `[USER_MIN, USER_MAX]`, was free, and is
  exactly what the set gains.
* `freeUserPages_spec`: a range is removed exactly when one interval covers it.
-/

namespace Bos

/-- A nodit `NoditSet<u64, Interval<u64>>`. -/
abbrev VaddrSet := IntervalMap Unit

/-- The address `x` is in the set. -/
def VaddrSet.Mem (set : VaddrSet) (x : Nat) : Prop := set.get? x = some ()

instance (set : VaddrSet) (x : Nat) : Decidable (set.Mem x) :=
  inferInstanceAs (Decidable (_ = _))

/-- `insert_merge_touching(i)`: it succeeds exactly when no address of `i` is in the set, and
then adds exactly the addresses of `i`. -/
theorem VaddrSet.insert_ok {set set' : VaddrSet} {i : Ival}
    (h : set.insertMergeTouchingIfValuesEqual i () = .ok set') :
    (∀ x, i.Mem x → ¬ set.Mem x) ∧ ∀ x, set'.Mem x ↔ i.Mem x ∨ set.Mem x := by
  obtain ⟨hd, rfl⟩ := IntervalMap.insertMerge_eq_ok_iff.mp h
  have hnone := (IntervalMap.disjoint_iff_get? set i).mp hd
  refine ⟨fun x hx hm => ?_, fun x => ?_⟩
  · unfold VaddrSet.Mem at hm
    rw [hnone x hx] at hm
    cases hm
  · unfold VaddrSet.Mem
    rw [IntervalMap.get?_insertMerged hd]
    by_cases hx : i.Mem x
    · rw [if_pos hx]
      exact ⟨fun _ => .inl hx, fun _ => rfl⟩
    · rw [if_neg hx]
      exact ⟨.inr, fun h => h.resolve_left hx⟩

def userRange : Ival := ⟨userMin, userMax, by decide⟩

/-- The `find_map` body of `allocate_user_pages`: the aligned run of `total_bytes` at the start of
`gap`, when `gap` contains it. -/
def fitInGap (totalBytes : Nat) (gap : Ival) : Except String (Option Ival) :=
  let alignedStart := nextMultipleOf gap.start pageSize
  match addU64? alignedStart totalBytes with
  | none => .error "attempt to add with overflow"
  | some e =>
    match Ival.ii? alignedStart (e - 1) with
    | none => .error "invalid interval"
    | some interval => .ok (if gap.containsInterval interval then some interval else none)

/-- `allocate_user_pages`: the start of the inserted run and the new set. -/
def allocateUserPages (set : VaddrSet) (nPages : Nat) : Except String (Option (Nat × VaddrSet)) :=
  match mulU64? nPages pageSize with
  | none => .error "attempt to multiply with overflow"
  | some totalBytes => do
    match ← (set.gapsTrimmed userRange).findSomeM? (fitInGap totalBytes) with
    | none => pure none
    | some interval =>
      match set.insertMergeTouchingIfValuesEqual interval () with
      | .ok set' => pure (some (interval.start, set'))
      | .error _ => .error "no overlap"

/-- `free_user_pages`: whether `[addr, addr + size)` was covered, and the new set. -/
def freeUserPages (set : VaddrSet) (addr size : Nat) : Except String (Bool × VaddrSet) :=
  match addU64? addr size with
  | none => .error "attempt to add with overflow"
  | some s =>
    if s = 0 then .error "attempt to subtract with overflow"
    else
      match Ival.ii? addr (s - 1) with
      | none => .error "invalid interval"
      | some interval =>
        if set.anyContains interval then .ok (true, set.cut interval) else .ok (false, set)

/-- `is_user_vaddr_valid_range`. -/
def isUserVaddrValidRange (set : VaddrSet) (start end_ : VirtAddr) : Except String Bool :=
  if end_.addr = 0 then .error "attempt to subtract with overflow"
  else
    match Ival.ii? start.addr (end_.addr - 1) with
    | none => .error "invalid interval"
    | some interval => .ok (set.anyContains interval)

theorem fitInGap_ok_some {totalBytes : Nat} {gap i : Ival}
    (h : fitInGap totalBytes gap = .ok (some i)) :
    i.start = nextMultipleOf gap.start pageSize ∧ i.last = i.start + totalBytes - 1 ∧
      ∀ x, i.Mem x → gap.Mem x := by
  unfold fitInGap at h
  dsimp only at h
  split at h
  · cases h
  · rename_i e he
    rw [addU64?_eq_some] at he
    split at h
    · cases h
    · rename_i interval hi
      obtain ⟨h1, h2⟩ := Ival.ii?_eq_some hi
      have hv := interval.valid
      split at h
      · rename_i hc
        cases h
        have hlast : i.last = i.start + totalBytes - 1 := by rw [h2, h1, ← he.2]
        exact ⟨h1, hlast, (Ival.containsInterval_iff gap i).mp hc⟩
      · cases h

theorem findSomeM?_fit_ok_some {totalBytes : Nat} :
    ∀ {gaps : List Ival} {i : Ival}, gaps.findSomeM? (fitInGap totalBytes) = .ok (some i) →
      ∃ gap ∈ gaps, fitInGap totalBytes gap = .ok (some i) := by
  intro gaps
  induction gaps with
  | nil => intro i h; cases h
  | cons g gs ih =>
    intro i h
    rw [List.findSomeM?_cons] at h
    cases hg : fitInGap totalBytes g with
    | error m => rw [hg] at h; cases h
    | ok r =>
      rw [hg] at h
      cases r with
      | some j => cases h; exact ⟨g, List.mem_cons_self, hg⟩
      | none =>
        obtain ⟨gap, hgap, hfit⟩ := ih h
        exact ⟨gap, List.mem_cons_of_mem _ hgap, hfit⟩

/-- The run `allocate_user_pages` returns is aligned, inside `[USER_MIN, USER_MAX]`, free in the
old set, and the new set is the old one with exactly this run added. -/
theorem allocateUserPages_spec {set set' : VaddrSet} {n a : Nat}
    (h : allocateUserPages set n = .ok (some (a, set'))) :
    a % pageSize = 0 ∧
      (∀ x, a ≤ x → x < a + n * pageSize → userMin ≤ x ∧ x ≤ userMax ∧ ¬ set.Mem x) ∧
      ∀ x, set'.Mem x ↔ (a ≤ x ∧ x < a + n * pageSize) ∨ set.Mem x := by
  unfold allocateUserPages at h
  split at h
  · cases h
  · rename_i totalBytes htb
    rw [mulU64?_eq_some] at htb
    simp only [bind, Except.bind] at h
    split at h
    · cases h
    · rename_i r hr
      cases r with
      | none => cases h
      | some i =>
        simp only at h
        split at h
        · rename_i set'' hins
          cases h
          obtain ⟨gap, hgap, hfit⟩ := findSomeM?_fit_ok_some hr
          obtain ⟨h1, h2, h3⟩ := fitInGap_ok_some hfit
          have hal := (nextMultipleOf_spec gap.start).2.2
          have hd : set.Disjoint i := by
            intro e he
            cases ho : e.1.overlaps i with
            | false => rfl
            | true =>
              obtain ⟨x, hex, hix⟩ := (Ival.overlaps_iff e.1 i).mp ho
              have hfree := ((IntervalMap.mem_gapsTrimmed set userRange x).mp ⟨gap, hgap, h3 x hix⟩).2
              rw [IntervalMap.get?_eq_none_iff] at hfree
              exact absurd hex (hfree e he)
          rw [IntervalMap.insertMerge_eq_ok hd] at hins
          cases hins
          -- the gap lies in `[USER_MIN, USER_MAX]`, so the run starts at or above `USER_MIN`
          have hgs : userMin ≤ gap.start := by
            have := ((IntervalMap.mem_gapsTrimmed set userRange gap.start).mp
              ⟨gap, hgap, ⟨Nat.le_refl _, gap.valid⟩⟩).1
            simpa [userRange] using this.1
          have hge := (nextMultipleOf_spec gap.start).1
          have hv := i.valid
          have hiff : ∀ x, i.Mem x ↔ i.start ≤ x ∧ x < i.start + n * pageSize := by
            intro x; simp only [Ival.mem_iff]; unfold userMin at hgs; omega
          refine ⟨h1 ▸ hal, fun x hx1 hx2 => ?_, fun x => ?_⟩
          · have hix : i.Mem x := (hiff x).mpr ⟨hx1, hx2⟩
            obtain ⟨hr1, hr2⟩ := (IntervalMap.mem_gapsTrimmed set userRange x).mp
              ⟨gap, hgap, h3 x hix⟩
            simp only [userRange, Ival.mem_iff] at hr1
            exact ⟨hr1.1, hr1.2, by simp [VaddrSet.Mem, hr2]⟩
          · unfold VaddrSet.Mem
            rw [IntervalMap.get?_insertMerged hd, ← hiff]
            by_cases hx : i.Mem x
            · rw [if_pos hx]; exact ⟨fun _ => .inl hx, fun _ => rfl⟩
            · rw [if_neg hx]; exact ⟨fun h => .inr h, fun h => h.resolve_left hx⟩
        · cases h

/-- The run starts at or above `USER_MIN`, also for `n_pages = 0`: its first address lies in a
gap trimmed to `[USER_MIN, USER_MAX]`. -/
theorem allocateUserPages_start {set set' : VaddrSet} {n a : Nat}
    (h : allocateUserPages set n = .ok (some (a, set'))) : userMin ≤ a := by
  unfold allocateUserPages at h
  split at h
  · cases h
  · simp only [bind, Except.bind] at h
    split at h
    · cases h
    · rename_i r hr
      cases r with
      | none => cases h
      | some i =>
        simp only at h
        split at h
        · cases h
          obtain ⟨gap, hgap, hfit⟩ := findSomeM?_fit_ok_some hr
          have hgi := (fitInGap_ok_some hfit).2.2 i.start ⟨Nat.le_refl _, i.valid⟩
          have hr := ((IntervalMap.mem_gapsTrimmed set userRange i.start).mp ⟨gap, hgap, hgi⟩).1
          simpa [userRange] using hr.1
        · cases h

/-- One interval of the set covers `[lo, hi)`. -/
def VaddrSet.Covers (set : VaddrSet) (lo hi : Nat) : Prop :=
  ∃ e ∈ set.entries, e.1.start ≤ lo ∧ hi ≤ e.1.last + 1

instance (set : VaddrSet) (lo hi : Nat) : Decidable (set.Covers lo hi) :=
  inferInstanceAs (Decidable (∃ e ∈ set.entries, _))

/-- Every address of a covered range is in the set. -/
theorem VaddrSet.mem_of_covers {set : VaddrSet} {lo hi x : Nat} (h : set.Covers lo hi)
    (hx1 : lo ≤ x) (hx2 : x < hi) : set.Mem x := by
  obtain ⟨e, he, h1, h2⟩ := h
  exact IntervalMap.lookup_eq_of_mem set.sorted he (by simp only [Ival.mem_iff]; omega)

theorem VaddrSet.Covers.mono {set : VaddrSet} {lo hi lo' hi' : Nat} (h : set.Covers lo hi)
    (hlo : lo ≤ lo') (hhi : hi' ≤ hi) : set.Covers lo' hi' := by
  obtain ⟨e, he, h₁, h₂⟩ := h
  exact ⟨e, he, by omega, by omega⟩

/-- An insertion covers the inserted interval and keeps every covered range covered. -/
theorem VaddrSet.covers_insert {set set' : VaddrSet} {i : Ival}
    (h : set.insertMergeTouchingIfValuesEqual i () = .ok set') :
    set'.Covers i.start (i.last + 1) ∧ ∀ lo hi, set.Covers lo hi → set'.Covers lo hi := by
  obtain ⟨hd, rfl⟩ := IntervalMap.insertMerge_eq_ok_iff.mp h
  refine ⟨?_, fun lo hi ⟨e, he, h₁, h₂⟩ => ?_⟩
  · obtain ⟨e, he, h₁, h₂⟩ := IntervalMap.exists_entry_insertMerged_self set i ()
    exact ⟨e, he, h₁, by omega⟩
  · obtain ⟨e', he', h₃, h₄⟩ := IntervalMap.exists_entry_insertMerged hd () he
    exact ⟨e', he', by omega, by omega⟩

theorem anyContains_ii? {set : VaddrSet} {lo hi : Nat} {i : Ival} (h : Ival.ii? lo (hi - 1) = some i)
    (hlt : lo < hi) : set.anyContains i = true ↔ set.Covers lo hi := by
  obtain ⟨h1, h2⟩ := Ival.ii?_eq_some h
  rw [IntervalMap.anyContains_iff]
  constructor
  · rintro ⟨e, he, hc⟩
    have hs := hc i.start ⟨Nat.le_refl _, i.valid⟩
    have hl := hc i.last ⟨i.valid, Nat.le_refl _⟩
    simp only [Ival.mem_iff] at hs hl
    exact ⟨e, he, by omega, by omega⟩
  · rintro ⟨e, he, hc1, hc2⟩
    exact ⟨e, he, fun x hx => by simp only [Ival.mem_iff] at hx ⊢; omega⟩

/-- `free_user_pages` removes `[addr, addr + size)` exactly when one interval covers it. It panics
only when `addr + size` overflows or `size` is zero. -/
theorem freeUserPages_spec {set : VaddrSet} {addr size : Nat} (hs : 0 < size)
    (hov : addr + size < 2 ^ 64) :
    ∃ set', freeUserPages set addr size = .ok (decide (set.Covers addr (addr + size)), set') ∧
      ∀ x, set'.Mem x ↔ set.Mem x ∧
        ¬ (set.Covers addr (addr + size) ∧ addr ≤ x ∧ x < addr + size) := by
  have hii : Ival.ii? addr (addr + size - 1) = some ⟨addr, addr + size - 1, by omega⟩ := by
    simp [Ival.ii?, show addr ≤ addr + size - 1 by omega]
  have hiff : set.anyContains _ = true ↔ _ := anyContains_ii? hii (by omega)
  unfold freeUserPages
  rw [addU64?_eq_some.mpr ⟨hov, rfl⟩]
  dsimp only
  rw [if_neg (by omega), hii]
  dsimp only
  by_cases hc : set.Covers addr (addr + size)
  · rw [if_pos (hiff.mpr hc), decide_eq_true hc]
    refine ⟨_, rfl, fun x => ?_⟩
    unfold VaddrSet.Mem
    rw [IntervalMap.get?_cut]
    simp only [Ival.mem_iff]
    by_cases hx : addr ≤ x ∧ x < addr + size
    · rw [if_pos (by omega)]
      simp only [reduceCtorEq, false_iff, not_and]
      exact fun _ h => h hc hx.1 hx.2
    · rw [if_neg (by omega)]
      exact ⟨fun h => ⟨h, fun h' => hx h'.2⟩, fun h => h.1⟩
  · rw [if_neg (fun h => hc (hiff.mp h)), decide_eq_false hc]
    exact ⟨_, rfl, fun x => ⟨fun h => ⟨h, fun h' => hc h'.1⟩, fun h => h.1⟩⟩

/-- In a canonical set, a range all of whose addresses are in the set is covered by one
interval. -/
theorem VaddrSet.covers_of_mem {set : VaddrSet} (hc : set.Canonical) {lo hi : Nat} (hlt : lo < hi)
    (h : ∀ x, lo ≤ x → x < hi → set.Mem x) : set.Covers lo hi := by
  obtain ⟨e, he, hs, hl, -⟩ :=
    IntervalMap.Canonical.exists_entry_of_get? hc (hi - 1 - lo) fun x h₁ h₂ => h x h₁ (by omega)
  exact ⟨e, he, hs, by omega⟩

/-- Two canonical sets with the same addresses are equal. -/
theorem VaddrSet.eq_of_mem_iff {set set' : VaddrSet} (hc : set.Canonical) (hc' : set'.Canonical)
    (h : ∀ x, set.Mem x ↔ set'.Mem x) : set = set' := by
  apply IntervalMap.eq_of_canonical hc hc'
  intro x
  have hx := h x
  unfold VaddrSet.Mem at hx
  cases h₁ : set.get? x <;> cases h₂ : set'.get? x <;> simp_all

/-- The new set of `allocate_user_pages` is a merging insertion into the old one. -/
theorem allocateUserPages_insert {set set' : VaddrSet} {n a : Nat}
    (h : allocateUserPages set n = .ok (some (a, set'))) :
    ∃ i, set.insertMergeTouchingIfValuesEqual i () = .ok set' := by
  unfold allocateUserPages at h
  split at h
  · cases h
  · simp only [bind, Except.bind] at h
    split at h
    · cases h
    · rename_i r _
      cases r with
      | none => cases h
      | some i =>
        simp only at h
        split at h
        · rename_i set'' hins
          cases h
          exact ⟨i, hins⟩
        · cases h

theorem allocateUserPages_canonical {set set' : VaddrSet} {n a : Nat} (hc : set.Canonical)
    (h : allocateUserPages set n = .ok (some (a, set'))) : set'.Canonical := by
  obtain ⟨i, hins⟩ := allocateUserPages_insert h
  obtain ⟨hd, rfl⟩ := IntervalMap.insertMerge_eq_ok_iff.mp hins
  exact IntervalMap.canonical_insertMerged hd () hc

theorem freeUserPages_canonical {set set' : VaddrSet} {addr size : Nat} {b : Bool}
    (hc : set.Canonical) (h : freeUserPages set addr size = .ok (b, set')) : set'.Canonical := by
  unfold freeUserPages at h
  split at h
  · cases h
  · split at h
    · cases h
    · split at h
      · cases h
      · split at h
        · cases h
          exact IntervalMap.canonical_cut hc _
        · cases h
          exact hc

/-- Giving back the run `allocate_user_pages` took leaves the set it was taken from. -/
theorem freeUserPages_of_allocate {set set' : VaddrSet} {n a : Nat} (hc : set.Canonical)
    (hn : 0 < n) (h : allocateUserPages set n = .ok (some (a, set'))) :
    freeUserPages set' a (n * pageSize) = .ok (true, set) := by
  obtain ⟨-, hrange, hmem⟩ := allocateUserPages_spec h
  have hc' := allocateUserPages_canonical hc h
  have hsize : 0 < n * pageSize := Nat.mul_pos hn (by unfold pageSize; omega)
  -- the run lies below `USER_MAX`, so its end fits in a `u64`
  have hend : a + n * pageSize < 2 ^ 64 := by
    have := (hrange (a + n * pageSize - 1) (by omega) (by omega)).2.1
    unfold userMax lowerHalfEnd at this
    omega
  have hcov : set'.Covers a (a + n * pageSize) :=
    VaddrSet.covers_of_mem hc' (by omega) fun x h₁ h₂ => (hmem x).mpr (.inl ⟨h₁, h₂⟩)
  obtain ⟨set'', hfree, hmem''⟩ := @freeUserPages_spec set' _ _ hsize hend
  rw [decide_eq_true hcov] at hfree
  rw [hfree, VaddrSet.eq_of_mem_iff (freeUserPages_canonical hc' hfree) hc fun x => ?_]
  rw [hmem'', hmem x]
  -- an address of the run was not in the set before
  constructor
  · rintro ⟨h | h, hout⟩
    · exact absurd ⟨hcov, h⟩ hout
    · exact h
  · intro hx
    exact ⟨.inr hx, fun ⟨_, h₁, h₂⟩ => (hrange x h₁ h₂).2.2 hx⟩

/-- `is_user_vaddr_valid_range` asks whether one interval covers `[start, end)`. -/
theorem isUserVaddrValidRange_eq {set : VaddrSet} {start end_ : VirtAddr}
    (h : start.addr < end_.addr) :
    isUserVaddrValidRange set start end_ = .ok (decide (set.Covers start.addr end_.addr)) := by
  have hii : Ival.ii? start.addr (end_.addr - 1) = some ⟨start.addr, end_.addr - 1, by omega⟩ := by
    simp [Ival.ii?, show start.addr ≤ end_.addr - 1 by omega]
  unfold isUserVaddrValidRange
  rw [if_neg (by omega), hii]
  dsimp only
  congr 1
  by_cases hc : set.Covers start.addr end_.addr
  · rw [(anyContains_ii? hii h).mpr hc, decide_eq_true hc]
  · have : set.anyContains ⟨start.addr, end_.addr - 1, by omega⟩ = false := by
      cases hh : set.anyContains ⟨start.addr, end_.addr - 1, by omega⟩ with
      | false => rfl
      | true => exact absurd ((anyContains_ii? hii h).mp hh) hc
    rw [this, decide_eq_false hc]

end Bos
