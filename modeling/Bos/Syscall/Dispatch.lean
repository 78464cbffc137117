import Bos.Memory.UserVaddr

/-!
# Bos.Syscall.Dispatch

The syscall front end: the 256-slot table that `raw_syscall_handler::init` fills,
`dispatch_syscall`, which indexes it with the raw syscall number, and `validate_user_ptr`, the
check every handler applies to a user pointer before reading or writing through it.

* `dispatchSyscall_of_lt`: below 256 the table decides, and an empty slot returns `u64::MAX`.
* `dispatchSyscall_of_ge`: from 256 on, the index is out of bounds and the kernel panics.
* `validateUserPtr_eq`: for a user task and any `ptr + size ≠ 2^47`, the check is the bound check
  and the covering check.
* `validateUserPtr_end_eq`: at `ptr + size = USER_MAX + 1 = 2^47` it passes the bound check and
  panics in `VirtAddr::new(end)`.
-/

namespace Bos

inductive SysCallNumber where
  | getBoundingBox | exit | spawn | readKey | yield | mmap | munmap | channelCreate
  | channelSend | channelRecv | channelClose | transferDisplay | getModule | getDisplayInfo
  | debugLog | waitpid | registerService | lookupService | readMouse | shutdown
  | createSharedBuf | mapSharedBuf | destroySharedBuf
  deriving DecidableEq, Repr

/-- The discriminants of `#[repr(u64)] enum SysCallNumber`. -/
def SysCallNumber.toNat : SysCallNumber → Nat
  | .getBoundingBox => 0 | .exit => 3 | .spawn => 4 | .readKey => 5 | .yield => 6 | .mmap => 7
  | .munmap => 8 | .channelCreate => 9 | .channelSend => 10 | .channelRecv => 11
  | .channelClose => 12 | .transferDisplay => 13 | .getModule => 14 | .getDisplayInfo => 15
  | .debugLog => 16 | .waitpid => 17 | .registerService => 18 | .lookupService => 19
  | .readMouse => 20 | .shutdown => 21 | .createSharedBuf => 22 | .mapSharedBuf => 23
  | .destroySharedBuf => 24

/-- The handlers `init` registers, in its order. `Exit` is not among them: `syscall_handler`
calls `sys_exit` before dispatching. -/
def registeredSyscalls : List SysCallNumber :=
  [.getBoundingBox, .getDisplayInfo, .readKey, .yield, .spawn, .mmap, .munmap, .channelCreate,
    .channelSend, .channelRecv, .channelClose, .transferDisplay, .getModule, .debugLog, .waitpid,
    .registerService, .lookupService, .readMouse, .shutdown, .createSharedBuf, .mapSharedBuf,
    .destroySharedBuf]

/-- `SYSCALL_TABLE` as `init` builds it: 256 empty slots, then one per registered handler. -/
def syscallTable : List (Option SysCallNumber) :=
  registeredSyscalls.foldl (fun t c => t.set c.toNat (some c)) (List.replicate 256 none)

def u64Max : Nat := 2 ^ 64 - 1

/-- `dispatch_syscall`: `call` runs a registered handler on the arguments. `table[n as usize]` on
a 256-entry array panics from 256 on. -/
def dispatchSyscall (call : SysCallNumber → Except String Nat) (n : Nat) : Except String Nat :=
  if h : n < syscallTable.length then
    match syscallTable[n] with
    | some f => call f
    | none => .ok u64Max
  else .error "index out of bounds: the len is 256"

theorem length_foldl_set (cs : List SysCallNumber) (t : List (Option SysCallNumber)) :
    (cs.foldl (fun t c => t.set c.toNat (some c)) t).length = t.length := by
  induction cs generalizing t with
  | nil => rfl
  | cons c cs ih => rw [List.foldl_cons, ih, List.length_set]

theorem syscallTable_length : syscallTable.length = 256 := by
  rw [syscallTable, length_foldl_set, List.length_replicate]

theorem dispatchSyscall_of_ge (call : SysCallNumber → Except String Nat) {n : Nat} (h : 256 ≤ n) :
    dispatchSyscall call n = .error "index out of bounds: the len is 256" := by
  unfold dispatchSyscall
  rw [dif_neg (by rw [syscallTable_length]; omega)]

inductive TaskKind where
  | kernel
  | user
  deriving DecidableEq, Repr

/-- `validate_user_ptr`, for the task in the current CPU's `current_task` slot (its kind and its
`user_vaddr_set`). -/
def validateUserPtr (current : Option (TaskKind × VaddrSet)) (ptr size : Nat) : Except String Bool :=
  if ptr = 0 ∨ size = 0 then .ok false
  else
    match addU64? ptr size with
    | none => .ok false
    | some end_ =>
      if ptr < userMin ∨ end_ > userMax + 1 then .ok false
      else
        match current with
        | some (.user, set) =>
          match VirtAddr.new? ptr with
          | none => .error "address passed to VirtAddr::new must not contain any data in bits 48 to 64"
          | some start =>
            match VirtAddr.new? end_ with
            | none => .error "address passed to VirtAddr::new must not contain any data in bits 48 to 64"
            | some e => isUserVaddrValidRange set start e
        | _ => .ok false

/-- Away from `ptr + size = 2^47`, a user task's pointer is valid exactly when the range is
nonempty, does not overflow, lies in `[USER_MIN, USER_MAX + 1)`, and one interval covers it. -/
theorem validateUserPtr_eq (set : VaddrSet) (ptr size : Nat) (hne : ptr + size ≠ 2 ^ 47) :
    validateUserPtr (some (.user, set)) ptr size =
      .ok (decide (0 < size ∧ userMin ≤ ptr ∧ ptr + size < 2 ^ 64 ∧ ptr + size ≤ userMax + 1 ∧
        set.Covers ptr (ptr + size))) := by
  unfold validateUserPtr
  by_cases h0 : ptr = 0 ∨ size = 0
  · rw [if_pos h0]
    congr 1
    rw [eq_comm, decide_eq_false]
    rintro ⟨h1, h2, -⟩
    simp only [userMin] at h2
    omega
  · rw [if_neg h0]
    by_cases hov : ptr + size < 2 ^ 64
    · rw [addU64?_eq_some.mpr ⟨hov, rfl⟩]
      dsimp only
      by_cases hb : ptr < userMin ∨ ptr + size > userMax + 1
      · rw [if_pos hb]
        congr 1
        rw [eq_comm, decide_eq_false]
        rintro ⟨-, h2, -, h4, -⟩
        omega
      · rw [if_neg hb]
        have hc1 : IsCanonical ptr := by unfold IsCanonical; simp only [userMax, lowerHalfEnd] at hb; omega
        have hc2 : IsCanonical (ptr + size) := by
          unfold IsCanonical; simp only [userMax, lowerHalfEnd] at hb; omega
        rw [show VirtAddr.new? ptr = some ⟨ptr, hc1⟩ by simp [VirtAddr.new?, hc1]]
        dsimp only
        rw [show VirtAddr.new? (ptr + size) = some ⟨ptr + size, hc2⟩ by simp [VirtAddr.new?, hc2]]
        dsimp only
        rw [isUserVaddrValidRange_eq (by simp only; omega)]
        congr 1
        by_cases hc : set.Covers ptr (ptr + size)
        · rw [decide_eq_true hc, decide_eq_true]
          exact ⟨by omega, by omega, hov, by omega, hc⟩
        · rw [decide_eq_false hc, decide_eq_false]
          exact fun h => hc h.2.2.2.2
    · rw [show addU64? ptr size = none by unfold addU64?; rw [if_neg hov]]
      rw [eq_comm, decide_eq_false]
      rintro ⟨-, -, h3, -⟩
      exact hov h3

/-- With `ptr + size = USER_MAX + 1` the bound check passes and `VirtAddr::new(end)` panics on
the non-canonical `0x8000_0000_0000`. -/
theorem validateUserPtr_end_eq (set : VaddrSet) (ptr size : Nat) (hp : userMin ≤ ptr)
    (hs : 0 < size) (he : ptr + size = userMax + 1) :
    validateUserPtr (some (.user, set)) ptr size =
      .error "address passed to VirtAddr::new must not contain any data in bits 48 to 64" := by
  simp only [userMin, userMax, lowerHalfEnd] at hp he
  have hc1 : IsCanonical ptr := by unfold IsCanonical; omega
  have hc2 : ¬ IsCanonical (ptr + size) := by unfold IsCanonical; omega
  unfold validateUserPtr
  rw [if_neg (by omega), show addU64? ptr size = some (ptr + size) by simp; omega]
  dsimp only
  rw [if_neg (by simp only [userMin, userMax, lowerHalfEnd]; omega)]
  rw [show VirtAddr.new? ptr = some ⟨ptr, hc1⟩ by simp [VirtAddr.new?, hc1]]
  dsimp only
  rw [show VirtAddr.new? (ptr + size) = none by simp [VirtAddr.new?, hc2]]

/-- Both checks of the front end fail at their edge: syscall number 256 indexes past the table,
and the last page below `USER_MAX + 1` makes `validate_user_ptr` panic. -/
theorem syscall_front_end_panics (call : SysCallNumber → Except String Nat) (set : VaddrSet) :
    dispatchSyscall call 256 = .error "index out of bounds: the len is 256" ∧
      validateUserPtr (some (.user, set)) 0x7FFFFFFFF000 0x1000 =
        .error "address passed to VirtAddr::new must not contain any data in bits 48 to 64" :=
  ⟨dispatchSyscall_of_ge call (Nat.le_refl _),
    validateUserPtr_end_eq set _ _ (by decide) (by decide) (by decide)⟩

end Bos
