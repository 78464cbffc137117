import Bos.Task.Scheduler

/-!
# Bos.Task.Lifecycle

`sys_exit` and `sys_waitpid` on several CPUs. A step is what one CPU does between two accesses
to shared state (an atomic store or load, or one critical section), or a timer tick, and any CPU
can take the next step. The source's steps:

```
sys_exit(code):                           sys_waitpid(target, out):
  exit_code.store(code)                     loop {
  state.store(Zombie)                         TASK_TABLE.get(target)?    -- else return 1
  match exit_waiter.take() {                  if state.load() == Zombie {
    Some((w, cpu)) => wake_task(w, cpu),        code = exit_code.load()
    None => TASK_TABLE.remove(id),              TASK_TABLE.remove(target); *out = code
  }                                             return 0
  sti; loop { hlt }                           }
                                              exit_waiter = Some((self, cpu))
                                              state.store(Sleeping)
                                              sti; hlt; cli
                                            }
```

* `waitpid_returns_exit_code`: in every run that spawns fewer than `2 ^ 64` tasks, a
  `sys_waitpid` that returns 0 writes the code its target passed to `sys_exit`: the code is
  stored before `Zombie` is (`Inv.run`). `NEXT_ID` wraps, and a later task may take the id of a
  reaped one, so the bound is what makes a task id name one task.
* `waitpid_lost_wakeup`: a target whose `sys_exit` takes its waiter between its waiter's `Zombie`
  check and the waiter's registration finds none, and leaves `TASK_TABLE`; the waiter then
  registers on it and sleeps, and once a tick drops it no step of any CPU runs it again.
* `waitpid_overwrites_waiter`: a second `sys_waitpid` on the same target overwrites the one
  `exit_waiter` slot, and the first waiter, asleep, is woken by nothing.
* `ready_count_eq_length`: in every run, every CPU's `ready_count` is the length of its ready
  queue (`exec_sched` says what a step does to the run queues).

The lost waiters rest on `Stuck.run`: a task that sleeps, is held by no run queue and is the exit
waiter of no live task stays so, and in place, through every step of every CPU. They need no
bound on the spawns: a sleeping task stays in `TASK_TABLE` (`Listed.run`), so no spawn takes its
id.

`wake_task` is one step (its store of `Ready` and its push to the run queue). Every CPU sees
the steps of each CPU in program order, as x86 keeps stores in order and loads in order; the
Rust memory model alone would not, since `Zombie` is stored `Relaxed` after the `Release` store
of the code. Closing the task's endpoints and its services at the start of
`sys_exit` touch neither call's state and are not modelled; nor is the check of
`exit_code_out_ptr` (a bad pointer returns 1 before the loop).
-/

namespace Bos

namespace Lifecycle

/-- Where a task is: in user code, or before a step of `sys_exit` or of `sys_waitpid`. -/
inductive Pc where
  | user
  /-- In `sys_exit`: its next step stores the exit code. -/
  | storeCode (code : Nat)
  | storeZombie
  /-- Its next step takes the exit waiter: wakes it, or removes the task from `TASK_TABLE`. -/
  | takeWaiter
  /-- The `hlt` loop at the end of `sys_exit`. -/
  | exited
  /-- At the top of `sys_waitpid`'s loop: its next step looks `target` up in `TASK_TABLE`. -/
  | lookup (target : Nat)
  | check (target : Nat)
  /-- The target is alive: its next step registers the exit waiter. -/
  | register (target : Nat)
  | sleep (target : Nat)
  /-- Registered, in `sti; hlt`. -/
  | halt (target : Nat)
  deriving DecidableEq, Repr

/-- Interrupts are enabled. -/
def Pc.interruptible : Pc → Bool
  | .user | .exited | .halt _ => true
  | _ => false

/-- In `sys_exit`. -/
def Pc.exiting : Pc → Bool
  | .storeCode _ | .storeZombie | .takeWaiter | .exited => true
  | _ => false

/-- The tasks of the kernel on `cpusCount` CPUs: the run queues and task states, where every task
is, `TASK_TABLE`, every task's `exit_code` and `exit_waiter`, the counters `NEXT_ID` and
`NEXT_SPAWN_CPU`; and what user code sees of the two calls: the code each task passed to
`sys_exit`, and the writes of `sys_waitpid` to `exit_code_out_ptr`, as (waiter, target, code). -/
structure Tasks where
  sched : Sched
  pc : Nat → Pc
  taskTable : Nat → Bool
  exitCode : Nat → Nat
  exitWaiter : Nat → Option (Nat × Nat)
  nextId : Nat
  nextSpawnCpu : Nat
  cpusCount : Nat
  exitArg : Nat → Option Nat
  written : List (Nat × Nat × Nat)

/-- A step of the machine. The CPU of a system call is the one whose current task makes it. -/
inductive Action where
  /-- `spawn_task(Task::new_user(..))`. -/
  | spawn
  | tick (cpu : Nat)
  | exit (cpu code : Nat)
  | waitpid (cpu target : Nat)
  /-- The current task of `cpu` takes the next step of the call it is in. -/
  | resume (cpu : Nat)
  deriving DecidableEq, Repr

namespace Tasks

/-- No task; task ids start at 0. -/
def boot (cpusCount : Nat) : Tasks :=
  ⟨Sched.init, fun _ => .user, fun _ => false, fun _ => 0, fun _ => none, 0, 0, cpusCount,
    fun _ => none, []⟩

def current (m : Tasks) (cpu : Nat) : Option Nat :=
  (m.sched.cpus cpu).runQueue.currentTask

def setPc (m : Tasks) (t : Nat) (p : Pc) : Tasks :=
  { m with pc := Function.update m.pc t p }

/-- The current task of `cpu`, when it runs user code and so can make a system call. -/
def userTask (m : Tasks) (cpu : Nat) : Option Nat :=
  (m.current cpu).filter fun t => decide (m.pc t = .user)

def interruptible (m : Tasks) (cpu : Nat) : Bool :=
  match m.current cpu with
  | none => true
  | some t => (m.pc t).interruptible

/-- `spawn_task` of a task made by `Task::new`: its id is `NEXT_ID.fetch_add(1)` on an
`AtomicU64`, which wraps, its exit code 0 and its exit waiter empty; it goes into `TASK_TABLE`,
where a second task of the same id panics, is stored `Ready` and is added to the run queue of the
CPU `NEXT_SPAWN_CPU` picks. -/
def spawn (m : Tasks) : Option Tasks :=
  let t := m.nextId
  if m.taskTable t then none
  else some { m with
    sched := Sched.add (m.nextSpawnCpu % m.cpusCount) t (m.sched.setState t .ready)
    pc := Function.update m.pc t .user
    taskTable := Function.update m.taskTable t true
    exitCode := Function.update m.exitCode t 0
    exitWaiter := Function.update m.exitWaiter t none
    nextId := (m.nextId + 1) % 2 ^ 64
    nextSpawnCpu := (m.nextSpawnCpu + 1) % 2 ^ 64 }

def tick (m : Tasks) (cpu : Nat) : Option Tasks :=
  if m.interruptible cpu then some { m with sched := Sched.scheduleFromInterrupt cpu m.sched }
  else none

/-- The entry of `sys_exit(code)`. -/
def exit (m : Tasks) (cpu code : Nat) : Option Tasks :=
  (m.userTask cpu).map fun t =>
    { m.setPc t (.storeCode code) with exitArg := Function.update m.exitArg t (some code) }

/-- The entry of `sys_waitpid(target, out)` with a valid `out`. -/
def waitpid (m : Tasks) (cpu target : Nat) : Option Tasks :=
  (m.userTask cpu).map fun t => m.setPc t (.lookup target)

/-- `exit_waiter.lock().take()` and what follows it: `wake_task(waiter, cpu)`, or, with no
waiter, `TASK_TABLE.lock().remove(&id)`. -/
def takeWaiter (m : Tasks) (t : Nat) : Tasks :=
  match m.exitWaiter t with
  | some (w, wCpu) =>
    { m.setPc t .exited with
      exitWaiter := Function.update m.exitWaiter t none
      sched := Sched.wakeTask w wCpu m.sched }
  | none => { m.setPc t .exited with taskTable := Function.update m.taskTable t false }

/-- The `Zombie` check of `sys_waitpid` and what follows it: a zombie's exit code is loaded, the
target removed from `TASK_TABLE`, the code written to `out` and 0 returned; a live target goes
on to registration. The loads, the remove and the write are one step: they touch a zombie,
whose exit code no longer changes. -/
def check (m : Tasks) (t target : Nat) : Tasks :=
  if m.sched.state target = .zombie then
    { m.setPc t .user with
      taskTable := Function.update m.taskTable target false
      written := m.written ++ [(t, target, m.exitCode target)] }
  else m.setPc t (.register target)

/-- `*target.exit_waiter.lock() = Some((self, cpu))`. -/
def register (m : Tasks) (t cpu target : Nat) : Tasks :=
  { m.setPc t (.sleep target) with
    exitWaiter := Function.update m.exitWaiter target (some (t, cpu)) }

/-- The next step of the call the current task of `cpu` is in. -/
def resume (m : Tasks) (cpu : Nat) : Option Tasks :=
  match m.current cpu with
  | none => none
  | some t =>
    match m.pc t with
    | .user => none
    | .storeCode code =>
      some { m.setPc t .storeZombie with exitCode := Function.update m.exitCode t code }
    | .storeZombie => some { m.setPc t .takeWaiter with sched := m.sched.setState t .zombie }
    | .takeWaiter => some (m.takeWaiter t)
    -- `hlt` in a loop: nothing changes
    | .exited => none
    | .lookup target => some (m.setPc t (if m.taskTable target then .check target else .user))
    | .check target => some (m.check t target)
    | .register target => some (m.register t cpu target)
    | .sleep target => some { m.setPc t (.halt target) with sched := m.sched.setState t .sleeping }
    -- the `hlt` returned: back to the top of the loop
    | .halt target => some (m.setPc t (.lookup target))

def exec (m : Tasks) : Action → Option Tasks
  | .spawn => m.spawn
  | .tick cpu => m.tick cpu
  | .exit cpu code => m.exit cpu code
  | .waitpid cpu target => m.waitpid cpu target
  | .resume cpu => m.resume cpu

/-- The actions in turn; `none` once one cannot be taken. -/
def run (m : Tasks) : List Action → Option Tasks
  | [] => some m
  | a :: as => (m.exec a).bind fun m' => m'.run as

/-- What every action keeps holds after every run. -/
theorem run_induction {P : Tasks → Prop}
    (hstep : ∀ {m m' : Tasks} {a : Action}, P m → m.exec a = some m' → P m') :
    ∀ {as : List Action} {m m' : Tasks}, P m → m.run as = some m' → P m'
  | [], _, _, h, hs => by
    cases hs
    exact h
  | _ :: _, _, _, h, hs => by
    obtain ⟨m₁, h₁, hs⟩ := Option.bind_eq_some_iff.mp hs
    exact run_induction hstep (hstep h h₁) hs

/-- Everything a step of a system call can do: the current task of `cpu` takes the step its
place says, and user code and the `hlt` loop of `sys_exit` take none. -/
theorem resume_cases {m m' : Tasks} {cpu : Nat} (hs : m.resume cpu = some m') :
    ∃ t, m.current cpu = some t ∧
      ((∃ code, m.pc t = .storeCode code ∧
          m' = { m.setPc t .storeZombie with exitCode := Function.update m.exitCode t code }) ∨
        (m.pc t = .storeZombie ∧
          m' = { m.setPc t .takeWaiter with sched := m.sched.setState t .zombie }) ∨
        (m.pc t = .takeWaiter ∧ m' = m.takeWaiter t) ∨
        (∃ target, m.pc t = .lookup target ∧
          m' = m.setPc t (if m.taskTable target then .check target else .user)) ∨
        (∃ target, m.pc t = .check target ∧ m' = m.check t target) ∨
        (∃ target, m.pc t = .register target ∧ m' = m.register t cpu target) ∨
        (∃ target, m.pc t = .sleep target ∧
          m' = { m.setPc t (.halt target) with sched := m.sched.setState t .sleeping }) ∨
        (∃ target, m.pc t = .halt target ∧ m' = m.setPc t (.lookup target))) := by
  unfold resume at hs
  cases hc : m.current cpu with
  | none => simp [hc] at hs
  | some t =>
    simp only [hc] at hs
    refine ⟨t, rfl, ?_⟩
    cases hp : m.pc t <;> simp only [hp, Option.some.injEq, reduceCtorEq] at hs <;> subst hs
    · exact .inl ⟨_, rfl, rfl⟩
    · exact .inr (.inl ⟨rfl, rfl⟩)
    · exact .inr (.inr (.inl ⟨rfl, rfl⟩))
    · exact .inr (.inr (.inr (.inl ⟨_, rfl, rfl⟩)))
    · exact .inr (.inr (.inr (.inr (.inl ⟨_, rfl, rfl⟩))))
    · exact .inr (.inr (.inr (.inr (.inr (.inl ⟨_, rfl, rfl⟩)))))
    · exact .inr (.inr (.inr (.inr (.inr (.inr (.inl ⟨_, rfl, rfl⟩))))))
    · exact .inr (.inr (.inr (.inr (.inr (.inr (.inr ⟨_, rfl, rfl⟩))))))

/-- Only `spawn` moves `NEXT_ID`. -/
theorem exec_nextId {m m' : Tasks} {a : Action} (hs : m.exec a = some m') :
    m'.nextId = if a = .spawn then (m.nextId + 1) % 2 ^ 64 else m.nextId := by
  cases a with
  | spawn =>
    change m.spawn = some m' at hs
    dsimp only [spawn] at hs
    split at hs
    · cases hs
    · cases hs; rfl
  | tick cpu =>
    change m.tick cpu = some m' at hs
    unfold tick at hs
    split at hs
    · cases hs; rfl
    · cases hs
  | exit cpu code =>
    obtain ⟨t, -, rfl⟩ := Option.map_eq_some_iff.mp hs
    rfl
  | waitpid cpu target =>
    obtain ⟨t, -, rfl⟩ := Option.map_eq_some_iff.mp hs
    rfl
  | resume cpu =>
    obtain ⟨t, -, ⟨code, -, rfl⟩ | ⟨-, rfl⟩ | ⟨-, rfl⟩ | ⟨target, -, rfl⟩ | ⟨target, -, rfl⟩ |
      ⟨target, -, rfl⟩ | ⟨target, -, rfl⟩ | ⟨target, -, rfl⟩⟩ := resume_cases hs
    · rfl
    · rfl
    · unfold takeWaiter; split <;> rfl
    · rfl
    · unfold check; split <;> rfl
    · rfl
    · rfl
    · rfl

/-- What one step does to the run queues and task states: nothing, a store of one task's state,
that store as `Ready` followed by `local_scheduler::add` (a spawn or `wake_task`), or a tick. -/
theorem exec_sched {m m' : Tasks} {a : Action} (hs : m.exec a = some m') :
    m'.sched = m.sched ∨ (∃ t st, m'.sched = m.sched.setState t st) ∨
      (∃ c t, m'.sched = Sched.add c t (m.sched.setState t .ready)) ∨
      ∃ c, m'.sched = Sched.scheduleFromInterrupt c m.sched := by
  cases a with
  | spawn =>
    change m.spawn = some m' at hs
    dsimp only [spawn] at hs
    split at hs
    · cases hs
    · cases hs; exact .inr (.inr (.inl ⟨_, _, rfl⟩))
  | tick cpu =>
    change m.tick cpu = some m' at hs
    unfold tick at hs
    split at hs
    · cases hs; exact .inr (.inr (.inr ⟨cpu, rfl⟩))
    · cases hs
  | exit cpu code =>
    obtain ⟨t, -, rfl⟩ := Option.map_eq_some_iff.mp hs
    exact .inl rfl
  | waitpid cpu target =>
    obtain ⟨t, -, rfl⟩ := Option.map_eq_some_iff.mp hs
    exact .inl rfl
  | resume cpu =>
    obtain ⟨t, -, ⟨code, -, rfl⟩ | ⟨-, rfl⟩ | ⟨-, rfl⟩ | ⟨target, -, rfl⟩ | ⟨target, -, rfl⟩ |
      ⟨target, -, rfl⟩ | ⟨target, -, rfl⟩ | ⟨target, -, rfl⟩⟩ := resume_cases hs
    · exact .inl rfl
    · exact .inr (.inl ⟨t, .zombie, rfl⟩)
    · -- `wake_task` of the waiter taken, if there is one
      unfold takeWaiter
      split
      · exact .inr (.inr (.inl ⟨_, _, rfl⟩))
      · exact .inl rfl
    · exact .inl rfl
    · unfold check; split <;> exact .inl rfl
    · exact .inl rfl
    · exact .inr (.inl ⟨t, .sleeping, rfl⟩)
    · exact .inl rfl

end Tasks

/-! ## The invariant -/

/-- What one task's own fields keep: where it is, its state, the code it passed to `sys_exit`
and its `exit_code`. -/
structure Local (p : Pc) (st : TaskState) (arg : Option Nat) (code : Nat) : Prop where
  /-- A task about to store its exit code passed that code to `sys_exit`. -/
  storeCode : ∀ c, p = .storeCode c → arg = some c
  /-- Past that store, `exit_code` holds the code passed to `sys_exit`. -/
  stored : p = .storeZombie ∨ p = .takeWaiter ∨ p = .exited → arg = some code
  /-- A zombie is past its store of `Zombie`. -/
  zombie : st = .zombie → p = .takeWaiter ∨ p = .exited
  /-- A task that called `sys_exit` stays in it. -/
  once : arg ≠ none → p.exiting = true

namespace Local

variable {p q : Pc} {st st' : TaskState} {arg : Option Nat} {code c : Nat}

theorem arg_eq_none (h : Local p st arg code) (hp : p.exiting = false) : arg = none := by
  by_contra hne
  rw [h.once hne] at hp
  cases hp

theorem not_zombie (h : Local p st arg code) (h1 : p ≠ .takeWaiter) (h2 : p ≠ .exited) :
    st ≠ .zombie := fun hz => (h.zombie hz).elim h1 h2

/-- A task that has not called `sys_exit` and is no zombie. -/
theorem user (hst : st ≠ .zombie) : Local .user st none code :=
  ⟨fun _ hc => (by cases hc), fun hs => (by simp at hs), fun hz => absurd hz hst,
    fun hne => absurd rfl hne⟩

theorem setState (h : Local p st arg code) (hst : st' ≠ .zombie) : Local p st' arg code :=
  ⟨h.storeCode, h.stored, fun hz => absurd hz hst, h.once⟩

/-- A task out of `sys_exit` moves to another place out of it. -/
theorem move (h : Local p st arg code) (hp : p.exiting = false) (hq : q.exiting = false) :
    Local q st arg code := by
  have harg := h.arg_eq_none hp
  have hz := h.not_zombie (by rintro rfl; cases hp) (by rintro rfl; cases hp)
  refine ⟨fun c hc => ?_, fun hs => ?_, fun hz' => absurd hz' hz, fun hne => absurd harg hne⟩
  · subst hc; cases hq
  · rcases hs with rfl | rfl | rfl <;> cases hq

theorem enter (h : Local .user st arg code) : Local (.storeCode c) st (some c) code := by
  have hz := h.not_zombie (by simp) (by simp)
  exact ⟨fun _ hc => (by cases hc; rfl), fun hs => (by simp at hs), fun hz' => absurd hz' hz,
    fun _ => rfl⟩

theorem storeExitCode (h : Local (.storeCode c) st arg code) : Local .storeZombie st arg c := by
  have hz := h.not_zombie (by simp) (by simp)
  exact ⟨fun _ hc => (by cases hc), fun _ => h.storeCode c rfl, fun hz' => absurd hz' hz,
    fun _ => rfl⟩

theorem storeZombie (h : Local .storeZombie st arg code) : Local .takeWaiter .zombie arg code :=
  ⟨fun _ hc => (by cases hc), fun _ => h.stored (.inl rfl), fun _ => .inl rfl, fun _ => rfl⟩

theorem takeWaiter (h : Local .takeWaiter st arg code) : Local .exited st arg code :=
  ⟨fun _ hc => (by cases hc), fun _ => h.stored (.inr (.inl rfl)), fun _ => .inr rfl, fun _ => rfl⟩

end Local

namespace Tasks

/-- What every run keeps. -/
structure Inv (m : Tasks) : Prop where
  task : ∀ t, Local (m.pc t) (m.sched.state t) (m.exitArg t) (m.exitCode t)
  /-- The ids from `NEXT_ID` on are unused. -/
  fresh : ∀ t, m.nextId ≤ t → m.exitArg t = none ∧ m.taskTable t = false
  /-- Every task a run queue holds, and every exit waiter, was spawned. -/
  held : ∀ cpu t, m.sched.Holds cpu t → t < m.nextId
  waiters : ∀ t w c, m.exitWaiter t = some (w, c) → w < m.nextId
  /-- Every code `sys_waitpid` wrote is the code its target passed to `sys_exit`. -/
  written : ∀ w target code, (w, target, code) ∈ m.written → m.exitArg target = some code

variable {m m' : Tasks} {cpu t target code : Nat}

theorem inv_boot (n : Nat) : Inv (boot n) := by
  refine ⟨fun t => Local.user (show TaskState.initializing ≠ .zombie by simp), ?_, ?_, ?_, ?_⟩ <;>
    simp [boot, Sched.init, Sched.Holds]

theorem userTask_eq_some (h : m.userTask cpu = some t) : m.current cpu = some t ∧ m.pc t = .user := by
  unfold userTask at h
  obtain ⟨hc, hp⟩ := Option.filter_eq_some_iff.mp h
  exact ⟨hc, of_decide_eq_true hp⟩

theorem Inv.lt_of_current (h : Inv m) (hc : m.current cpu = some t) : t < m.nextId :=
  h.held cpu t (.inl hc)

/-! ### Steps that change one part of the state -/

/-- A change of the scheduler that makes no new zombie and puts only spawned tasks in run
queues. -/
theorem Inv.sched (h : Inv m) (s : Sched) (hz : ∀ t, s.state t = m.sched.state t ∨ s.state t ≠ .zombie)
    (hh : ∀ c t, s.Holds c t → t < m.nextId) : Inv { m with sched := s } := by
  refine ⟨fun t => ?_, h.fresh, hh, h.waiters, h.written⟩
  rcases hz t with hst | hst
  · dsimp only
    rw [hst]
    exact h.task t
  · exact (h.task t).setState hst

theorem Inv.wake (h : Inv m) (hw : t < m.nextId) (c : Nat) :
    Inv { m with sched := Sched.wakeTask t c m.sched } := by
  refine h.sched _ (fun t' => ?_) (fun k t' hk => ?_)
  · by_cases htt : t' = t
    · subst htt; right; simp [Sched.wakeTask]
    · left; simp [Sched.wakeTask, Function.update_of_ne htt]
  · rcases Sched.holds_wakeTask.mp hk with hk | ⟨-, rfl⟩
    · exact h.held k t' hk
    · exact hw

theorem Inv.setPc (h : Inv m) (hold : (m.pc t).exiting = false) {p : Pc}
    (hp : p.exiting = false) : Inv (m.setPc t p) := by
  refine ⟨fun t' => ?_, h.fresh, h.held, h.waiters, h.written⟩
  by_cases htt : t' = t
  · subst htt; simpa [Tasks.setPc] using (h.task t').move hold hp
  · simpa [Tasks.setPc, Function.update_of_ne htt] using h.task t'

theorem Inv.removeTask (h : Inv m) (t : Nat) :
    Inv { m with taskTable := Function.update m.taskTable t false } := by
  refine ⟨h.task, fun t' ht' => ?_, h.held, h.waiters, h.written⟩
  by_cases htt : t' = t
  · subst htt; simpa using (h.fresh t' ht').1
  · simpa [Function.update_of_ne htt] using h.fresh t' ht'

theorem Inv.setWaiter (h : Inv m) (t : Nat) (w : Option (Nat × Nat))
    (hw : ∀ x c, w = some (x, c) → x < m.nextId) :
    Inv { m with exitWaiter := Function.update m.exitWaiter t w } := by
  refine ⟨h.task, h.fresh, h.held, fun t' x c hx => ?_, h.written⟩
  by_cases htt : t' = t
  · subst htt; exact hw x c (by simpa using hx)
  · exact h.waiters t' x c (by simpa [Function.update_of_ne htt] using hx)

theorem Inv.write (h : Inv m) (w : Nat) (hw : m.exitArg target = some code) :
    Inv { m with written := m.written ++ [(w, target, code)] } := by
  refine ⟨h.task, h.fresh, h.held, h.waiters, fun w' tg c hmem => ?_⟩
  rcases List.mem_append.mp hmem with hmem | hmem
  · exact h.written w' tg c hmem
  · simp only [List.mem_singleton, Prod.mk.injEq] at hmem
    obtain ⟨-, rfl, rfl⟩ := hmem
    exact hw

/-! ### Every action -/

theorem Inv.spawn (h : Inv m) (hb : m.nextId + 1 < 2 ^ 64) (hs : m.spawn = some m') : Inv m' := by
  dsimp only [Tasks.spawn] at hs
  split at hs
  · cases hs
  cases hs
  rw [Nat.mod_eq_of_lt hb]
  -- the new task takes the id `NEXT_ID`, which nothing used before
  obtain ⟨hnone, -⟩ := h.fresh m.nextId le_rfl
  refine ⟨fun t => ?_, fun t ht => ?_, fun cpu t hh => ?_, fun t w c hw => ?_, h.written⟩
  all_goals dsimp only at *
  · by_cases htt : t = m.nextId
    · subst htt; simpa [hnone] using Local.user (show TaskState.ready ≠ .zombie by simp)
    · simpa [Function.update_of_ne htt] using (h.task t)
  · have htt : t ≠ m.nextId := by omega
    rw [Function.update_of_ne htt]
    exact h.fresh t (by omega)
  · rcases Sched.holds_add.mp hh with hh | ⟨-, rfl⟩
    · exact Nat.lt_succ_of_lt (h.held cpu t hh)
    · exact Nat.lt_succ_self _
  · have htt : t ≠ m.nextId := by rintro rfl; simp at hw
    rw [Function.update_of_ne htt] at hw
    exact Nat.lt_succ_of_lt (h.waiters t w c hw)

theorem Inv.tick (h : Inv m) (hs : m.tick cpu = some m') : Inv m' := by
  unfold Tasks.tick at hs
  split at hs
  · cases hs
    refine h.sched _ (fun t => ?_) (fun c t hh => h.held c t hh.of_scheduleFromInterrupt)
    rcases Sched.scheduleFromInterrupt_state cpu m.sched t with hst | ⟨-, hst | hst⟩
    · exact .inl hst
    all_goals exact .inr (by rw [hst]; simp)
  · cases hs

theorem Inv.exit (h : Inv m) (hs : m.exit cpu code = some m') : Inv m' := by
  obtain ⟨t, ht, rfl⟩ := Option.map_eq_some_iff.mp hs
  obtain ⟨hc, hpc⟩ := userTask_eq_some ht
  have hl := h.task t
  rw [hpc] at hl
  have hnone : m.exitArg t = none := hl.arg_eq_none rfl
  refine ⟨fun t' => ?_, fun t' ht' => ?_, h.held, h.waiters, fun w tg c hw => ?_⟩
  · by_cases htt : t' = t
    · subst htt; simpa [Tasks.setPc] using hl.enter
    · simpa [Tasks.setPc, Function.update_of_ne htt] using h.task t'
  · change m.nextId ≤ t' at ht'
    have htt : t' ≠ t := by have := h.lt_of_current hc; omega
    simpa [Tasks.setPc, Function.update_of_ne htt] using h.fresh t' ht'
  · -- no code was written for a task before its `sys_exit`
    have htt : tg ≠ t := by rintro rfl; rw [h.written w tg c hw] at hnone; cases hnone
    simpa [Tasks.setPc, Function.update_of_ne htt] using h.written w tg c hw

theorem Inv.waitpid (h : Inv m) (hs : m.waitpid cpu target = some m') : Inv m' := by
  obtain ⟨t, ht, rfl⟩ := Option.map_eq_some_iff.mp hs
  exact h.setPc (by rw [(userTask_eq_some ht).2]; rfl) rfl

theorem Inv.storeExitCode (h : Inv m) (hpc : m.pc t = .storeCode code) :
    Inv { m.setPc t .storeZombie with exitCode := Function.update m.exitCode t code } := by
  refine ⟨fun t' => ?_, h.fresh, h.held, h.waiters, h.written⟩
  by_cases htt : t' = t
  · subst htt
    have hl := h.task t'
    rw [hpc] at hl
    simpa [Tasks.setPc] using hl.storeExitCode
  · simpa [Tasks.setPc, Function.update_of_ne htt] using h.task t'

theorem Inv.storeZombie (h : Inv m) (hpc : m.pc t = .storeZombie) :
    Inv { m.setPc t .takeWaiter with sched := m.sched.setState t .zombie } := by
  refine ⟨fun t' => ?_, h.fresh, h.held, h.waiters, h.written⟩
  by_cases htt : t' = t
  · subst htt
    have hl := h.task t'
    rw [hpc] at hl
    simpa [Tasks.setPc] using hl.storeZombie
  · simpa [Tasks.setPc, Function.update_of_ne htt] using h.task t'

theorem Inv.takeWaiter (h : Inv m) (hpc : m.pc t = .takeWaiter) : Inv (m.takeWaiter t) := by
  have hx : Inv (m.setPc t .exited) := by
    refine ⟨fun t' => ?_, h.fresh, h.held, h.waiters, h.written⟩
    by_cases htt : t' = t
    · subst htt
      have hl := h.task t'
      rw [hpc] at hl
      simpa [Tasks.setPc] using hl.takeWaiter
    · simpa [Tasks.setPc, Function.update_of_ne htt] using h.task t'
  unfold Tasks.takeWaiter
  split
  · rename_i w c hw
    exact (hx.setWaiter t none (by simp)).wake (h.waiters t w c hw) c
  · exact hx.removeTask t

theorem Inv.check (h : Inv m) (hpc : m.pc t = .check target) : Inv (m.check t target) := by
  have hold : (m.pc t).exiting = false := by rw [hpc]; rfl
  unfold Tasks.check
  split
  · rename_i hz
    -- the target is a zombie, so past the store of its exit code
    have hw : m.exitArg target = some (m.exitCode target) :=
      (h.task target).stored (Or.inr ((h.task target).zombie hz))
    exact ((h.setPc hold rfl).removeTask target).write t hw
  · exact h.setPc hold rfl

theorem Inv.register (h : Inv m) (hpc : m.pc t = .register target) (hc : m.current cpu = some t) :
    Inv (m.register t cpu target) :=
  (h.setPc (by rw [hpc]; rfl) (p := .sleep target) rfl).setWaiter target (some (t, cpu))
    (fun x c hx => by
      simp only [Option.some.injEq, Prod.mk.injEq] at hx
      rw [← hx.1]
      exact h.lt_of_current hc)

theorem Inv.sleep (h : Inv m) (hpc : m.pc t = .sleep target) :
    Inv { m.setPc t (.halt target) with sched := m.sched.setState t .sleeping } := by
  have h₁ := h.setPc (by rw [hpc]; rfl) (p := .halt target) rfl
  refine h₁.sched (m.sched.setState t .sleeping) (fun t' => ?_) h₁.held
  by_cases htt : t' = t
  · subst htt; right; simp
  · left; simp [Tasks.setPc, Function.update_of_ne htt]

theorem Inv.resume (h : Inv m) (hs : m.resume cpu = some m') : Inv m' := by
  obtain ⟨t, hc, ⟨code, hp, rfl⟩ | ⟨hp, rfl⟩ | ⟨hp, rfl⟩ | ⟨target, hp, rfl⟩ | ⟨target, hp, rfl⟩ |
    ⟨target, hp, rfl⟩ | ⟨target, hp, rfl⟩ | ⟨target, hp, rfl⟩⟩ := resume_cases hs
  · exact h.storeExitCode hp
  · exact h.storeZombie hp
  · exact h.takeWaiter hp
  · exact h.setPc (by rw [hp]; rfl) (by split <;> rfl)
  · exact h.check hp
  · exact h.register hp hc
  · exact h.sleep hp
  · exact h.setPc (by rw [hp]; rfl) rfl

theorem Inv.exec (h : Inv m) {a : Action} (hb : a = .spawn → m.nextId + 1 < 2 ^ 64)
    (hs : m.exec a = some m') : Inv m' := by
  cases a with
  | spawn => exact h.spawn (hb rfl) hs
  | tick cpu => exact h.tick hs
  | exit cpu code => exact h.exit hs
  | waitpid cpu target => exact h.waitpid hs
  | resume cpu => exact h.resume hs

/-- The invariant holds after every run from a state where it holds, as long as `NEXT_ID` does
not wrap. -/
theorem Inv.run (h : Inv m) {as : List Action} (hb : m.nextId + as.count .spawn < 2 ^ 64)
    (hs : m.run as = some m') : Inv m' := by
  induction as generalizing m with
  | nil => cases hs; exact h
  | cons a as ih =>
    obtain ⟨m₁, h₁, hs⟩ := Option.bind_eq_some_iff.mp hs
    have hid := exec_nextId h₁
    simp only [List.count_cons, beq_iff_eq] at hb
    by_cases ha : a = .spawn
    · -- a spawn below the bound takes the next id
      rw [if_pos ha, Nat.mod_eq_of_lt (by rw [if_pos ha] at hb; omega)] at hid
      rw [if_pos ha] at hb
      exact ih (h.exec (fun _ => by omega) h₁) (by omega) hs
    · rw [if_neg ha] at hid hb
      exact ih (h.exec (fun h' => absurd h' ha) h₁) (by omega) hs

/-- In every run from boot that spawns fewer than `2 ^ 64` tasks, each code `sys_waitpid` writes
is the code its target passed to `sys_exit`. -/
theorem waitpid_returns_exit_code {n : Nat} {as : List Action} (hb : as.count .spawn < 2 ^ 64)
    (h : (boot n).run as = some m) :
    ∀ w target code, (w, target, code) ∈ m.written → m.exitArg target = some code :=
  ((inv_boot n).run (by simpa [boot] using hb) h).written

/-- Task 0 waits for task 1 on one CPU: it registers and sleeps, task 1 runs and exits with
code 5 and wakes it, and task 0's `sys_waitpid` returns. -/
def joinRun : List Action :=
  [.spawn, .spawn, .tick 0, .waitpid 0 1, .resume 0, .resume 0, .resume 0, .resume 0, .tick 0,
    .exit 0 5, .resume 0, .resume 0, .resume 0, .tick 0, .resume 0, .resume 0, .resume 0]

theorem waitpid_returns_exit_code_sample : joinRun.count .spawn < 2 ^ 64 ∧
    ∃ m, (boot 1).run joinRun = some m ∧ (0, 1, 5) ∈ m.written ∧ m.exitArg 1 = some 5 := by
  have hb : joinRun.count .spawn < 2 ^ 64 := by decide
  obtain ⟨m, hm, hw⟩ : ∃ m, (boot 1).run joinRun = some m ∧ (0, 1, 5) ∈ m.written :=
    ⟨_, rfl, by decide⟩
  exact ⟨hb, m, hm, hw, waitpid_returns_exit_code hb hm 0 1 5 hw⟩

/-! ## What survives a wrap of `NEXT_ID` -/

/-- What every run keeps, however many tasks it spawns: a task out of `TASK_TABLE` and out of
`sys_exit` is in no run queue and is no task's exit waiter; a zombie is past its store of
`Zombie`, and a task past that store does not sleep; a sleeping task is in `TASK_TABLE`. -/
structure Listed (m : Tasks) : Prop where
  unlisted : ∀ t, m.taskTable t = false → (m.pc t).exiting = false →
    (∀ c, ¬ m.sched.Holds c t) ∧ ∀ t' c, m.exitWaiter t' ≠ some (t, c)
  zombie : ∀ t, m.sched.state t = .zombie → m.pc t = .takeWaiter ∨ m.pc t = .exited
  awake : ∀ t, m.pc t = .takeWaiter ∨ m.pc t = .exited → m.sched.state t ≠ .sleeping
  sleeping : ∀ t, m.sched.state t = .sleeping → m.taskTable t = true

theorem listed_boot (n : Nat) : Listed (boot n) := by
  refine ⟨fun t _ _ => ⟨fun c hc => ?_, fun t' c => ?_⟩, fun t hz => ?_, fun t hp => ?_,
    fun t hs => ?_⟩ <;> simp_all [boot, Sched.init, Sched.Holds]

namespace Listed

variable {c w : Nat} {p : Pc}

/-- A task a run queue holds, or a task waits on, is in `TASK_TABLE` unless it is in
`sys_exit`. -/
theorem mem_of_holds (h : Listed m) (hh : m.sched.Holds c t) (hp : (m.pc t).exiting = false) :
    m.taskTable t = true := by
  cases ht : m.taskTable t with
  | true => rfl
  | false => exact absurd hh ((h.unlisted t ht hp).1 c)

theorem mem_or_exiting_of_waiter (h : Listed m) (hw : m.exitWaiter t = some (w, c)) :
    m.taskTable w = true ∨ (m.pc w).exiting = true := by
  cases ht : m.taskTable w with
  | true => exact .inl rfl
  | false =>
    cases hp : (m.pc w).exiting with
    | true => exact .inr rfl
    | false => exact absurd hw ((h.unlisted w ht hp).2 t c)

theorem not_zombie (h : Listed m) (h₁ : m.pc t ≠ .takeWaiter) (h₂ : m.pc t ≠ .exited) :
    m.sched.state t ≠ .zombie :=
  fun hz => (h.zombie t hz).elim h₁ h₂

theorem not_zombie_of_exiting (h : Listed m) (hp : (m.pc t).exiting = false) :
    m.sched.state t ≠ .zombie :=
  h.not_zombie (by intro h'; rw [h'] at hp; cases hp) (by intro h'; rw [h'] at hp; cases hp)

/-- `Listed` reads only the scheduler, the places, `TASK_TABLE` and the exit waiters. -/
theorem of_eq (h : Listed m) (hs : m'.sched = m.sched) (hp : m'.pc = m.pc)
    (ht : m'.taskTable = m.taskTable) (hw : m'.exitWaiter = m.exitWaiter) : Listed m' := by
  refine ⟨?_, ?_, ?_, ?_⟩
  · rw [hs, hp, ht, hw]; exact h.unlisted
  · rw [hs, hp]; exact h.zombie
  · rw [hs, hp]; exact h.awake
  · rw [hs, ht]; exact h.sleeping

/-- A task moves from a place out of `sys_exit` to another. -/
theorem setPc (h : Listed m) (hold : (m.pc t).exiting = false) (hp : p.exiting = false) :
    Listed (m.setPc t p) := by
  refine ⟨fun t' ht hp' => ?_, fun t' hz => ?_, fun t' hp' => ?_, h.sleeping⟩
  all_goals by_cases htt : t' = t
  · subst htt; exact h.unlisted t' ht hold
  · exact h.unlisted t' ht (by simpa [Tasks.setPc, Function.update_of_ne htt] using hp')
  · subst htt; exact absurd hz (h.not_zombie_of_exiting hold)
  · simpa [Tasks.setPc, Function.update_of_ne htt] using h.zombie t' hz
  · subst htt
    simp only [Tasks.setPc, Function.update_self] at hp'
    rcases hp' with rfl | rfl <;> cases hp
  · exact h.awake t' (by simpa [Tasks.setPc, Function.update_of_ne htt] using hp')

/-- A task moves into `sys_exit` or within it: it keeps its state, which must fit the new place. -/
theorem setPc_exiting (h : Listed m) (hp : p.exiting = true)
    (hz : m.sched.state t = .zombie → p = .takeWaiter ∨ p = .exited)
    (hs : p = .takeWaiter ∨ p = .exited → m.sched.state t ≠ .sleeping) : Listed (m.setPc t p) := by
  refine ⟨fun t' ht hp' => ?_, fun t' hz' => ?_, fun t' hp' => ?_, h.sleeping⟩
  all_goals by_cases htt : t' = t
  · subst htt; simp [Tasks.setPc, hp] at hp'
  · exact h.unlisted t' ht (by simpa [Tasks.setPc, Function.update_of_ne htt] using hp')
  · subst htt; simpa [Tasks.setPc] using hz hz'
  · simpa [Tasks.setPc, Function.update_of_ne htt] using h.zombie t' hz'
  · subst htt; exact hs (by simpa [Tasks.setPc] using hp')
  · exact h.awake t' (by simpa [Tasks.setPc, Function.update_of_ne htt] using hp')

theorem setWaiter (h : Listed m) (t : Nat) (x : Option (Nat × Nat))
    (hx : ∀ w c, x = some (w, c) → m.taskTable w = true ∨ (m.pc w).exiting = true) :
    Listed { m with exitWaiter := Function.update m.exitWaiter t x } := by
  refine ⟨fun t' ht hp => ⟨(h.unlisted t' ht hp).1, fun t'' c hw => ?_⟩, h.zombie, h.awake,
    h.sleeping⟩
  by_cases htt : t'' = t
  · subst htt
    simp only [Function.update_self] at hw
    rcases hx t' c hw with hx | hx
    · rw [hx] at ht; cases ht
    · rw [hx] at hp; cases hp
  · exact (h.unlisted t' ht hp).2 t'' c (by simpa [Function.update_of_ne htt] using hw)

/-- `wake_task` of a task that is in `TASK_TABLE` or in `sys_exit`. -/
theorem wake (h : Listed m) (hw : m.taskTable w = true ∨ (m.pc w).exiting = true) (c : Nat) :
    Listed { m with sched := Sched.wakeTask w c m.sched } := by
  have hst : ∀ t, (Sched.wakeTask w c m.sched).state t = m.sched.state t ∨ t = w := fun t => by
    by_cases htt : t = w
    · exact .inr htt
    · exact .inl (by simp [Sched.wakeTask, Function.update_of_ne htt])
  have hw' : (Sched.wakeTask w c m.sched).state w = .ready := by simp [Sched.wakeTask]
  refine ⟨fun t ht hp => ⟨fun c' hc => ?_, (h.unlisted t ht hp).2⟩, fun t hz => ?_,
    fun t hp => ?_, fun t hs => ?_⟩
  · rcases Sched.holds_wakeTask.mp hc with hc | ⟨-, rfl⟩
    · exact (h.unlisted t ht hp).1 c' hc
    · rcases hw with hw | hw
      · rw [hw] at ht; cases ht
      · rw [hw] at hp; cases hp
  all_goals rcases hst t with hst | rfl
  · exact h.zombie t (hst ▸ hz)
  · rw [hw'] at hz; cases hz
  · exact hst ▸ h.awake t hp
  · rw [hw']; simp
  · exact h.sleeping t (hst ▸ hs)
  · rw [hw'] at hs; cases hs

/-- `TASK_TABLE.remove` of a task in `sys_exit` that does not sleep. -/
theorem removeTask (h : Listed m) (hp : (m.pc t).exiting = true) (hs : m.sched.state t ≠ .sleeping) :
    Listed { m with taskTable := Function.update m.taskTable t false } := by
  refine ⟨fun t' ht hp' => ?_, h.zombie, h.awake, fun t' hs' => ?_⟩
  all_goals by_cases htt : t' = t
  · subst htt; rw [hp] at hp'; cases hp'
  · exact h.unlisted t' (by simpa [Function.update_of_ne htt] using ht) hp'
  · subst htt; exact absurd hs' hs
  · simpa [Function.update_of_ne htt] using h.sleeping t' hs'

/-- The store of `Sleeping` by a task in `TASK_TABLE`, out of `sys_exit`. -/
theorem setSleeping (h : Listed m) (hp : (m.pc t).exiting = false) (ht : m.taskTable t = true) :
    Listed { m with sched := m.sched.setState t .sleeping } := by
  refine ⟨fun t' ht' hp' => ⟨fun c hc => (h.unlisted t' ht' hp').1 c hc, (h.unlisted t' ht' hp').2⟩,
    fun t' hz => ?_, fun t' hp' => ?_, fun t' hs => ?_⟩
  all_goals by_cases htt : t' = t
  · subst htt; simp at hz
  · exact h.zombie t' (by simpa [Function.update_of_ne htt] using hz)
  · subst htt; rcases hp' with h' | h' <;> rw [h'] at hp <;> cases hp
  · simpa [Function.update_of_ne htt] using h.awake t' hp'
  · subst htt; exact ht
  · exact h.sleeping t' (by simpa [Function.update_of_ne htt] using hs)

/-- The store of `Zombie`, with the move to `takeWaiter`. -/
theorem storeZombie (h : Listed m) (hpc : m.pc t = .storeZombie) :
    Listed { m.setPc t .takeWaiter with sched := m.sched.setState t .zombie } := by
  refine ⟨fun t' ht hp => ?_, fun t' hz => ?_, fun t' hp => ?_, fun t' hs => ?_⟩
  all_goals by_cases htt : t' = t
  · subst htt; simp [Tasks.setPc, Pc.exiting] at hp
  · simp only [Tasks.setPc, Sched.holds_setState, Function.update_of_ne htt] at ht hp ⊢
    exact h.unlisted t' ht hp
  · subst htt; simp [Tasks.setPc]
  · simp only [Tasks.setPc, Sched.setState_state, Function.update_of_ne htt] at hz ⊢
    exact h.zombie t' hz
  · subst htt; simp
  · simp only [Tasks.setPc, Sched.setState_state, Function.update_of_ne htt] at hp ⊢
    exact h.awake t' hp
  · subst htt; simp at hs
  · simp only [Tasks.setPc, Sched.setState_state, Function.update_of_ne htt] at hs ⊢
    exact h.sleeping t' hs

/-! ### Every action -/

theorem spawn (h : Listed m) (hs : m.spawn = some m') : Listed m' := by
  dsimp only [Tasks.spawn] at hs
  split at hs
  · cases hs
  cases hs
  -- the id taken enters `TASK_TABLE`, `Ready` and in user code; every other task is as before
  refine ⟨fun t ht hp => ⟨fun c hc => ?_, fun t' c hw => ?_⟩, fun t hz => ?_, fun t hp => ?_,
    fun t hs => ?_⟩
  all_goals dsimp only at *
  all_goals by_cases htt : t = m.nextId
  · subst htt; simp at ht
  · rw [Function.update_of_ne htt] at ht hp
    rcases Sched.holds_add.mp hc with hc | ⟨-, rfl⟩
    · exact (h.unlisted t ht hp).1 c hc
    · exact htt rfl
  · subst htt; simp at ht
  · rw [Function.update_of_ne htt] at ht hp
    by_cases ht' : t' = m.nextId
    · subst ht'; simp at hw
    · exact (h.unlisted t ht hp).2 t' c (by simpa [Function.update_of_ne ht'] using hw)
  · subst htt; simp at hz
  · simpa [Function.update_of_ne htt] using h.zombie t (by simpa [Function.update_of_ne htt] using hz)
  · subst htt; simp
  · simpa [Function.update_of_ne htt] using h.awake t (by simpa [Function.update_of_ne htt] using hp)
  · subst htt; simp
  · simpa [Function.update_of_ne htt] using h.sleeping t (by simpa [Function.update_of_ne htt] using hs)

theorem tick (h : Listed m) (hs : m.tick cpu = some m') : Listed m' := by
  unfold Tasks.tick at hs
  split at hs
  · cases hs
    -- a tick only moves tasks within its run queue and stores `Running` or `Ready`
    have hst := Sched.scheduleFromInterrupt_state cpu m.sched
    refine ⟨fun t ht hp => ⟨fun c hc => (h.unlisted t ht hp).1 c hc.of_scheduleFromInterrupt,
      (h.unlisted t ht hp).2⟩, fun t hz => ?_, fun t hp => ?_, fun t hs => ?_⟩
    all_goals dsimp only at *
    · rcases hst t with hst | ⟨-, hst | hst⟩ <;> rw [hst] at hz
      · exact h.zombie t hz
      all_goals cases hz
    · rcases hst t with hst | ⟨-, hst | hst⟩ <;> rw [hst]
      · exact h.awake t hp
      all_goals simp
    · rcases hst t with hst | ⟨-, hst | hst⟩ <;> rw [hst] at hs
      · exact h.sleeping t hs
      all_goals cases hs
  · cases hs

theorem exit (h : Listed m) (hs : m.exit cpu code = some m') : Listed m' := by
  obtain ⟨t, ht, rfl⟩ := Option.map_eq_some_iff.mp hs
  have hpc := (userTask_eq_some ht).2
  have hnz := h.not_zombie (t := t) (by rw [hpc]; simp) (by rw [hpc]; simp)
  exact (h.setPc_exiting rfl (fun hz => absurd hz hnz) (fun hp => by simp at hp)).of_eq
    rfl rfl rfl rfl

theorem waitpid (h : Listed m) (hs : m.waitpid cpu target = some m') : Listed m' := by
  obtain ⟨t, ht, rfl⟩ := Option.map_eq_some_iff.mp hs
  exact h.setPc (by rw [(userTask_eq_some ht).2]; rfl) rfl

theorem resume (h : Listed m) (hs : m.resume cpu = some m') : Listed m' := by
  obtain ⟨t, hc, ⟨code, hp, rfl⟩ | ⟨hp, rfl⟩ | ⟨hp, rfl⟩ | ⟨target, hp, rfl⟩ | ⟨target, hp, rfl⟩ |
    ⟨target, hp, rfl⟩ | ⟨target, hp, rfl⟩ | ⟨target, hp, rfl⟩⟩ := resume_cases hs
  · have hnz := h.not_zombie (t := t) (by rw [hp]; simp) (by rw [hp]; simp)
    exact (h.setPc_exiting rfl (fun hz => absurd hz hnz) (fun hp => by simp at hp)).of_eq
      rfl rfl rfl rfl
  · exact h.storeZombie hp
  · -- `exit_waiter.take()`: wake the waiter, or leave `TASK_TABLE`
    have hx : Listed (m.setPc t .exited) :=
      h.setPc_exiting rfl (fun _ => .inr rfl) (fun _ => h.awake t (.inl hp))
    unfold Tasks.takeWaiter
    split
    · rename_i w c hw
      have hw' : (m.setPc t .exited).taskTable w = true ∨
          ((m.setPc t .exited).pc w).exiting = true := by
        by_cases hwt : w = t
        · subst hwt; right; simp [Tasks.setPc, Pc.exiting]
        · simpa [Tasks.setPc, Function.update_of_ne hwt] using h.mem_or_exiting_of_waiter hw
      exact (hx.setWaiter t none (by simp)).wake hw' c
    · exact hx.removeTask (by simp [Tasks.setPc, Pc.exiting]) (h.awake t (.inl hp))
  · exact h.setPc (by rw [hp]; rfl) (by split <;> rfl)
  · -- a zombie target is past its store of `Zombie`, so in `sys_exit`
    have hold : (m.pc t).exiting = false := by rw [hp]; rfl
    unfold Tasks.check
    split
    · rename_i hz
      have htz : target ≠ t := by rintro rfl; exact h.not_zombie_of_exiting hold hz
      have hex : ((m.setPc t .user).pc target).exiting = true := by
        rcases h.zombie target hz with h' | h' <;>
          simp [Tasks.setPc, Function.update_of_ne htz, h', Pc.exiting]
      exact ((h.setPc hold rfl).removeTask hex (by simp [Tasks.setPc, hz])).of_eq rfl rfl rfl rfl
    · exact h.setPc hold rfl
  · -- the caller registers itself, and it is in `TASK_TABLE`
    have hold : (m.pc t).exiting = false := by rw [hp]; rfl
    have hmem := h.mem_of_holds (.inl hc) hold
    refine (h.setPc hold (p := .sleep target) rfl).setWaiter target _ (fun w c hx => ?_)
    simp only [Option.some.injEq, Prod.mk.injEq] at hx
    rw [← hx.1]
    exact .inl hmem
  · -- the store of `Sleeping`, by a task in `TASK_TABLE`
    have hold : (m.pc t).exiting = false := by rw [hp]; rfl
    exact (h.setPc hold (p := .halt target) rfl).setSleeping (by simp [Tasks.setPc, Pc.exiting])
      (h.mem_of_holds (.inl hc) hold)
  · exact h.setPc (by rw [hp]; rfl) rfl

theorem exec (h : Listed m) {a : Action} (hs : m.exec a = some m') : Listed m' := by
  cases a with
  | spawn => exact h.spawn hs
  | tick cpu => exact h.tick hs
  | exit cpu code => exact h.exit hs
  | waitpid cpu target => exact h.waitpid hs
  | resume cpu => exact h.resume hs

theorem run (h : Listed m) {as : List Action} (hs : m.run as = some m') : Listed m' :=
  run_induction (fun h₁ hs₁ => Listed.exec h₁ hs₁) h hs

end Listed

/-! ## A waiter nothing wakes -/

/-- `w` sleeps, no run queue holds it, every task that has it for exit waiter is past taking
its waiter, and it is in `TASK_TABLE`, so that no spawn takes its id. -/
structure Stuck (m : Tasks) (w : Nat) : Prop where
  sleeping : m.sched.state w = .sleeping
  unheld : ∀ c, ¬ m.sched.Holds c w
  waited : ∀ t c, m.exitWaiter t = some (w, c) → m.pc t = .exited
  listed : m.taskTable w = true

variable {w : Nat}

/-- `Stuck` reads only the scheduler, the places, the exit waiters and `TASK_TABLE`. -/
theorem Stuck.of_eq (h : Stuck m w) (hs : m'.sched = m.sched) (hp : m'.pc = m.pc)
    (hw : m'.exitWaiter = m.exitWaiter) (ht : m'.taskTable = m.taskTable) : Stuck m' w := by
  refine ⟨?_, ?_, ?_, ?_⟩
  · rw [hs]; exact h.sleeping
  · rw [hs]; exact h.unheld
  · rw [hw, hp]; exact h.waited
  · rw [ht]; exact h.listed

theorem Stuck.ne_of_current (h : Stuck m w) (hc : m.current cpu = some t) : t ≠ w := by
  rintro rfl
  exact h.unheld cpu (.inl hc)

theorem Stuck.sched (h : Stuck m w) (s : Sched) (hst : s.state w = m.sched.state w)
    (hh : ∀ c, s.Holds c w → m.sched.Holds c w) : Stuck { m with sched := s } w :=
  ⟨hst.trans h.sleeping, fun c hc => h.unheld c (hh c hc), h.waited, h.listed⟩

theorem Stuck.wake (h : Stuck m w) (hne : t ≠ w) (c : Nat) :
    Stuck { m with sched := Sched.wakeTask t c m.sched } w := by
  refine h.sched _ (by simp [Sched.wakeTask, Function.update_of_ne hne.symm]) (fun c' hc => ?_)
  rcases Sched.holds_wakeTask.mp hc with hc | ⟨-, hwt⟩
  · exact hc
  · exact absurd hwt.symm hne

/-- A task that has `w` for exit waiter has exited, so a task elsewhere can move. -/
theorem Stuck.setPc (h : Stuck m w) (hpc : m.pc t ≠ .exited) (p : Pc) :
    Stuck (m.setPc t p) w := by
  refine ⟨h.sleeping, h.unheld, fun t' c hx => ?_, h.listed⟩
  by_cases htt : t' = t
  · subst htt
    exact absurd (h.waited t' c hx) hpc
  · simpa [Tasks.setPc, Function.update_of_ne htt] using h.waited t' c hx

theorem Stuck.setWaiter (h : Stuck m w) (t : Nat) (x : Option (Nat × Nat))
    (hx : ∀ c, x ≠ some (w, c)) : Stuck { m with exitWaiter := Function.update m.exitWaiter t x } w := by
  refine ⟨h.sleeping, h.unheld, fun t' c hx' => ?_, h.listed⟩
  by_cases htt : t' = t
  · subst htt
    simp only [Function.update_self] at hx'
    exact absurd hx' (hx c)
  · exact h.waited t' c (by simpa [Function.update_of_ne htt] using hx')

/-- `TASK_TABLE.remove` of another task. -/
theorem Stuck.removeTask (h : Stuck m w) (hne : t ≠ w) :
    Stuck { m with taskTable := Function.update m.taskTable t false } w :=
  ⟨h.sleeping, h.unheld, h.waited, by simpa [Function.update_of_ne hne.symm] using h.listed⟩

theorem Stuck.spawn (h : Stuck m w) (hs : m.spawn = some m') : Stuck m' w ∧ m'.pc w = m.pc w := by
  dsimp only [Tasks.spawn] at hs
  split at hs
  · cases hs
  rename_i hfree
  cases hs
  -- the id taken is out of `TASK_TABLE`, and `w` is in it
  have hne : w ≠ m.nextId := by rintro rfl; rw [h.listed] at hfree; exact hfree rfl
  refine ⟨⟨?_, fun c hc => ?_, fun t c hx => ?_, ?_⟩, ?_⟩
  all_goals dsimp only at *
  · simpa [Function.update_of_ne hne] using h.sleeping
  · rcases Sched.holds_add.mp hc with hc | ⟨-, hwn⟩
    · exact h.unheld c hc
    · exact hne hwn
  · have htt : t ≠ m.nextId := by rintro rfl; simp at hx
    rw [Function.update_of_ne htt] at hx ⊢
    exact h.waited t c hx
  · rw [Function.update_of_ne hne]; exact h.listed
  · exact Function.update_of_ne hne _ _

theorem Stuck.tick (h : Stuck m w) (hs : m.tick cpu = some m') : Stuck m' w ∧ m'.pc w = m.pc w := by
  unfold Tasks.tick at hs
  split at hs
  · cases hs
    refine ⟨h.sched _ ?_ (fun c hc => hc.of_scheduleFromInterrupt), rfl⟩
    rcases Sched.scheduleFromInterrupt_state cpu m.sched w with hst | ⟨hheld, -⟩
    · exact hst
    · exact absurd hheld (h.unheld cpu)
  · cases hs

/-- A call's entry moves its caller, which runs and so is not `w`. -/
theorem Stuck.enter (h : Stuck m w) (ht : m.userTask cpu = some t) (p : Pc) :
    Stuck (m.setPc t p) w ∧ (m.setPc t p).pc w = m.pc w := by
  obtain ⟨hc, hpc⟩ := userTask_eq_some ht
  exact ⟨h.setPc (by rw [hpc]; simp) p, Function.update_of_ne (h.ne_of_current hc).symm _ _⟩

theorem Stuck.resume (h : Stuck m w) (hs : m.resume cpu = some m') :
    Stuck m' w ∧ m'.pc w = m.pc w := by
  obtain ⟨t, hc, ⟨code, hp, rfl⟩ | ⟨hp, rfl⟩ | ⟨hp, rfl⟩ | ⟨target, hp, rfl⟩ | ⟨target, hp, rfl⟩ |
    ⟨target, hp, rfl⟩ | ⟨target, hp, rfl⟩ | ⟨target, hp, rfl⟩⟩ := resume_cases hs
  all_goals
    have htw := h.ne_of_current hc
    have hpw : ∀ p, (m.setPc t p).pc w = m.pc w := fun p => Function.update_of_ne htw.symm _ _
    have hex : m.pc t ≠ .exited := by rw [hp]; simp
  · exact ⟨(h.setPc hex _).of_eq rfl rfl rfl rfl, hpw _⟩
  · refine ⟨(h.setPc hex _).sched _ ?_ (fun c hc => hc), hpw _⟩
    simp [Tasks.setPc, Function.update_of_ne htw.symm]
  · unfold Tasks.takeWaiter
    split
    · rename_i x c hx
      -- the waiter taken is not `w`: a task with `w` for waiter has exited
      have hxw : x ≠ w := by rintro rfl; exact hex (h.waited t c hx)
      exact ⟨((h.setPc hex _).setWaiter t none (by simp)).wake hxw c, hpw _⟩
    · exact ⟨(h.setPc hex _).removeTask htw, hpw _⟩
  · exact ⟨h.setPc hex _, hpw _⟩
  · unfold Tasks.check
    split
    · -- the target leaves `TASK_TABLE` as a zombie, and `w` sleeps
      rename_i hz
      have hne : target ≠ w := by rintro rfl; rw [h.sleeping] at hz; cases hz
      exact ⟨((h.setPc hex _).removeTask hne).of_eq rfl rfl rfl rfl, hpw _⟩
    · exact ⟨h.setPc hex _, hpw _⟩
  · refine ⟨(h.setPc hex _).setWaiter target _ (fun c hx => ?_), hpw _⟩
    simp only [Option.some.injEq, Prod.mk.injEq] at hx
    exact htw hx.1
  · refine ⟨(h.setPc hex _).sched _ ?_ (fun c hc => hc), hpw _⟩
    simp [Tasks.setPc, Function.update_of_ne htw.symm]
  · exact ⟨h.setPc hex _, hpw _⟩

theorem Stuck.exec (h : Stuck m w) {a : Action} (hs : m.exec a = some m') :
    Stuck m' w ∧ m'.pc w = m.pc w := by
  cases a with
  | spawn => exact h.spawn hs
  | tick cpu => exact h.tick hs
  | exit cpu code =>
    obtain ⟨t, ht, rfl⟩ := Option.map_eq_some_iff.mp hs
    obtain ⟨hst, hpc⟩ := h.enter ht (.storeCode code)
    exact ⟨hst.of_eq rfl rfl rfl rfl, hpc⟩
  | waitpid cpu target =>
    obtain ⟨t, ht, rfl⟩ := Option.map_eq_some_iff.mp hs
    exact h.enter ht _
  | resume cpu => exact h.resume hs

/-- Once stuck, a task stays stuck and in place through every run. -/
theorem Stuck.run (h : Stuck m w) {as : List Action} (hs : m.run as = some m') :
    Stuck m' w ∧ m'.pc w = m.pc w := by
  refine run_induction (P := fun m₁ => Stuck m₁ w ∧ m₁.pc w = m.pc w) ?_ ⟨h, rfl⟩ hs
  intro m₁ m₂ a ⟨hst₁, hpc₁⟩ h₁
  obtain ⟨hst₂, hpc₂⟩ := hst₁.exec h₁
  exact ⟨hst₂, hpc₂.trans hpc₁⟩

/-- `sys_exit` of `target` takes its exit waiter after `w`, in `sys_waitpid(target)` on another
CPU, has seen it alive and before `w` registers: `target` finds no waiter and leaves
`TASK_TABLE`. `w` then registers on it and sleeps, a tick on its CPU drops it, and after that no
run of any CPU runs `w` again or returns from its `sys_waitpid`. -/
theorem waitpid_lost_wakeup {n : Nat} {as : List Action} {cw ct target : Nat}
    (hm : (boot n).run as = some m)
    (hw : m.current cw = some w) (hwpc : m.pc w = .register target)
    (ht : m.current ct = some target) (htpc : m.pc target = .takeWaiter)
    (hnone : m.exitWaiter target = none) (hfree : ∀ t c, m.exitWaiter t ≠ some (w, c))
    (honly : ∀ c, m.sched.Holds c w → c = cw) (hq : w ∉ (m.sched.cpus cw).runQueue.ready)
    (hcount : (m.sched.cpus cw).readyCount ≠ 0) (hready : (m.sched.cpus cw).runQueue.ready ≠ []) :
    ∃ m', m.run [.resume ct, .resume cw, .resume cw, .tick cw] = some m' ∧
      ∀ as' m'', m'.run as' = some m'' →
        m''.sched.state w = .sleeping ∧ (∀ c, ¬ m''.sched.Holds c w) ∧ m''.pc w = .halt target := by
  have hwt : w ≠ target := by rintro rfl; rw [hwpc] at htpc; cases htpc
  -- `target` takes no waiter and leaves `TASK_TABLE`
  let m₁ : Tasks :=
    { m.setPc target .exited with taskTable := Function.update m.taskTable target false }
  have h₁ : m.resume ct = some m₁ := by simp [resume, ht, htpc, takeWaiter, hnone, m₁]
  -- `w` registers on it, and stores `Sleeping`
  let m₂ := m₁.register w cw target
  have hp₁ : m₁.pc w = .register target := by simp [m₁, Tasks.setPc, Function.update_of_ne hwt, hwpc]
  have h₂ : m₁.resume cw = some m₂ := by simp only [resume, show m₁.current cw = some w from hw, hp₁, m₂]
  let m₃ : Tasks := { m₂.setPc w (.halt target) with sched := m₂.sched.setState w .sleeping }
  have hp₂ : m₂.pc w = .sleep target := by simp [m₂, register, Tasks.setPc]
  have h₃ : m₂.resume cw = some m₃ := by simp only [resume, show m₂.current cw = some w from hw, hp₂, m₃]
  -- the tick drops it
  have hdrop := Sched.not_holds_of_sleeping (s := m₃.sched) (w := w) hcount hready hw (by simp [m₃])
    hq (fun c hc => honly c hc)
  let m₄ : Tasks := { m₃ with sched := Sched.scheduleFromInterrupt cw m₃.sched }
  have hp₃ : m₃.pc w = .halt target := by simp [m₃, Tasks.setPc]
  have h₄ : m₃.tick cw = some m₄ := by
    simp only [tick, interruptible, show m₃.current cw = some w from hw, hp₃, Pc.interruptible,
      ↓reduceIte, m₄]
  refine ⟨m₄, by simp only [run, exec, h₁, h₂, h₃, h₄, Option.bind_some], fun as' m'' hrun => ?_⟩
  have hstuck : Stuck m₄ w := by
    -- `w` runs in `sys_waitpid`, so it is in `TASK_TABLE`, which `target` alone leaves
    have hmem := ((listed_boot n).run hm).mem_of_holds (.inl hw) (by rw [hwpc]; rfl)
    refine ⟨hdrop.1, hdrop.2, fun t c hx => ?_, ?_⟩
    · by_cases htt : t = target
      · subst htt
        simp [m₁, m₂, m₃, m₄, register, Tasks.setPc, Function.update_of_ne hwt.symm]
      · simp only [m₁, m₂, m₃, m₄, register, Tasks.setPc, Function.update_of_ne htt] at hx
        exact absurd hx (hfree t c)
    · simpa [m₁, m₂, m₃, m₄, register, Tasks.setPc, Function.update_of_ne hwt] using hmem
  obtain ⟨hs, hpc⟩ := hstuck.run hrun
  exact ⟨hs.sleeping, hs.unheld, hpc.trans hp₃⟩

/-- Task 1 on CPU 1 waits for task 0 on CPU 0 and passes its `Zombie` check; task 0 then calls
`sys_exit(7)` and stores its code and `Zombie`. Tasks 2 and 3 are ready on the two CPUs. -/
def raceRun : List Action :=
  [.spawn, .spawn, .spawn, .spawn, .tick 0, .tick 1, .waitpid 1 0, .resume 1, .resume 1,
    .exit 0 7, .resume 0, .resume 0]

theorem waitpid_lost_wakeup_sample : ∃ m, (boot 2).run raceRun = some m ∧
    ∃ m', m.run [.resume 0, .resume 1, .resume 1, .tick 1] = some m' ∧
      ∀ as m'', m'.run as = some m'' →
        m''.sched.state 1 = .sleeping ∧ (∀ c, ¬ m''.sched.Holds c 1) ∧ m''.pc 1 = .halt 0 := by
  refine ⟨_, rfl, ?_⟩
  refine waitpid_lost_wakeup (show (boot 2).run raceRun = some _ from rfl) (by decide) (by decide)
    (by decide) (by decide) (by decide) (fun t c => ?_) (fun c hc => ?_) (by decide) (by decide)
    (by decide)
  · simp +decide [boot, Tasks.setPc, Tasks.check, Sched.scheduleFromInterrupt, Sched.add,
      Sched.setState, Sched.setCpu, Sched.init, Sched.setCurrent, Sched.requeueOutgoing]
  · simp +decide [boot, Tasks.setPc, Tasks.check, Function.update_apply, Sched.Holds,
      Sched.scheduleFromInterrupt, Sched.add, Sched.setState, Sched.setCpu, Sched.init,
      Sched.setCurrent, Sched.requeueOutgoing] at hc
    split_ifs at hc <;> simp_all

/-- A second `sys_waitpid(target)` overwrites the exit waiter of `target`: a first waiter that
sleeps off every run queue and waits on nothing else is then stuck, whether or not `target`
exits later, and no run of any CPU runs it again or returns from its `sys_waitpid`. -/
theorem waitpid_overwrites_waiter {n : Nat} {as : List Action} {w₂ c₁ c₂ target : Nat}
    (hm : (boot n).run as = some m)
    (hreg : m.exitWaiter target = some (w, c₁)) (honly : ∀ t c, m.exitWaiter t = some (w, c) → t = target)
    (hst : m.sched.state w = .sleeping) (hfree : ∀ c, ¬ m.sched.Holds c w)
    (hw₂ : m.current c₂ = some w₂) (hpc₂ : m.pc w₂ = .register target) :
    ∃ m', m.resume c₂ = some m' ∧ m'.exitWaiter target = some (w₂, c₂) ∧
      ∀ as' m'', m'.run as' = some m'' →
        m''.sched.state w = .sleeping ∧ (∀ c, ¬ m''.sched.Holds c w) ∧ m''.pc w = m.pc w := by
  have hne : w₂ ≠ w := by rintro rfl; exact hfree c₂ (.inl hw₂)
  have h₁ : m.resume c₂ = some (m.register w₂ c₂ target) := by simp only [resume, hw₂, hpc₂]
  refine ⟨_, h₁, by simp [register], fun as' m'' hrun => ?_⟩
  -- after the overwrite no task has `w` for exit waiter
  have hstuck : Stuck (m.register w₂ c₂ target) w := by
    refine ⟨hst, hfree, fun t c hx => ?_, ((listed_boot n).run hm).sleeping w hst⟩
    by_cases htt : t = target
    · subst htt
      simp only [register, Function.update_self, Option.some.injEq, Prod.mk.injEq] at hx
      exact absurd hx.1 hne
    · simp only [register, Function.update_of_ne htt] at hx
      exact absurd (honly t c hx) htt
  obtain ⟨hs, hpc⟩ := hstuck.run hrun
  exact ⟨hs.sleeping, hs.unheld, hpc.trans (Function.update_of_ne hne.symm _ _)⟩

/-- Task 0 on CPU 0 waits for task 2, registers and sleeps, and a tick drops it; task 1 on
CPU 1 then waits for task 2 too and passes its `Zombie` check. -/
def overwriteRun : List Action :=
  [.spawn, .spawn, .spawn, .spawn, .tick 0, .tick 1, .waitpid 0 2, .resume 0, .resume 0,
    .resume 0, .resume 0, .tick 0, .waitpid 1 2, .resume 1, .resume 1]

theorem waitpid_overwrites_waiter_sample : ∃ m, (boot 2).run overwriteRun = some m ∧
    ∃ m', m.resume 1 = some m' ∧ m'.exitWaiter 2 = some (1, 1) ∧
      ∀ as m'', m'.run as = some m'' →
        m''.sched.state 0 = .sleeping ∧ (∀ c, ¬ m''.sched.Holds c 0) ∧ m''.pc 0 = m.pc 0 := by
  refine ⟨_, rfl, ?_⟩
  refine waitpid_overwrites_waiter (show (boot 2).run overwriteRun = some _ from rfl)
    (show Tasks.exitWaiter _ 2 = some (0, 0) by decide) (fun t c hx => ?_) (by decide) (fun c hc => ?_) (by decide) (by decide)
  · simp +decide [boot, Tasks.setPc, Tasks.check, Tasks.register, Function.update_apply,
      Sched.scheduleFromInterrupt, Sched.add, Sched.setState, Sched.setCpu, Sched.init,
      Sched.setCurrent, Sched.requeueOutgoing] at hx
    exact hx.1
  · simp +decide [boot, Tasks.setPc, Tasks.check, Tasks.register, Function.update_apply,
      Sched.Holds, Sched.scheduleFromInterrupt, Sched.add, Sched.setState, Sched.setCpu,
      Sched.init, Sched.setCurrent, Sched.requeueOutgoing] at hc
    split_ifs at hc <;> simp_all

/-! ## Ready counts -/

/-- Every step keeps, on every CPU, `ready_count` equal to the length of the ready queue. -/
theorem countsAgree_exec (h : ∀ k, m.sched.CountsAgree k) {a : Action} (hs : m.exec a = some m')
    (k : Nat) : m'.sched.CountsAgree k := by
  rcases exec_sched hs with hs' | ⟨t, st, hs'⟩ | ⟨c, t, hs'⟩ | ⟨c, hs'⟩ <;> rw [hs']
  · exact h k
  · exact Sched.countsAgree_setState (h k) t st
  · exact Sched.countsAgree_add (fun j => Sched.countsAgree_setState (h j) t .ready) c t
  · exact Sched.countsAgree_scheduleFromInterrupt h c

theorem countsAgree_run (h : ∀ k, m.sched.CountsAgree k) {as : List Action}
    (hs : m.run as = some m') (k : Nat) : m'.sched.CountsAgree k :=
  run_induction (P := fun m₁ => ∀ k, m₁.sched.CountsAgree k) (fun h₁ hs₁ => countsAgree_exec h₁ hs₁)
    h hs k

/-- In every run from boot, on every CPU, `ready_count` is the length of the ready queue: the
fast path of `schedule_from_interrupt` skips a tick only when no task is ready, and its branch
for a non-zero count over an empty queue is never taken. -/
theorem ready_count_eq_length {n : Nat} {as : List Action} (h : (boot n).run as = some m)
    (cpu : Nat) : (m.sched.cpus cpu).readyCount = (m.sched.cpus cpu).runQueue.ready.length :=
  countsAgree_run Sched.countsAgree_init h cpu

theorem ready_count_eq_length_sample : ∃ m, (boot 2).run raceRun = some m ∧
    (m.sched.cpus 0).readyCount = (m.sched.cpus 0).runQueue.ready.length := by
  obtain ⟨m, hm⟩ : ∃ m, (boot 2).run raceRun = some m := ⟨_, rfl⟩
  exact ⟨m, hm, ready_count_eq_length hm 0⟩

end Tasks

end Lifecycle

end Bos
