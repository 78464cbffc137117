import Mathlib

/-!
# Bos.Task.Scheduler

The per-CPU run queues of `task/local_scheduler.rs` and the task states they read. A task is
named by its `TaskId`, which stands for the `Arc<Task>` the queues hold. Each operation is the
critical section it runs under the CPU's run-queue lock, as a function of the scheduler state:

* `add` (`local_scheduler::add`) appends to the ready queue and counts it in `ready_count`;
* `wakeTask` (`wake_task`, and the scheduling half of `ipc::wake_waiter`) marks a task `Ready`
  and adds it to the run queue of the CPU it slept on, whatever that CPU runs;
* `scheduleFromInterrupt` re-queues the outgoing task unless it is `Sleeping` or `Zombie`, and
  makes the head of the ready queue current.

The reschedule IPI only makes the target CPU take its next tick sooner and is not modelled;
neither are the address-space switch and the saved contexts, which nothing here reads.

* `countsAgree_*`: every operation keeps `ready_count` equal to the length of the ready queue,
  so that a tick that reads `ready_count` as 0 finds no task to switch to.
* `wakeTask_current`: waking a task that is still current on its CPU puts it in that CPU's
  ready queue while it stays current.
-/

namespace Bos

/-- `TaskState`. -/
inductive TaskState where
  | initializing
  | running
  | ready
  | sleeping
  | zombie
  deriving DecidableEq, Repr

/-- `RunQueue`: the task the CPU runs and the tasks waiting for it. -/
structure RunQueue where
  currentTask : Option Nat
  ready : List Nat
  deriving DecidableEq, Repr

/-- The scheduling fields of `CpuLocalData`: its run queue and `ready_count`. -/
structure CpuSched where
  runQueue : RunQueue
  readyCount : Nat
  deriving DecidableEq, Repr

/-- The run queues of all CPUs, by `kernel_id`, and the `state` of every task. -/
structure Sched where
  cpus : Nat → CpuSched
  state : Nat → TaskState

namespace Sched

/-- At boot no CPU runs or queues a task. -/
def init : Sched := ⟨fun _ => ⟨⟨none, []⟩, 0⟩, fun _ => .initializing⟩

/-- `task.state.store(st)`. -/
def setState (s : Sched) (task : Nat) (st : TaskState) : Sched :=
  { s with state := Function.update s.state task st }

/-- Replace the run queue of one CPU. -/
def setCpu (s : Sched) (cpu : Nat) (c : CpuSched) : Sched :=
  { s with cpus := Function.update s.cpus cpu c }

@[simp] theorem setState_cpus (s : Sched) (t : Nat) (st : TaskState) :
    (s.setState t st).cpus = s.cpus := rfl

@[simp] theorem setState_state (s : Sched) (t : Nat) (st : TaskState) :
    (s.setState t st).state = Function.update s.state t st := rfl

@[simp] theorem setCpu_cpus (s : Sched) (k : Nat) (c : CpuSched) :
    (s.setCpu k c).cpus = Function.update s.cpus k c := rfl

@[simp] theorem setCpu_state (s : Sched) (k : Nat) (c : CpuSched) :
    (s.setCpu k c).state = s.state := rfl

/-- `local_scheduler::add(cpu, task)`: `rq.ready.push_back(task)` and
`ready_count.fetch_add(1)`, under the run-queue lock. -/
def add (cpu task : Nat) (s : Sched) : Sched :=
  let c := s.cpus cpu
  s.setCpu cpu ⟨{ c.runQueue with ready := c.runQueue.ready ++ [task] }, c.readyCount + 1⟩

/-- `wake_task(task, cpu)`: `task.state.store(Ready)`, then `local_scheduler::add`. -/
def wakeTask (task cpu : Nat) (s : Sched) : Sched :=
  add cpu task (s.setState task .ready)

@[simp] theorem add_state (cpu task : Nat) (s : Sched) : (add cpu task s).state = s.state := rfl

/-- The outgoing task after `rq.current_task.take()`: dropped when it sleeps or has exited,
otherwise stored `Ready` and pushed back, as `wake_task` would. -/
def requeueOutgoing (cpu : Nat) : Option Nat → Sched → Sched
  | none, s => s
  | some prev, s =>
    match s.state prev with
    | .zombie | .sleeping => s
    | _ => wakeTask prev cpu s

/-- `next_task.state.store(Running)` and `rq.current_task = Some(next_task)`. -/
def setCurrent (cpu next : Nat) (s : Sched) : Sched :=
  let s₁ := s.setState next .running
  s₁.setCpu cpu
    { s₁.cpus cpu with runQueue := { (s₁.cpus cpu).runQueue with currentTask := some next } }

@[simp] theorem setCurrent_state (cpu next : Nat) (s : Sched) :
    (setCurrent cpu next s).state = Function.update s.state next .running := rfl

@[simp] theorem setCurrent_cpus (cpu next : Nat) (s : Sched) :
    (setCurrent cpu next s).cpus = Function.update s.cpus cpu
      { s.cpus cpu with runQueue := { (s.cpus cpu).runQueue with currentTask := some next } } :=
  rfl

/-- `schedule_from_interrupt(cpu)`: nothing happens when `ready_count` is zero or the queue is
empty; otherwise the head of the ready queue is popped, the outgoing task goes through
`requeueOutgoing`, and the head becomes current. -/
def scheduleFromInterrupt (cpu : Nat) (s : Sched) : Sched :=
  if (s.cpus cpu).readyCount = 0 then s
  else
    match (s.cpus cpu).runQueue.ready with
    | [] => s
    | next :: rest =>
      setCurrent cpu next (requeueOutgoing cpu (s.cpus cpu).runQueue.currentTask
        (s.setCpu cpu ⟨⟨none, rest⟩, (s.cpus cpu).readyCount - 1⟩))

/-- A tick that finds the outgoing task `Sleeping` drops it: it is neither current nor queued
afterwards, on that CPU. -/
theorem scheduleFromInterrupt_of_sleeping {s : Sched} {cpu prev next : Nat} {rest : List Nat}
    (hcount : (s.cpus cpu).readyCount ≠ 0) (hready : (s.cpus cpu).runQueue.ready = next :: rest)
    (hcur : (s.cpus cpu).runQueue.currentTask = some prev) (hst : s.state prev = .sleeping) :
    scheduleFromInterrupt cpu s =
      setCurrent cpu next (s.setCpu cpu ⟨⟨none, rest⟩, (s.cpus cpu).readyCount - 1⟩) := by
  unfold scheduleFromInterrupt
  rw [if_neg hcount]
  simp only [hready, hcur, requeueOutgoing, setCpu_state, hst]

/-! ## Counting -/

/-- `ready_count` equals the length of the ready queue on this CPU. -/
def CountsAgree (s : Sched) (cpu : Nat) : Prop :=
  (s.cpus cpu).readyCount = (s.cpus cpu).runQueue.ready.length

/-- How often `task` sits in the current slot or the ready queue of one CPU. -/
def occurrences (c : CpuSched) (task : Nat) : Nat :=
  (if c.runQueue.currentTask = some task then 1 else 0) + c.runQueue.ready.count task

theorem countsAgree_init (k : Nat) : init.CountsAgree k := rfl

/-- `ready_count` and the queues are the CPU's, not the tasks' states. -/
theorem countsAgree_setState {s : Sched} {k : Nat} (h : s.CountsAgree k) (t : Nat)
    (st : TaskState) : (s.setState t st).CountsAgree k := h

theorem countsAgree_add {s : Sched} {k : Nat} (h : ∀ j, s.CountsAgree j) (cpu task : Nat) :
    (add cpu task s).CountsAgree k := by
  unfold CountsAgree add
  by_cases hk : k = cpu
  · subst hk
    simp only [setCpu_cpus, Function.update_self, List.length_append, List.length_singleton]
    rw [h k]
  · simp only [setCpu_cpus, Function.update_of_ne hk]
    exact h k

theorem countsAgree_wakeTask {s : Sched} {k : Nat} (h : ∀ j, s.CountsAgree j) (task cpu : Nat) :
    (wakeTask task cpu s).CountsAgree k :=
  countsAgree_add (fun j => h j) cpu task

/-- The outgoing task is either dropped or woken back onto the CPU. -/
theorem requeueOutgoing_cases (cpu : Nat) (prev : Option Nat) (s : Sched) :
    requeueOutgoing cpu prev s = s ∨
      ∃ p, prev = some p ∧ requeueOutgoing cpu prev s = wakeTask p cpu s := by
  cases prev with
  | none => exact .inl rfl
  | some p =>
    unfold requeueOutgoing
    cases hst : s.state p <;> simp [hst]

theorem countsAgree_requeueOutgoing {s : Sched} (h : ∀ j, s.CountsAgree j) (cpu : Nat)
    (prev : Option Nat) (k : Nat) : (requeueOutgoing cpu prev s).CountsAgree k := by
  rcases requeueOutgoing_cases cpu prev s with hs | ⟨p, -, hs⟩
  · rw [hs]
    exact h k
  · rw [hs]
    exact countsAgree_wakeTask h p cpu

theorem countsAgree_setCurrent {s : Sched} {k : Nat} (h : s.CountsAgree k) (cpu next : Nat) :
    (setCurrent cpu next s).CountsAgree k := by
  unfold CountsAgree setCurrent at *
  by_cases hk : k = cpu
  · subst hk
    simpa using h
  · simpa [Function.update_of_ne hk] using h

theorem countsAgree_scheduleFromInterrupt {s : Sched} {k : Nat} (h : ∀ j, s.CountsAgree j)
    (cpu : Nat) : (scheduleFromInterrupt cpu s).CountsAgree k := by
  unfold scheduleFromInterrupt
  split
  · exact h k
  split
  · exact h k
  rename_i hcount next rest hready
  -- popping the head lowers the count with the queue
  have hpop : ∀ j, (s.setCpu cpu ⟨⟨none, rest⟩, (s.cpus cpu).readyCount - 1⟩).CountsAgree j := by
    intro j
    unfold CountsAgree
    by_cases hj : j = cpu
    · subst hj
      have := h j
      unfold CountsAgree at this
      rw [hready, List.length_cons] at this
      simp only [setCpu_cpus, Function.update_self]
      omega
    · simp only [setCpu_cpus, Function.update_of_ne hj]
      exact h j
  exact countsAgree_setCurrent (countsAgree_requeueOutgoing hpop cpu _ k) cpu next

/-- Waking a task that is still the current task of the CPU it slept on puts it in that CPU's
ready queue as well: it is then held twice by one run queue. -/
theorem wakeTask_current {s : Sched} {task cpu : Nat}
    (hcur : (s.cpus cpu).runQueue.currentTask = some task) :
    ((wakeTask task cpu s).cpus cpu).runQueue.currentTask = some task ∧
      task ∈ ((wakeTask task cpu s).cpus cpu).runQueue.ready ∧
      2 ≤ occurrences ((wakeTask task cpu s).cpus cpu) task := by
  simp only [wakeTask, add, setCpu_cpus, setState_cpus, Function.update_self]
  refine ⟨hcur, by simp, ?_⟩
  simp only [occurrences, hcur, if_true, List.count_append, List.count_singleton_self]
  omega

/-! ## Which CPU holds a task -/

/-- The run queue of `cpu` holds `task`: as its current task or in its ready queue. -/
def Holds (s : Sched) (cpu task : Nat) : Prop :=
  (s.cpus cpu).runQueue.currentTask = some task ∨ task ∈ (s.cpus cpu).runQueue.ready

@[simp] theorem holds_setState (s : Sched) (t : Nat) (st : TaskState) (cpu task : Nat) :
    (s.setState t st).Holds cpu task ↔ s.Holds cpu task := Iff.rfl

theorem holds_add {s : Sched} {c t cpu task : Nat} :
    (add c t s).Holds cpu task ↔ s.Holds cpu task ∨ (cpu = c ∧ task = t) := by
  unfold Holds add
  by_cases hc : cpu = c
  · subst hc
    simp only [setCpu_cpus, Function.update_self, List.mem_append, List.mem_singleton, true_and]
    tauto
  · simp [hc]

theorem holds_wakeTask {s : Sched} {c t cpu task : Nat} :
    (wakeTask t c s).Holds cpu task ↔ s.Holds cpu task ∨ (cpu = c ∧ task = t) := by
  unfold wakeTask
  rw [holds_add, holds_setState]

/-- A tick moves tasks only within the run queue of its CPU. -/
theorem Holds.of_scheduleFromInterrupt {s : Sched} {c cpu task : Nat}
    (h : (scheduleFromInterrupt c s).Holds cpu task) : s.Holds cpu task := by
  unfold scheduleFromInterrupt at h
  split at h
  · exact h
  split at h
  · exact h
  rename_i hcount next rest hready
  -- the popped queue holds what the run queue held, less its head and its current task
  have hpop : ∀ k, (s.setCpu c ⟨⟨none, rest⟩, (s.cpus c).readyCount - 1⟩).Holds k task →
      s.Holds k task := fun k hk => by
    unfold Holds at hk ⊢
    by_cases hk' : k = c
    · subst hk'
      simp only [setCpu_cpus, Function.update_self, reduceCtorEq, false_or] at hk
      rw [hready]
      exact .inr (List.mem_cons_of_mem next hk)
    · simpa [Function.update_of_ne hk'] using hk
  have hreq : ∀ k, (requeueOutgoing c (s.cpus c).runQueue.currentTask
      (s.setCpu c ⟨⟨none, rest⟩, (s.cpus c).readyCount - 1⟩)).Holds k task → s.Holds k task := by
    intro k hk
    rcases requeueOutgoing_cases c (s.cpus c).runQueue.currentTask
      (s.setCpu c ⟨⟨none, rest⟩, (s.cpus c).readyCount - 1⟩) with hs | ⟨p, hp, hs⟩
    · rw [hs] at hk
      exact hpop k hk
    · rw [hs, holds_wakeTask] at hk
      rcases hk with hk | ⟨rfl, rfl⟩
      · exact hpop k hk
      · exact .inl hp
  unfold Holds setCurrent at h
  by_cases hc : cpu = c
  · subst hc
    simp only [setCpu_cpus, setState_cpus, Function.update_self, Option.some.injEq] at h
    rcases h with rfl | h
    · exact .inr (by rw [hready]; exact List.mem_cons_self)
    · exact hreq cpu (.inr h)
  · simp only [setCpu_cpus, setState_cpus, Function.update_of_ne hc] at h
    exact hreq cpu h

/-- A tick changes the state only of tasks its CPU holds, and only to `Running` or `Ready`. -/
theorem scheduleFromInterrupt_state (c : Nat) (s : Sched) (task : Nat) :
    (scheduleFromInterrupt c s).state task = s.state task ∨
      (s.Holds c task ∧ ((scheduleFromInterrupt c s).state task = .running ∨
        (scheduleFromInterrupt c s).state task = .ready)) := by
  unfold scheduleFromInterrupt
  split
  · exact .inl rfl
  split
  · exact .inl rfl
  rename_i hcount next rest hready
  rw [setCurrent_state]
  by_cases hn : task = next
  · subst hn
    refine .inr ⟨.inr (by rw [hready]; exact List.mem_cons_self), .inl (by simp)⟩
  rw [Function.update_of_ne hn]
  rcases requeueOutgoing_cases c (s.cpus c).runQueue.currentTask
    (s.setCpu c ⟨⟨none, rest⟩, (s.cpus c).readyCount - 1⟩) with hs | ⟨p, hp, hs⟩
  · rw [hs]
    exact .inl rfl
  · -- the outgoing task is stored `Ready`
    rw [hs]
    by_cases hpt : task = p
    · subst hpt
      exact .inr ⟨.inl hp, .inr (by simp [wakeTask, add])⟩
    · exact .inl (by simp [wakeTask, add, Function.update_of_ne hpt])

/-- A tick that finds its current task `Sleeping`, another task ready, and the sleeper held by no
other run queue, leaves it sleeping and held by none. -/
theorem not_holds_of_sleeping {s : Sched} {cpu w : Nat}
    (hcount : (s.cpus cpu).readyCount ≠ 0) (hready : (s.cpus cpu).runQueue.ready ≠ [])
    (hcur : (s.cpus cpu).runQueue.currentTask = some w) (hst : s.state w = .sleeping)
    (hq : w ∉ (s.cpus cpu).runQueue.ready) (honly : ∀ c, s.Holds c w → c = cpu) :
    (scheduleFromInterrupt cpu s).state w = .sleeping ∧
      ∀ c, ¬ (scheduleFromInterrupt cpu s).Holds c w := by
  obtain ⟨next, rest, hnr⟩ := List.exists_cons_of_ne_nil hready
  rw [scheduleFromInterrupt_of_sleeping hcount hnr hcur hst]
  have hnext : next ≠ w := by rintro rfl; exact hq (by rw [hnr]; exact List.mem_cons_self)
  refine ⟨by simp [Function.update_of_ne hnext.symm, hst], fun c hc => ?_⟩
  unfold Holds at hc
  by_cases hcc : c = cpu
  · subst hcc
    simp only [setCurrent_cpus, setCpu_cpus, Function.update_self, Option.some.injEq] at hc
    rcases hc with hc | hc
    · exact hnext hc
    · exact hq (by rw [hnr]; exact List.mem_cons_of_mem next hc)
  · simp only [setCurrent_cpus, setCpu_cpus, Function.update_of_ne hcc] at hc
    exact hcc (honly c hc)

end Sched

end Bos
