import Bos.Ipc.Channel

/-!
# Bos.Syscall.Blocking

The kernel on several CPUs, one critical section at a time. Each CPU runs its current task; a
step is what one CPU does under one lock, or a timer tick, and any CPU can take the next step.
The steps are those of `spawn_task` and `spawn_local_task`, of `schedule_from_interrupt`, of
`sys_channel_create` and `sys_channel_close`, and of the two blocking loops of
`sys_channel_send` and `sys_channel_recv`:

```
loop {
    match try_send / try_recv { .. }            -- one step: `Smp.attempt`
    Err(ChannelFull / WouldBlock) => {
        waiters.lock().push_back((task, cpu));   -- one step: `Smp.register`
        task.state.store(Sleeping);
        sti; hlt; cli                            -- one step: back to the top
    }
}
```

A system call runs with interrupts off (`SFMask`) except in its `sti; hlt`, so a tick can only
come while the CPU's task runs user code or halts (`Smp.interruptible`). A step here may
cover several critical sections of the source (`try_send` takes the registry lock, then the
channel's, then a waiter queue's). So every run of this model is also a run of the source, and
the runs below that end in a bad state are runs of the kernel.

* `wake_while_current`: a task that registered as a receive waiter stays current until the
  next tick. A `try_send` on another CPU then wakes it, and its CPU's run queue holds it twice,
  as the current task and in the ready queue.
* `recv_lost_wakeup`: a `try_send` that comes between a receiver's `WouldBlock` and its
  registration finds no waiter to wake. The receiver then sleeps, and the next tick drops it
  from every run queue while its channel holds a message.
-/

namespace Bos

open Ipc

/-- The call a task loops in: `sys_channel_send` of `data` or `sys_channel_recv`, on
`endpointId`, with the channel (`channel_arc`) it looked up before the loop. -/
inductive BlockingCall where
  | send (endpointId channel : Nat) (data : List UInt8)
  | recv (endpointId channel : Nat)
  deriving DecidableEq, Repr

namespace BlockingCall

def channel : BlockingCall → Nat
  | .send _ c _ => c
  | .recv _ c => c

/-- The waiter queue the loop registers on. -/
def waiterQueue : BlockingCall → WaiterQueue
  | .send .. => .sendWaiters
  | .recv .. => .recvWaiters

/-- The error on which the loop sleeps and tries again. -/
def blockedBy : BlockingCall → IpcError
  | .send .. => .channelFull
  | .recv .. => .wouldBlock

/-- One try of the loop: `try_send` or `try_recv`. -/
def attempt : BlockingCall → IpcM Unit
  | .send endpointId _ data => trySend endpointId data
  | .recv endpointId _ => tryRecv endpointId >>= fun _ => pure ()

end BlockingCall

/-- Where a task is. -/
inductive Pc where
  /-- Running user code, or a kernel task's idle loop, with interrupts enabled. -/
  | user
  /-- At the top of a blocking loop: its next step tries. -/
  | loop (call : BlockingCall)
  /-- The try failed with `blockedBy`: its next step registers it and marks it `Sleeping`. -/
  | sleep (call : BlockingCall)
  /-- Registered, in `sti; hlt`. -/
  | halt (call : BlockingCall)
  deriving DecidableEq, Repr

/-- Interrupts are enabled. -/
def Pc.interruptible : Pc → Bool
  | .user => true
  | .halt _ => true
  | _ => false

/-- The kernel on `cpusCount` CPUs: the IPC objects and the run queues, where every task is, the ids in
`TASK_TABLE`, `NEXT_SPAWN_CPU`, and the number of CPUs. -/
structure Smp where
  kernel : KernelState
  pc : Nat → Pc
  taskTable : Nat → Bool
  nextSpawnCpu : Nat
  cpusCount : Nat

/-- A step of the machine. The CPU of a system call is the one whose current task makes it. -/
inductive Action where
  | spawnTask (task : Nat)
  | spawnLocalTask (cpu task : Nat)
  | tick (cpu : Nat)
  | channelCreate (cpu capacity : Nat)
  | channelClose (cpu endpointId : Nat)
  | channelSend (cpu endpointId : Nat) (data : List UInt8)
  | channelRecv (cpu endpointId : Nat)
  /-- The current task of `cpu` takes the next step of its blocking loop. -/
  | resume (cpu : Nat)
  deriving DecidableEq, Repr

namespace Smp

/-- No task, no channel, `NEXT_ENDPOINT_ID = 1`. -/
def boot (cpusCount : Nat) : Smp :=
  ⟨⟨IpcState.init, Sched.init⟩, fun _ => .user, fun _ => false, 0, cpusCount⟩

def current (m : Smp) (cpu : Nat) : Option Nat :=
  (m.kernel.sched.cpus cpu).runQueue.currentTask

def setPc (m : Smp) (t : Nat) (p : Pc) : Smp :=
  { m with pc := Function.update m.pc t p }

def setSched (m : Smp) (s : Sched) : Smp :=
  { m with kernel := { m.kernel with sched := s } }

/-- The current task of `cpu`, when it runs user code and so can make a system call. -/
def userTask (m : Smp) (cpu : Nat) : Option Nat :=
  (m.current cpu).filter fun t => decide (m.pc t = .user)

/-- The CPU takes interrupts: it has no task yet, or its task runs user code or halts. -/
def interruptible (m : Smp) (cpu : Nat) : Bool :=
  match m.current cpu with
  | none => true
  | some t => (m.pc t).interruptible

/-- `spawn_local_task` on `cpu`: the task goes into `TASK_TABLE`, where a second task of the same
id panics, is stored `Ready` and is added to the run queue of `cpu`. -/
def spawnOn (m : Smp) (cpu task : Nat) : Option Smp :=
  if m.taskTable task then none
  else some { m with
    kernel := { m.kernel with sched := Sched.add cpu task (m.kernel.sched.setState task .ready) }
    pc := Function.update m.pc task .user
    taskTable := Function.update m.taskTable task true }

/-- `spawn_task`: as `spawn_local_task`, on the CPU that `NEXT_SPAWN_CPU.fetch_add(1)` picks
round robin (every CPU is initialised). -/
def spawnTask (m : Smp) (task : Nat) : Option Smp :=
  spawnOn { m with nextSpawnCpu := (m.nextSpawnCpu + 1) % 2 ^ 64 }
    (m.nextSpawnCpu % m.cpusCount) task

/-- A timer tick: `schedule_from_interrupt`. -/
def tick (m : Smp) (cpu : Nat) : Option Smp :=
  if m.interruptible cpu then some (m.setSched (Sched.scheduleFromInterrupt cpu m.kernel.sched))
  else none

/-- An IPC routine whose result goes back to user code; a panic stops the machine. -/
def ipcCall (m : Smp) (op : IpcOp) : Option Smp :=
  match op.exec m.kernel with
  | .ok _ k => some { m with kernel := k }
  | .err _ k => some { m with kernel := k }
  | .panic _ => none

/-- The entry of `sys_channel_send`: a message over `MAX_MESSAGE_SIZE`, or an endpoint that is
not a live `Send` endpoint, returns at once; otherwise the task enters the loop. -/
def channelSend (m : Smp) (cpu endpointId : Nat) (data : List UInt8) : Option Smp :=
  (m.userTask cpu).map fun t =>
    if data.length > maxMessageSize then m
    else
      match m.kernel.ipc.registry endpointId with
      | some ⟨.send, c⟩ => m.setPc t (.loop (.send endpointId c data))
      | _ => m

/-- The entry of `sys_channel_recv`: an endpoint that is not a live `Recv` endpoint returns at
once; otherwise the task enters the loop. -/
def channelRecv (m : Smp) (cpu endpointId : Nat) : Option Smp :=
  (m.userTask cpu).map fun t =>
    match m.kernel.ipc.registry endpointId with
    | some ⟨.recv, c⟩ => m.setPc t (.loop (.recv endpointId c))
    | _ => m

/-- One try of task `t`'s loop: on success or on an error other than `blockedBy` the call
returns; on `blockedBy` the task goes on to register. -/
def attempt (m : Smp) (t : Nat) (call : BlockingCall) : Option Smp :=
  match call.attempt m.kernel with
  | .ok _ k => some ({ m with kernel := k }.setPc t .user)
  | .err e k =>
    some ({ m with kernel := k }.setPc t (if e = call.blockedBy then .sleep call else .user))
  | .panic _ => none

/-- `current_task_and_cpu()` is the task itself on its CPU: it is pushed on the channel's waiter
queue and stored `Sleeping`, and goes on to `sti; hlt`. -/
def register (m : Smp) (t cpu : Nat) (call : BlockingCall) : Smp :=
  let ch := m.kernel.ipc.channels call.channel
  { m with
    kernel :=
      { ipc := m.kernel.ipc.setChannel call.channel
          (ch.setWaiters call.waiterQueue (ch.waiters call.waiterQueue ++ [⟨t, cpu⟩]))
        sched := m.kernel.sched.setState t .sleeping }
    pc := Function.update m.pc t (.halt call) }

/-- The next step of the loop the current task of `cpu` is in. -/
def resume (m : Smp) (cpu : Nat) : Option Smp :=
  match m.current cpu with
  | none => none
  | some t =>
    match m.pc t with
    | .user => none
    | .loop call => m.attempt t call
    | .sleep call => some (m.register t cpu call)
    -- the `hlt` returned: back to the top of the loop
    | .halt call => some (m.setPc t (.loop call))

def exec (m : Smp) : Action → Option Smp
  | .spawnTask task => m.spawnTask task
  | .spawnLocalTask cpu task =>
    -- the CPU that calls `spawn_local_task` is one of the machine's
    if cpu < m.cpusCount then m.spawnOn cpu task else none
  | .tick cpu => m.tick cpu
  | .channelCreate cpu capacity =>
    -- `sys_channel_create` clamps the capacity before `create_channel` clamps it again
    (m.userTask cpu).bind fun _ => m.ipcCall (.createChannel (clampCapacity capacity))
  | .channelClose cpu endpointId =>
    (m.userTask cpu).bind fun _ => m.ipcCall (.closeEndpoint endpointId)
  | .channelSend cpu endpointId data => m.channelSend cpu endpointId data
  | .channelRecv cpu endpointId => m.channelRecv cpu endpointId
  | .resume cpu => m.resume cpu

/-- The actions in turn; `none` once one cannot be taken. -/
def run (m : Smp) : List Action → Option Smp
  | [] => some m
  | a :: as => (m.exec a).bind fun m' => m'.run as

/-! ## Spec lemmas -/

variable {m m' : Smp} {cpu t : Nat} {call : BlockingCall}

@[simp] theorem setPc_kernel (m : Smp) (t : Nat) (p : Pc) : (m.setPc t p).kernel = m.kernel :=
  rfl

@[simp] theorem setPc_pc (m : Smp) (t : Nat) (p : Pc) :
    (m.setPc t p).pc = Function.update m.pc t p := rfl

@[simp] theorem setSched_kernel (m : Smp) (s : Sched) :
    (m.setSched s).kernel = { m.kernel with sched := s } := rfl

@[simp] theorem setSched_pc (m : Smp) (s : Sched) : (m.setSched s).pc = m.pc := rfl

@[simp] theorem register_kernel_sched (m : Smp) (t cpu : Nat) (call : BlockingCall) :
    (m.register t cpu call).kernel.sched = m.kernel.sched.setState t .sleeping := rfl

@[simp] theorem register_pc (m : Smp) (t cpu : Nat) (call : BlockingCall) :
    (m.register t cpu call).pc = Function.update m.pc t (.halt call) := rfl

@[simp] theorem register_cpusCount (m : Smp) (t cpu : Nat) (call : BlockingCall) :
    (m.register t cpu call).cpusCount = m.cpusCount := rfl

/-- Registering changes only the waiters of the channel, and its queue not at all. -/
theorem register_queue (m : Smp) (t cpu : Nat) (call : BlockingCall) (c : Nat) :
    ((m.register t cpu call).kernel.ipc.channels c).queue = (m.kernel.ipc.channels c).queue := by
  unfold register
  by_cases hc : c = call.channel
  · subst hc
    cases call.waiterQueue <;> simp [Channel.setWaiters]
  · simp [Function.update_of_ne hc]

theorem register_waiter (m : Smp) (t cpu : Nat) (call : BlockingCall) :
    ⟨t, cpu⟩ ∈ ((m.register t cpu call).kernel.ipc.channels call.channel).waiters
      call.waiterQueue := by
  unfold register
  cases call.waiterQueue <;> simp [Channel.setWaiters, Channel.waiters]

theorem run_of_exec {a : Action} (h : m.exec a = some m') (as : List Action) :
    m.run (a :: as) = m'.run as := by
  rw [run, h, Option.bind_some]

theorem resume_loop (hc : m.current cpu = some t) (hp : m.pc t = .loop call) :
    m.exec (.resume cpu) = m.attempt t call := by
  rw [exec, resume, hc]
  dsimp only
  rw [hp]

theorem resume_sleep (hc : m.current cpu = some t) (hp : m.pc t = .sleep call) :
    m.exec (.resume cpu) = some (m.register t cpu call) := by
  rw [exec, resume, hc]
  dsimp only
  rw [hp]

theorem attempt_ok {k : KernelState} {u : Unit} (h : call.attempt m.kernel = .ok u k) :
    m.attempt t call = some ({ m with kernel := k }.setPc t .user) := by
  rw [attempt, h]

theorem tick_of_interruptible (h : m.interruptible cpu = true) :
    m.exec (.tick cpu) = some (m.setSched (Sched.scheduleFromInterrupt cpu m.kernel.sched)) := by
  rw [exec, tick, if_pos h]

/-- A tick on a CPU whose current task sleeps drops that task: the head of the ready queue
becomes current, and the sleeper is requeued nowhere. -/
theorem tick_of_sleeping {next : Nat} {rest : List Nat} (hc : m.current cpu = some t)
    (hp : (m.pc t).interruptible = true) (hst : m.kernel.sched.state t = .sleeping)
    (hcount : (m.kernel.sched.cpus cpu).readyCount ≠ 0)
    (hready : (m.kernel.sched.cpus cpu).runQueue.ready = next :: rest) :
    m.exec (.tick cpu) = some (m.setSched (Sched.setCurrent cpu next
      (m.kernel.sched.setCpu cpu ⟨⟨none, rest⟩, (m.kernel.sched.cpus cpu).readyCount - 1⟩))) := by
  have hint : m.interruptible cpu = true := by
    rw [interruptible, hc]
    exact hp
  rw [tick_of_interruptible hint, Sched.scheduleFromInterrupt_of_sleeping hcount hready hc hst]

/-- A send whose message is accepted returns, after waking the channel's first receive waiter. -/
theorem attempt_send_of_room {epS c : Nat} {data : List UInt8}
    (hreg : m.kernel.ipc.registry epS = some ⟨.send, c⟩) (hlen : data.length ≤ maxMessageSize)
    (hopen : (m.kernel.ipc.channels c).recvClosed = false)
    (hroom : (m.kernel.ipc.channels c).queue.length < (m.kernel.ipc.channels c).capacity) :
    ∃ k, (BlockingCall.send epS c data).attempt m.kernel = .ok () k ∧
      (k.ipc.channels c).queue = (m.kernel.ipc.channels c).queue ++ [data] ∧
      ((m.kernel.ipc.channels c).recvWaiters = [] → k.sched = m.kernel.sched) ∧
      ∀ w rest, (m.kernel.ipc.channels c).recvWaiters = w :: rest →
        k.sched = m.kernel.sched.wakeTask w.task w.cpu := by
  have hsend := trySend_of_room hreg hlen hopen hroom
  cases hw : (m.kernel.ipc.channels c).recvWaiters with
  | nil =>
    rw [wakeWaiter_nil (by simpa [Channel.waiters] using hw)] at hsend
    exact ⟨_, hsend, by simp, fun _ => rfl, fun w rest h => absurd h.symm (List.cons_ne_nil w rest)⟩
  | cons w rest =>
    rw [wakeWaiter_cons (by simpa [Channel.waiters] using hw)] at hsend
    refine ⟨_, hsend, ?_, fun h => absurd h (List.cons_ne_nil w rest), fun w' rest' h => ?_⟩
    · simp [Channel.setWaiters]
    · obtain ⟨rfl, rfl⟩ := List.cons.inj h
      rfl

/-! ## Wakeups that go wrong -/

variable {j k u epS c : Nat} {data : List UInt8}

theorem wake_while_current {rest : List Waiter}
    (hk : m.current k = some t) (hw : (m.kernel.ipc.channels c).recvWaiters = ⟨t, k⟩ :: rest)
    (hj : m.current j = some u) (hpc : m.pc u = .loop (.send epS c data))
    (hreg : m.kernel.ipc.registry epS = some ⟨.send, c⟩) (hlen : data.length ≤ maxMessageSize)
    (hopen : (m.kernel.ipc.channels c).recvClosed = false)
    (hroom : (m.kernel.ipc.channels c).queue.length < (m.kernel.ipc.channels c).capacity) :
    ∃ m', m.exec (.resume j) = some m' ∧ m'.current k = some t ∧
      t ∈ (m'.kernel.sched.cpus k).runQueue.ready ∧
      2 ≤ Sched.occurrences (m'.kernel.sched.cpus k) t := by
  obtain ⟨kst, hsend, -, -, hwake⟩ := attempt_send_of_room hreg hlen hopen hroom
  have hsched : kst.sched = m.kernel.sched.wakeTask t k := hwake _ _ hw
  refine ⟨_, (resume_loop hj hpc).trans (attempt_ok hsend), ?_⟩
  -- the waiter is still the current task of the CPU it registered on
  simp only [current, setPc_kernel, hsched]
  exact Sched.wakeTask_current hk

theorem recv_lost_wakeup {epR next : Nat} {rest : List Nat}
    (hk : m.current k = some t) (hpc : m.pc t = .sleep (.recv epR c))
    (hj : m.current j = some u) (hpcu : m.pc u = .loop (.send epS c data))
    (hreg : m.kernel.ipc.registry epS = some ⟨.send, c⟩) (hlen : data.length ≤ maxMessageSize)
    (hopen : (m.kernel.ipc.channels c).recvClosed = false)
    (hroom : (m.kernel.ipc.channels c).queue.length < (m.kernel.ipc.channels c).capacity)
    (hw : (m.kernel.ipc.channels c).recvWaiters = [])
    (hcount : (m.kernel.sched.cpus k).readyCount ≠ 0)
    (hready : (m.kernel.sched.cpus k).runQueue.ready = next :: rest) (hcpu : k < m.cpusCount)
    (hnowhere : ∀ cpu < m.cpusCount, t ∉ (m.kernel.sched.cpus cpu).runQueue.ready ∧
      (cpu ≠ k → m.current cpu ≠ some t)) :
    ∃ m', m.run [.resume j, .resume k, .tick k] = some m' ∧
      m'.pc t = .halt (.recv epR c) ∧ m'.kernel.sched.state t = .sleeping ∧
      ⟨t, k⟩ ∈ (m'.kernel.ipc.channels c).recvWaiters ∧
      (∀ cpu < m'.cpusCount, m'.current cpu ≠ some t ∧
        t ∉ (m'.kernel.sched.cpus cpu).runQueue.ready) ∧
      (m'.kernel.ipc.channels c).queue ≠ [] ∧ m'.pc u = .user := by
  have htu : t ≠ u := by
    rintro rfl
    rw [hpc] at hpcu
    cases hpcu
  have hnext : next ≠ t := by
    rintro rfl
    have hmem : next ∈ (m.kernel.sched.cpus k).runQueue.ready := by simp [hready]
    exact (hnowhere k hcpu).1 hmem
  -- the sender's try finds no waiter to wake
  obtain ⟨kst, hsend, hq, hnil, -⟩ := attempt_send_of_room hreg hlen hopen hroom
  have hsched : kst.sched = m.kernel.sched := hnil hw
  set m₁ := { m with kernel := kst }.setPc u .user with hm₁
  have h₁ : m.exec (.resume j) = some m₁ := (resume_loop hj hpcu).trans (attempt_ok hsend)
  -- then the receiver registers and marks itself sleeping
  have hk₁ : m₁.current k = some t := by simpa [hm₁, current, hsched] using hk
  have hpc₁ : m₁.pc t = .sleep (.recv epR c) := by simp [hm₁, Function.update_of_ne htu, hpc]
  set m₂ := m₁.register t k (.recv epR c) with hm₂
  have h₂ : m₁.exec (.resume k) = some m₂ := resume_sleep hk₁ hpc₁
  have hcpus₂ : m₂.kernel.sched.cpus = m.kernel.sched.cpus := by simp [hm₂, hm₁, hsched]
  -- and the tick finds it sleeping, and drops it
  have h₃ := tick_of_sleeping (m := m₂) (by simpa [current, hcpus₂] using hk)
    (by simp [hm₂, Pc.interruptible]) (by simp [hm₂]) (by rw [hcpus₂]; exact hcount)
    (by rw [hcpus₂]; exact hready)
  have hrun := (run_of_exec h₁ _).trans ((run_of_exec h₂ _).trans (run_of_exec h₃ []))
  refine ⟨_, hrun, ?_, ?_, ?_, ?_, ?_, ?_⟩
  · simp [hm₂]
  · simp [hm₂, Function.update_of_ne hnext.symm]
  · simpa [BlockingCall.channel, BlockingCall.waiterQueue, Channel.waiters] using
      register_waiter m₁ t k (.recv epR c)
  · intro cpu hcpu'
    simp only [current, setSched_kernel, Sched.setCurrent_cpus, Sched.setCpu_cpus, hcpus₂]
    by_cases hck : cpu = k
    · -- the CPU it slept on now runs the head of its queue and keeps the rest
      subst hck
      simp only [Function.update_self]
      refine ⟨fun h => hnext (Option.some_inj.mp h), ?_⟩
      have hrest := (hnowhere cpu hcpu').1
      rw [hready] at hrest
      exact fun hmem => hrest (List.mem_cons_of_mem next hmem)
    · simp only [Function.update_of_ne hck]
      exact ⟨(hnowhere cpu hcpu').2 hck, (hnowhere cpu hcpu').1⟩
  · simp only [setSched_kernel]
    rw [register_queue m₁ t k (.recv epR c) c]
    simp [hm₁, hq]
  · simp [hm₂, hm₁, Function.update_of_ne htu.symm]

/-- A run that ends in a state with a property, found by running it. -/
theorem exists_of_run {m₀ : Smp} {as : List Action} {P : Smp → Prop} [DecidablePred P]
    (h : (m₀.run as).map (fun m => decide (P m)) = some true) :
    ∃ m, m₀.run as = some m ∧ P m := by
  cases hrun : m₀.run as with
  | none => rw [hrun] at h; cases h
  | some m =>
    rw [hrun, Option.map_some, Option.some_inj, decide_eq_true_iff] at h
    exact ⟨m, rfl, h⟩

/-- Two CPUs, each with its idle task (`10` and `11`), and two user tasks spawned round robin:
`1` on CPU 0 and `2` on CPU 1. Task `1` creates a channel (channel `0`, send id `1`, receive
id `2`), and its `sys_channel_recv` gets `WouldBlock`; task `2` enters `sys_channel_send` on
id `1`. -/
def blockedReceiver : List Action :=
  [.spawnLocalTask 0 10, .spawnLocalTask 1 11, .spawnTask 1, .spawnTask 2,
    .tick 0, .tick 0, .tick 1, .tick 1,
    .channelCreate 0 0, .channelRecv 0 2, .resume 0, .channelSend 1 1 [7]]

theorem wake_while_current_sample :
    ∃ m m', (boot 2).run (blockedReceiver ++ [.resume 0]) = some m ∧
      m.exec (.resume 1) = some m' ∧ m'.current 0 = some 1 ∧
      1 ∈ (m'.kernel.sched.cpus 0).runQueue.ready ∧
      2 ≤ Sched.occurrences (m'.kernel.sched.cpus 0) 1 := by
  obtain ⟨m, hm, hk, hw, hj, hpc, hreg, hlen, hopen, hroom⟩ :
      ∃ m, (boot 2).run (blockedReceiver ++ [.resume 0]) = some m ∧ m.current 0 = some 1 ∧
        (m.kernel.ipc.channels 0).recvWaiters = [⟨1, 0⟩] ∧ m.current 1 = some 2 ∧
        m.pc 2 = .loop (.send 1 0 [7]) ∧ m.kernel.ipc.registry 1 = some ⟨.send, 0⟩ ∧
        [(7 : UInt8)].length ≤ maxMessageSize ∧ (m.kernel.ipc.channels 0).recvClosed = false ∧
        (m.kernel.ipc.channels 0).queue.length < (m.kernel.ipc.channels 0).capacity :=
    exists_of_run (by decide +kernel)
  obtain ⟨m', h', hcur, hmem, hocc⟩ := wake_while_current hk hw hj hpc hreg hlen hopen hroom
  exact ⟨m, m', hm, h', hcur, hmem, hocc⟩

theorem recv_lost_wakeup_sample :
    ∃ m m', (boot 2).run blockedReceiver = some m ∧
      m.run [.resume 1, .resume 0, .tick 0] = some m' ∧
      m'.pc 1 = .halt (.recv 2 0) ∧ m'.kernel.sched.state 1 = .sleeping ∧
      ⟨1, 0⟩ ∈ (m'.kernel.ipc.channels 0).recvWaiters ∧
      (∀ cpu < m'.cpusCount, m'.current cpu ≠ some 1 ∧
        1 ∉ (m'.kernel.sched.cpus cpu).runQueue.ready) ∧
      (m'.kernel.ipc.channels 0).queue ≠ [] ∧ m'.pc 2 = .user := by
  obtain ⟨m, hm, hk, hpc, hj, hpcu, hreg, hlen, hopen, hroom, hw, hcount, hready, hcpu,
      hnowhere⟩ :
      ∃ m, (boot 2).run blockedReceiver = some m ∧ m.current 0 = some 1 ∧
        m.pc 1 = .sleep (.recv 2 0) ∧ m.current 1 = some 2 ∧
        m.pc 2 = .loop (.send 1 0 [7]) ∧ m.kernel.ipc.registry 1 = some ⟨.send, 0⟩ ∧
        [(7 : UInt8)].length ≤ maxMessageSize ∧ (m.kernel.ipc.channels 0).recvClosed = false ∧
        (m.kernel.ipc.channels 0).queue.length < (m.kernel.ipc.channels 0).capacity ∧
        (m.kernel.ipc.channels 0).recvWaiters = [] ∧ (m.kernel.sched.cpus 0).readyCount ≠ 0 ∧
        (m.kernel.sched.cpus 0).runQueue.ready = [10] ∧ 0 < m.cpusCount ∧
        ∀ cpu < m.cpusCount, 1 ∉ (m.kernel.sched.cpus cpu).runQueue.ready ∧
          (cpu ≠ 0 → m.current cpu ≠ some 1) :=
    exists_of_run (by decide +kernel)
  obtain ⟨m', h', hpc', hst, hwait, hgone, hq, hdone⟩ :=
    recv_lost_wakeup hk hpc hj hpcu hreg hlen hopen hroom hw hcount hready hcpu hnowhere
  exact ⟨m, m', hm, h', hpc', hst, hwait, hgone, hq, hdone⟩

end Smp

end Bos
