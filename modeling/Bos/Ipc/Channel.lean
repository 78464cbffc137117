import Bos.Lib.Kern
import Bos.Task.Scheduler

/-!
# Bos.Ipc.Channel

The IPC channels of `ipc/mod.rs`: the global `ENDPOINT_REGISTRY`, the channels the endpoints
share through an `Arc`, and the four operations `create_channel`, `try_send`, `try_recv` and
`close_endpoint`, each run as one step (the locks they take are never held across another
operation's critical section in a sequential run).

An `Arc<Channel>` is named by its allocation number: `channels` maps every number to a
channel and `nextChannel` is the next fresh one. `NEXT_ENDPOINT_ID` is an `AtomicU64` whose
`fetch_add` wraps at `2^64`. `wake_waiter` pops a waiter and hands it to the scheduler, so the
operations act on the IPC objects and the scheduler together (`KernelState`); the reschedule
IPI is not modelled.

Per-operation lemmas: every error leaves the whole state as it was (`trySend_err`,
`tryRecv_err`, `closeEndpoint_err`); `try_send` reports `ChannelFull` exactly when the message
fits, the endpoint is a live `Send` endpoint, the receiver is open and the queue holds
`capacity` messages (`trySend_channelFull_iff`); a success appends to one queue or takes the
head of one, and changes nothing else an operation reads (`trySend_ok`, `tryRecv_ok`).
-/

namespace Bos

namespace Ipc

/-- `MAX_MESSAGE_SIZE`. -/
def maxMessageSize : Nat := 4096

/-- `DEFAULT_CHANNEL_CAPACITY`. -/
def defaultChannelCapacity : Nat := 16

/-- `MAX_CHANNEL_CAPACITY`. -/
def maxChannelCapacity : Nat := 256

/-- `EndpointRole`. -/
inductive EndpointRole where
  | send
  | recv
  deriving DecidableEq, Repr

/-- `IpcError`. -/
inductive IpcError where
  | invalidEndpoint
  | wrongDirection
  | peerClosed
  | channelFull
  | wouldBlock
  | messageTooLarge
  | invalidArgs
  deriving DecidableEq, Repr

/-- An entry of a `WaiterQueue`: a sleeping task and the CPU it sleeps on. -/
structure Waiter where
  task : Nat
  cpu : Nat
  deriving DecidableEq, Repr

/-- `Channel`, with its `ChannelInner` (the queue and the capacity) inlined. -/
structure Channel where
  queue : List (List UInt8)
  capacity : Nat
  sendClosed : Bool
  recvClosed : Bool
  recvWaiters : List Waiter
  sendWaiters : List Waiter
  deriving DecidableEq, Repr

/-- The two waiter queues of a channel. -/
inductive WaiterQueue where
  | recvWaiters
  | sendWaiters
  deriving DecidableEq, Repr

def Channel.waiters (ch : Channel) : WaiterQueue → List Waiter
  | .recvWaiters => ch.recvWaiters
  | .sendWaiters => ch.sendWaiters

def Channel.setWaiters (ch : Channel) : WaiterQueue → List Waiter → Channel
  | .recvWaiters, ws => { ch with recvWaiters := ws }
  | .sendWaiters, ws => { ch with sendWaiters := ws }

/-- `Endpoint`: its role and the channel it shares. -/
structure Endpoint where
  role : EndpointRole
  channel : Nat
  deriving DecidableEq, Repr

/-- `NEXT_ENDPOINT_ID`, `ENDPOINT_REGISTRY` and the allocated channels. -/
structure IpcState where
  nextEndpointId : Nat
  registry : Nat → Option Endpoint
  channels : Nat → Channel
  nextChannel : Nat

/-- What the IPC operations act on: the IPC objects, and the scheduler that `wake_waiter`
hands woken tasks to. -/
structure KernelState where
  ipc : IpcState
  sched : Sched

/-- An unallocated channel. -/
def Channel.unallocated : Channel := ⟨[], 0, false, false, [], []⟩

/-- The state at boot: `NEXT_ENDPOINT_ID = 1`, an empty registry, no channel. -/
def IpcState.init : IpcState := ⟨1, fun _ => none, fun _ => .unallocated, 0⟩

def IpcState.setChannel (s : IpcState) (c : Nat) (ch : Channel) : IpcState :=
  { s with channels := Function.update s.channels c ch }

def IpcState.setEndpoint (s : IpcState) (id : Nat) (ep : Option Endpoint) : IpcState :=
  { s with registry := Function.update s.registry id ep }

@[simp] theorem IpcState.setChannel_channels (s : IpcState) (c : Nat) (ch : Channel) :
    (s.setChannel c ch).channels = Function.update s.channels c ch := rfl

@[simp] theorem IpcState.setChannel_registry (s : IpcState) (c : Nat) (ch : Channel) :
    (s.setChannel c ch).registry = s.registry := rfl

@[simp] theorem IpcState.setChannel_nextChannel (s : IpcState) (c : Nat) (ch : Channel) :
    (s.setChannel c ch).nextChannel = s.nextChannel := rfl

@[simp] theorem IpcState.setChannel_nextEndpointId (s : IpcState) (c : Nat) (ch : Channel) :
    (s.setChannel c ch).nextEndpointId = s.nextEndpointId := rfl

@[simp] theorem IpcState.setEndpoint_registry (s : IpcState) (id : Nat) (ep : Option Endpoint) :
    (s.setEndpoint id ep).registry = Function.update s.registry id ep := rfl

@[simp] theorem IpcState.setEndpoint_channels (s : IpcState) (id : Nat) (ep : Option Endpoint) :
    (s.setEndpoint id ep).channels = s.channels := rfl

@[simp] theorem IpcState.setEndpoint_nextChannel (s : IpcState) (id : Nat) (ep : Option Endpoint) :
    (s.setEndpoint id ep).nextChannel = s.nextChannel := rfl

@[simp] theorem IpcState.setEndpoint_nextEndpointId (s : IpcState) (id : Nat)
    (ep : Option Endpoint) : (s.setEndpoint id ep).nextEndpointId = s.nextEndpointId := rfl

/-! ## The operations -/

/-- The IPC routines: state `KernelState`, errors `IpcError`. -/
abbrev IpcM (α : Type) : Type := Kern KernelState IpcError α

def getChannel (c : Nat) : IpcM Channel := fun s => .ok (s.ipc.channels c) s

def setChannel (c : Nat) (ch : Channel) : IpcM Unit :=
  Kern.modify fun s => { s with ipc := s.ipc.setChannel c ch }

def setEndpoint (id : Nat) (ep : Option Endpoint) : IpcM Unit :=
  Kern.modify fun s => { s with ipc := s.ipc.setEndpoint id ep }

/-- `Arc::new(Channel { .. })`: the channel at a fresh allocation number. -/
def allocChannel (ch : Channel) : IpcM Nat := fun s =>
  .ok s.ipc.nextChannel
    { s with ipc := { s.ipc.setChannel s.ipc.nextChannel ch with nextChannel := s.ipc.nextChannel + 1 } }

/-- `NEXT_ENDPOINT_ID.fetch_add(1, Relaxed)`, which wraps. -/
def fetchAddEndpointId : IpcM Nat := fun s =>
  .ok s.ipc.nextEndpointId
    { s with ipc := { s.ipc with nextEndpointId := (s.ipc.nextEndpointId + 1) % 2 ^ 64 } }

/-- `capacity.clamp(1, MAX_CHANNEL_CAPACITY)`, with `DEFAULT_CHANNEL_CAPACITY` for zero. -/
def clampCapacity (capacity : Nat) : Nat :=
  if capacity = 0 then defaultChannelCapacity
  else if capacity < 1 then 1
  else if capacity > maxChannelCapacity then maxChannelCapacity
  else capacity

/-- `create_channel(capacity)`. -/
def createChannel (capacity : Nat) : IpcM (Nat × Nat) := do
  let c ← allocChannel ⟨[], clampCapacity capacity, false, false, [], []⟩
  let sendId ← fetchAddEndpointId
  let recvId ← fetchAddEndpointId
  setEndpoint sendId (some ⟨.send, c⟩)
  setEndpoint recvId (some ⟨.recv, c⟩)
  pure (sendId, recvId)

/-- `wake_waiter(waiters)`: pop the first waiter under the waiter queue's lock, store it
`Ready` and add it to the run queue of its CPU. -/
def wakeWaiter (c : Nat) (q : WaiterQueue) : IpcM Unit := fun s =>
  match (s.ipc.channels c).waiters q with
  | [] => .ok () s
  | w :: rest =>
    .ok () { ipc := s.ipc.setChannel c ((s.ipc.channels c).setWaiters q rest)
             sched := s.sched.wakeTask w.task w.cpu }

/-- The registry lookup of `try_send` and `try_recv`: the endpoint's channel, when the endpoint
exists and has the expected role. -/
def channelOf (endpointId : Nat) (role : EndpointRole) : IpcM Nat := do
  let s ← Kern.get
  let ep ← Kern.okOr (s.ipc.registry endpointId) .invalidEndpoint
  if ep.role ≠ role then Kern.throw .wrongDirection else pure ep.channel

/-- `try_send(endpoint_id, data)`. -/
def trySend (endpointId : Nat) (data : List UInt8) : IpcM Unit := do
  if data.length > maxMessageSize then Kern.throw .messageTooLarge else do
  let c ← channelOf endpointId .send
  let ch ← getChannel c
  if ch.recvClosed then Kern.throw .peerClosed else do
  if ch.queue.length ≥ ch.capacity then Kern.throw .channelFull else do
  setChannel c { ch with queue := ch.queue ++ [data] }
  wakeWaiter c .recvWaiters

/-- `try_recv(endpoint_id)`. -/
def tryRecv (endpointId : Nat) : IpcM (List UInt8) := do
  let c ← channelOf endpointId .recv
  let ch ← getChannel c
  match ch.queue with
  | msg :: rest => do
    setChannel c { ch with queue := rest }
    wakeWaiter c .sendWaiters
    pure msg
  | [] => if ch.sendClosed then Kern.throw .peerClosed else Kern.throw .wouldBlock

/-- `close_endpoint(endpoint_id)`: remove the endpoint, then mark its side of the channel
closed. -/
def closeEndpoint (endpointId : Nat) : IpcM Unit := do
  let s ← Kern.get
  let ep ← Kern.okOr (s.ipc.registry endpointId) .invalidEndpoint
  setEndpoint endpointId none
  let ch ← getChannel ep.channel
  match ep.role with
  | .send => setChannel ep.channel { ch with sendClosed := true }
  | .recv => setChannel ep.channel { ch with recvClosed := true }

/-- A call of one of the four operations. -/
inductive IpcOp where
  | createChannel (capacity : Nat)
  | trySend (endpointId : Nat) (data : List UInt8)
  | tryRecv (endpointId : Nat)
  | closeEndpoint (endpointId : Nat)
  deriving DecidableEq, Repr

/-- What a call returns on success. -/
inductive IpcReply where
  | created (sendId recvId : Nat)
  | sent
  | received (msg : List UInt8)
  | closed
  deriving DecidableEq, Repr

def IpcOp.exec : IpcOp → IpcM IpcReply
  | .createChannel capacity =>
    Ipc.createChannel capacity >>= fun ids => pure (.created ids.1 ids.2)
  | .trySend endpointId data => Ipc.trySend endpointId data >>= fun _ => pure .sent
  | .tryRecv endpointId => Ipc.tryRecv endpointId >>= fun msg => pure (.received msg)
  | .closeEndpoint endpointId => Ipc.closeEndpoint endpointId >>= fun _ => pure .closed

/-! ## Waiters aside -/

/-- A channel with its waiter queues emptied: what the results of the operations depend on. -/
def Channel.eraseWaiters (ch : Channel) : Channel := { ch with recvWaiters := [], sendWaiters := [] }

/-- The IPC state with every waiter queue emptied. -/
def IpcState.eraseWaiters (s : IpcState) : IpcState :=
  { s with channels := fun c => (s.channels c).eraseWaiters }

/-- Two IPC states that differ at most in their waiter queues. -/
def IpcState.EqUpToWaiters (s s' : IpcState) : Prop := s.eraseWaiters = s'.eraseWaiters

namespace IpcState.EqUpToWaiters

variable {s s' s'' : IpcState}

theorem refl (s : IpcState) : s.EqUpToWaiters s := rfl

theorem registry (h : s.EqUpToWaiters s') : s'.registry = s.registry :=
  (congrArg IpcState.registry h).symm

theorem nextChannel (h : s.EqUpToWaiters s') : s'.nextChannel = s.nextChannel :=
  (congrArg IpcState.nextChannel h).symm

theorem nextEndpointId (h : s.EqUpToWaiters s') : s'.nextEndpointId = s.nextEndpointId :=
  (congrArg IpcState.nextEndpointId h).symm

theorem queue (h : s.EqUpToWaiters s') (c : Nat) : (s'.channels c).queue = (s.channels c).queue :=
  (congrArg (fun t => (t.channels c).queue) h).symm

theorem capacity (h : s.EqUpToWaiters s') (c : Nat) :
    (s'.channels c).capacity = (s.channels c).capacity :=
  (congrArg (fun t => (t.channels c).capacity) h).symm

theorem sendClosed (h : s.EqUpToWaiters s') (c : Nat) :
    (s'.channels c).sendClosed = (s.channels c).sendClosed :=
  (congrArg (fun t => (t.channels c).sendClosed) h).symm

end IpcState.EqUpToWaiters

/-- Replacing the waiters of one channel changes nothing else. -/
theorem IpcState.eqUpToWaiters_setWaiters (s : IpcState) (c : Nat) (q : WaiterQueue)
    (ws : List Waiter) : s.EqUpToWaiters (s.setChannel c ((s.channels c).setWaiters q ws)) := by
  unfold EqUpToWaiters eraseWaiters
  congr 1
  funext c'
  by_cases hc : c' = c
  · subst hc
    cases q <;> simp [Channel.setWaiters, Channel.eraseWaiters]
  · simp [Function.update_of_ne hc]

/-! ## Spec lemmas of the operations -/

variable {s s' : KernelState}

@[simp] theorem getChannel_apply (c : Nat) (s : KernelState) :
    getChannel c s = .ok (s.ipc.channels c) s := rfl

@[simp] theorem setChannel_apply (c : Nat) (ch : Channel) (s : KernelState) :
    setChannel c ch s = .ok () { s with ipc := s.ipc.setChannel c ch } := rfl

@[simp] theorem setEndpoint_apply (id : Nat) (ep : Option Endpoint) (s : KernelState) :
    setEndpoint id ep s = .ok () { s with ipc := s.ipc.setEndpoint id ep } := rfl

/-- `wake_waiter` returns, and changes nothing of the IPC state but one waiter queue. -/
theorem wakeWaiter_ok (c : Nat) (q : WaiterQueue) (s : KernelState) :
    ∃ s', wakeWaiter c q s = .ok () s' ∧ s.ipc.EqUpToWaiters s'.ipc := by
  unfold wakeWaiter
  split
  · exact ⟨s, rfl, .refl _⟩
  · rename_i w rest _
    exact ⟨_, rfl, IpcState.eqUpToWaiters_setWaiters s.ipc c q rest⟩

theorem wakeWaiter_nil {c : Nat} {q : WaiterQueue} (h : (s.ipc.channels c).waiters q = []) :
    wakeWaiter c q s = .ok () s := by
  unfold wakeWaiter
  rw [h]

/-- `wake_waiter` hands the first waiter to the scheduler of its CPU. -/
theorem wakeWaiter_cons {c : Nat} {q : WaiterQueue} {w : Waiter} {rest : List Waiter}
    (h : (s.ipc.channels c).waiters q = w :: rest) :
    wakeWaiter c q s = .ok ()
      { ipc := s.ipc.setChannel c ((s.ipc.channels c).setWaiters q rest)
        sched := s.sched.wakeTask w.task w.cpu } := by
  unfold wakeWaiter
  rw [h]

theorem wakeWaiter_eqUpToWaiters {c : Nat} {q : WaiterQueue} {u : Unit}
    (h : wakeWaiter c q s = .ok u s') : s.ipc.EqUpToWaiters s'.ipc := by
  obtain ⟨s'', h', hw⟩ := wakeWaiter_ok c q s
  rw [h'] at h
  cases h
  exact hw

theorem wakeWaiter_ne_err (c : Nat) (q : WaiterQueue) (s s' : KernelState) (e : IpcError) :
    wakeWaiter c q s ≠ .err e s' := by
  obtain ⟨s'', h', -⟩ := wakeWaiter_ok c q s
  rw [h']
  exact nofun

theorem wakeWaiter_ne_panic (c : Nat) (q : WaiterQueue) (s : KernelState) (m : String) :
    wakeWaiter c q s ≠ .panic m := by
  obtain ⟨s'', h', -⟩ := wakeWaiter_ok c q s
  rw [h']
  exact nofun

/-- The lookup, as the outcome it gives: it reads the registry and changes nothing. -/
theorem channelOf_apply (id : Nat) (role : EndpointRole) (s : KernelState) :
    channelOf id role s = match s.ipc.registry id with
      | none => .err .invalidEndpoint s
      | some ep => if ep.role ≠ role then .err .wrongDirection s else .ok ep.channel s := by
  unfold channelOf
  rw [Kern.bind_apply, Kern.get_apply]
  dsimp only
  rw [Kern.bind_apply]
  cases s.ipc.registry id with
  | none => rfl
  | some ep =>
    simp only [Kern.okOr_some, Kern.pure_apply]
    split <;> rfl

theorem channelOf_ok_iff {id : Nat} {role : EndpointRole} {c : Nat} :
    channelOf id role s = .ok c s' ↔ s.ipc.registry id = some ⟨role, c⟩ ∧ s = s' := by
  rw [channelOf_apply]
  cases s.ipc.registry id with
  | none => simp
  | some ep =>
    obtain ⟨r, c'⟩ := ep
    by_cases hr : r = role
    · subst hr
      simp [eq_comm]
    · simp [hr]

/-- The lookup fails with `InvalidEndpoint` or `WrongDirection`, changing nothing. -/
theorem channelOf_err {id : Nat} {role : EndpointRole} {e : IpcError}
    (h : channelOf id role s = .err e s') :
    s' = s ∧ (s.ipc.registry id = none ∧ e = .invalidEndpoint ∨
      ∃ ep, s.ipc.registry id = some ep ∧ ep.role ≠ role ∧ e = .wrongDirection) := by
  rw [channelOf_apply] at h
  cases hreg : s.ipc.registry id with
  | none =>
    rw [hreg] at h
    cases h
    exact ⟨rfl, .inl ⟨rfl, rfl⟩⟩
  | some ep =>
    rw [hreg] at h
    dsimp only at h
    split at h
    · rename_i hr
      cases h
      exact ⟨rfl, .inr ⟨ep, rfl, hr, rfl⟩⟩
    · cases h

theorem channelOf_ne_panic (id : Nat) (role : EndpointRole) (s : KernelState) (m : String) :
    channelOf id role s ≠ .panic m := by
  rw [channelOf_apply]
  cases s.ipc.registry id with
  | none => exact nofun
  | some ep =>
    dsimp only
    split <;> exact nofun

/-- A message `try_send` accepts: it fits, the endpoint is a live `Send` endpoint of a channel
whose receiver is open and whose queue has room, and the message is appended to that queue. -/
theorem trySend_ok {id : Nat} {data : List UInt8} {u : Unit} (h : trySend id data s = .ok u s') :
    ∃ c, s.ipc.registry id = some ⟨.send, c⟩ ∧ data.length ≤ maxMessageSize ∧
      (s.ipc.channels c).recvClosed = false ∧
      (s.ipc.channels c).queue.length < (s.ipc.channels c).capacity ∧
      (s.ipc.setChannel c
        { s.ipc.channels c with queue := (s.ipc.channels c).queue ++ [data] }).EqUpToWaiters
          s'.ipc := by
  unfold trySend at h
  split at h
  · cases h
  rename_i hsize
  rw [Kern.bind_ok_iff] at h
  obtain ⟨c, s₁, h₁, h⟩ := h
  obtain ⟨hreg, rfl⟩ := channelOf_ok_iff.mp h₁
  rw [Kern.bind_ok_iff] at h
  obtain ⟨ch, s₂, h₂, h⟩ := h
  rw [getChannel_apply] at h₂
  cases h₂
  split at h
  · cases h
  rename_i hclosed
  split at h
  · cases h
  rename_i hroom
  rw [Kern.bind_ok_iff] at h
  obtain ⟨_, s₃, h₃, h⟩ := h
  rw [setChannel_apply] at h₃
  cases h₃
  exact ⟨c, hreg, by omega, by simpa using hclosed, by omega, wakeWaiter_eqUpToWaiters h⟩

/-- An error of `try_send` changes nothing; a `ChannelFull` comes from a message that fits, sent
on a live `Send` endpoint of a channel whose receiver is open and whose queue is full. -/
theorem trySend_err {id : Nat} {data : List UInt8} {e : IpcError}
    (h : trySend id data s = .err e s') :
    s' = s ∧ (e = .channelFull → data.length ≤ maxMessageSize ∧ ∃ c,
      s.ipc.registry id = some ⟨.send, c⟩ ∧ (s.ipc.channels c).recvClosed = false ∧
        (s.ipc.channels c).capacity ≤ (s.ipc.channels c).queue.length) := by
  unfold trySend at h
  split at h
  · cases h
    exact ⟨rfl, fun he => by cases he⟩
  rename_i hsize
  rw [Kern.bind_err_iff] at h
  rcases h with h | ⟨c, s₁, h₁, h⟩
  · -- the lookup's errors are `InvalidEndpoint` and `WrongDirection`
    obtain ⟨rfl, hlookup⟩ := channelOf_err h
    refine ⟨rfl, fun he => ?_⟩
    subst he
    rcases hlookup with ⟨-, he⟩ | ⟨_, -, -, he⟩ <;> cases he
  obtain ⟨hreg, rfl⟩ := channelOf_ok_iff.mp h₁
  rw [Kern.bind_apply, getChannel_apply] at h
  dsimp only at h
  split at h
  · rename_i hclosed
    cases h
    exact ⟨rfl, fun he => by cases he⟩
  rename_i hclosed
  split at h
  · rename_i hfull
    cases h
    exact ⟨rfl, fun _ => ⟨by omega, c, hreg, by simpa using hclosed, hfull⟩⟩
  rw [Kern.bind_apply, setChannel_apply] at h
  exact absurd h (wakeWaiter_ne_err _ _ _ _ _)

/-- `try_send` reports `ChannelFull` exactly when the message fits, the endpoint is a live
`Send` endpoint, the receiver is open and the queue holds at least `capacity` messages; the
state is then unchanged. -/
theorem trySend_channelFull_iff {id : Nat} {data : List UInt8} :
    trySend id data s = .err .channelFull s ↔
      data.length ≤ maxMessageSize ∧ ∃ c, s.ipc.registry id = some ⟨.send, c⟩ ∧
        (s.ipc.channels c).recvClosed = false ∧
        (s.ipc.channels c).capacity ≤ (s.ipc.channels c).queue.length := by
  constructor
  · intro h
    exact (trySend_err h).2 rfl
  · rintro ⟨hsize, c, hreg, hclosed, hfull⟩
    unfold trySend
    rw [if_neg (by omega), Kern.bind_apply, channelOf_ok_iff.mpr ⟨hreg, rfl⟩]
    dsimp only
    rw [Kern.bind_apply, getChannel_apply]
    dsimp only
    rw [if_neg (by simp [hclosed]), if_pos hfull]
    rfl

/-- A message that fits, sent on a live `Send` endpoint of a channel whose receiver is open and
whose queue has room, is appended to the queue, and the first receive waiter is woken. -/
theorem trySend_of_room {id c : Nat} {data : List UInt8}
    (hreg : s.ipc.registry id = some ⟨.send, c⟩) (hlen : data.length ≤ maxMessageSize)
    (hopen : (s.ipc.channels c).recvClosed = false)
    (hroom : (s.ipc.channels c).queue.length < (s.ipc.channels c).capacity) :
    trySend id data s = wakeWaiter c .recvWaiters
      { s with ipc := (s.ipc.setChannel c
        { s.ipc.channels c with queue := (s.ipc.channels c).queue ++ [data] }) } := by
  have hc : channelOf id .send s = .ok c s := channelOf_ok_iff.mpr ⟨hreg, rfl⟩
  unfold trySend
  rw [if_neg (by omega), Kern.bind_apply, hc]
  dsimp only
  rw [Kern.bind_apply, getChannel_apply]
  dsimp only
  rw [if_neg (by simp [hopen]), if_neg (by omega), Kern.bind_apply, setChannel_apply]

theorem trySend_ne_panic (id : Nat) (data : List UInt8) (s : KernelState) (m : String) :
    trySend id data s ≠ .panic m := by
  intro h
  unfold trySend at h
  split at h
  · cases h
  rw [Kern.bind_panic_iff] at h
  rcases h with h | ⟨c, s₁, -, h⟩
  · exact channelOf_ne_panic _ _ _ _ h
  rw [Kern.bind_apply, getChannel_apply] at h
  dsimp only at h
  split at h
  · cases h
  split at h
  · cases h
  rw [Kern.bind_apply, setChannel_apply] at h
  exact wakeWaiter_ne_panic _ _ _ _ h

/-- A message `try_recv` returns is the head of the queue of the channel the endpoint receives
from, and it leaves that queue. -/
theorem tryRecv_ok {id : Nat} {msg : List UInt8} (h : tryRecv id s = .ok msg s') :
    ∃ c rest, s.ipc.registry id = some ⟨.recv, c⟩ ∧ (s.ipc.channels c).queue = msg :: rest ∧
      (s.ipc.setChannel c { s.ipc.channels c with queue := rest }).EqUpToWaiters s'.ipc := by
  unfold tryRecv at h
  rw [Kern.bind_ok_iff] at h
  obtain ⟨c, s₁, h₁, h⟩ := h
  obtain ⟨hreg, rfl⟩ := channelOf_ok_iff.mp h₁
  rw [Kern.bind_apply, getChannel_apply] at h
  dsimp only at h
  cases hq : (s.ipc.channels c).queue with
  | nil =>
    rw [hq] at h
    dsimp only at h
    split at h <;> cases h
  | cons m rest =>
    rw [hq] at h
    dsimp only at h
    rw [Kern.bind_apply, setChannel_apply] at h
    dsimp only at h
    rw [Kern.bind_ok_iff] at h
    obtain ⟨_, s₄, h₄, h⟩ := h
    rw [Kern.pure_apply] at h
    cases h
    exact ⟨c, rest, hreg, hq, wakeWaiter_eqUpToWaiters h₄⟩

/-- An error of `try_recv` changes nothing. -/
theorem tryRecv_err {id : Nat} {e : IpcError} (h : tryRecv id s = .err e s') : s' = s := by
  unfold tryRecv at h
  rw [Kern.bind_err_iff] at h
  rcases h with h | ⟨c, s₁, h₁, h⟩
  · exact (channelOf_err h).1
  obtain ⟨-, rfl⟩ := channelOf_ok_iff.mp h₁
  rw [Kern.bind_apply, getChannel_apply] at h
  dsimp only at h
  cases hq : (s.ipc.channels c).queue with
  | nil =>
    rw [hq] at h
    dsimp only at h
    split at h <;> cases h <;> rfl
  | cons m rest =>
    rw [hq] at h
    dsimp only at h
    rw [Kern.bind_apply, setChannel_apply] at h
    dsimp only at h
    rw [Kern.bind_err_iff] at h
    rcases h with h | ⟨_, _, -, h⟩
    · exact absurd h (wakeWaiter_ne_err _ _ _ _ _)
    · cases h

theorem tryRecv_ne_panic (id : Nat) (s : KernelState) (m : String) : tryRecv id s ≠ .panic m := by
  intro h
  unfold tryRecv at h
  rw [Kern.bind_panic_iff] at h
  rcases h with h | ⟨c, s₁, -, h⟩
  · exact channelOf_ne_panic _ _ _ _ h
  rw [Kern.bind_apply, getChannel_apply] at h
  dsimp only at h
  cases hq : (s₁.ipc.channels c).queue with
  | nil =>
    rw [hq] at h
    dsimp only at h
    split at h <;> cases h
  | cons msg rest =>
    rw [hq] at h
    dsimp only at h
    rw [Kern.bind_apply, setChannel_apply] at h
    dsimp only at h
    rw [Kern.bind_panic_iff] at h
    rcases h with h | ⟨_, _, -, h⟩
    · exact wakeWaiter_ne_panic _ _ _ _ h
    · cases h

/-- On a channel whose sender has closed, `try_recv` still returns the head of the queue, and
`PeerClosed` only once the queue is empty. -/
theorem tryRecv_of_sendClosed {id c : Nat} (hreg : s.ipc.registry id = some ⟨.recv, c⟩)
    (hclosed : (s.ipc.channels c).sendClosed = true) :
    ((s.ipc.channels c).queue = [] → tryRecv id s = .err .peerClosed s) ∧
      ∀ msg rest, (s.ipc.channels c).queue = msg :: rest → ∃ s', tryRecv id s = .ok msg s' := by
  have hc : channelOf id .recv s = .ok c s := channelOf_ok_iff.mpr ⟨hreg, rfl⟩
  refine ⟨fun hq => ?_, fun msg rest hq => ?_⟩
  · unfold tryRecv
    rw [Kern.bind_apply, hc]
    dsimp only
    rw [Kern.bind_apply, getChannel_apply]
    dsimp only
    rw [hq]
    simp [hclosed]
  · unfold tryRecv
    rw [Kern.bind_apply, hc]
    dsimp only
    rw [Kern.bind_apply, getChannel_apply]
    dsimp only
    rw [hq]
    dsimp only
    rw [Kern.bind_apply, setChannel_apply]
    dsimp only
    obtain ⟨s₄, h₄, -⟩ := wakeWaiter_ok c .sendWaiters
      { s with ipc := s.ipc.setChannel c { s.ipc.channels c with queue := rest } }
    exact ⟨s₄, by rw [Kern.bind_apply, h₄]; rfl⟩

/-- The state after `close_endpoint`: the endpoint is gone and its side of the channel is
closed. -/
def IpcState.close (s : IpcState) (id : Nat) (ep : Endpoint) : IpcState :=
  (s.setEndpoint id none).setChannel ep.channel
    (match ep.role with
      | .send => { s.channels ep.channel with sendClosed := true }
      | .recv => { s.channels ep.channel with recvClosed := true })

/-- Closing an endpoint leaves every queue as it was. -/
@[simp] theorem IpcState.close_queue (s : IpcState) (id : Nat) (ep : Endpoint) (c : Nat) :
    ((s.close id ep).channels c).queue = (s.channels c).queue := by
  unfold IpcState.close
  by_cases hc : c = ep.channel
  · subst hc
    cases ep.role <;> simp
  · simp [Function.update_of_ne hc]

theorem closeEndpoint_ok {id : Nat} {u : Unit} (h : closeEndpoint id s = .ok u s') :
    ∃ ep, s.ipc.registry id = some ep ∧ s' = { s with ipc := s.ipc.close id ep } := by
  unfold closeEndpoint at h
  rw [Kern.bind_apply, Kern.get_apply] at h
  dsimp only at h
  cases hreg : s.ipc.registry id with
  | none =>
    simp [hreg, Kern.okOr, Kern.throw] at h
  | some ep =>
    simp only [hreg, Kern.okOr_some, Kern.bind_apply, Kern.pure_apply, setEndpoint_apply,
      getChannel_apply] at h
    refine ⟨ep, rfl, ?_⟩
    obtain ⟨r, c⟩ := ep
    cases r <;> simp only [setChannel_apply] at h <;> cases h <;> rfl

/-- An error of `close_endpoint` (an unknown endpoint) changes nothing. -/
theorem closeEndpoint_err {id : Nat} {e : IpcError} (h : closeEndpoint id s = .err e s') :
    s' = s := by
  unfold closeEndpoint at h
  rw [Kern.bind_apply, Kern.get_apply] at h
  dsimp only at h
  cases hreg : s.ipc.registry id with
  | none =>
    simp only [hreg, Kern.okOr_none, Kern.bind_apply, Kern.throw_apply] at h
    cases h
    rfl
  | some ep =>
    simp only [hreg, Kern.okOr_some, Kern.bind_apply, Kern.pure_apply, setEndpoint_apply,
      getChannel_apply] at h
    obtain ⟨r, c⟩ := ep
    cases r <;> simp only [setChannel_apply] at h <;> cases h

theorem closeEndpoint_ne_panic (id : Nat) (s : KernelState) (m : String) :
    closeEndpoint id s ≠ .panic m := by
  intro h
  unfold closeEndpoint at h
  rw [Kern.bind_apply, Kern.get_apply] at h
  dsimp only at h
  cases hreg : s.ipc.registry id with
  | none => simp [hreg, Kern.okOr, Kern.throw] at h
  | some ep =>
    simp only [hreg, Kern.okOr_some, Kern.bind_apply, Kern.pure_apply, setEndpoint_apply,
      getChannel_apply] at h
    obtain ⟨r, c⟩ := ep
    cases r <;> simp only [setChannel_apply] at h <;> cases h

/-- The state after `create_channel`: a fresh channel of the clamped capacity, with the next two
endpoint ids, wrapping, as its `Send` and `Recv` endpoints. -/
def IpcState.create (s : IpcState) (capacity : Nat) : IpcState :=
  { nextEndpointId := ((s.nextEndpointId + 1) % 2 ^ 64 + 1) % 2 ^ 64
    registry := Function.update
      (Function.update s.registry s.nextEndpointId (some ⟨.send, s.nextChannel⟩))
      ((s.nextEndpointId + 1) % 2 ^ 64) (some ⟨.recv, s.nextChannel⟩)
    channels := Function.update s.channels s.nextChannel
      ⟨[], clampCapacity capacity, false, false, [], []⟩
    nextChannel := s.nextChannel + 1 }

theorem createChannel_apply (capacity : Nat) (s : KernelState) :
    createChannel capacity s = .ok (s.ipc.nextEndpointId, (s.ipc.nextEndpointId + 1) % 2 ^ 64)
      { s with ipc := s.ipc.create capacity } := rfl

/-- No IPC operation panics. -/
theorem IpcOp.exec_ne_panic (op : IpcOp) (s : KernelState) (m : String) : op.exec s ≠ .panic m := by
  intro h
  cases op with
  | createChannel capacity => cases h
  | trySend id data =>
    rw [IpcOp.exec, Kern.bind_panic_iff] at h
    rcases h with h | ⟨_, _, -, h⟩
    · exact trySend_ne_panic _ _ _ _ h
    · cases h
  | tryRecv id =>
    rw [IpcOp.exec, Kern.bind_panic_iff] at h
    rcases h with h | ⟨_, _, -, h⟩
    · exact tryRecv_ne_panic _ _ _ h
    · cases h
  | closeEndpoint id =>
    rw [IpcOp.exec, Kern.bind_panic_iff] at h
    rcases h with h | ⟨_, _, -, h⟩
    · exact closeEndpoint_ne_panic _ _ _ h
    · cases h

/-- Everything a call can do when it returns: create a channel, append to the queue of a
channel it may send on, take the head of the queue of a channel it may receive from, or close
an endpoint. -/
theorem IpcOp.exec_ok {op : IpcOp} {r : IpcReply} (h : op.exec s = .ok r s') :
    (∃ capacity, op = .createChannel capacity ∧
      r = .created s.ipc.nextEndpointId ((s.ipc.nextEndpointId + 1) % 2 ^ 64) ∧
      s' = { s with ipc := s.ipc.create capacity }) ∨
    (∃ id data c, op = .trySend id data ∧ r = .sent ∧ s.ipc.registry id = some ⟨.send, c⟩ ∧
      (s.ipc.channels c).queue.length < (s.ipc.channels c).capacity ∧
      (s.ipc.setChannel c
        { s.ipc.channels c with queue := (s.ipc.channels c).queue ++ [data] }).EqUpToWaiters
          s'.ipc) ∨
    (∃ id c msg rest, op = .tryRecv id ∧ r = .received msg ∧
      s.ipc.registry id = some ⟨.recv, c⟩ ∧ (s.ipc.channels c).queue = msg :: rest ∧
      (s.ipc.setChannel c { s.ipc.channels c with queue := rest }).EqUpToWaiters s'.ipc) ∨
    (∃ id ep, op = .closeEndpoint id ∧ r = .closed ∧ s.ipc.registry id = some ep ∧
      s' = { s with ipc := s.ipc.close id ep }) := by
  cases op with
  | createChannel capacity =>
    rw [IpcOp.exec, Kern.bind_apply, createChannel_apply] at h
    dsimp only at h
    rw [Kern.pure_apply] at h
    cases h
    exact .inl ⟨capacity, rfl, rfl, rfl⟩
  | trySend id data =>
    rw [IpcOp.exec, Kern.bind_ok_iff] at h
    obtain ⟨u, s₁, h₁, h⟩ := h
    rw [Kern.pure_apply] at h
    cases h
    obtain ⟨c, hreg, -, -, hlen, hw⟩ := trySend_ok h₁
    exact .inr (.inl ⟨id, data, c, rfl, rfl, hreg, hlen, hw⟩)
  | tryRecv id =>
    rw [IpcOp.exec, Kern.bind_ok_iff] at h
    obtain ⟨msg, s₁, h₁, h⟩ := h
    rw [Kern.pure_apply] at h
    cases h
    obtain ⟨c, rest, hreg, hq, hw⟩ := tryRecv_ok h₁
    exact .inr (.inr (.inl ⟨id, c, msg, rest, rfl, rfl, hreg, hq, hw⟩))
  | closeEndpoint id =>
    rw [IpcOp.exec, Kern.bind_ok_iff] at h
    obtain ⟨u, s₁, h₁, h⟩ := h
    rw [Kern.pure_apply] at h
    cases h
    obtain ⟨ep, hreg, rfl⟩ := closeEndpoint_ok h₁
    exact .inr (.inr (.inr ⟨id, ep, rfl, rfl, hreg, rfl⟩))

/-- A call that fails changes nothing. -/
theorem IpcOp.exec_err {op : IpcOp} {e : IpcError} (h : op.exec s = .err e s') : s' = s := by
  cases op with
  | createChannel capacity => cases h
  | trySend id data =>
    rw [IpcOp.exec, Kern.bind_err_iff] at h
    rcases h with h | ⟨_, _, -, h⟩
    · exact (trySend_err h).1
    · cases h
  | tryRecv id =>
    rw [IpcOp.exec, Kern.bind_err_iff] at h
    rcases h with h | ⟨_, _, -, h⟩
    · exact tryRecv_err h
    · cases h
  | closeEndpoint id =>
    rw [IpcOp.exec, Kern.bind_err_iff] at h
    rcases h with h | ⟨_, _, -, h⟩
    · exact closeEndpoint_err h
    · cases h

end Ipc

end Bos
