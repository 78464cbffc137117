import Bos.Ipc.Channel
import Bos.Syscall.Dispatch

/-!
# Bos.Syscall.Service

The service registry of `service_registry.rs`, the calls that name, create and close endpoints
(`sys_register_service`, `sys_lookup_service`, `sys_channel_create`, `sys_channel_close`), and
the part of `sys_exit` that releases a task's IPC objects: it closes every endpoint of the task's
`owned_endpoints`, ignoring errors, and removes every service the task registered.

A service name is the 64-byte array `[u8; MAX_SERVICE_NAME_LEN]` the name bytes are copied into,
zero-padded. The bytes a call reads at `name_ptr` are an argument of the call: they are whatever
the task's memory holds there. The values a call writes through its out pointers are returned
beside its status code. Message passing is not among the calls here: it changes queues, waiters
and the scheduler, which none of these calls reads (`Bos.Ipc.Fifo`, `Bos.Syscall.Blocking`).

Each call that returns is a `Step`: it hands out the counter's next two ids or none, removes or
keeps every other endpoint, gives the ids it hands out to the caller, adds services of the caller
only, and removes services only when it is the exit of their owner, after closing what the owner
owns. The run invariant `Tracked` follows from that alone: the counter is past every id handed
out, live endpoints and the endpoints services name were handed out, and every task owns what it
was handed.

* `exit_releases_endpoints_and_services`: in every run from boot with fewer than `2^63` calls of
  `sys_channel_create`, once a task's last call is `sys_exit`, none of the endpoints it was
  handed is left in `ENDPOINT_REGISTRY` and no service is registered under its id.
* `service_outlives_endpoint`: a service entry goes only with its owner's exit. Once its endpoint
  is closed, by `sys_channel_close` or by the exit of the task that created it, the name goes on
  resolving to an endpoint that never comes back, and every send on it fails with
  `InvalidEndpoint`.
* `service_name_held_until_exit`: first come, first served. Once a name is registered for a
  task, until that task exits no registration of the name returns `SVC_OK`, whatever zero bytes
  it carries at the end, and every lookup of it that writes out an id writes out the task's
  endpoint.
-/

namespace Bos

namespace Service

open Ipc Kern

/-- `MAX_SERVICE_NAME_LEN`. -/
def maxServiceNameLen : Nat := 64

def svcOk : Nat := 0
def svcErrNotFound : Nat := 10
def svcErrAlreadyRegistered : Nat := 11
def svcErrInvalidArgs : Nat := 12

def ipcOk : Nat := 0

/-- `ipc_error_to_code`. -/
def ipcErrorToCode : IpcError → Nat
  | .invalidEndpoint => 1
  | .wrongDirection => 2
  | .peerClosed => 3
  | .channelFull => 4
  | .wouldBlock => 4
  | .messageTooLarge => 6
  | .invalidArgs => 5

/-- `IPC_ERR_INVALID_ARGS`. -/
def ipcErrInvalidArgs : Nat := ipcErrorToCode .invalidArgs

/-- `ServiceName = [u8; MAX_SERVICE_NAME_LEN]`. -/
abbrev ServiceName : Type := Vector UInt8 maxServiceNameLen

/-- `ServiceEntry`. -/
structure ServiceEntry where
  sendEndpointId : Nat
  ownerTaskId : Nat
  deriving DecidableEq, Repr

/-- The fields of a task's `TaskInner` that the calls here read and write. -/
structure TaskInner where
  userVaddrSet : VaddrSet
  ownedEndpoints : List Nat
  registeredServices : List ServiceName

/-- The IPC objects with the scheduler, `SERVICE_REGISTRY`, and every task's `TaskInner`. -/
structure SvcState where
  kernel : KernelState
  serviceRegistry : ServiceName → Option ServiceEntry
  tasks : Nat → TaskInner

/-- `name[..copy_len].copy_from_slice(&name_bytes[..copy_len])` into `[0u8; MAX_SERVICE_NAME_LEN]`
with `copy_len = min(len, MAX_SERVICE_NAME_LEN)`: byte `i` is the name's byte `i` if it has one,
and zero otherwise. -/
def padName (nameBytes : List UInt8) : ServiceName :=
  Vector.ofFn fun i => nameBytes.getD i 0

/-- `register(name_bytes, send_ep, owner)` on the registry map. -/
def register (registry : ServiceName → Option ServiceEntry) (nameBytes : List UInt8)
    (sendEp owner : Nat) : Except Nat (ServiceName → Option ServiceEntry) :=
  let name := padName nameBytes
  if (registry name).isSome then .error svcErrAlreadyRegistered
  else .ok (Function.update registry name (some ⟨sendEp, owner⟩))

/-- `lookup(name_bytes)`. -/
def lookup (registry : ServiceName → Option ServiceEntry) (nameBytes : List UInt8) : Option Nat :=
  (registry (padName nameBytes)).map ServiceEntry.sendEndpointId

/-- `unregister_all_for_task(owner)`: `retain` the entries of other owners. -/
def unregisterAllForTask (registry : ServiceName → Option ServiceEntry) (owner : Nat) :
    ServiceName → Option ServiceEntry :=
  fun name => (registry name).filter fun e => e.ownerTaskId != owner

namespace SvcState

/-- What `validate_user_ptr` reads of the current task: its kind and its `user_vaddr_set`. -/
def user (s : SvcState) (current : Option (TaskKind × Nat)) : Option (TaskKind × VaddrSet) :=
  current.map fun c => (c.1, (s.tasks c.2).userVaddrSet)

def setKernel (s : SvcState) (k : KernelState) : SvcState := { s with kernel := k }

/-- `inner.owned_endpoints.push(..)` for each of `ids`. -/
def pushOwned (s : SvcState) (t : Nat) (ids : List Nat) : SvcState :=
  let inner := s.tasks t
  { s with tasks := Function.update s.tasks t (
      { inner with ownedEndpoints := inner.ownedEndpoints ++ ids }) }

/-- A successful `register`, recorded in the task's `registered_services`. -/
def addService (s : SvcState) (t : Nat) (registry : ServiceName → Option ServiceEntry)
    (name : ServiceName) : SvcState :=
  let inner := s.tasks t
  { s with
    serviceRegistry := registry
    tasks := Function.update s.tasks t (
      { inner with registeredServices := inner.registeredServices ++ [name] }) }

/-- The task's `user_vaddr_set` replaced. -/
def setVaddrSet (s : SvcState) (t : Nat) (vaddrSet : VaddrSet) : SvcState :=
  let inner := s.tasks t
  { s with tasks := Function.update s.tasks t { inner with userVaddrSet := vaddrSet } }

end SvcState

/-- `validate_user_ptr(ptr, size)` for the current task. -/
def validate (current : Option (TaskKind × Nat)) (ptr size : Nat) : Kern SvcState Empty Bool := do
  let s ← Kern.get
  Kern.ofExcept (validateUserPtr (s.user current) ptr size)

/-- An IPC routine on the kernel objects, with its `Result`. -/
def onIpc {α : Type} (k : IpcM α) : Kern SvcState Empty (Except IpcError α) :=
  Kern.zoom SvcState.kernel SvcState.setKernel (Kern.result k)

/-- Track endpoints for cleanup on exit: `inner.owned_endpoints.push(..)` for the current task,
if there is one. -/
def trackEndpoints (current : Option (TaskKind × Nat)) (ids : List Nat) :
    Kern SvcState Empty Unit :=
  match current with
  | some (_, t) => Kern.modify fun s => s.pushOwned t ids
  | none => pure ()

/-- `sys_channel_create(send_ep_out_ptr, recv_ep_out_ptr, capacity)`, with the two ids it
writes out. -/
def sysChannelCreate (current : Option (TaskKind × Nat)) (sendEpOutPtr recvEpOutPtr capacity : Nat) :
    Kern SvcState Empty (Nat × List Nat) := do
  if !(← validate current sendEpOutPtr 8) then pure (ipcErrInvalidArgs, [])
  else if !(← validate current recvEpOutPtr 8) then pure (ipcErrInvalidArgs, [])
  else
    -- `create_channel` cannot fail
    let (sendId, recvId) ← Kern.zoom SvcState.kernel SvcState.setKernel
      (Kern.unwrap (createChannel (clampCapacity capacity)))
    trackEndpoints current [sendId, recvId]
    pure (ipcOk, [sendId, recvId])

/-- `sys_channel_close(endpoint_id)`. -/
def sysChannelClose (endpointId : Nat) : Kern SvcState Empty Nat := do
  match ← onIpc (closeEndpoint endpointId) with
  | .ok () => pure ipcOk
  | .error e => pure (ipcErrorToCode e)

/-- `sys_register_service(name_ptr, name_len, send_ep)`, where `name` is the `name_len` bytes at
`name_ptr`. -/
def sysRegisterService (current : Option (TaskKind × Nat)) (namePtr : Nat) (name : List UInt8)
    (sendEp : Nat) : Kern SvcState Empty Nat := do
  if name.length = 0 ∨ name.length > maxServiceNameLen then pure svcErrInvalidArgs
  else if !(← validate current namePtr name.length) then pure svcErrInvalidArgs
  else
    let s ← Kern.get
    match s.kernel.ipc.registry sendEp, current with
    | some ⟨.send, _⟩, some (_, t) =>
      match register s.serviceRegistry name sendEp t with
      | .ok registry => do
        Kern.modify fun s => s.addService t registry (padName name)
        pure svcOk
      | .error code => pure code
    | _, _ => pure svcErrInvalidArgs

/-- `sys_lookup_service(name_ptr, name_len, ep_out_ptr)`, with the id it writes out. -/
def sysLookupService (current : Option (TaskKind × Nat)) (namePtr : Nat) (name : List UInt8)
    (epOutPtr : Nat) : Kern SvcState Empty (Nat × List Nat) := do
  if name.length = 0 ∨ name.length > maxServiceNameLen then pure (svcErrInvalidArgs, [])
  else if !(← validate current namePtr name.length) then pure (svcErrInvalidArgs, [])
  else if !(← validate current epOutPtr 8) then pure (svcErrInvalidArgs, [])
  else
    let s ← Kern.get
    match lookup s.serviceRegistry name with
    | some id => pure (svcOk, [id])
    | none => pure (svcErrNotFound, [])

/-- Step 2 of `sys_exit`: `for ep in endpoints { let _ = close_endpoint(ep); }`. -/
def closeEndpoints (endpoints : List Nat) : Kern SvcState Empty Unit :=
  endpoints.forM fun ep => do
    let _ ← onIpc (closeEndpoint ep)
    pure ()

/-- Steps 1 to 2b of `sys_exit`: every endpoint of the current task's `owned_endpoints` closed,
errors ignored, then the task's services unregistered. -/
def sysExitCleanup (current : Option (TaskKind × Nat)) : Kern SvcState Empty Unit := do
  let s ← Kern.get
  closeEndpoints ((current.map fun c => (s.tasks c.2).ownedEndpoints).getD [])
  match current with
  | some (_, t) =>
    Kern.modify fun s => { s with serviceRegistry := unregisterAllForTask s.serviceRegistry t }
  | none => pure ()

/-! ## Runs -/

/-- A call of a task. `memory` stands for `sys_mmap` and `sys_munmap`, which change the caller's
`user_vaddr_set` and nothing else here. -/
inductive SvcCall where
  | channelCreate (sendEpOutPtr recvEpOutPtr capacity : Nat)
  | channelClose (endpointId : Nat)
  | registerService (namePtr : Nat) (name : List UInt8) (sendEp : Nat)
  | lookupService (namePtr : Nat) (name : List UInt8) (epOutPtr : Nat)
  | memory (userVaddrSet : VaddrSet)
  | exit

/-- A call and the task in the CPU's `current_task` slot that makes it. -/
structure SvcInput where
  current : Option (TaskKind × Nat)
  call : SvcCall

/-- A call's status code and the values it writes out. `sys_exit` does not return. -/
def SvcInput.exec : SvcInput → Kern SvcState Empty (Nat × List Nat)
  | ⟨current, .channelCreate p q capacity⟩ => sysChannelCreate current p q capacity
  | ⟨_, .channelClose id⟩ => do
    let r ← sysChannelClose id
    pure (r, [])
  | ⟨current, .registerService p name ep⟩ => do
    let r ← sysRegisterService current p name ep
    pure (r, [])
  | ⟨current, .lookupService p name q⟩ => sysLookupService current p name q
  | ⟨current, .memory vaddrSet⟩ => do
    Kern.modify fun s => (current.map fun c => s.setVaddrSet c.2 vaddrSet).getD s
    pure (0, [])
  | ⟨current, .exit⟩ => do
    sysExitCleanup current
    pure (0, [])

/-- The state at boot: no endpoint, `NEXT_ENDPOINT_ID = 1`, no service, and no task owns an
endpoint or has registered a service. -/
def SvcState.boot (sched : Sched) (vaddrSets : Nat → VaddrSet) : SvcState :=
  ⟨⟨IpcState.init, sched⟩, fun _ => none, fun t => ⟨vaddrSets t, [], []⟩⟩

def SvcCall.isCreate : SvcCall → Bool
  | .channelCreate .. => true
  | _ => false

/-- The id of the task that makes the call. -/
def SvcInput.caller (i : SvcInput) : Option Nat := i.current.map Prod.snd

/-- The endpoint ids a call hands out: those `sys_channel_create` writes out. -/
def SvcInput.created (i : SvcInput) (r : Nat × List Nat) : List Nat :=
  if i.call.isCreate then r.2 else []

/-- An entry of a run. -/
abbrev SvcEntry : Type := Kern.Entry SvcState SvcInput Empty (Nat × List Nat)

def SvcEntry.created (e : SvcEntry) : List Nat :=
  match e.result with
  | .ok r => e.input.created r
  | .error x => nomatch x

/-- The endpoint ids handed out over a run. -/
def createdIds (tr : List SvcEntry) : List Nat := tr.flatMap SvcEntry.created

/-- The endpoint ids handed out to task `t` over a run. -/
def createdBy (t : Nat) (tr : List SvcEntry) : List Nat :=
  tr.flatMap fun e => if e.input.caller = some t then e.created else []

/-- The last call task `t` makes. -/
def lastCallOf (t : Nat) (calls : List SvcInput) : Option SvcCall :=
  ((calls.filter fun i => i.caller = some t).getLast?).map SvcInput.call

namespace SvcState

variable (s : SvcState) (t : Nat)

@[simp] theorem setKernel_kernel (k : KernelState) : (s.setKernel k).kernel = k := rfl
@[simp] theorem setKernel_serviceRegistry (k : KernelState) :
    (s.setKernel k).serviceRegistry = s.serviceRegistry := rfl
@[simp] theorem setKernel_tasks (k : KernelState) : (s.setKernel k).tasks = s.tasks := rfl
@[simp] theorem setKernel_self : s.setKernel s.kernel = s := rfl

@[simp] theorem pushOwned_kernel (ids : List Nat) : (s.pushOwned t ids).kernel = s.kernel := rfl
@[simp] theorem pushOwned_serviceRegistry (ids : List Nat) :
    (s.pushOwned t ids).serviceRegistry = s.serviceRegistry := rfl
theorem pushOwned_ownedEndpoints (ids : List Nat) (u : Nat) :
    ((s.pushOwned t ids).tasks u).ownedEndpoints =
      (s.tasks u).ownedEndpoints ++ if u = t then ids else [] := by
  by_cases hu : u = t
  · subst hu
    simp [pushOwned]
  · simp [pushOwned, hu]

@[simp] theorem addService_kernel (registry : ServiceName → Option ServiceEntry) (n : ServiceName) :
    (s.addService t registry n).kernel = s.kernel := rfl
@[simp] theorem addService_serviceRegistry (registry : ServiceName → Option ServiceEntry)
    (n : ServiceName) : (s.addService t registry n).serviceRegistry = registry := rfl
@[simp] theorem addService_ownedEndpoints (registry : ServiceName → Option ServiceEntry)
    (n : ServiceName) (u : Nat) :
    ((s.addService t registry n).tasks u).ownedEndpoints = (s.tasks u).ownedEndpoints := by
  by_cases hu : u = t
  · subst hu
    simp [addService]
  · simp [addService, Function.update_of_ne hu]

@[simp] theorem setVaddrSet_kernel (v : VaddrSet) : (s.setVaddrSet t v).kernel = s.kernel := rfl
@[simp] theorem setVaddrSet_serviceRegistry (v : VaddrSet) :
    (s.setVaddrSet t v).serviceRegistry = s.serviceRegistry := rfl
@[simp] theorem setVaddrSet_ownedEndpoints (v : VaddrSet) (u : Nat) :
    ((s.setVaddrSet t v).tasks u).ownedEndpoints = (s.tasks u).ownedEndpoints := by
  by_cases hu : u = t
  · subst hu
    simp [setVaddrSet]
  · simp [setVaddrSet, Function.update_of_ne hu]

end SvcState

theorem validateUserPtr_true {current : Option (TaskKind × VaddrSet)} {ptr size : Nat}
    (h : validateUserPtr current ptr size = .ok true) : ∃ set, current = some (.user, set) := by
  unfold validateUserPtr at h
  split_ifs at h
  · cases h
  · split at h
    · cases h
    · split_ifs at h
      · cases h
      · split at h
        · exact ⟨_, rfl⟩
        · cases h

theorem validate_ok {current : Option (TaskKind × Nat)} {ptr size : Nat} {s s' : SvcState} {b : Bool}
    (h : validate current ptr size s = .ok b s') :
    s' = s ∧ validateUserPtr (s.user current) ptr size = .ok b := by
  unfold validate at h
  rw [bind_apply, get_apply] at h
  obtain ⟨hv, hs⟩ := ofExcept_ok_iff.mp h
  exact ⟨hs.symm, hv⟩

/-- `close_endpoint` on the kernel objects: the endpoint removed and its side of the channel
closed, or `InvalidEndpoint` with nothing changed. -/
theorem onIpc_closeEndpoint (id : Nat) (s : SvcState) :
    (∃ ep, s.kernel.ipc.registry id = some ep ∧ onIpc (closeEndpoint id) s =
      .ok (.ok ()) (s.setKernel { s.kernel with ipc := s.kernel.ipc.close id ep })) ∨
    (s.kernel.ipc.registry id = none ∧
      onIpc (closeEndpoint id) s = .ok (.error .invalidEndpoint) s) := by
  cases hreg : s.kernel.ipc.registry id with
  | none =>
    refine .inr ⟨rfl, ?_⟩
    simp [onIpc, zoom, result, closeEndpoint, hreg]
  | some ep =>
    refine .inl ⟨ep, rfl, ?_⟩
    obtain ⟨role, c⟩ := ep
    cases role <;> simp [onIpc, zoom, result, closeEndpoint, hreg, setEndpoint, getChannel,
      setChannel, IpcState.close, SvcState.setKernel]

section Calls

variable {current : Option (TaskKind × Nat)} {s s' : SvcState}

/-- A validated pointer belongs to a user task that is current. -/
theorem caller_of_validate {ptr size : Nat} (h : validate current ptr size s = .ok true s') :
    ∃ t, current = some (.user, t) := by
  obtain ⟨-, hv⟩ := validate_ok h
  obtain ⟨set, hset⟩ := validateUserPtr_true hv
  cases current with
  | none => cases hset
  | some c =>
    simp only [SvcState.user, Option.map_some, Option.some.injEq, Prod.mk.injEq] at hset
    exact ⟨c.2, by rw [← hset.1]⟩

/-- A `sys_channel_create` that returns: a pointer that does not validate changes nothing;
otherwise the channel is created, its two ids are the counter's next values, and both go to
the caller's `owned_endpoints`. -/
theorem sysChannelCreate_ok {p q capacity : Nat} {r : Nat × List Nat}
    (h : sysChannelCreate current p q capacity s = .ok r s') :
    (r = (ipcErrInvalidArgs, []) ∧ s' = s) ∨
      ∃ t, current = some (.user, t) ∧ r = (ipcOk, [s.kernel.ipc.nextEndpointId,
        (s.kernel.ipc.nextEndpointId + 1) % 2 ^ 64]) ∧
        s' = (s.setKernel { s.kernel with
          ipc := s.kernel.ipc.create (clampCapacity capacity) }).pushOwned t r.2 := by
  unfold sysChannelCreate at h
  obtain ⟨b₁, s₁, h₁, h⟩ := bind_ok_iff.mp h
  obtain ⟨hs₁, -⟩ := validate_ok h₁
  subst s₁
  cases b₁
  · simp only [Bool.not_false, ite_true] at h
    cases h
    exact .inl ⟨rfl, rfl⟩
  simp only [Bool.not_true, Bool.false_eq_true, ite_false] at h
  obtain ⟨b₂, s₂, h₂, h⟩ := bind_ok_iff.mp h
  obtain ⟨hs₂, -⟩ := validate_ok h₂
  subst s₂
  cases b₂
  · simp only [Bool.not_false, ite_true] at h
    cases h
    exact .inl ⟨rfl, rfl⟩
  simp only [Bool.not_true, Bool.false_eq_true, ite_false] at h
  obtain ⟨t, rfl⟩ := caller_of_validate h₁
  obtain ⟨ids, s₃, h₃, h⟩ := bind_ok_iff.mp h
  obtain ⟨k, hk, rfl⟩ := zoom_ok_iff.mp h₃
  rw [unwrap_ok_iff, createChannel_apply] at hk
  cases hk
  simp only [trackEndpoints, bind_apply, modify_apply, pure_apply] at h
  cases h
  exact .inr ⟨t, rfl, rfl, rfl⟩

/-- A `sys_channel_close` that returns: an unknown id changes nothing, a live one is removed and
its side of the channel closed. -/
theorem sysChannelClose_ok {id r : Nat} (h : sysChannelClose id s = .ok r s') :
    (s.kernel.ipc.registry id = none ∧ r = ipcErrorToCode .invalidEndpoint ∧ s' = s) ∨
      ∃ ep, s.kernel.ipc.registry id = some ep ∧ r = ipcOk ∧
        s' = s.setKernel { s.kernel with ipc := s.kernel.ipc.close id ep } := by
  unfold sysChannelClose at h
  rcases onIpc_closeEndpoint id s with ⟨ep, hreg, hc⟩ | ⟨hreg, hc⟩
  · simp only [bind_apply, hc, pure_apply] at h
    cases h
    exact .inr ⟨ep, hreg, rfl, rfl⟩
  · simp only [bind_apply, hc, pure_apply] at h
    cases h
    exact .inl ⟨hreg, rfl, rfl⟩

/-- A `sys_register_service` that returns: the state is unchanged and the call failed, or the
current task `t` registered the padded name, which was free, for a live `Send` endpoint, and
recorded it in its `registered_services`. -/
theorem sysRegisterService_ok {p ep r : Nat} {name : List UInt8}
    (h : sysRegisterService current p name ep s = .ok r s') :
    (r ≠ svcOk ∧ s' = s) ∨ ∃ t c, current = some (.user, t) ∧
      s.kernel.ipc.registry ep = some ⟨.send, c⟩ ∧ s.serviceRegistry (padName name) = none ∧
      r = svcOk ∧ s' = s.addService t
        (Function.update s.serviceRegistry (padName name) (some ⟨ep, t⟩)) (padName name) := by
  unfold sysRegisterService at h
  split at h
  · cases h
    exact .inl ⟨by decide, rfl⟩
  obtain ⟨b, s₁, h₁, h⟩ := bind_ok_iff.mp h
  obtain ⟨hs₁, -⟩ := validate_ok h₁
  subst s₁
  cases b
  · simp only [Bool.not_false, ite_true] at h
    cases h
    exact .inl ⟨by decide, rfl⟩
  simp only [Bool.not_true, Bool.false_eq_true, ite_false, bind_apply, get_apply] at h
  obtain ⟨t, rfl⟩ := caller_of_validate h₁
  -- only a live `Send` endpoint gets as far as `register`
  rcases hreg : s.kernel.ipc.registry ep with _ | ⟨_ | _, c⟩ <;> simp only [hreg] at h
  · cases h
    exact .inl ⟨by decide, rfl⟩
  · by_cases htaken : (s.serviceRegistry (padName name)).isSome
    · simp only [register, htaken, if_true, pure_apply] at h
      cases h
      exact .inl ⟨by decide, rfl⟩
    · simp only [register, htaken, Bool.false_eq_true, if_false, bind_apply, modify_apply,
        pure_apply] at h
      cases h
      exact .inr ⟨t, c, rfl, rfl, by simpa using htaken, rfl, rfl⟩
  · cases h
    exact .inl ⟨by decide, rfl⟩

/-- `sys_lookup_service` changes nothing, and writes out the id `lookup` finds. -/
theorem sysLookupService_ok {p q : Nat} {name : List UInt8} {r : Nat × List Nat}
    (h : sysLookupService current p name q s = .ok r s') :
    s' = s ∧ (r.2 = [] ∨ ∃ id, lookup s.serviceRegistry name = some id ∧ r = (svcOk, [id])) := by
  unfold sysLookupService at h
  split at h
  · cases h
    exact ⟨rfl, .inl rfl⟩
  obtain ⟨b₁, s₁, h₁, h⟩ := bind_ok_iff.mp h
  obtain ⟨hs₁, -⟩ := validate_ok h₁
  subst s₁
  cases b₁
  · simp only [Bool.not_false, ite_true] at h
    cases h
    exact ⟨rfl, .inl rfl⟩
  simp only [Bool.not_true, Bool.false_eq_true, ite_false] at h
  obtain ⟨b₂, s₂, h₂, h⟩ := bind_ok_iff.mp h
  obtain ⟨hs₂, -⟩ := validate_ok h₂
  subst s₂
  cases b₂
  · simp only [Bool.not_false, ite_true] at h
    cases h
    exact ⟨rfl, .inl rfl⟩
  simp only [Bool.not_true, Bool.false_eq_true, ite_false, bind_apply, get_apply] at h
  cases hl : lookup s.serviceRegistry name with
  | none =>
    simp only [hl, pure_apply] at h
    cases h
    exact ⟨rfl, .inl rfl⟩
  | some id =>
    simp only [hl, pure_apply] at h
    cases h
    exact ⟨rfl, .inr ⟨id, rfl, rfl⟩⟩

end Calls

/-! ## The exit -/

@[simp] theorem IpcState.close_registry (s : IpcState) (id : Nat) (ep : Endpoint) :
    (s.close id ep).registry = Function.update s.registry id none := rfl

@[simp] theorem IpcState.close_nextEndpointId (s : IpcState) (id : Nat) (ep : Endpoint) :
    (s.close id ep).nextEndpointId = s.nextEndpointId := rfl

/-- What closing the endpoints `done` has done: each of them is gone, and every other endpoint is
gone or as it was. -/
structure Closed (s : SvcState) (done : List Nat) (s' : SvcState) : Prop where
  tasks : s'.tasks = s.tasks
  serviceRegistry : s'.serviceRegistry = s.serviceRegistry
  nextEndpointId : s'.kernel.ipc.nextEndpointId = s.kernel.ipc.nextEndpointId
  closed : ∀ id ∈ done, s'.kernel.ipc.registry id = none
  others : ∀ id, s'.kernel.ipc.registry id = none ∨
    s'.kernel.ipc.registry id = s.kernel.ipc.registry id

/-- The loop of `sys_exit` over `owned_endpoints`: `let _ = close_endpoint(ep)` for each. -/
theorem closeEndpoints_ok {endpoints : List Nat} {s s' : SvcState}
    (h : closeEndpoints endpoints s = .ok () s') : Closed s endpoints s' := by
  have hloop := forM_ok_induction _ (Closed s) (fun done ep u u' hc hb => by
      obtain ⟨x, u₁, h₁, h₂⟩ := bind_ok_iff.mp hb
      cases h₂
      -- one `close_endpoint`: the id removed, or nothing changed
      rcases onIpc_closeEndpoint ep u with ⟨e, -, hc'⟩ | ⟨hnone, hc'⟩ <;> rw [hc'] at h₁ <;>
        cases h₁
      · refine ⟨hc.tasks, hc.serviceRegistry, hc.nextEndpointId, fun id hid => ?_,
          fun id => ?_⟩
        · rcases List.mem_append.mp hid with hid | hid
          · by_cases hid' : id = ep
            · simp [hid']
            · simp [Function.update_of_ne hid', hc.closed id hid]
          · simp [List.mem_singleton.mp hid]
        · by_cases hid' : id = ep
          · simp [hid']
          · simpa [Function.update_of_ne hid'] using hc.others id
      · refine ⟨hc.tasks, hc.serviceRegistry, hc.nextEndpointId, fun id hid => ?_, hc.others⟩
        rcases List.mem_append.mp hid with hid | hid
        · exact hc.closed id hid
        · rw [List.mem_singleton.mp hid]
          exact hnone)
    endpoints [] s s' ⟨rfl, rfl, rfl, fun _ h => absurd h List.not_mem_nil, fun _ => .inr rfl⟩ h
  simpa using hloop

/-- The cleanup of `sys_exit`: the loop closes the endpoints the current task owns, and then
its services are unregistered. -/
theorem sysExitCleanup_ok {current : Option (TaskKind × Nat)} {s s' : SvcState}
    (h : sysExitCleanup current s = .ok () s') :
    ∃ s₁, Closed s ((current.map fun c => (s.tasks c.2).ownedEndpoints).getD []) s₁ ∧
      s' = (current.map fun c => { s₁ with
        serviceRegistry := unregisterAllForTask s₁.serviceRegistry c.2 }).getD s₁ := by
  unfold sysExitCleanup at h
  obtain ⟨_, s₀, h₀, h⟩ := bind_ok_iff.mp h
  cases h₀
  obtain ⟨_, s₁, h₁, h⟩ := bind_ok_iff.mp h
  refine ⟨s₁, closeEndpoints_ok h₁, ?_⟩
  cases current with
  | none =>
    cases h
    rfl
  | some c =>
    cases h
    rfl

/-! ## Steps -/

/-- What one call that returns does to what the run invariant reads, where `created` is the
ids it hands out: these are the counter's next two values, the endpoints with other ids are
removed or kept, the caller owns the new ids, a new service belongs to the caller, and only
an exit removes a service, of the exiting task, after closing every endpoint that task owns. -/
structure Step (i : SvcInput) (created : List Nat) (s s' : SvcState) : Prop where
  fresh : created = [] ∧ s'.kernel.ipc.nextEndpointId = s.kernel.ipc.nextEndpointId ∨
    created = [s.kernel.ipc.nextEndpointId, (s.kernel.ipc.nextEndpointId + 1) % 2 ^ 64] ∧
      i.call.isCreate ∧
      s'.kernel.ipc.nextEndpointId = ((s.kernel.ipc.nextEndpointId + 1) % 2 ^ 64 + 1) % 2 ^ 64
  registry : ∀ id, id ∉ created → s'.kernel.ipc.registry id = none ∨
    s'.kernel.ipc.registry id = s.kernel.ipc.registry id
  owned : ∀ t, (s'.tasks t).ownedEndpoints =
    (s.tasks t).ownedEndpoints ++ if i.caller = some t then created else []
  added : ∀ n ent, s'.serviceRegistry n = some ent → s.serviceRegistry n = some ent ∨
    i.caller = some ent.ownerTaskId ∧ s.kernel.ipc.registry ent.sendEndpointId ≠ none
  kept : ∀ n ent, s.serviceRegistry n = some ent →
    s'.serviceRegistry n = some ent ∨ i.call = .exit ∧ i.caller = some ent.ownerTaskId
  exit : i.call = .exit → ∀ t, i.caller = some t →
    (∀ id ∈ (s.tasks t).ownedEndpoints, s'.kernel.ipc.registry id = none) ∧
      ∀ n ent, s'.serviceRegistry n = some ent → ent.ownerTaskId ≠ t

/-- A call other than the exit that changes nothing. -/
theorem Step.refl {i : SvcInput} (hi : i.call ≠ .exit) (s : SvcState) : Step i [] s s :=
  ⟨.inl ⟨rfl, rfl⟩, fun _ _ => .inr rfl, fun _ => by simp, fun _ _ h => .inl h,
    fun _ _ h => .inl h, fun h => absurd h hi⟩

section Exec

variable {current : Option (TaskKind × Nat)} {s s' : SvcState} {r : Nat × List Nat}

theorem step_channelCreate {p q capacity : Nat}
    (h : SvcInput.exec ⟨current, .channelCreate p q capacity⟩ s = .ok r s') :
    Step ⟨current, .channelCreate p q capacity⟩ r.2 s s' := by
  rcases sysChannelCreate_ok h with ⟨rfl, rfl⟩ | ⟨t, rfl, rfl, rfl⟩
  · exact Step.refl (by intro h; cases h) _
  -- the two new ids are the only endpoints that change
  refine ⟨.inr ⟨rfl, rfl, rfl⟩, fun id hid => .inr ?_, fun u => ?_, fun _ _ h => .inl h,
    fun _ _ h => .inl h, fun h => by cases h⟩
  · simp only [List.mem_cons, List.not_mem_nil, or_false, not_or] at hid
    simp only [SvcState.pushOwned_kernel, SvcState.setKernel_kernel, IpcState.create]
    rw [Function.update_of_ne hid.2, Function.update_of_ne hid.1]
  · rw [SvcState.pushOwned_ownedEndpoints]
    by_cases hu : u = t
    · simp [SvcInput.caller, hu]
    · simp [SvcInput.caller, hu, Ne.symm hu]

theorem step_channelClose {id : Nat}
    (h : SvcInput.exec ⟨current, .channelClose id⟩ s = .ok r s') :
    Step ⟨current, .channelClose id⟩ [] s s' := by
  obtain ⟨r', s₁, h₁, h⟩ := bind_ok_iff.mp h
  cases h
  rcases sysChannelClose_ok h₁ with ⟨-, -, rfl⟩ | ⟨ep, -, -, rfl⟩
  · exact Step.refl (by intro h; cases h) _
  refine ⟨.inl ⟨rfl, rfl⟩, fun id' _ => ?_, fun u => by simp, fun _ _ h => .inl h,
    fun _ _ h => .inl h, fun h => by cases h⟩
  by_cases hid : id' = id
  · simp [hid]
  · simp [Function.update_of_ne hid]

theorem step_registerService {p ep : Nat} {name : List UInt8}
    (h : SvcInput.exec ⟨current, .registerService p name ep⟩ s = .ok r s') :
    Step ⟨current, .registerService p name ep⟩ [] s s' := by
  obtain ⟨r', s₁, h₁, h⟩ := bind_ok_iff.mp h
  cases h
  rcases sysRegisterService_ok h₁ with ⟨-, rfl⟩ | ⟨t, c, rfl, hep, hfree, -, rfl⟩
  · exact Step.refl (by intro h; cases h) _
  -- the one new entry is the caller's, at a name that was free
  refine ⟨.inl ⟨rfl, rfl⟩, fun _ _ => .inr rfl, fun u => by simp, fun n ent hn => ?_,
    fun n ent hn => .inl ?_, fun h => by cases h⟩
  · by_cases hname : n = padName name
    · subst hname
      simp only [SvcState.addService_serviceRegistry, Function.update_self,
        Option.some.injEq] at hn
      rw [← hn]
      exact .inr ⟨rfl, by simp [hep]⟩
    · simp only [SvcState.addService_serviceRegistry, Function.update_of_ne hname] at hn
      exact .inl hn
  · have hname : n ≠ padName name := fun he => by rw [he, hfree] at hn; cases hn
    simpa [Function.update_of_ne hname] using hn

theorem step_lookupService {p q : Nat} {name : List UInt8}
    (h : SvcInput.exec ⟨current, .lookupService p name q⟩ s = .ok r s') :
    Step ⟨current, .lookupService p name q⟩ [] s s' := by
  obtain ⟨rfl, -⟩ := sysLookupService_ok h
  exact Step.refl (by intro h; cases h) _

theorem step_memory {v : VaddrSet} (h : SvcInput.exec ⟨current, .memory v⟩ s = .ok r s') :
    Step ⟨current, .memory v⟩ [] s s' := by
  simp only [SvcInput.exec, bind_apply, modify_apply, pure_apply] at h
  cases h
  cases current with
  | none => exact Step.refl (by intro h; cases h) _
  | some c =>
    exact ⟨.inl ⟨rfl, rfl⟩, fun _ _ => .inr rfl, fun u => by simp, fun _ _ h => .inl h,
      fun _ _ h => .inl h, fun h => by cases h⟩

theorem step_exit (h : SvcInput.exec ⟨current, .exit⟩ s = .ok r s') :
    Step ⟨current, .exit⟩ [] s s' := by
  obtain ⟨_, s₂, h₂, h⟩ := bind_ok_iff.mp h
  cases h
  obtain ⟨s₁, hc, hs'⟩ := sysExitCleanup_ok h₂
  cases current with
  | none =>
    simp only [Option.map_none, Option.getD_none] at hc hs'
    subst hs'
    exact ⟨.inl ⟨rfl, hc.nextEndpointId⟩, fun id _ => hc.others id, fun u => by simp [hc.tasks],
      fun n ent hn => .inl (by rwa [← hc.serviceRegistry]),
      fun n ent hn => .inl (by rwa [hc.serviceRegistry]), fun _ t ht => by cases ht⟩
  | some c =>
    simp only [Option.map_some, Option.getD_some] at hc hs'
    subst hs'
    -- the services of the exiting task go, the others stay
    refine ⟨.inl ⟨rfl, hc.nextEndpointId⟩, fun id _ => hc.others id, fun u => by simp [hc.tasks],
      fun n ent hn => .inl ?_, fun n ent hn => ?_, fun _ t ht => ?_⟩
    · simp only [unregisterAllForTask, hc.serviceRegistry] at hn
      exact Option.eq_some_of_filter_eq_some hn
    · by_cases ho : ent.ownerTaskId = c.2
      · exact .inr ⟨rfl, by simp [SvcInput.caller, ho]⟩
      · left
        simp [unregisterAllForTask, hc.serviceRegistry, hn, ho]
    · cases ht
      refine ⟨hc.closed, fun n ent hn => ?_⟩
      simp only [unregisterAllForTask] at hn
      simpa using (Option.mem_filter_iff.mp hn).2

end Exec

/-- Every call that returns is a `Step`. -/
theorem SvcInput.exec_step {i : SvcInput} {s s' : SvcState} {r : Nat × List Nat}
    (h : i.exec s = .ok r s') : Step i (i.created r) s s' := by
  obtain ⟨current, call⟩ := i
  cases call with
  | channelCreate => exact step_channelCreate h
  | channelClose => exact step_channelClose h
  | registerService => exact step_registerService h
  | lookupService => exact step_lookupService h
  | memory => exact step_memory h
  | exit => exact step_exit h

/-! ## The run invariant -/

@[simp] theorem createdIds_append_singleton (tr : List SvcEntry) (e : SvcEntry) :
    createdIds (tr ++ [e]) = createdIds tr ++ e.created := by
  simp [createdIds]

@[simp] theorem createdBy_append_singleton (t : Nat) (tr : List SvcEntry) (e : SvcEntry) :
    createdBy t (tr ++ [e]) =
      createdBy t tr ++ if e.input.caller = some t then e.created else [] := by
  simp [createdBy]

theorem mem_createdIds_of_mem_createdBy {t id : Nat} {tr : List SvcEntry}
    (h : id ∈ createdBy t tr) : id ∈ createdIds tr := by
  simp only [createdBy, List.mem_flatMap] at h
  obtain ⟨e, he, hid⟩ := h
  split_ifs at hid
  · exact List.mem_flatMap.mpr ⟨e, he, hid⟩
  · cases hid

theorem lastCallOf_append_singleton (t : Nat) (calls : List SvcInput) (i : SvcInput) :
    lastCallOf t (calls ++ [i]) = if i.caller = some t then some i.call else lastCallOf t calls := by
  by_cases h : i.caller = some t <;> simp [lastCallOf, h, List.filter_append]

/-- What holds of a run from boot and its state, as long as the counter has not wrapped: the
counter is past every id handed out, a live endpoint and an endpoint a service names were
handed out, every task owns the ids it was handed, and a task whose last call is the exit has
no endpoint left and no service. -/
structure Tracked (tr : List SvcEntry) (s : SvcState) : Prop where
  next : s.kernel.ipc.nextEndpointId = 1 + (createdIds tr).length
  count : (createdIds tr).length ≤ 2 * (tr.map Entry.input).countP (·.call.isCreate)
  fresh : ∀ id ∈ createdIds tr, id < s.kernel.ipc.nextEndpointId
  live : ∀ id, s.kernel.ipc.registry id ≠ none → id ∈ createdIds tr
  named : ∀ n ent, s.serviceRegistry n = some ent → ent.sendEndpointId ∈ createdIds tr
  owned : ∀ t, ∀ id ∈ createdBy t tr, id ∈ (s.tasks t).ownedEndpoints
  released : ∀ t, lastCallOf t (tr.map Entry.input) = some .exit →
    (∀ id ∈ createdBy t tr, s.kernel.ipc.registry id = none) ∧
      ∀ n ent, s.serviceRegistry n = some ent → ent.ownerTaskId ≠ t

theorem tracked_boot (sched : Sched) (vaddrSets : Nat → VaddrSet) :
    Tracked [] (SvcState.boot sched vaddrSets) where
  next := rfl
  count := le_refl _
  fresh _ h := absurd h List.not_mem_nil
  live _ h := absurd rfl h
  named _ _ h := by cases h
  owned _ _ h := absurd h List.not_mem_nil
  released _ h := by cases h

/-- The counter after an entry that keeps below `2^64`: it moves past the ids the entry hands
out, which lie above every earlier id. -/
theorem Tracked.counter {tr : List SvcEntry} {e : SvcEntry} (h : Tracked tr e.pre)
    (hs : Step e.input e.created e.pre e.post)
    (hbound : 2 * ((tr ++ [e]).map Entry.input).countP (·.call.isCreate) + 1 < 2 ^ 64) :
    e.post.kernel.ipc.nextEndpointId = 1 + (createdIds (tr ++ [e])).length ∧
      (createdIds (tr ++ [e])).length ≤
        2 * ((tr ++ [e]).map Entry.input).countP (·.call.isCreate) ∧
      e.pre.kernel.ipc.nextEndpointId ≤ e.post.kernel.ipc.nextEndpointId ∧
      ∀ id ∈ e.created, e.pre.kernel.ipc.nextEndpointId ≤ id ∧
        id < e.post.kernel.ipc.nextEndpointId := by
  have hnext := h.next
  have hcnt := h.count
  rcases hs.fresh with ⟨hc, hn⟩ | ⟨hc, hcr, hn⟩
  · rw [createdIds_append_singleton, hc, List.append_nil, hn, hnext]
    refine ⟨rfl, ?_, le_refl _, fun _ h => absurd h List.not_mem_nil⟩
    simp only [List.map_append, List.countP_append]
    omega
  · -- a create: the counter stays below `2^64`, so the two ids are `next` and `next + 1`
    have hc' : ((tr ++ [e]).map Entry.input).countP (·.call.isCreate) =
        (tr.map Entry.input).countP (·.call.isCreate) + 1 := by
      simp [List.countP_append, hcr]
    rw [hc'] at hbound
    have h₁ : (e.pre.kernel.ipc.nextEndpointId + 1) % 2 ^ 64 =
        e.pre.kernel.ipc.nextEndpointId + 1 := Nat.mod_eq_of_lt (by omega)
    have h₂ : (e.pre.kernel.ipc.nextEndpointId + 1 + 1) % 2 ^ 64 =
        e.pre.kernel.ipc.nextEndpointId + 2 := Nat.mod_eq_of_lt (by omega)
    rw [h₁, h₂] at hn
    rw [h₁] at hc
    rw [createdIds_append_singleton, hc, hn, hc']
    simp only [List.length_append, List.length_cons, List.length_nil, List.mem_cons,
      List.not_mem_nil, or_false]
    refine ⟨by omega, by omega, by omega, ?_⟩
    rintro id (rfl | rfl) <;> omega

/-- An endpoint that is gone stays gone: the entry hands out only ids above every earlier one. -/
theorem Tracked.closed_stays {tr : List SvcEntry} {e : SvcEntry} (h : Tracked tr e.pre)
    (hs : Step e.input e.created e.pre e.post)
    (hbound : 2 * ((tr ++ [e]).map Entry.input).countP (·.call.isCreate) + 1 < 2 ^ 64)
    {id : Nat} (hid : id ∈ createdIds tr) (hnone : e.pre.kernel.ipc.registry id = none) :
    e.post.kernel.ipc.registry id = none := by
  have hnot : id ∉ e.created := fun hid' =>
    absurd (h.fresh id hid) (Nat.not_lt.mpr ((h.counter hs hbound).2.2.2 id hid').1)
  rcases hs.registry id hnot with h' | h'
  · exact h'
  · rw [h', hnone]

/-- One entry keeps the run invariant. -/
theorem Tracked.step {tr : List SvcEntry} {e : SvcEntry} (h : Tracked tr e.pre)
    (hs : Step e.input e.created e.pre e.post)
    (hbound : 2 * ((tr ++ [e]).map Entry.input).countP (·.call.isCreate) + 1 < 2 ^ 64) :
    Tracked (tr ++ [e]) e.post := by
  obtain ⟨hnext, hcount, hle, hnew⟩ := h.counter hs hbound
  -- an endpoint that is live after the entry was live before, or is new
  have hlive : ∀ id, e.post.kernel.ipc.registry id ≠ none → id ∈ createdIds (tr ++ [e]) := by
    intro id hid
    rw [createdIds_append_singleton, List.mem_append]
    by_cases hc : id ∈ e.created
    · exact .inr hc
    · rcases hs.registry id hc with h' | h'
      · exact absurd h' hid
      · exact .inl (h.live id (h' ▸ hid))
  refine ⟨hnext, hcount, fun id hid => ?_, hlive, fun n ent hn => ?_, fun t id hid => ?_,
    fun t hlast => ?_⟩
  · rcases List.mem_append.mp (by simpa using hid) with hid | hid
    · exact lt_of_lt_of_le (h.fresh id hid) hle
    · exact (hnew id hid).2
  · rw [createdIds_append_singleton]
    rcases hs.added n ent hn with hn' | ⟨-, hl⟩
    · exact List.mem_append_left _ (h.named n ent hn')
    · exact List.mem_append_left _ (h.live _ hl)
  · rw [hs.owned t]
    rw [createdBy_append_singleton] at hid
    rcases List.mem_append.mp hid with hid | hid
    · exact List.mem_append_left _ (h.owned t id hid)
    · exact List.mem_append_right _ hid
  · rw [List.map_append, List.map_singleton, lastCallOf_append_singleton] at hlast
    by_cases hc : e.input.caller = some t
    · -- the entry is `t`'s exit: it closes what `t` owns and drops `t`'s services
      rw [if_pos hc, Option.some.injEq] at hlast
      obtain ⟨hclosed, hsvc⟩ := hs.exit hlast t hc
      have hnil : e.created = [] := by
        rcases hs.fresh with ⟨hnil, -⟩ | ⟨-, hcr, -⟩
        · exact hnil
        · rw [hlast] at hcr
          cases hcr
      refine ⟨fun id hid => hclosed id (h.owned t id ?_), hsvc⟩
      simpa [hnil] using hid
    · -- another task's call: it neither revives `t`'s endpoints nor gives `t` a service
      rw [if_neg hc] at hlast
      obtain ⟨hclosed, hsvc⟩ := h.released t hlast
      refine ⟨fun id hid => ?_, fun n ent hn => ?_⟩
      · rw [createdBy_append_singleton, if_neg hc, List.append_nil] at hid
        exact h.closed_stays hs hbound (mem_createdIds_of_mem_createdBy hid) (hclosed id hid)
      · rcases hs.added n ent hn with hn' | ⟨ho, -⟩
        · exact hsvc n ent hn'
        · rintro rfl
          exact hc ho

/-- An entry of a call that returned is a `Step`. -/
theorem SvcEntry.step {e : SvcEntry} (h : e.input.exec e.pre = e.outcome) :
    Step e.input e.created e.pre e.post := by
  obtain ⟨pre, input, result, post⟩ := e
  cases result with
  | ok r => exact SvcInput.exec_step h
  | error x => exact nomatch x

theorem countP_le_append_singleton (tr : List SvcEntry) (e : SvcEntry) :
    (tr.map Entry.input).countP (·.call.isCreate) ≤
      ((tr ++ [e]).map Entry.input).countP (·.call.isCreate) := by
  simp [List.countP_append]

/-- The invariant over a run, from a state that has it, while the run's creates keep the counter
below `2^64`. -/
theorem Tracked.run {tr₀ : List SvcEntry} {s₀ s : SvcState} (h₀ : Tracked tr₀ s₀)
    (calls : List SvcInput)
    (hbound : 2 * (tr₀.map Entry.input ++ calls).countP (·.call.isCreate) + 1 < 2 ^ 64)
    (hrun : (runList SvcInput.exec s₀ calls).2 = some s) :
    Tracked (tr₀ ++ (runList SvcInput.exec s₀ calls).1) s := by
  have hinv := runList_induction SvcInput.exec
    (fun tr s => 2 * (tr.map Entry.input).countP (·.call.isCreate) + 1 < 2 ^ 64 → Tracked tr s)
    (fun tr e hP hop hb => (hP (by have := countP_le_append_singleton tr e; omega)).step
      (SvcEntry.step hop) hb)
    calls s₀ s tr₀ (fun _ => h₀) hrun
  refine hinv ?_
  rw [List.map_append, runList_inputs _ calls s₀ s hrun]
  exact hbound

/-- Every run from boot keeps the invariant while it makes fewer than `2^63` calls of
`sys_channel_create`. -/
theorem tracked_run (sched : Sched) (vaddrSets : Nat → VaddrSet) (calls : List SvcInput)
    {s : SvcState} (hbound : 2 * calls.countP (·.call.isCreate) + 1 < 2 ^ 64)
    (hrun : (runList SvcInput.exec (SvcState.boot sched vaddrSets) calls).2 = some s) :
    Tracked (runList SvcInput.exec (SvcState.boot sched vaddrSets) calls).1 s := by
  simpa using (tracked_boot sched vaddrSets).run calls (by simpa using hbound) hrun

/-- Exit releases a task's IPC objects: in every run from boot with fewer than `2^63` calls of
`sys_channel_create`, once a task's last call is `sys_exit`, none of the endpoints
`sys_channel_create` handed it is left in `ENDPOINT_REGISTRY`, and no service is registered
under its id. -/
theorem exit_releases_endpoints_and_services (sched : Sched) (vaddrSets : Nat → VaddrSet)
    (calls : List SvcInput) {s : SvcState}
    (hbound : 2 * calls.countP (·.call.isCreate) + 1 < 2 ^ 64)
    (hrun : (runList SvcInput.exec (SvcState.boot sched vaddrSets) calls).2 = some s)
    {t : Nat} (hlast : lastCallOf t calls = some .exit) :
    (∀ id ∈ createdBy t (runList SvcInput.exec (SvcState.boot sched vaddrSets) calls).1,
      s.kernel.ipc.registry id = none) ∧
      ∀ n ent, s.serviceRegistry n = some ent → ent.ownerTaskId ≠ t := by
  have h := tracked_run sched vaddrSets calls hbound hrun
  exact h.released t (by rw [runList_inputs _ calls _ s hrun]; exact hlast)

/-- Every task's `user_vaddr_set` holds `[0x10000, 0x20000)`. -/
def sampleVaddrSets : Nat → VaddrSet :=
  fun _ => ⟨[(⟨0x10000, 0x1FFFF, by decide⟩, ())], List.pairwise_singleton _ _⟩

/-- Task 1 creates a channel and registers its send endpoint as the service "ab". -/
def registerRun : List SvcInput :=
  [⟨some (.user, 1), .channelCreate 0x10000 0x10008 0⟩,
    ⟨some (.user, 1), .registerService 0x10010 [0x61, 0x62] 1⟩]

theorem exit_releases_endpoints_and_services_sample :
    ∃ s, (runList SvcInput.exec (SvcState.boot Sched.init sampleVaddrSets)
        (registerRun ++ [⟨some (.user, 1), .exit⟩])).2 = some s ∧
      s.kernel.ipc.registry 1 = none ∧ s.kernel.ipc.registry 2 = none ∧
      ∀ n ent, s.serviceRegistry n = some ent → ent.ownerTaskId ≠ 1 := by
  obtain ⟨s, hs⟩ := Option.isSome_iff_exists.mp (by decide +kernel :
    (runList SvcInput.exec (SvcState.boot Sched.init sampleVaddrSets)
      (registerRun ++ [⟨some (.user, 1), .exit⟩])).2.isSome)
  obtain ⟨hclosed, hsvc⟩ := exit_releases_endpoints_and_services Sched.init sampleVaddrSets _
    (by decide) hs (t := 1) rfl
  exact ⟨s, hs, hclosed 1 (by decide +kernel), hclosed 2 (by decide +kernel), hsvc⟩

theorem trySend_of_closed {id : Nat} {data : List UInt8} {k : KernelState}
    (h : k.ipc.registry id = none) (hd : data.length ≤ maxMessageSize) :
    trySend id data k = .err .invalidEndpoint k := by
  simp [trySend, channelOf, h, Nat.not_lt.mpr hd]

/-- A service names its endpoint until its owner exits, even once the endpoint is closed: from a
state of a run from boot where the service's endpoint is gone, in every continuation in which
the owner does not exit (and the run makes fewer than `2^63` calls of `sys_channel_create`), the
name still resolves to that endpoint, the endpoint never comes back, and every `try_send` on it
fails with `InvalidEndpoint`. -/
theorem service_outlives_endpoint (sched : Sched) (vaddrSets : Nat → VaddrSet)
    (pre post : List SvcInput) {s₁ s : SvcState}
    (hbound : 2 * (pre ++ post).countP (·.call.isCreate) + 1 < 2 ^ 64)
    (h₁ : (runList SvcInput.exec (SvcState.boot sched vaddrSets) pre).2 = some s₁)
    (h : (runList SvcInput.exec s₁ post).2 = some s) {name : ServiceName} {ent : ServiceEntry}
    (hreg : s₁.serviceRegistry name = some ent)
    (hclosed : s₁.kernel.ipc.registry ent.sendEndpointId = none)
    (hexit : ∀ i ∈ post, i.call = .exit → i.caller ≠ some ent.ownerTaskId) :
    s.serviceRegistry name = some ent ∧ s.kernel.ipc.registry ent.sendEndpointId = none ∧
      ∀ data, data.length ≤ maxMessageSize →
        trySend ent.sendEndpointId data s.kernel = .err .invalidEndpoint s.kernel := by
  set tr₁ := (runList SvcInput.exec (SvcState.boot sched vaddrSets) pre).1
  have hin₁ : tr₁.map Entry.input = pre := runList_inputs _ pre _ s₁ h₁
  have ht₁ : Tracked tr₁ s₁ := tracked_run sched vaddrSets pre
    (by rw [List.countP_append] at hbound; omega) h₁
  -- over the continuation: the invariant, and while the owner has not exited, the entry and
  -- the endpoint being gone
  have hinv := runList_induction SvcInput.exec
    (fun tr u => 2 * ((tr₁ ++ tr).map Entry.input).countP (·.call.isCreate) + 1 < 2 ^ 64 →
      Tracked (tr₁ ++ tr) u ∧
        ((∀ e ∈ tr, e.input.call = .exit → e.input.caller ≠ some ent.ownerTaskId) →
          u.serviceRegistry name = some ent ∧ u.kernel.ipc.registry ent.sendEndpointId = none))
    (fun tr e hP hop hb => by
      rw [← List.append_assoc] at hb
      obtain ⟨ht, hfacts⟩ := hP (by have := countP_le_append_singleton (tr₁ ++ tr) e; omega)
      have hs := SvcEntry.step hop
      refine ⟨by rw [← List.append_assoc]; exact ht.step hs hb, fun hno => ?_⟩
      obtain ⟨hn, hnone⟩ := hfacts fun e' he' => hno e' (List.mem_append_left _ he')
      refine ⟨?_, ht.closed_stays hs hb (ht.named name ent hn) hnone⟩
      rcases hs.kept name ent hn with hn' | ⟨hx, ho⟩
      · exact hn'
      · exact absurd ho (hno e (List.mem_append_right _ (List.mem_singleton_self e)) hx))
    post s₁ s [] (fun _ => ⟨by simpa using ht₁, fun _ => ⟨hreg, hclosed⟩⟩) h
  have hin : (runList SvcInput.exec s₁ post).1.map Entry.input = post := runList_inputs _ post _ s h
  obtain ⟨-, hfacts⟩ := hinv (by rw [List.nil_append, List.map_append, hin₁, hin]; exact hbound)
  obtain ⟨hn, hnone⟩ := hfacts fun e he hx =>
    hexit e.input (by rw [← hin]; exact List.mem_map_of_mem (by simpa using he)) hx
  exact ⟨hn, hnone, fun data hd => trySend_of_closed hnone hd⟩

/-- `registerRun`, then task 1 closes endpoint 1, the endpoint of its service "ab". -/
def closeRun : List SvcInput := registerRun ++ [⟨some (.user, 1), .channelClose 1⟩]

theorem service_outlives_endpoint_sample :
    ∃ s₁ s, (runList SvcInput.exec (SvcState.boot Sched.init sampleVaddrSets) closeRun).2 =
        some s₁ ∧
      (runList SvcInput.exec s₁ [⟨some (.user, 2), .lookupService 0x10010 [0x61, 0x62] 0x10018⟩]).2 =
        some s ∧
      s.serviceRegistry (padName [0x61, 0x62]) = some ⟨1, 1⟩ ∧ s.kernel.ipc.registry 1 = none := by
  obtain ⟨s₁, hs₁⟩ := Option.isSome_iff_exists.mp (by decide +kernel :
    (runList SvcInput.exec (SvcState.boot Sched.init sampleVaddrSets) closeRun).2.isSome)
  -- the state after `closeRun`, read through the run
  have hpost : ((runList SvcInput.exec (SvcState.boot Sched.init sampleVaddrSets) closeRun).2.bind
      fun s₁ => (runList SvcInput.exec s₁
        [⟨some (.user, 2), .lookupService 0x10010 [0x61, 0x62] 0x10018⟩]).2).isSome := by
    decide +kernel
  have hfacts : (runList SvcInput.exec (SvcState.boot Sched.init sampleVaddrSets) closeRun).2.map
      (fun s₁ => (s₁.serviceRegistry (padName [0x61, 0x62]), s₁.kernel.ipc.registry 1)) =
        some (some ⟨1, 1⟩, none) := by
    decide +kernel
  rw [hs₁, Option.bind_some] at hpost
  rw [hs₁, Option.map_some, Option.some.injEq, Prod.mk.injEq] at hfacts
  obtain ⟨s, hs⟩ := Option.isSome_iff_exists.mp hpost
  obtain ⟨hn, hnone, -⟩ := service_outlives_endpoint Sched.init sampleVaddrSets _ _ (by decide)
    hs₁ hs hfacts.1 hfacts.2 (by simp)
  exact ⟨s₁, s, hs₁, hs, hn, hnone⟩

/-! ## Names -/

/-- One call from a state in which a padded name is taken: a registration of that name does not
return `SVC_OK`, and a lookup of it writes out the entry's endpoint or nothing. -/
theorem SvcInput.exec_of_taken {i : SvcInput} {u u' : SvcState} {r : Nat × List Nat}
    {name : ServiceName} {ent : ServiceEntry} (hn : u.serviceRegistry name = some ent)
    (h : i.exec u = .ok r u') :
    (∀ p name' ep, i.call = .registerService p name' ep → padName name' = name →
        r ≠ (svcOk, [])) ∧
      ∀ p name' q, i.call = .lookupService p name' q → padName name' = name →
        r.2 = [] ∨ r = (svcOk, [ent.sendEndpointId]) := by
  obtain ⟨current, call⟩ := i
  cases call with
  | registerService p name' ep =>
    refine ⟨fun _ _ _ hc hpad => ?_, fun _ _ _ hc => (by cases hc)⟩
    cases hc
    obtain ⟨r', u₁, h₁, h₂⟩ := bind_ok_iff.mp h
    cases h₂
    -- a registration that returns `SVC_OK` found the padded name free
    rcases sysRegisterService_ok h₁ with ⟨hr, -⟩ | ⟨t, c, -, -, hfree, -, -⟩
    · exact fun heq => hr (Prod.mk.inj heq).1
    · rw [hpad, hn] at hfree
      cases hfree
  | lookupService p name' q =>
    refine ⟨fun _ _ _ hc => (by cases hc), fun _ _ _ hc hpad => ?_⟩
    cases hc
    rcases (sysLookupService_ok h).2 with hr | ⟨id, hid, rfl⟩
    · exact .inl hr
    · simp only [lookup, hpad, hn, Option.map_some, Option.some.injEq] at hid
      rw [hid]
      exact .inr rfl
  | channelCreate | channelClose | memory | exit =>
    exact ⟨fun _ _ _ hc => (by cases hc), fun _ _ _ hc => (by cases hc)⟩

/-- First come, first served: once `sys_register_service` has registered a name for task `t`, in
every continuation in which `t` does not exit, no registration of that name returns `SVC_OK`,
whatever zero bytes it carries at the end, and every `sys_lookup_service` of it that writes out
an id writes out `t`'s endpoint. -/
theorem service_name_held_until_exit {current : Option (TaskKind × Nat)} {p ep : Nat}
    {name : List UInt8} {s₁ s₂ s : SvcState}
    (hreg : sysRegisterService current p name ep s₁ = .ok svcOk s₂) (calls : List SvcInput)
    (hexit : ∀ i ∈ calls, i.call = .exit → i.caller ≠ current.map Prod.snd)
    (hrun : (runList SvcInput.exec s₂ calls).2 = some s) :
    ∀ e ∈ (runList SvcInput.exec s₂ calls).1,
      (∀ p' name' ep', e.input.call = .registerService p' name' ep' →
        padName name' = padName name → e.result ≠ .ok (svcOk, [])) ∧
      ∀ p' name' q, e.input.call = .lookupService p' name' q → padName name' = padName name →
        ∀ r, e.result = .ok r → r.2 = [] ∨ r = (svcOk, [ep]) := by
  obtain ⟨t, hcur, hheld⟩ : ∃ t, current.map Prod.snd = some t ∧
      s₂.serviceRegistry (padName name) = some ⟨ep, t⟩ := by
    rcases sysRegisterService_ok hreg with ⟨hr, -⟩ | ⟨t, c, rfl, -, -, -, rfl⟩
    · exact absurd rfl hr
    · exact ⟨t, rfl, by simp⟩
  -- the entry stays while `t` does not exit (`Step.kept`), and each call sees it
  have hinv := runList_induction_of_forall SvcInput.exec
    (fun i => i.call = .exit → i.caller ≠ some t)
    (fun tr u => u.serviceRegistry (padName name) = some ⟨ep, t⟩ ∧ ∀ e ∈ tr,
      (∀ p' name' ep', e.input.call = .registerService p' name' ep' →
        padName name' = padName name → e.result ≠ .ok (svcOk, [])) ∧
      ∀ p' name' q, e.input.call = .lookupService p' name' q → padName name' = padName name →
        ∀ r, e.result = .ok r → r.2 = [] ∨ r = (svcOk, [ep]))
    (fun tr e ⟨hn, htr⟩ hno hop => by
      obtain ⟨r, hr, hout⟩ := Entry.exists_ok_of_empty e
      have hs := SvcEntry.step hop
      rw [hout] at hop
      obtain ⟨hregs, hlooks⟩ := SvcInput.exec_of_taken hn hop
      refine ⟨?_, fun e' he' => ?_⟩
      · rcases hs.kept _ _ hn with hn' | ⟨hx, ho⟩
        · exact hn'
        · exact absurd ho (hno hx)
      · rcases List.mem_append.mp he' with he' | he'
        · exact htr e' he'
        · rw [List.mem_singleton.mp he', hr]
          refine ⟨fun p' name' ep' hc hpad heq => hregs p' name' ep' hc hpad ?_,
            fun p' name' q hc hpad r' heq => ?_⟩
          · exact Except.ok.inj heq
          · cases heq
            exact hlooks p' name' q hc hpad)
    calls s₂ s [] (fun i hi hx => by rw [← hcur]; exact hexit i hi hx)
    ⟨hheld, fun _ h => absurd h List.not_mem_nil⟩ hrun
  simpa using hinv.2

/-- Task 1 registers "ab"; task 2 then creates a channel, tries to register "ab" with a zero byte
after it, and looks "ab" up. -/
def heldRun : List SvcInput :=
  [⟨some (.user, 2), .channelCreate 0x10000 0x10008 0⟩,
    ⟨some (.user, 2), .registerService 0x10010 [0x61, 0x62, 0] 3⟩,
    ⟨some (.user, 2), .lookupService 0x10010 [0x61, 0x62] 0x10018⟩]

theorem service_name_held_until_exit_sample :
    ∃ s₁ s₂ s, (runList SvcInput.exec (SvcState.boot Sched.init sampleVaddrSets)
        [⟨some (.user, 1), .channelCreate 0x10000 0x10008 0⟩]).2 = some s₁ ∧
      sysRegisterService (some (.user, 1)) 0x10010 [0x61, 0x62] 1 s₁ = .ok svcOk s₂ ∧
      (runList SvcInput.exec s₂ heldRun).2 = some s ∧
      ∀ e ∈ (runList SvcInput.exec s₂ heldRun).1,
        (∀ p' name' ep', e.input.call = .registerService p' name' ep' →
          padName name' = padName [0x61, 0x62] → e.result ≠ .ok (svcOk, [])) ∧
        ∀ p' name' q, e.input.call = .lookupService p' name' q →
          padName name' = padName [0x61, 0x62] →
          ∀ r, e.result = .ok r → r.2 = [] ∨ r = (svcOk, [1]) := by
  obtain ⟨s₁, hs₁⟩ := Option.isSome_iff_exists.mp (by decide +kernel :
    (runList SvcInput.exec (SvcState.boot Sched.init sampleVaddrSets)
      [⟨some (.user, 1), .channelCreate 0x10000 0x10008 0⟩]).2.isSome)
  -- the registration and the run after it, read through the first run
  have hreg : ((runList SvcInput.exec (SvcState.boot Sched.init sampleVaddrSets)
      [⟨some (.user, 1), .channelCreate 0x10000 0x10008 0⟩]).2.map fun s₁ =>
        (sysRegisterService (some (.user, 1)) 0x10010 [0x61, 0x62] 1 s₁).okAnd
          fun r s₂ => decide (r = svcOk ∧ (runList SvcInput.exec s₂ heldRun).2.isSome = true)) =
        some true := by
    decide +kernel
  rw [hs₁, Option.map_some, Option.some.injEq] at hreg
  obtain ⟨r, s₂, h, rfl, hsome⟩ := Outcome.exists_of_okAnd hreg
  obtain ⟨s, hs⟩ := Option.isSome_iff_exists.mp hsome
  exact ⟨s₁, s₂, s, hs₁, h, hs, service_name_held_until_exit h heldRun (by simp [heldRun]) hs⟩

end Service

end Bos
