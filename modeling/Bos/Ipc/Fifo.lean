import Bos.Ipc.Channel
import Bos.Lib.BoundedFifo

/-!
# Bos.Ipc.Fifo

The IPC channels refine bounded FIFO queues. In every state a run of `create_channel`,
`try_send`, `try_recv` and `close_endpoint` reaches from boot (`IpcState.Valid`), each channel's
queue and capacity form a `BoundedFifo` whose capacity lies in `[1, MAX_CHANNEL_CAPACITY]`;
an accepted `try_send` is that queue's `push?` and a `ChannelFull` is its refusal
(`fifo_push`, `channelFull_iff_isFull`), a `try_recv` that returns is its `pop?` (`fifo_pop`).

Over a whole run (`Kern.runList` of `IpcOp.exec` from `bootState`, `RunInv`, `run_inv`), the
messages received on a channel followed by those still queued are exactly the messages accepted
on it, so what a receiver gets is a prefix of what was sent, in order. The ids `create_channel` hands out are `1, 2, 3, …` modulo `2^64`:
they are all different up to `2^64` of them (`createdIds_nodup`), and repeat once
`NEXT_ENDPOINT_ID` has wrapped (`createdIds_not_nodup`).
-/

namespace Bos

namespace Ipc

/-- What every reachable IPC state satisfies. -/
structure IpcState.Valid (s : IpcState) : Prop where
  idBound : s.nextEndpointId < 2 ^ 64
  capacity : ∀ c < s.nextChannel,
    1 ≤ (s.channels c).capacity ∧ (s.channels c).capacity ≤ maxChannelCapacity
  bounded : ∀ c, (s.channels c).queue.length ≤ (s.channels c).capacity
  fresh : ∀ c, s.nextChannel ≤ c → (s.channels c).queue = []
  freshOpen : ∀ c, s.nextChannel ≤ c → (s.channels c).sendClosed = false
  endpoint : ∀ id ep, s.registry id = some ep → ep.channel < s.nextChannel
  unique : ∀ id id' ep, s.registry id = some ep → s.registry id' = some ep → id = id'
  sendOpen : ∀ id c, s.registry id = some ⟨.send, c⟩ → (s.channels c).sendClosed = false

/-- The boot state of the IPC objects, with any scheduler state. -/
def bootState (sched : Sched) : KernelState := ⟨IpcState.init, sched⟩

theorem IpcState.valid_init : IpcState.init.Valid where
  idBound := by decide
  capacity c hc := absurd hc (Nat.not_lt_zero c)
  bounded _ := Nat.le_refl _
  fresh _ _ := rfl
  freshOpen _ _ := rfl
  endpoint _ _ h := by cases h
  unique _ _ _ h := by cases h
  sendOpen _ _ h := by cases h

theorem clampCapacity_mem (capacity : Nat) :
    1 ≤ clampCapacity capacity ∧ clampCapacity capacity ≤ maxChannelCapacity := by
  unfold clampCapacity defaultChannelCapacity maxChannelCapacity
  split_ifs <;> omega

namespace IpcState.Valid

variable {s s' : IpcState}

/-- The invariant reads no waiter queue. -/
theorem of_eqUpToWaiters (hv : s.Valid) (h : s.EqUpToWaiters s') : s'.Valid where
  idBound := h.nextEndpointId ▸ hv.idBound
  capacity c hc := by
    rw [h.capacity]
    exact hv.capacity c (h.nextChannel ▸ hc)
  bounded c := by
    rw [h.queue, h.capacity]
    exact hv.bounded c
  fresh c hc := by
    rw [h.queue]
    exact hv.fresh c (h.nextChannel ▸ hc)
  freshOpen c hc := by
    rw [h.sendClosed]
    exact hv.freshOpen c (h.nextChannel ▸ hc)
  endpoint id ep hep := h.nextChannel ▸ hv.endpoint id ep (h.registry ▸ hep)
  unique id id' ep h₁ h₂ := hv.unique id id' ep (h.registry ▸ h₁) (h.registry ▸ h₂)
  sendOpen id c hep := by
    rw [h.sendClosed]
    exact hv.sendOpen id c (h.registry ▸ hep)

/-- Replacing the queue of a channel that has an endpoint by one within its capacity. -/
theorem setQueue (hv : s.Valid) {id c : Nat} {role : EndpointRole}
    (hreg : s.registry id = some ⟨role, c⟩) {q : List (List UInt8)}
    (hq : q.length ≤ (s.channels c).capacity) :
    (s.setChannel c { s.channels c with queue := q }).Valid where
  idBound := hv.idBound
  capacity c' hc' := by
    by_cases hc : c' = c
    · subst hc
      simpa using hv.capacity c' hc'
    · simpa [Function.update_of_ne hc] using hv.capacity c' hc'
  bounded c' := by
    by_cases hc : c' = c
    · subst hc
      simpa using hq
    · simpa [Function.update_of_ne hc] using hv.bounded c'
  fresh c' hc' := by
    have hlt : c < s.nextChannel := hv.endpoint id _ hreg
    have hc : c' ≠ c := by simp only [setChannel_nextChannel] at hc'; omega
    simpa [Function.update_of_ne hc] using hv.fresh c' hc'
  freshOpen c' hc' := by
    have hlt : c < s.nextChannel := hv.endpoint id _ hreg
    have hc : c' ≠ c := by simp only [setChannel_nextChannel] at hc'; omega
    simpa [Function.update_of_ne hc] using hv.freshOpen c' hc'
  endpoint := hv.endpoint
  unique := hv.unique
  sendOpen id' c' hep := by
    by_cases hc : c' = c
    · subst hc
      simpa using hv.sendOpen id' c' hep
    · simpa [Function.update_of_ne hc] using hv.sendOpen id' c' hep

theorem create (hv : s.Valid) (capacity : Nat) : (s.create capacity).Valid := by
  have hne : (s.nextEndpointId + 1) % 2 ^ 64 ≠ s.nextEndpointId := by
    have := hv.idBound
    omega
  -- every old endpoint names an older channel than the new one
  have hold : ∀ id ep, s.registry id = some ep → ep.channel ≠ s.nextChannel := fun id ep h => by
    have := hv.endpoint id ep h
    omega
  refine ⟨Nat.mod_lt _ (by decide), fun c hc => ?_, fun c => ?_, fun c hc => ?_, fun c hc => ?_,
    fun id ep h => ?_, fun id id' ep h₁ h₂ => ?_, fun id c h => ?_⟩
  · simp only [IpcState.create] at hc ⊢
    by_cases hcn : c = s.nextChannel
    · subst hcn
      simpa using clampCapacity_mem capacity
    · rw [Function.update_of_ne hcn]
      exact hv.capacity c (by omega)
  · simp only [IpcState.create]
    by_cases hcn : c = s.nextChannel
    · subst hcn
      simp
    · rw [Function.update_of_ne hcn]
      exact hv.bounded c
  · simp only [IpcState.create] at hc ⊢
    rw [Function.update_of_ne (by omega)]
    exact hv.fresh c (by omega)
  · simp only [IpcState.create] at hc ⊢
    rw [Function.update_of_ne (by omega)]
    exact hv.freshOpen c (by omega)
  · simp only [IpcState.create, Function.update_apply] at h ⊢
    split_ifs at h
    · cases h; simp
    · cases h; simp
    · have := hv.endpoint id ep h
      omega
  · simp only [IpcState.create, Function.update_apply] at h₁ h₂
    split_ifs at h₁ h₂ <;> subst_vars <;> first
      | rfl
      | (cases h₁; cases h₂)
      | (cases h₂; exact absurd rfl (hold _ _ h₁))
      | (cases h₁; exact absurd rfl (hold _ _ h₂))
      | exact hv.unique id id' ep h₁ h₂
  · simp only [IpcState.create, Function.update_apply] at h ⊢
    split_ifs at h with h₁ h₂
    · cases h
    · cases h
      simp
    · rw [if_neg (hold _ _ h)]
      exact hv.sendOpen id c h

theorem close (hv : s.Valid) {id : Nat} {ep : Endpoint} (hreg : s.registry id = some ep) :
    (s.close id ep).Valid := by
  have hlt := hv.endpoint id ep hreg
  obtain ⟨r, c⟩ := ep
  refine ⟨hv.idBound, fun c' hc' => ?_, fun c' => ?_, fun c' hc' => ?_, fun c' hc' => ?_,
    fun id' ep' h => ?_, fun id₁ id₂ ep' h₁ h₂ => ?_, fun id' c' h => ?_⟩
  all_goals simp only [IpcState.close, setChannel_nextChannel, setEndpoint_nextChannel,
    setChannel_channels, setEndpoint_channels, setChannel_registry, setEndpoint_registry] at *
  · by_cases hc : c' = c
    · subst hc
      cases r <;> simpa using hv.capacity c' hc'
    · simpa [Function.update_of_ne hc] using hv.capacity c' hc'
  · by_cases hc : c' = c
    · subst hc
      cases r <;> simpa using hv.bounded c'
    · simpa [Function.update_of_ne hc] using hv.bounded c'
  · have hc : c' ≠ c := by omega
    simpa [Function.update_of_ne hc] using hv.fresh c' hc'
  · have hc : c' ≠ c := by omega
    simpa [Function.update_of_ne hc] using hv.freshOpen c' hc'
  · by_cases hid : id' = id
    · subst hid
      simp at h
    · rw [Function.update_of_ne hid] at h
      exact hv.endpoint id' ep' h
  · by_cases hid₁ : id₁ = id
    · subst hid₁
      simp at h₁
    by_cases hid₂ : id₂ = id
    · subst hid₂
      simp at h₂
    rw [Function.update_of_ne hid₁] at h₁
    rw [Function.update_of_ne hid₂] at h₂
    exact hv.unique id₁ id₂ ep' h₁ h₂
  · -- the closed endpoint was the only one of its role on its channel
    by_cases hid : id' = id
    · subst hid
      simp at h
    rw [Function.update_of_ne hid] at h
    by_cases hc : c' = c
    · subst hc
      cases r with
      | send => exact absurd (hv.unique id' id _ h hreg) hid
      | recv => simpa using hv.sendOpen id' c' h
    · simpa [Function.update_of_ne hc] using hv.sendOpen id' c' h

end IpcState.Valid

variable {s s' : KernelState}

/-- Every call keeps the invariant. -/
theorem IpcOp.exec_valid {op : IpcOp} {r : IpcReply} (hv : s.ipc.Valid)
    (h : op.exec s = .ok r s') : s'.ipc.Valid := by
  rcases IpcOp.exec_ok h with ⟨capacity, -, -, rfl⟩ | ⟨id, data, c, -, -, hreg, hlen, hw⟩ |
    ⟨id, c, msg, rest, -, -, hreg, hq, hw⟩ | ⟨id, ep, -, -, hreg, rfl⟩
  · exact hv.create capacity
  · exact (hv.setQueue hreg (by simp only [List.length_append, List.length_singleton]; omega)).of_eqUpToWaiters hw
  · have hb := hv.bounded c
    rw [hq, List.length_cons] at hb
    exact (hv.setQueue hreg (by omega)).of_eqUpToWaiters hw
  · exact hv.close hreg

/-! ## The channels as bounded FIFO queues -/

/-- Channel `c` of a valid state, as the bounded FIFO queue it implements. -/
def IpcState.fifo (s : IpcState) (hv : s.Valid) (c : Nat) : BoundedFifo (List UInt8) :=
  ⟨(s.channels c).queue, (s.channels c).capacity, hv.bounded c⟩

/-- A queue with room takes one more message. -/
theorem IpcState.fifo_push {s : IpcState} (hv : s.Valid) {c : Nat} (data : List UInt8)
    (hlen : (s.channels c).queue.length < (s.channels c).capacity) :
    (s.fifo hv c).push? data = some ⟨(s.channels c).queue ++ [data], (s.channels c).capacity,
      by rw [List.length_append, List.length_singleton]; omega⟩ :=
  BoundedFifo.push?_eq_some_iff.mpr ⟨by unfold BoundedFifo.IsFull IpcState.fifo; simp only; omega,
    rfl, rfl⟩

/-- A nonempty queue gives up its head. -/
theorem IpcState.fifo_pop {s : IpcState} (hv : s.Valid) {c : Nat} {msg : List UInt8}
    {rest : List (List UInt8)} (hq : (s.channels c).queue = msg :: rest) :
    (s.fifo hv c).pop? = some (msg, ⟨rest, (s.channels c).capacity, by
      have := hv.bounded c
      rw [hq, List.length_cons] at this
      omega⟩) :=
  BoundedFifo.pop?_eq_some_iff.mpr ⟨hq, rfl⟩

/-- `try_send` reports `ChannelFull` exactly when the message fits, the endpoint is a live
`Send` endpoint, the receiver is open and the channel's queue is full. -/
theorem channelFull_iff_isFull (hv : s.ipc.Valid) {id : Nat} {data : List UInt8} :
    trySend id data s = .err .channelFull s ↔
      data.length ≤ maxMessageSize ∧ ∃ c, s.ipc.registry id = some ⟨.send, c⟩ ∧
        (s.ipc.channels c).recvClosed = false ∧ (s.ipc.fifo hv c).IsFull := by
  rw [trySend_channelFull_iff]
  unfold BoundedFifo.IsFull IpcState.fifo
  simp only
  constructor
  · rintro ⟨hsize, c, hreg, hclosed, hfull⟩
    exact ⟨hsize, c, hreg, hclosed, Nat.le_antisymm (hv.bounded c) hfull⟩
  · rintro ⟨hsize, c, hreg, hclosed, hfull⟩
    exact ⟨hsize, c, hreg, hclosed, Nat.le_of_eq hfull.symm⟩

/-! ## Runs -/

/-- An entry of a run of IPC calls. -/
abbrev IpcEntry : Type := Kern.Entry KernelState IpcOp IpcError IpcReply

/-- The channel an endpoint id names in the state before an entry. -/
def IpcEntry.channelOf (e : IpcEntry) (id : Nat) : Option Nat :=
  (e.pre.ipc.registry id).map Endpoint.channel

/-- The message an entry accepted on channel `c`: a successful `try_send` on an endpoint of
`c`. -/
def IpcEntry.sentOn (c : Nat) (e : IpcEntry) : Option (List UInt8) :=
  match e.input, e.result with
  | .trySend id data, .ok _ => if e.channelOf id = some c then some data else none
  | _, _ => none

/-- The message an entry received from channel `c`: a successful `try_recv` on an endpoint of
`c`. -/
def IpcEntry.receivedOn (c : Nat) (e : IpcEntry) : Option (List UInt8) :=
  match e.input, e.result with
  | .tryRecv id, .ok (.received msg) => if e.channelOf id = some c then some msg else none
  | _, _ => none

/-- The endpoint ids an entry handed out. -/
def IpcEntry.createdIds (e : IpcEntry) : List Nat :=
  match e.result with
  | .ok (.created sendId recvId) => [sendId, recvId]
  | _ => []

/-- The messages accepted on channel `c` over a run, in order. -/
def sentOn (c : Nat) (tr : List IpcEntry) : List (List UInt8) := tr.filterMap (IpcEntry.sentOn c)

/-- The messages received from channel `c` over a run, in order. -/
def receivedOn (c : Nat) (tr : List IpcEntry) : List (List UInt8) :=
  tr.filterMap (IpcEntry.receivedOn c)

/-- The endpoint ids handed out over a run, in order. -/
def createdIds (tr : List IpcEntry) : List Nat := tr.flatMap IpcEntry.createdIds

theorem filterMap_append_singleton {α β : Type} (f : α → Option β) (l : List α) (a : α) :
    (l ++ [a]).filterMap f = l.filterMap f ++ (f a).toList := by
  rw [List.filterMap_append]
  cases h : f a <;> simp [h]

@[simp] theorem sentOn_append_singleton (c : Nat) (tr : List IpcEntry) (e : IpcEntry) :
    sentOn c (tr ++ [e]) = sentOn c tr ++ (e.sentOn c).toList :=
  filterMap_append_singleton _ tr e

@[simp] theorem receivedOn_append_singleton (c : Nat) (tr : List IpcEntry) (e : IpcEntry) :
    receivedOn c (tr ++ [e]) = receivedOn c tr ++ (e.receivedOn c).toList :=
  filterMap_append_singleton _ tr e

@[simp] theorem createdIds_append_singleton (tr : List IpcEntry) (e : IpcEntry) :
    createdIds (tr ++ [e]) = createdIds tr ++ e.createdIds := by
  simp [createdIds]

section Step

variable {e : IpcEntry}

/-- A failed entry changes nothing. -/
theorem IpcEntry.post_eq_pre (he : e.input.exec e.pre = e.outcome) {x : IpcError}
    (hr : e.result = .error x) : e.post = e.pre := by
  unfold Kern.Entry.outcome at he
  rw [hr] at he
  exact IpcOp.exec_err he

/-- One entry keeps the history of every channel: what was taken out, followed by what is
queued, is what was put in. -/
theorem IpcEntry.history (hv : e.pre.ipc.Valid) (he : e.input.exec e.pre = e.outcome) (c : Nat)
    {taken given : List (List UInt8)} (h : taken ++ (e.pre.ipc.channels c).queue = given) :
    (taken ++ (e.receivedOn c).toList) ++ (e.post.ipc.channels c).queue =
      given ++ (e.sentOn c).toList := by
  obtain ⟨pre, input, result, post⟩ := e
  cases result with
  | error x =>
    have hpost := IpcEntry.post_eq_pre he rfl
    simp only at hpost
    subst hpost
    cases input <;> simpa [IpcEntry.sentOn, IpcEntry.receivedOn] using h
  | ok r =>
    simp only [Kern.Entry.outcome] at he
    rcases IpcOp.exec_ok he with ⟨capacity, rfl, rfl, rfl⟩ |
      ⟨id, data, c₀, rfl, rfl, hreg, hlen, hw⟩ | ⟨id, c₀, msg, rest, rfl, rfl, hreg, hq, hw⟩ |
      ⟨id, ep, rfl, rfl, hreg, rfl⟩
    · -- a new channel starts with the empty queue every unallocated one has
      simp only [IpcEntry.sentOn, IpcEntry.receivedOn, Option.toList_none, List.append_nil,
        IpcState.create]
      by_cases hc : c = pre.ipc.nextChannel
      · subst hc
        rw [hv.fresh _ (Nat.le_refl _)] at h
        simpa using h
      · rw [Function.update_of_ne hc]
        exact h
    · simp only [IpcEntry.receivedOn, IpcEntry.sentOn, IpcEntry.channelOf, hreg, Option.map_some,
        Option.some.injEq, Option.toList_none, List.append_nil, hw.queue,
        IpcState.setChannel_channels]
      by_cases hc : c₀ = c
      · subst hc
        simp only [Function.update_self, if_true, Option.toList_some]
        exact BoundedFifo.history_push h (pre.ipc.fifo_push hv data hlen)
      · rw [Function.update_of_ne (Ne.symm hc), if_neg hc]
        simpa using h
    · simp only [IpcEntry.receivedOn, IpcEntry.sentOn, IpcEntry.channelOf, hreg, Option.map_some,
        Option.some.injEq, Option.toList_none, List.append_nil, hw.queue,
        IpcState.setChannel_channels]
      by_cases hc : c₀ = c
      · subst hc
        simp only [Function.update_self, if_true, Option.toList_some]
        exact BoundedFifo.history_pop h (pre.ipc.fifo_pop hv hq)
      · rw [Function.update_of_ne (Ne.symm hc), if_neg hc]
        simpa using h
    · simpa [IpcEntry.sentOn, IpcEntry.receivedOn] using h

/-- An entry either hands out no id and keeps the counter, or hands out the counter's next two
values and moves it past them, wrapping at `2^64`. -/
theorem IpcEntry.ids (he : e.input.exec e.pre = e.outcome) :
    (e.createdIds = [] ∧ e.post.ipc.nextEndpointId = e.pre.ipc.nextEndpointId) ∨
      (e.createdIds = [e.pre.ipc.nextEndpointId, (e.pre.ipc.nextEndpointId + 1) % 2 ^ 64] ∧
        e.post.ipc.nextEndpointId = ((e.pre.ipc.nextEndpointId + 1) % 2 ^ 64 + 1) % 2 ^ 64) := by
  obtain ⟨pre, input, result, post⟩ := e
  cases result with
  | error x =>
    have hpost := IpcEntry.post_eq_pre he rfl
    simp only at hpost
    subst hpost
    exact .inl ⟨rfl, rfl⟩
  | ok r =>
    simp only [Kern.Entry.outcome] at he
    rcases IpcOp.exec_ok he with ⟨capacity, rfl, rfl, rfl⟩ | ⟨id, data, c₀, rfl, rfl, -, -, hw⟩ |
      ⟨id, c₀, msg, rest, rfl, rfl, -, -, hw⟩ | ⟨id, ep, rfl, rfl, -, rfl⟩
    · exact .inr ⟨rfl, rfl⟩
    · exact .inl ⟨rfl, hw.nextEndpointId⟩
    · exact .inl ⟨rfl, hw.nextEndpointId⟩
    · exact .inl ⟨rfl, rfl⟩

/-- Once the sender of a channel has closed, an entry can only take messages out of its
queue. -/
theorem IpcEntry.queue_suffix_of_sendClosed (hv : e.pre.ipc.Valid)
    (he : e.input.exec e.pre = e.outcome) {c : Nat}
    (hc : (e.pre.ipc.channels c).sendClosed = true) :
    (e.post.ipc.channels c).queue <:+ (e.pre.ipc.channels c).queue := by
  obtain ⟨pre, input, result, post⟩ := e
  cases result with
  | error x =>
    have hpost := IpcEntry.post_eq_pre he rfl
    simp only at hpost
    subst hpost
    exact List.suffix_refl _
  | ok r =>
    simp only [Kern.Entry.outcome] at he
    rcases IpcOp.exec_ok he with ⟨capacity, -, -, rfl⟩ | ⟨id, data, c₀, -, -, hreg, -, hw⟩ |
      ⟨id, c₀, msg, rest, -, -, hreg, hq, hw⟩ | ⟨id, ep, -, -, hreg, rfl⟩
    · simp only [IpcState.create]
      by_cases hcn : c = pre.ipc.nextChannel
      · subst hcn
        simp
      · simp only [Function.update_of_ne hcn, List.suffix_refl]
    · -- a live `Send` endpoint means the sender has not closed
      have hc₀ : c₀ ≠ c := fun h => by
        subst h
        rw [hv.sendOpen id c₀ hreg] at hc
        cases hc
      simp only [hw.queue, IpcState.setChannel_channels, Function.update_of_ne (Ne.symm hc₀)]
      exact List.suffix_refl _
    · simp only [hw.queue, IpcState.setChannel_channels]
      by_cases hc₀ : c₀ = c
      · subst hc₀
        simp only [Function.update_self, hq]
        exact List.suffix_cons msg rest
      · simp only [Function.update_of_ne (Ne.symm hc₀), List.suffix_refl]
    · simp only [IpcState.close_queue]
      exact List.suffix_refl _

/-- A closed sender stays closed. -/
theorem IpcEntry.sendClosed_persists (hv : e.pre.ipc.Valid)
    (he : e.input.exec e.pre = e.outcome) {c : Nat}
    (hc : (e.pre.ipc.channels c).sendClosed = true) :
    (e.post.ipc.channels c).sendClosed = true := by
  obtain ⟨pre, input, result, post⟩ := e
  cases result with
  | error x =>
    rw [IpcEntry.post_eq_pre he rfl]
    exact hc
  | ok r =>
    simp only [Kern.Entry.outcome] at he
    rcases IpcOp.exec_ok he with ⟨capacity, -, -, rfl⟩ | ⟨id, data, c₀, -, -, -, -, hw⟩ |
      ⟨id, c₀, msg, rest, -, -, -, -, hw⟩ | ⟨id, ⟨role, c₀⟩, -, -, -, rfl⟩
    · -- the channel created is a fresh one, whose sender is open
      have hcn : c ≠ pre.ipc.nextChannel := fun h => by
        subst h
        rw [hv.freshOpen _ (Nat.le_refl _)] at hc
        cases hc
      simp only [IpcState.create]
      rw [Function.update_of_ne hcn]
      exact hc
    · rw [hw.sendClosed]
      by_cases hc₀ : c = c₀
      · subst hc₀
        simpa using hc
      · simpa [Function.update_of_ne hc₀] using hc
    · rw [hw.sendClosed]
      by_cases hc₀ : c = c₀
      · subst hc₀
        simpa using hc
      · simpa [Function.update_of_ne hc₀] using hc
    · simp only [IpcState.close, IpcState.setChannel_channels, IpcState.setEndpoint_channels]
      by_cases hc₀ : c = c₀
      · subst hc₀
        cases role with
        | send => simp
        | recv => simpa using hc
      · simpa [Function.update_of_ne hc₀] using hc

/-- A `try_send` entry fails with `ChannelFull` exactly when the message fits, the endpoint is a
live `Send` endpoint, the receiver is open and the queue holds `capacity` messages. -/
theorem IpcEntry.channelFull_iff (hv : e.pre.ipc.Valid) (he : e.input.exec e.pre = e.outcome)
    {id : Nat} {data : List UInt8} (hin : e.input = .trySend id data) :
    e.result = .error .channelFull ↔ data.length ≤ maxMessageSize ∧ ∃ c,
      e.pre.ipc.registry id = some ⟨.send, c⟩ ∧ (e.pre.ipc.channels c).recvClosed = false ∧
        (e.pre.ipc.channels c).queue.length = (e.pre.ipc.channels c).capacity := by
  rw [hin, IpcOp.exec] at he
  have hiff : trySend id data e.pre = .err .channelFull e.pre ↔ data.length ≤ maxMessageSize ∧
      ∃ c, e.pre.ipc.registry id = some ⟨.send, c⟩ ∧ (e.pre.ipc.channels c).recvClosed = false ∧
        (e.pre.ipc.fifo hv c).IsFull :=
    channelFull_iff_isFull hv
  unfold BoundedFifo.IsFull IpcState.fifo at hiff
  simp only at hiff
  rw [← hiff]
  constructor
  · intro hr
    have hout : e.outcome = .err .channelFull e.post := Kern.Entry.outcome_eq_err_iff.mpr ⟨hr, rfl⟩
    rw [hout, Kern.bind_err_iff] at he
    rcases he with he | ⟨_, _, -, he⟩
    · rw [(trySend_err he).1] at he
      exact he
    · cases he
  · intro hfull
    rw [Kern.bind_apply, hfull] at he
    exact (Kern.Entry.outcome_eq_err_iff.mp he.symm).1

/-- A `try_recv` entry on a channel whose sender has closed returns the head of the queue, or
`PeerClosed` when the queue is empty. -/
theorem IpcEntry.result_tryRecv_of_sendClosed (he : e.input.exec e.pre = e.outcome) {id c : Nat}
    (hin : e.input = .tryRecv id) (hreg : e.pre.ipc.registry id = some ⟨.recv, c⟩)
    (hc : (e.pre.ipc.channels c).sendClosed = true) :
    e.result = match (e.pre.ipc.channels c).queue with
      | msg :: _ => .ok (.received msg)
      | [] => .error .peerClosed := by
  rw [hin, IpcOp.exec] at he
  obtain ⟨hempty, hhead⟩ := Ipc.tryRecv_of_sendClosed hreg hc
  cases hq : (e.pre.ipc.channels c).queue with
  | nil =>
    rw [Kern.bind_apply, hempty hq] at he
    exact (Kern.Entry.outcome_eq_err_iff.mp he.symm).1
  | cons msg rest =>
    obtain ⟨s', hs'⟩ := hhead msg rest hq
    rw [Kern.bind_apply, hs'] at he
    exact (Kern.Entry.outcome_eq_ok_iff.mp he.symm).1

end Step

/-- What holds of the entries so far and the current state of a run from boot. -/
structure RunInv (tr : List IpcEntry) (s : KernelState) : Prop where
  valid : s.ipc.Valid
  entries : ∀ e ∈ tr, e.pre.ipc.Valid ∧ e.input.exec e.pre = e.outcome
  history : ∀ c, receivedOn c tr ++ (s.ipc.channels c).queue = sentOn c tr
  ids : createdIds tr = (List.range' 1 (createdIds tr).length).map (· % 2 ^ 64)
  nextId : s.ipc.nextEndpointId = (1 + (createdIds tr).length) % 2 ^ 64

theorem runInv_boot (sched : Sched) : RunInv [] (bootState sched) :=
  ⟨IpcState.valid_init, fun _ h => absurd h List.not_mem_nil, fun _ => rfl, rfl, rfl⟩

/-- The ids handed out after `k` more: the next two values of the counter. -/
theorem range'_map_mod_append (k : Nat) :
    (List.range' 1 k).map (· % 2 ^ 64) ++
        [(1 + k) % 2 ^ 64, ((1 + k) % 2 ^ 64 + 1) % 2 ^ 64] =
      (List.range' 1 (k + 2)).map (· % 2 ^ 64) := by
  rw [List.range'_concat, List.range'_concat]
  simp only [List.map_append, List.map_cons, List.map_nil, List.append_assoc,
    List.singleton_append]
  congr 2
  · omega
  · congr 1
    omega

/-- One entry keeps the run invariant. -/
theorem RunInv.step {tr : List IpcEntry} {e : IpcEntry} (h : RunInv tr e.pre)
    (he : e.input.exec e.pre = e.outcome) : RunInv (tr ++ [e]) e.post := by
  have hvalid : e.post.ipc.Valid := by
    cases hr : e.result with
    | error x => rw [IpcEntry.post_eq_pre he hr]; exact h.valid
    | ok r =>
      have hout : e.outcome = .ok r e.post := Kern.Entry.outcome_eq_ok_iff.mpr ⟨hr, rfl⟩
      exact IpcOp.exec_valid h.valid (he.trans hout)
  refine ⟨hvalid, fun e' he' => ?_, fun c => ?_, ?_, ?_⟩
  · rcases List.mem_append.mp he' with he' | he'
    · exact h.entries e' he'
    · rw [List.mem_singleton] at he'
      subst he'
      exact ⟨h.valid, he⟩
  · rw [sentOn_append_singleton, receivedOn_append_singleton]
    exact IpcEntry.history h.valid he c (h.history c)
  · rcases IpcEntry.ids he with ⟨hids, -⟩ | ⟨hids, -⟩
    · rw [createdIds_append_singleton, hids, List.append_nil]
      exact h.ids
    · -- the two new ids are the counter's next values, by the invariant on the counter
      rw [createdIds_append_singleton, hids, List.length_append, h.nextId, h.ids]
      simpa using range'_map_mod_append (createdIds tr).length
  · rcases IpcEntry.ids he with ⟨hids, hnext⟩ | ⟨hids, hnext⟩
    · rw [createdIds_append_singleton, hids, List.append_nil, hnext]
      exact h.nextId
    · rw [createdIds_append_singleton, hids, List.length_append, hnext, h.nextId]
      simp only [List.length_cons, List.length_nil]
      omega

/-- Every run of IPC calls from boot goes through, keeping the run invariant. -/
theorem run_inv (sched : Sched) (ops : List IpcOp) :
    ∃ tr s', Kern.runList IpcOp.exec (bootState sched) ops = (tr, some s') ∧ RunInv tr s' := by
  obtain ⟨s', hs'⟩ := Kern.runList_some IpcOp.exec IpcOp.exec_ne_panic ops (bootState sched)
  have hinv := Kern.runList_induction IpcOp.exec RunInv (fun _ _ h he => h.step he) ops
    (bootState sched) s' [] (runInv_boot sched) hs'
  rw [List.nil_append] at hinv
  refine ⟨_, s', ?_, hinv⟩
  rw [← hs']

section Ids

variable {tr : List IpcEntry} {s : KernelState}

/-- Up to `2^64` ids, the counter has not come back to a value it handed out. -/
theorem createdIds_nodup (h : RunInv tr s) (hlen : (createdIds tr).length ≤ 2 ^ 64) :
    (createdIds tr).Nodup := by
  rw [h.ids]
  refine List.Nodup.map_on (fun x hx y hy hxy => ?_) List.nodup_range'
  rw [List.mem_range'_1] at hx hy
  omega

/-- Past `2^64` ids, the counter has handed out `1` a second time. -/
theorem createdIds_not_nodup (h : RunInv tr s) (hlen : 2 ^ 64 < (createdIds tr).length) :
    ¬ (createdIds tr).Nodup := by
  rw [h.ids]
  intro hnd
  -- the first id, and the one handed out once the counter wrapped
  have h₁ : 1 ∈ List.range' 1 (createdIds tr).length := List.mem_range'_1.mpr (by omega)
  have h₂ : 2 ^ 64 + 1 ∈ List.range' 1 (createdIds tr).length := List.mem_range'_1.mpr (by omega)
  have hsame := List.inj_on_of_nodup_map hnd h₁ h₂
    (show 1 % 2 ^ 64 = (2 ^ 64 + 1) % 2 ^ 64 by omega)
  omega

/-- A `create_channel` entry hands out two ids. -/
theorem IpcEntry.createdIds_length_of_create {e : IpcEntry} (he : e.input.exec e.pre = e.outcome)
    {capacity : Nat} (hin : e.input = .createChannel capacity) : e.createdIds.length = 2 := by
  rw [hin, IpcOp.exec, Kern.bind_apply, createChannel_apply] at he
  dsimp only at he
  rw [Kern.pure_apply] at he
  rw [IpcEntry.createdIds, (Kern.Entry.outcome_eq_ok_iff.mp he.symm).1]
  rfl

/-- A run of `n` calls to `create_channel` hands out `2 n` ids. -/
theorem createdIds_length_replicate (sched : Sched) (n capacity : Nat) :
    ∃ tr s', Kern.runList IpcOp.exec (bootState sched) (List.replicate n (.createChannel capacity)) =
      (tr, some s') ∧ RunInv tr s' ∧ (createdIds tr).length = 2 * n := by
  obtain ⟨tr, s', hrun, hinv⟩ := run_inv sched (List.replicate n (.createChannel capacity))
  have hinputs := Kern.runList_inputs IpcOp.exec _ _ s' (congrArg Prod.snd hrun)
  rw [hrun] at hinputs
  -- every entry is a `create_channel`, so each contributes two ids
  have hlen : ∀ e : IpcEntry, e ∈ tr → e.createdIds.length = 2 := fun e he => by
    have hin : e.input ∈ List.replicate n (IpcOp.createChannel capacity) := by
      rw [← hinputs]
      exact List.mem_map_of_mem he
    exact IpcEntry.createdIds_length_of_create (hinv.entries e he).2 (List.eq_of_mem_replicate hin)
  have htr : tr.length = n := by
    have hlens := congrArg List.length hinputs
    rwa [List.length_map, List.length_replicate] at hlens
  refine ⟨tr, s', hrun, hinv, ?_⟩
  rw [createdIds, List.length_flatMap, List.map_congr_left hlen, List.map_const',
    List.sum_replicate_nat, htr, Nat.mul_comm]

end Ids

/-! ## The channels over whole runs -/

theorem channels_refine_bounded_fifo (sched : Sched) (ops : List IpcOp) :
    ∃ tr s', Kern.runList IpcOp.exec (bootState sched) ops = (tr, some s') ∧
      (∀ c < s'.ipc.nextChannel, 1 ≤ (s'.ipc.channels c).capacity ∧
        (s'.ipc.channels c).capacity ≤ maxChannelCapacity) ∧
      (∀ c, (s'.ipc.channels c).queue.length ≤ (s'.ipc.channels c).capacity) ∧
      (∀ c, receivedOn c tr ++ (s'.ipc.channels c).queue = sentOn c tr) ∧
      (∀ e ∈ tr, ∀ id data, e.input = .trySend id data →
        (e.result = .error .channelFull ↔ data.length ≤ maxMessageSize ∧ ∃ c,
          e.pre.ipc.registry id = some ⟨.send, c⟩ ∧ (e.pre.ipc.channels c).recvClosed = false ∧
            (e.pre.ipc.channels c).queue.length = (e.pre.ipc.channels c).capacity)) ∧
      (∀ e ∈ tr, ∀ x, e.result = .error x → e.post = e.pre) ∧
      (∀ e ∈ tr, ∀ c, (e.pre.ipc.channels c).sendClosed = true →
        (e.post.ipc.channels c).sendClosed = true ∧
          (e.post.ipc.channels c).queue <:+ (e.pre.ipc.channels c).queue) ∧
      (∀ e ∈ tr, ∀ id c, e.input = .tryRecv id → e.pre.ipc.registry id = some ⟨.recv, c⟩ →
        (e.pre.ipc.channels c).sendClosed = true →
          e.result = match (e.pre.ipc.channels c).queue with
            | msg :: _ => .ok (.received msg)
            | [] => .error .peerClosed) ∧
      ((createdIds tr).length ≤ 2 ^ 64 → (createdIds tr).Nodup) := by
  obtain ⟨tr, s', hrun, hinv⟩ := run_inv sched ops
  refine ⟨tr, s', hrun, hinv.valid.capacity, hinv.valid.bounded, hinv.history, ?_, ?_, ?_, ?_,
    createdIds_nodup hinv⟩
  · intro e he id data hin
    obtain ⟨hv, hexec⟩ := hinv.entries e he
    exact IpcEntry.channelFull_iff hv hexec hin
  · intro e he x hr
    exact IpcEntry.post_eq_pre (hinv.entries e he).2 hr
  · intro e he c hc
    obtain ⟨hv, hexec⟩ := hinv.entries e he
    exact ⟨IpcEntry.sendClosed_persists hv hexec hc, IpcEntry.queue_suffix_of_sendClosed hv hexec hc⟩
  · intro e he id c hin hreg hc
    exact IpcEntry.result_tryRecv_of_sendClosed (hinv.entries e he).2 hin hreg hc

/-- `2^63 + 1` calls to `create_channel` from boot hand out some id twice: the counter has
wrapped and started again from `0, 1`. -/
theorem create_channel_ids_repeat :
    ∃ tr s', Kern.runList IpcOp.exec (bootState Sched.init)
        (List.replicate (2 ^ 63 + 1) (.createChannel 0)) = (tr, some s') ∧
      ¬ (createdIds tr).Nodup := by
  obtain ⟨tr, s', hrun, hinv, hlen⟩ := createdIds_length_replicate Sched.init (2 ^ 63 + 1) 0
  exact ⟨tr, s', hrun, createdIds_not_nodup hinv (by omega)⟩

end Ipc

end Bos
