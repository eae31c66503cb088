import Cxloom.LoomMem.Token

/-!
# Frame lemmas of the token service

What each state update leaves alone.  Every later argument about the service reads the state
through `waiter`, `localObject`, `fifo`, `block`, `descriptor` and `nextRequestId`; publication of
deferred packets is invisible to these reads.
-/

namespace Cxloom.LoomMem.TokenState

variable {cluster : Cluster}

def nextRequestId (state : TokenState cluster) (host : cluster.Host) : Nat :=
  (state.service host).nextRequestId

def outbound (state : TokenState cluster) (source destination : cluster.Host) :
    List (Packet cluster) :=
  (state.service source).outbound destination

/-- No host has deferred a packet to itself. -/
def SelfQueuesEmpty (state : TokenState cluster) : Prop :=
  ∀ host, state.outbound host host = []

section Service

variable (state : TokenState cluster) (host other : cluster.Host) (service : Service cluster)

@[simp] theorem setService_service :
    (state.setService host service).service other =
      if other = host then service else state.service other := by
  simp [setService, Function.update_apply]

@[simp] theorem setService_block : (state.setService host service).block = state.block := rfl

@[simp] theorem setService_descriptor :
    (state.setService host service).descriptor = state.descriptor := rfl

@[simp] theorem setService_channel :
    (state.setService host service).channel = state.channel := rfl

end Service

section Waiter

variable (state : TokenState cluster) (host other : cluster.Host) (requestId : Nat)
  (replacement : Option Waiter)

@[simp] theorem setWaiter_waiter (otherId : Nat) :
    (state.setWaiter host requestId replacement).waiter other otherId =
      if other = host ∧ otherId = requestId then replacement else state.waiter other otherId := by
  by_cases same : other = host <;>
    simp [setWaiter, waiter, same, Function.update_apply]

@[simp] theorem setWaiter_localObject (key : BlockKey) :
    (state.setWaiter host requestId replacement).localObject other key =
      state.localObject other key := by
  by_cases same : other = host <;> simp [setWaiter, localObject, same]

@[simp] theorem setWaiter_outbound (destination : cluster.Host) :
    (state.setWaiter host requestId replacement).outbound other destination =
      state.outbound other destination := by
  by_cases same : other = host <;> simp [setWaiter, outbound, same]

@[simp] theorem setWaiter_nextRequestId :
    (state.setWaiter host requestId replacement).nextRequestId other =
      state.nextRequestId other := by
  by_cases same : other = host <;> simp [setWaiter, nextRequestId, same]

@[simp] theorem setWaiter_block :
    (state.setWaiter host requestId replacement).block = state.block := rfl

@[simp] theorem setWaiter_descriptor :
    (state.setWaiter host requestId replacement).descriptor = state.descriptor := rfl

@[simp] theorem setWaiter_channel :
    (state.setWaiter host requestId replacement).channel = state.channel := rfl

end Waiter

section Local

variable (state : TokenState cluster) (host other : cluster.Host) (key : BlockKey)
  (object : LocalObject cluster)

@[simp] theorem setLocal_waiter (requestId : Nat) :
    (state.setLocal host key object).waiter other requestId = state.waiter other requestId := by
  by_cases same : other = host <;> simp [setLocal, waiter, same]

@[simp] theorem setLocal_localObject (otherKey : BlockKey) :
    (state.setLocal host key object).localObject other otherKey =
      if other = host ∧ otherKey = key then object else state.localObject other otherKey := by
  by_cases same : other = host <;>
    simp [setLocal, localObject, same, Function.update_apply]

@[simp] theorem setLocal_self :
    state.setLocal host key (state.localObject host key) = state := by
  simp [setLocal, setService, localObject]

@[simp] theorem setLocal_setLocal (other : LocalObject cluster) :
    (state.setLocal host key object).setLocal host key other = state.setLocal host key other := by
  simp [setLocal, setService]

@[simp] theorem setLocal_outbound (destination : cluster.Host) :
    (state.setLocal host key object).outbound other destination =
      state.outbound other destination := by
  by_cases same : other = host <;> simp [setLocal, outbound, same]

@[simp] theorem setLocal_nextRequestId :
    (state.setLocal host key object).nextRequestId other = state.nextRequestId other := by
  by_cases same : other = host <;> simp [setLocal, nextRequestId, same]

@[simp] theorem setLocal_block : (state.setLocal host key object).block = state.block := rfl

@[simp] theorem setLocal_descriptor :
    (state.setLocal host key object).descriptor = state.descriptor := rfl

@[simp] theorem setLocal_channel : (state.setLocal host key object).channel = state.channel := rfl

end Local

section Block

variable (state : TokenState cluster) (key : BlockKey) (block : CoherenceBlockDescriptor cluster)

@[simp] theorem setBlock_block (other : BlockKey) :
    (state.setBlock key block).block other = if other = key then block else state.block other := by
  simp [setBlock, Function.update_apply]

@[simp] theorem setBlock_waiter : (state.setBlock key block).waiter = state.waiter := rfl

@[simp] theorem setBlock_localObject :
    (state.setBlock key block).localObject = state.localObject := rfl

@[simp] theorem setBlock_outbound : (state.setBlock key block).outbound = state.outbound := rfl

@[simp] theorem setBlock_nextRequestId :
    (state.setBlock key block).nextRequestId = state.nextRequestId := rfl

@[simp] theorem setBlock_descriptor :
    (state.setBlock key block).descriptor = state.descriptor := rfl

@[simp] theorem setBlock_channel : (state.setBlock key block).channel = state.channel := rfl

end Block

section Issue

variable (state : TokenState cluster) (host other : cluster.Host) (object : GlobalPointer)

@[simp] theorem issue_waiter (requestId : Nat) :
    (state.issue host object).waiter other requestId =
      if other = host ∧ requestId = state.nextRequestId host then some (freshWaiter object)
      else state.waiter other requestId := by
  by_cases same : other = host <;>
    simp [issue, waiter, nextRequestId, same, Function.update_apply]

@[simp] theorem issue_localObject (key : BlockKey) :
    (state.issue host object).localObject other key = state.localObject other key := by
  by_cases same : other = host <;> simp [issue, localObject, same]

@[simp] theorem issue_outbound (destination : cluster.Host) :
    (state.issue host object).outbound other destination = state.outbound other destination := by
  by_cases same : other = host <;> simp [issue, outbound, same]

@[simp] theorem issue_nextRequestId :
    (state.issue host object).nextRequestId other =
      if other = host then state.nextRequestId host + 1 else state.nextRequestId other := by
  by_cases same : other = host <;> simp [issue, nextRequestId, same]

@[simp] theorem issue_block : (state.issue host object).block = state.block := rfl

@[simp] theorem issue_descriptor : (state.issue host object).descriptor = state.descriptor := rfl

@[simp] theorem issue_channel : (state.issue host object).channel = state.channel := rfl

end Issue

/-! ## Packets in flight or deferred -/

theorem fifo_eq (state : TokenState cluster) (source destination : cluster.Host) :
    state.fifo source destination =
      (state.channel source destination).packets ++ state.outbound source destination := rfl

@[simp] theorem setWaiter_fifo (state : TokenState cluster) (host source destination : cluster.Host)
    (requestId : Nat) (replacement : Option Waiter) :
    (state.setWaiter host requestId replacement).fifo source destination =
      state.fifo source destination := by
  simp [fifo_eq]

@[simp] theorem setLocal_fifo (state : TokenState cluster) (host source destination : cluster.Host)
    (key : BlockKey) (object : LocalObject cluster) :
    (state.setLocal host key object).fifo source destination = state.fifo source destination := by
  simp [fifo_eq]

@[simp] theorem setBlock_fifo (state : TokenState cluster) (source destination : cluster.Host)
    (key : BlockKey) (block : CoherenceBlockDescriptor cluster) :
    (state.setBlock key block).fifo source destination = state.fifo source destination := rfl

@[simp] theorem issue_fifo (state : TokenState cluster) (host source destination : cluster.Host)
    (object : GlobalPointer) :
    (state.issue host object).fifo source destination = state.fifo source destination := by
  simp [fifo_eq]

section ProgressOutbound

variable (state : TokenState cluster) (host other : cluster.Host)

@[simp] theorem progressOutbound_waiter (requestId : Nat) :
    (state.progressOutbound host).2.waiter other requestId = state.waiter other requestId := by
  by_cases same : other = host <;> simp [progressOutbound, waiter, same]

@[simp] theorem progressOutbound_localObject (key : BlockKey) :
    (state.progressOutbound host).2.localObject other key = state.localObject other key := by
  by_cases same : other = host <;>
    simp [progressOutbound, localObject, same]

@[simp] theorem progressOutbound_nextRequestId :
    (state.progressOutbound host).2.nextRequestId other = state.nextRequestId other := by
  by_cases same : other = host <;>
    simp [progressOutbound, nextRequestId, same]

@[simp] theorem progressOutbound_block :
    (state.progressOutbound host).2.block = state.block := rfl

@[simp] theorem progressOutbound_descriptor :
    (state.progressOutbound host).2.descriptor = state.descriptor := rfl

@[simp] theorem progressOutbound_fifo (source destination : cluster.Host) :
    (state.progressOutbound host).2.fifo source destination = state.fifo source destination := by
  by_cases same : source = host
  · subst same
    simp [progressOutbound, fifo, List.append_assoc,
      List.take_append_drop]
  · simp [progressOutbound, fifo, same]

theorem progressOutbound_status (empty : state.outbound host host = []) :
    (state.progressOutbound host).1 = .ok := by
  have noSelf : (state.service host).outbound host = [] := empty
  simp [progressOutbound, noSelf]

theorem progressOutbound_outbound_suffix (source destination : cluster.Host) :
    (state.progressOutbound host).2.outbound source destination <:+
      state.outbound source destination := by
  by_cases same : source = host
  · subst same
    simp only [progressOutbound, outbound, Function.update_self]
    exact List.drop_suffix _ _
  · simp [progressOutbound, outbound, same]

end ProgressOutbound

section EnqueueOutbound

variable (state : TokenState cluster) (host destination : cluster.Host) (packet : Packet cluster)

/-- The deferred append that `EnqueueOutbound` performs before it publishes. -/
def deferPacket (state : TokenState cluster) (host destination : cluster.Host)
    (packet : Packet cluster) : TokenState cluster :=
  let service := state.service host
  state.setService host
    { service with
      outbound := Function.update service.outbound destination
        (service.outbound destination ++ [packet]) }

theorem enqueueOutbound_eq :
    state.enqueueOutbound host destination packet =
      (state.deferPacket host destination packet).progressOutbound host := by
  have inRange : ¬kMaxHosts ≤ destination.val := Nat.not_le.mpr (Cluster.host_lt_max destination)
  simp [enqueueOutbound, deferPacket, inRange]

@[simp] theorem deferPacket_waiter (other : cluster.Host) (requestId : Nat) :
    (state.deferPacket host destination packet).waiter other requestId =
      state.waiter other requestId := by
  by_cases same : other = host <;> simp [deferPacket, waiter, same]

@[simp] theorem deferPacket_localObject (other : cluster.Host) (key : BlockKey) :
    (state.deferPacket host destination packet).localObject other key =
      state.localObject other key := by
  by_cases same : other = host <;> simp [deferPacket, localObject, same]

@[simp] theorem deferPacket_nextRequestId (other : cluster.Host) :
    (state.deferPacket host destination packet).nextRequestId other =
      state.nextRequestId other := by
  by_cases same : other = host <;> simp [deferPacket, nextRequestId, same]

@[simp] theorem deferPacket_outbound (source other : cluster.Host) :
    (state.deferPacket host destination packet).outbound source other =
      if source = host ∧ other = destination then state.outbound source other ++ [packet]
      else state.outbound source other := by
  by_cases same : source = host
  · subst same
    by_cases sameDestination : other = destination
    · subst sameDestination
      simp [deferPacket, outbound]
    · simp [deferPacket, outbound, sameDestination]
  · simp [deferPacket, outbound, same]

@[simp] theorem deferPacket_fifo (source other : cluster.Host) :
    (state.deferPacket host destination packet).fifo source other =
      if source = host ∧ other = destination then state.fifo source other ++ [packet]
      else state.fifo source other := by
  simp only [fifo_eq, deferPacket_outbound]
  split <;> simp [deferPacket]

@[simp] theorem enqueueOutbound_waiter (other : cluster.Host) (requestId : Nat) :
    (state.enqueueOutbound host destination packet).2.waiter other requestId =
      state.waiter other requestId := by
  simp [enqueueOutbound_eq]

@[simp] theorem enqueueOutbound_localObject (other : cluster.Host) (key : BlockKey) :
    (state.enqueueOutbound host destination packet).2.localObject other key =
      state.localObject other key := by
  simp [enqueueOutbound_eq]

@[simp] theorem enqueueOutbound_nextRequestId (other : cluster.Host) :
    (state.enqueueOutbound host destination packet).2.nextRequestId other =
      state.nextRequestId other := by
  simp [enqueueOutbound_eq]

@[simp] theorem enqueueOutbound_block :
    (state.enqueueOutbound host destination packet).2.block = state.block := by
  rw [enqueueOutbound_eq]
  rfl

@[simp] theorem enqueueOutbound_descriptor :
    (state.enqueueOutbound host destination packet).2.descriptor = state.descriptor := by
  rw [enqueueOutbound_eq]
  rfl

@[simp] theorem enqueueOutbound_fifo (source other : cluster.Host) :
    (state.enqueueOutbound host destination packet).2.fifo source other =
      if source = host ∧ other = destination then state.fifo source other ++ [packet]
      else state.fifo source other := by
  simp [enqueueOutbound_eq]

/-- A packet for another host is always accepted. -/
theorem enqueueOutbound_status (empty : state.SelfQueuesEmpty) (remote : destination ≠ host) :
    (state.enqueueOutbound host destination packet).1 = .ok := by
  rw [enqueueOutbound_eq]
  apply progressOutbound_status
  simp [remote.symm, empty host]

theorem SelfQueuesEmpty.progressOutbound {state : TokenState cluster}
    (empty : state.SelfQueuesEmpty) (host : cluster.Host) :
    (state.progressOutbound host).2.SelfQueuesEmpty := by
  intro other
  have suffix := progressOutbound_outbound_suffix state host other other
  rw [empty other] at suffix
  exact List.suffix_nil.mp suffix

theorem SelfQueuesEmpty.enqueueOutbound {state : TokenState cluster}
    (empty : state.SelfQueuesEmpty) {host destination : cluster.Host} (packet : Packet cluster)
    (remote : destination ≠ host) :
    (state.enqueueOutbound host destination packet).2.SelfQueuesEmpty := by
  rw [enqueueOutbound_eq]
  apply SelfQueuesEmpty.progressOutbound
  intro other
  have apart : ¬(other = host ∧ other = destination) := by
    rintro ⟨rfl, rfl⟩
    exact remote rfl
  simp [apart, empty other]

end EnqueueOutbound

section SelfQueues

variable {state : TokenState cluster}

theorem SelfQueuesEmpty.setWaiter (empty : state.SelfQueuesEmpty) (host : cluster.Host)
    (requestId : Nat) (replacement : Option Waiter) :
    (state.setWaiter host requestId replacement).SelfQueuesEmpty := by
  intro other
  simpa using empty other

theorem SelfQueuesEmpty.setLocal (empty : state.SelfQueuesEmpty) (host : cluster.Host)
    (key : BlockKey) (object : LocalObject cluster) :
    (state.setLocal host key object).SelfQueuesEmpty := by
  intro other
  simpa using empty other

theorem SelfQueuesEmpty.setBlock (empty : state.SelfQueuesEmpty) (key : BlockKey)
    (block : CoherenceBlockDescriptor cluster) : (state.setBlock key block).SelfQueuesEmpty :=
  empty

theorem SelfQueuesEmpty.issue (empty : state.SelfQueuesEmpty) (host : cluster.Host)
    (object : GlobalPointer) : (state.issue host object).SelfQueuesEmpty := by
  intro other
  simpa using empty other

end SelfQueues

section SendRequests

variable (host destination : cluster.Host) (requests : List (TokenRequest cluster))
  (state : TokenState cluster)

theorem sendRequests_cons (request : TokenRequest cluster) (rest : List (TokenRequest cluster)) :
    sendRequests host destination (request :: rest) state =
      if (state.sendRequest host destination request).1.isOk then
        sendRequests host destination rest (state.sendRequest host destination request).2
      else state.sendRequest host destination request := rfl

/-- Forwarding a list keeps every read that a single packet keeps. -/
theorem sendRequests_keeps {α : Type*} (read : TokenState cluster → α)
    (kept : ∀ (state : TokenState cluster) (packet : Packet cluster),
      read (state.enqueueOutbound host destination packet).2 = read state) :
    read (sendRequests host destination requests state).2 = read state := by
  induction requests generalizing state with
  | nil => rfl
  | cons request rest induction =>
      rw [sendRequests_cons]
      split
      · rw [induction, sendRequest, kept]
      · rw [sendRequest, kept]

@[simp] theorem sendRequests_waiter (other : cluster.Host) (requestId : Nat) :
    (sendRequests host destination requests state).2.waiter other requestId =
      state.waiter other requestId :=
  sendRequests_keeps host destination requests state (·.waiter other requestId)
    fun state packet => enqueueOutbound_waiter state host destination packet other requestId

@[simp] theorem sendRequests_localObject (other : cluster.Host) (key : BlockKey) :
    (sendRequests host destination requests state).2.localObject other key =
      state.localObject other key :=
  sendRequests_keeps host destination requests state (·.localObject other key)
    fun state packet => enqueueOutbound_localObject state host destination packet other key

@[simp] theorem sendRequests_nextRequestId (other : cluster.Host) :
    (sendRequests host destination requests state).2.nextRequestId other =
      state.nextRequestId other :=
  sendRequests_keeps host destination requests state (·.nextRequestId other)
    fun state packet => enqueueOutbound_nextRequestId state host destination packet other

@[simp] theorem sendRequests_block :
    (sendRequests host destination requests state).2.block = state.block :=
  sendRequests_keeps host destination requests state (·.block)
    fun state packet => enqueueOutbound_block state host destination packet

@[simp] theorem sendRequests_descriptor :
    (sendRequests host destination requests state).2.descriptor = state.descriptor :=
  sendRequests_keeps host destination requests state (·.descriptor)
    fun state packet => enqueueOutbound_descriptor state host destination packet

variable {host destination state}

/-- Forwarding to another host delivers the whole list, in order. -/
theorem sendRequests_spec (empty : state.SelfQueuesEmpty) (remote : destination ≠ host) :
    (sendRequests host destination requests state).1 = .ok ∧
      (sendRequests host destination requests state).2.SelfQueuesEmpty ∧
      ∀ source target,
        (sendRequests host destination requests state).2.fifo source target =
          if source = host ∧ target = destination then
            state.fifo source target ++ requests.map .request
          else state.fifo source target := by
  induction requests generalizing state with
  | nil =>
      refine ⟨rfl, empty, fun source target => ?_⟩
      rw [List.map_nil, List.append_nil, ite_self]
      rfl
  | cons request rest induction =>
      have accepted : (state.sendRequest host destination request).1 = .ok :=
        enqueueOutbound_status state host destination _ empty remote
      have emptyAfter : (state.sendRequest host destination request).2.SelfQueuesEmpty :=
        empty.enqueueOutbound _ remote
      obtain ⟨status, selfQueues, fifos⟩ := induction emptyAfter
      rw [sendRequests_cons, if_pos (by rw [accepted, Status.isOk_ok])]
      refine ⟨status, selfQueues, fun source target => ?_⟩
      rw [fifos, sendRequest, enqueueOutbound_fifo]
      split <;> simp

end SendRequests

section HandOff

variable (state : TokenState cluster) (host : cluster.Host) (key : BlockKey)
  (request : TokenRequest cluster)

def handOffGrant (state : TokenState cluster) (key : BlockKey) (request : TokenRequest cluster) :
    TokenGrant cluster :=
  { key := request.key
    requestId := request.requestId
    newOwner := request.requester
    version := (state.block key).version
    tokenEpoch := (state.block key).tokenEpoch + 1
    activateCoherenceEpoch := request.activateCoherenceEpoch }

@[simp] theorem handOff_waiter (other : cluster.Host) (requestId : Nat) :
    (state.handOff host key request).2.waiter other requestId = state.waiter other requestId := by
  simp only [handOff]
  split <;> simp

@[simp] theorem handOff_nextRequestId (other : cluster.Host) :
    (state.handOff host key request).2.nextRequestId other = state.nextRequestId other := by
  simp only [handOff]
  split <;> simp

@[simp] theorem handOff_descriptor :
    (state.handOff host key request).2.descriptor = state.descriptor := by
  simp only [handOff]
  split <;> simp

@[simp] theorem handOff_block (other : BlockKey) :
    (state.handOff host key request).2.block other =
      if other = key then
        { state.block key with
          tokenEpoch := (state.block key).tokenEpoch + 1
          tokenOwner := request.requester }
      else state.block other := by
  simp only [handOff]
  split <;> simp

variable {state host request}

/-- A handoff to another host moves the token and the whole pending queue. -/
theorem handOff_spec (empty : state.SelfQueuesEmpty) (remote : request.requester ≠ host) :
    (state.handOff host key request).1 = .ok ∧
      (state.handOff host key request).2.SelfQueuesEmpty ∧
      (∀ other otherKey, (state.handOff host key request).2.localObject other otherKey =
        if other = host ∧ otherKey = key then .fresh else state.localObject other otherKey) ∧
      ∀ source target,
        (state.handOff host key request).2.fifo source target =
          if source = host ∧ target = request.requester then
            state.fifo source target ++
              .grant (state.handOffGrant key request) ::
                (state.localObject host key).pending.map .request
          else state.fifo source target := by
  let moved := state.setBlock key
    { state.block key with
      tokenEpoch := (state.block key).tokenEpoch + 1
      tokenOwner := request.requester }
  let sent := moved.enqueueOutbound host request.requester
    (.grant (state.handOffGrant key request))
  let cleared := sent.2.setLocal host key .fresh
  have movedEmpty : moved.SelfQueuesEmpty := empty
  have accepted : sent.1 = .ok := enqueueOutbound_status moved host _ _ movedEmpty remote
  have clearedEmpty : cleared.SelfQueuesEmpty := by
    exact (movedEmpty.enqueueOutbound _ remote).setLocal host key .fresh
  have shape : state.handOff host key request =
      sendRequests host request.requester (sent.2.localObject host key).pending cleared := by
    simp only [handOff]
    rw [if_pos]
    · rfl
    · change sent.1.isOk = true
      rw [accepted]
      rfl
  obtain ⟨status, selfQueues, fifos⟩ :=
    sendRequests_spec (sent.2.localObject host key).pending clearedEmpty remote
  rw [shape]
  refine ⟨status, selfQueues, ?_, fun source target => ?_⟩
  · intro other otherKey
    simp [cleared, sent, moved]
  · rw [fifos]
    simp only [cleared, sent, moved, setLocal_fifo, enqueueOutbound_fifo, setBlock_fifo,
      enqueueOutbound_localObject, setBlock_localObject]
    split <;> simp

end HandOff

section Pop

variable {state after : TokenState cluster} {source destination : cluster.Host}
  {packet : Packet cluster}

/-- What a successful pop changes: the packet leaves the head of one channel. -/
theorem pop_eq_some (popped : state.pop source destination = some (packet, after)) :
    after.descriptor = state.descriptor ∧ after.block = state.block ∧
      after.service = state.service ∧
      (state.channel source destination).packets =
        packet :: (after.channel source destination).packets ∧
      (after.channel source destination).consumedSequence =
        (state.channel source destination).consumedSequence + 1 ∧
      ∀ from_ to_, ¬(from_ = source ∧ to_ = destination) →
        after.channel from_ to_ = state.channel from_ to_ := by
  unfold pop at popped
  cases content : (state.channel source destination).packets with
  | nil => simp [content] at popped
  | cons head rest =>
      simp only [content, Option.some.injEq, Prod.mk.injEq] at popped
      obtain ⟨rfl, rfl⟩ := popped
      refine ⟨rfl, rfl, rfl, by simp, by simp, ?_⟩
      intro from_ to_ apart
      by_cases sameSource : from_ = source
      · subst sameSource
        have otherDestination : to_ ≠ destination := fun same => apart ⟨rfl, same⟩
        simp [otherDestination]
      · simp [sameSource]

theorem pop_waiter (popped : state.pop source destination = some (packet, after)) :
    after.waiter = state.waiter := by
  unfold waiter
  rw [(pop_eq_some popped).2.2.1]

theorem pop_localObject (popped : state.pop source destination = some (packet, after)) :
    after.localObject = state.localObject := by
  unfold localObject
  rw [(pop_eq_some popped).2.2.1]

theorem pop_outbound (popped : state.pop source destination = some (packet, after)) :
    after.outbound = state.outbound := by
  unfold outbound
  rw [(pop_eq_some popped).2.2.1]

theorem pop_nextRequestId (popped : state.pop source destination = some (packet, after)) :
    after.nextRequestId = state.nextRequestId := by
  unfold nextRequestId
  rw [(pop_eq_some popped).2.2.1]

theorem pop_fifo (popped : state.pop source destination = some (packet, after)) :
    state.fifo source destination = packet :: after.fifo source destination := by
  rw [fifo_eq, fifo_eq, pop_outbound popped, (pop_eq_some popped).2.2.2.1]
  rfl

theorem pop_fifo_of_ne (popped : state.pop source destination = some (packet, after))
    {from_ to_ : cluster.Host} (apart : ¬(from_ = source ∧ to_ = destination)) :
    after.fifo from_ to_ = state.fifo from_ to_ := by
  rw [fifo_eq, fifo_eq, pop_outbound popped, (pop_eq_some popped).2.2.2.2.2 from_ to_ apart]

end Pop

/-! ## Live objects -/

/-- A block of an allocated object that no host has sealed. -/
structure Live (state : TokenState cluster) (key : BlockKey) : Prop where
  region : key.object.regionId = 0
  /-- The object has a discovery slot. -/
  offset : key.object.offset ≠ 0
  allocated : (state.descriptor key.object).state = .allocated
  /-- No host acknowledged closing. -/
  unsealed : (state.descriptor key.object).sealedHosts = 0#64
  inRange : key.blockIndex < (state.descriptor key.object).coherenceBlockCount

def AllLive (state : TokenState cluster) : Prop :=
  ∀ object, (state.descriptor object).state ≠ .retiring ∧
    (state.descriptor object).sealedHosts = 0#64

theorem Live.congr {before after : TokenState cluster} {key : BlockKey} (live : before.Live key)
    (descriptor : after.descriptor = before.descriptor) : after.Live key :=
  ⟨live.region, live.offset, descriptor ▸ live.allocated, descriptor ▸ live.unsealed,
    descriptor ▸ live.inRange⟩

theorem Live.target {state : TokenState cluster} {key : BlockKey} (live : state.Live key)
    (host : cluster.Host) (allowRetiring : Bool) : state.target host key allowRetiring = .ok := by
  have inRange : ¬kMaxHosts ≤ host.val := Nat.not_le.mpr (Cluster.host_lt_max host)
  have blockInRange := live.inRange
  simp [TokenState.target, referenceStatus, inRange, live.region, live.offset, live.allocated,
    live.unsealed, blockInRange]

theorem Live.not_retiring {state : TokenState cluster} {key : BlockKey} (live : state.Live key) :
    state.isRetiring key.object = false := by
  simp [isRetiring, live.allocated]

theorem AllLive.live_of_target {state : TokenState cluster} (allLive : state.AllLive)
    {host : cluster.Host} {key : BlockKey} {allowRetiring : Bool}
    (found : (state.target host key allowRetiring).isOk = true) : state.Live key := by
  obtain ⟨notRetiring, unsealed⟩ := allLive key.object
  simp only [TokenState.target] at found
  split at found
  · rename_i admitted
    split at found
    · simp at found
    · rename_i inRange
      simp only [referenceStatus] at admitted
      split at admitted
      · simp at admitted
      · split at admitted
        · simp at admitted
        · rename_i address
          split at admitted
          · simp at admitted
          · rename_i published
            refine ⟨by tauto, by tauto, ?_, unsealed, Nat.lt_of_not_le inRange⟩
            cases lifecycle : (state.descriptor key.object).state with
            | empty => exact (published lifecycle).elim
            | allocated => rfl
            | retiring => exact (notRetiring lifecycle).elim
  · rename_i refused
    exact (refused found).elim

theorem AllLive.live_of_leaseStatus {state : TokenState cluster} (allLive : state.AllLive)
    {host : cluster.Host} {lease : TokenLease}
    (accepted : (state.leaseStatus host lease).isOk = true) : state.Live lease.key := by
  by_cases found : (state.target host lease.key true).isOk = true
  · exact allLive.live_of_target found
  · simp [leaseStatus, found] at accepted

theorem AllLive.congr {before after : TokenState cluster} (allLive : before.AllLive)
    (descriptor : after.descriptor = before.descriptor) : after.AllLive := by
  intro object
  rw [descriptor]
  exact allLive object

theorem AllLive.not_retiring {state : TokenState cluster} (allLive : state.AllLive)
    (object : GlobalPointer) : state.isRetiring object = false := by
  simp [isRetiring, (allLive object).1]

end Cxloom.LoomMem.TokenState
