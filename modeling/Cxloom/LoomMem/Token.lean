import Cxloom.Common
import Cxloom.HostMask
import Mathlib.Logic.Function.Basic

/-!
# The write-token service

An embedding of `TokenService`: every operation and every message handler is a function on the
state shared by all hosts, executed by one host while it holds its protocol mutex.  The state
keeps the coherence sidecars, the descriptor fields the service reads, one service per host and
one FIFO channel for every ordered host pair.  Deferred packets wait in `outbound` until the
channel has room for them.
-/

namespace Cxloom.LoomMem

/-- Lifecycle of an allocation. -/
inductive AllocationState
  | empty
  | allocated
  | retiring
deriving DecidableEq, Repr

/-- One coherence block of one object. -/
structure BlockKey where
  /-- Allocation base. -/
  object : GlobalPointer
  /-- Position of the block inside the allocation. -/
  blockIndex : Nat
deriving DecidableEq, Repr

/-- Authoritative sidecar metadata of one coherence block. -/
structure CoherenceBlockDescriptor (cluster : Cluster) where
  tokenOwner : cluster.Host
  /-- Number of modified releases. -/
  version : Nat
  /-- Number of ownership transfers, counted from one. -/
  tokenEpoch : Nat
  /-- Odd exactly while a writer changes the block. -/
  writebackEpoch : Nat
  lastWriter : Option cluster.Host

/-- The descriptor fields read by the token service and by retirement. -/
structure AllocationDescriptor (cluster : Cluster) where
  state : AllocationState
  ownerHost : cluster.Host
  coherenceBlockCount : Nat
  /-- Hosts that acknowledged closing. -/
  sealedHosts : HostMask
  activeOperations : cluster.Host → Nat
  replicaHosts : HostMask

/-- A grant that the requester may use until it releases it. -/
structure TokenLease where
  key : BlockKey
  /-- Block version at the grant. -/
  version : Nat
  /-- Ownership epoch at the grant. -/
  tokenEpoch : Nat
deriving DecidableEq, Repr

/-- Handle returned by `Request`. -/
structure TokenRequestHandle where
  key : BlockKey
  requestId : Nat
deriving DecidableEq, Repr

/-- `TOKEN_REQ`. -/
structure TokenRequest (cluster : Cluster) where
  key : BlockKey
  /-- Identifier chosen by the requester. -/
  requestId : Nat
  /-- Block version seen by the requester. -/
  observedVersion : Nat
  /-- Host that wants the token. -/
  requester : cluster.Host
  /-- Whether the grant opens a writeback epoch. -/
  activateCoherenceEpoch : Bool
deriving DecidableEq

/-- `TOKEN_GRANT`. -/
structure TokenGrant (cluster : Cluster) where
  key : BlockKey
  /-- Identifier of the granted request. -/
  requestId : Nat
  newOwner : cluster.Host
  /-- Block version at the handoff. -/
  version : Nat
  /-- Ownership epoch of the handoff. -/
  tokenEpoch : Nat
  /-- Whether the receiver opens a writeback epoch. -/
  activateCoherenceEpoch : Bool
deriving DecidableEq

/-- Why a request was completed without a grant. -/
inductive TokenCompletionReason
  | cancelled
  | retiring
  | invalidBlock
  | invalidMetadata
  | internalFailure
  | tooLate
deriving DecidableEq, Repr

/-- `TOKEN_REJECT`. -/
structure TokenReject (cluster : Cluster) where
  key : BlockKey
  /-- Identifier of the rejected request. -/
  requestId : Nat
  /-- Host that wanted the token. -/
  requester : cluster.Host
  /-- Cause of the rejection. -/
  reason : TokenCompletionReason
deriving DecidableEq

/-- `TOKEN_CANCEL`. -/
structure TokenCancel (cluster : Cluster) where
  /-- Block of the cancelled request. -/
  key : BlockKey
  /-- Identifier of the cancelled request. -/
  requestId : Nat
  requester : cluster.Host
deriving DecidableEq

/-- Whether a pending request is the one a cancellation names. -/
def TokenCancel.matches {cluster : Cluster} (cancel : TokenCancel cluster)
    (request : TokenRequest cluster) : Bool :=
  request.requester = cancel.requester ∧ request.requestId = cancel.requestId ∧
    request.key.blockIndex = cancel.key.blockIndex

/-- `TOKEN_CANCEL_ACK`. -/
structure TokenCancelAck (cluster : Cluster) where
  /-- Block of the cancelled request. -/
  key : BlockKey
  /-- Identifier of the cancelled request. -/
  requestId : Nat
  requester : cluster.Host
  /-- `cancelled`, or `tooLate` when a grant won the race. -/
  reason : TokenCompletionReason
deriving DecidableEq

/-- Packets of one channel; `application` stands for every kind the service does not handle. -/
inductive Packet (cluster : Cluster)
  | request (message : TokenRequest cluster)
  | grant (message : TokenGrant cluster)
  | reject (message : TokenReject cluster)
  | cancel (message : TokenCancel cluster)
  | cancelAck (message : TokenCancelAck cluster)
  | application
deriving DecidableEq

/-- Progress of one local request. -/
inductive WaiterState
  | active
  | cancelling
  | granted
  | rejected
  | cancelled
deriving DecidableEq, Repr

/-- Local record of a request that was not yet collected. -/
structure Waiter where
  /-- Progress of the request. -/
  state : WaiterState
  object : GlobalPointer
  /-- Whether the caller gave the request up. -/
  abandoned : Bool
  /-- Whether a synchronous canceller collects the record. -/
  retainCompletion : Bool
  /-- Granted lease, meaningful once granted. -/
  lease : TokenLease
  /-- Reported status of a rejected or cancelled request. -/
  completionStatus : Status
deriving DecidableEq

/-- Arbitration state of one block on one host. -/
structure LocalObject (cluster : Cluster) where
  /-- Whether the token has arrived here. -/
  available : Bool
  /-- Whether the token is in use here. -/
  held : Bool
  /-- Requests accepted here, oldest first. -/
  pending : List (TokenRequest cluster)
deriving DecidableEq

/-- The entry that `unordered_map::operator[]` creates. -/
def LocalObject.fresh {cluster : Cluster} : LocalObject cluster := ⟨false, false, []⟩

/-- One host's `TokenService`. -/
structure Service (cluster : Cluster) where
  nextRequestId : Nat
  /-- Requests not yet collected, by identifier. -/
  waiters : Nat → Option Waiter
  /-- Arbitration state by block. -/
  objects : BlockKey → LocalObject cluster
  /-- Deferred packets by destination, oldest first. -/
  outbound : cluster.Host → List (Packet cluster)

/-- One directed queue between two hosts. -/
structure Channel (cluster : Cluster) where
  /-- Published packets that were not popped, oldest first. -/
  packets : List (Packet cluster)
  consumedSequence : Nat

/-- Producer cursor of a channel. -/
def Channel.publishedSequence {cluster : Cluster} (channel : Channel cluster) : Nat :=
  channel.consumedSequence + channel.packets.length

/-- Everything the token services of a cluster read and write. -/
structure TokenState (cluster : Cluster) where
  /-- Published descriptors; an address without a slot is `empty`. -/
  descriptor : GlobalPointer → AllocationDescriptor cluster
  block : BlockKey → CoherenceBlockDescriptor cluster
  service : cluster.Host → Service cluster
  /-- Directed queues, by producer and consumer. -/
  channel : cluster.Host → cluster.Host → Channel cluster

namespace TokenState

variable {cluster : Cluster}

/-! ## State access -/

/-- Waiter registered under an identifier. -/
def waiter (state : TokenState cluster) (host : cluster.Host) (requestId : Nat) : Option Waiter :=
  (state.service host).waiters requestId

def localObject (state : TokenState cluster) (host : cluster.Host) (key : BlockKey) :
    LocalObject cluster :=
  (state.service host).objects key

/-- Packets from one host to another, in flight or deferred, oldest first. -/
def fifo (state : TokenState cluster) (source destination : cluster.Host) :
    List (Packet cluster) :=
  (state.channel source destination).packets ++ (state.service source).outbound destination

/-- Replace one host's service. -/
def setService (state : TokenState cluster) (host : cluster.Host) (service : Service cluster) :
    TokenState cluster :=
  { state with service := Function.update state.service host service }

/-- Register, change or erase a waiter. -/
def setWaiter (state : TokenState cluster) (host : cluster.Host) (requestId : Nat)
    (waiter : Option Waiter) : TokenState cluster :=
  let service := state.service host
  state.setService host
    { service with waiters := Function.update service.waiters requestId waiter }

/-- Change the arbitration state of a block on a host. -/
def setLocal (state : TokenState cluster) (host : cluster.Host) (key : BlockKey)
    (object : LocalObject cluster) : TokenState cluster :=
  let service := state.service host
  state.setService host { service with objects := Function.update service.objects key object }

/-- Change a coherence sidecar. -/
def setBlock (state : TokenState cluster) (key : BlockKey)
    (block : CoherenceBlockDescriptor cluster) : TokenState cluster :=
  { state with block := Function.update state.block key block }

/-! ## Descriptor lookup -/

/-- Admission checks of `AcquireReference`.  A published slot always names a well-formed
descriptor, so the shape checks of `FindDescriptorLocked` reduce to the lifecycle state. -/
def referenceStatus (state : TokenState cluster) (object : GlobalPointer) (host : cluster.Host)
    (allowRetiring : Bool) : Status :=
  let descriptor := state.descriptor object
  if kMaxHosts ≤ host.val then
    .invalidArgument "reference host is out of range"
  else if object.regionId ≠ 0 ∨ object.offset = 0 then
    .invalidArgument "invalid allocation address"
  else if descriptor.state = .empty then
    .notFound "address has no accessible allocation slot"
  else if descriptor.state ≠ .allocated ∧ ¬(allowRetiring ∧ descriptor.state = .retiring) then
    .notFound "global pointer is not an accessible allocation base"
  else if descriptor.sealedHosts.contains host then
    .failedPrecondition "host has sealed this retiring object"
  else
    .ok

/-- `Target`: a reference held for the length of the call, then the block lookup. -/
def target (state : TokenState cluster) (host : cluster.Host) (key : BlockKey)
    (allowRetiring : Bool) : Status :=
  let reference := state.referenceStatus key.object host allowRetiring
  if reference.isOk then
    if (state.descriptor key.object).coherenceBlockCount ≤ key.blockIndex then
      .invalidArgument "coherence block index is out of range"
    else
      .ok
  else
    reference

/-- `IsRetiring`. -/
def isRetiring (state : TokenState cluster) (object : GlobalPointer) : Bool :=
  object.regionId = 0 ∧ object.offset ≠ 0 ∧ (state.descriptor object).state = .retiring

/-! ## Outbound packets -/

/-- `ProgressOutbound`: publish deferred packets, oldest first, into every queue with room.  The
resolver has no queue for the self pair, so a packet deferred to the host itself ends the scan. -/
def progressOutbound (state : TokenState cluster) (host : cluster.Host) :
    Status × TokenState cluster :=
  let service := state.service host
  let blocked := service.outbound host ≠ []
  let room := fun destination : cluster.Host =>
    if blocked ∧ host ≤ destination then 0
    else cluster.queueCapacity - (state.channel host destination).packets.length
  let flushed := fun destination =>
    let channel := state.channel host destination
    { channel with
      packets := channel.packets ++ (service.outbound destination).take (room destination) }
  (if blocked then .invalidArgument "self-pairs do not use the shared queue transport" else .ok,
    { state with
      channel := Function.update state.channel host flushed
      service := Function.update state.service host
        { service with
          outbound := fun destination =>
            (service.outbound destination).drop (room destination) } })

/-- `EnqueueOutbound`: defer a packet, then publish what fits. -/
def enqueueOutbound (state : TokenState cluster) (host destination : cluster.Host)
    (packet : Packet cluster) : Status × TokenState cluster :=
  if kMaxHosts ≤ destination.val then
    (.invalidArgument "token destination is out of range", state)
  else
    let service := state.service host
    progressOutbound
      (state.setService host
        { service with
          outbound := Function.update service.outbound destination
            (service.outbound destination ++ [packet]) })
      host

/-- `SendRequest`. -/
def sendRequest (state : TokenState cluster) (host destination : cluster.Host)
    (request : TokenRequest cluster) : Status × TokenState cluster :=
  state.enqueueOutbound host destination (.request request)

/-- Forward a list of requests in order, stopping at the first refusal. -/
def sendRequests (host destination : cluster.Host) :
    List (TokenRequest cluster) → TokenState cluster → Status × TokenState cluster
  | [], state => (.ok, state)
  | request :: rest, state =>
      let sent := state.sendRequest host destination request
      if sent.1.isOk then sendRequests host destination rest sent.2 else sent

/-! ## Completion of local requests -/

/-- `HandleReject`. -/
def handleReject (state : TokenState cluster) (host : cluster.Host)
    (reject : TokenReject cluster) : Status × TokenState cluster :=
  if reject.requester ≠ host ∨ reject.requestId = 0 then
    (.invalidArgument "token rejection is addressed to the wrong requester", state)
  else
    match state.waiter host reject.requestId with
    | none => (.ok, state)
    | some waiter =>
        if waiter.state = .granted then
          (.ok, state)
        else
          let completed :=
            { waiter with
              state := if waiter.state = .cancelling then .cancelled else .rejected
              completionStatus :=
                .failedPrecondition "token request was rejected by its owner" }
          (.ok, state.setWaiter host reject.requestId
            (if waiter.abandoned ∧ ¬waiter.retainCompletion then none else some completed))

/-- `Reject`. -/
def reject (state : TokenState cluster) (host : cluster.Host) (request : TokenRequest cluster)
    (reason : TokenCompletionReason) : Status × TokenState cluster :=
  let message : TokenReject cluster :=
    { key := request.key
      requestId := request.requestId
      requester := request.requester
      reason := reason }
  if request.requester = host then
    state.handleReject host message
  else
    state.enqueueOutbound host request.requester (.reject message)

/-- `HandleCancelAck`. -/
def handleCancelAck (state : TokenState cluster) (host : cluster.Host)
    (ack : TokenCancelAck cluster) : Status × TokenState cluster :=
  if ack.requester ≠ host ∨ ack.requestId = 0 then
    (.invalidArgument "token cancellation ack is addressed to the wrong requester", state)
  else
    match state.waiter host ack.requestId with
    | none => (.ok, state)
    | some waiter =>
        if ack.reason = .tooLate then
          (.ok, state)
        else
          let completed :=
            { waiter with
              state := .cancelled
              completionStatus := .failedPrecondition "token request was cancelled" }
          (.ok, state.setWaiter host ack.requestId
            (if waiter.abandoned ∧ ¬waiter.retainCompletion then none else some completed))

/-- `AcknowledgeCancel`. -/
def acknowledgeCancel (state : TokenState cluster) (host : cluster.Host)
    (cancel : TokenCancel cluster) (reason : TokenCompletionReason) :
    Status × TokenState cluster :=
  let ack : TokenCancelAck cluster :=
    { key := cancel.key
      requestId := cancel.requestId
      requester := cancel.requester
      reason := reason }
  if cancel.requester = host then
    state.handleCancelAck host ack
  else
    state.enqueueOutbound host cancel.requester (.cancelAck ack)

/-! ## Grants and releases -/

/-- `ActivateWriter`: open a writeback epoch on an even block. -/
def activateWriter (state : TokenState cluster) (key : BlockKey) : Status × TokenState cluster :=
  let block := state.block key
  if block.writebackEpoch % 2 = 0 then
    (.ok, state.setBlock key { block with writebackEpoch := block.writebackEpoch + 1 })
  else
    (.failedPrecondition "another writer is already active for this object", state)

/-- `ActivateWriter` when the request asks for it. -/
def activateIf (state : TokenState cluster) (key : BlockKey) (activate : Bool) :
    Status × TokenState cluster :=
  if activate then state.activateWriter key else (.ok, state)

/-- Hand a lease to a waiter.  An abandoned waiter is completed instead and its late grant goes
to `releaseLate`. -/
def completeGrant (releaseLate : TokenLease → TokenState cluster → Status × TokenState cluster)
    (state : TokenState cluster) (host : cluster.Host) (key : BlockKey) (requestId : Nat)
    (waiter : Waiter) (lease : TokenLease) : Status × TokenState cluster :=
  let object := state.localObject host key
  let owned := state.setLocal host key { object with held := true, available := true }
  if waiter.abandoned then
    let completed :=
      { waiter with
        state := .cancelled
        completionStatus := .failedPrecondition "late token grant was cancelled" }
    releaseLate lease
      (owned.setWaiter host requestId (if waiter.retainCompletion then some completed else none))
  else
    (.ok, owned.setWaiter host requestId (some { waiter with state := .granted, lease := lease }))

/-- The remote half of `Grant`: move ownership, send the grant, forward the pending queue. -/
def handOff (state : TokenState cluster) (host : cluster.Host) (key : BlockKey)
    (request : TokenRequest cluster) : Status × TokenState cluster :=
  let block := state.block key
  let moved := state.setBlock key
    { block with tokenEpoch := block.tokenEpoch + 1, tokenOwner := request.requester }
  let sent := moved.enqueueOutbound host request.requester
    (.grant
      { key := request.key
        requestId := request.requestId
        newOwner := request.requester
        version := block.version
        tokenEpoch := block.tokenEpoch + 1
        activateCoherenceEpoch := request.activateCoherenceEpoch })
  if sent.1.isOk then
    let remaining := (sent.2.localObject host key).pending
    sendRequests host request.requester remaining (sent.2.setLocal host key .fresh)
  else
    sent

/-- `Grant` on the block found by the caller. -/
def grant (releaseLate : TokenLease → TokenState cluster → Status × TokenState cluster)
    (state : TokenState cluster) (host : cluster.Host) (key : BlockKey)
    (request : TokenRequest cluster) : Status × TokenState cluster :=
  if (state.descriptor key.object).state ≠ .allocated then
    (.ok, state.setLocal host key { state.localObject host key with held := false })
  else if request.requester = host then
    match state.waiter host request.requestId with
    | none => (.notFound "local token requester no longer exists", state)
    | some waiter =>
        let activated := state.activateIf key request.activateCoherenceEpoch
        if activated.1.isOk then
          completeGrant releaseLate activated.2 host key request.requestId waiter
            { key := request.key
              version := (activated.2.block key).version
              tokenEpoch := (activated.2.block key).tokenEpoch }
        else
          activated
  else
    state.handOff host key request

/-- Publication part of `Release`: count a modification and close an open writeback epoch. -/
def publishRelease (state : TokenState cluster) (host : cluster.Host) (key : BlockKey)
    (modified : Bool) : TokenState cluster :=
  let block := state.block key
  let published :=
    if modified then { block with lastWriter := some host, version := block.version + 1 }
    else block
  state.setBlock key
    (if block.writebackEpoch % 2 = 0 then published
    else { published with writebackEpoch := block.writebackEpoch + 1 })

/-- Checks of `Release` and `BeginWriteback` on a presented lease. -/
def leaseStatus (state : TokenState cluster) (host : cluster.Host) (lease : TokenLease) :
    Status :=
  let found := state.target host lease.key true
  let block := state.block lease.key
  if ¬found.isOk then
    found
  else if block.tokenOwner ≠ host ∨ block.tokenEpoch ≠ lease.tokenEpoch then
    .failedPrecondition "token lease is stale or not locally owned"
  else if ¬(state.localObject host lease.key).held then
    .failedPrecondition "token lease is not active in the local service"
  else
    .ok

/-- `Release` with the block's pending queue as an argument: a grant to an abandoned local
requester releases again, one pending request later. -/
def releasePending (host : cluster.Host) :
    List (TokenRequest cluster) → TokenLease → Bool → TokenState cluster →
      Status × TokenState cluster
  | pending, lease, modified, state =>
      let checked := state.leaseStatus host lease
      if ¬checked.isOk then
        (checked, state)
      else if modified ∧ (state.block lease.key).writebackEpoch % 2 = 0 then
        (.failedPrecondition "modified release requires an active writeback epoch", state)
      else
        let published := state.publishRelease host lease.key modified
        let object := published.localObject host lease.key
        if published.isRetiring lease.key.object then
          (.ok, published.setLocal host lease.key { object with pending := [], held := false })
        else
          match pending with
          | [] => (.ok, published.setLocal host lease.key { object with held := false })
          | next :: rest =>
              grant (fun late state => releasePending host rest late false state)
                (published.setLocal host lease.key { object with pending := rest }) host
                lease.key next

/-- `Release`. -/
def release (state : TokenState cluster) (host : cluster.Host) (lease : TokenLease)
    (modified : Bool) : Status × TokenState cluster :=
  releasePending host (state.localObject host lease.key).pending lease modified state

/-- `BeginWriteback`. -/
def beginWriteback (state : TokenState cluster) (host : cluster.Host) (lease : TokenLease) :
    Status × TokenState cluster :=
  let checked := state.leaseStatus host lease
  if checked.isOk then state.activateWriter lease.key else (checked, state)

/-! ## Message handlers -/

/-- `HandleRequest`. -/
def handleRequest (state : TokenState cluster) (host : cluster.Host)
    (request : TokenRequest cluster) : Status × TokenState cluster :=
  let key := request.key
  let found := state.target host key false
  let block := state.block key
  if kMaxHosts ≤ request.requester.val ∨ request.requestId = 0 then
    (.invalidArgument "invalid token request identity", state)
  else if ¬found.isOk then
    state.reject host request
      (if found.code = .invalidArgument then .invalidBlock else .invalidMetadata)
  else if (state.descriptor key.object).state ≠ .allocated then
    state.reject host request .retiring
  else if block.version < request.observedVersion then
    state.reject host request .invalidMetadata
  else if block.tokenOwner ≠ host then
    state.sendRequest host block.tokenOwner request
  else
    let object := state.localObject host key
    if ¬object.available ∨ object.held then
      (.ok, state.setLocal host key { object with pending := object.pending ++ [request] })
    else
      grant (fun late state => state.release host late false)
        (state.setLocal host key { object with held := true }) host key request

/-- `HandleGrant`. -/
def handleGrant (state : TokenState cluster) (host : cluster.Host)
    (grant : TokenGrant cluster) : Status × TokenState cluster :=
  let key := grant.key
  let block := state.block key
  if grant.newOwner ≠ host ∨ grant.requestId = 0 then
    (.invalidArgument "token grant is addressed to the wrong owner", state)
  else if ¬(state.target host key false).isOk then
    state.handleReject host
      { key := key, requestId := grant.requestId, requester := host, reason := .retiring }
  else if block.tokenOwner ≠ host ∨ block.tokenEpoch ≠ grant.tokenEpoch ∨
      block.version ≠ grant.version then
    (.failedPrecondition "token grant does not match authoritative metadata", state)
  else
    match state.waiter host grant.requestId with
    | none => (.notFound "token grant has no matching request", state)
    | some waiter =>
        let activated := state.activateIf key grant.activateCoherenceEpoch
        if activated.1.isOk then
          completeGrant (fun late state => state.release host late false) activated.2 host key
            grant.requestId waiter
            { key := key, version := grant.version, tokenEpoch := grant.tokenEpoch }
        else
          activated

/-- `HandleCancel`.  The forwarding branch sends to an owner other than `host`, so it never
re-enters the local case of `SendCancel`. -/
def handleCancel (state : TokenState cluster) (host : cluster.Host)
    (cancel : TokenCancel cluster) : Status × TokenState cluster :=
  let key := cancel.key
  let owner := (state.block key).tokenOwner
  if kMaxHosts ≤ cancel.requester.val ∨ cancel.requestId = 0 then
    (.invalidArgument "invalid token cancellation identity", state)
  else if ¬(state.target host key true).isOk then
    state.acknowledgeCancel host cancel .cancelled
  else if owner ≠ host then
    state.enqueueOutbound host owner (.cancel cancel)
  else
    let object := state.localObject host key
    let removed := object.pending.any (TokenCancel.matches cancel)
    let erased := state.setLocal host key
      { object with pending := object.pending.eraseP (TokenCancel.matches cancel) }
    erased.acknowledgeCancel host cancel
      (if removed ∨ owner ≠ cancel.requester then .cancelled else .tooLate)

/-- `SendCancel`. -/
def sendCancel (state : TokenState cluster) (host destination : cluster.Host)
    (cancel : TokenCancel cluster) : Status × TokenState cluster :=
  if destination = host then
    state.handleCancel host cancel
  else
    state.enqueueOutbound host destination (.cancel cancel)

/-- `HandleMessage`.  Packets of a retiring object are consumed without effect; kinds of other
services are handled elsewhere. -/
def handleMessage (state : TokenState cluster) (host : cluster.Host) (packet : Packet cluster) :
    Status × TokenState cluster :=
  match packet with
  | .request request =>
      if state.isRetiring request.key.object then (.ok, state)
      else state.handleRequest host request
  | .grant grant =>
      if state.isRetiring grant.key.object then (.ok, state) else state.handleGrant host grant
  | .reject reject =>
      if state.isRetiring reject.key.object then (.ok, state) else state.handleReject host reject
  | .cancel cancel =>
      if state.isRetiring cancel.key.object then (.ok, state) else state.handleCancel host cancel
  | .cancelAck ack =>
      if state.isRetiring ack.key.object then (.ok, state) else state.handleCancelAck host ack
  | .application => (.ok, state)

/-- Pop the oldest published packet of a channel. -/
def pop (state : TokenState cluster) (source destination : cluster.Host) :
    Option (Packet cluster × TokenState cluster) :=
  let channel := state.channel source destination
  match channel.packets with
  | [] => none
  | packet :: rest =>
      some (packet,
        { state with
          channel := Function.update state.channel source
            (Function.update (state.channel source) destination
              { packets := rest, consumedSequence := channel.consumedSequence + 1 }) })

/-! ## Caller operations -/

/-- The record `Request` registers before it looks at the owner. -/
def freshWaiter (object : GlobalPointer) : Waiter :=
  { state := .active
    object := object
    abandoned := false
    retainCompletion := false
    lease := ⟨⟨⟨0, 0⟩, 0⟩, 0, 0⟩
    completionStatus := .ok }

/-- Draw a request identifier and register its waiter. -/
def issue (state : TokenState cluster) (host : cluster.Host) (object : GlobalPointer) :
    TokenState cluster :=
  let service := state.service host
  state.setService host
    { service with
      nextRequestId := service.nextRequestId + 1
      waiters := Function.update service.waiters service.nextRequestId
        (some (freshWaiter object)) }

/-- `Request`.  Only the owner moves the token, so a local owner cannot change inside the call
and the retry of the source is never taken. -/
def request (state : TokenState cluster) (host : cluster.Host) (key : BlockKey)
    (activateCoherenceEpoch : Bool) : Except Status TokenRequestHandle × TokenState cluster :=
  let found := state.target host key false
  let requestId := (state.service host).nextRequestId
  let handle : TokenRequestHandle := ⟨key, requestId⟩
  let issued := state.issue host key.object
  let block := state.block key
  let message : TokenRequest cluster :=
    { key := key
      requestId := requestId
      observedVersion := block.version
      requester := host
      activateCoherenceEpoch := activateCoherenceEpoch }
  if ¬found.isOk then
    (.error found, state)
  else if block.tokenOwner ≠ host then
    let sent := issued.sendRequest host block.tokenOwner message
    if sent.1.isOk then (.ok handle, sent.2)
    else (.error sent.1, sent.2.setWaiter host requestId none)
  else if (state.descriptor key.object).state ≠ .allocated then
    (.error (.failedPrecondition "token request targets a retiring allocation"),
      issued.setWaiter host requestId none)
  else
    let object := issued.localObject host key
    if ¬object.available ∨ object.held then
      (.ok handle,
        issued.setLocal host key { object with pending := object.pending ++ [message] })
    else
      let activated :=
        (issued.setLocal host key { object with held := true }).activateIf key
          activateCoherenceEpoch
      if activated.1.isOk then
        (.ok handle,
          activated.2.setWaiter host requestId
            (some
              { freshWaiter key.object with
                state := .granted
                lease :=
                  { key := key
                    version := (activated.2.block key).version
                    tokenEpoch := (activated.2.block key).tokenEpoch } }))
      else
        (.error activated.1,
          (activated.2.setLocal host key { object with held := false }).setWaiter host
            requestId none)

/-- `Wait` at the moment it ends: with an outcome if there is one, else by its timeout. -/
def wait (state : TokenState cluster) (host : cluster.Host) (handle : TokenRequestHandle) :
    Except Status TokenLease × TokenState cluster :=
  match state.waiter host handle.requestId with
  | none => (.error (.notFound "unknown token request handle"), state)
  | some waiter =>
      match waiter.state with
      | .granted => (.ok waiter.lease, state.setWaiter host handle.requestId none)
      | .rejected | .cancelled =>
          (.error waiter.completionStatus, state.setWaiter host handle.requestId none)
      | .active | .cancelling =>
          (.error
            (.unavailable "timed out waiting for token grant; request remains active"), state)

/-- `Cancel`. -/
def cancel (state : TokenState cluster) (host : cluster.Host) (handle : TokenRequestHandle) :
    Status × TokenState cluster :=
  match state.waiter host handle.requestId with
  | none => (.notFound "unknown token request handle", state)
  | some waiter =>
      match waiter.state with
      | .granted =>
          (state.setWaiter host handle.requestId none).release host waiter.lease false
      | .rejected | .cancelled =>
          (waiter.completionStatus, state.setWaiter host handle.requestId none)
      | .active | .cancelling =>
          let marked := state.setWaiter host handle.requestId
            (some { waiter with abandoned := true, state := .cancelling })
          let message : TokenCancel cluster :=
            { key := handle.key, requestId := handle.requestId, requester := host }
          if marked.isRetiring handle.key.object then
            (.ok, marked.setWaiter host handle.requestId none)
          else if ¬(marked.target host handle.key true).isOk then
            marked.acknowledgeCancel host message .cancelled
          else
            marked.sendCancel host (marked.block handle.key).tokenOwner message

/-- `CancelAndWait` up to its wait: keep the completion record, then `Cancel`. -/
def cancelAndWait (state : TokenState cluster) (host : cluster.Host)
    (handle : TokenRequestHandle) : Status × TokenState cluster :=
  match state.waiter host handle.requestId with
  | none => (.notFound "unknown token request handle", state)
  | some waiter =>
      (state.setWaiter host handle.requestId
        (some { waiter with retainCompletion := true })).cancel host handle

/-- The wait of `CancelAndWait` at the moment it ends. -/
def awaitCancel (state : TokenState cluster) (host : cluster.Host)
    (handle : TokenRequestHandle) : Status × TokenState cluster :=
  match state.waiter host handle.requestId with
  | none => (.ok, state)
  | some waiter =>
      match waiter.state with
      | .granted =>
          (state.setWaiter host handle.requestId none).release host waiter.lease false
      | .rejected | .cancelled => (.ok, state.setWaiter host handle.requestId none)
      | .active | .cancelling =>
          (.unavailable "timed out waiting for token cancellation completion", state)

end TokenState
end Cxloom.LoomMem
