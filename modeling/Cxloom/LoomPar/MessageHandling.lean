import Cxloom.LoomMem.Queue
import Cxloom.LoomPar.Barrier
import Cxloom.LoomPar.ManifestRendezvous
import Cxloom.LoomPar.Scheduler

/-!
# Message handling

`LoomParRuntime::HandleMessage` on the bytes of a message: every kind with its own wire record and
checks, the state that it changes and the messages that it enqueues in `outgoing_`.  What the
handler reads from outside the runtime, the clock, the load of the workers, the fill of the queues
and whether a fiber can be built, is its input.
-/

namespace Cxloom.LoomPar

open LoomMem (MessageKind MessageHeader QueueEnvelope kQueuePayloadBytes)

/-- `"CXLP"`. -/
def kWireMagic : Nat := 0x43584c50

/-- Version of the thread and barrier records. -/
def kWireVersion : Nat := 1

def kLoadWireVersion : Nat := 2

def kThreadWireBytes : Nat := 48

def kBarrierWireBytes : Nat := 32

def kLoadWireBytes : Nat := 56

def kMigrationRequestBytes : Nat := 48

def kMigrationAckBytes : Nat := 56

/-- A thirty-two bit word as a signed number. -/
def signed32 (word : Nat) : Int :=
  if word < 2 ^ 31 then word else word - 2 ^ 32

/-- The word of a signed number. -/
def word32 (value : Int) : Nat := (value % 2 ^ 32).toNat

/-- The record in front of a thread message. -/
structure ThreadWire where
  /-- Format mark. -/
  magic : Nat
  version : Nat
  /-- One for a function of the cluster manifest. -/
  reserved : Nat
  /-- Number of the thread at its home. -/
  tid : Nat
  function : UInt64
  code : Int
  home : Nat
  argumentBytes : Nat
  resultValue : UInt64
  /-- Number of accepted migration requests. -/
  migrationEpoch : Nat

namespace ThreadWire

/-- The bytes of a record. -/
def encode (order : ByteOrder) (wire : ThreadWire) : List UInt8 :=
  order.encode 4 wire.magic ++ order.encode 2 wire.version ++ order.encode 2 wire.reserved ++
    order.encode 8 wire.tid ++ order.encode 8 wire.function.toNat ++
    order.encode 4 (word32 wire.code) ++ order.encode 2 wire.home ++
    order.encode 2 wire.argumentBytes ++ order.encode 8 wire.resultValue.toNat ++
    order.encode 8 wire.migrationEpoch

/-- The record at the front of some bytes. -/
def decode (order : ByteOrder) (bytes : List UInt8) : ThreadWire where
  magic := order.decode (slice 0 4 bytes)
  version := order.decode (slice 4 2 bytes)
  reserved := order.decode (slice 6 2 bytes)
  tid := order.decode (slice 8 8 bytes)
  function := UInt64.ofNat (order.decode (slice 16 8 bytes))
  code := signed32 (order.decode (slice 24 4 bytes))
  home := order.decode (slice 28 2 bytes)
  argumentBytes := order.decode (slice 30 2 bytes)
  resultValue := UInt64.ofNat (order.decode (slice 32 8 bytes))
  migrationEpoch := order.decode (slice 40 8 bytes)

@[simp] theorem length_encode (order : ByteOrder) (wire : ThreadWire) :
    (wire.encode order).length = kThreadWireBytes := by
  simp [encode, kThreadWireBytes]

end ThreadWire

/-- A thread message without arguments. -/
def encodeThread (order : ByteOrder) (kind : MessageKind) (source destination : Nat)
    (home tid : Nat) (code : Int) : QueueEnvelope where
  header := ⟨kind, source, destination, kThreadWireBytes⟩
  payload := ThreadWire.encode order
    { magic := kWireMagic
      version := kWireVersion
      reserved := 0
      tid := tid
      function := 0
      code := code
      home := home
      argumentBytes := 0
      resultValue := 0
      migrationEpoch := 0 }

/-- The record of a barrier message. -/
structure BarrierWire where
  /-- Format mark. -/
  magic : Nat
  version : Nat
  /-- Barrier identifier. -/
  id : Nat
  /-- Generation of the sender's entry. -/
  generation : Nat
  /-- One if the sender's entry is broken. -/
  failed : Nat

namespace BarrierWire

/-- The bytes of a record. -/
def encode (order : ByteOrder) (wire : BarrierWire) : List UInt8 :=
  order.encode 4 wire.magic ++ order.encode 2 wire.version ++ order.encode 2 0 ++
    order.encode 8 wire.id ++ order.encode 8 wire.generation ++ order.encode 8 wire.failed

/-- The record in some bytes. -/
def decode (order : ByteOrder) (bytes : List UInt8) : BarrierWire where
  magic := order.decode (slice 0 4 bytes)
  version := order.decode (slice 4 2 bytes)
  id := order.decode (slice 8 8 bytes)
  generation := order.decode (slice 16 8 bytes)
  failed := order.decode (slice 24 8 bytes)

@[simp] theorem length_encode (order : ByteOrder) (wire : BarrierWire) :
    (wire.encode order).length = kBarrierWireBytes := by
  simp [encode, kBarrierWireBytes]

end BarrierWire

def BarrierMessageKind.messageKind : BarrierMessageKind → MessageKind
  | .arrive => .barrierArrive
  | .release => .barrierRelease

def encodeBarrier {cluster : Cluster} (order : ByteOrder) (message : BarrierMessage cluster) :
    QueueEnvelope where
  header := ⟨message.kind.messageKind, message.source, message.target, kBarrierWireBytes⟩
  payload := BarrierWire.encode order
    { magic := kWireMagic
      version := kWireVersion
      id := message.id
      generation := message.generation
      failed := if message.failed then 1 else 0 }

/-- Sampled workers of a host. -/
structure WorkerSample where
  /-- Busy workers. -/
  executing : Nat
  /-- Runnable fibers. -/
  ready : Nat
  blocked : Nat
  workers : Nat

/-- The record of a load message. -/
structure LoadWire where
  /-- Format mark. -/
  magic : Nat
  version : Nat
  /-- Executions on the sender. -/
  running : Nat
  /-- Its remote creations in flight. -/
  pending : Nat
  /-- Messages queued for the receiver. -/
  queued : Nat
  /-- Number of the sample. -/
  sequence : Nat
  sampledAtNs : Nat
  execution : WorkerSample

namespace LoadWire

/-- The bytes of a record. -/
def encode (order : ByteOrder) (wire : LoadWire) : List UInt8 :=
  order.encode 4 wire.magic ++ order.encode 2 wire.version ++ order.encode 2 0 ++
    order.encode 4 wire.running ++ order.encode 4 wire.pending ++ order.encode 4 wire.queued ++
    order.encode 4 0 ++ order.encode 8 wire.sequence ++ order.encode 8 wire.sampledAtNs ++
    order.encode 4 wire.execution.executing ++ order.encode 4 wire.execution.ready ++
    order.encode 4 wire.execution.blocked ++ order.encode 4 wire.execution.workers

/-- The record in some bytes. -/
def decode (order : ByteOrder) (bytes : List UInt8) : LoadWire where
  magic := order.decode (slice 0 4 bytes)
  version := order.decode (slice 4 2 bytes)
  running := order.decode (slice 8 4 bytes)
  pending := order.decode (slice 12 4 bytes)
  queued := order.decode (slice 16 4 bytes)
  sequence := order.decode (slice 24 8 bytes)
  sampledAtNs := order.decode (slice 32 8 bytes)
  execution :=
    { executing := order.decode (slice 40 4 bytes)
      ready := order.decode (slice 44 4 bytes)
      blocked := order.decode (slice 48 4 bytes)
      workers := order.decode (slice 52 4 bytes) }

@[simp] theorem length_encode (order : ByteOrder) (wire : LoadWire) :
    (wire.encode order).length = kLoadWireBytes := by
  simp [encode, kLoadWireBytes]

end LoadWire

/-- A load message. -/
def encodeLoad (order : ByteOrder) (source destination : Nat) (wire : LoadWire) :
    QueueEnvelope where
  header := ⟨.loadUpdate, source, destination, kLoadWireBytes⟩
  payload := wire.encode order

/-- What the handler reads of a migration request. -/
structure MigrationRequest where
  /-- Sender in the header that the payload repeats. -/
  srcHost : Nat
  homeHost : Nat
  /-- Its number there. -/
  localTid : Nat
  /-- Number of the request. -/
  migrationEpoch : Nat

def MigrationRequest.decode (order : ByteOrder) (bytes : List UInt8) : MigrationRequest where
  srcHost := order.decode (slice 2 2 bytes)
  homeHost := order.decode (slice 16 2 bytes)
  localTid := order.decode (slice 24 8 bytes)
  migrationEpoch := order.decode (slice 40 8 bytes)

/-- Number of the message kind of an acknowledgement. -/
def kMigrateAckCode : Nat := 13

/-- Number of the status `kUnimplemented`. -/
def kUnimplementedCode : Nat := 6

/-- The refusal of a migration request.  Its destination is the sender that the payload names. -/
def encodeMigrationAck (order : ByteOrder) (localHost : Nat) (request : MigrationRequest) :
    QueueEnvelope where
  header := ⟨.migrateAck, localHost, request.srcHost, kMigrationAckBytes⟩
  payload :=
    order.encode 2 kMigrateAckCode ++ order.encode 2 localHost ++ order.encode 2 request.srcHost ++
      List.replicate 2 0 ++ order.encode 4 kMigrationAckBytes ++ List.replicate 4 0 ++
      order.encode 2 request.homeHost ++ List.replicate 6 0 ++ order.encode 8 request.localTid ++
      order.encode 2 localHost ++ List.replicate 6 0 ++ order.encode 8 request.migrationEpoch ++
      order.encode 4 kUnimplementedCode ++ List.replicate 4 0

/-- The last load sample of a host. -/
structure LoadSample where
  /-- Executions on the host. -/
  running : Nat
  /-- Its remote creations in flight. -/
  pending : Nat
  queued : Nat
  sampleSequence : Nat
  /-- Time at which it arrived. -/
  sampledAtNs : Nat
  execution : WorkerSample

/-- The runtime of one host. -/
structure LoomParRuntime (cluster : Cluster) (Callable : Type) where
  /-- Byte order and word sizes. -/
  platformAbi : Nat
  limits : ThreadLimits
  /-- Functions of the cluster manifest. -/
  clusterRegistry : ClusterRegistry cluster.hostCount Callable
  functionRegistry : List (UInt64 × Callable)
  threadManager : ThreadManager cluster
  executions : ThreadManager cluster
  /-- Home threads of the executions with their local numbers. -/
  remoteExecutions : List (GlobalThreadId cluster × Nat)
  barriers : Nat → BarrierEntry
  scheduler : PlacementScheduler
  /-- Reserved executions. -/
  localRunning : Nat
  /-- Remote creations without a completion. -/
  localPending : Nat
  /-- Number of the last load sample. -/
  loadSequence : Nat
  remoteLoad : cluster.Host → LoadSample
  /-- Messages that wait for their queues. -/
  outgoing : List QueueEnvelope

/-- What the handler reads from outside the runtime. -/
structure HandlerInput (cluster : Cluster) where
  /-- Whether a fiber can be built. -/
  built : Bool
  queued : cluster.Host → Nat
  /-- The clock, at the sample for a host or of a host. -/
  nowNs : cluster.Host → Nat
  execution : cluster.Host → WorkerSample

/-- What a handler does. -/
structure HandlerEffect (cluster : Cluster) (Callable : Type) where
  status : Status
  /-- The runtime afterwards, but for the messages that it enqueues. -/
  runtime : LoomParRuntime cluster Callable
  /-- These messages. -/
  sent : List QueueEnvelope

/-- Append a message.  A load message replaces an older one for its destination. -/
def enqueue : List QueueEnvelope → QueueEnvelope → List QueueEnvelope
  | [], message => [message]
  | pending :: rest, message =>
      if message.header.kind = .loadUpdate ∧ pending.header.kind = .loadUpdate ∧
          pending.header.dstHost = message.header.dstHost then
        message :: rest
      else pending :: enqueue rest message

namespace LoomParRuntime

variable {cluster : Cluster} {Callable : Type}

def order (runtime : LoomParRuntime cluster Callable) : ByteOrder :=
  platformOrder runtime.platformAbi

/-- Return a status and change nothing. -/
def answer (runtime : LoomParRuntime cluster Callable) (status : Status) :
    HandlerEffect cluster Callable :=
  ⟨status, runtime, []⟩

/-- A fragment of a manifest. -/
def handleManifest (runtime : LoomParRuntime cluster Callable) (localHost : cluster.Host)
    (message : QueueEnvelope) : HandlerEffect cluster Callable :=
  if message.header.dstHost ≠ localHost.val then
    runtime.answer (.invalidArgument "invalid manifest endpoint")
  else if source : message.header.srcHost < cluster.hostCount then
    let received := runtime.clusterRegistry.receive runtime.platformAbi localHost
      ⟨⟨message.header.srcHost, source⟩, localHost, message.header.payloadBytes, message.payload⟩
    ⟨received.1, { runtime with clusterRegistry := received.2 }, []⟩
  else runtime.answer (.invalidArgument "invalid manifest endpoint")

def handleMigrateReq (runtime : LoomParRuntime cluster Callable) (localHost : cluster.Host)
    (message : QueueEnvelope) : HandlerEffect cluster Callable :=
  if message.header.dstHost ≠ localHost.val ∨ message.payload.length ≠ kMigrationRequestBytes then
    runtime.answer (.invalidArgument "invalid migration request")
  else
    ⟨.ok, runtime, [encodeMigrationAck runtime.order localHost
      (MigrationRequest.decode runtime.order message.payload)]⟩

/-- A migration acknowledgement is checked and dropped. -/
def handleMigrateAck (runtime : LoomParRuntime cluster Callable) (localHost : cluster.Host)
    (message : QueueEnvelope) : HandlerEffect cluster Callable :=
  if message.header.dstHost ≠ localHost.val ∨ message.payload.length ≠ kMigrationAckBytes then
    runtime.answer (.invalidArgument "invalid migration acknowledgement")
  else runtime.answer .ok

/-- A load sample replaces an older one. -/
def handleLoadUpdate (runtime : LoomParRuntime cluster Callable) (localHost : cluster.Host)
    (input : HandlerInput cluster) (message : QueueEnvelope) : HandlerEffect cluster Callable :=
  if message.header.dstHost ≠ localHost.val ∨ message.payload.length ≠ kLoadWireBytes then
    runtime.answer (.invalidArgument "invalid load update")
  else if source : message.header.srcHost < cluster.hostCount then
    let host : cluster.Host := ⟨message.header.srcHost, source⟩
    let wire := LoadWire.decode runtime.order message.payload
    if wire.magic ≠ kWireMagic ∨ wire.version ≠ kLoadWireVersion then
      runtime.answer (.invalidArgument "unsupported load-update protocol version")
    else if (runtime.remoteLoad host).sampleSequence ≤ wire.sequence then
      ⟨.ok,
        { runtime with
          remoteLoad := Function.update runtime.remoteLoad host
            ⟨wire.running, wire.pending, wire.queued, wire.sequence, input.nowNs host,
              wire.execution⟩ },
        []⟩
    else runtime.answer .ok
  else runtime.answer (.invalidArgument "invalid load update")

/-- A barrier message goes to its entry. -/
def handleBarrier (runtime : LoomParRuntime cluster Callable) (localHost : cluster.Host)
    (kind : BarrierMessageKind) (message : QueueEnvelope) : HandlerEffect cluster Callable :=
  if message.header.dstHost ≠ localHost.val ∨ message.payload.length ≠ kBarrierWireBytes ∨
      message.header.payloadBytes ≠ kBarrierWireBytes then
    runtime.answer (.invalidArgument "invalid barrier envelope")
  else
    let wire := BarrierWire.decode runtime.order message.payload
    if wire.magic ≠ kWireMagic ∨ wire.version ≠ kWireVersion then
      runtime.answer (.invalidArgument "unsupported barrier protocol version")
    else if 1 < wire.failed then
      runtime.answer (.invalidArgument "invalid barrier failure flag")
    else if source : message.header.srcHost < cluster.hostCount then
      let handled := (runtime.barriers wire.id).handle
        ⟨kind, ⟨message.header.srcHost, source⟩, localHost, wire.id, wire.generation,
          wire.failed ≠ 0⟩
      ⟨handled.1,
        { runtime with barriers := Function.update runtime.barriers wire.id handled.2.1 },
        handled.2.2.map (encodeBarrier runtime.order)⟩
    else runtime.answer (.invalidArgument "barrier source out of range")

/-- Whether `ReserveExecution` refuses. -/
def saturated (runtime : LoomParRuntime cluster Callable) : Bool :=
  runtime.limits.maxRunningThreadsPerHost ≠ 0 ∧
    runtime.limits.maxRunningThreadsPerHost ≤ runtime.localRunning

/-- The function of a request. -/
def resolve (runtime : LoomParRuntime cluster Callable) (wire : ThreadWire) :
    Except Status (Option Callable) :=
  if wire.reserved = 1 then
    runtime.clusterRegistry.resolve wire.function wire.argumentBytes false
  else
    match runtime.functionRegistry.lookup wire.function with
    | none => .error (.notFound "unknown function id")
    | some callable => .ok (some callable)

def launchRemote (runtime : LoomParRuntime cluster Callable) (localHost : cluster.Host)
    (input : HandlerInput cluster) (id : GlobalThreadId cluster) (function : UInt64)
    (arguments : List UInt8) (callable : Option Callable) : HandlerEffect cluster Callable :=
  let allocated := runtime.executions.allocateThread localHost function arguments
  let launching := (allocated.2.transact localHost ⟨localHost, allocated.1⟩
    ThreadEntry.markLaunching).2
  let launched :=
    if callable.isNone then
      (.failedPrecondition "launch requires a registered function and launching thread", launching)
    else
      launching.transact localHost ⟨localHost, allocated.1⟩ (ThreadEntry.launch input.built)
  ⟨.ok,
    { runtime with
      localRunning := (runtime.localRunning + 1) % 2 ^ 32
      executions := launched.2
      remoteExecutions := runtime.remoteExecutions ++ [(id, allocated.1)] },
    if launched.1.isOk ∧ input.built then
      [encodeThread runtime.order .createAck localHost id.homeHost id.homeHost id.localTid 0]
    else []⟩

/-- A creation request. -/
def handleCreateReq (runtime : LoomParRuntime cluster Callable) (localHost source : cluster.Host)
    (input : HandlerInput cluster) (wire : ThreadWire) (arguments : List UInt8) :
    HandlerEffect cluster Callable :=
  if wire.home ≠ source.val then runtime.answer (.invalidArgument "create home mismatch")
  else
    let id : GlobalThreadId cluster := ⟨source, wire.tid⟩
    if runtime.remoteExecutions.any fun existing => existing.1 = id then runtime.answer .ok
    else
      match runtime.resolve wire with
      | .error _ =>
          ⟨.ok, runtime,
            [encodeThread runtime.order .completeNotify localHost id.homeHost id.homeHost
              id.localTid (-1)]⟩
      | .ok callable =>
          if runtime.saturated then
            ⟨.ok, runtime,
              [encodeThread runtime.order .completeNotify localHost id.homeHost id.homeHost
                id.localTid (-2)]⟩
          else runtime.launchRemote localHost input id wire.function arguments callable

def publishLoad (localHost : cluster.Host) (input : HandlerInput cluster)
    (effect : HandlerEffect cluster Callable) (destination : cluster.Host) :
    HandlerEffect cluster Callable :=
  if destination = localHost ∨ cluster.hostCount = 1 then effect
  else
    let sequence := (effect.runtime.loadSequence + 1) % 2 ^ 64
    { effect with
      runtime := { effect.runtime with loadSequence := sequence }
      sent := effect.sent ++
        [encodeLoad effect.runtime.order localHost destination
          { magic := kWireMagic
            version := kLoadWireVersion
            running := effect.runtime.localRunning
            pending := effect.runtime.localPending
            queued := input.queued destination % 2 ^ 32
            sequence := sequence
            sampledAtNs := input.nowNs destination
            execution := input.execution destination }] }

/-- A transition of a home thread; its record may be gone. -/
def settle (effect : HandlerEffect cluster Callable) (localHost : cluster.Host) (tid : Nat)
    (transition : ThreadEntry cluster → Except Status (Option (ThreadEntry cluster))) :
    HandlerEffect cluster Callable :=
  let settled := effect.runtime.threadManager.transact localHost ⟨localHost, tid⟩ transition
  { effect with
    status := if settled.1.code = .notFound then .ok else settled.1
    runtime := { effect.runtime with threadManager := settled.2 } }

def acceptCompletion (runtime : LoomParRuntime cluster Callable) (localHost source : cluster.Host)
    (input : HandlerInput cluster) (wire : ThreadWire) : HandlerEffect cluster Callable :=
  let counted :=
    { runtime with
      localPending := (runtime.localPending + 2 ^ 32 - 1) % 2 ^ 32
      scheduler := runtime.scheduler.recordCompletion source }
  let published := (List.finRange cluster.hostCount).foldl (publishLoad localHost input)
    (counted.answer .ok)
  settle published localHost wire.tid (ThreadEntry.markCompleted ⟨wire.code, wire.resultValue⟩)

/-- An acknowledgement or a completion for a home thread. -/
def handleHomeThread (runtime : LoomParRuntime cluster Callable) (localHost source : cluster.Host)
    (input : HandlerInput cluster) (kind : MessageKind) (wire : ThreadWire) :
    HandlerEffect cluster Callable :=
  if wire.home ≠ localHost.val then runtime.answer .ok
  else
    match runtime.threadManager.find localHost ⟨localHost, wire.tid⟩ with
    | none => runtime.answer .ok
    | some entry =>
        if entry.record.executionHost ≠ source then
          runtime.answer (.invalidArgument "completion execution host mismatch")
        else if kind = .createAck then
          if entry.record.state = .completed then runtime.answer .ok
          else settle (runtime.answer .ok) localHost wire.tid ThreadEntry.markRunning
        else if kind = .completeNotify then
          if entry.record.migrationEpoch ≠ wire.migrationEpoch then runtime.answer .ok
          else if entry.record.state = .completed then runtime.answer .ok
          else runtime.acceptCompletion localHost source input wire
        else runtime.answer (.invalidArgument "unsupported LoomPar message")

/-- Messages about threads, and of every other kind. -/
def handleThread (runtime : LoomParRuntime cluster Callable) (localHost : cluster.Host)
    (input : HandlerInput cluster) (message : QueueEnvelope) : HandlerEffect cluster Callable :=
  if message.header.dstHost ≠ localHost.val ∨ message.payload.length < kThreadWireBytes then
    runtime.answer (.invalidArgument "invalid thread message")
  else if source : message.header.srcHost < cluster.hostCount then
    let host : cluster.Host := ⟨message.header.srcHost, source⟩
    let wire := ThreadWire.decode runtime.order message.payload
    if wire.magic ≠ kWireMagic ∨ wire.version ≠ kWireVersion then
      runtime.answer (.invalidArgument "unsupported thread protocol version")
    else if 1 < wire.reserved ∨ message.header.payloadBytes ≠ message.payload.length ∨
        message.payload.length ≠ kThreadWireBytes + wire.argumentBytes then
      runtime.answer (.invalidArgument "invalid thread argument length")
    else if message.header.kind = .createReq then
      runtime.handleCreateReq localHost host input wire (message.payload.drop kThreadWireBytes)
    else runtime.handleHomeThread localHost host input message.header.kind wire
  else runtime.answer (.invalidArgument "invalid thread message")

/-- What `HandleMessage` does with a message. -/
def dispatch (runtime : LoomParRuntime cluster Callable) (localHost : cluster.Host)
    (input : HandlerInput cluster) (message : QueueEnvelope) : HandlerEffect cluster Callable :=
  match message.header.kind with
  | .functionManifest => runtime.handleManifest localHost message
  | .migrateReq => runtime.handleMigrateReq localHost message
  | .migrateAck => runtime.handleMigrateAck localHost message
  | .loadUpdate => runtime.handleLoadUpdate localHost input message
  | .barrierArrive => runtime.handleBarrier localHost .arrive message
  | .barrierRelease => runtime.handleBarrier localHost .release message
  | _ => runtime.handleThread localHost input message

/-- `HandleMessage`: the messages of the handler are enqueued. -/
def handleMessage (runtime : LoomParRuntime cluster Callable) (localHost : cluster.Host)
    (input : HandlerInput cluster) (message : QueueEnvelope) :
    Status × LoomParRuntime cluster Callable :=
  let effect := runtime.dispatch localHost input message
  (effect.status,
    { effect.runtime with outgoing := effect.sent.foldl enqueue effect.runtime.outgoing })

end LoomParRuntime

/-- A message that the transport takes once there is room. -/
structure Deliverable (cluster : Cluster) (localHost : cluster.Host) (message : QueueEnvelope) :
    Prop where
  kind : message.header.kind ≠ .invalid
  source : message.header.srcHost = localHost.val
  configured : message.header.dstHost < cluster.hostCount
  foreign : message.header.dstHost ≠ localHost.val
  length : message.header.payloadBytes = message.payload.length
  fits : message.payload.length ≤ kQueuePayloadBytes

/-- What the transport hands to the handlers of a host. -/
structure Transported (cluster : Cluster) (localHost : cluster.Host) (message : QueueEnvelope) :
    Prop where
  kind : message.header.kind ≠ .invalid
  configured : message.header.srcHost < cluster.hostCount
  foreign : message.header.srcHost ≠ localHost.val
  target : message.header.dstHost = localHost.val
  /-- The payload is as long as announced. -/
  length : message.payload.length = message.header.payloadBytes
  /-- It fitted a slot. -/
  fits : message.payload.length ≤ kQueuePayloadBytes

namespace LoomParRuntime

variable {cluster : Cluster} {Callable : Type} {localHost : cluster.Host}

theorem deliverable_encodeThread (order : ByteOrder) {kind : MessageKind}
    (valid : kind ≠ .invalid) {destination : cluster.Host} (foreign : destination ≠ localHost)
    (home tid : Nat) (code : Int) :
    Deliverable cluster localHost
      (encodeThread order kind localHost destination home tid code) where
  kind := valid
  source := rfl
  configured := destination.isLt
  foreign := fun same => foreign (Fin.ext same)
  length := by simp [encodeThread]
  fits := by simp [encodeThread, kThreadWireBytes, kQueuePayloadBytes]

theorem deliverable_encodeLoad (order : ByteOrder) {destination : cluster.Host}
    (foreign : destination ≠ localHost) (wire : LoadWire) :
    Deliverable cluster localHost (encodeLoad order localHost destination wire) where
  kind := by simp [encodeLoad]
  source := rfl
  configured := destination.isLt
  foreign := fun same => foreign (Fin.ext same)
  length := by simp [encodeLoad]
  fits := by simp [encodeLoad, kLoadWireBytes, kQueuePayloadBytes]

theorem deliverable_encodeBarrier (order : ByteOrder) {message : BarrierMessage cluster}
    (source : message.source = localHost) (foreign : message.target ≠ localHost) :
    Deliverable cluster localHost (encodeBarrier order message) where
  kind := by
    cases kind : message.kind <;> simp [encodeBarrier, kind, BarrierMessageKind.messageKind]
  source := congrArg Fin.val source
  configured := message.target.isLt
  foreign := fun same => foreign (Fin.ext same)
  length := by simp [encodeBarrier]
  fits := by simp [encodeBarrier, kBarrierWireBytes, kQueuePayloadBytes]

/-- A refusal of a migration is deliverable exactly if the request names a configured host other
than this one. -/
theorem deliverable_encodeMigrationAck (order : ByteOrder) (request : MigrationRequest) :
    Deliverable cluster localHost (encodeMigrationAck order localHost request) ↔
      request.srcHost < cluster.hostCount ∧ request.srcHost ≠ localHost.val := by
  constructor
  · intro deliverable
    exact ⟨deliverable.configured, deliverable.foreign⟩
  · rintro ⟨configured, foreign⟩
    exact
      { kind := by simp [encodeMigrationAck]
        source := rfl
        configured := configured
        foreign := foreign
        length := by simp [encodeMigrationAck, kMigrationAckBytes]
        fits := by simp [encodeMigrationAck, kQueuePayloadBytes] }

/-- Whatever an entry sends goes from its host to another one. -/
theorem barrier_handle_endpoints (entry : BarrierEntry) (message : BarrierMessage cluster) :
    ∀ sent ∈ (entry.handle message).2.2,
      sent.source = message.target ∧ sent.target ≠ message.target := by
  have broken : ∀ sent ∈ (entry.breakLocked message.target message.id).2,
      sent.source = message.target ∧ sent.target ≠ message.target := by
    intro sent member
    rw [BarrierEntry.breakLocked] at member
    split at member
    · simp at member
    · obtain ⟨host, listed, rfl⟩ := List.mem_map.1 member
      exact ⟨rfl, by simpa using (List.mem_filter.1 listed).2⟩
  rw [BarrierEntry.handle]
  split_ifs with failed unexpected old ahead arrival release
  · simp
  · simp
  · simp
  · exact broken
  · intro sent member
    rw [BarrierEntry.arriveLocked] at member
    dsimp only at member
    split at member
    · simp at member
    · obtain ⟨host, listed, rfl⟩ := List.mem_map.1 member
      have positive : 0 < host.val := by simpa using (List.mem_filter.1 listed).2
      refine ⟨rfl, fun same => ?_⟩
      have zero : host.val = 0 := (congrArg Fin.val same).trans arrival.2.1
      omega
  · simp
  · exact broken

/-- Sampling the load for some hosts sends deliverable messages only. -/
theorem publishLoad_sent (input : HandlerInput cluster) (hosts : List cluster.Host)
    (effect : HandlerEffect cluster Callable)
    (before : ∀ sent ∈ effect.sent, Deliverable cluster localHost sent) :
    ∀ sent ∈ (hosts.foldl (publishLoad localHost input) effect).sent,
      Deliverable cluster localHost sent := by
  induction hosts generalizing effect with
  | nil => exact before
  | cons destination hosts induction =>
      rw [List.foldl_cons]
      apply induction
      rw [publishLoad]
      split
      case isTrue => exact before
      case isFalse other =>
        intro sent member
        rcases List.mem_append.1 member with earlier | added
        · exact before sent earlier
        · rw [List.mem_singleton] at added
          rw [added]
          exact deliverable_encodeLoad _ (fun same => other (.inl same)) _

theorem launchRemote_sent (runtime : LoomParRuntime cluster Callable) (input : HandlerInput cluster)
    {id : GlobalThreadId cluster} (foreign : id.homeHost ≠ localHost) (function : UInt64)
    (arguments : List UInt8) (callable : Option Callable) :
    ∀ sent ∈ (runtime.launchRemote localHost input id function arguments callable).sent,
      Deliverable cluster localHost sent := by
  intro sent member
  rw [launchRemote, List.mem_ite_nil_right, List.mem_singleton] at member
  rw [member.2]
  exact deliverable_encodeThread _ (by simp) foreign _ _ _

theorem handleCreateReq_sent (runtime : LoomParRuntime cluster Callable) {source : cluster.Host}
    (foreign : source ≠ localHost) (input : HandlerInput cluster) (wire : ThreadWire)
    (arguments : List UInt8) :
    ∀ sent ∈ (runtime.handleCreateReq localHost source input wire arguments).sent,
      Deliverable cluster localHost sent := by
  rw [handleCreateReq]
  split
  · simp [answer]
  · dsimp only
    split
    · simp [answer]
    · split
      · intro sent member
        rw [List.mem_singleton] at member
        rw [member]
        exact deliverable_encodeThread _ (by simp) foreign _ _ _
      · split
        · intro sent member
          rw [List.mem_singleton] at member
          rw [member]
          exact deliverable_encodeThread _ (by simp) foreign _ _ _
        · exact runtime.launchRemote_sent input foreign _ _ _

theorem handleHomeThread_sent (runtime : LoomParRuntime cluster Callable) (source : cluster.Host)
    (input : HandlerInput cluster) (kind : MessageKind) (wire : ThreadWire) :
    ∀ sent ∈ (runtime.handleHomeThread localHost source input kind wire).sent,
      Deliverable cluster localHost sent := by
  rw [handleHomeThread]
  split
  · simp [answer]
  · split
    · simp [answer]
    · split_ifs
      · simp [answer]
      · simp [answer]
      · simp [answer, settle]
      · simp [answer]
      · simp [answer]
      · exact publishLoad_sent input _ _ (by simp [answer])
      · simp [answer]

theorem handleThread_sent (runtime : LoomParRuntime cluster Callable) (input : HandlerInput cluster)
    {message : QueueEnvelope} (foreign : message.header.srcHost ≠ localHost.val) :
    ∀ sent ∈ (runtime.handleThread localHost input message).sent,
      Deliverable cluster localHost sent := by
  rw [handleThread]
  split
  · simp [answer]
  · split
    · dsimp only
      split_ifs
      · simp [answer]
      · simp [answer]
      · exact runtime.handleCreateReq_sent (fun same => foreign (congrArg Fin.val same)) _ _ _
      · exact runtime.handleHomeThread_sent _ _ _ _
    · simp [answer]

theorem handleBarrier_sent (runtime : LoomParRuntime cluster Callable) (kind : BarrierMessageKind)
    (message : QueueEnvelope) :
    ∀ sent ∈ (runtime.handleBarrier localHost kind message).sent,
      Deliverable cluster localHost sent := by
  rw [handleBarrier]
  split
  · simp [answer]
  · dsimp only
    split_ifs
    · simp [answer]
    · simp [answer]
    · intro sent member
      obtain ⟨released, listed, rfl⟩ := List.mem_map.1 member
      obtain ⟨source, target⟩ := barrier_handle_endpoints _ _ released listed
      exact deliverable_encodeBarrier _ source target
    · simp [answer]

/-- What is enqueued was there before or is the message. -/
theorem mem_enqueue {outgoing : List QueueEnvelope} {message pending : QueueEnvelope}
    (member : pending ∈ enqueue outgoing message) : pending ∈ outgoing ∨ pending = message := by
  induction outgoing with
  | nil => exact .inr (List.mem_singleton.1 member)
  | cons first rest induction =>
      rw [enqueue] at member
      split at member
      · rcases List.mem_cons.1 member with same | later
        · exact .inr same
        · exact .inl (List.mem_cons_of_mem first later)
      · rcases List.mem_cons.1 member with same | later
        · exact .inl (same ▸ List.mem_cons_self)
        · exact (induction later).imp_left (List.mem_cons_of_mem first)

theorem mem_foldl_enqueue {sent outgoing : List QueueEnvelope} {pending : QueueEnvelope}
    (member : pending ∈ sent.foldl enqueue outgoing) : pending ∈ outgoing ∨ pending ∈ sent := by
  induction sent generalizing outgoing with
  | nil => exact .inl member
  | cons first rest induction =>
      rcases induction member with before | later
      · rcases mem_enqueue before with old | new
        · exact .inl old
        · exact .inr (new ▸ List.mem_cons_self)
      · exact .inr (List.mem_cons_of_mem first later)

@[simp] theorem publishLoad_outgoing (input : HandlerInput cluster)
    (effect : HandlerEffect cluster Callable) (destination : cluster.Host) :
    (publishLoad localHost input effect destination).runtime.outgoing =
      effect.runtime.outgoing := by
  rw [publishLoad]
  split <;> rfl

theorem foldl_publishLoad_outgoing (input : HandlerInput cluster) (hosts : List cluster.Host)
    (effect : HandlerEffect cluster Callable) :
    (hosts.foldl (publishLoad localHost input) effect).runtime.outgoing =
      effect.runtime.outgoing := by
  induction hosts generalizing effect with
  | nil => rfl
  | cons destination hosts induction => rw [List.foldl_cons, induction, publishLoad_outgoing]

theorem handleThread_outgoing (runtime : LoomParRuntime cluster Callable)
    (input : HandlerInput cluster) (message : QueueEnvelope) :
    (runtime.handleThread localHost input message).runtime.outgoing = runtime.outgoing := by
  have completed : ∀ source wire,
      (runtime.acceptCompletion localHost source input wire).runtime.outgoing =
        runtime.outgoing := by
    intro source wire
    simp only [acceptCompletion, settle]
    exact foldl_publishLoad_outgoing input _ _
  have home : ∀ source kind wire,
      (runtime.handleHomeThread localHost source input kind wire).runtime.outgoing =
        runtime.outgoing := by
    intro source kind wire
    rw [handleHomeThread]
    split
    · rfl
    · split
      · rfl
      · split_ifs <;> first | rfl | exact completed source wire
  have create : ∀ source wire arguments,
      (runtime.handleCreateReq localHost source input wire arguments).runtime.outgoing =
        runtime.outgoing := by
    intro source wire arguments
    rw [handleCreateReq]
    split
    · rfl
    · dsimp only
      split
      · rfl
      · split
        · rfl
        · split <;> rfl
  rw [handleThread]
  split
  · rfl
  · split
    · dsimp only
      split_ifs
      · rfl
      · rfl
      · exact create _ _ _
      · exact home _ _ _
    · rfl

/-- A handler changes `outgoing_` through its messages only. -/
theorem dispatch_outgoing (runtime : LoomParRuntime cluster Callable) (input : HandlerInput cluster)
    (message : QueueEnvelope) :
    (runtime.dispatch localHost input message).runtime.outgoing = runtime.outgoing := by
  rw [dispatch]
  split
  · rw [handleManifest]
    split_ifs <;> rfl
  · rw [handleMigrateReq]
    split_ifs <;> rfl
  · rw [handleMigrateAck]
    split_ifs <;> rfl
  · rw [handleLoadUpdate]
    split_ifs
    · rfl
    · dsimp only
      split_ifs <;> rfl
    · rfl
  · rw [handleBarrier]
    dsimp only
    split_ifs <;> rfl
  · rw [handleBarrier]
    dsimp only
    split_ifs <;> rfl
  · exact runtime.handleThread_outgoing input message

def Misdirected (runtime : LoomParRuntime cluster Callable) (localHost : cluster.Host)
    (message : QueueEnvelope) : Prop :=
  message.header.kind = .migrateReq ∧ message.payload.length = kMigrationRequestBytes ∧
    ¬((MigrationRequest.decode runtime.order message.payload).srcHost < cluster.hostCount ∧
      (MigrationRequest.decode runtime.order message.payload).srcHost ≠ localHost.val)

/-- Every message that a handler enqueues is deliverable, exactly unless the message is a migration
request whose payload names no configured host other than this one. -/
theorem handlers_enqueue_deliverable (runtime : LoomParRuntime cluster Callable)
    (localHost : cluster.Host) (input : HandlerInput cluster) {message : QueueEnvelope}
    (transported : Transported cluster localHost message) :
    ((∀ sent ∈ (runtime.dispatch localHost input message).sent,
        Deliverable cluster localHost sent) ↔ ¬runtime.Misdirected localHost message) ∧
      ∀ pending ∈ (runtime.handleMessage localHost input message).2.outgoing,
        pending ∈ runtime.outgoing ∨ pending ∈ (runtime.dispatch localHost input message).sent := by
  refine ⟨?_, ?_⟩
  · by_cases request : message.header.kind = .migrateReq
    · have dispatched : runtime.dispatch localHost input message =
          runtime.handleMigrateReq localHost message := by
        simp [dispatch, request]
      rw [dispatched, handleMigrateReq, Misdirected]
      by_cases sized : message.payload.length = kMigrationRequestBytes
      · simp [transported.target, sized, request, deliverable_encodeMigrationAck]
      · simp [sized, answer]
    · refine iff_of_true ?_ fun misdirected => request misdirected.1
      rw [dispatch]
      split
      · rw [handleManifest]
        split_ifs <;> simp [answer]
      · contradiction
      · rw [handleMigrateAck]
        split_ifs <;> simp [answer]
      · rw [handleLoadUpdate]
        dsimp only
        split_ifs <;> simp [answer]
      · exact runtime.handleBarrier_sent .arrive message
      · exact runtime.handleBarrier_sent .release message
      · exact runtime.handleThread_sent input transported.foreign
  · intro pending member
    rw [handleMessage] at member
    rcases mem_foldl_enqueue member with old | new
    · rw [dispatch_outgoing] at old
      exact .inl old
    · exact .inr new

def handlerPair : Cluster := ⟨2, 8, Nat.two_pos, two_le_kMaxHosts⟩

def handlerHost : handlerPair.Host := ⟨0, Nat.two_pos⟩

/-- A runtime in which nothing has happened. -/
def quietRuntime : LoomParRuntime handlerPair Unit where
  platformAbi := ClusterRegistry.smallEndianAbi.toNat
  limits := ⟨0, 0⟩
  clusterRegistry := .initial 2 Unit
  functionRegistry := []
  threadManager := .initial handlerPair
  executions := .initial handlerPair
  remoteExecutions := []
  barriers _ := .fresh
  scheduler := ⟨0, fun _ => 0, fun _ => 0⟩
  localRunning := 0
  localPending := 0
  loadSequence := 0
  remoteLoad _ := ⟨0, 0, 0, 0, 0, ⟨0, 0, 0, 0⟩⟩
  outgoing := []

/-- Nothing runs and nothing is queued. -/
def quietInput : HandlerInput handlerPair where
  built := true
  queued _ := 0
  nowNs _ := 0
  execution _ := ⟨0, 0, 0, 0⟩

/-- A creation request of the other host for a function that nobody has registered. -/
def unknownFunctionRequest : QueueEnvelope :=
  ⟨⟨.createReq, 1, 0, kThreadWireBytes⟩,
    ThreadWire.encode .little ⟨kWireMagic, kWireVersion, 0, 4, 99, 0, 1, 0, 0, 0⟩⟩

theorem handlers_enqueue_deliverable_unknownFunction :
    (quietRuntime.dispatch handlerHost quietInput unknownFunctionRequest).sent =
        [encodeThread .little .completeNotify 0 1 1 4 (-1)] ∧
      ∀ sent ∈ (quietRuntime.dispatch handlerHost quietInput unknownFunctionRequest).sent,
        Deliverable handlerPair handlerHost sent := by
  have transported : Transported handlerPair handlerHost unknownFunctionRequest :=
    ⟨by decide, by decide, by decide, rfl, rfl, by decide⟩
  refine ⟨by decide +kernel, ?_⟩
  refine (handlers_enqueue_deliverable quietRuntime handlerHost quietInput transported).1.2 ?_
  intro misdirected
  exact absurd misdirected.1 (by decide)

/-- A migration request of the other host whose payload is zero, so that it names host zero. -/
def zeroRequest : QueueEnvelope :=
  ⟨⟨.migrateReq, 1, 0, kMigrationRequestBytes⟩, List.replicate kMigrationRequestBytes 0⟩

/-- The refusal of a migration request can have the refusing host itself as its destination. -/
theorem migration_refusal_undeliverable :
    Transported handlerPair handlerHost zeroRequest ∧
      ¬∀ sent ∈ (quietRuntime.dispatch handlerHost quietInput zeroRequest).sent,
        Deliverable handlerPair handlerHost sent := by
  refine ⟨⟨by decide, by decide, by decide, rfl, rfl, by decide⟩, ?_⟩
  intro deliverable
  have own : ∀ sent ∈ (quietRuntime.dispatch handlerHost quietInput zeroRequest).sent,
      sent.header.dstHost = handlerHost.val := by
    decide +kernel
  have present : encodeMigrationAck .little 0 ⟨0, 0, 0, 0⟩ ∈
      (quietRuntime.dispatch handlerHost quietInput zeroRequest).sent := by
    decide +kernel
  exact (deliverable _ present).foreign (own _ present)

end LoomParRuntime

end Cxloom.LoomPar
