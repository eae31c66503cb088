import Cxloom.Common
import Cxloom.Run
import Mathlib.Logic.Function.Basic

/-!
# The shared single-producer single-consumer queue

`SpscQueue::Push` and `SpscQueue::TryPop`, split into their individual loads and stores of the
shared queue.  The producer runs one `Push` at a time under its mutex and the consumer one `TryPop`
at a time; between any two accesses of one side the other side may take any number of steps.
Cursors and sequence numbers are sixty-four bit words.
-/

namespace Cxloom.LoomMem

/-- Modulus of the shared cursors and of the slot sequence numbers. -/
def cursorModulus : Nat := 2 ^ 64

/-- Bytes of payload that one slot can hold. -/
def kQueuePayloadBytes : Nat := 128

/-- Message classes carried by the queues. -/
inductive MessageKind
  | invalid
  | createReq
  | createAck
  | completeNotify
  | barrierArrive
  | barrierRelease
  | tokenReq
  | tokenGrant
  | tokenReject
  | tokenCancel
  | tokenCancelAck
  | loadUpdate
  | migrateReq
  | migrateAck
  | functionManifest
deriving DecidableEq, Repr

/-- Header of every message. -/
structure MessageHeader where
  kind : MessageKind
  srcHost : Nat
  dstHost : Nat
  payloadBytes : Nat
deriving DecidableEq, Repr

/-- The header of value-initialized storage. -/
def MessageHeader.zero : MessageHeader := ⟨.invalid, 0, 0, 0⟩

/-- A message in process memory. -/
@[ext]
structure QueueEnvelope where
  header : MessageHeader
  payload : List UInt8
deriving DecidableEq, Repr

/-- One entry of the ring. -/
structure SharedSpscQueueSlot where
  /-- Sequence number of the message, one more than its cursor. -/
  sequence : Nat
  header : MessageHeader
  /-- Stored payload bytes, of which only a prefix belongs to the message. -/
  payload : Nat → UInt8

def SharedSpscQueueSlot.formatted : SharedSpscQueueSlot := ⟨0, .zero, fun _ => 0⟩

/-- How stores are made visible to the other hosts. -/
inductive VisibilityMode
  | releaseAcquire
  | sequentiallyConsistent
  | clflush
  | clwb
deriving DecidableEq, Repr

/-- What the visibility recipes need to know about a host's processor. -/
structure Processor where
  /-- Whether the host was built for x86. -/
  isX86 : Bool
  /-- Whether `CPUID` reports CLWB. -/
  hasClwb : Bool
deriving DecidableEq, Repr

/-- Whether a visibility recipe can run; every `PublishData` and `AcquireData` starts with it. -/
def validateVisibilityMode (processor : Processor) (mode : VisibilityMode) : Status :=
  if processor.isX86 then
    if mode = .clwb ∧ processor.hasClwb = false then
      .unavailable "CLWB is not supported by this CPU"
    else .ok
  else if mode = .clflush ∨ mode = .clwb then
    .unavailable "cache-line writeback mode is only implemented for x86"
  else .ok

/-- The fixed identity of a queue and the visibility recipes of its two sides. -/
structure SpscQueueIdentity where
  /-- Host allowed to push. -/
  producer : Nat
  /-- Host allowed to pop. -/
  consumer : Nat
  /-- Entries of the ring. -/
  capacity : Nat
  /-- The ring has an entry. -/
  capacity_pos : 0 < capacity
  producerProcessor : Processor
  producerMode : VisibilityMode
  consumerProcessor : Processor
  consumerMode : VisibilityMode

/-- The words of a queue in shared memory. -/
structure SharedSpscQueue where
  /-- Producer cursor. -/
  tail : Nat
  /-- Consumer cursor. -/
  head : Nat
  /-- The ring. -/
  slots : Nat → SharedSpscQueueSlot

/-- The queue written by `FormatSharedQueueRegion`. -/
def SharedSpscQueue.formatted : SharedSpscQueue := ⟨0, 0, fun _ => .formatted⟩

/-- Change one slot of the ring. -/
def SharedSpscQueue.setSlot (queue : SharedSpscQueue) (index : Nat)
    (slot : SharedSpscQueueSlot) : SharedSpscQueue :=
  { queue with slots := Function.update queue.slots index slot }

/-- The next access of a running `Push`. -/
inductive PushPoint
  | idle
  | loadTail (message : QueueEnvelope)
  | loadHead (message : QueueEnvelope) (tail : Nat)
  | writeHeader (message : QueueEnvelope) (tail : Nat)
  | writePayload (message : QueueEnvelope) (tail written : Nat)
  | storeSequence (message : QueueEnvelope) (tail : Nat)
  | storeTail (message : QueueEnvelope) (tail : Nat)
deriving DecidableEq

/-- The next access of a running `TryPop`. -/
inductive PopPoint
  | idle
  | loadHead
  | loadTail (head : Nat)
  | loadSequence (head : Nat)
  | checkHeader (head : Nat)
  | copyHeader (head : Nat)
  | copyPayload (head : Nat) (message : QueueEnvelope)
  | storeHead (head : Nat) (message : QueueEnvelope)
deriving DecidableEq

/-- A queue, the progress of both sides and every call that has returned. -/
structure QueueConfig where
  shared : SharedSpscQueue
  producer : PushPoint
  consumer : PopPoint
  /-- Every returned `Push` with its status, oldest first. -/
  pushes : List (QueueEnvelope × Status)
  /-- Every returned `TryPop` with its status and the envelope it popped, oldest first. -/
  pops : List (Status × Option QueueEnvelope)

/-- One scheduled action: a call begins, or a side performs its next access. -/
inductive QueueOp
  | push (localHost : Nat) (message : QueueEnvelope)
  | tryPop (localHost : Nat)
  | producer
  | consumer
deriving DecidableEq

namespace QueueConfig

/-- A freshly formatted queue before any call. -/
def formatted : QueueConfig := ⟨.formatted, .idle, .idle, [], []⟩

/-- Envelopes for which `Push` returned success, oldest first. -/
def accepted (config : QueueConfig) : List QueueEnvelope :=
  config.pushes.filterMap fun call => if call.2.isOk then some call.1 else none

/-- Envelopes popped by `TryPop`, oldest first. -/
def returned (config : QueueConfig) : List QueueEnvelope :=
  config.pops.filterMap fun call => if call.1.isOk then call.2 else none

def reports (config : QueueConfig) : List Status :=
  config.pushes.map Prod.snd ++ config.pops.map Prod.fst

/-- The producer moves on to its next access. -/
def producerAt (config : QueueConfig) (point : PushPoint) : QueueConfig :=
  { config with producer := point }

/-- The consumer moves on to its next access. -/
def consumerAt (config : QueueConfig) (point : PopPoint) : QueueConfig :=
  { config with consumer := point }

/-- The producer changes the shared words. -/
def withShared (config : QueueConfig) (shared : SharedSpscQueue) : QueueConfig :=
  { config with shared := shared }

/-- A `Push` returns. -/
def pushReturns (config : QueueConfig) (message : QueueEnvelope) (status : Status) :
    QueueConfig :=
  { config with pushes := config.pushes ++ [(message, status)] }

/-- A `TryPop` returns. -/
def popReturns (config : QueueConfig) (status : Status) (popped : Option QueueEnvelope) :
    QueueConfig :=
  { config with pops := config.pops ++ [(status, popped)] }

/-- The producer's access, in the order of `Push`.  The visibility mode was found usable before the
first access and the check does not depend on the address, so the later ones pass too. -/
def pushAccess (identity : SpscQueueIdentity) (config : QueueConfig) : Option QueueConfig :=
  match config.producer with
  | .idle => none
  | .loadTail message => some (config.producerAt (.loadHead message config.shared.tail))
  | .loadHead message tail =>
      let head := config.shared.head
      if tail < head then
        some ((config.pushReturns message
          (.internal "shared SPSC queue cursors are corrupt")).producerAt .idle)
      else if identity.capacity ≤ tail - head then
        some ((config.pushReturns message (.unavailable "queue is full")).producerAt .idle)
      else some (config.producerAt (.writeHeader message tail))
  | .writeHeader message tail =>
      let index := tail % identity.capacity
      let slot := config.shared.slots index
      some ((config.withShared
        (config.shared.setSlot index { slot with header := message.header })).producerAt
          (.writePayload message tail 0))
  | .writePayload message tail written =>
      match message.payload[written]? with
      | some byte =>
          let index := tail % identity.capacity
          let slot := config.shared.slots index
          some ((config.withShared
            (config.shared.setSlot index
              { slot with payload := Function.update slot.payload written byte })).producerAt
                (.writePayload message tail (written + 1)))
      | none => some (config.producerAt (.storeSequence message tail))
  | .storeSequence message tail =>
      let index := tail % identity.capacity
      let slot := config.shared.slots index
      some ((config.withShared
        (config.shared.setSlot index
          { slot with sequence := (tail + 1) % cursorModulus })).producerAt
            (.storeTail message tail))
  | .storeTail message tail =>
      some (((config.withShared
        { config.shared with tail := (tail + 1) % cursorModulus }).pushReturns message
          .ok).producerAt .idle)

/-- The consumer's access, in the order of `TryPop`. -/
def popAccess (identity : SpscQueueIdentity) (config : QueueConfig) : Option QueueConfig :=
  match config.consumer with
  | .idle => none
  | .loadHead => some (config.consumerAt (.loadTail config.shared.head))
  | .loadTail head =>
      let tail := config.shared.tail
      if head = tail then some ((config.popReturns .ok none).consumerAt .idle)
      else if tail < head ∨ identity.capacity < tail - head then
        some ((config.popReturns
          (.internal "shared SPSC queue cursors are corrupt") none).consumerAt .idle)
      else some (config.consumerAt (.loadSequence head))
  | .loadSequence head =>
      if (config.shared.slots (head % identity.capacity)).sequence ≠ (head + 1) % cursorModulus then
        some ((config.popReturns .ok none).consumerAt .idle)
      else some (config.consumerAt (.checkHeader head))
  | .checkHeader head =>
      let header := (config.shared.slots (head % identity.capacity)).header
      if header.kind = .invalid ∨ header.srcHost ≠ identity.producer ∨
          header.dstHost ≠ identity.consumer ∨ kQueuePayloadBytes < header.payloadBytes then
        some ((config.popReturns
          (.internal "shared SPSC queue message is corrupt") none).consumerAt .idle)
      else some (config.consumerAt (.copyHeader head))
  | .copyHeader head =>
      let header := (config.shared.slots (head % identity.capacity)).header
      some (config.consumerAt (.copyPayload head ⟨header, []⟩))
  | .copyPayload head message =>
      let copied := message.payload.length
      if copied < message.header.payloadBytes then
        let byte := (config.shared.slots (head % identity.capacity)).payload copied
        some (config.consumerAt
          (.copyPayload head { message with payload := message.payload ++ [byte] }))
      else some (config.consumerAt (.storeHead head message))
  | .storeHead head message =>
      some (((config.withShared
        { config.shared with head := (head + 1) % cursorModulus }).popReturns .ok
          (some message)).consumerAt .idle)

/-- The checks of `Push` before its first access; `none` lets the call proceed. -/
def pushRejection (identity : SpscQueueIdentity) (localHost : Nat) (message : QueueEnvelope) :
    Option Status :=
  if localHost ≠ identity.producer then
    some (.failedPrecondition "only the configured producer may push to this queue")
  else if message.header.kind = .invalid ∨ message.header.srcHost ≠ identity.producer ∨
      message.header.dstHost ≠ identity.consumer ∨
      message.header.payloadBytes ≠ message.payload.length then
    some (.invalidArgument "message header does not match queue endpoints or payload")
  else if kQueuePayloadBytes < message.payload.length then
    some (.invalidArgument "message payload exceeds the shared queue slot capacity")
  else
    let status := validateVisibilityMode identity.producerProcessor identity.producerMode
    if status.isOk then none else some status

/-- The checks of `TryPop` before its first access; `none` lets the call proceed. -/
def popRejection (identity : SpscQueueIdentity) (localHost : Nat) : Option Status :=
  if localHost ≠ identity.consumer then
    some (.failedPrecondition "only the configured consumer may pop from this queue")
  else
    let status := validateVisibilityMode identity.consumerProcessor identity.consumerMode
    if status.isOk then none else some status

/-- Perform one action.  A call waits while its side is running another one. -/
def step (identity : SpscQueueIdentity) (config : QueueConfig) : QueueOp → Option QueueConfig
  | .push localHost message =>
      match pushRejection identity localHost message with
      | some status => some (config.pushReturns message status)
      | none =>
          match config.producer with
          | .idle => some (config.producerAt (.loadTail message))
          | _ => none
  | .tryPop localHost =>
      match popRejection identity localHost with
      | some status => some (config.popReturns status none)
      | none =>
          match config.consumer with
          | .idle => some (config.consumerAt .loadHead)
          | _ => none
  | .producer => pushAccess identity config
  | .consumer => popAccess identity config

def Reached (identity : SpscQueueIdentity) : QueueConfig → Prop :=
  Run.Reaches (step identity) formatted

end QueueConfig
end Cxloom.LoomMem
