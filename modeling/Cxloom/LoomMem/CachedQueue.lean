import Cxloom.LoomMem.QueueFifo
import Cxloom.LoomMem.QueueLayout
import Cxloom.LoomMem.Visibility

/-!
# The shared queue behind write-back caches

`SpscQueue` with `PublishData` and `AcquireData` carried out.  Every access of `Push` and `TryPop`
is performed on what the host sees through its cache, and between the accesses the host executes
the line instructions of the recipes.  The caches of all hosts fetch, write back and evict lines at
any time.
-/

namespace Cxloom.LoomMem

open WriteBackCache QueueRegion

/-! ## Addresses -/

/-- Bytes of a cursor or a sequence number. -/
def sizeofCursor : Nat := 8

/-- Bytes of `MessageHeader`. -/
def sizeofMessageHeader : Nat := 12

/-- A queue between two hosts, mapped behind write-back caches. -/
structure MappedQueue extends SpscQueueIdentity where
  /-- Address of the queue header. -/
  address : Nat
  /-- The header is not at the null pointer. -/
  address_pos : 0 < address
  /-- The header begins a line. -/
  aligned : kCacheLineBytes ∣ address
  /-- The queue ends a line before the address space. -/
  fits : address + sizeofSharedSpscQueueHeader + capacity * sizeofSharedSpscQueueSlot +
    kCacheLineBytes ≤ wordLimit
  /-- A host has no queue to itself. -/
  distinct : producer ≠ consumer
  producerWritesBack : producerMode.writesBack = true
  consumerWritesBack : consumerMode.writesBack = true

namespace MappedQueue

variable (mapped : MappedQueue)

/-- Address of the producer cursor. -/
def tailAddress : Nat := mapped.address + 64

/-- Address of the consumer cursor. -/
def headAddress : Nat := mapped.address + 128

/-- Address of a slot, which begins with its sequence number. -/
def slotAddress (index : Nat) : Nat :=
  mapped.address + sizeofSharedSpscQueueHeader + index * sizeofSharedSpscQueueSlot

def headerAddress (index : Nat) : Nat := mapped.slotAddress index + sizeofCursor

/-- Address of a payload byte of the message in a slot. -/
def payloadAddress (index position : Nat) : Nat :=
  mapped.headerAddress index + sizeofMessageHeader + position

/-- The slot that a host sees.  Every part of it is read from its own line, and nothing is read
beyond its payload. -/
def seenSlot (caches : Caches Nat Nat SharedSpscQueue) (host index : Nat) :
    SharedSpscQueueSlot where
  sequence := (((caches (lineOf (mapped.slotAddress index))).view host).slots index).sequence
  header := (((caches (lineOf (mapped.headerAddress index))).view host).slots index).header
  payload position :=
    if position < kQueuePayloadBytes then
      (((caches (lineOf (mapped.payloadAddress index position))).view host).slots index).payload
        position
    else 0

def seenBy (caches : Caches Nat Nat SharedSpscQueue) (host : Nat) : SharedSpscQueue where
  tail := ((caches (lineOf mapped.tailAddress)).view host).tail
  head := ((caches (lineOf mapped.headAddress)).view host).head
  slots index := if index < mapped.capacity then mapped.seenSlot caches host index else .formatted

/-- What the producer executes to acquire an address range. -/
def producerAcquires (address bytes : Nat) : List (Nat × LineInstruction) :=
  (acquireData mapped.producerProcessor address bytes mapped.producerMode).2

/-- What the producer executes to publish an address range. -/
def producerPublishes (address bytes : Nat) : List (Nat × LineInstruction) :=
  (publishData mapped.producerProcessor address bytes mapped.producerMode).2

/-- What the consumer executes to acquire an address range. -/
def consumerAcquires (address bytes : Nat) : List (Nat × LineInstruction) :=
  (acquireData mapped.consumerProcessor address bytes mapped.consumerMode).2

/-- What the consumer executes to publish an address range. -/
def consumerPublishes (address bytes : Nat) : List (Nat × LineInstruction) :=
  (publishData mapped.consumerProcessor address bytes mapped.consumerMode).2

/-- The address that an access of `Push` stores to. -/
def pushStore : PushPoint → Option Nat
  | .writeHeader _ tail => some (mapped.headerAddress (tail % mapped.capacity))
  | .writePayload message tail written =>
      if written < message.payload.length then
        some (mapped.payloadAddress (tail % mapped.capacity) written)
      else none
  | .storeSequence _ tail => some (mapped.slotAddress (tail % mapped.capacity))
  | .storeTail _ _ => some mapped.tailAddress
  | .idle | .loadTail _ | .loadHead _ _ => none

/-- What `Push` executes after an access: the message is published before its sequence number, the
sequence number before the cursor, and the cursor before the call returns. -/
def pushSteps : PushPoint → List (Nat × LineInstruction)
  | .writePayload message tail written =>
      if written < message.payload.length then []
      else
        mapped.producerPublishes (mapped.headerAddress (tail % mapped.capacity))
          (sizeofMessageHeader + message.payload.length)
  | .storeSequence _ tail =>
      mapped.producerPublishes (mapped.slotAddress (tail % mapped.capacity)) sizeofCursor
  | .storeTail _ _ => mapped.producerPublishes mapped.tailAddress sizeofCursor
  | .idle | .loadTail _ | .loadHead _ _ | .writeHeader _ _ => []

/-- The address that an access of `TryPop` stores to. -/
def popStore : PopPoint → Option Nat
  | .storeHead _ _ => some mapped.headAddress
  | _ => none

/-- What `TryPop` executes after an access that leads to a point. -/
def popSteps : PopPoint → PopPoint → List (Nat × LineInstruction)
  | .loadTail _, .loadSequence head =>
      mapped.consumerAcquires (mapped.slotAddress (head % mapped.capacity))
        sizeofSharedSpscQueueSlot
  | .storeHead _ _, _ => mapped.consumerPublishes mapped.headAddress sizeofCursor
  | _, _ => []

end MappedQueue

/-! ## Runs -/

/-- A `TryPop` that returned without an envelope. -/
structure EmptyPop where
  /-- Messages whose `Push` had returned when it began. -/
  promised : Nat
  /-- Messages popped when it returned. -/
  popped : Nat
deriving DecidableEq, Repr

/-- Memory and caches, the progress of both sides and every call that has been made. -/
structure CachedQueue where
  caches : Caches Nat Nat SharedSpscQueue
  producer : PushPoint
  /-- What the producer executes before its next access. -/
  producerSteps : List (Nat × LineInstruction)
  consumer : PopPoint
  /-- What the consumer executes before its next access. -/
  consumerSteps : List (Nat × LineInstruction)
  /-- Every `Push` that has made its last access, oldest first.  It returns when the producer has
  executed what follows. -/
  pushes : List (QueueEnvelope × Status)
  /-- Every `TryPop` that has made its last access, oldest first. -/
  pops : List (Status × Option QueueEnvelope)
  /-- Messages whose `Push` had returned when the running `TryPop` began. -/
  promised : Nat
  /-- Every `TryPop` that returned without an envelope. -/
  emptyPops : List EmptyPop

/-- What a cache does by itself. -/
inductive CacheMove
  | fetch
  | writeBack
  | evict
deriving DecidableEq, Repr

def CacheMove.action {Data : Type} (host : Nat) : CacheMove → Action Nat Data
  | .fetch => .fetch host
  | .writeBack => .writeBack host
  | .evict => .evict host

/-- A cache moves, a call begins, or a side performs its next instruction or access. -/
inductive CachedOp
  | cache (line host : Nat) (move : CacheMove)
  | push (localHost : Nat) (message : QueueEnvelope)
  | tryPop (localHost : Nat)
  | producer
  | consumer
deriving DecidableEq, Repr

namespace CachedQueue

/-- A freshly formatted queue that is in no cache, before any call. -/
def formatted : CachedQueue :=
  ⟨fun _ => .uncached .formatted, .idle, [], .idle, [], [], [], 0, []⟩

/-- The queue as a host sees it, with the calls. -/
def config (mapped : MappedQueue) (queue : CachedQueue) (host : Nat) : QueueConfig :=
  ⟨mapped.seenBy queue.caches host, queue.producer, queue.consumer, queue.pushes, queue.pops⟩

/-- Envelopes for which `Push` has stored its cursor, oldest first. -/
def accepted (queue : CachedQueue) : List QueueEnvelope :=
  queue.pushes.filterMap fun call => if call.2.isOk then some call.1 else none

/-- Envelopes for which `TryPop` has stored its cursor, oldest first. -/
def returned (queue : CachedQueue) : List QueueEnvelope :=
  queue.pops.filterMap fun call => if call.1.isOk then call.2 else none

def reports (queue : CachedQueue) : List Status :=
  queue.pushes.map Prod.snd ++ queue.pops.map Prod.fst

/-- Messages whose `Push` has returned.  A call that still has to publish its cursor has not. -/
def completed (queue : CachedQueue) : Nat :=
  if queue.producer = .idle ∧ queue.producerSteps ≠ [] then queue.accepted.length - 1
  else queue.accepted.length

def perform (queue : CachedQueue) (line : Nat) (action : Action Nat SharedSpscQueue) :
    CachedQueue :=
  { queue with caches := queue.caches.perform (line, action) }

/-- A host stores to an address.  The line of the address becomes that of the queue after the
access; the parts of the queue on other lines are not read from it. -/
def store (queue : CachedQueue) (host : Nat) (address : Option Nat) (shared : SharedSpscQueue) :
    CachedQueue :=
  match address with
  | some address => queue.perform (lineOf address) (.store host fun _ => shared)
  | none => queue

/-- The producer's next instruction or access. -/
def produce (mapped : MappedQueue) (queue : CachedQueue) : Option CachedQueue :=
  match queue.producerSteps with
  | step :: steps =>
      some { queue.perform step.1 (step.2.action mapped.producer) with producerSteps := steps }
  | [] =>
      (QueueConfig.pushAccess mapped.toSpscQueueIdentity (queue.config mapped mapped.producer)).map
        fun after =>
          { queue.store mapped.producer (mapped.pushStore queue.producer) after.shared with
            producer := after.producer
            producerSteps := mapped.pushSteps queue.producer
            pushes := after.pushes }

/-- The consumer's next instruction or access. -/
def consume (mapped : MappedQueue) (queue : CachedQueue) : Option CachedQueue :=
  match queue.consumerSteps with
  | step :: steps =>
      some { queue.perform step.1 (step.2.action mapped.consumer) with consumerSteps := steps }
  | [] =>
      (QueueConfig.popAccess mapped.toSpscQueueIdentity (queue.config mapped mapped.consumer)).map
        fun after =>
          { queue.store mapped.consumer (mapped.popStore queue.consumer) after.shared with
            consumer := after.consumer
            consumerSteps := mapped.popSteps queue.consumer after.consumer
            pops := after.pops
            emptyPops :=
              if after.pops = queue.pops ++ [(.ok, none)] then
                queue.emptyPops ++ [⟨queue.promised, queue.returned.length⟩]
              else queue.emptyPops }

/-- Perform one action.  A call waits while its side is running another one. -/
def next (mapped : MappedQueue) (queue : CachedQueue) : CachedOp → Option CachedQueue
  | .cache line host move => some (queue.perform line (move.action host))
  | .push localHost message =>
      match QueueConfig.pushRejection mapped.toSpscQueueIdentity localHost message with
      | some status => some { queue with pushes := queue.pushes ++ [(message, status)] }
      | none =>
          if queue.producer = .idle ∧ queue.producerSteps = [] then
            some { queue with
              producer := .loadTail message
              producerSteps := mapped.producerAcquires mapped.headAddress sizeofCursor }
          else none
  | .tryPop localHost =>
      match QueueConfig.popRejection mapped.toSpscQueueIdentity localHost with
      | some status => some { queue with pops := queue.pops ++ [(status, none)] }
      | none =>
          if queue.consumer = .idle ∧ queue.consumerSteps = [] then
            some { queue with
              consumer := .loadHead
              consumerSteps := mapped.consumerAcquires mapped.tailAddress sizeofCursor
              promised := queue.completed }
          else none
  | .producer => queue.produce mapped
  | .consumer => queue.consume mapped

end CachedQueue
end Cxloom.LoomMem
