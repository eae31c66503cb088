import Cxloom.LoomMem.Coherence
import Cxloom.LoomMem.TokenServe
import Cxloom.LoomMem.TokenRun

/-!
# Write buffers

`AcquireWriteRange`, `ReleaseWriteBuffer` and `AbortWriteBuffer` on one live object, for any number
of contexts on every host, over the token services.  Every call of the token service, every copied
byte and every stored byte is one step.  The object mutex that serialises the releases of one host
is left out, so that every interleaving it admits is among those considered here.
-/

namespace Cxloom.LoomMem

namespace ObjectGeometry

/-- Block of a byte. -/
def blockOf (geometry : ObjectGeometry) (position : Nat) : Nat :=
  position / geometry.coherenceBlockBytes

def coherenceBlockCount (geometry : ObjectGeometry) : Nat :=
  1 + (geometry.bytes - 1) / geometry.coherenceBlockBytes

end ObjectGeometry

/-- One object and the contexts that write it. -/
structure WriteScene (cluster : Cluster) where
  /-- Size of the object and of its blocks. -/
  geometry : ObjectGeometry
  object : GlobalPointer
  /-- Host that allocated the object. -/
  owner : cluster.Host
  contextHost : Nat → cluster.Host
  /-- Bytes of the object before the first write. -/
  content : Nat → UInt8

/-- A lease of a write buffer with the identifier of the request that obtained it. -/
structure HeldLease where
  requestId : Nat
  lease : TokenLease
deriving DecidableEq

def HeldLease.block (held : HeldLease) : Nat := held.lease.key.blockIndex

/-- The private copy of a range. -/
structure WriteBuffer where
  /-- Leases of the blocks of the range, in order. -/
  leases : List HeldLease
  /-- First byte of the range. -/
  offset : Nat
  /-- Bytes that were copied from the object. -/
  copied : List UInt8
  /-- Bytes as modified since. -/
  storage : List UInt8
deriving DecidableEq

/-- What a context does next. -/
inductive WritePhase
  /-- No call is running and no buffer is held. -/
  | idle
  /-- `AcquireWriteRange` requests the token of a block. -/
  | requesting (offset bytes block : Nat) (leases : List HeldLease)
  /-- `AcquireWriteRange` waits for the token of a block. -/
  | waiting (offset bytes block requestId : Nat) (leases : List HeldLease)
  /-- `AcquireWriteRange` cancels a request whose wait failed. -/
  | cancelling (requestId : Nat) (leases : List HeldLease)
  /-- `AcquireWriteRange` waits for the end of the cancellation. -/
  | awaitingCancel (requestId : Nat) (leases : List HeldLease)
  /-- A failed call releases leases without modification. -/
  | unwinding (leases : List HeldLease)
  /-- `AcquireWriteRange` copies the range. -/
  | copying (offset bytes : Nat) (leases : List HeldLease) (copied : List UInt8)
  | owned (buffer : WriteBuffer)
  /-- `ReleaseWriteBuffer` begins the writeback of the first remaining block. -/
  | committing (buffer : WriteBuffer) (remaining : List HeldLease)
  /-- `ReleaseWriteBuffer` stores the bytes of a block, then releases it. -/
  | storing (buffer : WriteBuffer) (held : HeldLease) (remaining : List HeldLease) (stored : Nat)
  /-- `AbortWriteBuffer` releases the remaining blocks. -/
  | aborting (buffer : WriteBuffer) (remaining : List HeldLease)
deriving DecidableEq

/-- One modified release of a block. -/
structure CommitRecord where
  context : Nat
  /-- First byte of its range. -/
  offset : Nat
  copied : List UInt8
  /-- Bytes of its buffer. -/
  written : List UInt8
  /-- Bytes of the object at the release. -/
  left : Nat → UInt8
  /-- Status returned by `Release`. -/
  status : Status

/-- The release of a block by `AbortWriteBuffer`. -/
structure AbortRecord where
  context : Nat
  block : Nat
  /-- First byte of its range. -/
  offset : Nat
  copied : List UInt8
  /-- Number of modified releases of the block before. -/
  position : Nat

/-- The services, the bytes of the object, the contexts and what has happened. -/
structure WriteWorld (cluster : Cluster) where
  /-- Token services and the leases of their callers. -/
  tokens : TokenConfig cluster
  bytes : Nat → UInt8
  phase : Nat → WritePhase
  /-- Modified releases of every block, oldest first. -/
  commits : Nat → List CommitRecord
  /-- Block releases by aborts, oldest first. -/
  aborts : List AbortRecord

/-- One scheduled action. -/
inductive WriteOp (cluster : Cluster)
  /-- `AcquireWriteRange` passes its range check. -/
  | acquireWriteRange (context offset bytes : Nat)
  /-- The running call of a context performs its next action. -/
  | advance (context : Nat)
  /-- `AcquireData` fails. -/
  | failData (context : Nat)
  /-- The caller changes a byte of its buffer. -/
  | modify (context index : Nat) (value : UInt8)
  /-- `ReleaseWriteBuffer` is called. -/
  | releaseWriteBuffer (context : Nat)
  /-- `AbortWriteBuffer` is called. -/
  | abortWriteBuffer (context : Nat)
  /-- The poller of a host publishes deferred packets. -/
  | progress (host : cluster.Host)
  /-- Another service publishes a packet. -/
  | publish (source destination : cluster.Host)
  | deliver (source destination : cluster.Host)
deriving DecidableEq

/-- First byte of a block that a buffer covers. -/
def ObjectGeometry.copyBegin (geometry : ObjectGeometry) (buffer : WriteBuffer) (block : Nat) :
    Nat :=
  max buffer.offset (geometry.blockStart block)

def ObjectGeometry.copyEnd (geometry : ObjectGeometry) (buffer : WriteBuffer) (block : Nat) : Nat :=
  min (buffer.offset + buffer.storage.length)
    (min geometry.bytes (geometry.blockStart block + geometry.coherenceBlockBytes))

namespace WriteWorld

variable {cluster : Cluster}

/-- The object after its allocation. -/
def initial (scene : WriteScene cluster) : WriteWorld cluster where
  tokens := .initial cluster fun object =>
    if object = scene.object then some (scene.owner, scene.geometry.coherenceBlockCount) else none
  bytes := scene.content
  phase := fun _ => .idle
  commits := fun _ => []
  aborts := []

def setPhase (world : WriteWorld cluster) (context : Nat) (phase : WritePhase) :
    WriteWorld cluster :=
  { world with phase := Function.update world.phase context phase }

/-- Replace the services. -/
def withTokens (world : WriteWorld cluster) (tokens : TokenConfig cluster) : WriteWorld cluster :=
  { world with tokens := tokens }

/-- Append a modified release of a block. -/
def commit (world : WriteWorld cluster) (block : Nat) (record : CommitRecord) :
    WriteWorld cluster :=
  { world with
    commits := Function.update world.commits block (world.commits block ++ [record]) }

/-- A call of the token service by a context, which decides the context's next phase. -/
def call (world : WriteWorld cluster) (context : Nat) (op : TokenOp cluster)
    (continue_ : Status → TokenConfig cluster → WritePhase) : Option (WriteWorld cluster) :=
  (world.tokens.step op).map fun result =>
    (world.withTokens result.2).setPhase context (continue_ result.1 result.2)

/-- After `Wait`: the next block, the copy, or the cancellation. -/
def afterWait (scene : WriteScene cluster) (host : cluster.Host)
    (offset bytes block requestId : Nat) (leases : List HeldLease) (status : Status)
    (tokens : TokenConfig cluster) : WritePhase :=
  match status.isOk, tokens.leased host requestId with
  | true, some lease =>
      if block = scene.geometry.blockOf (offset + bytes - 1) then
        .copying offset bytes (leases ++ [⟨requestId, lease⟩]) []
      else
        .requesting offset bytes (block + 1) (leases ++ [⟨requestId, lease⟩])
  | _, _ => .cancelling requestId leases

/-- The record of a modified release. -/
def commitRecord (world : WriteWorld cluster) (context : Nat) (buffer : WriteBuffer)
    (status : Status) : CommitRecord :=
  { context := context
    offset := buffer.offset
    copied := buffer.copied
    written := buffer.storage
    left := world.bytes
    status := status }

def abortRecord (world : WriteWorld cluster) (context : Nat) (buffer : WriteBuffer)
    (held : HeldLease) : AbortRecord :=
  { context := context
    block := held.block
    offset := buffer.offset
    copied := buffer.copied
    position := (world.commits held.block).length }

/-- The next action of a context's running call. -/
def advance (scene : WriteScene cluster) (world : WriteWorld cluster) (context : Nat) :
    Option (WriteWorld cluster) :=
  let host := scene.contextHost context
  match world.phase context with
  | .idle | .owned _ => none
  | .requesting offset bytes block leases =>
      world.call context (.request host ⟨scene.object, block⟩ false) fun status _ =>
        if status.isOk then
          .waiting offset bytes block (world.tokens.state.nextRequestId host) leases
        else .unwinding leases.reverse
  | .waiting offset bytes block requestId leases =>
      world.call context (.wait host requestId)
        (afterWait scene host offset bytes block requestId leases)
  | .cancelling requestId leases =>
      world.call context (.cancelAndWait host requestId) fun status _ =>
        if status.isOk then .awaitingCancel requestId leases else .unwinding leases.reverse
  | .awaitingCancel requestId leases =>
      world.call context (.awaitCancel host requestId) fun _ _ => .unwinding leases.reverse
  | .unwinding [] => some (world.setPhase context .idle)
  | .unwinding (held :: rest) =>
      world.call context (.release host held.requestId false) fun _ _ => .unwinding rest
  | .copying offset bytes leases copied =>
      if copied.length < bytes then
        some (world.setPhase context
          (.copying offset bytes leases (copied ++ [world.bytes (offset + copied.length)])))
      else
        some (world.setPhase context (.owned ⟨leases, offset, copied, copied⟩))
  | .committing _ [] => some (world.setPhase context .idle)
  | .committing buffer (held :: rest) =>
      world.call context (.beginWriteback host held.lease) fun status _ =>
        if status.isOk then .storing buffer held rest 0 else .unwinding (held :: rest)
  | .storing buffer held rest stored =>
      let position := scene.geometry.copyBegin buffer held.block + stored
      if position < scene.geometry.copyEnd buffer held.block then
        some
          ({ world with
            bytes := Function.update world.bytes position
              (buffer.storage.getD (position - buffer.offset) 0) }.setPhase context
            (.storing buffer held rest (stored + 1)))
      else
        (world.tokens.step (.release host held.requestId true)).map fun result =>
          ((world.withTokens result.2).commit held.block
            (world.commitRecord context buffer result.1)).setPhase context
            (if result.1.isOk then .committing buffer rest else .unwinding rest)
  | .aborting _ [] => some (world.setPhase context .idle)
  | .aborting buffer (held :: rest) =>
      (world.call context (.release host held.requestId false) fun _ _ =>
        .aborting buffer rest).map fun released =>
          { released with aborts := world.aborts ++ [world.abortRecord context buffer held] }

/-- Perform one action, if it is enabled. -/
def step (scene : WriteScene cluster) (world : WriteWorld cluster) :
    WriteOp cluster → Option (WriteWorld cluster)
  | .acquireWriteRange context offset bytes =>
      if world.phase context = .idle ∧ bytes ≠ 0 ∧ offset ≤ scene.geometry.bytes ∧
          bytes ≤ scene.geometry.bytes - offset then
        some (world.setPhase context
          (.requesting offset bytes (scene.geometry.blockOf offset) []))
      else none
  | .advance context => advance scene world context
  | .failData context =>
      match world.phase context with
      | .copying _ _ leases [] => some (world.setPhase context (.unwinding leases.reverse))
      | _ => none
  | .modify context index value =>
      match world.phase context with
      | .owned buffer =>
          some (world.setPhase context
            (.owned { buffer with storage := buffer.storage.set index value }))
      | _ => none
  | .releaseWriteBuffer context =>
      match world.phase context with
      | .owned buffer =>
          if buffer.offset ≤ scene.geometry.bytes ∧
              buffer.storage.length ≤ scene.geometry.bytes - buffer.offset then
            some (world.setPhase context (.committing buffer buffer.leases))
          else none
      | _ => none
  | .abortWriteBuffer context =>
      match world.phase context with
      | .owned buffer => some (world.setPhase context (.aborting buffer buffer.leases.reverse))
      | _ => none
  | .progress host => (world.tokens.step (.progress host)).map fun result =>
      world.withTokens result.2
  | .publish source destination =>
      (world.tokens.step (.publish source destination)).map fun result =>
        world.withTokens result.2
  | .deliver source destination =>
      (world.tokens.step (.deliver source destination)).map fun result =>
        world.withTokens result.2

/-- Any interleaving of admitted actions. -/
def ReachesBy (scene : WriteScene cluster)
    (admitted : WriteWorld cluster → WriteOp cluster → Prop) :
    WriteWorld cluster → WriteWorld cluster → Prop :=
  Run.ReachesBy (step scene) admitted

/-- Execute a list of actions, failing at the first disabled one. -/
def runOps (scene : WriteScene cluster) (world : WriteWorld cluster)
    (ops : List (WriteOp cluster)) : Option (WriteWorld cluster) :=
  Run.runLabels (step scene) world ops

/-- The modified releases of a block that reported success. -/
def successful (world : WriteWorld cluster) (block : Nat) : List CommitRecord :=
  (world.commits block).filter fun record => record.status.isOk

/-- The next access of `ReleaseWriteBuffer` to a block is the release of its lease. -/
def Releases (scene : WriteScene cluster) (buffer : WriteBuffer) (held : HeldLease)
    (stored : Nat) : Prop :=
  scene.geometry.copyEnd buffer held.block ≤ scene.geometry.copyBegin buffer held.block + stored

instance (scene : WriteScene cluster) (buffer : WriteBuffer) (held : HeldLease) (stored : Nat) :
    Decidable (Releases scene buffer held stored) :=
  inferInstanceAs (Decidable (_ ≤ _))

end WriteWorld
end Cxloom.LoomMem
