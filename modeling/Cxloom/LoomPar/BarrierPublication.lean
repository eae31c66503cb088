import Cxloom.LoomMem.CoherenceBuffers
import Cxloom.LoomPar.BarrierRounds

/-!
# Barriers and staged writes

`LoomParRuntime::Barrier` of any number of execution contexts, over the barrier managers of all
hosts and the blocks, writers and replica caches of all live objects.  A call commits what its
context has staged, waits in the barrier manager and passes a boundary of its host.  Every access
of a commit is one step, and so is everything that other callers do in between.  The operations on
the objects do not fail.
-/

namespace Cxloom.LoomPar

open LoomMem

/-- The live objects and the execution contexts. -/
structure BarrierScene (cluster : Cluster) where
  /-- Number of live objects. -/
  objectCount : Nat
  /-- Size of every object and of its blocks. -/
  geometry : Fin objectCount → ObjectGeometry
  /-- Bytes of every block of an object before the first write. -/
  content : Fin objectCount → Nat → Nat → UInt8
  contextHost : Nat → cluster.Host

variable {cluster : Cluster}

/-- A write buffer that was moved to the staging list of its context. -/
structure StagedWrite (scene : BarrierScene cluster) where
  object : Fin scene.objectCount
  /-- Identity of the buffer among the writers of the object. -/
  buffer : Nat
  write : WriteBuffer
deriving DecidableEq

/-- Blocks whose tokens the buffer holds. -/
def StagedWrite.blocks {scene : BarrierScene cluster} (staged : StagedWrite scene) : List Nat :=
  staged.write.leases.map HeldLease.block

/-- What a context does next.  A release inside a `Barrier` carries the identifier and the local
participant count of that call. -/
inductive ParticipantPhase (scene : BarrierScene cluster)
  | running
  /-- `SynchronizeRelease` goes on to the first of the writes that it has taken. -/
  | releasing (barrier : Option (Nat × Nat)) (writes : List (StagedWrite scene))
  /-- `ReleaseWriteBuffer` has stored a number of bytes of its current block. -/
  | committing (barrier : Option (Nat × Nat)) (staged : StagedWrite scene) (stored : Nat)
      (rest : List (StagedWrite scene))
  /-- `Wait` was counted and has not returned. -/
  | waiting (call : Nat)
  /-- `Wait` has returned success and `SynchronizeAcquire` is next. -/
  | acquiring (call : Nat)
deriving DecidableEq

def ParticipantPhase.writes {scene : BarrierScene cluster} :
    ParticipantPhase scene → List (StagedWrite scene)
  | .releasing _ writes => writes
  | .committing _ staged _ rest => staged :: rest
  | _ => []

/-- A staged write that was committed. -/
structure StagedCommit (scene : BarrierScene cluster) where
  /-- Context that staged the write. -/
  context : Nat
  staged : StagedWrite scene
  /-- Its blocks, each with the version that the commit produced. -/
  produced : List (Nat × Nat)
deriving DecidableEq

/-- The counted `Wait` of a `Barrier` call. -/
structure BarrierArrival (scene : BarrierScene cluster) where
  context : Nat
  /-- Every write that the context had staged before the call. -/
  staged : List (StagedWrite scene)
deriving DecidableEq

/-- A `Barrier` call that returned success. -/
structure BarrierReturn (scene : BarrierScene cluster) where
  context : Nat
  /-- Position of the call among the counted ones. -/
  call : Nat
  /-- Number of observations on every object at the return. -/
  observed : Fin scene.objectCount → Nat

/-- The objects, the barrier managers, the contexts and what has happened. -/
structure PublicationWorld (scene : BarrierScene cluster) where
  /-- Blocks, writers and caches of every object. -/
  objects : Fin scene.objectCount → CoherenceConfig cluster
  /-- Barrier managers of all hosts. -/
  barrier : BarrierWorld cluster
  phase : Nat → ParticipantPhase scene
  /-- `staged_writes_`: the staging list of every context. -/
  staged : Nat → List (StagedWrite scene)
  /-- Context that staged a buffer of an object. -/
  owner : Fin scene.objectCount → Nat → Option Nat
  /-- Every write that a context has staged, oldest first. -/
  history : Nat → List (StagedWrite scene)
  /-- Committed writes, oldest first. -/
  commits : List (StagedCommit scene)
  /-- The counted calls, by position. -/
  arrivals : Nat → Option (BarrierArrival scene)
  /-- The calls that returned success, oldest first. -/
  returns : List (BarrierReturn scene)

/-- One scheduled action. -/
inductive PublicationOp (scene : BarrierScene cluster)
  /-- `StageWriteBuffer`. -/
  | stageWriteBuffer (context : Nat) (staged : StagedWrite scene)
  /-- `Barrier` is called. -/
  | barrier (context id participants : Nat)
  /-- `SynchronizeRelease` is called outside a barrier. -/
  | synchronizeRelease (context : Nat)
  /-- The running call of a context performs its next action. -/
  | advance (context : Nat)
  /-- `SynchronizeAcquire` is called outside a barrier. -/
  | synchronizeAcquire (host : cluster.Host)
  /-- A read, or a writer that has not staged its buffer, performs its next action. -/
  | access (object : Fin scene.objectCount) (op : CoherenceOp cluster)
  /-- A barrier message is delivered, repeated or forged, or a barrier is broken. -/
  | manage (op : BarrierOp cluster)

namespace PublicationWorld

variable {scene : BarrierScene cluster}

/-- All objects and managers before any call. -/
def initial (scene : BarrierScene cluster) : PublicationWorld scene where
  objects := fun object => .initial cluster (scene.content object)
  barrier := .initial cluster
  phase := fun _ => .running
  staged := fun _ => []
  owner := fun _ _ => none
  history := fun _ => []
  commits := []
  arrivals := fun _ => none
  returns := []

def setPhase (world : PublicationWorld scene) (context : Nat) (phase : ParticipantPhase scene) :
    PublicationWorld scene :=
  { world with phase := Function.update world.phase context phase }

/-- Replace one object. -/
def setObject (world : PublicationWorld scene) (object : Fin scene.objectCount)
    (config : CoherenceConfig cluster) : PublicationWorld scene :=
  { world with objects := Function.update world.objects object config }

def recordCommit (world : PublicationWorld scene) (commit : StagedCommit scene) :
    PublicationWorld scene :=
  { world with commits := world.commits ++ [commit] }

/-- Record a `Barrier` call that returns success. -/
def recordReturn (world : PublicationWorld scene) (context call : Nat) : PublicationWorld scene :=
  { world with
    returns := world.returns ++
      [⟨context, call, fun object => (world.objects object).events.length⟩] }

/-- `SynchronizeRelease` takes the staging list of its context. -/
def takeStaged (world : PublicationWorld scene) (context : Nat) (barrier : Option (Nat × Nat)) :
    PublicationWorld scene :=
  { world with staged := Function.update world.staged context [] }.setPhase context
    (.releasing barrier (world.staged context))

/-- `SynchronizeAcquire` on all objects, between the reads and the commits of the host. -/
def acquire (world : PublicationWorld scene) (host : cluster.Host) :
    Option (PublicationWorld scene) :=
  if ∀ object, (world.objects object).activity host = .idle then
    some { world with
      objects := fun object =>
        ((world.objects object).step (scene.geometry object) (.synchronizeAcquire host)).getD
          (world.objects object) }
  else none

/-- `ReleaseWriteBuffer` checks the range of a write and takes the locks. -/
def startCommit (world : PublicationWorld scene) (host : cluster.Host)
    (staged : StagedWrite scene) : Option (CoherenceConfig cluster) :=
  let geometry := scene.geometry staged.object
  if staged.write.offset ≤ geometry.bytes ∧
      staged.write.storage.length ≤ geometry.bytes - staged.write.offset then
    (world.objects staged.object).step geometry (.startCommit host staged.buffer staged.blocks)
  else none

/-- The first part of `Wait`. -/
def arrive (world : PublicationWorld scene) (context id participants : Nat) :
    Option (PublicationWorld scene) :=
  let host := scene.contextHost context
  (world.barrier.next (.wait host id participants)).map fun barrier =>
    match ((world.barrier.entries host id).wait host id participants).1 with
    | .error _ => { world with barrier := barrier }.setPhase context .running
    | .ok _ =>
        { world with
          barrier := barrier
          arrivals := Function.update world.arrivals world.barrier.calls.length
            (some ⟨context, world.history context⟩) }.setPhase context
          (.waiting world.barrier.calls.length)

/-- The next action of a context's running call. -/
def advance (world : PublicationWorld scene) (context : Nat) : Option (PublicationWorld scene) :=
  let host := scene.contextHost context
  match world.phase context with
  | .running => none
  | .releasing none [] => some (world.setPhase context .running)
  | .releasing (some (id, participants)) [] => world.arrive context id participants
  | .releasing barrier (staged :: rest) =>
      (world.startCommit host staged).map fun config =>
        (world.setObject staged.object config).setPhase context (.committing barrier staged 0 rest)
  | .committing barrier staged stored rest =>
      let geometry := scene.geometry staged.object
      let config := world.objects staged.object
      match config.finished host staged.buffer with
      | some produced =>
          (config.step geometry (.commit host)).map fun after =>
            ((world.setObject staged.object after).recordCommit
              ⟨context, staged, produced⟩).setPhase context (.releasing barrier rest)
      | none =>
          (config.commitOp geometry host staged.buffer staged.write stored).bind fun next =>
            (config.step geometry next.1).map fun after =>
              (world.setObject staged.object after).setPhase context
                (.committing barrier staged next.2 rest)
  | .waiting call =>
      (world.barrier.step (.awake call)).map fun result =>
        { world with barrier := result.2 }.setPhase context
          (if result.1.isOk then .acquiring call else .running)
  | .acquiring call =>
      (world.acquire host).map fun after =>
        (after.recordReturn context call).setPhase context .running

/-- Perform one action, if it is enabled. -/
def step (world : PublicationWorld scene) : PublicationOp scene → Option (PublicationWorld scene)
  | .stageWriteBuffer context staged =>
      if world.phase context = .running ∧ world.owner staged.object staged.buffer = none ∧
          ∀ block ∈ staged.blocks, (world.objects staged.object).writers block =
            some ⟨scene.contextHost context, some staged.buffer, .owned⟩ then
        some { world with
          staged := Function.update world.staged context (world.staged context ++ [staged])
          owner := Function.update world.owner staged.object
            (Function.update (world.owner staged.object) staged.buffer (some context))
          history := Function.update world.history context (world.history context ++ [staged]) }
      else none
  | .barrier context id participants =>
      if world.phase context = .running then
        if participants = 0 then some world
        else some (world.takeStaged context (some (id, participants)))
      else none
  | .synchronizeRelease context =>
      if world.phase context = .running then some (world.takeStaged context none) else none
  | .advance context => world.advance context
  | .synchronizeAcquire host => world.acquire host
  | .access object op =>
      let config := world.objects object
      match op with
      | .synchronizeAcquire _ => none
      | _ =>
          if ∀ buffer ∈ config.actor op, world.owner object buffer = none then
            (config.step (scene.geometry object) op).map fun after => world.setObject object after
          else none
  | .manage op =>
      match op with
      | .wait .. | .awake _ => none
      | _ => (world.barrier.next op).map fun barrier => { world with barrier := barrier }

/-- The action on the barrier managers that an action performs. -/
def barrierOp (world : PublicationWorld scene) : PublicationOp scene → Option (BarrierOp cluster)
  | .advance context =>
      match world.phase context with
      | .releasing (some (id, participants)) [] =>
          some (.wait (scene.contextHost context) id participants)
      | .waiting call => some (.awake call)
      | _ => none
  | .manage op => some op
  | _ => none

def UsesCorrectly (participants : cluster.Host → Nat) (id : Nat) (world : PublicationWorld scene)
    (op : PublicationOp scene) : Prop :=
  ∀ performed ∈ world.barrierOp op, world.barrier.UsesCorrectly participants id performed

instance decidableUsesCorrectly (participants : cluster.Host → Nat) (id : Nat)
    (world : PublicationWorld scene) (op : PublicationOp scene) :
    Decidable (UsesCorrectly participants id world op) :=
  inferInstanceAs (Decidable (∀ performed ∈ world.barrierOp op, _))

end PublicationWorld
end Cxloom.LoomPar
