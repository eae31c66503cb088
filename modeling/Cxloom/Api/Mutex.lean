import Cxloom.LoomMem.WriteBuffer

/-!
# Distributed mutexes

`cl_pthread_mutex_lock`, `cl_pthread_mutex_trylock` and `cl_pthread_mutex_unlock` on one distributed
mutex, for any number of contexts and of handles on every host, over the token services.  A handle
has a local gate, taken under its guard; whoever closed the gate acquires the write token of the
mutex object's only block.  Every critical section of the guard and every call of the token service
is one action.  The guard that `cl_pthread_mutex_unlock` holds for its whole length is left out, so
that every interleaving it admits is among those considered here.  The mutex object stays allocated,
and its bytes are written back as they were read.
-/

namespace Cxloom.Api

open LoomMem

/-- One mutex object and the contexts that use it. -/
structure MutexScene (cluster : Cluster) where
  object : GlobalPointer
  contextHost : Nat → cluster.Host
  /-- Whether the memory runtime of a host is initialized. -/
  initialized : cluster.Host → Bool

def MutexScene.key {cluster : Cluster} (scene : MutexScene cluster) : BlockKey :=
  ⟨scene.object, 0⟩

/-- A created or attached handle (`ClMutex`). -/
structure MutexHandle (cluster : Cluster) where
  host : cluster.Host
  /-- Whether the gate is closed. -/
  locked : Bool
  /-- Context that closed the gate. -/
  owner : Nat
  /-- Contexts that wait for the gate. -/
  waiters : Nat
  /-- Lease of the write buffer, if there is one. -/
  lease : Option HeldLease
deriving DecidableEq

/-- A handle that nobody has used. -/
def MutexHandle.fresh {cluster : Cluster} (host : cluster.Host) : MutexHandle cluster :=
  { host := host, locked := false, owner := 0, waiters := 0, lease := none }

/-- Why the write buffer is released. -/
inductive ReleasePurpose
  /-- A lock that fails with a status gives back what it took. -/
  | undo (status : StatusCode)
  | unlock
deriving DecidableEq

/-- What a context does next.  Locking phases record whether the call is a trylock. -/
inductive MutexPhase
  /-- No call is running. -/
  | idle
  /-- A lock waits for the gate. -/
  | parked (handle : Nat)
  /-- `AcquireWriteBuffer` requests the token. -/
  | acquiring (handle : Nat) (attempt : Bool)
  /-- `AcquireWriteBuffer` waits for the token. -/
  | waiting (handle : Nat) (attempt : Bool) (requestId : Nat)
  /-- `AcquireWriteBuffer` cancels a request whose wait failed. -/
  | cancelling (handle : Nat) (attempt : Bool) (requestId : Nat) (status : StatusCode)
  /-- `AcquireWriteBuffer` waits for the end of the cancellation. -/
  | awaitingCancel (handle : Nat) (attempt : Bool) (requestId : Nat) (status : StatusCode)
  /-- `SynchronizeAcquire` of a lock that has the lease. -/
  | synchronizing (handle : Nat)
  /-- A failed lock gives back what it took. -/
  | undoing (handle : Nat) (status : StatusCode)
  /-- `SynchronizeRelease` of an unlock. -/
  | publishing (handle : Nat)
  /-- `ReleaseWriteBuffer` begins the writeback. -/
  | releasing (handle : Nat) (held : HeldLease) (purpose : ReleasePurpose)
  /-- `ReleaseWriteBuffer` has stored the bytes and releases the lease. -/
  | storing (handle : Nat) (held : HeldLease) (purpose : ReleasePurpose)
  /-- `ReleaseWriteBuffer` releases the lease of a writeback that did not begin. -/
  | abandoning (handle : Nat) (held : HeldLease) (purpose : ReleasePurpose) (status : StatusCode)
deriving DecidableEq

/-- What the callers see. -/
inductive MutexEvent
  | lockReturned (context handle : Nat) (status : StatusCode)
  | unlockCalled (context handle : Nat)
  | unlockReturned (context handle : Nat) (status : StatusCode)
deriving DecidableEq

/-- The context lies between a lock of the handle that returned `CL_OK` and the start of the
matching unlock.  Histories are newest first. -/
def Inside (history : List MutexEvent) (context handle : Nat) : Prop :=
  history.find? (fun event =>
    event = .lockReturned context handle .ok ∨ event = .unlockCalled context handle) =
      some (.lockReturned context handle .ok)

def Holds (history : List MutexEvent) (context handle : Nat) : Prop :=
  history.find? (fun event =>
    event = .lockReturned context handle .ok ∨ event = .unlockReturned context handle .ok) =
      some (.lockReturned context handle .ok)

instance (history : List MutexEvent) (context handle : Nat) :
    Decidable (Inside history context handle) :=
  inferInstanceAs (Decidable (_ = _))

instance (history : List MutexEvent) (context handle : Nat) :
    Decidable (Holds history context handle) :=
  inferInstanceAs (Decidable (_ = _))

/-- The services, the handles, the contexts and what has happened. -/
structure MutexWorld (cluster : Cluster) where
  /-- Token services and the leases of their callers. -/
  tokens : TokenConfig cluster
  /-- Handles of all hosts, by position. -/
  handles : List (MutexHandle cluster)
  phase : Nat → MutexPhase
  /-- What the callers have seen, newest first. -/
  history : List MutexEvent

/-- One scheduled action. -/
inductive MutexOp (cluster : Cluster)
  /-- `cl_pthread_mutex_attach` creates a handle. -/
  | attach (host : cluster.Host)
  /-- `LockMutex` is called. -/
  | lock (context handle : Nat) (attempt : Bool)
  /-- `cl_pthread_mutex_unlock` is called. -/
  | unlock (context handle : Nat)
  /-- The running call of a context performs its next action. -/
  | advance (context : Nat)
  /-- `SynchronizeRelease` publishes the staged writes of the context with a status. -/
  | synchronizeRelease (context : Nat) (status : StatusCode)
  /-- The poller of a host publishes deferred packets. -/
  | progress (host : cluster.Host)
  /-- Another service publishes a packet. -/
  | publish (source destination : cluster.Host)
  | deliver (source destination : cluster.Host)
deriving DecidableEq

namespace MutexWorld

variable {cluster : Cluster}

def setPhase (world : MutexWorld cluster) (context : Nat) (phase : MutexPhase) :
    MutexWorld cluster :=
  { world with phase := Function.update world.phase context phase }

def modifyHandle (world : MutexWorld cluster) (handle : Nat)
    (change : MutexHandle cluster → MutexHandle cluster) : MutexWorld cluster :=
  { world with handles := world.handles.modify handle change }

/-- Replace the services. -/
def withTokens (world : MutexWorld cluster) (tokens : TokenConfig cluster) : MutexWorld cluster :=
  { world with tokens := tokens }

/-- Add what a caller sees. -/
def record (world : MutexWorld cluster) (event : MutexEvent) : MutexWorld cluster :=
  { world with history := event :: world.history }

def returnLock (world : MutexWorld cluster) (context handle : Nat) (status : StatusCode) :
    MutexWorld cluster :=
  (world.setPhase context .idle).record (.lockReturned context handle status)

def returnUnlock (world : MutexWorld cluster) (context handle : Nat) (status : StatusCode) :
    MutexWorld cluster :=
  (world.setPhase context .idle).record (.unlockReturned context handle status)

/-- Close a gate. -/
def close (context : Nat) (handle : MutexHandle cluster) : MutexHandle cluster :=
  { handle with locked := true, owner := context }

/-- Open a gate. -/
def open_ (handle : MutexHandle cluster) : MutexHandle cluster :=
  { handle with locked := false, owner := 0 }

/-- Keep or reset the write buffer of a handle. -/
def setLease (lease : Option HeldLease) (handle : MutexHandle cluster) : MutexHandle cluster :=
  { handle with lease := lease }

/-- The first critical section of `LockMutex`. -/
def lock (world : MutexWorld cluster) (context handle : Nat) (impl : MutexHandle cluster)
    (attempt : Bool) : MutexWorld cluster :=
  if impl.locked ∧ impl.owner = context then
    world.returnLock context handle (if attempt then .unavailable else .failedPrecondition)
  else if attempt ∧ impl.locked then
    world.returnLock context handle .unavailable
  else if impl.locked then
    (world.modifyHandle handle fun impl => { impl with waiters := impl.waiters + 1 }).setPhase
      context (.parked handle)
  else
    (world.modifyHandle handle (close context)).setPhase context (.acquiring handle attempt)

/-- After a failed `AcquireWriteBuffer`: a lock tries again while the token is unavailable. -/
def retry (handle : Nat) (attempt : Bool) (status : StatusCode) : MutexPhase :=
  if attempt ∨ status ≠ .unavailable then .undoing handle status else .acquiring handle attempt

/-- A call of the token service by a context. -/
def call (world : MutexWorld cluster) (op : TokenOp cluster)
    (continue_ : Status → MutexWorld cluster → MutexWorld cluster) : Option (MutexWorld cluster) :=
  (world.tokens.step op).map fun result => continue_ result.1 (world.withTokens result.2)

/-- After `Wait`: the handle keeps the lease, or the request is cancelled. -/
def afterWait (context handle : Nat) (host : cluster.Host) (attempt : Bool) (requestId : Nat)
    (status : Status) (world : MutexWorld cluster) : MutexWorld cluster :=
  match status.isOk, world.tokens.leased host requestId with
  | true, some lease =>
      (world.modifyHandle handle (setLease (some ⟨requestId, lease⟩))).setPhase context
        (.synchronizing handle)
  | _, _ => world.setPhase context (.cancelling handle attempt requestId status.code)

/-- After `ReleaseWriteBuffer`: an unlock returns, with the gate open if it succeeded; a failed lock
resets the write buffer whatever the status. -/
def afterRelease (context handle : Nat) (purpose : ReleasePurpose) (status : StatusCode)
    (world : MutexWorld cluster) : MutexWorld cluster :=
  match purpose with
  | .undo original =>
      (world.modifyHandle handle (setLease none)).setPhase context (.undoing handle original)
  | .unlock =>
      if status = .ok then
        (world.modifyHandle handle (open_ ∘ setLease none)).returnUnlock context handle .ok
      else
        world.returnUnlock context handle status

/-- The next action of a context's running call. -/
def advance (scene : MutexScene cluster) (world : MutexWorld cluster) (context : Nat) :
    Option (MutexWorld cluster) :=
  let host := scene.contextHost context
  match world.phase context with
  | .idle | .publishing _ => none
  | .parked handle =>
      (world.handles[handle]?).bind fun impl =>
        if impl.locked then none
        else
          some ((world.modifyHandle handle fun impl =>
            close context { impl with waiters := impl.waiters - 1 }).setPhase context
              (.acquiring handle false))
  | .acquiring handle attempt =>
      if scene.initialized host then
        world.call (.request host scene.key false) fun status next =>
          next.setPhase context
            (if status.isOk then .waiting handle attempt (world.tokens.state.nextRequestId host)
            else retry handle attempt status.code)
      else
        some (world.setPhase context (retry handle attempt .failedPrecondition))
  | .waiting handle attempt requestId =>
      world.call (.wait host requestId) (afterWait context handle host attempt requestId)
  | .cancelling handle attempt requestId status =>
      world.call (.cancelAndWait host requestId) fun cancelled next =>
        next.setPhase context
          (if cancelled.isOk then .awaitingCancel handle attempt requestId status
          else retry handle attempt status)
  | .awaitingCancel handle attempt requestId status =>
      world.call (.awaitCancel host requestId) fun _ next =>
        next.setPhase context (retry handle attempt status)
  | .synchronizing handle =>
      if scene.initialized host then some (world.returnLock context handle .ok)
      else some (world.setPhase context (.undoing handle .failedPrecondition))
  | .undoing handle status =>
      (world.handles[handle]?).map fun impl =>
        match impl.lease with
        | none => (world.modifyHandle handle open_).returnLock context handle status
        | some held =>
            if scene.initialized host then
              world.setPhase context (.releasing handle held (.undo status))
            else
              world.modifyHandle handle (setLease none)
  | .releasing handle held purpose =>
      world.call (.beginWriteback host held.lease) fun status next =>
        next.setPhase context
          (if status.isOk then .storing handle held purpose
          else .abandoning handle held purpose status.code)
  | .storing handle held purpose =>
      world.call (.release host held.requestId true) fun status =>
        afterRelease context handle purpose status.code
  | .abandoning handle held purpose status =>
      world.call (.release host held.requestId false) fun _ =>
        afterRelease context handle purpose status

/-- The checks of `cl_pthread_mutex_unlock`. -/
def unlock (world : MutexWorld cluster) (context handle : Nat) (impl : MutexHandle cluster) :
    MutexWorld cluster :=
  let called := world.record (.unlockCalled context handle)
  if ¬impl.locked ∨ impl.owner ≠ context then
    called.returnUnlock context handle .failedPrecondition
  else
    called.setPhase context (.publishing handle)

/-- `SynchronizeRelease` of an unlock, then the start of `ReleaseWriteBuffer`. -/
def synchronizeRelease (scene : MutexScene cluster) (world : MutexWorld cluster) (context : Nat)
    (status : StatusCode) : Option (MutexWorld cluster) :=
  match world.phase context with
  | .publishing handle =>
      let published :=
        if scene.initialized (scene.contextHost context) then status else .failedPrecondition
      if published ≠ .ok then some (world.returnUnlock context handle published)
      else
        ((world.handles[handle]?).bind MutexHandle.lease).map fun held =>
          world.setPhase context (.releasing handle held .unlock)
  | _ => none

/-- The handle that a context of the same host may use when it runs no other call. -/
def usable (scene : MutexScene cluster) (world : MutexWorld cluster) (context handle : Nat) :
    Option (MutexHandle cluster) :=
  (world.handles[handle]?).filter fun impl =>
    impl.host = scene.contextHost context ∧ world.phase context = .idle

/-- Perform one action, if it is enabled. -/
def step (scene : MutexScene cluster) (world : MutexWorld cluster) :
    MutexOp cluster → Option (MutexWorld cluster)
  | .attach host => some { world with handles := world.handles ++ [.fresh host] }
  | .lock context handle attempt =>
      (world.usable scene context handle).map fun impl => world.lock context handle impl attempt
  | .unlock context handle =>
      (world.usable scene context handle).map fun impl => world.unlock context handle impl
  | .advance context => advance scene world context
  | .synchronizeRelease context status => synchronizeRelease scene world context status
  | .progress host => world.call (.progress host) fun _ next => next
  | .publish source destination => world.call (.publish source destination) fun _ next => next
  | .deliver source destination => world.call (.deliver source destination) fun _ next => next

/-- Any interleaving of actions. -/
def Reaches (scene : MutexScene cluster) : MutexWorld cluster → MutexWorld cluster → Prop :=
  Run.Reaches (step scene)

/-- Execute a list of actions, failing at the first disabled one. -/
def runOps (scene : MutexScene cluster) (world : MutexWorld cluster)
    (ops : List (MutexOp cluster)) : Option (MutexWorld cluster) :=
  Run.runLabels (step scene) world ops

end MutexWorld
end Cxloom.Api
