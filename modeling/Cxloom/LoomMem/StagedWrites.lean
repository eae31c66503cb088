import Cxloom.Bytes
import Cxloom.Common
import Cxloom.Common.ExecutionContext
import Cxloom.Run
import Mathlib.Algebra.GroupWithZero.Nat

/-!
# Staged writes

`StageWriteBuffer` and `SynchronizeRelease` of any number of execution contexts on one host.  A list
is moved out under the mutex in one step, and every commit and every abort of the loop over it is a
step of its own, so that other contexts stage and release in between.  Any commit may fail after any
number of its bytes, which it stores in ascending order.
-/

namespace Cxloom.LoomMem

namespace StagedWrites

/-- A write buffer with the use counts of what it owns. -/
structure WriteBuffer where
  object : GlobalPointer
  /-- First byte of the range. -/
  offset : Nat
  /-- Bytes of the buffer, unless it is empty. -/
  storage : Option (List UInt8)
  /-- Owners of the bytes. -/
  storageUses : Nat
  /-- Whether the buffer holds a reference to its object. -/
  referenceGuard : Bool
  /-- Owners of the reference. -/
  guardUses : Nat
deriving DecidableEq

/-- `WriteBuffer {}`. -/
def WriteBuffer.empty : WriteBuffer := ⟨⟨0, 0⟩, 0, none, 0, false, 0⟩

/-- An element of a staging list, with the number of its staging and the code that staged it. -/
structure Staged where
  /-- Number of the staging. -/
  ticket : Nat
  /-- Code that called `StageWriteBuffer`. -/
  executor : Executor
  write : WriteBuffer
deriving DecidableEq

/-- How a commit ends. -/
inductive CommitOutcome
  /-- All blocks are committed. -/
  | ok
  /-- The commit fails after it has stored some bytes of the buffer. -/
  | failed (status : Status) (failure : status.isOk = false) (stored : Nat)

/-- What a commit stored: the first bytes of a buffer. -/
structure Effect where
  context : Nat
  /-- The buffer. -/
  staged : Staged
  /-- Number of bytes. -/
  stored : Nat

/-- A call of `SynchronizeRelease`. -/
structure Call where
  /-- Code that called it. -/
  executor : Executor
  /-- Number of the next staging at the call. -/
  ticket : Nat
  /-- The writes that it took. -/
  taken : List Staged

/-- A call of `SynchronizeRelease`, with what has become of the writes that it took. -/
structure Release extends Call where
  /-- Writes that the loop has not reached. -/
  writes : List Staged
  result : Status
  committed : List Staged
  /-- The write whose commit failed, and how many of its bytes were stored. -/
  failed : Option (Staged × Nat)
  aborted : List Staged

end StagedWrites

open StagedWrites in
/-- The staging lists of a host, the releases and the bytes. -/
structure StagedWrites where
  /-- Identities of the code that runs. -/
  contexts : ExecutionContexts
  /-- Whether the runtime is initialized. -/
  initialized : Bool
  buffers : Nat → StagedWrites.WriteBuffer
  /-- `staged_writes_`, by execution context. -/
  stagedWrites : Nat → List Staged
  running : Nat → Option Release
  /-- Bytes by address. -/
  memory : Nat → UInt8
  /-- Number of the next staging. -/
  nextTicket : Nat
  /-- All writes that a context has staged, oldest first. -/
  history : Nat → List Staged
  /-- Releases of a context that returned, oldest first. -/
  returned : Nat → List Release
  /-- What commits have stored, oldest first. -/
  effects : List Effect

namespace StagedWrites

/-- The identity of the code that runs on a thread. -/
def context (state : StagedWrites) (thread : Nat) : Nat :=
  (state.contexts.currentExecutionContextId thread).1

/-- `StageWriteBuffer`. -/
def stageWriteBuffer (state : StagedWrites) (thread : Nat) (write : Option Nat) :
    Status × StagedWrites :=
  match write with
  | none => (.failedPrecondition "stage requires an active owned write buffer", state)
  | some address =>
      let buffer := state.buffers address
      if ¬state.initialized ∨ buffer.storage = none ∨ ¬buffer.referenceGuard then
        (.failedPrecondition "stage requires an active owned write buffer", state)
      else if buffer.storageUses ≠ 1 ∨ buffer.guardUses ≠ 1 then
        (.failedPrecondition "staging requires exclusive write buffer ownership", state)
      else
        let (id, contexts) := state.contexts.currentExecutionContextId thread
        let staged : Staged := ⟨state.nextTicket, state.contexts.executor thread, buffer⟩
        (.ok,
          { state with
            contexts := contexts
            stagedWrites :=
              Function.update state.stagedWrites id (state.stagedWrites id ++ [staged])
            buffers := Function.update state.buffers address .empty
            nextTicket := state.nextTicket + 1
            history := Function.update state.history id (state.history id ++ [staged]) })

/-- `staged_write_count`. -/
def stagedWriteCount (state : StagedWrites) : Nat :=
  ((List.range state.contexts.next).map fun id => (state.stagedWrites id).length).sum

/-- `Finalize`, up to the release of its resources. -/
def finalize (state : StagedWrites) (retirementIdle : Bool) : Status × StagedWrites :=
  if state.initialized ∧ ¬retirementIdle then
    (.failedPrecondition "finish the shared retirement transaction before finalizing LoomMem",
      state)
  else if state.stagedWriteCount ≠ 0 then
    (.failedPrecondition "publish staged writes before finalizing LoomMem", state)
  else
    (.ok, { state with initialized := false })

/-- `SynchronizeRelease` up to its loop. -/
def synchronizeRelease (state : StagedWrites) (thread : Nat) : StagedWrites :=
  if ¬state.initialized then state
  else
    let (id, contexts) := state.contexts.currentExecutionContextId thread
    { state with
      contexts := contexts
      stagedWrites := Function.update state.stagedWrites id []
      running := Function.update state.running id
        (some ⟨⟨state.contexts.executor thread, state.nextTicket, state.stagedWrites id⟩,
          state.stagedWrites id, .ok, [], none, []⟩) }

/-- `ReleaseWriteBuffer`, with the number of bytes that it stored. -/
def releaseWriteBuffer (initialized : Bool) (write : WriteBuffer) (outcome : CommitOutcome) :
    Status × Nat :=
  match write.storage with
  | none =>
      (.failedPrecondition "write buffer requires an initialized runtime and storage", 0)
  | some storage =>
      if ¬initialized ∨ ¬write.referenceGuard then
        (.failedPrecondition "write buffer requires an initialized runtime and storage", 0)
      else
        match outcome with
        | .ok => (.ok, storage.length)
        | .failed status _ stored => (status, stored)

/-- The bytes after a commit. -/
def Effect.apply (effect : Effect) (memory : Nat → UInt8) : Nat → UInt8 :=
  overlay (effect.staged.write.object.offset + effect.staged.write.offset)
    ((effect.staged.write.storage.getD []).take effect.stored) memory

/-- A commit stores a byte. -/
def Effect.Covers (effect : Effect) (position : Nat) : Prop :=
  effect.staged.write.object.offset + effect.staged.write.offset ≤ position ∧
    position < effect.staged.write.object.offset + effect.staged.write.offset +
      ((effect.staged.write.storage.getD []).take effect.stored).length

def WriteBuffer.apply (write : WriteBuffer) (memory : Nat → UInt8) : Nat → UInt8 :=
  overlay (write.object.offset + write.offset) (write.storage.getD []) memory

/-- One iteration of the loop of `SynchronizeRelease`. -/
def visit (state : StagedWrites) (id : Nat) (release : Release) (staged : Staged)
    (rest : List Staged) (outcome : CommitOutcome) : StagedWrites :=
  if release.result.isOk then
    let (status, stored) := releaseWriteBuffer state.initialized staged.write outcome
    let effect : Effect := ⟨id, staged, stored⟩
    { state with
      memory := effect.apply state.memory
      effects := state.effects ++ [effect]
      running := Function.update state.running id
        (some
          (if status.isOk then
            { release with writes := rest, committed := release.committed ++ [staged] }
          else
            { release with
              writes := rest
              result := status
              failed := some (staged, stored)
              aborted := release.aborted ++ [staged] })) }
  else
    { state with
      running := Function.update state.running id
        (some { release with writes := rest, aborted := release.aborted ++ [staged] }) }

/-- `SynchronizeRelease` returns. -/
def finish (state : StagedWrites) (id : Nat) (release : Release) : StagedWrites :=
  { state with
    running := Function.update state.running id none
    returned := Function.update state.returned id (state.returned id ++ [release]) }

/-- Actions on a host. -/
inductive Label
  | construct (fiber : Nat)
  | resume (thread fiber : Nat)
  /-- The fiber of a thread yields or ends. -/
  | leave (thread : Nat)
  /-- A caller acquires, changes, copies or drops a write buffer. -/
  | assign (address : Nat) (write : WriteBuffer)
  /-- `Initialize` succeeds. -/
  | start
  /-- `Finalize`, while no retirement or one goes on. -/
  | finalize (retirementIdle : Bool)
  /-- `StageWriteBuffer` of the code that runs on a thread. -/
  | stageWriteBuffer (thread : Nat) (write : Option Nat)
  /-- `SynchronizeRelease` of the code that runs on a thread. -/
  | synchronizeRelease (thread : Nat)
  /-- The release of the code that runs on a thread goes on. -/
  | advance (thread : Nat) (outcome : CommitOutcome)

/-- Perform an action, if it is enabled.  Code that is inside a release makes no other call. -/
def next (state : StagedWrites) : Label → Option StagedWrites
  | .construct fiber =>
      if state.contexts.contextId fiber = none then
        some { state with contexts := state.contexts.construct fiber }
      else none
  | .resume thread fiber =>
      if (state.contexts.contextId fiber).isSome then
        some { state with contexts := state.contexts.resume thread fiber }
      else none
  | .leave thread => some { state with contexts := state.contexts.leave thread }
  | .assign address write =>
      some { state with buffers := Function.update state.buffers address write }
  | .start => some { state with initialized := true }
  | .finalize retirementIdle => some (state.finalize retirementIdle).2
  | .stageWriteBuffer thread write =>
      if (state.running (state.context thread)).isNone then
        some (state.stageWriteBuffer thread write).2
      else none
  | .synchronizeRelease thread =>
      if (state.running (state.context thread)).isNone then some (state.synchronizeRelease thread)
      else none
  | .advance thread outcome =>
      match state.running (state.context thread) with
      | none => none
      | some release =>
          match release.writes with
          | [] => some (state.finish (state.context thread) release)
          | staged :: rest => some (state.visit (state.context thread) release staged rest outcome)

/-- A host on which nothing was staged. -/
def initial (memory : Nat → UInt8) : StagedWrites where
  contexts := .initial
  initialized := false
  buffers _ := .empty
  stagedWrites _ := []
  running _ := none
  memory := memory
  nextTicket := 0
  history _ := []
  returned _ := []
  effects := []

/-- The releases of a context, the running one last. -/
def releases (state : StagedWrites) (id : Nat) : List Release :=
  state.returned id ++ (state.running id).toList

end StagedWrites
end Cxloom.LoomMem
