import Cxloom.Common
import Mathlib.Logic.Function.Basic

/-!
# Thread records

`ThreadManager`: the records of the threads a host has created and the transitions they take under
the manager's mutex.  A host owns two managers, one for its home threads and one for the executions
it performs for other hosts.  Next to the fields of the source an entry carries the stage that the
runtime thread working on it has reached.
-/

namespace Cxloom.LoomPar

/-- Lifecycle of a record. -/
inductive ThreadState
  | allocated
  | launching
  | running
  | completed
  | joined
deriving DecidableEq, Repr

/-- Progress of a migration request. -/
inductive MigrationState
  | pinned
  | requested
  | quiesced
  | resumed
  | aborted
deriving DecidableEq, Repr

/-- Identifier of a thread in the whole cluster. -/
structure GlobalThreadId (cluster : Cluster) where
  homeHost : cluster.Host
  /-- Number on that host. -/
  localTid : Nat
deriving DecidableEq

/-- How a thread has ended. -/
structure Completion where
  /-- Zero on success. -/
  exitCode : Int
  /-- Value for `Join`. -/
  resultValue : UInt64
deriving DecidableEq

/-- What is known about a thread. -/
structure ThreadRecord (cluster : Cluster) where
  executionHost : cluster.Host
  /-- Lifecycle. -/
  state : ThreadState
  /-- Identifier of the callback. -/
  functionId : UInt64
  /-- Argument record. -/
  argBytes : List UInt8
  /-- Exit code and result, once completed. -/
  completion : Completion
  /-- Number of accepted migration requests. -/
  migrationEpoch : Nat
  /-- Progress of the last one. -/
  migrationState : MigrationState
  migrationTarget : cluster.Host
deriving DecidableEq

/-- How far the runtime has brought an entry. -/
inductive ThreadStage
  /-- Allocated and launching, nothing decided. -/
  | created
  /-- `ReserveExecution` has succeeded. -/
  | reserved
  /-- The fiber is queued or running. -/
  | active
  /-- The fiber has left its stack. -/
  | finished
  /-- The completion hook has run. -/
  | released
  /-- `Launch` has failed, the capacity is still reserved. -/
  | failed
  /-- The creation is over, its record is about to be reclaimed. -/
  | refused
  /-- The creation is over, its record is left to a `Join` that came first. -/
  | disowned
  /-- The pending limit allows the remote creation. -/
  | admitted
  /-- The remote creation is counted, its request is not yet enqueued. -/
  | counted
  /-- The request is enqueued. -/
  | dispatched
  /-- The completion of the execution host is accepted. -/
  | accepted
  /-- The record is completed. -/
  | settled
deriving DecidableEq, Repr

/-- An entry of a manager. -/
structure ThreadEntry (cluster : Cluster) where
  record : ThreadRecord cluster
  /-- Whether nobody will join. -/
  detached : Bool
  /-- Whether a `Join` waits. -/
  joining : Bool
  outcome : Completion
  /-- How far the runtime has come. -/
  stage : ThreadStage
deriving DecidableEq

namespace ThreadEntry

variable {cluster : Cluster}

/-- A new entry. -/
def allocate (executionHost : cluster.Host) (functionId : UInt64) (argBytes : List UInt8) :
    ThreadEntry cluster where
  record :=
    { executionHost := executionHost
      state := .allocated
      functionId := functionId
      argBytes := argBytes
      completion := ⟨0, 0⟩
      migrationEpoch := 0
      migrationState := .pinned
      migrationTarget := executionHost }
  detached := false
  joining := false
  outcome := ⟨0, 0⟩
  stage := .created

/-- Move the runtime's stage. -/
@[simp] def goto (entry : ThreadEntry cluster) (stage : ThreadStage) : ThreadEntry cluster :=
  { entry with stage := stage }

@[simp] def setState (entry : ThreadEntry cluster) (state : ThreadState) : ThreadEntry cluster :=
  { entry with record := { entry.record with state := state } }

/-- `MarkLaunching`. -/
def markLaunching (entry : ThreadEntry cluster) : Except Status (Option (ThreadEntry cluster)) :=
  if entry.record.state ≠ .allocated then
    .error (.failedPrecondition "thread is already launched")
  else .ok (some (entry.setState .launching))

/-- `MarkRunning`.  A delayed acknowledgement cannot undo completion. -/
def markRunning (entry : ThreadEntry cluster) : Except Status (Option (ThreadEntry cluster)) :=
  if entry.record.state = .completed then .ok (some entry)
  else if entry.record.state ≠ .launching ∧ entry.record.state ≠ .running then
    .error (.failedPrecondition "thread is not launching")
  else .ok (some (entry.setState .running))

/-- `MarkCompleted`.  A detached record disappears. -/
def markCompleted (completion : Completion) (entry : ThreadEntry cluster) :
    Except Status (Option (ThreadEntry cluster)) :=
  if entry.record.state = .completed then .ok (some entry)
  else if entry.record.state ≠ .launching ∧ entry.record.state ≠ .running then
    .error (.failedPrecondition "thread is not active")
  else if entry.detached then .ok none
  else
    .ok (some
      { entry with record := { entry.record with state := .completed, completion := completion } })

/-- `Launch`, which fails when the fiber cannot be built. -/
def launch (built : Bool) (entry : ThreadEntry cluster) :
    Except Status (Option (ThreadEntry cluster)) :=
  if entry.record.state ≠ .launching then
    .error (.failedPrecondition "launch requires a registered function and launching thread")
  else if built then .ok (some (entry.setState .running))
  else
    .ok (some
      { entry with
        record :=
          { entry.record with
            state := .completed
            completion := { entry.record.completion with exitCode := -1 } } })

/-- `RequestMigration`. -/
def requestMigration (targetHost : cluster.Host) (entry : ThreadEntry cluster) :
    Except Status (Option (ThreadEntry cluster)) :=
  if entry.record.state ≠ .running ∨ entry.record.migrationState ≠ .pinned then
    .error (.failedPrecondition "thread is not migratable in its current state")
  else
    .ok (some
      { entry with
        record :=
          { entry.record with
            migrationTarget := targetHost
            migrationEpoch := entry.record.migrationEpoch + 1
            migrationState := .requested } })

/-- Replace one migration state by another, as the safe point and the worker do. -/
def moveMigration (source target : MigrationState) (entry : ThreadEntry cluster) :
    Except Status (Option (ThreadEntry cluster)) :=
  .ok (some
    (if entry.record.migrationState = source then
      { entry with record := { entry.record with migrationState := target } }
    else entry))

/-- `Join` up to its wait. -/
def join (entry : ThreadEntry cluster) : Except Status (Option (ThreadEntry cluster)) :=
  if entry.joining ∨ entry.detached then
    .error (.failedPrecondition "thread is joined or detached")
  else if entry.record.state = .allocated then
    .error (.failedPrecondition "thread has not launched")
  else .ok (some { entry with joining := true })

/-- `Detach`. -/
def detach (entry : ThreadEntry cluster) : Except Status (Option (ThreadEntry cluster)) :=
  if entry.record.state = .allocated then
    .error (.failedPrecondition "thread has not launched")
  else if entry.joining ∨ entry.detached then
    .error (.failedPrecondition "thread is joined or detached")
  else if entry.record.state = .completed then .ok none
  else .ok (some { entry with detached := true })

end ThreadEntry

/-- The entries of one manager. -/
structure ThreadManager (cluster : Cluster) where
  nextTid : Nat
  records : Nat → Option (ThreadEntry cluster)

namespace ThreadManager

variable {cluster : Cluster}

def initial (cluster : Cluster) : ThreadManager cluster := ⟨0, fun _ => none⟩

/-- Replace or remove an entry. -/
def put (manager : ThreadManager cluster) (tid : Nat) (entry : Option (ThreadEntry cluster)) :
    ThreadManager cluster :=
  { manager with records := Function.update manager.records tid entry }

/-- `AllocateThread`. -/
def allocateThread (manager : ThreadManager cluster) (executionHost : cluster.Host)
    (functionId : UInt64) (argBytes : List UInt8) : Nat × ThreadManager cluster :=
  (manager.nextTid,
    { nextTid := manager.nextTid + 1
      records := Function.update manager.records manager.nextTid
        (some (.allocate executionHost functionId argBytes)) })

def find (manager : ThreadManager cluster) (localHost : cluster.Host)
    (gtid : GlobalThreadId cluster) : Option (ThreadEntry cluster) :=
  if gtid.homeHost = localHost then manager.records gtid.localTid else none

/-- Perform a transition of one entry, with the text for an identifier that is not there. -/
def transactAs (manager : ThreadManager cluster) (missing : String) (localHost : cluster.Host)
    (gtid : GlobalThreadId cluster)
    (transition : ThreadEntry cluster → Except Status (Option (ThreadEntry cluster))) :
    Status × ThreadManager cluster :=
  match manager.find localHost gtid with
  | none => (.notFound missing, manager)
  | some entry =>
      match transition entry with
      | .error status => (status, manager)
      | .ok after => (.ok, manager.put gtid.localTid after)

/-- Perform a transition of one home entry. -/
def transact (manager : ThreadManager cluster) (localHost : cluster.Host)
    (gtid : GlobalThreadId cluster)
    (transition : ThreadEntry cluster → Except Status (Option (ThreadEntry cluster))) :
    Status × ThreadManager cluster :=
  manager.transactAs "unknown home thread" localHost gtid transition

end ThreadManager
end Cxloom.LoomPar
