import Cxloom.LoomPar.MessageHandling
import Cxloom.LoomPar.ThreadLifecycle
import Cxloom.ReadyQueue

/-!
# Workers

The workers of a `ThreadManager`.  `Launch` queues a fiber; `WorkerLoop` takes the first queued
fiber that is runnable and not pinned to another worker, runs it until it yields or ends, and then
queues it again or completes its record.  What a fiber does between two switches is not fixed.
-/

namespace Cxloom.LoomPar

/-- What a parked fiber waits for. -/
structure ExecutionWaitState where
  /-- Its flag. -/
  ready : Nat
  deadline : Option Nat
deriving DecidableEq

/-- A fiber without its stack. -/
structure Fiber where
  /-- Where it is parked. -/
  wait : Option ExecutionWaitState
  /-- Whether its entry has returned. -/
  done : Bool
  safePoint : Bool
  owner : Nat
deriving DecidableEq

/-- A new fiber. -/
def Fiber.initial : Fiber := ⟨none, false, false, 0⟩

/-- The part of an entry that the workers use. -/
structure FiberEntry (workers : Nat) where
  /-- The fiber, once it is built and until it is destroyed. -/
  fiber : Option Fiber
  /-- The worker that the fiber is pinned to. -/
  worker : Option (Fin workers)
  /-- Exit code and result of the fiber. -/
  outcome : Completion
  /-- Whether the fiber is queued. -/
  queued : Bool
  /-- Whether there is a completion hook. -/
  onComplete : Bool
deriving DecidableEq

namespace FiberEntry

variable {workers : Nat}

/-- The entry of a thread that was not launched. -/
def initial : FiberEntry workers := ⟨none, none, ⟨0, 0⟩, false, false⟩

/-- `Launch` builds the fiber and queues it. -/
def launch (onComplete : Bool) (entry : FiberEntry workers) : FiberEntry workers :=
  { entry with fiber := some .initial, queued := true, onComplete := onComplete }

/-- A worker takes the fiber out of the queue. -/
def assign (worker : Fin workers) (entry : FiberEntry workers) : FiberEntry workers :=
  { entry with
    worker := some worker
    fiber := entry.fiber.map fun fiber => { fiber with owner := worker }
    queued := false }

/-- Change the fiber. -/
def setFiber (fiber : Fiber) (entry : FiberEntry workers) : FiberEntry workers :=
  { entry with fiber := some fiber }

/-- Change the result. -/
def setResult (value : UInt64) (entry : FiberEntry workers) : FiberEntry workers :=
  { entry with outcome := { entry.outcome with resultValue := value } }

/-- The entry function returns. -/
def finish (failed : Bool) (result : Option UInt64) (fiber : Fiber) (entry : FiberEntry workers) :
    FiberEntry workers :=
  { entry with
    fiber := some { fiber with done := true }
    outcome := ⟨if failed then -1 else 0, result.getD entry.outcome.resultValue⟩ }

def destroy (resumed : Bool) (entry : FiberEntry workers) : FiberEntry workers :=
  { entry with
    fiber := none
    outcome := if resumed then entry.outcome else { entry.outcome with exitCode := -1 } }

end FiberEntry

/-- Where a worker is in `WorkerLoop`. -/
inductive WorkerPoint
  /-- It looks for a fiber. -/
  | searching
  /-- It has taken a fiber. -/
  | picked (tid : Nat)
  /-- It is on the stack of the fiber. -/
  | running (tid : Nat)
  /-- `Resume` has returned. -/
  | returned (tid : Nat) (resumed : Bool)
  | destroyed (tid : Nat)
  /-- The fiber no longer counts as executing. -/
  | retired (tid : Nat)
  /-- The completion hook has run. -/
  | hooked (tid : Nat)
  /-- The thread has ended. -/
  | exited
deriving DecidableEq

namespace WorkerPoint

/-- The thread that the worker works on. -/
def task : WorkerPoint → Option Nat
  | picked tid | running tid | returned tid _ | destroyed tid | retired tid | hooked tid => some tid
  | searching | exited => none

/-- Whether the fiber counts as executing. -/
def executes : WorkerPoint → Bool
  | picked _ | running _ | returned _ _ | destroyed _ => true
  | searching | retired _ | hooked _ | exited => false

/-- Whether the worker is on the stack of its fiber. -/
def onStack : WorkerPoint → Bool
  | running _ => true
  | _ => false

end WorkerPoint

/-- What happened to a thread. -/
inductive FiberEvent (workers : Nat)
  /-- Its fiber was queued for the first time. -/
  | launched
  /-- A worker switched to its stack. -/
  | resumed (worker : Fin workers)
  /-- Its fiber was destroyed and no longer counts as executing. -/
  | retired
  /-- Its completion hook, if there is one, has run. -/
  | hooked
  /-- Its completion was handed to `MarkCompleted`. -/
  | reported (completion : Completion)
deriving DecidableEq

/-- A manager with its workers. -/
structure WorkerPool (cluster : Cluster) (workers : Nat) where
  /-- Records, callers and what happened to them. -/
  run : ManagerRun cluster
  /-- The fibers. -/
  entries : Nat → FiberEntry workers
  ready : List Nat
  /-- Number of fibers that the workers have taken. -/
  executing : Nat
  /-- Whether the manager is being destroyed. -/
  stopping : Bool
  points : Fin workers → WorkerPoint
  /-- Flags of wait states. -/
  flags : Nat → Bool
  /-- The clock. -/
  now : Nat
  /-- What happened to every thread. -/
  story : Nat → List (FiberEvent workers)
  /-- Which worker took which fiber, in order. -/
  picks : List (Fin workers × Nat)

/-- An action of a worker, or of the fiber that it runs. -/
inductive WorkerAction
  /-- Take a fiber. -/
  | pick
  /-- Leave the loop. -/
  | exit
  /-- Switch to the fiber, if the system can. -/
  | resume (switched : Bool)
  /-- The fiber calls `SetCurrentResult`. -/
  | setResult (value : UInt64)
  | park (wait : ExecutionWaitState)
  /-- The fiber calls `CurrentSafePoint`. -/
  | safePoint
  /-- The entry of the fiber returns. -/
  | finish (failed : Bool) (result : Option UInt64)
  /-- Queue the fiber again or destroy it. -/
  | settle
  /-- Stop counting the fiber. -/
  | retire
  /-- Run the completion hook. -/
  | hook
  /-- Complete the record. -/
  | report

/-- One step of a manager with its workers. -/
inductive PoolLabel (cluster : Cluster) (workers : Nat)
  | act (worker : Fin workers) (action : WorkerAction)
  /-- `Launch`. -/
  | launch (gtid : GlobalThreadId cluster) (function built onComplete : Bool)
  /-- Any other call, or a caller of `Join` goes on. -/
  | manage (label : ManagerRun.Label cluster)
  /-- `RequestMigration`. -/
  | requestMigration (gtid : GlobalThreadId cluster) (targetHost : cluster.Host)
  /-- A wait state is notified. -/
  | signal (flag : Nat)
  /-- Time passes. -/
  | tick
  /-- The destructor starts. -/
  | stop

namespace WorkerPool

variable {cluster : Cluster} {workers : Nat}

/-- A new manager, whose workers have started. -/
def initial (workers : Nat) (localHost : cluster.Host) : WorkerPool cluster workers where
  run := .initial localHost
  entries := fun _ => .initial
  ready := []
  executing := 0
  stopping := false
  points := fun _ => .searching
  flags := fun _ => false
  now := 0
  story := fun _ => []
  picks := []

def modify (pool : WorkerPool cluster workers) (tid : Nat)
    (change : FiberEntry workers → FiberEntry workers) : WorkerPool cluster workers :=
  { pool with entries := Function.update pool.entries tid (change (pool.entries tid)) }

/-- Move a worker. -/
def goto (pool : WorkerPool cluster workers) (worker : Fin workers) (point : WorkerPoint) :
    WorkerPool cluster workers :=
  { pool with points := Function.update pool.points worker point }

/-- Remember what happened to a thread. -/
def note (pool : WorkerPool cluster workers) (tid : Nat) (event : FiberEvent workers) :
    WorkerPool cluster workers :=
  { pool with story := Function.update pool.story tid (pool.story tid ++ [event]) }

def moveMigration (pool : WorkerPool cluster workers) (tid : Nat)
    (source target : MigrationState) : WorkerPool cluster workers :=
  { pool with
    run := (pool.run.change ⟨pool.run.localHost, tid⟩ (ThreadEntry.moveMigration source target)
      fun _ => []).2 }

/-- `Fiber::runnable`. -/
def runnable (pool : WorkerPool cluster workers) (fiber : Fiber) : Bool :=
  match fiber.wait with
  | none => true
  | some wait => pool.flags wait.ready || wait.deadline.any fun deadline => deadline ≤ pool.now

/-- Whether the fiber of a thread is runnable. -/
def awake (pool : WorkerPool cluster workers) (tid : Nat) : Bool :=
  (pool.entries tid).fiber.any pool.runnable

/-- Whether a worker may take a queued fiber. -/
def eligible (pool : WorkerPool cluster workers) (worker : Fin workers) (tid : Nat) : Bool :=
  ((pool.entries tid).worker = none || (pool.entries tid).worker = some worker) && pool.awake tid

/-- Take a fiber out of the ready queue. -/
def take (pool : WorkerPool cluster workers) (worker : Fin workers) (tid : Nat)
    (ready : List Nat) : WorkerPool cluster workers :=
  { (pool.modify tid (.assign worker)).goto worker (.picked tid) with
    ready := ready
    executing := pool.executing + 1
    picks := pool.picks ++ [(worker, tid)] }

/-- `Fiber::Resume` up to the switch. -/
def resume (pool : WorkerPool cluster workers) (worker : Fin workers) (tid : Nat) (fiber : Fiber)
    (switched : Bool) : WorkerPool cluster workers :=
  if fiber.done then pool.goto worker (.returned tid false)
  else if switched then
    ((pool.modify tid (.setFiber { fiber with wait := none, safePoint := false })).note tid
      (.resumed worker)).goto worker (.running tid)
  else
    (pool.modify tid (.setFiber { fiber with safePoint := false })).goto worker
      (.returned tid false)

/-- Queue a fiber again. -/
def requeue (pool : WorkerPool cluster workers) (worker : Fin workers) (tid : Nat) :
    WorkerPool cluster workers :=
  { (((pool.moveMigration tid .quiesced .resumed).modify tid
      fun entry => { entry with queued := true }).goto worker .searching) with
    executing := pool.executing - 1
    ready := pool.ready ++ [tid] }

def act (pool : WorkerPool cluster workers) (worker : Fin workers) (action : WorkerAction) :
    Option (WorkerPool cluster workers) :=
  match action, pool.points worker with
  | .pick, .searching =>
      (ReadyQueue.take (pool.eligible worker) pool.ready).map fun (tid, ready) =>
        pool.take worker tid ready
  | .exit, .searching =>
      if pool.stopping ∧ pool.ready = [] then some (pool.goto worker .exited) else none
  | .resume switched, .picked tid =>
      (pool.entries tid).fiber.map fun fiber => pool.resume worker tid fiber switched
  | .setResult value, .running tid => some (pool.modify tid (.setResult value))
  | .park wait, .running tid =>
      (pool.entries tid).fiber.map fun fiber =>
        (pool.modify tid (.setFiber { fiber with wait := some wait })).goto worker
          (.returned tid true)
  | .safePoint, .running tid =>
      -- Without a record the call fails, and the fiber goes on.
      if (pool.run.manager.records tid).isNone then some pool
      else
        (pool.entries tid).fiber.map fun fiber =>
          ((pool.moveMigration tid .requested .quiesced).modify tid
            (.setFiber { fiber with safePoint := true })).goto worker (.returned tid true)
  | .finish failed result, .running tid =>
      (pool.entries tid).fiber.map fun fiber =>
        (pool.modify tid (.finish failed result fiber)).goto worker (.returned tid true)
  | .settle, .returned tid resumed =>
      if ((pool.entries tid).fiber.any Fiber.done) || !resumed then
        some ((pool.modify tid (.destroy resumed)).goto worker (.destroyed tid))
      else some (pool.requeue worker tid)
  | .retire, .destroyed tid =>
      some { (pool.note tid .retired).goto worker (.retired tid) with
        executing := pool.executing - 1 }
  | .hook, .retired tid => some ((pool.note tid .hooked).goto worker (.hooked tid))
  | .report, .hooked tid =>
      let completion := (pool.entries tid).outcome
      some { (pool.note tid (.reported completion)).goto worker .searching with
        run := (pool.run.perform (.markCompleted ⟨pool.run.localHost, tid⟩ completion)).2 }
  | _, _ => none

/-- What `Launch` does to a record. -/
def launchRecord (function built : Bool) (entry : ThreadEntry cluster) :
    Except Status (Option (ThreadEntry cluster)) :=
  if function then entry.launch built
  else .error (.failedPrecondition "launch requires a registered function and launching thread")

/-- The completion of a thread whose fiber could not be built. -/
def unbuilt (entry : ThreadEntry cluster) : Completion :=
  { entry.record.completion with exitCode := -1 }

/-- `Launch`. -/
def launch (pool : WorkerPool cluster workers) (gtid : GlobalThreadId cluster)
    (function built onComplete : Bool) : WorkerPool cluster workers :=
  let changed := pool.run.change gtid (launchRecord function built) fun entry =>
    if built then [] else [.completed (unbuilt entry)]
  if !changed.1.isOk then pool
  else if built then
    { ((pool.modify gtid.localTid (.launch onComplete)).note gtid.localTid .launched) with
      run := changed.2
      ready := pool.ready ++ [gtid.localTid] }
  else
    { pool.modify gtid.localTid (fun entry => { entry with onComplete := onComplete }) with
      run := changed.2 }

/-- Whether a label of the records is a launch. -/
def isLaunch : ManagerRun.Label cluster → Bool
  | .call (.launch _ _) => true
  | _ => false

/-- Perform one step. -/
def next (pool : WorkerPool cluster workers) :
    PoolLabel cluster workers → Option (WorkerPool cluster workers)
  | .act worker action => pool.act worker action
  | .launch gtid function built onComplete =>
      some (pool.launch gtid function built onComplete)
  | .manage label =>
      if isLaunch label then none
      else (pool.run.next label).map fun run => { pool with run := run }
  | .requestMigration gtid targetHost =>
      some
        { pool with
          run := (pool.run.change gtid (ThreadEntry.requestMigration targetHost) fun _ => []).2 }
  | .signal flag => some { pool with flags := Function.update pool.flags flag true }
  | .tick => some { pool with now := pool.now + 1 }
  | .stop => some { pool with stopping := true }

def firstWorker : Fin 2 := ⟨0, Nat.two_pos⟩

def secondWorker : Fin 2 := ⟨1, Nat.one_lt_two⟩

/-- A step of the first of two workers. -/
def byFirst (action : WorkerAction) : PoolLabel cluster 2 := .act firstWorker action

/-- A step of the second of two workers. -/
def bySecond (action : WorkerAction) : PoolLabel cluster 2 := .act secondWorker action

/-- `SampleExecutionLoad`. -/
def sampleExecutionLoad (pool : WorkerPool cluster workers) : WorkerSample where
  executing := pool.executing
  ready := pool.ready.countP pool.awake
  blocked := pool.ready.countP fun tid => !pool.awake tid
  workers := workers

end WorkerPool
end Cxloom.LoomPar
