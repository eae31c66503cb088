import Cxloom.LoomPar.ClusterRegistry
import Cxloom.LoomPar.Threading
import Cxloom.Run

/-!
# Remote threads

The part of `LoomParRuntime` that creates, executes and completes threads.  On every host four
kinds of threads run concurrently: callers of the interface, of which one at a time is inside
`LaunchThread`; the workers of the two managers; the poller, which handles one message after the
other; and the progress thread, which reaps the executions performed for other hosts.  Each of them
advances by the atomic actions below.  Messages are delivered once each and in any order.
-/

namespace Cxloom.LoomPar

/-- Configured limits, zero for none. -/
structure ThreadLimits where
  maxRunningThreadsPerHost : Nat
  maxPendingCreatesPerHost : Nat

/-- What a thread message asks or reports. -/
inductive ThreadBody
  | createReq (function : UInt64) (arguments : List UInt8) (clusterFunction : Bool)
  | createAck
  | completeNotify (completion : Completion) (migrationEpoch : Nat)
deriving DecidableEq

/-- A thread message. -/
structure ThreadMessage (cluster : Cluster) where
  source : cluster.Host
  target : cluster.Host
  id : GlobalThreadId cluster
  /-- What it says. -/
  body : ThreadBody
deriving DecidableEq

/-- An execution for another host. -/
structure RemoteExecution (cluster : Cluster) where
  home : GlobalThreadId cluster
  /-- Its number in the local manager of executions. -/
  localTid : Nat
  /-- What is about to be reported, once the local record is reclaimed. -/
  reaped : Option (Completion × Nat)
deriving DecidableEq

/-- A call of `LaunchThread` under way. -/
structure LaunchCall where
  /-- The number it has allocated. -/
  tid : Nat
  /-- Whether the function is one of the cluster manifest. -/
  clusterFunction : Bool
  /-- Whether it has reserved an execution that it has not handed to a worker or released. -/
  holding : Bool
deriving DecidableEq

/-- What the poller is doing. -/
inductive Handling (cluster : Cluster)
  /-- Between two messages. -/
  | idle
  /-- Capacity is reserved for a request, its execution is allocated. -/
  | launching (id : GlobalThreadId cluster) (tid : Nat)
  /-- The execution is launched or has failed. -/
  | registering (id : GlobalThreadId cluster) (tid : Nat) (launched : Bool)
  /-- An acknowledgement has found its record. -/
  | acknowledged (id : GlobalThreadId cluster)
  | found (id : GlobalThreadId cluster) (completion : Completion)
  | accepted (id : GlobalThreadId cluster) (completion : Completion)
deriving DecidableEq

/-- The thread runtime of one host. -/
structure ThreadHost (cluster : Cluster) where
  threads : ThreadManager cluster
  executions : ThreadManager cluster
  /-- Which home thread each execution belongs to. -/
  remoteExecutions : List (RemoteExecution cluster)
  /-- Reserved executions. -/
  localRunning : Int
  /-- Remote creations without a completion. -/
  localPending : Int
  /-- The caller inside `LaunchThread`. -/
  creating : Option LaunchCall
  /-- The poller. -/
  handling : Handling cluster

/-- How a record has left its manager. -/
inductive Departure
  | joined (completion : Completion)
  | detached
deriving DecidableEq

/-- What happened in an action, for the record only. -/
inductive ThreadEvent (cluster : Cluster)
  /-- The execution host has settled the outcome of a thread. -/
  | recorded (id : GlobalThreadId cluster) (completion : Completion)
  /-- The home host has finished handling a completion. -/
  | handled (id : GlobalThreadId cluster)
  /-- A home record is gone. -/
  | departed (id : GlobalThreadId cluster) (departure : Departure)
deriving DecidableEq

/-- The result of an action. -/
structure ThreadEffect (cluster : Cluster) where
  host : ThreadHost cluster
  sent : List (ThreadMessage cluster)
  /-- What happened. -/
  events : List (ThreadEvent cluster)

/-- An action of a host on its own. -/
inductive ThreadOp (cluster : Cluster)
  /-- Enter `LaunchThread` for a thread that the scheduler places on `target`. -/
  | create (target : cluster.Host) (function : UInt64) (arguments : List UInt8)
      (clusterFunction : Bool)
  /-- The next action of `LaunchThread`. -/
  | advance (built : Bool)
  /-- A fiber of a home thread leaves its stack. -/
  | finish (tid : Nat) (failed : Bool) (result : UInt64)
  /-- The completion hook of a home thread. -/
  | hook (tid : Nat)
  /-- The worker completes a home thread. -/
  | complete (tid : Nat)
  /-- A fiber of an execution for another host leaves its stack. -/
  | finishRemote (tid : Nat) (failed : Bool) (result : UInt64)
  /-- The worker completes an execution for another host. -/
  | completeRemote (tid : Nat)
  /-- The next action of the poller. -/
  | handle (built : Bool)
  /-- Reclaim a completed execution and release its capacity. -/
  | reap (index : Nat)
  /-- Report a reclaimed execution to its home. -/
  | publish (index : Nat)
  /-- Start `Join`. -/
  | join (id : GlobalThreadId cluster)
  /-- Return from `Join`. -/
  | joinReturn (tid : Nat)
  /-- `Detach`. -/
  | detach (id : GlobalThreadId cluster)
  /-- `RequestMigration`. -/
  | requestMigration (id : GlobalThreadId cluster) (targetHost : cluster.Host)
  /-- A running fiber reaches a migration safe point. -/
  | safePoint (tid : Nat)
  /-- A worker puts a fiber back into the ready queue. -/
  | requeue (tid : Nat)

namespace ThreadHost

variable {cluster : Cluster}

def initial (cluster : Cluster) : ThreadHost cluster :=
  ⟨.initial cluster, .initial cluster, [], 0, 0, none, .idle⟩

/-- Continue with a host and nothing else. -/
@[simp] def quietly (host : ThreadHost cluster) : ThreadEffect cluster := ⟨host, [], []⟩

/-- Replace or remove a home entry. -/
@[simp] def putThread (host : ThreadHost cluster) (tid : Nat)
    (entry : Option (ThreadEntry cluster)) :
    ThreadHost cluster :=
  { host with threads := host.threads.put tid entry }

/-- Replace or remove the entry of an execution. -/
@[simp] def putExecution (host : ThreadHost cluster) (tid : Nat)
    (entry : Option (ThreadEntry cluster)) :
    ThreadHost cluster :=
  { host with executions := host.executions.put tid entry }

/-- Whether `ReserveExecution` refuses. -/
def saturated (host : ThreadHost cluster) (limits : ThreadLimits) : Bool :=
  limits.maxRunningThreadsPerHost ≠ 0 ∧ (limits.maxRunningThreadsPerHost : Int) ≤ host.localRunning

/-- A successful `ReserveExecution`. -/
@[simp] def reserveExecution (host : ThreadHost cluster) : ThreadHost cluster :=
  { host with localRunning := host.localRunning + 1 }

/-- `ReleaseExecution`. -/
@[simp] def releaseExecution (host : ThreadHost cluster) : ThreadHost cluster :=
  { host with localRunning := host.localRunning - 1 }

/-- The beginning of `LaunchThread`, up to `MarkLaunching`. -/
def create (host : ThreadHost cluster) (localHost target : cluster.Host) (function : UInt64)
    (arguments : List UInt8) (clusterFunction : Bool) : Option (ThreadEffect cluster) :=
  if host.creating.isSome then none
  else if target ≠ localHost ∧ kMaxClusterArgumentBytes < arguments.length then
    some host.quietly
  else
    let allocated := host.threads.allocateThread target function arguments
    let launching := allocated.2.transact localHost ⟨localHost, allocated.1⟩
      ThreadEntry.markLaunching
    some (quietly
      { host with threads := launching.2, creating := some ⟨allocated.1, clusterFunction, false⟩ })

/-- End a creation with `MarkCompleted`; its record is reclaimed next. -/
def refuse (host : ThreadHost cluster) (tid : Nat) (entry : ThreadEntry cluster) (exitCode : Int) :
    ThreadEffect cluster :=
  match entry.markCompleted ⟨exitCode, 0⟩ with
  | .error _ => host.quietly
  | .ok after => (host.putThread tid (after.map (·.goto .refused))).quietly

/-- `LaunchThread` goes on without its record, which a `Join` has taken away. -/
def advanceAlone (host : ThreadHost cluster) (call : LaunchCall) : ThreadEffect cluster :=
  if call.holding then
    quietly { host.releaseExecution with creating := some { call with holding := false } }
  else quietly { host with creating := none }

/-- The next action of `LaunchThread`. -/
def advance (host : ThreadHost cluster) (limits : ThreadLimits) (localHost : cluster.Host)
    (built : Bool) : Option (ThreadEffect cluster) :=
  host.creating.bind fun call =>
    match host.threads.records call.tid with
    | none => some (host.advanceAlone call)
    | some entry =>
      match entry.stage with
      | .created =>
          if entry.record.executionHost = localHost then
            if host.saturated limits then some (host.refuse call.tid entry (-2))
            else
              some (quietly
                { host.reserveExecution.putThread call.tid (entry.goto .reserved) with
                  creating := some { call with holding := true } })
          else if limits.maxPendingCreatesPerHost ≠ 0 ∧
              (limits.maxPendingCreatesPerHost : Int) ≤ host.localPending then
            some (host.refuse call.tid entry (-3))
          else some (host.putThread call.tid (entry.goto .admitted)).quietly
      | .reserved =>
          match entry.launch built with
          | .error _ => some (host.putThread call.tid (entry.goto .failed)).quietly
          | .ok after =>
              if built then
                some (quietly
                  { host.putThread call.tid (after.map (·.goto .active)) with creating := none })
              else some (host.putThread call.tid (after.map (·.goto .failed))).quietly
      | .failed =>
          some (quietly
            { host.releaseExecution.putThread call.tid (entry.goto .refused) with
              creating := some { call with holding := false } })
      | .refused =>
          match entry.join with
          | .error _ =>
              some (quietly
                { host.putThread call.tid (entry.goto .disowned) with creating := none })
          | .ok _ =>
              if entry.record.state = .completed then
                some (quietly { host.putThread call.tid none with creating := none })
              else none
      | .admitted =>
          some (quietly
            { host.putThread call.tid (entry.goto .counted) with
              localPending := host.localPending + 1 })
      | .counted =>
          some
            { host := { host.putThread call.tid (entry.goto .dispatched) with creating := none }
              sent :=
                [{ source := localHost
                   target := entry.record.executionHost
                   id := ⟨localHost, call.tid⟩
                   body := .createReq entry.record.functionId entry.record.argBytes
                    call.clusterFunction }]
              events := [] }
      | _ => none

def fiberOutcome (failed : Bool) (result : UInt64) : Completion :=
  ⟨if failed then -1 else 0, result⟩

/-- The worker leaves the fiber of a home thread. -/
def finish (host : ThreadHost cluster) (tid : Nat) (failed : Bool) (result : UInt64) :
    Option (ThreadEffect cluster) :=
  (host.threads.records tid).bind fun entry =>
    if entry.stage = .active then
      some (host.putThread tid
        (some { entry with outcome := fiberOutcome failed result, stage := .finished })).quietly
    else none

/-- The worker runs the completion hook of a home thread. -/
def hook (host : ThreadHost cluster) (tid : Nat) : Option (ThreadEffect cluster) :=
  (host.threads.records tid).bind fun entry =>
    if entry.stage = .finished then
      some (host.releaseExecution.putThread tid (entry.goto .released)).quietly
    else none

/-- What the departure of a completed or detached record leaves behind. -/
def departure (localHost : cluster.Host) (tid : Nat) (departure : Departure)
    (after : Option (ThreadEntry cluster)) : List (ThreadEvent cluster) :=
  if after.isNone then [.departed ⟨localHost, tid⟩ departure] else []

/-- The worker completes a home thread. -/
def complete (host : ThreadHost cluster) (localHost : cluster.Host) (tid : Nat) :
    Option (ThreadEffect cluster) :=
  (host.threads.records tid).bind fun entry =>
    if entry.stage = .released then
      match entry.markCompleted entry.outcome with
      | .error _ => none
      | .ok after =>
          some ⟨host.putThread tid (after.map (·.goto .settled)), [],
            departure localHost tid .detached after⟩
    else none

/-- The worker leaves the fiber of an execution. -/
def finishRemote (host : ThreadHost cluster) (tid : Nat) (failed : Bool) (result : UInt64) :
    Option (ThreadEffect cluster) :=
  (host.executions.records tid).bind fun entry =>
    if entry.stage = .active then
      some (host.putExecution tid
        (some { entry with outcome := fiberOutcome failed result, stage := .finished })).quietly
    else none

/-- The worker completes an execution.  It has no hook. -/
def completeRemote (host : ThreadHost cluster) (tid : Nat) : Option (ThreadEffect cluster) :=
  (host.executions.records tid).bind fun entry =>
    if entry.stage = .finished then
      match entry.markCompleted entry.outcome with
      | .error _ => none
      | .ok after => some (host.putExecution tid (after.map (·.goto .settled))).quietly
    else none

/-- Refuse a request. -/
def decline (host : ThreadHost cluster) (localHost : cluster.Host) (id : GlobalThreadId cluster)
    (exitCode : Int) : ThreadEffect cluster where
  host := host
  sent := [⟨localHost, id.homeHost, id, .completeNotify ⟨exitCode, 0⟩ 0⟩]
  events := [.recorded id ⟨exitCode, 0⟩]

/-- The beginning of `HandleMessage` for a creation request. -/
def receiveCreate (host : ThreadHost cluster) (limits : ThreadLimits) (localHost : cluster.Host)
    (message : ThreadMessage cluster) (function : UInt64) (arguments : List UInt8)
    (resolved : Bool) : ThreadEffect cluster :=
  if message.id.homeHost ≠ message.source then host.quietly
  else if host.remoteExecutions.any (fun existing => existing.home = message.id) then host.quietly
  else if resolved = false then host.decline localHost message.id (-1)
  else if host.saturated limits then host.decline localHost message.id (-2)
  else
    let allocated := host.executions.allocateThread localHost function arguments
    let launching := allocated.2.transact localHost ⟨localHost, allocated.1⟩
      ThreadEntry.markLaunching
    quietly
      { host.reserveExecution with
        executions := launching.2.put allocated.1
          ((launching.2.records allocated.1).map (·.goto .reserved))
        handling := .launching message.id allocated.1 }

/-- The beginning of `HandleMessage` for a completion: find the record and compare host, epoch and
state. -/
def receiveComplete (host : ThreadHost cluster) (localHost : cluster.Host)
    (message : ThreadMessage cluster) (completion : Completion) (migrationEpoch : Nat) :
    ThreadEffect cluster :=
  match host.threads.find localHost message.id with
  | none => ⟨host, [], [.handled message.id]⟩
  | some entry =>
      if entry.record.executionHost ≠ message.source then ⟨host, [], [.handled message.id]⟩
      else if entry.record.migrationEpoch ≠ migrationEpoch then ⟨host, [], [.handled message.id]⟩
      else if entry.record.state = .completed then ⟨host, [], [.handled message.id]⟩
      else quietly { host with handling := .found message.id completion }

/-- The beginning of `HandleMessage` for an acknowledgement. -/
def receiveAck (host : ThreadHost cluster) (localHost : cluster.Host)
    (message : ThreadMessage cluster) : ThreadEffect cluster :=
  match host.threads.find localHost message.id with
  | none => host.quietly
  | some entry =>
      if entry.record.executionHost ≠ message.source then host.quietly
      else if entry.record.state = .completed then host.quietly
      else quietly { host with handling := .acknowledged message.id }

/-- Take the next message.  Whether the function of a request is registered depends on the
registries. -/
def receive (host : ThreadHost cluster) (limits : ThreadLimits) (localHost : cluster.Host)
    (message : ThreadMessage cluster) (resolved : Bool) : Option (ThreadEffect cluster) :=
  if host.handling = .idle then
    match message.body with
    | .createReq function arguments _ =>
        some (host.receiveCreate limits localHost message function arguments resolved)
    | .createAck => some (host.receiveAck localHost message)
    | .completeNotify completion migrationEpoch =>
        some (host.receiveComplete localHost message completion migrationEpoch)
  else none

/-- The next action of the poller inside `HandleMessage`. -/
def handle (host : ThreadHost cluster) (localHost : cluster.Host) (built : Bool) :
    Option (ThreadEffect cluster) :=
  match host.handling with
  | .idle => none
  | .launching id tid =>
      (host.executions.records tid).bind fun entry =>
        match entry.launch built with
        | .error _ => some (quietly { host with handling := .registering id tid false })
        | .ok after =>
            some (quietly
              { host.putExecution tid
                  (after.map (·.goto (if built then .active else .settled))) with
                handling := .registering id tid built })
  | .registering id tid launched =>
      some
        { host :=
            { host with
              remoteExecutions := host.remoteExecutions ++ [⟨id, tid, none⟩]
              handling := .idle }
          sent := if launched then [⟨localHost, id.homeHost, id, .createAck⟩] else []
          events := [] }
  | .acknowledged id =>
      some (quietly
        { host with
          threads := (host.threads.transact localHost id ThreadEntry.markRunning).2
          handling := .idle })
  | .found id completion =>
      some (quietly
        { host with
          threads := (host.threads.transact localHost id
            (fun entry => .ok (some (entry.goto .accepted)))).2
          localPending := host.localPending - 1
          handling := .accepted id completion })
  | .accepted id completion =>
      match host.threads.find localHost id with
      | none => some ⟨{ host with handling := .idle }, [], [.handled id]⟩
      | some entry =>
          match entry.markCompleted completion with
          | .error _ => some ⟨{ host with handling := .idle }, [], [.handled id]⟩
          | .ok after =>
              some ⟨{ host.putThread id.localTid (after.map (·.goto .settled)) with
                handling := .idle }, [],
                departure localHost id.localTid .detached after ++ [.handled id]⟩

/-- The progress thread reclaims a completed execution and releases its capacity. -/
def reap (host : ThreadHost cluster) (index : Nat) : Option (ThreadEffect cluster) :=
  (host.remoteExecutions[index]?).bind fun execution =>
    if execution.reaped.isSome then none
    else
      (host.executions.records execution.localTid).bind fun entry =>
        if entry.record.state = .completed then
          some
            { host :=
                { (host.putExecution execution.localTid none).releaseExecution with
                  remoteExecutions := host.remoteExecutions.set index
                    { execution with
                      reaped := some (entry.record.completion, entry.record.migrationEpoch) } }
              sent := []
              events := [.recorded execution.home entry.record.completion] }
        else none

/-- The progress thread reports a reclaimed execution. -/
def publish (host : ThreadHost cluster) (localHost : cluster.Host) (index : Nat) :
    Option (ThreadEffect cluster) :=
  (host.remoteExecutions[index]?).bind fun execution =>
    execution.reaped.map fun report =>
      { host := { host with remoteExecutions := host.remoteExecutions.eraseIdx index }
        sent := [⟨localHost, execution.home.homeHost, execution.home,
          .completeNotify report.1 report.2⟩]
        events := [] }

/-- A transition of a home record on behalf of a caller, who may use an identifier while its
`LaunchThread` is still under way. -/
def call (host : ThreadHost cluster) (localHost : cluster.Host) (id : GlobalThreadId cluster)
    (missing : String)
    (transition : ThreadEntry cluster → Except Status (Option (ThreadEntry cluster))) :
    Option (ThreadEffect cluster) :=
  some (quietly
    { host with threads := (host.threads.transactAs missing localHost id transition).2 })

/-- `Detach` excludes `LaunchThread`. -/
def detach (host : ThreadHost cluster) (localHost : cluster.Host) (id : GlobalThreadId cluster) :
    Option (ThreadEffect cluster) :=
  if host.creating.isSome then none
  else
    match host.threads.find localHost id with
    | none => some host.quietly
    | some entry =>
        match entry.detach with
        | .error _ => some host.quietly
        | .ok after =>
            some ⟨host.putThread id.localTid after, [],
              departure localHost id.localTid .detached after⟩

/-- `Join` returns once the record is completed. -/
def joinReturn (host : ThreadHost cluster) (localHost : cluster.Host) (tid : Nat) :
    Option (ThreadEffect cluster) :=
  (host.threads.records tid).bind fun entry =>
    if entry.joining ∧ entry.record.state = .completed then
      some ⟨host.putThread tid none, [],
        [.departed ⟨localHost, tid⟩ (.joined entry.record.completion)]⟩
    else none

/-- A migration state moves while the fiber is on a worker. -/
def moveMigration (host : ThreadHost cluster) (tid : Nat) (source target : MigrationState) :
    Option (ThreadEffect cluster) :=
  (host.threads.records tid).bind fun entry =>
    if entry.stage = .active then
      match entry.moveMigration source target with
      | .error _ => none
      | .ok after => some (host.putThread tid after).quietly
    else none

def act (host : ThreadHost cluster) (limits : ThreadLimits) (localHost : cluster.Host) :
    ThreadOp cluster → Option (ThreadEffect cluster)
  | .create target function arguments clusterFunction =>
      host.create localHost target function arguments clusterFunction
  | .advance built => host.advance limits localHost built
  | .finish tid failed result => host.finish tid failed result
  | .hook tid => host.hook tid
  | .complete tid => host.complete localHost tid
  | .finishRemote tid failed result => host.finishRemote tid failed result
  | .completeRemote tid => host.completeRemote tid
  | .handle built => host.handle localHost built
  | .reap index => host.reap index
  | .publish index => host.publish localHost index
  | .join id => host.call localHost id "unknown home thread" ThreadEntry.join
  | .joinReturn tid => host.joinReturn localHost tid
  | .detach id => host.detach localHost id
  | .requestMigration id targetHost =>
      host.call localHost id "unknown thread" (ThreadEntry.requestMigration targetHost)
  | .safePoint tid => host.moveMigration tid .requested .quiesced
  | .requeue tid => host.moveMigration tid .quiesced .resumed

end ThreadHost

/-- What has happened to every thread so far.  No action reads it. -/
structure ThreadHistory (cluster : Cluster) where
  /-- The outcome the execution host has settled. -/
  recorded : GlobalThreadId cluster → Option Completion
  /-- Whether the home host has finished handling the completion. -/
  handled : GlobalThreadId cluster → Bool
  /-- How the home record has gone. -/
  departed : GlobalThreadId cluster → Option Departure

namespace ThreadHistory

variable {cluster : Cluster}

/-- Remember one event. -/
def note (history : ThreadHistory cluster) : ThreadEvent cluster → ThreadHistory cluster
  | .recorded id completion =>
      { history with recorded := Function.update history.recorded id (some completion) }
  | .handled id => { history with handled := Function.update history.handled id true }
  | .departed id departure =>
      { history with departed := Function.update history.departed id (some departure) }

end ThreadHistory

/-- The hosts, the messages in flight and the history. -/
structure ThreadWorld (cluster : Cluster) where
  hosts : cluster.Host → ThreadHost cluster
  /-- Messages in flight, those still in outgoing queues included. -/
  network : List (ThreadMessage cluster)
  /-- What has happened. -/
  history : ThreadHistory cluster

/-- An action of the cluster. -/
inductive ThreadLabel (cluster : Cluster)
  | act (host : cluster.Host) (op : ThreadOp cluster)
  /-- The poller of the target takes the message at a position. -/
  | deliver (position : Nat) (resolved : Bool)

namespace ThreadWorld

variable {cluster : Cluster}

/-- No threads anywhere. -/
def initial (cluster : Cluster) : ThreadWorld cluster :=
  ⟨fun _ => .initial cluster, [], ⟨fun _ => none, fun _ => false, fun _ => none⟩⟩

def apply (world : ThreadWorld cluster) (localHost : cluster.Host) (effect : ThreadEffect cluster) :
    ThreadWorld cluster where
  hosts := Function.update world.hosts localHost effect.host
  network := world.network ++ effect.sent
  history := effect.events.foldl ThreadHistory.note world.history

def next (limits : cluster.Host → ThreadLimits) (world : ThreadWorld cluster) :
    ThreadLabel cluster → Option (ThreadWorld cluster)
  | .act localHost op =>
      ((world.hosts localHost).act (limits localHost) localHost op).map (world.apply localHost)
  | .deliver position resolved =>
      (world.network[position]?).bind fun message =>
        ((world.hosts message.target).receive (limits message.target) message.target message
          resolved).map
            (ThreadWorld.apply { world with network := world.network.eraseIdx position }
              message.target)

end ThreadWorld
end Cxloom.LoomPar
