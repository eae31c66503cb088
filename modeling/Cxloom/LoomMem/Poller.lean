import Cxloom.LoomMem.QueueSaturation
import Mathlib.Data.List.FinRange
import Mathlib.Data.List.Rotate

/-!
# The queue poller

`QueuePoller::Run` and `QueuePoller::ScanOnce` over the inbound queues of a host.  Every access of a
`TryPop` is a step of its own, so the producers push at any time between them; a stop may be
requested at any time.  `TryPop` moves the consumer cursor before the handler sees the message, and
the progress callback must not run in between.
-/

namespace Cxloom.LoomMem

/-- A poller as `Start` accepts it. -/
structure PollerConfig where
  /-- Number of inbound queues. -/
  count : Nat
  identities : Fin count → SpscQueueIdentity
  localHost : Nat
  /-- Messages that one visit drains at most. -/
  batchSize : Nat
  spinRounds : Nat
  yieldRounds : Nat
  /-- Whether there is a progress callback. -/
  hasProgress : Bool
  /-- There is a queue. -/
  count_pos : 0 < count
  /-- A visit can drain a message. -/
  batchSize_pos : 0 < batchSize
  consumer_eq : ∀ queue, (identities queue).consumer = localHost
  /-- The capacities are thirty-two bit words. -/
  capacity_lt : ∀ queue, (identities queue).capacity < QueueConfig.kMaxQueueCapacity

/-- How a call of the handler ends. -/
inductive HandlerOutcome
  | returned (status : Status)
  /-- It throws a standard exception. -/
  | threw (what : String)
  /-- It throws anything else. -/
  | threwUnknown
deriving DecidableEq

/-- The status that the poller makes of it. -/
def HandlerOutcome.status : HandlerOutcome → Status
  | .returned status => status
  | .threw what => .internal ("queue handler threw: " ++ what)
  | .threwUnknown => .internal "queue handler threw an unknown exception"

/-- A finished call of the handler. -/
structure HandlerCall (count : Nat) where
  queue : Fin count
  message : QueueEnvelope
  /-- What the call came to. -/
  status : Status
deriving DecidableEq

/-- A visit of a scan to a queue. -/
structure PollVisit (count : Nat) where
  queue : Fin count
  /-- What the calls of `TryPop` returned, oldest first. -/
  pops : List (Status × Option QueueEnvelope)
deriving DecidableEq

namespace PollVisit

variable {count : Nat}

def messages (visit : PollVisit count) : List QueueEnvelope :=
  visit.pops.filterMap fun pop => if pop.1.isOk then pop.2 else none

/-- The visit took this many messages and no call of `TryPop` did anything else. -/
def Took (visit : PollVisit count) (taken : Nat) : Prop :=
  visit.pops.length = taken ∧ ∀ pop ∈ visit.pops, pop.1.isOk = true ∧ pop.2.isSome = true

/-- The visit took a batch, or fewer messages before a `TryPop` that found nothing. -/
def Complete (visit : PollVisit count) (batchSize : Nat) : Prop :=
  visit.Took batchSize ∨
    ∃ taken < batchSize, ∃ pops status, Took ⟨visit.queue, pops⟩ taken ∧
      Status.isOk status = true ∧ visit.pops = pops ++ [(status, none)]

/-- What the visit got from a queue. -/
def popsOf (queue : Fin count) (visit : PollVisit count) : List (Status × Option QueueEnvelope) :=
  if visit.queue = queue then visit.pops else []

theorem Took.length_messages {visit : PollVisit count} {taken : Nat} (took : visit.Took taken) :
    visit.messages.length = taken := by
  obtain ⟨rfl, all⟩ := took
  rw [messages, List.length_filterMap_eq_countP, List.countP_eq_length]
  intro pop member
  obtain ⟨success, found⟩ := all pop member
  simpa [success] using found

theorem Took.snoc {visit : PollVisit count} {taken : Nat} (took : visit.Took taken)
    {status : Status} (success : status.isOk = true) (message : QueueEnvelope) :
    Took ⟨visit.queue, visit.pops ++ [(status, some message)]⟩ (taken + 1) := by
  obtain ⟨rfl, all⟩ := took
  refine ⟨List.length_append, fun pop member => ?_⟩
  rcases List.mem_append.1 member with earlier | last
  · exact all pop earlier
  · obtain rfl := List.mem_singleton.1 last
    exact ⟨success, rfl⟩

theorem length_messages_snoc (visit : PollVisit count) {pop : Status × Option QueueEnvelope}
    (nothing : pop.1.isOk = false ∨ pop.2 = none) :
    (messages ⟨visit.queue, visit.pops ++ [pop]⟩).length = visit.messages.length := by
  rcases nothing with failed | none
  · simp [messages, List.filterMap_append, failed]
  · simp [messages, List.filterMap_append, none]

end PollVisit

/-- A running `ScanOnce`. -/
structure QueueScan (count : Nat) where
  /-- The queue that it began with. -/
  start : Fin count
  /-- Position of the current queue behind it. -/
  offset : Nat
  /-- Messages drained from the current queue. -/
  drained : Nat
  /-- Whether any message was handled. -/
  progressed : Bool
  /-- What `TryPop` has returned for the current queue. -/
  pops : List (Status × Option QueueEnvelope)
  visits : List (PollVisit count)
deriving DecidableEq

/-- A finished `ScanOnce`. -/
structure ScanRecord (count : Nat) where
  /-- The queue that it began with. -/
  start : Fin count
  visits : List (PollVisit count)
  /-- Whether it left its loop before the last queue. -/
  early : Bool
deriving DecidableEq

/-- Where the poller is. -/
inductive PollPoint (count : Nat)
  /-- At the head of the loop of `Run`. -/
  | loop
  /-- At the head of the loop over the queues. -/
  | select (scan : QueueScan count)
  /-- At the head of the loop over the messages of a queue. -/
  | drain (scan : QueueScan count)
  /-- Inside `TryPop`. -/
  | popping (scan : QueueScan count)
  | handling (scan : QueueScan count) (message : QueueEnvelope)
  | visited (scan : QueueScan count)
  /-- `ScanOnce` has returned. -/
  | scanned (progressed : Bool)
  /-- Inside the progress callback. -/
  | progressing (progressed : Bool)
  /-- About to repeat the loop. -/
  | resting (progressed : Bool)
  /-- `Run` has returned. -/
  | finished
deriving DecidableEq

/-- Counters of the poller. -/
structure QueuePollerStats where
  scans : Nat
  /-- Scans without a message. -/
  emptyScans : Nat
  messages : Nat
  /-- Visits that drained a message. -/
  batches : Nat
  /-- Idle rounds that yielded. -/
  yields : Nat
  /-- Idle rounds that slept. -/
  sleeps : Nat
deriving DecidableEq

/-- The poller, its queues and what has happened since `Run` began. -/
structure QueuePoller (config : PollerConfig) where
  queues : Fin config.count → QueueConfig
  point : PollPoint config.count
  nextQueue : Fin config.count
  /-- Whether the poller is to go on. -/
  running : Bool
  /-- The first error. -/
  terminal : Status
  /-- Consecutive scans without a message. -/
  idleRounds : Nat
  /-- Counters. -/
  stats : QueuePollerStats
  stopRequested : Bool
  calls : List (HandlerCall config.count)
  /-- Finished scans, oldest first. -/
  scans : List (ScanRecord config.count)

def QueueScan.queue {count : Nat} (scan : QueueScan count) : Fin count :=
  ⟨(scan.start.val + scan.offset) % count, Nat.mod_lt _ scan.start.pos⟩

def QueueScan.visit {count : Nat} (scan : QueueScan count) : PollVisit count :=
  ⟨scan.queue, scan.pops⟩

/-- A further `TryPop` has returned. -/
def QueueScan.popped {count : Nat} (scan : QueueScan count)
    (pop : Status × Option QueueEnvelope) : QueueScan count :=
  { scan with pops := scan.pops ++ [pop] }

namespace QueuePoller

variable {config : PollerConfig}

/-- One step. -/
inductive Label (count : Nat)
  /-- A producer calls `Push`. -/
  | push (queue : Fin count) (producer : Nat) (message : QueueEnvelope)
  /-- The next access of a `Push`. -/
  | produce (queue : Fin count)
  /-- `Stop` is called. -/
  | stop
  /-- The next action of the poller itself. -/
  | poll
  | handlerEnds (outcome : HandlerOutcome)
  | progressReturns (status : Status)

/-- `Run` begins. -/
def initial (config : PollerConfig) (start : Fin config.count → QueueConfig) :
    QueuePoller config where
  queues := start
  point := .loop
  nextQueue := ⟨0, config.count_pos⟩
  running := true
  terminal := .ok
  idleRounds := 0
  stats := ⟨0, 0, 0, 0, 0, 0⟩
  stopRequested := false
  calls := []
  scans := []

/-- Move to a point. -/
def goto (poller : QueuePoller config) (point : PollPoint config.count) : QueuePoller config :=
  { poller with point := point }

/-- Record an error and stop. -/
def fail (poller : QueuePoller config) (status : Status) : QueuePoller config :=
  { poller with
    terminal := if poller.terminal.isOk then status else poller.terminal
    running := false }

/-- Replace one queue. -/
def putQueue (poller : QueuePoller config) (queue : Fin config.count) (after : QueueConfig) :
    QueuePoller config :=
  { poller with queues := Function.update poller.queues queue after }

/-- Perform an action on one queue. -/
def access (poller : QueuePoller config) (queue : Fin config.count) (op : QueueOp) :
    Option (QueuePoller config) :=
  (QueueConfig.step (config.identities queue) (poller.queues queue) op).map
    (poller.putQueue queue)

/-- Go on after an action of `TryPop`, which may have returned. -/
def afterPop (poller : QueuePoller config) (scan : QueueScan config.count) : QueuePoller config :=
  if (poller.queues scan.queue).consumer = .idle then
    match (poller.queues scan.queue).pops.getLast? with
    | some (status, popped) =>
        let after := scan.popped (status, popped)
        if status.isOk then
          match popped with
          | some message => poller.goto (.handling after message)
          | none => poller.goto (.visited after)
        else (poller.fail status).goto (.visited after)
    | none => poller.goto (.popping scan)
  else poller.goto (.popping scan)

/-- `ScanOnce` returns. -/
def leaveScan (poller : QueuePoller config) (scan : QueueScan config.count)
    (visits : List (PollVisit config.count)) (early : Bool) : QueuePoller config :=
  { poller with
    point := .scanned scan.progressed
    scans := poller.scans ++ [⟨scan.start, visits, early⟩] }

def rotate (poller : QueuePoller config) (scan : QueueScan config.count) : QueuePoller config :=
  { poller with nextQueue := ⟨(scan.start.val + 1) % config.count, Nat.mod_lt _ config.count_pos⟩ }

/-- Wait before the next scan. -/
def idle (poller : QueuePoller config) : QueuePoller config :=
  let rounds := poller.idleRounds + 1
  { poller with
    point := .loop
    idleRounds := rounds
    stats :=
      { poller.stats with
        emptyScans := poller.stats.emptyScans + 1
        yields :=
          if config.spinRounds < rounds ∧ rounds ≤ config.spinRounds + config.yieldRounds then
            poller.stats.yields + 1
          else poller.stats.yields
        sleeps :=
          if config.spinRounds + config.yieldRounds < rounds then poller.stats.sleeps + 1
          else poller.stats.sleeps } }

/-- The next action of the poller itself. -/
def poll (poller : QueuePoller config) : Option (QueuePoller config) :=
  match poller.point with
  | .loop =>
      if poller.running then
        some
          { poller with
            point := .select ⟨poller.nextQueue, 0, 0, false, [], []⟩
            stats := { poller.stats with scans := poller.stats.scans + 1 } }
      else some (poller.goto .finished)
  | .select scan =>
      if scan.offset < config.count then some (poller.goto (.drain { scan with drained := 0 }))
      else some ((poller.rotate scan).leaveScan scan scan.visits false)
  | .drain scan =>
      if scan.drained < config.batchSize then
        (poller.access scan.queue (.tryPop config.localHost)).map fun after => after.afterPop scan
      else some (poller.goto (.visited scan))
  | .popping scan =>
      (poller.access scan.queue .consumer).map fun after => after.afterPop scan
  | .handling _ _ => none
  | .visited scan =>
      let visits := scan.visits ++ [scan.visit]
      let counted : QueuePoller config :=
        { poller with
          stats :=
            { poller.stats with
              batches := if scan.drained = 0 then poller.stats.batches
                else poller.stats.batches + 1 } }
      if poller.running then
        some (counted.goto (.select
          { scan with offset := scan.offset + 1, pops := [], visits := visits }))
      else some ((counted.rotate scan).leaveScan scan visits true)
  | .scanned progressed =>
      if config.hasProgress ∧ poller.running then some (poller.goto (.progressing progressed))
      else some (poller.goto (.resting progressed))
  | .progressing _ => none
  | .resting progressed =>
      if progressed then some { poller with point := .loop, idleRounds := 0 }
      else some poller.idle
  | .finished => none

def handlerEnds (poller : QueuePoller config) (outcome : HandlerOutcome) :
    Option (QueuePoller config) :=
  match poller.point with
  | .handling scan message =>
      let called : QueuePoller config :=
        { poller with calls := poller.calls ++ [⟨scan.queue, message, outcome.status⟩] }
      if outcome.status.isOk then
        some
          { called with
            point := .drain { scan with drained := scan.drained + 1, progressed := true }
            stats := { poller.stats with messages := poller.stats.messages + 1 } }
      else
        some ((called.fail outcome.status).leaveScan { scan with progressed := true }
          (scan.visits ++ [scan.visit]) true)
  | _ => none

def progressReturns (poller : QueuePoller config) (status : Status) : Option (QueuePoller config) :=
  match poller.point with
  | .progressing progressed =>
      if status.isOk then some (poller.goto (.resting progressed))
      else some ((poller.fail status).goto .finished)
  | _ => none

/-- Perform one step. -/
def next (poller : QueuePoller config) : Label config.count → Option (QueuePoller config)
  | .push queue producer message => poller.access queue (.push producer message)
  | .produce queue => poller.access queue .producer
  | .stop => some { poller with running := false, stopRequested := true }
  | .poll => poller.poll
  | .handlerEnds outcome => poller.handlerEnds outcome
  | .progressReturns status => poller.progressReturns status

def inFlight : PollPoint config.count → Fin config.count → List QueueEnvelope
  | .handling scan message, queue => if scan.queue = queue then [message] else []
  | _, _ => []

/-- The messages of a queue that the handler was given, oldest first. -/
def handed (poller : QueuePoller config) (queue : Fin config.count) : List QueueEnvelope :=
  (poller.calls.filter fun call => call.queue = queue).map HandlerCall.message ++
    inFlight poller.point queue

/-- The queue whose `TryPop` is running. -/
def poppedQueue : PollPoint config.count → Option (Fin config.count)
  | .popping scan => some scan.queue
  | _ => none

/-- Whether the poller is past all its errors. -/
def isHalting : PollPoint config.count → Bool
  | .visited _ | .scanned _ | .resting _ | .loop | .finished => true
  | _ => false

/-- The scan that is running, if any. -/
def scanOf : PollPoint config.count → Option (QueueScan config.count)
  | .select scan | .drain scan | .popping scan | .handling scan _ | .visited scan => some scan
  | _ => none

def visitsOf : Option (QueueScan config.count) → List (PollVisit config.count)
  | some scan => scan.visits ++ [scan.visit]
  | none => []

/-- All visits, oldest first. -/
def visits (poller : QueuePoller config) : List (PollVisit config.count) :=
  poller.scans.flatMap ScanRecord.visits ++ visitsOf (scanOf poller.point)

/-- How far the visit of a running scan is. -/
def VisitFits (poller : QueuePoller config) : Prop :=
  match poller.point with
  | .select scan => scan.pops = []
  | .drain scan | .popping scan => scan.visit.Took scan.drained
  | .handling scan _ => scan.visit.Took (scan.drained + 1)
  | .visited scan => poller.terminal.isOk = true → scan.visit.Complete config.batchSize
  | _ => True

/-- What holds of a running scan. -/
structure ScanFits (poller : QueuePoller config) (scan : QueueScan config.count) : Prop where
  /-- It began where the last one said. -/
  start : scan.start.val = poller.scans.length % config.count
  /-- It has not gone beyond the last queue. -/
  offset : scan.offset ≤ config.count
  visits : scan.visits.map PollVisit.queue =
    ((List.finRange config.count).rotate scan.start.val).take scan.offset
  /-- Each until its batch was full or its queue was found empty. -/
  complete : ∀ visit ∈ scan.visits, visit.Complete config.batchSize
  /-- No visit has taken too much. -/
  bounded : ∀ visit ∈ scan.visits ++ [scan.visit], visit.messages.length ≤ config.batchSize
  /-- The current one has not drained too much. -/
  drained : scan.drained ≤ config.batchSize
  room : (∃ message, poller.point = .handling scan message) ∨ poller.point = .popping scan →
    scan.drained < config.batchSize
  /-- Only the head of the loop looks beyond the last queue. -/
  inside : poller.point ≠ .select scan → scan.offset < config.count

/-- What holds of a finished scan. -/
structure RecordFits (poller : QueuePoller config) (record : ScanRecord config.count) : Prop where
  /-- A scan to its end has visited every queue once, until its batch was full or the queue was
  found empty. -/
  visits : record.early = false →
    record.visits.map PollVisit.queue = (List.finRange config.count).rotate record.start.val ∧
      ∀ visit ∈ record.visits, visit.Complete config.batchSize
  /-- No visit has taken too much. -/
  bounded : ∀ visit ∈ record.visits, visit.messages.length ≤ config.batchSize
  early : record.early = true → poller.stopRequested = true ∨ poller.terminal.isOk = false

/-- What holds in every state of `Run`. -/
structure Fits (start : Fin config.count → QueueConfig) (poller : QueuePoller config) : Prop where
  reached : ∀ queue, QueueConfig.Reached (config.identities queue) (poller.queues queue)
  /-- No `TryPop` runs but the one that the poller is in. -/
  quiet : ∀ queue, poppedQueue poller.point ≠ some queue → (poller.queues queue).consumer = .idle
  handed : ∀ queue, (poller.queues queue).returned =
    (start queue).returned ++ poller.handed queue
  pops : ∀ queue, (poller.queues queue).pops =
    (start queue).pops ++ poller.visits.flatMap (PollVisit.popsOf queue)
  visit : poller.VisitFits
  running : poller.running = true → poller.terminal.isOk = true
  /-- A poller that has seen an error is about to end. -/
  halting : poller.terminal.isOk = false → poller.running = false ∧ isHalting poller.point = true
  stopped : poller.running = false → poller.stopRequested = true ∨ poller.terminal.isOk = false
  successful : poller.terminal.isOk = true → ∀ call ∈ poller.calls, call.status.isOk = true
  scan : ∀ scan, scanOf poller.point = some scan → poller.ScanFits scan
  rotates : scanOf poller.point = none → poller.running = true →
    poller.nextQueue.val = poller.scans.length % config.count
  /-- Every scan began one queue further. -/
  starts : ∀ index record, poller.scans[index]? = some record →
    record.start.val = index % config.count
  records : ∀ record ∈ poller.scans, poller.RecordFits record

/-- Two states of the poller that differ at most in its point and its counters. -/
structure SameHistory (before after : QueuePoller config) : Prop where
  queues : after.queues = before.queues
  nextQueue : after.nextQueue = before.nextQueue
  /-- Whether to go on. -/
  running : after.running = before.running
  /-- The first error. -/
  terminal : after.terminal = before.terminal
  stopRequested : after.stopRequested = before.stopRequested
  calls : after.calls = before.calls
  scans : after.scans = before.scans

variable {start : Fin config.count → QueueConfig} {before after : QueuePoller config}

theorem RecordFits.mono {record : ScanRecord config.count} (fits : before.RecordFits record)
    (stopRequested : before.stopRequested = true → after.stopRequested = true)
    (terminal : before.terminal.isOk = false → after.terminal.isOk = false) :
    after.RecordFits record where
  visits := fits.visits
  bounded := fits.bounded
  early := by
    intro early
    rcases fits.early early with requested | failed
    · exact .inl (stopRequested requested)
    · exact .inr (terminal failed)

/-- Before the poller is about to end it has seen no error. -/
theorem Fits.clean (fits : Fits start before) (onward : isHalting before.point = false) :
    before.terminal.isOk = true := by
  by_contra failed
  rw [(fits.halting (Bool.eq_false_of_not_eq_true failed)).2] at onward
  cases onward

/-- A move outside `TryPop` and the handler. -/
theorem Fits.move (fits : Fits start before) (same : SameHistory before after)
    (idle : ∀ queue, (before.queues queue).consumer = .idle)
    (grounded : ∀ queue, inFlight before.point queue = [])
    (grounds : ∀ queue, inFlight after.point queue = [])
    (halts : before.terminal.isOk = false → isHalting after.point = true)
    (visits : ∀ queue, (visitsOf (scanOf after.point)).flatMap (PollVisit.popsOf queue) =
      (visitsOf (scanOf before.point)).flatMap (PollVisit.popsOf queue))
    (visit : after.VisitFits)
    (scan : ∀ scan, scanOf after.point = some scan → after.ScanFits scan)
    (rotates : scanOf after.point = none → before.running = true →
      before.nextQueue.val = before.scans.length % config.count) : Fits start after where
  reached := by rw [same.queues]; exact fits.reached
  quiet := by
    rw [same.queues]
    intro queue _
    exact idle queue
  handed := by
    intro queue
    rw [same.queues, fits.handed queue, QueuePoller.handed, QueuePoller.handed, same.calls,
      grounded queue, grounds queue]
  pops := by
    intro queue
    rw [same.queues, fits.pops queue, QueuePoller.visits, QueuePoller.visits, same.scans,
      List.flatMap_append, List.flatMap_append, visits queue]
  visit := visit
  running := by rw [same.running, same.terminal]; exact fits.running
  halting := by
    rw [same.running, same.terminal]
    intro failed
    exact ⟨(fits.halting failed).1, halts failed⟩
  stopped := by rw [same.running, same.terminal, same.stopRequested]; exact fits.stopped
  successful := by rw [same.terminal, same.calls]; exact fits.successful
  scan := scan
  rotates := by rw [same.running, same.nextQueue, same.scans]; exact rotates
  starts := by rw [same.scans]; exact fits.starts
  records := by
    rw [same.scans]
    intro record member
    refine (fits.records record member).mono ?_ ?_
    · rw [same.stopRequested]
      exact id
    · rw [same.terminal]
      exact id

/-- Outside `TryPop` every queue is idle. -/
theorem Fits.idle (fits : Fits start before) (outside : poppedQueue before.point = none)
    (queue : Fin config.count) : (before.queues queue).consumer = .idle :=
  fits.quiet queue (by simp [outside])

/-- The current queue follows those that were visited. -/
theorem ScanFits.visits_next {scan : QueueScan config.count} (fits : before.ScanFits scan)
    (inside : scan.offset < config.count) :
    (scan.visits ++ [scan.visit]).map PollVisit.queue =
      ((List.finRange config.count).rotate scan.start.val).take (scan.offset + 1) := by
  have here : ((List.finRange config.count).rotate scan.start.val)[scan.offset]? =
      some scan.queue := by
    rw [List.getElem?_rotate (by simpa using inside)]
    simp [QueueScan.queue, Nat.add_comm, Nat.mod_lt _ config.count_pos]
  rw [List.map_append, fits.visits, List.take_add_one, here]
  rfl

theorem ScanFits.complete_next {scan : QueueScan config.count} (fits : before.ScanFits scan)
    (whole : scan.visit.Complete config.batchSize) :
    ∀ visit ∈ scan.visits ++ [scan.visit], visit.Complete config.batchSize := by
  intro visit member
  rcases List.mem_append.1 member with earlier | last
  · exact fits.complete visit earlier
  · rw [List.mem_singleton] at last
    rw [last]
    exact whole

/-- A further visit within its bound. -/
theorem ScanFits.bounded_visit {scan : QueueScan config.count} (fits : before.ScanFits scan)
    {visit : PollVisit config.count} (bounded : visit.messages.length ≤ config.batchSize) :
    ∀ other ∈ scan.visits ++ [visit], other.messages.length ≤ config.batchSize := by
  intro other member
  rcases List.mem_append.1 member with earlier | last
  · exact fits.bounded other (List.mem_append_left _ earlier)
  · rw [List.mem_singleton] at last
    rw [last]
    exact bounded

end QueuePoller

namespace QueueConfig

variable {identity : SpscQueueIdentity} {config after : QueueConfig}

/-- A producer leaves the consumer alone. -/
theorem produce_keeps {op : QueueOp}
    (producing : (∃ producer message, op = .push producer message) ∨ op = .producer)
    (taken : step identity config op = some after) :
    after.consumer = config.consumer ∧ after.pops = config.pops := by
  rcases producing with ⟨producer, message, rfl⟩ | rfl
  · simp only [step] at taken
    split at taken
    · cases taken
      exact ⟨rfl, rfl⟩
    · split at taken
      · cases taken
        exact ⟨rfl, rfl⟩
      · simp at taken
  · simp only [step, pushAccess] at taken
    split at taken
    all_goals try split at taken
    all_goals try split at taken
    all_goals cases taken
    all_goals exact ⟨rfl, rfl⟩

/-- A call or an access of the consumer goes on or returns. -/
theorem consume_cases {op : QueueOp} {localHost : Nat}
    (consuming : (op = .tryPop localHost ∧ config.consumer = .idle) ∨ op = .consumer)
    (taken : step identity config op = some after) :
    (after.consumer ≠ .idle ∧ after.pops = config.pops) ∨
      (after.consumer = .idle ∧ ∃ status popped,
        after.pops = config.pops ++ [(status, popped)]) := by
  rcases consuming with ⟨rfl, idle⟩ | rfl
  · simp only [step] at taken
    split at taken
    · cases taken
      exact .inr ⟨idle, _, _, rfl⟩
    · split at taken
      · cases taken
        exact .inl ⟨by simp [consumerAt], rfl⟩
      · simp at taken
  · simp only [step, popAccess] at taken
    split at taken
    all_goals try split at taken
    all_goals try split at taken
    all_goals cases taken
    all_goals first
      | exact .inl ⟨by simp [consumerAt], rfl⟩
      | exact .inr ⟨rfl, _, _, rfl⟩

theorem returned_of_pops (pops : after.pops = config.pops) : after.returned = config.returned := by
  rw [returned, returned, pops]

theorem returned_concat {status : Status} {popped : Option QueueEnvelope}
    (pops : after.pops = config.pops ++ [(status, popped)]) :
    after.returned = config.returned ++ (if status.isOk then popped.toList else []) := by
  rw [returned, returned, pops, List.filterMap_append]
  cases success : status.isOk <;> cases popped <;> simp [success]

end QueueConfig

namespace QueuePoller

variable {config : PollerConfig} {start : Fin config.count → QueueConfig}
  {before after : QueuePoller config}

@[simp] theorem putQueue_self (poller : QueuePoller config) (queue : Fin config.count)
    (changed : QueueConfig) : (poller.putQueue queue changed).queues queue = changed := by
  simp [putQueue]

theorem putQueue_of_ne (poller : QueuePoller config) {queue other : Fin config.count}
    (changed : QueueConfig) (distinct : other ≠ queue) :
    (poller.putQueue queue changed).queues other = poller.queues other := by
  simp [putQueue, distinct]

/-- A queue after a further action of its own is in a state of its own runs. -/
theorem Fits.reached_putQueue (fits : Fits start before) {queue : Fin config.count} {op : QueueOp}
    {changed : QueueConfig}
    (taken : QueueConfig.step (config.identities queue) (before.queues queue) op = some changed)
    (other : Fin config.count) :
    QueueConfig.Reached (config.identities other)
      ((before.putQueue queue changed).queues other) := by
  by_cases same : other = queue
  · subst same
    rw [putQueue_self]
    exact (fits.reached other).tail ⟨op, trivial, taken⟩
  · rw [putQueue_of_ne before changed same]
    exact fits.reached other

/-- The popped messages after a change of one queue. -/
theorem Fits.handed_putQueue (fits : Fits start before) {queue : Fin config.count}
    {changed : QueueConfig} {flight : List QueueEnvelope}
    (returned : changed.returned = (before.queues queue).returned ++ flight)
    (other : Fin config.count) :
    ((before.putQueue queue changed).queues other).returned =
      (start other).returned ++ (before.handed other ++ if queue = other then flight else []) := by
  by_cases same : other = queue
  · subst same
    rw [putQueue_self, returned, fits.handed other, if_pos rfl, List.append_assoc]
  · rw [putQueue_of_ne before changed same, fits.handed other, if_neg (Ne.symm same),
      List.append_nil]

/-- The producers do not disturb the poller. -/
theorem Fits.produce (fits : Fits start before) {queue : Fin config.count} {op : QueueOp}
    (producing : (∃ producer message, op = .push producer message) ∨ op = .producer)
    (performed : before.access queue op = some after) : Fits start after := by
  rw [access, Option.map_eq_some_iff] at performed
  obtain ⟨changed, taken, rfl⟩ := performed
  obtain ⟨consumer, pops⟩ := QueueConfig.produce_keeps producing taken
  have returned : changed.returned = (before.queues queue).returned ++ [] := by
    rw [QueueConfig.returned_of_pops pops, List.append_nil]
  exact
    { fits with
      reached := fits.reached_putQueue taken
      quiet := by
        intro other outside
        by_cases same : other = queue
        · subst same
          rw [putQueue_self, consumer]
          exact fits.quiet other outside
        · rw [putQueue_of_ne before changed same]
          exact fits.quiet other outside
      handed := by
        intro other
        rw [fits.handed_putQueue returned other, ite_self, List.append_nil]
        rfl
      pops := by
        intro other
        refine Eq.trans ?_ (fits.pops other)
        by_cases same : other = queue
        · subst same
          rw [putQueue_self, pops]
        · rw [putQueue_of_ne before changed same]
      scan := by
        intro scan running
        exact { fits.scan scan running with }
      records := by
        intro record member
        exact { fits.records record member with } }

/-- The scan of a queue from which messages are drained. -/
structure Draining (poller : QueuePoller config) (scan : QueueScan config.count) : Prop where
  /-- The poller is before or inside `TryPop`. -/
  here : poller.point = .drain scan ∨ poller.point = .popping scan
  room : scan.drained < config.batchSize

theorem Draining.scanOf_eq {scan : QueueScan config.count} (draining : before.Draining scan) :
    scanOf before.point = some scan := by
  rcases draining.here with here | here <;> rw [here] <;> rfl

theorem Draining.inFlight_eq {scan : QueueScan config.count} (draining : before.Draining scan)
    (queue : Fin config.count) : inFlight before.point queue = [] := by
  rcases draining.here with here | here <;> rw [here] <;> rfl

/-- Messages are drained only before the first error. -/
theorem Draining.clean {scan : QueueScan config.count} (draining : before.Draining scan)
    (fits : Fits start before) : before.terminal.isOk = true :=
  fits.clean (by rcases draining.here with here | here <;> rw [here] <;> rfl)

/-- What is known of the visit so far. -/
theorem Draining.took {scan : QueueScan config.count} (draining : before.Draining scan)
    (fits : Fits start before) : scan.visit.Took scan.drained := by
  have visit := fits.visit
  rcases draining.here with here | here <;> simpa only [VisitFits, here] using visit

/-- What is known of the scan when the poller moves on with its queue. -/
theorem Draining.scanFits {scan : QueueScan config.count} (draining : before.Draining scan)
    (fits : Fits start before) {after : QueuePoller config} (scans : after.scans = before.scans)
    (pops : List (Status × Option QueueEnvelope))
    (bounded : (PollVisit.messages ⟨scan.queue, pops⟩).length ≤ config.batchSize) :
    after.ScanFits { scan with pops := pops } := by
  have known := fits.scan scan draining.scanOf_eq
  exact
    { start := by rw [scans]; exact known.start
      offset := known.offset
      visits := known.visits
      complete := known.complete
      bounded := known.bounded_visit bounded
      drained := known.drained
      room := fun _ => draining.room
      inside := by
        intro _
        refine known.inside ?_
        rcases draining.here with here | here <;> rw [here] <;> simp }

theorem Draining.others {scan : QueueScan config.count} (draining : before.Draining scan)
    (fits : Fits start before) {queue : Fin config.count} (distinct : queue ≠ scan.queue) :
    (before.queues queue).consumer = .idle := by
  refine fits.quiet queue ?_
  rcases draining.here with here | here
  · simp [here, poppedQueue]
  · simpa [here, poppedQueue] using Ne.symm distinct

theorem flatMap_visitsOf_append (scan : QueueScan config.count)
    (results : List (Status × Option QueueEnvelope)) (queue : Fin config.count) :
    (visitsOf (some { scan with pops := scan.pops ++ results })).flatMap (PollVisit.popsOf queue) =
      (visitsOf (some scan)).flatMap (PollVisit.popsOf queue) ++
        if scan.queue = queue then results else [] := by
  have same : ({ scan with pops := scan.pops ++ results } : QueueScan config.count).queue =
    scan.queue := rfl
  simp only [visitsOf, List.flatMap_append, List.flatMap_singleton, QueueScan.visit,
    PollVisit.popsOf, same]
  split <;> simp

/-- The current queue has changed and the poller moves on with it, possibly after an error. -/
theorem Draining.moves {scan : QueueScan config.count} (draining : before.Draining scan)
    (fits : Fits start before) {op : QueueOp} {changed : QueueConfig}
    (taken : QueueConfig.step (config.identities scan.queue) (before.queues scan.queue) op =
      some changed)
    {point : PollPoint config.count} {results : List (Status × Option QueueEnvelope)}
    {flight : List QueueEnvelope}
    (pops : changed.pops = (before.queues scan.queue).pops ++ results)
    (returned : changed.returned = (before.queues scan.queue).returned ++ flight)
    (flies : ∀ queue, inFlight point queue = if scan.queue = queue then flight else [])
    (idle : poppedQueue point ≠ some scan.queue → changed.consumer = .idle)
    (scanning : scanOf point = some { scan with pops := scan.pops ++ results })
    {after : QueuePoller config} {running : Bool} {terminal : Status}
    (moved : after = { before.putQueue scan.queue changed with
      point := point, running := running, terminal := terminal })
    (ended : (running = before.running ∧ terminal = before.terminal) ∨
      (running = false ∧ terminal.isOk = false ∧ isHalting point = true))
    (visit : after.VisitFits)
    (bounded : (PollVisit.messages ⟨scan.queue, scan.pops ++ results⟩).length ≤ config.batchSize) :
    Fits start after := by
  have clean := draining.clean fits
  subst moved
  exact
    { reached := fits.reached_putQueue taken
      quiet := by
        intro queue outside
        by_cases same : queue = scan.queue
        · subst same
          exact (congrArg QueueConfig.consumer (putQueue_self before scan.queue changed)).trans
            (idle outside)
        · exact (congrArg QueueConfig.consumer (putQueue_of_ne before changed same)).trans
            (draining.others fits same)
      handed := by
        intro queue
        have popped := fits.handed_putQueue returned queue
        rw [QueuePoller.handed, draining.inFlight_eq, List.append_nil] at popped
        exact popped.trans (by rw [QueuePoller.handed, ← flies queue]; rfl)
      pops := by
        intro queue
        have known := fits.pops queue
        rw [QueuePoller.visits, draining.scanOf_eq, List.flatMap_append, ← List.append_assoc]
          at known
        rw [QueuePoller.visits, scanning, List.flatMap_append, flatMap_visitsOf_append,
          ← List.append_assoc, ← List.append_assoc]
        refine Eq.trans ?_ (congrArg (fun earlier => earlier ++ _) known)
        by_cases same : scan.queue = queue
        · subst same
          rw [if_pos rfl]
          exact (congrArg QueueConfig.pops (putQueue_self before scan.queue changed)).trans pops
        · rw [if_neg same, List.append_nil]
          exact congrArg QueueConfig.pops (putQueue_of_ne before changed (Ne.symm same))
      visit := visit
      running := by
        intro still
        rcases ended with ⟨rfl, rfl⟩ | ⟨rfl, -, -⟩
        · exact fits.running still
        · cases still
      halting := by
        intro failed
        rcases ended with ⟨rfl, rfl⟩ | ⟨rfl, -, halting⟩
        · have failed' : before.terminal.isOk = false := failed
          rw [clean] at failed'
          exact Bool.noConfusion failed'
        · exact ⟨rfl, halting⟩
      stopped := by
        intro stopped
        rcases ended with ⟨rfl, rfl⟩ | ⟨-, failed, -⟩
        · exact fits.stopped stopped
        · exact .inr failed
      successful := fun _ => fits.successful clean
      scan := by
        intro other same
        have same' : scanOf point = some other := same
        rw [scanning, Option.some_inj] at same'
        subst same'
        refine draining.scanFits fits ?_ _ bounded
        rfl
      rotates := by
        intro none_running
        have none_running' : scanOf point = none := none_running
        rw [scanning] at none_running'
        cases none_running'
      starts := fits.starts
      records := by
        intro record member
        refine (fits.records record member).mono id fun failed => ?_
        rw [clean] at failed
        exact Bool.noConfusion failed }

/-- An error does not undo what holds. -/
theorem Fits.fail (fits : Fits start before) (halts : isHalting before.point = true)
    {status : Status} (failed : status.isOk = false) : Fits start (before.fail status) := by
  have terminal : (before.fail status).terminal.isOk = false := by
    cases before_ok : before.terminal.isOk <;> simp [QueuePoller.fail, before_ok, failed]
  exact
    { fits with
      visit := by
        have visit := fits.visit
        cases point : before.point with
        | visited scan =>
            simp only [VisitFits, QueuePoller.fail, point]
            intro clean
            exact Bool.noConfusion (terminal.symm.trans clean)
        | select | drain | popping | handling | progressing =>
            rw [point] at halts
            exact Bool.noConfusion halts
        | loop | scanned | resting | finished => simp [VisitFits, QueuePoller.fail, point]
      running := by
        intro running
        simp [QueuePoller.fail] at running
      halting := fun _ => ⟨rfl, halts⟩
      stopped := fun _ => .inr terminal
      successful := by
        intro clean
        rw [terminal] at clean
        exact Bool.noConfusion clean
      scan := by
        intro scan running
        exact { fits.scan scan running with }
      rotates := by
        intro _ running
        simp [QueuePoller.fail] at running
      records := by
        intro record member
        exact (fits.records record member).mono id fun _ => terminal }

/-- A `TryPop` of the current queue goes on or returns. -/
theorem Draining.consume {scan : QueueScan config.count} (draining : before.Draining scan)
    (fits : Fits start before) {op : QueueOp}
    (consuming : (op = .tryPop config.localHost ∧ before.point = .drain scan) ∨ op = .consumer)
    (performed : before.access scan.queue op = some after) :
    Fits start (after.afterPop scan) := by
  rw [access, Option.map_eq_some_iff] at performed
  obtain ⟨changed, taken, rfl⟩ := performed
  have consuming' : (op = .tryPop config.localHost ∧
      (before.queues scan.queue).consumer = .idle) ∨ op = .consumer := by
    rcases consuming with ⟨begins, point⟩ | continues
    · exact .inl ⟨begins, fits.quiet _ (by simp [point, poppedQueue])⟩
    · exact .inr continues
  have took := draining.took fits
  have within : scan.visit.messages.length ≤ config.batchSize :=
    took.length_messages.trans_le draining.room.le
  rcases QueueConfig.consume_cases consuming' taken with
    ⟨busy, pops⟩ | ⟨idle, status, popped, pops⟩
  · have returned : changed.returned = (before.queues scan.queue).returned ++ [] := by
      rw [QueueConfig.returned_of_pops pops, List.append_nil]
    rw [← List.append_nil (before.queues scan.queue).pops] at pops
    rw [afterPop, putQueue_self, if_neg busy]
    refine draining.moves fits taken pops returned ?_ ?_ ?_ rfl (.inl ⟨rfl, rfl⟩) took ?_
    · simp [inFlight]
    · simp [poppedQueue]
    · simp [scanOf]
    · rw [List.append_nil]
      exact within
  · have returned := QueueConfig.returned_concat pops
    rw [afterPop, putQueue_self, if_pos idle, pops, List.getLast?_concat]
    dsimp only
    cases success : status.isOk with
    | true =>
        rw [success, if_pos rfl] at returned
        rw [if_pos rfl]
        cases popped with
        | some message =>
            have more := took.snoc success message
            refine draining.moves fits taken pops returned ?_ (fun _ => idle) rfl rfl
              (.inl ⟨rfl, rfl⟩) more (more.length_messages.trans_le draining.room)
            intro queue
            rfl
        | none =>
            refine draining.moves fits taken pops returned ?_ (fun _ => idle) rfl rfl
              (.inl ⟨rfl, rfl⟩) (fun _ => .inr ⟨_, draining.room, _, _, took, success, rfl⟩)
              ((PollVisit.length_messages_snoc scan.visit (.inr rfl)).trans_le within)
            simp [inFlight]
    | false =>
        rw [success, if_neg Bool.false_ne_true] at returned
        rw [if_neg Bool.false_ne_true]
        have terminal : ((before.putQueue scan.queue changed).fail status).terminal.isOk =
            false := by
          simp [QueuePoller.fail, putQueue, draining.clean fits, success]
        refine draining.moves fits taken pops returned ?_ (fun _ => idle) rfl rfl
          (.inr ⟨rfl, terminal, rfl⟩) (fun clean => ?_)
          ((PollVisit.length_messages_snoc scan.visit (.inl success)).trans_le within)
        · simp [inFlight]
        · exact Bool.noConfusion (terminal.symm.trans clean)

/-- A scan ends. -/
theorem Fits.leaveScan (fits : Fits start before) {scan : QueueScan config.count}
    (scanning : scanOf before.point = some scan)
    (idle : ∀ queue, (before.queues queue).consumer = .idle)
    (grounded : ∀ queue, inFlight before.point queue = []) (progressed : Bool)
    {visits : List (PollVisit config.count)} {early : Bool}
    (same : ∀ queue, visits.flatMap (PollVisit.popsOf queue) =
      (visitsOf (some scan)).flatMap (PollVisit.popsOf queue))
    (record : before.RecordFits ⟨scan.start, visits, early⟩)
    (rotates : before.running = true →
      before.nextQueue.val = (before.scans.length + 1) % config.count) :
    Fits start (before.leaveScan { scan with progressed := progressed } visits early) := by
  have known := fits.scan scan scanning
  exact
    { reached := fits.reached
      quiet := fun queue _ => idle queue
      handed := by
        intro queue
        have popped := fits.handed queue
        rw [QueuePoller.handed, grounded queue] at popped
        exact popped
      pops := by
        intro queue
        have popped := fits.pops queue
        rw [QueuePoller.visits, scanning, List.flatMap_append, ← same queue] at popped
        simpa [QueuePoller.visits, QueuePoller.leaveScan, scanOf, visitsOf] using popped
      visit := trivial
      running := fits.running
      halting := fun failed => ⟨(fits.halting failed).1, rfl⟩
      stopped := fits.stopped
      successful := fits.successful
      scan := by
        intro other running
        cases running
      rotates := by
        intro _ running
        rw [QueuePoller.leaveScan, List.length_append]
        exact rotates running
      starts := by
        intro index other present
        simp only [QueuePoller.leaveScan] at present
        rcases Nat.lt_or_ge index before.scans.length with earlier | late
        · rw [List.getElem?_append_left earlier] at present
          exact fits.starts index other present
        · have below := (List.getElem?_eq_some_iff.mp present).1
          rw [List.length_append, List.length_singleton] at below
          obtain rfl : index = before.scans.length := by omega
          rw [List.getElem?_concat_length, Option.some_inj] at present
          rw [← present]
          exact known.start
      records := by
        intro other member
        rcases List.mem_append.1 member with earlier | last
        · exact { fits.records other earlier with }
        · rw [List.mem_singleton] at last
          rw [last]
          exact { record with } }

/-- Changing where the next scan begins does not matter within a scan. -/
theorem Fits.rotate (fits : Fits start before) {scan : QueueScan config.count}
    (scanning : scanOf before.point = some scan) : Fits start (before.rotate scan) :=
  { fits with
    scan := by
      intro other running
      exact { fits.scan other running with }
    rotates := by
      intro none_running
      have none_running' : scanOf before.point = none := none_running
      rw [scanning] at none_running'
      cases none_running'
    records := by
      intro record member
      exact { fits.records record member with } }

theorem ScanFits.rotates {scan : QueueScan config.count} (known : before.ScanFits scan) :
    (before.rotate scan).nextQueue.val = (before.scans.length + 1) % config.count := by
  have begins := known.start
  simp only [QueuePoller.rotate]
  rw [begins, Nat.mod_add_mod]

section Handling

variable {scan : QueueScan config.count} {message : QueueEnvelope}

theorem Fits.handed_call (fits : Fits start before) (point : before.point = .handling scan message)
    (status : Status) (queue : Fin config.count) :
    (before.queues queue).returned = (start queue).returned ++
      ((before.calls ++ [(⟨scan.queue, message, status⟩ : HandlerCall config.count)]).filter
        fun call => call.queue = queue).map HandlerCall.message := by
  rw [fits.handed queue, QueuePoller.handed, point]
  by_cases same : scan.queue = queue <;> simp [inFlight, same]

theorem Fits.pops_handling (fits : Fits start before)
    (point : before.point = .handling scan message) (queue : Fin config.count) :
    (before.queues queue).pops = (start queue).pops ++
      (before.scans.flatMap ScanRecord.visits ++ visitsOf (some scan)).flatMap
        (PollVisit.popsOf queue) := by
  rw [fits.pops queue, QueuePoller.visits, point]
  rfl

/-- The poller goes on draining the queue. -/
theorem Fits.handlerSucceeds (fits : Fits start before)
    (point : before.point = .handling scan message) {status : Status}
    (success : status.isOk = true) :
    Fits start
      { before with
        calls := before.calls ++ [⟨scan.queue, message, status⟩]
        point := .drain { scan with drained := scan.drained + 1, progressed := true }
        stats := { before.stats with messages := before.stats.messages + 1 } } := by
  have known := fits.scan scan (by rw [point]; rfl)
  have clean : before.terminal.isOk = true := fits.clean (by rw [point]; rfl)
  have took : scan.visit.Took (scan.drained + 1) := by
    simpa only [VisitFits, point] using fits.visit
  have pops := fits.pops_handling point
  exact
    { reached := fits.reached
      quiet := fun queue _ => fits.idle (by rw [point]; rfl) queue
      handed := by
        intro queue
        exact (fits.handed_call point status queue).trans (by simp [QueuePoller.handed, inFlight])
      pops := pops
      visit := took
      running := fits.running
      halting := by
        intro failed
        exact Bool.noConfusion (failed.symm.trans clean)
      stopped := fits.stopped
      successful := by
        intro _ call member
        rcases List.mem_append.1 member with earlier | last
        · exact fits.successful clean call earlier
        · rw [List.mem_singleton] at last
          rw [last]
          exact success
      scan := by
        intro other running
        obtain rfl : { scan with drained := scan.drained + 1, progressed := true } = other :=
          Option.some_inj.1 running
        exact
          { start := known.start
            offset := known.offset
            visits := known.visits
            complete := known.complete
            bounded := known.bounded
            drained := known.room (.inl ⟨message, point⟩)
            room := by simp
            inside := fun _ => known.inside (by rw [point]; simp) }
      rotates := by
        intro none_running
        cases none_running
      starts := fits.starts
      records := by
        intro record member
        exact { fits.records record member with } }

/-- The first error ends the visit, and the poller with it. -/
theorem Fits.handlerFails (fits : Fits start before)
    (point : before.point = .handling scan message) {status : Status}
    (failure : status.isOk = false) :
    Fits start
      ((({ before with calls := before.calls ++ [⟨scan.queue, message, status⟩] } :
        QueuePoller config).fail status).goto (.visited scan)) := by
  have known := fits.scan scan (by rw [point]; rfl)
  have clean : before.terminal.isOk = true := fits.clean (by rw [point]; rfl)
  exact
    { reached := fits.reached
      quiet := fun queue _ => fits.idle (by rw [point]; rfl) queue
      handed := by
        intro queue
        exact (fits.handed_call point status queue).trans (by simp [QueuePoller.handed,
          inFlight, QueuePoller.goto, QueuePoller.fail])
      pops := fits.pops_handling point
      visit := by
        intro ok
        simp [QueuePoller.goto, QueuePoller.fail, clean, failure] at ok
      running := by
        intro running
        simp [QueuePoller.goto, QueuePoller.fail] at running
      halting := fun _ => ⟨rfl, rfl⟩
      stopped := fun _ => .inr (by simp [QueuePoller.goto, QueuePoller.fail, clean, failure])
      successful := by
        intro ok
        simp [QueuePoller.goto, QueuePoller.fail, clean, failure] at ok
      scan := by
        intro other running
        obtain rfl : scan = other := Option.some_inj.1 running
        exact
          { start := known.start
            offset := known.offset
            visits := known.visits
            complete := known.complete
            bounded := known.bounded
            drained := known.drained
            room := by simp [QueuePoller.goto]
            inside := fun _ => known.inside (by rw [point]; simp) }
      rotates := by
        intro none_running
        cases none_running
      starts := fits.starts
      records := by
        intro record member
        refine (fits.records record member).mono id fun _ => ?_
        simp [QueuePoller.goto, QueuePoller.fail, clean, failure] }

end Handling

theorem Fits.handlerEnds (fits : Fits start before) {outcome : HandlerOutcome}
    (performed : before.handlerEnds outcome = some after) : Fits start after := by
  rw [QueuePoller.handlerEnds] at performed
  split at performed
  case h_2 => simp at performed
  case h_1 scan message point =>
    cases success : outcome.status.isOk with
    | true =>
        simp only [success, if_true, Option.some_inj] at performed
        subst performed
        exact fits.handlerSucceeds point success
    | false =>
        simp only [success, Bool.false_eq_true, if_false, Option.some_inj] at performed
        subst performed
        have known := fits.scan scan (by rw [point]; rfl)
        have ended := fits.handlerFails point success
        refine ended.leaveScan rfl (fits.idle (by rw [point]; rfl)) (fun _ => rfl) true
          (fun _ => rfl)
          { visits := by simp
            bounded := known.bounded
            early := fun _ => ended.stopped rfl } ?_
        intro running
        simp [QueuePoller.goto, QueuePoller.fail] at running

/-- The poller begins a scan or returns. -/
theorem Fits.loop (fits : Fits start before) (point : before.point = .loop)
    (performed : before.poll = some after) : Fits start after := by
  have idle := fits.idle (by rw [point]; rfl)
  have grounded : ∀ queue, inFlight before.point queue = [] := by
    intro queue
    rw [point]
    rfl
  simp only [poll, point] at performed
  split at performed <;> rw [Option.some_inj] at performed <;> subst performed
  case isTrue running =>
    refine fits.move ⟨rfl, rfl, rfl, rfl, rfl, rfl, rfl⟩ idle grounded (fun _ => rfl) ?_ ?_ rfl
      ?_ ?_
    · intro failed
      rw [fits.running running] at failed
      exact Bool.noConfusion failed
    · intro queue
      simp [point, scanOf, visitsOf, QueueScan.visit, PollVisit.popsOf]
    · intro scan same
      obtain rfl : ⟨before.nextQueue, 0, 0, false, [], []⟩ = scan := Option.some_inj.1 same
      exact
        { start := fits.rotates (by rw [point]; rfl) running
          offset := Nat.zero_le _
          visits := rfl
          complete := by simp
          bounded := by simp [QueueScan.visit, PollVisit.messages]
          drained := Nat.zero_le _
          room := by simp
          inside := fun _ => config.count_pos }
    · intro none_running
      cases none_running
  case isFalse stopped =>
    refine fits.move ⟨rfl, rfl, rfl, rfl, rfl, rfl, rfl⟩ idle grounded (fun _ => rfl)
      (fun _ => rfl) ?_ trivial ?_ ?_
    · intro queue
      rw [point]
      rfl
    · intro scan same
      cases same
    · intro _ running
      exact absurd running stopped

/-- The poller turns to the next queue or ends its scan. -/
theorem Fits.select (fits : Fits start before) {scan : QueueScan config.count}
    (point : before.point = .select scan) (performed : before.poll = some after) :
    Fits start after := by
  have idle := fits.idle (by rw [point]; rfl)
  have scanning : scanOf before.point = some scan := by rw [point]; rfl
  have known := fits.scan scan scanning
  have fresh : scan.pops = [] := by simpa only [VisitFits, point] using fits.visit
  have grounded : ∀ queue, inFlight before.point queue = [] := by
    intro queue
    rw [point]
    rfl
  simp only [poll, point] at performed
  split at performed <;> rw [Option.some_inj] at performed <;> subst performed
  case isTrue inside =>
    refine fits.move ⟨rfl, rfl, rfl, rfl, rfl, rfl, rfl⟩ idle grounded (fun _ => rfl) ?_ ?_ ?_ ?_
      ?_
    · intro failed
      have halting := (fits.halting failed).2
      rw [point] at halting
      exact Bool.noConfusion halting
    · intro queue
      rw [point]
      rfl
    · exact ⟨congrArg List.length fresh, by simp [QueueScan.visit, fresh]⟩
    · intro other same
      obtain rfl : { scan with drained := 0 } = other := Option.some_inj.1 same
      exact
        { start := known.start
          offset := known.offset
          visits := known.visits
          complete := known.complete
          bounded := known.bounded
          drained := Nat.zero_le _
          room := fun _ => config.batchSize_pos
          inside := fun _ => inside }
    · intro none_running
      cases none_running
  case isFalse beyond =>
    have last : scan.offset = config.count := Nat.le_antisymm known.offset (Nat.le_of_not_lt beyond)
    have record : (before.rotate scan).RecordFits ⟨scan.start, scan.visits, false⟩ :=
      { visits := by
          intro _
          rw [known.visits, last, List.take_of_length_le (by simp)]
          exact ⟨rfl, known.complete⟩
        bounded := fun visit member => known.bounded visit (List.mem_append_left _ member)
        early := by simp }
    refine (fits.rotate scanning).leaveScan scanning idle grounded scan.progressed ?_ record
      fun _ => known.rotates
    intro queue
    simp [visitsOf, QueueScan.visit, PollVisit.popsOf, fresh]

/-- The poller takes the next message of a queue or has drained a batch. -/
theorem Fits.drain (fits : Fits start before) {scan : QueueScan config.count}
    (point : before.point = .drain scan) (performed : before.poll = some after) :
    Fits start after := by
  have idle := fits.idle (by rw [point]; rfl)
  have known := fits.scan scan (by rw [point]; rfl)
  have grounded : ∀ queue, inFlight before.point queue = [] := by
    intro queue
    rw [point]
    rfl
  simp only [poll, point] at performed
  split at performed
  case isTrue room =>
    obtain ⟨popped, accessed, rfl⟩ := Option.map_eq_some_iff.1 performed
    exact Draining.consume ⟨.inl point, room⟩ fits (.inl ⟨rfl, point⟩) accessed
  case isFalse full =>
    rw [Option.some_inj] at performed
    subst performed
    have last : scan.drained = config.batchSize :=
      Nat.le_antisymm known.drained (Nat.le_of_not_lt full)
    have took : scan.visit.Took scan.drained := by
      simpa only [VisitFits, point] using fits.visit
    refine fits.move ⟨rfl, rfl, rfl, rfl, rfl, rfl, rfl⟩ idle grounded (fun _ => rfl)
      (fun _ => rfl) ?_ (fun _ => .inl (last ▸ took)) ?_ ?_
    · intro queue
      rw [point]
      rfl
    · intro other same
      obtain rfl : scan = other := Option.some_inj.1 same
      exact
        { start := known.start
          offset := known.offset
          visits := known.visits
          complete := known.complete
          bounded := known.bounded
          drained := known.drained
          room := by simp [QueuePoller.goto]
          inside := fun _ => known.inside (by rw [point]; simp) }
    · intro none_running
      cases none_running

/-- The poller goes on to the next queue or leaves its scan. -/
theorem Fits.visitEnds (fits : Fits start before) {scan : QueueScan config.count}
    (point : before.point = .visited scan) (performed : before.poll = some after) :
    Fits start after := by
  have idle := fits.idle (by rw [point]; rfl)
  have scanning : scanOf before.point = some scan := by rw [point]; rfl
  have known := fits.scan scan scanning
  have inside : scan.offset < config.count := known.inside (by rw [point]; simp)
  have grounded : ∀ queue, inFlight before.point queue = [] := by
    intro queue
    rw [point]
    rfl
  simp only [poll, point] at performed
  split at performed <;> rw [Option.some_inj] at performed <;> subst performed
  case isTrue running =>
    have whole : scan.visit.Complete config.batchSize := by
      have visit := fits.visit
      simp only [VisitFits, point] at visit
      exact visit (fits.running running)
    refine fits.move ⟨rfl, rfl, rfl, rfl, rfl, rfl, rfl⟩ idle grounded (fun _ => rfl) ?_ ?_ rfl
      ?_ ?_
    · intro failed
      rw [fits.running running] at failed
      exact Bool.noConfusion failed
    · intro queue
      simp [point, goto, scanOf, visitsOf, QueueScan.visit, PollVisit.popsOf]
    · intro other same
      obtain rfl :
          { scan with
            offset := scan.offset + 1
            pops := []
            visits := scan.visits ++ [scan.visit] } = other :=
        Option.some_inj.1 same
      exact
        { start := known.start
          offset := inside
          visits := known.visits_next inside
          complete := known.complete_next whole
          bounded := by
            intro visit member
            rcases List.mem_append.1 member with earlier | last
            · exact known.bounded visit earlier
            · rw [List.mem_singleton] at last
              simp [last, QueueScan.visit, PollVisit.messages]
          drained := known.drained
          room := by simp [QueuePoller.goto]
          inside := fun outside => absurd rfl outside }
    · intro none_running
      cases none_running
  case isFalse stopped =>
    let counted : QueuePoller config :=
      { before with
        stats :=
          { before.stats with
            batches := if scan.drained = 0 then before.stats.batches
              else before.stats.batches + 1 } }
    have countedFits : Fits start counted := by
      refine fits.move ⟨rfl, rfl, rfl, rfl, rfl, rfl, rfl⟩ idle grounded grounded ?_ (fun _ => rfl)
        fits.visit ?_ ?_
      · exact fun failed => (fits.halting failed).2
      · intro other same
        exact { fits.scan other same with }
      · exact fits.rotates
    have record : (counted.rotate scan).RecordFits
        ⟨scan.start, scan.visits ++ [scan.visit], true⟩ :=
      { visits := by simp
        bounded := known.bounded
        early := fun _ => fits.stopped (Bool.eq_false_of_not_eq_true stopped) }
    exact (countedFits.rotate scanning).leaveScan scanning idle grounded scan.progressed
      (fun _ => rfl) record fun running => absurd running stopped

theorem Fits.between (fits : Fits start before) {progressed : Bool}
    (point : before.point = .scanned progressed ∨ before.point = .resting progressed)
    (performed : before.poll = some after) : Fits start after := by
  have outside : scanOf before.point = none := by
    rcases point with point | point <;> rw [point] <;> rfl
  have idle := fits.idle (by rcases point with point | point <;> rw [point] <;> rfl)
  have grounded : ∀ queue, inFlight before.point queue = [] := by
    intro queue
    rcases point with point | point <;> rw [point] <;> rfl
  have rotates := fits.rotates outside
  rcases point with point | point
  · simp only [poll, point] at performed
    split at performed <;> rw [Option.some_inj] at performed <;> subst performed
    case isTrue calls =>
      refine fits.move ⟨rfl, rfl, rfl, rfl, rfl, rfl, rfl⟩ idle grounded (fun _ => rfl) ?_
        (fun _ => by rw [outside]; rfl) trivial ?_ fun _ => rotates
      · intro failed
        rw [fits.running calls.2] at failed
        exact Bool.noConfusion failed
      · intro scan same
        cases same
    case isFalse =>
      refine fits.move ⟨rfl, rfl, rfl, rfl, rfl, rfl, rfl⟩ idle grounded (fun _ => rfl)
        (fun _ => rfl) (fun _ => by rw [outside]; rfl) trivial ?_ fun _ => rotates
      intro scan same
      cases same
  · simp only [poll, point] at performed
    split at performed <;> rw [Option.some_inj] at performed <;> subst performed
    all_goals
      refine fits.move ⟨rfl, rfl, rfl, rfl, rfl, rfl, rfl⟩ idle grounded (fun _ => rfl)
        (fun _ => rfl) (fun _ => by rw [outside]; rfl) trivial ?_ fun _ => rotates
      intro scan same
      cases same

/-- The next action of the poller keeps what holds. -/
theorem Fits.poll (fits : Fits start before) (performed : before.poll = some after) :
    Fits start after := by
  cases point : before.point with
  | loop => exact fits.loop point performed
  | select scan => exact fits.select point performed
  | drain scan => exact fits.drain point performed
  | popping scan =>
      simp only [QueuePoller.poll, point] at performed
      obtain ⟨popped, accessed, rfl⟩ := Option.map_eq_some_iff.1 performed
      have room := (fits.scan scan (by rw [point]; rfl)).room (.inr point)
      exact Draining.consume ⟨.inr point, room⟩ fits (.inr rfl) accessed
  | handling scan message => simp [QueuePoller.poll, point] at performed
  | visited scan => exact fits.visitEnds point performed
  | scanned progressed => exact fits.between (.inl point) performed
  | progressing progressed => simp [QueuePoller.poll, point] at performed
  | resting progressed => exact fits.between (.inr point) performed
  | finished => simp [QueuePoller.poll, point] at performed

theorem Fits.progressReturns (fits : Fits start before) {status : Status}
    (performed : before.progressReturns status = some after) : Fits start after := by
  rw [QueuePoller.progressReturns] at performed
  split at performed
  case h_2 => simp at performed
  case h_1 progressed point =>
    have idle := fits.idle (by rw [point]; rfl)
    have outside : scanOf before.point = none := by rw [point]; rfl
    have rotates := fits.rotates outside
    have grounded : ∀ queue, inFlight before.point queue = [] := by
      intro queue
      rw [point]
      rfl
    split at performed <;> rw [Option.some_inj] at performed <;> subst performed
    case isTrue =>
      refine fits.move ⟨rfl, rfl, rfl, rfl, rfl, rfl, rfl⟩ idle grounded (fun _ => rfl)
        (fun _ => rfl) (fun _ => by rw [outside]; rfl) trivial ?_ fun _ => rotates
      intro scan same
      cases same
    case isFalse failed =>
      have ended : Fits start (before.goto .finished) := by
        refine fits.move ⟨rfl, rfl, rfl, rfl, rfl, rfl, rfl⟩ idle grounded (fun _ => rfl)
          (fun _ => rfl) (fun _ => by rw [outside]; rfl) trivial ?_ fun _ => rotates
        intro scan same
        cases same
      exact ended.fail rfl (Bool.eq_false_of_not_eq_true failed)

theorem Fits.stop (fits : Fits start before) :
    Fits start { before with running := false, stopRequested := true } :=
  { fits with
    running := by
      intro running
      cases running
    halting := fun failed => ⟨rfl, (fits.halting failed).2⟩
    stopped := fun _ => .inl rfl
    scan := by
      intro scan same
      exact { fits.scan scan same with }
    rotates := by
      intro _ running
      cases running
    records := by
      intro record member
      exact (fits.records record member).mono (fun _ => rfl) id }

/-- Every step keeps what holds. -/
theorem next_fits {label : Label config.count} (fits : Fits start before)
    (performed : before.next label = some after) : Fits start after := by
  cases label with
  | push queue producer message => exact fits.produce (.inl ⟨producer, message, rfl⟩) performed
  | produce queue => exact fits.produce (.inr rfl) performed
  | stop =>
      simp only [next, Option.some_inj] at performed
      subst performed
      exact fits.stop
  | poll => exact fits.poll performed
  | handlerEnds outcome => exact fits.handlerEnds performed
  | progressReturns status => exact fits.progressReturns performed

theorem initial_fits
    (reached : ∀ queue, QueueConfig.Reached (config.identities queue) (start queue))
    (idle : ∀ queue, (start queue).consumer = .idle) : Fits start (initial config start) where
  reached := reached
  quiet := fun queue _ => idle queue
  handed := by simp [initial, QueuePoller.handed, inFlight]
  pops := by simp [initial, QueuePoller.visits, scanOf, visitsOf]
  visit := trivial
  running := fun _ => rfl
  halting := by simp [initial]
  stopped := by simp [initial]
  successful := by simp [initial]
  scan := by simp [initial, scanOf]
  rotates := by simp [initial]
  starts := by simp [initial]
  records := by simp [initial]

theorem reaches_fits
    (reached : ∀ queue, QueueConfig.Reached (config.identities queue) (start queue))
    (idle : ∀ queue, (start queue).consumer = .idle)
    (execution : Run.Reaches next (initial config start) after) : Fits start after :=
  Run.ReachesBy.preserves execution (Fits start) (initial_fits reached idle)
    fun _ _ _ fits _ performed => next_fits fits performed

theorem access_keeps {queue : Fin config.count} {op : QueueOp}
    (performed : before.access queue op = some after) :
    after.calls = before.calls ∧ after.terminal = before.terminal := by
  rw [access, Option.map_eq_some_iff] at performed
  obtain ⟨changed, -, rfl⟩ := performed
  exact ⟨rfl, rfl⟩

/-- After an error no message is handled, and the error stays. -/
theorem Fits.halted (fits : Fits start before) {label : Label config.count}
    (failed : before.terminal.isOk = false) (performed : before.next label = some after) :
    after.calls = before.calls ∧ after.terminal.isOk = false := by
  have halting := (fits.halting failed).2
  cases label with
  | push queue producer message | produce queue =>
      obtain ⟨calls, terminal⟩ := access_keeps performed
      exact ⟨calls, terminal ▸ failed⟩
  | stop =>
      simp only [next, Option.some_inj] at performed
      subst performed
      exact ⟨rfl, failed⟩
  | poll =>
      simp only [next, QueuePoller.poll] at performed
      cases point : before.point with
      | loop | visited scan | scanned progressed | resting progressed =>
          simp only [point] at performed
          split at performed <;> cases performed <;> exact ⟨rfl, failed⟩
      | finished => simp [point] at performed
      | select scan | drain scan => simp [point, isHalting] at halting
      | popping scan
      | handling scan message | progressing progressed => simp [point, isHalting] at halting
  | handlerEnds outcome =>
      simp only [next, QueuePoller.handlerEnds] at performed
      split at performed
      next scan message point => simp [point, isHalting] at halting
      next => simp at performed
  | progressReturns status =>
      simp only [next, QueuePoller.progressReturns] at performed
      split at performed
      next progressed point => simp [point, isHalting] at halting
      next => simp at performed

theorem Fits.ends (fits : Fits start before) (failed : before.terminal.isOk = false)
    (execution : Run.Reaches next before after) :
    after.calls = before.calls ∧ isHalting after.point = true := by
  have kept : Fits start after ∧ after.terminal.isOk = false ∧ after.calls = before.calls := by
    refine Run.ReachesBy.preserves execution (fun later : QueuePoller config =>
      Fits start later ∧ later.terminal.isOk = false ∧ later.calls = before.calls)
      ⟨fits, failed, rfl⟩ ?_
    intro state label later known _ performed
    obtain ⟨calls, error⟩ := known.1.halted known.2.1 performed
    exact ⟨next_fits known.1 performed, error, calls.trans known.2.2⟩
  exact ⟨kept.2.2, (kept.1.halting kept.2.1).2⟩

/-- An error of `TryPop` is recorded. -/
theorem afterPop_records {scan : QueueScan config.count}
    {calls : List (Status × Option QueueEnvelope)}
    {status : Status} {popped : Option QueueEnvelope}
    (pops : (before.queues scan.queue).pops = calls ++ [(status, popped)])
    (idle : (before.queues scan.queue).consumer = .idle) (failed : status.isOk = false) :
    (before.afterPop scan).terminal.isOk = false := by
  rw [afterPop, if_pos idle, pops, List.getLast?_concat]
  simp only [failed, Bool.false_eq_true, if_false]
  cases clean : before.terminal.isOk <;> simp [QueuePoller.fail, goto, clean, failed]

@[simp] theorem afterPop_queues (poller : QueuePoller config) (scan : QueueScan config.count) :
    (poller.afterPop scan).queues = poller.queues := by
  rw [afterPop]
  split
  · split
    · split
      · split <;> rfl
      · rfl
    · rfl
  · rfl

/-- The poller touches a queue only inside `TryPop`. -/
theorem poll_cases (performed : before.poll = some after) :
    after.queues = before.queues ∨ ∃ scan op middle,
      ((op = .tryPop config.localHost ∧ before.point = .drain scan) ∨
        (op = .consumer ∧ before.point = .popping scan)) ∧
      before.access scan.queue op = some middle ∧ after = middle.afterPop scan := by
  cases point : before.point with
  | drain scan =>
      simp only [QueuePoller.poll, point] at performed
      split at performed
      · obtain ⟨middle, accessed, rfl⟩ := Option.map_eq_some_iff.1 performed
        exact .inr ⟨scan, _, middle, .inl ⟨rfl, rfl⟩, accessed, rfl⟩
      · cases performed
        exact .inl rfl
  | popping scan =>
      simp only [QueuePoller.poll, point] at performed
      obtain ⟨middle, accessed, rfl⟩ := Option.map_eq_some_iff.1 performed
      exact .inr ⟨scan, _, middle, .inr ⟨rfl, rfl⟩, accessed, rfl⟩
  | handling scan message
  | progressing progressed | finished => simp [QueuePoller.poll, point] at performed
  | loop | select scan | visited scan | scanned progressed | resting progressed =>
      simp only [QueuePoller.poll, point] at performed
      split at performed <;> cases performed <;> exact .inl rfl

/-- A queue error is recorded in the step in which `TryPop` returns it. -/
theorem Fits.records_error (fits : Fits start before) {label : Label config.count}
    (performed : before.next label = some after) {queue : Fin config.count} {status : Status}
    {popped : Option QueueEnvelope}
    (returns : (after.queues queue).pops = (before.queues queue).pops ++ [(status, popped)])
    (failed : status.isOk = false) : after.terminal.isOk = false := by
  have same_pops : (after.queues queue).pops ≠ (before.queues queue).pops := by
    rw [returns]
    exact fun same => List.cons_ne_nil _ _ (List.self_eq_append_right.1 same.symm)
  have produced : ∀ (other : Fin config.count) (op : QueueOp),
      ((∃ producer message, op = .push producer message) ∨ op = .producer) →
        before.access other op ≠ some after := by
    intro other op producing accessed
    rw [access, Option.map_eq_some_iff] at accessed
    obtain ⟨changed, taken, rfl⟩ := accessed
    have pops := (QueueConfig.produce_keeps producing taken).2
    apply same_pops
    by_cases same : queue = other
    · subst same
      rw [putQueue_self, pops]
    · rw [putQueue_of_ne before changed same]
  cases label with
  | push other producer message =>
      exact absurd performed (produced other _ (.inl ⟨producer, message, rfl⟩))
  | produce other => exact absurd performed (produced other _ (.inr rfl))
  | stop =>
      simp only [next, Option.some_inj] at performed
      subst performed
      exact absurd rfl same_pops
  | handlerEnds outcome =>
      simp only [next, QueuePoller.handlerEnds] at performed
      split at performed
      · split at performed <;> cases performed <;> exact absurd rfl same_pops
      · simp at performed
  | progressReturns outcome =>
      simp only [next, QueuePoller.progressReturns] at performed
      split at performed
      · split at performed <;> cases performed <;> exact absurd rfl same_pops
      · simp at performed
  | poll =>
      rcases poll_cases performed with kept | ⟨scan, op, middle, here, accessed, rfl⟩
      · rw [kept] at same_pops
        exact absurd rfl same_pops
      · rw [access, Option.map_eq_some_iff] at accessed
        obtain ⟨changed, taken, rfl⟩ := accessed
        rw [afterPop_queues] at returns same_pops
        by_cases same : queue = scan.queue
        · subst same
          have consuming : (op = .tryPop config.localHost ∧
              (before.queues scan.queue).consumer = .idle) ∨ op = .consumer := by
            rcases here with ⟨begins, point⟩ | ⟨continues, _⟩
            · exact .inl ⟨begins, fits.quiet _ (by simp [point, poppedQueue])⟩
            · exact .inr continues
          rw [putQueue_self] at same_pops
          rcases QueueConfig.consume_cases consuming taken with ⟨_, pops⟩ | ⟨idle, _⟩
          · exact absurd pops same_pops
          · exact afterPop_records returns (by rw [putQueue_self]; exact idle) failed
        · rw [putQueue_of_ne before changed same] at same_pops
          exact absurd rfl same_pops

def completed (poller : QueuePoller config) (queue : Fin config.count) :
    List (HandlerCall config.count) :=
  poller.calls.filter fun call => call.queue = queue ∧ call.status.isOk

/-- The progress callback sees completed handlers only. -/
structure Orderly (start : Fin config.count → QueueConfig) (poller : QueuePoller config) :
    Prop where
  /-- The handler is given every message that a queue pops, once and in the order of the pops. -/
  handed : ∀ queue, (poller.queues queue).returned = (start queue).returned ++ poller.handed queue
  /-- A queue pops its messages in the order of their pushes and without gaps. -/
  fifo : ∀ queue, (poller.queues queue).returned <+: (poller.queues queue).accepted
  /-- Inside the progress callback each consumer cursor counts the successful calls. -/
  progress : ∀ progressed, poller.point = .progressing progressed → ∀ queue,
    (poller.queues queue).shared.head =
      (start queue).shared.head + (poller.completed queue).length
  handlerError : (∃ call ∈ poller.calls, call.status.isOk = false) → poller.terminal.isOk = false
  queueError : ∀ label after, poller.next label = some after → ∀ queue status popped,
    (after.queues queue).pops = (poller.queues queue).pops ++ [(status, popped)] →
      status.isOk = false → after.terminal.isOk = false
  /-- After an error nothing is handled and the progress callback is not invoked. -/
  ends : poller.terminal.isOk = false → ∀ later, Run.Reaches next poller later →
    later.calls = poller.calls ∧ ∀ progressed, later.point ≠ .progressing progressed
  /-- All that `TryPop` returns for a queue, it returns in the visits of that queue. -/
  pops : ∀ queue, (poller.queues queue).pops =
    (start queue).pops ++ poller.visits.flatMap (PollVisit.popsOf queue)
  /-- A scan to its end visits each queue once, beginning with its first one, each until a batch
  was taken or the queue was found empty. -/
  visits : ∀ record ∈ poller.scans, record.early = false →
    record.visits.map PollVisit.queue = (List.finRange config.count).rotate record.start.val ∧
      ∀ visit ∈ record.visits, visit.Complete config.batchSize
  /-- A visit takes at most a batch, also in a scan that leaves early or still runs. -/
  batches : ∀ visit ∈ poller.visits, visit.messages.length ≤ config.batchSize
  /-- A scan ends early only for an error or a requested stop. -/
  early : ∀ record ∈ poller.scans, record.early = true →
    poller.stopRequested = true ∨ poller.terminal.isOk = false
  /-- The first queue rotates by one for each scan. -/
  starts : ∀ index record, poller.scans[index]? = some record →
    record.start.val = index % config.count

/-- In every run of the poller, with any pushes, outcomes and stops, the progress callback sees
completed handlers only. -/
theorem progress_sees_completed
    (reached : ∀ queue, QueueConfig.Reached (config.identities queue) (start queue))
    (idle : ∀ queue, (start queue).consumer = .idle) {poller : QueuePoller config}
    (execution : Run.Reaches next (initial config start) poller) : Orderly start poller := by
  have fits := reaches_fits reached idle execution
  have sound := fun queue =>
    (QueueConfig.reached_sound (fits.reached queue) (config.capacity_lt queue)).fifo
  have startSound := fun queue =>
    (QueueConfig.reached_sound (reached queue) (config.capacity_lt queue)).fifo
  exact
    { handed := fits.handed
      fifo := fun queue => (sound queue).1
      progress := by
        intro progressed point queue
        have clean : poller.terminal.isOk = true := fits.clean (by rw [point]; rfl)
        have all : poller.completed queue =
            poller.calls.filter fun call => call.queue = queue := by
          apply List.filter_congr
          intro call member
          simp [fits.successful clean call member]
        rw [(sound queue).2, (startSound queue).2, fits.handed queue, List.length_append,
          QueuePoller.handed, point, inFlight, List.append_nil, List.length_map, all]
        simp
      handlerError := by
        rintro ⟨call, member, failed⟩
        by_contra clean
        rw [fits.successful (Bool.eq_true_of_not_eq_false clean) call member] at failed
        exact Bool.noConfusion failed
      queueError := by
        intro label after performed queue status popped returns failed
        exact fits.records_error performed returns failed
      ends := by
        intro failed later continuation
        obtain ⟨calls, halting⟩ := fits.ends failed continuation
        refine ⟨calls, ?_⟩
        intro progressed point
        rw [point] at halting
        exact Bool.noConfusion halting
      pops := fits.pops
      visits := fun record member => (fits.records record member).visits
      batches := by
        intro visit member
        rcases List.mem_append.1 member with earlier | current
        · obtain ⟨record, finished, inside⟩ := List.mem_flatMap.1 earlier
          exact (fits.records record finished).bounded visit inside
        · cases running : scanOf poller.point with
          | none => simp [running, visitsOf] at current
          | some scan =>
              rw [running] at current
              exact (fits.scan scan running).bounded visit current
      early := fun record member => (fits.records record member).early
      starts := fits.starts }

/-- A ring of two entries from a producer to host 1. -/
def inbound (producer : Nat) : SpscQueueIdentity where
  producer := producer
  consumer := 1
  capacity := 2
  capacity_pos := Nat.zero_lt_two
  producerProcessor := ⟨true, false⟩
  producerMode := .releaseAcquire
  consumerProcessor := ⟨true, true⟩
  consumerMode := .clwb

def twoQueues : PollerConfig where
  count := 2
  identities queue := inbound (2 * queue.val)
  localHost := 1
  batchSize := 2
  spinRounds := 0
  yieldRounds := 0
  hasProgress := true
  count_pos := Nat.zero_lt_two
  batchSize_pos := Nat.zero_lt_two
  consumer_eq _ := rfl
  capacity_lt _ := show 2 < QueueConfig.kMaxQueueCapacity by decide

def inboundMessage (producer : Nat) (byte : UInt8) : QueueEnvelope :=
  ⟨⟨.tokenReq, producer, 1, 1⟩, [byte]⟩

def pushLabels (queue : Fin 2) (byte : UInt8) : List (Label 2) :=
  .push queue (2 * queue.val) (inboundMessage (2 * queue.val) byte) ::
    List.replicate 7 (.produce queue)

/-- One queue has a full batch and the other a single message; then the progress callback is
invoked. -/
def twoQueuesLabels : List (Label 2) :=
  pushLabels ⟨0, Nat.zero_lt_two⟩ 7 ++ pushLabels ⟨0, Nat.zero_lt_two⟩ 8 ++
    pushLabels ⟨1, Nat.one_lt_two⟩ 9 ++
    List.replicate 11 Label.poll ++ [Label.handlerEnds (.returned .ok)] ++
    List.replicate 9 Label.poll ++ [Label.handlerEnds (.returned .ok)] ++
    List.replicate 12 Label.poll ++ [Label.handlerEnds (.returned .ok)] ++
    List.replicate 6 Label.poll

theorem progress_sees_completed_twoQueues :
    ∃ poller : QueuePoller twoQueues,
      Run.runLabels next (initial twoQueues fun _ => .formatted) twoQueuesLabels = some poller ∧
        poller.point = .progressing true ∧
        (poller.queues (0 : Fin 2)).shared.head = 2 ∧
        (poller.queues (1 : Fin 2)).shared.head = 1 ∧
        poller.visits.map (fun visit => (visit.queue.val, visit.messages)) =
          [(0, [inboundMessage 0 7, inboundMessage 0 8]), (1, [inboundMessage 2 9])] ∧
        Orderly (fun _ => .formatted) poller := by
  have outcome : (Run.runLabels next (initial twoQueues fun _ => .formatted)
      twoQueuesLabels).any (fun poller =>
        poller.point = .progressing true ∧
        (poller.queues (0 : Fin 2)).shared.head = 2 ∧
        (poller.queues (1 : Fin 2)).shared.head = 1 ∧
        poller.visits.map (fun visit => (visit.queue.val, visit.messages)) =
          [(0, [inboundMessage 0 7, inboundMessage 0 8]), (1, [inboundMessage 2 9])]) = true := by
    decide +kernel
  obtain ⟨poller, execution, facts⟩ := (Option.any_eq_true _ _).mp outcome
  obtain ⟨point, first, second, visited⟩ := of_decide_eq_true facts
  exact ⟨poller, execution, point, first, second, visited,
    progress_sees_completed (fun _ => .refl) (fun _ => rfl) (Run.reaches_of_runLabels execution)⟩

end QueuePoller
end Cxloom.LoomMem
