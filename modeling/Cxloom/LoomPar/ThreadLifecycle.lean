import Cxloom.LoomPar.Threading
import Cxloom.Run

/-!
# Lifecycle of thread records

Every interleaving of the calls on one `ThreadManager`.  `Join` waits for the completion, runs its
acquire hook without the mutex and then removes the record; everything else is one step.  A story
remembers what happened to each identifier.
-/

namespace Cxloom.LoomPar

/-- Who takes the result of a thread. -/
inductive ThreadConsumer
  | join
  | detach
deriving DecidableEq, Repr

/-- What happened to an identifier. -/
inductive RecordEvent
  /-- `AllocateThread` returned it. -/
  | allocated
  | completed (completion : Completion)
  /-- A `Join` or a `Detach` was accepted. -/
  | accepted (consumer : ThreadConsumer)
  /-- The accepted `Join` returned, after its hook. -/
  | joined (acquired status : Status) (result : UInt64)

namespace RecordEvent

/-- The accepted completion. -/
def completion? : RecordEvent → Option Completion
  | completed completion => some completion
  | _ => none

def consumer? : RecordEvent → Option ThreadConsumer
  | accepted consumer => some consumer
  | _ => none

/-- What the accepted `Join` returned. -/
def returned? : RecordEvent → Option (Status × Status × UInt64)
  | joined acquired status result => some (acquired, status, result)
  | _ => none

/-- Whether the identifier was given out. -/
def allocates : RecordEvent → Bool
  | allocated => true
  | _ => false

end RecordEvent

/-- Where a caller is in `Join`. -/
inductive JoinPoint
  /-- Not in `Join`. -/
  | idle
  | waiting (tid : Nat)
  /-- Running the acquire hook. -/
  | acquiring (tid : Nat)
deriving DecidableEq

/-- The identifier that a caller joins. -/
def JoinPoint.target : JoinPoint → Option Nat
  | idle => none
  | waiting tid | acquiring tid => some tid

/-- A manager with its callers and what happened. -/
structure ManagerRun (cluster : Cluster) where
  localHost : cluster.Host
  /-- Records. -/
  manager : ThreadManager cluster
  /-- Callers of `Join`. -/
  callers : Nat → JoinPoint
  /-- What happened to every identifier. -/
  story : Nat → List RecordEvent

/-- A call on the manager. -/
inductive ThreadCall (cluster : Cluster)
  | allocateThread (executionHost : cluster.Host) (functionId : UInt64) (argBytes : List UInt8)
  | markLaunching (gtid : GlobalThreadId cluster)
  | markRunning (gtid : GlobalThreadId cluster)
  | markCompleted (gtid : GlobalThreadId cluster) (completion : Completion)
  | launch (gtid : GlobalThreadId cluster) (function : Bool)
  | join (caller : Nat) (gtid : GlobalThreadId cluster) (itself : Bool)
  | detach (gtid : GlobalThreadId cluster)

/-- The identifier that a call names. -/
def ThreadCall.gtid? {cluster : Cluster} : ThreadCall cluster → Option (GlobalThreadId cluster)
  | allocateThread _ _ _ => none
  | markLaunching gtid | markRunning gtid | markCompleted gtid _ | launch gtid _ | join _ gtid _
  | detach gtid => some gtid

namespace ManagerRun

variable {cluster : Cluster}

/-- A new manager. -/
def initial (localHost : cluster.Host) : ManagerRun cluster :=
  ⟨localHost, .initial cluster, fun _ => .idle, fun _ => []⟩

/-- Change an entry and remember what that means. -/
def change (run : ManagerRun cluster) (gtid : GlobalThreadId cluster)
    (transition : ThreadEntry cluster → Except Status (Option (ThreadEntry cluster)))
    (events : ThreadEntry cluster → List RecordEvent) : Status × ManagerRun cluster :=
  match run.manager.find run.localHost gtid with
  | none => (.notFound "unknown home thread", run)
  | some entry =>
      match transition entry with
      | .error status => (status, run)
      | .ok after =>
          (.ok,
            { run with
              manager := run.manager.put gtid.localTid after
              story := Function.update run.story gtid.localTid
                (run.story gtid.localTid ++ events entry) })

/-- `Launch` with a fiber that can be built. -/
def launchWith (function : Bool) (entry : ThreadEntry cluster) :
    Except Status (Option (ThreadEntry cluster)) :=
  if function then entry.launch true
  else .error (.failedPrecondition "launch requires a registered function and launching thread")

/-- `Join` up to its wait, which a thread cannot call on itself. -/
def joinBy (itself : Bool) (entry : ThreadEntry cluster) :
    Except Status (Option (ThreadEntry cluster)) :=
  if itself then .error (.failedPrecondition "thread cannot join itself") else entry.join

/-- Perform a call; an accepted `Join` waits. -/
def perform (run : ManagerRun cluster) : ThreadCall cluster → Status × ManagerRun cluster
  | .allocateThread executionHost functionId argBytes =>
      let allocated := run.manager.allocateThread executionHost functionId argBytes
      (.ok,
        { run with
          manager := allocated.2
          story := Function.update run.story allocated.1
            (run.story allocated.1 ++ [.allocated]) })
  | .markLaunching gtid => run.change gtid ThreadEntry.markLaunching fun _ => []
  | .markRunning gtid => run.change gtid ThreadEntry.markRunning fun _ => []
  | .markCompleted gtid completion =>
      run.change gtid (ThreadEntry.markCompleted completion) fun entry =>
        if entry.record.state = .completed then [] else [.completed completion]
  | .launch gtid function => run.change gtid (launchWith function) fun _ => []
  | .join caller gtid itself =>
      let outcome := run.change gtid (joinBy itself) fun _ => [.accepted .join]
      (outcome.1,
        if outcome.1.isOk then
          { outcome.2 with
            callers := Function.update outcome.2.callers caller (.waiting gtid.localTid) }
        else outcome.2)
  | .detach gtid => run.change gtid ThreadEntry.detach fun _ => [.accepted .detach]

/-- What `Join` returns for the status of its hook. -/
def joinStatus (acquired : Status) (completion : Completion) : Status :=
  if !acquired.isOk then acquired
  else if completion.exitCode = 0 then .ok
  else .internal "thread execution or remote launch failed"

/-- One step. -/
inductive Label (cluster : Cluster)
  | call (call : ThreadCall cluster)
  /-- The wait of a `Join` ends. -/
  | wake (caller : Nat)
  /-- The hook of a `Join` ended with a status, and the `Join` returns. -/
  | finish (caller : Nat) (acquired : Status)

/-- Perform one step. -/
def next (run : ManagerRun cluster) : Label cluster → Option (ManagerRun cluster)
  | .call (.join caller gtid itself) =>
      if run.callers caller = .idle then some (run.perform (.join caller gtid itself)).2 else none
  | .call call => some (run.perform call).2
  | .wake caller =>
      match run.callers caller with
      | .waiting tid =>
          match run.manager.records tid with
          | none => none
          | some entry =>
              if entry.record.state = .completed then
                some { run with callers := Function.update run.callers caller (.acquiring tid) }
              else none
      | _ => none
  | .finish caller acquired =>
      match run.callers caller with
      | .acquiring tid =>
          match run.manager.records tid with
          | none => none
          | some entry =>
              some
                { run with
                  manager := run.manager.put tid none
                  callers := Function.update run.callers caller .idle
                  story := Function.update run.story tid
                    (run.story tid ++
                      [.joined acquired (joinStatus acquired entry.record.completion)
                        entry.record.completion.resultValue]) }
      | _ => none

/-- The completions that were accepted for an identifier. -/
def completions (run : ManagerRun cluster) (tid : Nat) : List Completion :=
  (run.story tid).filterMap RecordEvent.completion?

/-- The consumers that were accepted for an identifier. -/
def consumers (run : ManagerRun cluster) (tid : Nat) : List ThreadConsumer :=
  (run.story tid).filterMap RecordEvent.consumer?

/-- What the accepted `Join` of an identifier returned. -/
def returns (run : ManagerRun cluster) (tid : Nat) : List (Status × Status × UInt64) :=
  (run.story tid).filterMap RecordEvent.returned?

/-- How often an identifier was given out. -/
def allocations (run : ManagerRun cluster) (tid : Nat) : Nat :=
  (run.story tid).countP RecordEvent.allocates

/-! ## The invariant -/

/-- The story of a record that is there. -/
structure LiveFits (entry : ThreadEntry cluster) (story : List RecordEvent) : Prop where
  /-- It was given out once. -/
  allocated : story.countP RecordEvent.allocates = 1
  completed : story.filterMap RecordEvent.completion? =
    if entry.record.state = .completed then [entry.record.completion] else []
  accepted : story.filterMap RecordEvent.consumer? =
    if entry.joining then [.join] else if entry.detached then [.detach] else []
  /-- No `Join` has returned. -/
  returned : story.filterMap RecordEvent.returned? = []
  /-- There is one consumer. -/
  exclusive : entry.joining = true → entry.detached = false
  launched : entry.joining = true ∨ entry.detached = true → entry.record.state ≠ .allocated
  unfinished : entry.detached = true → entry.record.state ≠ .completed
  unjoined : entry.record.state ≠ .joined

/-- The story of a record that was removed. -/
structure GoneFits (story : List RecordEvent) : Prop where
  /-- It was given out once. -/
  allocated : story.countP RecordEvent.allocates = 1
  consumed : ∃ completion, story.filterMap RecordEvent.completion? = [completion] ∧
    (story.filterMap RecordEvent.consumer? = [.join] ∧
        (∃ acquired, story.filterMap RecordEvent.returned? =
          [(acquired, joinStatus acquired completion, completion.resultValue)]) ∨
      story.filterMap RecordEvent.consumer? = [.detach] ∧
        story.filterMap RecordEvent.returned? = [])

/-- Records, callers and stories agree. -/
structure Fits (run : ManagerRun cluster) : Prop where
  /-- Nothing happened to identifiers that were not given out. -/
  fresh : ∀ tid, run.manager.nextTid ≤ tid → run.manager.records tid = none ∧ run.story tid = []
  live : ∀ tid entry, run.manager.records tid = some entry → LiveFits entry (run.story tid)
  gone : ∀ tid, tid < run.manager.nextTid → run.manager.records tid = none →
    GoneFits (run.story tid)
  /-- The record of a `Join` is there. -/
  joined : ∀ caller tid, (run.callers caller).target = some tid →
    ∃ entry, run.manager.records tid = some entry ∧ entry.joining = true ∧
      (run.callers caller = .acquiring tid → entry.record.state = .completed)
  alone : ∀ first second tid, (run.callers first).target = some tid →
    (run.callers second).target = some tid → first = second

variable {run after : ManagerRun cluster} {entry : ThreadEntry cluster}
  {story : List RecordEvent} {gtid : GlobalThreadId cluster}

/-- The outcome of a call on an entry. -/
theorem change_cases (run : ManagerRun cluster) (gtid : GlobalThreadId cluster)
    (transition : ThreadEntry cluster → Except Status (Option (ThreadEntry cluster)))
    (events : ThreadEntry cluster → List RecordEvent) :
    (∃ status, run.change gtid transition events = (status, run) ∧
      (status = .notFound "unknown home thread" ∨
        ∃ entry, transition entry = .error status)) ∨
    ∃ entry after, run.manager.records gtid.localTid = some entry ∧
      transition entry = .ok after ∧
      run.change gtid transition events =
        (.ok,
          { run with
            manager := run.manager.put gtid.localTid after
            story := Function.update run.story gtid.localTid
              (run.story gtid.localTid ++ events entry) }) := by
  cases found : run.manager.find run.localHost gtid with
  | none => exact .inl ⟨_, by rw [change, found], .inl rfl⟩
  | some entry =>
      have present : run.manager.records gtid.localTid = some entry := by
        rw [ThreadManager.find] at found
        split at found
        · exact found
        · cases found
      cases moved : transition entry with
      | error status =>
          exact .inl ⟨status, by simp only [change, found, moved], .inr ⟨entry, moved⟩⟩
      | ok after => exact .inr ⟨entry, after, present, moved, by simp only [change, found, moved]⟩

theorem change_missing (missing : run.manager.find run.localHost gtid = none)
    (transition : ThreadEntry cluster → Except Status (Option (ThreadEntry cluster)))
    (events : ThreadEntry cluster → List RecordEvent) :
    run.change gtid transition events = (.notFound "unknown home thread", run) := by
  rw [change, missing]

/-! ## Transitions of one entry -/

/-- Position of a state in the lifecycle. -/
def rank : ThreadState → Nat
  | .allocated => 0
  | .launching => 1
  | .running => 2
  | .completed => 3
  | .joined => 4

theorem rank_le_completed {state : ThreadState} (unjoined : state ≠ .joined) :
    rank state ≤ rank .completed := by
  cases state with
  | joined => exact (unjoined rfl).elim
  | allocated | launching | running | completed => decide

/-- A record moves forward and keeps its completion. -/
structure Forward (before after : ThreadRecord cluster) : Prop where
  /-- The state does not move backwards. -/
  state : rank before.state ≤ rank after.state
  completion : before.state = .completed →
    after.state = .completed ∧ after.completion = before.completion

theorem Forward.refl (record : ThreadRecord cluster) : Forward record record :=
  ⟨Nat.le_refl _, fun done => ⟨done, rfl⟩⟩

theorem Forward.trans {first second third : ThreadRecord cluster} (left : Forward first second)
    (right : Forward second third) : Forward first third := by
  refine ⟨left.state.trans right.state, fun done => ?_⟩
  obtain ⟨done', same⟩ := left.completion done
  obtain ⟨done'', same'⟩ := right.completion done'
  exact ⟨done'', same'.trans same⟩

/-- What a change of an entry keeps. -/
def Keeps (entry : ThreadEntry cluster) (story : List RecordEvent) :
    Option (ThreadEntry cluster) → Prop
  | none => GoneFits story ∧ entry.joining = false
  | some after => LiveFits after story ∧ (entry.joining = true → after.joining = true) ∧
      Forward entry.record after.record

theorem LiveFits.setState (fits : LiveFits entry story) {state : ThreadState}
    (active : entry.record.state ≠ .completed) (later : state ≠ .completed)
    (unjoined : state ≠ .joined) (launched : state ≠ .allocated)
    (order : rank entry.record.state ≤ rank state) :
    Keeps entry story (some (entry.setState state)) := by
  refine ⟨⟨fits.allocated, ?_, fits.accepted, fits.returned, fits.exclusive, fun _ => launched,
    fun _ => later, unjoined⟩, fun joining => joining, order, fun done => (active done).elim⟩
  rw [fits.completed, if_neg active]
  exact (if_neg later).symm

theorem LiveFits.stays (fits : LiveFits entry story) : Keeps entry story (some entry) :=
  ⟨fits, fun joining => joining, .refl _⟩

theorem LiveFits.markLaunching (fits : LiveFits entry story)
    {after : Option (ThreadEntry cluster)} (moved : entry.markLaunching = .ok after) :
    Keeps entry story after := by
  rw [ThreadEntry.markLaunching] at moved
  split at moved
  · cases moved
  · rename_i allocated
    obtain rfl := Except.ok.inj moved
    have before : entry.record.state = .allocated := not_not.mp allocated
    exact fits.setState (by rw [before]; decide) (by decide) (by decide) (by decide)
      (by rw [before]; decide)

theorem LiveFits.markRunning (fits : LiveFits entry story)
    {after : Option (ThreadEntry cluster)} (moved : entry.markRunning = .ok after) :
    Keeps entry story after := by
  rw [ThreadEntry.markRunning] at moved
  split at moved
  · obtain rfl := Except.ok.inj moved
    exact fits.stays
  · rename_i active
    split at moved
    · cases moved
    · rename_i started
      obtain rfl := Except.ok.inj moved
      refine fits.setState active (by decide) (by decide) (by decide) ?_
      generalize entry.record.state = state at started
      cases state <;> first | exact (started (by decide)).elim | decide

theorem LiveFits.launch (fits : LiveFits entry story) {function : Bool}
    {after : Option (ThreadEntry cluster)} (moved : launchWith function entry = .ok after) :
    Keeps entry story after := by
  rw [launchWith, ThreadEntry.launch] at moved
  split at moved
  · split at moved
    · cases moved
    · rename_i launching
      obtain rfl := Except.ok.inj moved
      have before : entry.record.state = .launching := not_not.mp launching
      exact fits.setState (by rw [before]; decide) (by decide) (by decide) (by decide)
        (by rw [before]; decide)
  · cases moved

theorem LiveFits.markCompleted (fits : LiveFits entry story) {completion : Completion}
    {after : Option (ThreadEntry cluster)} (moved : entry.markCompleted completion = .ok after) :
    Keeps entry
      (story ++ if entry.record.state = .completed then [] else [.completed completion]) after := by
  rw [ThreadEntry.markCompleted] at moved
  by_cases done : entry.record.state = .completed
  · rw [if_pos done] at moved ⊢
    obtain rfl := Except.ok.inj moved
    rw [List.append_nil]
    exact fits.stays
  · rw [if_neg done] at moved ⊢
    split at moved
    · cases moved
    · rename_i active
      have nothing : story.filterMap RecordEvent.completion? = [] := by
        rw [fits.completed, if_neg done]
      by_cases detached : entry.detached = true
      · rw [if_pos detached] at moved
        obtain rfl := Except.ok.inj moved
        have unjoined : entry.joining = false := by
          by_contra joining
          rw [fits.exclusive (Bool.not_eq_false _ ▸ joining)] at detached
          cases detached
        refine ⟨⟨?_, completion, ?_, .inr ⟨?_, ?_⟩⟩, unjoined⟩
        · simp [fits.allocated, RecordEvent.allocates]
        · simp [nothing, RecordEvent.completion?]
        · simp [fits.accepted, unjoined, detached, RecordEvent.consumer?]
        · simp [fits.returned, RecordEvent.returned?]
      · rw [if_neg detached] at moved
        obtain rfl := Except.ok.inj moved
        refine ⟨⟨?_, ?_, ?_, ?_, fits.exclusive, ?_, ?_, ?_⟩, fun joining => joining, ?_,
          fun finished => (done finished).elim⟩
        · simp [fits.allocated, RecordEvent.allocates]
        · simp [nothing, RecordEvent.completion?]
        · simp [fits.accepted, RecordEvent.consumer?]
        · simp [fits.returned, RecordEvent.returned?]
        · exact fun _ => ThreadState.noConfusion
        · exact fun also => (detached also).elim
        · exact ThreadState.noConfusion
        · exact rank_le_completed fits.unjoined

theorem LiveFits.join (fits : LiveFits entry story) {itself : Bool}
    {after : Option (ThreadEntry cluster)} (moved : joinBy itself entry = .ok after) :
    Keeps entry (story ++ [.accepted .join]) after ∧
      (∃ joiner, after = some joiner ∧ joiner.joining = true) ∧ entry.joining = false := by
  rw [joinBy, ThreadEntry.join] at moved
  split at moved
  · cases moved
  · split at moved
    · cases moved
    · rename_i free
      split at moved
      · cases moved
      · rename_i launched
        obtain rfl := Except.ok.inj moved
        have unjoined : entry.joining = false := Bool.eq_false_iff.mpr fun joining =>
          free (.inl joining)
        have attached : entry.detached = false :=
          Bool.eq_false_iff.mpr fun detached => free (.inr detached)
        refine ⟨⟨⟨?_, ?_, ?_, ?_, fun _ => attached, fun _ => launched, fits.unfinished,
          fits.unjoined⟩, fun _ => rfl, .refl _⟩, ⟨_, rfl, rfl⟩, unjoined⟩
        · simp [fits.allocated, RecordEvent.allocates]
        · simp [fits.completed, RecordEvent.completion?]
        · simp [fits.accepted, unjoined, attached, RecordEvent.consumer?]
        · simp [fits.returned, RecordEvent.returned?]

theorem LiveFits.detach (fits : LiveFits entry story)
    {after : Option (ThreadEntry cluster)} (moved : entry.detach = .ok after) :
    Keeps entry (story ++ [.accepted .detach]) after := by
  rw [ThreadEntry.detach] at moved
  split at moved
  · cases moved
  · rename_i launched
    split at moved
    · cases moved
    · rename_i free
      have unjoined : entry.joining = false :=
        Bool.eq_false_iff.mpr fun joining => free (.inl joining)
      have attached : entry.detached = false :=
        Bool.eq_false_iff.mpr fun detached => free (.inr detached)
      by_cases done : entry.record.state = .completed
      · rw [if_pos done] at moved
        obtain rfl := Except.ok.inj moved
        refine ⟨⟨?_, entry.record.completion, ?_, .inr ⟨?_, ?_⟩⟩, unjoined⟩
        · simp [fits.allocated, RecordEvent.allocates]
        · simp [fits.completed, done, RecordEvent.completion?]
        · simp [fits.accepted, unjoined, attached, RecordEvent.consumer?]
        · simp [fits.returned, RecordEvent.returned?]
      · rw [if_neg done] at moved
        obtain rfl := Except.ok.inj moved
        refine ⟨⟨?_, ?_, ?_, ?_, ?_, fun _ => launched, fun _ => done, fits.unjoined⟩,
          fun joining => joining, .refl _⟩
        · simp [fits.allocated, RecordEvent.allocates]
        · simp [fits.completed, RecordEvent.completion?]
        · simp [fits.accepted, unjoined, attached, RecordEvent.consumer?]
        · simp [fits.returned, RecordEvent.returned?]
        · intro joining
          rw [unjoined] at joining
          cases joining

/-! ## Steps -/

/-- What happens between two states of a run. -/
structure Later (before after : ManagerRun cluster) : Prop where
  grows : before.manager.nextTid ≤ after.manager.nextTid
  /-- A removed record does not come back. -/
  gone : ∀ tid, tid < before.manager.nextTid → before.manager.records tid = none →
    after.manager.records tid = none
  forward : ∀ tid entry entry', before.manager.records tid = some entry →
    after.manager.records tid = some entry' → Forward entry.record entry'.record

theorem Later.of_eq (same : after.manager = run.manager) : Later run after := by
  refine ⟨by rw [same], fun tid _ missing => by rw [same]; exact missing, ?_⟩
  intro tid entry entry' before later
  rw [same] at later
  obtain rfl := Option.some.inj (before.symm.trans later)
  exact .refl _

theorem Later.trans {first second third : ManagerRun cluster} (fits : Fits first)
    (left : Later first second) (right : Later second third) : Later first third := by
  refine ⟨left.grows.trans right.grows, fun tid inside missing => ?_,
    fun tid entry entry' before after => ?_⟩
  · exact right.gone tid (inside.trans_le left.grows) (left.gone tid inside missing)
  · have given : tid < first.manager.nextTid := by
      by_contra outside
      rw [(fits.fresh tid (Nat.le_of_not_lt outside)).1] at before
      cases before
    cases middle : second.manager.records tid with
    | none =>
        rw [right.gone tid (given.trans_le left.grows) middle] at after
        cases after
    | some item =>
        exact (left.forward tid entry item before middle).trans
          (right.forward tid item entry' middle after)

theorem Later.put {tid : Nat} {changed : Option (ThreadEntry cluster)}
    (present : run.manager.records tid = some entry)
    (forward : ∀ entry', changed = some entry' → Forward entry.record entry'.record)
    (same : after.manager = run.manager.put tid changed) : Later run after := by
  refine ⟨by rw [same]; exact Nat.le_refl _, fun other _ missing => ?_,
    fun other item item' before later => ?_⟩
  · have different : other ≠ tid := by
      rintro rfl
      rw [present] at missing
      cases missing
    rw [same]
    simp only [ThreadManager.put, Function.update_of_ne different]
    exact missing
  · rw [same] at later
    by_cases here : other = tid
    · subst here
      simp only [ThreadManager.put, Function.update_self] at later
      obtain rfl := Option.some.inj (present.symm.trans before)
      exact forward item' later
    · simp only [ThreadManager.put, Function.update_of_ne here] at later
      obtain rfl := Option.some.inj (before.symm.trans later)
      exact .refl _

theorem Keeps.forward {changed : Option (ThreadEntry cluster)} (keeps : Keeps entry story changed)
    {entry' : ThreadEntry cluster} (same : changed = some entry') :
    Forward entry.record entry'.record := by
  subst same
  exact keeps.2.2

theorem Fits.changed (fits : Fits run) {tid : Nat} {after : Option (ThreadEntry cluster)}
    {events : List RecordEvent} (present : run.manager.records tid = some entry)
    (keeps : Keeps entry (run.story tid ++ events) after) :
    Fits
      { run with
        manager := run.manager.put tid after
        story := Function.update run.story tid (run.story tid ++ events) } := by
  have given : tid < run.manager.nextTid := by
    by_contra outside
    rw [(fits.fresh tid (Nat.le_of_not_lt outside)).1] at present
    cases present
  refine ⟨fun other outside => ?_, fun other item found => ?_, fun other inside missing => ?_,
    fun caller other target => ?_, fits.alone⟩
  · have different : other ≠ tid := by
      rintro rfl
      exact absurd given (Nat.not_lt.mpr outside)
    simp only [ThreadManager.put, Function.update_of_ne different]
    exact fits.fresh other outside
  · by_cases same : other = tid
    · subst same
      simp only [ThreadManager.put, Function.update_self] at found ⊢
      subst found
      exact keeps.1
    · simp only [ThreadManager.put, Function.update_of_ne same] at found ⊢
      exact fits.live other item found
  · by_cases same : other = tid
    · subst same
      simp only [ThreadManager.put, Function.update_self] at missing ⊢
      subst missing
      exact keeps.1
    · simp only [ThreadManager.put, Function.update_of_ne same] at missing ⊢
      exact fits.gone other inside missing
  · obtain ⟨item, there, joining, acquires⟩ := fits.joined caller other target
    by_cases same : other = tid
    · subst same
      obtain rfl := Option.some.inj (present.symm.trans there)
      simp only [ThreadManager.put, Function.update_self]
      cases after with
      | none =>
          rw [keeps.2] at joining
          cases joining
      | some changed =>
          obtain ⟨-, stays, forward⟩ := keeps
          exact ⟨changed, rfl, stays joining, fun point => (forward.completion (acquires point)).1⟩
    · simp only [ThreadManager.put, Function.update_of_ne same]
      exact ⟨item, there, joining, acquires⟩

theorem Fits.change (fits : Fits run)
    {transition : ThreadEntry cluster → Except Status (Option (ThreadEntry cluster))}
    {events : ThreadEntry cluster → List RecordEvent}
    (keeps : ∀ entry story after, LiveFits entry story → transition entry = .ok after →
      Keeps entry (story ++ events entry) after) :
    Fits (run.change gtid transition events).2 ∧
      Later run (run.change gtid transition events).2 := by
  rcases change_cases run gtid transition events with
    ⟨status, same, -⟩ | ⟨entry, after, present, moved, same⟩
  · rw [same]
    exact ⟨fits, .of_eq rfl⟩
  · have kept := keeps entry _ after (fits.live _ entry present) moved
    rw [same]
    exact ⟨fits.changed present kept, .put present (fun _ => kept.forward) rfl⟩

theorem Fits.allocateThread (fits : Fits run) (executionHost : cluster.Host)
    (functionId : UInt64) (argBytes : List UInt8) :
    Fits (run.perform (.allocateThread executionHost functionId argBytes)).2 := by
  obtain ⟨missing, silent⟩ := fits.fresh run.manager.nextTid (Nat.le_refl _)
  refine ⟨fun other outside => ?_, fun other item found => ?_, fun other inside absent => ?_,
    fun caller other target => ?_, fits.alone⟩
  · have different : other ≠ run.manager.nextTid := by
      rintro rfl
      exact absurd outside (Nat.not_le.mpr (Nat.lt_succ_self _))
    simp only [perform, ThreadManager.allocateThread, Function.update_of_ne different]
    exact fits.fresh other ((Nat.le_succ _).trans outside)
  · by_cases same : other = run.manager.nextTid
    · subst same
      simp only [perform, ThreadManager.allocateThread, Function.update_self] at found ⊢
      obtain rfl := Option.some.inj found
      rw [silent]
      refine ⟨rfl, rfl, rfl, rfl, ?_, ?_, ?_, ThreadState.noConfusion⟩
      · intro joining
        cases joining
      · rintro (joining | detached)
        · cases joining
        · cases detached
      · intro detached
        cases detached
    · simp only [perform, ThreadManager.allocateThread, Function.update_of_ne same] at found ⊢
      exact fits.live other item found
  · by_cases same : other = run.manager.nextTid
    · subst same
      simp only [perform, ThreadManager.allocateThread, Function.update_self] at absent
      cases absent
    · simp only [perform, ThreadManager.allocateThread, Function.update_of_ne same] at absent ⊢
      have before : other < run.manager.nextTid := by
        have bound : other < run.manager.nextTid + 1 := inside
        omega
      exact fits.gone other before absent
  · obtain ⟨item, there, joining, acquires⟩ := fits.joined caller other target
    have different : other ≠ run.manager.nextTid := by
      rintro rfl
      rw [missing] at there
      cases there
    simp only [perform, ThreadManager.allocateThread, Function.update_of_ne different]
    exact ⟨item, there, joining, acquires⟩

/-- A caller enters or leaves a point of `Join`. -/
theorem Fits.setCaller (fits : Fits run) {caller : Nat} {point : JoinPoint}
    (there : ∀ tid, point.target = some tid → ∃ entry, run.manager.records tid = some entry ∧
      entry.joining = true ∧ (point = .acquiring tid → entry.record.state = .completed))
    (alone : ∀ other tid, other ≠ caller → point.target = some tid →
      (run.callers other).target ≠ some tid) :
    Fits { run with callers := Function.update run.callers caller point } := by
  refine ⟨fits.fresh, fits.live, fits.gone, fun other tid target => ?_,
    fun first second tid left right => ?_⟩
  · by_cases same : other = caller
    · subst same
      simp only [Function.update_self] at target ⊢
      exact there tid target
    · simp only [Function.update_of_ne same] at target ⊢
      exact fits.joined other tid target
  · by_cases same : first = caller
    · by_cases same' : second = caller
      · rw [same, same']
      · simp only [same, Function.update_self, Function.update_of_ne same'] at left right
        exact (alone second tid same' left right).elim
    · by_cases same' : second = caller
      · simp only [same', Function.update_self, Function.update_of_ne same] at left right
        exact (alone first tid same right left).elim
      · simp only [Function.update_of_ne same, Function.update_of_ne same'] at left right
        exact fits.alone first second tid left right

theorem Fits.join (fits : Fits run) (caller : Nat) (gtid : GlobalThreadId cluster)
    (itself : Bool) :
    Fits (run.perform (.join caller gtid itself)).2 ∧
      Later run (run.perform (.join caller gtid itself)).2 := by
  rcases change_cases run gtid (joinBy itself) fun _ => [.accepted .join] with
    ⟨status, same, refused⟩ | ⟨entry, after, present, moved, same⟩
  · have failed : status.isOk = false := by
      rcases refused with rfl | ⟨entry, refused⟩
      · rfl
      · rw [joinBy, ThreadEntry.join] at refused
        split at refused
        · obtain rfl := Except.error.inj refused
          rfl
        · split at refused
          · obtain rfl := Except.error.inj refused
            rfl
          · split at refused
            · obtain rfl := Except.error.inj refused
              rfl
            · cases refused
    simp only [perform, same, failed, Bool.false_eq_true, if_false]
    exact ⟨fits, .of_eq rfl⟩
  · obtain ⟨keeps, ⟨joiner, rfl, joining⟩, unjoined⟩ := (fits.live _ entry present).join moved
    have changed := fits.changed present keeps
    simp only [perform, same, Status.isOk_ok, if_true]
    refine ⟨changed.setCaller (fun tid target => ?_) fun other tid _ target others => ?_,
      .put present (fun _ => keeps.forward) rfl⟩
    · obtain rfl := Option.some.inj target
      refine ⟨joiner, ?_, joining, fun point => by cases point⟩
      simp only [ThreadManager.put, Function.update_self]
    · obtain rfl := Option.some.inj target
      obtain ⟨item, there, joined, -⟩ := fits.joined other gtid.localTid others
      obtain rfl := Option.some.inj (present.symm.trans there)
      rw [unjoined] at joined
      cases joined

theorem Fits.wake (fits : Fits run) {caller : Nat}
    (performed : run.next (.wake caller) = some after) : Fits after ∧ Later run after := by
  cases point : run.callers caller with
  | idle | acquiring tid => simp [next, point] at performed
  | waiting tid =>
      simp only [next, point] at performed
      obtain ⟨entry, there, joining, -⟩ := fits.joined caller tid (by rw [point]; rfl)
      simp only [there] at performed
      split at performed
      · rename_i done
        obtain rfl := Option.some.inj performed
        refine ⟨fits.setCaller (fun other target => ?_) fun other tid' different target others =>
          ?_,
          .of_eq rfl⟩
        · obtain rfl := Option.some.inj target
          exact ⟨entry, there, joining, fun _ => done⟩
        · obtain rfl := Option.some.inj target
          exact different (fits.alone other caller tid others (by rw [point]; rfl))
      · cases performed

theorem Fits.finish (fits : Fits run) {caller : Nat} {acquired : Status}
    (performed : run.next (.finish caller acquired) = some after) :
    Fits after ∧ Later run after := by
  cases point : run.callers caller with
  | idle | waiting tid => simp [next, point] at performed
  | acquiring tid =>
      simp only [next, point] at performed
      obtain ⟨entry, there, joining, acquires⟩ := fits.joined caller tid (by rw [point]; rfl)
      have done := acquires point
      have live := fits.live tid entry there
      simp only [there] at performed
      obtain rfl := Option.some.inj performed
      have removed : Fits { run with callers := Function.update run.callers caller .idle } :=
        fits.setCaller (fun tid target => by cases target) fun _ _ _ target => by cases target
      have gone : GoneFits (run.story tid ++ [.joined acquired
          (joinStatus acquired entry.record.completion) entry.record.completion.resultValue]) := by
        refine ⟨?_, entry.record.completion, ?_, .inl ⟨?_, acquired, ?_⟩⟩
        · simp [live.allocated, RecordEvent.allocates]
        · simp [live.completed, done, RecordEvent.completion?]
        · simp [live.accepted, joining, RecordEvent.consumer?]
        · simp [live.returned, RecordEvent.returned?]
      have given : tid < run.manager.nextTid := by
        by_contra outside
        rw [(fits.fresh tid (Nat.le_of_not_lt outside)).1] at there
        cases there
      refine ⟨⟨fun other outside => ?_, fun other item found => ?_, fun other inside missing => ?_,
        fun other target joins => ?_, removed.alone⟩, .put there (fun _ none => by cases none) rfl⟩
      · have different : other ≠ tid := by
          rintro rfl
          exact absurd given (Nat.not_lt.mpr outside)
        simp only [ThreadManager.put, Function.update_of_ne different]
        exact fits.fresh other outside
      · have different : other ≠ tid := by
          rintro rfl
          simp only [ThreadManager.put, Function.update_self] at found
          cases found
        simp only [ThreadManager.put, Function.update_of_ne different] at found ⊢
        exact fits.live other item found
      · by_cases same : other = tid
        · subst same
          simp only [Function.update_self]
          exact gone
        · simp only [ThreadManager.put, Function.update_of_ne same] at missing ⊢
          exact fits.gone other inside missing
      · obtain ⟨item, here, facts⟩ := removed.joined other target joins
        have different : target ≠ tid := by
          rintro rfl
          have mine : other ≠ caller := by
            rintro rfl
            simp only [Function.update_self] at joins
            cases joins
          simp only [Function.update_of_ne mine] at joins
          exact mine (fits.alone other caller target joins (by rw [point]; rfl))
        refine ⟨item, ?_, facts⟩
        simp only [ThreadManager.put, Function.update_of_ne different]
        exact here

/-- Every step keeps records, callers and stories in agreement. -/
theorem Fits.next (fits : Fits run) {label : Label cluster}
    (performed : run.next label = some after) : Fits after ∧ Later run after := by
  cases label with
  | wake caller => exact fits.wake performed
  | finish caller acquired => exact fits.finish performed
  | call call =>
      cases call with
      | allocateThread executionHost functionId argBytes =>
          obtain rfl := Option.some.inj performed
          refine ⟨fits.allocateThread executionHost functionId argBytes, Nat.le_succ _,
            fun tid inside missing => ?_, fun tid entry entry' before later => ?_⟩
          · have different : tid ≠ run.manager.nextTid := Nat.ne_of_lt inside
            simp only [perform, ThreadManager.allocateThread, Function.update_of_ne different]
            exact missing
          · have different : tid ≠ run.manager.nextTid := by
              rintro rfl
              rw [(fits.fresh _ (Nat.le_refl _)).1] at before
              cases before
            simp only [perform, ThreadManager.allocateThread, Function.update_of_ne different]
              at later
            obtain rfl := Option.some.inj (before.symm.trans later)
            exact .refl _
      | markLaunching gtid =>
          obtain rfl := Option.some.inj performed
          refine fits.change fun entry story after live moved => ?_
          rw [List.append_nil]
          exact live.markLaunching moved
      | markRunning gtid =>
          obtain rfl := Option.some.inj performed
          refine fits.change fun entry story after live moved => ?_
          rw [List.append_nil]
          exact live.markRunning moved
      | markCompleted gtid completion =>
          obtain rfl := Option.some.inj performed
          exact fits.change fun entry story after live moved => live.markCompleted moved
      | launch gtid function =>
          obtain rfl := Option.some.inj performed
          refine fits.change fun entry story after live moved => ?_
          rw [List.append_nil]
          exact live.launch moved
      | join caller gtid itself =>
          simp only [ManagerRun.next] at performed
          split at performed
          · obtain rfl := Option.some.inj performed
            exact fits.join caller gtid itself
          · cases performed
      | detach gtid =>
          obtain rfl := Option.some.inj performed
          exact fits.change fun entry story after live moved => live.detach moved

theorem Fits.of_initial (localHost : cluster.Host) : Fits (initial localHost) :=
  ⟨fun _ _ => ⟨rfl, rfl⟩, fun _ _ found => (by cases found),
    fun _ inside => absurd inside (Nat.not_lt_zero _), fun _ _ target => (by cases target),
    fun _ _ _ target => (by cases target)⟩

/-! ## Runs -/

/-- Agreement and progress along a run. -/
theorem Fits.reaches (fits : Fits run) (execution : Run.Reaches ManagerRun.next run after) :
    Fits after ∧ Later run after := by
  refine execution.preserves (fun state => Fits state ∧ Later run state) ⟨fits, .of_eq rfl⟩ ?_
  rintro state label after ⟨stateFits, later⟩ - performed
  obtain ⟨afterFits, step⟩ := stateFits.next performed
  exact ⟨afterFits, Later.trans fits later step⟩

/-- The record that an identifier names, and what a run has done with it. -/
structure ConsumedOnce (run : ManagerRun cluster) : Prop where
  completedOnce : ∀ tid, (run.completions tid).length ≤ 1
  completion : ∀ tid entry, run.manager.records tid = some entry →
    run.completions tid =
      if entry.record.state = .completed then [entry.record.completion] else []
  /-- At most one `Join` or `Detach` is accepted. -/
  acceptedOnce : ∀ tid, (run.consumers tid).length ≤ 1
  /-- A `Join` reports the accepted completion. -/
  reported : ∀ tid acquired status result, (acquired, status, result) ∈ run.returns tid →
    ∃ completion, run.completions tid = [completion] ∧ result = completion.resultValue ∧
      status = joinStatus acquired completion
  /-- A record is removed exactly when it is completed and consumed. -/
  removed : ∀ tid, tid < run.manager.nextTid →
    (run.manager.records tid = none ↔
      run.completions tid ≠ [] ∧ (run.returns tid ≠ [] ∨ run.consumers tid = [.detach]))
  /-- Identifiers are given out once, in ascending order. -/
  identifiers : ∀ tid, run.allocations tid = if tid < run.manager.nextTid then 1 else 0
  /-- A call on a missing record fails and changes nothing. -/
  missing : ∀ call gtid, call.gtid? = some gtid →
    run.manager.find run.localHost gtid = none →
    run.perform call = (.notFound "unknown home thread", run)
  /-- The record of a waiting `Join` is there, and it belongs to no other `Join`. -/
  waiting : ∀ caller tid, (run.callers caller).target = some tid →
    (run.manager.records tid).isSome = true ∧
      ∀ other, (run.callers other).target = some tid → other = caller

theorem Fits.consumedOnce (fits : Fits run) : ConsumedOnce run := by
  have known : ∀ tid, run.story tid = [] ∧ run.manager.nextTid ≤ tid ∨
      tid < run.manager.nextTid ∧ ((∃ entry, run.manager.records tid = some entry ∧
        LiveFits entry (run.story tid)) ∨
        run.manager.records tid = none ∧ GoneFits (run.story tid)) := by
    intro tid
    by_cases inside : tid < run.manager.nextTid
    · refine .inr ⟨inside, ?_⟩
      cases found : run.manager.records tid with
      | none => exact .inr ⟨rfl, fits.gone tid inside found⟩
      | some entry => exact .inl ⟨entry, rfl, fits.live tid entry found⟩
    · have outside := Nat.le_of_not_lt inside
      exact .inl ⟨(fits.fresh tid outside).2, outside⟩
  refine ⟨fun tid => ?_, fun tid entry found => (fits.live tid entry found).completed,
    fun tid => ?_, fun tid acquired status result member => ?_, fun tid inside => ?_,
    fun tid => ?_, ?_, fun caller tid target => ?_⟩
  · rw [completions]
    rcases known tid with ⟨silent, -⟩ | ⟨-, ⟨entry, -, live⟩ | ⟨-, gone⟩⟩
    · rw [silent]
      exact Nat.zero_le _
    · rw [live.completed]
      split <;> simp
    · obtain ⟨completion, completed, -⟩ := gone.consumed
      rw [completed]
      exact Nat.le_refl _
  · rw [consumers]
    rcases known tid with ⟨silent, -⟩ | ⟨-, ⟨entry, -, live⟩ | ⟨-, gone⟩⟩
    · rw [silent]
      exact Nat.zero_le _
    · rw [live.accepted]
      split
      · exact Nat.le_refl _
      · split <;> simp
    · obtain ⟨completion, -, ⟨accepted, -⟩ | ⟨accepted, -⟩⟩ := gone.consumed
      · rw [accepted]
        exact Nat.le_refl _
      · rw [accepted]
        exact Nat.le_refl _
  · rw [returns] at member
    rcases known tid with ⟨silent, -⟩ | ⟨-, ⟨entry, -, live⟩ | ⟨-, gone⟩⟩
    · rw [silent] at member
      cases member
    · rw [live.returned] at member
      cases member
    · obtain ⟨completion, completed, ⟨-, hook, returned⟩ | ⟨-, returned⟩⟩ := gone.consumed
      · rw [returned, List.mem_singleton] at member
        obtain ⟨rfl, rfl, rfl⟩ : acquired = hook ∧ status = joinStatus hook completion ∧
            result = completion.resultValue := by simpa using member
        exact ⟨completion, completed, rfl, rfl⟩
      · rw [returned] at member
        cases member
  · rw [completions, returns, consumers]
    rcases known tid with ⟨-, outside⟩ | ⟨-, ⟨entry, found, live⟩ | ⟨found, gone⟩⟩
    · exact absurd inside (Nat.not_lt.mpr outside)
    · refine iff_of_false (by rw [found]; exact Option.some_ne_none _) ?_
      rintro ⟨done, returned | detached⟩
      · exact returned live.returned
      · rw [live.accepted] at detached
        rw [live.completed] at done
        split at detached
        · cases detached
        · split at detached
          · rename_i left
            rw [if_neg (live.unfinished left)] at done
            exact done rfl
          · cases detached
    · refine iff_of_true found ?_
      obtain ⟨completion, completed, ⟨-, hook, returned⟩ | ⟨accepted, -⟩⟩ := gone.consumed
      · rw [completed, returned]
        exact ⟨List.cons_ne_nil _ _, .inl (List.cons_ne_nil _ _)⟩
      · rw [completed, accepted]
        exact ⟨List.cons_ne_nil _ _, .inr rfl⟩
  · rw [allocations]
    rcases known tid with ⟨silent, outside⟩ | ⟨inside, ⟨entry, -, live⟩ | ⟨-, gone⟩⟩
    · rw [silent, if_neg (Nat.not_lt.mpr outside)]
      rfl
    · rw [live.allocated, if_pos inside]
    · rw [gone.allocated, if_pos inside]
  · intro call gtid names absent
    cases call with
    | allocateThread executionHost functionId argBytes => cases names
    | markLaunching | markRunning | markCompleted | launch | detach =>
        obtain rfl := Option.some.inj names
        exact change_missing absent _ _
    | join caller other itself =>
        obtain rfl := Option.some.inj names
        simp only [perform, change_missing absent, Status.isOk_notFound, Bool.false_eq_true,
          if_false]
  · obtain ⟨entry, found, -⟩ := fits.joined caller tid target
    exact ⟨by rw [found]; rfl, fun other joins => fits.alone other caller tid joins target⟩

/-- In every state of every run records were completed once and consumed once, and whatever happens
afterwards, they only move forward and never come back. -/
theorem thread_records_consumed_once {localHost : cluster.Host}
    (execution : Run.Reaches next (initial localHost) run) :
    ConsumedOnce run ∧ ∀ after, Run.Reaches next run after → Later run after := by
  have fits := ((Fits.of_initial localHost).reaches execution).1
  exact ⟨fits.consumedOnce, fun after further => (fits.reaches further).2⟩

def alone : Cluster := ⟨1, 8, Nat.one_pos, kMaxHosts_pos⟩

def onlyHost : alone.Host := ⟨0, Nat.one_pos⟩

def reportedTwice : List (Label alone) :=
  [.call (.allocateThread onlyHost 5 []), .call (.markLaunching ⟨onlyHost, 0⟩),
    .call (.launch ⟨onlyHost, 0⟩ true), .call (.join 3 ⟨onlyHost, 0⟩ false),
    .call (.markCompleted ⟨onlyHost, 0⟩ ⟨0, 7⟩), .call (.markCompleted ⟨onlyHost, 0⟩ ⟨-1, 9⟩),
    .wake 3, .finish 3 .ok]

theorem thread_records_consumed_once_reportedTwice :
    ∃ run, Run.runLabels next (initial onlyHost) reportedTwice = some run ∧
      run.manager.records 0 = none ∧ run.returns 0 = [(.ok, .ok, 7)] ∧ ConsumedOnce run := by
  have outcome : (Run.runLabels next (initial onlyHost) reportedTwice).any (fun run =>
      (run.manager.records 0).isNone ∧ run.returns 0 = [(.ok, .ok, 7)]) = true := by
    decide +kernel
  obtain ⟨run, execution, facts⟩ := (Option.any_eq_true _ _).mp outcome
  obtain ⟨missing, returned⟩ := of_decide_eq_true facts
  exact ⟨run, execution, Option.isNone_iff_eq_none.mp missing, returned,
    (thread_records_consumed_once (Run.reaches_of_runLabels execution)).1⟩

end ManagerRun
end Cxloom.LoomPar
