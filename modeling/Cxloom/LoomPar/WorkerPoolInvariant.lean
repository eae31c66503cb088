import Cxloom.Census
import Cxloom.LoomPar.WorkerPool

/-!
# Exclusive execution

In every state of every run a fiber is in the ready queue or in the hands of one worker, never both
and never twice, it stays with the first worker that took it, and its thread goes through its life
in one order: launched, resumed, retired, hooked and reported.
-/

namespace Cxloom.LoomPar

variable {cluster : Cluster} {workers : Nat}

/-! ## Records of launched threads -/

def ThreadEntry.Begun (entry : ThreadEntry cluster) : Prop :=
  entry.record.state ≠ .allocated ∧ entry.record.state ≠ .launching

namespace ThreadEntry

variable {entry after : ThreadEntry cluster}

theorem Begun.markLaunching (begun : entry.Begun) (moved : entry.markLaunching = .ok (some after)) :
    after.Begun := by
  rw [ThreadEntry.markLaunching] at moved
  split at moved
  · cases moved
  · rename_i allocated
    exact (begun.1 (not_not.mp allocated)).elim

theorem Begun.markRunning (begun : entry.Begun) (moved : entry.markRunning = .ok (some after)) :
    after.Begun := by
  rw [ThreadEntry.markRunning] at moved
  split at moved
  · obtain rfl := Option.some.inj (Except.ok.inj moved)
    exact begun
  · split at moved
    · cases moved
    · obtain rfl := Option.some.inj (Except.ok.inj moved)
      exact ⟨ThreadState.noConfusion, ThreadState.noConfusion⟩

theorem Begun.markCompleted {completion : Completion} (begun : entry.Begun)
    (moved : entry.markCompleted completion = .ok (some after)) : after.Begun := by
  rw [ThreadEntry.markCompleted] at moved
  split at moved
  · obtain rfl := Option.some.inj (Except.ok.inj moved)
    exact begun
  · split at moved
    · cases moved
    · split at moved
      · cases moved
      · obtain rfl := Option.some.inj (Except.ok.inj moved)
        exact ⟨ThreadState.noConfusion, ThreadState.noConfusion⟩

theorem Begun.join {itself : Bool} (begun : entry.Begun)
    (moved : ManagerRun.joinBy itself entry = .ok (some after)) : after.Begun := by
  rw [ManagerRun.joinBy, ThreadEntry.join] at moved
  split at moved
  · cases moved
  · split at moved
    · cases moved
    · split at moved
      · cases moved
      · obtain rfl := Option.some.inj (Except.ok.inj moved)
        exact begun

theorem Begun.detach (begun : entry.Begun) (moved : entry.detach = .ok (some after)) :
    after.Begun := by
  rw [ThreadEntry.detach] at moved
  split at moved
  · cases moved
  · split at moved
    · cases moved
    · split at moved
      · cases moved
      · obtain rfl := Option.some.inj (Except.ok.inj moved)
        exact begun

theorem Begun.requestMigration {targetHost : cluster.Host} (begun : entry.Begun)
    (moved : entry.requestMigration targetHost = .ok (some after)) : after.Begun := by
  rw [ThreadEntry.requestMigration] at moved
  split at moved
  · cases moved
  · obtain rfl := Option.some.inj (Except.ok.inj moved)
    exact begun

theorem Begun.moveMigration {source target : MigrationState} (begun : entry.Begun)
    (moved : entry.moveMigration source target = .ok (some after)) : after.Begun := by
  rw [ThreadEntry.moveMigration] at moved
  obtain same := Option.some.inj (Except.ok.inj moved)
  split at same
  · obtain rfl := same
    exact begun
  · obtain rfl := same
    exact begun

/-- `Launch` accepts a thread that is launching and has not begun. -/
theorem launchRecord_ok {function built : Bool} {changed : Option (ThreadEntry cluster)}
    (moved : WorkerPool.launchRecord function built entry = .ok changed) :
    entry.record.state = .launching ∧ ∃ after, changed = some after ∧ after.Begun := by
  rw [WorkerPool.launchRecord, ThreadEntry.launch] at moved
  split at moved
  · split at moved
    · cases moved
    · rename_i launching
      refine ⟨not_not.mp launching, ?_⟩
      split at moved
      · obtain rfl := Except.ok.inj moved
        exact ⟨_, rfl, ThreadState.noConfusion, ThreadState.noConfusion⟩
      · obtain rfl := Except.ok.inj moved
        exact ⟨_, rfl, ThreadState.noConfusion, ThreadState.noConfusion⟩
  · cases moved

end ThreadEntry

namespace ManagerRun

/-- An identifier whose thread was launched: it is not given out and not launched again. -/
def Begun (run : ManagerRun cluster) (tid : Nat) : Prop :=
  tid < run.manager.nextTid ∧ ∀ entry, run.manager.records tid = some entry → entry.Begun

variable {run after : ManagerRun cluster} {tid : Nat}

theorem Begun.of_eq (begun : run.Begun tid) (same : after.manager = run.manager) :
    after.Begun tid := by
  rw [Begun, same]
  exact begun

theorem Begun.put (begun : run.Begun tid) {other : Nat} {changed : Option (ThreadEntry cluster)}
    (keeps : ∀ entry, other = tid → changed = some entry → entry.Begun)
    (same : after.manager = run.manager.put other changed) : after.Begun tid := by
  rw [Begun, same]
  refine ⟨begun.1, fun entry found => ?_⟩
  by_cases here : tid = other
  · subst here
    simp only [ThreadManager.put, Function.update_self] at found
    exact keeps entry rfl found
  · simp only [ThreadManager.put, Function.update_of_ne here] at found
    exact begun.2 entry found

theorem Begun.change (begun : run.Begun tid) {gtid : GlobalThreadId cluster}
    {transition : ThreadEntry cluster → Except Status (Option (ThreadEntry cluster))}
    {events : ThreadEntry cluster → List RecordEvent}
    (keeps : ∀ entry after, entry.Begun → transition entry = .ok (some after) → after.Begun) :
    (run.change gtid transition events).2.Begun tid := by
  rcases change_cases run gtid transition events with
    ⟨status, same, -⟩ | ⟨entry, changed, present, moved, same⟩
  · rw [same]
    exact begun
  · rw [same]
    refine begun.put (fun item here there => ?_) rfl
    subst here there
    exact keeps entry item (begun.2 entry present) moved

/-- No step apart from a launch launches a thread, and no step allocates it again. -/
theorem Begun.next {label : Label cluster} (begun : run.Begun tid)
    (other : WorkerPool.isLaunch label = false) (performed : run.next label = some after) :
    after.Begun tid := by
  cases label with
  | wake caller =>
      simp only [ManagerRun.next] at performed
      split at performed
      · split at performed
        · cases performed
        · split at performed
          · obtain rfl := Option.some.inj performed
            exact begun
          · cases performed
      · cases performed
  | finish caller acquired =>
      simp only [ManagerRun.next] at performed
      split at performed
      · split at performed
        · cases performed
        · obtain rfl := Option.some.inj performed
          exact begun.put (fun _ _ none => by cases none) rfl
      · cases performed
  | call call =>
      cases call with
      | launch gtid function => cases other
      | allocateThread executionHost functionId argBytes =>
          obtain rfl := Option.some.inj performed
          refine ⟨begun.1.trans (Nat.lt_succ_self _), fun entry found => ?_⟩
          have different : tid ≠ run.manager.nextTid := Nat.ne_of_lt begun.1
          simp only [perform, ThreadManager.allocateThread,
            Function.update_of_ne different] at found
          exact begun.2 entry found
      | markLaunching gtid =>
          obtain rfl := Option.some.inj performed
          exact begun.change fun _ _ => ThreadEntry.Begun.markLaunching
      | markRunning gtid =>
          obtain rfl := Option.some.inj performed
          exact begun.change fun _ _ => ThreadEntry.Begun.markRunning
      | markCompleted gtid completion =>
          obtain rfl := Option.some.inj performed
          exact begun.change fun _ _ => ThreadEntry.Begun.markCompleted
      | join caller gtid itself =>
          have joined : (run.change gtid (joinBy itself) fun _ => [.accepted .join]).2.Begun tid :=
            begun.change fun _ _ => ThreadEntry.Begun.join
          simp only [ManagerRun.next, perform] at performed
          split at performed
          · obtain rfl := Option.some.inj performed
            split
            · exact joined.of_eq rfl
            · exact joined
          · cases performed
      | detach gtid =>
          obtain rfl := Option.some.inj performed
          exact begun.change fun _ _ => ThreadEntry.Begun.detach

def Given (run : ManagerRun cluster) : Prop :=
  ∀ tid entry, run.manager.records tid = some entry → tid < run.manager.nextTid

theorem Given.put (given : run.Given) {other : Nat} {entry : ThreadEntry cluster}
    {changed : Option (ThreadEntry cluster)} (present : run.manager.records other = some entry)
    (same : after.manager = run.manager.put other changed) : after.Given := by
  intro tid item found
  rw [same] at found ⊢
  by_cases here : tid = other
  · subst here
    exact given tid entry present
  · simp only [ThreadManager.put, Function.update_of_ne here] at found
    exact given tid item found

/-- What a step keeps of the records. -/
structure Follows (run after : ManagerRun cluster) : Prop where
  /-- Launched threads. -/
  begun : ∀ tid, run.Begun tid → after.Begun tid
  /-- Identifiers. -/
  given : run.Given → after.Given

theorem Follows.refl (run : ManagerRun cluster) : Follows run run := ⟨fun _ => id, id⟩

theorem Follows.change {gtid : GlobalThreadId cluster}
    {transition : ThreadEntry cluster → Except Status (Option (ThreadEntry cluster))}
    {events : ThreadEntry cluster → List RecordEvent}
    (keeps : ∀ entry after, entry.Begun → transition entry = .ok (some after) → after.Begun) :
    run.Follows (run.change gtid transition events).2 := by
  refine ⟨fun tid begun => begun.change keeps, fun given => ?_⟩
  rcases change_cases run gtid transition events with
    ⟨status, same, -⟩ | ⟨entry, changed, present, moved, same⟩
  · rw [same]
    exact given
  · rw [same]
    exact given.put present rfl

theorem Follows.next {label : Label cluster} (other : WorkerPool.isLaunch label = false)
    (performed : run.next label = some after) : run.Follows after := by
  refine ⟨fun tid begun => begun.next other performed, fun given => ?_⟩
  cases label with
  | wake caller =>
      simp only [ManagerRun.next] at performed
      split at performed
      · split at performed
        · cases performed
        · split at performed
          · obtain rfl := Option.some.inj performed
            exact given
          · cases performed
      · cases performed
  | finish caller acquired =>
      simp only [ManagerRun.next] at performed
      split at performed
      · split at performed
        · cases performed
        · rename_i present
          obtain rfl := Option.some.inj performed
          exact given.put present rfl
      · cases performed
  | call call =>
      cases call with
      | launch gtid function => cases other
      | allocateThread executionHost functionId argBytes =>
          obtain rfl := Option.some.inj performed
          intro tid entry found
          by_cases here : tid = run.manager.nextTid
          · exact here ▸ Nat.lt_succ_self _
          · simp only [perform, ThreadManager.allocateThread, Function.update_of_ne here] at found
            exact (given tid entry found).trans (Nat.lt_succ_self _)
      | markLaunching gtid =>
          obtain rfl := Option.some.inj performed
          exact (Follows.change fun _ _ => ThreadEntry.Begun.markLaunching).given given
      | markRunning gtid =>
          obtain rfl := Option.some.inj performed
          exact (Follows.change fun _ _ => ThreadEntry.Begun.markRunning).given given
      | markCompleted gtid completion =>
          obtain rfl := Option.some.inj performed
          exact (Follows.change fun _ _ => ThreadEntry.Begun.markCompleted).given given
      | join caller gtid itself =>
          have joined : (run.change gtid (joinBy itself) fun _ => [.accepted .join]).2.Given :=
            (Follows.change fun _ _ => ThreadEntry.Begun.join).given given
          simp only [ManagerRun.next, perform] at performed
          split at performed
          · obtain rfl := Option.some.inj performed
            split
            · exact joined
            · exact joined
          · cases performed
      | detach gtid =>
          obtain rfl := Option.some.inj performed
          exact (Follows.change fun _ _ => ThreadEntry.Begun.detach).given given

end ManagerRun

/-! ## Places of a thread -/

namespace WorkerPool

variable {pool after : WorkerPool cluster workers} {tid : Nat} {worker : Fin workers}

/-- What has happened to a launched thread. -/
def storyOf (resumes : List (Fin workers)) (tail : List (FiberEvent workers)) :
    List (FiberEvent workers) :=
  .launched :: resumes.map .resumed ++ tail

/-- The last events of a thread that a worker has stopped counting. -/
def lastEvents (completion : Completion) : List (FiberEvent workers) :=
  [.retired, .hooked, .reported completion]

/-- Where a thread is, and what has happened to it. -/
inductive Standing (pool : WorkerPool cluster workers) (tid : Nat) : Prop
  /-- It was not launched. -/
  | unlaunched (story : pool.story tid = []) (missing : (pool.entries tid).fiber = none)
      (unpinned : (pool.entries tid).worker = none) (flag : (pool.entries tid).queued = false)
      (absent : tid ∉ pool.ready) (unheld : ∀ worker, (pool.points worker).task ≠ some tid)
  | queued (resumes : List (Fin workers)) (fiber : Fiber)
      (story : pool.story tid = storyOf resumes [])
      (pinned : ∀ worker ∈ resumes, (pool.entries tid).worker = some worker)
      (built : (pool.entries tid).fiber = some fiber) (undone : fiber.done = false)
      (flag : (pool.entries tid).queued = true)
      (member : tid ∈ pool.ready) (unheld : ∀ worker, (pool.points worker).task ≠ some tid)
  | held (worker : Fin workers) (resumes : List (Fin workers))
      (story : pool.story tid = storyOf resumes [])
      (pinned : ∀ worker ∈ resumes, (pool.entries tid).worker = some worker)
      (owner : (pool.entries tid).worker = some worker)
      (built : pool.points worker ≠ .destroyed tid → ∃ fiber,
        (pool.entries tid).fiber = some fiber ∧
          (fiber.done = true → ∃ resumed, pool.points worker = .returned tid resumed))
      (destroyed : pool.points worker = .destroyed tid → (pool.entries tid).fiber = none)
      (flag : (pool.entries tid).queued = false)
      (absent : tid ∉ pool.ready)
      (holder : ∀ other, (pool.points other).task = some tid ↔ other = worker)
      (executes : (pool.points worker).executes = true)
  | leaving (worker : Fin workers) (resumes : List (Fin workers))
      (tail : List (FiberEvent workers)) (story : pool.story tid = storyOf resumes tail)
      (pinned : ∀ worker ∈ resumes, (pool.entries tid).worker = some worker)
      (step : pool.points worker = .retired tid ∧ tail = [.retired] ∨
        pool.points worker = .hooked tid ∧ tail = [.retired, .hooked])
      (destroyed : (pool.entries tid).fiber = none)
      (flag : (pool.entries tid).queued = false)
      (absent : tid ∉ pool.ready)
      (holder : ∀ other, (pool.points other).task = some tid ↔ other = worker)
  /-- It is over. -/
  | ended (resumes : List (Fin workers))
      (story : pool.story tid = storyOf resumes (lastEvents (pool.entries tid).outcome))
      (pinned : ∀ worker ∈ resumes, (pool.entries tid).worker = some worker)
      (destroyed : (pool.entries tid).fiber = none)
      (flag : (pool.entries tid).queued = false)
      (absent : tid ∉ pool.ready) (unheld : ∀ worker, (pool.points worker).task ≠ some tid)

/-- What a step on one thread keeps of the others. -/
structure Frames (before after : WorkerPool cluster workers) (tid : Nat) : Prop where
  entries : ∀ other, other ≠ tid → after.entries other = before.entries other
  story : ∀ other, other ≠ tid → after.story other = before.story other
  /-- Whether they are queued. -/
  ready : ∀ other, other ≠ tid → (other ∈ after.ready ↔ other ∈ before.ready)
  points : ∀ worker, after.points worker = before.points worker ∨
    ∀ other, other ≠ tid → (before.points worker).task ≠ some other ∧
      (after.points worker).task ≠ some other

theorem Frames.task (frames : Frames pool after tid) {other : Nat} (different : other ≠ tid)
    (worker : Fin workers) :
    (after.points worker).task = some other ↔ (pool.points worker).task = some other := by
  rcases frames.points worker with same | moved
  · rw [same]
  · exact iff_of_false (moved other different).2 (moved other different).1

/-- A worker moves within the thread that it works on. -/
theorem Frames.points_of_update {point : WorkerPoint}
    (points : after.points = Function.update pool.points worker point)
    (before : (pool.points worker).task = none ∨ (pool.points worker).task = some tid)
    (later : point.task = none ∨ point.task = some tid) (each : Fin workers) :
    after.points each = pool.points each ∨
      ∀ other, other ≠ tid → (pool.points each).task ≠ some other ∧
        (after.points each).task ≠ some other := by
  by_cases here : each = worker
  · subst here
    refine .inr fun other different => ⟨fun task => ?_, fun task => ?_⟩
    · rcases before with none | mine
      · rw [task] at none
        cases none
      · exact different (Option.some.inj (task.symm.trans mine))
    · rw [points, Function.update_self] at task
      rcases later with none | mine
      · rw [task] at none
        cases none
      · exact different (Option.some.inj (task.symm.trans mine))
  · exact .inl (by rw [points, Function.update_of_ne here])

/-- The other threads stay where they are. -/
theorem Standing.frame {other : Nat} (standing : Standing pool other)
    (frames : Frames pool after tid) (different : other ≠ tid) : Standing after other := by
  have entry := frames.entries other different
  have task := fun worker => frames.task different worker
  have queue := frames.ready other different
  have still : ∀ worker, (pool.points worker).task = some other →
      after.points worker = pool.points worker := by
    intro worker mine
    exact (frames.points worker).resolve_right fun moved => (moved other different).1 mine
  cases standing with
  | unlaunched story missing unpinned flag absent unheld =>
      refine .unlaunched ?_ ?_ ?_ ?_ ?_ ?_
      · rw [frames.story other different, story]
      · rw [entry, missing]
      · rw [entry, unpinned]
      · rw [entry, flag]
      · rwa [queue]
      · exact fun worker mine => unheld worker ((task worker).mp mine)
  | queued resumes fiber story pinned built undone flag member unheld =>
      refine .queued resumes fiber ?_ ?_ ?_ undone ?_ ?_ ?_
      · rw [frames.story other different, story]
      · rwa [entry]
      · rw [entry, built]
      · rw [entry, flag]
      · rwa [queue]
      · exact fun worker mine => unheld worker ((task worker).mp mine)
  | held worker resumes story pinned owner built destroyed flag absent holder executes =>
      have same := still worker ((holder worker).mpr rfl)
      refine .held worker resumes ?_ ?_ ?_ ?_ ?_ ?_ ?_ ?_ ?_
      · rw [frames.story other different, story]
      · rwa [entry]
      · rw [entry, owner]
      · rwa [entry, same]
      · rwa [entry, same]
      · rw [entry, flag]
      · rwa [queue]
      · exact fun each => (task each).trans (holder each)
      · rw [same, executes]
  | leaving worker resumes tail story pinned step destroyed flag absent holder =>
      have same := still worker ((holder worker).mpr rfl)
      refine .leaving worker resumes tail ?_ ?_ ?_ ?_ ?_ ?_ ?_
      · rw [frames.story other different, story]
      · rwa [entry]
      · rwa [same]
      · rw [entry, destroyed]
      · rw [entry, flag]
      · rwa [queue]
      · exact fun each => (task each).trans (holder each)
  | ended resumes story pinned destroyed flag absent unheld =>
      refine .ended resumes ?_ ?_ ?_ ?_ ?_ ?_
      · rw [frames.story other different, entry, story]
      · rwa [entry]
      · rw [entry, destroyed]
      · rw [entry, flag]
      · rwa [queue]
      · exact fun worker mine => unheld worker ((task worker).mp mine)

/-! ## The invariant -/

/-- Number of workers whose fiber counts as executing. -/
def busy (points : Fin workers → WorkerPoint) : Nat :=
  ∑ worker, (points worker).executes.toNat

theorem busy_update (points : Fin workers → WorkerPoint) (worker : Fin workers)
    (point : WorkerPoint) :
    busy (Function.update points worker point) + (points worker).executes.toNat =
      busy points + point.executes.toNat :=
  Census.sum_update (fun point : WorkerPoint => point.executes.toNat) points worker point

/-- Threads, queue, workers and counts agree. -/
structure Sound (pool : WorkerPool cluster workers) : Prop where
  /-- Every thread is somewhere. -/
  standing : ∀ tid, Standing pool tid
  /-- Records have identifiers that were given out. -/
  given : pool.run.Given
  /-- The records of launched threads. -/
  begun : ∀ tid, pool.story tid ≠ [] → pool.run.Begun tid
  /-- No fiber is queued twice. -/
  nodup : pool.ready.Nodup
  /-- The count is right. -/
  executing : pool.executing = busy pool.points
  /-- Fibers stay with the worker that took them. -/
  picks : ∀ worker tid, (worker, tid) ∈ pool.picks → (pool.entries tid).worker = some worker

theorem holder_of_update {point : WorkerPoint}
    (points : after.points = Function.update pool.points worker point)
    (task : point.task = some tid)
    (alone : ∀ other, (pool.points other).task = some tid → other = worker) (other : Fin workers) :
    (after.points other).task = some tid ↔ other = worker := by
  rw [points]
  by_cases here : other = worker
  · rw [here, Function.update_self]
    exact iff_of_true task rfl
  · rw [Function.update_of_ne here]
    exact iff_of_false (fun mine => here (alone other mine)) here

theorem unheld_of_update {point : WorkerPoint}
    (points : after.points = Function.update pool.points worker point)
    (task : point.task = none)
    (alone : ∀ other, (pool.points other).task = some tid → other = worker) (other : Fin workers) :
    (after.points other).task ≠ some tid := by
  rw [points]
  by_cases here : other = worker
  · rw [here, Function.update_self, task]
    exact Option.some_ne_none tid |>.symm
  · rw [Function.update_of_ne here]
    exact fun mine => here (alone other mine)

/-- The standing of a thread whose fiber counts as executing. -/
theorem Sound.held (sound : Sound pool) (mine : (pool.points worker).task = some tid)
    (executes : (pool.points worker).executes = true) :
    ∃ resumes, pool.story tid = storyOf resumes [] ∧
      (∀ other ∈ resumes, (pool.entries tid).worker = some other) ∧
      (pool.entries tid).worker = some worker ∧
      (pool.points worker ≠ .destroyed tid → ∃ fiber, (pool.entries tid).fiber = some fiber ∧
        (fiber.done = true → ∃ resumed, pool.points worker = .returned tid resumed)) ∧
      (pool.points worker = .destroyed tid → (pool.entries tid).fiber = none) ∧
      (pool.entries tid).queued = false ∧ tid ∉ pool.ready ∧
      ∀ other, (pool.points other).task = some tid ↔ other = worker := by
  cases sound.standing tid with
  | unlaunched _ _ _ _ _ unheld
  | queued _ _ _ _ _ _ _ _ unheld | ended _ _ _ _ _ _ unheld => exact (unheld worker mine).elim
  | held other resumes story pinned owner built destroyed flag absent holder _ =>
      obtain rfl := (holder worker).mp mine
      exact ⟨resumes, story, pinned, owner, built, destroyed, flag, absent, holder⟩
  | leaving other _ _ _ _ step _ _ _ holder =>
      obtain rfl := (holder worker).mp mine
      rcases step with ⟨point, -⟩ | ⟨point, -⟩
      · rw [point] at executes
        cases executes
      · rw [point] at executes
        cases executes

/-- A step on one thread. -/
theorem Sound.step (sound : Sound pool) (tid : Nat) (frames : Frames pool after tid)
    (standing : Standing after tid) (follows : pool.run.Follows after.run)
    (launched : after.story tid ≠ [] → after.run.Begun tid) (nodup : after.ready.Nodup)
    (executing : after.executing = busy after.points)
    (picks : ∀ worker other, (worker, other) ∈ after.picks →
      (worker, other) ∈ pool.picks ∨ other = tid)
    (pinned : ∀ worker, (worker, tid) ∈ after.picks → (after.entries tid).worker = some worker) :
    Sound after := by
  refine ⟨fun other => ?_, follows.given sound.given, fun other some => ?_, nodup, executing,
    fun worker other member => ?_⟩
  · by_cases here : other = tid
    · subst here
      exact standing
    · exact (sound.standing other).frame frames here
  · by_cases here : other = tid
    · subst here
      exact launched some
    · rw [frames.story other here] at some
      exact follows.begun other (sound.begun other some)
  · by_cases here : other = tid
    · subst here
      exact pinned worker member
    · rw [frames.entries other here]
      exact sound.picks worker other ((picks worker other member).resolve_right here)

/-- A worker changes the fiber that it has taken. -/
theorem Sound.hold (sound : Sound pool) (mine : (pool.points worker).task = some tid)
    (executes : (pool.points worker).executes = true) {entry : FiberEntry workers}
    (point : WorkerPoint) (resumed : List (Fin workers))
    (entries : after.entries = Function.update pool.entries tid entry)
    (points : after.points = Function.update pool.points worker point)
    (story : after.story =
      Function.update pool.story tid (pool.story tid ++ resumed.map .resumed))
    (ready : after.ready = pool.ready) (executing : after.executing = pool.executing)
    (picks : after.picks = pool.picks)
    (follows : pool.run.Follows after.run)
    (mineOnly : ∀ other ∈ resumed, other = worker)
    (owner : entry.worker = (pool.entries tid).worker)
    (flag : entry.queued = (pool.entries tid).queued) (task : point.task = some tid)
    (still : point.executes = true)
    (built : point ≠ .destroyed tid → ∃ fiber, entry.fiber = some fiber ∧
      (fiber.done = true → ∃ switched, point = .returned tid switched))
    (destroyed : point = .destroyed tid → entry.fiber = none) : Sound after := by
  obtain ⟨resumes, told, pinned, mineOwner, -, -, flagged, absent, holder⟩ :=
    sound.held mine executes
  have here : after.entries tid = entry := by rw [entries, Function.update_self]
  have there : after.points worker = point := by rw [points, Function.update_self]
  have alone := fun other => (holder other).mp
  have launched : pool.story tid ≠ [] := by
    rw [told]
    exact List.cons_ne_nil _ _
  refine sound.step tid ⟨?_, ?_, ?_, ?_⟩ ?_ follows
    (fun _ => follows.begun tid (sound.begun tid launched)) (ready ▸ sound.nodup) ?_ ?_ ?_
  · exact fun other different => by rw [entries, Function.update_of_ne different]
  · exact fun other different => by rw [story, Function.update_of_ne different]
  · exact fun other _ => by rw [ready]
  · exact Frames.points_of_update points (.inr mine) (.inr task)
  · refine .held worker (resumes ++ resumed) ?_ ?_ ?_ ?_ ?_ ?_ ?_ ?_ ?_
    · rw [story, Function.update_self, told]
      simp [storyOf]
    · intro other member
      rw [here, owner]
      rcases List.mem_append.mp member with old | new
      · exact pinned other old
      · rw [mineOnly other new, mineOwner]
    · rw [here, owner, mineOwner]
    · rw [here, there]
      exact built
    · rw [here, there]
      exact destroyed
    · rw [here, flag, flagged]
    · rwa [ready]
    · exact holder_of_update points task alone
    · rw [there, still]
  · have count := busy_update pool.points worker point
    rw [executes, still] at count
    rw [executing, sound.executing, points]
    omega
  · intro each other member
    rw [picks] at member
    exact .inl member
  · intro each member
    rw [picks] at member
    rw [here, owner]
    exact sound.picks each tid member

/-! ## Actions of workers -/

theorem Sound.take (sound : Sound pool) {ready : List Nat}
    (point : pool.points worker = .searching)
    (taken : ReadyQueue.take (pool.eligible worker) pool.ready = some (tid, ready)) :
    Sound (pool.take worker tid ready) := by
  obtain ⟨absent, nodup⟩ := ReadyQueue.take_nodup taken sound.nodup
  have suits := ReadyQueue.take_eligible taken
  have idle : (pool.points worker).task = none := by rw [point]; rfl
  have here : (pool.take worker tid ready).entries tid = (pool.entries tid).assign worker :=
    Function.update_self _ _ _
  have mine : ∀ other, (pool.entries tid).worker = some other → other = worker := by
    intro other owner
    rw [eligible, owner] at suits
    simpa using (Bool.and_eq_true_iff.mp suits).1
  cases sound.standing tid with
  | unlaunched _ _ _ _ missing _
  | held _ _ _ _ _ _ _ _ missing _ _ => exact (missing (ReadyQueue.take_mem taken)).elim
  | leaving _ _ _ _ _ _ _ _ missing _
  | ended _ _ _ _ _ missing _ => exact (missing (ReadyQueue.take_mem taken)).elim
  | queued resumes fiber story pinned built undone flag member unheld =>
      have launched : pool.story tid ≠ [] := by
        rw [story]
        exact List.cons_ne_nil _ _
      refine sound.step tid ⟨?_, fun _ _ => rfl, ?_, ?_⟩ ?_ (.refl _)
        (fun _ => sound.begun tid launched) nodup ?_ ?_ ?_
      · exact fun other different => Function.update_of_ne different _ _
      · exact fun other different => ReadyQueue.take_mem_iff taken different
      · exact Frames.points_of_update rfl (.inl idle) (.inr rfl)
      · have there : (pool.take worker tid ready).points worker = .picked tid :=
          Function.update_self _ _ _
        refine .held worker resumes story ?_ ?_ ?_ ?_ ?_ absent ?_ ?_
        · intro other member
          rw [here, mine other (pinned other member)]
          rfl
        · rw [here]
          rfl
        · intro _
          rw [here, FiberEntry.assign, built]
          refine ⟨_, rfl, fun done => ?_⟩
          rw [show fiber.done = true from done] at undone
          cases undone
        · rw [there]
          exact fun destroyed => by cases destroyed
        · rw [here]
          rfl
        · exact holder_of_update rfl rfl fun other task => (unheld other task).elim
        · rw [there]
          rfl
      · have count := busy_update pool.points worker (.picked tid)
        rw [point] at count
        have total :
          pool.executing + 1 = busy (Function.update pool.points worker (.picked tid)) := by
          rw [sound.executing]
          exact count.symm
        exact total
      · intro each other member
        rcases List.mem_append.mp member with old | new
        · exact .inl old
        · exact .inr (Prod.mk.inj (List.mem_singleton.mp new)).2
      · intro each member
        rw [here]
        rcases List.mem_append.mp member with old | new
        · rw [mine each (sound.picks each tid old)]
          rfl
        · rw [(Prod.mk.inj (List.mem_singleton.mp new)).1]
          rfl

/-- A step on no thread. -/
theorem Sound.quiet (sound : Sound pool) (frames : ∀ tid, Frames pool after tid)
    (follows : pool.run.Follows after.run) (nodup : after.ready.Nodup)
    (executing : after.executing = busy after.points) (picks : after.picks = pool.picks) :
    Sound after := by
  have elsewhere : ∀ tid : Nat, tid ≠ tid + 1 := fun tid => Nat.ne_of_lt (Nat.lt_succ_self tid)
  refine ⟨fun tid => (sound.standing tid).frame (frames (tid + 1)) (elsewhere tid),
    follows.given sound.given, fun tid launched => ?_, nodup, executing, fun worker tid member =>
      ?_⟩
  · rw [(frames (tid + 1)).story tid (elsewhere tid)] at launched
    exact follows.begun tid (sound.begun tid launched)
  · rw [(frames (tid + 1)).entries tid (elsewhere tid)]
    exact sound.picks worker tid (picks ▸ member)

theorem Sound.exit (sound : Sound pool) (point : pool.points worker = .searching) :
    Sound (pool.goto worker .exited) := by
  have idle : (pool.points worker).task = none := by rw [point]; rfl
  have count := busy_update pool.points worker .exited
  rw [point] at count
  exact sound.quiet (fun tid => ⟨fun _ _ => rfl, fun _ _ => rfl, fun _ _ => Iff.rfl,
    Frames.points_of_update rfl (.inl idle) (.inl rfl)⟩) (.refl _) sound.nodup
    (sound.executing.trans count.symm) rfl

/-- Nothing but the records changes. -/
theorem Sound.setRun (sound : Sound pool) {run : ManagerRun cluster}
    (follows : pool.run.Follows run) : Sound { pool with run := run } :=
  sound.quiet (fun _ => ⟨fun _ _ => rfl, fun _ _ => rfl, fun _ _ => Iff.rfl, fun _ => .inl rfl⟩)
    follows sound.nodup sound.executing rfl

theorem follows_moveMigration {source target : MigrationState} :
    pool.run.Follows (pool.moveMigration tid source target).run :=
  .change fun _ _ => ThreadEntry.Begun.moveMigration

theorem no_event (tid : Nat) : pool.story =
    Function.update pool.story tid (pool.story tid ++ [].map .resumed) := by
  rw [List.map_nil, List.append_nil, Function.update_eq_self]

theorem Sound.resume (sound : Sound pool) {fiber : Fiber} (switched : Bool)
    (point : pool.points worker = .picked tid)
    (there : (pool.entries tid).fiber = some fiber) :
    Sound (pool.resume worker tid fiber switched) := by
  have mine : (pool.points worker).task = some tid := by rw [point]; rfl
  have executes : (pool.points worker).executes = true := by rw [point]; rfl
  obtain ⟨-, -, -, -, built, -⟩ := sound.held mine executes
  obtain ⟨same, found, undone⟩ := built (by rw [point]; exact WorkerPoint.noConfusion)
  obtain rfl := Option.some.inj (there.symm.trans found)
  have unfinished : fiber.done = false := Bool.eq_false_iff.mpr fun done => by
    obtain ⟨_, returned⟩ := undone done
    rw [point] at returned
    cases returned
  rw [WorkerPool.resume, unfinished, if_neg Bool.false_ne_true]
  split
  · refine sound.hold mine executes _ [worker] rfl rfl rfl rfl rfl rfl (.refl _) ?_
      rfl rfl rfl rfl ?_ ?_
    · exact fun other member => List.mem_singleton.mp member
    · exact fun _ => ⟨_, rfl, fun done => by cases done⟩
    · exact fun destroyed => by cases destroyed
  · refine sound.hold mine executes _ _ rfl rfl (no_event tid) rfl rfl rfl (.refl _) ?_
      rfl rfl rfl rfl ?_ ?_
    · exact fun other member => by cases member
    · exact fun _ => ⟨_, rfl, fun _ => ⟨false, rfl⟩⟩
    · exact fun destroyed => by cases destroyed

/-- The fiber of a thread whose worker is on its stack. -/
theorem Sound.running (sound : Sound pool) (point : pool.points worker = .running tid) :
    ∃ fiber, (pool.entries tid).fiber = some fiber ∧ fiber.done = false := by
  have mine : (pool.points worker).task = some tid := by rw [point]; rfl
  have executes : (pool.points worker).executes = true := by rw [point]; rfl
  obtain ⟨-, -, -, -, built, -⟩ := sound.held mine executes
  obtain ⟨fiber, found, undone⟩ := built (by rw [point]; exact WorkerPoint.noConfusion)
  refine ⟨fiber, found, Bool.eq_false_iff.mpr fun done => ?_⟩
  obtain ⟨_, returned⟩ := undone done
  rw [point] at returned
  cases returned

theorem Sound.setResult (sound : Sound pool) (value : UInt64)
    (point : pool.points worker = .running tid) :
    Sound (pool.modify tid (.setResult value)) := by
  have mine : (pool.points worker).task = some tid := by rw [point]; rfl
  have executes : (pool.points worker).executes = true := by rw [point]; rfl
  obtain ⟨fiber, found, undone⟩ := sound.running point
  refine sound.hold mine executes (.running tid) _ rfl ?_ (no_event tid) rfl rfl rfl (.refl _)
    ?_ rfl rfl rfl rfl ?_ ?_
  · rw [← point, Function.update_eq_self]
    rfl
  · exact fun other member => by cases member
  · exact fun _ => ⟨fiber, found, fun done => by rw [undone] at done; cases done⟩
  · exact fun destroyed => by cases destroyed

/-- The fiber switches back. -/
theorem Sound.yield (sound : Sound pool) {fiber : Fiber} {entry : FiberEntry workers}
    (point : pool.points worker = .running tid)
    (entries : after.entries = Function.update pool.entries tid entry)
    (points : after.points = Function.update pool.points worker (.returned tid true))
    (story : after.story = pool.story) (ready : after.ready = pool.ready)
    (executing : after.executing = pool.executing) (picks : after.picks = pool.picks)
    (follows : pool.run.Follows after.run)
    (owner : entry.worker = (pool.entries tid).worker)
    (flag : entry.queued = (pool.entries tid).queued) (built : entry.fiber = some fiber) :
    Sound after := by
  have mine : (pool.points worker).task = some tid := by rw [point]; rfl
  have executes : (pool.points worker).executes = true := by rw [point]; rfl
  refine sound.hold mine executes _ _ entries points
    (story.trans (no_event tid)) ready executing picks
    follows ?_ owner flag rfl rfl ?_ ?_
  · exact fun other member => by cases member
  · exact fun _ => ⟨fiber, built, fun _ => ⟨true, rfl⟩⟩
  · exact fun destroyed => by cases destroyed

theorem Sound.destroy (sound : Sound pool) {resumed : Bool}
    (point : pool.points worker = .returned tid resumed) :
    Sound ((pool.modify tid (.destroy resumed)).goto worker (.destroyed tid)) := by
  have mine : (pool.points worker).task = some tid := by rw [point]; rfl
  have executes : (pool.points worker).executes = true := by rw [point]; rfl
  refine sound.hold mine executes _ _ rfl rfl (no_event tid) rfl rfl rfl (.refl _) ?_
    rfl rfl rfl rfl ?_ ?_
  · exact fun other member => by cases member
  · exact fun different => (different rfl).elim
  · exact fun _ => rfl

theorem Sound.requeue (sound : Sound pool) {resumed : Bool}
    (point : pool.points worker = .returned tid resumed)
    (undone : (pool.entries tid).fiber.any Fiber.done = false) :
    Sound (pool.requeue worker tid) := by
  have mine : (pool.points worker).task = some tid := by rw [point]; rfl
  have executes : (pool.points worker).executes = true := by rw [point]; rfl
  obtain ⟨resumes, story, pinned, owner, built, -, flag, absent, holder⟩ :=
    sound.held mine executes
  obtain ⟨fiber, found, -⟩ := built (by rw [point]; exact WorkerPoint.noConfusion)
  have here : (pool.requeue worker tid).entries tid =
      { pool.entries tid with queued := true } := Function.update_self _ _ _
  have launched : pool.story tid ≠ [] := by
    rw [story]
    exact List.cons_ne_nil _ _
  have count := busy_update pool.points worker .searching
  rw [executes] at count
  refine sound.step tid ⟨?_, fun _ _ => rfl, ?_, ?_⟩ ?_
    follows_moveMigration
    (fun _ => follows_moveMigration.begun tid (sound.begun tid launched))
    ?_ ?_ (fun _ _ => .inl) ?_
  · exact fun other different => Function.update_of_ne different _ _
  · intro other different
    exact List.mem_append.trans (or_iff_left fun last => different (List.mem_singleton.mp last))
  · exact Frames.points_of_update rfl (.inr mine) (.inl rfl)
  · refine .queued resumes fiber story ?_ ?_ ?_ ?_ ?_ ?_
    · rw [here]
      exact pinned
    · rw [here, found]
    · rw [found] at undone
      exact undone
    · rw [here]
    · exact List.mem_append_right _ (List.mem_singleton_self tid)
    · exact unheld_of_update rfl rfl fun other => (holder other).mp
  · exact sound.nodup.append (List.nodup_singleton tid)
      (List.disjoint_singleton.mpr absent)
  · have total : pool.executing - 1 = busy (Function.update pool.points worker .searching) := by
      rw [sound.executing]
      have one : (true : Bool).toNat = 1 := rfl
      have zero : WorkerPoint.searching.executes.toNat = 0 := rfl
      omega
    exact total
  · intro each member
    rw [here]
    exact sound.picks each tid member

theorem Sound.retire (sound : Sound pool) (point : pool.points worker = .destroyed tid) :
    Sound { (pool.note tid .retired).goto worker (.retired tid) with
      executing := pool.executing - 1 } := by
  have mine : (pool.points worker).task = some tid := by rw [point]; rfl
  have executes : (pool.points worker).executes = true := by rw [point]; rfl
  obtain ⟨resumes, story, pinned, owner, -, destroyed, flag, absent, holder⟩ :=
    sound.held mine executes
  have launched : pool.story tid ≠ [] := by
    rw [story]
    exact List.cons_ne_nil _ _
  have count := busy_update pool.points worker (.retired tid)
  rw [executes] at count
  refine sound.step tid ⟨fun _ _ => rfl, ?_, fun _ _ => Iff.rfl, ?_⟩ ?_ (.refl _)
    (fun _ => sound.begun tid launched) sound.nodup ?_ (fun _ _ => .inl)
    fun each member => sound.picks each tid member
  · exact fun other different => Function.update_of_ne different _ _
  · exact Frames.points_of_update rfl (.inr mine) (.inr rfl)
  · refine .leaving worker resumes [.retired] ?_ pinned
      (.inl ⟨Function.update_self _ _ _, rfl⟩) (destroyed point) flag absent
      (holder_of_update rfl rfl fun other => (holder other).mp)
    show Function.update pool.story tid (pool.story tid ++ [.retired]) tid = _
    rw [Function.update_self, story, storyOf, List.append_nil, storyOf]
  · have total : pool.executing - 1 = busy (Function.update pool.points worker (.retired tid)) := by
      rw [sound.executing]
      have one : (true : Bool).toNat = 1 := rfl
      have zero : (WorkerPoint.retired tid).executes.toNat = 0 := rfl
      omega
    exact total

/-- The standing of a thread whose worker completes it. -/
theorem Sound.leaving (sound : Sound pool) (mine : (pool.points worker).task = some tid)
    (executes : (pool.points worker).executes = false) :
    ∃ resumes tail, pool.story tid = storyOf resumes tail ∧
      (∀ other ∈ resumes, (pool.entries tid).worker = some other) ∧
      (pool.points worker = .retired tid ∧ tail = [.retired] ∨
        pool.points worker = .hooked tid ∧ tail = [.retired, .hooked]) ∧
      (pool.entries tid).fiber = none ∧ (pool.entries tid).queued = false ∧ tid ∉ pool.ready ∧
      ∀ other, (pool.points other).task = some tid ↔ other = worker := by
  cases sound.standing tid with
  | unlaunched _ _ _ _ _ unheld
  | queued _ _ _ _ _ _ _ _ unheld | ended _ _ _ _ _ _ unheld => exact (unheld worker mine).elim
  | held other _ _ _ _ _ _ _ _ holder holds =>
      obtain rfl := (holder worker).mp mine
      rw [executes] at holds
      cases holds
  | leaving other resumes tail story pinned step destroyed flag absent holder =>
      obtain rfl := (holder worker).mp mine
      exact ⟨resumes, tail, story, pinned, step, destroyed, flag, absent, holder⟩

theorem Sound.hook (sound : Sound pool) (point : pool.points worker = .retired tid) :
    Sound ((pool.note tid .hooked).goto worker (.hooked tid)) := by
  have mine : (pool.points worker).task = some tid := by rw [point]; rfl
  have executes : (pool.points worker).executes = false := by rw [point]; rfl
  obtain ⟨resumes, tail, story, pinned, step, destroyed, flag, absent, holder⟩ :=
    sound.leaving mine executes
  obtain ⟨-, rfl⟩ := step.resolve_right fun other => by
    rw [point] at other
    cases other.1
  have launched : pool.story tid ≠ [] := by
    rw [story]
    exact List.cons_ne_nil _ _
  have count := busy_update pool.points worker (.hooked tid)
  rw [executes] at count
  refine sound.step tid ⟨fun _ _ => rfl, ?_, fun _ _ => Iff.rfl, ?_⟩ ?_ (.refl _)
    (fun _ => sound.begun tid launched) sound.nodup (sound.executing.trans count.symm)
    (fun _ _ => .inl) fun each member => sound.picks each tid member
  · exact fun other different => Function.update_of_ne different _ _
  · exact Frames.points_of_update rfl (.inr mine) (.inr rfl)
  · refine .leaving worker resumes [.retired, .hooked] ?_ pinned
      (.inr ⟨Function.update_self _ _ _, rfl⟩) destroyed flag absent
      (holder_of_update rfl rfl fun other => (holder other).mp)
    show Function.update pool.story tid (pool.story tid ++ [.hooked]) tid = _
    rw [Function.update_self, story]
    simp [storyOf]

theorem Sound.report (sound : Sound pool) (point : pool.points worker = .hooked tid) :
    Sound { (pool.note tid (.reported (pool.entries tid).outcome)).goto worker .searching with
      run := (pool.run.perform (.markCompleted ⟨pool.run.localHost, tid⟩
        (pool.entries tid).outcome)).2 } := by
  have mine : (pool.points worker).task = some tid := by rw [point]; rfl
  have executes : (pool.points worker).executes = false := by rw [point]; rfl
  obtain ⟨resumes, tail, story, pinned, step, destroyed, flag, absent, holder⟩ :=
    sound.leaving mine executes
  obtain ⟨-, rfl⟩ := step.resolve_left fun other => by
    rw [point] at other
    cases other.1
  have launched : pool.story tid ≠ [] := by
    rw [story]
    exact List.cons_ne_nil _ _
  have follows : pool.run.Follows (pool.run.perform
      (.markCompleted ⟨pool.run.localHost, tid⟩ (pool.entries tid).outcome)).2 :=
    .change fun _ _ => ThreadEntry.Begun.markCompleted
  have count := busy_update pool.points worker .searching
  rw [executes] at count
  refine sound.step tid ⟨fun _ _ => rfl, ?_, fun _ _ => Iff.rfl, ?_⟩ ?_ follows
    (fun _ => follows.begun tid (sound.begun tid launched)) sound.nodup
    (sound.executing.trans count.symm) (fun _ _ => .inl) fun each member =>
      sound.picks each tid member
  · exact fun other different => Function.update_of_ne different _ _
  · exact Frames.points_of_update rfl (.inr mine) (.inl rfl)
  · refine .ended resumes ?_ pinned destroyed flag absent
      (unheld_of_update rfl rfl fun other => (holder other).mp)
    show Function.update pool.story tid
      (pool.story tid ++ [.reported (pool.entries tid).outcome]) tid = _
    rw [Function.update_self, story]
    simp [storyOf, lastEvents, note, goto]

/-- Every action of a worker keeps the invariant. -/
theorem Sound.act (sound : Sound pool) {action : WorkerAction}
    (performed : pool.act worker action = some after) : Sound after := by
  unfold WorkerPool.act at performed
  split at performed
  case h_1 point =>
    obtain ⟨⟨tid, ready⟩, taken, rfl⟩ := Option.map_eq_some_iff.mp performed
    exact sound.take point taken
  case h_2 point =>
    split at performed
    · obtain rfl := Option.some.inj performed
      exact sound.exit point
    · cases performed
  case h_3 switched tid point =>
    obtain ⟨fiber, found, rfl⟩ := Option.map_eq_some_iff.mp performed
    exact sound.resume switched point found
  case h_4 value tid point =>
    obtain rfl := Option.some.inj performed
    exact sound.setResult value point
  case h_5 wait tid point =>
    obtain ⟨fiber, found, rfl⟩ := Option.map_eq_some_iff.mp performed
    exact sound.yield point rfl rfl rfl rfl rfl rfl (.refl _) rfl rfl rfl
  case h_6 tid point =>
    split at performed
    · obtain rfl := Option.some.inj performed
      exact sound
    · obtain ⟨fiber, found, rfl⟩ := Option.map_eq_some_iff.mp performed
      exact sound.yield point rfl rfl rfl rfl rfl rfl follows_moveMigration rfl rfl rfl
  case h_7 failed result tid point =>
    obtain ⟨fiber, found, rfl⟩ := Option.map_eq_some_iff.mp performed
    exact sound.yield point rfl rfl rfl rfl rfl rfl (.refl _) rfl rfl rfl
  case h_8 tid resumed point =>
    split at performed
    · obtain rfl := Option.some.inj performed
      exact sound.destroy point
    · rename_i continues
      obtain rfl := Option.some.inj performed
      exact sound.requeue point
        (Bool.or_eq_false_iff.mp (Bool.not_eq_true _ ▸ continues)).1
  case h_9 tid point =>
    obtain rfl := Option.some.inj performed
    exact sound.retire point
  case h_10 tid point =>
    obtain rfl := Option.some.inj performed
    exact sound.hook point
  case h_11 tid point =>
    obtain rfl := Option.some.inj performed
    exact sound.report point
  case h_12 => cases performed

theorem Standing.of_silent (standing : Standing pool tid) (silent : pool.story tid = []) :
    (pool.entries tid).fiber = none ∧ (pool.entries tid).worker = none ∧
      (pool.entries tid).queued = false ∧ tid ∉ pool.ready ∧
      ∀ worker, (pool.points worker).task ≠ some tid := by
  cases standing with
  | unlaunched _ missing unpinned flag absent unheld =>
      exact ⟨missing, unpinned, flag, absent, unheld⟩
  | queued _ _ story | held _ _ story | leaving _ _ _ story | ended _ story =>
      rw [silent] at story
      cases story

/-- The outcome of `Launch`: nothing, or a launching thread begins. -/
theorem launch_outcome (pool : WorkerPool cluster workers) (gtid : GlobalThreadId cluster)
    (function built onComplete : Bool) :
    pool.launch gtid function built onComplete = pool ∨
      ∃ entry record, pool.run.manager.records gtid.localTid = some entry ∧
        entry.record.state = .launching ∧ record.Begun ∧
        launchRecord function built entry = .ok (some record) ∧
        pool.launch gtid function built onComplete =
          let run : ManagerRun cluster :=
            { pool.run with
              manager := pool.run.manager.put gtid.localTid (some record)
              story := Function.update pool.run.story gtid.localTid
                (pool.run.story gtid.localTid ++
                  if built then [] else [.completed (unbuilt entry)]) }
          if built then
            { ((pool.modify gtid.localTid (.launch onComplete)).note gtid.localTid .launched) with
              run := run
              ready := pool.ready ++ [gtid.localTid] }
          else
            { pool.modify gtid.localTid (fun entry => { entry with onComplete := onComplete }) with
              run := run } := by
  rw [WorkerPool.launch]
  rcases ManagerRun.change_cases pool.run gtid (launchRecord function built) fun entry =>
      if built then [] else [.completed (unbuilt entry)] with
    ⟨status, same, refused⟩ | ⟨entry, changed, present, moved, same⟩
  · have failed : status.isOk = false := by
      rcases refused with rfl | ⟨entry, refused⟩
      · rfl
      · rw [launchRecord, ThreadEntry.launch] at refused
        split at refused
        · split at refused
          · obtain rfl := Except.error.inj refused
            rfl
          · split at refused <;> cases refused
        · obtain rfl := Except.error.inj refused
          rfl
    refine .inl ?_
    simp only [same, failed, Bool.not_false, if_true]
  · obtain ⟨launching, record, rfl, begun⟩ := ThreadEntry.launchRecord_ok moved
    refine .inr ⟨entry, record, present, launching, begun, moved, ?_⟩
    simp only [same, Status.isOk_ok, Bool.not_true, Bool.false_eq_true, if_false]

theorem Sound.silent_of_launching (sound : Sound pool) {entry : ThreadEntry cluster}
    (present : pool.run.manager.records tid = some entry)
    (launching : entry.record.state = .launching) : pool.story tid = [] := by
  by_contra launched
  exact ((sound.begun _ launched).2 entry present).2 launching

theorem Sound.launch (sound : Sound pool) (gtid : GlobalThreadId cluster)
    (function built onComplete : Bool) : Sound (pool.launch gtid function built onComplete) := by
  rcases pool.launch_outcome gtid function built onComplete with
    same | ⟨entry, record, present, launching, begun, moved, same⟩
  · rw [same]
    exact sound
  · have silent := sound.silent_of_launching present launching
    obtain ⟨missing, unpinned, flag, absent, unheld⟩ :=
      (sound.standing gtid.localTid).of_silent silent
    have follows : ∀ story, pool.run.Follows
        { pool.run with manager := pool.run.manager.put gtid.localTid (some record), story } :=
      fun story => ⟨fun tid before => before.put (fun _ _ put => Option.some.inj put ▸ begun) rfl,
        fun given => given.put present rfl⟩
    have unpicked : ∀ worker, (worker, gtid.localTid) ∉ pool.picks := by
      intro worker member
      have owner := sound.picks worker gtid.localTid member
      rw [unpinned] at owner
      cases owner
    rw [same]
    cases built with
    | true =>
        refine sound.step gtid.localTid ⟨?_, ?_, ?_, fun _ => .inl rfl⟩ ?_ (follows _)
          (fun _ => ⟨sound.given _ entry present, fun item found => ?_⟩) ?_ sound.executing
          (fun _ _ => .inl) fun worker member => (unpicked worker member).elim
        · exact fun other different => Function.update_of_ne different _ _
        · exact fun other different => Function.update_of_ne different _ _
        · intro other different
          exact List.mem_append.trans
            (or_iff_left fun last => different (List.mem_singleton.mp last))
        · refine .queued [] .initial ?_ (fun _ member => by cases member) ?_ rfl ?_
            (List.mem_append_right _ (List.mem_singleton_self _)) unheld
          · show Function.update pool.story _ (pool.story _ ++ [.launched]) _ = _
            rw [Function.update_self, silent]
            rfl
          · show (Function.update pool.entries _ _ _).fiber = _
            rw [Function.update_self]
            rfl
          · show (Function.update pool.entries _ _ _).queued = _
            rw [Function.update_self]
            rfl
        · have found : Function.update pool.run.manager.records gtid.localTid (some record)
            gtid.localTid = some item := found
          rw [Function.update_self] at found
          obtain rfl := Option.some.inj found
          exact begun
        · exact sound.nodup.append (List.nodup_singleton _) (List.disjoint_singleton.mpr absent)
    | false =>
        refine sound.step gtid.localTid ⟨?_, fun _ _ => rfl, fun _ _ => Iff.rfl,
          fun _ => .inl rfl⟩ ?_ (follows _) (fun launched => (launched silent).elim) sound.nodup
          sound.executing (fun _ _ => .inl) fun worker member => (unpicked worker member).elim
        · exact fun other different => Function.update_of_ne different _ _
        · refine .unlaunched silent ?_ ?_ ?_ absent unheld
          · show (Function.update pool.entries _ _ _).fiber = _
            rw [Function.update_self]
            exact missing
          · show (Function.update pool.entries _ _ _).worker = _
            rw [Function.update_self]
            exact unpinned
          · show (Function.update pool.entries _ _ _).queued = _
            rw [Function.update_self]
            exact flag

/-- Every step keeps the invariant. -/
theorem Sound.next (sound : Sound pool) {label : PoolLabel cluster workers}
    (performed : pool.next label = some after) : Sound after := by
  cases label with
  | act worker action => exact sound.act performed
  | launch gtid function built onComplete =>
      obtain rfl := Option.some.inj performed
      exact sound.launch gtid function built onComplete
  | manage label =>
      rw [WorkerPool.next] at performed
      split at performed
      · cases performed
      · rename_i other
        obtain ⟨run, stepped, rfl⟩ := Option.map_eq_some_iff.mp performed
        exact sound.setRun (.next (Bool.not_eq_true _ ▸ other) stepped)
  | requestMigration gtid targetHost =>
      obtain rfl := Option.some.inj performed
      exact sound.setRun (.change fun _ _ => ThreadEntry.Begun.requestMigration)
  | signal flag | tick | stop =>
      obtain rfl := Option.some.inj performed
      exact sound.quiet (fun _ => ⟨fun _ _ => rfl, fun _ _ => rfl, fun _ _ => Iff.rfl,
        fun _ => .inl rfl⟩) (.refl _) sound.nodup sound.executing rfl

theorem Sound.of_initial (workers : Nat) (localHost : cluster.Host) :
    Sound (initial workers localHost) := by
  refine ⟨fun tid => ?_, fun _ _ found => (by cases found), fun _ launched => (launched rfl).elim,
    List.nodup_nil, ?_, fun _ _ member => (by cases member)⟩
  · exact .unlaunched rfl rfl rfl rfl (List.not_mem_nil) fun _ task => by cases task
  · exact (Finset.sum_const_zero).symm

theorem Sound.reaches (sound : Sound pool)
    (execution : Run.Reaches WorkerPool.next pool after) : Sound after :=
  execution.preserves Sound sound fun _ _ _ before _ performed => before.next performed

end WorkerPool
end Cxloom.LoomPar
