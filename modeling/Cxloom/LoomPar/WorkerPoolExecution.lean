import Cxloom.LoomPar.WorkerPoolInvariant

/-!
# What the workers guarantee

A fiber is executed by one worker at a time and always by the same one, and the load sample counts
every unfinished thread once.  A manager that is being destroyed leaves no fiber without a worker.
-/

namespace Cxloom.LoomPar
namespace WorkerPool

variable {cluster : Cluster} {workers : Nat} {pool after : WorkerPool cluster workers} {tid : Nat}
  {worker : Fin workers}

/-! ## Exclusive execution -/

/-- Whether a thread was launched and still counts. -/
def live (pool : WorkerPool cluster workers) (tid : Nat) : Prop :=
  .launched ∈ pool.story tid ∧ .retired ∉ pool.story tid

instance (pool : WorkerPool cluster workers) (tid : Nat) : Decidable (pool.live tid) :=
  inferInstanceAs (Decidable (_ ∧ _))

theorem retired_mem_storyOf {resumes : List (Fin workers)} {tail : List (FiberEvent workers)} :
    .retired ∈ storyOf resumes tail ↔ .retired ∈ tail := by
  simp [storyOf]

theorem launched_mem_storyOf (resumes : List (Fin workers)) (tail : List (FiberEvent workers)) :
    .launched ∈ storyOf resumes tail :=
  List.mem_append_left _ List.mem_cons_self

/-- A thread counts when it is queued or its fiber is in the hands of a worker. -/
theorem Sound.live_iff (sound : Sound pool) (tid : Nat) : pool.live tid ↔
    tid ∈ pool.ready ∨
      ∃ worker, (pool.points worker).executes = true ∧ (pool.points worker).task = some tid := by
  cases sound.standing tid with
  | unlaunched story _ _ _ absent unheld =>
      refine iff_of_false (fun launched => ?_) ?_
      · rw [live, story] at launched
        cases launched.1
      · rintro (member | ⟨worker, -, mine⟩)
        · exact absent member
        · exact unheld worker mine
  | queued resumes _ story _ _ _ _ member _ =>
      refine iff_of_true ⟨?_, ?_⟩ (.inl member)
      · rw [story]
        exact launched_mem_storyOf _ _
      · rw [story, retired_mem_storyOf]
        exact List.not_mem_nil
  | held worker resumes story _ _ _ _ _ _ holder executes =>
      refine iff_of_true ⟨?_, ?_⟩ (.inr ⟨worker, executes, (holder worker).mpr rfl⟩)
      · rw [story]
        exact launched_mem_storyOf _ _
      · rw [story, retired_mem_storyOf]
        exact List.not_mem_nil
  | leaving worker resumes tail story _ step _ _ absent holder =>
      refine iff_of_false (fun launched => ?_) ?_
      · rw [live, story, retired_mem_storyOf] at launched
        refine launched.2 ?_
        rcases step with ⟨-, rfl⟩ | ⟨-, rfl⟩
        · exact List.mem_cons_self
        · exact List.mem_cons_self
      · rintro (member | ⟨other, executes, mine⟩)
        · exact absent member
        · obtain rfl := (holder other).mp mine
          rcases step with ⟨point, -⟩ | ⟨point, -⟩
          · rw [point] at executes
            cases executes
          · rw [point] at executes
            cases executes
  | ended resumes story _ _ _ absent unheld =>
      refine iff_of_false (fun launched => ?_) ?_
      · rw [live, story, retired_mem_storyOf] at launched
        exact launched.2 List.mem_cons_self
      · rintro (member | ⟨worker, -, mine⟩)
        · exact absent member
        · exact unheld worker mine

theorem Sound.task_injective (sound : Sound pool) {first second : Fin workers}
    (executes : (pool.points first).executes = true)
    (mine : (pool.points first).task = some tid) (other : (pool.points second).task = some tid) :
    second = first := by
  obtain ⟨-, -, -, -, -, -, -, -, holder⟩ := sound.held mine executes
  exact (holder second).mp other

theorem task_of_executes {point : WorkerPoint} (executes : point.executes = true) :
    ∃ tid, point.task = some tid := by
  cases point with
  | picked tid | running tid | returned tid _ | destroyed tid => exact ⟨tid, rfl⟩
  | searching | retired | hooked | exited => cases executes

theorem busy_eq_card (points : Fin workers → WorkerPoint) :
    busy points = (Finset.univ.filter fun worker => (points worker).executes = true).card := by
  rw [Finset.card_eq_sum_ones, Finset.sum_filter]
  refine Finset.sum_congr rfl fun worker _ => ?_
  cases (points worker).executes <;> rfl

/-- The sample counts every thread that counts once. -/
theorem Sound.sample (sound : Sound pool) :
    pool.sampleExecutionLoad.executing + pool.sampleExecutionLoad.ready +
        pool.sampleExecutionLoad.blocked =
      ((Finset.range pool.run.manager.nextTid).filter pool.live).card := by
  let taken : Finset Nat :=
    (Finset.univ.filter fun worker => (pool.points worker).executes = true).image
      fun worker => (pool.points worker).task.getD 0
  have taken_mem : ∀ tid, tid ∈ taken ↔
      ∃ worker, (pool.points worker).executes = true ∧ (pool.points worker).task = some tid := by
    intro tid
    simp only [taken, Finset.mem_image, Finset.mem_filter, Finset.mem_univ, true_and]
    refine exists_congr fun worker => and_congr_right fun executes => ?_
    obtain ⟨mine, task⟩ := task_of_executes executes
    simp [task]
  have parts : (Finset.range pool.run.manager.nextTid).filter pool.live =
      pool.ready.toFinset ∪ taken := by
    ext tid
    rw [Finset.mem_filter, Finset.mem_range, Finset.mem_union, List.mem_toFinset, taken_mem,
      ← sound.live_iff]
    refine and_iff_right_of_imp fun launched => (sound.begun tid fun silent => ?_).1
    rw [live, silent] at launched
    cases launched.1
  have disjoint : Disjoint pool.ready.toFinset taken := by
    rw [Finset.disjoint_left]
    intro tid queued busy
    obtain ⟨worker, executes, mine⟩ := (taken_mem tid).mp busy
    obtain ⟨-, -, -, -, -, -, -, absent, -⟩ := sound.held mine executes
    exact absent (List.mem_toFinset.mp queued)
  have count : taken.card = pool.executing := by
    rw [sound.executing, busy_eq_card]
    refine Finset.card_image_of_injOn fun first inside second outside same => ?_
    have executes := (Finset.mem_filter.mp inside).2
    obtain ⟨mine, task⟩ := task_of_executes executes
    obtain ⟨theirs, other⟩ := task_of_executes (Finset.mem_filter.mp outside).2
    simp only [task, other, Option.getD_some] at same
    exact (sound.task_injective executes task (same ▸ other)).symm
  have split := List.length_eq_countP_add_countP pool.awake (l := pool.ready)
  rw [parts, Finset.card_union_of_disjoint disjoint, count, List.toFinset_card_of_nodup sound.nodup]
  simp only [sampleExecutionLoad]
  have same : (pool.ready.countP fun tid => !pool.awake tid) =
      pool.ready.countP fun tid => ¬pool.awake tid = true :=
    List.countP_congr fun tid _ => by simp
  omega

/-- What holds of the fibers of a manager at any time. -/
structure ExclusiveExecution (pool : WorkerPool cluster workers) : Prop where
  /-- A fiber is queued, or one worker has it. -/
  place : ∀ tid fiber, (pool.entries tid).fiber = some fiber →
    tid ∈ pool.ready ∧ (∀ worker, (pool.points worker).task ≠ some tid) ∨
      tid ∉ pool.ready ∧ ∃! worker, (pool.points worker).task = some tid
  /-- No fiber is queued twice. -/
  once : pool.ready.Nodup
  /-- The flag of an entry tells whether its fiber is queued. -/
  queued : ∀ tid, (pool.entries tid).queued = true ↔ tid ∈ pool.ready
  /-- A queued fiber is there and has not ended. -/
  unfinished : ∀ tid ∈ pool.ready, ∃ fiber,
    (pool.entries tid).fiber = some fiber ∧ fiber.done = false
  /-- A fiber is taken by one worker only. -/
  pinned : ∀ first second tid, (first, tid) ∈ pool.picks → (second, tid) ∈ pool.picks →
    first = second
  /-- The sample counts every launched thread that was not retired. -/
  sample : pool.sampleExecutionLoad.executing + pool.sampleExecutionLoad.ready +
      pool.sampleExecutionLoad.blocked =
    ((Finset.range pool.run.manager.nextTid).filter pool.live).card
  bounded : pool.sampleExecutionLoad.executing ≤ pool.sampleExecutionLoad.workers

theorem Sound.exclusive (sound : Sound pool) : ExclusiveExecution pool := by
  refine ⟨fun tid fiber built => ?_, sound.nodup, fun tid => ?_, fun tid member => ?_,
    fun first second tid left right => ?_, sound.sample, ?_⟩
  · cases sound.standing tid with
    | unlaunched _ missing => rw [missing] at built; cases built
    | queued _ _ _ _ _ _ _ member unheld => exact .inl ⟨member, unheld⟩
    | held worker _ _ _ _ _ _ _ absent holder =>
        exact .inr ⟨absent, worker, (holder worker).mpr rfl, fun other => (holder other).mp⟩
    | leaving _ _ _ _ _ _ missing | ended _ _ _ missing => rw [missing] at built; cases built
  · cases sound.standing tid with
    | queued _ _ _ _ _ _ flag member => exact iff_of_true flag member
    | unlaunched _ _ _ flag absent | held _ _ _ _ _ _ _ flag absent
    | leaving _ _ _ _ _ _ _ flag absent | ended _ _ _ _ flag absent =>
        exact iff_of_false (by rw [flag]; exact Bool.false_ne_true) absent
  · cases sound.standing tid with
    | queued _ fiber _ _ built undone => exact ⟨fiber, built, undone⟩
    | unlaunched _ _ _ _ absent | held _ _ _ _ _ _ _ _ absent | leaving _ _ _ _ _ _ _ _ absent
    | ended _ _ _ _ _ absent => exact (absent member).elim
  · have owner := sound.picks first tid left
    rw [sound.picks second tid right] at owner
    exact (Option.some.inj owner).symm
  · show pool.executing ≤ workers
    rw [sound.executing, busy_eq_card]
    exact (Finset.card_filter_le _ _).trans (Finset.card_fin workers).le

/-- In every state of every run of a manager with its workers, fibers are executed exclusively. -/
theorem workers_execute_exclusively {localHost : cluster.Host}
    (execution : Run.Reaches next (initial workers localHost) pool) : ExclusiveExecution pool :=
  ((Sound.of_initial workers localHost).reaches execution).exclusive

/-- Two threads are launched and taken, and the first one parks. -/
def bothTaken : List (PoolLabel ManagerRun.alone 2) :=
  [.manage (.call (.allocateThread ManagerRun.onlyHost 5 [])),
    .manage (.call (.allocateThread ManagerRun.onlyHost 6 [])),
    .manage (.call (.markLaunching ⟨ManagerRun.onlyHost, 0⟩)),
    .manage (.call (.markLaunching ⟨ManagerRun.onlyHost, 1⟩)),
    .launch ⟨ManagerRun.onlyHost, 0⟩ true true false,
    .launch ⟨ManagerRun.onlyHost, 1⟩ true true true, bySecond .pick, byFirst .pick,
    bySecond (.resume true), bySecond (.park ⟨3, none⟩), bySecond .settle]

theorem workers_execute_exclusively_bothTaken :
    ∃ pool, Run.Reaches next (initial 2 ManagerRun.onlyHost) pool ∧ pool.ready = [0] ∧
      pool.executing = 1 ∧ ExclusiveExecution pool := by
  have outcome : (Run.runLabels next (initial 2 ManagerRun.onlyHost) bothTaken).any (fun pool =>
      pool.ready = [0] ∧ pool.executing = 1) = true := by
    decide +kernel
  obtain ⟨pool, execution, facts⟩ := (Option.any_eq_true _ _).mp outcome
  obtain ⟨queued, executing⟩ := of_decide_eq_true facts
  have reached := Run.reaches_of_runLabels execution
  exact ⟨pool, reached, queued, executing, workers_execute_exclusively reached⟩

/-! ## Shutdown -/

/-- A label under which only running fibers launch threads once the destructor has started. -/
def Orderly (pool : WorkerPool cluster workers) : PoolLabel cluster workers → Prop
  | .launch _ _ _ _ => pool.stopping = true → ∃ worker, (pool.points worker).onStack = true
  | _ => True

instance (pool : WorkerPool cluster workers) :
    (label : PoolLabel cluster workers) → Decidable (pool.Orderly label)
  | .launch _ _ _ _ => inferInstanceAs (Decidable (_ → _))
  | .act _ _ | .manage _ | .requestMigration _ _ | .signal _ | .tick | .stop => .isTrue trivial

/-- Whether a worker may take a fiber that is runnable. -/
def mayTake (pool : WorkerPool cluster workers) (worker : Fin workers) (tid : Nat) : Prop :=
  (pool.entries tid).worker = none ∨ (pool.entries tid).worker = some worker

instance (pool : WorkerPool cluster workers) (worker : Fin workers) (tid : Nat) :
    Decidable (pool.mayTake worker tid) :=
  inferInstanceAs (Decidable (_ ∨ _))

/-- Queued fibers have workers. -/
structure Served (pool : WorkerPool cluster workers) : Prop where
  /-- Workers leave when the manager is destroyed. -/
  exits : ∀ worker, pool.points worker = .exited → pool.stopping = true
  /-- A worker is left for every queued fiber. -/
  server : ∀ tid ∈ pool.ready, ∃ worker, pool.points worker ≠ .exited ∧ pool.mayTake worker tid

/-- A step that adds no fiber and ends no worker. -/
theorem Served.keep (served : Served pool)
    (exits : ∀ worker, after.points worker = .exited ↔ pool.points worker = .exited)
    (stopping : pool.stopping = true → after.stopping = true)
    (ready : ∀ tid ∈ after.ready, tid ∈ pool.ready ∧
      (after.entries tid).worker = (pool.entries tid).worker) : Served after := by
  refine ⟨fun worker exited => stopping (served.exits worker ((exits worker).mp exited)),
    fun tid member => ?_⟩
  obtain ⟨before, same⟩ := ready tid member
  obtain ⟨worker, stays, may⟩ := served.server tid before
  refine ⟨worker, fun exited => stays ((exits worker).mp exited), ?_⟩
  rw [mayTake, same]
  exact may

theorem exited_update {point : WorkerPoint}
    (points : after.points = Function.update pool.points worker point)
    (before : pool.points worker ≠ .exited) (later : point ≠ .exited) (each : Fin workers) :
    after.points each = .exited ↔ pool.points each = .exited := by
  rw [points]
  by_cases here : each = worker
  · rw [here, Function.update_self]
    exact iff_of_false later before
  · rw [Function.update_of_ne here]

theorem worker_update (change : FiberEntry workers → FiberEntry workers)
    (same : (change (pool.entries tid)).worker = (pool.entries tid).worker) (other : Nat) :
    (Function.update pool.entries tid (change (pool.entries tid)) other).worker =
      (pool.entries other).worker := by
  by_cases here : other = tid
  · rw [here, Function.update_self, same]
  · rw [Function.update_of_ne here]

theorem Served.take (served : Served pool) (sound : Sound pool) {ready : List Nat}
    (point : pool.points worker = .searching)
    (taken : ReadyQueue.take (pool.eligible worker) pool.ready = some (tid, ready)) :
    Served (pool.take worker tid ready) := by
  refine served.keep (exited_update rfl (by rw [point]; exact WorkerPoint.noConfusion)
    WorkerPoint.noConfusion) id fun other member => ?_
  have different : other ≠ tid := by
    rintro rfl
    exact (ReadyQueue.take_nodup taken sound.nodup).1 member
  refine ⟨(ReadyQueue.take_mem_iff taken different).mp member, ?_⟩
  show (Function.update pool.entries tid _ other).worker = _
  rw [Function.update_of_ne different]

/-- A worker goes on with its thread. -/
theorem Served.goto (served : Served pool) {point : WorkerPoint}
    (points : after.points = Function.update pool.points worker point)
    (before : pool.points worker ≠ .exited) (later : point ≠ .exited)
    (stopping : after.stopping = pool.stopping) (ready : after.ready = pool.ready)
    (entries : ∀ other, (after.entries other).worker = (pool.entries other).worker) :
    Served after :=
  served.keep (exited_update points before later) (fun stops => stopping.trans stops)
    fun other member => ⟨ready ▸ member, entries other⟩

theorem Served.resume (served : Served pool) {fiber : Fiber} (switched : Bool)
    (point : pool.points worker = .picked tid) :
    Served (pool.resume worker tid fiber switched) := by
  have before : pool.points worker ≠ .exited := by rw [point]; exact WorkerPoint.noConfusion
  rw [WorkerPool.resume]
  split
  · exact served.goto rfl before WorkerPoint.noConfusion rfl rfl fun _ => rfl
  · split
    · exact served.goto rfl before WorkerPoint.noConfusion rfl rfl
        (worker_update (.setFiber _) rfl)
    · exact served.goto rfl before WorkerPoint.noConfusion rfl rfl
        (worker_update (.setFiber _) rfl)

theorem Served.requeue (served : Served pool) (sound : Sound pool) {resumed : Bool}
    (point : pool.points worker = .returned tid resumed) :
    Served (pool.requeue worker tid) := by
  have before : pool.points worker ≠ .exited := by rw [point]; exact WorkerPoint.noConfusion
  have moved : ∀ each, (pool.requeue worker tid).points each = .exited ↔
      pool.points each = .exited := exited_update rfl before WorkerPoint.noConfusion
  obtain ⟨-, -, -, owner, -⟩ := sound.held (by rw [point]; rfl) (by rw [point]; rfl)
  have same : ∀ other, ((pool.requeue worker tid).entries other).worker =
      (pool.entries other).worker :=
    worker_update (fun entry => { entry with queued := true }) rfl
  refine ⟨fun each exited => served.exits each ((moved each).mp exited), fun other member => ?_⟩
  rcases List.mem_append.mp member with old | new
  · obtain ⟨server, stays, may⟩ := served.server other old
    refine ⟨server, fun exited => stays ((moved server).mp exited), ?_⟩
    rw [mayTake, same]
    exact may
  · obtain rfl := List.mem_singleton.mp new
    refine ⟨worker, fun exited => before ((moved worker).mp exited), .inr ?_⟩
    rw [same, owner]

theorem Served.launch (served : Served pool) (sound : Sound pool) (populated : 0 < workers)
    (gtid : GlobalThreadId cluster) (function built onComplete : Bool)
    (orderly : pool.stopping = true → ∃ worker, (pool.points worker).onStack = true) :
    Served (pool.launch gtid function built onComplete) := by
  rcases pool.launch_outcome gtid function built onComplete with
    same | ⟨entry, record, present, launching, begun, moved, same⟩
  · rw [same]
    exact served
  · obtain ⟨-, unpinned, -⟩ :=
      (sound.standing gtid.localTid).of_silent (sound.silent_of_launching present launching)
    rw [same]
    cases built with
    | false =>
        exact served.keep (fun _ => Iff.rfl) id fun other member => ⟨member,
          worker_update (fun entry => { entry with onComplete := onComplete }) rfl other⟩
    | true =>
        have kept := @worker_update _ _ pool gtid.localTid (.launch onComplete) rfl
        refine ⟨served.exits, fun other member => ?_⟩
        rcases List.mem_append.mp member with old | new
        · obtain ⟨server, stays, may⟩ := served.server other old
          refine ⟨server, stays, ?_⟩
          rw [mayTake]
          exact (kept other).symm ▸ may
        · obtain rfl := List.mem_singleton.mp new
          have free : ∃ worker, pool.points worker ≠ .exited := by
            cases stops : pool.stopping with
            | true =>
                obtain ⟨worker, running⟩ := orderly stops
                refine ⟨worker, fun exited => ?_⟩
                rw [exited] at running
                cases running
            | false =>
                refine ⟨⟨0, populated⟩, fun exited => ?_⟩
                rw [served.exits _ exited] at stops
                cases stops
          obtain ⟨worker, stays⟩ := free
          exact ⟨worker, stays, .inl ((kept gtid.localTid).trans unpinned)⟩

/-- Every action of a worker leaves workers for the queued fibers. -/
theorem Served.act (served : Served pool) (sound : Sound pool) {action : WorkerAction}
    (performed : pool.act worker action = some after) : Served after := by
  have elsewhere : ∀ {point}, pool.points worker = point → point ≠ .exited →
      pool.points worker ≠ .exited := fun same other => same ▸ other
  unfold WorkerPool.act at performed
  split at performed
  case h_1 point =>
    obtain ⟨⟨tid, ready⟩, taken, rfl⟩ := Option.map_eq_some_iff.mp performed
    exact served.take sound point taken
  case h_2 point =>
    split at performed
    · rename_i stops
      obtain rfl := Option.some.inj performed
      refine ⟨fun _ _ => stops.1, fun tid member => ?_⟩
      have member : tid ∈ pool.ready := member
      rw [stops.2] at member
      cases member
    · cases performed
  case h_3 switched tid point =>
    obtain ⟨fiber, found, rfl⟩ := Option.map_eq_some_iff.mp performed
    exact served.resume switched point
  case h_4 value tid point =>
    obtain rfl := Option.some.inj performed
    exact served.keep (fun _ => Iff.rfl) id fun other member => ⟨member,
      worker_update (.setResult value) rfl other⟩
  case h_5 wait tid point =>
    obtain ⟨fiber, found, rfl⟩ := Option.map_eq_some_iff.mp performed
    exact served.goto rfl (elsewhere point WorkerPoint.noConfusion) WorkerPoint.noConfusion rfl rfl
      (worker_update (.setFiber _) rfl)
  case h_6 tid point =>
    split at performed
    · obtain rfl := Option.some.inj performed
      exact served
    · obtain ⟨fiber, found, rfl⟩ := Option.map_eq_some_iff.mp performed
      exact served.goto rfl (elsewhere point WorkerPoint.noConfusion) WorkerPoint.noConfusion rfl
        rfl (worker_update (.setFiber _) rfl)
  case h_7 failed result tid point =>
    obtain ⟨fiber, found, rfl⟩ := Option.map_eq_some_iff.mp performed
    exact served.goto rfl (elsewhere point WorkerPoint.noConfusion) WorkerPoint.noConfusion rfl rfl
      (worker_update (.finish failed result fiber) rfl)
  case h_8 tid resumed point =>
    split at performed
    · obtain rfl := Option.some.inj performed
      exact served.goto rfl (elsewhere point WorkerPoint.noConfusion) WorkerPoint.noConfusion rfl
        rfl (worker_update (.destroy resumed) rfl)
    · obtain rfl := Option.some.inj performed
      exact served.requeue sound point
  case h_9 tid point =>
    obtain rfl := Option.some.inj performed
    exact served.goto rfl (elsewhere point WorkerPoint.noConfusion) WorkerPoint.noConfusion rfl rfl
      fun _ => rfl
  case h_10 tid point =>
    obtain rfl := Option.some.inj performed
    exact served.goto rfl (elsewhere point WorkerPoint.noConfusion) WorkerPoint.noConfusion rfl rfl
      fun _ => rfl
  case h_11 tid point =>
    obtain rfl := Option.some.inj performed
    exact served.goto rfl (elsewhere point WorkerPoint.noConfusion) WorkerPoint.noConfusion rfl rfl
      fun _ => rfl
  case h_12 => cases performed

/-- Every orderly step leaves workers for the queued fibers. -/
theorem Served.next (served : Served pool) (sound : Sound pool) (populated : 0 < workers)
    {label : PoolLabel cluster workers} (orderly : pool.Orderly label)
    (performed : pool.next label = some after) : Served after := by
  cases label with
  | act worker action => exact served.act sound performed
  | launch gtid function built onComplete =>
      obtain rfl := Option.some.inj performed
      exact served.launch sound populated gtid function built onComplete orderly
  | manage label =>
      rw [WorkerPool.next] at performed
      split at performed
      · cases performed
      · obtain ⟨run, -, rfl⟩ := Option.map_eq_some_iff.mp performed
        exact ⟨served.exits, served.server⟩
  | requestMigration gtid targetHost | signal flag | tick =>
      obtain rfl := Option.some.inj performed
      exact ⟨served.exits, served.server⟩
  | stop =>
      obtain rfl := Option.some.inj performed
      exact ⟨fun _ _ => rfl, served.server⟩

theorem served_of_reaches (populated : 0 < workers) {localHost : cluster.Host}
    (execution : Run.ReachesBy next Orderly (initial workers localHost) pool) :
    Served pool ∧ Sound pool := by
  refine execution.preserves (fun pool => Served pool ∧ Sound pool)
    ⟨⟨fun _ exited => (by cases exited), fun _ member => (by cases member)⟩,
      .of_initial workers localHost⟩ ?_
  rintro pool label after ⟨served, sound⟩ orderly performed
  exact ⟨served.next sound populated orderly performed, sound.next performed⟩

/-- Workers leave no fiber behind: while a fiber is queued a worker is left that may take it, and
once all workers have left every launched thread is over, its hook has run and its completion was
reported. -/
theorem shutdown_strands_no_fiber (populated : 0 < workers) {localHost : cluster.Host}
    (execution : Run.ReachesBy next Orderly (initial workers localHost) pool) :
    (∀ tid ∈ pool.ready, ∃ worker, pool.points worker ≠ .exited ∧ pool.mayTake worker tid) ∧
      ((∀ worker, pool.points worker = .exited) → pool.executing = 0 ∧
        ∀ tid, pool.story tid ≠ [] → (pool.entries tid).fiber = none ∧
          ∃ resumes, pool.story tid = storyOf resumes (lastEvents (pool.entries tid).outcome)) := by
  obtain ⟨served, sound⟩ := served_of_reaches populated execution
  refine ⟨served.server, fun exited => ⟨?_, fun tid launched => ?_⟩⟩
  · rw [sound.executing, busy]
    refine Finset.sum_eq_zero fun worker _ => ?_
    rw [exited worker]
    rfl
  · have idle : ∀ worker, (pool.points worker).task ≠ some tid := by
      intro worker
      rw [exited worker]
      exact fun mine => by cases mine
    cases sound.standing tid with
    | unlaunched story => exact (launched story).elim
    | queued _ _ _ _ _ _ _ member =>
        obtain ⟨worker, stays, -⟩ := served.server tid member
        exact (stays (exited worker)).elim
    | held worker _ _ _ _ _ _ _ _ holder
    | leaving worker _ _ _ _ _ _ _ _ holder => exact (idle worker ((holder worker).mpr rfl)).elim
    | ended resumes story _ destroyed => exact ⟨destroyed, resumes, story⟩

/-- A thread is launched, the manager is destroyed, and the thread still runs to its end. -/
def stoppedEarly : List (PoolLabel ManagerRun.alone 2) :=
  [.manage (.call (.allocateThread ManagerRun.onlyHost 5 [])),
    .manage (.call (.markLaunching ⟨ManagerRun.onlyHost, 0⟩)),
    .launch ⟨ManagerRun.onlyHost, 0⟩ true true false, .stop, byFirst .pick, bySecond .exit,
    byFirst (.resume true), byFirst (.finish true none), byFirst .settle, byFirst .retire,
    byFirst .hook, byFirst .report, byFirst .exit]

theorem shutdown_strands_no_fiber_stoppedEarly :
    ∃ pool, Run.ReachesBy next Orderly (initial 2 ManagerRun.onlyHost) pool ∧
      pool.points firstWorker = .exited ∧ pool.points secondWorker = .exited ∧
      pool.story 0 = storyOf [0] (lastEvents ⟨-1, 0⟩) ∧ pool.executing = 0 := by
  have outcome : (Run.runLabels next (initial 2 ManagerRun.onlyHost) stoppedEarly).any (fun pool =>
      pool.points firstWorker = .exited ∧ pool.points secondWorker = .exited ∧
        pool.story 0 = storyOf [0] (lastEvents ⟨-1, 0⟩)) = true := by
    decide +kernel
  have orderly : Run.AdmitsLabels next Orderly (initial 2 ManagerRun.onlyHost) stoppedEarly := by
    decide +kernel
  obtain ⟨pool, execution, facts⟩ := (Option.any_eq_true _ _).mp outcome
  obtain ⟨first, second, story⟩ := of_decide_eq_true facts
  have reached := Run.reachesBy_of_runLabels execution orderly
  have exited : ∀ worker, pool.points worker = .exited :=
    Fin.forall_fin_two.mpr ⟨first, second⟩
  exact ⟨pool, reached, first, second, story,
    ((shutdown_strands_no_fiber Nat.two_pos reached).2 exited).1⟩

end WorkerPool
end Cxloom.LoomPar
