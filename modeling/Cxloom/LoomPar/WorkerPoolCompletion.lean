import Cxloom.LoomPar.WorkerPoolInvariant

/-!
# What the workers report

The life of a thread has one order.  When nobody but the workers completes launched threads, the
completion of a record is the one that its worker reported, so a `Join` returns what the fiber has
left behind, and it does so after the fiber was destroyed and its hook has run.
-/

namespace Cxloom.LoomPar

variable {cluster : Cluster} {workers : Nat}

/-! ## Records -/

namespace ManagerRun

variable {run after : ManagerRun cluster} {entry changed : ThreadEntry cluster}
  {story : List RecordEvent}

theorem LiveFits.migrate (fits : LiveFits entry story)
    (detached : changed.detached = entry.detached) (joining : changed.joining = entry.joining)
    (state : changed.record.state = entry.record.state)
    (completion : changed.record.completion = entry.record.completion) :
    Keeps entry story (some changed) := by
  refine ⟨⟨fits.allocated, ?_, ?_, fits.returned, ?_, ?_, ?_, ?_⟩, ?_, ?_, ?_⟩
  · rw [state, completion]
    exact fits.completed
  · rw [joining, detached]
    exact fits.accepted
  · rw [joining, detached]
    exact fits.exclusive
  · rw [joining, detached, state]
    exact fits.launched
  · rw [detached, state]
    exact fits.unfinished
  · rw [state]
    exact fits.unjoined
  · rw [joining]
    exact id
  · rw [state]
  · rw [state, completion]
    exact fun done => ⟨done, rfl⟩

theorem LiveFits.moveMigration (fits : LiveFits entry story) {source target : MigrationState}
    {changed : Option (ThreadEntry cluster)}
    (moved : ThreadEntry.moveMigration source target entry = .ok changed) :
    Keeps entry (story ++ []) changed := by
  rw [List.append_nil]
  rw [ThreadEntry.moveMigration] at moved
  obtain rfl := Except.ok.inj moved
  split
  · exact fits.migrate rfl rfl rfl rfl
  · exact fits.stays

theorem LiveFits.requestMigration (fits : LiveFits entry story) {targetHost : cluster.Host}
    {changed : Option (ThreadEntry cluster)}
    (moved : ThreadEntry.requestMigration targetHost entry = .ok changed) :
    Keeps entry (story ++ []) changed := by
  rw [List.append_nil]
  rw [ThreadEntry.requestMigration] at moved
  split at moved
  · cases moved
  · obtain rfl := Except.ok.inj moved
    exact fits.migrate rfl rfl rfl rfl

/-- A fiber that cannot be built completes its record. -/
theorem LiveFits.unbuilt (fits : LiveFits entry story) {function : Bool}
    {changed : Option (ThreadEntry cluster)} (attached : entry.detached = false)
    (moved : WorkerPool.launchRecord function false entry = .ok changed) :
    Keeps entry (story ++ [.completed (WorkerPool.unbuilt entry)]) changed := by
  obtain ⟨launching, -⟩ := ThreadEntry.launchRecord_ok moved
  rw [WorkerPool.launchRecord, ThreadEntry.launch] at moved
  split at moved
  · rw [if_neg (not_not.mpr launching), if_neg Bool.false_ne_true] at moved
    obtain rfl := Except.ok.inj moved
    have nothing : story.filterMap RecordEvent.completion? = [] := by
      rw [fits.completed, launching, if_neg ThreadState.noConfusion]
    refine ⟨⟨?_, ?_, ?_, ?_, fits.exclusive, fun _ => ThreadState.noConfusion, ?_,
      ThreadState.noConfusion⟩, id, ?_, ?_⟩
    · simp [fits.allocated, RecordEvent.allocates]
    · simp [nothing, RecordEvent.completion?, WorkerPool.unbuilt]
    · simp [fits.accepted, RecordEvent.consumer?]
    · simp [fits.returned, RecordEvent.returned?]
    · intro detached
      rw [attached] at detached
      cases detached
    · rw [launching]
      exact (by decide : rank .launching ≤ rank .completed)
    · rw [launching]
      exact fun done => ThreadState.noConfusion done
  · cases moved

/-- A change that reports no completion, or none of this thread. -/
theorem completions_change {gtid : GlobalThreadId cluster}
    {transition : ThreadEntry cluster → Except Status (Option (ThreadEntry cluster))}
    {events : ThreadEntry cluster → List RecordEvent} {tid : Nat}
    (silent : tid = gtid.localTid → ∀ entry, run.manager.find run.localHost gtid = some entry →
      (events entry).filterMap RecordEvent.completion? = []) :
    (run.change gtid transition events).2.completions tid = run.completions tid := by
  rw [change]
  split
  · rfl
  · rename_i entry found
    split
    · rfl
    · show (Function.update run.story _ _ tid).filterMap _ = _
      by_cases here : tid = gtid.localTid
      · subst here
        rw [Function.update_self, List.filterMap_append, silent rfl entry found, List.append_nil]
        rfl
      · rw [Function.update_of_ne here]
        rfl

theorem completions_markCompleted {tid : Nat} (found : run.manager.records tid = some entry)
    (running : entry.record.state = .running) (completion : Completion) :
    (run.perform (.markCompleted ⟨run.localHost, tid⟩ completion)).2.completions tid =
      run.completions tid ++ [completion] := by
  have located : run.manager.find run.localHost ⟨run.localHost, tid⟩ = some entry := by
    rw [ThreadManager.find, if_pos rfl, found]
  have accepted : ∃ changed, entry.markCompleted completion = .ok changed := by
    rw [ThreadEntry.markCompleted, running, if_neg ThreadState.noConfusion,
      if_neg fun inactive => inactive.2 rfl]
    split
    · exact ⟨_, rfl⟩
    · exact ⟨_, rfl⟩
  obtain ⟨changed, moved⟩ := accepted
  rw [perform, change, located]
  simp only [moved, completions, Function.update_self, List.filterMap_append, running]
  rfl

end ManagerRun

def FiberEvent.completion? : FiberEvent workers → Option Completion
  | reported completion => some completion
  | _ => none

namespace WorkerPool

variable {pool after : WorkerPool cluster workers} {tid : Nat} {worker : Fin workers}

/-! ## Order -/

/-- What happened to a thread, in the one order that is possible. -/
structure Ordered (pool : WorkerPool cluster workers) (tid : Nat) : Prop where
  /-- One worker resumes the fiber; then it retires it, runs the hook and reports. -/
  order : ∃ resumes completion, (∀ first ∈ resumes, ∀ second ∈ resumes, first = second) ∧
    pool.story tid <+: storyOf resumes (lastEvents completion)
  /-- A retired fiber is destroyed and nobody executes it. -/
  retired : .retired ∈ pool.story tid → (pool.entries tid).fiber = none ∧ tid ∉ pool.ready
  /-- The report has the outcome of the fiber. -/
  reported : ∀ completion, .reported completion ∈ pool.story tid →
    completion = (pool.entries tid).outcome ∧ ∀ worker, (pool.points worker).task ≠ some tid

theorem same_of_pinned {resumes : List (Fin workers)}
    (pinned : ∀ worker ∈ resumes, (pool.entries tid).worker = some worker) :
    ∀ first ∈ resumes, ∀ second ∈ resumes, first = second := fun first left second right =>
  Option.some.inj ((pinned first left).symm.trans (pinned second right))

theorem Sound.ordered (sound : Sound pool) (tid : Nat) : Ordered pool tid := by
  have whole : ∀ (resumes : List (Fin workers)) (tail rest : List (FiberEvent workers)),
      storyOf resumes tail <+: storyOf resumes (tail ++ rest) := by
    intro resumes tail rest
    rw [storyOf, storyOf, ← List.append_assoc]
    exact List.prefix_append _ _
  cases sound.standing tid with
  | unlaunched story =>
      refine ⟨⟨[], ⟨0, 0⟩, fun _ member => (by cases member), ?_⟩, ?_, ?_⟩
      · rw [story]
        exact List.nil_prefix
      · rw [story]
        exact fun member => by cases member
      · rw [story]
        exact fun _ member => by cases member
  | queued resumes _ story pinned | held _ resumes story pinned =>
      refine ⟨⟨resumes, ⟨0, 0⟩, same_of_pinned pinned, ?_⟩, ?_, ?_⟩
      · rw [story]
        exact whole resumes [] _
      · rw [story]
        simp [storyOf]
      · rw [story]
        simp [storyOf]
  | leaving worker resumes tail story pinned step destroyed flag absent holder =>
      rcases step with ⟨-, rfl⟩ | ⟨-, rfl⟩
      · refine ⟨⟨resumes, ⟨0, 0⟩, same_of_pinned pinned, ?_⟩, fun _ => ⟨destroyed, absent⟩, ?_⟩
        · rw [story]
          exact whole resumes [.retired] _
        · rw [story]
          simp [storyOf]
      · refine ⟨⟨resumes, ⟨0, 0⟩, same_of_pinned pinned, ?_⟩, fun _ => ⟨destroyed, absent⟩, ?_⟩
        · rw [story]
          exact whole resumes [.retired, .hooked] _
        · rw [story]
          simp [storyOf]
  | ended resumes story pinned destroyed flag absent unheld =>
      refine ⟨⟨resumes, (pool.entries tid).outcome, same_of_pinned pinned, ?_⟩,
        fun _ => ⟨destroyed, absent⟩, ?_⟩
      · rw [story]
      · rw [story]
        intro completion member
        exact ⟨by simpa [storyOf, lastEvents] using member, unheld⟩

/-! ## Reports -/

def reports (pool : WorkerPool cluster workers) (tid : Nat) : List Completion :=
  (pool.story tid).filterMap FiberEvent.completion?

/-- A label under which only workers complete the threads that were launched, and under which a
thread is detached only after it was launched. -/
def Trusted (pool : WorkerPool cluster workers) : PoolLabel cluster workers → Prop
  | .manage (.call (.markCompleted gtid _)) =>
      gtid.homeHost = pool.run.localHost → pool.story gtid.localTid = []
  | .launch gtid _ built _ =>
      built = false → ∀ entry, pool.run.manager.records gtid.localTid = some entry →
        entry.detached = false
  | _ => True

/-- Records have the completions that workers reported. -/
structure Honest (pool : WorkerPool cluster workers) : Prop where
  /-- Records, callers and stories agree. -/
  fits : pool.run.Fits
  reported : ∀ tid, pool.story tid ≠ [] → pool.run.completions tid = pool.reports tid

/-- A step that completes nothing. -/
theorem Honest.keep (honest : Honest pool) (fits : after.run.Fits)
    (completions : ∀ tid, after.run.completions tid = pool.run.completions tid)
    (reports : ∀ tid, after.reports tid = pool.reports tid)
    (launched : ∀ tid, after.story tid ≠ [] → pool.story tid ≠ []) : Honest after := by
  refine ⟨fits, fun tid told => ?_⟩
  rw [completions, reports]
  exact honest.reported tid (launched tid told)

theorem Honest.same (honest : Honest pool) (run : after.run = pool.run)
    (story : after.story = pool.story) : Honest after :=
  honest.keep (run ▸ honest.fits) (fun tid => by rw [run])
    (fun tid => by rw [reports, reports, story]) fun tid => by rw [story]; exact id

theorem Honest.moveMigration (honest : Honest pool) {source target : MigrationState}
    (run : after.run = (pool.moveMigration tid source target).run)
    (story : after.story = pool.story) : Honest after := by
  refine honest.keep ?_ (fun other => ?_) (fun other => by rw [reports, reports, story])
    fun other => by rw [story]; exact id
  · rw [run]
    exact (honest.fits.change fun _ _ _ live => live.moveMigration).1
  · rw [run]
    exact ManagerRun.completions_change fun _ _ _ => rfl

/-- Something other than a report happens to a launched thread. -/
theorem Honest.note (honest : Honest pool) {events : List (FiberEvent workers)}
    (launched : pool.story tid ≠ []) (run : after.run = pool.run)
    (story : after.story = Function.update pool.story tid (pool.story tid ++ events))
    (silent : events.filterMap FiberEvent.completion? = []) : Honest after := by
  refine honest.keep (run ▸ honest.fits) (fun other => by rw [run]) (fun other => ?_)
    fun other told => ?_
  · rw [reports, reports, story]
    by_cases here : other = tid
    · rw [here, Function.update_self, List.filterMap_append, silent, List.append_nil]
    · rw [Function.update_of_ne here]
  · by_cases here : other = tid
    · rw [here]
      exact launched
    · rw [story, Function.update_of_ne here] at told
      exact told

theorem Sound.launched (sound : Sound pool) (mine : (pool.points worker).task = some tid) :
    pool.story tid ≠ [] := by
  intro silent
  obtain ⟨-, -, -, -, unheld⟩ := (sound.standing tid).of_silent silent
  exact unheld worker mine

theorem Honest.resume (honest : Honest pool) (launched : pool.story tid ≠ []) {fiber : Fiber}
    (switched : Bool) : Honest (pool.resume worker tid fiber switched) := by
  rw [WorkerPool.resume]
  split
  · exact honest.same rfl rfl
  · split
    · exact honest.note launched rfl rfl rfl
    · exact honest.same rfl rfl

theorem completions_storyOf (resumes : List (Fin workers)) (tail : List (FiberEvent workers)) :
    (storyOf resumes tail).filterMap FiberEvent.completion? =
      tail.filterMap FiberEvent.completion? := by
  have silent : (resumes.map FiberEvent.resumed).filterMap FiberEvent.completion? = [] := by
    rw [List.filterMap_eq_nil_iff]
    intro event member
    obtain ⟨_, -, rfl⟩ := List.mem_map.mp member
    rfl
  rw [storyOf, List.filterMap_append, List.filterMap_cons_none rfl, silent, List.nil_append]

/-- The record of a launched thread that no worker has reported. -/
theorem Honest.record (honest : Honest pool) (sound : Sound pool) (launched : pool.story tid ≠ [])
    (unreported : pool.reports tid = []) :
    ∃ entry, pool.run.manager.records tid = some entry ∧ entry.record.state = .running := by
  have incomplete : pool.run.completions tid = [] := (honest.reported tid launched).trans unreported
  have begun := sound.begun tid launched
  cases found : pool.run.manager.records tid with
  | none =>
      exact ((honest.fits.consumedOnce.removed tid begun.1).mp found).1 incomplete |>.elim
  | some entry =>
      have live := honest.fits.live tid entry found
      obtain ⟨allocated, launching⟩ := begun.2 entry found
      refine ⟨entry, rfl, ?_⟩
      cases state : entry.record.state with
      | running => rfl
      | allocated => exact (allocated state).elim
      | launching => exact (launching state).elim
      | joined => exact (live.unjoined state).elim
      | completed =>
          have completed := live.completed
          rw [ManagerRun.completions] at incomplete
          rw [incomplete, if_pos state] at completed
          cases completed

theorem Honest.report (honest : Honest pool) (sound : Sound pool)
    (point : pool.points worker = .hooked tid) :
    Honest { (pool.note tid (.reported (pool.entries tid).outcome)).goto worker .searching with
      run := (pool.run.perform (.markCompleted ⟨pool.run.localHost, tid⟩
        (pool.entries tid).outcome)).2 } := by
  have mine : (pool.points worker).task = some tid := by rw [point]; rfl
  have launched := sound.launched mine
  obtain ⟨resumes, tail, story, -, step, -⟩ := sound.leaving mine (by rw [point]; rfl)
  obtain ⟨-, rfl⟩ := step.resolve_left fun other => by
    rw [point] at other
    cases other.1
  have unreported : pool.reports tid = [] := by
    rw [reports, story, completions_storyOf]
    rfl
  obtain ⟨entry, found, running⟩ := honest.record sound launched unreported
  have performed : pool.run.next (.call (.markCompleted ⟨pool.run.localHost, tid⟩
      (pool.entries tid).outcome)) = some _ := rfl
  refine ⟨(honest.fits.next performed).1, fun other told => ?_⟩
  by_cases here : other = tid
  · subst here
    refine (ManagerRun.completions_markCompleted found running _).trans ?_
    show _ = (Function.update pool.story other _ other).filterMap _
    rw [honest.reported other launched, unreported, Function.update_self, List.filterMap_append]
    have before : (pool.story other).filterMap FiberEvent.completion? = [] := unreported
    rw [before]
    rfl
  · have untold : Function.update pool.story tid _ other ≠ [] := told
    rw [Function.update_of_ne here] at untold
    refine (ManagerRun.completions_change fun same => (here same).elim).trans ?_
    show _ = (Function.update pool.story tid _ other).filterMap _
    rw [honest.reported other untold, Function.update_of_ne here]
    rfl

/-- Every action of a worker keeps records honest. -/
theorem Honest.act (honest : Honest pool) (sound : Sound pool) {action : WorkerAction}
    (performed : pool.act worker action = some after) : Honest after := by
  unfold WorkerPool.act at performed
  split at performed
  case h_1 point =>
    obtain ⟨⟨tid, ready⟩, taken, rfl⟩ := Option.map_eq_some_iff.mp performed
    exact honest.same rfl rfl
  case h_2 point =>
    split at performed
    · obtain rfl := Option.some.inj performed
      exact honest.same rfl rfl
    · cases performed
  case h_3 switched tid point =>
    obtain ⟨fiber, found, rfl⟩ := Option.map_eq_some_iff.mp performed
    exact honest.resume (sound.launched (by rw [point]; rfl)) switched
  case h_4 value tid point =>
    obtain rfl := Option.some.inj performed
    exact honest.same rfl rfl
  case h_5 wait tid point =>
    obtain ⟨fiber, found, rfl⟩ := Option.map_eq_some_iff.mp performed
    exact honest.same rfl rfl
  case h_6 tid point =>
    split at performed
    · obtain rfl := Option.some.inj performed
      exact honest
    · obtain ⟨fiber, found, rfl⟩ := Option.map_eq_some_iff.mp performed
      exact honest.moveMigration rfl rfl
  case h_7 failed result tid point =>
    obtain ⟨fiber, found, rfl⟩ := Option.map_eq_some_iff.mp performed
    exact honest.same rfl rfl
  case h_8 tid resumed point =>
    split at performed
    · obtain rfl := Option.some.inj performed
      exact honest.same rfl rfl
    · obtain rfl := Option.some.inj performed
      exact honest.moveMigration rfl rfl
  case h_9 tid point =>
    obtain rfl := Option.some.inj performed
    exact honest.note (sound.launched (by rw [point]; rfl)) rfl rfl rfl
  case h_10 tid point =>
    obtain rfl := Option.some.inj performed
    exact honest.note (sound.launched (by rw [point]; rfl)) rfl rfl rfl
  case h_11 tid point =>
    obtain rfl := Option.some.inj performed
    exact honest.report sound point
  case h_12 => cases performed

theorem Honest.launch (honest : Honest pool) (sound : Sound pool) {gtid : GlobalThreadId cluster}
    {function built : Bool} (onComplete : Bool)
    (attached : built = false → ∀ entry, pool.run.manager.records gtid.localTid = some entry →
      entry.detached = false) : Honest (pool.launch gtid function built onComplete) := by
  rcases pool.launch_outcome gtid function built onComplete with
    same | ⟨entry, record, present, launching, begun, moved, same⟩
  · rw [same]
    exact honest
  · have silent := sound.silent_of_launching present launching
    have live := honest.fits.live _ entry present
    rw [same]
    cases built with
    | true =>
        have kept : ManagerRun.Keeps entry (pool.run.story gtid.localTid ++ []) (some record) := by
          rw [List.append_nil]
          exact live.launch moved
        refine ⟨honest.fits.changed present kept, fun other told => ?_⟩
        show (Function.update pool.run.story _ _ other).filterMap _ =
          (Function.update pool.story _ _ other).filterMap _
        by_cases here : other = gtid.localTid
        · subst here
          have nothing : (pool.story gtid.localTid ++ [FiberEvent.launched]).filterMap
              FiberEvent.completion? = [] := by
            rw [silent]
            rfl
          rw [Function.update_self, Function.update_self, if_pos rfl, List.append_nil,
            live.completed, launching, if_neg ThreadState.noConfusion]
          exact nothing.symm
        · have untold : Function.update pool.story _ _ other ≠ [] := told
          rw [Function.update_of_ne here] at untold
          rw [Function.update_of_ne here, Function.update_of_ne here]
          exact honest.reported other untold
    | false =>
        have kept := live.unbuilt (attached rfl entry present) moved
        refine ⟨honest.fits.changed present kept, fun other told => ?_⟩
        have here : other ≠ gtid.localTid := by
          rintro rfl
          exact told silent
        show (Function.update pool.run.story _ _ other).filterMap _ = _
        rw [Function.update_of_ne here]
        exact honest.reported other told

theorem completions_update {run : ManagerRun cluster} {other : Nat} {events : List RecordEvent}
    (silent : events.filterMap RecordEvent.completion? = []) :
    (Function.update run.story other (run.story other ++ events) tid).filterMap
        RecordEvent.completion? = run.completions tid := by
  by_cases here : tid = other
  · rw [here, Function.update_self, List.filterMap_append, silent, List.append_nil]
    rfl
  · rw [Function.update_of_ne here]
    rfl

/-- A step of the records that no worker makes. -/
theorem Honest.manage (honest : Honest pool) (sound : Sound pool)
    {label : ManagerRun.Label cluster} {run : ManagerRun cluster}
    (trusted : pool.Trusted (.manage label)) (other : isLaunch label = false)
    (performed : pool.run.next label = some run) : Honest { pool with run := run } := by
  refine ⟨(honest.fits.next performed).1, fun tid launched => ?_⟩
  refine Eq.trans ?_ (honest.reported tid launched)
  cases label with
  | wake caller =>
      simp only [ManagerRun.next] at performed
      split at performed
      · split at performed
        · cases performed
        · split at performed
          · obtain rfl := Option.some.inj performed
            rfl
          · cases performed
      · cases performed
  | finish caller acquired =>
      simp only [ManagerRun.next] at performed
      split at performed
      · split at performed
        · cases performed
        · obtain rfl := Option.some.inj performed
          exact completions_update rfl
      · cases performed
  | call call =>
      cases call with
      | launch gtid function => cases other
      | allocateThread executionHost functionId argBytes =>
          obtain rfl := Option.some.inj performed
          have different : tid ≠ pool.run.manager.nextTid :=
            Nat.ne_of_lt (sound.begun tid launched).1
          show (Function.update pool.run.story _ _ tid).filterMap _ = _
          rw [ThreadManager.allocateThread, Function.update_of_ne different]
          rfl
      | markLaunching gtid | markRunning gtid | detach gtid =>
          obtain rfl := Option.some.inj performed
          exact ManagerRun.completions_change fun _ _ _ => rfl
      | markCompleted gtid completion =>
          obtain rfl := Option.some.inj performed
          refine ManagerRun.completions_change fun same entry found => ?_
          have home : gtid.homeHost = pool.run.localHost := by
            rw [ThreadManager.find] at found
            split at found
            · assumption
            · cases found
          rw [same] at launched
          exact (launched (trusted home)).elim
      | join caller gtid itself =>
          simp only [ManagerRun.next, ManagerRun.perform] at performed
          split at performed
          · obtain rfl := Option.some.inj performed
            split
            · exact ManagerRun.completions_change fun _ _ _ => rfl
            · exact ManagerRun.completions_change fun _ _ _ => rfl
          · cases performed

/-- Every trusted step keeps records honest. -/
theorem Honest.next (honest : Honest pool) (sound : Sound pool) {label : PoolLabel cluster workers}
    (trusted : pool.Trusted label) (performed : pool.next label = some after) : Honest after := by
  cases label with
  | act worker action => exact honest.act sound performed
  | launch gtid function built onComplete =>
      obtain rfl := Option.some.inj performed
      exact honest.launch sound onComplete trusted
  | manage label =>
      rw [WorkerPool.next] at performed
      split at performed
      · cases performed
      · rename_i other
        obtain ⟨run, stepped, rfl⟩ := Option.map_eq_some_iff.mp performed
        exact honest.manage sound trusted (Bool.not_eq_true _ ▸ other) stepped
  | requestMigration gtid targetHost =>
      obtain rfl := Option.some.inj performed
      refine honest.keep ?_ (fun tid => ?_) (fun _ => rfl) fun _ => id
      · exact (honest.fits.change fun _ _ _ live => live.requestMigration).1
      · exact ManagerRun.completions_change fun _ _ _ => rfl
  | signal flag | tick | stop =>
      obtain rfl := Option.some.inj performed
      exact honest.same rfl rfl

theorem honest_of_reaches {localHost : cluster.Host}
    (execution : Run.ReachesBy next Trusted (initial workers localHost) pool) :
    Honest pool ∧ Sound pool := by
  refine execution.preserves (fun pool => Honest pool ∧ Sound pool)
    ⟨⟨.of_initial localHost, fun _ launched => (launched rfl).elim⟩, .of_initial workers localHost⟩
      ?_
  rintro pool label after ⟨honest, sound⟩ trusted performed
  exact ⟨honest.next sound trusted performed, sound.next performed⟩

/-- The records of launched threads tell what their fibers did. -/
structure Truthful (pool : WorkerPool cluster workers) : Prop where
  /-- Every thread goes through its life in one order. -/
  ordered : ∀ tid, Ordered pool tid
  /-- The record of a thread runs until its worker reports. -/
  running : ∀ tid, pool.story tid ≠ [] → pool.reports tid = [] →
    ∃ entry, pool.run.manager.records tid = some entry ∧ entry.record.state = .running
  completed : ∀ tid, pool.story tid ≠ [] → pool.run.completions tid = pool.reports tid
  /-- A `Join` returns what the fiber has left behind, once everything else is done. -/
  joined : ∀ tid acquired status result, pool.story tid ≠ [] →
    (acquired, status, result) ∈ pool.run.returns tid →
      (∃ resumes, pool.story tid = storyOf resumes (lastEvents (pool.entries tid).outcome)) ∧
        (pool.entries tid).fiber = none ∧ result = (pool.entries tid).outcome.resultValue ∧
        status = ManagerRun.joinStatus acquired (pool.entries tid).outcome

/-- The story of a thread that was reported is complete. -/
theorem Sound.ended (sound : Sound pool) (reported : pool.reports tid ≠ []) :
    (∃ resumes, pool.story tid = storyOf resumes (lastEvents (pool.entries tid).outcome)) ∧
      (pool.entries tid).fiber = none := by
  rw [reports] at reported
  cases sound.standing tid with
  | unlaunched story =>
      rw [story] at reported
      exact (reported rfl).elim
  | queued _ _ story | held _ _ story =>
      rw [story, completions_storyOf] at reported
      exact (reported rfl).elim
  | leaving _ _ _ story _ step =>
      rw [story, completions_storyOf] at reported
      rcases step with ⟨-, rfl⟩ | ⟨-, rfl⟩
      · exact (reported rfl).elim
      · exact (reported rfl).elim
  | ended resumes story _ destroyed => exact ⟨⟨resumes, story⟩, destroyed⟩

theorem Honest.truthful (honest : Honest pool) (sound : Sound pool) : Truthful pool := by
  refine ⟨sound.ordered, fun tid => honest.record sound, honest.reported, ?_⟩
  intro tid acquired status result launched returned
  obtain ⟨completion, completed, value, code⟩ :=
    honest.fits.consumedOnce.reported tid acquired status result returned
  rw [honest.reported tid launched] at completed
  have known : pool.reports tid ≠ [] := by
    rw [completed]
    exact List.cons_ne_nil _ _
  obtain ⟨⟨resumes, story⟩, destroyed⟩ := sound.ended known
  have same : completion = (pool.entries tid).outcome := by
    rw [reports, story, completions_storyOf] at completed
    exact (List.singleton_inj.mp completed).symm
  exact ⟨⟨resumes, story⟩, destroyed, same ▸ value, same ▸ code⟩

/-- In every state of every run in which only workers complete launched threads, a `Join` returns
what the fiber of the thread has left behind. -/
theorem joins_return_fiber_outcomes {localHost : cluster.Host}
    (execution : Run.ReachesBy next Trusted (initial workers localHost) pool) : Truthful pool :=
  let ⟨honest, sound⟩ := honest_of_reaches execution
  honest.truthful sound

/-- A thread parks, is woken, ends and is joined. -/
def parkedOnce : List (PoolLabel ManagerRun.alone 2) :=
  [.manage (.call (.allocateThread ManagerRun.onlyHost 5 [])),
    .manage (.call (.markLaunching ⟨ManagerRun.onlyHost, 0⟩)),
    .launch ⟨ManagerRun.onlyHost, 0⟩ true true true, bySecond .pick, bySecond (.resume true),
    bySecond (.setResult 7), bySecond (.park ⟨3, none⟩), bySecond .settle,
    .manage (.call (.join 4 ⟨ManagerRun.onlyHost, 0⟩ false)), .signal 3, bySecond .pick,
    bySecond (.resume true), bySecond (.finish false none), bySecond .settle, bySecond .retire,
    bySecond .hook, bySecond .report, .manage (.wake 4), .manage (.finish 4 .ok)]

theorem joins_return_fiber_outcomes_parkedOnce :
    ∃ pool, Run.ReachesBy next Trusted (initial 2 ManagerRun.onlyHost) pool ∧
      pool.run.returns 0 = [(.ok, .ok, 7)] ∧ Truthful pool := by
  have outcome : (Run.runLabels next (initial 2 ManagerRun.onlyHost) parkedOnce).any (fun pool =>
      pool.run.returns 0 = [(.ok, .ok, 7)]) = true := by
    decide +kernel
  obtain ⟨pool, execution, returned⟩ := (Option.any_eq_true _ _).mp outcome
  have trusted : ∀ label ∈ parkedOnce, ∀ pool : WorkerPool ManagerRun.alone 2,
      pool.Trusted label := by
    intro label member pool
    simp only [parkedOnce, List.mem_cons, List.not_mem_nil, or_false] at member
    rcases member with rfl | rfl | rfl | rfl | rfl | rfl | rfl | rfl | rfl | rfl | rfl | rfl | rfl |
      rfl | rfl | rfl | rfl | rfl | rfl <;> first | trivial | exact fun unbuilt => nomatch unbuilt
  have reached : Run.ReachesBy next Trusted (initial 2 ManagerRun.onlyHost) pool :=
    Run.reachesBy_of_runLabels execution (Run.admitsLabels_of_forall trusted _)
  exact ⟨pool, reached, of_decide_eq_true returned, joins_return_fiber_outcomes reached⟩

end WorkerPool
end Cxloom.LoomPar
