import Cxloom.LoomPar.WorkerPoolExecution

/-!
# Bounded overtaking

A fiber that is runnable keeps its claim while it is queued: whenever a worker that may take it
looks for a fiber, that worker finds one, and it passes the fiber over at most as often as there are
fibers ahead of it.
-/

namespace Cxloom.LoomPar
namespace WorkerPool

variable {cluster : Cluster} {workers : Nat} {pool after : WorkerPool cluster workers} {tid : Nat}
  {worker : Fin workers} {home : Option (Fin workers)}

/-- Whether a worker may take a fiber that is pinned to `home`. -/
def serves (home : Option (Fin workers)) (worker : Fin workers) (_ : Nat) : Prop :=
  home = none ∨ home = some worker

instance (home : Option (Fin workers)) (tid : Nat) :
    DecidablePred fun worker => serves home worker tid :=
  fun _ => inferInstanceAs (Decidable (_ ∨ _))

/-- A queued fiber that is runnable. -/
structure Waiting (pool : WorkerPool cluster workers) (tid : Nat) (home : Option (Fin workers)) :
    Prop where
  queued : tid ∈ pool.ready
  pinned : (pool.entries tid).worker = home
  /-- It is runnable. -/
  awake : pool.awake tid = true

theorem Waiting.eligible (waiting : Waiting pool tid home) (may : serves home worker tid) :
    pool.eligible worker tid = true := by
  rw [WorkerPool.eligible, waiting.pinned, waiting.awake]
  rcases may with rfl | rfl
  · rfl
  · simp

theorem Waiting.picks (waiting : Waiting pool tid home) (may : serves home worker tid)
    (point : pool.points worker = .searching) : (pool.next (.act worker .pick)).isSome = true := by
  have found := ReadyQueue.take_isSome waiting.queued (waiting.eligible may)
  simp only [next, act, point, Option.isSome_map]
  exact found

theorem awake_mono (entry : after.entries tid = pool.entries tid)
    (flags : ∀ flag, pool.flags flag = true → after.flags flag = true)
    (now : pool.now ≤ after.now) (awake : pool.awake tid = true) : after.awake tid = true := by
  obtain ⟨fiber, built, runnable⟩ := (Option.any_eq_true _ _).mp awake
  refine (Option.any_eq_true _ _).mpr ⟨fiber, (congrArg FiberEntry.fiber entry).trans built, ?_⟩
  rw [WorkerPool.runnable] at runnable ⊢
  split
  · rfl
  · rename_i wait parked
    rw [parked] at runnable
    rcases Bool.or_eq_true_iff.mp runnable with flagged | late
    · rw [flags _ flagged, Bool.true_or]
    · obtain ⟨deadline, there, passed⟩ := (Option.any_eq_true _ _).mp late
      have still : wait.deadline.any (fun deadline => deadline ≤ after.now) = true :=
        (Option.any_eq_true _ _).mpr
          ⟨deadline, there, decide_eq_true ((of_decide_eq_true passed).trans now)⟩
      rw [still, Bool.or_true]

/-- What one step means for a waiting fiber: a service of the ready queue, after which the fiber
still waits unless it was served. -/
structure Serves (pool after : WorkerPool cluster workers) (tid : Nat)
    (home : Option (Fin workers)) (service : Option (Fin workers × Nat)) : Prop where
  move : ReadyQueue.Move (serves home) tid pool.ready service after.ready
  /-- The record of it. -/
  picks : after.picks = pool.picks ++ service.toList
  /-- The fiber. -/
  waiting : (∀ worker, service ≠ some (worker, tid)) → Waiting after tid home

/-- A step that does not serve. -/
theorem Waiting.undisturbed (waiting : Waiting pool tid home)
    (ready : after.ready = pool.ready ∨ ∃ newcomer, after.ready = pool.ready ++ [newcomer])
    (picks : after.picks = pool.picks) (entry : after.entries tid = pool.entries tid)
    (flags : ∀ flag, pool.flags flag = true → after.flags flag = true)
    (now : pool.now ≤ after.now) : Serves pool after tid home none := by
  refine ⟨?_, ?_, fun _ => ⟨?_, ?_, awake_mono entry flags now waiting.awake⟩⟩
  · rcases ready with same | ⟨newcomer, same⟩
    · rw [same]
      exact .idle pool.ready
    · rw [same]
      exact .join pool.ready newcomer
  · rw [picks]
    exact (List.append_nil _).symm
  · rcases ready with same | ⟨newcomer, same⟩
    · rw [same]
      exact waiting.queued
    · rw [same]
      exact List.mem_append_left _ waiting.queued
  · rw [entry]
    exact waiting.pinned

theorem Sound.not_ready (sound : Sound pool) {other : Nat}
    (mine : (pool.points worker).task = some other) : other ∉ pool.ready := by
  cases sound.standing other with
  | unlaunched _ _ _ _ _ unheld
  | queued _ _ _ _ _ _ _ _ unheld | ended _ _ _ _ _ _ unheld => exact (unheld worker mine).elim
  | held _ _ _ _ _ _ _ _ absent | leaving _ _ _ _ _ _ _ _ absent => exact absent

/-- A worker works on another thread. -/
theorem Waiting.elsewhere (waiting : Waiting pool tid home) (sound : Sound pool) {other : Nat}
    (mine : (pool.points worker).task = some other)
    (change : FiberEntry workers → FiberEntry workers) (entries : after.entries =
      Function.update pool.entries other (change (pool.entries other)))
    (ready : after.ready = pool.ready ∨ ∃ newcomer, after.ready = pool.ready ++ [newcomer])
    (picks : after.picks = pool.picks) (flags : after.flags = pool.flags)
    (now : after.now = pool.now) : Serves pool after tid home none := by
  have different : tid ≠ other := by
    rintro rfl
    exact sound.not_ready mine waiting.queued
  refine waiting.undisturbed ready picks ?_ (fun flag set => ?_) now.ge
  · rw [entries, Function.update_of_ne different]
  · rw [flags, set]

theorem Waiting.take (waiting : Waiting pool tid home) {other : Nat} {ready : List Nat}
    (taken : ReadyQueue.take (pool.eligible worker) pool.ready = some (other, ready)) :
    Serves pool (pool.take worker other ready) tid home (some (worker, other)) := by
  refine ⟨.serve _ _ _ _ _ taken waiting.eligible, rfl, fun unserved => ?_⟩
  have different : tid ≠ other := by
    rintro rfl
    exact unserved worker rfl
  have entry : (pool.take worker other ready).entries tid = pool.entries tid :=
    Function.update_of_ne different _ _
  refine ⟨(ReadyQueue.take_mem_iff taken different).mpr waiting.queued, ?_,
    awake_mono entry (fun _ => id) (Nat.le_refl _) waiting.awake⟩
  rw [entry, waiting.pinned]

theorem Waiting.act (waiting : Waiting pool tid home) (sound : Sound pool) {action : WorkerAction}
    (performed : pool.act worker action = some after) :
    ∃ service, Serves pool after tid home service := by
  have quiet :
    ∀ other, pool.entries = Function.update pool.entries other (id (pool.entries other)) :=
    fun other => (Function.update_eq_self other pool.entries).symm
  unfold WorkerPool.act at performed
  split at performed
  case h_1 point =>
    obtain ⟨⟨other, ready⟩, taken, rfl⟩ := Option.map_eq_some_iff.mp performed
    exact ⟨_, waiting.take taken⟩
  case h_2 point =>
    split at performed
    · obtain rfl := Option.some.inj performed
      exact ⟨none, waiting.undisturbed (.inl rfl) rfl rfl (fun _ => id) (Nat.le_refl _)⟩
    · cases performed
  case h_3 switched other point =>
    obtain ⟨fiber, found, rfl⟩ := Option.map_eq_some_iff.mp performed
    have mine : (pool.points worker).task = some other := by rw [point]; rfl
    rw [WorkerPool.resume]
    split
    · exact ⟨none, waiting.elsewhere sound mine _ (quiet other) (.inl rfl) rfl rfl rfl⟩
    · split
      · exact ⟨none, waiting.elsewhere sound mine (.setFiber _) rfl (.inl rfl) rfl rfl rfl⟩
      · exact ⟨none, waiting.elsewhere sound mine (.setFiber _) rfl (.inl rfl) rfl rfl rfl⟩
  case h_4 value other point =>
    obtain rfl := Option.some.inj performed
    exact ⟨none, waiting.elsewhere sound (by rw [point]; rfl) (.setResult value) rfl
      (.inl rfl) rfl rfl rfl⟩
  case h_5 wait other point =>
    obtain ⟨fiber, found, rfl⟩ := Option.map_eq_some_iff.mp performed
    exact ⟨none, waiting.elsewhere sound (by rw [point]; rfl) (.setFiber _) rfl
      (.inl rfl) rfl rfl rfl⟩
  case h_6 other point =>
    split at performed
    · obtain rfl := Option.some.inj performed
      exact ⟨none, waiting.undisturbed (.inl rfl) rfl rfl (fun _ => id) (Nat.le_refl _)⟩
    · obtain ⟨fiber, found, rfl⟩ := Option.map_eq_some_iff.mp performed
      exact ⟨none, waiting.elsewhere sound (by rw [point]; rfl) (.setFiber _) rfl
        (.inl rfl) rfl rfl rfl⟩
  case h_7 failed result other point =>
    obtain ⟨fiber, found, rfl⟩ := Option.map_eq_some_iff.mp performed
    exact ⟨none, waiting.elsewhere sound (by rw [point]; rfl)
      (.finish failed result fiber) rfl (.inl rfl) rfl rfl rfl⟩
  case h_8 other resumed point =>
    have mine : (pool.points worker).task = some other := by rw [point]; rfl
    split at performed
    · obtain rfl := Option.some.inj performed
      exact ⟨none, waiting.elsewhere sound mine (.destroy resumed) rfl (.inl rfl) rfl rfl
        rfl⟩
    · obtain rfl := Option.some.inj performed
      exact ⟨none, waiting.elsewhere sound mine
        (fun entry => { entry with queued := true }) rfl (.inr ⟨other, rfl⟩) rfl rfl rfl⟩
  case h_9 other point =>
    obtain rfl := Option.some.inj performed
    exact ⟨none, waiting.undisturbed (.inl rfl) rfl rfl (fun _ => id) (Nat.le_refl _)⟩
  case h_10 other point =>
    obtain rfl := Option.some.inj performed
    exact ⟨none, waiting.undisturbed (.inl rfl) rfl rfl (fun _ => id) (Nat.le_refl _)⟩
  case h_11 other point =>
    obtain rfl := Option.some.inj performed
    exact ⟨none, waiting.undisturbed (.inl rfl) rfl rfl (fun _ => id) (Nat.le_refl _)⟩
  case h_12 => cases performed

theorem Waiting.launch (waiting : Waiting pool tid home) (sound : Sound pool)
    (gtid : GlobalThreadId cluster) (function built onComplete : Bool) :
    Serves pool (pool.launch gtid function built onComplete) tid home none := by
  rcases pool.launch_outcome gtid function built onComplete with
    same | ⟨entry, record, present, launching, -, -, same⟩
  · rw [same]
    exact waiting.undisturbed (.inl rfl) rfl rfl (fun _ => id) (Nat.le_refl _)
  · obtain ⟨-, -, -, absent, -⟩ :=
      (sound.standing gtid.localTid).of_silent (sound.silent_of_launching present launching)
    have different : tid ≠ gtid.localTid := by
      rintro rfl
      exact absent waiting.queued
    rw [same]
    cases built with
    | true =>
        exact waiting.undisturbed (.inr ⟨gtid.localTid, rfl⟩) rfl
          (Function.update_of_ne different _ _) (fun _ => id) (Nat.le_refl _)
    | false =>
        exact waiting.undisturbed (.inl rfl) rfl (Function.update_of_ne different _ _)
          (fun _ => id) (Nat.le_refl _)

/-- Every step serves at most one fiber and disturbs no waiting one. -/
theorem Waiting.next (waiting : Waiting pool tid home) (sound : Sound pool)
    {label : PoolLabel cluster workers} (performed : pool.next label = some after) :
    ∃ service, Serves pool after tid home service := by
  cases label with
  | act worker action => exact waiting.act sound performed
  | launch gtid function built onComplete =>
      obtain rfl := Option.some.inj performed
      exact ⟨none, waiting.launch sound gtid function built onComplete⟩
  | manage label =>
      rw [WorkerPool.next] at performed
      split at performed
      · cases performed
      · obtain ⟨run, -, rfl⟩ := Option.map_eq_some_iff.mp performed
        exact ⟨none, waiting.undisturbed (.inl rfl) rfl rfl (fun _ => id) (Nat.le_refl _)⟩
  | requestMigration gtid targetHost =>
      obtain rfl := Option.some.inj performed
      exact ⟨none, waiting.undisturbed (.inl rfl) rfl rfl (fun _ => id) (Nat.le_refl _)⟩
  | signal flag =>
      obtain rfl := Option.some.inj performed
      refine ⟨none, waiting.undisturbed (.inl rfl) rfl rfl (fun other set => ?_) (Nat.le_refl _)⟩
      by_cases here : other = flag
      · rw [here]
        exact Function.update_self _ _ _
      · exact (Function.update_of_ne here _ _).trans set
  | tick =>
      obtain rfl := Option.some.inj performed
      exact ⟨none, waiting.undisturbed (.inl rfl) rfl rfl (fun _ => id) (Nat.le_succ _)⟩
  | stop =>
      obtain rfl := Option.some.inj performed
      exact ⟨none, waiting.undisturbed (.inl rfl) rfl rfl (fun _ => id) (Nat.le_refl _)⟩

theorem picks_act {action : WorkerAction} (performed : pool.act worker action = some after) :
    pool.picks <+: after.picks := by
  unfold WorkerPool.act at performed
  split at performed
  case h_1 =>
    obtain ⟨⟨other, ready⟩, -, rfl⟩ := Option.map_eq_some_iff.mp performed
    exact List.prefix_append _ _
  case h_3 switched other point =>
    obtain ⟨fiber, -, rfl⟩ := Option.map_eq_some_iff.mp performed
    rw [WorkerPool.resume]
    split
    · exact List.prefix_rfl
    · split
      · exact List.prefix_rfl
      · exact List.prefix_rfl
  case h_5 | h_7 =>
    obtain ⟨fiber, -, rfl⟩ := Option.map_eq_some_iff.mp performed
    exact List.prefix_rfl
  case h_6 =>
    split at performed
    · obtain rfl := Option.some.inj performed
      exact List.prefix_rfl
    · obtain ⟨fiber, -, rfl⟩ := Option.map_eq_some_iff.mp performed
      exact List.prefix_rfl
  case h_2 =>
    split at performed
    · obtain rfl := Option.some.inj performed
      exact List.prefix_rfl
    · cases performed
  case h_8 =>
    split at performed
    · obtain rfl := Option.some.inj performed
      exact List.prefix_rfl
    · obtain rfl := Option.some.inj performed
      exact List.prefix_rfl
  case h_4 | h_9 | h_10 | h_11 =>
    obtain rfl := Option.some.inj performed
    exact List.prefix_rfl
  case h_12 => cases performed

/-- The record of what was taken only grows. -/
theorem picks_next {label : PoolLabel cluster workers} (performed : pool.next label = some after) :
    pool.picks <+: after.picks := by
  cases label with
  | act worker action => exact picks_act performed
  | launch gtid function built onComplete =>
      obtain rfl := Option.some.inj performed
      rcases pool.launch_outcome gtid function built onComplete with
        same | ⟨_, _, -, -, -, -, same⟩
      · rw [same]
      · rw [same]
        cases built <;> exact List.prefix_rfl
  | manage label =>
      rw [WorkerPool.next] at performed
      split at performed
      · cases performed
      · obtain ⟨run, -, rfl⟩ := Option.map_eq_some_iff.mp performed
        exact List.prefix_rfl
  | requestMigration | signal | tick | stop =>
      obtain rfl := Option.some.inj performed
      exact List.prefix_rfl

/-- A fiber that is runnable and queued in a reachable state keeps its claim: in every later state
it was taken, or every worker that may take it finds a fiber, and the fibers that such workers have
taken since then stood ahead of it. -/
theorem overtaking_bounded {localHost : cluster.Host}
    (execution : Run.Reaches next (initial workers localHost) pool) (queued : tid ∈ pool.ready)
    (awake : pool.awake tid = true) (later : Run.Reaches next pool after) :
    ∃ services, after.picks = pool.picks ++ services ∧
      ((∃ worker, (worker, tid) ∈ services) ∨
        tid ∈ after.ready ∧
          (services.filter fun service => pool.mayTake service.1 tid).length +
              after.ready.idxOf tid ≤ pool.ready.idxOf tid ∧
          ∀ worker, pool.mayTake worker tid → after.points worker = .searching →
            (after.next (.act worker .pick)).isSome = true) := by
  let home := (pool.entries tid).worker
  have sound := (Sound.of_initial workers localHost).reaches execution
  have kept : ∃ services, after.picks = pool.picks ++ services ∧ Sound after ∧
      ((∀ worker, (worker, tid) ∉ services) →
        ReadyQueue.Moves (serves home) tid pool.ready services after.ready ∧
          Waiting after tid home) := by
    induction later with
    | refl => exact ⟨[], (List.append_nil _).symm, sound, fun _ => ⟨.refl _, queued, rfl, awake⟩⟩
    | tail _ last induction =>
        obtain ⟨services, picks, sound, claim⟩ := induction
        obtain ⟨label, -, performed⟩ := last
        by_cases served : ∃ worker, (worker, tid) ∈ services
        · obtain ⟨more, grown⟩ := picks_next performed
          refine ⟨services ++ more, by rw [← grown, picks, List.append_assoc], sound.next performed,
            fun unserved => ?_⟩
          obtain ⟨worker, member⟩ := served
          exact (unserved worker (List.mem_append_left _ member)).elim
        · obtain ⟨moves, waiting⟩ := claim fun worker member => served ⟨worker, member⟩
          obtain ⟨service, step⟩ := waiting.next sound performed
          refine ⟨services ++ service.toList, by rw [step.picks, picks, List.append_assoc],
            sound.next performed, fun unserved => ⟨moves.tail step.move, step.waiting ?_⟩⟩
          rintro worker rfl
          exact unserved worker (List.mem_append_right _ (List.mem_singleton_self _))
  obtain ⟨services, picks, -, claim⟩ := kept
  refine ⟨services, picks, or_iff_not_imp_left.mpr fun served => ?_⟩
  obtain ⟨moves, waiting⟩ := claim fun worker member => served ⟨worker, member⟩
  obtain ⟨-, bound⟩ := moves.overtakes queued fun worker member => served ⟨worker, member⟩
  exact ⟨waiting.queued, bound, fun worker may => waiting.picks may⟩

def threeQueued : List (PoolLabel ManagerRun.alone 2) :=
  [.manage (.call (.allocateThread ManagerRun.onlyHost 5 [])),
    .manage (.call (.allocateThread ManagerRun.onlyHost 5 [])),
    .manage (.call (.allocateThread ManagerRun.onlyHost 5 [])),
    .manage (.call (.markLaunching ⟨ManagerRun.onlyHost, 0⟩)),
    .manage (.call (.markLaunching ⟨ManagerRun.onlyHost, 1⟩)),
    .manage (.call (.markLaunching ⟨ManagerRun.onlyHost, 2⟩)),
    .launch ⟨ManagerRun.onlyHost, 0⟩ true true false,
    .launch ⟨ManagerRun.onlyHost, 1⟩ true true false,
    .launch ⟨ManagerRun.onlyHost, 2⟩ true true false]

def firstYields : List (PoolLabel ManagerRun.alone 2) :=
  [bySecond .pick, bySecond (.resume true), bySecond .safePoint, bySecond .settle, byFirst .pick]

theorem overtaking_bounded_firstYields :
    ∃ pool after : WorkerPool ManagerRun.alone 2, pool.ready = [0, 1, 2] ∧ after.ready = [2, 0] ∧
      ∃ services,
      after.picks = pool.picks ++ services ∧
        ((∃ worker, (worker, 2) ∈ services) ∨ 2 ∈ after.ready ∧
          (services.filter fun service => pool.mayTake service.1 2).length +
              after.ready.idxOf 2 ≤ pool.ready.idxOf 2 ∧
          ∀ worker, pool.mayTake worker 2 → after.points worker = .searching →
            (after.next (.act worker .pick)).isSome = true) := by
  have outcome : (Run.runLabels next (initial 2 ManagerRun.onlyHost) threeQueued).any (fun pool =>
      pool.ready = [0, 1, 2] ∧ pool.awake 2 = true ∧
        (Run.runLabels next pool firstYields).any (fun after => after.ready = [2, 0])) = true := by
    decide +kernel
  obtain ⟨pool, execution, facts⟩ := (Option.any_eq_true _ _).mp outcome
  obtain ⟨queued, awake, continued⟩ := of_decide_eq_true facts
  obtain ⟨after, later, rest⟩ := (Option.any_eq_true _ _).mp continued
  exact ⟨pool, after, queued, of_decide_eq_true rest,
    overtaking_bounded (Run.reaches_of_runLabels execution) (by rw [queued]; decide) awake
      (Run.reaches_of_runLabels later)⟩

end WorkerPool
end Cxloom.LoomPar
