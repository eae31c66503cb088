import Cxloom.LoomPar.ThreadTrace

/-!
# Completion and admission of remote threads

As long as no migration request is accepted for a thread that another host executes, every
completion reaches its record with the outcome that the execution host settled, and the two
counters of every host are exact.  A migration request in the wrong moment makes the home host drop
the completion.  A completion is observed after its capacity is released, unless a `Join` sees a
failed `Launch` before `LaunchThread` goes on.
-/

namespace Cxloom.LoomPar

variable {cluster : Cluster}

/-- Whether the poller has looked a record up for its completion. -/
def ThreadHost.completing (host : ThreadHost cluster) (id : GlobalThreadId cluster) : Bool :=
  match host.handling with
  | .found other _ => other = id
  | .accepted other _ => other = id
  | _ => false

namespace ThreadHost

variable {limits : ThreadLimits} {localHost : cluster.Host} {host after : ThreadHost cluster}

/-- No `Join` waits on a thread whose `Launch` has failed until its capacity is released. -/
def Unwatched (host : ThreadHost cluster) : Prop :=
  ∀ tid entry, host.threads.records tid = some entry → entry.stage = .failed →
    entry.joining = false

theorem Unwatched.congr (unwatched : host.Unwatched) (threads_eq : after.threads = host.threads) :
    after.Unwatched := by
  rw [Unwatched, threads_eq]
  exact unwatched

theorem Unwatched.put {tid : Nat} {replacement : Option (ThreadEntry cluster)}
    (unwatched : host.Unwatched) (threads_eq : after.threads = host.threads.put tid replacement)
    (unseen : ∀ kept, replacement = some kept → kept.stage = .failed → kept.joining = false) :
    after.Unwatched := by
  intro other entry present
  rw [threads_eq] at present
  obtain ⟨-, replaced⟩ | ⟨-, untouched⟩ := put_records_some present
  · exact unseen entry replaced
  · exact unwatched other entry untouched

/-- An entry moves to a stage other than a failed `Launch`, or leaves. -/
theorem Unwatched.goto {tid : Nat} (unwatched : host.Unwatched)
    (entry : Option (ThreadEntry cluster)) {stage : ThreadStage} (well : stage ≠ .failed)
    (threads_eq : after.threads = host.threads.put tid (entry.map (·.goto stage))) :
    after.Unwatched := by
  refine unwatched.put threads_eq fun kept replaced failed => ?_
  obtain ⟨old, -, rfl⟩ := Option.map_eq_some_iff.mp replaced
  exact absurd failed well

/-- An entry changes at its stage, and no `Join` begins. -/
theorem Unwatched.touch {tid : Nat} {entry kept : ThreadEntry cluster}
    (unwatched : host.Unwatched) (present : host.threads.records tid = some entry)
    (threads_eq : after.threads = host.threads.put tid (some kept))
    (stage_eq : kept.stage = entry.stage) (joining_eq : kept.joining = entry.joining) :
    after.Unwatched := by
  refine unwatched.put threads_eq fun other replaced failed => ?_
  obtain rfl := Option.some.inj replaced
  exact joining_eq.trans (unwatched tid entry present (stage_eq.symm.trans failed))

theorem Unwatched.refuse {tid : Nat} {entry : ThreadEntry cluster} {exitCode : Int}
    (unwatched : host.Unwatched) : (host.refuse tid entry exitCode).host.Unwatched := by
  rw [ThreadHost.refuse]
  split
  · exact unwatched
  · exact unwatched.goto _ (by decide) rfl

theorem Unwatched.advance {built : Bool} {effect : ThreadEffect cluster}
    (unwatched : host.Unwatched) (fits : host.Fits limits localHost)
    (performed : host.advance limits localHost built = some effect)
    (unseen : ∀ call entry, host.creating = some call →
      host.threads.records call.tid = some entry → entry.stage = .reserved → built = false →
        entry.joining = false) : effect.host.Unwatched := by
  obtain ⟨call, calling, performed⟩ := Option.bind_eq_some_iff.mp performed
  cases present : host.threads.records call.tid with
  | none =>
      simp only [present] at performed
      obtain rfl := Option.some.inj performed
      rw [advanceAlone]
      split <;> exact unwatched
  | some entry =>
      simp only [present] at performed
      cases stage : entry.stage <;> simp only [stage] at performed
      case created =>
        split_ifs at performed
        · obtain rfl := Option.some.inj performed
          exact unwatched.refuse
        · obtain rfl := Option.some.inj performed
          exact unwatched.goto (some entry) (by decide) rfl
        · obtain rfl := Option.some.inj performed
          exact unwatched.refuse
        · obtain rfl := Option.some.inj performed
          exact unwatched.goto (some entry) (by decide) rfl
      case reserved =>
        have state := (fits.entry present).launching (.inr (.inl stage))
        simp only [ThreadEntry.launch, state] at performed
        cases built with
        | true =>
            obtain rfl := Option.some.inj performed
            exact unwatched.goto (some (entry.setState .running)) (by decide) rfl
        | false =>
            obtain rfl := Option.some.inj performed
            refine unwatched.put rfl fun kept replaced _ => ?_
            obtain rfl := Option.some.inj replaced
            exact unseen call entry calling present stage rfl
      case failed =>
        obtain rfl := Option.some.inj performed
        exact unwatched.goto (some entry) (by decide) rfl
      case refused =>
        split at performed
        · obtain rfl := Option.some.inj performed
          exact unwatched.goto (some entry) (by decide) rfl
        · obtain ⟨-, performed⟩ := Option.ite_none_right_eq_some.mp performed
          obtain rfl := Option.some.inj performed
          exact unwatched.put rfl (by simp)
      case admitted =>
        obtain rfl := Option.some.inj performed
        exact unwatched.goto (some entry) (by decide) rfl
      case counted =>
        obtain rfl := Option.some.inj performed
        exact unwatched.goto (some entry) (by decide) rfl
      all_goals simp at performed


theorem Unwatched.transact {id : GlobalThreadId cluster} {missing : String}
    {transition : ThreadEntry cluster → Except Status (Option (ThreadEntry cluster))}
    (unwatched : host.Unwatched)
    (threads_eq : after.threads = (host.threads.transactAs missing localHost id transition).2)
    (unseen : ∀ entry kept, host.threads.find localHost id = some entry →
      transition entry = .ok (some kept) → kept.stage = .failed → kept.joining = false) :
    after.Unwatched := by
  simp only [ThreadManager.transactAs] at threads_eq
  cases there : host.threads.find localHost id with
  | none =>
      simp only [there] at threads_eq
      exact unwatched.congr threads_eq
  | some entry =>
      cases moved : transition entry with
      | error status =>
          simp only [there, moved] at threads_eq
          exact unwatched.congr threads_eq
      | ok replacement =>
          simp only [there, moved] at threads_eq
          refine unwatched.put threads_eq fun kept replaced => ?_
          exact unseen entry kept there (by rw [moved, replaced])

theorem Unwatched.create {target : cluster.Host} {function : UInt64} {arguments : List UInt8}
    {clusterFunction : Bool} {effect : ThreadEffect cluster} (unwatched : host.Unwatched)
    (performed : host.create localHost target function arguments clusterFunction = some effect) :
    effect.host.Unwatched := by
  obtain rfl | ⟨-, rfl⟩ := create_cases performed
  · exact unwatched
  · intro tid entry present failed
    simp only [quietly, Function.update_apply] at present
    split at present
    case isTrue =>
      obtain rfl := Option.some.inj present
      cases failed
    case isFalse => exact unwatched tid entry present failed

theorem Unwatched.handle {built : Bool} {effect : ThreadEffect cluster}
    (unwatched : host.Unwatched) (fits : host.Fits limits localHost)
    (performed : host.handle localHost built = some effect) : effect.host.Unwatched := by
  cases handling : host.handling with
  | idle => simp [ThreadHost.handle, handling] at performed
  | launching id tid =>
      simp only [ThreadHost.handle, handling] at performed
      obtain ⟨entry, -, performed⟩ := Option.bind_eq_some_iff.mp performed
      split at performed <;> obtain rfl := Option.some.inj performed <;> exact unwatched
  | registering id tid launched =>
      simp only [ThreadHost.handle, handling] at performed
      obtain rfl := Option.some.inj performed
      exact unwatched
  | acknowledged id =>
      simp only [ThreadHost.handle, handling] at performed
      obtain rfl := Option.some.inj performed
      refine unwatched.transact rfl fun entry kept there moved failed => ?_
      have past := (fits.poller.acknowledged id handling).2 entry there
      rw [ThreadEntry.markRunning] at moved
      split_ifs at moved <;> obtain rfl := Option.some.inj (Except.ok.inj moved)
      · simp [failed] at past
      · simp only [ThreadEntry.setState] at failed
        simp [failed] at past
  | found id completion =>
      simp only [ThreadHost.handle, handling] at performed
      obtain rfl := Option.some.inj performed
      refine unwatched.transact rfl fun entry kept _ moved failed => ?_
      obtain rfl := Option.some.inj (Except.ok.inj moved)
      cases failed
  | accepted id completion =>
      simp only [ThreadHost.handle, handling] at performed
      split at performed
      · obtain rfl := Option.some.inj performed
        exact unwatched
      · split at performed
        · obtain rfl := Option.some.inj performed
          exact unwatched
        · obtain rfl := Option.some.inj performed
          exact unwatched.goto _ (by decide) rfl

theorem Unwatched.moveMigration {tid : Nat} {source target : MigrationState}
    {effect : ThreadEffect cluster} (unwatched : host.Unwatched)
    (performed : host.moveMigration tid source target = some effect) : effect.host.Unwatched := by
  obtain ⟨entry, present, performed⟩ := Option.bind_eq_some_iff.mp performed
  obtain ⟨-, performed⟩ := Option.ite_none_right_eq_some.mp performed
  simp only [ThreadEntry.moveMigration] at performed
  obtain rfl := Option.some.inj performed
  split <;> exact unwatched.touch present rfl rfl rfl

/-- Every action without a migration request that does not show a failure keeps it unseen. -/
theorem Unwatched.act {op : ThreadOp cluster} {effect : ThreadEffect cluster}
    (unwatched : host.Unwatched) (fits : host.Fits limits localHost)
    (performed : host.act limits localHost op = some effect)
    (advances : ∀ call entry, op = .advance false → host.creating = some call →
      host.threads.records call.tid = some entry → entry.stage = .reserved →
        entry.joining = false)
    (joins : ∀ id entry, op = .join id → host.threads.find localHost id = some entry →
      entry.stage ≠ .failed) : effect.host.Unwatched := by
  cases op with
  | create => exact unwatched.create performed
  | advance built =>
      refine unwatched.advance fits performed fun call entry calling present stage failing => ?_
      exact advances call entry (by rw [failing]) calling present stage
  | finish tid failed result =>
      obtain ⟨entry, present, performed⟩ := Option.bind_eq_some_iff.mp performed
      obtain ⟨-, performed⟩ := Option.ite_none_right_eq_some.mp performed
      obtain rfl := Option.some.inj performed
      exact unwatched.goto (some { entry with outcome := fiberOutcome failed result }) (by decide)
        rfl
  | hook tid =>
      obtain ⟨entry, present, performed⟩ := Option.bind_eq_some_iff.mp performed
      obtain ⟨-, performed⟩ := Option.ite_none_right_eq_some.mp performed
      obtain rfl := Option.some.inj performed
      exact unwatched.goto (some entry) (by decide) rfl
  | complete tid =>
      obtain ⟨entry, present, performed⟩ := Option.bind_eq_some_iff.mp performed
      obtain ⟨-, performed⟩ := Option.ite_none_right_eq_some.mp performed
      split at performed
      · cases performed
      · obtain rfl := Option.some.inj performed
        exact unwatched.goto _ (by decide) rfl
  | finishRemote tid failed result =>
      obtain ⟨entry, -, performed⟩ := Option.bind_eq_some_iff.mp performed
      obtain ⟨-, performed⟩ := Option.ite_none_right_eq_some.mp performed
      obtain rfl := Option.some.inj performed
      exact unwatched
  | completeRemote tid =>
      obtain ⟨entry, -, performed⟩ := Option.bind_eq_some_iff.mp performed
      obtain ⟨-, performed⟩ := Option.ite_none_right_eq_some.mp performed
      split at performed
      · cases performed
      · obtain rfl := Option.some.inj performed
        exact unwatched
  | handle built => exact unwatched.handle fits performed
  | reap index =>
      obtain ⟨execution, -, performed⟩ := Option.bind_eq_some_iff.mp performed
      obtain ⟨-, performed⟩ := Option.ite_none_left_eq_some.mp performed
      obtain ⟨entry, -, performed⟩ := Option.bind_eq_some_iff.mp performed
      obtain ⟨-, performed⟩ := Option.ite_none_right_eq_some.mp performed
      obtain rfl := Option.some.inj performed
      exact unwatched
  | publish index =>
      obtain ⟨execution, -, performed⟩ := Option.bind_eq_some_iff.mp performed
      obtain ⟨report, -, rfl⟩ := Option.map_eq_some_iff.mp performed
      exact unwatched
  | join id =>
      obtain rfl := Option.some.inj performed
      refine unwatched.transact rfl fun entry kept there joined failed => ?_
      rw [ThreadEntry.join] at joined
      split_ifs at joined
      obtain rfl := Option.some.inj (Except.ok.inj joined)
      exact absurd failed (joins id entry rfl there)
  | joinReturn tid =>
      obtain ⟨entry, -, performed⟩ := Option.bind_eq_some_iff.mp performed
      obtain ⟨-, performed⟩ := Option.ite_none_right_eq_some.mp performed
      obtain rfl := Option.some.inj performed
      exact unwatched.put rfl (by simp)
  | detach id =>
      obtain ⟨busy, performed⟩ := Option.ite_none_left_eq_some.mp performed
      split at performed
      · obtain rfl := Option.some.inj performed
        exact unwatched
      · rename_i entry there
        have present := (find_some there).2
        rw [ThreadEntry.detach] at performed
        split_ifs at performed
        · obtain rfl := Option.some.inj performed
          exact unwatched
        · obtain rfl := Option.some.inj performed
          exact unwatched
        · obtain rfl := Option.some.inj performed
          exact unwatched.put rfl (by simp)
        · obtain rfl := Option.some.inj performed
          exact unwatched.touch present rfl rfl rfl
  | requestMigration id targetHost =>
      obtain rfl | ⟨entry, there, -, -, rfl⟩ := requestMigration_cases performed
      · exact unwatched
      · exact unwatched.touch (find_some there).2 rfl rfl rfl
  | safePoint tid | requeue tid => exact unwatched.moveMigration performed

end ThreadHost

namespace ThreadWorld

variable {limits : cluster.Host → ThreadLimits} {world after : ThreadWorld cluster}

/-- An action that accepts a migration request for a home record executed by another host before
the poller has looked that record up for its completion. -/
def overtakesCompletion (world : ThreadWorld cluster) : ThreadLabel cluster → Bool
  | .act host (.requestMigration id _) =>
      ((world.hosts host).threads.find host id).any fun entry =>
        entry.record.state = .running ∧ entry.record.migrationState = .pinned ∧
          entry.record.executionHost ≠ host ∧ (world.hosts host).completing id = false
  | _ => false

def MigratesSafely (world : ThreadWorld cluster) (label : ThreadLabel cluster) : Prop :=
  world.overtakesCompletion label = false

instance decidableMigratesSafely (world : ThreadWorld cluster) (label : ThreadLabel cluster) :
    Decidable (MigratesSafely world label) := inferInstanceAs (Decidable (_ = _))

def asksMigration : ThreadLabel cluster → Bool
  | .act _ (.requestMigration _ _) => true
  | _ => false

def WithoutMigration (_ : ThreadWorld cluster) (label : ThreadLabel cluster) : Prop :=
  asksMigration label = false

instance decidableWithoutMigration (world : ThreadWorld cluster) (label : ThreadLabel cluster) :
    Decidable (WithoutMigration world label) := inferInstanceAs (Decidable (_ = _))

theorem migratesSafely_of_withoutMigration {label : ThreadLabel cluster}
    (without : WithoutMigration world label) : MigratesSafely world label := by
  cases label with
  | deliver => rfl
  | act host op =>
      cases op with
      | requestMigration => cases without
      | _ => rfl

/-- Every action of a host keeps the cluster coherent. -/
theorem Coherent.outcome {localHost : cluster.Host} {effect : ThreadEffect cluster}
    (coherent : world.Coherent limits)
    (outcome : (world.hosts localHost).Outcome (limits localHost) localHost effect) :
    (world.apply localHost effect).Coherent limits := by
  have fits := outcome.fits (coherent.fits localHost)
  cases outcome with
  | unchanged => exact coherent.view fits rfl rfl ⟨rfl, rfl, rfl⟩
  | dismissed handling =>
      refine coherent.view fits rfl rfl ?_
      simp [ThreadHost.settingUp, ThreadHost.finding, ThreadHost.accepting, handling]
  | created free => exact coherent.created free
  | @alone call calling gone =>
      rw [ThreadHost.advanceAlone] at fits ⊢
      split_ifs at fits ⊢ <;> exact coherent.view fits rfl rfl ⟨rfl, rfl, rfl⟩
  | replaced replaces => exact coherent.replaced replaces
  | dispatched calling present stage => exact coherent.dispatched fits present stage rfl
  | executed => exact coherent.view fits rfl rfl ⟨rfl, rfl, rfl⟩
  | built handling =>
      refine coherent.view fits rfl rfl ?_
      simp [ThreadHost.settingUp, ThreadHost.finding, ThreadHost.accepting, handling]
  | registered handling => exact coherent.registered fits handling rfl
  | accepts handling present stage => exact coherent.accepts fits handling present stage rfl
  | settles handling present stage completes =>
      exact coherent.settles fits handling present stage completes rfl
  | reaped listed _ _ epoch => exact coherent.reaped fits listed epoch rfl
  | published listed reaped => exact coherent.published fits listed reaped rfl

theorem Coherent.requestMigration {localHost targetHost : cluster.Host}
    {id : GlobalThreadId cluster} (coherent : world.Coherent limits)
    (safely : MigratesSafely world (.act localHost (.requestMigration id targetHost)))
    (performed : world.next limits (.act localHost (.requestMigration id targetHost)) =
      some after) : after.Coherent limits := by
  rw [next] at performed
  obtain ⟨effect, acted, rfl⟩ := Option.map_eq_some_iff.mp performed
  obtain rfl | ⟨entry, there, running, pinned, rfl⟩ := ThreadHost.requestMigration_cases acted
  · exact coherent.view (coherent.fits localHost) rfl rfl ⟨rfl, rfl, rfl⟩
  · refine coherent.migrates there running (fun stage => ?_) rfl
    have recorded := (ThreadHost.find_some there).2
    have away := ((coherent.fits localHost).entry recorded).away (by simp [stage])
    have completing : (world.hosts localHost).completing id = true := by
      simpa [MigratesSafely, overtakesCompletion, there, running, pinned, away] using safely
    simp only [ThreadHost.completing] at completing
    split at completing
    case h_1 other completion handling =>
      obtain rfl : other = id := by simpa using completing
      exact ⟨completion, by simp [ThreadHost.finding, handling]⟩
    case h_2 other completion handling =>
      obtain rfl : other = id := by simpa using completing
      obtain ⟨record, found, accepted⟩ :=
        (coherent.fits localHost).poller.accepted _ completion handling
      obtain rfl := Option.some.inj (there.symm.trans found)
      rw [stage] at accepted
      cases accepted
    case h_3 => cases completing

theorem Coherent.step {label : ThreadLabel cluster} (coherent : world.Coherent limits)
    (safely : MigratesSafely world label) (performed : world.next limits label = some after) :
    after.Coherent limits := by
  cases label with
  | deliver position resolved => exact coherent.deliver performed
  | act localHost op =>
      by_cases migration : ∃ id targetHost, op = .requestMigration id targetHost
      · obtain ⟨id, targetHost, rfl⟩ := migration
        exact coherent.requestMigration safely performed
      · obtain ⟨effect, acted, rfl⟩ := Option.map_eq_some_iff.mp performed
        refine coherent.outcome ((coherent.fits localHost).act (fun id targetHost same => ?_) acted)
        exact migration ⟨id, targetHost, same⟩

theorem coherent_initial (limits : cluster.Host → ThreadLimits) :
    (initial cluster).Coherent limits where
  fits host := ThreadHost.fits_initial (limits host) host
  traced id := by
    have nothing : ∀ host, ((initial cluster).hosts host).carrying id = 0 := fun _ => rfl
    refine traced_of_load_zero ?_ ?_ ?_ ?_ ?_ ?_ ?_
    · simp only [load, nothing, Finset.sum_const_zero]
      rfl
    · simp [home, initial, ThreadHost.initial, ThreadManager.initial]
    · simp [initial]
    · simp [initial, ThreadHost.initial, ThreadHost.accepting]
    · simp [home, initial, ThreadHost.initial, ThreadManager.initial]
    · simp [home, initial, ThreadHost.initial, ThreadManager.initial]
    · simp [initial]

theorem coherent_of_reaches
    (execution : Run.ReachesBy (next limits) MigratesSafely (initial cluster) world) :
    world.Coherent limits :=
  execution.preserves (Coherent limits) (coherent_initial limits)
    fun _ _ _ coherent safely performed => coherent.step safely performed

/-- In every run without dangerous migration requests, a record whose completion was handled is
completed with the outcome that the execution host settled and a `Join` on it can return, or it has
been detached or joined with that outcome. -/
theorem completion_not_lost {id : GlobalThreadId cluster}
    (execution : Run.ReachesBy (next limits) MigratesSafely (initial cluster) world)
    (handled : world.history.handled id = true) :
    (∀ entry, world.home id = some entry →
      entry.record.state = .completed ∧
        world.history.recorded id = some entry.record.completion ∧
        (entry.joining = true →
          (world.next limits (.act id.homeHost (.joinReturn id.localTid))).isSome)) ∧
      (world.home id = none →
        world.history.departed id = some .detached ∨
          ∃ completion, world.history.departed id = some (.joined completion) ∧
            world.history.recorded id = some completion) := by
  have coherent := coherent_of_reaches execution
  obtain ⟨-, settled, departed⟩ := (coherent.traced id).handled handled
  refine ⟨fun entry present => ?_, departed⟩
  obtain ⟨stage, away⟩ := settled entry present
  have completed := ((coherent.fits id.homeHost).entry present).completed (.inr (.inr stage))
  refine ⟨completed, (coherent.traced id).settled entry present stage away, fun joining => ?_⟩
  rw [home] at present
  simp [next, ThreadHost.act, ThreadHost.joinReturn, present, joining, completed]

def pair : Cluster := ⟨2, 8, Nat.two_pos, two_le_kMaxHosts⟩

/-- The host that creates. -/
def origin : pair.Host := ⟨0, by decide⟩

def executor : pair.Host := ⟨1, by decide⟩

def unlimited (_ : pair.Host) : ThreadLimits := ⟨0, 0⟩

/-- A host creates a thread on the other host, which starts it and acknowledges. -/
def remoteStart : List (ThreadLabel pair) :=
  [.act origin (.create executor 5 [] false), .act origin (.advance true),
    .act origin (.advance true), .act origin (.advance true), .deliver 0 true,
    .act executor (.handle true), .act executor (.handle true), .deliver 0 true,
    .act origin (.handle true), .act origin (.join ⟨origin, 0⟩)]

/-- The execution ends with the value seven and is reported. -/
def remoteEnd : List (ThreadLabel pair) :=
  [.act executor (.finishRemote 0 false 7), .act executor (.completeRemote 0),
    .act executor (.reap 0), .act executor (.publish 0), .deliver 0 true]

/-- A migration request arrives while the completion is being accepted. -/
def lateMigrationOps : List (ThreadLabel pair) :=
  remoteStart ++ remoteEnd ++
    [ThreadLabel.act origin (.handle true), .act origin (.requestMigration ⟨origin, 0⟩ executor),
      .act origin (.handle true)]

/-- A migration request arrives between the acknowledgement and the completion. -/
def earlyMigrationOps : List (ThreadLabel pair) :=
  remoteStart ++ [ThreadLabel.act origin (.requestMigration ⟨origin, 0⟩ executor)] ++ remoteEnd

theorem completion_not_lost_late :
    ∃ world, Run.runLabels (next unlimited) (initial pair) lateMigrationOps = some world ∧
      world.history.recorded ⟨origin, 0⟩ = some ⟨0, 7⟩ ∧
      ∀ entry, world.home ⟨origin, 0⟩ = some entry → entry.record.completion = ⟨0, 7⟩ := by
  have outcome : (Run.runLabels (next unlimited) (initial pair) lateMigrationOps).any (fun world =>
      world.history.handled ⟨origin, 0⟩ = true ∧
        world.history.recorded ⟨origin, 0⟩ = some ⟨0, 7⟩) = true := by
    decide +kernel
  have safely : Run.AdmitsLabels (next unlimited) MigratesSafely (initial pair)
      lateMigrationOps := by
    decide +kernel
  obtain ⟨world, execution, facts⟩ := (Option.any_eq_true _ _).mp outcome
  obtain ⟨handled, recorded⟩ := of_decide_eq_true facts
  refine ⟨world, execution, recorded, fun entry present => ?_⟩
  have kept := (completion_not_lost (Run.reachesBy_of_runLabels execution safely) handled).1 entry
    present
  exact Option.some.inj (kept.2.1.symm.trans recorded)

/-- The completion is dropped, nothing is in flight any more and the `Join` cannot return. -/
theorem migration_loses_completion :
    ∃ world, Run.Reaches (next unlimited) (initial pair) world ∧
      world.history.handled ⟨origin, 0⟩ = true ∧
      world.history.recorded ⟨origin, 0⟩ = some ⟨0, 7⟩ ∧
      (∃ entry, world.home ⟨origin, 0⟩ = some entry ∧ entry.record.state = .running ∧
        entry.joining = true) ∧
      (world.next unlimited (.act origin (.joinReturn 0))).isNone ∧ world.network = [] := by
  have outcome : (Run.runLabels (next unlimited) (initial pair) earlyMigrationOps).any (fun world =>
      world.history.handled ⟨origin, 0⟩ = true ∧
        world.history.recorded ⟨origin, 0⟩ = some ⟨0, 7⟩ ∧
        (world.home ⟨origin, 0⟩).any (fun entry => entry.record.state = .running ∧
          entry.joining = true) = true ∧
        (world.next unlimited (.act origin (.joinReturn 0))).isNone ∧ world.network = []) =
          true := by
    decide +kernel
  obtain ⟨world, execution, facts⟩ := (Option.any_eq_true _ _).mp outcome
  obtain ⟨handled, recorded, running, blocked, empty⟩ := of_decide_eq_true facts
  obtain ⟨entry, present, waiting⟩ := (Option.any_eq_true _ _).mp running
  exact ⟨world, Run.reaches_of_runLabels execution, handled, recorded,
    ⟨entry, present, of_decide_eq_true waiting⟩, blocked, empty⟩

/-- A host performs a thread of another host and holds capacity for it. -/
def Occupies (world : ThreadWorld cluster) (host : cluster.Host) (id : GlobalThreadId cluster) :
    Prop :=
  (world.hosts host).settingUp = some id ∨
    ∃ execution ∈ (world.hosts host).remoteExecutions, execution.home = id ∧
      ((world.hosts host).executions.records execution.localTid).isSome

def holdsFor (world : ThreadWorld cluster) (id : GlobalThreadId cluster) : Bool :=
  (world.home id).any (fun entry => entry.stage.holdsCapacity) ∨
    (LaunchCall.on (world.hosts id.homeHost).creating id.localTid).any (·.holding)

/-- A caller on the home host sees by an action that a thread is completed: `Join` begins or
returns, or `Detach` finds the record. -/
def Observes (world : ThreadWorld cluster) (id : GlobalThreadId cluster)
    (label : ThreadLabel cluster) : Prop :=
  ∃ entry, world.home id = some entry ∧ entry.record.state = .completed ∧
    (label = .act id.homeHost (.join id) ∨
      label = .act id.homeHost (.joinReturn id.localTid) ∧ entry.joining = true ∨
      label = .act id.homeHost (.detach id) ∧ (world.hosts id.homeHost).creating = none)

/-- An action that shows a failed `Launch` to a `Join` while its capacity is reserved: the fiber
cannot be built although a `Join` waits, or a `Join` begins right after the failure. -/
def exposesFailure (world : ThreadWorld cluster) : ThreadLabel cluster → Bool
  | .act host (.advance built) =>
      built = false ∧ (world.hosts host).creating.any fun call =>
        ((world.hosts host).threads.records call.tid).any fun entry =>
          entry.stage = .reserved ∧ entry.joining
  | .act host (.join id) =>
      ((world.hosts host).threads.find host id).any fun entry => entry.stage = .failed
  | _ => false

/-- Nobody asks for a migration, and no `Join` sees a failed `Launch` too early. -/
def FailsUnseen (world : ThreadWorld cluster) (label : ThreadLabel cluster) : Prop :=
  WithoutMigration world label ∧ world.exposesFailure label = false

instance decidableFailsUnseen (world : ThreadWorld cluster) (label : ThreadLabel cluster) :
    Decidable (FailsUnseen world label) := inferInstanceAs (Decidable (_ ∧ _))

/-- No `Join` waits on a failed `Launch` on any host. -/
def Unwatched (world : ThreadWorld cluster) : Prop := ∀ host, (world.hosts host).Unwatched

theorem Unwatched.apply {localHost : cluster.Host} {effect : ThreadEffect cluster}
    (unwatched : world.Unwatched) (moved : effect.host.Unwatched) :
    (world.apply localHost effect).Unwatched := by
  intro host
  by_cases same : host = localHost
  · subst same
    rwa [apply_hosts_self]
  · rw [apply_hosts_of_ne same]
    exact unwatched host

theorem Unwatched.step {label : ThreadLabel cluster} (unwatched : world.Unwatched)
    (coherent : world.Coherent limits) (unseen : FailsUnseen world label)
    (performed : world.next limits label = some after) : after.Unwatched := by
  cases label with
  | deliver position resolved =>
      obtain ⟨message, -, performed⟩ := Option.bind_eq_some_iff.mp performed
      obtain ⟨effect, received, rfl⟩ := Option.map_eq_some_iff.mp performed
      have dropped : ThreadWorld.Unwatched
          { world with network := world.network.eraseIdx position } := unwatched
      exact dropped.apply
        ((unwatched message.target).congr (ThreadHost.receive_cases received).2.threads_eq)
  | act localHost op =>
      rw [next] at performed
      obtain ⟨effect, acted, rfl⟩ := Option.map_eq_some_iff.mp performed
      refine unwatched.apply ((unwatched localHost).act (coherent.fits localHost) acted ?_ ?_)
      · rintro call entry rfl calling present stage
        simpa [FailsUnseen, exposesFailure, calling, present, stage] using unseen.2
      · rintro id entry rfl there failed
        simp [FailsUnseen, exposesFailure, there, failed] at unseen

theorem unwatched_of_reaches
    (execution : Run.ReachesBy (next limits) FailsUnseen (initial cluster) world) :
    world.Coherent limits ∧ world.Unwatched := by
  refine execution.preserves (fun world => world.Coherent limits ∧ world.Unwatched)
    ⟨coherent_initial limits, ?_⟩ ?_
  · intro host tid entry present
    cases present
  · rintro state label later ⟨coherent, unwatched⟩ unseen performed
    exact ⟨coherent.step (migratesSafely_of_withoutMigration unseen.1) performed,
      unwatched.step coherent unseen performed⟩

/-- The counters of every host are exact, not negative and within their limits. -/
theorem Coherent.counters (coherent : world.Coherent limits) (host : cluster.Host) :
    (world.hosts host).localRunning = (world.hosts host).admitted ∧
      (world.hosts host).localPending = (world.hosts host).outstanding ∧
      0 ≤ (world.hosts host).localRunning ∧ 0 ≤ (world.hosts host).localPending ∧
      ((limits host).maxRunningThreadsPerHost ≠ 0 →
        (world.hosts host).localRunning ≤ (limits host).maxRunningThreadsPerHost) ∧
      ((limits host).maxPendingCreatesPerHost ≠ 0 →
        (world.hosts host).localPending ≤ (limits host).maxPendingCreatesPerHost) := by
  obtain ⟨accounts, -, -⟩ := coherent.fits host
  refine ⟨accounts.running, accounts.pending, ?_, ?_, accounts.running_le, accounts.pending_le⟩
  · rw [accounts.running]
    exact Int.natCast_nonneg _
  · rw [accounts.pending]
    exact Int.natCast_nonneg _

/-- A thread whose completion is observed has released its capacity at home. -/
theorem Coherent.released {id : GlobalThreadId cluster} {label : ThreadLabel cluster}
    (coherent : world.Coherent limits) (unwatched : world.Unwatched)
    (unseen : FailsUnseen world label) (observed : world.Observes id label) :
    world.holdsFor id = false := by
  obtain ⟨entry, present, completed, how⟩ := observed
  have fits := (coherent.fits id.homeHost).entry present
  have stage := fits.of_completed completed
  have well : entry.stage ≠ .failed := by
    intro failed
    obtain rfl | ⟨-, joining⟩ | ⟨-, free⟩ := how
    · have there : (world.hosts id.homeHost).threads.find id.homeHost id = some entry :=
        (ThreadHost.find_eq _ _ _).trans present
      simp [FailsUnseen, exposesFailure, there, failed] at unseen
    · rw [unwatched id.homeHost id.localTid entry present failed] at joining
      cases joining
    · have creation := fits.creation
      simp [failed, free] at creation
  have holding := fits.holding
  obtain stage | stage | stage | stage := stage
  · exact absurd stage well
  all_goals simp [holdsFor, present, stage, ← holding]

/-- In every run without migration requests in which no `Join` sees a failed `Launch` before its
capacity is released, the counters of every host are exact, not negative and within their limits,
and whoever observes that a thread is completed does so after its capacity was released, at home
and where it was executed. -/
theorem admission_exact
    (execution : Run.ReachesBy (next limits) FailsUnseen (initial cluster) world)
    (host : cluster.Host) :
    (world.hosts host).localRunning = (world.hosts host).admitted ∧
      (world.hosts host).localPending = (world.hosts host).outstanding ∧
      0 ≤ (world.hosts host).localRunning ∧ 0 ≤ (world.hosts host).localPending ∧
      ((limits host).maxRunningThreadsPerHost ≠ 0 →
        (world.hosts host).localRunning ≤ (limits host).maxRunningThreadsPerHost) ∧
      ((limits host).maxPendingCreatesPerHost ≠ 0 →
        (world.hosts host).localPending ≤ (limits host).maxPendingCreatesPerHost) ∧
      ∀ tid label, FailsUnseen world label → world.Observes ⟨host, tid⟩ label →
        world.holdsFor ⟨host, tid⟩ = false ∧ ∀ other, ¬world.Occupies other ⟨host, tid⟩ := by
  obtain ⟨coherent, unwatched⟩ := unwatched_of_reaches execution
  obtain ⟨running, pending, running_nonneg, pending_nonneg, running_le, pending_le⟩ :=
    coherent.counters host
  refine ⟨running, pending, running_nonneg, pending_nonneg, running_le, pending_le, ?_⟩
  intro tid label unseen observed
  refine ⟨coherent.released unwatched unseen observed, fun other occupies => ?_⟩
  obtain ⟨entry, present, completed, -⟩ := observed
  have undispatched : entry.stage ≠ .dispatched := by
    obtain stage | stage | stage | stage :=
      ((coherent.fits host).entry present).of_completed completed <;> simp [stage]
  obtain ⟨-, places⟩ := uncarried ((coherent.traced ⟨host, tid⟩).load_eq_zero
    (by simp [present, undispatched]))
  obtain busy | ⟨each, listed, about, -⟩ := occupies
  · exact (places other).2.1 busy
  · exact (places other).1 each listed about

/-- One execution at a time and one pending creation; a local creation and a second remote one are
refused. -/
def single (_ : pair.Host) : ThreadLimits := ⟨1, 1⟩

/-- The thread of a remote creation runs while further creations are refused.  Then the fiber of a
local one cannot be built, and a `Join` comes before the record is reclaimed. -/
def refusedOps : List (ThreadLabel pair) :=
  remoteStart ++
    [ThreadLabel.act origin (.create executor 5 [] false), .act origin (.advance true),
      .act origin (.advance true), .act executor (.create executor 5 [] false),
      .act executor (.advance true), .act executor (.advance true)] ++ remoteEnd ++
    [ThreadLabel.act origin (.handle true), .act origin (.handle true),
      .act origin (.create origin 5 [] false), .act origin (.advance true),
      .act origin (.advance false), .act origin (.advance true), .act origin (.join ⟨origin, 2⟩),
      .act origin (.advance true)]

theorem admission_exact_refused :
    ∃ world, Run.runLabels (next single) (initial pair) refusedOps = some world ∧
      (world.hosts origin).localPending = 0 ∧ (world.hosts executor).localRunning = 0 ∧
      (world.hosts origin).outstanding = 0 ∧ (world.hosts executor).admitted = 0 ∧
      (world.next single (.act origin (.joinReturn 2))).isSome ∧
      world.holdsFor ⟨origin, 2⟩ = false := by
  have outcome : (Run.runLabels (next single) (initial pair) refusedOps).any (fun world =>
      (world.hosts origin).localPending = 0 ∧ (world.hosts executor).localRunning = 0 ∧
        (world.next single (.act origin (.joinReturn 2))).isSome ∧
        (world.home ⟨origin, 2⟩).any (fun entry => entry.record.state = .completed ∧
          entry.joining = true) = true) = true := by
    decide +kernel
  have unseen : Run.AdmitsLabels (next single) FailsUnseen (initial pair) refusedOps := by
    decide +kernel
  obtain ⟨world, execution, facts⟩ := (Option.any_eq_true _ _).mp outcome
  obtain ⟨pending, running, returns, waiting⟩ := of_decide_eq_true facts
  obtain ⟨entry, present, waits⟩ := (Option.any_eq_true _ _).mp waiting
  obtain ⟨completed, joining⟩ := of_decide_eq_true waits
  have reached := Run.reachesBy_of_runLabels execution unseen
  have exact_origin := admission_exact reached origin
  have exact_executor := (admission_exact reached executor).1
  have released := exact_origin.2.2.2.2.2.2 2 (.act origin (.joinReturn 2)) ⟨rfl, rfl⟩
    ⟨entry, present, completed, .inr (.inl ⟨rfl, joining⟩)⟩
  exact ⟨world, execution, pending, running, by omega, by omega, returns, released.1⟩

/-- A `Join` waits on a thread whose creation is under way, and its fiber cannot be built. -/
def watchedFailureOps : List (ThreadLabel pair) :=
  [.act origin (.create origin 5 [] false), .act origin (.advance true),
    .act origin (.join ⟨origin, 0⟩), .act origin (.advance false)]

/-- The `Join` can return although the running capacity of the thread is still reserved. -/
theorem failed_launch_joined_early :
    ∃ world, Run.ReachesBy (next unlimited) WithoutMigration (initial pair) world ∧
      world.Observes ⟨origin, 0⟩ (.act origin (.joinReturn 0)) ∧
      (world.next unlimited (.act origin (.joinReturn 0))).isSome ∧
      world.holdsFor ⟨origin, 0⟩ = true ∧ (world.hosts origin).localRunning = 1 := by
  have outcome : (Run.runLabels (next unlimited) (initial pair) watchedFailureOps).any
      (fun world => (world.home ⟨origin, 0⟩).any (fun entry => entry.record.state = .completed ∧
          entry.joining = true) = true ∧
        (world.next unlimited (.act origin (.joinReturn 0))).isSome ∧
        world.holdsFor ⟨origin, 0⟩ = true ∧ (world.hosts origin).localRunning = 1) = true := by
    decide +kernel
  have without : Run.AdmitsLabels (next unlimited) WithoutMigration (initial pair)
      watchedFailureOps := by
    decide +kernel
  obtain ⟨world, execution, facts⟩ := (Option.any_eq_true _ _).mp outcome
  obtain ⟨waiting, returns, holding, running⟩ := of_decide_eq_true facts
  obtain ⟨entry, present, waits⟩ := (Option.any_eq_true _ _).mp waiting
  obtain ⟨completed, joining⟩ := of_decide_eq_true waits
  exact ⟨world, Run.reachesBy_of_runLabels execution without,
    ⟨entry, present, completed, .inr (.inl ⟨rfl, joining⟩)⟩, returns, holding, running⟩

end ThreadWorld
end Cxloom.LoomPar
