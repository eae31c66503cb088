import Cxloom.LoomMem.AllocatorPools
import Cxloom.LoomMem.BootstrapInvariant

/-!
# What a bootstrap session agrees on

One process formats a region that nobody has published yet.  Whoever gets through `Initialize`, at
any time and while others already allocate and send, has the layout, the number of hosts and the
queues of the owner and a host of its own.  A late process gets through exactly if its configuration
is that of the owner, its host is free and neither pool is exhausted.  `WaitForAllHosts` returns
when every host has joined.
-/

namespace Cxloom.LoomMem

open QueueRegion PairTable

namespace BootstrapSession

open SharedRegion

variable {Process : Type} [DecidableEq Process] [Fintype Process]
  {config : Process → CxloomConfig} {session : BootstrapSession Process} {process : Process}
  {setup : Setup}

/-! ## Agreement -/

/-- What initialized processes have in common. -/
structure Agreement (config : Process → CxloomConfig) (session : BootstrapSession Process) :
    Prop where
  /-- An initialized process has the region, the number of hosts and the capacity of the owner. -/
  owner : ∀ process setup queues, session.points process = .initialized setup queues →
    ∃ owner setup', (config owner).setup = .ok setup' ∧ setup'.bootstrapOwner = true ∧
      setup.regionBytes = setup'.regionBytes ∧ setup.hostCount = setup'.hostCount ∧
      setup.capacityEntries = setup'.capacityEntries
  /-- What the owner has formatted is there. -/
  complete : ∀ process setup queues, session.points process = .initialized setup queues →
    Complete setup session.toSharedRegion
  /-- Processes have the same queue for the same pair, and queues of different pairs are apart. -/
  queues : ∀ process process' setup setup' queues queues',
    session.points process = .initialized setup queues →
    session.points process' = .initialized setup' queues' →
    ∀ (pair pair' : Nat × Nat) storage storage', queueOf queues pair.1 pair.2 = some storage →
      queueOf queues' pair'.1 pair'.2 = some storage' →
      (pair = pair' → storage = storage') ∧
        (pair ≠ pair' → Disjoint (storage.bytes setup.capacityEntries)
          (storage'.bytes setup'.capacityEntries))
  hosts : ∀ process process' setup setup' queues queues',
    session.points process = .initialized setup queues →
    session.points process' = .initialized setup' queues' →
    setup.localHostId = setup'.localHostId → process = process'
  /-- The counter is exact, and it does not exceed the number of hosts. -/
  joined : session.header.state = .ready →
    session.joinedHostCount =
        (Finset.univ.filter fun process => (session.points process).counted = true).card ∧
      session.joinedHostCount ≤ session.header.hostCount

omit [DecidableEq Process] in
/-- Whoever has joined agrees with the owner. -/
theorem Sound.owner_of_agreed (sound : Sound config session)
    (agreed : Agreed setup session.toSharedRegion) :
    ∃ owner setup', (config owner).setup = .ok setup' ∧ setup'.bootstrapOwner = true ∧
      setup.regionBytes = setup'.regionBytes ∧ setup.hostCount = setup'.hostCount ∧
      setup.capacityEntries = setup'.capacityEntries ∧ Complete setup session.toSharedRegion := by
  obtain ⟨owner, setup', accepted, formats, -, complete⟩ := sound.published agreed.ready
  obtain ⟨bytes, hosts⟩ := agreed.described.congr complete.described
  obtain ⟨layout, queued⟩ := agreed.queued
  obtain ⟨layout', queued'⟩ := complete.queued
  obtain rfl := queued.formatted.eq_of_formatted queued'.formatted
  exact ⟨owner, setup', accepted, formats, bytes, hosts,
    queued.capacityEntries.symm.trans queued'.capacityEntries,
    ⟨agreed.described, complete.pooled.congr bytes.symm, complete.tabled.congr bytes.symm, layout,
      queued⟩⟩

theorem Sound.counted_le (sound : Sound config session) (ready : session.header.state = .ready) :
    session.header.joinedHosts ≤ session.header.hostCount := by
  rw [sound.joined ready]
  refine sound.registered_card_le _ fun process member => ?_
  have counted := (Finset.mem_filter.mp member).2
  have registered : ∃ setup, (session.points process).registered? = some setup := by
    cases stands : session.points process with
    | idle | failed =>
        rw [stands] at counted
        cases counted
    | initialized setup queues => exact ⟨setup, rfl⟩
    | running setup stage =>
        rw [stands] at counted
        cases stage with
        | locate => exact ⟨setup, rfl⟩
        | _ => cases counted
  obtain ⟨setup, mine⟩ := registered
  refine ⟨setup, mine, ?_⟩
  rw [((sound.stands process).joined mine).described.hostCount]
  exact setup.localHostId_lt

theorem Sound.agreement (sound : Sound config session) : Agreement config session where
  owner process setup queues initialized := by
    have joined := (sound.stands process).joined (by rw [initialized]; rfl : _ = some setup)
    obtain ⟨owner, setup', accepted, formats, bytes, hosts, capacity, -⟩ :=
      sound.owner_of_agreed joined.toAgreed
    exact ⟨owner, setup', accepted, formats, bytes, hosts, capacity⟩
  complete process setup queues initialized := by
    have joined := (sound.stands process).joined (by rw [initialized]; rfl : _ = some setup)
    obtain ⟨_, _, -, -, -, -, -, complete⟩ := sound.owner_of_agreed joined.toAgreed
    exact complete
  queues process process' setup setup' queues queues' initialized initialized' pair pair' storage
      storage' found found' := by
    have stands := sound.stands process
    have stands' := sound.stands process'
    rw [initialized] at stands
    rw [initialized'] at stands'
    obtain ⟨layout, queued⟩ := stands.1.queued
    obtain ⟨layout', queued'⟩ := stands'.1.queued
    obtain rfl := queued.formatted.eq_of_formatted queued'.formatted
    rw [stands.2 layout queued] at found
    rw [stands'.2 layout queued'] at found'
    split at found
    · rename_i member
      split at found'
      · rename_i member'
        obtain rfl := Option.some.inj found
        obtain rfl := Option.some.inj found'
        refine ⟨fun same => by rw [same], fun different => ?_⟩
        rw [← queued.capacityEntries, ← queued'.capacityEntries, layout.bytes_eq, layout.bytes_eq]
        rw [← queued.hostCount] at member
        rw [← queued'.hostCount] at member'
        exact record_disjoint fun same =>
          different (rank_injOn layout.hostCount member member' same)
      · cases found'
    · cases found
  hosts process process' setup setup' queues queues' initialized initialized' same :=
    sound.unique process process' setup setup' (by rw [initialized]; rfl)
      (by rw [initialized']; rfl) same
  joined ready := ⟨sound.joined ready, sound.counted_le ready⟩

/-- In every state of every session over a region that was not published, the initialized processes
agree. -/
theorem bootstrap_session_agrees {region : SharedRegion} (single : SingleOwner config)
    (unready : region.header.state ≠ .ready)
    (execution : Run.Reaches (next config) (initial region) session) : Agreement config session :=
  (Sound.reaches single unready execution).agreement

/-- Two processes that differ in their hosts, one of which is the owner. -/
def pairConfig (process : Bool) : CxloomConfig where
  localHostId := match process with
    | false => 0
    | true => 1
  hostCount := 2
  sharedRegionBytes := 137363456
  coherenceGranuleBytes := 4096
  queueCapacityEntries := 1
  replicaCacheCapacityEntries := 1
  replicaCacheCapacityBytes := 4096
  sharedRegionPath := "/dev/dax0.0"
  bootstrapOwner := !process
  bootstrapTimeoutMs := 10000
  placementPolicy := 0

theorem pairConfig_singleOwner : SingleOwner pairConfig := fun _ _ owner owner' =>
  Bool.not_inj (owner.trans owner'.symm)

/-- A region with whatever an earlier session has left behind the header. -/
def unpublished : SharedRegion where
  header := .constructed
  allocatorHeader := ⟨0, 0, 0, .uninitialized, 0, 0⟩
  allocator := Allocator.smallRegion
  coherenceHeader := ⟨0, 0, 0, 0, 0⟩
  queues _ := 255

theorem unpublished_unready : unpublished.header.state ≠ .ready := fun ready => by cases ready

/-- The owner formats the region while the other process waits, and uses it before that one goes
on. -/
def ownerFirst : List (BootstrapLabel Bool) :=
  [BootstrapLabel.start true .ok, .step true, .start false .ok] ++
    List.replicate 11 (BootstrapLabel.step false) ++
    [BootstrapLabel.transfer false 0 1 128 1,
      .allocate false (.allocate Allocator.smallHost 4096 ⟨100, 64, 0⟩),
      .publishProbe false 7]

/-- Both get through and wait for each other. -/
def bothAttached : List (BootstrapLabel Bool) :=
  ownerFirst ++ List.replicate 7 (BootstrapLabel.step true) ++
    [BootstrapLabel.publishProbe true 8, .await false, .await false, .await true, .await true]

/-- Number of hosts of an initialized process. -/
def hostCount? : BootstrapPoint → Option Nat
  | .initialized setup _ => some setup.hostCount
  | _ => none

theorem initialized_of_hostCount? {point : BootstrapPoint} {count : Nat}
    (known : hostCount? point = some count) :
    ∃ setup queues, point = .initialized setup queues ∧ setup.hostCount = count := by
  cases point with
  | initialized setup queues => exact ⟨setup, queues, rfl, Option.some.inj known⟩
  | _ => cases known

theorem bootstrap_session_agrees_bothAttached :
    ∃ session, Run.Reaches (next pairConfig) (initial unpublished) session ∧
      hostCount? (session.points false) = some 2 ∧ hostCount? (session.points true) = some 2 ∧
      session.joinedHostCount = 2 ∧ Agreement pairConfig session := by
  have outcome : (Run.runLabels (next pairConfig) (initial unpublished) bothAttached).any
      (fun session => hostCount? (session.points false) = some 2 ∧
        hostCount? (session.points true) = some 2 ∧ session.joinedHostCount = 2) = true := by
    decide +kernel
  obtain ⟨session, execution, facts⟩ := (Option.any_eq_true _ _).mp outcome
  obtain ⟨first, second, joined⟩ := of_decide_eq_true facts
  have reached := Run.reaches_of_runLabels execution
  exact ⟨session, reached, first, second, joined,
    bootstrap_session_agrees pairConfig_singleOwner unpublished_unready reached⟩

/-! ## Attaching -/

/-- A process goes on for some steps while nothing else happens. -/
def alone (config : Process → CxloomConfig) (process : Process) :
    Nat → BootstrapSession Process → BootstrapSession Process
  | 0, session => session
  | count + 1, session =>
      alone config process count ((session.next config (.step process)).getD session)

/-- The call of a process succeeds after some more steps. -/
def Succeeds (config : Process → CxloomConfig) (process : Process) (setup : Setup) (count : Nat)
    (session : BootstrapSession Process) : Prop :=
  ∃ queues, (alone config process count session).points process = .initialized setup queues

omit [Fintype Process] in
theorem succeeds_succ {stage : InitializeStage} {count : Nat}
    (here : session.points process = .running setup stage) :
    Succeeds config process setup (count + 1) session ↔
      Succeeds config process setup count (session.advance process setup stage) := by
  rw [Succeeds, alone, next, here]
  rfl

omit [Fintype Process] in
theorem not_succeeds_of_failed {status : Status} {count : Nat}
    (here : session.points process = .failed status) :
    ¬Succeeds config process setup count session := by
  have stays : ∀ count, alone config process count session = session := by
    intro count
    induction count with
    | zero => rfl
    | succ count induction =>
        rw [alone, next, here]
        exact induction
  rintro ⟨queues, initialized⟩
  rw [stays, here] at initialized
  cases initialized

omit [Fintype Process] in
theorem goto_goto (session : BootstrapSession Process) (process : Process)
    (first second : BootstrapPoint) :
    (session.goto process first).goto process second = session.goto process second :=
  congrArg (fun points => { session with points }) (Function.update_idem ..)

omit [Fintype Process] in
/-- A check of the region comes first. -/
theorem succeeds_check {status : Status} {count : Nat} {stage stage' : InitializeStage}
    (check : (session.goto process (.running setup stage)).advance process setup stage =
      (session.goto process (.running setup stage)).proceed process
        (status, session.toSharedRegion) (.running setup stage') .failed) :
    Succeeds config process setup (count + 1) (session.goto process (.running setup stage)) ↔
      status.isOk = true ∧
        Succeeds config process setup count (session.goto process (.running setup stage')) := by
  have here : (session.goto process (.running setup stage)).points process =
      .running setup stage := (points_goto ..).trans (if_pos rfl)
  rw [succeeds_succ here, check, proceed]
  cases outcome : status.isOk with
  | true =>
      have same : ((session.goto process (.running setup stage)).setRegion
          session.toSharedRegion).goto process (.running setup stage') =
          session.goto process (.running setup stage') := goto_goto ..
      rw [← same]
      exact ⟨fun succeeds => ⟨rfl, succeeds⟩, fun both => both.2⟩
  | false =>
      refine iff_of_false (not_succeeds_of_failed (points_goto .. |>.trans (if_pos rfl)))
        fun both => Bool.false_ne_true both.1

omit [Fintype Process] in
theorem succeeds_locate {layout : QueueLayout}
    (here : session.points process = .running setup .locate)
    (queued : Queued setup session.toSharedRegion layout) :
    Succeeds config process setup 1 session := by
  obtain ⟨queues, located, -⟩ := queued.locateQueues
  refine (succeeds_succ here).mpr ⟨queues, (points_goto ..).trans ((if_pos rfl).trans ?_)⟩
  rw [located]

omit [Fintype Process] in
/-- A process that agrees with the region gets through if its host is free. -/
theorem succeeds_register (here : session.points process = .running setup .register)
    (agreed : Agreed setup session.toSharedRegion) :
    Succeeds config process setup 3 session ↔
      (session.header.hosts setup.localHostId).state = .empty := by
  rw [succeeds_succ here, advance, registerLocalHost]
  by_cases free : (session.header.hosts setup.localHostId).state = .empty
  · refine iff_of_true ?_ free
    rw [if_pos free]
    obtain ⟨layout, queued⟩ := agreed.queued
    refine (succeeds_succ ((points_goto ..).trans (if_pos rfl))).mpr ?_
    exact succeeds_locate ((points_goto ..).trans (if_pos rfl))
      ⟨queued.hostCount, queued.capacityEntries, queued.room, queued.formatted⟩
  · refine iff_of_false ?_ free
    rw [if_neg free]
    exact not_succeeds_of_failed ((points_goto ..).trans (if_pos rfl))

/-- A process that attaches to a published region and is not disturbed gets through exactly if its
configuration is that of the owner, nobody has registered its host, and both pools have a free
extent. -/
theorem attach_succeeds_iff {region : SharedRegion} (single : SingleOwner config)
    (unready : region.header.state ≠ .ready)
    (execution : Run.Reaches (next config) (initial region) session)
    (ready : session.header.state = .ready)
    (here : session.points process = .running setup .poll) {owner : Process} {setup' : Setup}
    (accepted : (config owner).setup = .ok setup') (formats : setup'.bootstrapOwner = true) :
    Succeeds config process setup 7 session ↔
      setup.regionBytes = setup'.regionBytes ∧ setup.hostCount = setup'.hostCount ∧
        setup.capacityEntries = setup'.capacityEntries ∧
        (session.header.hosts setup.localHostId).state = .empty ∧
        ∀ pool, session.allocator.extents.freeExtents pool ≠ [] := by
  have sound := Sound.reaches single unready execution
  obtain ⟨owner', setup'', accepted', formats', -, complete⟩ := sound.published ready
  obtain rfl := single.eq accepted' formats' accepted formats
  obtain rfl := Except.ok.inj (accepted'.symm.trans accepted)
  obtain ⟨layout, queued⟩ := complete.queued
  have found : session.advance process setup .poll =
      session.goto process (.running setup .validateBootstrap) := by
    rw [advance, ready]
  rw [succeeds_succ here, found, succeeds_check rfl, succeeds_check rfl, succeeds_check rfl]
  have described : (session.toSharedRegion.validateBootstrap setup).isOk = true ↔
      setup.regionBytes = setup''.regionBytes ∧ setup.hostCount = setup''.hostCount := by
    rw [← described_iff]
    refine ⟨fun described => described.congr complete.described, fun same => ?_⟩
    obtain ⟨magic, version, bytes, region, hosts, place⟩ := complete.described
    refine ⟨magic, version, bytes, region.trans same.1.symm, hosts.trans same.2.symm,
      place.trans ?_⟩
    rw [Setup.layout, Setup.layout, same.1]
  have allocates : (session.toSharedRegion.validateBootstrap setup).isOk = true →
      ((session.toSharedRegion.initializeAllocator setup).isOk = true ↔
        ∀ pool, session.allocator.extents.freeExtents pool ≠ []) := fun valid =>
    initializeAllocator_isOk (complete.pooled.congr (described.mp valid).1.symm)
      (complete.tabled.congr (described.mp valid).1.symm)
  constructor
  · rintro ⟨valid, matching, allocating, registers⟩
    have own := described_iff.mpr valid
    have capacity := (validateQueues_isOk queued complete.described own).mp matching
    have agreed : Agreed setup session.toSharedRegion :=
      ⟨ready, own, layout, queued.congr (described.mp valid).2.symm capacity⟩
    exact ⟨(described.mp valid).1, (described.mp valid).2, capacity,
      (succeeds_register (points_goto .. |>.trans (if_pos rfl)) agreed).mp registers,
      (allocates valid).mp allocating⟩
  · rintro ⟨bytes, hosts, capacity, free, extents⟩
    have valid := described.mpr ⟨bytes, hosts⟩
    have own := described_iff.mpr valid
    have agreed : Agreed setup session.toSharedRegion :=
      ⟨ready, own, layout, queued.congr hosts.symm capacity⟩
    exact ⟨valid, (validateQueues_isOk queued complete.described own).mpr capacity,
      (allocates valid).mpr extents,
      (succeeds_register (points_goto .. |>.trans (if_pos rfl)) agreed).mpr free⟩

/-- The process is about to poll, with the values of its configuration. -/
def polls (session : BootstrapSession Bool) : Bool :=
  match session.points true with
  | .running setup .poll => decide (setup.regionBytes = 137363456 ∧ setup.hostCount = 2 ∧
      setup.capacityEntries = 1 ∧ setup.localHostId = 1)
  | _ => false

theorem attach_succeeds_iff_ownerFirst :
    ∃ session setup, Run.Reaches (next pairConfig) (initial unpublished) session ∧
      session.points true = .running setup .poll ∧
      Succeeds pairConfig true setup 7 session := by
  have outcome : (Run.runLabels (next pairConfig) (initial unpublished) ownerFirst).any
      (fun session => polls session = true ∧ session.header.state = .ready ∧
        (session.header.hosts 1).state = .empty ∧
        session.allocator.extents.freeExtents .data ≠ [] ∧
        session.allocator.extents.freeExtents .coherence ≠ []) = true := by
    decide +kernel
  obtain ⟨session, execution, facts⟩ := (Option.any_eq_true _ _).mp outcome
  obtain ⟨polling, ready, free, data, coherence⟩ := of_decide_eq_true facts
  have owned : ((pairConfig false).setup.toOption.any fun setup => setup.bootstrapOwner = true ∧
      setup.regionBytes = 137363456 ∧ setup.hostCount = 2 ∧ setup.capacityEntries = 1) = true := by
    decide +kernel
  obtain ⟨setup', accepted, values⟩ := (Option.any_eq_true _ _).mp owned
  obtain ⟨formats, bytes', hosts', capacity'⟩ := of_decide_eq_true values
  have accepted' : (pairConfig false).setup = .ok setup' := by
    cases outcome : (pairConfig false).setup with
    | error status =>
        rw [outcome] at accepted
        cases accepted
    | ok value =>
        rw [outcome] at accepted
        rw [Option.some.inj accepted]
  have reached := Run.reaches_of_runLabels execution
  rw [polls] at polling
  split at polling
  · rename_i setup here
    obtain ⟨bytes, hosts, capacity, host⟩ := of_decide_eq_true polling
    refine ⟨session, setup, reached, here, (attach_succeeds_iff pairConfig_singleOwner
      unpublished_unready reached ready here accepted' formats).mpr ⟨bytes.trans bytes'.symm,
        hosts.trans hosts'.symm, capacity.trans capacity'.symm, host ▸ free, fun pool => ?_⟩⟩
    cases pool with
    | data => exact data
    | coherence => exact coherence
  · cases polling

/-! ## The rendezvous -/

/-- When `WaitForAllHosts` returns to a process, every host has joined and has a probe to read. -/
theorem rendezvous_complete {region : SharedRegion} (single : SingleOwner config)
    (unready : region.header.state ≠ .ready)
    (execution : Run.Reaches (next config) (initial region) session)
    {queues : List (List (Option SharedQueueStorage))}
    (here : session.points process = .initialized setup queues)
    (returned : session.awaited process = setup.hostCount) :
    session.joinedHostCount = setup.hostCount ∧ ∀ host < setup.hostCount,
      (∃ value, session.readBootstrapProbe setup host = .ok value) ∧
        ∃ other setup' queues', session.points other = .initialized setup' queues' ∧
          setup'.localHostId = host := by
  have sound := Sound.reaches single unready execution
  have joined := (sound.stands process).joined (by rw [here]; rfl : _ = some setup)
  have probed : ∀ host < setup.hostCount, HostRegistrationState.probeReady.code ≤
      (session.header.hosts host).state.code := by
    intro host below
    obtain ⟨_, _, -, -, seen⟩ := sound.awaited process
      (returned ▸ Nat.ne_zero_of_lt below)
    exact seen host (returned ▸ below)
  have present : ∀ host < setup.hostCount, ∃ other setup' queues',
      session.points other = .initialized setup' queues' ∧ setup'.localHostId = host :=
    fun host below => sound.probed joined.ready host (probed host below)
  refine ⟨Nat.le_antisymm ?_ ?_, fun host below => ⟨⟨(session.header.hosts host).probeValue, ?_⟩,
    present host below⟩⟩
  · exact (sound.counted_le joined.ready).trans_eq joined.described.hostCount
  · rw [joinedHostCount, sound.joined joined.ready, ← Finset.card_range setup.hostCount]
    have chosen : ∀ host, ∃ other, host < setup.hostCount → ∃ setup' queues',
        session.points other = .initialized setup' queues' ∧ setup'.localHostId = host := by
      intro host
      by_cases below : host < setup.hostCount
      · obtain ⟨other, found⟩ := present host below
        exact ⟨other, fun _ => found⟩
      · exact ⟨process, fun there => (below there).elim⟩
    choose processOf found using chosen
    refine Finset.card_le_card_of_injOn processOf (fun host member => ?_)
      fun host member host' member' same => ?_
    · obtain ⟨setup', queues', initialized, -⟩ := found host (Finset.mem_range.mp member)
      rw [Finset.mem_coe, Finset.mem_filter, initialized]
      exact ⟨Finset.mem_univ _, rfl⟩
    · obtain ⟨setup', queues', initialized, named⟩ := found host (Finset.mem_range.mp member)
      obtain ⟨setup'', queues'', initialized', named'⟩ :=
        found host' (Finset.mem_range.mp member')
      rw [same, initialized'] at initialized
      obtain ⟨rfl, -⟩ := BootstrapPoint.initialized.inj initialized
      exact named.symm.trans named'
  · rw [readBootstrapProbe, if_neg (Nat.not_le.mpr below),
      if_neg (Nat.not_lt.mpr (probed host below))]

theorem rendezvous_complete_bothAttached :
    ∃ session setup queues, Run.Reaches (next pairConfig) (initial unpublished) session ∧
      session.points true = .initialized setup queues ∧
      session.joinedHostCount = setup.hostCount ∧
      ∀ host < setup.hostCount, ∃ value, session.readBootstrapProbe setup host = .ok value := by
  have outcome : (Run.runLabels (next pairConfig) (initial unpublished) bothAttached).any
      (fun session => hostCount? (session.points true) = some 2 ∧
        session.awaited true = 2) = true := by
    decide +kernel
  obtain ⟨session, execution, facts⟩ := (Option.any_eq_true _ _).mp outcome
  obtain ⟨initialized, waited⟩ := of_decide_eq_true facts
  obtain ⟨setup, queues, here, hosts⟩ := initialized_of_hostCount? initialized
  have reached := Run.reaches_of_runLabels execution
  obtain ⟨joined, probes⟩ := rendezvous_complete pairConfig_singleOwner unpublished_unready reached
    here (waited.trans hosts.symm)
  exact ⟨session, setup, queues, reached, here, joined, fun host below => (probes host below).1⟩

end BootstrapSession
end Cxloom.LoomMem
