import Cxloom.LoomPar.ThreadAccounts

/-!
# Following remote threads

A dispatched record has exactly one carrier: the request, the execution, the report or the
completion that its home is about to accept.  The carrier knows the execution host and the outcome
that was settled there, so the record is completed with that outcome.
-/

namespace Cxloom.LoomPar

variable {cluster : Cluster}

/-- Whether a message decides the fate of a thread. -/
def ThreadMessage.carries (id : GlobalThreadId cluster) (message : ThreadMessage cluster) : Bool :=
  message.id = id ∧ message.body ≠ .createAck

namespace ThreadHost

/-- The executions and found completions of a thread on a host. -/
def carrying (host : ThreadHost cluster) (id : GlobalThreadId cluster) : Nat :=
  host.remoteExecutions.countP (fun execution => execution.home = id) +
    (host.settingUp.any fun other => other = id).toNat +
    (host.finding.any fun other => other.1 = id).toNat

/-- Nothing about one thread has changed on a host. -/
structure AgreesOn (localHost : cluster.Host) (id : GlobalThreadId cluster)
    (host after : ThreadHost cluster) : Prop where
  records : id.homeHost = localHost →
    after.threads.records id.localTid = host.threads.records id.localTid
  /-- Allocated numbers stay allocated. -/
  nextTid : host.threads.nextTid ≤ after.threads.nextTid
  /-- Its carriers. -/
  carrying : after.carrying id = host.carrying id
  serving : ∀ execution ∈ after.remoteExecutions, execution.home = id →
    execution ∈ host.remoteExecutions
  /-- Its executions that are being set up. -/
  settingUp : after.settingUp = some id → host.settingUp = some id
  finding : ∀ completion, after.finding = some (id, completion) ↔
    host.finding = some (id, completion)
  accepting : ∀ completion, after.accepting = some (id, completion) →
    host.accepting = some (id, completion)

end ThreadHost

def ThreadEvent.id : ThreadEvent cluster → GlobalThreadId cluster
  | .recorded id _ => id
  | .handled id => id
  | .departed id _ => id

/-- Events about other threads leave the history of a thread alone. -/
theorem ThreadHistory.foldl_note_of_ne {events : List (ThreadEvent cluster)}
    (history : ThreadHistory cluster) {id : GlobalThreadId cluster}
    (others : ∀ event ∈ events, event.id ≠ id) :
    (events.foldl ThreadHistory.note history).recorded id = history.recorded id ∧
      (events.foldl ThreadHistory.note history).handled id = history.handled id ∧
      (events.foldl ThreadHistory.note history).departed id = history.departed id := by
  induction events generalizing history with
  | nil => exact ⟨rfl, rfl, rfl⟩
  | cons event events induction =>
      obtain ⟨different, others⟩ := List.forall_mem_cons.mp others
      obtain ⟨recorded, handled, departed⟩ :=
        induction (history.note event) others
      rw [List.foldl_cons, recorded, handled, departed]
      cases event with
      | recorded other completion =>
          exact ⟨Function.update_of_ne (Ne.symm different) _ _, rfl, rfl⟩
      | handled other => exact ⟨rfl, Function.update_of_ne (Ne.symm different) _ _, rfl⟩
      | departed other departure =>
          exact ⟨rfl, rfl, Function.update_of_ne (Ne.symm different) _ _⟩

/-- Departures change neither outcomes nor handling. -/
theorem ThreadHistory.foldl_note_departed {events : List (ThreadEvent cluster)}
    (history : ThreadHistory cluster) {id : GlobalThreadId cluster}
    (departures : ∀ event ∈ events, ∃ departure, event = .departed id departure) :
    (events.foldl ThreadHistory.note history).recorded = history.recorded ∧
      (events.foldl ThreadHistory.note history).handled = history.handled := by
  induction events generalizing history with
  | nil => exact ⟨rfl, rfl⟩
  | cons event events induction =>
      obtain ⟨⟨departure, rfl⟩, rest⟩ := List.forall_mem_cons.mp departures
      exact induction (history.note (.departed id departure)) rest

namespace ThreadWorld

def home (world : ThreadWorld cluster) (id : GlobalThreadId cluster) :
    Option (ThreadEntry cluster) :=
  (world.hosts id.homeHost).threads.records id.localTid

def load (world : ThreadWorld cluster) (id : GlobalThreadId cluster) : Nat :=
  world.network.countP (ThreadMessage.carries id) + ∑ host, (world.hosts host).carrying id

/-- What a message about a thread says holds. -/
def Delivers (world : ThreadWorld cluster) (message : ThreadMessage cluster) : Prop :=
  match message.body with
  | .createReq _ _ _ =>
      message.source = message.id.homeHost ∧
        ∀ entry, world.home message.id = some entry →
          entry.record.executionHost = message.target
  | .createAck =>
      message.target = message.id.homeHost ∧
        message.id.localTid < (world.hosts message.id.homeHost).threads.nextTid ∧
        ∀ entry, world.home message.id = some entry → entry.stage.pastDispatch = true
  | .completeNotify completion migrationEpoch =>
      message.target = message.id.homeHost ∧ migrationEpoch = 0 ∧
        world.history.recorded message.id = some completion ∧
        ∀ entry, world.home message.id = some entry →
          entry.record.executionHost = message.source

/-- What is known about one thread. -/
structure Traced (world : ThreadWorld cluster) (id : GlobalThreadId cluster) : Prop where
  /-- Exactly the dispatched records have a carrier, and only one. -/
  load : world.load id =
    Census.weight (fun entry => decide (entry.stage = .dispatched)) (world.home id)
  network : ∀ message ∈ world.network, message.id = id → world.Delivers message
  serving : ∀ host execution, execution ∈ (world.hosts host).remoteExecutions →
    execution.home = id →
      (∀ entry, world.home id = some entry → entry.record.executionHost = host) ∧
        ∀ report, execution.reaped = some report →
          world.history.recorded id = some report.1 ∧ report.2 = 0
  /-- Executions that are being set up. -/
  settingUp : ∀ host, (world.hosts host).settingUp = some id →
    ∀ entry, world.home id = some entry → entry.record.executionHost = host
  finding : ∀ host completion, (world.hosts host).finding = some (id, completion) →
    world.history.recorded id = some completion
  accepting : ∀ host completion, (world.hosts host).accepting = some (id, completion) →
    world.history.recorded id = some completion
  /-- Nothing migrates before its dispatch, nor afterwards until its completion is found. -/
  epoch : ∀ entry, world.home id = some entry →
    (entry.stage.inCreation = true → entry.record.migrationEpoch = 0) ∧
      (entry.stage = .dispatched → entry.record.migrationEpoch = 0 ∨
        ∃ completion, (world.hosts id.homeHost).finding = some (id, completion))
  /-- A remote record is completed with the outcome of its execution. -/
  settled : ∀ entry, world.home id = some entry → entry.stage = .settled →
    entry.record.executionHost ≠ id.homeHost →
      world.history.recorded id = some entry.record.completion
  handled : world.history.handled id = true →
    id.localTid < (world.hosts id.homeHost).threads.nextTid ∧
      (∀ entry, world.home id = some entry →
        entry.stage = .settled ∧ entry.record.executionHost ≠ id.homeHost) ∧
      (world.home id = none →
        world.history.departed id = some .detached ∨
          ∃ completion, world.history.departed id = some (.joined completion) ∧
            world.history.recorded id = some completion)

/-- Nothing about one thread has changed. -/
structure SameFor (id : GlobalThreadId cluster) (world after : ThreadWorld cluster) : Prop where
  /-- Its record. -/
  home : after.home id = world.home id
  /-- Its carriers. -/
  load : after.load id = world.load id
  network : ∀ message ∈ after.network, message.id = id → message ∈ world.network
  serving : ∀ host execution, execution ∈ (after.hosts host).remoteExecutions →
    execution.home = id → execution ∈ (world.hosts host).remoteExecutions
  /-- Its executions that are being set up. -/
  settingUp : ∀ host, (after.hosts host).settingUp = some id →
    (world.hosts host).settingUp = some id
  finding : ∀ host completion, (after.hosts host).finding = some (id, completion) ↔
    (world.hosts host).finding = some (id, completion)
  accepting : ∀ host completion, (after.hosts host).accepting = some (id, completion) →
    (world.hosts host).accepting = some (id, completion)
  /-- Allocated numbers stay allocated. -/
  nextTid : (world.hosts id.homeHost).threads.nextTid ≤ (after.hosts id.homeHost).threads.nextTid
  recorded : after.history.recorded id = world.history.recorded id
  handled : after.history.handled id = world.history.handled id
  departed : after.history.departed id = world.history.departed id

variable {world after : ThreadWorld cluster} {id : GlobalThreadId cluster}

theorem Delivers.congr {message : ThreadMessage cluster} (delivers : world.Delivers message)
    (home_eq : after.home message.id = world.home message.id)
    (recorded_eq : after.history.recorded message.id = world.history.recorded message.id)
    (nextTid_le : (world.hosts message.id.homeHost).threads.nextTid ≤
      (after.hosts message.id.homeHost).threads.nextTid) : after.Delivers message := by
  unfold Delivers at delivers ⊢
  cases request : message.body with
  | createReq function arguments clusterFunction =>
      simp only [request, home_eq] at delivers ⊢
      exact delivers
  | createAck =>
      simp only [request, home_eq] at delivers ⊢
      exact ⟨delivers.1, delivers.2.1.trans_le nextTid_le, delivers.2.2⟩
  | completeNotify completion migrationEpoch =>
      simp only [request, home_eq, recorded_eq] at delivers ⊢
      exact delivers

theorem Traced.congr (traced : world.Traced id) (same : SameFor id world after) :
    after.Traced id where
  load := by rw [same.load, same.home, traced.load]
  network message member about := by
    subst about
    exact (traced.network message (same.network message member rfl) rfl).congr same.home
      same.recorded same.nextTid
  serving host execution member about := by
    rw [same.home, same.recorded]
    exact traced.serving host execution (same.serving host execution member about) about
  settingUp host busy := by
    rw [same.home]
    exact traced.settingUp host (same.settingUp host busy)
  finding host completion found := by
    rw [same.recorded]
    exact traced.finding host completion ((same.finding host completion).mp found)
  accepting host completion accepted := by
    rw [same.recorded]
    exact traced.accepting host completion (same.accepting host completion accepted)
  epoch entry present := by
    rw [same.home] at present
    obtain ⟨creation, dispatched⟩ := traced.epoch entry present
    refine ⟨creation, fun stage => ?_⟩
    obtain zero | ⟨completion, found⟩ := dispatched stage
    · exact .inl zero
    · exact .inr ⟨completion, (same.finding _ completion).mpr found⟩
  settled entry present := by
    rw [same.home] at present
    rw [same.recorded]
    exact traced.settled entry present
  handled marked := by
    rw [same.handled] at marked
    obtain ⟨allocated, settled, departed⟩ := traced.handled marked
    rw [same.home, same.departed, same.recorded]
    exact ⟨allocated.trans_le same.nextTid, settled, departed⟩

section Apply

variable {localHost : cluster.Host} {effect : ThreadEffect cluster}
  {network : List (ThreadMessage cluster)}

@[simp] theorem apply_hosts_self :
    (world.apply localHost effect).hosts localHost = effect.host := Function.update_self ..

theorem apply_hosts_of_ne {host : cluster.Host} (different : host ≠ localHost) :
    (world.apply localHost effect).hosts host = world.hosts host :=
  Function.update_of_ne different ..

theorem apply_home_of_ne (away : id.homeHost ≠ localHost) :
    (world.apply localHost effect).home id = world.home id := by
  rw [home, apply_hosts_of_ne away, home]

theorem apply_home_self (tid : Nat) :
    (world.apply localHost effect).home ⟨localHost, tid⟩ = effect.host.threads.records tid := by
  rw [home, apply_hosts_self]

/-- How an effect changes the number of carriers. -/
theorem load_apply (world : ThreadWorld cluster) (localHost : cluster.Host)
    (effect : ThreadEffect cluster) (id : GlobalThreadId cluster) :
    (world.apply localHost effect).load id + (world.hosts localHost).carrying id =
      world.load id + effect.sent.countP (ThreadMessage.carries id) + effect.host.carrying id := by
  have exchanged := Census.sum_update (fun host : ThreadHost cluster => host.carrying id)
    world.hosts localHost effect.host
  simp only [load, ThreadWorld.apply, List.countP_append]
  omega

/-- Threads that an effect is not about. -/
theorem sameFor_apply (agrees : (world.hosts localHost).AgreesOn localHost id effect.host)
    (sent : ∀ message ∈ effect.sent, message.id ≠ id)
    (events : ∀ event ∈ effect.events, event.id ≠ id)
    (subset : ∀ message ∈ network, message.id = id → message ∈ world.network)
    (count_eq : network.countP (ThreadMessage.carries id) =
      world.network.countP (ThreadMessage.carries id)) :
    SameFor id world (ThreadWorld.apply { world with network := network } localHost effect) := by
  obtain ⟨recorded, handled, departed⟩ :=
    ThreadHistory.foldl_note_of_ne world.history events
  have per_host : ∀ host, ∃ after,
      (ThreadWorld.apply { world with network := network } localHost effect).hosts host = after ∧
        (world.hosts host).AgreesOn host id after := by
    intro host
    refine ⟨_, rfl, ?_⟩
    by_cases same : host = localHost
    · subst same
      rw [apply_hosts_self]
      exact agrees
    · rw [apply_hosts_of_ne same]
      exact ⟨fun _ => rfl, le_rfl, rfl, fun _ member _ => member, fun busy => busy,
        fun _ => Iff.rfl, fun _ accepted => accepted⟩
  have uncarried : effect.sent.countP (ThreadMessage.carries id) = 0 := by
    refine List.countP_eq_zero.mpr fun message member => ?_
    simp [ThreadMessage.carries, sent message member]
  have load_eq := load_apply { world with network := network } localHost effect id
  have agreed := agrees.carrying
  refine ⟨?_, ?_, ?_, ?_, ?_, ?_, ?_, ?_, recorded, handled, departed⟩
  · obtain ⟨after, after_eq, same⟩ := per_host id.homeHost
    rw [home, after_eq, same.records rfl, home]
  · simp only [load] at load_eq ⊢
    simp only [uncarried, count_eq, agreed] at load_eq
    omega
  · intro message member about
    obtain old | new := List.mem_append.mp member
    · exact subset message old about
    · exact absurd about (sent message new)
  · intro host execution member about
    obtain ⟨after, after_eq, same⟩ := per_host host
    rw [after_eq] at member
    exact same.serving execution member about
  · intro host busy
    obtain ⟨after, after_eq, same⟩ := per_host host
    rw [after_eq] at busy
    exact same.settingUp busy
  · intro host completion
    obtain ⟨after, after_eq, same⟩ := per_host host
    rw [after_eq]
    exact same.finding completion
  · intro host completion accepted
    obtain ⟨after, after_eq, same⟩ := per_host host
    rw [after_eq] at accepted
    exact same.accepting completion accepted
  · obtain ⟨after, after_eq, same⟩ := per_host id.homeHost
    rw [after_eq]
    exact same.nextTid

end Apply

theorem carrying_le_load (world : ThreadWorld cluster) (host : cluster.Host)
    (id : GlobalThreadId cluster) :
    world.network.countP (ThreadMessage.carries id) + (world.hosts host).carrying id ≤
      world.load id := by
  have one : (world.hosts host).carrying id ≤ ∑ other, (world.hosts other).carrying id :=
    Finset.single_le_sum (fun other _ => Nat.zero_le ((world.hosts other).carrying id))
      (Finset.mem_univ host)
  simp only [load]
  omega

theorem two_le_load {first second : cluster.Host} (different : first ≠ second)
    (carrying_first : 0 < (world.hosts first).carrying id)
    (carrying_second : 0 < (world.hosts second).carrying id) : 2 ≤ world.load id := by
  have both : (world.hosts first).carrying id + (world.hosts second).carrying id ≤
      ∑ other, (world.hosts other).carrying id :=
    Finset.add_le_sum (fun other _ => Nat.zero_le ((world.hosts other).carrying id))
      (Finset.mem_univ first) (Finset.mem_univ second) different
  simp only [load]
  omega

theorem carries_pos {message : ThreadMessage cluster} (member : message ∈ world.network)
    (carries : message.carries id = true) :
    0 < world.network.countP (ThreadMessage.carries id) :=
  List.countP_pos_iff.mpr ⟨message, member, carries⟩

theorem carrying_of_serving {host : ThreadHost cluster} {execution : RemoteExecution cluster}
    (listed : execution ∈ host.remoteExecutions) : 0 < host.carrying execution.home := by
  have counted : 0 < host.remoteExecutions.countP (fun other => other.home = execution.home) :=
    List.countP_pos_iff.mpr ⟨execution, listed, by simp⟩
  simp only [ThreadHost.carrying]
  omega

theorem carrying_of_settingUp {host : ThreadHost cluster} (busy : host.settingUp = some id) :
    0 < host.carrying id := by
  simp only [ThreadHost.carrying, busy, Option.any_some, decide_true, Bool.toNat_true]
  omega

theorem carrying_of_finding {host : ThreadHost cluster} {completion : Completion}
    (found : host.finding = some (id, completion)) : 0 < host.carrying id := by
  simp only [ThreadHost.carrying, found, Option.any_some, decide_true, Bool.toNat_true]
  omega

theorem Traced.dispatched (traced : world.Traced id) (carried : 0 < world.load id) :
    world.load id = 1 ∧ ∃ entry, world.home id = some entry ∧ entry.stage = .dispatched := by
  have load_eq := traced.load
  cases present : world.home id with
  | none =>
      rw [present, Census.weight_none] at load_eq
      omega
  | some entry =>
      rw [present, Census.weight_some] at load_eq
      by_cases stage : entry.stage = .dispatched
      · exact ⟨by simpa [stage] using load_eq, entry, rfl, stage⟩
      · simp [stage] at load_eq
        omega

/-- A thread without a dispatched record has no carrier. -/
theorem Traced.load_eq_zero (traced : world.Traced id)
    (undispatched : ∀ entry, world.home id = some entry → entry.stage ≠ .dispatched) :
    world.load id = 0 := by
  by_contra carried
  obtain ⟨-, entry, present, stage⟩ := traced.dispatched (Nat.pos_of_ne_zero carried)
  exact undispatched entry present stage

/-- A thread with carriers nowhere. -/
theorem uncarried (load_zero : world.load id = 0) :
    (∀ message ∈ world.network, message.id = id → message.body = .createAck) ∧
      ∀ host, (∀ execution ∈ (world.hosts host).remoteExecutions, execution.home ≠ id) ∧
        (world.hosts host).settingUp ≠ some id ∧
        ∀ completion, (world.hosts host).finding ≠ some (id, completion) := by
  have idle : ∀ host, (world.hosts host).carrying id = 0 := by
    intro host
    have bound := world.carrying_le_load host id
    omega
  refine ⟨fun message member about => ?_, fun host => ⟨fun execution listed about => ?_,
    fun busy => ?_, fun completion found => ?_⟩⟩
  · by_contra request
    have carries : message.carries id = true := by simp [ThreadMessage.carries, about, request]
    have carried := carries_pos member carries
    simp only [load] at load_zero
    omega
  · have carried := carrying_of_serving listed
    rw [about, idle host] at carried
    exact absurd carried (lt_irrefl 0)
  · have carried := carrying_of_settingUp busy
    rw [idle host] at carried
    exact absurd carried (lt_irrefl 0)
  · have carried := carrying_of_finding found
    rw [idle host] at carried
    exact absurd carried (lt_irrefl 0)

/-- What is left to say about a thread without carriers. -/
theorem traced_of_load_zero (load_zero : after.load id = 0)
    (undispatched : ∀ entry, after.home id = some entry → entry.stage ≠ .dispatched)
    (network : ∀ message ∈ after.network, message.id = id → message.body = .createAck →
      after.Delivers message)
    (accepting : ∀ host completion, (after.hosts host).accepting = some (id, completion) →
      after.history.recorded id = some completion)
    (epoch : ∀ entry, after.home id = some entry → entry.stage.inCreation = true →
      entry.record.migrationEpoch = 0)
    (settled : ∀ entry, after.home id = some entry → entry.stage = .settled →
      entry.record.executionHost ≠ id.homeHost →
        after.history.recorded id = some entry.record.completion)
    (handled : after.history.handled id = true →
      id.localTid < (after.hosts id.homeHost).threads.nextTid ∧
        (∀ entry, after.home id = some entry →
          entry.stage = .settled ∧ entry.record.executionHost ≠ id.homeHost) ∧
        (after.home id = none →
          after.history.departed id = some .detached ∨
            ∃ completion, after.history.departed id = some (.joined completion) ∧
              after.history.recorded id = some completion)) : after.Traced id := by
  obtain ⟨messages, places⟩ := uncarried load_zero
  refine ⟨?_, ?_, ?_, ?_, ?_, accepting, ?_, settled, handled⟩
  · rw [load_zero]
    cases present : after.home id with
    | none => rfl
    | some entry => simp [Census.weight_some, undispatched entry present]
  · intro message member about
    exact network message member about (messages message member about)
  · intro host execution listed about
    exact absurd about ((places host).1 execution listed)
  · intro host busy
    exact absurd busy (places host).2.1
  · intro host completion found
    exact absurd found ((places host).2.2 completion)
  · intro entry present
    exact ⟨epoch entry present, fun stage => absurd stage (undispatched entry present)⟩

end ThreadWorld

namespace ThreadHost

variable {localHost : cluster.Host} {host after : ThreadHost cluster} {id : GlobalThreadId cluster}

/-- The poller and the list of executions are as before. -/
theorem agreesOn_of_view
    (records : id.homeHost = localHost →
      after.threads.records id.localTid = host.threads.records id.localTid)
    (nextTid : host.threads.nextTid ≤ after.threads.nextTid)
    (remote_eq : after.remoteExecutions = host.remoteExecutions)
    (settingUp_eq : after.settingUp = host.settingUp) (finding_eq : after.finding = host.finding)
    (accepting_eq : after.accepting = host.accepting) : host.AgreesOn localHost id after where
  records := records
  nextTid := nextTid
  carrying := by rw [carrying, carrying, remote_eq, settingUp_eq, finding_eq]
  serving := by
    rw [remote_eq]
    exact fun _ member _ => member
  settingUp := by
    rw [settingUp_eq]
    exact fun busy => busy
  finding := by simp [finding_eq]
  accepting := by simp [accepting_eq]

theorem agreesOn_of_same (id : GlobalThreadId cluster) (threads_eq : after.threads = host.threads)
    (remote_eq : after.remoteExecutions = host.remoteExecutions)
    (views : after.settingUp = host.settingUp ∧ after.finding = host.finding ∧
      after.accepting = host.accepting) : host.AgreesOn localHost id after :=
  agreesOn_of_view (fun _ => by rw [threads_eq]) (by rw [threads_eq]) remote_eq views.1 views.2.1
    views.2.2

theorem records_of_ne {tid : Nat} {replacement : Option (ThreadEntry cluster)}
    (threads_eq : after.threads = host.threads.put tid replacement)
    (different : id ≠ ⟨localHost, tid⟩) (here : id.homeHost = localHost) :
    after.threads.records id.localTid = host.threads.records id.localTid := by
  have other_tid : id.localTid ≠ tid := by
    intro same
    exact different (by rw [← here, ← same])
  rw [threads_eq, put_records, if_neg other_tid]

theorem settingUp_eq (handling : after.handling = host.handling) :
    after.settingUp = host.settingUp := by rw [settingUp, handling, settingUp]

theorem finding_eq (handling : after.handling = host.handling) :
    after.finding = host.finding := by rw [finding, handling, finding]

theorem accepting_eq (handling : after.handling = host.handling) :
    after.accepting = host.accepting := by rw [accepting, handling, accepting]

/-- Finishing an acknowledgement is no change for any completion or execution. -/
theorem views_of_acknowledged
    (handling : after.handling = host.handling ∨
      (∃ id, host.handling = .acknowledged id) ∧ after.handling = .idle) :
    after.settingUp = host.settingUp ∧ after.finding = host.finding ∧
      after.accepting = host.accepting := by
  obtain same | ⟨⟨id, busy⟩, idle⟩ := handling
  · exact ⟨settingUp_eq same, finding_eq same, accepting_eq same⟩
  · simp [settingUp, finding, accepting, busy, idle]

end ThreadHost

namespace ThreadWorld

variable {limits : cluster.Host → ThreadLimits} {world after : ThreadWorld cluster}
  {id : GlobalThreadId cluster} {localHost : cluster.Host} {effect : ThreadEffect cluster}

/-- What holds in every reached state. -/
structure Coherent (limits : cluster.Host → ThreadLimits) (world : ThreadWorld cluster) : Prop where
  fits : ∀ host, (world.hosts host).Fits (limits host) host
  /-- Every thread. -/
  traced : ∀ id, world.Traced id

/-- One host moves, and with it what is known about one thread. -/
theorem Coherent.apply (id : GlobalThreadId cluster) {network : List (ThreadMessage cluster)}
    (coherent : world.Coherent limits)
    (fits : effect.host.Fits (limits localHost) localHost)
    (others : ∀ other, other ≠ id → SameFor other world
      (ThreadWorld.apply { world with network := network } localHost effect))
    (subject : (ThreadWorld.apply { world with network := network } localHost effect).Traced id) :
    (ThreadWorld.apply { world with network := network } localHost effect).Coherent limits := by
  refine ⟨fun host => ?_, fun other => ?_⟩
  · by_cases same : host = localHost
    · subst same
      rw [apply_hosts_self]
      exact fits
    · rw [apply_hosts_of_ne same]
      exact coherent.fits host
  · by_cases same : other = id
    · subst same
      exact subject
    · exact (coherent.traced other).congr (others other same)

/-- One host moves on its own, and with it what is known about one thread. -/
theorem Coherent.act (id : GlobalThreadId cluster) (coherent : world.Coherent limits)
    (fits : effect.host.Fits (limits localHost) localHost)
    (others : ∀ other, other ≠ id →
      (world.hosts localHost).AgreesOn localHost other effect.host)
    (sent : ∀ message ∈ effect.sent, message.id = id)
    (events : ∀ event ∈ effect.events, event.id = id)
    (subject : (world.apply localHost effect).Traced id) :
    (world.apply localHost effect).Coherent limits := by
  refine coherent.apply id fits (fun other different => ?_) subject
  refine sameFor_apply (others other different) (fun message member => ?_) (fun event member => ?_)
    (fun _ member _ => member) rfl
  · rw [sent message member]
    exact Ne.symm different
  · rw [events event member]
    exact Ne.symm different

/-- One host moves, and nothing becomes known about any thread. -/
theorem Coherent.applyView {network : List (ThreadMessage cluster)}
    (coherent : world.Coherent limits) (fits : effect.host.Fits (limits localHost) localHost)
    (all : ∀ other, SameFor other world
      (ThreadWorld.apply { world with network := network } localHost effect)) :
    (ThreadWorld.apply { world with network := network } localHost effect).Coherent limits :=
  coherent.apply ⟨localHost, 0⟩ fits (fun other _ => all other)
    ((coherent.traced _).congr (all _))

theorem Delivers.rehome {message : ThreadMessage cluster} (delivers : world.Delivers message)
    (moved : ∀ kept, after.home message.id = some kept → ∃ entry,
      world.home message.id = some entry ∧
        kept.record.executionHost = entry.record.executionHost ∧
        (entry.stage.pastDispatch = true → kept.stage.pastDispatch = true))
    (recorded : message.body ≠ .createAck →
      after.history.recorded message.id = world.history.recorded message.id)
    (nextTid_le : (world.hosts message.id.homeHost).threads.nextTid ≤
      (after.hosts message.id.homeHost).threads.nextTid) : after.Delivers message := by
  unfold Delivers at delivers ⊢
  cases request : message.body with
  | createReq function arguments clusterFunction =>
      simp only [request] at delivers ⊢
      refine ⟨delivers.1, fun kept there => ?_⟩
      obtain ⟨entry, present, place, -⟩ := moved kept there
      exact place.trans (delivers.2 entry present)
  | createAck =>
      simp only [request] at delivers ⊢
      refine ⟨delivers.1, delivers.2.1.trans_le nextTid_le, fun kept there => ?_⟩
      obtain ⟨entry, present, -, past⟩ := moved kept there
      exact past (delivers.2.2 entry present)
  | completeNotify completion migrationEpoch =>
      simp only [request] at delivers ⊢
      refine ⟨delivers.1, delivers.2.1, ?_, fun kept there => ?_⟩
      · rw [recorded (by simp [request])]
        exact delivers.2.2.1
      · obtain ⟨entry, present, place, -⟩ := moved kept there
        exact place.trans (delivers.2.2.2 entry present)

/-- What two states of the cluster agree on besides records, messages and history. -/
def SameViews (world after : ThreadWorld cluster) : Prop :=
  ∀ host, (after.hosts host).remoteExecutions = (world.hosts host).remoteExecutions ∧
    (after.hosts host).settingUp = (world.hosts host).settingUp ∧
    (after.hosts host).finding = (world.hosts host).finding ∧
    (after.hosts host).accepting = (world.hosts host).accepting

/-- The pollers after an effect that leaves the acting poller alone. -/
theorem apply_pollers
    (views : effect.host.settingUp = (world.hosts localHost).settingUp ∧
      effect.host.finding = (world.hosts localHost).finding ∧
      effect.host.accepting = (world.hosts localHost).accepting) (host : cluster.Host) :
    ((world.apply localHost effect).hosts host).settingUp = (world.hosts host).settingUp ∧
      ((world.apply localHost effect).hosts host).finding = (world.hosts host).finding ∧
      ((world.apply localHost effect).hosts host).accepting = (world.hosts host).accepting := by
  by_cases same : host = localHost
  · subst same
    rw [apply_hosts_self]
    exact views
  · rw [apply_hosts_of_ne same]
    exact ⟨rfl, rfl, rfl⟩

theorem sameViews_apply
    (remote_eq : effect.host.remoteExecutions = (world.hosts localHost).remoteExecutions)
    (views : effect.host.settingUp = (world.hosts localHost).settingUp ∧
      effect.host.finding = (world.hosts localHost).finding ∧
      effect.host.accepting = (world.hosts localHost).accepting) :
    SameViews world (world.apply localHost effect) := by
  refine fun host => ⟨?_, apply_pollers views host⟩
  by_cases same : host = localHost
  · subst same
    rw [apply_hosts_self]
    exact remote_eq
  · rw [apply_hosts_of_ne same]

/-- The record of a thread moves while its carriers stay. -/
theorem Traced.rehome (traced : world.Traced id) (views : SameViews world after)
    (load_eq : after.load id = world.load id)
    (network : ∀ message ∈ after.network, message.id = id → message ∈ world.network)
    (recorded_eq : after.history.recorded id = world.history.recorded id)
    (nextTid_le : (world.hosts id.homeHost).threads.nextTid ≤
      (after.hosts id.homeHost).threads.nextTid)
    (weight_eq : Census.weight (fun entry => decide (entry.stage = .dispatched)) (after.home id) =
      Census.weight (fun entry => decide (entry.stage = .dispatched)) (world.home id))
    (moved : ∀ kept, after.home id = some kept → ∃ entry, world.home id = some entry ∧
      kept.record.executionHost = entry.record.executionHost ∧
      (entry.stage.pastDispatch = true → kept.stage.pastDispatch = true))
    (epoch : ∀ entry, after.home id = some entry →
      (entry.stage.inCreation = true → entry.record.migrationEpoch = 0) ∧
        (entry.stage = .dispatched → entry.record.migrationEpoch = 0 ∨
          ∃ completion, (world.hosts id.homeHost).finding = some (id, completion)))
    (settled : ∀ entry, after.home id = some entry → entry.stage = .settled →
      entry.record.executionHost ≠ id.homeHost →
        world.history.recorded id = some entry.record.completion)
    (handled : after.history.handled id = true →
      id.localTid < (after.hosts id.homeHost).threads.nextTid ∧
        (∀ entry, after.home id = some entry →
          entry.stage = .settled ∧ entry.record.executionHost ≠ id.homeHost) ∧
        (after.home id = none →
          after.history.departed id = some .detached ∨
            ∃ completion, after.history.departed id = some (.joined completion) ∧
              after.history.recorded id = some completion)) : after.Traced id where
  load := by rw [load_eq, weight_eq, traced.load]
  network message member about := by
    subst about
    exact (traced.network message (network message member rfl) rfl).rehome moved
      (fun _ => recorded_eq) nextTid_le
  serving host execution member about := by
    rw [(views host).1] at member
    obtain ⟨place, report⟩ := traced.serving host execution member about
    rw [recorded_eq]
    refine ⟨fun kept there => ?_, report⟩
    obtain ⟨entry, present, same, -⟩ := moved kept there
    exact same.trans (place entry present)
  settingUp host busy kept there := by
    rw [(views host).2.1] at busy
    obtain ⟨entry, present, same, -⟩ := moved kept there
    exact same.trans (traced.settingUp host busy entry present)
  finding host completion found := by
    rw [(views host).2.2.1] at found
    rw [recorded_eq]
    exact traced.finding host completion found
  accepting host completion accepted := by
    rw [(views host).2.2.2] at accepted
    rw [recorded_eq]
    exact traced.accepting host completion accepted
  epoch entry present := by
    rw [(views id.homeHost).2.2.1]
    exact epoch entry present
  settled entry present stage away := by
    rw [recorded_eq]
    exact settled entry present stage away
  handled := handled

theorem Coherent.replaced {tid : Nat} {entry : ThreadEntry cluster}
    {replacement : Option (ThreadEntry cluster)} (coherent : world.Coherent limits)
    (replaces : (world.hosts localHost).Replaces (limits localHost) localHost tid entry replacement
      effect) : (world.apply localHost effect).Coherent limits := by
  obtain ⟨present, threads_eq, executions_eq, remote_eq, handling, sent, fits, rewrites⟩ := replaces
  have views := ThreadHost.views_of_acknowledged handling
  refine coherent.act ⟨localHost, tid⟩ fits (fun other different => ?_) (by simp [sent])
    (fun event member => ?_) ?_
  · exact ThreadHost.agreesOn_of_view (ThreadHost.records_of_ne threads_eq different)
      (by rw [threads_eq]; rfl) remote_eq views.1 views.2.1 views.2.2
  · obtain ⟨departure, rfl⟩ := rewrites.about event member
    rfl
  · have traced := coherent.traced ⟨localHost, tid⟩
    have home_before : world.home ⟨localHost, tid⟩ = some entry := present
    have home_after : (world.apply localHost effect).home ⟨localHost, tid⟩ = replacement := by
      rw [apply_home_self, threads_eq, ThreadHost.put_records, if_pos rfl]
    have nextTid_eq : ((world.apply localHost effect).hosts localHost).threads.nextTid =
        (world.hosts localHost).threads.nextTid := by
      rw [apply_hosts_self, threads_eq]
      rfl
    obtain ⟨recorded_eq, handled_eq⟩ :=
      ThreadHistory.foldl_note_departed world.history rewrites.about
    have load_eq := load_apply world localHost effect ⟨localHost, tid⟩
    refine traced.rehome (sameViews_apply remote_eq views) ?_ ?_ (congrFun recorded_eq _)
      nextTid_eq.ge ?_ ?_ ?_ ?_ ?_
    · have carrying_eq : effect.host.carrying ⟨localHost, tid⟩ =
          (world.hosts localHost).carrying ⟨localHost, tid⟩ := by
        rw [ThreadHost.carrying, ThreadHost.carrying, remote_eq, views.1, views.2.1]
      simp only [sent, List.countP_nil, carrying_eq] at load_eq
      omega
    · simp only [ThreadWorld.apply, sent, List.append_nil]
      exact fun _ member _ => member
    · rw [home_after, home_before, Census.weight_some]
      by_cases stage : entry.stage = .dispatched
      · obtain ⟨kept, rfl, kept_stage⟩ := rewrites.keeps.1 (.inl stage)
        simp [Census.weight_some, kept_stage]
      · cases replacement with
        | none => simp [stage]
        | some kept =>
            have kept_stage : kept.stage ≠ .dispatched :=
              fun dispatched => stage (rewrites.dispatched kept rfl dispatched)
            simp [Census.weight_some, stage, kept_stage]
    · intro kept there
      rw [home_after] at there
      exact ⟨entry, home_before, rewrites.place kept there,
        fun past => rewrites.keeps.2 past kept there⟩
    · intro kept there
      rw [home_after] at there
      obtain ⟨creation, dispatched⟩ := traced.epoch entry home_before
      rw [rewrites.epoch kept there]
      exact ⟨fun inside => creation (rewrites.creation kept there inside),
        fun stage => dispatched (rewrites.dispatched kept there stage)⟩
    · intro kept there stage away
      rw [home_after] at there
      obtain ⟨settled, completion_eq⟩ := rewrites.completion kept there stage away
      rw [completion_eq]
      exact traced.settled entry home_before settled (rewrites.place kept there ▸ away)
    · intro marked
      have before : world.history.handled ⟨localHost, tid⟩ = true := by
        rw [← marked]
        exact (congrFun handled_eq _).symm
      obtain ⟨allocated, settled, -⟩ := traced.handled before
      obtain ⟨stage, away⟩ := settled entry home_before
      refine ⟨allocated.trans_le nextTid_eq.ge, fun kept there => ?_, fun gone => ?_⟩
      · rw [home_after] at there
        exact ⟨rewrites.settled kept there stage, (rewrites.place kept there).symm ▸ away⟩
      · rw [home_after] at gone
        have recorded := traced.settled entry home_before stage away
        obtain detached | joined := rewrites.departs gone stage
        · left
          simp [ThreadWorld.apply, detached, ThreadHistory.note]
        · right
          refine ⟨entry.record.completion, ?_, ?_⟩
          · simp [ThreadWorld.apply, joined, ThreadHistory.note]
          · exact (congrFun recorded_eq _).trans recorded

/-- A host moves and no thread is concerned. -/
theorem Coherent.view {host : ThreadHost cluster} (coherent : world.Coherent limits)
    (fits : host.Fits (limits localHost) localHost)
    (threads_eq : host.threads = (world.hosts localHost).threads)
    (remote_eq : host.remoteExecutions = (world.hosts localHost).remoteExecutions)
    (views : host.settingUp = (world.hosts localHost).settingUp ∧
      host.finding = (world.hosts localHost).finding ∧
      host.accepting = (world.hosts localHost).accepting) :
    (world.apply localHost host.quietly).Coherent limits := by
  refine coherent.applyView fits fun other => ?_
  exact sameFor_apply (ThreadHost.agreesOn_of_same other threads_eq remote_eq views) (by simp)
    (by simp) (fun _ member _ => member) rfl

theorem Coherent.created {target : cluster.Host} {function : UInt64} {arguments : List UInt8}
    {clusterFunction : Bool} (coherent : world.Coherent limits)
    (free : (world.hosts localHost).creating = none) :
    (world.apply localHost (ThreadHost.quietly
      { world.hosts localHost with
        threads :=
          { nextTid := (world.hosts localHost).threads.nextTid + 1
            records := Function.update (world.hosts localHost).threads.records
              (world.hosts localHost).threads.nextTid
              (some (ThreadHost.launched target function arguments)) }
        creating :=
          some ⟨(world.hosts localHost).threads.nextTid, clusterFunction, false⟩ })).Coherent
            limits := by
  set host := world.hosts localHost with host_eq
  set after : ThreadHost cluster :=
    { host with
      threads :=
        { nextTid := host.threads.nextTid + 1
          records := Function.update host.threads.records host.threads.nextTid
            (some (ThreadHost.launched target function arguments)) }
      creating := some ⟨host.threads.nextTid, clusterFunction, false⟩ } with after_eq
  have fits : after.Fits (limits localHost) localHost := (coherent.fits localHost).created free
  have traced := coherent.traced ⟨localHost, host.threads.nextTid⟩
  have unused : world.home ⟨localHost, host.threads.nextTid⟩ = none :=
    (coherent.fits localHost).entries.threads_fresh _ le_rfl
  have home_after : (world.apply localHost after.quietly).home ⟨localHost, host.threads.nextTid⟩ =
      some (ThreadHost.launched target function arguments) := by
    rw [apply_home_self]
    exact Function.update_self ..
  refine coherent.act ⟨localHost, host.threads.nextTid⟩ fits (fun other different => ?_) (by simp)
    (by simp) ?_
  · refine ThreadHost.agreesOn_of_view (fun here => ?_) (Nat.le_succ _) rfl rfl rfl rfl
    refine Function.update_of_ne ?_ _ _
    intro same
    exact different (by rw [← here, ← same])
  · have load_zero := traced.load_eq_zero (by simp [unused])
    have load_eq := load_apply world localHost after.quietly ⟨localHost, host.threads.nextTid⟩
    have carrying_eq : after.carrying ⟨localHost, host.threads.nextTid⟩ =
        host.carrying ⟨localHost, host.threads.nextTid⟩ := rfl
    refine traced_of_load_zero ?_ ?_ ?_ ?_ ?_ ?_ ?_
    · simp only [ThreadHost.quietly, List.countP_nil, carrying_eq, ← host_eq] at load_eq
      simp only [ThreadHost.quietly]
      omega
    · intro entry present
      rw [home_after] at present
      obtain rfl := Option.some.inj present
      simp [ThreadHost.launched, ThreadEntry.allocate]
    · intro message member about acknowledgement
      have delivers := traced.network message (by simpa [ThreadWorld.apply] using member) about
      simp only [Delivers, acknowledgement, about] at delivers
      exact absurd delivers.2.1 (lt_irrefl _)
    · intro other completion accepted
      have views : SameViews world (world.apply localHost after.quietly) :=
        sameViews_apply rfl ⟨rfl, rfl, rfl⟩
      rw [(views other).2.2.2] at accepted
      exact traced.accepting other completion accepted
    · intro entry present _
      rw [home_after] at present
      obtain rfl := Option.some.inj present
      rfl
    · intro entry present stage
      rw [home_after] at present
      obtain rfl := Option.some.inj present
      cases stage
    · intro marked
      exact absurd (traced.handled marked).1 (lt_irrefl _)

theorem Coherent.dispatched {call : LaunchCall} {entry : ThreadEntry cluster}
    (coherent : world.Coherent limits) (fits : effect.host.Fits (limits localHost) localHost)
    (present : (world.hosts localHost).threads.records call.tid = some entry)
    (stage : entry.stage = .counted)
    (effect_eq : effect =
      { host :=
          { (world.hosts localHost).putThread call.tid (entry.goto .dispatched) with
            creating := none }
        sent :=
          [{ source := localHost
             target := entry.record.executionHost
             id := ⟨localHost, call.tid⟩
             body := .createReq entry.record.functionId entry.record.argBytes
              call.clusterFunction }]
        events := [] }) :
    (world.apply localHost effect).Coherent limits := by
  have traced := coherent.traced ⟨localHost, call.tid⟩
  have home_before : world.home ⟨localHost, call.tid⟩ = some entry := present
  have views : SameViews world (world.apply localHost effect) :=
    sameViews_apply (by simp [effect_eq]) (by simp [effect_eq, ThreadHost.settingUp,
      ThreadHost.finding, ThreadHost.accepting])
  have home_after : (world.apply localHost effect).home ⟨localHost, call.tid⟩ =
      some (entry.goto .dispatched) := by
    rw [apply_home_self]
    simp [effect_eq, ThreadHost.put_records]
  have load_zero := traced.load_eq_zero (by simp [home_before, stage])
  have load_one : (world.apply localHost effect).load ⟨localHost, call.tid⟩ = 1 := by
    have load_eq := load_apply world localHost effect ⟨localHost, call.tid⟩
    have carrying_eq : effect.host.carrying ⟨localHost, call.tid⟩ =
        (world.hosts localHost).carrying ⟨localHost, call.tid⟩ := by
      rw [effect_eq]
      rfl
    have sent_one : effect.sent.countP (ThreadMessage.carries ⟨localHost, call.tid⟩) = 1 := by
      simp [effect_eq, ThreadMessage.carries]
    omega
  refine coherent.act ⟨localHost, call.tid⟩ fits (fun other different => ?_) (by simp [effect_eq])
    (by simp [effect_eq]) ?_
  · rw [effect_eq]
    exact ThreadHost.agreesOn_of_view (ThreadHost.records_of_ne rfl different) le_rfl rfl rfl rfl
      rfl
  · obtain ⟨messages, places⟩ := uncarried load_zero
    refine ⟨?_, ?_, ?_, ?_, ?_, ?_, ?_, ?_, ?_⟩
    · rw [load_one, home_after]
      rfl
    · intro message member about
      obtain old | new := List.mem_append.mp member
      · have delivers := traced.network message old about
        simp only [Delivers, messages message old about, about, home_before] at delivers
        have past := delivers.2.2 entry rfl
        simp [stage] at past
      · obtain rfl : message = _ := by simpa [effect_eq] using new
        refine ⟨rfl, fun kept there => ?_⟩
        rw [home_after] at there
        obtain rfl := Option.some.inj there
        rfl
    · intro host execution listed about
      rw [(views host).1] at listed
      exact absurd about ((places host).1 execution listed)
    · intro host busy
      rw [(views host).2.1] at busy
      exact absurd busy (places host).2.1
    · intro host completion found
      rw [(views host).2.2.1] at found
      exact absurd found ((places host).2.2 completion)
    · intro host completion accepted
      rw [(views host).2.2.2] at accepted
      simpa [ThreadWorld.apply, effect_eq] using traced.accepting host completion accepted
    · intro kept there
      rw [home_after] at there
      obtain rfl := Option.some.inj there
      have zero := (traced.epoch entry home_before).1 (by simp [stage])
      exact ⟨by simp, fun _ => .inl zero⟩
    · intro kept there settled
      rw [home_after] at there
      obtain rfl := Option.some.inj there
      cases settled
    · intro marked
      have before : world.history.handled ⟨localHost, call.tid⟩ = true := by
        simpa [ThreadWorld.apply, effect_eq] using marked
      have settled := ((traced.handled before).2.1 entry home_before).1
      rw [stage] at settled
      cases settled

/-- The carrier of a thread moves and its record stays. -/
theorem Traced.recarry (traced : world.Traced id) (home_eq : after.home id = world.home id)
    (load_eq : after.load id = world.load id)
    (nextTid_le : (world.hosts id.homeHost).threads.nextTid ≤
      (after.hosts id.homeHost).threads.nextTid)
    (history_eq : after.history = world.history)
    (network : ∀ message ∈ after.network, message.id = id →
      message ∈ world.network ∨ after.Delivers message)
    (serving : ∀ host execution, execution ∈ (after.hosts host).remoteExecutions →
      execution.home = id → execution ∈ (world.hosts host).remoteExecutions ∨
        execution.reaped = none ∧ ∀ entry, world.home id = some entry →
          entry.record.executionHost = host)
    (settingUp : ∀ host, (after.hosts host).settingUp = some id →
      (world.hosts host).settingUp = some id ∨ ∀ entry, world.home id = some entry →
        entry.record.executionHost = host)
    (finding : ∀ host completion, (after.hosts host).finding = some (id, completion) →
      (world.hosts host).finding = some (id, completion) ∨
        world.history.recorded id = some completion)
    (found : ∀ completion, (world.hosts id.homeHost).finding = some (id, completion) →
      (after.hosts id.homeHost).finding = some (id, completion))
    (accepting : ∀ host completion, (after.hosts host).accepting = some (id, completion) →
      (world.hosts host).accepting = some (id, completion)) : after.Traced id where
  load := by rw [load_eq, home_eq, traced.load]
  network message member about := by
    obtain old | new := network message member about
    · subst about
      exact (traced.network message old rfl).congr home_eq (by rw [history_eq]) nextTid_le
    · exact new
  serving host execution member about := by
    rw [home_eq, history_eq]
    obtain old | ⟨unreaped, place⟩ := serving host execution member about
    · exact traced.serving host execution old about
    · exact ⟨place, by simp [unreaped]⟩
  settingUp host busy := by
    rw [home_eq]
    obtain old | place := settingUp host busy
    · exact traced.settingUp host old
    · exact place
  finding host completion now := by
    rw [history_eq]
    obtain old | recorded := finding host completion now
    · exact traced.finding host completion old
    · exact recorded
  accepting host completion now := by
    rw [history_eq]
    exact traced.accepting host completion (accepting host completion now)
  epoch entry present := by
    rw [home_eq] at present
    obtain ⟨creation, dispatched⟩ := traced.epoch entry present
    refine ⟨creation, fun stage => ?_⟩
    obtain zero | ⟨completion, before⟩ := dispatched stage
    · exact .inl zero
    · exact .inr ⟨completion, found completion before⟩
  settled entry present := by
    rw [home_eq] at present
    rw [history_eq]
    exact traced.settled entry present
  handled marked := by
    rw [history_eq] at marked
    obtain ⟨allocated, settled, departed⟩ := traced.handled marked
    rw [home_eq, history_eq]
    exact ⟨allocated.trans_le nextTid_le, settled, departed⟩

theorem home_apply_of_threads (threads_eq : effect.host.threads = (world.hosts localHost).threads)
    (id : GlobalThreadId cluster) : (world.apply localHost effect).home id = world.home id := by
  by_cases here : id.homeHost = localHost
  · obtain ⟨homeHost, tid⟩ := id
    obtain rfl : homeHost = localHost := here
    rw [apply_home_self, threads_eq, home]
  · exact apply_home_of_ne here

theorem nextTid_apply_of_threads
    (threads_eq : effect.host.threads = (world.hosts localHost).threads) (host : cluster.Host) :
    ((world.apply localHost effect).hosts host).threads.nextTid =
      (world.hosts host).threads.nextTid := by
  by_cases here : host = localHost
  · subst here
    rw [apply_hosts_self, threads_eq]
  · rw [apply_hosts_of_ne here]

/-- A host moves the carrier of a thread and leaves its record alone. -/
theorem Traced.carry {inFlight : List (ThreadMessage cluster)} (traced : world.Traced id)
    (threads_eq : effect.host.threads = (world.hosts localHost).threads)
    (events : effect.events = [])
    (count_eq : inFlight.countP (ThreadMessage.carries id) +
        effect.sent.countP (ThreadMessage.carries id) + effect.host.carrying id =
      world.network.countP (ThreadMessage.carries id) + (world.hosts localHost).carrying id)
    (old : ∀ message ∈ inFlight, message ∈ world.network)
    (sent : ∀ message ∈ effect.sent, message.id = id →
      (ThreadWorld.apply { world with network := inFlight } localHost effect).Delivers message)
    (serving : ∀ execution ∈ effect.host.remoteExecutions, execution.home = id →
      execution ∈ (world.hosts localHost).remoteExecutions ∨
        execution.reaped = none ∧ ∀ entry, world.home id = some entry →
          entry.record.executionHost = localHost)
    (settingUp : effect.host.settingUp = some id →
      (world.hosts localHost).settingUp = some id ∨ ∀ entry, world.home id = some entry →
        entry.record.executionHost = localHost)
    (finding : ∀ completion, effect.host.finding = some (id, completion) →
      (world.hosts localHost).finding = some (id, completion) ∨
        world.history.recorded id = some completion)
    (found : ∀ completion, (world.hosts localHost).finding = some (id, completion) →
      effect.host.finding = some (id, completion))
    (accepting : ∀ completion, effect.host.accepting = some (id, completion) →
      (world.hosts localHost).accepting = some (id, completion)) :
    (ThreadWorld.apply { world with network := inFlight } localHost effect).Traced id := by
  have hosts_eq : ∀ host, host = localHost ∧
      (ThreadWorld.apply { world with network := inFlight } localHost effect).hosts host =
        effect.host ∨
      (ThreadWorld.apply { world with network := inFlight } localHost effect).hosts host =
        world.hosts host := by
    intro host
    by_cases here : host = localHost
    · subst here
      exact .inl ⟨rfl, apply_hosts_self⟩
    · exact .inr (apply_hosts_of_ne here)
  refine traced.recarry (home_apply_of_threads threads_eq _) ?_
    (nextTid_apply_of_threads threads_eq _).ge (by simp [ThreadWorld.apply, events])
    (fun message member about => ?_) (fun host execution listed about => ?_) (fun host now => ?_)
    (fun host completion now => ?_) (fun completion before => ?_) fun host completion now => ?_
  · have load_eq := load_apply { world with network := inFlight } localHost effect id
    simp only [ThreadWorld.load] at load_eq ⊢
    omega
  · exact (List.mem_append.mp member).imp (old message) fun new => sent message new about
  · obtain ⟨rfl, moved⟩ | stays := hosts_eq host
    · exact serving execution (moved ▸ listed) about
    · exact .inl (stays ▸ listed)
  · obtain ⟨rfl, moved⟩ | stays := hosts_eq host
    · exact settingUp (moved ▸ now)
    · exact .inl (stays ▸ now)
  · obtain ⟨rfl, moved⟩ | stays := hosts_eq host
    · exact finding completion (moved ▸ now)
    · exact .inl (stays ▸ now)
  · obtain ⟨here, moved⟩ | stays := hosts_eq id.homeHost
    · exact moved ▸ found completion (here ▸ before)
    · exact stays ▸ before
  · obtain ⟨rfl, moved⟩ | stays := hosts_eq host
    · exact accepting completion (moved ▸ now)
    · exact stays ▸ now

theorem Coherent.accepted_home (coherent : world.Coherent limits) {host : cluster.Host}
    {completion : Completion} (accepted : (world.hosts host).accepting = some (id, completion)) :
    ∃ entry, world.home id = some entry ∧ entry.stage = .accepted ∧ id.homeHost = host := by
  have handling : (world.hosts host).handling = .accepted id completion := by
    revert accepted
    rw [ThreadHost.accepting]
    split <;> simp_all
  obtain ⟨entry, there, stage⟩ := (coherent.fits host).poller.accepted id completion handling
  obtain ⟨id_eq, present⟩ := ThreadHost.find_some there
  have here : id.homeHost = host := by rw [id_eq]
  exact ⟨entry, by rw [home, here, present], stage, here⟩

/-- Everything but the one host that carries a thread. -/
structure SoleCarrier (world : ThreadWorld cluster) (localHost : cluster.Host)
    (id : GlobalThreadId cluster) : Prop where
  once : (world.hosts localHost).carrying id = 1
  network : ∀ message ∈ world.network, message.id = id → message.body = .createAck
  others : ∀ host, host ≠ localHost → (world.hosts host).carrying id = 0

theorem Traced.sole_carrier (traced : world.Traced id)
    (carried : 0 < (world.hosts localHost).carrying id) :
    SoleCarrier world localHost id ∧
      ∃ entry, world.home id = some entry ∧ entry.stage = .dispatched := by
  have bound := world.carrying_le_load localHost id
  obtain ⟨load_one, dispatched⟩ := traced.dispatched (carried.trans_le (by omega))
  refine ⟨⟨by omega, fun message member about => ?_, fun host different => ?_⟩, dispatched⟩
  · by_contra request
    have carries : message.carries id = true := by simp [ThreadMessage.carries, about, request]
    have more := carries_pos member carries
    omega
  · by_contra more
    have two := two_le_load different (Nat.pos_of_ne_zero more) carried
    omega

theorem Coherent.registered {tid : Nat} {launched : Bool} (coherent : world.Coherent limits)
    (fits : effect.host.Fits (limits localHost) localHost)
    (handling : (world.hosts localHost).handling = .registering id tid launched)
    (effect_eq : effect =
      { host :=
          { world.hosts localHost with
            remoteExecutions := (world.hosts localHost).remoteExecutions ++ [⟨id, tid, none⟩]
            handling := .idle }
        sent := if launched then [⟨localHost, id.homeHost, id, .createAck⟩] else []
        events := [] }) :
    (world.apply localHost effect).Coherent limits := by
  have traced := coherent.traced id
  have busy : (world.hosts localHost).settingUp = some id := by
    simp [ThreadHost.settingUp, handling]
  have nothing : (world.hosts localHost).finding = none ∧
      (world.hosts localHost).accepting = none := by
    simp [ThreadHost.finding, ThreadHost.accepting, handling]
  have threads_eq : effect.host.threads = (world.hosts localHost).threads := by rw [effect_eq]
  have carried := (carrying_of_settingUp busy).trans_le
    ((Nat.le_add_left _ _).trans (world.carrying_le_load localHost id))
  obtain ⟨-, entry, present, stage⟩ := traced.dispatched carried
  have carrying_eq : ∀ other, effect.host.carrying other =
      (world.hosts localHost).carrying other := by
    intro other
    simp only [ThreadHost.carrying, effect_eq, ThreadHost.settingUp, ThreadHost.finding, handling,
      List.countP_append, List.countP_singleton, Option.any_some, Option.any_none]
    by_cases same : id = other <;> simp [same]
  refine coherent.act id fits (fun other different => ?_) ?_ (by simp [effect_eq]) ?_
  · refine ⟨fun _ => by rw [threads_eq], by rw [threads_eq], carrying_eq other, ?_, ?_, ?_, ?_⟩
    · intro execution listed about
      obtain old | new : execution ∈ (world.hosts localHost).remoteExecutions ∨
          execution = ⟨id, tid, none⟩ := by simpa [effect_eq] using listed
      · exact old
      · exact absurd (by rw [← about, new]) different
    · simp [effect_eq, ThreadHost.settingUp]
    · simp [effect_eq, ThreadHost.finding, handling]
    · simp [effect_eq, ThreadHost.accepting]
  · rw [effect_eq]
    split <;> simp
  · refine traced.carry threads_eq (by simp [effect_eq]) ?_ (fun _ member => member) ?_ ?_
      (fun _ => .inl busy) (by simp [effect_eq, ThreadHost.finding]) (by simp [nothing])
      (by simp [effect_eq, ThreadHost.accepting])
    · have acknowledgement : effect.sent.countP (ThreadMessage.carries id) = 0 := by
        rw [effect_eq]
        split <;> simp [ThreadMessage.carries]
      have same := carrying_eq id
      omega
    · intro message new about
      cases launched with
      | false => simp [effect_eq] at new
      | true =>
          obtain rfl : message = _ := by simpa [effect_eq] using new
          refine ⟨rfl, ?_, fun kept there => ?_⟩
          · rw [nextTid_apply_of_threads threads_eq]
            exact (coherent.fits id.homeHost).entries.tid_lt present
          · rw [home_apply_of_threads threads_eq] at there
            obtain rfl := Option.some.inj (present.symm.trans there)
            simp [stage]
    · intro execution listed about
      obtain old | new : execution ∈ (world.hosts localHost).remoteExecutions ∨
          execution = ⟨id, tid, none⟩ := by simpa [effect_eq] using listed
      · exact .inl old
      · exact .inr ⟨by rw [new], traced.settingUp localHost busy⟩

theorem Coherent.published {index : Nat} {execution : RemoteExecution cluster}
    {report : Completion × Nat} (coherent : world.Coherent limits)
    (fits : effect.host.Fits (limits localHost) localHost)
    (listed : (world.hosts localHost).remoteExecutions[index]? = some execution)
    (reaped : execution.reaped = some report)
    (effect_eq : effect =
      { host :=
          { world.hosts localHost with
            remoteExecutions := (world.hosts localHost).remoteExecutions.eraseIdx index }
        sent := [⟨localHost, execution.home.homeHost, execution.home,
          .completeNotify report.1 report.2⟩]
        events := [] }) :
    (world.apply localHost effect).Coherent limits := by
  have traced := coherent.traced execution.home
  have member := List.mem_of_getElem? listed
  obtain ⟨place, reports⟩ := traced.serving localHost execution member rfl
  obtain ⟨recorded, epoch⟩ := reports report reaped
  have threads_eq : effect.host.threads = (world.hosts localHost).threads := by rw [effect_eq]
  have views : effect.host.settingUp = (world.hosts localHost).settingUp ∧
      effect.host.finding = (world.hosts localHost).finding ∧
      effect.host.accepting = (world.hosts localHost).accepting := by
    rw [effect_eq]
    exact ⟨rfl, rfl, rfl⟩
  have subset : ∀ other ∈ effect.host.remoteExecutions,
      other ∈ (world.hosts localHost).remoteExecutions := by
    rw [effect_eq]
    exact fun other there => List.mem_of_mem_eraseIdx there
  have carrying_eq : ∀ other, effect.host.carrying other +
      (decide (execution.home = other)).toNat = (world.hosts localHost).carrying other := by
    intro other
    have count_eq := Census.countP_eraseIdx (fun each : RemoteExecution cluster =>
      decide (each.home = other)) listed
    simp only [ThreadHost.carrying, views]
    rw [effect_eq]
    simp only
    omega
  refine coherent.act execution.home fits (fun other different => ?_) (by simp [effect_eq])
    (by simp [effect_eq]) ?_
  · refine ⟨fun _ => by rw [threads_eq], by rw [threads_eq], ?_,
      fun each there _ => subset each there, ?_, ?_, ?_⟩
    · have same := carrying_eq other
      simpa [Ne.symm different] using same
    · simp [views]
    · simp [views]
    · simp [views]
  · refine traced.carry threads_eq (by simp [effect_eq]) ?_ (fun _ member => member) ?_
      (fun other there _ => .inl (subset other there)) (fun now => .inl (views.1 ▸ now))
      (fun completion now => .inl (views.2.1 ▸ now)) (fun completion before => views.2.1 ▸ before)
      (fun completion now => views.2.2 ▸ now)
    · have sent_one : effect.sent.countP (ThreadMessage.carries execution.home) = 1 := by
        simp [effect_eq, ThreadMessage.carries]
      have same := carrying_eq execution.home
      simp only [decide_true, Bool.toNat_true] at same
      omega
    · intro message new about
      obtain rfl : message = _ := by simpa [effect_eq] using new
      refine ⟨rfl, epoch, by simpa [ThreadWorld.apply, effect_eq] using recorded, ?_⟩
      rw [home_apply_of_threads threads_eq]
      exact place

section Reap

variable {index : Nat} {execution : RemoteExecution cluster}

theorem SoleCarrier.alone (sole : SoleCarrier world localHost execution.home)
    (listed : (world.hosts localHost).remoteExecutions[index]? = some execution) :
    ∀ each ∈ (world.hosts localHost).remoteExecutions.eraseIdx index,
      each.home ≠ execution.home := by
  have once := sole.once
  have taken := Census.countP_eraseIdx
    (fun each : RemoteExecution cluster => decide (each.home = execution.home)) listed
  simp only [ThreadHost.carrying, decide_true, Bool.toNat_true] at once taken
  have none_left : ((world.hosts localHost).remoteExecutions.eraseIdx index).countP
      (fun each => each.home = execution.home) = 0 := by omega
  exact fun each rest about => by simpa [about] using List.countP_eq_zero.mp none_left each rest

theorem SoleCarrier.unfound (sole : SoleCarrier world localHost execution.home)
    (member : execution ∈ (world.hosts localHost).remoteExecutions) (host : cluster.Host)
    (completion : Completion) : (world.hosts host).finding ≠ some (execution.home, completion) := by
  intro found
  by_cases here : host = localHost
  · subst here
    have once := sole.once
    have served : 0 < (world.hosts host).remoteExecutions.countP
        (fun each => each.home = execution.home) :=
      List.countP_pos_iff.mpr ⟨execution, member, decide_eq_true rfl⟩
    simp only [ThreadHost.carrying, found, Option.any_some, decide_true, Bool.toNat_true] at once
    omega
  · have carried := carrying_of_finding found
    rw [sole.others host here] at carried
    exact absurd carried (lt_irrefl 0)

theorem SoleCarrier.elsewhere (sole : SoleCarrier world localHost id) {host : cluster.Host}
    (different : host ≠ localHost) (there : execution ∈ (world.hosts host).remoteExecutions) :
    execution.home ≠ id := by
  rintro rfl
  have carried := carrying_of_serving there
  rw [sole.others host different] at carried
  exact absurd carried (lt_irrefl 0)

variable {replacement : RemoteExecution cluster}
  (listed : (world.hosts localHost).remoteExecutions[index]? = some execution)
  (executions : effect.host.remoteExecutions =
    (world.hosts localHost).remoteExecutions.set index replacement)
  (same : replacement.home = execution.home)
  (views : effect.host.settingUp = (world.hosts localHost).settingUp ∧
    effect.host.finding = (world.hosts localHost).finding ∧
    effect.host.accepting = (world.hosts localHost).accepting)

include listed executions

theorem eq_or_mem_replaced {each : RemoteExecution cluster}
    (there : each ∈ effect.host.remoteExecutions) :
    each = replacement ∨ each ∈ (world.hosts localHost).remoteExecutions.eraseIdx index := by
  have inside := (List.getElem?_eq_some_iff.mp listed).1
  rw [executions] at there
  have cases := Census.eq_or_mem_eraseIdx (List.getElem?_set_self inside) there
  rwa [List.eraseIdx_set_eq] at cases

include same views

theorem carrying_replaced (other : GlobalThreadId cluster) :
    effect.host.carrying other = (world.hosts localHost).carrying other := by
  have count_eq := Census.countP_set (fun each : RemoteExecution cluster =>
    decide (each.home = other)) listed (congrArg (decide <| · = other) same)
  rw [ThreadHost.carrying, ThreadHost.carrying, views.1, views.2.1, executions, count_eq]

/-- Replacing an execution changes nothing about other threads. -/
theorem agreesOn_replaced (threads_eq : effect.host.threads = (world.hosts localHost).threads)
    {other : GlobalThreadId cluster} (different : other ≠ execution.home) :
    (world.hosts localHost).AgreesOn localHost other effect.host := by
  refine ⟨fun _ => by rw [threads_eq], by rw [threads_eq],
    carrying_replaced listed executions same views other, fun each there about => ?_, ?_, ?_, ?_⟩
  · obtain rfl | rest := eq_or_mem_replaced listed executions there
    · exact absurd (about.symm.trans same) different
    · exact List.mem_of_mem_eraseIdx rest
  · simp [views]
  · simp [views]
  · simp [views]

end Reap

theorem Coherent.reaped {index : Nat} {execution : RemoteExecution cluster}
    {entry : ThreadEntry cluster} (coherent : world.Coherent limits)
    (fits : effect.host.Fits (limits localHost) localHost)
    (listed : (world.hosts localHost).remoteExecutions[index]? = some execution)
    (epoch : entry.record.migrationEpoch = 0)
    (effect_eq : effect =
      { host :=
          { ((world.hosts localHost).putExecution execution.localTid none).releaseExecution with
            remoteExecutions := (world.hosts localHost).remoteExecutions.set index
              { execution with
                reaped := some (entry.record.completion, entry.record.migrationEpoch) } }
        sent := []
        events := [.recorded execution.home entry.record.completion] }) :
    (world.apply localHost effect).Coherent limits := by
  have traced := coherent.traced execution.home
  have member := List.mem_of_getElem? listed
  have threads_eq : effect.host.threads = (world.hosts localHost).threads := by
    rw [effect_eq]
    rfl
  have views : effect.host.settingUp = (world.hosts localHost).settingUp ∧
      effect.host.finding = (world.hosts localHost).finding ∧
      effect.host.accepting = (world.hosts localHost).accepting := by
    rw [effect_eq]
    exact ⟨rfl, rfl, rfl⟩
  have executions : effect.host.remoteExecutions =
      (world.hosts localHost).remoteExecutions.set index
        { execution with
          reaped := some (entry.record.completion, entry.record.migrationEpoch) } := by
    rw [effect_eq]
  have history_eq : (world.apply localHost effect).history.recorded execution.home =
      some entry.record.completion := by
    simp [ThreadWorld.apply, effect_eq, ThreadHistory.note]
  obtain ⟨sole, record, present, stage⟩ := traced.sole_carrier (carrying_of_serving member)
  have home_after := home_apply_of_threads threads_eq execution.home
  refine coherent.act execution.home fits
    (fun other different => agreesOn_replaced listed executions rfl views threads_eq different)
    (by simp [effect_eq]) (by simp [effect_eq, ThreadEvent.id]) ?_
  refine ⟨?_, ?_, ?_, ?_, ?_, ?_, ?_, ?_, ?_⟩
  · have load_eq := load_apply world localHost effect execution.home
    have same := carrying_replaced listed executions rfl views execution.home
    have nothing : effect.sent = [] := by rw [effect_eq]
    rw [home_after, ← traced.load]
    simp only [nothing, List.countP_nil] at load_eq
    omega
  · intro message there about
    have old : message ∈ world.network := by simpa [ThreadWorld.apply, effect_eq] using there
    have acknowledgement := sole.network message old about
    refine (traced.network message old about).rehome (fun kept there => ?_)
      (fun request => absurd acknowledgement request) (nextTid_apply_of_threads threads_eq _).ge
    rw [about, home_after] at there
    exact ⟨kept, by rw [about, there], rfl, fun past => past⟩
  · intro host each there about
    rw [home_after, history_eq]
    by_cases here : host = localHost
    · subst here
      rw [apply_hosts_self] at there
      obtain rfl | rest := eq_or_mem_replaced listed executions there
      · refine ⟨(traced.serving host execution member rfl).1, fun report reported => ?_⟩
        obtain rfl := Option.some.inj reported
        exact ⟨rfl, epoch⟩
      · exact absurd about (sole.alone listed each rest)
    · rw [apply_hosts_of_ne here] at there
      exact absurd about (sole.elsewhere here there)
  · intro host now
    rw [home_after]
    exact traced.settingUp host ((apply_pollers views host).1 ▸ now)
  · intro host completion now
    exact absurd ((apply_pollers views host).2.1 ▸ now) (sole.unfound member host completion)
  · intro host completion now
    rw [(apply_pollers views host).2.2] at now
    obtain ⟨other, there, accepted, -⟩ := coherent.accepted_home now
    obtain rfl := Option.some.inj (present.symm.trans there)
    rw [stage] at accepted
    cases accepted
  · intro kept there
    rw [home_after, present] at there
    obtain rfl := Option.some.inj there
    obtain ⟨creation, zero⟩ := traced.epoch record present
    refine ⟨creation, fun _ => ?_⟩
    obtain zero | ⟨completion, found⟩ := zero stage
    · exact .inl zero
    · exact absurd found (sole.unfound member _ completion)
  · intro kept there settled
    rw [home_after, present] at there
    obtain rfl := Option.some.inj there
    rw [stage] at settled
    cases settled
  · intro marked
    have before : world.history.handled execution.home = true := by
      simpa [ThreadWorld.apply, effect_eq, ThreadHistory.note] using marked
    have settled := ((traced.handled before).2.1 record present).1
    rw [stage] at settled
    cases settled

theorem Coherent.accepts {tid : Nat} {completion : Completion} {entry : ThreadEntry cluster}
    (coherent : world.Coherent limits) (fits : effect.host.Fits (limits localHost) localHost)
    (handling : (world.hosts localHost).handling = .found ⟨localHost, tid⟩ completion)
    (present : (world.hosts localHost).threads.records tid = some entry)
    (stage : entry.stage = .dispatched)
    (effect_eq : effect = ThreadHost.quietly
      { (world.hosts localHost).putThread tid (entry.goto .accepted) with
        localPending := (world.hosts localHost).localPending - 1
        handling := .accepted ⟨localHost, tid⟩ completion }) :
    (world.apply localHost effect).Coherent limits := by
  have traced := coherent.traced ⟨localHost, tid⟩
  have home_before : world.home ⟨localHost, tid⟩ = some entry := present
  have threads_eq : effect.host.threads =
      (world.hosts localHost).threads.put tid (some (entry.goto .accepted)) := by
    rw [effect_eq]
    rfl
  have home_after : (world.apply localHost effect).home ⟨localHost, tid⟩ =
      some (entry.goto .accepted) := by
    rw [apply_home_self, threads_eq, ThreadHost.put_records, if_pos rfl]
  have found : (world.hosts localHost).finding = some (⟨localHost, tid⟩, completion) := by
    simp [ThreadHost.finding, handling]
  have polls : (world.hosts localHost).settingUp = none ∧
      (world.hosts localHost).accepting = none := by
    simp [ThreadHost.settingUp, ThreadHost.accepting, handling]
  have carrying_eq : ∀ other, effect.host.carrying other +
      (decide ((⟨localHost, tid⟩ : GlobalThreadId cluster) = other)).toNat =
        (world.hosts localHost).carrying other := by
    intro other
    simp [ThreadHost.carrying, effect_eq, ThreadHost.settingUp, ThreadHost.finding, handling]
  obtain ⟨sole, -⟩ := traced.sole_carrier (carrying_of_finding found)
  refine coherent.act ⟨localHost, tid⟩ fits (fun other different => ?_) (by simp [effect_eq])
    (by simp [effect_eq]) ?_
  · refine ⟨ThreadHost.records_of_ne threads_eq different, by rw [threads_eq]; rfl, ?_, ?_, ?_, ?_,
      ?_⟩
    · have same := carrying_eq other
      simpa [Ne.symm different] using same
    · rw [effect_eq]
      exact fun _ member _ => member
    · simp [effect_eq, ThreadHost.settingUp]
    · simp [effect_eq, ThreadHost.finding, handling, Ne.symm different]
    · simp [effect_eq, ThreadHost.accepting, Ne.symm different]
  · have history_eq : (world.apply localHost effect).history = world.history := by
      rw [effect_eq]
      rfl
    refine traced_of_load_zero ?_ ?_ ?_ ?_ ?_ ?_ ?_
    · have load_eq := load_apply world localHost effect ⟨localHost, tid⟩
      have less := carrying_eq ⟨localHost, tid⟩
      have nothing : effect.sent = [] := by rw [effect_eq]; rfl
      have bound := (traced.dispatched ((carrying_of_finding found).trans_le
        ((Nat.le_add_left _ _).trans (world.carrying_le_load localHost _)))).1
      simp only [nothing, List.countP_nil, decide_true, Bool.toNat_true] at load_eq less
      omega
    · intro kept there
      rw [home_after] at there
      obtain rfl := Option.some.inj there
      simp
    · intro message there about acknowledgement
      have old : message ∈ world.network := by simpa [ThreadWorld.apply, effect_eq] using there
      refine (traced.network message old about).rehome (fun kept there => ?_)
        (fun request => absurd acknowledgement request) ?_
      · rw [about, home_after] at there
        obtain rfl := Option.some.inj there
        exact ⟨entry, by rw [about, home_before], rfl, fun _ => rfl⟩
      · rw [about]
        simp [threads_eq, ThreadManager.put]
    · intro host other accepted
      rw [history_eq]
      by_cases here : host = localHost
      · subst here
        rw [apply_hosts_self] at accepted
        obtain rfl : completion = other := by
          simpa [effect_eq, ThreadHost.accepting] using accepted
        exact traced.finding host completion found
      · rw [apply_hosts_of_ne here] at accepted
        obtain ⟨record, there, stage', -⟩ := coherent.accepted_home accepted
        obtain rfl := Option.some.inj (home_before.symm.trans there)
        rw [stage] at stage'
        cases stage'
    · intro kept there
      rw [home_after] at there
      obtain rfl := Option.some.inj there
      simp
    · intro kept there settled
      rw [home_after] at there
      obtain rfl := Option.some.inj there
      cases settled
    · intro marked
      rw [history_eq] at marked
      have settled := ((traced.handled marked).2.1 entry home_before).1
      rw [stage] at settled
      cases settled

theorem Coherent.settles {tid : Nat} {completion : Completion} {entry : ThreadEntry cluster}
    {replacement : Option (ThreadEntry cluster)} (coherent : world.Coherent limits)
    (fits : effect.host.Fits (limits localHost) localHost)
    (handling : (world.hosts localHost).handling = .accepted ⟨localHost, tid⟩ completion)
    (present : (world.hosts localHost).threads.records tid = some entry)
    (stage : entry.stage = .accepted)
    (completes : replacement = none ∨ replacement = some
      { entry with
        record := { entry.record with state := .completed, completion := completion }
        stage := .settled })
    (effect_eq : effect =
      ⟨{ (world.hosts localHost).putThread tid replacement with handling := .idle }, [],
        ThreadHost.departure localHost tid .detached replacement ++
          [.handled ⟨localHost, tid⟩]⟩) :
    (world.apply localHost effect).Coherent limits := by
  have traced := coherent.traced ⟨localHost, tid⟩
  have home_before : world.home ⟨localHost, tid⟩ = some entry := present
  have away : entry.record.executionHost ≠ localHost :=
    ((coherent.fits localHost).entry present).away (by simp [stage])
  have threads_eq : effect.host.threads =
      (world.hosts localHost).threads.put tid replacement := by rw [effect_eq]; rfl
  have home_after : (world.apply localHost effect).home ⟨localHost, tid⟩ = replacement := by
    rw [apply_home_self, threads_eq, ThreadHost.put_records, if_pos rfl]
  have accepted : (world.hosts localHost).accepting = some (⟨localHost, tid⟩, completion) := by
    simp [ThreadHost.accepting, handling]
  have carrying_eq : ∀ other, effect.host.carrying other =
      (world.hosts localHost).carrying other := by
    intro other
    simp [ThreadHost.carrying, effect_eq, ThreadHost.settingUp, ThreadHost.finding, handling]
  have recorded := traced.accepting localHost completion accepted
  have recorded_eq : (world.apply localHost effect).history.recorded = world.history.recorded := by
    obtain rfl | rfl := completes <;>
      simp [ThreadWorld.apply, effect_eq, ThreadHost.departure, ThreadHistory.note]
  refine coherent.act ⟨localHost, tid⟩ fits (fun other different => ?_) (by simp [effect_eq]) ?_ ?_
  · refine ⟨ThreadHost.records_of_ne threads_eq different, by rw [threads_eq]; rfl,
      carrying_eq other, ?_, ?_, ?_, ?_⟩
    · rw [effect_eq]
      exact fun _ member _ => member
    · simp [effect_eq, ThreadHost.settingUp]
    · simp [effect_eq, ThreadHost.finding, handling]
    · simp [effect_eq, ThreadHost.accepting]
  · obtain rfl | rfl := completes <;>
      simp [effect_eq, ThreadHost.departure, ThreadEvent.id]
  · refine traced_of_load_zero ?_ ?_ ?_ ?_ ?_ ?_ ?_
    · have load_eq := load_apply world localHost effect ⟨localHost, tid⟩
      have same := carrying_eq ⟨localHost, tid⟩
      have zero := traced.load_eq_zero (by simp [home_before, stage])
      have nothing : effect.sent = [] := by rw [effect_eq]
      simp only [nothing, List.countP_nil] at load_eq
      omega
    · intro kept there
      rw [home_after] at there
      obtain rfl | rfl := completes
      · cases there
      · obtain rfl := Option.some.inj there
        simp
    · intro message there about acknowledgement
      have old : message ∈ world.network := by simpa [ThreadWorld.apply, effect_eq] using there
      refine (traced.network message old about).rehome (fun kept there => ?_)
        (fun request => absurd acknowledgement request) ?_
      · rw [about, home_after] at there
        obtain rfl | rfl := completes
        · cases there
        · obtain rfl := Option.some.inj there
          exact ⟨entry, by rw [about, home_before], rfl, fun _ => rfl⟩
      · rw [about]
        simp [threads_eq, ThreadManager.put]
    · intro host other accepted_after
      rw [recorded_eq]
      by_cases here : host = localHost
      · subst here
        rw [apply_hosts_self] at accepted_after
        simp [effect_eq, ThreadHost.accepting] at accepted_after
      · rw [apply_hosts_of_ne here] at accepted_after
        exact traced.accepting host other accepted_after
    · intro kept there
      rw [home_after] at there
      obtain rfl | rfl := completes
      · cases there
      · obtain rfl := Option.some.inj there
        simp
    · intro kept there _ _
      rw [home_after] at there
      rw [recorded_eq]
      obtain rfl | rfl := completes
      · cases there
      · obtain rfl := Option.some.inj there
        exact recorded
    · intro _
      refine ⟨?_, fun kept there => ?_, fun gone => ?_⟩
      · have allocated := (coherent.fits localHost).entries.tid_lt present
        simpa [threads_eq, ThreadManager.put] using allocated
      · rw [home_after] at there
        obtain rfl | rfl := completes
        · cases there
        · obtain rfl := Option.some.inj there
          exact ⟨rfl, away⟩
      · rw [home_after] at gone
        left
        simp [ThreadWorld.apply, effect_eq, gone, ThreadHost.departure, ThreadHistory.note]

/-- A home record is marked for migration, unless its completion could be missed. -/
theorem Coherent.migrates {entry : ThreadEntry cluster} {targetHost : cluster.Host}
    (coherent : world.Coherent limits)
    (present : (world.hosts localHost).threads.find localHost id = some entry)
    (running : entry.record.state = .running)
    (harmless : entry.stage = .dispatched →
      ∃ completion, (world.hosts localHost).finding = some (id, completion))
    (effect_eq : effect = ((world.hosts localHost).putThread id.localTid
      (ThreadHost.migrated entry targetHost)).quietly) :
    (world.apply localHost effect).Coherent limits := by
  obtain ⟨id_eq, recorded⟩ := ThreadHost.find_some present
  have here : id.homeHost = localHost := by rw [id_eq]
  have fits : effect.host.Fits (limits localHost) localHost := by
    rw [effect_eq]
    exact (coherent.fits localHost).migrated present
  have traced := coherent.traced id
  have home_before : world.home id = some entry := by rw [home, here, recorded]
  have threads_eq : effect.host.threads = (world.hosts localHost).threads.put id.localTid
      (some (ThreadHost.migrated entry targetHost)) := by
    rw [effect_eq]
    rfl
  have home_after : (world.apply localHost effect).home id =
      some (ThreadHost.migrated entry targetHost) := by
    rw [home, here, apply_hosts_self, threads_eq, ThreadHost.put_records, if_pos rfl]
  have views : SameViews world (world.apply localHost effect) := by
    rw [effect_eq]
    exact sameViews_apply rfl ⟨rfl, rfl, rfl⟩
  have history_eq : (world.apply localHost effect).history = world.history := by
    rw [effect_eq]
    rfl
  have nextTid_eq : ((world.apply localHost effect).hosts id.homeHost).threads.nextTid =
      (world.hosts id.homeHost).threads.nextTid := by
    rw [here, apply_hosts_self, threads_eq]
    rfl
  refine coherent.act id fits (fun other different => ?_) (by simp [effect_eq])
    (by simp [effect_eq]) ?_
  · rw [effect_eq]
    exact ThreadHost.agreesOn_of_view (ThreadHost.records_of_ne rfl (id_eq ▸ different)) le_rfl rfl
      rfl rfl rfl
  · refine traced.rehome views ?_ ?_ (by rw [history_eq]) nextTid_eq.ge ?_ ?_ ?_ ?_ ?_
    · have load_eq := load_apply world localHost effect id
      have carrying_eq : effect.host.carrying id = (world.hosts localHost).carrying id := by
        rw [effect_eq]
        rfl
      have nothing : effect.sent = [] := by rw [effect_eq]; rfl
      simp only [nothing, List.countP_nil, carrying_eq] at load_eq
      omega
    · rw [effect_eq]
      simp only [ThreadWorld.apply, ThreadHost.quietly, List.append_nil]
      exact fun _ member _ => member
    · rw [home_after, home_before]
      rfl
    · intro kept there
      rw [home_after] at there
      obtain rfl := Option.some.inj there
      exact ⟨entry, home_before, rfl, fun past => past⟩
    · intro kept there
      rw [home_after] at there
      obtain rfl := Option.some.inj there
      refine ⟨fun creation => ?_, fun dispatched => .inr ?_⟩
      · have allowed := ((coherent.fits localHost).entry recorded).state
        revert allowed creation
        rw [running]
        simp only [ThreadHost.migrated]
        cases entry.stage <;> simp
      · rw [here]
        exact harmless dispatched
    · intro kept there settled away
      rw [home_after] at there
      obtain rfl := Option.some.inj there
      exact traced.settled entry home_before settled away
    · intro marked
      rw [history_eq] at marked ⊢
      obtain ⟨allocated, settled, -⟩ := traced.handled marked
      refine ⟨allocated.trans_le nextTid_eq.ge, fun kept there => ?_, fun gone => ?_⟩
      · rw [home_after] at there
        obtain rfl := Option.some.inj there
        exact settled entry home_before
      · rw [home_after] at gone
        cases gone

section Deliver

variable {position : Nat} {message : ThreadMessage cluster}

/-- A carrier in flight is the only one. -/
theorem Traced.sole_message (traced : world.Traced message.id)
    (listed : world.network[position]? = some message) (request : message.body ≠ .createAck) :
    (∀ other ∈ world.network.eraseIdx position, other.id = message.id →
        other.body = .createAck) ∧
      (∀ host, (world.hosts host).carrying message.id = 0) ∧
      (world.network.eraseIdx position).countP (ThreadMessage.carries message.id) + 1 =
        world.network.countP (ThreadMessage.carries message.id) ∧
      ∃ entry, world.home message.id = some entry ∧ entry.stage = .dispatched := by
  have carries : message.carries message.id = true := by simp [ThreadMessage.carries, request]
  have taken := Census.countP_eraseIdx (ThreadMessage.carries message.id) listed
  rw [carries, Bool.toNat_true] at taken
  have bound := fun host => world.carrying_le_load host message.id
  have total : world.network.countP (ThreadMessage.carries message.id) ≤ world.load message.id :=
    Nat.le_add_right _ _
  obtain ⟨load_one, dispatched⟩ := traced.dispatched (by omega)
  refine ⟨fun other rest about => ?_, fun host => ?_, taken, dispatched⟩
  · by_contra other_request
    have more : 0 < (world.network.eraseIdx position).countP
        (ThreadMessage.carries message.id) :=
      List.countP_pos_iff.mpr ⟨other, rest, by simp [ThreadMessage.carries, about, other_request]⟩
    omega
  · have one := bound host
    omega

theorem sameFor_deliver {other : GlobalThreadId cluster}
    (listed : world.network[position]? = some message)
    (agrees : (world.hosts localHost).AgreesOn localHost other effect.host)
    (sent : ∀ new ∈ effect.sent, new.id ≠ other)
    (events : ∀ event ∈ effect.events, event.id ≠ other)
    (uncarried : message.carries other = false) :
    SameFor other world (ThreadWorld.apply
      { world with network := world.network.eraseIdx position } localHost effect) := by
  refine sameFor_apply agrees sent events (fun each rest _ => List.mem_of_mem_eraseIdx rest) ?_
  have taken := Census.countP_eraseIdx (ThreadMessage.carries other) listed
  simpa [uncarried] using taken

/-- An acknowledgement concerns no carrier. -/
theorem Coherent.deliverAck {host : ThreadHost cluster} (coherent : world.Coherent limits)
    (listed : world.network[position]? = some message) (request : message.body = .createAck)
    (fits : host.Fits (limits localHost) localHost)
    (threads_eq : host.threads = (world.hosts localHost).threads)
    (remote_eq : host.remoteExecutions = (world.hosts localHost).remoteExecutions)
    (views : host.settingUp = (world.hosts localHost).settingUp ∧
      host.finding = (world.hosts localHost).finding ∧
      host.accepting = (world.hosts localHost).accepting) :
    (ThreadWorld.apply { world with network := world.network.eraseIdx position } localHost
      host.quietly).Coherent limits := by
  refine coherent.applyView fits fun other => ?_
  exact sameFor_deliver listed (ThreadHost.agreesOn_of_same other threads_eq remote_eq views)
    (by simp) (by simp) (by simp [ThreadMessage.carries, request])

theorem Coherent.admitted {function : UInt64} {arguments : List UInt8} {clusterFunction : Bool}
    (coherent : world.Coherent limits) (fits : effect.host.Fits (limits localHost) localHost)
    (listed : world.network[position]? = some message) (target : message.target = localHost)
    (idle : (world.hosts localHost).handling = .idle)
    (request : message.body = .createReq function arguments clusterFunction)
    (threads_eq : effect.host.threads = (world.hosts localHost).threads)
    (remote_eq : effect.host.remoteExecutions = (world.hosts localHost).remoteExecutions)
    (handling : effect.host.handling = .launching message.id
      (world.hosts localHost).executions.nextTid)
    (silent : effect.sent = [] ∧ effect.events = []) :
    (ThreadWorld.apply { world with network := world.network.eraseIdx position } localHost
      effect).Coherent limits := by
  have traced := coherent.traced message.id
  have delivers := traced.network message (List.mem_of_getElem? listed) rfl
  simp only [Delivers, request] at delivers
  obtain ⟨-, -, taken, -⟩ := traced.sole_message listed (by simp [request])
  have carrying_eq : ∀ other, effect.host.carrying other =
      (world.hosts localHost).carrying other + (decide (message.id = other)).toNat := by
    intro other
    simp [ThreadHost.carrying, remote_eq, ThreadHost.settingUp, ThreadHost.finding, handling, idle]
  refine coherent.apply message.id fits (fun other different => ?_) ?_
  · refine sameFor_deliver listed ⟨fun _ => by rw [threads_eq], by rw [threads_eq], ?_, ?_, ?_, ?_,
      ?_⟩ (by simp [silent]) (by simp [silent]) (by simp [ThreadMessage.carries, Ne.symm different])
    · simp [carrying_eq, Ne.symm different]
    · rw [remote_eq]
      exact fun _ member _ => member
    · simp [ThreadHost.settingUp, handling, Ne.symm different]
    · simp [ThreadHost.finding, handling, idle]
    · simp [ThreadHost.accepting, handling]
  · refine traced.carry threads_eq silent.2 ?_ (fun _ => List.mem_of_mem_eraseIdx)
      (by simp [silent])
      (by rw [remote_eq]; exact fun _ listed _ => .inl listed) (fun _ => .inr (target ▸ delivers.2))
      (by simp [ThreadHost.finding, handling]) (by simp [ThreadHost.finding, idle])
      (by simp [ThreadHost.accepting, handling])
    have more := carrying_eq message.id
    simp only [silent.1, List.countP_nil, decide_true, Bool.toNat_true] at more ⊢
    omega

theorem Coherent.finds {completion : Completion} {migrationEpoch : Nat}
    (coherent : world.Coherent limits) (fits : effect.host.Fits (limits localHost) localHost)
    (listed : world.network[position]? = some message)
    (idle : (world.hosts localHost).handling = .idle)
    (request : message.body = .completeNotify completion migrationEpoch)
    (effect_eq : effect = ThreadHost.quietly
      { world.hosts localHost with handling := .found message.id completion }) :
    (ThreadWorld.apply { world with network := world.network.eraseIdx position } localHost
      effect).Coherent limits := by
  have traced := coherent.traced message.id
  have delivers := traced.network message (List.mem_of_getElem? listed) rfl
  simp only [Delivers, request] at delivers
  obtain ⟨-, -, taken, -⟩ := traced.sole_message listed (by simp [request])
  have threads_eq : effect.host.threads = (world.hosts localHost).threads := by
    rw [effect_eq]
    rfl
  have carrying_eq : ∀ other, effect.host.carrying other =
      (world.hosts localHost).carrying other + (decide (message.id = other)).toNat := by
    intro other
    simp [ThreadHost.carrying, effect_eq, ThreadHost.settingUp, ThreadHost.finding, idle]
  refine coherent.apply message.id fits (fun other different => ?_) ?_
  · refine sameFor_deliver listed ⟨fun _ => by rw [threads_eq], by rw [threads_eq], ?_, ?_, ?_, ?_,
      ?_⟩ (by simp [effect_eq]) (by simp [effect_eq])
      (by simp [ThreadMessage.carries, Ne.symm different])
    · simp [carrying_eq, Ne.symm different]
    · rw [effect_eq]
      exact fun _ member _ => member
    · simp [effect_eq, ThreadHost.settingUp]
    · simp [effect_eq, ThreadHost.finding, idle, Ne.symm different]
    · simp [effect_eq, ThreadHost.accepting]
  · refine traced.carry threads_eq (by simp [effect_eq]) ?_ (fun _ => List.mem_of_mem_eraseIdx)
      (by simp [effect_eq]) (by rw [effect_eq]; exact fun _ listed _ => .inl listed)
      (by simp [effect_eq, ThreadHost.settingUp]) (fun other now => .inr ?_)
      (by simp [ThreadHost.finding, idle]) (by simp [effect_eq, ThreadHost.accepting])
    · have more := carrying_eq message.id
      have nothing : effect.sent = [] := by rw [effect_eq]; rfl
      simp only [nothing, List.countP_nil, decide_true, Bool.toNat_true] at more ⊢
      omega
    · obtain rfl : completion = other := by simpa [effect_eq, ThreadHost.finding] using now
      exact delivers.2.2.1

theorem Coherent.declined {function : UInt64} {arguments : List UInt8} {clusterFunction : Bool}
    {exitCode : Int} (coherent : world.Coherent limits)
    (listed : world.network[position]? = some message) (target : message.target = localHost)
    (request : message.body = .createReq function arguments clusterFunction) :
    (ThreadWorld.apply { world with network := world.network.eraseIdx position } localHost
      ((world.hosts localHost).decline localHost message.id exitCode)).Coherent limits := by
  set effect := (world.hosts localHost).decline localHost message.id exitCode with effect_eq
  have traced := coherent.traced message.id
  have delivers := traced.network message (List.mem_of_getElem? listed) rfl
  simp only [Delivers, request] at delivers
  obtain ⟨rest_acks, places, taken, entry, present, stage⟩ :=
    traced.sole_message listed (by simp [request])
  set after := ThreadWorld.apply { world with network := world.network.eraseIdx position } localHost
    effect with after_eq
  have hosts_eq : ∀ host, after.hosts host = world.hosts host := by
    intro host
    by_cases here : host = localHost
    · subst here
      exact apply_hosts_self
    · exact apply_hosts_of_ne here
  have home_after : after.home message.id = some entry := by
    rw [home, hosts_eq]
    exact present
  have uncarried : ∀ host, ¬0 < (after.hosts host).carrying message.id := by
    intro host
    rw [hosts_eq, places host]
    exact lt_irrefl 0
  have recorded_eq : after.history.recorded message.id = some ⟨exitCode, 0⟩ := by
    simp [after_eq, effect_eq, ThreadWorld.apply, ThreadHost.decline, ThreadHistory.note]
  refine coherent.apply message.id (coherent.fits localHost) (fun other different => ?_) ?_
  · exact sameFor_deliver listed (ThreadHost.agreesOn_of_same other rfl rfl ⟨rfl, rfl, rfl⟩)
      (by simp [effect_eq, ThreadHost.decline, Ne.symm different])
      (by simp [effect_eq, ThreadHost.decline, ThreadEvent.id, Ne.symm different])
      (by simp [ThreadMessage.carries, Ne.symm different])
  · refine ⟨?_, ?_, ?_, ?_, ?_, ?_, ?_, ?_, ?_⟩
    · have load_eq := load_apply { world with network := world.network.eraseIdx position } localHost
        effect message.id
      have sent_one : effect.sent.countP (ThreadMessage.carries message.id) = 1 := by
        simp [effect_eq, ThreadHost.decline, ThreadMessage.carries]
      have host_eq : effect.host = world.hosts localHost := rfl
      rw [home_after, ← present, ← traced.load]
      simp only [load, sent_one, host_eq] at load_eq ⊢
      omega
    · intro other there about
      obtain old | new := List.mem_append.mp there
      · have acknowledgement := rest_acks other old about
        refine (traced.network other (List.mem_of_mem_eraseIdx old) about).rehome
          (fun kept there => ?_) (fun carries => absurd acknowledgement carries) (by rw [hosts_eq])
        rw [about, home_after] at there
        obtain rfl := Option.some.inj there
        exact ⟨entry, by rw [about, present], rfl, fun past => past⟩
      · obtain rfl : other = _ := by simpa [effect_eq, ThreadHost.decline] using new
        refine ⟨rfl, rfl, recorded_eq, fun kept there => ?_⟩
        obtain rfl := Option.some.inj (home_after.symm.trans there)
        exact (delivers.2 entry present).trans target
    · intro host execution there about
      exact absurd (about ▸ carrying_of_serving there) (uncarried host)
    · intro host busy
      exact absurd (carrying_of_settingUp busy) (uncarried host)
    · intro host completion found
      exact absurd (carrying_of_finding found) (uncarried host)
    · intro host completion accepted
      rw [hosts_eq] at accepted
      obtain ⟨record, there, accepted_stage, -⟩ := coherent.accepted_home accepted
      obtain rfl := Option.some.inj (present.symm.trans there)
      rw [stage] at accepted_stage
      cases accepted_stage
    · intro kept there
      obtain rfl := Option.some.inj (home_after.symm.trans there)
      obtain ⟨creation, zero⟩ := traced.epoch entry present
      refine ⟨creation, fun _ => ?_⟩
      rw [hosts_eq]
      exact zero stage
    · intro kept there settled
      obtain rfl := Option.some.inj (home_after.symm.trans there)
      rw [stage] at settled
      cases settled
    · intro marked
      have before : world.history.handled message.id = true := by
        simpa [after_eq, effect_eq, ThreadWorld.apply, ThreadHost.decline, ThreadHistory.note]
          using marked
      have settled := ((traced.handled before).2.1 entry present).1
      rw [stage] at settled
      cases settled

/-- Every delivery keeps the cluster coherent. -/
theorem Coherent.deliver {resolved : Bool} (coherent : world.Coherent limits)
    (performed : world.next limits (.deliver position resolved) = some after) :
    after.Coherent limits := by
  obtain ⟨message, listed, performed⟩ := Option.bind_eq_some_iff.mp performed
  obtain ⟨effect, received, rfl⟩ := Option.map_eq_some_iff.mp performed
  obtain ⟨idle, arrival⟩ := ThreadHost.receive_cases received
  have traced := coherent.traced message.id
  have delivers := traced.network message (List.mem_of_getElem? listed) rfl
  have fits : effect.host.Fits (limits message.target) message.target := by
    refine arrival.fits (coherent.fits _) (fun request entry there => ?_)
      (fun completion migrationEpoch request entry there => ?_)
    · simp only [Delivers, request] at delivers
      obtain ⟨id_eq, recorded⟩ := ThreadHost.find_some there
      exact delivers.2.2 entry (by rw [home, ← delivers.1, recorded])
    · simp only [Delivers, request] at delivers
      obtain ⟨-, -, -, record, present, stage⟩ := traced.sole_message listed (by simp [request])
      obtain ⟨id_eq, recorded⟩ := ThreadHost.find_some there
      have same : world.home message.id = some entry := by rw [home, ← delivers.1, recorded]
      obtain rfl := Option.some.inj (present.symm.trans same)
      exact stage
  cases arrival with
  | duplicate request known =>
      simp only [Delivers, request] at delivers
      obtain ⟨-, places, -⟩ := traced.sole_message listed (by simp [request])
      obtain foreign | ⟨existing, there, about⟩ := known
      · exact absurd delivers.1.symm foreign
      · have carried := carrying_of_serving there
        rw [about, places] at carried
        exact absurd carried (lt_irrefl 0)
  | declined request => exact coherent.declined listed rfl request
  | admitted request room =>
      exact coherent.admitted fits listed rfl idle request rfl rfl rfl ⟨rfl, rfl⟩
  | ignored request =>
      exact coherent.deliverAck listed request (coherent.fits _) rfl rfl ⟨rfl, rfl, rfl⟩
  | acknowledges request present =>
      refine coherent.deliverAck listed request fits rfl rfl ?_
      simp [ThreadHost.settingUp, ThreadHost.finding, ThreadHost.accepting, idle]
  | missed request mismatch =>
      simp only [Delivers, request] at delivers
      obtain ⟨-, places, -, record, present, stage⟩ :=
        traced.sole_message listed (by simp [request])
      obtain ⟨target, epoch, recorded, place⟩ := delivers
      have there : (world.hosts message.target).threads.find message.target message.id =
          some record := by
        rw [ThreadManager.find, if_pos target.symm, target]
        exact present
      obtain foreign | stale | completed := mismatch record there
      · exact absurd (place record present) foreign
      · obtain zero | ⟨completion, found⟩ := (traced.epoch record present).2 stage
        · exact absurd (zero.trans epoch.symm) stale
        · have carried := carrying_of_finding found
          rw [places] at carried
          exact absurd carried (lt_irrefl 0)
      · have underWay := ((coherent.fits _).entry (ThreadHost.find_some there).2).underWay
          (.inl stage)
        rw [completed] at underWay
        simp at underWay
  | finds request present => exact coherent.finds fits listed idle request rfl

end Deliver

end ThreadWorld
end Cxloom.LoomPar
