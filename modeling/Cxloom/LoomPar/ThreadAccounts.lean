import Cxloom.Census
import Cxloom.LoomPar.ThreadRuntime

/-!
# The accounts of one host

The two counters of a host count entries by their stage.  The stage of a home entry also fixes the
state of its record, the place of its execution and whether `LaunchThread` still works on it.  An
action of the host keeps all of this; the only thing it has to be told is that a completion belongs
to a dispatched record.
-/

namespace Cxloom.LoomPar

namespace ThreadStage

/-- Stages at which an execution holds running capacity. -/
def holdsCapacity : ThreadStage → Bool
  | .active | .finished => true
  | _ => false

/-- Stages at which `LaunchThread` itself holds running capacity. -/
def reserves : ThreadStage → Bool
  | .reserved | .failed => true
  | _ => false

/-- Stages at which a remote creation is counted as pending. -/
def awaitsCompletion : ThreadStage → Bool
  | .counted | .dispatched => true
  | _ => false

/-- Stages inside `LaunchThread`. -/
def inCreation : ThreadStage → Bool
  | .created | .reserved | .failed | .refused | .admitted | .counted => true
  | _ => false

/-- Stages of a record whose request has been enqueued. -/
def pastDispatch : ThreadStage → Bool
  | .dispatched | .accepted | .settled => true
  | _ => false

/-- Stages whose execution is on the home host. -/
def isLocal : ThreadStage → Bool
  | .reserved | .active | .finished | .released | .failed => true
  | _ => false

/-- Stages whose execution is on another host. -/
def isRemote : ThreadStage → Bool
  | .admitted | .counted | .dispatched | .accepted => true
  | _ => false

def allows : ThreadStage → ThreadState → Bool
  | .created, .launching | .reserved, .launching | .admitted, .launching | .counted, .launching =>
      true
  | .active, .running | .finished, .running | .released, .running => true
  | .failed, .completed | .refused, .completed | .disowned, .completed => true
  | .settled, .completed => true
  | .dispatched, .launching | .dispatched, .running => true
  | .accepted, .launching | .accepted, .running => true
  | _, _ => false

attribute [simp] holdsCapacity.eq_1 holdsCapacity.eq_2 holdsCapacity.eq_3
attribute [simp] reserves.eq_1 reserves.eq_2 reserves.eq_3
attribute [simp] awaitsCompletion.eq_1 awaitsCompletion.eq_2 awaitsCompletion.eq_3
attribute [simp] inCreation.eq_1 inCreation.eq_2 inCreation.eq_3 inCreation.eq_4 inCreation.eq_5
  inCreation.eq_6 inCreation.eq_7
attribute [simp] pastDispatch.eq_1 pastDispatch.eq_2 pastDispatch.eq_3 pastDispatch.eq_4
attribute [simp] isLocal.eq_1 isLocal.eq_2 isLocal.eq_3 isLocal.eq_4 isLocal.eq_5 isLocal.eq_6
attribute [simp] isRemote.eq_1 isRemote.eq_2 isRemote.eq_3 isRemote.eq_4 isRemote.eq_5
attribute [simp] allows.eq_1 allows.eq_2 allows.eq_3 allows.eq_4 allows.eq_5 allows.eq_6
  allows.eq_7 allows.eq_8 allows.eq_9 allows.eq_10 allows.eq_11 allows.eq_12 allows.eq_13
  allows.eq_14 allows.eq_15 allows.eq_16

theorem idle_of_inCreation {stage : ThreadStage} (creation : stage.inCreation = true) :
    stage.holdsCapacity = false := by
  revert creation
  cases stage <;> simp

theorem reserves_of_not_inCreation {stage : ThreadStage} (creation : stage.inCreation = false) :
    stage.reserves = false := by
  revert creation
  cases stage <;> simp

end ThreadStage

/-- The call that works on an entry. -/
def LaunchCall.on (creating : Option LaunchCall) (tid : Nat) : Option LaunchCall :=
  creating.filter fun call => call.tid = tid

namespace LaunchCall

@[simp] theorem on_none (tid : Nat) : on none tid = none := rfl

@[simp] theorem on_self (call : LaunchCall) : on (some call) call.tid = some call := by simp [on]

theorem on_some_of_ne {call : LaunchCall} {tid : Nat} (different : call.tid ≠ tid) :
    on (some call) tid = none := by simp [on, different]

theorem on_isSome {creating : Option LaunchCall} {tid : Nat} (busy : (on creating tid).isSome) :
    ∃ call, creating = some call ∧ call.tid = tid := by
  obtain ⟨call, working⟩ := Option.isSome_iff_exists.mp busy
  obtain ⟨calling, same⟩ := Option.filter_eq_some_iff.mp working
  exact ⟨call, calling, of_decide_eq_true same⟩

end LaunchCall

variable {cluster : Cluster}

/-- What the stage of a home entry says. -/
structure ThreadEntry.Fits (localHost : cluster.Host) (creating : Option LaunchCall) (tid : Nat)
    (entry : ThreadEntry cluster) : Prop where
  state : entry.stage.allows entry.record.state = true
  here : entry.stage.isLocal = true → entry.record.executionHost = localHost
  away : entry.stage.isRemote = true → entry.record.executionHost ≠ localHost
  /-- Whether `LaunchThread` works on it. -/
  creation : entry.stage.inCreation = (LaunchCall.on creating tid).isSome
  /-- Whether `LaunchThread` holds capacity for it. -/
  holding : entry.stage.reserves = (LaunchCall.on creating tid).any (·.holding)
  /-- `Detach` waits for `LaunchThread`. -/
  attached : entry.stage.inCreation = true → entry.detached = false

namespace ThreadEntry.Fits

variable {localHost : cluster.Host} {creating : Option LaunchCall} {tid : Nat}
  {entry : ThreadEntry cluster}

theorem launching (fits : entry.Fits localHost creating tid)
    (stage : entry.stage = .created ∨ entry.stage = .reserved ∨ entry.stage = .admitted ∨
      entry.stage = .counted) : entry.record.state = .launching := by
  have allowed := fits.state
  revert allowed
  obtain stage | stage | stage | stage := stage <;>
    cases entry.record.state <;> simp [stage]

theorem running (fits : entry.Fits localHost creating tid)
    (stage : entry.stage = .active ∨ entry.stage = .finished ∨ entry.stage = .released) :
    entry.record.state = .running := by
  have allowed := fits.state
  revert allowed
  obtain stage | stage | stage := stage <;> cases entry.record.state <;> simp [stage]

theorem completed (fits : entry.Fits localHost creating tid)
    (stage : entry.stage = .failed ∨ entry.stage = .refused ∨ entry.stage = .settled) :
    entry.record.state = .completed := by
  have allowed := fits.state
  revert allowed
  obtain stage | stage | stage := stage <;> cases entry.record.state <;> simp [stage]

theorem of_completed (fits : entry.Fits localHost creating tid)
    (completed : entry.record.state = .completed) :
    entry.stage = .failed ∨ entry.stage = .refused ∨ entry.stage = .disowned ∨
      entry.stage = .settled := by
  have allowed := fits.state
  rw [completed] at allowed
  revert allowed
  cases entry.stage <;> simp

theorem uncalled (fits : entry.Fits localHost creating tid)
    (outside : entry.stage.inCreation = false) : LaunchCall.on creating tid = none := by
  rw [fits.creation] at outside
  simpa using outside

theorem underWay (fits : entry.Fits localHost creating tid)
    (stage : entry.stage = .dispatched ∨ entry.stage = .accepted) :
    entry.record.state = .launching ∨ entry.record.state = .running := by
  have allowed := fits.state
  revert allowed
  obtain stage | stage := stage <;> cases entry.record.state <;> simp [stage]

end ThreadEntry.Fits

namespace ThreadHost

/-- The execution for which `LaunchThread` holds running capacity. -/
@[simp] def inHand (host : ThreadHost cluster) : Nat := (host.creating.any (·.holding)).toNat

def admitted (host : ThreadHost cluster) : Nat :=
  Census.count (fun entry => entry.stage.holdsCapacity) host.threads.records host.threads.nextTid +
    Census.count (fun _ => true) host.executions.records host.executions.nextTid + host.inHand

/-- Remote creations whose completion is not yet accepted. -/
def outstanding (host : ThreadHost cluster) : Nat :=
  Census.count (fun entry => entry.stage.awaitsCompletion) host.threads.records
    host.threads.nextTid

/-- The counters are exact and within the limits. -/
structure Accounts (limits : ThreadLimits) (host : ThreadHost cluster) : Prop where
  /-- Reserved executions. -/
  running : host.localRunning = host.admitted
  pending : host.localPending = host.outstanding
  running_le : limits.maxRunningThreadsPerHost ≠ 0 →
    host.localRunning ≤ limits.maxRunningThreadsPerHost
  pending_le : limits.maxPendingCreatesPerHost ≠ 0 →
    host.localPending ≤ limits.maxPendingCreatesPerHost

/-- The entries of a host are as their stages say. -/
structure Entries (limits : ThreadLimits) (localHost : cluster.Host) (host : ThreadHost cluster) :
    Prop where
  /-- Unused numbers. -/
  threads_fresh : ∀ tid, host.threads.nextTid ≤ tid → host.threads.records tid = none
  executions_fresh : ∀ tid, host.executions.nextTid ≤ tid → host.executions.records tid = none
  threads : ∀ tid entry, host.threads.records tid = some entry →
    entry.Fits localHost host.creating tid
  executions : ∀ tid entry, host.executions.records tid = some entry →
    entry.detached = false ∧ entry.record.migrationEpoch = 0
  room : ∀ tid entry, host.threads.records tid = some entry → entry.stage = .admitted →
    limits.maxPendingCreatesPerHost ≠ 0 → host.localPending < limits.maxPendingCreatesPerHost

/-- What the poller has found stays there. -/
structure Poller (localHost : cluster.Host) (host : ThreadHost cluster) : Prop where
  found : ∀ id completion, host.handling = .found id completion →
    ∃ entry, host.threads.find localHost id = some entry ∧ entry.stage = .dispatched
  accepted : ∀ id completion, host.handling = .accepted id completion →
    ∃ entry, host.threads.find localHost id = some entry ∧ entry.stage = .accepted
  /-- An acknowledgement is about a dispatched record. -/
  acknowledged : ∀ id, host.handling = .acknowledged id →
    id.localTid < host.threads.nextTid ∧
      ∀ entry, host.threads.find localHost id = some entry → entry.stage.pastDispatch = true

/-- What the poller has found, if it is handling a completion. -/
def finding (host : ThreadHost cluster) : Option (GlobalThreadId cluster × Completion) :=
  match host.handling with
  | .found id completion => some (id, completion)
  | _ => none

/-- What the poller has accepted, if it is handling a completion. -/
def accepting (host : ThreadHost cluster) : Option (GlobalThreadId cluster × Completion) :=
  match host.handling with
  | .accepted id completion => some (id, completion)
  | _ => none

/-- The execution of another host's thread that the poller is setting up. -/
def settingUp (host : ThreadHost cluster) : Option (GlobalThreadId cluster) :=
  match host.handling with
  | .launching id _ => some id
  | .registering id _ _ => some id
  | _ => none

/-- What holds on every host. -/
structure Fits (limits : ThreadLimits) (localHost : cluster.Host) (host : ThreadHost cluster) :
    Prop where
  /-- The counters. -/
  accounts : host.Accounts limits
  entries : host.Entries limits localHost
  poller : host.Poller localHost

variable {limits : ThreadLimits} {localHost : cluster.Host} {host after : ThreadHost cluster}

theorem fits_initial (limits : ThreadLimits) (localHost : cluster.Host) :
    (initial cluster).Fits limits localHost where
  accounts := ⟨rfl, rfl, by simp [initial], by simp [initial]⟩
  entries :=
    { threads_fresh := fun _ _ => rfl
      executions_fresh := fun _ _ => rfl
      threads := by simp [initial, ThreadManager.initial]
      executions := by simp [initial, ThreadManager.initial]
      room := by simp [initial, ThreadManager.initial] }
  poller := ⟨by simp [initial], by simp [initial], by simp [initial]⟩

theorem Entries.tid_lt (entries : host.Entries limits localHost) {tid : Nat}
    {entry : ThreadEntry cluster} (present : host.threads.records tid = some entry) :
    tid < host.threads.nextTid := by
  by_contra outside
  rw [entries.threads_fresh tid (Nat.le_of_not_lt outside)] at present
  cases present

theorem Entries.execution_lt (entries : host.Entries limits localHost) {tid : Nat}
    {entry : ThreadEntry cluster} (present : host.executions.records tid = some entry) :
    tid < host.executions.nextTid := by
  by_contra outside
  rw [entries.executions_fresh tid (Nat.le_of_not_lt outside)] at present
  cases present

theorem find_eq (manager : ThreadManager cluster) (localHost : cluster.Host) (tid : Nat) :
    manager.find localHost ⟨localHost, tid⟩ = manager.records tid := if_pos rfl

theorem find_some {manager : ThreadManager cluster} {id : GlobalThreadId cluster}
    {entry : ThreadEntry cluster} (present : manager.find localHost id = some entry) :
    id = ⟨localHost, id.localTid⟩ ∧ manager.records id.localTid = some entry := by
  rw [ThreadManager.find] at present
  split at present
  case isTrue home => exact ⟨by rw [← home], present⟩
  case isFalse => cases present

theorem put_records (manager : ThreadManager cluster) (tid other : Nat)
    (entry : Option (ThreadEntry cluster)) :
    (manager.put tid entry).records other = if other = tid then entry else manager.records other :=
  Function.update_apply manager.records tid entry other

theorem put_records_some {manager : ThreadManager cluster} {tid other : Nat}
    {replacement : Option (ThreadEntry cluster)} {entry : ThreadEntry cluster}
    (present : (manager.put tid replacement).records other = some entry) :
    (other = tid ∧ replacement = some entry) ∨
      (other ≠ tid ∧ manager.records other = some entry) := by
  rw [put_records] at present
  split at present
  case isTrue same => exact .inl ⟨same, present⟩
  case isFalse different => exact .inr ⟨different, present⟩

/-- What a replacement has to keep for the poller: only the poller moves a record from the stages it
works on, and a dispatched record stays one. -/
def Keeps (entry : ThreadEntry cluster) (replacement : Option (ThreadEntry cluster)) : Prop :=
  (entry.stage = .dispatched ∨ entry.stage = .accepted →
      ∃ kept, replacement = some kept ∧ kept.stage = entry.stage) ∧
    (entry.stage.pastDispatch = true → ∀ kept, replacement = some kept →
      kept.stage.pastDispatch = true)

theorem Poller.replace {tid : Nat} {entry : ThreadEntry cluster}
    {replacement : Option (ThreadEntry cluster)} (poller : host.Poller localHost)
    (present : host.threads.records tid = some entry)
    (threads_eq : after.threads = host.threads.put tid replacement)
    (handling_eq : after.handling = host.handling) (keeps : Keeps entry replacement) :
    after.Poller localHost := by
  have stays : ∀ id stage, stage = .dispatched ∨ stage = .accepted →
      (∃ old, host.threads.find localHost id = some old ∧ old.stage = stage) →
        ∃ kept, after.threads.find localHost id = some kept ∧ kept.stage = stage := by
    rintro id stage which ⟨old, there, rfl⟩
    obtain ⟨id_eq, recorded⟩ := find_some there
    rw [threads_eq, id_eq, find_eq, put_records]
    split
    case isTrue same =>
      rw [same, present] at recorded
      obtain rfl := Option.some.inj recorded
      exact keeps.1 which
    case isFalse => exact ⟨old, recorded, rfl⟩
  refine ⟨fun id completion handling => ?_, fun id completion handling => ?_, fun id handling => ?_⟩
  · exact stays id .dispatched (.inl rfl)
      (poller.found id completion (handling_eq.symm.trans handling))
  · exact stays id .accepted (.inr rfl)
      (poller.accepted id completion (handling_eq.symm.trans handling))
  · obtain ⟨allocated, past⟩ := poller.acknowledged id (handling_eq.symm.trans handling)
    refine ⟨by rwa [threads_eq], fun kept there => ?_⟩
    obtain ⟨id_eq, recorded⟩ := find_some there
    rw [id_eq, find_eq] at past
    rw [threads_eq] at recorded
    obtain ⟨same, replaced⟩ | ⟨-, untouched⟩ := put_records_some recorded
    · exact keeps.2 (past entry (same ▸ present)) kept replaced
    · exact past kept untouched

theorem Entries.creation_unique (entries : host.Entries limits localHost) {first second : Nat}
    {one other : ThreadEntry cluster} (present_first : host.threads.records first = some one)
    (present_second : host.threads.records second = some other)
    (creation_first : one.stage.inCreation = true)
    (creation_second : other.stage.inCreation = true) : first = second := by
  rw [(entries.threads first one present_first).creation] at creation_first
  rw [(entries.threads second other present_second).creation] at creation_second
  obtain ⟨call, calling, rfl⟩ := LaunchCall.on_isSome creation_first
  obtain ⟨other, calling', rfl⟩ := LaunchCall.on_isSome creation_second
  obtain rfl := Option.some.inj (calling.symm.trans calling')
  rfl

/-- One home entry is replaced or removed. -/
theorem Fits.replace {tid : Nat} {entry : ThreadEntry cluster}
    {replacement : Option (ThreadEntry cluster)} (fits : host.Fits limits localHost)
    (present : host.threads.records tid = some entry)
    (threads_eq : after.threads = host.threads.put tid replacement)
    (executions_eq : after.executions = host.executions)
    (running_eq : after.localRunning + entry.stage.holdsCapacity.toNat + host.inHand =
      host.localRunning + Census.weight (fun kept => kept.stage.holdsCapacity) replacement +
        after.inHand)
    (pending_eq : after.localPending + entry.stage.awaitsCompletion.toNat =
      host.localPending + Census.weight (fun kept => kept.stage.awaitsCompletion) replacement)
    (running_le : limits.maxRunningThreadsPerHost ≠ 0 →
      after.localRunning ≤ limits.maxRunningThreadsPerHost)
    (pending_le : limits.maxPendingCreatesPerHost ≠ 0 →
      after.localPending ≤ limits.maxPendingCreatesPerHost)
    (others : ∀ other, other ≠ tid →
      LaunchCall.on after.creating other = LaunchCall.on host.creating other)
    (same : ∀ kept, replacement = some kept → kept.Fits localHost after.creating tid)
    (room : ∀ kept, replacement = some kept → kept.stage = .admitted →
      limits.maxPendingCreatesPerHost ≠ 0 →
        after.localPending < limits.maxPendingCreatesPerHost)
    (room_others : after.localPending ≤ host.localPending ∨ entry.stage.inCreation = true)
    (poller : after.Poller localHost) : after.Fits limits localHost := by
  obtain ⟨accounts, entries, -⟩ := fits
  have inside := entries.tid_lt present
  refine ⟨⟨?_, ?_, running_le, pending_le⟩, ⟨?_, ?_, ?_, ?_, ?_⟩, poller⟩
  · have exchanged := Census.count_update
      (fun kept : ThreadEntry cluster => kept.stage.holdsCapacity) host.threads.records inside
      replacement
    have before := accounts.running
    rw [present, Census.weight_some] at exchanged
    simp only [admitted, threads_eq, executions_eq, ThreadManager.put] at before ⊢
    omega
  · have exchanged := Census.count_update
      (fun kept : ThreadEntry cluster => kept.stage.awaitsCompletion) host.threads.records inside
      replacement
    have before := accounts.pending
    rw [present, Census.weight_some] at exchanged
    simp only [outstanding, threads_eq, ThreadManager.put] at before ⊢
    omega
  · intro other outside
    rw [threads_eq] at outside ⊢
    have different : other ≠ tid := by
      rintro rfl
      exact absurd inside (Nat.not_lt_of_le outside)
    rw [put_records, if_neg different]
    exact entries.threads_fresh other outside
  · rw [executions_eq]
    exact entries.executions_fresh
  · intro other kept there
    rw [threads_eq] at there
    obtain ⟨rfl, replaced⟩ | ⟨different, untouched⟩ := put_records_some there
    · exact same kept replaced
    · have old := entries.threads other kept untouched
      exact
        { old with
          creation := by rw [others other different, old.creation]
          holding := by rw [others other different, old.holding] }
  · rw [executions_eq]
    exact entries.executions
  · intro other kept there admitted limited
    rw [threads_eq] at there
    obtain ⟨rfl, replaced⟩ | ⟨different, untouched⟩ := put_records_some there
    · exact room kept replaced admitted limited
    · obtain less | creation := room_others
      · exact less.trans_lt (entries.room other kept untouched admitted limited)
      · have kept_creation : kept.stage.inCreation = true := by rw [admitted]; rfl
        exact absurd (entries.creation_unique untouched present kept_creation creation) different

/-- A home entry changes at its stage. -/
theorem Fits.touch {tid : Nat} {entry kept : ThreadEntry cluster}
    (fits : host.Fits limits localHost) (present : host.threads.records tid = some entry)
    (stage_eq : kept.stage = entry.stage)
    (place_eq : kept.record.executionHost = entry.record.executionHost)
    (state : kept.stage.allows kept.record.state = true)
    (attached : kept.stage.inCreation = true → kept.detached = false) :
    (host.putThread tid kept).Fits limits localHost := by
  have old := fits.entries.threads tid entry present
  refine fits.replace present rfl rfl ?_ ?_ fits.accounts.running_le fits.accounts.pending_le
    (fun _ _ => rfl) ?_ ?_ (.inl le_rfl) (fits.poller.replace present rfl rfl ⟨?_, ?_⟩)
  · simp [Census.weight_some, stage_eq]
  · simp [Census.weight_some, stage_eq]
  · intro other replaced
    obtain rfl := Option.some.inj replaced
    exact
      { state := state
        here := fun isLocal => place_eq.trans (old.here (stage_eq ▸ isLocal))
        away := fun isRemote => place_eq ▸ old.away (stage_eq ▸ isRemote)
        creation := stage_eq ▸ old.creation
        holding := stage_eq ▸ old.holding
        attached := attached }
  · intro other replaced admitted
    obtain rfl := Option.some.inj replaced
    exact fits.entries.room tid entry present (stage_eq ▸ admitted)
  · exact fun _ => ⟨kept, rfl, stage_eq⟩
  · intro past other replaced
    obtain rfl := Option.some.inj replaced
    exact stage_eq ▸ past

/-- The poller and the list of executions move, nothing else. -/
theorem Fits.frame (fits : host.Fits limits localHost) (threads_eq : after.threads = host.threads)
    (executions_eq : after.executions = host.executions)
    (running_eq : after.localRunning = host.localRunning)
    (pending_eq : after.localPending = host.localPending)
    (creating_eq : after.creating = host.creating) (poller : after.Poller localHost) :
    after.Fits limits localHost where
  accounts :=
    { running := by
        rw [running_eq, admitted, inHand, threads_eq, executions_eq, creating_eq]
        exact fits.accounts.running
      pending := by
        rw [pending_eq, outstanding, threads_eq]
        exact fits.accounts.pending
      running_le := running_eq ▸ fits.accounts.running_le
      pending_le := pending_eq ▸ fits.accounts.pending_le }
  entries :=
    { threads_fresh := threads_eq ▸ fits.entries.threads_fresh
      executions_fresh := executions_eq ▸ fits.entries.executions_fresh
      threads := by
        rw [threads_eq, creating_eq]
        exact fits.entries.threads
      executions := executions_eq ▸ fits.entries.executions
      room := by
        rw [threads_eq, pending_eq]
        exact fits.entries.room }
  poller := poller

/-- The poller has nothing in hand that belongs to a home record. -/
theorem poller_of_not_found (found : ∀ id completion, after.handling ≠ .found id completion)
    (accepted : ∀ id completion, after.handling ≠ .accepted id completion)
    (acknowledged : ∀ id, after.handling ≠ .acknowledged id) : after.Poller localHost :=
  ⟨fun id completion handling => absurd handling (found id completion),
    fun id completion handling => absurd handling (accepted id completion),
    fun id handling => absurd handling (acknowledged id)⟩

theorem Poller.congr (poller : host.Poller localHost) (threads_eq : after.threads = host.threads)
    (handling_eq : after.handling = host.handling) : after.Poller localHost where
  found := by
    rw [threads_eq, handling_eq]
    exact poller.found
  accepted := by
    rw [threads_eq, handling_eq]
    exact poller.accepted
  acknowledged := by
    rw [threads_eq, handling_eq]
    exact poller.acknowledged

theorem Fits.replaceExecution {tid : Nat} {entry : ThreadEntry cluster}
    {replacement : Option (ThreadEntry cluster)} (fits : host.Fits limits localHost)
    (present : host.executions.records tid = some entry)
    (executions_eq : after.executions = host.executions.put tid replacement)
    (threads_eq : after.threads = host.threads)
    (running_eq : after.localRunning + 1 =
      host.localRunning + Census.weight (fun _ => true) replacement)
    (pending_eq : after.localPending = host.localPending)
    (creating_eq : after.creating = host.creating)
    (same : ∀ kept, replacement = some kept →
      kept.detached = false ∧ kept.record.migrationEpoch = 0)
    (poller : after.Poller localHost) : after.Fits limits localHost := by
  obtain ⟨accounts, entries, -⟩ := fits
  have inside := entries.execution_lt present
  have smaller : after.localRunning ≤ host.localRunning := by
    have := Census.weight_le_one (fun _ : ThreadEntry cluster => true) replacement
    omega
  refine ⟨⟨?_, ?_, fun limited => ?_, ?_⟩, ⟨?_, ?_, ?_, ?_, ?_⟩, poller⟩
  · have exchanged := Census.count_update (fun _ : ThreadEntry cluster => true)
      host.executions.records inside replacement
    have before := accounts.running
    rw [present, Census.weight_some] at exchanged
    simp only [admitted, inHand, threads_eq, executions_eq, creating_eq, ThreadManager.put,
      Bool.toNat_true] at *
    omega
  · rw [pending_eq, outstanding, threads_eq]
    exact accounts.pending
  · exact smaller.trans (accounts.running_le limited)
  · exact pending_eq ▸ accounts.pending_le
  · exact threads_eq ▸ entries.threads_fresh
  · intro other outside
    rw [executions_eq] at outside ⊢
    have different : other ≠ tid := by
      rintro rfl
      exact absurd inside (Nat.not_lt_of_le outside)
    rw [put_records, if_neg different]
    exact entries.executions_fresh other outside
  · rw [threads_eq, creating_eq]
    exact entries.threads
  · intro other kept there
    rw [executions_eq] at there
    obtain ⟨-, replaced⟩ | ⟨-, untouched⟩ := put_records_some there
    · exact same kept replaced
    · exact entries.executions other kept untouched
  · rw [threads_eq, pending_eq]
    exact entries.room

/-- What an action may do to one home entry besides its counters. -/
structure Rewrites (localHost : cluster.Host) (tid : Nat) (entry : ThreadEntry cluster)
    (replacement : Option (ThreadEntry cluster)) (events : List (ThreadEvent cluster)) : Prop where
  /-- The poller keeps what it works on. -/
  keeps : Keeps entry replacement
  /-- Only `LaunchThread` dispatches. -/
  dispatched : ∀ kept, replacement = some kept → kept.stage = .dispatched →
    entry.stage = .dispatched
  /-- Nobody goes back to `LaunchThread`. -/
  creation : ∀ kept, replacement = some kept → kept.stage.inCreation = true →
    entry.stage.inCreation = true
  /-- The execution stays where it is. -/
  place : ∀ kept, replacement = some kept →
    kept.record.executionHost = entry.record.executionHost
  epoch : ∀ kept, replacement = some kept →
    kept.record.migrationEpoch = entry.record.migrationEpoch
  settled : ∀ kept, replacement = some kept → entry.stage = .settled → kept.stage = .settled
  /-- Only the poller completes a remote thread. -/
  completion : ∀ kept, replacement = some kept → kept.stage = .settled →
    kept.record.executionHost ≠ localHost →
      entry.stage = .settled ∧ kept.record.completion = entry.record.completion
  about : ∀ event ∈ events, ∃ departure, event = .departed ⟨localHost, tid⟩ departure
  /-- Nothing is noted while the entry exists. -/
  silent : replacement.isSome → events = []
  /-- A settled record leaves by `Join` or `Detach`. -/
  departs : replacement = none → entry.stage = .settled →
    events = [.departed ⟨localHost, tid⟩ .detached] ∨
      events = [.departed ⟨localHost, tid⟩ (.joined entry.record.completion)]

/-- An action that rewrites one home entry. -/
structure Replaces (limits : ThreadLimits) (localHost : cluster.Host) (host : ThreadHost cluster)
    (tid : Nat) (entry : ThreadEntry cluster) (replacement : Option (ThreadEntry cluster))
    (effect : ThreadEffect cluster) : Prop where
  present : host.threads.records tid = some entry
  threads_eq : effect.host.threads = host.threads.put tid replacement
  executions_eq : effect.host.executions = host.executions
  /-- Their list. -/
  remote_eq : effect.host.remoteExecutions = host.remoteExecutions
  /-- The poller finishes at most an acknowledgement. -/
  handling : effect.host.handling = host.handling ∨
    (∃ id, host.handling = .acknowledged id) ∧ effect.host.handling = .idle
  /-- No message. -/
  sent : effect.sent = []
  fits : effect.host.Fits limits localHost
  rewrites : Rewrites localHost tid entry replacement effect.events

/-- The entry that `LaunchThread` starts with. -/
def launched (executionHost : cluster.Host) (functionId : UInt64) (argBytes : List UInt8) :
    ThreadEntry cluster :=
  (ThreadEntry.allocate executionHost functionId argBytes).setState .launching

/-- Everything that an action of a host can do. -/
inductive Outcome (limits : ThreadLimits) (localHost : cluster.Host) (host : ThreadHost cluster) :
    ThreadEffect cluster → Prop
  /-- Nothing, or an error. -/
  | unchanged : Outcome limits localHost host host.quietly
  /-- The record of an acknowledgement is gone. -/
  | dismissed {id : GlobalThreadId cluster} (handling : host.handling = .acknowledged id) :
      Outcome limits localHost host (quietly { host with handling := .idle })
  /-- `LaunchThread` allocates. -/
  | created {target : cluster.Host} {function : UInt64} {arguments : List UInt8}
      {clusterFunction : Bool} (free : host.creating = none) :
      Outcome limits localHost host (quietly
        { host with
          threads :=
            { nextTid := host.threads.nextTid + 1
              records := Function.update host.threads.records host.threads.nextTid
                (some (launched target function arguments)) }
          creating := some ⟨host.threads.nextTid, clusterFunction, false⟩ })
  /-- `LaunchThread` goes on without its record. -/
  | alone {call : LaunchCall} (calling : host.creating = some call)
      (gone : host.threads.records call.tid = none) :
      Outcome limits localHost host (host.advanceAlone call)
  /-- One home entry moves. -/
  | replaced {tid : Nat} {entry : ThreadEntry cluster} {replacement : Option (ThreadEntry cluster)}
      {effect : ThreadEffect cluster}
      (replaces : Replaces limits localHost host tid entry replacement effect) :
      Outcome limits localHost host effect
  /-- `LaunchThread` enqueues its request. -/
  | dispatched {call : LaunchCall} {entry : ThreadEntry cluster}
    (calling : host.creating = some call)
      (present : host.threads.records call.tid = some entry) (stage : entry.stage = .counted) :
      Outcome limits localHost host
        { host := { host.putThread call.tid (entry.goto .dispatched) with creating := none }
          sent :=
            [{ source := localHost
               target := entry.record.executionHost
               id := ⟨localHost, call.tid⟩
               body := .createReq entry.record.functionId entry.record.argBytes
                call.clusterFunction }]
          events := [] }
  /-- An execution for another host moves. -/
  | executed {tid : Nat} {entry kept : ThreadEntry cluster}
      (present : host.executions.records tid = some entry) (detached : kept.detached = false)
      (epoch : kept.record.migrationEpoch = 0) :
      Outcome limits localHost host (host.putExecution tid kept).quietly
  /-- The poller launches an execution for another host. -/
  | built {id : GlobalThreadId cluster} {tid : Nat} {entry kept : ThreadEntry cluster}
    {built : Bool}
      (handling : host.handling = .launching id tid)
      (present : host.executions.records tid = some entry) (detached : kept.detached = false)
      (epoch : kept.record.migrationEpoch = 0) :
      Outcome limits localHost host (quietly
        { host.putExecution tid kept with handling := .registering id tid built })
  /-- The poller registers an execution for another host. -/
  | registered {id : GlobalThreadId cluster} {tid : Nat} {launched : Bool}
      (handling : host.handling = .registering id tid launched) :
      Outcome limits localHost host
        { host :=
            { host with
              remoteExecutions := host.remoteExecutions ++ [⟨id, tid, none⟩]
              handling := .idle }
          sent := if launched then [⟨localHost, id.homeHost, id, .createAck⟩] else []
          events := [] }
  | accepts {tid : Nat} {completion : Completion} {entry : ThreadEntry cluster}
      (handling : host.handling = .found ⟨localHost, tid⟩ completion)
      (present : host.threads.records tid = some entry) (stage : entry.stage = .dispatched) :
      Outcome limits localHost host (quietly
        { host.putThread tid (entry.goto .accepted) with
          localPending := host.localPending - 1
          handling := .accepted ⟨localHost, tid⟩ completion })
  /-- The poller completes a record. -/
  | settles {tid : Nat} {completion : Completion} {entry : ThreadEntry cluster}
      {replacement : Option (ThreadEntry cluster)}
      (handling : host.handling = .accepted ⟨localHost, tid⟩ completion)
      (present : host.threads.records tid = some entry) (stage : entry.stage = .accepted)
      (completes : replacement = none ∨ replacement = some
        { entry with
          record := { entry.record with state := .completed, completion := completion }
          stage := .settled }) :
      Outcome limits localHost host
        ⟨{ host.putThread tid replacement with handling := .idle }, [],
          departure localHost tid .detached replacement ++ [.handled ⟨localHost, tid⟩]⟩
  | reaped {index : Nat} {execution : RemoteExecution cluster} {entry : ThreadEntry cluster}
      (listed : host.remoteExecutions[index]? = some execution) (unreaped : execution.reaped = none)
      (present : host.executions.records execution.localTid = some entry)
      (epoch : entry.record.migrationEpoch = 0) :
      Outcome limits localHost host
        { host :=
            { (host.putExecution execution.localTid none).releaseExecution with
              remoteExecutions := host.remoteExecutions.set index
                { execution with
                  reaped := some (entry.record.completion, entry.record.migrationEpoch) } }
          sent := []
          events := [.recorded execution.home entry.record.completion] }
  | published {index : Nat} {execution : RemoteExecution cluster} {report : Completion × Nat}
      (listed : host.remoteExecutions[index]? = some execution)
      (reaped : execution.reaped = some report) :
      Outcome limits localHost host
        { host := { host with remoteExecutions := host.remoteExecutions.eraseIdx index }
          sent := [⟨localHost, execution.home.homeHost, execution.home,
            .completeNotify report.1 report.2⟩]
          events := [] }

theorem rewrites_early {tid : Nat} {entry kept : ThreadEntry cluster}
    (early : entry.stage.pastDispatch = false) (undispatched : kept.stage ≠ .dispatched)
    (creation : kept.stage.inCreation = true → entry.stage.inCreation = true)
    (place : kept.record.executionHost = entry.record.executionHost)
    (epoch : kept.record.migrationEpoch = entry.record.migrationEpoch)
    (settles : kept.stage = .settled → kept.record.executionHost = localHost) :
    Rewrites localHost tid entry (some kept) [] where
  keeps := by
    refine ⟨fun which => ?_, fun past => by simp [past] at early⟩
    obtain stage | stage := which <;> simp [stage] at early
  dispatched other replaced stage := by
    obtain rfl := Option.some.inj replaced
    exact absurd stage undispatched
  creation other replaced := by
    obtain rfl := Option.some.inj replaced
    exact creation
  place other replaced := by
    obtain rfl := Option.some.inj replaced
    exact place
  epoch other replaced := by
    obtain rfl := Option.some.inj replaced
    exact epoch
  settled other _ stage := by simp [stage] at early
  completion other replaced stage away := by
    obtain rfl := Option.some.inj replaced
    exact absurd (settles stage) away
  about := by simp
  silent _ := rfl
  departs removed := by cases removed

theorem rewrites_touch {tid : Nat} {entry kept : ThreadEntry cluster}
    (stage : kept.stage = entry.stage)
    (place : kept.record.executionHost = entry.record.executionHost)
    (epoch : kept.record.migrationEpoch = entry.record.migrationEpoch)
    (completion : kept.record.completion = entry.record.completion) :
    Rewrites localHost tid entry (some kept) [] where
  keeps := by
    refine ⟨fun _ => ⟨kept, rfl, stage⟩, fun past other replaced => ?_⟩
    obtain rfl := Option.some.inj replaced
    exact stage ▸ past
  dispatched other replaced which := by
    obtain rfl := Option.some.inj replaced
    exact stage ▸ which
  creation other replaced := by
    obtain rfl := Option.some.inj replaced
    exact fun inside => stage ▸ inside
  place other replaced := by
    obtain rfl := Option.some.inj replaced
    exact place
  epoch other replaced := by
    obtain rfl := Option.some.inj replaced
    exact epoch
  settled other replaced which := by
    obtain rfl := Option.some.inj replaced
    exact stage.trans which
  completion other replaced which _ := by
    obtain rfl := Option.some.inj replaced
    exact ⟨stage.symm.trans which, completion⟩
  about := by simp
  silent _ := rfl
  departs removed := by cases removed

/-- An entry is removed that the poller does not work on. -/
theorem rewrites_remove {tid : Nat} {entry : ThreadEntry cluster}
    {events : List (ThreadEvent cluster)}
    (idle : entry.stage ≠ .dispatched ∧ entry.stage ≠ .accepted)
    (about : ∀ event ∈ events, ∃ departure, event = .departed ⟨localHost, tid⟩ departure)
    (departs : entry.stage = .settled →
      events = [.departed ⟨localHost, tid⟩ .detached] ∨
        events = [.departed ⟨localHost, tid⟩ (.joined entry.record.completion)]) :
    Rewrites localHost tid entry none events where
  keeps := by
    refine ⟨fun which => ?_, by simp⟩
    obtain stage | stage := which
    · exact absurd stage idle.1
    · exact absurd stage idle.2
  dispatched := by simp
  creation := by simp
  place := by simp
  epoch := by simp
  settled := by simp
  completion := by simp
  about := about
  silent := by simp
  departs _ := departs

theorem Fits.entry (fits : host.Fits limits localHost) {tid : Nat} {entry : ThreadEntry cluster}
    (present : host.threads.records tid = some entry) : entry.Fits localHost host.creating tid :=
  fits.entries.threads tid entry present

theorem not_saturated (open_ : host.saturated limits = false)
    (limited : limits.maxRunningThreadsPerHost ≠ 0) :
    host.localRunning + 1 ≤ limits.maxRunningThreadsPerHost := by
  simp only [saturated, decide_eq_false_iff_not, not_and, not_le] at open_
  exact open_ limited

section Advance

variable {call : LaunchCall} {entry : ThreadEntry cluster}

theorem Fits.calling_creation (fits : host.Fits limits localHost)
    (calling : host.creating = some call)
    (present : host.threads.records call.tid = some entry) : entry.stage.inCreation = true := by
  rw [(fits.entry present).creation, calling]
  simp

/-- Whether `LaunchThread` holds capacity shows at the stage of its record. -/
theorem Fits.calling_holding (fits : host.Fits limits localHost)
    (calling : host.creating = some call)
    (present : host.threads.records call.tid = some entry) :
    call.holding = entry.stage.reserves := by
  rw [(fits.entry present).holding, calling]
  simp

theorem Fits.calling_still {kept : ThreadEntry cluster} (fits : host.Fits limits localHost)
    (calling : host.creating = some call) (present : host.threads.records call.tid = some entry)
    (same : kept.stage.reserves = entry.stage.reserves) :
    host.creating = some { call with holding := kept.stage.reserves } := by
  rw [same, ← fits.calling_holding calling present, calling]

/-- `LaunchThread` moves its entry to another stage inside the call. -/
theorem Fits.advanceStage {kept : ThreadEntry cluster} {running pending : Int}
    {creating : Option LaunchCall} (fits : host.Fits limits localHost)
    (calling : host.creating = some call) (present : host.threads.records call.tid = some entry)
    (creating_eq : creating = some { call with holding := kept.stage.reserves })
    (running_eq : running + entry.stage.reserves.toNat =
      host.localRunning + kept.stage.reserves.toNat)
    (pending_eq : pending + entry.stage.awaitsCompletion.toNat =
      host.localPending + kept.stage.awaitsCompletion.toNat)
    (running_le : limits.maxRunningThreadsPerHost ≠ 0 → running ≤ limits.maxRunningThreadsPerHost)
    (pending_le : limits.maxPendingCreatesPerHost ≠ 0 → pending ≤ limits.maxPendingCreatesPerHost)
    (creation : kept.stage.inCreation = true)
    (state : kept.stage.allows kept.record.state = true)
    (here : kept.stage.isLocal = true → kept.record.executionHost = localHost)
    (away : kept.stage.isRemote = true → kept.record.executionHost ≠ localHost)
    (detached : kept.detached = entry.detached)
    (place : kept.record.executionHost = entry.record.executionHost)
    (epoch : kept.record.migrationEpoch = entry.record.migrationEpoch)
    (room : kept.stage = .admitted → limits.maxPendingCreatesPerHost ≠ 0 →
      pending < limits.maxPendingCreatesPerHost) :
    Outcome limits localHost host (quietly
      { host.putThread call.tid (some kept) with
        localRunning := running
        localPending := pending
        creating := creating }) := by
  have old := fits.entry present
  have before := fits.calling_creation calling present
  have holding := fits.calling_holding calling present
  have early : entry.stage.pastDispatch = false := by
    revert before
    cases entry.stage <;> simp
  have undispatched : kept.stage ≠ .dispatched ∧ kept.stage ≠ .settled := by
    constructor <;> intro stage <;> simp [stage] at creation
  have rewrites : Rewrites localHost call.tid entry (some kept) [] :=
    rewrites_early early undispatched.1 (fun _ => before) place epoch
      fun stage => absurd stage undispatched.2
  refine .replaced ⟨present, rfl, rfl, rfl, .inl rfl, rfl, ?_, rewrites⟩
  refine fits.replace present rfl rfl ?_ pending_eq running_le pending_le ?_ ?_ ?_ (.inr before)
    (fits.poller.replace present rfl rfl rewrites.keeps)
  · have idle : entry.stage.holdsCapacity = false := ThreadStage.idle_of_inCreation before
    have still : kept.stage.holdsCapacity = false := ThreadStage.idle_of_inCreation creation
    simp only [quietly, inHand, creating_eq, calling, Option.any_some, holding,
      Census.weight_some, idle, still]
    omega
  · intro other different
    have elsewhere : ∀ holding, LaunchCall.on (some { call with holding := holding }) other =
        none := fun _ => LaunchCall.on_some_of_ne (Ne.symm different)
    simp only [quietly, creating_eq, calling, elsewhere]
  · intro other replaced
    obtain rfl := Option.some.inj replaced
    refine ⟨state, here, away, ?_, ?_, fun _ => detached.trans (old.attached before)⟩
    · rw [creation]
      simp [creating_eq, LaunchCall.on]
    · simp [creating_eq, LaunchCall.on]
  · intro other replaced
    obtain rfl := Option.some.inj replaced
    exact room

theorem Fits.refuse (fits : host.Fits limits localHost) (calling : host.creating = some call)
    (present : host.threads.records call.tid = some entry) (stage : entry.stage = .created)
    (exitCode : Int) : Outcome limits localHost host (host.refuse call.tid entry exitCode) := by
  have old := fits.entry present
  have state := old.launching (.inl stage)
  have attached : entry.detached = false := old.attached (by rw [stage]; rfl)
  rw [ThreadHost.refuse]
  simp only [ThreadEntry.markCompleted, state, attached]
  refine fits.advanceStage calling present (fits.calling_still calling present ?_) ?_ ?_
    fits.accounts.running_le fits.accounts.pending_le rfl rfl ?_ ?_ attached.symm rfl rfl ?_
  · simp [stage]
  · simp [stage]
  · simp [stage]
  · simp
  · simp
  · simp

/-- `LaunchThread` leaves its entry to the worker, the poller, a `Join` or nobody. -/
theorem Fits.advanceLeave {replacement : Option (ThreadEntry cluster)}
    (fits : host.Fits limits localHost) (calling : host.creating = some call)
    (present : host.threads.records call.tid = some entry)
    (running_eq : (entry.stage.reserves.toNat : Int) =
      Census.weight (fun kept => kept.stage.holdsCapacity) replacement)
    (pending_eq : (entry.stage.awaitsCompletion.toNat : Int) =
      Census.weight (fun kept => kept.stage.awaitsCompletion) replacement)
    (same : ∀ kept, replacement = some kept → kept.stage.inCreation = false ∧
      kept.stage.allows kept.record.state = true ∧
      (kept.stage.isLocal = true → kept.record.executionHost = localHost) ∧
      (kept.stage.isRemote = true → kept.record.executionHost ≠ localHost)) :
    ({ host.putThread call.tid replacement with creating := none } : ThreadHost cluster).Fits limits
      localHost := by
  have before := fits.calling_creation calling present
  have holding := fits.calling_holding calling present
  have keeps : Keeps entry replacement := by
    constructor
    · rintro (stage | stage) <;> simp [stage] at before
    · intro past
      revert past before
      cases entry.stage <;> simp
  refine fits.replace present rfl rfl ?_ ?_ fits.accounts.running_le fits.accounts.pending_le ?_ ?_
    ?_ (.inl le_rfl) (fits.poller.replace present rfl rfl keeps)
  · have idle : entry.stage.holdsCapacity = false := ThreadStage.idle_of_inCreation before
    simp [inHand, calling, holding, idle, running_eq]
  · simp [pending_eq]
  · intro other different
    rw [calling, LaunchCall.on_some_of_ne (Ne.symm different), LaunchCall.on_none]
  · intro kept replaced
    obtain ⟨creation, state, here, away⟩ := same kept replaced
    refine ⟨state, here, away, by simpa using creation, ?_, fun impossible => ?_⟩
    · simpa using ThreadStage.reserves_of_not_inCreation creation
    · rw [creation] at impossible
      cases impossible
  · intro kept replaced admitted
    have creation := (same kept replaced).1
    simp [admitted] at creation

/-- `LaunchThread` goes on without its record. -/
theorem Fits.alone (fits : host.Fits limits localHost) (calling : host.creating = some call)
    (gone : host.threads.records call.tid = none) :
    (host.advanceAlone call).host.Fits limits localHost := by
  obtain ⟨accounts, entries, poller⟩ := fits
  have elsewhere : ∀ creating : Option LaunchCall,
      (∀ tid, tid ≠ call.tid → LaunchCall.on creating tid = none) →
        ∀ tid entry, host.threads.records tid = some entry →
          entry.Fits localHost creating tid := by
    intro creating others tid entry present
    have different : tid ≠ call.tid := by
      rintro rfl
      rw [gone] at present
      cases present
    have old := entries.threads tid entry present
    rw [calling] at old
    exact
      { old with
        creation := by
          rw [others tid different, old.creation, LaunchCall.on_some_of_ne (Ne.symm different)]
        holding := by
          rw [others tid different, old.holding, LaunchCall.on_some_of_ne (Ne.symm different)] }
  have exact_running := accounts.running
  simp only [admitted, inHand, calling, Option.any_some] at exact_running
  rw [advanceAlone]
  split
  case isTrue holding =>
    refine ⟨⟨?_, accounts.pending, fun limited => ?_, accounts.pending_le⟩, { entries with
      threads := elsewhere _ fun tid different => LaunchCall.on_some_of_ne (Ne.symm different) },
      poller.congr rfl rfl⟩
    · simp only [holding, Bool.toNat_true] at exact_running
      simp [admitted, exact_running]
    · exact (Int.sub_le_self host.localRunning (by decide)).trans (accounts.running_le limited)
  case isFalse released =>
    refine ⟨⟨?_, accounts.pending, accounts.running_le, accounts.pending_le⟩, { entries with
      threads := elsewhere _ fun tid _ => LaunchCall.on_none tid }, poller.congr rfl rfl⟩
    simp only [Bool.not_eq_true] at released
    simpa [admitted, released] using exact_running

theorem Fits.advanceRecord {built : Bool} {effect : ThreadEffect cluster}
    (fits : host.Fits limits localHost) (calling : host.creating = some call)
    (present : host.threads.records call.tid = some entry)
    (performed : host.advance limits localHost built = some effect) :
    Outcome limits localHost host effect := by
  have old := fits.entry present
  have accounts := fits.accounts
  simp only [ThreadHost.advance, calling, Option.bind_some, present] at performed
  cases stage : entry.stage <;> simp only [stage] at performed
  case created =>
    have state := old.launching (.inl stage)
    split_ifs at performed with here full full
    · obtain rfl := Option.some.inj performed
      exact fits.refuse calling present stage (-2)
    · obtain rfl := Option.some.inj performed
      refine fits.advanceStage calling present rfl ?_ ?_ (not_saturated (by simpa using full))
        accounts.pending_le rfl ?_ (fun _ => here) ?_ rfl rfl rfl ?_
      · simp [stage]
      · simp [stage]
      · simp [state]
      · simp
      · simp
    · obtain rfl := Option.some.inj performed
      exact fits.refuse calling present stage (-3)
    · obtain rfl := Option.some.inj performed
      refine fits.advanceStage calling present (fits.calling_still calling present ?_) ?_ ?_
        accounts.running_le accounts.pending_le rfl ?_ ?_ (fun _ => here) rfl rfl rfl ?_
      · simp [stage]
      · simp [stage]
      · simp [stage]
      · simp [state]
      · simp
      · intro _ limited
        simpa [limited] using full
  case reserved =>
    have state := old.launching (.inr (.inl stage))
    have here : entry.record.executionHost = localHost := old.here (by simp [stage])
    simp only [ThreadEntry.launch, state] at performed
    cases built with
    | true =>
        obtain rfl := Option.some.inj performed
        refine .replaced ⟨present, rfl, rfl, rfl, .inl rfl, rfl,
          fits.advanceLeave calling present (by simp [stage, Census.weight_some])
            (by simp [stage, Census.weight_some]) ?_,
          rewrites_early (by simp [stage]) (by simp) (by simp) rfl rfl (by simp)⟩
        intro kept replaced
        obtain rfl := Option.some.inj replaced
        simp [here]
    | false =>
        obtain rfl := Option.some.inj performed
        refine fits.advanceStage calling present (fits.calling_still calling present ?_) ?_ ?_
          accounts.running_le accounts.pending_le rfl rfl (fun _ => here) ?_ rfl rfl rfl ?_
        · simp [stage]
        · simp [stage]
        · simp [stage]
        · simp
        · simp
  case failed =>
    obtain rfl := Option.some.inj performed
    have state := old.completed (.inl stage)
    refine fits.advanceStage calling present rfl ?_ ?_ (fun limited => ?_) accounts.pending_le rfl
      ?_ ?_ ?_ rfl rfl rfl ?_
    · simp [stage]
    · simp [stage]
    · have bounded := accounts.running_le limited
      simp only [releaseExecution, putThread]
      omega
    · simp [state]
    · simp
    · simp
    · simp
  case refused =>
    have state := old.completed (.inr (.inl stage))
    cases joined : entry.join with
    | error status =>
        simp only [joined] at performed
        obtain rfl := Option.some.inj performed
        refine .replaced ⟨present, rfl, rfl, rfl, .inl rfl, rfl,
          fits.advanceLeave calling present (by simp [stage, Census.weight_some])
            (by simp [stage, Census.weight_some]) ?_,
          rewrites_early (by simp [stage]) (by simp) (by simp) rfl rfl (by simp)⟩
        intro kept replaced
        obtain rfl := Option.some.inj replaced
        simp [state]
    | ok joining =>
        simp only [joined, state] at performed
        obtain rfl := Option.some.inj performed
        exact .replaced ⟨present, rfl, rfl, rfl, .inl rfl, rfl,
          fits.advanceLeave calling present (by simp [stage]) (by simp [stage]) (by simp),
          rewrites_remove (by simp [stage]) (by simp) (by simp [stage])⟩
  case admitted =>
    have state := old.launching (.inr (.inr (.inl stage)))
    obtain rfl := Option.some.inj performed
    refine fits.advanceStage calling present (fits.calling_still calling present ?_) ?_ ?_
      accounts.running_le (fun limited => ?_) rfl ?_ ?_ (fun _ => old.away (by simp [stage])) rfl
      rfl rfl ?_
    · simp [stage]
    · simp [stage]
    · simp [stage]
    · have room := fits.entries.room call.tid entry present stage limited
      omega
    · simp [state]
    · simp
    · simp
  case counted =>
    obtain rfl := Option.some.inj performed
    exact .dispatched calling present stage
  all_goals simp at performed

theorem Fits.advance {built : Bool} {effect : ThreadEffect cluster}
    (fits : host.Fits limits localHost)
    (performed : host.advance limits localHost built = some effect) :
    Outcome limits localHost host effect := by
  obtain ⟨call, calling, performed⟩ := Option.bind_eq_some_iff.mp performed
  cases present : host.threads.records call.tid with
  | none =>
      simp only [present] at performed
      obtain rfl := Option.some.inj performed
      exact .alone calling present
  | some entry =>
      exact fits.advanceRecord calling present
        (Option.bind_eq_some_iff.mpr ⟨call, calling, performed⟩)

end Advance

/-- `LaunchThread` refuses its arguments or allocates and launches a record. -/
theorem create_cases {target : cluster.Host} {function : UInt64} {arguments : List UInt8}
    {clusterFunction : Bool} {effect : ThreadEffect cluster}
    (performed : host.create localHost target function arguments clusterFunction = some effect) :
    effect = host.quietly ∨ host.creating = none ∧ effect = quietly
      { host with
        threads :=
          { nextTid := host.threads.nextTid + 1
            records := Function.update host.threads.records host.threads.nextTid
              (some (launched target function arguments)) }
        creating := some ⟨host.threads.nextTid, clusterFunction, false⟩ } := by
  rw [ThreadHost.create] at performed
  split_ifs at performed with busy large
  · obtain rfl := Option.some.inj performed
    exact .inl rfl
  · obtain rfl := Option.some.inj performed
    refine .inr ⟨by simpa using busy, ?_⟩
    simp [ThreadManager.transact, ThreadManager.transactAs, ThreadManager.find,
      ThreadManager.allocateThread, ThreadEntry.markLaunching, ThreadEntry.allocate,
      ThreadManager.put, launched]

theorem Fits.create {target : cluster.Host} {function : UInt64} {arguments : List UInt8}
    {clusterFunction : Bool} {effect : ThreadEffect cluster}
    (performed : host.create localHost target function arguments clusterFunction = some effect) :
    Outcome limits localHost host effect := by
  obtain rfl | ⟨free, rfl⟩ := create_cases performed
  · exact .unchanged
  · exact .created free

/-- A worker moves a home entry on its own host. -/
theorem Fits.workerStage {tid : Nat} {entry kept : ThreadEntry cluster} {running : Int}
    (fits : host.Fits limits localHost) (present : host.threads.records tid = some entry)
    (stage : entry.stage = .active ∨ entry.stage = .finished ∨ entry.stage = .released)
    (running_eq : running + entry.stage.holdsCapacity.toNat =
      host.localRunning + kept.stage.holdsCapacity.toNat)
    (fewer : running ≤ host.localRunning)
    (later : kept.stage = .finished ∨ kept.stage = .released ∨ kept.stage = .settled)
    (state : kept.stage.allows kept.record.state = true)
    (place : kept.record.executionHost = entry.record.executionHost)
    (epoch : kept.record.migrationEpoch = entry.record.migrationEpoch) :
    Outcome limits localHost host (quietly
      { host.putThread tid (some kept) with localRunning := running }) := by
  have old := fits.entry present
  have here : entry.record.executionHost = localHost :=
    old.here (by obtain stage | stage | stage := stage <;> simp [stage])
  have uncalled : LaunchCall.on host.creating tid = none :=
    old.uncalled (by obtain stage | stage | stage := stage <;> simp [stage])
  have rewrites : Rewrites localHost tid entry (some kept) [] := by
    refine rewrites_early ?_ ?_ ?_ place epoch fun _ => place.trans here
    · obtain stage | stage | stage := stage <;> simp [stage]
    · obtain stage | stage | stage := later <;> simp [stage]
    · obtain stage | stage | stage := later <;> simp [stage]
  have pending_eq : entry.stage.awaitsCompletion = kept.stage.awaitsCompletion := by
    obtain stage | stage | stage := stage <;> obtain later | later | later := later <;>
      simp [stage, later]
  refine .replaced ⟨present, rfl, rfl, rfl, .inl rfl, rfl, ?_, rewrites⟩
  refine fits.replace present rfl rfl ?_ ?_
    (fun limited => fewer.trans (fits.accounts.running_le limited)) fits.accounts.pending_le
    (fun _ _ => rfl) ?_ ?_ (.inl le_rfl) (fits.poller.replace present rfl rfl rewrites.keeps)
  · simp only [quietly, putThread, Census.weight_some, inHand]
    omega
  · simp [Census.weight_some, pending_eq]
  · intro other replaced
    obtain rfl := Option.some.inj replaced
    refine ⟨state, fun _ => place.trans here, fun isRemote => ?_, ?_, ?_, fun creation => ?_⟩
    · obtain stage | stage | stage := later <;> simp [stage] at isRemote
    · obtain stage | stage | stage := later <;> simp [stage, uncalled]
    · obtain stage | stage | stage := later <;> simp [stage, uncalled]
    · obtain stage | stage | stage := later <;> simp [stage] at creation
  · intro other replaced admitted
    obtain rfl := Option.some.inj replaced
    obtain stage | stage | stage := later <;> simp [stage] at admitted

theorem Fits.finish {tid : Nat} {failed : Bool} {result : UInt64} {effect : ThreadEffect cluster}
    (fits : host.Fits limits localHost) (performed : host.finish tid failed result = some effect) :
    Outcome limits localHost host effect := by
  obtain ⟨entry, present, performed⟩ := Option.bind_eq_some_iff.mp performed
  obtain ⟨stage, performed⟩ := Option.ite_none_right_eq_some.mp performed
  obtain rfl := Option.some.inj performed
  have state := (fits.entry present).running (.inl stage)
  exact fits.workerStage present (.inl stage) (by simp [stage]) le_rfl (.inl rfl) (by simp [state])
    rfl rfl

theorem Fits.hook {tid : Nat} {effect : ThreadEffect cluster} (fits : host.Fits limits localHost)
    (performed : host.hook tid = some effect) : Outcome limits localHost host effect := by
  obtain ⟨entry, present, performed⟩ := Option.bind_eq_some_iff.mp performed
  obtain ⟨stage, performed⟩ := Option.ite_none_right_eq_some.mp performed
  obtain rfl := Option.some.inj performed
  have state := (fits.entry present).running (.inr (.inl stage))
  exact fits.workerStage present (.inr (.inl stage)) (by simp [stage])
    (Int.sub_le_self host.localRunning (by decide)) (.inr (.inl rfl)) (by simp [state]) rfl rfl

/-- A home entry without capacity is removed by somebody other than `LaunchThread`. -/
theorem Fits.remove {tid : Nat} {entry : ThreadEntry cluster}
    {events : List (ThreadEvent cluster)} (fits : host.Fits limits localHost)
    (present : host.threads.records tid = some entry)
    (gone : entry.stage = .released ∨ entry.record.state = .completed)
    (about : ∀ event ∈ events, ∃ departure, event = .departed ⟨localHost, tid⟩ departure)
    (departs : entry.stage = .settled →
      events = [.departed ⟨localHost, tid⟩ .detached] ∨
        events = [.departed ⟨localHost, tid⟩ (.joined entry.record.completion)]) :
    Outcome limits localHost host ⟨host.putThread tid none, [], events⟩ := by
  have stage : entry.stage = .released ∨ entry.stage = .failed ∨ entry.stage = .refused ∨
      entry.stage = .disowned ∨ entry.stage = .settled :=
    gone.imp_right (fits.entry present).of_completed
  have rewrites : Rewrites localHost tid entry none events := by
    refine rewrites_remove ?_ about departs
    obtain stage | stage | stage | stage | stage := stage <;> simp [stage]
  refine .replaced ⟨present, rfl, rfl, rfl, .inl rfl, rfl, ?_, rewrites⟩
  refine fits.replace present rfl rfl ?_ ?_ fits.accounts.running_le fits.accounts.pending_le
    (fun _ _ => rfl) (by simp) (by simp) (.inl le_rfl)
    (fits.poller.replace present rfl rfl rewrites.keeps)
  · obtain stage | stage | stage | stage | stage := stage <;> simp [stage]
  · obtain stage | stage | stage | stage | stage := stage <;> simp [stage]

theorem Fits.complete {tid : Nat} {effect : ThreadEffect cluster}
    (fits : host.Fits limits localHost) (performed : host.complete localHost tid = some effect) :
    Outcome limits localHost host effect := by
  obtain ⟨entry, present, performed⟩ := Option.bind_eq_some_iff.mp performed
  obtain ⟨stage, performed⟩ := Option.ite_none_right_eq_some.mp performed
  have state := (fits.entry present).running (.inr (.inr stage))
  cases detached : entry.detached with
  | true =>
      simp only [ThreadEntry.markCompleted, state, detached] at performed
      obtain rfl := Option.some.inj performed
      exact fits.remove present (.inl stage) (by simp [departure]) (by simp [stage])
  | false =>
      simp only [ThreadEntry.markCompleted, state, detached] at performed
      obtain rfl := Option.some.inj performed
      exact fits.workerStage present (.inr (.inr stage)) (by simp [stage]) le_rfl
        (.inr (.inr rfl)) rfl rfl rfl

theorem Fits.joinReturn {tid : Nat} {effect : ThreadEffect cluster}
    (fits : host.Fits limits localHost) (performed : host.joinReturn localHost tid = some effect) :
    Outcome limits localHost host effect := by
  obtain ⟨entry, present, performed⟩ := Option.bind_eq_some_iff.mp performed
  obtain ⟨⟨joining, completed⟩, performed⟩ := Option.ite_none_right_eq_some.mp performed
  obtain rfl := Option.some.inj performed
  exact fits.remove present (.inr completed) (by simp) fun _ => .inr rfl

theorem Fits.detach {id : GlobalThreadId cluster} {effect : ThreadEffect cluster}
    (fits : host.Fits limits localHost) (performed : host.detach localHost id = some effect) :
    Outcome limits localHost host effect := by
  obtain ⟨busy, performed⟩ := Option.ite_none_left_eq_some.mp performed
  have free : host.creating = none := by simpa using busy
  cases there : host.threads.find localHost id with
  | none =>
      simp only [there] at performed
      obtain rfl := Option.some.inj performed
      exact .unchanged
  | some entry =>
      obtain ⟨id_eq, present⟩ := find_some there
      have old := fits.entry present
      simp only [there, ThreadEntry.detach] at performed
      split_ifs at performed with allocated taken completed
      · obtain rfl := Option.some.inj performed
        exact .unchanged
      · obtain rfl := Option.some.inj performed
        exact .unchanged
      · obtain rfl := Option.some.inj performed
        exact fits.remove present (.inr completed) (by simp [departure]) fun _ => .inl rfl
      · obtain rfl := Option.some.inj performed
        refine .replaced ⟨present, rfl, rfl, rfl, .inl rfl, rfl, ?_, rewrites_touch rfl rfl rfl rfl⟩
        refine fits.touch present rfl rfl old.state fun creation => ?_
        rw [old.creation, free] at creation
        cases creation

theorem Fits.join {id : GlobalThreadId cluster} {missing : String} {effect : ThreadEffect cluster}
    (fits : host.Fits limits localHost)
    (performed : host.call localHost id missing ThreadEntry.join = some effect) :
    Outcome limits localHost host effect := by
  obtain rfl := Option.some.inj performed
  cases there : host.threads.find localHost id with
  | none =>
      simp only [ThreadManager.transactAs, there]
      exact .unchanged
  | some entry =>
      obtain ⟨id_eq, present⟩ := find_some there
      have old := fits.entry present
      simp only [ThreadManager.transactAs, there, ThreadEntry.join]
      split
      case h_1 => exact .unchanged
      case h_2 joined accepted =>
        split_ifs at accepted
        obtain rfl := Except.ok.inj accepted
        refine .replaced ⟨present, rfl, rfl, rfl, .inl rfl, rfl, ?_, rewrites_touch rfl rfl rfl rfl⟩
        exact fits.touch present rfl rfl old.state old.attached

theorem Fits.moveMigration {tid : Nat} {source target : MigrationState}
    {effect : ThreadEffect cluster} (fits : host.Fits limits localHost)
    (performed : host.moveMigration tid source target = some effect) :
    Outcome limits localHost host effect := by
  obtain ⟨entry, present, performed⟩ := Option.bind_eq_some_iff.mp performed
  obtain ⟨stage, performed⟩ := Option.ite_none_right_eq_some.mp performed
  have old := fits.entry present
  have state := old.running (.inl stage)
  simp only [ThreadEntry.moveMigration] at performed
  obtain rfl := Option.some.inj performed
  split
  case isTrue =>
    exact .replaced ⟨present, rfl, rfl, rfl, .inl rfl, rfl,
      fits.touch present rfl rfl old.state (by simp [stage]), rewrites_touch rfl rfl rfl rfl⟩
  case isFalse =>
    exact .replaced ⟨present, rfl, rfl, rfl, .inl rfl, rfl,
      fits.touch present rfl rfl old.state (by simp [stage]), rewrites_touch rfl rfl rfl rfl⟩

theorem Fits.finishRemote {tid : Nat} {failed : Bool} {result : UInt64}
    {effect : ThreadEffect cluster} (fits : host.Fits limits localHost)
    (performed : host.finishRemote tid failed result = some effect) :
    Outcome limits localHost host effect := by
  obtain ⟨entry, present, performed⟩ := Option.bind_eq_some_iff.mp performed
  obtain ⟨stage, performed⟩ := Option.ite_none_right_eq_some.mp performed
  obtain rfl := Option.some.inj performed
  obtain ⟨attached, epoch⟩ := fits.entries.executions tid entry present
  exact .executed present attached epoch

theorem Fits.completeRemote {tid : Nat} {effect : ThreadEffect cluster}
    (fits : host.Fits limits localHost) (performed : host.completeRemote tid = some effect) :
    Outcome limits localHost host effect := by
  obtain ⟨entry, present, performed⟩ := Option.bind_eq_some_iff.mp performed
  obtain ⟨stage, performed⟩ := Option.ite_none_right_eq_some.mp performed
  obtain ⟨attached, epoch⟩ := fits.entries.executions tid entry present
  simp only [ThreadEntry.markCompleted, attached, Bool.false_eq_true, if_false] at performed
  split_ifs at performed
  · obtain rfl := Option.some.inj performed
    exact .executed present attached epoch
  · obtain rfl := Option.some.inj performed
    exact .executed present rfl epoch

theorem Fits.reap {index : Nat} {effect : ThreadEffect cluster}
    (fits : host.Fits limits localHost) (performed : host.reap index = some effect) :
    Outcome limits localHost host effect := by
  obtain ⟨execution, listed, performed⟩ := Option.bind_eq_some_iff.mp performed
  obtain ⟨unreaped, performed⟩ := Option.ite_none_left_eq_some.mp performed
  obtain ⟨entry, present, performed⟩ := Option.bind_eq_some_iff.mp performed
  obtain ⟨completed, performed⟩ := Option.ite_none_right_eq_some.mp performed
  obtain rfl := Option.some.inj performed
  exact .reaped listed (by simpa using unreaped) present
    (fits.entries.executions _ entry present).2

theorem Fits.publish {index : Nat} {effect : ThreadEffect cluster}
    (performed : host.publish localHost index = some effect) :
    Outcome limits localHost host effect := by
  obtain ⟨execution, listed, performed⟩ := Option.bind_eq_some_iff.mp performed
  obtain ⟨report, reaped, rfl⟩ := Option.map_eq_some_iff.mp performed
  exact .published listed reaped

theorem launch_ok {entry : ThreadEntry cluster} {built : Bool}
    {replacement : Option (ThreadEntry cluster)} (result : entry.launch built = .ok replacement) :
    ∃ kept, replacement = some kept ∧ kept.detached = entry.detached ∧
      kept.record.migrationEpoch = entry.record.migrationEpoch := by
  rw [ThreadEntry.launch] at result
  split_ifs at result
  · obtain rfl := Except.ok.inj result
    exact ⟨_, rfl, rfl, rfl⟩
  · obtain rfl := Except.ok.inj result
    exact ⟨_, rfl, rfl, rfl⟩

theorem putExecution_self {tid : Nat} {entry : ThreadEntry cluster}
    (present : host.executions.records tid = some entry) :
    host.putExecution tid (some entry) = host := by
  simp [ThreadManager.put, ← present]

theorem Fits.acknowledge {id : GlobalThreadId cluster} (fits : host.Fits limits localHost)
    (handling : host.handling = .acknowledged id) :
    Outcome limits localHost host (quietly
      { host with
        threads := (host.threads.transact localHost id ThreadEntry.markRunning).2
        handling := .idle }) := by
  cases there : host.threads.find localHost id with
  | none =>
      simp only [ThreadManager.transact, ThreadManager.transactAs, there]
      exact .dismissed handling
  | some entry =>
      obtain ⟨id_eq, present⟩ := find_some there
      have old := fits.entry present
      have past := (fits.poller.acknowledged id handling).2 entry there
      simp only [ThreadManager.transact, ThreadManager.transactAs, there, ThreadEntry.markRunning]
      split_ifs with completed inactive
      · refine .replaced ⟨present, rfl, rfl, rfl, .inr ⟨⟨id, handling⟩, rfl⟩, rfl, ?_,
          rewrites_touch rfl rfl rfl rfl⟩
        refine (fits.touch present rfl rfl old.state old.attached).frame rfl rfl rfl rfl rfl ?_
        exact poller_of_not_found (by simp) (by simp) (by simp)
      · exact .dismissed handling
      · have active : entry.record.state = .launching ∨ entry.record.state = .running := by
          simpa [or_iff_not_imp_left] using inactive
        refine .replaced ⟨present, rfl, rfl, rfl, .inr ⟨⟨id, handling⟩, rfl⟩, rfl, ?_,
          rewrites_touch rfl rfl rfl rfl⟩
        have allowed : entry.stage.allows .running = true := by
          have before := old.state
          revert past before
          obtain state | state := active <;> cases entry.stage <;> simp [state]
        have touched : (host.putThread id.localTid (some (entry.setState .running))).Fits limits
            localHost := fits.touch present rfl rfl allowed old.attached
        exact touched.frame rfl rfl rfl rfl rfl
          (poller_of_not_found (by simp) (by simp) (by simp))

theorem Fits.handle {built : Bool} {effect : ThreadEffect cluster}
    (fits : host.Fits limits localHost)
    (performed : host.handle localHost built = some effect) :
    Outcome limits localHost host effect := by
  cases handling : host.handling with
  | idle => simp [ThreadHost.handle, handling] at performed
  | launching id tid =>
      simp only [ThreadHost.handle, handling] at performed
      obtain ⟨entry, present, performed⟩ := Option.bind_eq_some_iff.mp performed
      obtain ⟨attached, epoch⟩ := fits.entries.executions tid entry present
      cases result : entry.launch built with
      | error status =>
          simp only [result] at performed
          obtain rfl := Option.some.inj performed
          have outcome : Outcome limits localHost host (quietly
              { host.putExecution tid (some entry) with handling := .registering id tid false }) :=
            .built handling present attached epoch
          rwa [putExecution_self present] at outcome
      | ok replacement =>
          simp only [result] at performed
          obtain rfl := Option.some.inj performed
          obtain ⟨kept, rfl, detached_eq, epoch_eq⟩ := launch_ok result
          exact .built handling present (detached_eq.trans attached) (epoch_eq.trans epoch)
  | registering id tid launched =>
      simp only [ThreadHost.handle, handling] at performed
      obtain rfl := Option.some.inj performed
      exact .registered handling
  | acknowledged id =>
      simp only [ThreadHost.handle, handling] at performed
      obtain rfl := Option.some.inj performed
      exact fits.acknowledge handling
  | found id completion =>
      simp only [ThreadHost.handle, handling] at performed
      obtain rfl := Option.some.inj performed
      obtain ⟨entry, there, stage⟩ := fits.poller.found id completion handling
      obtain ⟨id_eq, present⟩ := find_some there
      simp only [ThreadManager.transact, ThreadManager.transactAs, there]
      rw [id_eq] at handling ⊢
      exact .accepts handling present stage
  | accepted id completion =>
      obtain ⟨entry, there, stage⟩ := fits.poller.accepted id completion handling
      obtain ⟨id_eq, present⟩ := find_some there
      have state := (fits.entry present).underWay (.inr stage)
      have active : ¬(entry.record.state ≠ .launching ∧ entry.record.state ≠ .running) := by
        obtain state | state := state <;> simp [state]
      have incomplete : entry.record.state ≠ .completed := by
        obtain state | state := state <;> simp [state]
      simp only [ThreadHost.handle, handling, there, ThreadEntry.markCompleted, incomplete, active,
        if_false] at performed
      split_ifs at performed with detached
      · obtain rfl := Option.some.inj performed
        rw [id_eq] at handling ⊢
        exact .settles handling present stage (.inl rfl)
      · obtain rfl := Option.some.inj performed
        rw [id_eq] at handling ⊢
        exact .settles handling present stage (.inr rfl)

theorem Fits.act {op : ThreadOp cluster} {effect : ThreadEffect cluster}
    (fits : host.Fits limits localHost)
    (pinned : ∀ id targetHost, op ≠ .requestMigration id targetHost)
    (performed : host.act limits localHost op = some effect) :
    Outcome limits localHost host effect := by
  cases op with
  | create => exact Fits.create performed
  | advance => exact fits.advance performed
  | finish => exact fits.finish performed
  | hook => exact fits.hook performed
  | complete => exact fits.complete performed
  | finishRemote => exact fits.finishRemote performed
  | completeRemote => exact fits.completeRemote performed
  | handle => exact fits.handle performed
  | reap => exact fits.reap performed
  | publish => exact Fits.publish performed
  | join => exact fits.join performed
  | joinReturn => exact fits.joinReturn performed
  | detach => exact fits.detach performed
  | requestMigration id targetHost => exact absurd rfl (pinned id targetHost)
  | safePoint | requeue => exact fits.moveMigration performed

theorem Fits.created {target : cluster.Host} {function : UInt64} {arguments : List UInt8}
    {clusterFunction : Bool} (fits : host.Fits limits localHost) (free : host.creating = none) :
    ({ host with
      threads :=
        { nextTid := host.threads.nextTid + 1
          records := Function.update host.threads.records host.threads.nextTid
            (some (launched target function arguments)) }
      creating := some ⟨host.threads.nextTid, clusterFunction, false⟩ } : ThreadHost cluster).Fits
        limits
        localHost := by
  obtain ⟨accounts, entries, poller⟩ := fits
  have unused := entries.threads_fresh host.threads.nextTid le_rfl
  have cases_of : ∀ {tid : Nat} {entry : ThreadEntry cluster},
      Function.update host.threads.records host.threads.nextTid
        (some (launched target function arguments)) tid = some entry →
      (tid = host.threads.nextTid ∧ entry = launched target function arguments) ∨
        (tid ≠ host.threads.nextTid ∧ host.threads.records tid = some entry) := by
    intro tid entry present
    rw [Function.update_apply] at present
    split at present
    case isTrue same => exact .inl ⟨same, (Option.some.inj present).symm⟩
    case isFalse different => exact .inr ⟨different, present⟩
  refine ⟨⟨?_, ?_, accounts.running_le, accounts.pending_le⟩, ⟨?_, entries.executions_fresh, ?_,
    entries.executions, ?_⟩, ?_⟩
  · have before := accounts.running
    simp only [admitted, inHand, free, Census.count_push] at before ⊢
    simpa [Census.weight_some, launched, ThreadEntry.allocate] using before
  · have before := accounts.pending
    simp only [outstanding, Census.count_push] at before ⊢
    simpa [Census.weight_some, launched, ThreadEntry.allocate] using before
  · intro tid outside
    have different : tid ≠ host.threads.nextTid := Nat.ne_of_gt outside
    exact (Function.update_of_ne different _ _).trans
      (entries.threads_fresh tid (Nat.le_of_succ_le outside))
  · intro tid entry present
    obtain ⟨rfl, rfl⟩ | ⟨different, there⟩ := cases_of present
    · refine ⟨rfl, by simp [launched, ThreadEntry.allocate], by simp [launched,
        ThreadEntry.allocate], ?_, ?_, fun _ => rfl⟩
      · simp [launched, ThreadEntry.allocate, LaunchCall.on]
      · simp [launched, ThreadEntry.allocate, LaunchCall.on]
    · have old := entries.threads tid entry there
      exact
        { old with
          creation := by simp [old.creation, free, LaunchCall.on, Ne.symm different]
          holding := by simp [old.holding, free, LaunchCall.on, Ne.symm different] }
  · intro tid entry present admitted
    obtain ⟨rfl, rfl⟩ | ⟨different, there⟩ := cases_of present
    · simp [launched, ThreadEntry.allocate] at admitted
    · exact entries.room tid entry there admitted
  · have stays : ∀ id entry, host.threads.find localHost id = some entry →
        ThreadManager.find ⟨host.threads.nextTid + 1,
          Function.update host.threads.records host.threads.nextTid
            (some (launched target function arguments))⟩ localHost id = some entry := by
      intro id entry there
      obtain ⟨id_eq, present⟩ := find_some there
      have different : id.localTid ≠ host.threads.nextTid := by
        intro same
        rw [same, unused] at present
        cases present
      rw [id_eq, find_eq]
      exact (Function.update_of_ne different _ _).trans present
    refine ⟨fun id completion handling => ?_, fun id completion handling => ?_,
      fun id handling => ?_⟩
    · obtain ⟨entry, there, stage⟩ := poller.found id completion handling
      exact ⟨entry, stays id entry there, stage⟩
    · obtain ⟨entry, there, stage⟩ := poller.accepted id completion handling
      exact ⟨entry, stays id entry there, stage⟩
    · obtain ⟨allocated, past⟩ := poller.acknowledged id handling
      refine ⟨Nat.lt_succ_of_lt allocated, fun entry there => ?_⟩
      obtain ⟨id_eq, present⟩ := find_some there
      obtain ⟨same, -⟩ | ⟨-, recorded⟩ := cases_of present
      · exact absurd allocated (by simp [same])
      · exact past entry (by rw [id_eq, find_eq, recorded])

theorem Fits.accepts {tid : Nat} {completion : Completion} {entry : ThreadEntry cluster}
    (fits : host.Fits limits localHost) (present : host.threads.records tid = some entry)
    (stage : entry.stage = .dispatched) :
    ({ host.putThread tid (entry.goto .accepted) with
      localPending := host.localPending - 1
      handling := .accepted ⟨localHost, tid⟩ completion } : ThreadHost cluster).Fits limits
        localHost := by
  have old := fits.entry present
  refine fits.replace present rfl rfl ?_ ?_ fits.accounts.running_le (fun limited => ?_)
    (fun _ _ => rfl) ?_ ?_ (.inl (Int.sub_le_self _ (by decide))) ⟨?_, ?_, ?_⟩
  · simp [Census.weight_some, stage]
  · simp [Census.weight_some, stage]
  · exact (Int.sub_le_self _ (by decide)).trans (fits.accounts.pending_le limited)
  · intro kept replaced
    obtain rfl := Option.some.inj replaced
    have away := old.away (by simp [stage])
    have uncalled := old.uncalled (by simp [stage])
    obtain state | state := old.underWay (.inl stage) <;>
      exact ⟨by simp [state], by simp, fun _ => away, by simp [uncalled], by simp [uncalled],
        by simp⟩
  · intro kept replaced admitted
    obtain rfl := Option.some.inj replaced
    cases admitted
  · simp
  · intro id other handling
    obtain ⟨rfl, -⟩ : ⟨localHost, tid⟩ = id ∧ completion = other := by simpa using handling
    exact ⟨entry.goto .accepted, by simp [find_eq, put_records], rfl⟩
  · simp

theorem Fits.settles {tid : Nat} {completion : Completion} {entry : ThreadEntry cluster}
    {replacement : Option (ThreadEntry cluster)} (fits : host.Fits limits localHost)
    (present : host.threads.records tid = some entry) (stage : entry.stage = .accepted)
    (completes : replacement = none ∨ replacement = some
      { entry with
        record := { entry.record with state := .completed, completion := completion }
        stage := .settled }) :
    ({ host.putThread tid replacement with handling := .idle } : ThreadHost cluster).Fits limits
      localHost := by
  have old := fits.entry present
  refine fits.replace present rfl rfl ?_ ?_ fits.accounts.running_le fits.accounts.pending_le
    (fun _ _ => rfl) ?_ ?_ (.inl le_rfl) (poller_of_not_found (by simp) (by simp) (by simp))
  · obtain rfl | rfl := completes <;> simp [Census.weight_some, stage]
  · obtain rfl | rfl := completes <;> simp [Census.weight_some, stage]
  · intro kept replaced
    obtain rfl | rfl := completes
    · cases replaced
    · obtain rfl := Option.some.inj replaced
      have uncalled := old.uncalled (by simp [stage])
      exact ⟨rfl, by simp, by simp, by simp [uncalled], by simp [uncalled], by simp⟩
  · intro kept replaced admitted
    obtain rfl | rfl := completes
    · cases replaced
    · obtain rfl := Option.some.inj replaced
      cases admitted

theorem Outcome.fits {effect : ThreadEffect cluster}
    (outcome : Outcome limits localHost host effect)
    (fits : host.Fits limits localHost) : effect.host.Fits limits localHost := by
  cases outcome with
  | unchanged => exact fits
  | dismissed handling =>
      exact fits.frame rfl rfl rfl rfl rfl (poller_of_not_found (by simp) (by simp) (by simp))
  | created free => exact fits.created free
  | alone calling gone => exact fits.alone calling gone
  | replaced replaces => exact replaces.fits
  | @dispatched call entry calling present stage =>
      have old := fits.entry present
      refine fits.advanceLeave calling present ?_ ?_ ?_
      · simp [Census.weight_some, stage]
      · simp [Census.weight_some, stage]
      · intro kept replaced
        obtain rfl := Option.some.inj replaced
        have away := old.away (by simp [stage])
        simp [old.launching (.inr (.inr (.inr stage))), away]
  | @executed tid entry kept present detached epoch =>
      refine fits.replaceExecution present rfl rfl ?_ rfl rfl ?_ (fits.poller.congr rfl rfl)
      · simp [Census.weight_some]
      · intro other replaced
        obtain rfl := Option.some.inj replaced
        exact ⟨detached, epoch⟩
  | @built id tid entry kept built handling present detached epoch =>
      refine fits.replaceExecution present rfl rfl ?_ rfl rfl ?_
        (poller_of_not_found (by simp) (by simp) (by simp))
      · simp [Census.weight_some]
      · intro other replaced
        obtain rfl := Option.some.inj replaced
        exact ⟨detached, epoch⟩
  | registered handling =>
      exact fits.frame rfl rfl rfl rfl rfl (poller_of_not_found (by simp) (by simp) (by simp))
  | accepts handling present stage => exact fits.accepts present stage
  | settles handling present stage completes => exact fits.settles present stage completes
  | @reaped index execution entry listed unreaped present epoch =>
      refine fits.replaceExecution present rfl rfl ?_ rfl rfl (by simp) (fits.poller.congr rfl rfl)
      simp
  | published listed reaped =>
      exact fits.frame rfl rfl rfl rfl rfl (fits.poller.congr rfl rfl)

/-- The record of an accepted migration request. -/
def migrated (entry : ThreadEntry cluster) (targetHost : cluster.Host) : ThreadEntry cluster :=
  { entry with
    record :=
      { entry.record with
        migrationTarget := targetHost
        migrationEpoch := entry.record.migrationEpoch + 1
        migrationState := .requested } }

/-- A migration request is refused or touches one home entry. -/
theorem requestMigration_cases {id : GlobalThreadId cluster} {targetHost : cluster.Host}
    {effect : ThreadEffect cluster}
    (performed : host.act limits localHost (.requestMigration id targetHost) = some effect) :
    effect = host.quietly ∨ ∃ entry, host.threads.find localHost id = some entry ∧
      entry.record.state = .running ∧ entry.record.migrationState = .pinned ∧
      effect = (host.putThread id.localTid (migrated entry targetHost)).quietly := by
  obtain rfl := Option.some.inj performed
  cases there : host.threads.find localHost id with
  | none => exact .inl (by simp [ThreadManager.transactAs, there])
  | some entry =>
      by_cases refused : entry.record.state ≠ .running ∨ entry.record.migrationState ≠ .pinned
      · exact .inl (by simp only [ThreadManager.transactAs, there, ThreadEntry.requestMigration,
          if_pos refused, quietly])
      · have accepted : entry.record.state = .running ∧ entry.record.migrationState = .pinned := by
          simpa [not_or] using refused
        refine .inr ⟨entry, rfl, accepted.1, accepted.2, ?_⟩
        simp only [ThreadManager.transactAs, there, ThreadEntry.requestMigration, if_neg refused,
          quietly, putThread, migrated]

theorem Fits.migrated {id : GlobalThreadId cluster} {targetHost : cluster.Host}
    {entry : ThreadEntry cluster} (fits : host.Fits limits localHost)
    (present : host.threads.find localHost id = some entry) :
    (host.putThread id.localTid (migrated entry targetHost)).Fits limits localHost := by
  obtain ⟨-, recorded⟩ := find_some present
  have old := fits.entry recorded
  exact fits.touch recorded rfl rfl old.state old.attached

/-- The entry of an admitted execution. -/
def hosted (localHost : cluster.Host) (functionId : UInt64) (argBytes : List UInt8) :
    ThreadEntry cluster :=
  (launched localHost functionId argBytes).goto .reserved

/-- Everything that the arrival of a message can do. -/
inductive Arrival (limits : ThreadLimits) (localHost : cluster.Host) (host : ThreadHost cluster)
    (message : ThreadMessage cluster) : ThreadEffect cluster → Prop
  /-- A request from a foreign home or for an execution already there. -/
  | duplicate {function : UInt64} {arguments : List UInt8} {clusterFunction : Bool}
      (request : message.body = .createReq function arguments clusterFunction)
      (known : message.id.homeHost ≠ message.source ∨
        ∃ existing ∈ host.remoteExecutions, existing.home = message.id) :
      Arrival limits localHost host message host.quietly
  /-- A refused request. -/
  | declined {function : UInt64} {arguments : List UInt8} {clusterFunction : Bool} {exitCode : Int}
      (request : message.body = .createReq function arguments clusterFunction) :
      Arrival limits localHost host message (host.decline localHost message.id exitCode)
  | admitted {function : UInt64} {arguments : List UInt8} {clusterFunction : Bool}
      (request : message.body = .createReq function arguments clusterFunction)
      (room : host.saturated limits = false) :
      Arrival limits localHost host message (quietly
        { host with
          executions :=
            { nextTid := host.executions.nextTid + 1
              records := Function.update host.executions.records host.executions.nextTid
                (some (hosted localHost function arguments)) }
          localRunning := host.localRunning + 1
          handling := .launching message.id host.executions.nextTid })
  /-- An acknowledgement without effect. -/
  | ignored (request : message.body = .createAck) :
    Arrival limits localHost host message host.quietly
  | acknowledges {entry : ThreadEntry cluster} (request : message.body = .createAck)
      (present : host.threads.find localHost message.id = some entry) :
      Arrival limits localHost host message
        (quietly { host with handling := .acknowledged message.id })
  | missed {completion : Completion} {migrationEpoch : Nat}
      (request : message.body = .completeNotify completion migrationEpoch)
      (mismatch : ∀ entry, host.threads.find localHost message.id = some entry →
        entry.record.executionHost ≠ message.source ∨
          entry.record.migrationEpoch ≠ migrationEpoch ∨ entry.record.state = .completed) :
      Arrival limits localHost host message ⟨host, [], [.handled message.id]⟩
  | finds {completion : Completion} {migrationEpoch : Nat} {entry : ThreadEntry cluster}
      (request : message.body = .completeNotify completion migrationEpoch)
      (present : host.threads.find localHost message.id = some entry) :
      Arrival limits localHost host message
        (quietly { host with handling := .found message.id completion })

theorem receive_cases {message : ThreadMessage cluster} {resolved : Bool}
    {effect : ThreadEffect cluster}
    (performed : host.receive limits localHost message resolved = some effect) :
    host.handling = .idle ∧ Arrival limits localHost host message effect := by
  obtain ⟨idle, performed⟩ := Option.ite_none_right_eq_some.mp performed
  refine ⟨idle, ?_⟩
  cases request : message.body with
  | createReq function arguments clusterFunction =>
      simp only [request] at performed
      obtain rfl := Option.some.inj performed
      rw [receiveCreate]
      split_ifs with foreign existing unresolved full
      · exact .duplicate request (.inl foreign)
      · obtain ⟨existing, listed, same⟩ := List.any_eq_true.mp existing
        exact .duplicate request (.inr ⟨existing, listed, of_decide_eq_true same⟩)
      · exact .declined request
      · exact .declined request
      · have executions_eq : (ThreadManager.put (ThreadManager.transact
            (host.executions.allocateThread localHost function arguments).2 localHost ⟨localHost,
              (host.executions.allocateThread localHost function arguments).1⟩
              ThreadEntry.markLaunching).2
            (host.executions.allocateThread localHost function arguments).1
            (((ThreadManager.transact (host.executions.allocateThread localHost function
              arguments).2 localHost ⟨localHost, (host.executions.allocateThread localHost function
                arguments).1⟩ ThreadEntry.markLaunching).2.records
                  (host.executions.allocateThread localHost function arguments).1).map
                    (·.goto .reserved))) =
            { nextTid := host.executions.nextTid + 1
              records := Function.update host.executions.records host.executions.nextTid
                (some (hosted localHost function arguments)) } := by
          simp [ThreadManager.transact, ThreadManager.transactAs, ThreadManager.find,
            ThreadManager.allocateThread,
            ThreadEntry.markLaunching, ThreadEntry.allocate, ThreadManager.put, launched, hosted]
        simp only [executions_eq]
        exact .admitted request (by simpa using full)
  | createAck =>
      simp only [request] at performed
      obtain rfl := Option.some.inj performed
      rw [receiveAck]
      cases there : host.threads.find localHost message.id with
      | none => exact .ignored request
      | some entry =>
          simp only
          split_ifs
          · exact .ignored request
          · exact .ignored request
          · exact .acknowledges request there
  | completeNotify completion migrationEpoch =>
      simp only [request] at performed
      obtain rfl := Option.some.inj performed
      rw [receiveComplete]
      cases there : host.threads.find localHost message.id with
      | none => exact .missed request (by simp [there])
      | some entry =>
          simp only
          split_ifs with place epoch completed
          · refine .missed request fun other found => ?_
            obtain rfl := Option.some.inj (there.symm.trans found)
            exact .inl place
          · refine .missed request fun other found => ?_
            obtain rfl := Option.some.inj (there.symm.trans found)
            exact .inr (.inl epoch)
          · refine .missed request fun other found => ?_
            obtain rfl := Option.some.inj (there.symm.trans found)
            exact .inr (.inr completed)
          · exact .finds request there

theorem Fits.admitted {message : ThreadMessage cluster} {function : UInt64} {arguments : List UInt8}
    (fits : host.Fits limits localHost) (room : host.saturated limits = false) :
    ({ host with
      executions :=
        { nextTid := host.executions.nextTid + 1
          records := Function.update host.executions.records host.executions.nextTid
            (some (hosted localHost function arguments)) }
      localRunning := host.localRunning + 1
      handling := .launching message.id host.executions.nextTid } : ThreadHost cluster).Fits limits
        localHost := by
  obtain ⟨accounts, entries, -⟩ := fits
  refine ⟨⟨?_, accounts.pending, not_saturated room, accounts.pending_le⟩,
    ⟨entries.threads_fresh, ?_, entries.threads, ?_, entries.room⟩,
    poller_of_not_found (by simp) (by simp) (by simp)⟩
  · have before := accounts.running
    simp only [ThreadHost.admitted, inHand, Census.count_push, Census.weight_some,
      Bool.toNat_true] at before ⊢
    omega
  · intro tid outside
    have different : tid ≠ host.executions.nextTid := Nat.ne_of_gt outside
    exact (Function.update_of_ne different _ _).trans
      (entries.executions_fresh tid (Nat.le_of_succ_le outside))
  · intro tid entry present
    simp only [Function.update_apply] at present
    split at present
    case isTrue =>
      obtain rfl := Option.some.inj present
      exact ⟨rfl, rfl⟩
    case isFalse => exact entries.executions tid entry present

/-- An arrival leaves the home records alone. -/
theorem Arrival.threads_eq {message : ThreadMessage cluster} {effect : ThreadEffect cluster}
    (arrival : Arrival limits localHost host message effect) :
    effect.host.threads = host.threads := by
  cases arrival <;> rfl

/-- The host fits after every arrival, if what arrives is about a dispatched record. -/
theorem Arrival.fits {message : ThreadMessage cluster} {effect : ThreadEffect cluster}
    (arrival : Arrival limits localHost host message effect) (fits : host.Fits limits localHost)
    (acknowledges : message.body = .createAck →
      ∀ entry, host.threads.find localHost message.id = some entry →
        entry.stage.pastDispatch = true)
    (completes : ∀ completion migrationEpoch,
      message.body = .completeNotify completion migrationEpoch →
        ∀ entry, host.threads.find localHost message.id = some entry →
          entry.stage = .dispatched) : effect.host.Fits limits localHost := by
  cases arrival with
  | duplicate | declined => exact fits
  | admitted request room => exact fits.admitted room
  | ignored => exact fits
  | acknowledges request present =>
      refine fits.frame rfl rfl rfl rfl rfl ⟨by simp, by simp, fun id handling => ?_⟩
      obtain rfl : message.id = id := by simpa using handling
      refine ⟨?_, acknowledges request⟩
      exact fits.entries.tid_lt (find_some present).2
  | missed => exact fits
  | @finds completion migrationEpoch entry request present =>
      refine fits.frame rfl rfl rfl rfl rfl ⟨fun id other handling => ?_, by simp, by simp⟩
      obtain ⟨rfl, -⟩ : message.id = id ∧ completion = other := by simpa using handling
      exact ⟨entry, present, completes _ _ request entry present⟩

end ThreadHost
end Cxloom.LoomPar
