import Cxloom.LoomMem.AllocatorStorage
import Cxloom.LoomMem.Bootstrap
import Cxloom.LoomMem.QueueConsistency
import Mathlib.Data.Fintype.Card

/-!
# The invariant of a bootstrap session

Before the header is published, the region is as far as the owner has come, and everybody else
depends on nothing.  Afterwards the region stays complete, whatever the processes do to it, and a
process that has registered is the only one of its host.
-/

namespace Cxloom.LoomMem

open QueueRegion PairTable

/-! ## The queues while they are used -/

namespace QueueRegion.QueueLayout

variable {layout : QueueLayout} {memory : Memory} {pair pair' : Nat × Nat} {cell : Nat}
  {byte : UInt8}

theorem IdentityField.position_add_size_le_line (field : IdentityField) :
    field.position + field.size ≤ 64 := by
  cases field <;> decide

/-- A store behind the identity of a queue keeps all identities. -/
theorem Recorded.transfer (recorded : layout.Recorded memory pair')
    (member : pair ∈ pairs layout.hostCount) (member' : pair' ∈ pairs layout.hostCount)
    (low : layout.queue pair + 64 ≤ cell) (high : cell < layout.queue pair + layout.stride) :
    layout.Recorded (Function.update memory cell byte) pair' := by
  intro field
  rw [← recorded field]
  have inside := IdentityField.position_add_size_le_line field
  have line : 64 ≤ layout.stride := le_trans (by decide) (Nat.le_add_right _ _)
  refine Memory.load_congr fun other _ above => Function.update_of_ne ?_ ..
  rintro rfl
  by_cases same : pair' = pair
  · rw [same] at above
    omega
  · have apart := queue_apart member member' same
    omega

/-- A formatted region stays formatted while its queues are used. -/
theorem Formatted.transfer (formatted : layout.Formatted memory)
    (member : pair ∈ pairs layout.hostCount) (low : layout.queue pair + 64 ≤ cell)
    (high : cell < layout.queue pair + layout.stride) :
    layout.Formatted (Function.update memory cell byte) := by
  refine ⟨fun field => ?_, fun pair' member' =>
    (formatted.recorded pair' member').transfer member member' low high⟩
  rw [← formatted.described field]
  have inside := field.position_add_size_le
  refine Memory.load_congr fun other _ above => Function.update_of_ne ?_ ..
  rintro rfl
  simp only [queue] at low
  omega

/-- A region is formatted for one number of hosts and one capacity. -/
theorem Formatted.eq_of_formatted {other : QueueLayout} (formatted : layout.Formatted memory)
    (formatted' : other.Formatted memory) : layout = other := by
  have hosts := (formatted.described .hostCount).symm.trans (formatted'.described .hostCount)
  have capacity :=
    (formatted.described .capacityEntries).symm.trans (formatted'.described .capacityEntries)
  cases layout
  cases other
  simp only [header] at hosts capacity
  simp only [hosts, capacity]

end QueueRegion.QueueLayout

/-! ## What the owner leaves behind -/

namespace SharedRegion

variable {setup setup' : Setup} {region : SharedRegion}

/-- The header describes the region of a process. -/
structure Described (setup : Setup) (region : SharedRegion) : Prop where
  magic : region.header.magic = kBootstrapMagic
  layoutVersion : region.header.layoutVersion = kBootstrapLayoutVersion
  headerBytes : region.header.headerBytes = sizeofBootstrapHeader
  regionBytes : region.header.regionBytes = setup.regionBytes
  hostCount : region.header.hostCount = setup.hostCount
  layout : region.header.layout = setup.layout

/-- The allocator manages the data region of a process. -/
structure Pooled (setup : Setup) (region : SharedRegion) : Prop where
  header : region.allocatorHeader = ⟨kAllocatorMagic, kAllocatorLayoutVersion,
    sizeofAllocatorHeader, .ready, setup.layout.sharedData.offset, setup.layout.sharedData.bytes⟩
  /-- The allocator has been formatted and used. -/
  reachable : Allocator.Reachable setup.allocatorLayout region.allocator

def Tabled (setup : Setup) (region : SharedRegion) : Prop :=
  region.coherenceHeader = ⟨kCoherenceRegionMagic, kCoherenceRegionLayoutVersion,
    sizeofCoherenceRegionHeader, setup.layout.coherence.offset, setup.layout.coherence.bytes⟩

/-- The queues of a process. -/
structure Queued (setup : Setup) (region : SharedRegion) (layout : QueueLayout) : Prop where
  hostCount : layout.hostCount = setup.hostCount
  capacityEntries : layout.capacityEntries = setup.capacityEntries
  /-- They fit their part of the region. -/
  room : layout.bytes ≤ setup.layout.queues.bytes
  formatted : layout.Formatted region.queues

/-- Everything that a region has when the owner publishes it. -/
structure Complete (setup : Setup) (region : SharedRegion) : Prop where
  described : Described setup region
  /-- The allocator manages the data region. -/
  pooled : Pooled setup region
  /-- The coherence region has its header. -/
  tabled : Tabled setup region
  queued : ∃ layout, Queued setup region layout

theorem validateBootstrap_isOk :
    (region.validateBootstrap setup).isOk = true ↔ region.header.magic = kBootstrapMagic ∧
      region.header.layoutVersion = kBootstrapLayoutVersion ∧
      region.header.headerBytes = sizeofBootstrapHeader ∧
      region.header.regionBytes = setup.regionBytes ∧ region.header.hostCount = setup.hostCount ∧
      region.header.layout = setup.layout := by
  rw [validateBootstrap]
  split_ifs with header config layout
  · simp only [Status.isOk_failedPrecondition, Bool.false_eq_true, false_iff]
    tauto
  · simp only [Status.isOk_failedPrecondition, Bool.false_eq_true, false_iff]
    tauto
  · simp only [Status.isOk_failedPrecondition, Bool.false_eq_true, false_iff]
    tauto
  · simp only [Status.isOk_ok, true_iff]
    tauto

/-- `ValidateBootstrap` accepts what describes the region of the process. -/
theorem described_iff : Described setup region ↔ (region.validateBootstrap setup).isOk = true := by
  rw [validateBootstrap_isOk]
  exact ⟨fun ⟨magic, version, bytes, region, hosts, layout⟩ =>
      ⟨magic, version, bytes, region, hosts, layout⟩,
    fun ⟨magic, version, bytes, region, hosts, layout⟩ =>
      ⟨magic, version, bytes, region, hosts, layout⟩⟩

theorem Described.of_header (described : Described setup region) {after : SharedRegion}
    (same : after.header = region.header) : Described setup after := by
  obtain ⟨magic, version, bytes, region, hosts, layout⟩ := described
  rw [← same] at magic version bytes region hosts layout
  exact ⟨magic, version, bytes, region, hosts, layout⟩

theorem Described.congr (described : Described setup region)
    (described' : Described setup' region) :
    setup.regionBytes = setup'.regionBytes ∧ setup.hostCount = setup'.hostCount :=
  ⟨described.regionBytes.symm.trans described'.regionBytes,
    described.hostCount.symm.trans described'.hostCount⟩

theorem allocatorLayout_congr (same : setup.regionBytes = setup'.regionBytes) :
    setup.allocatorLayout = setup'.allocatorLayout := by
  simp only [Setup.allocatorLayout, Setup.layout, same]

theorem Pooled.congr (pooled : Pooled setup region)
    (same : setup.regionBytes = setup'.regionBytes) : Pooled setup' region := by
  refine ⟨pooled.header.trans ?_, allocatorLayout_congr same ▸ pooled.reachable⟩
  simp only [Setup.layout, same]

theorem Tabled.congr (tabled : Tabled setup region)
    (same : setup.regionBytes = setup'.regionBytes) : Tabled setup' region := by
  refine Eq.trans tabled ?_
  simp only [Setup.layout, same]

/-- `ValidateSharedQueueRegion` accepts the capacity that the queues were formatted for. -/
theorem validateQueues_isOk {layout : QueueLayout} (queued : Queued setup region layout)
    (described : Described setup region) (described' : Described setup' region) :
    (region.validateQueues setup').isOk = true ↔
      setup'.capacityEntries = setup.capacityEntries := by
  obtain ⟨bytes, hosts⟩ := described.congr described'
  have room : layout.bytes ≤ setup'.layout.queues.bytes := queued.room
  by_cases same : setup'.capacityEntries = setup.capacityEntries
  · refine iff_of_true ?_ same
    rw [validateQueues, same, ← hosts, ← queued.hostCount, ← queued.capacityEntries,
      queued.formatted.validate_eq room]
    rfl
  · refine iff_of_false ?_ same
    rw [validateQueues, queued.formatted.described.refused]
    · exact Bool.false_ne_true
    · intro equal
      rw [queued.capacityEntries] at equal
      exact same (Prod.mk.inj equal).2

theorem Queued.congr {layout : QueueLayout} (queued : Queued setup region layout)
    (hosts : setup.hostCount = setup'.hostCount)
    (capacity : setup'.capacityEntries = setup.capacityEntries) : Queued setup' region layout :=
  ⟨queued.hostCount.trans hosts, queued.capacityEntries.trans capacity.symm, queued.room,
    queued.formatted⟩

theorem headMissing_iff (pooled : Pooled setup region) (pool : ExtentPool) :
    region.headMissing pool = true ↔ region.allocator.extents.freeExtents pool = [] := by
  have ledger := pooled.reachable.ledger
  obtain ⟨lists, unused, represents, extents⟩ := ledger.manages.represents
  have head := (represents.threaded.chain pool).head_eq
  rw [headMissing, head, ← extents pool, List.map_eq_nil_iff]
  cases named : lists pool with
  | nil => exact iff_of_true rfl rfl
  | cons index rest =>
      have inside : index < region.allocator.extents.extentNodeCapacity :=
        represents.threaded.lt_capacity (ExtentHeader.Threaded.mem_nodesOf.mpr
          (.inl ⟨pool, named ▸ List.mem_cons_self⟩))
      rw [ledger.capacity] at inside
      exact iff_of_false (fun missing => Nat.not_le.mpr inside (of_decide_eq_true missing))
        (List.cons_ne_nil _ _)

/-- `SharedExtentAllocator::Initialize` accepts the allocator while both pools have free extents. -/
theorem initializeAllocator_isOk (pooled : Pooled setup region) (tabled : Tabled setup region) :
    (region.initializeAllocator setup).isOk = true ↔
      ∀ pool, region.allocator.extents.freeExtents pool ≠ [] := by
  have within : setup.layout.sharedData.offset + setup.layout.sharedData.bytes ≤
      setup.regionBytes := setup.allocatorLayout.data_le
  have coherence : setup.layout.coherence.offset + setup.layout.coherence.bytes ≤
      setup.layout.sharedData.offset := setup.allocatorLayout.coherence_le
  have capacity : region.allocator.extents.extentNodeCapacity = kMaxSharedExtentNodes :=
    pooled.reachable.ledger.capacity
  rw [initializeAllocator, pooled.header, show region.coherenceHeader = _ from tabled]
  rw [if_neg (by simp), if_neg (by simp), if_neg (by simp; omega), if_neg (by simp; omega)]
  simp only [capacity, ne_eq, not_true, false_or, headMissing_iff pooled]
  split
  · rename_i missing
    refine iff_of_false (by simp) fun free => ?_
    exact missing.elim (free .data) (free .coherence)
  · rename_i present
    refine iff_of_true rfl fun pool => ?_
    cases pool with
    | data => exact fun empty => present (.inl empty)
    | coherence => exact fun empty => present (.inr empty)

/-! ## Formatting -/

theorem formatAllocator_header : (region.formatAllocator setup).2.header = region.header := by
  rw [formatAllocator]
  split
  · rfl
  · cases Allocator.formatSharedAllocator setup.allocatorLayout region.allocator.memory <;> rfl

theorem formatAllocator_pooled (formatted : (region.formatAllocator setup).1.isOk = true) :
    Pooled setup (region.formatAllocator setup).2 := by
  rw [formatAllocator] at formatted ⊢
  split at formatted
  · cases formatted
  · rename_i room
    rw [if_neg room]
    cases outcome : Allocator.formatSharedAllocator setup.allocatorLayout
      region.allocator.memory with
    | error status =>
        rw [outcome] at formatted
        rw [Allocator.formatSharedAllocator] at outcome
        split at outcome
        · rw [← Except.error.inj outcome] at formatted
          cases formatted
        · cases outcome
    | ok allocator => exact ⟨rfl, region.allocator.memory, allocator, outcome, .refl⟩

theorem formatCoherenceRegion_eq : region.formatCoherenceRegion setup =
    (.ok, { region with
      coherenceHeader := ⟨kCoherenceRegionMagic, kCoherenceRegionLayoutVersion,
        sizeofCoherenceRegionHeader, setup.layout.coherence.offset,
        setup.layout.coherence.bytes⟩ }) :=
  if_neg (Nat.not_lt.mpr (Nat.le_of_ble_eq_true rfl))

theorem formatQueues_queued (formatted : (region.formatQueues setup).1.isOk = true) :
    ∃ layout, Queued setup (region.formatQueues setup).2 layout := by
  obtain ⟨memory, known, layout, hosts, capacity, room⟩ := exists_layout_of_format formatted
  obtain rfl := Option.some.inj known
  obtain ⟨after, done, complete⟩ := layout.formatSharedQueueRegion_ok region.queues room
  refine ⟨layout, hosts, capacity, room, ?_⟩
  rw [hosts, capacity] at done
  rw [formatQueues, done]
  exact complete

end SharedRegion

/-! ## Where the processes stand -/

namespace BootstrapPoint

def setup? : BootstrapPoint → Option Setup
  | running setup _ | initialized setup _ => some setup
  | idle | failed _ => none

/-- The setup of a process that has registered its host. -/
def registered? : BootstrapPoint → Option Setup
  | running setup .count | running setup .locate | initialized setup _ => some setup
  | _ => none

/-- Whether a process has counted its host. -/
def counted : BootstrapPoint → Bool
  | running _ .locate | initialized _ _ => true
  | _ => false

end BootstrapPoint

namespace SharedRegion

/-- The owner is at work. -/
structure Building (setup : Setup) (region : SharedRegion) : Prop where
  owner : setup.bootstrapOwner = true
  unready : region.header.state ≠ .ready

/-- No host is registered. -/
structure Unregistered (region : SharedRegion) : Prop where
  hosts : ∀ host, (region.header.hosts host).state = .empty
  /-- Nothing is counted. -/
  joinedHosts : region.header.joinedHosts = 0

/-- A process that agrees with the region about the queues. -/
structure Agreed (setup : Setup) (region : SharedRegion) : Prop where
  ready : region.header.state = .ready
  described : Described setup region
  queued : ∃ layout, Queued setup region layout

/-- A process that has a host of its own. -/
structure Joined (setup : Setup) (region : SharedRegion) : Prop extends Agreed setup region where
  registered : (region.header.hosts setup.localHostId).state ≠ .empty

/-- What holds before a step of `Initialize`. -/
def Standing (setup : Setup) (region : SharedRegion) : InitializeStage → Prop
  | .clearHeader => Building setup region
  | .describe => Building setup region ∧ Unregistered region
  | .formatAllocator => Building setup region ∧ Unregistered region ∧ Described setup region
  | .formatCoherence =>
      Building setup region ∧ Unregistered region ∧ Described setup region ∧ Pooled setup region
  | .formatQueues =>
      Building setup region ∧ Unregistered region ∧ Described setup region ∧
        Pooled setup region ∧ Tabled setup region
  | .publish => Building setup region ∧ Unregistered region ∧ Complete setup region
  | .giveUp status => Building setup region ∧ status.isOk = false
  | .poll => setup.bootstrapOwner = false
  | .validateBootstrap => setup.bootstrapOwner = false ∧ region.header.state = .ready
  | .validateQueues => region.header.state = .ready ∧ Described setup region
  | .initializeAllocator | .register => Agreed setup region
  | .count | .locate => Joined setup region

/-- The queue of each pair is where the layout puts it. -/
def Located (setup : Setup) (layout : QueueLayout)
    (queues : List (List (Option SharedQueueStorage))) : Prop :=
  ∀ producer consumer, BootstrapSession.queueOf queues producer consumer =
    if producer < setup.hostCount ∧ consumer < setup.hostCount ∧ producer ≠ consumer then
      some ⟨layout.queue (producer, consumer),
        layout.queue (producer, consumer) + sizeofSharedSpscQueueHeader⟩
    else none

/-- What holds where a process stands. -/
def Stands (region : SharedRegion) : BootstrapPoint → Prop
  | .idle | .failed _ => True
  | .running setup stage => Standing setup region stage
  | .initialized setup queues =>
      Joined setup region ∧ ∀ layout, Queued setup region layout → Located setup layout queues

/-- What processes do to a published region. -/
structure Later (before after : SharedRegion) : Prop where
  /-- The region stays published. -/
  state : after.header.state = before.header.state
  /-- The header describes the same region. -/
  described : ∀ setup, Described setup before → Described setup after
  /-- The allocator is used. -/
  pooled : ∀ setup, Described setup before → Pooled setup before → Pooled setup after
  tabled : after.coherenceHeader = before.coherenceHeader
  queued : ∀ setup layout, Queued setup before layout → Queued setup after layout
  registered : ∀ host, (before.header.hosts host).state ≠ .empty →
    (after.header.hosts host).state ≠ .empty

variable {setup setup' : Setup} {region before after : SharedRegion} {point : BootstrapPoint}

theorem Later.refl (region : SharedRegion) : Later region region :=
  ⟨rfl, fun _ => id, fun _ _ => id, rfl, fun _ _ => id, fun _ => id⟩

theorem later_setHost (region : SharedRegion) (host : Nat) (registration : HostRegistration)
    (present : registration.state ≠ .empty) : Later region (region.setHost host registration) := by
  refine ⟨rfl, fun _ described => ⟨described.magic, described.layoutVersion,
    described.headerBytes, described.regionBytes, described.hostCount, described.layout⟩,
    fun _ _ pooled => ⟨pooled.header, pooled.reachable⟩, rfl, fun _ _ queued =>
      ⟨queued.hostCount, queued.capacityEntries, queued.room, queued.formatted⟩,
    fun other there => ?_⟩
  show (Function.update region.header.hosts host registration other).state ≠ .empty
  rw [Function.update_apply]
  split
  · exact present
  · exact there

theorem Later.complete (later : Later before after) (complete : Complete setup before) :
    Complete setup after :=
  ⟨later.described setup complete.described,
    later.pooled setup complete.described complete.pooled, later.tabled.trans complete.tabled,
    complete.queued.imp fun layout => later.queued setup layout⟩

theorem Later.agreed (later : Later before after) (agreed : Agreed setup before) :
    Agreed setup after :=
  ⟨later.state.trans agreed.ready, later.described setup agreed.described,
    agreed.queued.imp fun layout => later.queued setup layout⟩

theorem Later.joined (later : Later before after) (joined : Joined setup before) :
    Joined setup after :=
  ⟨later.agreed joined.toAgreed, later.registered _ joined.registered⟩

theorem Queued.layout_eq {layout layout' : QueueLayout}
    (queued : Queued setup before layout) (queued' : Queued setup after layout') :
    layout = layout' := by
  have hosts := queued.hostCount.trans queued'.hostCount.symm
  have capacity := queued.capacityEntries.trans queued'.capacityEntries.symm
  cases layout
  cases layout'
  simp only at hosts capacity
  simp only [hosts, capacity]

theorem Later.stands (later : Later before after) (ready : before.header.state = .ready)
    (stands : Stands before point) : Stands after point := by
  have unready : ∀ setup, ¬Building setup before := fun setup building => building.unready ready
  cases point with
  | idle | failed => trivial
  | initialized setup queues =>
      refine ⟨later.joined stands.1, fun layout queued => ?_⟩
      obtain ⟨layout', queued'⟩ := stands.1.queued
      exact queued'.layout_eq queued ▸ stands.2 layout' queued'
  | running setup stage =>
      cases stage with
      | clearHeader => exact (unready setup stands).elim
      | describe | formatAllocator | formatCoherence | formatQueues | publish | giveUp =>
          exact (unready setup stands.1).elim
      | poll => exact stands
      | validateBootstrap => exact ⟨stands.1, later.state.trans ready⟩
      | validateQueues => exact ⟨later.state.trans ready, later.described setup stands.2⟩
      | initializeAllocator | register => exact later.agreed stands
      | count | locate => exact later.joined stands

/-- Whoever has registered has a host. -/
theorem Stands.joined (stands : Stands region point) (mine : point.registered? = some setup) :
    Joined setup region := by
  cases point with
  | idle | failed => cases mine
  | initialized setup' queues =>
      obtain rfl := Option.some.inj mine
      exact stands.1
  | running setup' stage =>
      cases stage with
      | count | locate =>
          obtain rfl := Option.some.inj mine
          exact stands
      | _ => cases mine

/-- Before a region is published, only the owner depends on it. -/
theorem Stands.of_unready (stands : Stands before point) (unready : before.header.state ≠ .ready)
    (attaching : ∀ setup, point.setup? = some setup → setup.bootstrapOwner = false) :
    Stands after point := by
  have building : ∀ setup, point.setup? = some setup → ¬Building setup before :=
    fun setup mine building =>
      Bool.false_ne_true ((attaching setup mine).symm.trans building.owner)
  cases point with
  | idle | failed => trivial
  | initialized setup queues => exact (unready stands.1.ready).elim
  | running setup stage =>
      cases stage with
      | clearHeader => exact (building setup rfl stands).elim
      | describe | formatAllocator | formatCoherence | formatQueues | publish | giveUp =>
          exact (building setup rfl stands.1).elim
      | poll => exact stands
      | validateBootstrap => exact (unready stands.2).elim
      | validateQueues => exact (unready stands.1).elim
      | initializeAllocator | register | count | locate => exact (unready stands.ready).elim

/-- Nobody has registered before the region is published. -/
theorem Stands.unregistered (stands : Stands region point)
    (unready : region.header.state ≠ .ready) :
    point.registered? = none ∧ point.counted = false := by
  cases point with
  | idle | failed => exact ⟨rfl, rfl⟩
  | initialized setup queues => exact (unready stands.1.ready).elim
  | running setup stage =>
      cases stage with
      | count | locate => exact (unready stands.ready).elim
      | _ => exact ⟨rfl, rfl⟩

end SharedRegion

/-! ## Locating the queues -/

/-- A loop in which no call fails. -/
theorem mapM_ok {α β : Type} {call : α → Except Status β} {value : α → β} {items : List α}
    (succeeds : ∀ item ∈ items, call item = .ok (value item)) :
    items.mapM call = .ok (items.map value) := by
  induction items with
  | nil => rfl
  | cons item rest induction =>
      rw [List.mapM_cons, succeeds item List.mem_cons_self,
        induction fun later member => succeeds later (List.mem_cons_of_mem item member)]
      rfl

namespace SharedRegion

/-- Every process finds the queues where the layout puts them. -/
theorem Queued.locateQueues {setup : Setup} {region : SharedRegion} {layout : QueueLayout}
    (queued : Queued setup region layout) :
    ∃ queues, region.locateQueues setup = .ok queues ∧ Located setup layout queues := by
  let storage (producer consumer : Nat) : Option SharedQueueStorage :=
    if producer = consumer then none
    else some ⟨layout.queue (producer, consumer),
      layout.queue (producer, consumer) + sizeofSharedSpscQueueHeader⟩
  refine ⟨(List.range setup.hostCount).map fun producer =>
    (List.range setup.hostCount).map (storage producer), ?_, fun producer consumer => ?_⟩
  · rw [SharedRegion.locateQueues]
    refine mapM_ok fun producer member => mapM_ok fun consumer member' => ?_
    simp only [storage]
    split
    · rfl
    · rename_i different
      have pair : (producer, consumer) ∈ pairs layout.hostCount := by
        rw [queued.hostCount]
        exact ⟨List.mem_range.mp member, List.mem_range.mp member', different⟩
      rw [queued.formatted.locate_eq queued.room pair]
      rfl
  · rw [BootstrapSession.queueOf, List.getElem?_map]
    by_cases known : producer < setup.hostCount
    · rw [List.getElem?_range known, Option.map_some, Option.bind_some, List.getElem?_map]
      by_cases known' : consumer < setup.hostCount
      · rw [List.getElem?_range known', Option.map_some, Option.join_some]
        simp only [storage]
        by_cases same : producer = consumer
        · rw [if_pos same, if_neg fun pair => pair.2.2 same]
        · rw [if_neg same, if_pos ⟨known, known', same⟩]
      · rw [List.getElem?_eq_none (by simpa using known'), if_neg fun pair => known' pair.2.1]
        rfl
    · rw [List.getElem?_eq_none (by simpa using known), if_neg fun pair => known pair.1]
      rfl

end SharedRegion

namespace CxloomConfig

variable {config : CxloomConfig} {setup : Setup}

theorem setup_eq (accepted : config.setup = .ok setup) :
    config.validate.isOk = true ∧ setup.localHostId = config.localHostId.toNat ∧
      setup.hostCount = config.hostCount.toNat ∧
      setup.regionBytes = config.sharedRegionBytes.toNat ∧
      setup.bootstrapOwner = config.bootstrapOwner := by
  rw [CxloomConfig.setup] at accepted
  split at accepted
  · rename_i valid
    split at accepted
    · simp only at accepted
      cases chosen : (if config.queueCapacityEntries = 0 then
          automaticQueueCapacity config.hostCount.toNat
            (buildDefaultLayout config.sharedRegionBytes.toNat).queues.bytes
        else .ok config.queueCapacityEntries.toNat : Except Status Nat) with
      | error status =>
          rw [chosen] at accepted
          cases accepted
      | ok capacity =>
          rw [chosen] at accepted
          rw [← Except.ok.inj accepted]
          exact ⟨valid, rfl, rfl, rfl, rfl⟩
    · cases accepted
  · cases accepted

end CxloomConfig

/-! ## The session -/

namespace BootstrapSession

open SharedRegion

variable {Process : Type} [DecidableEq Process] [Fintype Process]
  {config : Process → CxloomConfig} {session : BootstrapSession Process} {process : Process}

/-- What holds in every state of a session. -/
structure Sound (config : Process → CxloomConfig) (session : BootstrapSession Process) : Prop where
  setups : ∀ process setup, (session.points process).setup? = some setup →
    (config process).setup = .ok setup
  stands : ∀ process, session.toSharedRegion.Stands (session.points process)
  /-- A published region is complete, and its owner has been at work. -/
  published : session.header.state = .ready → ∃ process setup,
    (config process).setup = .ok setup ∧ setup.bootstrapOwner = true ∧
      session.points process ≠ .idle ∧ Complete setup session.toSharedRegion
  /-- No two processes have the same host. -/
  unique : ∀ process process' setup setup', (session.points process).registered? = some setup →
    (session.points process').registered? = some setup' →
    setup.localHostId = setup'.localHostId → process = process'
  /-- The counter is exact. -/
  joined : session.header.state = .ready → session.header.joinedHosts =
    (Finset.univ.filter fun process => (session.points process).counted = true).card
  /-- Only initialized processes publish probes. -/
  probed : session.header.state = .ready → ∀ host,
    HostRegistrationState.probeReady.code ≤ (session.header.hosts host).state.code →
    ∃ process setup queues, session.points process = .initialized setup queues ∧
      setup.localHostId = host
  /-- What a process has seen in `WaitForAllHosts` stays so. -/
  awaited : ∀ process, session.awaited process ≠ 0 → ∃ setup queues,
    session.points process = .initialized setup queues ∧
      session.awaited process ≤ setup.hostCount ∧ ∀ host < session.awaited process,
        HostRegistrationState.probeReady.code ≤ (session.header.hosts host).state.code

/-- Only one process formats the region. -/
def SingleOwner (config : Process → CxloomConfig) : Prop :=
  ∀ process process', (config process).bootstrapOwner = true →
    (config process').bootstrapOwner = true → process = process'

omit [Fintype Process] in
theorem points_goto (session : BootstrapSession Process) (process other : Process)
    (point : BootstrapPoint) : (session.goto process point).points other =
      if other = process then point else session.points other :=
  Function.update_apply ..

variable {setup : Setup} {after : SharedRegion} {point : BootstrapPoint}

omit [Fintype Process] in
theorem goto_self (session : BootstrapSession Process) (after : SharedRegion) (process : Process) :
    (session.setRegion after).goto process (session.points process) = session.setRegion after := by
  rw [goto, show Function.update (session.setRegion after).points process
    (session.points process) = (session.setRegion after).points from Function.update_eq_self ..]

omit [DecidableEq Process] [Fintype Process] in
theorem SingleOwner.eq (single : SingleOwner config) {process process' : Process}
    {setup setup' : Setup} (accepted : (config process).setup = .ok setup)
    (owner : setup.bootstrapOwner = true) (accepted' : (config process').setup = .ok setup')
    (owner' : setup'.bootstrapOwner = true) : process = process' :=
  single process process'
    ((CxloomConfig.setup_eq accepted).2.2.2.2.symm.trans owner)
    ((CxloomConfig.setup_eq accepted').2.2.2.2.symm.trans owner')

namespace Sound

/-- The hosts of processes that have registered are different ones, so there are few of them. -/
theorem registered_card_le (sound : Sound config session) {bound : Nat} (selected : Finset Process)
    (registered : ∀ process ∈ selected, ∃ setup,
      (session.points process).registered? = some setup ∧ setup.localHostId < bound) :
    selected.card ≤ bound := by
  have host : ∀ process : Process, ∃ host, process ∈ selected → host < bound ∧ ∃ setup,
      (session.points process).registered? = some setup ∧ setup.localHostId = host := by
    intro process
    by_cases member : process ∈ selected
    · obtain ⟨setup, mine, below⟩ := registered process member
      exact ⟨setup.localHostId, fun _ => ⟨below, setup, mine, rfl⟩⟩
    · exact ⟨0, fun there => (member there).elim⟩
  choose hostOf chosen using host
  rw [← Finset.card_range bound]
  refine Finset.card_le_card_of_injOn hostOf
    (fun process member => Finset.mem_coe.mpr (Finset.mem_range.mpr (chosen process member).1)) ?_
  intro process member process' member' same
  obtain ⟨-, setup, mine, named⟩ := chosen process member
  obtain ⟨-, setup', yours, named'⟩ := chosen process' member'
  exact sound.unique process process' setup setup' mine yours (by rw [named, named', same])

/-- The owner changes a region that is not published. -/
theorem build (sound : Sound config session) (single : SingleOwner config)
    (accepted : (config process).setup = .ok setup) (owner : setup.bootstrapOwner = true)
    (unready : session.header.state ≠ .ready) (unready' : after.header.state ≠ .ready)
    (stands : after.Stands point) (known : ∀ setup', point.setup? = some setup' → setup' = setup) :
    Sound config ((session.setRegion after).goto process point) := by
  have standing : ∀ other, after.Stands
      (((session.setRegion after).goto process point).points other) := by
    intro other
    rw [points_goto]
    split
    · exact stands
    · rename_i different
      refine (sound.stands other).of_unready unready fun setup' theirs => ?_
      by_contra claimed
      exact different (single.eq (sound.setups other setup' theirs)
        (Bool.not_eq_false _ ▸ claimed) accepted owner)
  refine ⟨fun other setup' theirs => ?_, standing, fun ready => (unready' ready).elim,
    fun other _ setup' _ registered => ?_, fun ready => (unready' ready).elim,
    fun ready => (unready' ready).elim, fun other some => ?_⟩
  · rw [points_goto] at theirs
    split at theirs
    · rename_i same
      rw [known setup' theirs, same, accepted]
    · exact sound.setups other setup' theirs
  · rw [((standing other).unregistered unready').1] at registered
    cases registered
  · obtain ⟨setup', queues, initialized, -⟩ := sound.awaited other some
    have agreed := sound.stands other
    rw [initialized] at agreed
    exact (unready agreed.1.ready).elim

/-- A process goes on without changing the registrations. -/
theorem advance (sound : Sound config session) (later : Later session.toSharedRegion after)
    (others : ∀ other, session.toSharedRegion.Stands (session.points other) →
      after.Stands (session.points other))
    (hosts : after.header.hosts = session.header.hosts)
    (joinedHosts : after.header.joinedHosts = session.header.joinedHosts)
    (setups : ∀ setup, point.setup? = some setup → (config process).setup = .ok setup)
    (stands : after.Stands point)
    (registered : point.registered? = (session.points process).registered?)
    (counted : point.counted = (session.points process).counted) (awake : point ≠ .idle)
    (kept : ∀ setup queues, session.points process = .initialized setup queues →
      point = .initialized setup queues) :
    Sound config ((session.setRegion after).goto process point) := by
  have registered' : ∀ other, (((session.setRegion after).goto process point).points
      other).registered? = (session.points other).registered? := fun other => by
    rw [points_goto]
    split
    · rename_i same
      rw [registered, same]
    · rfl
  have counted' : ∀ other, (((session.setRegion after).goto process point).points
      other).counted = (session.points other).counted := fun other => by
    rw [points_goto]
    split
    · rename_i same
      rw [counted, same]
    · rfl
  have kept' : ∀ other setup queues, session.points other = .initialized setup queues →
      ((session.setRegion after).goto process point).points other =
        .initialized setup queues := fun other setup queues initialized => by
    rw [points_goto]
    split
    · rename_i same
      exact kept setup queues (same ▸ initialized)
    · exact initialized
  refine ⟨fun other setup theirs => ?_, fun other => ?_, fun ready => ?_,
    fun other other' setup setup' mine theirs => ?_, fun ready => ?_, fun ready host probed => ?_,
    fun other some => ?_⟩
  · rw [points_goto] at theirs
    split at theirs
    · rename_i same
      exact same ▸ setups setup theirs
    · exact sound.setups other setup theirs
  · rw [points_goto]
    split
    · exact stands
    · exact others other (sound.stands other)
  · obtain ⟨other, setup, accepted, owner, started, complete⟩ :=
      sound.published (later.state.symm.trans ready)
    refine ⟨other, setup, accepted, owner, ?_, later.complete complete⟩
    rw [points_goto]
    split
    · exact awake
    · exact started
  · rw [registered'] at mine theirs
    exact sound.unique other other' setup setup' mine theirs
  · simp only [counted']
    exact joinedHosts.trans (sound.joined (later.state.symm.trans ready))
  · obtain ⟨other, setup, queues, initialized, named⟩ :=
      sound.probed (later.state.symm.trans ready) host (hosts ▸ probed)
    exact ⟨other, setup, queues, kept' other setup queues initialized, named⟩
  · obtain ⟨setup, queues, initialized, bound, seen⟩ := sound.awaited other some
    exact ⟨setup, queues, kept' other setup queues initialized, bound,
      fun host below => hosts ▸ seen host below⟩

theorem publish (sound : Sound config session) (single : SingleOwner config)
    (accepted : (config process).setup = .ok setup)
    (building : Building setup session.toSharedRegion)
    (unregistered : Unregistered session.toSharedRegion)
    (complete : Complete setup session.toSharedRegion) :
    Sound config ((session.setRegion (session.toSharedRegion.setState .ready)).goto process
      (.running setup .validateQueues)) := by
  have plain : ∀ other, (((session.setRegion (session.toSharedRegion.setState .ready)).goto process
      (.running setup .validateQueues)).points other).registered? = none ∧
      (((session.setRegion (session.toSharedRegion.setState .ready)).goto process
        (.running setup .validateQueues)).points other).counted = false := by
    intro other
    rw [points_goto]
    split
    · exact ⟨rfl, rfl⟩
    · exact (sound.stands other).unregistered building.unready
  have complete' : Complete setup (session.toSharedRegion.setState .ready) :=
    ⟨⟨complete.described.magic, complete.described.layoutVersion, complete.described.headerBytes,
      complete.described.regionBytes, complete.described.hostCount, complete.described.layout⟩,
      ⟨complete.pooled.header, complete.pooled.reachable⟩, complete.tabled,
      complete.queued.imp fun _ queued =>
        ⟨queued.hostCount, queued.capacityEntries, queued.room, queued.formatted⟩⟩
  refine ⟨fun other setup' theirs => ?_, fun other => ?_, fun _ => ?_,
    fun other _ setup' _ registered => ?_, fun _ => ?_, fun _ host probed => ?_,
    fun other some => ?_⟩
  · rw [points_goto] at theirs
    split at theirs
    · rename_i same
      rw [same, accepted, ← Option.some.inj theirs]
    · exact sound.setups other setup' theirs
  · rw [points_goto]
    split
    · exact ⟨rfl, complete'.described⟩
    · rename_i different
      refine (sound.stands other).of_unready building.unready fun setup' theirs => ?_
      by_contra claimed
      exact different (single.eq (sound.setups other setup' theirs)
        (Bool.not_eq_false _ ▸ claimed) accepted building.owner)
  · refine ⟨process, setup, accepted, building.owner, ?_, complete'⟩
    rw [points_goto, if_pos rfl]
    exact fun idle => BootstrapPoint.noConfusion idle
  · rw [(plain other).1] at registered
    cases registered
  · refine unregistered.joinedHosts.trans (Finset.card_eq_zero.mpr ?_).symm
    refine Finset.filter_eq_empty_iff.mpr fun other _ counted => ?_
    rw [(plain other).2] at counted
    cases counted
  · have empty : (session.header.hosts host).state = .empty := unregistered.hosts host
    rw [show ((session.setRegion (session.toSharedRegion.setState .ready)).goto process
      (.running setup .validateQueues)).header.hosts = session.header.hosts from rfl, empty]
      at probed
    exact absurd probed (by decide)
  · obtain ⟨setup', queues, initialized, -⟩ := sound.awaited other some
    have agreed := sound.stands other
    rw [initialized] at agreed
    exact (building.unready agreed.1.ready).elim

/-- The registrations may rise; what a process has seen of them stays so. -/
theorem rise (sound : Sound config session) {registration : HostRegistration}
    (ready : session.header.state = .ready) (agreed : Agreed setup session.toSharedRegion)
    (mine : (session.points process).setup? = some setup)
    (risen : HostRegistrationState.probeReady.code ≤
        (session.header.hosts setup.localHostId).state.code →
      HostRegistrationState.probeReady.code ≤ registration.state.code)
    (present : registration.state ≠ .empty)
    (registered : point.registered? = some setup)
    (counted : point.counted = (session.points process).counted)
    (known : point.setup? = some setup)
    (own : ∀ other setup', (session.points other).registered? = some setup' →
      setup'.localHostId = setup.localHostId → other = process)
    (probed : HostRegistrationState.probeReady.code ≤ registration.state.code →
      ∃ queues, point = .initialized setup queues)
    (stands : (session.toSharedRegion.setHost setup.localHostId registration).Stands point)
    (kept : ∀ setup' queues, session.points process = .initialized setup' queues →
      point = .initialized setup' queues) :
    Sound config ((session.setRegion
      (session.toSharedRegion.setHost setup.localHostId registration)).goto process point) := by
  have awake : point ≠ .idle := fun idle => by
    rw [idle] at known
    cases known
  have higher : ∀ host,
      HostRegistrationState.probeReady.code ≤ (session.header.hosts host).state.code →
      HostRegistrationState.probeReady.code ≤
        (Function.update session.header.hosts setup.localHostId registration host).state.code := by
    intro host ready
    rw [Function.update_apply]
    split
    · rename_i same
      exact risen (same ▸ ready)
    · exact ready
  have later := later_setHost session.toSharedRegion setup.localHostId registration present
  have kept' : ∀ other setup' queues, session.points other = .initialized setup' queues →
      ((session.setRegion (session.toSharedRegion.setHost setup.localHostId registration)).goto
        process point).points other = .initialized setup' queues :=
    fun other setup' queues initialized => by
      rw [points_goto]
      split
      · rename_i same
        exact kept setup' queues (same ▸ initialized)
      · exact initialized
  have registrants : ∀ other setup', (((session.setRegion
      (session.toSharedRegion.setHost setup.localHostId registration)).goto process point).points
        other).registered? = some setup' →
      (other = process ∧ setup' = setup) ∨ (session.points other).registered? = some setup' :=
    fun other setup' theirs => by
      rw [points_goto] at theirs
      split at theirs
      · rename_i same
        exact .inl ⟨same, (Option.some.inj (registered.symm.trans theirs)).symm⟩
      · exact .inr theirs
  refine ⟨fun other setup' theirs => ?_, fun other => ?_, fun _ => ?_,
    fun other other' setup' setup'' first second same => ?_, fun _ => ?_,
    fun _ host there => ?_, fun other some => ?_⟩
  · rw [points_goto] at theirs
    split at theirs
    · rename_i same
      rw [same, sound.setups process setup mine, ← Option.some.inj (known.symm.trans theirs)]
    · exact sound.setups other setup' theirs
  · rw [points_goto]
    split
    · exact stands
    · exact later.stands ready (sound.stands other)
  · obtain ⟨other, setup', accepted, owner, started, complete⟩ := sound.published ready
    refine ⟨other, setup', accepted, owner, ?_, later.complete complete⟩
    rw [points_goto]
    split
    · exact awake
    · exact started
  · rcases registrants other setup' first with ⟨rfl, rfl⟩ | before
    · rcases registrants other' setup'' second with ⟨rfl, rfl⟩ | before'
      · rfl
      · exact (own other' setup'' before' same.symm).symm
    · rcases registrants other' setup'' second with ⟨rfl, rfl⟩ | before'
      · exact own other setup' before same
      · exact sound.unique other other' setup' setup'' before before' same
  · refine (sound.joined ready).trans (congrArg Finset.card (Finset.filter_congr fun other _ => ?_))
    rw [points_goto]
    split
    · rename_i same
      rw [counted, same]
    · exact Iff.rfl
  · by_cases same : host = setup.localHostId
    · have raised : ((session.toSharedRegion.setHost setup.localHostId registration).header.hosts
          host) = registration := by
        rw [same]
        exact Function.update_self ..
      obtain ⟨queues, initialized⟩ := probed (raised ▸ there)
      refine ⟨process, setup, queues, ?_, same.symm⟩
      rw [points_goto, if_pos rfl, initialized]
    · have kept : ((session.toSharedRegion.setHost setup.localHostId registration).header.hosts
          host) = session.header.hosts host := Function.update_of_ne same ..
      obtain ⟨other, setup', queues, initialized, named⟩ := sound.probed ready host (kept ▸ there)
      exact ⟨other, setup', queues, kept' other setup' queues initialized, named⟩
  · obtain ⟨setup', queues, initialized, bound, seen⟩ := sound.awaited other some
    exact ⟨setup', queues, kept' other setup' queues initialized, bound,
      fun host below => higher host (seen host below)⟩

theorem count (sound : Sound config session)
    (here : session.points process = .running setup .count) :
    Sound config ((session.setRegion session.toSharedRegion.countHost).goto process
      (.running setup .locate)) := by
  have joined : Joined setup session.toSharedRegion := by
    have stands := sound.stands process
    rwa [here] at stands
  have later : Later session.toSharedRegion session.toSharedRegion.countHost :=
    ⟨rfl, fun _ described => ⟨described.magic, described.layoutVersion, described.headerBytes,
      described.regionBytes, described.hostCount, described.layout⟩,
      fun _ _ pooled => ⟨pooled.header, pooled.reachable⟩, rfl, fun _ _ queued =>
        ⟨queued.hostCount, queued.capacityEntries, queued.room, queued.formatted⟩, fun _ => id⟩
  have elsewhere : ∀ other, other ≠ process →
      ((session.setRegion session.toSharedRegion.countHost).goto process
        (.running setup .locate)).points other = session.points other := fun other different =>
    (points_goto ..).trans (if_neg different)
  have here' : ((session.setRegion session.toSharedRegion.countHost).goto process
      (.running setup .locate)).points process = .running setup .locate := by
    rw [points_goto, if_pos rfl]
  have registered' : ∀ other, (((session.setRegion session.toSharedRegion.countHost).goto process
      (.running setup .locate)).points other).registered? =
        (session.points other).registered? := fun other => by
    by_cases same : other = process
    · rw [same, here', here]
      rfl
    · rw [elsewhere other same]
  have kept : ∀ other setup' queues, session.points other = .initialized setup' queues →
      ((session.setRegion session.toSharedRegion.countHost).goto process
        (.running setup .locate)).points other = .initialized setup' queues :=
    fun other setup' queues initialized => by
      refine (elsewhere other fun same => ?_).trans initialized
      rw [same, here] at initialized
      cases initialized
  refine ⟨fun other setup' theirs => ?_, fun other => ?_, fun ready => ?_,
    fun other other' setup' setup'' first second same => ?_, fun ready => ?_,
    fun ready host probed => ?_, fun other some => ?_⟩
  · by_cases same : other = process
    · rw [same, here'] at theirs
      refine sound.setups other setup' ?_
      rw [same, here]
      exact theirs
    · rw [elsewhere other same] at theirs
      exact sound.setups other setup' theirs
  · by_cases same : other = process
    · rw [same, here']
      exact later.joined joined
    · rw [elsewhere other same]
      exact later.stands joined.ready (sound.stands other)
  · obtain ⟨other, setup', accepted, owner, started, complete⟩ := sound.published joined.ready
    refine ⟨other, setup', accepted, owner, fun idle => ?_, later.complete complete⟩
    by_cases same : other = process
    · rw [same, here'] at idle
      cases idle
    · rw [elsewhere other same] at idle
      exact started idle
  · rw [registered'] at first second
    exact sound.unique other other' setup' setup'' first second same
  · have absent : process ∉ Finset.univ.filter fun process =>
        (session.points process).counted = true := by
      rw [Finset.mem_filter, here]
      exact fun member => Bool.false_ne_true member.2
    have few : (Finset.univ.filter fun process =>
        (session.points process).counted = true).card ≤ kMaxHosts := by
      refine sound.registered_card_le _ fun other member => ?_
      have counted := (Finset.mem_filter.mp member).2
      cases stands : session.points other with
      | idle | failed =>
          rw [stands] at counted
          cases counted
      | initialized setup' queues =>
          exact ⟨setup', rfl, setup'.localHostId_lt.trans_le setup'.hostCount_le⟩
      | running setup' stage =>
          rw [stands] at counted
          cases stage with
          | locate => exact ⟨setup', rfl, setup'.localHostId_lt.trans_le setup'.hostCount_le⟩
          | _ => cases counted
    have members : (Finset.univ.filter fun other =>
        (((session.setRegion session.toSharedRegion.countHost).goto process
          (.running setup .locate)).points other).counted = true) =
        insert process (Finset.univ.filter fun process =>
          (session.points process).counted = true) := by
      ext other
      rw [Finset.mem_insert, Finset.mem_filter, Finset.mem_filter]
      by_cases same : other = process
      · rw [same, here']
        exact iff_of_true ⟨Finset.mem_univ _, rfl⟩ (.inl rfl)
      · rw [elsewhere other same]
        exact ⟨fun member => .inr member, fun member => member.resolve_left same⟩
    rw [members, Finset.card_insert_of_notMem absent, ← sound.joined joined.ready]
    rw [← sound.joined joined.ready] at few
    exact Nat.mod_eq_of_lt (lt_of_le_of_lt (Nat.succ_le_succ few) (by decide))
  · obtain ⟨other, setup', queues, initialized, named⟩ := sound.probed joined.ready host probed
    exact ⟨other, setup', queues, kept other setup' queues initialized, named⟩
  · obtain ⟨setup', queues, initialized, bound, seen⟩ := sound.awaited other some
    exact ⟨setup', queues, kept other setup' queues initialized, bound, seen⟩

/-- A process looks at the next host. -/
theorem await (sound : Sound config session) {queues : List (List (Option SharedQueueStorage))}
    (here : session.points process = .initialized setup queues)
    (left : session.awaited process < setup.hostCount) :
    Sound config { session with
      awaited := Function.update session.awaited process
        (if HostRegistrationState.probeReady.code ≤
            (session.header.hosts (session.awaited process)).state.code then
          session.awaited process + 1
        else 0) } := by
  refine ⟨sound.setups, sound.stands, sound.published, sound.unique, sound.joined, sound.probed,
    fun other some => ?_⟩
  by_cases same : other = process
  · subst same
    simp only [Function.update_self] at some ⊢
    split at some
    · rename_i ready
      rw [if_pos ready]
      refine ⟨setup, queues, here, left, fun host below => ?_⟩
      rcases Nat.lt_succ_iff_lt_or_eq.mp below with earlier | rfl
      · obtain ⟨_, _, -, -, seen⟩ := sound.awaited other (Nat.ne_zero_of_lt earlier)
        exact seen host earlier
      · exact ready
    · exact (some rfl).elim
  · simp only [Function.update_of_ne same] at some ⊢
    exact sound.awaited other some

end Sound

omit [Fintype Process] in
/-- A step of `Initialize` succeeds or not. -/
theorem proceed_cases (property : BootstrapSession Process → Prop) {result : Status × SharedRegion}
    {next : BootstrapPoint} {refused : Status → BootstrapPoint}
    (success : result.1.isOk = true → property ((session.setRegion result.2).goto process next))
    (failure : result.1.isOk = false →
      property ((session.setRegion result.2).goto process (refused result.1))) :
    property (session.proceed process result next refused) := by
  rw [proceed]
  cases outcome : result.1.isOk with
  | true => exact success outcome
  | false => exact failure outcome

namespace Sound

/-- A process changes its place only. -/
theorem moves (sound : Sound config session) {stage : InitializeStage}
    (here : session.points process = .running setup stage)
    (unregistered : (session.points process).registered? = none) (next : BootstrapPoint)
    (stands : session.toSharedRegion.Stands next) (registered : next.registered? = none)
    (awake : next ≠ .idle) (known : ∀ setup', next.setup? = some setup' → setup' = setup) :
    Sound config (session.goto process next) := by
  have counted : ∀ point : BootstrapPoint, point.registered? = none → point.counted = false := by
    intro point plain
    cases point with
    | idle | failed => rfl
    | initialized => cases plain
    | running setup stage =>
        cases stage with
        | count | locate => cases plain
        | _ => rfl
  refine sound.advance (.refl _) (fun _ => id) rfl rfl (fun setup' mine => ?_) stands
    (registered.trans unregistered.symm)
      ((counted next registered).trans (counted _ unregistered).symm) awake
    fun setup' queues initialized => ?_
  · rw [known setup' mine]
    exact sound.setups process setup (by rw [here]; rfl)
  · rw [here] at initialized
    cases initialized

/-- A step of `Initialize`. -/
theorem stage (sound : Sound config session) (single : SingleOwner config)
    {stage : InitializeStage} (here : session.points process = .running setup stage) :
    Sound config (session.advance process setup stage) := by
  have accepted : (config process).setup = .ok setup :=
    sound.setups process setup (by rw [here]; rfl)
  have standing : session.toSharedRegion.Standing setup stage := by
    have stands := sound.stands process
    rwa [here] at stands
  have known : ∀ stage' setup', (BootstrapPoint.running setup stage').setup? = some setup' →
      setup' = setup := fun _ _ mine => (Option.some.inj mine).symm
  have gone : ∀ status setup', (BootstrapPoint.failed status).setup? = some setup' →
      setup' = setup := fun _ _ mine => by cases mine
  cases stage with
  | clearHeader =>
      have unready : session.toSharedRegion.clearHeader.header.state ≠ .ready :=
        fun ready => by cases ready
      exact sound.build single accepted standing.owner standing.unready unready
        ⟨⟨standing.owner, unready⟩, fun _ => rfl, rfl⟩ (known _)
  | describe =>
      obtain ⟨building, unregistered⟩ := standing
      have unready : (session.toSharedRegion.describe setup).header.state ≠ .ready :=
        fun ready => by cases ready
      exact sound.build single accepted building.owner building.unready unready
        ⟨⟨building.owner, unready⟩, ⟨unregistered.hosts, unregistered.joinedHosts⟩,
          ⟨rfl, rfl, rfl, rfl, rfl, rfl⟩⟩ (known _)
  | formatAllocator =>
      obtain ⟨building, unregistered, described⟩ := standing
      have header : (session.toSharedRegion.formatAllocator setup).2.header = session.header :=
        formatAllocator_header
      have unready : (session.toSharedRegion.formatAllocator setup).2.header.state ≠ .ready :=
        header.symm ▸ building.unready
      rw [BootstrapSession.advance]
      refine proceed_cases (Sound config) (fun formatted => ?_) fun refused => ?_
      · exact sound.build single accepted building.owner building.unready unready
          ⟨⟨building.owner, unready⟩, ⟨header.symm ▸ unregistered.hosts,
            header.symm ▸ unregistered.joinedHosts⟩, described.of_header header,
            formatAllocator_pooled formatted⟩ (known _)
      · exact sound.build single accepted building.owner building.unready unready
          ⟨⟨building.owner, unready⟩, refused⟩ (known _)
  | formatCoherence =>
      obtain ⟨building, unregistered, described, pooled⟩ := standing
      rw [BootstrapSession.advance]
      refine proceed_cases (Sound config) (fun _ => ?_) fun refused => ?_
      · rw [formatCoherenceRegion_eq]
        exact sound.build single accepted building.owner building.unready building.unready
          ⟨⟨building.owner, building.unready⟩, ⟨unregistered.hosts, unregistered.joinedHosts⟩,
            described.of_header rfl, ⟨pooled.header, pooled.reachable⟩, rfl⟩ (known _)
      · rw [formatCoherenceRegion_eq] at refused
        cases refused
  | formatQueues =>
      obtain ⟨building, unregistered, described, pooled, tabled⟩ := standing
      rw [BootstrapSession.advance]
      refine proceed_cases (Sound config) (fun formatted => ?_) fun refused => ?_
      · exact sound.build single accepted building.owner building.unready building.unready
          ⟨⟨building.owner, building.unready⟩, ⟨unregistered.hosts, unregistered.joinedHosts⟩,
            described.of_header rfl, ⟨pooled.header, pooled.reachable⟩, tabled,
            formatQueues_queued formatted⟩ (known _)
      · exact sound.build single accepted building.owner building.unready building.unready
          ⟨⟨building.owner, building.unready⟩, refused⟩ (known _)
  | publish =>
      obtain ⟨building, unregistered, complete⟩ := standing
      exact sound.publish single accepted building unregistered complete
  | giveUp status =>
      obtain ⟨building, bad⟩ := standing
      rw [BootstrapSession.advance]
      refine proceed_cases (Sound config) (fun good => ?_) fun _ => ?_
      · rw [show status.isOk = true from good] at bad
        cases bad
      · exact sound.build single accepted building.owner building.unready
          (fun ready => by cases ready) trivial (gone _)
  | poll =>
      rw [BootstrapSession.advance]
      split
      · rename_i ready
        exact sound.moves here (by rw [here]; rfl) _ ⟨standing, ready⟩ rfl
          (fun idle => by cases idle) (known _)
      · exact sound.moves here (by rw [here]; rfl) _ trivial rfl
          (fun idle => by cases idle) (gone _)
      · exact sound
  | validateBootstrap =>
      rw [BootstrapSession.advance]
      refine proceed_cases (Sound config) (fun valid => ?_) fun _ => ?_
      · exact sound.moves here (by rw [here]; rfl) _ ⟨standing.2, described_iff.mpr valid⟩ rfl
          (fun idle => by cases idle) (known _)
      · exact sound.moves here (by rw [here]; rfl) _ trivial rfl
          (fun idle => by cases idle) (gone _)
  | validateQueues =>
      rw [BootstrapSession.advance]
      refine proceed_cases (Sound config) (fun valid => ?_) fun _ => ?_
      · obtain ⟨_, owner, -, -, -, complete⟩ := sound.published standing.1
        obtain ⟨layout, queued⟩ := complete.queued
        have capacity := (validateQueues_isOk queued complete.described standing.2).mp valid
        exact sound.moves here (by rw [here]; rfl) _
          ⟨standing.1, standing.2, layout,
            queued.congr (complete.described.congr standing.2).2 capacity⟩ rfl
          (fun idle => by cases idle) (known _)
      · exact sound.moves here (by rw [here]; rfl) _ trivial rfl
          (fun idle => by cases idle) (gone _)
  | initializeAllocator =>
      rw [BootstrapSession.advance]
      refine proceed_cases (Sound config) (fun _ => ?_) fun _ => ?_
      · exact sound.moves here (by rw [here]; rfl) _ standing rfl (fun idle => by cases idle)
          (known _)
      · exact sound.moves here (by rw [here]; rfl) _ trivial rfl
          (fun idle => by cases idle) (gone _)
  | register =>
      rw [BootstrapSession.advance, registerLocalHost]
      split
      · rename_i free
        refine sound.rise standing.ready standing (by rw [here]; rfl) ?_
          (fun empty => by cases empty) rfl (by rw [here]; rfl) rfl
          (fun other setup' theirs same => ?_)
          (fun probed => (Nat.not_succ_le_self 1 probed).elim) ?_
          fun setup' queues initialized => ?_
        · rw [free]
          exact fun probed => (Nat.not_succ_le_zero 1 probed).elim
        · have joined := (sound.stands other).joined theirs
          exact (joined.registered (same ▸ free)).elim
        · refine ⟨(later_setHost _ _ _ fun empty => by cases empty).agreed standing, ?_⟩
          rw [show (session.toSharedRegion.setHost setup.localHostId _).header.hosts
            setup.localHostId = _ from Function.update_self ..]
          exact fun empty => by cases empty
        · rw [here] at initialized
          cases initialized
      · exact sound.moves here (by rw [here]; rfl) _ trivial rfl
          (fun idle => by cases idle) (gone _)
  | count => exact sound.count here
  | locate =>
      obtain ⟨layout, queued⟩ := standing.queued
      obtain ⟨queues, located, places⟩ := queued.locateQueues
      rw [BootstrapSession.advance, located]
      refine sound.advance (.refl _) (fun _ => id) rfl rfl
        (fun setup' mine => Option.some.inj mine ▸ accepted)
        ⟨standing, fun layout' queued' => queued'.layout_eq queued ▸ places⟩ (by rw [here]; rfl)
        (by rw [here]; rfl) (fun idle => by cases idle) fun setup' queues' initialized => ?_
      rw [here] at initialized
      cases initialized

/-- Something happens to the region, and nobody moves. -/
theorem stays (sound : Sound config session) (process : Process)
    (ready : session.header.state = .ready) (later : Later session.toSharedRegion after)
    (hosts : after.header.hosts = session.header.hosts)
    (joinedHosts : after.header.joinedHosts = session.header.joinedHosts)
    (awake : session.points process ≠ .idle) : Sound config (session.setRegion after) := by
  have moved := sound.advance later (fun _ => later.stands ready) hosts joinedHosts
    (sound.setups process) (later.stands ready (sound.stands process)) rfl rfl awake
    fun _ _ => id
  rwa [goto_self] at moved

omit [DecidableEq Process] in
/-- The owner starts before the region is published. -/
theorem unready_of_idle (sound : Sound config session) (single : SingleOwner config)
    (here : session.points process = .idle) (accepted : (config process).setup = .ok setup)
    (owner : setup.bootstrapOwner = true) : session.header.state ≠ .ready := by
  intro ready
  obtain ⟨other, setup', accepted', owner', started, -⟩ := sound.published ready
  rw [single.eq accepted' owner' accepted owner] at started
  exact started here

theorem start (sound : Sound config session) (single : SingleOwner config)
    (here : session.points process = .idle) (mapping : Status) :
    Sound config (session.goto process
      (match (config process).setup with
      | .error status => .failed status
      | .ok setup =>
          if mapping.isOk then .running setup (if setup.bootstrapOwner then .clearHeader else .poll)
          else .failed mapping)) := by
  have plain : ∀ point : BootstrapPoint, session.toSharedRegion.Stands point →
      point.registered? = none → point.counted = false → point ≠ .idle →
      (∀ setup, point.setup? = some setup → (config process).setup = .ok setup) →
      Sound config (session.goto process point) := by
    intro point stands registered counted awake setups
    refine sound.advance (.refl _) (fun _ => id) rfl rfl setups stands
      (by rw [here, registered]; rfl) (by rw [here, counted]; rfl) awake
      fun setup queues initialized => ?_
    rw [here] at initialized
    cases initialized
  cases accepted : (config process).setup with
  | error status =>
      exact plain _ trivial rfl rfl (fun idle => by cases idle) fun _ mine => by cases mine
  | ok setup =>
      simp only
      split
      · cases owner : setup.bootstrapOwner with
        | true =>
            exact plain (.running setup .clearHeader)
              ⟨owner, sound.unready_of_idle single here accepted owner⟩ rfl rfl
              (fun idle => by cases idle) fun _ mine => by rw [accepted, Option.some.inj mine]
        | false =>
            exact plain (.running setup .poll) owner rfl rfl (fun idle => by cases idle)
              fun _ mine => by rw [accepted, Option.some.inj mine]
      · exact plain _ trivial rfl rfl (fun idle => by cases idle) fun _ mine => by cases mine

/-- Every step keeps the session sound. -/
theorem next (sound : Sound config session) (single : SingleOwner config)
    {label : BootstrapLabel Process} {later : BootstrapSession Process}
    (performed : session.next config label = some later) : Sound config later := by
  cases label with
  | start process mapping =>
      rw [BootstrapSession.next] at performed
      split at performed
      · rename_i here
        rw [← Option.some.inj performed]
        exact sound.start single here mapping
      · cases performed
  | step process =>
      rw [BootstrapSession.next] at performed
      split at performed
      · rename_i setup stage here
        rw [← Option.some.inj performed]
        exact sound.stage single here
      · cases performed
  | timeOut process =>
      rw [BootstrapSession.next] at performed
      split at performed
      · rename_i setup here
        rw [← Option.some.inj performed]
        exact sound.moves here (by rw [here]; rfl) _ trivial rfl (fun idle => by cases idle)
          fun _ mine => by cases mine
      · cases performed
  | allocate process label =>
      rw [BootstrapSession.next] at performed
      split at performed
      · rename_i setup queues here
        obtain ⟨allocator, used, rfl⟩ := Option.map_eq_some_iff.mp performed
        have joined := (sound.stands process).joined (by rw [here]; rfl : _ = some setup)
        refine sound.stays process joined.ready ⟨rfl, fun _ described => described.of_header rfl,
          fun setup' described pooled => ⟨pooled.header, ?_⟩, rfl, fun _ _ queued =>
            ⟨queued.hostCount, queued.capacityEntries, queued.room, queued.formatted⟩,
          fun _ => id⟩ rfl rfl fun idle => ?_
        · have same := allocatorLayout_congr (described.congr joined.described).1
          exact pooled.reachable.step (same ▸ used)
        · rw [here] at idle
          cases idle
      · cases performed
  | transfer process producer consumer cell byte =>
      rw [BootstrapSession.next] at performed
      split at performed
      · rename_i setup queues here
        split at performed
        · rename_i storage found
          split at performed
          · rename_i within
            rw [← Option.some.inj performed]
            have stands := sound.stands process
            rw [here] at stands
            obtain ⟨layout, queued⟩ := stands.1.queued
            have place := stands.2 layout queued producer consumer
            rw [found] at place
            split at place
            · rename_i pair
              obtain rfl := Option.some.inj place
              have member : (producer, consumer) ∈ pairs layout.hostCount := by
                rw [queued.hostCount]
                exact pair
              have below : cell < layout.queue (producer, consumer) + layout.stride := by
                rw [QueueLayout.stride, ← Nat.add_assoc, queued.capacityEntries]
                exact within.2
              refine sound.stays process stands.1.ready ⟨rfl, fun _ described =>
                described.of_header rfl, fun _ _ pooled => ⟨pooled.header, pooled.reachable⟩, rfl,
                fun setup' layout' queued' => ?_, fun _ => id⟩ rfl rfl fun idle => ?_
              · obtain rfl := queued'.formatted.eq_of_formatted queued.formatted
                exact ⟨queued'.hostCount, queued'.capacityEntries, queued'.room,
                  queued'.formatted.transfer member within.1 below⟩
              · rw [here] at idle
                cases idle
            · cases place
          · cases performed
        · cases performed
      · cases performed
  | publishProbe process value =>
      rw [BootstrapSession.next] at performed
      split at performed
      · rename_i setup queues here
        rw [← Option.some.inj performed]
        have stands := sound.stands process
        rw [here] at stands
        have later := later_setHost session.toSharedRegion setup.localHostId
          { session.header.hosts setup.localHostId with state := .probeReady, probeValue := value }
          fun empty => by cases empty
        have moved : Sound config ((session.setRegion (session.toSharedRegion.setHost
            setup.localHostId { session.header.hosts setup.localHostId with
              state := .probeReady, probeValue := value })).goto process
                (session.points process)) :=
          sound.rise stands.1.ready stands.1.toAgreed (by rw [here]; rfl) (fun _ => Nat.le_refl _)
            (fun empty => by cases empty) (by rw [here]; rfl) rfl (by rw [here]; rfl)
            (fun other setup' theirs same =>
              sound.unique other process setup' setup theirs (by rw [here]; rfl) same)
            (fun _ => ⟨queues, here⟩) (later.stands stands.1.ready (sound.stands process))
            fun _ _ => id
        rwa [goto_self] at moved
      · cases performed
  | await process =>
      rw [BootstrapSession.next] at performed
      split at performed
      · rename_i setup queues here
        simp only at performed
        split at performed
        · rename_i left
          rw [← Option.some.inj performed]
          exact sound.await here left
        · cases performed
      · cases performed

omit [DecidableEq Process] in
theorem of_initial {region : SharedRegion} (unready : region.header.state ≠ .ready) :
    Sound config (initial region) where
  setups _ _ mine := by cases mine
  stands _ := trivial
  published ready := (unready ready).elim
  unique _ _ _ _ mine := by cases mine
  joined ready := (unready ready).elim
  probed ready := (unready ready).elim
  awaited _ some := (some rfl).elim

theorem reaches {region : SharedRegion} (single : SingleOwner config)
    (unready : region.header.state ≠ .ready)
    (execution : Run.Reaches (BootstrapSession.next config) (initial region) session) :
    Sound config session :=
  execution.preserves (Sound config) (of_initial unready)
    fun _ _ _ sound _ performed => sound.next single performed

end Sound

end BootstrapSession
end Cxloom.LoomMem
