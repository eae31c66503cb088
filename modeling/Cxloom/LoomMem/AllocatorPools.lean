import Cxloom.LoomMem.AllocatorStorage

/-!
# The extent pools in every run

Free and recorded extents share out each pool, so the live extents alone determine the free ones;
and the size bins answer every request as a scan of the whole address list would.
-/

namespace Cxloom.LoomMem.Allocator

variable {layout : AllocatorLayout} {state : Allocator}

/-! ## Conservation -/

/-- The extents of a pool that published objects record. -/
def liveExtents (layout : AllocatorLayout) (state : Allocator) (pool : ExtentPool) : Set Extent :=
  { extent | ∃ index ∈ live layout state, slotExtent state pool index = extent }

/-- Nothing of a pool is lost, used twice or left in pieces. -/
structure Conserved (layout : AllocatorLayout) (state : Allocator) (pool : ExtentPool) : Prop where
  /-- Free extents are not empty, in increasing order, and never overlap or touch. -/
  separated : Extent.Separated (state.extents.freeExtents pool)
  /-- Published objects are allocated or retiring. -/
  lifecycle : ∀ index ∈ live layout state,
    descriptor state.memory (state.slots index).objectOffset .state =
        AllocationState.allocated.code ∨
      descriptor state.memory (state.slots index).objectOffset .state =
        AllocationState.retiring.code
  /-- The extents of different objects are disjoint. -/
  apart : ∀ first ∈ live layout state, ∀ second ∈ live layout state, first ≠ second →
    Disjoint (slotExtent state pool first).cells (slotExtent state pool second).cells
  /-- The extent of an object is disjoint from every free one. -/
  unfree : ∀ index ∈ live layout state, ∀ extent ∈ state.extents.freeExtents pool,
    Disjoint (slotExtent state pool index).cells extent.cells
  cover : (layout.range pool).cells = Extent.cellsOf (state.extents.freeExtents pool) ∪
    { cell | ∃ extent ∈ liveExtents layout state pool, cell ∈ extent.cells }

theorem Ledger.conserved (ledger : Ledger layout state) (pool : ExtentPool) :
    Conserved layout state pool where
  separated := ledger.manages.separated pool
  lifecycle index member := (ledger.described index member).state
  apart _ here _ there different := ledger.disjoint here there different pool
  unfree index member extent free := by
    refine ((ledger.partition pool).unfree index member).mono_right ?_
    exact fun cell inside => ⟨extent, free, inside⟩
  cover := by
    ext cell
    rw [(ledger.partition pool).cover]
    refine or_congr_right ⟨?_, ?_⟩
    · rintro ⟨index, member, inside⟩
      exact ⟨_, ⟨index, member, rfl⟩, inside⟩
    · rintro ⟨_, ⟨index, member, rfl⟩, inside⟩
      exact ⟨index, member, inside⟩

/-- The live extents determine the free ones. -/
theorem Ledger.freeExtents_eq (ledger : Ledger layout state) {other : Allocator}
    (ledger' : Ledger layout other) {pool : ExtentPool}
    (same : liveExtents layout other pool = liveExtents layout state pool) :
    other.extents.freeExtents pool = state.extents.freeExtents pool := by
  refine (ledger'.manages.separated pool).eq_of_cells (ledger.manages.separated pool) ?_
  rw [(ledger.partition pool).cellsOf_free, (ledger'.partition pool).cellsOf_free]
  congr 1
  ext cell
  constructor
  · rintro ⟨index, member, inside⟩
    have there : slotExtent other pool index ∈ liveExtents layout state pool :=
      same ▸ ⟨index, member, rfl⟩
    obtain ⟨index', member', extent⟩ := there
    exact ⟨index', member', by rwa [extent]⟩
  · rintro ⟨index, member, inside⟩
    have there : slotExtent state pool index ∈ liveExtents layout other pool :=
      same ▸ ⟨index, member, rfl⟩
    obtain ⟨index', member', extent⟩ := there
    exact ⟨index', member', by rwa [extent]⟩

theorem liveExtents_congr {other : Allocator} {pool : ExtentPool}
    (same : ∀ index < layout.slotCapacity,
      (other.slots index).objectOffset = (state.slots index).objectOffset ∧
        ((state.slots index).objectOffset ≠ 0 →
          slotExtent other pool index = slotExtent state pool index)) :
    liveExtents layout other pool = liveExtents layout state pool := by
  ext extent
  constructor
  · rintro ⟨index, ⟨inside, used⟩, recorded⟩
    obtain ⟨object, agrees⟩ := same index inside
    rw [object] at used
    exact ⟨index, ⟨inside, used⟩, (agrees used).symm.trans recorded⟩
  · rintro ⟨index, ⟨inside, used⟩, recorded⟩
    obtain ⟨object, agrees⟩ := same index inside
    exact ⟨index, ⟨inside, object.trans_ne used⟩, (agrees used).trans recorded⟩

/-- In every state of every run each pool is conserved, and any two runs that leave the same live
extents leave the same free extents. -/
theorem pools_conserved (reachable : Reachable layout state) (pool : ExtentPool) :
    Conserved layout state pool ∧
      ∀ other, Reachable layout other →
        liveExtents layout other pool = liveExtents layout state pool →
        other.extents.freeExtents pool = state.extents.freeExtents pool :=
  ⟨reachable.ledger.conserved pool,
    fun _ reachable' same => reachable.ledger.freeExtents_eq reachable'.ledger same⟩

/-- A small region with two slots and four extent nodes. -/
def smallLayout : AllocatorLayout where
  coherenceOffset := 64
  coherenceBytes := 4096
  sharedDataOffset := 8192
  sharedDataBytes := 8192
  regionBytes := 16384
  slotCapacity := 2
  extentNodeCapacity := 4
  coherence_le := by decide
  data_le := by decide
  region_lt := by decide
  two_lt := by decide

def smallRegion : Allocator where
  extents := formatExtents smallLayout
  slots _ := ⟨0, 0⟩
  retirement := ⟨⟨.idle, ⟨0, 0⟩, 0, ⟨0, kMaxHosts_pos⟩, 0⟩, 0#64, 0#64, 0#64, fun _ _ => 0⟩
  memory _ := 0
  extentLock := false

theorem reachable_smallRegion : Reachable smallLayout smallRegion :=
  ⟨fun _ => 0, smallRegion, rfl, .refl⟩

def smallHost : HostId := ⟨0, kMaxHosts_pos⟩

def smallAllocated : Allocator := (allocate smallLayout smallRegion smallHost 4096 ⟨1, 1, 0⟩).2

theorem reachable_smallAllocated : Reachable smallLayout smallAllocated :=
  reachable_smallRegion.allocate rfl smallHost 4096 ⟨1, 1, 0⟩

/-- A larger object is allocated, retired and freed before the object of one byte comes to its
place. -/
def reuseOps : List Label :=
  [.allocate smallHost 4096 ⟨1024, 64, 512⟩, .beginRetire smallHost ⟨0, 8832⟩ 1,
    .acknowledgeRetirement ⟨.closing, ⟨0, 8832⟩, 1, smallHost, 1⟩ smallHost fun _ => 0,
    .acknowledgeRetirement ⟨.draining, ⟨0, 8832⟩, 1, smallHost, 1⟩ smallHost fun _ => 0,
    .acknowledgeRetirement ⟨.cleaning, ⟨0, 8832⟩, 1, smallHost, 1⟩ smallHost fun _ => 0,
    .free smallHost ⟨0, 8832⟩, .allocate smallHost 4096 ⟨1, 1, 0⟩]

/-- The small region with one object, which is the first one in one run and the second one in the
other. -/
theorem pools_conserved_smallAllocated :
    ∃ returned, Run.runLabels (next smallLayout) smallRegion reuseOps = some returned ∧
      returned.retirement.current.sequence = 1 ∧ Conserved smallLayout smallAllocated .data ∧
      returned.extents.freeExtents .data = smallAllocated.extents.freeExtents .data := by
  have reused : (Run.runLabels (next smallLayout) smallRegion reuseOps).any (fun returned =>
      returned.retirement.current.sequence = 1 ∧ (returned.slots 0).objectOffset = 8832 ∧
        slotExtent returned .data 0 = ⟨8192, 641⟩ ∧ (returned.slots 1).objectOffset = 0) =
      true := by
    decide +kernel
  have allocated : (smallAllocated.slots 0).objectOffset = 8832 ∧
      slotExtent smallAllocated .data 0 = ⟨8192, 641⟩ ∧
      (smallAllocated.slots 1).objectOffset = 0 := by
    decide +kernel
  obtain ⟨returned, execution, reused⟩ := (Option.any_eq_true _ _).mp reused
  obtain ⟨retired, object, extent, unused⟩ := of_decide_eq_true reused
  obtain ⟨object', extent', unused'⟩ := allocated
  obtain ⟨conserved, independent⟩ := pools_conserved reachable_smallAllocated .data
  refine ⟨returned, execution, retired, conserved,
    independent returned ⟨fun _ => 0, smallRegion, rfl, Run.reaches_of_runLabels execution⟩
      (liveExtents_congr fun index inside => ?_)⟩
  obtain rfl | rfl : index = 0 ∨ index = 1 := by
    have : smallLayout.slotCapacity = 2 := rfl
    omega
  · exact ⟨object.trans object'.symm, fun _ => extent.trans extent'.symm⟩
  · exact ⟨unused.trans unused'.symm, fun used => absurd unused' used⟩

/-! ## Search -/

/-- `AllocateExtentLocked` answers a request as a scan of the address list would. -/
structure SearchAgrees (extents : ExtentHeader) (pool : ExtentPool) (bytes alignment : Nat) :
    Prop where
  /-- It succeeds exactly if some free extent can hold the request. -/
  succeeds : (∃ start, (extents.allocateExtent pool bytes alignment).1 = .ok start) ↔
    ∃ extent ∈ extents.freeExtents pool, extent.CanHold bytes alignment
  /-- It returns the aligned start inside such an extent. -/
  start : ∀ start, (extents.allocateExtent pool bytes alignment).1 = .ok start →
    ∃ extent ∈ extents.freeExtents pool, extent.CanHold bytes alignment ∧
      extent.Serves bytes alignment start ∧ alignment ∣ start
  /-- It visits nodes of the address list, each at most once. -/
  visits : (extents.visitBins pool bytes alignment extents.extentNodeCapacity
      (extents.availableBins pool bytes)).Nodup ∧
    ∀ index ∈ extents.visitBins pool bytes alignment extents.extentNodeCapacity
      (extents.availableBins pool bytes),
      index ∈ Linked.walk extents.next extents.extentNodeCapacity (extents.freeHead pool)
  /-- It ends: more steps find nothing else. -/
  ends : ∀ fuel, extents.extentNodeCapacity ≤ fuel →
    extents.visitBins pool bytes alignment fuel (extents.availableBins pool bytes) =
        extents.visitBins pool bytes alignment extents.extentNodeCapacity
          (extents.availableBins pool bytes) ∧
      ∀ bin, extents.walkBin bytes alignment fuel (extents.bins pool bin) =
        extents.walkBin bytes alignment extents.extentNodeCapacity (extents.bins pool bin)

/-- In every state of every run with an unused node, the size-bin search agrees with a full scan. -/
theorem search_agrees (reachable : Reachable layout state) (pool : ExtentPool)
    {bytes alignment : Nat} (positive : 0 < bytes) (power : alignment.isPowerOfTwo)
    (fits : alignment < wordLimit) (spare : 1 ≤ availableNodes state.extents) :
    SearchAgrees state.extents pool bytes alignment := by
  have ledger := reachable.ledger
  rw [ledger.availableNodes_eq] at spare
  obtain ⟨lists, unused, represents, extents⟩ := ledger.manages.represents
  have inWord := ledger.manages.node_inWord extents
  obtain ⟨owner, searchable, owned⟩ := represents.searchable inWord
  have walk : Linked.walk state.extents.next state.extents.extentNodeCapacity
      (state.extents.freeHead pool) = lists pool :=
    (represents.threaded.chain pool).forward.walk_eq (represents.threaded.length_le pool)
  have members : ∀ extent, extent ∈ state.extents.freeExtents pool ↔
      ∃ index, owner index = some pool ∧ state.extents.extent index = extent := by
    intro extent
    rw [← extents, List.mem_map]
    exact exists_congr fun index => and_congr_left fun _ => (owned index pool).symm
  have outcome := @ExtentHeader.Manages.allocateExtent _ _ _ pool bytes alignment ledger.manages
    positive
  have scan := @ExtentHeader.Searchable.findExtent_isSome _ _ pool bytes alignment searchable power
    fits
  have nodup : (state.extents.availableBins pool bytes).Nodup := List.nodup_range.filter _
  refine ⟨⟨?_, ?_⟩, fun start result => ?_, ?_, fun fuel enough => ⟨?_, fun bin => ?_⟩⟩
  · rintro ⟨start, result⟩
    rcases outcome with ⟨refused, -, -⟩ | ⟨refused, -, -⟩ |
      ⟨_, before, after, extent, -, serves, -⟩
    · rw [refused] at result
      cases result
    · rw [refused] at result
      cases result
    · obtain ⟨divides, -, -⟩ := ledger.manages.taken serves power fits
      exact ⟨extent, by rw [serves.member]; simp, _, divides, serves.low, serves.high⟩
  · rintro ⟨extent, member, holds⟩
    rcases outcome with ⟨-, -, missing⟩ | ⟨-, -, exhausted⟩ | ⟨start, -, -, -, result, -, -⟩
    · obtain ⟨index, mine, rfl⟩ := (members extent).mp member
      have found := scan.mpr ⟨index, mine, holds⟩
      rw [missing] at found
      cases found
    · omega
    · exact ⟨start, result⟩
  · rcases outcome with ⟨refused, -, -⟩ | ⟨refused, -, -⟩ |
      ⟨start', before, after, extent, result', serves, -⟩
    · rw [refused] at result
      cases result
    · rw [refused] at result
      cases result
    · obtain rfl : start' = start := by
        rw [result'] at result
        exact Except.ok.inj result
      obtain ⟨divides, -, -⟩ := ledger.manages.taken serves power fits
      exact ⟨extent, by rw [serves.member]; simp, ⟨start', divides, serves.low, serves.high⟩,
        serves.toServes, divides⟩
  · obtain ⟨once, inside, -⟩ := @ExtentHeader.Searchable.visits _ _ pool bytes alignment searchable
      _ (Nat.le_refl _) _ nodup
    refine ⟨once, fun index member => ?_⟩
    rw [walk]
    exact (owned index pool).mp (inside index member).1
  · exact (searchable.visits enough _ nodup).2.2
  · obtain ⟨cells, segment, -, short, -⟩ := searchable.bin pool bin
    rw [ExtentHeader.walkBin_eq segment (short.trans enough),
      ExtentHeader.walkBin_eq segment short]

theorem search_agrees_smallAllocated :
    1 ≤ availableNodes smallAllocated.extents ∧
      SearchAgrees smallAllocated.extents .data 100 64 := by
  have spare : 1 ≤ availableNodes smallAllocated.extents := by decide +kernel
  exact ⟨spare, search_agrees reachable_smallAllocated .data (by decide) ⟨6, by decide⟩ (by decide)
    spare⟩

end Cxloom.LoomMem.Allocator
