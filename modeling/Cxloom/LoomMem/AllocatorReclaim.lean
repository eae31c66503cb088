import Cxloom.LoomMem.AllocatorPools

/-!
# Reclaiming storage

`Free` returns both extents of an object or changes nothing.  It reserves two unused extent nodes
for the worst case, and refuses when there are fewer; with fewer objects than slots this cannot
happen.
-/

namespace Cxloom.LoomMem.Allocator

variable {layout : AllocatorLayout} {state : Allocator}

/-! ## All or nothing -/

/-- The storage of an object was returned. -/
structure Frees (layout : AllocatorLayout) (state after : Allocator) (object : GlobalPointer) :
    Prop where
  freed : ∀ pool, Extent.cellsOf (after.extents.freeExtents pool) =
    Extent.cellsOf (state.extents.freeExtents pool) ∪
      (recorded state.memory object.offset pool).cells
  /-- Its extents were not free before. -/
  unfree : ∀ pool, Disjoint (recorded state.memory object.offset pool).cells
    (Extent.cellsOf (state.extents.freeExtents pool))
  empty : descriptor after.memory object.offset .state = AllocationState.empty.code ∧
    descriptor after.memory object.offset .magic = 0
  slot : ∃ slot ∈ live layout state, (state.slots slot).objectOffset = object.offset ∧
    after.slots = Function.update state.slots slot ⟨0, 0⟩
  /-- The other descriptors stay. -/
  others : ∀ index ∈ live layout after, ∀ field,
    descriptor after.memory (after.slots index).objectOffset field =
      descriptor state.memory (after.slots index).objectOffset field
  idle : after.retirement.current.phase = .idle

/-- The outcome of `Free` with everything that it checks. -/
theorem Ledger.frees (ledger : Ledger layout state) {slot : Nat} (here : slot ∈ live layout state)
    {object : GlobalPointer} (published : (state.slots slot).objectOffset = object.offset)
    {extents : ExtentHeader} (reclaimed : Reclaimed layout state object.offset extents) :
    Frees layout state (Allocator.freed state slot object.offset extents) object where
  freed := reclaimed.freed
  unfree pool := by
    rw [← published]
    exact (ledger.partition pool).unfree slot here
  empty := by
    simp only [Allocator.freed]
    constructor
    · rw [descriptor_setDescriptor_of_ne (by decide), descriptor_setDescriptor]
      rfl
    · rw [descriptor_setDescriptor, Nat.zero_mod]
  slot := ⟨slot, here, published, rfl⟩
  others := by
    intro index member field
    have different : index ≠ slot := by
      rintro rfl
      refine member.2 ?_
      simp [Allocator.freed]
    have same : (Allocator.freed state slot object.offset extents).slots index =
        state.slots index := Function.update_of_ne different _ _
    rw [same]
    have there : index ∈ live layout state := by
      refine ⟨member.1, ?_⟩
      rw [← same]
      exact member.2
    exact ledger.descriptor_freed here published extents there (Ne.symm different) field
  idle := rfl

/-- In every state of every run `Free` returns the whole storage of an object, or it fails and
changes nothing. -/
theorem free_all_or_nothing (reachable : Reachable layout state) (host : HostId)
    (object : GlobalPointer) :
    ((free layout state host object).1 = .ok ∧
        Frees layout state (free layout state host object).2 object) ∨
      ((free layout state host object).1.isOk = false ∧
        (free layout state host object).2 = state) := by
  have ledger := reachable.ledger
  rcases ledger.free_cases host object with
    ⟨-, status, failed, result⟩ | ⟨slot, extents, ready, -, reclaimed, result⟩
  · rw [result]
    exact .inr ⟨failed, rfl⟩
  · rw [result]
    exact .inl ⟨rfl, ledger.frees ready.member ready.published reclaimed⟩

/-- The only participant acknowledges the current phase. -/
def acknowledged (state : Allocator) : Allocator :=
  (acknowledgeRetirement smallLayout state state.retirement.current smallHost fun _ => 0).2

/-- The object of the small region is ready to be freed. -/
def smallReclaimable : Allocator :=
  acknowledged (acknowledged (acknowledged
    (beginRetire smallLayout smallAllocated smallHost ⟨0, 8832⟩ 1).2))

theorem reachable_smallReclaimable : Reachable smallLayout smallReclaimable := by
  have retiring := reachable_smallAllocated.beginRetire (by decide +kernel) smallHost ⟨0, 8832⟩ 1
  have closed := retiring.acknowledgeRetirement (by decide +kernel)
    (beginRetire smallLayout smallAllocated smallHost ⟨0, 8832⟩ 1).2.retirement.current smallHost
    fun _ => 0
  have drained := closed.acknowledgeRetirement (by decide +kernel)
    (acknowledged (beginRetire smallLayout smallAllocated smallHost ⟨0, 8832⟩
      1).2).retirement.current smallHost fun _ => 0
  exact drained.acknowledgeRetirement (by decide +kernel)
    (acknowledged (acknowledged (beginRetire smallLayout smallAllocated smallHost ⟨0, 8832⟩
      1).2)).retirement.current smallHost fun _ => 0

theorem free_all_or_nothing_smallReclaimable :
    (free smallLayout smallReclaimable smallHost ⟨0, 8832⟩).1 = .ok ∧
      Frees smallLayout smallReclaimable
        (free smallLayout smallReclaimable smallHost ⟨0, 8832⟩).2 ⟨0, 8832⟩ := by
  have succeeds : (free smallLayout smallReclaimable smallHost ⟨0, 8832⟩).1.isOk = true := by
    decide +kernel
  rcases free_all_or_nothing reachable_smallReclaimable smallHost ⟨0, 8832⟩ with
    freed | ⟨failed, -⟩
  · exact freed
  · rw [succeeds] at failed
    cases failed

/-! ## Extent metadata -/

/-- Number of published objects. -/
def liveCount (layout : AllocatorLayout) (state : Allocator) : Nat :=
  ((List.range layout.slotCapacity).filter fun index => (state.slots index).objectOffset ≠ 0).length

/-- There is at most one more free extent in a pool than published objects. -/
theorem Ledger.freeExtents_length_le (ledger : Ledger layout state) (pool : ExtentPool) :
    (state.extents.freeExtents pool).length ≤ liveCount layout state + 1 := by
  refine (ledger.partition pool).length_le (ledger.manages.separated pool) fun index member => ?_
  rw [List.mem_filter, List.mem_range]
  exact ⟨member.1, by simpa using member.2⟩

/-- With twice as many nodes as slots, two unused nodes are left as long as two slots are. -/
theorem Ledger.two_le_availableNodes (ledger : Ledger layout state)
    (nodes : layout.extentNodeCapacity = 2 * layout.slotCapacity)
    (slots : liveCount layout state + 2 ≤ layout.slotCapacity) :
    2 ≤ availableNodes state.extents := by
  have total := ledger.manages.length_le
  have data := ledger.freeExtents_length_le .data
  have coherence := ledger.freeExtents_length_le .coherence
  have capacity := ledger.capacity
  rw [ledger.availableNodes_eq]
  omega

/-- An object that all hosts have retired and that nobody uses. -/
structure Retired (layout : AllocatorLayout) (state : Allocator) (host : HostId) (slot : Nat) :
    Prop where
  /-- The slot publishes an object. -/
  member : slot ∈ live layout state
  /-- All hosts completed the retirement. -/
  phase : state.retirement.current.phase = .reclaimable
  transaction : state.retirement.current.object = ⟨0, (state.slots slot).objectOffset⟩
  coordinator : state.retirement.current.coordinator = host
  unpinned : (state.slots slot).readers = 0
  /-- The object has no operation. -/
  quiet : ∀ active,
    descriptor state.memory (state.slots slot).objectOffset (.activeOperations active) = 0
  replicas : descriptor state.memory (state.slots slot).objectOffset .replicaHosts = 0

/-- In every state of every run `Free` reclaims a retired object exactly if two extent nodes are
unused, which is so as long as two slots are empty; otherwise it is refused and changes nothing. -/
theorem free_retired (reachable : Reachable layout state) {host : HostId} {slot : Nat}
    (retired : Retired layout state host slot) :
    ((free layout state host ⟨0, (state.slots slot).objectOffset⟩).1 = .ok ↔
        2 ≤ availableNodes state.extents) ∧
      (availableNodes state.extents < 2 →
        free layout state host ⟨0, (state.slots slot).objectOffset⟩ =
          (.unavailable "insufficient extent metadata to reclaim object atomically", state)) ∧
      (layout.extentNodeCapacity = 2 * layout.slotCapacity →
        liveCount layout state + 2 ≤ layout.slotCapacity →
        (free layout state host ⟨0, (state.slots slot).objectOffset⟩).1 = .ok) := by
  have ledger := reachable.ledger
  have granted : 2 ≤ availableNodes state.extents →
      (free layout state host ⟨0, (state.slots slot).objectOffset⟩).1 = .ok := by
    intro nodes
    have ready : Ready layout state host ⟨0, (state.slots slot).objectOffset⟩ slot :=
      ⟨retired.phase, retired.transaction, retired.coordinator, retired.member, rfl,
        retired.unpinned, retired.replicas, retired.quiet, nodes⟩
    rcases ledger.free_cases host ⟨0, (state.slots slot).objectOffset⟩ with
      ⟨refused, -⟩ | ⟨_, _, -, -, -, result⟩
    · exact (refused ⟨slot, ready, rfl⟩).elim
    · rw [result]
  have refused : availableNodes state.extents < 2 →
      free layout state host ⟨0, (state.slots slot).objectOffset⟩ =
        (.unavailable "insufficient extent metadata to reclaim object atomically", state) := by
    intro nodes
    have lookup : findDescriptor layout state.memory ⟨0, (state.slots slot).objectOffset⟩ true =
        .ok (state.slots slot).objectOffset :=
      (findDescriptor_eq_ok ledger.formatted).mpr ⟨rfl, rfl, ledger.accepted retired.member⟩
    have busy : ¬∃ active : HostId, descriptor state.memory (state.slots slot).objectOffset
        (.activeOperations active) ≠ 0 := by
      rintro ⟨active, some_⟩
      exact some_ (retired.quiet active)
    simp only [free, retired.phase, retired.transaction, retired.coordinator,
      ledger.findSlot_eq retired.member, retired.unpinned, lookup, retired.replicas, ne_eq,
      not_true, or_self, if_false]
    rw [if_neg busy, if_pos nodes]
  refine ⟨⟨fun ok => ?_, granted⟩, refused, fun nodes slots =>
    granted (ledger.two_le_availableNodes nodes slots)⟩
  by_contra few
  rw [refused (by omega)] at ok
  cases congrArg Status.code ok

/-- The slot of a small region. -/
theorem free_retired_smallReclaimable :
    Retired smallLayout smallReclaimable smallHost 0 ∧
      2 ≤ availableNodes smallReclaimable.extents ∧
      (free smallLayout smallReclaimable smallHost
        ⟨0, (smallReclaimable.slots 0).objectOffset⟩).1 = .ok := by
  have retired : Retired smallLayout smallReclaimable smallHost 0 := by
    refine ⟨⟨by decide +kernel, by decide +kernel⟩, ?_, ?_, ?_, ?_, ?_, ?_⟩ <;> decide +kernel
  have nodes : 2 ≤ availableNodes smallReclaimable.extents := by decide +kernel
  exact ⟨retired, nodes, (free_retired reachable_smallReclaimable retired).1.mpr nodes⟩

/-- Both slots of the small region are in use, and the first object is ready to be freed. -/
def smallCrowded : Allocator :=
  acknowledged (acknowledged (acknowledged
    (beginRetire smallLayout (allocate smallLayout smallAllocated smallHost 4096 ⟨1, 1, 0⟩).2
      smallHost ⟨0, 8832⟩ 1).2))

/-- A retired object that nobody uses and that cannot be freed for want of extent nodes. -/
theorem free_refuses_retired :
    smallLayout.extentNodeCapacity = 2 * smallLayout.slotCapacity ∧
      Reachable smallLayout smallCrowded ∧ Retired smallLayout smallCrowded smallHost 0 ∧
      (free smallLayout smallCrowded smallHost ⟨0, (smallCrowded.slots 0).objectOffset⟩).1 =
        .unavailable "insufficient extent metadata to reclaim object atomically" := by
  have full := reachable_smallAllocated.allocate (by decide +kernel) smallHost 4096 ⟨1, 1, 0⟩
  have retiring := full.beginRetire (by decide +kernel) smallHost ⟨0, 8832⟩ 1
  have closed := retiring.acknowledgeRetirement (by decide +kernel)
    (beginRetire smallLayout (allocate smallLayout smallAllocated smallHost 4096 ⟨1, 1, 0⟩).2
      smallHost ⟨0, 8832⟩ 1).2.retirement.current smallHost fun _ => 0
  have drained := closed.acknowledgeRetirement (by decide +kernel)
    (acknowledged (beginRetire smallLayout
      (allocate smallLayout smallAllocated smallHost 4096 ⟨1, 1, 0⟩).2
      smallHost ⟨0, 8832⟩ 1).2).retirement.current smallHost fun _ => 0
  have cleaned := drained.acknowledgeRetirement (by decide +kernel)
    (acknowledged (acknowledged (beginRetire smallLayout
      (allocate smallLayout smallAllocated smallHost 4096 ⟨1, 1, 0⟩).2
      smallHost ⟨0, 8832⟩ 1).2)).retirement.current smallHost fun _ => 0
  refine ⟨rfl, cleaned, ?_, by decide +kernel⟩
  refine ⟨⟨by decide +kernel, by decide +kernel⟩, ?_, ?_, ?_, ?_, ?_, ?_⟩ <;> decide +kernel

end Cxloom.LoomMem.Allocator
