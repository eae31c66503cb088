import Cxloom.LoomMem.AllocatorPools
import Mathlib.Algebra.Ring.Int.Defs
import Mathlib.Data.Int.Cast.Basic

/-!
# Allocation requests

A request that fails leaves the free extents, the slots and every byte of shared memory as they
were. A request that succeeds computes with exact integers throughout, and its object, its
descriptor and every block of its sidecar have their own storage.
-/

namespace Cxloom.LoomMem.Allocator

variable {layout : AllocatorLayout} {state : Allocator}

/-! ## Failure -/

/-- Nothing that an operation can see has changed. -/
structure Unchanged (before after : Allocator) : Prop where
  freeExtents : ∀ pool, after.extents.freeExtents pool = before.extents.freeExtents pool
  slots : after.slots = before.slots
  /-- The descriptors stay. -/
  memory : after.memory = before.memory
  /-- The retirement control stays. -/
  retirement : after.retirement = before.retirement

/-- A data extent that was just taken can always be given back. -/
theorem Ledger.rollback (ledger : Ledger layout state) {dataExtentBytes coherenceExtentBytes
    dataExtent : Nat} {status : Status} (data_pos : 0 < dataExtentBytes)
    (coherence_pos : 0 < coherenceExtentBytes)
    (data : (state.extents.allocateExtent .data dataExtentBytes alignofAllocationDescriptor).1 =
      .ok dataExtent)
    (coherence : ((state.extents.allocateExtent .data dataExtentBytes
      alignofAllocationDescriptor).2.allocateExtent .coherence coherenceExtentBytes
        alignofCoherenceBlockDescriptor).1 = .error status) :
    (((state.extents.allocateExtent .data dataExtentBytes
        alignofAllocationDescriptor).2.allocateExtent .coherence coherenceExtentBytes
          alignofCoherenceBlockDescriptor).2.freeExtent .data dataExtent dataExtentBytes).1 = .ok ∧
      (((state.extents.allocateExtent .data dataExtentBytes
        alignofAllocationDescriptor).2.allocateExtent .coherence coherenceExtentBytes
          alignofCoherenceBlockDescriptor).2.freeExtent .data dataExtent
            dataExtentBytes).2.freeExtents = state.extents.freeExtents := by
  have capacity := state.extents.allocateExtent_extentNodeCapacity .data dataExtentBytes
    alignofAllocationDescriptor
  rcases @ExtentHeader.Manages.allocateExtent _ _ _ .data dataExtentBytes
    alignofAllocationDescriptor ledger.manages data_pos with
    ⟨refused, -, -⟩ | ⟨refused, -, -⟩ | ⟨start, before, after, extent, result, serves, manages⟩
  · rw [refused] at data
    cases data
  · rw [refused] at data
    cases data
  · obtain rfl : start = dataExtent := by
      rw [result] at data
      exact Except.ok.inj data
    generalize (state.extents.allocateExtent .data dataExtentBytes
      alignofAllocationDescriptor).2 = middle at capacity manages coherence ⊢
    have capacity' := middle.allocateExtent_extentNodeCapacity .coherence coherenceExtentBytes
      alignofCoherenceBlockDescriptor
    have kept : (middle.allocateExtent .coherence coherenceExtentBytes
        alignofCoherenceBlockDescriptor).2.Manages layout.range
        (Function.update state.extents.freeExtents .data
          (before ++ (Extent.remainder extent start dataExtentBytes ++ after))) := by
      rcases @ExtentHeader.Manages.allocateExtent _ _ _ .coherence coherenceExtentBytes
        alignofCoherenceBlockDescriptor manages coherence_pos with
        ⟨-, same, -⟩ | ⟨-, manages', -⟩ | ⟨sidecar, -, -, -, granted, -, -⟩
      · rw [same]
        exact manages
      · exact manages'
      · rw [granted] at coherence
        cases coherence
    obtain ⟨status, restored⟩ :=
      ledger.manages.undo serves data_pos (capacity'.trans capacity) kept
    exact ⟨status, restored.freeExtents_eq⟩

/-- In every state of every run an allocation that fails changes nothing, and undoing its data
extent always succeeds and restores the free extents. -/
theorem failed_allocate_unchanged (reachable : Reachable layout state) (host : HostId)
    (defaultBlockBytes : UInt64) (options : AllocationOptions) :
    ((∃ status, (allocate layout state host defaultBlockBytes options).1 = .error status) →
      Unchanged state (allocate layout state host defaultBlockBytes options).2) ∧
    ∀ dataExtentBytes coherenceExtentBytes dataExtent status, 0 < dataExtentBytes →
      0 < coherenceExtentBytes →
      (state.extents.allocateExtent .data dataExtentBytes alignofAllocationDescriptor).1 =
        .ok dataExtent →
      ((state.extents.allocateExtent .data dataExtentBytes
        alignofAllocationDescriptor).2.allocateExtent .coherence coherenceExtentBytes
          alignofCoherenceBlockDescriptor).1 = .error status →
      (((state.extents.allocateExtent .data dataExtentBytes
        alignofAllocationDescriptor).2.allocateExtent .coherence coherenceExtentBytes
          alignofCoherenceBlockDescriptor).2.freeExtent .data dataExtent dataExtentBytes).1 = .ok ∧
      (((state.extents.allocateExtent .data dataExtentBytes
        alignofAllocationDescriptor).2.allocateExtent .coherence coherenceExtentBytes
          alignofCoherenceBlockDescriptor).2.freeExtent .data dataExtent
            dataExtentBytes).2.freeExtents = state.extents.freeExtents := by
  have ledger := reachable.ledger
  refine ⟨fun failed => ?_, fun _ _ _ _ data_pos coherence_pos data coherence =>
    ledger.rollback data_pos coherence_pos data coherence⟩
  rcases ledger.allocate_cases host defaultBlockBytes options with
    ⟨status, extents, restores, result⟩ |
    ⟨-, extents, slot, dataExtent, sidecar, object, -, result⟩
  · rw [result]
    exact ⟨fun pool => congrFun restores.manages.freeExtents_eq pool, rfl, rfl, rfl⟩
  · rw [result] at failed
    obtain ⟨status, refused⟩ := failed
    cases refused

theorem failed_allocate_unchanged_smallAllocated :
    (∃ status, (allocate smallLayout smallAllocated smallHost 4096 ⟨8000, 1, 0⟩).1 =
        .error status) ∧
      Unchanged smallAllocated
        (allocate smallLayout smallAllocated smallHost 4096 ⟨8000, 1, 0⟩).2 := by
  have failed : ∃ status,
      (allocate smallLayout smallAllocated smallHost 4096 ⟨8000, 1, 0⟩).1 = .error status := by
    cases result : (allocate smallLayout smallAllocated smallHost 4096 ⟨8000, 1, 0⟩).1 with
    | error status => exact ⟨status, rfl⟩
    | ok object =>
        have refused : (allocate smallLayout smallAllocated smallHost 4096
            ⟨8000, 1, 0⟩).1.toOption = none := by decide +kernel
        rw [result] at refused
        cases refused
  exact ⟨failed, (failed_allocate_unchanged reachable_smallAllocated smallHost 4096
    ⟨8000, 1, 0⟩).1 failed⟩

/-! ## Exact arithmetic -/

/-- The size computations of a request are exact. -/
structure ExactSizes (bytes alignment blockBytes : Nat) : Prop where
  /-- `bytes - 1`. -/
  bytesMask : (sub64 bytes 1 : Int) = bytes - 1
  /-- `alignment - 1`. -/
  alignmentMask : (sub64 alignment 1 : Int) = alignment - 1
  /-- `block_bytes - 1`. -/
  blockMask : (sub64 blockBytes 1 : Int) = blockBytes - 1
  /-- `block_count`. -/
  blockCount : (add64 1 (sub64 bytes 1 / blockBytes) : Int) = 1 + (bytes - 1) / blockBytes
  /-- `UINT64_MAX - sizeof(AllocationDescriptor)`. -/
  headroom : (sub64 kUint64Max sizeofAllocationDescriptor : Int) =
    kUint64Max - sizeofAllocationDescriptor
  /-- `UINT64_MAX - sizeof(AllocationDescriptor) - (alignment - 1)`. -/
  limit : (sub64 (sub64 kUint64Max sizeofAllocationDescriptor) (sub64 alignment 1) : Int) =
    kUint64Max - sizeofAllocationDescriptor - (alignment - 1)
  /-- `sizeof(AllocationDescriptor) + bytes`. -/
  described : (add64 sizeofAllocationDescriptor bytes : Int) = sizeofAllocationDescriptor + bytes
  /-- `sizeof(AllocationDescriptor) + bytes + alignment`. -/
  padded : (add64 (add64 sizeofAllocationDescriptor bytes) alignment : Int) =
    sizeofAllocationDescriptor + bytes + alignment
  /-- `data_extent_bytes`. -/
  dataExtentBytes : (sub64 (add64 (add64 sizeofAllocationDescriptor bytes) alignment) 1 : Int) =
    sizeofAllocationDescriptor + bytes + alignment - 1
  /-- `coherence_extent_bytes`. -/
  coherenceExtentBytes :
    (mul64 (add64 1 (sub64 bytes 1 / blockBytes)) sizeofCoherenceBlockDescriptor : Int) =
      (1 + (bytes - 1) / blockBytes) * sizeofCoherenceBlockDescriptor

/-- The fit test of an extent is exact as far as it is evaluated. -/
structure ExactFit (extent : Extent) (alignment : Nat) : Prop where
  /-- `node.offset + node.bytes`. -/
  stop : (add64 extent.offset extent.bytes : Int) = extent.offset + extent.bytes
  /-- The sum that `AlignUp` rounds. -/
  rounded : extent.offset ≤ sub64 kUint64Max (sub64 alignment 1) →
    (add64 extent.offset (sub64 alignment 1) : Int) = extent.offset + (alignment - 1)
  /-- `node.offset + node.bytes - allocated_offset`. -/
  room : alignUp extent.offset alignment ≤ add64 extent.offset extent.bytes →
    (sub64 (add64 extent.offset extent.bytes) (alignUp extent.offset alignment) : Int) =
      extent.offset + extent.bytes - alignUp extent.offset alignment

/-- The split of the chosen extent is exact. -/
structure ExactSplit (extent : Extent) (start bytes : Nat) : Prop where
  /-- `prefix`. -/
  prefixBytes : (sub64 start extent.offset : Int) = start - extent.offset
  /-- `suffix_offset`. -/
  suffixOffset : (add64 start bytes : Int) = start + bytes
  /-- `suffix`. -/
  suffixBytes : (sub64 (add64 extent.offset extent.bytes) (add64 start bytes) : Int) =
    extent.offset + extent.bytes - (start + bytes)

/-- The place of an object inside its data extent is exact. -/
structure ExactPlace (dataExtent alignment object : Nat) : Prop where
  /-- `data_extent + sizeof(AllocationDescriptor)`. -/
  base : (add64 dataExtent sizeofAllocationDescriptor : Int) =
    dataExtent + sizeofAllocationDescriptor
  /-- The bound that `AlignUp` checks. -/
  limit : (sub64 kUint64Max (sub64 alignment 1) : Int) = kUint64Max - (alignment - 1)
  /-- The sum that `AlignUp` rounds. -/
  rounded : (add64 (add64 dataExtent sizeofAllocationDescriptor) (sub64 alignment 1) : Int) =
    dataExtent + sizeofAllocationDescriptor + (alignment - 1)
  /-- The object is the rounded sum. -/
  object_eq : object = alignUp (add64 dataExtent sizeofAllocationDescriptor) alignment
  /-- `object_offset - sizeof(AllocationDescriptor)`. -/
  below : (sub64 object sizeofAllocationDescriptor : Int) = object - sizeofAllocationDescriptor

theorem Admissible.exactSizes {bytes alignment blockBytes : Nat}
    (admissible : Admissible bytes alignment blockBytes) (block_lt : blockBytes < wordLimit)
    (short : sizeofAllocationDescriptor + bytes + alignment < wordLimit) :
    ExactSizes bytes alignment blockBytes := by
  have bytes_pos := admissible.bytes_pos
  have alignment_pos := admissible.alignment_pos
  have half := isPowerOfTwo_le admissible.power admissible.alignment_lt
  have block_le := admissible.block_le
  have sidecar_lt := admissible.sidecar_lt
  have bytesMask : sub64 bytes 1 = bytes - 1 := sub64_of_le bytes_pos (by omega)
  have alignmentMask : sub64 alignment 1 = alignment - 1 := sub64_of_le alignment_pos (by omega)
  have blockMask : sub64 blockBytes 1 = blockBytes - 1 := sub64_of_le (by omega) block_lt
  have headroom : sub64 kUint64Max sizeofAllocationDescriptor =
      kUint64Max - sizeofAllocationDescriptor := sub64_of_le (by decide) (by decide)
  have limit : sub64 (kUint64Max - sizeofAllocationDescriptor) (alignment - 1) =
      kUint64Max - sizeofAllocationDescriptor - (alignment - 1) := by
    refine sub64_of_le ?_ (by decide)
    simp only [kUint64Max, wordLimit, sizeofAllocationDescriptor]
    omega
  have quotient : (bytes - 1) / blockBytes ≤ bytes - 1 := Nat.div_le_self _ _
  have count : add64 1 ((bytes - 1) / blockBytes) = 1 + (bytes - 1) / blockBytes :=
    add64_of_lt (by omega)
  have described : add64 sizeofAllocationDescriptor bytes = sizeofAllocationDescriptor + bytes :=
    add64_of_lt (by omega)
  have padded : add64 (sizeofAllocationDescriptor + bytes) alignment =
      sizeofAllocationDescriptor + bytes + alignment := add64_of_lt short
  have dataExtentBytes : sub64 (sizeofAllocationDescriptor + bytes + alignment) 1 =
      sizeofAllocationDescriptor + bytes + alignment - 1 := sub64_of_le (by omega) short
  have fitsLimit : alignment - 1 ≤ kUint64Max - sizeofAllocationDescriptor := by
    simp only [kUint64Max, wordLimit, sizeofAllocationDescriptor]
    omega
  constructor
  · rw [bytesMask, Nat.cast_sub bytes_pos, Nat.cast_one]
  · rw [alignmentMask, Nat.cast_sub alignment_pos, Nat.cast_one]
  · rw [blockMask, Nat.cast_sub (by omega), Nat.cast_one]
  · rw [bytesMask, count, Nat.cast_add, Nat.cast_one, Int.natCast_ediv, Nat.cast_sub bytes_pos,
      Nat.cast_one]
  · rw [headroom, Nat.cast_sub (by decide)]
  · rw [headroom, alignmentMask, limit, Nat.cast_sub fitsLimit, Nat.cast_sub (by decide),
      Nat.cast_sub alignment_pos, Nat.cast_one]
  · rw [described, Nat.cast_add]
  · rw [described, padded, Nat.cast_add, Nat.cast_add]
  · rw [described, padded, dataExtentBytes, Nat.cast_sub (by omega), Nat.cast_add, Nat.cast_add,
      Nat.cast_one]
  · rw [bytesMask, count, mul64_of_lt sidecar_lt, Nat.cast_mul, Nat.cast_add, Nat.cast_one,
      Int.natCast_ediv, Nat.cast_sub bytes_pos, Nat.cast_one]

theorem exactFit {extent : Extent} (inside : extent.stop < wordLimit) :
    ExactFit extent alignofAllocationDescriptor := by
  have stop : add64 extent.offset extent.bytes = extent.offset + extent.bytes := add64_of_lt inside
  have mask : sub64 alignofAllocationDescriptor 1 = 63 := by decide
  have limit : sub64 kUint64Max 63 = kUint64Max - 63 := by decide
  refine ⟨?_, fun small => ?_, fun order => ?_⟩
  · rw [stop, Nat.cast_add]
  · rw [mask, limit] at small
    rw [mask, add64_of_lt, Nat.cast_add]
    · rfl
    · simp only [kUint64Max, wordLimit] at small ⊢
      omega
  · rw [stop] at order ⊢
    rw [sub64_of_le order inside, Nat.cast_sub order, Nat.cast_add]

theorem exactSplit {extent : Extent} {bytes alignment start : Nat}
    (serves : extent.Serves bytes alignment start) (inside : extent.stop < wordLimit) :
    ExactSplit extent start bytes := by
  have low := serves.low
  have high := serves.high
  have stop : add64 extent.offset extent.bytes = extent.stop := add64_of_lt inside
  have suffix : add64 start bytes = start + bytes := add64_of_lt (by omega)
  constructor
  · rw [sub64_of_le low (by omega), Nat.cast_sub low]
  · rw [suffix, Nat.cast_add]
  · rw [stop, suffix, sub64_of_le high inside, Nat.cast_sub high, Extent.stop, Nat.cast_add,
      Nat.cast_add]

theorem Reservation.exactPlace {extents : ExtentHeader} {bytes alignment blockBytes dataExtentBytes
    coherenceExtentBytes slot dataExtent sidecar object : Nat}
    (reservation : Reservation layout state extents bytes alignment dataExtentBytes
      coherenceExtentBytes slot dataExtent sidecar object)
    (admissible : Admissible bytes alignment blockBytes)
    (fits : dataExtent + sizeofAllocationDescriptor + (alignment - 1) < wordLimit)
    (object_lt : object < wordLimit) : ExactPlace dataExtent alignment object := by
  have alignment_pos := admissible.alignment_pos
  have alignment_lt := admissible.alignment_lt
  have low := reservation.low
  have base : add64 dataExtent sizeofAllocationDescriptor =
      dataExtent + sizeofAllocationDescriptor := add64_of_lt (by omega)
  have mask : sub64 alignment 1 = alignment - 1 := sub64_of_le alignment_pos alignment_lt
  have order : alignment - 1 ≤ kUint64Max := by
    simp only [kUint64Max]
    omega
  constructor
  · rw [base, Nat.cast_add]
  · rw [mask, sub64_of_le order (by decide), Nat.cast_sub order, Nat.cast_sub alignment_pos,
      Nat.cast_one]
  · rw [base, mask, add64_of_lt fits, Nat.cast_add, Nat.cast_add, Nat.cast_sub alignment_pos,
      Nat.cast_one]
  · rw [base]
    exact reservation.place
  · rw [sub64_of_le (by omega) object_lt, Nat.cast_sub (by omega)]

/-! ## Success -/

def footprint (memory : Memory) (object : Nat) : Set Nat :=
  Set.Ico (object - sizeofAllocationDescriptor) (object + descriptor memory object .bytes)

theorem footprint_subset {memory : Memory} {object : Nat}
    (described : Described memory object) :
    footprint memory object ⊆ (recorded memory object .data).cells := by
  rintro cell ⟨low, high⟩
  by_cases before : cell < object
  · exact described.descriptor_cells low before
  · exact described.payload_cells (Nat.le_of_not_lt before) high

/-- What a successful allocation promises. -/
structure Allocates (layout : AllocatorLayout) (state after : Allocator)
    (bytes alignment blockBytes : Nat) (object : GlobalPointer) : Prop where
  region : object.regionId = 0
  sizes : ExactSizes bytes alignment blockBytes
  fits : ∀ pool, ∀ extent ∈ state.extents.freeExtents pool, ExactFit extent 64
  /-- The split of the data pool is exact. -/
  data : ∃ extent ∈ state.extents.freeExtents .data,
    extent.Serves (recorded after.memory object.offset .data).bytes 64
        (recorded after.memory object.offset .data).offset ∧
      ExactSplit extent (recorded after.memory object.offset .data).offset
        (recorded after.memory object.offset .data).bytes
  /-- The split of the coherence pool is exact. -/
  coherence : ∃ extent ∈ state.extents.freeExtents .coherence,
    extent.Serves (recorded after.memory object.offset .coherence).bytes 64
        (recorded after.memory object.offset .coherence).offset ∧
      ExactSplit extent (recorded after.memory object.offset .coherence).offset
        (recorded after.memory object.offset .coherence).bytes
  place : ExactPlace (recorded after.memory object.offset .data).offset alignment object.offset
  /-- The object has the requested size. -/
  bytes_eq : descriptor after.memory object.offset .bytes = bytes
  dvd : alignment ∣ object.offset
  published : ∃ slot, slot ∉ live layout state ∧ slot ∈ live layout after ∧
    (after.slots slot).objectOffset = object.offset
  /-- Descriptor and payload lie inside the data extent. -/
  inside : footprint after.memory object.offset ⊆ (recorded after.memory object.offset .data).cells
  inPool : (recorded after.memory object.offset .data).cells ⊆ (layout.range .data).cells
  /-- Descriptor and payload intersect those of no other object. -/
  alone : ∀ index ∈ live layout after, (after.slots index).objectOffset ≠ object.offset →
    Disjoint (footprint after.memory object.offset)
      (footprint after.memory (after.slots index).objectOffset)
  descriptorAligned : alignofAllocationDescriptor ∣ object.offset - sizeofAllocationDescriptor
  /-- The blocks cover the payload. -/
  blockCount : descriptor after.memory object.offset .coherenceBlockCount =
    (bytes + blockBytes - 1) / blockBytes
  /-- Every block has an aligned entry inside the sidecar of the object. -/
  blocks : ∀ index < descriptor after.memory object.offset .coherenceBlockCount,
    ∀ allowRetiring, ∃ entry,
      mutableCoherenceBlock layout after object index allowRetiring = .ok entry ∧
        alignofCoherenceBlockDescriptor ∣ entry ∧
        (entry : Int) = (recorded after.memory object.offset .coherence).offset +
          index * sizeofCoherenceBlockDescriptor ∧
        Set.Ico entry (entry + sizeofCoherenceBlockDescriptor) ⊆
          (recorded after.memory object.offset .coherence).cells
  beyond : ∀ index, descriptor after.memory object.offset .coherenceBlockCount ≤ index →
    ∀ allowRetiring, mutableCoherenceBlock layout after object index allowRetiring =
      .error (.invalidArgument "coherence block index is out of range")

/-- Lookups find a published object whose slot has no pin. -/
theorem Ledger.mutableDescriptor_eq (ledger : Ledger layout state) {slot : Nat}
    (here : slot ∈ live layout state) (unpinned : (state.slots slot).readers = 0)
    (allocated : descriptor state.memory (state.slots slot).objectOffset .state =
      AllocationState.allocated.code) (allowRetiring : Bool) :
    mutableDescriptor layout state ⟨0, (state.slots slot).objectOffset⟩ allowRetiring =
      .ok (state.slots slot).objectOffset := by
  have pinned : ∃ index, lockAllocationSlot layout state
      ⟨0, (state.slots slot).objectOffset⟩ = .ok index := by
    rw [lockAllocationSlot, if_neg (by simpa using here.2)]
    cases found : (List.range layout.slotCapacity).find? fun index =>
      (state.slots index).objectOffset = (state.slots slot).objectOffset ∧
        (state.slots index).readers ≠ kUint32Max ∧
          (state.slots index).readers ≠ kUint32Max - 1 with
    | none =>
        have missed := List.find?_eq_none.mp found slot (List.mem_range.mpr here.1)
        rw [unpinned] at missed
        simp [kUint32Max] at missed
    | some index => exact ⟨index, rfl⟩
  obtain ⟨index, pinned⟩ := pinned
  have accepted := ledger.accepted here
  rw [mutableDescriptor, pinned]
  refine (findDescriptor_eq_ok ledger.formatted).mpr ⟨rfl, rfl, ?_⟩
  exact { accepted with state := .inl allocated }

theorem Ledger.mutableCoherenceBlock_eq (ledger : Ledger layout state) {slot : Nat}
    (here : slot ∈ live layout state) {allowRetiring : Bool}
    (lookup : mutableDescriptor layout state ⟨0, (state.slots slot).objectOffset⟩ allowRetiring =
      .ok (state.slots slot).objectOffset) {index : Nat}
    (below : index <
      descriptor state.memory (state.slots slot).objectOffset .coherenceBlockCount) :
    mutableCoherenceBlock layout state ⟨0, (state.slots slot).objectOffset⟩ index allowRetiring =
        .ok ((slotExtent state .coherence slot).offset + index * sizeofCoherenceBlockDescriptor) ∧
      (slotExtent state .coherence slot).offset + index * sizeofCoherenceBlockDescriptor +
          sizeofCoherenceBlockDescriptor ≤ (slotExtent state .coherence slot).stop := by
  have described := ledger.described slot here
  have bounds := ledger.slotExtent_bounds here .coherence
  have range_stop := ledger.formatted.range_stop
  have low := ledger.formatted.low
  have word := ledger.formatted.range_lt .coherence
  have blocks : (slotExtent state .coherence slot).bytes =
      descriptor state.memory (state.slots slot).objectOffset .coherenceBlockCount *
        sizeofCoherenceBlockDescriptor := described.blocks
  have order : (index + 1) * sizeofCoherenceBlockDescriptor ≤
      descriptor state.memory (state.slots slot).objectOffset .coherenceBlockCount *
        sizeofCoherenceBlockDescriptor := Nat.mul_le_mul_right _ below
  rw [Nat.add_mul, Nat.one_mul, ← blocks] at order
  have begins : layout.coherenceDataOffset ≤ (slotExtent state .coherence slot).offset := bounds.1
  have ends : (slotExtent state .coherence slot).offset +
      (slotExtent state .coherence slot).bytes ≤ layout.coherenceOffset +
        layout.coherenceBytes := by
    rw [← range_stop]
    exact bounds.2
  rw [range_stop] at word
  have product : mul64 index sizeofCoherenceBlockDescriptor =
      index * sizeofCoherenceBlockDescriptor := mul64_of_lt (by omega)
  have sum : add64 (slotExtent state .coherence slot).offset
      (index * sizeofCoherenceBlockDescriptor) =
      (slotExtent state .coherence slot).offset + index * sizeofCoherenceBlockDescriptor :=
    add64_of_lt (by omega)
  have sidecar : descriptor state.memory (state.slots slot).objectOffset .coherenceMetadataOffset =
      (slotExtent state .coherence slot).offset := rfl
  refine ⟨?_, by simp only [Extent.stop]; omega⟩
  simp only [mutableCoherenceBlock, lookup, sidecar, product, sum,
    AllocatorLayout.Formatted.coherence_stop_eq]
  rw [if_neg (by omega), if_neg, if_neg]
  · rw [sub64_of_le (by omega) (by omega)]
    omega
  · simp only [sizeofCoherenceRegionHeader] at low
    omega

/-- The number of blocks is the rounded quotient. -/
theorem blockCount_eq {bytes blockBytes : Nat} (bytes_pos : 0 < bytes)
    (block_pos : 0 < blockBytes) :
    1 + (bytes - 1) / blockBytes = (bytes + blockBytes - 1) / blockBytes := by
  have shape : bytes + blockBytes - 1 = bytes - 1 + blockBytes := by omega
  rw [shape, Nat.add_div_right _ block_pos, Nat.add_comm]

/-- The storage that an allocation reserved and described. -/
theorem Ledger.allocates (ledger : Ledger layout state) {after : Allocator}
    (ledger' : Ledger layout after) {extents : ExtentHeader} {host : HostId}
    {bytes alignment blockBytes blockCount dataExtentBytes coherenceExtentBytes slot dataExtent
      sidecar offset : Nat}
    (admissible : Admissible bytes alignment blockBytes) (block_lt : blockBytes < wordLimit)
    (dataExact : dataExtentBytes = sizeofAllocationDescriptor + bytes + (alignment - 1))
    (count : blockCount = 1 + (bytes - 1) / blockBytes)
    (coherenceExact : coherenceExtentBytes = blockCount * sizeofCoherenceBlockDescriptor)
    (reservation : Reservation layout state extents bytes alignment dataExtentBytes
      coherenceExtentBytes slot dataExtent sidecar offset)
    (memory : after.memory = constructed state host offset bytes alignment blockBytes blockCount
      sidecar dataExtent dataExtentBytes coherenceExtentBytes)
    (slots : after.slots = Function.update state.slots slot ⟨offset, 0⟩) :
    Allocates layout state after bytes alignment blockBytes ⟨0, offset⟩ := by
  have bytes_pos := admissible.bytes_pos
  have block_le := admissible.block_le
  have alignment_pos := admissible.alignment_pos
  have low := reservation.low
  have count_pos : 0 < blockCount := by
    rw [count]
    exact Nat.add_pos_left (by decide) _
  obtain ⟨objectWord, dataWord, -, -, -, dataLow, -, -, -⟩ :=
    ledger.reservation_lt reservation coherenceExact admissible count_pos
  obtain ⟨described, data, coherence⟩ :=
    ledger.described_constructed host reservation coherenceExact admissible count_pos
  rw [← memory] at described data coherence
  have lifecycle : descriptor after.memory offset .state = AllocationState.allocated.code := by
    rw [memory, ledger.descriptor_constructed reservation coherenceExact]
    rfl
  have length : descriptor after.memory offset .bytes = bytes := by
    rw [memory]
    exact ledger.descriptor_constructed_of_lt host reservation coherenceExact rfl
      (show bytes < wordLimit by omega)
  have quotient : (bytes - 1) / blockBytes ≤ bytes - 1 := Nat.div_le_self _ _
  have blocks : descriptor after.memory offset .coherenceBlockCount = blockCount := by
    rw [memory]
    exact ledger.descriptor_constructed_of_lt host reservation coherenceExact rfl
      (show blockCount < wordLimit by omega)
  have slot_eq : after.slots slot = ⟨offset, 0⟩ := by
    rw [slots, Function.update_self]
  have here : slot ∈ live layout after := by
    refine ⟨reservation.slot_lt, ?_⟩
    rw [slot_eq]
    simp only [sizeofAllocationDescriptor] at low ⊢
    omega
  have fresh : slot ∉ live layout state := by
    rintro ⟨-, used⟩
    rw [reservation.empty] at used
    exact used rfl
  have short : sizeofAllocationDescriptor + bytes + alignment < wordLimit := by
    have header := ledger.formatted.low
    have high := ledger.formatted.high
    have order := layout.coherence_le
    simp only [sizeofCoherenceRegionHeader] at header
    omega
  have inWord : ∀ pool, ∀ extent ∈ state.extents.freeExtents pool, extent.stop < wordLimit :=
    fun pool extent member =>
      (ledger.manages.inRange pool extent member).2.trans_lt (ledger.manages.inWord pool)
  have lookup : ∀ allowRetiring, mutableDescriptor layout after ⟨0, offset⟩ allowRetiring =
      .ok offset := by
    intro allowRetiring
    have found := @Ledger.mutableDescriptor_eq _ _ ledger' slot here
    rw [slot_eq] at found
    exact found rfl lifecycle allowRetiring
  have sidecar_eq : slotExtent after .coherence slot = ⟨sidecar, coherenceExtentBytes⟩ := by
    rw [slotExtent, slot_eq]
    exact coherence
  exact
    { region := rfl
      sizes := admissible.exactSizes block_lt short
      fits := fun pool extent member => exactFit (inWord pool extent member)
      data := by
        obtain ⟨extent, member, serves⟩ := reservation.data_served
        rw [data]
        exact ⟨extent, member, serves, exactSplit serves (inWord .data extent member)⟩
      coherence := by
        obtain ⟨extent, member, serves⟩ := reservation.sidecar_served
        rw [coherence]
        exact ⟨extent, member, serves, exactSplit serves (inWord .coherence extent member)⟩
      place := by
        rw [data]
        exact reservation.exactPlace admissible (by omega) (by omega)
      bytes_eq := length
      dvd := reservation.dvd
      published := ⟨slot, fresh, here, by rw [slot_eq]⟩
      inside := footprint_subset described
      inPool := by
        intro cell inside
        refine ((ledger'.partition .data).cover cell).mpr (.inr ⟨slot, here, ?_⟩)
        rw [slotExtent, slot_eq]
        exact inside
      alone := by
        intro index member different
        have apart : slot ≠ index := by
          rintro rfl
          rw [slot_eq] at different
          exact different rfl
        have disjoint := ledger'.disjoint here member apart .data
        rw [slotExtent, slot_eq] at disjoint
        exact disjoint.mono (footprint_subset described)
          (footprint_subset (ledger'.described index member))
      descriptorAligned := Nat.dvd_sub reservation.aligned (by decide)
      blockCount := by
        rw [blocks, count]
        exact blockCount_eq bytes_pos (by omega)
      blocks := by
        intro index below allowRetiring
        have found := @Ledger.mutableCoherenceBlock_eq _ _ ledger' slot here allowRetiring
        rw [slot_eq] at found
        obtain ⟨entry, ends⟩ := found (lookup allowRetiring) below
        rw [sidecar_eq] at entry ends
        refine ⟨_, entry, ?_, ?_, ?_⟩
        · exact Nat.dvd_add reservation.sidecarAligned (Dvd.dvd.mul_left (by decide) _)
        · rw [coherence]
          push_cast
          rfl
        · rw [coherence]
          rintro cell ⟨first, last⟩
          exact ⟨(Nat.le_add_right _ _).trans first, last.trans_le ends⟩
      beyond := by
        intro index above allowRetiring
        simp only [mutableCoherenceBlock, lookup]
        exact if_pos above }

/-- In every state of every run an allocation that succeeds, for any 64-bit request, computes
exactly and gives its object storage of its own. -/
theorem successful_allocate_exact (reachable : Reachable layout state) (host : HostId)
    (defaultBlockBytes : UInt64) (options : AllocationOptions) {object : GlobalPointer}
    {after : Allocator}
    (allocated : allocate layout state host defaultBlockBytes options = (.ok object, after)) :
    Allocates layout state after options.bytes.toNat options.alignment.toNat
      (blockBytesOf defaultBlockBytes options) object := by
  have ledger := reachable.ledger
  have block_lt : blockBytesOf defaultBlockBytes options < wordLimit := by
    rw [blockBytesOf]
    split
    · exact defaultBlockBytes.toNat_lt
    · exact options.coherenceBlockBytes.toNat_lt
  rcases ledger.allocate_cases host defaultBlockBytes options with
    ⟨status, extents, restores, result⟩ |
    ⟨admissible, extents, slot, dataExtent, sidecar, offset, reservation, result⟩
  · rw [result] at allocated
    cases allocated
  · rw [result] at allocated
    obtain ⟨rfl, rfl⟩ : ⟨0, offset⟩ = object ∧ _ = after :=
      ⟨Except.ok.inj (congrArg Prod.fst allocated), congrArg Prod.snd allocated⟩
    have ledger' := ledger.reserved host reservation rfl admissible
      (Nat.add_pos_left (by decide) _)
    exact ledger.allocates ledger' admissible block_lt rfl rfl rfl reservation rfl rfl

theorem successful_allocate_exact_smallRegion :
    allocate smallLayout smallRegion smallHost 4096 ⟨1, 1, 0⟩ = (.ok ⟨0, 8832⟩, smallAllocated) ∧
      Allocates smallLayout smallRegion smallAllocated 1 1 4096 ⟨0, 8832⟩ := by
  have allocated : allocate smallLayout smallRegion smallHost 4096 ⟨1, 1, 0⟩ =
      (.ok ⟨0, 8832⟩, smallAllocated) := by
    have address : (allocate smallLayout smallRegion smallHost 4096 ⟨1, 1, 0⟩).1.toOption =
        some ⟨0, 8832⟩ := by decide +kernel
    refine Prod.ext ?_ rfl
    cases result : (allocate smallLayout smallRegion smallHost 4096 ⟨1, 1, 0⟩).1 with
    | error status =>
        rw [result] at address
        cases address
    | ok object =>
        rw [result] at address
        exact congrArg Except.ok (Option.some.inj address)
  exact ⟨allocated,
    successful_allocate_exact reachable_smallRegion smallHost 4096 ⟨1, 1, 0⟩ allocated⟩

end Cxloom.LoomMem.Allocator
