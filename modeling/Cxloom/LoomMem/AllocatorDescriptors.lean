import Cxloom.LoomMem.Allocator

/-!
# Descriptors in shared memory

Fields of one descriptor never overlap, but two descriptors may: the bytes below any aligned pointer
can pass for one.  What such a descriptor can damage is limited by its alignment and by the marker
at its start.
-/

namespace Cxloom.LoomMem

variable {memory memory' : Memory} {object other value : Nat}

namespace DescriptorField

variable {field field' : DescriptorField}

theorem position_add_size_le (field : DescriptorField) : field.position + field.size ≤ 624 := by
  cases field with
  | activeOperations host =>
      have below : host.val < 64 := host.isLt
      simp only [position, size]
      omega
  | _ => decide

/-- Fields of a descriptor do not overlap. -/
theorem apart (different : field ≠ field') :
    field.position + field.size ≤ field'.position ∨
      field'.position + field'.size ≤ field.position := by
  cases field with
  | activeOperations host =>
      cases field' with
      | activeOperations host' =>
          have hosts : host.val ≠ host'.val := fun same => different (by rw [Fin.ext same])
          simp only [position, size]
          omega
      | _ => simp only [position, size]; omega
  | _ =>
      cases field' with
      | activeOperations host' => simp only [position, size]; omega
      | _ => first | exact absurd rfl different | decide

/-- The bytes of a field belong to it. -/
theorem fieldAt_eq (field : DescriptorField) {offset : Nat} (low : field.position ≤ offset)
    (high : offset < field.position + field.size) : fieldAt offset = some field := by
  cases field with
  | activeOperations host =>
      have below : host.val < 64 := host.isLt
      simp only [position, size] at low high
      have quotient : (offset - 112) / 8 = host.val := by omega
      have inside : (offset - 112) / 8 < kMaxHosts := quotient ▸ host.isLt
      simp (disch := omega) only [fieldAt, if_neg]
      rw [dif_pos inside]
      exact congrArg (fun host => some (activeOperations host)) (Fin.ext quotient)
  | _ =>
      simp only [position, size] at low high
      simp (disch := omega) only [fieldAt, if_neg, if_pos]

theorem fieldAt_eq_none {offset : Nat} (beyond : 624 ≤ offset) : fieldAt offset = none := by
  have outside : ¬(offset - 112) / 8 < kMaxHosts := by
    simp only [kMaxHosts]
    omega
  simp (disch := omega) only [fieldAt, if_neg]
  rw [dif_neg outside]

/-- Fields that no operation changes from the construction of a descriptor to its end, besides the
lifecycle state. -/
def fixed : DescriptorField → Bool
  | magic | ownerHost | objectOffset | bytes | alignment | coherenceBlockCount
  | coherenceMetadataOffset | dataExtentOffset | dataExtentBytes | coherenceExtentBytes => true
  | _ => false

end DescriptorField

theorem BlockField.fieldAt_eq_none {offset : Nat}
    (beyond : sizeofCoherenceBlockDescriptor ≤ offset) :
    fieldAt offset = none := by
  simp only [sizeofCoherenceBlockDescriptor] at beyond
  have outside : ¬(offset - 40) / 8 < kMaxHosts := by
    simp only [kMaxHosts]
    omega
  simp (disch := omega) only [fieldAt, if_neg]
  rw [dif_neg outside]

section Fields

variable {field field' : DescriptorField}

theorem descriptor_setDescriptor (memory : Memory) (object : Nat) (field : DescriptorField)
    (value : Nat) :
    descriptor (setDescriptor memory object field value) object field =
      value % 256 ^ field.size := Memory.load_store _ _ _ _

theorem descriptor_setDescriptor_of_ne (different : field' ≠ field) :
    descriptor (setDescriptor memory object field value) object field' =
      descriptor memory object field' := by
  refine Memory.load_store_of_disjoint ?_
  have apart := DescriptorField.apart different
  omega

/-- A descriptor depends on the bytes below its object only. -/
theorem descriptor_congr (room : sizeofAllocationDescriptor ≤ object)
    (agree : ∀ cell, object - sizeofAllocationDescriptor ≤ cell → cell < object →
      memory' cell = memory cell) (field : DescriptorField) :
    descriptor memory' object field = descriptor memory object field := by
  have inside := field.position_add_size_le
  refine Memory.load_congr fun cell low high => agree cell (by omega) ?_
  simp only [sizeofAllocationDescriptor] at room high
  omega

theorem setDescriptor_of_outside {cell : Nat} (room : sizeofAllocationDescriptor ≤ object)
    (outside : cell < object - sizeofAllocationDescriptor ∨ object ≤ cell) :
    setDescriptor memory object field value cell = memory cell := by
  refine Memory.store_of_outside ?_
  have inside := field.position_add_size_le
  simp only [sizeofAllocationDescriptor] at room outside ⊢
  omega

theorem descriptor_constructDescriptor (memory : Memory) (object : Nat)
    (values : DescriptorField → Nat) (field : DescriptorField) :
    descriptor (constructDescriptor memory object values) object field =
      values field % 256 ^ field.size :=
  Memory.load_storeFields fun _ low high => field.fieldAt_eq low high

theorem constructDescriptor_of_outside {cell : Nat} {values : DescriptorField → Nat}
    (room : sizeofAllocationDescriptor ≤ object)
    (outside : cell < object - sizeofAllocationDescriptor ∨ object ≤ cell) :
    constructDescriptor memory object values cell = memory cell := by
  refine Memory.storeFields_of_outside fun behind => DescriptorField.fieldAt_eq_none ?_
  simp only [sizeofAllocationDescriptor] at room outside behind ⊢
  omega

theorem constructBlocks_of_outside {sidecar count cell : Nat} {host : HostId}
    (outside : cell < sidecar ∨ sidecar + count * sizeofCoherenceBlockDescriptor ≤ cell) :
    constructBlocks memory sidecar host count cell = memory cell := by
  induction count with
  | zero => rfl
  | succ count induction =>
      rw [Nat.add_mul, Nat.one_mul] at outside
      rw [constructBlocks, Memory.storeFields_of_outside fun behind =>
        BlockField.fieldAt_eq_none (by omega)]
      exact induction (by omega)

end Fields

/-! ## Lookups -/

/-- What `FormatSharedAllocator` checks about a layout. -/
structure AllocatorLayout.Formatted (layout : AllocatorLayout) : Prop where
  /-- The data region has room for an object. -/
  data : sizeofAllocationDescriptor < layout.sharedDataBytes
  low : layout.coherenceOffset + sizeofCoherenceRegionHeader ≤ layout.coherenceDataOffset
  /-- The coherence pool is not empty. -/
  high : layout.coherenceDataOffset < layout.coherenceOffset + layout.coherenceBytes

namespace AllocatorLayout.Formatted

variable {layout : AllocatorLayout}

theorem stop_eq (layout : AllocatorLayout) :
    add64 layout.sharedDataOffset layout.sharedDataBytes = (layout.range .data).stop := by
  have inside := layout.data_le
  have word := layout.region_lt
  exact add64_of_lt (by omega)

theorem coherence_stop_eq (layout : AllocatorLayout) :
    add64 layout.coherenceOffset layout.coherenceBytes =
      layout.coherenceOffset + layout.coherenceBytes := by
  have order := layout.coherence_le
  have inside := layout.data_le
  have word := layout.region_lt
  exact add64_of_lt (by omega)

theorem range_stop (formatted : layout.Formatted) :
    (layout.range .coherence).stop = layout.coherenceOffset + layout.coherenceBytes := by
  have order := layout.coherence_le
  have inside := layout.data_le
  have word := layout.region_lt
  have high := formatted.high
  simp only [range, Extent.stop, coherence_stop_eq]
  rw [sub64_of_le high.le (by omega)]
  omega

theorem range_lt (formatted : layout.Formatted) (pool : ExtentPool) :
    (layout.range pool).stop < wordLimit := by
  have order := layout.coherence_le
  have inside := layout.data_le
  have word := layout.region_lt
  cases pool with
  | data =>
      simp only [range, Extent.stop]
      omega
  | coherence =>
      rw [formatted.range_stop]
      omega

end AllocatorLayout.Formatted

/-- The bytes below a pointer pass for the descriptor of an object. -/
structure Accepted (layout : AllocatorLayout) (memory : Memory) (object : Nat)
    (allowRetiring : Bool) : Prop where
  low : layout.sharedDataOffset + sizeofAllocationDescriptor ≤ object
  high : object < (layout.range .data).stop
  aligned : alignofAllocationDescriptor ∣ object
  /-- The object is allocated, or retiring when that is allowed. -/
  state : descriptor memory object .state = AllocationState.allocated.code ∨
    allowRetiring = true ∧ descriptor memory object .state = AllocationState.retiring.code
  /-- The marker is there. -/
  magic : descriptor memory object .magic = kAllocationMagic
  objectOffset : descriptor memory object .objectOffset = object
  bytes_pos : 0 < descriptor memory object .bytes
  bytes_le : object + descriptor memory object .bytes ≤ (layout.range .data).stop
  owner : descriptor memory object .ownerHost < kMaxHosts

namespace Allocator

variable {layout : AllocatorLayout}

/-- The outcome of `FindDescriptorLocked`. -/
theorem findDescriptor_eq_ok (formatted : layout.Formatted) {pointer : GlobalPointer}
    {allowRetiring : Bool} {found : Nat} :
    findDescriptor layout memory pointer allowRetiring = .ok found ↔
      found = pointer.offset ∧ pointer.regionId = 0 ∧
        Accepted layout memory pointer.offset allowRetiring := by
  have inside := layout.data_le
  have word := layout.region_lt
  have room := formatted.data
  have start : add64 layout.sharedDataOffset sizeofAllocationDescriptor =
      layout.sharedDataOffset + sizeofAllocationDescriptor := add64_of_lt (by omega)
  have stop : (layout.range .data).stop = layout.sharedDataOffset + layout.sharedDataBytes := rfl
  simp only [findDescriptor, start, AllocatorLayout.Formatted.stop_eq]
  constructor
  · intro result
    split at result
    · cases result
    · rename_i placed
      split at result
      · cases result
      · rename_i shaped
        push Not at placed shaped
        obtain ⟨region, low, high, aligned⟩ := placed
        obtain ⟨state, magic, objectOffset, bytes_pos, bytes_le, owner⟩ := shaped
        rw [sub64_of_le (by omega) (by omega)] at aligned bytes_le
        have divides : alignofAllocationDescriptor ∣ pointer.offset := by
          simp only [alignofAllocationDescriptor, sizeofAllocationDescriptor] at aligned low ⊢
          omega
        exact ⟨(Except.ok.inj result).symm, region, low, high, divides, state, magic, objectOffset,
          Nat.pos_of_ne_zero bytes_pos, by omega, owner⟩
  · rintro ⟨rfl, region, accepted⟩
    have low := accepted.low
    have high := accepted.high
    have aligned := accepted.aligned
    have bytes_le := accepted.bytes_le
    have bytes_pos := accepted.bytes_pos
    have owner := accepted.owner
    rw [if_neg, if_neg]
    · push Not
      refine ⟨accepted.state, accepted.magic, accepted.objectOffset, bytes_pos.ne', ?_, owner⟩
      rw [sub64_of_le (by omega) (by omega)]
      omega
    · push Not
      refine ⟨region, low, high, ?_⟩
      rw [sub64_of_le (by omega) (by omega)]
      simp only [alignofAllocationDescriptor, sizeofAllocationDescriptor] at aligned low ⊢
      omega

end Allocator

/-! ## Descriptors of published objects -/

def recorded (memory : Memory) (object : Nat) : ExtentPool → Extent
  | .data => ⟨descriptor memory object .dataExtentOffset, descriptor memory object .dataExtentBytes⟩
  | .coherence => ⟨descriptor memory object .coherenceMetadataOffset,
      descriptor memory object .coherenceExtentBytes⟩

/-- A descriptor that `Allocate` made and `Free` has not ended. -/
structure Described (memory : Memory) (object : Nat) : Prop where
  /-- The marker is there. -/
  magic : descriptor memory object .magic = kAllocationMagic
  state : descriptor memory object .state = AllocationState.allocated.code ∨
    descriptor memory object .state = AllocationState.retiring.code
  objectOffset : descriptor memory object .objectOffset = object
  owner : descriptor memory object .ownerHost < kMaxHosts
  bytes_pos : 0 < descriptor memory object .bytes
  power : (descriptor memory object .alignment).isPowerOfTwo
  dvd : descriptor memory object .alignment ∣ object
  aligned : alignofAllocationDescriptor ∣ object
  extentAligned : alignofAllocationDescriptor ∣ (recorded memory object .data).offset
  low : (recorded memory object .data).offset + sizeofAllocationDescriptor ≤ object
  high : object + descriptor memory object .bytes ≤ (recorded memory object .data).stop
  sidecarAligned : alignofCoherenceBlockDescriptor ∣ (recorded memory object .coherence).offset
  count_pos : 0 < descriptor memory object .coherenceBlockCount
  /-- The sidecar has room for every block. -/
  blocks : (recorded memory object .coherence).bytes =
    descriptor memory object .coherenceBlockCount * sizeofCoherenceBlockDescriptor

namespace Described

theorem room (described : Described memory object) : sizeofAllocationDescriptor ≤ object :=
  (Nat.le_add_left _ _).trans described.low

theorem bytes_pos_recorded (described : Described memory object) (pool : ExtentPool) :
    0 < (recorded memory object pool).bytes := by
  cases pool with
  | data =>
      have low := described.low
      have high := described.high
      simp only [Extent.stop, sizeofAllocationDescriptor] at low high
      omega
  | coherence =>
      rw [described.blocks]
      exact Nat.mul_pos described.count_pos (by decide)

/-- The descriptor bytes lie inside the data extent. -/
theorem descriptor_cells (described : Described memory object) {cell : Nat}
    (low : object - sizeofAllocationDescriptor ≤ cell) (high : cell < object) :
    cell ∈ (recorded memory object .data).cells := by
  have begins := described.low
  have ends := described.high
  rw [Extent.mem_cells]
  omega

/-- The payload lies inside the data extent. -/
theorem payload_cells (described : Described memory object) {cell : Nat} (low : object ≤ cell)
    (high : cell < object + descriptor memory object .bytes) :
    cell ∈ (recorded memory object .data).cells := by
  have begins := described.low
  have ends := described.high
  rw [Extent.mem_cells]
  omega

/-- A descriptor stays one as long as its fixed fields and its lifecycle do. -/
theorem congr (described : Described memory object)
    (fields : ∀ field, field.fixed = true →
      descriptor memory' object field = descriptor memory object field)
    (state : descriptor memory' object .state = descriptor memory object .state ∨
      descriptor memory' object .state = AllocationState.retiring.code) :
    Described memory' object ∧
      ∀ pool, recorded memory' object pool = recorded memory object pool := by
  have extents : ∀ pool, recorded memory' object pool = recorded memory object pool := by
    intro pool
    cases pool with
    | data =>
        rw [recorded, recorded, fields .dataExtentOffset rfl, fields .dataExtentBytes rfl]
    | coherence =>
        rw [recorded, recorded, fields .coherenceMetadataOffset rfl,
          fields .coherenceExtentBytes rfl]
  refine ⟨⟨?_, ?_, ?_, ?_, ?_, ?_, ?_, described.aligned, ?_, ?_, ?_, ?_, ?_, ?_⟩, extents⟩
  · rw [fields .magic rfl, described.magic]
  · rcases state with same | retiring
    · rw [same]
      exact described.state
    · exact .inr retiring
  · rw [fields .objectOffset rfl, described.objectOffset]
  · rw [fields .ownerHost rfl]
    exact described.owner
  · rw [fields .bytes rfl]
    exact described.bytes_pos
  · rw [fields .alignment rfl]
    exact described.power
  · rw [fields .alignment rfl]
    exact described.dvd
  · rw [extents]
    exact described.extentAligned
  · rw [extents]
    exact described.low
  · rw [extents, fields .bytes rfl]
    exact described.high
  · rw [extents]
    exact described.sidecarAligned
  · rw [fields .coherenceBlockCount rfl]
    exact described.count_pos
  · rw [extents, fields .coherenceBlockCount rfl]
    exact described.blocks

/-- The marker of a false descriptor cannot be the start of a data extent. -/
theorem ne_add_alignment (described : Described memory object) {allowRetiring : Bool}
    {layout : AllocatorLayout} (accepted : Accepted layout memory other allowRetiring) :
    other ≠ object + alignofAllocationDescriptor := by
  rintro rfl
  have room := described.room
  have aligned := described.extentAligned
  have magic := accepted.magic
  have shifted : descriptor memory (object + alignofAllocationDescriptor) .magic =
      descriptor memory object .dataExtentOffset := by
    have place : object + alignofAllocationDescriptor - sizeofAllocationDescriptor +
        DescriptorField.magic.position =
        object - sizeofAllocationDescriptor + DescriptorField.dataExtentOffset.position := by
      simp only [DescriptorField.position, sizeofAllocationDescriptor,
        alignofAllocationDescriptor] at room ⊢
      omega
    exact congrArg (fun address => memory.load address 8) place
  rw [shifted] at magic
  rw [recorded, magic] at aligned
  simp only [kAllocationMagic, alignofAllocationDescriptor] at aligned
  omega

/-- The words that a retirement writes through a false descriptor are not among the fixed fields and
the lifecycle of a published object. -/
theorem keeps_forged (described : Described memory object) {allowRetiring : Bool}
    {layout : AllocatorLayout} (accepted : Accepted layout memory other allowRetiring)
    (different : other ≠ object) {written : DescriptorField}
    (retirement : written = .state ∨ written = .sealedHosts) {field : DescriptorField}
    (kept : field.fixed = true ∨ field = .state) :
    descriptor (setDescriptor memory other written value) object field =
      descriptor memory object field := by
  refine Memory.load_store_of_disjoint ?_
  have room := described.room
  have low := accepted.low
  have apart := described.ne_add_alignment accepted
  obtain ⟨first, rfl⟩ := described.aligned
  obtain ⟨second, rfl⟩ := accepted.aligned
  simp only [sizeofAllocationDescriptor, alignofAllocationDescriptor] at room low apart different ⊢
  rcases retirement with rfl | rfl <;>
  · cases field <;> simp only [DescriptorField.fixed, Bool.false_eq_true, reduceCtorEq, or_self,
      false_or, or_false] at kept <;>
    · simp only [DescriptorField.position, DescriptorField.size]
      omega

end Described
end Cxloom.LoomMem
