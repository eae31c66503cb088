import Cxloom.Extent
import Cxloom.LoomMem.ExtentPools
import Cxloom.LoomMem.Token
import Cxloom.Memory
import Cxloom.Run

/-!
# The shared allocator

An embedding of `SharedExtentAllocator`: extent pools, discovery slots, the retirement control and
the bytes of the shared data region.  A descriptor is a record in the bytes below the base of its
object, so whatever an application wrote into its own objects can be read as a descriptor.
Operations under the extent lock are single transitions; pins, references, replica bits and
application writes happen between any two of them.
-/

namespace Cxloom.LoomMem

/-- Hosts with a place in the shared tables. -/
abbrev HostId : Type := Fin kMaxHosts

/-- Marker of an initialized descriptor. -/
def kAllocationMagic : Nat := 0x43584c4f4f4d4f42

/-- Largest 64-bit word. -/
def kUint64Max : Nat := wordLimit - 1

/-- Reader count of a slot in exclusive use. -/
def kUint32Max : Nat := 2 ^ 32 - 1

/-- `sizeof(AllocationDescriptor)`. -/
def sizeofAllocationDescriptor : Nat := 640

/-- `alignof(AllocationDescriptor)`. -/
def alignofAllocationDescriptor : Nat := 64

/-- `sizeof(CoherenceBlockDescriptor)`. -/
def sizeofCoherenceBlockDescriptor : Nat := 576

/-- `alignof(CoherenceBlockDescriptor)`. -/
def alignofCoherenceBlockDescriptor : Nat := 64

/-- `sizeof(CoherenceRegionHeader)`. -/
def sizeofCoherenceRegionHeader : Nat := 64

/-- Stored value of a lifecycle state. -/
def AllocationState.code : AllocationState → Nat
  | .empty => 0
  | .allocated => 1
  | .retiring => 2

/-! ## Records in shared memory -/

/-- Fields of `AllocationDescriptor`. -/
inductive DescriptorField
  | magic
  | state
  | ownerHost
  | reserved0
  | objectOffset
  | bytes
  | alignment
  | coherenceBlockBytes
  | coherenceBlockCount
  | coherenceMetadataOffset
  | dataExtentOffset
  | dataExtentBytes
  | coherenceExtentBytes
  | accessLock
  | replicaHosts
  | sealedHosts
  | activeOperations (host : HostId)
deriving DecidableEq

namespace DescriptorField

def position : DescriptorField → Nat
  | magic => 0
  | state => 8
  | ownerHost => 12
  | reserved0 => 14
  | objectOffset => 16
  | bytes => 24
  | alignment => 32
  | coherenceBlockBytes => 40
  | coherenceBlockCount => 48
  | coherenceMetadataOffset => 56
  | dataExtentOffset => 64
  | dataExtentBytes => 72
  | coherenceExtentBytes => 80
  | accessLock => 88
  | replicaHosts => 96
  | sealedHosts => 104
  | activeOperations host => 112 + 8 * host.val

def size : DescriptorField → Nat
  | state => 4
  | ownerHost => 2
  | reserved0 => 2
  | accessLock => 4
  | _ => 8

/-- The field at a position; the other bytes are padding. -/
def fieldAt (offset : Nat) : Option DescriptorField :=
  if offset < 8 then some magic
  else if offset < 12 then some state
  else if offset < 14 then some ownerHost
  else if offset < 16 then some reserved0
  else if offset < 24 then some objectOffset
  else if offset < 32 then some bytes
  else if offset < 40 then some alignment
  else if offset < 48 then some coherenceBlockBytes
  else if offset < 56 then some coherenceBlockCount
  else if offset < 64 then some coherenceMetadataOffset
  else if offset < 72 then some dataExtentOffset
  else if offset < 80 then some dataExtentBytes
  else if offset < 88 then some coherenceExtentBytes
  else if offset < 92 then some accessLock
  else if offset < 96 then none
  else if offset < 104 then some replicaHosts
  else if offset < 112 then some sealedHosts
  else if inside : (offset - 112) / 8 < kMaxHosts then
    some (activeOperations ⟨(offset - 112) / 8, inside⟩)
  else none

end DescriptorField

/-- Fields of `CoherenceBlockDescriptor`. -/
inductive BlockField
  | tokenOwner
  | version
  | tokenEpoch
  | writebackEpoch
  | lastWriter
  | replicaVersions (host : HostId)
deriving DecidableEq

namespace BlockField

def position : BlockField → Nat
  | tokenOwner => 0
  | version => 8
  | tokenEpoch => 16
  | writebackEpoch => 24
  | lastWriter => 32
  | replicaVersions host => 40 + 8 * host.val

/-- The field at a position; the other bytes are padding. -/
def fieldAt (offset : Nat) : Option BlockField :=
  if offset < 4 then some tokenOwner
  else if offset < 8 then none
  else if offset < 16 then some version
  else if offset < 24 then some tokenEpoch
  else if offset < 32 then some writebackEpoch
  else if offset < 36 then some lastWriter
  else if offset < 40 then none
  else if inside : (offset - 40) / 8 < kMaxHosts then
    some (replicaVersions ⟨(offset - 40) / 8, inside⟩)
  else none

/-- A block as `Allocate` leaves it. -/
def initial (host : HostId) : BlockField → Nat
  | tokenOwner => host.val
  | tokenEpoch => 1
  | lastWriter => kMaxHosts
  | _ => 0

end BlockField

def descriptor (memory : Memory) (object : Nat) (field : DescriptorField) : Nat :=
  memory.load (object - sizeofAllocationDescriptor + field.position) field.size

def setDescriptor (memory : Memory) (object : Nat) (field : DescriptorField) (value : Nat) :
    Memory :=
  memory.store (object - sizeofAllocationDescriptor + field.position) field.size value

def constructDescriptor (memory : Memory) (object : Nat) (values : DescriptorField → Nat) :
    Memory :=
  Memory.storeFields DescriptorField.fieldAt DescriptorField.position
    (object - sizeofAllocationDescriptor) values memory

def constructBlocks (memory : Memory) (sidecar : Nat) (host : HostId) : Nat → Memory
  | 0 => memory
  | count + 1 =>
      Memory.storeFields BlockField.fieldAt BlockField.position
        (sidecar + count * sizeofCoherenceBlockDescriptor) (BlockField.initial host)
        (constructBlocks memory sidecar host count)

/-! ## Shared state -/

/-- A discovery slot. -/
structure AllocationSlot where
  /-- Base of the published object, zero when the slot is empty. -/
  objectOffset : Nat
  /-- Number of pins. -/
  readers : Nat
deriving DecidableEq, Repr

/-- Phases of a retirement. -/
inductive RetirementPhase
  | idle
  | closing
  | draining
  | cleaning
  | reclaimable
deriving DecidableEq, Repr

/-- Identity and phase of the current retirement. -/
structure RetirementSnapshot where
  phase : RetirementPhase
  object : GlobalPointer
  /-- Number of the transaction. -/
  sequence : Nat
  /-- Host that retires the object. -/
  coordinator : HostId
  /-- Number of participants. -/
  hostCount : Nat
deriving DecidableEq

/-- The one retirement of a region. -/
structure RetirementControl where
  current : RetirementSnapshot
  closed : HostMask
  drained : HostMask
  /-- Hosts that dropped their replicas. -/
  cleaned : HostMask
  /-- Cursors that each host recorded when it closed the object. -/
  watermarks : HostId → HostId → Nat

/-- The shared state of the allocator. -/
structure Allocator where
  extents : ExtentHeader
  slots : Nat → AllocationSlot
  retirement : RetirementControl
  /-- Bytes of the shared region. -/
  memory : Memory
  extentLock : Bool

/-- A region layout that `BuildDefaultLayout` produces and `Initialize` accepts. -/
structure AllocatorLayout where
  /-- First byte of the coherence region. -/
  coherenceOffset : Nat
  coherenceBytes : Nat
  /-- First byte of the data region. -/
  sharedDataOffset : Nat
  sharedDataBytes : Nat
  regionBytes : Nat
  /-- Number of discovery slots. -/
  slotCapacity : Nat
  /-- Number of extent nodes. -/
  extentNodeCapacity : Nat
  /-- The coherence region lies before the data region. -/
  coherence_le : coherenceOffset + coherenceBytes ≤ sharedDataOffset
  data_le : sharedDataOffset + sharedDataBytes ≤ regionBytes
  /-- The mapping has a 64-bit size. -/
  region_lt : regionBytes < wordLimit
  /-- Two nodes describe the pools, and another one is unused. -/
  two_lt : 2 < extentNodeCapacity

namespace AllocatorLayout

/-- First byte of the coherence pool, behind the header of the coherence region. -/
def coherenceDataOffset (layout : AllocatorLayout) : Nat :=
  alignUp (add64 layout.coherenceOffset sizeofCoherenceRegionHeader) alignofCoherenceBlockDescriptor

def range (layout : AllocatorLayout) : ExtentPool → Extent
  | .data => ⟨layout.sharedDataOffset, layout.sharedDataBytes⟩
  | .coherence => ⟨layout.coherenceDataOffset,
      sub64 (add64 layout.coherenceOffset layout.coherenceBytes) layout.coherenceDataOffset⟩

end AllocatorLayout

/-- Options of an allocation. -/
structure AllocationOptions where
  bytes : UInt64
  alignment : UInt64
  /-- Block size, zero for the default of the host. -/
  coherenceBlockBytes : UInt64
deriving DecidableEq

/-- Metadata that `Describe` copies. -/
structure AllocationInfo where
  /-- The object. -/
  gptr : GlobalPointer
  bytes : Nat
  alignment : Nat
  ownerHost : Nat
  coherenceBlockBytes : Nat
  coherenceBlockCount : Nat
  /-- First byte of the sidecar. -/
  coherenceMetadataOffset : Nat
deriving DecidableEq, Repr

namespace Allocator

variable (layout : AllocatorLayout)

/-! ## Formatting -/

/-- The extent metadata that `FormatSharedAllocator` writes. -/
def formatExtents : ExtentHeader where
  extentNodeCapacity := layout.extentNodeCapacity
  offset index :=
    match index with
    | 0 => (layout.range .data).offset
    | 1 => (layout.range .coherence).offset
    | _ => 0
  bytes index :=
    match index with
    | 0 => (layout.range .data).bytes
    | 1 => (layout.range .coherence).bytes
    | _ => 0
  next index :=
    if 2 ≤ index ∧ index + 1 < layout.extentNodeCapacity then some (index + 1) else none
  previous _ := none
  binNext _ := none
  binPrevious _ := none
  bin index :=
    match index with
    | 0 => binForBytes (layout.range .data).bytes
    | 1 => binForBytes (layout.range .coherence).bytes
    | _ => 0
  state index := if index < 2 then .free else .unused
  freeHead pool :=
    match pool with
    | .data => some 0
    | .coherence => some 1
  bins pool bin :=
    if bin = binForBytes (layout.range pool).bytes then
      match pool with
      | .data => some 0
      | .coherence => some 1
    else none
  binBitmap pool := HostMask.bit (binForBytes (layout.range pool).bytes)
  freeExtentNodeHead := some 2

/-- `FormatSharedAllocator`: the data region keeps whatever bytes it has. -/
def formatSharedAllocator (memory : Memory) : Except Status Allocator :=
  if layout.sharedDataBytes ≤ sizeofAllocationDescriptor ∨
      layout.coherenceDataOffset < layout.coherenceOffset ∨
      add64 layout.coherenceOffset layout.coherenceBytes ≤ layout.coherenceDataOffset then
    .error (.invalidArgument "shared data or coherence region is too small for allocations")
  else
    .ok
      { extents := formatExtents layout
        slots := fun _ => ⟨0, 0⟩
        retirement := ⟨⟨.idle, ⟨0, 0⟩, 0, ⟨0, by decide⟩, 0⟩, 0#64, 0#64, 0#64, fun _ _ => 0⟩
        memory := memory
        extentLock := false }

/-! ## Allocation -/

/-- The slot that `Allocate` claims: the first empty one without a pin. -/
def findEmptySlot (state : Allocator) : Option Nat :=
  (List.range layout.slotCapacity).find? fun index =>
    (state.slots index).objectOffset = 0 ∧ (state.slots index).readers = 0

def newDescriptor (host : HostId) (object bytes alignment blockBytes blockCount sidecar dataExtent
    dataExtentBytes coherenceExtentBytes : Nat) : DescriptorField → Nat
  | .magic => kAllocationMagic
  | .state => AllocationState.allocated.code
  | .ownerHost => host.val
  | .objectOffset => object
  | .bytes => bytes
  | .alignment => alignment
  | .coherenceBlockBytes => blockBytes
  | .coherenceBlockCount => blockCount
  | .coherenceMetadataOffset => sidecar
  | .dataExtentOffset => dataExtent
  | .dataExtentBytes => dataExtentBytes
  | .coherenceExtentBytes => coherenceExtentBytes
  | _ => 0

/-- The part of `Allocate` under the extent lock. -/
def reserve (state : Allocator) (host : HostId) (bytes alignment blockBytes blockCount
    dataExtentBytes coherenceExtentBytes : Nat) : Except Status GlobalPointer × Allocator :=
  match findEmptySlot layout state with
  | none => (.error (.unavailable "allocation discovery slots exhausted"), state)
  | some slot =>
      match state.extents.allocateExtent .data dataExtentBytes alignofAllocationDescriptor with
      | (.error status, extents) => (.error status, { state with extents := extents })
      | (.ok dataExtent, extents) =>
          match extents.allocateExtent .coherence coherenceExtentBytes
            alignofCoherenceBlockDescriptor with
          | (.error status, extents) =>
              (.error status,
                { state with extents := (extents.freeExtent .data dataExtent dataExtentBytes).2 })
          | (.ok sidecar, extents) =>
              let object := alignUp (add64 dataExtent sizeofAllocationDescriptor) alignment
              let described := constructDescriptor state.memory object
                (newDescriptor host object bytes alignment blockBytes blockCount sidecar dataExtent
                  dataExtentBytes coherenceExtentBytes)
              (.ok ⟨0, object⟩,
                { state with
                  extents := extents
                  memory := constructBlocks described sidecar host blockCount
                  slots := Function.update state.slots slot ⟨object, 0⟩ })

/-- Whether a word is zero or has more than one bit. -/
def notPowerOfTwo (word : Nat) : Prop := word &&& sub64 word 1 ≠ 0

instance (word : Nat) : Decidable (notPowerOfTwo word) := inferInstanceAs (Decidable (_ ≠ _))

/-- `Allocate`. -/
def allocate (state : Allocator) (host : HostId) (defaultBlockBytes : UInt64)
    (options : AllocationOptions) : Except Status GlobalPointer × Allocator :=
  let bytes := options.bytes.toNat
  let alignment := options.alignment.toNat
  let blockBytes :=
    if options.coherenceBlockBytes.toNat = 0 then defaultBlockBytes.toNat
    else options.coherenceBlockBytes.toNat
  let blockCount := add64 1 (sub64 bytes 1 / blockBytes)
  if bytes = 0 then
    (.error (.invalidArgument "allocation size must be non-zero"), state)
  else if alignment = 0 ∨ notPowerOfTwo alignment then
    (.error (.invalidArgument "alignment must be a non-zero power of two"), state)
  else if blockBytes < 64 ∨ notPowerOfTwo blockBytes then
    (.error (.invalidArgument
      "coherence block size must be a power of two and at least 64 bytes"), state)
  else if kUint64Max / sizeofCoherenceBlockDescriptor < blockCount then
    (.error (.invalidArgument "coherence block metadata size overflows"), state)
  else if sub64 (sub64 kUint64Max sizeofAllocationDescriptor) (sub64 alignment 1) < bytes then
    (.error (.invalidArgument "allocation extent size overflows"), state)
  else
    reserve layout state host bytes alignment blockBytes blockCount
      (sub64 (add64 (add64 sizeofAllocationDescriptor bytes) alignment) 1)
      (mul64 blockCount sizeofCoherenceBlockDescriptor)

/-! ## Lookup -/

/-- `FindDescriptorLocked`: the object whose descriptor the bytes below a pointer pass for. -/
def findDescriptor (memory : Memory) (object : GlobalPointer) (allowRetiring : Bool) :
    Except Status Nat :=
  let stop := add64 layout.sharedDataOffset layout.sharedDataBytes
  let state := descriptor memory object.offset .state
  if object.regionId ≠ 0 ∨
      object.offset < add64 layout.sharedDataOffset sizeofAllocationDescriptor ∨
      stop ≤ object.offset ∨
      sub64 object.offset sizeofAllocationDescriptor % alignofAllocationDescriptor ≠ 0 then
    .error (.invalidArgument "global pointer is not an aligned allocation base")
  else if ¬(state = AllocationState.allocated.code ∨
        allowRetiring = true ∧ state = AllocationState.retiring.code) ∨
      descriptor memory object.offset .magic ≠ kAllocationMagic ∨
      descriptor memory object.offset .objectOffset ≠ object.offset ∨
      descriptor memory object.offset .bytes = 0 ∨
      sub64 stop object.offset < descriptor memory object.offset .bytes ∨
      kMaxHosts ≤ descriptor memory object.offset .ownerHost then
    .error (.notFound "global pointer is not an accessible allocation base")
  else .ok object.offset

/-- The slot that `LockAllocationSlot` pins. -/
def lockAllocationSlot (state : Allocator) (object : GlobalPointer) : Except Status Nat :=
  if object.regionId ≠ 0 ∨ object.offset = 0 then
    .error (.invalidArgument "invalid allocation address")
  else
    match (List.range layout.slotCapacity).find? fun index =>
      (state.slots index).objectOffset = object.offset ∧
        (state.slots index).readers ≠ kUint32Max ∧ (state.slots index).readers ≠ kUint32Max - 1 with
    | none => .error (.notFound "address has no accessible allocation slot")
    | some index => .ok index

/-- `MutableDescriptor`: the lookup of a pinned slot's descriptor. -/
def mutableDescriptor (state : Allocator) (object : GlobalPointer) (allowRetiring : Bool) :
    Except Status Nat :=
  match lockAllocationSlot layout state object with
  | .error status => .error status
  | .ok _ => findDescriptor layout state.memory object allowRetiring

/-- `Describe`. -/
def describe (state : Allocator) (object : GlobalPointer) : Except Status AllocationInfo :=
  match mutableDescriptor layout state object false with
  | .error status => .error status
  | .ok found =>
      .ok
        { gptr := object
          bytes := descriptor state.memory found .bytes
          alignment := descriptor state.memory found .alignment
          ownerHost := descriptor state.memory found .ownerHost
          coherenceBlockBytes := descriptor state.memory found .coherenceBlockBytes
          coherenceBlockCount := descriptor state.memory found .coherenceBlockCount
          coherenceMetadataOffset := descriptor state.memory found .coherenceMetadataOffset }

/-- `MutableCoherenceBlock`: the address of a block of an object. -/
def mutableCoherenceBlock (state : Allocator) (object : GlobalPointer) (blockIndex : Nat)
    (allowRetiring : Bool) : Except Status Nat :=
  match mutableDescriptor layout state object allowRetiring with
  | .error status => .error status
  | .ok found =>
      let sidecar := descriptor state.memory found .coherenceMetadataOffset
      let offset := add64 sidecar (mul64 blockIndex sizeofCoherenceBlockDescriptor)
      let stop := add64 layout.coherenceOffset layout.coherenceBytes
      if descriptor state.memory found .coherenceBlockCount ≤ blockIndex then
        .error (.invalidArgument "coherence block index is out of range")
      else if sidecar = 0 then
        .error (.failedPrecondition "allocation has no coherence block sidecar metadata")
      else if offset < layout.coherenceOffset ∨ stop < offset ∨
          sub64 stop offset < sizeofCoherenceBlockDescriptor then
        .error (.failedPrecondition "coherence block metadata is outside its shared region")
      else .ok offset

/-- `AcquireReference`: admit an operation of a host. -/
def acquireReference (state : Allocator) (object : GlobalPointer) (host : HostId)
    (allowRetiring : Bool) : Except Status Nat × Allocator :=
  match mutableDescriptor layout state object allowRetiring with
  | .error status => (.error status, state)
  | .ok found =>
      if (descriptor state.memory found .sealedHosts).testBit host.val then
        (.error (.failedPrecondition "host has sealed this retiring object"), state)
      else
        (.ok found,
          { state with
            memory := setDescriptor state.memory found (.activeOperations host)
              (descriptor state.memory found (.activeOperations host) + 1) })

/-- `ReleaseReference`: end an admitted operation of a host. -/
def releaseReference (state : Allocator) (object : Nat) (host : HostId) : Status × Allocator :=
  if descriptor state.memory object (.activeOperations host) = 0 then
    (.failedPrecondition "object reference count underflow", state)
  else
    (.ok,
      { state with
        memory := setDescriptor state.memory object (.activeOperations host)
          (descriptor state.memory object (.activeOperations host) - 1) })

/-! ## Retirement -/

/-- `BeginRetire`.  No result: the call waits for the lock word of the descriptor, with the extent
lock held. -/
def beginRetire (state : Allocator) (host : HostId) (object : GlobalPointer) (hostCount : Nat) :
    Option (Except Status RetirementSnapshot) × Allocator :=
  let current := state.retirement.current
  if hostCount = 0 ∨ kMaxHosts < hostCount then
    (some (.error (.invalidArgument "invalid retirement participants")), state)
  else if current.phase ≠ .idle then
    if current.object = object ∧ current.coordinator = host then (some (.ok current), state)
    else (some (.error (.unavailable "another retirement is in progress")), state)
  else
    match findDescriptor layout state.memory object false with
    | .error status => (some (.error status), state)
    | .ok found =>
        if descriptor state.memory found .ownerHost ≠ host.val then
          (some (.error (.failedPrecondition "only the allocation owner may retire it")), state)
        else if current.sequence = kUint64Max then
          (some (.error (.unavailable "retirement sequence exhausted")), state)
        else
          let started : RetirementSnapshot :=
            ⟨.closing, object, current.sequence + 1, host, hostCount⟩
          let control :=
            { state.retirement with
              current := started, closed := 0#64, drained := 0#64, cleaned := 0#64 }
          if descriptor state.memory found .accessLock ≠ 0 then
            (none, { state with retirement := control, extentLock := true })
          else
            (some (.ok started),
              { state with
                retirement := control
                memory := setDescriptor state.memory found .state AllocationState.retiring.code })

/-- The closing part of `AcknowledgeRetirement`. -/
def acknowledgeClosing (state : Allocator) (snapshot : RetirementSnapshot) (host : HostId)
    (cursors : HostId → Nat) : Option Status × Allocator :=
  match findDescriptor layout state.memory snapshot.object true with
  | .error status => (some status, state)
  | .ok found =>
      if descriptor state.memory found .accessLock ≠ 0 then
        (none, { state with extentLock := true })
      else if descriptor state.memory found (.activeOperations host) ≠ 0 then
        (some (.unavailable "host still has active CXL operations"), state)
      else
        let closed := state.retirement.closed ||| HostMask.bit host.val
        (some .ok,
          { state with
            memory := setDescriptor state.memory found .sealedHosts
              (descriptor state.memory found .sealedHosts ||| 1 <<< host.val)
            retirement :=
              { state.retirement with
                watermarks := Function.update state.retirement.watermarks host cursors
                closed := closed
                current :=
                  if closed = HostMask.all snapshot.hostCount then
                    { state.retirement.current with phase := .draining }
                  else state.retirement.current } })

/-- `AcknowledgeRetirement`. -/
def acknowledgeRetirement (state : Allocator) (snapshot : RetirementSnapshot) (host : HostId)
    (cursors : HostId → Nat) : Option Status × Allocator :=
  let control := state.retirement
  if control.current.sequence ≠ snapshot.sequence ∨ control.current.phase ≠ snapshot.phase ∨
      snapshot.hostCount ≤ host.val then
    (some (.failedPrecondition "retirement phase changed"), state)
  else
    match snapshot.phase with
    | .closing => acknowledgeClosing layout state snapshot host cursors
    | .draining =>
        if ∃ producer : HostId, producer.val < snapshot.hostCount ∧ producer ≠ host ∧
            cursors producer < control.watermarks producer host then
          (some (.unavailable "inbound callbacks have not reached the retirement watermark"), state)
        else
          let drained := control.drained ||| HostMask.bit host.val
          (some .ok,
            { state with
              retirement :=
                { control with
                  drained := drained
                  current :=
                    if drained = HostMask.all snapshot.hostCount then
                      { control.current with phase := .cleaning }
                    else control.current } })
    | .cleaning =>
        let cleaned := control.cleaned ||| HostMask.bit host.val
        (some .ok,
          { state with
            retirement :=
              { control with
                cleaned := cleaned
                current :=
                  if cleaned = HostMask.all snapshot.hostCount then
                    { control.current with phase := .reclaimable }
                  else control.current } })
    | _ => (some .ok, state)

/-! ## Reclamation -/

/-- Number of nodes marked unused. -/
def availableNodes (extents : ExtentHeader) : Nat :=
  (List.range extents.extentNodeCapacity).countP fun index => extents.state index = .unused

def findSlot (state : Allocator) (offset : Nat) : Option Nat :=
  (List.range layout.slotCapacity).find? fun index => (state.slots index).objectOffset = offset

/-- Return the extents of a descriptor to their pools. -/
def reclaim (state : Allocator) (slot found : Nat) : Status × Allocator :=
  let memory := state.memory
  match state.extents.freeExtent .data (descriptor memory found .dataExtentOffset)
    (descriptor memory found .dataExtentBytes) with
  | (dataStatus, extents) =>
      if dataStatus.isOk = false then (dataStatus, { state with extents := extents })
      else
        match extents.freeExtent .coherence (descriptor memory found .coherenceMetadataOffset)
          (descriptor memory found .coherenceExtentBytes) with
        | (coherenceStatus, extents) =>
            if coherenceStatus.isOk = false then
              (coherenceStatus, { state with extents := extents })
            else
              (.ok,
                { state with
                  extents := extents
                  memory := setDescriptor
                    (setDescriptor memory found .state AllocationState.empty.code) found .magic 0
                  slots := Function.update state.slots slot ⟨0, 0⟩
                  retirement :=
                    { state.retirement with
                      current := { state.retirement.current with phase := .idle } } })

/-- `Free`. -/
def free (state : Allocator) (host : HostId) (object : GlobalPointer) : Status × Allocator :=
  let current := state.retirement.current
  if current.phase ≠ .reclaimable ∨ current.object ≠ object ∨ current.coordinator ≠ host then
    (.failedPrecondition "storage reclamation requires all-host retirement completion", state)
  else
    match findSlot layout state object.offset with
    | none => (.notFound "allocation slot not found", state)
    | some slot =>
        if (state.slots slot).readers ≠ 0 then
          (.unavailable "descriptor discovery is still active", state)
        else
          match findDescriptor layout state.memory object true with
          | .error status => (status, state)
          | .ok found =>
              if descriptor state.memory found .replicaHosts ≠ 0 then
                (.unavailable "allocation still has replica holders", state)
              else if ∃ active : HostId,
                  descriptor state.memory found (.activeOperations active) ≠ 0 then
                (.unavailable "allocation still has active operations", state)
              else if availableNodes state.extents < 2 then
                (.unavailable "insufficient extent metadata to reclaim object atomically", state)
              else reclaim state slot found

/-! ## Transitions -/

def Published (state : Allocator) (object : Nat) : Prop :=
  object ≠ 0 ∧ ∃ index < layout.slotCapacity, (state.slots index).objectOffset = object

instance (state : Allocator) (object : Nat) : Decidable (Published layout state object) :=
  inferInstanceAs (Decidable (_ ∧ _))

/-- A byte of the payload of a published object. -/
def Writable (state : Allocator) (cell : Nat) : Prop :=
  ∃ index < layout.slotCapacity, (state.slots index).objectOffset ≠ 0 ∧
    (state.slots index).objectOffset ≤ cell ∧
    cell < (state.slots index).objectOffset +
      descriptor state.memory (state.slots index).objectOffset .bytes

instance (state : Allocator) (cell : Nat) : Decidable (Writable layout state cell) :=
  inferInstanceAs (Decidable (∃ index < layout.slotCapacity, _))

/-- Transitions of the shared state. -/
inductive Label
  /-- `Allocate` on a host with its default block size. -/
  | allocate (host : HostId) (defaultBlockBytes : UInt64) (options : AllocationOptions)
  /-- `BeginRetire`. -/
  | beginRetire (host : HostId) (object : GlobalPointer) (hostCount : Nat)
  /-- `AcknowledgeRetirement`. -/
  | acknowledgeRetirement (snapshot : RetirementSnapshot) (host : HostId) (cursors : HostId → Nat)
  /-- `Free`. -/
  | free (host : HostId) (object : GlobalPointer)
  /-- `AcquireReference`. -/
  | acquireReference (object : GlobalPointer) (host : HostId) (allowRetiring : Bool)
  /-- `ReleaseReference` of a published object. -/
  | releaseReference (object : Nat) (host : HostId)
  /-- A host caches or drops its replicas of a published object. -/
  | setReplicaHosts (object : Nat) (hosts : HostMask)
  /-- A lookup pins a slot, which may have been recycled. -/
  | pinSlot (index : Nat)
  /-- A lookup drops its pin. -/
  | unpinSlot (index : Nat)
  /-- An application writes a byte of a published object. -/
  | applicationWrite (cell : Nat) (byte : UInt8)

/-- The state after an enabled transition. -/
def next (state : Allocator) : Label → Option Allocator
  | .allocate host defaultBlockBytes options =>
      if state.extentLock then none
      else some (allocate layout state host defaultBlockBytes options).2
  | .beginRetire host object hostCount =>
      if state.extentLock then none else some (beginRetire layout state host object hostCount).2
  | .acknowledgeRetirement snapshot host cursors =>
      if state.extentLock then none
      else some (acknowledgeRetirement layout state snapshot host cursors).2
  | .free host object =>
      if state.extentLock then none else some (free layout state host object).2
  | .acquireReference object host allowRetiring =>
      some (acquireReference layout state object host allowRetiring).2
  | .releaseReference object host =>
      if Published layout state object then some (releaseReference state object host).2 else none
  | .setReplicaHosts object hosts =>
      if Published layout state object then
        some { state with memory := setDescriptor state.memory object .replicaHosts hosts.toNat }
      else none
  | .pinSlot index =>
      if index < layout.slotCapacity ∧ (state.slots index).readers < kUint32Max - 1 then
        some { state with
          slots := Function.update state.slots index
            ⟨(state.slots index).objectOffset, (state.slots index).readers + 1⟩ }
      else none
  | .unpinSlot index =>
      if (state.slots index).readers ≠ 0 then
        some { state with
          slots := Function.update state.slots index
            ⟨(state.slots index).objectOffset, (state.slots index).readers - 1⟩ }
      else none
  | .applicationWrite cell byte =>
      if Writable layout state cell then
        some { state with memory := Function.update state.memory cell byte }
      else none

/-- States of every run over a region that was formatted with any bytes in it. -/
def Reachable (state : Allocator) : Prop :=
  ∃ memory start, formatSharedAllocator layout memory = .ok start ∧
    Run.Reaches (next layout) start state

end Allocator
end Cxloom.LoomMem
