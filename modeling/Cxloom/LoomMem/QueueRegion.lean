import Cxloom.Common
import Cxloom.Memory
import Cxloom.Words

/-!
# The shared queue region

`FormatSharedQueueRegion`, `ValidateSharedQueueRegion` and `LocateSharedQueue` on the bytes of the
region.  Each of them computes the places of the queues again, with sixty-four bit sums and
products; positions are relative to the start of the region.
-/

namespace Cxloom.LoomMem.QueueRegion

def kQueueRegionMagic : Nat := 0x43584c4f4f4d5152

def kSpscQueueMagic : Nat := 0x43584c4f4f4d5351

def kQueueLayoutVersion : Nat := 1

/-- Size of `QueueRegionHeader`. -/
def sizeofQueueRegionHeader : Nat := 64

/-- Size of `SharedSpscQueueHeader`. -/
def sizeofSharedSpscQueueHeader : Nat := 192

/-- Size of `SharedSpscQueueSlot`. -/
def sizeofSharedSpscQueueSlot : Nat := 192

/-! ## Records -/

/-- Fields of `QueueRegionHeader`. -/
inductive HeaderField
  | magic
  | layoutVersion
  | headerBytes
  | hostCount
  | reserved0
  | capacityEntries
  | slotBytes
  | queueHeaderBytes
  | queueStride
  | queueCount
  | requiredBytes
deriving DecidableEq

namespace HeaderField

def position : HeaderField → Nat
  | magic => 0
  | layoutVersion => 8
  | headerBytes => 12
  | hostCount => 16
  | reserved0 => 18
  | capacityEntries => 20
  | slotBytes => 24
  | queueHeaderBytes => 28
  | queueStride => 32
  | queueCount => 40
  | requiredBytes => 48

def size : HeaderField → Nat
  | magic | queueStride | queueCount | requiredBytes => 8
  | hostCount | reserved0 => 2
  | _ => 4

end HeaderField

/-- Fields of `SpscQueueIdentity`, the first part of a queue. -/
inductive IdentityField
  | magic
  | producer
  | consumer
  | capacityEntries
  | slotBytes
deriving DecidableEq

namespace IdentityField

def position : IdentityField → Nat
  | magic => 0
  | producer => 8
  | consumer => 10
  | capacityEntries => 12
  | slotBytes => 16

def size : IdentityField → Nat
  | magic => 8
  | producer | consumer => 2
  | capacityEntries | slotBytes => 4

end IdentityField

def regionHeader (memory : Memory) (field : HeaderField) : Nat :=
    memory.load field.position field.size

def setRegionHeader (memory : Memory) (field : HeaderField) (value : Nat) : Memory :=
  memory.store field.position field.size value

def identity (memory : Memory) (queue : Nat) (field : IdentityField) : Nat :=
  memory.load (queue + field.position) field.size

def setIdentity (memory : Memory) (queue : Nat) (field : IdentityField) (value : Nat) : Memory :=
  memory.store (queue + field.position) field.size value

/-! ## Layout -/

/-- Number of ordered pairs of distinct hosts. -/
def queueCount (hostCount : Nat) : Nat :=
  mul64 hostCount (if hostCount = 0 then 0 else hostCount - 1)

def queueStride (capacityEntries : Nat) : Nat :=
  add64 sizeofSharedSpscQueueHeader (mul64 capacityEntries sizeofSharedSpscQueueSlot)

def requiredBytes (hostCount capacityEntries : Nat) : Except Status Nat :=
  if hostCount = 0 ∨ hostCount > kMaxHosts ∨ capacityEntries = 0 ∨ capacityEntries > 2 ^ 32 - 1 then
    .error (.invalidArgument "invalid shared queue dimensions")
  else if capacityEntries >
      sub64 (wordLimit - 1) sizeofSharedSpscQueueHeader / sizeofSharedSpscQueueSlot then
    .error (.invalidArgument "shared queue stride overflows")
  else
    let stride := queueStride capacityEntries
    let count := queueCount hostCount
    if count ≠ 0 ∧ stride > sub64 (wordLimit - 1) sizeofQueueRegionHeader / count then
      .error (.invalidArgument "shared queue region size overflows")
    else .ok (add64 sizeofQueueRegionHeader (mul64 count stride))

def pairIndex (hostCount producer consumer : Nat) : Except Status Nat :=
  if producer ≥ hostCount ∨ consumer ≥ hostCount then
    .error (.invalidArgument "queue endpoint is out of range")
  else if producer = consumer then
    .error (.invalidArgument "self-pairs do not use the shared queue transport")
  else
    let consumerIndex := if consumer < producer then consumer else consumer - 1
    .ok (add64 (mul64 producer (hostCount - 1)) consumerIndex)

/-- The region header describes the expected layout and the region has room for it. -/
def validateHeader (header : HeaderField → Nat) (regionBytes hostCount capacityEntries : Nat) :
    Status :=
  match requiredBytes hostCount capacityEntries with
  | .error status => status
  | .ok required =>
      if header .magic ≠ kQueueRegionMagic ∨
          header .layoutVersion ≠ kQueueLayoutVersion ∨
          header .headerBytes ≠ sizeofQueueRegionHeader ∨
          header .hostCount ≠ hostCount ∨
          header .capacityEntries ≠ capacityEntries ∨
          header .slotBytes ≠ sizeofSharedSpscQueueSlot ∨
          header .queueHeaderBytes ≠ sizeofSharedSpscQueueHeader ∨
          header .queueStride ≠ queueStride capacityEntries ∨
          header .queueCount ≠ queueCount hostCount ∨
          header .requiredBytes ≠ required then
        .failedPrecondition "shared queue region has an incompatible layout"
      else if header .requiredBytes > regionBytes then
        .failedPrecondition "shared queue region exceeds its reserved layout range"
      else .ok

/-- The pairs of hosts in the order of the nested loops over producers and consumers. -/
def hostPairs (hostCount : Nat) : List (Nat × Nat) :=
  (List.range hostCount).flatMap fun producer =>
    (List.range hostCount).map fun consumer => (producer, consumer)

def queueAt (memory : Memory) (index : Nat) : Nat :=
  sizeofQueueRegionHeader + mul64 index (regionHeader memory .queueStride)

/-! ## Formatting -/

/-- Clear the region and store its header. -/
def formatHeader (memory : Memory) (required hostCount capacityEntries : Nat) : Memory :=
  let memory := memory.fill 0 required 0
  let memory := memory.fill 0 sizeofQueueRegionHeader 0
  let memory := setRegionHeader memory .magic kQueueRegionMagic
  let memory := setRegionHeader memory .layoutVersion kQueueLayoutVersion
  let memory := setRegionHeader memory .headerBytes sizeofQueueRegionHeader
  let memory := setRegionHeader memory .hostCount hostCount
  let memory := setRegionHeader memory .capacityEntries capacityEntries
  let memory := setRegionHeader memory .slotBytes sizeofSharedSpscQueueSlot
  let memory := setRegionHeader memory .queueHeaderBytes sizeofSharedSpscQueueHeader
  let memory := setRegionHeader memory .queueStride (queueStride capacityEntries)
  let memory := setRegionHeader memory .queueCount (queueCount hostCount)
  setRegionHeader memory .requiredBytes required

/-- Construct the first slots of a queue; all their members are zero. -/
def constructSlots (memory : Memory) (slots : Nat) : Nat → Memory
  | 0 => memory
  | count + 1 =>
      (constructSlots memory slots count).fill (slots + count * sizeofSharedSpscQueueSlot)
        sizeofSharedSpscQueueSlot 0

/-- Construct a queue, store its identity and construct its slots; its cursors are zero. -/
def constructQueue (memory : Memory) (queue producer consumer capacityEntries : Nat) : Memory :=
  let memory := memory.fill queue sizeofSharedSpscQueueHeader 0
  let memory := setIdentity memory queue .magic kSpscQueueMagic
  let memory := setIdentity memory queue .producer producer
  let memory := setIdentity memory queue .consumer consumer
  let memory := setIdentity memory queue .capacityEntries capacityEntries
  let memory := setIdentity memory queue .slotBytes sizeofSharedSpscQueueSlot
  constructSlots memory (queue + sizeofSharedSpscQueueHeader) capacityEntries

/-- Construct the queues of some pairs of hosts. -/
def formatQueues (hostCount capacityEntries : Nat) : List (Nat × Nat) → Memory → Status × Memory
  | [], memory => (.ok, memory)
  | (producer, consumer) :: rest, memory =>
      if producer = consumer then formatQueues hostCount capacityEntries rest memory
      else
        match pairIndex hostCount producer consumer with
        | .error status => (status, memory)
        | .ok index =>
            formatQueues hostCount capacityEntries rest
              (constructQueue memory (queueAt memory index) producer consumer capacityEntries)

/-- `FormatSharedQueueRegion`.  A region is `none` if its address is null. -/
def formatSharedQueueRegion (region : Option Memory) (regionBytes hostCount capacityEntries : Nat) :
    Status × Option Memory :=
  match region with
  | none => (.invalidArgument "shared queue region is null", none)
  | some memory =>
      match requiredBytes hostCount capacityEntries with
      | .error status => (status, some memory)
      | .ok required =>
          if required > regionBytes then
            (.invalidArgument
              "reserved queue region is too small for host count and queue capacity", some memory)
          else
            let formatted := formatQueues hostCount capacityEntries (hostPairs hostCount)
              (formatHeader memory required hostCount capacityEntries)
            (formatted.1, some formatted.2)

/-! ## Validation -/

/-- The queues of some pairs of hosts carry their identities.  `isLockFree` tells whether the
platform's sixty-four bit atomics are lock free. -/
def validateQueues (isLockFree : Bool) (memory : Memory) (hostCount capacityEntries : Nat) :
    List (Nat × Nat) → Status
  | [] => .ok
  | (producer, consumer) :: rest =>
      if producer = consumer then validateQueues isLockFree memory hostCount capacityEntries rest
      else
        match pairIndex hostCount producer consumer with
        | .error status => status
        | .ok index =>
            let queue := queueAt memory index
            if identity memory queue .magic ≠ kSpscQueueMagic ∨
                identity memory queue .producer ≠ producer ∨
                identity memory queue .consumer ≠ consumer ∨
                identity memory queue .capacityEntries ≠ capacityEntries ∨
                identity memory queue .slotBytes ≠ sizeofSharedSpscQueueSlot ∨
                isLockFree = false then
              .failedPrecondition "shared SPSC queue metadata is incompatible"
            else validateQueues isLockFree memory hostCount capacityEntries rest

/-- `ValidateSharedQueueRegion`. -/
def validateSharedQueueRegion (isLockFree : Bool) (region : Option Memory)
    (regionBytes hostCount capacityEntries : Nat) : Status :=
  match region with
  | none => .invalidArgument "shared queue region is too small"
  | some memory =>
      if regionBytes < sizeofQueueRegionHeader then
        .invalidArgument "shared queue region is too small"
      else
        let headerStatus :=
          validateHeader (regionHeader memory) regionBytes hostCount capacityEntries
        if headerStatus.isOk then
          validateQueues isLockFree memory hostCount capacityEntries (hostPairs hostCount)
        else headerStatus

/-! ## Lookup -/

/-- Where the parts of a queue are. -/
structure SharedQueueStorage where
  /-- Position of the queue header. -/
  header : Nat
  /-- Position of the first slot. -/
  slots : Nat
deriving DecidableEq, Repr

/-- `LocateSharedQueue`. -/
def locateSharedQueue (region : Option Memory) (regionBytes producer consumer : Nat) :
    Except Status SharedQueueStorage :=
  match region with
  | none => .error (.invalidArgument "shared queue region is too small")
  | some memory =>
      if regionBytes < sizeofQueueRegionHeader then
        .error (.invalidArgument "shared queue region is too small")
      else
        let headerStatus := validateHeader (regionHeader memory) regionBytes
          (regionHeader memory .hostCount) (regionHeader memory .capacityEntries)
        if headerStatus.isOk then
          match pairIndex (regionHeader memory .hostCount) producer consumer with
          | .error status => .error status
          | .ok index =>
              let queue := queueAt memory index
              if identity memory queue .magic ≠ kSpscQueueMagic ∨
                  identity memory queue .producer ≠ producer ∨
                  identity memory queue .consumer ≠ consumer then
                .error (.failedPrecondition "shared SPSC queue identity is incompatible")
              else .ok ⟨queue, queue + sizeofSharedSpscQueueHeader⟩
        else .error headerStatus

end Cxloom.LoomMem.QueueRegion
