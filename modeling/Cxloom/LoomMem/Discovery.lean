import Cxloom.LoomMem.Allocator

/-!
# Discovery of objects

`Describe`, `AcquireReference` and `ReleaseReference` of any number of threads, while other threads
allocate, retire and free.  Every load, store and compare-and-swap of a slot, of the extent lock and
of a descriptor is one step.  A descriptor is a record at the base of its object.  The retirement
control and the pools are only touched under the extent lock.

Which storage the pools give out is open, except that a live object has its record for itself and
that both extents of an object come back or none; the allocator's own ledger shows both.  The record
of an address that is no live object may change at any time, since other objects can lie there.  A
call can be given any pointer: what it stores below one that is no base of a live object reaches
every record with bytes at that place.
-/

namespace Cxloom.LoomMem

namespace Discovery

/-- Lookups that pin a slot. -/
inductive Lookup
  /-- `Describe`. -/
  | describe
  /-- `AcquireReference`. -/
  | acquireReference (host : HostId) (allowRetiring : Bool)

/-- Whether a lookup accepts a retiring object. -/
def Lookup.allowRetiring : Lookup → Bool
  | .describe => false
  | .acquireReference _ allowRetiring => allowRetiring

/-- A call of `Allocate` behind the checks of its arguments. -/
structure Request where
  host : HostId
  bytes : Nat
  alignment : Nat
  blockBytes : Nat
  blockCount : Nat
  dataExtentBytes : Nat
  coherenceExtentBytes : Nat

/-- Calls that take the extent lock. -/
inductive Change
  /-- `Allocate`. -/
  | allocate (request : Request)
  /-- `BeginRetire`. -/
  | beginRetire (host : HostId) (object : GlobalPointer) (hostCount : Nat)
  /-- `AcknowledgeRetirement`. -/
  | acknowledgeRetirement (snapshot : RetirementSnapshot) (host : HostId) (cursors : HostId → Nat)
  /-- `Free`. -/
  | free (host : HostId) (object : GlobalPointer)

/-- Tests of `FindDescriptorLocked`. -/
inductive Check
  | range
  | state
  | magic
  | objectOffset
  | nonempty
  | bytes
  | ownerHost
deriving DecidableEq

/-- The field that a test reads. -/
def Check.field : Check → Option DescriptorField
  | .range => none
  | .state => some .state
  | .magic => some .magic
  | .objectOffset => some .objectOffset
  | .nonempty => some .bytes
  | .bytes => some .bytes
  | .ownerHost => some .ownerHost

/-- What `Describe` saw when it looked at the state of its object under the lock of the object. -/
structure Sighting where
  /-- Object of the pinned slot. -/
  published : Nat
  /-- Fields with which the object was allocated, while it is out of the pool. -/
  allocation : Option (DescriptorField → Nat)
  state : Nat

/-- What a call returns. -/
inductive Outcome
  /-- An error. -/
  | failed (status : Status)
  /-- `Describe` succeeds. -/
  | described (info : AllocationInfo) (sighting : Sighting)
  /-- `AcquireReference` succeeds. -/
  | acquired (object : Nat)
  /-- `Allocate` succeeds. -/
  | allocated (object : Nat)
  /-- `BeginRetire` succeeds. -/
  | retiring (snapshot : RetirementSnapshot)
  /-- `ReleaseReference`, `AcknowledgeRetirement` or `Free` succeeds. -/
  | ok

/-- Who examines a descriptor. -/
inductive Purpose
  | lookup (call : Lookup) (slot : Nat)
  /-- `BeginRetire`. -/
  | beginRetire (host : HostId) (hostCount : Nat)
  /-- The closing part of `AcknowledgeRetirement`. -/
  | acknowledgeRetirement (snapshot : RetirementSnapshot) (host : HostId) (cursors : HostId → Nat)
  /-- `Free`, which has closed a slot. -/
  | free (slot : Nat)

/-- The next access of a thread. -/
inductive Phase
  /-- The thread makes no call. -/
  | idle
  | scan (call : Lookup) (object : GlobalPointer) (slot : Nat)
  | count (call : Lookup) (object : GlobalPointer) (slot : Nat)
  /-- Increment the reader count. -/
  | compare (call : Lookup) (object : GlobalPointer) (slot readers : Nat)
  | verify (call : Lookup) (object : GlobalPointer) (slot : Nat)
  /-- Give the pin back and look on. -/
  | retreat (call : Lookup) (object : GlobalPointer) (slot : Nat)
  /-- Load the fields that the remaining tests need. -/
  | find (purpose : Purpose) (object : GlobalPointer) (rest : List Check)
  | lockObject (purpose : Purpose) (object : GlobalPointer)
  /-- Load the state again. -/
  | recheck (call : Lookup) (object : GlobalPointer) (slot : Nat)
  /-- Load the fields that `Describe` returns, and release the lock of the object. -/
  | copy (object : GlobalPointer) (slot : Nat) (sighting : Sighting) (rest : List DescriptorField)
      (copied : DescriptorField → Nat)
  | sealed (host : HostId) (object : GlobalPointer) (slot : Nat)
  | reference (host : HostId) (object : GlobalPointer) (slot : Nat)
  /-- Release the lock of the object. -/
  | unlockObject (object : GlobalPointer) (slot : Nat) (outcome : Outcome)
  /-- Give the pin back and return. -/
  | unpin (object : GlobalPointer) (slot : Nat) (outcome : Outcome)
  /-- Take the reference back. -/
  | release (object : Nat) (host : HostId)
  /-- Undo an underflow. -/
  | restore (object : Nat) (host : HostId)
  | lockExtents (change : Change)
  /-- Load the object of a slot that may be empty. -/
  | search (request : Request) (slot : Nat)
  | claim (request : Request) (slot : Nat)
  /-- Take both extents. -/
  | reserve (request : Request) (slot : Nat)
  /-- Store the fields of the new descriptor, and publish the object. -/
  | build (slot object : Nat) (values : DescriptorField → Nat) (rest : List (DescriptorField × Nat))
  /-- Test the owner of the object and start the transaction. -/
  | start (host : HostId) (object : GlobalPointer) (hostCount : Nat)
  /-- Store the new state. -/
  | retire (object : GlobalPointer)
  /-- Load the references of the host. -/
  | active (snapshot : RetirementSnapshot) (host : HostId) (cursors : HostId → Nat)
  | sealHost (snapshot : RetirementSnapshot) (host : HostId) (cursors : HostId → Nat)
  /-- Release the lock of the object under the extent lock. -/
  | unlockDescriptor (object : GlobalPointer) (outcome : Outcome)
  /-- Load the object of a slot that may be the one to free. -/
  | findSlot (object : GlobalPointer) (slot : Nat)
  | close (object : GlobalPointer) (slot : Nat)
  /-- Load the replica hosts. -/
  | replicas (object : GlobalPointer) (slot : Nat)
  /-- Load the references of the remaining hosts, and return the extents. -/
  | actives (object : GlobalPointer) (slot : Nat) (rest : List HostId)
  | emptyState (object : GlobalPointer) (slot : Nat)
  /-- Clear the marker. -/
  | emptyMagic (object : GlobalPointer) (slot : Nat)
  | clear (object : GlobalPointer) (slot : Nat)
  | openSlot (slot : Nat) (outcome : Outcome)
  /-- Release the extent lock, and behind it the lock of an object that is still held. -/
  | unlockExtents (late : Option Nat) (outcome : Outcome)
  /-- Release the lock of an object. -/
  | unlockLate (object : Nat) (outcome : Outcome)

end Discovery

/-- The slots, the records of descriptors and the threads. -/
structure Discovery (Thread : Type) where
  slots : Nat → AllocationSlot
  extentLock : Option Thread
  /-- Fields of the record at the base of an object. -/
  words : Nat → DescriptorField → Nat
  retirement : RetirementControl
  /-- Objects whose extents are out of the pools, with the fields they were allocated with. -/
  taken : Nat → Option (DescriptorField → Nat)
  phases : Thread → Discovery.Phase
  /-- What calls have returned, oldest first. -/
  returned : List (Thread × Discovery.Outcome)

namespace Discovery

variable {Thread : Type} (layout : AllocatorLayout)

/-! ## Accesses -/

/-- Fields of two records share a byte. -/
def Overlaps (object : Nat) (field : DescriptorField) (other : Nat) (name : DescriptorField) :
    Prop :=
  object + field.position < other + name.position + name.size ∧
    other + name.position < object + field.position + field.size

instance (object : Nat) (field : DescriptorField) (other : Nat) (name : DescriptorField) :
    Decidable (Overlaps object field other name) := inferInstanceAs (Decidable (_ ∧ _))

section Accesses

variable [DecidableEq Thread]

/-- A thread goes on. -/
def goto (state : Discovery Thread) (thread : Thread) (phase : Phase) : Discovery Thread :=
  { state with phases := Function.update state.phases thread phase }

def finish (state : Discovery Thread) (thread : Thread) (outcome : Outcome) : Discovery Thread :=
  { state with
    phases := Function.update state.phases thread .idle
    returned := state.returned ++ [(thread, outcome)] }

def store (state : Discovery Thread) (object : Nat) (field : DescriptorField) (value : Nat) :
    Discovery Thread :=
  { state with
    words := Function.update state.words object
      (Function.update (state.words object) field value) }

/-- Store a field through a pointer that a call was given.  If it is no base of a live object,
fields of other records with bytes there change too, to what `strayed` says. -/
def storeAt (state : Discovery Thread) (object : Nat) (field : DescriptorField) (value : Nat)
    (strayed : Nat → DescriptorField → Nat) : Discovery Thread :=
  { state with
    words :=
      if (state.taken object).isSome then (state.store object field value).words
      else fun other name =>
        if other = object ∧ name = field then value
        else if Overlaps object field other name then strayed other name
        else state.words other name }

def storeReaders (state : Discovery Thread) (slot readers : Nat) : Discovery Thread :=
  { state with
    slots := Function.update state.slots slot ⟨(state.slots slot).objectOffset, readers⟩ }

def storeObject (state : Discovery Thread) (slot object : Nat) : Discovery Thread :=
  { state with
    slots := Function.update state.slots slot ⟨object, (state.slots slot).readers⟩ }

end Accesses

/-- `fetch_sub` of one on 32 bits. -/
def decrement32 (value : Nat) : Nat := (value + kUint32Max) % 2 ^ 32

/-- `fetch_sub` of one on 64 bits. -/
def decrement64 (value : Nat) : Nat := (value + kUint64Max) % wordLimit

/-! ## `FindDescriptorLocked` -/

/-- The tests that read nothing. -/
def InRange (object : GlobalPointer) : Prop :=
  ¬(object.regionId ≠ 0 ∨
    object.offset < add64 layout.sharedDataOffset sizeofAllocationDescriptor ∨
    add64 layout.sharedDataOffset layout.sharedDataBytes ≤ object.offset ∨
    sub64 object.offset sizeofAllocationDescriptor % alignofAllocationDescriptor ≠ 0)

instance (object : GlobalPointer) : Decidable (InRange layout object) :=
  inferInstanceAs (Decidable (¬_))

/-- The tests, in their order. -/
def checks : List Check := [.range, .state, .magic, .objectOffset, .nonempty, .bytes, .ownerHost]

/-- Whether the value of its field passes a test. -/
def Check.passes (object : GlobalPointer) (allowRetiring : Bool) (check : Check) (value : Nat) :
    Bool :=
  match check with
  | .range => InRange layout object
  | .state => value = AllocationState.allocated.code ∨
      allowRetiring = true ∧ value = AllocationState.retiring.code
  | .magic => value = kAllocationMagic
  | .objectOffset => value = object.offset
  | .nonempty => value ≠ 0
  | .bytes =>
      value ≤ sub64 (add64 layout.sharedDataOffset layout.sharedDataBytes) object.offset
  | .ownerHost => value < kMaxHosts

/-- Whether a retiring object is accepted. -/
def Purpose.allowRetiring : Purpose → Bool
  | .lookup call _ => call.allowRetiring
  | .beginRetire _ _ => false
  | .acknowledgeRetirement _ _ _ => true
  | .free _ => true

/-- What follows when no descriptor is found. -/
def Purpose.rejected (purpose : Purpose) (object : GlobalPointer) (status : Status) : Phase :=
  match purpose with
  | .lookup _ slot => .unpin object slot (.failed status)
  | .beginRetire _ _ => .unlockExtents none (.failed status)
  | .acknowledgeRetirement _ _ _ => .unlockExtents none (.failed status)
  | .free slot => .openSlot slot (.failed status)

/-- What follows when the descriptor is found. -/
def Purpose.found (purpose : Purpose) (object : GlobalPointer) : Phase :=
  match purpose with
  | .lookup call slot => .lockObject (.lookup call slot) object
  | .beginRetire host hostCount => .start host object hostCount
  | .acknowledgeRetirement snapshot host cursors =>
      .lockObject (.acknowledgeRetirement snapshot host cursors) object
  | .free slot => .replicas object slot

/-- The error of a test. -/
def Check.error : Check → Status
  | .range => .invalidArgument "global pointer is not an aligned allocation base"
  | _ => .notFound "global pointer is not an accessible allocation base"

/-- What follows when the lock of the object is taken. -/
def Purpose.locked (purpose : Purpose) (object : GlobalPointer) : Phase :=
  match purpose with
  | .lookup call slot => .recheck call object slot
  | .beginRetire _ _ => .retire object
  | .acknowledgeRetirement snapshot host cursors => .active snapshot host cursors
  | .free slot => .replicas object slot

/-! ## `Describe` and `AcquireReference` -/

/-- The fields that `Describe` returns, in their order. -/
def infoFields : List DescriptorField :=
  [.bytes, .alignment, .ownerHost, .coherenceBlockBytes, .coherenceBlockCount,
    .coherenceMetadataOffset]

/-- The result of `Describe`. -/
def infoOf (object : GlobalPointer) (fields : DescriptorField → Nat) : AllocationInfo where
  gptr := object
  bytes := fields .bytes
  alignment := fields .alignment
  ownerHost := fields .ownerHost
  coherenceBlockBytes := fields .coherenceBlockBytes
  coherenceBlockCount := fields .coherenceBlockCount
  coherenceMetadataOffset := fields .coherenceMetadataOffset

/-- `LockAllocationSlot` up to its first load. -/
def enterLookup (call : Lookup) (object : GlobalPointer) : Except Status Phase :=
  if object.regionId ≠ 0 ∨ object.offset = 0 then
    .error (.invalidArgument "invalid allocation address")
  else .ok (.scan call object 0)

def rechecked (state : Discovery Thread) (call : Lookup) (object : GlobalPointer) (slot : Nat) :
    Phase :=
  let value := state.words object.offset .state
  match call with
  | .describe =>
      if value = AllocationState.allocated.code then
        .copy object slot
          ⟨(state.slots slot).objectOffset, state.taken object.offset, value⟩ infoFields fun _ => 0
      else .unlockObject object slot (.failed (.notFound "object is retiring"))
  | .acquireReference host allowRetiring =>
      if value = AllocationState.allocated.code ∨
          allowRetiring = true ∧ value = AllocationState.retiring.code then
        .sealed host object slot
      else .unlockObject object slot (.failed (.failedPrecondition "object is retiring"))

/-! ## `Allocate` -/

/-- The checks of the arguments. -/
def requestOf (host : HostId) (defaultBlockBytes : UInt64) (options : AllocationOptions) :
    Except Status Request :=
  let bytes := options.bytes.toNat
  let alignment := options.alignment.toNat
  let blockBytes :=
    if options.coherenceBlockBytes.toNat = 0 then defaultBlockBytes.toNat
    else options.coherenceBlockBytes.toNat
  let blockCount := add64 1 (sub64 bytes 1 / blockBytes)
  if bytes = 0 then .error (.invalidArgument "allocation size must be non-zero")
  else if alignment = 0 ∨ Allocator.notPowerOfTwo alignment then
    .error (.invalidArgument "alignment must be a non-zero power of two")
  else if blockBytes < 64 ∨ Allocator.notPowerOfTwo blockBytes then
    .error (.invalidArgument "coherence block size must be a power of two and at least 64 bytes")
  else if kUint64Max / sizeofCoherenceBlockDescriptor < blockCount then
    .error (.invalidArgument "coherence block metadata size overflows")
  else if sub64 (sub64 kUint64Max sizeofAllocationDescriptor) (sub64 alignment 1) < bytes then
    .error (.invalidArgument "allocation extent size overflows")
  else
    .ok
      { host := host
        bytes := bytes
        alignment := alignment
        blockBytes := blockBytes
        blockCount := blockCount
        dataExtentBytes := sub64 (add64 (add64 sizeofAllocationDescriptor bytes) alignment) 1
        coherenceExtentBytes := mul64 blockCount sizeofCoherenceBlockDescriptor }

/-- Where the pools place an object. -/
structure Placement where
  dataExtent : Nat
  /-- First byte of the sidecar. -/
  sidecar : Nat

def Request.base (request : Request) (placement : Placement) : Nat :=
  alignUp (add64 placement.dataExtent sizeofAllocationDescriptor) request.alignment

def Request.values (request : Request) (placement : Placement) : DescriptorField → Nat :=
  Allocator.newDescriptor request.host (request.base placement) request.bytes request.alignment
    request.blockBytes request.blockCount placement.sidecar placement.dataExtent
    request.dataExtentBytes request.coherenceExtentBytes

/-- Fields that `Allocate` assigns after the constructor, in their order. -/
def assignedFields : List DescriptorField :=
  [.magic, .ownerHost, .objectOffset, .bytes, .alignment, .coherenceBlockBytes,
    .coherenceBlockCount, .coherenceMetadataOffset, .dataExtentOffset, .dataExtentBytes,
    .coherenceExtentBytes, .state]

def descriptorFields : List DescriptorField :=
  [.magic, .state, .ownerHost, .reserved0, .objectOffset, .bytes, .alignment, .coherenceBlockBytes,
    .coherenceBlockCount, .coherenceMetadataOffset, .dataExtentOffset, .dataExtentBytes,
    .coherenceExtentBytes, .accessLock, .replicaHosts, .sealedHosts] ++
    (List.finRange kMaxHosts).map .activeOperations

/-- The stores that make a descriptor: the constructor clears all fields. -/
def construction (values : DescriptorField → Nat) : List (DescriptorField × Nat) :=
  descriptorFields.map (fun field => (field, 0)) ++
    assignedFields.map fun field => (field, values field)

/-! ## Retirement -/

/-- `BeginRetire` under the extent lock, up to its first load. -/
def enterBeginRetire (control : RetirementControl) (host : HostId) (object : GlobalPointer)
    (hostCount : Nat) : Phase :=
  if control.current.phase ≠ .idle then
    if control.current.object = object ∧ control.current.coordinator = host then
      .unlockExtents none (.retiring control.current)
    else .unlockExtents none (.failed (.unavailable "another retirement is in progress"))
  else .find (.beginRetire host hostCount) object checks

/-- A host closes the object of a transaction. -/
def acknowledgeClosing (control : RetirementControl) (snapshot : RetirementSnapshot) (host : HostId)
    (cursors : HostId → Nat) : RetirementControl :=
  let closed := control.closed ||| HostMask.bit host.val
  { control with
    watermarks := Function.update control.watermarks host cursors
    closed := closed
    current :=
      if closed = HostMask.all snapshot.hostCount then { control.current with phase := .draining }
      else control.current }

/-- `AcknowledgeRetirement` in the phases that look at no descriptor. -/
def acknowledgeControl (control : RetirementControl) (snapshot : RetirementSnapshot) (host : HostId)
    (cursors : HostId → Nat) : Outcome × RetirementControl :=
  match snapshot.phase with
  | .draining =>
      if ∃ producer : HostId, producer.val < snapshot.hostCount ∧ producer ≠ host ∧
          cursors producer < control.watermarks producer host then
        (.failed (.unavailable "inbound callbacks have not reached the retirement watermark"),
          control)
      else
        let drained := control.drained ||| HostMask.bit host.val
        (.ok,
          { control with
            drained := drained
            current :=
              if drained = HostMask.all snapshot.hostCount then
                { control.current with phase := .cleaning }
              else control.current })
  | .cleaning =>
      let cleaned := control.cleaned ||| HostMask.bit host.val
      (.ok,
        { control with
          cleaned := cleaned
          current :=
            if cleaned = HostMask.all snapshot.hostCount then
              { control.current with phase := .reclaimable }
            else control.current })
  | _ => (.ok, control)

/-- What a call does when it has taken the extent lock, up to its next load. -/
def entered (control : RetirementControl) : Change → Phase × RetirementControl
  | .allocate request => (.search request 0, control)
  | .beginRetire host object hostCount =>
      (enterBeginRetire control host object hostCount, control)
  | .acknowledgeRetirement snapshot host cursors =>
      if control.current.sequence ≠ snapshot.sequence ∨ control.current.phase ≠ snapshot.phase ∨
          snapshot.hostCount ≤ host.val then
        (.unlockExtents none (.failed (.failedPrecondition "retirement phase changed")), control)
      else if snapshot.phase = .closing then
        (.find (.acknowledgeRetirement snapshot host cursors) snapshot.object checks, control)
      else
        let (outcome, control) := acknowledgeControl control snapshot host cursors
        (.unlockExtents none outcome, control)
  | .free host object =>
      if control.current.phase ≠ .reclaimable ∨ control.current.object ≠ object ∨
          control.current.coordinator ≠ host then
        (.unlockExtents none (.failed (.failedPrecondition
          "storage reclamation requires all-host retirement completion")), control)
      else (.findSlot object 0, control)

/-! ## Steps -/

/-- What the surroundings of an access decide. -/
structure Choice where
  /-- A weak compare-and-swap fails although it could succeed. -/
  spurious : Bool
  /-- The result of the pools for a request. -/
  placement : Except Status Placement
  /-- Whether the pools take the extents of an object back. -/
  reclaimed : Status
  /-- What fields hold that share bytes with a field stored through a stray pointer. -/
  strayed : Nat → DescriptorField → Nat

section Steps

variable [DecidableEq Thread]

/-- Calls and accesses. -/
inductive Label (Thread : Type)
  /-- `Describe`. -/
  | describe (thread : Thread) (object : GlobalPointer)
  /-- `AcquireReference`. -/
  | acquireReference (thread : Thread) (object : GlobalPointer) (host : HostId)
      (allowRetiring : Bool)
  /-- `ReleaseReference`. -/
  | releaseReference (thread : Thread) (object : Nat) (host : HostId)
  /-- `Allocate`. -/
  | allocate (thread : Thread) (host : HostId) (defaultBlockBytes : UInt64)
      (options : AllocationOptions)
  /-- `BeginRetire`. -/
  | beginRetire (thread : Thread) (host : HostId) (object : GlobalPointer) (hostCount : Nat)
  /-- `AcknowledgeRetirement`. -/
  | acknowledgeRetirement (thread : Thread) (snapshot : RetirementSnapshot) (host : HostId)
      (cursors : HostId → Nat)
  /-- `Free`. -/
  | free (thread : Thread) (host : HostId) (object : GlobalPointer)
  /-- The next access of a thread. -/
  | advance (thread : Thread) (choice : Choice)
  /-- A thread stores into what is not the descriptor of a live object, or the replica hosts of any
  object. -/
  | overwrite (thread : Thread) (object : Nat) (field : DescriptorField) (value : Nat)

/-- The next access of a thread that examines a descriptor. -/
def advanceFind (state : Discovery Thread) (thread : Thread) (choice : Choice) :
    Phase → Option (Discovery Thread)
  | .find purpose object (check :: rest) =>
      if check.passes layout object purpose.allowRetiring
          ((check.field.map (state.words object.offset)).getD 0) then
        some (state.goto thread
          (if rest = [] then purpose.found object else .find purpose object rest))
      else some (state.goto thread (purpose.rejected object check.error))
  | .lockObject purpose object =>
      if state.words object.offset .accessLock = 0 ∧ ¬choice.spurious then
        some ((state.storeAt object.offset .accessLock 1 choice.strayed).goto thread
          (purpose.locked object))
      else some state
  | _ => none

/-- The next access of a lookup or of `ReleaseReference`. -/
def advanceLookup (state : Discovery Thread) (thread : Thread) (choice : Choice) :
    Phase → Option (Discovery Thread)
  | .scan call object slot =>
      if layout.slotCapacity ≤ slot then
        some (state.finish thread (.failed (.notFound "address has no accessible allocation slot")))
      else if (state.slots slot).objectOffset = object.offset then
        some (state.goto thread (.count call object slot))
      else some (state.goto thread (.scan call object (slot + 1)))
  | .count call object slot =>
      some (state.goto thread (.compare call object slot (state.slots slot).readers))
  | .compare call object slot readers =>
      if readers = kUint32Max ∨ readers = kUint32Max - 1 then
        some (state.goto thread (.scan call object (slot + 1)))
      else if (state.slots slot).readers = readers ∧ ¬choice.spurious then
        some ((state.storeReaders slot (readers + 1)).goto thread (.verify call object slot))
      else some (state.goto thread (.compare call object slot (state.slots slot).readers))
  | .verify call object slot =>
      if (state.slots slot).objectOffset = object.offset then
        some (state.goto thread (.find (.lookup call slot) object checks))
      else some (state.goto thread (.retreat call object slot))
  | .retreat call object slot =>
      some ((state.storeReaders slot (decrement32 (state.slots slot).readers)).goto thread
        (.scan call object (slot + 1)))
  | .recheck call object slot => some (state.goto thread (rechecked state call object slot))
  | .copy object slot sighting (field :: rest) copied =>
      some (state.goto thread
        (.copy object slot sighting rest
          (Function.update copied field (state.words object.offset field))))
  | .copy object slot sighting [] copied =>
      some ((state.storeAt object.offset .accessLock 0 choice.strayed).goto thread
        (.unpin object slot (.described (infoOf object copied) sighting)))
  | .sealed host object slot =>
      if (state.words object.offset .sealedHosts).testBit host.val then
        some (state.goto thread
          (.unlockObject object slot
            (.failed (.failedPrecondition "host has sealed this retiring object"))))
      else some (state.goto thread (.reference host object slot))
  | .reference host object slot =>
      some ((state.storeAt object.offset (.activeOperations host)
        ((state.words object.offset (.activeOperations host) + 1) % wordLimit)
          choice.strayed).goto thread (.unlockObject object slot (.acquired object.offset)))
  | .unlockObject object slot outcome =>
      some ((state.storeAt object.offset .accessLock 0 choice.strayed).goto thread
        (.unpin object slot outcome))
  | .unpin _ slot outcome =>
      some ((state.storeReaders slot (decrement32 (state.slots slot).readers)).finish thread
        outcome)
  | .release object host =>
      let previous := state.words object (.activeOperations host)
      let released := state.storeAt object (.activeOperations host) (decrement64 previous)
        choice.strayed
      if previous = 0 then some (released.goto thread (.restore object host))
      else some (released.finish thread .ok)
  | .restore object host =>
      some ((state.storeAt object (.activeOperations host)
        ((state.words object (.activeOperations host) + 1) % wordLimit) choice.strayed).finish
          thread
          (.failed (.failedPrecondition "object reference count underflow")))
  | _ => none

/-- The next access of a call that takes the extent lock; none, if the pools cannot decide so. -/
def advanceChange (state : Discovery Thread) (thread : Thread) (choice : Choice) :
    Phase → Option (Discovery Thread)
  | .lockExtents change =>
      if state.extentLock.isSome ∨ choice.spurious then some state
      else
        let (phase, control) := entered state.retirement change
        some ({ state with extentLock := some thread, retirement := control }.goto thread phase)
  | .search request slot =>
      if layout.slotCapacity ≤ slot then
        some (state.goto thread
          (.unlockExtents none (.failed (.unavailable "allocation discovery slots exhausted"))))
      else if (state.slots slot).objectOffset =
        0 then some (state.goto thread (.claim request slot))
      else some (state.goto thread (.search request (slot + 1)))
  | .claim request slot =>
      if (state.slots slot).readers = 0 then
        some ((state.storeReaders slot kUint32Max).goto thread (.reserve request slot))
      else some (state.goto thread (.search request (slot + 1)))
  | .reserve request slot =>
      match choice.placement with
      | .error status => some (state.goto thread (.openSlot slot (.failed status)))
      | .ok placement =>
          let object := request.base placement
          let values := request.values placement
          if object ≠ 0 ∧ (state.taken object).isNone then
            some ({ state with taken := Function.update state.taken object (some values) }.goto
              thread
              (.build slot object values (construction values)))
          else none
  | .build slot object values rest =>
      match rest with
      | (field, value) :: rest =>
          some ((state.store object field value).goto thread (.build slot object values rest))
      | [] => some
        ((state.storeObject slot object).goto thread (.openSlot slot (.allocated object)))
  | .start host object hostCount =>
      let current := state.retirement.current
      if state.words object.offset .ownerHost ≠ host.val then
        some (state.goto thread (.unlockExtents none
          (.failed (.failedPrecondition "only the allocation owner may retire it"))))
      else if current.sequence = kUint64Max then
        some (state.goto thread (.unlockExtents none
          (.failed (.unavailable "retirement sequence exhausted"))))
      else
        some ({ state with
          retirement :=
            { state.retirement with
              current := ⟨.closing, object, current.sequence + 1, host, hostCount⟩
              closed := 0#64
              drained := 0#64
              cleaned := 0#64 } }.goto thread (.lockObject (.beginRetire host hostCount) object))
  | .retire object =>
      some ((state.storeAt object.offset .state AllocationState.retiring.code choice.strayed).goto
        thread (.unlockDescriptor object (.retiring state.retirement.current)))
  | .active snapshot host cursors =>
      let object := snapshot.object
      if state.words object.offset (.activeOperations host) ≠ 0 then
        some (state.goto thread (.unlockExtents (some object.offset)
          (.failed (.unavailable "host still has active CXL operations"))))
      else some (state.goto thread (.sealHost snapshot host cursors))
  | .sealHost snapshot host cursors =>
      let object := snapshot.object
      some (({ state with
        retirement := acknowledgeClosing state.retirement snapshot host cursors }.storeAt
          object.offset .sealedHosts (state.words object.offset .sealedHosts ||| 1 <<< host.val)
            choice.strayed).goto thread (.unlockDescriptor object .ok))
  | .unlockDescriptor object outcome =>
      some ((state.storeAt object.offset .accessLock 0 choice.strayed).goto thread
        (.unlockExtents none outcome))
  | .findSlot object slot =>
      if layout.slotCapacity ≤ slot then
        some (state.goto thread
          (.unlockExtents none (.failed (.notFound "allocation slot not found"))))
      else if (state.slots slot).objectOffset = object.offset then
        some (state.goto thread (.close object slot))
      else some (state.goto thread (.findSlot object (slot + 1)))
  | .close object slot =>
      if (state.slots slot).readers = 0 then
        some ((state.storeReaders slot kUint32Max).goto thread
          (.find (.free slot) object checks))
      else
        some (state.goto thread (.unlockExtents none
          (.failed (.unavailable "descriptor discovery is still active"))))
  | .replicas object slot =>
      if state.words object.offset .replicaHosts ≠ 0 then
        some (state.goto thread
          (.openSlot slot (.failed (.unavailable "allocation still has replica holders"))))
      else some (state.goto thread (.actives object slot (List.finRange kMaxHosts)))
  | .actives object slot rest =>
      match rest with
      | host :: rest =>
          if state.words object.offset (.activeOperations host) ≠ 0 then
            some (state.goto thread
              (.openSlot slot (.failed (.unavailable "allocation still has active operations"))))
          else some (state.goto thread (.actives object slot rest))
      | [] =>
          if choice.reclaimed.isOk then
            some ({ state with taken := Function.update state.taken object.offset none }.goto thread
              (.emptyState object slot))
          else some (state.goto thread (.openSlot slot (.failed choice.reclaimed)))
  | .emptyState object slot =>
      some ((state.store object.offset .state AllocationState.empty.code).goto thread
        (.emptyMagic object slot))
  | .emptyMagic object slot =>
      some ((state.store object.offset .magic 0).goto thread (.clear object slot))
  | .clear _ slot =>
      some (({ state with
        retirement :=
          { state.retirement with
            current := { state.retirement.current with phase := .idle } } }.storeObject slot
              0).goto thread (.openSlot slot .ok))
  | .openSlot slot outcome =>
      some ((state.storeReaders slot 0).goto thread (.unlockExtents none outcome))
  | .unlockExtents late outcome =>
      let unlocked := { state with extentLock := none }
      match late with
      | none => some (unlocked.finish thread outcome)
      | some object => some (unlocked.goto thread (.unlockLate object outcome))
  | .unlockLate object outcome =>
      some ((state.storeAt object .accessLock 0 choice.strayed).finish thread outcome)
  | _ => none

/-- The next access of a thread. -/
def advance (state : Discovery Thread) (thread : Thread) (choice : Choice) :
    Option (Discovery Thread) :=
  (advanceFind layout state thread choice (state.phases thread)).orElse fun _ =>
    (advanceLookup layout state thread choice (state.phases thread)).orElse fun _ =>
      advanceChange layout state thread choice (state.phases thread)

/-- A thread that makes no call makes no access. -/
theorem advance_idle {state : Discovery Thread} {thread : Thread} (choice : Choice)
    (idle : state.phases thread = .idle) : advance layout state thread choice = none := by
  simp only [advance, idle, advanceFind, advanceLookup, advanceChange, Option.orElse_none]

/-- A thread that makes no call enters one, or returns from it at once. -/
def call (state : Discovery Thread) (thread : Thread) (entry : Except Status Phase) :
    Option (Discovery Thread) :=
  match state.phases thread with
  | .idle =>
      match entry with
      | .error status => some (state.finish thread (.failed status))
      | .ok phase => some (state.goto thread phase)
  | _ => none

/-- Perform an action, if it is enabled. -/
def next (state : Discovery Thread) : Label Thread → Option (Discovery Thread)
  | .describe thread object => state.call thread (enterLookup .describe object)
  | .acquireReference thread object host allowRetiring =>
      state.call thread (enterLookup (.acquireReference host allowRetiring) object)
  | .releaseReference thread object host => state.call thread (.ok (.release object host))
  | .allocate thread host defaultBlockBytes options =>
      state.call thread
        ((requestOf host defaultBlockBytes options).map fun request =>
          .lockExtents (.allocate request))
  | .beginRetire thread host object hostCount =>
      state.call thread
        (if hostCount = 0 ∨ kMaxHosts < hostCount then
          .error (.invalidArgument "invalid retirement participants")
        else .ok (.lockExtents (.beginRetire host object hostCount)))
  | .acknowledgeRetirement thread snapshot host cursors =>
      state.call thread (.ok (.lockExtents (.acknowledgeRetirement snapshot host cursors)))
  | .free thread host object => state.call thread (.ok (.lockExtents (.free host object)))
  | .advance thread choice => advance layout state thread choice
  | .overwrite _ object field value =>
      if (state.taken object).isNone ∨ field = .replicaHosts then
        some (state.store object field value)
      else none

end Steps

/-- A formatted region, before any thread made a call. -/
def ofAllocator (formatted : Allocator) : Discovery Thread where
  slots := formatted.slots
  extentLock := none
  words := descriptor formatted.memory
  retirement := formatted.retirement
  taken _ := none
  phases _ := .idle
  returned := []

/-- What the next access of a thread stores through a pointer that its call was given, unless it has
pinned the slot of that pointer. -/
def unpinnedStore (state : Discovery Thread) : Phase → Option (Nat × DescriptorField)
  | .lockObject (.lookup _ _) _ => none
  | .lockObject _ object =>
      if state.words object.offset .accessLock = 0 then some (object.offset, .accessLock) else none
  | .retire object => some (object.offset, .state)
  | .sealHost snapshot _ _ => some (snapshot.object.offset, .sealedHosts)
  | .unlockDescriptor object _ => some (object.offset, .accessLock)
  | .unlockLate object _ => some (object, .accessLock)
  | .release object host | .restore object host => some (object, .activeOperations host)
  | _ => none

/-- A store through a pointer that is no base of a live object hits a field that `Describe` returns
of a live one. -/
def Hits (state : Discovery Thread) (object : Nat) (field : DescriptorField) : Prop :=
  state.taken object = none ∧ ∃ other name, (state.taken other).isSome = true ∧ name ∈ infoFields ∧
    Overlaps object field other name

/-- The stores of `BeginRetire`, `AcknowledgeRetirement` and `ReleaseReference` hit no field that
`Describe` returns of another live object. -/
def Spares (state : Discovery Thread) : Label Thread → Prop
  | .advance thread _ => ∀ object field,
      state.unpinnedStore (state.phases thread) = some (object, field) → ¬state.Hits object field
  | _ => True

/-- These stores go through bases of live objects. -/
def GivenLive (state : Discovery Thread) : Label Thread → Prop
  | .advance thread _ =>
      (state.unpinnedStore (state.phases thread)).all (fun stored =>
        (state.taken stored.1).isSome) = true
  | _ => True

instance decidableGivenLive (state : Discovery Thread) :
    ∀ label, Decidable (GivenLive state label)
  | .advance _ _ => inferInstanceAs (Decidable (_ = _))
  | .describe _ _ | .acquireReference _ _ _ _ | .releaseReference _ _ _ | .allocate _ _ _ _
  | .beginRetire _ _ _ _ | .acknowledgeRetirement _ _ _ _ | .free _ _ _ | .overwrite _ _ _ _ =>
      .isTrue trivial

end Discovery

end Cxloom.LoomMem
