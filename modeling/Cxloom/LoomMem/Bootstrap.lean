import Cxloom.LoomMem.Allocator
import Cxloom.LoomMem.QueueCapacity

/-!
# The bootstrap session

`LoomMemRuntime::Initialize` by several processes over one shared region.  The owner clears the
header, formats the allocator, the coherence region and the queues and then publishes the header;
everybody else polls the state of the header and compares what it finds with its own configuration.
Every process validates the queues and the allocator, registers its host and locates its queues,
while others that are done already allocate and send.
-/

namespace Cxloom.LoomMem

/-! ## Layout -/

/-- Use of a part of the region. -/
inductive RegionKind
  | bootstrap
  | allocator
  | coherence
  | queues
  | sharedData
deriving DecidableEq, Repr

/-- A part of the region. -/
structure RegionRange where
  /-- Its use. -/
  kind : RegionKind
  /-- First byte. -/
  offset : Nat
  bytes : Nat
deriving DecidableEq, Repr

/-- The parts of the region; `SameLayout` compares all of their members. -/
structure SharedRegionLayout where
  bootstrap : RegionRange
  allocator : RegionRange
  /-- Block descriptors. -/
  coherence : RegionRange
  /-- Queues between hosts. -/
  queues : RegionRange
  /-- Objects. -/
  sharedData : RegionRange
deriving DecidableEq, Repr

/-- Bytes for the bootstrap header and for the allocator header. -/
def headerBytes : Nat := 2 ^ 20

/-- Bytes for block descriptors and for queues. -/
def tableBytes : Nat := 64 * 2 ^ 20

/-- First byte of the data region. -/
def defaultDataOffset : Nat := headerBytes + headerBytes + tableBytes + tableBytes

/-- `BuildDefaultLayout`. -/
def buildDefaultLayout (totalBytes : Nat) : SharedRegionLayout where
  bootstrap := ⟨.bootstrap, 0, headerBytes⟩
  allocator := ⟨.allocator, headerBytes, headerBytes⟩
  coherence := ⟨.coherence, headerBytes + headerBytes, tableBytes⟩
  queues := ⟨.queues, headerBytes + headerBytes + tableBytes, tableBytes⟩
  sharedData := ⟨.sharedData, defaultDataOffset,
    if totalBytes > defaultDataOffset then totalBytes - defaultDataOffset else 0⟩

/-! ## Configuration -/

/-- What `Initialize` reads of the configuration. -/
structure CxloomConfig where
  localHostId : UInt16
  hostCount : UInt16
  sharedRegionBytes : UInt64
  /-- Default block size. -/
  coherenceGranuleBytes : UInt64
  /-- Slots of a queue, zero for as many as fit. -/
  queueCapacityEntries : UInt64
  replicaCacheCapacityEntries : UInt64
  replicaCacheCapacityBytes : UInt64
  /-- Device or file. -/
  sharedRegionPath : String
  /-- Whether the process formats the region. -/
  bootstrapOwner : Bool
  /-- How long to wait for the owner. -/
  bootstrapTimeoutMs : UInt64
  placementPolicy : Int

namespace CxloomConfig

variable (config : CxloomConfig)

/-- `ConfigValidator::Validate`. -/
def validate : Status :=
  if config.placementPolicy ≠ 0 ∧ config.placementPolicy ≠ 1 ∧ config.placementPolicy ≠ 2 then
    .invalidArgument "invalid placement policy"
  else if config.hostCount = 0 then
    .invalidArgument "host_count must be greater than zero"
  else if config.localHostId ≥ config.hostCount then
    .invalidArgument "local_host_id must be smaller than host_count"
  else if config.hostCount.toNat > kMaxHosts then
    .invalidArgument "host_count exceeds the bootstrap host table capacity"
  else if config.sharedRegionPath.isEmpty then
    .invalidArgument "shared_region_path must name a shared CXL device or test file"
  else if config.sharedRegionBytes = 0 then
    .invalidArgument "shared region size must be non-zero"
  else if config.coherenceGranuleBytes = 0 then
    .invalidArgument "coherence_granule_bytes must be non-zero"
  else if config.coherenceGranuleBytes &&& (config.coherenceGranuleBytes - 1) ≠ 0 ∨
      config.coherenceGranuleBytes < 64 then
    .invalidArgument "coherence_granule_bytes must be a power of two and at least 64 bytes"
  else if config.replicaCacheCapacityEntries = 0 ∨ config.replicaCacheCapacityBytes = 0 then
    .invalidArgument "replica cache entry and byte capacities must be non-zero"
  else if config.bootstrapTimeoutMs = 0 then
    .invalidArgument "bootstrap_timeout_ms must be non-zero"
  else .ok

variable {config}

theorem hosts_of_validate (valid : config.validate.isOk = true) :
    config.localHostId.toNat < config.hostCount.toNat ∧ config.hostCount.toNat ≤ kMaxHosts := by
  by_cases policy : config.placementPolicy ≠ 0 ∧ config.placementPolicy ≠ 1 ∧
      config.placementPolicy ≠ 2
  · simp [validate, policy] at valid
  by_cases positive : config.hostCount = 0
  · simp [validate, policy, positive] at valid
  by_cases known : config.localHostId ≥ config.hostCount
  · simp [validate, policy, positive, known] at valid
  by_cases table : config.hostCount.toNat > kMaxHosts
  · simp [validate, policy, positive, known, table] at valid
  exact ⟨UInt16.lt_iff_toNat_lt.mp (UInt16.not_le.mp known), Nat.not_lt.mp table⟩

end CxloomConfig

/-- What an accepted configuration settles. -/
structure Setup where
  localHostId : Nat
  hostCount : Nat
  regionBytes : Nat
  /-- Slots of a queue. -/
  capacityEntries : Nat
  /-- Whether the process formats the region. -/
  bootstrapOwner : Bool
  localHostId_lt : localHostId < hostCount
  /-- The host table has room for every host. -/
  hostCount_le : hostCount ≤ kMaxHosts
  regionBytes_gt : defaultDataOffset < regionBytes
  /-- The region has a sixty-four bit size. -/
  regionBytes_lt : regionBytes < wordLimit

namespace Setup

variable (setup : Setup)

def layout : SharedRegionLayout := buildDefaultLayout setup.regionBytes

/-- The part of the layout that the allocator uses. -/
def allocatorLayout : AllocatorLayout where
  coherenceOffset := setup.layout.coherence.offset
  coherenceBytes := setup.layout.coherence.bytes
  sharedDataOffset := setup.layout.sharedData.offset
  sharedDataBytes := setup.layout.sharedData.bytes
  regionBytes := setup.regionBytes
  slotCapacity := 2048
  extentNodeCapacity := 4096
  coherence_le := Nat.le_add_right (headerBytes + headerBytes + tableBytes) tableBytes
  data_le := by
    have behind := setup.regionBytes_gt
    show defaultDataOffset + (if setup.regionBytes > defaultDataOffset then
      setup.regionBytes - defaultDataOffset else 0) ≤ setup.regionBytes
    rw [if_pos behind, Nat.add_sub_cancel' behind.le]
  region_lt := setup.regionBytes_lt
  two_lt := by decide

end Setup

/-! ## The header of the region -/

/-- Magic number of the bootstrap header. -/
def kBootstrapMagic : Nat := 0x43584c4f4f4d424d

def kBootstrapLayoutVersion : Nat := 13

/-- `sizeof(BootstrapHeader)`. -/
def sizeofBootstrapHeader : Nat := 4288

/-- Progress of the owner. -/
inductive BootstrapState
  | uninitialized
  | initializing
  | ready
  | failed
deriving DecidableEq, Repr

/-- Progress of a host. -/
inductive HostRegistrationState
  | empty
  | joined
  | probeReady
  | objectReady
deriving DecidableEq, Repr

/-- Stored value of the progress of a host. -/
def HostRegistrationState.code : HostRegistrationState → Nat
  | .empty => 0
  | .joined => 1
  | .probeReady => 2
  | .objectReady => 3

/-- What a host tells about itself. -/
structure HostRegistration where
  /-- Progress. -/
  state : HostRegistrationState
  probeValue : Nat
  /-- First byte of the published object. -/
  objectOffset : Nat
  objectBytes : Nat
  /-- Last sequence number that the host has published. -/
  publishedSequence : Nat
  /-- Last sequence number that the host has observed. -/
  observedSequence : Nat
  /-- Errors that the host has counted. -/
  visibilityErrors : Nat
deriving DecidableEq, Repr

/-- The header at the start of the region. -/
structure BootstrapHeader where
  magic : Nat
  layoutVersion : Nat
  headerBytes : Nat
  /-- Progress of the owner. -/
  state : BootstrapState
  regionBytes : Nat
  hostCount : Nat
  layout : SharedRegionLayout
  /-- Number of hosts that have registered. -/
  joinedHosts : Nat
  hosts : Nat → HostRegistration

/-- The header that the owner constructs over cleared bytes. -/
def BootstrapHeader.constructed : BootstrapHeader where
  magic := 0
  layoutVersion := 0
  headerBytes := 0
  state := .uninitialized
  regionBytes := 0
  hostCount := 0
  layout := ⟨⟨.bootstrap, 0, 0⟩, ⟨.bootstrap, 0, 0⟩, ⟨.bootstrap, 0, 0⟩, ⟨.bootstrap, 0, 0⟩,
    ⟨.bootstrap, 0, 0⟩⟩
  joinedHosts := 0
  hosts _ := ⟨.empty, 0, 0, 0, 0, 0, 0⟩

/-- Magic number of the allocator header. -/
def kAllocatorMagic : Nat := 0x43584c4f4f4d414c

def kAllocatorLayoutVersion : Nat := 13

/-- `sizeof(AllocatorHeader)`. -/
def sizeofAllocatorHeader : Nat := 230080

/-- `kMaxSharedExtentNodes`. -/
def kMaxSharedExtentNodes : Nat := 4096

/-- Progress of the allocator header. -/
inductive AllocatorState
  | uninitialized
  | initializing
  | ready
  | failed
deriving DecidableEq, Repr

/-- The fields of the allocator header that stay as they were formatted. -/
structure AllocatorHeader where
  magic : Nat
  layoutVersion : Nat
  headerBytes : Nat
  /-- Progress. -/
  state : AllocatorState
  /-- First byte of the data region. -/
  sharedDataOffset : Nat
  sharedDataBytes : Nat
deriving DecidableEq, Repr

def kCoherenceRegionMagic : Nat := 0x43584c4f4f4d4348

def kCoherenceRegionLayoutVersion : Nat := 3

/-- Header of the coherence region. -/
structure CoherenceRegionHeader where
  magic : Nat
  layoutVersion : Nat
  headerBytes : Nat
  /-- First byte of the region. -/
  regionOffset : Nat
  regionBytes : Nat
deriving DecidableEq, Repr

/-- The shared region. -/
structure SharedRegion where
  header : BootstrapHeader
  allocatorHeader : AllocatorHeader
  /-- The allocator with the bytes of the data region. -/
  allocator : Allocator
  coherenceHeader : CoherenceRegionHeader
  /-- Bytes of the queue region. -/
  queues : Memory

/-! ## The owner -/

namespace SharedRegion

variable (setup : Setup) (region : SharedRegion)

def clearHeader : SharedRegion := { region with header := .constructed }

/-- Announce the initialization and describe the region. -/
def describe : SharedRegion :=
  { region with
    header :=
      { region.header with
        state := .initializing
        magic := kBootstrapMagic
        layoutVersion := kBootstrapLayoutVersion
        headerBytes := sizeofBootstrapHeader
        regionBytes := setup.regionBytes
        hostCount := setup.hostCount
        layout := setup.layout } }

def formatAllocator : Status × SharedRegion :=
  if setup.layout.allocator.bytes < sizeofAllocatorHeader then
    (.invalidArgument "allocator region is too small for its shared header", region)
  else
    match Allocator.formatSharedAllocator setup.allocatorLayout region.allocator.memory with
    | .error status => (status, region)
    | .ok allocator =>
        (.ok,
          { region with
            allocatorHeader := ⟨kAllocatorMagic, kAllocatorLayoutVersion, sizeofAllocatorHeader,
              .ready, setup.layout.sharedData.offset, setup.layout.sharedData.bytes⟩
            allocator := allocator })

/-- `FormatCoherenceRegion`. -/
def formatCoherenceRegion : Status × SharedRegion :=
  if setup.layout.coherence.bytes <
      sizeofCoherenceRegionHeader + sizeofCoherenceBlockDescriptor then
    (.invalidArgument "coherence region is too small for block metadata", region)
  else
    (.ok,
      { region with
        coherenceHeader := ⟨kCoherenceRegionMagic, kCoherenceRegionLayoutVersion,
          sizeofCoherenceRegionHeader, setup.layout.coherence.offset,
          setup.layout.coherence.bytes⟩ })

def formatQueues : Status × SharedRegion :=
  let formatted := QueueRegion.formatSharedQueueRegion (some region.queues)
    setup.layout.queues.bytes setup.hostCount setup.capacityEntries
  (formatted.1, { region with queues := formatted.2.getD region.queues })

/-- Store the progress of the owner. -/
def setState (state : BootstrapState) : SharedRegion :=
  { region with header := { region.header with state := state } }

/-! ## Everybody -/

/-- `ValidateBootstrap`. -/
def validateBootstrap : Status :=
  if region.header.magic ≠ kBootstrapMagic ∨
      region.header.layoutVersion ≠ kBootstrapLayoutVersion ∨
      region.header.headerBytes ≠ sizeofBootstrapHeader then
    .failedPrecondition "shared region has an incompatible LoomMem bootstrap header"
  else if region.header.regionBytes ≠ setup.regionBytes ∨
      region.header.hostCount ≠ setup.hostCount then
    .failedPrecondition "shared region bootstrap does not match this runtime configuration"
  else if region.header.layout ≠ setup.layout then
    .failedPrecondition "shared region layout differs from this LoomMem build configuration"
  else .ok

/-- Validate the queues; the atomics of the platforms are lock free. -/
def validateQueues : Status :=
  QueueRegion.validateSharedQueueRegion true (some region.queues) setup.layout.queues.bytes
    setup.hostCount setup.capacityEntries

/-- The head of a free list is not the index of a node. -/
def headMissing (pool : ExtentPool) : Bool :=
  match region.allocator.extents.freeHead pool with
  | none => true
  | some index => decide (kMaxSharedExtentNodes ≤ index)

/-- `SharedExtentAllocator::Initialize`. -/
def initializeAllocator : Status :=
  if region.allocatorHeader.magic ≠ kAllocatorMagic ∨
      region.allocatorHeader.layoutVersion ≠ kAllocatorLayoutVersion ∨
      region.allocatorHeader.headerBytes ≠ sizeofAllocatorHeader then
    .failedPrecondition "shared allocator header is incompatible"
  else if region.allocatorHeader.state ≠ .ready then
    .failedPrecondition "shared allocator is not ready"
  else if region.allocatorHeader.sharedDataOffset ≠ setup.layout.sharedData.offset ∨
      region.allocatorHeader.sharedDataBytes ≠ setup.layout.sharedData.bytes ∨
      setup.layout.sharedData.offset > setup.regionBytes ∨
      setup.layout.sharedData.bytes > setup.regionBytes - setup.layout.sharedData.offset then
    .failedPrecondition "shared allocator layout does not match runtime configuration"
  else if region.coherenceHeader.magic ≠ kCoherenceRegionMagic ∨
      region.coherenceHeader.layoutVersion ≠ kCoherenceRegionLayoutVersion ∨
      region.coherenceHeader.headerBytes ≠ sizeofCoherenceRegionHeader ∨
      region.coherenceHeader.regionOffset > setup.regionBytes ∨
      region.coherenceHeader.regionBytes >
        setup.regionBytes - region.coherenceHeader.regionOffset then
    .failedPrecondition "coherence metadata region is incompatible"
  else if region.allocator.extents.extentNodeCapacity ≠ kMaxSharedExtentNodes ∨
      region.headMissing .data = true ∨ region.headMissing .coherence = true then
    .failedPrecondition "shared extent metadata is incompatible"
  else .ok

def setHost (host : Nat) (registration : HostRegistration) : SharedRegion :=
  { region with
    header :=
      { region.header with hosts := Function.update region.header.hosts host registration } }

/-- The exchange of `RegisterLocalHost`. -/
def registerLocalHost : Status × SharedRegion :=
  if (region.header.hosts setup.localHostId).state = .empty then
    (.ok, region.setHost setup.localHostId
      { region.header.hosts setup.localHostId with state := .joined })
  else
    (.alreadyExists "local host id is already registered in this bootstrap session", region)

def countHost : SharedRegion :=
  { region with
    header := { region.header with joinedHosts := (region.header.joinedHosts + 1) % 2 ^ 32 } }

def locateQueues : Except Status (List (List (Option QueueRegion.SharedQueueStorage))) :=
  (List.range setup.hostCount).mapM fun producer =>
    (List.range setup.hostCount).mapM fun consumer =>
      if producer = consumer then .ok none
      else
        (QueueRegion.locateSharedQueue (some region.queues) setup.layout.queues.bytes producer
          consumer).map some

end SharedRegion

/-! ## Processes -/

/-- Check the configuration and choose the layout and the capacity of the queues. -/
def CxloomConfig.setup (config : CxloomConfig) : Except Status Setup :=
  if valid : config.validate.isOk = true then
    if large : defaultDataOffset < config.sharedRegionBytes.toNat then
      let capacity :=
        if config.queueCapacityEntries = 0 then
          QueueRegion.automaticQueueCapacity config.hostCount.toNat
            (buildDefaultLayout config.sharedRegionBytes.toNat).queues.bytes
        else .ok config.queueCapacityEntries.toNat
      capacity.map fun capacityEntries =>
        { localHostId := config.localHostId.toNat
          hostCount := config.hostCount.toNat
          regionBytes := config.sharedRegionBytes.toNat
          capacityEntries
          bootstrapOwner := config.bootstrapOwner
          localHostId_lt := (hosts_of_validate valid).1
          hostCount_le := (hosts_of_validate valid).2
          regionBytes_gt := large
          regionBytes_lt := config.sharedRegionBytes.toNat_lt }
    else
      .error (.invalidArgument "shared_region_bytes is too small for the LoomMem layout")
  else .error config.validate

/-- The next thing that a call of `Initialize` does. -/
inductive InitializeStage
  | clearHeader
  /-- The owner describes the region. -/
  | describe
  | formatAllocator
  | formatCoherence
  | formatQueues
  /-- The owner publishes the header. -/
  | publish
  /-- The owner gives up. -/
  | giveUp (status : Status)
  /-- Look whether the header is published. -/
  | poll
  /-- `ValidateBootstrap`. -/
  | validateBootstrap
  /-- `ValidateSharedQueueRegion`. -/
  | validateQueues
  /-- `SharedExtentAllocator::Initialize`. -/
  | initializeAllocator
  | register
  | count
  | locate
deriving DecidableEq

/-- Where a process stands. -/
inductive BootstrapPoint
  /-- It has not called `Initialize`. -/
  | idle
  /-- It is inside of the call. -/
  | running (setup : Setup) (stage : InitializeStage)
  /-- The call has succeeded. -/
  | initialized (setup : Setup) (queues : List (List (Option QueueRegion.SharedQueueStorage)))
  | failed (status : Status)

/-- The processes over the shared region. -/
structure BootstrapSession (Process : Type) extends SharedRegion where
  /-- Where the processes stand. -/
  points : Process → BootstrapPoint
  /-- Hosts that the current pass of `WaitForAllHosts` of a process has found ready; the call
  returns with all of them. -/
  awaited : Process → Nat

/-- What happens in a session. -/
inductive BootstrapLabel (Process : Type)
  /-- A process calls `Initialize`; mapping the region may fail. -/
  | start (process : Process) (mapping : Status)
  | step (process : Process)
  /-- A process has waited too long for the owner. -/
  | timeOut (process : Process)
  | allocate (process : Process) (label : Allocator.Label)
  /-- An initialized process stores a byte of a cursor or of a slot of a queue. -/
  | transfer (process : Process) (producer consumer : Nat) (cell : Nat) (byte : UInt8)
  /-- An initialized process calls `PublishBootstrapProbe`. -/
  | publishProbe (process : Process) (value : Nat)
  /-- An initialized process looks at the next host in `WaitForAllHosts`. -/
  | await (process : Process)

namespace BootstrapSession

variable {Process : Type} [DecidableEq Process] (config : Process → CxloomConfig)
  (session : BootstrapSession Process)

/-- Move a process. -/
def goto (process : Process) (point : BootstrapPoint) : BootstrapSession Process :=
  { session with points := Function.update session.points process point }

/-- Replace the region. -/
def setRegion (region : SharedRegion) : BootstrapSession Process :=
  { session with toSharedRegion := region }

/-- Go on after a success, and somewhere else with another status. -/
def proceed (process : Process) (result : Status × SharedRegion) (next : BootstrapPoint)
    (refused : Status → BootstrapPoint) : BootstrapSession Process :=
  (session.setRegion result.2).goto process
    (if result.1.isOk then next else refused result.1)

/-- The step of a process inside of `Initialize`. -/
def advance (process : Process) (setup : Setup) : InitializeStage → BootstrapSession Process
  | .clearHeader =>
      session.proceed process (.ok, session.toSharedRegion.clearHeader)
        (.running setup .describe) .failed
  | .describe =>
      session.proceed process (.ok, session.toSharedRegion.describe setup)
        (.running setup .formatAllocator) .failed
  | .formatAllocator =>
      session.proceed process (session.toSharedRegion.formatAllocator setup)
        (.running setup .formatCoherence) fun status => .running setup (.giveUp status)
  | .formatCoherence =>
      session.proceed process (session.toSharedRegion.formatCoherenceRegion setup)
        (.running setup .formatQueues) fun status => .running setup (.giveUp status)
  | .formatQueues =>
      session.proceed process (session.toSharedRegion.formatQueues setup)
        (.running setup .publish) fun status => .running setup (.giveUp status)
  | .publish =>
      session.proceed process (.ok, session.toSharedRegion.setState .ready)
        (.running setup .validateQueues) .failed
  | .giveUp status =>
      session.proceed process (status, session.toSharedRegion.setState .failed)
        (.failed status) .failed
  | .poll =>
      match session.header.state with
      | .ready => session.goto process (.running setup .validateBootstrap)
      | .failed =>
          session.goto process (.failed
            (.unavailable "shared bootstrap initialization failed on its owner host"))
      | _ => session
  | .validateBootstrap =>
      session.proceed process (session.toSharedRegion.validateBootstrap setup,
        session.toSharedRegion) (.running setup .validateQueues) .failed
  | .validateQueues =>
      session.proceed process (session.toSharedRegion.validateQueues setup,
        session.toSharedRegion) (.running setup .initializeAllocator) .failed
  | .initializeAllocator =>
      session.proceed process (session.toSharedRegion.initializeAllocator setup,
        session.toSharedRegion) (.running setup .register) .failed
  | .register =>
      session.proceed process (session.toSharedRegion.registerLocalHost setup)
        (.running setup .count) .failed
  | .count =>
      session.proceed process (.ok, session.toSharedRegion.countHost) (.running setup .locate)
        .failed
  | .locate =>
      session.goto process
        (match session.toSharedRegion.locateQueues setup with
        | .ok queues => .initialized setup queues
        | .error status => .failed status)

/-- The bytes of a queue behind its identity, where `Push` and `TryPop` store. -/
def Transferable (setup : Setup) (storage : QueueRegion.SharedQueueStorage) (cell : Nat) : Prop :=
  storage.header + 64 ≤ cell ∧
    cell < storage.slots + setup.capacityEntries * QueueRegion.sizeofSharedSpscQueueSlot

instance (setup : Setup) (storage : QueueRegion.SharedQueueStorage) (cell : Nat) :
    Decidable (Transferable setup storage cell) :=
  inferInstanceAs (Decidable (_ ∧ _))

/-- The queue that a process has located for a pair of hosts. -/
def queueOf (queues : List (List (Option QueueRegion.SharedQueueStorage)))
    (producer consumer : Nat) : Option QueueRegion.SharedQueueStorage :=
  (queues[producer]?.bind fun row => row[consumer]?).join

/-- Perform one step. -/
def next : BootstrapLabel Process → Option (BootstrapSession Process)
  | .start process mapping =>
      match session.points process with
      | .idle =>
          some (session.goto process
            (match (config process).setup with
            | .error status => .failed status
            | .ok setup =>
                if mapping.isOk then
                  .running setup (if setup.bootstrapOwner then .clearHeader else .poll)
                else .failed mapping))
      | _ => none
  | .step process =>
      match session.points process with
      | .running setup stage => some (session.advance process setup stage)
      | _ => none
  | .timeOut process =>
      match session.points process with
      | .running _ .poll =>
          some (session.goto process
            (.failed (.unavailable "timed out waiting for shared bootstrap readiness")))
      | _ => none
  | .allocate process label =>
      match session.points process with
      | .initialized setup _ =>
          (session.allocator.next setup.allocatorLayout label).map fun allocator =>
            { session with allocator := allocator }
      | _ => none
  | .transfer process producer consumer cell byte =>
      match session.points process with
      | .initialized setup queues =>
          match queueOf queues producer consumer with
          | some storage =>
              if Transferable setup storage cell then
                some { session with queues := Function.update session.queues cell byte }
              else none
          | none => none
      | _ => none
  | .publishProbe process value =>
      match session.points process with
      | .initialized setup _ =>
          some (session.setRegion
            (session.toSharedRegion.setHost setup.localHostId
              { session.header.hosts setup.localHostId with
                state := .probeReady
                probeValue := value }))
      | _ => none
  | .await process =>
      match session.points process with
      | .initialized setup _ =>
          let host := session.awaited process
          if host < setup.hostCount then
            let ready :=
              HostRegistrationState.probeReady.code ≤ (session.header.hosts host).state.code
            some { session with
              awaited := Function.update session.awaited process (if ready then host + 1 else 0) }
          else none
      | _ => none

/-- Nobody has called `Initialize`. -/
def initial (region : SharedRegion) : BootstrapSession Process :=
  { region with points := fun _ => .idle, awaited := fun _ => 0 }

/-- `joined_host_count` of a process that has mapped the region. -/
def joinedHostCount : Nat := session.header.joinedHosts

/-- `ReadBootstrapProbe` of an initialized process. -/
def readBootstrapProbe (setup : Setup) (host : Nat) : Except Status Nat :=
  if setup.hostCount ≤ host then .error (.invalidArgument "probe host is out of range")
  else if (session.header.hosts host).state.code < HostRegistrationState.probeReady.code then
    .error (.unavailable "host probe is not ready")
  else .ok (session.header.hosts host).probeValue

end BootstrapSession
end Cxloom.LoomMem
