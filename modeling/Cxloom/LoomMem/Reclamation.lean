import Cxloom.LoomMem.ReplicaSharing
import Cxloom.LoomMem.RetirementTrace
import Cxloom.LoomMem.TokenConfined

/-!
# Reclamation of an object

The token services, the queues, the replica caches, the pollers and the retirement control of all
hosts together, over one descriptor for each object.  Every operation that holds a lock is a
transition of its own: the poller of a host pops a packet, handles it, and goes through
`ProgressRetirement` in steps, and everything else happens between them.  A poller whose handler
fails stops; that is a run in which it takes no further step.
-/

namespace Cxloom.LoomMem

variable {cluster : Cluster}

/-- The place of a host in tables that have room for every host. -/
def hostId (host : cluster.Host) : HostId := host.castLE cluster.hostCount_le

theorem hostId_injective : Function.Injective (hostId : cluster.Host → HostId) := by
  intro first second same
  have value := congrArg Fin.val same
  exact Fin.ext value

/-- Limits of the replica cache of a host. -/
structure CacheLimits where
  capacityEntries : Nat
  capacityBytes : Nat
  /-- There is room for an entry. -/
  entries_pos : 1 ≤ capacityEntries
  /-- There is room for a byte. -/
  bytes_pos : 1 ≤ capacityBytes

def CacheLimits.config (limits : CacheLimits) (host : cluster.Host) : ReplicaCache.Config where
  localHost := hostId host
  capacityEntries := limits.capacityEntries
  capacityBytes := limits.capacityBytes
  entries_pos := limits.entries_pos
  bytes_pos := limits.bytes_pos

/-- Where the poller of a host is. -/
inductive PollerPoint (cluster : Cluster)
  /-- In `ScanOnce`, between two packets. -/
  | scanning
  /-- A packet was popped, and its handler has not returned. -/
  | handling (packet : Packet cluster)
  /-- In `ProgressRetirement`, behind `ProgressOutbound`. -/
  | flushed
  /-- `Retirement` returned an active transaction. -/
  | observed (transaction : RetirementSnapshot)
  /-- The host still has to acknowledge the phase. -/
  | owing (transaction : RetirementSnapshot)
  /-- The cursors of the queues below a host are read. -/
  | sampling (transaction : RetirementSnapshot) (cursors : HostId → Nat) (next : Nat)
  /-- `ForgetAllocation` has returned. -/
  | forgotten (transaction : RetirementSnapshot)
  /-- About to call `AcknowledgeRetirement`. -/
  | acknowledging (transaction : RetirementSnapshot) (cursors : HostId → Nat)

/-- The state of all hosts. -/
structure Reclamation (cluster : Cluster) where
  /-- Token services, descriptors, sidecars, queues, and what callers hold. -/
  tokens : TokenConfig cluster
  retirement : RetirementControl
  /-- Shapes of the published objects. -/
  info : GlobalPointer → AllocationInfo
  /-- Replica caches; the shared part of each is read from the descriptors. -/
  cache : cluster.Host → ReplicaCache
  poller : cluster.Host → PollerPoint cluster
  accepted : List Acknowledgement

namespace Reclamation

/-! ## Access -/

def state (config : Reclamation cluster) : TokenState cluster := config.tokens.state

def descriptor (config : Reclamation cluster) (object : GlobalPointer) :
    AllocationDescriptor cluster :=
  config.state.descriptor object

/-- Replace the state of the token services. -/
def withState (config : Reclamation cluster) (state : TokenState cluster) : Reclamation cluster :=
  { config with tokens := config.tokens.withState state }

/-- Change a descriptor. -/
def setDescriptor (config : Reclamation cluster) (object : GlobalPointer)
    (descriptor : AllocationDescriptor cluster) : Reclamation cluster :=
  config.withState
    { config.state with
      descriptor := Function.update config.state.descriptor object descriptor }

def setPoller (config : Reclamation cluster) (host : cluster.Host) (point : PollerPoint cluster) :
    Reclamation cluster :=
  { config with poller := Function.update config.poller host point }

/-! ## References -/

/-- `AcquireReference`. -/
def acquireReference (config : Reclamation cluster) (host : cluster.Host) (object : GlobalPointer)
    (allowRetiring : Bool) : Status × Reclamation cluster :=
  let found := config.state.referenceStatus object host allowRetiring
  let descriptor := config.descriptor object
  if found.isOk then
    (.ok,
      config.setDescriptor object
        { descriptor with
          activeOperations := Function.update descriptor.activeOperations host
            (descriptor.activeOperations host + 1) })
  else
    (found, config)

/-- `ReleaseReference`. -/
def releaseReference (config : Reclamation cluster) (host : cluster.Host)
    (object : GlobalPointer) : Status × Reclamation cluster :=
  let descriptor := config.descriptor object
  if descriptor.activeOperations host = 0 then
    (.failedPrecondition "object reference count underflow", config)
  else
    (.ok,
      config.setDescriptor object
        { descriptor with
          activeOperations := Function.update descriptor.activeOperations host
            (descriptor.activeOperations host - 1) })

/-! ## Replica caches -/

/-- The published objects as the replica caches see them. -/
def sharedObjects (config : Reclamation cluster) (offset : Nat) :
    Option ReplicaCache.SharedObject :=
  if (config.descriptor ⟨0, offset⟩).state = .empty then none
  else some ⟨config.info ⟨0, offset⟩, (config.descriptor ⟨0, offset⟩).replicaHosts⟩

/-- The cache of a host with the shared state that it uses. -/
def view (config : Reclamation cluster) (host : cluster.Host) : ReplicaCache :=
  { config.cache host with objects := config.sharedObjects }

/-- Store the cache of a host and its changes to the shared state. -/
def store (config : Reclamation cluster) (host : cluster.Host) (cache : ReplicaCache) :
    Reclamation cluster :=
  { config with
    cache := Function.update config.cache host cache
    tokens := config.tokens.withState
      { config.state with
        descriptor := fun object =>
          match cache.objects object.offset with
          | none => config.descriptor object
          | some shared =>
              if object.regionId = 0 then
                { config.descriptor object with replicaHosts := shared.replicaHosts }
              else config.descriptor object } }

/-- Whether a host may start a transition of its cache: it fills a block of an object only while it
holds a reference to the object. -/
def Fills (config : Reclamation cluster) (host : cluster.Host) : ReplicaCache.Label → Prop
  | .install offset _ _ _ _ => 0 < (config.descriptor ⟨0, offset⟩).activeOperations host
  | .touch .. | .invalidateObject .. | .invalidateBlock .. | .synchronizeAcquire | .rehash .. =>
      True
  | .allocate .. | .free .. | .hold .. => False

instance (config : Reclamation cluster) (host : cluster.Host) :
    (label : ReplicaCache.Label) → Decidable (config.Fills host label)
  | .install .. => inferInstanceAs (Decidable (0 < _))
  | .touch .. | .invalidateObject .. | .invalidateBlock .. | .synchronizeAcquire | .rehash .. =>
      .isTrue trivial
  | .allocate .. | .free .. | .hold .. => .isFalse id

variable (limits : cluster.Host → CacheLimits)

def runCache (config : Reclamation cluster) (host : cluster.Host) (label : ReplicaCache.Label) :
    Option (Reclamation cluster) :=
  if config.Fills host label then
    (ReplicaCache.next ((limits host).config host) (config.view host) label).map (config.store host)
  else none

/-! ## Allocation -/

/-- The descriptor that `Allocate` constructs. -/
def newDescriptor (host : cluster.Host) (info : AllocationInfo) : AllocationDescriptor cluster where
  state := .allocated
  ownerHost := host
  coherenceBlockCount := info.coherenceBlockCount
  sealedHosts := 0#64
  activeOperations := fun _ => 0
  replicaHosts := 0#64

/-- The sidecar of a block that `Allocate` constructs. -/
def newBlock (host : cluster.Host) : CoherenceBlockDescriptor cluster where
  tokenOwner := host
  version := 0
  tokenEpoch := 1
  writebackEpoch := 0
  lastWriter := none

/-- `Allocate`, for an object that the allocator has room for. -/
def allocate (config : Reclamation cluster) (host : cluster.Host) (info : AllocationInfo) :
    Option (Reclamation cluster) :=
  if info.gptr.regionId = 0 ∧ info.gptr.offset ≠ 0 ∧ info.ownerHost = host.val ∧
      (config.descriptor info.gptr).state = .empty then
    some
      { config with
        tokens := config.tokens.withState
          { config.state with
            descriptor := Function.update config.state.descriptor info.gptr
              (newDescriptor host info)
            block := fun key =>
              if key.object = info.gptr ∧ key.blockIndex < info.coherenceBlockCount then
                newBlock host
              else config.state.block key }
        info := Function.update config.info info.gptr info
        cache := fun other =>
          (ReplicaCache.next ((limits other).config other) (config.view other)
            (.allocate info)).getD (config.view other) }
  else none

/-! ## Retirement -/

/-- `FindDescriptorLocked`, which reads the lifecycle below a pointer. -/
def findDescriptor (config : Reclamation cluster) (object : GlobalPointer)
    (allowRetiring : Bool) : Status :=
  let found := (config.descriptor object).state
  if object.regionId ≠ 0 ∨ object.offset = 0 then
    .invalidArgument "global pointer is not an aligned allocation base"
  else if found ≠ .allocated ∧ ¬(allowRetiring ∧ found = .retiring) then
    .notFound "global pointer is not an accessible allocation base"
  else
    .ok

/-- `BeginRetire`. -/
def beginRetire (config : Reclamation cluster) (host : cluster.Host) (object : GlobalPointer)
    (hostCount : Nat) : Except Status RetirementSnapshot × Reclamation cluster :=
  let current := config.retirement.current
  let found := config.findDescriptor object false
  let descriptor := config.descriptor object
  if hostCount = 0 ∨ kMaxHosts < hostCount then
    (.error (.invalidArgument "invalid retirement participants"), config)
  else if current.phase ≠ .idle then
    if current.object = object ∧ current.coordinator = hostId host then (.ok current, config)
    else (.error (.unavailable "another retirement is in progress"), config)
  else if ¬found.isOk then
    (.error found, config)
  else if descriptor.ownerHost ≠ host then
    (.error (.failedPrecondition "only the allocation owner may retire it"), config)
  else if current.sequence = kUint64Max then
    (.error (.unavailable "retirement sequence exhausted"), config)
  else
    let started : RetirementSnapshot :=
      ⟨.closing, object, current.sequence + 1, hostId host, hostCount⟩
    (.ok started,
      { config.setDescriptor object { descriptor with state := .retiring } with
        retirement :=
          { config.retirement with
            current := started
            closed := 0#64
            drained := 0#64
            cleaned := 0#64 } })

/-- The acknowledgements of a phase. -/
def mask (control : RetirementControl) : RetirementPhase → HostMask
  | .closing => control.closed
  | .draining => control.drained
  | .cleaning | .reclaimable | .idle => control.cleaned

/-- `RetirementAcknowledged`. -/
def retirementAcknowledged (config : Reclamation cluster) (snapshot : RetirementSnapshot)
    (host : cluster.Host) : Bool :=
  config.retirement.current.sequence ≠ snapshot.sequence ∨
    config.retirement.current.phase ≠ snapshot.phase ∨
    (mask config.retirement snapshot.phase).contains host

/-- Accept an acknowledgement, and change the control. -/
def accept (config : Reclamation cluster) (host : cluster.Host) (cursors : HostId → Nat)
    (control : RetirementControl) : Reclamation cluster :=
  { config with
    retirement := control
    accepted :=
      ⟨config.retirement.current.sequence, config.retirement.current.phase, hostId host, cursors⟩ ::
        config.accepted }

/-- `AcknowledgeRetirement`. -/
def acknowledgeRetirement (config : Reclamation cluster) (snapshot : RetirementSnapshot)
    (host : cluster.Host) (cursors : HostId → Nat) : Status × Reclamation cluster :=
  let control := config.retirement
  let found := config.findDescriptor snapshot.object true
  let descriptor := config.descriptor snapshot.object
  if control.current.sequence ≠ snapshot.sequence ∨ control.current.phase ≠ snapshot.phase ∨
      snapshot.hostCount ≤ host.val then
    (.failedPrecondition "retirement phase changed", config)
  else
    match snapshot.phase with
    | .closing =>
        if ¬found.isOk then (found, config)
        else if descriptor.activeOperations host ≠ 0 then
          (.unavailable "host still has active CXL operations", config)
        else
          (.ok,
            (config.setDescriptor snapshot.object
                { descriptor with
                  sealedHosts := descriptor.sealedHosts ||| HostMask.bit host }).accept host cursors
              { control with
                watermarks := Function.update control.watermarks (hostId host) cursors
                closed := control.closed ||| HostMask.bit host
                current := Allocator.advance control (control.closed ||| HostMask.bit host)
                  snapshot.hostCount .draining })
    | .draining =>
        if ∃ producer : HostId, producer.val < snapshot.hostCount ∧ producer ≠ hostId host ∧
            cursors producer < control.watermarks producer (hostId host) then
          (.unavailable "inbound callbacks have not reached the retirement watermark", config)
        else
          (.ok,
            config.accept host cursors
              { control with
                drained := control.drained ||| HostMask.bit host
                current := Allocator.advance control (control.drained ||| HostMask.bit host)
                  snapshot.hostCount .cleaning })
    | .cleaning =>
        (.ok,
          config.accept host cursors
            { control with
              cleaned := control.cleaned ||| HostMask.bit host
              current := Allocator.advance control (control.cleaned ||| HostMask.bit host)
                snapshot.hostCount .reclaimable })
    | .idle | .reclaimable => (.ok, config.accept host cursors control)

/-- `Free`.  A lookup may pin the slot of the object, and the extent pools may refuse its extents.
-/
def free (config : Reclamation cluster) (host : cluster.Host) (object : GlobalPointer)
    (pinned : Bool) (extents : Status) : Status × Reclamation cluster :=
  let current := config.retirement.current
  let found := config.findDescriptor object true
  let descriptor := config.descriptor object
  if current.phase ≠ .reclaimable ∨ current.object ≠ object ∨ current.coordinator ≠ hostId host then
    (.failedPrecondition "storage reclamation requires all-host retirement completion", config)
  else if descriptor.state = .empty then
    (.notFound "allocation slot not found", config)
  else if pinned then
    (.unavailable "descriptor discovery is still active", config)
  else if ¬found.isOk then
    (found, config)
  else if descriptor.replicaHosts ≠ 0#64 then
    (.unavailable "allocation still has replica holders", config)
  else if ∃ active : cluster.Host, descriptor.activeOperations active ≠ 0 then
    (.unavailable "allocation still has active operations", config)
  else if ¬extents.isOk then
    (extents, config)
  else
    (.ok,
      { config.setDescriptor object { descriptor with state := .empty } with
        retirement := { config.retirement with current := { current with phase := .idle } } })

/-! ## Pollers -/

/-- Read the cursor of the queue between two hosts that the phase of a transaction needs. -/
def sample (config : Reclamation cluster) (phase : RetirementPhase) (host other : cluster.Host) :
    Nat :=
  if phase = .closing then (config.state.channel host other).publishedSequence
  else (config.state.channel other host).consumedSequence

/-- A step of `ProgressRetirement`.  `CloseObject` visits the waiters in any order. -/
def poll (config : Reclamation cluster) (host : cluster.Host) (order : List Nat) :
    Option (Reclamation cluster) :=
  match config.poller host with
  | .handling _ => none
  | .scanning =>
      let flushed := config.state.progressOutbound host
      some ((config.withState flushed.2).setPoller host
        (if flushed.1.isOk then .flushed else .scanning))
  | .flushed =>
      let transaction := config.retirement.current
      some (config.setPoller host
        (if transaction.phase = .idle ∨ transaction.phase = .reclaimable then .scanning
        else .observed transaction))
  | .observed transaction =>
      some (config.setPoller host
        (if config.retirementAcknowledged transaction host then .scanning
        else .owing transaction))
  | .owing transaction =>
      match transaction.phase with
      | .closing =>
          if order.isPerm (List.range ((config.state.service host).nextRequestId)) then
            let closed := config.state.closeObject host transaction.object order
            some ((config.withState closed.2).setPoller host
              (if closed.1 then .sampling transaction (fun _ => 0) 0 else .scanning))
          else none
      | .draining => some (config.setPoller host (.sampling transaction (fun _ => 0) 0))
      | .cleaning =>
          if (config.state.mutableDescriptor transaction.object true).isOk then
            some ((config.withState
              (config.state.forgetAllocation host transaction.object)).setPoller host
                (.forgotten transaction))
          else some (config.setPoller host .scanning)
      | .idle | .reclaimable =>
          some (config.setPoller host (.acknowledging transaction fun _ => 0))
  | .sampling transaction cursors next =>
      if inside : next < cluster.hostCount then
        let other : cluster.Host := ⟨next, inside⟩
        some (config.setPoller host
          (.sampling transaction
            (if other = host then cursors
            else Function.update cursors (hostId other)
              (config.sample transaction.phase host other))
            (next + 1)))
      else some (config.setPoller host (.acknowledging transaction cursors))
  | .forgotten transaction =>
      (config.runCache limits host (.invalidateObject transaction.object.offset)).map
        fun cleaned => cleaned.setPoller host (.acknowledging transaction fun _ => 0)
  | .acknowledging transaction cursors =>
      some ((config.acknowledgeRetirement transaction host cursors).2.setPoller host .scanning)

/-! ## Transitions -/

/-- Transitions of the hosts. -/
inductive Label (cluster : Cluster)
  /-- An operation on a token service, other than a delivery. -/
  | token (op : TokenOp cluster)
  /-- `AcquireReference`. -/
  | acquireReference (host : cluster.Host) (object : GlobalPointer) (allowRetiring : Bool)
  /-- `ReleaseReference`. -/
  | releaseReference (host : cluster.Host) (object : GlobalPointer)
  | cache (host : cluster.Host) (label : ReplicaCache.Label)
  /-- `Allocate`. -/
  | allocate (host : cluster.Host) (info : AllocationInfo)
  /-- `RegisterAllocation`. -/
  | registerAllocation (host : cluster.Host) (object : GlobalPointer)
  /-- `BeginRetire` for all hosts. -/
  | beginRetire (host : cluster.Host) (object : GlobalPointer)
  /-- A poller pops a packet. -/
  | pop (source destination : cluster.Host)
  /-- A poller handles the packet that it popped. -/
  | handle (host : cluster.Host)
  /-- A poller takes a step of `ProgressRetirement`. -/
  | poll (host : cluster.Host) (order : List Nat)
  /-- `Free`. -/
  | free (host : cluster.Host) (object : GlobalPointer) (pinned : Bool) (extents : Status)

/-- Pop a packet of another host, between two packets. -/
def pop (config : Reclamation cluster) (source destination : cluster.Host) :
    Option (Reclamation cluster) :=
  match config.poller destination with
  | .scanning =>
      if source ≠ destination then
        (config.state.pop source destination).map fun popped =>
          (config.withState popped.2).setPoller destination (.handling popped.1)
      else none
  | _ => none

def handle (config : Reclamation cluster) (host : cluster.Host) : Option (Reclamation cluster) :=
  match config.poller host with
  | .handling packet =>
      some ((config.withState (config.state.handleMessage host packet).2).setPoller host .scanning)
  | _ => none

/-- Whether an operation pops and handles a packet at once. -/
def delivers : TokenOp cluster → Bool
  | .deliver .. => true
  | _ => false

/-- The state after an enabled transition. -/
def next (config : Reclamation cluster) : Label cluster → Option (Reclamation cluster)
  | .token op =>
      if delivers op then none
      else (config.tokens.next op).map fun tokens => { config with tokens := tokens }
  | .acquireReference host object allowRetiring =>
      some (config.acquireReference host object allowRetiring).2
  | .releaseReference host object => some (config.releaseReference host object).2
  | .cache host label => config.runCache limits host label
  | .allocate host info => config.allocate limits host info
  | .registerAllocation host object =>
      some (config.withState (config.state.registerAllocation host object).2)
  | .beginRetire host object => some (config.beginRetire host object cluster.hostCount).2
  | .pop source destination => config.pop source destination
  | .handle host => config.handle host
  | .poll host order => config.poll limits host order
  | .free host object pinned extents => some (config.free host object pinned extents).2

/-- A new object has a sidecar of its own, as the extent pools guarantee. -/
def Admitted (config : Reclamation cluster) : Label cluster → Prop
  | .allocate _ info => ∀ object, (config.descriptor object).state ≠ .empty →
      ∀ address, ReplicaCache.Sidecar info address →
        ¬ReplicaCache.Sidecar (config.info object) address
  | _ => True

/-- The hosts of a cluster over a region without objects. -/
def initial (cluster : Cluster) : Reclamation cluster where
  tokens := TokenConfig.initial cluster fun _ => none
  retirement := ⟨⟨.idle, ⟨0, 0⟩, 0, ⟨0, kMaxHosts_pos⟩, 0⟩, 0#64, 0#64, 0#64, fun _ _ => 0⟩
  info _ := ⟨⟨0, 0⟩, 0, 0, 0, 0, 0, 0⟩
  cache _ := ReplicaCache.initial
  poller _ := .scanning
  accepted := []

/-- The states of every run. -/
def Reachable (config : Reclamation cluster) : Prop :=
  Run.ReachesBy (next limits) Admitted (initial cluster) config

end Reclamation
end Cxloom.LoomMem
