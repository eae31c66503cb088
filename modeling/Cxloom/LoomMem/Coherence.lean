import Cxloom.Common
import Cxloom.Run
import Mathlib.Logic.Function.Basic

/-!
# Cached reads and block publication

`ReadRange`, the writeback half of the token service and the replica cache of every host, for one
live object.  Every load and store of a block's epoch and version and every single byte copy is one
step, and so is every access to the replica cache under its mutex.  On each host the object mutex
admits one `ReadRange` or one `ReleaseWriteBuffer` at a time, both of which hold the boundary lock
shared, so that `SynchronizeAcquire` runs between them.  A block has at most one writer session,
which is what holding its token means.
-/

namespace Cxloom.LoomMem

/-- Size of an object and of its coherence blocks. -/
structure ObjectGeometry where
  bytes : Nat
  coherenceBlockBytes : Nat
  coherenceBlockBytes_pos : 0 < coherenceBlockBytes

namespace ObjectGeometry

/-- First byte of a block. -/
def blockStart (geometry : ObjectGeometry) (block : Nat) : Nat :=
  block * geometry.coherenceBlockBytes

def blockLength (geometry : ObjectGeometry) (block : Nat) : Nat :=
  min geometry.coherenceBlockBytes (geometry.bytes - geometry.blockStart block)

end ObjectGeometry

/-- The shared words of one block. -/
structure SharedBlock where
  /-- Odd while the block is being written. -/
  writebackEpoch : Nat
  /-- Number of modified releases. -/
  version : Nat
  /-- Bytes of the block. -/
  content : Nat → UInt8

/-- A cached copy of one block. -/
structure CachedReplica where
  /-- Version of the block at which the copy was accepted. -/
  version : Nat
  /-- Copied bytes. -/
  storage : List UInt8
deriving DecidableEq

/-- The next access of a writer session. -/
inductive WriterPoint
  /-- A buffered writer holds the token and modifies its private buffer. -/
  | owned
  /-- `ActivateWriter` loads the epoch. -/
  | activate
  /-- `ActivateWriter` makes the loaded epoch odd. -/
  | compareExchange (epoch : Nat)
  /-- A raw request is granted and its lease not yet in use. -/
  | granted
  /-- Bytes of the block are being stored. -/
  | writing
  /-- `Release` loads the epoch. -/
  | loadEpoch (modified : Bool)
  /-- `Release` increments the version. -/
  | addVersion (epoch : Nat)
  /-- `Release` closes an odd epoch. -/
  | storeEpoch (epoch : Nat) (modified : Bool)
deriving DecidableEq

/-- A writer that holds the token of a block. -/
structure WriterSession (cluster : Cluster) where
  host : cluster.Host
  /-- Write buffer of the session; the raw path has none. -/
  buffer : Option Nat
  point : WriterPoint
deriving DecidableEq

/-- The next access of a running `ReadRange` at one block. -/
inductive ReadPoint
  /-- Find the block in the current index. -/
  | lookup
  | loadEpoch
  | loadVersion (epochBefore : Nat)
  /-- Find the block in the old index. -/
  | lookupOld (epochBefore versionBefore : Nat)
  /-- Copy the next byte. -/
  | copy (epochBefore versionBefore : Nat) (copied : List UInt8)
  /-- Load the epoch again. -/
  | reloadEpoch (epochBefore versionBefore : Nat) (replica : List UInt8) (reused : Bool)
  /-- Load the version again and decide. -/
  | reloadVersion (epochBefore versionBefore : Nat) (replica : List UInt8) (reused : Bool)
      (epochAfter : Nat)
  /-- Enter the accepted copy into the current index. -/
  | cache (acceptedVersion : Nat) (replica : List UInt8)
  /-- Add the block to the result. -/
  | assemble (acceptedVersion : Nat) (replica : List UInt8)
deriving DecidableEq

/-- A running `ReadRange`. -/
structure ReadProcess where
  /-- First byte of the range. -/
  offset : Nat
  /-- Number of bytes of the range. -/
  bytes : Nat
  /-- Block at which the loop stands. -/
  block : Nat
  versions : List Nat
  /-- Bytes of the range inside the blocks before it. -/
  assembled : List UInt8
  /-- Progress at the block. -/
  point : ReadPoint
deriving DecidableEq

/-- A running `ReleaseWriteBuffer`. -/
structure CommitProcess where
  buffer : Nat
  /-- Blocks not finished yet. -/
  remaining : List Nat
  /-- Block that was released and whose replicas are still cached. -/
  erasing : Option Nat
  /-- Blocks that were published, each with the version it produced. -/
  produced : List (Nat × Nat)
deriving DecidableEq

/-- The holder of a host's object mutex. -/
inductive LocalActivity
  | idle
  | reading (process : ReadProcess)
  | committing (process : CommitProcess)
deriving DecidableEq

/-- The result of a successful `ReadRange`. -/
structure ReadSnapshot where
  /-- First byte of the range. -/
  offset : Nat
  firstBlock : Nat
  /-- Version of every block of the range. -/
  versions : List Nat
  /-- Bytes of the range. -/
  storage : List UInt8
deriving DecidableEq

def ReadSnapshot.reported (snapshot : ReadSnapshot) (block : Nat) : Option Nat :=
  if snapshot.firstBlock ≤ block then snapshot.versions[block - snapshot.firstBlock]? else none

/-- A block copy that a reader accepted. -/
structure AcceptedCopy (cluster : Cluster) where
  host : cluster.Host
  block : Nat
  /-- Version the copy was accepted at. -/
  version : Nat
  /-- Accepted bytes. -/
  replica : List UInt8
  /-- Whether the bytes come from an old replica. -/
  reused : Bool

/-- What the callers of one host observe. -/
inductive CoherenceEvent (cluster : Cluster)
  /-- `ReadRange` returned a snapshot. -/
  | readReturned (host : cluster.Host) (snapshot : ReadSnapshot)
  /-- `SynchronizeAcquire` ran while the blocks had the given committed versions. -/
  | acquired (host : cluster.Host) (committed : Nat → Nat)
  /-- `ReleaseWriteBuffer` returned success and produced the given versions. -/
  | released (host : cluster.Host) (produced : List (Nat × Nat))

/-- One live object, its writers, its readers and what has happened. -/
structure CoherenceConfig (cluster : Cluster) where
  blocks : Nat → SharedBlock
  writers : Nat → Option (WriterSession cluster)
  /-- Holder of every host's object mutex. -/
  activity : cluster.Host → LocalActivity
  replicas : cluster.Host → Nat → Option CachedReplica
  oldReplicas : cluster.Host → Nat → Option CachedReplica
  /-- Contents of every block after each modified release, the initial one first. -/
  published : Nat → List (Nat → UInt8)
  accepted : List (AcceptedCopy cluster)
  /-- Observations, oldest first. -/
  events : List (CoherenceEvent cluster)

/-- One scheduled action. -/
inductive CoherenceOp (cluster : Cluster)
  /-- `ReadRange` passes its range check and takes the locks. -/
  | startRead (host : cluster.Host) (offset bytes : Nat)
  /-- The host's reader performs its next access. -/
  | read (host : cluster.Host)
  /-- The host's reader gives up, at its deadline or for want of a reference. -/
  | failRead (host : cluster.Host)
  /-- Replacement drops a block from one of a host's indexes. -/
  | evict (host : cluster.Host) (block : Nat) (fromOld : Bool)
  /-- `InvalidateReadCache`. -/
  | invalidateReadCache (host : cluster.Host)
  /-- `SynchronizeAcquire`. -/
  | synchronizeAcquire (host : cluster.Host)
  /-- A buffered writer obtains the token of a block. -/
  | obtain (host : cluster.Host) (buffer block : Nat)
  /-- A raw request, which activates the epoch, obtains the token of a block. -/
  | obtainRaw (host : cluster.Host) (block : Nat)
  /-- The caller of a raw request receives its lease. -/
  | collect (block : Nat)
  /-- A granted raw request is cancelled or was abandoned. -/
  | abandon (block : Nat)
  /-- `AbortWriteBuffer` releases a block. -/
  | abort (block : Nat)
  /-- `ReleaseWriteBuffer` takes the locks. -/
  | startCommit (host : cluster.Host) (buffer : Nat) (blocks : List Nat)
  /-- `ReleaseWriteBuffer` performs its next action outside the token service. -/
  | commit (host : cluster.Host)
  /-- A writer performs its next access of the epoch or the version. -/
  | write (block : Nat)
  | storeByte (block index : Nat) (value : UInt8)
  /-- A writer that has stored its bytes calls `Release`. -/
  | release (block : Nat)
  /-- The end of `ReleaseWriteToken` drops a block from a host's indexes. -/
  | eraseReleased (host : cluster.Host) (block : Nat)
deriving DecidableEq

namespace CoherenceConfig

variable {cluster : Cluster}

/-- An object with the given contents before any access. -/
def initial (cluster : Cluster) (content : Nat → Nat → UInt8) : CoherenceConfig cluster where
  blocks := fun block => ⟨0, 0, content block⟩
  writers := fun _ => none
  activity := fun _ => .idle
  replicas := fun _ _ => none
  oldReplicas := fun _ _ => none
  published := fun block => [content block]
  accepted := []
  events := []

/-- Change one block. -/
def setBlock (config : CoherenceConfig cluster) (block : Nat) (shared : SharedBlock) :
    CoherenceConfig cluster :=
  { config with blocks := Function.update config.blocks block shared }

def setWriter (config : CoherenceConfig cluster) (block : Nat)
    (session : Option (WriterSession cluster)) : CoherenceConfig cluster :=
  { config with writers := Function.update config.writers block session }

/-- Change the holder of one host's object mutex. -/
def setActivity (config : CoherenceConfig cluster) (host : cluster.Host)
    (activity : LocalActivity) : CoherenceConfig cluster :=
  { config with activity := Function.update config.activity host activity }

def setEntry (index : cluster.Host → Nat → Option CachedReplica) (host : cluster.Host)
    (block : Nat) (entry : Option CachedReplica) :
    cluster.Host → Nat → Option CachedReplica :=
  Function.update index host (Function.update (index host) block entry)

theorem setEntry_self (index : cluster.Host → Nat → Option CachedReplica) (host : cluster.Host)
    (block : Nat) (entry : Option CachedReplica) :
    setEntry index host block entry host block = entry := by
  simp [setEntry]

theorem setEntry_of_ne {index : cluster.Host → Nat → Option CachedReplica}
    {host other : cluster.Host} {block otherBlock : Nat} {entry : Option CachedReplica}
    (different : other ≠ host ∨ otherBlock ≠ block) :
    setEntry index host block entry other otherBlock = index other otherBlock := by
  by_cases sameHost : other = host
  · subst sameHost
    have elsewhere : otherBlock ≠ block := different.resolve_left (by simp)
    simp [setEntry, elsewhere]
  · simp [setEntry, sameHost]

theorem setEntry_some {index : cluster.Host → Nat → Option CachedReplica}
    {host other : cluster.Host} {block otherBlock : Nat} {entry : Option CachedReplica}
    {cached : CachedReplica}
    (present : setEntry index host block entry other otherBlock = some cached) :
    (other = host ∧ otherBlock = block ∧ entry = some cached) ∨
      index other otherBlock = some cached := by
  by_cases same : other = host ∧ otherBlock = block
  · obtain ⟨rfl, rfl⟩ := same
    rw [setEntry_self] at present
    exact .inl ⟨rfl, rfl, present⟩
  · exact .inr ((setEntry_of_ne (not_and_or.mp same)).symm.trans present)

theorem setEntry_none {index : cluster.Host → Nat → Option CachedReplica}
    {host other : cluster.Host} {block otherBlock : Nat} {cached : CachedReplica}
    (present : setEntry index host block none other otherBlock = some cached) :
    index other otherBlock = some cached := by
  rcases setEntry_some present with ⟨-, -, impossible⟩ | earlier
  · simp at impossible
  · exact earlier

theorem update_none_some {index : cluster.Host → Nat → Option CachedReplica}
    {host other : cluster.Host} {block : Nat} {cached : CachedReplica}
    (present : Function.update index host (fun _ => none) other block = some cached) :
    index other block = some cached := by
  by_cases same : other = host
  · subst same
    simp at present
  · rwa [Function.update_of_ne same] at present

/-- Drop a block from both indexes of a host. -/
def eraseReplicas (config : CoherenceConfig cluster) (host : cluster.Host) (block : Nat) :
    CoherenceConfig cluster :=
  { config with
    replicas := setEntry config.replicas host block none
    oldReplicas := setEntry config.oldReplicas host block none }

/-- `CacheReplicaLocked`: the copy replaces the block's entries in both indexes. -/
def cacheReplica (config : CoherenceConfig cluster) (host : cluster.Host) (block : Nat)
    (replica : CachedReplica) : CoherenceConfig cluster :=
  { config with
    replicas := setEntry config.replicas host block (some replica)
    oldReplicas := setEntry config.oldReplicas host block none }

/-- Record an observation. -/
def observe (config : CoherenceConfig cluster) (event : CoherenceEvent cluster) :
    CoherenceConfig cluster :=
  { config with events := config.events ++ [event] }

/-- Move a reader on. -/
def readAt (config : CoherenceConfig cluster) (host : cluster.Host) (process : ReadProcess)
    (point : ReadPoint) : CoherenceConfig cluster :=
  config.setActivity host (.reading { process with point := point })

/-- Add a block to the result, and return it after the last one. -/
def assembleBlock (geometry : ObjectGeometry) (config : CoherenceConfig cluster)
    (host : cluster.Host) (process : ReadProcess) (acceptedVersion : Nat)
    (replica : List UInt8) : CoherenceConfig cluster :=
  let blockStart := geometry.blockStart process.block
  let copyBegin := max process.offset blockStart
  let copyEnd :=
    min (process.offset + process.bytes) (blockStart + geometry.blockLength process.block)
  let versions := process.versions ++ [acceptedVersion]
  let assembled := process.assembled ++
    (replica.drop (copyBegin - blockStart)).take (copyEnd - copyBegin)
  if process.block = (process.offset + process.bytes - 1) / geometry.coherenceBlockBytes then
    (config.setActivity host .idle).observe (.readReturned host
      ⟨process.offset, process.offset / geometry.coherenceBlockBytes, versions, assembled⟩)
  else
    config.setActivity host (.reading
      { process with
        block := process.block + 1
        versions := versions
        assembled := assembled
        point := .lookup })

def readAccess (geometry : ObjectGeometry) (config : CoherenceConfig cluster)
    (host : cluster.Host) (process : ReadProcess) : CoherenceConfig cluster :=
  let shared := config.blocks process.block
  match process.point with
  | .lookup =>
      match config.replicas host process.block with
      | some cached => config.readAt host process (.assemble cached.version cached.storage)
      | none => config.readAt host process .loadEpoch
  | .loadEpoch =>
      if shared.writebackEpoch % 2 = 1 then config
      else config.readAt host process (.loadVersion shared.writebackEpoch)
  | .loadVersion epochBefore =>
      config.readAt host process (.lookupOld epochBefore shared.version)
  | .lookupOld epochBefore versionBefore =>
      match config.oldReplicas host process.block with
      | some old =>
          if old.version = versionBefore then
            config.readAt host process (.reloadEpoch epochBefore versionBefore old.storage true)
          else config.readAt host process (.copy epochBefore versionBefore [])
      | none => config.readAt host process (.copy epochBefore versionBefore [])
  | .copy epochBefore versionBefore copied =>
      if copied.length < geometry.blockLength process.block then
        config.readAt host process
          (.copy epochBefore versionBefore (copied ++ [shared.content copied.length]))
      else config.readAt host process (.reloadEpoch epochBefore versionBefore copied false)
  | .reloadEpoch epochBefore versionBefore replica reused =>
      config.readAt host process
        (.reloadVersion epochBefore versionBefore replica reused shared.writebackEpoch)
  | .reloadVersion epochBefore versionBefore replica reused epochAfter =>
      let versionAfter := shared.version
      if epochBefore ≠ epochAfter ∨ epochAfter % 2 = 1 ∨ versionBefore ≠ versionAfter then
        config.readAt host process .loadEpoch
      else
        { config.readAt host process (.cache versionAfter replica) with
          accepted := config.accepted ++ [⟨host, process.block, versionAfter, replica, reused⟩] }
  | .cache acceptedVersion replica =>
      (config.cacheReplica host process.block ⟨acceptedVersion, replica⟩).readAt host process
        (.assemble acceptedVersion replica)
  | .assemble acceptedVersion replica =>
      assembleBlock geometry config host process acceptedVersion replica

/-- Whether a session may perform its next access.  A buffered session is published by the
`ReleaseWriteBuffer` that has reached its block, and released unmodified by `AbortWriteBuffer`. -/
def mayProceed (config : CoherenceConfig cluster) (block : Nat)
    (session : WriterSession cluster) : Bool :=
  match session.buffer, session.point with
  | none, _ => true
  | some _, .loadEpoch false => true
  | some _, .storeEpoch _ false => true
  | some buffer, _ =>
      match config.activity session.host with
      | .committing process =>
          process.buffer = buffer ∧ process.remaining.head? = some block ∧ process.erasing = none
      | _ => false

/-- Move a writer on. -/
def writeAt (config : CoherenceConfig cluster) (block : Nat) (session : WriterSession cluster)
    (point : WriterPoint) : CoherenceConfig cluster :=
  config.setWriter block (some { session with point := point })

/-- The host's `ReleaseWriteBuffer`, if it is publishing this block, goes on to the replicas. -/
def blockReleased (config : CoherenceConfig cluster) (block : Nat)
    (session : WriterSession cluster) : CoherenceConfig cluster :=
  match config.activity session.host with
  | .committing process =>
      if session.buffer = some process.buffer ∧ process.remaining.head? = some block then
        config.setActivity session.host (.committing
          { process with
            erasing := some block
            produced := process.produced ++ [(block, (config.blocks block).version)] })
      else config
  | _ => config

/-- The next access of a writer to the epoch or the version. -/
def writeAccess (config : CoherenceConfig cluster) (block : Nat)
    (session : WriterSession cluster) : Option (CoherenceConfig cluster) :=
  let shared := config.blocks block
  match session.point with
  | .owned => none
  | .granted => none
  | .writing => none
  | .activate =>
      if shared.writebackEpoch % 2 = 1 then
        -- `BeginWriteback` fails: the buffer is given up and its blocks are released unmodified.
        some (match session.buffer with
          | none => config
          | some _ =>
              (config.writeAt block session (.loadEpoch false)).setActivity session.host .idle)
      else some (config.writeAt block session (.compareExchange shared.writebackEpoch))
  | .compareExchange epoch =>
      if shared.writebackEpoch = epoch then
        some ((config.setBlock block { shared with writebackEpoch := epoch + 1 }).writeAt block
          session (if session.buffer.isSome then .writing else .granted))
      else some (config.writeAt block session .activate)
  | .loadEpoch modified =>
      if modified then
        if shared.writebackEpoch % 2 = 1 then
          some (config.writeAt block session (.addVersion shared.writebackEpoch))
        else some (config.writeAt block session .writing)
      else some (config.writeAt block session (.storeEpoch shared.writebackEpoch false))
  | .addVersion epoch =>
      some { (config.setBlock block { shared with version := shared.version + 1 }).writeAt block
          session (.storeEpoch epoch true) with
        published := Function.update config.published block
          (config.published block ++ [shared.content]) }
  | .storeEpoch epoch modified =>
      let closed := if epoch % 2 = 1 then epoch + 1 else shared.writebackEpoch
      let config := (config.setBlock block { shared with writebackEpoch := closed }).setWriter
        block none
      some (if modified then config.blockReleased block session else config)

/-- The next action of `ReleaseWriteBuffer` outside the token service. -/
def commitAction (config : CoherenceConfig cluster) (host : cluster.Host)
    (process : CommitProcess) : Option (CoherenceConfig cluster) :=
  match process.erasing, process.remaining with
  | some block, remaining =>
      some ((config.eraseReplicas host block).setActivity host
        (.committing { process with erasing := none, remaining := remaining.tail }))
  | none, [] =>
      some ((config.setActivity host .idle).observe (.released host process.produced))
  | none, block :: _ =>
      match config.writers block with
      | some session =>
          if session.host = host ∧ session.buffer = some process.buffer ∧
              session.point = .owned then
            some (config.writeAt block session .activate)
          else none
      | none => none

/-- Perform one action. -/
def step (geometry : ObjectGeometry) (config : CoherenceConfig cluster) :
    CoherenceOp cluster → Option (CoherenceConfig cluster)
  | .startRead host offset bytes =>
      if config.activity host = .idle ∧ 0 < bytes ∧ offset ≤ geometry.bytes ∧
          bytes ≤ geometry.bytes - offset then
        some (config.setActivity host (.reading
          ⟨offset, bytes, offset / geometry.coherenceBlockBytes, [], [], .lookup⟩))
      else none
  | .read host =>
      match config.activity host with
      | .reading process => some (readAccess geometry config host process)
      | _ => none
  | .failRead host =>
      match config.activity host with
      | .reading _ => some (config.setActivity host .idle)
      | _ => none
  | .evict host block fromOld =>
      if fromOld then
        some { config with oldReplicas := setEntry config.oldReplicas host block none }
      else some { config with replicas := setEntry config.replicas host block none }
  | .invalidateReadCache host =>
      if config.activity host = .idle then
        some { config with
          replicas := Function.update config.replicas host fun _ => none
          oldReplicas := Function.update config.oldReplicas host fun _ => none }
      else none
  | .synchronizeAcquire host =>
      if config.activity host = .idle then
        some ({ config with
          replicas := Function.update config.replicas host fun _ => none
          oldReplicas := Function.update config.oldReplicas host (config.replicas host)
            }.observe (.acquired host fun block => (config.blocks block).version))
      else none
  | .obtain host buffer block =>
      match config.writers block with
      | none => some (config.setWriter block (some ⟨host, some buffer, .owned⟩))
      | some _ => none
  | .obtainRaw host block =>
      match config.writers block with
      | none => some (config.setWriter block (some ⟨host, none, .activate⟩))
      | some _ => none
  | .collect block =>
      match config.writers block with
      | some session =>
          if session.point = .granted then some (config.writeAt block session .writing) else none
      | none => none
  | .abandon block =>
      match config.writers block with
      | some session =>
          if session.point = .granted then some (config.writeAt block session (.loadEpoch false))
          else none
      | none => none
  | .abort block =>
      match config.writers block with
      | some session =>
          if session.point = .owned then some (config.writeAt block session (.loadEpoch false))
          else none
      | none => none
  | .startCommit host buffer blocks =>
      if config.activity host = .idle ∧ blocks.Nodup ∧
          ∀ block ∈ blocks, config.writers block = some ⟨host, some buffer, .owned⟩ then
        some (config.setActivity host (.committing ⟨buffer, blocks, none, []⟩))
      else none
  | .commit host =>
      match config.activity host with
      | .committing process => commitAction config host process
      | _ => none
  | .write block =>
      match config.writers block with
      | some session =>
          if config.mayProceed block session then config.writeAccess block session else none
      | none => none
  | .storeByte block index value =>
      match config.writers block with
      | some session =>
          if session.point = .writing ∧ config.mayProceed block session then
            let shared := config.blocks block
            some (config.setBlock block
              { shared with content := Function.update shared.content index value })
          else none
      | none => none
  | .release block =>
      match config.writers block with
      | some session =>
          if session.point = .writing ∧ config.mayProceed block session then
            some (config.writeAt block session (.loadEpoch true))
          else none
      | none => none
  | .eraseReleased host block =>
      if config.activity host = .idle then some (config.eraseReplicas host block) else none

/-- Everything one action can do, with the guards under which it happens. -/
inductive Effect (geometry : ObjectGeometry) (config : CoherenceConfig cluster) :
    CoherenceConfig cluster → Prop
  | startRead (host : cluster.Host) (offset bytes : Nat) (idle : config.activity host = .idle)
      (positive : 0 < bytes) :
      Effect geometry config (config.setActivity host (.reading
        ⟨offset, bytes, offset / geometry.coherenceBlockBytes, [], [], .lookup⟩))
  | read (host : cluster.Host) (process : ReadProcess)
      (reading : config.activity host = .reading process) :
      Effect geometry config (readAccess geometry config host process)
  | failRead (host : cluster.Host) (process : ReadProcess)
      (reading : config.activity host = .reading process) :
      Effect geometry config (config.setActivity host .idle)
  | evictOld (host : cluster.Host) (block : Nat) :
      Effect geometry config
        { config with oldReplicas := setEntry config.oldReplicas host block none }
  | evictCurrent (host : cluster.Host) (block : Nat) :
      Effect geometry config { config with replicas := setEntry config.replicas host block none }
  | invalidateReadCache (host : cluster.Host) (idle : config.activity host = .idle) :
      Effect geometry config
        { config with
          replicas := Function.update config.replicas host fun _ => none
          oldReplicas := Function.update config.oldReplicas host fun _ => none }
  | synchronizeAcquire (host : cluster.Host) (idle : config.activity host = .idle) :
      Effect geometry config
        ({ config with
          replicas := Function.update config.replicas host fun _ => none
          oldReplicas := Function.update config.oldReplicas host (config.replicas host)
            }.observe (.acquired host fun block => (config.blocks block).version))
  | obtain (host : cluster.Host) (buffer block : Nat) (free : config.writers block = none) :
      Effect geometry config (config.setWriter block (some ⟨host, some buffer, .owned⟩))
  | obtainRaw (host : cluster.Host) (block : Nat) (free : config.writers block = none) :
      Effect geometry config (config.setWriter block (some ⟨host, none, .activate⟩))
  | collect (block : Nat) (session : WriterSession cluster)
      (present : config.writers block = some session) (granted : session.point = .granted) :
      Effect geometry config (config.writeAt block session .writing)
  | abandon (block : Nat) (session : WriterSession cluster)
      (present : config.writers block = some session) (granted : session.point = .granted) :
      Effect geometry config (config.writeAt block session (.loadEpoch false))
  | abort (block : Nat) (session : WriterSession cluster)
      (present : config.writers block = some session) (owned : session.point = .owned) :
      Effect geometry config (config.writeAt block session (.loadEpoch false))
  | startCommit (host : cluster.Host) (buffer : Nat) (blocks : List Nat)
      (idle : config.activity host = .idle) (distinct : blocks.Nodup) :
      Effect geometry config (config.setActivity host (.committing ⟨buffer, blocks, none, []⟩))
  | eraseBlock (host : cluster.Host) (process : CommitProcess) (block : Nat)
      (committing : config.activity host = .committing process)
      (erasing : process.erasing = some block) :
      Effect geometry config ((config.eraseReplicas host block).setActivity host
        (.committing { process with erasing := none, remaining := process.remaining.tail }))
  | finishCommit (host : cluster.Host) (process : CommitProcess)
      (committing : config.activity host = .committing process)
      (erasing : process.erasing = none) (remaining : process.remaining = []) :
      Effect geometry config
        ((config.setActivity host .idle).observe (.released host process.produced))
  | beginWriteback (block : Nat) (session : WriterSession cluster)
      (present : config.writers block = some session) (owned : session.point = .owned) :
      Effect geometry config (config.writeAt block session .activate)
  | write (block : Nat) (session : WriterSession cluster) (after : CoherenceConfig cluster)
      (present : config.writers block = some session)
      (proceeds : config.mayProceed block session = true)
      (access : config.writeAccess block session = some after) :
      Effect geometry config after
  | storeByte (block index : Nat) (value : UInt8) (session : WriterSession cluster)
      (present : config.writers block = some session) (writing : session.point = .writing) :
      Effect geometry config (config.setBlock block
        { config.blocks block with
          content := Function.update (config.blocks block).content index value })
  | release (block : Nat) (session : WriterSession cluster)
      (present : config.writers block = some session) (writing : session.point = .writing) :
      Effect geometry config (config.writeAt block session (.loadEpoch true))
  | eraseReleased (host : cluster.Host) (block : Nat) (idle : config.activity host = .idle) :
      Effect geometry config (config.eraseReplicas host block)

theorem commitAction_effect {geometry : ObjectGeometry} {config after : CoherenceConfig cluster}
    {host : cluster.Host} {process : CommitProcess}
    (committing : config.activity host = .committing process)
    (taken : commitAction config host process = some after) : Effect geometry config after := by
  simp only [commitAction] at taken
  split at taken
  · rename_i block erasing
    cases taken
    exact .eraseBlock host process block committing erasing
  · rename_i erasing remaining
    cases taken
    exact .finishCommit host process committing erasing remaining
  · split at taken
    · rename_i session present
      split at taken
      · rename_i owned
        cases taken
        exact .beginWriteback _ session present owned.2.2
      · simp at taken
    · simp at taken

theorem step_effect {geometry : ObjectGeometry} {config after : CoherenceConfig cluster}
    {op : CoherenceOp cluster} (taken : step geometry config op = some after) :
    Effect geometry config after := by
  cases op with
  | startRead host offset bytes =>
      obtain ⟨guard, same⟩ := Option.ite_none_right_eq_some.mp taken
      cases same
      exact .startRead host offset bytes guard.1 guard.2.1
  | read host =>
      simp only [step] at taken
      split at taken
      · cases taken
        exact .read host _ (by assumption)
      · simp at taken
  | failRead host =>
      simp only [step] at taken
      split at taken
      · cases taken
        exact .failRead host _ (by assumption)
      · simp at taken
  | evict host block fromOld =>
      cases fromOld with
      | false =>
          cases taken
          exact .evictCurrent host block
      | true =>
          cases taken
          exact .evictOld host block
  | invalidateReadCache host =>
      obtain ⟨idle, same⟩ := Option.ite_none_right_eq_some.mp taken
      cases same
      exact .invalidateReadCache host idle
  | synchronizeAcquire host =>
      obtain ⟨idle, same⟩ := Option.ite_none_right_eq_some.mp taken
      cases same
      exact .synchronizeAcquire host idle
  | obtain host buffer block =>
      simp only [step] at taken
      split at taken
      · cases taken
        exact .obtain host buffer block (by assumption)
      · simp at taken
  | obtainRaw host block =>
      simp only [step] at taken
      split at taken
      · cases taken
        exact .obtainRaw host block (by assumption)
      · simp at taken
  | collect block =>
      simp only [step] at taken
      split at taken
      · obtain ⟨granted, same⟩ := Option.ite_none_right_eq_some.mp taken
        cases same
        exact .collect block _ (by assumption) granted
      · simp at taken
  | abandon block =>
      simp only [step] at taken
      split at taken
      · obtain ⟨granted, same⟩ := Option.ite_none_right_eq_some.mp taken
        cases same
        exact .abandon block _ (by assumption) granted
      · simp at taken
  | abort block =>
      simp only [step] at taken
      split at taken
      · obtain ⟨owned, same⟩ := Option.ite_none_right_eq_some.mp taken
        cases same
        exact .abort block _ (by assumption) owned
      · simp at taken
  | startCommit host buffer blocks =>
      obtain ⟨guard, same⟩ := Option.ite_none_right_eq_some.mp taken
      cases same
      exact .startCommit host buffer blocks guard.1 guard.2.1
  | commit host =>
      simp only [step] at taken
      split at taken
      · exact commitAction_effect (by assumption) taken
      · simp at taken
  | write block =>
      simp only [step] at taken
      split at taken
      · obtain ⟨proceeds, access⟩ := Option.ite_none_right_eq_some.mp taken
        exact .write block _ after (by assumption) proceeds access
      · simp at taken
  | storeByte block index value =>
      simp only [step] at taken
      split at taken
      · obtain ⟨writing, same⟩ := Option.ite_none_right_eq_some.mp taken
        cases same
        exact .storeByte block index value _ (by assumption) writing.1
      · simp at taken
  | release block =>
      simp only [step] at taken
      split at taken
      · obtain ⟨writing, same⟩ := Option.ite_none_right_eq_some.mp taken
        cases same
        exact .release block _ (by assumption) writing.1
      · simp at taken
  | eraseReleased host block =>
      obtain ⟨idle, same⟩ := Option.ite_none_right_eq_some.mp taken
      cases same
      exact .eraseReleased host block idle

def Reached (geometry : ObjectGeometry) (content : Nat → Nat → UInt8) :
    CoherenceConfig cluster → Prop :=
  Run.Reaches (step geometry) (initial cluster content)

def twoBytes : ObjectGeometry := ⟨2, 2, by decide⟩

def readerAndWriter : Cluster := ⟨2, 8, Nat.two_pos, two_le_kMaxHosts⟩

def reader : readerAndWriter.Host := ⟨0, by decide⟩

def writer : readerAndWriter.Host := ⟨1, by decide⟩

end CoherenceConfig
end Cxloom.LoomMem
