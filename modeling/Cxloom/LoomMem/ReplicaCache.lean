import Cxloom.LoomMem.Allocator

/-!
# The replica cache of a host

An embedding of the replica bookkeeping of `LoomMemRuntime`: the current and the old index, the
records of cached objects, the byte count and the access clock, together with what they keep in
shared memory for one host, its bit in `replica_hosts` and its words in `replica_versions`.  Every
operation holds the replica mutex and is a single transition.  Counters are integers, so that one
that is decremented too often shows.
-/

namespace Cxloom.LoomMem

namespace ReplicaCache

/-- Limits of the cache. -/
structure Config where
  localHost : HostId
  capacityEntries : Nat
  capacityBytes : Nat
  /-- There is room for an entry. -/
  entries_pos : 1 ≤ capacityEntries
  /-- There is room for a byte. -/
  bytes_pos : 1 ≤ capacityBytes

/-- A cached block. -/
structure CachedReplica where
  objectOffset : Nat
  blockIndex : Nat
  version : Nat
  /-- The bytes. -/
  storage : List UInt8
  /-- Time of the last use. -/
  lastAccess : Nat
deriving DecidableEq

/-- The two indexes. -/
inductive Age
  /-- The index of this synchronization interval. -/
  | current
  /-- The index of the interval before. -/
  | old
deriving DecidableEq

/-- An object with cached blocks. -/
structure CachedObject where
  /-- Shape of the object. -/
  info : AllocationInfo
  /-- Number of cached blocks. -/
  blocks : Int
deriving DecidableEq

/-- The descriptor of a published object. -/
structure SharedObject where
  /-- Shape of the object. -/
  info : AllocationInfo
  replicaHosts : HostMask

/-- An eviction, with the entries that were present. -/
structure Eviction where
  /-- The entry that was evicted. -/
  victim : CachedReplica
  /-- The entries before. -/
  present : List CachedReplica

end ReplicaCache

open ReplicaCache in
/-- The cache of a host and its part of the shared state. -/
structure ReplicaCache where
  /-- Entries of an index by key, in the order of iteration. -/
  index : Age → List (Nat × ReplicaCache.CachedReplica)
  cachedObjects : Nat → Option CachedObject
  cachedReplicaBytes : Int
  /-- Time of the last use of any entry. -/
  replicaAccessClock : Nat
  /-- Descriptors of the published objects. -/
  objects : Nat → Option SharedObject
  /-- Version word of the host in every block descriptor. -/
  replicaVersions : Nat → Nat
  /-- A missing record or a descriptor that was freed was used. -/
  faulted : Bool
  evicted : List Eviction

namespace ReplicaCache

def blockKey (info : AllocationInfo) (blockIndex : Nat) : Nat :=
  info.coherenceMetadataOffset + blockIndex * sizeofCoherenceBlockDescriptor

def entries (cache : ReplicaCache) : List (Nat × CachedReplica) :=
  cache.index .current ++ cache.index .old

/-- `MutableCoherenceBlock`: the address of a block of a published object. -/
def mutableCoherenceBlock (cache : ReplicaCache) (object : GlobalPointer) (blockIndex : Nat) :
    Option Nat :=
  match cache.objects object.offset with
  | none => none
  | some shared =>
      if object.regionId = 0 ∧ blockIndex < shared.info.coherenceBlockCount then
        some (blockKey shared.info blockIndex)
      else none

/-- Store the version word of a block, when there is such a block. -/
def storeReplicaVersion (cache : ReplicaCache) (object : GlobalPointer) (blockIndex version : Nat) :
    ReplicaCache :=
  match cache.mutableCoherenceBlock object blockIndex with
  | none => cache
  | some block =>
      { cache with replicaVersions := Function.update cache.replicaVersions block version }

/-- Change the holders in the descriptor of an object. -/
def updateReplicaHosts (cache : ReplicaCache) (offset : Nat) (change : HostMask → HostMask) :
    ReplicaCache :=
  match cache.objects offset with
  | none => { cache with faulted := true }
  | some shared =>
      { cache with
        objects := Function.update cache.objects offset
          (some { shared with replicaHosts := change shared.replicaHosts }) }

variable (config : Config)

/-- `EraseReplicaLocked`. -/
def eraseReplica (cache : ReplicaCache) (age : Age) (key : Nat) (entry : CachedReplica) :
    ReplicaCache :=
  match cache.cachedObjects entry.objectOffset with
  | none => { cache with faulted := true }
  | some object =>
      let stored := cache.storeReplicaVersion object.info.gptr entry.blockIndex 0
      let erased :=
        { stored with
          cachedReplicaBytes := stored.cachedReplicaBytes - entry.storage.length
          index := Function.update stored.index age ((stored.index age).erase (key, entry)) }
      if object.blocks - 1 = 0 then
        let left := erased.updateReplicaHosts entry.objectOffset
          (· &&& ~~~HostMask.bit config.localHost.val)
        { left with cachedObjects := Function.update left.cachedObjects entry.objectOffset none }
      else
        { erased with
          cachedObjects := Function.update erased.cachedObjects entry.objectOffset
            (some { object with blocks := object.blocks - 1 }) }

/-- Erase the entries of an index that a test selects, as the index is iterated. -/
def eraseWhere (test : CachedReplica → Bool) (age : Age) :
    List (Nat × CachedReplica) → ReplicaCache → ReplicaCache
  | [], cache => cache
  | (key, entry) :: rest, cache =>
      if test entry then eraseWhere test age rest (eraseReplica config cache age key entry)
      else eraseWhere test age rest cache

/-- `InvalidateObjectLocked`. -/
def invalidateObject (cache : ReplicaCache) (offset : Nat) : ReplicaCache :=
  let first := eraseWhere config (fun entry => entry.objectOffset = offset) .current
    (cache.index .current) cache
  eraseWhere config (fun entry => entry.objectOffset = offset) .old (first.index .old) first

def eraseKey (cache : ReplicaCache) (age : Age) (key : Nat) : ReplicaCache :=
  match (cache.index age).find? fun candidate => candidate.1 = key with
  | none => cache
  | some (_, entry) => eraseReplica config cache age key entry

/-- Invalidation of a block after a local write. -/
def invalidateBlock (cache : ReplicaCache) (key : Nat) : ReplicaCache :=
  eraseKey config (eraseKey config cache .current key) .old key

/-- Keep the candidate of an eviction, or take a later one with an earlier last use. -/
def older : Option (Age × Nat × CachedReplica) → Age × Nat × CachedReplica →
    Option (Age × Nat × CachedReplica)
  | none, candidate => some candidate
  | some victim, candidate =>
      if candidate.2.2.lastAccess < victim.2.2.lastAccess then some candidate else some victim

/-- The entry that `EvictReplicasLocked` erases next. -/
def victim (cache : ReplicaCache) : Option (Age × Nat × CachedReplica) :=
  ((cache.index .current).map (Age.current, ·) ++ (cache.index .old).map (Age.old, ·)).foldl older
    none

/-- Whether the cache is beyond its limits. -/
def overfull (cache : ReplicaCache) : Prop :=
  config.capacityEntries < (cache.index .current).length + (cache.index .old).length ∨
    (config.capacityBytes : Int) < cache.cachedReplicaBytes

instance (cache : ReplicaCache) : Decidable (overfull config cache) :=
  inferInstanceAs (Decidable (_ ∨ _))

/-- The loop of `EvictReplicasLocked`, with a bound on its iterations. -/
def evictLoop : Nat → ReplicaCache → ReplicaCache
  | 0, cache => cache
  | bound + 1, cache =>
      if overfull config cache then
        match cache.victim with
        | none => cache
        | some (age, key, entry) =>
            evictLoop bound
              (eraseReplica config
                { cache with
                  evicted := ⟨entry, cache.entries.map Prod.snd⟩ :: cache.evicted }
                age key entry)
      else cache

/-- `EvictReplicasLocked`: every iteration erases an entry. -/
def evictReplicas (cache : ReplicaCache) : ReplicaCache :=
  evictLoop config cache.entries.length cache

/-- The record of an object that gets another block. -/
def enlist (cache : ReplicaCache) (info : AllocationInfo) : ReplicaCache :=
  match cache.cachedObjects info.gptr.offset with
  | none =>
      let joined := cache.updateReplicaHosts info.gptr.offset
        (· ||| HostMask.bit config.localHost.val)
      { joined with
        cachedObjects := Function.update joined.cachedObjects info.gptr.offset (some ⟨info, 1⟩) }
  | some object =>
      { cache with
        cachedObjects := Function.update cache.cachedObjects info.gptr.offset
          (some { object with blocks := object.blocks + 1 }) }

/-- Add an entry to the current index, at a place that its hash decides. -/
def emplace (cache : ReplicaCache) (place key : Nat) (info : AllocationInfo)
    (blockIndex version : Nat) (storage : List UInt8) : ReplicaCache :=
  { cache with
    cachedReplicaBytes := cache.cachedReplicaBytes + storage.length
    replicaAccessClock := cache.replicaAccessClock + 1
    index := Function.update cache.index .current
      ((cache.index .current).take place ++
        (key, ⟨info.gptr.offset, blockIndex, version, storage, cache.replicaAccessClock + 1⟩) ::
          (cache.index .current).drop place) }

/-- `CacheReplicaLocked`. -/
def cacheReplica (cache : ReplicaCache) (place key : Nat) (info : AllocationInfo)
    (blockIndex version : Nat) (storage : List UInt8) : ReplicaCache :=
  let cleared := invalidateBlock config (enlist config cache info) key
  let emplaced := emplace cleared place key info blockIndex version storage
  evictReplicas config
    (emplaced.storeReplicaVersion info.gptr blockIndex (add64 version 1))

/-- Note the use of an entry. -/
def refresh (key time : Nat) (candidate : Nat × CachedReplica) : Nat × CachedReplica :=
  if candidate.1 = key then (candidate.1, { candidate.2 with lastAccess := time }) else candidate

/-- A read that the current index serves. -/
def touch (cache : ReplicaCache) (key offset : Nat) : ReplicaCache :=
  match (cache.index .current).find? fun candidate => candidate.1 = key with
  | none => cache
  | some (_, entry) =>
      if entry.objectOffset = offset then
        { cache with
          replicaAccessClock := cache.replicaAccessClock + 1
          index := Function.update cache.index .current
            ((cache.index .current).map (refresh key (cache.replicaAccessClock + 1))) }
      else cache

/-- `SynchronizeAcquire`: drop the old index and make the current one old. -/
def synchronizeAcquire (cache : ReplicaCache) : ReplicaCache :=
  let dropped := eraseWhere config (fun _ => true) .old (cache.index .old) cache
  { dropped with
    index := fun age =>
      match age with
      | .current => dropped.index .old
      | .old => dropped.index .current }

/-! ## Transitions -/

/-- Whether an address is one of the block descriptors of an object. -/
def Sidecar (info : AllocationInfo) (address : Nat) : Prop :=
  ∃ blockIndex < info.coherenceBlockCount, address = blockKey info blockIndex

instance (info : AllocationInfo) (address : Nat) : Decidable (Sidecar info address) :=
  inferInstanceAs (Decidable (∃ blockIndex < _, _))

/-- Transitions of the cache and of the shared state it uses. -/
inductive Label
  /-- A read installs a block that it filled, or that it found unchanged in the old index, while it
  holds a reference to the object. -/
  | install (offset blockIndex version : Nat) (storage : List UInt8) (place : Nat)
  /-- A read uses a block of the current index. -/
  | touch (key offset : Nat)
  /-- `InvalidateReadCache` or the cleaning phase of a retirement. -/
  | invalidateObject (offset : Nat)
  /-- A local write was released. -/
  | invalidateBlock (key : Nat)
  /-- `SynchronizeAcquire`. -/
  | synchronizeAcquire
  /-- The tables are iterated in another order. -/
  | rehash (order : Age → List (Nat × CachedReplica))
  | allocate (info : AllocationInfo)
  /-- An object is freed. -/
  | free (offset : Nat)
  /-- Another host adds or drops its replicas of an object. -/
  | hold (other : HostId) (offset : Nat) (holds : Bool)

/-- The state after an enabled transition. -/
def next (cache : ReplicaCache) : Label → Option ReplicaCache
  | .install offset blockIndex version storage place =>
      match cache.objects offset with
      | none => none
      | some shared =>
          if blockIndex < shared.info.coherenceBlockCount then
            some (cacheReplica config cache place (blockKey shared.info blockIndex) shared.info
              blockIndex version storage)
          else none
  | .touch key offset => some (touch cache key offset)
  | .invalidateObject offset => some (invalidateObject config cache offset)
  | .invalidateBlock key => some (invalidateBlock config cache key)
  | .synchronizeAcquire => some (synchronizeAcquire config cache)
  | .rehash order =>
      if (order .current).isPerm (cache.index .current) ∧
        (order .old).isPerm (cache.index .old) then
        some { cache with index := order }
      else none
  | .allocate info =>
      if info.gptr.regionId = 0 ∧ (cache.objects info.gptr.offset).isNone then
        some
          { cache with
            objects := Function.update cache.objects info.gptr.offset (some ⟨info, 0#64⟩)
            replicaVersions := fun address =>
              if Sidecar info address then 0 else cache.replicaVersions address }
      else none
  | .free offset =>
      match cache.objects offset with
      | none => none
      | some shared =>
          if shared.replicaHosts = 0#64 then
            some { cache with objects := Function.update cache.objects offset none }
          else none
  | .hold other offset holds =>
      if other ≠ config.localHost ∧ (cache.objects offset).isSome then
        some (cache.updateReplicaHosts offset fun hosts =>
          if holds then hosts ||| HostMask.bit other.val else hosts &&& ~~~HostMask.bit other.val)
      else none

def Admitted (cache : ReplicaCache) : Label → Prop
  | .allocate info => ∀ offset shared, cache.objects offset = some shared →
      ∀ address, Sidecar info address → ¬Sidecar shared.info address
  | _ => True

/-- The cache of a host that joins an empty region. -/
def initial : ReplicaCache where
  index _ := []
  cachedObjects _ := none
  cachedReplicaBytes := 0
  replicaAccessClock := 0
  objects _ := none
  replicaVersions _ := 0
  faulted := false
  evicted := []

def Reachable (cache : ReplicaCache) : Prop :=
  Run.ReachesBy (next config) Admitted initial cache

end ReplicaCache
end Cxloom.LoomMem
