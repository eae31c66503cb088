import Cxloom.Bytes
import Cxloom.LoomMem.ReplicaBookkeeping

/-!
# Assembling a read

`ReadRange` of one host while no writer changes the object.  Every block comes from the current
index, from the old index or from the shared region, and its part of the range is copied behind the
parts of the blocks before it.  The result is the plain slice of the blocks' contents at the
versions that the call reports.
-/

namespace Cxloom.LoomMem

namespace ReadRange

open ReplicaCache

/-- The words of a block descriptor that a read loads. -/
structure BlockWords where
  /-- Number of modified releases. -/
  version : Nat
  /-- Odd while the block is being written. -/
  writebackEpoch : Nat

/-- The shared region while no writer changes it. -/
structure SharedRegion where
  bytes : Nat → UInt8
  /-- Block descriptors by address. -/
  blocks : Nat → BlockWords

/-- What a call depends on besides its arguments and the cache. -/
structure Context where
  config : ReplicaCache.Config
  /-- Whether the runtime is initialized. -/
  initialized : Bool
  region : SharedRegion
  /-- Result of `AcquireReference`, with the fields of the descriptor. -/
  reference : Except Status AllocationInfo
  /-- How often the loop over a block finds the deadline ahead. -/
  attempts : Nat → Nat
  /-- Place at which the hash of a block enters it into the current index. -/
  place : Nat → Nat

/-- A snapshot of a range. -/
structure Snapshot where
  object : GlobalPointer
  /-- First byte of the range. -/
  offset : Nat
  blockVersions : List Nat
  /-- Bytes of the range. -/
  storage : List UInt8
deriving DecidableEq

/-- The local variables of a call and the cache. -/
structure State where
  cache : ReplicaCache
  /-- Shape of the object, without bytes while it is unknown. -/
  info : AllocationInfo
  /-- Whether the call holds a reference. -/
  admitted : Bool
  /-- The copied range. -/
  assembled : List UInt8
  /-- Replica that is the whole result. -/
  singleBlockReplica : Option (List UInt8)
  /-- Versions of the blocks so far. -/
  versions : List Nat

/-- The arguments of a call after its range check. -/
structure Range where
  object : GlobalPointer
  /-- First byte of the range. -/
  offset : Nat
  /-- Number of bytes of the range. -/
  bytes : Nat
  firstBlock : Nat
  lastBlock : Nat

/-- A shape that is not known. -/
def unknownInfo : AllocationInfo := ⟨⟨0, 0⟩, 0, 0, 0, 0, 0, 0⟩

/-- `admit`: take a reference, unless the call has one. -/
def admitReference (context : Context) (state : State) : Except Status State :=
  if state.admitted then .ok state
  else
    match context.reference with
    | .error status => .error status
    | .ok descriptor =>
        if state.info.bytes ≠ 0 ∧
            (state.info.bytes ≠ descriptor.bytes ∨
              state.info.coherenceBlockBytes ≠ descriptor.coherenceBlockBytes ∨
              state.info.coherenceMetadataOffset ≠ descriptor.coherenceMetadataOffset) then
          .error (.unavailable "allocation changed during local cache lookup; retry the read")
        else .ok { state with info := descriptor, admitted := true }

/-- The entry of the current index that serves a block of an object. -/
def currentReplica (cache : ReplicaCache) (cacheKey offset : Nat) :
    Option ReplicaCache.CachedReplica :=
  match (cache.index .current).find? fun candidate => candidate.1 = cacheKey with
  | none => none
  | some (_, entry) => if entry.objectOffset = offset then some entry else none

/-- The bytes of a block in the old index, when they have a version. -/
def oldReplica (cache : ReplicaCache) (cacheKey version : Nat) : Option (List UInt8) :=
  match (cache.index .old).find? fun candidate => candidate.1 = cacheKey with
  | none => none
  | some (_, entry) => if entry.version = version then some entry.storage else none

def copyOut (region : SharedRegion) (address bytes : Nat) : List UInt8 :=
  (List.range bytes).map fun index => region.bytes (address + index)

/-- The loop that reads a stable version of a block, with the number of its iterations before the
deadline. -/
def stableRead (region : SharedRegion) (cache : ReplicaCache) (cacheKey address blockBytes : Nat) :
    Nat → Option (List UInt8 × Nat)
  | 0 => none
  | attempts + 1 =>
      let epochBefore := (region.blocks cacheKey).writebackEpoch
      if epochBefore % 2 = 1 then stableRead region cache cacheKey address blockBytes attempts
      else
        let versionBefore := (region.blocks cacheKey).version
        let replica :=
          match oldReplica cache cacheKey versionBefore with
          | some storage => storage
          | none => copyOut region address blockBytes
        let epochAfter := (region.blocks cacheKey).writebackEpoch
        let versionAfter := (region.blocks cacheKey).version
        if epochBefore ≠ epochAfter ∨ epochAfter % 2 = 1 ∨ versionBefore ≠ versionAfter then
          stableRead region cache cacheKey address blockBytes attempts
        else some (replica, versionAfter)

/-- Copy the part of a block that lies in the range. -/
def copyBlock (range : Range) (index : Nat) (replica : List UInt8) (acceptedVersion : Nat)
    (state : State) : State :=
  let blockStart := index * state.info.coherenceBlockBytes
  let blockBytes := min state.info.coherenceBlockBytes (state.info.bytes - blockStart)
  let copyBegin := max range.offset blockStart
  let copyEnd := min (range.offset + range.bytes) (blockStart + blockBytes)
  { state with
    singleBlockReplica :=
      if range.firstBlock = range.lastBlock ∧ range.offset = blockStart ∧
          range.bytes = blockBytes then
        some replica
      else state.singleBlockReplica
    versions := state.versions ++ [acceptedVersion]
    assembled := overwrite (copyBegin - range.offset)
      (slice (copyBegin - blockStart) (copyEnd - copyBegin) replica) state.assembled }

/-- One iteration of the loop over the blocks.  An error leaves the cache as it is then. -/
def readBlock (context : Context) (range : Range) (index : Nat) (state : State) :
    Except (Status × ReplicaCache) State :=
  let blockStart := index * state.info.coherenceBlockBytes
  let blockBytes := min state.info.coherenceBlockBytes (state.info.bytes - blockStart)
  let cacheKey := blockKey state.info index
  match currentReplica state.cache cacheKey range.object.offset with
  | some cached =>
      .ok (copyBlock range index cached.storage cached.version
        { state with cache := touch state.cache cacheKey range.object.offset })
  | none =>
      match admitReference context state with
      | .error status => .error (status, state.cache)
      | .ok admitted =>
          if admitted.info.coherenceBlockCount ≤ index then
            .error (.invalidArgument "coherence block index is out of range", state.cache)
          else
            match stableRead context.region state.cache cacheKey
                (range.object.offset + blockStart) blockBytes (context.attempts index) with
            | none =>
                .error (.unavailable "timed out waiting for a stable readable block version",
                  state.cache)
            | some (replica, acceptedVersion) =>
                .ok (copyBlock range index replica acceptedVersion
                  { admitted with
                    cache := cacheReplica context.config state.cache (context.place index) cacheKey
                      admitted.info index acceptedVersion replica })

/-- The loop over a number of blocks from an index on. -/
def readBlocks (context : Context) (range : Range) :
    Nat → Nat → State → Except (Status × ReplicaCache) State
  | 0, _, state => .ok state
  | count + 1, index, state =>
      match readBlock context range index state with
      | .error failure => .error failure
      | .ok next => readBlocks context range count (index + 1) next

def recordedInfo (cache : ReplicaCache) (object : GlobalPointer) : AllocationInfo :=
  match cache.cachedObjects object.offset with
  | none => unknownInfo
  | some record => record.info

/-- The range check and the loop of `ReadRange`. -/
def assembleRange (context : Context) (object : GlobalPointer) (offset bytes : Nat)
    (state : State) :
    Except (Status × ReplicaCache) State :=
  if bytes = 0 ∨ state.info.bytes < offset ∨ state.info.bytes - offset < bytes then
    .error (.invalidArgument "read range is empty or outside the allocation", state.cache)
  else
    let firstBlock := offset / state.info.coherenceBlockBytes
    let lastBlock := (offset + bytes - 1) / state.info.coherenceBlockBytes
    readBlocks context ⟨object, offset, bytes, firstBlock, lastBlock⟩ (lastBlock - firstBlock + 1)
      firstBlock { state with assembled := List.replicate bytes 0 }

/-- Number of bytes that a call requests. -/
def requestedBytes (info : AllocationInfo) (bytes : Nat) (fullObject : Bool) : Nat :=
  if fullObject then info.bytes else bytes

/-- The shape of the object, from its record or from its descriptor. -/
def findInfo (context : Context) (cache : ReplicaCache) (object : GlobalPointer) :
    Except Status State :=
  let known : State := ⟨cache, recordedInfo cache object, false, [], none, []⟩
  if known.info.bytes = 0 then admitReference context known else .ok known

/-- `ReadRange` up to its result storage. -/
def assemble (context : Context) (cache : ReplicaCache) (object : GlobalPointer)
    (offset bytes timeoutMs : Nat) (fullObject : Bool) :
    Except (Status × ReplicaCache) State :=
  if ¬context.initialized ∨ timeoutMs = 0 then
    .error (.failedPrecondition "read ranges require an initialized shared runtime and timeout",
      cache)
  else if object.regionId ≠ 0 then .error (.invalidArgument "invalid region id", cache)
  else
    match findInfo context cache object with
    | .error status => .error (status, cache)
    | .ok state =>
        assembleRange context object offset (requestedBytes state.info bytes fullObject) state

/-- The storage of the result: the replica of a single block, or the copied range. -/
def State.storage (state : State) : List UInt8 :=
  match state.singleBlockReplica with
  | none => state.assembled
  | some replica => replica

/-- `ReadRange`. -/
def readRange (context : Context) (cache : ReplicaCache) (object : GlobalPointer)
    (offset bytes timeoutMs : Nat) (fullObject : Bool) : Except Status Snapshot × ReplicaCache :=
  match assemble context cache object offset bytes timeoutMs fullObject with
  | .error (status, left) => (.error status, left)
  | .ok state => (.ok ⟨object, offset, state.versions, state.storage⟩, state.cache)

/-! ## Contents -/

/-- Bytes of an object's blocks, by block, version and position in the block. -/
abbrev BlockContent : Type := Nat → Nat → Nat → UInt8

def blockLength (info : AllocationInfo) (index : Nat) : Nat :=
  min info.coherenceBlockBytes (info.bytes - index * info.coherenceBlockBytes)

def blockStorage (info : AllocationInfo) (content : BlockContent) (index version : Nat) :
    List UInt8 :=
  (List.range (blockLength info index)).map (content index version)

/-- A shape whose blocks cover the object. -/
structure Shaped (info : AllocationInfo) : Prop where
  coherenceBlockBytes_pos : 0 < info.coherenceBlockBytes
  /-- The blocks cover the object. -/
  covered : info.bytes ≤ info.coherenceBlockCount * info.coherenceBlockBytes

/-- The entries of a cache hold the contents of their versions, and the record of an object has its
shape. -/
structure Holds (object : GlobalPointer) (info : AllocationInfo) (content : BlockContent)
    (cache : ReplicaCache) : Prop where
  /-- Both indexes hold contents of the versions they are labelled with. -/
  entries : ∀ age entry, ∀ index < info.coherenceBlockCount,
    (blockKey info index, entry) ∈ cache.index age →
      entry.storage = blockStorage info content index entry.version
  records : ∀ record, cache.cachedObjects object.offset = some record → record.info = info

/-- A call finds the object and its contents in the shared region. -/
structure Context.Shows (context : Context) (object : GlobalPointer) (info : AllocationInfo)
    (content : BlockContent) : Prop where
  reference : ∀ descriptor, context.reference = .ok descriptor → descriptor = info
  /-- The shared bytes of a block are its contents at its version. -/
  shared : ∀ index < info.coherenceBlockCount, ∀ position < blockLength info index,
    context.region.bytes (object.offset + index * info.coherenceBlockBytes + position) =
      content index (context.region.blocks (blockKey info index)).version position

/-- A snapshot is the slice of the contents at the versions that it reports. -/
structure Snapshot.Slices (snapshot : Snapshot) (info : AllocationInfo) (content : BlockContent)
    (offset bytes : Nat) : Prop where
  /-- It has as many bytes as requested. -/
  length : snapshot.storage.length = bytes
  /-- It reports a version for every block of the range. -/
  versions : snapshot.blockVersions.length =
    (offset + bytes - 1) / info.coherenceBlockBytes - offset / info.coherenceBlockBytes + 1
  /-- Every byte is the byte of its block at the version reported for that block, the versions
  being reported in the order of the blocks. -/
  bytes : ∀ position < bytes, ∃ version,
    snapshot.blockVersions[(offset + position) / info.coherenceBlockBytes -
      offset / info.coherenceBlockBytes]? = some version ∧
    snapshot.storage[position]? = some (content ((offset + position) / info.coherenceBlockBytes)
      version ((offset + position) % info.coherenceBlockBytes))

@[simp] theorem length_blockStorage (info : AllocationInfo) (content : BlockContent)
    (index version : Nat) :
    (blockStorage info content index version).length = blockLength info index := by
  rw [blockStorage, List.length_map, List.length_range]

theorem getElem?_blockStorage {info : AllocationInfo} {content : BlockContent}
    {index version position : Nat} (inside : position < blockLength info index) :
    (blockStorage info content index version)[position]? =
      some (content index version position) := by
  rw [blockStorage, List.getElem?_map, List.getElem?_range inside, Option.map_some]

/-! ## The cache -/

section Cache

variable {config : ReplicaCache.Config} {cache before after last : ReplicaCache}
  {object : GlobalPointer} {info : AllocationInfo} {content : BlockContent}

/-- A cache has entries and records that it had before. -/
structure Fewer (before after : ReplicaCache) : Prop where
  entries : ∀ age, ∀ item ∈ after.index age, item ∈ before.index age
  records : ∀ offset record, after.cachedObjects offset = some record →
    ∃ earlier, before.cachedObjects offset = some earlier ∧ earlier.info = record.info

theorem Fewer.refl (cache : ReplicaCache) : Fewer cache cache :=
  ⟨fun _ _ member => member, fun _ record found => ⟨record, found, rfl⟩⟩

theorem Fewer.trans (first : Fewer before after) (second : Fewer after last) :
    Fewer before last where
  entries age item member := first.entries age item (second.entries age item member)
  records offset record found := by
    obtain ⟨middle, between, same⟩ := second.records offset record found
    obtain ⟨earlier, start, shape⟩ := first.records offset middle between
    exact ⟨earlier, start, shape.trans same⟩

theorem Holds.of_fewer (holds : Holds object info content before) (fewer : Fewer before after) :
    Holds object info content after where
  entries age entry index inside member :=
    holds.entries age entry index inside (fewer.entries age _ member)
  records record found := by
    obtain ⟨earlier, start, shape⟩ := fewer.records object.offset record found
    exact shape.symm.trans (holds.records earlier start)

@[simp] theorem storeReplicaVersion_index (cache : ReplicaCache) (object : GlobalPointer)
    (blockIndex version : Nat) :
    (cache.storeReplicaVersion object blockIndex version).index = cache.index := by
  rw [storeReplicaVersion]
  split <;> rfl

@[simp] theorem storeReplicaVersion_cachedObjects (cache : ReplicaCache) (object : GlobalPointer)
    (blockIndex version : Nat) :
    (cache.storeReplicaVersion object blockIndex version).cachedObjects = cache.cachedObjects := by
  rw [storeReplicaVersion]
  split <;> rfl

@[simp] theorem updateReplicaHosts_index (cache : ReplicaCache) (offset : Nat)
    (change : HostMask → HostMask) :
    (cache.updateReplicaHosts offset change).index = cache.index := by
  rw [updateReplicaHosts]
  split <;> rfl

@[simp] theorem updateReplicaHosts_cachedObjects (cache : ReplicaCache) (offset : Nat)
    (change : HostMask → HostMask) :
    (cache.updateReplicaHosts offset change).cachedObjects = cache.cachedObjects := by
  rw [updateReplicaHosts]
  split <;> rfl

theorem mem_update_erase {index : Age → List (Nat × ReplicaCache.CachedReplica)} {age other : Age}
    {item removed : Nat × ReplicaCache.CachedReplica}
    (member : item ∈ Function.update index age ((index age).erase removed) other) :
    item ∈ index other := by
  by_cases same : other = age
  · subst same
    rw [Function.update_self] at member
    exact List.mem_of_mem_erase member
  · rwa [Function.update_of_ne same] at member

theorem eraseReplica_fewer (cache : ReplicaCache) (age : Age) (key : Nat)
    (entry : ReplicaCache.CachedReplica) :
    Fewer cache (eraseReplica config cache age key entry) := by
  rw [eraseReplica]
  split
  · exact ⟨fun _ _ member => member, fun _ record found => ⟨record, found, rfl⟩⟩
  · rename_i object found
    split
    · refine ⟨fun other item member => ?_, fun offset record kept => ?_⟩
      · simp only [updateReplicaHosts_index, storeReplicaVersion_index] at member
        exact mem_update_erase member
      · simp only [updateReplicaHosts_cachedObjects, storeReplicaVersion_cachedObjects] at kept
        by_cases same : offset = entry.objectOffset
        · rw [same, Function.update_self] at kept
          cases kept
        · rw [Function.update_of_ne same] at kept
          exact ⟨record, kept, rfl⟩
    · refine ⟨fun other item member => ?_, fun offset record kept => ?_⟩
      · simp only [storeReplicaVersion_index] at member
        exact mem_update_erase member
      · simp only [storeReplicaVersion_cachedObjects] at kept
        by_cases same : offset = entry.objectOffset
        · subst same
          rw [Function.update_self] at kept
          obtain rfl := Option.some.inj kept
          exact ⟨object, found, rfl⟩
        · rw [Function.update_of_ne same] at kept
          exact ⟨record, kept, rfl⟩

theorem eraseKey_fewer (cache : ReplicaCache) (age : Age) (key : Nat) :
    Fewer cache (eraseKey config cache age key) := by
  rw [eraseKey]
  split
  · exact .refl cache
  · exact eraseReplica_fewer cache age key _

theorem invalidateBlock_fewer (cache : ReplicaCache) (key : Nat) :
    Fewer cache (invalidateBlock config cache key) :=
  (eraseKey_fewer cache .current key).trans (eraseKey_fewer _ .old key)

theorem evictLoop_fewer (bound : Nat) (cache : ReplicaCache) :
    Fewer cache (evictLoop config bound cache) := by
  induction bound generalizing cache with
  | zero => exact .refl cache
  | succ bound induction =>
      rw [evictLoop]
      split
      · split
        · exact .refl cache
        · rename_i age key entry found
          have noted : Fewer cache
              { cache with evicted := ⟨entry, cache.entries.map Prod.snd⟩ :: cache.evicted } :=
            ⟨fun _ _ member => member, fun _ record kept => ⟨record, kept, rfl⟩⟩
          exact (noted.trans (eraseReplica_fewer _ age key entry)).trans (induction _)
      · exact .refl cache

theorem Holds.enlist (holds : Holds object info content cache) :
    Holds object info content (enlist config cache info) := by
  rw [ReplicaCache.enlist]
  split
  · refine ⟨fun age entry index inside member => ?_, fun record found => ?_⟩
    · simp only [updateReplicaHosts_index] at member
      exact holds.entries age entry index inside member
    · simp only [updateReplicaHosts_cachedObjects] at found
      by_cases same : object.offset = info.gptr.offset
      · rw [same, Function.update_self] at found
        exact congrArg CachedObject.info (Option.some.inj found).symm
      · rw [Function.update_of_ne same] at found
        exact holds.records record found
  · rename_i recorded present
    refine ⟨holds.entries, fun record found => ?_⟩
    simp only at found
    by_cases same : object.offset = info.gptr.offset
    · rw [← same] at present
      rw [same, Function.update_self] at found
      exact (congrArg CachedObject.info (Option.some.inj found).symm).trans
        (holds.records recorded present)
    · rw [Function.update_of_ne same] at found
      exact holds.records record found

theorem Holds.emplace (holds : Holds object info content cache) (place index version : Nat)
    {replica : List UInt8} (bytes : replica = blockStorage info content index version) :
    Holds object info content
      (emplace cache place (blockKey info index) info index version replica) := by
  refine ⟨fun age entry other inside member => ?_, holds.records⟩
  cases age with
  | current =>
      simp only [ReplicaCache.emplace, Function.update_self, List.mem_append, List.mem_cons]
        at member
      rcases member with front | entered | behind
      · exact holds.entries .current entry other inside (List.mem_of_mem_take front)
      · obtain ⟨key, rfl⟩ := Prod.mk.inj entered
        rw [blockKey_injective key]
        exact bytes
      · exact holds.entries .current entry other inside (List.mem_of_mem_drop behind)
  | old => exact holds.entries .old entry other inside member

/-- `CacheReplicaLocked` of the bytes of a block. -/
theorem Holds.cacheReplica (holds : Holds object info content cache) (place index version : Nat)
    {replica : List UInt8} (bytes : replica = blockStorage info content index version) :
    Holds object info content
      (cacheReplica config cache place (blockKey info index) info index version replica) := by
  have cleared : Holds object info content
      (invalidateBlock config (ReplicaCache.enlist config cache info) (blockKey info index)) :=
    holds.enlist.of_fewer (invalidateBlock_fewer _ _)
  have entered := cleared.emplace place index version bytes
  refine Holds.of_fewer ⟨fun age entry other inside member => ?_, fun record found => ?_⟩
    (evictLoop_fewer _ _)
  · rw [storeReplicaVersion_index] at member
    exact entered.entries age entry other inside member
  · rw [storeReplicaVersion_cachedObjects] at found
    exact entered.records record found

theorem refresh_eq (key time : Nat) (item : Nat × ReplicaCache.CachedReplica) :
    (refresh key time item).1 = item.1 ∧ (refresh key time item).2.version = item.2.version ∧
      (refresh key time item).2.storage = item.2.storage := by
  rw [refresh]
  split <;> exact ⟨rfl, rfl, rfl⟩

/-- A read that the current index serves. -/
theorem Holds.touch (holds : Holds object info content cache) (key offset : Nat) :
    Holds object info content (touch cache key offset) := by
  rw [ReplicaCache.touch]
  split
  · exact holds
  · split
    · refine ⟨fun age entry index inside member => ?_, holds.records⟩
      cases age with
      | current =>
          simp only [Function.update_self] at member
          obtain ⟨⟨earlierKey, earlier⟩, present, refreshed⟩ := List.mem_map.mp member
          obtain ⟨keyed, version, storage⟩ :=
            refresh_eq key (cache.replicaAccessClock + 1) (earlierKey, earlier)
          rw [refreshed] at keyed version storage
          simp only at keyed version storage
          rw [version, storage]
          exact holds.entries .current earlier index inside (by rw [keyed]; exact present)
      | old => exact holds.entries .old entry index inside member
    · exact holds

theorem Holds.currentReplica (holds : Holds object info content cache) {index offset : Nat}
    (inside : index < info.coherenceBlockCount) {cached : ReplicaCache.CachedReplica}
    (found : currentReplica cache (blockKey info index) offset = some cached) :
    cached.storage = blockStorage info content index cached.version := by
  rw [ReadRange.currentReplica] at found
  split at found
  · cases found
  · rename_i key entry present
    obtain ⟨-, rfl⟩ := Option.ite_none_right_eq_some.mp found |>.imp_right Option.some.inj
    have keyed : key = blockKey info index := by simpa using List.find?_some present
    exact holds.entries .current entry index inside
      (by rw [← keyed]; exact List.mem_of_find?_eq_some present)

theorem Holds.oldReplica (holds : Holds object info content cache) {index version : Nat}
    (inside : index < info.coherenceBlockCount) {storage : List UInt8}
    (found : oldReplica cache (blockKey info index) version = some storage) :
    storage = blockStorage info content index version := by
  rw [ReadRange.oldReplica] at found
  split at found
  · cases found
  · rename_i key entry present
    obtain ⟨rfl, rfl⟩ := Option.ite_none_right_eq_some.mp found |>.imp_right Option.some.inj
    have keyed : key = blockKey info index := by simpa using List.find?_some present
    exact holds.entries .old entry index inside
      (by rw [← keyed]; exact List.mem_of_find?_eq_some present)

end Cache

/-! ## One block -/

section Block

variable {context : Context} {object : GlobalPointer} {info : AllocationInfo}
  {content : BlockContent} {range : Range} {state next : State} {index : Nat}

theorem admitReference_eq (shows : context.Shows object info content) (known : state.info = info)
    (admitted : admitReference context state = .ok next) :
    next.info = info ∧ next.cache = state.cache ∧ next.assembled = state.assembled ∧
      next.singleBlockReplica = state.singleBlockReplica ∧ next.versions = state.versions := by
  rw [admitReference] at admitted
  split at admitted
  · obtain rfl := Except.ok.inj admitted
    exact ⟨known, rfl, rfl, rfl, rfl⟩
  · split at admitted
    · cases admitted
    · rename_i descriptor found
      split at admitted
      · cases admitted
      · obtain rfl := Except.ok.inj admitted
        exact ⟨shows.reference descriptor found, rfl, rfl, rfl, rfl⟩

theorem stableRead_eq (shows : context.Shows object info content) {cache : ReplicaCache}
    (holds : Holds object info content cache) (inside : index < info.coherenceBlockCount)
    {attempts version : Nat} {replica : List UInt8}
    (found : stableRead context.region cache (blockKey info index)
      (object.offset + index * info.coherenceBlockBytes) (blockLength info index) attempts =
        some (replica, version)) :
    replica = blockStorage info content index version := by
  induction attempts with
  | zero => cases found
  | succ attempts induction =>
      simp only [stableRead] at found
      split at found
      · exact induction found
      · split at found
        · exact induction found
        · obtain ⟨bytes, rfl⟩ := Prod.mk.inj (Option.some.inj found)
          rw [← bytes]
          split
          · rename_i storage old
            exact holds.oldReplica inside old
          · refine List.map_congr_left fun position member => ?_
            exact shows.shared index inside position (List.mem_range.mp member)

/-- The bytes of a range that lie in the blocks before an index are assembled. -/
structure Assembled (object : GlobalPointer) (info : AllocationInfo) (content : BlockContent)
    (range : Range) (index : Nat) (state : State) : Prop where
  known : state.info = info
  holds : Holds object info content state.cache
  versions : state.versions.length = index - range.firstBlock
  /-- The copied range has its final size. -/
  length : state.assembled.length = range.bytes
  /-- The bytes of the blocks so far are contents at the versions of these blocks. -/
  bytes : ∀ position < range.bytes,
    (range.offset + position) / info.coherenceBlockBytes < index →
      ∃ version,
        state.versions[(range.offset + position) / info.coherenceBlockBytes -
          range.firstBlock]? = some version ∧
        state.assembled[position]? =
          some (content ((range.offset + position) / info.coherenceBlockBytes) version
            ((range.offset + position) % info.coherenceBlockBytes))
  /-- A replica that is the whole result equals the copied range. -/
  single : ∀ replica, state.singleBlockReplica = some replica →
    range.firstBlock < index ∧ range.firstBlock = range.lastBlock ∧ replica = state.assembled

/-- A range inside an object. -/
structure Range.Within (range : Range) (info : AllocationInfo) : Prop where
  bytes_pos : 0 < range.bytes
  /-- It ends in the object. -/
  inside : range.offset + range.bytes ≤ info.bytes
  first : range.firstBlock = range.offset / info.coherenceBlockBytes
  last : range.lastBlock = (range.offset + range.bytes - 1) / info.coherenceBlockBytes

theorem Range.Within.index_lt (within : range.Within info) (shaped : Shaped info)
    (high : index ≤ range.lastBlock) : index < info.coherenceBlockCount := by
  have reached := (Nat.le_div_iff_mul_le shaped.coherenceBlockBytes_pos).mp (within.last ▸ high)
  have nonempty := within.bytes_pos
  have ends := within.inside
  have covered := shaped.covered
  have below : index * info.coherenceBlockBytes <
      info.coherenceBlockCount * info.coherenceBlockBytes := by
    omega
  exact Nat.lt_of_mul_lt_mul_right below

/-- The part of a block inside a range. -/
structure Overlap (offset bytes blockStart blockBytes copyBegin copyEnd : Nat) : Prop where
  offset_le : offset ≤ copyBegin
  start_le : blockStart ≤ copyBegin
  order : copyBegin ≤ copyEnd
  le_range : copyEnd ≤ offset + bytes
  le_block : copyEnd ≤ blockStart + blockBytes
  /-- Nothing is missing. -/
  complete : ∀ byte, offset ≤ byte → byte < offset + bytes → blockStart ≤ byte →
    byte < blockStart + blockBytes → copyBegin ≤ byte ∧ byte < copyEnd

theorem overlap {offset bytes blockStart blockBytes : Nat}
    (startsBefore : blockStart < offset + bytes)
    (endsBehind : offset < blockStart + blockBytes) :
    Overlap offset bytes blockStart blockBytes (max offset blockStart)
      (min (offset + bytes) (blockStart + blockBytes)) where
  offset_le := le_max_left _ _
  start_le := le_max_right _ _
  order := max_le (le_min (Nat.le_add_right _ _) endsBehind.le)
    (le_min startsBefore.le (Nat.le_add_right _ _))
  le_range := min_le_left _ _
  le_block := min_le_right _ _
  complete _ low high above below := ⟨max_le low above, lt_min high below⟩

/-- Copying a block adds its part of the range. -/
theorem Assembled.copyBlock (assembled : Assembled object info content range index state)
    (shaped : Shaped info) (within : range.Within info) (low : range.firstBlock ≤ index)
    (high : index ≤ range.lastBlock) {version : Nat} {replica : List UInt8}
    (stored : replica = blockStorage info content index version) :
    Assembled object info content range (index + 1)
      (copyBlock range index replica version state) := by
  have positive := shaped.coherenceBlockBytes_pos
  have known := assembled.known
  have size := assembled.length
  have replicaLength : replica.length = blockLength info index := by
    rw [stored, length_blockStorage]
  -- the block meets the range
  have startsBefore : index * info.coherenceBlockBytes < range.offset + range.bytes := by
    have bound := (Nat.le_div_iff_mul_le positive).mp (within.last ▸ high)
    have nonempty := within.bytes_pos
    omega
  have endsBehind : range.offset < (index + 1) * info.coherenceBlockBytes :=
    (Nat.div_lt_iff_lt_mul positive).mp (by have first := within.first; omega)
  rw [Nat.succ_mul] at endsBehind
  have inside := within.inside
  have nonempty := within.bytes_pos
  have meets : range.offset < index * info.coherenceBlockBytes + blockLength info index := by
    rw [blockLength, ← Nat.add_min_add_left]
    exact lt_min endsBehind (by omega)
  obtain ⟨offset_le, start_le, order, le_range, le_block, complete⟩ := overlap startsBefore meets
  have copied : (ReadRange.copyBlock range index replica version state).assembled =
      overwrite (max range.offset (index * info.coherenceBlockBytes) - range.offset)
        (slice (max range.offset (index * info.coherenceBlockBytes) -
            index * info.coherenceBlockBytes)
          (min (range.offset + range.bytes)
              (index * info.coherenceBlockBytes + blockLength info index) -
            max range.offset (index * info.coherenceBlockBytes)) replica) state.assembled := by
    simp only [ReadRange.copyBlock, known]
    rfl
  generalize max range.offset (index * info.coherenceBlockBytes) = copyBegin at *
  generalize min (range.offset + range.bytes)
    (index * info.coherenceBlockBytes + blockLength info index) = copyEnd at *
  have pieceLength : (slice (copyBegin - index * info.coherenceBlockBytes) (copyEnd - copyBegin)
      replica).length = copyEnd - copyBegin := length_slice (by omega)
  have fits : copyBegin - range.offset + (slice (copyBegin - index * info.coherenceBlockBytes)
      (copyEnd - copyBegin) replica).length ≤ state.assembled.length := by
    rw [pieceLength, size]
    omega
  refine ⟨known, assembled.holds, ?_, ?_, ?_, ?_⟩
  · simp only [ReadRange.copyBlock, List.length_append, List.length_singleton, assembled.versions]
    omega
  · rw [copied, length_overwrite fits, size]
  · intro position bound earlier
    have whole := Nat.div_add_mod (range.offset + position) info.coherenceBlockBytes
    have rest := Nat.mod_lt (range.offset + position) positive
    rw [copied, getElem?_overwrite fits, pieceLength]
    rcases Nat.lt_succ_iff_lt_or_eq.mp earlier with before | same
    · obtain ⟨seen, reported, byte⟩ := assembled.bytes position bound before
      have belowStart : range.offset + position < index * info.coherenceBlockBytes :=
        (Nat.div_lt_iff_lt_mul positive).mp before
      refine ⟨seen, ?_, ?_⟩
      · simp only [ReadRange.copyBlock]
        rw [List.getElem?_append_left (List.getElem?_eq_some_iff.mp reported).1]
        exact reported
      · rw [if_pos (by omega)]
        exact byte
    · rw [same] at whole ⊢
      have placed : range.offset + position = index * info.coherenceBlockBytes +
          (range.offset + position) % info.coherenceBlockBytes := by
        rw [Nat.mul_comm]
        exact whole.symm
      have short : (range.offset + position) % info.coherenceBlockBytes < blockLength info index :=
        lt_min rest (by omega)
      obtain ⟨begun, ended⟩ := complete (range.offset + position) (Nat.le_add_right _ _)
        (by omega) (by omega) (by omega)
      refine ⟨version, ?_, ?_⟩
      · simp only [ReadRange.copyBlock]
        rw [← assembled.versions, List.getElem?_concat_length]
      · rw [if_neg (by omega), if_pos (by omega), getElem?_slice, if_pos (by omega), stored]
        have target : copyBegin - index * info.coherenceBlockBytes +
            (position - (copyBegin - range.offset)) =
              (range.offset + position) % info.coherenceBlockBytes := by
          omega
        rw [target, getElem?_blockStorage short]
  · intro whole single
    simp only [ReadRange.copyBlock, known] at single
    split at single
    · rename_i entire
      obtain ⟨only, atStart, full⟩ := entire
      change range.bytes = blockLength info index at full
      obtain rfl := Option.some.inj single
      refine ⟨Nat.lt_succ_of_le low, only, ?_⟩
      have first := complete range.offset le_rfl (by omega) (by omega) (by omega)
      have last := complete (range.offset + range.bytes - 1) (by omega) (by omega) (by omega)
        (by omega)
      have nothing : copyBegin - range.offset = 0 := by omega
      have begin : copyBegin - index * info.coherenceBlockBytes = 0 := by omega
      have width : copyEnd - copyBegin = replica.length := by omega
      have entirely : slice 0 replica.length replica = replica := by
        rw [slice, List.drop_zero, List.take_length]
      rw [copied, nothing, begin, width, entirely, overwrite_all (by omega)]
    · obtain ⟨seen, only, -⟩ := assembled.single whole single
      omega

/-- One iteration adds a block. -/
theorem Assembled.readBlock (assembled : Assembled object info content range index state)
    (shows : context.Shows object info content) (shaped : Shaped info)
    (within : range.Within info) (same : range.object = object) (low : range.firstBlock ≤ index)
    (high : index ≤ range.lastBlock) (read : readBlock context range index state = .ok next) :
    Assembled object info content range (index + 1) next := by
  have known := assembled.known
  simp only [ReadRange.readBlock] at read
  split at read
  · rename_i cached found
    obtain rfl := Except.ok.inj read
    rw [known] at found
    have stored := assembled.holds.currentReplica (within.index_lt shaped high) found
    have touched : Assembled object info content range index
        { state with cache := touch state.cache (blockKey state.info index) range.object.offset } :=
      ⟨known, assembled.holds.touch _ _, assembled.versions, assembled.length, assembled.bytes,
        assembled.single⟩
    exact touched.copyBlock shaped within low high stored
  · split at read
    · cases read
    · rename_i admitted taken
      obtain ⟨shape, cacheSame, assembledSame, singleSame, versionsSame⟩ :=
        admitReference_eq shows known taken
      split at read
      · cases read
      · rename_i present
        split at read
        · cases read
        · rename_i replica version stable
          obtain rfl := Except.ok.inj read
          rw [known, same] at stable
          rw [shape, Nat.not_le] at present
          have stored := stableRead_eq shows assembled.holds present stable
          have cachedNow : Assembled object info content range index
              { admitted with
                cache := cacheReplica context.config state.cache (context.place index)
                  (blockKey state.info index) admitted.info index version replica } := by
            refine ⟨shape, ?_, ?_, ?_, ?_, ?_⟩
            · rw [known, shape]
              exact assembled.holds.cacheReplica _ index version stored
            · rw [versionsSame]
              exact assembled.versions
            · rw [assembledSame]
              exact assembled.length
            · rw [assembledSame, versionsSame]
              exact assembled.bytes
            · rw [assembledSame, singleSame]
              exact assembled.single
          exact cachedNow.copyBlock shaped within low high stored

theorem Assembled.readBlocks (shows : context.Shows object info content) (shaped : Shaped info)
    (within : range.Within info) (same : range.object = object) {count : Nat}
    (assembled : Assembled object info content range index state)
    (low : range.firstBlock ≤ index) (high : index + count ≤ range.lastBlock + 1)
    (read : readBlocks context range count index state = .ok next) :
    Assembled object info content range (index + count) next := by
  induction count generalizing index state with
  | zero =>
      obtain rfl := Except.ok.inj read
      exact assembled
  | succ count induction =>
      simp only [ReadRange.readBlocks] at read
      split at read
      · cases read
      · rename_i middle one
        have grown := assembled.readBlock shows shaped within same low (by omega) one
        have finished := induction grown (by omega) (by omega) read
        rwa [Nat.add_right_comm] at finished

end Block

/-! ## Whole calls -/

section Call

variable {context : Context} {object : GlobalPointer} {info : AllocationInfo}
  {content : BlockContent} {cache : ReplicaCache} {state next : State} {offset bytes : Nat}

/-- The range of an accepted call. -/
def requestedRange (object : GlobalPointer) (info : AllocationInfo) (offset bytes : Nat) : Range :=
  ⟨object, offset, bytes, offset / info.coherenceBlockBytes,
    (offset + bytes - 1) / info.coherenceBlockBytes⟩

/-- Whether a range is accepted. -/
structure Accepts (info : AllocationInfo) (offset bytes : Nat) : Prop where
  /-- The range is not empty. -/
  bytes_pos : 0 < bytes
  /-- It ends in the object. -/
  inside : offset + bytes ≤ info.bytes

theorem Accepts.within (accepts : Accepts info offset bytes) :
    (requestedRange object info offset bytes).Within info :=
  ⟨accepts.bytes_pos, accepts.inside, rfl, rfl⟩

theorem Accepts.ordered (accepts : Accepts info offset bytes) :
    (requestedRange object info offset bytes).firstBlock ≤
      (requestedRange object info offset bytes).lastBlock :=
  Nat.div_le_div_right (by have nonempty := accepts.bytes_pos; omega)

theorem Accepts.count (accepts : Accepts info offset bytes) :
    (requestedRange object info offset bytes).firstBlock +
        ((requestedRange object info offset bytes).lastBlock -
          (requestedRange object info offset bytes).firstBlock + 1) =
      (requestedRange object info offset bytes).lastBlock + 1 := by
  have ordered : (requestedRange object info offset bytes).firstBlock ≤
      (requestedRange object info offset bytes).lastBlock := accepts.ordered
  omega

theorem rejected_iff : (bytes = 0 ∨ info.bytes < offset ∨ info.bytes - offset < bytes) ↔
    ¬Accepts info offset bytes := by
  rw [iff_not_comm, not_or, not_or, Nat.not_lt, Nat.not_lt]
  constructor
  · rintro ⟨nonempty, inside⟩
    omega
  · rintro ⟨nonempty, begins, ends⟩
    exact ⟨Nat.pos_of_ne_zero nonempty, by omega⟩

theorem recordedInfo_eq (holds : Holds object info content cache)
    (known : (recordedInfo cache object).bytes ≠ 0) : recordedInfo cache object = info := by
  rw [recordedInfo] at known ⊢
  split at known
  · exact (known rfl).elim
  · rename_i record found
    exact holds.records record found

/-- What a call has before its range check. -/
theorem findInfo_eq (shows : context.Shows object info content)
    (holds : Holds object info content cache)
    (started : findInfo context cache object = .ok state) :
    ∃ admitted, state = ⟨cache, info, admitted, [], none, []⟩ := by
  simp only [findInfo] at started
  split at started
  · rename_i unknown
    simp only [admitReference, Bool.false_eq_true, if_false] at started
    split at started
    · cases started
    · rename_i descriptor found
      rw [if_neg fun changed => changed.1 unknown] at started
      obtain rfl := Except.ok.inj started
      exact ⟨true, by rw [shows.reference descriptor found]⟩
  · rename_i known
    obtain rfl := Except.ok.inj started
    exact ⟨false, by rw [recordedInfo_eq holds known]⟩

/-- Before the loop nothing is assembled. -/
theorem assembled_start (holds : Holds object info content cache) (offset bytes : Nat)
    (admitted : Bool) :
    Assembled object info content (requestedRange object info offset bytes)
      (requestedRange object info offset bytes).firstBlock
      ⟨cache, info, admitted, List.replicate bytes 0, none, []⟩ := by
  refine ⟨rfl, holds, ?_, List.length_replicate, ?_, ?_⟩
  · rw [Nat.sub_self]
    rfl
  · intro position bound before
    have later : offset / info.coherenceBlockBytes ≤
        (offset + position) / info.coherenceBlockBytes :=
      Nat.div_le_div_right (Nat.le_add_right _ _)
    exact (Nat.not_lt.mpr later before).elim
  · intro replica single
    cases single

/-- A loop that ends assembles the range. -/
theorem assembleRange_assembled (shows : context.Shows object info content) (shaped : Shaped info)
    (holds : Holds object info content cache) {admitted : Bool}
    (ran : assembleRange context object offset bytes ⟨cache, info, admitted, [], none, []⟩ =
      .ok state) :
    Accepts info offset bytes ∧
      Assembled object info content (requestedRange object info offset bytes)
        ((requestedRange object info offset bytes).lastBlock + 1) state := by
  simp only [assembleRange] at ran
  split at ran
  · cases ran
  · rename_i accepted
    have accepts : Accepts info offset bytes := not_not.mp (mt rejected_iff.mpr accepted)
    have finished := Assembled.readBlocks shows shaped accepts.within rfl
      (assembled_start holds offset bytes admitted) (Nat.le_refl _) (Nat.le_of_eq accepts.count) ran
    rw [accepts.count] at finished
    exact ⟨accepts, finished⟩

theorem assemble_assembled (shows : context.Shows object info content) (shaped : Shaped info)
    (holds : Holds object info content cache) {timeoutMs : Nat} {fullObject : Bool}
    (ran : assemble context cache object offset bytes timeoutMs fullObject = .ok state) :
    Accepts info offset (requestedBytes info bytes fullObject) ∧
      Assembled object info content
        (requestedRange object info offset (requestedBytes info bytes fullObject))
        ((requestedRange object info offset (requestedBytes info bytes fullObject)).lastBlock + 1)
        state := by
  rw [assemble] at ran
  split at ran
  · cases ran
  · split at ran
    · cases ran
    · split at ran
      · cases ran
      · rename_i start started
        obtain ⟨admitted, rfl⟩ := findInfo_eq shows holds started
        exact assembleRange_assembled shows shaped holds ran

theorem Assembled.slices (accepts : Accepts info offset bytes)
    (assembled : Assembled object info content (requestedRange object info offset bytes)
      ((requestedRange object info offset bytes).lastBlock + 1) state) :
    Snapshot.Slices
      ⟨object, offset, state.versions, state.assembled⟩ info content offset bytes where
  length := assembled.length
  versions := by
    have count := assembled.versions
    have ordered : (requestedRange object info offset bytes).firstBlock ≤
        (requestedRange object info offset bytes).lastBlock := accepts.ordered
    simp only [requestedRange] at count ordered ⊢
    omega
  bytes position bound := by
    refine assembled.bytes position bound (Nat.lt_succ_of_le (Nat.div_le_div_right ?_))
    change offset + position ≤ offset + bytes - 1
    omega

/-- The replica of a single block is the copied range. -/
theorem Assembled.storage_eq {range : Range} {index : Nat}
    (assembled : Assembled object info content range index state) :
    state.storage = state.assembled := by
  rw [State.storage]
  split
  · rfl
  · rename_i replica single
    exact (assembled.single replica single).2.2

/-! ## Calls that return -/

/-- The object is live, the call does not run into its deadline, and no block of its range is being
written. -/
structure Context.Undisturbed (context : Context) (info : AllocationInfo) (offset bytes : Nat) :
    Prop where
  initialized : context.initialized = true
  /-- The object is live. -/
  reference : context.reference = .ok info
  /-- The loop over a block of the range finds the deadline ahead. -/
  timely : ∀ index, offset / info.coherenceBlockBytes ≤ index →
    index ≤ (offset + bytes - 1) / info.coherenceBlockBytes → 0 < context.attempts index
  /-- No block of the range is being written. -/
  even : ∀ index, offset / info.coherenceBlockBytes ≤ index →
    index ≤ (offset + bytes - 1) / info.coherenceBlockBytes →
      (context.region.blocks (blockKey info index)).writebackEpoch % 2 = 0

theorem admitReference_isOk (reference : context.reference = .ok info)
    (known : state.info = info ∨ state.info.bytes = 0) :
    ∃ admitted, admitReference context state = .ok admitted := by
  rw [admitReference]
  split
  · exact ⟨_, rfl⟩
  · rw [reference]
    rcases known with same | unknown
    · simp [same]
    · simp [unknown]

theorem stableRead_isSome {region : SharedRegion} (cache : ReplicaCache) {cacheKey : Nat}
    (address blockBytes : Nat) {attempts : Nat} (timely : 0 < attempts)
    (even : (region.blocks cacheKey).writebackEpoch % 2 = 0) :
    ∃ stable, stableRead region cache cacheKey address blockBytes attempts = some stable := by
  cases attempts with
  | zero => exact (Nat.lt_irrefl 0 timely).elim
  | succ attempts => simp [stableRead, even]

theorem readBlock_isOk (range : Range) {index : Nat} (shows : context.Shows object info content)
    (reference : context.reference = .ok info) (known : state.info = info)
    (inside : index < info.coherenceBlockCount) (timely : 0 < context.attempts index)
    (even : (context.region.blocks (blockKey info index)).writebackEpoch % 2 = 0) :
    ∃ next, readBlock context range index state = .ok next := by
  simp only [readBlock]
  split
  · exact ⟨_, rfl⟩
  · obtain ⟨admitted, taken⟩ := admitReference_isOk reference (.inl known)
    have shape := (admitReference_eq shows known taken).1
    obtain ⟨stable, found⟩ := stableRead_isSome state.cache
      (range.object.offset + index * info.coherenceBlockBytes) (blockLength info index) timely even
    rw [blockLength] at found
    rw [taken]
    simp only [shape, known, found, if_neg (Nat.not_le.mpr inside)]
    exact ⟨_, rfl⟩

theorem readBlocks_isOk {range : Range} (shows : context.Shows object info content)
    (shaped : Shaped info) (within : range.Within info) (same : range.object = object)
    (undisturbed : context.Undisturbed info range.offset range.bytes) {count index : Nat}
    (assembled : Assembled object info content range index state)
    (low : range.firstBlock ≤ index) (high : index + count ≤ range.lastBlock + 1) :
    ∃ next, readBlocks context range count index state = .ok next := by
  induction count generalizing index state with
  | zero => exact ⟨state, rfl⟩
  | succ count induction =>
      have notAfter : index ≤ range.lastBlock := by omega
      have inside := within.index_lt shaped notAfter
      obtain ⟨middle, one⟩ := readBlock_isOk range shows undisturbed.reference assembled.known
        inside (undisturbed.timely index (within.first ▸ low) (within.last ▸ notAfter))
        (undisturbed.even index (within.first ▸ low) (within.last ▸ notAfter))
      have grown := assembled.readBlock shows shaped within same low notAfter one
      obtain ⟨next, rest⟩ := induction grown (by omega) (by omega)
      exact ⟨next, by rw [ReadRange.readBlocks, one]; exact rest⟩

theorem assemble_isOk (shows : context.Shows object info content) (shaped : Shaped info)
    (holds : Holds object info content cache) {timeoutMs : Nat} {fullObject : Bool}
    (timed : timeoutMs ≠ 0) (region : object.regionId = 0)
    (accepts : Accepts info offset (requestedBytes info bytes fullObject))
    (undisturbed : context.Undisturbed info offset (requestedBytes info bytes fullObject)) :
    ∃ state, assemble context cache object offset bytes timeoutMs fullObject = .ok state := by
  obtain ⟨start, started⟩ : ∃ start, findInfo context cache object = .ok start := by
    simp only [findInfo]
    split
    · rename_i unknown
      exact admitReference_isOk undisturbed.reference (.inr unknown)
    · exact ⟨_, rfl⟩
  obtain ⟨admitted, rfl⟩ := findInfo_eq shows holds started
  obtain ⟨state, ran⟩ := readBlocks_isOk shows shaped accepts.within rfl undisturbed
    (assembled_start holds offset (requestedBytes info bytes fullObject) admitted)
    (Nat.le_refl _) (Nat.le_of_eq accepts.count)
  refine ⟨state, ?_⟩
  rw [assemble,
    if_neg (by simp [undisturbed.initialized, timed]), if_neg (by simp [region]), started]
  simp only [assembleRange]
  rw [if_neg fun rejected => rejected_iff.mp rejected accepts]
  exact ran

theorem slices_of_readRange (shows : context.Shows object info content) (shaped : Shaped info)
    (holds : Holds object info content cache) {timeoutMs : Nat} {fullObject : Bool}
    {snapshot : Snapshot}
    (returned : (readRange context cache object offset bytes timeoutMs fullObject).1 =
      .ok snapshot) :
    snapshot.Slices info content offset (requestedBytes info bytes fullObject) := by
  rw [readRange] at returned
  split at returned
  · cases returned
  · rename_i state ran
    obtain rfl := Except.ok.inj returned
    obtain ⟨accepts, assembled⟩ := assemble_assembled shows shaped holds ran
    rw [assembled.storage_eq]
    exact assembled.slices accepts

/-- `ReadRange` returns the slice of the blocks' contents at the versions that it reports, whichever
blocks it finds in its indexes; the replica of a single block is the copied range; and a call that
is not disturbed does return. -/
theorem readRange_slices (shows : context.Shows object info content) (shaped : Shaped info)
    (holds : Holds object info content cache) (offset bytes timeoutMs : Nat) (fullObject : Bool) :
    (∀ snapshot, (readRange context cache object offset bytes timeoutMs fullObject).1 =
        .ok snapshot →
      snapshot.Slices info content offset (requestedBytes info bytes fullObject)) ∧
    (∀ state, assemble context cache object offset bytes timeoutMs fullObject = .ok state →
      state.storage = state.assembled) ∧
    (timeoutMs ≠ 0 → object.regionId = 0 →
      Accepts info offset (requestedBytes info bytes fullObject) →
      context.Undisturbed info offset (requestedBytes info bytes fullObject) →
      ∃ snapshot, (readRange context cache object offset bytes timeoutMs fullObject).1 =
        .ok snapshot) := by
  refine ⟨fun snapshot returned => slices_of_readRange shows shaped holds returned,
    fun state ran => ?_, fun timed region accepts quiet => ?_⟩
  · exact (assemble_assembled shows shaped holds ran).2.storage_eq
  · obtain ⟨state, ran⟩ := assemble_isOk shows shaped holds timed region accepts quiet
    exact ⟨_, by rw [readRange, ran]⟩

end Call

/-! ## Three blocks from three places -/

/-- An object of three blocks, the last of which is short. -/
def mixedInfo : AllocationInfo := ⟨⟨0, 8832⟩, 160, 64, 0, 64, 3, 128⟩

/-- Bytes that tell their block, version and position. -/
def mixedContent : BlockContent := fun index version position =>
  UInt8.ofNat (index * 64 + version * 16 + position)

/-- The blocks have versions four, five and six. -/
def mixedContext : Context where
  config := smallConfig
  initialized := true
  region :=
    { bytes := fun address =>
        mixedContent ((address - 8832) / 64) ((address - 8832) / 64 + 4) ((address - 8832) % 64)
      blocks := fun address => ⟨(address - 128) / 576 + 4, 0⟩ }
  reference := .ok mixedInfo
  attempts := fun _ => 1
  place := fun _ => 0

/-- The first block is in the current index at an earlier version, the second one in the old
index. -/
def mixedCache : ReplicaCache :=
  { ReplicaCache.initial with
    index := fun age =>
      match age with
      | .current => [(128, ⟨8832, 0, 2, blockStorage mixedInfo mixedContent 0 2, 2⟩)]
      | .old => [(704, ⟨8832, 1, 5, blockStorage mixedInfo mixedContent 1 5, 1⟩)]
    cachedObjects := fun offset => if offset = 8832 then some ⟨mixedInfo, 2⟩ else none }

theorem mixed_shaped : Shaped mixedInfo := ⟨by decide, by decide⟩

theorem mixed_shows : mixedContext.Shows ⟨0, 8832⟩ mixedInfo mixedContent where
  reference descriptor found := (Except.ok.inj found).symm
  shared index _ position inside := by
    have short : position < 64 := Nat.lt_of_lt_of_le inside (Nat.min_le_left _ _)
    have block : (8832 + index * 64 + position - 8832) / 64 = index := by omega
    have rest : (8832 + index * 64 + position - 8832) % 64 = position := by omega
    have version : (128 + index * 576 - 128) / 576 = index := by omega
    change mixedContent ((8832 + index * 64 + position - 8832) / 64)
      ((8832 + index * 64 + position - 8832) / 64 + 4)
      ((8832 + index * 64 + position - 8832) % 64) =
        mixedContent index ((128 + index * 576 - 128) / 576 + 4) position
    rw [block, rest, version]

theorem mixed_holds : Holds ⟨0, 8832⟩ mixedInfo mixedContent mixedCache where
  entries age entry index _ member := by
    cases age with
    | current =>
        obtain ⟨key, rfl⟩ := Prod.mk.inj (List.mem_singleton.mp member)
        have same : blockKey mixedInfo index = blockKey mixedInfo 0 := key
        obtain rfl := blockKey_injective same
        rfl
    | old =>
        obtain ⟨key, rfl⟩ := Prod.mk.inj (List.mem_singleton.mp member)
        have same : blockKey mixedInfo index = blockKey mixedInfo 1 := key
        obtain rfl := blockKey_injective same
        rfl
  records record found := by
    obtain rfl := Option.some.inj found
    rfl

theorem readRange_slices_mixed :
    ∃ snapshot, (readRange mixedContext mixedCache ⟨0, 8832⟩ 10 140 25 false).1 = .ok snapshot ∧
      snapshot.Slices mixedInfo mixedContent 10 140 := by
  obtain ⟨slices, -, returns⟩ :=
    readRange_slices mixed_shows mixed_shaped mixed_holds 10 140 25 false
  obtain ⟨snapshot, returned⟩ := returns (by decide) rfl ⟨by decide, by decide⟩
    ⟨rfl, rfl, fun _ _ _ => Nat.one_pos, fun _ _ _ => rfl⟩
  exact ⟨snapshot, returned, slices snapshot returned⟩

end ReadRange
end Cxloom.LoomMem
