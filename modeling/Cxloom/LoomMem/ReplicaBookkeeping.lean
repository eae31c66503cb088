import Cxloom.LoomMem.ReplicaCache
import Mathlib.Algebra.Order.BigOperators.Group.List
import Mathlib.Algebra.Order.Group.Nat

/-!
# Exact bookkeeping of replicas

The redundant structures of the replica cache agree with the entries of the two indexes.  A fill
counts its block before it erases the entry that the block replaces; until then an object may have
one block more than it has entries.
-/

namespace Cxloom.LoomMem.ReplicaCache

variable {config : Config} {cache : ReplicaCache}

/-- The shape of a published object. -/
def infoOf (cache : ReplicaCache) (offset : Nat) : Option AllocationInfo :=
  (cache.objects offset).map SharedObject.info

/-- Whether the descriptor of an object names the host as a holder. -/
def holds (config : Config) (cache : ReplicaCache) (offset : Nat) : Bool :=
  match cache.objects offset with
  | none => false
  | some shared => shared.replicaHosts.contains config.localHost.val

def blocksOf (entries : List (Nat × CachedReplica)) (offset : Nat) : Nat :=
  entries.countP fun item => item.2.objectOffset = offset

def bytesOf (entries : List (Nat × CachedReplica)) : Nat :=
  (entries.map fun item => item.2.storage.length).sum

/-- An eviction took an entry with the earliest last use. -/
structure Eviction.Earliest (eviction : Eviction) : Prop where
  member : eviction.victim ∈ eviction.present
  earliest : ∀ other ∈ eviction.present, eviction.victim.lastAccess ≤ other.lastAccess

/-- The structures of a cache agree with a list of entries and with blocks that are counted and not
yet entered. -/
structure Balanced (config : Config) (cache : ReplicaCache) (entries : List (Nat × CachedReplica))
    (extra : Nat → Nat) : Prop where
  /-- No key occurs twice. -/
  nodup : (entries.map Prod.fst).Nodup
  placed : ∀ item ∈ entries, ∃ info, cache.infoOf item.2.objectOffset = some info ∧
    item.2.blockIndex < info.coherenceBlockCount ∧ item.1 = blockKey info item.2.blockIndex
  /-- Exactly the objects with blocks have a record. -/
  present : ∀ offset, (cache.cachedObjects offset).isSome = true ↔
    0 < blocksOf entries offset + extra offset
  blocks : ∀ offset object, cache.cachedObjects offset = some object →
    object.blocks = (blocksOf entries offset + extra offset : Nat)
  /-- A record is of a published object and has its shape. -/
  described : ∀ offset object, cache.cachedObjects offset = some object →
    cache.infoOf offset = some object.info
  bytes : cache.cachedReplicaBytes = (bytesOf entries : Nat)
  holders : ∀ offset, holds config cache offset = (cache.cachedObjects offset).isSome
  cached : ∀ item ∈ entries, cache.replicaVersions item.1 = add64 item.2.version 1
  /-- The version word of other blocks. -/
  uncached : ∀ offset info, cache.infoOf offset = some info →
    ∀ blockIndex < info.coherenceBlockCount,
      blockKey info blockIndex ∉ entries.map Prod.fst →
      cache.replicaVersions (blockKey info blockIndex) = 0
  /-- Published objects are known by their address. -/
  gptr : ∀ offset info, cache.infoOf offset = some info → info.gptr = ⟨0, offset⟩
  /-- Published objects have sidecars of their own. -/
  apart : ∀ first second info other, cache.infoOf first = some info →
    cache.infoOf second = some other → first ≠ second →
    ∀ address, Sidecar info address → ¬Sidecar other address
  /-- No record was missing. -/
  sound : cache.faulted = false
  evictions : ∀ eviction ∈ cache.evicted, eviction.Earliest

theorem blockKey_injective {info : AllocationInfo} {first second : Nat}
    (same : blockKey info first = blockKey info second) : first = second := by
  simp only [blockKey, sizeofCoherenceBlockDescriptor] at same
  omega

/-! ## Shared descriptors -/

theorem updateReplicaHosts_infoOf (cache : ReplicaCache) (offset : Nat)
    (change : HostMask → HostMask) (other : Nat) :
    (cache.updateReplicaHosts offset change).infoOf other = cache.infoOf other := by
  rw [updateReplicaHosts]
  cases found : cache.objects offset with
  | none => rfl
  | some shared =>
      simp only [infoOf]
      by_cases same : other = offset
      · subst same
        rw [Function.update_self, found]
        rfl
      · rw [Function.update_of_ne same]

theorem holds_updateReplicaHosts {offset : Nat} {info : AllocationInfo}
    (published : cache.infoOf offset = some info) (change : HostMask → HostMask) (other : Nat) :
    holds config (cache.updateReplicaHosts offset change) other =
      if other = offset then
        match cache.objects offset with
        | none => false
        | some shared => (change shared.replicaHosts).contains config.localHost.val
      else holds config cache other := by
  rw [updateReplicaHosts]
  cases found : cache.objects offset with
  | none =>
      rw [infoOf, found] at published
      cases published
  | some shared =>
      simp only [holds]
      by_cases same : other = offset
      · subst same
        rw [Function.update_self, if_pos rfl]
      · rw [Function.update_of_ne same, if_neg same]

theorem updateReplicaHosts_of_infoOf {offset : Nat} {info : AllocationInfo}
    (published : cache.infoOf offset = some info) (change : HostMask → HostMask) :
    ∃ objects, cache.updateReplicaHosts offset change = { cache with objects := objects } := by
  rw [updateReplicaHosts]
  cases found : cache.objects offset with
  | none =>
      rw [infoOf, found] at published
      cases published
  | some shared => exact ⟨_, rfl⟩

/-- The block descriptor of a published object. -/
theorem mutableCoherenceBlock_eq {offset blockIndex : Nat} {info : AllocationInfo}
    (published : cache.infoOf offset = some info) (gptr : info.gptr = ⟨0, offset⟩)
    (inside : blockIndex < info.coherenceBlockCount) :
    cache.mutableCoherenceBlock info.gptr blockIndex = some (blockKey info blockIndex) := by
  simp only [infoOf, Option.map_eq_some_iff] at published
  obtain ⟨shared, found, rfl⟩ := published
  rw [mutableCoherenceBlock, gptr, found]
  exact if_pos ⟨rfl, inside⟩

/-! ## Erasing an entry -/

section Erase

variable {rest : List (Nat × CachedReplica)} {extra : Nat → Nat} {key : Nat}
  {entry : CachedReplica}

theorem Balanced.perm {items other : List (Nat × CachedReplica)}
    (balanced : Balanced config cache items extra) (same : items.Perm other) :
    Balanced config cache other extra := by
  have counts : ∀ offset, blocksOf items offset = blocksOf other offset :=
    fun offset => same.countP_eq _
  have bytes : bytesOf items = bytesOf other := (same.map _).sum_eq
  have keys : ∀ address, address ∈ items.map Prod.fst ↔ address ∈ other.map Prod.fst :=
    fun address => (same.map _).mem_iff
  refine ⟨(same.map _).nodup_iff.mp balanced.nodup, ?_, ?_, ?_, balanced.described, ?_,
    balanced.holders, ?_, ?_, balanced.gptr, balanced.apart, balanced.sound, balanced.evictions⟩
  · exact fun item member => balanced.placed item (same.mem_iff.mpr member)
  · simpa only [← counts] using balanced.present
  · simpa only [← counts] using balanced.blocks
  · rw [← bytes]
    exact balanced.bytes
  · exact fun item member => balanced.cached item (same.mem_iff.mpr member)
  · simpa only [← keys] using balanced.uncached

theorem Balanced.record (balanced : Balanced config cache ((key, entry) :: rest) extra) :
    ∃ object, cache.cachedObjects entry.objectOffset = some object ∧
      cache.infoOf entry.objectOffset = some object.info ∧
      entry.blockIndex < object.info.coherenceBlockCount ∧
      key = blockKey object.info entry.blockIndex ∧
      object.blocks - 1 = (blocksOf rest entry.objectOffset + extra entry.objectOffset : Nat) := by
  have count : blocksOf ((key, entry) :: rest) entry.objectOffset =
      blocksOf rest entry.objectOffset + 1 := by
    simp [blocksOf]
  have recorded := (balanced.present entry.objectOffset).mpr (by rw [count]; omega)
  obtain ⟨object, found⟩ := Option.isSome_iff_exists.mp recorded
  have published := balanced.described _ _ found
  obtain ⟨info, same, inside, keyed⟩ := balanced.placed (key, entry) List.mem_cons_self
  rw [published] at same
  obtain rfl := Option.some.inj same
  refine ⟨object, found, published, inside, keyed, ?_⟩
  have counted := balanced.blocks _ _ found
  rw [count] at counted
  omega

def removed (cache : ReplicaCache) (age : Age) (key : Nat) (entry : CachedReplica) : ReplicaCache :=
  { cache with
    replicaVersions := Function.update cache.replicaVersions key 0
    cachedReplicaBytes := cache.cachedReplicaBytes - entry.storage.length
    index := Function.update cache.index age ((cache.index age).erase (key, entry)) }

theorem Balanced.eraseReplica_eq (balanced : Balanced config cache ((key, entry) :: rest) extra)
    (age : Age) {object : CachedObject}
    (found : cache.cachedObjects entry.objectOffset = some object)
    (published : cache.infoOf entry.objectOffset = some object.info)
    (inside : entry.blockIndex < object.info.coherenceBlockCount)
    (keyed : key = blockKey object.info entry.blockIndex) :
    eraseReplica config cache age key entry =
      if object.blocks - 1 = 0 then
        { (removed cache age key entry).updateReplicaHosts entry.objectOffset
            (· &&& ~~~HostMask.bit config.localHost.val) with
          cachedObjects := Function.update cache.cachedObjects entry.objectOffset none }
      else
        { removed cache age key entry with
          cachedObjects := Function.update cache.cachedObjects entry.objectOffset
            (some { object with blocks := object.blocks - 1 }) } := by
  have block := mutableCoherenceBlock_eq published (balanced.gptr _ _ published) inside
  have stored : cache.storeReplicaVersion object.info.gptr entry.blockIndex 0 =
      { cache with replicaVersions := Function.update cache.replicaVersions key 0 } := by
    rw [storeReplicaVersion, block, keyed]
  simp only [eraseReplica, found, stored]
  split
  · obtain ⟨objects, changed⟩ := @updateReplicaHosts_of_infoOf
      (removed cache age key entry) entry.objectOffset object.info published
      (· &&& ~~~HostMask.bit config.localHost.val)
    simp only [removed] at changed ⊢
    rw [changed]
  · rfl

/-- The other entries balance without an entry, once its object has the right record. -/
theorem Balanced.remove (balanced : Balanced config cache ((key, entry) :: rest) extra)
    {after : ReplicaCache} {value : Option CachedObject}
    (infos : ∀ offset, after.infoOf offset = cache.infoOf offset)
    (records : after.cachedObjects =
      Function.update cache.cachedObjects entry.objectOffset value)
    (kept : value.isSome = true ↔
      0 < blocksOf rest entry.objectOffset + extra entry.objectOffset)
    (counted : ∀ object, value = some object → object.blocks =
      (blocksOf rest entry.objectOffset + extra entry.objectOffset : Nat))
    (shaped : ∀ object, value = some object →
      cache.infoOf entry.objectOffset = some object.info)
    (bytes : after.cachedReplicaBytes = cache.cachedReplicaBytes - entry.storage.length)
    (versions : after.replicaVersions = Function.update cache.replicaVersions key 0)
    (held : ∀ offset, holds config after offset =
      if offset = entry.objectOffset then value.isSome else holds config cache offset)
    (faulted : after.faulted = cache.faulted) (evicted : after.evicted = cache.evicted) :
    Balanced config after rest extra := by
  obtain ⟨fresh, nodup⟩ := List.nodup_cons.mp balanced.nodup
  have others : ∀ offset, offset ≠ entry.objectOffset →
      blocksOf ((key, entry) :: rest) offset = blocksOf rest offset := by
    intro offset different
    simp [blocksOf, different.symm]
  refine ⟨nodup, ?_, ?_, ?_, ?_, ?_, ?_, ?_, ?_, ?_, ?_, ?_, ?_⟩
  · intro item member
    simp only [infos]
    exact balanced.placed item (List.mem_cons_of_mem _ member)
  · intro offset
    rw [records]
    by_cases same : offset = entry.objectOffset
    · subst same
      rw [Function.update_self]
      exact kept
    · rw [Function.update_of_ne same, ← others offset same]
      exact balanced.present offset
  · intro offset object found
    rw [records] at found
    by_cases same : offset = entry.objectOffset
    · subst same
      rw [Function.update_self] at found
      exact counted object found
    · rw [Function.update_of_ne same] at found
      rw [← others offset same]
      exact balanced.blocks offset object found
  · intro offset object found
    rw [records] at found
    rw [infos]
    by_cases same : offset = entry.objectOffset
    · subst same
      rw [Function.update_self] at found
      exact shaped object found
    · rw [Function.update_of_ne same] at found
      exact balanced.described offset object found
  · have total := balanced.bytes
    simp only [bytesOf, List.map_cons, List.sum_cons] at total
    rw [bytes, total, bytesOf]
    omega
  · intro offset
    rw [held, records]
    by_cases same : offset = entry.objectOffset
    · subst same
      rw [Function.update_self, if_pos rfl]
    · rw [Function.update_of_ne same, if_neg same]
      exact balanced.holders offset
  · intro item member
    have different : item.1 ≠ key := by
      rintro same
      exact fresh (List.mem_map.mpr ⟨item, member, same⟩)
    rw [versions, Function.update_of_ne different]
    exact balanced.cached item (List.mem_cons_of_mem _ member)
  · intro offset info published blockIndex inside absent
    rw [infos] at published
    rw [versions]
    by_cases same : blockKey info blockIndex = key
    · rw [same, Function.update_self]
    · rw [Function.update_of_ne same]
      refine balanced.uncached offset info published blockIndex inside ?_
      simp only [List.map_cons, List.mem_cons, not_or]
      exact ⟨same, absent⟩
  · simpa only [infos] using balanced.gptr
  · simpa only [infos] using balanced.apart
  · rw [faulted]
    exact balanced.sound
  · rw [evicted]
    exact balanced.evictions

/-- `EraseReplicaLocked` finds the record of its entry and keeps the balance. -/
theorem Balanced.erase (balanced : Balanced config cache ((key, entry) :: rest) extra) (age : Age) :
    Balanced config (eraseReplica config cache age key entry) rest extra := by
  obtain ⟨object, found, published, inside, keyed, remaining⟩ := balanced.record
  rw [balanced.eraseReplica_eq age found published inside keyed]
  split
  · rename_i last
    rw [last] at remaining
    have removedInfo : (removed cache age key entry).infoOf entry.objectOffset =
        some object.info := published
    obtain ⟨objects, changed⟩ := updateReplicaHosts_of_infoOf removedInfo
      (· &&& ~~~HostMask.bit config.localHost.val)
    refine @Balanced.remove config cache rest extra key entry balanced _ none ?_ rfl ?_ ?_ ?_ ?_ ?_
      ?_ ?_ ?_
    · intro offset
      exact updateReplicaHosts_infoOf (removed cache age key entry) entry.objectOffset _ offset
    · simp only [Option.isSome_none, Bool.false_eq_true, false_iff]
      omega
    · intro _ impossible
      cases impossible
    · intro _ impossible
      cases impossible
    · rw [changed]
      rfl
    · rw [changed]
      rfl
    · intro offset
      have held := @holds_updateReplicaHosts config (removed cache age key entry)
        entry.objectOffset object.info removedInfo (· &&& ~~~HostMask.bit config.localHost.val)
        offset
      refine Eq.trans held ?_
      by_cases same : offset = entry.objectOffset
      · rw [if_pos same, if_pos same]
        cases (removed cache age key entry).objects entry.objectOffset with
        | none => rfl
        | some shared =>
            simp [HostMask.contains_and_not_bit shared.replicaHosts config.localHost.isLt]
      · rw [if_neg same, if_neg same]
        rfl
    · rw [changed]
      rfl
    · rw [changed]
      rfl
  · rename_i more
    refine @Balanced.remove config cache rest extra key entry balanced _
      (some { object with blocks := object.blocks - 1 }) (fun _ => rfl) rfl ?_ ?_ ?_ rfl rfl ?_ rfl
      rfl
    · simp only [Option.isSome_some, true_iff]
      omega
    · intro left same
      obtain rfl := Option.some.inj same
      exact remaining
    · intro left same
      obtain rfl := Option.some.inj same
      exact published
    · intro offset
      by_cases same : offset = entry.objectOffset
      · subst same
        rw [if_pos rfl]
        exact (balanced.holders _).trans (by rw [found]; rfl)
      · rw [if_neg same]
        rfl

theorem Balanced.eraseReplica_index
    (balanced : Balanced config cache ((key, entry) :: rest) extra) (age : Age) :
    (eraseReplica config cache age key entry).index =
      Function.update cache.index age ((cache.index age).erase (key, entry)) := by
  obtain ⟨object, found, published, inside, keyed, -⟩ := balanced.record
  rw [balanced.eraseReplica_eq age found published inside keyed]
  split
  · have removedInfo : (removed cache age key entry).infoOf entry.objectOffset =
        some object.info := published
    obtain ⟨objects, changed⟩ := updateReplicaHosts_of_infoOf removedInfo
      (· &&& ~~~HostMask.bit config.localHost.val)
    rw [changed]
    rfl
  · rfl

theorem entries_perm_erase {age : Age} (member : (key, entry) ∈ cache.index age) :
    cache.entries.Perm ((key, entry) ::
      entries { cache with
        index := Function.update cache.index age ((cache.index age).erase (key, entry)) }) := by
  have moved := List.perm_cons_erase member
  cases age with
  | current => exact moved.append_right (cache.index .old)
  | old => exact (moved.append_left (cache.index .current)).trans List.perm_middle

/-- The structures agree with the entries of the two indexes. -/
def BalancedIn (config : Config) (cache : ReplicaCache) (extra : Nat → Nat) : Prop :=
  Balanced config cache cache.entries extra

theorem BalancedIn.at_entry (balanced : BalancedIn config cache extra) {age : Age}
    (member : (key, entry) ∈ cache.index age) :
    Balanced config cache ((key, entry) ::
      entries { cache with
        index := Function.update cache.index age ((cache.index age).erase (key, entry)) }) extra :=
  Balanced.perm balanced (entries_perm_erase member)

theorem BalancedIn.index_eq (balanced : BalancedIn config cache extra) {age : Age}
    (member : (key, entry) ∈ cache.index age) :
    (eraseReplica config cache age key entry).index =
      Function.update cache.index age ((cache.index age).erase (key, entry)) :=
  (balanced.at_entry member).eraseReplica_index age

/-- `EraseReplicaLocked` of an entry of an index. -/
theorem BalancedIn.erase (balanced : BalancedIn config cache extra) {age : Age}
    (member : (key, entry) ∈ cache.index age) :
    BalancedIn config (eraseReplica config cache age key entry) extra := by
  have erased := (balanced.at_entry member).erase age
  rw [BalancedIn, entries, balanced.index_eq member]
  exact erased

theorem BalancedIn.length_erase (balanced : BalancedIn config cache extra) {age : Age}
    (member : (key, entry) ∈ cache.index age) :
    cache.entries.length = (eraseReplica config cache age key entry).entries.length + 1 := by
  rw [(entries_perm_erase member).length_eq, List.length_cons, entries, entries,
    balanced.index_eq member]

/-- Every index has only entries that it had before. -/
def Shrinks (before after : ReplicaCache) : Prop :=
  ∀ age, (after.index age).Sublist (before.index age)

theorem Shrinks.refl (cache : ReplicaCache) : Shrinks cache cache := fun _ => .refl _

theorem Shrinks.trans {first second third : ReplicaCache} (left : Shrinks first second)
    (right : Shrinks second third) : Shrinks first third :=
  fun age => (right age).trans (left age)

theorem BalancedIn.shrinks_erase (balanced : BalancedIn config cache extra) {age : Age}
    (member : (key, entry) ∈ cache.index age) :
    Shrinks cache (eraseReplica config cache age key entry) := by
  intro other
  rw [balanced.index_eq member]
  by_cases same : other = age
  · subst same
    rw [Function.update_self]
    exact List.erase_sublist
  · rw [Function.update_of_ne same]

theorem BalancedIn.index_nodup (balanced : BalancedIn config cache extra) (age : Age) :
    ((cache.index age).map Prod.fst).Nodup := by
  have nodup := balanced.nodup
  rw [entries, List.map_append] at nodup
  cases age with
  | current => exact nodup.of_append_left
  | old => exact nodup.of_append_right

/-- A loop that erases the selected entries of an index. -/
theorem BalancedIn.eraseWhere (test : CachedReplica → Bool) (age : Age) :
    ∀ (items : List (Nat × CachedReplica)) (cache : ReplicaCache),
      BalancedIn config cache extra → items.Sublist (cache.index age) →
      BalancedIn config (eraseWhere config test age items cache) extra ∧
        Shrinks cache (ReplicaCache.eraseWhere config test age items cache)
  | [], cache, balanced, _ => ⟨balanced, .refl cache⟩
  | (key, entry) :: rest, cache, balanced, inside => by
      have member := inside.subset List.mem_cons_self
      have later : rest.Sublist (cache.index age) := (List.sublist_cons_self _ _).trans inside
      rw [ReplicaCache.eraseWhere]
      split
      · have erased : rest.Sublist ((eraseReplica config cache age key entry).index age) := by
          rw [balanced.index_eq member, Function.update_self]
          have dropped := inside.erase (key, entry)
          rwa [List.erase_cons_head] at dropped
        obtain ⟨result, shrinks⟩ := BalancedIn.eraseWhere test age rest _ (balanced.erase member)
          erased
        exact ⟨result, (balanced.shrinks_erase member).trans shrinks⟩
      · exact BalancedIn.eraseWhere test age rest cache balanced later

theorem BalancedIn.invalidateObject (balanced : BalancedIn config cache extra) (offset : Nat) :
    BalancedIn config (invalidateObject config cache offset) extra ∧
      Shrinks cache (ReplicaCache.invalidateObject config cache offset) := by
  obtain ⟨first, shrinks⟩ := BalancedIn.eraseWhere
    (fun entry => entry.objectOffset = offset) .current (cache.index .current) cache balanced
    (.refl _)
  obtain ⟨second, shrinksOn⟩ := BalancedIn.eraseWhere
    (fun entry => entry.objectOffset = offset) .old _ _ first (.refl _)
  exact ⟨second, shrinks.trans shrinksOn⟩

theorem BalancedIn.eraseKey (balanced : BalancedIn config cache extra) (age : Age) (key : Nat) :
    BalancedIn config (eraseKey config cache age key) extra ∧
      Shrinks cache (ReplicaCache.eraseKey config cache age key) ∧
      key ∉ ((ReplicaCache.eraseKey config cache age key).index age).map Prod.fst := by
  rw [ReplicaCache.eraseKey]
  split
  · rename_i absent
    refine ⟨balanced, .refl cache, fun member => ?_⟩
    obtain ⟨item, inside, same⟩ := List.mem_map.mp member
    have missing := List.find?_eq_none.mp absent item inside
    simp [same] at missing
  · rename_i found entry present
    have matching := List.find?_some present
    simp only [decide_eq_true_eq] at matching
    subst matching
    have member := List.mem_of_find?_eq_some present
    refine ⟨balanced.erase member, balanced.shrinks_erase member, ?_⟩
    rw [balanced.index_eq member, Function.update_self]
    have nodup := balanced.index_nodup age
    rw [((List.perm_cons_erase member).map Prod.fst).nodup_iff] at nodup
    exact (List.nodup_cons.mp nodup).1

/-- After the invalidation of a block neither index has it. -/
theorem BalancedIn.invalidateBlock (balanced : BalancedIn config cache extra) (key : Nat) :
    BalancedIn config (invalidateBlock config cache key) extra ∧
      Shrinks cache (ReplicaCache.invalidateBlock config cache key) ∧
      key ∉ (ReplicaCache.invalidateBlock config cache key).entries.map Prod.fst := by
  obtain ⟨first, shrinks, absent⟩ := balanced.eraseKey .current key
  obtain ⟨second, shrinksOn, absentOld⟩ := first.eraseKey .old key
  refine ⟨second, shrinks.trans shrinksOn, ?_⟩
  rw [entries, List.map_append, List.mem_append, not_or]
  exact ⟨fun member => absent (((shrinksOn .current).map Prod.fst).subset member), absentOld⟩

theorem BalancedIn.synchronizeAcquire (balanced : BalancedIn config cache extra) :
    BalancedIn config (synchronizeAcquire config cache) extra ∧
      (ReplicaCache.synchronizeAcquire config cache).entries.Subperm cache.entries := by
  obtain ⟨dropped, shrinks⟩ := BalancedIn.eraseWhere (fun _ => true) .old (cache.index .old) cache
    balanced (.refl _)
  have swapped : (ReplicaCache.synchronizeAcquire config cache).entries.Perm
      (ReplicaCache.eraseWhere config (fun _ => true) .old (cache.index .old) cache).entries :=
    List.perm_append_comm
  refine ⟨Balanced.perm ?_ swapped.symm,
    swapped.subperm.trans ((shrinks .current).append (shrinks .old)).subperm⟩
  have kept : Balanced config _ _ extra := dropped
  exact ⟨kept.nodup, kept.placed, kept.present, kept.blocks, kept.described, kept.bytes,
    kept.holders, kept.cached, kept.uncached, kept.gptr, kept.apart, kept.sound, kept.evictions⟩

end Erase

/-! ## Eviction -/

/-- A candidate of an eviction, if any, is the best of the ones seen so far. -/
theorem foldl_older (items : List (Age × Nat × CachedReplica)) :
    ∀ start : Option (Age × Nat × CachedReplica),
      (items.foldl older start = none → start = none ∧ items = []) ∧
      ∀ best, items.foldl older start = some best →
        (start = some best ∨ best ∈ items) ∧
        (∀ first, start = some first → best.2.2.lastAccess ≤ first.2.2.lastAccess) ∧
        ∀ item ∈ items, best.2.2.lastAccess ≤ item.2.2.lastAccess := by
  induction items with
  | nil =>
      intro start
      refine ⟨fun none => ⟨none, rfl⟩, fun best found => ?_⟩
      rw [List.foldl_nil] at found
      refine ⟨.inl found, fun first same => ?_, fun item member => by cases member⟩
      rw [found] at same
      rw [Option.some.inj same]
  | cons candidate rest induction =>
      intro start
      rw [List.foldl_cons]
      obtain ⟨nothing, something⟩ := induction (older start candidate)
      have taken : ∃ kept, older start candidate = some kept ∧
          (start = some kept ∨ kept = candidate) ∧
          (∀ first, start = some first → kept.2.2.lastAccess ≤ first.2.2.lastAccess) ∧
          kept.2.2.lastAccess ≤ candidate.2.2.lastAccess := by
        cases start with
        | none =>
            refine ⟨candidate, rfl, .inr rfl, fun first same => ?_, Nat.le_refl _⟩
            cases same
        | some first =>
            simp only [older]
            split
            · rename_i earlier
              refine ⟨candidate, rfl, .inr rfl, fun other same => ?_, Nat.le_refl _⟩
              rw [← Option.some.inj same]
              exact earlier.le
            · rename_i later
              refine ⟨first, rfl, .inl rfl, fun other same => ?_, Nat.le_of_not_lt later⟩
              rw [← Option.some.inj same]
      obtain ⟨kept, eq, origin, first_le, candidate_le⟩ := taken
      refine ⟨fun none => ?_, fun best found => ?_⟩
      · rw [(nothing none).1] at eq
        cases eq
      · obtain ⟨source, start_le, rest_le⟩ := something best found
        have best_le := start_le kept eq
        refine ⟨?_, fun first same => best_le.trans (first_le first same), fun item member => ?_⟩
        · rcases source with same | member
          · rw [eq] at same
            obtain rfl := Option.some.inj same
            rcases origin with original | rfl
            · exact .inl original
            · exact .inr List.mem_cons_self
          · exact .inr (List.mem_cons_of_mem _ member)
        · rcases List.mem_cons.mp member with rfl | later
          · exact best_le.trans candidate_le
          · exact rest_le item later

theorem victim_eq_none (none : cache.victim = none) : cache.entries = [] := by
  have empty := ((foldl_older _ _).1 none).2
  simpa [entries] using empty

/-- The victim is an entry with the earliest last use. -/
theorem victim_eq_some {age : Age} {key : Nat} {entry : CachedReplica}
    (found : cache.victim = some (age, key, entry)) :
    (key, entry) ∈ cache.index age ∧
      Eviction.Earliest ⟨entry, cache.entries.map Prod.snd⟩ := by
  obtain ⟨origin, -, earliest⟩ := (foldl_older _ _).2 _ found
  have member : (key, entry) ∈ cache.index age := by
    rcases origin with impossible | inside
    · cases impossible
    · rcases List.mem_append.mp inside with current | old
      · obtain ⟨item, here, same⟩ := List.mem_map.mp current
        cases same
        exact here
      · obtain ⟨item, here, same⟩ := List.mem_map.mp old
        cases same
        exact here
  refine ⟨member, ?_, ?_⟩
  · refine List.mem_map.mpr ⟨(key, entry), ?_, rfl⟩
    rw [entries, List.mem_append]
    cases age with
    | current => exact .inl member
    | old => exact .inr member
  · intro other present
    obtain ⟨item, inside, rfl⟩ := List.mem_map.mp present
    rcases List.mem_append.mp inside with current | old
    · exact earliest (.current, item)
        (List.mem_append.mpr (.inl (List.mem_map.mpr ⟨item, current, rfl⟩)))
    · exact earliest (.old, item)
        (List.mem_append.mpr (.inr (List.mem_map.mpr ⟨item, old, rfl⟩)))

theorem BalancedIn.not_overfull {extra : Nat → Nat} (balanced : BalancedIn config cache extra)
    (empty : cache.entries = []) : ¬overfull config cache := by
  have bytes := balanced.bytes
  have count := congrArg List.length empty
  have entries_pos := config.entries_pos
  rw [empty] at bytes
  simp only [bytesOf, List.map_nil, List.sum_nil] at bytes
  simp only [entries, List.length_append, List.length_nil] at count
  rintro (many | large)
  · omega
  · omega

/-- `EvictReplicasLocked` ends within the limits, and every victim had the earliest last use. -/
theorem BalancedIn.evictLoop {extra : Nat → Nat} :
    ∀ (bound : Nat) (cache : ReplicaCache), BalancedIn config cache extra →
      cache.entries.length ≤ bound →
      BalancedIn config (evictLoop config bound cache) extra ∧
        ¬overfull config (ReplicaCache.evictLoop config bound cache)
  | 0, cache, balanced, few =>
      ⟨balanced, balanced.not_overfull (List.length_eq_zero_iff.mp (Nat.le_zero.mp few))⟩
  | bound + 1, cache, balanced, few => by
      rw [ReplicaCache.evictLoop]
      split
      · cases found : cache.victim with
        | none => exact ⟨balanced, balanced.not_overfull (victim_eq_none found)⟩
        | some chosen =>
            obtain ⟨age, key, entry⟩ := chosen
            obtain ⟨member, earliest⟩ := victim_eq_some found
            have noted : BalancedIn config
                { cache with
                  evicted := ⟨entry, cache.entries.map Prod.snd⟩ :: cache.evicted } extra := by
              refine ⟨balanced.nodup, balanced.placed, balanced.present, balanced.blocks,
                balanced.described, balanced.bytes, balanced.holders, balanced.cached,
                balanced.uncached, balanced.gptr, balanced.apart, balanced.sound, ?_⟩
              intro eviction noted
              rcases List.mem_cons.mp noted with rfl | old
              · exact earliest
              · exact balanced.evictions eviction old
            have shorter := noted.length_erase member
            have same : entries { cache with
                evicted := ⟨entry, cache.entries.map Prod.snd⟩ :: cache.evicted } =
              cache.entries := rfl
            rw [same] at shorter
            exact BalancedIn.evictLoop bound _ (noted.erase member) (by omega)
      · rename_i within
        exact ⟨balanced, within⟩

theorem BalancedIn.evictReplicas {extra : Nat → Nat} (balanced : BalancedIn config cache extra) :
    BalancedIn config (evictReplicas config cache) extra ∧
      ¬overfull config (ReplicaCache.evictReplicas config cache) :=
  BalancedIn.evictLoop _ cache balanced (Nat.le_refl _)

/-! ## Installation -/

/-- A block is counted and not yet entered. -/
theorem Balanced.count {items : List (Nat × CachedReplica)}
    (balanced : Balanced config cache items fun _ => 0) {after : ReplicaCache} {offset : Nat}
    {value : CachedObject} (infos : ∀ other, after.infoOf other = cache.infoOf other)
    (records : after.cachedObjects = Function.update cache.cachedObjects offset (some value))
    (counted : value.blocks = (blocksOf items offset + 1 : Nat))
    (shaped : cache.infoOf offset = some value.info)
    (bytes : after.cachedReplicaBytes = cache.cachedReplicaBytes)
    (versions : after.replicaVersions = cache.replicaVersions)
    (held : ∀ other, holds config after other =
      if other = offset then true else holds config cache other)
    (faulted : after.faulted = cache.faulted) (evicted : after.evicted = cache.evicted) :
    Balanced config after items (Pi.single offset 1) := by
  refine ⟨balanced.nodup, ?_, ?_, ?_, ?_, ?_, ?_, ?_, ?_, ?_, ?_, ?_, ?_⟩
  · simpa only [infos] using balanced.placed
  · intro other
    rw [records]
    by_cases same : other = offset
    · subst same
      rw [Function.update_self, Pi.single_eq_same]
      simp
    · rw [Function.update_of_ne same, Pi.single_eq_of_ne same]
      exact balanced.present other
  · intro other object found
    rw [records] at found
    by_cases same : other = offset
    · subst same
      rw [Function.update_self] at found
      rw [Pi.single_eq_same, ← Option.some.inj found]
      exact counted
    · rw [Function.update_of_ne same] at found
      rw [Pi.single_eq_of_ne same]
      exact balanced.blocks other object found
  · intro other object found
    rw [records] at found
    rw [infos]
    by_cases same : other = offset
    · subst same
      rw [Function.update_self] at found
      rw [← Option.some.inj found]
      exact shaped
    · rw [Function.update_of_ne same] at found
      exact balanced.described other object found
  · rw [bytes]
    exact balanced.bytes
  · intro other
    rw [held, records]
    by_cases same : other = offset
    · subst same
      rw [if_pos rfl, Function.update_self]
      rfl
    · rw [if_neg same, Function.update_of_ne same]
      exact balanced.holders other
  · rw [versions]
    exact balanced.cached
  · simpa only [infos, versions] using balanced.uncached
  · simpa only [infos] using balanced.gptr
  · simpa only [infos] using balanced.apart
  · rw [faulted]
    exact balanced.sound
  · rw [evicted]
    exact balanced.evictions

/-- A fill counts its block before it replaces an entry. -/
theorem BalancedIn.enlist (balanced : BalancedIn config cache fun _ => 0) {offset : Nat}
    {info : AllocationInfo} (published : cache.infoOf offset = some info) :
    BalancedIn config (enlist config cache info) (Pi.single offset 1) ∧
      ∀ other, (ReplicaCache.enlist config cache info).infoOf other = cache.infoOf other := by
  rw [ReplicaCache.enlist, balanced.gptr offset info published]
  cases found : cache.cachedObjects offset with
  | none =>
      have absent : blocksOf cache.entries offset = 0 := by
        have empty := (balanced.present offset).not.mp (by rw [found]; decide)
        simpa using empty
      have infos := updateReplicaHosts_infoOf cache offset (· ||| HostMask.bit config.localHost.val)
      have held := @holds_updateReplicaHosts config cache offset info published
        (· ||| HostMask.bit config.localHost.val)
      obtain ⟨objects, changed⟩ := updateReplicaHosts_of_infoOf published
        (· ||| HostMask.bit config.localHost.val)
      rw [changed] at infos held
      simp only [changed]
      refine ⟨@Balanced.count config cache cache.entries balanced _ offset ⟨info, 1⟩ infos rfl ?_
        published rfl rfl ?_ rfl rfl, infos⟩
      · rw [absent]
        rfl
      · intro other
        refine (held other).trans ?_
        by_cases same : other = offset
        · rw [if_pos same, if_pos same]
          simp only [infoOf, Option.map_eq_some_iff] at published
          obtain ⟨shared, there, -⟩ := published
          rw [there]
          simp [HostMask.contains_or_bit shared.replicaHosts config.localHost.isLt]
        · rw [if_neg same, if_neg same]
  | some object =>
      refine ⟨@Balanced.count config cache cache.entries balanced _ offset
        { object with blocks := object.blocks + 1 } (fun _ => rfl) rfl ?_
        (balanced.described offset object found) rfl rfl ?_ rfl rfl, fun _ => rfl⟩
      · have counted := balanced.blocks offset object found
        simp only [counted]
        omega
      · intro other
        by_cases same : other = offset
        · subst same
          rw [if_pos rfl]
          exact (balanced.holders other).trans (by rw [found]; rfl)
        · rw [if_neg same]
          rfl

theorem eraseReplica_infoOf (cache : ReplicaCache) (age : Age) (key : Nat) (entry : CachedReplica)
    (offset : Nat) :
    (eraseReplica config cache age key entry).infoOf offset = cache.infoOf offset := by
  have stored : ∀ (object : GlobalPointer) (blockIndex version : Nat),
      (cache.storeReplicaVersion object blockIndex version).objects = cache.objects := by
    intro object blockIndex version
    rw [storeReplicaVersion]
    split
    · rfl
    · rfl
  simp only [eraseReplica]
  split
  · rfl
  · rename_i object _
    split
    · refine Eq.trans (updateReplicaHosts_infoOf _ entry.objectOffset _ offset) ?_
      simp only [infoOf, stored]
    · simp only [infoOf, stored]

theorem invalidateBlock_infoOf (cache : ReplicaCache) (key offset : Nat) :
    (invalidateBlock config cache key).infoOf offset = cache.infoOf offset := by
  have erased : ∀ (before : ReplicaCache) (age : Age),
      (eraseKey config before age key).infoOf offset = before.infoOf offset := by
    intro before age
    rw [eraseKey]
    split
    · rfl
    · exact eraseReplica_infoOf before age key _ offset
  rw [invalidateBlock, erased, erased]

theorem BalancedIn.emplace {offset : Nat} {info : AllocationInfo} {blockIndex : Nat}
    (balanced : BalancedIn config cache (Pi.single offset 1))
    (published : cache.infoOf offset = some info) (inside : blockIndex < info.coherenceBlockCount)
    (absent : blockKey info blockIndex ∉ cache.entries.map Prod.fst) (place version : Nat)
    (storage : List UInt8) :
    BalancedIn config
      ((emplace cache place (blockKey info blockIndex) info blockIndex version
        storage).storeReplicaVersion info.gptr blockIndex (add64 version 1)) fun _ => 0 := by
  have gptr := balanced.gptr offset info published
  have block := @mutableCoherenceBlock_eq
    (ReplicaCache.emplace cache place (blockKey info blockIndex) info blockIndex version storage)
    offset blockIndex info published gptr inside
  rw [storeReplicaVersion, block]
  have moved : (ReplicaCache.emplace cache place (blockKey info blockIndex) info blockIndex version
      storage).entries.Perm ((blockKey info blockIndex,
        ⟨info.gptr.offset, blockIndex, version, storage, cache.replicaAccessClock + 1⟩) ::
          cache.entries) := by
    simp only [ReplicaCache.emplace, entries, Function.update_self]
    rw [Function.update_of_ne (by decide)]
    refine (List.perm_middle.append_right _).trans ?_
    rw [List.take_append_drop]
    rfl
  refine Balanced.perm ?_ moved.symm
  rw [gptr]
  refine ⟨List.nodup_cons.mpr ⟨absent, balanced.nodup⟩, ?_, ?_, ?_, balanced.described, ?_,
    balanced.holders, ?_, ?_, balanced.gptr, balanced.apart, balanced.sound, balanced.evictions⟩
  · intro item member
    rcases List.mem_cons.mp member with rfl | old
    · exact ⟨info, published, inside, rfl⟩
    · exact balanced.placed item old
  · intro other
    refine (balanced.present other).trans ?_
    by_cases same : other = offset
    · subst same
      simp [blocksOf]
    · rw [Pi.single_eq_of_ne same]
      simp [blocksOf, Ne.symm same]
  · intro other object found
    rw [balanced.blocks other object found]
    by_cases same : other = offset
    · subst same
      simp [blocksOf]
    · rw [Pi.single_eq_of_ne same]
      simp [blocksOf, Ne.symm same]
  · have total := balanced.bytes
    simp only [ReplicaCache.emplace, bytesOf, List.map_cons, List.sum_cons] at total ⊢
    rw [total]
    omega
  · intro item member
    rcases List.mem_cons.mp member with rfl | old
    · simp only [Function.update_self]
    · have different : item.1 ≠ blockKey info blockIndex := by
        intro same
        exact absent (List.mem_map.mpr ⟨item, old, same⟩)
      simp only [Function.update_of_ne different]
      exact balanced.cached item old
  · intro other shape shaped index below missing
    simp only [List.map_cons, List.mem_cons, not_or] at missing
    simp only [Function.update_of_ne missing.1]
    exact balanced.uncached other shape shaped index below missing.2

/-- `CacheReplicaLocked` keeps the balance and the limits. -/
theorem BalancedIn.cacheReplica (balanced : BalancedIn config cache fun _ => 0) {offset : Nat}
    {info : AllocationInfo} (published : cache.infoOf offset = some info) {blockIndex : Nat}
    (inside : blockIndex < info.coherenceBlockCount) (place version : Nat) (storage : List UInt8) :
    BalancedIn config
        (cacheReplica config cache place (blockKey info blockIndex) info blockIndex version storage)
        (fun _ => 0) ∧
      ¬overfull config (ReplicaCache.cacheReplica config cache place (blockKey info blockIndex) info
        blockIndex version storage) := by
  obtain ⟨enlisted, infos⟩ := balanced.enlist published
  obtain ⟨cleared, -, absent⟩ := enlisted.invalidateBlock (blockKey info blockIndex)
  have shaped := (@invalidateBlock_infoOf config (ReplicaCache.enlist config cache info)
    (blockKey info blockIndex) offset).trans ((infos offset).trans published)
  exact (cleared.emplace shaped inside absent place version storage).evictReplicas

/-! ## Other transitions -/

/-- An entry without its last use. -/
def undated (item : Nat × CachedReplica) : Nat × CachedReplica :=
  (item.1, { item.2 with lastAccess := 0 })

/-- The balance does not depend on the last uses. -/
theorem Balanced.undated {items other : List (Nat × CachedReplica)} {extra : Nat → Nat}
    (balanced : Balanced config cache items extra)
    (same : other.map undated = items.map ReplicaCache.undated) :
    Balanced config cache other extra := by
  have keys : other.map Prod.fst = items.map Prod.fst := by
    have projected := congrArg (List.map Prod.fst) same
    simpa only [List.map_map, Function.comp_def, ReplicaCache.undated] using projected
  have counts : ∀ offset, blocksOf other offset = blocksOf items offset := by
    intro offset
    have projected := congrArg
      (List.countP fun item : Nat × CachedReplica => item.2.objectOffset = offset) same
    rw [List.countP_map, List.countP_map] at projected
    exact projected
  have bytes : bytesOf other = bytesOf items := by
    have projected := congrArg
      (fun list : List (Nat × CachedReplica) => (list.map fun item => item.2.storage.length).sum)
        same
    simpa only [bytesOf, List.map_map, Function.comp_def, ReplicaCache.undated] using projected
  have origin : ∀ item ∈ other, ∃ old ∈ items,
      ReplicaCache.undated old = ReplicaCache.undated item := by
    intro item member
    have moved := List.mem_map_of_mem (f := ReplicaCache.undated) member
    rw [same] at moved
    exact List.mem_map.mp moved
  refine ⟨by rw [keys]; exact balanced.nodup, ?_, ?_, ?_, balanced.described, ?_, balanced.holders,
    ?_, ?_, balanced.gptr, balanced.apart, balanced.sound, balanced.evictions⟩
  · intro item member
    obtain ⟨old, inside, equal⟩ := origin item member
    have placed := balanced.placed old inside
    simp only [ReplicaCache.undated, Prod.mk.injEq, CachedReplica.mk.injEq] at equal
    rw [equal.1, equal.2.1, equal.2.2.1] at placed
    exact placed
  · simpa only [counts] using balanced.present
  · simpa only [counts] using balanced.blocks
  · rw [bytes]
    exact balanced.bytes
  · intro item member
    obtain ⟨old, inside, equal⟩ := origin item member
    have cached := balanced.cached old inside
    simp only [ReplicaCache.undated, Prod.mk.injEq, CachedReplica.mk.injEq] at equal
    rw [equal.1, equal.2.2.2.1] at cached
    exact cached
  · rw [keys]
    exact balanced.uncached

theorem undated_refresh (key time : Nat) (item : Nat × CachedReplica) :
    undated (refresh key time item) = undated item := by
  rw [refresh]
  split
  · rfl
  · rfl

theorem BalancedIn.touch {extra : Nat → Nat} (balanced : BalancedIn config cache extra)
    (key offset : Nat) :
    BalancedIn config (touch cache key offset) extra ∧
      (ReplicaCache.touch cache key offset).entries.map undated = cache.entries.map undated ∧
      (ReplicaCache.touch cache key offset).cachedReplicaBytes = cache.cachedReplicaBytes := by
  rw [ReplicaCache.touch]
  split
  · exact ⟨balanced, rfl, rfl⟩
  · split
    · have same : (entries { cache with
          replicaAccessClock := cache.replicaAccessClock + 1
          index := Function.update cache.index .current
            ((cache.index .current).map (refresh key (cache.replicaAccessClock + 1))) }).map
          undated = cache.entries.map undated := by
        simp only [entries, Function.update_self, List.map_append, List.map_map]
        rw [Function.update_of_ne (by decide)]
        congr 1
        exact List.map_congr_left fun item _ => undated_refresh key _ item
      refine ⟨?_, same, rfl⟩
      have kept : Balanced config cache _ extra := Balanced.undated balanced same
      exact ⟨kept.nodup, kept.placed, kept.present, kept.blocks, kept.described, kept.bytes,
        kept.holders, kept.cached, kept.uncached, kept.gptr, kept.apart, kept.sound,
        kept.evictions⟩
    · exact ⟨balanced, rfl, rfl⟩

/-- The shared state that a change of the holders leaves to the host. -/
theorem BalancedIn.of_holders {extra : Nat → Nat} (balanced : BalancedIn config cache extra)
    {objects : Nat → Option SharedObject}
    (infos : ∀ offset, infoOf { cache with objects := objects } offset = cache.infoOf offset)
    (held : ∀ offset, holds config { cache with objects := objects } offset =
      holds config cache offset) :
    BalancedIn config { cache with objects := objects } extra := by
  refine ⟨balanced.nodup, ?_, balanced.present, balanced.blocks, ?_, balanced.bytes, ?_,
    balanced.cached, ?_, ?_, ?_, balanced.sound, balanced.evictions⟩
  · intro item member
    simp only [infos]
    exact balanced.placed item member
  · simpa only [infos] using balanced.described
  · simpa only [held] using balanced.holders
  · intro offset info published
    rw [infos] at published
    exact balanced.uncached offset info published
  · simpa only [infos] using balanced.gptr
  · simpa only [infos] using balanced.apart

theorem BalancedIn.hold {extra : Nat → Nat} (balanced : BalancedIn config cache extra)
    {offset : Nat} (published : (cache.objects offset).isSome = true) {other : HostId}
    (different : other ≠ config.localHost) (holding : Bool) :
    BalancedIn config (cache.updateReplicaHosts offset fun hosts =>
      if holding then hosts ||| HostMask.bit other.val
      else hosts &&& ~~~HostMask.bit other.val) extra := by
  obtain ⟨shared, found⟩ := Option.isSome_iff_exists.mp published
  have shaped : cache.infoOf offset = some shared.info := by
    rw [infoOf, found]
    rfl
  have apart : config.localHost.val ≠ other.val := fun same => different (Fin.ext same.symm)
  have infos := updateReplicaHosts_infoOf cache offset fun hosts =>
    if holding then hosts ||| HostMask.bit other.val else hosts &&& ~~~HostMask.bit other.val
  have held := @holds_updateReplicaHosts config cache offset shared.info shaped fun hosts =>
    if holding then hosts ||| HostMask.bit other.val else hosts &&& ~~~HostMask.bit other.val
  obtain ⟨objects, changed⟩ := updateReplicaHosts_of_infoOf shaped fun hosts =>
    if holding then hosts ||| HostMask.bit other.val else hosts &&& ~~~HostMask.bit other.val
  rw [changed] at infos held ⊢
  refine balanced.of_holders infos fun place => ?_
  rw [held]
  by_cases same : place = offset
  · subst same
    rw [if_pos rfl, found, holds, found]
    cases holding with
    | false => simp [HostMask.contains_and_not_bit shared.replicaHosts config.localHost.isLt, apart]
    | true => simp [HostMask.contains_or_bit shared.replicaHosts config.localHost.isLt, apart]
  · rw [if_neg same]

/-- A new object has no replicas. -/
theorem BalancedIn.allocate (balanced : BalancedIn config cache fun _ => 0) {info : AllocationInfo}
    (region : info.gptr.regionId = 0) (unused : cache.objects info.gptr.offset = none)
    (own : ∀ offset shared, cache.objects offset = some shared →
      ∀ address, Sidecar info address → ¬Sidecar shared.info address) :
    BalancedIn config
      { cache with
        objects := Function.update cache.objects info.gptr.offset (some ⟨info, 0#64⟩)
        replicaVersions := fun address =>
          if Sidecar info address then 0 else cache.replicaVersions address } fun _ => 0 := by
  have absent : cache.infoOf info.gptr.offset = none := by
    rw [infoOf, unused]
    rfl
  have unrecorded : cache.cachedObjects info.gptr.offset = none := by
    cases found : cache.cachedObjects info.gptr.offset with
    | none => rfl
    | some object =>
        have described := balanced.described _ _ found
        rw [absent] at described
        cases described
  have foreign : ∀ offset shape, cache.infoOf offset = some shape →
      offset ≠ info.gptr.offset ∧ ∀ address, Sidecar shape address → ¬Sidecar info address := by
    intro offset shape shaped
    constructor
    · rintro rfl
      rw [absent] at shaped
      cases shaped
    · intro address theirs ours
      simp only [infoOf, Option.map_eq_some_iff] at shaped
      obtain ⟨shared, found, rfl⟩ := shaped
      exact own offset shared found address ours theirs
  have infos : ∀ offset, infoOf
      { cache with
        objects := Function.update cache.objects info.gptr.offset (some ⟨info, 0#64⟩)
        replicaVersions := fun address =>
          if Sidecar info address then 0 else cache.replicaVersions address } offset =
      if offset = info.gptr.offset then some info else cache.infoOf offset := by
    intro offset
    simp only [infoOf]
    by_cases same : offset = info.gptr.offset
    · rw [if_pos same, same, Function.update_self]
      rfl
    · rw [if_neg same, Function.update_of_ne same]
  refine ⟨balanced.nodup, ?_, balanced.present, balanced.blocks, ?_, balanced.bytes, ?_, ?_, ?_, ?_,
    ?_, balanced.sound, balanced.evictions⟩
  · intro item member
    obtain ⟨shape, shaped, rest⟩ := balanced.placed item member
    refine ⟨shape, ?_, rest⟩
    rw [infos, if_neg (foreign _ _ shaped).1]
    exact shaped
  · intro offset object found
    have described := balanced.described offset object found
    rw [infos, if_neg (foreign _ _ described).1]
    exact described
  · intro offset
    by_cases same : offset = info.gptr.offset
    · subst same
      simp [holds, unrecorded]
    · rw [← balanced.holders offset]
      simp only [holds, Function.update_of_ne same]
  · intro item member
    obtain ⟨shape, shaped, below, keyed⟩ := balanced.placed item member
    have theirs := (foreign _ _ shaped).2 item.1 ⟨_, below, keyed⟩
    simp only [if_neg theirs]
    exact balanced.cached item member
  · intro offset shape shaped blockIndex below missing
    rw [infos] at shaped
    by_cases same : offset = info.gptr.offset
    · rw [if_pos same] at shaped
      obtain rfl := Option.some.inj shaped
      exact if_pos ⟨blockIndex, below, rfl⟩
    · rw [if_neg same] at shaped
      simp only [if_neg ((foreign _ _ shaped).2 _ ⟨blockIndex, below, rfl⟩)]
      exact balanced.uncached offset shape shaped blockIndex below missing
  · intro offset shape shaped
    rw [infos] at shaped
    by_cases same : offset = info.gptr.offset
    · rw [if_pos same] at shaped
      obtain rfl := Option.some.inj shaped
      rw [same, ← region]
    · rw [if_neg same] at shaped
      exact balanced.gptr offset shape shaped
  · intro first second shape other shaped othered different
    rw [infos] at shaped othered
    by_cases mine : first = info.gptr.offset
    · have theirs : second ≠ info.gptr.offset := fun same => different (mine.trans same.symm)
      rw [if_pos mine] at shaped
      rw [if_neg theirs] at othered
      obtain rfl := Option.some.inj shaped
      intro address ours theirsToo
      exact (foreign _ _ othered).2 address theirsToo ours
    · rw [if_neg mine] at shaped
      by_cases theirs : second = info.gptr.offset
      · rw [if_pos theirs] at othered
        obtain rfl := Option.some.inj othered
        exact (foreign _ _ shaped).2
      · rw [if_neg theirs] at othered
        exact balanced.apart first second shape other shaped othered different

/-- An object without holders has no replicas here, so it can be freed. -/
theorem BalancedIn.free (balanced : BalancedIn config cache fun _ => 0) {offset : Nat}
    {shared : SharedObject} (found : cache.objects offset = some shared)
    (unheld : shared.replicaHosts = 0#64) :
    BalancedIn config { cache with objects := Function.update cache.objects offset none }
      fun _ => 0 := by
  have unrecorded : (cache.cachedObjects offset).isSome = false := by
    rw [← balanced.holders offset, holds, found]
    simp only [unheld]
    exact HostMask.contains_zero _
  have infos : ∀ other, infoOf { cache with objects := Function.update cache.objects offset none }
      other = if other = offset then none else cache.infoOf other := by
    intro other
    simp only [infoOf]
    by_cases same : other = offset
    · rw [if_pos same, same, Function.update_self]
      rfl
    · rw [if_neg same, Function.update_of_ne same]
  have old : ∀ other shape,
      infoOf { cache with objects := Function.update cache.objects offset none } other =
        some shape → cache.infoOf other = some shape := by
    intro other shape shaped
    rw [infos] at shaped
    split at shaped
    · cases shaped
    · exact shaped
  refine ⟨balanced.nodup, ?_, balanced.present, balanced.blocks, ?_, balanced.bytes, ?_,
    balanced.cached, ?_, ?_, ?_, balanced.sound, balanced.evictions⟩
  · intro item member
    obtain ⟨shape, shaped, rest⟩ := balanced.placed item member
    refine ⟨shape, ?_, rest⟩
    have counted : 0 < blocksOf cache.entries item.2.objectOffset :=
      List.countP_pos_iff.mpr ⟨item, member, by simp⟩
    have recorded := (balanced.present item.2.objectOffset).mpr (by simpa using counted)
    have different : item.2.objectOffset ≠ offset := by
      intro same
      rw [same, unrecorded] at recorded
      cases recorded
    rw [infos, if_neg different]
    exact shaped
  · intro other object recorded
    have different : other ≠ offset := by
      rintro rfl
      rw [recorded] at unrecorded
      cases unrecorded
    rw [infos, if_neg different]
    exact balanced.described other object recorded
  · intro other
    by_cases same : other = offset
    · subst same
      simp only [holds, Function.update_self]
      exact unrecorded.symm
    · rw [← balanced.holders other]
      simp only [holds, Function.update_of_ne same]
  · intro other shape shaped
    exact balanced.uncached other shape (old other shape shaped)
  · intro other shape shaped
    exact balanced.gptr other shape (old other shape shaped)
  · intro first second shape other shaped othered
    exact balanced.apart first second shape other (old first shape shaped)
      (old second other othered)

/-! ## Runs -/

/-- The bookkeeping of a host is exact. -/
structure Exact (config : Config) (cache : ReplicaCache) : Prop where
  /-- A key is in at most one index, once. -/
  single : (cache.entries.map Prod.fst).Nodup
  /-- Exactly the objects with entries have a record. -/
  present : ∀ offset, (cache.cachedObjects offset).isSome = true ↔
    0 < blocksOf cache.entries offset
  /-- A record counts the entries of its object. -/
  blocks : ∀ offset object, cache.cachedObjects offset = some object →
    object.blocks = blocksOf cache.entries offset
  /-- The byte count is the sum of the entry sizes. -/
  bytes : cache.cachedReplicaBytes = bytesOf cache.entries
  /-- The host is a holder of exactly the objects with a record, and these are published. -/
  holders : ∀ offset, holds config cache offset = (cache.cachedObjects offset).isSome
  /-- The version words of the blocks of published objects. -/
  versions : ∀ offset shared, cache.objects offset = some shared →
    ∀ blockIndex < shared.info.coherenceBlockCount,
      (∀ entry, (blockKey shared.info blockIndex, entry) ∈ cache.entries →
        entry.objectOffset = offset ∧ entry.blockIndex = blockIndex ∧
          cache.replicaVersions (blockKey shared.info blockIndex) = add64 entry.version 1) ∧
      (blockKey shared.info blockIndex ∉ cache.entries.map Prod.fst →
        cache.replicaVersions (blockKey shared.info blockIndex) = 0)
  /-- The number of entries is within its limit. -/
  entries_le : cache.entries.length ≤ config.capacityEntries
  /-- The bytes are within their limit. -/
  bytes_le : cache.cachedReplicaBytes ≤ config.capacityBytes
  /-- Every evicted entry had the earliest last use of the entries that were present. -/
  evictions : ∀ eviction ∈ cache.evicted, eviction.Earliest
  /-- Every erased entry had its record. -/
  sound : cache.faulted = false

theorem BalancedIn.exact_of_within (balanced : BalancedIn config cache fun _ => 0)
    (within : ¬overfull config cache) : Exact config cache := by
  rw [overfull, not_or, Nat.not_lt, Int.not_lt] at within
  refine ⟨balanced.nodup, balanced.present, balanced.blocks, balanced.bytes, balanced.holders, ?_,
    ?_, within.2, balanced.evictions, balanced.sound⟩
  · intro offset shared found blockIndex below
    have shaped : cache.infoOf offset = some shared.info := by
      rw [infoOf, found]
      rfl
    refine ⟨fun entry member => ?_, balanced.uncached offset _ shaped blockIndex below⟩
    obtain ⟨info, placed, inside, keyed⟩ := balanced.placed _ member
    have same : entry.objectOffset = offset := by
      by_contra different
      exact balanced.apart _ _ _ _ placed shaped different _ ⟨_, inside, keyed⟩
        ⟨_, below, rfl⟩
    simp only [same, shaped] at placed keyed
    obtain rfl := Option.some.inj placed
    exact ⟨same, (blockKey_injective keyed).symm, balanced.cached _ member⟩
  · rw [entries, List.length_append]
    exact within.1

/-- The limits hold for fewer entries. -/
theorem BalancedIn.within_of_subperm {extra other : Nat → Nat} {after : ReplicaCache}
    (balanced : BalancedIn config cache extra) (result : BalancedIn config after other)
    (within : ¬overfull config cache) (fewer : after.entries.Subperm cache.entries) :
    ¬overfull config after := by
  have count := fewer.length_le
  have bytes : bytesOf after.entries ≤ bytesOf cache.entries := by
    obtain ⟨middle, same, sublist⟩ := fewer
    have total : bytesOf middle = bytesOf after.entries := (same.map _).sum_eq
    rw [← total]
    exact (sublist.map _).sum_le_sum fun _ _ => Nat.zero_le _
  rw [overfull, not_or, Nat.not_lt, Int.not_lt] at within ⊢
  rw [entries, entries, List.length_append, List.length_append] at count
  have before := balanced.bytes
  have later := result.bytes
  omega

theorem Shrinks.subperm {after : ReplicaCache} (shrinks : Shrinks cache after) :
    after.entries.Subperm cache.entries :=
  ((shrinks .current).append (shrinks .old)).subperm

/-- The invariant of every run. -/
structure Kept (config : Config) (cache : ReplicaCache) : Prop where
  /-- The structures agree with the entries. -/
  balanced : BalancedIn config cache fun _ => 0
  within : ¬overfull config cache

theorem Kept.next (kept : Kept config cache) {label : Label} {after : ReplicaCache}
    (admitted : Admitted cache label) (step : ReplicaCache.next config cache label = some after) :
    Kept config after := by
  obtain ⟨balanced, within⟩ := kept
  cases label with
  | install offset blockIndex version storage place =>
      simp only [ReplicaCache.next] at step
      split at step
      · cases step
      · rename_i shared found
        split at step
        · rename_i inside
          obtain rfl := Option.some.inj step
          have shaped : cache.infoOf offset = some shared.info := by
            rw [infoOf, found]
            rfl
          obtain ⟨result, bounded⟩ := balanced.cacheReplica shaped inside place version storage
          exact ⟨result, bounded⟩
        · cases step
  | touch key offset =>
      obtain rfl := Option.some.inj step
      obtain ⟨result, same, bytes⟩ := balanced.touch key offset
      have count := congrArg List.length same
      simp only [List.length_map, entries, List.length_append] at count
      refine ⟨result, ?_⟩
      rw [overfull, count, bytes]
      exact within
  | invalidateObject offset =>
      obtain rfl := Option.some.inj step
      obtain ⟨result, shrinks⟩ := balanced.invalidateObject offset
      exact ⟨result, balanced.within_of_subperm result within shrinks.subperm⟩
  | invalidateBlock key =>
      obtain rfl := Option.some.inj step
      obtain ⟨result, shrinks, -⟩ := balanced.invalidateBlock key
      exact ⟨result, balanced.within_of_subperm result within shrinks.subperm⟩
  | synchronizeAcquire =>
      obtain rfl := Option.some.inj step
      obtain ⟨result, fewer⟩ := balanced.synchronizeAcquire
      exact ⟨result, balanced.within_of_subperm result within fewer⟩
  | rehash order =>
      simp only [ReplicaCache.next] at step
      split at step
      · rename_i permuted
        obtain rfl := Option.some.inj step
        rw [List.isPerm_iff, List.isPerm_iff] at permuted
        have moved : (entries { cache with index := order }).Perm cache.entries :=
          permuted.1.append permuted.2
        have result : BalancedIn config { cache with index := order } fun _ => 0 := by
          have reordered : Balanced config cache _ _ := Balanced.perm balanced moved.symm
          exact ⟨reordered.nodup, reordered.placed, reordered.present, reordered.blocks,
            reordered.described, reordered.bytes, reordered.holders, reordered.cached,
            reordered.uncached, reordered.gptr, reordered.apart, reordered.sound,
            reordered.evictions⟩
        exact ⟨result, balanced.within_of_subperm result within moved.subperm⟩
      · cases step
  | allocate info =>
      simp only [ReplicaCache.next] at step
      split at step
      · rename_i unused
        obtain rfl := Option.some.inj step
        exact ⟨balanced.allocate unused.1 (Option.isNone_iff_eq_none.mp unused.2) admitted, within⟩
      · cases step
  | free offset =>
      simp only [ReplicaCache.next] at step
      split at step
      · cases step
      · rename_i shared found
        split at step
        · rename_i unheld
          obtain rfl := Option.some.inj step
          exact ⟨balanced.free found unheld, within⟩
        · cases step
  | hold other offset holding =>
      simp only [ReplicaCache.next] at step
      split at step
      · rename_i allowed
        obtain rfl := Option.some.inj step
        refine ⟨balanced.hold allowed.2 allowed.1 holding, ?_⟩
        obtain ⟨shared, found⟩ := Option.isSome_iff_exists.mp allowed.2
        rw [updateReplicaHosts, found]
        exact within
      · cases step

theorem initial_kept (config : Config) : Kept config initial := by
  have balanced : BalancedIn config initial fun _ => 0 := by
    refine ⟨List.nodup_nil, ?_, ?_, ?_, ?_, rfl, fun _ => rfl, ?_, ?_, ?_, ?_, rfl, ?_⟩ <;>
      simp [initial, entries, blocksOf, infoOf]
  exact ⟨balanced, balanced.not_overfull rfl⟩

/-- In every state of every run the bookkeeping of replicas is exact. -/
theorem replicas_exact (reachable : Reachable config cache) : Exact config cache := by
  have kept := reachable.preserves (Kept config) (initial_kept config)
    fun _ _ _ kept admitted step => kept.next admitted step
  exact kept.balanced.exact_of_within kept.within

/-- A host with room for one block. -/
def smallConfig : Config := ⟨⟨0, kMaxHosts_pos⟩, 1, 64, by decide, by decide⟩

/-- An object of two blocks is allocated, and both blocks are read. -/
def smallReads : List Label :=
  [.allocate ⟨⟨0, 8832⟩, 128, 64, 0, 64, 2, 128⟩, .install 8832 0 0 (List.replicate 64 0) 0,
    .install 8832 1 4 (List.replicate 64 0) 0]

theorem replicas_exact_smallReads :
    ∃ cache, Reachable smallConfig cache ∧ cache.evicted.length = 1 ∧ cache.entries.length = 1 ∧
      Exact smallConfig cache := by
  have counts : (Run.runLabels (next smallConfig) initial smallReads).map
      (fun cache => (cache.evicted.length, cache.entries.length)) = some (1, 1) := by
    decide +kernel
  obtain ⟨cache, execution, lengths⟩ := Option.map_eq_some_iff.mp counts
  have admits : Run.AdmitsLabels (next smallConfig) Admitted initial smallReads := by
    constructor
    · intro offset shared found
      cases found
    split
    · trivial
    · refine Run.admitsLabels_of_forall (fun label member state => ?_) _
      rcases List.mem_pair.mp member with rfl | rfl
      · trivial
      · trivial
  have reachable : Reachable smallConfig cache := Run.reachesBy_of_runLabels execution admits
  rw [Prod.mk.injEq] at lengths
  exact ⟨cache, reachable, lengths.1, lengths.2, replicas_exact reachable⟩

end Cxloom.LoomMem.ReplicaCache
