import Cxloom.LoomMem.ReplicaBookkeeping

/-!
# What the replica caches share

A host changes only its own bit in the descriptors of published objects, so the bookkeeping of every
other host stays exact.
-/

namespace Cxloom.LoomMem.ReplicaCache

variable {config : Config} {cache before middle after : ReplicaCache}

/-- Whether the descriptor of an object names a host as a holder. -/
def heldBy (host : HostId) (cache : ReplicaCache) (offset : Nat) : Bool :=
  match cache.objects offset with
  | none => false
  | some shared => shared.replicaHosts.contains host.val

/-- A change that other hosts do not see. -/
structure Private (config : Config) (before after : ReplicaCache) : Prop where
  /-- The same objects are published. -/
  infos : ∀ offset, after.infoOf offset = before.infoOf offset
  /-- Other hosts hold what they held. -/
  others : ∀ host : HostId, host ≠ config.localHost → ∀ offset,
    heldBy host after offset = heldBy host before offset

namespace Private

theorem refl (config : Config) (cache : ReplicaCache) : Private config cache cache :=
  ⟨fun _ => rfl, fun _ _ _ => rfl⟩

theorem trans (first : Private config before middle) (second : Private config middle after) :
    Private config before after :=
  ⟨fun offset => (second.infos offset).trans (first.infos offset),
    fun host foreign offset => (second.others host foreign offset).trans
      (first.others host foreign offset)⟩

theorem of_objects (same : after.objects = before.objects) : Private config before after :=
  ⟨fun offset => by rw [infoOf, infoOf, same],
    fun host _ offset => by rw [heldBy, heldBy, same]⟩

theorem updateReplicaHosts (cache : ReplicaCache) (offset : Nat) {change : HostMask → HostMask}
    (own : ∀ mask, ∀ host : HostId, host ≠ config.localHost →
      (change mask).contains host.val = mask.contains host.val) :
    Private config cache (cache.updateReplicaHosts offset change) := by
  refine ⟨updateReplicaHosts_infoOf cache offset change, fun host foreign other => ?_⟩
  rw [ReplicaCache.updateReplicaHosts]
  cases found : cache.objects offset with
  | none => rfl
  | some shared =>
      simp only [heldBy]
      by_cases same : other = offset
      · subst same
        rw [Function.update_self, found]
        exact own shared.replicaHosts host foreign
      · rw [Function.update_of_ne same]

theorem leave (cache : ReplicaCache) (offset : Nat) :
    Private config cache
      (cache.updateReplicaHosts offset (· &&& ~~~HostMask.bit config.localHost.val)) := by
  refine updateReplicaHosts cache offset fun mask host foreign => ?_
  rw [HostMask.contains_and_not_bit _ host.isLt]
  simp [Fin.val_inj, foreign]

theorem join (cache : ReplicaCache) (offset : Nat) :
    Private config cache
      (cache.updateReplicaHosts offset (· ||| HostMask.bit config.localHost.val)) := by
  refine updateReplicaHosts cache offset fun mask host foreign => ?_
  rw [HostMask.contains_or_bit _ host.isLt]
  simp [Fin.val_inj, foreign]

theorem storeReplicaVersion (cache : ReplicaCache) (object : GlobalPointer)
    (blockIndex version : Nat) :
    Private config cache (cache.storeReplicaVersion object blockIndex version) := by
  rw [ReplicaCache.storeReplicaVersion]
  split
  · exact refl config cache
  · exact of_objects rfl

theorem eraseReplica (cache : ReplicaCache) (age : Age) (key : Nat) (entry : CachedReplica) :
    Private config cache (ReplicaCache.eraseReplica config cache age key entry) := by
  rw [ReplicaCache.eraseReplica]
  split
  · exact of_objects rfl
  · rename_i object _
    have stored := @storeReplicaVersion config cache object.info.gptr entry.blockIndex 0
    dsimp only
    split
    · refine (stored.trans (of_objects ?_)).trans (leave _ entry.objectOffset) |>.trans
        (of_objects rfl)
      rfl
    · exact stored.trans (of_objects rfl)

theorem eraseWhere (test : CachedReplica → Bool) (age : Age)
    (items : List (Nat × CachedReplica)) (cache : ReplicaCache) :
    Private config cache (ReplicaCache.eraseWhere config test age items cache) := by
  induction items generalizing cache with
  | nil => exact refl config cache
  | cons item rest induction =>
      rw [ReplicaCache.eraseWhere]
      split
      · exact (eraseReplica cache age item.1 item.2).trans (induction _)
      · exact induction cache

theorem eraseKey (cache : ReplicaCache) (age : Age) (key : Nat) :
    Private config cache (ReplicaCache.eraseKey config cache age key) := by
  rw [ReplicaCache.eraseKey]
  split
  · exact refl config cache
  · exact eraseReplica cache age key _

theorem invalidateBlock (cache : ReplicaCache) (key : Nat) :
    Private config cache (ReplicaCache.invalidateBlock config cache key) :=
  (eraseKey cache .current key).trans (eraseKey _ .old key)

theorem evictLoop (bound : Nat) (cache : ReplicaCache) :
    Private config cache (ReplicaCache.evictLoop config bound cache) := by
  induction bound generalizing cache with
  | zero => exact refl config cache
  | succ bound induction =>
      rw [ReplicaCache.evictLoop]
      split
      · split
        · exact refl config cache
        · rename_i age key entry _
          have noted : Private config cache
              { cache with evicted := ⟨entry, cache.entries.map Prod.snd⟩ :: cache.evicted } :=
            of_objects rfl
          exact (noted.trans (eraseReplica _ age key entry)).trans (induction _)
      · exact refl config cache

theorem enlist (cache : ReplicaCache) (info : AllocationInfo) :
    Private config cache (ReplicaCache.enlist config cache info) := by
  rw [ReplicaCache.enlist]
  split
  · exact (join cache info.gptr.offset).trans (of_objects rfl)
  · exact of_objects rfl

theorem cacheReplica (cache : ReplicaCache) (place key : Nat) (info : AllocationInfo)
    (blockIndex version : Nat) (storage : List UInt8) :
    Private config cache
      (ReplicaCache.cacheReplica config cache place key info blockIndex version storage) := by
  have cleared := (enlist cache info).trans (@invalidateBlock config _ key)
  have emplaced : Private config
      (ReplicaCache.invalidateBlock config (ReplicaCache.enlist config cache info) key)
      (ReplicaCache.emplace
        (ReplicaCache.invalidateBlock config (ReplicaCache.enlist config cache info) key)
        place key info blockIndex version storage) := of_objects rfl
  exact ((cleared.trans emplaced).trans
    (storeReplicaVersion _ info.gptr blockIndex (add64 version 1))).trans (evictLoop _ _)

theorem touch (cache : ReplicaCache) (key offset : Nat) :
    Private config cache (ReplicaCache.touch cache key offset) := by
  rw [ReplicaCache.touch]
  split
  · exact refl config cache
  · split
    · exact of_objects rfl
    · exact refl config cache

end Private

/-- Transitions of a host on its own cache. -/
def Label.Own : Label → Prop
  | .install .. | .touch .. | .invalidateObject .. | .invalidateBlock .. | .synchronizeAcquire
  | .rehash .. => True
  | .allocate .. | .free .. | .hold .. => False

/-- A host that works on its own cache leaves other hosts alone. -/
theorem next_private {label : Label} (own : label.Own)
    (step : next config cache label = some after) : Private config cache after := by
  cases label with
  | install offset blockIndex version storage place =>
      simp only [next] at step
      split at step
      · cases step
      · split at step
        · obtain rfl := Option.some.inj step
          exact .cacheReplica cache place _ _ blockIndex version storage
        · cases step
  | touch key offset =>
      obtain rfl := Option.some.inj step
      exact .touch cache key offset
  | invalidateObject offset =>
      obtain rfl := Option.some.inj step
      exact (Private.eraseWhere _ .current _ cache).trans (Private.eraseWhere _ .old _ _)
  | invalidateBlock key =>
      obtain rfl := Option.some.inj step
      exact .invalidateBlock cache key
  | synchronizeAcquire =>
      obtain rfl := Option.some.inj step
      exact (Private.eraseWhere _ .old _ cache).trans (.of_objects rfl)
  | rehash order =>
      simp only [next] at step
      split at step
      · obtain rfl := Option.some.inj step
        exact .of_objects rfl
      · cases step
  | allocate | free | hold => exact own.elim

/-- A transition of a host on its own cache needs no other condition. -/
theorem Label.Own.admitted {label : Label} (own : label.Own) (cache : ReplicaCache) :
    Admitted cache label := by
  cases label with
  | allocate => exact own.elim
  | _ => trivial

/-- The bookkeeping of a host stays exact while other hosts change their bits. -/
theorem Kept.of_private {objects : Nat → Option SharedObject} (kept : Kept config cache)
    (infos : ∀ offset, infoOf { cache with objects := objects } offset = cache.infoOf offset)
    (others : ∀ offset, heldBy config.localHost { cache with objects := objects } offset =
      heldBy config.localHost cache offset) :
    Kept config { cache with objects := objects } :=
  ⟨kept.balanced.of_holders infos others, kept.within⟩

end Cxloom.LoomMem.ReplicaCache
