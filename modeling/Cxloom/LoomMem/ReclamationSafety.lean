import Cxloom.LoomMem.ReclamationPolling

/-!
# Reclamation safety

When `Free` returns an object to the extent pools, no host has anything of it any more.
-/

namespace Cxloom.LoomMem.Reclamation

variable {cluster : Cluster} {limits : cluster.Host → CacheLimits}
  {config after : Reclamation cluster} {host : cluster.Host} {object : GlobalPointer}
  {pinned : Bool} {extents : Status}

/-- What holds of an object whose storage may be used again. -/
structure Reclaimed (config : Reclamation cluster) (object : GlobalPointer) : Prop where
  acknowledged : ∀ phase, Active phase → ∀ host : cluster.Host,
    ∃ acknowledgement ∈ config.accepted,
      acknowledgement.sequence = config.retirement.current.sequence ∧
        acknowledgement.phase = phase ∧ acknowledgement.host = hostId host
  sealedHosts : ∀ host : cluster.Host,
    (config.descriptor object).sealedHosts.contains host = true
  activeOperations : ∀ host, (config.descriptor object).activeOperations host = 0
  replicaHosts : (config.descriptor object).replicaHosts = 0#64
  /-- No request is under way. -/
  waiters : ∀ host requestId waiter, config.state.waiter host requestId = some waiter →
    waiter.object ≠ object
  /-- No request waits at a block. -/
  pending : ∀ host index, (config.state.localObject host ⟨object, index⟩).pending = []
  held : ∀ host index, (config.state.localObject host ⟨object, index⟩).held = false
  replicas : ∀ host, ∀ item ∈ (config.cache host).entries, item.2.objectOffset ≠ object.offset
  /-- No deferred packet is about the object. -/
  outbound : ∀ host destination, ∀ packet ∈ config.state.outbound host destination,
    packet.object ≠ some object
  /-- No packet in flight is about the object. -/
  channels : ∀ source destination, ∀ packet ∈ (config.state.channel source destination).packets,
    packet.object ≠ some object
  /-- No handler works on a packet about the object. -/
  handlers : ∀ host packet, config.poller host = .handling packet → packet.object ≠ some object

/-! ## Free -/

/-- What `Free` checks, and what it does. -/
theorem free_eq_ok (freed : config.free host object pinned extents = (.ok, after)) :
    config.retirement.current.phase = .reclaimable ∧ config.retirement.current.object = object ∧
      (config.descriptor object).replicaHosts = 0#64 ∧
      (∀ active, (config.descriptor object).activeOperations active = 0) ∧
      after =
        { config.setDescriptor object { config.descriptor object with state := .empty } with
          retirement :=
            { config.retirement with
              current := { config.retirement.current with phase := .idle } } } := by
  simp only [free] at freed
  split at freed
  · cases freed
  · rename_i reclaimable
    push Not at reclaimable
    split at freed
    · cases freed
    · split at freed
      · cases freed
      · split at freed
        · rename_i missing
          rw [Prod.mk.injEq] at freed
          rw [freed.1] at missing
          exact (missing rfl).elim
        · split at freed
          · cases freed
          · rename_i unheld
            split at freed
            · cases freed
            · rename_i quiet
              push Not at quiet
              split at freed
              · rename_i refused
                rw [Prod.mk.injEq] at freed
                rw [freed.1] at refused
                exact (refused rfl).elim
              · rw [Prod.mk.injEq] at freed
                exact ⟨reclaimable.1, reclaimable.2.1, not_not.mp unheld, quiet, freed.2.symm⟩

theorem free_unchanged (config : Reclamation cluster) (host : cluster.Host) (object : GlobalPointer)
    (pinned : Bool) (extents : Status) :
    (config.free host object pinned extents).2 = config ∨
      (config.free host object pinned extents).1 = .ok := by
  simp only [free]
  split_ifs <;> simp

/-- What the completed phases have established. -/
structure Completed (config : Reclamation cluster) (object : GlobalPointer) : Prop where
  retiring : (config.state.descriptor object).state = .retiring
  closed : ∀ host, Closed config.state object config.retirement.watermarks host
  drained : ∀ source destination, (config.state.channel source destination).Clear object
  handlers : ∀ host packet, config.poller host = .handling packet → packet.object ≠ some object
  acknowledged : ∀ phase, Active phase → ∀ host : cluster.Host,
    ∃ acknowledgement ∈ config.accepted,
      acknowledgement.sequence = config.retirement.current.sequence ∧
        acknowledgement.phase = phase ∧ acknowledgement.host = hostId host

theorem Invariant.completed (invariant : Invariant limits config)
    (reclaimable : config.retirement.current.phase = .reclaimable) :
    Completed config config.retirement.current.object := by
  have busy : config.retirement.current.phase ≠ .idle := by
    rw [reclaimable]
    decide
  have progressing := invariant.progressing busy
  have closed := progressing.allClosed (by rw [reclaimable]; decide)
  have drained := progressing.allDrained (.inr reclaimable)
  refine ⟨progressing.retiring, fun host => progressing.closed host (closed host),
    fun source destination => (progressing.drained destination (drained destination)).2 source,
    fun host packet handling about => ?_, fun phase active host => ?_⟩
  · have standing := invariant.standing host
    rw [handling] at standing
    exact (standing _ about).2 busy (drained host) rfl
  · refine progressing.logged phase host ?_ active
    rcases active with rfl | rfl | rfl
    · exact closed host
    · exact drained host
    · exact progressing.allCleaned reclaimable host

theorem Invariant.unreplicated (invariant : Invariant limits config)
    (region : object.regionId = 0) (stays : (config.descriptor object).state ≠ .empty)
    (unheld : (config.descriptor object).replicaHosts = 0#64) (host : cluster.Host) :
    ∀ item ∈ (config.cache host).entries, item.2.objectOffset ≠ object.offset := by
  intro item member same
  have pointer : (⟨0, object.offset⟩ : GlobalPointer) = object := by rw [← region]
  have balanced := (invariant.kept host).balanced
  have published : (config.view host).objects object.offset =
      some ⟨config.info object, (config.descriptor object).replicaHosts⟩ := by
    simp only [view, sharedObjects, pointer, if_neg stays]
  have counted : 0 < ReplicaCache.blocksOf (config.view host).entries object.offset :=
    List.countP_pos_iff.mpr ⟨item, member, by simpa using same⟩
  have recorded := (balanced.present object.offset).mpr (by simpa using counted)
  rw [← balanced.holders object.offset, ReplicaCache.holds, published] at recorded
  simp [unheld] at recorded

theorem Invariant.reclaimed (invariant : Invariant limits config)
    (freed : config.free host object pinned extents = (.ok, after)) : Reclaimed after object := by
  obtain ⟨reclaimable, rfl, unheld, quiet, rfl⟩ := free_eq_ok freed
  have completed := invariant.completed reclaimable
  have unreplicated := invariant.unreplicated (invariant.sound.valid _ completed.retiring).1
    (by rw [descriptor, completed.retiring]; decide) unheld
  have descriptors := setDescriptor_descriptor config config.retirement.current.object
    { config.descriptor config.retirement.current.object with state := .empty }
    config.retirement.current.object
  rw [if_pos rfl] at descriptors
  exact
    { acknowledged := completed.acknowledged
      sealedHosts := fun host =>
        (congrArg (fun found => found.sealedHosts.contains host.val) descriptors).trans
          (completed.closed host).sealedHost
      activeOperations := fun host =>
        (congrArg (fun found => found.activeOperations host) descriptors).trans (quiet host)
      replicaHosts := (congrArg AllocationDescriptor.replicaHosts descriptors).trans unheld
      waiters := fun host => (completed.closed host).rid.waiters
      pending := fun host index => ((completed.closed host).rid.blocks index).1
      held := fun host index => ((completed.closed host).rid.blocks index).2
      replicas := unreplicated
      outbound := fun host => (completed.closed host).rid.outbound
      channels := completed.drained
      handlers := completed.handlers }

/-! ## Runs -/

/-- Every host sees that an object without holders ends. -/
theorem free_view (region : object.regionId = 0) (stays : (config.descriptor object).state ≠ .empty)
    (unheld : (config.descriptor object).replicaHosts = 0#64) (other : cluster.Host) :
    ReplicaCache.next ((limits other).config other) (config.view other) (.free object.offset) =
      some ((config.setDescriptor object
        { config.descriptor object with state := .empty }).view other) := by
  have place : ∀ offset, (⟨0, offset⟩ : GlobalPointer) = object ↔ offset = object.offset := by
    intro offset
    cases object
    simp_all
  have published : config.sharedObjects object.offset =
      some ⟨config.info object, (config.descriptor object).replicaHosts⟩ := by
    simp only [sharedObjects, (place _).mpr rfl, if_neg stays]
  have freed : ReplicaCache.next ((limits other).config other) (config.view other)
      (.free object.offset) =
        some { config.view other with
          objects := Function.update config.sharedObjects object.offset none } := by
    simp [ReplicaCache.next, view, published, unheld]
  have ended : (config.setDescriptor object
      { config.descriptor object with state := .empty }).sharedObjects =
        Function.update config.sharedObjects object.offset none := by
    funext offset
    rw [sharedObjects, setDescriptor_descriptor]
    by_cases same : offset = object.offset
    · rw [same, (place _).mpr rfl, Function.update_self]
      simp
    · rw [if_neg ((place offset).not.mpr same), Function.update_of_ne same]
      rfl
  rw [freed, ← ended]
  rfl

theorem Invariant.free (invariant : Invariant limits config) (host : cluster.Host)
    (object : GlobalPointer) (pinned : Bool) (extents : Status) :
    Invariant limits (config.free host object pinned extents).2 := by
  rcases free_unchanged config host object pinned extents with stays | freed
  · rw [stays]
    exact invariant
  · generalize result : config.free host object pinned extents = outcome at freed
    obtain ⟨status, after⟩ := outcome
    obtain rfl : status = .ok := freed
    obtain ⟨reclaimable, rfl, unheld, -, rfl⟩ := free_eq_ok result
    have completed := invariant.completed reclaimable
    have region := (invariant.sound.valid _ completed.retiring).1
    refine ⟨?_, fun busy => (busy rfl).elim, fun other => ?_, fun other => ?_⟩
    · exact @sound_update _ config.retirement.current.object _ _ invariant.sound
        { config.descriptor config.retirement.current.object with state := .empty } rfl rfl rfl
        (fun same => by cases same) (fun other index => invariant.sound.beyond other ⟨_, index⟩)
        (fun _ other => (completed.closed other).rid) (fun _ => completed.drained)
    · have standing := invariant.standing other
      have unowed : ∀ transaction, ¬Owes config.retirement other transaction := by
        intro transaction owes
        have active := owes.active
        rw [owes.current, reclaimable] at active
        rcases active with phase | phase | phase <;> cases phase
      refine standing.passive unowed (fun _ known => ⟨known.past, known.same, known.active⟩)
        fun packet handling => ?_
      rw [handling] at standing
      intro object about
      refine ⟨?_, fun busy => (busy rfl).elim⟩
      have apart : object ≠ config.retirement.current.object := fun same =>
        completed.handlers other packet handling (about.trans (congrArg some same))
      have kept := setDescriptor_descriptor config config.retirement.current.object
        { config.descriptor config.retirement.current.object with state := .empty } object
      rw [if_neg apart] at kept
      intro gone
      exact (standing object about).1 ((congrArg AllocationDescriptor.state kept).symm.trans gone)
    · have stays : (config.descriptor config.retirement.current.object).state ≠ .empty := by
        rw [descriptor, completed.retiring]
        decide
      have admitted : ReplicaCache.Admitted (config.view other)
          (.free config.retirement.current.object.offset) := trivial
      exact (invariant.kept other).next admitted (free_view region stays unheld other)

theorem Invariant.initial (limits : cluster.Host → CacheLimits) :
    Invariant limits (initial cluster) where
  sound :=
    { filed := fun host key request member => by cases member
      beyond := fun host key _ => ⟨rfl, rfl⟩
      rid := fun object _ host =>
        { unallocated := by
            change AllocationState.empty ≠ _
            decide
          waiters := fun requestId waiter found => by cases found
          blocks := fun index => ⟨rfl, rfl⟩
          outbound := fun destination packet member => by cases member }
      clear := fun object _ source destination packet member => by cases member
      valid := fun object retires => by cases retires
      loopback := fun host packet member => by cases member }
  progressing busy := (busy rfl).elim
  standing _ := trivial
  kept host := ReplicaCache.initial_kept ((limits host).config host)

/-- Every transition keeps the invariant. -/
theorem Invariant.next (invariant : Invariant limits config) {label : Label cluster}
    (admitted : Admitted config label)
    (step : Reclamation.next limits config label = some after) : Invariant limits after := by
  cases label with
  | token op => exact invariant.token step
  | acquireReference host object allowRetiring =>
      obtain rfl := Option.some.inj step
      exact invariant.acquireReference host object allowRetiring
  | releaseReference host object =>
      obtain rfl := Option.some.inj step
      exact invariant.releaseReference host object
  | cache host label => exact invariant.runCache step
  | allocate host info => exact invariant.allocate admitted step
  | registerAllocation host object =>
      obtain rfl := Option.some.inj step
      exact invariant.registerAllocation host object
  | beginRetire host object =>
      obtain rfl := Option.some.inj step
      exact invariant.beginRetire host object
  | pop source destination => exact invariant.pop step
  | handle host => exact invariant.handle step
  | poll host order => exact invariant.poll step
  | free host object pinned extents =>
      obtain rfl := Option.some.inj step
      exact invariant.free host object pinned extents

theorem Reachable.invariant (reachable : Reachable limits config) : Invariant limits config :=
  reachable.preserves (Invariant limits) (Invariant.initial limits)
    fun _ _ _ invariant admitted step => invariant.next admitted step

/-- When `Free` succeeds in any state of any run, every host has acknowledged all phases of the
transaction, and nothing of the object is left on any host or in any queue. -/
theorem free_reclaims (reachable : Reachable limits config)
    (freed : config.free host object pinned extents = (.ok, after)) : Reclaimed after object :=
  reachable.invariant.reclaimed freed

/-- Two hosts with queues of four packets. -/
def twoHosts : Cluster := ⟨2, 4, Nat.two_pos, two_le_kMaxHosts⟩

/-- Room for four blocks on every host. -/
def smallLimits (_ : twoHosts.Host) : CacheLimits := ⟨4, 4096, by decide, by decide⟩

/-- The host that allocates and frees. -/
def owner : twoHosts.Host := ⟨0, by decide⟩

def user : twoHosts.Host := ⟨1, by decide⟩

/-- An object of one block. -/
def smallInfo : AllocationInfo := ⟨⟨0, 8832⟩, 64, 64, 0, 64, 1, 128⟩

/-- The other host reads and writes the object before its owner retires it. -/
def shares : List (Label twoHosts) :=
  [.allocate owner smallInfo, .registerAllocation owner smallInfo.gptr,
    .acquireReference user smallInfo.gptr false,
    .cache user (.install 8832 0 0 (List.replicate 64 0) 0), .releaseReference user smallInfo.gptr,
    .token (.request user ⟨smallInfo.gptr, 0⟩ true), .pop user owner, .handle owner,
    .pop owner user, .handle user, .token (.wait user 1), .token (.release user 1 true),
    .beginRetire owner smallInfo.gptr]

def acknowledges (ownerSteps userSteps : Nat) (order other : List Nat) : List (Label twoHosts) :=
  List.replicate ownerSteps (.poll owner order) ++ List.replicate userSteps (.poll user other)

/-- The object is retired. -/
def retires : List (Label twoHosts) :=
  shares ++ acknowledges 8 8 [0] [0, 1] ++ acknowledges 8 8 [0] [0, 1] ++ acknowledges 7 7 [] []

theorem free_reclaims_twoHosts :
    ∃ config after, Reachable smallLimits config ∧
      config.free owner smallInfo.gptr false .ok = (.ok, after) ∧
      Reclaimed after smallInfo.gptr := by
  have frees : (Run.runLabels (next smallLimits) (initial twoHosts) retires).any (fun config =>
      (config.free owner smallInfo.gptr false .ok).1 = .ok) = true := by
    decide +kernel
  obtain ⟨config, execution, freed⟩ := (Option.any_eq_true _ _).mp frees
  have admits : Run.AdmitsLabels (next smallLimits) Admitted (initial twoHosts) retires := by
    constructor
    · intro object exists_
      exact (exists_ rfl).elim
    split
    · trivial
    · refine Run.admitsLabels_of_forall (fun label member state => ?_) _
      cases label with
      | allocate => simp [acknowledges] at member
      | _ => trivial
  have reachable : Reachable smallLimits config := Run.reachesBy_of_runLabels execution admits
  have result : config.free owner smallInfo.gptr false .ok =
      (.ok, (config.free owner smallInfo.gptr false .ok).2) :=
    Prod.ext (of_decide_eq_true freed) rfl
  exact ⟨config, _, reachable, result, free_reclaims reachable result⟩

end Cxloom.LoomMem.Reclamation
