import Cxloom.LoomMem.ReclamationInvariant

/-!
# Steps of a reclamation

Every transition keeps the invariant.  A seal stops the references of its host, a closed object
stops its token messages, and an acknowledgement that completes a phase is the last one that it
needed.
-/

namespace Cxloom.LoomMem.Reclamation

variable {cluster : Cluster} {limits : cluster.Host → CacheLimits}
  {config after : Reclamation cluster} {host : cluster.Host} {object : GlobalPointer}

/-! ## Descriptors -/

@[simp] theorem setDescriptor_descriptor (config : Reclamation cluster) (object : GlobalPointer)
    (value : AllocationDescriptor cluster) (other : GlobalPointer) :
    (config.setDescriptor object value).descriptor other =
      if other = object then value else config.descriptor other := by
  simp [setDescriptor, descriptor, withState, state, TokenConfig.withState, Function.update_apply]

/-- A change of a descriptor that ends no object, creates none and admits nothing behind a seal. -/
theorem keeps_setDescriptor (sound : config.state.Sound) {value : AllocationDescriptor cluster}
    (lifecycle : value.state = (config.descriptor object).state ∨
      (config.descriptor object).state = .allocated ∧ value.state = .retiring ∧
        object.regionId = 0 ∧ object.offset ≠ 0)
    (blockCount : value.coherenceBlockCount = (config.descriptor object).coherenceBlockCount)
    (sealedHosts : ∀ host : cluster.Host,
      (config.descriptor object).sealedHosts.contains host = true →
      value.sealedHosts.contains host = true)
    (quiet : ∀ host : cluster.Host, (config.descriptor object).sealedHosts.contains host = true →
      (config.descriptor object).activeOperations host = 0 → value.activeOperations host = 0) :
    config.state.Keeps (config.setDescriptor object value).state := by
  have shape : ∀ other, (config.setDescriptor object value).state.descriptor other =
      if other = object then value else config.state.descriptor other :=
    setDescriptor_descriptor config object value
  refine @TokenState.Keeps.of_descriptor cluster config.state
    (config.setDescriptor object value).state sound.filed rfl rfl ?_ ?_ ?_ ?_
  all_goals
    intro other
    rw [shape]
    by_cases same : other = object
    · subst same
      simpa only [if_true]
    · simp [same]

/-- The replica caches see whether an object exists and who holds it. -/
theorem setDescriptor_view {value : AllocationDescriptor cluster}
    (existence : value.state = .empty ↔ (config.descriptor object).state = .empty)
    (replicaHosts : value.replicaHosts = (config.descriptor object).replicaHosts)
    (other : cluster.Host) :
    (config.setDescriptor object value).view other = config.view other := by
  refine view_congr config (config.setDescriptor object value) rfl rfl (fun held => ?_)
    (fun held => ?_) other
  all_goals
    rw [setDescriptor_descriptor]
    by_cases same : held = object
    · rw [if_pos same, same]
      assumption
    · rw [if_neg same]

/-- A change of a descriptor that the replica caches do not see. -/
theorem Invariant.describe (invariant : Invariant limits config)
    {value : AllocationDescriptor cluster}
    (lifecycle : value.state = (config.descriptor object).state)
    (blockCount : value.coherenceBlockCount = (config.descriptor object).coherenceBlockCount)
    (sealedHosts : value.sealedHosts = (config.descriptor object).sealedHosts)
    (quiet : ∀ host : cluster.Host, (config.descriptor object).sealedHosts.contains host = true →
      (config.descriptor object).activeOperations host = 0 → value.activeOperations host = 0)
    (replicaHosts : value.replicaHosts = (config.descriptor object).replicaHosts) :
    Invariant limits (config.setDescriptor object value) := by
  have keeps := keeps_setDescriptor invariant.sound (.inl lifecycle) blockCount
    (fun host sealed => by rwa [sealedHosts]) quiet
  refine invariant.keep keeps rfl rfl (fun _ => .inl rfl) fun host => ?_
  rw [setDescriptor_view (by rw [lifecycle]) replicaHosts]
  exact invariant.kept host

/-- A poller moves to a point whose conditions hold. -/
theorem standing_setPoller {point : PollerPoint cluster}
    (standing : Standing config.state config.retirement host point) (other : cluster.Host) :
    (config.setPoller host point).poller other = config.poller other ∨
      Standing config.state config.retirement other
        ((config.setPoller host point).poller other) := by
  by_cases same : other = host
  · subst same
    rw [setPoller]
    simpa using Or.inr standing
  · exact .inl (Function.update_of_ne same _ _)

/-! ## References -/

theorem Invariant.acquireReference (invariant : Invariant limits config) (host : cluster.Host)
    (object : GlobalPointer) (allowRetiring : Bool) :
    Invariant limits (config.acquireReference host object allowRetiring).2 := by
  simp only [Reclamation.acquireReference]
  split
  · rename_i found
    have unsealed := (TokenState.reaches_of_referenceStatus found).unsealed
    refine invariant.describe rfl rfl rfl (fun other sealed quiet => ?_) rfl
    have different : other ≠ host := by
      rintro rfl
      rw [descriptor, unsealed] at sealed
      cases sealed
    simpa [different] using quiet
  · exact invariant

theorem Invariant.releaseReference (invariant : Invariant limits config) (host : cluster.Host)
    (object : GlobalPointer) : Invariant limits (config.releaseReference host object).2 := by
  simp only [Reclamation.releaseReference]
  split
  · exact invariant
  · refine invariant.describe rfl rfl rfl (fun other _ quiet => ?_) rfl
    by_cases same : other = host
    · subst same
      simp [quiet]
    · simpa [same] using quiet

/-! ## Token services -/

theorem Invariant.token (invariant : Invariant limits config) {op : TokenOp cluster}
    (step : next limits config (.token op) = some after) : Invariant limits after := by
  simp only [next] at step
  split at step
  · cases step
  · rename_i undelivered
    obtain ⟨tokens, performed, rfl⟩ := Option.map_eq_some_iff.mp step
    obtain ⟨⟨status, reached⟩, stepped, rfl⟩ := Option.map_eq_some_iff.mp performed
    have confined := TokenConfig.step_confined stepped (fun source destination same => by
      rw [same] at undelivered
      exact undelivered rfl) (invariant.sound.filed _)
    exact invariant.confined confined rfl rfl rfl rfl rfl fun _ => .inl rfl

theorem Invariant.registerAllocation (invariant : Invariant limits config) (host : cluster.Host)
    (object : GlobalPointer) :
    Invariant limits (config.withState (config.state.registerAllocation host object).2) :=
  invariant.confined (.registerAllocation (invariant.sound.filed host) object) rfl rfl rfl rfl rfl
    fun _ => .inl rfl

/-- A poller pops packets about objects that exist; behind its draining acknowledgement none is
about the object that retires. -/
theorem Invariant.pop (invariant : Invariant limits config) {source destination : cluster.Host}
    (step : config.pop source destination = some after) : Invariant limits after := by
  simp only [Reclamation.pop] at step
  split at step
  · split at step
    · obtain ⟨⟨packet, popped⟩, performed, rfl⟩ := Option.map_eq_some_iff.mp step
      have keeps := TokenState.Keeps.pop invariant.sound.filed performed
      obtain ⟨descriptors, -, -, packets, -⟩ := TokenState.pop_eq_some performed
      have member : packet ∈ (config.state.channel source destination).packets := by
        rw [packets]
        exact List.mem_cons_self
      have standing : Standing popped config.retirement destination (.handling packet) := by
        intro object about
        constructor
        · intro empty
          exact invariant.sound.clear object (keeps.empty empty) source destination packet member
            about
        · rintro busy acknowledged rfl
          exact ((invariant.progressing busy).drained destination acknowledged).2 source packet
            member about
      refine invariant.keep keeps rfl rfl
        (@standing_setPoller cluster (config.withState popped) destination _ standing)
        fun other => ?_
      have same : ((config.withState popped).setPoller destination (.handling packet)).view other =
          config.view other :=
        view_congr config ((config.withState popped).setPoller destination (.handling packet)) rfl
          rfl keeps.existence (fun object =>
          congrArg AllocationDescriptor.replicaHosts (congrFun descriptors object)) other
      rw [same]
      exact invariant.kept other
    · cases step
  · cases step

theorem Invariant.handle (invariant : Invariant limits config)
    (step : config.handle host = some after) : Invariant limits after := by
  simp only [Reclamation.handle] at step
  split at step
  · rename_i packet point
    obtain rfl := Option.some.inj step
    have standing := invariant.standing host
    rw [point] at standing
    have confined : config.state.Confined host (config.state.handleMessage host packet).2 := by
      refine .handleMessage (invariant.sound.filed host) fun object about stays => ?_
      cases lifecycle : (config.state.descriptor object).state with
      | empty => exact ((standing object about).1 lifecycle).elim
      | allocated => rfl
      | retiring =>
          obtain ⟨region, offset⟩ := invariant.sound.valid object lifecycle
          simp [TokenState.isRetiring, region, offset, lifecycle] at stays
    exact invariant.confined confined rfl rfl rfl rfl rfl
      (@standing_setPoller cluster
        (config.withState (config.state.handleMessage host packet).2) host
        .scanning trivial)
  · cases step

/-! ## Replica caches -/

/-- What a host stores is what it sees afterwards. -/
theorem store_view (cache : ReplicaCache)
    (infos : ∀ offset, cache.infoOf offset = (config.view host).infoOf offset)
    (other : cluster.Host) :
    (config.store host cache).view other =
      { (if other = host then cache else config.cache other) with objects := cache.objects } := by
  have objects : (config.store host cache).sharedObjects = cache.objects := by
    funext offset
    have shape := infos offset
    simp only [ReplicaCache.infoOf, view, sharedObjects] at shape
    simp only [sharedObjects, store, descriptor, state, TokenConfig.withState]
    cases found : cache.objects offset with
    | none =>
        rw [found] at shape
        simp only [Option.map_none] at shape
        split at shape
        · rename_i empty
          exact if_pos empty
        · cases shape
    | some shared =>
        rw [found] at shape
        split at shape
        · cases shape
        · rename_i exists_
          simp only [Option.map_some, Option.some.injEq] at shape
          have present : (config.tokens.state.descriptor ⟨0, offset⟩).state ≠ .empty := exists_
          simp [present, ← shape]
  rw [view, objects]
  by_cases same : other = host
  · subst same
    simp [store]
  · simp [store, same]

theorem Invariant.runCache (invariant : Invariant limits config) {label : ReplicaCache.Label}
    (step : config.runCache limits host label = some after) :
    Invariant limits after := by
  simp only [Reclamation.runCache] at step
  split at step
  · rename_i fills
    obtain ⟨cache, performed, rfl⟩ := Option.map_eq_some_iff.mp step
    have own : label.Own := by
      cases label with
      | allocate | free | hold => exact fills.elim
      | _ => trivial
    have separate := ReplicaCache.next_private own performed
    have unchanged : ∀ object, (config.store host cache).descriptor object =
        { config.descriptor object with
          replicaHosts := ((config.store host cache).descriptor object).replicaHosts } := by
      intro object
      simp only [store, descriptor, state, TokenConfig.withState]
      split
      · rfl
      · split
        · rfl
        · rfl
    have keeps : config.state.Keeps (config.store host cache).state := by
      refine @TokenState.Keeps.of_descriptor cluster config.state (config.store host cache).state
        invariant.sound.filed rfl rfl ?_ ?_ ?_ ?_
      · intro object
        exact .inl (by rw [← descriptor, unchanged]; rfl)
      · intro object
        rw [← descriptor, unchanged]
        rfl
      · intro object other sealed
        rw [← descriptor, unchanged]
        exact sealed
      · intro object other _ quiet
        rw [← descriptor, unchanged]
        exact quiet
    refine invariant.keep keeps rfl rfl (fun _ => .inl rfl) fun other => ?_
    rw [store_view cache separate.infos]
    by_cases same : other = host
    · subst same
      rw [if_pos rfl]
      exact (invariant.kept other).next (own.admitted _) performed
    · rw [if_neg same]
      exact (invariant.kept other).of_private separate.infos
        (separate.others (hostId other) fun equal => same (hostId_injective equal))
  · cases step

/-! ## Allocation -/

/-- What a transaction established of an object stays while the object does. -/
theorem Closed.congr {before after : TokenState cluster} {watermarks : HostId → HostId → Nat}
    (closed : Closed before object watermarks host)
    (descriptor : after.descriptor object = before.descriptor object)
    (service : after.service = before.service) (channel : after.channel = before.channel) :
    Closed after object watermarks host where
  sealedHost := by
    rw [descriptor]
    exact closed.sealedHost
  quiet := by
    rw [descriptor]
    exact closed.quiet
  rid := closed.rid.congr (by rw [service]) (by rw [descriptor]; exact closed.rid.unallocated)
  marked other apart := by
    rw [channel]
    exact closed.marked other apart

theorem Progressing.congr {before after : TokenState cluster} {control : RetirementControl}
    {accepted : List Acknowledgement} (progressing : Progressing before control accepted)
    (descriptor : after.descriptor control.current.object =
      before.descriptor control.current.object)
    (service : after.service = before.service) (channel : after.channel = before.channel) :
    Progressing after control accepted where
  retiring := by
    rw [descriptor]
    exact progressing.retiring
  participants := progressing.participants
  closed other acknowledged :=
    (progressing.closed other acknowledged).congr descriptor service channel
  drained := by
    rw [channel]
    exact progressing.drained
  allClosed := progressing.allClosed
  allDrained := progressing.allDrained
  allCleaned := progressing.allCleaned
  logged := progressing.logged

theorem Sampled.congr {before after : TokenState cluster} {transaction : RetirementSnapshot}
    {cursors : HostId → Nat} {bound : Nat} (sampled : Sampled before host transaction cursors bound)
    (descriptor : after.descriptor transaction.object = before.descriptor transaction.object)
    (service : after.service = before.service) (channel : after.channel = before.channel) :
    Sampled after host transaction cursors bound where
  rid closing := (sampled.rid closing).congr (by rw [service])
    (by rw [descriptor]; exact (sampled.rid closing).unallocated)
  marked := by
    rw [channel]
    exact sampled.marked
  reached := by
    rw [channel]
    exact sampled.reached

/-- A poller stands where it stood while the objects that exist stay. -/
theorem Standing.congr {before after : TokenState cluster} {control : RetirementControl}
    {point : PollerPoint cluster} (standing : Standing before control host point)
    (retiring : control.current.phase ≠ .idle →
      (before.descriptor control.current.object).state = .retiring)
    (descriptor : ∀ object, (before.descriptor object).state ≠ .empty →
      after.descriptor object = before.descriptor object)
    (service : after.service = before.service) (channel : after.channel = before.channel) :
    Standing after control host point := by
  have same : ∀ transaction, Owes control host transaction →
      after.descriptor transaction.object = before.descriptor transaction.object := by
    intro transaction owes
    apply descriptor
    rw [owes.current, retiring owes.busy]
    decide
  cases point with
  | scanning | flushed => trivial
  | handling packet =>
      intro object about
      obtain ⟨exists_, distinct⟩ := standing object about
      exact ⟨by rwa [descriptor object exists_], distinct⟩
  | observed | owing => exact standing
  | sampling => exact ⟨standing.1, standing.2.congr (same _ standing.1) service channel⟩
  | forgotten => exact standing
  | acknowledging => exact ⟨standing.1, standing.2.congr (same _ standing.1) service channel⟩

/-- An object that is created, or that ends when nothing is left of it. -/
theorem sound_update {before after : TokenState cluster} (sound : before.Sound)
    {value : AllocationDescriptor cluster}
    (descriptor : after.descriptor = Function.update before.descriptor object value)
    (service : after.service = before.service) (channel : after.channel = before.channel)
    (active : value.state ≠ .retiring)
    (beyond : ∀ host index, value.coherenceBlockCount ≤ index → before.Idle host ⟨object, index⟩)
    (rid : value.state = .empty → ∀ host, before.Rid host object)
    (clear : value.state = .empty → ∀ source destination,
      (before.channel source destination).Clear object) : after.Sound := by
  have updated : after.descriptor object = value := by rw [descriptor, Function.update_self]
  have others : ∀ other, other ≠ object → after.descriptor other = before.descriptor other :=
    fun other apart => by rw [descriptor, Function.update_of_ne apart]
  refine
    { filed := fun host => (sound.filed host).congr (by rw [service])
      beyond := fun host key outside => ?_
      rid := fun other gone host => ?_
      clear := fun other gone source destination => ?_
      valid := fun other retires => ?_
      loopback := fun host => by
        rw [channel]
        exact sound.loopback host }
  · have idle : before.Idle host key := by
      by_cases same : key.object = object
      · rw [same, updated] at outside
        have idle := beyond host key.blockIndex outside
        rwa [← same] at idle
      · rw [others _ same] at outside
        exact sound.beyond host key outside
    exact idle.congr (by rw [service])
  · have stays : before.Rid host other := by
      by_cases same : other = object
      · subst same
        rw [updated] at gone
        exact rid gone host
      · rw [others other same] at gone
        exact sound.rid other gone host
    exact stays.congr (by rw [service]) (by rw [gone]; decide)
  · rw [channel]
    by_cases same : other = object
    · subst same
      rw [updated] at gone
      exact clear gone source destination
    · rw [others other same] at gone
      exact sound.clear other gone source destination
  · have different : other ≠ object := by
      rintro rfl
      rw [updated] at retires
      exact active retires
    exact sound.valid other (by rw [← others other different, retires])

/-- Every host sees the new object without replicas. -/
theorem allocate_view {info : AllocationInfo} (step : config.allocate limits host info = some after)
    (other : cluster.Host) :
    ReplicaCache.next ((limits other).config other) (config.view other) (.allocate info) =
      some (after.view other) := by
  simp only [Reclamation.allocate] at step
  split at step
  · rename_i permitted
    obtain ⟨region, -, -, unused⟩ := permitted
    have place :
      ∀ offset, (⟨0, offset⟩ : GlobalPointer) = info.gptr ↔ offset = info.gptr.offset := by
      intro offset
      rw [GlobalPointer.mk.injEq, region]
      simp
    have hidden : config.sharedObjects info.gptr.offset = none := by
      rw [sharedObjects, (place _).mpr rfl, if_pos unused]
    obtain ⟨created, published, objects⟩ : ∃ created,
        ReplicaCache.next ((limits other).config other) (config.view other) (.allocate info) =
          some created ∧
        created.objects =
          Function.update config.sharedObjects info.gptr.offset (some ⟨info, 0#64⟩) := by
      refine ⟨
        { config.view other with
          objects := Function.update config.sharedObjects info.gptr.offset (some ⟨info, 0#64⟩)
          replicaVersions := fun address =>
            if ReplicaCache.Sidecar info address then 0
            else (config.cache other).replicaVersions address }, ?_, rfl⟩
      simp [ReplicaCache.next, view, region, hidden]
    have stored : after.cache other = created := by
      obtain rfl := Option.some.inj step
      simp only [published, Option.getD_some]
    have descriptors : after.descriptor =
        Function.update config.descriptor info.gptr (newDescriptor host info) := by
      obtain rfl := Option.some.inj step
      rfl
    have infos : after.info = Function.update config.info info.gptr info := by
      obtain rfl := Option.some.inj step
      rfl
    have shared : after.sharedObjects = created.objects := by
      rw [objects]
      funext offset
      by_cases same : offset = info.gptr.offset
      · rw [same, Function.update_self, sharedObjects, (place _).mpr rfl, descriptors, infos,
          Function.update_self, Function.update_self]
        exact if_neg (by simp [newDescriptor])
      · have apart := (place offset).not.mpr same
        rw [Function.update_of_ne same, sharedObjects, descriptors, infos,
          Function.update_of_ne apart, Function.update_of_ne apart]
        rfl
    rw [published, view, stored, shared]
  · cases step

theorem Invariant.allocate (invariant : Invariant limits config) {info : AllocationInfo}
    (admitted : Admitted config (.allocate host info))
    (step : config.allocate limits host info = some after) : Invariant limits after := by
  have kept : ∀ other, ReplicaCache.Kept ((limits other).config other) (after.view other) := by
    intro other
    have separate : ReplicaCache.Admitted (config.view other) (.allocate info) := by
      intro offset shared found address ours
      simp only [view, sharedObjects] at found
      split at found
      · cases found
      · rename_i exists_
        obtain rfl := Option.some.inj found
        exact admitted ⟨0, offset⟩ exists_ address ours
    exact (invariant.kept other).next separate (allocate_view step other)
  simp only [Reclamation.allocate] at step
  split at step
  · rename_i permitted
    obtain ⟨-, -, -, unused⟩ := permitted
    obtain rfl := Option.some.inj step
    have others : ∀ object, object ≠ info.gptr →
        Function.update config.state.descriptor info.gptr (newDescriptor host info) object =
          config.state.descriptor object := fun object apart => Function.update_of_ne apart _ _
    have existing : ∀ object, (config.state.descriptor object).state ≠ .empty →
        object ≠ info.gptr := by
      rintro object exists_ rfl
      exact exists_ unused
    have retiring : config.retirement.current.phase ≠ .idle →
        (config.state.descriptor config.retirement.current.object).state = .retiring :=
      fun busy => (invariant.progressing busy).retiring
    refine ⟨?_, ?_, ?_, kept⟩
    · have absent : ∀ other index, (newDescriptor host info).coherenceBlockCount ≤ index →
          config.state.Idle other ⟨info.gptr, index⟩ :=
        fun other index _ => (invariant.sound.rid info.gptr unused other).blocks index
      have exists_ : (newDescriptor host info).state ≠ .empty := by simp [newDescriptor]
      exact @sound_update _ info.gptr _ _ invariant.sound (newDescriptor host info) rfl rfl rfl
        (by simp [newDescriptor]) absent (fun empty => (exists_ empty).elim)
        (fun empty => (exists_ empty).elim)
    · intro busy
      refine (invariant.progressing busy).congr (others _ (existing _ ?_)) rfl rfl
      rw [retiring busy]
      decide
    · intro other
      exact (invariant.standing other).congr retiring
        (fun object exists_ => others object (existing object exists_)) rfl rfl
  · cases step

/-! ## Retirement -/

theorem findDescriptor_isOk (found : (config.findDescriptor object false).isOk = true) :
    object.regionId = 0 ∧ object.offset ≠ 0 ∧ (config.descriptor object).state = .allocated := by
  simp only [findDescriptor] at found
  split at found
  · cases found
  · rename_i region
    rw [not_or, not_not] at region
    split at found
    · cases found
    · rename_i lifecycle
      exact ⟨region.1, region.2, by simpa using lifecycle⟩

/-- While no acknowledgement is owed, a poller knows at most an earlier transaction. -/
theorem Standing.passive {before after : TokenState cluster} {control started : RetirementControl}
    {point : PollerPoint cluster} (standing : Standing before control host point)
    (unowed : ∀ transaction, ¬Owes control host transaction)
    (known : ∀ transaction, Known control transaction → Known started transaction)
    (handling : ∀ packet, point = .handling packet →
      Standing after started host (.handling packet)) : Standing after started host point := by
  cases point with
  | scanning | flushed => trivial
  | handling packet => exact handling packet rfl
  | observed transaction => exact known transaction standing
  | owing transaction => exact (unowed transaction standing).elim
  | sampling transaction
  | forgotten transaction | acknowledging transaction => exact (unowed transaction standing.1).elim

/-- A transaction starts without acknowledgements, and no poller has one to give. -/
theorem Invariant.starts (invariant : Invariant limits config)
    (idle : config.retirement.current.phase = .idle) (keeps : config.state.Keeps after.state)
    (retiring : (after.state.descriptor object).state = .retiring) {coordinator : HostId}
    (control : after.retirement =
      { config.retirement with
        current :=
          ⟨.closing, object, config.retirement.current.sequence + 1, coordinator, cluster.hostCount⟩
        closed := 0#64
        drained := 0#64
        cleaned := 0#64 })
    (poller : after.poller = config.poller) (view : ∀ other, after.view other = config.view other) :
    Invariant limits after where
  sound := invariant.sound.keep keeps
  progressing := by
    intro _
    rw [control]
    refine
      { retiring := retiring
        participants := rfl
        closed := fun other acknowledged => ?_
        drained := fun other acknowledged => ?_
        allClosed := fun behind => (behind rfl).elim
        allDrained := fun behind => ?_
        allCleaned := fun behind => ?_
        logged := fun phase other acknowledged _ => ?_ }
    · simp at acknowledged
    · simp at acknowledged
    · simp at behind
    · simp at behind
    · cases phase <;> simp [mask] at acknowledged
  standing := by
    intro other
    have standing := (invariant.standing other).keep keeps
    rw [poller, control]
    refine standing.passive (fun transaction owes => owes.busy idle) (fun transaction known => ?_)
      fun packet handling => ?_
    · have past := known.past
      refine ⟨Nat.le_succ_of_le past, fun same => ?_, known.active⟩
      simp only at same
      omega
    · rw [handling] at standing
      exact fun object about =>
        ⟨(standing object about).1, fun _ acknowledged => by simp at acknowledged⟩
  kept := by
    intro other
    rw [view]
    exact invariant.kept other

theorem Invariant.beginRetire (invariant : Invariant limits config) (host : cluster.Host)
    (object : GlobalPointer) :
    Invariant limits (config.beginRetire host object cluster.hostCount).2 := by
  simp only [Reclamation.beginRetire]
  split
  · exact invariant
  · split
    · split
      · exact invariant
      · exact invariant
    · rename_i idle
      rw [not_not] at idle
      split
      · exact invariant
      · rename_i found
        rw [not_not] at found
        obtain ⟨region, offset, allocated⟩ := findDescriptor_isOk found
        split
        · exact invariant
        · split
          · exact invariant
          · have keeps := @keeps_setDescriptor _ config object invariant.sound
              { config.descriptor object with state := .retiring }
              (.inr ⟨allocated, rfl, region, offset⟩) rfl (fun _ => id) (fun _ _ => id)
            have retires := setDescriptor_descriptor config object
              { config.descriptor object with state := .retiring } object
            rw [if_pos rfl] at retires
            refine invariant.starts idle keeps
              (congrArg AllocationDescriptor.state retires) rfl rfl ?_
            exact @setDescriptor_view _ config object
              { config.descriptor object with state := .retiring } (by simp [allocated]) rfl

end Cxloom.LoomMem.Reclamation
