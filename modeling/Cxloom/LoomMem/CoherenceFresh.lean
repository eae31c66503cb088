import Cxloom.LoomMem.Coherence
import Mathlib.Data.List.Basic

/-!
# Reads are as fresh as what their host has observed

A returned snapshot, a passed boundary and a finished local publication each guarantee a version of
a block to the reads that follow on their host.  A current replica always covers what its host was
guaranteed: the indexes rotate at a boundary, the publication of a block drops its replicas, and a
read enters what it reports.
-/

namespace Cxloom.LoomMem

def CoherenceEvent.Guarantees {cluster : Cluster} (host : cluster.Host) (block version : Nat) :
    CoherenceEvent cluster → Prop
  | .readReturned reader snapshot => reader = host ∧ snapshot.reported block = some version
  | .acquired acquirer committed => acquirer = host ∧ committed block = version
  | .released releaser produced => releaser = host ∧ (block, version) ∈ produced

namespace CoherenceConfig

variable {cluster : Cluster}

/-- A version of a block that exists and covers everything its host was guaranteed. -/
structure Covers (config : CoherenceConfig cluster) (host : cluster.Host) (block version : Nat) :
    Prop where
  guarantees : ∀ event ∈ config.events, ∀ earlier, event.Guarantees host block earlier →
    earlier ≤ version
  reached : version ≤ (config.blocks block).version

/-- What the progress of a reader says about the version that it will report. -/
def PointFresh (config : CoherenceConfig cluster) (host : cluster.Host) (block : Nat) :
    ReadPoint → Prop
  | .lookup => True
  | .loadEpoch => True
  | .loadVersion _ => True
  | .lookupOld _ versionBefore => config.Covers host block versionBefore
  | .copy _ versionBefore _ => config.Covers host block versionBefore
  | .reloadEpoch _ versionBefore _ _ => config.Covers host block versionBefore
  | .reloadVersion _ versionBefore _ _ _ => config.Covers host block versionBefore
  | .cache version _ => config.Covers host block version
  | .assemble version _ => config.Covers host block version ∧
      ∀ cached, config.replicas host block = some cached → version ≤ cached.version

def partialSnapshot (geometry : ObjectGeometry) (process : ReadProcess) : ReadSnapshot :=
  ⟨process.offset, process.offset / geometry.coherenceBlockBytes, process.versions,
    process.assembled⟩

/-- What a running read says about the versions that it has collected. -/
structure ReadFresh (geometry : ObjectGeometry) (config : CoherenceConfig cluster)
    (host : cluster.Host) (process : ReadProcess) : Prop where
  position : process.block =
    process.offset / geometry.coherenceBlockBytes + process.versions.length
  collected : ∀ block version, (partialSnapshot geometry process).reported block = some version →
    config.Covers host block version ∧
      ∀ cached, config.replicas host block = some cached → version ≤ cached.version
  point : config.PointFresh host process.block process.point

/-- What a running publication says about the blocks that it has released. -/
def CommitFresh (config : CoherenceConfig cluster) (host : cluster.Host)
    (process : CommitProcess) : Prop :=
  ∀ block version, (block, version) ∈ process.produced →
    version ≤ (config.blocks block).version ∧
      (process.erasing = some block ∨ config.replicas host block = none)

/-- A read that returns after an observation of its host meets what it guarantees. -/
def Respects (early late : CoherenceEvent cluster) : Prop :=
  ∀ host snapshot block earlier version, late = .readReturned host snapshot →
    early.Guarantees host block earlier → snapshot.reported block = some version →
    earlier ≤ version

/-- The invariant of every run. -/
structure FreshInv (geometry : ObjectGeometry) (config : CoherenceConfig cluster) : Prop where
  guaranteed : ∀ event ∈ config.events, ∀ host block version,
    event.Guarantees host block version → version ≤ (config.blocks block).version
  replicas : ∀ host block cached, config.replicas host block = some cached →
    config.Covers host block cached.version
  reading : ∀ host process, config.activity host = .reading process →
    ReadFresh geometry config host process
  /-- Every running publication. -/
  committing : ∀ host process, config.activity host = .committing process →
    config.CommitFresh host process
  /-- Every returned read met the guarantees before it. -/
  ordered : config.events.Pairwise Respects

section Frames

variable {geometry : ObjectGeometry} {config after : CoherenceConfig cluster}
  {host : cluster.Host}

theorem Covers.mono {block version : Nat} (covers : config.Covers host block version)
    (versions : (config.blocks block).version ≤ (after.blocks block).version)
    (events : after.events = config.events) : after.Covers host block version := by
  refine ⟨?_, covers.reached.trans versions⟩
  rw [events]
  exact covers.guarantees

theorem PointFresh.mono {block : Nat} {point : ReadPoint}
    (fresh : config.PointFresh host block point)
    (versions : (config.blocks block).version ≤ (after.blocks block).version)
    (events : after.events = config.events)
    (replicas : ∀ cached, after.replicas host block = some cached →
      config.replicas host block = some cached) : after.PointFresh host block point := by
  cases point with
  | lookup | loadEpoch | loadVersion epochBefore => trivial
  | lookupOld epochBefore versionBefore
  | copy epochBefore versionBefore copied => exact Covers.mono fresh versions events
  | reloadEpoch epochBefore versionBefore replica reused
  | reloadVersion epochBefore versionBefore replica reused epochAfter =>
      exact Covers.mono fresh versions events
  | cache version replica => exact Covers.mono fresh versions events
  | assemble version replica =>
      exact ⟨fresh.1.mono versions events, fun cached present =>
        fresh.2 cached (replicas _ present)⟩

/-- Versions grow, replicas disappear, nothing is observed and no read begins or moves. -/
structure QuietStep (config after : CoherenceConfig cluster) : Prop where
  versions : ∀ block, (config.blocks block).version ≤ (after.blocks block).version
  /-- Nothing is observed. -/
  events : after.events = config.events
  replicas : ∀ host block cached, after.replicas host block = some cached →
    config.replicas host block = some cached
  reading : ∀ host process, after.activity host = .reading process →
    config.activity host = .reading process

theorem ReadFresh.quiet {process : ReadProcess} (fresh : ReadFresh geometry config host process)
    (taken : QuietStep config after) : ReadFresh geometry after host process where
  position := fresh.position
  collected := by
    intro block version reported
    obtain ⟨covers, covered⟩ := fresh.collected block version reported
    exact ⟨covers.mono (taken.versions block) taken.events,
      fun cached present => covered cached (taken.replicas _ _ _ present)⟩
  point := fresh.point.mono (taken.versions _) taken.events (taken.replicas host _)

theorem CommitFresh.quiet {process : CommitProcess} (fresh : config.CommitFresh host process)
    (taken : QuietStep config after) : after.CommitFresh host process := by
  intro block version produced
  obtain ⟨reached, gone⟩ := fresh block version produced
  refine ⟨reached.trans (taken.versions block), gone.imp_right fun missing => ?_⟩
  cases present : after.replicas host block with
  | none => rfl
  | some cached =>
      have earlier := taken.replicas host block cached present
      rw [missing] at earlier
      simp at earlier

/-- A quiet step keeps the invariant if it keeps what the publications say. -/
theorem FreshInv.quiet (inv : FreshInv geometry config) (taken : QuietStep config after)
    (committing : ∀ host process, after.activity host = .committing process →
      config.activity host = .committing process ∨ after.CommitFresh host process) :
    FreshInv geometry after := by
  constructor
  case guaranteed =>
    intro event member host block version guarantee
    rw [taken.events] at member
    exact (inv.guaranteed event member host block version guarantee).trans (taken.versions block)
  case replicas =>
    intro host block cached present
    exact (inv.replicas host block cached (taken.replicas _ _ _ present)).mono
      (taken.versions block) taken.events
  case reading =>
    intro host process reading
    exact (inv.reading host process (taken.reading host process reading)).quiet taken
  case committing =>
    intro host process running
    rcases committing host process running with earlier | fresh
    · exact (inv.committing host process earlier).quiet taken
    · exact fresh
  case ordered =>
    rw [taken.events]
    exact inv.ordered

end Frames

/-! ## Local activity and observations -/

section Local

variable {geometry : ObjectGeometry} {config after : CoherenceConfig cluster}
  {host : cluster.Host} {process : ReadProcess}

theorem quiet_setActivity (config : CoherenceConfig cluster) (host : cluster.Host)
    {activity : LocalActivity} (notReading : ∀ process, activity ≠ .reading process) :
    QuietStep config (config.setActivity host activity) where
  versions := fun _ => le_rfl
  events := rfl
  replicas := fun _ _ _ present => present
  reading := by
    intro other running reading
    by_cases same : other = host
    · subst same
      simp only [CoherenceConfig.setActivity, Function.update_self] at reading
      exact absurd reading (notReading running)
    · simpa only [CoherenceConfig.setActivity, Function.update_of_ne same] using reading

/-- The object mutex is released. -/
theorem FreshInv.idle (inv : FreshInv geometry config) (host : cluster.Host) :
    FreshInv geometry (config.setActivity host .idle) := by
  apply inv.quiet (quiet_setActivity config host (by simp))
  intro other running committing
  left
  by_cases same : other = host
  · subst same
    simp [CoherenceConfig.setActivity] at committing
  · simpa only [CoherenceConfig.setActivity, Function.update_of_ne same] using committing

/-- A publication moves on. -/
theorem FreshInv.commits (inv : FreshInv geometry config) {running : CommitProcess}
    (fresh : config.CommitFresh host running) :
    FreshInv geometry (config.setActivity host (.committing running)) := by
  apply inv.quiet (quiet_setActivity config host (by simp))
  intro other process committing
  by_cases same : other = host
  · subst same
    simp only [CoherenceConfig.setActivity, Function.update_self] at committing
    cases committing
    exact .inr fresh
  · left
    simpa only [CoherenceConfig.setActivity, Function.update_of_ne same] using committing

/-- A read moves on. -/
theorem FreshInv.reads (inv : FreshInv geometry config)
    (fresh : ReadFresh geometry config host process) :
    FreshInv geometry (config.setActivity host (.reading process)) := by
  constructor
  case guaranteed => exact inv.guaranteed
  case replicas =>
    intro other block cached present
    exact (inv.replicas other block cached present).mono le_rfl rfl
  case reading =>
    intro other running reading
    have quiet : ReadFresh geometry config other running →
        ReadFresh geometry (config.setActivity host (.reading process)) other running :=
      fun fresh => ⟨fresh.position, fun block version reported =>
        ⟨(fresh.collected block version reported).1.mono le_rfl rfl,
          (fresh.collected block version reported).2⟩,
        fresh.point.mono le_rfl rfl fun _ present => present⟩
    apply quiet
    by_cases same : other = host
    · subst same
      simp only [CoherenceConfig.setActivity, Function.update_self] at reading
      cases reading
      exact fresh
    · simp only [CoherenceConfig.setActivity, Function.update_of_ne same] at reading
      exact inv.reading other running reading
  case committing =>
    intro other running committing
    by_cases same : other = host
    · subst same
      simp [CoherenceConfig.setActivity] at committing
    · simp only [CoherenceConfig.setActivity, Function.update_of_ne same] at committing
      exact inv.committing other running committing
  case ordered => exact inv.ordered

theorem ReadFresh.readAt (fresh : ReadFresh geometry config host process) {point : ReadPoint}
    (next : config.PointFresh host process.block point) :
    ReadFresh geometry config host { process with point := point } :=
  ⟨fresh.position, fresh.collected, next⟩

theorem FreshInv.readAt (inv : FreshInv geometry config)
    (fresh : ReadFresh geometry config host process) {point : ReadPoint}
    (next : config.PointFresh host process.block point) :
    FreshInv geometry (config.readAt host process point) :=
  inv.reads (fresh.readAt next)

/-- An observation of an idle host that its replicas cover and that respects the earlier ones. -/
theorem FreshInv.observe (inv : FreshInv geometry config) {event : CoherenceEvent cluster}
    (host : cluster.Host) (idle : config.activity host = .idle)
    (own : ∀ other block version, event.Guarantees other block version → other = host)
    (reached : ∀ block version, event.Guarantees host block version →
      version ≤ (config.blocks block).version)
    (covered : ∀ block cached version, config.replicas host block = some cached →
      event.Guarantees host block version → version ≤ cached.version)
    (respects : ∀ early ∈ config.events, Respects early event) :
    FreshInv geometry (config.observe event) := by
  have others : ∀ {other block version}, other ≠ host → config.Covers other block version →
      (config.observe event).Covers other block version := by
    intro other block version different covers
    refine ⟨?_, covers.reached⟩
    intro earlierEvent member earlier guarantee
    rcases List.mem_append.mp member with old | last
    · exact covers.guarantees earlierEvent old earlier guarantee
    · rw [List.mem_singleton.mp last] at guarantee
      exact absurd (own other block earlier guarantee) different
  constructor
  case guaranteed =>
    intro earlierEvent member other block version guarantee
    rcases List.mem_append.mp member with old | last
    · exact inv.guaranteed earlierEvent old other block version guarantee
    · rw [List.mem_singleton.mp last] at guarantee
      obtain rfl := own other block version guarantee
      exact reached block version guarantee
  case replicas =>
    intro other block cached present
    by_cases same : other = host
    · subst same
      have covers := inv.replicas other block cached present
      refine ⟨?_, covers.reached⟩
      intro earlierEvent member earlier guarantee
      rcases List.mem_append.mp member with old | last
      · exact covers.guarantees earlierEvent old earlier guarantee
      · rw [List.mem_singleton.mp last] at guarantee
        exact covered block cached earlier present guarantee
    · exact others same (inv.replicas other block cached present)
  case reading =>
    intro other running reading
    have different : other ≠ host := by
      rintro rfl
      rw [show (config.observe event).activity other = config.activity other from rfl,
        idle] at reading
      simp at reading
    have fresh := inv.reading other running reading
    refine ⟨fresh.position, ?_, ?_⟩
    · intro block version reported
      obtain ⟨covers, cached⟩ := fresh.collected block version reported
      exact ⟨others different covers, cached⟩
    · have point := fresh.point
      cases at_ : running.point with
      | lookup | loadEpoch | loadVersion epochBefore => trivial
      | lookupOld epochBefore versionBefore | copy epochBefore versionBefore copied =>
          rw [at_] at point
          exact others different point
      | reloadEpoch epochBefore versionBefore replica reused
      | reloadVersion epochBefore versionBefore replica reused epochAfter | cache version replica =>
          rw [at_] at point
          exact others different point
      | assemble version replica =>
          rw [at_] at point
          exact ⟨others different point.1, point.2⟩
  case committing => exact inv.committing
  case ordered =>
    apply List.pairwise_append.mpr
    refine ⟨inv.ordered, List.pairwise_singleton _ _, ?_⟩
    intro early member late last
    rw [List.mem_singleton.mp last]
    exact respects early member

end Local

/-! ## Readers -/

section Readers

variable {geometry : ObjectGeometry} {config after : CoherenceConfig cluster}
  {host : cluster.Host} {process : ReadProcess}

theorem FreshInv.covers_now (inv : FreshInv geometry config) (host : cluster.Host) (block : Nat) :
    config.Covers host block (config.blocks block).version :=
  ⟨fun event member earlier guarantee => inv.guaranteed event member host block earlier guarantee,
    le_rfl⟩

/-- A collected version belongs to a block before the one at which the read stands. -/
theorem reported_lt (position : process.block =
      process.offset / geometry.coherenceBlockBytes + process.versions.length)
    {block version : Nat}
    (reported : (partialSnapshot geometry process).reported block = some version) :
    block < process.block := by
  obtain ⟨inRange, present⟩ := Option.ite_none_right_eq_some.mp reported
  have below := (List.getElem?_eq_some_iff.mp present).1
  simp only [partialSnapshot] at inRange below
  omega

/-- A read enters the version that it accepted. -/
theorem FreshInv.cache (inv : FreshInv geometry config)
    (reading : config.activity host = .reading process) {version : Nat} {replica : List UInt8}
    (point : process.point = .cache version replica) :
    FreshInv geometry ((config.cacheReplica host process.block ⟨version, replica⟩).readAt host
      process (.assemble version replica)) := by
  have fresh := inv.reading host process reading
  have covers : config.Covers host process.block version := by
    have known := fresh.point
    rwa [point] at known
  have elsewhere : ∀ {other block}, other ≠ host ∨ block ≠ process.block →
      (config.cacheReplica host process.block ⟨version, replica⟩).replicas other block =
        config.replicas other block := fun different => setEntry_of_ne different
  have here : (config.cacheReplica host process.block ⟨version, replica⟩).replicas host
      process.block = some ⟨version, replica⟩ := setEntry_self _ _ _ _
  constructor
  case guaranteed => exact inv.guaranteed
  case replicas =>
    intro other block cached present
    by_cases same : other = host ∧ block = process.block
    · obtain ⟨rfl, rfl⟩ := same
      cases here.symm.trans present
      exact covers.mono le_rfl rfl
    · rw [not_and_or] at same
      exact (inv.replicas other block cached ((elsewhere same).symm.trans present)).mono le_rfl rfl
  case reading =>
    intro other running now
    by_cases same : other = host
    · subst same
      simp only [CoherenceConfig.readAt, CoherenceConfig.setActivity, Function.update_self] at now
      cases now
      refine ⟨fresh.position, ?_, covers.mono le_rfl rfl, ?_⟩
      · intro block earlier reported
        have below := reported_lt fresh.position reported
        obtain ⟨known, cached⟩ := fresh.collected block earlier reported
        refine ⟨known.mono le_rfl rfl, fun entry present => cached entry ?_⟩
        exact (elsewhere (.inr below.ne)).symm.trans present
      · intro entry present
        cases here.symm.trans present
        exact le_rfl
    · simp only [CoherenceConfig.readAt, CoherenceConfig.setActivity,
        Function.update_of_ne same] at now
      have kept := inv.reading other running now
      refine ⟨kept.position, ?_, ?_⟩
      · intro block earlier reported
        obtain ⟨known, cached⟩ := kept.collected block earlier reported
        exact ⟨known.mono le_rfl rfl, fun entry present =>
          cached entry ((elsewhere (.inl same)).symm.trans present)⟩
      · exact kept.point.mono le_rfl rfl fun entry present =>
          (elsewhere (.inl same)).symm.trans present
  case committing =>
    intro other running committing
    have different : other ≠ host := by
      rintro rfl
      simp [CoherenceConfig.readAt, CoherenceConfig.setActivity] at committing
    simp only [CoherenceConfig.readAt, CoherenceConfig.setActivity,
      Function.update_of_ne different] at committing
    intro block earlier produced
    obtain ⟨reached, gone⟩ := inv.committing other running committing block earlier produced
    exact ⟨reached, gone.imp_right fun missing => (elsewhere (.inl different)).trans missing⟩
  case ordered => exact inv.ordered

/-- The version of the block at which the read stands joins the collected ones. -/
theorem reported_concat {assembled : List UInt8} {version block reportedVersion : Nat}
    (position : process.block =
      process.offset / geometry.coherenceBlockBytes + process.versions.length)
    (reported : ReadSnapshot.reported ⟨process.offset,
      process.offset / geometry.coherenceBlockBytes, process.versions ++ [version], assembled⟩
      block = some reportedVersion) :
    (partialSnapshot geometry process).reported block = some reportedVersion ∨
      block = process.block ∧ reportedVersion = version := by
  obtain ⟨inRange, present⟩ := Option.ite_none_right_eq_some.mp reported
  have below := (List.getElem?_eq_some_iff.mp present).1
  simp only [List.length_append, List.length_singleton] at inRange present below
  rcases Nat.lt_or_ge (block - process.offset / geometry.coherenceBlockBytes)
    process.versions.length with earlier | last
  · left
    rw [List.getElem?_append_left earlier] at present
    exact Option.ite_none_right_eq_some.mpr ⟨inRange, present⟩
  · right
    have index : block - process.offset / geometry.coherenceBlockBytes =
        process.versions.length := by omega
    rw [index, List.getElem?_concat_length, Option.some_inj] at present
    exact ⟨by omega, present.symm⟩

/-- A read adds a block to its result and returns after the last one. -/
theorem FreshInv.assemble (inv : FreshInv geometry config)
    (reading : config.activity host = .reading process) {version : Nat} {replica : List UInt8}
    (point : process.point = .assemble version replica) :
    FreshInv geometry (assembleBlock geometry config host process version replica) := by
  have fresh := inv.reading host process reading
  have known : config.Covers host process.block version ∧
      ∀ cached, config.replicas host process.block = some cached → version ≤ cached.version := by
    have known := fresh.point
    rwa [point] at known
  have collected : ∀ assembled block reportedVersion,
      ReadSnapshot.reported ⟨process.offset, process.offset / geometry.coherenceBlockBytes,
        process.versions ++ [version], assembled⟩ block = some reportedVersion →
      config.Covers host block reportedVersion ∧
        ∀ cached, config.replicas host block = some cached → reportedVersion ≤ cached.version := by
    intro assembled block reportedVersion reported
    rcases reported_concat fresh.position reported with earlier | ⟨rfl, rfl⟩
    · exact fresh.collected block reportedVersion earlier
    · exact known
  simp only [assembleBlock]
  split
  · refine (inv.idle host).observe host ?_ ?_ ?_ ?_ ?_
    · simp [CoherenceConfig.setActivity]
    · intro other block reportedVersion guarantee
      exact guarantee.1.symm
    · intro block reportedVersion guarantee
      exact (collected _ block reportedVersion guarantee.2).1.reached
    · intro block cached reportedVersion present guarantee
      exact (collected _ block reportedVersion guarantee.2).2 cached present
    · intro early member reader snapshot block earlier reportedVersion same guarantee reported
      cases same
      exact (collected _ block reportedVersion reported).1.guarantees early member earlier guarantee
  · apply inv.reads
    refine ⟨?_, ?_, trivial⟩
    · have position := fresh.position
      simp only [List.length_append, List.length_singleton]
      omega
    · intro block reportedVersion reported
      exact collected _ block reportedVersion reported

/-- Every access of a reader keeps the invariant. -/
theorem readAccess_fresh (inv : FreshInv geometry config)
    (reading : config.activity host = .reading process) :
    FreshInv geometry (readAccess geometry config host process) := by
  have fresh := inv.reading host process reading
  have known := fresh.point
  cases point : process.point with
  | lookup =>
      simp only [readAccess, point]
      split
      · rename_i cached present
        refine inv.readAt fresh ⟨inv.replicas host process.block cached present, ?_⟩
        intro other same
        rw [present] at same
        cases same
        exact le_rfl
      · exact inv.readAt fresh trivial
  | loadEpoch =>
      simp only [readAccess, point]
      split
      · exact inv
      · exact inv.readAt fresh trivial
  | loadVersion epochBefore =>
      simp only [readAccess, point]
      exact inv.readAt fresh (inv.covers_now host process.block)
  | lookupOld epochBefore versionBefore =>
      rw [point] at known
      simp only [readAccess, point]
      split
      · split
        · exact inv.readAt fresh known
        · exact inv.readAt fresh known
      · exact inv.readAt fresh known
  | copy epochBefore versionBefore copied =>
      rw [point] at known
      simp only [readAccess, point]
      split
      · exact inv.readAt fresh known
      · exact inv.readAt fresh known
  | reloadEpoch epochBefore versionBefore replica reused =>
      rw [point] at known
      simp only [readAccess, point]
      exact inv.readAt fresh known
  | reloadVersion epochBefore versionBefore replica reused epochAfter =>
      simp only [readAccess, point]
      split
      · exact inv.readAt fresh trivial
      · have moved : FreshInv geometry (config.readAt host process
            (.cache (config.blocks process.block).version replica)) :=
          inv.readAt fresh (inv.covers_now host process.block)
        apply moved.quiet
        · exact ⟨fun _ => le_rfl, rfl, fun _ _ _ present => present, fun _ _ running => running⟩
        · exact fun _ _ running => .inl running
  | cache version replica =>
      simp only [readAccess, point]
      exact inv.cache reading point
  | assemble version replica =>
      simp only [readAccess, point]
      exact inv.assemble reading point

end Readers

/-! ## Writers and boundaries -/

section Writers

variable {geometry : ObjectGeometry} {config after : CoherenceConfig cluster}

/-- A step that only grows the versions of blocks and moves writers. -/
theorem FreshInv.grow (inv : FreshInv geometry config)
    (versions : ∀ block, (config.blocks block).version ≤ (after.blocks block).version)
    (events : after.events = config.events) (replicas : after.replicas = config.replicas)
    (activity : after.activity = config.activity) : FreshInv geometry after := by
  apply inv.quiet
  · refine ⟨versions, events, ?_, ?_⟩
    · intro host block cached present
      rwa [replicas] at present
    · intro host process reading
      rwa [activity] at reading
  · intro host process committing
    rw [activity] at committing
    exact .inl committing

theorem FreshInv.setWriter (inv : FreshInv geometry config) (block : Nat)
    (session : Option (WriterSession cluster)) :
    FreshInv geometry (config.setWriter block session) :=
  inv.grow (fun _ => le_rfl) rfl rfl rfl

theorem version_setBlock (config : CoherenceConfig cluster) {block : Nat} {shared : SharedBlock}
    (grows : (config.blocks block).version ≤ shared.version) (other : Nat) :
    (config.blocks other).version ≤ ((config.setBlock block shared).blocks other).version := by
  by_cases same : other = block
  · subst same
    simpa [CoherenceConfig.setBlock] using grows
  · simp [CoherenceConfig.setBlock, same]

theorem FreshInv.setBlock (inv : FreshInv geometry config) {block : Nat} {shared : SharedBlock}
    (grows : (config.blocks block).version ≤ shared.version) :
    FreshInv geometry (config.setBlock block shared) :=
  inv.grow (version_setBlock config grows) rfl rfl rfl

/-- Replicas disappear. -/
theorem FreshInv.dropReplicas (inv : FreshInv geometry config)
    {replicas oldReplicas : cluster.Host → Nat → Option CachedReplica}
    (fewer : ∀ host block cached, replicas host block = some cached →
      config.replicas host block = some cached) :
    FreshInv geometry { config with replicas := replicas, oldReplicas := oldReplicas } := by
  apply inv.quiet
  · exact ⟨fun _ => le_rfl, rfl, fewer, fun _ _ reading => reading⟩
  · exact fun _ _ committing => .inl committing

theorem FreshInv.eraseReplicas (inv : FreshInv geometry config) (host : cluster.Host)
    (block : Nat) : FreshInv geometry (config.eraseReplicas host block) :=
  inv.dropReplicas fun _ _ _ present => setEntry_none present

/-- A publication that has reached this block records the version that it produced. -/
theorem FreshInv.blockReleased (inv : FreshInv geometry config) (block : Nat)
    (session : WriterSession cluster)
    (ready : ∀ process, config.activity session.host = .committing process →
      session.buffer = some process.buffer → process.erasing = none) :
    FreshInv geometry (config.blockReleased block session) := by
  simp only [CoherenceConfig.blockReleased]
  split
  · rename_i process committing
    split
    · rename_i current
      apply inv.commits
      intro other version produced
      rcases List.mem_append.mp produced with earlier | last
      · obtain ⟨reached, gone⟩ := inv.committing _ process committing other version earlier
        refine ⟨reached, .inr ?_⟩
        rcases gone with erasing | missing
        · rw [ready process committing current.1] at erasing
          simp at erasing
        · exact missing
      · cases List.mem_singleton.mp last
        exact ⟨le_rfl, .inl rfl⟩
    · exact inv
  · exact inv

/-- Every access of a writer keeps the invariant. -/
theorem writeAccess_fresh (inv : FreshInv geometry config) {block : Nat}
    {session : WriterSession cluster} (proceeds : config.mayProceed block session = true)
    (taken : config.writeAccess block session = some after) : FreshInv geometry after := by
  obtain ⟨host, buffer, point⟩ := session
  cases point with
  | owned | granted | writing => simp [writeAccess] at taken
  | activate =>
      simp only [writeAccess] at taken
      split at taken
      · cases buffer with
        | none =>
            cases taken
            exact inv
        | some buffer =>
            cases taken
            exact (inv.setWriter block _).idle host
      · cases taken
        exact inv.setWriter block _
  | compareExchange epoch =>
      simp only [writeAccess] at taken
      split at taken
      · cases taken
        refine FreshInv.setWriter (FreshInv.setBlock inv ?_) block _
        exact le_rfl
      · cases taken
        exact inv.setWriter block _
  | loadEpoch modified =>
      simp only [writeAccess] at taken
      split at taken
      · split at taken
        · cases taken
          exact inv.setWriter block _
        · cases taken
          exact inv.setWriter block _
      · cases taken
        exact inv.setWriter block _
  | addVersion epoch =>
      simp only [writeAccess, Option.some_inj] at taken
      subst taken
      exact inv.grow (version_setBlock config (Nat.le_succ _)) rfl rfl rfl
  | storeEpoch epoch modified =>
      simp only [writeAccess, Option.some_inj] at taken
      have closed : FreshInv geometry ((config.setBlock block
          { config.blocks block with
            writebackEpoch := if epoch % 2 = 1 then epoch + 1
              else (config.blocks block).writebackEpoch }).setWriter block none) := by
        refine FreshInv.setWriter (FreshInv.setBlock inv ?_) block none
        exact le_rfl
      subst taken
      split
      · rename_i published
        subst published
        apply closed.blockReleased
        intro process committing own
        change config.activity host = .committing process at committing
        change buffer = some process.buffer at own
        subst own
        simp only [mayProceed, committing, decide_eq_true_eq] at proceeds
        exact proceeds.2.2
      · exact closed

/-- Every action keeps the invariant. -/
theorem effect_fresh (inv : FreshInv geometry config) (effect : Effect geometry config after) :
    FreshInv geometry after := by
  cases effect with
  | startRead host offset bytes idle positive =>
      apply inv.reads
      refine ⟨rfl, ?_, trivial⟩
      intro block version reported
      simp [ReadSnapshot.reported, partialSnapshot] at reported
  | read host process reading => exact readAccess_fresh inv reading
  | failRead host process reading => exact inv.idle host
  | evictOld host block => exact inv.grow (fun _ => le_rfl) rfl rfl rfl
  | evictCurrent host block => exact inv.dropReplicas fun _ _ _ present => setEntry_none present
  | invalidateReadCache host idle =>
      exact inv.dropReplicas fun _ _ _ present => update_none_some present
  | synchronizeAcquire host idle =>
      have rotated : FreshInv geometry
          { config with
            replicas := Function.update config.replicas host fun _ => none
            oldReplicas := Function.update config.oldReplicas host (config.replicas host) } :=
        inv.dropReplicas fun _ _ _ present => update_none_some present
      apply rotated.observe host idle
      · intro other block version guarantee
        exact guarantee.1.symm
      · intro block version guarantee
        exact guarantee.2.symm.le
      · intro block cached version present
        simp at present
      · intro early member reader snapshot block earlier version same
        simp at same
  | obtain host buffer block free
  | obtainRaw host block free | collect block session present granted => exact inv.setWriter block _
  | abandon block session present granted
  | abort block session present owned => exact inv.setWriter block _
  | startCommit host buffer blocks idle distinct =>
      apply inv.commits
      intro block version produced
      simp at produced
  | eraseBlock host process block committing erasing =>
      apply (inv.eraseReplicas host block).commits
      intro other version produced
      obtain ⟨reached, gone⟩ := inv.committing host process committing other version produced
      refine ⟨reached, .inr ?_⟩
      rcases gone with current | missing
      · rw [erasing] at current
        cases current
        exact setEntry_self _ _ _ _
      · by_cases same : other = block
        · subst same
          exact setEntry_self _ _ _ _
        · exact (setEntry_of_ne (.inr same)).trans missing
  | finishCommit host process committing erasing remaining =>
      have known := inv.committing host process committing
      apply (inv.idle host).observe host
      · simp [CoherenceConfig.setActivity]
      · intro other block version guarantee
        exact guarantee.1.symm
      · intro block version guarantee
        exact (known block version guarantee.2).1
      · intro block cached version present guarantee
        rcases (known block version guarantee.2).2 with current | missing
        · rw [erasing] at current
          simp at current
        · rw [show config.replicas host block = some cached from present] at missing
          simp at missing
      · intro early member reader snapshot block earlier version same
        simp at same
  | beginWriteback block session present owned => exact inv.setWriter block _
  | write block session after present proceeds access => exact writeAccess_fresh inv proceeds access
  | storeByte block index value session present writing => exact inv.setBlock le_rfl
  | release block session present writing => exact inv.setWriter block _
  | eraseReleased host block idle => exact inv.eraseReplicas host block

theorem initial_fresh (geometry : ObjectGeometry) (content : Nat → Nat → UInt8) :
    FreshInv geometry (initial cluster content) := by
  constructor <;> simp [initial]

/-- Every run keeps the invariant. -/
theorem reached_fresh {content : Nat → Nat → UInt8} (execution : Reached geometry content config) :
    FreshInv geometry config :=
  Run.ReachesBy.preserves execution _ (initial_fresh geometry content)
    fun _ _ _ inv _ taken => effect_fresh inv (step_effect taken)

end Writers

/-- Freshness of cached reads.  For a snapshot that a host returned and any observation of that host
before it, every block is reported at no less than (a) what an earlier snapshot reported, (b) what
was committed when an earlier boundary passed, and (c) what an earlier local publication
produced. -/
theorem reads_are_fresh {geometry : ObjectGeometry} {content : Nat → Nat → UInt8}
    {config : CoherenceConfig cluster} (execution : Reached geometry content config)
    {early late : Nat} (order : early < late) {host : cluster.Host} {snapshot : ReadSnapshot}
    (returned : config.events[late]? = some (.readReturned host snapshot))
    {block version : Nat} (reported : snapshot.reported block = some version) :
    (∀ previous earlier, config.events[early]? = some (.readReturned host previous) →
      previous.reported block = some earlier → earlier ≤ version) ∧
      (∀ committed, config.events[early]? = some (.acquired host committed) →
        committed block ≤ version) ∧
      ∀ produced commit, config.events[early]? = some (.released host produced) →
        (block, commit) ∈ produced → commit ≤ version := by
  have inv := reached_fresh execution
  have respects : ∀ event, config.events[early]? = some event →
      ∀ earlier, event.Guarantees host block earlier → earlier ≤ version := by
    intro event present earlier guarantee
    obtain ⟨earlyBound, rfl⟩ := List.getElem?_eq_some_iff.mp present
    obtain ⟨lateBound, same⟩ := List.getElem?_eq_some_iff.mp returned
    have pair := List.pairwise_iff_getElem.mp inv.ordered early late earlyBound lateBound order
    exact pair host snapshot block earlier version same guarantee reported
  refine ⟨?_, ?_, ?_⟩
  · intro previous earlier present reports
    exact respects _ present earlier ⟨rfl, reports⟩
  · intro committed present
    exact respects _ present _ ⟨rfl, rfl⟩
  · intro produced commit present member
    exact respects _ present commit ⟨rfl, member⟩

def reportOf {cluster : Cluster} :
    CoherenceEvent cluster → cluster.Host × Option ReadSnapshot × Option (List (Nat × Nat))
  | .readReturned host snapshot => (host, some snapshot, none)
  | .acquired host _ => (host, none, none)
  | .released host produced => (host, none, some produced)

section Reports

variable {cluster : Cluster} {event : CoherenceEvent cluster} {host : cluster.Host}

theorem reportOf_read {snapshot : ReadSnapshot}
    (report : reportOf event = (host, some snapshot, none)) :
    event = .readReturned host snapshot := by
  cases event with
  | readReturned other returned =>
      obtain ⟨rfl, rfl⟩ : other = host ∧ returned = snapshot := by simpa [reportOf] using report
      rfl
  | acquired | released => simp [reportOf] at report

theorem reportOf_acquired (report : reportOf event = (host, none, none)) :
    ∃ committed, event = .acquired host committed := by
  cases event with
  | readReturned => simp [reportOf] at report
  | acquired other committed =>
      obtain rfl : other = host := by simpa [reportOf] using report
      exact ⟨committed, rfl⟩
  | released => simp [reportOf] at report

theorem reportOf_released {produced : List (Nat × Nat)}
    (report : reportOf event = (host, none, some produced)) :
    event = .released host produced := by
  cases event with
  | readReturned | acquired => simp [reportOf] at report
  | released other released =>
      obtain ⟨rfl, rfl⟩ : other = host ∧ released = produced := by simpa [reportOf] using report
      rfl

end Reports

/-- A host reads the initial contents, publishes a byte, passes a boundary and reads again. -/
def publishAndReadOps : List (CoherenceOp readerAndWriter) :=
  CoherenceOp.startRead reader 0 2 :: List.replicate 11 (CoherenceOp.read reader) ++
    [CoherenceOp.obtain reader 5 0, .startCommit reader 5 [0], .commit reader, .write 0, .write 0,
      .storeByte 0 1 9, .release 0, .write 0, .write 0, .write 0, .commit reader, .commit reader,
      .synchronizeAcquire reader, .startRead reader 0 2] ++
    List.replicate 11 (CoherenceOp.read reader)

theorem reads_are_fresh_publish :
    ∃ (config : CoherenceConfig readerAndWriter) (committed : Nat → Nat) (version : Nat),
      Run.runLabels (step twoBytes) (initial readerAndWriter fun _ _ => 0) publishAndReadOps =
        some config ∧
      config.events = [.readReturned reader ⟨0, 0, [0], [0, 0]⟩, .released reader [(0, 1)],
        .acquired reader committed, .readReturned reader ⟨0, 0, [version], [0, 9]⟩] ∧
      0 ≤ version ∧ committed 0 ≤ version ∧ 1 ≤ version := by
  have outcome : (Run.runLabels (step twoBytes) (initial readerAndWriter fun _ _ => 0)
      publishAndReadOps).any (fun config =>
        config.events.map reportOf =
          [(reader, some ⟨0, 0, [0], [0, 0]⟩, none), (reader, none, some [(0, 1)]),
            (reader, none, none), (reader, some ⟨0, 0, [1], [0, 9]⟩, none)]) = true := by
    decide +kernel
  obtain ⟨config, execution, facts⟩ := (Option.any_eq_true _ _).mp outcome
  obtain ⟨_, _, events, reading, facts⟩ := List.map_eq_cons_iff.mp (of_decide_eq_true facts)
  obtain ⟨_, _, rfl, releasing, facts⟩ := List.map_eq_cons_iff.mp facts
  obtain ⟨_, _, rfl, acquiring, facts⟩ := List.map_eq_cons_iff.mp facts
  obtain ⟨_, _, rfl, rereading, facts⟩ := List.map_eq_cons_iff.mp facts
  obtain rfl := List.map_eq_nil_iff.mp facts
  obtain rfl := reportOf_read reading
  obtain rfl := reportOf_released releasing
  obtain ⟨committed, rfl⟩ := reportOf_acquired acquiring
  obtain rfl := reportOf_read rereading
  have reached := Run.reaches_of_runLabels execution
  have last : config.events[3]? = some (.readReturned reader ⟨0, 0, [1], [0, 9]⟩) := by
    rw [events]
    rfl
  have reported : ReadSnapshot.reported ⟨0, 0, [1], [0, 9]⟩ 0 = some 1 := rfl
  have earlier := (reads_are_fresh reached (by decide : 0 < 3) last reported).1 _ 0
    (by rw [events]; rfl) rfl
  have published := (reads_are_fresh reached (by decide : 1 < 3) last reported).2.2 _ 1
    (by rw [events]; rfl) (by simp)
  have boundary := (reads_are_fresh reached (by decide : 2 < 3) last reported).2.1 committed
    (by rw [events]; rfl)
  exact ⟨config, committed, 1, execution, events, earlier, boundary, published⟩

end CoherenceConfig
end Cxloom.LoomMem
