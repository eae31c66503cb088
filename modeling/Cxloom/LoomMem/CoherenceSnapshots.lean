import Cxloom.LoomMem.CoherenceStable
import Cxloom.LoomMem.CoherenceFresh

/-!
# The bytes of returned snapshots

A read assembles its result block by block.  Every byte of a returned snapshot is a byte of the
published content of its block at the version that the snapshot reports.
-/

namespace Cxloom.LoomMem
namespace CoherenceConfig

variable {cluster : Cluster}

/-- Histories, observations and versions only grow. -/
structure Evolves (config after : CoherenceConfig cluster) : Prop where
  published : ∀ block, config.published block <+: after.published block
  /-- Observations stay. -/
  events : config.events <+: after.events
  versions : ∀ block, (config.blocks block).version ≤ (after.blocks block).version

/-- No read begins, moves or returns. -/
structure Aside (config after : CoherenceConfig cluster) : Prop where
  reading : ∀ host process, after.activity host = .reading process →
    config.activity host = .reading process
  returned : ∀ host snapshot, .readReturned host snapshot ∈ after.events →
    .readReturned host snapshot ∈ config.events

section Evolution

variable {geometry : ObjectGeometry} {config after : CoherenceConfig cluster}

theorem Evolves.trans {middle : CoherenceConfig cluster} (first : Evolves config middle)
    (second : Evolves middle after) : Evolves config after :=
  ⟨fun block => (first.published block).trans (second.published block),
    first.events.trans second.events,
    fun block => (first.versions block).trans (second.versions block)⟩

/-- A change that publishes and observes nothing. -/
theorem Evolves.grows (published : after.published = config.published)
    (events : after.events = config.events)
    (versions : ∀ block, (config.blocks block).version ≤ (after.blocks block).version) :
    Evolves config after := by
  refine ⟨fun block => ?_, ?_, versions⟩
  · rw [published]
  · rw [events]

/-- A change that leaves the histories and the blocks alone. -/
theorem Evolves.of_eq (published : after.published = config.published)
    (events : after.events = config.events) (blocks : after.blocks = config.blocks) :
    Evolves config after :=
  .grows published events fun block => by rw [blocks]

/-- A change that is observed. -/
theorem Evolves.observed {event : CoherenceEvent cluster}
    (published : after.published = config.published)
    (events : after.events = config.events ++ [event]) (blocks : after.blocks = config.blocks) :
    Evolves config after := by
  refine ⟨fun block => ?_, ?_, fun block => ?_⟩
  · rw [published]
  · rw [events]
    exact List.prefix_append _ _
  · rw [blocks]

theorem evolves_blockReleased (config : CoherenceConfig cluster) (block : Nat)
    (session : WriterSession cluster) : Evolves config (config.blockReleased block session) := by
  simp only [blockReleased]
  split
  · split
    · exact .of_eq rfl rfl rfl
    · exact .of_eq rfl rfl rfl
  · exact .of_eq rfl rfl rfl

theorem evolves_readAccess (config : CoherenceConfig cluster) (host : cluster.Host)
    (process : ReadProcess) : Evolves config (readAccess geometry config host process) := by
  simp only [readAccess]
  split
  · split
    · exact .of_eq rfl rfl rfl
    · exact .of_eq rfl rfl rfl
  · split
    · exact .of_eq rfl rfl rfl
    · exact .of_eq rfl rfl rfl
  · exact .of_eq rfl rfl rfl
  · split
    · split
      · exact .of_eq rfl rfl rfl
      · exact .of_eq rfl rfl rfl
    · exact .of_eq rfl rfl rfl
  · split
    · exact .of_eq rfl rfl rfl
    · exact .of_eq rfl rfl rfl
  · exact .of_eq rfl rfl rfl
  · split
    · exact .of_eq rfl rfl rfl
    · exact .of_eq rfl rfl rfl
  · exact .of_eq rfl rfl rfl
  · simp only [assembleBlock]
    split
    · exact .observed rfl rfl rfl
    · exact .of_eq rfl rfl rfl

theorem evolves_writeAccess {block : Nat} {session : WriterSession cluster}
    (access : config.writeAccess block session = some after) : Evolves config after := by
  cases point : session.point with
  | owned | granted | writing => simp [writeAccess, point] at access
  | activate =>
      simp only [writeAccess, point] at access
      split at access
      · cases access
        split
        · exact .of_eq rfl rfl rfl
        · exact .of_eq rfl rfl rfl
      · cases access
        exact .of_eq rfl rfl rfl
  | compareExchange epoch =>
      simp only [writeAccess, point] at access
      split at access
      · cases access
        exact .grows rfl rfl (version_setBlock config le_rfl)
      · cases access
        exact .of_eq rfl rfl rfl
  | loadEpoch modified =>
      simp only [writeAccess, point] at access
      split at access
      · split at access
        · cases access
          exact .of_eq rfl rfl rfl
        · cases access
          exact .of_eq rfl rfl rfl
      · cases access
        exact .of_eq rfl rfl rfl
  | addVersion epoch =>
      simp only [writeAccess, point] at access
      cases access
      refine ⟨fun other => ?_, List.prefix_rfl, version_setBlock config (Nat.le_succ _)⟩
      by_cases same : other = block
      · subst same
        simp
      · simp [same]
  | storeEpoch epoch modified =>
      simp only [writeAccess, point] at access
      have closed : ∀ shared : SharedBlock, (config.blocks block).version ≤ shared.version →
          Evolves config ((config.setBlock block shared).setWriter block none) :=
        fun shared grows => .grows rfl rfl (version_setBlock config grows)
      cases access
      split
      · refine (closed _ ?_).trans (evolves_blockReleased _ _ _)
        exact le_rfl
      · exact closed _ le_rfl

/-- Every action only extends what has happened. -/
theorem effect_evolves (effect : Effect geometry config after) : Evolves config after := by
  cases effect with
  | read host process reading => exact evolves_readAccess config host process
  | write block session after present proceeds access => exact evolves_writeAccess access
  | synchronizeAcquire host idle | finishCommit host process committing erasing remaining =>
      exact .observed rfl rfl rfl
  | storeByte block index value session present writing =>
      exact .grows rfl rfl (version_setBlock config le_rfl)
  | startRead | failRead | evictOld | evictCurrent | invalidateReadCache | obtain | obtainRaw
  | collect | abandon | abort | startCommit | eraseBlock | beginWriteback | release
  | eraseReleased => exact .of_eq rfl rfl rfl

end Evolution

/-! ## Actions aside from reads -/

section Asides

variable {geometry : ObjectGeometry} {config after : CoherenceConfig cluster}

/-- A change of writers, blocks or indexes. -/
theorem Aside.of_eq (activity : after.activity = config.activity)
    (events : after.events = config.events) : Aside config after := by
  constructor
  · intro host process reading
    rwa [activity] at reading
  · intro host snapshot member
    rwa [events] at member

/-- A host's object mutex passes to another activity than a read. -/
theorem Aside.activity {host : cluster.Host} {activity : LocalActivity}
    (changed : after.activity = Function.update config.activity host activity)
    (notReading : ∀ process, activity ≠ .reading process)
    (returned : ∀ reader snapshot, .readReturned reader snapshot ∈ after.events →
      .readReturned reader snapshot ∈ config.events) : Aside config after := by
  refine ⟨?_, returned⟩
  intro other process reading
  rw [changed] at reading
  by_cases same : other = host
  · subst same
    rw [Function.update_self] at reading
    exact absurd reading (notReading process)
  · rwa [Function.update_of_ne same] at reading

theorem Aside.trans {middle : CoherenceConfig cluster} (first : Aside config middle)
    (second : Aside middle after) : Aside config after :=
  ⟨fun host process reading => first.reading host process (second.reading host process reading),
    fun host snapshot member => first.returned host snapshot (second.returned host snapshot member)⟩

theorem aside_blockReleased (config : CoherenceConfig cluster) (block : Nat)
    (session : WriterSession cluster) : Aside config (config.blockReleased block session) := by
  simp only [blockReleased]
  split
  · split
    · exact .activity rfl (by simp) (fun _ _ member => member)
    · exact .of_eq rfl rfl
  · exact .of_eq rfl rfl

theorem aside_writeAccess {block : Nat} {session : WriterSession cluster}
    (access : config.writeAccess block session = some after) : Aside config after := by
  cases point : session.point with
  | owned | granted | writing => simp [writeAccess, point] at access
  | activate =>
      simp only [writeAccess, point] at access
      split at access
      · cases access
        split
        · exact .of_eq rfl rfl
        · exact .activity rfl (by simp) (fun _ _ member => member)
      · cases access
        exact .of_eq rfl rfl
  | compareExchange epoch =>
      simp only [writeAccess, point] at access
      split at access
      · cases access
        exact .of_eq rfl rfl
      · cases access
        exact .of_eq rfl rfl
  | loadEpoch modified =>
      simp only [writeAccess, point] at access
      split at access
      · split at access
        · cases access
          exact .of_eq rfl rfl
        · cases access
          exact .of_eq rfl rfl
      · cases access
        exact .of_eq rfl rfl
  | addVersion epoch =>
      simp only [writeAccess, point] at access
      cases access
      exact .of_eq rfl rfl
  | storeEpoch epoch modified =>
      simp only [writeAccess, point] at access
      cases access
      split
      · refine Aside.trans ?_ (aside_blockReleased _ _ _)
        exact .of_eq rfl rfl
      · exact .of_eq rfl rfl

theorem aside_commitAction {host : cluster.Host} {process : CommitProcess}
    (taken : commitAction config host process = some after) : Aside config after := by
  simp only [commitAction] at taken
  split at taken
  · cases taken
    exact .activity rfl (by simp) (fun _ _ member => member)
  · cases taken
    refine .activity rfl (by simp) fun reader snapshot member => ?_
    simpa [observe, setActivity] using member
  · split at taken
    · obtain ⟨-, same⟩ := Option.ite_none_right_eq_some.mp taken
      cases same
      exact .of_eq rfl rfl
    · simp at taken

/-- An action begins a read, moves a read or leaves the reads alone. -/
theorem step_reads {op : CoherenceOp cluster} (taken : step geometry config op = some after) :
    (∃ host offset bytes, 0 < bytes ∧ offset + bytes ≤ geometry.bytes ∧
      after = config.setActivity host (.reading
        ⟨offset, bytes, offset / geometry.coherenceBlockBytes, [], [], .lookup⟩)) ∨
    (∃ host process, config.activity host = .reading process ∧
      after = readAccess geometry config host process) ∨ Aside config after := by
  cases op with
  | startRead host offset bytes =>
      obtain ⟨⟨-, positive, inside, fits⟩, same⟩ := Option.ite_none_right_eq_some.mp taken
      cases same
      exact .inl ⟨host, offset, bytes, positive, by omega, rfl⟩
  | read host =>
      simp only [step] at taken
      split at taken
      · rename_i process reading
        cases taken
        exact .inr (.inl ⟨host, process, reading, rfl⟩)
      · simp at taken
  | failRead host =>
      simp only [step] at taken
      split at taken
      · cases taken
        exact .inr (.inr (.activity rfl (by simp) (fun _ _ member => member)))
      · simp at taken
  | evict host block fromOld =>
      simp only [step] at taken
      split at taken
      · cases taken
        exact .inr (.inr (.of_eq rfl rfl))
      · cases taken
        exact .inr (.inr (.of_eq rfl rfl))
  | invalidateReadCache host =>
      obtain ⟨-, same⟩ := Option.ite_none_right_eq_some.mp taken
      cases same
      exact .inr (.inr (.of_eq rfl rfl))
  | synchronizeAcquire host =>
      obtain ⟨-, same⟩ := Option.ite_none_right_eq_some.mp taken
      cases same
      refine .inr (.inr ⟨fun _ _ reading => reading, fun reader snapshot member => ?_⟩)
      simpa [observe] using member
  | obtain host buffer block | obtainRaw host block =>
      simp only [step] at taken
      split at taken
      · cases taken
        exact .inr (.inr (.of_eq rfl rfl))
      · simp at taken
  | collect block | abandon block | abort block | storeByte block index value | release block =>
      simp only [step] at taken
      split at taken
      · obtain ⟨-, same⟩ := Option.ite_none_right_eq_some.mp taken
        cases same
        exact .inr (.inr (.of_eq rfl rfl))
      · simp at taken
  | startCommit host buffer blocks =>
      obtain ⟨-, same⟩ := Option.ite_none_right_eq_some.mp taken
      cases same
      exact .inr (.inr (.activity rfl (by simp) (fun _ _ member => member)))
  | commit host =>
      simp only [step] at taken
      split at taken
      · exact .inr (.inr (aside_commitAction taken))
      · simp at taken
  | write block =>
      simp only [step] at taken
      split at taken
      · obtain ⟨-, access⟩ := Option.ite_none_right_eq_some.mp taken
        exact .inr (.inr (aside_writeAccess access))
      · simp at taken
  | eraseReleased host block =>
      obtain ⟨-, same⟩ := Option.ite_none_right_eq_some.mp taken
      cases same
      exact .inr (.inr (.of_eq rfl rfl))

end Asides

/-! ## Assembly -/

/-- The first bytes of a result are published bytes of the versions that it reports. -/
def Assembles (geometry : ObjectGeometry) (published : Nat → List (Nat → UInt8))
    (snapshot : ReadSnapshot) : Prop :=
  ∀ position, snapshot.offset ≤ position →
    position < snapshot.offset + snapshot.storage.length →
    ∃ version content, snapshot.reported (position / geometry.coherenceBlockBytes) = some version ∧
      (published (position / geometry.coherenceBlockBytes))[version]? = some content ∧
      snapshot.storage[position - snapshot.offset]? = some
        (content (position - geometry.blockStart (position / geometry.coherenceBlockBytes)))

/-- What a running read has assembled. -/
structure ReadAssembles (geometry : ObjectGeometry) (config : CoherenceConfig cluster)
    (process : ReadProcess) : Prop where
  /-- The range is not empty. -/
  positive : 0 < process.bytes
  /-- The range lies in the object. -/
  inside : process.offset + process.bytes ≤ geometry.bytes
  inRange : geometry.blockStart process.block < process.offset + process.bytes
  length : process.assembled.length = geometry.blockStart process.block - process.offset
  bytes : Assembles geometry config.published (partialSnapshot geometry process)

/-- The snapshots of every run. -/
structure SnapshotInv (geometry : ObjectGeometry) (config : CoherenceConfig cluster) : Prop where
  reading : ∀ host process, config.activity host = .reading process →
    ReadAssembles geometry config process
  returned : ∀ host snapshot, .readReturned host snapshot ∈ config.events →
    Assembles geometry config.published snapshot

section Assembly

variable {geometry : ObjectGeometry} {config after : CoherenceConfig cluster}

theorem Assembles.extend {published later : Nat → List (Nat → UInt8)} {snapshot : ReadSnapshot}
    (assembles : Assembles geometry published snapshot)
    (extension : ∀ block, published block <+: later block) :
    Assembles geometry later snapshot := by
  intro position above below
  obtain ⟨version, content, reported, present, byte⟩ := assembles position above below
  obtain ⟨suffix, longer⟩ := extension (position / geometry.coherenceBlockBytes)
  refine ⟨version, content, reported, ?_, byte⟩
  rw [← longer, List.getElem?_append_left (List.getElem?_eq_some_iff.mp present).1]
  exact present

theorem ReadAssembles.extend {process : ReadProcess}
    (assembles : ReadAssembles geometry config process)
    (extension : ∀ block, config.published block <+: after.published block) :
    ReadAssembles geometry after process :=
  { assembles with bytes := assembles.bytes.extend extension }

/-- Reads are left alone. -/
theorem SnapshotInv.aside (inv : SnapshotInv geometry config) (aside : Aside config after)
    (evolves : Evolves config after) : SnapshotInv geometry after := by
  constructor
  · intro host process reading
    exact (inv.reading host process (aside.reading host process reading)).extend evolves.published
  · intro host snapshot member
    exact (inv.returned host snapshot (aside.returned host snapshot member)).extend
      evolves.published

/-- A reader moves within its block. -/
theorem SnapshotInv.reads (inv : SnapshotInv geometry config) (host : cluster.Host)
    (process : ReadProcess) (assembles : ReadAssembles geometry config process)
    (activity : after.activity = Function.update config.activity host (.reading process))
    (published : after.published = config.published) (events : after.events = config.events) :
    SnapshotInv geometry after := by
  have kept : ∀ running, ReadAssembles geometry config running →
      ReadAssembles geometry after running := by
    intro running earlier
    apply earlier.extend
    intro block
    rw [published]
  constructor
  · intro other running reading
    rw [activity] at reading
    by_cases same : other = host
    · subst same
      rw [Function.update_self] at reading
      cases reading
      exact kept process assembles
    · rw [Function.update_of_ne same] at reading
      exact kept running (inv.reading other running reading)
  · intro other snapshot member
    rw [events] at member
    rw [published]
    exact inv.returned other snapshot member

theorem getElem?_bytesOf (content : Nat → UInt8) {length index : Nat} (below : index < length) :
    (bytesOf content length)[index]? = some (content index) := by
  simp [bytesOf, below]

theorem reported_append {snapshot : ReadSnapshot} {block version : Nat} (last : Nat)
    (storage : List UInt8) (reported : snapshot.reported block = some version) :
    ReadSnapshot.reported ⟨snapshot.offset, snapshot.firstBlock, snapshot.versions ++ [last],
      storage⟩ block = some version := by
  obtain ⟨inRange, present⟩ := Option.ite_none_right_eq_some.mp reported
  refine Option.ite_none_right_eq_some.mpr ⟨inRange, ?_⟩
  rw [List.getElem?_append_left (List.getElem?_eq_some_iff.mp present).1]
  exact present

theorem div_eq_block {block position : Nat} (above : geometry.blockStart block ≤ position)
    (below : position < geometry.blockStart block + geometry.coherenceBlockBytes) :
    position / geometry.coherenceBlockBytes = block := by
  apply Nat.div_eq_of_lt_le above
  rw [Nat.add_mul, Nat.one_mul]
  exact below

/-- The part of a block inside the range of a read. -/
def chunk (geometry : ObjectGeometry) (process : ReadProcess) (replica : List UInt8) : List UInt8 :=
  (replica.drop (max process.offset (geometry.blockStart process.block) -
    geometry.blockStart process.block)).take
      (min (process.offset + process.bytes)
        (geometry.blockStart process.block + geometry.blockLength process.block) -
          max process.offset (geometry.blockStart process.block))

/-- End of the part of a block inside the range of a read. -/
def chunkEnd (geometry : ObjectGeometry) (process : ReadProcess) : Nat :=
  min (process.offset + process.bytes)
    (geometry.blockStart process.block + geometry.blockLength process.block)

section Chunks

variable {process : ReadProcess} {version : Nat} {replica : List UInt8}

/-- A read has not passed the first block of its range. -/
theorem offset_lt_blockEnd (position : process.block =
    process.offset / geometry.coherenceBlockBytes + process.versions.length) :
    process.offset < geometry.blockStart process.block + geometry.coherenceBlockBytes := by
  have first : process.offset / geometry.coherenceBlockBytes < process.block + 1 := by omega
  have below := (Nat.div_lt_iff_lt_mul geometry.coherenceBlockBytes_pos).mp first
  rw [Nat.add_mul, Nat.one_mul] at below
  exact below

/-- Where the part of a block inside the range of a read begins and ends. -/
theorem ReadAssembles.chunk_within (assembles : ReadAssembles geometry config process)
    (position : process.block =
      process.offset / geometry.coherenceBlockBytes + process.versions.length) :
    max process.offset (geometry.blockStart process.block) ≤ chunkEnd geometry process ∧
      process.assembled.length =
        max process.offset (geometry.blockStart process.block) - process.offset := by
  have reached := offset_lt_blockEnd position
  have inRange := assembles.inRange
  have inside := assembles.inside
  constructor
  · rw [chunkEnd, ObjectGeometry.blockLength, ← Nat.add_min_add_left]
    refine max_le (le_min ?_ (le_min reached.le ?_)) (le_min inRange.le (le_min ?_ ?_))
    · exact Nat.le_add_right _ _
    · omega
    · exact Nat.le_add_right _ _
    · exact Nat.le_add_right _ _
  · rw [assembles.length]
    rcases Nat.le_total process.offset (geometry.blockStart process.block) with early | late
    · rw [Nat.max_eq_right early]
    · rw [Nat.max_eq_left late, Nat.sub_self, Nat.sub_eq_zero_of_le late]

theorem length_chunk (stops : chunkEnd geometry process ≤
      geometry.blockStart process.block + replica.length) :
    (chunk geometry process replica).length = chunkEnd geometry process -
      max process.offset (geometry.blockStart process.block) := by
  have starts := le_max_right process.offset (geometry.blockStart process.block)
  rw [chunk, ← chunkEnd, List.length_take, List.length_drop]
  generalize max process.offset (geometry.blockStart process.block) = first at starts ⊢
  generalize chunkEnd geometry process = stop at stops ⊢
  exact min_eq_left (by omega)

theorem chunkEnd_le_blockEnd (geometry : ObjectGeometry) (process : ReadProcess) :
    chunkEnd geometry process ≤
      geometry.blockStart process.block + geometry.blockLength process.block :=
  min_le_right _ _

theorem length_assembled_chunk (assembles : ReadAssembles geometry config process)
    (position : process.block =
      process.offset / geometry.coherenceBlockBytes + process.versions.length)
    (whole : replica.length = geometry.blockLength process.block) :
    process.offset + (process.assembled ++ chunk geometry process replica).length =
      chunkEnd geometry process := by
  obtain ⟨opens, before⟩ := assembles.chunk_within position
  have starts := le_max_left process.offset (geometry.blockStart process.block)
  have stops := chunkEnd_le_blockEnd geometry process
  rw [← whole] at stops
  rw [List.length_append, length_chunk stops, before]
  omega

/-- The block at which a read stands joins its result. -/
theorem ReadAssembles.concat (assembles : ReadAssembles geometry config process)
    (position : process.block =
      process.offset / geometry.coherenceBlockBytes + process.versions.length)
    (genuine : Genuine (config.published process.block) (geometry.blockLength process.block)
      version replica) :
    Assembles geometry config.published
      ⟨process.offset, process.offset / geometry.coherenceBlockBytes,
        process.versions ++ [version], process.assembled ++ chunk geometry process replica⟩ := by
  obtain ⟨content, present, rfl⟩ := genuine
  have total := length_assembled_chunk assembles position (length_bytesOf content _)
  have reached := offset_lt_blockEnd position
  have length := assembles.length
  have stops := chunkEnd_le_blockEnd geometry process
  have blockBound : geometry.blockLength process.block ≤ geometry.coherenceBlockBytes :=
    min_le_left _ _
  intro byte above below
  dsimp only at above below
  rw [total] at below
  by_cases earlier : byte < geometry.blockStart process.block
  · have joined : byte - process.offset < process.assembled.length := by
      rw [length]
      omega
    obtain ⟨known, bytes, reported, published, same⟩ := assembles.bytes byte above (by
      simp only [partialSnapshot]
      omega)
    refine ⟨known, bytes, reported_append version _ reported, published, ?_⟩
    dsimp only
    rw [List.getElem?_append_left joined]
    exact same
  · have block : byte / geometry.coherenceBlockBytes = process.block :=
      div_eq_block (Nat.le_of_not_lt earlier) (by omega)
    rw [block]
    refine ⟨version, content, ?_, present, ?_⟩
    · refine Option.ite_none_right_eq_some.mpr ⟨by dsimp only; omega, ?_⟩
      rw [show process.block - process.offset / geometry.coherenceBlockBytes =
        process.versions.length by omega]
      exact List.getElem?_concat_length ..
    · obtain ⟨opens, before⟩ := assembles.chunk_within position
      have beyond : process.assembled.length ≤ byte - process.offset := by
        rw [length]
        omega
      have first : max process.offset (geometry.blockStart process.block) ≤ byte :=
        max_le above (Nat.le_of_not_lt earlier)
      have starts := le_max_left process.offset (geometry.blockStart process.block)
      have enters := le_max_right process.offset (geometry.blockStart process.block)
      have inBlock : byte - geometry.blockStart process.block <
          geometry.blockLength process.block := by omega
      dsimp only
      rw [List.getElem?_append_right beyond, chunk, ← chunkEnd, before]
      generalize max process.offset (geometry.blockStart process.block) = copyBegin at *
      have inChunk : byte - process.offset - (copyBegin - process.offset) <
          chunkEnd geometry process - copyBegin := by omega
      have index : copyBegin - geometry.blockStart process.block +
          (byte - process.offset - (copyBegin - process.offset)) =
            byte - geometry.blockStart process.block := by omega
      rw [List.getElem?_take_of_lt inChunk, List.getElem?_drop, index,
        getElem?_bytesOf content inBlock]

/-- A read adds a block to its result and returns after the last one. -/
theorem SnapshotInv.assemble (inv : SnapshotInv geometry config) {host : cluster.Host}
    (reading : config.activity host = .reading process)
    (position : process.block =
      process.offset / geometry.coherenceBlockBytes + process.versions.length)
    (genuine : Genuine (config.published process.block) (geometry.blockLength process.block)
      version replica) :
    SnapshotInv geometry (assembleBlock geometry config host process version replica) := by
  have assembles := inv.reading host process reading
  have whole := assembles.concat position genuine
  simp only [assembleBlock]
  split
  · have idle : SnapshotInv geometry (config.setActivity host .idle) :=
      inv.aside (.activity rfl (by simp) (fun _ _ member => member)) (.of_eq rfl rfl rfl)
    refine ⟨fun other running moved => (idle.reading other running moved).extend
      fun _ => List.prefix_rfl, ?_⟩
    intro other snapshot member
    rcases List.mem_append.mp member with earlier | new
    · exact idle.returned other snapshot earlier
    · cases List.mem_singleton.mp new
      exact whole
  · rename_i notLast
    have before : geometry.blockStart (process.block + 1) < process.offset + process.bytes := by
      have atMost : process.block ≤
          (process.offset + process.bytes - 1) / geometry.coherenceBlockBytes := by
        rw [Nat.le_div_iff_mul_le geometry.coherenceBlockBytes_pos]
        have inRange := assembles.inRange
        simp only [ObjectGeometry.blockStart] at inRange
        omega
      have next : process.block + 1 ≤
          (process.offset + process.bytes - 1) / geometry.coherenceBlockBytes := by omega
      rw [Nat.le_div_iff_mul_le geometry.coherenceBlockBytes_pos] at next
      have positive := assembles.positive
      simp only [ObjectGeometry.blockStart]
      omega
    refine inv.reads host
      { process with
        block := process.block + 1
        versions := process.versions ++ [version]
        assembled := process.assembled ++ chunk geometry process replica
        point := .lookup } ?_ rfl rfl rfl
    refine ⟨assembles.positive, assembles.inside, before, ?_, whole⟩
    have complete : replica.length = geometry.blockLength process.block := by
      obtain ⟨content, -, same⟩ := genuine
      rw [same, length_bytesOf]
    have total := length_assembled_chunk assembles position complete
    have start : geometry.blockStart (process.block + 1) =
        geometry.blockStart process.block + geometry.coherenceBlockBytes := by
      simp only [ObjectGeometry.blockStart, Nat.add_mul, Nat.one_mul]
    have inside := assembles.inside
    change (process.assembled ++ chunk geometry process replica).length =
      geometry.blockStart (process.block + 1) - process.offset
    simp only [chunkEnd, ObjectGeometry.blockLength] at total
    omega

/-- Every access of a reader keeps the invariant. -/
theorem readAccess_snapshots (inv : SnapshotInv geometry config)
    (stable : StableInv geometry config)
    (fresh : FreshInv geometry config) {host : cluster.Host}
    (reading : config.activity host = .reading process) :
    SnapshotInv geometry (readAccess geometry config host process) := by
  have assembles := inv.reading host process reading
  have moves : ∀ point, SnapshotInv geometry (config.readAt host process point) :=
    fun point => inv.reads host { process with point := point }
      ⟨assembles.positive, assembles.inside, assembles.inRange, assembles.length, assembles.bytes⟩
      rfl rfl rfl
  cases point : process.point with
  | lookup =>
      simp only [readAccess, point]
      split
      · exact moves _
      · exact moves _
  | loadEpoch =>
      simp only [readAccess, point]
      split
      · exact inv
      · exact moves _
  | loadVersion epochBefore =>
      simp only [readAccess, point]
      exact moves _
  | lookupOld epochBefore versionBefore =>
      simp only [readAccess, point]
      split
      · split
        · exact moves _
        · exact moves _
      · exact moves _
  | copy epochBefore versionBefore copied =>
      simp only [readAccess, point]
      split
      · exact moves _
      · exact moves _
  | reloadEpoch epochBefore versionBefore replica reused =>
      simp only [readAccess, point]
      exact moves _
  | reloadVersion epochBefore versionBefore replica reused epochAfter =>
      simp only [readAccess, point]
      split
      · exact moves _
      · exact (moves _).aside (.of_eq rfl rfl) (.of_eq rfl rfl rfl)
  | cache version replica =>
      simp only [readAccess, point]
      exact (moves (.assemble version replica)).aside (.of_eq rfl rfl) (.of_eq rfl rfl rfl)
  | assemble version replica =>
      have fits := stable.readers host process reading
      rw [point] at fits
      simp only [readAccess, point]
      exact inv.assemble reading (fresh.reading host process reading).position fits

end Chunks

/-- Every run keeps the invariant. -/
theorem reached_snapshots {content : Nat → Nat → UInt8}
    (execution : Reached geometry content config) : SnapshotInv geometry config := by
  have together := Run.ReachesBy.preserves execution
    (fun config => StableInv geometry config ∧ FreshInv geometry config ∧
      SnapshotInv geometry config)
    ⟨initial_stable geometry content, initial_fresh geometry content, by
      constructor <;> simp [initial]⟩ ?_
  · exact together.2.2
  · rintro before op after ⟨stable, fresh, inv⟩ - taken
    have effect := step_effect taken
    refine ⟨effect_stable stable effect, effect_fresh fresh effect, ?_⟩
    rcases step_reads taken with ⟨host, offset, bytes, positive, inside, rfl⟩ |
      ⟨host, process, reading, rfl⟩ | aside
    · have start : geometry.blockStart (offset / geometry.coherenceBlockBytes) ≤ offset :=
        Nat.div_mul_le_self _ _
      refine inv.reads host _ ⟨positive, inside, ?_, ?_, ?_⟩ rfl rfl rfl
      · dsimp only
        omega
      · dsimp only [List.length_nil]
        omega
      · intro position above below
        dsimp only [partialSnapshot, List.length_nil] at above below
        omega
    · exact readAccess_snapshots inv stable fresh reading
    · exact inv.aside aside (effect_evolves effect)

end Assembly

end CoherenceConfig
end Cxloom.LoomMem
