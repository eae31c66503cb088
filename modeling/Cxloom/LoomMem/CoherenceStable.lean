import Cxloom.LoomMem.Coherence
import Mathlib.Data.List.Basic
import Mathlib.Data.List.Infix

/-!
# Accepted copies are published contents

While a block's epoch keeps one even value, its version and its bytes do not change and the bytes
are those of the last modified release.  A reader that finds the same even epoch before and after
its copy has therefore copied the contents published at the version that it found in between.
-/

namespace Cxloom.LoomMem

def bytesOf (content : Nat → UInt8) (length : Nat) : List UInt8 :=
  (List.range length).map content

@[simp] theorem length_bytesOf (content : Nat → UInt8) (length : Nat) :
    (bytesOf content length).length = length := by
  simp [bytesOf]

theorem bytesOf_succ (content : Nat → UInt8) (length : Nat) :
    bytesOf content (length + 1) = bytesOf content length ++ [content length] := by
  simp [bytesOf, List.range_succ]

namespace CoherenceConfig

variable {cluster : Cluster}

/-- A byte string is the content of a block after the modified release of the given number. -/
def Genuine (published : List (Nat → UInt8)) (length version : Nat) (replica : List UInt8) : Prop :=
  ∃ content, published[version]? = some content ∧ replica = bytesOf content length

/-- The bytes of a block are those of its last modified release. -/
def Settled (shared : SharedBlock) (published : List (Nat → UInt8)) : Prop :=
  published[shared.version]? = some shared.content

/-- What the progress of its writer says about a block. -/
def WriterFits (shared : SharedBlock) (published : List (Nat → UInt8)) :
    Option WriterPoint → Prop
  | none => shared.writebackEpoch % 2 = 0 ∧ Settled shared published
  | some .owned => shared.writebackEpoch % 2 = 0 ∧ Settled shared published
  | some .activate => shared.writebackEpoch % 2 = 0 ∧ Settled shared published
  | some (.compareExchange _) => shared.writebackEpoch % 2 = 0 ∧ Settled shared published
  | some .granted => shared.writebackEpoch % 2 = 1 ∧ Settled shared published
  | some .writing => shared.writebackEpoch % 2 = 1
  | some (.loadEpoch true) => shared.writebackEpoch % 2 = 1
  | some (.loadEpoch false) => Settled shared published
  | some (.addVersion epoch) => shared.writebackEpoch % 2 = 1 ∧ shared.writebackEpoch = epoch
  | some (.storeEpoch epoch _) => shared.writebackEpoch = epoch ∧ Settled shared published

/-- The invariant of one block. -/
structure BlockInv (shared : SharedBlock) (published : List (Nat → UInt8))
    (point : Option WriterPoint) : Prop where
  length : published.length = shared.version + 1
  writer : WriterFits shared published point

/-- What happens to a block in one step of its writer. -/
structure BlockAdvances (before after : SharedBlock)
    (published later : List (Nat → UInt8)) : Prop where
  epoch : before.writebackEpoch ≤ after.writebackEpoch
  /-- Under an even epoch nothing changes. -/
  quiet : after.writebackEpoch = before.writebackEpoch → after.writebackEpoch % 2 = 0 →
    after.version = before.version
  history : published <+: later

/-- A reader's snapshot of the epoch and the version. -/
structure Window (shared : SharedBlock) (epochBefore versionBefore : Nat) : Prop where
  even : epochBefore % 2 = 0
  seen : epochBefore ≤ shared.writebackEpoch
  version : shared.writebackEpoch = epochBefore → shared.version = versionBefore

/-- What the progress of a reader says about the block at which it stands. -/
def ReaderFits (shared : SharedBlock) (published : List (Nat → UInt8)) (length : Nat) :
    ReadPoint → Prop
  | .lookup => True
  | .loadEpoch => True
  | .loadVersion epochBefore =>
      epochBefore % 2 = 0 ∧ epochBefore ≤ shared.writebackEpoch
  | .lookupOld epochBefore versionBefore => Window shared epochBefore versionBefore
  | .copy epochBefore versionBefore copied =>
      Window shared epochBefore versionBefore ∧ copied.length ≤ length ∧
        (shared.writebackEpoch = epochBefore → Genuine published copied.length versionBefore copied)
  | .reloadEpoch epochBefore versionBefore replica _ =>
      Window shared epochBefore versionBefore ∧
        (shared.writebackEpoch = epochBefore → Genuine published length versionBefore replica)
  | .reloadVersion epochBefore versionBefore replica _ epochAfter =>
      epochBefore = epochAfter → Genuine published length versionBefore replica
  | .cache version replica => Genuine published length version replica
  | .assemble version replica => Genuine published length version replica

theorem Genuine.extend {published later : List (Nat → UInt8)} {length version : Nat}
    {replica : List UInt8} (genuine : Genuine published length version replica)
    (extension : published <+: later) : Genuine later length version replica := by
  obtain ⟨content, present, same⟩ := genuine
  obtain ⟨suffix, rfl⟩ := extension
  refine ⟨content, ?_, same⟩
  rw [List.getElem?_append_left (List.getElem?_eq_some_iff.mp present).1]
  exact present

/-- A block whose epoch is even holds its last published content. -/
theorem BlockInv.settled {shared : SharedBlock} {published : List (Nat → UInt8)}
    {point : Option WriterPoint} (inv : BlockInv shared published point)
    (even : shared.writebackEpoch % 2 = 0) : Settled shared published := by
  have fits := inv.writer
  rcases point with _ | point
  · exact fits.2
  · cases point with
    | owned | activate | compareExchange epoch | granted => exact fits.2
    | writing =>
        have odd : shared.writebackEpoch % 2 = 1 := fits
        omega
    | loadEpoch modified =>
        cases modified with
        | false => exact fits
        | true =>
            have odd : shared.writebackEpoch % 2 = 1 := fits
            omega
    | addVersion epoch =>
        have odd := fits.1
        omega
    | storeEpoch epoch modified => exact fits.2

theorem Window.advance {before after : SharedBlock} {published later : List (Nat → UInt8)}
    {epochBefore versionBefore : Nat} (window : Window before epochBefore versionBefore)
    (advances : BlockAdvances before after published later) :
    Window after epochBefore versionBefore := by
  have monotone := advances.epoch
  have seen := window.seen
  have even := window.even
  constructor
  · exact even
  · omega
  · intro same
    have kept := advances.quiet (by omega) (by omega)
    rw [kept]
    exact window.version (by omega)

/-- A reader's knowledge survives every step of the writer. -/
theorem ReaderFits.advance {before after : SharedBlock} {published later : List (Nat → UInt8)}
    {length : Nat} {point : ReadPoint} (fits : ReaderFits before published length point)
    (advances : BlockAdvances before after published later) :
    ReaderFits after later length point := by
  have monotone := advances.epoch
  cases point with
  | lookup | loadEpoch => trivial
  | loadVersion epochBefore => exact ⟨fits.1, fits.2.trans monotone⟩
  | lookupOld epochBefore versionBefore => exact Window.advance fits advances
  | copy epochBefore versionBefore copied =>
      obtain ⟨window, short, bytes⟩ := fits
      have seen := window.seen
      refine ⟨window.advance advances, short, ?_⟩
      intro same
      exact (bytes (by omega)).extend advances.history
  | reloadEpoch epochBefore versionBefore replica reused =>
      obtain ⟨window, bytes⟩ := fits
      have seen := window.seen
      refine ⟨window.advance advances, ?_⟩
      intro same
      exact (bytes (by omega)).extend advances.history
  | reloadVersion epochBefore versionBefore replica reused epochAfter =>
      exact fun same => (fits same).extend advances.history
  | cache version replica | assemble version replica => exact Genuine.extend fits advances.history

/-- The invariant of every run. -/
structure StableInv (geometry : ObjectGeometry) (config : CoherenceConfig cluster) : Prop where
  blocks : ∀ block, BlockInv (config.blocks block) (config.published block)
    ((config.writers block).map WriterSession.point)
  readers : ∀ host process, config.activity host = .reading process →
    ReaderFits (config.blocks process.block) (config.published process.block)
      (geometry.blockLength process.block) process.point
  replicas : ∀ host block cached, config.replicas host block = some cached →
    Genuine (config.published block) (geometry.blockLength block) cached.version cached.storage
  oldReplicas : ∀ host block cached, config.oldReplicas host block = some cached →
    Genuine (config.published block) (geometry.blockLength block) cached.version cached.storage
  accepted : ∀ copy ∈ config.accepted,
    Genuine (config.published copy.block)
      (geometry.blockLength copy.block) copy.version copy.replica

/-! ## Steps of writers -/

section Writers

variable {geometry : ObjectGeometry} {config after : CoherenceConfig cluster} {block : Nat}

/-- Only one block, its writer and what it has published differ, and no read begins or moves. -/
structure WriterStep (config after : CoherenceConfig cluster) (block : Nat) : Prop where
  blocks : ∀ other, other ≠ block → after.blocks other = config.blocks other
  writers : ∀ other, other ≠ block → after.writers other = config.writers other
  /-- The other histories are unchanged. -/
  published : ∀ other, other ≠ block → after.published other = config.published other
  readers : ∀ host process, after.activity host = .reading process →
    config.activity host = .reading process
  /-- The current indexes are unchanged. -/
  replicas : after.replicas = config.replicas
  oldReplicas : after.oldReplicas = config.oldReplicas
  accepted : after.accepted = config.accepted

theorem BlockAdvances.refl (shared : SharedBlock) (published : List (Nat → UInt8)) :
    BlockAdvances shared shared published published :=
  ⟨le_rfl, fun _ _ => rfl, List.prefix_rfl⟩

/-- A writer step that keeps its block's invariant keeps the invariant. -/
theorem StableInv.writerStep (inv : StableInv geometry config)
    (taken : WriterStep config after block)
    (kept : BlockInv (after.blocks block) (after.published block)
      ((after.writers block).map WriterSession.point))
    (advances : BlockAdvances (config.blocks block) (after.blocks block)
      (config.published block) (after.published block)) :
    StableInv geometry after := by
  have everywhere : ∀ other, BlockAdvances (config.blocks other) (after.blocks other)
      (config.published other) (after.published other) := by
    intro other
    by_cases same : other = block
    · subst same
      exact advances
    · rw [taken.blocks other same, taken.published other same]
      exact .refl _ _
  constructor
  case blocks =>
    intro other
    by_cases same : other = block
    · subst same
      exact kept
    · rw [taken.blocks other same, taken.published other same, taken.writers other same]
      exact inv.blocks other
  case readers =>
    intro host process reading
    exact (inv.readers host process (taken.readers host process reading)).advance
      (everywhere process.block)
  case replicas =>
    intro host other cached present
    rw [taken.replicas] at present
    exact (inv.replicas host other cached present).extend (everywhere other).history
  case oldReplicas =>
    intro host other cached present
    rw [taken.oldReplicas] at present
    exact (inv.oldReplicas host other cached present).extend (everywhere other).history
  case accepted =>
    intro copy member
    rw [taken.accepted] at member
    exact (inv.accepted copy member).extend (everywhere copy.block).history

theorem writerStep_setWriter (config : CoherenceConfig cluster) (block : Nat)
    (session : Option (WriterSession cluster)) :
    WriterStep config (config.setWriter block session) block where
  blocks := fun _ _ => rfl
  writers := fun _ different => Function.update_of_ne different _ _
  published := fun _ _ => rfl
  readers := fun _ _ reading => reading
  replicas := rfl
  oldReplicas := rfl
  accepted := rfl

/-- A writer changes its progress only. -/
theorem StableInv.setWriter (inv : StableInv geometry config)
    {session : Option (WriterSession cluster)}
    (fits : WriterFits (config.blocks block) (config.published block)
      (session.map WriterSession.point)) :
    StableInv geometry (config.setWriter block session) := by
  apply inv.writerStep (writerStep_setWriter config block session)
  · have same : (config.setWriter block session).writers block = session := by
      simp [CoherenceConfig.setWriter]
    rw [same]
    exact ⟨(inv.blocks block).length, fits⟩
  · exact .refl _ _

/-- A writer changes its block and its progress. -/
theorem StableInv.setBlock (inv : StableInv geometry config) {shared : SharedBlock}
    {session : Option (WriterSession cluster)}
    (kept : BlockInv shared (config.published block) (session.map WriterSession.point))
    (advances : BlockAdvances (config.blocks block) shared (config.published block)
      (config.published block)) :
    StableInv geometry ((config.setBlock block shared).setWriter block session) := by
  have taken : WriterStep config ((config.setBlock block shared).setWriter block session) block := {
    blocks := fun other different => Function.update_of_ne different _ _
    writers := fun other different => Function.update_of_ne different _ _
    published := fun _ _ => rfl
    readers := fun _ _ reading => reading
    replicas := rfl
    oldReplicas := rfl
    accepted := rfl }
  apply inv.writerStep taken
  · simpa [CoherenceConfig.setWriter, CoherenceConfig.setBlock] using kept
  · simpa [CoherenceConfig.setWriter, CoherenceConfig.setBlock] using advances

theorem StableInv.publish (inv : StableInv geometry config) {shared : SharedBlock}
    {session : Option (WriterSession cluster)} {content : Nat → UInt8}
    (kept : BlockInv shared (config.published block ++ [content])
      (session.map WriterSession.point))
    (advances : BlockAdvances (config.blocks block) shared (config.published block)
      (config.published block ++ [content])) :
    StableInv geometry { (config.setBlock block shared).setWriter block session with
      published := Function.update config.published block
        (config.published block ++ [content]) } := by
  have taken : WriterStep config { (config.setBlock block shared).setWriter block session with
      published := Function.update config.published block
        (config.published block ++ [content]) } block := {
    blocks := fun other different => Function.update_of_ne different _ _
    writers := fun other different => Function.update_of_ne different _ _
    published := fun other different => Function.update_of_ne different _ _
    readers := fun _ _ reading => reading
    replicas := rfl
    oldReplicas := rfl
    accepted := rfl }
  apply inv.writerStep taken
  · simpa [CoherenceConfig.setWriter, CoherenceConfig.setBlock] using kept
  · simpa [CoherenceConfig.setWriter, CoherenceConfig.setBlock] using advances

/-- A host's object mutex changes hands, but not to a reader. -/
theorem StableInv.setActivity (inv : StableInv geometry config) (host : cluster.Host)
    {activity : LocalActivity} (notReading : ∀ process, activity ≠ .reading process) :
    StableInv geometry (config.setActivity host activity) := by
  refine ⟨inv.blocks, ?_, inv.replicas, inv.oldReplicas, inv.accepted⟩
  intro other process reading
  by_cases same : other = host
  · subst same
    simp only [CoherenceConfig.setActivity, Function.update_self] at reading
    exact absurd reading (notReading process)
  · simp only [CoherenceConfig.setActivity, Function.update_of_ne same] at reading
    exact inv.readers other process reading

theorem StableInv.blockReleased (inv : StableInv geometry config) (block : Nat)
    (session : WriterSession cluster) :
    StableInv geometry (config.blockReleased block session) := by
  simp only [CoherenceConfig.blockReleased]
  split
  · split
    · exact inv.setActivity _ (by simp)
    · exact inv
  · exact inv

/-- Every access of a writer keeps the invariant. -/
theorem writeAccess_stable (inv : StableInv geometry config) {session : WriterSession cluster}
    (present : config.writers block = some session)
    (taken : config.writeAccess block session = some after) : StableInv geometry after := by
  have kept := inv.blocks block
  rw [present] at kept
  have fits := kept.writer
  obtain ⟨host, buffer, point⟩ := session
  cases point with
  | owned | granted | writing => simp [writeAccess] at taken
  | activate =>
      have even : (config.blocks block).writebackEpoch % 2 = 0 := fits.1
      simp only [writeAccess] at taken
      split at taken
      · omega
      · cases taken
        exact inv.setWriter fits
  | compareExchange epoch =>
      have even : (config.blocks block).writebackEpoch % 2 = 0 := fits.1
      simp only [writeAccess] at taken
      split at taken
      · rename_i same
        cases taken
        apply inv.setBlock
        · refine ⟨kept.length, ?_⟩
          split
          · change (epoch + 1) % 2 = 1
            omega
          · refine ⟨?_, fits.2⟩
            change (epoch + 1) % 2 = 1
            omega
        · constructor
          · change (config.blocks block).writebackEpoch ≤ epoch + 1
            omega
          · intro unchanged
            change epoch + 1 = (config.blocks block).writebackEpoch at unchanged
            omega
          · exact List.prefix_rfl
      · cases taken
        exact inv.setWriter fits
  | loadEpoch modified =>
      cases modified with
      | false =>
          simp only [writeAccess] at taken
          cases taken
          exact inv.setWriter ⟨rfl, fits⟩
      | true =>
          have odd : (config.blocks block).writebackEpoch % 2 = 1 := fits
          simp only [writeAccess, if_true, odd] at taken
          cases taken
          exact inv.setWriter ⟨odd, rfl⟩
  | addVersion epoch =>
      obtain ⟨odd, same⟩ := fits
      simp only [writeAccess, Option.some_inj] at taken
      subst taken
      apply inv.publish
      · refine ⟨by simp [kept.length], same, ?_⟩
        have last := kept.length
        change (config.published block ++ [(config.blocks block).content])[
          (config.blocks block).version + 1]? = some (config.blocks block).content
        rw [← last, List.getElem?_concat_length]
      · refine ⟨le_rfl, ?_, List.prefix_append _ _⟩
        intro _ even
        change (config.blocks block).writebackEpoch % 2 = 0 at even
        omega
  | storeEpoch epoch modified =>
      obtain ⟨same, settled⟩ := fits
      simp only [writeAccess, Option.some_inj] at taken
      have closed : StableInv geometry ((config.setBlock block
          { config.blocks block with
            writebackEpoch := if epoch % 2 = 1 then epoch + 1
              else (config.blocks block).writebackEpoch }).setWriter block none) := by
        apply inv.setBlock
        · refine ⟨kept.length, ?_, settled⟩
          change (if epoch % 2 = 1 then epoch + 1 else (config.blocks block).writebackEpoch) % 2 = 0
          split <;> omega
        · refine ⟨?_, fun _ _ => rfl, List.prefix_rfl⟩
          change (config.blocks block).writebackEpoch ≤
            if epoch % 2 = 1 then epoch + 1 else (config.blocks block).writebackEpoch
          split <;> omega
      subst taken
      split
      · exact closed.blockReleased block _
      · exact closed

end Writers

/-! ## Steps of readers -/

section Readers

variable {geometry : ObjectGeometry} {config after : CoherenceConfig cluster}
  {host : cluster.Host} {process : ReadProcess}

/-- A reader moves to a point whose knowledge it has. -/
theorem StableInv.reads (inv : StableInv geometry config)
    (fits : ReaderFits (config.blocks process.block) (config.published process.block)
      (geometry.blockLength process.block) process.point) :
    StableInv geometry (config.setActivity host (.reading process)) := by
  refine ⟨inv.blocks, ?_, inv.replicas, inv.oldReplicas, inv.accepted⟩
  intro other running reading
  by_cases same : other = host
  · subst same
    simp only [CoherenceConfig.setActivity, Function.update_self] at reading
    cases reading
    exact fits
  · simp only [CoherenceConfig.setActivity, Function.update_of_ne same] at reading
    exact inv.readers other running reading

theorem StableInv.readAt (inv : StableInv geometry config) {point : ReadPoint}
    (fits : ReaderFits (config.blocks process.block) (config.published process.block)
      (geometry.blockLength process.block) point) :
    StableInv geometry (config.readAt host process point) :=
  inv.reads fits

/-- The indexes change, but hold published contents only. -/
theorem StableInv.withIndexes (inv : StableInv geometry config)
    {replicas oldReplicas : cluster.Host → Nat → Option CachedReplica}
    (current : ∀ host block cached, replicas host block = some cached →
      Genuine (config.published block) (geometry.blockLength block) cached.version cached.storage)
    (old : ∀ host block cached, oldReplicas host block = some cached →
      Genuine (config.published block) (geometry.blockLength block) cached.version cached.storage) :
    StableInv geometry { config with replicas := replicas, oldReplicas := oldReplicas } :=
  ⟨inv.blocks, inv.readers, current, old, inv.accepted⟩

theorem StableInv.eraseReplicas (inv : StableInv geometry config) (host : cluster.Host)
    (block : Nat) : StableInv geometry (config.eraseReplicas host block) := by
  apply inv.withIndexes
  · intro other otherBlock cached present
    exact inv.replicas other otherBlock cached (setEntry_none present)
  · intro other otherBlock cached present
    exact inv.oldReplicas other otherBlock cached (setEntry_none present)

theorem StableInv.cacheReplica (inv : StableInv geometry config) {block : Nat}
    {replica : CachedReplica}
    (genuine : Genuine (config.published block) (geometry.blockLength block) replica.version
      replica.storage) : StableInv geometry (config.cacheReplica host block replica) := by
  apply inv.withIndexes
  · intro other otherBlock cached present
    rcases setEntry_some present with ⟨-, rfl, same⟩ | earlier
    · cases same
      exact genuine
    · exact inv.replicas other otherBlock cached earlier
  · intro other otherBlock cached present
    exact inv.oldReplicas other otherBlock cached (setEntry_none present)

/-- Observations do not matter here. -/
theorem StableInv.observe (inv : StableInv geometry config) (event : CoherenceEvent cluster) :
    StableInv geometry (config.observe event) :=
  ⟨inv.blocks, inv.readers, inv.replicas, inv.oldReplicas, inv.accepted⟩

/-- Copying one more byte under an unchanged epoch extends the copy of the published content. -/
theorem Genuine.copyByte {shared : SharedBlock} {published : List (Nat → UInt8)}
    {versionBefore : Nat} {copied : List UInt8}
    (genuine : Genuine published copied.length versionBefore copied)
    (settled : Settled shared published) (current : shared.version = versionBefore) :
    Genuine published (copied ++ [shared.content copied.length]).length versionBefore
      (copied ++ [shared.content copied.length]) := by
  obtain ⟨content, present, same⟩ := genuine
  have bytes : content = shared.content := by
    rw [Settled, current, present, Option.some_inj] at settled
    exact settled
  subst bytes
  refine ⟨shared.content, present, ?_⟩
  rw [List.length_append, List.length_singleton, bytesOf_succ, ← same]

/-- Every access of a reader keeps the invariant. -/
theorem readAccess_stable (inv : StableInv geometry config)
    (reading : config.activity host = .reading process) :
    StableInv geometry (readAccess geometry config host process) := by
  have fits := inv.readers host process reading
  have kept := inv.blocks process.block
  cases point : process.point with
  | lookup =>
      simp only [readAccess, point]
      split
      · rename_i cached present
        exact inv.readAt (inv.replicas host process.block cached present)
      · exact inv.readAt trivial
  | loadEpoch =>
      simp only [readAccess, point]
      split
      · exact inv
      · exact inv.readAt ⟨by omega, le_rfl⟩
  | loadVersion epochBefore =>
      rw [point] at fits
      simp only [readAccess, point]
      exact inv.readAt ⟨fits.1, fits.2, fun _ => rfl⟩
  | lookupOld epochBefore versionBefore =>
      rw [point] at fits
      have fresh : StableInv geometry
          (config.readAt host process (.copy epochBefore versionBefore [])) := by
        refine inv.readAt ⟨fits, Nat.zero_le _, ?_⟩
        intro same
        have settled := kept.settled (same ▸ Window.even fits)
        rw [Settled, Window.version fits same] at settled
        exact ⟨_, settled, rfl⟩
      simp only [readAccess, point]
      split
      · rename_i old present
        split
        · rename_i label
          have genuine := inv.oldReplicas host process.block old present
          rw [label] at genuine
          exact inv.readAt ⟨fits, fun _ => genuine⟩
        · exact fresh
      · exact fresh
  | copy epochBefore versionBefore copied =>
      rw [point] at fits
      obtain ⟨window, short, bytes⟩ := fits
      simp only [readAccess, point]
      split
      · refine inv.readAt ⟨window, ?_, ?_⟩
        · rw [List.length_append, List.length_singleton]
          omega
        · intro same
          exact (bytes same).copyByte (kept.settled (same ▸ window.even)) (window.version same)
      · rename_i complete
        have whole : copied.length = geometry.blockLength process.block := by omega
        rw [whole] at bytes
        exact inv.readAt ⟨window, bytes⟩
  | reloadEpoch epochBefore versionBefore replica reused =>
      rw [point] at fits
      simp only [readAccess, point]
      exact inv.readAt fun same => fits.2 same.symm
  | reloadVersion epochBefore versionBefore replica reused epochAfter =>
      rw [point] at fits
      simp only [readAccess, point]
      split
      · exact inv.readAt trivial
      · rename_i stable
        push Not at stable
        have genuine := fits stable.1
        rw [stable.2.2] at genuine
        have moved : StableInv geometry (config.readAt host process
            (.cache (config.blocks process.block).version replica)) := inv.readAt genuine
        refine ⟨moved.blocks, moved.readers, moved.replicas, moved.oldReplicas, ?_⟩
        intro copy member
        rcases List.mem_append.mp member with earlier | last
        · exact inv.accepted copy earlier
        · obtain rfl := List.mem_singleton.mp last
          exact genuine
  | cache version replica =>
      rw [point] at fits
      simp only [readAccess, point]
      have cached : StableInv geometry
          (config.cacheReplica host process.block ⟨version, replica⟩) := inv.cacheReplica fits
      exact cached.readAt fits
  | assemble version replica =>
      simp only [readAccess, point, assembleBlock]
      split
      · exact (inv.setActivity host (by simp)).observe _
      · exact inv.reads trivial

end Readers

/-! ## Runs -/

section Runs

variable {geometry : ObjectGeometry} {config after : CoherenceConfig cluster}

theorem initial_stable (geometry : ObjectGeometry) (content : Nat → Nat → UInt8) :
    StableInv geometry (initial cluster content) := by
  constructor
  case blocks =>
    intro block
    exact ⟨rfl, rfl, rfl⟩
  case readers => simp [initial]
  case replicas => simp [initial]
  case oldReplicas => simp [initial]
  case accepted => simp [initial]

theorem StableInv.writerFits (inv : StableInv geometry config) {block : Nat}
    {session : WriterSession cluster} {point : WriterPoint}
    (present : config.writers block = some session) (current : session.point = point) :
    WriterFits (config.blocks block) (config.published block) (some point) := by
  have fits := (inv.blocks block).writer
  rwa [present, Option.map_some, current] at fits

theorem StableInv.freeFits (inv : StableInv geometry config) {block : Nat}
    (free : config.writers block = none) :
    WriterFits (config.blocks block) (config.published block) none := by
  have fits := (inv.blocks block).writer
  rwa [free] at fits

/-- Every action keeps the invariant. -/
theorem effect_stable (inv : StableInv geometry config) (effect : Effect geometry config after) :
    StableInv geometry after := by
  cases effect with
  | startRead host offset bytes idle positive => exact inv.reads trivial
  | read host process reading => exact readAccess_stable inv reading
  | failRead host process reading => exact inv.setActivity host (by simp)
  | evictOld host block =>
      refine inv.withIndexes inv.replicas ?_
      intro other otherBlock cached present
      exact inv.oldReplicas other otherBlock cached (setEntry_none present)
  | evictCurrent host block =>
      refine inv.withIndexes ?_ inv.oldReplicas
      intro other otherBlock cached present
      exact inv.replicas other otherBlock cached (setEntry_none present)
  | invalidateReadCache host idle =>
      apply inv.withIndexes
      · intro other block cached present
        exact inv.replicas other block cached (update_none_some present)
      · intro other block cached present
        exact inv.oldReplicas other block cached (update_none_some present)
  | synchronizeAcquire host idle =>
      apply StableInv.observe
      apply inv.withIndexes
      · intro other block cached present
        exact inv.replicas other block cached (update_none_some present)
      · intro other block cached present
        by_cases same : other = host
        · subst same
          rw [Function.update_self] at present
          exact inv.replicas other block cached present
        · rw [Function.update_of_ne same] at present
          exact inv.oldReplicas other block cached present
  | obtain host buffer block free
  | obtainRaw host block free => exact inv.setWriter (inv.freeFits free)
  | collect block session present granted =>
      have fits := inv.writerFits present granted
      exact inv.setWriter fits.1
  | abandon block session present granted =>
      have fits := inv.writerFits present granted
      exact inv.setWriter fits.2
  | abort block session present owned =>
      have fits := inv.writerFits present owned
      exact inv.setWriter fits.2
  | startCommit host buffer blocks idle distinct => exact inv.setActivity host (by simp)
  | eraseBlock host process block committing erasing =>
      exact (inv.eraseReplicas host block).setActivity host (by simp)
  | finishCommit host process committing erasing remaining =>
      exact (inv.setActivity host (by simp)).observe _
  | beginWriteback block session present owned =>
      have fits := inv.writerFits present owned
      exact inv.setWriter fits
  | write block session after present proceeds access =>
      exact writeAccess_stable inv present access
  | storeByte block index value session present writing =>
      have odd : (config.blocks block).writebackEpoch % 2 = 1 := inv.writerFits present writing
      have taken : WriterStep config (config.setBlock block
          { config.blocks block with
            content := Function.update (config.blocks block).content index value }) block := {
        blocks := fun other different => Function.update_of_ne different _ _
        writers := fun _ _ => rfl
        published := fun _ _ => rfl
        readers := fun _ _ reading => reading
        replicas := rfl
        oldReplicas := rfl
        accepted := rfl }
      apply inv.writerStep taken
      · simp only [CoherenceConfig.setBlock, Function.update_self, present, Option.map_some,
          writing]
        exact ⟨(inv.blocks block).length, odd⟩
      · simp only [CoherenceConfig.setBlock, Function.update_self]
        exact ⟨le_rfl, fun _ _ => rfl, List.prefix_rfl⟩
  | release block session present writing =>
      have fits := inv.writerFits present writing
      exact inv.setWriter fits
  | eraseReleased host block idle => exact inv.eraseReplicas host block

/-- Every run keeps the invariant. -/
theorem reached_stable {content : Nat → Nat → UInt8} (execution : Reached geometry content config) :
    StableInv geometry config :=
  Run.ReachesBy.preserves execution _ (initial_stable geometry content)
    fun _ _ _ inv _ taken => effect_stable inv (step_effect taken)

end Runs

/-- Every block copy that a reader accepted at version `v`, be it fresh or an old replica, and
every cached replica labelled `v` holds the bytes of its block after the `v`-th modified release,
of which there have been as many as the block's version says. -/
theorem reads_are_published {geometry : ObjectGeometry} {content : Nat → Nat → UInt8}
    {config : CoherenceConfig cluster} (execution : Reached geometry content config) :
    (∀ copy ∈ config.accepted, ∃ bytes,
      (config.published copy.block)[copy.version]? = some bytes ∧
        copy.replica = bytesOf bytes (geometry.blockLength copy.block)) ∧
      (∀ host block cached,
        config.replicas host block = some cached ∨ config.oldReplicas host block = some cached →
        ∃ bytes, (config.published block)[cached.version]? = some bytes ∧
          cached.storage = bytesOf bytes (geometry.blockLength block)) ∧
      ∀ block, (config.published block).length = (config.blocks block).version + 1 := by
  have inv := reached_stable execution
  refine ⟨inv.accepted, ?_, fun block => (inv.blocks block).length⟩
  intro host block cached present
  rcases present with current | old
  · exact inv.replicas host block cached current
  · exact inv.oldReplicas host block cached old

/-- A buffered writer publishes between the two byte copies of a read, which copies again; after a
boundary a second read reuses the replica. -/
def tornCopyOps : List (CoherenceOp readerAndWriter) :=
  CoherenceOp.startRead reader 0 2 :: List.replicate 5 (CoherenceOp.read reader) ++
    [CoherenceOp.obtain writer 5 0, .startCommit writer 5 [0], .commit writer, .write 0, .write 0,
      .storeByte 0 1 9, .release 0, .write 0, .write 0, .write 0] ++
    List.replicate 14 (CoherenceOp.read reader) ++
    [CoherenceOp.commit writer, .commit writer, .synchronizeAcquire reader,
      .startRead reader 0 2] ++
    List.replicate 8 (CoherenceOp.read reader)

theorem reads_are_published_torn :
    ∃ config : CoherenceConfig readerAndWriter,
      Run.runLabels (step twoBytes) (initial readerAndWriter fun _ _ => 0) tornCopyOps =
        some config ∧
      config.accepted.map (fun copy => (copy.version, copy.replica, copy.reused)) =
        [(1, [0, 9], false), (1, [0, 9], true)] ∧
      ∀ copy ∈ config.accepted, ∃ bytes,
        (config.published copy.block)[copy.version]? = some bytes ∧
          copy.replica = bytesOf bytes (twoBytes.blockLength copy.block) := by
  have outcome : (Run.runLabels (step twoBytes) (initial readerAndWriter fun _ _ => 0)
      tornCopyOps).any (fun config =>
        config.accepted.map (fun copy => (copy.version, copy.replica, copy.reused)) =
          [(1, [0, 9], false), (1, [0, 9], true)]) = true := by
    decide +kernel
  obtain ⟨config, execution, facts⟩ := (Option.any_eq_true _ _).mp outcome
  have published := reads_are_published (Run.reaches_of_runLabels execution)
  exact ⟨config, execution, of_decide_eq_true facts, published.1⟩

end CoherenceConfig
end Cxloom.LoomMem
