import Cxloom.LoomMem.CoherenceSnapshots
import Cxloom.LoomMem.WriteBuffer

/-!
# Commits of write buffers

Only the actions that are performed for a write buffer touch the blocks whose tokens it holds and
the `ReleaseWriteBuffer` that commits it.  A commit that stores the bytes of its buffer publishes
them in every block.
-/

namespace Cxloom.LoomMem
namespace CoherenceConfig

variable {cluster : Cluster}

/-- The write buffer for which an action is performed. -/
def actor (config : CoherenceConfig cluster) : CoherenceOp cluster → Option Nat
  | .obtain _ buffer _ | .startCommit _ buffer _ => some buffer
  | .commit host =>
      match config.activity host with
      | .committing process => some process.buffer
      | _ => none
  | .collect block | .abandon block | .abort block | .write block | .storeByte block _ _
  | .release block => (config.writers block).bind WriterSession.buffer
  | _ => none

/-- What belongs to a write buffer is unchanged. -/
structure Frames (config after : CoherenceConfig cluster) (buffer : Nat) : Prop where
  activity : ∀ host process, config.activity host = .committing process →
    process.buffer = buffer → after.activity host = .committing process
  sessions : ∀ block session, config.writers block = some session →
    session.buffer = some buffer → after.writers block = some session ∧
      after.blocks block = config.blocks block ∧ after.published block = config.published block

section Frames

variable {geometry : ObjectGeometry} {config after : CoherenceConfig cluster} {buffer : Nat}

theorem Frames.trans {middle : CoherenceConfig cluster} (first : Frames config middle buffer)
    (second : Frames middle after buffer) : Frames config after buffer := by
  constructor
  · intro host process running same
    exact second.activity host process (first.activity host process running same) same
  · intro block session present same
    obtain ⟨writers, blocks, published⟩ := first.sessions block session present same
    obtain ⟨writers', blocks', published'⟩ := second.sessions block session writers same
    exact ⟨writers', blocks'.trans blocks, published'.trans published⟩

/-- A change of the indexes or of the observations. -/
theorem Frames.of_eq (activity : after.activity = config.activity)
    (writers : after.writers = config.writers) (blocks : after.blocks = config.blocks)
    (published : after.published = config.published) : Frames config after buffer := by
  constructor
  · intro host process running _
    rwa [activity]
  · intro block session present _
    rw [writers, blocks, published]
    exact ⟨present, rfl, rfl⟩

/-- The object mutex of a host that does not commit the buffer changes hands. -/
theorem Frames.ofActivity {host : cluster.Host} {activity : LocalActivity}
    (other : ∀ process, config.activity host = .committing process → process.buffer ≠ buffer)
    (changed : after.activity = Function.update config.activity host activity)
    (writers : after.writers = config.writers) (blocks : after.blocks = config.blocks)
    (published : after.published = config.published) : Frames config after buffer := by
  constructor
  · intro committer process running same
    rw [changed]
    by_cases here : committer = host
    · subst here
      exact absurd same (other process running)
    · rwa [Function.update_of_ne here]
  · intro block session present _
    rw [writers, blocks, published]
    exact ⟨present, rfl, rfl⟩

/-- A block that does not belong to the buffer changes. -/
theorem Frames.ofBlock {block : Nat}
    (other : ∀ session, config.writers block = some session → session.buffer ≠ some buffer)
    (activity : after.activity = config.activity)
    (elsewhere : ∀ elsewhere, elsewhere ≠ block →
      after.writers elsewhere = config.writers elsewhere ∧
        after.blocks elsewhere = config.blocks elsewhere ∧
        after.published elsewhere = config.published elsewhere) : Frames config after buffer := by
  constructor
  · intro host process running _
    rwa [activity]
  · intro owned session present same
    have different : owned ≠ block := by
      rintro rfl
      exact other session present same
    obtain ⟨writers, blocks, published⟩ := elsewhere owned different
    exact ⟨writers.trans present, blocks, published⟩

theorem frames_setWriter (session : Option (WriterSession cluster)) {block : Nat}
    (other : ∀ session, config.writers block = some session → session.buffer ≠ some buffer) :
    Frames config (config.setWriter block session) buffer := by
  refine Frames.ofBlock other rfl ?_
  intro elsewhere different
  simp [setWriter, different]

theorem frames_setBlock (shared : SharedBlock) {block : Nat}
    (other : ∀ session, config.writers block = some session → session.buffer ≠ some buffer) :
    Frames config (config.setBlock block shared) buffer := by
  refine Frames.ofBlock other rfl ?_
  intro elsewhere different
  simp [setBlock, different]

theorem frames_blockReleased (config : CoherenceConfig cluster) (block : Nat)
    {session : WriterSession cluster} (other : session.buffer ≠ some buffer) :
    Frames config (config.blockReleased block session) buffer := by
  simp only [blockReleased]
  split
  · rename_i process committing
    split
    · rename_i released
      refine .ofActivity ?_ rfl rfl rfl rfl
      intro running same
      rw [committing] at same
      cases same
      intro same
      exact other (released.1.trans (congrArg some same))
    · exact .of_eq rfl rfl rfl rfl
  · exact .of_eq rfl rfl rfl rfl

theorem frames_writeAccess {block : Nat} {session : WriterSession cluster}
    (present : config.writers block = some session) (other : session.buffer ≠ some buffer)
    (proceeds : config.mayProceed block session = true)
    (access : config.writeAccess block session = some after) : Frames config after buffer := by
  have elsewhere : ∀ writer, config.writers block = some writer → writer.buffer ≠ some buffer := by
    intro writer same
    rw [present] at same
    cases same
    exact other
  have moves : ∀ point, Frames config (config.writeAt block session point) buffer :=
    fun point => frames_setWriter _ elsewhere
  cases point : session.point with
  | owned | granted | writing => simp [writeAccess, point] at access
  | activate =>
      simp only [writeAccess, point] at access
      split at access
      · cases access
        split
        · exact .of_eq rfl rfl rfl rfl
        · rename_i own bufferOf
          refine (moves _).trans (.ofActivity ?_ rfl rfl rfl rfl)
          intro process running same
          have running : config.activity session.host = .committing process := running
          simp only [mayProceed, bufferOf, point, running] at proceeds
          have owned := (of_decide_eq_true proceeds).1
          exact other (bufferOf.trans (congrArg some (owned.symm.trans same)))
      · cases access
        exact moves _
  | compareExchange epoch =>
      simp only [writeAccess, point] at access
      split at access
      · cases access
        refine (frames_setBlock _ elsewhere).trans (frames_setWriter _ ?_)
        exact elsewhere
      · cases access
        exact moves _
  | loadEpoch modified =>
      simp only [writeAccess, point] at access
      split at access
      · split at access
        · cases access
          exact moves _
        · cases access
          exact moves _
      · cases access
        exact moves _
  | addVersion epoch =>
      simp only [writeAccess, point] at access
      cases access
      refine Frames.ofBlock elsewhere rfl ?_
      intro elsewhere different
      simp [writeAt, setWriter, setBlock, different]
  | storeEpoch epoch modified =>
      simp only [writeAccess, point] at access
      have closed : ∀ shared, Frames config ((config.setBlock block shared).setWriter block none)
          buffer :=
        fun shared => (frames_setBlock shared elsewhere).trans (frames_setWriter _ elsewhere)
      cases access
      split
      · exact (closed _).trans (frames_blockReleased _ block other)
      · exact closed _

theorem frames_commitAction {host : cluster.Host} {process : CommitProcess}
    (committing : config.activity host = .committing process) (other : process.buffer ≠ buffer)
    (taken : commitAction config host process = some after) : Frames config after buffer := by
  have elsewhere : ∀ running, config.activity host = .committing running →
      running.buffer ≠ buffer := by
    intro running same
    rw [committing] at same
    cases same
    exact other
  simp only [commitAction] at taken
  split at taken
  · cases taken
    exact .ofActivity elsewhere rfl rfl rfl rfl
  · cases taken
    exact .ofActivity elsewhere rfl rfl rfl rfl
  · split at taken
    · rename_i session present
      obtain ⟨⟨-, bufferOf, -⟩, same⟩ := Option.ite_none_right_eq_some.mp taken
      cases same
      apply frames_setWriter
      intro writer same
      rw [present] at same
      cases same
      rw [bufferOf]
      exact fun same => other (Option.some.inj same)
    · simp at taken

theorem frames_readAccess {host : cluster.Host} {process : ReadProcess}
    (other : ∀ process, config.activity host = .committing process → process.buffer ≠ buffer) :
    Frames config (readAccess geometry config host process) buffer := by
  have moves : ∀ point, Frames config (config.readAt host process point) buffer :=
    fun point => .ofActivity other rfl rfl rfl rfl
  simp only [readAccess]
  split
  · split
    · exact moves _
    · exact moves _
  · split
    · exact .of_eq rfl rfl rfl rfl
    · exact moves _
  · exact moves _
  · split
    · split
      · exact moves _
      · exact moves _
    · exact moves _
  · split
    · exact moves _
    · exact moves _
  · exact moves _
  · split
    · exact moves _
    · exact .ofActivity other rfl rfl rfl rfl
  · exact .ofActivity other rfl rfl rfl rfl
  · simp only [assembleBlock]
    split
    · exact .ofActivity other rfl rfl rfl rfl
    · exact .ofActivity other rfl rfl rfl rfl

/-- An action for another buffer, or for none. -/
theorem step_frames {op : CoherenceOp cluster} (other : config.actor op ≠ some buffer)
    (taken : step geometry config op = some after) : Frames config after buffer := by
  have idle : ∀ {host : cluster.Host}, config.activity host = .idle →
      ∀ process, config.activity host = .committing process → process.buffer ≠ buffer := by
    intro host idle process running
    rw [idle] at running
    cases running
  have session : ∀ {block : Nat}, (config.writers block).bind WriterSession.buffer ≠ some buffer →
      ∀ session, config.writers block = some session → session.buffer ≠ some buffer := by
    intro block different session present
    rwa [present] at different
  cases op with
  | startRead host offset bytes =>
      obtain ⟨guard, same⟩ := Option.ite_none_right_eq_some.mp taken
      cases same
      exact .ofActivity (idle guard.1) rfl rfl rfl rfl
  | read host =>
      simp only [step] at taken
      split at taken
      · rename_i process reading
        cases taken
        refine frames_readAccess ?_
        intro running same
        rw [reading] at same
        cases same
      · simp at taken
  | failRead host =>
      simp only [step] at taken
      split at taken
      · rename_i process reading
        cases taken
        refine .ofActivity ?_ rfl rfl rfl rfl
        intro running same
        rw [reading] at same
        cases same
      · simp at taken
  | evict host block fromOld =>
      simp only [step] at taken
      split at taken
      · cases taken
        exact .of_eq rfl rfl rfl rfl
      · cases taken
        exact .of_eq rfl rfl rfl rfl
  | invalidateReadCache host | synchronizeAcquire host | eraseReleased host block =>
      obtain ⟨-, same⟩ := Option.ite_none_right_eq_some.mp taken
      cases same
      exact .of_eq rfl rfl rfl rfl
  | obtain host writer block | obtainRaw host block =>
      simp only [step] at taken
      split at taken
      · rename_i free
        cases taken
        apply frames_setWriter
        intro session present
        rw [free] at present
        cases present
      · simp at taken
  | collect block | abandon block | abort block =>
      simp only [step] at taken
      split at taken
      · obtain ⟨-, same⟩ := Option.ite_none_right_eq_some.mp taken
        cases same
        exact frames_setWriter _ (session other)
      · simp at taken
  | startCommit host writer blocks =>
      obtain ⟨guard, same⟩ := Option.ite_none_right_eq_some.mp taken
      cases same
      exact .ofActivity (idle guard.1) rfl rfl rfl rfl
  | commit host =>
      simp only [step] at taken
      split at taken
      · rename_i process committing
        refine frames_commitAction committing ?_ taken
        intro same
        simp only [actor, committing] at other
        exact other (congrArg some same)
      · simp at taken
  | write block =>
      simp only [step] at taken
      split at taken
      · rename_i writer present
        obtain ⟨proceeds, access⟩ := Option.ite_none_right_eq_some.mp taken
        exact frames_writeAccess present (session other writer present) proceeds access
      · simp at taken
  | storeByte block index value =>
      simp only [step] at taken
      split at taken
      · obtain ⟨-, same⟩ := Option.ite_none_right_eq_some.mp taken
        cases same
        exact frames_setBlock _ (session other)
      · simp at taken
  | release block =>
      simp only [step] at taken
      split at taken
      · obtain ⟨-, same⟩ := Option.ite_none_right_eq_some.mp taken
        cases same
        exact frames_setWriter _ (session other)
      · simp at taken

end Frames

/-! ## The loop of `ReleaseWriteBuffer` -/

/-- The blocks that a finished `ReleaseWriteBuffer` of a host has produced. -/
def finished (config : CoherenceConfig cluster) (host : cluster.Host) (buffer : Nat) :
    Option (List (Nat × Nat)) :=
  match config.activity host with
  | .committing process =>
      if process.buffer = buffer ∧ process.erasing = none ∧ process.remaining = [] then
        some process.produced
      else none
  | _ => none

/-- The next access of a running `ReleaseWriteBuffer`, with the number of bytes of the current block
that are stored after it. -/
def commitOp (config : CoherenceConfig cluster) (geometry : ObjectGeometry) (host : cluster.Host)
    (buffer : Nat) (write : WriteBuffer) (stored : Nat) : Option (CoherenceOp cluster × Nat) :=
  match config.activity host with
  | .committing process =>
      if process.buffer = buffer then
        match process.erasing, process.remaining with
        | some _, _ => some (.commit host, stored)
        | none, [] => none
        | none, block :: _ =>
            match config.writers block with
            | some session =>
                if session.host = host ∧ session.buffer = some buffer then
                  match session.point with
                  | .owned => some (.commit host, stored)
                  | .writing =>
                      let position := geometry.copyBegin write block + stored
                      if position < geometry.copyEnd write block then
                        some (.storeByte block (position - geometry.blockStart block)
                          (write.storage.getD (position - write.offset) 0), stored + 1)
                      else some (.release block, 0)
                  | _ => some (.write block, stored)
                else none
            | none => none
      else none
  | _ => none

/-- A content holds the bytes of a buffer from the first one of the block up to a position. -/
def Writes (geometry : ObjectGeometry) (write : WriteBuffer) (block : Nat) (content : Nat → UInt8)
    (stop : Nat) : Prop :=
  ∀ position, geometry.copyBegin write block ≤ position → position < stop →
    content (position - geometry.blockStart block) =
      write.storage.getD (position - write.offset) 0

/-- A version of a block holds all bytes of a buffer. -/
def Publishes (geometry : ObjectGeometry) (config : CoherenceConfig cluster) (write : WriteBuffer)
    (block version : Nat) : Prop :=
  ∃ content, (config.published block)[version]? = some content ∧
    Writes geometry write block content (geometry.copyEnd write block)

/-- What the progress at the current block says about its bytes. -/
def HeadFits (geometry : ObjectGeometry) (config : CoherenceConfig cluster) (write : WriteBuffer)
    (block stored : Nat) : WriterPoint → Prop
  | .owned | .activate | .compareExchange _ => stored = 0
  | .writing => Writes geometry write block (config.blocks block).content
      (geometry.copyBegin write block + stored)
  | .loadEpoch true | .addVersion _ => stored = 0 ∧
      Writes geometry write block (config.blocks block).content (geometry.copyEnd write block)
  | .storeEpoch _ true => stored = 0 ∧
      config.Publishes geometry write block (config.blocks block).version
  | _ => False

/-- A running commit of a buffer. -/
structure CommitProgress (geometry : ObjectGeometry) (config : CoherenceConfig cluster)
    (host : cluster.Host) (buffer : Nat) (write : WriteBuffer) (stored : Nat)
    (process : CommitProcess) : Prop where
  /-- The commit holds the object mutex. -/
  running : config.activity host = .committing process
  commits : process.buffer = buffer
  /-- Every block was published or is still to come. -/
  blocks : process.produced.map Prod.fst ++
    (if process.erasing.isSome then process.remaining.tail else process.remaining) =
      write.leases.map HeldLease.block
  /-- No block comes twice. -/
  distinct : process.remaining.Nodup
  /-- Published blocks hold the bytes of the buffer. -/
  produced : ∀ block version, (block, version) ∈ process.produced →
    config.Publishes geometry write block version
  owned : ∀ block ∈ process.remaining.tail,
    config.writers block = some ⟨host, some buffer, .owned⟩
  released : process.erasing.isSome → stored = 0
  head : process.erasing = none → ∀ block ∈ process.remaining.head?, ∃ point,
    config.writers block = some ⟨host, some buffer, point⟩ ∧
      HeadFits geometry config write block stored point

section Progress

variable {geometry : ObjectGeometry} {config after : CoherenceConfig cluster}
  {host : cluster.Host} {buffer stored : Nat} {write : WriteBuffer} {process : CommitProcess}

theorem Publishes.extend {block version : Nat}
    (publishes : config.Publishes geometry write block version)
    (extension : config.published block <+: after.published block) :
    after.Publishes geometry write block version := by
  obtain ⟨content, present, bytes⟩ := publishes
  obtain ⟨suffix, longer⟩ := extension
  refine ⟨content, ?_, bytes⟩
  rw [← longer, List.getElem?_append_left (List.getElem?_eq_some_iff.mp present).1]
  exact present

/-- The current block only matters through its words and its history. -/
theorem HeadFits.congr {block : Nat} {point : WriterPoint}
    (fits : HeadFits geometry config write block stored point)
    (blocks : after.blocks block = config.blocks block)
    (published : after.published block = config.published block) :
    HeadFits geometry after write block stored point := by
  cases point with
  | owned | activate | compareExchange | granted => exact fits
  | writing =>
      simp only [HeadFits, blocks] at fits ⊢
      exact fits
  | loadEpoch modified =>
      cases modified with
      | false => exact fits
      | true =>
          simp only [HeadFits, blocks] at fits ⊢
          exact fits
  | addVersion epoch =>
      simp only [HeadFits, blocks] at fits ⊢
      exact fits
  | storeEpoch epoch modified =>
      cases modified with
      | false => exact fits
      | true =>
          simp only [HeadFits, blocks, Publishes, published] at fits ⊢
          exact fits

/-- Actions for other buffers do not disturb a commit. -/
theorem CommitProgress.frame
    (progress : CommitProgress geometry config host buffer write stored process)
    (frames : Frames config after buffer) (evolves : Evolves config after) :
    CommitProgress geometry after host buffer write stored process where
  running := frames.activity host process progress.running progress.commits
  commits := progress.commits
  blocks := progress.blocks
  distinct := progress.distinct
  produced := fun block version member =>
    (progress.produced block version member).extend (evolves.published block)
  owned := fun block member => (frames.sessions block _ (progress.owned block member) rfl).1
  released := progress.released
  head := by
    intro erasing block current
    obtain ⟨point, present, fits⟩ := progress.head erasing block current
    obtain ⟨session, blocks, published⟩ := frames.sessions block _ present rfl
    exact ⟨point, session, fits.congr blocks published⟩

theorem CommitProgress.tail_ne
    (progress : CommitProgress geometry config host buffer write stored process) {block other : Nat}
    {rest : List Nat} (current : process.remaining = block :: rest)
    (member : other ∈ process.remaining.tail) : other ≠ block := by
  rintro rfl
  have distinct := progress.distinct
  rw [current] at member distinct
  exact (List.nodup_cons.mp distinct).1 member

theorem CommitProgress.move
    (progress : CommitProgress geometry config host buffer write stored process)
    (erasing : process.erasing = none) {block : Nat} {rest : List Nat}
    (current : process.remaining = block :: rest) (evolves : Evolves config after)
    (activity : after.activity = config.activity)
    (writers : ∀ other, other ≠ block → after.writers other = config.writers other)
    (point : WriterPoint) {later : Nat}
    (session : after.writers block = some ⟨host, some buffer, point⟩)
    (fits : HeadFits geometry after write block later point) :
    CommitProgress geometry after host buffer write later process where
  running := by rw [activity, progress.running]
  commits := progress.commits
  blocks := progress.blocks
  distinct := progress.distinct
  produced := fun block version member =>
    (progress.produced block version member).extend (evolves.published block)
  owned := by
    intro other member
    rw [writers other (progress.tail_ne current member)]
    exact progress.owned other member
  released := by simp [erasing]
  head := by
    intro _ other same
    rw [current] at same
    cases same
    exact ⟨point, session, fits⟩

/-- One more byte of the current block is stored. -/
theorem Writes.store {block : Nat} {content : Nat → UInt8}
    (writes : Writes geometry write block content (geometry.copyBegin write block + stored)) :
    Writes geometry write block
      (Function.update content (geometry.copyBegin write block + stored - geometry.blockStart block)
        (write.storage.getD (geometry.copyBegin write block + stored - write.offset) 0))
      (geometry.copyBegin write block + (stored + 1)) := by
  have inside : geometry.blockStart block ≤ geometry.copyBegin write block := le_max_right _ _
  intro position above below
  by_cases last : position = geometry.copyBegin write block + stored
  · subst last
    rw [Function.update_self]
  · rw [Function.update_of_ne (by omega)]
    exact writes position above (by omega)

/-- Nothing is stored yet. -/
theorem Writes.nothing (write : WriteBuffer) (block : Nat) (content : Nat → UInt8) :
    Writes geometry write block content (geometry.copyBegin write block + 0) := by
  intro position above below
  omega

theorem CommitProgress.moveTo
    (progress : CommitProgress geometry config host buffer write stored process)
    (erasing : process.erasing = none) {block : Nat} {rest : List Nat}
    (current : process.remaining = block :: rest) (point : WriterPoint) {next : WriterPoint}
    {later : Nat} (fits : HeadFits geometry config write block later next) :
    CommitProgress geometry (config.writeAt block ⟨host, some buffer, point⟩ next) host buffer
      write later process := by
  refine progress.move erasing current ?_ ?_ ?_ next ?_ ?_
  · exact .of_eq rfl rfl rfl
  · rfl
  · intro other different
    simp [writeAt, setWriter, different]
  · exact Function.update_self ..
  · exact fits.congr rfl rfl

/-- The writer of the current block performs an access of its epoch or version. -/
theorem CommitProgress.access
    (progress : CommitProgress geometry config host buffer write stored process)
    (stable : StableInv geometry config) (erasing : process.erasing = none) {block : Nat}
    {rest : List Nat} (current : process.remaining = block :: rest) {point : WriterPoint}
    (present : config.writers block = some ⟨host, some buffer, point⟩)
    (fits : HeadFits geometry config write block stored point)
    (access : config.writeAccess block ⟨host, some buffer, point⟩ = some after) :
    ∃ later, CommitProgress geometry after host buffer write stored later := by
  have evolves := evolves_writeAccess access
  have kept := (stable.blocks block).writer
  rw [present] at kept
  cases point with
  | owned | granted | writing => simp [writeAccess] at access
  | activate =>
      simp only [writeAccess] at access
      split at access
      · rename_i odd
        have even : (config.blocks block).writebackEpoch % 2 = 0 := kept.1
        omega
      · cases access
        exact ⟨process, progress.moveTo erasing current _ fits⟩
  | compareExchange epoch =>
      simp only [writeAccess] at access
      split at access
      · cases access
        refine ⟨process, progress.move erasing current evolves rfl ?_ .writing ?_ ?_⟩
        · intro other different
          simp [writeAt, setWriter, setBlock, different]
        · simp [writeAt, setWriter]
        · obtain rfl : stored = 0 := fits
          exact Writes.nothing write block _
      · cases access
        exact ⟨process, progress.moveTo erasing current _ fits⟩
  | loadEpoch modified =>
      cases modified with
      | false => exact fits.elim
      | true =>
          simp only [writeAccess, if_true] at access
          split at access
          · cases access
            exact ⟨process, progress.moveTo erasing current _ fits⟩
          · cases access
            refine ⟨process, progress.moveTo erasing current _ ?_⟩
            obtain ⟨rfl, -⟩ := fits
            exact Writes.nothing write block _
  | addVersion epoch =>
      simp only [writeAccess] at access
      cases access
      refine ⟨process, progress.move erasing current evolves rfl ?_ (.storeEpoch epoch true) ?_ ?_⟩
      · intro other different
        simp [writeAt, setWriter, setBlock, different]
      · simp [writeAt, setWriter]
      · refine ⟨fits.1, (config.blocks block).content, ?_, fits.2⟩
        have length := (stable.blocks block).length
        simp [writeAt, setWriter, setBlock, ← length]
  | storeEpoch epoch modified =>
      cases modified with
      | false => exact fits.elim
      | true =>
          simp only [writeAccess, if_true, blockReleased] at access
          simp only [setWriter, setBlock, progress.running, progress.commits, current,
            List.head?_cons, and_self, if_true] at access
          cases access
          refine ⟨{ process with
            erasing := some block
            produced := process.produced ++ [(block, (config.blocks block).version)] }, ?_⟩
          constructor
          case running => simp [setActivity, progress.commits, current]
          case commits => exact progress.commits
          case blocks =>
            have blocks := progress.blocks
            rw [erasing, current] at blocks
            simpa [current] using blocks
          case distinct => exact progress.distinct
          case produced =>
            intro other version member
            rcases List.mem_append.mp member with earlier | last
            · exact (progress.produced other version earlier).extend List.prefix_rfl
            · cases List.mem_singleton.mp last
              exact fits.2.extend List.prefix_rfl
          case owned =>
            intro other member
            have different := progress.tail_ne current member
            simp only [setActivity, Function.update_of_ne different]
            exact progress.owned other member
          case released => exact fun _ => fits.1
          case head => simp

/-- The commit performs its next access. -/
theorem CommitProgress.next
    (progress : CommitProgress geometry config host buffer write stored process)
    (stable : StableInv geometry config) {op : CoherenceOp cluster} {later : Nat}
    (chosen : config.commitOp geometry host buffer write stored = some (op, later))
    (taken : step geometry config op = some after) :
    ∃ process, CommitProgress geometry after host buffer write later process := by
  simp only [commitOp, progress.running, progress.commits, if_true] at chosen
  cases erasing : process.erasing with
  | some block =>
      simp only [erasing] at chosen
      cases chosen
      simp only [step, progress.running, commitAction, erasing] at taken
      cases taken
      refine ⟨{ process with erasing := none, remaining := process.remaining.tail }, ?_⟩
      constructor
      case running => exact Function.update_self ..
      case commits => exact progress.commits
      case blocks =>
        have blocks := progress.blocks
        rw [erasing] at blocks
        exact blocks
      case distinct => exact progress.distinct.tail
      case produced =>
        exact fun other version member =>
          (progress.produced other version member).extend List.prefix_rfl
      case owned => exact fun other member => progress.owned other (List.mem_of_mem_tail member)
      case released => simp
      case head =>
        intro _ other current
        exact ⟨.owned, progress.owned other (List.mem_of_mem_head? current),
          progress.released (by simp [erasing])⟩
  | none =>
      cases current : process.remaining with
      | nil => simp [erasing, current] at chosen
      | cons block rest =>
          obtain ⟨point, present, fits⟩ := progress.head erasing block (by rw [current]; rfl)
          simp only [erasing, current, present, and_self, if_true] at chosen
          have writes : ∀ {following : CoherenceConfig cluster},
              step geometry config (.write block) = some following →
              ∃ process, CommitProgress geometry following host buffer write stored process := by
            intro following written
            simp only [step, present] at written
            obtain ⟨-, access⟩ := Option.ite_none_right_eq_some.mp written
            exact progress.access stable erasing current present fits access
          cases point with
          | granted => exact fits.elim
          | owned =>
              cases chosen
              simp only [step, progress.running, commitAction, erasing, current, present,
                progress.commits, and_self, if_true] at taken
              cases taken
              exact ⟨process, progress.moveTo erasing current _ fits⟩
          | writing =>
              dsimp only at chosen
              split at chosen
              · cases chosen
                simp only [step, present] at taken
                obtain ⟨-, same⟩ := Option.ite_none_right_eq_some.mp taken
                cases same
                refine ⟨process, progress.move erasing current ?_ ?_ ?_ .writing present ?_⟩
                · exact .grows rfl rfl (version_setBlock config le_rfl)
                · rfl
                · exact fun _ _ => rfl
                · simp only [HeadFits, setBlock, Function.update_self]
                  exact Writes.store fits
              · rename_i complete
                cases chosen
                simp only [step, present] at taken
                obtain ⟨-, same⟩ := Option.ite_none_right_eq_some.mp taken
                cases same
                refine ⟨process, progress.moveTo erasing current _ ⟨rfl, ?_⟩⟩
                exact fun position above below => fits position above (by omega)
          | activate | compareExchange | loadEpoch | addVersion | storeEpoch =>
              cases chosen
              exact writes taken

/-- `ReleaseWriteBuffer` takes the locks. -/
theorem commitProgress_start
    (taken : step geometry config (.startCommit host buffer (write.leases.map HeldLease.block)) =
      some after) :
    CommitProgress geometry after host buffer write 0
      ⟨buffer, write.leases.map HeldLease.block, none, []⟩ := by
  obtain ⟨⟨-, distinct, owned⟩, same⟩ := Option.ite_none_right_eq_some.mp taken
  cases same
  constructor
  case running => exact Function.update_self ..
  case commits => rfl
  case blocks => rfl
  case distinct => exact distinct
  case produced => simp
  case owned => exact fun block member => owned block (List.mem_of_mem_tail member)
  case released => simp
  case head =>
    exact fun _ block current => ⟨.owned, owned block (List.mem_of_mem_head? current), rfl⟩

theorem CommitProgress.finish
    (progress : CommitProgress geometry config host buffer write stored process)
    {produced : List (Nat × Nat)} (done : config.finished host buffer = some produced) :
    produced.map Prod.fst = write.leases.map HeldLease.block ∧
      ∀ block version, (block, version) ∈ produced →
        config.Publishes geometry write block version := by
  simp only [finished, progress.running] at done
  obtain ⟨⟨-, erasing, remaining⟩, same⟩ := Option.ite_none_right_eq_some.mp done
  cases same
  have blocks := progress.blocks
  simp only [erasing, remaining, Option.isSome_none, Bool.false_eq_true, if_false,
    List.append_nil] at blocks
  exact ⟨blocks, progress.produced⟩

/-- A commit only performs actions for its own buffer. -/
theorem actor_finished {produced : List (Nat × Nat)}
    (done : config.finished host buffer = some produced) :
    config.actor (.commit host) = some buffer := by
  simp only [finished] at done
  split at done
  · rename_i running committing
    obtain ⟨⟨own, -⟩, -⟩ := Option.ite_none_right_eq_some.mp done
    simp only [actor, committing, own]
  · simp at done

theorem actor_commitOp {op : CoherenceOp cluster} {later : Nat}
    (chosen : config.commitOp geometry host buffer write stored = some (op, later)) :
    config.actor op = some buffer := by
  simp only [commitOp] at chosen
  split at chosen
  · rename_i running committing
    obtain ⟨own, chosen⟩ := Option.ite_none_right_eq_some.mp chosen
    split at chosen
    · cases chosen
      simp only [actor, committing, own]
    · simp at chosen
    · split at chosen
      · rename_i session present
        obtain ⟨held, chosen⟩ := Option.ite_none_right_eq_some.mp chosen
        split at chosen
        · cases chosen
          simp only [actor, committing, own]
        · split at chosen
          · cases chosen
            simp only [actor, present, Option.bind_some, held.2]
          · cases chosen
            simp only [actor, present, Option.bind_some, held.2]
        · cases chosen
          simp only [actor, present, Option.bind_some, held.2]
      · simp at chosen
  · simp at chosen

end Progress

end CoherenceConfig
end Cxloom.LoomMem
